import ComplianceRegistry.Binary64.Shortest
import ComplianceRegistry.Document.Basic
import ComplianceRegistry.Text.Printable

/-!
# The literal text of a document

The audit trail and some messages show values as text. A text is shown as it is; any other
document is shown as its literal, in which texts stand in quotes.

## Main definitions

* `Text.quoted` — a text between quotes with its specials escaped
* `Document.literal` — the literal of a document
* `Document.shown` — the text of a document, a text being its own

## Quotes

A text stands in single quotes, unless it holds a single quote and no double one. The quote in
use and the backslash are escaped by a backslash, as are line feed, carriage return and tab;
every other unprintable code point is written by its number in two, four or eight hexadecimal
digits.
-/

namespace ComplianceRegistry

namespace Text

/-- The hexadecimal numeral of a number, in small letters and of a given width. -/
def hexadecimal (width : Nat) (n : Nat) : Text :=
  let digits := ofString (String.ofList (Nat.toDigits 16 n))
  List.replicate (width - digits.length) (CodePoint.ofChar '0') ++ digits

/-- A code point inside quotes. -/
def escaped (quote : Char) (c : CodePoint) : Text :=
  if c.isChar quote || c.isChar '\\' then ofString "\\" ++ [c]
  else if c.isChar '\n' then "\\n"
  else if c.isChar '\r' then "\\r"
  else if c.isChar '\t' then "\\t"
  else if c.isPrintable then [c]
  else if c.val < 0x100 then ofString "\\x" ++ hexadecimal 2 c.val
  else if c.val < 0x10000 then ofString "\\u" ++ hexadecimal 4 c.val
  else ofString "\\U" ++ hexadecimal 8 c.val

/-- A text between quotes. -/
def quoted (t : Text) : Text :=
  let quote :=
    if t.any (·.isChar '\'') && !t.any (·.isChar '"') then '"' else '\''
  [CodePoint.ofChar quote] ++ t.flatMap (escaped quote) ++ [CodePoint.ofChar quote]

end Text

namespace Document

mutual

/-- The literal of a document. -/
def literal : Document → Text
  | .null => "None"
  | .truth true => "True"
  | .truth false => "False"
  | .integer n => Text.ofInt n
  | .float x => x.numeral .document
  | .text t => t.quoted
  | .list items => ("[" : Text) ++ Text.joined ", " (itemLiterals items) ++ ("]" : Text)
  | .object members =>
    ("\x7b" : Text) ++ Text.joined ", " (memberLiterals members) ++ ("\x7d" : Text)

/-- The literals of the items in order. -/
def itemLiterals : List Document → List Text
  | [] => []
  | d :: rest => literal d :: itemLiterals rest

/-- The literals of the members in order, each a key, a colon and a value. -/
def memberLiterals : List (Text × Document) → List Text
  | [] => []
  | (k, d) :: rest => (k.quoted ++ (": " : Text) ++ literal d) :: memberLiterals rest

end

/-- The text of a document: a text is its own, any other document has its literal. -/
def shown : Document → Text
  | .text t => t
  | d => d.literal

end Document

end ComplianceRegistry
