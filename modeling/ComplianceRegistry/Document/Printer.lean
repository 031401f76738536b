import ComplianceRegistry.Document.Literal
import ComplianceRegistry.Text.Utf8

/-!
# Documents as interchange text

A document is written in the interchange notation without blanks, its members in order. Answers of
the registry are written in ASCII only: every other code point is escaped by its number, and one
beyond the basic plane by its surrogate pair. Bodies of responses escape only what has to be, and
those of successful responses write the exponents of numbers in their own way.

## Main definitions

* `Spelling` — the choices in writing a document
* `Document.written` — a document in a spelling
* `Document.interchange` — a document in ASCII
-/

namespace ComplianceRegistry

namespace Text

/-- The escape of a sixteen bit unit. -/
def unitEscape (n : Nat) : Text := ofString "\\u" ++ hexadecimal 4 n

/-- A code point inside the double quotes of a notation in ASCII. -/
def asciiEscaped (c : CodePoint) : Text :=
  if c.isChar '"' || c.isChar '\\' then ofString "\\" ++ [c]
  else if 32 ≤ c.val ∧ c.val < 127 then [c]
  else if c.val < 0x10000 then unitEscape c.val
  else
    let offset := c.val - 0x10000
    unitEscape (0xD800 + offset / 0x400) ++ unitEscape (0xDC00 + offset % 0x400)

/-- A code point inside the double quotes of a notation that escapes only quotes, backslashes and
control characters. -/
def sparselyEscaped (c : CodePoint) : Text :=
  if c.isChar '"' || c.isChar '\\' then ofString "\\" ++ [c]
  else if c.val = 8 then "\\b"
  else if c.val = 9 then "\\t"
  else if c.val = 10 then "\\n"
  else if c.val = 12 then "\\f"
  else if c.val = 13 then "\\r"
  else if c.val < 32 then unitEscape c.val
  else [c]

end Text

/-- The choices in writing a document. -/
structure Spelling where
  /-- a code point inside of double quotes -/
  escape : CodePoint → Text
  numerals : NumeralStyle

namespace Spelling

/-- The spelling in ASCII, in which the numbers beyond the finite ones are words. -/
def ascii : Spelling where
  escape := Text.asciiEscaped
  numerals := { NumeralStyle.document with infinity := "Infinity", notANumber := "NaN" }

/-- The spelling with few escapes. -/
def sparse : Spelling := { ascii with escape := Text.sparselyEscaped }

/-- The spelling with few escapes and with exponents of as few signs as can be. -/
def terse : Spelling :=
  { sparse with
    numerals := { sparse.numerals with leadingZeros := 4, exponentDigits := 1, plus := [] } }

/-- A text between double quotes. -/
def quoted (s : Spelling) (t : Text) : Text :=
  ("\"" : Text) ++ t.flatMap s.escape ++ ("\"" : Text)

end Spelling

namespace Document

mutual

/-- A document in a spelling. -/
def written (s : Spelling) : Document → Text
  | .null => "null"
  | .truth true => "true"
  | .truth false => "false"
  | .integer n => Text.ofInt n
  | .float x => x.numeral s.numerals
  | .text t => s.quoted t
  | .list items => ("[" : Text) ++ Text.joined "," (itemTexts s items) ++ ("]" : Text)
  | .object members =>
    ("\x7b" : Text) ++ Text.joined "," (memberTexts s members) ++ ("\x7d" : Text)

/-- The items in order. -/
def itemTexts (s : Spelling) : List Document → List Text
  | [] => []
  | d :: rest => written s d :: itemTexts s rest

/-- The members in order. -/
def memberTexts (s : Spelling) : List (Text × Document) → List Text
  | [] => []
  | (k, d) :: rest => (s.quoted k ++ (":" : Text) ++ written s d) :: memberTexts s rest

end

/-- A document in ASCII. -/
def interchange (d : Document) : Text := d.written .ascii

/-- How many bytes a document takes in a spelling. -/
def byteCount (s : Spelling) (d : Document) : Nat := (d.written s).byteCount

end Document

end ComplianceRegistry
