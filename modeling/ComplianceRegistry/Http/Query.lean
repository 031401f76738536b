import ComplianceRegistry.Document.Reader
import ComplianceRegistry.Url.Host

/-!
# Queries and addresses

A query is a list of names and values. In both, a plus sign is a blank and a percent sign with two
hexadecimal digits is a byte; a percent sign without them stands for itself. A code point beyond
ASCII comes as its bytes, and each of these is taken for a code point of its own.

## Main definitions

* `Query.pairs` — the names and values of a query, in order
* `Query.value?` — the last value of a name
* `Query.addressed`, `Query.addressedPath` — a text and a path as they stand in the address of a
  redirection
-/

namespace ComplianceRegistry.Query

/-- A byte to be read with its neighbours, or a code point that stands for itself. -/
abbrev Piece := Nat ⊕ CodePoint

/-- The pieces of an encoded name or value. -/
def pieces : Text → List Piece
  | [] => []
  | c :: rest =>
    if c.isChar '%' then
      match rest with
      | a :: b :: after =>
        match Document.hexDigit? a, Document.hexDigit? b with
        | some x, some y => .inl (x * 16 + y) :: pieces after
        | _, _ => .inl c.val :: pieces (a :: b :: after)
      | short => .inl c.val :: pieces short
    else if c.isChar '+' then .inl 32 :: pieces rest
    else if c.val < 128 then .inl c.val :: pieces rest
    else c.bytes.map (fun b => .inr (.ofNat b)) ++ pieces rest

/-- The text of pieces; bytes are read in unbroken runs. -/
def joined (begun : Option Utf8.Begun) : List Piece → Text
  | [] => if begun.isSome then [Utf8.replacement] else []
  | .inl b :: rest =>
    let (out, next) := Utf8.step begun b
    out ++ joined next rest
  | .inr c :: rest =>
    (if begun.isSome then [Utf8.replacement] else []) ++ c :: joined none rest

/-- The text of an encoded name or value. -/
def decoded (t : Text) : Text := joined none (pieces t)

/-- A name and a value around the first equals sign; without one the value is empty. -/
def pair (t : Text) : Text × Text :=
  let isEquals (c : CodePoint) : Bool := c.isChar '='
  (decoded (t.takeWhile fun c => !isEquals c), decoded ((t.dropWhile fun c => !isEquals c).drop 1))

/-- The names and values of a query. -/
def pairs (query : Text) : List (Text × Text) :=
  ((Text.splitOn (CodePoint.ofChar '&') query).filter fun part => !part.isEmpty).map pair

/-- The last value of a name. -/
def value? (query : Text) (name : Text) : Option Text :=
  ((pairs query).reverse.find? fun p => p.1 = name).map (·.2)

/-- The marks that an address may have besides letters and digits. -/
def marks : Text := "_.-~:/%#?=@[]!$&'()*+,;"

/-- The code point stands for itself in an address. -/
def isPlain (c : CodePoint) : Bool := c.isAsciiWord || marks.contains c

/-- A text in an address: code points that are not plain become escapes. -/
def addressed (t : Text) : Text := t.percentEscaped isPlain

/-- A path in an address, where the marks that would end it become escapes too. -/
def addressedPath (t : Text) : Text :=
  t.percentEscaped fun c => isPlain c && !c.isChar '?' && !c.isChar '#'

end ComplianceRegistry.Query
