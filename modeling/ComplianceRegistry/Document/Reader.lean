import ComplianceRegistry.Document.Basic
import ComplianceRegistry.Number.Basic

/-!
# Reading documents

The notation of documents is the common interchange notation, with three additions: the numbers
`NaN`, `Infinity` and `-Infinity` are read, a byte order mark may come first, and half of a
surrogate pair may be escaped. A text that is no document is refused at the offset where the
reading stopped; an integer of more than 4300 digits is refused as such.

## Main definitions

* `Document.Refusal`, `Document.Flaw` — why a text is not read
* `Document.numeral` — the longest number at the front of a text
* `Document.stringUnits`, `Document.pairUp` — the inside of a quoted text
* `Document.readWithin`, `Document.read` — the document that makes up a text, nested within a bound
  or without one

Every reader takes the offset of the text that is left and gives the offset of what it leaves.
The readers of values take a bound on their calls of each other; twice the length of the text is
always enough, as two calls together take at least one code point.
-/

namespace ComplianceRegistry.Document

/-- What is wrong where the reading of a text stops. -/
inductive Flaw
  | noValue
  | noKey
  | noColon
  | noComma
  | moreBehind
  | openText
  | controlCharacter
  | letterEscape
  | numberEscape
deriving DecidableEq, Repr

/-- The message of a flaw. -/
def Flaw.message : Flaw → Text
  | .noValue => "Expecting value"
  | .noKey => "Expecting property name enclosed in double quotes"
  | .noColon => "Expecting ':' delimiter"
  | .noComma => "Expecting ',' delimiter"
  | .moreBehind => "Extra data"
  | .openText => "Unterminated string starting at"
  | .controlCharacter => "Invalid control character at"
  | .letterEscape => "Invalid \\escape"
  | .numberEscape => "Invalid \\uXXXX escape"

/-- Why a text is not read as a document. -/
inductive Refusal
  | malformed (flaw : Flaw) (offset : Nat)
  | integerTooLong
  | nestedTooDeep
  /-- the bytes of the text cannot be read -/
  | undecodable
deriving DecidableEq, Repr

/-- The result of reading from the front of a text: a value, the offset behind it and the rest. -/
abbrev Read (α : Type) := Except Refusal (α × Nat × Text)

/-- The most digits an integer may have. -/
def longestInteger : Nat := 4300

/-- Blank, tab, line feed and carriage return may stand between the parts of a document. -/
def isGap (c : CodePoint) : Bool := c.val == 32 || c.val == 9 || c.val == 10 || c.val == 13

/-- Leaves out the gap at the front. -/
def skipGap (offset : Nat) : Text → Nat × Text
  | [] => (offset, [])
  | c :: rest => if isGap c then skipGap (offset + 1) rest else (offset, c :: rest)

/-- What follows the word when the text starts with it. -/
def afterWord? (word : List Char) (t : Text) : Option Text :=
  match word, t with
  | [], rest => some rest
  | _ :: _, [] => none
  | w :: ws, c :: rest => if c.isChar w then afterWord? ws rest else none

/-! ### Quoted texts -/

/-- The value of a hexadecimal digit. -/
def hexDigit? (c : CodePoint) : Option Nat :=
  if 48 ≤ c.val ∧ c.val ≤ 57 then some (c.val - 48)
  else if 97 ≤ c.val ∧ c.val ≤ 102 then some (c.val - 87)
  else if 65 ≤ c.val ∧ c.val ≤ 70 then some (c.val - 55)
  else none

/-- The code point written by four hexadecimal digits. -/
def unit? (a b c d : CodePoint) : Option CodePoint :=
  match hexDigit? a, hexDigit? b, hexDigit? c, hexDigit? d with
  | some a, some b, some c, some d =>
    let n := ((a * 16 + b) * 16 + c) * 16 + d
    if h : n < 0x110000 then some ⟨n, h⟩ else none
  | _, _, _, _ => none

/-- The code point that a backslash and a letter stand for. -/
def escape? (c : CodePoint) : Option CodePoint :=
  if c.isChar '"' || c.isChar '\\' || c.isChar '/' then some c
  else if c.isChar 'b' then some 8
  else if c.isChar 'f' then some 12
  else if c.isChar 'n' then some 10
  else if c.isChar 'r' then some 13
  else if c.isChar 't' then some 9
  else none

/-- A code point inside of quotes. -/
structure StringUnit where
  codePoint : CodePoint
  /-- it was written by its number -/
  numbered : Bool
deriving DecidableEq, Repr

/-- Puts a code point in front of what was read. -/
def prepend (u : StringUnit) : Read (List StringUnit) → Read (List StringUnit)
  | .ok (us, after) => .ok (u :: us, after)
  | .error e => .error e

/-- The inside of a quoted text up to its closing quote, every escape for itself. A text that
does not end is refused where it starts, a bad escape of a letter at its backslash, a bad escape
of a number at its letter, and a control character where it stands. -/
def stringUnits (start : Nat) : Nat → Text → Read (List StringUnit)
  | _, [] => .error (.malformed .openText start)
  | offset, c :: rest =>
    if c.isChar '"' then .ok ([], offset + 1, rest)
    else if c.isChar '\\' then
      match rest with
      | [] => .error (.malformed .openText start)
      | e :: after =>
        if e.isChar 'u' then
          match after with
          -- four digits at the very end are no escape, since the text does not end there
          | h1 :: h2 :: h3 :: h4 :: f :: next =>
            match unit? h1 h2 h3 h4 with
            | some u => prepend ⟨u, true⟩ (stringUnits start (offset + 6) (f :: next))
            | none => .error (.malformed .numberEscape (offset + 1))
          | _ => .error (.malformed .numberEscape (offset + 1))
        else
          match escape? e with
          | some x => prepend ⟨x, false⟩ (stringUnits start (offset + 2) after)
          | none => .error (.malformed .letterEscape offset)
    else if c.val < 32 then .error (.malformed .controlCharacter offset)
    else prepend ⟨c, false⟩ (stringUnits start (offset + 1) rest)

/-- The code point of a surrogate pair, of which both halves are written by their numbers. -/
def pair? (high low : StringUnit) : Option CodePoint :=
  let h := high.codePoint
  let l := low.codePoint
  if !high.numbered || !low.numbered then none
  else if bounds : 0xD800 ≤ h.val ∧ h.val < 0xDC00 ∧ 0xDC00 ≤ l.val ∧ l.val < 0xE000 then
    some ⟨0x10000 + (h.val - 0xD800) * 0x400 + (l.val - 0xDC00), by omega⟩
  else none

/-- The text of code points, in which neighbouring halves of a pair become one. -/
def pairUp : List StringUnit → Text
  | [] => []
  | [u] => [u.codePoint]
  | u :: v :: rest =>
    match pair? u v with
    | some p => p :: pairUp rest
    | none => u.codePoint :: pairUp (v :: rest)

/-- The text with every two neighbouring halves of a pair as one code point. -/
def pairHalves (t : Text) : Text := pairUp (t.map fun c => ⟨c, true⟩)

/-- The quoted text whose opening quote stands at `start`; `t` is what follows the quote. -/
def quotedText (start : Nat) (t : Text) : Read Text :=
  match stringUnits start (start + 1) t with
  | .ok (units, after) => .ok (pairUp units, after)
  | .error e => .error e

/-! ### Numbers -/

/-- The values of the ASCII digits at the front of a text, and the rest. -/
def takeDigits (t : Text) : List Nat × Text := Number.takeDigits CodePoint.asciiDigit? t

/-- The fraction at the front: a point and at least one digit. -/
def takeFraction (t : Text) : List Nat × Text :=
  match Number.takeFraction CodePoint.asciiDigit? t with
  | ([], _) => ([], t)
  | found => found

/-- The exponent at the front: its letter, an optional sign and at least one digit. The natural
number tells how many code points it takes. -/
def takeExponent : Text → Option (Int × Nat × Text)
  | c :: rest =>
    if c.isChar 'e' || c.isChar 'E' then
      let (negative, body) := Number.takeSign rest
      match takeDigits body with
      | ([], _) => none
      | (digits, after) =>
        let n : Int := Number.ofDigits digits
        some (if negative then -n else n, 1 + rest.length - after.length, after)
    else none
  | [] => none

/-- The digits before the point: a zero alone, or digits that do not start with zero. -/
def takeWhole : Text → List Nat × Text
  | c :: rest => if c.isChar '0' then ([0], rest) else takeDigits (c :: rest)
  | [] => ([], [])

/-- The longest number at the front. A number with fraction or exponent is a floating point
number, one without is an integer. -/
def numeral (offset : Nat) (t : Text) : Read Document :=
  let (negative, body) : Bool × Text := match t with
    | c :: rest => if c.isChar '-' then (true, rest) else (false, t)
    | [] => (false, t)
  let (whole, afterWhole) := takeWhole body
  let (fraction, afterFraction) := takeFraction afterWhole
  let offsetAfter := offset + t.length - afterFraction.length
  let coefficient := Number.ofDigits (whole ++ fraction)
  if whole.isEmpty then .error (.malformed .noValue offset)
  else
    match takeExponent afterFraction with
    | some (exponent, width, rest) =>
      .ok (.float (.ofDecimal negative coefficient (exponent - fraction.length)),
        offsetAfter + width, rest)
    | none =>
      if !fraction.isEmpty then
        .ok (.float (.ofDecimal negative coefficient (-fraction.length)), offsetAfter,
          afterFraction)
      else if longestInteger < whole.length then .error .integerTooLong
      else
        .ok (.integer (if negative then -(coefficient : Int) else coefficient), offsetAfter,
          afterFraction)

/-! ### Values -/

/-- The words that are values. -/
def words : List (List Char × Document) :=
  [("null".toList, .null), ("true".toList, .truth true), ("false".toList, .truth false),
    ("NaN".toList, .float .nan), ("Infinity".toList, .float (.infinite false)),
    ("-Infinity".toList, .float (.infinite true))]

/-- The word at the front that is a value. -/
def word? (offset : Nat) (t : Text) : Option (Document × Nat × Text) :=
  words.findSome? fun w => (afterWord? w.1 t).map fun rest => (w.2, offset + w.1.length, rest)

mutual

/-- The value at the front, nested at most so deep. -/
def value : Nat → Nat → Nat → Text → Read Document
  | 0, _, offset, _ => .error (.malformed .noValue offset)
  | _ + 1, _, offset, [] => .error (.malformed .noValue offset)
  | fuel + 1, depth, offset, c :: rest =>
    if c.isChar '"' then
      match quotedText offset rest with
      | .ok (t, after) => .ok (.text t, after)
      | .error e => .error e
    else if c.isChar '\x7b' then
      match depth, skipGap (offset + 1) rest with
      | 0, _ => .error .nestedTooDeep
      | _ + 1, (o, []) => .error (.malformed .noKey o)
      | depth + 1, (o, d :: after) =>
        if d.isChar '\x7d' then .ok (.object [], o + 1, after)
        else members fuel depth [] o (d :: after)
    else if c.isChar '[' then
      match depth, skipGap (offset + 1) rest with
      | 0, _ => .error .nestedTooDeep
      | _ + 1, (o, []) => .error (.malformed .noValue o)
      | depth + 1, (o, d :: after) =>
        if d.isChar ']' then .ok (.list [], o + 1, after)
        else items fuel depth [] o (d :: after)
    else
      match word? offset (c :: rest) with
      | some found => .ok found
      | none => numeral offset (c :: rest)

/-- The rest of a list from an item on; the items before it are given last first. -/
def items : Nat → Nat → List Document → Nat → Text → Read Document
  | 0, _, _, offset, _ => .error (.malformed .noValue offset)
  | fuel + 1, depth, before, offset, t =>
    match value fuel depth offset t with
    | .error e => .error e
    | .ok (item, o, after) =>
      match skipGap o after with
      | (o, []) => .error (.malformed .noComma o)
      | (o, c :: rest) =>
        if c.isChar ']' then .ok (.list (item :: before).reverse, o + 1, rest)
        else if c.isChar ',' then
          let (o, rest) := skipGap (o + 1) rest
          items fuel depth (item :: before) o rest
        else .error (.malformed .noComma o)

/-- The rest of an object from a key on; the members before it are given last first. -/
def members : Nat → Nat → List (Text × Document) → Nat → Text → Read Document
  | 0, _, _, offset, _ => .error (.malformed .noKey offset)
  | _ + 1, _, _, offset, [] => .error (.malformed .noKey offset)
  | fuel + 1, depth, before, offset, q :: rest =>
    if q.isChar '"' then
      match quotedText offset rest with
      | .error e => .error e
      | .ok (key, o, after) =>
        match skipGap o after with
        | (o, []) => .error (.malformed .noColon o)
        | (o, c :: rest) =>
          if c.isChar ':' then
            let (o, rest) := skipGap (o + 1) rest
            match value fuel depth o rest with
            | .error e => .error e
            | .ok (item, o, after) =>
              match skipGap o after with
              | (o, []) => .error (.malformed .noComma o)
              | (o, c :: rest) =>
                if c.isChar '\x7d' then
                  .ok (.ofMembers ((key, item) :: before).reverse, o + 1, rest)
                else if c.isChar ',' then
                  let (o, rest) := skipGap (o + 1) rest
                  members fuel depth ((key, item) :: before) o rest
                else .error (.malformed .noComma o)
          else .error (.malformed .noColon o)
    else .error (.malformed .noKey offset)

end

/-- The text without a byte order mark at its front. -/
def withoutMark : Text → Text
  | [] => []
  | c :: rest => if c.val = 0xFEFF then rest else c :: rest

/-- The document that makes up the whole text, gaps at both ends aside, when it is nested at most
so deep. -/
def readWithin (depth : Nat) (t : Text) : Except Refusal Document :=
  let body := withoutMark t
  let (start, front) := skipGap 0 body
  -- each code point enters at most one value and goes on to one more item or member
  match value (2 * body.length + 2) depth start front with
  | .error e => .error e
  | .ok (d, offset, after) =>
    match skipGap offset after with
    | (_, []) => .ok d
    | (o, _ :: _) => .error (.malformed .moreBehind o)

/-- The document that makes up the whole text, however deep it is nested. -/
def read (t : Text) : Except Refusal Document := readWithin t.length t

end ComplianceRegistry.Document
