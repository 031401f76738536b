import ComplianceRegistry.Text.Blank
import ComplianceRegistry.Text.Digit

/-!
# Decimal numbers written as text

Configs and reported values are texts; those of the numeric kinds must be decimal numbers. A
number is kept as it was written, as a sign, a whole coefficient and a power of ten, and the
power is never expanded: exponents may have eighteen digits.

## Main definitions

* `Number` — sign, coefficient and exponent
* `Number.ungrouped?` — a text without the underscores between its digits
* `Number.integer?` — the integer that a text spells
* `Number.scan?` — the number a text without surrounding blanks denotes
* `Number.Representable` — the bounds on exponent and leading digit
* `Number.read` — what a text says: a number, no number, or a number beyond the bounds

## Grammar

A number is an optional sign, then digits with an optional point and optional further digits, or
a point and digits, then optionally the letter `e` in either case, a sign and digits. Configs and
values admit the decimal digits of any script; settings admit those of ASCII alone, which is why
the readers take the digits as a parameter.
-/

namespace ComplianceRegistry

/-- The number `± coefficient · 10 ^ exponent`. Zero has a sign too. -/
structure Number where
  negative : Bool
  coefficient : Nat
  exponent : Int
deriving DecidableEq, Repr, Inhabited

/-- What a text says when it is asked for a number. -/
inductive Reading
  | notNumber
  | beyondBounds
  | number (n : Number)
deriving DecidableEq, Repr

namespace Number

/-- The natural number with these digits, most significant first. -/
def ofDigits (digits : List Nat) : Nat := digits.foldl (fun n d => 10 * n + d) 0

/-- An optional sign, true for minus, and what follows it. -/
def takeSign : Text → Bool × Text
  | [] => (false, [])
  | c :: rest =>
    if c.isChar '-' then (true, rest)
    else if c.isChar '+' then (false, rest)
    else (false, c :: rest)

/-- The text without the underscores that stand singly inside of it, if there are any and no other
ones. -/
def ungrouped? (t : Text) : Option Text :=
  let under (c : CodePoint) : Bool := c.isChar '_'
  let double := (t.zip (t.drop 1)).any fun p => under p.1 && under p.2
  if t.head?.any under || t.getLast?.any under || double || !t.any under then none
  else some (t.filter fun c => !under c)

section

variable (digit? : CodePoint → Option Nat)

/-- The values of the leading digits of a text, and what follows them. -/
def takeDigits : Text → List Nat × Text
  | [] => ([], [])
  | c :: rest =>
    match digit? c with
    | some d => let (digits, after) := takeDigits rest; (d :: digits, after)
    | none => ([], c :: rest)

/-- The digits after a point, none when no point follows, and what comes next. -/
def takeFraction : Text → List Nat × Text
  | [] => ([], [])
  | c :: rest => if c.isChar '.' then takeDigits digit? rest else ([], c :: rest)

/-- The written exponent that makes up the whole text; the empty text stands for zero. -/
def exponent? : Text → Option Int
  | [] => some 0
  | c :: rest =>
    if c.isChar 'e' || c.isChar 'E' then
      let (negative, body) := takeSign rest
      match takeDigits digit? body with
      | (d :: digits, []) =>
        let n := ofDigits (d :: digits)
        some (if negative then -(n : Int) else n)
      | _ => none
    else none

/-- The number denoted by a text, when all of it follows the grammar with the given digits. -/
def scanWith? (t : Text) : Option Number :=
  let (negative, body) := takeSign t
  let (whole, afterWhole) := takeDigits digit? body
  let (fraction, afterFraction) := takeFraction digit? afterWhole
  if whole.isEmpty && fraction.isEmpty then none
  else (exponent? digit? afterFraction).map fun e =>
    { negative
      coefficient := ofDigits (whole ++ fraction)
      exponent := e - fraction.length }

end

/-- The most digits of an integer that is read. -/
def longestInteger : Nat := 4300

/-- The integer that a text spells: blanks around it, an optional sign, and digits of any script,
which single underscores may part. -/
def integer? (t : Text) : Option Int :=
  let (negative, body) := takeSign t.stripped
  match ((ungrouped? body).getD body).mapM CodePoint.digitValue? with
  | some (d :: digits) =>
    if longestInteger ≤ digits.length then none
    else
      let n : Int := ofDigits (d :: digits)
      some (if negative then -n else n)
  | _ => none

/-- The number denoted by a text in digits of any script. -/
def scan? (t : Text) : Option Number := scanWith? CodePoint.digitValue? t

/-- How many decimal digits a natural number has; zero has one. -/
def digitCount (n : Nat) : Nat :=
  if n < 10 then 1 else digitCount (n / 10) + 1
termination_by n
decreasing_by omega

/-- The largest exponent a leading digit may have. -/
def topExponent : Int := 999999999999999999

/-- The leading digit stands no higher than `topExponent`, and the last digit not below the
smallest exponent of a subnormal of full precision. Zero is held to the same bounds. -/
def Representable (n : Number) : Prop :=
  n.exponent + (digitCount n.coefficient - 1 : Nat) ≤ topExponent ∧
    -(2 * topExponent - 1) ≤ n.exponent

instance : DecidablePred Representable := fun _ => inferInstanceAs (Decidable (_ ∧ _))

/-- Reads a text with any blanks around the number. -/
def read (t : Text) : Reading :=
  match scan? t.stripped with
  | none => .notNumber
  | some n => if n.Representable then .number n else .beyondBounds

end Number

end ComplianceRegistry
