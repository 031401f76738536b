import ComplianceRegistry.Number.Basic

/-!
# The exact order of decimal numbers

Two numbers are compared without expanding their powers of ten. When their leading digits stand
at different places the higher place wins; when they stand at the same place the exponents differ
by less than the longer coefficient has digits, so aligning the coefficients is cheap.

## Main definitions

* `Number.place` — one more than the exponent of the leading digit
* `Number.magnitudeLE` — the order of the absolute values
* `Number.le` — the order of the numbers; the two zeros are equal
-/

namespace ComplianceRegistry.Number

/-- One more than the exponent at which the leading digit stands. -/
def place (n : Number) : Int := n.exponent + digitCount n.coefficient

/-- The coefficient after the exponent has been lowered to the given one. -/
def alignedTo (low : Int) (n : Number) : Nat := 
  n.coefficient * Nat.pow 10 (n.exponent - low).toNat

/-- The absolute value of the first number is at most that of the second. -/
def magnitudeLE (a b : Number) : Bool :=
  if a.coefficient = 0 then true
  else if b.coefficient = 0 then false
  else if a.place = b.place then
    let low := min a.exponent b.exponent
    a.alignedTo low ≤ b.alignedTo low
  else a.place < b.place

/-- Below zero: the sign is minus and the coefficient is not zero. -/
def isBelowZero (n : Number) : Bool := n.negative && n.coefficient != 0

/-- The first number is at most the second. -/
def le (a b : Number) : Bool :=
  match a.isBelowZero, b.isBelowZero with
  | false, false => magnitudeLE a b
  | true, true => magnitudeLE b a
  | true, false => true
  | false, true => false

end ComplianceRegistry.Number
