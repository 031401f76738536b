/-!
# Binary floating point numbers of 64 bits

Report documents may hold floating point numbers. A finite one is kept as a sign, a mantissa and
a power of two in the only form the format gives it, so that equal numbers of one sign are equal
values. Reading a decimal rounds to the nearest number, a tie to the even mantissa, and expands
no power of ten that lies outside the range of the format.

## Main definitions

* `Binary64` — finite numbers, the infinities, and not-a-number
* `Binary64.ofDecimal` — the number nearest to `± coefficient · 10 ^ exponent`
* `Binary64.integer?` — the integer a finite number without fraction is
-/

namespace ComplianceRegistry

/-- A number of the format. The finite number `± mantissa · 2 ^ exponent` is in normal form:
the mantissa is below `2 ^ 53`, the exponent is at least `-1074`, and the mantissa is at least
`2 ^ 52` unless the exponent is `-1074`. -/
inductive Binary64
  | finite (negative : Bool) (mantissa : Nat) (exponent : Int)
  | infinite (negative : Bool)
  | nan
deriving DecidableEq, Repr, Inhabited

namespace Binary64

/-- The smallest exponent of a finite number. -/
def leastExponent : Int := -1074

/-- The largest exponent of a finite number. -/
def greatestExponent : Int := 971

/-- The least mantissa of a number above the least exponent, `2 ^ 52`. -/
def leastNormal : Nat := 4503599627370496

/-- `numerator / denominator` rounded to the nearest whole number, a tie to the even one. -/
def roundedQuotient (numerator denominator : Nat) : Nat :=
  let quotient := numerator / denominator
  let rest := 2 * (numerator % denominator)
  if rest < denominator then quotient
  else if denominator < rest then quotient + 1
  else quotient + quotient % 2

/-- The quotient of two positive numbers divided by `2 ^ exponent` and rounded. -/
def mantissaAt (numerator denominator : Nat) (exponent : Int) : Nat :=
  if exponent < 0 then roundedQuotient (numerator * Nat.pow 2 exponent.natAbs) denominator
  else roundedQuotient numerator (denominator * Nat.pow 2 exponent.natAbs)

/-- The largest power of two that is not above the quotient of two positive numbers. -/
def leadingExponent (numerator denominator : Nat) : Int :=
  let estimate : Int := (numerator.log2 : Int) - denominator.log2
  let reached :=
    if estimate < 0 then denominator ≤ numerator * Nat.pow 2 estimate.natAbs
    else denominator * Nat.pow 2 estimate.natAbs ≤ numerator
  if reached then estimate else estimate - 1

/-- The exponent that gives the quotient a mantissa of 53 bits before rounding, or the least
exponent when the quotient is too small for that. -/
def exponentOf (numerator denominator : Nat) : Int :=
  let exponent := leadingExponent numerator denominator - 52
  if exponent < leastExponent then leastExponent else exponent

/-- The number nearest to the quotient of two positive numbers. -/
def ofQuotient (negative : Bool) (numerator denominator : Nat) : Binary64 :=
  let exponent := exponentOf numerator denominator
  let mantissa := mantissaAt numerator denominator exponent
  let (mantissa, exponent) :=
    if mantissa = 2 * leastNormal then (leastNormal, exponent + 1) else (mantissa, exponent)
  if greatestExponent < exponent then .infinite negative
  else .finite negative mantissa exponent

/-- The number nearest to `± n · 2 ^ exponent` for a positive number. -/
def ofScaled (negative : Bool) (n : Nat) (exponent : Int) : Binary64 :=
  if exponent < 0 then ofQuotient negative n (Nat.pow 2 exponent.natAbs)
  else ofQuotient negative (n * Nat.pow 2 exponent.natAbs) 1

/-- The number nearest to `± coefficient · 10 ^ exponent`. Outside of four hundred decimal places
around one the answer is zero or infinite, and the power is not computed. -/
def ofDecimal (negative : Bool) (coefficient : Nat) (exponent : Int) : Binary64 :=
  let place : Int := exponent + (Nat.repr coefficient).length
  if coefficient = 0 ∨ place < -400 then .finite negative 0 leastExponent
  else if 400 < place then .infinite negative
  else if exponent < 0 then ofQuotient negative coefficient (Nat.pow 10 exponent.natAbs)
  else ofQuotient negative (coefficient * Nat.pow 10 exponent.natAbs) 1

/-- The number nearest to an integer. -/
def ofInt (n : Int) : Binary64 := ofDecimal (n < 0) n.natAbs 0

/-- The integer that a finite number is, when it has no fraction. -/
def integer? : Binary64 → Option Int
  | .finite negative mantissa exponent =>
    let signed (n : Nat) : Int := if negative then -(n : Int) else n
    if 0 ≤ exponent then some (signed (mantissa * Nat.pow 2 exponent.natAbs))
    else if mantissa % Nat.pow 2 exponent.natAbs = 0 then
      some (signed (mantissa / Nat.pow 2 exponent.natAbs))
    else none
  | _ => none

/-- Neither infinite nor not-a-number. -/
def isFinite : Binary64 → Bool
  | .finite .. => true
  | _ => false

/-- The numbers are equal as numbers: the zeros are equal, and not-a-number equals nothing. -/
def equals : Binary64 → Binary64 → Bool
  | .nan, _ => false
  | .finite n m e, .finite n' m' e' => m == m' && e == e' && (n == n' || m == 0)
  | x, y => x == y

end Binary64

end ComplianceRegistry
