import ComplianceRegistry.Binary64.Shortest
import ComplianceRegistry.Number.Basic

/-!
# Numbers in a column

A column of numbers is handed a number as a decimal and reads it on its own, in an arithmetic of
numbers with mantissas of 64 bits. It takes as many leading digits as fit an integer of 64 bits,
moves powers of ten between them and the exponent, and multiplies or divides by the power that is
left. Each step rounds, so that what comes back may be a neighbour of the number nearest to the
decimal.

## Main definitions

* `Extended` — positive numbers with mantissas of 64 bits, and their arithmetic
* `Binary64.ofColumn` — the number that a column reads from the digits of a decimal
* `Binary64.throughColumn` — a floating point number as it comes back
-/

namespace ComplianceRegistry

/-- The number `mantissa · 2 ^ exponent`. -/
structure Extended where
  mantissa : Nat
  exponent : Int
deriving DecidableEq, Repr

namespace Extended

/-- The least mantissa of a number in normal form, `2 ^ 63`. -/
def leastNormal : Nat := 9223372036854775808

/-- The number nearest to the quotient of two positive numbers; a tie goes to the even mantissa. -/
def ofQuotient (numerator denominator : Nat) : Extended :=
  let exponent := Binary64.leadingExponent numerator denominator - 63
  let mantissa := Binary64.mantissaAt numerator denominator exponent
  if mantissa = 2 * leastNormal then ⟨leastNormal, exponent + 1⟩ else ⟨mantissa, exponent⟩

/-- A positive whole number, rounded. -/
def ofNat (n : Nat) : Extended := ofQuotient n 1

/-- The product, rounded. -/
def mul (a b : Extended) : Extended :=
  let p := ofNat (a.mantissa * b.mantissa)
  { p with exponent := p.exponent + a.exponent + b.exponent }

/-- The quotient, rounded. -/
def div (a b : Extended) : Extended :=
  let q := ofQuotient a.mantissa b.mantissa
  { q with exponent := q.exponent + a.exponent - b.exponent }

/-- The product of `product` and a power of `square`, by squaring. -/
def timesPower (product square : Extended) (power : Nat) : Extended :=
  let product := if power % 2 = 1 then product.mul square else product
  if power / 2 = 0 then product else timesPower product (square.mul square) (power / 2)
termination_by power
decreasing_by omega

/-- A power of ten as repeated squaring rounds it. -/
def powerOfTen (power : Nat) : Extended := timesPower (ofNat 1) (ofNat 10) power

/-- The nearest floating point number of 64 bits. -/
def round (negative : Bool) (a : Extended) : Binary64 :=
  .ofScaled negative a.mantissa a.exponent

end Extended

namespace Binary64

/-- The number at which a column stops reading digits. -/
def digitLimit : Nat := 922337203685477579

/-- The number at which a column stops moving powers of ten into the digits. -/
def factorLimit : Nat := 922337203685477580

/-- The number of the digits that a column reads, after those of `n`, and how many it leaves
out. -/
def readDigits (n : Nat) : List Nat → Nat × Nat
  | [] => (n, 0)
  | d :: rest =>
    let m := 10 * n + d
    if digitLimit ≤ m then (m, rest.length) else readDigits m rest

/-- Moves powers of ten from a positive exponent into the digits, as far as they fit. -/
def raised (n : Nat) : Nat → Nat × Nat
  | 0 => (n, 0)
  | e + 1 => if factorLimit ≤ n then (n, e + 1) else raised (10 * n) e

/-- Moves powers of ten from the digits against a negative exponent, as long as they divide. -/
def lowered (n : Nat) : Nat → Nat × Nat
  | 0 => (n, 0)
  | e + 1 => if n % 10 ≠ 0 then (n, e + 1) else lowered (n / 10) e

/-- The largest power of ten that a column takes in one step. -/
def stepPower : Nat := 308

/-- The finite number multiplied with the power of the step, or divided by it. -/
def scaledByStep (down : Bool) : Binary64 → Binary64
  | .finite negative m e =>
    match ofDecimal false 1 stepPower with
    | .finite _ m' e' =>
      if m = 0 then .finite negative 0 leastExponent
      else if down then
        let q := e - e'
        if q < 0 then ofQuotient negative m (m' * Nat.pow 2 q.natAbs)
        else ofQuotient negative (m * Nat.pow 2 q.natAbs) m'
      else ofScaled negative (m * m') (e + e')
    | _ => .infinite negative
  | x => x

/-- The number multiplied with a power of ten, or divided by it. -/
def withPower (negative down : Bool) (n power : Nat) : Binary64 :=
  let scaled (p : Nat) : Binary64 :=
    let scale := Extended.powerOfTen p
    let product := if down then (Extended.ofNat n).div scale else (Extended.ofNat n).mul scale
    product.round negative
  if power = 0 then ofScaled negative n 0
  else if power < stepPower then scaled power
  else if power < 342 then scaledByStep down (scaled (power - stepPower))
  else if down then .finite negative 0 leastExponent
  else .infinite negative

/-- The number that a column reads from digits and a power of ten. -/
def ofColumn (negative : Bool) (digits : List Nat) (exponent : Int) : Binary64 :=
  let (n, dropped) := readDigits 0 digits
  let e := exponent + dropped
  if n = 0 then .finite negative 0 leastExponent
  else if e < 0 then
    let (n, power) := lowered n e.natAbs
    withPower negative true n power
  else
    let (n, power) := raised n e.natAbs
    withPower negative false n power

/-- The digits of a number, most significant first. -/
def decimalDigits (n : Nat) : List Nat := (Nat.toDigits 10 n).map fun c => c.toNat - 48

/-- The number as it comes back from a column that was handed its shortest decimal. -/
def throughColumn : Binary64 → Binary64
  | .finite negative mantissa exponent =>
    if mantissa = 0 then .finite negative 0 leastExponent
    else
      let (digits, power) := shortest mantissa exponent
      ofColumn negative (decimalDigits digits) power
  | x => x

/-- An integer as a column reads it that does not hold it as an integer. -/
def integerThroughColumn (n : Int) : Binary64 := ofColumn (n < 0) (decimalDigits n.natAbs) 0

end Binary64

end ComplianceRegistry
