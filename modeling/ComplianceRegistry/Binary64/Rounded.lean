import ComplianceRegistry.Binary64.Shortest

/-!
# Decimals of fifteen digits

A column of texts that is handed a floating point number keeps a numeral of fifteen significant
digits at most. The exact value is rounded to the fifteenth digit, a half away from zero, and
zeros at the end are left out.

## Main definitions

* `Binary64.rounded` — the fifteen digits and the place of the point
* `NumeralStyle.column`, `Binary64.columnNumeral?` — the numeral in a column of texts

## Style

A numeral always has a point with a digit on either side, also in front of an exponent. Zero has
no sign, and not-a-number has no numeral.
-/

namespace ComplianceRegistry

/-- The style of numerals in a column of texts. -/
def NumeralStyle.column : NumeralStyle :=
  { NumeralStyle.document with wholeDigits := 15, emptyFraction := ".0", infinity := "Inf" }

namespace Binary64

/-- The significant digits that are kept. -/
def keptDigits : Nat := 15

/-- Digits and exponent of the positive number `mantissa · 2 ^ exponent`, rounded to fifteen
significant digits. -/
def rounded (mantissa : Nat) (exponent : Int) : Nat × Int :=
  let up (base : Nat) (e : Int) : Nat := if e < 0 then 1 else Nat.pow base e.natAbs
  let numerator := mantissa * up 2 exponent
  let denominator := up 2 (-exponent)
  let power := placeOf numerator denominator - keptDigits
  let scaled := numerator * up 10 (-power)
  let unit := denominator * up 10 power
  withoutZeros 20 ((2 * scaled + unit) / (2 * unit), power)

/-- The numeral of a number in a column of texts. -/
def columnNumeral? : Binary64 → Option Text
  | .finite negative mantissa exponent =>
    if mantissa = 0 then some (layout .column 0 0)
    else
      let (digits, power) := rounded mantissa exponent
      some ((if negative then ("-" : Text) else []) ++ layout .column digits power)
  | .infinite negative =>
    some ((if negative then ("-" : Text) else []) ++ NumeralStyle.column.infinity)
  | .nan => none

end Binary64

end ComplianceRegistry
