import ComplianceRegistry.Binary64.Basic
import ComplianceRegistry.Text.Basic

/-!
# The shortest decimal of a floating point number

A finite number is written with the fewest digits that read back as the same number; of two such
decimals the nearer one is taken. The search tries one digit, two digits, and so on up to
seventeen, and on each grid only the two neighbours of the exact value, all in whole numbers.

## Main definitions

* `Binary64.shortest` — digits and the place of the point
* `NumeralStyle` — where the positional notation ends and how an exponent is written
* `Binary64.numeral` — the numeral of a number in the style of documents

## Style

Documents write a point always, use the positional notation from `0.0001` up to below `1e+16`,
and give an exponent a sign and at least two digits.
-/

namespace ComplianceRegistry

/-- The choices of a numeral's layout. -/
structure NumeralStyle where
  /-- the positional notation is used when the point stands at most this far left of the digits -/
  leadingZeros : Nat
  /-- the positional notation is used when the point stands at most this far into the digits -/
  wholeDigits : Nat
  /-- the fewest digits of an exponent -/
  exponentDigits : Nat
  /-- the sign of an exponent above zero -/
  plus : Text
  /-- what an exponent follows when there is no second digit -/
  emptyFraction : Text
  infinity : Text
  notANumber : Text

/-- The style of numerals in documents and literals. -/
def NumeralStyle.document : NumeralStyle where
  leadingZeros := 3
  wholeDigits := 16
  exponentDigits := 2
  plus := "+"
  emptyFraction := []
  infinity := "inf"
  notANumber := "nan"

namespace Binary64

/-- The interval of decimals that read as one number, scaled by a common denominator. -/
structure Neighbourhood where
  low : Nat
  value : Nat
  high : Nat
  denominator : Nat
  /-- the ends belong to the interval -/
  closed : Bool

/-- The interval around a positive finite number. Below a power of two the numbers lie twice as
dense, which halves the gap on that side. -/
def neighbourhood (mantissa : Nat) (exponent : Int) : Neighbourhood :=
  let scale := if exponent < 0 then 1 else Nat.pow 2 exponent.natAbs
  -- in quarters of the gap, so that both ends are whole
  let below := if mantissa = leastNormal ∧ leastExponent < exponent then 1 else 2
  { low := (4 * mantissa - below) * scale
    value := 4 * mantissa * scale
    high := (4 * mantissa + 2) * scale
    denominator := if exponent < 0 then 4 * Nat.pow 2 exponent.natAbs else 4
    closed := mantissa % 2 = 0 }

/-- One more than the decimal exponent of the leading digit of a positive quotient that is not
below `10 ^ -330`. -/
def placeOf (numerator denominator : Nat) : Int :=
  ((Nat.repr (numerator * Nat.pow 10 330 / denominator)).length : Int) - 330

/-- The distance of `digits · 10 ^ exponent` from the value in units of the common denominator
times a power of ten that depends only on the exponent, and whether it lies in the interval. -/
def gridPoint (n : Neighbourhood) (exponent : Int) (digits : Nat) : Bool × Nat :=
  let up := if exponent < 0 then 1 else Nat.pow 10 exponent.natAbs
  let down := if exponent < 0 then Nat.pow 10 exponent.natAbs else 1
  let point := digits * up * n.denominator
  let low := n.low * down
  let high := n.high * down
  let inside := if n.closed then low ≤ point && point ≤ high else low < point && point < high
  let value := n.value * down
  (inside, if point ≤ value then value - point else point - value)

/-- The neighbour of the value on the grid of `10 ^ exponent` that reads back, the nearer of two;
of two equally near the even one. -/
def onGrid? (n : Neighbourhood) (exponent : Int) : Option Nat :=
  let floor :=
    if exponent < 0 then n.value * Nat.pow 10 exponent.natAbs / n.denominator
    else n.value / (n.denominator * Nat.pow 10 exponent.natAbs)
  let (lowInside, lowDistance) := gridPoint n exponent floor
  let (highInside, highDistance) := gridPoint n exponent (floor + 1)
  if lowInside && highInside then
    if lowDistance < highDistance then some floor
    else if highDistance < lowDistance then some (floor + 1)
    -- of the two neighbours the even one
    else some (floor + floor % 2)
  else if lowInside then some floor
  else if highInside then some (floor + 1)
  else none

/-- Tries ever finer grids. The seventeenth always has a point that reads back. -/
def search (n : Neighbourhood) (place : Int) : List Nat → Nat × Int
  | [] => (0, 0)
  | count :: finer =>
    match onGrid? n (place - count) with
    | some digits => (digits, place - count)
    | none => search n place finer

/-- Trailing zeros of the digits go into the exponent. -/
def withoutZeros : Nat → Nat × Int → Nat × Int
  | 0, d => d
  | fuel + 1, (digits, exponent) =>
    if digits % 10 = 0 ∧ digits ≠ 0 then withoutZeros fuel (digits / 10, exponent + 1)
    else (digits, exponent)

/-- Digits and exponent of the shortest decimal that reads back as the positive number
`mantissa · 2 ^ exponent`. -/
def shortest (mantissa : Nat) (exponent : Int) : Nat × Int :=
  let n := neighbourhood mantissa exponent
  let counts := (List.range 17).map (· + 1)
  withoutZeros 20 (search n (placeOf n.value n.denominator) counts)

/-- The numeral of `digits · 10 ^ exponent` in a style. -/
def layout (style : NumeralStyle) (digits : Nat) (exponent : Int) : Text :=
  let written := Text.ofNat digits
  let point : Int := exponent + written.length
  let zeros (n : Nat) : Text := List.replicate n (CodePoint.ofChar '0')
  if -(style.leadingZeros : Int) ≤ point ∧ point ≤ style.wholeDigits then
    -- the point stands before the digits, behind them or among them
    if point ≤ 0 then ("0." : Text) ++ zeros point.natAbs ++ written
    else if written.length ≤ point.natAbs then
      written ++ zeros (point.natAbs - written.length) ++ (".0" : Text)
    else written.take point.natAbs ++ ("." : Text) ++ written.drop point.natAbs
  else
    let digitsAfter := written.drop 1
    let fraction :=
      if digitsAfter.isEmpty then style.emptyFraction else ("." : Text) ++ digitsAfter
    let power := point - 1
    written.take 1 ++ fraction ++
      (if power < 0 then ("e-" : Text) else ("e" : Text) ++ style.plus) ++
      Text.zeroPadded style.exponentDigits power.natAbs

/-- The numeral of a number. -/
def numeral (style : NumeralStyle) : Binary64 → Text
  | .finite negative mantissa exponent =>
    let (digits, power) := if mantissa = 0 then (0, 0) else shortest mantissa exponent
    (if negative then ("-" : Text) else []) ++ layout style digits power
  | .infinite negative => (if negative then ("-" : Text) else []) ++ style.infinity
  | .nan => style.notANumber

end Binary64

end ComplianceRegistry
