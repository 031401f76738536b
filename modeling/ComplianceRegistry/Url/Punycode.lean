import ComplianceRegistry.Text.Basic

/-!
# Labels in ASCII

A label with code points beyond ASCII is sent as its code points of ASCII, a hyphen, and digits
that tell where the others stand. Those are taken in ascending order, and each is told by how many
steps lie between it and the one before, where a step goes to the next place in the label or, after
the last place, to the next code point. The steps are written to base 36, the least digit first,
with thresholds below which a digit is the last one; the thresholds follow the sizes seen so far.

## Main definitions

* `Punycode.digits` — a number of steps in digits
* `Punycode.encode` — a label in ASCII
-/

namespace ComplianceRegistry.Punycode

/-- A digit to base 36: the letters, then the ten digits. -/
def digit (d : Nat) : CodePoint := .ofNat (if d < 26 then 97 + d else 22 + d)

/-- The threshold of the digit at a place, which is counted from 36 in steps of 36. -/
def threshold (place bias : Nat) : Nat :=
  if place ≤ bias then 1 else if bias + 26 ≤ place then 26 else place - bias

theorem threshold_pos (place bias : Nat) : 1 ≤ threshold place bias := by
  unfold threshold
  split
  · omega
  · split <;> omega

/-- Divides until the number of steps is small; each division raises the bias. -/
def damped (steps bias : Nat) : Nat × Nat :=
  if 455 < steps then damped (steps / 35) (bias + 36) else (steps, bias)
termination_by steps
decreasing_by exact Nat.div_lt_self (by omega) (by omega)

/-- The bias after a number of steps, when so many code points stand in the label. -/
def adapted (steps count : Nat) (isFirst : Bool) : Nat :=
  let halved := if isFirst then steps / 700 else steps / 2
  let (rest, bias) := damped (halved + halved / count) 0
  bias + 36 * rest / (rest + 38)

/-- A number of steps in digits, from a place on. -/
def digits (bias place steps : Nat) : Text :=
  let t := threshold place bias
  if steps < t then [digit steps]
  else
    digit (t + (steps - t) % (36 - t)) :: digits bias (place + 36) ((steps - t) / (36 - t))
termination_by steps
decreasing_by
  have h := threshold_pos place bias
  calc (steps - threshold place bias) / (36 - threshold place bias)
      ≤ steps - threshold place bias := Nat.div_le_self _ _
    _ < steps := by omega

/-- How far the telling has come. -/
structure Progress where
  out : Text
  /-- the steps since the last code point that was told -/
  steps : Nat
  bias : Nat
  /-- the code points that stand in the label -/
  count : Nat

/-- Passes a place of the label while the code point `wanted` is told. -/
def pass (basic : Nat) (wanted : Nat) (p : Progress) (c : CodePoint) : Progress :=
  if c.val < wanted then { p with steps := p.steps + 1 }
  else if c.val = wanted then
    { out := p.out ++ digits p.bias 36 p.steps
      steps := 0
      bias := adapted p.steps (p.count + 1) (p.count = basic)
      count := p.count + 1 }
  else p

/-- Tells the code points, which ascend, from `next` on. -/
def tell (label : Text) (basic : Nat) : List Nat → Nat → Progress → Text
  | [], _, p => p.out
  | wanted :: rest, next, p =>
    let reached := { p with steps := p.steps + (wanted - next) * (p.count + 1) }
    let told := label.foldl (pass basic wanted) reached
    tell label basic rest (wanted + 1) { told with steps := told.steps + 1 }

/-- The label in ASCII. -/
def encode (label : Text) : Text :=
  let basic := label.filter fun c => c.val < 128
  let others := (label.filter fun c => 128 ≤ c.val).map (·.val)
  let ascending := (others.mergeSort fun a b => a ≤ b).eraseDups
  basic ++ (if basic.isEmpty then [] else ("-" : Text)) ++
    tell label basic.length ascending 128 ⟨[], 0, 72, basic.length⟩

end ComplianceRegistry.Punycode
