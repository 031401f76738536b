import ComplianceRegistry.Number.Order
import Mathlib.Algebra.Order.Field.Power
import Mathlib.Algebra.Order.Field.Rat
import Mathlib.Tactic.FieldSimp
import Mathlib.Tactic.Linarith
import Mathlib.Tactic.Ring

/-!
# The values of decimal numbers

A decimal number stands for a rational one. The order of decimal numbers looks at the signs, at the
places of the leading digits and, where these are the same, at coefficients brought to the same
exponent; it is the order of the rational numbers nevertheless.

## Main definitions

* `Number.size`, `Number.value` — the absolute value and the value of a number

## Main results

* `Number.size_lt`, `Number.le_size` — the place of the leading digit bounds the absolute value
* `Number.magnitudeLE_iff`, `Number.le_iff` — the orders are those of the rational numbers
-/

namespace ComplianceRegistry.Number

variable {a b n : Number} {low : Int}

/-- The absolute value of a number. -/
def size (n : Number) : ℚ := n.coefficient * 10 ^ n.exponent

/-- The rational number that a number stands for. -/
def value (n : Number) : ℚ := if n.negative then -n.size else n.size

/-! ### The place of the leading digit -/

theorem lt_pow_digitCount (n : Nat) : n < 10 ^ digitCount n := by
  fun_induction digitCount n with
  | case1 n hsmall => simpa using hsmall
  | case2 n hlarge ih =>
    rw [pow_succ]
    omega

theorem one_le_digitCount (n : Nat) : 1 ≤ digitCount n := by
  unfold digitCount
  split <;> omega

theorem pow_digitCount_le {n : Nat} (h : n ≠ 0) : 10 ^ (digitCount n - 1) ≤ n := by
  fun_induction digitCount n with
  | case1 n hsmall =>
    simp
    omega
  | case2 n hlarge ih =>
    -- a number of several digits has one of them fewer without the last
    have hrest := ih (by omega)
    obtain ⟨k, hk⟩ := Nat.exists_eq_add_of_le' (one_le_digitCount (n / 10))
    rw [hk] at hrest ⊢
    simp only [Nat.add_sub_cancel] at hrest ⊢
    rw [pow_succ]
    omega

theorem size_nonneg : 0 ≤ n.size := by
  unfold size
  positivity

theorem size_eq_zero (h : n.coefficient = 0) : n.size = 0 := by simp [size, h]

theorem size_pos (h : n.coefficient ≠ 0) : 0 < n.size := by
  have : (0 : ℚ) < n.coefficient := by exact_mod_cast Nat.pos_of_ne_zero h
  unfold size
  positivity

/-- All digits stand below the place of the number. -/
theorem size_lt : n.size < 10 ^ n.place := by
  have hcoefficient : (n.coefficient : ℚ) < 10 ^ digitCount n.coefficient := by
    exact_mod_cast lt_pow_digitCount n.coefficient
  have hpower : (0 : ℚ) < 10 ^ n.exponent := by positivity
  calc n.size < 10 ^ digitCount n.coefficient * 10 ^ n.exponent :=
        mul_lt_mul_of_pos_right hcoefficient hpower
    _ = 10 ^ n.place := by
        rw [place, zpow_add₀ (by norm_num), zpow_natCast, mul_comm]

/-- The leading digit stands right below the place of the number. -/
theorem le_size (h : n.coefficient ≠ 0) : 10 ^ (n.place - 1) ≤ n.size := by
  have hcoefficient : (10 : ℚ) ^ (digitCount n.coefficient - 1) ≤ n.coefficient := by
    exact_mod_cast pow_digitCount_le h
  have hpower : (0 : ℚ) ≤ 10 ^ n.exponent := by positivity
  have hplace : n.place - 1 = n.exponent + (digitCount n.coefficient - 1 : Nat) := by
    have := one_le_digitCount n.coefficient
    unfold place
    omega
  calc (10 : ℚ) ^ (n.place - 1) = 10 ^ (digitCount n.coefficient - 1) * 10 ^ n.exponent := by
        rw [hplace, zpow_add₀ (by norm_num), zpow_natCast, mul_comm]
    _ ≤ n.size := mul_le_mul_of_nonneg_right hcoefficient hpower

/-- The number whose leading digit stands at the higher place is the larger one. -/
theorem size_lt_of_place_lt (h : a.place < b.place) (hb : b.coefficient ≠ 0) : a.size < b.size :=
  calc a.size < 10 ^ a.place := size_lt
    _ ≤ 10 ^ (b.place - 1) := zpow_le_zpow_right₀ (by norm_num) (by omega)
    _ ≤ b.size := le_size hb

/-- Where the leading digits stand at the same place, a coefficient is lengthened by fewer digits
than the other one has. -/
theorem shift_lt_digitCount (h : a.place = b.place) :
    (a.exponent - min a.exponent b.exponent).toNat < digitCount b.coefficient := by
  have ha := one_le_digitCount a.coefficient
  have hb := one_le_digitCount b.coefficient
  unfold place at h
  omega

/-! ### The order -/

/-- The absolute value told from the coefficient at a lower exponent. -/
theorem size_eq_alignedTo (h : low ≤ n.exponent) : n.size = n.alignedTo low * 10 ^ low := by
  have hexponent : n.exponent = (n.exponent - low).toNat + low := by omega
  have hsplit : (10 : ℚ) ^ n.exponent = 10 ^ (n.exponent - low).toNat * 10 ^ low := by
    rw [← zpow_natCast, ← zpow_add₀ (by norm_num), ← hexponent]
  rw [size, hsplit, alignedTo, Nat.pow_eq, ← mul_assoc]
  push_cast
  rfl

theorem magnitudeLE_iff : magnitudeLE a b ↔ a.size ≤ b.size := by
  unfold magnitudeLE
  split
  · next ha => simp [size_eq_zero ha, size_nonneg]
  · next ha =>
    split
    · next hb => simp [size_eq_zero hb, size_pos ha]
    · next hb =>
      split
      · next hplace =>
        -- at the lower one of both exponents the coefficients decide
        have hpower : (0 : ℚ) < 10 ^ min a.exponent b.exponent := by positivity
        rw [size_eq_alignedTo (min_le_left a.exponent b.exponent),
          size_eq_alignedTo (min_le_right a.exponent b.exponent),
          mul_le_mul_iff_left₀ hpower, Nat.cast_le, decide_eq_true_eq]
      · next hplace =>
        -- at different places the places decide
        rw [decide_eq_true_eq]
        constructor
        · exact fun hlt => (size_lt_of_place_lt hlt hb).le
        · intro hle
          by_contra hge
          exact absurd (size_lt_of_place_lt (by omega) ha) (not_lt.2 hle)

/-- A zero has the same value with either sign. -/
theorem value_eq : n.value = if n.isBelowZero then -n.size else n.size := by
  by_cases hzero : n.coefficient = 0
  · simp [value, size_eq_zero hzero]
  · simp [value, isBelowZero, hzero]

theorem size_pos_of_isBelowZero (h : n.isBelowZero) : 0 < n.size := by
  refine size_pos fun hzero => ?_
  simp [isBelowZero, hzero] at h

/-- The order of numbers is the order of their values. -/
theorem le_iff : a.le b ↔ a.value ≤ b.value := by
  unfold le
  rw [value_eq, value_eq]
  have ha : 0 ≤ a.size := size_nonneg
  have hb : 0 ≤ b.size := size_nonneg
  split
  · next ha' hb' => simp [ha', hb', magnitudeLE_iff]
  · next ha' hb' => simp [ha', hb', magnitudeLE_iff]
  · next ha' hb' =>
    simp only [ha', hb', if_true, true_iff]
    exact (neg_nonpos.2 ha).trans hb
  · next ha' hb' =>
    -- a number below zero is below all others
    have hbelow := size_pos_of_isBelowZero hb'
    simp only [ha', hb', if_true]
    constructor
    · simp
    · intro hle
      simp at hle
      linarith

end ComplianceRegistry.Number
