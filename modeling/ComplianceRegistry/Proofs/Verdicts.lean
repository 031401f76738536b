import ComplianceRegistry.Proofs.Configs
import ComplianceRegistry.Proofs.Numerals

/-!
# Verdicts on thresholds

The verdict on a threshold compares two rational numbers, however they are written. It follows
that a better value passes where a worse one does, that a value passes a lower threshold where it
passes a higher one, and that each number passes itself. A text that is no number passes nothing and
is passed by nothing.

## Main definitions

* `Verdict.Passes` — the value passes the threshold

## Main results

* `Verdict.passes_iff` — both texts denote numbers and the value is not below the threshold
* `Verdict.threshold_compares_values` — the verdict is the order of the values
-/

namespace ComplianceRegistry

namespace Number

variable {t : Text} {p q : ℚ}

theorem Denotes.unique (hp : Denotes t p) (hq : Denotes t q) : p = q := by
  obtain ⟨m, hm, rfl⟩ := hp
  obtain ⟨n, hn, rfl⟩ := hq
  cases hm.symm.trans hn
  rfl

end Number

namespace Verdict

open Number (Denotes)

variable {config value : Text} {p q : ℚ}

/-- The value passes the threshold. -/
def Passes (config value : Text) : Prop :=
  evaluate Kind.threshold.name (some config) (some value) = .ok true

theorem evaluate_of_denotes (hconfig : Denotes config p) (hvalue : Denotes value q) :
    evaluate Kind.threshold.name (some config) (some value) = .ok (decide (p ≤ q)) := by
  obtain ⟨c, hc, rfl⟩ := hconfig
  obtain ⟨v, hv, rfl⟩ := hvalue
  have hbound : readOptional (some config) = .number c := hc
  rw [evaluate_threshold hbound]
  simp only [readOptional, hv, Except.ok.injEq]
  rw [Bool.eq_iff_iff, Number.le_iff, decide_eq_true_eq]

/-- Nothing but the two values decides. -/
theorem passes_iff :
    Passes config value ↔ ∃ p q, Denotes config p ∧ Denotes value q ∧ p ≤ q := by
  constructor
  · intro h
    unfold Passes at h
    simp only [evaluate, Kind.ofName?_name, threshold, readOptional] at h
    split at h
    · cases h
    · cases h
    · next v c hv hc =>
      exact ⟨c.value, v.value, ⟨c, hc, rfl⟩, ⟨v, hv, rfl⟩, Number.le_iff.1 (by simpa using h)⟩
    · cases h
  · rintro ⟨p, q, hconfig, hvalue, hle⟩
    rw [Passes, evaluate_of_denotes hconfig hvalue, decide_eq_true hle]

theorem Passes.le (h : Passes config value) (hconfig : Denotes config p)
    (hvalue : Denotes value q) : p ≤ q := by
  obtain ⟨_, _, hconfig', hvalue', hle⟩ := passes_iff.1 h
  rwa [hconfig.unique hconfig', hvalue.unique hvalue']

theorem Passes.trans {a b c : Text} (hab : Passes a b) (hbc : Passes b c) : Passes a c := by
  obtain ⟨p, q, hp, hq, hle⟩ := passes_iff.1 hab
  obtain ⟨q', r, hq', hr, hle'⟩ := passes_iff.1 hbc
  exact passes_iff.2 ⟨p, r, hp, hr, hle.trans (hq.unique hq' ▸ hle')⟩

/-- A text that is no number passes nothing, and nothing passes it. -/
theorem evaluate_of_notNumber {config value : Option Text}
    (hconfig : readOptional config ≠ .beyondBounds) (hvalue : readOptional value ≠ .beyondBounds)
    (h : readOptional config = .notNumber ∨ readOptional value = .notNumber) :
    evaluate Kind.threshold.name config value = .ok false := by
  simp only [evaluate, Kind.ofName?_name, threshold]
  rcases h with h | h
  · cases hread : readOptional value <;> simp_all
  · cases hread : readOptional config <;> simp_all

/-- The verdict on a threshold is the order of the rational numbers that config and value denote.
Hence it does not depend on how these are spelled, every numeral within the bounds being read as
what it denotes; it is monotone in the value and antitone in the config, reflexive and transitive;
and it is false where one of the texts is no number and neither is beyond the bounds. No comparison
expands a power of ten beyond the digits that the other number has. -/
theorem threshold_compares_values :
    (∀ config value c v, Number.read config = .number c → Number.read value = .number v →
      evaluate Kind.threshold.name (some config) (some value) = .ok (decide (c.value ≤ v.value)) ∧
      (c.place = v.place →
        (c.exponent - min c.exponent v.exponent).toNat < Number.digitCount v.coefficient ∧
        (v.exponent - min c.exponent v.exponent).toNat < Number.digitCount c.coefficient)) ∧
    (∀ x : Numeral, x.number.Representable → Denotes x.text x.value) ∧
    (∀ config config' value value' p q, Denotes config p → Denotes config' p →
      Denotes value q → Denotes value' q →
      evaluate Kind.threshold.name (some config) (some value) =
        evaluate Kind.threshold.name (some config') (some value')) ∧
    (∀ config value value' q q', Denotes value q → Denotes value' q' → q ≤ q' →
      Passes config value → Passes config value') ∧
    (∀ config config' value p p', Denotes config p → Denotes config' p' → p' ≤ p →
      Passes config value → Passes config' value) ∧
    (∀ text q, Denotes text q → Passes text text) ∧
    (∀ a b c, Passes a b → Passes b c → Passes a c) ∧
    (∀ config value, readOptional config ≠ .beyondBounds → readOptional value ≠ .beyondBounds →
      (readOptional config = .notNumber ∨ readOptional value = .notNumber) →
      evaluate Kind.threshold.name config value = .ok false) := by
  refine ⟨fun config value c v hc hv =>
      ⟨evaluate_of_denotes ⟨c, hc, rfl⟩ ⟨v, hv, rfl⟩, fun hplace => ?_⟩,
    fun _ => Numeral.denotes,
    fun config config' value value' p q hconfig hconfig' hvalue hvalue' => ?_,
    fun config value value' q q' hvalue hvalue' hle hpasses => ?_,
    fun config config' value p p' hconfig hconfig' hle hpasses => ?_,
    fun text q h => passes_iff.2 ⟨q, q, h, h, le_rfl⟩,
    fun _ _ _ => Passes.trans,
    fun _ _ => evaluate_of_notNumber⟩
  · exact ⟨Number.shift_lt_digitCount hplace,
      min_comm c.exponent v.exponent ▸ Number.shift_lt_digitCount hplace.symm⟩
  · rw [evaluate_of_denotes hconfig hvalue, evaluate_of_denotes hconfig' hvalue']
  -- a text denotes one number only, so that the numbers that passed are those at hand
  · obtain ⟨p, _, hconfig, -⟩ := passes_iff.1 hpasses
    exact passes_iff.2 ⟨p, q', hconfig, hvalue', (hpasses.le hconfig hvalue).trans hle⟩
  · obtain ⟨_, q, -, hvalue, -⟩ := passes_iff.1 hpasses
    exact passes_iff.2 ⟨p', q, hconfig', hvalue, hle.trans (hpasses.le hconfig hvalue)⟩

/-- Three quarters with a plus sign, digits of another script, zeros at both ends and an
exponent. -/
def threeQuarters : Numeral :=
  { before := " "
    sign := .plus
    whole := [⟨.ofNat 0x966, by decide⟩, ⟨.ofNat 0x96D, by decide⟩]
    fraction := some [⟨.ofNat 0x96B, by decide⟩, ⟨.ofNat 0x966, by decide⟩]
    scale := some ⟨true, .minus, [⟨.ofNat 0x31, by decide⟩], by simp⟩
    after := ""
    before_blank := List.forall_mem_singleton.2 (by decide)
    after_blank := List.forall_mem_nil _
    digits_ne_nil := by simp }

/-- Spelled this way and that, three quarters pass three quarters; they pass a half as well, and
with it minus zero, but a word passes nothing. -/
theorem threshold_compares_values_threeQuarters :
    threeQuarters.text = (" +०७.५०E-1" : Text) ∧
    Denotes threeQuarters.text (3 / 4) ∧
    evaluate Kind.threshold.name (some threeQuarters.text) (some ".75") = .ok true ∧
    evaluate Kind.threshold.name (some ".75") (some threeQuarters.text) =
      evaluate Kind.threshold.name (some "0.750") (some "0.75") ∧
    Passes "0.75" "0.75" ∧ Passes "5e-1" ".75" ∧ Passes "-0" ".75" ∧
    evaluate Kind.threshold.name (some "0") (some "high") = .ok false := by
  obtain ⟨hcompare, hnumeral, hspelling, hmono, hanti, hrefl, htrans, hfalse⟩ :=
    threshold_compares_values
  have hspelled : Denotes threeQuarters.text (3 / 4) := by
    have hvalue : threeQuarters.value = 3 / 4 := by
      rw [← Numeral.value_number]
      have hnumber : threeQuarters.number = ⟨false, 750, -3⟩ := by decide +kernel
      norm_num [hnumber, Number.value, Number.size]
    exact hvalue ▸ hnumeral threeQuarters (by decide +kernel)
  have hpoint : Denotes ".75" (3 / 4) :=
    ⟨⟨false, 75, -2⟩, by decide +kernel, by norm_num [Number.value, Number.size]⟩
  have hplain : Denotes "0.75" (3 / 4) :=
    ⟨⟨false, 75, -2⟩, by decide +kernel, by norm_num [Number.value, Number.size]⟩
  have hzero : Denotes "0.750" (3 / 4) :=
    ⟨⟨false, 750, -3⟩, by decide +kernel, by norm_num [Number.value, Number.size]⟩
  have hhalf : Denotes "5e-1" (1 / 2) :=
    ⟨⟨false, 5, -1⟩, by decide +kernel, by norm_num [Number.value, Number.size]⟩
  have hminus : Denotes "-0" 0 :=
    ⟨⟨true, 0, 0⟩, by decide +kernel, by norm_num [Number.value, Number.size]⟩
  have hpasses := hanti "0.75" "5e-1" "0.75" _ _ hplain hhalf (by norm_num) (hrefl _ _ hplain)
  have hhalf' := hmono "5e-1" "0.75" ".75" _ _ hplain hpoint le_rfl hpasses
  refine ⟨by decide +kernel, hspelled, ?_, hspelling _ _ _ _ _ _ hpoint hzero hspelled hplain,
    hrefl _ _ hplain, hhalf',
    htrans "-0" "5e-1" ".75" (hanti "5e-1" "-0" "5e-1" _ _ hhalf hminus (by norm_num)
      (hrefl _ _ hhalf)) hhalf',
    hfalse _ _ (by decide +kernel) (by decide +kernel) (.inr (by decide +kernel))⟩
  refine ((hcompare threeQuarters.text ".75" ⟨false, 750, -3⟩ ⟨false, 75, -2⟩ (by decide +kernel)
    (by decide +kernel)).1).trans ?_
  norm_num [Number.value, Number.size]

end Verdict

end ComplianceRegistry
