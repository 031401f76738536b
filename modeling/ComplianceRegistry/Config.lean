import ComplianceRegistry.Fault
import ComplianceRegistry.Number.Basic

/-!
# Configs

The config of a regulation is checked against the kind of its type before it is kept. A boolean
regulation keeps no config; a threshold and a test report keep theirs as it was written, provided
it is a number; a type that is no kind keeps whatever it is given.

## Main definitions

* `Config.Grammatical` — the configs a type may have
* `Config.settle` — the config to keep, or why there is none
-/

namespace ComplianceRegistry.Config

/-- The config is a number within the bounds. -/
def IsNumber (config : Option Text) : Prop :=
  ∃ t n, config = some t ∧ Number.read t = .number n

/-- The configs a regulation of a type may have. -/
def Grammatical (typeName : Text) (config : Option Text) : Prop :=
  match Kind.ofName? typeName with
  | none => True
  | some .boolean => config = none
  | some .threshold | some .junit => IsNumber config

/-- Passes a config that is a number. -/
def requireNumber (kind : Kind) : Option Text → Except Fault (Option Text)
  | none => .error (.configNotNumber kind)
  | some t =>
    match Number.read t with
    | .number _ => .ok (some t)
    | .notNumber => .error (.configNotNumber kind)
    | .beyondBounds => .error .numberBeyondBounds

/-- The config to keep for a regulation of the named type. -/
def settle (typeName : Text) (config : Option Text) : Except Fault (Option Text) :=
  match Kind.ofName? typeName with
  | none => .ok config
  | some .boolean => .ok none
  | some .threshold => requireNumber .threshold config
  | some .junit => requireNumber .junit config

theorem requireNumber_eq_ok {kind : Kind} {config kept : Option Text}
    (h : requireNumber kind config = .ok kept) : kept = config ∧ IsNumber config := by
  cases config with
  | none => simp [requireNumber] at h
  | some t =>
    simp only [requireNumber] at h
    split at h
    · next n hn =>
      simp only [Except.ok.injEq] at h
      exact ⟨h.symm, t, n, rfl, hn⟩
    · simp at h
    · simp at h

/-- What is kept has the grammar of the type. -/
theorem grammatical_of_settle {typeName : Text} {config kept : Option Text}
    (h : settle typeName config = .ok kept) : Grammatical typeName kept := by
  unfold settle at h
  unfold Grammatical
  split at h
  · trivial
  · simpa using h.symm
  · obtain ⟨rfl, hn⟩ := requireNumber_eq_ok h
    exact hn
  · obtain ⟨rfl, hn⟩ := requireNumber_eq_ok h
    exact hn

end ComplianceRegistry.Config
