import ComplianceRegistry.Fault
import ComplianceRegistry.Number.Order

/-!
# Verdicts

The verdict says whether a reported value complies with a regulation. It depends on the name of
the regulation's type, its config and the value alone.

## Main definitions

* `Verdict.readOptional` — what an optional text says when it is asked for a number
* `Verdict.evaluate` — the verdict, or why there is none
-/

namespace ComplianceRegistry.Verdict

/-- The text of the one value that a boolean regulation accepts. -/
def accepted : Text := "true"

/-- An absent text is no number. -/
def readOptional : Option Text → Reading
  | none => .notNumber
  | some t => Number.read t

/-- The verdict on a threshold: both texts are numbers and the value is not below the config. A
number beyond the bounds on either side is a fault. -/
def threshold (config value : Option Text) : Except Fault Bool :=
  match readOptional value, readOptional config with
  | .beyondBounds, _ => .error .numberBeyondBounds
  | _, .beyondBounds => .error .numberBeyondBounds
  | .number v, .number c => .ok (c.le v)
  | _, _ => .ok false

/-- The verdict on a value reported for a regulation of the named type. -/
def evaluate (typeName : Text) (config value : Option Text) : Except Fault Bool :=
  match Kind.ofName? typeName with
  | none => .error (.unsupportedType typeName)
  | some .boolean => .ok (value == some accepted)
  | some .threshold => threshold config value
  | some .junit => .ok true

end ComplianceRegistry.Verdict
