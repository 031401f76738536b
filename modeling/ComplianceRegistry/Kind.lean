import ComplianceRegistry.Text.Basic

/-!
# Kinds of regulations

A regulation is of a type, a row of the type catalog. Three type names have a meaning: they are
the kinds, and rules for configs and verdicts exist for these alone. A type with any other name
is allowed, takes any config, and cannot be evaluated.

## Main definitions

* `Kind` — the closed set of kinds
* `Kind.name`, `Kind.ofName?` — a kind and its type name
* `Kind.defaultDescription` — what the catalog says of the kind when it is seeded
-/

namespace ComplianceRegistry

/-- The kinds of regulations that have rules. -/
inductive Kind
  /-- passes on the text `true` alone; has no config -/
  | boolean
  /-- passes on a number that is not below the config -/
  | threshold
  /-- takes a test report; passes always -/
  | junit
deriving DecidableEq, Repr

namespace Kind

/-- The kinds in the order in which the catalog is seeded. -/
def all : List Kind := [.boolean, .threshold, .junit]

/-- The type name of a kind. -/
def name : Kind → Text
  | .boolean => "Boolean"
  | .threshold => "Threshold"
  | .junit => "JUnit"

/-- The kind with exactly this type name. -/
def ofName? (t : Text) : Option Kind := all.find? fun k => k.name = t

/-- The description of a seeded type. -/
def defaultDescription : Kind → Text
  | .boolean => "A regulation that expects a boolean value, valid values: true"
  | .threshold => "A regulation that expects a value to meet a threshold"
  | .junit =>
    "A regulation that validates JUnit XML test results, valid value is threshold for pass percentage"

theorem mem_all (k : Kind) : k ∈ all := by cases k <;> decide

theorem name_injective {j k : Kind} (h : j.name = k.name) : j = k := by
  cases j <;> cases k <;> first | rfl | (revert h; decide)

theorem name_of_ofName? {t : Text} {k : Kind} (h : ofName? t = some k) : k.name = t := by
  simpa using List.find?_some h

@[simp] theorem ofName?_name (k : Kind) : ofName? k.name = some k := by
  cases k <;> decide

end Kind

end ComplianceRegistry
