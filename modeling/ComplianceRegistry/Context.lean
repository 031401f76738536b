import ComplianceRegistry.Instant

/-!
# The context of an operation

## Main definitions

* `Context` — when and for whom an operation runs
-/

namespace ComplianceRegistry

/-- When and for whom an operation runs. -/
structure Context where
  /-- the clock, which stands still during the operation -/
  clock : Instant
  /-- the user whom the audit trail names -/
  user : Option Int
  /-- the network address that the audit trail names -/
  address : Option Text
  /-- another writer takes a name between the check whether it is free and the write, so that the
  check finds nothing and the constraint of the table decides -/
  contended : Bool
deriving DecidableEq, Repr

end ComplianceRegistry
