import ComplianceRegistry.Document.Basic
import ComplianceRegistry.Instant

/-!
# Announcements

The service that takes uploads keeps copies of regulations. Whenever a regulation is created,
updated or deleted it is told so, and drops its copy.

## Main definitions

* `Announcement` — which regulation changed, how and when
* `Announcement.payload` — the document that is sent
-/

namespace ComplianceRegistry

/-- What happened to a regulation. -/
inductive ChangeKind
  | created
  | updated
  | deleted
deriving DecidableEq, Repr

namespace ChangeKind

/-- The kinds of change. -/
def all : List ChangeKind := [.created, .updated, .deleted]

/-- The name of a kind of change. -/
def name : ChangeKind → Text
  | .created => "created"
  | .updated => "updated"
  | .deleted => "deleted"

/-- The kind of change of a name. -/
def ofName? (t : Text) : Option ChangeKind := all.find? fun k => k.name = t

@[simp] theorem ofName?_name (k : ChangeKind) : ofName? k.name = some k := by
  cases k <;> decide

end ChangeKind

/-- The news that a regulation changed. -/
structure Announcement where
  kind : ChangeKind
  projectId : Int
  regulationName : Text
  occurredAt : Instant
deriving DecidableEq, Repr

namespace Announcement

/-- The document that is sent. -/
def payload (a : Announcement) : Document :=
  .object
    [("event_type", .text "RegulationChanged"), ("kind", .text a.kind.name),
      ("project_id", .integer a.projectId), ("regulation_name", .text a.regulationName),
      ("occurred_at", .text a.occurredAt.iso)]

end Announcement

end ComplianceRegistry
