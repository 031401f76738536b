import ComplianceRegistry.Context
import ComplianceRegistry.Store.Write

/-!
# The audit trail

Every change of a row is recorded: one entry for a row that came or went, and one entry with the
old and the new text for each field that changed. Entries are added at the end of the trail with
the user, the address and the clock of the operation that caused them.

## Main definitions

* `Trail.Action` — what happened to a row
* `Trail.Note` — what is to be recorded, before the context is known
* `Trail.changes` — the notes on two states of a row
* `Trail.record` — adds the entries to the trail
-/

namespace ComplianceRegistry.Trail

/-- What happened to a row. -/
inductive Action
  | create
  | update
  | delete
deriving DecidableEq, Repr

namespace Action

/-- The actions. -/
def all : List Action := [.create, .update, .delete]

/-- The name of an action in the trail. -/
def name : Action → Text
  | .create => "create"
  | .update => "update"
  | .delete => "delete"

/-- The action of a name. -/
def ofName? (t : Text) : Option Action := all.find? fun a => a.name = t

@[simp] theorem ofName?_name (a : Action) : ofName? a.name = some a := by
  cases a <;> decide

end Action

/-- What is to be recorded. -/
structure Note where
  module : Text
  action : Text
  entityType : Text
  entityId : Int
  fieldName : Option Text
  oldValue : Option Text
  newValue : Option Text
deriving DecidableEq, Repr

namespace Note

/-- A row as a whole came or went. -/
def row (table : Table) (action : Action) (id : Int) : Note where
  module := Table.moduleOf table.name
  action := action.name
  entityType := table.name
  entityId := id
  fieldName := none
  oldValue := none
  newValue := none

/-- One field of a row was written. -/
def field (table : Table) (action : Action) (id : Int) (name : Text) (old new : Option Text) :
    Note :=
  { row table action id with fieldName := some name, oldValue := old, newValue := new }

/-- The entry that a note becomes. -/
def entry (n : Note) (ctx : Context) (id : Int) : AuditEntry where
  id := id
  userId := ctx.user
  module := n.module
  action := n.action
  entityType := n.entityType
  entityId := n.entityId
  fieldName := n.fieldName
  oldValue := n.oldValue
  newValue := n.newValue
  address := ctx.address
  createdAt := ctx.clock

end Note

/-- The notes on the columns that differ between two states of the row with this id. The columns
are given in the same order for both. -/
def changes (table : Table) (id : Int) (before after : List (Text × Cell)) : List Note :=
  (before.zip after).filterMap fun (b, a) =>
    if b.2.equals a.2 then none
    else some (.field table .update id a.1 b.2.shown? a.2.shown?)

/-- Adds an entry for each note in order. Behind an entry with the largest id `2 ^ 63 - 1` no other
can be added, where the database would pick a free id at random. -/
def record (ctx : Context) (s : Store) : List Note → Except Fault Store
  | [] => .ok s
  | n :: notes => do
    let entry := n.entry ctx (nextId (s.audit.map (·.id)))
    (Row.audit entry).check
    record ctx (s.push (.audit entry)) notes

end ComplianceRegistry.Trail
