import ComplianceRegistry.Text.Basic

/-!
# The tables

The registry keeps six tables. Two of them, projects and versions, belong to the side that uploads
builds, and the registry only reads them; the audit trail records the changes of all the others.

## Main definitions

* `Table`, `Table.name` — the tables
* `Table.moduleOf` — the part of the platform that a table belongs to, by the table's name
-/

namespace ComplianceRegistry

/-- The tables of the registry. -/
inductive Table
  | projects
  | versions
  | types
  | regulations
  | statuses
  | audit
deriving DecidableEq, Repr

namespace Table

/-- The tables, each after those it refers to. -/
def all : List Table := [.projects, .versions, .types, .regulations, .statuses, .audit]

/-- The name of a table. -/
def name : Table → Text
  | .projects => "projects"
  | .versions => "upload_versions"
  | .types => "regulation_types"
  | .regulations => "regulations"
  | .statuses => "regulation_statuses"
  | .audit => "audit_log"

/-- The table of a name. -/
def ofName? (t : Text) : Option Table := all.find? fun table => table.name = t

/-- The part of the platform that the audited table belongs to, none for the trail itself. -/
def owner? : Table → Option Text
  | .projects | .versions => some "projects"
  | .types | .regulations | .statuses => some "regulations"
  | .audit => none

/-- The module under which changes to the named table are recorded; a name without an owner is its
own module. -/
def moduleOf (tableName : Text) : Text :=
  ((ofName? tableName).bind owner?).getD tableName

theorem name_injective {a b : Table} (h : a.name = b.name) : a = b := by
  cases a <;> cases b <;> first | rfl | (revert h; decide)

@[simp] theorem ofName?_name (t : Table) : ofName? t.name = some t := by
  cases t <;> decide

end Table

end ComplianceRegistry
