import ComplianceRegistry.Store.Row

/-!
# The store

The store is the contents of the six tables. A table is a list of rows in the order in which they
were added; every listing says by what it is sorted. A new row gets the id after the largest one
now in its table, so the id of a deleted last row is given again.

## Main definitions

* `Store` — the tables
* `nextId` — the id of the next row of a table
* `Store.type?`, `Store.project?`, `Store.regulation?` — rows by their keys
* `Store.regulationsAt`, `Store.versionsAt`, `Store.statusesAt` — all rows that a key picks
* `sole` — the only one of some rows
* `Store.rows` — the rows of a table in the order of their ids
-/

namespace ComplianceRegistry

/-- The contents of the tables. -/
structure Store where
  types : List RegulationType
  projects : List Project
  versions : List Version
  regulations : List Regulation
  statuses : List Status
  audit : List AuditEntry
deriving DecidableEq, Repr

/-- The id of the next row, given the ids in use: one for the first row, else one more than the
largest. After `2 ^ 63 - 1`, the largest id there is, this is no id any more, and a row that is to
have it is refused. The database picks a free id at random there, which is not modelled. -/
def nextId : List Int → Int
  | [] => 1
  | id :: ids => ids.foldl max id + 1

/-- The largest of some ids and a first one is not below any of them. -/
theorem le_foldl_max {id first : Int} {ids : List Int} (h : id ∈ first :: ids) :
    id ≤ ids.foldl max first := by
  induction ids generalizing id first with
  | nil => simp_all
  | cons a ids ih =>
    have top : max first a ≤ ids.foldl max (max first a) := ih (List.mem_cons_self ..)
    rcases List.mem_cons.1 h with rfl | h
    · exact Int.le_trans (Int.le_max_left id a) top
    · rcases List.mem_cons.1 h with rfl | h
      · exact Int.le_trans (Int.le_max_right first id) top
      · exact ih (List.mem_cons_of_mem _ h)

/-- The next id is larger than every id in use. -/
theorem lt_nextId {id : Int} {ids : List Int} (h : id ∈ ids) : id < nextId ids := by
  cases ids with
  | nil => simp at h
  | cons first ids => exact Int.lt_add_one_of_le (le_foldl_max h)

/-- The row with this id. -/
def findById {α : Type} (id : α → Int) (wanted : Int) (rows : List α) : Option α :=
  rows.find? fun r => id r = wanted

/-- The only one of some rows, if there are any. More than one are a fault. -/
def sole {α : Type} : List α → Except Fault (Option α)
  | [] => .ok none
  | [row] => .ok (some row)
  | _ => .error .rowUnreadable

namespace Store

/-- A store without rows. -/
def empty : Store := ⟨[], [], [], [], [], []⟩

/-- The type with this id. -/
def type? (s : Store) (id : Int) : Option RegulationType := findById (·.id) id s.types

/-- The project with this id. -/
def project? (s : Store) (id : Int) : Option Project := findById (·.id) id s.projects

/-- The regulation of the project with this id. -/
def regulation? (s : Store) (project id : Int) : Option Regulation :=
  s.regulations.find? fun r => r.id = id ∧ r.projectId = project

/-- The regulations of the project at this address. -/
def regulationsAt (s : Store) (project : Int) : Address → List Regulation
  | .byId id => s.regulations.filter fun r => r.id = id ∧ r.projectId = project
  | .byName (some name) => s.regulations.filter fun r => r.name = name ∧ r.projectId = project
  | .byName none => []

/-- The versions of the project with this catalog id. -/
def versionsAt (s : Store) (project : Int) (catalogId : Text) : List Version :=
  s.versions.filter fun v => v.catalogId = catalogId ∧ v.projectId = project

/-- The statuses of a regulation and a version, both by the ids of their rows. -/
def statusesAt (s : Store) (regulationId versionId : Int) : List Status :=
  s.statuses.filter fun st => st.regulationId = regulationId ∧ st.versionId = versionId

/-- The rows of a table in the order in which they were added. -/
def unsortedRows (s : Store) : Table → List Row
  | .projects => s.projects.map .project
  | .versions => s.versions.map .version
  | .types => s.types.map .type
  | .regulations => s.regulations.map .regulation
  | .statuses => s.statuses.map .status
  | .audit => s.audit.map .audit

/-- The rows of a table in the order of their ids. -/
def rows (s : Store) (t : Table) : List Row :=
  (s.unsortedRows t).mergeSort fun a b => a.id ≤ b.id

/-- The row of a table with this id. -/
def row? (s : Store) (t : Table) (id : Int) : Option Row := findById Row.id id (s.unsortedRows t)

/-- The id of the next row of a table. -/
def nextIdOf (s : Store) (t : Table) : Int := nextId ((s.unsortedRows t).map Row.id)

end Store

end ComplianceRegistry
