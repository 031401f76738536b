import ComplianceRegistry.Store.Basic

/-!
# Writing rows

Rows are added, replaced and removed one at a time, and each write keeps the constraints of the
tables: ids are unique in each table; the names of projects and of types, the catalog ids of
versions, the names of the regulations of a project and the pairs of the statuses are unique; and
every row refers to rows that exist. A write that would break a constraint is refused.

A row that others refer to keeps its id. Removing a row removes the rows that belong to it: the
versions and regulations of a project, and the statuses of a version or regulation. A type in use
cannot be removed.

## Main definitions

* `Store.Admits` — the store keeps its constraints with one more row
* `Store.insert`, `Store.replace`, `Store.move`, `Store.remove` — the writes
-/

namespace ComplianceRegistry

namespace Store

/-- A row with another id does not clash with the new row, and the rows it refers to exist. The
rows of its own table that have its id are left out of account. -/
def Admits (s : Store) : Row → Prop
  | .project r => ∀ p ∈ s.projects, p.id ≠ r.id → p.name ≠ r.name
  | .version r =>
    (∀ v ∈ s.versions, v.id ≠ r.id → v.catalogId ≠ r.catalogId) ∧
      (∃ p ∈ s.projects, p.id = r.projectId)
  | .type r => ∀ t ∈ s.types, t.id ≠ r.id → t.name ≠ r.name
  | .regulation r =>
    (∀ g ∈ s.regulations, g.id ≠ r.id → ¬ (g.projectId = r.projectId ∧ g.name = r.name)) ∧
      (∃ t ∈ s.types, t.id = r.typeId) ∧ (∃ p ∈ s.projects, p.id = r.projectId)
  | .status r =>
    (∀ st ∈ s.statuses, st.id ≠ r.id →
        ¬ (st.regulationId = r.regulationId ∧ st.versionId = r.versionId)) ∧
      (∃ g ∈ s.regulations, g.id = r.regulationId) ∧ (∃ v ∈ s.versions, v.id = r.versionId)
  | .audit _ => True

instance (s : Store) (r : Row) : Decidable (s.Admits r) := by
  cases r <;> unfold Admits <;> infer_instance

/-- The store with the row put at the end of its table. -/
def push (s : Store) : Row → Store
  | .project r => { s with projects := s.projects ++ [r] }
  | .version r => { s with versions := s.versions ++ [r] }
  | .type r => { s with types := s.types ++ [r] }
  | .regulation r => { s with regulations := s.regulations ++ [r] }
  | .status r => { s with statuses := s.statuses ++ [r] }
  | .audit r => { s with audit := s.audit ++ [r] }

/-- The rows with the row put in the place of the one with its id. -/
def putById {α : Type} (id : α → Int) (row : α) (rows : List α) : List α :=
  rows.map fun r => if id r = id row then row else r

/-- The store with the row put in the place of the one with its id. -/
def put (s : Store) : Row → Store
  | .project r => { s with projects := putById (·.id) r s.projects }
  | .version r => { s with versions := putById (·.id) r s.versions }
  | .type r => { s with types := putById (·.id) r s.types }
  | .regulation r => { s with regulations := putById (·.id) r s.regulations }
  | .status r => { s with statuses := putById (·.id) r s.statuses }
  | .audit r => { s with audit := putById (·.id) r s.audit }

/-- Adds a row whose id is not yet in use. A row that is numbered on from the largest id
`2 ^ 63 - 1` fails the check of its id, where the database would pick a free id at random. -/
def insert (s : Store) (r : Row) : Except Fault Store := do
  r.check
  if (s.row? r.table r.id).isNone ∧ s.Admits r then .ok (s.push r)
  else .error .constraintViolated

/-- Replaces the row with the same id. -/
def replace (s : Store) (r : Row) : Except Fault Store := do
  r.check
  if s.Admits r then .ok (s.put r) else .error .constraintViolated

/-- A row refers to the row of the table with this id. -/
def IsReferred (s : Store) (id : Int) : Table → Prop
  | .projects =>
    (∃ v ∈ s.versions, v.projectId = id) ∨ (∃ g ∈ s.regulations, g.projectId = id)
  | .versions => ∃ st ∈ s.statuses, st.versionId = id
  | .types => ∃ g ∈ s.regulations, g.typeId = id
  | .regulations => ∃ st ∈ s.statuses, st.regulationId = id
  | .statuses | .audit => False

instance (s : Store) (id : Int) (t : Table) : Decidable (s.IsReferred id t) := by
  cases t <;> unfold IsReferred <;> infer_instance

/-- The store without the row of a table with this id. All other rows stay. -/
def lift (s : Store) (id : Int) : Table → Store
  | .projects => { s with projects := s.projects.filter fun r => r.id ≠ id }
  | .versions => { s with versions := s.versions.filter fun r => r.id ≠ id }
  | .types => { s with types := s.types.filter fun r => r.id ≠ id }
  | .regulations => { s with regulations := s.regulations.filter fun r => r.id ≠ id }
  | .statuses => { s with statuses := s.statuses.filter fun r => r.id ≠ id }
  | .audit => { s with audit := s.audit.filter fun r => r.id ≠ id }

/-- Replaces the row with the given id by one that may have another id. -/
def move (s : Store) (id : Int) (r : Row) : Except Fault Store := do
  if r.id = id then s.replace r
  else
    r.check
    if s.IsReferred id r.table then .error .constraintViolated
    else (s.lift id r.table).insert r

/-- The store without the statuses that the predicate picks. -/
def dropStatuses (s : Store) (p : Status → Bool) : Store :=
  { s with statuses := s.statuses.filter fun st => !p st }

/-- The store without a version and its statuses. -/
def dropVersion (s : Store) (id : Int) : Store :=
  { s.dropStatuses (fun st => st.versionId = id) with
    versions := s.versions.filter fun v => v.id ≠ id }

/-- The store without a regulation and its statuses. -/
def dropRegulation (s : Store) (id : Int) : Store :=
  { s.dropStatuses (fun st => st.regulationId = id) with
    regulations := s.regulations.filter fun g => g.id ≠ id }

/-- The store without a project and all that belongs to it. -/
def dropProject (s : Store) (id : Int) : Store :=
  let versions := (s.versions.filter fun v => v.projectId = id).map (·.id)
  let regulations := (s.regulations.filter fun g => g.projectId = id).map (·.id)
  let bare := regulations.foldl dropRegulation (versions.foldl dropVersion s)
  { bare with projects := s.projects.filter fun p => p.id ≠ id }

/-- Removes the row of a table with this id and the rows that belong to it. -/
def remove (s : Store) (t : Table) (id : Int) : Except Fault Store :=
  match t with
  | .projects => .ok (s.dropProject id)
  | .versions => .ok (s.dropVersion id)
  | .types =>
    if s.regulations.any fun g => g.typeId = id then .error .constraintViolated
    else .ok { s with types := s.types.filter fun r => r.id ≠ id }
  | .regulations => .ok (s.dropRegulation id)
  | .statuses => .ok (s.dropStatuses fun st => st.id = id)
  | .audit => .ok { s with audit := s.audit.filter fun r => r.id ≠ id }

end Store

end ComplianceRegistry
