import ComplianceRegistry.Registry.Regulations
import ComplianceRegistry.Verdict

/-!
# Statuses

A status holds what was last reported for a regulation and a version of one project. There is one
row for each pair. The three ways of writing set different fields and leave the others as they
are; the first write for a pair adds the row.

## Main definitions

* `StatusWrite` — the ways of writing
* `Statuses.get`, `Statuses.list` — the reads
* `Statuses.put` — writes the fields of a pair
* `Statuses.setValue`, `Statuses.setCompliance`, `Statuses.report`, `Statuses.delete` — the writes
-/

namespace ComplianceRegistry

/-- The fields that one write sets. -/
inductive StatusWrite
  /-- the reported value and its details -/
  | value (value : Option Text) (details : Document)
  /-- the verdict -/
  | compliance (compliant : Option Bool)
  /-- the reported value, its details and the verdict on it -/
  | report (value : Option Text) (details : Document) (compliant : Bool)
deriving DecidableEq, Repr

/-- A status together with the catalog id of its version. -/
structure StatusView where
  status : Status
  catalogId : Text
deriving DecidableEq, Repr

namespace StatusWrite

/-- The row with the fields of the write set. Report details are kept as their column gives them
back. -/
def apply : StatusWrite → Status → Status
  | .value v d, st => { st with value := v, details := d.stored }
  | .compliance c, st => { st with compliant := c }
  | .report v d c, st => { st with value := v, details := d.stored, compliant := some c }

/-- The columns of the write with the cells that were sent, in the order in which they are
recorded. -/
def cells : StatusWrite → List (Text × Cell)
  | .value v d => [("value", .ofText? v), ("report_details", .ofDetails d)]
  | .compliance c => [("is_compliant", .ofTruth? c)]
  | .report v d c =>
    [("value", .ofText? v), ("report_details", .ofDetails d), ("is_compliant", .truth c)]

end StatusWrite

namespace Statuses

/-- The cell of a column of a status, none where the status has no such column. -/
def cellOf (st : Status) (column : Text) : Cell :=
  ((st.columns.find? fun c => c.1 = column).map (·.2)).getD .null

/-- The status with the catalog id of its version, when its regulation and its version belong to
the project. -/
def viewIn? (s : Store) (project : Int) (st : Status) : Option StatusView := do
  let _ ← s.regulation? project st.regulationId
  let v ← s.versions.find? fun v => v.id = st.versionId ∧ v.projectId = project
  some ⟨st, v.catalogId⟩

/-- The status of a regulation and a version of the project. -/
def get (s : Store) (project regulation : Int) (catalogId : Text) : Except Fault StatusView := do
  checkInteger project
  checkInteger regulation
  checkText catalogId
  let views := s.statuses.filterMap (viewIn? s project)
  match views.find? fun w => w.status.regulationId = regulation ∧ w.catalogId = catalogId with
  | some w => .ok w
  | none => .error (.notFound (.status regulation project catalogId))

/-- The statuses of a version of the project, in the order in which their regulations are
listed. -/
def list (s : Store) (project : Int) (catalogId : Text) : Except Fault (List StatusView) := do
  checkInteger project
  checkText catalogId
  let joined := s.statuses.filterMap fun st => do
    let w ← viewIn? s project st
    let r ← s.regulation? project st.regulationId
    if w.catalogId = catalogId then some (r, w) else none
  .ok ((joined.mergeSort fun a b => Regulations.precedes a.1 b.1).map (·.2))

/-- The regulation and the version that a write is about. A missing version is noticed first. -/
def findPair (s : Store) (project regulation : Int) (catalogId : Text) :
    Except Fault (Regulation × Version) := do
  checkInteger project
  checkInteger regulation
  checkText catalogId
  let r ← sole (s.regulationsAt project (.byId regulation))
  let v ← sole (s.versionsAt project catalogId)
  match v, r with
  | some v, some r => .ok (r, v)
  | some _, none => .error (.notFound (.regulation (.byId regulation) project))
  | none, _ => .error (.notFound (.version catalogId))

/-- The notes on a write to the row with this id: one for each field that is set, changed or not,
with the text that was there and the text that was sent. -/
def putNotes (before : Option Status) (id : Int) (w : StatusWrite) : List Trail.Note :=
  w.cells.map fun c =>
    match before with
    | some st => .field .statuses .update id c.1 (cellOf st c.1).shown? c.2.shown?
    | none => .field .statuses .create id c.1 none c.2.shown?

/-- The row of a pair that has none yet, without anything reported. -/
def fresh (ctx : Context) (s : Store) (r : Regulation) (v : Version) : Status where
  id := nextId (s.statuses.map (·.id))
  regulationId := r.id
  versionId := v.id
  value := none
  details := .null
  compliant := none
  createdAt := ctx.clock
  updatedAt := ctx.clock

/-- Writes fields of a pair in one statement. The row is added when the pair has none; otherwise it
keeps its id and the time at which it was added. -/
def upsert (ctx : Context) (r : Regulation) (v : Version) (w : StatusWrite) (s : Store) :
    Except Fault Store :=
  match (s.statusesAt r.id v.id).head? with
  | some st => s.replace (.status { w.apply st with updatedAt := ctx.clock })
  | none => s.insert (.status (w.apply (fresh ctx s r v)))

/-- The status of a regulation and a version, if there is one. -/
def ofPair (s : Store) (r : Regulation) (v : Version) : Except Fault (Option Status) :=
  sole (s.statusesAt r.id v.id)

/-- The id of the row of a pair that was just written. -/
def idOfPair (s : Store) (r : Regulation) (v : Version) : Except Fault Int := do
  match ← ofPair s r v with
  | some st => .ok st.id
  | none => .error .rowUnreadable

/-- Writes fields of the status of a regulation and a version. -/
def put (ctx : Context) (r : Regulation) (v : Version) (w : StatusWrite) : Work Unit := do
  -- the statement does not tell what was there, so it is asked for first
  let before ← Work.query fun s => .ok (s.statusesAt r.id v.id).head?
  Work.write (upsert ctx r v w)
  let id ← Work.query (idOfPair · r v)
  Work.write (Trail.record ctx · (putNotes before id w))
  Work.commit

/-- Writes fields of a status and reads it back. -/
def write (ctx : Context) (project : Int) (r : Regulation) (v : Version) (w : StatusWrite) :
    Work StatusView := do
  put ctx r v w
  Work.query (get · project r.id v.catalogId)

/-- Sets the reported value and its details; the verdict stays. -/
def setValue (ctx : Context) (project regulation : Int) (catalogId : Text)
    (value : Option Text) (details : Document) : Work StatusView := do
  let (r, v) ← Work.query (findPair · project regulation catalogId)
  write ctx project r v (.value value details)

/-- Sets the verdict; the value and its details stay. -/
def setCompliance (ctx : Context) (project regulation : Int) (catalogId : Text)
    (compliant : Option Bool) : Work StatusView := do
  let (r, v) ← Work.query (findPair · project regulation catalogId)
  write ctx project r v (.compliance compliant)

/-- Sets the reported value and its details together with the verdict on the value. -/
def report (ctx : Context) (project regulation : Int) (catalogId : Text)
    (value : Option Text) (details : Document) : Work StatusView := do
  let (r, v) ← Work.query (findPair · project regulation catalogId)
  let type ← Work.query (Catalog.find · r.typeId)
  -- the verdict is reached before anything is written
  let compliant ← Verdict.evaluate type.name r.config value
  write ctx project r v (.report value details compliant)

/-- Deletes the status of a regulation and a version. -/
def delete (ctx : Context) (project regulation : Int) (catalogId : Text) : Work Unit := do
  let (r, v) ← Work.query (findPair · project regulation catalogId)
  match ← Work.query (ofPair · r v) with
  | none => Work.fail (.notFound (.status regulation project catalogId))
  | some st =>
    Work.write (·.remove .statuses st.id)
    Work.write (Trail.record ctx · [.row .statuses .delete st.id])
    Work.commit

end Statuses

end ComplianceRegistry
