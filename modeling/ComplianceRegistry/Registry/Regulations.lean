import ComplianceRegistry.Announcement
import ComplianceRegistry.Config
import ComplianceRegistry.Registry.Catalog

/-!
# Regulations of a project

Regulations are listed, looked up, created, updated and deleted inside their project. A write
checks what it is given, writes the row and its entries in the trail, commits, reads the row back
and announces the change. The config is checked against the type that the regulation will have, and
a name can be had by one regulation of a project only.

## Main definitions

* `Draft`, `Patch` — what a new regulation is to be, and what is to change in an old one
* `Regulations.list`, `Regulations.find` — the reads
* `Regulations.create`, `Regulations.update`, `Regulations.delete` — the writes
-/

namespace ComplianceRegistry

/-- What a new regulation is to be. -/
structure Draft where
  name : Text
  displayName : Option Text
  description : Option Text
  typeId : Int
  config : Option Text
  order : Int
deriving DecidableEq, Repr

/-- What is to change in a regulation. A field that is none stays; the fields that may be empty
are emptied by `some none`. -/
structure Patch where
  name : Option Text
  displayName : Option (Option Text)
  description : Option (Option Text)
  typeId : Option Int
  config : Option (Option Text)
  order : Option Int
deriving DecidableEq, Repr

/-- A regulation together with its type. -/
structure RegulationView where
  regulation : Regulation
  type : RegulationType
deriving DecidableEq, Repr

namespace Regulations

/-- The order of listings: by the order that was asked for, and by id among equals. -/
def precedes (a b : Regulation) : Bool :=
  a.order < b.order || (a.order == b.order && a.id ≤ b.id)

/-- The regulations of a project in the order of listings. -/
def ofProject (s : Store) (project : Int) : List Regulation :=
  (s.regulations.filter fun r => r.projectId = project).mergeSort precedes

/-- A regulation with its type. -/
def view (s : Store) (r : Regulation) : Except Fault RegulationView := do
  .ok ⟨r, ← Catalog.find s r.typeId⟩

/-- The regulations of a project with their types. -/
def list (s : Store) (project : Int) : Except Fault (List RegulationView) := do
  checkInteger project
  (ofProject s project).mapM (view s)

/-- Passes when the parts of an address can be handed to storage. -/
def checkAddress : Address → Except Fault Unit
  | .byId id => checkInteger id
  | .byName name => checkText? name

/-- The regulation of the project at this address. -/
def find (s : Store) (project : Int) (address : Address) : Except Fault Regulation := do
  checkInteger project
  checkAddress address
  match ← sole (s.regulationsAt project address) with
  | some r => .ok r
  | none => .error (.notFound (.regulation address project))

/-- The regulation of the project at this address with its type. -/
def get (s : Store) (project : Int) (address : Address) : Except Fault RegulationView := do
  view s (← find s project address)

/-- The regulation with this id, read again after it was written. -/
def reread (s : Store) (id : Int) : Except Fault RegulationView :=
  match findById (·.id) id s.regulations with
  | some r => view s r
  | none => .error .rowUnreadable

/-- Passes when there is a project with this id. -/
def requireProject (s : Store) (project : Int) : Except Fault Unit := do
  checkInteger project
  if (s.project? project).isNone then .error (.notFound (.project project)) else .ok ()

/-- Passes when no regulation of the project has the name. When another writer is about to take it
the check does not see that. -/
def ensureNameFree (ctx : Context) (s : Store) (project : Int) (name : Text) :
    Except Fault Unit := do
  checkText name
  if !ctx.contended && !(s.regulationsAt project (.byName (some name))).isEmpty then
    .error (.nameTaken name project)
  else .ok ()

/-- Passes when a regulation of the project keeps its name or may take the new one. -/
def ensureRenamable (ctx : Context) (s : Store) (project : Int) (before : Regulation)
    (name : Text) : Except Fault Unit :=
  if name ≠ before.name then ensureNameFree ctx s project name else .ok ()

/-- Writes and commits. A refusal by a constraint of the tables is reported as a clash of names. -/
def commitNaming (name : Text) (project : Int) (writing : Work Unit) : Work Unit :=
  (do writing; Work.commit).rescue fun
    | .constraintViolated => do
      Work.rollback
      Work.fail (.nameTaken name project)
    | fault => Work.fail fault

/-- The announcement of a change to a regulation. -/
def announcement (ctx : Context) (kind : ChangeKind) (r : Regulation) : Announcement where
  kind := kind
  projectId := r.projectId
  regulationName := r.name
  occurredAt := ctx.clock

/-- Reads a regulation again and announces what became of it. -/
def rereadAndAnnounce (ctx : Context) (kind : ChangeKind) (id : Int) : Work RegulationView := do
  let shown ← Work.query (reread · id)
  Work.announce (announcement ctx kind shown.regulation)
  return shown

/-- The row of a new regulation, given its id, its type and the config to keep. -/
def fresh (ctx : Context) (project : Int) (draft : Draft) (id : Int) (type : RegulationType)
    (config : Option Text) : Regulation where
  id := id
  name := draft.name
  displayName := draft.displayName
  description := draft.description
  config := config
  order := draft.order
  typeId := type.id
  projectId := project
  createdAt := ctx.clock
  updatedAt := ctx.clock

/-- Adds a regulation to a project. -/
def create (ctx : Context) (project : Int) (draft : Draft) : Work RegulationView := do
  let type ← Work.query (Catalog.find · draft.typeId)
  Work.query (requireProject · project)
  let config ← Config.settle type.name draft.config
  Work.query (ensureNameFree ctx · project draft.name)
  -- a writer that takes the name only now is met by the constraint of the table
  let id ← Work.query fun s => .ok (nextId (s.regulations.map (·.id)))
  commitNaming draft.name project do
    Work.write (·.insert (.regulation (fresh ctx project draft id type config)))
    Work.write (Trail.record ctx · [.row .regulations .create id])
  rereadAndAnnounce ctx .created id

/-- The regulation with the patched columns, given its type and the config to keep. -/
def patched (r : Regulation) (patch : Patch) (type : RegulationType) (config : Option Text) :
    Regulation :=
  { r with
    name := patch.name.getD r.name
    displayName := patch.displayName.getD r.displayName
    description := patch.description.getD r.description
    config := config
    order := patch.order.getD r.order
    typeId := type.id }

/-- The notes on an update. The type is set as a whole and not as a column, so that the trail has
no entry for it. -/
def updateNotes (before after : Regulation) : List Trail.Note :=
  Trail.changes .regulations before.id before.columns
    { after with typeId := before.typeId, updatedAt := before.updatedAt }.columns

/-- Writes a changed regulation. When no column changes the row is not written and keeps the time
of its last update. -/
def writeChanges (ctx : Context) (before after : Regulation) : Work Unit := do
  if after ≠ before then
    let row := { after with updatedAt := ctx.clock }
    Work.write (·.replace (.regulation row))
    Work.write (Trail.record ctx · (updateNotes before row))

/-- Changes a regulation. The change is announced even when no column changes. -/
def update (ctx : Context) (project : Int) (address : Address) (patch : Patch) :
    Work RegulationView := do
  let before ← Work.query (find · project address)
  let type ← Work.query (Catalog.find · (patch.typeId.getD before.typeId))
  Work.query (ensureRenamable ctx · project before (patch.name.getD before.name))
  let config ← Config.settle type.name (patch.config.getD before.config)
  -- the config is settled anew even when only the type changes
  let after := patched before patch type config
  commitNaming after.name project (writeChanges ctx before after)
  rereadAndAnnounce ctx .updated before.id

/-- Deletes a regulation together with its statuses, which leave no entry of their own. -/
def delete (ctx : Context) (project : Int) (address : Address) : Work RegulationView := do
  let row ← Work.query (find · project address)
  let shown ← Work.query (view · row)
  -- the statuses are removed by one statement, not row by row, so that the trail does not see them
  Work.write fun s => .ok (s.dropStatuses fun st => st.regulationId = row.id)
  Work.write (·.remove .regulations row.id)
  Work.write (Trail.record ctx · [.row .regulations .delete row.id])
  Work.commit
  Work.announce (announcement ctx .deleted row)
  return shown

end Regulations

end ComplianceRegistry
