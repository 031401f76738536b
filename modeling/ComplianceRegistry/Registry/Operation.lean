import ComplianceRegistry.Registry.Answer

/-!
# Operations

Everything that can be asked of the registry is one of a fixed list of operations. An operation
gives its answer, or fails with a fault.

## Main definitions

* `Remark` — an entry that a caller asks to put into the trail by itself
* `Operation` — the operations
* `Answer`, `Answer.document` — what they give back, also as a document
* `Operation.run` — the effect of an operation
-/

namespace ComplianceRegistry

/-- An entry, or one for each of some fields, that a caller asks to put into the trail. What is
absent where the trail needs a value makes the trail refuse it. -/
structure Remark where
  module : Option Text
  action : Option Text
  entityType : Option Text
  entityId : Option Int
  /-- fields with their old and new values; without any there is one entry without a field -/
  changes : List (Text × Document × Document)
deriving DecidableEq, Repr

namespace Remark

/-- The note on no particular field. -/
def plainNote? (r : Remark) : Option Trail.Note := do
  some
    { module := ← r.module
      action := ← r.action
      entityType := ← r.entityType
      entityId := ← r.entityId
      fieldName := none
      oldValue := none
      newValue := none }

/-- The text of a value in the trail, none for null. -/
def valueText? (d : Document) : Option Text := (Cell.ofDetails d).shown?

/-- The notes that a remark asks for. -/
def notes? (r : Remark) : Option (List Trail.Note) := do
  let plain ← r.plainNote?
  if r.changes.isEmpty then some [plain]
  else
    some (r.changes.map fun c =>
      { plain with
        fieldName := some c.1
        oldValue := valueText? c.2.1
        newValue := valueText? c.2.2 })

/-- Puts the entries into the trail. -/
def record (ctx : Context) (r : Remark) (s : Store) : Except Fault Store := do
  checkInteger (r.entityId.getD 0)
  match r.notes? with
  | some notes => Trail.record ctx s notes
  | none => .error .constraintViolated

end Remark

/-- What can be asked of the registry. -/
inductive Operation
  /-- seeds the catalog; `recorded` says whether the process that asks records changes -/
  | seedTypes (recorded : Bool)
  | listTypes
  | findType (id : Int)
  | listRegulations (project : Int)
  | getRegulation (project : Int) (address : Address)
  | createRegulation (project : Int) (draft : Draft)
  | updateRegulation (project : Int) (address : Address) (patch : Patch)
  | deleteRegulation (project : Int) (address : Address)
  | listStatuses (project : Int) (catalogId : Text)
  | getStatus (project regulation : Int) (catalogId : Text)
  | setValue (project regulation : Int) (catalogId : Text) (value : Option Text)
      (details : Document)
  | setCompliance (project regulation : Int) (catalogId : Text) (compliant : Option Bool)
  | report (project regulation : Int) (catalogId : Text) (value : Option Text)
      (details : Document)
  | deleteStatus (project regulation : Int) (catalogId : Text)
  | evaluate (typeName : Text) (config value : Option Text)
  | browseTrail (query : AuditQuery)
  | remark (remark : Remark)
deriving DecidableEq, Repr

/-- What the registry gives back. -/
inductive Answer
  | nothing
  | names (names : List Text)
  | type (type : RegulationType)
  | types (types : List RegulationType)
  | regulation (view : RegulationView)
  | regulations (views : List RegulationView)
  | status (view : StatusView)
  | statuses (views : List StatusView)
  | verdict (compliant : Bool)
  | page (page : AuditPage)
deriving DecidableEq, Repr

/-- The document of an answer. -/
def Answer.document : Answer → Document
  | .nothing => .null
  | .names ns => .list (ns.map .text)
  | .type t => t.answer
  | .types ts => .list (ts.map RegulationType.answer)
  | .regulation v => v.answer
  | .regulations vs => .list (vs.map RegulationView.answer)
  | .status v => v.answer
  | .statuses vs => .list (vs.map StatusView.answer)
  | .verdict c => .truth c
  | .page p => p.answer

namespace Operation

/-- Carries out an operation. -/
def run (ctx : Context) : Operation → Work Answer
  | .seedTypes recorded => .names <$> Catalog.seed recorded ctx
  | .listTypes => .types <$> Work.query fun s => .ok (Catalog.list s)
  | .findType id => .type <$> Work.query (Catalog.find · id)
  | .listRegulations p => .regulations <$> Work.query (Regulations.list · p)
  | .getRegulation p a => .regulation <$> Work.query (Regulations.get · p a)
  | .createRegulation p draft => .regulation <$> Regulations.create ctx p draft
  | .updateRegulation p a patch => .regulation <$> Regulations.update ctx p a patch
  | .deleteRegulation p a => .regulation <$> Regulations.delete ctx p a
  | .listStatuses p v => .statuses <$> Work.query (Statuses.list · p v)
  | .getStatus p r v => .status <$> Work.query (Statuses.get · p r v)
  | .setValue p r v value details => .status <$> Statuses.setValue ctx p r v value details
  | .setCompliance p r v compliant => .status <$> Statuses.setCompliance ctx p r v compliant
  | .report p r v value details => .status <$> Statuses.report ctx p r v value details
  | .deleteStatus p r v => (fun _ => .nothing) <$> Statuses.delete ctx p r v
  | .evaluate typeName config value =>
    .verdict <$> Work.query fun _ => Verdict.evaluate typeName config value
  | .browseTrail query => .page <$> Work.query (AuditPage.find · query)
  | .remark r => do
    Work.write (r.record ctx)
    Work.commit
    return .nothing

end Operation

end ComplianceRegistry
