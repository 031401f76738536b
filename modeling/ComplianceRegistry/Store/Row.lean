import ComplianceRegistry.Document.Column
import ComplianceRegistry.Document.Literal
import ComplianceRegistry.Instant
import ComplianceRegistry.Store.Table

/-!
# Rows

A row of each table is a structure of its own. For the audit trail, for plain listings and for
edits by column, a row is also seen as the list of its columns with their cells.

## Main definitions

* `RegulationType`, `Project`, `Version`, `Regulation`, `Status`, `AuditEntry` — the rows
* `Cell` — the value of one column, with its text for the audit trail
* `Row` — a row of any table; `Row.columns` lists its columns in table order
-/

namespace ComplianceRegistry

/-- An entry of the type catalog. -/
structure RegulationType where
  id : Int
  name : Text
  description : Option Text
deriving DecidableEq, Repr

/-- A project that owns versions and regulations. -/
structure Project where
  id : Int
  name : Text
  description : Option Text
  createdAt : Instant
  updatedAt : Instant
deriving DecidableEq, Repr

/-- An uploaded version of a project, known to reporters by its catalog id. -/
structure Version where
  id : Int
  catalogId : Text
  projectId : Int
  label : Option Text
  createdAt : Instant
deriving DecidableEq, Repr

/-- A rule that the versions of a project have to meet. -/
structure Regulation where
  id : Int
  name : Text
  displayName : Option Text
  description : Option Text
  config : Option Text
  order : Int
  typeId : Int
  projectId : Int
  createdAt : Instant
  updatedAt : Instant
deriving DecidableEq, Repr

/-- What was last reported for a regulation and a version. -/
structure Status where
  id : Int
  regulationId : Int
  versionId : Int
  value : Option Text
  details : Document
  compliant : Option Bool
  createdAt : Instant
  updatedAt : Instant
deriving DecidableEq, Repr

/-- A record of the audit trail: a row came, went, or had one field changed. -/
structure AuditEntry where
  id : Int
  userId : Option Int
  module : Text
  action : Text
  entityType : Text
  entityId : Int
  fieldName : Option Text
  oldValue : Option Text
  newValue : Option Text
  address : Option Text
  createdAt : Instant
deriving DecidableEq, Repr

/-! ### Cells -/

/-- The value of one column of a row. -/
inductive Cell
  | null
  | integer (value : Int)
  | text (value : Text)
  | truth (value : Bool)
  | details (value : Document)
  | instant (value : Instant)
deriving DecidableEq, Repr

namespace Cell

/-- The cell of an optional text. -/
def ofText? : Option Text → Cell
  | some t => .text t
  | none => .null

/-- The cell of an optional truth value. -/
def ofTruth? : Option Bool → Cell
  | some b => .truth b
  | none => .null

/-- The cell of an optional integer. -/
def ofInteger? : Option Int → Cell
  | some n => .integer n
  | none => .null

/-- The cell of a report document; the null document is no value. -/
def ofDetails : Document → Cell
  | .null => .null
  | d => .details d

/-- The text of a cell in the audit trail, none for a column without value. -/
def shown? : Cell → Option Text
  | .null => none
  | .integer n => some (Text.ofInt n)
  | .text t => some t
  | .truth b => some (Document.truth b).shown
  | .details d => some d.shown
  | .instant t => some t.display

/-- The cell in a plain listing. -/
def listed : Cell → Document
  | .null => .null
  | .integer n => .integer n
  | .text t => .text t
  | .truth b => .truth b
  | .details d => d.withoutInfinities
  | .instant t => .text t.iso

/-- The cells hold equal values. Report documents are compared as values. -/
def equals : Cell → Cell → Bool
  | .details d, .details e => d.equals e
  | c, d => c == d

/-- Passes when the cell can be handed to storage. -/
def check : Cell → Except Fault Unit
  | .integer n => checkInteger n
  | .text t => checkText t
  | _ => .ok ()

end Cell

/-! ### Columns of the rows -/

namespace RegulationType

/-- The columns of a type in table order. -/
def columns (r : RegulationType) : List (Text × Cell) :=
  [("id", .integer r.id), ("name", .text r.name), ("description", .ofText? r.description)]

end RegulationType

namespace Project

/-- The columns of a project in table order. -/
def columns (r : Project) : List (Text × Cell) :=
  [("id", .integer r.id), ("name", .text r.name), ("description", .ofText? r.description),
    ("created_at", .instant r.createdAt), ("updated_at", .instant r.updatedAt)]

end Project

namespace Version

/-- The columns of a version in table order. -/
def columns (r : Version) : List (Text × Cell) :=
  [("id", .integer r.id), ("catalog_id", .text r.catalogId), ("project_id", .integer r.projectId),
    ("version", .ofText? r.label), ("created_at", .instant r.createdAt)]

end Version

namespace Regulation

/-- The columns of a regulation in table order. -/
def columns (r : Regulation) : List (Text × Cell) :=
  [("id", .integer r.id), ("name", .text r.name), ("display_name", .ofText? r.displayName),
    ("description", .ofText? r.description), ("config", .ofText? r.config),
    ("order", .integer r.order), ("type_id", .integer r.typeId),
    ("project_id", .integer r.projectId), ("created_at", .instant r.createdAt),
    ("updated_at", .instant r.updatedAt)]

end Regulation

namespace Status

/-- The columns of a status in table order. -/
def columns (r : Status) : List (Text × Cell) :=
  [("id", .integer r.id), ("regulation_id", .integer r.regulationId),
    ("version_id", .integer r.versionId), ("value", .ofText? r.value),
    ("report_details", .ofDetails r.details), ("is_compliant", .ofTruth? r.compliant),
    ("created_at", .instant r.createdAt), ("updated_at", .instant r.updatedAt)]

end Status

namespace AuditEntry

/-- The columns of an audit entry in table order. -/
def columns (r : AuditEntry) : List (Text × Cell) :=
  [("id", .integer r.id), ("user_id", .ofInteger? r.userId), ("module", .text r.module),
    ("action", .text r.action), ("entity_type", .text r.entityType),
    ("entity_id", .integer r.entityId), ("field_name", .ofText? r.fieldName),
    ("old_value", .ofText? r.oldValue), ("new_value", .ofText? r.newValue),
    ("ip_address", .ofText? r.address), ("created_at", .instant r.createdAt)]

end AuditEntry

/-- A row of any table. -/
inductive Row
  | project (row : Project)
  | version (row : Version)
  | type (row : RegulationType)
  | regulation (row : Regulation)
  | status (row : Status)
  | audit (row : AuditEntry)
deriving DecidableEq, Repr

namespace Row

/-- The table of a row. -/
def table : Row → Table
  | .project _ => .projects
  | .version _ => .versions
  | .type _ => .types
  | .regulation _ => .regulations
  | .status _ => .statuses
  | .audit _ => .audit

/-- The id of a row. -/
def id : Row → Int
  | .project r => r.id
  | .version r => r.id
  | .type r => r.id
  | .regulation r => r.id
  | .status r => r.id
  | .audit r => r.id

/-- The columns of a row in table order. -/
def columns : Row → List (Text × Cell)
  | .project r => r.columns
  | .version r => r.columns
  | .type r => r.columns
  | .regulation r => r.columns
  | .status r => r.columns
  | .audit r => r.columns

/-- The row as an object of its columns. -/
def listed (r : Row) : Document := .object (r.columns.map fun c => (c.1, c.2.listed))

/-- Passes when every cell of the row can be handed to storage. -/
def check (r : Row) : Except Fault Unit := r.columns.forM fun c => c.2.check

end Row

end ComplianceRegistry
