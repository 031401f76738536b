import ComplianceRegistry.Store.Row

/-!
# Rows from their columns

A row is made from a list of cells that names the columns. A column without a cell is empty, and
a row whose needed columns are not all filled does not exist.

## Main definitions

* `Cell.integer?`, `Cell.text?`, … — what a cell holds
* `Row.ofCells?` — the row with the given cells
-/

namespace ComplianceRegistry

namespace Cell

/-- The integer in the cell. -/
def integer? : Cell → Option Int
  | .integer n => some n
  | _ => none

/-- The text in the cell. -/
def text? : Cell → Option Text
  | .text t => some t
  | _ => none

/-- The truth value in the cell. -/
def truth? : Cell → Option Bool
  | .truth b => some b
  | _ => none

/-- The instant in the cell. -/
def instant? : Cell → Option Instant
  | .instant t => some t
  | _ => none

/-- The report document in the cell; an empty cell holds the null document. -/
def details? : Cell → Option Document
  | .null => some .null
  | .details d => some d
  | _ => none

/-- What the reader takes from a cell that may be empty. -/
def orNull {α : Type} (read : Cell → Option α) : Cell → Option (Option α)
  | .null => some none
  | c => (read c).map some

end Cell

namespace Row

/-- The cell under a name. -/
def cellUnder (cells : List (Text × Cell)) (name : Text) : Cell :=
  ((cells.find? fun c => c.1 = name).map (·.2)).getD .null

/-- The row of a table with the given cells; none if a cell that must be filled is empty. -/
def ofCells? (table : Table) (cells : List (Text × Cell)) : Option Row :=
  let cell := cellUnder cells
  match table with
  | .projects => do
    some (.project
      { id := ← (cell "id").integer?
        name := ← (cell "name").text?
        description := ← (cell "description").orNull Cell.text?
        createdAt := ← (cell "created_at").instant?
        updatedAt := ← (cell "updated_at").instant? })
  | .versions => do
    some (.version
      { id := ← (cell "id").integer?
        catalogId := ← (cell "catalog_id").text?
        projectId := ← (cell "project_id").integer?
        label := ← (cell "version").orNull Cell.text?
        createdAt := ← (cell "created_at").instant? })
  | .types => do
    some (.type
      { id := ← (cell "id").integer?
        name := ← (cell "name").text?
        description := ← (cell "description").orNull Cell.text? })
  | .regulations => do
    some (.regulation
      { id := ← (cell "id").integer?
        name := ← (cell "name").text?
        displayName := ← (cell "display_name").orNull Cell.text?
        description := ← (cell "description").orNull Cell.text?
        config := ← (cell "config").orNull Cell.text?
        order := ← (cell "order").integer?
        typeId := ← (cell "type_id").integer?
        projectId := ← (cell "project_id").integer?
        createdAt := ← (cell "created_at").instant?
        updatedAt := ← (cell "updated_at").instant? })
  | .statuses => do
    some (.status
      { id := ← (cell "id").integer?
        regulationId := ← (cell "regulation_id").integer?
        versionId := ← (cell "version_id").integer?
        value := ← (cell "value").orNull Cell.text?
        details := ← (cell "report_details").details?
        compliant := ← (cell "is_compliant").orNull Cell.truth?
        createdAt := ← (cell "created_at").instant?
        updatedAt := ← (cell "updated_at").instant? })
  | .audit => do
    some (.audit
      { id := ← (cell "id").integer?
        userId := ← (cell "user_id").orNull Cell.integer?
        module := ← (cell "module").text?
        action := ← (cell "action").text?
        entityType := ← (cell "entity_type").text?
        entityId := ← (cell "entity_id").integer?
        fieldName := ← (cell "field_name").orNull Cell.text?
        oldValue := ← (cell "old_value").orNull Cell.text?
        newValue := ← (cell "new_value").orNull Cell.text?
        address := ← (cell "ip_address").orNull Cell.text?
        createdAt := ← (cell "created_at").instant? })

end Row

end ComplianceRegistry
