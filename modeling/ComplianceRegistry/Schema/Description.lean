import ComplianceRegistry.Store.Table

/-!
# The description of the tables

Each table is described by its columns and constraints. The statements that create the tables, the
statement that writes a status, and the overview of a migrated database are all read off these
descriptions.

## Main definitions

* `ColumnType`, `Column`, `Uniqueness`, `Reference`, `Index` — the parts of a description
* `Description`, `Description.ofTable` — the descriptions of the tables
-/

namespace ComplianceRegistry

/-- The type of a column. -/
inductive ColumnType
  | integer
  | varchar (length : Nat)
  /-- one of a few words, kept as text -/
  | choice (length : Nat)
  | text
  | datetime
  | boolean
  | json
deriving DecidableEq, Repr

/-- The name of a type. -/
def ColumnType.name : ColumnType → Text
  | .integer => "INTEGER"
  | .varchar n | .choice n => ("VARCHAR(" : Text) ++ Text.ofNat n ++ (")" : Text)
  | .text => "TEXT"
  | .datetime => "DATETIME"
  | .boolean => "BOOLEAN"
  | .json => "JSON"

/-- A column. -/
structure Column where
  name : Text
  type : ColumnType
  nullable : Bool
  /-- the expression for a value that is not given -/
  default : Option Text
deriving DecidableEq, Repr

namespace Column

/-- A column that must have a value. -/
def needed (name : Text) (type : ColumnType) : Column := ⟨name, type, false, none⟩

/-- A column that may be empty. -/
def spare (name : Text) (type : ColumnType) : Column := ⟨name, type, true, none⟩

/-- A column that is filled with the current time. -/
def timestamp (name : Text) : Column := ⟨name, .datetime, false, some "CURRENT_TIMESTAMP"⟩

end Column

/-- Columns whose values together are unique. -/
structure Uniqueness where
  name : Option Text
  columns : List Text
deriving DecidableEq, Repr

/-- A column that holds the id of a row of another table. -/
structure Reference where
  column : Text
  target : Table
  /-- removing the row of the other table removes the row -/
  cascade : Bool
deriving DecidableEq, Repr

/-- An index. -/
structure Index where
  name : Text
  columns : List Text
deriving DecidableEq, Repr

/-- The description of a table. Its key is always the column `id`. -/
structure Description where
  table : Table
  columns : List Column
  unique : List Uniqueness
  references : List Reference
  indexes : List Index
deriving DecidableEq, Repr

namespace Description

/-- The name of the constraint that a status write resolves its conflicts by. -/
def pairConstraint : Text := "regulation_version_unique_constraint"

/-- The description of a table. -/
def ofTable : Table → Description
  | .projects =>
    { table := .projects
      columns :=
        [.needed "id" .integer, .needed "name" (.varchar 200), .spare "description" .text,
          .timestamp "created_at", .timestamp "updated_at"]
      unique := [⟨none, ["name"]⟩]
      references := []
      indexes := [] }
  | .versions =>
    { table := .versions
      columns :=
        [.needed "id" .integer, .needed "catalog_id" (.varchar 100), .needed "project_id" .integer,
          .spare "version" (.varchar 100), .timestamp "created_at"]
      unique := [⟨none, ["catalog_id"]⟩]
      references := [⟨"project_id", .projects, true⟩]
      indexes := [] }
  | .types =>
    { table := .types
      columns :=
        [.needed "id" .integer, .needed "name" (.varchar 50), .spare "description" .text]
      unique := [⟨none, ["name"]⟩]
      references := []
      indexes := [] }
  | .regulations =>
    { table := .regulations
      columns :=
        [.needed "id" .integer, .needed "name" (.varchar 200),
          .spare "display_name" (.varchar 300), .spare "description" .text,
          .spare "config" (.varchar 500), ⟨"order", .integer, false, some "'0'"⟩,
          .needed "type_id" .integer, .needed "project_id" .integer, .timestamp "created_at",
          .timestamp "updated_at"]
      unique := [⟨some "uq_regulation_project_name", ["project_id", "name"]⟩]
      references := [⟨"type_id", .types, false⟩, ⟨"project_id", .projects, true⟩]
      indexes := [] }
  | .statuses =>
    { table := .statuses
      columns :=
        [.needed "id" .integer, .needed "regulation_id" .integer, .needed "version_id" .integer,
          .spare "value" .text, .spare "report_details" .json, .spare "is_compliant" .boolean,
          .timestamp "created_at", .timestamp "updated_at"]
      unique := [⟨some pairConstraint, ["regulation_id", "version_id"]⟩]
      references := [⟨"regulation_id", .regulations, true⟩, ⟨"version_id", .versions, true⟩]
      indexes := [] }
  | .audit =>
    { table := .audit
      columns :=
        [.needed "id" .integer, .spare "user_id" .integer, .needed "module" (.varchar 50),
          .needed "action" (.choice 6), .needed "entity_type" (.varchar 50),
          .needed "entity_id" .integer, .spare "field_name" (.varchar 100),
          .spare "old_value" .text, .spare "new_value" .text, .spare "ip_address" (.varchar 45),
          .timestamp "created_at"]
      unique := []
      references := []
      indexes := [⟨"idx_audit_log_entity", ["entity_type", "entity_id"]⟩] }

end Description

end ComplianceRegistry
