import ComplianceRegistry.Schema.Description

/-!
# Statements of a migration

A migration is a list of statements: tables and indexes are created and dropped, and the version
table is told which revision is in force. Each statement is written on one line with single blanks.

## Main definitions

* `Statement` — the statements
* `Statement.text` — how a statement is written
-/

namespace ComplianceRegistry

/-- A statement of a migration. -/
inductive Statement
  | createTable (d : Description)
  | createIndex (t : Table) (i : Index)
  /-- an index is dropped by its name -/
  | dropIndex (name : Text)
  | dropTable (t : Table)
  /-- notes a revision in the version table -/
  | enter (revision : Text)
  /-- strikes a revision from the version table -/
  | leave (revision : Text)
deriving DecidableEq, Repr

namespace Statement

/-! ### Texts -/

/-- The name of the version table. -/
def ledgerName : Text := "alembic_version"

/-- Names joined by commas. -/
def names (columns : List Text) : Text := Text.joined ", " columns

/-- A name as it stands in a statement; the one reserved word among them is quoted. -/
def identifier (name : Text) : Text :=
  if name = ("order" : Text) then ("\"order\"" : Text) else name

/-- A column in a statement that creates its table. -/
def column (c : Column) : Text :=
  identifier c.name ++ (" " : Text) ++ c.type.name ++
    (match c.default with
      | some value => (" DEFAULT " : Text) ++ value
      | none => []) ++
    (if c.nullable then [] else (" NOT NULL" : Text))

/-- A uniqueness constraint, with its name if it has one. -/
def uniqueness (u : Uniqueness) : Text :=
  (match u.name with
    | some name => ("CONSTRAINT " : Text) ++ name ++ (" " : Text)
    | none => []) ++
    ("UNIQUE (" : Text) ++ names u.columns ++ (")" : Text)

/-- A reference to another table. -/
def reference (r : Reference) : Text :=
  ("FOREIGN KEY(" : Text) ++ r.column ++ (") REFERENCES " : Text) ++ r.target.name ++
    (" (id)" : Text) ++ (if r.cascade then (" ON DELETE CASCADE" : Text) else [])

/-- A statement as it is written. -/
def text : Statement → Text
  | .createTable d =>
    ("CREATE TABLE " : Text) ++ d.table.name ++ (" ( " : Text) ++
      names (d.columns.map column ++ [("PRIMARY KEY (id)" : Text)] ++ d.unique.map uniqueness ++
        d.references.map reference) ++ (" )" : Text)
  | .createIndex t i =>
    ("CREATE INDEX " : Text) ++ i.name ++ (" ON " : Text) ++ t.name ++ (" (" : Text) ++
      names i.columns ++ (")" : Text)
  | .dropIndex name => ("DROP INDEX " : Text) ++ name
  | .dropTable t => ("DROP TABLE " : Text) ++ t.name
  | .enter revision =>
    ("INSERT INTO " : Text) ++ ledgerName ++ (" (version_num) VALUES ('" : Text) ++ revision ++
      ("') RETURNING version_num" : Text)
  | .leave revision =>
    ("DELETE FROM " : Text) ++ ledgerName ++ (" WHERE " : Text) ++ ledgerName ++
      (".version_num = '" : Text) ++ revision ++ ("'" : Text)

end Statement

end ComplianceRegistry
