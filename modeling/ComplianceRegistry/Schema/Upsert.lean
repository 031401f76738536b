import ComplianceRegistry.Schema.Statement

/-!
# The statement that writes a status

A status is written by one statement that adds the row of a pair, or updates it if the pair has
one. Databases word it differently; a dialect without such a statement is refused.

## Main definitions

* `Dialect` — the ways of wording it
* `Upsert.Refusal` — why there is no statement
* `Upsert.statement` — the statement for the given columns
-/

namespace ComplianceRegistry

/-- The ways of wording a statement that adds or updates. -/
inductive Dialect
  | sqlite
  | mysql
  | postgresql
deriving DecidableEq, Repr

/-- The dialect of a database's name. -/
def Dialect.ofName? (t : Text) : Option Dialect :=
  if t = ("sqlite" : Text) then some .sqlite
  else if t = ("mysql" : Text) ∨ t = ("mariadb" : Text) then some .mysql
  else if t = ("postgresql" : Text) then some .postgresql
  else none

namespace Upsert

/-- The message for a database without a dialect. -/
def refusal (name : Text) : Text :=
  ("No atomic upsert available for database dialect '" : Text) ++ name ++ ("'" : Text)

/-- The columns that are filled: those that are given and the two times, in table order. -/
def filled (given : List Text) : List Column :=
  (Description.ofTable .statuses).columns.filter fun c =>
    c.name ∈ given ∨ c.name = ("created_at" : Text) ∨ c.name = ("updated_at" : Text)

/-- The type that a placeholder is marked with. -/
def cast : ColumnType → Text
  | .integer => "::INTEGER"
  | .varchar _ | .choice _ | .text => "::VARCHAR"
  | .json => "::JSON"
  | .boolean => []
  | .datetime => "::TIMESTAMP WITHOUT TIME ZONE"

/-- A named placeholder. -/
def named (name : Text) (type : ColumnType) : Text :=
  ("%(" : Text) ++ name ++ (")s" : Text) ++ cast type

/-- The placeholder of a column. -/
def placeholder (d : Dialect) (c : Column) : Text :=
  match d with
  | .sqlite => "?"
  | .mysql => "%s"
  | .postgresql => named c.name c.type

/-- The placeholder of the time of the update. -/
def updateTime : Dialect → Text
  | .sqlite => "?"
  | .mysql => "%s"
  | .postgresql => named "param_1" .datetime

/-- The new value of a column that is updated. -/
def newValue (d : Dialect) (column : Text) : Text :=
  match d with
  | .mysql => ("VALUES(" : Text) ++ column ++ (")" : Text)
  | _ => ("excluded." : Text) ++ column

/-- What is to be done when the pair has a row. -/
def onConflict : Dialect → Text
  | .sqlite => " ON CONFLICT (regulation_id, version_id) DO UPDATE SET "
  | .mysql => " ON DUPLICATE KEY UPDATE "
  | .postgresql =>
    (" ON CONFLICT ON CONSTRAINT " : Text) ++ Description.pairConstraint ++
      (" DO UPDATE SET " : Text)

/-- What the statement gives back: the id, where it is not told in another way and not given. -/
def returning (d : Dialect) (given : List Text) : Text :=
  if d = .postgresql ∧ ("id" : Text) ∉ given then " RETURNING regulation_statuses.id" else []

/-- The columns that are updated, in table order: those that are asked for and the time of the
update. -/
def assigned (updated : List Text) : List Column :=
  (Description.ofTable .statuses).columns.filter fun c =>
    c.name ∈ updated ∨ c.name = ("updated_at" : Text)

/-- The assignment to a column that is updated. -/
def assignment (d : Dialect) (c : Column) : Text :=
  c.name ++ (" = " : Text) ++
    (if c.name = ("updated_at" : Text) then updateTime d else newValue d c.name)

/-- Why there is no statement. -/
inductive Refusal
  /-- a column that is to be updated does not exist -/
  | updatesUnknown
  /-- the time of the update would be set twice -/
  | updatesTimeTwice
  /-- a column that is given does not exist -/
  | fillsUnknown
deriving DecidableEq, Repr

/-- The column is one of a status. -/
def isColumn (name : Text) : Bool :=
  (Description.ofTable .statuses).columns.any fun c => c.name = name

/-- The wording of the statement. -/
def worded (d : Dialect) (given updated : List Text) : Text :=
  let columns := filled given
  ("INSERT INTO " : Text) ++ Table.statuses.name ++ (" (" : Text) ++
    Statement.names (columns.map (·.name)) ++ (") VALUES (" : Text) ++
    Statement.names (columns.map (placeholder d)) ++ (")" : Text) ++ onConflict d ++
    Statement.names ((assigned updated).map (assignment d)) ++ returning d given

/-- The statement that fills the given columns, and updates some of them together with the time of
the update. -/
def statement (d : Dialect) (given updated : List Text) : Except Refusal Text :=
  if !updated.all isColumn then .error .updatesUnknown
  else if d = .mysql ∧ ("updated_at" : Text) ∈ updated then .error .updatesTimeTwice
  else if !given.all isColumn then .error .fillsUnknown
  else .ok (worded d given updated)

end Upsert

end ComplianceRegistry
