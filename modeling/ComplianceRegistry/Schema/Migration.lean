import ComplianceRegistry.Document.Basic
import ComplianceRegistry.Schema.Revision
import ComplianceRegistry.Schema.Statement

/-!
# Migrations

A database is brought to its tables by one revision, and back to nothing by undoing it. A version
table remembers whether the revision is in force. The statements of a move are carried out one by
one, and nothing takes them back: where one is refused, those before it stay done.

## Main definitions

* `Migration.Database`, `Migration.Database.execute` — what a database holds, and what statements
  do to it
* `Migration.Command`, `Migration.run` — the commands and their effect on a database
* `Migration.Script` — the statements a command would run, for those that only ask for them
* `Migration.Order`, `Migration.Database.follow` — a command that is carried out or only written out
* `Migration.Database.overview` — the tables of a database with their columns and constraints
-/

namespace ComplianceRegistry.Migration

/-- What a database holds. -/
structure Database where
  /-- the revisions in the version table; none if there is no version table -/
  ledger : Option (List Text)
  /-- the tables of the registry that exist, each with the indexes that it has -/
  built : List Description
deriving DecidableEq, Repr

namespace Database

/-- A new database. -/
def fresh : Database := ⟨none, []⟩

/-- The database with a version table, which is empty if there was none. -/
def withLedger (db : Database) : Database := { db with ledger := some (db.ledger.getD []) }

/-- The revisions in the version table. -/
def revisions (db : Database) : List Text := db.ledger.getD []

/-- Where the version table says that the database stands. -/
def point (db : Database) : Point := if db.revisions.contains revision then .head else .base

/-! ### Statements -/

/-- The names of the indexes. -/
def indexNames (db : Database) : List Text := db.built.flatMap fun d => d.indexes.map (·.name)

/-- The names of the tables and of the indexes, which may not share any. -/
def names (db : Database) : List Text := db.built.map (·.table.name) ++ db.indexNames

/-- The database after a statement. A statement is refused when what it creates is there already,
or when what it drops or adds to is not. -/
def apply (db : Database) : Statement → Except Refusal Database
  | .createTable d =>
    if db.names.contains d.table.name then .error .tablesAstray
    else .ok { db with built := db.built ++ [{ d with indexes := [] }] }
  | .createIndex t i =>
    if db.names.contains i.name ∨ t ∉ db.built.map (·.table) then .error .tablesAstray
    else .ok { db with built := db.built.map fun d =>
      if d.table = t then { d with indexes := d.indexes ++ [i] } else d }
  | .dropIndex name =>
    if db.indexNames.contains name then
      .ok { db with built := db.built.map fun d =>
        { d with indexes := d.indexes.filter fun j => j.name ≠ name } }
    else .error .tablesAstray
  | .dropTable t =>
    if t ∈ db.built.map (·.table) then
      .ok { db with built := db.built.filter fun d => d.table ≠ t }
    else .error .tablesAstray
  | .enter r =>
    match db.ledger with
    | some rows =>
      if rows.contains r then .error .tablesAstray else .ok { db with ledger := rows ++ [r] }
    | none => .error .tablesAstray
  | .leave r =>
    if db.revisions.contains r then .ok { db with ledger := db.revisions.filter (· ≠ r) }
    else .error .tablesAstray

/-- Carries out statements one after another, up to the first that is refused. What was done before
that one stays. -/
def execute (db : Database) : List Statement → Option Refusal × Database
  | [] => (none, db)
  | statement :: rest =>
    match db.apply statement with
    | .ok after => after.execute rest
    | .error refusal => (some refusal, db)

end Database

/-! ### Commands -/

/-- The commands. -/
inductive Command
  | upgrade (aim : Text)
  | downgrade (aim : Text)
  | stamp (aim : Text)
  | current
deriving DecidableEq, Repr

/-- The statements of the revision: the tables, each after those it refers to, and the index of the
audit trail. -/
def creation : List Statement :=
  [.createTable (.ofTable .projects),
    .createTable (.ofTable .versions),
    .createTable (.ofTable .types),
    .createTable (.ofTable .regulations),
    .createTable (.ofTable .statuses),
    .createTable (.ofTable .audit),
    .createIndex .audit ⟨"idx_audit_log_entity", ["entity_type", "entity_id"]⟩]

/-- The statements that undo the revision, written down on their own: the index, then the tables,
each before those it refers to. -/
def removal : List Statement :=
  [.dropIndex "idx_audit_log_entity",
    .dropTable .audit,
    .dropTable .statuses,
    .dropTable .regulations,
    .dropTable .types,
    .dropTable .versions,
    .dropTable .projects]

/-- The statements that take a database from one point to another, given those that create and
those that remove. The version table is told last. -/
def moves (creation removal : List Statement) : Point → Point → List Statement
  | .base, .head => creation ++ [.enter revision]
  | .head, .base => removal ++ [.leave revision]
  | .base, .base | .head, .head => []

/-- The statements that a command carries out where the database stands. A stamp tells the version
table alone. -/
def plan (current : Point) : Command → Except Refusal (List Statement)
  | .upgrade aim => do .ok (moves creation removal current (← upgradeAim current aim))
  | .downgrade aim => do .ok (moves creation removal current (← downgradeAim current aim))
  | .stamp aim => do .ok (moves [] [] current (← stampAim current aim))
  | .current => .ok []

/-- A range has two ends with a colon between them. -/
def isRange (aim : Text) : Bool := aim.any (·.isChar ':')

/-- The command goes up or down along a range. -/
def Command.namesRange : Command → Bool
  | .upgrade aim | .downgrade aim => isRange aim
  | _ => false

/-- Runs a command. One that names a range is refused at once. All others but the question for the
current revision bring the version table into being, even when they are refused. -/
def run (db : Database) (c : Command) : Option Refusal × Database :=
  if c.namesRange then (some .rangeRefused, db)
  else
    let db := if c = .current then db else db.withLedger
    match plan db.point c with
    | .ok statements => db.execute statements
    | .error refusal => (some refusal, db)

/-- The answer to the question for the current revision. -/
def Database.current (db : Database) : Text :=
  if db.point = .head then revision ++ (" (head)" : Text) else []

/-! ### Scripts -/

namespace Script

/-- Creates the version table. -/
def createLedger : Text :=
  ("CREATE TABLE " : Text) ++ Statement.ledgerName ++
    (" ( version_num VARCHAR(32) NOT NULL, " : Text) ++
    ("CONSTRAINT alembic_version_pkc PRIMARY KEY (version_num) )" : Text)

/-- Drops the version table. -/
def dropLedger : Text := ("DROP TABLE " : Text) ++ Statement.ledgerName

/-- Puts a remark in front of the first statement. -/
def remarked (remark : Text) : List Text → List Text
  | [] => []
  | first :: rest => (remark ++ (" " : Text) ++ first) :: rest

/-- The remark on a move from one revision, or nothing, to another. -/
def remark (name start aim : Text) : Text :=
  ("-- Running " : Text) ++ name ++ (" " : Text) ++
    (if start.isEmpty then [] else start ++ (" " : Text)) ++ ("->" : Text) ++
    (if aim.isEmpty then [] else (" " : Text) ++ aim)

/-- The statements that take a database from one point to another. The version table is created
before the first revision is put into it, and dropped when none is left in it. -/
def move (name : Text) (creation removal : List Statement) (start aim : Point) : List Text :=
  let statements := (moves creation removal start aim).map Statement.text
  match start, aim with
  | .base, .head => [createLedger] ++ remarked (remark name [] revision) statements
  | .head, .base => remarked (remark name revision []) statements ++ [dropLedger]
  | .base, .base | .head, .head => []

/-- The two ends of a range; without a colon there is only the second. -/
def ends (t : Text) : Except Refusal (Option Text × Text) :=
  match Text.splitOn (CodePoint.ofChar ':') t with
  | [start, aim] => .ok (some start, aim)
  | _ :: _ :: _ :: _ => .error .rangeTooLong
  | _ => .ok (none, t)

/-- The point at which a range starts. It starts at the base when nothing else is said. -/
def startPoint (start : Option Text) : Except Refusal Point := do
  match start with
  | none => .ok .base
  | some name =>
    if name = ("base" : Text) then .ok .base
    else match ← revisionAt name with
      | .revision => .ok .head
      | _ => .error .rangeStartless

/-- The statements along a range, given how its aim is found. -/
def along (range : Text) (aimOf : Point → Text → Except Refusal Point)
    (statements : Point → Point → List Text) : Except Refusal (List Text) := do
  let (start, aim) ← ends range
  let start ← startPoint start
  .ok (statements start (← aimOf start aim))

/-- The statements that a command would run on a new database, or along the range it names. -/
def ofCommand : Command → Except Refusal (List Text)
  | .upgrade range => along range upgradeAim (move "upgrade" creation removal)
  | .downgrade range =>
    if isRange range then along range downgradeAim (move "downgrade" creation removal)
    else .error .rangeRequired
  | .stamp range => along range stampAim (move "stamp_revision" [] [])
  | .current => .ok []

/-- The statements as a list that ends with the empty text behind the last of them. -/
def listed (statements : List Text) : List Text := statements ++ [[]]

end Script

/-! ### Orders -/

/-- A command as it is given: to be carried out, or to be written out as a script only. -/
structure Order where
  command : Command
  scripted : Bool
deriving DecidableEq, Repr

/-- What comes of an order. -/
inductive Outcome
  | done
  | script (statements : List Text)
  | refused (refusal : Refusal)
deriving DecidableEq, Repr

namespace Database

/-- The outcome of an order and the database after it. -/
def follow (db : Database) (o : Order) : Outcome × Database :=
  if o.scripted then
    match Script.ofCommand o.command with
    | .ok statements => (.script (Script.listed statements), db)
    | .error refusal => (.refused refusal, db)
  else
    match run db o.command with
    | (none, after) => (.done, after)
    | (some refusal, after) => (.refused refusal, after)

/-- The outcomes of orders that are followed one after another, and the database after them. -/
def followAll (db : Database) : List Order → List Outcome × Database
  | [] => ([], db)
  | o :: rest =>
    let (outcome, next) := db.follow o
    let (others, last) := next.followAll rest
    (outcome :: others, last)

end Database

/-! ### Overviews -/

/-- The tables of the registry in the order of their names. -/
def tablesByName : List Table :=
  [.audit, .projects, .statuses, .types, .regulations, .versions]

/-- The names of the tables that exist, sorted. -/
def Database.tables (db : Database) : List Text :=
  (if db.ledger.isSome then [Statement.ledgerName] else []) ++
    (tablesByName.filter fun t => t ∈ db.built.map (·.table)).map Table.name

/-- A list of names as a document. -/
def nameList (names : List Text) : Document := .list (names.map .text)

/-- A description as a document: the columns in order with type, whether they may be empty and
whether they are the key; then the constraints and indexes. -/
def described (d : Description) : Document :=
  let column (c : Column) : Document :=
    .list [.text c.name, .text c.type.name, .truth c.nullable, .truth (c.name = ("id" : Text))]
  let reference (r : Reference) : Document :=
    .list [nameList [r.column], .text r.target.name, if r.cascade then .text "CASCADE" else .null]
  let sorted := d.references.mergeSort fun a b => Text.precedes a.column b.column
  .object
    [("columns", .list (d.columns.map column)),
      ("unique", .list (d.unique.map fun u => nameList u.columns)),
      ("foreign_keys", .list (sorted.map reference)),
      ("indexes", .list (d.indexes.map fun i => .list [.text i.name, nameList i.columns]))]

/-- The version table as a document. -/
def ledgerDescribed : Document :=
  .object
    [("columns",
        .list [.list [.text "version_num", .text "VARCHAR(32)", .truth false, .truth true]]),
      ("unique", .list []), ("foreign_keys", .list []), ("indexes", .list [])]

/-- The tables that exist, each with its description. -/
def Database.overview (db : Database) : Document :=
  let found := tablesByName.filterMap fun t => db.built.find? fun d => d.table = t
  .object
    ((if db.ledger.isSome then [(Statement.ledgerName, ledgerDescribed)] else []) ++
      found.map fun d => (d.table.name, described d))

end ComplianceRegistry.Migration
