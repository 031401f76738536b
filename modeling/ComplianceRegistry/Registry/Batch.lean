import ComplianceRegistry.Registry.Edit
import ComplianceRegistry.Trail

/-!
# Batches of edits

Rows of any table can be added, changed and removed in a batch. Edits wait until they are flushed;
a flush writes what waits and notes it for the trail: first the changed columns, then the rows that
came, then the rows that went. The entries of the trail are written by the next flush, and the
trail itself is edited without a record. A batch takes effect as a whole at its end, and not at all
when an edit is refused.

A batch holds the rows whose edits wait, the row that it changed last, and the types of the
regulations among them. A held row is edited in hand; any other row is loaded first, and loading
flushes. What a row holds in hand is what it was given: a column may have made another cell of it,
and this shows only when the row is loaded again.

## Main definitions

* `Held`, `Fresh` — the rows in hand and the rows to be added
* `Batch` — the edits that wait, and the store without them
* `Batch.flush`, `Batch.apply`, `Batch.run` — the effects

## Flushing

The tables are written one after the other, and in each the changes come before the new rows. Then
rows are removed, the tables in the opposite order. A new row with the id of a row that is to be
removed is written over it, and the old row is not removed.
-/

namespace ComplianceRegistry

/-- A stored row that a batch holds. -/
structure Held where
  table : Table
  /-- the values when the row was last loaded or written, in the order of the table -/
  before : List (Text × Value)
  /-- the values with the edits that wait -/
  now : List (Text × Value)
  /-- a column was given a value since the last flush -/
  touched : Bool
  /-- the row is to be removed -/
  removed : Bool
  /-- this row was changed last -/
  latest : Bool
  /-- the type that was loaded with a regulation -/
  typeId : Option Int
deriving DecidableEq, Repr

namespace Held

/-- A row as it is loaded. -/
def ofRow (r : Row) : Held :=
  let values := r.columns.map fun c => (c.1, Value.ofCell c.2)
  { table := r.table
    before := values
    now := values
    touched := false
    removed := false
    latest := false
    typeId := match r with
      | .regulation g => some g.typeId
      | _ => none }

/-- The id by which the row is stored, as a value. -/
def key (h : Held) : Value := .under h.before "id"

/-- The row is the one of the table with this id. -/
def isAt (h : Held) (table : Table) (key : Value) : Bool := h.table = table && h.key.equals key

/-- The columns whose values changed, with the old and the new value. -/
def changes (h : Held) : List (Text × Value × Value) :=
  (h.before.zip h.now).filterMap fun (b, n) =>
    if b.2.equals n.2 then none else some (n.1, b.2, n.2)

/-- The notes on the changed columns. -/
def changeNotes (h : Held) : List Trail.Note :=
  h.changes.map fun (name, old, new) =>
    .field h.table .update (Value.toId (.under h.now "id")) name old.shown? new.shown?

/-- The note on the removal. -/
def removalNote (h : Held) : Trail.Note :=
  .row h.table .delete (Value.toId (.under h.now "id"))

/-- The row with other values. -/
def edited (h : Held) (values : List (Text × Value)) : Held :=
  { h with
    now := Value.overlay h.now values
    touched := h.touched || values.any fun v => h.now.any fun c => c.1 = v.1 }

/-- The row after its changes were written. A change moves the time of the last update, unless it
sets that time. -/
def written (ctx : Context) (h : Held) : Held :=
  let column : Text := "updated_at"
  let now :=
    if h.changes.isEmpty || h.changes.any fun c => c.1 = column then h.now
    else Value.overlay h.now [(column, .instant ctx.clock)]
  { h with before := now, now := now, touched := false }

end Held

/-- A row that is to be added. -/
structure Fresh where
  /-- how many rows were to be added before it -/
  place : Nat
  table : Table
  values : List (Text × Value)
deriving DecidableEq, Repr

/-- The state of a batch. -/
structure Batch where
  /-- the store at the start -/
  origin : Store
  /-- the store with all that was flushed -/
  store : Store
  /-- what the last flush noted -/
  noted : List Trail.Note
  added : List Fresh
  /-- the rows in hand, those to be removed in the order of their removal -/
  held : List Held
deriving DecidableEq, Repr

namespace Batch

/-- A batch that has done nothing. -/
def start (s : Store) : Batch := ⟨s, s, [], [], []⟩

/-! ### Rows in hand -/

/-- The row is held on its own account. -/
def isKept (h : Held) : Bool := h.latest || h.touched || h.removed

/-- Lets go of rows that nothing waits for. -/
def release (b : Batch) : Batch :=
  let types := (b.held.filter isKept).filterMap (·.typeId)
  { b with
    held := b.held.filter fun h => isKept h || types.any fun id => h.isAt .types (.ofInt id) }

/-- Takes the stored row of a table with this id in hand, unless it is held. -/
def take (b : Batch) (table : Table) (id : Int) : Batch :=
  if b.held.any fun h => h.isAt table (.ofInt id) then b
  else
    match b.store.row? table id with
    | some r => { b with held := b.held ++ [.ofRow r] }
    | none => b

/-- Changes the held row of a table with this id, which becomes the one that was changed last. -/
def change (b : Batch) (table : Table) (key : Value) (values : List (Text × Value)) : Batch :=
  release { b with
    held := b.held.map fun h =>
      if h.isAt table key then { h.edited values with latest := true }
      else { h with latest := false } }

/-- No row was changed last. -/
def forget (b : Batch) : Batch :=
  release { b with held := b.held.map fun h => { h with latest := false } }

/-- Marks the held row of a table with this id for removal. -/
def mark (b : Batch) (table : Table) (key : Value) : Batch :=
  let (chosen, others) := b.held.partition fun h => h.isAt table key && !h.removed
  release { b with held := others ++ chosen.map fun h => { h with removed := true } }

/-! ### Flushing -/

/-- The store in the middle of a flush, and the notes on the rows that came so far. -/
structure Progress where
  store : Store
  /-- the notes with the places of their rows -/
  came : List (Nat × Trail.Note)

/-- The held row whose place the new row takes. -/
def replaced? (b : Batch) (f : Fresh) : Option Held :=
  b.held.find? fun h => h.removed && h.table = f.table && h.key.equals (.under f.values "id")

/-- Writes values over the stored row of a table with this id. The time of the last update moves
unless it is among the values. -/
def overwrite (ctx : Context) (s : Store) (table : Table) (id : Int)
    (values : List (Text × Value)) : Except Edit.Refusal Store := do
  if values.isEmpty then .ok s
  else
    let cells ← Value.cells table values
    match s.row? table id with
    | none => .error .rowGone
    | some r =>
      let stamped := Value.overlay r.columns [("updated_at", .instant ctx.clock)]
      match Row.ofCells? table (Value.overlay stamped cells) with
      | some r => s.move id r
      | none => .error (.storage .constraintViolated)

/-- Writes the changes of a held row. -/
def writeHeld (ctx : Context) (p : Progress) (h : Held) : Except Edit.Refusal Progress := do
  let store ← overwrite ctx p.store h.table h.key.toId (h.changes.map fun c => (c.1, c.2.2))
  .ok { p with store := store }

/-- The progress with the note on a row that came. -/
def Progress.noting (p : Progress) (f : Fresh) (id : Int) : Progress :=
  { p with came := p.came ++ [(f.place, .row f.table .create id)] }

/-- Writes a new row over the one whose place it takes. -/
def writeOver (ctx : Context) (p : Progress) (f : Fresh) : Except Edit.Refusal Progress := do
  let id := (Value.under f.values "id").toId
  let store ← overwrite ctx p.store f.table id (f.values.filter fun v => v.1 ≠ ("id" : Text))
  .ok ({ p with store := store }.noting f id)

/-- The cell that a column has when a new row gives none. -/
def defaultCell (ctx : Context) (freshId : Int) (column : Text) : Cell :=
  if column = ("id" : Text) then .integer freshId
  else if column = ("order" : Text) then .integer 0
  else if column = ("created_at" : Text) ∨ column = ("updated_at" : Text) then .instant ctx.clock
  else .null

/-- Adds a new row. A column that is given null is not given. -/
def writeFresh (ctx : Context) (p : Progress) (f : Fresh) : Except Edit.Refusal Progress := do
  let cells ← Value.cells f.table (f.values.filter fun v => v.2 ≠ .document .null)
  let base := (Description.ofTable f.table).columns.map fun c =>
    (c.name, defaultCell ctx (p.store.nextIdOf f.table) c.name)
  match Row.ofCells? f.table (Value.overlay base cells) with
  | none => .error (.storage .constraintViolated)
  | some r =>
    let store ← p.store.insert r
    .ok ({ p with store := store }.noting f r.id)

/-- Writes the changes and the new rows of one table. -/
def writeTable (ctx : Context) (b : Batch) (p : Progress) (table : Table) :
    Except Edit.Refusal Progress := do
  -- a new row with the id of one that is to go is written over it, before all others
  let (successors, others) := (b.added.filter fun f => f.table = table).partition fun f =>
    (b.replaced? f).isSome
  let p ← successors.foldlM (writeOver ctx) p
  let p ← (b.held.filter fun h => h.table = table && !h.removed).foldlM (writeHeld ctx) p
  others.foldlM (writeFresh ctx) p

/-- A version that stays belonged to the project before the flush. -/
def hasVersions (b : Batch) (project : Int) : Bool :=
  b.store.versions.any fun v =>
    v.projectId = project && !b.held.any fun h => h.removed && h.isAt .versions (.ofInt v.id)

/-- Removes a held row unless a new row took its place. A project that is to go is first let go by
its versions, and they cannot be without one. -/
def removeHeld (b : Batch) (s : Store) (h : Held) : Except Edit.Refusal Store := do
  let id := h.key.toId
  if h.table = .projects && b.hasVersions id then .error (.storage .constraintViolated)
  else if b.added.any fun f => b.replaced? f = some h then .ok s
  else s.remove h.table id

/-- Removes the rows of one table that are to go. -/
def removeTable (b : Batch) (s : Store) (table : Table) : Except Edit.Refusal Store :=
  (b.held.filter fun h => h.table = table && h.removed).foldlM b.removeHeld s

/-- What a flush notes: changed columns, rows that came in the order of their places, and rows
that went. The trail is left out. -/
def notes (b : Batch) (came : List (Nat × Trail.Note)) : List Trail.Note :=
  let audited := b.held.filter fun h => h.table ≠ .audit
  let inOrder := came.mergeSort fun m n => m.1 ≤ n.1
  (audited.filter fun h => !h.removed).flatMap Held.changeNotes ++
    (inOrder.map (·.2)).filter (fun n => n.entityType ≠ Table.audit.name) ++
    (audited.filter (·.removed)).map Held.removalNote

/-- Writes all that waits, and what the last flush noted. -/
def flush (ctx : Context) (b : Batch) : Except Edit.Refusal Batch := do
  let recorded ← Trail.record ctx b.store b.noted
  -- a table comes before those that refer to it, and for removals after them
  let p ← Table.all.foldlM (writeTable ctx b) ⟨recorded, []⟩
  let store ← Table.all.reverse.foldlM b.removeTable p.store
  .ok (release { b with
    store := store
    noted := b.notes p.came
    added := []
    held := (b.held.filter fun h => !h.removed).map (Held.written ctx) })

/-! ### Edits -/

/-- A row that can be loaded. An entry of the trail whose action is none of the known ones cannot
be. -/
def checkRow : Row → Except Fault Unit
  | .audit e => if (Trail.Action.ofName? e.action).isSome then .ok () else .error .rowUnreadable
  | _ => .ok ()

/-- Takes the row of a table with this id in hand and gives the id by which it is held, if there
is such a row. A regulation brings its type. -/
def load (ctx : Context) (b : Batch) (table : Table) (key : Value) :
    Except Edit.Refusal (Batch × Option Value) := do
  if b.held.any fun h => h.isAt table key then .ok (b, some key)
  else
    -- a row can only be asked for once all that waits is written
    let b ← flush ctx b
    match (← key.id?).bind (b.store.row? table) with
    | none => .ok (b, none)
    | some r =>
      checkRow r
      let b := b.take table r.id
      let b := match r with
        | .regulation g => b.take .types g.typeId
        | _ => b
      .ok (b, some (.ofInt r.id))

/-- Carries out one edit. -/
def apply (ctx : Context) (b : Batch) : Edit → Except Edit.Refusal Batch
  | .add table values =>
    let known (name : Text) : Bool := (Description.ofTable table).columns.any fun c => c.name = name
    if values.all fun v => known v.1 then
      .ok { b with added := b.added ++ [⟨b.added.length, table, values⟩] }
    else .error .columnUnknown
  | .set table key values => do
    match ← load ctx b table key with
    | (b, some key) => .ok (b.change table key values)
    | (b, none) => if values.isEmpty then .ok b.forget else .error .nothingToSet
  | .remove table key => do
    match ← load ctx b table key with
    | (b, some key) => .ok (b.mark table key)
    | (_, none) => .error .nothingToRemove
  | .flush => flush ctx b
  | .rollback => .ok (start b.origin)

/-- The store after all edits of a batch: they are flushed, and so is what that notes. -/
def run (ctx : Context) (s : Store) (edits : List Edit) : Except Edit.Refusal Store := do
  let b ← edits.foldlM (apply ctx) (start s)
  -- the notes of the first flush are rows that wait for the second
  .ok (← flush ctx (← flush ctx b)).store

end Batch

end ComplianceRegistry
