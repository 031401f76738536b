import ComplianceRegistry.Binary64.Rounded
import ComplianceRegistry.Number.Basic
import ComplianceRegistry.Schema.Description
import ComplianceRegistry.Store.Columns
import ComplianceRegistry.Text.Digit

/-!
# Edits by column

An edit adds, changes or removes one row of any table and gives the values by the names of the
columns. A value is a document or an instant, whatever the type of its column; each column makes
its own cell of it, or refuses it.

## Main definitions

* `Value` — the values, with their equality and their text for the audit trail
* `Edit`, `Edit.Refusal` — the edits, and why one is refused
* `Value.fits`, `Value.cell` — what a column makes of a value

## Columns

Columns of integers take whatever spells an integer, and columns of text take the numeral of any
number. Columns of truth values take what equals a truth value, columns of instants take instants,
columns of a few words take texts, and only columns of documents take lists and objects.
-/

namespace ComplianceRegistry

/-- A value for a column. -/
inductive Value
  | document (value : Document)
  | instant (value : Instant)
deriving DecidableEq, Repr

/-- An edit of a batch. -/
inductive Edit
  | add (table : Table) (values : List (Text × Value))
  | set (table : Table) (id : Value) (values : List (Text × Value))
  | remove (table : Table) (id : Value)
  | flush
  | rollback
deriving DecidableEq, Repr

/-- The reason why an edit is refused. -/
inductive Edit.Refusal
  /-- storage refuses a write -/
  | storage (fault : Fault)
  /-- a new row is given a column that its table does not have -/
  | columnUnknown
  /-- there is no row to be changed -/
  | nothingToSet
  /-- there is no row to be removed -/
  | nothingToRemove
  /-- a row was removed before its changes were written -/
  | rowGone
  /-- a column does not take values of this kind -/
  | kindMismatched
  /-- a list or an object is meant for a column of single values -/
  | valueCompound
deriving DecidableEq, Repr

instance : MonadLift (Except Fault) (Except Edit.Refusal) := ⟨Except.mapError .storage⟩

namespace Value

/-- An integer as a value. -/
def ofInt (n : Int) : Value := .document (.integer n)

/-- The value that a stored cell gives. -/
def ofCell : Cell → Value
  | .null => .document .null
  | .integer n => .ofInt n
  | .text t => .document (.text t)
  | .truth b => .document (.truth b)
  | .details d => .document d
  | .instant t => .instant t

/-- The values are equal. Documents are compared as values. -/
def equals : Value → Value → Bool
  | .document d, .document e => d.equals e
  | .instant t, .instant u => t == u
  | _, _ => false

/-- The text of a value in the audit trail, none for null. -/
def shown? : Value → Option Text
  | .document .null => none
  | .document d => some d.shown
  | .instant t => some t.display

/-- The value under a name, null when there is none. -/
def under (values : List (Text × Value)) (name : Text) : Value :=
  ((values.find? fun v => v.1 = name).map (·.2)).getD (.document .null)

/-- The list with the given values in their places; values of other names are left out. -/
def overlay {α : Type} (base given : List (Text × α)) : List (Text × α) :=
  base.map fun c =>
    match given.find? fun v => v.1 = c.1 with
    | some v => (c.1, v.2)
    | none => c

/-! ### What columns make of values -/

/-- The column takes values of this kind. -/
def fits : ColumnType → Value → Bool
  | _, .document .null => true
  | .datetime, .instant _ => true
  | .datetime, _ => false
  | .boolean, .document d => d.equals (.truth true) || d.equals (.truth false)
  | .boolean, _ => false
  | .choice _, .document (.text _) => true
  | .choice _, _ => false
  | .json, .instant _ => false
  | _, _ => true

/-- Blanks that a column of integers allows around a numeral. -/
def isSpacing (c : CodePoint) : Bool := (9 ≤ c.val && c.val ≤ 13) || c.val == 32

/-- The integer that a text spells as a decimal number, when it fits the column. -/
def integerSpelled? (t : Text) : Option Int := do
  let n ← Number.scanWith? CodePoint.asciiDigit? (t.trimmed isSpacing)
  let whole ←
    if n.exponent = 0 then
      some (if n.negative then -(n.coefficient : Int) else n.coefficient)
    else (Binary64.ofDecimal n.negative n.coefficient n.exponent).integer?
  if Storable whole then some whole else none

/-- The cell of an integer that was read, if one was. -/
def integerCell : Option Int → Except Edit.Refusal Cell
  | some n => .ok (.integer n)
  | none => .error (.storage .constraintViolated)

/-- The cell that a column of integers makes of a value. -/
def asInteger : Value → Except Edit.Refusal Cell
  | .document d =>
    match d with
    | .null | .float .nan => .ok .null
    | .truth b => .ok (.integer b.toInt)
    | .integer n => do
      checkInteger n
      .ok (.integer n)
    | .float x => integerCell (x.integer?.filter fun n => Storable n)
    | .text t => do
      checkText t
      integerCell (integerSpelled? t)
    | .list _ | .object _ => .error .valueCompound
  | .instant _ => .error (.storage .constraintViolated)

/-- The cell that a column of texts makes of a value. -/
def asText : Value → Except Edit.Refusal Cell
  | .document d =>
    match d with
    | .null => .ok .null
    | .truth b => .ok (.text (Text.ofInt b.toInt))
    | .integer n => do
      checkInteger n
      .ok (.text (Text.ofInt n))
    | .float x => .ok (.ofText? x.columnNumeral?)
    | .text t => .ok (.text t)
    | .list _ | .object _ => .error .valueCompound
  | .instant t => .ok (.text t.display)

/-- The cell that a column makes of a value that fits it. -/
def cell : ColumnType → Value → Except Edit.Refusal Cell
  | .integer, v => asInteger v
  | .varchar _, v | .choice _, v | .text, v => asText v
  | _, .document .null => .ok .null
  | .boolean, .document d => .ok (.truth (d.equals (.truth true)))
  | .json, .document d => .ok (.ofDetails d.stored)
  | .datetime, .instant t => .ok (.instant t)
  | _, _ => .error .kindMismatched

/-- The cells that the columns of a table make of the values given for them, in the order of the
table. A kind that does not fit is found before anything else. -/
def cells (table : Table) (values : List (Text × Value)) :
    Except Edit.Refusal (List (Text × Cell)) :=
  let given := (Description.ofTable table).columns.filterMap fun c =>
    (values.find? fun v => v.1 = c.name).map fun v => (c, v.2)
  if given.all fun p => p.2.fits p.1.type then
    given.mapM fun p => (p.2.cell p.1.type).map fun made => (p.1.name, made)
  else .error .kindMismatched

/-- The id by which a value looks for a row, none when no id is equal to it. -/
def id? (v : Value) : Except Edit.Refusal (Option Int) :=
  match v.asInteger with
  | .ok c => .ok c.integer?
  | .error (.storage .constraintViolated) => .ok none
  | .error r => .error r

/-- The id that a value stands for, zero when it is none. -/
def toId (v : Value) : Int :=
  match v.asInteger with
  | .ok (.integer n) => n
  | _ => 0

end Value

end ComplianceRegistry
