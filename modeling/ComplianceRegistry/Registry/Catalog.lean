import ComplianceRegistry.Session
import ComplianceRegistry.Trail

/-!
# The type catalog

The catalog holds the types a regulation can have. Seeding adds a type for each kind that has
none yet and touches nothing else, so that it can be run at every start.

## Main definitions

* `Catalog.missing` — the kinds without a type
* `Catalog.creationNotes` — what is noted of new types
* `Catalog.seed` — adds their types
* `Catalog.list` — the types in the order of their ids
* `Catalog.find` — the type with an id
-/

namespace ComplianceRegistry.Catalog

/-- The kinds without a type of their name. -/
def missing (s : Store) : List Kind :=
  Kind.all.filter fun k => !s.types.any fun t => t.name = k.name

/-- The store with a new type for each of the kinds. -/
def addTypes (s : Store) : List Kind → Except Fault Store
  | [] => .ok s
  | k :: kinds => do
    let row : RegulationType :=
      { id := nextId (s.types.map (·.id))
        name := k.name
        description := some k.defaultDescription }
    addTypes (← s.insert (.type row)) kinds

/-- The ids of the types that the first store lacks. -/
def newIds (before after : Store) : List Int := (after.types.drop before.types.length).map (·.id)

/-- The notes on new types. Changes of rows are noted by listeners, which the server installs; a
process without them notes nothing. -/
def creationNotes (recorded : Bool) (ids : List Int) : List Trail.Note :=
  if recorded then ids.map (.row .types .create) else []

/-- Adds the types of the missing kinds and gives their names. Where none is missing there is
nothing to commit. Whether changes are recorded is up to the process that seeds. -/
def seed (recorded : Bool) (ctx : Context) : Work (List Text) := do
  let before ← Work.query .ok
  let kinds := missing before
  if !kinds.isEmpty then
    Work.write (addTypes · kinds)
    Work.write fun s => Trail.record ctx s (creationNotes recorded (newIds before s))
    Work.commit
  return kinds.map Kind.name

/-- The types in the order of their ids. -/
def list (s : Store) : List RegulationType := s.types.mergeSort fun a b => a.id ≤ b.id

/-- The type with this id. -/
def find (s : Store) (id : Int) : Except Fault RegulationType := do
  checkInteger id
  match s.type? id with
  | some t => .ok t
  | none => .error (.notFound (.regulationType id))

/-- The text that is printed after seeding: the names of the new types, then a line for each type
of the catalog. -/
def report (created : List Text) (types : List RegulationType) : Text :=
  let names : Text :=
    if created.isEmpty then ("nothing (all types present)" : Text) else Text.joined ", " created
  let line (t : RegulationType) : Text :=
    ("  #" : Text) ++ Text.padded 3 (Text.ofInt t.id) ++ (" " : Text) ++ Text.padded 10 t.name ++
      (" " : Text) ++ t.description.getD [] ++ ("\n" : Text)
  ("Created: " : Text) ++ names ++ ("\n" : Text) ++ types.flatMap line

end ComplianceRegistry.Catalog
