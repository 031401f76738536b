import ComplianceRegistry.Proofs.Requests
import ComplianceRegistry.Run

/-!
# Runs of requests

A run starts from a store that keeps its constraints and has no regulations; the projects, the
versions, the types and the trail may be anything. Then requests arrive in any order, each in a
context of its own. What one request preserves holds after all of them.

## Main definitions

* `Arrival` — a request with the context in which it comes in
* `World.serve` — the world after some arrivals
* `Store.Initial` — the stores from which runs start
* `Store.Kept` — a sound store whose regulations are named as they should be

## Main results

* `World.serve_induction` — what one request preserves holds after all of them
* `World.kept_serve` — every store on the way is sound and names its regulations as it should
-/

namespace ComplianceRegistry

/-- A request that comes in, with the context in which it does; `outage` is what the database says
when it cannot be reached. -/
structure Arrival where
  context : Context
  outage : Option Text
  request : Request
deriving DecidableEq, Repr

/-- An arrival as the step of a run. -/
def Arrival.step (a : Arrival) : Context × Step := (a.context, .request a.outage a.request)

/-- The outcome of an arrival at a store. -/
def Arrival.outcome (settings : Settings) (a : Arrival) (s : Store) : Written Response :=
  Server.handle settings a.outage a.context s a.request

namespace World

variable {settings : Settings} {w : World} {a : Arrival} {arrivals earlier later : List Arrival}

/-- The world after some arrivals. -/
def serve (settings : Settings) (w : World) (arrivals : List Arrival) : World :=
  (w.run settings (arrivals.map Arrival.step)).2

@[simp] theorem serve_nil : w.serve settings [] = w := rfl

theorem serve_cons : w.serve settings (a :: arrivals) =
    (w.advance settings a.context (.request a.outage a.request)).2.serve settings arrivals := rfl

theorem serve_append : w.serve settings (earlier ++ later) =
    (w.serve settings earlier).serve settings later := by
  induction earlier generalizing w with
  | nil => rfl
  | cons a earlier ih => rw [List.cons_append, serve_cons, serve_cons, ih]

/-- One more arrival has its outcome at the store that the others left. -/
theorem store_serve_concat : (w.serve settings (arrivals ++ [a])).store =
    (a.outcome settings (w.serve settings arrivals).store).store := by
  rw [serve_append]
  rfl

/-- What one arrival preserves holds after all of them. -/
theorem serve_induction {P : Store → Prop} (hstart : P w.store)
    (hstep : ∀ (a : Arrival) (s : Store), P s → P (a.outcome settings s).store) :
    P (w.serve settings arrivals).store := by
  induction arrivals generalizing w with
  | nil => exact hstart
  | cons a arrivals ih =>
    rw [serve_cons]
    exact ih (hstep a w.store hstart)

end World

namespace Store

/-- The stores from which runs start: their tables keep the constraints, and there are no
regulations yet. -/
structure Initial (s : Store) : Prop extends Consistent s where
  regulations_eq : s.regulations = []

/-- A sound store whose regulations have the names that requests may give. -/
structure Kept (s : Store) : Prop extends Sound s where
  names : ∀ r ∈ s.regulations, Regulation.IsName r.name

variable {s after : Store}

/-- Without regulations there are no statuses either. -/
theorem Initial.statuses_eq (h : s.Initial) : s.statuses = [] := by
  refine List.eq_nil_iff_forall_not_mem.2 fun st hst => ?_
  have := h.statusRegulations st hst
  simp [h.regulations_eq] at this

theorem Initial.kept (h : s.Initial) : s.Kept :=
  { h.toConsistent with
    joins := by simp [h.statuses_eq]
    configures := by simp [h.regulations_eq]
    names := by simp [h.regulations_eq] }

end Store

/-- A store to start from: two types, and a project with a version. -/
def Store.sample : Store where
  types := [⟨1, "Boolean", none⟩, ⟨2, "Threshold", none⟩]
  projects := [⟨1, "engine", none, ⟨0⟩, ⟨0⟩⟩]
  versions := [⟨1, "cat-100", 1, none, ⟨0⟩⟩]
  regulations := []
  statuses := []
  audit := []

theorem Store.initial_sample : Store.sample.Initial := by
  constructor
  · constructor <;> decide
  · rfl

/-- An arrival at the start of the calendar with nothing but a method, a path and a body. -/
def Arrival.plain (method path body : Text) : Arrival where
  context := ⟨⟨0⟩, none, none, false⟩
  outage := none
  request := ⟨method, path, [], [], body, none⟩

/-- A regulation is created. -/
def Arrival.creation : Arrival :=
  .plain "POST" "/api/v1/projects/1/regulations" "\x7b\"name\": \"r\", \"type_id\": 1\x7d"

/-- A value is reported for the first regulation. -/
def Arrival.firstReport : Arrival :=
  .plain "POST" "/api/v1/projects/1/regulations/1/versions/cat-100/report"
    "\x7b\"value\": \"true\"\x7d"

/-- A value with details is set for the first regulation. -/
def Arrival.detailing (details : Text) : Arrival :=
  .plain "PUT" "/api/v1/projects/1/regulations/1/versions/cat-100/value"
    (("\x7b\"value\": \"x\", \"report_details\": " : Text) ++ details ++ ("\x7d" : Text))

/-- The world with the store to start from, and a service that accepts everything. -/
def World.sample : World := ⟨.sample, ⟨[], []⟩⟩

namespace Operation.Outcome

variable {ctx : Context} {s after : Store} {op : Operation} {answer : Answer}
variable {announcements : List Announcement}

theorem isName_getD {name? : Option Text} {name : Text}
    (hname? : ∀ t, name? = some t → Regulation.IsName t) (hname : Regulation.IsName name) :
    Regulation.IsName (name?.getD name) := by
  cases name? with
  | none => exact hname
  | some t => exact hname? t rfl

/-- What requests can ask for leaves the types, the projects and the versions alone. -/
theorem surroundings_eq (hop : op.IsPosed) (h : Outcome ctx s op answer after announcements) :
    after.types = s.types ∧ after.projects = s.projects ∧ after.versions = s.versions := by
  cases h with
  | seeded => exact hop.elim
  | read => exact ⟨rfl, rfl, rfl⟩
  | created h => exact h.after_eq ▸ ⟨rfl, rfl, rfl⟩
  | updated h => cases h.rewritten <;> exact ⟨rfl, rfl, rfl⟩
  | deleted h => exact h.after_eq ▸ ⟨rfl, rfl, rfl⟩
  | upserted hpair hwrites h => cases h <;> exact ⟨rfl, rfl, rfl⟩
  | statusDeleted hpair h => exact h.after_eq ▸ ⟨rfl, rfl, rfl⟩
  | remarked => exact hop.elim

/-- Operations that name regulations as they should keep all names so. -/
theorem kept (hs : s.Kept) (hop : op.IsNaming) (h : Outcome ctx s op answer after announcements) :
    after.Kept := by
  refine { h.sound hs.toSound with names := ?_ }
  cases h with
  | seeded h => exact h.regulations_eq ▸ hs.names
  | read => exact hs.names
  | created h =>
    refine h.regulations_eq ▸ forall_mem_append hs.names ?_
    rw [h.row_eq]
    exact hop
  | updated h =>
    -- without a name in the patch the regulation keeps the one that it has
    refine h.regulations_eq hs.toConsistent ▸ forall_mem_putById hs.names ?_
    rw [h.name_eq]
    exact isName_getD hop (hs.names _ h.before_mem)
  | deleted h => exact h.regulations_eq ▸ fun r hr => hs.names r (List.mem_of_mem_filter hr)
  | upserted hpair hwrites h => exact h.regulations_eq ▸ hs.names
  | statusDeleted hpair h => exact h.after_eq ▸ hs.names
  | remarked => exact hs.names

end Operation.Outcome

namespace World

variable {settings : Settings} {w : World} {a : Arrival} {arrivals : List Arrival}

/-- One request keeps a store as it should be. -/
theorem kept_outcome {s : Store} (hs : s.Kept) : (a.outcome settings s).store.Kept := by
  rcases Server.handle_cases hs.toConsistent with ⟨op, answer, hop, -, h⟩ | ⟨hstore, -⟩
  · exact h.kept hs (Server.isNaming_of_operationOf? hop)
  · exact hstore.symm ▸ hs

/-- Every store on the way of a run is as it should be. -/
theorem kept_serve (h : w.store.Initial) : (w.serve settings arrivals).store.Kept :=
  serve_induction h.kept fun _ _ => kept_outcome

end World

end ComplianceRegistry
