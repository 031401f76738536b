import ComplianceRegistry.Http.Server
import ComplianceRegistry.Notifier
import ComplianceRegistry.Registry.Batch

/-!
# Runs

A run is a list of steps, each with the context in which it happens. A step changes the store, and
what it announces is sent to the upload service before the next step. Nothing that the upload
service replies comes back into a step: the effect of a step depends on the settings, the context
and the store alone.

## Main definitions

* `Step`, `Result` — what can happen, and what comes of it
* `Step.effect` — the result, the next store and the announcements of a step
* `World`, `World.advance` — the store and the upload service, before and after a step
* `Observation` — what can be seen of a step: its result, the requests that the upload service
  received and the entries that the trail got
* `World.run` — a run
-/

namespace ComplianceRegistry

/-- What can happen. -/
inductive Step
  /-- a request comes in; `outage` is what the database says when it cannot be reached -/
  | request (outage : Option Text) (request : Request)
  /-- an operation is asked for directly -/
  | operation (op : Operation)
  /-- rows are edited by columns -/
  | batch (edits : List Edit)
  /-- a row is deleted without a record -/
  | erase (table : Table) (id : Int)
  /-- tables are listed -/
  | dump (tables : List Table)
  /-- the server starts, with or without seeding the catalog, and stops -/
  | startup (seed : Bool)
  /-- the catalog is seeded and printed; the script that does so is a process of its own, which does
  not record changes, unless it is run within the server -/
  | seeding (recorded : Bool)
  /-- nothing happens -/
  | idle
deriving DecidableEq, Repr

/-- What comes of a step. -/
inductive Result
  | response (response : Response)
  | answer (answer : Answer)
  | committed
  | erased (rows : Nat)
  | listing (tables : List (Table × List Row))
  | report (text : Text)
  | fault (fault : Fault)
  | refused (refusal : Edit.Refusal)
deriving DecidableEq, Repr

namespace Step

/-- The outcome of work, with the result that tells of it. -/
def told {α : Type} (tell : Store → α → Result) (w : Written (Except Fault α)) : Written Result :=
  w.map fun
    | .ok a => tell w.store a
    | .error f => .fault f

/-- Deletes a row and all that belongs to it; the number of rows that had the id is given. -/
def removal (t : Table) (id : Int) : Work Nat := do
  checkInteger id
  let row ← Work.query fun s => .ok (s.row? t id)
  Work.write (·.remove t id)
  Work.commit
  return if row.isSome then 1 else 0

/-- Starts the server, with or without seeding the catalog. -/
def start (ctx : Context) (seed : Bool) : Work Unit := do
  if seed then
    let _ ← Catalog.seed true ctx

/-- The result, the next store and the announcements of a step. -/
def effect (settings : Settings) (ctx : Context) (s : Store) : Step → Written Result
  | .request outage r => (Server.handle settings outage ctx s r).map .response
  | .operation op => told (fun _ => .answer) ((op.run ctx).perform s)
  | .batch edits =>
    match Batch.run ctx s edits with
    | .ok after => ⟨.committed, after, []⟩
    | .error r => ⟨.refused r, s, []⟩
  | .erase t id => told (fun _ => .erased) ((removal t id).perform s)
  | .dump tables => ⟨.listing (tables.map fun t => (t, s.rows t)), s, []⟩
  | .startup seed => told (fun s _ => .answer (.types (Catalog.list s))) ((start ctx seed).perform s)
  | .seeding recorded =>
    told (fun s created => .report (Catalog.report created (Catalog.list s)))
      ((Catalog.seed recorded ctx).perform s)
  | .idle => ⟨.answer .nothing, s, []⟩

end Step

/-- The store, and the upload service with all that it has received. -/
structure World where
  store : Store
  uplink : Uplink
deriving DecidableEq, Repr

/-- What can be seen of a step. -/
structure Observation where
  result : Result
  /-- the requests that the upload service received -/
  deliveries : List Delivery
  /-- the entries that the trail got, in the order of their ids -/
  entries : List AuditEntry
deriving DecidableEq, Repr

namespace World

/-- Sends announcements to the upload service of the settings. -/
def deliver (settings : Settings) (u : Uplink) (announcements : List Announcement) : Uplink :=
  let waiting := announcements.foldl Outbox.schedule (Outbox.empty u)
  (waiting.drain (.ofAddress settings.uploadServiceUrl)).uplink

/-- The entries of the trail whose ids are above those of another store. -/
def newEntries (before after : Store) : List AuditEntry :=
  let top := (before.audit.map (·.id)).foldl max 0
  (after.audit.filter fun e => top < e.id).mergeSort fun a b => a.id ≤ b.id

/-- The world after a step, and what can be seen of the step. -/
def advance (settings : Settings) (w : World) (ctx : Context) (step : Step) :
    Observation × World :=
  let outcome := step.effect settings ctx w.store
  -- announcements are handed on after the step, and no answer waits for them
  let uplink := deliver settings w.uplink outcome.announcements
  ({ result := outcome.answer
     deliveries := uplink.received.drop w.uplink.received.length
     entries := newEntries w.store outcome.store },
    ⟨outcome.store, uplink⟩)

/-- The world after a run, and what can be seen of its steps. -/
def run (settings : Settings) (w : World) : List (Context × Step) → List Observation × World
  | [] => ([], w)
  | (ctx, step) :: rest =>
    let (seen, next) := w.advance settings ctx step
    let (others, last) := run settings next rest
    (seen :: others, last)

end World

end ComplianceRegistry
