import ComplianceRegistry.Announcement
import ComplianceRegistry.Store.Write

/-!
# Sessions

An operation works in a session on the store. What it writes is seen by the rest of the session,
but outlasts the session only once it is committed. A fault breaks off the work where it occurs and
undoes nothing by itself: what was committed before stays, and the rest is lost when the session is
closed. Announcements are handed on at once and cannot be taken back.

## Main definitions

* `Session` — the store as it was last committed and as the session sees it
* `Work` — what is done in a session, with its result or the fault that broke it off
* `Work.query`, `Work.write`, `Work.commit`, `Work.rollback`, `Work.announce` — the parts of work
* `Work.perform` — what is left of work when its session is closed
-/

namespace ComplianceRegistry

/-- What comes of something that may write: an answer, the next store and the announcements. -/
structure Written (α : Type) where
  answer : α
  store : Store
  announcements : List Announcement
deriving DecidableEq, Repr

/-- The outcome with a function applied to its answer. -/
def Written.map {α β : Type} (f : α → β) (w : Written α) : Written β :=
  ⟨f w.answer, w.store, w.announcements⟩

/-- A session on the store. -/
structure Session where
  /-- the store as it was last committed -/
  committed : Store
  /-- the store as the session sees it -/
  working : Store
  /-- the announcements handed on so far -/
  announced : List Announcement

/-- A session that has done nothing. -/
def Session.start (s : Store) : Session := ⟨s, s, []⟩

/-- Work in a session: its result, or the fault that broke it off, and the session then. -/
def Work (α : Type) : Type := Session → Except Fault α × Session

namespace Work

variable {α β : Type}

/-- Goes on with the result of some work. A fault breaks off all that follows. -/
protected def bind (w : Work α) (next : α → Work β) : Work β := fun σ =>
  match w σ with
  | (.ok a, τ) => next a τ
  | (.error f, τ) => (.error f, τ)

instance : Monad Work where
  pure a := fun σ => (.ok a, σ)
  bind := Work.bind

/-- Breaks off the work. -/
def fail (f : Fault) : Work α := fun σ => (.error f, σ)

/-- What needs no store is done as it is. -/
instance : MonadLift (Except Fault) Work := ⟨fun e σ => (e, σ)⟩

/-- Asks the store as the session sees it. -/
def query (ask : Store → Except Fault α) : Work α := fun σ => (ask σ.working, σ)

/-- Writes to the store as the session sees it. A statement that is refused writes nothing. -/
def write (statement : Store → Except Fault Store) : Work Unit := fun σ =>
  match statement σ.working with
  | .ok s => (.ok (), { σ with working := s })
  | .error f => (.error f, σ)

/-- Makes all that was written outlast the session. -/
def commit : Work Unit := fun σ => (.ok (), { σ with committed := σ.working })

/-- Takes back all that was written and not committed. -/
def rollback : Work Unit := fun σ => (.ok (), { σ with working := σ.committed })

/-- Hands on an announcement. -/
def announce (a : Announcement) : Work Unit := fun σ =>
  (.ok (), { σ with announced := σ.announced ++ [a] })

/-- Does other work when a fault breaks off the first. -/
def rescue (w : Work α) (other : Fault → Work α) : Work α := fun σ =>
  match w σ with
  | (.ok a, τ) => (.ok a, τ)
  | (.error f, τ) => other f τ

/-- Does the work in a session of its own. Of what it wrote, the store gets what was committed. -/
def perform (w : Work α) (s : Store) : Written (Except Fault α) :=
  let (result, σ) := w (.start s)
  ⟨result, σ.committed, σ.announced⟩

end Work

end ComplianceRegistry
