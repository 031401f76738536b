import ComplianceRegistry.Proofs.Arrivals

/-!
# The ledger of statuses

The ledger says what is reported for each regulation and version, by the ids of their rows. It is
kept from the requests and never looks at the statuses: a value leaves the verdict, a verdict leaves
the value, and a report sets both with the verdict of the config that the regulation has just then.
In every state on the way of a run the table of statuses is this ledger, so that writes to the same
row only ever act on their own fields, and an id that is given again brings nothing back.

A request counts when its operation is carried out. That can be so even when the response tells of a
failure: what is written may be something that no response can show.

## Main definitions

* `Reported` — the fields of a status that are reported
* `Ledger.follow` — a ledger after an operation, given what it notes down for a write
* `Bookkeeping` — which requests a ledger counts, and what it notes down for their writes
* `World.ledger` — the ledger after some arrivals
* `Store.Mirrors` — the table of statuses is the ledger

## Main results

* `Operation.Outcome.mirrors` — an operation and the ledger keep in step
* `Ledger.note_cases` — a ledger of what is carried out follows it, and stays as it is otherwise
* `World.mirrors_serve` — after every run the table is the ledger, so is what is read from it, and
  what is answered with success is in it
-/

namespace ComplianceRegistry

/-! ### Ledgers -/

/-- What is reported for a regulation and a version. -/
structure Reported where
  value : Option Text
  details : Document
  compliant : Option Bool
deriving DecidableEq, Repr

/-- Nothing is reported. -/
def Reported.blank : Reported := ⟨none, .null, none⟩

/-- What a status reports. -/
def Status.reported (st : Status) : Reported := ⟨st.value, st.details, st.compliant⟩

/-- What is reported after a write. The fields that it does not set stay. -/
def StatusWrite.reporting (noted : Document → Document) : StatusWrite → Reported → Reported
  | .value v d, e => { e with value := v, details := noted d }
  | .compliance c, e => { e with compliant := c }
  | .report v d c, _ => ⟨v, noted d, some c⟩

@[simp] theorem StatusWrite.reported_apply {w : StatusWrite} {st : Status} :
    (w.apply st).reported = w.reporting Document.stored st.reported := by
  cases w <;> rfl

/-- What is noted down for each regulation and each version, by the ids of their rows. -/
abbrev Ledger (α : Type) := Int → Int → Option α

namespace Ledger

variable {α : Type} {L : Ledger α} {r v r' v' : Int} {e : Option α}

/-- Nothing is noted down for any pair. -/
def empty : Ledger α := fun _ _ => none

/-- The ledger with an entry for one pair, or with none. -/
def assign (L : Ledger α) (r v : Int) (e : Option α) : Ledger α := fun r' v' =>
  if r = r' ∧ v = v' then e else L r' v'

/-- The ledger without a regulation. -/
def strike (L : Ledger α) (r : Int) : Ledger α := fun r' v' => if r' = r then none else L r' v'

@[simp] theorem assign_self : L.assign r v e r v = e := if_pos ⟨rfl, rfl⟩

theorem assign_of_ne (h : ¬ (r = r' ∧ v = v')) : L.assign r v e r' v' = L r' v' := if_neg h

/-- The ledger with a write to the pair with these keys, as the regulation of the pair asks for
it. What is noted down may build on the entry that is there. -/
def enter (noted : Option α → StatusWrite → α) (s : Store) (L : Ledger α)
    (project regulation : Int) (catalogId : Text)
    (write : Regulation → Except Fault StatusWrite) : Ledger α :=
  match Statuses.findPair s project regulation catalogId with
  | .error _ => L
  | .ok (r, v) =>
    match write r with
    | .error _ => L
    | .ok w => L.assign r.id v.id (some (noted (L r.id v.id) w))

/-- The ledger after an operation that is carried out at a store. -/
def follow (noted : Option α → StatusWrite → α) (s : Store) (L : Ledger α) :
    Operation → Ledger α
  | .setValue p g c value details => L.enter noted s p g c fun _ => .ok (.value value details)
  | .setCompliance p g c compliant => L.enter noted s p g c fun _ => .ok (.compliance compliant)
  | .report p g c value details =>
    L.enter noted s p g c fun r => .report value details <$> Statuses.verdictOn s r value
  | .deleteStatus p g c =>
    match Statuses.findPair s p g c with
    | .error _ => L
    | .ok (r, v) => L.assign r.id v.id none
  | .deleteRegulation p address =>
    match Regulations.find s p address with
    | .error _ => L
    | .ok r => L.strike r.id
  | _ => L

variable {noted : Option α → StatusWrite → α} {s : Store} {op : Operation}

theorem follow_of_isRead (h : op.IsRead) : L.follow noted s op = L := by
  cases op <;> first | rfl | exact h.elim

/-- The ledger has an entry for the pair that a write is about. -/
theorem follow_of_writes {project regulation : Int} {catalogId : Text} {r : Regulation}
    {v : Version} {w : StatusWrite} (hs : s.Consistent)
    (hpair : Statuses.Pair s project regulation catalogId r v)
    (hwrites : op.Writes s r project regulation catalogId w) :
    L.follow noted s op = L.assign r.id v.id (some (noted (L r.id v.id) w)) := by
  have hfind := hpair.findPair_eq hs
  cases hwrites with
  | value => simp only [follow, enter, hfind]
  | compliance => simp only [follow, enter, hfind]
  | report hverdict => simp only [follow, enter, hfind, hverdict, Functor.map, Except.map]

end Ledger

/-! ### The table and the ledger -/

/-- The table of statuses is the ledger: a pair with an entry has one row, which reports the entry,
and a pair without has no row. -/
def Store.Mirrors (s : Store) (L : Ledger Reported) : Prop :=
  ∀ r v, (s.statusesAt r v).map Status.reported = (L r v).toList

namespace Store.Mirrors

variable {s after : Store} {L : Ledger Reported} {r v : Int}

/-- What the ledger says of a pair is what the first row of the pair reports. -/
theorem eq_head? (h : s.Mirrors L) : L r v = (s.statusesAt r v).head?.map Status.reported := by
  have hhead := congrArg List.head? (h r v)
  rw [List.head?_map] at hhead
  rw [hhead]
  cases L r v <;> rfl

theorem congr (h : s.Mirrors L) (hstatuses : after.statuses = s.statuses) : after.Mirrors L := by
  intro r v
  rw [← h r v, statusesAt, statusesAt, hstatuses]

/-- When one pair is given its entry and all others keep their rows, the table is the ledger
again. -/
theorem assign {e : Option Reported} (h : s.Mirrors L)
    (hpair : (after.statusesAt r v).map Status.reported = e.toList)
    (hothers : ∀ r' v', ¬ (r = r' ∧ v = v') → after.statusesAt r' v' = s.statusesAt r' v') :
    after.Mirrors (L.assign r v e) := by
  intro r' v'
  -- the pair itself is told apart from all others by both of its ids
  by_cases hkeys : r = r' ∧ v = v'
  · obtain ⟨rfl, rfl⟩ := hkeys
    rw [Ledger.assign_self, hpair]
  · rw [Ledger.assign_of_ne hkeys, hothers r' v' hkeys, h r' v']

end Store.Mirrors

/-! ### Bookkeeping -/

/-- How a ledger is kept. -/
structure Bookkeeping (α : Type) where
  /-- what is noted down for a pair when it is written to, given what was noted down before -/
  noted : Option α → StatusWrite → α
  /-- the results and the responses that tell of operations which count -/
  counts : Except Fault Answer → Response → Bool

namespace Bookkeeping

/-- What is carried out counts. -/
def carriedOut : Except Fault Answer → Response → Bool := fun result _ => result.isOk

/-- What is carried out counts, and details are noted down as their column gives them back. -/
def faithful : Bookkeeping Reported :=
  ⟨fun e w => w.reporting Document.stored (e.getD .blank), carriedOut⟩

/-- What is answered with success counts, and details are noted down as they are sent. -/
def literal : Bookkeeping Reported :=
  ⟨fun e w => w.reporting id (e.getD .blank), fun _ response => response.status < 300⟩

/-- What is answered with success is carried out. -/
theorem counts_faithful {settings : Settings} {r : Request} {op : Operation}
    {result : Except Fault Answer}
    (h : literal.counts result (Server.present settings r op result)) :
    faithful.counts result (Server.present settings r op result) := by
  cases result with
  | ok answer => rfl
  | error f =>
    have hstatus : 400 ≤ (Server.present settings r op (.error f)).status :=
      Server.le_status_present_error
    simp only [literal, decide_eq_true_eq] at h
    omega

end Bookkeeping

/-- A written row reports what the ledger notes down for it: the row that is added starts out
blank, like a pair without an entry. -/
theorem Statuses.Upserted.reported_eq {ctx : Context} {s after : Store} {r : Regulation}
    {v : Version} {w : StatusWrite} {row : Status} {L : Ledger Reported}
    (h : Statuses.Upserted ctx s r v w row after) (hL : s.Mirrors L) :
    row.reported = Bookkeeping.faithful.noted (L r.id v.id) w := by
  rw [hL.eq_head?]
  cases h with
  | added hnone hrow hwritten =>
    -- the fields that the write does not set are blank on both sides
    rw [hnone, hrow, StatusWrite.reported_apply]
    rfl
  | replaced hsome hrow hwritten =>
    rw [hsome, hrow]
    exact StatusWrite.reported_apply

/-- An operation and the ledger keep in step. -/
theorem Operation.Outcome.mirrors {ctx : Context} {s after : Store} {op : Operation}
    {answer : Answer} {announcements : List Announcement} {L : Ledger Reported}
    (hs : s.Consistent) (hL : s.Mirrors L) (h : Outcome ctx s op answer after announcements) :
    after.Mirrors (L.follow Bookkeeping.faithful.noted s op) := by
  cases h with
  | seeded h => exact hL.congr h.statuses_eq
  | read h => exact Ledger.follow_of_isRead h ▸ hL
  | created h => exact hL.congr h.statuses_eq
  | updated h => exact hL.congr h.rewritten.statuses_eq
  | deleted h =>
    -- all pairs of the regulation lose their rows and their entries
    intro r v
    simp only [Ledger.follow, h.found, Ledger.strike, h.statusesAt_eq]
    split
    · rfl
    · exact hL r v
  | upserted hpair hwrites h =>
    rw [Ledger.follow_of_writes hs hpair hwrites, ← h.reported_eq hL]
    refine hL.assign ?_ fun _ _ => h.statusesAt_of_ne hs
    rw [h.statusesAt_eq hs]
    rfl
  | statusDeleted hpair h =>
    simp only [Ledger.follow, hpair.findPair_eq hs]
    refine hL.assign ?_ fun _ _ => h.statusesAt_of_ne hs
    rw [h.statusesAt_eq]
    rfl
  | remarked h => exact hL.congr rfl

/-! ### Ledgers of runs -/

namespace Ledger

variable {α : Type} {b : Bookkeeping α} {settings : Settings} {s : Store} {L : Ledger α}
variable {a : Arrival} {op : Operation}

/-- The ledger after an arrival at a store. -/
def note (b : Bookkeeping α) (settings : Settings) (s : Store) (L : Ledger α) (a : Arrival) :
    Ledger α :=
  match Server.operationOf? settings a.request with
  | none => L
  | some op =>
    let result := ((op.run (Server.contextOf a.context a.request)).perform s).answer
    if b.counts result (a.outcome settings s).answer then L.follow b.noted s op else L

theorem note_of_counts (hop : Server.operationOf? settings a.request = some op)
    (h : b.counts ((op.run (Server.contextOf a.context a.request)).perform s).answer
      (a.outcome settings s).answer) : L.note b settings s a = L.follow b.noted s op := by
  simp only [note, hop, h, if_true]

theorem note_of_not_counts (hop : Server.operationOf? settings a.request = some op)
    (h : ¬ b.counts ((op.run (Server.contextOf a.context a.request)).perform s).answer
      (a.outcome settings s).answer) : L.note b settings s a = L := by
  simp only [note, hop, h, if_false, Bool.false_eq_true]

theorem note_of_none (hop : Server.operationOf? settings a.request = none) :
    L.note b settings s a = L := by
  simp only [note, hop]

/-- A ledger of what is carried out follows an operation that comes to something; otherwise both
the store and the ledger stay as they are. -/
theorem note_cases (hb : b.counts = Bookkeeping.carriedOut) (hs : s.Consistent) :
    (∃ op answer, op.IsPosed ∧ L.note b settings s a = L.follow b.noted s op ∧
      Operation.Outcome (Server.contextOf a.context a.request) s op answer
        (a.outcome settings s).store (a.outcome settings s).announcements) ∨
    ((a.outcome settings s).store = s ∧ L.note b settings s a = L) := by
  cases hop : Server.operationOf? settings a.request with
  | none => exact .inr ⟨(Server.handle_of_none hop).1, note_of_none hop⟩
  | some op =>
    have houtcome : a.outcome settings s = _ := Server.handle_of_operation hop
    have hstore : (a.outcome settings s).store =
        ((op.run (Server.contextOf a.context a.request)).perform s).store :=
      congrArg Written.store houtcome
    have hannouncements : (a.outcome settings s).announcements =
        ((op.run (Server.contextOf a.context a.request)).perform s).announcements :=
      congrArg Written.announcements houtcome
    cases hanswer : ((op.run (Server.contextOf a.context a.request)).perform s).answer with
    | ok answer =>
      refine .inl ⟨op, answer, Server.isPosed_of_operationOf? hop, note_of_counts hop ?_, ?_⟩
      · rw [hb, hanswer]
        rfl
      · rw [hstore, hannouncements]
        exact Operation.outcome_of_perform hs hanswer
    | error f =>
      refine .inr ⟨?_, note_of_not_counts hop ?_⟩
      · rw [hstore, ((Operation.run_leads hs op).perform_error hanswer).1]
      · rw [hb, hanswer]
        exact Bool.false_ne_true

end Ledger

namespace World

variable {α : Type} {b : Bookkeeping α} {settings : Settings} {w : World} {a : Arrival}
variable {arrivals : List Arrival} {L : Ledger Reported}

/-- The ledger after some arrivals at a world. -/
def ledger (b : Bookkeeping α) (settings : Settings) (w : World) (L : Ledger α) :
    List Arrival → Ledger α
  | [] => L
  | a :: arrivals =>
    ledger b settings (w.advance settings a.context (.request a.outage a.request)).2
      (L.note b settings w.store a) arrivals

/-- One more arrival is noted down at the store that the others left. -/
theorem ledger_concat {L : Ledger α} : w.ledger b settings L (arrivals ++ [a]) =
    (w.ledger b settings L arrivals).note b settings (w.serve settings arrivals).store a := by
  induction arrivals generalizing w L with
  | nil => rfl
  | cons a arrivals ih => exact ih

/-- One request and the ledger keep in step. -/
theorem mirrors_outcome {s : Store} (hs : s.Consistent) (hL : s.Mirrors L) :
    (a.outcome settings s).store.Mirrors (L.note .faithful settings s a) := by
  rcases Ledger.note_cases (b := .faithful) rfl hs with
    ⟨op, answer, -, hnote, houtcome⟩ | ⟨hstore, hnote⟩
  · exact hnote ▸ houtcome.mirrors hs hL
  · rwa [hstore, hnote]

/-- Requests and the ledger keep in step from every sound store on. -/
theorem mirrors_ledger (hs : w.store.Kept) (hL : w.store.Mirrors L) :
    (w.serve settings arrivals).store.Mirrors (w.ledger .faithful settings L arrivals) := by
  induction arrivals generalizing w L with
  | nil => exact hL
  | cons a arrivals ih =>
    rw [serve_cons]
    exact ih (kept_outcome hs) (mirrors_outcome hs.toConsistent hL)

/-- After every run the table of statuses is the ledger of the run. So a status that is read is the
entry of its pair, and there is none to be read where the pair has no entry. The operation of any
further request that is answered with success goes into the ledger. -/
theorem mirrors_serve (h : w.store.Initial) :
    (w.serve settings arrivals).store.Mirrors (w.ledger .faithful settings .empty arrivals) ∧
    (∀ (project regulation : Int) (catalogId : Text) (r : Regulation) (v : Version),
      Statuses.Pair (w.serve settings arrivals).store project regulation catalogId r v →
      (Statuses.get (w.serve settings arrivals).store project regulation catalogId).map
          (·.status.reported) =
        match w.ledger .faithful settings .empty arrivals r.id v.id with
        | some e => .ok e
        | none => .error (.notFound (.status regulation project catalogId))) ∧
    ∀ (a : Arrival) (op : Operation), Server.operationOf? settings a.request = some op →
      (a.outcome settings (w.serve settings arrivals).store).answer.status < 300 →
      w.ledger .faithful settings .empty (arrivals ++ [a]) =
        (w.ledger .faithful settings .empty arrivals).follow Bookkeeping.faithful.noted
          (w.serve settings arrivals).store op := by
  have hempty : w.store.Mirrors .empty := fun r v => by
    simp [Store.statusesAt, h.statuses_eq, Ledger.empty]
  have hmirrors : (w.serve settings arrivals).store.Mirrors
      (w.ledger .faithful settings .empty arrivals) := mirrors_ledger h.kept hempty
  refine ⟨hmirrors, fun project regulation catalogId r v hpair => ?_, fun a op hop hstatus => ?_⟩
  · -- the status that is read is the first row of the pair, and so is the entry
    rw [hpair.get_eq (kept_serve h).toConsistent, hmirrors.eq_head?]
    cases ((w.serve settings arrivals).store.statusesAt r.id v.id).head? <;> rfl
  · -- a response of success tells that the operation was carried out, and so it counts
    have houtcome : a.outcome settings (w.serve settings arrivals).store = _ :=
      Server.handle_of_operation hop
    rw [ledger_concat]
    refine Ledger.note_of_counts hop ?_
    rw [houtcome] at hstatus ⊢
    exact Bookkeeping.counts_faithful (decide_eq_true hstatus)

/-- A report on a new regulation is in the ledger, since it is answered with success, and in the
table, and it is what is read. -/
theorem mirrors_serve_report :
    sample.store.Initial ∧
    sample.ledger .faithful (.ofDatabase "sqlite") .empty [.creation, .firstReport] =
      (sample.ledger .faithful (.ofDatabase "sqlite") .empty [.creation]).follow
        Bookkeeping.faithful.noted (sample.serve (.ofDatabase "sqlite") [.creation]).store
        (.report 1 1 "cat-100" (some "true") .null) ∧
    (sample.serve (.ofDatabase "sqlite") [.creation, .firstReport]).store.Mirrors
      (sample.ledger .faithful (.ofDatabase "sqlite") .empty [.creation, .firstReport]) ∧
    (Statuses.get (sample.serve (.ofDatabase "sqlite") [.creation, .firstReport]).store 1 1
      "cat-100").map (·.status.reported) = .ok ⟨some "true", .null, some true⟩ := by
  have hfind : Statuses.findPair
      (sample.serve (.ofDatabase "sqlite") [.creation, .firstReport]).store 1 1 "cat-100" =
      .ok (⟨1, "r", none, none, none, 0, 1, 1, ⟨0⟩, ⟨0⟩⟩, ⟨1, "cat-100", 1, none, ⟨0⟩⟩) := by
    decide +kernel
  have hledger :
      sample.ledger .faithful (.ofDatabase "sqlite") .empty [.creation, .firstReport] 1 1 =
        some ⟨some "true", .null, some true⟩ := by
    decide +kernel
  obtain ⟨htable, hread, -⟩ := @mirrors_serve (.ofDatabase "sqlite") sample
    [.creation, .firstReport] Store.initial_sample
  obtain ⟨-, -, hfurther⟩ := @mirrors_serve (.ofDatabase "sqlite") sample [.creation]
    Store.initial_sample
  refine ⟨Store.initial_sample, hfurther .firstReport _ (by decide +kernel) (by decide +kernel),
    htable, ?_⟩
  have hentry := hread _ _ _ _ _ (Statuses.findPair_eq_ok hfind)
  rw [hledger] at hentry
  exact hentry

/-- A ledger that is kept literally is not the table: details that are a large integer come back as
the number that the column makes of them, and details that no response can show are kept although
the response tells of a failure. -/
theorem not_mirrors_literal :
    sample.store.Initial ∧
    ¬ (sample.serve (.ofDatabase "sqlite")
          [.creation, .detailing "18446744073709551617"]).store.Mirrors
        (sample.ledger .literal (.ofDatabase "sqlite") .empty
          [.creation, .detailing "18446744073709551617"]) ∧
    ¬ (sample.serve (.ofDatabase "sqlite") [.creation, .detailing "[\"\\ud800\"]"]).store.Mirrors
        (sample.ledger .literal (.ofDatabase "sqlite") .empty
          [.creation, .detailing "[\"\\ud800\"]"]) :=
  ⟨Store.initial_sample, fun h => absurd (h 1 1) (by decide +kernel),
    fun h => absurd (h 1 1) (by decide +kernel)⟩

end World

end ComplianceRegistry
