import ComplianceRegistry.Proofs.Encoding
import ComplianceRegistry.Proofs.Uplink

/-!
# What is announced

The announcements of a run are its history of changes: one for each creation, update or deletion of
a regulation that was answered as a success, in the order of the requests, and none for anything
else. The history is read off the tables before and after each request. It names a regulation as it
is after a creation or an update, and a deleted one as it was before.

## Main definitions

* `Response.isSuccess` — a response that tells of a success
* `Operation.changed?` — the regulation that an operation changed, in the tables before and after
* `Arrival.change?`, `Store.changes` — the change that a request made, and those of a run

## Main results

* `World.announcements_outcome` — a request announces the change that it made
* `World.changes_announced` — the upload service receives the changes of a run
-/

namespace ComplianceRegistry

/-- The response tells of a success. -/
def Response.isSuccess (r : Response) : Bool := 200 ≤ r.status && r.status < 300

/-! ### Changes -/

namespace Operation

/-- The operation is to change a regulation. -/
def IsChange : Operation → Prop
  | .createRegulation .. | .updateRegulation .. | .deleteRegulation .. => True
  | _ => False

/-- The regulation that an operation changed and what happened to it, told from the tables before
and after. A new regulation is found by its name, an old one at its address; where it is not deleted
it is read again by its id. -/
def changed? (before after : Store) : Operation → Option (ChangeKind × Regulation)
  | .createRegulation project draft =>
    (after.regulationsAt project (.byName (some draft.name))).head?.map fun r => (.created, r)
  | .updateRegulation project address _ => do
    let r ← (before.regulationsAt project address).head?
    let row ← findById (·.id) r.id after.regulations
    some (.updated, row)
  | .deleteRegulation project address =>
    (before.regulationsAt project address).head?.map fun r => (.deleted, r)
  | _ => none

end Operation

/-- The change that a request made to a regulation, with the clock of the request. There is none
unless the response tells of a success. -/
def Arrival.change? (settings : Settings) (a : Arrival) (s : Store) : Option Announcement :=
  let outcome := a.outcome settings s
  if outcome.answer.isSuccess then
    (Server.operationOf? settings a.request).bind fun op =>
      (op.changed? s outcome.store).map fun (kind, r) =>
        ⟨kind, r.projectId, r.name, a.context.clock⟩
  else none

/-- The changes that requests make one after the other. -/
def Store.changes (settings : Settings) (s : Store) : List Arrival → List Announcement
  | [] => []
  | a :: rest => (a.change? settings s).toList ++ changes settings (a.outcome settings s).store rest

/-! ### Changes and what is announced -/

variable {ctx : Context} {s after : Store} {op : Operation} {answer : Answer}
variable {announcements : List Announcement} {settings : Settings} {r : Request}

namespace Server

/-- An operation whose answer can be shown is answered with its status. -/
theorem status_present_of_isCarriable (hwritable : isWritable answer)
    (hcarriable : (documentOf op answer).isCarriable) :
    (present settings r op (.ok answer)).status = statusOf op := by
  simp only [present, hwritable, documentResponse, hcarriable, if_true]
  rfl

/-- An operation whose answer cannot be shown is answered as a failure. -/
theorem status_present_of_not_isCarriable
    (h : ¬ (isWritable answer ∧ (documentOf op answer).isCarriable)) :
    (present settings r op (.ok answer)).status = 500 := by
  have hnone : (if isWritable answer then
      documentResponse (statusOf op) (documentOf op answer) else none) = none := by
    rw [ite_eq_right_iff]
    exact fun hwritable => if_neg fun hcarriable => h ⟨hwritable, hcarriable⟩
  simp only [present, hnone]
  rfl

theorem isSuccess_of_status_eq {response : Response} (h : response.status = statusOf op) :
    response.isSuccess := by
  have hop : 200 ≤ statusOf op ∧ statusOf op < 300 := by cases op <;> simp [statusOf]
  simpa [Response.isSuccess, h] using hop

/-- A fault is not answered as a success. -/
theorem isSuccess_present_error {f : Fault} :
    (present settings r op (.error f)).isSuccess = false := by
  have h : 400 ≤ (present settings r op (.error f)).status := le_status_present_error
  simp only [Response.isSuccess, Bool.and_eq_false_iff, decide_eq_false_iff_not]
  omega

end Server

namespace Operation.Outcome

/-- Regulations that are written can be stored, so that a store stays legible. -/
theorem legible (hs : s.Legible) (hop : op.IsPosed) (hconsistent : s.Consistent)
    (h : Outcome ctx s op answer after announcements) : after.Legible := by
  have htypes : after.types = s.types := (h.surroundings_eq hop).1
  refine ⟨htypes ▸ hs.types, ?_⟩
  cases h with
  | seeded => exact hop.elim
  | read => exact hs.regulations
  | created h =>
    have hcheck := (Store.insert_eq_ok h.written).1
    exact h.regulations_eq ▸ forall_mem_append hs.regulations hcheck
  | updated h =>
    rw [h.regulations_eq hconsistent]
    refine forall_mem_putById hs.regulations ?_
    -- the row is the one before, or it was written
    cases h.rewritten with
    | unchanged heq => exact hs.regulations _ h.before_mem
    | changed hne hrow hwritten => exact (Store.replace_eq_ok hwritten).1
  | deleted h => exact h.regulations_eq ▸ fun r hr => hs.regulations r (List.mem_of_mem_filter hr)
  | upserted hpair hwrites h => exact h.regulations_eq ▸ hs.regulations
  | statusDeleted hpair h => exact h.after_eq ▸ hs.regulations
  | remarked => exact hs.regulations

/-- A change that was carried out is announced, and what is announced is found in the tables. -/
theorem announcements_eq (hs : s.Consistent) (h : Outcome ctx s op answer after announcements) :
    announcements = ((op.changed? s after).map fun c =>
      Regulations.announcement ctx c.1 c.2).toList := by
  cases h with
  | @created project draft view _ h =>
    have hafter : after.Consistent := h.after_eq ▸ (hs.insert h.written).logged
    -- no other regulation of the project has the name, so that the new one is found by it
    have hmem : view.regulation ∈ after.regulationsAt project (.byName (some draft.name)) := by
      refine List.mem_filter.2 ⟨h.regulations_eq ▸ List.mem_append_right _ (by simp), ?_⟩
      rw [h.row_eq]
      simp [Regulations.fresh]
    have hhead := head?_of_mem hafter.length_regulationsAt_le_one hmem
    simp [changed?, hhead]
  | @updated project address patch before view _ h =>
    have hfound : s.regulationsAt project address = [before] :=
      (Regulations.find_eq_ok h.found).2
    have hreread : findById (·.id) before.id after.regulations = some view.regulation :=
      h.rewritten.findById_eq hs h.before_mem rfl
    simp [changed?, hfound, hreread]
  | @deleted project address view _ h =>
    have hfound : s.regulationsAt project address = [view.regulation] :=
      (Regulations.find_eq_ok h.found).2
    simp [changed?, hfound]
  | read hread => cases op <;> first | exact hread.elim | rfl
  | upserted hpair hwrites h => cases hwrites <;> rfl
  | _ => rfl

theorem announcements_ne_nil (hchange : op.IsChange)
    (h : Outcome ctx s op answer after announcements) : announcements ≠ [] := by
  cases h with
  | created | updated | deleted => simp
  | read hread => cases op <;> first | exact hread.elim | exact hchange.elim
  | upserted hpair hwrites h => cases hwrites <;> exact hchange.elim
  | _ => exact hchange.elim

/-- A change that was carried out is answered with its status, since the regulation can be shown. -/
theorem status_present (hs : s.Legible) (hop : op.IsPosed) (hconsistent : s.Consistent)
    (hchange : op.IsChange) (h : Outcome ctx s op answer after announcements) :
    (Server.present settings r op (.ok answer)).status = Server.statusOf op := by
  have hafter : after.Legible := h.legible hs hop hconsistent
  cases h with
  | @created project draft view _ h =>
    have hmem : view.regulation ∈ after.regulations :=
      h.regulations_eq ▸ List.mem_append_right _ (List.mem_singleton_self _)
    have htype : view.type ∈ s.types := (Catalog.find_eq_ok h.type_found).1
    exact Server.status_present_of_isCarriable rfl
      (RegulationView.isCarriable_answer (hafter.regulations _ hmem) (hs.types _ htype))
  | @updated project address patch before view _ h =>
    have hmem : view.regulation ∈ after.regulations :=
      (findById_eq_some (h.rewritten.findById_eq hconsistent h.before_mem rfl)).1
    have htype : view.type ∈ s.types := (Catalog.find_eq_ok h.type_found).1
    exact Server.status_present_of_isCarriable rfl
      (RegulationView.isCarriable_answer (hafter.regulations _ hmem) (hs.types _ htype))
  | deleted h =>
    -- a deletion is answered by the id alone
    refine Server.status_present_of_isCarriable rfl ?_
    simp [Server.documentOf, Document.isCarriable, Document.membersCarriable]
  | read hread => cases op <;> first | exact hread.elim | exact hchange.elim
  | upserted hpair hwrites h => cases hwrites <;> exact hchange.elim
  | _ => exact hchange.elim

end Operation.Outcome

namespace Operation

theorem changed?_of_not_isChange (h : ¬ op.IsChange) : op.changed? s after = none := by
  cases op with
  | createRegulation | updateRegulation | deleteRegulation => exact absurd trivial h
  | _ => rfl

/-- A changed regulation is in the tables after the change, or it was before. -/
theorem mem_of_changed? {c : ChangeKind × Regulation} (h : op.changed? s after = some c) :
    c.2 ∈ after.regulations ∨ c.2 ∈ s.regulations := by
  cases op with
  | createRegulation project draft =>
    obtain ⟨r, hr, rfl⟩ := Option.map_eq_some_iff.1 h
    exact .inl (Store.mem_of_mem_regulationsAt (List.mem_of_head? hr)).1
  | updateRegulation project address patch =>
    obtain ⟨r, -, h⟩ := Option.bind_eq_some_iff.1 h
    obtain ⟨row, hrow, h⟩ := Option.bind_eq_some_iff.1 h
    obtain rfl := Option.some.inj h
    exact .inl (findById_eq_some hrow).1
  | deleteRegulation project address =>
    obtain ⟨r, hr, rfl⟩ := Option.map_eq_some_iff.1 h
    exact .inr (Store.mem_of_mem_regulationsAt (List.mem_of_head? hr)).1
  | _ => simp [changed?] at h

end Operation

/-! ### Requests and runs -/

namespace Arrival

variable {a : Arrival}

theorem change?_of_success (hop : Server.operationOf? settings a.request = some op)
    (h : (a.outcome settings s).answer.isSuccess) :
    a.change? settings s = (op.changed? s (a.outcome settings s).store).map fun c =>
      Regulations.announcement (Server.contextOf a.context a.request) c.1 c.2 := by
  simp only [change?, h, hop, if_true, Option.bind_some]
  rfl

theorem change?_of_failure (h : (a.outcome settings s).answer.isSuccess = false) :
    a.change? settings s = none := by
  simp [change?, h]

theorem change?_of_not_isChange
    (h : ∀ op, Server.operationOf? settings a.request = some op → ¬ op.IsChange) :
    a.change? settings s = none := by
  cases hop : Server.operationOf? settings a.request with
  | none => simp [change?, hop]
  | some op => simp [change?, hop, Operation.changed?_of_not_isChange (h op hop)]

end Arrival

namespace World

variable {w : World} {a : Arrival} {arrivals : List Arrival}

/-- A change is answered as a success exactly when it is carried out. -/
theorem isSuccess_outcome (hs : s.Consistent) (hlegible : s.Legible)
    (hop : Server.operationOf? settings a.request = some op) (hchange : op.IsChange) :
    (a.outcome settings s).answer.isSuccess =
      ((op.run (Server.contextOf a.context a.request)).perform s).answer.isOk := by
  have houtcome : (a.outcome settings s).answer = Server.present settings a.request op
      ((op.run (Server.contextOf a.context a.request)).perform s).answer :=
    congrArg Written.answer (Server.handle_of_operation hop)
  rw [houtcome]
  cases hanswer : ((op.run (Server.contextOf a.context a.request)).perform s).answer with
  | ok answer =>
    have h := Operation.outcome_of_perform hs hanswer
    have hstatus : (Server.present settings a.request op (.ok answer)).status =
        Server.statusOf op :=
      h.status_present hlegible (Server.isPosed_of_operationOf? hop) hs hchange
    rw [Server.isSuccess_of_status_eq hstatus]
    rfl
  | error f => exact Server.isSuccess_present_error

/-- A request announces the change that it made. -/
theorem announcements_outcome (hs : s.Consistent) (hlegible : s.Legible) :
    (a.outcome settings s).announcements = (a.change? settings s).toList := by
  cases hop : Server.operationOf? settings a.request with
  | none =>
    have hannounced : (a.outcome settings s).announcements = [] := (Server.handle_of_none hop).2
    have hchange : a.change? settings s = none := Arrival.change?_of_not_isChange (by simp [hop])
    rw [hannounced, hchange]
    rfl
  | some op =>
    have houtcome : a.outcome settings s =
        ((op.run (Server.contextOf a.context a.request)).perform s).map
          (Server.present settings a.request op) := Server.handle_of_operation hop
    have hannounced : (a.outcome settings s).announcements =
        ((op.run (Server.contextOf a.context a.request)).perform s).announcements :=
      congrArg Written.announcements houtcome
    rw [hannounced]
    cases hanswer : ((op.run (Server.contextOf a.context a.request)).perform s).answer with
    | error f =>
      have hnone := ((Operation.run_leads hs op).perform_error hanswer).2
      have hfailed : (a.outcome settings s).answer.isSuccess = false := by
        rw [houtcome]
        simp only [Written.map, hanswer]
        exact Server.isSuccess_present_error
      rw [hnone, Arrival.change?_of_failure hfailed]
      rfl
    | ok answer =>
      rw [(Operation.outcome_of_perform hs hanswer).announcements_eq hs]
      by_cases hchange : op.IsChange
      · have hsuccess : (a.outcome settings s).answer.isSuccess := by
          rw [isSuccess_outcome hs hlegible hop hchange, hanswer]
          rfl
        rw [Arrival.change?_of_success hop hsuccess, houtcome]
        rfl
      · have hnone : a.change? settings s = none :=
          Arrival.change?_of_not_isChange fun o ho => Option.some.inj (hop.symm.trans ho) ▸ hchange
        rw [hnone, Operation.changed?_of_not_isChange hchange]
        rfl

theorem legible_outcome (hs : s.Consistent) (hlegible : s.Legible) :
    (a.outcome settings s).store.Legible := by
  rcases Server.handle_cases hs with ⟨op, answer, hop, -, h⟩ | ⟨hstore, -⟩
  · exact h.legible hlegible (Server.isPosed_of_operationOf? hop) hs
  · exact hstore.symm ▸ hlegible

/-- What is announced has bytes, because the regulation that it names could be stored. -/
theorem isCarriable_change {c : Announcement} (hs : s.Consistent) (hlegible : s.Legible)
    (h : a.change? settings s = some c) : c.payload.isCarriable := by
  have hafter : (a.outcome settings s).store.Legible := legible_outcome hs hlegible
  unfold Arrival.change? at h
  dsimp only at h
  split at h
  · obtain ⟨op, -, h⟩ := Option.bind_eq_some_iff.1 h
    obtain ⟨⟨kind, r⟩, hchanged, rfl⟩ := Option.map_eq_some_iff.1 h
    have hname : r.name.Encodable := by
      rcases Operation.mem_of_changed? hchanged with hr | hr
      · exact (Regulation.check_eq_ok (hafter.regulations r hr)).1
      · exact (Regulation.check_eq_ok (hlegible.regulations r hr)).1
    have hkind : kind.name.Encodable := by cases kind <;> exact Text.encodable_ofString _
    simp [Announcement.payload, Document.isCarriable, Document.membersCarriable, hname, hkind]
  · simp at h

/-- Each change that is answered as a success is one of those that are announced. -/
theorem isSome_change?_iff (hs : s.Consistent) (hlegible : s.Legible) :
    (a.change? settings s).isSome ↔ (a.outcome settings s).answer.isSuccess ∧
      ∃ op, Server.operationOf? settings a.request = some op ∧ op.IsChange := by
  constructor
  · intro h
    refine ⟨?_, ?_⟩
    · by_contra hfailed
      rw [Arrival.change?_of_failure (Bool.not_eq_true _ ▸ hfailed)] at h
      simp at h
    · by_contra hnone
      have hchange : ∀ op, Server.operationOf? settings a.request = some op → ¬ op.IsChange :=
        fun op hop hchange => hnone ⟨op, hop, hchange⟩
      rw [Arrival.change?_of_not_isChange hchange] at h
      simp at h
  · rintro ⟨hsuccess, op, hop, hchange⟩
    rw [isSuccess_outcome hs hlegible hop hchange] at hsuccess
    cases hanswer : ((op.run (Server.contextOf a.context a.request)).perform s).answer with
    | error f => simp [hanswer, Except.isOk, Except.toBool] at hsuccess
    | ok answer =>
      -- a change that was carried out was announced, so that there is something to announce
      have hne := (Operation.outcome_of_perform hs hanswer).announcements_ne_nil hchange
      have hannounced : (a.outcome settings s).announcements = (a.change? settings s).toList :=
        announcements_outcome hs hlegible
      have houtcome : (a.outcome settings s).announcements =
          ((op.run (Server.contextOf a.context a.request)).perform s).announcements :=
        congrArg Written.announcements (Server.handle_of_operation hop)
      rw [houtcome] at hannounced
      cases hchange? : a.change? settings s with
      | none =>
        rw [hchange?] at hannounced
        exact absurd hannounced hne
      | some c => rfl

theorem legible_serve (hs : w.store.Kept) (hlegible : w.store.Legible) :
    (w.serve settings arrivals).store.Kept ∧ (w.serve settings arrivals).store.Legible := by
  refine serve_induction (P := fun s => s.Kept ∧ s.Legible) ⟨hs, hlegible⟩ fun a s h => ?_
  exact ⟨kept_outcome h.1, legible_outcome h.1.toConsistent h.2⟩

/-- The upload service receives the changes, if there is an address for them. -/
theorem received_serve (hs : w.store.Kept) (hlegible : w.store.Legible) :
    (w.serve settings arrivals).uplink.received = w.uplink.received ++
      (Notifier.ofAddress settings.uploadServiceUrl).deliveriesOf
        (w.store.changes settings arrivals) := by
  induction arrivals generalizing w with
  | nil => simp [Store.changes]
  | cons a arrivals ih =>
    have hnext := ih (w := (w.advance settings a.context (.request a.outage a.request)).2)
      (kept_outcome (a := a) hs) (legible_outcome (a := a) hs.toConsistent hlegible)
    have hreceived : (w.advance settings a.context (.request a.outage a.request)).2.uplink.received =
        w.uplink.received ++ (Notifier.ofAddress settings.uploadServiceUrl).deliveriesOf
          (a.change? settings w.store).toList := by
      rw [← announcements_outcome hs.toConsistent hlegible]
      exact received_deliver
    rw [serve_cons, hnext, hreceived, Store.changes, Notifier.deliveriesOf_append,
      List.append_assoc]
    rfl

/-- All changes of a run have bytes. -/
theorem isCarriable_changes (hs : s.Kept) (hlegible : s.Legible) :
    ∀ c ∈ s.changes settings arrivals, c.payload.isCarriable := by
  induction arrivals generalizing s with
  | nil => simp [Store.changes]
  | cons a arrivals ih =>
    intro c hc
    rcases List.mem_append.1 hc with hc | hc
    · exact isCarriable_change hs.toConsistent hlegible (Option.mem_toList.1 hc)
    · exact ih (kept_outcome (a := a) hs) (legible_outcome (a := a) hs.toConsistent hlegible) c hc

end World

end ComplianceRegistry
