import ComplianceRegistry.Proofs.Arrivals
import ComplianceRegistry.Proofs.Callers
import ComplianceRegistry.Proofs.Comparison

/-!
# Whom the trail names

The user of a request is written into the entries of the trail and into nothing else. So requests
that differ in their user alone have the same response and leave the same tables, but for the user
in the new entries. That is so for callers who can be recorded; a caller whose number cannot be read
or does not fit its column makes a request fail that would have written something.

## Main definitions

* `Context.onBehalf`, `Store.attributed` — the same for another user
* `Trail.Holds`, `Caller.IsRecordable` — users and callers who can be recorded
* `Trail.Attributed` — two stores that got the same notes for two users
* `Written.SameFor`, `Written.Fails` — what the outcomes for two users can be

## Main results

* `Trail.record_onBehalf` — the trail takes notes for two users alike
* `Operation.perform_onBehalf` — operations for two users
* `World.user_has_no_influence` — requests of two users
-/

namespace ComplianceRegistry

variable {ctx : Context} {user : Option Int} {s : Store}

/-- The context of the same operation for another user. -/
def Context.onBehalf (ctx : Context) (user : Option Int) : Context := { ctx with user := user }

/-- The store with another user for all entries of the trail but the old ones. -/
def Store.attributed (s : Store) (old : List AuditEntry) (user : Option Int) : Store :=
  { s with audit := s.audit.map fun e => if e ∈ old then e else { e with userId := user } }

namespace Trail

variable {notes : List Note} {first : Int}

/-- The trail can hold the user: there is none, or its number fits the column. -/
def Holds (user : Option Int) : Prop := ∀ id ∈ user, Storable id

instance : DecidablePred Holds := fun user =>
  match user with
  | none => isTrue (by simp [Holds])
  | some id => decidable_of_iff (Storable id) (by simp [Holds])

theorem check_ofInteger?_of_holds (h : Holds user) : (Cell.ofInteger? user).check = .ok () := by
  cases user with
  | none => rfl
  | some id => exact checkInteger_eq_ok.2 (h id rfl)

/-- An entry for a user that does not fit cannot be stored, whatever else it says. -/
theorem check_of_not_holds {e : AuditEntry} (h : ¬ Holds e.userId) :
    (Row.audit e).check = .error .integerBeyondStorage := by
  obtain ⟨id, hid, hbeyond⟩ : ∃ id, e.userId = some id ∧ ¬ Storable id := by
    simpa [Holds] using h
  have huser : (Cell.ofInteger? e.userId).check = .error .integerBeyondStorage := by
    rw [hid]
    exact if_neg hbeyond
  -- the user comes right after the id, which fails in the same way if it fails
  change (checkInteger e.id >>= fun _ => (Cell.ofInteger? e.userId).check >>= fun _ => _) = _
  rw [huser]
  unfold checkInteger
  split <;> rfl

/-- The faults of work for a user whom the trail cannot hold. -/
def Unheld (user : Option Int) (f : Fault) : Prop := f = .integerBeyondStorage ∧ ¬ Holds user

theorem Unheld.ne_constraintViolated {f : Fault} (h : Unheld user f) : f ≠ .constraintViolated := by
  rw [h.1]
  simp

/-- The entries for two users can be stored alike, unless one of them does not fit and there is
an entry to store. -/
theorem checkEntries_alike (hctx : Holds ctx.user) :
    Alike (Unheld user) (fun _ _ => Holds user ∨ notes = [])
      (checkEntries (entriesFrom ctx first notes))
      (checkEntries (entriesFrom (ctx.onBehalf user) first notes)) := by
  by_cases huser : Holds user
  · have hsame : checkEntries (entriesFrom ctx first notes) =
        checkEntries (entriesFrom (ctx.onBehalf user) first notes) := by
      induction notes generalizing first with
      | nil => rfl
      | cons n notes ih =>
        have hhead : (Row.audit (n.entry ctx first)).check =
            (Row.audit (n.entry (ctx.onBehalf user) first)).check := by
          refine AuditEntry.check_congr rfl ?_ rfl rfl
          exact (check_ofInteger?_of_holds hctx).trans (check_ofInteger?_of_holds huser).symm
        simp only [entriesFrom, checkEntries_cons, hhead, ih]
    exact (Alike.of_eq hsame).mono fun _ _ _ => .inl huser
  · cases notes with
    | nil => exact .ok (.inr rfl)
    | cons n notes =>
      rw [entriesFrom, entriesFrom, checkEntries_cons (e := n.entry (ctx.onBehalf user) first),
        check_of_not_holds (e := n.entry (ctx.onBehalf user) first) huser]
      exact .broken ⟨rfl, huser⟩

/-- Two stores come from one by the same notes, which were recorded for the user of the context and
for another one. The trail of that one is the trail at the start. For a user whom the trail cannot
hold there are no notes. -/
def Attributed (ctx : Context) (user : Option Int) (s after after' : Store) : Prop :=
  ∃ (core : Store) (notes : List Note), core.audit = s.audit ∧ (Holds user ∨ notes = []) ∧
    after = logged ctx notes core ∧ after' = logged (ctx.onBehalf user) notes core

namespace Attributed

variable {after after' : Store}

/-- Nothing was recorded at all. -/
theorem refl : Attributed ctx user s s s := by
  refine ⟨s, [], rfl, .inr rfl, ?_, ?_⟩ <;> simp [logged, entriesFrom]

/-- Whoever does not look at the trail finds the same in both. -/
theorem ask_eq {α : Type} (h : Attributed ctx user s after after') (ask : Store → α)
    (hask : ∀ ctx notes core, ask (logged ctx notes core) = ask core) : ask after = ask after' := by
  obtain ⟨core, notes, -, -, rfl, rfl⟩ := h
  rw [hask, hask]

variable {e : AuditEntry}

theorem entriesFrom_onBehalf : entriesFrom (ctx.onBehalf user) first notes =
    (entriesFrom ctx first notes).map fun e => { e with userId := user } := by
  induction notes generalizing first with
  | nil => rfl
  | cons n notes ih =>
    rw [entriesFrom, ih]
    rfl

theorem userId_of_mem_entriesFrom (h : e ∈ entriesFrom ctx first notes) : e.userId = ctx.user := by
  induction notes generalizing first with
  | nil => simp [entriesFrom] at h
  | cons n notes ih =>
    rcases List.mem_cons.1 h with rfl | h
    · rfl
    · exact ih h

theorem notMem_of_mem_entriesFrom {old : List AuditEntry}
    (h : e ∈ entriesFrom ctx (nextId (old.map (·.id))) notes) : e ∉ old := by
  intro hold
  have hlt : e.id < nextId (old.map (·.id)) := lt_nextId (List.mem_map_of_mem hold)
  have hle := le_id_of_mem_entriesFrom h
  omega

/-- The new entries name the other user. -/
theorem eq_attributed (h : Attributed ctx user s after after') :
    after' = after.attributed s.audit user := by
  obtain ⟨core, notes, haudit, -, rfl, rfl⟩ := h
  have hold : core.audit.map (fun e => if e ∈ s.audit then e else { e with userId := user }) =
      core.audit := by
    rw [haudit]
    exact (List.map_congr_left fun e he => if_pos he).trans (List.map_id _)
  have hnew : (entriesFrom ctx (nextId (core.audit.map (·.id))) notes).map
        (fun e => if e ∈ s.audit then e else { e with userId := user }) =
      entriesFrom (ctx.onBehalf user) (nextId (core.audit.map (·.id))) notes := by
    rw [entriesFrom_onBehalf]
    refine List.map_congr_left fun e he => if_neg ?_
    exact haudit ▸ notMem_of_mem_entriesFrom he
  simp only [logged, Store.attributed, List.map_append, hold, hnew]

/-- The new entries name the user of the context. -/
theorem userId_eq (h : Attributed ctx user s after after') (he : e ∈ after.audit)
    (hnew : e ∉ s.audit) : e.userId = ctx.user := by
  obtain ⟨core, notes, haudit, -, rfl, rfl⟩ := h
  rcases List.mem_append.1 he with he | he
  · exact absurd (haudit ▸ he) hnew
  · exact userId_of_mem_entriesFrom he

/-- For a user whom the trail cannot hold nothing is recorded. -/
theorem eq_of_not_holds (h : Attributed ctx user s after after') (huser : ¬ Holds user) :
    after' = after := by
  obtain ⟨core, notes, haudit, hnotes, rfl, rfl⟩ := h
  obtain rfl := hnotes.resolve_left huser
  rfl

end Attributed

/-- The trail takes notes for two users alike. -/
theorem record_onBehalf {core : Store} (hctx : Holds ctx.user) (haudit : core.audit = s.audit) :
    Alike (Unheld user) (Attributed ctx user s) (record ctx core notes)
      (record (ctx.onBehalf user) core notes) := by
  refine (record_alike (checkEntries_alike hctx)).mono ?_
  rintro after after' ⟨hnotes, hafter, hafter'⟩
  exact ⟨core, notes, haudit, hnotes, hafter, hafter'⟩

end Trail

/-! ### Operations for two users -/

open Work Trail

/-- Two sessions that announced the same, and in which the same was written for two users. -/
def Session.Parallel (ctx : Context) (user : Option Int) (s : Store) (τ τ' : Session) : Prop :=
  τ'.announced = τ.announced ∧ Attributed ctx user s τ.working τ'.working

/-- Two sessions in which the same was also committed. -/
def Session.Settled (ctx : Context) (user : Option Int) (s : Store) (τ τ' : Session) : Prop :=
  τ.Parallel ctx user s τ' ∧ Attributed ctx user s τ.committed τ'.committed

variable {σ τ τ' : Session}

theorem Session.Settled.refl (hworking : σ.working = s) (hcommitted : σ.committed = s) :
    σ.Settled ctx user s σ := by
  subst hworking
  exact ⟨⟨rfl, .refl⟩, hcommitted ▸ .refl⟩

/-- What is recorded for two users ends in parallel. -/
theorem Trail.write_record_onBehalf {notes : Store → List Note} (hctx : Holds ctx.user)
    (haudit : σ.working.audit = s.audit) :
    RunAlike (Unheld user) (write fun t => record ctx t (notes t)) σ
      (write fun t => record (ctx.onBehalf user) t (notes t)) σ
      fun _ τ _ τ' => τ.Parallel ctx user s τ' :=
  RunAlike.of_write ((record_onBehalf hctx haudit).mono fun _ _ h => ⟨rfl, h⟩)

namespace Regulations

variable {project id : Int} {address : Address} {draft : Draft} {patch : Patch}
variable {before after : Regulation}

theorem rereadAndAnnounce_onBehalf {kind : ChangeKind} (h : τ.Settled ctx user s τ') :
    RunAlike (Unheld user) (rereadAndAnnounce ctx kind id) τ
      (rereadAndAnnounce (ctx.onBehalf user) kind id) τ' fun a τ b τ' =>
        a = b ∧ τ.Settled ctx user s τ' := by
  have hreread : reread τ.working id = reread τ'.working id :=
    h.1.2.ask_eq (reread · id) fun _ _ _ => rfl
  refine RunAlike.query_bind (.of_eq hreread) ?_
  rintro view _ ⟨rfl, -⟩
  refine RunAlike.bind (RunAlike.of_announce (Q := fun _ τ _ τ' => τ.Settled ctx user s τ') ?_) ?_
  · exact ⟨⟨congrArg (· ++ _) h.1.1, h.1.2⟩, h.2⟩
  · intro _ _ _ _ hsettled
    exact RunAlike.of_pure ⟨rfl, hsettled⟩

theorem create_onBehalf (hctx : Holds ctx.user) :
    RunAlike (Unheld user) (create ctx project draft) (.start s)
      (create (ctx.onBehalf user) project draft) (.start s) fun a τ b τ' =>
        a = b ∧ τ.Settled ctx user s τ' := by
  refine RunAlike.query_bind (.of_eq rfl) ?_
  rintro type _ ⟨rfl, -⟩
  refine RunAlike.query_bind (.of_eq rfl) fun _ _ _ => ?_
  refine RunAlike.lift_bind (.of_eq rfl) ?_
  rintro config _ ⟨rfl, -⟩
  refine RunAlike.query_bind (.of_eq rfl) fun _ _ _ => ?_
  refine RunAlike.query_bind (.of_eq rfl) ?_
  rintro id _ ⟨rfl, -⟩
  refine RunAlike.bind (P := fun _ τ _ τ' => τ.Settled ctx user s τ')
    (commitNaming_alike (fun _ => Unheld.ne_constraintViolated) ?_)
    fun _ _ _ _ hsettled => rereadAndAnnounce_onBehalf hsettled
  refine RunAlike.write_bind (.of_eq rfl) ?_
  rintro grown _ ⟨rfl, hinsert⟩
  obtain ⟨-, -, -, rfl⟩ := Store.insert_eq_ok hinsert
  exact (write_record_onBehalf hctx rfl).mono fun _ _ _ _ hparallel => ⟨hparallel, hparallel.2⟩

theorem writeChanges_onBehalf (hctx : Holds ctx.user) :
    RunAlike (Unheld user) (writeChanges ctx before after) (.start s)
      (writeChanges (ctx.onBehalf user) before after) (.start s) fun _ τ _ τ' =>
        τ.Parallel ctx user s τ' := by
  unfold writeChanges
  split
  · refine RunAlike.write_bind (.of_eq rfl) ?_
    rintro replaced _ ⟨rfl, hreplace⟩
    obtain ⟨-, -, rfl⟩ := Store.replace_eq_ok hreplace
    exact write_record_onBehalf hctx rfl
  · exact RunAlike.of_pure ⟨rfl, .refl⟩

theorem update_onBehalf (hctx : Holds ctx.user) :
    RunAlike (Unheld user) (update ctx project address patch) (.start s)
      (update (ctx.onBehalf user) project address patch) (.start s) fun a τ b τ' =>
        a = b ∧ τ.Settled ctx user s τ' := by
  refine RunAlike.query_bind (.of_eq rfl) ?_
  rintro before _ ⟨rfl, -⟩
  refine RunAlike.query_bind (.of_eq rfl) ?_
  rintro type _ ⟨rfl, -⟩
  refine RunAlike.query_bind (.of_eq rfl) fun _ _ _ => ?_
  refine RunAlike.lift_bind (.of_eq rfl) ?_
  rintro config _ ⟨rfl, -⟩
  refine RunAlike.bind (P := fun _ τ _ τ' => τ.Settled ctx user s τ')
    (commitNaming_alike (fun _ => Unheld.ne_constraintViolated) ?_)
    fun _ _ _ _ hsettled => rereadAndAnnounce_onBehalf hsettled
  exact (writeChanges_onBehalf hctx).mono fun _ _ _ _ hparallel => ⟨hparallel, hparallel.2⟩

theorem delete_onBehalf (hctx : Holds ctx.user) :
    RunAlike (Unheld user) (delete ctx project address) (.start s)
      (delete (ctx.onBehalf user) project address) (.start s) fun a τ b τ' =>
        a = b ∧ τ.Settled ctx user s τ' := by
  refine RunAlike.query_bind (.of_eq rfl) ?_
  rintro row _ ⟨rfl, -⟩
  refine RunAlike.query_bind (.of_eq rfl) ?_
  rintro shown _ ⟨rfl, -⟩
  refine RunAlike.write_bind (.of_eq rfl) ?_
  rintro bare _ ⟨rfl, hbare⟩
  cases hbare
  refine RunAlike.write_bind (.of_eq rfl) ?_
  rintro dropped _ ⟨rfl, hdropped⟩
  cases hdropped
  refine RunAlike.bind (write_record_onBehalf (s := s) hctx rfl) ?_
  rintro _ τ _ τ' ⟨hannounced, hworking⟩
  refine RunAlike.bind (RunAlike.of_commit (Q := fun _ τ _ τ' => τ.Settled ctx user s τ')
    ⟨⟨hannounced, hworking⟩, hworking⟩) ?_
  rintro _ τ _ τ' hsettled
  refine RunAlike.bind (RunAlike.of_announce (Q := fun _ τ _ τ' => τ.Settled ctx user s τ') ?_) ?_
  · exact ⟨⟨congrArg (· ++ _) hsettled.1.1, hsettled.1.2⟩, hsettled.2⟩
  · intro _ _ _ _ hsettled
    exact RunAlike.of_pure ⟨rfl, hsettled⟩

end Regulations

namespace Statuses

variable {project regulation : Int} {catalogId : Text} {r : Regulation} {v : Version}
variable {w : StatusWrite} {value : Option Text} {details : Document}

theorem write_onBehalf (hctx : Holds ctx.user) :
    RunAlike (Unheld user) (write ctx project r v w) (.start s)
      (write (ctx.onBehalf user) project r v w) (.start s) fun a τ b τ' =>
        a = b ∧ τ.Settled ctx user s τ' := by
  refine RunAlike.bind (P := fun _ τ _ τ' => τ.Settled ctx user s τ') ?_ ?_
  · refine RunAlike.query_bind (.of_eq rfl) ?_
    rintro before _ ⟨rfl, -⟩
    refine RunAlike.write_bind (.of_eq rfl) ?_
    rintro written _ ⟨rfl, hupsert⟩
    refine RunAlike.query_bind (.of_eq rfl) ?_
    rintro id _ ⟨rfl, -⟩
    refine RunAlike.bind (write_record_onBehalf hctx (audit_of_upsert hupsert)) ?_
    intro _ τ _ τ' hparallel
    exact RunAlike.of_commit ⟨hparallel, hparallel.2⟩
  · intro _ τ _ τ' hsettled
    have hget : get τ.working project r.id v.catalogId = get τ'.working project r.id v.catalogId :=
      hsettled.1.2.ask_eq (get · project r.id v.catalogId) fun _ _ _ => rfl
    refine RunAlike.of_query ((Alike.of_eq hget).mono ?_)
    rintro view _ ⟨rfl, -⟩
    exact ⟨rfl, hsettled⟩

theorem setValue_onBehalf (hctx : Holds ctx.user) :
    RunAlike (Unheld user) (setValue ctx project regulation catalogId value details) (.start s)
      (setValue (ctx.onBehalf user) project regulation catalogId value details) (.start s)
      fun a τ b τ' => a = b ∧ τ.Settled ctx user s τ' := by
  refine RunAlike.query_bind (.of_eq rfl) ?_
  rintro ⟨r, v⟩ _ ⟨rfl, -⟩
  exact write_onBehalf hctx

theorem setCompliance_onBehalf {compliant : Option Bool} (hctx : Holds ctx.user) :
    RunAlike (Unheld user) (setCompliance ctx project regulation catalogId compliant) (.start s)
      (setCompliance (ctx.onBehalf user) project regulation catalogId compliant) (.start s)
      fun a τ b τ' => a = b ∧ τ.Settled ctx user s τ' := by
  refine RunAlike.query_bind (.of_eq rfl) ?_
  rintro ⟨r, v⟩ _ ⟨rfl, -⟩
  exact write_onBehalf hctx

theorem report_onBehalf (hctx : Holds ctx.user) :
    RunAlike (Unheld user) (report ctx project regulation catalogId value details) (.start s)
      (report (ctx.onBehalf user) project regulation catalogId value details) (.start s)
      fun a τ b τ' => a = b ∧ τ.Settled ctx user s τ' := by
  refine RunAlike.query_bind (.of_eq rfl) ?_
  rintro ⟨r, v⟩ _ ⟨rfl, -⟩
  refine RunAlike.query_bind (.of_eq rfl) ?_
  rintro type _ ⟨rfl, -⟩
  refine RunAlike.lift_bind (.of_eq rfl) ?_
  rintro compliant _ ⟨rfl, -⟩
  exact write_onBehalf hctx

theorem delete_onBehalf (hctx : Holds ctx.user) :
    RunAlike (Unheld user) (delete ctx project regulation catalogId) (.start s)
      (delete (ctx.onBehalf user) project regulation catalogId) (.start s)
      fun a τ b τ' => a = b ∧ τ.Settled ctx user s τ' := by
  refine RunAlike.query_bind (.of_eq rfl) ?_
  rintro ⟨r, v⟩ _ ⟨rfl, -⟩
  refine RunAlike.query_bind (.of_eq rfl) ?_
  rintro found _ ⟨rfl, -⟩
  cases found with
  | none => exact RunAlike.of_fail
  | some st =>
    refine RunAlike.write_bind (.of_eq rfl) ?_
    rintro dropped _ ⟨rfl, hdrop⟩
    cases hdrop
    refine RunAlike.bind (write_record_onBehalf (s := s) hctx rfl) ?_
    intro _ τ _ τ' hparallel
    exact RunAlike.of_commit ⟨rfl, hparallel, hparallel.2⟩

end Statuses

namespace Catalog

theorem seed_onBehalf {recorded : Bool} (hctx : Holds ctx.user) :
    RunAlike (Unheld user) (seed recorded ctx) (.start s) (seed recorded (ctx.onBehalf user))
      (.start s) fun a τ b τ' => a = b ∧ τ.Settled ctx user s τ' := by
  refine RunAlike.query_bind (.of_eq rfl) ?_
  rintro before _ ⟨rfl, hbefore⟩
  obtain rfl : s = before := Except.ok.inj hbefore
  dsimp only
  split
  · refine RunAlike.write_bind (.of_eq rfl) ?_
    rintro grown _ ⟨rfl, hadd⟩
    have haudit : grown.audit = s.audit := by
      rw [eq_of_addTypes hadd]
      rfl
    refine RunAlike.bind (write_record_onBehalf hctx haudit) ?_
    intro _ τ _ τ' hparallel
    refine RunAlike.bind (RunAlike.of_commit (Q := fun _ τ _ τ' => τ.Settled ctx user s τ')
      ⟨hparallel, hparallel.2⟩) ?_
    intro _ τ _ τ' hsettled
    exact RunAlike.of_pure ⟨rfl, hsettled⟩
  · exact RunAlike.of_pure ⟨rfl, .refl rfl rfl⟩

end Catalog

/-- Two outcomes that differ at most in whom the new entries of the trail name. -/
structure Written.SameFor {α : Type} (ctx : Context) (user : Option Int) (s : Store)
    (mine theirs : Written α) : Prop where
  answer_eq : theirs.answer = mine.answer
  announcements_eq : theirs.announcements = mine.announcements
  attributed : Attributed ctx user s mine.store theirs.store

/-- The outcome is a failure that left no trace. -/
structure Written.Fails {α : Type} (s : Store) (failure : α) (o : Written α) : Prop where
  answer_eq : o.answer = failure
  store_eq : o.store = s
  announcements_eq : o.announcements = []

theorem Written.SameFor.map {α β : Type} {mine theirs : Written α} (f : α → β)
    (h : mine.SameFor ctx user s theirs) : (mine.map f).SameFor ctx user s (theirs.map f) :=
  ⟨congrArg f h.answer_eq, h.announcements_eq, h.attributed⟩

/-- For a user whom the trail cannot hold they do not differ at all. -/
theorem Written.SameFor.eq_of_not_holds {α : Type} {mine theirs : Written α}
    (h : mine.SameFor ctx user s theirs) (huser : ¬ Holds user) : theirs = mine := by
  have hanswer := h.answer_eq
  have hstore : theirs.store = mine.store := h.attributed.eq_of_not_holds huser
  have hannounced := h.announcements_eq
  cases mine
  cases theirs
  simp_all

theorem Written.Fails.map {α β : Type} {failure : α} {told : β} {o : Written α} {f : α → β}
    (h : o.Fails s failure) (hf : f failure = told) : (o.map f).Fails s told :=
  ⟨(congrArg f h.answer_eq).trans hf, h.store_eq, h.announcements_eq⟩

namespace Operation

variable {op : Operation}

/-- An operation for two users has the same answer, announces the same and leaves tables that differ
in whom the new entries of the trail name. -/
theorem run_onBehalf (hctx : Holds ctx.user) :
    RunAlike (Unheld user) (op.run ctx) (.start s) (op.run (ctx.onBehalf user)) (.start s)
      fun a τ b τ' => a = b ∧ τ.Settled ctx user s τ' := by
  have htold {α : Type} {w w' : Work α} (tell : α → Answer)
      (h : RunAlike (Unheld user) w (.start s) w' (.start s) fun a τ b τ' =>
        a = b ∧ τ.Settled ctx user s τ') :
      RunAlike (Unheld user) (tell <$> w) (.start s) (tell <$> w') (.start s) fun a τ b τ' =>
        a = b ∧ τ.Settled ctx user s τ' :=
    RunAlike.map (h.mono fun _ _ _ _ ⟨hab, hsettled⟩ => ⟨congrArg tell hab, hsettled⟩)
  cases op with
  | seedTypes => exact htold _ (Catalog.seed_onBehalf hctx)
  | createRegulation => exact htold _ (Regulations.create_onBehalf hctx)
  | updateRegulation => exact htold _ (Regulations.update_onBehalf hctx)
  | deleteRegulation => exact htold _ (Regulations.delete_onBehalf hctx)
  | setValue => exact htold _ (Statuses.setValue_onBehalf hctx)
  | setCompliance => exact htold _ (Statuses.setCompliance_onBehalf hctx)
  | report => exact htold _ (Statuses.report_onBehalf hctx)
  | deleteStatus => exact RunAlike.map ((Statuses.delete_onBehalf hctx).mono
      fun _ _ _ _ ⟨_, hsettled⟩ => ⟨rfl, hsettled⟩)
  | remark remark =>
    refine RunAlike.bind (P := fun _ τ _ τ' => τ.Parallel ctx user s τ') ?_ ?_
    · refine RunAlike.of_write (Alike.bind (.of_eq rfl) fun _ _ _ => ?_)
      cases remark.notes? with
      | none => exact .error
      | some notes => exact (record_onBehalf hctx rfl).mono fun _ _ h => ⟨rfl, h⟩
    · intro _ τ _ τ' hparallel
      refine RunAlike.bind (RunAlike.of_commit (Q := fun _ τ _ τ' => τ.Settled ctx user s τ')
        ⟨hparallel, hparallel.2⟩) ?_
      intro _ τ _ τ' hsettled
      exact RunAlike.of_pure ⟨rfl, hsettled⟩
  -- all others only ask, and whom they ask for is nothing that they ask
  | _ =>
    refine htold _ (RunAlike.of_query ((Alike.of_eq rfl).mono ?_))
    rintro a _ ⟨rfl, -⟩
    exact ⟨rfl, .refl rfl rfl⟩

/-- In sessions of their own the two come to the same, except for whom the new entries name; or the
trail cannot hold the other user, and for that one the operation fails and leaves no trace. -/
theorem perform_onBehalf (hs : s.Consistent) (hctx : Holds ctx.user) :
    ((op.run ctx).perform s).SameFor ctx user s ((op.run (ctx.onBehalf user)).perform s) ∨
      ¬ Holds user ∧
        ((op.run (ctx.onBehalf user)).perform s).Fails s (.error .integerBeyondStorage) := by
  set mine := (op.run ctx).perform s with hmine
  set theirs := (op.run (ctx.onBehalf user)).perform s with htheirs
  have halike : Alike (Unheld user) _ mine.answer theirs.answer :=
    (run_onBehalf hctx).perform
  rw [← hmine, ← htheirs] at halike
  have hfail {f : Fault} (h : theirs.answer = .error f) : theirs.Fails s (.error f) :=
    let ⟨hstore, hannounced⟩ := (run_leads hs op).perform_error h
    ⟨h, hstore, hannounced⟩
  generalize hx : mine.answer = x at halike
  generalize hy : theirs.answer = y at halike
  cases halike with
  | ok h =>
    obtain ⟨τ, τ', ⟨rfl, ⟨hannounced, -⟩, hcommitted⟩, hstore, hnews, hstore', hnews'⟩ := h
    exact .inl ⟨hy.trans hx.symm, hnews'.trans (hannounced.trans hnews.symm),
      hstore ▸ hstore' ▸ hcommitted⟩
  | error =>
    -- a fault leaves both stores as they were
    obtain ⟨hstore, hannounced⟩ := (run_leads hs op).perform_error hx
    have htheirs := hfail hy
    refine .inl ⟨hy.trans hx.symm, htheirs.announcements_eq.trans hannounced.symm, ?_⟩
    rw [htheirs.store_eq, hmine, hstore]
    exact .refl
  | broken h =>
    obtain ⟨rfl, huser⟩ := h
    exact .inr ⟨huser, hfail hy⟩

end Operation

/-! ### Requests of two users -/

/-- A caller who can be recorded: it can be read, and the trail can hold its number. -/
def Caller.IsRecordable (c : Caller) : Prop := c ≠ .unreadable ∧ Holds c.id?

instance : DecidablePred Caller.IsRecordable := fun _ => inferInstanceAs (Decidable (_ ∧ _))

/-- The arrival with this value in the header for the user, or without that header. -/
def Arrival.identified (a : Arrival) (value : Option Text) : Arrival :=
  { a with request := a.request.identified value }

namespace Server

variable {settings : Settings} {outage : Option Text} {r : Request}

/-- What requests of two users are answered by their target. -/
theorem answerTo_onBehalf (hs : s.Consistent) (hctx : Holds ctx.user) :
    (answerTo settings outage ctx s r).SameFor ctx user s
        (answerTo settings outage (ctx.onBehalf user) s r) ∨
      ¬ Holds user ∧ (answerTo settings outage (ctx.onBehalf user) s r).Fails s none := by
  unfold answerTo
  split
  · exact .inl ⟨rfl, rfl, .refl⟩
  · split
    · next demand _ =>
      cases demand with
      | health | page => exact .inl ⟨rfl, rfl, .refl⟩
      | operation op =>
        unfold fulfil
        rcases Operation.perform_onBehalf hs hctx with hsame | ⟨huser, hfails⟩
        · exact .inl (hsame.map _)
        · -- the fault has no message, so that there is no response to tell of it
          exact .inr ⟨huser, hfails.map rfl⟩
    · exact .inl ⟨rfl, rfl, .refl⟩

end Server

namespace World

variable {settings : Settings} {w : World} {a : Arrival} {arrivals : List Arrival}
variable {value value' : Option Text}

/-- The context in which a request is answered for a caller. -/
def contextFor (a : Arrival) (c : Caller) : Context :=
  { a.context with user := c.id?, address := a.request.client }

/-- Two values of the header have outcomes that differ at most in whom the new entries name, if both
callers can be recorded. If the second cannot, its request comes to the same or fails and leaves no
trace. -/
theorem outcome_identified (settings : Settings) (a : Arrival) (value' : Option Text)
    (hs : s.Consistent) (hvalue : (Caller.ofHeader value).IsRecordable) :
    ((Caller.ofHeader value').IsRecordable →
      ((a.identified value).outcome settings s).SameFor (contextFor a (.ofHeader value))
        (Caller.ofHeader value').id? s ((a.identified value').outcome settings s)) ∧
    (¬ (Caller.ofHeader value').IsRecordable →
      (a.identified value').outcome settings s = (a.identified value).outcome settings s ∨
        ((a.identified value').outcome settings s).Fails s Response.failure.labelled) := by
  unfold Arrival.outcome Arrival.identified
  rw [Server.handle_identified, Server.handle_identified]
  split
  · exact ⟨fun _ => ⟨rfl, rfl, .refl⟩, fun _ => .inl rfl⟩
  · by_cases hreadable : Caller.ofHeader value' = .unreadable
    · rw [Server.respond_identified_of_unreadable hreadable]
      exact ⟨fun h => absurd hreadable h.1, fun _ => .inr ⟨rfl, rfl, rfl⟩⟩
    · rw [Server.respond_identified hvalue.1, Server.respond_identified hreadable]
      have hctx : Holds (contextFor a (.ofHeader value)).user := hvalue.2
      rcases Server.answerTo_onBehalf hs hctx with hsame | ⟨huser, hfails⟩
      · refine ⟨fun _ => hsame.map _, fun hnot => .inl ?_⟩
        have huser : ¬ Holds (Caller.ofHeader value').id? := fun h => hnot ⟨hreadable, h⟩
        exact congrArg _ (hsame.eq_of_not_holds huser)
      · exact ⟨fun h => absurd h.2 huser, fun _ => .inr (hfails.map rfl)⟩

/-- A request in a reachable state, with two values of the header for its user, of which the first
names a caller who can be recorded. The new entries of the trail name the number that it writes in
decimal digits, or nobody. If the second names such a caller too, the response and what is announced
are the same, and so are the tables but for the number in the new entries. If it does not, then
either nothing is different at all, or the request fails and leaves no trace. -/
theorem user_has_no_influence (h : w.store.Initial)
    (hvalue : (Caller.ofHeader value).IsRecordable) :
    let s := (w.serve settings arrivals).store
    let mine := (a.identified value).outcome settings s
    let theirs := (a.identified value').outcome settings s
    (∀ e ∈ mine.store.audit, e ∉ s.audit →
      e.userId = (value.bind Text.decimal?).map Int.ofNat) ∧
    ((Caller.ofHeader value').IsRecordable →
      theirs.answer = mine.answer ∧ theirs.announcements = mine.announcements ∧
        theirs.store =
          mine.store.attributed s.audit ((value'.bind Text.decimal?).map Int.ofNat)) ∧
    (¬ (Caller.ofHeader value').IsRecordable →
      theirs = mine ∨ theirs.answer.status = 500 ∧ theirs.store = s ∧
        theirs.announcements = []) := by
  intro s mine theirs
  have hs : s.Consistent := (kept_serve h).toConsistent
  have halike (other : Option Text) := outcome_identified settings a other hs hvalue
  refine ⟨?_, ?_, ?_⟩
  · intro e he hnew
    -- compared with itself the request tells whom it names
    rw [((halike value).1 hvalue).attributed.userId_eq he hnew]
    exact Caller.id?_ofHeader hvalue.1
  · intro hvalue'
    have hsame := (halike value').1 hvalue'
    refine ⟨hsame.answer_eq, hsame.announcements_eq, ?_⟩
    rw [← Caller.id?_ofHeader hvalue'.1]
    exact hsame.attributed.eq_attributed
  · intro hvalue'
    rcases (halike value').2 hvalue' with hsame | hfails
    · exact .inl hsame
    · refine .inr ⟨?_, hfails.store_eq, hfails.announcements_eq⟩
      rw [hfails.answer_eq]
      rfl

/-- A creation by user 7, with leading zeros, and one by nobody. -/
theorem user_has_no_influence_on_creation :
    let mine := (Arrival.creation.identified (some "007")).outcome (.ofDatabase "sqlite") .sample
    let theirs := (Arrival.creation.identified none).outcome (.ofDatabase "sqlite") .sample
    sample.store.Initial ∧ (Caller.ofHeader (some "007")).IsRecordable ∧
      (Caller.ofHeader none).IsRecordable ∧ mine.store.audit.map (·.userId) = [some 7] ∧
      theirs.answer = mine.answer ∧ theirs.store = mine.store.attributed [] none := by
  have hmine : (Caller.ofHeader (some "007")).IsRecordable := by decide
  have htheirs : (Caller.ofHeader none).IsRecordable := by decide
  have halike := @user_has_no_influence (.ofDatabase "sqlite") sample .creation [] (some "007") none
    Store.initial_sample hmine
  obtain ⟨hanswer, -, hstore⟩ := halike.2.1 htheirs
  exact ⟨Store.initial_sample, hmine, htheirs, by decide +kernel, hanswer, hstore⟩

/-- A raised two passes for a digit and is then no number that can be read: the creation fails. -/
theorem raised_digit_fails_creation :
    ¬ ∀ value value' : Option Text,
      ((Arrival.creation.identified value).outcome (.ofDatabase "sqlite") .sample).answer =
        ((Arrival.creation.identified value').outcome (.ofDatabase "sqlite") .sample).answer := by
  intro h
  have hsame := h none (some "²")
  revert hsame
  decide +kernel

end World

end ComplianceRegistry
