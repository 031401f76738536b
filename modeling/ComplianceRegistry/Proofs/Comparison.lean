import ComplianceRegistry.Proofs.Encoding
import ComplianceRegistry.Proofs.Regulations

/-!
# Two runs of work

Work may be done twice, in different sessions or in different contexts, and what comes of it is
compared. Both end in the same fault, or both have results that are related as told. Where the
second may fail in ways of its own, these faults are named.

## Main definitions

* `Alike` — two results are related, or they are the same fault
* `Work.RunAlike` — the results and the sessions of two runs are related in this way

## Main results

* `Work.RunAlike.bind` — what follows starts from what is related
* `Work.RunAlike.perform` — two runs in sessions of their own
* `Work.RunAlike.and_leads` — what each run leads to is known of both
* `Regulations.commitNaming_alike` — two commits under a name
-/

namespace ComplianceRegistry

variable {α β γ δ : Type} {E : Fault → Prop} {R : α → β → Prop}

/-- Two results are related, or they are the same fault. Instead the second may be one of some other
faults. -/
inductive Alike (E : Fault → Prop) (R : α → β → Prop) : Except Fault α → Except Fault β → Prop
  | ok {a : α} {b : β} (h : R a b) : Alike E R (.ok a) (.ok b)
  | error {f : Fault} : Alike E R (.error f) (.error f)
  | broken {x : Except Fault α} {f : Fault} (h : E f) : Alike E R x (.error f)

namespace Alike

variable {x : Except Fault α} {y : Except Fault β} {R' : α → β → Prop} {S : γ → δ → Prop}

/-- What is equal is alike, with one result. -/
theorem of_eq {x y : Except Fault α} (h : x = y) : Alike E (fun a b => a = b ∧ x = .ok a) x y := by
  subst h
  cases x with
  | ok a => exact .ok ⟨rfl, rfl⟩
  | error f => exact .error

theorem mono (h : Alike E R x y) (hR : ∀ a b, R a b → R' a b) : Alike E R' x y := by
  cases h with
  | ok h => exact .ok (hR _ _ h)
  | error => exact .error
  | broken h => exact .broken h

theorem bind {f : α → Except Fault γ} {g : β → Except Fault δ} (h : Alike E R x y)
    (hnext : ∀ a b, R a b → Alike E S (f a) (g b)) : Alike E S (x >>= f) (y >>= g) := by
  cases h with
  | ok h => exact hnext _ _ h
  | error => exact .error
  | broken h => exact .broken h

/-- What is related is what was obtained. -/
theorem results (h : Alike E R x y) : Alike E (fun a b => R a b ∧ x = .ok a ∧ y = .ok b) x y := by
  cases h with
  | ok h => exact .ok ⟨h, rfl, rfl⟩
  | error => exact .error
  | broken h => exact .broken h

/-- Where the second has no faults of its own, results with one meaning are equal. -/
theorem eq {x y : Except Fault α} (h : Alike (fun _ => False) Eq x y) : x = y := by
  cases h with
  | ok h => exact congrArg _ h
  | error => rfl
  | broken h => exact h.elim

end Alike

namespace Work

variable {w : Work α} {w' : Work β} {next : α → Work γ} {next' : β → Work δ} {σ σ' : Session}
variable {P Q : α → Session → β → Session → Prop} {Q' : γ → Session → δ → Session → Prop}

/-- The results and the sessions of two runs are related, or both end in the same fault. Instead
the second run may end in one of some other faults. -/
def RunAlike (E : Fault → Prop) (w : Work α) (σ : Session) (w' : Work β) (σ' : Session)
    (Q : α → Session → β → Session → Prop) : Prop :=
  Alike E (fun a b => Q a (w σ).2 b (w' σ').2) (w σ).1 (w' σ').1

namespace RunAlike

/-! ### The parts of work -/

theorem of_pure {a : α} {b : β} (h : Q a σ b σ') :
    RunAlike E (pure a : Work α) σ (pure b : Work β) σ' Q :=
  Alike.ok h

theorem of_fail {f : Fault} : RunAlike E (fail f : Work α) σ (fail f : Work β) σ' Q :=
  Alike.error

theorem of_lift {x : Except Fault α} {y : Except Fault β}
    (h : Alike E (fun a b => Q a σ b σ') x y) :
    RunAlike E (liftM x : Work α) σ (liftM y : Work β) σ' Q := h

theorem of_query {ask : Store → Except Fault α} {ask' : Store → Except Fault β}
    (h : Alike E (fun a b => Q a σ b σ') (ask σ.working) (ask' σ'.working)) :
    RunAlike E (query ask) σ (query ask') σ' Q := h

theorem of_write {statement statement' : Store → Except Fault Store}
    {Q : Unit → Session → Unit → Session → Prop}
    (h : Alike E (fun s t => Q () { σ with working := s } () { σ' with working := t })
      (statement σ.working) (statement' σ'.working)) :
    RunAlike E (write statement) σ (write statement') σ' Q := by
  unfold RunAlike write
  cases hs : statement σ.working <;> cases ht : statement' σ'.working <;> rw [hs, ht] at h <;>
    cases h
  case ok.ok.ok h => exact .ok h
  case error.error.error => exact .error
  all_goals exact .broken ‹_›

theorem of_commit {Q : Unit → Session → Unit → Session → Prop}
    (h : Q () { σ with committed := σ.working } () { σ' with committed := σ'.working }) :
    RunAlike E commit σ commit σ' Q :=
  Alike.ok h

theorem of_announce {Q : Unit → Session → Unit → Session → Prop} {a b : Announcement}
    (h : Q () { σ with announced := σ.announced ++ [a] } ()
      { σ' with announced := σ'.announced ++ [b] }) :
    RunAlike E (announce a) σ (announce b) σ' Q :=
  Alike.ok h

/-! ### One after the other -/

theorem mono (h : RunAlike E w σ w' σ' P) (hPQ : ∀ a τ b τ', P a τ b τ' → Q a τ b τ') :
    RunAlike E w σ w' σ' Q :=
  Alike.mono h fun _ _ => hPQ _ _ _ _

/-- Parts that follow one another are compared one after the other. -/
theorem bind (h : RunAlike E w σ w' σ' P)
    (hnext : ∀ a τ b τ', P a τ b τ' → RunAlike E (next a) τ (next' b) τ' Q') :
    RunAlike E (w >>= next) σ (w' >>= next') σ' Q' := by
  unfold RunAlike at h
  -- the runs of the first parts are named, so that their results can be told apart
  obtain ⟨x, τ, hw⟩ : ∃ x τ, w σ = (x, τ) := ⟨_, _, rfl⟩
  obtain ⟨y, τ', hw'⟩ : ∃ y τ', w' σ' = (y, τ') := ⟨_, _, rfl⟩
  rw [hw, hw'] at h
  unfold RunAlike
  cases h with
  | @ok a b h =>
    rw [bind_apply_ok hw, bind_apply_ok hw']
    exact hnext a τ b τ' h
  | error =>
    rw [bind_apply_error hw, bind_apply_error hw']
    exact .error
  | broken h =>
    rw [bind_apply_error hw']
    exact .broken h

theorem query_bind {ask : Store → Except Fault α} {ask' : Store → Except Fault β}
    (h : Alike E R (ask σ.working) (ask' σ'.working))
    (hnext : ∀ a b, R a b → RunAlike E (next a) σ (next' b) σ' Q') :
    RunAlike E (query ask >>= next) σ (query ask' >>= next') σ' Q' := by
  refine bind (P := fun a τ b τ' => R a b ∧ τ = σ ∧ τ' = σ') ?_ ?_
  · exact of_query (h.mono fun a b hab => ⟨hab, rfl, rfl⟩)
  · rintro a _ b _ ⟨hab, rfl, rfl⟩
    exact hnext a b hab

theorem lift_bind {x : Except Fault α} {y : Except Fault β} (h : Alike E R x y)
    (hnext : ∀ a b, R a b → RunAlike E (next a) σ (next' b) σ' Q') :
    RunAlike E ((liftM x : Work α) >>= next) σ ((liftM y : Work β) >>= next') σ' Q' := by
  refine bind (P := fun a τ b τ' => R a b ∧ τ = σ ∧ τ' = σ') ?_ ?_
  · exact of_lift (h.mono fun a b hab => ⟨hab, rfl, rfl⟩)
  · rintro a _ b _ ⟨hab, rfl, rfl⟩
    exact hnext a b hab

theorem write_bind {statement statement' : Store → Except Fault Store} {S : Store → Store → Prop}
    {next : Unit → Work γ} {next' : Unit → Work δ}
    (h : Alike E S (statement σ.working) (statement' σ'.working))
    (hnext : ∀ s t, S s t →
      RunAlike E (next ()) { σ with working := s } (next' ()) { σ' with working := t } Q') :
    RunAlike E (write statement >>= next) σ (write statement' >>= next') σ' Q' := by
  refine bind (P := fun _ τ _ τ' => ∃ s t, S s t ∧ τ = { σ with working := s } ∧
    τ' = { σ' with working := t }) ?_ ?_
  · exact of_write (h.mono fun s t hst => ⟨s, t, hst, rfl, rfl⟩)
  · rintro _ _ _ _ ⟨s, t, hst, rfl, rfl⟩
    exact hnext s t hst

theorem map {g : α → γ} {g' : β → δ}
    (h : RunAlike E w σ w' σ' fun a τ b τ' => Q' (g a) τ (g' b) τ') :
    RunAlike E (g <$> w) σ (g' <$> w') σ' Q' :=
  bind h fun _ _ _ _ hQ => of_pure hQ

/-- Faults that are answered by other work, which ends in faults again. -/
theorem rescue {other : Fault → Work α} {other' : Fault → Work β} (h : RunAlike E w σ w' σ' Q)
    (hother : ∀ f τ τ', RunAlike E (other f) τ (other' f) τ' Q)
    (hbroken : ∀ f τ', E f → ∃ g, (other' f τ').1 = .error g ∧ E g) :
    RunAlike E (w.rescue other) σ (w'.rescue other') σ' Q := by
  unfold RunAlike at h
  obtain ⟨x, τ, hw⟩ : ∃ x τ, w σ = (x, τ) := ⟨_, _, rfl⟩
  obtain ⟨y, τ', hw'⟩ : ∃ y τ', w' σ' = (y, τ') := ⟨_, _, rfl⟩
  rw [hw, hw'] at h
  unfold RunAlike Work.rescue
  rw [hw, hw']
  cases h with
  | ok h => exact .ok h
  | error => exact hother _ τ τ'
  | broken h =>
    obtain ⟨g, hg, hE⟩ := hbroken _ τ' h
    dsimp only
    rw [hg]
    exact .broken hE

/-- Two runs in sessions of their own. -/
theorem perform {s t : Store} (h : RunAlike E w (.start s) w' (.start t) Q) :
    Alike E (fun a b => ∃ τ τ', Q a τ b τ' ∧
        (w.perform s).store = τ.committed ∧ (w.perform s).announcements = τ.announced ∧
        (w'.perform t).store = τ'.committed ∧ (w'.perform t).announcements = τ'.announced)
      (w.perform s).answer (w'.perform t).answer :=
  Alike.mono h fun _ _ hQ => ⟨_, _, hQ, rfl, rfl, rfl, rfl⟩

/-! ### What is known of each run -/

/-- Two runs that do not fail end as each of them does. -/
theorem of_yields {P : α → Session → Prop} {P' : β → Session → Prop} (h : w.Yields σ P)
    (h' : w'.Yields σ' P') : RunAlike E w σ w' σ' fun a τ b τ' => P a τ ∧ P' b τ' := by
  obtain ⟨a, τ, hw, ha⟩ := h
  obtain ⟨b, τ', hw', hb⟩ := h'
  unfold RunAlike
  rw [hw, hw']
  exact .ok ⟨ha, hb⟩

/-- What each of two runs leads to is also known of both. -/
theorem and_leads {P : α → Session → Prop} {P' : β → Session → Prop} (h : RunAlike E w σ w' σ' Q)
    (hw : w.Leads σ P) (hw' : w'.Leads σ' P') :
    RunAlike E w σ w' σ' fun a τ b τ' => Q a τ b τ' ∧ P a τ ∧ P' b τ' := by
  unfold RunAlike at h ⊢
  unfold Leads at hw hw'
  obtain ⟨x, τ, hx⟩ : ∃ x τ, w σ = (x, τ) := ⟨_, _, rfl⟩
  obtain ⟨y, τ', hy⟩ : ∃ y τ', w' σ' = (y, τ') := ⟨_, _, rfl⟩
  rw [hx] at hw h ⊢
  rw [hy] at hw' h ⊢
  cases h with
  | ok h => exact .ok ⟨h, hw, hw'⟩
  | error => exact .error
  | broken h => exact .broken h

end RunAlike

end Work

/-! ### Rows and entries of the trail -/

/-- Rows whose columns pass and fail alike are alike. -/
theorem Row.check_congr {r r' : Row}
    (h : r.columns.map (fun c => c.2.check) = r'.columns.map fun c => c.2.check) :
    r.check = r'.check := by
  have hall (columns columns' : List (Text × Cell))
      (h : columns.map (fun c => c.2.check) = columns'.map fun c => c.2.check) :
      (columns.forM fun c => c.2.check) = columns'.forM fun c => c.2.check := by
    induction columns generalizing columns' with
    | nil =>
      rw [List.map_nil, eq_comm, List.map_eq_nil_iff] at h
      rw [h]
    | cons c columns ih =>
      obtain ⟨c', rest, rfl, hc, hrest⟩ := List.map_eq_cons_iff.1 h.symm
      change (c.2.check >>= fun _ => columns.forM fun c => c.2.check) =
        (c'.2.check >>= fun _ => rest.forM fun c => c.2.check)
      rw [hc, ih rest hrest.symm]
  exact hall _ _ h

/-- Entries that differ in their own id, in their user and in the id of their row are alike when
these numbers are. -/
theorem AuditEntry.check_congr {e e' : AuditEntry} (hid : checkInteger e.id = checkInteger e'.id)
    (huser : (Cell.ofInteger? e.userId).check = (Cell.ofInteger? e'.userId).check)
    (hentity : checkInteger e.entityId = checkInteger e'.entityId)
    (hrest : e' = { e with id := e'.id, userId := e'.userId, entityId := e'.entityId }) :
    (Row.audit e).check = (Row.audit e').check := by
  have hid : (Cell.integer e.id).check = (Cell.integer e'.id).check := hid
  have hentity : (Cell.integer e.entityId).check = (Cell.integer e'.entityId).check := hentity
  refine Row.check_congr ?_
  rw [hrest]
  simp only [Row.columns, columns, List.map_cons, hid, huser, hentity]

namespace Trail

variable {ctx ctx' : Context} {s t : Store} {notes notes' : List Note}

/-- Two records are alike when their entries are. -/
theorem record_alike {E : Fault → Prop} {P : Prop} (h : Alike E (fun _ _ => P)
      (checkEntries (entriesFrom ctx (nextId (s.audit.map (·.id))) notes))
      (checkEntries (entriesFrom ctx' (nextId (t.audit.map (·.id))) notes'))) :
    Alike E (fun a b => P ∧ a = logged ctx notes s ∧ b = logged ctx' notes' t)
      (record ctx s notes) (record ctx' t notes') := by
  rw [record_eq, record_eq]
  exact h.bind fun _ _ hP => .ok ⟨hP, rfl, rfl⟩

end Trail

/-! ### Commits under a name -/

open Work in
/-- Two commits under a name are alike when what they write is. A violated constraint is told as a
clash in both. -/
theorem Regulations.commitNaming_alike {name : Text} {project : Int} {writing writing' : Work Unit}
    {σ σ' : Session} {Q : Unit → Session → Unit → Session → Prop}
    (hE : ∀ f, E f → f ≠ .constraintViolated)
    (h : RunAlike E writing σ writing' σ' fun _ τ _ τ' =>
      Q () { τ with committed := τ.working } () { τ' with committed := τ'.working }) :
    RunAlike E (commitNaming name project writing) σ (commitNaming name project writing') σ' Q := by
  refine RunAlike.rescue (RunAlike.bind h fun _ _ _ _ hQ => RunAlike.of_commit hQ) ?_ ?_
  · intro f τ τ'
    cases f with
    | constraintViolated => exact .error
    | _ => exact .error
  · intro f τ' hf
    have hne := hE f hf
    cases f with
    | constraintViolated => exact absurd rfl hne
    | _ => exact ⟨_, rfl, hf⟩

end ComplianceRegistry
