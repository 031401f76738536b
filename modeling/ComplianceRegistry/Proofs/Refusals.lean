import ComplianceRegistry.Proofs.Operations

/-!
# How work is refused

Beside what work leads to stands in which faults it may end. A check that fails says what was wrong
with what it was given, and work ends in the faults of its parts.

## Main definitions

* `Work.Refuses` — the faults in which work may end
* `Work.EndsIn` — the work ends in a fault
* `Fault.IsUnstorable` — an integer or a text cannot be stored

## Main results

* `Work.Refuses.bind_leads` — what follows work is only met where the work leads
* `Work.query_bind_endsIn`, `Work.bind_endsIn_of_leads` — the fault of work is that of a part
* `Store.insert_eq_error`, `Store.replace_eq_error`, `Trail.record_eq_error` — why a write fails
* `Config.settle_of_grammatical` — a config with the grammar of its type is never refused
-/

namespace ComplianceRegistry

/-! ### Work that ends in faults -/

namespace Work

variable {α β : Type} {w : Work α} {next : α → Work β} {σ : Session} {E E' : Fault → Prop}
variable {P : α → Session → Prop}

/-- From the session the work ends in one of these faults, if in any. -/
def Refuses (w : Work α) (σ : Session) (E : Fault → Prop) : Prop :=
  ∀ f τ, w σ = (.error f, τ) → E f

namespace Refuses

theorem of_yields (h : w.Yields σ P) : w.Refuses σ E := by
  obtain ⟨a, τ, hw, -⟩ := h
  intro f ρ hf
  simp [hw] at hf

theorem of_pure {a : α} : (pure a : Work α).Refuses σ E := by
  intro f τ h
  simp at h

theorem of_fail {f : Fault} (h : E f) : (fail f : Work α).Refuses σ E := by
  intro g τ hg
  cases hg
  exact h

theorem of_commit : commit.Refuses σ E := by
  intro f τ h
  simp [commit] at h

theorem of_announce {a : Announcement} : (announce a).Refuses σ E := by
  intro f τ h
  simp [announce] at h

theorem of_rollback : rollback.Refuses σ E := by
  intro f τ h
  simp [rollback] at h

theorem of_lift {e : Except Fault α} (h : ∀ f, e = .error f → E f) :
    (liftM e : Work α).Refuses σ E := by
  intro f τ hf
  cases hf
  exact h f rfl

theorem of_query {ask : Store → Except Fault α} (h : ∀ f, ask σ.working = .error f → E f) :
    (query ask).Refuses σ E := by
  intro f τ hf
  exact h f (Prod.mk.inj hf).1

theorem of_write {statement : Store → Except Fault Store}
    (h : ∀ f, statement σ.working = .error f → E f) : (write statement).Refuses σ E := by
  intro f τ hf
  unfold write at hf
  split at hf
  · simp at hf
  · next g hg =>
    cases hf
    exact h f hg

theorem bind (h : w.Refuses σ E) (hnext : ∀ a τ, w σ = (.ok a, τ) → (next a).Refuses τ E) :
    (w >>= next).Refuses σ E := by
  intro f ρ hf
  -- the fault is one of the first part, or of what follows where that part ended
  match hw : w σ with
  | (.ok a, τ) =>
    rw [bind_apply_ok hw] at hf
    exact hnext a τ hw f ρ hf
  | (.error g, τ) =>
    rw [bind_apply_error hw] at hf
    cases hf
    exact h f ρ hw

/-- What follows work that leads somewhere starts from there. -/
theorem bind_leads (h : w.Refuses σ E) (hleads : w.Leads σ P)
    (hnext : ∀ a τ, P a τ → (next a).Refuses τ E) : (w >>= next).Refuses σ E := by
  refine h.bind fun a τ hw => hnext a τ ?_
  simpa [Leads, hw] using hleads

theorem query_bind {ask : Store → Except Fault α} (h : ∀ f, ask σ.working = .error f → E f)
    (hnext : ∀ a, ask σ.working = .ok a → (next a).Refuses σ E) :
    (query ask >>= next).Refuses σ E := by
  refine (of_query h).bind fun a τ hw => ?_
  obtain ⟨ha, rfl⟩ := Prod.mk.inj hw
  exact hnext a ha

theorem lift_bind {e : Except Fault α} (h : ∀ f, e = .error f → E f)
    (hnext : ∀ a, e = .ok a → (next a).Refuses σ E) :
    ((liftM e : Work α) >>= next).Refuses σ E := by
  refine (of_lift h).bind fun a τ hw => ?_
  obtain ⟨ha, rfl⟩ := Prod.mk.inj hw
  exact hnext a ha

theorem write_bind {statement : Store → Except Fault Store} {next : Unit → Work β}
    (h : ∀ f, statement σ.working = .error f → E f)
    (hnext : ∀ s, statement σ.working = .ok s →
      (next ()).Refuses { σ with working := s } E) :
    (write statement >>= next).Refuses σ E := by
  refine (of_write h).bind fun _ τ hw => ?_
  unfold write at hw
  split at hw
  · next s hs =>
    cases hw
    exact hnext s hs
  · simp at hw

theorem map {g : α → β} (h : w.Refuses σ E) : (g <$> w).Refuses σ E :=
  bind h fun _ _ _ => of_pure

theorem mono (h : w.Refuses σ E) (hE : ∀ f, E f → E' f) : w.Refuses σ E' :=
  fun f τ hf => hE f (h f τ hf)

/-- A fault that is answered by another one ends in that. -/
theorem rescue {other : Fault → Work α} (h : w.Refuses σ E')
    (hother : ∀ f τ, E' f → (other f).Refuses τ E) : (w.rescue other).Refuses σ E := by
  intro f ρ hf
  unfold Work.rescue at hf
  split at hf
  · simp at hf
  · next g τ hw => exact hother g τ (h g τ hw) f ρ hf

theorem perform {s : Store} {f : Fault} (h : w.Refuses (.start s) E)
    (hf : (w.perform s).answer = .error f) : E f :=
  h f (w (.start s)).2 (Prod.ext hf rfl)

end Refuses

/-! ### The fault in which work ends -/

variable {f : Fault}

/-- From the session the work ends in the fault. -/
def EndsIn (w : Work α) (σ : Session) (f : Fault) : Prop := (w σ).1 = .error f

theorem not_endsIn_of_refuses (h : w.Refuses σ (· ≠ f)) : ¬ w.EndsIn σ f :=
  fun hends => h f (w σ).2 (Prod.ext hends rfl) rfl

/-- Work ends in the faults of its first part and in those of what follows. -/
theorem bind_endsIn : (w >>= next).EndsIn σ f ↔
    w.EndsIn σ f ∨ ∃ a τ, w σ = (.ok a, τ) ∧ (next a).EndsIn τ f := by
  unfold EndsIn
  match hw : w σ with
  | (.ok a, τ) => simp [bind_apply_ok hw]
  | (.error g, τ) => simp [bind_apply_error hw]

theorem map_endsIn {g : α → β} : (g <$> w).EndsIn σ f ↔ w.EndsIn σ f :=
  bind_endsIn.trans (or_iff_left fun ⟨_, _, _, h⟩ => nomatch h)

theorem query_bind_endsIn {ask : Store → Except Fault α} : (query ask >>= next).EndsIn σ f ↔
    ask σ.working = .error f ∨ ∃ a, ask σ.working = .ok a ∧ (next a).EndsIn σ f := by
  rw [bind_endsIn]
  simp [EndsIn, query]

theorem write_endsIn {statement : Store → Except Fault Store} :
    (write statement).EndsIn σ f ↔ statement σ.working = .error f := by
  unfold EndsIn write
  cases statement σ.working <;> simp

theorem write_bind_endsIn {statement : Store → Except Fault Store} {next : Unit → Work β} :
    (write statement >>= next).EndsIn σ f ↔ statement σ.working = .error f ∨
      ∃ s, statement σ.working = .ok s ∧ (next ()).EndsIn { σ with working := s } f := by
  rw [bind_endsIn, write_endsIn]
  unfold write
  cases statement σ.working <;> simp [Unique.exists_iff]

theorem lift_bind_endsIn {e : Except Fault α} : ((liftM e : Work α) >>= next).EndsIn σ f ↔
    e = .error f ∨ ∃ a, e = .ok a ∧ (next a).EndsIn σ f := by
  have hlift : (liftM e : Work α) σ = (e, σ) := rfl
  rw [bind_endsIn]
  simp [EndsIn, hlift]

/-- Where what follows does not fail, work ends in the faults of its first part. -/
theorem bind_endsIn_of_leads {P : α → Session → Prop} {R : α → β → Session → Prop}
    (h : w.Leads σ P) (hnext : ∀ a τ, P a τ → (next a).Yields τ (R a)) :
    (w >>= next).EndsIn σ f ↔ w.EndsIn σ f := by
  refine bind_endsIn.trans (or_iff_left ?_)
  rintro ⟨a, τ, hw, hends⟩
  obtain ⟨b, ρ, hb, -⟩ := hnext a τ (by simpa [Leads, hw] using h)
  simp [EndsIn, hb] at hends

end Work

/-! ### Checks that fail -/

/-- The faults of integers and texts that cannot be stored. -/
inductive Fault.IsUnstorable : Fault → Prop
  | integer : IsUnstorable .integerBeyondStorage
  | text : IsUnstorable .textNotEncodable

variable {s after : Store} {project id : Int} {address : Address} {f : Fault}

/-- Checks that follow one another fail in the first or in what follows. -/
theorem bind_eq_error_iff {α β : Type} {x : Except Fault α} {next : α → Except Fault β} :
    x >>= next = .error f ↔ x = .error f ∨ ∃ a, x = .ok a ∧ next a = .error f := by
  cases x <;> simp [bind, Except.bind]

theorem bind_eq_error {α β : Type} {x : Except Fault α} {next : α → Except Fault β}
    (h : x >>= next = .error f) : x = .error f ∨ ∃ a, x = .ok a ∧ next a = .error f :=
  bind_eq_error_iff.1 h

/-- What is checked one after another fails at one of the things that are checked. -/
theorem exists_of_forM_eq_error {α : Type} {check : α → Except Fault Unit} {xs : List α}
    (h : xs.forM check = .error f) : ∃ x ∈ xs, check x = .error f := by
  induction xs with
  | nil => cases h
  | cons x xs ih =>
    change (check x >>= fun _ => xs.forM check) = .error f at h
    rcases bind_eq_error h with hx | ⟨_, -, hrest⟩
    · exact ⟨x, List.mem_cons_self, hx⟩
    · obtain ⟨y, hy, hcheck⟩ := ih hrest
      exact ⟨y, List.mem_cons_of_mem x hy, hcheck⟩

theorem checkInteger_eq_error {n : Int} (h : checkInteger n = .error f) : f.IsUnstorable := by
  unfold checkInteger at h
  split at h
  · simp at h
  · cases h
    exact .integer

theorem checkText_eq_error {t : Text} (h : checkText t = .error f) : f.IsUnstorable := by
  unfold checkText at h
  split at h
  · simp at h
  · cases h
    exact .text

theorem checkText?_eq_error {t : Option Text} (h : checkText? t = .error f) : f.IsUnstorable := by
  cases t with
  | none => simp [checkText?] at h
  | some t => exact checkText_eq_error h

theorem Cell.check_eq_error {c : Cell} (h : c.check = .error f) : f.IsUnstorable := by
  cases c with
  | integer n => exact checkInteger_eq_error h
  | text t => exact checkText_eq_error h
  | _ => simp [check] at h

theorem Row.check_eq_error {r : Row} (h : r.check = .error f) : f.IsUnstorable := by
  obtain ⟨c, -, hc⟩ := exists_of_forM_eq_error h
  exact Cell.check_eq_error hc

namespace Store

variable {row : Row}

theorem insert_eq_error (h : s.insert row = .error f) :
    f.IsUnstorable ∨
      f = .constraintViolated ∧ ¬ ((s.row? row.table row.id).isNone ∧ s.Admits row) := by
  rcases bind_eq_error h with h | ⟨_, -, h⟩
  · exact .inl (Row.check_eq_error h)
  · split at h
    · simp at h
    · next hrefused => exact .inr ⟨(Except.error.inj h).symm, hrefused⟩

theorem replace_eq_error (h : s.replace row = .error f) :
    f.IsUnstorable ∨ f = .constraintViolated ∧ ¬ s.Admits row := by
  rcases bind_eq_error h with h | ⟨_, -, h⟩
  · exact .inl (Row.check_eq_error h)
  · split at h
    · simp at h
    · next hrefused => exact .inr ⟨(Except.error.inj h).symm, hrefused⟩

end Store

theorem Trail.record_eq_error {ctx : Context} {notes : List Trail.Note}
    (h : Trail.record ctx s notes = .error f) : f.IsUnstorable := by
  induction notes generalizing s with
  | nil => simp [Trail.record] at h
  | cons n notes ih =>
    rcases bind_eq_error h with h | ⟨_, -, h⟩
    · exact Row.check_eq_error h
    · exact ih h

namespace Catalog

theorem find_eq_error (h : find s id = .error f) :
    f.IsUnstorable ∨ f = .notFound (.regulationType id) ∧ id ∉ s.types.map (·.id) := by
  rcases bind_eq_error h with h | ⟨_, -, h⟩
  · exact .inl (checkInteger_eq_error h)
  · split at h
    · simp at h
    · next hnone =>
      refine .inr ⟨(Except.error.inj h).symm, fun hmem => ?_⟩
      obtain ⟨t, ht, hid⟩ := List.mem_map.1 hmem
      exact findById_eq_none hnone t ht hid

/-- The type of a regulation is not missing. -/
theorem find_eq_error_of_mem (h : find s id = .error f) (hid : id ∈ s.types.map (·.id)) :
    f.IsUnstorable :=
  (find_eq_error h).resolve_right fun hmissing => hmissing.2 hid

end Catalog

namespace Config

theorem settle_eq_error {typeName : Text} {config : Option Text}
    (h : settle typeName config = .error f) :
    (∃ kind, f = .configNotNumber kind) ∨ f = .numberBeyondBounds := by
  have hrequire {kind : Kind} (h : requireNumber kind config = .error f) :
      (∃ kind, f = .configNotNumber kind) ∨ f = .numberBeyondBounds := by
    unfold requireNumber at h
    split at h
    · exact .inl ⟨kind, (Except.error.inj h).symm⟩
    · split at h
      · simp at h
      · exact .inl ⟨kind, (Except.error.inj h).symm⟩
      · exact .inr (Except.error.inj h).symm
  unfold settle at h
  split at h
  · simp at h
  · simp at h
  · exact hrequire h
  · exact hrequire h

theorem requireNumber_of_isNumber {kind : Kind} {config : Option Text} (h : IsNumber config) :
    requireNumber kind config = .ok config := by
  obtain ⟨t, n, rfl, hn⟩ := h
  simp [requireNumber, hn]

/-- A config that has the grammar of the type is kept as it is. -/
theorem settle_of_grammatical {typeName : Text} {config : Option Text}
    (h : Grammatical typeName config) : settle typeName config = .ok config := by
  unfold Grammatical at h
  unfold settle
  split
  · rfl
  · next hkind =>
    rw [hkind] at h
    rw [h]
  · next hkind =>
    rw [hkind] at h
    exact requireNumber_of_isNumber h
  · next hkind =>
    rw [hkind] at h
    exact requireNumber_of_isNumber h

end Config

end ComplianceRegistry
