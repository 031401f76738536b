import ComplianceRegistry.Session

/-!
# What work leaves behind

The parts of work fall into two sorts. Most of them may fail and leave what outlasts the session
alone; a commit and an announcement change it and cannot fail. Work leaves no trace of a failure
when nothing fails after its first commit, and the rules below keep track of that.

## Main definitions

* `Session.Keeps` — what outlasts the session is still the same
* `Work.Leads` — the work fails and keeps what outlasts the session, or ends as told
* `Work.Yields` — the work does not fail and ends as told

## Main results

* `Work.Leads.perform_ok`, `Work.Leads.perform_error` — what is left of work that leads somewhere
* `Work.query_bind_congr`, `Work.lift_bind_congr` — work that goes on alike comes to the same
-/

namespace ComplianceRegistry

/-- From the first session to the second nothing was committed or announced. -/
def Session.Keeps (σ τ : Session) : Prop :=
  τ.committed = σ.committed ∧ τ.announced = σ.announced

namespace Session.Keeps

theorem refl (σ : Session) : σ.Keeps σ := ⟨rfl, rfl⟩

theorem trans {σ τ ρ : Session} (h : σ.Keeps τ) (h' : τ.Keeps ρ) : σ.Keeps ρ :=
  ⟨h'.1.trans h.1, h'.2.trans h.2⟩

end Session.Keeps

namespace Work

variable {α β : Type} {w : Work α} {next : α → Work β} {σ τ : Session}
variable {P Q : α → Session → Prop} {R : β → Session → Prop}

/-- From the session the work ends as told, or it fails and keeps what outlasts the session. -/
def Leads (w : Work α) (σ : Session) (Q : α → Session → Prop) : Prop :=
  match w σ with
  | (.ok a, τ) => Q a τ
  | (.error _, τ) => σ.Keeps τ

/-- From the session the work does not fail, and ends as told. -/
def Yields (w : Work α) (σ : Session) (Q : α → Session → Prop) : Prop :=
  ∃ a τ, w σ = (.ok a, τ) ∧ Q a τ

/-! ### Work step by step -/

@[simp] theorem pure_apply (a : α) : (pure a : Work α) σ = (.ok a, σ) := rfl

theorem bind_apply_ok {a : α} (h : w σ = (.ok a, τ)) : (w >>= next) σ = next a τ := by
  change Work.bind w next σ = _
  simp [Work.bind, h]

theorem bind_apply_error {f : Fault} (h : w σ = (.error f, τ)) :
    (w >>= next) σ = (.error f, τ) := by
  change Work.bind w next σ = _
  simp [Work.bind, h]

theorem query_bind_ok {ask : Store → Except Fault α} {a : α} (h : ask σ.working = .ok a) :
    (query ask >>= next) σ = next a σ :=
  bind_apply_ok (by simp [query, h])

theorem query_bind_error {ask : Store → Except Fault α} {f : Fault}
    (h : ask σ.working = .error f) : (query ask >>= next) σ = (.error f, σ) :=
  bind_apply_error (by simp [query, h])

theorem lift_bind_ok {e : Except Fault α} {a : α} (h : e = .ok a) :
    ((liftM e : Work α) >>= next) σ = next a σ :=
  bind_apply_ok (h ▸ rfl)

theorem lift_bind_error {e : Except Fault α} {f : Fault} (h : e = .error f) :
    ((liftM e : Work α) >>= next) σ = (.error f, σ) :=
  bind_apply_error (h ▸ rfl)

theorem write_bind_error {statement : Store → Except Fault Store} {next : Unit → Work β}
    {f : Fault} (h : statement σ.working = .error f) :
    (write statement >>= next) σ = (.error f, σ) :=
  bind_apply_error (by simp [write, h])

/-! ### Work that goes on alike -/

/-- Work that asks for the same and goes on alike comes to the same. -/
theorem query_bind_congr {ask ask' : Store → Except Fault α} {next' : α → Work β}
    (hask : ask σ.working = ask' σ.working)
    (hnext : ∀ a, ask σ.working = .ok a → next a σ = next' a σ) :
    (query ask >>= next) σ = (query ask' >>= next') σ := by
  cases ha : ask σ.working with
  | ok a => rw [query_bind_ok ha, query_bind_ok (hask ▸ ha), hnext a ha]
  | error f => rw [query_bind_error ha, query_bind_error (hask ▸ ha)]

theorem lift_bind_congr {e : Except Fault α} {next' : α → Work β}
    (hnext : ∀ a, e = .ok a → next a σ = next' a σ) :
    ((liftM e : Work α) >>= next) σ = ((liftM e : Work α) >>= next') σ := by
  cases e with
  | ok a => rw [lift_bind_ok rfl, lift_bind_ok rfl, hnext a rfl]
  | error f => rw [lift_bind_error rfl, lift_bind_error rfl]

theorem map_congr {g : α → β} {w' : Work α} (h : w σ = w' σ) : (g <$> w) σ = (g <$> w') σ := by
  cases hw : w σ with
  | mk result τ =>
    cases result with
    | ok a => exact (bind_apply_ok hw).trans (bind_apply_ok (h ▸ hw)).symm
    | error f => exact (bind_apply_error hw).trans (bind_apply_error (h ▸ hw)).symm

/-! ### Work that does not fail -/

theorem Yields.of_pure {a : α} (h : Q a σ) : (pure a : Work α).Yields σ Q := ⟨a, σ, rfl, h⟩

theorem Yields.of_query {ask : Store → Except Fault α} {a : α} (ha : ask σ.working = .ok a)
    (h : Q a σ) : (query ask).Yields σ Q :=
  ⟨a, σ, by simp [query, ha], h⟩

theorem Yields.of_commit {Q : Unit → Session → Prop} (h : Q () { σ with committed := σ.working }) :
    commit.Yields σ Q := ⟨(), _, rfl, h⟩

theorem Yields.of_announce {Q : Unit → Session → Prop} {a : Announcement}
    (h : Q () { σ with announced := σ.announced ++ [a] }) : (announce a).Yields σ Q :=
  ⟨(), _, rfl, h⟩

theorem Yields.bind (h : w.Yields σ fun a τ => (next a).Yields τ R) : (w >>= next).Yields σ R := by
  obtain ⟨a, τ, hw, b, ρ, hnext, hR⟩ := h
  exact ⟨b, ρ, by rw [bind_apply_ok hw, hnext], hR⟩

theorem Yields.leads (h : w.Yields σ Q) : w.Leads σ Q := by
  obtain ⟨a, τ, hw, hQ⟩ := h
  simpa [Leads, hw] using hQ

/-! ### Work that may fail -/

theorem Leads.of_pure {a : α} (h : Q a σ) : (pure a : Work α).Leads σ Q := h

theorem Leads.of_fail {f : Fault} : (fail f : Work α).Leads σ Q := Session.Keeps.refl σ

theorem Leads.of_lift {e : Except Fault α} (h : ∀ a, e = .ok a → Q a σ) :
    (liftM e : Work α).Leads σ Q := by
  change Leads (fun σ => (e, σ)) σ Q
  cases e with
  | ok a => exact h a rfl
  | error f => exact Session.Keeps.refl σ

theorem Leads.of_query {ask : Store → Except Fault α}
    (h : ∀ a, ask σ.working = .ok a → Q a σ) : (query ask).Leads σ Q := by
  unfold Leads query
  cases ha : ask σ.working with
  | ok a => exact h a ha
  | error f => exact Session.Keeps.refl σ

theorem Leads.of_write {statement : Store → Except Fault Store} {Q : Unit → Session → Prop}
    (h : ∀ s, statement σ.working = .ok s → Q () { σ with working := s }) :
    (write statement).Leads σ Q := by
  unfold Leads write
  cases hs : statement σ.working with
  | ok s => exact h s hs
  | error f => exact Session.Keeps.refl σ

theorem Leads.mono (h : w.Leads σ P) (hPQ : ∀ a τ, P a τ → Q a τ) : w.Leads σ Q := by
  unfold Leads at h ⊢
  split at h
  · exact hPQ _ _ h
  · exact h

/-- Before anything is committed, both parts of work may fail. -/
theorem Leads.bind (h : w.Leads σ fun a τ => σ.Keeps τ ∧ (next a).Leads τ R) :
    (w >>= next).Leads σ R := by
  unfold Leads at h ⊢
  split at h
  · next a τ hw =>
    obtain ⟨hkeeps, hnext⟩ := h
    rw [bind_apply_ok hw]
    -- a fault of the second part keeps what the first part kept
    split at hnext
    · exact hnext
    · exact hkeeps.trans hnext
  · next f τ hw =>
    rw [bind_apply_error hw]
    exact h

/-- What follows a commit may not fail. -/
theorem Leads.bind_yields (h : w.Leads σ fun a τ => (next a).Yields τ R) :
    (w >>= next).Leads σ R := by
  unfold Leads at h ⊢
  split at h
  · next a τ hw =>
    -- here the session need not be kept, since there is no fault for which it would have to be
    obtain ⟨b, ρ, hnext, hR⟩ := h
    rw [bind_apply_ok hw, hnext]
    exact hR
  · next f τ hw =>
    rw [bind_apply_error hw]
    exact h

theorem Leads.map {g : α → β} (h : w.Leads σ fun a τ => R (g a) τ) : (g <$> w).Leads σ R :=
  Leads.bind_yields (h.mono fun _ _ => Yields.of_pure)

/-- An answer that is asked for before anything is committed. -/
theorem Leads.query_bind {ask : Store → Except Fault α}
    (h : ∀ a, ask σ.working = .ok a → (next a).Leads σ R) : (query ask >>= next).Leads σ R :=
  Leads.bind (Leads.of_query fun a ha => ⟨.refl σ, h a ha⟩)

/-- A check that is made before anything is committed. -/
theorem Leads.lift_bind {e : Except Fault α} (h : ∀ a, e = .ok a → (next a).Leads σ R) :
    ((liftM e : Work α) >>= next).Leads σ R :=
  Leads.bind (Leads.of_lift fun a ha => ⟨.refl σ, h a ha⟩)

/-- A statement that is written before anything is committed. -/
theorem Leads.write_bind {statement : Store → Except Fault Store} {next : Unit → Work β}
    (h : ∀ s, statement σ.working = .ok s → (next ()).Leads { σ with working := s } R) :
    (write statement >>= next).Leads σ R :=
  Leads.bind (Leads.of_write fun s hs => ⟨⟨rfl, rfl⟩, h s hs⟩)

/-- A fault that is answered by another one leaves as little behind. -/
theorem Leads.rescue {other : Fault → Work α} (h : w.Leads σ Q)
    (hother : ∀ f τ, σ.Keeps τ → ∃ g ρ, other f τ = (.error g, ρ) ∧ σ.Keeps ρ) :
    (w.rescue other).Leads σ Q := by
  unfold Leads Work.rescue at *
  split at h
  · next a τ hw => simpa [hw] using h
  · next f τ hw =>
    obtain ⟨g, ρ, hg, hkeeps⟩ := hother f τ h
    simpa [hw, hg] using hkeeps

/-! ### Work in a session of its own -/

theorem perform_congr {s : Store} {w' : Work α} (h : w (.start s) = w' (.start s)) :
    w.perform s = w'.perform s := by
  simp only [perform, h]

/-- Work that succeeds is told by what it commits and announces. -/
theorem Leads.perform_ok {s : Store} {a : α} (h : w.Leads (.start s) Q)
    (ha : (w.perform s).answer = .ok a) :
    ∃ τ, Q a τ ∧ (w.perform s).store = τ.committed ∧ (w.perform s).announcements = τ.announced := by
  unfold Leads at h
  unfold perform at ha ⊢
  split at h
  · next b τ hw =>
    simp only [hw, Except.ok.injEq] at ha ⊢
    exact ⟨τ, ha ▸ h, rfl, rfl⟩
  · next f τ hw => simp [hw] at ha

/-- Work that fails leaves the store as it was and announces nothing. -/
theorem Leads.perform_error {s : Store} {f : Fault} (h : w.Leads (.start s) Q)
    (hf : (w.perform s).answer = .error f) :
    (w.perform s).store = s ∧ (w.perform s).announcements = [] := by
  unfold Leads at h
  unfold perform at hf ⊢
  split at h
  · next b τ hw => simp [hw] at hf
  · next g τ hw =>
    -- the session started with what was committed then, and with no announcements
    simp only [hw]
    exact h

end Work

end ComplianceRegistry
