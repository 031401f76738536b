import ComplianceRegistry.Proofs.Arrivals
import ComplianceRegistry.Proofs.Faults

/-!
# The integrity of the tables

Requests come and go, but the rows always fit together: no two regulations of a project share a
name, no two statuses share their pair, and a status is of a regulation and a version of one
project. So a look-up never meets several rows, and a status that was written is there to be read
back. A regulation keeps its id, its project and the time of its creation for all its life.

## Main definitions

* `Store.Fits` — the rows fit together
* `Store.Unambiguous` — no look-up meets several rows
* `Store.LivesOn` — what may become of the regulations in one step

## Main results

* `World.livesOn_outcome` — every request leaves the lives of regulations as they are, adds one or
  ends one
* `World.integrity_serve` — the rows fit together after every run, and regulations keep their lives
-/

namespace ComplianceRegistry

/-- What a regulation keeps for all its life: its id, its project and the time of its creation. -/
abbrev Life := Int × Int × Instant

/-- The life of a regulation. -/
def Regulation.life (r : Regulation) : Life := (r.id, r.projectId, r.createdAt)

namespace Store

/-- The rows fit together. -/
structure Fits (s : Store) : Prop where
  names_apart : s.regulations.Pairwise fun r g => ¬ (r.projectId = g.projectId ∧ r.name = g.name)
  pairs_apart : s.statuses.Pairwise fun st u =>
    ¬ (st.regulationId = u.regulationId ∧ st.versionId = u.versionId)
  joined : ∀ st ∈ s.statuses, ∃ r ∈ s.regulations, ∃ v ∈ s.versions,
    r.id = st.regulationId ∧ v.id = st.versionId ∧ r.projectId = v.projectId
  placed : ∀ r ∈ s.regulations,
    (∃ p ∈ s.projects, p.id = r.projectId) ∧ (∃ t ∈ s.types, t.id = r.typeId)
  named : ∀ r ∈ s.regulations, 1 ≤ r.name.length ∧ r.name.length ≤ 200

/-- No look-up meets several rows. -/
structure Unambiguous (s : Store) : Prop where
  regulations : ∀ project address, (s.regulationsAt project address).length ≤ 1
  versions : ∀ project catalogId, (s.versionsAt project catalogId).length ≤ 1
  statuses : ∀ regulationId versionId, (s.statusesAt regulationId versionId).length ≤ 1

variable {s : Store}

theorem Kept.fits (h : s.Kept) : s.Fits where
  names_apart := (List.pairwise_map.1 h.regulationNames).imp fun hne hsame =>
    hne (Prod.ext hsame.1 hsame.2)
  pairs_apart := (List.pairwise_map.1 h.statusPairs).imp fun hne hsame =>
    hne (Prod.ext hsame.1 hsame.2)
  joined := h.joins
  placed r hr :=
    ⟨List.mem_map.1 (h.regulationProjects r hr), List.mem_map.1 (h.regulationTypes r hr)⟩
  named := h.names

theorem Consistent.unambiguous (h : s.Consistent) : s.Unambiguous where
  regulations _ _ := h.length_regulationsAt_le_one
  versions _ _ := h.length_versionsAt_le_one
  statuses _ _ := h.length_statusesAt_le_one

/-! ### Lives of regulations -/

/-- The lives of the regulations. -/
def lives (s : Store) : List Life := s.regulations.map Regulation.life

/-- What may become of the lives in one step: they go on, a new one begins, or one ends. -/
inductive LivesOn (before : List Life) : List Life → Prop
  | same : LivesOn before before
  | born {life : Life} (hnew : life.1 ∉ before.map (·.1)) : LivesOn before (before ++ [life])
  | died (id : Int) : LivesOn before (before.filter fun life => life.1 ≠ id)

/-- A life that goes on is the one that had the id before. -/
theorem LivesOn.eq_of_id_eq {before after : List Life} {life old : Life}
    (h : LivesOn before after) (hids : (before.map (·.1)).Nodup) (hold : old ∈ before)
    (hlife : life ∈ after) (hid : life.1 = old.1) : life = old := by
  cases h with
  | same => exact eq_of_key_eq hids hlife hold hid
  | born hnew =>
    -- the life that begins has an id that was not in use
    rcases List.mem_append.1 hlife with hlife | hlife
    · exact eq_of_key_eq hids hlife hold hid
    · obtain rfl := List.mem_singleton.1 hlife
      exact absurd (hid ▸ List.mem_map_of_mem hold) hnew
  | died id => exact eq_of_key_eq hids (List.mem_of_mem_filter hlife) hold hid

theorem map_fst_lives : s.lives.map (·.1) = s.regulations.map (·.id) := by
  simp [lives, Regulation.life, Function.comp_def]

theorem LivesOn.of_regulations_eq {after : Store} (h : after.regulations = s.regulations) :
    LivesOn s.lives after.lives := by
  rw [lives, lives, h]
  exact .same

end Store

namespace Operation

/-- No operation changes the lives of regulations in any other way. -/
theorem Outcome.livesOn {ctx : Context} {s after : Store} {op : Operation} {answer : Answer}
    {announcements : List Announcement} (hs : s.Consistent)
    (h : Outcome ctx s op answer after announcements) : Store.LivesOn s.lives after.lives := by
  cases h with
  | seeded h => exact .of_regulations_eq h.regulations_eq
  | read => exact .same
  | @created project draft view after h =>
    have hlives : after.lives = s.lives ++ [view.regulation.life] := by
      rw [Store.lives, h.regulations_eq, List.map_append]
      rfl
    exact hlives ▸ .born fun hmem => h.id_notMem (Store.map_fst_lives ▸ hmem)
  | updated h =>
    -- whatever else is patched, the row in place has the life of the regulation before
    have hlives : after.lives = s.lives := by
      rw [Store.lives, h.regulations_eq hs]
      refine map_putById fun r hr hid => ?_
      obtain ⟨hrow, hproject, hcreated⟩ := h.life_eq
      obtain rfl := eq_of_key_eq hs.regulationIds hr h.before_mem (hid.trans hrow)
      rw [Regulation.life, Regulation.life, hrow, hproject, hcreated]
    exact hlives ▸ .same
  | @deleted project address view after h =>
    have hlives : after.lives = s.lives.filter fun life => life.1 ≠ view.regulation.id := by
      rw [Store.lives, h.regulations_eq, Store.lives, List.filter_map]
      rfl
    exact hlives ▸ .died _
  | upserted hpair hwrites h => exact .of_regulations_eq h.regulations_eq
  | statusDeleted hpair h => exact h.after_eq ▸ .same
  | remarked h => exact .same

/-- The operations on the regulations and statuses of a project. -/
def IsOfProject : Operation → Prop
  | .seedTypes _ | .listTypes | .findType _ | .evaluate .. | .browseTrail _ | .remark _ => False
  | _ => True

/-- The operations that write a status. -/
def IsStatusWrite : Operation → Prop
  | .setValue .. | .setCompliance .. | .report .. => True
  | _ => False

variable {ctx : Context} {s : Store} {op : Operation}

/-- On a sound store a look-up never meets several rows, nor is a row gone that was just written. -/
theorem ne_rowUnreadable (hs : s.Sound) (hop : op.IsOfProject) :
    ((op.run ctx).perform s).answer ≠ .error .rowUnreadable := by
  intro h
  have hend := (run_refuses hs op).perform h
  cases op <;> first | exact hop | exact hend

/-- On a sound store a status that was written is there to be read back. -/
theorem ne_status_notFound (hs : s.Sound) (hop : op.IsStatusWrite) {regulation project : Int}
    {catalogId : Text} :
    ((op.run ctx).perform s).answer ≠
      .error (.notFound (.status regulation project catalogId)) := by
  intro h
  have hend := (run_refuses hs op).perform h
  cases op with
  | setValue | setCompliance | report =>
    rcases hend with hend | hend
    · simp at hend
    · simp at hend
  | _ => exact hop

end Operation

namespace World

variable {settings : Settings} {w : World} {a : Arrival} {arrivals earlier later : List Arrival}

theorem livesOn_outcome {s : Store} (hs : s.Consistent) :
    Store.LivesOn s.lives (a.outcome settings s).store.lives := by
  rcases Server.handle_cases hs with ⟨op, answer, -, -, h⟩ | ⟨hstore, -⟩
  · exact h.livesOn hs
  · exact (congrArg Store.lives hstore).symm ▸ .same

/-- A life that is never interrupted is the same at the end as at the beginning. -/
theorem life_eq_of_present (h : w.store.Kept) {r g : Regulation} (hr : r ∈ w.store.regulations)
    (hg : g ∈ (w.serve settings later).store.regulations) (hid : g.id = r.id)
    (hpresent : ∀ n, ∃ x ∈ (w.serve settings (later.take n)).store.regulations, x.id = r.id) :
    g.life = r.life := by
  induction later generalizing w r with
  | nil => exact congrArg _ (eq_of_key_eq h.regulationIds hg hr hid)
  | cons a later ih =>
    -- the regulation that is present after the first request takes the place of the one before
    obtain ⟨x, hx, hxid⟩ := hpresent 1
    have hstep : Store.LivesOn w.store.lives (a.outcome settings w.store).store.lives :=
      livesOn_outcome h.toConsistent
    have hnext : x.life = r.life :=
      hstep.eq_of_id_eq (Store.map_fst_lives ▸ h.regulationIds) (List.mem_map_of_mem hr)
        (List.mem_map_of_mem hx) hxid
    rw [← hnext]
    refine ih (kept_outcome h) hx hg (hid.trans hxid.symm) fun n => ?_
    obtain ⟨y, hy, hyid⟩ := hpresent (n + 1)
    exact ⟨y, hy, hyid.trans hxid.symm⟩

/-- After every run the rows fit together, no look-up meets several rows or finds a row gone that
it needs, and regulations keep their lives. -/
theorem integrity_serve (h : w.store.Initial) :
    (∀ arrivals, (w.serve settings arrivals).store.Fits ∧
      (w.serve settings arrivals).store.Unambiguous ∧
      (∀ (ctx : Context) (op : Operation), op.IsOfProject →
        ((op.run ctx).perform (w.serve settings arrivals).store).answer ≠ .error .rowUnreadable) ∧
      (∀ (ctx : Context) (op : Operation), op.IsStatusWrite →
        ∀ regulation project catalogId,
          ((op.run ctx).perform (w.serve settings arrivals).store).answer ≠
            .error (.notFound (.status regulation project catalogId)))) ∧
    (∀ arrivals a, Store.LivesOn (w.serve settings arrivals).store.lives
      (w.serve settings (arrivals ++ [a])).store.lives) ∧
    (∀ earlier later, ∀ r ∈ (w.serve settings earlier).store.regulations,
      ∀ g ∈ (w.serve settings (earlier ++ later)).store.regulations, g.id = r.id →
      (∀ n, ∃ x ∈ (w.serve settings (earlier ++ later.take n)).store.regulations, x.id = r.id) →
      g.projectId = r.projectId ∧ g.createdAt = r.createdAt) := by
  refine ⟨fun arrivals => ?_, fun arrivals a => ?_, fun earlier later r hr g hg hid hpresent => ?_⟩
  · have hkept : (w.serve settings arrivals).store.Kept := kept_serve h
    exact ⟨hkept.fits, hkept.toConsistent.unambiguous,
      fun _ _ hop => Operation.ne_rowUnreadable hkept.toSound hop,
      fun _ _ hop _ _ _ => Operation.ne_status_notFound hkept.toSound hop⟩
  · rw [store_serve_concat]
    exact livesOn_outcome (kept_serve h).toConsistent
  · rw [serve_append] at hg
    simp only [serve_append] at hpresent
    have hlife := life_eq_of_present (kept_serve h) hr hg hid hpresent
    exact ⟨congrArg (·.2.1) hlife, congrArg (·.2.2) hlife⟩

/-- A creation and a report leave rows that fit together, and the regulation keeps its life. -/
theorem integrity_serve_sample :
    sample.store.Initial ∧
    (sample.serve (.ofDatabase "sqlite") [.creation, .firstReport]).store.statuses.length = 1 ∧
    (sample.serve (.ofDatabase "sqlite") [.creation, .firstReport]).store.Fits ∧
    ∀ r ∈ (sample.serve (.ofDatabase "sqlite") [.creation]).store.regulations,
      ∀ g ∈ (sample.serve (.ofDatabase "sqlite") [.creation, .firstReport]).store.regulations,
      g.projectId = r.projectId ∧ g.createdAt = r.createdAt := by
  obtain ⟨hfits, -, hlife⟩ :=
    @integrity_serve (.ofDatabase "sqlite") sample Store.initial_sample
  have hids : ∀ r ∈ (sample.serve (.ofDatabase "sqlite") [.creation]).store.regulations,
      ∀ g ∈ (sample.serve (.ofDatabase "sqlite") [.creation, .firstReport]).store.regulations,
      g.id = r.id ∧ r.id = 1 := by
    decide +kernel
  refine ⟨Store.initial_sample, by decide +kernel, (hfits _).1, fun r hr g hg => ?_⟩
  refine hlife [.creation] [.firstReport] r hr g hg (hids r hr g hg).1 fun n => ?_
  rw [(hids r hr g hg).2]
  cases n with
  | zero => decide +kernel
  | succ n =>
    rw [List.take_succ_cons, List.take_nil]
    decide +kernel

end World

end ComplianceRegistry
