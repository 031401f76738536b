import ComplianceRegistry.Proofs.Arrivals
import Mathlib.Algebra.Group.Int.Defs
import Mathlib.Algebra.Group.Nat.Defs

/-!
# Ids that are left

A column holds integers of 64 bits, and new rows are numbered on from the largest id. So there are
ids for new rows until a table has used up the largest ones. Requests come nowhere near that: each
of them adds at most one row to a table and at most ten entries to the trail.

## Main definitions

* `Store.HasRoom` — the ids have not run out
* `Store.Within` — the ids of a store that has seen so many requests

## Main results

* `Operation.Outcome.within` — how far one operation gets
* `World.hasRoom_serve` — after any realistic number of requests there is room
-/

namespace ComplianceRegistry

variable {ctx : Context} {s after : Store} {bound : Int} {n : Nat}

/-- The next id comes right after one of those in use. -/
theorem exists_nextId_eq {ids : List Int} (h : ids ≠ []) : ∃ id ∈ ids, nextId ids = id + 1 := by
  cases ids with
  | nil => exact absurd rfl h
  | cons first ids => exact ⟨_, List.max?_mem (List.max?_cons' ..), rfl⟩

theorem Trail.id_lt_of_mem_entriesFrom {notes : List Note} {first : Int} {e : AuditEntry}
    (h : e ∈ entriesFrom ctx first notes) : e.id < first + notes.length := by
  induction notes generalizing first with
  | nil => simp [entriesFrom] at h
  | cons n notes ih =>
    rw [List.length_cons]
    rcases List.mem_cons.1 h with rfl | h
    · change first < _
      omega
    · have hrest := ih h
      omega

namespace Store

/-- The ids have not run out: the next regulation, the next status and the next ten entries of the
trail can have theirs. -/
structure HasRoom (s : Store) : Prop where
  regulations : Storable (s.nextIdOf .regulations)
  statuses : Storable (s.nextIdOf .statuses)
  audit : ∀ i : Fin 10, Storable (s.nextIdOf .audit + i)

/-- The ids of regulations and of statuses are among the first so many. Those of the trail lie
within a bound that each request widens by ten. -/
structure Within (bound : Int) (n : Nat) (s : Store) : Prop where
  regulations : ∀ r ∈ s.regulations, 1 ≤ r.id ∧ r.id ≤ n
  statuses : ∀ st ∈ s.statuses, 1 ≤ st.id ∧ st.id ≤ n
  audit : ∀ e ∈ s.audit, -bound ≤ e.id ∧ e.id ≤ bound + 10 * n

theorem nextId_bounds {α : Type} {id : α → Int} {rows : List α} {least most : Int}
    (hleast : least ≤ 1) (hmost : 0 ≤ most) (h : ∀ r ∈ rows, least ≤ id r ∧ id r ≤ most) :
    least ≤ nextId (rows.map id) ∧ nextId (rows.map id) ≤ most + 1 := by
  by_cases hrows : rows.map id = []
  · rw [hrows]
    change least ≤ 1 ∧ 1 ≤ most + 1
    omega
  · obtain ⟨_, hmem, hid⟩ := exists_nextId_eq hrows
    obtain ⟨r, hr, rfl⟩ := List.mem_map.1 hmem
    have hbounds := h r hr
    omega

namespace Within

theorem mono (h : s.Within bound n) : s.Within bound (n + 1) where
  regulations r hr := by have := h.regulations r hr; omega
  statuses st hst := by have := h.statuses st hst; omega
  audit e he := by have := h.audit e he; omega

/-- Ten notes at most move the trail on by ten ids at most. -/
theorem logged {notes : List Trail.Note} {core : Store} (hbound : 0 ≤ bound)
    (h : s.Within bound n) (hlength : notes.length ≤ 10) (haudit : core.audit = s.audit)
    (hregulations : ∀ r ∈ core.regulations, 1 ≤ r.id ∧ r.id ≤ (n + 1 : Nat))
    (hstatuses : ∀ st ∈ core.statuses, 1 ≤ st.id ∧ st.id ≤ (n + 1 : Nat)) :
    (Trail.logged ctx notes core).Within bound (n + 1) where
  regulations := hregulations
  statuses := hstatuses
  audit e he := by
    rw [Trail.logged_audit, haudit] at he
    rcases List.mem_append.1 he with he | he
    · exact h.mono.audit e he
    · have hleast := Trail.le_id_of_mem_entriesFrom he
      have hmost := Trail.id_lt_of_mem_entriesFrom he
      have hnext : -bound ≤ nextId (s.audit.map (·.id)) ∧
          nextId (s.audit.map (·.id)) ≤ bound + 10 * n + 1 :=
        nextId_bounds (by omega) (by omega) h.audit
      omega

/-- The next id of rows that are among the first so many is among one more. -/
theorem nextId_le_succ {α : Type} {id : α → Int} {rows : List α}
    (h : ∀ r ∈ rows, 1 ≤ id r ∧ id r ≤ n) :
    1 ≤ nextId (rows.map id) ∧ nextId (rows.map id) ≤ (n + 1 : Nat) := by
  have hnext := nextId_bounds (by omega) (by omega) h
  omega

theorem hasRoom (hbound : 0 ≤ bound) (hsmall : bound + 10 * n + 10 < storageBound)
    (h : s.Within bound n) : s.HasRoom := by
  have hregulations : 1 ≤ s.nextIdOf .regulations ∧ s.nextIdOf .regulations ≤ n + 1 := by
    rw [nextIdOf_regulations]
    exact nextId_bounds (by omega) (by omega) h.regulations
  have hstatuses : 1 ≤ s.nextIdOf .statuses ∧ s.nextIdOf .statuses ≤ n + 1 := by
    rw [nextIdOf_statuses]
    exact nextId_bounds (by omega) (by omega) h.statuses
  have haudit : -bound ≤ s.nextIdOf .audit ∧ s.nextIdOf .audit ≤ bound + 10 * n + 1 := by
    rw [nextIdOf_audit]
    exact nextId_bounds (by omega) (by omega) h.audit
  refine ⟨?_, ?_, fun i => ?_⟩ <;> unfold Storable <;> omega

end Within

end Store

namespace Operation.Outcome

variable {op : Operation} {answer : Answer} {announcements : List Announcement}

theorem within (hbound : 0 ≤ bound) (hin : s.Within bound n)
    (hop : op.IsPosed) (h : Outcome ctx s op answer after announcements) :
    after.Within bound (n + 1) := by
  have hregulations := hin.mono.regulations
  have hstatuses := hin.mono.statuses
  cases h with
  | seeded | remarked => exact hop.elim
  | read => exact hin.mono
  | created h =>
    rw [h.after_eq]
    refine hin.logged hbound (by simp) rfl (forall_mem_append hregulations ?_) hstatuses
    rw [h.row_eq]
    exact Store.Within.nextId_le_succ hin.regulations
  | updated h =>
    have hrow := hregulations _ h.before_mem
    rw [← h.life_eq.1] at hrow
    cases h.rewritten with
    | unchanged => exact hin.mono
    | changed =>
      exact hin.logged hbound Regulations.length_updateNotes_le rfl
        (forall_mem_putById hregulations hrow) hstatuses
  | deleted h =>
    rw [h.after_eq]
    exact hin.logged hbound (by simp) rfl (fun r hr => hregulations r (List.mem_of_mem_filter hr))
      fun st hst => hstatuses st (List.mem_of_mem_filter hst)
  | @upserted _ _ _ _ _ _ w _ _ hpair hwrites h =>
    cases h with
    | added hnone hrow =>
      refine hin.logged hbound Statuses.length_putNotes_le rfl hregulations
        (forall_mem_append hstatuses ?_)
      rw [hrow, Statuses.apply_id]
      exact Store.Within.nextId_le_succ hin.statuses
    | replaced hsome hrow =>
      have hold := hstatuses _ (List.mem_of_mem_filter (List.mem_of_head? hsome))
      refine hin.logged hbound Statuses.length_putNotes_le rfl hregulations
        (forall_mem_putById hstatuses ?_)
      rw [hrow]
      simpa using hold
  | statusDeleted hpair h =>
    rw [h.after_eq]
    exact hin.logged hbound (by simp) rfl hregulations
      fun st hst => hstatuses st (List.mem_of_mem_filter hst)

end Operation.Outcome

namespace World

variable {settings : Settings} {w : World} {arrivals : List Arrival}

theorem within_serve (hbound : 0 ≤ bound) (hw : w.store.Kept) (hin : w.store.Within bound n) :
    (w.serve settings arrivals).store.Within bound (n + arrivals.length) := by
  induction arrivals generalizing w n with
  | nil => exact hin
  | cons a arrivals ih =>
    have hstep : (a.outcome settings w.store).store.Within bound (n + 1) := by
      rcases Server.handle_cases hw.toConsistent with ⟨op, answer, hop, -, h⟩ | ⟨hstore, -⟩
      · exact h.within hbound hin (Server.isPosed_of_operationOf? hop)
      · exact hstore.symm ▸ hin.mono
    rw [serve_cons, List.length_cons, Nat.add_comm arrivals.length, ← Nat.add_assoc]
    exact ih (kept_outcome hw) hstep

/-- After any realistic number of requests there is room: a run starts without regulations, and with
a trail whose ids leave half of the integers free. -/
theorem hasRoom_serve (h : w.store.Initial)
    (haudit : ∀ e ∈ w.store.audit, -(2 ^ 62) ≤ e.id ∧ e.id ≤ 2 ^ 62)
    (hlength : arrivals.length ≤ 2 ^ 58) : (w.serve settings arrivals).store.HasRoom := by
  have hin : w.store.Within (2 ^ 62) 0 :=
    ⟨by simp [h.regulations_eq], by simp [h.statuses_eq], by simpa using haudit⟩
  have hserved : (w.serve settings arrivals).store.Within (2 ^ 62) (0 + arrivals.length) :=
    within_serve (by decide) h.kept hin
  refine hserved.hasRoom (by decide) ?_
  unfold storageBound
  omega

end World

end ComplianceRegistry
