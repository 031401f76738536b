import ComplianceRegistry.Proofs.Batches

/-!
# Runs of steps

A run mixes requests with operations that are asked for directly, batches of edits, bare deletions
and starts of the server. A step comes down to one operation, or it edits rows of its own accord, or
it writes nothing. In each case it writes by the statements that all writes are made of, so that
what these preserve holds after every run; the constraints of the tables are of that kind.

## Main definitions

* `Step.operation?`, `Step.contextIn` — the operation that a step comes down to, and its context
* `Step.editedTables` — the tables whose rows a step edits of its own accord

## Main results

* `Step.effect_preserves` — a step preserves what statements preserve
* `World.consistent_run` — every run keeps the constraints of the tables
-/

namespace ComplianceRegistry

variable {settings : Settings} {ctx : Context} {s : Store} {step : Step} {op : Operation}

namespace Step

/-- The operation that a step comes down to, if it does. A start of the server that seeds the
catalog comes down to the seeding. -/
def operation? (settings : Settings) : Step → Option Operation
  | .request _ r => Server.operationOf? settings r
  | .operation op => some op
  | .startup true => some (.seedTypes true)
  | .seeding recorded => some (.seedTypes recorded)
  | _ => none

/-- The context in which a step writes. A request brings its own user and address. -/
def contextIn (ctx : Context) : Step → Context
  | .request _ r => Server.contextOf ctx r
  | _ => ctx

/-- The tables whose rows a step edits of its own accord. -/
def editedTables : Step → List Table
  | .batch edits => edits.filterMap Edit.table?
  | .erase t _ => [t]
  | _ => []

end Step

/-- What is made of a result changes nothing of what the work leaves. -/
theorem Work.perform_map {α β : Type} {g : α → β} {w : Work α} :
    (g <$> w).perform s = (w.perform s).map (Except.map g) := by
  cases hw : w (.start s) with
  | mk result τ =>
    cases result with
    | ok a =>
      have hmap : (g <$> w) (.start s) = (.ok (g a), τ) := bind_apply_ok hw
      simp only [perform, hw, hmap]
      rfl
    | error f =>
      have hmap : (g <$> w) (.start s) = (.error f, τ) := bind_apply_error hw
      simp only [perform, hw, hmap]
      rfl

namespace Step

/-- A step that comes down to an operation leaves the store that the operation leaves, and announces
what the operation announces. -/
theorem effect_of_operation (h : step.operation? settings = some op) :
    (step.effect settings ctx s).store = ((op.run (step.contextIn ctx)).perform s).store ∧
      (step.effect settings ctx s).announcements =
        ((op.run (step.contextIn ctx)).perform s).announcements := by
  have hseed (recorded : Bool) : ((Operation.seedTypes recorded).run ctx).perform s =
      ((Catalog.seed recorded ctx).perform s).map (Except.map .names) := Work.perform_map
  cases step with
  | request outage r =>
    have hhandle := @Server.handle_of_operation settings outage ctx s r op h
    exact ⟨congrArg Written.store hhandle, congrArg Written.announcements hhandle⟩
  | operation o =>
    obtain rfl := Option.some.inj h
    exact ⟨rfl, rfl⟩
  | startup seed =>
    cases seed with
    | true =>
      obtain rfl := Option.some.inj h
      have hstart : (start ctx true).perform s =
          ((Catalog.seed true ctx).perform s).map (Except.map fun _ => ()) := Work.perform_map
      -- a start drops the names that were seeded, the operation tells them
      simp only [effect, contextIn, hstart, hseed]
      exact ⟨rfl, rfl⟩
    | false => cases h
  | seeding recorded =>
    obtain rfl := Option.some.inj h
    simp only [contextIn, hseed]
    exact ⟨rfl, rfl⟩
  | _ => cases h

/-- A step without an operation and without edits writes nothing. -/
theorem store_effect_of_none (h : step.operation? settings = none)
    (hbatch : ∀ edits, step ≠ .batch edits) (herase : ∀ t id, step ≠ .erase t id) :
    (step.effect settings ctx s).store = s := by
  cases step with
  | request outage r => exact (Server.handle_of_none h).1
  | batch edits => exact absurd rfl (hbatch edits)
  | erase t id => exact absurd rfl (herase t id)
  | operation o => cases h
  | seeding recorded => cases h
  | startup seed =>
    cases seed with
    | true => cases h
    | false => rfl
  | _ => rfl

section Preserving

variable {isOpen : Table → Prop} {isNoted : Trail.Note → Prop} {P : Store → Prop}
variable (hP : Store.Preserves (step.contextIn ctx) isOpen isNoted P)

include hP

/-- A step preserves what statements preserve, as long as the tables that it edits are open and the
notes of a remark that it comes down to may be recorded. -/
theorem effect_preserves (hopen : ∀ t ∈ step.editedTables, isOpen t)
    (hnoted : ∀ op, step.operation? settings = some op → op.IsNoting isNoted) (hs : P s) :
    P (step.effect settings ctx s).store := by
  cases hop : step.operation? settings with
  | some op =>
    rw [(effect_of_operation hop).1]
    exact (Operation.run_maintains hP (hnoted op hop)).perform hs
  | none =>
    -- without an operation only batches and bare deletions write
    cases step with
    | batch edits =>
      cases hrun : Batch.run ctx s edits with
      | error refusal =>
        simp only [effect, hrun]
        exact hs
      | ok after =>
        simp only [effect, hrun]
        refine Batch.run_preserves hP (fun e he t ht => hopen t ?_) hs hrun
        exact List.mem_filterMap.2 ⟨e, he, ht⟩
    | erase t id =>
      have hremoval : (removal t id).Maintains P :=
        .bind .of_lift fun _ => .bind .of_query fun _ =>
          .bind (.of_write fun _ _ => hP.remove (hopen t (List.mem_singleton_self t))) fun _ =>
            .bind .of_commit fun _ => .of_pure
      exact hremoval.perform hs
    | _ =>
      rw [store_effect_of_none hop (fun _ h => nomatch h) fun _ _ h => nomatch h]
      exact hs

end Preserving

end Step

/-- The constraints of the tables are preserved by all statements. -/
theorem Store.Consistent.preserves :
    Store.Preserves ctx (fun _ => True) (fun _ => True) Store.Consistent where
  tables _ _ := trivial
  notes _ _ := trivial
  insert _ hs := hs.insert
  move _ hs := hs.move
  remove _ hs := hs.remove
  dropStatuses p hs := hs.dropStatuses p
  record _ hs h := Trail.record_eq_ok h ▸ hs.logged

namespace World

variable {w : World} {steps : List (Context × Step)}

/-- What every step of a run preserves holds after it. -/
theorem run_induction {P : Store → Prop} (hstart : P w.store)
    (hstep : ∀ p ∈ steps, ∀ s : Store, P s → P (p.2.effect settings p.1 s).store) :
    P (w.run settings steps).2.store := by
  induction steps generalizing w with
  | nil => exact hstart
  | cons p steps ih =>
    have hfirst : P (w.advance settings p.1 p.2).2.store :=
      hstep p (List.mem_cons_self ..) w.store hstart
    exact ih hfirst fun q hq => hstep q (List.mem_cons_of_mem p hq)

/-- Every run keeps the constraints of the tables, whatever it does. -/
theorem consistent_run (hs : w.store.Consistent) : (w.run settings steps).2.store.Consistent :=
  run_induction hs fun _ _ _ hs => Step.effect_preserves Store.Consistent.preserves
    (fun _ _ => trivial) (fun _ _ _ _ _ _ _ _ => trivial) hs

end World

end ComplianceRegistry
