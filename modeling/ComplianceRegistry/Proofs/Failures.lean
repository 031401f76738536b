import ComplianceRegistry.Proofs.Arrivals

/-!
# Failures

An operation that fails may have come far: the row may be written, statuses may be gone, and the
trail may refuse its entries only then. Nothing of this outlasts the session, and nothing fails once
the session is committed. So the world goes on as if the call had never been made: the tables are as
they were, new rows get the ids that they would have got, and nothing is announced. The same holds
of a request that is rejected because of its form.

## Main definitions

* `Step.IsCall` — a request, or an operation that is asked for directly
* `World.LeavesNoTrace` — a step has its result and no other effect

## Main results

* `World.leavesNoTrace_of_fault`, `World.leavesNoTrace_of_rejection` — a failure leaves no trace
* `World.failures_leave_no_trace` — so it does after every run of calls
-/

namespace ComplianceRegistry

/-- A step that calls the registry: a request, or an operation that is asked for directly. -/
def Step.IsCall : Step → Prop
  | .request .. | .operation _ => True
  | _ => False

/-! ### What does not happen -/

namespace World

variable {settings : Settings} {w : World} {u : Uplink} {ctx : Context} {step : Step} {s : Store}
variable {op : Operation} {f : Fault} {a : Arrival} {result : Result}

@[simp] theorem deliver_nil : deliver settings u [] = u := rfl

@[simp] theorem newEntries_self : newEntries s s = [] := by
  have hnone : (s.audit.filter fun e => (s.audit.map (·.id)).foldl max 0 < e.id) = [] := by
    -- no entry has an id above the largest one
    refine List.filter_eq_nil_iff.2 fun e he => ?_
    have hle : e.id ≤ (s.audit.map (·.id)).foldl max 0 :=
      le_foldl_max (List.mem_cons_of_mem 0 (List.mem_map_of_mem he))
    simpa using hle
  simp [newEntries, hnone]

/-- The step has its result and no other effect: the tables are as they were, nothing is announced,
delivered or recorded, and the world goes on as it was. -/
def LeavesNoTrace (settings : Settings) (w : World) (ctx : Context) (step : Step)
    (result : Result) : Prop :=
  step.effect settings ctx w.store = ⟨result, w.store, []⟩ ∧
    w.advance settings ctx step = (⟨result, [], []⟩, w)

/-- A step that leaves the store alone and announces nothing leaves no trace. -/
theorem leavesNoTrace_of_store_eq (hresult : (step.effect settings ctx w.store).answer = result)
    (hstore : (step.effect settings ctx w.store).store = w.store)
    (hannounced : (step.effect settings ctx w.store).announcements = []) :
    w.LeavesNoTrace settings ctx step result := by
  refine ⟨?_, by simp [advance, hresult, hstore, hannounced]⟩
  rw [← hresult, ← hannounced]
  exact congrArg (fun s => Written.mk _ s _) hstore

/-- An operation that fails leaves no trace. -/
theorem leavesNoTrace_of_fault (hs : w.store.Consistent)
    (h : ((op.run ctx).perform w.store).answer = .error f) :
    w.LeavesNoTrace settings ctx (.operation op) (.fault f) := by
  obtain ⟨hstore, hannounced⟩ := (Operation.run_leads hs op).perform_error h
  refine leavesNoTrace_of_store_eq ?_ hstore hannounced
  simp [Step.effect, Step.told, Written.map, h]

/-- A request whose operation fails leaves no trace. -/
theorem leavesNoTrace_of_request_fault (hs : w.store.Consistent)
    (hop : Server.operationOf? settings a.request = some op)
    (h : ((op.run (Server.contextOf a.context a.request)).perform w.store).answer = .error f) :
    w.LeavesNoTrace settings a.context (.request a.outage a.request)
      (.response (Server.present settings a.request op (.error f))) := by
  obtain ⟨hstore, hannounced⟩ := (Operation.run_leads hs op).perform_error h
  have heffect : (Step.request a.outage a.request).effect settings a.context w.store =
      (((op.run (Server.contextOf a.context a.request)).perform w.store).map
        (Server.present settings a.request op)).map .response :=
    congrArg (Written.map Result.response) (Server.handle_of_operation hop)
  refine leavesNoTrace_of_store_eq ?_ ?_ ?_
  · rw [heffect]
    simp [Written.map, h]
  · rw [heffect]
    exact hstore
  · rw [heffect]
    exact hannounced

end World

namespace Server

variable {settings : Settings} {r : Request} {op : Operation} {result : Except Fault Answer}

/-- No operation is answered like a request that is rejected because of its form. -/
theorem status_present_ne : (present settings r op result).status ≠ 422 := by
  cases result with
  | ok answer =>
    have hop : statusOf op ≠ 422 := by cases op <;> simp [statusOf]
    have h : (present settings r op (.ok answer)).status = statusOf op ∨
      (present settings r op (.ok answer)).status = 500 := status_present_ok
    omega
  | error f =>
    rw [status_present_error]
    cases f <;> simp [Fault.status]

end Server

namespace World

variable {settings : Settings} {w : World} {a : Arrival} {steps : List (Context × Step)}

/-- A request that is rejected because of its form leaves no trace. -/
theorem leavesNoTrace_of_rejection (h : (a.outcome settings w.store).answer.status = 422) :
    w.LeavesNoTrace settings a.context (.request a.outage a.request)
      (.response (a.outcome settings w.store).answer) := by
  cases hop : Server.operationOf? settings a.request with
  | none =>
    obtain ⟨hstore, hannounced⟩ := Server.handle_of_none hop
    exact leavesNoTrace_of_store_eq rfl hstore hannounced
  | some op =>
    -- a request that gets as far as an operation is not answered in this way
    have houtcome : a.outcome settings w.store = _ := Server.handle_of_operation hop
    rw [houtcome] at h
    exact absurd h Server.status_present_ne

/-! ### Runs of calls -/

/-- Calls keep what the registry keeps. -/
theorem sound_advance {ctx : Context} {step : Step} (hs : w.store.Sound) (hstep : step.IsCall) :
    (w.advance settings ctx step).2.store.Sound := by
  cases step with
  | request outage r =>
    change (Server.handle settings outage ctx w.store r).store.Sound
    rcases Server.handle_cases hs.toConsistent with ⟨op, answer, -, -, h⟩ | ⟨hstore, -⟩
    · exact h.sound hs
    · rwa [hstore]
  | operation op =>
    change ((op.run ctx).perform w.store).store.Sound
    cases h : ((op.run ctx).perform w.store).answer with
    | ok answer => exact (Operation.outcome_of_perform hs.toConsistent h).sound hs
    | error f => rwa [((Operation.run_leads hs.toConsistent op).perform_error h).1]
  | _ => exact hstep.elim

theorem sound_run (hs : w.store.Sound) (hsteps : ∀ p ∈ steps, p.2.IsCall) :
    (w.run settings steps).2.store.Sound := by
  induction steps generalizing w with
  | nil => exact hs
  | cons p steps ih =>
    exact ih (sound_advance hs (hsteps p (List.mem_cons_self ..)))
      fun q hq => hsteps q (List.mem_cons_of_mem p hq)

/-- After every run of calls, an operation that fails leaves no trace, whether it was asked for
directly or by a request; nor does a request that is rejected because of its form. -/
theorem failures_leave_no_trace (h : w.store.Initial) (hsteps : ∀ p ∈ steps, p.2.IsCall) :
    (∀ (ctx : Context) (op : Operation) (f : Fault),
      ((op.run ctx).perform (w.run settings steps).2.store).answer = .error f →
      (w.run settings steps).2.LeavesNoTrace settings ctx (.operation op) (.fault f)) ∧
    (∀ (a : Arrival) (op : Operation) (f : Fault),
      Server.operationOf? settings a.request = some op →
      ((op.run (Server.contextOf a.context a.request)).perform
        (w.run settings steps).2.store).answer = .error f →
      (w.run settings steps).2.LeavesNoTrace settings a.context (.request a.outage a.request)
        (.response (Server.present settings a.request op (.error f)))) ∧
    (∀ a : Arrival, (a.outcome settings (w.run settings steps).2.store).answer.status = 422 →
      (w.run settings steps).2.LeavesNoTrace settings a.context (.request a.outage a.request)
        (.response (a.outcome settings (w.run settings steps).2.store).answer)) := by
  have hs : (w.run settings steps).2.store.Consistent :=
    (sound_run h.kept.toSound hsteps).toConsistent
  exact ⟨fun _ _ _ hf => leavesNoTrace_of_fault hs hf,
    fun _ _ _ hop hf => leavesNoTrace_of_request_fault hs hop hf,
    fun _ hstatus => leavesNoTrace_of_rejection hstatus⟩

/-- A creation by a user whose number the trail cannot hold fails after its row was written, and
leaves no trace. -/
theorem creation_without_trace :
    sample.store.Initial ∧
    (((Operation.createRegulation 1 ⟨"s", none, none, 1, none, 0⟩).run
        ⟨⟨0⟩, some storageBound, none, false⟩).perform
      (sample.run (.ofDatabase "sqlite") [Arrival.creation.step]).2.store).answer =
      .error .integerBeyondStorage ∧
    (sample.run (.ofDatabase "sqlite") [Arrival.creation.step]).2.LeavesNoTrace
      (.ofDatabase "sqlite") ⟨⟨0⟩, some storageBound, none, false⟩
      (.operation (.createRegulation 1 ⟨"s", none, none, 1, none, 0⟩))
      (.fault .integerBeyondStorage) := by
  have hfault : (((Operation.createRegulation 1 ⟨"s", none, none, 1, none, 0⟩).run
        ⟨⟨0⟩, some storageBound, none, false⟩).perform
      (sample.run (.ofDatabase "sqlite") [Arrival.creation.step]).2.store).answer =
      .error .integerBeyondStorage := by
    decide +kernel
  have hcalls : ∀ p ∈ [Arrival.creation.step], p.2.IsCall := fun p hp => by
    obtain rfl := List.mem_singleton.1 hp
    trivial
  exact ⟨Store.initial_sample, hfault,
    (failures_leave_no_trace (w := sample) Store.initial_sample hcalls).1 _ _ _ hfault⟩

end World

end ComplianceRegistry
