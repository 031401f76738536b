import ComplianceRegistry.Proofs.Announcements
import ComplianceRegistry.Proofs.Faults
import ComplianceRegistry.Proofs.Steps

/-!
# Updates that are asked for again

An update leaves the regulation as its patch asks for it, so that the same patch finds nothing to
change in it: the name is the regulation's own, the config was kept for the type and is kept again,
and no column differs. So the same update again is carried out with the same answer, and nothing is
written. Only the announcement is made once more.

## Main results

* `Regulations.Updated.patched_eq` — the patch finds nothing more to change
* `Regulations.Updated.update_again` — the same update again changes nothing
* `World.updates_repeat` — so it is after every run, whenever the update is asked for again
-/

namespace ComplianceRegistry

open Work

variable {ctx ctx' : Context} {s after : Store} {project id : Int} {patch : Patch}
variable {before : Regulation} {view : RegulationView} {address : Address}

namespace Regulations

/-! ### What a patch leaves to be done -/

theorem find_byId_eq_ok {id : Int} (h : find s project (.byId id) = .ok before) :
    Storable id ∧ before.id = id := by
  have hmem : before ∈ s.regulationsAt project (.byId id) :=
    (find_eq_ok h).2 ▸ List.mem_singleton_self before
  obtain ⟨_, -, h⟩ := bind_eq_ok.1 h
  obtain ⟨_, hid, -⟩ := bind_eq_ok.1 h
  exact ⟨checkInteger_eq_ok.1 hid, (of_decide_eq_true (List.mem_filter.1 hmem).2).1⟩

/-- A regulation that keeps its name needs no free one. -/
theorem ensureRenamable_self : ensureRenamable ctx s project before before.name = .ok () :=
  if_neg (not_not.2 rfl)

/-- A regulation that is as it should be is not written. -/
theorem commitNaming_writeChanges_self {name : Text} {σ : Session} :
    commitNaming name project (writeChanges ctx before before) σ =
      (.ok (), { σ with committed := σ.working }) := by
  have hwriting : writeChanges ctx before before σ = (.ok (), σ) := by
    unfold writeChanges
    rw [if_neg (not_not.2 rfl)]
    rfl
  unfold commitNaming rescue
  rw [bind_apply_ok hwriting]
  rfl

namespace Updated

variable (h : Updated ctx s project address patch before view after)

include h

/-- The patch finds nothing more to change. -/
theorem patched_eq :
    patched view.regulation patch view.type view.regulation.config = view.regulation := by
  have hagain {α : Type} {o : Option α} {a : α} : o.getD (o.getD a) = o.getD a := by
    cases o <;> rfl
  -- the columns are those that the patch asked for, so that it asks for them again
  rw [h.rewritten.row_eq]
  simp only [patched, hagain]

/-- The name that the patch asks for is the regulation's own. -/
theorem name_again : patch.name.getD view.regulation.name = view.regulation.name :=
  congrArg Regulation.name h.patched_eq

/-- The type that the patch asks for is that of the regulation. -/
theorem find_type_again :
    Catalog.find after (patch.typeId.getD view.regulation.typeId) = .ok view.type := by
  have hsame : patch.typeId.getD view.regulation.typeId = view.type.id := by
    cases hpatched : patch.typeId with
    | none => exact h.typeId_eq
    | some typeId =>
      have hfound := h.type_found
      rw [hpatched] at hfound
      exact (Catalog.find_eq_ok hfound).2.symm
  rw [hsame]
  exact Catalog.find_again h.type_found h.rewritten.types_eq

/-- The config that was kept is kept again. -/
theorem settle_again :
    Config.settle view.type.name (patch.config.getD view.regulation.config) =
      .ok view.regulation.config := by
  have hsettled := h.config_settled
  cases hpatched : patch.config with
  | none => exact Config.settle_of_grammatical (Config.grammatical_of_settle hsettled)
  | some config =>
    rw [hpatched] at hsettled
    exact hsettled

/-- The regulation is found by its id, and it is the one that was updated. -/
theorem find_again {id : Int} (hs : s.Consistent) (hafter : after.Consistent)
    (hid : Storable id) (hbefore : before.id = id) :
    find after project (.byId id) = .ok view.regulation := by
  obtain ⟨hsame, hproject, -⟩ := h.life_eq
  have hown := (mem_of_find_eq_ok h.found).2
  have hstored := h.rewritten.findById_eq hs h.before_mem rfl
  refine find_of_mem hafter (find_eq_ok h.found).1 (checkInteger_eq_ok.2 hid) ?_
  refine List.mem_filter.2 ⟨(findById_eq_some hstored).1, ?_⟩
  simp [hsame, hbefore, hproject, hown]

/-- The same update again has the same answer and writes nothing. -/
theorem update_again {id : Int} (hs : s.Consistent) (hafter : after.Consistent)
    (hid : Storable id) (hbefore : before.id = id) :
    (update ctx' project (.byId id) patch).perform after =
      ⟨.ok view, after, [announcement ctx' .updated view.regulation]⟩ := by
  have hstored := h.rewritten.findById_eq hs h.before_mem rfl
  have hreread : reread after view.regulation.id = .ok view := by
    refine reread_eq ?_ h.type_found h.typeId_eq h.rewritten.types_eq
    rw [h.life_eq.1]
    exact hstored
  have hupdate : update ctx' project (.byId id) patch (.start after) =
      (.ok view, ⟨after, after, [announcement ctx' .updated view.regulation]⟩) := by
    refine (query_bind_ok (h.find_again hs hafter hid hbefore)).trans ?_
    refine (query_bind_ok h.find_type_again).trans ?_
    rw [h.name_again]
    refine (query_bind_ok ensureRenamable_self).trans ?_
    refine (lift_bind_ok h.settle_again).trans ?_
    rw [h.patched_eq]
    refine (bind_apply_ok commitNaming_writeChanges_self).trans ?_
    exact query_bind_ok hreread
  simp only [perform, hupdate]

end Updated

end Regulations

/-! ### Requests -/

/-- An update that is carried out answers with the regulation and announces it. -/
theorem Operation.Outcome.of_update {answer : Answer} {announcements : List Announcement}
    (h : Outcome ctx s (.updateRegulation project address patch) answer after announcements) :
    ∃ before view, answer = .regulation view ∧
      Regulations.Updated ctx s project address patch before view after ∧
      announcements = [Regulations.announcement ctx .updated view.regulation] := by
  cases h with
  | read h => exact h.elim
  | updated h => exact ⟨_, _, rfl, h, rfl⟩
  | upserted hpair hwrites h => cases hwrites

/-- An update by id that was carried out comes to the same answer again, in any context, and changes
nothing. -/
theorem Operation.run_update_again {answer : Answer} (hs : s.Sound) :
    let first := ((Operation.updateRegulation project (.byId id) patch).run ctx).perform s
    first.answer = .ok answer →
      ∃ row ∈ first.store.regulations, row.id = id ∧
        first.announcements = [Regulations.announcement ctx .updated row] ∧
        ∀ ctx', ((Operation.updateRegulation project (.byId id) patch).run ctx').perform
          first.store = ⟨first.answer, first.store,
            [Regulations.announcement ctx' .updated row]⟩ := by
  intro first hok
  have houtcome : Outcome ctx s _ answer first.store first.announcements :=
    outcome_of_perform hs.toConsistent hok
  have hafter : first.store.Consistent := (houtcome.sound hs).toConsistent
  obtain ⟨before, view, rfl, hupdated, hannounced⟩ := houtcome.of_update
  obtain ⟨hid, hbefore⟩ := Regulations.find_byId_eq_ok hupdated.found
  have hstored := hupdated.rewritten.findById_eq hs.toConsistent hupdated.before_mem rfl
  refine ⟨view.regulation, (findById_eq_some hstored).1, hupdated.life_eq.1.trans hbefore,
    hannounced, fun ctx' => ?_⟩
  rw [run, Work.perform_map, hupdated.update_again hs.toConsistent hafter hid hbefore, hok]
  rfl

/-- What is answered as a success was carried out. -/
theorem Server.ok_of_isSuccess {settings : Settings} {r : Request} {op : Operation}
    {result : Except Fault Answer} (h : (present settings r op result).isSuccess) :
    ∃ answer, result = .ok answer := by
  cases result with
  | ok answer => exact ⟨answer, rfl⟩
  | error f =>
    rw [isSuccess_present_error] at h
    cases h

namespace World

variable {settings : Settings} {w : World} {arrivals : List Arrival}

/-- After every run, let a request update a regulation by its id with success, and let the same
request arrive again right after it, at any time and whatever other writers do. Then it has the same
response and leaves all tables as they are, and the update is announced once more. -/
theorem updates_repeat (h : w.store.Initial) {a b : Arrival}
    (hop : Server.operationOf? settings a.request =
      some (.updateRegulation project (.byId id) patch))
    (hsuccess : (a.outcome settings (w.serve settings arrivals).store).answer.isSuccess)
    (hsame : b.request = a.request) :
    let first := a.outcome settings (w.serve settings arrivals).store
    ∃ row ∈ first.store.regulations, row.id = id ∧
      first.announcements = [Regulations.announcement a.context .updated row] ∧
      b.outcome settings first.store =
        ⟨first.answer, first.store, [Regulations.announcement b.context .updated row]⟩ := by
  intro first
  have hfirst : first = _ := Server.handle_of_operation hop
  have hsecond : b.outcome settings first.store = _ := Server.handle_of_operation (hsame ▸ hop)
  have hcarried : first.answer.isSuccess := hsuccess
  rw [hfirst] at hcarried
  obtain ⟨answer, hok⟩ := Server.ok_of_isSuccess hcarried
  obtain ⟨row, hrow, hid, hannounced, hagain⟩ :=
    Operation.run_update_again (kept_serve h).toSound hok
  refine ⟨row, hfirst ▸ hrow, hid, hfirst ▸ hannounced, hsecond.trans ?_⟩
  rw [hfirst, hsame]
  exact congrArg (Written.map _) (hagain (Server.contextOf b.context a.request))

/-- A regulation gets a new name, and the same request asks for it again while another writer is at
work. -/
theorem updates_repeat_renaming :
    let settings : Settings := .ofDatabase "sqlite"
    let s := (sample.serve settings [.creation]).store
    let a : Arrival := .plain "PUT" "/api/v1/projects/1/regulations/1" "\x7b\"name\": \"q\"\x7d"
    let b : Arrival := { a with context := ⟨⟨5⟩, none, none, true⟩ }
    let first := a.outcome settings s
    sample.store.Initial ∧
      Server.operationOf? settings a.request =
        some (.updateRegulation 1 (.byId 1) ⟨some "q", none, none, none, none, none⟩) ∧
      first.answer.isSuccess ∧ b.request = a.request ∧
      b.outcome settings first.store =
        ⟨first.answer, first.store, [⟨.updated, 1, "q", ⟨5⟩⟩]⟩ := by
  intro settings s a b first
  have hop : Server.operationOf? settings a.request =
      some (.updateRegulation 1 (.byId 1) ⟨some "q", none, none, none, none, none⟩) := by
    decide +kernel
  have hsuccess : first.answer.isSuccess := by decide +kernel
  obtain ⟨row, hrow, -, -, hagain⟩ :=
    updates_repeat (w := sample) (b := b) Store.initial_sample hop hsuccess rfl
  have hregulations : first.store.regulations =
      [⟨1, "q", none, none, none, 0, 1, 1, ⟨0⟩, ⟨0⟩⟩] := by
    decide +kernel
  rw [hregulations, List.mem_singleton] at hrow
  subst hrow
  exact ⟨Store.initial_sample, hop, hsuccess, rfl, hagain⟩

end World

end ComplianceRegistry
