import ComplianceRegistry.Proofs.Lookup
import ComplianceRegistry.Proofs.Session

/-!
# What the writes to regulations come to

A write to a regulation either fails and leaves no trace, or all of its steps succeed. What it then
found and what it left in the store is told in full. Nothing can fail once the write is committed:
the row that is read back is the one that was written, and its type is still there.

## Main definitions

* `Regulations.Created`, `Regulations.Updated`, `Regulations.Deleted` — the writes when they succeed

## Main results

* `Regulations.create_leads`, `Regulations.update_leads`, `Regulations.delete_leads` — the writes
  come to that or leave no trace
-/

namespace ComplianceRegistry.Regulations

open Work

variable {ctx : Context} {s after : Store} {project id : Int} {address : Address}
variable {draft : Draft} {patch : Patch} {before row : Regulation} {view : RegulationView}
variable {σ : Session}

/-! ### Parts of the writes -/

/-- A commit under a name succeeds together with what is written. -/
theorem commitNaming_leads {name : Text} {writing : Work Unit} {Q : Unit → Session → Prop}
    (h : writing.Leads σ fun _ τ => Q () { τ with committed := τ.working }) :
    (commitNaming name project writing).Leads σ Q := by
  refine Leads.rescue (Leads.bind_yields (h.mono fun _ _ => Yields.of_commit)) fun f τ hkeeps => ?_
  -- a violated constraint is rolled back and told as a clash, all other faults pass through
  cases f with
  | constraintViolated => exact ⟨_, _, rfl, hkeeps⟩
  | _ => exact ⟨_, _, rfl, hkeeps⟩

theorem rereadAndAnnounce_yields {kind : ChangeKind} {Q : RegulationView → Session → Prop}
    (hreread : reread σ.working id = .ok view)
    (hQ : Q view { σ with announced := σ.announced ++ [announcement ctx kind view.regulation] }) :
    (rereadAndAnnounce ctx kind id).Yields σ Q :=
  Yields.bind (Yields.of_query hreread (Yields.bind (Yields.of_announce (Yields.of_pure hQ))))

/-- A row that is found by its id, and whose type was found before, is read again. -/
theorem reread_eq {type : RegulationType} {typeId : Int}
    (hrow : findById (·.id) id after.regulations = some row)
    (htype : Catalog.find s typeId = .ok type) (hid : row.typeId = type.id)
    (htypes : after.types = s.types) : reread after id = .ok ⟨row, type⟩ := by
  simp only [reread, hrow, view, hid, Catalog.find_again htype htypes]
  rfl

/-! ### Creating -/

/-- A regulation was added to a project. -/
structure Created (ctx : Context) (s : Store) (project : Int) (draft : Draft)
    (view : RegulationView) (after : Store) : Prop where
  type_found : Catalog.find s draft.typeId = .ok view.type
  project_found : requireProject s project = .ok ()
  config_settled : Config.settle view.type.name draft.config = .ok view.regulation.config
  name_free : ensureNameFree ctx s project draft.name = .ok ()
  row_eq : view.regulation = fresh ctx project draft (nextId (s.regulations.map (·.id))) view.type
    view.regulation.config
  written : s.insert (.regulation view.regulation) = .ok (s.push (.regulation view.regulation))
  after_eq : after = Trail.logged ctx [.row .regulations .create view.regulation.id]
    (s.push (.regulation view.regulation))

theorem Created.regulations_eq (h : Created ctx s project draft view after) :
    after.regulations = s.regulations ++ [view.regulation] :=
  h.after_eq ▸ rfl

theorem Created.statuses_eq (h : Created ctx s project draft view after) :
    after.statuses = s.statuses :=
  h.after_eq ▸ rfl

/-- The id of a new regulation is not in use. -/
theorem Created.id_notMem (h : Created ctx s project draft view after) :
    view.regulation.id ∉ s.regulations.map (·.id) := by
  intro hmem
  have hid : view.regulation.id = nextId (s.regulations.map (·.id)) := by rw [h.row_eq]; rfl
  exact absurd (lt_nextId hmem) (by omega)

/-- Once the checks of a creation pass, its row is committed and then read back without fail. -/
theorem insertion_leads {type : RegulationType} {config : Option Text}
    (htype : Catalog.find s draft.typeId = .ok type)
    (hproject : requireProject s project = .ok ())
    (hconfig : Config.settle type.name draft.config = .ok config)
    (hname : ensureNameFree ctx s project draft.name = .ok ())
    (hid : nextId (s.regulations.map (·.id)) = id) :
    (commitNaming draft.name project do
        write (·.insert (.regulation (fresh ctx project draft id type config)))
        write (Trail.record ctx · [.row .regulations .create id])).Leads (.start s) fun _ τ =>
      (rereadAndAnnounce ctx .created id).Yields τ fun view ρ =>
        Created ctx s project draft view ρ.committed ∧
          ρ.announced = [announcement ctx .created view.regulation] := by
  subst hid
  -- the id that was asked for is still the next one when the row is written
  set row := fresh ctx project draft (nextId (s.regulations.map (·.id))) type config with hrow
  refine commitNaming_leads (Leads.write_bind fun grown hinsert => ?_)
  obtain ⟨-, -, -, rfl⟩ := Store.insert_eq_ok hinsert
  refine Leads.of_write fun after hrecord => ?_
  obtain rfl := Trail.record_eq_ok hrecord
  -- so the row is the one that is found by it
  have hfound : findById (·.id) row.id (s.regulations ++ [row]) = some row :=
    findById_append_nextId rfl
  refine rereadAndAnnounce_yields (reread_eq hfound htype rfl rfl) ⟨?_, rfl⟩
  exact
    { type_found := htype
      project_found := hproject
      config_settled := hconfig
      name_free := hname
      row_eq := rfl
      written := hinsert
      after_eq := rfl }

theorem create_leads : (create ctx project draft).Leads (.start s) fun view τ =>
    Created ctx s project draft view τ.committed ∧
      τ.announced = [announcement ctx .created view.regulation] := by
  refine Leads.query_bind fun _ htype => ?_
  refine Leads.query_bind fun _ hproject => ?_
  refine Leads.lift_bind fun _ hconfig => ?_
  refine Leads.query_bind fun _ hname => ?_
  refine Leads.query_bind fun _ hid => ?_
  exact Leads.bind_yields (insertion_leads htype hproject hconfig hname (Except.ok.inj hid))

/-! ### Updating -/

/-- The trail gets a note at most for each column. -/
theorem length_updateNotes_le : (updateNotes before row).length ≤ 10 :=
  (List.length_filterMap_le ..).trans (by simp [Regulation.columns])

theorem entityId_of_mem_updateNotes {n : Trail.Note} (h : n ∈ updateNotes before row) :
    n.entityId = before.id := by
  obtain ⟨⟨b, a⟩, -, hnote⟩ := List.mem_filterMap.1 h
  dsimp only at hnote
  split at hnote
  · cases hnote
  · exact Option.some.inj hnote ▸ rfl

/-- A regulation was given the patched columns, if these are not the ones it has. -/
inductive Rewritten (ctx : Context) (s : Store) (before patched : Regulation) :
    Regulation → Store → Prop
  | unchanged (heq : patched = before) : Rewritten ctx s before patched before s
  | changed {row : Regulation} (hne : patched ≠ before)
      (hrow : row = { patched with updatedAt := ctx.clock })
      (hwritten : s.replace (.regulation row) = .ok (s.put (.regulation row))) :
      Rewritten ctx s before patched row
        (Trail.logged ctx (updateNotes before row) (s.put (.regulation row)))

theorem writeChanges_leads {patched : Regulation} {Q : Unit → Session → Prop}
    (h : ∀ row after, Rewritten ctx σ.working before patched row after →
      Q () { σ with working := after }) :
    (writeChanges ctx before patched).Leads σ Q := by
  unfold writeChanges
  split
  · next hne =>
    refine Leads.write_bind fun replaced hreplace => Leads.of_write fun after hrecord => ?_
    obtain ⟨-, -, rfl⟩ := Store.replace_eq_ok hreplace
    obtain rfl := Trail.record_eq_ok hrecord
    exact h _ _ (.changed hne rfl hreplace)
  · next heq => exact Leads.of_pure (h _ _ (.unchanged (not_not.1 heq)))

namespace Rewritten

variable {patched : Regulation}

theorem types_eq (h : Rewritten ctx s before patched row after) : after.types = s.types := by
  cases h <;> rfl

theorem statuses_eq (h : Rewritten ctx s before patched row after) :
    after.statuses = s.statuses := by
  cases h <;> rfl

/-- What the patch leaves alone and the clock does not touch is as it is patched. -/
theorem row_eq (h : Rewritten ctx s before patched row after) :
    row = { patched with updatedAt := row.updatedAt } := by
  cases h with
  | unchanged heq => simp [heq]
  | changed hne hrow hwritten => simp [hrow]

/-- The row is in the place of the regulation. -/
theorem regulations_eq (h : Rewritten ctx s before patched row after) (hs : s.Consistent)
    (hbefore : before ∈ s.regulations) :
    after.regulations = Store.putById (·.id) row s.regulations := by
  cases h with
  | unchanged heq => exact (putById_of_mem hs.regulationIds hbefore).symm
  | changed hne hrow hwritten => rfl

/-- The row is found by the id of the regulation. -/
theorem findById_eq (h : Rewritten ctx s before patched row after) (hs : s.Consistent)
    (hbefore : before ∈ s.regulations) (hid : patched.id = before.id) :
    findById (·.id) before.id after.regulations = some row := by
  have hrowid : before.id = row.id := by rw [h.row_eq, ← hid]
  rw [h.regulations_eq hs hbefore, hrowid]
  exact findById_putById ⟨before, hbefore, hrowid⟩

end Rewritten

/-- A regulation was changed, or found to be as it was asked to be. -/
structure Updated (ctx : Context) (s : Store) (project : Int) (address : Address) (patch : Patch)
    (before : Regulation) (view : RegulationView) (after : Store) : Prop where
  found : find s project address = .ok before
  type_found : Catalog.find s (patch.typeId.getD before.typeId) = .ok view.type
  renamable : ensureRenamable ctx s project before (patch.name.getD before.name) = .ok ()
  config_settled : Config.settle view.type.name (patch.config.getD before.config) =
    .ok view.regulation.config
  rewritten : Rewritten ctx s before (patched before patch view.type view.regulation.config)
    view.regulation after

namespace Updated

variable (h : Updated ctx s project address patch before view after)

include h

theorem before_mem : before ∈ s.regulations := (mem_of_find_eq_ok h.found).1

/-- The update keeps the id, the project and the time of creation. -/
theorem life_eq : view.regulation.id = before.id ∧ view.regulation.projectId = before.projectId ∧
    view.regulation.createdAt = before.createdAt := by
  rw [h.rewritten.row_eq]
  exact ⟨rfl, rfl, rfl⟩

theorem name_eq : view.regulation.name = patch.name.getD before.name := by
  rw [h.rewritten.row_eq]
  rfl

theorem typeId_eq : view.regulation.typeId = view.type.id := by
  rw [h.rewritten.row_eq]
  rfl

theorem regulations_eq (hs : s.Consistent) :
    after.regulations = Store.putById (·.id) view.regulation s.regulations :=
  h.rewritten.regulations_eq hs h.before_mem

end Updated

/-- Once the checks of an update pass, its row is committed and then read back without fail. -/
theorem rewriting_leads {type : RegulationType} {config : Option Text} (hs : s.Consistent)
    (hbefore : find s project address = .ok before)
    (htype : Catalog.find s (patch.typeId.getD before.typeId) = .ok type)
    (hname : ensureRenamable ctx s project before (patch.name.getD before.name) = .ok ())
    (hconfig : Config.settle type.name (patch.config.getD before.config) = .ok config) :
    (commitNaming (patched before patch type config).name project
        (writeChanges ctx before (patched before patch type config))).Leads (.start s) fun _ τ =>
      (rereadAndAnnounce ctx .updated before.id).Yields τ fun view ρ =>
        (∃ before, Updated ctx s project address patch before view ρ.committed) ∧
          ρ.announced = [announcement ctx .updated view.regulation] := by
  refine commitNaming_leads (writeChanges_leads fun row after hrewritten => ?_)
  have hfound : findById (·.id) before.id after.regulations = some row :=
    hrewritten.findById_eq hs (mem_of_find_eq_ok hbefore).1 rfl
  -- the row keeps the settled config and the type that was found, whether it was written or not
  have hrow := hrewritten.row_eq
  have htypeId : row.typeId = type.id := by rw [hrow]; rfl
  have hkept : row.config = config := by rw [hrow]; rfl
  refine rereadAndAnnounce_yields (reread_eq hfound htype htypeId hrewritten.types_eq) ⟨?_, rfl⟩
  exact ⟨before,
    { found := hbefore
      type_found := htype
      renamable := hname
      config_settled := hkept ▸ hconfig
      rewritten := hkept ▸ hrewritten }⟩

theorem update_leads (hs : s.Consistent) :
    (update ctx project address patch).Leads (.start s) fun view τ =>
      (∃ before, Updated ctx s project address patch before view τ.committed) ∧
        τ.announced = [announcement ctx .updated view.regulation] := by
  refine Leads.query_bind fun _ hbefore => ?_
  refine Leads.query_bind fun _ htype => ?_
  refine Leads.query_bind fun _ hname => ?_
  refine Leads.lift_bind fun _ hconfig => ?_
  exact Leads.bind_yields (rewriting_leads hs hbefore htype hname hconfig)

/-! ### Deleting -/

/-- A regulation was deleted together with its statuses. -/
structure Deleted (ctx : Context) (s : Store) (project : Int) (address : Address)
    (view : RegulationView) (after : Store) : Prop where
  found : find s project address = .ok view.regulation
  type_found : Catalog.find s view.regulation.typeId = .ok view.type
  after_eq : after = Trail.logged ctx [.row .regulations .delete view.regulation.id]
    (s.dropRegulation view.regulation.id)

theorem Deleted.regulations_eq (h : Deleted ctx s project address view after) :
    after.regulations = s.regulations.filter fun r => r.id ≠ view.regulation.id :=
  h.after_eq ▸ rfl

/-- The regulation has no statuses any more; those of all others stay. -/
theorem Deleted.statusesAt_eq {regulationId versionId : Int}
    (h : Deleted ctx s project address view after) :
    after.statusesAt regulationId versionId =
      if regulationId = view.regulation.id then [] else s.statusesAt regulationId versionId := by
  rw [h.after_eq]
  change ((s.statuses.filter _).filter _) = _
  rw [List.filter_filter]
  split
  · next hid =>
    refine List.filter_eq_nil_iff.2 fun st _ => ?_
    simp only [Bool.and_eq_true, decide_eq_true_eq, Bool.not_eq_true', decide_eq_false_iff_not,
      hid]
    exact fun ⟨hkeys, hgone⟩ => hgone hkeys.1
  · next hid =>
    refine List.filter_congr fun st _ => ?_
    by_cases hkeys : st.regulationId = regulationId
    · simp [hkeys, hid]
    · simp [hkeys]

theorem delete_leads : (delete ctx project address).Leads (.start s) fun view τ =>
    Deleted ctx s project address view τ.committed ∧
      τ.announced = [announcement ctx .deleted view.regulation] := by
  refine Leads.query_bind fun row hrow => ?_
  refine Leads.query_bind fun shown hshown => ?_
  obtain ⟨type, htype, hview⟩ := bind_eq_ok.1 hshown
  cases hview
  -- the statuses are dropped twice, by a statement of their own and together with the regulation
  refine Leads.write_bind fun bare hbare => ?_
  cases hbare
  refine Leads.write_bind fun dropped hdropped => ?_
  cases hdropped
  refine Leads.write_bind fun after hrecord => ?_
  obtain rfl := Trail.record_eq_ok hrecord
  refine Yields.leads (Yields.bind (Yields.of_commit ?_))
  refine Yields.bind (Yields.of_announce (Yields.of_pure ?_))
  exact ⟨⟨hrow, htype, congrArg (Trail.logged ctx _) Store.dropRegulation_dropStatuses⟩, rfl⟩

end ComplianceRegistry.Regulations
