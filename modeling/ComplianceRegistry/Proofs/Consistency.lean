import ComplianceRegistry.Proofs.Trail

/-!
# The constraints of the tables

Each table has its keys, and rows refer to rows of other tables. A write that is accepted keeps
these constraints, whatever it writes; so does the removal of a regulation with its statuses, and
so does the trail.

## Main definitions

* `Store.Consistent` — the constraints hold

## Main results

* `Consistent.insert`, `Consistent.replace`, `Consistent.move` — writes keep the constraints
* `Consistent.dropRegulation`, `Consistent.dropStatuses`, `Consistent.remove` — removals keep them
* `Consistent.logged` — the trail keeps them
-/

namespace ComplianceRegistry.Store

/-- The constraints of the tables: keys are not shared, and the rows that are referred to exist. -/
structure Consistent (s : Store) : Prop where
  typeIds : (s.types.map (·.id)).Nodup
  typeNames : (s.types.map (·.name)).Nodup
  projectIds : (s.projects.map (·.id)).Nodup
  projectNames : (s.projects.map (·.name)).Nodup
  versionIds : (s.versions.map (·.id)).Nodup
  catalogIds : (s.versions.map (·.catalogId)).Nodup
  regulationIds : (s.regulations.map (·.id)).Nodup
  regulationNames : (s.regulations.map fun r => (r.projectId, r.name)).Nodup
  statusIds : (s.statuses.map (·.id)).Nodup
  statusPairs : (s.statuses.map fun st => (st.regulationId, st.versionId)).Nodup
  auditIds : (s.audit.map (·.id)).Nodup
  versionProjects : ∀ v ∈ s.versions, v.projectId ∈ s.projects.map (·.id)
  regulationTypes : ∀ r ∈ s.regulations, r.typeId ∈ s.types.map (·.id)
  regulationProjects : ∀ r ∈ s.regulations, r.projectId ∈ s.projects.map (·.id)
  statusRegulations : ∀ st ∈ s.statuses, st.regulationId ∈ s.regulations.map (·.id)
  statusVersions : ∀ st ∈ s.statuses, st.versionId ∈ s.versions.map (·.id)

namespace Consistent

variable {s after : Store} {row : Row}

/-! ### Rows added -/

/-- A row whose id is not in use has an id of its own. -/
private theorem id_ne_of_row?_eq_none {r : Row} (h : s.row? row.table row.id = none)
    (hr : r ∈ s.unsortedRows row.table) : r.id ≠ row.id :=
  findById_eq_none h r hr

/-- An accepted row keeps the constraints. -/
theorem insert (h : s.Consistent) (hwrite : s.insert row = .ok after) : after.Consistent := by
  obtain ⟨-, hnone, hadmits, rfl⟩ := insert_eq_ok hwrite
  have hid := fun r hr => id_ne_of_row?_eq_none (r := r) hnone hr
  -- A new row extends the keys of its table, and references to the table stay good. What the row
  -- itself refers to is there because the row was admitted.
  cases row with
  | project p =>
    have hne : ∀ q ∈ s.projects, q.id ≠ p.id := fun q hq =>
      hid (.project q) (List.mem_map_of_mem hq)
    exact
      { h with
        projectIds := nodup_map_append_singleton h.projectIds hne
        projectNames := nodup_map_append_singleton h.projectNames fun q hq =>
          hadmits q hq (hne q hq)
        versionProjects := fun v hv => mem_map_append (h.versionProjects v hv)
        regulationProjects := fun r hr => mem_map_append (h.regulationProjects r hr) }
  | version v =>
    have hne : ∀ w ∈ s.versions, w.id ≠ v.id := fun w hw =>
      hid (.version w) (List.mem_map_of_mem hw)
    obtain ⟨hcatalog, hproject⟩ := hadmits
    exact
      { h with
        versionIds := nodup_map_append_singleton h.versionIds hne
        catalogIds := nodup_map_append_singleton h.catalogIds fun w hw => hcatalog w hw (hne w hw)
        versionProjects := forall_mem_append h.versionProjects (List.mem_map.2 hproject)
        statusVersions := fun st hst => mem_map_append (h.statusVersions st hst) }
  | type t =>
    have hne : ∀ u ∈ s.types, u.id ≠ t.id := fun u hu => hid (.type u) (List.mem_map_of_mem hu)
    exact
      { h with
        typeIds := nodup_map_append_singleton h.typeIds hne
        typeNames := nodup_map_append_singleton h.typeNames fun u hu => hadmits u hu (hne u hu)
        regulationTypes := fun r hr => mem_map_append (h.regulationTypes r hr) }
  | regulation r =>
    have hne : ∀ g ∈ s.regulations, g.id ≠ r.id := fun g hg =>
      hid (.regulation g) (List.mem_map_of_mem hg)
    obtain ⟨hname, htype, hproject⟩ := hadmits
    exact
      { h with
        regulationIds := nodup_map_append_singleton h.regulationIds hne
        regulationNames := nodup_map_append_singleton h.regulationNames fun g hg hkey =>
          hname g hg (hne g hg) (Prod.mk.inj hkey)
        regulationTypes := forall_mem_append h.regulationTypes (List.mem_map.2 htype)
        regulationProjects :=
          forall_mem_append h.regulationProjects (List.mem_map.2 hproject)
        statusRegulations := fun st hst => mem_map_append (h.statusRegulations st hst) }
  | status st =>
    have hne : ∀ u ∈ s.statuses, u.id ≠ st.id := fun u hu =>
      hid (.status u) (List.mem_map_of_mem hu)
    obtain ⟨hpair, hregulation, hversion⟩ := hadmits
    exact
      { h with
        statusIds := nodup_map_append_singleton h.statusIds hne
        statusPairs := nodup_map_append_singleton h.statusPairs fun u hu hkey =>
          hpair u hu (hne u hu) (Prod.mk.inj hkey)
        statusRegulations :=
          forall_mem_append h.statusRegulations (List.mem_map.2 hregulation)
        statusVersions := forall_mem_append h.statusVersions (List.mem_map.2 hversion) }
  | audit e =>
    have hne : ∀ f ∈ s.audit, f.id ≠ e.id := fun f hf => hid (.audit f) (List.mem_map_of_mem hf)
    exact { h with auditIds := nodup_map_append_singleton h.auditIds hne }

/-! ### Rows replaced -/

/-- An accepted row in the place of the one with its id keeps the constraints. -/
theorem replace (h : s.Consistent) (hwrite : s.replace row = .ok after) : after.Consistent := by
  obtain ⟨-, hadmits, rfl⟩ := replace_eq_ok hwrite
  -- The ids of the table are the same as before, so that references to it stay good.
  cases row with
  | project p =>
    have hids : (putById (·.id) p s.projects).map (·.id) = s.projects.map (·.id) := map_id_putById
    exact
      { h with
        projectIds := hids ▸ h.projectIds
        projectNames := nodup_map_putById h.projectIds h.projectNames hadmits
        versionProjects := fun v hv => hids ▸ h.versionProjects v hv
        regulationProjects := fun r hr => hids ▸ h.regulationProjects r hr }
  | version v =>
    have hids : (putById (·.id) v s.versions).map (·.id) = s.versions.map (·.id) := map_id_putById
    obtain ⟨hcatalog, hproject⟩ := hadmits
    exact
      { h with
        versionIds := hids ▸ h.versionIds
        catalogIds := nodup_map_putById h.versionIds h.catalogIds hcatalog
        versionProjects := forall_mem_putById h.versionProjects (List.mem_map.2 hproject)
        statusVersions := fun st hst => hids ▸ h.statusVersions st hst }
  | type t =>
    have hids : (putById (·.id) t s.types).map (·.id) = s.types.map (·.id) := map_id_putById
    exact
      { h with
        typeIds := hids ▸ h.typeIds
        typeNames := nodup_map_putById h.typeIds h.typeNames hadmits
        regulationTypes := fun r hr => hids ▸ h.regulationTypes r hr }
  | regulation r =>
    have hids : (putById (·.id) r s.regulations).map (·.id) = s.regulations.map (·.id) :=
      map_id_putById
    obtain ⟨hname, htype, hproject⟩ := hadmits
    exact
      { h with
        regulationIds := hids ▸ h.regulationIds
        regulationNames := nodup_map_putById h.regulationIds h.regulationNames
          fun g hg hid hkey => hname g hg hid (Prod.mk.inj hkey)
        regulationTypes := forall_mem_putById h.regulationTypes (List.mem_map.2 htype)
        regulationProjects :=
          forall_mem_putById h.regulationProjects (List.mem_map.2 hproject)
        statusRegulations := fun st hst => hids ▸ h.statusRegulations st hst }
  | status st =>
    have hids : (putById (·.id) st s.statuses).map (·.id) = s.statuses.map (·.id) := map_id_putById
    obtain ⟨hpair, hregulation, hversion⟩ := hadmits
    exact
      { h with
        statusIds := hids ▸ h.statusIds
        statusPairs := nodup_map_putById h.statusIds h.statusPairs
          fun u hu hid hkey => hpair u hu hid (Prod.mk.inj hkey)
        statusRegulations :=
          forall_mem_putById h.statusRegulations (List.mem_map.2 hregulation)
        statusVersions := forall_mem_putById h.statusVersions (List.mem_map.2 hversion) }
  | audit e =>
    have hids : (putById (·.id) e s.audit).map (·.id) = s.audit.map (·.id) := map_id_putById
    exact { h with auditIds := hids ▸ h.auditIds }

/-! ### Rows removed -/

theorem dropStatuses (h : s.Consistent) (p : Status → Bool) : (s.dropStatuses p).Consistent :=
  { h with
    statusIds := nodup_map_filter h.statusIds
    statusPairs := nodup_map_filter h.statusPairs
    statusRegulations := fun st hst => h.statusRegulations st (List.mem_of_mem_filter hst)
    statusVersions := fun st hst => h.statusVersions st (List.mem_of_mem_filter hst) }

/-- No status is left of a regulation that is removed, so that none refers to it. -/
theorem dropRegulation (h : s.Consistent) (id : Int) : (s.dropRegulation id).Consistent := by
  have hdrop := h.dropStatuses fun st => st.regulationId = id
  refine
    { hdrop with
      regulationIds := nodup_map_filter h.regulationIds
      regulationNames := nodup_map_filter h.regulationNames
      regulationTypes := fun r hr => h.regulationTypes r (List.mem_of_mem_filter hr)
      regulationProjects := fun r hr => h.regulationProjects r (List.mem_of_mem_filter hr)
      statusRegulations := fun st hst => ?_ }
  -- a status that is left is of another regulation, and that one is left too
  obtain ⟨hst, hother⟩ := List.mem_filter.1 hst
  obtain ⟨r, hr, hid⟩ := List.mem_map.1 (h.statusRegulations st hst)
  have hne : r.id ≠ id := by
    rintro rfl
    simp [hid] at hother
  exact List.mem_map.2 ⟨r, List.mem_filter.2 ⟨hr, by simpa using hne⟩, hid⟩

/-- No status is left of a version that is removed, so that none refers to it. -/
theorem dropVersion (h : s.Consistent) (id : Int) : (s.dropVersion id).Consistent := by
  have hdrop := h.dropStatuses fun st => st.versionId = id
  refine
    { hdrop with
      versionIds := nodup_map_filter h.versionIds
      catalogIds := nodup_map_filter h.catalogIds
      versionProjects := fun v hv => h.versionProjects v (List.mem_of_mem_filter hv)
      statusVersions := fun st hst => ?_ }
  obtain ⟨hst, hother⟩ := List.mem_filter.1 hst
  exact mem_map_filter_ne (h.statusVersions st hst) (by simpa using hother)

/-- A row to which no other refers may go by itself. -/
theorem lift {t : Table} {id : Int} (h : s.Consistent) (hfree : ¬ s.IsReferred id t) :
    (s.lift id t).Consistent := by
  cases t with
  | projects =>
    obtain ⟨hversions, hregulations⟩ := not_or.1 hfree
    exact
      { h with
        projectIds := nodup_map_filter h.projectIds
        projectNames := nodup_map_filter h.projectNames
        versionProjects := fun v hv =>
          mem_map_filter_ne (h.versionProjects v hv) fun hid => hversions ⟨v, hv, hid⟩
        regulationProjects := fun r hr =>
          mem_map_filter_ne (h.regulationProjects r hr) fun hid => hregulations ⟨r, hr, hid⟩ }
  | versions =>
    exact
      { h with
        versionIds := nodup_map_filter h.versionIds
        catalogIds := nodup_map_filter h.catalogIds
        versionProjects := fun v hv => h.versionProjects v (List.mem_of_mem_filter hv)
        statusVersions := fun st hst =>
          mem_map_filter_ne (h.statusVersions st hst) fun hid => hfree ⟨st, hst, hid⟩ }
  | types =>
    exact
      { h with
        typeIds := nodup_map_filter h.typeIds
        typeNames := nodup_map_filter h.typeNames
        regulationTypes := fun r hr =>
          mem_map_filter_ne (h.regulationTypes r hr) fun hid => hfree ⟨r, hr, hid⟩ }
  | regulations =>
    exact
      { h with
        regulationIds := nodup_map_filter h.regulationIds
        regulationNames := nodup_map_filter h.regulationNames
        regulationTypes := fun r hr => h.regulationTypes r (List.mem_of_mem_filter hr)
        regulationProjects := fun r hr => h.regulationProjects r (List.mem_of_mem_filter hr)
        statusRegulations := fun st hst =>
          mem_map_filter_ne (h.statusRegulations st hst) fun hid => hfree ⟨st, hst, hid⟩ }
  | statuses =>
    exact
      { h with
        statusIds := nodup_map_filter h.statusIds
        statusPairs := nodup_map_filter h.statusPairs
        statusRegulations := fun st hst => h.statusRegulations st (List.mem_of_mem_filter hst)
        statusVersions := fun st hst => h.statusVersions st (List.mem_of_mem_filter hst) }
  | audit => exact { h with auditIds := nodup_map_filter h.auditIds }

/-- Versions that are removed one after the other. -/
private theorem foldl_dropVersion (ids : List Int) (h : s.Consistent) :
    (ids.foldl Store.dropVersion s).Consistent ∧
      (ids.foldl Store.dropVersion s).projects = s.projects ∧
      (ids.foldl Store.dropVersion s).regulations = s.regulations ∧
      ∀ v ∈ (ids.foldl Store.dropVersion s).versions, v ∈ s.versions ∧ v.id ∉ ids := by
  induction ids generalizing s with
  | nil => exact ⟨h, rfl, rfl, by simp⟩
  | cons id ids ih =>
    obtain ⟨hrest, hprojects, hregulations, hversions⟩ := ih (h.dropVersion id)
    refine ⟨hrest, hprojects, hregulations, fun v hv => ?_⟩
    obtain ⟨hmem, hnot⟩ := hversions v hv
    obtain ⟨hmem, hne⟩ := List.mem_filter.1 hmem
    exact ⟨hmem, by simpa [hnot] using hne⟩

/-- Regulations that are removed one after the other. -/
private theorem foldl_dropRegulation (ids : List Int) (h : s.Consistent) :
    (ids.foldl Store.dropRegulation s).Consistent ∧
      (ids.foldl Store.dropRegulation s).projects = s.projects ∧
      (ids.foldl Store.dropRegulation s).versions = s.versions ∧
      ∀ r ∈ (ids.foldl Store.dropRegulation s).regulations, r ∈ s.regulations ∧ r.id ∉ ids := by
  induction ids generalizing s with
  | nil => exact ⟨h, rfl, rfl, by simp⟩
  | cons id ids ih =>
    obtain ⟨hrest, hprojects, hversions, hregulations⟩ := ih (h.dropRegulation id)
    refine ⟨hrest, hprojects, hversions, fun r hr => ?_⟩
    obtain ⟨hmem, hnot⟩ := hregulations r hr
    obtain ⟨hmem, hne⟩ := List.mem_filter.1 hmem
    exact ⟨hmem, by simpa [hnot] using hne⟩

/-- All that belongs to a project goes before it, so that nothing refers to it any more. -/
theorem dropProject (h : s.Consistent) (id : Int) : (s.dropProject id).Consistent := by
  set versions := (s.versions.filter fun v => v.projectId = id).map (·.id) with hversionIds
  set regulations := (s.regulations.filter fun g => g.projectId = id).map (·.id) with hregulationIds
  obtain ⟨hfirst, hprojects, hkept, hversions⟩ := foldl_dropVersion versions h
  obtain ⟨hbare, hprojects', hkept', hregulations⟩ :=
    foldl_dropRegulation regulations hfirst
  have hfree : ¬ IsReferred (regulations.foldl Store.dropRegulation
      (versions.foldl Store.dropVersion s)) id .projects := by
    rintro (⟨v, hv, hproject⟩ | ⟨r, hr, hproject⟩)
    · obtain ⟨hv, hnot⟩ := hversions v (hkept' ▸ hv)
      refine hnot (hversionIds ▸ List.mem_map_of_mem (List.mem_filter.2 ⟨hv, ?_⟩))
      simpa using hproject
    · obtain ⟨hr, hnot⟩ := hregulations r hr
      refine hnot (hregulationIds ▸ List.mem_map_of_mem (List.mem_filter.2 ⟨hkept ▸ hr, ?_⟩))
      simpa using hproject
  have hlift := hbare.lift hfree
  rwa [Store.lift, hprojects', hprojects] at hlift

/-- Accepted removals keep the constraints. -/
theorem remove {t : Table} {id : Int} (h : s.Consistent) (hwrite : s.remove t id = .ok after) :
    after.Consistent := by
  cases t with
  | projects => exact Except.ok.inj hwrite ▸ h.dropProject id
  | versions => exact Except.ok.inj hwrite ▸ h.dropVersion id
  | regulations => exact Except.ok.inj hwrite ▸ h.dropRegulation id
  | statuses => exact Except.ok.inj hwrite ▸ h.dropStatuses _
  | audit => exact Except.ok.inj hwrite ▸ h.lift (t := .audit) (by simp [IsReferred])
  | types =>
    unfold Store.remove at hwrite
    dsimp only at hwrite
    split at hwrite
    · cases hwrite
    · next hfree =>
      refine Except.ok.inj hwrite ▸ h.lift (t := .types) ?_
      simpa [IsReferred] using hfree

/-- A row that takes another id is lifted out, which it may be unless others refer to it. -/
theorem move {id : Int} (h : s.Consistent) (hwrite : s.move id row = .ok after) :
    after.Consistent := by
  unfold Store.move at hwrite
  split at hwrite
  · exact h.replace hwrite
  · obtain ⟨_, -, hwrite⟩ := bind_eq_ok.1 hwrite
    split at hwrite
    · cases hwrite
    · next hfree => exact (h.lift hfree).insert hwrite

/-! ### Entries of the trail -/

theorem logged {ctx : Context} {notes : List Trail.Note} (h : s.Consistent) :
    (Trail.logged ctx notes s).Consistent :=
  { h with auditIds := Trail.nodup_logged_ids h.auditIds }

end Consistent

end ComplianceRegistry.Store
