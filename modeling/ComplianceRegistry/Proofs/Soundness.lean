import ComplianceRegistry.Proofs.Statuses

/-!
# What the registry keeps

Two things hold of the store that its tables do not enforce. A status joins a regulation and a
version of the same project, because a write looks both up in one project and no write moves them.
And the config of a regulation has the grammar of its type, because every write that may change
either of them settles the config anew.

## Main definitions

* `Store.Joins` — the regulation and the version of a status are of one project
* `Store.Configures` — a regulation has a type, and the config has its grammar
* `Store.Sound` — the constraints of the tables and both of these

## Main results

* `Sound.created`, `Sound.updated`, `Sound.deleted`, `Sound.upserted`, `Sound.statusDeleted` — the
  writes keep it
-/

namespace ComplianceRegistry

namespace Store

/-- The regulation and the version of the status exist and are of one project. -/
def Joins (s : Store) (st : Status) : Prop :=
  ∃ r ∈ s.regulations, ∃ v ∈ s.versions,
    r.id = st.regulationId ∧ v.id = st.versionId ∧ r.projectId = v.projectId

/-- The type of the regulation exists, and the config has its grammar. -/
def Configures (s : Store) (r : Regulation) : Prop :=
  ∃ t ∈ s.types, t.id = r.typeId ∧ Config.Grammatical t.name r.config

/-- What the registry keeps of the store. -/
structure Sound (s : Store) : Prop extends Consistent s where
  joins : ∀ st ∈ s.statuses, s.Joins st
  configures : ∀ r ∈ s.regulations, s.Configures r

variable {ctx : Context} {s after : Store} {project regulation : Int} {address : Address}
variable {catalogId : Text} {draft : Draft} {patch : Patch} {before r : Regulation}
variable {view : RegulationView} {v : Version} {w : StatusWrite} {st row : Status}
variable {notes : List Trail.Note}

/-! ### Statuses and configs on their own -/

/-- A status stays joined while each regulation has one with its id in its project. -/
theorem Joins.mono (h : s.Joins st)
    (hregulations : ∀ r ∈ s.regulations, r.id = st.regulationId →
      ∃ g ∈ after.regulations, g.id = r.id ∧ g.projectId = r.projectId)
    (hversions : after.versions = s.versions) : after.Joins st := by
  obtain ⟨r, hr, v, hv, hrid, hvid, hproject⟩ := h
  obtain ⟨g, hg, hgid, hgproject⟩ := hregulations r hr hrid
  exact ⟨g, hg, v, hversions ▸ hv, hgid.trans hrid, hvid, hgproject.trans hproject⟩

theorem Configures.mono (h : s.Configures r) (htypes : s.types ⊆ after.types) :
    after.Configures r := by
  obtain ⟨t, ht, hid, hgrammar⟩ := h
  exact ⟨t, htypes ht, hid, hgrammar⟩

/-- A regulation whose config was settled for its type is configured. -/
theorem configures_of_settle {typeId : Int} {type : RegulationType} {config : Option Text}
    (htype : Catalog.find s typeId = .ok type) (hid : r.typeId = type.id)
    (hconfig : Config.settle type.name config = .ok r.config) : s.Configures r :=
  ⟨type, (Catalog.find_eq_ok htype).1, hid.symm, Config.grammatical_of_settle hconfig⟩

namespace Sound

theorem logged (h : s.Sound) : (Trail.logged ctx notes s).Sound :=
  { h.toConsistent.logged with
    joins := h.joins
    configures := h.configures }

theorem insert_type {t : RegulationType} (h : s.Sound) (hwrite : s.insert (.type t) = .ok after) :
    after.Sound := by
  obtain ⟨-, -, -, rfl⟩ := insert_eq_ok hwrite
  exact
    { h.toConsistent.insert hwrite with
      joins := h.joins
      configures := fun r hr => (h.configures r hr).mono (List.subset_append_left _ _) }

/-! ### Writes to regulations -/

theorem created (h : s.Sound) (hw : Regulations.Created ctx s project draft view after) :
    after.Sound := by
  have htypeId : view.regulation.typeId = view.type.id := by rw [hw.row_eq]; rfl
  rw [hw.after_eq]
  exact Sound.logged
    { h.toConsistent.insert hw.written with
      joins := fun st hst => (h.joins st hst).mono
        (fun r hr _ => ⟨r, List.mem_append_left _ hr, rfl, rfl⟩) rfl
      configures := forall_mem_append h.configures
        (configures_of_settle hw.type_found htypeId hw.config_settled) }

/-- A row that is put in place of a regulation keeps its project and is configured. -/
theorem rewritten {patched row : Regulation} (h : s.Sound)
    (hw : Regulations.Rewritten ctx s before patched row after) (hbefore : before ∈ s.regulations)
    (hid : patched.id = before.id) (hproject : patched.projectId = before.projectId)
    (hconfigures : s.Configures row) : after.Sound := by
  cases hw with
  | unchanged heq => exact h
  | changed hne heq hwritten =>
    refine Sound.logged
      { h.toConsistent.replace hwritten with
        joins := fun st hst => (h.joins st hst).mono (fun r hr _ => ?_) rfl
        configures := forall_mem_putById h.configures hconfigures }
    -- the regulation of a status is the rewritten one, which kept its id and project, or another
    by_cases hr' : r.id = row.id
    · obtain rfl : r = before := eq_of_key_eq h.regulationIds hr hbefore (by simp [hr', heq, hid])
      exact ⟨row, mem_putById.2 (.inl ⟨rfl, r, hr, hr'⟩), hr'.symm, by simp [heq, hproject]⟩
    · exact ⟨r, mem_putById.2 (.inr ⟨hr, hr'⟩), rfl, rfl⟩

theorem updated (h : s.Sound)
    (hw : Regulations.Updated ctx s project address patch before view after) : after.Sound := by
  exact h.rewritten hw.rewritten hw.before_mem rfl rfl
    (configures_of_settle hw.type_found hw.typeId_eq hw.config_settled)

theorem deleted (h : s.Sound) (hw : Regulations.Deleted ctx s project address view after) :
    after.Sound := by
  rw [hw.after_eq]
  refine Sound.logged
    { h.toConsistent.dropRegulation view.regulation.id with
      joins := fun st hst => ?_
      configures := fun r hr => h.configures r (List.mem_of_mem_filter hr) }
  -- a status that is left is not of the regulation that is gone
  obtain ⟨hst, hother⟩ := List.mem_filter.1 hst
  refine (h.joins st hst).mono (fun r hr hid => ⟨r, List.mem_filter.2 ⟨hr, ?_⟩, rfl, rfl⟩) rfl
  simpa [hid] using hother

/-! ### Writes to statuses -/

theorem upserted (h : s.Sound) (hpair : Statuses.Pair s project regulation catalogId r v)
    (hw : Statuses.Upserted ctx s r v w row after) : after.Sound := by
  have hkeys := Statuses.keys_of_mem_statusesAt hw.mem_statusesAt
  -- no table checks the project of a status: it is the one in which both keys were looked up
  have hjoins : s.Joins row := ⟨r, hpair.regulation_mem, v, hpair.version_mem, hkeys.1.symm,
    hkeys.2.symm, hpair.regulation_project.trans hpair.version_project.symm⟩
  have hconsistent := hw.consistent h.toConsistent
  cases hw with
  | added hnone hrow hwritten =>
    exact
      { hconsistent with
        joins := forall_mem_append h.joins hjoins
        configures := h.configures }
  | replaced hsome hrow hwritten =>
    exact
      { hconsistent with
        joins := forall_mem_putById h.joins hjoins
        configures := h.configures }

theorem statusDeleted (h : s.Sound) (hw : Statuses.Deleted ctx s r v st after) : after.Sound := by
  rw [hw.after_eq]
  exact Sound.logged
    { h.toConsistent.dropStatuses _ with
      joins := fun u hu => h.joins u (List.mem_of_mem_filter hu)
      configures := h.configures }

end Sound

end Store

end ComplianceRegistry
