import ComplianceRegistry.Proofs.Soundness
import Mathlib.Data.List.Nodup

/-!
# Stores that agree on a project

Two stores may hold the same rows of one project and anything else besides. Whoever looks something
up for the project finds the same in both, wherever the rows stand in their tables: a key picks one
row at most, and every listing says by what it is sorted.

## Main definitions

* `Store.OwnsStatus` — the status is one of a regulation of the project
* `Store.Agree` — two stores have the same types and the same rows of the project
* `Store.only` — a store without the rows of all other projects
* `Statuses.joined?` — what the listings of statuses sort

## Main results

* `Store.agree_only`, `Store.consistent_only` — the rows of other projects may be missing altogether
* `Agree.find_eq`, `Agree.get_eq`, `Agree.list_eq` — the regulations that are found are the same
* `Agree.findPair_eq`, `Agree.statuses_get_eq`, `Agree.statuses_list_eq` — so are the statuses
-/

namespace ComplianceRegistry

/-! ### Lists with the same rows -/

section Lists

variable {α : Type} {rows rows' : List α} {q : α → Bool}

/-- A search that at most one row answers finds the same among the same rows. -/
theorem find?_eq_of_unique (hunique : ∀ a ∈ rows, ∀ b ∈ rows, q a → q b → a = b)
    (hmem : ∀ a, q a → (a ∈ rows ↔ a ∈ rows')) : rows.find? q = rows'.find? q := by
  cases hfound : rows.find? q with
  | none =>
    symm
    refine List.find?_eq_none.2 fun a ha hq => ?_
    exact List.find?_eq_none.1 hfound a ((hmem a hq).2 ha) hq
  | some a =>
    have hq := List.find?_some hfound
    have ha := List.mem_of_find?_eq_some hfound
    cases hfound' : rows'.find? q with
    | none => exact absurd hq (List.find?_eq_none.1 hfound' a ((hmem a hq).1 ha))
    | some b =>
      have hqb := List.find?_some hfound'
      have hb := (hmem b hqb).2 (List.mem_of_find?_eq_some hfound')
      rw [hunique a ha b hb hq hqb]

/-- Two lists that have one row at most and have the same rows are equal. -/
theorem eq_of_length_le_one (h : rows.length ≤ 1) (h' : rows'.length ≤ 1)
    (hmem : ∀ a, a ∈ rows ↔ a ∈ rows') : rows = rows' := by
  match rows, rows', h, h', hmem with
  | [], [], _, _, _ => rfl
  | [], b :: _, _, _, hmem => simpa using (hmem b).2 (List.mem_cons_self ..)
  | a :: _, [], _, _, hmem => simpa using (hmem a).1 (List.mem_cons_self ..)
  | [a], [b], _, _, hmem => rw [List.mem_singleton.1 ((hmem a).1 (List.mem_singleton_self a))]

/-- The same rows come out of sorting in the same order, if the order tells them apart. -/
theorem mergeSort_eq_of_mem_iff (le : α → α → Bool) (htrans : ∀ a b c, le a b → le b c → le a c)
    (htotal : ∀ a b, le a b || le b a) (hrows : rows.Nodup) (hrows' : rows'.Nodup)
    (hmem : ∀ a, a ∈ rows ↔ a ∈ rows')
    (hanti : ∀ a ∈ rows, ∀ b ∈ rows, le a b → le b a → a = b) :
    rows.mergeSort le = rows'.mergeSort le := by
  have hperm : rows.Perm rows' := (List.perm_ext_iff_of_nodup hrows hrows').2 hmem
  have hsorted (rows : List α) : (rows.mergeSort le).Pairwise fun a b => le a b :=
    List.pairwise_mergeSort htrans htotal rows
  refine List.Perm.eq_of_pairwise (fun a b ha hb hab hba => ?_) (hsorted rows) (hsorted rows')
    ((List.mergeSort_perm ..).trans (hperm.trans (List.mergeSort_perm ..).symm))
  exact hanti a (List.mem_mergeSort.1 ha) b ((hmem b).2 (List.mem_mergeSort.1 hb)) hab hba

end Lists

/-! ### Agreement -/

namespace Store

/-- The status is one of a regulation of the project. -/
def OwnsStatus (s : Store) (project : Int) (st : Status) : Prop :=
  st ∈ s.statuses ∧ ∃ r ∈ s.regulations, r.id = st.regulationId ∧ r.projectId = project

/-- Two stores have the same types and the same rows of the project: the project itself, its
versions, its regulations and their statuses. -/
structure Agree (project : Int) (s t : Store) : Prop where
  types : ∀ x, x ∈ s.types ↔ x ∈ t.types
  projects : ∀ x : Project, x.id = project → (x ∈ s.projects ↔ x ∈ t.projects)
  versions : ∀ v : Version, v.projectId = project → (v ∈ s.versions ↔ v ∈ t.versions)
  regulations : ∀ r : Regulation, r.projectId = project → (r ∈ s.regulations ↔ r ∈ t.regulations)
  statuses : ∀ st, s.OwnsStatus project st ↔ t.OwnsStatus project st

/-! ### A project by itself -/

section Only

variable {s : Store} {project : Int}

/-- The store without the rows of all other projects. -/
def only (s : Store) (project : Int) : Store :=
  { s with
    projects := s.projects.filter fun x => x.id = project
    versions := s.versions.filter fun v => v.projectId = project
    regulations := s.regulations.filter fun r => r.projectId = project
    statuses := s.statuses.filter fun st =>
      s.regulations.any fun r => r.id = st.regulationId ∧ r.projectId = project }

theorem mem_statuses_only {st : Status} : st ∈ (s.only project).statuses ↔
    st ∈ s.statuses ∧ ∃ r ∈ s.regulations, r.id = st.regulationId ∧ r.projectId = project := by
  simp [only, List.mem_filter, List.any_eq_true]

theorem mem_regulations_only {r : Regulation} :
    r ∈ (s.only project).regulations ↔ r ∈ s.regulations ∧ r.projectId = project := by
  simp [only, List.mem_filter]

/-- For the project nothing is missing then. -/
theorem agree_only : s.Agree project (s.only project) where
  types _ := Iff.rfl
  projects x hx := by simp [only, hx]
  versions v hv := by simp [only, hv]
  regulations r hr := by rw [mem_regulations_only, and_iff_left hr]
  statuses st := by
    simp only [OwnsStatus, mem_statuses_only, mem_regulations_only]
    constructor
    · rintro ⟨hst, r, hr, hid, hproject⟩
      exact ⟨⟨hst, r, hr, hid, hproject⟩, r, ⟨hr, hproject⟩, hid, hproject⟩
    · rintro ⟨⟨hst, hrow⟩, -⟩
      exact ⟨hst, hrow⟩

/-- The constraints hold then, since nothing that is left refers to anything that is not. -/
theorem consistent_only (hs : s.Sound) : (s.only project).Consistent where
  typeIds := hs.typeIds
  typeNames := hs.typeNames
  projectIds := nodup_map_filter hs.projectIds
  projectNames := nodup_map_filter hs.projectNames
  versionIds := nodup_map_filter hs.versionIds
  catalogIds := nodup_map_filter hs.catalogIds
  regulationIds := nodup_map_filter hs.regulationIds
  regulationNames := nodup_map_filter hs.regulationNames
  statusIds := nodup_map_filter hs.statusIds
  statusPairs := nodup_map_filter hs.statusPairs
  auditIds := hs.auditIds
  versionProjects v hv := by
    obtain ⟨hv, hproject⟩ := List.mem_filter.1 hv
    obtain ⟨x, hx, hid⟩ := List.mem_map.1 (hs.versionProjects v hv)
    exact List.mem_map.2 ⟨x, List.mem_filter.2 ⟨hx, by simpa [hid] using hproject⟩, hid⟩
  regulationTypes r hr := hs.regulationTypes r (List.mem_of_mem_filter hr)
  regulationProjects r hr := by
    obtain ⟨hr, hproject⟩ := mem_regulations_only.1 hr
    obtain ⟨x, hx, hid⟩ := List.mem_map.1 (hs.regulationProjects r hr)
    exact List.mem_map.2 ⟨x, List.mem_filter.2 ⟨hx, by simpa [hid] using hproject⟩, hid⟩
  statusRegulations st hst := by
    obtain ⟨-, r, hr, hid, hproject⟩ := mem_statuses_only.1 hst
    exact List.mem_map.2 ⟨r, mem_regulations_only.2 ⟨hr, hproject⟩, hid⟩
  statusVersions st hst := by
    obtain ⟨hst, r, hr, hid, hproject⟩ := mem_statuses_only.1 hst
    -- a status and its version are of one project
    obtain ⟨g, hg, v, hv, hgid, hvid, hsame⟩ := hs.joins st hst
    obtain rfl : g = r := eq_of_key_eq hs.regulationIds hg hr (hgid.trans hid.symm)
    refine List.mem_map.2 ⟨v, List.mem_filter.2 ⟨hv, ?_⟩, hvid⟩
    simp [← hsame, hproject]

end Only

namespace Agree

variable {s t : Store} {project : Int} {r : Regulation} {v : Version}

variable (h : Agree project s t) (hs : s.Consistent) (ht : t.Consistent)

include h hs

theorem type?_eq {id : Int} : s.type? id = t.type? id := by
  refine find?_eq_of_unique (fun a ha b hb hqa hqb => ?_) fun a _ => h.types a
  exact eq_of_key_eq hs.typeIds ha hb ((of_decide_eq_true hqa).trans (of_decide_eq_true hqb).symm)

theorem project?_eq : s.project? project = t.project? project := by
  refine find?_eq_of_unique (fun a ha b hb hqa hqb => ?_) fun a hq =>
    h.projects a (of_decide_eq_true hq)
  exact eq_of_key_eq hs.projectIds ha hb
    ((of_decide_eq_true hqa).trans (of_decide_eq_true hqb).symm)

theorem version_find?_eq {id : Int} :
    (s.versions.find? fun v => v.id = id ∧ v.projectId = project) =
      t.versions.find? fun v => v.id = id ∧ v.projectId = project := by
  refine find?_eq_of_unique (fun a ha b hb hqa hqb => ?_) fun a hq =>
    h.versions a (of_decide_eq_true hq).2
  exact eq_of_key_eq hs.versionIds ha hb
    ((of_decide_eq_true hqa).1.trans (of_decide_eq_true hqb).1.symm)

include ht

theorem regulationsAt_eq {address : Address} :
    s.regulationsAt project address = t.regulationsAt project address := by
  refine eq_of_length_le_one hs.length_regulationsAt_le_one ht.length_regulationsAt_le_one
    fun r => ?_
  match address with
  | .byId id | .byName (some name) =>
    simp only [regulationsAt, List.mem_filter, decide_eq_true_eq]
    refine and_congr_left fun hkeys => h.regulations r hkeys.2
  | .byName none => simp [regulationsAt]

theorem versionsAt_eq {catalogId : Text} :
    s.versionsAt project catalogId = t.versionsAt project catalogId := by
  refine eq_of_length_le_one hs.length_versionsAt_le_one ht.length_versionsAt_le_one fun v => ?_
  simp only [versionsAt, List.mem_filter, decide_eq_true_eq]
  exact and_congr_left fun hkeys => h.versions v hkeys.2

theorem regulation?_eq {id : Int} : s.regulation? project id = t.regulation? project id := by
  have hat : s.regulationsAt project (.byId id) = t.regulationsAt project (.byId id) :=
    h.regulationsAt_eq hs ht
  simpa [regulationsAt, regulation?, List.head?_filter] using congrArg List.head? hat

theorem statusesAt_eq (hr : r ∈ s.regulations) (hproject : r.projectId = project)
    {versionId : Int} : s.statusesAt r.id versionId = t.statusesAt r.id versionId := by
  have hr' : r ∈ t.regulations := (h.regulations r hproject).1 hr
  refine eq_of_length_le_one hs.length_statusesAt_le_one ht.length_statusesAt_le_one fun st => ?_
  simp only [statusesAt, List.mem_filter, decide_eq_true_eq]
  refine and_congr_left fun hkeys => ?_
  -- a status with the id of the regulation is one of the project
  constructor
  · exact fun hst => ((h.statuses st).1 ⟨hst, r, hr, hkeys.1.symm, hproject⟩).1
  · exact fun hst => ((h.statuses st).2 ⟨hst, r, hr', hkeys.1.symm, hproject⟩).1

end Agree

end Store

variable {s t : Store} {project : Int} {address : Address} {r : Regulation} {v : Version}
variable (h : Store.Agree project s t) (hs : s.Consistent) (ht : t.Consistent)

/-! ### Regulations -/

namespace Regulations

theorem precedes_trans (a b c : Regulation) (hab : precedes a b) (hbc : precedes b c) :
    precedes a c := by
  simp only [precedes, Bool.or_eq_true, Bool.and_eq_true, decide_eq_true_eq, beq_iff_eq] at *
  omega

theorem precedes_total (a b : Regulation) : precedes a b || precedes b a := by
  simp only [precedes, Bool.or_eq_true, Bool.and_eq_true, decide_eq_true_eq, beq_iff_eq]
  omega

theorem id_eq_of_precedes {a b : Regulation} (hab : precedes a b) (hba : precedes b a) :
    a.id = b.id := by
  simp only [precedes, Bool.or_eq_true, Bool.and_eq_true, decide_eq_true_eq, beq_iff_eq] at *
  omega

end Regulations

namespace Store.Agree

include h hs

theorem find_type_eq {id : Int} : Catalog.find s id = Catalog.find t id := by
  simp only [Catalog.find, h.type?_eq hs]

theorem view_eq : Regulations.view s = Regulations.view t := by
  funext r
  simp only [Regulations.view, h.find_type_eq hs]

theorem requireProject_eq :
    Regulations.requireProject s project = Regulations.requireProject t project := by
  simp only [Regulations.requireProject, h.project?_eq hs]

include ht

theorem find_eq : Regulations.find s project address = Regulations.find t project address := by
  simp only [Regulations.find, h.regulationsAt_eq hs ht]

theorem get_eq : Regulations.get s project address = Regulations.get t project address := by
  simp only [Regulations.get, h.find_eq hs ht, h.view_eq hs]

theorem ensureNameFree_eq {ctx : Context} {name : Text} :
    Regulations.ensureNameFree ctx s project name =
      Regulations.ensureNameFree ctx t project name := by
  simp only [Regulations.ensureNameFree, h.regulationsAt_eq hs ht]

theorem ensureRenamable_eq {ctx : Context} {before : Regulation} {name : Text} :
    Regulations.ensureRenamable ctx s project before name =
      Regulations.ensureRenamable ctx t project before name := by
  simp only [Regulations.ensureRenamable, h.ensureNameFree_eq hs ht]

/-- The listings say by what they are sorted, so that the places of the rows do not show. -/
theorem ofProject_eq : Regulations.ofProject s project = Regulations.ofProject t project := by
  have hnodup {s : Store} (hs : s.Consistent) : s.regulations.Nodup := hs.regulationIds.of_map
  refine mergeSort_eq_of_mem_iff _ Regulations.precedes_trans Regulations.precedes_total
    ((hnodup hs).filter _) ((hnodup ht).filter _) (fun r => ?_) fun a ha b hb hab hba => ?_
  · simp only [List.mem_filter, decide_eq_true_eq]
    exact and_congr_left fun hproject => h.regulations r hproject
  · exact eq_of_key_eq hs.regulationIds (List.mem_of_mem_filter ha) (List.mem_of_mem_filter hb)
      (Regulations.id_eq_of_precedes hab hba)

theorem list_eq : Regulations.list s project = Regulations.list t project := by
  simp only [Regulations.list, h.ofProject_eq hs ht, h.view_eq hs]

/-! ### Statuses -/

theorem findPair_eq {regulation : Int} {catalogId : Text} :
    Statuses.findPair s project regulation catalogId =
      Statuses.findPair t project regulation catalogId := by
  simp only [Statuses.findPair, h.regulationsAt_eq hs ht, h.versionsAt_eq hs ht]

theorem viewIn?_eq : Statuses.viewIn? s project = Statuses.viewIn? t project := by
  funext st
  simp only [Statuses.viewIn?, h.regulation?_eq hs ht, h.version_find?_eq hs]

end Store.Agree

namespace Statuses

variable {st st' : Status} {w w' : StatusView}

/-- The regulation of a status together with the status as it shows up, when it does so under the
catalog id. -/
def joined? (s : Store) (project : Int) (catalogId : Text) (st : Status) :
    Option (Regulation × StatusView) := do
  let w ← viewIn? s project st
  let r ← s.regulation? project st.regulationId
  if w.catalogId = catalogId then some (r, w) else none

theorem list_eq_joined {catalogId : Text} : list s project catalogId = (do
    checkInteger project
    checkText catalogId
    .ok (((s.statuses.filterMap (joined? s project catalogId)).mergeSort fun a b =>
      Regulations.precedes a.1 b.1).map (·.2))) := rfl

theorem joined?_eq_some {catalogId : Text} {b : Regulation × StatusView}
    (hb : joined? s project catalogId st = some b) :
    viewIn? s project st = some b.2 ∧ b.1.id = st.regulationId ∧ b.2.catalogId = catalogId := by
  obtain ⟨w, hw, hb⟩ := Option.bind_eq_some_iff.1 hb
  obtain ⟨r, hr, hb⟩ := Option.bind_eq_some_iff.1 hb
  split at hb
  · next hcatalog =>
    cases hb
    unfold Store.regulation? at hr
    have hkeys := List.find?_some hr
    exact ⟨hw, (of_decide_eq_true hkeys).1, hcatalog⟩
  · simp at hb

/-- A status that shows up in the project is one of the project. -/
theorem ownsStatus_of_viewIn? (hst : st ∈ s.statuses) (hw : viewIn? s project st = some w) :
    s.OwnsStatus project st := by
  obtain ⟨r, hr, -⟩ := Option.bind_eq_some_iff.1 hw
  unfold Store.regulation? at hr
  have hkeys := List.find?_some hr
  exact ⟨hst, r, List.mem_of_find?_eq_some hr, of_decide_eq_true hkeys⟩

/-- No two statuses show up for one regulation under one catalog id. -/
theorem eq_of_viewIn? (hs : s.Consistent) (hst : st ∈ s.statuses) (hst' : st' ∈ s.statuses)
    (hw : viewIn? s project st = some w) (hw' : viewIn? s project st' = some w')
    (hregulation : st.regulationId = st'.regulationId) (hcatalog : w.catalogId = w'.catalogId) :
    st = st' := by
  obtain ⟨-, v, hv, hid, hvcatalog⟩ := viewIn?_eq_some hw
  obtain ⟨-, v', hv', hid', hvcatalog'⟩ := viewIn?_eq_some hw'
  obtain rfl : v = v' := eq_of_key_eq hs.catalogIds hv hv'
    (hvcatalog.symm.trans (hcatalog.trans hvcatalog'))
  exact eq_of_key_eq hs.statusPairs hst hst' (Prod.ext hregulation (hid.symm.trans hid'))

end Statuses

namespace Store.Agree

include h hs ht

/-- What shows up of the statuses is the same. -/
theorem mem_filterMap_iff {β : Type} {f : Status → Option β}
    (hf : ∀ st b, f st = some b → ∃ w, Statuses.viewIn? s project st = some w) (b : β) :
    b ∈ s.statuses.filterMap f ↔ b ∈ t.statuses.filterMap f := by
  simp only [List.mem_filterMap]
  refine exists_congr fun st => and_congr_left fun hb => ?_
  obtain ⟨w, hw⟩ := hf st b hb
  constructor
  · intro hst
    exact ((h.statuses st).1 (Statuses.ownsStatus_of_viewIn? hst hw)).1
  · intro hst
    rw [h.viewIn?_eq hs ht] at hw
    exact ((h.statuses st).2 (Statuses.ownsStatus_of_viewIn? hst hw)).1

theorem statuses_get_eq {regulation : Int} {catalogId : Text} :
    Statuses.get s project regulation catalogId = Statuses.get t project regulation catalogId := by
  have hfind : (s.statuses.filterMap (Statuses.viewIn? s project)).find?
        (fun w => w.status.regulationId = regulation ∧ w.catalogId = catalogId) =
      (t.statuses.filterMap (Statuses.viewIn? s project)).find?
        fun w => w.status.regulationId = regulation ∧ w.catalogId = catalogId := by
    refine find?_eq_of_unique (fun a ha b hb hqa hqb => ?_) fun w _ =>
      h.mem_filterMap_iff hs ht (fun st w hw => ⟨w, hw⟩) w
    obtain ⟨st, hst, hast⟩ := List.mem_filterMap.1 ha
    obtain ⟨st', hst', hbst⟩ := List.mem_filterMap.1 hb
    obtain ⟨haregulation, hacatalog⟩ := of_decide_eq_true hqa
    obtain ⟨hbregulation, hbcatalog⟩ := of_decide_eq_true hqb
    obtain rfl := (Statuses.viewIn?_eq_some hast).1
    obtain rfl := (Statuses.viewIn?_eq_some hbst).1
    have hsame := Statuses.eq_of_viewIn? hs hst hst' hast hbst
      (haregulation.trans hbregulation.symm) (hacatalog.trans hbcatalog.symm)
    rw [hsame, hbst] at hast
    exact (Option.some.inj hast).symm
  rw [h.viewIn?_eq hs ht] at hfind
  simp only [Statuses.get, h.viewIn?_eq hs ht, hfind]

omit h ht in
theorem nodup_filterMap_joined? {catalogId : Text} :
    (s.statuses.filterMap (Statuses.joined? s project catalogId)).Nodup := by
  refine List.Nodup.filterMap (fun st st' b hb hb' => ?_) (hs.statusIds.of_map)
  have hview := (Statuses.joined?_eq_some hb).1
  have hview' := (Statuses.joined?_eq_some hb').1
  exact (Statuses.viewIn?_eq_some hview).1.symm.trans (Statuses.viewIn?_eq_some hview').1

theorem statuses_list_eq {catalogId : Text} :
    Statuses.list s project catalogId = Statuses.list t project catalogId := by
  have hjoined : Statuses.joined? s project catalogId = Statuses.joined? t project catalogId := by
    funext st
    simp only [Statuses.joined?, h.viewIn?_eq hs ht, h.regulation?_eq hs ht]
  have hnodup : (t.statuses.filterMap (Statuses.joined? t project catalogId)).Nodup :=
    nodup_filterMap_joined? ht
  rw [← hjoined] at hnodup
  have hsorted := mergeSort_eq_of_mem_iff (fun a b => Regulations.precedes a.1 b.1)
    (fun a b c => Regulations.precedes_trans a.1 b.1 c.1)
    (fun a b => Regulations.precedes_total a.1 b.1) (nodup_filterMap_joined? hs) hnodup
    (h.mem_filterMap_iff hs ht fun st b hb => ⟨b.2, (Statuses.joined?_eq_some hb).1⟩)
    fun a ha b hb hab hba => ?_
  · rw [hjoined] at hsorted
    simp only [Statuses.list_eq_joined, hjoined, hsorted]
  -- two that stand in one place belong to one regulation, which has one status for the version
  obtain ⟨st, hst, hast⟩ := List.mem_filterMap.1 ha
  obtain ⟨st', hst', hbst⟩ := List.mem_filterMap.1 hb
  obtain ⟨haview, haid, hacatalog⟩ := Statuses.joined?_eq_some hast
  obtain ⟨hbview, hbid, hbcatalog⟩ := Statuses.joined?_eq_some hbst
  have hid := Regulations.id_eq_of_precedes hab hba
  have hsame := Statuses.eq_of_viewIn? hs hst hst' haview hbview (haid.symm.trans (hid.trans hbid))
    (hacatalog.trans hbcatalog.symm)
  rw [hsame, hbst] at hast
  exact (Option.some.inj hast).symm

end Store.Agree

end ComplianceRegistry
