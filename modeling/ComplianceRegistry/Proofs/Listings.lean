import ComplianceRegistry.Proofs.Acceptance
import ComplianceRegistry.Proofs.Failures

/-!
# Listings of regulations and of statuses

The regulations of a project are listed by their order, and by id among equals, so that each has one
place. The statuses of a version are listed from a search of their own, which joins them with their
regulations and sorts what comes out. It gives the same as going through the regulations one after
the other and reading the status of each.

## Main definitions

* `Regulations.IsBefore` — a regulation has its place before another one
* `Statuses.readOneByOne` — the statuses of a version, read for one regulation after the other
* `Statuses.readBeside?` — a regulation with the status that is read for it

## Main results

* `Regulations.pairwise_ofProject`, `Regulations.map_regulation_of_list` — a listing has each
  regulation of the project once, in its place
* `Statuses.get_eq_ok_iff` — which status is read for a regulation and a version
* `Statuses.list_eq_readOneByOne` — the listing of statuses is what is read one by one
* `World.listings_agree` — so it is after every run of calls
-/

namespace ComplianceRegistry

variable {s : Store} {project : Int} {catalogId : Text}

/-! ### Regulations in their places -/

namespace Regulations

variable {a b r : Regulation} {rows : List Regulation} {views : List RegulationView}

/-- The first regulation has its place before the second: its order is lower, or it is the same and
its id is lower. -/
def IsBefore (a b : Regulation) : Prop := a.order < b.order ∨ a.order = b.order ∧ a.id < b.id

theorem isBefore_of_precedes (h : precedes a b) (hid : a.id ≠ b.id) : IsBefore a b := by
  simp only [precedes, Bool.or_eq_true, Bool.and_eq_true, decide_eq_true_eq, beq_iff_eq] at h
  unfold IsBefore
  omega

theorem mem_ofProject : r ∈ ofProject s project ↔ r ∈ s.regulations ∧ r.projectId = project := by
  simp [ofProject, List.mem_mergeSort, List.mem_filter]

theorem pairwise_precedes_ofProject :
    (ofProject s project).Pairwise fun a b => precedes a b :=
  List.pairwise_mergeSort precedes_trans precedes_total _

theorem nodup_ofProject (hs : s.Consistent) : ((ofProject s project).map (·.id)).Nodup :=
  ((List.mergeSort_perm ..).map _).nodup_iff.2 (nodup_map_filter hs.regulationIds)

/-- Each regulation of a listing has its place before those that follow. -/
theorem pairwise_ofProject (hs : s.Consistent) : (ofProject s project).Pairwise IsBefore :=
  pairwise_precedes_ofProject.imp₂ (fun _ _ => isBefore_of_precedes)
    (List.pairwise_map.1 (nodup_ofProject hs))

/-- Regulations that are shown with their types are the same regulations. -/
theorem map_regulation_of_mapM (h : rows.mapM (view s) = .ok views) :
    views.map (·.regulation) = rows := by
  induction rows generalizing views with
  | nil =>
    obtain rfl : [] = views := Except.ok.inj h
    rfl
  | cons r rows ih =>
    rw [List.mapM_cons] at h
    obtain ⟨first, hfirst, h⟩ := bind_eq_ok.1 h
    obtain ⟨others, hothers, h⟩ := bind_eq_ok.1 h
    obtain rfl : first :: others = views := Except.ok.inj h
    rw [List.map_cons, (view_eq_ok hfirst).1, ih hothers]

theorem map_regulation_of_list (h : list s project = .ok views) :
    views.map (·.regulation) = ofProject s project := by
  obtain ⟨_, -, h⟩ := bind_eq_ok.1 h
  exact map_regulation_of_mapM h

end Regulations

/-! ### Statuses one by one -/

theorem Store.Consistent.regulation?_eq_some_iff (hs : s.Consistent) {id : Int} {r : Regulation} :
    s.regulation? project id = some r ↔
      r ∈ s.regulations ∧ r.id = id ∧ r.projectId = project := by
  unfold Store.regulation?
  constructor
  · intro h
    have hkeys := List.find?_some h
    exact ⟨List.mem_of_find?_eq_some h, of_decide_eq_true hkeys⟩
  · rintro ⟨hr, rfl, hown⟩
    cases hfound : s.regulations.find? fun g => g.id = r.id ∧ g.projectId = project with
    | none => simpa [hown] using List.find?_eq_none.1 hfound r hr
    | some g =>
      have hkeys := List.find?_some hfound
      simp only [decide_eq_true_eq] at hkeys
      rw [eq_of_key_eq hs.regulationIds (List.mem_of_find?_eq_some hfound) hr hkeys.1]

theorem toOption_eq_some {α : Type} {x : Except Fault α} {a : α} :
    x.toOption = some a ↔ x = .ok a := by
  cases x <;> simp [Except.toOption]

namespace Statuses

variable {r : Regulation} {st : Status} {w : StatusView} {regulation : Int}
variable {views : List RegulationView} {listed : List StatusView} {b : Regulation × StatusView}

/-- The statuses of a version, read for one regulation of the project after the other. Regulations
without a status for the version are passed over. -/
def readOneByOne (s : Store) (project : Int) (catalogId : Text) :
    Except Fault (List StatusView) := do
  let views ← Regulations.list s project
  checkText catalogId
  .ok (views.filterMap fun v => (get s project v.regulation.id catalogId).toOption)

/-- The regulation together with the status that is read for it, if there is one. -/
def readBeside? (s : Store) (project : Int) (catalogId : Text) (r : Regulation) :
    Option (Regulation × StatusView) :=
  (get s project r.id catalogId).toOption.map (Prod.mk r)

theorem readBeside?_eq_some : readBeside? s project catalogId r = some b ↔
    b.1 = r ∧ get s project r.id catalogId = .ok b.2 := by
  simp only [readBeside?, Option.map_eq_some_iff, toOption_eq_some]
  constructor
  · rintro ⟨w, hread, rfl⟩
    exact ⟨rfl, hread⟩
  · rintro ⟨rfl, hread⟩
    exact ⟨b.2, hread, rfl⟩

/-- The status that is read for a regulation and a version is the one that shows up under their
keys. -/
theorem get_eq_ok_iff (hs : s.Consistent) : get s project regulation catalogId = .ok w ↔
    (Storable project ∧ Storable regulation ∧ catalogId.Encodable) ∧ w.status ∈ s.statuses ∧
      viewIn? s project w.status = some w ∧ w.status.regulationId = regulation ∧
      w.catalogId = catalogId := by
  constructor
  · intro h
    obtain ⟨_, hproject, h⟩ := bind_eq_ok.1 h
    obtain ⟨_, hregulation, h⟩ := bind_eq_ok.1 h
    obtain ⟨_, hcatalog, h⟩ := bind_eq_ok.1 h
    dsimp only at h
    split at h
    · next found hfound =>
      obtain rfl := Except.ok.inj h
      obtain ⟨st, hst, hview⟩ := List.mem_filterMap.1 (List.mem_of_find?_eq_some hfound)
      have hkeys := List.find?_some hfound
      simp only [decide_eq_true_eq] at hkeys
      obtain rfl := (viewIn?_eq_some hview).1
      exact ⟨⟨checkInteger_eq_ok.1 hproject, checkInteger_eq_ok.1 hregulation,
        checkText_eq_ok.1 hcatalog⟩, hst, hview, hkeys⟩
    · cases h
  · rintro ⟨⟨hproject, hregulation, hcatalog⟩, hst, hview, hkeys⟩
    have hmem : w ∈ s.statuses.filterMap (viewIn? s project) :=
      List.mem_filterMap.2 ⟨w.status, hst, hview⟩
    have hfound : (s.statuses.filterMap (viewIn? s project)).find?
        (fun x => x.status.regulationId = regulation ∧ x.catalogId = catalogId) = some w := by
      cases hfind : (s.statuses.filterMap (viewIn? s project)).find?
          (fun x => x.status.regulationId = regulation ∧ x.catalogId = catalogId) with
      | none => simpa [hkeys] using List.find?_eq_none.1 hfind w hmem
      | some x =>
        -- whatever the search comes upon has the same keys, and so it is the same status
        obtain ⟨st, hst', hview'⟩ := List.mem_filterMap.1 (List.mem_of_find?_eq_some hfind)
        have hkeys' := List.find?_some hfind
        simp only [decide_eq_true_eq] at hkeys'
        obtain rfl := (viewIn?_eq_some hview').1
        have hsame : x.status = w.status := eq_of_viewIn? hs hst' hst hview' hview
          (hkeys'.1.trans hkeys.1.symm) (hkeys'.2.trans hkeys.2.symm)
        rwa [hsame, hview, eq_comm] at hview'
    simp only [get, checkInteger_eq_ok.2 hproject, checkInteger_eq_ok.2 hregulation,
      checkText_eq_ok.2 hcatalog, hfound, bind, Except.bind]

/-- A regulation is joined with a status when both are of the project and the version, by the keys
of the status. -/
theorem joined?_eq_some_iff (hs : s.Consistent) :
    joined? s project catalogId st = some (r, w) ↔
      viewIn? s project st = some w ∧ w.catalogId = catalogId ∧ r ∈ s.regulations ∧
        r.id = st.regulationId ∧ r.projectId = project := by
  rw [← hs.regulation?_eq_some_iff]
  simp only [joined?, Option.bind_eq_bind, Option.bind_eq_some_iff, Option.ite_none_right_eq_some,
    Option.some.injEq, Prod.mk.injEq]
  constructor
  · rintro ⟨_, hview, _, hr, hcatalog, rfl, rfl⟩
    exact ⟨hview, hcatalog, hr⟩
  · rintro ⟨hview, hcatalog, hr⟩
    exact ⟨w, hview, r, hr, hcatalog, rfl, rfl⟩

section Joining

variable (hs : s.Consistent) (hrows : s.Every fun r => r.check = .ok ())
variable (hproject : Storable project) (hcatalog : catalogId.Encodable)

include hs hrows hproject hcatalog

/-- The search joins a regulation with a status when the regulation is one of the project and the
status is read for it. -/
theorem mem_joined_iff : (r, w) ∈ s.statuses.filterMap (joined? s project catalogId) ↔
    r ∈ Regulations.ofProject s project ∧ get s project r.id catalogId = .ok w := by
  simp only [List.mem_filterMap, joined?_eq_some_iff hs, get_eq_ok_iff hs,
    Regulations.mem_ofProject]
  constructor
  · rintro ⟨st, hst, hview, hsame, hr, hid, hown⟩
    obtain rfl := (viewIn?_eq_some hview).1
    -- what the search does not ask for was stored, so that the reader can ask for it
    have hstorable : Storable r.id := Row.storable_id (hrows.regulations r hr)
    exact ⟨⟨hr, hown⟩, ⟨hproject, hstorable, hcatalog⟩, hst, hview, hid.symm, hsame⟩
  · rintro ⟨⟨hr, hown⟩, -, hst, hview, hid, hsame⟩
    exact ⟨w.status, hst, hview, hsame, hr, hid.symm, hown⟩

/-- Sorting what the search joins gives the regulations in their places, with the status that is
read for each. -/
theorem mergeSort_joined :
    (s.statuses.filterMap (joined? s project catalogId)).mergeSort
        (fun a b => Regulations.precedes a.1 b.1) =
      (Regulations.ofProject s project).filterMap (readBeside? s project catalogId) := by
  have hsorted : ((Regulations.ofProject s project).filterMap
      (readBeside? s project catalogId)).Pairwise fun a b => Regulations.precedes a.1 b.1 :=
    Regulations.pairwise_precedes_ofProject.filterMap _ fun g h hgh a ha b hb => by
      rwa [(readBeside?_eq_some.1 ha).1, (readBeside?_eq_some.1 hb).1]
  have hnodup : ((Regulations.ofProject s project).filterMap
      (readBeside? s project catalogId)).Nodup :=
    (Regulations.nodup_ofProject hs).of_map.filterMap fun g h b hg hh =>
      (readBeside?_eq_some.1 hg).1.symm.trans (readBeside?_eq_some.1 hh).1
  have hmem (b : Regulation × StatusView) :
      b ∈ s.statuses.filterMap (joined? s project catalogId) ↔
        b ∈ (Regulations.ofProject s project).filterMap (readBeside? s project catalogId) := by
    rw [mem_joined_iff hs hrows hproject hcatalog, List.mem_filterMap]
    constructor
    · rintro ⟨hr, hread⟩
      exact ⟨b.1, hr, readBeside?_eq_some.2 ⟨rfl, hread⟩⟩
    · rintro ⟨r, hr, hb⟩
      obtain ⟨rfl, hread⟩ := readBeside?_eq_some.1 hb
      exact ⟨hr, hread⟩
  -- both lists have the same members, and the order tells them apart
  rw [mergeSort_eq_of_mem_iff (fun a b => Regulations.precedes a.1 b.1)
    (fun a b c => Regulations.precedes_trans a.1 b.1 c.1)
    (fun a b => Regulations.precedes_total a.1 b.1) (Store.Agree.nodup_filterMap_joined? hs) hnodup
    hmem fun a ha b hb hab hba => ?_]
  · exact List.mergeSort_of_pairwise hsorted
  · obtain ⟨ha, haread⟩ := (mem_joined_iff hs hrows hproject hcatalog).1 ha
    obtain ⟨hb, hbread⟩ := (mem_joined_iff hs hrows hproject hcatalog).1 hb
    have hsame : a.1 = b.1 := eq_of_key_eq hs.regulationIds (Regulations.mem_ofProject.1 ha).1
      (Regulations.mem_ofProject.1 hb).1 (Regulations.id_eq_of_precedes hab hba)
    rw [hsame, hbread] at haread
    exact Prod.ext hsame (Except.ok.inj haread).symm

/-- The listing has what is read for the regulations in their places. -/
theorem list_eq_filterMap : list s project catalogId =
    .ok ((Regulations.ofProject s project).filterMap fun r =>
      (get s project r.id catalogId).toOption) := by
  have hmap : ((Regulations.ofProject s project).filterMap
        (readBeside? s project catalogId)).map (·.2) =
      (Regulations.ofProject s project).filterMap fun r =>
        (get s project r.id catalogId).toOption := by
    rw [List.map_filterMap]
    congr 1
    funext r
    simp [readBeside?]
  simp only [list_eq_joined, checkInteger_eq_ok.2 hproject, checkText_eq_ok.2 hcatalog,
    mergeSort_joined hs hrows hproject hcatalog, hmap, bind, Except.bind]

/-- A status is listed when it is the one that is read for its regulation. -/
theorem mem_list_iff (hlisted : list s project catalogId = .ok listed) :
    w ∈ listed ↔ get s project w.status.regulationId catalogId = .ok w := by
  rw [list_eq_filterMap hs hrows hproject hcatalog] at hlisted
  obtain rfl := Except.ok.inj hlisted
  simp only [List.mem_filterMap, toOption_eq_some]
  constructor
  · rintro ⟨r, -, hread⟩
    rwa [((get_eq_ok_iff hs).1 hread).2.2.2.1]
  · intro hread
    obtain ⟨-, -, hview, -⟩ := (get_eq_ok_iff hs).1 hread
    obtain ⟨r, hr, -⟩ := Option.bind_eq_some_iff.1 hview
    obtain ⟨hr, hid, hown⟩ := hs.regulation?_eq_some_iff.1 hr
    exact ⟨r, Regulations.mem_ofProject.2 ⟨hr, hown⟩, hid ▸ hread⟩

/-- No status is listed twice, since each regulation has its own. -/
theorem nodup_list (hlisted : list s project catalogId = .ok listed) :
    (listed.map (·.status)).Nodup := by
  rw [list_eq_filterMap hs hrows hproject hcatalog] at hlisted
  obtain rfl := Except.ok.inj hlisted
  refine List.pairwise_map.2 ((List.pairwise_map.1 (Regulations.nodup_ofProject hs)).filterMap _ ?_)
  rintro r g hne v hv w hw hsame
  have hvid := ((get_eq_ok_iff hs).1 (toOption_eq_some.1 hv)).2.2.2.1
  have hwid := ((get_eq_ok_iff hs).1 (toOption_eq_some.1 hw)).2.2.2.1
  exact hne (hvid.symm.trans ((congrArg Status.regulationId hsame).trans hwid))

/-- The status of a regulation and a version of the project is listed once. -/
theorem count_list {v : Version} (hlisted : list s project catalogId = .ok listed)
    (hst : st ∈ s.statuses) (hr : r ∈ s.regulations) (hv : v ∈ s.versions)
    (hregulation : r.id = st.regulationId) (hversion : v.id = st.versionId)
    (hown : r.projectId = project) (hshared : v.projectId = project)
    (hcatalogId : v.catalogId = catalogId) : (listed.map (·.status)).count st = 1 := by
  have hpair : Pair s project r.id catalogId r v :=
    { storableProject := hproject
      storableRegulation := Row.storable_id (hrows.regulations r hr)
      encodable := hcatalog
      regulation_mem := hr
      regulation_id := rfl
      regulation_project := hown
      version_mem := hv
      version_catalogId := hcatalogId
      version_project := hshared }
  have hview : viewIn? s project st = some ⟨st, catalogId⟩ :=
    hpair.viewIn?_eq hs hregulation.symm hversion.symm
  have hread : get s project st.regulationId catalogId = .ok ⟨st, catalogId⟩ :=
    (get_eq_ok_iff hs).2
      ⟨⟨hproject, hregulation ▸ hpair.storableRegulation, hcatalog⟩, hst, hview, rfl, rfl⟩
  exact List.count_eq_one_of_mem (nodup_list hs hrows hproject hcatalog hlisted)
    (List.mem_map.2 ⟨⟨st, catalogId⟩,
      (mem_list_iff hs hrows hproject hcatalog hlisted).2 hread, rfl⟩)

end Joining

/-- The listing of statuses is what is read one by one, or both are refused for the same fault. -/
theorem list_eq_readOneByOne (hs : s.Consistent) (hrows : s.Every fun r => r.check = .ok ()) :
    list s project catalogId = readOneByOne s project catalogId := by
  by_cases hproject : Storable project
  · obtain ⟨views, hviews⟩ := Regulations.exists_list hs hrows hproject
    have hrows' := Regulations.map_regulation_of_list hviews
    by_cases hcatalog : catalogId.Encodable
    · rw [list_eq_filterMap hs hrows hproject hcatalog, ← hrows', List.filterMap_map]
      simp only [readOneByOne, hviews, checkText_eq_ok.2 hcatalog, bind, Except.bind,
        Function.comp_def]
    · simp [list_eq_joined, readOneByOne, hviews, checkInteger, checkText, hproject, hcatalog,
        bind, Except.bind]
  · simp [list_eq_joined, readOneByOne, Regulations.list, checkInteger, hproject, bind, Except.bind]

end Statuses

/-! ### Runs -/

namespace World

variable {settings : Settings} {w : World} {steps : List (Context × Step)}

/-- After every run the listing of statuses is what is read for one regulation after the other, in
the places that the regulations have in their own listing. A status is listed once, with all that is
read for it; after a run of calls that is so of all statuses that the regulations have for the
version. -/
theorem listings_agree (h : w.store.Initial) (hrows : w.store.Every fun r => r.check = .ok ())
    (project : Int) :
    let s := (w.run settings steps).2.store
    (∀ catalogId, Statuses.list s project catalogId =
      Statuses.readOneByOne s project catalogId) ∧
    (Storable project → ∃ views, Regulations.list s project = .ok views ∧
      (views.map (·.regulation)).Pairwise Regulations.IsBefore ∧
      (∀ r, r ∈ views.map (·.regulation) ↔ r ∈ s.regulations ∧ r.projectId = project) ∧
      ∀ catalogId : Text, catalogId.Encodable → ∃ listed,
        Statuses.list s project catalogId = .ok listed ∧
        listed = views.filterMap (fun v =>
          (Statuses.get s project v.regulation.id catalogId).toOption) ∧
        (∀ x : StatusView, x ∈ listed ↔
          Statuses.get s project x.status.regulationId catalogId = .ok x) ∧
        ((∀ p ∈ steps, p.2.IsCall) → ∀ st ∈ s.statuses, ∀ r ∈ s.regulations, ∀ v ∈ s.versions,
          r.id = st.regulationId → v.id = st.versionId → r.projectId = project →
          v.catalogId = catalogId → (listed.map (·.status)).count st = 1)) := by
  intro s
  have hs : s.Consistent := consistent_run h.toConsistent
  have hstored : s.Every fun r => r.check = .ok () := storable_run hrows
  refine ⟨fun catalogId => Statuses.list_eq_readOneByOne hs hstored, fun hproject => ?_⟩
  obtain ⟨views, hviews⟩ := Regulations.exists_list hs hstored hproject
  have hregulations : views.map (·.regulation) = Regulations.ofProject s project :=
    Regulations.map_regulation_of_list hviews
  refine ⟨views, hviews, hregulations ▸ Regulations.pairwise_ofProject hs,
    fun r => hregulations ▸ Regulations.mem_ofProject, fun catalogId hcatalog => ?_⟩
  obtain ⟨listed, hlisted⟩ := Statuses.exists_list hproject hcatalog (s := s)
  refine ⟨listed, hlisted, ?_, fun x => Statuses.mem_list_iff hs hstored hproject hcatalog hlisted,
    fun hcalls st hst r hr v hv hregulation hversion hown hcatalogId => ?_⟩
  · have hread := Statuses.list_eq_filterMap hs hstored hproject hcatalog
    rw [hlisted, ← hregulations, List.filterMap_map] at hread
    exact Except.ok.inj hread
  · -- calls join statuses within one project only, so that the version is of the project too
    obtain ⟨g, hg, u, hu, hgid, huid, hshared⟩ := (sound_run h.kept.toSound hcalls).joins st hst
    obtain rfl := eq_of_key_eq hs.regulationIds hg hr (hgid.trans hregulation.symm)
    obtain rfl := eq_of_key_eq hs.versionIds hu hv (huid.trans hversion.symm)
    exact Statuses.count_list hs hstored hproject hcatalog hlisted hst hg hu hregulation hversion
      hown (hshared.symm.trans hown) hcatalogId

/-- Two regulations are created and reported on, and then the first is moved behind the second. -/
def reordering : List Arrival :=
  [.creation,
    .plain "POST" "/api/v1/projects/1/regulations" "\x7b\"name\": \"q\", \"type_id\": 1\x7d",
    .firstReport,
    .plain "POST" "/api/v1/projects/1/regulations/2/versions/cat-100/report"
      "\x7b\"value\": \"false\"\x7d",
    .plain "PUT" "/api/v1/projects/1/regulations/1" "\x7b\"order\": 1\x7d"]

/-- Then each status is listed once, as it is read one by one. -/
theorem listings_agree_reordered :
    let s := (sample.run (.ofDatabase "sqlite") (reordering.map Arrival.step)).2.store
    (sample.store.Initial ∧ (sample.store.Every fun r => r.check = .ok ()) ∧ Storable 1 ∧
      ("cat-100" : Text).Encodable ∧ ∀ p ∈ reordering.map Arrival.step, p.2.IsCall) ∧
    s.regulations.map (fun r => (r.id, r.order)) = [(1, 1), (2, 0)] ∧
    Statuses.list s 1 "cat-100" = Statuses.readOneByOne s 1 "cat-100" ∧
    ∃ listed, Statuses.list s 1 "cat-100" = .ok listed ∧
      ∀ st ∈ [⟨1, 1, 1, some "true", .null, some true, ⟨0⟩, ⟨0⟩⟩,
        ⟨2, 2, 1, some "false", .null, some false, ⟨0⟩, ⟨0⟩⟩],
        (listed.map (·.status)).count st = 1 := by
  intro s
  have hrows : sample.store.Every fun r => r.check = .ok () := readable_sample.checked
  have hcalls : ∀ p ∈ reordering.map Arrival.step, p.2.IsCall := by
    simp [reordering, Arrival.step, Step.IsCall]
  obtain ⟨hagree, hlists⟩ := @listings_agree (.ofDatabase "sqlite") sample
    (reordering.map Arrival.step) Store.initial_sample hrows 1
  obtain ⟨views, -, -, -, hlists⟩ := hlists (by decide)
  obtain ⟨listed, hlisted, -, -, hcount⟩ := hlists "cat-100" (by decide)
  refine ⟨⟨Store.initial_sample, hrows, by decide, by decide, hcalls⟩, by decide +kernel,
    hagree _, listed, hlisted, fun st hst => ?_⟩
  have hjoined : st ∈ s.statuses ∧ ∃ r ∈ s.regulations, ∃ v ∈ s.versions, r.id = st.regulationId ∧
      v.id = st.versionId ∧ r.projectId = 1 ∧ v.catalogId = ("cat-100" : Text) := by
    revert st
    decide +kernel
  obtain ⟨hst, r, hr, v, hv, hregulation, hversion, hown, hcatalogId⟩ := hjoined
  exact hcount hcalls st hst r hr v hv hregulation hversion hown hcatalogId

end World

end ComplianceRegistry
