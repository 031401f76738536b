import ComplianceRegistry.Proofs.Consistency
import ComplianceRegistry.Registry.Statuses
import Mathlib.Data.List.Find

/-!
# Looking rows up

Where the constraints of the tables hold, every look-up picks at most one row. A successful look-up
says which row it found, and the status of a regulation and a version is found exactly when their
pair has a row.

## Main definitions

* `Statuses.Pair` — a regulation and a version of one project, with the keys that name them

## Main results

* `Consistent.length_regulationsAt_le_one`, `Consistent.length_versionsAt_le_one`,
  `Consistent.length_statusesAt_le_one` — look-ups pick at most one row
* `Catalog.find_eq_ok`, `Regulations.find_eq_ok`, `Statuses.findPair_eq_ok` — what was found
* `Statuses.Pair.findPair_eq`, `Statuses.Pair.get_eq` — a pair is found, and so is its status
-/

namespace ComplianceRegistry

variable {s after : Store} {project id : Int} {address : Address} {catalogId : Text}
variable {r : Regulation} {v : Version} {t : RegulationType}

theorem checkInteger_eq_ok {n : Int} : checkInteger n = .ok () ↔ Storable n := by
  simp [checkInteger]

theorem checkInteger_eq_of_storable {m n : Int} (hm : Storable m) (hn : Storable n) :
    checkInteger m = checkInteger n :=
  (checkInteger_eq_ok.2 hm).trans (checkInteger_eq_ok.2 hn).symm

theorem checkText_eq_ok {text : Text} : checkText text = .ok () ↔ text.Encodable := by
  simp [checkText]

theorem checkText?_eq_ok {text : Option Text} (h : ∀ t ∈ text.toList, t.Encodable) :
    checkText? text = .ok () := by
  cases text with
  | none => rfl
  | some t => exact checkText_eq_ok.2 (h t (List.mem_singleton_self t))

/-! ### Keys pick at most one row -/

namespace Store

theorem mem_of_mem_regulationsAt (h : r ∈ s.regulationsAt project address) :
    r ∈ s.regulations ∧ r.projectId = project := by
  match address, h with
  | .byId _, h | .byName (some _), h =>
    have := (List.mem_filter.1 h)
    exact ⟨this.1, by simpa using (of_decide_eq_true this.2).2⟩
  | .byName none, h => simp [regulationsAt] at h

namespace Consistent

theorem length_regulationsAt_le_one (h : s.Consistent) :
    (s.regulationsAt project address).length ≤ 1 := by
  match address with
  | .byId id => exact length_filter_le_one h.regulationIds fun r _ hr => (of_decide_eq_true hr).1
  | .byName (some name) =>
    -- names are unshared within one project only
    refine length_filter_le_one (k := (project, name)) h.regulationNames fun r _ hr => ?_
    obtain ⟨hname, hproject⟩ := of_decide_eq_true hr
    rw [hname, hproject]
  | .byName none => simp [regulationsAt]

theorem length_versionsAt_le_one (h : s.Consistent) :
    (s.versionsAt project catalogId).length ≤ 1 :=
  length_filter_le_one h.catalogIds fun _ _ hv => (of_decide_eq_true hv).1

theorem length_statusesAt_le_one {regulationId versionId : Int} (h : s.Consistent) :
    (s.statusesAt regulationId versionId).length ≤ 1 := by
  refine length_filter_le_one (k := (regulationId, versionId)) h.statusPairs fun st _ hst => ?_
  obtain ⟨hregulation, hversion⟩ := of_decide_eq_true hst
  rw [hregulation, hversion]

end Consistent

end Store

/-! ### Types and regulations -/

namespace Catalog

theorem find_eq_ok (h : find s id = .ok t) : t ∈ s.types ∧ t.id = id := by
  obtain ⟨_, -, h⟩ := bind_eq_ok.1 h
  split at h
  · next u hu =>
    cases h
    exact findById_eq_some hu
  · simp at h

/-- A type that was found is found again by its id, as long as the catalog stays. -/
theorem find_again (h : find s id = .ok t) (htypes : after.types = s.types) :
    find after t.id = .ok t := by
  rw [(find_eq_ok h).2, ← h]
  simp [find, Store.type?, htypes]

end Catalog

namespace Regulations

theorem find_eq_ok (h : find s project address = .ok r) :
    Storable project ∧ s.regulationsAt project address = [r] := by
  obtain ⟨_, hproject, h⟩ := bind_eq_ok.1 h
  obtain ⟨_, -, h⟩ := bind_eq_ok.1 h
  obtain ⟨found, hsole, h⟩ := bind_eq_ok.1 h
  cases found with
  | none => simp at h
  | some g =>
    cases h
    exact ⟨checkInteger_eq_ok.1 hproject, sole_eq_ok hsole⟩

theorem mem_of_find_eq_ok (h : find s project address = .ok r) :
    r ∈ s.regulations ∧ r.projectId = project :=
  Store.mem_of_mem_regulationsAt ((find_eq_ok h).2 ▸ List.mem_singleton_self r)

theorem find_of_mem (hs : s.Consistent) (hproject : Storable project)
    (haddress : checkAddress address = .ok ()) (hr : r ∈ s.regulationsAt project address) :
    find s project address = .ok r := by
  simp only [find, checkInteger_eq_ok.2 hproject, haddress,
    sole_of_mem hs.length_regulationsAt_le_one hr, bind, Except.bind]

theorem find_of_nil (hproject : Storable project) (haddress : checkAddress address = .ok ())
    (hnone : s.regulationsAt project address = []) :
    find s project address = .error (.notFound (.regulation address project)) := by
  simp only [find, checkInteger_eq_ok.2 hproject, haddress, hnone, sole, bind, Except.bind]

end Regulations

/-! ### Regulations with versions -/

namespace Statuses

theorem viewIn?_eq_some {st : Status} {w : StatusView} (h : viewIn? s project st = some w) :
    w.status = st ∧ ∃ v ∈ s.versions, v.id = st.versionId ∧ w.catalogId = v.catalogId := by
  obtain ⟨g, -, h⟩ := Option.bind_eq_some_iff.1 h
  obtain ⟨v, hv, h⟩ := Option.bind_eq_some_iff.1 h
  have hkeys := List.find?_some hv
  simp only [decide_eq_true_eq] at hkeys
  cases h
  exact ⟨rfl, v, List.mem_of_find?_eq_some hv, hkeys.1, rfl⟩

/-- A regulation and a version of one project, with the keys that name them. -/
structure Pair (s : Store) (project regulation : Int) (catalogId : Text) (r : Regulation)
    (v : Version) : Prop where
  storableProject : Storable project
  storableRegulation : Storable regulation
  encodable : catalogId.Encodable
  regulation_mem : r ∈ s.regulations
  regulation_id : r.id = regulation
  regulation_project : r.projectId = project
  version_mem : v ∈ s.versions
  version_catalogId : v.catalogId = catalogId
  version_project : v.projectId = project

theorem findPair_eq_ok {regulation : Int}
    (h : findPair s project regulation catalogId = .ok (r, v)) :
    Pair s project regulation catalogId r v := by
  obtain ⟨_, hproject, h⟩ := bind_eq_ok.1 h
  obtain ⟨_, hregulation, h⟩ := bind_eq_ok.1 h
  obtain ⟨_, hcatalog, h⟩ := bind_eq_ok.1 h
  obtain ⟨r?, hr, h⟩ := bind_eq_ok.1 h
  obtain ⟨v?, hv, h⟩ := bind_eq_ok.1 h
  match v?, r?, h with
  | some v', some r', h =>
    cases h
    have hrmem : r ∈ s.regulationsAt project (.byId regulation) := by simp [sole_eq_ok hr]
    have hvmem : v ∈ s.versionsAt project catalogId := by simp [sole_eq_ok hv]
    obtain ⟨hr, hrkey⟩ := List.mem_filter.1 hrmem
    obtain ⟨hv, hvkey⟩ := List.mem_filter.1 hvmem
    simp only [decide_eq_true_eq] at hrkey hvkey
    exact
      { storableProject := checkInteger_eq_ok.1 hproject
        storableRegulation := checkInteger_eq_ok.1 hregulation
        encodable := checkText_eq_ok.1 hcatalog
        regulation_mem := hr
        regulation_id := hrkey.1
        regulation_project := hrkey.2
        version_mem := hv
        version_catalogId := hvkey.1
        version_project := hvkey.2 }

namespace Pair

variable {regulation : Int} {st : Status}

/-- A pair stays one while the regulations and the versions stay. -/
theorem congr (h : Pair s project regulation catalogId r v)
    (hregulations : after.regulations = s.regulations) (hversions : after.versions = s.versions) :
    Pair after project regulation catalogId r v :=
  { h with
    regulation_mem := hregulations ▸ h.regulation_mem
    version_mem := hversions ▸ h.version_mem }

/-- A pair is what its keys find. -/
theorem findPair_eq (hs : s.Consistent) (h : Pair s project regulation catalogId r v) :
    findPair s project regulation catalogId = .ok (r, v) := by
  have hr : r ∈ s.regulationsAt project (.byId regulation) :=
    List.mem_filter.2 ⟨h.regulation_mem, by simp [h.regulation_id, h.regulation_project]⟩
  have hv : v ∈ s.versionsAt project catalogId :=
    List.mem_filter.2 ⟨h.version_mem, by simp [h.version_catalogId, h.version_project]⟩
  simp only [findPair, checkInteger_eq_ok.2 h.storableProject,
    checkInteger_eq_ok.2 h.storableRegulation, checkText_eq_ok.2 h.encodable,
    sole_of_mem hs.length_regulationsAt_le_one hr, sole_of_mem hs.length_versionsAt_le_one hv,
    bind, Except.bind]

theorem regulation?_isSome (h : Pair s project regulation catalogId r v) :
    (s.regulation? project r.id).isSome :=
  List.find?_isSome.2 ⟨r, h.regulation_mem, by simp [h.regulation_project]⟩

/-- The version of a pair is found by the id of its row. -/
theorem find?_version (hs : s.Consistent) (h : Pair s project regulation catalogId r v) :
    (s.versions.find? fun w => w.id = v.id ∧ w.projectId = project) = some v := by
  cases hfound : s.versions.find? fun w => w.id = v.id ∧ w.projectId = project with
  | none => simpa [h.version_project] using List.find?_eq_none.1 hfound v h.version_mem
  | some w =>
    have hkeys := List.find?_some hfound
    simp only [decide_eq_true_eq] at hkeys
    rw [eq_of_key_eq hs.versionIds (List.mem_of_find?_eq_some hfound) h.version_mem hkeys.1]

/-- The status of a pair shows up with the catalog id of the pair. -/
theorem viewIn?_eq (hs : s.Consistent) (h : Pair s project regulation catalogId r v)
    (hregulation : st.regulationId = r.id) (hversion : st.versionId = v.id) :
    viewIn? s project st = some ⟨st, catalogId⟩ := by
  obtain ⟨g, hg⟩ := Option.isSome_iff_exists.1 h.regulation?_isSome
  simp only [viewIn?, hregulation, hversion, hg, h.find?_version hs, h.version_catalogId,
    Option.bind_eq_bind, Option.bind_some]

/-- A status shows up under the keys of a pair when it is the status of the pair. -/
theorem any_viewIn?_iff (hs : s.Consistent) (h : Pair s project regulation catalogId r v) :
    ((viewIn? s project st).any fun w =>
        w.status.regulationId = regulation ∧ w.catalogId = catalogId) ↔
      st.regulationId = r.id ∧ st.versionId = v.id := by
  constructor
  · intro hany
    obtain ⟨w, hw, hkeys⟩ := (Option.any_eq_true _ _).1 hany
    obtain ⟨rfl, u, hu, hid, hcatalog⟩ := viewIn?_eq_some hw
    simp only [decide_eq_true_eq] at hkeys
    -- the look-up knows the version by its catalog id only, which no other version has
    have hsame : u = v := eq_of_key_eq hs.catalogIds hu h.version_mem
      (hcatalog.symm.trans (hkeys.2.trans h.version_catalogId.symm))
    exact ⟨hkeys.1.trans h.regulation_id.symm, hid.symm.trans (congrArg _ hsame)⟩
  · rintro ⟨hregulation, hversion⟩
    simp [h.viewIn?_eq hs hregulation hversion, hregulation, h.regulation_id]

/-- The status of a pair is found under the keys of the pair, if there is one. -/
theorem get_eq (hs : s.Consistent) (h : Pair s project regulation catalogId r v) :
    get s project regulation catalogId =
      match (s.statusesAt r.id v.id).head? with
      | some st => .ok ⟨st, catalogId⟩
      | none => .error (.notFound (.status regulation project catalogId)) := by
  -- searching the views is searching the rows of the pair, all of which have a view
  have hfind : (s.statuses.filterMap (viewIn? s project)).find?
        (fun w => w.status.regulationId = regulation ∧ w.catalogId = catalogId) =
      (s.statusesAt r.id v.id).head?.bind (viewIn? s project) := by
    rw [List.find?_filterMap, Store.statusesAt, List.head?_filter]
    congr 1
    refine List.find?_congr fun st _ => ?_
    rw [Bool.eq_iff_iff, h.any_viewIn?_iff hs, decide_eq_true_eq]
  have hview : (s.statusesAt r.id v.id).head?.bind (viewIn? s project) =
      (s.statusesAt r.id v.id).head?.map (⟨·, catalogId⟩) := by
    cases hhead : (s.statusesAt r.id v.id).head? with
    | none => rfl
    | some st =>
      obtain ⟨-, hkeys⟩ := List.mem_filter.1 (List.mem_of_head? hhead)
      obtain ⟨hregulation, hversion⟩ := of_decide_eq_true hkeys
      exact h.viewIn?_eq hs hregulation hversion
  simp only [get, checkInteger_eq_ok.2 h.storableProject, checkInteger_eq_ok.2 h.storableRegulation,
    checkText_eq_ok.2 h.encodable, hfind, hview, bind, Except.bind]
  cases (s.statusesAt r.id v.id).head? <;> rfl

end Pair

end Statuses

end ComplianceRegistry
