import ComplianceRegistry.Store.Write
import Mathlib.Data.List.Nodup

/-!
# Rows and their keys

A key that no two rows of a table share picks at most one row. Adding a row with a new key, putting
a row in the place of the one with its id, and removing rows all keep such keys apart.

## Main results

* `length_filter_le_one` — a key that is not shared picks at most one row
* `nodup_map_append_singleton`, `nodup_map_putById`, `nodup_map_filter` — keys stay apart
* `findById_eq_some`, `findById_putById` — the row with an id
* `sole_eq_ok` — when there is only one of some rows
* `Store.insert_eq_ok`, `Store.replace_eq_ok` — what a write to a table is
-/

namespace ComplianceRegistry

open Store (putById)

/-- Checks that follow one another pass when each of them does. -/
theorem bind_eq_ok {ε α β : Type} {x : Except ε α} {next : α → Except ε β} {b : β} :
    (x >>= next) = .ok b ↔ ∃ a, x = .ok a ∧ next a = .ok b := by
  cases x <;> simp [bind, Except.bind]

/-- A check has one result. -/
theorem ok_unique {α : Type} {x : Except Fault α} {a b : α} (ha : x = .ok a) (hb : x = .ok b) :
    a = b :=
  Except.ok.inj (ha.symm.trans hb)

section Keys

variable {α κ : Type} {key : α → κ} {id : α → Int} {rows : List α} {row r : α} {i : Int}

theorem eq_of_key_eq {s : α} (h : (rows.map key).Nodup) (hr : r ∈ rows) (hs : s ∈ rows)
    (hkey : key r = key s) : r = s :=
  List.inj_on_of_nodup_map h hr hs hkey

/-- Rows that are picked by one value of an unshared key are at most one. -/
theorem length_filter_le_one {p : α → Bool} {k : κ} (h : (rows.map key).Nodup)
    (hp : ∀ r ∈ rows, p r → key r = k) : (rows.filter p).length ≤ 1 := by
  -- the keys of the picked rows are that one value over and over, and yet they are unshared
  have hkeys : (rows.filter p).map key = List.replicate (rows.filter p).length k := by
    refine List.eq_replicate_iff.2 ⟨by simp, fun k' hk' => ?_⟩
    obtain ⟨r, hr, rfl⟩ := List.mem_map.1 hk'
    obtain ⟨hmem, hpr⟩ := List.mem_filter.1 hr
    exact hp r hmem hpr
  have hnodup : ((rows.filter p).map key).Nodup :=
    h.sublist (List.filter_sublist.map key)
  rw [hkeys] at hnodup
  exact List.nodup_replicate.1 hnodup

theorem nodup_map_filter {p : α → Bool} (h : (rows.map key).Nodup) :
    ((rows.filter p).map key).Nodup :=
  h.sublist (List.filter_sublist.map key)

/-- Only the row that is taken away loses its key. -/
theorem mem_map_filter_ne {k : Int} (h : k ∈ rows.map id) (hne : k ≠ i) :
    k ∈ (rows.filter fun r => id r ≠ i).map id := by
  obtain ⟨r, hr, rfl⟩ := List.mem_map.1 h
  exact List.mem_map_of_mem (List.mem_filter.2 ⟨hr, by simpa using hne⟩)

/-- A row with a new key at the end keeps keys apart. -/
theorem nodup_map_append_singleton (h : (rows.map key).Nodup)
    (hnew : ∀ r ∈ rows, key r ≠ key row) : ((rows ++ [row]).map key).Nodup := by
  rw [List.map_append, List.nodup_append]
  refine ⟨h, by simp, ?_⟩
  rintro k hk _ hrow rfl
  obtain ⟨r, hr, rfl⟩ := List.mem_map.1 hk
  exact hnew r hr (by simpa using hrow)

/-- Rows with one more at the end have the keys that they had. -/
theorem mem_map_append {k : κ} (h : k ∈ rows.map key) : k ∈ (rows ++ [row]).map key := by
  rw [List.map_append]
  exact List.mem_append_left _ h

/-- What holds of all rows and of one more holds of all rows with that one at the end. -/
theorem forall_mem_append {p : α → Prop} (h : ∀ r ∈ rows, p r) (hrow : p row) :
    ∀ r ∈ rows ++ [row], p r :=
  List.forall_mem_append.2 ⟨h, List.forall_mem_singleton.2 hrow⟩

/-! ### Rows by id -/

theorem findById_eq_some (h : findById id i rows = some r) : r ∈ rows ∧ id r = i :=
  ⟨List.mem_of_find?_eq_some h, by simpa using List.find?_some h⟩

theorem findById_eq_none (h : findById id i rows = none) : ∀ r ∈ rows, id r ≠ i := by
  intro r hr
  simpa using List.find?_eq_none.1 h r hr

/-- The next id is not in use. -/
theorem findById_nextId : findById id (nextId (rows.map id)) rows = none := by
  refine List.find?_eq_none.2 fun r hr => ?_
  have hlt : id r < nextId (rows.map id) := lt_nextId (List.mem_map_of_mem hr)
  simpa using Int.ne_of_lt hlt

/-- A row with the next id is found at the end. -/
theorem findById_append_nextId (hid : id row = nextId (rows.map id)) :
    findById id (id row) (rows ++ [row]) = some row := by
  have hnone : findById id (id row) rows = none := hid ▸ findById_nextId
  simp only [findById] at hnone ⊢
  simp [List.find?_append, hnone]

/-- The next id is taken by the row that got it, so that the one after it is next. -/
theorem nextId_append_nextId {ids : List Int} : nextId (ids ++ [nextId ids]) = nextId ids + 1 := by
  cases ids with
  | nil => rfl
  | cons first ids =>
    -- the next id is above the largest, so that it becomes the largest itself
    simp only [nextId, List.cons_append, List.foldl_append, List.foldl_cons, List.foldl_nil]
    omega

/-! ### Rows put in place -/

theorem mem_putById : r ∈ putById id row rows ↔
    (r = row ∧ ∃ s ∈ rows, id s = id row) ∨ (r ∈ rows ∧ id r ≠ id row) := by
  simp only [putById, List.mem_map]
  constructor
  · rintro ⟨s, hs, rfl⟩
    split
    · next h => exact .inl ⟨rfl, s, hs, h⟩
    · next h => exact .inr ⟨hs, h⟩
  · rintro (⟨rfl, s, hs, hid⟩ | ⟨hr, hid⟩)
    · exact ⟨s, hs, if_pos hid⟩
    · exact ⟨r, hr, if_neg hid⟩

/-- What holds of all rows and of the one put in place holds of all rows after. -/
theorem forall_mem_putById {p : α → Prop} (h : ∀ r ∈ rows, p r) (hrow : p row) :
    ∀ r ∈ putById id row rows, p r := by
  intro r hr
  rcases mem_putById.1 hr with ⟨rfl, -⟩ | ⟨hr, -⟩
  · exact hrow
  · exact h r hr

/-- A row put in place takes over whatever it has in common with the row before. -/
theorem map_putById (h : ∀ r ∈ rows, id r = id row → key r = key row) :
    (putById id row rows).map key = rows.map key := by
  simp only [putById, List.map_map]
  refine List.map_congr_left fun r hr => ?_
  simp only [Function.comp_apply]
  split
  · next hid => exact (h r hr hid).symm
  · rfl

theorem map_id_putById : (putById id row rows).map id = rows.map id :=
  map_putById fun _ _ hid => hid

/-- Putting a row in its own place changes nothing. -/
theorem putById_of_mem (h : (rows.map id).Nodup) (hrow : row ∈ rows) :
    putById id row rows = rows := by
  refine (List.map_congr_left fun r hr => ?_).trans (List.map_id rows)
  split
  · next hid => exact eq_of_key_eq h hrow hr hid.symm
  · rfl

/-- Where neither the row put in place nor the one before is picked, the same rows are picked. -/
theorem filter_putById {p : α → Bool} (hrow : p row = false)
    (hold : ∀ r ∈ rows, id r = id row → p r = false) :
    (putById id row rows).filter p = rows.filter p := by
  induction rows with
  | nil => rfl
  | cons s rows ih =>
    -- a head that is replaced is picked neither before nor after
    have hrest := ih fun r hr => hold r (List.mem_cons_of_mem s hr)
    have hhead := hold s (List.mem_cons_self ..)
    simp only [putById, List.map_cons] at hrest ⊢
    split
    · next hid => simp [hrow, hhead hid, hrest]
    · simp [List.filter_cons, hrest]

/-- A row put in place keeps keys apart when no other row has its key. -/
theorem nodup_map_putById (hids : (rows.map id).Nodup) (hkeys : (rows.map key).Nodup)
    (hnew : ∀ r ∈ rows, id r ≠ id row → key r ≠ key row) :
    ((putById id row rows).map key).Nodup := by
  induction rows with
  | nil => simp [putById]
  | cons s rows ih =>
    simp only [List.map_cons, List.nodup_cons] at hids hkeys
    have hrest := ih hids.2 hkeys.2 fun r hr => hnew r (List.mem_cons_of_mem _ hr)
    refine List.nodup_cons.2 ⟨fun hmem => ?_, hrest⟩
    obtain ⟨r, hr, hkey⟩ := List.mem_map.1 hmem
    simp only at hkey
    -- the head or the row that shares its key may be the one put in place, but not both
    rcases mem_putById.1 hr with ⟨rfl, t, ht, hid⟩ | ⟨hr, hid⟩
    · split at hkey
      · next hs => exact hids.1 (hs ▸ hid ▸ List.mem_map_of_mem ht)
      · next hs => exact hnew s (List.mem_cons_self ..) hs hkey.symm
    · split at hkey
      · exact hnew r (List.mem_cons_of_mem _ hr) hid hkey
      · exact hkeys.1 (hkey ▸ List.mem_map_of_mem hr)

/-- A row that is put in place of one with its id is found by that id. -/
theorem findById_putById (h : ∃ s ∈ rows, id s = id row) :
    findById id (id row) (putById id row rows) = some row := by
  obtain ⟨s, hs, hid⟩ := h
  cases hfound : findById id (id row) (putById id row rows) with
  | none =>
    -- the row is among those that were searched
    exact absurd rfl (findById_eq_none hfound row (mem_putById.2 (.inl ⟨rfl, s, hs, hid⟩)))
  | some r =>
    obtain ⟨hr, hrid⟩ := findById_eq_some hfound
    rcases mem_putById.1 hr with ⟨rfl, -⟩ | ⟨-, hne⟩
    · rfl
    · exact absurd hrid hne

/-! ### Single rows -/

theorem sole_eq_ok {o : Option α} (h : sole rows = .ok o) : rows = o.toList := by
  match rows, h with
  | [], h => cases h; rfl
  | [_], h => cases h; rfl

theorem sole_of_length_le_one (h : rows.length ≤ 1) : sole rows = .ok rows.head? := by
  match rows, h with
  | [], _ => rfl
  | [_], _ => rfl

theorem sole_of_mem (h : rows.length ≤ 1) (hrow : row ∈ rows) : sole rows = .ok (some row) := by
  rw [sole_of_length_le_one h]
  match rows, h, hrow with
  | [_], _, hrow => rw [List.mem_singleton.1 hrow]; rfl

/-- A row that is the only one comes first. -/
theorem head?_of_mem (h : rows.length ≤ 1) (hrow : row ∈ rows) : rows.head? = some row := by
  have hsole : sole rows = .ok (some row) := sole_of_mem h hrow
  rw [sole_of_length_le_one h] at hsole
  exact Except.ok.inj hsole

end Keys

/-! ### Writes to the tables -/

namespace Store

variable {s after : Store} {r : Row}

theorem insert_eq_ok (h : s.insert r = .ok after) :
    r.check = .ok () ∧ s.row? r.table r.id = none ∧ s.Admits r ∧ after = s.push r := by
  obtain ⟨_, hcheck, h⟩ := bind_eq_ok.1 h
  split at h
  · next hnew =>
    simp only [Except.ok.injEq] at h
    exact ⟨hcheck, Option.isNone_iff_eq_none.1 hnew.1, hnew.2, h.symm⟩
  · simp at h

theorem replace_eq_ok (h : s.replace r = .ok after) :
    r.check = .ok () ∧ s.Admits r ∧ after = s.put r := by
  obtain ⟨_, hcheck, h⟩ := bind_eq_ok.1 h
  split at h
  · next hadmits =>
    simp only [Except.ok.injEq] at h
    exact ⟨hcheck, hadmits, h.symm⟩
  · simp at h

/-- A new row has an id of its own. -/
theorem row?_nextIdOf {t : Table} : s.row? t (s.nextIdOf t) = none := findById_nextId

theorem nextIdOf_types : s.nextIdOf .types = nextId (s.types.map (·.id)) := by
  simp [nextIdOf, unsortedRows, Function.comp_def, Row.id]

theorem nextIdOf_regulations : s.nextIdOf .regulations = nextId (s.regulations.map (·.id)) := by
  simp [nextIdOf, unsortedRows, Function.comp_def, Row.id]

theorem nextIdOf_statuses : s.nextIdOf .statuses = nextId (s.statuses.map (·.id)) := by
  simp [nextIdOf, unsortedRows, Function.comp_def, Row.id]

theorem nextIdOf_audit : s.nextIdOf .audit = nextId (s.audit.map (·.id)) := by
  simp [nextIdOf, unsortedRows, Function.comp_def, Row.id]

/-- A regulation takes its statuses with it, so that dropping them first changes nothing. -/
theorem dropRegulation_dropStatuses {id : Int} :
    (s.dropStatuses fun st => st.regulationId = id).dropRegulation id = s.dropRegulation id := by
  simp [dropRegulation, dropStatuses, List.filter_filter]

end Store

end ComplianceRegistry
