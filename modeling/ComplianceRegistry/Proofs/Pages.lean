import ComplianceRegistry.Proofs.Growth
import ComplianceRegistry.Proofs.Readable
import ComplianceRegistry.Proofs.Room
import Mathlib.Order.Bounds.Defs

/-!
# Pages of the trail

What is asked of the trail is listed with the latest entry first, and by id among entries of one
time, so that each entry has one place. The pages cut this listing up: put together they are the
listing again, all but the last one are full, and there are no more of them than it takes. One more
filter leaves the listing in its order.

An entry of the trail takes an id of 64 bits, and so there are never more entries than can be
counted over to the last page.

## Main definitions

* `AuditEntry.IsLater` — an entry has its place before another one
* `AuditQuery.Selects`, `AuditQuery.Narrows` — what filters ask for, and that they ask for more
* `Trail.IsNumbered` — the entries are numbered on from one
* `AuditPage.Partition` — pages make up a listing

## Main results

* `AuditQuery.mem_matching`, `AuditQuery.pairwise_matching` — what is listed, and in which order
* `AuditQuery.matching_eq_filter` — more filters leave the listing in its order
* `Trail.IsNumbered.length_lt` — there are no more entries than ids
* `AuditPage.exists_partition` — the pages of a listing
* `World.pages_partition` — so it is after every run that spares the trail
-/

namespace ComplianceRegistry

variable {s : Store} {q wider : AuditQuery} {a b e : AuditEntry}

/-! ### Listings -/

/-- The first entry has its place before the second: it is later, or it is as late and its id is
larger. -/
def AuditEntry.IsLater (a b : AuditEntry) : Prop :=
  b.createdAt.micros < a.createdAt.micros ∨ b.createdAt.micros = a.createdAt.micros ∧ b.id < a.id

namespace AuditQuery

/-- The entry has what each filter asks for. An empty module and an empty entity type ask for
nothing; the id zero asks for entries with this id. -/
structure Selects (q : AuditQuery) (e : AuditEntry) : Prop where
  module : ∀ m ∈ q.module, m ≠ [] → e.module = m
  entityType : ∀ t ∈ q.entityType, t ≠ [] → e.entityType = t
  entityId : ∀ id ∈ q.entityId, e.entityId = id
  action : ∀ a ∈ q.action, e.action = a.name

/-- Each filter of the wider query is among those of the first, or asks for nothing. -/
structure Narrows (q wider : AuditQuery) : Prop where
  module : wider.module = q.module ∨ ∀ m ∈ wider.module, m = []
  entityType : wider.entityType = q.entityType ∨ ∀ t ∈ wider.entityType, t = []
  entityId : wider.entityId = q.entityId ∨ wider.entityId = none
  action : wider.action = q.action ∨ wider.action = none

/-- The query for another page. -/
def atPage (q : AuditQuery) (page : Int) : AuditQuery := { q with page := page }

@[simp] theorem perPage_atPage {page : Int} : (q.atPage page).perPage = q.perPage := rfl

@[simp] theorem matching_atPage {page : Int} : (q.atPage page).matching s = q.matching s := rfl

theorem passesText_iff {filter : Option Text} {t : Text} :
    passesText filter t ↔ ∀ m ∈ filter, m ≠ [] → t = m := by
  cases filter with
  | none => simp [passesText]
  | some m =>
    cases m with
    | nil => simp [passesText]
    | cons c rest =>
      simp only [passesText, beq_iff_eq, Option.mem_some_iff, forall_eq', ne_eq, reduceCtorEq,
        not_false_eq_true, forall_const]
      exact eq_comm

theorem selects_iff : q.Selects e ↔ q.passes e := by
  simp only [passes, Bool.and_eq_true, passesText_iff, Option.all_eq_true, beq_iff_eq]
  constructor
  · intro h
    exact ⟨⟨⟨h.module, h.entityType⟩, fun id hid => (h.entityId id hid).symm⟩,
      fun a ha => (h.action a ha).symm⟩
  · rintro ⟨⟨⟨hmodule, hentityType⟩, hentityId⟩, haction⟩
    exact ⟨hmodule, hentityType, fun id hid => (hentityId id hid).symm,
      fun a ha => (haction a ha).symm⟩

instance : DecidablePred q.Selects := fun _ => decidable_of_iff _ selects_iff.symm

/-- What passes more filters passes those of the wider query. -/
theorem Narrows.selects (h : q.Narrows wider) (he : q.Selects e) : wider.Selects e where
  module m hm hne := by
    rcases h.module with hsame | hnone
    · exact he.module m (hsame ▸ hm) hne
    · exact absurd (hnone m hm) hne
  entityType t ht hne := by
    rcases h.entityType with hsame | hnone
    · exact he.entityType t (hsame ▸ ht) hne
    · exact absurd (hnone t ht) hne
  entityId id hid := by
    rcases h.entityId with hsame | hnone
    · exact he.entityId id (hsame ▸ hid)
    · simp [hnone] at hid
  action a ha := by
    rcases h.action with hsame | hnone
    · exact he.action a (hsame ▸ ha)
    · simp [hnone] at ha

theorem precedes_iff : precedes a b ↔ b.createdAt.micros < a.createdAt.micros ∨
    a.createdAt.micros = b.createdAt.micros ∧ b.id ≤ a.id := by
  simp [precedes]

theorem precedes_trans (a b c : AuditEntry) (hab : precedes a b) (hbc : precedes b c) :
    precedes a c := by
  rw [precedes_iff] at *
  omega

theorem precedes_total (a b : AuditEntry) : precedes a b || precedes b a := by
  rw [Bool.or_eq_true, precedes_iff, precedes_iff]
  omega

theorem id_eq_of_precedes (hab : precedes a b) (hba : precedes b a) : a.id = b.id := by
  rw [precedes_iff] at hab hba
  omega

theorem isLater_of_precedes (h : precedes a b) (hid : a.id ≠ b.id) : a.IsLater b := by
  rw [precedes_iff] at h
  unfold AuditEntry.IsLater
  omega

/-- The entries that are asked for are listed, and no others. -/
theorem mem_matching : e ∈ q.matching s ↔ e ∈ s.audit ∧ q.Selects e := by
  rw [matching, List.mem_mergeSort, List.mem_filter, selects_iff]

theorem length_matching_le : (q.matching s).length ≤ s.audit.length := by
  rw [matching, List.length_mergeSort]
  exact List.length_filter_le ..

theorem pairwise_precedes_matching : (q.matching s).Pairwise fun a b => precedes a b :=
  List.pairwise_mergeSort precedes_trans precedes_total _

theorem nodup_matching (hs : s.Consistent) : ((q.matching s).map (·.id)).Nodup :=
  ((List.mergeSort_perm ..).map _).nodup_iff.2 (nodup_map_filter hs.auditIds)

/-- Each entry of a listing has its place before those that follow, so that none is there twice. -/
theorem pairwise_matching (hs : s.Consistent) : (q.matching s).Pairwise AuditEntry.IsLater :=
  pairwise_precedes_matching.imp₂ (fun _ _ => isLater_of_precedes)
    (List.pairwise_map.1 (nodup_matching hs))

/-- More filters take entries out of the listing and leave the others in their order. -/
theorem matching_eq_filter (hs : s.Consistent) (h : q.Narrows wider) :
    q.matching s = (wider.matching s).filter fun e => q.Selects e := by
  have hsorted : ((wider.matching s).filter fun e => q.Selects e).Pairwise fun a b =>
      precedes a b :=
    pairwise_precedes_matching.filter _
  have hmem (e : AuditEntry) : e ∈ s.audit.filter q.passes ↔
      e ∈ (wider.matching s).filter fun e => q.Selects e := by
    simp only [List.mem_filter, mem_matching, decide_eq_true_eq, ← selects_iff]
    constructor
    · rintro ⟨he, hselects⟩
      exact ⟨⟨he, h.selects hselects⟩, hselects⟩
    · rintro ⟨⟨he, -⟩, hselects⟩
      exact ⟨he, hselects⟩
  -- both are sorted, and among entries with ids of their own the order leaves no choice
  calc q.matching s
      = ((wider.matching s).filter fun e => q.Selects e).mergeSort precedes :=
        mergeSort_eq_of_mem_iff precedes precedes_trans precedes_total
          (hs.auditIds.of_map.filter _) ((nodup_matching hs).of_map.filter _) hmem
          fun a ha b hb hab hba => eq_of_key_eq hs.auditIds (List.mem_of_mem_filter ha)
            (List.mem_of_mem_filter hb) (id_eq_of_precedes hab hba)
    _ = (wider.matching s).filter fun e => q.Selects e := List.mergeSort_of_pairwise hsorted

end AuditQuery

/-! ### Numbers of entries -/

/-- The entries of the trail are numbered on from one. -/
def Trail.IsNumbered (s : Store) : Prop := ∀ e ∈ s.audit, 1 ≤ e.id

theorem Trail.IsNumbered.logged {ctx : Context} {notes : List Note} (hs : IsNumbered s) :
    IsNumbered (Trail.logged ctx notes s) := by
  have hnext : 1 ≤ nextId (s.audit.map (·.id)) := by
    by_cases hnone : s.audit.map (·.id) = []
    · simp [hnone, nextId]
    · obtain ⟨id, hmem, hnext⟩ := exists_nextId_eq hnone
      obtain ⟨e, he, rfl⟩ := List.mem_map.1 hmem
      have hlast := hs e he
      omega
  intro e he
  rw [logged_audit] at he
  rcases List.mem_append.1 he with hold | hnew
  · exact hs e hold
  · have hfirst := le_id_of_mem_entriesFrom hnew
    omega

/-- Statements that spare the trail keep its numbers. -/
theorem Trail.IsNumbered.preserves {ctx : Context} :
    Store.Preserves ctx (· ≠ .audit) (fun _ => True) IsNumbered where
  tables _ h := h
  notes _ _ := trivial
  insert hopen hs h := by rwa [IsNumbered, Store.audit_of_insert hopen h]
  move hopen hs h := by rwa [IsNumbered, Store.audit_of_move hopen h]
  remove hopen hs h := by rwa [IsNumbered, Store.audit_of_remove hopen h]
  dropStatuses _ hs := hs
  record _ hs h := record_eq_ok h ▸ hs.logged

/-- Rows with ids of their own that start from one are not more than the largest id. -/
theorem length_le_of_ids {α : Type} {id : α → Int} {rows : List α} {most : Nat}
    (hids : (rows.map id).Nodup) (h : ∀ r ∈ rows, 1 ≤ id r ∧ id r ≤ most) :
    rows.length ≤ most := by
  have hsubset : rows.map id ⊆ (List.range most).map fun i : Nat => (i : Int) + 1 := by
    intro i hi
    obtain ⟨r, hr, rfl⟩ := List.mem_map.1 hi
    have hbounds := h r hr
    exact List.mem_map.2 ⟨(id r - 1).toNat, List.mem_range.2 (by omega), by omega⟩
  simpa using hids.length_le_of_subset hsubset

/-- The ids run out before the entries can no longer be counted. -/
theorem Trail.IsNumbered.length_lt (h : IsNumbered s) (hs : s.Consistent)
    (hrows : s.Every fun r => r.check = .ok ()) : (s.audit.length : Int) < storageBound := by
  have hlength : s.audit.length ≤ (storageBound - 1).toNat := by
    refine length_le_of_ids hs.auditIds fun e he => ?_
    have hstored : Storable e.id := Row.storable_id (hrows.audit e he)
    have hfirst := h e he
    have hlast := hstored.2
    omega
  have hbound : 0 < storageBound := by decide
  omega

/-! ### Pages -/

/-- Windows of one width that follow one another make up the beginning of a list. -/
theorem flatMap_windows {α : Type} (rows : List α) (width count : Nat) :
    ((List.range count).flatMap fun i => (rows.drop (i * width)).take width) =
      rows.take (count * width) := by
  induction count with
  | zero => simp
  | succ count ih =>
    rw [List.range_succ, List.flatMap_append, ih, List.flatMap_singleton, Nat.succ_mul,
      List.take_add]

/-- How many windows of one width it takes is the number of entries, divided by the width and
rounded up. -/
theorem exists_least_count {total width : Nat} (hwidth : 0 < width) : ∃ count : Nat,
    ((total : Int) + width - 1) / width = count ∧ ∀ n, count ≤ n ↔ total ≤ n * width := by
  obtain ⟨count, hcount⟩ : ∃ count : Nat, ((total : Int) + width - 1) / width = count :=
    Int.eq_ofNat_of_zero_le (Int.ediv_nonneg (by omega) (by omega))
  refine ⟨count, hcount, fun n => ?_⟩
  have hceil : ((total : Int) + width - 1) / width < n + 1 ↔
      (total : Int) + width - 1 < (n + 1) * width :=
    Int.ediv_lt_iff_lt_mul (by omega)
  rw [hcount, Int.add_mul] at hceil
  have hcast : ((n * width : Nat) : Int) = n * width := Int.natCast_mul n width
  omega

namespace AuditPage

variable {page : Int} {p : AuditPage} {width count : Nat}

/-- The pages, numbered on from one, make up what the query lists. There are as many as it takes,
each tells how many entries and pages there are, and all but the last one are full. Past the last
one there are empty pages, as far as the entries before them can be counted. -/
structure Partition (s : Store) (q : AuditQuery) (pages : List AuditPage) : Prop where
  found : ∀ (i : Nat) (h : i < pages.length), find s (q.atPage (i + 1)) = .ok pages[i]
  joined : pages.flatMap (·.items) = q.matching s
  full : ∀ p ∈ pages.dropLast, p.items.length = q.perPage
  counted : ∀ p ∈ pages, p.total = (q.matching s).length ∧ p.pages = pages.length
  least : IsLeast {count : Nat | ((q.matching s).length : Int) ≤ count * q.perPage} pages.length
  beyond : ∀ page : Int, pages.length < page → Storable (q.atPage page).offset →
    ∃ p, find s (q.atPage page) = .ok p ∧ p.items = [] ∧ p.total = (q.matching s).length ∧
      p.pages = pages.length

/-- The first so many pages. -/
def firstPages (s : Store) (q : AuditQuery) (count : Nat) : List AuditPage :=
  (List.range count).map fun i : Nat => cut s (q.atPage (i + 1))

@[simp] theorem length_firstPages : (firstPages s q count).length = count := by
  simp [firstPages]

theorem mem_firstPages :
    p ∈ firstPages s q count ↔ ∃ i < count, cut s (q.atPage ((i : Nat) + 1)) = p := by
  simp [firstPages]

theorem dropLast_firstPages : (firstPages s q count).dropLast = firstPages s q (count - 1) := by
  rw [List.dropLast_eq_take, length_firstPages, firstPages, firstPages, ← List.map_take,
    List.take_range, Nat.min_eq_left (Nat.sub_le count 1)]

section Windows

variable (hwidth : q.perPage = width)

include hwidth

/-- As many entries come before a page as the pages before it have. -/
theorem offset_atPage_succ (i : Nat) : (q.atPage (i + 1)).offset = (i * width : Nat) := by
  simp [AuditQuery.offset, AuditQuery.atPage, hwidth]

/-- A page is a window of the listing. -/
theorem items_cut (i : Nat) :
    (cut s (q.atPage (i + 1))).items = ((q.matching s).drop (i * width)).take width := by
  simp only [cut, AuditQuery.matching_atPage, AuditQuery.perPage_atPage,
    offset_atPage_succ hwidth, hwidth, Int.toNat_natCast]

/-- The first pages put together are the beginning of the listing. -/
theorem flatMap_items_firstPages :
    (firstPages s q count).flatMap (·.items) = (q.matching s).take (count * width) := by
  simp only [firstPages, List.flatMap_map, items_cut hwidth, flatMap_windows]

/-- Pages that do not reach the end of the listing are full. -/
theorem length_items_of_mem_firstPages (hp : p ∈ firstPages s q count)
    (h : count * width ≤ (q.matching s).length) : p.items.length = width := by
  obtain ⟨i, hi, rfl⟩ := mem_firstPages.1 hp
  have hupto : (i + 1) * width ≤ count * width := Nat.mul_le_mul_right width hi
  rw [Nat.add_mul, Nat.one_mul] at hupto
  rw [items_cut hwidth, List.length_take, List.length_drop]
  omega

end Windows

section Cutting

variable (htexts : ∀ t ∈ q.module.toList ++ q.entityType.toList, t.Encodable)
variable (hid : Storable (q.entityId.getD 0))
variable (hreadable : ∀ e ∈ s.audit, q.Selects e → readable e)

include htexts hid hreadable

theorem find_atPage (hoffset : Storable (q.atPage page).offset) :
    find s (q.atPage page) = .ok (cut s (q.atPage page)) := by
  refine find_eq_cut htexts hid hoffset fun e he => ?_
  have hlisted : e ∈ q.matching s := List.mem_of_mem_drop (List.mem_of_mem_take he)
  obtain ⟨haudit, hselects⟩ := AuditQuery.mem_matching.1 hlisted
  exact hreadable e haudit hselects

/-- What is asked for with entries to a page makes up pages. -/
theorem exists_partition (hs : s.Consistent) (hrows : s.Every fun r => r.check = .ok ())
    (hnumbered : Trail.IsNumbered s) (hperPage : 1 ≤ q.perPage) :
    ∃ pages, Partition s q pages := by
  obtain ⟨width, hwidth⟩ : ∃ width : Nat, q.perPage = width :=
    Int.eq_ofNat_of_zero_le (by omega)
  obtain ⟨count, hcount, henough⟩ :=
    @exists_least_count (q.matching s).length width (by omega)
  rw [← hwidth] at hcount
  refine ⟨firstPages s q count, ?_⟩
  constructor
  case found =>
    intro i hi
    rw [length_firstPages] at hi
    have hoffset : Storable (q.atPage (i + 1)).offset := by
      -- before one of the pages there are fewer entries than all
      have hbefore : i * width < (q.matching s).length :=
        Nat.lt_of_not_le fun h => absurd ((henough i).2 h) (Nat.not_le.2 hi)
      have hlisted : (q.matching s).length ≤ s.audit.length := AuditQuery.length_matching_le
      have hbound := hnumbered.length_lt hs hrows
      rw [offset_atPage_succ hwidth]
      exact ⟨by omega, by omega⟩
    rw [find_atPage htexts hid hreadable hoffset]
    simp [firstPages]
  case joined =>
    rw [flatMap_items_firstPages hwidth]
    exact List.take_of_length_le ((henough count).1 (Nat.le_refl count))
  case full =>
    intro p hp
    rw [dropLast_firstPages] at hp
    by_cases hnone : count = 0
    · simp [hnone, firstPages] at hp
    · -- without the last page they are not enough
      have hmore : (count - 1) * width ≤ (q.matching s).length :=
        Nat.le_of_not_le fun h => absurd ((henough (count - 1)).2 h) (by omega)
      rw [length_items_of_mem_firstPages hwidth hp hmore, hwidth]
  case counted =>
    intro p hp
    obtain ⟨i, -, rfl⟩ := mem_firstPages.1 hp
    rw [length_firstPages]
    exact ⟨rfl, hcount⟩
  case least =>
    rw [length_firstPages, hwidth]
    constructor
    · exact_mod_cast (henough count).1 (Nat.le_refl count)
    · intro n hn
      exact (henough n).2 (by exact_mod_cast hn)
  case beyond =>
    intro page hpage hoffset
    rw [length_firstPages] at hpage ⊢
    obtain ⟨i, rfl⟩ : ∃ i : Nat, page = i + 1 := ⟨(page - 1).toNat, by omega⟩
    refine ⟨_, find_atPage htexts hid hreadable hoffset, ?_, rfl, hcount⟩
    have hpast : (q.matching s).length ≤ i * width := (henough i).1 (by omega)
    rw [items_cut hwidth, List.drop_of_length_le hpast, List.take_nil]

end Cutting

end AuditPage

/-! ### Runs -/

namespace World

variable {settings : Settings} {w : World} {steps : List (Context × Step)}

theorem isNumbered_run (h : Trail.IsNumbered w.store)
    (hspares : ∀ p ∈ steps, .audit ∉ p.2.editedTables) :
    Trail.IsNumbered (w.run settings steps).2.store :=
  run_induction h fun p hp _ hs => Step.effect_preserves Trail.IsNumbered.preserves
    (fun _ ht hne => hspares p hp (hne ▸ ht)) (fun _ _ _ _ _ _ _ _ => trivial) hs

/-- After every run that spares the trail, what is asked of it is listed once, with the latest entry
first; one more filter leaves the listing in its order; and pages make up the listing, as long as
the entries on it have known actions. So they have after every run that remarks on none but known
actions. -/
theorem pages_partition (h : w.store.Consistent) (hrows : w.store.Every Row.IsReadable)
    (hids : Trail.IsNumbered w.store) (hspares : ∀ p ∈ steps, .audit ∉ p.2.editedTables) :
    let s := (w.run settings steps).2.store
    (∀ q : AuditQuery,
      (∀ e, e ∈ q.matching s ↔ e ∈ s.audit ∧ q.Selects e) ∧
      (q.matching s).Pairwise AuditEntry.IsLater ∧
      (∀ wider, q.Narrows wider →
        q.matching s = (wider.matching s).filter fun e => q.Selects e) ∧
      ((∀ t ∈ q.module.toList ++ q.entityType.toList, t.Encodable) →
        Storable (q.entityId.getD 0) → 1 ≤ q.perPage →
        (∀ e ∈ s.audit, q.Selects e → AuditPage.readable e) →
        ∃ pages, AuditPage.Partition s q pages)) ∧
    ((∀ p ∈ steps, ∀ op, p.2.operation? settings = some op →
        op.IsNoting fun n => (Trail.Action.ofName? n.action).isSome) →
      ∀ e ∈ s.audit, AuditPage.readable e) := by
  intro s
  have hs : s.Consistent := consistent_run h
  have hstored : s.Every fun r => r.check = .ok () := storable_run hrows.checked
  have hnumbered : Trail.IsNumbered s := isNumbered_run hids hspares
  constructor
  · intro q
    refine ⟨fun e => AuditQuery.mem_matching, AuditQuery.pairwise_matching hs,
      fun wider hwider => AuditQuery.matching_eq_filter hs hwider, ?_⟩
    intro htexts hid hperPage hreadable
    exact AuditPage.exists_partition htexts hid hreadable hs hstored hnumbered hperPage
  · intro hnoted e he
    exact ((readable_run hrows hspares hnoted).audit e he).2 e rfl

/-- Three regulations are created. -/
def creations : List Arrival :=
  [.creation,
    .plain "POST" "/api/v1/projects/1/regulations" "\x7b\"name\": \"q\", \"type_id\": 1\x7d",
    .plain "POST" "/api/v1/projects/1/regulations" "\x7b\"name\": \"p\", \"type_id\": 1\x7d"]

/-- With two entries to a page, the creations of the three regulations make up two pages. -/
theorem pages_partition_creations :
    let settings := Settings.ofDatabase "sqlite"
    let steps := creations.map Arrival.step
    let s := (sample.run settings steps).2.store
    let q : AuditQuery := ⟨none, some "regulations", none, some .create, 1, 2⟩
    let wider : AuditQuery := ⟨some [], none, none, some .create, 1, 2⟩
    (sample.store.Consistent ∧ sample.store.Every Row.IsReadable ∧
      Trail.IsNumbered sample.store ∧ ∀ p ∈ steps, .audit ∉ p.2.editedTables) ∧
    (∃ pages, AuditPage.Partition s q pages ∧ pages.length = 2) ∧
    q.matching s = (wider.matching s).filter fun e => q.Selects e := by
  intro settings steps s q wider
  have hnumbered : Trail.IsNumbered sample.store := fun e he => absurd he List.not_mem_nil
  have hspares : ∀ p ∈ steps, .audit ∉ p.2.editedTables := by
    intro p hp
    obtain ⟨a, -, rfl⟩ := List.mem_map.1 hp
    exact List.not_mem_nil
  have hnoted : ∀ p ∈ steps, ∀ op, p.2.operation? settings = some op →
      op.IsNoting fun n => (Trail.Action.ofName? n.action).isSome := by
    intro p hp op hop
    obtain ⟨a, -, rfl⟩ := List.mem_map.1 hp
    exact Operation.isNoting_of_isPosed (Server.isPosed_of_operationOf? hop)
  have hstart : sample.store.Consistent := Store.initial_sample.toConsistent
  obtain ⟨hqueries, hknown⟩ := @pages_partition settings sample steps hstart readable_sample
    hnumbered hspares
  obtain ⟨-, -, hwider, hpages⟩ := hqueries q
  obtain ⟨pages, hpages⟩ := hpages (by decide) (by decide) (by decide)
    fun e he _ => hknown hnoted e he
  refine ⟨⟨hstart, readable_sample, hnumbered, hspares⟩, ⟨pages, hpages, ?_⟩,
    hwider wider ⟨by decide, by decide, by decide, by decide⟩⟩
  have hlength : (q.matching s).length = 3 := by
    rw [AuditQuery.matching, List.length_mergeSort]
    decide +kernel
  -- three entries need two pages, and two are enough
  have henough : ((q.matching s).length : Int) ≤ pages.length * 2 := hpages.least.1
  have htwo : ((q.matching s).length : Int) ≤ (2 : Nat) * 2 := by omega
  have hleast : pages.length ≤ 2 := hpages.least.2 htwo
  omega

/-- Entries on a row are asked for. -/
def entriesAsked (id : Text) : Arrival where
  context := ⟨⟨0⟩, none, none, false⟩
  outage := none
  request := ⟨"GET", "/api/v1/audit-log", ("entity_id=" : Text) ++ id, [], [], none⟩

/-- A row with an id of more than 64 bits has no entries, but instead of an empty listing the
request for them has an internal fault. -/
theorem vast_id_not_listed :
    let settings := Settings.ofDatabase "sqlite"
    let s := (sample.run settings (creations.map Arrival.step)).2.store
    let q : AuditQuery := ⟨none, none, some storageBound, none, 1, 50⟩
    let asked := entriesAsked "9223372036854775808"
    Server.operationOf? settings asked.request = some (.browseTrail q) ∧
    (∀ e ∈ s.audit, ¬ q.Selects e) ∧
    AuditPage.find s q = .error .integerBeyondStorage ∧
    (asked.outcome settings s).answer.status = 500 := by
  decide +kernel

end World

end ComplianceRegistry
