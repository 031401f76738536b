import ComplianceRegistry.Proofs.Agreement
import ComplianceRegistry.Proofs.Asking
import ComplianceRegistry.Proofs.Encoding
import ComplianceRegistry.Proofs.Faults
import ComplianceRegistry.Proofs.Steps

/-!
# Rows that can be read

Storage takes a row only if its integers fit and its texts have bytes, and what requests record in
the trail has an action that is known. So every row that is there can be read again, and a look-up
whose integers and texts can be handed to storage is carried out, or what it looks for is missing.

## Main definitions

* `Store.Every` — all rows are of some sort
* `Row.IsReadable` — a row can be read again
* `Operation.IsLookup` — reads of the tables
* `Operation.integers` — the integers that a read asks with

## Main results

* `Store.Every.preserves` — a sort that holds of all rows that storage takes is kept by statements
* `World.readable_serve` — after any requests all rows can be read
* `World.storable_run` — after every run all rows are such as storage takes
* `Operation.missing_of_error` — a look-up fails for nothing else than what is missing
-/

namespace ComplianceRegistry

/-! ### All rows -/

/-- All rows are of some sort. -/
structure Store.Every (p : Row → Prop) (s : Store) : Prop where
  types : ∀ r ∈ s.types, p (.type r)
  projects : ∀ r ∈ s.projects, p (.project r)
  versions : ∀ r ∈ s.versions, p (.version r)
  regulations : ∀ r ∈ s.regulations, p (.regulation r)
  statuses : ∀ r ∈ s.statuses, p (.status r)
  audit : ∀ r ∈ s.audit, p (.audit r)

namespace Store.Every

variable {p : Row → Prop} {s after : Store} {row : Row} {table : Table} {id : Int}

theorem mono {q : Row → Prop} (hs : s.Every p) (h : ∀ r, p r → q r) : s.Every q where
  types r hr := h _ (hs.types r hr)
  projects r hr := h _ (hs.projects r hr)
  versions r hr := h _ (hs.versions r hr)
  regulations r hr := h _ (hs.regulations r hr)
  statuses r hr := h _ (hs.statuses r hr)
  audit r hr := h _ (hs.audit r hr)

theorem push (hs : s.Every p) (hrow : p row) : (s.push row).Every p := by
  cases row with
  | type r => exact { hs with types := forall_mem_append hs.types hrow }
  | project r => exact { hs with projects := forall_mem_append hs.projects hrow }
  | version r => exact { hs with versions := forall_mem_append hs.versions hrow }
  | regulation r => exact { hs with regulations := forall_mem_append hs.regulations hrow }
  | status r => exact { hs with statuses := forall_mem_append hs.statuses hrow }
  | audit r => exact { hs with audit := forall_mem_append hs.audit hrow }

theorem put (hs : s.Every p) (hrow : p row) : (s.put row).Every p := by
  cases row with
  | type r => exact { hs with types := forall_mem_putById hs.types hrow }
  | project r => exact { hs with projects := forall_mem_putById hs.projects hrow }
  | version r => exact { hs with versions := forall_mem_putById hs.versions hrow }
  | regulation r => exact { hs with regulations := forall_mem_putById hs.regulations hrow }
  | status r => exact { hs with statuses := forall_mem_putById hs.statuses hrow }
  | audit r => exact { hs with audit := forall_mem_putById hs.audit hrow }

theorem dropStatuses (hs : s.Every p) (picked : Status → Bool) :
    (s.dropStatuses picked).Every p :=
  { hs with statuses := fun r hr => hs.statuses r (List.mem_of_mem_filter hr) }

theorem dropVersion (hs : s.Every p) : (s.dropVersion id).Every p :=
  { hs.dropStatuses _ with versions := fun r hr => hs.versions r (List.mem_of_mem_filter hr) }

theorem dropRegulation (hs : s.Every p) : (s.dropRegulation id).Every p :=
  { hs.dropStatuses _ with
    regulations := fun r hr => hs.regulations r (List.mem_of_mem_filter hr) }

theorem dropProject (hs : s.Every p) : (s.dropProject id).Every p := by
  -- a project takes its versions and then its regulations along
  have hversions (ids : List Int) : (ids.foldl Store.dropVersion s).Every p :=
    List.foldlRecOn ids Store.dropVersion hs fun _ ht _ _ => ht.dropVersion
  have hregulations {t : Store} (ht : t.Every p) (ids : List Int) :
      (ids.foldl Store.dropRegulation t).Every p :=
    List.foldlRecOn ids Store.dropRegulation ht fun _ hu _ _ => hu.dropRegulation
  exact { hregulations (hversions _) _ with
    projects := fun r hr => hs.projects r (List.mem_of_mem_filter hr) }

theorem lift (hs : s.Every p) : (s.lift id table).Every p := by
  cases table with
  | types => exact { hs with types := fun r hr => hs.types r (List.mem_of_mem_filter hr) }
  | projects => exact { hs with projects := fun r hr => hs.projects r (List.mem_of_mem_filter hr) }
  | versions => exact { hs with versions := fun r hr => hs.versions r (List.mem_of_mem_filter hr) }
  | regulations =>
    exact { hs with regulations := fun r hr => hs.regulations r (List.mem_of_mem_filter hr) }
  | statuses => exact { hs with statuses := fun r hr => hs.statuses r (List.mem_of_mem_filter hr) }
  | audit => exact { hs with audit := fun r hr => hs.audit r (List.mem_of_mem_filter hr) }

theorem remove (hs : s.Every p) (h : s.remove table id = .ok after) : after.Every p := by
  cases table with
  | projects => exact Except.ok.inj h ▸ hs.dropProject
  | versions => exact Except.ok.inj h ▸ hs.dropVersion
  | regulations => exact Except.ok.inj h ▸ hs.dropRegulation
  | statuses => exact Except.ok.inj h ▸ hs.dropStatuses _
  | audit =>
    have hlifted : (s.lift id .audit).Every p := hs.lift
    exact Except.ok.inj h ▸ hlifted
  | types =>
    unfold Store.remove at h
    dsimp only at h
    split at h
    · cases h
    · have hlifted : (s.lift id .types).Every p := hs.lift
      exact Except.ok.inj h ▸ hlifted

theorem insert (hs : s.Every p) (hrow : row.check = .ok () → p row)
    (h : s.insert row = .ok after) : after.Every p := by
  obtain ⟨hcheck, -, -, rfl⟩ := insert_eq_ok h
  exact hs.push (hrow hcheck)

theorem move (hs : s.Every p) (hrow : row.check = .ok () → p row)
    (h : s.move id row = .ok after) : after.Every p := by
  unfold Store.move at h
  split at h
  · obtain ⟨hcheck, -, rfl⟩ := replace_eq_ok h
    exact hs.put (hrow hcheck)
  · obtain ⟨_, -, h⟩ := bind_eq_ok.1 h
    split at h
    · cases h
    · exact hs.lift.insert hrow h

variable {ctx : Context} {isNoted : Trail.Note → Prop}

theorem record {notes : List Trail.Note} (hs : s.Every p)
    (hentry : ∀ n ∈ notes, ∀ id, (Row.audit (n.entry ctx id)).check = .ok () →
      p (.audit (n.entry ctx id)))
    (h : Trail.record ctx s notes = .ok after) : after.Every p := by
  induction notes generalizing s with
  | nil => exact Except.ok.inj h ▸ hs
  | cons n notes ih =>
    obtain ⟨_, hcheck, h⟩ := bind_eq_ok.1 h
    have hpushed := hs.push (hentry n (List.mem_cons_self ..) _ hcheck)
    exact ih hpushed (fun m hm => hentry m (List.mem_cons_of_mem n hm)) h

/-- A sort that holds of all rows that storage takes, and of the entries for notes of some kind, is
kept by statements that spare the trail. -/
theorem preserves (hregular : ∀ n : Trail.Note, n.IsRegular → isNoted n)
    (hrow : ∀ row, row.table ≠ .audit → row.check = .ok () → p row)
    (hentry : ∀ n id, isNoted n → (Row.audit (Trail.Note.entry n ctx id)).check = .ok () →
      p (.audit (Trail.Note.entry n ctx id))) :
    Store.Preserves ctx (· ≠ .audit) isNoted (Store.Every p) where
  tables _ h := h
  notes := hregular
  insert hopen hs := hs.insert (hrow _ hopen)
  move hopen hs := hs.move (hrow _ hopen)
  remove _ hs := hs.remove
  dropStatuses picked hs := hs.dropStatuses picked
  record hnotes hs := hs.record fun n hn id => hentry n id (hnotes n hn)

/-- All rows are such as storage takes, whatever statements write them. -/
theorem preserves_check :
    Store.Preserves ctx (fun _ => True) (fun _ => True)
      (Store.Every fun r => r.check = .ok ()) where
  tables _ _ := trivial
  notes _ _ := trivial
  insert _ hs := hs.insert fun hrow => hrow
  move _ hs := hs.move fun hrow => hrow
  remove _ hs := hs.remove
  dropStatuses picked hs := hs.dropStatuses picked
  record _ hs := hs.record fun _ _ _ hentry => hentry

end Store.Every

/-! ### Rows that can be read -/

/-- The row can be read again: storage takes it, and an entry of the trail has a known action. -/
def Row.IsReadable (r : Row) : Prop :=
  r.check = .ok () ∧ ∀ e, r = .audit e → AuditPage.readable e

/-- A row that can be stored has an id that fits. -/
theorem Row.storable_id {row : Row} (h : row.check = .ok ()) : Storable row.id := by
  refine checkInteger_eq_ok.1 (Row.check_eq_ok.1 h ("id", .integer row.id) ?_)
  cases row <;> exact List.mem_cons_self

/-- Storage takes the rows that can be read again. -/
theorem Store.Every.checked {s : Store} (h : s.Every Row.IsReadable) :
    s.Every fun r => r.check = .ok () :=
  h.mono fun _ hr => hr.1

theorem Row.isReadable_of_check {r : Row} (htable : r.table ≠ .audit) (h : r.check = .ok ()) :
    r.IsReadable := by
  refine ⟨h, ?_⟩
  rintro e rfl
  exact absurd rfl htable

/-- Statements keep all rows readable, as long as the trail gets known actions. -/
theorem Store.Every.preserves_readable {ctx : Context} :
    Store.Preserves ctx (· ≠ .audit) (fun n => (Trail.Action.ofName? n.action).isSome)
      (Store.Every Row.IsReadable) := by
  refine preserves (fun n hn => hn.action_known) (fun _ => Row.isReadable_of_check) ?_
  intro n id hknown hcheck
  refine ⟨hcheck, ?_⟩
  rintro e ⟨⟩
  exact hknown

namespace World

variable {settings : Settings} {w : World} {a : Arrival} {arrivals : List Arrival} {s : Store}
variable {steps : List (Context × Step)}

theorem readable_outcome (hs : s.Every Row.IsReadable) :
    (a.outcome settings s).store.Every Row.IsReadable := by
  have hnoted : ∀ op, a.step.2.operation? settings = some op →
      op.IsNoting fun n => (Trail.Action.ofName? n.action).isSome :=
    fun op hop => Operation.isNoting_of_isPosed (Server.isPosed_of_operationOf? hop)
  have hopen : ∀ t ∈ a.step.2.editedTables, t ≠ .audit := nofun
  have hpreserves : Store.Preserves (a.step.2.contextIn a.context) (· ≠ .audit)
      (fun n => (Trail.Action.ofName? n.action).isSome) (Store.Every Row.IsReadable) :=
    Store.Every.preserves_readable
  exact Step.effect_preserves hpreserves hopen hnoted hs

/-- After any requests all rows can be read. -/
theorem readable_serve (h : w.store.Every Row.IsReadable) :
    (w.serve settings arrivals).store.Every Row.IsReadable :=
  serve_induction h fun _ _ => readable_outcome

/-- After every run all rows are such as storage takes. -/
theorem storable_run (h : w.store.Every fun r => r.check = .ok ()) :
    (w.run settings steps).2.store.Every fun r => r.check = .ok () :=
  run_induction h fun _ _ _ hs => Step.effect_preserves Store.Every.preserves_check
    (fun _ _ => trivial) (fun _ _ _ _ _ _ _ _ => trivial) hs

/-- After a run that spares the trail and remarks on known actions all rows can be read. -/
theorem readable_run (h : w.store.Every Row.IsReadable)
    (hspares : ∀ p ∈ steps, .audit ∉ p.2.editedTables)
    (hnoted : ∀ p ∈ steps, ∀ op, p.2.operation? settings = some op →
      op.IsNoting fun n => (Trail.Action.ofName? n.action).isSome) :
    (w.run settings steps).2.store.Every Row.IsReadable :=
  run_induction h fun p hp _ hs => Step.effect_preserves Store.Every.preserves_readable
    (fun _ ht hne => hspares p hp (hne ▸ ht)) (hnoted p hp) hs

theorem readable_sample : sample.store.Every Row.IsReadable where
  types t ht := Row.isReadable_of_check nofun <|
    (by decide : ∀ t ∈ sample.store.types, (Row.type t).check = .ok ()) t ht
  projects p hp := Row.isReadable_of_check nofun <|
    (by decide : ∀ p ∈ sample.store.projects, (Row.project p).check = .ok ()) p hp
  versions v hv := Row.isReadable_of_check nofun <|
    (by decide : ∀ v ∈ sample.store.versions, (Row.version v).check = .ok ()) v hv
  regulations r hr := absurd hr List.not_mem_nil
  statuses st hst := absurd hst List.not_mem_nil
  audit e he := absurd he List.not_mem_nil

end World

/-! ### What look-ups find -/

variable {s : Store} {project id : Int} {catalogId : Text}

/-- Steps that all succeed give a result for each. -/
theorem exists_mapM_eq_ok {α β : Type} {f : α → Except Fault β} {rows : List α}
    (h : ∀ r ∈ rows, ∃ b, f r = .ok b) : ∃ bs, rows.mapM f = .ok bs := by
  induction rows with
  | nil => exact ⟨[], rfl⟩
  | cons r rows ih =>
    obtain ⟨b, hb⟩ := h r (List.mem_cons_self ..)
    obtain ⟨bs, hbs⟩ := ih fun g hg => h g (List.mem_cons_of_mem r hg)
    refine ⟨b :: bs, ?_⟩
    rw [List.mapM_cons, hb, hbs]
    rfl

theorem mem_of_mapM_eq_ok {α β : Type} {f : α → Except Fault β} {rows : List α} {bs : List β}
    {b : β} (h : rows.mapM f = .ok bs) (hb : b ∈ bs) : ∃ r ∈ rows, f r = .ok b := by
  induction rows generalizing bs with
  | nil =>
    obtain rfl : [] = bs := Except.ok.inj h
    simp at hb
  | cons r rows ih =>
    rw [List.mapM_cons] at h
    obtain ⟨first, hfirst, h⟩ := bind_eq_ok.1 h
    obtain ⟨others, hothers, h⟩ := bind_eq_ok.1 h
    obtain rfl : first :: others = bs := Except.ok.inj h
    rcases List.mem_cons.1 hb with rfl | hb
    · exact ⟨r, List.mem_cons_self .., hfirst⟩
    · obtain ⟨g, hg, hfound⟩ := ih hothers hb
      exact ⟨g, List.mem_cons_of_mem r hg, hfound⟩

namespace Catalog

theorem exists_find (hid : Storable id) (h : id ∈ s.types.map (·.id)) :
    ∃ t, find s id = .ok t := by
  simp only [find, checkInteger_eq_ok.2 hid, bind, Except.bind]
  cases ht : s.type? id with
  | some t => exact ⟨t, rfl⟩
  | none =>
    obtain ⟨t, hmem, hsame⟩ := List.mem_map.1 h
    exact absurd hsame (findById_eq_none ht t hmem)

theorem missing_of_find {f : Fault} (hid : Storable id) (h : find s id = .error f) :
    ∃ what, f = .notFound what := by
  simp only [find, checkInteger_eq_ok.2 hid, bind, Except.bind] at h
  split at h
  · cases h
  · exact ⟨_, (Except.error.inj h).symm⟩

end Catalog

namespace Regulations

variable {r : Regulation} {v : RegulationView} {address : Address}

theorem view_eq_ok (h : view s r = .ok v) : v.regulation = r ∧ v.type ∈ s.types := by
  obtain ⟨t, ht, h⟩ := bind_eq_ok.1 h
  obtain rfl := Except.ok.inj h
  exact ⟨rfl, (Catalog.find_eq_ok ht).1⟩

theorem get_eq_ok (h : get s project address = .ok v) :
    v.regulation ∈ s.regulations ∧ v.type ∈ s.types := by
  obtain ⟨r, hr, h⟩ := bind_eq_ok.1 h
  obtain ⟨rfl, htype⟩ := view_eq_ok h
  exact ⟨(mem_of_find_eq_ok hr).1, htype⟩

theorem mem_of_list_eq_ok {vs : List RegulationView} (h : list s project = .ok vs) (hv : v ∈ vs) :
    v.regulation ∈ s.regulations ∧ v.type ∈ s.types := by
  obtain ⟨_, -, h⟩ := bind_eq_ok.1 h
  obtain ⟨r, hr, hview⟩ := mem_of_mapM_eq_ok h hv
  obtain ⟨rfl, htype⟩ := view_eq_ok hview
  exact ⟨List.mem_of_mem_filter (List.mem_mergeSort.1 hr), htype⟩

variable (hs : s.Consistent) (hrows : s.Every fun r => r.check = .ok ())

include hs hrows

/-- A regulation that is there can be seen with its type. -/
theorem exists_view (hr : r ∈ s.regulations) : ∃ v, view s r = .ok v := by
  -- the id of the type was stored with the regulation, so that it can be asked for
  have htype : Storable r.typeId := checkInteger_eq_ok.1 <|
    Row.check_eq_ok.1 (hrows.regulations r hr) ("type_id", .integer r.typeId) (by
      simp [Row.columns, Regulation.columns])
  obtain ⟨t, ht⟩ := Catalog.exists_find htype (hs.regulationTypes r hr)
  exact ⟨⟨r, t⟩, by simp only [view, ht, bind, Except.bind]⟩

theorem exists_list (hproject : Storable project) : ∃ vs, list s project = .ok vs := by
  simp only [list, checkInteger_eq_ok.2 hproject, bind, Except.bind]
  refine exists_mapM_eq_ok fun r hr => exists_view hs hrows ?_
  exact List.mem_of_mem_filter (List.mem_mergeSort.1 hr)

theorem missing_of_get {f : Fault} (hproject : Storable project)
    (haddress : checkAddress address = .ok ()) (h : get s project address = .error f) :
    ∃ what, f = .notFound what := by
  -- a regulation that is found can be seen, so that only the search for it can fail
  rcases bind_eq_error h with h | ⟨r, hr, h⟩
  · cases hat : s.regulationsAt project address with
    | nil =>
      rw [find_of_nil hproject haddress hat] at h
      exact ⟨_, (Except.error.inj h).symm⟩
    | cons r others =>
      rw [find_of_mem hs hproject haddress (hat ▸ List.mem_cons_self ..)] at h
      cases h
  · obtain ⟨v, hv⟩ := exists_view hs hrows (mem_of_find_eq_ok hr).1
    rw [hv] at h
    cases h

end Regulations

namespace Statuses

variable {regulation : Int} {v : StatusView}

theorem get_eq_ok (h : get s project regulation catalogId = .ok v) :
    v.status ∈ s.statuses ∧ v.catalogId.Encodable := by
  obtain ⟨_, -, h⟩ := bind_eq_ok.1 h
  obtain ⟨_, -, h⟩ := bind_eq_ok.1 h
  obtain ⟨_, hcatalog, h⟩ := bind_eq_ok.1 h
  dsimp only at h
  split at h
  · next found hfound =>
    obtain rfl := Except.ok.inj h
    obtain ⟨st, hst, hview⟩ := List.mem_filterMap.1 (List.mem_of_find?_eq_some hfound)
    have hkeys := List.find?_some hfound
    simp only [decide_eq_true_eq] at hkeys
    exact ⟨(viewIn?_eq_some hview).1 ▸ hst, hkeys.2 ▸ checkText_eq_ok.1 hcatalog⟩
  · cases h

theorem mem_of_list_eq_ok {vs : List StatusView} (h : list s project catalogId = .ok vs)
    (hv : v ∈ vs) : v.status ∈ s.statuses ∧ v.catalogId.Encodable := by
  rw [list_eq_joined] at h
  obtain ⟨_, -, h⟩ := bind_eq_ok.1 h
  obtain ⟨_, hcatalog, h⟩ := bind_eq_ok.1 h
  obtain rfl := Except.ok.inj h
  obtain ⟨b, hb, rfl⟩ := List.mem_map.1 hv
  obtain ⟨st, hst, hjoined⟩ := List.mem_filterMap.1 (List.mem_mergeSort.1 hb)
  obtain ⟨hview, -, hsame⟩ := joined?_eq_some hjoined
  exact ⟨(viewIn?_eq_some hview).1 ▸ hst, hsame ▸ checkText_eq_ok.1 hcatalog⟩

theorem exists_list (hproject : Storable project) (hcatalog : catalogId.Encodable) :
    ∃ vs, list s project catalogId = .ok vs := by
  simp only [list, checkInteger_eq_ok.2 hproject, checkText_eq_ok.2 hcatalog, bind, Except.bind]
  exact ⟨_, rfl⟩

theorem missing_of_get {f : Fault} (hproject : Storable project) (hregulation : Storable regulation)
    (hcatalog : catalogId.Encodable) (h : get s project regulation catalogId = .error f) :
    ∃ what, f = .notFound what := by
  simp only [get, checkInteger_eq_ok.2 hproject, checkInteger_eq_ok.2 hregulation,
    checkText_eq_ok.2 hcatalog, bind, Except.bind] at h
  split at h
  · cases h
  · exact ⟨_, (Except.error.inj h).symm⟩

end Statuses

namespace AuditPage

variable {q : AuditQuery} {page : AuditPage}

theorem mem_of_mem_page {e : AuditEntry}
    (h : e ∈ ((q.matching s).drop q.offset.toNat).take q.perPage.toNat) : e ∈ s.audit :=
  List.mem_of_mem_filter (List.mem_mergeSort.1 (List.mem_of_mem_drop (List.mem_of_mem_take h)))

theorem mem_of_find_eq_ok (h : find s q = .ok page) : ∀ e ∈ page.items, e ∈ s.audit := by
  obtain ⟨_, -, h⟩ := bind_eq_ok.1 h
  obtain ⟨_, -, h⟩ := bind_eq_ok.1 h
  obtain ⟨_, -, h⟩ := bind_eq_ok.1 h
  obtain ⟨_, -, h⟩ := bind_eq_ok.1 h
  dsimp only at h
  split at h
  · obtain rfl := Except.ok.inj h
    exact fun e he => mem_of_mem_page he
  · cases h

/-- The page as it is cut out of the entries that pass the filters. -/
def cut (s : Store) (q : AuditQuery) : AuditPage where
  items := ((q.matching s).drop q.offset.toNat).take q.perPage.toNat
  total := (q.matching s).length
  page := q.page
  perPage := q.perPage
  pages := ((q.matching s).length + q.perPage - 1) / q.perPage

section Asking

variable (htexts : ∀ t ∈ q.module.toList ++ q.entityType.toList, t.Encodable)
variable (hid : Storable (q.entityId.getD 0)) (hoffset : Storable q.offset)

include htexts hid hoffset

/-- What storage can be asked for is found, as long as the entries on the page can be shown. -/
theorem find_eq_cut (hitems : ∀ e ∈ (cut s q).items, readable e) : find s q = .ok (cut s q) := by
  obtain ⟨hmodule, hentityType⟩ := List.forall_mem_append.1 htexts
  have hall : (((q.matching s).drop q.offset.toNat).take q.perPage.toNat).all readable :=
    List.all_eq_true.2 hitems
  simp only [find, checkText?_eq_ok hmodule, checkText?_eq_ok hentityType, checkInteger_eq_ok.2 hid,
    checkInteger_eq_ok.2 hoffset, bind, Except.bind, hall, if_true]
  rfl

theorem exists_find (hrows : s.Every Row.IsReadable) : ∃ page, find s q = .ok page :=
  ⟨_, find_eq_cut htexts hid hoffset fun e he => (hrows.audit e (mem_of_mem_page he)).2 e rfl⟩

end Asking

end AuditPage

namespace Operation

/-- The operation looks something up in the tables. -/
def IsLookup : Operation → Prop
  | .listTypes | .findType _ | .listRegulations _ | .getRegulation .. | .listStatuses ..
  | .getStatus .. | .browseTrail _ => True
  | _ => False

/-- The integers that a look-up asks with. A page of the trail is asked for by the number of
entries before it. -/
def integers : Operation → List Int
  | .findType id => [id]
  | .listRegulations p | .listStatuses p _ => [p]
  | .getRegulation p (.byId id) => [p, id]
  | .getRegulation p (.byName _) => [p]
  | .getStatus p r _ => [p, r]
  | .browseTrail q => [q.entityId.getD 0, q.offset]
  | _ => []

section Queries

variable {α β : Type} {ask : Store → Except Fault α} {tell : α → β}

/-- What is looked up is told as it is found. -/
theorem answer_query_eq_ok {b : β} : ((tell <$> Work.query ask).perform s).answer = .ok b ↔
    ∃ a, ask s = .ok a ∧ tell a = b := by
  rw [Work.perform_map]
  change (ask s).map tell = .ok b ↔ _
  cases ask s <;> simp [Except.map]

theorem answer_query_eq_error {f : Fault} :
    ((tell <$> Work.query ask).perform s).answer = .error f ↔ ask s = .error f := by
  rw [Work.perform_map]
  change (ask s).map tell = .error f ↔ _
  cases ask s <;> simp [Except.map]

end Queries

/-- A look-up fails for nothing else than what is missing. -/
theorem missing_of_error {ctx : Context} {op : Operation} {f : Fault} (hs : s.Consistent)
    (hrows : s.Every Row.IsReadable) (hop : op.IsLookup) (htexts : ∀ t ∈ op.asked, t.Encodable)
    (hintegers : ∀ n ∈ op.integers, Storable n)
    (h : ((op.run ctx).perform s).answer = .error f) : ∃ what, f = .notFound what := by
  have hchecked : s.Every fun r => r.check = .ok () := hrows.checked
  have hfound {α : Type} {x : Except Fault α} (hx : ∃ a, x = .ok a) (h : x = .error f) :
      ∃ what, f = .notFound what := by
    obtain ⟨a, ha⟩ := hx
    rw [ha] at h
    cases h
  cases op with
  | listTypes =>
    cases answer_query_eq_error.1 h
  | findType id =>
    replace h := answer_query_eq_error.1 h
    have hid : Storable id := hintegers id (List.mem_singleton_self id)
    exact Catalog.missing_of_find hid h
  | listRegulations p =>
    replace h := answer_query_eq_error.1 h
    have hp : Storable p := hintegers p (List.mem_singleton_self p)
    exact hfound (Regulations.exists_list hs hchecked hp) h
  | getRegulation p address =>
    replace h := answer_query_eq_error.1 h
    cases address with
    | byId id =>
      obtain ⟨hp, hid⟩ : Storable p ∧ Storable id := by simpa [integers] using hintegers
      have haddress : Regulations.checkAddress (.byId id) = .ok () := checkInteger_eq_ok.2 hid
      exact Regulations.missing_of_get hs hchecked hp haddress h
    | byName name =>
      have hp : Storable p := hintegers p (List.mem_singleton_self p)
      have haddress : Regulations.checkAddress (.byName name) = .ok () := by
        cases name with
        | none => rfl
        | some n => exact checkText_eq_ok.2 (htexts n (List.mem_singleton_self n))
      exact Regulations.missing_of_get hs hchecked hp haddress h
  | listStatuses p v =>
    replace h := answer_query_eq_error.1 h
    have hp : Storable p := hintegers p (List.mem_singleton_self p)
    have hv : v.Encodable := htexts v (List.mem_singleton_self v)
    exact hfound (Statuses.exists_list hp hv) h
  | getStatus p r v =>
    replace h := answer_query_eq_error.1 h
    obtain ⟨hp, hr⟩ : Storable p ∧ Storable r := by simpa [integers] using hintegers
    have hv : v.Encodable := htexts v (List.mem_singleton_self v)
    exact Statuses.missing_of_get hp hr hv h
  | browseTrail q =>
    replace h := answer_query_eq_error.1 h
    obtain ⟨hid, hoffset⟩ : Storable (q.entityId.getD 0) ∧ Storable q.offset := by
      simpa [integers] using hintegers
    exact hfound (AuditPage.exists_find htexts hid hoffset hrows) h
  | _ => exact hop.elim

end Operation

end ComplianceRegistry
