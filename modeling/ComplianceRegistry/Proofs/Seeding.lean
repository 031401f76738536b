import ComplianceRegistry.Proofs.Bounds
import ComplianceRegistry.Proofs.Growth

/-!
# Seeding the catalog

Seeding adds one type for each kind that has none of its name, in the order of the kinds and
numbered on from the largest id. It touches nothing else, whatever the catalog holds: types of other
names, with other descriptions, with gaps between their ids. From then on the catalog is complete,
and no call and no further seeding changes that, so that to seed again changes nothing.

A call and a start of the server add an entry to the trail for each new type. The script that seeds
a registry does not: the listeners that record changes are installed by the server alone. Entries
name who asks; where the trail cannot, nothing is seeded.

## Main definitions

* `Catalog.defaults` — the names and the descriptions of the types of a complete catalog
* `Catalog.newTypes`, `Catalog.newEntries` — the types that seeding adds, and their entries
* `Catalog.completed` — the store with these types and entries
* `Catalog.HasRoom` — the ids for them have not run out
* `Step.Seeds`, `Step.tellSeeded` — the ways to seed, and what they tell of it

## Main results

* `Catalog.perform_seed_of_named`, `Catalog.perform_seed_of_unnamed` — what seeding comes to
* `Step.types_effect` — no step but an edit takes a type away from a complete catalog
* `World.seeding_completes` — seeding, and seeding again after anything else
* `World.script_leaves_no_entries` — what the script does not do
-/

namespace ComplianceRegistry

variable {ctx : Context} {s after : Store} {k : Kind} {kinds : List Kind} {first : Int}
  {recorded : Bool}

namespace Catalog

/-! ### What seeding is to add -/

/-- The names of the types of a complete catalog in their order, each with the description that a
new type has. -/
def defaults : List (Text × Text) :=
  [("Boolean", "A regulation that expects a boolean value, valid values: true"),
    ("Threshold", "A regulation that expects a value to meet a threshold"),
    ("JUnit",
      "A regulation that validates JUnit XML test results, valid value is threshold for pass percentage")]

/-- Those of them that no type has the name of. -/
def lacking (s : Store) : List (Text × Text) :=
  defaults.filter fun d => !(s.types.map (·.name)).contains d.1

/-- New types with these names and descriptions, numbered on from the largest id. -/
def newTypes (s : Store) : List RegulationType :=
  (lacking s).mapIdx fun i d => ⟨nextId (s.types.map (·.id)) + i, d.1, some d.2⟩

/-- The entries on the new types, numbered on from the largest id of the trail. -/
def newEntries (ctx : Context) (s : Store) : List AuditEntry :=
  (newTypes s).mapIdx fun i t =>
    { id := nextId (s.audit.map (·.id)) + i
      userId := ctx.user
      module := "regulations"
      action := "create"
      entityType := "regulation_types"
      entityId := t.id
      fieldName := none
      oldValue := none
      newValue := none
      address := ctx.address
      createdAt := ctx.clock }

/-- The store with the new types, and with their entries if changes are recorded. -/
def completed (recorded : Bool) (ctx : Context) (s : Store) : Store :=
  { s with
    types := s.types ++ newTypes s
    audit := s.audit ++ if recorded then newEntries ctx s else [] }

/-- The ids have not run out: there is one for each new type and for each entry that is made. -/
def HasRoom (recorded : Bool) (s : Store) : Prop :=
  ∀ i < (lacking s).length, Storable (nextId (s.types.map (·.id)) + i) ∧
    (recorded → Storable (nextId (s.audit.map (·.id)) + i))

/-! ### New types -/

/-- A new type for a kind. -/
def typeOf (id : Int) (k : Kind) : RegulationType := ⟨id, k.name, some k.defaultDescription⟩

/-- New types for kinds, numbered on from the first id. -/
def typesFrom (first : Int) : List Kind → List RegulationType
  | [] => []
  | k :: kinds => typeOf first k :: typesFrom (first + 1) kinds

theorem typesFrom_eq_mapIdx :
    typesFrom first kinds = kinds.mapIdx fun i k => typeOf (first + i) k := by
  induction kinds generalizing first with
  | nil => rfl
  | cons k kinds ih => simp [typesFrom, ih, Int.add_assoc, Int.add_comm 1]

@[simp] theorem map_name_typesFrom :
    (typesFrom first kinds).map (·.name) = kinds.map Kind.name := by
  induction kinds generalizing first with
  | nil => rfl
  | cons k kinds ih => rw [typesFrom, List.map_cons, List.map_cons, ih, typeOf]

/-- The catalog is seeded by the kinds, each with its description. -/
theorem defaults_eq : defaults = Kind.all.map fun k => (k.name, k.defaultDescription) := by decide

theorem lacking_eq : lacking s = (missing s).map fun k => (k.name, k.defaultDescription) := by
  rw [lacking, defaults_eq, missing, List.filter_map]
  congr 1
  refine List.filter_congr fun k _ => Bool.eq_iff_iff.mpr ?_
  simp

theorem newTypes_eq : newTypes s = typesFrom (s.nextIdOf .types) (missing s) := by
  rw [typesFrom_eq_mapIdx, Store.nextIdOf_types]
  refine List.ext_getElem (by simp [newTypes, lacking_eq]) fun i _ _ => ?_
  simp [newTypes, lacking_eq, typeOf]

theorem length_newTypes : (newTypes s).length = (lacking s).length := List.length_mapIdx

/-- The entries are those of the notes that are made of new types. -/
theorem newEntries_eq : newEntries ctx s =
    Trail.entriesFrom ctx (nextId (s.audit.map (·.id)))
      (((newTypes s).map (·.id)).map (.row .types .create)) := by
  have hmodule : Table.moduleOf Table.types.name = "regulations" := by decide
  rw [Trail.entriesFrom_eq_mapIdx]
  refine List.ext_getElem (by simp [newEntries]) fun i _ _ => ?_
  simp only [newEntries, List.getElem_mapIdx, List.getElem_map, Trail.Note.entry, Trail.Note.row,
    hmodule]
  rfl

theorem completed_eq_logged : completed recorded ctx s =
    Trail.logged ctx (creationNotes recorded ((newTypes s).map (·.id)))
      { s with types := s.types ++ newTypes s } := by
  rw [completed, creationNotes, newEntries_eq, Trail.logged]
  cases recorded <;> rfl

/-! ### What is missing -/

theorem mem_missing : k ∈ missing s ↔ k.name ∉ s.types.map (·.name) := by
  simp [missing, Kind.mem_all]

theorem missing_congr {t : Store} (h : t.types = s.types) : missing t = missing s := by
  rw [missing, missing, h]

theorem nodup_missing : (missing s).Nodup :=
  (by decide : Kind.all.Nodup).filter _

/-- With a type for each missing kind none is missing. -/
theorem missing_eq_nil_of_forall (h : ∀ k : Kind, k.name ∈ s.types.map (·.name)) :
    missing s = [] :=
  List.eq_nil_iff_forall_not_mem.mpr fun k hk => mem_missing.mp hk (h k)

/-- New types have the names of the missing kinds. -/
theorem map_name_newTypes : (newTypes s).map (·.name) = (missing s).map Kind.name := by
  rw [newTypes_eq, map_name_typesFrom]

theorem missing_completed : missing (completed recorded ctx s) = [] := by
  refine missing_eq_nil_of_forall fun k => ?_
  rw [completed, List.map_append, map_name_newTypes, List.mem_append]
  by_cases hk : k ∈ missing s
  · exact .inr (List.mem_map_of_mem hk)
  · exact .inl (not_not.mp (mt mem_missing.mpr hk))

/-! ### What new types are -/

/-- The name of a new type is that of a kind. -/
theorem isSome_ofName?_of_mem_newTypes {t : RegulationType} (ht : t ∈ newTypes s) :
    (Kind.ofName? t.name).isSome := by
  have hname : t.name ∈ (missing s).map Kind.name :=
    map_name_newTypes ▸ List.mem_map_of_mem ht
  obtain ⟨k, -, hk⟩ := List.mem_map.mp hname
  rw [← hk, Kind.ofName?_name]
  rfl

/-- New types are numbered above all others. -/
theorem id_lt_of_mem_newTypes {t u : RegulationType} (ht : t ∈ newTypes s) (hu : u ∈ s.types) :
    u.id < t.id := by
  obtain ⟨i, hi, rfl⟩ := List.mem_mapIdx.mp ht
  have hnext : u.id < nextId (s.types.map (·.id)) := lt_nextId (List.mem_map_of_mem hu)
  change u.id < nextId (s.types.map (·.id)) + i
  omega

/-- New types are numbered upwards. -/
theorem pairwise_newTypes : (newTypes s).Pairwise fun t u => t.id < u.id := by
  refine List.pairwise_iff_getElem.mpr fun i j hi hj hij => ?_
  simp only [newTypes, List.getElem_mapIdx]
  omega

theorem nodup_names_completed (h : (s.types.map (·.name)).Nodup) :
    ((s.types ++ newTypes s).map (·.name)).Nodup := by
  rw [List.map_append, List.nodup_append, map_name_newTypes]
  refine ⟨h, nodup_missing.map fun _ _ => Kind.name_injective, ?_⟩
  rintro name hold _ hnew rfl
  obtain ⟨k, hk, rfl⟩ := List.mem_map.mp hnew
  exact mem_missing.mp hk hold

/-! ### Adding types -/

/-- Passes when all types can be handed to storage. -/
def checkTypes (types : List RegulationType) : Except Fault Unit :=
  types.forM fun t => (Row.type t).check

theorem checkTypes_cons {t : RegulationType} {types : List RegulationType} :
    checkTypes (t :: types) = ((Row.type t).check >>= fun _ => checkTypes types) := rfl

/-- A type of a kind that has none is admitted under the next id. -/
theorem insert_typeOf (hk : k.name ∉ s.types.map (·.name)) :
    s.insert (.type (typeOf (s.nextIdOf .types) k)) =
      ((Row.type (typeOf (s.nextIdOf .types) k)).check >>= fun _ =>
        .ok (s.push (.type (typeOf (s.nextIdOf .types) k)))) := by
  have hadmits : s.Admits (.type (typeOf (s.nextIdOf .types) k)) :=
    fun t ht _ hname => hk (List.mem_map.mpr ⟨t, ht, hname⟩)
  simp only [Store.insert]
  rw [if_pos ⟨Option.isNone_iff_eq_none.mpr Store.row?_nextIdOf, hadmits⟩]

/-- Types that are added one by one pass their checks one by one, and nothing else is in the way. -/
theorem addTypes_eq (hfree : ∀ k ∈ kinds, k.name ∉ s.types.map (·.name)) (hkinds : kinds.Nodup) :
    addTypes s kinds =
      (checkTypes (typesFrom (s.nextIdOf .types) kinds) >>= fun _ =>
        .ok { s with types := s.types ++ typesFrom (s.nextIdOf .types) kinds }) := by
  induction kinds generalizing s with
  | nil =>
    rw [typesFrom, List.append_nil]
    rfl
  | cons k kinds ih =>
    obtain ⟨hk, hkinds⟩ := List.nodup_cons.mp hkinds
    let row := typeOf (s.nextIdOf .types) k
    have hid : (s.push (.type row)).nextIdOf .types = s.nextIdOf .types + 1 := by
      simp only [Store.nextIdOf_types, Store.push, List.map_append, row]
      exact nextId_append_nextId
    have hnames : ∀ j ∈ kinds, j.name ∉ (s.push (.type row)).types.map (·.name) := by
      intro j hj
      simp only [Store.push, List.map_append, List.mem_append, List.map_singleton,
        List.mem_singleton, not_or]
      exact ⟨hfree j (List.mem_cons_of_mem k hj), fun h => hk (Kind.name_injective h ▸ hj)⟩
    calc addTypes s (k :: kinds)
        = s.insert (.type row) >>= (addTypes · kinds) := by
          simp only [row, typeOf, Store.nextIdOf_types]
          rfl
      _ = (Row.type row).check >>= fun _ => addTypes (s.push (.type row)) kinds := by
          rw [insert_typeOf (hfree k List.mem_cons_self)]
          cases (Row.type row).check <;> rfl
      _ = _ := by
          rw [ih hnames hkinds, hid, typesFrom, checkTypes_cons]
          simp only [Store.push, List.append_assoc, List.singleton_append]
          cases (Row.type row).check <;> rfl

/-! ### Storage -/

/-- The type can be stored when its id can. -/
theorem check_typeOf {id : Int} (hid : Storable id) : (Row.type (typeOf id k)).check = .ok () := by
  have hdescription : k.defaultDescription.Encodable := by
    cases k <;> exact Text.encodable_ofString _
  rw [Row.check_eq_ok]
  simp only [Row.columns, RegulationType.columns, List.forall_mem_cons]
  exact ⟨checkInteger_eq_ok.mpr hid, checkText_eq_ok.mpr k.encodable_name,
    checkText_eq_ok.mpr hdescription, List.forall_mem_nil _⟩

theorem checkTypes_typesFrom (h : ∀ i < kinds.length, Storable (first + i)) :
    checkTypes (typesFrom first kinds) = .ok () := by
  induction kinds generalizing first with
  | nil => rfl
  | cons k kinds ih =>
    obtain ⟨hfirst, h⟩ := forall_follow_succ.mp h
    rw [typesFrom, checkTypes_cons, check_typeOf hfirst]
    exact ih h

end Catalog

/-- Where an entry can be stored, the trail can name who asks. -/
theorem Trail.isRecordable_of_check_entry {n : Note}
    (h : (Row.audit (n.entry ctx first)).check = .ok ()) : ctx.IsRecordable := by
  have huser : Holds ctx.user := by
    by_contra huser
    exact absurd (h.symm.trans (check_of_not_holds huser)) (by simp)
  have hcells := Row.check_eq_ok.mp h
  simp only [Row.columns, AuditEntry.columns, List.forall_mem_cons] at hcells
  obtain ⟨-, -, -, -, -, -, -, -, -, haddress, -⟩ := hcells
  exact ⟨huser, Cell.check_ofText?.mp haddress⟩

namespace Catalog

/-! ### Seeding -/

/-- The types and then their entries are written, and all is committed or nothing is. -/
theorem perform_seed : (seed recorded ctx).perform s =
    match addTypes s (missing s) >>= fun grown =>
      Trail.record ctx grown (creationNotes recorded (newIds s grown)) with
    | .ok after => ⟨.ok ((missing s).map Kind.name), after, []⟩
    | .error f => ⟨.error f, s, []⟩ := by
  by_cases h : missing s = []
  · -- without anything to write there is no commit either, which makes no difference
    simp [seed, Work.perform, bind, Work.bind, Work.query, Session.start, h, pure, addTypes,
      Except.bind, newIds, creationNotes, Trail.record]
  cases hadd : addTypes s (missing s) with
  | error f =>
    simp [seed, Work.perform, bind, Work.bind, Work.query, Work.write, Session.start, h, hadd,
      Except.bind]
  | ok grown =>
    cases hrecord : Trail.record ctx grown (creationNotes recorded (newIds s grown)) with
    | error f =>
      simp [seed, Work.perform, bind, Work.bind, Work.query, Work.write, Session.start, h, hadd,
        hrecord, Except.bind]
    | ok after =>
      simp [seed, Work.perform, bind, Work.bind, Work.query, Work.write, Work.commit,
        Session.start, h, hadd, hrecord, Except.bind, pure]

section Room

variable (hroom : HasRoom recorded s)

include hroom

theorem storable_newTypes : ∀ id ∈ (newTypes s).map (·.id), Storable id := by
  intro id hid
  obtain ⟨t, ht, rfl⟩ := List.mem_map.mp hid
  obtain ⟨i, hi, rfl⟩ := List.mem_mapIdx.mp ht
  exact (hroom i hi).1

/-- With ids for the new types, all that can stand in the way are the checks of their entries. -/
theorem addTypes_record :
    (addTypes s (missing s) >>= fun grown =>
      Trail.record ctx grown (creationNotes recorded (newIds s grown))) =
    (Trail.checkEntries (Trail.entriesFrom ctx (nextId (s.audit.map (·.id)))
      (creationNotes recorded ((newTypes s).map (·.id)))) >>= fun _ =>
        .ok (completed recorded ctx s)) := by
  have hids : newIds s { s with types := s.types ++ newTypes s } = (newTypes s).map (·.id) := by
    simp [newIds]
  have htypes : checkTypes (newTypes s) = .ok () := by
    rw [newTypes_eq, Store.nextIdOf_types]
    refine checkTypes_typesFrom fun i hi => (hroom i ?_).1
    rwa [lacking_eq, List.length_map]
  rw [addTypes_eq (fun k hk => mem_missing.mp hk) nodup_missing, ← newTypes_eq, htypes]
  change Trail.record ctx _ _ = _
  rw [hids, Trail.record_eq, completed_eq_logged]

/-- Seeding completes the catalog where its entries can name who asks. -/
theorem perform_seed_of_named (hnamed : recorded → newTypes s ≠ [] → ctx.IsRecordable) :
    (seed recorded ctx).perform s =
      ⟨.ok ((newTypes s).map (·.name)), completed recorded ctx s, []⟩ := by
  have hchecks : Trail.checkEntries (Trail.entriesFrom ctx (nextId (s.audit.map (·.id)))
      (creationNotes recorded ((newTypes s).map (·.id)))) = .ok () := by
    cases recorded with
    | false => rfl
    | true =>
      by_cases hnew : newTypes s = []
      · rw [hnew]
        rfl
      · refine Trail.checkEntries_of_storable (hnamed rfl hnew) (fun n hn => ?_) fun i hi => ?_
        · obtain ⟨id, hid, rfl⟩ := List.mem_map.mp hn
          exact Trail.Note.isStorable_row (storable_newTypes hroom id hid)
        · refine (hroom i ?_).2 rfl
          simpa [creationNotes, length_newTypes] using hi
  rw [perform_seed, addTypes_record hroom, hchecks, ← map_name_newTypes]
  rfl

/-- Where there are entries to make and they cannot name who asks, seeding fails without a trace. -/
theorem perform_seed_of_unnamed (hrecorded : recorded) (hnew : newTypes s ≠ [])
    (hunnamed : ¬ctx.IsRecordable) :
    ∃ f : Fault, f.IsUnstorable ∧ (seed recorded ctx).perform s = ⟨.error f, s, []⟩ := by
  obtain ⟨t, news, hnews⟩ := List.exists_cons_of_ne_nil hnew
  cases hchecks : Trail.checkEntries (Trail.entriesFrom ctx (nextId (s.audit.map (·.id)))
      (creationNotes recorded ((newTypes s).map (·.id)))) with
  | ok _ =>
    -- the first entry would have passed its check
    rw [creationNotes, if_pos hrecorded, hnews, List.map_cons, List.map_cons, Trail.entriesFrom,
      Trail.checkEntries_cons] at hchecks
    obtain ⟨_, hfirst, -⟩ := bind_eq_ok.mp hchecks
    exact absurd (Trail.isRecordable_of_check_entry hfirst) hunnamed
  | error f =>
    refine ⟨f, ?_, ?_⟩
    · obtain ⟨e, -, he⟩ := exists_of_forM_eq_error hchecks
      exact Row.check_eq_error he
    · rw [perform_seed, addTypes_record hroom, hchecks]
      rfl

end Room

/-- Where nothing is missing, nothing is written. -/
theorem perform_seed_of_missing_eq_nil (h : missing s = []) :
    (seed recorded ctx).perform s = ⟨.ok [], s, []⟩ := by
  simp [perform_seed, h, addTypes, bind, Except.bind, newIds, creationNotes, Trail.record]

end Catalog

/-! ### Steps that seed -/

namespace Step

variable {settings : Settings} {step : Step}

/-- The step seeds the catalog, and changes are recorded as it does or not: it is a call, a start of
the server, which records changes, or the script that prints the catalog. -/
inductive Seeds : Bool → Step → Prop
  | call {recorded : Bool} : Seeds recorded (.operation (.seedTypes recorded))
  | startup : Seeds true (.startup true)
  | script {recorded : Bool} : Seeds recorded (.seeding recorded)

/-- What a step that seeds tells of it, given the names of the new types and the store. -/
def tellSeeded (names : List Text) (after : Store) : Step → Result
  | .startup _ => .answer (.types (Catalog.list after))
  | .seeding _ => .report (Catalog.report names (Catalog.list after))
  | _ => .answer (.names names)

/-- However the catalog is seeded, the step does what seeding does and tells of it. -/
theorem effect_of_seeds (hstep : step.Seeds recorded) :
    step.effect settings ctx s =
      match (Catalog.seed recorded ctx).perform s with
      | ⟨.ok names, after, announcements⟩ => ⟨step.tellSeeded names after, after, announcements⟩
      | ⟨.error f, after, announcements⟩ => ⟨.fault f, after, announcements⟩ := by
  have hrun : ((Operation.seedTypes recorded).run ctx).perform s =
      ((Catalog.seed recorded ctx).perform s).map (Except.map .names) := Work.perform_map
  have hstart : (start ctx true).perform s =
      ((Catalog.seed true ctx).perform s).map (Except.map fun _ => ()) := Work.perform_map
  rcases hseed : (Catalog.seed recorded ctx).perform s with ⟨answer, after, announcements⟩
  cases hstep with
  | call =>
    simp only [effect, hrun, hseed]
    cases answer <;> rfl
  | startup =>
    simp only [effect, hstart, hseed]
    cases answer <;> rfl
  | script =>
    simp only [effect, hseed]
    cases answer <;> rfl

/-- The step edits no rows of its own accord: whatever it writes, an operation writes. -/
def IsOrderly : Step → Prop
  | .batch _ | .erase .. => False
  | _ => True

instance : DecidablePred IsOrderly := fun step => by
  cases step <;> unfold IsOrderly <;> infer_instance

end Step

/-- Operations take no type away. -/
theorem Operation.Outcome.types_eq {op : Operation} {answer : Answer}
    {announcements : List Announcement} (hmissing : Catalog.missing s = [])
    (h : Outcome ctx s op answer after announcements) : after.types = s.types := by
  by_cases hop : op.IsPosed
  · exact (h.surroundings_eq hop).1
  · cases h with
    | seeded h => rw [h.eq_of_missing_eq_nil hmissing]
    | read | remarked => rfl
    | upserted hpair hwrites h => cases hwrites <;> exact absurd trivial hop
    | _ => exact absurd trivial hop

namespace Step

variable {settings : Settings} {step : Step}

/-- An orderly step leaves a complete catalog as it is. -/
theorem types_effect (hs : s.Consistent) (hstep : step.IsOrderly)
    (hmissing : Catalog.missing s = []) :
    (step.effect settings ctx s).store.types = s.types := by
  cases hop : step.operation? settings with
  | none =>
    rw [store_effect_of_none hop (fun _ h => by simp [h, IsOrderly] at hstep)
      fun _ _ h => by simp [h, IsOrderly] at hstep]
  | some op =>
    rw [(effect_of_operation hop).1]
    cases hanswer : ((op.run (step.contextIn ctx)).perform s).answer with
    | ok answer => exact (Operation.outcome_of_perform hs hanswer).types_eq hmissing
    | error f => rw [((Operation.run_leads hs op).perform_error hanswer).1]

end Step

namespace World

variable {settings : Settings} {w : World} {steps : List (Context × Step)} {step : Step}

/-- Orderly runs leave a complete catalog as it is. -/
theorem types_run (hs : w.store.Consistent) (hsteps : ∀ p ∈ steps, p.2.IsOrderly)
    (hmissing : Catalog.missing w.store = []) :
    (w.run settings steps).2.store.types = w.store.types := by
  -- that operations keep the types is known of consistent stores only, so both go together
  let P (t : Store) : Prop := t.Consistent ∧ t.types = w.store.types
  have hP : P (w.run settings steps).2.store := by
    refine run_induction ⟨hs, rfl⟩ fun p hp t ⟨ht, htypes⟩ => ⟨?_, ?_⟩
    · exact Step.effect_preserves Store.Consistent.preserves (fun _ _ => trivial)
        (fun _ _ _ _ _ _ _ _ => trivial) ht
    · exact (Step.types_effect ht (hsteps p hp)
        ((Catalog.missing_congr htypes).trans hmissing)).trans htypes
  exact hP.2

/-- Seeding a complete catalog adds nothing, and nothing else happens either. -/
theorem advance_of_missing_eq_nil (hstep : step.Seeds recorded)
    (hmissing : Catalog.missing w.store = []) :
    w.advance settings ctx step = (⟨step.tellSeeded [] w.store, [], []⟩, w) := by
  have heffect : step.effect settings ctx w.store =
      ⟨step.tellSeeded [] w.store, w.store, []⟩ := by
    rw [Step.effect_of_seeds hstep, Catalog.perform_seed_of_missing_eq_nil hmissing]
  simp [advance, heffect]

/-- As long as ids have not run out, a step that seeds puts a type behind the others for each name
of a complete catalog that none of them has. The new types have names of kinds, each its own, and
ids above all others. The step tells their names and adds one entry to the trail for each of them if
changes are recorded, and none if they are not; nothing else changes. After any further orderly run,
in whatever way the catalog is seeded again, it finds nothing to add and nothing changes. Where
there are entries to make and they cannot name who asks, the step fails and nothing changes
either. -/
theorem seeding_completes (hs : w.store.Consistent) (hroom : Catalog.HasRoom recorded w.store)
    (hstep : step.Seeds recorded) :
    let news := Catalog.newTypes w.store
    let seen := (w.advance settings ctx step).1
    let next := (w.advance settings ctx step).2
    ((recorded → news ≠ [] → ctx.IsRecordable) →
      next = ⟨{ w.store with
        types := w.store.types ++ news
        audit := w.store.audit ++ if recorded then Catalog.newEntries ctx w.store else [] },
        w.uplink⟩ ∧
      seen.result = step.tellSeeded (news.map (·.name)) next.store ∧ seen.deliveries = [] ∧
      (∀ t ∈ news, (Kind.ofName? t.name).isSome ∧ ∀ u ∈ w.store.types, u.id < t.id) ∧
      news.Pairwise (fun t u => t.id < u.id) ∧
      (next.store.types.map (·.name)).Nodup ∧
      ∀ (others : List (Context × Step)) (ctx' : Context) (again : Step) (recorded' : Bool),
        (∀ p ∈ others, p.2.IsOrderly) → again.Seeds recorded' →
        let later := (next.run settings others).2
        later.advance settings ctx' again = (⟨again.tellSeeded [] later.store, [], []⟩, later)) ∧
    (recorded → news ≠ [] → ¬ctx.IsRecordable →
      ∃ f : Fault, f.IsUnstorable ∧ w.advance settings ctx step = (⟨.fault f, [], []⟩, w)) := by
  intro news seen next
  refine ⟨fun hnamed => ?_, fun hrecorded hnew hunnamed => ?_⟩
  · have heffect : step.effect settings ctx w.store =
        ⟨step.tellSeeded (news.map (·.name)) (Catalog.completed recorded ctx w.store),
          Catalog.completed recorded ctx w.store, []⟩ := by
      rw [Step.effect_of_seeds hstep, Catalog.perform_seed_of_named hroom hnamed]
    have hnext : next = ⟨Catalog.completed recorded ctx w.store, w.uplink⟩ := by
      simp only [next, advance, heffect, deliver_nil]
    have hconsistent : next.store.Consistent := by
      -- one step is a run as well
      have hrun : (w.run settings [(ctx, step)]).2.store.Consistent := consistent_run hs
      exact hrun
    have hcomplete : Catalog.missing next.store = [] := hnext ▸ Catalog.missing_completed
    refine ⟨hnext, ?_, ?_, fun t ht => ⟨Catalog.isSome_ofName?_of_mem_newTypes ht,
      fun u hu => Catalog.id_lt_of_mem_newTypes ht hu⟩, Catalog.pairwise_newTypes, ?_,
      fun others ctx' again recorded' hothers hagain => ?_⟩
    · rw [hnext]
      simp only [seen, advance, heffect]
    · simp [seen, advance, heffect]
    · rw [hnext]
      exact Catalog.nodup_names_completed hs.typeNames
    · refine advance_of_missing_eq_nil hagain ?_
      rw [Catalog.missing_congr (types_run hconsistent hothers hcomplete), hcomplete]
  · obtain ⟨f, hf, hperform⟩ := Catalog.perform_seed_of_unnamed hroom hrecorded hnew hunnamed
    refine ⟨f, hf, ?_⟩
    have heffect : step.effect settings ctx w.store = ⟨.fault f, w.store, []⟩ := by
      rw [Step.effect_of_seeds hstep, hperform]
    simp [advance, heffect]

/-- A catalog with a type of the name of a kind under a description of its own, and one whose name
differs from that of a kind by a letter. -/
def ownTypes : World :=
  ⟨{ Store.empty with types := [⟨2, "Threshold", some "custom"⟩, ⟨7, "boolean", none⟩] }, ⟨[], []⟩⟩

/-- A start of the server adds the two kinds that are missing, with an entry for each, and the
script finds nothing to add after a listing of the types. -/
theorem seeding_completes_own_types :
    let settings := Settings.ofDatabase "sqlite"
    let ctx : Context := ⟨⟨0⟩, none, none, false⟩
    let next := (ownTypes.advance settings ctx (.startup true)).2
    let later := (next.run settings [(ctx, .operation .listTypes)]).2
    ownTypes.store.Consistent ∧ Catalog.HasRoom true ownTypes.store ∧ ctx.IsRecordable ∧
    next.store.types = ownTypes.store.types ++
      [⟨8, "Boolean", some "A regulation that expects a boolean value, valid values: true"⟩,
        ⟨9, "JUnit", some ("A regulation that validates JUnit XML test results, " ++
          "valid value is threshold for pass percentage")⟩] ∧
    next.store.audit.map (fun e => (e.id, e.entityId)) = [(1, 8), (2, 9)] ∧
    (later.advance settings ctx (.seeding false)).2 = later := by
  intro settings ctx next later
  have hs : ownTypes.store.Consistent := by
    constructor <;> decide
  have hroom : Catalog.HasRoom true ownTypes.store := fun i hi => by
    have hi : i < 2 := hi
    interval_cases i <;> decide
  have hctx : ctx.IsRecordable := ⟨by decide, by decide⟩
  obtain ⟨hnext, -, -, -, -, -, hagain⟩ :=
    (@seeding_completes ctx true settings ownTypes (.startup true) hs hroom .startup).1
      fun _ _ => hctx
  refine ⟨hs, hroom, hctx, (congrArg (·.store.types) hnext).trans (by decide),
    (congrArg (·.store.audit.map fun e => (e.id, e.entityId)) hnext).trans (by decide), ?_⟩
  exact congrArg Prod.snd (hagain [(ctx, .operation .listTypes)] ctx (.seeding false) false
    (by decide) .script)

/-- On a registry without types, the script adds the types that a start of the server adds, but not
the entries that a start adds. A call for a user beyond storage adds nothing at all. -/
theorem script_leaves_no_entries :
    let settings := Settings.ofDatabase "sqlite"
    let ctx : Context := ⟨⟨0⟩, none, none, false⟩
    let fresh : World := ⟨.empty, ⟨[], []⟩⟩
    let scripted := (fresh.advance settings ctx (.seeding false)).2.store
    let started := (fresh.advance settings ctx (.startup true)).2.store
    scripted.types.map (·.id) = [1, 2, 3] ∧ scripted.types = started.types ∧
    scripted.audit = [] ∧ started.audit.map (·.entityId) = [1, 2, 3] ∧
    (fresh.advance settings ⟨⟨0⟩, some (2 ^ 63), none, false⟩
      (.operation (.seedTypes true))).2.store = .empty := by
  decide +kernel

end World

end ComplianceRegistry
