import ComplianceRegistry.Proofs.Announcements
import ComplianceRegistry.Proofs.Faults
import ComplianceRegistry.Proofs.Steps

/-!
# What readers by name are told

The upload service looks regulations up by their names and keeps copies, which it drops when a
change is announced. An announcement carries one name, the one that the regulation has after the
change. That covers all that a creation, a deletion or an update in place changes for a reader by
name. An update that gives the regulation another name changes what is found under two names: under
the new one, which is announced, and under the old one, which is not.

## Main definitions

* `Sight`, `Store.sightAt` — what a reader by name sees
* `Operation.Unnames` — an update takes a name away from the regulation that has it

## Main results

* `Operation.Outcome.sightAt_eq` — nothing changes for names that are not announced or taken away
* `Operation.sightAt_of_unnames` — a name that is taken away names nothing any more
* `World.changes_told_by_name` — all changes are announced but those of names that are taken away
-/

namespace ComplianceRegistry

/-! ### What readers see -/

/-- What a reader sees of a regulation. -/
structure Sight where
  id : Int
  name : Text
  type : RegulationType
  config : Option Text
  order : Int
  displayName : Option Text
  description : Option Text
deriving DecidableEq, Repr

/-- The part of a regulation with its type that a reader sees. -/
def RegulationView.sight (v : RegulationView) : Sight where
  id := v.regulation.id
  name := v.regulation.name
  type := v.type
  config := v.regulation.config
  order := v.regulation.order
  displayName := v.regulation.displayName
  description := v.regulation.description

/-- What a reader finds under a name of a project. -/
def Store.sightAt (s : Store) (project : Int) (name : Text) : Except Fault Sight :=
  (Regulations.get s project (.byName (some name))).map RegulationView.sight

/-- The operation gives another name to the regulation of the project that has this one. -/
def Operation.Unnames (s : Store) (project : Int) (name : Text) : Operation → Prop
  | .updateRegulation p address patch => p = project ∧ ∃ before,
      Regulations.find s project address = .ok before ∧ before.name = name ∧
        patch.name.getD name ≠ name
  | _ => False

variable {ctx : Context} {s after : Store} {op : Operation} {answer : Answer}
variable {announcements : List Announcement} {project : Int} {name : Text}

/-- What is found at an address depends on the types and on the rows at the address alone. -/
theorem Regulations.get_congr {address : Address} (htypes : after.types = s.types)
    (hrows : after.regulationsAt project address = s.regulationsAt project address) :
    get after project address = get s project address := by
  have hfind : find after project address = find s project address := by
    simp only [find, hrows]
  have hview : view after = view s := by
    funext r
    simp only [view, Catalog.find, Store.type?, htypes]
  simp only [get, hfind, hview]

theorem Store.mem_regulationsAt_byName {r : Regulation} :
    r ∈ s.regulationsAt project (.byName (some name)) ↔
      r ∈ s.regulations ∧ r.name = name ∧ r.projectId = project := by
  simp [regulationsAt]

namespace Operation.Outcome

/-- A creation changes what is found under the name of the new regulation, which is announced. -/
private theorem rows_of_created {draft : Draft} {view : RegulationView} {p : Int}
    (h : Regulations.Created ctx s p draft view after)
    (hnone : ¬ (view.regulation.name = name ∧ view.regulation.projectId = project)) :
    after.regulationsAt project (.byName (some name)) =
      s.regulationsAt project (.byName (some name)) := by
  simp [Store.regulationsAt, h.regulations_eq, List.filter_append, hnone]

/-- An update changes what is found under the names of the regulation before and after. -/
private theorem rows_of_updated {address : Address} {patch : Patch} {before : Regulation}
    {view : RegulationView} {p : Int} (hs : s.Consistent)
    (h : Regulations.Updated ctx s p address patch before view after)
    (hnone : ¬ (view.regulation.name = name ∧ view.regulation.projectId = project))
    (hold : ¬ (before.name = name ∧ before.projectId = project)) :
    after.regulationsAt project (.byName (some name)) =
      s.regulationsAt project (.byName (some name)) := by
  simp only [Store.regulationsAt, h.regulations_eq hs]
  refine filter_putById (by simpa using hnone) fun r hr hid => ?_
  -- the only row with the id is the one before
  obtain rfl : r = before := eq_of_key_eq hs.regulationIds hr h.before_mem (hid.trans h.life_eq.1)
  simpa using hold

/-- A deletion changes what is found under the name of the regulation that it deletes. -/
private theorem rows_of_deleted {address : Address} {view : RegulationView} {p : Int}
    (hs : s.Consistent) (h : Regulations.Deleted ctx s p address view after)
    (hnone : ¬ (view.regulation.name = name ∧ view.regulation.projectId = project)) :
    after.regulationsAt project (.byName (some name)) =
      s.regulationsAt project (.byName (some name)) := by
  simp only [Store.regulationsAt, h.regulations_eq, List.filter_filter]
  refine List.filter_congr fun r hr => ?_
  by_cases hid : r.id = view.regulation.id
  · obtain rfl : r = view.regulation :=
      eq_of_key_eq hs.regulationIds hr (Regulations.mem_of_find_eq_ok h.found).1 hid
    simpa using hnone
  · simp [hid]

/-- Under a name that is neither announced nor taken away, a reader finds what was there before. -/
theorem sightAt_eq (hs : s.Consistent) (hchange : op.IsChange)
    (h : Outcome ctx s op answer after announcements)
    (hquiet : ∀ a ∈ announcements, ¬ (a.projectId = project ∧ a.regulationName = name))
    (hkept : ¬ op.Unnames s project name) :
    after.sightAt project name = s.sightAt project name := by
  refine congrArg (Except.map RegulationView.sight) (Regulations.get_congr ?_ ?_)
  · cases h with
    | created h => exact h.after_eq ▸ rfl
    | updated h => exact h.rewritten.types_eq
    | deleted h => exact h.after_eq ▸ rfl
    | read hread => cases op <;> first | exact hread.elim | exact hchange.elim
    | upserted hpair hwrites h => cases hwrites <;> exact hchange.elim
    | _ => exact hchange.elim
  · cases h with
    | @created p draft view _ h =>
      refine rows_of_created h fun ⟨hname, hproject⟩ => ?_
      exact hquiet _ (List.mem_singleton_self _) ⟨hproject, hname⟩
    | @updated p address patch before view _ h =>
      have hnone : ¬ (view.regulation.name = name ∧ view.regulation.projectId = project) :=
        fun ⟨hname, hproject⟩ => hquiet _ (List.mem_singleton_self _) ⟨hproject, hname⟩
      refine rows_of_updated hs h hnone fun ⟨hname, hproject⟩ => hkept ?_
      -- the regulation had the name and has it no more
      have hp : p = project := (Regulations.mem_of_find_eq_ok h.found).2.symm.trans hproject
      refine ⟨hp, before, hp ▸ h.found, hname, fun hsame => hnone ?_⟩
      exact ⟨h.name_eq.trans (hname ▸ hsame), h.life_eq.2.1.trans hproject⟩
    | @deleted p address view _ h =>
      refine rows_of_deleted hs h fun ⟨hname, hproject⟩ => ?_
      exact hquiet _ (List.mem_singleton_self _) ⟨hproject, hname⟩
    | read hread => cases op <;> first | exact hread.elim | exact hchange.elim
    | upserted hpair hwrites h => cases hwrites <;> exact hchange.elim
    | _ => exact hchange.elim

end Operation.Outcome

namespace Operation

/-- A name that is taken away was in use before and names nothing after, and the announcement of the
update carries another one. -/
theorem sightAt_of_unnames (hs : s.Consistent) (hname : name.Encodable)
    (h : Outcome ctx s op answer after announcements) (hunnames : op.Unnames s project name) :
    s.sightAt project name ≠ .error (.notFound (.regulation (.byName (some name)) project)) ∧
      after.sightAt project name =
        .error (.notFound (.regulation (.byName (some name)) project)) ∧
      ∀ a ∈ announcements, a.regulationName ≠ name := by
  cases h with
  | @updated p address patch before view _ h =>
    obtain ⟨rfl, found, hfound, rfl, hother⟩ := hunnames
    obtain rfl := ok_unique hfound h.found
    obtain ⟨hmem, hproject⟩ := Regulations.mem_of_find_eq_ok hfound
    have hstorable : Storable p := (Regulations.find_eq_ok hfound).1
    have haddress : Regulations.checkAddress (.byName (some found.name)) = .ok () :=
      checkText_eq_ok.2 hname
    have hrenamed : view.regulation.name ≠ found.name := h.name_eq ▸ hother
    refine ⟨fun hgone => ?_, ?_, fun a ha => ?_⟩
    · -- the regulation is found by its name, so that it could at worst not be shown
      have hat : found ∈ s.regulationsAt p (.byName (some found.name)) :=
        Store.mem_regulationsAt_byName.2 ⟨hmem, rfl, hproject⟩
      have hget : Regulations.get s p (.byName (some found.name)) = Regulations.view s found := by
        simp only [Regulations.get, Regulations.find_of_mem hs hstorable haddress hat, bind,
          Except.bind]
      rw [Store.sightAt, hget] at hgone
      cases hview : Regulations.view s found with
      | ok v => simp [hview, Except.map] at hgone
      | error f =>
        obtain rfl : f = _ := by simpa [hview, Except.map] using hgone
        cases Regulations.view_eq_error hs hmem hview
    · have hnone : after.regulationsAt p (.byName (some found.name)) = [] := by
        refine List.eq_nil_iff_forall_not_mem.2 fun r hr => ?_
        obtain ⟨hr, hrname, hrproject⟩ := Store.mem_regulationsAt_byName.1 hr
        rw [h.regulations_eq hs] at hr
        rcases mem_putById.1 hr with ⟨rfl, -⟩ | ⟨hr, hne⟩
        · exact hrenamed hrname
        · -- no other regulation of the project has had the name
          have hsame : r = found := eq_of_key_eq hs.regulationNames hr hmem
            (Prod.ext (hrproject.trans hproject.symm) hrname)
          exact hne (hsame ▸ h.life_eq.1.symm)
      simp only [Store.sightAt, Regulations.get, Regulations.find_of_nil hstorable haddress hnone,
        bind, Except.bind, Except.map]
    · obtain rfl := List.mem_singleton.1 ha
      exact hrenamed
  | read hread => cases op <;> first | exact hread.elim | exact hunnames.elim
  | upserted hpair hwrites h => cases hwrites <;> exact hunnames.elim
  | _ => exact hunnames.elim

end Operation

/-! ### Runs -/

namespace World

variable {settings : Settings} {w : World} {earlier : List (Context × Step)} {step : Step}

/-- In every run, let a step carry out a creation, an update or a deletion of a regulation. Wherever
a reader by name then finds something else than before, an announcement of the step carries the
project and the name, unless the step takes the name away. A name that is taken away was in use and
names nothing any more, but no announcement of the step carries it. -/
theorem changes_told_by_name (h : w.store.Consistent)
    (hop : step.operation? settings = some op) (hchange : op.IsChange)
    (hok : ((op.run (step.contextIn ctx)).perform (w.run settings earlier).2.store).answer =
      .ok answer) :
    (∀ project name,
      (step.effect settings ctx (w.run settings earlier).2.store).store.sightAt project name ≠
        (w.run settings earlier).2.store.sightAt project name →
      (∃ a ∈ (step.effect settings ctx (w.run settings earlier).2.store).announcements,
        a.projectId = project ∧ a.regulationName = name) ∨
      op.Unnames (w.run settings earlier).2.store project name) ∧
    ∀ project name, name.Encodable → op.Unnames (w.run settings earlier).2.store project name →
      (w.run settings earlier).2.store.sightAt project name ≠
        .error (.notFound (.regulation (.byName (some name)) project)) ∧
      (step.effect settings ctx (w.run settings earlier).2.store).store.sightAt project name =
        .error (.notFound (.regulation (.byName (some name)) project)) ∧
      ∀ a ∈ (step.effect settings ctx (w.run settings earlier).2.store).announcements,
        a.regulationName ≠ name := by
  have hs : (w.run settings earlier).2.store.Consistent := consistent_run h
  -- the step leaves and announces what its operation does
  obtain ⟨hstore, hannounced⟩ := @Step.effect_of_operation settings ctx
    (w.run settings earlier).2.store step op hop
  have houtcome := Operation.outcome_of_perform hs hok
  rw [← hstore, ← hannounced] at houtcome
  constructor
  · intro project name hdiffers
    by_contra hsilent
    obtain ⟨hquiet, hkept⟩ := not_or.1 hsilent
    exact hdiffers (houtcome.sightAt_eq hs hchange (fun a ha hname => hquiet ⟨a, ha, hname⟩) hkept)
  · intro project name hname hunnames
    exact Operation.sightAt_of_unnames hs hname houtcome hunnames

/-- The first regulation gets a display name. -/
def displaying : Arrival :=
  .plain "PUT" "/api/v1/projects/1/regulations/1" "\x7b\"display_name\": \"R\"\x7d"

/-- The first regulation gets another name. -/
def retitling : Arrival :=
  .plain "PUT" "/api/v1/projects/1/regulations/1" "\x7b\"name\": \"q\"\x7d"

/-- A new display name is told to the readers of the name. -/
theorem changes_told_by_name_displaying :
    let settings := Settings.ofDatabase "sqlite"
    let before := (sample.run settings [Arrival.creation.step]).2.store
    let outcome := displaying.step.2.effect settings displaying.context before
    sample.store.Consistent ∧ outcome.store.sightAt 1 "r" ≠ before.sightAt 1 "r" ∧
      ∃ a ∈ outcome.announcements, a.projectId = 1 ∧ a.regulationName = "r" := by
  intro settings before outcome
  have hs : sample.store.Consistent := Store.initial_sample.toConsistent
  have hdiffers : outcome.store.sightAt 1 "r" ≠ before.sightAt 1 "r" := by decide +kernel
  let op : Operation :=
    .updateRegulation 1 (.byId 1) ⟨none, some (some "R"), none, none, none, none⟩
  have hop : displaying.step.2.operation? settings = some op := by decide +kernel
  have hok : ((op.run (displaying.step.2.contextIn displaying.context)).perform before).answer =
      .ok (.regulation
        ⟨⟨1, "r", some "R", none, none, 0, 1, 1, ⟨0⟩, ⟨0⟩⟩, ⟨1, "Boolean", none⟩⟩) := by
    decide +kernel
  have htold := (changes_told_by_name hs hop trivial hok).1 1 "r" hdiffers
  exact ⟨hs, hdiffers, htold.resolve_right fun ⟨_, _, _, _, hother⟩ => hother rfl⟩

/-- Whoever looks for the old name of a renamed regulation found it before and does not find it any
more, and the one announcement carries the new name. -/
theorem renaming_untold_by_old_name :
    let settings := Settings.ofDatabase "sqlite"
    let before := (sample.run settings [Arrival.creation.step]).2.store
    let outcome := retitling.step.2.effect settings retitling.context before
    before.sightAt 1 "r" = .ok ⟨1, "r", ⟨1, "Boolean", none⟩, none, 0, none, none⟩ ∧
      outcome.store.sightAt 1 "r" = .error (.notFound (.regulation (.byName (some "r")) 1)) ∧
      outcome.announcements.map (fun a => (a.projectId, a.regulationName)) =
        [((1 : Int), ("q" : Text))] := by
  decide +kernel

end World

end ComplianceRegistry
