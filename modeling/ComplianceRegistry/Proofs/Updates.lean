import ComplianceRegistry.Proofs.Arrivals

/-!
# What the trail tells of updates

An update that is carried out adds one entry to the trail for each column that it sets by itself
and that differs afterwards, with the text before and the text after, and nothing else. The type is
not set as a column: it is handed to the row as a whole, and the column with its id follows only
when the row is written, after the changes were noted. So the trail tells the whole change exactly
when the type stays.

## Main definitions

* `Regulation.cell` — the cell of a column
* `Regulation.columnsKept`, `Regulation.columnsSet` — all columns but the time of the last update,
  and those that an update sets one by one
* `Regulation.edits` — the notes on the columns that differ between two states of a regulation

## Main results

* `Regulations.updateNotes_eq` — an update notes the columns that it sets one by one
* `World.updates_told` — what the trail tells of an update, and when it tells the whole change
-/

namespace ComplianceRegistry

namespace Regulation

/-- The cell of a column, none where a regulation has no such column. -/
def cell (r : Regulation) (column : Text) : Cell :=
  ((r.columns.find? fun c => c.1 = column).map (·.2)).getD .null

/-- The columns that an update sets one by one. -/
def columnsSet : List Text := ["name", "display_name", "description", "config", "order"]

/-- All columns but the time of the last update, in table order. -/
def columnsKept : List Text :=
  ("id" : Text) :: (columnsSet ++ (["type_id", "project_id", "created_at"] : List Text))

/-- One note for each of the columns that differs between two states of a regulation, with the text
before and the text after. -/
def edits (before after : Regulation) (columns : List Text) : List Trail.Note :=
  (columns.filter fun c => before.cell c ≠ after.cell c).map fun c =>
    .field .regulations .update before.id c (before.cell c).shown? (after.cell c).shown?

variable {before after row r : Regulation} {columns others : List Text}

/-! ### Columns and notes on them -/

theorem columns_eq :
    r.columns = (columnsKept ++ [("updated_at" : Text)]).map fun c => (c, r.cell c) := rfl

/-- A regulation holds no report document. -/
theorem cell_ne_details {column : Text} {d : Document} : r.cell column ≠ .details d := by
  have htext {t : Option Text} : Cell.ofText? t ≠ .details d := by cases t <;> simp [Cell.ofText?]
  have hcells : ∀ c ∈ r.columns, c.2 ≠ .details d := by
    simp [columns, htext]
  unfold cell
  cases hfound : r.columns.find? fun c => c.1 = column with
  | none => simp
  | some c => exact hcells c (List.mem_of_find?_eq_some hfound)

/-- So its cells are compared as they are. -/
theorem equals_cell {column : Text} {c : Cell} :
    (r.cell column).equals c = decide (r.cell column = c) := by
  unfold Cell.equals
  split
  · next d e h => exact absurd h cell_ne_details
  · rfl

theorem edits_append : before.edits after (columns ++ others) =
    before.edits after columns ++ before.edits after others := by
  simp [edits]

/-- Columns that agree leave no note. -/
theorem edits_eq_nil (h : ∀ c ∈ columns, before.cell c = after.cell c) :
    before.edits after columns = [] := by
  simpa [edits] using h

theorem edits_congr (h : ∀ c ∈ columns, after.cell c = row.cell c) :
    before.edits after columns = before.edits row columns := by
  unfold edits
  rw [List.filter_congr fun c hc => by rw [h c hc]]
  exact List.map_congr_left fun c hc => by rw [h c (List.mem_of_mem_filter hc)]

/-- Between two states of the same regulation all columns but the type are those that an update
sets one by one. -/
theorem edits_columnsKept (hid : after.id = before.id)
    (hproject : after.projectId = before.projectId)
    (hcreated : after.createdAt = before.createdAt) :
    before.edits after columnsKept =
      before.edits after columnsSet ++ before.edits after ["type_id"] := by
  have hfirst : before.edits after ["id"] = [] := by
    refine edits_eq_nil fun c hc => ?_
    obtain rfl := List.mem_singleton.1 hc
    exact congrArg Cell.integer hid.symm
  have hlast : before.edits after ["project_id", "created_at"] = [] := by
    refine edits_eq_nil ?_
    simp only [List.forall_mem_cons]
    exact ⟨congrArg Cell.integer hproject.symm, congrArg Cell.instant hcreated.symm, by simp⟩
  have hparts : columnsKept = (["id"] : List Text) ++
      (columnsSet ++ ((["type_id"] : List Text) ++ (["project_id", "created_at"] : List Text))) :=
    rfl
  calc before.edits after columnsKept
      = before.edits after columnsSet ++ before.edits after ["type_id"] := by
        rw [hparts, edits_append, edits_append, edits_append, hfirst, hlast, List.nil_append,
          List.append_nil]

/-- The type leaves a note when it is another one. -/
theorem edits_type_eq_nil : before.edits after ["type_id"] = [] ↔ after.typeId = before.typeId := by
  have hcell : before.cell "type_id" = after.cell "type_id" ↔ after.typeId = before.typeId :=
    ⟨fun h => (Cell.integer.inj h).symm, fun h => congrArg Cell.integer h.symm⟩
  rw [← hcell]
  simp [edits]

end Regulation

namespace Trail

/-- The notes on two states of a row, column by column. -/
theorem changes_map {table : Table} {id : Int} {columns : List Text} {before after : Text → Cell} :
    changes table id (columns.map fun c => (c, before c)) (columns.map fun c => (c, after c)) =
      (columns.filter fun c => !(before c).equals (after c)).map fun c =>
        .field table .update id c (before c).shown? (after c).shown? := by
  induction columns with
  | nil => rfl
  | cons c columns ih =>
    unfold changes at ih ⊢
    cases h : (before c).equals (after c) with
    | true => simpa [h] using ih
    | false => simpa [h] using ih

end Trail

namespace Regulations

open Regulation

variable {before row : Regulation}

theorem changes_columns : Trail.changes .regulations before.id before.columns row.columns =
    before.edits row (columnsKept ++ [("updated_at" : Text)]) := by
  simp only [columns_eq, Trail.changes_map, equals_cell, edits, decide_not]

/-- An update notes the columns that it sets one by one, as far as they differ. -/
theorem updateNotes_eq (hid : row.id = before.id) (hproject : row.projectId = before.projectId)
    (hcreated : row.createdAt = before.createdAt) :
    updateNotes before row = before.edits row columnsSet := by
  -- what is noted is a row with the type and the time of the last update of the one before
  set seen : Regulation := { row with typeId := before.typeId, updatedAt := before.updatedAt }
  have hkept : before.edits seen columnsKept =
      before.edits seen columnsSet ++ before.edits seen ["type_id"] :=
    edits_columnsKept hid hproject hcreated
  have htype : before.edits seen ["type_id"] = [] := edits_type_eq_nil.2 rfl
  have htime : before.edits seen ["updated_at"] = [] := by
    refine edits_eq_nil fun c hc => ?_
    obtain rfl := List.mem_singleton.1 hc
    rfl
  have hset : before.edits seen columnsSet = before.edits row columnsSet := by
    refine edits_congr ?_
    simp only [columnsSet, List.forall_mem_cons]
    exact ⟨rfl, rfl, rfl, rfl, rfl, by simp⟩
  calc updateNotes before row
      = before.edits seen (columnsKept ++ [("updated_at" : Text)]) := changes_columns
    _ = before.edits seen columnsSet := by
        rw [edits_append, hkept, htype, htime, List.append_nil, List.append_nil]
    _ = before.edits row columnsSet := hset

/-! ### Updates that are carried out -/

namespace Updated

variable {ctx : Context} {s after : Store} {project : Int} {address : Address} {patch : Patch}
variable {view : RegulationView}

/-- The trail gets the notes on the columns that an update sets one by one. -/
theorem exists_entries (h : Updated ctx s project address patch before view after) :
    ∃ entries, after.audit = s.audit ++ entries ∧
      entries.map AuditEntry.note = before.edits view.regulation columnsSet := by
  obtain ⟨hid, hproject, hcreated⟩ := h.life_eq
  have hrewritten := h.rewritten
  generalize patched before patch view.type view.regulation.config = asked at hrewritten
  cases hrewritten with
  | unchanged heq =>
    exact ⟨[], (List.append_nil _).symm, (edits_eq_nil fun _ _ => rfl).symm⟩
  | changed hne hrow hwritten =>
    refine ⟨_, Trail.logged_audit, ?_⟩
    rw [Trail.map_note_entriesFrom, updateNotes_eq hid hproject hcreated]

end Updated

end Regulations

/-- An update that is carried out found the regulation that it changes. -/
theorem Operation.Outcome.exists_updated {ctx : Context} {s after : Store} {project : Int}
    {address : Address} {patch : Patch} {view : RegulationView}
    {announcements : List Announcement}
    (h : Outcome ctx s (.updateRegulation project address patch) (.regulation view) after
      announcements) :
    ∃ before, Regulations.Updated ctx s project address patch before view after := by
  cases h with
  | read h => exact h.elim
  | updated h => exact ⟨_, h⟩

namespace World

open Regulation

variable {settings : Settings} {w : World} {arrivals : List Arrival}

/-- After every run, an update that is carried out adds to the trail one entry for each column that
it sets one by one and that differs afterwards, and no others. These are the entries on all columns
that differ exactly when the type is the same as before. -/
theorem updates_told (h : w.store.Initial) {ctx : Context} {project : Int} {address : Address}
    {patch : Patch} {view : RegulationView} {after : Store} {announcements : List Announcement}
    (hrun : ((Operation.updateRegulation project address patch).run ctx).perform
      (w.serve settings arrivals).store = ⟨.ok (.regulation view), after, announcements⟩) :
    ∃ before entries,
      (w.serve settings arrivals).store.regulationsAt project address = [before] ∧
      findById (·.id) before.id after.regulations = some view.regulation ∧
      after.audit = (w.serve settings arrivals).store.audit ++ entries ∧
      entries.map AuditEntry.note = before.edits view.regulation columnsSet ∧
      ((entries.map AuditEntry.note).Perm (before.edits view.regulation columnsKept) ↔
        view.regulation.typeId = before.typeId) := by
  have hs : (w.serve settings arrivals).store.Consistent := (kept_serve h).toConsistent
  have houtcome := Operation.outcome_of_perform hs (congrArg Written.answer hrun)
  rw [hrun] at houtcome
  obtain ⟨before, hupdated⟩ := houtcome.exists_updated
  obtain ⟨entries, haudit, hnotes⟩ := hupdated.exists_entries
  obtain ⟨hid, hproject, hcreated⟩ := hupdated.life_eq
  refine ⟨before, entries, (Regulations.find_eq_ok hupdated.found).2,
    hupdated.rewritten.findById_eq hs hupdated.before_mem rfl, haudit, hnotes, ?_⟩
  -- a note on the type is the only one that can be missing
  rw [hnotes, edits_columnsKept hid hproject hcreated, ← edits_type_eq_nil]
  constructor
  · intro hperm
    have hlength := hperm.length_eq
    rw [List.length_append] at hlength
    exact List.length_eq_zero_iff.1 (by omega)
  · intro hnil
    rw [hnil, List.append_nil]

/-- The first regulation of the sample, before and after a patch. -/
def firstRegulation (name : Text) (config : Option Text) (typeId : Int) : Regulation :=
  ⟨1, name, none, none, config, 0, typeId, 1, ⟨0⟩, ⟨0⟩⟩

/-- An update of the first regulation of the sample. -/
def firstUpdate (patch : Patch) : Written (Except Fault Answer) :=
  ((Operation.updateRegulation 1 (.byId 1) patch).run ⟨⟨0⟩, none, none, false⟩).perform
    (sample.serve (.ofDatabase "sqlite") [.creation]).store

/-- Another name leaves one entry, with the name before and the name after. -/
theorem updates_told_renaming :
    sample.store.Initial ∧
    (firstUpdate ⟨some "q", none, none, none, none, none⟩).answer =
      .ok (.regulation ⟨firstRegulation "q" none 1, ⟨1, "Boolean", none⟩⟩) ∧
    ∃ entries, (firstUpdate ⟨some "q", none, none, none, none, none⟩).store.audit =
        (sample.serve (.ofDatabase "sqlite") [.creation]).store.audit ++ entries ∧
      entries.map AuditEntry.note =
        [.field .regulations .update 1 "name" (some "r") (some "q")] := by
  have hanswer : (firstUpdate ⟨some "q", none, none, none, none, none⟩).answer =
      .ok (.regulation ⟨firstRegulation "q" none 1, ⟨1, "Boolean", none⟩⟩) := by
    decide +kernel
  obtain ⟨before, entries, hbefore, -, haudit, hnotes, -⟩ :=
    @updates_told (.ofDatabase "sqlite") sample [.creation] Store.initial_sample _ _ _ _ _ _ _
      (congrArg (fun answer => Written.mk answer _ _) hanswer)
  have hfirst : (sample.serve (.ofDatabase "sqlite") [.creation]).store.regulationsAt 1 (.byId 1) =
      [firstRegulation "r" none 1] := by
    decide +kernel
  obtain rfl := List.singleton_inj.1 (hbefore.symm.trans hfirst)
  exact ⟨Store.initial_sample, hanswer, entries, haudit, hnotes.trans (by decide +kernel)⟩

/-- Another type leaves no entry: beside that on the config there is none. -/
theorem retyping_not_told :
    sample.store.Initial ∧
    (firstUpdate ⟨none, none, none, some 2, some (some "1"), none⟩).answer =
      .ok (.regulation ⟨firstRegulation "r" (some "1") 2, ⟨2, "Threshold", none⟩⟩) ∧
    ¬ (((firstUpdate ⟨none, none, none, some 2, some (some "1"), none⟩).store.audit.drop
        (sample.serve (.ofDatabase "sqlite") [.creation]).store.audit.length).map
          AuditEntry.note).Perm
      ((firstRegulation "r" none 1).edits (firstRegulation "r" (some "1") 2) columnsKept) :=
  ⟨Store.initial_sample, by decide +kernel, by decide +kernel⟩

end World

end ComplianceRegistry
