import ComplianceRegistry.Proofs.Arrivals

/-!
# What writes preserve

All that changes a store is done by a few statements: a row is inserted, moved or removed, the
statuses of a regulation are dropped, and notes are recorded in the trail. A property that each of
these statements preserves is preserved by every operation, whether the operation is carried out or
breaks off half-way.

## Main definitions

* `Trail.Note.IsRegular` — notes as the registry makes them
* `Store.Preserves` — the statements preserve a property of stores
* `Work.Maintains` — whatever comes of the work, its session keeps the property

## Main results

* `Catalog.seed_maintains`, `Operation.run_maintains` — operations keep what statements preserve
* `Work.Maintains.perform` — so it is kept in the store that they leave
-/

namespace ComplianceRegistry

/-! ### Notes -/

namespace Trail

/-- A note as the registry makes it itself, under the module of its table and with a known
action. -/
structure Note.IsRegular (n : Note) : Prop where
  module_eq : n.module = Table.moduleOf n.entityType
  action_known : (Action.ofName? n.action).isSome

variable {table : Table} {action : Action} {id : Int} {n : Note}

theorem isRegular_row : (Note.row table action id).IsRegular :=
  ⟨rfl, by simp [Note.row]⟩

theorem isRegular_field {name : Text} {old new : Option Text} :
    (Note.field table action id name old new).IsRegular :=
  ⟨rfl, by simp [Note.field, Note.row]⟩

theorem isRegular_of_mem_changes {before after : List (Text × Cell)}
    (h : n ∈ changes table id before after) : n.IsRegular := by
  obtain ⟨c, -, hc⟩ := List.mem_filterMap.1 h
  dsimp only at hc
  split at hc
  · simp at hc
  · exact Option.some.inj hc ▸ isRegular_field

end Trail

theorem Statuses.isRegular_of_mem_putNotes {before : Option Status} {id : Int} {w : StatusWrite}
    {n : Trail.Note} (h : n ∈ putNotes before id w) : n.IsRegular := by
  obtain ⟨c, -, rfl⟩ := List.mem_map.1 h
  cases before <;> exact Trail.isRegular_field

/-! ### Statements -/

/-- The statements preserve a property of stores: writes to tables that are open, and records of
notes of some sort in the context. All tables but the trail are open, and notes as the registry
makes them are of the sort. -/
structure Store.Preserves (ctx : Context) (isOpen : Table → Prop) (isNoted : Trail.Note → Prop)
    (P : Store → Prop) : Prop where
  tables : ∀ t, t ≠ .audit → isOpen t
  notes : ∀ n : Trail.Note, n.IsRegular → isNoted n
  insert {s after : Store} {row : Row} (hopen : isOpen row.table) (hs : P s)
    (h : s.insert row = .ok after) : P after
  move {s after : Store} {row : Row} {id : Int} (hopen : isOpen row.table) (hs : P s)
    (h : s.move id row = .ok after) : P after
  remove {s after : Store} {t : Table} {id : Int} (hopen : isOpen t) (hs : P s)
    (h : s.remove t id = .ok after) : P after
  dropStatuses {s : Store} (p : Status → Bool) (hs : P s) : P (s.dropStatuses p)
  record {s after : Store} {notes : List Trail.Note} (hnotes : ∀ n ∈ notes, isNoted n) (hs : P s)
    (h : Trail.record ctx s notes = .ok after) : P after

variable {ctx : Context} {isOpen : Table → Prop} {isNoted : Trail.Note → Prop} {P : Store → Prop}
variable {s after : Store}

namespace Store.Preserves

variable {r : Regulation} {st : Status} {t : RegulationType} {notes : List Trail.Note} {id : Int}
variable (hP : Store.Preserves ctx isOpen isNoted P)

include hP

/-- A row that keeps its id is replaced where it stands. -/
theorem replace {row : Row} (hopen : isOpen row.table) (hs : P s) (h : s.replace row = .ok after) :
    P after := by
  have hmove : s.move row.id row = .ok after := by rwa [Store.move, if_pos rfl]
  exact hP.move hopen hs hmove

theorem record_regular (hnotes : ∀ n ∈ notes, n.IsRegular) (hs : P s)
    (h : Trail.record ctx s notes = .ok after) : P after :=
  hP.record (fun n hn => hP.notes n (hnotes n hn)) hs h

theorem record_row {table : Table} {action : Trail.Action} (hs : P s)
    (h : Trail.record ctx s [.row table action id] = .ok after) : P after :=
  hP.record_regular (List.forall_mem_singleton.2 Trail.isRegular_row) hs h

theorem upsert {r : Regulation} {v : Version} {w : StatusWrite} (hs : P s)
    (h : Statuses.upsert ctx r v w s = .ok after) : P after := by
  unfold Statuses.upsert at h
  split at h
  · exact hP.replace (hP.tables _ (by simp [Row.table])) hs h
  · exact hP.insert (hP.tables _ (by simp [Row.table])) hs h

theorem addTypes {kinds : List Kind} (hs : P s) (h : Catalog.addTypes s kinds = .ok after) :
    P after := by
  induction kinds generalizing s with
  | nil => exact Except.ok.inj h ▸ hs
  | cons k kinds ih =>
    obtain ⟨grown, hinsert, h⟩ := bind_eq_ok.1 h
    exact ih (hP.insert (hP.tables _ (by simp [Row.table])) hs hinsert) h

end Store.Preserves

/-! ### Work -/

namespace Work

variable {α β : Type} {w : Work α} {next : α → Work β}

/-- If both stores of a session have the property, they have it after the work, whatever comes of
it. -/
def Maintains (P : Store → Prop) (w : Work α) : Prop :=
  ∀ σ : Session, P σ.working → P σ.committed → P (w σ).2.working ∧ P (w σ).2.committed

namespace Maintains

theorem of_pure {a : α} : (pure a : Work α).Maintains P := fun _ hw hc => ⟨hw, hc⟩

theorem of_fail {f : Fault} : (fail f : Work α).Maintains P := fun _ hw hc => ⟨hw, hc⟩

theorem of_lift {e : Except Fault α} : (liftM e : Work α).Maintains P := fun _ hw hc => ⟨hw, hc⟩

theorem of_query {ask : Store → Except Fault α} : (query ask).Maintains P :=
  fun _ hw hc => ⟨hw, hc⟩

theorem of_commit : commit.Maintains P := fun _ hw _ => ⟨hw, hw⟩

theorem of_rollback : rollback.Maintains P := fun _ _ hc => ⟨hc, hc⟩

theorem of_announce {a : Announcement} : (announce a).Maintains P := fun _ hw hc => ⟨hw, hc⟩

theorem of_write {statement : Store → Except Fault Store}
    (h : ∀ s after, P s → statement s = .ok after → P after) : (write statement).Maintains P := by
  intro σ hw hc
  unfold write
  cases hs : statement σ.working with
  | ok after => exact ⟨h _ _ hw hs, hc⟩
  | error f => exact ⟨hw, hc⟩

theorem bind (h : w.Maintains P) (hnext : ∀ a, (next a).Maintains P) :
    (w >>= next).Maintains P := by
  intro σ hw hc
  obtain ⟨hw', hc'⟩ := h σ hw hc
  cases hrun : w σ with
  | mk result τ =>
    rw [hrun] at hw' hc'
    cases result with
    | ok a => exact bind_apply_ok hrun ▸ hnext a τ hw' hc'
    | error f => exact bind_apply_error hrun ▸ ⟨hw', hc'⟩

theorem map {g : α → β} (h : w.Maintains P) : (g <$> w).Maintains P :=
  bind h fun _ => of_pure

theorem rescue {other : Fault → Work α} (h : w.Maintains P) (hother : ∀ f, (other f).Maintains P) :
    (w.rescue other).Maintains P := by
  intro σ hw hc
  obtain ⟨hw', hc'⟩ := h σ hw hc
  unfold Work.rescue
  cases hrun : w σ with
  | mk result τ =>
    rw [hrun] at hw' hc'
    cases result with
    | ok a => exact ⟨hw', hc'⟩
    | error f => exact hother f τ hw' hc'

/-- What the work maintains holds of the store that it leaves. -/
theorem perform (h : w.Maintains P) (hs : P s) : P (w.perform s).store := (h _ hs hs).2

end Maintains

end Work

/-! ### Operations -/

open Work (Maintains)

namespace Catalog

theorem isRegular_of_mem_creationNotes {recorded : Bool} {ids : List Int} {n : Trail.Note}
    (hn : n ∈ creationNotes recorded ids) : n.IsRegular := by
  unfold creationNotes at hn
  split at hn
  · obtain ⟨id, -, rfl⟩ := List.mem_map.1 hn
    exact Trail.isRegular_row
  · cases hn

theorem seed_maintains {recorded : Bool} (hP : Store.Preserves ctx isOpen isNoted P) :
    (seed recorded ctx).Maintains P := by
  refine .bind .of_query fun before => ?_
  dsimp only
  split
  · refine .bind (.of_write fun _ _ hs h => hP.addTypes hs h) fun _ => ?_
    exact .bind (.of_write fun _ _ => hP.record_regular fun _ => isRegular_of_mem_creationNotes)
      fun _ => .bind .of_commit fun _ => .of_pure
  · exact .of_pure

end Catalog

namespace Regulations

variable {project id : Int} {address : Address} {draft : Draft} {patch : Patch}

theorem commitNaming_maintains {name : Text} {writing : Work Unit} (h : writing.Maintains P) :
    (commitNaming name project writing).Maintains P := by
  refine .rescue (.bind h fun _ => .of_commit) fun f => ?_
  cases f with
  | constraintViolated => exact .bind .of_rollback fun _ => .of_fail
  | _ => exact .of_fail

theorem rereadAndAnnounce_maintains {kind : ChangeKind} :
    (rereadAndAnnounce ctx kind id).Maintains P :=
  .bind .of_query fun _ => .bind .of_announce fun _ => .of_pure

theorem create_maintains (hP : Store.Preserves ctx isOpen isNoted P) :
    (create ctx project draft).Maintains P := by
  refine .bind .of_query fun _ => .bind .of_query fun _ => .bind .of_lift fun _ =>
    .bind .of_query fun _ => .bind .of_query fun _ => .bind (commitNaming_maintains ?_) fun _ =>
      rereadAndAnnounce_maintains
  exact .bind (.of_write fun _ _ => hP.insert (hP.tables _ (by simp [Row.table]))) fun _ =>
    .of_write fun _ _ => hP.record_row

theorem update_maintains (hP : Store.Preserves ctx isOpen isNoted P) :
    (update ctx project address patch).Maintains P := by
  refine .bind .of_query fun before => .bind .of_query fun _ => .bind .of_query fun _ =>
    .bind .of_lift fun _ => .bind (commitNaming_maintains ?_) fun _ => rereadAndAnnounce_maintains
  unfold writeChanges
  split
  · exact .bind (.of_write fun _ _ => hP.replace (hP.tables _ (by simp [Row.table]))) fun _ =>
      .of_write fun _ _ => hP.record_regular fun _ => Trail.isRegular_of_mem_changes
  · exact .of_pure

theorem delete_maintains (hP : Store.Preserves ctx isOpen isNoted P) :
    (delete ctx project address).Maintains P := by
  refine .bind .of_query fun row => .bind .of_query fun _ => .bind (.of_write ?_) fun _ => ?_
  · exact fun _ _ hs h => Except.ok.inj h ▸ hP.dropStatuses _ hs
  · exact .bind (.of_write fun _ _ => hP.remove (hP.tables _ (by simp))) fun _ =>
      .bind (.of_write fun _ _ => hP.record_row) fun _ =>
        .bind .of_commit fun _ => .bind .of_announce fun _ => .of_pure

end Regulations

namespace Statuses

variable {project regulation : Int} {catalogId : Text} {r : Regulation} {v : Version}
variable {w : StatusWrite} {value : Option Text} {details : Document}

theorem write_maintains (hP : Store.Preserves ctx isOpen isNoted P) :
    (write ctx project r v w).Maintains P := by
  refine .bind ?_ fun _ => .of_query
  exact .bind .of_query fun _ => .bind (.of_write fun _ _ => hP.upsert) fun _ =>
    .bind .of_query fun _ =>
      .bind (.of_write fun _ _ => hP.record_regular fun _ => isRegular_of_mem_putNotes) fun _ =>
        .of_commit

theorem report_maintains (hP : Store.Preserves ctx isOpen isNoted P) :
    (report ctx project regulation catalogId value details).Maintains P :=
  .bind .of_query fun _ => .bind .of_query fun _ => .bind .of_lift fun _ => write_maintains hP

theorem delete_maintains (hP : Store.Preserves ctx isOpen isNoted P) :
    (delete ctx project regulation catalogId).Maintains P := by
  refine .bind .of_query fun _ => .bind .of_query fun found => ?_
  cases found with
  | none => exact .of_fail
  | some st =>
    exact .bind (.of_write fun _ _ => hP.remove (hP.tables _ (by simp))) fun _ =>
      .bind (.of_write fun _ _ => hP.record_row) fun _ => .of_commit

end Statuses

namespace Operation

/-- The notes of a remark that is asked for are of the sort that may be recorded. -/
def IsNoting (isNoted : Trail.Note → Prop) (op : Operation) : Prop :=
  ∀ remark notes, op = .remark remark → remark.notes? = some notes → ∀ n ∈ notes, isNoted n

theorem isNoting_of_isPosed {op : Operation} (h : op.IsPosed) : op.IsNoting isNoted := by
  rintro remark notes rfl
  exact h.elim

/-- Operations keep what statements preserve. -/
theorem run_maintains (hP : Store.Preserves ctx isOpen isNoted P) {op : Operation}
    (hop : op.IsNoting isNoted) : (op.run ctx).Maintains P := by
  cases op with
  | seedTypes => exact .map (Catalog.seed_maintains hP)
  | createRegulation => exact .map (Regulations.create_maintains hP)
  | updateRegulation => exact .map (Regulations.update_maintains hP)
  | deleteRegulation => exact .map (Regulations.delete_maintains hP)
  | setValue => exact .map (.bind .of_query fun _ => Statuses.write_maintains hP)
  | setCompliance => exact .map (.bind .of_query fun _ => Statuses.write_maintains hP)
  | report => exact .map (Statuses.report_maintains hP)
  | deleteStatus => exact .map (Statuses.delete_maintains hP)
  | remark remark =>
    refine .bind (.of_write fun s after hs h => ?_) fun _ => .bind .of_commit fun _ => .of_pure
    obtain ⟨_, -, h⟩ := bind_eq_ok.1 h
    split at h
    · next notes hnotes => exact hP.record (hop remark notes rfl hnotes) hs h
    · simp at h
  -- all others only ask
  | _ => exact .map .of_query

end Operation

end ComplianceRegistry
