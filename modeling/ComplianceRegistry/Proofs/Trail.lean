import ComplianceRegistry.Proofs.Rows
import ComplianceRegistry.Trail

/-!
# What the trail records

The trail only grows: what is recorded is put at its end, numbered on from the largest id in use,
and no other table is touched.

## Main definitions

* `AuditEntry.note` — what an entry records, without its context
* `Trail.entriesFrom` — the entries that notes become
* `Trail.logged` — the store with these entries in its trail

## Main results

* `Trail.record_eq`, `Trail.record_eq_ok` — when the trail takes notes, and what it records then
* `Trail.logged_append` — notes are recorded one after the other
* `Trail.nodup_logged_ids` — entries keep ids of their own
-/

namespace ComplianceRegistry

/-- The first of some integers that follow one another, and the others. -/
theorem forall_follow_succ {p : Int → Prop} {first : Int} {n : Nat} :
    (∀ i < n + 1, p (first + i)) ↔ p first ∧ ∀ i < n, p (first + 1 + i) := by
  have hnext (i : Nat) : first + 1 + i = first + (i + 1 : Nat) := by omega
  simp only [hnext, Nat.forall_lt_succ_left, Int.natCast_zero, Int.add_zero]

/-- What an entry records, without its id and its context. -/
def AuditEntry.note (e : AuditEntry) : Trail.Note where
  module := e.module
  action := e.action
  entityType := e.entityType
  entityId := e.entityId
  fieldName := e.fieldName
  oldValue := e.oldValue
  newValue := e.newValue

namespace Trail

variable {ctx : Context} {s after : Store} {notes : List Note} {first : Int} {e : AuditEntry}

/-- The entries that notes become, numbered on from the first id. -/
def entriesFrom (ctx : Context) (first : Int) : List Note → List AuditEntry
  | [] => []
  | n :: notes => n.entry ctx first :: entriesFrom ctx (first + 1) notes

/-- The store with an entry for each note at the end of its trail. -/
def logged (ctx : Context) (notes : List Note) (s : Store) : Store :=
  { s with audit := s.audit ++ entriesFrom ctx (nextId (s.audit.map (·.id))) notes }

/-- The entries one by one. -/
theorem entriesFrom_eq_mapIdx :
    entriesFrom ctx first notes = notes.mapIdx fun i n => n.entry ctx (first + i) := by
  induction notes generalizing first with
  | nil => rfl
  | cons n notes ih => simp [entriesFrom, ih, Int.add_assoc, Int.add_comm 1]

@[simp] theorem note_entry {n : Note} {id : Int} : (n.entry ctx id).note = n := rfl

/-- The entries of notes record these notes in their order. -/
@[simp] theorem map_note_entriesFrom :
    (entriesFrom ctx first notes).map AuditEntry.note = notes := by
  induction notes generalizing first with
  | nil => rfl
  | cons n notes ih => simp [entriesFrom, ih]

@[simp] theorem logged_types : (logged ctx notes s).types = s.types := rfl

@[simp] theorem logged_projects : (logged ctx notes s).projects = s.projects := rfl

@[simp] theorem logged_versions : (logged ctx notes s).versions = s.versions := rfl

@[simp] theorem logged_regulations : (logged ctx notes s).regulations = s.regulations := rfl

@[simp] theorem logged_statuses : (logged ctx notes s).statuses = s.statuses := rfl

theorem logged_audit : (logged ctx notes s).audit =
    s.audit ++ entriesFrom ctx (nextId (s.audit.map (·.id))) notes := rfl

/-- Passes when all entries can be handed to storage. -/
def checkEntries (entries : List AuditEntry) : Except Fault Unit :=
  entries.forM fun e => (Row.audit e).check

theorem checkEntries_cons {entries : List AuditEntry} :
    checkEntries (e :: entries) = ((Row.audit e).check >>= fun _ => checkEntries entries) := rfl

@[simp] theorem logged_nil : logged ctx [] s = s := by simp [logged, entriesFrom]

/-- The id after that of a new entry is one more. -/
theorem nextId_push_audit {n : Note} :
    nextId ((s.push (.audit (n.entry ctx (nextId (s.audit.map (·.id)))))).audit.map (·.id)) =
      nextId (s.audit.map (·.id)) + 1 := by
  simp only [Store.push, List.map_append, List.map_cons, List.map_nil]
  exact nextId_append_nextId

/-- Notes are recorded one after the other. -/
theorem logged_cons {n : Note} : logged ctx (n :: notes) s =
    logged ctx notes (s.push (.audit (n.entry ctx (nextId (s.audit.map (·.id)))))) := by
  simp only [logged, nextId_push_audit, entriesFrom]
  simp [Store.push]

theorem logged_append {more : List Note} :
    logged ctx (notes ++ more) s = logged ctx more (logged ctx notes s) := by
  induction notes generalizing s with
  | nil => simp
  | cons n notes ih => rw [List.cons_append, logged_cons, logged_cons, ih]

/-- The trail takes notes when it can store all of their entries, and records them as they are. -/
theorem record_eq : record ctx s notes =
    (checkEntries (entriesFrom ctx (nextId (s.audit.map (·.id))) notes) >>= fun _ =>
      .ok (logged ctx notes s)) := by
  induction notes generalizing s with
  | nil =>
    rw [logged_nil]
    rfl
  | cons n notes ih =>
    -- the rest starts from the id after that of the first entry
    simp only [record, entriesFrom, checkEntries_cons]
    rw [ih, nextId_push_audit, logged_cons]
    cases (Row.audit (n.entry ctx (nextId (s.audit.map (·.id))))).check <;> rfl

/-- What the trail takes it records as it is. -/
theorem record_eq_ok (h : record ctx s notes = .ok after) : after = logged ctx notes s := by
  rw [record_eq] at h
  obtain ⟨_, -, h⟩ := bind_eq_ok.1 h
  exact (Except.ok.inj h).symm

/-- Entries are numbered upwards. -/
theorem le_id_of_mem_entriesFrom (h : e ∈ entriesFrom ctx first notes) : first ≤ e.id := by
  induction notes generalizing first with
  | nil => simp [entriesFrom] at h
  | cons n notes ih =>
    rcases List.mem_cons.1 h with rfl | h
    · exact Int.le_refl _
    · have hrest := ih h
      omega

theorem pairwise_entriesFrom : (entriesFrom ctx first notes).Pairwise fun a b => a.id < b.id := by
  induction notes generalizing first with
  | nil => exact List.Pairwise.nil
  | cons n notes ih =>
    refine List.pairwise_cons.2 ⟨fun e he => ?_, ih⟩
    -- the others are numbered from above the first
    exact Int.lt_of_add_one_le (le_id_of_mem_entriesFrom he)

theorem nodup_entriesFrom_ids : ((entriesFrom ctx first notes).map (·.id)).Nodup :=
  List.pairwise_map.2 (pairwise_entriesFrom.imp Int.ne_of_lt)

/-- Entries keep ids of their own. -/
theorem nodup_logged_ids (h : (s.audit.map (·.id)).Nodup) :
    ((logged ctx notes s).audit.map (·.id)).Nodup := by
  simp only [logged, List.map_append]
  refine List.nodup_append.2 ⟨h, nodup_entriesFrom_ids, ?_⟩
  -- old ids are below the next one, and new ids are not
  rintro id hold _ hnew rfl
  obtain ⟨e, he, hid⟩ := List.mem_map.1 hnew
  have hlt : id < nextId (s.audit.map (·.id)) := lt_nextId hold
  have hle := le_id_of_mem_entriesFrom he
  have hsame : e.id = id := hid
  omega

end Trail

end ComplianceRegistry
