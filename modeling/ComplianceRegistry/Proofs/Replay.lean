import ComplianceRegistry.Proofs.Ledger
import ComplianceRegistry.Proofs.Lifecycles
import Mathlib.Data.List.DropRight

/-!
# The trail replays to the statuses

The trail of a status starts with the notes on the write that added its row. An id may be given
again, but then the trail tells of the new row first. From there on the notes on a field and the
writes that set it go together one by one: each note tells what the write sent, and takes up the
text that the field had, and the last one leads to the text that the field has now.

The writes are those of the requests that were carried out, kept in a ledger that never looks at the
trail or at the statuses. A note tells what was sent, and the next one what was there. For the value
and the verdict these are the same. Report details are kept as their column gives them back, so that
there the text that is taken up is the one of what the column gives back for the document that was
sent: it makes numbers out of documents that are numbers, and joins the halves of pairs.

## Main definitions

* `Store.told` — what the trail tells
* `Trail.births`, `Trail.sequel` — the notes on the latest birth of a status, and those that follow
* `StatusWrite.texts`, `Statuses.textsOf` — what writes send for a field, and what is kept of it
* `Trail.Unbroken` — each note tells what a write sent and takes up what the write before left
* `Bookkeeping.written` — the ledger of the writes to each pair since its row was added
* `Status.Replayed` — the trail of a status goes with its writes and leads to its row

## Main results

* `Store.told_logged` — what is recorded is told last
* `Operation.Outcome.retraced` — operations keep the trails of all statuses unbroken
* `World.statuses_replayed` — so they are after every run
-/

namespace ComplianceRegistry

open Trail

/-! ### What the trail tells -/

/-- Entries in the order of their ids. -/
def AuditEntry.byId (entries : List AuditEntry) : List AuditEntry :=
  entries.mergeSort fun a b => a.id ≤ b.id

namespace AuditEntry

variable {old new : List AuditEntry}

theorem pairwise_byId : (byId old).Pairwise fun a b => a.id ≤ b.id := by
  refine (List.pairwise_mergeSort (fun a b c hab hbc => ?_) (fun a b => ?_) old).imp
    of_decide_eq_true
  · simp only [decide_eq_true_eq] at hab hbc ⊢
    omega
  · simp only [Bool.or_eq_true, decide_eq_true_eq]
    omega

theorem byId_of_pairwise (h : old.Pairwise fun a b => a.id ≤ b.id) : byId old = old :=
  List.mergeSort_of_pairwise (h.imp decide_eq_true)

/-- Entries that are numbered above all others stay at the end. -/
theorem byId_append (hids : ((old ++ new).map (·.id)).Nodup)
    (hnew : new.Pairwise fun a b => a.id < b.id) (habove : ∀ a ∈ old, ∀ b ∈ new, a.id < b.id) :
    byId (old ++ new) = byId old ++ new := by
  have hperm : (byId old ++ new).Perm (old ++ new) := (List.mergeSort_perm ..).append_right _
  refine List.Perm.eq_of_pairwise (fun a b ha hb hle hge => ?_) pairwise_byId ?_
    ((List.mergeSort_perm ..).trans hperm.symm)
  · -- two entries with the same id are the same entry
    exact eq_of_key_eq hids (List.mem_mergeSort.1 ha) (hperm.mem_iff.1 hb) (by omega)
  · refine List.pairwise_append.2 ⟨pairwise_byId, hnew.imp Int.le_of_lt, fun a ha b hb => ?_⟩
    exact Int.le_of_lt (habove a (List.mem_mergeSort.1 ha) b hb)

end AuditEntry

/-- What the trail tells, in the order of the ids of its entries. -/
def Store.told (s : Store) : List Note := (AuditEntry.byId s.audit).map AuditEntry.note

/-- What is recorded is told last. -/
theorem Store.told_logged {ctx : Context} {s : Store} {notes : List Note}
    (hs : (s.audit.map (·.id)).Nodup) : (logged ctx notes s).told = s.told ++ notes := by
  have hsplit : AuditEntry.byId (logged ctx notes s).audit =
      AuditEntry.byId s.audit ++ entriesFrom ctx (nextId (s.audit.map (·.id))) notes := by
    refine AuditEntry.byId_append (nodup_logged_ids hs) pairwise_entriesFrom fun a ha b hb => ?_
    exact Int.lt_of_lt_of_le (lt_nextId (List.mem_map_of_mem ha)) (le_id_of_mem_entriesFrom hb)
  rw [told, hsplit, List.map_append, map_note_entriesFrom, told]

namespace Trail

/-! ### The latest birth of a status -/

/-- The note is on the status with this id. -/
def Note.isOn (id : Int) (n : Note) : Bool :=
  n.entityType = Table.statuses.name ∧ n.entityId = id

/-- What follows the latest birth of the status with this id. -/
def sequel (id : Int) (told : List Note) : List Note :=
  told.rtakeWhile fun n => !n.tells .statuses .create id

/-- The notes on the latest birth of the status with this id, which stand together. -/
def births (id : Int) (told : List Note) : List Note :=
  (told.rdropWhile fun n => !n.tells .statuses .create id).rtakeWhile
    fun n => n.tells .statuses .create id

/-- The notes on a field of a status from its latest birth on. -/
def chain (id : Int) (field : Text) (told : List Note) : List Note :=
  (births id told ++ sequel id told).filter fun n => n.isOn id ∧ n.fieldName = some field

variable {id : Int} {field : Text} {told notes : List Note} {n : Note}

theorem Note.isOn_of_tells {a : Action} (h : n.tells .statuses a id) : n.isOn id := by
  obtain ⟨htable, -, hid⟩ := tells_iff.1 h
  simp [isOn, htable, hid]

theorem rtakeWhile_append_of_forall {p : Note → Bool} (h : ∀ n ∈ notes, p n) :
    (told ++ notes).rtakeWhile p = told.rtakeWhile p ++ notes := by
  have hreverse : ∀ n ∈ notes.reverse, p n := fun n hn => h n (List.mem_reverse.1 hn)
  simp only [List.rtakeWhile, List.reverse_append, List.takeWhile_append_of_pos hreverse,
    List.reverse_reverse]

theorem rdropWhile_append_of_forall {p : Note → Bool} (h : ∀ n ∈ notes, p n) :
    (told ++ notes).rdropWhile p = told.rdropWhile p := by
  have hreverse : ∀ n ∈ notes.reverse, p n := fun n hn => h n (List.mem_reverse.1 hn)
  simp only [List.rdropWhile, List.reverse_append, List.dropWhile_append_of_pos hreverse]

/-- Notes on anything but a birth of the status follow its latest birth. -/
theorem sequel_append (h : ∀ n ∈ notes, ¬ n.tells .statuses .create id) :
    sequel id (told ++ notes) = sequel id told ++ notes :=
  rtakeWhile_append_of_forall fun n hn => by simpa using h n hn

theorem births_append (h : ∀ n ∈ notes, ¬ n.tells .statuses .create id) :
    births id (told ++ notes) = births id told := by
  unfold births
  rw [rdropWhile_append_of_forall fun n hn => by simpa using h n hn]

theorem chain_append (h : ∀ n ∈ notes, ¬ n.tells .statuses .create id) :
    chain id field (told ++ notes) =
      chain id field told ++ notes.filter fun n => n.isOn id ∧ n.fieldName = some field := by
  rw [chain, births_append h, sequel_append h, ← List.append_assoc, List.filter_append, ← chain]

/-- Notes on a birth that does not stand next to another one are the latest. -/
theorem births_of_birth (hne : notes ≠ []) (h : ∀ n ∈ notes, n.tells .statuses .create id)
    (hlast : ∀ n ∈ told.getLast?, ¬ n.tells .statuses .create id) :
    births id (told ++ notes) = notes ∧ sequel id (told ++ notes) = [] := by
  have hend : (told ++ notes).getLast (List.append_ne_nil_of_right_ne_nil _ hne) ∈ notes := by
    rw [List.getLast_append_of_right_ne_nil _ _ hne]
    exact List.getLast_mem hne
  have hdrop : (told ++ notes).rdropWhile (fun n => !n.tells .statuses .create id) =
      told ++ notes := by
    refine List.rdropWhile_eq_self_iff.2 fun _ => ?_
    simpa using h _ hend
  have hnone : told.rtakeWhile (fun n => n.tells .statuses .create id) = [] :=
    List.rtakeWhile_eq_nil_iff.2 fun hl => hlast _ (List.getLast_mem_getLast? hl)
  constructor
  · rw [births, hdrop, rtakeWhile_append_of_forall h, hnone, List.nil_append]
  · refine List.rtakeWhile_eq_nil_iff.2 fun _ => ?_
    simpa using h _ hend

/-! ### Chains of notes -/

/-- The notes go with writes, given the text that each write sent and the text that was kept of it:
each note tells what was sent and takes up what was kept before, from the first text to the last. -/
inductive Unbroken :
    Option Text → List Note → List (Option Text × Option Text) → Option Text → Prop
  | nil {text : Option Text} : Unbroken text [] [] text
  | cons {first sent kept last : Option Text} {n : Note} {notes : List Note}
      {texts : List (Option Text × Option Text)} (hold : n.oldValue = first)
      (hnew : n.newValue = sent) (hrest : Unbroken kept notes texts last) :
      Unbroken first (n :: notes) ((sent, kept) :: texts) last

variable {first middle last : Option Text} {texts more : List (Option Text × Option Text)}

theorem Unbroken.append (h : Unbroken first told texts middle)
    (h' : Unbroken middle notes more last) :
    Unbroken first (told ++ notes) (texts ++ more) last := by
  induction h with
  | nil => exact h'
  | cons hold hnew _ ih => exact .cons hold hnew (ih h')

end Trail

/-- The fields that a write sets, each with the text of what is sent and the text of what is kept.
They are the same but for report details, which are kept as their column gives them back. -/
def StatusWrite.texts : StatusWrite → List (Text × Option Text × Option Text)
  | .value v d =>
    [("value", (Cell.ofText? v).shown?, (Cell.ofText? v).shown?),
      ("report_details", (Cell.ofDetails d).shown?, (Cell.ofDetails d.stored).shown?)]
  | .compliance c => [("is_compliant", (Cell.ofTruth? c).shown?, (Cell.ofTruth? c).shown?)]
  | .report v d c =>
    [("value", (Cell.ofText? v).shown?, (Cell.ofText? v).shown?),
      ("report_details", (Cell.ofDetails d).shown?, (Cell.ofDetails d.stored).shown?),
      ("is_compliant", (Cell.truth c).shown?, (Cell.truth c).shown?)]

namespace Statuses

/-- The fields of a status that are reported. -/
def fields : List Text := ["value", "report_details", "is_compliant"]

variable {w : StatusWrite} {writes more : List StatusWrite} {st base : Status} {field : Text}
variable {id : Int}

theorem forall_fields {p : Text → Prop} (hvalue : p "value") (hdetails : p "report_details")
    (hcompliant : p "is_compliant") : ∀ field ∈ fields, p field := by
  simp [fields, hvalue, hdetails, hcompliant]

/-- What the writes send for a field and what is kept of it, for each of them that sets the
field. -/
def textsOf (field : Text) (writes : List StatusWrite) : List (Option Text × Option Text) :=
  ((writes.flatMap StatusWrite.texts).filter fun t => t.1 = field).map (·.2)

theorem textsOf_append :
    textsOf field (writes ++ more) = textsOf field writes ++ textsOf field more := by
  simp [textsOf]

/-- A write sets a field once or leaves it alone. -/
theorem cells_filter_eq (w : StatusWrite) (base : Status) : ∀ field ∈ fields,
    (w.cells.filter fun c => c.1 = field) = [] ∧ textsOf field [w] = [] ∧
        cellOf (w.apply base) field = cellOf base field ∨
      ∃ c, (w.cells.filter fun c => c.1 = field) = [(field, c)] ∧
        textsOf field [w] = [(c.shown?, (cellOf (w.apply base) field).shown?)] := by
  cases w with
  | value v d =>
    exact forall_fields (.inr ⟨_, rfl, rfl⟩) (.inr ⟨_, rfl, rfl⟩) (.inl ⟨rfl, rfl, rfl⟩)
  | compliance c =>
    exact forall_fields (.inl ⟨rfl, rfl, rfl⟩) (.inl ⟨rfl, rfl, rfl⟩) (.inr ⟨_, rfl, rfl⟩)
  | report v d c =>
    exact forall_fields (.inr ⟨_, rfl, rfl⟩) (.inr ⟨_, rfl, rfl⟩) (.inr ⟨_, rfl, rfl⟩)

theorem putNotes_eq {o : Option Status} : putNotes o id w =
    w.cells.map fun c => .field .statuses (if o.isSome then .update else .create) id c.1
      (o.elim none fun st => (cellOf st c.1).shown?) c.2.shown? := by
  cases o <;> rfl

/-- The notes on a write go with it, and lead each field from the text that was there to the text
that is there then. -/
theorem unbroken_putNotes {o : Option Status} (hfield : field ∈ fields)
    (hold : (o.elim none fun st => (cellOf st field).shown?) = (cellOf base field).shown?) :
    Unbroken (cellOf base field).shown?
      ((putNotes o id w).filter fun n => n.isOn id ∧ n.fieldName = some field)
      (textsOf field [w]) (cellOf (w.apply base) field).shown? := by
  have hcells : (w.cells.filter ((fun n => n.isOn id ∧ n.fieldName = some field) ∘ fun c =>
      Note.field .statuses (if o.isSome then .update else .create) id c.1
        (o.elim none fun st => (cellOf st c.1).shown?) c.2.shown?)) =
      w.cells.filter fun c => c.1 = field := by
    refine List.filter_congr fun c _ => ?_
    simp [Note.isOn, Note.field, Note.row]
  rw [putNotes_eq, List.filter_map, hcells]
  rcases cells_filter_eq w base field hfield with ⟨hnone, htexts, hkept⟩ | ⟨c, hone, htexts⟩
  · rw [hnone, htexts, hkept]
    exact .nil
  · rw [hone, htexts]
    exact .cons hold rfl .nil

/-- Notes on a status are not on another one. -/
theorem isOn_putNotes {o : Option Status} {n : Note} {other : Int} (hn : n ∈ putNotes o id w)
    (hne : other ≠ id) : ¬ n.isOn other := by
  obtain ⟨-, -, hid⟩ := Note.tells_iff.1 (tells_putNotes hn)
  simp [Note.isOn, hid, hne.symm]

/-- The time of the last update is none of the reported fields. -/
theorem cellOf_updatedAt {t : Instant} :
    ∀ field ∈ fields, cellOf { st with updatedAt := t } field = cellOf st field :=
  forall_fields rfl rfl rfl

/-- Nothing is reported in a row before the first write. -/
theorem shown?_cellOf_fresh {ctx : Context} {s : Store} {r : Regulation} {v : Version} :
    ∀ field ∈ fields, none = (cellOf (fresh ctx s r v) field).shown? :=
  forall_fields rfl rfl rfl

end Statuses

/-! ### Statuses with their trails -/

/-- The trail of a status goes with writes and leads to its row. -/
structure Status.Replayed (st : Status) (writes : List StatusWrite) (told : List Note) : Prop where
  /-- its latest birth is told by the notes on the first write -/
  birth : ∃ first rest, writes = first :: rest ∧
    births st.id told = Statuses.putNotes none st.id first
  /-- what is told of it since is that it was updated -/
  sequel : ∀ n ∈ sequel st.id told, n.isOn st.id → n.action = Action.update.name
  /-- the notes on each field go with the writes that set it, and lead from nothing to what the
  field has now -/
  chain : ∀ field ∈ Statuses.fields,
    Unbroken none (chain st.id field told) (Statuses.textsOf field writes)
      (Statuses.cellOf st field).shown?

namespace Status.Replayed

variable {st : Status} {told notes : List Note} {w : StatusWrite} {writes : List StatusWrite}

/-- What is told of other things is nothing to the status. -/
theorem frame (h : st.Replayed writes told) (hnotes : ∀ n ∈ notes, ¬ n.isOn st.id) :
    st.Replayed writes (told ++ notes) := by
  have hbirth : ∀ n ∈ notes, ¬ n.tells .statuses .create st.id := fun n hn htells =>
    hnotes n hn (Note.isOn_of_tells htells)
  refine ⟨?_, fun n hn hon => ?_, fun field hfield => ?_⟩
  · rw [births_append hbirth]
    exact h.birth
  · rw [sequel_append hbirth] at hn
    rcases List.mem_append.1 hn with hn | hn
    · exact h.sequel n hn hon
    · exact absurd hon (hnotes n hn)
  · have hnone : (notes.filter fun n => n.isOn st.id ∧ n.fieldName = some field) = [] :=
      List.filter_eq_nil_iff.2 fun n hn hon => hnotes n hn (of_decide_eq_true hon).1
    rw [chain_append hbirth, hnone, List.append_nil]
    exact h.chain field hfield

/-- A write to the row leads on from what was there. -/
theorem grow (h : st.Replayed writes told) {t : Instant} :
    Status.Replayed { w.apply st with updatedAt := t } (writes ++ [w])
      (told ++ Statuses.putNotes (some st) st.id w) := by
  have hnotes : ∀ n ∈ Statuses.putNotes (some st) st.id w, n.tells .statuses .update st.id :=
    fun n hn => Statuses.tells_putNotes hn
  have hbirth : ∀ n ∈ Statuses.putNotes (some st) st.id w, ¬ n.tells .statuses .create st.id := by
    intro n hn htells
    have hupdate := (Note.tells_iff.1 (hnotes n hn)).2.1
    rw [(Note.tells_iff.1 htells).2.1] at hupdate
    exact absurd hupdate (by decide)
  have hid : Status.id { w.apply st with updatedAt := t } = st.id := Statuses.apply_id
  constructor
  · obtain ⟨first, rest, hwrites, hbirths⟩ := h.birth
    refine ⟨first, rest ++ [w], by rw [hwrites, List.cons_append], ?_⟩
    rw [hid, births_append hbirth, hbirths]
  · rw [hid, sequel_append hbirth]
    intro n hn hon
    rcases List.mem_append.1 hn with hn | hn
    · exact h.sequel n hn hon
    · exact (Note.tells_iff.1 (hnotes n hn)).2.1
  · intro field hfield
    rw [hid, chain_append hbirth, Statuses.textsOf_append, Statuses.cellOf_updatedAt field hfield]
    exact (h.chain field hfield).append (Statuses.unbroken_putNotes hfield rfl)

end Status.Replayed

/-- The notes on the write that added a row are the trail of the row. -/
theorem Status.replayed_of_birth {ctx : Context} {s : Store} {r : Regulation} {v : Version}
    {w : StatusWrite} {row : Status} {told : List Note}
    (hrow : row = w.apply (Statuses.fresh ctx s r v))
    (hlast : ∀ n ∈ told.getLast?, ¬ n.tells .statuses .create row.id) :
    row.Replayed [w] (told ++ Statuses.putNotes none row.id w) := by
  have hnotes : ∀ n ∈ Statuses.putNotes none row.id w, n.tells .statuses .create row.id :=
    fun n hn => Statuses.tells_putNotes hn
  obtain ⟨hbirths, hsequel⟩ := births_of_birth Statuses.putNotes_ne_nil hnotes hlast
  refine ⟨⟨w, [], rfl, hbirths⟩, by simp [hsequel], fun field hfield => ?_⟩
  have hblank : none = (Statuses.cellOf (Statuses.fresh ctx s r v) field).shown? :=
    Statuses.shown?_cellOf_fresh field hfield
  rw [chain, hbirths, hsequel, List.append_nil]
  have hchain := @Statuses.unbroken_putNotes w _ field row.id none hfield hblank
  rwa [← hblank, ← hrow] at hchain

/-- What is carried out counts, and all writes to a pair are noted down one after the other. -/
def Bookkeeping.written : Bookkeeping (List StatusWrite) :=
  ⟨fun writes w => writes.getD [] ++ [w], carriedOut⟩

/-- What the trail tells of the rows of a pair, given what the ledger has for it: without an entry
there is no row, and with an entry there is one whose trail goes with these writes. -/
inductive Trail.Traced (told : List Note) : Option (List StatusWrite) → List Status → Prop
  | absent : Traced told none []
  | present {st : Status} {writes : List StatusWrite} (h : st.Replayed writes told) :
      Traced told (some writes) [st]

theorem Trail.Traced.frame {told notes : List Note} {e : Option (List StatusWrite)}
    {rows : List Status} (h : Traced told e rows)
    (hnotes : ∀ st ∈ rows, ∀ n ∈ notes, ¬ n.isOn st.id) : Traced (told ++ notes) e rows := by
  cases h with
  | absent => exact .absent
  | present h => exact .present (h.frame (hnotes _ (List.mem_singleton_self _)))

namespace Store

/-- The trails of all statuses go with what the ledger has for them. When the last thing that is
told is the birth of a status, that status is there: so an id that is given again is not told of
next to its last birth. -/
structure Retraced (L : Ledger (List StatusWrite)) (s : Store) : Prop where
  settled : s.regulations ≠ [] → ∀ n ∈ s.told.getLast?, ∀ id, n.tells .statuses .create id →
    id ∈ s.ids .statuses
  traced : ∀ r v, Traced s.told (L r v) (s.statusesAt r v)

variable {s after : Store} {notes : List Note} {L : Ledger (List StatusWrite)}
  {e : Option (List StatusWrite)} {r v id : Int}

theorem Initial.retraced (h : s.Initial) : s.Retraced .empty := by
  refine ⟨fun hne => absurd h.regulations_eq hne, fun r v => ?_⟩
  rw [statusesAt, h.statuses_eq]
  exact .absent

/-- Notes that do not tell of a birth leave nothing to settle. -/
theorem settled_of_not_birth (hne : notes ≠ [])
    (h : ∀ n ∈ notes, n.action ≠ Action.create.name ∨ n.entityType ≠ Table.statuses.name) :
    ∀ n ∈ (s.told ++ notes).getLast?, ∀ id, n.tells .statuses .create id →
      id ∈ after.ids .statuses := by
  intro n hn id htells
  rw [List.getLast?_append_of_ne_nil _ hne] at hn
  obtain ⟨htable, haction, -⟩ := Note.tells_iff.1 htells
  rcases h n (List.mem_of_mem_getLast? hn) with h | h
  · exact absurd haction h
  · exact absurd htable h

theorem not_isOn_of_others (hnotes : ∀ n ∈ notes, n.entityType ≠ Table.statuses.name) :
    ∀ n ∈ notes, ¬ n.isOn id := fun n hn hon => hnotes n hn (of_decide_eq_true hon).1

/-- Notes on other tables leave the trails of the statuses alone. -/
theorem Retraced.of_others (h : s.Retraced L) (htold : after.told = s.told ++ notes)
    (hnotes : ∀ n ∈ notes, n.entityType ≠ Table.statuses.name)
    (hnone : notes = [] → s.regulations ≠ []) (hstatuses : after.statuses = s.statuses) :
    after.Retraced L := by
  constructor
  · intro _
    rw [htold]
    by_cases hempty : notes = []
    · rw [hempty, List.append_nil, ids_statuses, hstatuses, ← ids_statuses]
      exact h.settled (hnone hempty)
    · exact settled_of_not_birth hempty fun n hn => .inr (hnotes n hn)
  · intro r v
    rw [htold, statusesAt, hstatuses]
    exact (h.traced r v).frame fun _ _ => not_isOn_of_others hnotes

/-- When what is told is of one pair, which is given its entry, all others keep their trails. -/
theorem Retraced.assign (h : s.Retraced L) (htold : after.told = s.told ++ notes)
    (hsettled : ∀ n ∈ (s.told ++ notes).getLast?, ∀ id, n.tells .statuses .create id →
      id ∈ after.ids .statuses)
    (hpair : Traced after.told e (after.statusesAt r v))
    (hrows : ∀ r' v', ¬ (r = r' ∧ v = v') → after.statusesAt r' v' = s.statusesAt r' v')
    (hothers : ∀ st ∈ s.statuses, ¬ (r = st.regulationId ∧ v = st.versionId) →
      ∀ n ∈ notes, ¬ n.isOn st.id) : after.Retraced (L.assign r v e) := by
  refine ⟨fun _ => htold ▸ hsettled, fun r' v' => ?_⟩
  by_cases hkeys : r = r' ∧ v = v'
  · obtain ⟨rfl, rfl⟩ := hkeys
    rwa [Ledger.assign_self]
  · rw [Ledger.assign_of_ne hkeys, hrows r' v' hkeys, htold]
    refine (h.traced r' v').frame fun st hst => ?_
    obtain ⟨hmem, hwhose⟩ := List.mem_filter.1 hst
    obtain ⟨rfl, rfl⟩ := of_decide_eq_true hwhose
    exact hothers st hmem hkeys

end Store

/-! ### Operations -/

variable {ctx : Context} {s after : Store} {r : Regulation} {v : Version} {w : StatusWrite}
variable {row st : Status} {L : Ledger (List StatusWrite)}

namespace Statuses

/-- Only one row has the id of the row of a pair, and it is of that pair. -/
theorem ne_id_of_other (hs : s.Consistent) (hst : st ∈ s.statusesAt r.id v.id) {u : Status}
    (hu : u ∈ s.statuses) (hkeys : ¬ (r.id = u.regulationId ∧ v.id = u.versionId)) :
    u.id ≠ st.id := by
  intro hid
  obtain rfl : u = st := eq_of_key_eq hs.statusIds hu (List.mem_of_mem_filter hst) hid
  obtain ⟨hregulation, hversion⟩ := keys_of_mem_statusesAt hst
  exact hkeys ⟨hregulation.symm, hversion.symm⟩

/-- What is told last when a row was added is its own birth. -/
theorem settled_of_birth {row : Status} (hrow : row ∈ after.statuses) :
    ∀ n ∈ (s.told ++ putNotes none row.id w).getLast?, ∀ id, n.tells .statuses .create id →
      id ∈ after.ids .statuses := by
  intro n hn id htells
  rw [List.getLast?_append_of_ne_nil _ putNotes_ne_nil] at hn
  have hbirth := Note.tells_iff.1 (tells_putNotes (List.mem_of_mem_getLast? hn))
  obtain rfl : row.id = id := hbirth.2.2.symm.trans (Note.tells_iff.1 htells).2.2
  rw [Store.ids_statuses]
  exact List.mem_map_of_mem hrow

/-- What is told last when a row was written again is no birth. -/
theorem settled_of_update {id : Int} :
    ∀ n ∈ (s.told ++ putNotes (some st) id w).getLast?, ∀ id', n.tells .statuses .create id' →
      id' ∈ after.ids .statuses := by
  refine Store.settled_of_not_birth putNotes_ne_nil fun n hn => .inl ?_
  rw [(Note.tells_iff.1 (tells_putNotes hn)).2.1]
  change Action.update.name ≠ Action.create.name
  decide

/-- A row that is added begins a trail of its own, and one that is written again leads its trail
on. -/
theorem Upserted.retraced (hs : s.Consistent) (hretraced : s.Retraced L) (hr : r ∈ s.regulations)
    (h : Upserted ctx s r v w row after) :
    after.Retraced (L.assign r.id v.id (some (Bookkeeping.written.noted (L r.id v.id) w))) := by
  have hrows := h.statusesAt_eq hs
  have hothers : ∀ r' v', ¬ (r.id = r' ∧ v.id = v') →
      after.statusesAt r' v' = s.statusesAt r' v' := fun _ _ => h.statusesAt_of_ne hs
  have htraced := hretraced.traced r.id v.id
  cases h with
  | added hnone hrow hwritten =>
    have hnew : row.id ∉ s.ids .statuses := id_notMem_of_fresh hrow
    have htold : (logged ctx (putNotes none row.id w) (s.push (.status row))).told =
        s.told ++ putNotes none row.id w := Store.told_logged hs.auditIds
    have hmem : row ∈ s.statuses ++ [row] := List.mem_append_right _ (List.mem_singleton_self row)
    refine hretraced.assign htold (settled_of_birth hmem) ?_ hothers fun u hu _ n hn => ?_
    · rw [hnone] at htraced
      rw [hrows, htold]
      generalize L r.id v.id = e at htraced
      cases htraced
      -- the last that was told is not another birth with this id, which was not in use
      exact .present (Status.replayed_of_birth hrow fun n hn htells =>
        hnew (hretraced.settled (List.ne_nil_of_mem hr) n hn row.id htells))
    · refine isOn_putNotes hn fun hsame => hnew ?_
      rw [← hsame, Store.ids_statuses]
      exact List.mem_map_of_mem hu
  | @replaced st hsome hrow hwritten =>
    have hst := List.mem_of_head? hsome
    have hid : row.id = st.id := by rw [hrow]; exact apply_id
    have htold : (logged ctx (putNotes (some st) row.id w) (s.put (.status row))).told =
        s.told ++ putNotes (some st) row.id w := Store.told_logged hs.auditIds
    refine hretraced.assign htold settled_of_update ?_ hothers fun u hu hkeys n hn => ?_
    · rw [hrows, htold, hid, hrow]
      generalize L r.id v.id = e at htraced
      generalize s.statusesAt r.id v.id = rows at hst htraced
      cases htraced with
      | absent => cases hst
      | present hreplayed =>
        obtain rfl := List.mem_singleton.1 hst
        exact .present hreplayed.grow
    · exact isOn_putNotes hn (hid ▸ ne_id_of_other hs hst hu hkeys)

/-- A row that is deleted takes its trail with it. -/
theorem Deleted.retraced (hs : s.Consistent) (hretraced : s.Retraced L)
    (h : Deleted ctx s r v st after) : after.Retraced (L.assign r.id v.id none) := by
  have hst : st ∈ s.statusesAt r.id v.id := h.found ▸ List.mem_singleton_self st
  have htold : after.told = s.told ++ [.row .statuses .delete st.id] := by
    rw [h.after_eq]
    exact Store.told_logged hs.auditIds
  refine hretraced.assign htold ?_ (h.statusesAt_eq ▸ .absent)
    (fun _ _ => h.statusesAt_of_ne hs) fun u hu hkeys n hn hon => ?_
  · refine Store.settled_of_not_birth (by simp) fun n hn => .inl ?_
    rw [List.mem_singleton.1 hn]
    change Action.delete.name ≠ Action.create.name
    decide
  · rw [List.mem_singleton.1 hn] at hon
    exact ne_id_of_other hs hst hu hkeys (of_decide_eq_true hon).2.symm

end Statuses

namespace Regulations

variable {before asked : Regulation} {project : Int} {address : Address} {view : RegulationView}

theorem entityType_of_mem_updateNotes {n : Note} (h : n ∈ updateNotes before r) :
    n.entityType = Table.regulations.name := by
  obtain ⟨⟨b, a⟩, -, hnote⟩ := List.mem_filterMap.1 h
  dsimp only at hnote
  split at hnote
  · simp at hnote
  · cases hnote
    rfl

/-- What is told of a regulation leaves the trails of the statuses alone. -/
theorem Rewritten.retraced (hs : s.Consistent) (hretraced : s.Retraced L)
    (hbefore : before ∈ s.regulations) (h : Rewritten ctx s before asked r after) :
    after.Retraced L := by
  cases h with
  | unchanged heq => exact hretraced
  | changed hne hrow hwritten =>
    have hnotes : ∀ n ∈ updateNotes before r, n.entityType ≠ Table.statuses.name := by
      intro n hn
      rw [entityType_of_mem_updateNotes hn]
      decide
    exact hretraced.of_others (Store.told_logged hs.auditIds) hnotes
      (fun _ => List.ne_nil_of_mem hbefore) rfl

/-- A note on a regulation is not on a status. -/
theorem entityType_row_ne {a : Action} {id : Int} :
    ∀ n ∈ [Note.row .regulations a id], n.entityType ≠ Table.statuses.name := by
  intro n hn
  rw [List.mem_singleton.1 hn]
  change Table.regulations.name ≠ Table.statuses.name
  decide

/-- The statuses of a regulation that is deleted are gone, and so are their entries. -/
theorem Deleted.retraced (hs : s.Consistent) (hretraced : s.Retraced L)
    (h : Deleted ctx s project address view after) :
    after.Retraced (L.strike view.regulation.id) := by
  have htold : after.told = s.told ++ [.row .regulations .delete view.regulation.id] := by
    rw [h.after_eq]
    exact Store.told_logged hs.auditIds
  constructor
  · intro _
    rw [htold]
    exact Store.settled_of_not_birth (by simp) fun n hn => .inr (entityType_row_ne n hn)
  · intro r v
    rw [htold, h.statusesAt_eq, Ledger.strike]
    split
    · exact .absent
    · exact (hretraced.traced r v).frame fun _ _ => Store.not_isOn_of_others entityType_row_ne

end Regulations

/-- Operations that requests can ask for keep the trails of all statuses in step with the ledger of
what is written. -/
theorem Operation.Outcome.retraced {op : Operation} {answer : Answer}
    {announcements : List Announcement} (hs : s.Consistent) (hretraced : s.Retraced L)
    (hop : op.IsPosed) (h : Outcome ctx s op answer after announcements) :
    after.Retraced (L.follow Bookkeeping.written.noted s op) := by
  cases h with
  | seeded | remarked => exact hop.elim
  | read h => exact Ledger.follow_of_isRead h ▸ hretraced
  | created h =>
    rw [h.after_eq]
    exact hretraced.of_others (Store.told_logged hs.auditIds) Regulations.entityType_row_ne
      (by simp) rfl
  | updated h => exact h.rewritten.retraced hs hretraced h.before_mem
  | deleted h =>
    simp only [Ledger.follow, h.found]
    exact h.retraced hs hretraced
  | upserted hpair hwrites h =>
    rw [Ledger.follow_of_writes hs hpair hwrites]
    exact h.retraced hs hretraced hpair.regulation_mem
  | statusDeleted hpair h =>
    simp only [Ledger.follow, hpair.findPair_eq hs]
    exact h.retraced hs hretraced

namespace World

variable {settings : Settings} {w : World} {arrivals : List Arrival}

/-- Requests and the ledger of what is written keep in step. -/
theorem retraced_ledger (hs : w.store.Kept) (hretraced : w.store.Retraced L) :
    (w.serve settings arrivals).store.Retraced (w.ledger .written settings L arrivals) := by
  induction arrivals generalizing w L with
  | nil => exact hretraced
  | cons a arrivals ih =>
    rw [serve_cons]
    refine ih (kept_outcome hs) ?_
    -- the ledger is kept from the store that the request meets, like the trail
    change (a.outcome settings w.store).store.Retraced (L.note .written settings w.store a)
    rcases Ledger.note_cases (b := .written) rfl hs.toConsistent with
      ⟨op, answer, hop, hnote, houtcome⟩ | ⟨hstore, hnote⟩
    · exact hnote ▸ houtcome.retraced hs.toConsistent hretraced hop
    · rwa [hstore, hnote]

/-- After every run, the trail of each status goes with the writes to its pair that requests carried
out since there was no status of the pair. It begins with the notes on the first of them, which tell
of its birth, and tells of nothing but updates since. The notes on each of its fields go one by one
with the writes that set it: a note tells what was sent and takes up what was kept of the write
before, from no text on to the text that the field has now. So there is none where the field never
had a value. -/
theorem statuses_replayed (h : w.store.Initial) {st : Status}
    (hst : st ∈ (w.serve settings arrivals).store.statuses) :
    ∃ writes,
      w.ledger .written settings .empty arrivals st.regulationId st.versionId = some writes ∧
      st.Replayed writes (w.serve settings arrivals).store.told := by
  have hretraced : (w.serve settings arrivals).store.Retraced
      (w.ledger .written settings .empty arrivals) := retraced_ledger h.kept h.retraced
  have hmem : st ∈ (w.serve settings arrivals).store.statusesAt st.regulationId st.versionId :=
    List.mem_filter.2 ⟨hst, decide_eq_true ⟨rfl, rfl⟩⟩
  have htraced := hretraced.traced st.regulationId st.versionId
  generalize (w.serve settings arrivals).store.statusesAt st.regulationId st.versionId = rows
    at hmem htraced
  generalize w.ledger .written settings .empty arrivals st.regulationId st.versionId = e at htraced
  cases htraced with
  | absent => cases hmem
  | present hreplayed =>
    obtain rfl := List.mem_singleton.1 hmem
    exact ⟨_, rfl, hreplayed⟩

/-- A status went together with its regulation, and both ids were given again: the trail of the new
status goes with its own two writes, the first of which sent a number for the details. -/
theorem statuses_replayed_again :
    let arrivals : List Arrival :=
      [.creation, .firstReport, .deletion, .creation, .detailing "0.0", .detailing "null"]
    let reached := (sample.serve (.ofDatabase "sqlite") arrivals).store
    let st : Status := ⟨1, 1, 1, some "x", .null, none, ⟨0⟩, ⟨0⟩⟩
    sample.store.Initial ∧ st ∈ reached.statuses ∧
    sample.ledger .written (.ofDatabase "sqlite") .empty arrivals 1 1 =
      some [.value (some "x") (.float (.finite false 0 (-1074))), .value (some "x") .null] ∧
    st.Replayed [.value (some "x") (.float (.finite false 0 (-1074))), .value (some "x") .null]
      reached.told := by
  intro arrivals reached st
  have hst : st ∈ reached.statuses := by decide +kernel
  have hledger : sample.ledger .written (.ofDatabase "sqlite") .empty arrivals 1 1 =
      some [.value (some "x") (.float (.finite false 0 (-1074))), .value (some "x") .null] := by
    decide +kernel
  obtain ⟨writes, hwrites, hreplayed⟩ := statuses_replayed Store.initial_sample hst
  obtain rfl := Option.some.inj (hledger.symm.trans hwrites)
  exact ⟨Store.initial_sample, hst, hledger, hreplayed⟩

/-- Report details are not taken up as they were sent: a number comes back from its column in
another form, and the next note starts from that. -/
theorem details_not_taken_up :
    sample.store.Initial ∧
    (sample.serve (.ofDatabase "sqlite")
      [.creation, .detailing "0.0", .detailing "null"]).store.statuses =
        [⟨1, 1, 1, some "x", .null, none, ⟨0⟩, ⟨0⟩⟩] ∧
    ¬ (chain 1 "report_details" (sample.serve (.ofDatabase "sqlite")
        [.creation, .detailing "0.0", .detailing "null"]).store.told).IsChain
      fun n next => next.oldValue = n.newValue := by
  have hstore : (sample.serve (.ofDatabase "sqlite")
      [.creation, .detailing "0.0", .detailing "null"]).store =
      { Store.sample with
        regulations := [firstRegulation "r" none 1]
        statuses := [⟨1, 1, 1, some "x", .null, none, ⟨0⟩, ⟨0⟩⟩]
        audit := entriesFrom ⟨⟨0⟩, none, none, false⟩ 1
          [.row .regulations .create 1,
            .field .statuses .create 1 "value" none (some "x"),
            .field .statuses .create 1 "report_details" none (some "0.0"),
            .field .statuses .update 1 "value" (some "x") (some "x"),
            .field .statuses .update 1 "report_details" (some "0") none] } := by
    decide +kernel
  refine ⟨Store.initial_sample, by rw [hstore], ?_⟩
  rw [hstore, Store.told, AuditEntry.byId_of_pairwise (pairwise_entriesFrom.imp Int.le_of_lt),
    map_note_entriesFrom]
  have hchain : chain 1 "report_details"
      [.row .regulations .create 1,
        .field .statuses .create 1 "value" none (some "x"),
        .field .statuses .create 1 "report_details" none (some "0.0"),
        .field .statuses .update 1 "value" (some "x") (some "x"),
        .field .statuses .update 1 "report_details" (some "0") none] =
      [.field .statuses .create 1 "report_details" none (some "0.0"),
        .field .statuses .update 1 "report_details" (some "0") none] := by
    decide +kernel
  rw [hchain]
  -- the second note starts from another text than the first one left
  decide

end World

end ComplianceRegistry
