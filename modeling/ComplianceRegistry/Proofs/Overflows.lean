import ComplianceRegistry.Proofs.Acceptance

/-!
# Integers that storage cannot take

Storage takes integers of 64 bits. A row overflows by one of its integers, and a look-up by one of
those that it asks with: each of them is handed to a statement before anything is read. What the
trail records beside that was stored before or counted on from it, and never overflows.

## Main definitions

* `Row.integers` — the integers of a row
* `Address.integers` — the integers of an address

## Main results

* `Row.check_ne_overflow`, `Trail.record_ne_overflow` — what never overflows
* `Regulation.check_overflows_iff` — a regulation overflows by its order, if its texts have bytes
* `Regulations.find_overflows_iff`, `Statuses.findPair_overflows_iff`,
  `AuditPage.find_overflows_iff` — when look-ups overflow
-/

namespace ComplianceRegistry

/-! ### Checks that overflow -/

variable {ctx : Context} {s : Store} {project regulation id n : Int} {address : Address}
variable {catalogId : Text}

@[simp] theorem checkInteger_overflows_iff :
    checkInteger n = .error .integerBeyondStorage ↔ ¬ Storable n := by
  simp [checkInteger]

/-- A check of an integer overflows by the integer, or what follows does. -/
theorem checkInteger_bind_overflows_iff {α : Type} {next : Unit → Except Fault α} :
    checkInteger n >>= next = .error .integerBeyondStorage ↔
      ¬ Storable n ∨ next () = .error .integerBeyondStorage := by
  by_cases hn : Storable n <;> simp [checkInteger, hn, bind, Except.bind]

@[simp] theorem checkText_ne_overflow {t : Text} :
    checkText t ≠ .error .integerBeyondStorage := by
  unfold checkText
  split <;> simp

@[simp] theorem checkText?_ne_overflow {t : Option Text} :
    checkText? t ≠ .error .integerBeyondStorage := by
  cases t with
  | none => simp [checkText?]
  | some t => exact checkText_ne_overflow

@[simp] theorem sole_ne_overflow {α : Type} {rows : List α} :
    sole rows ≠ .error .integerBeyondStorage := by
  unfold sole
  split <;> simp

/-! ### Rows that overflow -/

namespace Cell

@[simp] theorem integer?_integer : (integer n).integer? = some n := rfl

@[simp] theorem integer?_text {t : Text} : (text t).integer? = none := rfl

@[simp] theorem integer?_instant {t : Instant} : (instant t).integer? = none := rfl

@[simp] theorem integer?_ofText? {t : Option Text} : (ofText? t).integer? = none := by
  cases t <;> rfl

@[simp] theorem integer?_ofTruth? {b : Option Bool} : (ofTruth? b).integer? = none := by
  cases b <;> rfl

@[simp] theorem integer?_ofDetails {d : Document} : (ofDetails d).integer? = none := by
  cases d <;> rfl

@[simp] theorem integer?_ofInteger? {i : Option Int} : (ofInteger? i).integer? = i := by
  cases i <;> rfl

theorem check_overflows_iff {c : Cell} :
    c.check = .error .integerBeyondStorage ↔ ∃ n, c.integer? = some n ∧ ¬ Storable n := by
  cases c <;> simp [check, integer?]

end Cell

namespace Row

/-- The integers of a row, in the order of its columns. -/
def integers (r : Row) : List Int := r.columns.filterMap fun c => c.2.integer?

/-- A row does not overflow when its integers fit. -/
theorem check_ne_overflow {r : Row} (h : ∀ n ∈ r.integers, Storable n) :
    r.check ≠ .error .integerBeyondStorage := by
  intro hcheck
  obtain ⟨c, hc, hcell⟩ := exists_of_forM_eq_error hcheck
  obtain ⟨n, hn, hbeyond⟩ := Cell.check_overflows_iff.1 hcell
  exact hbeyond (h n (List.mem_filterMap.2 ⟨c, hc, hn⟩))

theorem integers_status {st : Status} :
    (Row.status st).integers = [st.id, st.regulationId, st.versionId] := by
  simp [integers, columns, Status.columns]

theorem integers_audit {e : AuditEntry} :
    (Row.audit e).integers = e.id :: (e.userId.toList ++ [e.entityId]) := by
  simp only [integers, columns, AuditEntry.columns, List.filterMap_cons, Cell.integer?_integer,
    Cell.integer?_ofInteger?, Cell.integer?_text, Cell.integer?_ofText?, Cell.integer?_instant]
  cases e.userId <;> rfl

end Row

/-- The texts of a regulation have bytes. -/
def Regulation.IsLegible (r : Regulation) : Prop :=
  r.name.Encodable ∧ (∀ u ∈ r.displayName, u.Encodable) ∧ (∀ u ∈ r.description, u.Encodable) ∧
    ∀ u ∈ r.config, u.Encodable

/-- A regulation whose ids fit overflows by its order, which comes after its texts. -/
theorem Regulation.check_overflows_iff {r : Regulation} (hid : Storable r.id)
    (htype : Storable r.typeId) (hproject : Storable r.projectId) :
    (Row.regulation r).check = .error .integerBeyondStorage ↔
      r.IsLegible ∧ ¬ Storable r.order := by
  have htext {t : Option Text} : (Cell.ofText? t).check ≠ .error .integerBeyondStorage := by
    simp [Cell.check_overflows_iff]
  -- the cells are checked in the order of the columns, up to the first that fails
  change (checkInteger r.id >>= fun _ => checkText r.name >>= fun _ =>
    (Cell.ofText? r.displayName).check >>= fun _ => (Cell.ofText? r.description).check >>= fun _ =>
    (Cell.ofText? r.config).check >>= fun _ => checkInteger r.order >>= fun _ =>
    checkInteger r.typeId >>= fun _ => checkInteger r.projectId >>= fun _ => pure ()) = _ ↔ _
  have hend : (pure () : Except Fault Unit) ≠ .error .integerBeyondStorage := nofun
  simp only [bind_eq_error_iff, Unique.exists_iff, PUnit.default_eq_unit,
    checkInteger_overflows_iff, checkInteger_eq_ok, checkText_eq_ok, checkText_ne_overflow, htext,
    Cell.check_ofText?, hid, htype, hproject, hend, not_true_eq_false, false_or, true_and,
    and_false, or_false]
  simp only [IsLegible, and_assoc]

namespace Store

variable {row : Row}

theorem insert_overflows_iff :
    s.insert row = .error .integerBeyondStorage ↔ row.check = .error .integerBeyondStorage := by
  unfold insert
  rw [bind_eq_error_iff]
  refine or_iff_left ?_
  rintro ⟨_, -, h⟩
  split at h <;> simp at h

theorem replace_overflows_iff :
    s.replace row = .error .integerBeyondStorage ↔ row.check = .error .integerBeyondStorage := by
  unfold replace
  rw [bind_eq_error_iff]
  refine or_iff_left ?_
  rintro ⟨_, -, h⟩
  split at h <;> simp at h

end Store

namespace Trail

variable {notes : List Note} {first : Int}

/-- The entries of notes on rows that were stored do not overflow, as long as their ids and the
number of the user fit. -/
theorem checkEntries_ne_overflow (huser : Holds ctx.user)
    (hids : ∀ i < notes.length, Storable (first + i)) (hnotes : ∀ n ∈ notes, Storable n.entityId) :
    checkEntries (entriesFrom ctx first notes) ≠ .error .integerBeyondStorage := by
  induction notes generalizing first with
  | nil => simp [entriesFrom, checkEntries, pure, Except.pure]
  | cons n notes ih =>
    obtain ⟨hn, hnotes⟩ := List.forall_mem_cons.1 hnotes
    obtain ⟨hfirst, hids⟩ := (forall_follow_succ (p := Storable)).1 hids
    have hentry : (Row.audit (n.entry ctx first)).check ≠ .error .integerBeyondStorage := by
      refine Row.check_ne_overflow ?_
      rw [Row.integers_audit, List.forall_mem_cons, List.forall_mem_append]
      exact ⟨hfirst, fun i hi => huser i (Option.mem_toList.1 hi), List.forall_mem_singleton.2 hn⟩
    rw [entriesFrom, checkEntries_cons]
    intro h
    rcases bind_eq_error_iff.1 h with h | ⟨_, -, h⟩
    · exact hentry h
    · exact ih hids hnotes h

/-- The trail takes ten notes at most without an overflow, as long as the ids have not run out. -/
theorem record_ne_overflow (huser : Holds ctx.user)
    (hroom : ∀ i : Fin 10, Storable (s.nextIdOf .audit + i)) (hlength : notes.length ≤ 10)
    (hnotes : ∀ n ∈ notes, Storable n.entityId) :
    record ctx s notes ≠ .error .integerBeyondStorage := by
  rw [record_eq]
  intro h
  rcases bind_eq_error_iff.1 h with h | ⟨_, -, h⟩
  · exact checkEntries_ne_overflow huser (storable_of_hasRoom hroom hlength) hnotes h
  · cases h

end Trail

/-! ### Look-ups that overflow -/

/-- The integers of an address. -/
def Address.integers : Address → List Int
  | .byId id => [id]
  | .byName _ => []

namespace Catalog

theorem find_overflows_iff : find s id = .error .integerBeyondStorage ↔ ¬ Storable id := by
  unfold find
  rw [checkInteger_bind_overflows_iff]
  refine or_iff_left ?_
  split <;> simp

end Catalog

namespace Regulations

variable {r : Regulation}

theorem checkAddress_overflows_iff : checkAddress address = .error .integerBeyondStorage ↔
    ∃ n ∈ address.integers, ¬ Storable n := by
  cases address <;> simp [checkAddress, Address.integers]

theorem find_overflows_iff : find s project address = .error .integerBeyondStorage ↔
    ∃ n ∈ project :: address.integers, ¬ Storable n := by
  unfold find
  rw [checkInteger_bind_overflows_iff, bind_eq_error_iff, checkAddress_overflows_iff,
    List.exists_mem_cons_iff]
  refine or_congr_right (or_iff_left ?_)
  rintro ⟨_, -, h⟩
  rcases bind_eq_error_iff.1 h with h | ⟨found, -, h⟩
  · exact sole_ne_overflow h
  · cases found <;> cases h

theorem requireProject_overflows_iff :
    requireProject s project = .error .integerBeyondStorage ↔ ¬ Storable project := by
  unfold requireProject
  rw [checkInteger_bind_overflows_iff]
  refine or_iff_left ?_
  split <;> simp

theorem ensureNameFree_ne_overflow {name : Text} :
    ensureNameFree ctx s project name ≠ .error .integerBeyondStorage := by
  unfold ensureNameFree
  intro h
  rcases bind_eq_error_iff.1 h with h | ⟨_, -, h⟩
  · exact checkText_ne_overflow h
  · split at h <;> simp at h

theorem ensureRenamable_ne_overflow {before : Regulation} {name : Text} :
    ensureRenamable ctx s project before name ≠ .error .integerBeyondStorage := by
  unfold ensureRenamable
  split
  · exact ensureNameFree_ne_overflow
  · simp

/-- A regulation that was stored is seen without an overflow. -/
theorem view_ne_overflow (hr : (Row.regulation r).check = .ok ()) :
    view s r ≠ .error .integerBeyondStorage := by
  intro h
  rcases bind_eq_error_iff.1 h with h | ⟨_, -, h⟩
  · exact Catalog.find_overflows_iff.1 h (Regulation.check_iff.1 hr).1.2.2.1
  · cases h

variable (hrows : s.Every fun r => r.check = .ok ())
include hrows

theorem get_overflows_iff : get s project address = .error .integerBeyondStorage ↔
    ∃ n ∈ project :: address.integers, ¬ Storable n := by
  unfold get
  rw [bind_eq_error_iff, find_overflows_iff]
  refine or_iff_left ?_
  rintro ⟨r, hr, h⟩
  exact view_ne_overflow (hrows.regulations r (mem_of_find_eq_ok hr).1) h

theorem list_overflows_iff :
    list s project = .error .integerBeyondStorage ↔ ¬ Storable project := by
  have hviews (rows : List Regulation) (hstored : ∀ r ∈ rows, (Row.regulation r).check = .ok ()) :
      rows.mapM (view s) ≠ .error .integerBeyondStorage := by
    induction rows with
    | nil => simp [pure, Except.pure]
    | cons r rows ih =>
      obtain ⟨hr, hstored⟩ := List.forall_mem_cons.1 hstored
      intro h
      rw [List.mapM_cons] at h
      rcases bind_eq_error_iff.1 h with h | ⟨_, -, h⟩
      · exact view_ne_overflow hr h
      rcases bind_eq_error_iff.1 h with h | ⟨_, -, h⟩
      · exact ih hstored h
      · cases h
  unfold list
  rw [checkInteger_bind_overflows_iff]
  refine or_iff_left (hviews _ fun r hr => hrows.regulations r ?_)
  exact List.mem_of_mem_filter (List.mem_mergeSort.1 hr)

end Regulations

namespace Statuses

/-- What asks for a regulation and a version of a project overflows by their ids. -/
theorem checkKeys_overflows_iff {α : Type} {next : Unit → Except Fault α}
    (h : next () ≠ .error .integerBeyondStorage) :
    (checkInteger project >>= fun _ => checkInteger regulation >>= fun _ =>
        checkText catalogId >>= next) = .error .integerBeyondStorage ↔
      ∃ n ∈ [project, regulation], ¬ Storable n := by
  have htext : checkText catalogId >>= next ≠ .error .integerBeyondStorage := by
    intro herror
    rcases bind_eq_error_iff.1 herror with herror | ⟨_, -, herror⟩
    · exact checkText_ne_overflow herror
    · exact h herror
  simp [checkInteger_bind_overflows_iff, htext]

theorem findPair_overflows_iff :
    findPair s project regulation catalogId = .error .integerBeyondStorage ↔
      ∃ n ∈ [project, regulation], ¬ Storable n := by
  refine checkKeys_overflows_iff fun h => ?_
  rcases bind_eq_error_iff.1 h with h | ⟨r, -, h⟩
  · exact sole_ne_overflow h
  rcases bind_eq_error_iff.1 h with h | ⟨v, -, h⟩
  · exact sole_ne_overflow h
  split at h <;> simp at h

theorem get_overflows_iff :
    get s project regulation catalogId = .error .integerBeyondStorage ↔
      ∃ n ∈ [project, regulation], ¬ Storable n := by
  refine checkKeys_overflows_iff fun h => ?_
  dsimp only at h
  split at h <;> simp at h

theorem list_overflows_iff :
    list s project catalogId = .error .integerBeyondStorage ↔ ¬ Storable project := by
  unfold list
  rw [checkInteger_bind_overflows_iff]
  refine or_iff_left fun h => ?_
  rcases bind_eq_error_iff.1 h with h | ⟨_, -, h⟩
  · exact checkText_ne_overflow h
  · cases h

end Statuses

/-- A page is looked up by the id that is asked for and by the number of entries before it. -/
theorem AuditPage.find_overflows_iff {q : AuditQuery}
    (htexts : ∀ t ∈ q.module.toList ++ q.entityType.toList, t.Encodable) :
    find s q = .error .integerBeyondStorage ↔
      ∃ n ∈ [q.entityId.getD 0, q.offset], ¬ Storable n := by
  obtain ⟨hmodule, hentityType⟩ := List.forall_mem_append.1 htexts
  have hfind : find s q = (checkInteger (q.entityId.getD 0) >>= fun _ =>
      checkInteger q.offset >>= fun _ =>
        if (cut s q).items.all readable then .ok (cut s q) else .error .rowUnreadable) := by
    unfold find
    rw [checkText?_eq_ok hmodule, checkText?_eq_ok hentityType]
    rfl
  rw [hfind, checkInteger_bind_overflows_iff, checkInteger_bind_overflows_iff]
  split <;> simp

end ComplianceRegistry
