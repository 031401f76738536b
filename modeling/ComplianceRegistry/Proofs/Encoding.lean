import ComplianceRegistry.Proofs.Lookup
import ComplianceRegistry.Registry.Answer

/-!
# Texts that have bytes

What the registry writes by itself has bytes: words, numerals and instants. So a row that could be
stored can also be shown, since storage takes no other texts than those that have bytes.

## Main definitions

* `Store.Legible` — all types and regulations could be stored

## Main results

* `Row.check_eq_ok` — a row can be stored when all of its cells can
* `RegulationView.isCarriable_answer` — a regulation and a type that could be stored can be shown
-/

namespace ComplianceRegistry

/-! ### Texts -/

theorem CodePoint.not_isSurrogate_ofChar (c : Char) : ¬ (CodePoint.ofChar c).IsSurrogate := by
  have h := c.valid
  simp only [UInt32.isValidChar, Nat.isValidChar] at h
  simp only [CodePoint.IsSurrogate, CodePoint.ofChar, Char.toNat]
  omega

namespace Text

@[simp] theorem encodable_ofString (s : String) : (ofString s).Encodable := by
  intro c hc
  obtain ⟨x, -, rfl⟩ := List.mem_map.1 hc
  exact CodePoint.not_isSurrogate_ofChar x

@[simp] theorem encodable_ofNat (n : Nat) : (ofNat n).Encodable := encodable_ofString _

@[simp] theorem encodable_ofInt (n : Int) : (ofInt n).Encodable := by
  unfold ofInt
  split <;> simp

@[simp] theorem encodable_zeroPadded (width n : Nat) : (zeroPadded width n).Encodable := by
  refine encodable_append.2 ⟨fun c hc => ?_, encodable_ofNat n⟩
  rw [List.eq_of_mem_replicate hc]
  exact CodePoint.not_isSurrogate_ofChar '0'

end Text

@[simp] theorem Instant.encodable_iso (t : Instant) : t.iso.Encodable := by
  unfold iso written
  dsimp only
  split <;> simp

/-! ### Cells and rows -/

theorem Cell.check_ofText? {t : Option Text} :
    (Cell.ofText? t).check = .ok () ↔ ∀ u ∈ t, u.Encodable := by
  cases t <;> simp [ofText?, check, checkText_eq_ok]

/-- A row can be stored when all of its cells can. -/
theorem Row.check_eq_ok {r : Row} : r.check = .ok () ↔ ∀ c ∈ r.columns, c.2.check = .ok () := by
  have hall (columns : List (Text × Cell)) :
      (columns.forM fun c => c.2.check) = .ok () ↔ ∀ c ∈ columns, c.2.check = .ok () := by
    induction columns with
    | nil => simp [pure, Except.pure]
    | cons c columns ih =>
      change (c.2.check >>= fun _ => columns.forM fun c => c.2.check) = _ ↔ _
      rw [bind_eq_ok, List.forall_mem_cons, ← ih]
      exact ⟨fun ⟨_, hc, hrest⟩ => ⟨hc, hrest⟩, fun ⟨hc, hrest⟩ => ⟨_, hc, hrest⟩⟩
  exact hall r.columns

theorem RegulationType.check_eq_ok {t : RegulationType} (h : (Row.type t).check = .ok ()) :
    t.name.Encodable ∧ ∀ u ∈ t.description, u.Encodable := by
  have hcolumns := Row.check_eq_ok.1 h
  simp only [Row.columns, columns, List.forall_mem_cons] at hcolumns
  exact ⟨checkText_eq_ok.1 hcolumns.2.1, Cell.check_ofText?.1 hcolumns.2.2.1⟩

theorem Regulation.check_eq_ok {r : Regulation} (h : (Row.regulation r).check = .ok ()) :
    r.name.Encodable ∧ (∀ u ∈ r.displayName, u.Encodable) ∧ (∀ u ∈ r.description, u.Encodable) ∧
      ∀ u ∈ r.config, u.Encodable := by
  have hcolumns := Row.check_eq_ok.1 h
  simp only [Row.columns, columns, List.forall_mem_cons] at hcolumns
  obtain ⟨-, hname, hdisplayName, hdescription, hconfig, -⟩ := hcolumns
  exact ⟨checkText_eq_ok.1 hname, Cell.check_ofText?.1 hdisplayName,
    Cell.check_ofText?.1 hdescription, Cell.check_ofText?.1 hconfig⟩

/-! ### Documents -/

namespace Document

@[simp] theorem isCarriable_text {t : Text} : (Document.text t).isCarriable ↔ t.Encodable := by
  simp [isCarriable]

@[simp] theorem isCarriable_ofText? {t : Option Text} :
    (ofText? t).isCarriable ↔ ∀ u ∈ t, u.Encodable := by
  cases t <;> simp [ofText?, isCarriable]

end Document

/-- All types and regulations could be stored. -/
structure Store.Legible (s : Store) : Prop where
  types : ∀ t ∈ s.types, (Row.type t).check = .ok ()
  regulations : ∀ r ∈ s.regulations, (Row.regulation r).check = .ok ()

/-- A regulation and a type that could be stored can be shown. -/
theorem RegulationView.isCarriable_answer {v : RegulationView}
    (hr : (Row.regulation v.regulation).check = .ok ()) (ht : (Row.type v.type).check = .ok ()) :
    v.answer.isCarriable := by
  obtain ⟨hname, hdisplayName, hdescription, hconfig⟩ := Regulation.check_eq_ok hr
  obtain ⟨htype, hnote⟩ := RegulationType.check_eq_ok ht
  have htext : ∀ {t : Option Text}, (∀ u ∈ t, u.Encodable) → (Document.ofText? t).isCarriable :=
    Document.isCarriable_ofText?.2
  simp [RegulationView.answer, RegulationType.answer, Document.isCarriable,
    Document.membersCarriable, hname, htype, htext hdisplayName, htext hdescription, htext hconfig,
    htext hnote]

end ComplianceRegistry
