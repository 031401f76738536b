import ComplianceRegistry.Proofs.Encoding

/-!
# Literals have bytes

The trail shows a document by its literal. Halves of pairs are not printable, so that a literal
writes them by their numbers: it has bytes, whatever texts the document holds. A text that is shown
as it is has bytes only if it had them before.

## Main results

* `Text.encodable_quoted` — a text between quotes has bytes
* `Document.encodable_literal` — so has the literal of a document
* `Document.encodable_shown` — a document is shown with bytes, unless it is a text without
-/

namespace ComplianceRegistry

/-! ### Texts between quotes -/

namespace CodePoint

variable {c : CodePoint}

/-- Halves of pairs are not printable. -/
theorem not_isSurrogate_of_isPrintable (h : c.isPrintable) : ¬ c.IsSurrogate := by
  rintro ⟨hlow, hhigh⟩
  have hrange : (0xD7FC, 0xF8FF) ∈ unprintableRanges := by decide +kernel
  have hhigh' : ¬ c.val < 127 := by omega
  rw [isPrintable, if_neg hhigh', Bool.not_eq_true', List.any_eq_false] at h
  have := h _ hrange
  simp at this
  omega

theorem not_isSurrogate_of_isChar {x : Char} (h : c.isChar x) : ¬ c.IsSurrogate := by
  have hval : c.val = x.toNat := by simpa [isChar] using h
  have hx := not_isSurrogate_ofChar x
  simpa [IsSurrogate, ofChar, hval] using hx

end CodePoint

namespace Text

variable {separator : Text} {ts : List Text}

theorem encodable_replicate {n : Nat} (x : Char) :
    Encodable (List.replicate n (CodePoint.ofChar x)) := by
  intro c hc
  rw [List.eq_of_mem_replicate hc]
  exact CodePoint.not_isSurrogate_ofChar x

@[simp] theorem encodable_hexadecimal (width n : Nat) : (hexadecimal width n).Encodable :=
  encodable_append.2 ⟨encodable_replicate '0', encodable_ofString _⟩

theorem encodable_escaped (quote : Char) (c : CodePoint) : (escaped quote c).Encodable := by
  unfold escaped
  split_ifs with hquote _ _ _ hprintable
  · rw [Bool.or_eq_true] at hquote
    have hc : ¬ c.IsSurrogate := hquote.elim CodePoint.not_isSurrogate_of_isChar
      CodePoint.not_isSurrogate_of_isChar
    refine encodable_append.2 ⟨encodable_ofString _, List.forall_mem_singleton.2 hc⟩
  · simp
  · simp
  · simp
  · exact List.forall_mem_singleton.2 (CodePoint.not_isSurrogate_of_isPrintable hprintable)
  · simp
  · simp
  · simp

@[simp] theorem encodable_quoted (t : Text) : t.quoted.Encodable := by
  have hquote (x : Char) : Encodable [CodePoint.ofChar x] :=
    List.forall_mem_singleton.2 (CodePoint.not_isSurrogate_ofChar x)
  refine encodable_append.2 ⟨encodable_append.2 ⟨hquote _, ?_⟩, hquote _⟩
  intro c hc
  obtain ⟨d, -, hc⟩ := List.mem_flatMap.1 hc
  exact encodable_escaped _ d c hc

theorem encodable_joined (hseparator : separator.Encodable) (h : ∀ t ∈ ts, t.Encodable) :
    (joined separator ts).Encodable := by
  fun_induction joined separator ts with
  | case1 => simp
  | case2 t => exact h t (List.mem_singleton_self t)
  | case3 t u rest ih =>
    obtain ⟨ht, hrest⟩ := List.forall_mem_cons.1 h
    exact encodable_append.2 ⟨encodable_append.2 ⟨ht, hseparator⟩, ih hrest⟩

end Text

/-! ### Documents -/

namespace Binary64

@[simp] theorem encodable_layout (digits : Nat) (exponent : Int) :
    (layout .document digits exponent).Encodable := by
  have hpart {t : Text} (h : t ⊆ Text.ofNat digits) : t.Encodable :=
    fun c hc => Text.encodable_ofNat digits c (h hc)
  have htake (n : Nat) := hpart (List.take_subset n _)
  have hdrop (n : Nat) := hpart (List.drop_subset n _)
  have htail := List.drop_one ▸ hdrop 1
  have hzeros (n : Nat) := Text.encodable_replicate (n := n) '0'
  unfold layout
  dsimp only
  split_ifs <;> simp [htake, hdrop, htail, hzeros, NumeralStyle.document]

@[simp] theorem encodable_numeral (x : Binary64) : (x.numeral .document).Encodable := by
  have hminus (negative : Bool) : (if negative then ("-" : Text) else []).Encodable := by
    cases negative <;> simp
  cases x with
  | finite negative mantissa exponent => exact Text.encodable_append.2 ⟨hminus _, by simp⟩
  | infinite negative =>
    exact Text.encodable_append.2 ⟨hminus _, by simp [NumeralStyle.document]⟩
  | nan => exact Text.encodable_ofString _

end Binary64

namespace Document

mutual

/-- The literal of a document has bytes, whatever the document holds. -/
theorem encodable_literal : (d : Document) → d.literal.Encodable
  | .null | .truth true | .truth false => by simp [literal]
  | .integer _ | .float _ | .text _ => by simp [literal]
  | .list items => by
    have hitems := Text.encodable_joined (Text.encodable_ofString ", ") (encodable_items items)
    simp [literal, hitems]
  | .object members => by
    have hmembers :=
      Text.encodable_joined (Text.encodable_ofString ", ") (encodable_members members)
    simp [literal, hmembers]

theorem encodable_items : (ds : List Document) → ∀ t ∈ itemLiterals ds, t.Encodable
  | [] => by simp [itemLiterals]
  | d :: rest => List.forall_mem_cons.2 ⟨encodable_literal d, encodable_items rest⟩

theorem encodable_members : (ms : List (Text × Document)) → ∀ t ∈ memberLiterals ms, t.Encodable
  | [] => by simp [memberLiterals]
  | (k, d) :: rest => by
    refine List.forall_mem_cons.2 ⟨?_, encodable_members rest⟩
    simp [encodable_literal d]

end

/-- A document is shown with bytes, unless it is a text without. -/
theorem encodable_shown {d : Document} (h : ∀ t, d = .text t → t.Encodable) :
    d.shown.Encodable := by
  cases d with
  | text t => exact h t rfl
  | _ => exact encodable_literal _

end Document

end ComplianceRegistry
