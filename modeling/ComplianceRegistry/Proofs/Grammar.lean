import ComplianceRegistry.Proofs.Numerals
import Mathlib.Data.Nat.Digits.Lemmas

/-!
# The grammar of numbers

The texts that are read as numbers are the numerals and no others, and a text is a numeral in one
way only. So what a text is read as can be told from how it is written, without running the reader.

## Main results

* `Numeral.text_injective` — a text is spelled by one numeral at most
* `Number.scan?_stripped_eq_some` — what is read is spelled by a numeral
* `Number.read_eq_number`, `Number.read_eq_beyondBounds`, `Number.read_eq_notNumber` — the three
  answers, told from the numeral
* `Number.reads_exactly_numerals` — within the bounds, numbers are read from numerals alone
-/

namespace ComplianceRegistry

namespace Text

variable {before after t : Text}

/-- A text stands between the blanks that are taken off. -/
theorem exists_stripped (t : Text) : ∃ before after : Text, (∀ c ∈ before, c.isBlank) ∧
    (∀ c ∈ after, c.isBlank) ∧ before ++ (t.stripped ++ after) = t := by
  have hend (u : Text) : dropEnd CodePoint.isBlank u ++
      (u.reverse.takeWhile CodePoint.isBlank).reverse = u := by
    rw [dropEnd, ← List.reverse_append, List.takeWhile_append_dropWhile, List.reverse_reverse]
  refine ⟨t.takeWhile CodePoint.isBlank,
    ((t.dropWhile CodePoint.isBlank).reverse.takeWhile CodePoint.isBlank).reverse,
    fun c => List.mem_takeWhile_imp, fun c hc => List.mem_takeWhile_imp (List.mem_reverse.1 hc), ?_⟩
  rw [stripped, trimmed, hend, List.takeWhile_append_dropWhile]

/-- More blanks on either side are taken off as well. -/
theorem stripped_surrounded (hbefore : ∀ c ∈ before, c.isBlank) (hafter : ∀ c ∈ after, c.isBlank) :
    (before ++ (t ++ after)).stripped = t.stripped := by
  have hend (u : Text) : dropEnd CodePoint.isBlank (u ++ after) = dropEnd CodePoint.isBlank u := by
    rw [dropEnd, List.reverse_append, List.dropWhile_append_of_pos (by simpa using hafter), dropEnd]
  rw [stripped, trimmed, List.dropWhile_append_of_pos hbefore, List.dropWhile_append]
  split
  · next h =>
    -- all of the text is blank, so that the blanks behind it are reached from the front
    rw [List.isEmpty_iff] at h
    rw [stripped, trimmed, h, List.dropWhile_eq_nil_iff.2 hafter]
  · rw [hend, stripped, trimmed]

/-- The blanks in front of a text without blanks are told apart from it. -/
theorem takeWhile_blank {c : CodePoint} {rest : Text} (hbefore : ∀ c ∈ before, c.isBlank)
    (hc : c.isBlank = false) : (before ++ c :: rest).takeWhile CodePoint.isBlank = before := by
  rw [List.takeWhile_append_of_pos hbefore, List.takeWhile_cons_of_neg (by simp [hc]),
    List.append_nil]

end Text

/-! ### A text spells one numeral -/

namespace Digit

variable {xs ys : List Digit} {r s : Text}

theorem text_injective : Function.Injective text :=
  List.map_injective_iff.2 Subtype.val_injective

/-- Digits are told apart from what follows when no digit does. -/
theorem append_inj (hr : ∀ c ∈ r.head?, c.digitValue? = none)
    (hs : ∀ c ∈ s.head?, c.digitValue? = none) (h : text xs ++ r = text ys ++ s) :
    xs = ys ∧ r = s := by
  have htake := (Number.takeDigits_append xs hr).symm.trans
    ((congrArg _ h).trans (Number.takeDigits_append ys hs))
  obtain rfl : r = s := congrArg Prod.snd htake
  exact ⟨text_injective (List.append_cancel_right h), rfl⟩

theorem value_lt_ten (d : Digit) : d.value < 10 := CodePoint.digitValue?_lt_ten d.digitValue?_val

theorem text_head {c : CodePoint} (h : c ∈ (text xs).head?) : c.isDigit := by
  obtain ⟨d, -, rfl⟩ := List.mem_map.1 (List.mem_of_mem_head? h)
  exact d.2

end Digit

namespace Sign

variable {x y : Sign} {r s : Text}

theorem text_injective : Function.Injective text := by
  intro x y h
  cases x <;> cases y <;> first | rfl | exact absurd h (by decide)

/-- A sign is told apart from what follows when no sign does. -/
theorem append_inj (hr : ∀ c ∈ r.head?, c.isChar '-' = false ∧ c.isChar '+' = false)
    (hs : ∀ c ∈ s.head?, c.isChar '-' = false ∧ c.isChar '+' = false)
    (h : x.text ++ r = y.text ++ s) : x = y ∧ r = s := by
  have htake := (Number.takeSign_append hr).symm.trans
    ((congrArg _ h).trans (Number.takeSign_append hs))
  obtain rfl : r = s := congrArg Prod.snd htake
  exact ⟨text_injective (List.append_cancel_right h), rfl⟩

end Sign

namespace Scale

theorem text_injective : Function.Injective text := by
  rintro ⟨capital, sign, digits, hdigits⟩ ⟨capital', sign', digits', hdigits'⟩ h
  have hhead {ds : List Digit} : ∀ c ∈ (Digit.text ds).head?,
      c.isChar '-' = false ∧ c.isChar '+' = false :=
    fun _ hc => Number.notSign_of_isDigit (Digit.text_head hc)
  have hcase : CodePoint.ofChar 'e' ≠ CodePoint.ofChar 'E' := by decide
  obtain ⟨rfl, hrest⟩ : capital = capital' ∧
      sign.text ++ Digit.text digits = sign'.text ++ Digit.text digits' := by
    cases capital <;> cases capital' <;>
      simp [text, Text.ofString, hcase, hcase.symm] at h ⊢ <;> exact h
  obtain ⟨rfl, hdigit⟩ := Sign.append_inj hhead hhead hrest
  obtain rfl : digits = digits' := Digit.text_injective hdigit
  rfl

end Scale

namespace Numeral

variable {x y : Numeral}

/-- The point and the power of ten that follow the digits are told apart. -/
theorem fraction_scale_inj
    (h : x.fractionText ++ x.scaleText = y.fractionText ++ y.scaleText) :
    x.fraction = y.fraction ∧ x.scaleText = y.scaleText := by
  have hpoint {t u : Numeral} {digits : List Digit} (ht : t.fraction = none)
      (hu : u.fraction = some digits) :
      t.fractionText ++ t.scaleText ≠ u.fractionText ++ u.scaleText := by
    intro h
    have hhead : CodePoint.ofChar '.' ∈ t.scaleText.head? := by
      have := congrArg List.head? h
      simp only [fractionText, ht, hu, Option.elim_none, Option.elim_some, Text.ofString] at this
      simpa using this
    exact absurd (t.scaleText_head _ hhead).2 (by decide)
  cases hx : x.fraction with
  | none =>
    cases hy : y.fraction with
    | none => exact ⟨rfl, by simpa [fractionText, hx, hy] using h⟩
    | some digits => exact absurd h (hpoint hx hy)
  | some digits =>
    cases hy : y.fraction with
    | none => exact absurd h.symm (hpoint hy hx)
    | some digits' =>
      simp only [fractionText, hx, hy, Option.elim_some, Text.ofString, List.append_assoc] at h
      obtain ⟨rfl, hscale⟩ := Digit.append_inj (fun c hc => (x.scaleText_head c hc).1)
        (fun c hc => (y.scaleText_head c hc).1) (List.append_cancel_left h)
      exact ⟨rfl, hscale⟩

theorem scale_inj (h : x.scaleText = y.scaleText) : x.scale = y.scale := by
  have hne (e : Scale) : e.text ≠ [] := by
    obtain ⟨c, rest, htext, -⟩ := e.text_eq
    simp [htext]
  cases hx : x.scale <;> cases hy : y.scale <;>
    simp only [scaleText, hx, hy, Option.elim_none, Option.elim_some] at h
  · rfl
  · exact absurd h.symm (hne _)
  · exact absurd h (hne _)
  · rw [Scale.text_injective h]

/-- Numerals with one body differ in their blanks at most. -/
theorem body_inj (h : x.body = y.body) :
    x.sign = y.sign ∧ x.whole = y.whole ∧ x.fraction = y.fraction ∧ x.scale = y.scale := by
  obtain ⟨hsign, h⟩ := Sign.append_inj x.notSign_head y.notSign_head h
  obtain ⟨hwhole, h⟩ := Digit.append_inj x.fractionText_head y.fractionText_head h
  obtain ⟨hfraction, h⟩ := fraction_scale_inj h
  exact ⟨hsign, hwhole, hfraction, scale_inj h⟩

theorem body_ne_nil (x : Numeral) : x.body ≠ [] := by
  intro h
  have hread := x.scan?_body
  rw [h] at hread
  cases hread

theorem stripped_text (x : Numeral) : x.text.stripped = x.body :=
  Text.stripped_append x.before_blank x.notBlank_of_mem_body x.after_blank

/-- The blanks in front of a numeral are those that its text opens with. -/
theorem takeWhile_text (x : Numeral) : x.text.takeWhile CodePoint.isBlank = x.before := by
  obtain ⟨c, rest, hbody⟩ := List.exists_cons_of_ne_nil x.body_ne_nil
  rw [text, hbody, List.cons_append]
  exact Text.takeWhile_blank x.before_blank (x.notBlank_of_mem_body c (by simp [hbody]))

/-- A text is spelled by one numeral at most. -/
theorem text_injective : Function.Injective text := by
  intro x y h
  have hbody : x.body = y.body := by rw [← stripped_text, h, stripped_text]
  have hbefore : x.before = y.before := by rw [← takeWhile_text, h, takeWhile_text]
  have hafter : x.after = y.after := by
    rw [text, text, hbefore, hbody] at h
    exact List.append_cancel_left (List.append_cancel_left h)
  obtain ⟨hsign, hwhole, hfraction, hscale⟩ := body_inj hbody
  cases x
  cases y
  simp_all only

end Numeral

/-! ### What is read is spelled by a numeral -/

namespace Number

variable {t : Text} {n : Number} {e : Int}

theorem takeSign_spelled (t : Text) : ∃ s : Sign, s.text ++ (takeSign t).2 = t := by
  cases t with
  | nil => exact ⟨.missing, rfl⟩
  | cons c rest =>
    by_cases hminus : c.isChar '-'
    · exact ⟨.minus, by rw [CodePoint.eq_ofChar_of_isChar hminus]; rfl⟩
    · by_cases hplus : c.isChar '+'
      · exact ⟨.plus, by rw [CodePoint.eq_ofChar_of_isChar hplus]; rfl⟩
      · exact ⟨.missing, by simp [takeSign, hminus, hplus, Sign.text, Text.ofString]⟩

theorem takeDigits_spelled (t : Text) : ∃ digits : List Digit,
    Digit.text digits ++ (takeDigits CodePoint.digitValue? t).2 = t ∧
    (takeDigits CodePoint.digitValue? t).1 = digits.map Digit.value := by
  induction t with
  | nil => exact ⟨[], rfl, rfl⟩
  | cons c rest ih =>
    cases hc : c.digitValue? with
    | none => exact ⟨[], by simp [takeDigits, hc], by simp [takeDigits, hc]⟩
    | some d =>
      obtain ⟨digits, htext, hvalues⟩ := ih
      have hdigit : c.isDigit := by simp [CodePoint.isDigit, hc]
      exact ⟨⟨c, hdigit⟩ :: digits, by simp [takeDigits, hc, htext],
        by simp [takeDigits, hc, hvalues, Digit.value]⟩

theorem takeFraction_spelled (t : Text) : ∃ fraction : Option (List Digit),
    (fraction.elim [] fun digits => ("." : Text) ++ Digit.text digits) ++
      (takeFraction CodePoint.digitValue? t).2 = t ∧
    (takeFraction CodePoint.digitValue? t).1 = (fraction.getD []).map Digit.value := by
  cases t with
  | nil => exact ⟨none, rfl, rfl⟩
  | cons c rest =>
    by_cases hc : c.isChar '.'
    · obtain ⟨digits, htext, hvalues⟩ := takeDigits_spelled rest
      have hpoint : ("." : Text) = [c] := by rw [CodePoint.eq_ofChar_of_isChar hc]; rfl
      exact ⟨some digits, by simp [takeFraction, hc, htext, hpoint],
        by simp [takeFraction, hc, hvalues]⟩
    · exact ⟨none, by simp [takeFraction, hc], by simp [takeFraction, hc]⟩

theorem exponent?_spelled (h : exponent? CodePoint.digitValue? t = some e) :
    ∃ scale : Option Scale, scale.elim [] Scale.text = t := by
  cases t with
  | nil => exact ⟨none, rfl⟩
  | cons c rest =>
    obtain ⟨sign, hsign⟩ := takeSign_spelled rest
    obtain ⟨digits, hdigits, hvalues⟩ := takeDigits_spelled (takeSign rest).2
    simp only [exponent?] at h
    split at h
    · next hletter =>
      split at h
      · next d ds hread =>
        -- nothing is left behind the digits, and there is a digit at least
        rw [hread] at hdigits hvalues
        rw [List.append_nil] at hdigits
        have hne : digits ≠ [] := by
          rintro rfl
          cases hvalues
        rw [Bool.or_eq_true] at hletter
        rcases hletter with hc | hc
        · exact ⟨some ⟨false, sign, digits, hne⟩, by
            simp [Scale.text, hdigits, hsign, CodePoint.eq_ofChar_of_isChar hc, Text.ofString]⟩
        · exact ⟨some ⟨true, sign, digits, hne⟩, by
            simp [Scale.text, hdigits, hsign, CodePoint.eq_ofChar_of_isChar hc, Text.ofString]⟩
      · cases h
    · cases h

/-- Blanks aside, what is read is spelled by a numeral. -/
theorem scan?_spelled (h : scan? t = some n) : ∃ x : Numeral, x.body = t := by
  obtain ⟨sign, hsign⟩ := takeSign_spelled t
  obtain ⟨whole, hwhole, hwholes⟩ := takeDigits_spelled (takeSign t).2
  obtain ⟨fraction, hfraction, hplaces⟩ :=
    takeFraction_spelled (takeDigits CodePoint.digitValue? (takeSign t).2).2
  rw [scan?, scanWith?] at h
  simp only [hwholes, hplaces] at h
  split at h
  · cases h
  · next hempty =>
    obtain ⟨e, he, -⟩ := Option.map_eq_some_iff.1 h
    obtain ⟨scale, hscale⟩ := exponent?_spelled he
    have hne : whole ++ fraction.getD [] ≠ [] := by
      simpa using hempty
    refine ⟨⟨[], sign, whole, fraction, scale, [], by simp, by simp, hne⟩, ?_⟩
    rw [Numeral.body, Numeral.fractionText, Numeral.scaleText, hscale, hfraction, hwhole, hsign]

/-- What a text is read as, bounds aside, is the number of the numeral that spells it. -/
theorem scan?_stripped_eq_some :
    scan? t.stripped = some n ↔ ∃ x : Numeral, x.text = t ∧ x.number = n := by
  constructor
  · intro h
    obtain ⟨before, after, hbefore, hafter, htext⟩ := Text.exists_stripped t
    obtain ⟨x, hbody⟩ := scan?_spelled h
    refine ⟨{ x with
      before := before
      after := after
      before_blank := hbefore
      after_blank := hafter }, ?_, ?_⟩
    · rw [← htext, ← hbody]
      rfl
    · rw [← hbody, Numeral.scan?_body, Option.some_inj] at h
      exact h
  · rintro ⟨x, rfl, rfl⟩
    exact x.scan?_text

theorem scan?_stripped_eq_none : scan? t.stripped = none ↔ ∀ x : Numeral, x.text ≠ t := by
  rw [Option.eq_none_iff_forall_ne_some]
  constructor
  · rintro h x rfl
    exact h x.number x.scan?_text
  · intro h n hn
    obtain ⟨x, hx, -⟩ := scan?_stripped_eq_some.1 hn
    exact h x hx

/-! ### The three answers -/

theorem read_text (x : Numeral) :
    read x.text = if x.number.Representable then .number x.number else .beyondBounds := by
  rw [read, x.scan?_text]

theorem read_eq_notNumber : read t = .notNumber ↔ ∀ x : Numeral, x.text ≠ t := by
  constructor
  · rintro h x rfl
    rw [read_text] at h
    split at h <;> cases h
  · intro h
    rw [read, scan?_stripped_eq_none.2 h]

theorem read_eq_number :
    read t = .number n ↔ ∃ x : Numeral, x.text = t ∧ x.number = n ∧ n.Representable := by
  constructor
  · intro h
    by_cases hx : ∃ x : Numeral, x.text = t
    · obtain ⟨x, rfl⟩ := hx
      rw [read_text] at h
      split at h
      · next hbounds =>
        cases h
        exact ⟨x, rfl, rfl, hbounds⟩
      · cases h
    · rw [read_eq_notNumber.2 (not_exists.1 hx)] at h
      cases h
  · rintro ⟨x, rfl, rfl, hbounds⟩
    rw [read_text, if_pos hbounds]

theorem read_eq_beyondBounds :
    read t = .beyondBounds ↔ ∃ x : Numeral, x.text = t ∧ ¬ x.number.Representable := by
  constructor
  · intro h
    by_cases hx : ∃ x : Numeral, x.text = t
    · obtain ⟨x, rfl⟩ := hx
      refine ⟨x, rfl, fun hbounds => ?_⟩
      rw [read_text, if_pos hbounds] at h
      cases h
    · rw [read_eq_notNumber.2 (not_exists.1 hx)] at h
      cases h
  · rintro ⟨x, rfl, hbounds⟩
    rw [read_text, if_neg hbounds]

/-- Blanks on either side change nothing. -/
theorem read_surrounded {before after : Text} (hbefore : ∀ c ∈ before, c.isBlank)
    (hafter : ∀ c ∈ after, c.isBlank) : read (before ++ (t ++ after)) = read t := by
  rw [read, Text.stripped_surrounded hbefore hafter, read]

/-! ### Coefficients -/

/-- Zeros in front of the digits count for nothing. -/
theorem ofDigits_dropWhile (xs : List Nat) : ofDigits (xs.dropWhile (· == 0)) = ofDigits xs := by
  induction xs with
  | nil => rfl
  | cons x xs ih =>
    by_cases hx : x = 0
    · subst hx
      simpa [ofDigits] using ih
    · simp [hx]

/-- The digits of a coefficient are those that are written, without the zeros in front. -/
theorem digits_ofDigits {xs : List Nat} (h : ∀ d ∈ xs, d < 10) :
    (Nat.digits 10 (ofDigits xs)).reverse = xs.dropWhile (· == 0) := by
  rw [← ofDigits_dropWhile, ofDigits_eq, Nat.digits_ofDigits 10 (by norm_num), List.reverse_reverse]
  · intro d hd
    exact h d ((List.dropWhile_suffix _).subset (List.mem_reverse.1 hd))
  · intro hne
    rw [List.getLast_reverse]
    exact ne_of_beq_false (List.head_dropWhile_not (· == 0) (by simpa using hne))

/-- Where all spellings of the text are within the bounds, it is read as a number just when it is a
numeral. The number has the sign of the text, the digits of the text without zeros in front, and
the written exponent less the places behind the point, so that its value is what the numeral
denotes. The numeral is the only one that the text spells, and more blanks on either side are read
as the same. -/
theorem reads_exactly_numerals (t : Text)
    (hbounds : ∀ x : Numeral, x.text = t → x.number.Representable) :
    (∀ n, read t = .number n ↔ ∃ x : Numeral, x.text = t ∧
      n.negative = x.sign.isMinus ∧
      n.coefficient = Digit.number (x.whole ++ x.places) ∧
      n.exponent = x.exponent - x.places.length) ∧
    (read t = .notNumber ↔ ∀ x : Numeral, x.text ≠ t) ∧
    read t ≠ .beyondBounds ∧
    (∀ x : Numeral, x.text = t → ∀ n, read t = .number n →
      x.body = t.stripped ∧ n.value = x.value ∧
      (Nat.digits 10 n.coefficient).reverse =
        ((x.whole ++ x.places).map Digit.value).dropWhile (· == 0)) ∧
    (∀ x y : Numeral, x.text = t → y.text = t → x = y) ∧
    (∀ before after : Text, (∀ c ∈ before, c.isBlank) → (∀ c ∈ after, c.isBlank) →
      read (before ++ (t ++ after)) = read t) := by
  refine ⟨fun n => ?_, read_eq_notNumber, fun h => ?_, ?_,
    fun x y hx hy => Numeral.text_injective (hx.trans hy.symm),
    fun _ _ => read_surrounded⟩
  · rw [read_eq_number]
    constructor
    · rintro ⟨x, hx, rfl, -⟩
      exact ⟨x, hx, rfl, rfl, rfl⟩
    · rintro ⟨x, hx, hnegative, hcoefficient, hexponent⟩
      obtain rfl : x.number = n := by
        cases n
        simp only [Numeral.number, Number.mk.injEq]
        exact ⟨hnegative.symm, hcoefficient.symm, hexponent.symm⟩
      exact ⟨x, hx, rfl, hbounds x hx⟩
  · obtain ⟨x, hx, hbeyond⟩ := read_eq_beyondBounds.1 h
    exact hbeyond (hbounds x hx)
  · rintro x rfl n hn
    obtain ⟨y, hy, rfl, -⟩ := read_eq_number.1 hn
    cases Numeral.text_injective hy
    refine ⟨x.stripped_text.symm, x.value_number, digits_ofDigits fun d hd => ?_⟩
    obtain ⟨digit, -, rfl⟩ := List.mem_map.1 hd
    exact digit.value_lt_ten

/-- Minus zero in digits of another script, between blanks. -/
def minusZero : Numeral :=
  { before := "\u2003"
    sign := .minus
    whole := []
    fraction := some [⟨.ofNat 0x660, by decide⟩]
    scale := some ⟨false, .missing, [⟨.ofNat 0x32, by decide⟩], by simp⟩
    after := "\n"
    before_blank := List.forall_mem_singleton.2 (by decide)
    after_blank := List.forall_mem_singleton.2 (by decide)
    digits_ne_nil := by simp }

/-- It is read as zero with its sign and an exponent, and as the same between more blanks. -/
theorem reads_exactly_numerals_minusZero :
    minusZero.text = ("\u2003-.\u0660e2\n" : Text) ∧
    (∀ x : Numeral, x.text = minusZero.text → x.number.Representable) ∧
    read "\u2003-.\u0660e2\n" = .number ⟨true, 0, 1⟩ ∧
    minusZero.value = 0 ∧
    read "\t\u2003-.\u0660e2\n " = .number ⟨true, 0, 1⟩ := by
  have htext : minusZero.text = ("\u2003-.\u0660e2\n" : Text) := by decide +kernel
  have hbounds : ∀ x : Numeral, x.text = minusZero.text → x.number.Representable := by
    intro x hx
    rw [Numeral.text_injective hx]
    decide +kernel
  obtain ⟨hnumber, -, -, hvalue, -, hblanks⟩ := reads_exactly_numerals minusZero.text hbounds
  have hread : read minusZero.text = .number ⟨true, 0, 1⟩ :=
    (hnumber _).2 ⟨minusZero, rfl, rfl, by decide +kernel, by decide +kernel⟩
  refine ⟨htext, hbounds, htext ▸ hread, ?_, ?_⟩
  · rw [← (hvalue minusZero rfl _ hread).2.1]
    norm_num [Number.value, Number.size]
  · have hspaced := hblanks "\t" " " (List.forall_mem_singleton.2 (by decide))
      (List.forall_mem_singleton.2 (by decide))
    rw [hread, htext] at hspaced
    exact hspaced

end Number

end ComplianceRegistry
