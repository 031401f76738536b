import ComplianceRegistry.Proofs.Values
import Mathlib.Data.List.Induction
import Mathlib.Data.List.TakeWhile
import Mathlib.Data.Nat.Digits.Defs

/-!
# Numerals

One rational number has many spellings. They differ in blanks around the number, in a plus sign
that may be written or not, in zeros at both ends of the digits, in the script of the digits and in
the exponent. Each spelling is read as the number that it denotes.

## Main definitions

* `Digit`, `Sign`, `Scale` — the pieces of a numeral
* `Numeral` — a spelling of a number, with blanks around it
* `Numeral.text`, `Numeral.value` — how the numeral is written, and the rational it denotes
* `Numeral.number` — its sign, coefficient and exponent
* `Number.Denotes` — the text is read as a number with this value

## Main results

* `Numeral.scan?_text` — a numeral is read as its number
* `Numeral.value_number` — this number has the value of the numeral
* `Numeral.denotes` — a numeral within the bounds denotes its value
-/

namespace ComplianceRegistry

namespace CodePoint

variable {c : CodePoint} {x : Char}

theorem eq_ofChar_of_isChar (h : c.isChar x) : c = ofChar x :=
  Fin.ext (by simpa [isChar, ofChar] using h)

/-- A digit is none of the characters that are no digits. -/
theorem isChar_eq_false_of_isDigit (h : c.isDigit) (hx : (ofChar x).isDigit = false) :
    c.isChar x = false := by
  by_contra hc
  rw [Bool.not_eq_false] at hc
  rw [eq_ofChar_of_isChar hc, hx] at h
  exact absurd h (by decide)

/-- No run of ten digits meets a blank. -/
theorem digitZeros_notBlank : ∀ z ∈ digitZeros, ∀ i < 10, ¬ (ofNat (z + i)).isBlank := by
  decide +kernel

theorem isBlank_eq_false_of_isDigit (h : c.isDigit) : c.isBlank = false := by
  obtain ⟨d, hd⟩ := Option.isSome_iff_exists.1 h
  obtain ⟨z, hfind, rfl⟩ := Option.map_eq_some_iff.1 hd
  have hz := List.find?_some hfind
  simp only [Bool.and_eq_true, decide_eq_true_eq] at hz
  have hc : c = ofNat (z + (c.val - z)) := by
    refine Fin.ext ?_
    rw [ofNat, Nat.add_sub_cancel' hz.1]
    exact (Nat.mod_eq_of_lt c.isLt).symm
  rw [hc]
  exact Bool.eq_false_of_not_eq_true
    (digitZeros_notBlank z (List.mem_of_find?_eq_some hfind) _ (by omega))

end CodePoint

/-- A decimal digit of any script. -/
abbrev Digit : Type := {c : CodePoint // c.isDigit}

namespace Digit

/-- The value of a digit. -/
def value (d : Digit) : Nat := d.1.digitValue?.get d.2

/-- The digits as they are written. -/
def text (digits : List Digit) : Text := digits.map Subtype.val

/-- The natural number that the digits spell. -/
def number (digits : List Digit) : Nat := Number.ofDigits (digits.map value)

@[simp] theorem digitValue?_val (d : Digit) : d.1.digitValue? = some d.value :=
  (Option.some_get d.2).symm

@[simp] theorem text_nil : text [] = [] := rfl

@[simp] theorem text_cons {d : Digit} {digits : List Digit} :
    text (d :: digits) = d.1 :: text digits := rfl

end Digit

/-- A sign that may be missing. -/
inductive Sign
  | missing
  | plus
  | minus
deriving DecidableEq, Repr

namespace Sign

/-- The sign as it is written. -/
def text : Sign → Text
  | .missing => ""
  | .plus => "+"
  | .minus => "-"

/-- The sign is minus. -/
def isMinus (s : Sign) : Bool := s == .minus

/-- The sign in front of an integer. -/
def apply (s : Sign) (n : Int) : Int := if s.isMinus then -n else n

end Sign

/-- The power of ten that is written behind the digits. -/
structure Scale where
  capital : Bool
  sign : Sign
  digits : List Digit
  digits_ne_nil : digits ≠ []

namespace Scale

/-- The power of ten as it is written. -/
def text (e : Scale) : Text :=
  (if e.capital then "E" else "e" : Text) ++ e.sign.text ++ Digit.text e.digits

/-- The exponent of the power of ten. -/
def exponent (e : Scale) : Int := e.sign.apply (Digit.number e.digits)

end Scale

/-- A spelling of a number: digits with an optional point among them, a sign and a power of ten
where these are written, and blanks on either side. -/
structure Numeral where
  before : Text
  sign : Sign
  whole : List Digit
  fraction : Option (List Digit)
  scale : Option Scale
  after : Text
  before_blank : ∀ c ∈ before, c.isBlank
  after_blank : ∀ c ∈ after, c.isBlank
  digits_ne_nil : whole ++ fraction.getD [] ≠ []

namespace Numeral

variable (x : Numeral)

/-- The digits behind the point. -/
def places : List Digit := x.fraction.getD []

/-- The point and the digits behind it as they are written. -/
def fractionText : Text := x.fraction.elim [] fun digits => ("." : Text) ++ Digit.text digits

/-- The power of ten as it is written. -/
def scaleText : Text := x.scale.elim [] Scale.text

/-- The written exponent, zero where there is none. -/
def exponent : Int := x.scale.elim 0 Scale.exponent

/-- The numeral without the blanks. -/
def body : Text := x.sign.text ++ (Digit.text x.whole ++ (x.fractionText ++ x.scaleText))

/-- The numeral as it is written. -/
def text : Text := x.before ++ (x.body ++ x.after)

/-- The rational number that the numeral denotes. -/
def value : ℚ :=
  (if x.sign.isMinus then -1 else 1) *
    (Digit.number x.whole + Digit.number x.places / 10 ^ x.places.length) * 10 ^ x.exponent

/-- The sign, coefficient and exponent of the numeral. -/
def number : Number :=
  { negative := x.sign.isMinus
    coefficient := Digit.number (x.whole ++ x.places)
    exponent := x.exponent - x.places.length }

end Numeral

namespace Number

variable {t rest : Text} {s : Sign}

/-- The text is read as a number with this value. -/
def Denotes (t : Text) (q : ℚ) : Prop := ∃ n, read t = .number n ∧ n.value = q

/-! ### The readers of the pieces -/

theorem takeSign_append (h : ∀ c ∈ rest.head?, c.isChar '-' = false ∧ c.isChar '+' = false) :
    takeSign (s.text ++ rest) = (s.isMinus, rest) := by
  cases s with
  | missing =>
    cases rest with
    | nil => rfl
    | cons c rest =>
      obtain ⟨hminus, hplus⟩ := h c rfl
      simp [Sign.text, Sign.isMinus, Text.ofString, takeSign, hminus, hplus]
  | plus => rfl
  | minus => rfl

theorem takeDigits_append (digits : List Digit) (h : ∀ c ∈ rest.head?, c.digitValue? = none) :
    takeDigits CodePoint.digitValue? (Digit.text digits ++ rest) =
      (digits.map Digit.value, rest) := by
  induction digits with
  | nil =>
    cases rest with
    | nil => rfl
    | cons c rest => simp [takeDigits, h c rfl]
  | cons d digits ih => simp [takeDigits, ih]

/-- A digit is no sign. -/
theorem notSign_of_isDigit {c : CodePoint} (h : c.isDigit) :
    c.isChar '-' = false ∧ c.isChar '+' = false :=
  ⟨CodePoint.isChar_eq_false_of_isDigit h (by decide),
    CodePoint.isChar_eq_false_of_isDigit h (by decide)⟩

theorem ofDigits_concat (digits : List Nat) (d : Nat) :
    ofDigits (digits ++ [d]) = 10 * ofDigits digits + d := by
  simp [ofDigits]

theorem ofDigits_append (xs ys : List Nat) :
    ofDigits (xs ++ ys) = ofDigits xs * 10 ^ ys.length + ofDigits ys := by
  -- digits are taken up from the left, so that the step is one more of them at the end
  induction ys using List.reverseRecOn with
  | nil => simp [ofDigits]
  | append_singleton ys y ih =>
    rw [← List.append_assoc, ofDigits_concat, ofDigits_concat, ih, List.length_append,
      List.length_singleton, pow_succ]
    ring

theorem ofDigits_eq (digits : List Nat) : ofDigits digits = Nat.ofDigits 10 digits.reverse := by
  induction digits using List.reverseRecOn with
  | nil => rfl
  | append_singleton digits d ih =>
    rw [ofDigits_concat, ih, List.reverse_append, List.reverse_singleton, List.singleton_append,
      Nat.ofDigits_cons, Nat.add_comm]

end Number

namespace Scale

variable {e : Scale}

/-- The power of ten opens with its letter, which is no digit and no point. -/
theorem text_eq (e : Scale) : ∃ c rest, e.text = c :: rest ∧
    (c.isChar 'e' || c.isChar 'E') = true ∧ c.digitValue? = none ∧ c.isChar '.' = false ∧
    c.isBlank = false ∧ rest = e.sign.text ++ Digit.text e.digits := by
  cases hcapital : e.capital with
  | true => exact ⟨CodePoint.ofChar 'E', _, by simp [text, hcapital, Text.ofString],
      by decide, by decide, by decide, by decide, rfl⟩
  | false => exact ⟨CodePoint.ofChar 'e', _, by simp [text, hcapital, Text.ofString],
      by decide, by decide, by decide, by decide, rfl⟩

theorem exponent?_text : Number.exponent? CodePoint.digitValue? e.text = some e.exponent := by
  obtain ⟨c, rest, htext, hletter, -, -, -, hrest⟩ := text_eq e
  have hdigits := e.digits_ne_nil
  have hsign : Number.takeSign rest = (e.sign.isMinus, Digit.text e.digits) := by
    rw [hrest]
    refine Number.takeSign_append fun c hc => ?_
    obtain ⟨d, -, rfl⟩ := List.mem_map.1 (List.mem_of_mem_head? hc)
    exact Number.notSign_of_isDigit d.2
  have htake : Number.takeDigits CodePoint.digitValue? (Digit.text e.digits) =
      (e.digits.map Digit.value, []) := by
    simpa using Number.takeDigits_append e.digits fun c (hc : c ∈ [].head?) => nomatch hc
  rw [htext, Number.exponent?, if_pos hletter, hsign]
  simp only [htake]
  cases hcase : e.digits with
  | nil => exact absurd hcase hdigits
  | cons d digits => simp [exponent, Sign.apply, Digit.number, hcase]

end Scale

namespace Numeral

variable {x : Numeral}

/-! ### Reading -/

theorem scaleText_head : ∀ c ∈ x.scaleText.head?,
    c.digitValue? = none ∧ c.isChar '.' = false := by
  intro c hc
  cases hscale : x.scale with
  | none => simp [scaleText, hscale] at hc
  | some e =>
    obtain ⟨d, rest, htext, -, hdigit, hpoint, -, -⟩ := e.text_eq
    simp only [scaleText, hscale, Option.elim_some, htext, List.head?_cons, Option.mem_some_iff]
      at hc
    exact hc ▸ ⟨hdigit, hpoint⟩

theorem exponent?_scaleText :
    Number.exponent? CodePoint.digitValue? x.scaleText = some x.exponent := by
  cases hscale : x.scale with
  | none => simp [scaleText, exponent, hscale, Number.exponent?]
  | some e => simpa [scaleText, exponent, hscale] using Scale.exponent?_text

theorem takeFraction_append :
    Number.takeFraction CodePoint.digitValue? (x.fractionText ++ x.scaleText) =
      (x.places.map Digit.value, x.scaleText) := by
  cases hfraction : x.fraction with
  | none =>
    -- what comes next is the letter of an exponent or nothing, so no point
    cases hscale : x.scaleText with
    | nil => simp [fractionText, places, hfraction, Number.takeFraction]
    | cons c rest =>
      have hpoint := (x.scaleText_head c (by simp [hscale])).2
      simp [fractionText, places, hfraction, Number.takeFraction, hpoint]
  | some digits =>
    have htake := Number.takeDigits_append digits fun c hc => (x.scaleText_head c hc).1
    have hpoint : (CodePoint.ofChar '.').isChar '.' = true := by decide
    simpa [fractionText, places, hfraction, Number.takeFraction, Text.ofString, hpoint] using htake

/-- Behind the digits in front of the point comes no other digit. -/
theorem fractionText_head : ∀ c ∈ (x.fractionText ++ x.scaleText).head?, c.digitValue? = none := by
  intro c hc
  cases hfraction : x.fraction with
  | none => exact (x.scaleText_head c (by simpa [fractionText, hfraction] using hc)).1
  | some digits =>
    simp only [fractionText, hfraction, Option.elim_some, Text.ofString] at hc
    have : c = CodePoint.ofChar '.' := by simpa using hc.symm
    rw [this]
    decide

/-- A numeral opens with its sign, a digit or a point. -/
theorem notSign_head : ∀ c ∈ (Digit.text x.whole ++ (x.fractionText ++ x.scaleText)).head?,
    c.isChar '-' = false ∧ c.isChar '+' = false := by
  intro c hc
  cases hwhole : x.whole with
  | cons d whole =>
    have : c = d.1 := by simpa [Digit.text, hwhole] using hc.symm
    exact this ▸ Number.notSign_of_isDigit d.2
  | nil =>
    -- digits that do not stand in front of a point stand behind one
    cases hfraction : x.fraction with
    | none => exact absurd (by simp [hwhole, hfraction]) x.digits_ne_nil
    | some digits =>
      have : c = CodePoint.ofChar '.' := by
        simpa [Digit.text, hwhole, fractionText, hfraction, Text.ofString] using hc.symm
      rw [this]
      decide

theorem scan?_body : Number.scan? x.body = some x.number := by
  have hsign := Number.takeSign_append (s := x.sign) x.notSign_head
  have hwhole := Number.takeDigits_append x.whole x.fractionText_head
  have hdigits : ((x.whole.map Digit.value).isEmpty && (x.places.map Digit.value).isEmpty) =
      false := by
    have := x.digits_ne_nil
    rw [Bool.eq_false_iff, ne_eq, Bool.and_eq_true, not_and]
    simpa [places] using this
  rw [Number.scan?, Number.scanWith?, body, hsign]
  simp only [hwhole, takeFraction_append, hdigits, exponent?_scaleText]
  simp [number, Digit.number]

/-! ### Blanks -/

theorem notBlank_of_mem_body : ∀ c ∈ x.body, c.isBlank = false := by
  have hsign (s : Sign) : ∀ c ∈ s.text, c.isBlank = false := by
    cases s <;> simp [Sign.text, Text.ofString] <;> decide
  have hdigits (digits : List Digit) : ∀ c ∈ Digit.text digits, c.isBlank = false := by
    intro c hc
    obtain ⟨d, -, rfl⟩ := List.mem_map.1 hc
    exact CodePoint.isBlank_eq_false_of_isDigit d.2
  have hpoint : (CodePoint.ofChar '.').isBlank = false := by decide
  intro c hc
  rw [body, List.mem_append, List.mem_append, List.mem_append] at hc
  rcases hc with hc | hc | hc | hc
  · exact hsign _ c hc
  · exact hdigits _ c hc
  · cases hfraction : x.fraction with
    | none => simp [fractionText, hfraction] at hc
    | some digits =>
      simp only [fractionText, hfraction, Option.elim_some, List.mem_append] at hc
      rcases hc with hc | hc
      · have : c = CodePoint.ofChar '.' := by simpa [Text.ofString] using hc
        exact this ▸ hpoint
      · exact hdigits _ c hc
  · cases hscale : x.scale with
    | none => simp [scaleText, hscale] at hc
    | some e =>
      obtain ⟨d, rest, htext, -, -, -, hblank, hrest⟩ := e.text_eq
      rw [scaleText, hscale, Option.elim_some, htext, hrest, List.mem_cons, List.mem_append] at hc
      rcases hc with rfl | hc | hc
      · exact hblank
      · exact hsign _ c hc
      · exact hdigits _ c hc

end Numeral

namespace Text

/-- Blanks on either side of a text without blanks are all that is taken off. -/
theorem stripped_append {before body after : Text} (hbefore : ∀ c ∈ before, c.isBlank)
    (hbody : ∀ c ∈ body, c.isBlank = false) (hafter : ∀ c ∈ after, c.isBlank) :
    stripped (before ++ (body ++ after)) = body := by
  have hnone {t : Text} (h : ∀ c ∈ t, c.isBlank = false) : t.dropWhile CodePoint.isBlank = t := by
    cases t with
    | nil => rfl
    | cons c t => simp [h c (by simp)]
  cases body with
  | nil =>
    rw [List.nil_append, stripped, trimmed, List.dropWhile_eq_nil_iff.2]
    · rfl
    · intro c hc
      exact (List.mem_append.1 hc).elim (hbefore c) (hafter c)
  | cons c body =>
    have hfront : (before ++ (c :: body ++ after)).dropWhile CodePoint.isBlank =
        c :: body ++ after := by
      rw [List.dropWhile_append_of_pos hbefore]
      simp [hbody c (by simp)]
    rw [stripped, trimmed, hfront, dropEnd, List.reverse_append,
      List.dropWhile_append_of_pos (by simpa using hafter),
      hnone fun d hd => hbody d (List.mem_reverse.1 hd), List.reverse_reverse]

end Text

namespace Numeral

variable {x : Numeral}

/-- A numeral is read as its number, whatever blanks stand around it. -/
theorem scan?_text : Number.scan? x.text.stripped = some x.number := by
  rw [text, Text.stripped_append x.before_blank x.notBlank_of_mem_body x.after_blank, scan?_body]

/-! ### Values -/

/-- The number that is read has the value that the numeral denotes. -/
theorem value_number : x.number.value = x.value := by
  -- the coefficient has the digits behind the point too, and the exponent makes up for them
  have hdigits : (Digit.number (x.whole ++ x.places) : ℚ) =
      (Digit.number x.whole + Digit.number x.places / 10 ^ x.places.length) *
        10 ^ x.places.length := by
    rw [Digit.number, List.map_append, Number.ofDigits_append, List.length_map]
    push_cast
    rw [add_mul, div_mul_cancel₀ _ (by positivity)]
    rfl
  have hsize : x.number.size =
      (Digit.number x.whole + Digit.number x.places / 10 ^ x.places.length) * 10 ^ x.exponent := by
    rw [Number.size, number, hdigits, zpow_sub₀ (by norm_num), zpow_natCast, mul_assoc,
      mul_div_cancel₀ _ (by positivity)]
  rw [Number.value, hsize, value]
  cases hminus : x.sign.isMinus with
  | true => simp only [number, hminus, if_true, neg_mul, one_mul]
  | false => simp [number, hminus]

/-- A numeral within the bounds denotes its value. -/
theorem denotes (h : x.number.Representable) : Number.Denotes x.text x.value :=
  ⟨x.number, by rw [Number.read, scan?_text]; exact if_pos h, value_number⟩

end Numeral

end ComplianceRegistry
