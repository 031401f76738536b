/-!
# Text as a list of code points

Names, configs, values and report documents are texts. A text is a list of code points rather
than of characters, because a document may name half of a surrogate pair by its escape: such a
text can be carried, quoted and compared, but it has no byte encoding and so cannot be stored.

## Main definitions

* `CodePoint`, `Text` — code points, surrogates included, and lists of them
* `Text.ofString`, `Text.toString` — the text of a string, also a coercion, and back
* `Text.Encodable` — no surrogate occurs
* `Text.ofNat`, `Text.ofInt` — decimal numerals
* `Text.joined`, `Text.padded`, `Text.splitOn` — the layouts used by printed answers
* `Text.precedes` — the order of texts by their code points
-/

namespace ComplianceRegistry

/-- A code point, surrogates included. -/
abbrev CodePoint := Fin 0x110000

/-- A text is its list of code points. -/
abbrev Text := List CodePoint

namespace CodePoint

/-- The code point of a character. -/
def ofChar (c : Char) : CodePoint :=
  ⟨c.toNat, by
    have h := c.valid
    simp only [UInt32.isValidChar, Nat.isValidChar] at h
    change c.val.toNat < 0x110000
    omega⟩

/-- The code point of a number; larger numbers start again from zero. -/
def ofNat (n : Nat) : CodePoint := ⟨n % 0x110000, Nat.mod_lt _ (by decide)⟩

/-- A code point that is only half of a pair and encodes no character. -/
def IsSurrogate (c : CodePoint) : Prop := 0xD800 ≤ c.val ∧ c.val ≤ 0xDFFF

instance : DecidablePred IsSurrogate := fun _ => inferInstanceAs (Decidable (_ ∧ _))

/-- The code point is the given character. -/
def isChar (c : CodePoint) (x : Char) : Bool := c.val == x.toNat

/-- The character of a code point; a surrogate has none and gives the replacement character. -/
def toChar (c : CodePoint) : Char := Char.ofNat (if c.IsSurrogate then 0xFFFD else c.val)

/-- ASCII capitals become small letters, all else stays. -/
def asciiLower (c : CodePoint) : CodePoint :=
  if h : 65 ≤ c.val ∧ c.val ≤ 90 then ⟨c.val + 32, by omega⟩ else c

end CodePoint

namespace Text

/-- The text of a string. -/
def ofString (s : String) : Text := s.toList.map CodePoint.ofChar

instance : Coe String Text := ⟨ofString⟩

/-- The string of a text. -/
def toString (t : Text) : String := String.ofList (t.map CodePoint.toChar)

/-- No surrogate occurs, so the text has a byte encoding. -/
def Encodable (t : Text) : Prop := ∀ c ∈ t, ¬ c.IsSurrogate

-- A search for an instance would find the one that tries every code point there is.
instance : DecidablePred Encodable := fun t =>
  decidable_of_iff (t.all fun c => !decide c.IsSurrogate) (by simp [Encodable])

@[simp] theorem encodable_nil : Encodable [] := by simp [Encodable]

@[simp] theorem encodable_append {s t : Text} :
    Encodable (s ++ t) ↔ Encodable s ∧ Encodable t := by
  simp only [Encodable, List.mem_append]
  constructor
  · exact fun h => ⟨fun c hc => h c (.inl hc), fun c hc => h c (.inr hc)⟩
  · rintro ⟨hs, ht⟩ c (hc | hc)
    · exact hs c hc
    · exact ht c hc

/-- The decimal numeral of a natural number. -/
def ofNat (n : Nat) : Text := ofString (Nat.repr n)

/-- The decimal numeral of an integer, with a minus sign below zero. -/
def ofInt (n : Int) : Text :=
  if n < 0 then ofString "-" ++ ofNat n.natAbs else ofNat n.natAbs

/-- The texts in order with a separator between neighbours. -/
def joined (separator : Text) : List Text → Text
  | [] => []
  | [t] => t
  | t :: u :: rest => t ++ separator ++ joined separator (u :: rest)

/-- The first text is equal to the second or comes before it in the order of code points. -/
def precedes : Text → Text → Bool
  | [], _ => true
  | _ :: _, [] => false
  | c :: s, d :: t => c.val < d.val || (c.val == d.val && precedes s t)

/-- Blanks are added at the end until the width is reached. -/
def padded (width : Nat) (t : Text) : Text :=
  t ++ List.replicate (width - t.length) (CodePoint.ofChar ' ')

/-- Zeros are put in front until the width is reached. -/
def zeroPadded (width : Nat) (n : Nat) : Text :=
  let digits := ofNat n
  List.replicate (width - digits.length) (CodePoint.ofChar '0') ++ digits

/-- The parts between the separators; a text without separator is its only part. -/
def splitOn (separator : CodePoint) : Text → List Text
  | [] => [[]]
  | c :: rest =>
    if c = separator then [] :: splitOn separator rest
    else match splitOn separator rest with
      | [] => [[c]]
      | part :: parts => (c :: part) :: parts

/-- The text without the longest run at its end that satisfies the predicate. -/
def dropEnd (p : CodePoint → Bool) (t : Text) : Text := (t.reverse.dropWhile p).reverse

/-- The text without the longest runs at both ends that satisfy the predicate. -/
def trimmed (p : CodePoint → Bool) (t : Text) : Text := dropEnd p (t.dropWhile p)

/-- ASCII capitals become small letters. -/
def asciiLower (t : Text) : Text := t.map CodePoint.asciiLower

end Text

end ComplianceRegistry
