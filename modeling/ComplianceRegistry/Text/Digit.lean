import ComplianceRegistry.Text.Basic

/-!
# Decimal digits

A decimal digit is a code point of the general category "decimal number" of version 14 of the
character standard. These code points come in runs of ten that stand for zero to nine in order,
so the table lists only the zeros.

## Main definitions

* `CodePoint.digitZeros` — the code points that stand for zero
* `CodePoint.digitValue?` — the value of a decimal digit of any script
* `CodePoint.isDigit` — the code point is such a digit
* `CodePoint.asciiDigit?` — the value of a digit of the ASCII range
-/

namespace ComplianceRegistry.CodePoint

/-- The zeros of the decimal scripts, ascending. -/
def digitZeros : List Nat :=
  [
    0x30, 0x660, 0x6F0, 0x7C0, 0x966, 0x9E6, 0xA66, 0xAE6, 0xB66, 0xBE6, 0xC66, 0xCE6, 0xD66,
    0xDE6, 0xE50, 0xED0, 0xF20, 0x1040, 0x1090, 0x17E0, 0x1810, 0x1946, 0x19D0, 0x1A80, 0x1A90,
    0x1B50, 0x1BB0, 0x1C40, 0x1C50, 0xA620, 0xA8D0, 0xA900, 0xA9D0, 0xA9F0, 0xAA50, 0xABF0,
    0xFF10, 0x104A0, 0x10D30, 0x11066, 0x110F0, 0x11136, 0x111D0, 0x112F0, 0x11450, 0x114D0,
    0x11650, 0x116C0, 0x11730, 0x118E0, 0x11950, 0x11C50, 0x11D50, 0x11DA0, 0x16A60, 0x16AC0,
    0x16B50, 0x1D7CE, 0x1D7D8, 0x1D7E2, 0x1D7EC, 0x1D7F6, 0x1E140, 0x1E2F0, 0x1E950, 0x1FBF0
  ]

/-- The value of a decimal digit, none for any other code point. -/
def digitValue? (c : CodePoint) : Option Nat :=
  (digitZeros.find? fun z => z ≤ c.val && c.val < z + 10).map fun z => c.val - z

/-- The code point is a decimal digit of some script. -/
def isDigit (c : CodePoint) : Bool := c.digitValue?.isSome

/-- The value of an ASCII digit, none for any other code point. -/
def asciiDigit? (c : CodePoint) : Option Nat :=
  if 48 ≤ c.val ∧ c.val ≤ 57 then some (c.val - 48) else none

theorem digitValue?_lt_ten {c : CodePoint} {d : Nat} (h : c.digitValue? = some d) : d < 10 := by
  obtain ⟨z, hfind, rfl⟩ := Option.map_eq_some_iff.1 h
  have hz := List.find?_some hfind
  simp only [Bool.and_eq_true, decide_eq_true_eq] at hz
  omega

end ComplianceRegistry.CodePoint
