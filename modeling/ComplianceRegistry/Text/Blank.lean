import ComplianceRegistry.Text.Basic

/-!
# Blanks

Two sets of blanks are in use. Integers written as text are trimmed of the code points with the
property "white space"; numbers and origin lists are stripped of these and of the four
information separators.

## Main definitions

* `CodePoint.isWhiteSpace` — the property "white space"
* `CodePoint.isBlank` — white space or an information separator
* `Text.stripped`, `Text.trimmedSpace` — a text without either at its ends
-/

namespace ComplianceRegistry

namespace CodePoint

/-- The code point has the property "white space". -/
def isWhiteSpace (c : CodePoint) : Bool :=
  (0x9 ≤ c.val && c.val ≤ 0xD) || c.val == 0x20 || c.val == 0x85 || c.val == 0xA0 ||
    c.val == 0x1680 || (0x2000 ≤ c.val && c.val ≤ 0x200A) || c.val == 0x2028 ||
    c.val == 0x2029 || c.val == 0x202F || c.val == 0x205F || c.val == 0x3000

/-- White space, or one of the four information separators. -/
def isBlank (c : CodePoint) : Bool :=
  c.isWhiteSpace || (0x1C ≤ c.val && c.val ≤ 0x1F)

end CodePoint

namespace Text

/-- The text without the blanks at its ends. -/
def stripped (t : Text) : Text := trimmed CodePoint.isBlank t

/-- The text without the white space at its ends. -/
def trimmedSpace (t : Text) : Text := trimmed CodePoint.isWhiteSpace t

end Text

end ComplianceRegistry
