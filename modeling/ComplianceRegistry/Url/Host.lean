import ComplianceRegistry.Document.Reader
import ComplianceRegistry.Text.Lower
import ComplianceRegistry.Text.Utf8
import ComplianceRegistry.Url.LabelPoint
import ComplianceRegistry.Url.Punycode

/-!
# Hosts

A host is a number address of four octets, one of eight groups between brackets, or a name. Names
in ASCII are taken in small letters, with escapes for what may not stand in them; other names are
made of labels that have to keep to the rules of international names and are sent in ASCII.

## Main definitions

* `Host.isQuad`, `Host.isGroups` — the two kinds of number addresses
* `Host.Label.admitted` — the rules of international names
* `Host.sent?` — a host as it is sent
* `Host.isServerName` — a host, with a port or without, by which a server may be addressed
-/

namespace ComplianceRegistry

namespace CodePoint

/-- A letter or a digit of ASCII. -/
def isAsciiWord (c : CodePoint) : Bool :=
  (48 ≤ c.val && c.val ≤ 57) || (65 ≤ c.val && c.val ≤ 90) || (97 ≤ c.val && c.val ≤ 122)

/-- A code point of ASCII. -/
def isAscii (c : CodePoint) : Bool := c.val < 128

/-- A digit of ASCII. -/
def isAsciiDigit (c : CodePoint) : Bool := c.asciiDigit?.isSome

end CodePoint

/-- A hexadecimal digit in capitals. -/
def hexCapital (n : Nat) : CodePoint := .ofNat (if n < 10 then 48 + n else 55 + n)

/-- The text with an escape for each byte of the code points that are not plain. -/
def Text.percentEscaped (isPlain : CodePoint → Bool) (t : Text) : Text :=
  t.flatMap fun c =>
    if isPlain c then [c]
    else
      c.bytes.flatMap fun b => [CodePoint.ofChar '%', hexCapital (b / 16), hexCapital (b % 16)]

namespace Host

/-! ### Number addresses -/

/-- A number from 0 to 255 without leading zeros. -/
def isOctet (t : Text) : Bool :=
  match t.mapM CodePoint.asciiDigit? with
  | some (d :: digits) =>
    digits.length ≤ 2 && (d ≠ 0 || digits.isEmpty) && Number.ofDigits (d :: digits) ≤ 255
  | _ => false

/-- Four octets between points. -/
def isQuad (t : Text) : Bool :=
  let parts := Text.splitOn (.ofChar '.') t
  parts.length == 4 && parts.all isOctet

/-- One to four hexadecimal digits. -/
def isGroup (t : Text) : Bool :=
  !t.isEmpty && t.length ≤ 4 && t.all fun c => (Document.hexDigit? c).isSome

/-- The parts with two groups in the place of a last part that is a number address of four
octets; none if that part has a point and is none. -/
def unfolded? (parts : List Text) : Option (List Text) :=
  match parts.getLast? with
  | some last =>
    if !last.any (·.isChar '.') then some parts
    else if isQuad last then some (parts.dropLast ++ [("0" : Text), ("0" : Text)])
    else none
  | none => some parts

/-- How many groups stand on one side of a gap; none if they are no groups. The side towards an
end of the address may be one empty part. -/
def sideCount? (side : List Text) : Option Nat :=
  if side = [[]] then some 0
  else if side.all isGroup then some side.length
  else none

/-- Eight groups between colons, or fewer around a gap. -/
def isGroupList (parts : List Text) : Bool :=
  if parts.length < 3 || 9 < parts.length then false
  else
    match ((parts.drop 1).dropLast).findIdx? List.isEmpty with
    | none => parts.length == 8 && parts.all isGroup
    | some n =>
      match sideCount? (parts.take (n + 1)), sideCount? (parts.drop (n + 2)) with
      | some before, some after => before + after ≤ 7
      | _, _ => false

/-- An address of eight groups. A scope may stand behind it, after a percent sign. -/
def isGroups (t : Text) : Bool :=
  let isMark (c : CodePoint) : Bool := c.isChar '%'
  let scope := t.dropWhile fun c => !isMark c
  let address := t.takeWhile fun c => !isMark c
  let scopeFits := scope.isEmpty || (1 < scope.length && !(scope.drop 1).any isMark)
  scopeFits && ((unfolded? (Text.splitOn (.ofChar ':') address)).any isGroupList)

/-- The states that a text can leave behind which is matched against four runs of digits with any
one code point between them. A state counts the parts that are begun; it is even before the first
digit of a run. -/
def quadStates : List Nat → Text → List Nat
  | states, [] => states
  | states, c :: rest =>
    let next (s : Nat) : List Nat :=
      if s % 2 = 0 then (if c.isAsciiDigit then [s + 1] else [])
      else (if c.isAsciiDigit then [s] else []) ++ (if s < 7 then [s + 1] else [])
    quadStates ((states.flatMap next).eraseDups) rest

/-- The text looks like four octets: four runs of digits with one code point between each two. -/
def looksLikeQuad (t : Text) : Bool := (quadStates [0] t).contains 7

/-! ### International names -/

namespace Label

/-- A mark that belongs to the code point before it. -/
def isMark (c : CodePoint) : Bool :=
  (0x300 ≤ c.val && c.val ≤ 0x36F) || (0x591 ≤ c.val && c.val ≤ 0x5C7) ||
    (0x610 ≤ c.val && c.val ≤ 0x61A) || (0x64B ≤ c.val && c.val ≤ 0x65F) ||
    (0x20D0 ≤ c.val && c.val ≤ 0x20FF) || (0x3099 ≤ c.val && c.val ≤ 0x309A) ||
    (0xFE20 ≤ c.val && c.val ≤ 0xFE2F)

/-- A mark that makes up one code point with a letter of the European scripts or with a sign of
the Japanese syllables. -/
def composes (base mark : CodePoint) : Bool :=
  (base.val < 0x530 && 0x300 ≤ mark.val && mark.val ≤ 0x338) ||
    (0x3040 ≤ base.val && base.val ≤ 0x30FF && 0x3099 ≤ mark.val && mark.val ≤ 0x309A)

/-- Some neighbours have to be written as one code point. -/
def hasLooseMark (t : Text) : Bool := (t.zip (t.drop 1)).any fun (b, m) => composes b m

/-- A code point of the scripts that run from right to left. -/
def isLeftward (c : CodePoint) : Bool :=
  (0x590 ≤ c.val && c.val ≤ 0x8FF) || (0xFB1D ≤ c.val && c.val ≤ 0xFDFF) ||
    (0xFE70 ≤ c.val && c.val ≤ 0xFEFC) || (0x10800 ≤ c.val && c.val ≤ 0x10FFF) ||
    (0x1E800 ≤ c.val && c.val ≤ 0x1EFFF)

/-- A label that holds a code point from right to left starts with one, holds besides digits and
hyphens only, and does not end with a hyphen. -/
def runsOneWay (t : Text) : Bool :=
  !t.any isLeftward ||
    (t.head?.any isLeftward && t.getLast?.any (fun c => !c.isChar '-') &&
      t.all fun c => isLeftward c || c.isAsciiDigit || c.isChar '-')

/-- A code point of the Japanese syllables or of the signs that are used with them. -/
def isJapanese (c : CodePoint) : Bool :=
  (0x3041 ≤ c.val && c.val ≤ 0x3096) || (0x30A1 ≤ c.val && c.val ≤ 0x30FA) ||
    (0x3400 ≤ c.val && c.val ≤ 0x9FFF) || (0x20000 ≤ c.val && c.val ≤ 0x3134A) ||
    c.val == 0x3005 || c.val == 0x3007

/-- The code point may stand between what stands before and behind it in the label. -/
def fits (label before : Text) (c : CodePoint) (after : Text) : Bool :=
  let between (first last : Nat) (c : CodePoint) : Bool := first ≤ c.val && c.val ≤ last
  if c.isLabelPoint then true
  else if c.val = 0xB7 then
    before.getLast?.any (·.isChar 'l') && after.head?.any (·.isChar 'l')
  else if c.val = 0x375 then after.head?.any (between 0x370 0x3FF)
  else if c.val = 0x5F3 ∨ c.val = 0x5F4 then before.getLast?.any (between 0x591 0x5F4)
  else if c.val = 0x30FB then label.any isJapanese
  else if between 0x660 0x669 c then !label.any (between 0x6F0 0x6F9)
  else if between 0x6F0 0x6F9 c then !label.any (between 0x660 0x669)
  else false

/-- Every code point fits to its place, the text before which is given. -/
def fitsThroughout (label : Text) : Text → Text → Bool
  | _, [] => true
  | before, c :: after => fits label before c after && fitsThroughout label (before ++ [c]) after

/-- The label keeps to the rules of international names. -/
def admitted (t : Text) : Bool :=
  let isHyphen (c : CodePoint) : Bool := c.isChar '-'
  !t.isEmpty && !(t.head?.any isHyphen) && !(t.getLast?.any isHyphen) &&
    !((t[2]?.any isHyphen) && (t[3]?.any isHyphen)) && !(t.head?.any isMark) &&
    !hasLooseMark t && fitsThroughout t [] t && runsOneWay t

/-- The front of a label that stands for another one. -/
def asciiFront : Text := "xn--"

/-- A label as it is sent; none if it breaks a rule or is too long. -/
def sent? (t : Text) : Option Text :=
  let isAscii := t.all (·.isAscii)
  let out := if isAscii then t else asciiFront ++ Punycode.encode t
  let isCoded := isAscii && asciiFront.isPrefixOf t
  let fits :=
    if isCoded then asciiFront.length < t.length && !(t.getLast?.any (·.isChar '-'))
    else admitted t
  if fits ∧ out.length ≤ 63 then some out else none

end Label

/-- The points between labels. -/
def isPoint (c : CodePoint) : Bool :=
  c.val == 0x2E || c.val == 0x3002 || c.val == 0xFF0E || c.val == 0xFF61

/-- The name with a plain point in the place of every point. -/
def plainPoints (t : Text) : Text := t.map fun c => if isPoint c then .ofChar '.' else c

/-- An international name as it is sent. A point may stand at its end. -/
def internationalName? (t : Text) : Option Text := do
  let labels := Text.splitOn (.ofChar '.') (plainPoints t)
  let closed := labels.getLast? == some []
  let out ← (if closed then labels.dropLast else labels).mapM Label.sent?
  let name := Text.joined "." (if closed then out ++ [[]] else out)
  if out ≠ [] ∧ name.length ≤ (if closed then 254 else 253) then some name else none

/-- The marks that may stand in a name in ASCII. -/
def nameMarks : Text := "-._~!$&'()*+,;=\"`\x7b\x7d%|\\"

/-- A host as it is sent; none if it is no host. An address of groups is sent without its
brackets. -/
def sent? (t : Text) : Option Text :=
  if t.isEmpty then some []
  else if looksLikeQuad t then (if isQuad t then some t else none)
  else if t.head?.any (·.isChar '[') && t.getLast?.any (·.isChar ']') && 1 < t.length then
    let inner := (t.drop 1).dropLast
    if isGroups inner && inner.all (·.isAscii) then some inner else none
  else if t.all (·.isAscii) then
    some (t.lower.percentEscaped fun c => c.isAsciiWord || nameMarks.contains c)
  else internationalName? t.lower

/-! ### Names of servers -/

/-- A port number in digits. -/
def isPort (t : Text) : Bool :=
  match t.mapM CodePoint.asciiDigit? with
  | some (d :: digits) => Number.ofDigits (d :: digits) ≤ 65535
  | _ => false

/-- Nothing, or a colon and a port number. -/
def isPortPart : Text → Bool
  | [] => true
  | c :: rest => c.isChar ':' && isPort rest

/-- A name of letters, digits, points, hyphens and underscores, or an address of groups between
brackets; a port may follow. -/
def isServerName (t : Text) : Bool :=
  if t.head?.any (·.isChar '[') then
    let inner := (t.drop 1).takeWhile fun c => !c.isChar ']'
    let behind := t.drop (inner.length + 1)
    isGroups inner && behind.head?.any (·.isChar ']') && isPortPart (behind.drop 1)
  else
    let isNamePart (c : CodePoint) : Bool :=
      c.isAsciiWord || c.isChar '.' || c.isChar '-' || c.isChar '_'
    let name := t.takeWhile isNamePart
    !name.isEmpty && isPortPart (t.drop name.length)

end Host

end ComplianceRegistry
