import ComplianceRegistry.Text.Basic

/-!
# Bytes of texts

Addresses carry texts as bytes of the variable length encoding in units of eight bits. Reading
bytes never fails: what cannot be read becomes the replacement character, one for each longest
piece that could have been the start of a code point.

## Main definitions

* `CodePoint.bytes`, `Text.byteCount` — the bytes of a code point, and how many a text takes
* `Utf8.decode` — the text that bytes stand for
-/

namespace ComplianceRegistry

/-- The bytes of a code point. -/
def CodePoint.bytes (c : CodePoint) : List Nat :=
  let n := c.val
  let tail (shift : Nat) : Nat := 0x80 + n / shift % 64
  if n < 0x80 then [n]
  else if n < 0x800 then [0xC0 + n / 64, tail 1]
  else if n < 0x10000 then [0xE0 + n / 4096, tail 64, tail 1]
  else [0xF0 + n / 262144, tail 4096, tail 64, tail 1]

/-- How many bytes a text takes. -/
def Text.byteCount (t : Text) : Nat := t.foldl (fun n c => n + c.bytes.length) 0

namespace Utf8

/-- The code point that stands for bytes that cannot be read. -/
def replacement : CodePoint := .ofNat 0xFFFD

/-- A code point of which the first bytes were read. -/
structure Begun where
  /-- the bytes still to come -/
  missing : Nat
  /-- the number so far -/
  number : Nat
  /-- the bounds of the next byte -/
  low : Nat
  high : Nat
deriving DecidableEq, Repr

/-- Reads the first byte of a code point. -/
def first (b : Nat) : Text × Option Begun :=
  if b < 0x80 then ([.ofNat b], none)
  else if 0xC2 ≤ b ∧ b ≤ 0xDF then ([], some ⟨1, b - 0xC0, 0x80, 0xBF⟩)
  else if b = 0xE0 then ([], some ⟨2, 0, 0xA0, 0xBF⟩)
  else if b = 0xED then ([], some ⟨2, 13, 0x80, 0x9F⟩)
  else if 0xE1 ≤ b ∧ b ≤ 0xEF then ([], some ⟨2, b - 0xE0, 0x80, 0xBF⟩)
  else if b = 0xF0 then ([], some ⟨3, 0, 0x90, 0xBF⟩)
  else if b = 0xF4 then ([], some ⟨3, 4, 0x80, 0x8F⟩)
  else if 0xF1 ≤ b ∧ b ≤ 0xF3 then ([], some ⟨3, b - 0xF0, 0x80, 0xBF⟩)
  else ([replacement], none)

/-- Reads one more byte. -/
def step (begun : Option Begun) (b : Nat) : Text × Option Begun :=
  match begun with
  | none => first b
  | some p =>
    if p.low ≤ b ∧ b ≤ p.high then
      let number := p.number * 64 + b % 64
      if p.missing = 1 then ([.ofNat number], none)
      else ([], some ⟨p.missing - 1, number, 0x80, 0xBF⟩)
    else
      let (out, next) := first b
      (replacement :: out, next)

/-- The text that bytes stand for, after what was begun. -/
def decodeFrom : Option Begun → List Nat → Text
  | none, [] => []
  | some _, [] => [replacement]
  | begun, b :: rest =>
    let (out, next) := step begun b
    out ++ decodeFrom next rest

/-- The text that bytes stand for. -/
def decode (bytes : List Nat) : Text := decodeFrom none bytes

end Utf8

end ComplianceRegistry
