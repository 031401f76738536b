import ComplianceRegistry.Document.Reader
import ComplianceRegistry.Text.Utf8

/-!
# Documents in wide units

The bytes of a document are units of one byte each, or wide units of two or four. Every document
starts with a code point of ASCII, so zeros among its first bytes tell that its units are wide, and
which of their bytes comes first. A sender who writes narrow units and starts with a zero is read
in wide ones all the same; bytes that make up no wide units are refused.

## Main definitions

* `Layout`, `Layout.ofFront?` — wide units, and those that the first bytes tell
* `Layout.text?` — what bytes stand for in wide units
* `Document.receive` — the document that is sent as a text in narrow units
-/

namespace ComplianceRegistry

/-- Which byte of a unit comes first. -/
inductive ByteOrder
  | highFirst
  | lowFirst
deriving DecidableEq, Repr

/-- The number that the bytes of a unit make up. -/
def ByteOrder.number : ByteOrder → List Nat → Nat
  | .highFirst, bytes => bytes.foldl (fun n b => n * 256 + b) 0
  | .lowFirst, bytes => bytes.foldr (fun b n => n * 256 + b) 0

/-- How a text is laid out in wide units. -/
inductive Layout
  /-- a unit of two bytes for a code point, and two units for one that is written as a pair -/
  | double (order : ByteOrder)
  /-- a unit of four bytes for a code point -/
  | quadruple (order : ByteOrder)
deriving DecidableEq, Repr

namespace Layout

/-- The wide units that the zeros among the first bytes tell; none if the units are narrow. -/
def ofFront? : List Nat → Option Layout
  | 0 :: 0 :: _ :: _ :: _ => some (.quadruple .highFirst)
  | 0 :: _ :: _ :: _ :: _ => some (.double .highFirst)
  | _ :: 0 :: 0 :: 0 :: _ => some (.quadruple .lowFirst)
  | _ :: 0 :: _ :: _ :: _ => some (.double .lowFirst)
  | [0, _] => some (.double .highFirst)
  | [_, 0] => some (.double .lowFirst)
  | _ => none

/-- The units of two bytes; none if a byte is left over. -/
def doubles? (order : ByteOrder) : List Nat → Option Text
  | [] => some []
  | [_] => none
  | a :: b :: rest =>
    (doubles? order rest).map fun t => CodePoint.ofNat (order.number [a, b]) :: t

/-- The units of four bytes; none if bytes are left over or a unit is no code point. -/
def quadruples? (order : ByteOrder) : List Nat → Option Text
  | [] => some []
  | a :: b :: c :: d :: rest =>
    let n := order.number [a, b, c, d]
    if h : n < 0x110000 then (quadruples? order rest).map fun t => ⟨n, h⟩ :: t else none
  | _ => none

/-- What bytes stand for; none if they make up no wide units. -/
def text? : Layout → List Nat → Option Text
  | .double order, bytes => (doubles? order bytes).map Document.pairHalves
  | .quadruple order, bytes => quadruples? order bytes

end Layout

/-- The deepest nesting of a document that is received. -/
def Document.deepest : Nat := 950

/-- The document that is sent as a text in narrow units. -/
def Document.receive (t : Text) : Except Refusal Document :=
  let bytes := t.flatMap CodePoint.bytes
  match Layout.ofFront? bytes with
  | none => readWithin deepest t
  | some layout =>
    match layout.text? bytes with
    | some wide => readWithin deepest wide
    | none => .error .undecodable

end ComplianceRegistry
