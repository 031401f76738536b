import ComplianceRegistry.Binary64.Basic
import ComplianceRegistry.Text.Basic

/-!
# Documents

The bodies of requests and the details of reports are documents: null, truth values, integers of
any size, floating point numbers, texts, lists and objects. The members of an object keep the
order in which their keys first came; a key that comes again replaces the value at its first
place.

## Main definitions

* `Document` — the values
* `Document.ofMembers` — an object from members that may repeat keys
* `Document.member?` — the value of a key
* `Document.Carriable` — all texts and keys have a byte encoding
* `Document.isFinite` — all numbers are finite
* `Document.depth` — how deep the document is nested
* `Document.equals` — equality of values, by number for integers, floats and truth values
-/

namespace ComplianceRegistry

/-- A document. -/
inductive Document
  | null
  | truth (value : Bool)
  | integer (value : Int)
  | float (value : Binary64)
  | text (value : Text)
  | list (items : List Document)
  | object (members : List (Text × Document))
deriving Repr, Inhabited

namespace Document

/-- Puts a value under a key: at the place of the key when it occurs, at the end otherwise. -/
def putMember (key : Text) (value : Document) :
    List (Text × Document) → List (Text × Document)
  | [] => [(key, value)]
  | (k, v) :: rest =>
    if k = key then (k, value) :: rest else (k, v) :: putMember key value rest

/-- The object with these members, where the last value of a repeated key counts. -/
def ofMembers (members : List (Text × Document)) : Document :=
  .object (members.foldl (fun kept m => putMember m.1 m.2 kept) [])

/-- The value of a key in an object. -/
def member? (key : Text) : Document → Option Document
  | .object members => (members.find? fun m => m.1 = key).map (·.2)
  | _ => none

mutual

/-- All texts and keys of the document have a byte encoding. -/
def isCarriable : Document → Bool
  | .text t => t.Encodable
  | .list items => itemsCarriable items
  | .object members => membersCarriable members
  | _ => true

/-- All of the documents are carriable. -/
def itemsCarriable : List Document → Bool
  | [] => true
  | d :: rest => isCarriable d && itemsCarriable rest

/-- All keys and values are carriable. -/
def membersCarriable : List (Text × Document) → Bool
  | [] => true
  | (k, d) :: rest => decide k.Encodable && isCarriable d && membersCarriable rest

end

mutual

/-- All numbers of the document are finite. -/
def isFinite : Document → Bool
  | .float x => x.isFinite
  | .list items => itemsFinite items
  | .object members => membersFinite members
  | _ => true

/-- All numbers of the documents are finite. -/
def itemsFinite : List Document → Bool
  | [] => true
  | d :: rest => isFinite d && itemsFinite rest

/-- All numbers of the values are finite. -/
def membersFinite : List (Text × Document) → Bool
  | [] => true
  | (_, d) :: rest => isFinite d && membersFinite rest

end

mutual

/-- The document with null in the place of every number that is not finite. -/
def withoutInfinities : Document → Document
  | .float x => if x.isFinite then .float x else .null
  | .list items => .list (itemsWithoutInfinities items)
  | .object members => .object (membersWithoutInfinities members)
  | d => d

/-- The documents with null in the place of every number that is not finite. -/
def itemsWithoutInfinities : List Document → List Document
  | [] => []
  | d :: rest => withoutInfinities d :: itemsWithoutInfinities rest

/-- The members with null in the place of every number that is not finite. -/
def membersWithoutInfinities : List (Text × Document) → List (Text × Document)
  | [] => []
  | (k, d) :: rest => (k, withoutInfinities d) :: membersWithoutInfinities rest

end

mutual

/-- How many documents stand inside of each other at most, the document itself included. -/
def depth : Document → Nat
  | .list items => itemsDepth items + 1
  | .object members => membersDepth members + 1
  | _ => 1

/-- The depth of the deepest of the documents. -/
def itemsDepth : List Document → Nat
  | [] => 0
  | d :: rest => max (depth d) (itemsDepth rest)

/-- The depth of the deepest of the values. -/
def membersDepth : List (Text × Document) → Nat
  | [] => 0
  | (_, d) :: rest => max (depth d) (membersDepth rest)

end

/-- The float equals the integer as a number. -/
def floatIs (x : Binary64) (n : Int) : Bool := x.integer? == some n

mutual

/-- The documents are equal as values. Truth values count as one and zero, the order of members
does not count, and not-a-number equals nothing. -/
def equals : Document → Document → Bool
  | .null, .null => true
  | .truth a, .truth b => a == b
  | .truth a, .integer n => n == a.toInt
  | .integer n, .truth a => n == a.toInt
  | .truth a, .float x => floatIs x a.toInt
  | .float x, .truth a => floatIs x a.toInt
  | .integer m, .integer n => m == n
  | .integer n, .float x => floatIs x n
  | .float x, .integer n => floatIs x n
  | .float x, .float y => x.equals y
  | .text s, .text t => s == t
  | .list xs, .list ys => itemsEqual xs ys
  | .object ms, .object ns => ms.length == ns.length && membersWithin ms ns
  | _, _ => false

/-- The lists are equal item by item. -/
def itemsEqual : List Document → List Document → Bool
  | [], [] => true
  | x :: xs, y :: ys => equals x y && itemsEqual xs ys
  | _, _ => false

/-- Every member of the first list has an equal value under its key in the second. -/
def membersWithin : List (Text × Document) → List (Text × Document) → Bool
  | [], _ => true
  | (k, x) :: ms, ns =>
    (match ns.find? fun n => n.1 = k with
      | some n => equals x n.2
      | none => false) && membersWithin ms ns

end

/-! ### Identity -/

mutual

/-- The documents are the same, members in the same order. -/
def same : Document → Document → Bool
  | .null, .null => true
  | .truth a, .truth b => a == b
  | .integer m, .integer n => m == n
  | .float x, .float y => x == y
  | .text s, .text t => s == t
  | .list xs, .list ys => itemsSame xs ys
  | .object ms, .object ns => membersSame ms ns
  | _, _ => false

/-- The lists hold the same documents. -/
def itemsSame : List Document → List Document → Bool
  | [], [] => true
  | x :: xs, y :: ys => same x y && itemsSame xs ys
  | _, _ => false

/-- The lists hold the same keys and documents. -/
def membersSame : List (Text × Document) → List (Text × Document) → Bool
  | [], [] => true
  | (k, x) :: ms, (l, y) :: ns => k == l && same x y && membersSame ms ns
  | _, _ => false

end

mutual

theorem same_iff : (a b : Document) → (same a b = true ↔ a = b)
  | .null, b => by cases b <;> simp [same]
  | .truth _, b => by cases b <;> simp [same]
  | .integer _, b => by cases b <;> simp [same]
  | .float _, b => by cases b <;> simp [same]
  | .text _, b => by cases b <;> simp [same]
  | .list xs, b => by cases b <;> simp [same, itemsSame_iff xs]
  | .object ms, b => by cases b <;> simp [same, membersSame_iff ms]

theorem itemsSame_iff : (xs ys : List Document) → (itemsSame xs ys = true ↔ xs = ys)
  | [], ys => by cases ys <;> simp [itemsSame]
  | x :: xs, ys => by cases ys <;> simp [itemsSame, same_iff x, itemsSame_iff xs]

theorem membersSame_iff :
    (ms ns : List (Text × Document)) → (membersSame ms ns = true ↔ ms = ns)
  | [], ns => by cases ns <;> simp [membersSame]
  | (k, x) :: ms, ns => by
    cases ns with
    | nil => simp [membersSame]
    | cons n ns => simp [membersSame, same_iff x, membersSame_iff ms, Prod.ext_iff]

end

instance : DecidableEq Document := fun a b => decidable_of_iff _ (same_iff a b)

end Document

end ComplianceRegistry
