import ComplianceRegistry.Binary64.Column
import ComplianceRegistry.Document.Reader
import ComplianceRegistry.Fault

/-!
# Documents in a column

The column of report details keeps a document as interchange text, but holds numbers as numbers. A
number at the top of a document comes back as the integer it equals, when that fits the column, and
else as the column reads it. The texts inside of any other document come back with every two
neighbouring halves of a pair as one code point; the rest comes back as it was sent.

## Main definitions

* `Document.stored` — a document as it comes back from its column
* `Document.isPairedUp` — there are no halves of a pair to be joined

## Main results

* `Document.stored_eq_self` — any document that is no number and has no halves to be joined comes
  back as it was sent, and so does an integer that fits the column
-/

namespace ComplianceRegistry.Document

mutual

/-- The document with neighbouring halves of a pair as one code point in all texts and keys. -/
def pairedUp : Document → Document
  | .text t => .text (pairHalves t)
  | .list items => .list (itemsPairedUp items)
  | .object members => .ofMembers (membersPairedUp members)
  | d => d

/-- The items with pairs as one code point. -/
def itemsPairedUp : List Document → List Document
  | [] => []
  | d :: rest => pairedUp d :: itemsPairedUp rest

/-- The members with pairs as one code point, keys included. -/
def membersPairedUp : List (Text × Document) → List (Text × Document)
  | [] => []
  | (k, d) :: rest => (pairHalves k, pairedUp d) :: membersPairedUp rest

end

/-- A floating point number as the column gives it back: as the integer that it is, inside of 64
bits. -/
def ofColumnNumber (x : Binary64) : Document :=
  match x.integer? with
  | some n => if -storageBound < n ∧ n < storageBound - 1 then .integer n else .float x
  | none => .float x

/-- A document as it comes back from its column. -/
def stored : Document → Document
  | .float x => ofColumnNumber x.throughColumn
  | .integer n => if Storable n then .integer n else .float (.integerThroughColumn n)
  | d => d.pairedUp

/-! ### Documents that come back as they were sent -/

mutual

/-- No text or key of the document has neighbouring halves of a pair, and each key of an object is
there once, as in every document that was read. -/
def isPairedUp : Document → Bool
  | .text t => pairHalves t = t
  | .list items => itemsArePairedUp items
  | .object members => membersArePairedUp members
  | _ => true

/-- No item has halves to be joined. -/
def itemsArePairedUp : List Document → Bool
  | [] => true
  | d :: rest => isPairedUp d && itemsArePairedUp rest

/-- No key and no value has halves to be joined, and no key comes again. -/
def membersArePairedUp : List (Text × Document) → Bool
  | [] => true
  | (k, d) :: rest =>
    decide (pairHalves k = k) && !(rest.map (·.1)).contains k && isPairedUp d &&
      membersArePairedUp rest

end

section Members

variable {key : Text} {value : Document} {members kept : List (Text × Document)}

theorem putMember_of_notMem (h : key ∉ kept.map (·.1)) :
    putMember key value kept = kept ++ [(key, value)] := by
  induction kept with
  | nil => rfl
  | cons m kept ih =>
    rw [List.map_cons, List.mem_cons, not_or] at h
    rw [putMember, if_neg (Ne.symm h.1), ih h.2, List.cons_append]

/-- Members with keys of their own are all put one after the other. -/
theorem foldl_putMember_of_nodup (h : ((kept ++ members).map (·.1)).Nodup) :
    members.foldl (fun kept m => putMember m.1 m.2 kept) kept = kept ++ members := by
  induction members generalizing kept with
  | nil => simp
  | cons m members ih =>
    have hnew : m.1 ∉ kept.map (·.1) := by
      rw [List.map_append, List.nodup_append] at h
      exact fun hold => h.2.2 _ hold _ (List.mem_map_of_mem List.mem_cons_self) rfl
    rw [List.append_cons] at h ⊢
    rw [List.foldl_cons, putMember_of_notMem hnew, ih h]

theorem membersArePairedUp_cons : membersArePairedUp ((key, value) :: members) ↔
    pairHalves key = key ∧ key ∉ members.map (·.1) ∧ isPairedUp value ∧
      membersArePairedUp members := by
  simp [membersArePairedUp, and_assoc]

theorem nodup_keys_of_membersArePairedUp (h : membersArePairedUp members) :
    (members.map (·.1)).Nodup := by
  induction members with
  | nil => exact .nil
  | cons m members ih =>
    obtain ⟨-, hnew, -, hrest⟩ := membersArePairedUp_cons.1 h
    exact List.nodup_cons.2 ⟨hnew, ih hrest⟩

theorem ofMembers_of_membersArePairedUp (h : membersArePairedUp members) :
    ofMembers members = .object members :=
  congrArg object (foldl_putMember_of_nodup (nodup_keys_of_membersArePairedUp h))

end Members

mutual

/-- Where there is nothing to be joined the document stays as it is. -/
theorem pairedUp_eq_self : (d : Document) → d.isPairedUp → d.pairedUp = d
  | .text t, h => by
    rw [pairedUp, of_decide_eq_true h]
  | .list items, h => by
    rw [pairedUp, itemsPairedUp_eq_self items h]
  | .object members, h => by
    rw [pairedUp, membersPairedUp_eq_self members h, ofMembers_of_membersArePairedUp h]
  | .null, _ | .truth _, _ | .integer _, _ | .float _, _ => by rw [pairedUp]; all_goals simp

theorem itemsPairedUp_eq_self :
    (items : List Document) → itemsArePairedUp items → itemsPairedUp items = items
  | [], _ => rfl
  | d :: rest, h => by
    rw [itemsArePairedUp, Bool.and_eq_true] at h
    rw [itemsPairedUp, pairedUp_eq_self d h.1, itemsPairedUp_eq_self rest h.2]

theorem membersPairedUp_eq_self : (members : List (Text × Document)) →
    membersArePairedUp members → membersPairedUp members = members
  | [], _ => rfl
  | (k, d) :: rest, h => by
    obtain ⟨hkey, -, hd, hrest⟩ := membersArePairedUp_cons.1 h
    rw [membersPairedUp, hkey, pairedUp_eq_self d hd, membersPairedUp_eq_self rest hrest]

end

/-- A document that is no number, or an integer that fits the column, comes back as it was sent when
it has no halves of a pair to be joined. -/
theorem stored_eq_self {d : Document} (hpaired : d.isPairedUp) (hfloat : ∀ x, d ≠ .float x)
    (hinteger : ∀ n, d = .integer n → Storable n) : d.stored = d := by
  cases d with
  | float x => exact absurd rfl (hfloat x)
  | integer n => exact if_pos (hinteger n rfl)
  | _ => exact pairedUp_eq_self _ hpaired

end ComplianceRegistry.Document
