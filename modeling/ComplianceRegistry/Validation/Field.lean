import ComplianceRegistry.Number.Basic
import ComplianceRegistry.Trail
import ComplianceRegistry.Validation.Violation

/-!
# Reading the fields of input

A field is read from a document as what it should be. Integers and truth values are also taken
from numbers without fraction and from texts that spell them; texts are taken from texts alone and
are never trimmed.

## Main definitions

* `Validation.text`, `Validation.integer`, `Validation.truth`, `Validation.decimal` — the readers
* `Validation.nullable` — null is none
* `Validation.required`, `Validation.optional`, `Validation.patched` — a field of an object that
  has to be there, has a default, or may be left out
-/

namespace ComplianceRegistry.Validation

/-- The form of a text: the least and the greatest number of code points. -/
structure TextForm where
  least : Nat
  most : Option Nat
deriving DecidableEq, Repr

/-- Any text. -/
def anyText : TextForm := ⟨0, none⟩

/-- Reads a text of a form. Any text passes where no form is asked for; to be measured it has to
have a byte encoding. -/
def text (form : TextForm) : Document → Except Complaint Text
  | .text t =>
    if form = anyText then .ok t
    else if ¬ t.Encodable then .error .textNotEncodable
    else if t.length < form.least then .error (.textTooShort form.least)
    else match form.most with
      | some most => if most < t.length then .error (.textTooLong most) else .ok t
      | none => .ok t
  | _ => .error .notText

/-! ### Integers

A text spells an integer when a plain integer, a minus sign in front or not, is left of it after
the cleaning: white space around it goes, then a plus sign, then zeros in front, which may have
underscores among and behind them, then a fraction of zeros, and last the underscores that stand
singly between other code points.
-/

/-- The most code points of a plain integer, its sign included. -/
def longestInteger : Nat := 4300

/-- The code point is a digit other than zero. -/
def isLeadingDigit (c : CodePoint) : Bool := c.asciiDigit?.any (· ≠ 0)

/-- An optional minus sign, true when it is there, and what follows it. -/
def takeMinus : Text → Bool × Text
  | [] => (false, [])
  | c :: rest => if c.isChar '-' then (true, rest) else (false, c :: rest)

/-- The integer of a text that is zero, or digits that do not start with zero, after an optional
minus sign. -/
def plainInteger? (t : Text) : Option Int :=
  let (negative, body) := takeMinus t
  match body.mapM CodePoint.asciiDigit? with
  | some (d :: digits) =>
    if d = 0 ∧ digits ≠ [] then none
    else
      let n : Int := Number.ofDigits (d :: digits)
      some (if negative then -n else n)
  | _ => none

/-- What follows zeros and underscores, of which `last` came last. Of a text that ends with them,
and before a point, the last one is kept. A second sign may follow. -/
def afterZeros? (last : CodePoint) : Text → Option Text
  | [] => some [last]
  | c :: rest =>
    if c.isChar '0' || c.isChar '_' then afterZeros? c rest
    else if c.isChar '.' then some (last :: c :: rest)
    else if c.isChar '-' || isLeadingDigit c then some (c :: rest)
    else none

/-- The text without zeros in front. -/
def withoutLeadingZeros? : Text → Option Text
  | [] => none
  | c :: rest =>
    if c.isChar '0' then afterZeros? c rest
    else if c.isChar '-' || isLeadingDigit c then some (c :: rest)
    else none

/-- The text without its first point when nothing but zeros, and at least one, follows. -/
def withoutZeroFraction (t : Text) : Text :=
  let beforePoint (c : CodePoint) : Bool := !c.isChar '.'
  let fraction := (t.dropWhile beforePoint).drop 1
  if !fraction.isEmpty && fraction.all (·.isChar '0') then t.takeWhile beforePoint else t

/-- The text without a plus sign in front, which no minus sign may follow. -/
def withoutPlus? : Text → Option Text
  | [] => some []
  | c :: rest =>
    if !c.isChar '+' then some (c :: rest)
    else if rest.head?.any (·.isChar '-') then none
    else some rest

/-- The plain integer that the cleaning leaves. -/
def cleanedInteger? (t : Text) : Option Text := do
  let (negative, body) := takeMinus (← withoutPlus? t.trimmedSpace)
  let whole := withoutZeroFraction (← withoutLeadingZeros? body)
  let digits := (Number.ungrouped? whole).getD whole
  some (if negative then CodePoint.ofChar '-' :: digits else digits)

/-- The text starts with a plain integer that is too long, whatever comes behind it. -/
def isOversized (t : Text) : Bool :=
  let body := (takeMinus t).2
  let digits := body.takeWhile fun c => c.asciiDigit?.isSome
  digits.head?.any isLeadingDigit &&
    decide (longestInteger < t.length - body.length + digits.length)

/-- The integer a text spells. Only an uncleaned text is told that it is too long. -/
def integerOfText (t : Text) : Except Complaint Int :=
  if ¬ t.Encodable then .error .textNotEncodable
  else if isOversized t then .error .oversizedInteger
  else match cleanedInteger? t with
    | some digits =>
      if longestInteger < digits.length then .error .unreadableInteger
      else match plainInteger? digits with
        | some n => .ok n
        | none => .error .unreadableInteger
    | none => .error .unreadableInteger

/-- The integer that a floating point number is, when it lies strictly inside of 64 bits. -/
def integerOfFloat (x : Binary64) : Except Complaint Int :=
  if !x.isFinite then .error .notFinite
  else match x.integer? with
    | none => .error .fractionalInteger
    | some n => if -storageBound < n ∧ n < storageBound then .ok n else .error .oversizedInteger

/-- Reads an integer. -/
def integer : Document → Except Complaint Int
  | .integer n => .ok n
  | .truth b => .ok b.toInt
  | .float x => integerOfFloat x
  | .text t => integerOfText t
  | _ => .error .notInteger

/-! ### Truth values -/

/-- The spellings of true. -/
def trueTexts : List Text := ["1", "true", "t", "yes", "y", "on"]

/-- The spellings of false. -/
def falseTexts : List Text := ["0", "false", "f", "no", "n", "off"]

/-- The truth value a text spells in letters of any case. -/
def truthOfText (t : Text) : Except Complaint Bool :=
  if ¬ t.Encodable then .error .textNotEncodable
  else if trueTexts.contains t.asciiLower then .ok true
  else if falseTexts.contains t.asciiLower then .ok false
  else .error .unreadableTruth

/-- One is true and zero is false. -/
def truthOfInteger (n : Int) : Except Complaint Bool :=
  if n = 1 then .ok true else if n = 0 then .ok false else .error .unreadableTruth

/-- Reads a truth value. -/
def truth : Document → Except Complaint Bool
  | .truth b => .ok b
  | .integer n => if Storable n then truthOfInteger n else .error .notTruth
  | .float x =>
    match integerOfFloat x with
    | .ok n => truthOfInteger n
    | .error _ => .error .notTruth
  | .text t => truthOfText t
  | _ => .error .notTruth

/-! ### Numbers in settings -/

/-- The words for numbers that have no digits. -/
def numberWord? (t : Text) : Option (Bool → Binary64) :=
  let word := t.asciiLower
  if word = ("inf" : Text) ∨ word = ("infinity" : Text) then some .infinite
  else if word = ("nan" : Text) then some fun _ => .nan
  else none

/-- The number that a text without blanks spells. -/
def plainNumber? (t : Text) : Option Binary64 :=
  let (negative, body) := Number.takeSign t
  match numberWord? body with
  | some word => some (word negative)
  | none =>
    (Number.scanWith? CodePoint.asciiDigit? t).map fun n =>
      .ofDecimal n.negative n.coefficient n.exponent

/-- The number a text spells. -/
def decimal (t : Text) : Except Complaint Binary64 :=
  match (plainNumber? t.trimmedSpace).or ((Number.ungrouped? t).bind plainNumber?) with
  | some x => .ok x
  | none => .error .unreadableNumber

/-! ### Other forms -/

/-- Reads an integer that is not below a bound. -/
def atLeast (least : Int) (read : Document → Except Complaint Int) (d : Document) :
    Except Complaint Int := do
  let n ← read d
  if n < least then .error (.belowLeast least) else .ok n

/-- Reads an integer that is not above a bound. -/
def atMost (most : Int) (read : Document → Except Complaint Int) (d : Document) :
    Except Complaint Int := do
  let n ← read d
  if most < n then .error (.aboveMost most) else .ok n

/-- Reads the name of an action of the audit trail. -/
def action : Document → Except Complaint Trail.Action
  | .text t =>
    match Trail.Action.ofName? t with
    | some a => .ok a
    | none => .error .unknownAction
  | _ => .error .unknownAction

variable {α : Type}

/-- Null is none. -/
def nullable (read : Document → Except Complaint α) : Document → Except Complaint (Option α)
  | .null => .ok none
  | d => (read d).map some

/-- Any document. -/
def anything (d : Document) : Except Complaint Document := .ok d

/-! ### Fields of an object

`base` is the place of the object in the input.
-/

/-- A field that has to be there. -/
def required (base : List Place) (body : Document) (name : Text)
    (read : Document → Except Complaint α) : Checked α :=
  match body.member? name with
  | some d => .ofRead (base ++ [.key name]) d (read d)
  | none => .invalid [⟨.missing, base ++ [.key name], body⟩]

/-- A field with a default. -/
def optional (base : List Place) (body : Document) (name : Text) (default : α)
    (read : Document → Except Complaint α) : Checked α :=
  match body.member? name with
  | some d => .ofRead (base ++ [.key name]) d (read d)
  | none => .valid default

/-- A field that may be left out. -/
def patched (base : List Place) (body : Document) (name : Text)
    (read : Document → Except Complaint α) : Checked (Option α) :=
  match body.member? name with
  | some d => (Checked.ofRead (base ++ [.key name]) d (read d)).map some
  | none => .valid none

end ComplianceRegistry.Validation
