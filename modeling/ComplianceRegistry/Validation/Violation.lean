import ComplianceRegistry.Document.Reader

/-!
# Violations

Input that does not have its form is answered with the list of its violations: what is wrong,
where, and which part of the input it was.

## Main definitions

* `Complaint` — what is wrong; `Complaint.code` and `Complaint.message` are its two texts
* `Violation` — a complaint, its place and the offending input
* `Checked` — a value, or all violations on the way to it
-/

namespace ComplianceRegistry

/-- What is wrong with a part of the input. -/
inductive Complaint
  | missing
  | notReadable (flaw : Document.Flaw)
  | notObject
  | notText
  | textNotEncodable
  | textTooShort (least : Nat)
  | textTooLong (most : Nat)
  | notInteger
  | unreadableInteger
  | oversizedInteger
  | fractionalInteger
  | notFinite
  | notTruth
  | unreadableTruth
  | unreadableNumber
  | belowLeast (least : Int)
  | aboveMost (most : Int)
  | unknownAction
deriving DecidableEq, Repr

namespace Complaint

/-- The code of a complaint. -/
def code : Complaint → Text
  | .missing => "missing"
  | .notReadable _ => "json_invalid"
  | .notObject => "model_attributes_type"
  | .notText => "string_type"
  | .textNotEncodable => "string_unicode"
  | .textTooShort _ => "string_too_short"
  | .textTooLong _ => "string_too_long"
  | .notInteger => "int_type"
  | .unreadableInteger => "int_parsing"
  | .oversizedInteger => "int_parsing_size"
  | .fractionalInteger => "int_from_float"
  | .notFinite => "finite_number"
  | .notTruth => "bool_type"
  | .unreadableTruth => "bool_parsing"
  | .unreadableNumber => "float_parsing"
  | .belowLeast _ => "greater_than_equal"
  | .aboveMost _ => "less_than_equal"
  | .unknownAction => "literal_error"

/-- A number of characters. -/
def characters (n : Nat) : Text :=
  Text.ofNat n ++ (if n = 1 then (" character" : Text) else (" characters" : Text))

/-- The message of a complaint. -/
def message : Complaint → Text
  | .missing => "Field required"
  | .notReadable _ => "JSON decode error"
  | .notObject => "Input should be a valid dictionary or object to extract fields from"
  | .notText => "Input should be a valid string"
  | .textNotEncodable =>
    "Input should be a valid string, unable to parse raw data as a unicode string"
  | .textTooShort n => ("String should have at least " : Text) ++ characters n
  | .textTooLong n => ("String should have at most " : Text) ++ characters n
  | .notInteger => "Input should be a valid integer"
  | .unreadableInteger => "Input should be a valid integer, unable to parse string as an integer"
  | .oversizedInteger => "Unable to parse input string as an integer, exceeded maximum size"
  | .fractionalInteger => "Input should be a valid integer, got a number with a fractional part"
  | .notFinite => "Input should be a finite number"
  | .notTruth => "Input should be a valid boolean"
  | .unreadableTruth => "Input should be a valid boolean, unable to interpret input"
  | .unreadableNumber => "Input should be a valid number, unable to parse string as a number"
  | .belowLeast n => ("Input should be greater than or equal to " : Text) ++ Text.ofInt n
  | .aboveMost n => ("Input should be less than or equal to " : Text) ++ Text.ofInt n
  | .unknownAction => "Input should be 'create', 'update' or 'delete'"

/-- What is told besides the message, under a word for it. -/
def aside? : Complaint → Option (Text × Document)
  | .notReadable flaw => some ("error", .text flaw.message)
  | .textTooShort n => some ("min_length", .integer n)
  | .textTooLong n => some ("max_length", .integer n)
  | .belowLeast n => some ("ge", .integer n)
  | .aboveMost n => some ("le", .integer n)
  | .unknownAction => some ("expected", .text "'create', 'update' or 'delete'")
  | _ => none

end Complaint

/-- A step on the way to a part of the input. -/
inductive Place
  | key (name : Text)
  | offset (n : Nat)
deriving DecidableEq, Repr

/-- A complaint about a part of the input. -/
structure Violation where
  complaint : Complaint
  location : List Place
  input : Document
deriving DecidableEq, Repr

namespace Violation

/-- What is wrong and where. -/
def summary (v : Violation) : List (Text × Document) :=
  let place : Place → Document
    | .key name => .text name
    | .offset n => .integer n
  [("type", .text v.complaint.code), ("loc", .list (v.location.map place)),
    ("msg", .text v.complaint.message)]

/-- The violation in short: the offending input is left out. -/
def answer (v : Violation) : Document := .object v.summary

/-- The violation with the offending input and all that is told of it. -/
def detail (v : Violation) : Document :=
  let input : List (Text × Document) := [("input", v.input)]
  let aside := v.complaint.aside?.toList.map fun a => (("ctx" : Text), Document.object [a])
  .object (v.summary ++ input ++ aside)

/-- The violation can be put into an answer: its input has finite numbers and texts with an
encoding only. -/
def isPresentable (v : Violation) : Bool := v.input.isFinite && v.input.isCarriable

end Violation

/-- A value, or all the violations that were met on the way to it. -/
inductive Checked (α : Type)
  | valid (value : α)
  | invalid (violations : List Violation)

namespace Checked

variable {α β : Type}

/-- The violations that were met. -/
def violations : Checked α → List Violation
  | .valid _ => []
  | .invalid vs => vs

/-- Applies a function to the value. -/
def map (f : α → β) : Checked α → Checked β
  | .valid a => .valid (f a)
  | .invalid vs => .invalid vs

/-- Applies a checked function to a checked value; the violations of both are kept in order. -/
def ap (f : Checked (α → β)) (a : Checked α) : Checked β :=
  match f, a with
  | .valid f, .valid a => .valid (f a)
  | f, a => .invalid (f.violations ++ a.violations)

instance : Applicative Checked where
  pure := .valid
  seq f a := f.ap (a ())

/-- The outcome of reading a part of the input at a place. -/
def ofRead (location : List Place) (input : Document) : Except Complaint α → Checked α
  | .ok a => .valid a
  | .error c => .invalid [⟨c, location, input⟩]

end Checked

end ComplianceRegistry
