import ComplianceRegistry.Kind

/-!
# Faults

A fault is the reason why an operation was not carried out. The registry's own faults carry a
message and a status for their answer; the others come from the limits of numbers and storage.

## Main definitions

* `Missing` — the things that can be looked up in vain
* `Fault` — the reasons
* `Fault.message?`, `Fault.status` — the text and the status of an answer
* `Storable` — the integers a column can hold
-/

namespace ComplianceRegistry

/-- How a regulation is addressed inside its project. An absent name matches no regulation. -/
inductive Address
  | byId (id : Int)
  | byName (name : Option Text)
deriving DecidableEq, Repr

/-- A thing that was looked up in vain. -/
inductive Missing
  | regulationType (id : Int)
  | project (id : Int)
  | regulation (address : Address) (project : Int)
  | version (catalogId : Text)
  | status (regulation : Int) (project : Int) (catalogId : Text)
deriving DecidableEq, Repr

/-- The reason why an operation was not carried out. -/
inductive Fault
  | notFound (what : Missing)
  | nameTaken (name : Text) (project : Int)
  | configNotNumber (kind : Kind)
  | unsupportedType (name : Text)
  /-- a number's exponent lies beyond the bounds -/
  | numberBeyondBounds
  /-- an integer does not fit a column -/
  | integerBeyondStorage
  /-- a text has no byte encoding -/
  | textNotEncodable
  /-- a constraint of the tables would be violated -/
  | constraintViolated
  /-- a stored row has a value its column does not admit, is gone when it is read again, or is one
  of several where there can be one only -/
  | rowUnreadable
deriving DecidableEq, Repr

namespace Missing

/-- How the message of a missing regulation names it. -/
def addressText : Address → Text
  | .byId id => ("ID " : Text) ++ Text.ofInt id
  | .byName (some name) => ("name '" : Text) ++ name ++ ("'" : Text)
  | .byName none => "name 'None'"

/-- The message of a missing thing. -/
def message : Missing → Text
  | .regulationType id =>
    ("Regulation type with id " : Text) ++ Text.ofInt id ++ (" not found" : Text)
  | .project id => ("Project with id " : Text) ++ Text.ofInt id ++ (" not found" : Text)
  | .regulation address p =>
    ("Regulation with " : Text) ++ addressText address ++ (" for Project ID " : Text) ++
      Text.ofInt p ++ (" not found" : Text)
  | .version catalogId => ("Version with ID " : Text) ++ catalogId ++ (" not found" : Text)
  | .status r p catalogId =>
    ("Regulation status with regulationId " : Text) ++ Text.ofInt r ++
      (" for Project ID " : Text) ++ Text.ofInt p ++ (" and versionId " : Text) ++
      catalogId ++ (" not found" : Text)

end Missing

namespace Fault

/-- The message of a fault of the registry; faults of numbers and storage have none. -/
def message? : Fault → Option Text
  | .notFound what => some what.message
  | .nameTaken name project =>
    some (("Regulation with name '" : Text) ++ name ++ ("' already exists in project " : Text) ++
      Text.ofInt project)
  | .configNotNumber kind =>
    some (("Config value for " : Text) ++ kind.name ++ (" type must be a number" : Text))
  | .unsupportedType name => some (("Unsupported regulation type: " : Text) ++ name)
  | _ => none

/-- The status of the answer that reports the fault. -/
def status : Fault → Nat
  | .notFound _ => 404
  | .nameTaken .. => 409
  | .configNotNumber _ => 400
  | _ => 500

end Fault

/-- The bound of the integers of 64 bits with sign, `2 ^ 63`. -/
def storageBound : Int := 9223372036854775808

/-- The integers a column can hold: those of 64 bits with sign. -/
def Storable (n : Int) : Prop := -storageBound ≤ n ∧ n < storageBound

instance : DecidablePred Storable := fun _ => inferInstanceAs (Decidable (_ ∧ _))

/-- Passes when the integer can be handed to storage. -/
def checkInteger (n : Int) : Except Fault Unit :=
  if Storable n then .ok () else .error .integerBeyondStorage

/-- Passes when the text can be handed to storage. -/
def checkText (t : Text) : Except Fault Unit :=
  if t.Encodable then .ok () else .error .textNotEncodable

/-- Passes when the text, if there is one, can be handed to storage. -/
def checkText? : Option Text → Except Fault Unit
  | none => .ok ()
  | some t => checkText t

end ComplianceRegistry
