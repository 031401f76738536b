import ComplianceRegistry.Registry.Regulations
import ComplianceRegistry.Validation.Field

/-!
# The bodies of requests

Each write takes an object with certain fields. Fields that are not known are ignored, and all
violations are reported together, in the order in which the fields are declared.

## Main definitions

* `Body.draft`, `Body.patch` — the bodies that create and update a regulation
* `Body.ValueReport`, `Body.valueReport`, `Body.compliance` — the bodies of status writes
* `Body.Trial`, `Body.trial` — the body of an evaluation that stores nothing
-/

namespace ComplianceRegistry.Body

open Validation

/-- The form of a regulation's name. -/
def nameForm : TextForm := ⟨1, some 200⟩

/-- The form of a displayed name. -/
def displayNameForm : TextForm := ⟨0, some 300⟩

/-- The form of a config. -/
def configForm : TextForm := ⟨0, some 500⟩

/-- The body that creates a regulation. -/
def draft (base : List Place) (body : Document) : Checked Draft :=
  Draft.mk
    <$> required base body "name" (text nameForm)
    <*> optional base body "display_name" none (nullable (text displayNameForm))
    <*> optional base body "description" none (nullable (text anyText))
    <*> required base body "type_id" integer
    <*> optional base body "config" none (nullable (text configForm))
    <*> optional base body "order" 0 integer

/-- The body that updates a regulation. Null empties the displayed name, the description and the
config, and leaves the name, the type and the order as they are. -/
def patch (base : List Place) (body : Document) : Checked Patch :=
  (fun name displayName description typeId config order =>
      { name := name.join, displayName, description, typeId := typeId.join, config,
        order := order.join : Patch })
    <$> patched base body "name" (nullable (text nameForm))
    <*> patched base body "display_name" (nullable (text displayNameForm))
    <*> patched base body "description" (nullable (text anyText))
    <*> patched base body "type_id" (nullable integer)
    <*> patched base body "config" (nullable (text configForm))
    <*> patched base body "order" (nullable integer)

/-- A reported value with its details. -/
structure ValueReport where
  value : Text
  details : Document
deriving DecidableEq, Repr

/-- The body that reports a value. -/
def valueReport (base : List Place) (body : Document) : Checked ValueReport :=
  ValueReport.mk
    <$> required base body "value" (text anyText)
    <*> optional base body "report_details" .null anything

/-- The body that sets a verdict. -/
def compliance (base : List Place) (body : Document) : Checked Bool :=
  required base body "is_compliant" truth

/-- A value to be evaluated without being stored. -/
structure Trial where
  typeName : Text
  config : Option Text
  value : Option Text
deriving DecidableEq, Repr

/-- The body of a trial. -/
def trial (base : List Place) (body : Document) : Checked Trial :=
  Trial.mk
    <$> required base body "type_name" (text ⟨1, none⟩)
    <*> optional base body "config" none (nullable (text anyText))
    <*> optional base body "value" none (nullable (text anyText))

end ComplianceRegistry.Body
