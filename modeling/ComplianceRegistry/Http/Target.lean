import ComplianceRegistry.Http.Message
import ComplianceRegistry.Http.Query
import ComplianceRegistry.Registry.Operation
import ComplianceRegistry.Validation.Body

/-!
# Targets of requests

A path names a target by its segments. Some segments are words, the others are taken as they are
and may be anything but empty. A target answers some methods, and for each of them a request is
checked and turned into what it asks for.

## Main definitions

* `Target`, `Target.ofPath?` — the targets and the paths that name them
* `Target.allowed` — the methods that a refusal of another method names
* `Demand`, `Target.demand?` — what a request asks for, and the check that it has to pass
-/

namespace ComplianceRegistry

/-- The targets of requests, with the texts that their paths carry. -/
inductive Target
  | health
  | page (page : Page)
  | types
  | trial
  | trail
  | regulations (project : Text)
  | regulation (project regulation : Text)
  | regulationNamed (project name : Text)
  | versionStatuses (project version : Text)
  | status (project regulation version : Text)
  | value (project regulation version : Text)
  | compliance (project regulation version : Text)
  | report (project regulation version : Text)
deriving DecidableEq, Repr

namespace Target

/-! ### Paths -/

/-- The last segment is the word; a line feed may follow it. -/
def endsAs (segment word : Text) : Bool := segment == word || segment == word ++ ("\n" : Text)

/-- The target of a regulation and a version that the last segment names. -/
def ofPair? (project regulation version last : Text) : Option Target :=
  if endsAs last "value" then some (.value project regulation version)
  else if endsAs last "compliance" then some (.compliance project regulation version)
  else if endsAs last "report" then some (.report project regulation version)
  else if endsAs last "status" then some (.status project regulation version)
  else none

/-- The target below a project. -/
def inProject? (project : Text) : List Text → Option Target
  | [a] => if endsAs a "regulations" then some (.regulations project) else none
  | [a, r] =>
    if a = ("regulations" : Text) ∧ r ≠ [] then some (.regulation project r) else none
  | [a, b, c] =>
    if a = ("regulations" : Text) ∧ b = ("by-name" : Text) ∧ c ≠ [] then
      some (.regulationNamed project c)
    else if a = ("versions" : Text) ∧ b ≠ [] ∧ endsAs c "regulation-statuses" then
      some (.versionStatuses project b)
    else none
  | [a, r, b, v, c] =>
    if a = ("regulations" : Text) ∧ r ≠ [] ∧ b = ("versions" : Text) ∧ v ≠ [] then
      ofPair? project r v c
    else none
  | _ => none

/-- The target below the version of the interface. -/
def inInterface? : List Text → Option Target
  | [a] =>
    if endsAs a "regulation-types" then some .types
    else if endsAs a "audit-log" then some .trail
    else none
  | a :: b :: rest =>
    if a = ("projects" : Text) ∧ b ≠ [] then inProject? b rest
    else if a = ("regulations" : Text) ∧ endsAs b "evaluate" ∧ rest = [] then some .trial
    else none
  | [] => none

/-- The target of the segments of a path. -/
def ofSegments? : List Text → Option Target
  | [a] =>
    if endsAs a "health" then some .health
    else if endsAs a "docs" then some (.page .console)
    else if endsAs a "redoc" then some (.page .reference)
    else if endsAs a "openapi.json" then some (.page .description)
    else none
  | a :: b :: rest =>
    if a = ("api" : Text) ∧ b = ("v1" : Text) then inInterface? rest
    else if a = ("docs" : Text) ∧ endsAs b "oauth2-redirect" ∧ rest = [] then
      some (.page .signedIn)
    else none
  | [] => none

/-- The target of a path. -/
def ofPath? : Text → Option Target
  | [] => none
  | c :: rest =>
    if c.isChar '/' then ofSegments? (Text.splitOn (CodePoint.ofChar '/') rest) else none

/-! ### Methods -/

/-- The method that a target answers before all others. -/
def firstVerb : Target → Verb
  | .trial | .report .. => .post
  | .value .. | .compliance .. => .put
  | _ => .get

/-- The methods that a refusal of another method names: the first one, but for pages all, which come
in any order. -/
def allowed : Target → Text
  | .page _ => "GET, HEAD"
  | t => t.firstVerb.name

end Target

/-! ### Demands -/

/-- What a request asks for. -/
inductive Demand
  /-- how the server is -/
  | health
  /-- a page that describes the interface -/
  | page (page : Page)
  /-- an operation of the registry -/
  | operation (op : Operation)
deriving DecidableEq, Repr

namespace Demand

/-- An integer in a path. -/
def pathInteger (name t : Text) : Checked Int :=
  .ofRead [.key "path", .key name] (.text t) (Validation.integer (.text t))

/-- A text in a path. -/
def pathText (name t : Text) : Checked Text :=
  .ofRead [.key "path", .key name] (.text t) (Validation.text Validation.anyText (.text t))

/-- The project, the regulation and the version of a path. -/
def pair (project regulation version : Text) : Checked (Int × Int × Text) :=
  (fun p r v => (p, r, v)) <$> pathInteger "project_id" project
    <*> pathInteger "regulation_id" regulation <*> pathText "version_id" version

/-- A regulation by the id in a path. -/
def numbered (t : Text) : Checked Address := .byId <$> pathInteger "regulation_id" t

/-- A regulation by the name in a path. -/
def named (t : Text) : Checked Address := (fun n => .byName (some n)) <$> pathText "name" t

/-- A value in a query with a default for its absence. -/
def queryValue {α : Type} (query name : Text) (default : α)
    (read : Document → Except Complaint α) : Checked α :=
  match Query.value? query name with
  | some t => .ofRead [.key "query", .key name] (.text t) (read (.text t))
  | none => .valid default

/-- What is asked of the trail by a query. -/
def auditQuery (query : Text) : Checked AuditQuery :=
  let text (d : Document) : Except Complaint (Option Text) :=
    (Validation.text Validation.anyText d).map some
  AuditQuery.mk
    <$> queryValue query "module" none text
    <*> queryValue query "entity_type" none text
    <*> queryValue query "entity_id" none (fun d => (Validation.integer d).map some)
    <*> queryValue query "action" none (fun d => (Validation.action d).map some)
    <*> queryValue query "page" 1 (Validation.atLeast 1 Validation.integer)
    <*> queryValue query "per_page" 50
      (Validation.atMost 200 (Validation.atLeast 1 Validation.integer))

end Demand

/-- The check of a request: from its query and its body to what it asks for. -/
abbrev Check (α : Type) := Text → Payload → Checked α

namespace Target

open Demand

/-- How the target checks a request of a method for an operation of the registry; none if it does
not answer the method. -/
def operation? : Target → Verb → Option (Check Operation)
  | .types, .get => some fun _ _ => .valid .listTypes
  | .trial, .post => some fun _ body =>
    (fun t => .evaluate t.typeName t.config t.value) <$> body.fields Body.trial
  | .trail, .get => some fun query _ => .browseTrail <$> auditQuery query
  | .regulations p, .get => some fun _ _ => .listRegulations <$> pathInteger "project_id" p
  | .regulations p, .post => some fun _ body =>
    .createRegulation <$> pathInteger "project_id" p <*> body.fields Body.draft
  | .regulationNamed p n, .get => some fun _ _ =>
    .getRegulation <$> pathInteger "project_id" p <*> named n
  | .regulationNamed p n, .put => some fun _ body =>
    .updateRegulation <$> pathInteger "project_id" p <*> named n <*> body.fields Body.patch
  | .regulationNamed p n, .delete => some fun _ _ =>
    .deleteRegulation <$> pathInteger "project_id" p <*> named n
  | .regulation p r, .get => some fun _ _ =>
    .getRegulation <$> pathInteger "project_id" p <*> numbered r
  | .regulation p r, .put => some fun _ body =>
    .updateRegulation <$> pathInteger "project_id" p <*> numbered r <*> body.fields Body.patch
  | .regulation p r, .delete => some fun _ _ =>
    .deleteRegulation <$> pathInteger "project_id" p <*> numbered r
  | .versionStatuses p v, .get => some fun _ _ =>
    .listStatuses <$> pathInteger "project_id" p <*> pathText "version_id" v
  | .status p r v, .get => some fun _ _ => (fun (p, r, v) => .getStatus p r v) <$> pair p r v
  | .status p r v, .delete => some fun _ _ =>
    (fun (p, r, v) => .deleteStatus p r v) <$> pair p r v
  | .value p r v, .put => some fun _ body =>
    (fun (p, r, v) b => .setValue p r v (some b.value) b.details)
      <$> pair p r v <*> body.fields Body.valueReport
  | .compliance p r v, .put => some fun _ body =>
    (fun (p, r, v) c => .setCompliance p r v (some c))
      <$> pair p r v <*> body.fields Body.compliance
  | .report p r v, .post => some fun _ body =>
    (fun (p, r, v) b => .report p r v (some b.value) b.details)
      <$> pair p r v <*> body.fields Body.valueReport
  | _, _ => none

/-- How the target checks a request of a method; none if it does not answer the method. -/
def demand? : Target → Verb → Option (Check Demand)
  | .health, .get => some fun _ _ => .valid .health
  | .page p, .get | .page p, .head => some fun _ _ => .valid (.page p)
  | t, verb => (t.operation? verb).map fun check query body =>
    (check query body).map .operation

end Target

end ComplianceRegistry
