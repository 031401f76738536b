import ComplianceRegistry.Http.CrossOrigin
import ComplianceRegistry.Http.Target
import ComplianceRegistry.Settings

/-!
# The server

A request is answered from the settings, the state of the database, the store and the request
alone. The steps are fixed: a preflight is answered at once; the user is taken from a header; the
path names a target, or a redirection when it only has slashes too many; the target has to answer
the method; all parts of the request are checked; and only then the operation is carried out.

A request fails when its user cannot be read, when an operation meets a fault that has no message,
or when what is to be answered cannot be written. In the last case the operation has taken effect
nevertheless.

## Main definitions

* `Server.demandOf` — what a request to a target asks for, or why it is refused
* `Server.fulfil` — the outcome of a demand
* `Server.handle` — the outcome of a request
-/

namespace ComplianceRegistry.Server

/-! ### Responses

A response is none where the server fails.
-/

/-- The response that lists violations. -/
def violationsResponse (vs : List Violation) : Option Response :=
  if vs.all Violation.isPresentable then some ⟨422, .violations vs, []⟩ else none

/-- The response that reports a fault. -/
def faultResponse (f : Fault) : Option Response := f.message?.map (Response.detail f.status)

/-- The response that carries a document. Numbers that are not finite are left empty. -/
def documentResponse (status : Nat) (d : Document) : Option Response :=
  if d.isCarriable then some ⟨status, .document d.withoutInfinities, []⟩ else none

/-- The response to a body that is no document. -/
def refusalResponse : Document.Refusal → Option Response
  | .malformed flaw offset =>
    violationsResponse [⟨.notReadable flaw, Payload.place ++ [.offset offset], .object []⟩]
  | .integerTooLong | .nestedTooDeep | .undecodable =>
    some (.detail 400 "There was an error parsing the body")

/-- The response to a path that names nothing. -/
def notFound : Response := .detail 404 "Not Found"

/-- The response to a method that the target does not answer. -/
def methodNotAllowed (t : Target) : Response :=
  { Response.detail 405 "Method Not Allowed" with headers := [("allow", t.allowed)] }

/-- The address of the server, by which the client knows it. -/
def origin (r : Request) : Text :=
  ("http://" : Text) ++ ((r.header? "host").filter fun t => Host.isServerName t).getD "test"

/-- The response that leads to the same address without slashes at the end of its path. There is
none when the address has no bytes. -/
def redirection (r : Request) (path : Text) : Option Response :=
  let query : Text := if r.query.isEmpty then [] else ("?" : Text) ++ r.query
  let address := Query.addressed (origin r) ++ Query.addressedPath path ++ Query.addressed query
  if (path ++ query).Encodable then some ⟨307, .text [], [("location", address)]⟩ else none

/-- The response to a path that names no target. -/
def astray (r : Request) : Option Response :=
  let slash (c : CodePoint) : Bool := c.isChar '/'
  let shorter := r.path.dropEnd slash
  if r.path ≠ ("/" : Text) ∧ shorter ≠ r.path ∧ (Target.ofPath? shorter).isSome then
    redirection r shorter
  else some notFound

/-! ### Demands -/

/-- What a request to a target asks for, or the response that refuses it. -/
def demandOf (r : Request) (t : Target) : Except (Option Response) Demand :=
  match (Verb.ofName? r.method).bind fun v => (t.demand? v).map fun check => (v, check) with
  | none => .error (some (methodNotAllowed t))
  | some (verb, check) =>
    match if verb.takesBody then r.payload else .ok .absent with
    | .error refusal => .error (refusalResponse refusal)
    | .ok body =>
      match check r.query body with
      | .valid demand => .ok demand
      | .invalid vs => .error (violationsResponse vs)

/-- The answer to the question how the server is; `outage` is what the database says when it
cannot be reached. -/
def health (settings : Settings) (outage : Option Text) : Document :=
  let database : Text := match outage with
    | none => "connected"
    | some reason => ("error: " : Text) ++ reason
  let status : Text := if database = ("connected" : Text) then "ok" else "degraded"
  .object
    [("status", .text status), ("app", .text settings.appName),
      ("version", .text settings.appVersion), ("database", .text database)]

/-- The status of the response to an operation that was carried out. -/
def statusOf : Operation → Nat
  | .createRegulation .. => 201
  | _ => 200

/-- How deep the details of a report may be nested in a response. -/
def deepestDetails : Nat := 255

/-- The answer can be written: no details of a report are nested too deep. -/
def isWritable : Answer → Bool
  | .status v => v.status.details.depth ≤ deepestDetails
  | .statuses vs => vs.all fun v => v.status.details.depth ≤ deepestDetails
  | _ => true

/-- The document of the response to an operation that was carried out. -/
def documentOf : Operation → Answer → Document
  | .deleteRegulation .., .regulation v =>
    .object [("status", .text "deleted"), ("id", .integer v.regulation.id)]
  | .deleteStatus _ r v, _ =>
    .object [("status", .text "deleted"), ("regulation_id", .integer r), ("version_id", .text v)]
  | .evaluate typeName config value, .verdict compliant =>
    .object
      [("type_name", .text typeName), ("config", .ofText? config), ("value", .ofText? value),
        ("is_compliant", .truth compliant)]
  | _, answer => answer.document

/-- The outcome of a demand. -/
def fulfil (settings : Settings) (outage : Option Text) (ctx : Context) (s : Store) :
    Demand → Written (Option Response)
  | .health => ⟨documentResponse 200 (health settings outage), s, []⟩
  | .page p => ⟨some ⟨200, .page p, []⟩, s, []⟩
  | .operation op => ((op.run ctx).perform s).map fun
    | .ok answer =>
      if isWritable answer then documentResponse (statusOf op) (documentOf op answer) else none
    | .error f => faultResponse f

/-! ### Requests -/

/-- The outcome of a request from a user. -/
def answerTo (settings : Settings) (outage : Option Text) (ctx : Context) (s : Store)
    (r : Request) : Written (Option Response) :=
  match Target.ofPath? r.path with
  | none => ⟨astray r, s, []⟩
  | some t =>
    match demandOf r t with
    | .ok demand => fulfil settings outage ctx s demand
    | .error response => ⟨response, s, []⟩

/-- The outcome of a request that is no preflight. The trail names the user and the address that
the request gives. -/
def respond (settings : Settings) (outage : Option Text) (ctx : Context) (s : Store)
    (r : Request) : Written (Option Response) :=
  match r.caller with
  | .unreadable => ⟨none, s, []⟩
  | .anonymous => answerTo settings outage { ctx with user := none, address := r.client } s r
  | .user id => answerTo settings outage { ctx with user := some id, address := r.client } s r

/-- The outcome of a request. -/
def handle (settings : Settings) (outage : Option Text) (ctx : Context) (s : Store)
    (r : Request) : Written Response :=
  match CrossOrigin.preflight? settings.origins r with
  | some response => ⟨response.labelled, s, []⟩
  | none =>
    (respond settings outage ctx s r).map fun
      | some response => CrossOrigin.marked settings.origins r response.labelled
      | none => Response.failure.labelled

end ComplianceRegistry.Server
