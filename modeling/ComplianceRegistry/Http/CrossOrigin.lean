import ComplianceRegistry.Http.Message

/-!
# Requests from other origins

A browser names the origin of the page that sends a request. Every response to such a request
allows credentials, and it names the origin as allowed if the origin is listed. Before some
requests a browser asks by a preflight whether it may send them; that is answered at once. A page
may not reach into a private network.

## Main definitions

* `CrossOrigin.preflight?` — the answer to a preflight
* `CrossOrigin.marked` — a response with the headers for the origin
-/

namespace ComplianceRegistry.CrossOrigin

/-- The methods that pages of other origins may use. -/
def methods : List Text := ["DELETE", "GET", "HEAD", "OPTIONS", "PATCH", "POST", "PUT", "QUERY"]

/-- The header that allows credentials. -/
def credentials : Text × Text := ("access-control-allow-credentials", "true")

/-- The header that says on which headers of the request the response depends. -/
def varies (on : List Text) : Text × Text := ("vary", Text.joined ", " on)

/-- The headers of a preflight on which its answer depends. -/
def preflightHeaders : List Text :=
  ["Origin", "Access-Control-Request-Method", "Access-Control-Request-Headers",
    "Access-Control-Request-Private-Network"]

/-- The header that names the origin as allowed, if it is listed. -/
def allowance (origins : List Text) (origin : Text) : List (Text × Text) :=
  if origins.contains origin then [("access-control-allow-origin", origin)] else []

/-- The response with the headers for the origin of its request. -/
def marked (origins : List Text) (r : Request) (response : Response) : Response :=
  let granted :=
    match r.header? "origin" with
    | none => []
    | some origin => credentials :: allowance origins origin
  { response with headers := response.headers ++ granted ++ [varies ["Origin"]] }

/-- What a preflight asks for and may not have. -/
def failures (origins : List Text) (r : Request) (origin method : Text) : List Text :=
  (if origins.contains origin then [] else [("origin" : Text)]) ++
    (if methods.contains method then [] else [("method" : Text)]) ++
    (if (r.header? "access-control-request-private-network").isNone then []
      else [("private-network" : Text)])

/-- The header that allows all headers that a preflight asks for. -/
def allowedHeaders (r : Request) : List (Text × Text) :=
  match r.header? "access-control-request-headers" with
  | some wanted => [("access-control-allow-headers", wanted)]
  | none => []

/-- The answer to a preflight from an origin for a method. -/
def answer (origins : List Text) (r : Request) (origin method : Text) : Response :=
  let headers :=
    [varies preflightHeaders, ("access-control-allow-methods", Text.joined ", " methods),
      ("access-control-max-age", ("600" : Text)), credentials] ++ allowance origins origin ++
      allowedHeaders r
  match failures origins r origin method with
  | [] => ⟨200, .text "OK", headers⟩
  | parts => ⟨400, .text (("Disallowed CORS " : Text) ++ Text.joined ", " parts), headers⟩

/-- The answer to a request that is a preflight. -/
def preflight? (origins : List Text) (r : Request) : Option Response :=
  match r.header? "origin", r.header? "access-control-request-method" with
  | some origin, some method =>
    if r.method = ("OPTIONS" : Text) then some (answer origins r origin method) else none
  | _, _ => none

end ComplianceRegistry.CrossOrigin
