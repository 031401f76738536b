import ComplianceRegistry.Document.Layout
import ComplianceRegistry.Document.Printer
import ComplianceRegistry.Text.Blank
import ComplianceRegistry.Validation.Violation

/-!
# Requests and responses

## Main definitions

* `Verb` — the request methods that endpoints answer
* `Request`, `Request.header?`, `Request.payload` — a request, its headers, and its body as an
  endpoint finds it
* `Caller`, `Request.caller` — the user whom a request names
* `Page` — the pages that describe the interface
* `Content`, `Response` — a response and what it carries
-/

namespace ComplianceRegistry

/-- The methods that endpoints answer. -/
inductive Verb
  | get
  | head
  | post
  | put
  | delete
deriving DecidableEq, Repr

namespace Verb

/-- The methods. -/
def all : List Verb := [.get, .head, .post, .put, .delete]

/-- The name of a method. -/
def name : Verb → Text
  | .get => "GET"
  | .head => "HEAD"
  | .post => "POST"
  | .put => "PUT"
  | .delete => "DELETE"

/-- The method of a name. -/
def ofName? (t : Text) : Option Verb := all.find? fun v => v.name = t

@[simp] theorem ofName?_name (v : Verb) : ofName? v.name = some v := by
  cases v <;> decide

/-- Requests of this method have a body that is read. -/
def takesBody : Verb → Bool
  | .post | .put => true
  | .get | .head | .delete => false

end Verb

/-- A request. -/
structure Request where
  method : Text
  /-- the path with its escapes resolved -/
  path : Text
  /-- what follows the question mark, escapes unresolved -/
  query : Text
  headers : List (Text × Text)
  /-- empty for a request without a body -/
  body : Text
  /-- the network address of the other side, if it is known -/
  client : Option Text
deriving DecidableEq, Repr

/-- The body of a request as an endpoint finds it. -/
inductive Payload
  | absent
  | document (value : Document)
  /-- a body that is not sent as a document -/
  | unread (t : Text)
deriving DecidableEq, Repr

/-- Whom a request names as its user. -/
inductive Caller
  | anonymous
  | user (id : Int)
  /-- all are digits of a kind, but they do not make up a number that can be read -/
  | unreadable
deriving DecidableEq, Repr

namespace Caller

/-- A raised one, two or three counts as a digit of a kind. -/
def isRaisedDigit (c : CodePoint) : Bool := c.val == 0xB9 || c.val == 0xB2 || c.val == 0xB3

/-- The most digits that are read. -/
def longest : Nat := 4300

/-- The caller named by the text of a header. -/
def ofText (t : Text) : Caller :=
  if t.isEmpty || !t.all (fun c => c.asciiDigit?.isSome || isRaisedDigit c) then .anonymous
  else match t.mapM CodePoint.asciiDigit? with
    | some digits =>
      if longest < t.length then .unreadable else .user (Number.ofDigits digits)
    | none => .unreadable

end Caller

namespace Request

/-- The value of the first header of a name, which is matched without regard to case. -/
def header? (r : Request) (name : Text) : Option Text :=
  (r.headers.find? fun h => h.1.asciiLower = name.asciiLower).map (·.2)

/-- The user whom the request names. -/
def caller (r : Request) : Caller :=
  match r.header? "x-user-id" with
  | some t => .ofText t
  | none => .anonymous

/-- The media type says that a body is a document: the type before any parameters is
`application` with the subtype `json` or one that ends in `+json`. -/
def isDocumentType (mediaType : Text) : Bool :=
  let plain := (Text.stripped (mediaType.takeWhile fun c => !c.isChar ';')).asciiLower
  match Text.splitOn (CodePoint.ofChar '/') plain with
  | [main, sub] =>
    let plus : Text := "+json"
    main == ("application" : Text) && (sub == ("json" : Text) || plus.isSuffixOf sub)
  | _ => false

/-- The body is sent as a document; so is one for which no media type is given. -/
def sendsDocument (r : Request) : Bool :=
  match r.header? "content-type" with
  | none => true
  | some t => isDocumentType t

/-- The body as an endpoint finds it. -/
def payload (r : Request) : Except Document.Refusal Payload :=
  if r.body.isEmpty then .ok .absent
  else if r.sendsDocument then (Document.receive r.body).map .document
  else .ok (.unread r.body)

end Request

namespace Payload

/-- The first step to every place in a body. -/
def place : List Place := [.key "body"]

/-- Reads the fields of a body that is an object. -/
def fields {α : Type} (p : Payload) (read : List Place → Document → Checked α) : Checked α :=
  match p with
  | .absent => .invalid [⟨.missing, place, .null⟩]
  | .unread t => .invalid [⟨.notObject, place, .text t⟩]
  | .document (.object members) => read place (.object members)
  | .document d => .invalid [⟨.notObject, place, d⟩]

end Payload

/-- The pages that describe the interface. -/
inductive Page
  /-- a page to try the interface out -/
  | console
  /-- the page to which a sign-in from there comes back -/
  | signedIn
  /-- a page to read -/
  | reference
  /-- the description that both are made from -/
  | description
deriving DecidableEq, Repr

/-- What a response carries. -/
inductive Content
  | document (value : Document)
  | violations (violations : List Violation)
  | text (t : Text)
  /-- a page, whose text the framework makes up; it is not modelled -/
  | page (page : Page)
deriving DecidableEq, Repr

namespace Content

/-- How many bytes the content takes, if its text is known. Violations are carried with the
offending inputs. -/
def byteCount? : Content → Option Nat
  | .document d => some (d.byteCount .terse)
  | .violations vs =>
    some (Document.byteCount .sparse (.object [("detail", .list (vs.map Violation.detail))]))
  | .text t => some t.byteCount
  | .page _ => none

/-- The media type of the content; empty content has none. -/
def mediaType? : Content → Option Text
  | .document _ | .violations _ | .page .description => some "application/json"
  | .text [] => none
  | .text _ => some "text/plain; charset=utf-8"
  | .page _ => some "text/html; charset=utf-8"

end Content

/-- A response. -/
structure Response where
  status : Nat
  content : Content
  headers : List (Text × Text)
deriving DecidableEq, Repr

namespace Response

/-- The value of a header. -/
def header? (r : Response) (name : Text) : Option Text :=
  (r.headers.find? fun h => h.1 = name.asciiLower).map (·.2)

/-- The response with a document that tells one detail. -/
def detail (status : Nat) (t : Text) : Response :=
  ⟨status, .document (.object [("detail", .text t)]), []⟩

/-- The response with the headers that tell the length and the media type of its content. -/
def labelled (r : Response) : Response :=
  let length := r.content.byteCount?.toList.map fun n => (("content-length" : Text), Text.ofNat n)
  let type := r.content.mediaType?.toList.map fun t => (("content-type" : Text), t)
  { r with headers := r.headers ++ length ++ type }

/-- The response of a server that failed. -/
def failure : Response := ⟨500, .text "Internal Server Error", []⟩

end Response

end ComplianceRegistry
