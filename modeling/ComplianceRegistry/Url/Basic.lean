import ComplianceRegistry.Url.Host

/-!
# Addresses of requests

An address is taken apart into its components, each of which is checked and brought into the form
in which it is sent. An address without a scheme or without a host names no place to go to: what is
left of it is a path below nothing.

## Main definitions

* `Url`, `Url.parse?` — an address in its components
* `Url.isAbsolute` — it has a scheme and a host
* `Url.requested` — the address that a request carries
-/

namespace ComplianceRegistry

/-- An address in its components, as they are sent. A component that may be there and empty is
optional. -/
structure Url where
  /-- empty if there is none -/
  scheme : Text
  userinfo : Text
  host : Text
  port : Option Int
  path : Text
  query : Option Text
  fragment : Option Text
deriving DecidableEq, Repr

namespace Url

/-! ### Components -/

/-- A code point of a scheme behind its first letter. -/
def isSchemePart (c : CodePoint) : Bool :=
  c.isAsciiWord || c.isChar '+' || c.isChar '.' || c.isChar '-'

/-- The scheme, which ends with a colon, and what follows. The scheme may be empty. -/
def takeScheme (t : Text) : Text × Text :=
  let isLetter (c : CodePoint) : Bool := c.isAsciiWord && !c.isAsciiDigit
  let scheme := if t.head?.any isLetter then t.takeWhile isSchemePart else []
  match t.drop scheme.length with
  | c :: rest => if c.isChar ':' then (scheme, rest) else ([], t)
  | [] => ([], t)

/-- The part up to one of the marks, and what follows from the mark on. -/
def upTo (marks : Text) (t : Text) : Text × Text :=
  (t.takeWhile fun c => !marks.contains c, t.dropWhile fun c => !marks.contains c)

/-- The authority behind two slashes, and what follows. -/
def takeAuthority (t : Text) : Text × Text :=
  match t with
  | a :: b :: rest => if a.isChar '/' && b.isChar '/' then upTo "/?#" rest else ([], t)
  | _ => ([], t)

/-- The component behind a mark, when the mark is there, and what follows. -/
def takeMarked (mark : Char) (ends : Text) (t : Text) : Option Text × Text :=
  match t with
  | c :: rest =>
    if c.isChar mark then
      let (component, after) := upTo ends rest
      (some component, after)
    else (none, t)
  | [] => (none, t)

/-- The part of an authority before its last at sign, and the part behind it. -/
def splitUserinfo (authority : Text) : Text × Text :=
  let behind := (authority.reverse.takeWhile fun c => !c.isChar '@').reverse
  if behind.length = authority.length then ([], authority)
  else (authority.take (authority.length - behind.length - 1), behind)

/-- The host and the text of the port. A host in brackets goes up to the last bracket. -/
def splitPort (t : Text) : Text × Text :=
  let closing (c : CodePoint) : Bool := c.isChar ']'
  let host :=
    if t.head?.any (·.isChar '[') && t.any closing then Text.dropEnd (fun c => !closing c) t
    else (upTo ":" t).1
  match t.drop host.length with
  | c :: rest => (host, if c.isChar ':' then rest else c :: rest)
  | [] => (host, [])

/-! ### Checks -/

/-- The most code points of an address. -/
def longest : Nat := 65536

/-- A control character of ASCII. -/
def isControl (c : CodePoint) : Bool := c.val < 32 || c.val == 127

/-- The port that a scheme, spelled in small letters, has when none is given. -/
def defaultPort? (scheme : Text) : Option Int :=
  if scheme = ("http" : Text) ∨ scheme = ("ws" : Text) then some 80
  else if scheme = ("https" : Text) ∨ scheme = ("wss" : Text) then some 443
  else if scheme = ("ftp" : Text) then some 21
  else none

/-- The port that is sent; none inside if there is none, or if it is the one of the scheme. -/
def port? (scheme t : Text) : Option (Option Int) :=
  if t.isEmpty then some none
  else (Number.integer? t).map fun n => if defaultPort? scheme = some n then none else some n

/-- One more segment of a path: a point stays out, and two points take the segment before them
away. -/
def putSegment (kept : List Text) (segment : Text) : List Text :=
  if segment = ("." : Text) then kept
  else if segment = (".." : Text) then (if kept = [] ∨ kept = [[]] then kept else kept.dropLast)
  else kept ++ [segment]

/-- The path without segments that are points. -/
def straightened (path : Text) : Text :=
  let segments := Text.splitOn (.ofChar '/') path
  if segments.any fun s => s = ("." : Text) || s = (".." : Text) then
    Text.joined "/" (segments.foldl putSegment [])
  else path

/-- The path may stand behind what comes before it. -/
def pathFits (hasScheme hasAuthority : Bool) (path : Text) : Bool :=
  let slash (c : CodePoint) : Bool := c.isChar '/'
  if hasAuthority then path.isEmpty || path.head?.any slash
  else
    hasScheme ||
      (!((path.take 2).length == 2 && (path.take 2).all slash) &&
        !path.head?.any (·.isChar ':'))

/-- A code point between the blank and the end of ASCII that is none of the marks. -/
def isVisibleBut (marks : Text) (c : CodePoint) : Bool :=
  32 < c.val && c.val < 127 && !marks.contains c

/-- The marks that are escaped in a fragment. -/
def fragmentMarks : Text := "\"<>`"

/-- The marks that are escaped in a query. -/
def queryMarks : Text := "\"#<>"

/-- The marks that are escaped in a path. -/
def pathMarks : Text := "\"#<>?`\x7b\x7d"

/-- The marks that are escaped before an at sign. -/
def userinfoMarks : Text := pathMarks ++ ("/;=@[\\]^|" : Text)

/-- The component with escapes for blanks, for the marks and for what lies beyond ASCII. An escape
that is there already stays. -/
def escaped (marks : Text) (t : Text) : Text := t.percentEscaped (isVisibleBut marks)

/-- The components of an address; none if it is no address. -/
def parse? (t : Text) : Option Url := do
  if longest < t.length ∨ t.any isControl ∨ ¬ t.Encodable then none
  let (scheme, afterScheme) := takeScheme t
  let (authority, afterAuthority) := takeAuthority afterScheme
  let (path, afterPath) := upTo "?#" afterAuthority
  let (query, afterQuery) := takeMarked '?' "#" afterPath
  let (fragment, _) := takeMarked '#' [] afterQuery
  let (userinfo, place) := splitUserinfo authority
  let (host, portText) := splitPort place
  let host ← Host.sent? host
  let port ← port? scheme portText
  let hasAuthority := !userinfo.isEmpty || !host.isEmpty || port.isSome
  if !pathFits (!scheme.isEmpty) hasAuthority path then none
  some
    { scheme := scheme.asciiLower
      userinfo := escaped userinfoMarks userinfo
      host := host
      port := port
      path :=
        escaped pathMarks (if scheme.isEmpty && !hasAuthority then path else straightened path)
      query := query.map (escaped queryMarks)
      fragment := fragment.map (escaped fragmentMarks) }

/-! ### Addresses as texts -/

/-- There is a scheme and a host. -/
def isAbsolute (u : Url) : Bool := !u.scheme.isEmpty && !u.host.isEmpty

/-- The authority: a host with a colon stands in brackets. -/
def authority (u : Url) : Text :=
  (if u.userinfo.isEmpty then [] else u.userinfo ++ ("@" : Text)) ++
    (if u.host.any (·.isChar ':') then ("[" : Text) ++ u.host ++ ("]" : Text) else u.host) ++
    (match u.port with
      | some n => (":" : Text) ++ Text.ofInt n
      | none => [])

/-- A component behind its mark, when it is there. -/
def marked (mark : Text) : Option Text → Text
  | some t => mark ++ t
  | none => []

/-- The address as a text. -/
def text (u : Url) : Text :=
  (if u.scheme.isEmpty then [] else u.scheme ++ (":" : Text)) ++
    (if u.authority.isEmpty then [] else ("//" : Text) ++ u.authority) ++ u.path ++
    marked "?" u.query ++ marked "#" u.fragment

/-- The path and the query below nothing. -/
def rooted (u : Url) : Text :=
  let slash (c : CodePoint) : Bool := c.isChar '/'
  ("/" : Text) ++ (u.path ++ marked "?" u.query).dropWhile slash

/-- The address that a request carries. -/
def requested (u : Url) : Text := if u.isAbsolute then u.text else u.rooted

end Url

end ComplianceRegistry
