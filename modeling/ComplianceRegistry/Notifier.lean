import ComplianceRegistry.Announcement
import ComplianceRegistry.Url.Basic

/-!
# Delivery of announcements

An announcement is sent once, to a fixed path below the endpoint of the upload service. It counts
as delivered when the answer is a success; whatever else comes back, or nothing at all, is only
noted. Without an endpoint nothing is sent, nor to one that is no address, nor an announcement that
has no bytes. An endpoint without scheme or host gets its requests, but nothing counts as delivered
there.

Announcements may also be left to an outbox and sent in the background. Attempts begin in the order
in which the announcements came, and they end in any order. An attempt is pending from the moment
its announcement comes until its end is noted, which happens some time after the end itself.

## Main definitions

* `Reply`, `Uplink` — what the upload service answers, and what it has received
* `Notifier`, `Notifier.send` — the sender and one delivery
* `Outbox`, `Move`, `Outbox.move` — deliveries in the background, and what goes on with them
* `Outbox.drain` — waits until nothing is pending
-/

namespace ComplianceRegistry

/-- What comes back on a request to the upload service. -/
inductive Reply
  | status (code : Int)
  | connectError
  | readTimeout
  | protocolError
  | unexpected
deriving DecidableEq, Repr

/-- The reply is a success. -/
def Reply.isSuccess : Reply → Bool
  | .status code => 200 ≤ code && code < 300
  | _ => false

/-- A request to the upload service. -/
structure Delivery where
  url : Text
  payload : Document
deriving DecidableEq, Repr

/-- The upload service as the sender sees it: the replies it is going to give and the requests it
has received. -/
structure Uplink where
  replies : List Reply
  received : List Delivery
deriving DecidableEq, Repr

namespace Uplink

/-- The reply to the request of this number; the last reply repeats, and a service without replies
accepts everything. -/
def replyTo (u : Uplink) (n : Nat) : Reply :=
  (u.replies[n]?.or u.replies.getLast?).getD (.status 202)

/-- The service receives a request and replies. -/
def receive (u : Uplink) (d : Delivery) : Reply × Uplink :=
  (u.replyTo u.received.length, { u with received := u.received ++ [d] })

end Uplink

/-- The sender of announcements. -/
structure Notifier where
  /-- the address of the upload service without slashes at its end; empty if there is none -/
  endpoint : Text
deriving DecidableEq, Repr

namespace Notifier

/-- The path below the endpoint. -/
def eventsPath : Text := "/api/v1/regulation-events"

/-- The notifier for an address as it is configured. -/
def ofAddress (t : Text) : Notifier := ⟨t.dropEnd (·.isChar '/')⟩

/-- There is an endpoint. -/
def isEnabled (n : Notifier) : Bool := !n.endpoint.isEmpty

/-- The address to which announcements are sent. -/
def url? (n : Notifier) : Option Url := Url.parse? (n.endpoint ++ eventsPath)

/-- Sends an announcement; true if it was delivered. -/
def send (n : Notifier) (u : Uplink) (a : Announcement) : Bool × Uplink :=
  if n.isEnabled && a.payload.isCarriable then
    match n.url? with
    | some url =>
      let (reply, received) := u.receive ⟨url.requested, a.payload⟩
      (url.isAbsolute && reply.isSuccess, received)
    | none => (false, u)
  else (false, u)

/-- Sends announcements one after another. -/
def sendAll (n : Notifier) (u : Uplink) : List Announcement → List Bool × Uplink
  | [] => ([], u)
  | a :: rest =>
    let (delivered, u) := n.send u a
    let (results, u) := sendAll n u rest
    (delivered :: results, u)

end Notifier

/-- An attempt to deliver an announcement that has begun. -/
structure Attempt where
  /-- what comes of it -/
  delivered : Bool
  /-- whether that is known yet -/
  ended : Bool
deriving DecidableEq, Repr

/-- Deliveries in the background. Attempts are numbered in the order in which their announcements
came. -/
structure Outbox where
  /-- the attempts that have begun -/
  attempts : List Attempt
  /-- the announcements whose attempts have not begun -/
  waiting : List Announcement
  /-- the numbers of the attempts that are tracked -/
  pending : List Nat
  /-- the numbers of the attempts that have ended and are still to be noted, in this order -/
  unnoted : List Nat
  uplink : Uplink
deriving DecidableEq, Repr

/-- What goes on with deliveries in the background. -/
inductive Move
  /-- an announcement comes -/
  | schedule (a : Announcement)
  /-- the first attempt that waits begins -/
  | start
  /-- the attempt of this number ends -/
  | finish (i : Nat)
  /-- the first end is noted -/
  | note
deriving DecidableEq, Repr

namespace Outbox

/-- No announcement came yet. -/
def empty (u : Uplink) : Outbox := ⟨[], [], [], [], u⟩

/-- The announcement waits at the end, and its attempt is pending. -/
def schedule (o : Outbox) (a : Announcement) : Outbox :=
  { o with
    waiting := o.waiting ++ [a]
    pending := o.pending ++ [o.attempts.length + o.waiting.length] }

/-- The outbox after a move. A move for which there is no occasion changes nothing. -/
def move (n : Notifier) (o : Outbox) : Move → Outbox
  | .schedule a => o.schedule a
  | .start =>
    match o.waiting with
    | [] => o
    | a :: rest =>
      let (delivered, uplink) := n.send o.uplink a
      { o with attempts := o.attempts ++ [⟨delivered, false⟩], waiting := rest, uplink := uplink }
  | .finish i =>
    match o.attempts[i]? with
    | some ⟨delivered, false⟩ =>
      { o with attempts := o.attempts.set i ⟨delivered, true⟩, unnoted := o.unnoted ++ [i] }
    | _ => o
  | .note =>
    match o.unnoted with
    | [] => o
    | i :: rest => { o with pending := o.pending.erase i, unnoted := rest }

/-- The outbox after moves that follow one another. -/
def moves (n : Notifier) (o : Outbox) (ms : List Move) : Outbox := ms.foldl (move n) o

/-- Waits until nothing is pending: what waits begins, what has begun ends, and the ends are
noted. -/
def drain (n : Notifier) (o : Outbox) : Outbox :=
  o.moves n (o.waiting.map (fun _ => .start) ++ o.pending.map .finish ++
    o.pending.map fun _ => .note)

/-- What came of the attempts that have ended. -/
def results (o : Outbox) : List Bool := (o.attempts.filter (·.ended)).map (·.delivered)

end Outbox

end ComplianceRegistry
