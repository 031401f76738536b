import ComplianceRegistry.Proofs.Arrivals
import ComplianceRegistry.Proofs.Outbox

/-!
# The upload service

What is announced is sent after the step that announced it, and nothing that comes back is looked at
again. So neither the address of the upload service nor its replies can be told from the results of
steps, from the tables or from the trail. And each announcement that has bytes is sent once to an
address that takes requests: it is sent whatever was replied before, and it is not sent again.

## Main definitions

* `Settings.uplinkedTo` — the settings with another upload service
* `Notifier.IsUsable` — there is an endpoint, and it makes up an address
* `Store.attempts` — the payloads of the announcements of each step of a run, told from the store
* `Observation.payloads`, `Observation.withoutDeliveries` — what was sent, and all the rest

## Main results

* `World.received_deliver` — what the upload service receives
* `World.uplink_has_no_influence` — two runs that differ in the upload service
-/

namespace ComplianceRegistry

/-- The settings with another address of the upload service and another time to wait for it. -/
def Settings.uplinkedTo (settings : Settings) (address : Text) (timeout : Binary64) : Settings :=
  { settings with uploadServiceUrl := address, notifyTimeout := timeout }

/-- What can be seen of a step, except for the requests that the upload service received. -/
def Observation.withoutDeliveries (o : Observation) : Observation := { o with deliveries := [] }

/-- The payloads that the upload service received in a step. -/
def Observation.payloads (o : Observation) : List Document := o.deliveries.map (·.payload)

/-! ### Sending -/

namespace Notifier

variable {n : Notifier} {u : Uplink} {news : List Announcement}

/-- There is an endpoint, and together with the path below it it is an address. -/
def IsUsable (n : Notifier) : Prop := n.isEnabled ∧ n.url?.isSome

instance : DecidablePred IsUsable := fun _ => inferInstanceAs (Decidable (_ ∧ _))

/-- The payloads of the announcements that have bytes. -/
def payloadsOf (news : List Announcement) : List Document :=
  (news.map (·.payload)).filter (·.isCarriable)

/-- The requests by which announcements are sent. There are none without an address. -/
def deliveriesOf (n : Notifier) (news : List Announcement) : List Delivery :=
  match n.isEnabled, n.url? with
  | true, some url => (payloadsOf news).map fun d => ⟨url.requested, d⟩
  | _, _ => []

@[simp] theorem deliveriesOf_nil : n.deliveriesOf [] = [] := by
  unfold deliveriesOf
  split <;> rfl

theorem deliveriesOf_append {later : List Announcement} :
    n.deliveriesOf (news ++ later) = n.deliveriesOf news ++ n.deliveriesOf later := by
  unfold deliveriesOf payloadsOf
  split <;> simp

/-- The service receives one request for each announcement, whatever it replies. -/
theorem received_sendAll :
    (n.sendAll u news).2.received = u.received ++ n.deliveriesOf news := by
  induction news generalizing u with
  | nil => simp [sendAll]
  | cons a news ih =>
    have hsend : (n.send u a).2.received = u.received ++ n.deliveriesOf [a] := by
      cases hn : n.isEnabled <;> cases hurl : n.url? <;> by_cases ha : a.payload.isCarriable <;>
        simp [send, deliveriesOf, payloadsOf, Uplink.receive, hn, hurl, ha]
    change (n.sendAll (n.send u a).2 news).2.received = _
    rw [ih, hsend, List.append_assoc, ← deliveriesOf_append]
    rfl

/-- An address that takes requests gets all announcements that have bytes. -/
theorem deliveriesOf_of_isCarriable {url : Url} (henabled : n.isEnabled) (hurl : n.url? = some url)
    (h : ∀ a ∈ news, a.payload.isCarriable) :
    n.deliveriesOf news = news.map fun a => ⟨url.requested, a.payload⟩ := by
  have hall : payloadsOf news = news.map (·.payload) :=
    List.filter_eq_self.2 (List.forall_mem_map.2 h)
  simp [deliveriesOf, henabled, hurl, hall, Function.comp_def]

theorem IsUsable.payload_deliveriesOf (h : n.IsUsable) :
    (n.deliveriesOf news).map (·.payload) = payloadsOf news := by
  obtain ⟨url, hurl⟩ := Option.isSome_iff_exists.1 h.2
  simp [deliveriesOf, h.1, hurl, Function.comp_def]

end Notifier

/-- The announcements of a step are sent by the notifier of the settings. -/
theorem World.received_deliver {settings : Settings} {u : Uplink} {news : List Announcement} :
    (deliver settings u news).received =
      u.received ++ (Notifier.ofAddress settings.uploadServiceUrl).deliveriesOf news := by
  rw [deliver, Outbox.uplink_drain]
  exact Notifier.received_sendAll

/-! ### Steps and runs -/

variable {settings : Settings} {address : Text} {timeout : Binary64} {ctx : Context} {s : Store}
variable {step : Step} {steps : List (Context × Step)} {u : Uplink}

/-- No step looks at the upload service. -/
@[simp] theorem Step.effect_uplinkedTo :
    step.effect (settings.uplinkedTo address timeout) ctx s = step.effect settings ctx s := by
  cases step <;> rfl

/-- The payloads of what each step of a run announces. -/
def Store.attempts (settings : Settings) (s : Store) : List (Context × Step) → List (List Document)
  | [] => []
  | (ctx, step) :: rest =>
    let outcome := step.effect settings ctx s
    Notifier.payloadsOf outcome.announcements :: attempts settings outcome.store rest

namespace World

/-- A step sends what it announces, after all that was sent before. -/
theorem deliveries_advance {w : World} : (w.advance settings ctx step).1.deliveries =
    (Notifier.ofAddress settings.uploadServiceUrl).deliveriesOf
      (step.effect settings ctx w.store).announcements := by
  simp [advance, received_deliver]

/-- What is seen of a run besides the deliveries, and the store after it, do not tell the upload
service. -/
theorem run_uplinkedTo_eq {address' : Text} {timeout' : Binary64} {u' : Uplink} :
    let left := run (settings.uplinkedTo address timeout) ⟨s, u⟩ steps
    let right := run (settings.uplinkedTo address' timeout') ⟨s, u'⟩ steps
    left.1.map Observation.withoutDeliveries = right.1.map Observation.withoutDeliveries ∧
      left.2.store = right.2.store := by
  induction steps generalizing s u u' with
  | nil => exact ⟨rfl, rfl⟩
  | cons p steps ih =>
    obtain ⟨ctx, step⟩ := p
    -- both go on from the same store, each with its own service
    obtain ⟨hseen, hstore⟩ := @ih (step.effect settings ctx s).store
      (deliver (settings.uplinkedTo address timeout) u (step.effect settings ctx s).announcements)
      (deliver (settings.uplinkedTo address' timeout') u'
        (step.effect settings ctx s).announcements)
    simp only [run, advance, Step.effect_uplinkedTo, List.map_cons]
    exact ⟨congrArg₂ List.cons rfl hseen, hstore⟩

/-- A usable address gets the payloads of what each step announces. -/
theorem payloads_run (h : (Notifier.ofAddress address).IsUsable) :
    (run (settings.uplinkedTo address timeout) ⟨s, u⟩ steps).1.map Observation.payloads =
      s.attempts settings steps := by
  induction steps generalizing s u with
  | nil => rfl
  | cons p steps ih =>
    obtain ⟨ctx, step⟩ := p
    have hsent : (advance (settings.uplinkedTo address timeout) ⟨s, u⟩ ctx step).1.payloads =
        Notifier.payloadsOf (step.effect settings ctx s).announcements := by
      rw [Observation.payloads, deliveries_advance, Step.effect_uplinkedTo]
      exact h.payload_deliveriesOf
    have hnext : (advance (settings.uplinkedTo address timeout) ⟨s, u⟩ ctx step).2.store =
        (step.effect settings ctx s).store := by
      simp [advance]
    simp only [run, List.map_cons, Store.attempts, hsent]
    rw [← hnext]
    exact congrArg _ ih

end World

end ComplianceRegistry
