import ComplianceRegistry.Http.Server
import ComplianceRegistry.Proofs.Operations

/-!
# What requests come to

A request either gets as far as an operation, and then its outcome is that of the operation in a
session of its own, or it is answered without touching the store. Requests can neither seed the
catalog nor put remarks into the trail, and the operations that they ask for name regulations as
they should be named, because the checks of the bodies see to it.

## Main definitions

* `Regulation.IsName` — the names that regulations may get by requests
* `Operation.IsPosed` — the operations that requests can ask for
* `Server.operationOf?`, `Server.contextOf` — the operation that a request asks for, and its context
* `Server.present` — the response that tells of an operation

## Main results

* `Server.handle_of_operation`, `Server.handle_of_none` — the outcome of a request
* `Server.isPosed_of_operationOf?`, `Server.isNaming_of_operationOf?` — requests ask for nothing
  else, and name regulations as they should be named
-/

namespace ComplianceRegistry

/-! ### Checks that pass -/

namespace Checked

variable {α β : Type}

theorem ap_eq_valid {f : Checked (α → β)} {c : Checked α} {b : β} (h : f <*> c = .valid b) :
    ∃ g a, f = .valid g ∧ c = .valid a ∧ b = g a := by
  change f.ap c = .valid b at h
  cases f with
  | invalid vs => simp [ap] at h
  | valid g =>
    cases c with
    | invalid vs => simp [ap] at h
    | valid a => exact ⟨g, a, rfl, rfl, (Checked.valid.inj h).symm⟩

theorem map_eq_valid {f : α → β} {c : Checked α} {b : β} (h : f <$> c = .valid b) :
    ∃ a, c = .valid a ∧ b = f a := by
  obtain ⟨g, a, hg, ha, hb⟩ := ap_eq_valid (f := .valid f) h
  cases hg
  exact ⟨a, ha, hb⟩

theorem map₂_eq_valid {γ : Type} {f : α → β → γ} {c : Checked α} {d : Checked β} {e : γ}
    (h : f <$> c <*> d = .valid e) : ∃ a b, c = .valid a ∧ d = .valid b ∧ e = f a b := by
  obtain ⟨g, b, hg, hb, rfl⟩ := ap_eq_valid h
  obtain ⟨a, ha, rfl⟩ := map_eq_valid hg
  exact ⟨a, b, ha, hb, rfl⟩

end Checked

namespace Validation

/-- A text that was read in a form has as many code points as the form asks for. -/
theorem length_of_text {least most : Nat} {d : Document} {t : Text}
    (h : text ⟨least, some most⟩ d = .ok t) : least ≤ t.length ∧ t.length ≤ most := by
  cases d with
  | text u =>
    have hform : (⟨least, some most⟩ : TextForm) ≠ anyText := by simp [anyText]
    simp only [text, if_neg hform] at h
    split at h
    · simp at h
    · split at h
      · simp at h
      · next hleast =>
        split at h
        · simp at h
        · next hmost =>
          obtain rfl := Except.ok.inj h
          exact ⟨Nat.le_of_not_lt hleast, Nat.le_of_not_lt hmost⟩
  | _ => simp [text] at h

variable {α : Type} {base : List Place} {body : Document} {name : Text}
variable {read : Document → Except Complaint α}

theorem ofRead_eq_valid {place : List Place} {input : Document} {e : Except Complaint α} {a : α}
    (h : Checked.ofRead place input e = .valid a) : e = .ok a := by
  cases e with
  | ok b => exact congrArg _ (Checked.valid.inj h)
  | error c => simp [Checked.ofRead] at h

/-- A field that was read was there. -/
theorem required_eq_valid {a : α} (h : required base body name read = .valid a) :
    ∃ d, read d = .ok a := by
  unfold required at h
  split at h
  · next d _ => exact ⟨d, ofRead_eq_valid h⟩
  · simp at h

/-- A field that may be left out was read if it has a value. -/
theorem patched_eq_valid {a : α} (h : patched base body name read = .valid (some a)) :
    ∃ d, read d = .ok a := by
  unfold patched at h
  split at h
  · next d _ =>
    cases hread : Checked.ofRead (base ++ [.key name]) d (read d) with
    | invalid vs => simp [hread, Checked.map] at h
    | valid b =>
      simp only [hread, Checked.map, Checked.valid.injEq, Option.some.injEq] at h
      exact ⟨d, h ▸ ofRead_eq_valid hread⟩
  · simp at h

theorem nullable_eq_ok {d : Document} {a : α} (h : nullable read d = .ok (some a)) :
    read d = .ok a := by
  unfold nullable at h
  split at h
  · simp at h
  · cases hread : read d with
    | error c => simp [hread, Except.map] at h
    | ok b => simpa [hread, Except.map] using h

end Validation

/-- The names that regulations may get by requests: those of 1 to 200 code points. -/
def Regulation.IsName (t : Text) : Prop := 1 ≤ t.length ∧ t.length ≤ 200

namespace Body

variable {base : List Place} {body : Document}

theorem isName_of_draft {d : Draft} (h : draft base body = .valid d) :
    Regulation.IsName d.name := by
  -- the name is the first field, so that all others have to be taken off from the last one on
  obtain ⟨_, order, hconfig, -, rfl⟩ := Checked.ap_eq_valid h
  obtain ⟨_, config, htype, -, rfl⟩ := Checked.ap_eq_valid hconfig
  obtain ⟨_, typeId, hdescription, -, rfl⟩ := Checked.ap_eq_valid htype
  obtain ⟨_, description, hdisplayName, -, rfl⟩ := Checked.ap_eq_valid hdescription
  obtain ⟨_, displayName, hname', -, rfl⟩ := Checked.ap_eq_valid hdisplayName
  obtain ⟨name, hread, rfl⟩ := Checked.map_eq_valid hname'
  obtain ⟨d, hread⟩ := Validation.required_eq_valid hread
  exact Validation.length_of_text hread

theorem isName_of_patch {p : Patch} {name : Text} (h : patch base body = .valid p)
    (hname : p.name = some name) : Regulation.IsName name := by
  obtain ⟨_, order, hconfig, -, rfl⟩ := Checked.ap_eq_valid h
  obtain ⟨_, config, htype, -, rfl⟩ := Checked.ap_eq_valid hconfig
  obtain ⟨_, typeId, hdescription, -, rfl⟩ := Checked.ap_eq_valid htype
  obtain ⟨_, description, hdisplayName, -, rfl⟩ := Checked.ap_eq_valid hdescription
  obtain ⟨_, displayName, hname', -, rfl⟩ := Checked.ap_eq_valid hdisplayName
  obtain ⟨patchedName, hread, rfl⟩ := Checked.map_eq_valid hname'
  -- a name that is null is left alone like one that is absent
  obtain rfl := Option.join_eq_some_iff.1 hname
  obtain ⟨d, hread⟩ := Validation.patched_eq_valid hread
  exact Validation.length_of_text (Validation.nullable_eq_ok hread)

end Body

theorem Payload.fields_eq_valid {α : Type} {p : Payload} {read : List Place → Document → Checked α}
    {a : α} (h : p.fields read = .valid a) : ∃ base d, read base d = .valid a := by
  unfold fields at h
  split at h
  · simp at h
  · simp at h
  · exact ⟨_, _, h⟩
  · simp at h

/-- The names that an operation gives to regulations are as they should be. -/
def Operation.IsNaming : Operation → Prop
  | .createRegulation _ draft => Regulation.IsName draft.name
  | .updateRegulation _ _ patch => ∀ name, patch.name = some name → Regulation.IsName name
  | _ => True

/-- An operation that requests can ask for: it neither seeds the catalog nor puts a remark into the
trail. -/
def Operation.IsPosed : Operation → Prop
  | .seedTypes _ | .remark _ => False
  | _ => True

namespace Target

theorem posed_of_operation? {t : Target} {verb : Verb} {check : Check Operation} {query : Text}
    {body : Payload} {op : Operation} (hcheck : t.operation? verb = some check)
    (hop : check query body = .valid op) : op.IsPosed ∧ op.IsNaming := by
  unfold operation? at hcheck
  -- only creations and updates have a body with a name
  split at hcheck <;> cases hcheck
  case h_1 => cases hop; exact ⟨trivial, trivial⟩
  case h_2 | h_3 | h_4 =>
    obtain ⟨_, -, rfl⟩ := Checked.map_eq_valid hop
    exact ⟨trivial, trivial⟩
  case h_5 =>
    obtain ⟨project, draft, -, hdraft, rfl⟩ := Checked.map₂_eq_valid hop
    obtain ⟨base, d, hread⟩ := Payload.fields_eq_valid hdraft
    exact ⟨trivial, Body.isName_of_draft hread⟩
  case h_7 | h_10 =>
    obtain ⟨_, patch, hpath, hpatch, rfl⟩ := Checked.ap_eq_valid hop
    obtain ⟨project, address, -, -, rfl⟩ := Checked.map₂_eq_valid hpath
    obtain ⟨base, d, hread⟩ := Payload.fields_eq_valid hpatch
    exact ⟨trivial, fun name hname => Body.isName_of_patch hread hname⟩
  case h_13 | h_14 =>
    obtain ⟨_, -, rfl⟩ := Checked.map_eq_valid hop
    exact ⟨trivial, trivial⟩
  case h_15 | h_16 | h_17 =>
    obtain ⟨_, _, -, -, rfl⟩ := Checked.map₂_eq_valid hop
    exact ⟨trivial, trivial⟩
  all_goals
    obtain ⟨_, _, -, -, rfl⟩ := Checked.map₂_eq_valid hop
    exact ⟨trivial, trivial⟩

theorem operation?_of_demand? {t : Target} {verb : Verb} {check : Check Demand} {query : Text}
    {body : Payload} {op : Operation} (hcheck : t.demand? verb = some check)
    (hop : check query body = .valid (.operation op)) :
    ∃ check, t.operation? verb = some check ∧ check query body = .valid op := by
  unfold demand? at hcheck
  split at hcheck
  iterate 3
    · cases hcheck
      simp at hop
  · obtain ⟨inner, hinner, rfl⟩ := Option.map_eq_some_iff.1 hcheck
    refine ⟨inner, hinner, ?_⟩
    cases hread : inner query body with
    | valid o => simpa [hread, Checked.map] using hop
    | invalid vs => simp [hread, Checked.map] at hop

end Target

/-! ### The operation of a request -/

namespace Server

variable {settings : Settings} {outage : Option Text} {ctx : Context} {s : Store} {r : Request}
variable {op : Operation}

/-- The context in which the operation of a request is carried out. -/
def contextOf (ctx : Context) (r : Request) : Context :=
  { ctx with
    user := match r.caller with
      | .user id => some id
      | _ => none
    address := r.client }

/-- The operation that a request asks for, if it gets that far. -/
def operationOf? (settings : Settings) (r : Request) : Option Operation :=
  if (CrossOrigin.preflight? settings.origins r).isSome ∨ r.caller = .unreadable then none
  else
    match (Target.ofPath? r.path).map (demandOf r) with
    | some (.ok (.operation op)) => some op
    | _ => none

/-- The response that tells of an operation. -/
def present (settings : Settings) (r : Request) (op : Operation) (result : Except Fault Answer) :
    Response :=
  let response :=
    match result with
    | .ok answer =>
      if isWritable answer then documentResponse (statusOf op) (documentOf op answer) else none
    | .error f => faultResponse f
  match response with
  | some response => CrossOrigin.marked settings.origins r response.labelled
  | none => Response.failure.labelled

theorem status_documentResponse {status : Nat} {d : Document} {response : Response}
    (h : documentResponse status d = some response) : response.status = status := by
  unfold documentResponse at h
  split at h
  · rw [← Option.some.inj h]
  · simp at h

/-- An operation that is carried out is answered with its status, if its answer can be shown. -/
theorem status_present_ok {answer : Answer} :
    (present settings r op (.ok answer)).status = statusOf op ∨
      (present settings r op (.ok answer)).status = 500 := by
  unfold present
  dsimp only
  split
  · next response hresponse =>
    split at hresponse
    · have hstatus : response.status = statusOf op := status_documentResponse hresponse
      exact .inl hstatus
    · simp at hresponse
  · exact .inr rfl

/-- An operation that fails is answered with the status of its fault. -/
theorem status_present_error {f : Fault} :
    (present settings r op (.error f)).status = f.status := by
  cases f <;> rfl

/-- An operation that fails is answered as a failure. -/
theorem le_status_present_error {f : Fault} :
    400 ≤ (present settings r op (.error f)).status := by
  rw [status_present_error]
  cases f <;> simp [Fault.status]

/-- A demand was checked by its target for the method of the request. -/
theorem demandOf_eq_ok {t : Target} {demand : Demand} (h : demandOf r t = .ok demand) :
    ∃ verb check body, Verb.ofName? r.method = some verb ∧ t.demand? verb = some check ∧
      check r.query body = .valid demand := by
  unfold demandOf at h
  split at h
  · simp at h
  · next verb check hverb =>
    split at h
    · simp at h
    · next body _ =>
      split at h
      · next d hcheck =>
        obtain rfl := Except.ok.inj h
        obtain ⟨v, hname, hv⟩ := Option.bind_eq_some_iff.1 hverb
        obtain ⟨c, hc, hpair⟩ := Option.map_eq_some_iff.1 hv
        cases hpair
        exact ⟨verb, check, body, hname, hc, hcheck⟩
      · simp at h

/-- A request that asks for an operation is no preflight, has a readable user and a target. -/
theorem operationOf?_eq_some (h : operationOf? settings r = some op) :
    CrossOrigin.preflight? settings.origins r = none ∧ r.caller ≠ .unreadable ∧
      ∃ t, Target.ofPath? r.path = some t ∧ demandOf r t = .ok (.operation op) := by
  unfold operationOf? at h
  split at h
  · simp at h
  · next hearly =>
    obtain ⟨hpreflight, hcaller⟩ := not_or.1 hearly
    split at h
    · next o hdemand =>
      obtain rfl := Option.some.inj h
      obtain ⟨t, ht, hdemand⟩ := Option.map_eq_some_iff.1 hdemand
      exact ⟨by simpa using hpreflight, hcaller, t, ht, hdemand⟩
    · simp at h

theorem posed_of_operationOf? (h : operationOf? settings r = some op) :
    op.IsPosed ∧ op.IsNaming := by
  obtain ⟨-, -, t, -, hdemand⟩ := operationOf?_eq_some h
  obtain ⟨verb, check, body, -, hcheck, hvalid⟩ := demandOf_eq_ok hdemand
  obtain ⟨inner, hinner, hop⟩ := Target.operation?_of_demand? hcheck hvalid
  exact Target.posed_of_operation? hinner hop

theorem isPosed_of_operationOf? (h : operationOf? settings r = some op) : op.IsPosed :=
  (posed_of_operationOf? h).1

theorem isNaming_of_operationOf? (h : operationOf? settings r = some op) : op.IsNaming :=
  (posed_of_operationOf? h).2

/-- A request that asks for an operation has the outcome of the operation. -/
theorem handle_of_operation (h : operationOf? settings r = some op) :
    handle settings outage ctx s r =
      ((op.run (contextOf ctx r)).perform s).map (present settings r op) := by
  obtain ⟨hpreflight, hcaller, t, ht, hdemand⟩ := operationOf?_eq_some h
  -- whoever the caller is, the demand is answered in the context of the request
  have hrespond : respond settings outage ctx s r =
      answerTo settings outage (contextOf ctx r) s r := by
    unfold respond contextOf
    split
    · next hunreadable => exact absurd hunreadable hcaller
    · next hanonymous => rw [hanonymous]
    · next id hid => rw [hid]
  simp only [handle, hpreflight, hrespond, answerTo, ht, hdemand, fulfil]
  rfl

/-- What is not an operation is answered from the settings and the database alone. -/
theorem answerTo_of_no_operation
    (h : ∀ t op, Target.ofPath? r.path = some t → demandOf r t ≠ .ok (.operation op)) :
    ∃ response, ∀ s, answerTo settings outage ctx s r = ⟨response, s, []⟩ := by
  unfold answerTo
  split
  · exact ⟨_, fun _ => rfl⟩
  · next t ht =>
    split
    · next demand hdemand =>
      cases demand with
      | health | page => exact ⟨_, fun _ => rfl⟩
      | operation op => exact absurd hdemand (h t op ht)
    · exact ⟨_, fun _ => rfl⟩

/-- A request that asks for none is answered without a look at the store. -/
theorem exists_handle_eq (h : operationOf? settings r = none) :
    ∃ response, ∀ s, handle settings outage ctx s r = ⟨response, s, []⟩ := by
  unfold handle
  split
  · exact ⟨_, fun _ => rfl⟩
  · next hpreflight =>
    -- a caller that can be read and an operation to ask for would make an operation of the request
    have hnone (hcaller : r.caller ≠ .unreadable) (t : Target) (op : Operation)
        (ht : Target.ofPath? r.path = some t) : demandOf r t ≠ .ok (.operation op) := by
      intro hdemand
      simp [operationOf?, hpreflight, hcaller, ht, hdemand] at h
    have hrespond : ∃ response, ∀ s, respond settings outage ctx s r = ⟨response, s, []⟩ := by
      unfold respond
      split
      · exact ⟨_, fun _ => rfl⟩
      · next hcaller => exact answerTo_of_no_operation (hnone (by simp [hcaller]))
      · next id hcaller => exact answerTo_of_no_operation (hnone (by simp [hcaller]))
    obtain ⟨response, hresponse⟩ := hrespond
    simp only [hresponse, Written.map]
    exact ⟨_, fun _ => rfl⟩

/-- A request that asks for none leaves the store alone and announces nothing. -/
theorem handle_of_none (h : operationOf? settings r = none) :
    (handle settings outage ctx s r).store = s ∧
      (handle settings outage ctx s r).announcements = [] := by
  obtain ⟨response, hresponse⟩ : ∃ response, ∀ s, handle settings outage ctx s r =
    ⟨response, s, []⟩ := exists_handle_eq h
  rw [hresponse]
  exact ⟨rfl, rfl⟩

/-- What becomes of the store and what is announced is that of the operation of the request, when
it is carried out; in all other cases nothing happens. -/
theorem handle_cases (hs : s.Consistent) :
    (∃ op answer, operationOf? settings r = some op ∧
      ((op.run (contextOf ctx r)).perform s).answer = .ok answer ∧
      Operation.Outcome (contextOf ctx r) s op answer (handle settings outage ctx s r).store
        (handle settings outage ctx s r).announcements) ∨
    (handle settings outage ctx s r).store = s ∧
      (handle settings outage ctx s r).announcements = [] := by
  cases hop : operationOf? settings r with
  | none => exact .inr (handle_of_none hop)
  | some op =>
    rw [handle_of_operation hop]
    cases hanswer : ((op.run (contextOf ctx r)).perform s).answer with
    | ok answer => exact .inl ⟨op, answer, rfl, hanswer, Operation.outcome_of_perform hs hanswer⟩
    | error f => exact .inr ((Operation.run_leads hs op).perform_error hanswer)

end Server

end ComplianceRegistry
