import ComplianceRegistry.Proofs.Addresses
import ComplianceRegistry.Proofs.Asking

/-!
# Paths of regulations by name

The path of a regulation by its name ends with the name as it is. A name is one segment of the path
if it has no slash, and then the path leads to the regulation: the target carries exactly that name,
and whatever is asked for there comes to what comes of it by id.

A name may be any text of 1 to 200 code points, and a slash in it makes several segments. No request
to such a path ever asks for an operation, so that a regulation of such a name is not reached by it.

## Main definitions

* `Target.byNamePath` — the path of a regulation by its name
* `Request.Carries` — a request has the method and the body for an errand

## Main results

* `Target.ofPath?_byNamePath` — a name without a slash is carried by the target as it is
* `Server.operationOf?_byNamePath` — what a request to the path asks for
* `Server.operationOf?_of_slash` — a name with a slash is asked for nothing
* `World.names_address` — which regulations are reached by name, after every run of requests
-/

namespace ComplianceRegistry

/-- What stands between the segments of a path. -/
def CodePoint.slash : CodePoint := .ofChar '/'

/-! ### Segments -/

namespace Text

variable {separator : CodePoint} {t rest : Text}

/-- A text without the separator is its only part. -/
theorem splitOn_of_notMem (h : separator ∉ t) : splitOn separator t = [t] := by
  induction t with
  | nil => rfl
  | cons c t ih =>
    obtain ⟨hc, ht⟩ := not_or.1 (List.mem_cons.not.1 h)
    rw [splitOn, if_neg (Ne.symm hc), ih ht]

/-- What comes before the first separator is the first part. -/
theorem splitOn_append (h : separator ∉ t) :
    splitOn separator (t ++ separator :: rest) = t :: splitOn separator rest := by
  induction t with
  | nil => exact if_pos rfl
  | cons c t ih =>
    obtain ⟨hc, ht⟩ := not_or.1 (List.mem_cons.not.1 h)
    rw [List.cons_append, splitOn, if_neg (Ne.symm hc), ih ht]

theorem splitOn_ne_nil : splitOn separator t ≠ [] := by
  intro h
  cases t with
  | nil => cases h
  | cons c t =>
    unfold splitOn at h
    split at h
    · cases h
    · split at h
      · cases h
      · cases h

/-- A separator makes two parts at least. -/
theorem exists_splitOn_of_mem (h : separator ∈ t) :
    ∃ first second others, splitOn separator t = first :: second :: others := by
  obtain ⟨first, rest, rfl, hfirst⟩ := List.eq_append_cons_of_mem h
  obtain ⟨second, others, hrest⟩ := List.exists_cons_of_ne_nil
    (splitOn_ne_nil : splitOn separator rest ≠ [])
  exact ⟨first, second, others, by rw [splitOn_append hfirst, hrest]⟩

end Text

/-- A text that reads as an integer is not empty. -/
theorem Validation.ne_nil_of_integer {t : Text} {n : Int} (h : integer (.text t) = .ok n) :
    t ≠ [] := by
  rintro rfl
  cases h

/-! ### Targets -/

namespace Target

variable {project name : Text} {t : Target}

/-- The path of a regulation by its name; the project is named by a text. -/
def byNamePath (project name : Text) : Text :=
  ("/api/v1/projects/" : Text) ++ project ++ ("/regulations/by-name/" : Text) ++ name

/-- The segments of the path are words, the text of the project, and the segments of the name. -/
theorem ofPath?_eq_inProject? (hproject : CodePoint.slash ∉ project) (hne : project ≠ []) :
    ofPath? (byNamePath project name) =
      inProject? project ("regulations" :: "by-name" :: Text.splitOn .slash name) := by
  have hpath : byNamePath project name = CodePoint.slash :: (("api" : Text) ++ CodePoint.slash ::
      (("v1" : Text) ++ CodePoint.slash :: (("projects" : Text) ++ CodePoint.slash ::
      (project ++ CodePoint.slash :: (("regulations" : Text) ++ CodePoint.slash ::
      (("by-name" : Text) ++ CodePoint.slash :: name)))))) := by
    have hfront : ("/api/v1/projects/" : Text) = CodePoint.slash :: (("api" : Text) ++
        CodePoint.slash :: (("v1" : Text) ++ CodePoint.slash :: (("projects" : Text) ++
        [CodePoint.slash]))) := by decide
    have hmiddle : ("/regulations/by-name/" : Text) = CodePoint.slash :: (("regulations" : Text) ++
        CodePoint.slash :: (("by-name" : Text) ++ [CodePoint.slash])) := by decide
    simp [byNamePath, hfront, hmiddle]
  have hslash : CodePoint.slash.isChar '/' := by decide
  rw [hpath, ofPath?, if_pos hslash]
  change ofSegments? (Text.splitOn .slash _) = _
  rw [Text.splitOn_append (by decide), Text.splitOn_append (by decide),
    Text.splitOn_append (by decide), Text.splitOn_append hproject,
    Text.splitOn_append (by decide), Text.splitOn_append (by decide)]
  simp [ofSegments?, inInterface?, hne]

/-- A name without a slash is carried by the target as it is. -/
theorem ofPath?_byNamePath (hproject : CodePoint.slash ∉ project) (hne : project ≠ [])
    (hname : CodePoint.slash ∉ name) (hsome : name ≠ []) :
    ofPath? (byNamePath project name) = some (.regulationNamed project name) := by
  rw [ofPath?_eq_inProject? hproject hne, Text.splitOn_of_notMem hname]
  simp [inProject?, hsome]

/-- A name with a slash names nothing, or it is taken for a regulation with the id `by-name` and a
version. -/
theorem ofPath?_of_slash (hproject : CodePoint.slash ∉ project) (hne : project ≠ [])
    (hname : CodePoint.slash ∈ name) :
    ofPath? (byNamePath project name) = none ∨ ∃ version last,
      ofPath? (byNamePath project name) = ofPair? project "by-name" version last := by
  rw [ofPath?_eq_inProject? hproject hne]
  obtain ⟨first, second, others, hparts⟩ := Text.exists_splitOn_of_mem hname
  rw [hparts]
  match others with
  | [] => exact .inl rfl
  | [last] =>
    simp only [inProject?]
    split
    · exact .inr ⟨second, last, rfl⟩
    · exact .inl rfl
  | _ :: _ :: _ => exact .inl rfl

end Target

/-! ### What is asked for -/

/-- The method by which an errand is asked for. -/
def Errand.verb : Errand → Verb
  | .get => .get
  | .update _ => .put
  | .delete => .delete

/-- A request has the method and the body for an errand. -/
structure Request.Carries (r : Request) (errand : Errand) : Prop where
  method_eq : r.method = errand.verb.name
  body : ∀ patch, errand = .update patch →
    ∃ body, r.payload = .ok body ∧ body.fields Body.patch = .valid patch

namespace Target

variable {t : Target} {project name regulation version last query : Text} {verb : Verb}
variable {check : Check Operation} {body : Payload} {op : Operation} {p : Int}

theorem pathInteger_eq_valid {label : Text} (h : Validation.integer (.text project) = .ok p) :
    Demand.pathInteger label project = .valid p := by
  simp [Demand.pathInteger, h, Checked.ofRead]

theorem named_eq_valid : Demand.named name = .valid (.byName (some name)) := rfl

/-- The target of a name is asked for nothing but errands to the regulation of that name. -/
theorem exists_errand_of_named (hproject : Validation.integer (.text project) = .ok p)
    (hcheck : (regulationNamed project name).operation? verb = some check)
    (hop : check query body = .valid op) :
    ∃ errand : Errand, op = errand.operation p (.byName (some name)) := by
  have hp : Demand.pathInteger "project_id" project = .valid p := pathInteger_eq_valid hproject
  cases verb with
  | get =>
    obtain rfl := Option.some.inj hcheck
    rw [hp, named_eq_valid] at hop
    exact ⟨.get, (Checked.valid.inj hop).symm⟩
  | put =>
    obtain rfl := Option.some.inj hcheck
    rw [hp, named_eq_valid] at hop
    obtain ⟨f, patch, hf, -, rfl⟩ := Checked.ap_eq_valid hop
    obtain rfl := Checked.valid.inj hf
    exact ⟨.update patch, rfl⟩
  | delete =>
    obtain rfl := Option.some.inj hcheck
    rw [hp, named_eq_valid] at hop
    exact ⟨.delete, (Checked.valid.inj hop).symm⟩
  | head | post => cases hcheck

/-- What is asked for a regulation and a version names the regulation by an integer. -/
theorem integer_of_pair (ht : ofPair? project regulation version last = some t)
    (hcheck : t.operation? verb = some check) (hop : check query body = .valid op) :
    ∃ id, Validation.integer (.text regulation) = .ok id := by
  have hpair {keys : Int × Int × Text}
      (h : Demand.pair project regulation version = .valid keys) :
      ∃ id, Validation.integer (.text regulation) = .ok id := by
    unfold Demand.pair at h
    obtain ⟨_, v, hids, -, rfl⟩ := Checked.ap_eq_valid h
    obtain ⟨q, r, -, hr, rfl⟩ := Checked.map₂_eq_valid hids
    exact ⟨r, Validation.ofRead_eq_valid hr⟩
  rcases ofPair?_eq_some ht with rfl | rfl | rfl | rfl
  case inr.inr.inr =>
    cases verb <;> cases hcheck
    all_goals
      obtain ⟨keys, hkeys, -⟩ := Checked.map_eq_valid hop
      exact hpair hkeys
  -- a value, a compliance and a report have a body beside the keys
  all_goals
    cases verb <;> cases hcheck
    obtain ⟨keys, _, hkeys, -, -⟩ := Checked.map₂_eq_valid hop
    exact hpair hkeys

end Target

namespace Server

variable {settings : Settings} {request : Request} {project name : Text} {p : Int} {op : Operation}
variable {errand : Errand}

/-- A request for an errand is no preflight. -/
theorem preflight?_of_carries (h : request.Carries errand) :
    CrossOrigin.preflight? settings.origins request = none := by
  have hother (verb : Verb) : verb.name ≠ ("OPTIONS" : Text) := by cases verb <;> decide
  have hmethod : request.method ≠ ("OPTIONS" : Text) := h.method_eq ▸ hother errand.verb
  unfold CrossOrigin.preflight?
  split
  · exact if_neg hmethod
  · rfl

/-- A request that passes the check of a target makes its demand. -/
theorem demandOf_of_valid {t : Target} {verb : Verb} {check : Check Demand} {body : Payload}
    {demand : Demand} (hverb : Verb.ofName? request.method = some verb)
    (hcheck : t.demand? verb = some check)
    (hbody : (if verb.takesBody then request.payload else .ok .absent) = .ok body)
    (hvalid : check request.query body = .valid demand) : demandOf request t = .ok demand := by
  simp only [demandOf, hverb, hcheck, hbody, hvalid, Option.bind_some, Option.map_some]

section Named

variable (hproject : Validation.integer (.text project) = .ok p)

include hproject

/-- A request that comes to the target of a name asks for its errand to the regulation. -/
theorem demandOf_regulationNamed (h : request.Carries errand) :
    demandOf request (.regulationNamed project name) =
      .ok (.operation (errand.operation p (.byName (some name)))) := by
  have hp : Demand.pathInteger "project_id" project = .valid p :=
    Target.pathInteger_eq_valid hproject
  have hverb : Verb.ofName? request.method = some errand.verb :=
    h.method_eq ▸ Verb.ofName?_name errand.verb
  cases errand with
  | get =>
    refine demandOf_of_valid hverb rfl rfl ?_
    rw [hp, Target.named_eq_valid]
    rfl
  | update patch =>
    obtain ⟨body, hpayload, hpatch⟩ := h.body patch rfl
    refine demandOf_of_valid hverb rfl hpayload ?_
    dsimp only
    rw [hp, Target.named_eq_valid, hpatch]
    rfl
  | delete =>
    refine demandOf_of_valid hverb rfl rfl ?_
    rw [hp, Target.named_eq_valid]
    rfl

variable (hsegment : CodePoint.slash ∉ project)
variable (hpath : request.path = Target.byNamePath project name)

include hsegment hpath

/-- What a request to the path of a name without a slash asks for: its errand to the regulation of
that name, and nothing else. -/
theorem operationOf?_byNamePath (hname : CodePoint.slash ∉ name) (hsome : name ≠ []) :
    (∀ op, operationOf? settings request = some op →
      ∃ errand : Errand, op = errand.operation p (.byName (some name))) ∧
    (request.caller ≠ .unreadable → ∀ errand, request.Carries errand →
      operationOf? settings request = some (errand.operation p (.byName (some name)))) := by
  have htarget : Target.ofPath? request.path = some (.regulationNamed project name) := by
    rw [hpath]
    exact Target.ofPath?_byNamePath hsegment (Validation.ne_nil_of_integer hproject) hname hsome
  constructor
  · intro op hop
    obtain ⟨-, -, t, ht, hdemand⟩ := operationOf?_eq_some hop
    obtain rfl : .regulationNamed project name = t := Option.some.inj (htarget.symm.trans ht)
    obtain ⟨verb, check, body, -, hcheck, hvalid⟩ := demandOf_eq_ok hdemand
    obtain ⟨inner, hinner, hinnerop⟩ := Target.operation?_of_demand? hcheck hvalid
    exact Target.exists_errand_of_named hproject hinner hinnerop
  · intro hcaller errand hcarries
    have hpreflight : CrossOrigin.preflight? settings.origins request = none :=
      preflight?_of_carries hcarries
    simp [operationOf?, hpreflight, hcaller, htarget, demandOf_regulationNamed hproject hcarries]

/-- A request to the path of a name with a slash asks for nothing. -/
theorem operationOf?_of_slash (hname : CodePoint.slash ∈ name) :
    operationOf? settings request = none := by
  refine Option.eq_none_iff_forall_ne_some.2 fun op hop => ?_
  obtain ⟨-, -, t, ht, hdemand⟩ := operationOf?_eq_some hop
  obtain ⟨verb, check, body, -, hcheck, hvalid⟩ := demandOf_eq_ok hdemand
  obtain ⟨inner, hinner, hinnerop⟩ := Target.operation?_of_demand? hcheck hvalid
  rw [hpath] at ht
  rcases Target.ofPath?_of_slash hsegment (Validation.ne_nil_of_integer hproject) hname with
    hnone | ⟨version, last, hpair⟩
  · rw [hnone] at ht
    cases ht
  · -- the word in the place of the id is no integer
    obtain ⟨id, hid⟩ := Target.integer_of_pair (hpair ▸ ht) hinner hinnerop
    have hword : Validation.integer (.text "by-name") = .error .unreadableInteger := by decide
    rw [hword] at hid
    cases hid

end Named

end Server

/-! ### Runs -/

namespace World

variable {settings : Settings} {w : World} {arrivals : List Arrival}

/-- After every run of requests, let a request come to the path of a regulation by its name. If the
name has no slash, the target is the one of that name; what is asked for is an errand to that name
and nothing else; and a request that carries an errand, from a user who can be read, comes to what
comes of the errand to the regulation by its id, which is the only one of that name. If the name has
a slash, nothing is asked for. -/
theorem names_address (h : w.store.Initial) (hrows : w.store.Every fun r => r.check = .ok ()) :
    let s := (w.serve settings arrivals).store
    ∀ r ∈ s.regulations, ∀ project : Text, CodePoint.slash ∉ project →
      Validation.integer (.text project) = .ok r.projectId →
      ∀ a : Arrival, a.request.path = Target.byNamePath project r.name →
      (CodePoint.slash ∉ r.name →
        Target.ofPath? a.request.path = some (.regulationNamed project r.name) ∧
        (∀ op, Server.operationOf? settings a.request = some op →
          ∃ errand : Errand, op = errand.operation r.projectId (.byName (some r.name))) ∧
        (a.request.caller ≠ .unreadable → ∀ errand, a.request.Carries errand →
          let byId := errand.operation r.projectId (.byId r.id)
          a.outcome settings s =
            ((byId.run (Server.contextOf a.context a.request)).perform s).map
              (Server.present settings a.request byId)) ∧
        s.regulationsAt r.projectId (.byName (some r.name)) = [r]) ∧
      (CodePoint.slash ∈ r.name → Server.operationOf? settings a.request = none ∧
        (a.outcome settings s).store = s ∧ (a.outcome settings s).announcements = []) := by
  intro s r hr project hsegment hproject a hpath
  have hkept : s.Kept := kept_serve h
  have hstored : s.Every fun r => r.check = .ok () := storable_run hrows
  have hnamed : Address.Names (.byName (some r.name)) r := rfl
  have hfound : Regulations.find s r.projectId (.byName (some r.name)) = .ok r :=
    Regulations.find_eq_of_names hkept.toConsistent hstored hr hnamed
  refine ⟨fun hname => ?_, fun hname => ?_⟩
  · have hsome : r.name ≠ [] := List.ne_nil_of_length_pos (hkept.names r hr).1
    obtain ⟨honly, hcarried⟩ := Server.operationOf?_byNamePath hproject hsegment hpath hname hsome
    refine ⟨?_, honly, fun hcaller errand hcarries => ?_, (Regulations.find_eq_ok hfound).2⟩
    · rw [hpath]
      exact Target.ofPath?_byNamePath hsegment (Validation.ne_nil_of_integer hproject) hname hsome
    · have hbyId : Address.Names (.byId r.id) r := rfl
      have hsame : Regulations.find s r.projectId (.byName (some r.name)) =
          Regulations.find s r.projectId (.byId r.id) := by
        rw [hfound, Regulations.find_eq_of_names hkept.toConsistent hstored hr hbyId]
      intro byId
      have hpresent : Server.present settings a.request
          (errand.operation r.projectId (.byName (some r.name))) =
            Server.present settings a.request byId := Errand.present_congr
      have houtcome : a.outcome settings s = _ :=
        Server.handle_of_operation (hcarried hcaller errand hcarries)
      rw [houtcome, Errand.perform_congr hsame, hpresent]
  · have hnone : Server.operationOf? settings a.request = none :=
      Server.operationOf?_of_slash hproject hsegment hpath hname
    exact ⟨hnone, Server.handle_of_none hnone⟩

/-- A deletion by name comes to the deletion by id. -/
theorem names_address_deletion :
    let settings := Settings.ofDatabase "sqlite"
    let s := (sample.serve settings [.creation]).store
    let a := Arrival.plain "DELETE" (Target.byNamePath "1" "r") ""
    (sample.store.Initial ∧ (sample.store.Every fun r => r.check = .ok ()) ∧
      CodePoint.slash ∉ ("1" : Text) ∧ Validation.integer (.text "1") = .ok 1) ∧
    s.regulations.map (fun r => (r.name, r.projectId)) = [(("r" : Text), (1 : Int))] ∧
    ∀ r ∈ s.regulations, a.outcome settings s =
      (((Operation.deleteRegulation r.projectId (.byId r.id)).run
        (Server.contextOf a.context a.request)).perform s).map
          (Server.present settings a.request (.deleteRegulation r.projectId (.byId r.id))) := by
  intro settings s a
  have hrow : ∀ r ∈ s.regulations, r.name = ("r" : Text) ∧ r.projectId = 1 := by decide +kernel
  have hsegment : CodePoint.slash ∉ ("1" : Text) := by decide
  refine ⟨⟨Store.initial_sample, readable_sample.checked, hsegment, by decide⟩,
    by decide +kernel, fun r hr => ?_⟩
  obtain ⟨hname, hown⟩ := hrow r hr
  have hproject : Validation.integer (.text "1") = .ok r.projectId := by
    rw [hown]
    decide
  have hpath : a.request.path = Target.byNamePath "1" r.name := by
    rw [hname]
    rfl
  have hcarries : a.request.Carries .delete := ⟨rfl, nofun⟩
  have hslash : CodePoint.slash ∉ r.name := by
    rw [hname]
    decide
  have hreached := @names_address settings sample [.creation] Store.initial_sample
    readable_sample.checked r hr "1" hsegment hproject a hpath
  exact (hreached.1 hslash).2.2.1 (by decide) .delete hcarries

/-- Names with a slash are given to regulations, and yet their paths are answered with nothing, with
the way to another path, or as if a status were asked for. -/
theorem slashed_names_not_reached :
    let settings := Settings.ofDatabase "sqlite"
    let names : List (Text × Nat) := [("a/b", 404), ("a/", 307), ("versions/v/status", 422)]
    ∀ p ∈ names,
      let creation := Arrival.plain "POST" "/api/v1/projects/1/regulations"
        (("\x7b\"type_id\": 1, \"name\": \"" : Text) ++ p.1 ++ ("\"\x7d" : Text))
      let asked := Arrival.plain "GET" (Target.byNamePath "1" p.1) ""
      let s := (sample.serve settings [creation]).store
      (creation.outcome settings sample.store).answer.status = 201 ∧
        s.regulations.map (·.name) = [p.1] ∧ (asked.outcome settings s).answer.status = p.2 := by
  decide +kernel

end World

end ComplianceRegistry
