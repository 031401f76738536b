import ComplianceRegistry.Proofs.Arrivals

/-!
# Requests below a project

A path below a project names the project in one of its segments, and whatever is asked for there is
an operation of that project: it writes to the regulations of the project and to their statuses, and
to nothing else but the trail. What is asked for by `GET` only reads.

## Main definitions

* `Request.IsUnder` — the path of the request lies below the project
* `Operation.project?` — the project of an operation
* `Store.regulationsOutside`, `Store.statusesOutside` — the rows of all other projects

## Main results

* `Server.project?_of_isUnder` — what requests below a project ask for
* `Operation.Outcome.regulationsOutside_eq`, `Operation.Outcome.statusesOutside_eq` — an operation
  of a project leaves the others alone
-/

namespace ComplianceRegistry

/-! ### Paths -/

/-- The path of the request lies below the project: after the words of the interface comes a
segment that reads as the id of the project. -/
def Request.IsUnder (r : Request) (project : Int) : Prop :=
  ∃ (text : Text) (rest : List Text),
    Text.splitOn (CodePoint.ofChar '/') r.path = [] :: "api" :: "v1" :: "projects" :: text :: rest ∧
      Validation.integer (.text text) = .ok project

theorem CodePoint.isChar_iff {c : CodePoint} {x : Char} : c.isChar x ↔ c = ofChar x := by
  simp [isChar, Fin.ext_iff, ofChar]

/-- A text that starts with an empty part starts with the separator. -/
theorem Text.eq_cons_of_splitOn {separator : CodePoint} {t part : Text} {parts : List Text}
    (h : splitOn separator t = [] :: part :: parts) :
    ∃ rest, t = separator :: rest ∧ splitOn separator rest = part :: parts := by
  cases t with
  | nil => simp [splitOn] at h
  | cons c rest =>
    by_cases hc : c = separator
    · subst hc
      rw [splitOn, if_pos rfl] at h
      exact ⟨rest, rfl, (List.cons.inj h).2⟩
    · rw [splitOn, if_neg hc] at h
      split at h <;> simp at h

/-- The project whose regulations an operation is about. -/
def Operation.project? : Operation → Option Int
  | .listRegulations p | .getRegulation p _ | .createRegulation p _ | .updateRegulation p _ _
  | .deleteRegulation p _ | .listStatuses p _ | .getStatus p _ _ | .setValue p _ _ _ _
  | .setCompliance p _ _ _ | .report p _ _ _ _ | .deleteStatus p _ _ => some p
  | _ => none

namespace Target

/-- The text that names the project of a target. -/
def project? : Target → Option Text
  | .regulations p | .regulation p _ | .regulationNamed p _ | .versionStatuses p _ | .status p _ _
  | .value p _ _ | .compliance p _ _ | .report p _ _ => some p
  | _ => none

variable {t : Target} {project text : Text} {segments : List Text}

/-- The targets of a regulation and a version. -/
theorem ofPair?_eq_some {regulation version last : Text}
    (h : ofPair? project regulation version last = some t) :
    t = .value project regulation version ∨ t = .compliance project regulation version ∨
      t = .report project regulation version ∨ t = .status project regulation version := by
  unfold ofPair? at h
  split_ifs at h <;> simp [Option.some.inj h]

theorem project?_of_ofPair? {regulation version last : Text}
    (h : ofPair? project regulation version last = some t) : t.project? = some project := by
  rcases ofPair?_eq_some h with rfl | rfl | rfl | rfl <;> rfl

theorem project?_of_inProject? (h : inProject? project segments = some t) :
    t.project? = some project := by
  unfold inProject? at h
  split at h
  · split at h
    · cases h; rfl
    · simp at h
  · split at h
    · cases h; rfl
    · simp at h
  · split at h
    · cases h; rfl
    · split at h
      · cases h; rfl
      · simp at h
  · split at h
    · exact project?_of_ofPair? h
    · simp at h
  · simp at h

/-- A path below a project names a target of the project. -/
theorem project?_of_isUnder {r : Request} {p : Int} (hr : r.IsUnder p)
    (ht : ofPath? r.path = some t) :
    ∃ text, t.project? = some text ∧ Validation.integer (.text text) = .ok p := by
  obtain ⟨text, rest, hpath, hp⟩ := hr
  obtain ⟨path, hslash, hsegments⟩ := Text.eq_cons_of_splitOn hpath
  rw [hslash] at ht
  simp only [ofPath?, CodePoint.isChar_iff, if_true, hsegments] at ht
  refine ⟨text, ?_, hp⟩
  simp only [ofSegments?, inInterface?, true_and, and_self, if_true] at ht
  split at ht
  · exact project?_of_inProject? ht
  · have hword : ("projects" : Text) ≠ "regulations" := by decide
    simp [hword] at ht

/-- A target of a project asks for operations of the project, and for reads alone by `GET`. -/
theorem project?_of_operation? {verb : Verb} {check : Check Operation} {query : Text}
    {body : Payload} {op : Operation} {p : Int} (ht : t.project? = some text)
    (hp : Validation.integer (.text text) = .ok p) (hcheck : t.operation? verb = some check)
    (hop : check query body = .valid op) :
    op.project? = some p ∧ (verb = .get → op.IsRead) := by
  have hproject {q : Int} (h : Demand.pathInteger "project_id" text = .valid q) : q = p :=
    Except.ok.inj ((Validation.ofRead_eq_valid h).symm.trans hp)
  have hpair {regulation version : Text} {keys : Int × Int × Text}
      (h : Demand.pair text regulation version = .valid keys) : keys.1 = p := by
    unfold Demand.pair at h
    obtain ⟨_, v, hids, -, rfl⟩ := Checked.ap_eq_valid h
    obtain ⟨q, r, hq, -, rfl⟩ := Checked.map₂_eq_valid hids
    exact hproject hq
  unfold operation? at hcheck
  split at hcheck <;> cases hcheck
  case h_1 | h_2 | h_3 => simp [project?] at ht
  all_goals obtain rfl := Option.some.inj ht
  case h_4 =>
    obtain ⟨q, hq, rfl⟩ := Checked.map_eq_valid hop
    exact ⟨congrArg some (hproject hq), fun _ => trivial⟩
  case h_6 | h_9 | h_12 =>
    obtain ⟨q, _, hq, -, rfl⟩ := Checked.map₂_eq_valid hop
    exact ⟨congrArg some (hproject hq), fun _ => trivial⟩
  case h_5 | h_8 | h_11 =>
    obtain ⟨q, _, hq, -, rfl⟩ := Checked.map₂_eq_valid hop
    exact ⟨congrArg some (hproject hq), nofun⟩
  case h_7 | h_10 =>
    obtain ⟨_, patch, h, -, rfl⟩ := Checked.ap_eq_valid hop
    obtain ⟨q, address, hq, -, rfl⟩ := Checked.map₂_eq_valid h
    exact ⟨congrArg some (hproject hq), nofun⟩
  case h_13 =>
    obtain ⟨keys, hkeys, rfl⟩ := Checked.map_eq_valid hop
    exact ⟨congrArg some (hpair hkeys), fun _ => trivial⟩
  case h_14 =>
    obtain ⟨keys, hkeys, rfl⟩ := Checked.map_eq_valid hop
    exact ⟨congrArg some (hpair hkeys), nofun⟩
  case h_15 | h_16 | h_17 =>
    obtain ⟨keys, _, hkeys, -, rfl⟩ := Checked.map₂_eq_valid hop
    exact ⟨congrArg some (hpair hkeys), nofun⟩

end Target

namespace Server

variable {settings : Settings} {r : Request} {p : Int} {op : Operation}

/-- A request below a project asks for an operation of the project, and for a read by `GET`. -/
theorem project?_of_isUnder (hr : r.IsUnder p) (hop : operationOf? settings r = some op) :
    op.project? = some p ∧ (r.method = ("GET" : Text) → op.IsRead) := by
  obtain ⟨-, -, t, ht, hdemand⟩ := operationOf?_eq_some hop
  obtain ⟨text, htext, hp⟩ := Target.project?_of_isUnder hr ht
  obtain ⟨verb, check, body, hverb, hcheck, hvalid⟩ := demandOf_eq_ok hdemand
  obtain ⟨inner, hinner, hinnerop⟩ := Target.operation?_of_demand? hcheck hvalid
  obtain ⟨hproject, hread⟩ := Target.project?_of_operation? htext hp hinner hinnerop
  refine ⟨hproject, fun hget => hread ?_⟩
  have hname : Verb.ofName? r.method = some .get := hget ▸ Verb.ofName?_name .get
  exact Option.some.inj (hverb.symm.trans hname)

end Server

/-! ### Rows of other projects -/

namespace Store

/-- The regulations of all projects but one. -/
def regulationsOutside (s : Store) (project : Int) : List Regulation :=
  s.regulations.filter fun r => r.projectId ≠ project

/-- The statuses of the regulations of all projects but one. -/
def statusesOutside (s : Store) (project : Int) : List Status :=
  s.statuses.filter fun st =>
    (s.regulationsOutside project).any fun r => r.id = st.regulationId

variable {s after : Store} {p : Int} {r : Regulation}

theorem regulationId_ne_of_outside {regulationId : Int} (hs : s.Consistent) (hr : r ∈ s.regulations)
    (hproject : r.projectId = p)
    (h : (s.regulationsOutside p).any fun g => g.id = regulationId) : regulationId ≠ r.id := by
  obtain ⟨g, hg, hid⟩ := List.any_eq_true.1 h
  obtain ⟨hmem, hother⟩ := List.mem_filter.1 hg
  rintro rfl
  -- the regulation would be one of the project and one of another
  obtain rfl : g = r := eq_of_key_eq hs.regulationIds hmem hr (of_decide_eq_true hid)
  simp [hproject] at hother

end Store

namespace Operation.Outcome

variable {ctx : Context} {s after : Store} {op : Operation} {answer : Answer} {p : Int}
variable {announcements : List Announcement}

/-- An operation of a project leaves the regulations of the others alone. -/
theorem regulationsOutside_eq (hs : s.Consistent) (hop : op.project? = some p)
    (h : Outcome ctx s op answer after announcements) :
    after.regulationsOutside p = s.regulationsOutside p := by
  unfold Store.regulationsOutside
  cases h with
  | seeded | remarked => simp [project?] at hop
  | read => rfl
  | created h =>
    obtain rfl := Option.some.inj hop
    rw [h.regulations_eq, List.filter_append, h.row_eq]
    simp [Regulations.fresh]
  | @updated project address patch before view _ h =>
    obtain rfl := Option.some.inj hop
    have hproject : before.projectId = project := (Regulations.mem_of_find_eq_ok h.found).2
    rw [h.regulations_eq hs]
    refine filter_putById ?_ fun r hr hid => ?_
    · simp [h.life_eq.2.1, hproject]
    · obtain rfl : r = before :=
        eq_of_key_eq hs.regulationIds hr h.before_mem (hid.trans h.life_eq.1)
      simp [hproject]
  | @deleted project address view _ h =>
    obtain rfl := Option.some.inj hop
    obtain ⟨hmem, hproject⟩ := Regulations.mem_of_find_eq_ok h.found
    rw [h.regulations_eq, List.filter_filter]
    refine List.filter_congr fun r hr => ?_
    by_cases hid : r.id = view.regulation.id
    · obtain rfl := eq_of_key_eq hs.regulationIds hr hmem hid
      simp [hproject]
    · simp [hid]
  | upserted hpair hwrites h => rw [h.regulations_eq]
  | statusDeleted hpair h => rw [h.after_eq]; rfl

/-- An operation of a project leaves the statuses of the others alone. -/
theorem statusesOutside_eq (hs : s.Consistent) (hop : op.project? = some p)
    (h : Outcome ctx s op answer after announcements) :
    after.statusesOutside p = s.statusesOutside p := by
  unfold Store.statusesOutside
  rw [h.regulationsOutside_eq hs hop]
  cases h with
  | seeded | remarked => simp [project?] at hop
  | read => rfl
  | created h => rw [h.statuses_eq]
  | updated h => rw [h.rewritten.statuses_eq]
  | @deleted project address view _ h =>
    obtain rfl := Option.some.inj hop
    obtain ⟨hmem, hproject⟩ := Regulations.mem_of_find_eq_ok h.found
    rw [h.after_eq]
    change (s.statuses.filter _).filter _ = _
    rw [List.filter_filter]
    refine List.filter_congr fun st _ => ?_
    by_cases houtside : (s.regulationsOutside project).any fun g => g.id = st.regulationId
    · have hne := Store.regulationId_ne_of_outside hs hmem hproject houtside
      simp [houtside, hne]
    · simp [houtside]
  | @upserted op project regulation catalogId r v w view _ hpair hwrites h =>
    have hproject : r.projectId = p := by
      rw [hpair.regulation_project]
      cases hwrites <;> exact Option.some.inj hop
    have hother {st : Status} (hst : st.regulationId = r.id) :
        ((s.regulationsOutside p).any fun g => g.id = st.regulationId) = false := by
      by_contra houtside
      exact Store.regulationId_ne_of_outside hs hpair.regulation_mem hproject
        (Bool.not_eq_false _ ▸ houtside) hst
    cases h with
    | added hnone hrow hwritten =>
      have hst : view.status.regulationId = r.id := by
        rw [hrow, Statuses.apply_regulationId]
        rfl
      change (s.statuses ++ [view.status]).filter _ = _
      rw [List.filter_append, List.filter_singleton, hother hst]
      simp
    | @replaced st hsome hrow hwritten =>
      have hold := List.mem_of_head? hsome
      have hkeys := Statuses.keys_of_mem_statusesAt hold
      refine filter_putById (hother ?_) fun u hu hid => hother ?_
      · rw [hrow]
        exact Statuses.apply_regulationId.trans hkeys.1
      · obtain rfl : u = st := eq_of_key_eq hs.statusIds hu (List.mem_of_mem_filter hold)
          (by simpa [hrow] using hid)
        exact hkeys.1
  | @statusDeleted project regulation catalogId r v st _ hpair h =>
    obtain rfl := Option.some.inj hop
    have hst : st ∈ s.statusesAt r.id v.id := h.found ▸ List.mem_singleton_self st
    rw [h.after_eq]
    change (s.statuses.filter _).filter _ = _
    rw [List.filter_filter]
    refine List.filter_congr fun u hu => ?_
    by_cases houtside : (s.regulationsOutside project).any fun g => g.id = u.regulationId
    · have hne : u.id ≠ st.id := by
        intro hid
        obtain rfl : u = st := eq_of_key_eq hs.statusIds hu (List.mem_of_mem_filter hst) hid
        exact Store.regulationId_ne_of_outside hs hpair.regulation_mem hpair.regulation_project
          houtside (Statuses.keys_of_mem_statusesAt hst).1
      simp [houtside, hne]
    · simp [houtside]

end Operation.Outcome

end ComplianceRegistry
