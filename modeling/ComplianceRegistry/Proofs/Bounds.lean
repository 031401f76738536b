import ComplianceRegistry.Proofs.Acceptance
import ComplianceRegistry.Proofs.Configs
import ComplianceRegistry.Proofs.Contention
import ComplianceRegistry.Proofs.Grammar

/-!
# Numbers beyond the bounds

The grammar of numbers does not bound exponents, and the numbers that can be kept are bounded. A
numeral beyond the bounds is a number to the grammar and yet cannot be read. It is the only text
that a verdict or the check of a config fails on: any other value gets its verdict and any other
config is kept or refused, and requests that send one are answered accordingly.

## Main definitions

* `Verdict.IsBeyond` — a verdict would have to compare a number beyond the bounds
* `Response.Tells` — the response has this status and shows this document
* `World.RefusesConfig` — creations and updates with this config are refused or fail
* `World.AnswersWithinBounds` — how requests with any values and configs are answered

## Main results

* `Verdict.evaluate_eq_error_iff` — when a verdict fails
* `Config.settle_eq_error_iff` — when a config is not kept
* `Statuses.report_yields` — a report whose value is within the bounds is carried out
* `World.answered_within_bounds` — so every request is answered after any requests
-/

namespace ComplianceRegistry

variable {kind : Kind} {config value : Option Text} {ctx : Context} {s : Store}

/-! ### Verdicts and configs -/

namespace Verdict

/-- The verdict would have to compare a number beyond the bounds. -/
def IsBeyond (kind : Kind) (config value : Option Text) : Prop :=
  kind = .threshold ∧
    (readOptional config = .beyondBounds ∨ readOptional value = .beyondBounds)

instance : Decidable (IsBeyond kind config value) := inferInstanceAs (Decidable (_ ∧ _))

theorem evaluate_of_isBeyond (h : IsBeyond kind config value) :
    evaluate kind.name config value = .error .numberBeyondBounds := by
  obtain ⟨rfl, h⟩ := h
  simp only [evaluate, Kind.ofName?_name, threshold]
  rcases h with h | h
  · rw [h]
    cases readOptional value <;> rfl
  · rw [h]

/-- Any other verdict is reached, whatever the texts are. -/
theorem exists_evaluate (h : ¬ IsBeyond kind config value) :
    ∃ b, evaluate kind.name config value = .ok b := by
  cases kind with
  | boolean => exact ⟨_, rfl⟩
  | junit => exact ⟨_, rfl⟩
  | threshold =>
    obtain ⟨hconfig, hvalue⟩ := not_or.1 fun hbeyond => h ⟨rfl, hbeyond⟩
    simp only [evaluate, Kind.ofName?_name, threshold]
    cases hv : readOptional value with
    | beyondBounds => exact absurd hv hvalue
    | notNumber => exact ⟨false, by cases hc : readOptional config <;> simp_all⟩
    | number v =>
      cases hc : readOptional config with
      | beyondBounds => exact absurd hc hconfig
      | notNumber => exact ⟨_, rfl⟩
      | number c => exact ⟨_, rfl⟩

/-- A verdict on a regulation of some kind fails on numbers beyond the bounds and on nothing
else. -/
theorem evaluate_eq_error_iff {f : Fault} : evaluate kind.name config value = .error f ↔
    f = .numberBeyondBounds ∧ IsBeyond kind config value := by
  by_cases h : IsBeyond kind config value
  · simp [evaluate_of_isBeyond h, h, eq_comm]
  · obtain ⟨b, hb⟩ := exists_evaluate h
    simp [hb, h]

/-- A stored config never lies beyond the bounds, so that only the value can. -/
theorem isBeyond_iff (h : Config.Grammatical kind.name config) :
    IsBeyond kind config value ↔ kind = .threshold ∧ readOptional value = .beyondBounds := by
  refine and_congr_right ?_
  rintro rfl
  obtain ⟨n, hn⟩ := h.of_threshold.readOptional_eq
  simp [hn]

end Verdict

namespace Config

open Verdict (readOptional)

theorem settle_of_ne_boolean (hkind : kind ≠ .boolean) :
    settle kind.name config =
      match readOptional config with
      | .number _ => .ok config
      | .notNumber => .error (.configNotNumber kind)
      | .beyondBounds => .error .numberBeyondBounds := by
  have hrequire : settle kind.name config = requireNumber kind config := by
    cases kind with
    | boolean => exact absurd rfl hkind
    | threshold | junit => simp only [settle, Kind.ofName?_name]
  rw [hrequire]
  cases config with
  | none => rfl
  | some t => cases hread : Number.read t <;> simp only [requireNumber, readOptional, hread]

/-- A config is refused because it is no number where there has to be one. The check itself fails on
a number beyond the bounds and on nothing else. -/
theorem settle_eq_error_iff {typeName : Text} {f : Fault} : settle typeName config = .error f ↔
    ∃ kind : Kind, kind ≠ .boolean ∧ kind.name = typeName ∧
      (readOptional config = .notNumber ∧ f = .configNotNumber kind ∨
        readOptional config = .beyondBounds ∧ f = .numberBeyondBounds) := by
  constructor
  · intro h
    cases hkind : Kind.ofName? typeName with
    | none => simp [settle, hkind] at h
    | some kind =>
      obtain rfl := Kind.name_of_ofName? hkind
      by_cases hboolean : kind = .boolean
      · subst hboolean
        simp [settle] at h
      · refine ⟨kind, hboolean, rfl, ?_⟩
        rw [settle_of_ne_boolean hboolean] at h
        cases hread : readOptional config <;> simp_all
  · rintro ⟨kind, hkind, rfl, hread⟩
    rw [settle_of_ne_boolean hkind]
    rcases hread with ⟨hread, rfl⟩ | ⟨hread, rfl⟩ <;> rw [hread]

end Config

/-! ### Reports -/

namespace Statuses

open Work

variable {project regulation : Int} {catalogId : Text} {r : Regulation} {v : Version}
variable {type : RegulationType} {details : Document} {compliant : Bool}

/-- A report for which there is a verdict is carried out, if what it sets can be stored. -/
theorem report_yields (hs : s.Consistent) (hrows : s.Every Row.IsReadable)
    (hdetails : ∀ st ∈ s.statuses, st.details.IsTellable) (hctx : ctx.IsRecordable)
    (hroom : s.HasRoom) (hpair : Pair s project regulation catalogId r v)
    (hsent : (StatusWrite.report value details compliant).IsStorable)
    (htype : Catalog.find s r.typeId = .ok type)
    (hverdict : Verdict.evaluate type.name r.config value = .ok compliant) :
    (report ctx project regulation catalogId value details).Yields (.start s) fun view τ =>
      Upserted ctx s r v (.report value details compliant) view.status τ.committed ∧
        view.catalogId = catalogId ∧ τ.announced = [] := by
  refine Yields.bind (Yields.of_query (hpair.findPair_eq hs) ?_)
  refine Yields.bind (Yields.of_query htype ?_)
  refine Yields.bind (Yields.of_lift hverdict ?_)
  exact write_yields hs hrows hsent hpair hdetails hctx hroom

/-- The row of a pair holds what was reported. -/
theorem Upserted.reported {row : Status} {after : Store}
    (h : Upserted ctx s r v (.report value details compliant) row after) :
    row.value = value ∧ row.details = details.stored ∧ row.compliant = some compliant := by
  cases h with
  | added hnone hrow hwritten => exact hrow ▸ ⟨rfl, rfl, rfl⟩
  | replaced hsome hrow hwritten => exact hrow ▸ ⟨rfl, rfl, rfl⟩

/-- A report for which there is no verdict is refused. -/
theorem report_of_refused {f : Fault} (hs : s.Consistent)
    (hpair : Pair s project regulation catalogId r v) (htype : Catalog.find s r.typeId = .ok type)
    (hverdict : Verdict.evaluate type.name r.config value = .error f) :
    report ctx project regulation catalogId value details (.start s) = (.error f, .start s) :=
  (query_bind_ok (hpair.findPair_eq hs)).trans <| (query_bind_ok htype).trans <|
    lift_bind_error hverdict

end Statuses

/-! ### Responses -/

/-- The response has this status and shows this document. -/
def Response.Tells (r : Response) (status : Nat) (d : Document) : Prop :=
  r.status = status ∧ r.content = .document d

namespace Server

variable {settings : Settings} {r : Request} {op : Operation} {answer : Answer}

theorem tells_present_ok (hwritable : isWritable answer)
    (hcarriable : (documentOf op answer).isCarriable) :
    (present settings r op (.ok answer)).Tells (statusOf op)
      (documentOf op answer).withoutInfinities := by
  simp only [present, hwritable, documentResponse, hcarriable, if_true]
  exact ⟨rfl, rfl⟩

theorem tells_present_error {f : Fault} {message : Text} (h : f.message? = some message) :
    (present settings r op (.error f)).Tells f.status (.object [("detail", .text message)]) := by
  simp only [present, faultResponse, h]
  exact ⟨rfl, rfl⟩

end Server

/-! ### Requests that are refused -/

namespace Catalog

/-- A type of the catalog is found by its id. -/
theorem find_of_mem {type : RegulationType} (hs : s.Consistent) (hrows : s.Every Row.IsReadable)
    (h : type ∈ s.types) : find s type.id = .ok type := by
  have hid : Storable type.id := Row.storable_id (hrows.types type h).1
  obtain ⟨t, ht⟩ := exists_find hid (List.mem_map_of_mem h)
  obtain ⟨hmem, hsame⟩ := find_eq_ok ht
  rw [ht, eq_of_key_eq hs.typeIds hmem h hsame]

end Catalog

namespace Regulations

open Work

variable {project : Int} {address : Address} {draft : Draft} {patch : Patch}
variable {before : Regulation} {type : RegulationType} {p : Project} {f : Fault}

theorem requireProject_of_mem (hrows : s.Every Row.IsReadable) (h : p ∈ s.projects) :
    requireProject s p.id = .ok () := by
  have hid : Storable p.id := Row.storable_id (hrows.projects p h).1
  have hsome : (s.project? p.id).isNone = false := by
    cases hfound : s.project? p.id with
    | some q => rfl
    | none => exact absurd rfl (findById_eq_none hfound p h)
  simp [requireProject, checkInteger_eq_ok.2 hid, hsome, bind, Except.bind]

/-- A creation with a config that is not kept is refused. -/
theorem create_of_refused_config (htype : Catalog.find s draft.typeId = .ok type)
    (hproject : requireProject s project = .ok ())
    (hconfig : Config.settle type.name draft.config = .error f) :
    create ctx project draft (.start s) = (.error f, .start s) :=
  (query_bind_ok htype).trans ((query_bind_ok hproject).trans (lift_bind_error hconfig))

/-- An update with a config that is not kept is refused. -/
theorem update_of_refused_config (hbefore : find s project address = .ok before)
    (htype : Catalog.find s (patch.typeId.getD before.typeId) = .ok type)
    (hname : ensureRenamable ctx s project before (patch.name.getD before.name) = .ok ())
    (hconfig : Config.settle type.name (patch.config.getD before.config) = .error f) :
    update ctx project address patch (.start s) = (.error f, .start s) :=
  (query_bind_ok hbefore).trans <| (query_bind_ok htype).trans <|
    (query_bind_ok hname).trans (lift_bind_error hconfig)

/-- A regulation may take a name that no other one of its project has. -/
theorem ensureRenamable_of_not_isTaken {name : Text} (hs : s.Consistent)
    (hbefore : before ∈ s.regulations) (hname : name.Encodable)
    (h : ¬ s.IsTaken project name before.id) :
    ensureRenamable ctx s project before name = .ok () := by
  -- a check that does not see the others passes, and there are none to be seen
  have hcontended : ensureRenamable { ctx with contended := true } s project before name =
      .ok () := by
    unfold ensureRenamable
    split
    · simp [ensureNameFree, checkText_eq_ok.2 hname, bind, Except.bind]
    · rfl
  exact (ensureRenamable_congr hs hbefore h).trans hcontended

end Regulations

/-! ### Requests -/

@[simp] theorem Document.withoutInfinities_ofText? {t : Option Text} :
    (ofText? t).withoutInfinities = ofText? t := by
  cases t <;> simp [ofText?, withoutInfinities]

@[simp] theorem Kind.encodable_name (k : Kind) : k.name.Encodable := by
  cases k <;> exact Text.encodable_ofString _

namespace Work

variable {α : Type} {work : Work α} {f : Fault} {Q : α → Session → Prop}

/-- Work that is refused before it has written anything leaves nothing behind. -/
theorem perform_of_refused (h : work (.start s) = (.error f, .start s)) :
    work.perform s = ⟨.error f, s, []⟩ := by
  simp only [perform, h]
  rfl

/-- Work that does not fail leaves what it comes to. -/
theorem Yields.perform (h : work.Yields (.start s) Q) :
    ∃ a τ, work.perform s = ⟨.ok a, τ.committed, τ.announced⟩ ∧ Q a τ := by
  obtain ⟨a, τ, hw, hQ⟩ := h
  exact ⟨a, τ, by simp only [Work.perform, hw], hQ⟩

end Work

namespace World

open Verdict (IsBeyond readOptional)

variable {settings : Settings} {a : Arrival} {op : Operation} {f : Fault}
variable {project regulation : Int} {catalogId : Text} {details : Document} {type : RegulationType}
variable {r : Regulation} {v : Version}

/-- A request whose work is refused has no other effect than its response. -/
theorem outcome_of_refused {α : Type} {work : Work α} {tell : α → Answer}
    (hop : Server.operationOf? settings a.request = some op)
    (hrun : op.run (Server.contextOf a.context a.request) = tell <$> work)
    (hrefused : work (.start s) = (.error f, .start s)) :
    a.outcome settings s = ⟨Server.present settings a.request op (.error f), s, []⟩ := by
  have houtcome : a.outcome settings s = _ := Server.handle_of_operation hop
  rw [houtcome, hrun, Work.perform_map, Work.perform_of_refused hrefused]
  rfl

/-- A trial has its verdict and leaves the store alone. -/
theorem outcome_of_trial {typeName : Text} {verdict : Except Fault Bool}
    (hop : Server.operationOf? settings a.request = some (.evaluate typeName config value))
    (hverdict : Verdict.evaluate typeName config value = verdict) :
    a.outcome settings s = ⟨Server.present settings a.request (.evaluate typeName config value)
      (verdict.map .verdict), s, []⟩ := by
  have houtcome : a.outcome settings s = _ := Server.handle_of_operation hop
  rw [houtcome, Operation.run, Work.perform_map, ← hverdict]
  rfl

/-- A trial of a known kind is answered with its verdict, unless a number lies beyond the bounds or
a text that is to be shown has no bytes. -/
theorem trial_answered
    (hop : Server.operationOf? settings a.request = some (.evaluate kind.name config value)) :
    (¬ IsBeyond kind config value → (∀ u ∈ config, u.Encodable) → (∀ u ∈ value, u.Encodable) →
      ∃ b, Verdict.evaluate kind.name config value = .ok b ∧
        (a.outcome settings s).answer.Tells 200 (.object
          [("type_name", .text kind.name), ("config", .ofText? config), ("value", .ofText? value),
            ("is_compliant", .truth b)])) ∧
    (IsBeyond kind config value ∨ ¬ (∀ u ∈ config, u.Encodable) ∨ ¬ (∀ u ∈ value, u.Encodable) →
      (a.outcome settings s).answer.status = 500) ∧
    (a.outcome settings s).store = s := by
  by_cases hbeyond : IsBeyond kind config value
  · rw [outcome_of_trial hop (Verdict.evaluate_of_isBeyond hbeyond)]
    exact ⟨fun hwithin => absurd hbeyond hwithin, fun _ => rfl, rfl⟩
  · obtain ⟨b, hb⟩ := Verdict.exists_evaluate hbeyond
    rw [outcome_of_trial hop hb]
    have hcarriable :
        (Server.documentOf (.evaluate kind.name config value) (.verdict b)).isCarriable ↔
          (∀ u ∈ config, u.Encodable) ∧ ∀ u ∈ value, u.Encodable := by
      simp [Server.documentOf, Document.isCarriable, Document.membersCarriable]
    refine ⟨fun _ hconfig hvalue => ⟨b, hb, ?_⟩, fun h => ?_, rfl⟩
    · have htells : (Server.present settings a.request (.evaluate kind.name config value)
          (.ok (.verdict b))).Tells _ _ :=
        Server.tells_present_ok rfl (hcarriable.2 ⟨hconfig, hvalue⟩)
      -- no numbers stand in the document of a verdict, so that none are left empty
      simp only [Server.documentOf, Document.withoutInfinities, Document.membersWithoutInfinities,
        Document.withoutInfinities_ofText?, Server.statusOf] at htells
      exact htells
    · refine Server.status_present_of_not_isCarriable fun hshown => ?_
      rw [← not_and_or] at h
      exact h.resolve_left hbeyond (hcarriable.1 hshown.2)

/-- A creation whose config is not kept has no other effect than its response. -/
theorem creation_refused {draft : Draft} {p : Project} (hs : s.Consistent)
    (hrows : s.Every Row.IsReadable)
    (hop : Server.operationOf? settings a.request = some (.createRegulation p.id draft))
    (hp : p ∈ s.projects) (htype : type ∈ s.types) (hid : type.id = draft.typeId)
    (hconfig : Config.settle type.name draft.config = .error f) :
    a.outcome settings s =
      ⟨Server.present settings a.request (.createRegulation p.id draft) (.error f), s, []⟩ :=
  outcome_of_refused hop rfl <| Regulations.create_of_refused_config
    (hid ▸ Catalog.find_of_mem hs hrows htype) (Regulations.requireProject_of_mem hrows hp) hconfig

/-- The same holds of an update, if the regulation may have its name. -/
theorem update_refused {address : Address} {patch : Patch} {before : Regulation}
    (hs : s.Consistent) (hrows : s.Every Row.IsReadable)
    (hop : Server.operationOf? settings a.request = some (.updateRegulation project address patch))
    (hbefore : before ∈ s.regulationsAt project address) (htype : type ∈ s.types)
    (hid : type.id = patch.typeId.getD before.typeId) (hencodable : ∀ u ∈ patch.name, u.Encodable)
    (hfree : ¬ s.IsTaken project (patch.name.getD before.name) before.id)
    (hconfig : Config.settle type.name (patch.config.getD before.config) = .error f) :
    a.outcome settings s = ⟨Server.present settings a.request
      (.updateRegulation project address patch) (.error f), s, []⟩ := by
  have hmem := (Store.mem_of_mem_regulationsAt hbefore).1
  have hname : (patch.name.getD before.name).Encodable := by
    cases hpatched : patch.name with
    | none => exact (Regulation.check_iff.1 (hrows.regulations before hmem).1).2.1
    | some t => exact hencodable t hpatched
  exact outcome_of_refused hop rfl <| Regulations.update_of_refused_config
    (Regulations.find_of_mem_at hs hrows.checked hbefore) (hid ▸ Catalog.find_of_mem hs hrows htype)
    (Regulations.ensureRenamable_of_not_isTaken hs hmem hname hfree) hconfig

/-- A write whose config has to be a number for the kind is refused with a message where it is none,
and fails where it lies beyond the bounds. Either way nothing is stored. -/
def RefusesConfig (settings : Settings) (s : Store) (a : Arrival) (kind : Kind)
    (config : Option Text) : Prop :=
  (readOptional config = .notNumber →
    (a.outcome settings s).answer.Tells 400 (.object
        [("detail", .text (("Config value for " : Text) ++ kind.name ++
          (" type must be a number" : Text)))]) ∧
      (a.outcome settings s).store = s) ∧
  (readOptional config = .beyondBounds →
    (a.outcome settings s).answer.status = 500 ∧ (a.outcome settings s).store = s)

theorem refusesConfig_of_settle (hkind : kind ≠ .boolean)
    (h : ∀ f, Config.settle kind.name config = .error f →
      a.outcome settings s = ⟨Server.present settings a.request op (.error f), s, []⟩) :
    RefusesConfig settings s a kind config := by
  rw [Config.settle_of_ne_boolean hkind] at h
  constructor
  · intro hread
    rw [h (.configNotNumber kind) (by rw [hread])]
    exact ⟨Server.tells_present_error rfl, rfl⟩
  · intro hread
    rw [h .numberBeyondBounds (by rw [hread])]
    exact ⟨rfl, rfl⟩

section Reports

variable (hs : s.Sound) (hrows : s.Every Row.IsReadable)
variable (hop : Server.operationOf? settings a.request =
  some (.report project regulation catalogId value details))
variable (hpair : Statuses.Pair s project regulation catalogId r v) (htype : type ∈ s.types)
variable (hid : type.id = r.typeId) (hname : type.name = kind.name)

include hs hrows hop hpair htype hid hname

/-- A report is answered with the status and its verdict, where no number beyond the bounds has to
be compared. -/
theorem report_answered (htellable : ∀ st ∈ s.statuses, st.details.IsTellable)
    (hwithin : ¬ (kind = .threshold ∧ readOptional value = .beyondBounds)) (hroom : s.HasRoom)
    (hctx : (Server.contextOf a.context a.request).IsRecordable)
    (hvalue : ∀ u ∈ value, u.Encodable) (hdetails : details.IsTellable)
    (hshowable : details.stored.IsShowable) :
    ∃ (b : Bool) (view : StatusView), Verdict.evaluate kind.name r.config value = .ok b ∧
      view.status.value = value ∧ view.status.compliant = some b ∧
      (a.outcome settings s).answer.Tells 200 view.answer.withoutInfinities := by
  have hgrammar : Config.Grammatical kind.name r.config :=
    hname ▸ hs.grammatical hpair.regulation_mem htype hid
  obtain ⟨b, hb⟩ := Verdict.exists_evaluate fun hbeyond =>
    hwithin ((Verdict.isBeyond_iff hgrammar).1 hbeyond)
  obtain ⟨view, τ, hperform, hrow, hcatalog, -⟩ :=
    (Statuses.report_yields hs.toConsistent hrows htellable hctx hroom hpair ⟨hvalue, hdetails⟩
      (hid ▸ Catalog.find_of_mem hs.toConsistent hrows htype) (hname ▸ hb)).perform
  obtain ⟨hkept, hstored, hcompliant⟩ := hrow.reported
  have hafter : (a.outcome settings s).store.Every Row.IsReadable := readable_outcome hrows
  have houtcome : a.outcome settings s = _ := Server.handle_of_operation hop
  rw [houtcome, Operation.run, Work.perform_map, hperform] at hafter ⊢
  refine ⟨b, view, hb, hkept, hcompliant, Server.tells_present_ok ?_ ?_⟩
  · exact Server.isWritable_iff.2 (List.forall_mem_singleton.2 (hstored ▸ hshowable.2))
  · refine (hrow.tells hpair hcatalog hafter rfl).isCarriable_iff.2 ?_
    exact List.forall_mem_singleton.2 (hstored ▸ hshowable.1)

/-- A number beyond the bounds that has to be compared is a failure, and nothing is stored. -/
theorem report_refused (hkind : kind = .threshold) (hbeyond : readOptional value = .beyondBounds) :
    (a.outcome settings s).answer.status = 500 ∧ (a.outcome settings s).store = s := by
  have hgrammar : Config.Grammatical kind.name r.config :=
    hname ▸ hs.grammatical hpair.regulation_mem htype hid
  have hverdict := Verdict.evaluate_of_isBeyond ((Verdict.isBeyond_iff hgrammar).2 ⟨hkind, hbeyond⟩)
  rw [outcome_of_refused hop rfl <| Statuses.report_of_refused hs.toConsistent hpair
    (hid ▸ Catalog.find_of_mem hs.toConsistent hrows htype) (hname ▸ hverdict)]
  exact ⟨rfl, rfl⟩

end Reports

/-- How requests with configs and values are answered: by a verdict or by a message as long as no
number lies beyond the bounds, and by a failure without effect where one has to be compared. -/
structure AnswersWithinBounds (settings : Settings) (s : Store) : Prop where
  trials {a : Arrival} {kind : Kind} {config value : Option Text}
      (hop : Server.operationOf? settings a.request = some (.evaluate kind.name config value)) :
      (¬ IsBeyond kind config value → (∀ u ∈ config, u.Encodable) → (∀ u ∈ value, u.Encodable) →
        ∃ b, Verdict.evaluate kind.name config value = .ok b ∧
          (a.outcome settings s).answer.Tells 200 (.object
            [("type_name", .text kind.name), ("config", .ofText? config),
              ("value", .ofText? value), ("is_compliant", .truth b)])) ∧
      (IsBeyond kind config value ∨ ¬ (∀ u ∈ config, u.Encodable) ∨ ¬ (∀ u ∈ value, u.Encodable) →
        (a.outcome settings s).answer.status = 500) ∧
      (a.outcome settings s).store = s
  reports {a : Arrival} {kind : Kind} {project regulation : Int} {catalogId : Text}
      {value : Option Text} {details : Document} {r : Regulation} {v : Version}
      {type : RegulationType}
      (hop : Server.operationOf? settings a.request =
        some (.report project regulation catalogId value details))
      (hpair : Statuses.Pair s project regulation catalogId r v) (htype : type ∈ s.types)
      (hid : type.id = r.typeId) (hname : type.name = kind.name) :
      (¬ (kind = .threshold ∧ readOptional value = .beyondBounds) → s.HasRoom →
        (Server.contextOf a.context a.request).IsRecordable → (∀ u ∈ value, u.Encodable) →
        details.IsTellable → details.stored.IsShowable →
        ∃ (b : Bool) (view : StatusView), Verdict.evaluate kind.name r.config value = .ok b ∧
          view.status.value = value ∧ view.status.compliant = some b ∧
          (a.outcome settings s).answer.Tells 200 view.answer.withoutInfinities) ∧
      (kind = .threshold → readOptional value = .beyondBounds →
        (a.outcome settings s).answer.status = 500 ∧ (a.outcome settings s).store = s)
  creations {a : Arrival} {kind : Kind} {draft : Draft} {p : Project} {type : RegulationType}
      (hop : Server.operationOf? settings a.request = some (.createRegulation p.id draft))
      (hp : p ∈ s.projects) (htype : type ∈ s.types) (hid : type.id = draft.typeId)
      (hname : type.name = kind.name) (hkind : kind ≠ .boolean) :
      RefusesConfig settings s a kind draft.config
  updates {a : Arrival} {kind : Kind} {project : Int} {address : Address} {patch : Patch}
      {before : Regulation} {type : RegulationType}
      (hop : Server.operationOf? settings a.request =
        some (.updateRegulation project address patch))
      (hbefore : before ∈ s.regulationsAt project address) (htype : type ∈ s.types)
      (hid : type.id = patch.typeId.getD before.typeId) (hname : type.name = kind.name)
      (hkind : kind ≠ .boolean) (hencodable : ∀ u ∈ patch.name, u.Encodable)
      (hfree : ¬ s.IsTaken project (patch.name.getD before.name) before.id) :
      RefusesConfig settings s a kind (patch.config.getD before.config)

variable {w : World} {arrivals : List Arrival}

/-- Only a numeral beyond the bounds is neither read as a number nor told to be none. Verdicts and
the check of configs fail on such numerals alone, and after every run requests are answered
accordingly. -/
theorem answered_within_bounds (h : w.store.Initial) (hrows : w.store.Every Row.IsReadable) :
    (∀ t, Number.read t = .beyondBounds ↔
      ∃ x : Numeral, x.text = t ∧ ¬ x.number.Representable) ∧
    (∀ (kind : Kind) (config value : Option Text) (f : Fault),
      Verdict.evaluate kind.name config value = .error f ↔
        f = .numberBeyondBounds ∧ IsBeyond kind config value) ∧
    (∀ (typeName : Text) (config : Option Text) (f : Fault),
      Config.settle typeName config = .error f ↔
        ∃ kind : Kind, kind ≠ .boolean ∧ kind.name = typeName ∧
          (readOptional config = .notNumber ∧ f = .configNotNumber kind ∨
            readOptional config = .beyondBounds ∧ f = .numberBeyondBounds)) ∧
    AnswersWithinBounds settings (w.serve settings arrivals).store := by
  have hs : (w.serve settings arrivals).store.Sound := (kept_serve h).toSound
  have hreadable : (w.serve settings arrivals).store.Every Row.IsReadable := readable_serve hrows
  refine ⟨fun _ => Number.read_eq_beyondBounds, fun _ _ _ _ => Verdict.evaluate_eq_error_iff,
    fun _ _ _ => Config.settle_eq_error_iff, ?_⟩
  exact
    { trials := trial_answered
      reports := fun hop hpair htype hid hname =>
        ⟨report_answered hs hreadable hop hpair htype hid hname (tellable_serve h hrows),
          report_refused hs hreadable hop hpair htype hid hname⟩
      creations := fun hop hp htype hid hname hkind => refusesConfig_of_settle hkind fun _ hf =>
        creation_refused hs.toConsistent hreadable hop hp htype hid (hname ▸ hf)
      updates := fun hop hbefore htype hid hname hkind hencodable hfree =>
        refusesConfig_of_settle hkind fun _ hf => update_refused hs.toConsistent hreadable hop
          hbefore htype hid hencodable hfree (hname ▸ hf) }

/-- A value is tried against a threshold. -/
def trial (config value : Text) : Arrival :=
  .plain "POST" "/api/v1/regulations/evaluate"
    (("\x7b\"type_name\": \"Threshold\", \"config\": \"" : Text) ++ config ++
      ("\", \"value\": \"" : Text) ++ value ++ ("\"\x7d" : Text))

/-- A threshold is created with a config. -/
def thresholdCreation (config : Text) : Arrival :=
  .plain "POST" "/api/v1/projects/1/regulations"
    (("\x7b\"name\": \"t\", \"type_id\": 2, \"config\": \"" : Text) ++ config ++
      ("\"\x7d" : Text))

/-- A word is no number: as a config it is refused, as a value it is tried in vain, and in a report
it does not comply. -/
theorem answered_within_bounds_word :
    let settings := Settings.ofDatabase "sqlite"
    let s := (sample.serve settings [thresholdCreation "0.5"]).store
    sample.store.Initial ∧ sample.store.Every Row.IsReadable ∧
    ((thresholdCreation "high").outcome settings s).answer.Tells 400
      (.object [("detail", .text "Config value for Threshold type must be a number")]) ∧
    ((trial "0.5" "high").outcome settings s).answer.Tells 200 (.object
      [("type_name", .text "Threshold"), ("config", .text "0.5"), ("value", .text "high"),
        ("is_compliant", .truth false)]) ∧
    ∃ view : StatusView, view.status.value = some "true" ∧ view.status.compliant = some false ∧
      (Arrival.firstReport.outcome settings s).answer.Tells 200 view.answer.withoutInfinities := by
  intro settings s
  have hanswers : AnswersWithinBounds settings s :=
    (answered_within_bounds Store.initial_sample readable_sample).2.2.2
  have hverdict {value : Text} {b : Bool} (h : Number.read value = .notNumber)
      (hb : Verdict.evaluate Kind.threshold.name (some "0.5") (some value) = .ok b) :
      b = false := by
    have hbound : Verdict.readOptional (some "0.5") = .number ⟨false, 5, -1⟩ := by decide +kernel
    rw [Verdict.evaluate_threshold hbound] at hb
    simp only [Verdict.readOptional, h] at hb
    exact (Except.ok.inj hb).symm
  have htype : ⟨2, "Threshold", none⟩ ∈ s.types := by decide +kernel
  have hname : (⟨2, "Threshold", none⟩ : RegulationType).name = Kind.threshold.name := rfl
  refine ⟨Store.initial_sample, readable_sample, ?_, ?_, ?_⟩
  · have hop : Server.operationOf? settings (thresholdCreation "high").request =
        some (.createRegulation 1 ⟨"t", none, none, 2, some "high", 0⟩) := by
      decide +kernel
    have hproject : ⟨1, "engine", none, ⟨0⟩, ⟨0⟩⟩ ∈ s.projects := by decide +kernel
    have hrefuses : RefusesConfig settings s (thresholdCreation "high") .threshold (some "high") :=
      hanswers.creations hop hproject htype rfl hname nofun
    exact (hrefuses.1 (by decide +kernel)).1
  · have hop : Server.operationOf? settings (trial "0.5" "high").request =
        some (.evaluate Kind.threshold.name (some "0.5") (some "high")) := by
      decide +kernel
    obtain ⟨b, hb, htells⟩ := (hanswers.trials hop).1 (by decide +kernel) (by decide) (by decide)
    obtain rfl := hverdict (by decide +kernel) hb
    exact htells
  · have hop : Server.operationOf? settings Arrival.firstReport.request =
        some (.report 1 1 "cat-100" (some "true") .null) := by
      decide +kernel
    have hpair : Statuses.Pair s 1 1 "cat-100"
        ⟨1, "t", none, none, some "0.5", 0, 2, 1, ⟨0⟩, ⟨0⟩⟩ ⟨1, "cat-100", 1, none, ⟨0⟩⟩ := by
      constructor <;> decide +kernel
    have hroom : s.HasRoom := hasRoom_serve Store.initial_sample (by decide) (by decide)
    obtain ⟨b, view, hb, hvalue, hcompliant, htells⟩ :=
      (hanswers.reports hop hpair htype rfl hname).1 (by decide +kernel) hroom ⟨nofun, nofun⟩
        (by decide) nofun (by decide)
    obtain rfl := hverdict (by decide +kernel) hb
    exact ⟨view, hvalue, hcompliant, htells⟩

/-- A numeral whose exponent is one above the largest is not told apart from other numerals before
it is read: a trial with it fails, and so does a creation. -/
theorem numeral_beyond_bounds_fails :
    Number.read "1e1000000000000000000" = .beyondBounds ∧
    Verdict.evaluate "Threshold" (some "0") (some "1e1000000000000000000") =
      .error .numberBeyondBounds ∧
    Config.settle "Threshold" (some "1e1000000000000000000") = .error .numberBeyondBounds ∧
    ((trial "0" "1e1000000000000000000").outcome (.ofDatabase "sqlite")
      sample.store).answer.status = 500 ∧
    ((thresholdCreation "1e1000000000000000000").outcome (.ofDatabase "sqlite")
      sample.store).answer.status = 500 := by
  decide +kernel

end World

end ComplianceRegistry
