import ComplianceRegistry.Proofs.Listings
import ComplianceRegistry.Proofs.Repetition

/-!
# Addresses of regulations

A regulation has an id and a name, and either of them addresses it inside its project. Whatever is
asked for at an address goes on from the regulation that is found there and never looks at the
address again, so that it comes to the same by id and by name: the same answer or the same fault,
the same tables with the same trail, and the same announcement.

An address can only be looked up when storage can be asked for it. Where it can, and it names no
regulation of the project, this is what the fault says. An id beyond the integers of storage names
none either, but the search for it fails.

## Main definitions

* `Errand` — what can be asked for at an address
* `Address.Names` — the address is that of the regulation

## Main results

* `Errand.perform_congr` — addresses at which the same is found are as good as each other
* `Regulations.find_eq_of_names` — a regulation is found at each of its addresses
* `Operation.Outcome.shown_of_write` — what a creation or an update answers with is what is there
* `World.addresses_agree` — so it is after every run of calls
-/

namespace ComplianceRegistry

open Work

/-- What can be asked for at an address: to see the regulation, to change it, or to delete it. -/
inductive Errand
  | get
  | update (patch : Patch)
  | delete
deriving DecidableEq, Repr

/-- The operation that carries out an errand. -/
def Errand.operation (project : Int) (address : Address) : Errand → Operation
  | .get => .getRegulation project address
  | .update patch => .updateRegulation project address patch
  | .delete => .deleteRegulation project address

/-- The address is that of the regulation. -/
def Address.Names : Address → Regulation → Prop
  | .byId id, r => r.id = id
  | .byName name, r => some r.name = name

variable {ctx : Context} {s after : Store} {project : Int} {address other : Address}
variable {r : Regulation} {v : RegulationView} {errand : Errand} {f : Fault}

/-! ### Finding -/

theorem Store.mem_regulationsAt_iff : r ∈ s.regulationsAt project address ↔
    r ∈ s.regulations ∧ r.projectId = project ∧ address.Names r := by
  match address with
  | .byId id => simp [regulationsAt, Address.Names, and_comm]
  | .byName (some name) => simp [regulationsAt, Address.Names, and_comm]
  | .byName none => simp [regulationsAt, Address.Names]

namespace Regulations

/-- A regulation is found at each of its addresses. -/
theorem find_eq_of_names (hs : s.Consistent) (hrows : s.Every fun r => r.check = .ok ())
    (hr : r ∈ s.regulations) (hnames : address.Names r) : find s r.projectId address = .ok r :=
  find_of_mem_at hs hrows (Store.mem_regulationsAt_iff.2 ⟨hr, rfl, hnames⟩)

/-- Where no regulation is addressed the search fails. It says so if storage can be asked. -/
theorem find_of_unnamed (hnone : ∀ r ∈ s.regulations, r.projectId = project → ¬ address.Names r) :
    ∃ f, find s project address = .error f ∧
      (Storable project → checkAddress address = .ok () →
        f = .notFound (.regulation address project)) := by
  cases hfind : find s project address with
  | ok r =>
    have hmem : r ∈ s.regulationsAt project address :=
      (find_eq_ok hfind).2 ▸ List.mem_singleton_self r
    obtain ⟨hr, hown, hnames⟩ := Store.mem_regulationsAt_iff.1 hmem
    exact absurd hnames (hnone r hr hown)
  | error f =>
    refine ⟨f, rfl, fun hproject haddress => ?_⟩
    have hempty : s.regulationsAt project address = [] := by
      refine List.eq_nil_iff_forall_not_mem.2 fun r hr => ?_
      obtain ⟨hr, hown, hnames⟩ := Store.mem_regulationsAt_iff.1 hr
      exact hnone r hr hown hnames
    rw [find_of_nil hproject haddress hempty] at hfind
    exact (Except.error.inj hfind).symm

end Regulations

/-! ### Errands -/

namespace Errand

/-- Addresses at which the same is found are as good as each other. -/
theorem perform_congr
    (h : Regulations.find s project address = Regulations.find s project other) :
    ((errand.operation project address).run ctx).perform s =
      ((errand.operation project other).run ctx).perform s := by
  apply Work.perform_congr
  cases errand with
  | get =>
    have hget : Regulations.get s project address = Regulations.get s project other := by
      simp only [Regulations.get, h]
    apply Work.map_congr
    simp only [query, Session.start, hget]
  | update patch => exact Work.map_congr (query_bind_congr h fun _ _ => rfl)
  | delete => exact Work.map_congr (query_bind_congr h fun _ _ => rfl)

/-- An errand whose regulation is not found ends there. -/
theorem perform_of_find_error (h : Regulations.find s project address = .error f) :
    ((errand.operation project address).run ctx).perform s = ⟨.error f, s, []⟩ := by
  have hend {next : Regulation → Work RegulationView} :
      (Answer.regulation <$> (query (Regulations.find · project address) >>= next)).perform s =
        ⟨.error f, s, []⟩ := by
    rw [perform_map, perform, query_bind_error h]
    rfl
  cases errand with
  | get =>
    have hget : Regulations.get s project address = .error f := by
      simp only [Regulations.get, h, bind, Except.bind]
    change (Answer.regulation <$> query (Regulations.get · project address)).perform s = _
    rw [perform_map]
    simp only [perform, query, Session.start, hget]
    rfl
  | update patch => exact hend
  | delete => exact hend

/-- The response to an errand does not tell the address. -/
theorem present_congr {settings : Settings} {request : Request} {path : Text} :
    Server.present settings request (errand.operation project address) =
      Server.present settings { request with path } (errand.operation project other) := by
  funext result
  cases result with
  | error f => rfl
  | ok answer =>
    -- a deletion tells the id of the regulation that it answers with
    have hdocument : Server.documentOf (errand.operation project address) answer =
        Server.documentOf (errand.operation project other) answer := by
      cases errand <;> cases answer <;> rfl
    have hstatus : Server.statusOf (errand.operation project address) =
        Server.statusOf (errand.operation project other) := by
      cases errand <;> rfl
    simp only [Server.present, hdocument, hstatus]
    rfl

end Errand

/-! ### What is there after a write -/

namespace Operation.Outcome

variable {op : Operation} {announcements : List Announcement}

/-- A creation and an update answer with the regulation as it is there after them. -/
theorem shown_of_write (hs : s.Consistent)
    (hwrite : (∃ draft, op = .createRegulation project draft) ∨
      ∃ address patch, op = .updateRegulation project address patch)
    (h : Outcome ctx s op (.regulation v) after announcements) :
    v.regulation ∈ after.regulations ∧ v.regulation.projectId = project ∧
      Regulations.view after v.regulation = .ok v := by
  have hview {typeId : Int} (htype : Catalog.find s typeId = .ok v.type)
      (hid : v.regulation.typeId = v.type.id) (htypes : after.types = s.types) :
      Regulations.view after v.regulation = .ok v := by
    simp only [Regulations.view, hid, Catalog.find_again htype htypes, bind, Except.bind]
  rcases hwrite with ⟨draft, rfl⟩ | ⟨address, patch, rfl⟩
  · cases h with
    | read h => exact h.elim
    | created h =>
      have hid : v.regulation.typeId = v.type.id := by rw [h.row_eq]; rfl
      have hown : v.regulation.projectId = project := by rw [h.row_eq]; rfl
      have htypes : after.types = s.types := h.after_eq ▸ rfl
      refine ⟨?_, hown, hview h.type_found hid htypes⟩
      rw [h.regulations_eq]
      exact List.mem_append_right _ (List.mem_singleton_self _)
  · cases h with
    | read h => exact h.elim
    | updated h =>
      have hstored := h.rewritten.findById_eq hs h.before_mem rfl
      have hown : v.regulation.projectId = project :=
        h.life_eq.2.1.trans (Regulations.mem_of_find_eq_ok h.found).2
      exact ⟨(findById_eq_some hstored).1, hown,
        hview h.type_found h.typeId_eq h.rewritten.types_eq⟩

end Operation.Outcome

namespace Regulations

variable (hs : s.Consistent) (hrows : s.Every fun r => r.check = .ok ())

include hs hrows

/-- A regulation that is there is read at each of its addresses. -/
theorem get_of_view (hr : v.regulation ∈ s.regulations) (hview : view s v.regulation = .ok v)
    (hnames : address.Names v.regulation) : get s v.regulation.projectId address = .ok v := by
  simp only [get, find_eq_of_names hs hrows hr hnames, hview, bind, Except.bind]

/-- A regulation that is there has one entry in the listing of its project. -/
theorem entry_of_view (hr : v.regulation ∈ s.regulations)
    (hview : view s v.regulation = .ok v) :
    ∃ views, list s v.regulation.projectId = .ok views ∧
      (views.filter fun x => x.regulation.id = v.regulation.id) = [v] := by
  have hproject : Storable v.regulation.projectId :=
    (Regulation.check_iff.1 (hrows.regulations _ hr)).1.2.2.2
  obtain ⟨views, hviews⟩ := exists_list hs hrows hproject
  have hregulations := map_regulation_of_list hviews
  have hids : (views.map (·.regulation.id)).Nodup := by
    have hnodup : ((ofProject s v.regulation.projectId).map (·.id)).Nodup := nodup_ofProject hs
    rwa [← hregulations, List.map_map] at hnodup
  have hlisted : v.regulation ∈ views.map (·.regulation) := by
    rw [hregulations]
    exact mem_ofProject.2 ⟨hr, rfl⟩
  obtain ⟨x, hx, hsame⟩ := List.mem_map.1 hlisted
  -- the entry was shown from the same row, and so it is the same
  have hentry : x = v := by
    obtain ⟨_, -, hshown⟩ := bind_eq_ok.1 hviews
    obtain ⟨g, -, hg⟩ := mem_of_mapM_eq_ok hshown hx
    obtain rfl := (view_eq_ok hg).1
    rw [hsame, hview] at hg
    exact (Except.ok.inj hg).symm
  refine ⟨views, hviews, eq_of_length_le_one ?_ (le_refl 1) fun y => ?_⟩
  · exact length_filter_le_one hids fun y _ hy => of_decide_eq_true hy
  · rw [List.mem_filter, List.mem_singleton, decide_eq_true_eq]
    constructor
    · rintro ⟨hy, hid⟩
      exact hentry ▸ eq_of_key_eq hids hy hx (hid.trans (congrArg Regulation.id hsame).symm)
    · rintro rfl
      exact ⟨hentry ▸ hx, rfl⟩

end Regulations

/-! ### Runs -/

namespace World

variable {settings : Settings} {w : World} {steps : List (Context × Step)}

/-- After every run of calls, whatever is asked for at an address of a regulation comes to the same
by its id and by its name: the result, the deliveries and the entries that can be seen, and the
world after it; so do two requests for it that differ in their paths alone. What a creation or an
update answers with is then read by its id, by its name, and in the one entry of the listing. And
what is asked for at an address that names no regulation of the project fails without a trace; the
fault says that the regulation is missing, if storage can be asked for it. -/
theorem addresses_agree (h : w.store.Initial) (hrows : w.store.Every fun r => r.check = .ok ())
    (hsteps : ∀ p ∈ steps, p.2.IsCall) :
    let u := (w.run settings steps).2
    (∀ r ∈ u.store.regulations, ∀ errand : Errand,
      let byId := errand.operation r.projectId (.byId r.id)
      let byName := errand.operation r.projectId (.byName (some r.name))
      (∀ ctx, u.advance settings ctx (.operation byId) =
        u.advance settings ctx (.operation byName)) ∧
      ∀ (ctx : Context) (outage : Option Text) (request : Request) (path : Text),
        Server.operationOf? settings request = some byId →
        Server.operationOf? settings { request with path } = some byName →
        u.advance settings ctx (.request outage request) =
          u.advance settings ctx (.request outage { request with path })) ∧
    (∀ (ctx : Context) (project : Int) (op : Operation) (view : RegulationView),
      ((∃ draft, op = .createRegulation project draft) ∨
        ∃ address patch, op = .updateRegulation project address patch) →
      ((op.run ctx).perform u.store).answer = .ok (.regulation view) →
      let after := ((op.run ctx).perform u.store).store
      (∀ address : Address, address.Names view.regulation →
        Regulations.get after project address = .ok view) ∧
      ∃ views, Regulations.list after project = .ok views ∧
        (views.filter fun x => x.regulation.id = view.regulation.id) = [view]) ∧
    (∀ (project : Int) (address : Address),
      (∀ r ∈ u.store.regulations, r.projectId = project → ¬ address.Names r) →
      ∃ f, (Storable project → Regulations.checkAddress address = .ok () →
          f = .notFound (.regulation address project)) ∧
        ∀ (errand : Errand) (ctx : Context),
          u.LeavesNoTrace settings ctx (.operation (errand.operation project address))
            (.fault f)) := by
  intro u
  have hs : u.store.Sound := sound_run h.kept.toSound hsteps
  have hstored : u.store.Every fun r => r.check = .ok () := storable_run hrows
  refine ⟨fun r hr errand => ?_, fun ctx project op view hwrite hok => ?_,
    fun project address hnone => ?_⟩
  · have hid : Address.Names (.byId r.id) r := rfl
    have hname : Address.Names (.byName (some r.name)) r := rfl
    have hfind : Regulations.find u.store r.projectId (.byId r.id) =
        Regulations.find u.store r.projectId (.byName (some r.name)) := by
      rw [Regulations.find_eq_of_names hs.toConsistent hstored hr hid,
        Regulations.find_eq_of_names hs.toConsistent hstored hr hname]
    intro byId byName
    have hperform (ctx : Context) :
        (byId.run ctx).perform u.store = (byName.run ctx).perform u.store :=
      Errand.perform_congr hfind
    refine ⟨fun ctx => ?_, fun ctx outage request path hbyId hbyName => ?_⟩
    · simp only [advance, Step.effect, hperform]
    · have hpresent : Server.present settings request byId =
          Server.present settings { request with path } byName := Errand.present_congr
      have hhandle : Server.handle settings outage ctx u.store request =
          Server.handle settings outage ctx u.store { request with path } := by
        rw [Server.handle_of_operation hbyId, Server.handle_of_operation hbyName, hpresent]
        exact congrArg _ (hperform _)
      simp only [advance, Step.effect, hhandle]
  · have houtcome := Operation.outcome_of_perform hs.toConsistent hok
    intro after
    have hafter : after.Consistent := (houtcome.sound hs).toConsistent
    have hkept : after.Every fun r => r.check = .ok () :=
      (Operation.run_maintains Store.Every.preserves_check
        fun _ _ _ _ _ _ => trivial).perform hstored
    obtain ⟨hr, rfl, hview⟩ := houtcome.shown_of_write hs.toConsistent hwrite
    exact ⟨fun _ hnames => Regulations.get_of_view hafter hkept hr hview hnames,
      Regulations.entry_of_view hafter hkept hr hview⟩
  · obtain ⟨f, hfind, hmissing⟩ := Regulations.find_of_unnamed hnone
    refine ⟨f, hmissing, fun errand ctx => leavesNoTrace_of_fault hs.toConsistent ?_⟩
    rw [Errand.perform_of_find_error hfind]

/-- A regulation is deleted by its name as by its id, and a deletion by an id that is not in use is
told that the regulation is missing. -/
theorem addresses_agree_deletion :
    let settings := Settings.ofDatabase "sqlite"
    let ctx : Context := ⟨⟨5⟩, none, none, false⟩
    let u := (sample.run settings [Arrival.creation.step]).2
    (sample.store.Initial ∧ (sample.store.Every fun r => r.check = .ok ()) ∧
      ∀ p ∈ [Arrival.creation.step], p.2.IsCall) ∧
    u.store.regulations.map (fun r => (r.id, r.name)) = [((1 : Int), ("r" : Text))] ∧
    (∀ r ∈ u.store.regulations,
      let byId := Operation.deleteRegulation r.projectId (.byId r.id)
      let byName := Operation.deleteRegulation r.projectId (.byName (some r.name))
      u.advance settings ctx (.operation byId) = u.advance settings ctx (.operation byName)) ∧
    u.LeavesNoTrace settings ctx (.operation (.deleteRegulation 1 (.byId 7)))
      (.fault (.notFound (.regulation (.byId 7) 1))) := by
  intro settings ctx u
  have hcalls : ∀ p ∈ [Arrival.creation.step], p.2.IsCall := by
    simp [Arrival.step, Step.IsCall]
  have hnone : ∀ r ∈ u.store.regulations, r.projectId = 1 → ¬ r.id = 7 := by decide +kernel
  obtain ⟨hsame, -, hmissing⟩ := @addresses_agree settings sample [Arrival.creation.step]
    Store.initial_sample readable_sample.checked hcalls
  refine ⟨⟨Store.initial_sample, readable_sample.checked, hcalls⟩, by decide +kernel,
    fun r hr => (hsame r hr .delete).1 ctx, ?_⟩
  obtain ⟨f, hf, htrace⟩ := hmissing 1 (.byId 7) hnone
  rw [← hf (by decide) (by decide)]
  exact htrace .delete ctx

/-- No regulation has an id beyond the integers of storage, and yet what is asked for at such an id
is not told that the regulation is missing: storage cannot be asked for it. -/
theorem vast_id_not_told_missing :
    let address := Address.byId storageBound
    (∀ r ∈ sample.store.regulations, ¬ address.Names r) ∧
    (∀ errand ∈ [Errand.get, .update ⟨none, none, none, none, none, none⟩, .delete],
      ((errand.operation 1 address).run ⟨⟨0⟩, none, none, false⟩).perform sample.store =
        ⟨.error .integerBeyondStorage, sample.store, []⟩) ∧
    ∀ method ∈ ["GET", "DELETE"],
      ((Arrival.plain method "/api/v1/projects/1/regulations/9223372036854775808" "").outcome
        (.ofDatabase "sqlite") sample.store).answer.status = 500 := by
  refine ⟨fun r hr => absurd hr List.not_mem_nil, ?_, ?_⟩
  · decide +kernel
  · decide +kernel

end World

end ComplianceRegistry
