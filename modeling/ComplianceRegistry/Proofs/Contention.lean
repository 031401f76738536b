import ComplianceRegistry.Proofs.Failures
import ComplianceRegistry.Proofs.Faults

/-!
# Names that several writers want

Whether a name is free is asked before a regulation is written. When another writer takes the name
in between, that check has found nothing and the constraint of the table decides. Both decide alike:
what succeeds comes to the same either way, and a name is refused, with the same message, where
another regulation of the project has it and nowhere else.

## Main definitions

* `Operation.outcomeUnder` — what comes of an operation when the check does or does not see a clash
* `Operation.Clashes` — another regulation has the name that an operation asks for
* `Operation.PassesButForName` — nothing but the name can be wrong with an operation
* `Operation.DecidedAlike` — the check and the constraint decide alike

## Main results

* `Operation.run_alike` — without a clash an operation runs alike either way
* `Operation.run_of_clash` — with a clash it fails alike either way
* `World.names_decided_alike` — so it is after every run of calls
-/

namespace ComplianceRegistry

open Work

variable {ctx ctx' : Context} {s : Store} {project : Int} {address : Address} {name : Text}
variable {draft : Draft} {patch : Patch} {before : Regulation} {row : Row} {b b' : Bool}

/-- The context in which another writer does or does not take the name after the check. -/
def Context.contending (ctx : Context) (contended : Bool) : Context :=
  { ctx with contended := contended }

/-! ### Rows that are refused -/

namespace Store

theorem insert_of_not_admits (hcheck : row.check = .ok ()) (h : ¬ s.Admits row) :
    s.insert row = .error .constraintViolated := by
  simp [insert, hcheck, h, bind, Except.bind]

theorem replace_of_not_admits (hcheck : row.check = .ok ()) (h : ¬ s.Admits row) :
    s.replace row = .error .constraintViolated := by
  simp [replace, hcheck, h, bind, Except.bind]

/-- A regulation with the name of another one of its project is refused. -/
theorem not_admits_of_isTaken {r : Regulation} (h : s.IsTaken r.projectId r.name r.id) :
    ¬ s.Admits (.regulation r) := by
  rintro ⟨hfree, -⟩
  obtain ⟨g, hg, hid, hkeys⟩ := h
  exact hfree g hg hid hkeys

end Store

/-- A regulation that can be stored has a name that can be stored. -/
theorem Regulation.checkText_name {r : Regulation} (h : (Row.regulation r).check = .ok ()) :
    checkText r.name = .ok () := by
  obtain ⟨_, -, h⟩ := bind_eq_ok.1 h
  obtain ⟨_, hname, -⟩ := bind_eq_ok.1 h
  exact hname

/-- The trail does not say who else was writing. -/
@[simp] theorem Trail.record_contending {notes : List Trail.Note} :
    Trail.record (ctx.contending b) s notes = Trail.record ctx s notes := by
  induction notes generalizing s with
  | nil => rfl
  | cons n notes ih =>
    simp only [Trail.record, ih]
    rfl

namespace Regulations

/-! ### The check of the name -/

/-- A name that nobody has is free in every context. -/
theorem ensureNameFree_of_free
    (h : ∀ g ∈ s.regulations, ¬ (g.projectId = project ∧ g.name = name)) :
    ensureNameFree ctx s project name = checkText name := by
  have hnone : s.regulationsAt project (.byName (some name)) = [] :=
    List.filter_eq_nil_iff.2 fun g hg hkeys => h g hg (of_decide_eq_true hkeys).symm
  simp only [ensureNameFree, hnone]
  cases checkText name <;> simp [bind, Except.bind]

/-- The check sees a regulation with the name unless another writer is about to take it. -/
theorem ensureNameFree_of_taken {g : Regulation} (hname : checkText name = .ok ())
    (hg : g ∈ s.regulations) (hkeys : g.projectId = project ∧ g.name = name) :
    ensureNameFree (ctx.contending b) s project name =
      if b then .ok () else .error (.nameTaken name project) := by
  have hsome : (s.regulationsAt project (.byName (some name))).isEmpty = false := by
    refine List.isEmpty_eq_false_iff_exists_mem.2 ⟨g, List.mem_filter.2 ⟨hg, ?_⟩⟩
    exact decide_eq_true hkeys.symm
  cases b <;> simp [ensureNameFree, Context.contending, hname, hsome, bind, Except.bind]

/-- A regulation may take a name that no other one has, or keep its own, in every context. -/
theorem ensureRenamable_congr (hs : s.Consistent) (hbefore : before ∈ s.regulations)
    (h : ¬ s.IsTaken project name before.id) :
    ensureRenamable ctx s project before name = ensureRenamable ctx' s project before name := by
  unfold ensureRenamable
  split
  · next hrenamed =>
    -- the regulation itself has another name, so that nobody has this one
    have hfree : ∀ g ∈ s.regulations, ¬ (g.projectId = project ∧ g.name = name) := by
      refine fun g hg hkeys => h ⟨g, hg, fun hid => hrenamed ?_, hkeys⟩
      rw [← hkeys.2, eq_of_key_eq hs.regulationIds hg hbefore hid]
    rw [ensureNameFree_of_free hfree, ensureNameFree_of_free hfree]
  · rfl

/-! ### Writes that do not clash -/

theorem create_alike (h : ∀ g ∈ s.regulations, ¬ (g.projectId = project ∧ g.name = draft.name)) :
    create (ctx.contending b) project draft (.start s) =
      create (ctx.contending b') project draft (.start s) := by
  refine query_bind_congr rfl fun type _ => ?_
  refine query_bind_congr rfl fun _ _ => ?_
  refine lift_bind_congr fun config _ => ?_
  refine query_bind_congr ?_ fun _ _ => ?_
  · exact (ensureNameFree_of_free h).trans (ensureNameFree_of_free h).symm
  -- what is written and announced does not depend on other writers
  · rfl

theorem writeChanges_contending {after : Regulation} :
    writeChanges (ctx.contending b) before after = writeChanges ctx before after := by
  simp only [writeChanges, Trail.record_contending]
  rfl

theorem update_alike (hs : s.Consistent)
    (h : ∀ before, find s project address = .ok before →
      ¬ s.IsTaken project (patch.name.getD before.name) before.id) :
    update (ctx.contending b) project address patch (.start s) =
      update (ctx.contending b') project address patch (.start s) := by
  refine query_bind_congr rfl fun before hbefore => ?_
  refine query_bind_congr rfl fun type _ => ?_
  refine query_bind_congr ?_ fun _ _ => ?_
  · exact ensureRenamable_congr hs (mem_of_find_eq_ok hbefore).1 (h before hbefore)
  refine lift_bind_congr fun config _ => ?_
  simp only [writeChanges_contending]
  rfl

/-! ### Writes that clash -/

/-- A regulation whose new name another one has would get another name than it has. -/
theorem name_ne_of_isTaken (hs : s.Consistent) (hbefore : before ∈ s.regulations)
    (h : s.IsTaken before.projectId name before.id) : name ≠ before.name := by
  rintro rfl
  obtain ⟨g, hg, hid, hproject, hname⟩ := h
  exact hid (congrArg _ (eq_of_key_eq hs.regulationNames hg hbefore (Prod.ext hproject hname)))

/-- What a constraint refuses is taken back and told as a clash of names. -/
theorem commitNaming_of_violation {writing : Work Unit} {σ τ : Session}
    (h : writing σ = (.error .constraintViolated, τ)) :
    commitNaming name project writing σ =
      (.error (.nameTaken name project), { τ with working := τ.committed }) := by
  unfold commitNaming rescue
  rw [bind_apply_error h]
  rfl

theorem create_of_clash {type : RegulationType} {config : Option Text} {g : Regulation}
    (htype : Catalog.find s draft.typeId = .ok type) (hproject : requireProject s project = .ok ())
    (hconfig : Config.settle type.name draft.config = .ok config)
    (hrow : (Row.regulation (fresh ctx project draft (nextId (s.regulations.map (·.id))) type
      config)).check = .ok ())
    (hg : g ∈ s.regulations) (hkeys : g.projectId = project ∧ g.name = draft.name) :
    create (ctx.contending b) project draft (.start s) =
      (.error (.nameTaken draft.name project), .start s) := by
  have hname : checkText draft.name = .ok () := Regulation.checkText_name hrow
  refine (query_bind_ok htype).trans ((query_bind_ok hproject).trans ?_)
  refine (lift_bind_ok hconfig).trans ?_
  cases b with
  | false => exact query_bind_error (ensureNameFree_of_taken hname hg hkeys)
  | true =>
    refine (query_bind_ok (ensureNameFree_of_taken hname hg hkeys)).trans ?_
    refine Eq.trans (query_bind_ok (a := nextId (s.regulations.map (·.id))) ?_) ?_
    · rfl
    -- the row is the first that is written, and the constraint refuses it
    have hrefused := Store.insert_of_not_admits hrow
      (Store.not_admits_of_isTaken (Store.isTaken_nextId hg hkeys))
    exact bind_apply_error (commitNaming_of_violation (write_bind_error hrefused))

/-- A regulation that was rewritten has a name that no other one has. -/
theorem Rewritten.not_isTaken {patched r : Regulation} {after : Store} (hs : s.Consistent)
    (h : Rewritten ctx s before patched r after) (hbefore : before ∈ s.regulations)
    (hid : patched.id = before.id) (hproject : patched.projectId = before.projectId) :
    ¬ s.IsTaken before.projectId patched.name before.id := by
  intro htaken
  cases h with
  | unchanged heq => exact name_ne_of_isTaken hs hbefore htaken (congrArg Regulation.name heq)
  | changed hne hrow hwritten =>
    obtain ⟨-, hadmits, -⟩ := Store.replace_eq_ok hwritten
    refine Store.not_admits_of_isTaken ?_ hadmits
    rw [hrow]
    exact hid ▸ hproject ▸ htaken

theorem writeChanges_of_refused {after : Regulation} {σ : Session} (hne : after ≠ before)
    (h : σ.working.replace (.regulation { after with updatedAt := ctx.clock }) =
      .error .constraintViolated) :
    writeChanges ctx before after σ = (.error .constraintViolated, σ) := by
  unfold writeChanges
  rw [if_pos hne]
  exact write_bind_error h

theorem update_of_clash {type : RegulationType} {config : Option Text} (hs : s.Consistent)
    (hbefore : find s project address = .ok before)
    (htype : Catalog.find s (patch.typeId.getD before.typeId) = .ok type)
    (hconfig : Config.settle type.name (patch.config.getD before.config) = .ok config)
    (hrow : (Row.regulation { patched before patch type config with
      updatedAt := ctx.clock }).check = .ok ())
    (htaken : s.IsTaken project (patch.name.getD before.name) before.id) :
    update (ctx.contending b) project address patch (.start s) =
      (.error (.nameTaken (patch.name.getD before.name) project), .start s) := by
  obtain ⟨hmem, hproject⟩ := mem_of_find_eq_ok hbefore
  have hname : checkText (patch.name.getD before.name) = .ok () := Regulation.checkText_name hrow
  have hrenamed := name_ne_of_isTaken hs hmem (hproject ▸ htaken)
  have hcheck : ensureRenamable (ctx.contending b) s project before (patch.name.getD before.name) =
      if b then .ok () else .error (.nameTaken (patch.name.getD before.name) project) := by
    obtain ⟨g, hg, -, hkeys⟩ := id htaken
    rw [ensureRenamable, if_pos hrenamed, ensureNameFree_of_taken hname hg hkeys]
  refine (query_bind_ok hbefore).trans ((query_bind_ok htype).trans ?_)
  cases b with
  | false => exact query_bind_error hcheck
  | true =>
    refine (query_bind_ok hcheck).trans ((lift_bind_ok hconfig).trans ?_)
    -- the regulation would get another name, so that it is written, and the constraint refuses it
    have hne : patched before patch type config ≠ before := fun heq =>
      hrenamed (congrArg Regulation.name heq)
    have hrefused := Store.replace_of_not_admits hrow (Store.not_admits_of_isTaken
      (show s.IsTaken before.projectId _ _ from hproject ▸ htaken))
    exact bind_apply_error (commitNaming_of_violation (writeChanges_of_refused hne hrefused))

end Regulations

/-! ### Operations that ask for a name -/

namespace Operation

/-- The operation asks for a regulation to be written under a name. -/
def AsksForName : Operation → Prop
  | .createRegulation .. | .updateRegulation .. => True
  | _ => False

/-- What comes of the operation when another writer does or does not take names after the check. -/
def outcomeUnder (op : Operation) (ctx : Context) (s : Store) (contended : Bool) :
    Written (Except Fault Answer) :=
  (op.run (ctx.contending contended)).perform s

/-- The operation asks for a name in a project, and another regulation of the project has it. -/
inductive Clashes (s : Store) : Operation → Text → Int → Prop
  | creation {project : Int} {draft : Draft} {g : Regulation} (hg : g ∈ s.regulations)
      (hkeys : g.projectId = project ∧ g.name = draft.name) :
      Clashes s (.createRegulation project draft) draft.name project
  | update {project : Int} {address : Address} {patch : Patch} {before : Regulation}
      (hbefore : Regulations.find s project address = .ok before)
      (htaken : s.IsTaken project (patch.name.getD before.name) before.id) :
      Clashes s (.updateRegulation project address patch) (patch.name.getD before.name) project

/-- Nothing but the name can be wrong with the operation: what it names is there, the config is
settled, and the row can be stored. -/
def PassesButForName (ctx : Context) (s : Store) : Operation → Prop
  | .createRegulation project draft => ∃ type config,
      Catalog.find s draft.typeId = .ok type ∧
      Regulations.requireProject s project = .ok () ∧
      Config.settle type.name draft.config = .ok config ∧
      (Row.regulation (Regulations.fresh ctx project draft (nextId (s.regulations.map (·.id)))
        type config)).check = .ok ()
  | .updateRegulation project address patch => ∃ before type config,
      Regulations.find s project address = .ok before ∧
      Catalog.find s (patch.typeId.getD before.typeId) = .ok type ∧
      Config.settle type.name (patch.config.getD before.config) = .ok config ∧
      (Row.regulation { Regulations.patched before patch type config with
        updatedAt := ctx.clock }).check = .ok ()
  | _ => False

/-- The check of the name and the constraint of the table decide alike about the operation. -/
structure DecidedAlike (ctx : Context) (s : Store) (op : Operation) : Prop where
  /-- what succeeds in one mode comes to the same in the other: the same answer, the same tables
  with their trail, and the same announcements -/
  success : ∀ b answer, (op.outcomeUnder ctx s b).answer = .ok answer → ∀ b',
    op.outcomeUnder ctx s b' = op.outcomeUnder ctx s b
  /-- what fails in one mode fails in both, and neither leaves a trace -/
  failure : ∀ b f, (op.outcomeUnder ctx s b).answer = .error f → ∀ b',
    (∃ f', (op.outcomeUnder ctx s b').answer = .error f') ∧
      (op.outcomeUnder ctx s b').store = s ∧ (op.outcomeUnder ctx s b').announcements = []
  /-- a clash of names that is all that is wrong is told alike in both modes -/
  clash : ∀ name project, op.Clashes s name project → op.PassesButForName ctx s → ∀ b,
    (op.outcomeUnder ctx s b).answer = .error (.nameTaken name project)
  /-- a name is only told to be taken where another regulation of the project has it -/
  taken : ∀ b name project, (op.outcomeUnder ctx s b).answer = .error (.nameTaken name project) →
    op.Clashes s name project
  /-- a regulation may always keep its name -/
  keeping : ∀ b project address patch before, op = .updateRegulation project address patch →
    Regulations.find s project address = .ok before →
    patch.name.getD before.name = before.name →
    ∀ name other, (op.outcomeUnder ctx s b).answer ≠ .error (.nameTaken name other)

variable {op : Operation} {answer : Answer} {after : Store} {announcements : List Announcement}

/-- What is carried out does not clash. -/
theorem Outcome.not_clashes (hs : s.Consistent) (h : Outcome ctx s op answer after announcements) :
    ¬ op.Clashes s name project := by
  rintro (⟨hg, hkeys⟩ | ⟨hbefore, htaken⟩)
  · cases h with
    | read h => exact h
    | upserted hpair hwrites h => cases hwrites
    | created h =>
      obtain ⟨-, -, hadmits, -⟩ := Store.insert_eq_ok h.written
      refine Store.not_admits_of_isTaken ?_ hadmits
      rw [h.row_eq]
      exact Store.isTaken_nextId hg hkeys
  · cases h with
    | read h => exact h
    | upserted hpair hwrites h => cases hwrites
    | updated h =>
      obtain rfl := Except.ok.inj (hbefore.symm.trans h.found)
      obtain ⟨hmem, hproject⟩ := Regulations.mem_of_find_eq_ok hbefore
      exact h.rewritten.not_isTaken hs hmem rfl rfl (hproject ▸ htaken)

/-- Without a clash an operation runs alike either way. -/
theorem run_alike (hs : s.Consistent) (hop : op.AsksForName)
    (h : ∀ name project, ¬ op.Clashes s name project) :
    op.run (ctx.contending b) (.start s) = op.run (ctx.contending b') (.start s) := by
  cases op with
  | createRegulation project draft =>
    refine map_congr (Regulations.create_alike fun g hg hkeys => ?_)
    exact h draft.name project (.creation hg hkeys)
  | updateRegulation project address patch =>
    refine map_congr (Regulations.update_alike hs fun before hbefore htaken => ?_)
    exact h _ project (.update hbefore htaken)
  | _ => exact hop.elim

/-- With a clash it fails alike either way. -/
theorem run_of_clash (hs : s.Consistent) (h : op.Clashes s name project)
    (hpasses : op.PassesButForName ctx s) :
    op.run (ctx.contending b) (.start s) = (.error (.nameTaken name project), .start s) := by
  cases h with
  | creation hg hkeys =>
    obtain ⟨type, config, htype, hproject, hconfig, hrow⟩ := hpasses
    exact bind_apply_error (Regulations.create_of_clash htype hproject hconfig hrow hg hkeys)
  | update hbefore htaken =>
    obtain ⟨before, type, config, hfound, htype, hconfig, hrow⟩ := hpasses
    obtain rfl := Except.ok.inj (hbefore.symm.trans hfound)
    exact bind_apply_error (Regulations.update_of_clash hs hfound htype hconfig hrow htaken)

/-- A name is only told to be taken where there is a clash. -/
theorem run_refuses_taken (hs : s.Sound) (hop : op.AsksForName) :
    (op.run ctx).Refuses (.start s) fun f =>
      ∀ name project, f = .nameTaken name project → op.Clashes s name project := by
  have hstorage (op : Operation) (f : Fault) (hf : f.IsUnstorable) (name : Text) (project : Int)
      (h : f = .nameTaken name project) : op.Clashes s name project := by
    subst h
    cases hf
  cases op with
  | createRegulation project draft =>
    refine Refuses.map (Regulations.create_refuses (hstorage _) nofun nofun (fun _ => nofun) nofun
      fun ⟨g, hg, _, hkeys⟩ => ?_)
    rintro _ _ ⟨⟩
    exact .creation hg hkeys
  | updateRegulation project address patch =>
    refine Refuses.map (Regulations.update_refuses hs (hstorage _) nofun (fun _ _ => nofun)
      (fun before hbefore htaken => ?_) fun _ => ⟨nofun, fun _ => nofun⟩)
    rintro _ _ ⟨⟩
    exact .update hbefore htaken
  | _ => exact hop.elim

/-- The check of the name and the constraint of the table decide alike about an operation on a
sound store. -/
theorem decidedAlike (hs : s.Sound) (hop : op.AsksForName) : op.DecidedAlike ctx s := by
  have hc := hs.toConsistent
  have hsuccess (b : Bool) (answer : Answer) (hok : (op.outcomeUnder ctx s b).answer = .ok answer)
      (b' : Bool) : op.outcomeUnder ctx s b' = op.outcomeUnder ctx s b :=
    perform_congr (run_alike hc hop fun _ _ => (outcome_of_perform hc hok).not_clashes hc)
  have htaken (b : Bool) (name : Text) (project : Int)
      (h : (op.outcomeUnder ctx s b).answer = .error (.nameTaken name project)) :
      op.Clashes s name project :=
    (run_refuses_taken hs hop).perform h name project rfl
  refine { success := hsuccess, failure := ?_, clash := ?_, taken := htaken, keeping := ?_ }
  · intro b f hf b'
    cases h : (op.outcomeUnder ctx s b').answer with
    | ok answer =>
      -- it would succeed in the other mode, too
      rw [hsuccess b' answer h b, h] at hf
      cases hf
    | error f' => exact ⟨⟨f', rfl⟩, (run_leads hc op).perform_error h⟩
  · intro name project hclash hpasses b
    exact congrArg (fun r : Except Fault Answer × Session => r.1) (run_of_clash hc hclash hpasses)
  · rintro b project address patch before rfl hbefore hkept name other h
    cases htaken b name other h with
    | update hfound htaken =>
      obtain rfl := Except.ok.inj (hbefore.symm.trans hfound)
      obtain ⟨hmem, hproject⟩ := Regulations.mem_of_find_eq_ok hbefore
      exact Regulations.name_ne_of_isTaken hc hmem (hproject ▸ htaken) hkept

end Operation

/-- The arrival with or without another writer who takes names after the check. -/
def Arrival.contending (a : Arrival) (contended : Bool) : Arrival :=
  { a with context := a.context.contending contended }

namespace World

variable {settings : Settings} {w : World} {steps : List (Context × Step)}

/-- After every run of calls, the check of the name and the constraint of the table decide alike
about creations and updates. A request that asks for one is answered, in either mode, by what comes
of it in that mode. -/
theorem names_decided_alike (h : w.store.Initial) (hsteps : ∀ p ∈ steps, p.2.IsCall) :
    (∀ (ctx : Context) (op : Operation), op.AsksForName →
      op.DecidedAlike ctx (w.run settings steps).2.store) ∧
    (∀ (a : Arrival) (op : Operation) (b : Bool),
      Server.operationOf? settings a.request = some op →
      (a.contending b).outcome settings (w.run settings steps).2.store =
        (op.outcomeUnder (Server.contextOf a.context a.request)
          (w.run settings steps).2.store b).map (Server.present settings a.request op)) :=
  ⟨fun _ _ hop => Operation.decidedAlike (sound_run h.kept.toSound hsteps) hop,
    fun _ _ _ hop => Server.handle_of_operation hop⟩

/-- A second regulation of a name is refused, whether the check sees the first one or not. -/
theorem second_creation_refused :
    sample.store.Initial ∧ (∀ p ∈ [Arrival.creation.step], p.2.IsCall) ∧
    ∀ b, ((Operation.createRegulation 1 ⟨"r", none, none, 1, none, 0⟩).outcomeUnder
        Arrival.creation.context
        (sample.run (.ofDatabase "sqlite") [Arrival.creation.step]).2.store b).answer =
      .error (.nameTaken "r" 1) := by
  have hcalls : ∀ p ∈ [Arrival.creation.step], p.2.IsCall := fun p hp => by
    obtain rfl := List.mem_singleton.1 hp
    trivial
  have halike : (Operation.createRegulation 1 ⟨"r", none, none, 1, none, 0⟩).DecidedAlike
      Arrival.creation.context
      (sample.run (.ofDatabase "sqlite") [Arrival.creation.step]).2.store :=
    (names_decided_alike (w := sample) Store.initial_sample hcalls).1 _ _ trivial
  refine ⟨Store.initial_sample, hcalls, halike.clash "r" 1 ?_ ?_⟩
  · exact .creation (g := ⟨1, "r", none, none, none, 0, 1, 1, ⟨0⟩, ⟨0⟩⟩) (by decide +kernel)
      ⟨rfl, rfl⟩
  · exact ⟨⟨1, "Boolean", none⟩, none, by decide +kernel, by decide +kernel, by decide +kernel,
      by decide +kernel⟩

end World

end ComplianceRegistry
