import ComplianceRegistry.Proofs.Refusals

/-!
# The faults in which operations end

On a sound store an operation can only end in a few faults: something it names is missing, a name
is taken, a config or a value cannot be read, or an integer or a text cannot be stored. It never
meets several rows where there can be one only, the row it has just written is never gone, and an
update that touches neither the type nor the config never finds fault with the config.

## Main definitions

* `Store.IsTaken` — another regulation of the project has the name
* `Operation.MayEndIn` — the faults in which an operation may end

## Main results

* `Operation.run_refuses` — an operation on a sound store ends in no other faults
-/

namespace ComplianceRegistry

open Work

variable {ctx : Context} {s : Store} {project regulation : Int} {address : Address}
variable {catalogId : Text} {f : Fault} {r before : Regulation} {v : Version} {w : StatusWrite}

/-! ### Faults of look-ups -/

theorem sole_ne_error {α : Type} {rows : List α} (h : rows.length ≤ 1) : sole rows ≠ .error f := by
  rw [sole_of_length_le_one h]
  simp

/-- A verdict fails for a type that is no kind, or on a number beyond the bounds. -/
theorem Verdict.evaluate_eq_error {typeName : Text} {config value : Option Text}
    (h : Verdict.evaluate typeName config value = .error f) :
    (∃ name, f = .unsupportedType name) ∨ f = .numberBeyondBounds := by
  unfold Verdict.evaluate at h
  split at h
  · exact .inl ⟨typeName, (Except.error.inj h).symm⟩
  · simp at h
  · unfold Verdict.threshold at h
    split at h
    · exact .inr (Except.error.inj h).symm
    · exact .inr (Except.error.inj h).symm
    · simp at h
    · simp at h
  · simp at h

namespace Store

/-- Another regulation of the project than the one with this id has the name. -/
def IsTaken (s : Store) (project : Int) (name : Text) (id : Int) : Prop :=
  ∃ g ∈ s.regulations, g.id ≠ id ∧ g.projectId = project ∧ g.name = name

/-- A name that a regulation has is taken for a new one. -/
theorem isTaken_nextId {name : Text} (hr : r ∈ s.regulations)
    (hkeys : r.projectId = project ∧ r.name = name) :
    s.IsTaken project name (nextId (s.regulations.map (·.id))) :=
  ⟨r, hr, Int.ne_of_lt (lt_nextId (List.mem_map_of_mem hr)), hkeys⟩

/-- A regulation whose type and project exist is only refused for its name. -/
theorem isTaken_of_not_admits (h : ¬ s.Admits (.regulation r))
    (htype : r.typeId ∈ s.types.map (·.id)) (hproject : r.projectId ∈ s.projects.map (·.id)) :
    s.IsTaken r.projectId r.name r.id := by
  by_contra hfree
  refine h ⟨fun g hg hid hkeys => hfree ⟨g, hg, hid, hkeys⟩, ?_, ?_⟩
  · exact List.mem_map.1 htype
  · exact List.mem_map.1 hproject

end Store

namespace Regulations

theorem checkAddress_eq_error (h : checkAddress address = .error f) : f.IsUnstorable := by
  cases address with
  | byId id => exact checkInteger_eq_error h
  | byName name => exact checkText?_eq_error h

theorem find_eq_error (hs : s.Consistent) (h : find s project address = .error f) :
    f.IsUnstorable ∨ f = .notFound (.regulation address project) := by
  rcases bind_eq_error h with h | ⟨_, -, h⟩
  · exact .inl (checkInteger_eq_error h)
  rcases bind_eq_error h with h | ⟨_, -, h⟩
  · exact .inl (checkAddress_eq_error h)
  rcases bind_eq_error h with h | ⟨found, -, h⟩
  · exact absurd h (sole_ne_error hs.length_regulationsAt_le_one)
  · cases found with
    | none => exact .inr (Except.error.inj h).symm
    | some r => simp at h

/-- The type of a regulation is there, so that a view can only fail on its id. -/
theorem view_eq_error (hs : s.Consistent) (hr : r ∈ s.regulations) (h : view s r = .error f) :
    f.IsUnstorable := by
  rcases bind_eq_error h with h | ⟨_, -, h⟩
  · exact Catalog.find_eq_error_of_mem h (hs.regulationTypes r hr)
  · simp at h

theorem get_eq_error (hs : s.Consistent) (h : get s project address = .error f) :
    f.IsUnstorable ∨ f = .notFound (.regulation address project) := by
  rcases bind_eq_error h with h | ⟨r, hr, h⟩
  · exact find_eq_error hs h
  · exact .inl (view_eq_error hs (mem_of_find_eq_ok hr).1 h)

theorem list_eq_error (hs : s.Consistent) (h : list s project = .error f) : f.IsUnstorable := by
  rcases bind_eq_error h with h | ⟨_, -, h⟩
  · exact checkInteger_eq_error h
  · have hviews (rows : List Regulation) (hrows : ∀ r ∈ rows, r ∈ s.regulations)
        (h : rows.mapM (view s) = .error f) : f.IsUnstorable := by
      induction rows with
      | nil => simp [pure, Except.pure] at h
      | cons r rows ih =>
        rw [List.mapM_cons] at h
        rcases bind_eq_error h with h | ⟨_, -, h⟩
        · exact view_eq_error hs (hrows r (List.mem_cons_self ..)) h
        rcases bind_eq_error h with h | ⟨_, -, h⟩
        · exact ih (fun g hg => hrows g (List.mem_cons_of_mem r hg)) h
        · simp [pure, Except.pure] at h
    refine hviews (ofProject s project) (fun r hr => ?_) h
    exact List.mem_of_mem_filter (List.mem_mergeSort.1 hr)

theorem requireProject_eq_error (h : requireProject s project = .error f) :
    f.IsUnstorable ∨ f = .notFound (.project project) := by
  rcases bind_eq_error h with h | ⟨_, -, h⟩
  · exact .inl (checkInteger_eq_error h)
  · split at h
    · exact .inr (Except.error.inj h).symm
    · simp at h

theorem mem_of_requireProject_eq_ok (h : requireProject s project = .ok ()) :
    project ∈ s.projects.map (·.id) := by
  obtain ⟨_, -, h⟩ := bind_eq_ok.1 h
  split at h
  · simp at h
  · next hthere =>
    obtain ⟨p, hp⟩ := Option.ne_none_iff_exists'.1 (mt Option.isNone_iff_eq_none.2 hthere)
    obtain ⟨hmem, rfl⟩ := findById_eq_some hp
    exact List.mem_map_of_mem hmem

/-- A name that is not free is that of a regulation of the project. -/
theorem ensureNameFree_eq_error {name : Text}
    (h : ensureNameFree ctx s project name = .error f) :
    f.IsUnstorable ∨ f = .nameTaken name project ∧
      ∃ g ∈ s.regulations, g.projectId = project ∧ g.name = name := by
  rcases bind_eq_error h with h | ⟨_, -, h⟩
  · exact .inl (checkText_eq_error h)
  · split at h
    · next htaken =>
      have hne : s.regulationsAt project (.byName (some name)) ≠ [] := by
        rintro hnil
        simp [hnil] at htaken
      obtain ⟨g, hg⟩ := List.exists_mem_of_ne_nil _ hne
      obtain ⟨hg, hkeys⟩ := List.mem_filter.1 hg
      obtain ⟨hname, hproject⟩ := of_decide_eq_true hkeys
      exact .inr ⟨(Except.error.inj h).symm, g, hg, hproject, hname⟩
    · simp at h

/-- A name that a regulation may not take is that of another one. -/
theorem ensureRenamable_eq_error {name : Text} (hs : s.Consistent)
    (hbefore : before ∈ s.regulations)
    (h : ensureRenamable ctx s project before name = .error f) :
    f.IsUnstorable ∨ f = .nameTaken name project ∧ s.IsTaken project name before.id := by
  unfold ensureRenamable at h
  split at h
  · next hrenamed =>
    refine (ensureNameFree_eq_error h).imp_right fun ⟨hf, g, hg, hproject, hname⟩ => ?_
    -- the regulation itself has its old name still
    refine ⟨hf, g, hg, fun hid => hrenamed ?_, hproject, hname⟩
    rw [← hname, eq_of_key_eq hs.regulationIds hg hbefore hid]
  · simp at h

/-- A refusal by a constraint is told as a clash of names, any other fault as it is. -/
theorem commitNaming_refuses {name : Text} {writing : Work Unit} {σ : Session} {clash : Prop}
    (h : writing.Refuses σ fun f => f.IsUnstorable ∨ f = .constraintViolated ∧ clash) :
    (commitNaming name project writing).Refuses σ fun f =>
      f.IsUnstorable ∨ f = .nameTaken name project ∧ clash := by
  refine Refuses.rescue (h.bind fun _ _ _ => Refuses.of_commit) fun f τ hf => ?_
  -- the handler looks at the fault itself, so that each has to be named here
  rcases hf with (_ | _) | ⟨rfl, hclash⟩
  · exact Refuses.of_fail (.inl .integer)
  · exact Refuses.of_fail (.inl .text)
  · exact Refuses.of_rollback.bind fun _ _ _ => Refuses.of_fail (.inr ⟨rfl, hclash⟩)

/-! ### Faults of writes to regulations -/

variable {draft : Draft} {patch : Patch} {E : Fault → Prop}

theorem create_refuses (hstorage : ∀ f, f.IsUnstorable → E f)
    (htype : E (.notFound (.regulationType draft.typeId)))
    (hproject : E (.notFound (.project project)))
    (hconfig : ∀ kind, E (.configNotNumber kind)) (hbounds : E .numberBeyondBounds)
    (hname : s.IsTaken project draft.name (nextId (s.regulations.map (·.id))) →
      E (.nameTaken draft.name project)) :
    (create ctx project draft).Refuses (.start s) E := by
  refine Refuses.query_bind (fun f h => ?_) fun type hfound => ?_
  · rcases Catalog.find_eq_error h with h | ⟨rfl, -⟩
    exacts [hstorage f h, htype]
  refine Refuses.query_bind (fun f h => ?_) fun _ hthere => ?_
  · rcases requireProject_eq_error h with h | rfl
    exacts [hstorage f h, hproject]
  refine Refuses.lift_bind (fun f h => ?_) fun config hsettled => ?_
  · rcases Config.settle_eq_error h with ⟨kind, rfl⟩ | rfl
    exacts [hconfig kind, hbounds]
  refine Refuses.query_bind (fun f h => ?_) fun _ hfree => ?_
  · rcases ensureNameFree_eq_error h with h | ⟨rfl, g, hg, htaken⟩
    · exact hstorage f h
    · exact hname (Store.isTaken_nextId hg htaken)
  refine Refuses.query_bind (fun f h => ?_) fun id hid => ?_
  · simp at h
  -- once the row is committed it is read back and announced, where nothing can fail
  obtain rfl := Except.ok.inj hid
  refine Refuses.bind_leads ?_ (insertion_leads hfound hthere hsettled hfree rfl)
    fun _ _ => Refuses.of_yields
  have hwriting : Refuses (do
      write (·.insert (.regulation
        (fresh ctx project draft (nextId (s.regulations.map (·.id))) type config)))
      write (Trail.record ctx ·
        [.row .regulations .create (nextId (s.regulations.map (·.id)))])) (.start s)
      fun f => f.IsUnstorable ∨ f = .constraintViolated ∧
        s.IsTaken project draft.name (nextId (s.regulations.map (·.id))) := by
    refine Refuses.write_bind (fun f h => ?_) fun _ _ => Refuses.of_write fun f h => ?_
    · refine (Store.insert_eq_error h).imp_right fun ⟨hf, hrefused⟩ => ⟨hf, ?_⟩
      -- the type and the project were found, and the id is not in use
      have hnew : (s.row? .regulations (nextId (s.regulations.map (·.id)))).isNone := by
        rw [← Store.nextIdOf_regulations, Store.row?_nextIdOf]
        rfl
      exact Store.isTaken_of_not_admits (fun hadmits => hrefused ⟨hnew, hadmits⟩)
        (List.mem_map_of_mem (Catalog.find_eq_ok hfound).1) (mem_of_requireProject_eq_ok hthere)
    · exact .inl (Trail.record_eq_error h)
  refine (commitNaming_refuses hwriting).mono ?_
  rintro f (h | ⟨rfl, htaken⟩)
  exacts [hstorage f h, hname htaken]

/-- A write of changes is refused where the row is, or its entries in the trail. -/
theorem writeChanges_refuses {after : Regulation} {σ : Session} :
    (writeChanges ctx before after).Refuses σ fun f => f.IsUnstorable ∨ f = .constraintViolated ∧
      ¬ σ.working.Admits (.regulation { after with updatedAt := ctx.clock }) := by
  unfold writeChanges
  split
  · refine Refuses.write_bind (fun f h => ?_) fun _ _ =>
      Refuses.of_write fun f h => .inl (Trail.record_eq_error h)
    exact Store.replace_eq_error h
  · exact Refuses.of_pure

/-- The config of a regulation that gets neither another type nor another config is kept. -/
theorem settle_of_configures {type : RegulationType} (hs : s.Sound) (hr : r ∈ s.regulations)
    (htype : Catalog.find s r.typeId = .ok type) :
    Config.settle type.name r.config = .ok r.config := by
  obtain ⟨t, ht, hid, hgrammar⟩ := hs.configures r hr
  obtain ⟨htypes, htypeId⟩ := Catalog.find_eq_ok htype
  obtain rfl := eq_of_key_eq hs.typeIds ht htypes (hid.trans htypeId.symm)
  exact Config.settle_of_grammatical hgrammar

theorem update_refuses (hs : s.Sound) (hstorage : ∀ f, f.IsUnstorable → E f)
    (hmissing : E (.notFound (.regulation address project)))
    (htype : ∀ id, patch.typeId = some id → E (.notFound (.regulationType id)))
    (hname : ∀ before, find s project address = .ok before →
      s.IsTaken project (patch.name.getD before.name) before.id →
      E (.nameTaken (patch.name.getD before.name) project))
    (hconfig : patch.typeId ≠ none ∨ patch.config ≠ none →
      E .numberBeyondBounds ∧ ∀ kind, E (.configNotNumber kind)) :
    (update ctx project address patch).Refuses (.start s) E := by
  refine Refuses.query_bind (fun f h => ?_) fun before hbefore => ?_
  · rcases find_eq_error hs.toConsistent h with h | rfl
    exacts [hstorage f h, hmissing]
  obtain ⟨hmem, hproject⟩ := mem_of_find_eq_ok hbefore
  refine Refuses.query_bind (fun f h => ?_) fun type hfound => ?_
  -- the type that a regulation has exists, so that only a patched one can be missing
  · cases hpatched : patch.typeId with
    | none =>
      rw [hpatched] at h
      exact hstorage f (Catalog.find_eq_error_of_mem h (hs.regulationTypes before hmem))
    | some id =>
      rw [hpatched] at h
      rcases Catalog.find_eq_error h with h | ⟨rfl, -⟩
      exacts [hstorage f h, htype id hpatched]
  refine Refuses.query_bind (fun f h => ?_) fun _ hrenamable => ?_
  · rcases ensureRenamable_eq_error hs.toConsistent hmem h with h | ⟨rfl, htaken⟩
    exacts [hstorage f h, hname before hbefore htaken]
  refine Refuses.lift_bind (fun f h => ?_) fun config hsettled => ?_
  -- a config that is left alone is settled again for the type that it was settled for before
  · have hpatched : patch.typeId ≠ none ∨ patch.config ≠ none := by
      by_contra hnone
      obtain ⟨htypeId, hconfig⟩ := not_or.1 hnone
      rw [not_not.1 htypeId] at hfound
      rw [not_not.1 hconfig] at h
      have hkept := settle_of_configures hs hmem hfound
      simp [hkept] at h
    rcases Config.settle_eq_error h with ⟨kind, rfl⟩ | rfl
    exacts [(hconfig hpatched).2 kind, (hconfig hpatched).1]
  refine Refuses.bind_leads ?_ (rewriting_leads hs.toConsistent hbefore hfound hrenamable hsettled)
    fun _ _ => Refuses.of_yields
  refine (commitNaming_refuses writeChanges_refuses).mono ?_
  rintro f (h | ⟨rfl, hrefused⟩)
  · exact hstorage f h
  -- the type was found, and the project is the one that the regulation has been in
  have htaken := Store.isTaken_of_not_admits hrefused
    (List.mem_map_of_mem (Catalog.find_eq_ok hfound).1) (hs.regulationProjects before hmem)
  exact hname before hbefore (hproject ▸ htaken)

theorem delete_refuses (hs : s.Consistent) (hstorage : ∀ f, f.IsUnstorable → E f)
    (hmissing : E (.notFound (.regulation address project))) :
    (delete ctx project address).Refuses (.start s) E := by
  refine Refuses.query_bind (fun f h => ?_) fun row hrow => ?_
  · rcases find_eq_error hs h with h | rfl
    exacts [hstorage f h, hmissing]
  refine Refuses.query_bind (fun f h => ?_) fun shown _ => ?_
  · exact hstorage f (view_eq_error hs (mem_of_find_eq_ok hrow).1 h)
  -- rows that are there can always be removed, so that only the trail may refuse its entry
  refine Refuses.write_bind (fun f h => ?_) fun _ _ => ?_
  · simp at h
  refine Refuses.write_bind (fun f h => ?_) fun _ _ => ?_
  · simp [Store.remove] at h
  refine Refuses.write_bind (fun f h => ?_) fun _ _ => ?_
  · exact hstorage f (Trail.record_eq_error h)
  exact Refuses.of_commit.bind fun _ _ _ => Refuses.of_announce.bind fun _ _ _ => Refuses.of_pure

end Regulations

namespace Statuses

theorem findPair_eq_error (hs : s.Consistent)
    (h : findPair s project regulation catalogId = .error f) :
    f.IsUnstorable ∨ f = .notFound (.version catalogId) ∨
      f = .notFound (.regulation (.byId regulation) project) := by
  rcases bind_eq_error h with h | ⟨_, -, h⟩
  · exact .inl (checkInteger_eq_error h)
  rcases bind_eq_error h with h | ⟨_, -, h⟩
  · exact .inl (checkInteger_eq_error h)
  rcases bind_eq_error h with h | ⟨_, -, h⟩
  · exact .inl (checkText_eq_error h)
  rcases bind_eq_error h with h | ⟨r, -, h⟩
  · exact absurd h (sole_ne_error hs.length_regulationsAt_le_one)
  rcases bind_eq_error h with h | ⟨v, -, h⟩
  · exact absurd h (sole_ne_error hs.length_versionsAt_le_one)
  split at h
  · simp at h
  · exact .inr (.inr (Except.error.inj h).symm)
  · exact .inr (.inl (Except.error.inj h).symm)

theorem get_eq_error (h : get s project regulation catalogId = .error f) :
    f.IsUnstorable ∨ f = .notFound (.status regulation project catalogId) := by
  rcases bind_eq_error h with h | ⟨_, -, h⟩
  · exact .inl (checkInteger_eq_error h)
  rcases bind_eq_error h with h | ⟨_, -, h⟩
  · exact .inl (checkInteger_eq_error h)
  rcases bind_eq_error h with h | ⟨_, -, h⟩
  · exact .inl (checkText_eq_error h)
  dsimp only at h
  split at h
  · simp at h
  · exact .inr (Except.error.inj h).symm

theorem list_eq_error (h : list s project catalogId = .error f) : f.IsUnstorable := by
  rcases bind_eq_error h with h | ⟨_, -, h⟩
  · exact checkInteger_eq_error h
  rcases bind_eq_error h with h | ⟨_, -, h⟩
  · exact checkText_eq_error h
  · simp at h

/-- A row with the keys of a pair is admitted when no other row has them. -/
theorem admits_of_pair (hpair : Pair s project regulation catalogId r v) {row : Status}
    (hkeys : row.regulationId = r.id ∧ row.versionId = v.id)
    (hother : ∀ st ∈ s.statusesAt r.id v.id, st.id = row.id) : s.Admits (.status row) := by
  refine ⟨fun st hst hne hsame => hne (hother st (List.mem_filter.2 ⟨hst, ?_⟩)),
    ⟨r, hpair.regulation_mem, hkeys.1.symm⟩, ⟨v, hpair.version_mem, hkeys.2.symm⟩⟩
  simp [hsame, hkeys]

/-- The row that replaces that of a pair is admitted. -/
theorem admits_replacement {st : Status} (hs : s.Consistent)
    (hpair : Pair s project regulation catalogId r v)
    (hhead : (s.statusesAt r.id v.id).head? = some st) :
    s.Admits (.status { w.apply st with updatedAt := ctx.clock }) := by
  have hsole : s.statusesAt r.id v.id = [st] := by
    have hlength : (s.statusesAt r.id v.id).length ≤ 1 := hs.length_statusesAt_le_one
    rw [sole_eq_ok (sole_of_length_le_one hlength), hhead]
    rfl
  -- the only row with the keys of the pair is the one that is replaced
  have hkeys := keys_of_mem_statusesAt (List.mem_of_head? hhead)
  refine admits_of_pair hpair (by simpa using hkeys) ?_
  simp [hsole]

/-- The row that is added for a pair without one has an id of its own and is admitted. -/
theorem admits_addition (hpair : Pair s project regulation catalogId r v)
    (hnone : s.statusesAt r.id v.id = []) :
    (s.row? .statuses (w.apply (fresh ctx s r v)).id).isNone ∧
      s.Admits (.status (w.apply (fresh ctx s r v))) := by
  constructor
  · rw [apply_id, fresh, ← Store.nextIdOf_statuses, Store.row?_nextIdOf]
    rfl
  · refine admits_of_pair hpair (by simp [fresh]) ?_
    simp [hnone]

/-- The statement that adds or replaces the row of a pair is never refused by a constraint. -/
theorem upsert_eq_error (hs : s.Consistent) (hpair : Pair s project regulation catalogId r v)
    (h : upsert ctx r v w s = .error f) : f.IsUnstorable := by
  unfold upsert at h
  cases hhead : (s.statusesAt r.id v.id).head? with
  | some st =>
    simp only [hhead] at h
    exact (Store.replace_eq_error h).resolve_right fun hrefused =>
      hrefused.2 (admits_replacement hs hpair hhead)
  | none =>
    simp only [hhead] at h
    exact (Store.insert_eq_error h).resolve_right fun hrefused =>
      hrefused.2 (admits_addition hpair (List.head?_eq_none_iff.1 hhead))

/-! ### Faults of writes to statuses -/

variable {E : Fault → Prop} {value : Option Text} {details : Document} {compliant : Option Bool}

/-- A pair that was just written has its row. -/
theorem idOfPair_of_upsert {written : Store} (hs : s.Consistent)
    (h : upsert ctx r v w s = .ok written) :
    ∃ row, idOfPair written r v = .ok row.id ∧ Upserted ctx s r v w row
      (Trail.logged ctx (putNotes (s.statusesAt r.id v.id).head? row.id w) written) := by
  obtain ⟨row, hrow⟩ := upsert_eq_ok h
  have hat := hrow.statusesAt_eq hs
  change written.statusesAt r.id v.id = [row] at hat
  refine ⟨row, ?_, hrow⟩
  simp [idOfPair, ofPair, hat, sole, bind, Except.bind]

/-- A write for a pair ends in the faults of its statement and in those of the trail: what was
written is found, and is read back without fail. -/
theorem write_refuses (hs : s.Consistent) (hpair : Pair s project regulation catalogId r v)
    (hupsert : ∀ f, upsert ctx r v w s = .error f → E f)
    (hrecord : ∀ row written f, Upserted ctx s r v w row
        (Trail.logged ctx (putNotes (s.statusesAt r.id v.id).head? row.id w) written) →
      written.audit = s.audit →
      Trail.record ctx written (putNotes (s.statusesAt r.id v.id).head? row.id w) = .error f →
      E f) :
    (write ctx project r v w).Refuses (.start s) E := by
  have hput : (put ctx r v w).Refuses (.start s) E := by
    refine Refuses.query_bind (fun f h => ?_) fun before hbefore => ?_
    · simp at h
    refine Refuses.write_bind hupsert fun written hwrite => ?_
    obtain ⟨row, hid, hrow⟩ := idOfPair_of_upsert hs hwrite
    refine Refuses.query_bind (fun f h => ?_) fun id hfound => ?_
    · simp [hid] at h
    -- the entries name the row by the id that is looked up after it was written
    obtain rfl := Except.ok.inj hbefore
    obtain rfl := ok_unique hid hfound
    exact Refuses.write_bind (hrecord row written · hrow (audit_of_upsert hwrite))
      fun _ _ => Refuses.of_commit
  exact hput.bind_leads put_leads fun _ _ ⟨⟨_, hrow⟩, hworking, _⟩ =>
    Refuses.of_yields (P := fun _ _ => True) (get_yields hs hpair (hworking ▸ hrow) trivial)

variable (hs : s.Consistent) (hstorage : ∀ f, f.IsUnstorable → E f)
variable (hversion : E (.notFound (.version catalogId)))
variable (hregulation : E (.notFound (.regulation (.byId regulation) project)))

include hs hstorage

theorem write_refuses_of_storage (hpair : Pair s project regulation catalogId r v) :
    (write ctx project r v w).Refuses (.start s) E :=
  write_refuses hs hpair (fun f h => hstorage f (upsert_eq_error hs hpair h))
    fun _ _ f _ _ h => hstorage f (Trail.record_eq_error h)

include hversion hregulation

/-- Work on a pair ends in the faults of its look-up and in those of what follows. -/
theorem refuses_of_pair {α : Type} {next : Regulation × Version → Work α}
    (hnext : ∀ r v, Pair s project regulation catalogId r v → (next (r, v)).Refuses (.start s) E) :
    (query (findPair · project regulation catalogId) >>= next).Refuses (.start s) E := by
  refine Refuses.query_bind (fun f h => ?_) fun (r, v) hfind => hnext r v (findPair_eq_ok hfind)
  rcases findPair_eq_error hs h with h | rfl | rfl
  exacts [hstorage f h, hversion, hregulation]

theorem setValue_refuses :
    (setValue ctx project regulation catalogId value details).Refuses (.start s) E :=
  refuses_of_pair hs hstorage hversion hregulation fun _ _ hpair =>
    write_refuses_of_storage hs hstorage hpair

theorem setCompliance_refuses :
    (setCompliance ctx project regulation catalogId compliant).Refuses (.start s) E :=
  refuses_of_pair hs hstorage hversion hregulation fun _ _ hpair =>
    write_refuses_of_storage hs hstorage hpair

theorem report_refuses (hbounds : E .numberBeyondBounds)
    (htype : ∀ name, E (.unsupportedType name)) :
    (report ctx project regulation catalogId value details).Refuses (.start s) E := by
  refine refuses_of_pair hs hstorage hversion hregulation fun r v hpair => ?_
  refine Refuses.query_bind (fun f h => ?_) fun type _ => ?_
  · exact hstorage f (Catalog.find_eq_error_of_mem h (hs.regulationTypes r hpair.regulation_mem))
  refine Refuses.lift_bind (fun f h => ?_) fun _ _ => ?_
  · rcases Verdict.evaluate_eq_error h with ⟨name, rfl⟩ | rfl
    exacts [htype name, hbounds]
  exact write_refuses_of_storage hs hstorage hpair

theorem delete_refuses (hmissing : E (.notFound (.status regulation project catalogId))) :
    (delete ctx project regulation catalogId).Refuses (.start s) E := by
  refine refuses_of_pair hs hstorage hversion hregulation fun r v hpair => ?_
  refine Refuses.query_bind (fun f h => ?_) fun found _ => ?_
  · exact absurd h (sole_ne_error hs.length_statusesAt_le_one)
  cases found with
  | none => exact Refuses.of_fail hmissing
  | some st =>
    refine Refuses.write_bind (fun f h => ?_) fun _ _ => ?_
    · simp [Store.remove] at h
    refine Refuses.write_bind (fun f h => ?_) fun _ _ => Refuses.of_commit
    exact hstorage f (Trail.record_eq_error h)

end Statuses

/-! ### Faults of operations -/

namespace Operation

/-- The faults in which an operation on a sound store may end. Nothing is said of the operations
that are not about regulations and statuses. -/
def MayEndIn : Operation → Fault → Prop
  | _, .integerBeyondStorage | _, .textNotEncodable => True
  | .getRegulation project address, .notFound what
  | .deleteRegulation project address, .notFound what => what = .regulation address project
  | .createRegulation project draft, .notFound what =>
    what = .regulationType draft.typeId ∨ what = .project project
  | .createRegulation project draft, .nameTaken name p => name = draft.name ∧ p = project
  | .createRegulation .., .configNotNumber _ | .createRegulation .., .numberBeyondBounds => True
  | .updateRegulation project address patch, .notFound what =>
    what = .regulation address project ∨ ∃ id, patch.typeId = some id ∧ what = .regulationType id
  | .updateRegulation project _ _, .nameTaken _ p => p = project
  | .updateRegulation _ _ patch, .configNotNumber _
  | .updateRegulation _ _ patch, .numberBeyondBounds => patch.typeId ≠ none ∨ patch.config ≠ none
  | .getStatus project regulation catalogId, .notFound what =>
    what = .status regulation project catalogId
  | .setValue project regulation catalogId _ _, .notFound what
  | .setCompliance project regulation catalogId _, .notFound what
  | .report project regulation catalogId _ _, .notFound what =>
    what = .version catalogId ∨ what = .regulation (.byId regulation) project
  | .report .., .unsupportedType _ | .report .., .numberBeyondBounds => True
  | .deleteStatus project regulation catalogId, .notFound what =>
    what = .version catalogId ∨ what = .regulation (.byId regulation) project ∨
      what = .status regulation project catalogId
  | .seedTypes _, _ | .listTypes, _ | .findType _, _ | .evaluate .., _ | .browseTrail _, _
  | .remark _, _ => True
  | _, _ => False

theorem mayEndIn_of_isUnstorable {op : Operation} (h : f.IsUnstorable) : op.MayEndIn f := by
  cases h <;> cases op <;> trivial

/-- An operation on a sound store ends in no other faults. -/
theorem run_refuses (hs : s.Sound) (op : Operation) :
    (op.run ctx).Refuses (.start s) op.MayEndIn := by
  have hc := hs.toConsistent
  have hstorage (op : Operation) (f : Fault) (hf : f.IsUnstorable) : op.MayEndIn f :=
    mayEndIn_of_isUnstorable hf
  cases op with
  | listRegulations project =>
    exact Refuses.map (Refuses.of_query fun f h => hstorage _ f (Regulations.list_eq_error hc h))
  | getRegulation project address =>
    refine Refuses.map (Refuses.of_query fun f h => ?_)
    rcases Regulations.get_eq_error hc h with h | rfl
    exacts [hstorage _ f h, rfl]
  | createRegulation project draft =>
    exact Refuses.map (Regulations.create_refuses (hstorage _) (.inl rfl) (.inr rfl)
      (fun _ => trivial) trivial fun _ => ⟨rfl, rfl⟩)
  | updateRegulation project address patch =>
    exact Refuses.map (Regulations.update_refuses hs (hstorage _) (.inl rfl)
      (fun id hid => .inr ⟨id, hid, rfl⟩) (fun _ _ _ => rfl) fun h => ⟨h, fun _ => h⟩)
  | deleteRegulation project address =>
    exact Refuses.map (Regulations.delete_refuses hc (hstorage _) rfl)
  | listStatuses project catalogId =>
    exact Refuses.map (Refuses.of_query fun f h => hstorage _ f (Statuses.list_eq_error h))
  | getStatus project regulation catalogId =>
    refine Refuses.map (Refuses.of_query fun f h => ?_)
    rcases Statuses.get_eq_error h with h | rfl
    exacts [hstorage _ f h, rfl]
  | setValue project regulation catalogId value details =>
    exact Refuses.map (Statuses.setValue_refuses hc (hstorage _) (.inl rfl) (.inr rfl))
  | setCompliance project regulation catalogId compliant =>
    exact Refuses.map (Statuses.setCompliance_refuses hc (hstorage _) (.inl rfl) (.inr rfl))
  | report project regulation catalogId value details =>
    exact Refuses.map (Statuses.report_refuses hc (hstorage _) (.inl rfl) (.inr rfl) trivial
      fun _ => trivial)
  | deleteStatus project regulation catalogId =>
    exact Refuses.map (Statuses.delete_refuses hc (hstorage _) (.inl rfl) (.inr (.inl rfl))
      (.inr (.inr rfl)))
  -- nothing is said of the faults of the others
  | _ => exact fun f _ _ => by cases f <;> trivial

end Operation

end ComplianceRegistry
