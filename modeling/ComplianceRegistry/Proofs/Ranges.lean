import ComplianceRegistry.Proofs.Failures
import ComplianceRegistry.Proofs.Overflows

/-!
# The range of integers

The checks of a request read integers of any size. An operation hands them to statements one after
the other, so that an integer beyond storage overflows if the operation gets as far as that: it
always does with the keys of a look-up, the type of a draft comes before its project, and an order
is written last, when nothing else is wrong. A page of the trail is asked for by the number of
entries before it, a product that may overflow when its factors do not.

An operation that does not overflow is answered, unless a text without bytes, a number beyond the
bounds, a type that is no kind or an answer that cannot be shown stands in the way.

## Main definitions

* `Operation.givenIntegers` — the integers that an operation is given
* `Operation.Overflows` — one of them reaches a statement that cannot take it
* `Operation.GoesUntold` — what else keeps an operation from being answered

## Main results

* `Regulations.create_overflows_iff`, `Regulations.update_overflows_iff` — when writes overflow
* `Operation.run_overflows_iff` — when an operation overflows
* `World.answered_unless_overflowing` — how requests are answered after a run of others
-/

namespace ComplianceRegistry

open Work

variable {ctx : Context} {s : Store} {project regulation id : Int} {address : Address}
variable {catalogId : Text}

/-! ### Writes to regulations that overflow -/

theorem Catalog.storable_of_find_eq_ok {type : RegulationType} (h : find s id = .ok type) :
    Storable type.id := by
  obtain ⟨_, hid, -⟩ := bind_eq_ok.1 h
  exact (find_eq_ok h).2 ▸ checkInteger_eq_ok.1 hid

namespace Regulations

variable {draft : Draft} {patch : Patch} {before after : Regulation} {type : RegulationType}
variable {config : Option Text}

theorem settle_ne_overflow {typeName : Text} :
    Config.settle typeName config ≠ .error .integerBeyondStorage := by
  intro h
  rcases Config.settle_eq_error h with ⟨kind, h⟩ | h <;> cases h

/-- A clash of names is no overflow, so that a commit under a name overflows as what is written
does. -/
theorem commitNaming_overflows_iff {name : Text} {writing : Work Unit} {σ : Session} :
    (commitNaming name project writing).EndsIn σ .integerBeyondStorage ↔
      writing.EndsIn σ .integerBeyondStorage := by
  have hcommit : (writing >>= fun _ => commit).EndsIn σ .integerBeyondStorage ↔
      writing.EndsIn σ .integerBeyondStorage :=
    bind_endsIn.trans (or_iff_left fun ⟨_, _, _, h⟩ => nomatch h)
  rw [← hcommit]
  unfold EndsIn commitNaming rescue
  match (writing >>= fun _ => commit) σ with
  | (.ok _, τ) => exact Iff.rfl
  | (.error f, τ) => cases f <;> simp [fail, rollback, bind, Work.bind]

/-- The checks of a creation pass, up to the one of its order. -/
def ReachesOrder (ctx : Context) (s : Store) (project : Int) (draft : Draft) : Prop :=
  ∃ type config, Catalog.find s draft.typeId = .ok type ∧ requireProject s project = .ok () ∧
    Config.settle type.name draft.config = .ok config ∧
    ensureNameFree ctx s project draft.name = .ok () ∧
    (fresh ctx project draft (s.nextIdOf .regulations) type config).IsLegible

/-- The checks of an update pass, up to the one of its order. -/
def ReachesNewOrder (ctx : Context) (s : Store) (project : Int) (address : Address)
    (patch : Patch) : Prop :=
  ∃ before type config, find s project address = .ok before ∧
    Catalog.find s (patch.typeId.getD before.typeId) = .ok type ∧
    ensureRenamable ctx s project before (patch.name.getD before.name) = .ok () ∧
    Config.settle type.name (patch.config.getD before.config) = .ok config ∧
    (patched before patch type config).IsLegible

theorem storable_of_requireProject (h : requireProject s project = .ok ()) : Storable project := by
  obtain ⟨_, hproject, -⟩ := bind_eq_ok.1 h
  exact checkInteger_eq_ok.1 hproject

variable (huser : Trail.Holds ctx.user) (hroom : s.HasRoom)

section Creating

include huser hroom

/-- A new regulation overflows by its order when it is written. -/
theorem insertion_overflows_iff (htype : Catalog.find s draft.typeId = .ok type)
    (hproject : requireProject s project = .ok ())
    (hid : nextId (s.regulations.map (·.id)) = id) :
    (commitNaming draft.name project do
        write (·.insert (.regulation (fresh ctx project draft id type config)))
        write (Trail.record ctx · [.row .regulations .create id])).EndsIn (.start s)
        .integerBeyondStorage ↔
      (fresh ctx project draft id type config).IsLegible ∧ ¬ Storable draft.order := by
  rw [← Store.nextIdOf_regulations] at hid
  have hidfits : Storable id := hid ▸ hroom.regulations
  have hrow : (Row.regulation (fresh ctx project draft id type config)).check =
      .error .integerBeyondStorage ↔
      (fresh ctx project draft id type config).IsLegible ∧ ¬ Storable draft.order :=
    Regulation.check_overflows_iff hidfits (Catalog.storable_of_find_eq_ok htype)
      (storable_of_requireProject hproject)
  rw [commitNaming_overflows_iff, write_bind_endsIn, Store.insert_overflows_iff, hrow]
  refine or_iff_left ?_
  rintro ⟨grown, hinsert, hrecord⟩
  -- a row that was inserted left the trail and its ids alone
  obtain ⟨-, -, -, rfl⟩ := Store.insert_eq_ok hinsert
  have hnotes : ∀ n ∈ [Trail.Note.row .regulations .create id], Storable n.entityId :=
    List.forall_mem_singleton.2 hidfits
  exact Trail.record_ne_overflow
    (s := s.push (.regulation (fresh ctx project draft id type config))) huser hroom.audit
    (by simp) hnotes (write_endsIn.1 hrecord)

/-- A creation overflows by the type, by the project once the type is found, or by the order once
nothing else is wrong. -/
theorem create_overflows_iff :
    (create ctx project draft).EndsIn (.start s) .integerBeyondStorage ↔
      ¬ Storable draft.typeId ∨
      draft.typeId ∈ s.types.map (·.id) ∧ ¬ Storable project ∨
      ReachesOrder ctx s project draft ∧ ¬ Storable draft.order := by
  constructor
  · intro h
    rcases query_bind_endsIn.1 h with h | ⟨type, htype, h⟩
    · exact .inl (Catalog.find_overflows_iff.1 h)
    have hfound := Catalog.find_eq_ok htype
    refine .inr ?_
    rcases query_bind_endsIn.1 h with h | ⟨_, hproject, h⟩
    · exact .inl ⟨hfound.2 ▸ List.mem_map_of_mem hfound.1, requireProject_overflows_iff.1 h⟩
    rcases lift_bind_endsIn.1 h with h | ⟨config, hconfig, h⟩
    · exact absurd h settle_ne_overflow
    rcases query_bind_endsIn.1 h with h | ⟨_, hname, h⟩
    · exact absurd h ensureNameFree_ne_overflow
    rcases query_bind_endsIn.1 h with h | ⟨id, hid, h⟩
    · cases h
    replace hid := Except.ok.inj hid
    -- once the row is committed nothing fails
    have hwriting := (bind_endsIn_of_leads
      (insertion_leads htype hproject hconfig hname hid) fun _ _ h => h).1 h
    obtain ⟨hlegible, horder⟩ :=
      (insertion_overflows_iff huser hroom htype hproject hid).1 hwriting
    rw [← hid, ← Store.nextIdOf_regulations] at hlegible
    exact .inr ⟨⟨type, config, htype, hproject, hconfig, hname, hlegible⟩, horder⟩
  · rintro (htype | ⟨htype, hproject⟩ |
      ⟨⟨type, config, htype, hproject, hconfig, hname, hlegible⟩, horder⟩)
    · exact query_bind_endsIn.2 (.inl (Catalog.find_overflows_iff.2 htype))
    · by_cases hfits : Storable draft.typeId
      · obtain ⟨type, htype⟩ := Catalog.exists_find hfits htype
        refine query_bind_endsIn.2 (.inr ⟨type, htype, ?_⟩)
        exact query_bind_endsIn.2 (.inl (requireProject_overflows_iff.2 hproject))
      · exact query_bind_endsIn.2 (.inl (Catalog.find_overflows_iff.2 hfits))
    · refine query_bind_endsIn.2 (.inr ⟨type, htype, ?_⟩)
      refine query_bind_endsIn.2 (.inr ⟨(), hproject, ?_⟩)
      refine lift_bind_endsIn.2 (.inr ⟨config, hconfig, ?_⟩)
      refine query_bind_endsIn.2 (.inr ⟨(), hname, ?_⟩)
      refine query_bind_endsIn.2 (.inr ⟨_, rfl, ?_⟩)
      rw [Store.nextIdOf_regulations] at hlegible
      exact bind_endsIn.2 (.inl
        ((insertion_overflows_iff huser hroom htype hproject rfl).2 ⟨hlegible, horder⟩))

end Creating

section Rewriting

variable (hrows : s.Every fun r => r.check = .ok ())
include huser hroom hrows

/-- A regulation that was stored overflows by a new order when it is written again. -/
theorem rewriting_overflows_iff (hbefore : find s project address = .ok before)
    (htype : Catalog.find s (patch.typeId.getD before.typeId) = .ok type) :
    (commitNaming (patched before patch type config).name project
        (writeChanges ctx before (patched before patch type config))).EndsIn (.start s)
        .integerBeyondStorage ↔
      (patched before patch type config).IsLegible ∧ ∃ n ∈ patch.order, ¬ Storable n := by
  have hstored := hrows.regulations before (mem_of_find_eq_ok hbefore).1
  obtain ⟨⟨hid, horder, -, hproject⟩, -⟩ := Regulation.check_iff.1 hstored
  have horders : ¬ Storable (patched before patch type config).order ↔
      ∃ n ∈ patch.order, ¬ Storable n := by
    change ¬ Storable (patch.order.getD before.order) ↔ _
    cases patch.order <;> simp [horder]
  have hrow : (Row.regulation { patched before patch type config with
      updatedAt := ctx.clock }).check = .error .integerBeyondStorage ↔
      (patched before patch type config).IsLegible ∧
        ¬ Storable (patched before patch type config).order :=
    Regulation.check_overflows_iff hid (Catalog.storable_of_find_eq_ok htype) hproject
  rw [commitNaming_overflows_iff, ← horders]
  unfold writeChanges
  split
  · rw [write_bind_endsIn, Store.replace_overflows_iff, hrow]
    refine or_iff_left ?_
    rintro ⟨written, hreplace, hrecord⟩
    obtain ⟨-, -, rfl⟩ := Store.replace_eq_ok hreplace
    exact Trail.record_ne_overflow (s := s.put (.regulation { patched before patch type config with
      updatedAt := ctx.clock })) huser hroom.audit length_updateNotes_le
      (fun n hn => entityId_of_mem_updateNotes hn ▸ hid) (write_endsIn.1 hrecord)
  · next hsame =>
    -- a regulation that stays as it is keeps its order, which fits
    rw [not_not.1 hsame]
    exact ⟨fun h => (nomatch h), fun h => absurd horder h.2⟩

/-- An update overflows by the project or the address, by the type once the regulation is found, or
by the order once nothing else is wrong. -/
theorem update_overflows_iff (hs : s.Consistent) :
    (update ctx project address patch).EndsIn (.start s) .integerBeyondStorage ↔
      (∃ n ∈ project :: address.integers, ¬ Storable n) ∨
      (∃ before, find s project address = .ok before) ∧ (∃ n ∈ patch.typeId, ¬ Storable n) ∨
      ReachesNewOrder ctx s project address patch ∧ ∃ n ∈ patch.order, ¬ Storable n := by
  have htypes {before : Regulation} (hbefore : find s project address = .ok before) :
      Catalog.find s (patch.typeId.getD before.typeId) = .error .integerBeyondStorage ↔
        ∃ n ∈ patch.typeId, ¬ Storable n := by
    have hstored := hrows.regulations before (mem_of_find_eq_ok hbefore).1
    rw [Catalog.find_overflows_iff]
    cases patch.typeId <;> simp [(Regulation.check_iff.1 hstored).1.2.2.1]
  constructor
  · intro h
    rcases query_bind_endsIn.1 h with h | ⟨before, hbefore, h⟩
    · exact .inl (find_overflows_iff.1 h)
    refine .inr ?_
    rcases query_bind_endsIn.1 h with h | ⟨type, htype, h⟩
    · exact .inl ⟨⟨before, hbefore⟩, (htypes hbefore).1 h⟩
    rcases query_bind_endsIn.1 h with h | ⟨_, hname, h⟩
    · exact absurd h ensureRenamable_ne_overflow
    rcases lift_bind_endsIn.1 h with h | ⟨config, hconfig, h⟩
    · exact absurd h settle_ne_overflow
    -- once the row is committed nothing fails
    have hwriting := (bind_endsIn_of_leads
      (rewriting_leads hs hbefore htype hname hconfig) fun _ _ h => h).1 h
    obtain ⟨hlegible, horder⟩ :=
      (rewriting_overflows_iff huser hroom hrows hbefore htype).1 hwriting
    exact .inr ⟨⟨before, type, config, hbefore, htype, hname, hconfig, hlegible⟩, horder⟩
  · rintro (hkeys | ⟨⟨before, hbefore⟩, htype⟩ |
      ⟨⟨before, type, config, hbefore, htype, hname, hconfig, hlegible⟩, horder⟩)
    · exact query_bind_endsIn.2 (.inl (find_overflows_iff.2 hkeys))
    · refine query_bind_endsIn.2 (.inr ⟨before, hbefore, ?_⟩)
      exact query_bind_endsIn.2 (.inl ((htypes hbefore).2 htype))
    · refine query_bind_endsIn.2 (.inr ⟨before, hbefore, ?_⟩)
      refine query_bind_endsIn.2 (.inr ⟨type, htype, ?_⟩)
      refine query_bind_endsIn.2 (.inr ⟨(), hname, ?_⟩)
      refine lift_bind_endsIn.2 (.inr ⟨config, hconfig, ?_⟩)
      exact bind_endsIn.2 (.inl
        ((rewriting_overflows_iff huser hroom hrows hbefore htype).2 ⟨hlegible, horder⟩))

/-- A deletion overflows by the project or the address. -/
theorem delete_overflows_iff :
    (delete ctx project address).EndsIn (.start s) .integerBeyondStorage ↔
      ∃ n ∈ project :: address.integers, ¬ Storable n := by
  refine (query_bind_endsIn.trans (or_iff_left ?_)).trans find_overflows_iff
  rintro ⟨row, hrow, h⟩
  have hstored := hrows.regulations row (mem_of_find_eq_ok hrow).1
  have hid : Storable row.id := Row.storable_id hstored
  rcases query_bind_endsIn.1 h with h | ⟨_, -, h⟩
  · exact view_ne_overflow hstored h
  -- rows that are there can always be removed, which leaves the trail and its ids alone
  rcases write_bind_endsIn.1 h with h | ⟨_, hdropped, h⟩
  · cases h
  rcases write_bind_endsIn.1 h with h | ⟨_, hremoved, h⟩
  · cases h
  cases hdropped
  cases hremoved
  rcases write_bind_endsIn.1 h with h | ⟨_, -, h⟩
  · exact Trail.record_ne_overflow
      (s := (s.dropStatuses fun st => st.regulationId = row.id).dropRegulation row.id) huser
      hroom.audit (by simp) (List.forall_mem_singleton.2 hid) h
  · cases h

end Rewriting

end Regulations

/-! ### Writes to statuses that overflow -/

namespace Statuses

variable {r : Regulation} {v : Version} {w : StatusWrite} {value : Option Text} {details : Document}
variable {compliant : Option Bool}

variable (huser : Trail.Holds ctx.user) (hroom : s.HasRoom)
variable (hrows : s.Every fun r => r.check = .ok ()) (hs : s.Consistent)

section Pairs

variable (hpair : Pair s project regulation catalogId r v)
include hroom hrows hpair

/-- The integers of the row of a pair were stored before, or count the rows. -/
theorem upsert_ne_overflow : upsert ctx r v w s ≠ .error .integerBeyondStorage := by
  have hregulation : Storable r.id := Row.storable_id (hrows.regulations r hpair.regulation_mem)
  have hversion : Storable v.id := Row.storable_id (hrows.versions v hpair.version_mem)
  unfold upsert
  cases hhead : (s.statusesAt r.id v.id).head? with
  | some st =>
    have hst : st ∈ s.statusesAt r.id v.id := List.mem_of_head? hhead
    have hid : Storable st.id := Row.storable_id (hrows.statuses st (List.mem_of_mem_filter hst))
    obtain ⟨hsame, hsame'⟩ := keys_of_mem_statusesAt hst
    refine fun h => Row.check_ne_overflow ?_ (Store.replace_overflows_iff.1 h)
    rw [Row.integers_status]
    simpa [hsame, hsame'] using ⟨hid, hregulation, hversion⟩
  | none =>
    have hid := hroom.statuses
    rw [Store.nextIdOf_statuses] at hid
    refine fun h => Row.check_ne_overflow ?_ (Store.insert_overflows_iff.1 h)
    rw [Row.integers_status]
    simpa [fresh] using ⟨hid, hregulation, hversion⟩

include huser hs

theorem write_not_overflows :
    ¬ (write ctx project r v w).EndsIn (.start s) .integerBeyondStorage := by
  refine not_endsIn_of_refuses (write_refuses hs hpair ?_ ?_)
  · rintro _ h rfl
    exact upsert_ne_overflow hroom hrows hpair h
  · rintro row written _ hrow haudit h rfl
    have hroom' : ∀ i : Fin 10, Storable (written.nextIdOf .audit + i) := by
      rw [Store.nextIdOf_audit, haudit, ← Store.nextIdOf_audit]
      exact hroom.audit
    exact Trail.record_ne_overflow huser hroom' length_putNotes_le
      (fun n hn => entityId_of_mem_putNotes hn ▸ Row.storable_id hrow.check) h

end Pairs

/-- Work on a pair overflows by the ids that it is asked for with. -/
theorem pair_overflows_iff {α : Type} {next : Regulation × Version → Work α}
    (hnext : ∀ r v, Pair s project regulation catalogId r v →
      ¬ (next (r, v)).EndsIn (.start s) .integerBeyondStorage) :
    (query (findPair · project regulation catalogId) >>= next).EndsIn (.start s)
        .integerBeyondStorage ↔ ∃ n ∈ [project, regulation], ¬ Storable n := by
  refine (query_bind_endsIn.trans (or_iff_left ?_)).trans findPair_overflows_iff
  rintro ⟨⟨r, v⟩, hfound, h⟩
  exact hnext r v (findPair_eq_ok hfound) h

include huser hroom hrows hs

theorem setValue_overflows_iff :
    (setValue ctx project regulation catalogId value details).EndsIn (.start s)
        .integerBeyondStorage ↔ ∃ n ∈ [project, regulation], ¬ Storable n :=
  pair_overflows_iff fun _ _ hpair => write_not_overflows huser hroom hrows hs hpair

theorem setCompliance_overflows_iff :
    (setCompliance ctx project regulation catalogId compliant).EndsIn (.start s)
        .integerBeyondStorage ↔ ∃ n ∈ [project, regulation], ¬ Storable n :=
  pair_overflows_iff fun _ _ hpair => write_not_overflows huser hroom hrows hs hpair

theorem report_overflows_iff :
    (report ctx project regulation catalogId value details).EndsIn (.start s)
        .integerBeyondStorage ↔ ∃ n ∈ [project, regulation], ¬ Storable n := by
  refine pair_overflows_iff fun r v hpair h => ?_
  have hstored := hrows.regulations r hpair.regulation_mem
  rcases query_bind_endsIn.1 h with h | ⟨type, -, h⟩
  · exact Catalog.find_overflows_iff.1 h (Regulation.check_iff.1 hstored).1.2.2.1
  rcases lift_bind_endsIn.1 h with h | ⟨_, -, h⟩
  · rcases Verdict.evaluate_eq_error h with ⟨name, h⟩ | h <;> cases h
  · exact write_not_overflows huser hroom hrows hs hpair h

omit hs in
theorem delete_overflows_iff :
    (delete ctx project regulation catalogId).EndsIn (.start s) .integerBeyondStorage ↔
      ∃ n ∈ [project, regulation], ¬ Storable n := by
  refine pair_overflows_iff fun r v hpair h => ?_
  rcases query_bind_endsIn.1 h with h | ⟨found, hfound, h⟩
  · exact sole_ne_overflow h
  cases found with
  | none => cases h
  | some st =>
    have hst : st ∈ s.statusesAt r.id v.id := sole_eq_ok hfound ▸ List.mem_singleton_self st
    have hid : Storable st.id := Row.storable_id (hrows.statuses st (List.mem_of_mem_filter hst))
    rcases write_bind_endsIn.1 h with h | ⟨_, hremoved, h⟩
    · cases h
    cases hremoved
    rcases write_bind_endsIn.1 h with h | ⟨_, -, h⟩
    · exact Trail.record_ne_overflow (s := s.dropStatuses fun other => other.id = st.id) huser
        hroom.audit (by simp) (List.forall_mem_singleton.2 hid) h
    · cases h

end Statuses

/-! ### Operations that overflow -/

namespace Operation

variable {op : Operation}

/-- The integers that an operation is given. A page of the trail is asked for by the number of
entries before it. -/
def givenIntegers : Operation → List Int
  | .createRegulation p draft => [draft.typeId, p, draft.order]
  | .updateRegulation p a patch =>
    p :: (a.integers ++ patch.typeId.toList ++ patch.order.toList)
  | .deleteRegulation p a => p :: a.integers
  | .setValue p r _ _ _ | .setCompliance p r _ _ | .report p r _ _ _ | .deleteStatus p r _ => [p, r]
  | op => op.integers

/-- One of the integers that the operation is given reaches a statement that cannot take it. All of
them do, but for those of a creation or an update that has ended in another way before. -/
def Overflows (ctx : Context) (s : Store) : Operation → Prop
  | .createRegulation p draft =>
    ¬ Storable draft.typeId ∨ draft.typeId ∈ s.types.map (·.id) ∧ ¬ Storable p ∨
      Regulations.ReachesOrder ctx s p draft ∧ ¬ Storable draft.order
  | .updateRegulation p a patch =>
    (∃ n ∈ p :: a.integers, ¬ Storable n) ∨
      (∃ before, Regulations.find s p a = .ok before) ∧ (∃ n ∈ patch.typeId, ¬ Storable n) ∨
      Regulations.ReachesNewOrder ctx s p a patch ∧ ∃ n ∈ patch.order, ¬ Storable n
  | op => ∃ n ∈ op.givenIntegers, ¬ Storable n

/-- Nothing overflows when all integers fit. -/
theorem not_overflows_of_storable (h : ∀ n ∈ op.givenIntegers, Storable n) :
    ¬ op.Overflows ctx s := by
  have hnone {ns : List Int} (hsub : ∀ n ∈ ns, Storable n) : ¬ ∃ n ∈ ns, ¬ Storable n :=
    fun ⟨n, hn, hbeyond⟩ => hbeyond (hsub n hn)
  cases op with
  | createRegulation p draft =>
    have hfits : Storable draft.typeId ∧ Storable p ∧ Storable draft.order := by
      simpa [givenIntegers] using h
    rintro (hbeyond | ⟨-, hbeyond⟩ | ⟨-, hbeyond⟩)
    exacts [hbeyond hfits.1, hbeyond hfits.2.1, hbeyond hfits.2.2]
  | updateRegulation p a patch =>
    obtain ⟨hproject, hrest⟩ := List.forall_mem_cons.1 h
    obtain ⟨hkeys, horder⟩ := List.forall_mem_append.1 hrest
    obtain ⟨haddress, htype⟩ := List.forall_mem_append.1 hkeys
    rintro (hbeyond | ⟨-, n, hn, hbeyond⟩ | ⟨-, n, hn, hbeyond⟩)
    · exact hnone (List.forall_mem_cons.2 ⟨hproject, haddress⟩) hbeyond
    · exact hbeyond (htype n (Option.mem_toList.2 hn))
    · exact hbeyond (horder n (Option.mem_toList.2 hn))
  | _ => exact hnone h

/-- On a store whose rows were stored and whose ids have not run out an operation overflows just
when an integer that it is given reaches a statement that cannot take it. -/
theorem run_overflows_iff (hs : s.Consistent) (hrows : s.Every fun r => r.check = .ok ())
    (hroom : s.HasRoom) (huser : Trail.Holds ctx.user) (hposed : op.IsPosed)
    (htexts : ∀ t ∈ op.asked, t.Encodable) :
    ((op.run ctx).perform s).answer = .error .integerBeyondStorage ↔ op.Overflows ctx s := by
  have hsingle {p : Int} : ¬ Storable p ↔ ∃ n ∈ [p], ¬ Storable n := by simp
  have hnever {a : Prop} (h : ¬ a) : a ↔ ∃ n ∈ ([] : List Int), ¬ Storable n := by simp [h]
  have hquery {α : Type} {ask : Store → Except Fault α} {tell : α → Answer} {ns : List Int}
      (h : ask s = .error .integerBeyondStorage ↔ ∃ n ∈ ns, ¬ Storable n) :
      ((tell <$> Work.query ask).perform s).answer = .error .integerBeyondStorage ↔
        ∃ n ∈ ns, ¬ Storable n :=
    map_endsIn.trans h
  cases op with
  | seedTypes | remark => exact hposed.elim
  | listTypes => exact hquery (hnever (by simp))
  | evaluate typeName config value =>
    refine hquery (hnever fun h => ?_)
    rcases Verdict.evaluate_eq_error h with ⟨name, h⟩ | h <;> cases h
  | findType id => exact hquery (Catalog.find_overflows_iff.trans hsingle)
  | listRegulations p => exact hquery ((Regulations.list_overflows_iff hrows).trans hsingle)
  | listStatuses p v => exact hquery (Statuses.list_overflows_iff.trans hsingle)
  | getStatus p r v => exact hquery Statuses.get_overflows_iff
  | browseTrail q => exact hquery (AuditPage.find_overflows_iff htexts)
  | getRegulation p a =>
    refine (hquery (Regulations.get_overflows_iff hrows)).trans ?_
    cases a <;> exact Iff.rfl
  | createRegulation p draft =>
    exact map_endsIn.trans (Regulations.create_overflows_iff huser hroom)
  | updateRegulation p a patch =>
    exact map_endsIn.trans (Regulations.update_overflows_iff huser hroom hrows hs)
  | deleteRegulation p a =>
    exact map_endsIn.trans (Regulations.delete_overflows_iff huser hroom hrows)
  | setValue p r v value details =>
    exact map_endsIn.trans (Statuses.setValue_overflows_iff huser hroom hrows hs)
  | setCompliance p r v compliant =>
    exact map_endsIn.trans (Statuses.setCompliance_overflows_iff huser hroom hrows hs)
  | report p r v value details =>
    exact map_endsIn.trans (Statuses.report_overflows_iff huser hroom hrows hs)
  | deleteStatus p r v =>
    exact map_endsIn.trans (Statuses.delete_overflows_iff huser hroom hrows)

end Operation

/-! ### What is answered otherwise -/

/-- What keeps an operation that does not overflow from being answered: a text without bytes, a
number beyond the bounds, a type that is no kind, or an answer that cannot be shown. -/
inductive Operation.GoesUntold (op : Operation) : Except Fault Answer → Prop
  | text : GoesUntold op (.error .textNotEncodable)
  | number : GoesUntold op (.error .numberBeyondBounds)
  | type (name : Text) : GoesUntold op (.error (.unsupportedType name))
  | answer {answer : Answer}
      (h : ¬ (Server.isWritable answer ∧ (Server.documentOf op answer).isCarriable)) :
      GoesUntold op (.ok answer)

namespace Server

variable {settings : Settings} {r : Request} {op : Operation} {answer : Answer} {f : Fault}

/-- An operation that no constraint and no row stands in the way of is told with one of these
statuses, unless it overflows or goes untold. -/
theorem status_present_cases {result : Except Fault Answer}
    (hconstraint : result ≠ .error .constraintViolated) (hrow : result ≠ .error .rowUnreadable) :
    ((present settings r op result).status = 500 ↔
      result = .error .integerBeyondStorage ∨ op.GoesUntold result) ∧
    ((present settings r op result).status ≠ 500 →
      (present settings r op result).status ∈ [200, 201, 400, 404, 409]) := by
  cases result with
  | ok answer =>
    by_cases h : isWritable answer ∧ (documentOf op answer).isCarriable
    · have htold : ¬ op.GoesUntold (.ok answer) := by
        intro hgoes
        cases hgoes with
        | answer huntold => exact huntold h
      rw [status_present_of_isCarriable h.1 h.2]
      cases op <;> simp [statusOf, htold]
    · simp [status_present_of_not_isCarriable h, Operation.GoesUntold.answer h]
  | error f =>
    rw [status_present_error]
    cases f with
    | constraintViolated => exact absurd rfl hconstraint
    | rowUnreadable => exact absurd rfl hrow
    | integerBeyondStorage => simp [Fault.status]
    | textNotEncodable => simp [Fault.status, Operation.GoesUntold.text]
    | numberBeyondBounds => simp [Fault.status, Operation.GoesUntold.number]
    | unsupportedType name => simp [Fault.status, Operation.GoesUntold.type name]
    | notFound | nameTaken | configNotNumber =>
      refine ⟨iff_of_false (by simp [Fault.status]) ?_, fun _ => by simp [Fault.status]⟩
      rintro (h | h) <;> cases h

end Server

namespace Operation

variable {op : Operation} {f : Fault}

theorem overflows_of_isLookup (hop : op.IsLookup) :
    op.Overflows ctx s ↔ ∃ n ∈ op.integers, ¬ Storable n := by
  cases op <;> first | exact hop.elim | exact Iff.rfl

/-- No constraint refuses what an operation writes without being told as a clash of names, and every
row can be read. -/
theorem answer_ne_error (hs : s.Sound) (hrows : s.Every Row.IsReadable) (hroom : s.HasRoom)
    (huser : Trail.Holds ctx.user) (hposed : op.IsPosed) (htexts : ∀ t ∈ op.asked, t.Encodable) :
    ((op.run ctx).perform s).answer ≠ .error .constraintViolated ∧
      ((op.run ctx).perform s).answer ≠ .error .rowUnreadable := by
  -- a look-up fails for what is missing only, once its integers fit; the faults of all other
  -- operations are listed
  by_cases hlookup : op.IsLookup
  · by_cases hintegers : ∀ n ∈ op.integers, Storable n
    · have hmissing (f : Fault) (h : ((op.run ctx).perform s).answer = .error f) :
          ∃ what, f = .notFound what :=
        missing_of_error hs.toConsistent hrows hlookup htexts hintegers h
      refine ⟨fun h => ?_, fun h => ?_⟩ <;> exact nomatch hmissing _ h
    · obtain ⟨n, hn, hbeyond⟩ := not_forall₂.1 hintegers
      rw [(run_overflows_iff hs.toConsistent hrows.checked hroom huser hposed htexts).2
        ((overflows_of_isLookup hlookup).2 ⟨n, hn, hbeyond⟩)]
      simp
  · have hfaults (f : Fault) (h : ((op.run ctx).perform s).answer = .error f) : op.MayEndIn f :=
      (run_refuses hs op).perform h
    cases op with
    | seedTypes | remark => exact hposed.elim
    | evaluate typeName config value =>
      refine ⟨fun h => ?_, fun h => ?_⟩ <;>
        rcases Verdict.evaluate_eq_error (answer_query_eq_error.1 h) with ⟨name, h⟩ | h <;> cases h
    | listTypes | findType | listRegulations | getRegulation | listStatuses | getStatus
    | browseTrail => exact (hlookup trivial).elim
    | _ => exact ⟨fun h => hfaults _ h, fun h => hfaults _ h⟩

end Operation

/-! ### Requests -/

namespace World

variable {settings : Settings} {w : World} {a : Arrival} {arrivals : List Arrival} {op : Operation}

/-- From a store without regulations whose rows can be read, let requests arrive, and after them one
from a user whom the trail can hold. As long as the ids have not run out, the operation that it asks
for overflows just when one of the integers that it is given reaches a statement that cannot take
it; that is a failure without a trace, and does not happen when all of these integers fit. An
operation that does not overflow is answered, or what it was sent or finds cannot be told for
another reason. -/
theorem answered_unless_overflowing (h : w.store.Initial) (hrows : w.store.Every Row.IsReadable)
    (hroom : (w.serve settings arrivals).store.HasRoom)
    (hop : Server.operationOf? settings a.request = some op) (hpath : a.request.path.Encodable)
    (huser : Trail.Holds (Server.contextOf a.context a.request).user) :
    let reached := w.serve settings arrivals
    let ctx := Server.contextOf a.context a.request
    let result := ((op.run ctx).perform reached.store).answer
    let response := (a.outcome settings reached.store).answer
    (result = .error .integerBeyondStorage ↔ op.Overflows ctx reached.store) ∧
    ((∀ n ∈ op.givenIntegers, Storable n) → ¬ op.Overflows ctx reached.store) ∧
    (op.Overflows ctx reached.store → response.status = 500 ∧
      reached.LeavesNoTrace settings a.context (.request a.outage a.request) (.response response)) ∧
    (response.status = 500 ↔ op.Overflows ctx reached.store ∨ op.GoesUntold result) ∧
    (response.status ≠ 500 → response.status ∈ [200, 201, 400, 404, 409]) := by
  intro reached ctx result response
  have hs : reached.store.Sound := (kept_serve h).toSound
  have hreadable : reached.store.Every Row.IsReadable := readable_serve hrows
  have hposed : op.IsPosed := Server.isPosed_of_operationOf? hop
  have htexts : ∀ t ∈ op.asked, t.Encodable := Server.encodable_of_asked hpath hop
  have hoverflows : result = .error .integerBeyondStorage ↔ op.Overflows ctx reached.store :=
    Operation.run_overflows_iff hs.toConsistent hreadable.checked hroom huser hposed htexts
  obtain ⟨hconstraint, hrow⟩ : result ≠ .error .constraintViolated ∧
      result ≠ .error .rowUnreadable :=
    Operation.answer_ne_error hs hreadable hroom huser hposed htexts
  have hresponse : response = Server.present settings a.request op result := answer_outcome hop
  obtain ⟨hfailure, hanswered⟩ :
      (response.status = 500 ↔ result = .error .integerBeyondStorage ∨ op.GoesUntold result) ∧
        (response.status ≠ 500 → response.status ∈ [200, 201, 400, 404, 409]) :=
    hresponse ▸ Server.status_present_cases hconstraint hrow
  refine ⟨hoverflows, Operation.not_overflows_of_storable, fun hbeyond => ?_,
    hfailure.trans (or_congr_left hoverflows), hanswered⟩
  have hfault := hoverflows.2 hbeyond
  have htrace := leavesNoTrace_of_request_fault hs.toConsistent hop hfault
  rw [← hfault, ← hresponse] at htrace
  exact ⟨hfailure.2 (.inl hfault), htrace⟩

/-- The first regulation is given an order. -/
def ordering (order : Text) : Arrival :=
  .plain "PUT" "/api/v1/projects/1/regulations/1"
    (("\x7b\"order\": " : Text) ++ order ++ ("\x7d" : Text))

/-- The largest order that fits is written, and the next one fails without a trace. -/
theorem answered_unless_overflowing_orders :
    let settings := Settings.ofDatabase "sqlite"
    let reached := sample.serve settings [.creation]
    let largest := ordering "9223372036854775807"
    let next := ordering "9223372036854775808"
    (largest.outcome settings reached.store).answer.status ∈ [200, 201, 400, 404, 409] ∧
      (next.outcome settings reached.store).answer.status = 500 ∧
      reached.LeavesNoTrace settings next.context (.request next.outage next.request)
        (.response (next.outcome settings reached.store).answer) := by
  intro settings reached largest next
  have hroom : reached.store.HasRoom := hasRoom_serve Store.initial_sample (by decide) (by decide)
  have hlargest : Server.operationOf? settings largest.request = some
      (.updateRegulation 1 (.byId 1) ⟨none, none, none, none, none, some (storageBound - 1)⟩) := by
    decide +kernel
  have hnext : Server.operationOf? settings next.request = some
      (.updateRegulation 1 (.byId 1) ⟨none, none, none, none, none, some storageBound⟩) := by
    decide +kernel
  obtain ⟨-, -, -, -, hanswered⟩ := answered_unless_overflowing Store.initial_sample
    readable_sample hroom hlargest (by decide) (by decide)
  obtain ⟨hoverflows, -, hfails, -, -⟩ := answered_unless_overflowing Store.initial_sample
    readable_sample hroom hnext (by decide) (by decide)
  exact ⟨hanswered (by decide +kernel), hfails (hoverflows.1 (by decide +kernel))⟩

/-- The trail is asked for with this query. -/
def trailAsked (query : Text) : Arrival where
  context := ⟨⟨0⟩, none, none, false⟩
  outage := none
  request := ⟨"GET", "/api/v1/audit-log", query, [], [], none⟩

/-- Requests that are accepted with an integer beyond storage: for a project, for a regulation, as a
type, as an order, as a filter of the trail, and as the number of entries before a page. -/
def vastAsked : List Arrival :=
  [.plain "GET" "/api/v1/projects/9223372036854775808/regulations" "",
    .plain "DELETE" "/api/v1/projects/1/regulations/-9223372036854775809" "",
    .plain "POST" "/api/v1/projects/1/regulations"
      "\x7b\"name\": \"s\", \"type_id\": 9223372036854775808\x7d",
    ordering "9223372036854775808",
    trailAsked "entity_id=9223372036854775808",
    trailAsked "page=9223372036854775807&per_page=200"]

/-- Each of these requests ends in an overflow, and is answered as a failure. -/
theorem vast_integers_fail :
    let settings := Settings.ofDatabase "sqlite"
    let s := (sample.serve settings [.creation]).store
    ∀ a ∈ vastAsked,
      (Server.operationOf? settings a.request).map
          (fun op => ((op.run (Server.contextOf a.context a.request)).perform s).answer) =
        some (.error .integerBeyondStorage) ∧
      (a.outcome settings s).answer.status = 500 := by
  decide +kernel

end World

end ComplianceRegistry
