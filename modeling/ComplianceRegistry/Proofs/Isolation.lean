import ComplianceRegistry.Proofs.Agreement
import ComplianceRegistry.Proofs.Comparison
import ComplianceRegistry.Proofs.Faults
import ComplianceRegistry.Proofs.Projects
import ComplianceRegistry.Proofs.Room

/-!
# Projects do not see each other

What is asked of one project comes to the same on all stores that agree on the project, whatever
they hold besides. Each look-up carries the project with it, so that a row of another project is
treated like one that is not there. Only the ids of new rows tell the stores apart, since ids are
counted over all projects; a store in which they have run out would be told apart by that as well.

## Main definitions

* `Answer.SameUpToNewId` — two answers are the same, up to the id of a row that is new
* `Trail.Note.SameButForRow` — two notes differ at most in the id of their row

## Main results

* `Trail.record_across`, `Store.insert_across`, `Store.replace_across` — writes to two stores
* `Regulations.create_across`, `Statuses.write_across` — the writes of a project on two stores
* `Operation.answer_eq_of_isRead`, `Operation.perform_across` — operations of a project
* `World.projects_are_isolated` — requests below a project
-/

namespace ComplianceRegistry

open Work

variable {ctx : Context} {s t : Store} {p : Int} {E : Fault → Prop}

/-- Two answers are the same, up to the id of a row that is new in each of two stores. -/
inductive Answer.SameUpToNewId (s t : Store) : Answer → Answer → Prop
  | same {a : Answer} : SameUpToNewId s t a a
  | regulation {view : RegulationView} (hid : view.regulation.id = s.nextIdOf .regulations) :
      SameUpToNewId s t (.regulation view) (.regulation
        { view with regulation := { view.regulation with id := t.nextIdOf .regulations } })
  | status {view : StatusView} (hid : view.status.id = s.nextIdOf .statuses) :
      SameUpToNewId s t (.status view) (.status
        { view with status := { view.status with id := t.nextIdOf .statuses } })

/-! ### The trails of two stores -/

namespace Trail

variable {notes notes' : List Note}

/-- Two notes differ at most in the id of their row, which can be stored for both or for neither. -/
def Note.SameButForRow (n n' : Note) : Prop :=
  n' = { n with entityId := n'.entityId } ∧ checkInteger n.entityId = checkInteger n'.entityId

theorem Note.SameButForRow.refl (n : Note) : n.SameButForRow n := ⟨rfl, rfl⟩

theorem checkEntries_eq {first first' : Int} (h : List.Forall₂ Note.SameButForRow notes notes')
    (hroom : ∀ i : Nat, i < notes.length → Storable (first + i) ∧ Storable (first' + i)) :
    checkEntries (entriesFrom ctx first notes) = checkEntries (entriesFrom ctx first' notes') := by
  induction h generalizing first first' with
  | nil => rfl
  | @cons n n' notes notes' hn _ ih =>
    obtain ⟨hrest, hentity⟩ := hn
    obtain ⟨hfirst, hfirst'⟩ : Storable first ∧ Storable first' := by
      simpa using hroom 0 (by simp)
    have hid : checkInteger first = checkInteger first' :=
      checkInteger_eq_of_storable hfirst hfirst'
    have hhead : (Row.audit (n.entry ctx first)).check = (Row.audit (n'.entry ctx first')).check :=
      AuditEntry.check_congr hid rfl hentity (by rw [hrest]; rfl)
    -- the others are numbered from the ids after these
    have htail : checkEntries (entriesFrom ctx (first + 1) notes) =
        checkEntries (entriesFrom ctx (first' + 1) notes') := by
      refine ih fun i hi => ?_
      have hnext := hroom (i + 1) (by simpa using hi)
      have hplus (n : Int) : n + 1 + i = n + (i + 1 : Nat) := by omega
      rwa [hplus, hplus]
    simp only [entriesFrom, checkEntries_cons, hhead, htail]

/-- While there is room both trails take their notes, or both refuse them for the same reason. -/
theorem record_across {σ σ' : Session} (hnotes : List.Forall₂ Note.SameButForRow notes notes')
    (hlength : notes.length ≤ 10) (hroom : s.HasRoom) (hroom' : t.HasRoom)
    (haudit : σ.working.audit = s.audit) (haudit' : σ'.working.audit = t.audit) :
    RunAlike E (write (record ctx · notes)) σ (write (record ctx · notes')) σ'
      fun _ _ _ _ => True := by
  refine RunAlike.of_write ((record_alike ((Alike.of_eq ?_).mono fun _ _ _ => trivial)).mono
    fun _ _ h => h.1)
  refine checkEntries_eq hnotes fun i hi => ?_
  rw [haudit, haudit', ← Store.nextIdOf_audit, ← Store.nextIdOf_audit]
  exact ⟨hroom.audit ⟨i, by omega⟩, hroom'.audit ⟨i, by omega⟩⟩

end Trail

/-! ### The tables of two stores -/

theorem Regulation.check_eq {r : Regulation} {id : Int} (h : checkInteger r.id = checkInteger id) :
    (Row.regulation r).check = (Row.regulation { r with id := id }).check := by
  have hcell : (Cell.integer r.id).check = (Cell.integer id).check := h
  refine Row.check_congr ?_
  simp only [Row.columns, columns, List.map_cons, hcell]

theorem Status.check_eq {st : Status} {id : Int} (h : checkInteger st.id = checkInteger id) :
    (Row.status st).check = (Row.status { st with id := id }).check := by
  have hcell : (Cell.integer st.id).check = (Cell.integer id).check := h
  refine Row.check_congr ?_
  simp only [Row.columns, columns, List.map_cons, hcell]

namespace Store

variable {row row' : Row}

theorem insert_across (hcheck : row.check = row'.check)
    (hadmits : (s.row? row.table row.id).isNone ∧ s.Admits row ↔
      (t.row? row'.table row'.id).isNone ∧ t.Admits row') :
    Alike E (fun a b => a = s.push row ∧ b = t.push row') (s.insert row) (t.insert row') := by
  unfold insert
  rw [hcheck]
  refine Alike.bind (.of_eq rfl) fun _ _ _ => ?_
  by_cases hnew : (s.row? row.table row.id).isNone ∧ s.Admits row
  · rw [if_pos hnew, if_pos (hadmits.1 hnew)]
    exact .ok ⟨rfl, rfl⟩
  · rw [if_neg hnew, if_neg (mt hadmits.2 hnew)]
    exact .error

theorem replace_across (hadmits : s.Admits row ↔ t.Admits row) :
    Alike E (fun a b => a = s.put row ∧ b = t.put row) (s.replace row) (t.replace row) := by
  unfold replace
  refine Alike.bind (.of_eq rfl) fun _ _ _ => ?_
  by_cases h : s.Admits row
  · rw [if_pos h, if_pos (hadmits.1 h)]
    exact .ok ⟨rfl, rfl⟩
  · rw [if_neg h, if_neg (mt hadmits.2 h)]
    exact .error

/-- A regulation of the project is admitted by both stores or by neither, provided that its ids tell
it from the same others. -/
theorem Agree.admits_regulation_iff {r : Regulation} {id : Int} (h : s.Agree p t)
    (hproject : r.projectId = p)
    (hid : ∀ g ∈ s.regulations, g.projectId = p → (g.id = r.id ↔ g.id = id)) :
    s.Admits (.regulation r) ↔ t.Admits (.regulation { r with id := id }) := by
  subst hproject
  refine and_congr ⟨?_, ?_⟩ (and_congr ?_ ?_)
  · intro hfree g hg hne hkeys
    have hg : g ∈ s.regulations := (h.regulations g hkeys.1).2 hg
    exact hfree g hg (mt (hid g hg hkeys.1).1 hne) hkeys
  · intro hfree g hg hne hkeys
    exact hfree g ((h.regulations g hkeys.1).1 hg) (mt (hid g hg hkeys.1).2 hne) hkeys
  · exact exists_congr fun u => and_congr_left fun _ => h.types u
  · exact exists_congr fun q => and_congr_left fun hq => h.projects q hq

end Store

namespace Regulations

variable {draft : Draft} {patch : Patch} {address : Address} {a b : RegulationView}
variable {before before' : Regulation}
variable {after after' : Store}
variable (h : s.Agree p t) (hs : s.Consistent) (ht : t.Consistent)

include h hs in
/-- Two regulations that are created differ in their ids alone. -/
theorem Created.across (ha : Created ctx s p draft a after) (hb : Created ctx t p draft b after') :
    Answer.SameUpToNewId s t (.regulation a) (.regulation b) ∧
      announcement ctx .created b.regulation = announcement ctx .created a.regulation := by
  have htype : a.type = b.type :=
    ok_unique ha.type_found ((h.find_type_eq hs).trans hb.type_found)
  have hconfig : a.regulation.config = b.regulation.config :=
    ok_unique ha.config_settled (htype ▸ hb.config_settled)
  have hid : a.regulation.id = s.nextIdOf .regulations := by
    rw [ha.row_eq, Store.nextIdOf_regulations]
    rfl
  have hrow : b.regulation = { a.regulation with id := t.nextIdOf .regulations } := by
    rw [hb.row_eq, ← hconfig, ← htype, Store.nextIdOf_regulations]
    conv_rhs => rw [ha.row_eq]
    rfl
  obtain ⟨row, type⟩ := b
  obtain rfl : row = _ := hrow
  obtain rfl : a.type = type := htype
  exact ⟨.regulation hid, rfl⟩

/-- What a regulation is rewritten to does not depend on the store. -/
theorem Rewritten.unique {patched row row' : Regulation}
    (ha : Rewritten ctx s before patched row after)
    (hb : Rewritten ctx t before patched row' after') : row = row' := by
  cases ha with
  | unchanged heq =>
    cases hb with
    | unchanged => rfl
    | changed hne => exact absurd heq hne
  | changed hne hrow =>
    cases hb with
    | unchanged heq => exact absurd heq hne
    | changed _ hrow' => exact hrow.trans hrow'.symm

include h hs ht in
theorem Updated.across (ha : Updated ctx s p address patch before a after)
    (hb : Updated ctx t p address patch before' b after') : a = b := by
  obtain rfl : before = before' := ok_unique ha.found ((h.find_eq hs ht).trans hb.found)
  have htype : a.type = b.type :=
    ok_unique ha.type_found ((h.find_type_eq hs).trans hb.type_found)
  have hconfig : a.regulation.config = b.regulation.config :=
    ok_unique ha.config_settled (htype ▸ hb.config_settled)
  have hrewritten := hb.rewritten
  rw [← htype, ← hconfig] at hrewritten
  have hrow : a.regulation = b.regulation := ha.rewritten.unique hrewritten
  exact RegulationView.mk.injEq .. ▸ ⟨hrow, htype⟩

include h hs ht in
theorem Deleted.across (ha : Deleted ctx s p address a after)
    (hb : Deleted ctx t p address b after') : a = b := by
  have hrow : a.regulation = b.regulation := ok_unique ha.found ((h.find_eq hs ht).trans hb.found)
  have htype : a.type = b.type :=
    ok_unique ha.type_found ((h.find_type_eq hs).trans (hrow ▸ hb.type_found))
  exact RegulationView.mk.injEq .. ▸ ⟨hrow, htype⟩

variable (hroom : s.HasRoom) (hroom' : t.HasRoom)

include h hroom hroom'

/-- A new regulation and its entry in the trail are taken by both stores or by neither. -/
theorem insertion_across {type : RegulationType} {config : Option Text} :
    RunAlike (fun _ => False) (do
        write (·.insert (.regulation
          (fresh ctx p draft (nextId (s.regulations.map (·.id))) type config)))
        write (Trail.record ctx · [.row .regulations .create (nextId (s.regulations.map (·.id)))]))
      (.start s) (do
        write (·.insert (.regulation
          (fresh ctx p draft (nextId (t.regulations.map (·.id))) type config)))
        write (Trail.record ctx · [.row .regulations .create (nextId (t.regulations.map (·.id)))]))
      (.start t) fun _ _ _ _ => True := by
  rw [← Store.nextIdOf_regulations, ← Store.nextIdOf_regulations]
  have hids : checkInteger (s.nextIdOf .regulations) = checkInteger (t.nextIdOf .regulations) :=
    checkInteger_eq_of_storable hroom.regulations hroom'.regulations
  have hnew {s : Store} {g : Regulation} (hg : g ∈ s.regulations) :
      g.id ≠ s.nextIdOf .regulations := by
    rw [Store.nextIdOf_regulations]
    exact Int.ne_of_lt (lt_nextId (List.mem_map_of_mem hg))
  refine RunAlike.write_bind (Store.insert_across (Regulation.check_eq hids)
    (and_congr ?_ (h.admits_regulation_iff rfl fun g hg hproject => ?_))) ?_
  · exact iff_of_true (Option.isNone_iff_eq_none.2 Store.row?_nextIdOf)
      (Option.isNone_iff_eq_none.2 Store.row?_nextIdOf)
  · exact iff_of_false (hnew hg) (hnew ((h.regulations g hproject).1 hg))
  · rintro _ _ ⟨rfl, rfl⟩
    exact Trail.record_across (.cons ⟨rfl, hids⟩ .nil) (by simp) hroom hroom' rfl rfl

include hs ht

theorem create_across :
    RunAlike (fun _ => False) (create ctx p draft) (.start s) (create ctx p draft) (.start t)
      fun a τ b τ' => Answer.SameUpToNewId s t (.regulation a) (.regulation b) ∧
        τ'.announced = τ.announced := by
  refine RunAlike.query_bind (.of_eq (h.find_type_eq hs)) ?_
  rintro type _ ⟨rfl, htype⟩
  refine RunAlike.query_bind (.of_eq (h.requireProject_eq hs)) ?_
  rintro _ _ ⟨-, hproject⟩
  refine RunAlike.lift_bind (.of_eq rfl) ?_
  rintro config _ ⟨rfl, hconfig⟩
  refine RunAlike.query_bind (.of_eq (h.ensureNameFree_eq hs ht)) ?_
  rintro _ _ ⟨-, hname⟩
  refine RunAlike.query_bind (R := fun a b => a = nextId (s.regulations.map (·.id)) ∧
    b = nextId (t.regulations.map (·.id))) (.ok ⟨rfl, rfl⟩) ?_
  rintro _ _ ⟨rfl, rfl⟩
  -- what is read back was told of creations already, and has only to be compared
  have hleads := insertion_leads htype hproject hconfig hname rfl
  have hleads' := insertion_leads (h.find_type_eq hs ▸ htype) (h.requireProject_eq hs ▸ hproject)
    hconfig (h.ensureNameFree_eq hs ht ▸ hname) rfl
  refine RunAlike.bind ((commitNaming_alike (Q := fun _ _ _ _ => True) nofun
    (insertion_across h hroom hroom')).and_leads hleads hleads') ?_
  rintro _ τ _ τ' ⟨-, hyields, hyields'⟩
  refine (RunAlike.of_yields hyields hyields').mono ?_
  rintro a ρ b ρ' ⟨⟨ha, hannounced⟩, hb, hannounced'⟩
  obtain ⟨hsame, hannouncement⟩ := ha.across h hs hb
  exact ⟨hsame, by rw [hannounced, hannounced', hannouncement]⟩

omit hs ht in
/-- A changed regulation and its entries in the trail are taken by both stores or by neither. -/
theorem writeChanges_across {row : Regulation} (hproject : row.projectId = p) :
    RunAlike (fun _ => False) (writeChanges ctx before row) (.start s) (writeChanges ctx before row)
      (.start t) fun _ _ _ _ => True := by
  unfold writeChanges
  split
  · have hadmits : s.Admits (.regulation { row with updatedAt := ctx.clock }) ↔
        t.Admits (.regulation { row with updatedAt := ctx.clock }) :=
      h.admits_regulation_iff hproject fun _ _ _ => Iff.rfl
    refine RunAlike.write_bind (Store.replace_across hadmits) ?_
    rintro _ _ ⟨rfl, rfl⟩
    exact Trail.record_across (List.forall₂_same.2 fun n _ => .refl n) length_updateNotes_le hroom
      hroom' rfl rfl
  · exact RunAlike.of_pure trivial

theorem update_across :
    RunAlike (fun _ => False) (update ctx p address patch) (.start s) (update ctx p address patch)
      (.start t) fun a τ b τ' => a = b ∧ τ'.announced = τ.announced := by
  refine RunAlike.query_bind (.of_eq (h.find_eq hs ht)) ?_
  rintro before _ ⟨rfl, hbefore⟩
  refine RunAlike.query_bind (.of_eq (h.find_type_eq hs)) ?_
  rintro type _ ⟨rfl, htype⟩
  refine RunAlike.query_bind (.of_eq (h.ensureRenamable_eq hs ht)) ?_
  rintro _ _ ⟨-, hname⟩
  refine RunAlike.lift_bind (.of_eq rfl) ?_
  rintro config _ ⟨rfl, hconfig⟩
  have hleads := rewriting_leads hs hbefore htype hname hconfig
  have hleads' := rewriting_leads ht (h.find_eq hs ht ▸ hbefore) (h.find_type_eq hs ▸ htype)
    (h.ensureRenamable_eq hs ht ▸ hname) hconfig
  have hproject : (patched before patch type config).projectId = p := (mem_of_find_eq_ok hbefore).2
  refine RunAlike.bind ((commitNaming_alike (Q := fun _ _ _ _ => True) nofun
    (writeChanges_across h hroom hroom' hproject)).and_leads hleads hleads') ?_
  rintro _ τ _ τ' ⟨-, hyields, hyields'⟩
  refine (RunAlike.of_yields hyields hyields').mono ?_
  rintro a ρ b ρ' ⟨⟨⟨_, ha⟩, hannounced⟩, ⟨_, hb⟩, hannounced'⟩
  obtain rfl := ha.across h hs ht hb
  exact ⟨rfl, hannounced'.trans hannounced.symm⟩

theorem delete_across :
    RunAlike (fun _ => False) (delete ctx p address) (.start s) (delete ctx p address) (.start t)
      fun a τ b τ' => a = b ∧ τ'.announced = τ.announced := by
  have hends : RunAlike (fun _ => False) (delete ctx p address) (.start s) (delete ctx p address)
      (.start t) fun _ _ _ _ => True := by
    refine RunAlike.query_bind (.of_eq (h.find_eq hs ht)) ?_
    rintro row _ ⟨rfl, -⟩
    refine RunAlike.query_bind (.of_eq (congrFun (h.view_eq hs) row)) ?_
    rintro shown _ ⟨rfl, -⟩
    refine RunAlike.write_bind (S := fun a b => a.audit = s.audit ∧ b.audit = t.audit)
      (.ok ⟨rfl, rfl⟩) ?_
    rintro bare bare' ⟨haudit, haudit'⟩
    refine RunAlike.write_bind (S := fun a b => a.audit = s.audit ∧ b.audit = t.audit)
      (.ok ⟨haudit, haudit'⟩) ?_
    rintro dropped dropped' ⟨haudit, haudit'⟩
    refine RunAlike.bind (Trail.record_across (.cons (.refl _) .nil) (by simp) hroom hroom' haudit
      haudit') fun _ _ _ _ _ => ?_
    refine RunAlike.bind (RunAlike.of_commit (Q := fun _ _ _ _ => True) trivial) fun _ _ _ _ _ => ?_
    refine RunAlike.bind (RunAlike.of_announce (Q := fun _ _ _ _ => True) trivial)
      fun _ _ _ _ _ => ?_
    exact RunAlike.of_pure trivial
  refine (hends.and_leads delete_leads delete_leads).mono ?_
  rintro a τ b τ' ⟨-, ⟨ha, hannounced⟩, hb, hannounced'⟩
  obtain rfl := ha.across h hs ht hb
  exact ⟨rfl, hannounced'.trans hannounced.symm⟩

end Regulations

namespace Statuses

variable {regulation : Int} {catalogId : Text} {r : Regulation} {v : Version} {w : StatusWrite}
variable {row row' : Status} {after after' : Store}
variable (h : s.Agree p t) (hs : s.Consistent) (ht : t.Consistent)
variable (hpair : Pair s p regulation catalogId r v)

/-- The notes on a write to two rows that differ in their ids alone. -/
theorem putNotes_across {before : Option Status} {id id' : Int}
    (hid : checkInteger id = checkInteger id') :
    List.Forall₂ Trail.Note.SameButForRow (putNotes before id w) (putNotes before id' w) := by
  unfold putNotes
  refine List.forall₂_map_left_iff.2 (List.forall₂_map_right_iff.2
    (List.forall₂_same.2 fun c _ => ?_))
  cases before <;> exact ⟨rfl, hid⟩

include h hpair in
/-- A regulation and a version of the project are so in both stores. -/
theorem Pair.across : Pair t p regulation catalogId r v :=
  { hpair with
    regulation_mem := (h.regulations r hpair.regulation_project).1 hpair.regulation_mem
    version_mem := (h.versions v hpair.version_project).1 hpair.version_mem }

include h hs ht hpair

theorem Pair.statusesAt_across : s.statusesAt r.id v.id = t.statusesAt r.id v.id :=
  h.statusesAt_eq hs ht hpair.regulation_mem hpair.regulation_project

/-- Two rows that are written are the same, or they are added and differ in their ids alone. -/
theorem Upserted.across (ha : Upserted ctx s r v w row after)
    (hb : Upserted ctx t r v w row' after') :
    row' = row ∨
      row.id = s.nextIdOf .statuses ∧ row' = { row with id := t.nextIdOf .statuses } := by
  have hat := hpair.statusesAt_across h hs ht
  cases ha with
  | added hnone hrow =>
    cases hb with
    | added _ hrow' =>
      right
      rw [hrow, hrow', Store.nextIdOf_statuses, Store.nextIdOf_statuses]
      cases w <;> exact ⟨rfl, rfl⟩
    | replaced hsome => simp [← hat, hnone] at hsome
  | replaced hsome hrow =>
    cases hb with
    | added hnone => simp [hat, hnone] at hsome
    | replaced hsome' hrow' =>
      rw [← hat, hsome] at hsome'
      obtain rfl := Option.some.inj hsome'
      exact .inl (hrow'.trans hrow.symm)

variable (hroom : s.HasRoom) (hroom' : t.HasRoom)

include hroom hroom'

/-- The row of a pair is taken by both stores or by neither. -/
theorem upsert_across :
    Alike (fun _ => False) (fun _ _ => True) (upsert ctx r v w s) (upsert ctx r v w t) := by
  have hat := hpair.statusesAt_across h hs ht
  have hpair' := hpair.across h
  unfold upsert
  rw [← hat]
  cases hhead : (s.statusesAt r.id v.id).head? with
  | some st =>
    have hhead' : (t.statusesAt r.id v.id).head? = some st := hat ▸ hhead
    refine Alike.mono (Store.replace_across (iff_of_true ?_ ?_)) fun _ _ _ => trivial
    · exact admits_replacement hs hpair hhead
    · exact admits_replacement ht hpair' hhead'
  | none =>
    have hnone := List.head?_eq_none_iff.1 hhead
    have hids : checkInteger (nextId (s.statuses.map (·.id))) =
        checkInteger (nextId (t.statuses.map (·.id))) := by
      rw [← Store.nextIdOf_statuses, ← Store.nextIdOf_statuses]
      exact checkInteger_eq_of_storable hroom.statuses hroom'.statuses
    have hcheck : (Row.status (w.apply (fresh ctx s r v))).check =
        (Row.status (w.apply (fresh ctx t r v))).check := by
      cases w <;> exact Status.check_eq hids
    have hnone' : t.statusesAt r.id v.id = [] := hat ▸ hnone
    refine Alike.mono (Store.insert_across hcheck (iff_of_true ?_ ?_)) fun _ _ _ => trivial
    · exact admits_addition hpair hnone
    · exact admits_addition hpair' hnone'

theorem put_across :
    RunAlike (fun _ => False) (put ctx r v w) (.start s) (put ctx r v w) (.start t)
      fun _ _ _ _ => True := by
  have hat := hpair.statusesAt_across h hs ht
  have hbefore : (.ok (s.statusesAt r.id v.id).head? : Except Fault (Option Status)) =
      .ok (t.statusesAt r.id v.id).head? := by rw [hat]
  refine RunAlike.query_bind (.of_eq hbefore) ?_
  rintro before _ ⟨rfl, -⟩
  refine RunAlike.write_bind (upsert_across h hs ht hpair hroom hroom').results ?_
  rintro written written' ⟨-, hwrite, hwrite'⟩
  obtain ⟨row, hid, ha⟩ := idOfPair_of_upsert hs hwrite
  obtain ⟨row', hid', hb⟩ := idOfPair_of_upsert ht hwrite'
  refine RunAlike.query_bind (R := fun a b => a = row.id ∧ b = row'.id) ?_ ?_
  · change Alike _ _ (idOfPair written r v) (idOfPair written' r v)
    rw [hid, hid']
    exact .ok ⟨rfl, rfl⟩
  rintro _ _ ⟨rfl, rfl⟩
  have hids : checkInteger row.id = checkInteger row'.id := by
    rcases ha.across h hs ht hpair hb with rfl | ⟨hid, rfl⟩
    · rfl
    · rw [hid]
      exact checkInteger_eq_of_storable hroom.statuses hroom'.statuses
  exact RunAlike.bind (Trail.record_across (putNotes_across hids) length_putNotes_le hroom hroom'
    (audit_of_upsert hwrite) (audit_of_upsert hwrite')) fun _ _ _ _ _ => RunAlike.of_commit trivial

theorem write_across :
    RunAlike (fun _ => False) (write ctx p r v w) (.start s) (write ctx p r v w) (.start t)
      fun a τ b τ' => Answer.SameUpToNewId s t (.status a) (.status b) ∧
        τ'.announced = τ.announced := by
  have hpair' := hpair.across h
  refine RunAlike.bind ((put_across h hs ht hpair hroom hroom').and_leads put_leads put_leads) ?_
  rintro _ τ _ τ' ⟨-, ⟨⟨row, ha⟩, hworking, hannounced⟩, ⟨row', hb⟩, hworking', hannounced'⟩
  -- what was written is read back in both stores
  refine (RunAlike.of_yields
    (get_yields hs hpair (hworking ▸ ha) (Q := fun a ρ => a = ⟨row, catalogId⟩ ∧ ρ = τ) ⟨rfl, rfl⟩)
    (get_yields ht hpair' (hworking' ▸ hb) (Q := fun b ρ' => b = ⟨row', catalogId⟩ ∧ ρ' = τ')
      ⟨rfl, rfl⟩)).mono ?_
  rintro _ _ _ _ ⟨⟨rfl, rfl⟩, rfl, rfl⟩
  refine ⟨?_, hannounced'.trans hannounced.symm⟩
  rcases ha.across h hs ht hpair hb with rfl | ⟨hid, rfl⟩
  · exact .same
  · exact .status hid

omit hpair hroom hroom' in
/-- Work on a pair finds the same pair in both stores. -/
theorem across_of_pair {α : Type} {next : Regulation × Version → Work α}
    {Q : α → Session → α → Session → Prop}
    (hnext : ∀ r v, Pair s p regulation catalogId r v →
      RunAlike E (next (r, v)) (.start s) (next (r, v)) (.start t) Q) :
    RunAlike E (query (findPair · p regulation catalogId) >>= next) (.start s)
      (query (findPair · p regulation catalogId) >>= next) (.start t) Q := by
  refine RunAlike.query_bind (.of_eq (h.findPair_eq hs ht)) ?_
  rintro ⟨r, v⟩ _ ⟨rfl, hfind⟩
  exact hnext r v (findPair_eq_ok hfind)

variable {value : Option Text} {details : Document} {compliant : Option Bool}

omit hpair

theorem setValue_across :
    RunAlike (fun _ => False) (setValue ctx p regulation catalogId value details) (.start s)
      (setValue ctx p regulation catalogId value details) (.start t)
      fun a τ b τ' => Answer.SameUpToNewId s t (.status a) (.status b) ∧
        τ'.announced = τ.announced :=
  across_of_pair h hs ht fun _ _ hpair => write_across h hs ht hpair hroom hroom'

theorem setCompliance_across :
    RunAlike (fun _ => False) (setCompliance ctx p regulation catalogId compliant) (.start s)
      (setCompliance ctx p regulation catalogId compliant) (.start t)
      fun a τ b τ' => Answer.SameUpToNewId s t (.status a) (.status b) ∧
        τ'.announced = τ.announced :=
  across_of_pair h hs ht fun _ _ hpair => write_across h hs ht hpair hroom hroom'

theorem report_across :
    RunAlike (fun _ => False) (report ctx p regulation catalogId value details) (.start s)
      (report ctx p regulation catalogId value details) (.start t)
      fun a τ b τ' => Answer.SameUpToNewId s t (.status a) (.status b) ∧
        τ'.announced = τ.announced := by
  refine across_of_pair h hs ht fun r v hpair => ?_
  refine RunAlike.query_bind (.of_eq (h.find_type_eq hs)) ?_
  rintro type _ ⟨rfl, -⟩
  refine RunAlike.lift_bind (.of_eq rfl) ?_
  rintro compliant _ ⟨rfl, -⟩
  exact write_across h hs ht hpair hroom hroom'

theorem delete_across :
    RunAlike (fun _ => False) (delete ctx p regulation catalogId) (.start s)
      (delete ctx p regulation catalogId) (.start t) fun _ τ _ τ' => τ'.announced = τ.announced := by
  have hends : RunAlike (fun _ => False) (delete ctx p regulation catalogId) (.start s)
      (delete ctx p regulation catalogId) (.start t) fun _ _ _ _ => True := by
    refine across_of_pair h hs ht fun r v hpair => ?_
    have hat : ofPair s r v = ofPair t r v := congrArg sole (hpair.statusesAt_across h hs ht)
    refine RunAlike.query_bind (.of_eq hat) ?_
    rintro found _ ⟨rfl, -⟩
    cases found with
    | none => exact RunAlike.of_fail
    | some st =>
      refine RunAlike.write_bind (S := fun a b => a.audit = s.audit ∧ b.audit = t.audit)
        (.ok ⟨rfl, rfl⟩) ?_
      rintro dropped dropped' ⟨haudit, haudit'⟩
      exact RunAlike.bind (Trail.record_across (.cons (.refl _) .nil) (by simp) hroom hroom' haudit
        haudit') fun _ _ _ _ _ => RunAlike.of_commit trivial
  refine (hends.and_leads delete_leads delete_leads).mono ?_
  rintro _ τ _ τ' ⟨-, ⟨-, hannounced⟩, -, hannounced'⟩
  exact hannounced'.trans hannounced.symm

end Statuses

namespace Operation

variable {op : Operation}
variable (h : s.Agree p t) (hs : s.Consistent) (ht : t.Consistent) (hop : op.project? = some p)

include h hs ht hop

/-- What is read of a project is the same in both stores. -/
theorem reading_across (hread : op.IsRead) :
    RunAlike (fun _ => False) (op.run ctx) (.start s) (op.run ctx) (.start t)
      fun a τ b τ' => a = b ∧ τ'.announced = τ.announced := by
  have htold {α : Type} (tell : α → Answer) {ask : Store → Except Fault α}
      (hask : ask s = ask t) :
      RunAlike (fun _ => False) (tell <$> query ask) (.start s) (tell <$> query ask) (.start t)
        fun a τ b τ' => a = b ∧ τ'.announced = τ.announced := by
    refine RunAlike.map (RunAlike.of_query ((Alike.of_eq hask).mono ?_))
    rintro a _ ⟨rfl, -⟩
    exact ⟨rfl, rfl⟩
  cases op <;> first | exact hread.elim | simp only [project?, reduceCtorEq] at hop
  all_goals obtain rfl := Option.some.inj hop
  case listRegulations => exact htold _ (h.list_eq hs ht)
  case getRegulation => exact htold _ (h.get_eq hs ht)
  case listStatuses => exact htold _ (h.statuses_list_eq hs ht)
  case getStatus => exact htold _ (h.statuses_get_eq hs ht)

theorem answer_eq_of_isRead (hread : op.IsRead) :
    ((op.run ctx).perform s).answer = ((op.run ctx).perform t).answer := by
  refine Alike.eq (Alike.mono (reading_across h hs ht hop hread).perform ?_)
  rintro _ _ ⟨_, _, ⟨hab, -⟩, -⟩
  exact hab

variable (hroom : s.HasRoom) (hroom' : t.HasRoom)

include hroom hroom'

theorem run_across :
    RunAlike (fun _ => False) (op.run ctx) (.start s) (op.run ctx) (.start t)
      fun a τ b τ' => a.SameUpToNewId s t b ∧ τ'.announced = τ.announced := by
  by_cases hread : op.IsRead
  · refine (reading_across h hs ht hop hread).mono ?_
    rintro a τ _ τ' ⟨rfl, hannounced⟩
    exact ⟨.same, hannounced⟩
  cases op <;> first | exact absurd trivial hread | simp only [project?, reduceCtorEq] at hop
  all_goals obtain rfl := Option.some.inj hop
  case createRegulation =>
    exact RunAlike.map (Regulations.create_across h hs ht hroom hroom')
  case updateRegulation =>
    refine RunAlike.map ((Regulations.update_across h hs ht hroom hroom').mono ?_)
    rintro a τ _ τ' ⟨rfl, hannounced⟩
    exact ⟨.same, hannounced⟩
  case deleteRegulation =>
    refine RunAlike.map ((Regulations.delete_across h hs ht hroom hroom').mono ?_)
    rintro a τ _ τ' ⟨rfl, hannounced⟩
    exact ⟨.same, hannounced⟩
  case setValue => exact RunAlike.map (Statuses.setValue_across h hs ht hroom hroom')
  case setCompliance => exact RunAlike.map (Statuses.setCompliance_across h hs ht hroom hroom')
  case report => exact RunAlike.map (Statuses.report_across h hs ht hroom hroom')
  case deleteStatus =>
    refine RunAlike.map ((Statuses.delete_across h hs ht hroom hroom').mono ?_)
    intro _ τ _ τ' hannounced
    exact ⟨.same, hannounced⟩

/-- An operation of the project is accepted by both stores, which answer the same up to the id of a
new row, or it meets the same fault in both. -/
theorem perform_across :
    Alike (fun _ => False) (Answer.SameUpToNewId s t) ((op.run ctx).perform s).answer
        ((op.run ctx).perform t).answer ∧
      ((op.run ctx).perform t).announcements = ((op.run ctx).perform s).announcements := by
  have halike : Alike (fun _ => False) _ ((op.run ctx).perform s).answer
      ((op.run ctx).perform t).answer := (run_across h hs ht hop hroom hroom').perform
  generalize hx : ((op.run ctx).perform s).answer = x at halike
  generalize hy : ((op.run ctx).perform t).answer = y at halike
  cases halike with
  | ok hab =>
    obtain ⟨τ, τ', ⟨hsame, hannounced⟩, -, hnews, -, hnews'⟩ := hab
    exact ⟨.ok hsame, hnews'.trans (hannounced.trans hnews.symm)⟩
  | error =>
    -- nothing is announced of what fails
    have hnews := ((run_leads hs op).perform_error hx).2
    have hnews' := ((run_leads ht op).perform_error hy).2
    exact ⟨.error, hnews'.trans hnews.symm⟩
  | broken hfalse => exact hfalse.elim

end Operation

/-! ### Requests -/

namespace Server

variable {settings : Settings} {outage : Option Text} {r : Request} {op : Operation} {a b : Answer}

theorem isWritable_eq (h : a.SameUpToNewId s t b) : isWritable b = isWritable a := by
  cases h <;> rfl

theorem isCarriable_documentOf_eq (h : a.SameUpToNewId s t b) :
    (documentOf op b).isCarriable = (documentOf op a).isCarriable := by
  cases h with
  | same => rfl
  | regulation => cases op <;> rfl
  | status => cases op <;> rfl

/-- The id of a new row does not show in the status of a response. -/
theorem status_present_eq (h : a.SameUpToNewId s t b) :
    (present settings r op (.ok b)).status = (present settings r op (.ok a)).status := by
  unfold present documentResponse
  simp only [isWritable_eq h, isCarriable_documentOf_eq h]
  by_cases hwritable : isWritable a
  · by_cases hcarriable : (documentOf op a).isCarriable
    · simp only [hwritable, hcarriable, if_true]
      rfl
    · simp only [hwritable, hcarriable, if_true]
      rfl
  · simp only [hwritable]
    rfl

theorem status_present_across {x y : Except Fault Answer}
    (h : Alike (fun _ => False) (Answer.SameUpToNewId s t) x y) :
    (present settings r op y).status = (present settings r op x).status := by
  cases h with
  | ok h => exact status_present_eq h
  | error => rfl
  | broken hfalse => exact hfalse.elim

end Server

/-- What the operation of an arrival comes to at a store. -/
def Arrival.result (a : Arrival) (op : Operation) (s : Store) : Except Fault Answer :=
  ((op.run (Server.contextOf a.context a.request)).perform s).answer

namespace World

variable {settings : Settings} {w : World} {a : Arrival} {arrivals : List Arrival}

theorem outcome_of_operation {op : Operation}
    (hop : Server.operationOf? settings a.request = some op) :
    (a.outcome settings s).answer = Server.present settings a.request op (a.result op s) ∧
      (a.outcome settings s).announcements =
        ((op.run (Server.contextOf a.context a.request)).perform s).announcements := by
  unfold Arrival.outcome
  rw [Server.handle_of_operation hop]
  exact ⟨rfl, rfl⟩

/-- A request below a project leaves alone whatever is not of the project. -/
theorem outcome_outside (hs : s.Consistent) (hunder : a.request.IsUnder p) :
    let mine := a.outcome settings s
    mine.store.types = s.types ∧ mine.store.projects = s.projects ∧
      mine.store.versions = s.versions ∧
      mine.store.regulationsOutside p = s.regulationsOutside p ∧
      mine.store.statusesOutside p = s.statusesOutside p := by
  intro mine
  rcases Server.handle_cases hs with ⟨op, answer, hop, -, houtcome⟩ | ⟨hstore, -⟩
  · have hproject := (Server.project?_of_isUnder hunder hop).1
    obtain ⟨htypes, hprojects, hversions⟩ :=
      houtcome.surroundings_eq (Server.isPosed_of_operationOf? hop)
    exact ⟨htypes, hprojects, hversions, houtcome.regulationsOutside_eq hs hproject,
      houtcome.statusesOutside_eq hs hproject⟩
  · have hmine : mine.store = s := hstore
    rw [hmine]
    exact ⟨rfl, rfl, rfl, rfl, rfl⟩

/-- What asks for no operation is answered without a look at the store. -/
theorem outcome_of_none (hop : Server.operationOf? settings a.request = none) :
    (a.outcome settings t).answer = (a.outcome settings s).answer ∧
      (a.outcome settings t).announcements = (a.outcome settings s).announcements := by
  unfold Arrival.outcome
  obtain ⟨response, hresponse⟩ : ∃ response, ∀ s,
      Server.handle settings a.outage a.context s a.request = ⟨response, s, []⟩ :=
    Server.exists_handle_eq hop
  rw [hresponse, hresponse]
  exact ⟨rfl, rfl⟩

/-- What a request may have changed in a project is told alike. -/
theorem outcome_across (hs : s.Consistent) (ht : t.Consistent) (hunder : a.request.IsUnder p)
    (hagree : s.Agree p t) (hroom : s.HasRoom) (hroom' : t.HasRoom) :
    let mine := a.outcome settings s
    let theirs := a.outcome settings t
    theirs.announcements = mine.announcements ∧ theirs.answer.status = mine.answer.status ∧
      (Server.operationOf? settings a.request = none → theirs.answer = mine.answer) ∧
      ∀ op, Server.operationOf? settings a.request = some op →
        mine.answer = Server.present settings a.request op (a.result op s) ∧
        theirs.answer = Server.present settings a.request op (a.result op t) ∧
        Alike (fun _ => False) (Answer.SameUpToNewId s t) (a.result op s) (a.result op t) := by
  intro mine theirs
  cases hop : Server.operationOf? settings a.request with
  | none =>
    obtain ⟨hanswer, hannounced⟩ := outcome_of_none (s := s) (t := t) hop
    exact ⟨hannounced, congrArg Response.status hanswer, fun _ => hanswer,
      fun _ hsome => absurd hsome.symm (Option.some_ne_none _)⟩
  | some op =>
    obtain ⟨hproject, -⟩ := Server.project?_of_isUnder hunder hop
    obtain ⟨hmine, hnews⟩ := outcome_of_operation (s := s) hop
    obtain ⟨htheirs, hnews'⟩ := outcome_of_operation (s := t) hop
    obtain ⟨halike, hannounced⟩ := Operation.perform_across hagree hs ht hproject hroom hroom'
    refine ⟨hnews'.trans (hannounced.trans hnews.symm), ?_, nofun, ?_⟩
    · change (a.outcome settings t).answer.status = (a.outcome settings s).answer.status
      rw [hmine, htheirs]
      exact Server.status_present_across halike
    · rintro _ ⟨⟩
      exact ⟨hmine, htheirs, halike⟩

/-- A request below a project, in a reachable state: it leaves the rows of all other projects alone,
and all projects, versions and types. On any other store that agrees on the project, a request by
`GET` has the same response. Any other is accepted on both or meets the same fault on both, and the
answers are the same up to the id of a new row, as long as the ids have not run out; no realistic
run uses them up (`World.hasRoom_serve`). A store that agrees on the project is also the one in
which the rows of no other project exist. -/
theorem projects_are_isolated {t : Store} (h : w.store.Initial) (ht : t.Consistent)
    (hunder : a.request.IsUnder p) :
    let s := (w.serve settings arrivals).store
    let mine := a.outcome settings s
    let theirs := a.outcome settings t
    (mine.store.types = s.types ∧ mine.store.projects = s.projects ∧
      mine.store.versions = s.versions ∧
      mine.store.regulationsOutside p = s.regulationsOutside p ∧
      mine.store.statusesOutside p = s.statusesOutside p) ∧
    (s.Agree p t → a.request.method = ("GET" : Text) → theirs.answer = mine.answer) ∧
    (s.Agree p t → s.HasRoom → t.HasRoom →
      theirs.announcements = mine.announcements ∧ theirs.answer.status = mine.answer.status ∧
      (Server.operationOf? settings a.request = none → theirs.answer = mine.answer) ∧
      ∀ op, Server.operationOf? settings a.request = some op →
        mine.answer = Server.present settings a.request op (a.result op s) ∧
        theirs.answer = Server.present settings a.request op (a.result op t) ∧
        Alike (fun _ => False) (Answer.SameUpToNewId s t) (a.result op s) (a.result op t)) ∧
    s.Agree p (s.only p) ∧ (s.only p).Consistent := by
  intro s mine theirs
  have hkept : s.Kept := kept_serve h
  have hs : s.Consistent := hkept.toConsistent
  refine ⟨?_, ?_, ?_, Store.agree_only, Store.consistent_only hkept.toSound⟩
  · exact outcome_outside hs hunder
  · intro hagree hget
    cases hop : Server.operationOf? settings a.request with
    | none => exact (outcome_of_none hop).1
    | some op =>
      obtain ⟨hproject, hread⟩ := Server.project?_of_isUnder hunder hop
      have hresult : a.result op s = a.result op t :=
        Operation.answer_eq_of_isRead hagree hs ht hproject (hread hget)
      have hmine := (outcome_of_operation (s := s) hop).1
      rw [hresult] at hmine
      exact (outcome_of_operation hop).1.trans hmine.symm
  · intro hagree hroom hroom'
    exact outcome_across hs ht hunder hagree hroom hroom'

end World

/-- A world with a second project. -/
def World.shared : World :=
  { sample with
    store :=
      { Store.sample with
        projects := Store.sample.projects ++ [⟨2, "render", none, ⟨0⟩, ⟨0⟩⟩]
        versions := Store.sample.versions ++ [⟨2, "cat-200", 2, none, ⟨0⟩⟩] } }

/-- A regulation is created in the second project, with the name of the one in the first. -/
def Arrival.namesake : Arrival :=
  .plain "POST" "/api/v1/projects/2/regulations" "\x7b\"name\": \"r\", \"type_id\": 1\x7d"

/-- Another regulation is created in the first project. -/
def Arrival.further : Arrival :=
  .plain "POST" "/api/v1/projects/1/regulations" "\x7b\"name\": \"q\", \"type_id\": 1\x7d"

/-- The second regulation is looked for in the first project. -/
def Arrival.lookup : Arrival := .plain "GET" "/api/v1/projects/1/regulations/2" ""

/-- Where the second project has no rows, the creation comes to the same with an id of its own, and
the look-up has the same response. -/
theorem World.projects_are_isolated_shared :
    let s := (shared.serve (.ofDatabase "sqlite") [.creation, .namesake]).store
    let settings := Settings.ofDatabase "sqlite"
    shared.store.Initial ∧ (s.only 1).Consistent ∧ Arrival.further.request.IsUnder 1 ∧
      Arrival.lookup.request.IsUnder 1 ∧ s.HasRoom ∧ (s.only 1).HasRoom ∧
      (Arrival.further.outcome settings s).store.regulationsOutside 1 = s.regulationsOutside 1 ∧
      (s.regulationsOutside 1).map (·.id) = [2] ∧
      (Arrival.further.outcome settings (s.only 1)).answer.status = 201 ∧
      (Arrival.further.outcome settings (s.only 1)).answer.status =
        (Arrival.further.outcome settings s).answer.status ∧
      (Arrival.lookup.outcome settings (s.only 1)).answer =
        (Arrival.lookup.outcome settings s).answer := by
  intro s settings
  have hinitial : shared.store.Initial := by
    refine ⟨?_, rfl⟩
    constructor <;> decide
  have honly : (s.only 1).Consistent := Store.consistent_only (kept_serve hinitial).toSound
  have hroom : s.HasRoom := hasRoom_serve hinitial (by decide) (by decide)
  have hroom' : (s.only 1).HasRoom := by constructor <;> decide +kernel
  have hfurther : Arrival.further.request.IsUnder 1 := ⟨"1", ["regulations"], by decide, rfl⟩
  have hlook : Arrival.lookup.request.IsUnder 1 := ⟨"1", ["regulations", "2"], by decide, rfl⟩
  obtain ⟨⟨-, -, -, hframe, -⟩, -, hwrite, hagree, -⟩ := @projects_are_isolated 1 settings shared
    .further [.creation, .namesake] (s.only 1) hinitial honly hfurther
  have hlookup := (@projects_are_isolated 1 settings shared .lookup [.creation, .namesake]
    (s.only 1) hinitial honly hlook).2.1
  exact ⟨hinitial, honly, hfurther, hlook, hroom, hroom', hframe, by decide +kernel,
    by decide +kernel, (hwrite hagree hroom hroom').2.1, hlookup hagree rfl⟩

end ComplianceRegistry
