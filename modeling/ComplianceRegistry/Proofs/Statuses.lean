import ComplianceRegistry.Proofs.Regulations

/-!
# What the writes to statuses come to

The three ways of writing share one statement, which adds the row of a pair or replaces it. After
it the pair has exactly the row that was written, so that the row is found when the status is read
back.

## Main definitions

* `Statuses.Upserted` — a row was added for a pair, or took the place of the one it had
* `Statuses.Deleted` — the row of a pair was deleted

## Main results

* `Statuses.Upserted.consistent`, `Statuses.Upserted.statusesAt_eq` — what the store is then
* `Statuses.Upserted.statusesAt_of_ne`, `Statuses.Deleted.statusesAt_of_ne` — what others keep
* `Statuses.write_leads`, `Statuses.report_leads`, `Statuses.delete_leads` — the writes come to that
  or leave no trace
-/

namespace ComplianceRegistry.Statuses

open Work

variable {ctx : Context} {s after : Store} {project regulation : Int} {catalogId : Text}
variable {r : Regulation} {v : Version} {w : StatusWrite} {row st : Status} {view : StatusView}
variable {σ : Session}

@[simp] theorem apply_id : (w.apply st).id = st.id := by cases w <;> rfl

@[simp] theorem apply_regulationId : (w.apply st).regulationId = st.regulationId := by
  cases w <;> rfl

@[simp] theorem apply_versionId : (w.apply st).versionId = st.versionId := by cases w <;> rfl

/-- The trail gets a note for each column that is set. -/
theorem length_putNotes_le {before : Option Status} {id : Int} :
    (putNotes before id w).length ≤ 10 := by
  cases w <;> simp [putNotes, StatusWrite.cells]

theorem entityId_of_mem_putNotes {before : Option Status} {id : Int} {n : Trail.Note}
    (h : n ∈ putNotes before id w) : n.entityId = id := by
  obtain ⟨c, -, rfl⟩ := List.mem_map.1 h
  cases before <;> rfl

/-- The statuses of a pair have its keys. -/
theorem keys_of_mem_statusesAt (h : st ∈ s.statusesAt r.id v.id) :
    st.regulationId = r.id ∧ st.versionId = v.id :=
  of_decide_eq_true (List.mem_filter.1 h).2

/-! ### Adding or replacing -/

/-- A row was added for a pair, or took the place of the one it had. -/
inductive Upserted (ctx : Context) (s : Store) (r : Regulation) (v : Version) (w : StatusWrite) :
    Status → Store → Prop
  | added {row : Status} (hnone : s.statusesAt r.id v.id = [])
      (hrow : row = w.apply (fresh ctx s r v))
      (hwritten : s.insert (.status row) = .ok (s.push (.status row))) :
      Upserted ctx s r v w row (Trail.logged ctx (putNotes none row.id w) (s.push (.status row)))
  | replaced {row st : Status} (hsome : (s.statusesAt r.id v.id).head? = some st)
      (hrow : row = { w.apply st with updatedAt := ctx.clock })
      (hwritten : s.replace (.status row) = .ok (s.put (.status row))) :
      Upserted ctx s r v w row
        (Trail.logged ctx (putNotes (some st) row.id w) (s.put (.status row)))

namespace Upserted

theorem regulations_eq (h : Upserted ctx s r v w row after) :
    after.regulations = s.regulations := by
  cases h <;> rfl

theorem versions_eq (h : Upserted ctx s r v w row after) : after.versions = s.versions := by
  cases h <;> rfl

theorem consistent (hs : s.Consistent) (h : Upserted ctx s r v w row after) : after.Consistent := by
  cases h with
  | added hnone hrow hwritten => exact (hs.insert hwritten).logged
  | replaced hsome hrow hwritten => exact (hs.replace hwritten).logged

/-- The row is the pair's. -/
theorem mem_statusesAt (h : Upserted ctx s r v w row after) : row ∈ after.statusesAt r.id v.id := by
  cases h with
  | added hnone hrow hwritten =>
    refine List.mem_filter.2 ⟨List.mem_append_right _ (List.mem_singleton_self row), ?_⟩
    simp [hrow, fresh]
  | @replaced st hsome hrow hwritten =>
    have hst := List.mem_of_head? hsome
    obtain ⟨hregulation, hversion⟩ := keys_of_mem_statusesAt hst
    have hold := List.mem_of_mem_filter hst
    refine List.mem_filter.2 ⟨mem_putById.2 (.inl ⟨rfl, st, hold, by simp [hrow]⟩), ?_⟩
    simp [hrow, hregulation, hversion]

/-- The pair has exactly the row that was written. -/
theorem statusesAt_eq (hs : s.Consistent) (h : Upserted ctx s r v w row after) :
    after.statusesAt r.id v.id = [row] := by
  -- the pair has one row at most, and the written row is one of its rows
  obtain ⟨o, ho⟩ : ∃ o : Option Status, after.statusesAt r.id v.id = o.toList :=
    ⟨_, sole_eq_ok (sole_of_length_le_one (h.consistent hs).length_statusesAt_le_one)⟩
  have hmem := h.mem_statusesAt
  rw [ho] at hmem ⊢
  rw [Option.mem_toList.1 hmem]
  rfl

/-- All other pairs keep what they have. -/
theorem statusesAt_of_ne {regulationId versionId : Int} (hs : s.Consistent)
    (h : Upserted ctx s r v w row after) (hne : ¬ (r.id = regulationId ∧ v.id = versionId)) :
    after.statusesAt regulationId versionId = s.statusesAt regulationId versionId := by
  cases h with
  | added hnone hrow hwritten =>
    change (s.statuses ++ [row]).filter _ = s.statuses.filter _
    have hother : ¬ (row.regulationId = regulationId ∧ row.versionId = versionId) := by
      simpa [hrow, fresh] using hne
    simp [List.filter_append, hother]
  | @replaced st hsome hrow hwritten =>
    have hst := List.mem_of_head? hsome
    obtain ⟨hregulation, hversion⟩ := keys_of_mem_statusesAt hst
    -- the row is of the pair before and after, so that other pairs have it neither time
    refine filter_putById ?_ fun u hu hid => ?_
    · simpa [hrow, hregulation, hversion] using hne
    · obtain rfl : u = st := eq_of_key_eq hs.statusIds hu (List.mem_of_mem_filter hst)
        (by simpa [hrow] using hid)
      simpa [hregulation, hversion] using hne

end Upserted

/-- The statement adds or replaces a row, here seen together with what is recorded next. -/
theorem upsert_eq_ok {written : Store} (h : upsert ctx r v w s = .ok written) :
    ∃ row, Upserted ctx s r v w row
      (Trail.logged ctx (putNotes (s.statusesAt r.id v.id).head? row.id w) written) := by
  unfold upsert at h
  cases hhead : (s.statusesAt r.id v.id).head? with
  | some st =>
    simp only [hhead] at h
    obtain ⟨-, -, rfl⟩ := Store.replace_eq_ok h
    exact ⟨_, .replaced hhead rfl h⟩
  | none =>
    simp only [hhead] at h
    obtain ⟨-, -, -, rfl⟩ := Store.insert_eq_ok h
    exact ⟨_, .added (List.head?_eq_none_iff.1 hhead) rfl h⟩

/-- The statement leaves the trail alone, which is written after it. -/
theorem audit_of_upsert {written : Store} (h : upsert ctx r v w s = .ok written) :
    written.audit = s.audit := by
  unfold upsert at h
  split at h
  · obtain ⟨-, -, rfl⟩ := Store.replace_eq_ok h
    rfl
  · obtain ⟨-, -, -, rfl⟩ := Store.insert_eq_ok h
    rfl

/-- The id that is looked up after the statement is that of any row of the pair. -/
theorem idOfPair_eq_ok {id : Int} (h : idOfPair s r v = .ok id)
    (hrow : row ∈ s.statusesAt r.id v.id) : row.id = id := by
  obtain ⟨found, hsole, h⟩ := bind_eq_ok.1 h
  rw [sole_eq_ok hsole] at hrow
  cases found with
  | none => simp at h
  | some st =>
    obtain rfl : row = st := by simpa using hrow
    exact Except.ok.inj h

/-- What was written is committed with its entries in the trail. -/
theorem put_leads : (put ctx r v w).Leads (.start s) fun _ τ =>
    (∃ row, Upserted ctx s r v w row τ.committed) ∧ τ.working = τ.committed ∧ τ.announced = [] := by
  refine Leads.query_bind fun before hbefore => ?_
  obtain rfl : (s.statusesAt r.id v.id).head? = before := Except.ok.inj hbefore
  refine Leads.write_bind fun written hwrite => ?_
  obtain ⟨row, hrow⟩ := upsert_eq_ok hwrite
  -- the entries name the row by the id that is looked up after it was written
  refine Leads.query_bind fun id hid => ?_
  obtain rfl : row.id = id := idOfPair_eq_ok hid hrow.mem_statusesAt
  refine Leads.write_bind fun after hrecord => ?_
  obtain rfl := Trail.record_eq_ok hrecord
  exact Yields.leads (Yields.of_commit ⟨⟨row, hrow⟩, rfl, rfl⟩)

/-- The row that was written is the status that is read back. -/
theorem get_yields (hs : s.Consistent) (hpair : Pair s project regulation catalogId r v)
    (hrow : Upserted ctx s r v w row σ.working) {Q : StatusView → Session → Prop}
    (hQ : Q ⟨row, catalogId⟩ σ) : (query (get · project r.id v.catalogId)).Yields σ Q := by
  have hget := (hpair.congr hrow.regulations_eq hrow.versions_eq).get_eq (hrow.consistent hs)
  rw [hrow.statusesAt_eq hs, ← hpair.regulation_id, ← hpair.version_catalogId] at hget
  rw [← hpair.version_catalogId] at hQ
  exact Yields.of_query hget hQ

theorem write_leads (hs : s.Consistent) (hpair : Pair s project regulation catalogId r v) :
    (write ctx project r v w).Leads (.start s) fun view τ =>
      Upserted ctx s r v w view.status τ.committed ∧ view.catalogId = catalogId ∧
        τ.announced = [] := by
  refine Leads.bind_yields (put_leads.mono fun _ τ ⟨⟨row, hrow⟩, hworking, hannounced⟩ => ?_)
  exact get_yields hs hpair (hworking ▸ hrow) ⟨hrow, rfl, hannounced⟩

/-! ### The ways of writing -/

/-- Work on a pair goes on from what the keys of the pair find. -/
theorem leads_of_pair {α : Type} {next : Regulation × Version → Work α} {Q : α → Session → Prop}
    (hnext : ∀ r v, Pair s project regulation catalogId r v → (next (r, v)).Leads (.start s) Q) :
    (query (findPair · project regulation catalogId) >>= next).Leads (.start s) Q :=
  Leads.query_bind fun (r, v) hfind => hnext r v (findPair_eq_ok hfind)

theorem setValue_leads {value : Option Text} {details : Document} (hs : s.Consistent) :
    (setValue ctx project regulation catalogId value details).Leads (.start s) fun view τ =>
      (∃ r v, Pair s project regulation catalogId r v ∧
        Upserted ctx s r v (.value value details) view.status τ.committed) ∧
      view.catalogId = catalogId ∧ τ.announced = [] := by
  refine leads_of_pair fun r v hpair => ?_
  exact (write_leads hs hpair).mono fun view τ ⟨hrow, hrest⟩ => ⟨⟨r, v, hpair, hrow⟩, hrest⟩

theorem setCompliance_leads {compliant : Option Bool} (hs : s.Consistent) :
    (setCompliance ctx project regulation catalogId compliant).Leads (.start s) fun view τ =>
      (∃ r v, Pair s project regulation catalogId r v ∧
        Upserted ctx s r v (.compliance compliant) view.status τ.committed) ∧
      view.catalogId = catalogId ∧ τ.announced = [] := by
  refine leads_of_pair fun r v hpair => ?_
  exact (write_leads hs hpair).mono fun view τ ⟨hrow, hrest⟩ => ⟨⟨r, v, hpair, hrow⟩, hrest⟩

/-- The verdict on a value that is reported for a regulation as the store has it. -/
def verdictOn (s : Store) (r : Regulation) (value : Option Text) : Except Fault Bool := do
  let type ← Catalog.find s r.typeId
  Verdict.evaluate type.name r.config value

theorem report_leads {value : Option Text} {details : Document} (hs : s.Consistent) :
    (report ctx project regulation catalogId value details).Leads (.start s) fun view τ =>
      (∃ r v compliant, Pair s project regulation catalogId r v ∧
        verdictOn s r value = .ok compliant ∧
        Upserted ctx s r v (.report value details compliant) view.status τ.committed) ∧
      view.catalogId = catalogId ∧ τ.announced = [] := by
  refine leads_of_pair fun r v hpair => ?_
  refine Leads.query_bind fun type htype => ?_
  refine Leads.lift_bind fun compliant hverdict => ?_
  have hverdict : verdictOn s r value = .ok compliant := bind_eq_ok.2 ⟨type, htype, hverdict⟩
  exact (write_leads hs hpair).mono fun view τ ⟨hrow, hrest⟩ =>
    ⟨⟨r, v, compliant, hpair, hverdict, hrow⟩, hrest⟩

/-! ### Deleting -/

/-- The row of a pair was deleted. -/
structure Deleted (ctx : Context) (s : Store) (r : Regulation) (v : Version) (st : Status)
    (after : Store) : Prop where
  found : s.statusesAt r.id v.id = [st]
  after_eq : after = Trail.logged ctx [.row .statuses .delete st.id]
    (s.dropStatuses fun u => u.id = st.id)

/-- The pair has no row any more. -/
theorem Deleted.statusesAt_eq (h : Deleted ctx s r v st after) :
    after.statusesAt r.id v.id = [] := by
  rw [h.after_eq]
  refine List.filter_eq_nil_iff.2 fun u hu => ?_
  obtain ⟨hu, hid⟩ := List.mem_filter.1 hu
  intro hkeys
  have hmem : u ∈ s.statusesAt r.id v.id := List.mem_filter.2 ⟨hu, hkeys⟩
  rw [h.found, List.mem_singleton] at hmem
  simp [hmem] at hid

/-- All other pairs keep what they have. -/
theorem Deleted.statusesAt_of_ne {regulationId versionId : Int} (hs : s.Consistent)
    (h : Deleted ctx s r v st after) (hne : ¬ (r.id = regulationId ∧ v.id = versionId)) :
    after.statusesAt regulationId versionId = s.statusesAt regulationId versionId := by
  have hst : st ∈ s.statusesAt r.id v.id := h.found ▸ List.mem_singleton_self st
  obtain ⟨hregulation, hversion⟩ := keys_of_mem_statusesAt hst
  rw [h.after_eq]
  change ((s.statuses.filter _).filter _) = s.statuses.filter _
  rw [List.filter_filter]
  refine List.filter_congr fun u hu => ?_
  -- only the row of the pair has the id that is dropped
  by_cases hid : u.id = st.id
  · obtain rfl : u = st := eq_of_key_eq hs.statusIds hu (List.mem_of_mem_filter hst) hid
    simpa [hregulation, hversion] using hne
  · simp [hid]

theorem delete_leads :
    (delete ctx project regulation catalogId).Leads (.start s) fun _ τ =>
      (∃ r v st, Pair s project regulation catalogId r v ∧ Deleted ctx s r v st τ.committed) ∧
        τ.announced = [] := by
  refine leads_of_pair fun r v hpair => Leads.query_bind fun found hsole => ?_
  cases found with
  | none => exact Leads.of_fail
  | some st =>
    refine Leads.write_bind fun dropped hdrop => ?_
    cases hdrop
    refine Leads.write_bind fun after hrecord => ?_
    obtain rfl := Trail.record_eq_ok hrecord
    exact Yields.leads (Yields.of_commit ⟨⟨r, v, st, hpair, sole_eq_ok hsole, rfl⟩, rfl⟩)

end ComplianceRegistry.Statuses
