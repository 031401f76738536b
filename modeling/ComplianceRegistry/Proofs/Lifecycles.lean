import ComplianceRegistry.Proofs.Updates

/-!
# What the trail tells of rows that come and go

A regulation or a status that comes is told of by entries of its creation, and one that goes by a
single entry of its deletion. Nothing else is told of as created or deleted. One road is silent: the
statuses that go together with their regulation are removed by one statement that leaves no entry.
So the trail tells of all that went exactly when no regulation took statuses with it.

## Main definitions

* `Store.ids`, `Store.Loses` — the rows of a table by their ids, and those that go in a step
* `Store.Sweeps` — the statuses that go together with their regulation
* `Trail.TellsLives` — notes tell of all rows that come and go, but for some that go in silence

## Main results

* `Operation.Outcome.exists_tellsLives` — the entries of an operation tell of all but the statuses
  that go together with their regulation
* `World.lives_told` — so do those of every request, and they tell of all when there are none
-/

namespace ComplianceRegistry

/-! ### Rows that come and go -/

namespace Store

variable {s after : Store} {t : Table} {id : Int}

/-- The ids of the rows of a table. -/
def ids (s : Store) (t : Table) : List Int := (s.unsortedRows t).map Row.id

@[simp] theorem ids_regulations : s.ids .regulations = s.regulations.map (·.id) := by
  simp [ids, unsortedRows, Function.comp_def, Row.id]

@[simp] theorem ids_statuses : s.ids .statuses = s.statuses.map (·.id) := by
  simp [ids, unsortedRows, Function.comp_def, Row.id]

/-- The row of a table with this id is there before a step and gone after it. -/
def Loses (s after : Store) (t : Table) (id : Int) : Prop := id ∈ s.ids t ∧ id ∉ after.ids t

/-- The row is that of a status whose regulation is gone after the step. -/
def Sweeps (s after : Store) (t : Table) (id : Int) : Prop :=
  t = .statuses ∧ ∃ st ∈ s.statuses, st.id = id ∧ st.regulationId ∉ after.ids .regulations

/-- The tables whose rows come and go by requests. -/
def lively : List Table := [.regulations, .statuses]

theorem forall_lively {p : Table → Prop} (hregulations : p .regulations)
    (hstatuses : p .statuses) : ∀ t ∈ lively, p t := by
  simp [lively, hregulations, hstatuses]

end Store

namespace Trail

theorem Action.name_injective {a b : Action} (h : a.name = b.name) : a = b := by
  have hnames := congrArg Action.ofName? h
  simpa using hnames

/-- The note tells that this became of the row of a table with this id. -/
def Note.tells (t : Table) (a : Action) (id : Int) (n : Note) : Bool :=
  n.entityType = t.name ∧ n.action = a.name ∧ n.entityId = id

/-- The notes on a step tell of all rows that come and go in it: at least one of each that comes,
one of each that goes, and none of any other. Of some rows that go they may be silent. -/
structure TellsLives (silent : Table → Int → Prop) (s after : Store) (notes : List Note) :
    Prop where
  births : ∀ t ∈ Store.lively, ∀ id,
    0 < notes.countP (·.tells t .create id) ↔ after.Loses s t id
  deaths : ∀ t ∈ Store.lively, ∀ id, s.Loses after t id → ¬ silent t id →
    notes.countP (·.tells t .delete id) = 1
  no_deaths : ∀ t ∈ Store.lively, ∀ id, ¬ (s.Loses after t id ∧ ¬ silent t id) →
    notes.countP (·.tells t .delete id) = 0
  no_others : ∀ n ∈ notes, n.action = Action.create.name ∨ n.action = Action.delete.name →
    ∃ t ∈ Store.lively, n.entityType = t.name

variable {silent : Table → Int → Prop} {s after : Store} {notes : List Note} {n : Note}
variable {t u : Table} {a b : Action} {id i : Int}

theorem Note.tells_iff :
    n.tells t a id ↔ n.entityType = t.name ∧ n.action = a.name ∧ n.entityId = id := by
  simp [tells]

theorem Note.tells_row : (Note.row t a id).tells u b i ↔ t = u ∧ a = b ∧ id = i := by
  rw [tells_iff]
  constructor
  · rintro ⟨htable, haction, hid⟩
    exact ⟨Table.name_injective htable, Action.name_injective haction, hid⟩
  · rintro ⟨rfl, rfl, rfl⟩
    exact ⟨rfl, rfl, rfl⟩

/-- Notes that all tell of one and the same thing tell of nothing else. -/
theorem countP_tells_eq_zero (h : ∀ n ∈ notes, n.tells t a id) (hne : ¬ (t = u ∧ a = b ∧ id = i)) :
    notes.countP (·.tells u b i) = 0 := by
  refine List.countP_eq_zero.2 fun n hn htells => hne ?_
  obtain ⟨htable, haction, hid⟩ := Note.tells_iff.1 (h n hn)
  obtain ⟨htable', haction', hid'⟩ := Note.tells_iff.1 htells
  exact ⟨Table.name_injective (htable.symm.trans htable'),
    Action.name_injective (haction.symm.trans haction'), hid.symm.trans hid'⟩

namespace TellsLives

/-- Notes on changed columns tell of no row that comes or goes. -/
theorem of_updates (hnotes : ∀ n ∈ notes, n.action = Action.update.name)
    (hids : ∀ t ∈ Store.lively, after.ids t = s.ids t) : TellsLives silent s after notes := by
  have hnone (a : Action) (ha : a ≠ .update) (t : Table) (id : Int) :
      notes.countP (·.tells t a id) = 0 := by
    refine List.countP_eq_zero.2 fun n hn htells => ha ?_
    exact Action.name_injective ((Note.tells_iff.1 htells).2.1.symm.trans (hnotes n hn))
  refine ⟨fun t ht id => ?_, fun t ht id hloses => ?_, fun t _ id _ => ?_, fun n hn haction => ?_⟩
  · simp [hnone .create (by decide), Store.Loses, hids t ht]
  · simp [Store.Loses, hids t ht] at hloses
  · exact hnone .delete (by decide) t id
  · rw [hnotes n hn] at haction
    exact absurd haction (by decide)

/-- Notes that all tell that one row came tell of a step in which it came and no other row came or
went. -/
theorem of_birth (ht : t ∈ Store.lively) (hne : notes ≠ [])
    (hnotes : ∀ n ∈ notes, n.tells t .create id) (hnew : id ∉ s.ids t)
    (hids : after.ids t = s.ids t ++ [id])
    (hothers : ∀ u ∈ Store.lively, u ≠ t → after.ids u = s.ids u) :
    TellsLives silent s after notes := by
  have hgrown (u : Table) (hu : u ∈ Store.lively) (i : Int) : ¬ s.Loses after u i := by
    rintro ⟨hbefore, hafter⟩
    by_cases heq : u = t
    · subst heq
      exact hafter (hids ▸ List.mem_append_left _ hbefore)
    · exact hafter (hothers u hu heq ▸ hbefore)
  refine ⟨fun u hu i => ?_, fun u hu i hloses => absurd hloses (hgrown u hu i), fun u _ i _ => ?_,
    fun n hn _ => ⟨t, ht, (Note.tells_iff.1 (hnotes n hn)).1⟩⟩
  · constructor
    · intro hpos
      -- a note that tells of a birth tells of this one
      have hsame : t = u ∧ Action.create = Action.create ∧ id = i := by
        by_contra hne
        exact absurd (countP_tells_eq_zero hnotes hne) (by omega)
      obtain ⟨rfl, -, rfl⟩ := hsame
      exact ⟨hids ▸ List.mem_append_right _ (List.mem_singleton_self _), hnew⟩
    · rintro ⟨hafter, hbefore⟩
      have hsame : u = t := by
        by_contra heq
        exact hbefore (hothers u hu heq ▸ hafter)
      subst hsame
      rw [hids, List.mem_append, List.mem_singleton] at hafter
      obtain rfl := hafter.resolve_left hbefore
      obtain ⟨n, hn⟩ := List.exists_mem_of_ne_nil notes hne
      exact List.countP_pos_iff.2 ⟨n, hn, hnotes n hn⟩
  · exact countP_tells_eq_zero hnotes fun h => absurd h.2.1 (by decide)

/-- The note that a row went tells of a step in which it went, in which all others that went went
in silence, and in which none came. -/
theorem of_death (ht : t ∈ Store.lively)
    (hids : ∀ u ∈ Store.lively, ∀ i, i ∈ after.ids u → i ∈ s.ids u)
    (hloses : ∀ u ∈ Store.lively, ∀ i, s.Loses after u i ∧ ¬ silent u i ↔ t = u ∧ id = i) :
    TellsLives silent s after [.row t .delete id] := by
  have hnotes : ∀ n ∈ [Note.row t .delete id], n.tells t .delete id := by
    intro n hn
    obtain rfl := List.mem_singleton.1 hn
    exact Note.tells_row.2 ⟨rfl, rfl, rfl⟩
  refine ⟨fun u hu i => ?_, fun u hu i hgone htold => ?_, fun u hu i hkept => ?_,
    fun n hn _ => ⟨t, ht, (Note.tells_iff.1 (hnotes n hn)).1⟩⟩
  · rw [countP_tells_eq_zero hnotes fun h => absurd h.2.1 (by decide)]
    exact ⟨fun h => absurd h (by omega), fun h => absurd (hids u hu i h.1) h.2⟩
  · obtain ⟨rfl, rfl⟩ := (hloses u hu i).1 ⟨hgone, htold⟩
    rw [List.countP_singleton, if_pos (hnotes _ (List.mem_singleton_self _))]
  · exact countP_tells_eq_zero hnotes fun h => hkept ((hloses u hu i).2 ⟨h.1, h.2.2⟩)

/-- The trail tells of all that went exactly when it is silent of none that went. -/
theorem false_iff (h : TellsLives silent s after notes) :
    TellsLives (fun _ _ => False) s after notes ↔
      ∀ t ∈ Store.lively, ∀ id, s.Loses after t id → ¬ silent t id := by
  constructor
  · intro hall t ht id hloses hsilent
    -- one note would have to tell of it, and none does
    have hone := hall.deaths t ht id hloses not_false
    have hzero := h.no_deaths t ht id fun htold => htold.2 hsilent
    omega
  · intro hnone
    exact ⟨h.births, fun t ht id hloses _ => h.deaths t ht id hloses (hnone t ht id hloses),
      fun t ht id hkept => h.no_deaths t ht id fun htold => hkept ⟨htold.1, not_false⟩, h.no_others⟩

end TellsLives

end Trail

/-! ### What operations tell -/

open Trail

variable {silent : Table → Int → Prop} {ctx : Context} {s after : Store} {project : Int}
variable {address : Address} {draft : Draft} {patch : Patch} {before r : Regulation}
variable {view : RegulationView} {v : Version} {w : StatusWrite} {row st : Status}

namespace Regulations

theorem Created.tellsLives (h : Created ctx s project draft view after) :
    TellsLives silent s after [.row .regulations .create view.regulation.id] := by
  refine .of_birth (t := .regulations) (by decide) (by simp) (fun n hn => ?_)
    (Store.ids_regulations ▸ h.id_notMem) ?_ ?_
  · obtain rfl := List.mem_singleton.1 hn
    exact Note.tells_row.2 ⟨rfl, rfl, rfl⟩
  · rw [Store.ids_regulations, h.regulations_eq, Store.ids_regulations, List.map_append]
    rfl
  · refine Store.forall_lively (fun hne => absurd rfl hne) fun _ => ?_
    rw [Store.ids_statuses, h.statuses_eq, Store.ids_statuses]

theorem Updated.tellsLives (hs : s.Consistent)
    (h : Updated ctx s project address patch before view after) :
    TellsLives silent s after (before.edits view.regulation Regulation.columnsSet) := by
  refine .of_updates (fun n hn => ?_) (Store.forall_lively ?_ ?_)
  · obtain ⟨c, -, rfl⟩ := List.mem_map.1 hn
    rfl
  · rw [Store.ids_regulations, h.regulations_eq hs, map_id_putById, Store.ids_regulations]
  · rw [Store.ids_statuses, h.rewritten.statuses_eq, Store.ids_statuses]

/-- The statuses that are left are those of other regulations. -/
theorem Deleted.mem_statuses (h : Deleted ctx s project address view after) :
    st ∈ after.statuses ↔ st ∈ s.statuses ∧ st.regulationId ≠ view.regulation.id := by
  rw [h.after_eq]
  change st ∈ s.statuses.filter _ ↔ _
  simp

theorem Deleted.mem_ids (h : Deleted ctx s project address view after) {i : Int} :
    i ∈ after.ids .regulations ↔ i ∈ s.ids .regulations ∧ i ≠ view.regulation.id := by
  simp only [Store.ids_regulations, h.regulations_eq, List.mem_map, List.mem_filter]
  constructor
  · rintro ⟨g, ⟨hg, hne⟩, rfl⟩
    exact ⟨⟨g, hg, rfl⟩, of_decide_eq_true hne⟩
  · rintro ⟨⟨g, hg, rfl⟩, hne⟩
    exact ⟨g, ⟨hg, decide_eq_true hne⟩, rfl⟩

theorem Deleted.tellsLives (h : Deleted ctx s project address view after) :
    TellsLives (s.Sweeps after) s after [.row .regulations .delete view.regulation.id] := by
  have hmem : view.regulation.id ∈ s.ids .regulations := by
    rw [Store.ids_regulations]
    exact List.mem_map_of_mem (mem_of_find_eq_ok h.found).1
  refine .of_death (by decide) (Store.forall_lively ?_ ?_) (Store.forall_lively ?_ ?_)
  · exact fun i hi => (h.mem_ids.1 hi).1
  · intro i hi
    rw [Store.ids_statuses] at hi ⊢
    obtain ⟨st, hst, rfl⟩ := List.mem_map.1 hi
    exact List.mem_map_of_mem (h.mem_statuses.1 hst).1
  · intro i
    constructor
    · rintro ⟨⟨hbefore, hafter⟩, -⟩
      refine ⟨rfl, ?_⟩
      by_contra hne
      exact hafter (h.mem_ids.2 ⟨hbefore, fun heq => hne heq.symm⟩)
    · rintro ⟨-, rfl⟩
      exact ⟨⟨hmem, fun hafter => (h.mem_ids.1 hafter).2 rfl⟩, fun hsweeps => by
        simpa using hsweeps.1⟩
  · -- a status that goes is one of the regulation, which goes with it
    intro i
    refine ⟨fun ⟨⟨hbefore, hafter⟩, htold⟩ => absurd ?_ htold, fun heq => by simpa using heq.1⟩
    rw [Store.ids_statuses] at hbefore hafter
    obtain ⟨st, hst, rfl⟩ := List.mem_map.1 hbefore
    refine ⟨rfl, st, hst, rfl, fun hregulation => ?_⟩
    exact hafter (List.mem_map_of_mem (h.mem_statuses.2 ⟨hst, (h.mem_ids.1 hregulation).2⟩))

end Regulations

namespace Statuses

/-- The notes on a write tell of the row of its pair, as a birth when there was none. -/
theorem tells_putNotes {o : Option Status} {n : Note} {i : Int} (h : n ∈ putNotes o i w) :
    n.tells .statuses (if o.isSome then .update else .create) i := by
  obtain ⟨c, -, rfl⟩ := List.mem_map.1 h
  cases o <;> exact Note.tells_iff.2 ⟨rfl, rfl, rfl⟩

theorem putNotes_ne_nil {o : Option Status} {i : Int} : putNotes o i w ≠ [] := by
  cases w <;> simp [putNotes, StatusWrite.cells]

/-- A row that is added gets an id that is not in use. -/
theorem id_notMem_of_fresh (hrow : row = w.apply (fresh ctx s r v)) : row.id ∉ s.ids .statuses := by
  have hid : row.id = nextId (s.statuses.map (·.id)) := by rw [hrow, apply_id]; rfl
  rw [Store.ids_statuses]
  exact fun hmem => absurd (lt_nextId hmem) (by omega)

theorem Upserted.exists_notes (h : Upserted ctx s r v w row after) :
    ∃ notes, after.audit = s.audit ++ entriesFrom ctx (nextId (s.audit.map (·.id))) notes ∧
      TellsLives silent s after notes := by
  cases h with
  | added hnone hrow hwritten =>
    refine ⟨_, logged_audit, .of_birth (t := .statuses) (by decide) putNotes_ne_nil
      (fun n hn => tells_putNotes hn) (id_notMem_of_fresh hrow) ?_
      (Store.forall_lively (fun _ => rfl) fun hne => absurd rfl hne)⟩
    rw [Store.ids_statuses, Store.ids_statuses, logged_statuses]
    exact List.map_append
  | replaced hsome hrow hwritten =>
    refine ⟨_, logged_audit, .of_updates (fun n hn => (Note.tells_iff.1 (tells_putNotes hn)).2.1)
      (Store.forall_lively rfl ?_)⟩
    rw [Store.ids_statuses, Store.ids_statuses, logged_statuses]
    exact map_id_putById

theorem Deleted.tellsLives (hs : s.Consistent) (h : Deleted ctx s r v st after) :
    TellsLives (s.Sweeps after) s after [.row .statuses .delete st.id] := by
  have hpair : st ∈ s.statusesAt r.id v.id := h.found ▸ List.mem_singleton_self st
  have hst : st ∈ s.statuses := List.mem_of_mem_filter hpair
  have hstatuses {u : Status} : u ∈ after.statuses ↔ u ∈ s.statuses ∧ u.id ≠ st.id := by
    rw [h.after_eq]
    change u ∈ s.statuses.filter _ ↔ _
    simp
  have hregulations : after.ids .regulations = s.ids .regulations := by
    rw [h.after_eq]
    rfl
  -- all regulations are still there, so that no status went together with one
  have htold (t : Table) (i : Int) : ¬ s.Sweeps after t i := by
    rintro ⟨-, u, hu, -, hgone⟩
    rw [hregulations, Store.ids_regulations] at hgone
    exact hgone (hs.statusRegulations u hu)
  refine .of_death (by decide) (Store.forall_lively ?_ ?_) (Store.forall_lively ?_ ?_)
  · exact fun i hi => hregulations ▸ hi
  · intro i hi
    rw [Store.ids_statuses] at hi ⊢
    obtain ⟨u, hu, rfl⟩ := List.mem_map.1 hi
    exact List.mem_map_of_mem (hstatuses.1 hu).1
  · intro i
    refine ⟨fun ⟨⟨hbefore, hafter⟩, _⟩ => absurd (hregulations ▸ hbefore) hafter, fun heq => ?_⟩
    simpa using heq.1
  · intro i
    rw [Store.Loses, Store.ids_statuses, Store.ids_statuses]
    constructor
    · rintro ⟨⟨hbefore, hafter⟩, -⟩
      obtain ⟨u, hu, rfl⟩ := List.mem_map.1 hbefore
      refine ⟨rfl, ?_⟩
      by_contra hne
      exact hafter (List.mem_map_of_mem (hstatuses.2 ⟨hu, fun heq => hne heq.symm⟩))
    · rintro ⟨-, rfl⟩
      refine ⟨⟨List.mem_map_of_mem hst, fun hafter => ?_⟩, htold _ _⟩
      obtain ⟨u, hu, hid⟩ := List.mem_map.1 hafter
      exact (hstatuses.1 hu).2 hid

end Statuses

namespace Operation

variable {op : Operation} {answer : Answer} {announcements : List Announcement}

/-- Notes that become the entries of a step tell what they tell. -/
theorem exists_entries {notes : List Note} {first : Int}
    (haudit : after.audit = s.audit ++ entriesFrom ctx first notes)
    (htells : TellsLives silent s after notes) :
    ∃ entries, after.audit = s.audit ++ entries ∧
      TellsLives silent s after (entries.map AuditEntry.note) :=
  ⟨_, haudit, by rwa [map_note_entriesFrom]⟩

/-- The entries of an operation that a request can ask for tell of all rows that come and go, but
for the statuses that go together with their regulation. -/
theorem Outcome.exists_tellsLives (hs : s.Consistent) (hop : op.IsPosed)
    (h : Outcome ctx s op answer after announcements) :
    ∃ entries, after.audit = s.audit ++ entries ∧
      TellsLives (s.Sweeps after) s after (entries.map AuditEntry.note) := by
  cases h with
  | seeded | remarked => exact hop.elim
  | read h => exact ⟨[], (List.append_nil _).symm, .of_updates (by simp) fun _ _ => rfl⟩
  | created h =>
    have haudit := congrArg Store.audit h.after_eq
    exact exists_entries haudit h.tellsLives
  | updated h =>
    obtain ⟨entries, haudit, hnotes⟩ := h.exists_entries
    exact ⟨entries, haudit, hnotes ▸ h.tellsLives hs⟩
  | deleted h =>
    have haudit := congrArg Store.audit h.after_eq
    exact exists_entries haudit h.tellsLives
  | upserted hpair hwrites h =>
    obtain ⟨notes, haudit, htells⟩ := h.exists_notes
    exact exists_entries haudit htells
  | statusDeleted hpair h =>
    have haudit := congrArg Store.audit h.after_eq
    exact exists_entries haudit (h.tellsLives hs)

end Operation

/-- The first regulation is deleted. -/
def Arrival.deletion : Arrival := .plain "DELETE" "/api/v1/projects/1/regulations/1" ""

/-- The status of the first regulation is deleted. -/
def Arrival.statusDeletion : Arrival :=
  .plain "DELETE" "/api/v1/projects/1/regulations/1/versions/cat-100/status" ""

namespace World

variable {settings : Settings} {w : World} {arrivals : List Arrival}

/-- After every run, the entries that a request adds to the trail tell of all regulations and
statuses that come and go with it, each that goes by one entry, and of no others; only of statuses
that go together with their regulation there is none. So they tell of all exactly when no status
goes in this way. -/
theorem lives_told (h : w.store.Initial) {a : Arrival} {s after : Store}
    (hs : s = (w.serve settings arrivals).store) (hafter : after = (a.outcome settings s).store) :
    ∃ entries, after.audit = s.audit ++ entries ∧
      TellsLives (s.Sweeps after) s after (entries.map AuditEntry.note) ∧
      (TellsLives (fun _ _ => False) s after (entries.map AuditEntry.note) ↔
        ∀ st ∈ s.statuses, st.id ∉ after.statuses.map (·.id) →
          st.regulationId ∈ after.regulations.map (·.id)) := by
  have hconsistent : s.Consistent := hs ▸ (kept_serve h).toConsistent
  have htold : ∃ entries, after.audit = s.audit ++ entries ∧
      TellsLives (s.Sweeps after) s after (entries.map AuditEntry.note) := by
    subst hafter
    rcases Server.handle_cases hconsistent with ⟨op, answer, hop, -, houtcome⟩ | ⟨hstore, -⟩
    · exact houtcome.exists_tellsLives hconsistent (Server.isPosed_of_operationOf? hop)
    · have hsame : (a.outcome settings s).store = s := hstore
      rw [hsame]
      exact ⟨[], (List.append_nil _).symm, .of_updates (by simp) fun _ _ => rfl⟩
  obtain ⟨entries, haudit, htells⟩ := htold
  refine ⟨entries, haudit, htells, htells.false_iff.trans ?_⟩
  constructor
  · intro hnone st hst hgone
    by_contra hregulation
    refine hnone .statuses (by decide) st.id ⟨?_, ?_⟩ ⟨rfl, st, hst, rfl, ?_⟩
    · exact Store.ids_statuses ▸ List.mem_map_of_mem hst
    · exact Store.ids_statuses ▸ hgone
    · exact Store.ids_regulations ▸ hregulation
  · rintro hkept t - id ⟨-, hgone⟩ ⟨rfl, st, hst, rfl, hregulation⟩
    rw [Store.ids_statuses] at hgone
    rw [Store.ids_regulations] at hregulation
    exact hregulation (hkept st hst hgone)

/-- A status that is deleted by itself is told of by one entry. -/
theorem lives_told_status :
    sample.store.Initial ∧
    (Arrival.statusDeletion.outcome (.ofDatabase "sqlite")
      (sample.serve (.ofDatabase "sqlite") [.creation, .firstReport]).store).store.statuses = [] ∧
    ∃ entries,
      (Arrival.statusDeletion.outcome (.ofDatabase "sqlite")
        (sample.serve (.ofDatabase "sqlite") [.creation, .firstReport]).store).store.audit =
        (sample.serve (.ofDatabase "sqlite") [.creation, .firstReport]).store.audit ++ entries ∧
      (entries.map AuditEntry.note).countP (·.tells .statuses .delete 1) = 1 := by
  obtain ⟨entries, haudit, htells, -⟩ :=
    @lives_told (.ofDatabase "sqlite") sample [.creation, .firstReport] Store.initial_sample
      Arrival.statusDeletion _ _ rfl rfl
  refine ⟨Store.initial_sample, by decide +kernel, entries, haudit, ?_⟩
  refine htells.deaths .statuses (by decide) 1 ⟨by decide +kernel, by decide +kernel⟩ ?_
  rintro ⟨-, st, hst, -, hgone⟩
  revert st
  decide +kernel

/-- A status that goes together with its regulation is not told of. -/
theorem swept_status_not_told :
    sample.store.Initial ∧
    (sample.serve (.ofDatabase "sqlite") [.creation, .firstReport]).store.Loses
      (Arrival.deletion.outcome (.ofDatabase "sqlite")
        (sample.serve (.ofDatabase "sqlite") [.creation, .firstReport]).store).store .statuses 1 ∧
    ¬ TellsLives (fun _ _ => False)
      (sample.serve (.ofDatabase "sqlite") [.creation, .firstReport]).store
      (Arrival.deletion.outcome (.ofDatabase "sqlite")
        (sample.serve (.ofDatabase "sqlite") [.creation, .firstReport]).store).store
      (((Arrival.deletion.outcome (.ofDatabase "sqlite")
        (sample.serve (.ofDatabase "sqlite") [.creation, .firstReport]).store).store.audit.drop
        (sample.serve (.ofDatabase "sqlite") [.creation, .firstReport]).store.audit.length).map
          AuditEntry.note) := by
  have hloses : (sample.serve (.ofDatabase "sqlite") [.creation, .firstReport]).store.Loses
      (Arrival.deletion.outcome (.ofDatabase "sqlite")
        (sample.serve (.ofDatabase "sqlite") [.creation, .firstReport]).store).store .statuses 1 :=
    ⟨by decide +kernel, by decide +kernel⟩
  refine ⟨Store.initial_sample, hloses, fun h => ?_⟩
  -- one entry would have to tell of it, and there is none
  exact absurd (h.deaths .statuses (by decide) 1 hloses not_false) (by decide +kernel)

end World

end ComplianceRegistry
