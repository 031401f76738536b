import ComplianceRegistry.Proofs.Room
import ComplianceRegistry.Proofs.Steps

/-!
# The trail only grows

A step that does not edit the trail of its own accord leaves all old entries as they are and puts
new ones behind them, numbered on from the largest id and made out to the user, the address and the
clock of the step. What the registry notes by itself stands under the module of its table; a remark
stands under the module that it was given. Reads, verdicts, failures, a complete catalog and updates
that change nothing leave the trail as it was.

Bare deletions and edits reach the rows of the trail like any others, so that they are set aside
here.

## Main definitions

* `Trail.Grown` — notes of some sort were recorded
* `Operation.IsSilent`, `Step.IsSilent` — operations and steps with nothing to record

## Main results

* `Trail.Grown.preserves` — statements that spare the trail only let it grow
* `Step.audit_of_isSilent` — silent steps record nothing
* `World.trail_only_grows` — what a step of a run does to the trail
-/

namespace ComplianceRegistry

variable {ctx : Context} {s t after : Store}

/-! ### Statements that spare the trail -/

namespace Store

variable {row : Row} {table : Table} {id : Int}

theorem audit_push (h : row.table ≠ .audit) : (s.push row).audit = s.audit := by
  cases row <;> first | rfl | exact absurd rfl h

theorem audit_put (h : row.table ≠ .audit) : (s.put row).audit = s.audit := by
  cases row <;> first | rfl | exact absurd rfl h

theorem audit_lift (h : table ≠ .audit) : (s.lift id table).audit = s.audit := by
  cases table <;> first | rfl | exact absurd rfl h

theorem audit_of_insert (h : row.table ≠ .audit) (hwrite : s.insert row = .ok after) :
    after.audit = s.audit := by
  obtain ⟨-, -, -, rfl⟩ := insert_eq_ok hwrite
  exact audit_push h

theorem audit_of_move (h : row.table ≠ .audit) (hwrite : s.move id row = .ok after) :
    after.audit = s.audit := by
  unfold move at hwrite
  split at hwrite
  · obtain ⟨-, -, rfl⟩ := replace_eq_ok hwrite
    exact audit_put h
  · obtain ⟨_, -, hwrite⟩ := bind_eq_ok.1 hwrite
    split at hwrite
    · cases hwrite
    · rw [audit_of_insert h hwrite, audit_lift h]

theorem audit_foldl {drop : Store → Int → Store} (hdrop : ∀ s id, (drop s id).audit = s.audit)
    (ids : List Int) : (ids.foldl drop s).audit = s.audit := by
  induction ids generalizing s with
  | nil => rfl
  | cons id ids ih => rw [List.foldl_cons, ih, hdrop]

/-- What belongs to a row goes with it, but no entry of the trail does. -/
theorem audit_of_remove (h : table ≠ .audit) (hwrite : s.remove table id = .ok after) :
    after.audit = s.audit := by
  cases table with
  | projects =>
    cases hwrite
    have hregulation (s : Store) (id : Int) : (s.dropRegulation id).audit = s.audit := rfl
    have hversion (s : Store) (id : Int) : (s.dropVersion id).audit = s.audit := rfl
    exact (audit_foldl hregulation _).trans (audit_foldl hversion _)
  | types =>
    unfold remove at hwrite
    dsimp only at hwrite
    split at hwrite
    · cases hwrite
    · cases hwrite
      rfl
  | audit => exact absurd rfl h
  | _ =>
    cases hwrite
    rfl

end Store

namespace Trail

variable {isNoted : Note → Prop} {first : Int} {notes : List Note}

/-- From one store to the other the trail grew by the entries of some notes. -/
def Grown (ctx : Context) (isNoted : Note → Prop) (s after : Store) : Prop :=
  ∃ notes, (∀ n ∈ notes, isNoted n) ∧ after.audit = (logged ctx notes s).audit

theorem Grown.refl : Grown ctx isNoted s s := ⟨[], by simp, by simp⟩

/-- What is recorded next is numbered on. -/
theorem Grown.logged (h : Grown ctx isNoted s t) (hnotes : ∀ n ∈ notes, isNoted n) :
    Grown ctx isNoted s (logged ctx notes t) := by
  obtain ⟨earlier, hearlier, haudit⟩ := h
  -- entries are numbered by the trail alone, which is the same in both stores
  refine ⟨earlier ++ notes, List.forall_mem_append.2 ⟨hearlier, hnotes⟩, ?_⟩
  rw [logged_append, logged_audit, logged_audit, haudit]

/-- Statements that spare the trail only let it grow. -/
theorem Grown.preserves (hregular : ∀ n : Note, n.IsRegular → isNoted n) :
    Store.Preserves ctx (· ≠ .audit) isNoted (Grown ctx isNoted s) where
  tables _ h := h
  notes := hregular
  insert hopen hs h := by rwa [Grown, Store.audit_of_insert hopen h]
  move hopen hs h := by rwa [Grown, Store.audit_of_move hopen h]
  remove hopen hs h := by rwa [Grown, Store.audit_of_remove hopen h]
  dropStatuses _ hs := hs
  record hnotes hs h := record_eq_ok h ▸ hs.logged hnotes

/-- Entries are numbered without a gap. -/
theorem ids_entriesFrom : (entriesFrom ctx first notes).map (·.id) =
    (List.range notes.length).map fun i : Nat => first + i := by
  induction notes generalizing first with
  | nil => rfl
  | cons n notes ih =>
    rw [entriesFrom, List.map_cons, ih, List.length_cons, List.range_succ_eq_map, List.map_cons,
      List.map_map]
    congr 1
    · simp [Note.entry]
    · refine List.map_congr_left fun i _ => ?_
      simp only [Function.comp_apply, Nat.succ_eq_add_one]
      omega

theorem length_entriesFrom : (entriesFrom ctx first notes).length = notes.length := by
  simpa using congrArg List.length (@ids_entriesFrom ctx first notes)

/-- An entry is that of one of the notes, in the context. -/
theorem exists_note_of_mem_entriesFrom {e : AuditEntry} (h : e ∈ entriesFrom ctx first notes) :
    ∃ n ∈ notes, e = n.entry ctx e.id := by
  induction notes generalizing first with
  | nil => simp [entriesFrom] at h
  | cons n notes ih =>
    rcases List.mem_cons.1 h with rfl | h
    · exact ⟨n, List.mem_cons_self .., rfl⟩
    · obtain ⟨m, hm, he⟩ := ih h
      exact ⟨m, List.mem_cons_of_mem n hm, he⟩

end Trail

theorem Remark.module_of_mem_notes {remark : Remark} {notes : List Trail.Note} {n : Trail.Note}
    (h : remark.notes? = some notes) (hn : n ∈ notes) : remark.module = some n.module := by
  obtain ⟨plain, hplain, h⟩ := Option.bind_eq_some_iff.1 h
  have hmodule : remark.module = some plain.module := by
    obtain ⟨module, hmodule, hplain⟩ := Option.bind_eq_some_iff.1 hplain
    obtain ⟨_, -, hplain⟩ := Option.bind_eq_some_iff.1 hplain
    obtain ⟨_, -, hplain⟩ := Option.bind_eq_some_iff.1 hplain
    obtain ⟨_, -, hplain⟩ := Option.bind_eq_some_iff.1 hplain
    rw [hmodule, ← Option.some.inj hplain]
  -- all notes of a remark have the module of the plain one
  split at h
  · obtain rfl := Option.some.inj h
    rwa [List.mem_singleton.1 hn]
  · obtain rfl := Option.some.inj h
    obtain ⟨c, -, rfl⟩ := List.mem_map.1 hn
    exact hmodule

/-! ### Silence -/

/-- An operation that has nothing to record in the store: it only asks, it fails, the catalog is
complete, or an update finds the regulation as it was asked to be. -/
inductive Operation.IsSilent (ctx : Context) (s : Store) : Operation → Prop
  | asks {op : Operation} (h : op.IsRead) : IsSilent ctx s op
  | fails {op : Operation} {f : Fault} (h : ((op.run ctx).perform s).answer = .error f) :
      IsSilent ctx s op
  | complete {recorded : Bool} (h : Catalog.missing s = []) : IsSilent ctx s (.seedTypes recorded)
  | unchanged {project : Int} {address : Address} {patch : Patch}
      (h : ∀ before type config, Regulations.find s project address = .ok before →
        Catalog.find s (patch.typeId.getD before.typeId) = .ok type →
        Config.settle type.name (patch.config.getD before.config) = .ok config →
        Regulations.patched before patch type config = before) :
      IsSilent ctx s (.updateRegulation project address patch)

/-- A step that has nothing to record: its operation has nothing to record, it comes down to none
and is no batch, or it is a batch that is refused. -/
inductive Step.IsSilent (settings : Settings) (ctx : Context) (s : Store) : Step → Prop
  | operation {step : Step} {op : Operation} (h : step.operation? settings = some op)
      (hop : op.IsSilent (step.contextIn ctx) s) : IsSilent settings ctx s step
  | none {step : Step} (h : step.operation? settings = none)
      (hbatch : ∀ edits, step ≠ .batch edits) : IsSilent settings ctx s step
  | refused {edits : List Edit} {refusal : Edit.Refusal}
      (h : Batch.run ctx s edits = .error refusal) : IsSilent settings ctx s (.batch edits)

theorem Catalog.Seeded.eq_of_missing_eq_nil {recorded : Bool} (h : Seeded recorded ctx s after)
    (hmissing : missing s = []) : after = s := by
  cases h with
  | complete => rfl
  | grown hadd =>
    -- without kinds to add there are no new ids either
    rw [hmissing] at hadd
    obtain rfl := Except.ok.inj hadd
    simp [creationNotes, newIds]

theorem Operation.store_of_isSilent {op : Operation} (hs : s.Consistent) (h : op.IsSilent ctx s) :
    ((op.run ctx).perform s).store = s := by
  cases hanswer : ((op.run ctx).perform s).answer with
  | error f => exact ((Operation.run_leads hs op).perform_error hanswer).1
  | ok answer =>
    have houtcome := Operation.outcome_of_perform hs hanswer
    generalize ((op.run ctx).perform s).store = after at houtcome ⊢
    generalize ((op.run ctx).perform s).announcements = announcements at houtcome
    cases h with
    | fails hfails =>
      rw [hanswer] at hfails
      cases hfails
    | asks hread =>
      cases houtcome with
      | read => rfl
      | upserted hpair hwrites h => cases hwrites <;> exact hread.elim
      | _ => exact hread.elim
    | complete hmissing =>
      cases houtcome with
      | seeded hseeded => exact hseeded.eq_of_missing_eq_nil hmissing
      | read hread => exact hread.elim
      | upserted hpair hwrites h => cases hwrites
    | unchanged hsame =>
      cases houtcome with
      | updated h =>
        cases h.rewritten with
        | unchanged => rfl
        | changed hne => exact absurd (hsame _ _ _ h.found h.type_found h.config_settled) hne
      | read hread => exact hread.elim
      | upserted hpair hwrites h => cases hwrites

/-- A silent step that spares the trail leaves it as it was. -/
theorem Step.audit_of_isSilent {settings : Settings} {step : Step} (hs : s.Consistent)
    (hspares : .audit ∉ step.editedTables) (h : step.IsSilent settings ctx s) :
    (step.effect settings ctx s).store.audit = s.audit := by
  cases h with
  | operation hop hsilent =>
    rw [(effect_of_operation hop).1, Operation.store_of_isSilent hs hsilent]
  | refused hrefused => simp [effect, hrefused]
  | none hop hbatch =>
    by_cases herase : ∃ t id, step = .erase t id
    · obtain ⟨t, id, rfl⟩ := herase
      have ht : t ≠ .audit := by simpa [editedTables, eq_comm] using hspares
      have hremoval : (removal t id).Maintains fun u => u.audit = s.audit :=
        .bind .of_lift fun _ => .bind .of_query fun _ =>
          .bind (.of_write fun _ _ hu h => (Store.audit_of_remove ht h).trans hu) fun _ =>
            .bind .of_commit fun _ => .of_pure
      exact hremoval.perform rfl
    · rw [store_effect_of_none hop hbatch fun t id heq => herase ⟨t, id, heq⟩]

/-! ### Runs -/

namespace World

variable {settings : Settings} {w : World} {earlier : List (Context × Step)} {step : Step}

/-- In every run, a step that does not edit the trail of its own accord keeps all entries as they
are. The new ones stand behind them and name the user, the address and the clock of the step; their
module is that of their table, unless they are remarks, whose module was given. As long as ids have
not run out, they have those that follow the largest one. A silent step adds none. -/
theorem trail_only_grows (h : w.store.Consistent) (hspares : .audit ∉ step.editedTables) :
    ∃ entries : List AuditEntry,
      ((w.run settings earlier).2.advance settings ctx step).2.store.audit =
        (w.run settings earlier).2.store.audit ++ entries ∧
      ((w.run settings earlier).2.store.HasRoom →
        entries.map (·.id) = (List.range entries.length).map (fun i : Nat =>
          nextId ((w.run settings earlier).2.store.audit.map (·.id)) + i)) ∧
      (∀ e ∈ entries, e.userId = (step.contextIn ctx).user ∧
        e.address = (step.contextIn ctx).address ∧ e.createdAt = ctx.clock ∧
        (e.module = Table.moduleOf e.entityType ∨
          ∃ remark, step = .operation (.remark remark) ∧ remark.module = some e.module)) ∧
      (step.IsSilent settings ctx (w.run settings earlier).2.store → entries = []) := by
  have hs : (w.run settings earlier).2.store.Consistent := consistent_run h
  set before := (w.run settings earlier).2.store with hbefore
  let isNoted (n : Trail.Note) : Prop := n.module = Table.moduleOf n.entityType ∨
    ∃ remark, step = .operation (.remark remark) ∧ remark.module = some n.module
  have hnoted : ∀ op, step.operation? settings = some op → op.IsNoting isNoted := by
    rintro op hop remark notes rfl hnotes n hn
    right
    -- only who asks for a remark directly gets one
    cases step with
    | operation o =>
      obtain rfl := Option.some.inj hop
      exact ⟨remark, rfl, Remark.module_of_mem_notes hnotes hn⟩
    | request outage r => exact (Server.isPosed_of_operationOf? hop).elim
    | startup seed => cases seed <;> cases hop
    | _ => cases hop
  -- what statements preserve is that the trail grew since the step began
  have hpreserves : Store.Preserves (step.contextIn ctx) (· ≠ .audit) isNoted
      (Trail.Grown (step.contextIn ctx) isNoted before) :=
    Trail.Grown.preserves fun n hn => .inl hn.module_eq
  have hopen : ∀ t ∈ step.editedTables, t ≠ .audit := fun t ht hne => hspares (hne ▸ ht)
  obtain ⟨notes, hnotes, haudit⟩ :=
    Step.effect_preserves hpreserves hopen hnoted Trail.Grown.refl
  refine ⟨_, haudit, fun _ => ?_, fun e he => ?_, fun hsilent => ?_⟩
  · rw [Trail.ids_entriesFrom, Trail.length_entriesFrom]
  · obtain ⟨n, hn, he⟩ := Trail.exists_note_of_mem_entriesFrom he
    have hclock : (step.contextIn ctx).clock = ctx.clock := by cases step <;> rfl
    rw [he]
    exact ⟨rfl, rfl, hclock, hnotes n hn⟩
  · have hsame := Step.audit_of_isSilent hs hspares hsilent
    rw [haudit, Trail.logged_audit] at hsame
    exact List.append_right_eq_self.1 hsame

/-- The first regulation is renamed by a user at an address. -/
def renamingByUser : Request where
  method := "PUT"
  path := "/api/v1/projects/1/regulations/1"
  query := []
  headers := [("x-user-id", "7")]
  body := "\x7b\"name\": \"q\"\x7d"
  client := some "10.0.0.1"

/-- The renaming adds one entry, for its user and at its address, to the one of the creation, and
numbers it on from that. The deletion of a row by a bare statement adds none. -/
theorem trail_only_grows_renaming :
    let settings := Settings.ofDatabase "sqlite"
    let renamed : Step := .request none renamingByUser
    sample.store.Consistent ∧ .audit ∉ renamed.editedTables ∧
    .audit ∉ (Step.erase .regulations 1).editedTables ∧
    (sample.run settings [Arrival.creation.step]).2.store.HasRoom ∧
    (∃ entries : List AuditEntry,
      ((sample.run settings [Arrival.creation.step]).2.advance settings ⟨⟨5⟩, none, none, false⟩
        renamed).2.store.audit =
        (sample.run settings [Arrival.creation.step]).2.store.audit ++ entries ∧
      entries.map (·.id) = [2] ∧ ∀ e ∈ entries, e.userId = some 7 ∧ e.address = some "10.0.0.1" ∧
        e.createdAt = ⟨5⟩) ∧
    ((sample.run settings [Arrival.creation.step]).2.advance settings ⟨⟨5⟩, none, none, false⟩
      (.erase .regulations 1)).2.store.audit =
      (sample.run settings [Arrival.creation.step]).2.store.audit := by
  intro settings renamed
  have hs : sample.store.Consistent := Store.initial_sample.toConsistent
  have hrenamed : .audit ∉ renamed.editedTables := List.not_mem_nil
  have herasing : .audit ∉ (Step.erase .regulations 1).editedTables := by decide
  have hroom : (sample.run settings [Arrival.creation.step]).2.store.HasRoom :=
    ⟨by decide +kernel, by decide +kernel, by decide +kernel⟩
  refine ⟨hs, hrenamed, herasing, hroom, ?_, ?_⟩
  · obtain ⟨entries, haudit, hids, hentries, -⟩ := @trail_only_grows
      ⟨⟨5⟩, none, none, false⟩ settings sample [Arrival.creation.step] renamed hs hrenamed
    refine ⟨entries, haudit, ?_, fun e he => ?_⟩
    · have hnext : nextId ((sample.run settings [Arrival.creation.step]).2.store.audit.map (·.id)) =
          2 := by
        decide +kernel
      have hlength : ((sample.run settings [Arrival.creation.step]).2.advance settings
          ⟨⟨5⟩, none, none, false⟩ renamed).2.store.audit.length =
          (sample.run settings [Arrival.creation.step]).2.store.audit.length + 1 := by
        decide +kernel
      rw [haudit, List.length_append] at hlength
      rw [hids hroom, hnext, Nat.add_left_cancel hlength]
      rfl
    · have hcontext : (renamed.contextIn ⟨⟨5⟩, none, none, false⟩).user = some 7 := by
        decide +kernel
      obtain ⟨huser, haddress, hclock, -⟩ := hentries e he
      exact ⟨huser.trans hcontext, haddress, hclock⟩
  · obtain ⟨entries, haudit, -, -, hsilent⟩ := @trail_only_grows
      ⟨⟨5⟩, none, none, false⟩ settings sample [Arrival.creation.step] (.erase .regulations 1) hs
      herasing
    rw [haudit, hsilent (.none rfl fun _ h => nomatch h), List.append_nil]

/-- A bare deletion takes the entry of a creation away, and a remark stands under a module that is
not that of its table. -/
theorem trail_edited_and_misattributed :
    let settings := Settings.ofDatabase "sqlite"
    let created := (sample.run settings [Arrival.creation.step]).2
    created.store.audit.map (·.id) = [1] ∧
    (created.advance settings ⟨⟨0⟩, none, none, false⟩ (.erase .audit 1)).2.store.audit = [] ∧
    ((created.advance settings ⟨⟨0⟩, none, none, false⟩ (.operation (.remark
        ⟨some "billing", some "update", some "regulations", some 1, []⟩))).2.store.audit.any
      fun e => e.module ≠ Table.moduleOf e.entityType) := by
  decide +kernel

end World

end ComplianceRegistry
