import ComplianceRegistry.Proofs.Attribution
import ComplianceRegistry.Proofs.Literals
import ComplianceRegistry.Proofs.Room
import ComplianceRegistry.Proofs.Showing
import ComplianceRegistry.Proofs.Updates

/-!
# What storage takes

A write whose checks pass can still be refused by storage, for an integer that does not fit or for a
text without bytes. Where the ids have not run out, the trail can name who asks, and what is sent
can be stored, storage refuses nothing: what comes from the store was stored before, and what the
trail says of it has bytes.

## Main definitions

* `Trail.Note.IsStorable` — a note that the trail takes
* `Context.IsRecordable` — the trail can name who asks
* `Patch.IsStorable`, `StatusWrite.IsStorable` — nothing that is set is refused by storage
* `Document.IsTellable` — the trail can tell of details as they are

## Main results

* `Trail.record_of_storable` — the trail takes notes
* `Regulations.update_yields` — an update whose checks pass is carried out
* `Statuses.write_yields` — so is a write for a pair
* `World.tellable_serve` — after any requests the trail can tell of all details
-/

namespace ComplianceRegistry

variable {ctx : Context} {s : Store}

/-! ### The trail -/

@[simp] theorem Instant.encodable_display (t : Instant) : t.display.Encodable := by
  unfold display written
  dsimp only
  split <;> simp

/-- A cell that can be stored is shown with bytes, unless it is a text among details. -/
theorem Cell.encodable_shown? {c : Cell} (hcheck : c.check = .ok ())
    (hdetails : ∀ t, c = .details (.text t) → t.Encodable) : ∀ u ∈ c.shown?, u.Encodable := by
  rintro u hu
  cases c with
  | null => cases hu
  | integer n => exact Option.some.inj hu ▸ Text.encodable_ofInt n
  | text t => exact Option.some.inj hu ▸ checkText_eq_ok.1 hcheck
  | truth b => exact Option.some.inj hu ▸ Document.encodable_shown (by simp)
  | details d =>
    exact Option.some.inj hu ▸ Document.encodable_shown fun t ht => hdetails t (ht ▸ rfl)
  | instant t => exact Option.some.inj hu ▸ Instant.encodable_display t

namespace Table

theorem encodable_name (t : Table) : t.name.Encodable := by
  cases t <;> exact Text.encodable_ofString _

theorem encodable_moduleOf (t : Table) : (moduleOf t.name).Encodable := by
  cases t <;> decide

end Table

namespace Trail

/-- The trail takes the note: its integer fits, and its texts have bytes. -/
structure Note.IsStorable (n : Note) : Prop where
  module : n.module.Encodable
  action : n.action.Encodable
  entityType : n.entityType.Encodable
  entityId : Storable n.entityId
  fieldName : ∀ u ∈ n.fieldName, u.Encodable
  oldValue : ∀ u ∈ n.oldValue, u.Encodable
  newValue : ∀ u ∈ n.newValue, u.Encodable

theorem Action.encodable_name (a : Action) : a.name.Encodable := by
  cases a <;> exact Text.encodable_ofString _

theorem Note.isStorable_row {table : Table} {action : Action} {id : Int} (hid : Storable id) :
    (Note.row table action id).IsStorable where
  module := table.encodable_moduleOf
  action := action.encodable_name
  entityType := table.encodable_name
  entityId := hid
  fieldName := by simp [row]
  oldValue := by simp [row]
  newValue := by simp [row]

theorem Note.isStorable_field {table : Table} {action : Action} {id : Int} {name : Text}
    {old new : Option Text} (hid : Storable id) (hname : name.Encodable)
    (hold : ∀ u ∈ old, u.Encodable) (hnew : ∀ u ∈ new, u.Encodable) :
    (Note.field table action id name old new).IsStorable :=
  { (isStorable_row hid : (Note.row table action id).IsStorable) with
    fieldName := by simpa [field] using hname
    oldValue := hold
    newValue := hnew }

end Trail

/-- The trail can name who asks: the number of the user fits, and the address has bytes. -/
structure Context.IsRecordable (ctx : Context) : Prop where
  user : Trail.Holds ctx.user
  address : ∀ u ∈ ctx.address, u.Encodable

namespace Trail

variable {notes : List Note} {n : Note} {first : Int}

theorem check_entry (hctx : ctx.IsRecordable) (hn : n.IsStorable) (hid : Storable first) :
    (Row.audit (n.entry ctx first)).check = .ok () := by
  have htext {t : Option Text} : (∀ u ∈ t, u.Encodable) → (Cell.ofText? t).check = .ok () :=
    Cell.check_ofText?.2
  refine Row.check_eq_ok.2 ?_
  simp only [Row.columns, AuditEntry.columns, List.forall_mem_cons]
  exact ⟨checkInteger_eq_ok.2 hid, check_ofInteger?_of_holds hctx.user, checkText_eq_ok.2 hn.module,
    checkText_eq_ok.2 hn.action, checkText_eq_ok.2 hn.entityType, checkInteger_eq_ok.2 hn.entityId,
    htext hn.fieldName, htext hn.oldValue, htext hn.newValue, htext hctx.address, rfl,
    List.forall_mem_nil _⟩

theorem checkEntries_of_storable (hctx : ctx.IsRecordable) (hnotes : ∀ n ∈ notes, n.IsStorable)
    (hids : ∀ i < notes.length, Storable (first + i)) :
    checkEntries (entriesFrom ctx first notes) = .ok () := by
  induction notes generalizing first with
  | nil => rfl
  | cons n notes ih =>
    obtain ⟨hn, hnotes⟩ := List.forall_mem_cons.1 hnotes
    obtain ⟨hfirst, hids⟩ := (forall_follow_succ (p := Storable)).1 hids
    rw [entriesFrom, checkEntries_cons, check_entry hctx hn hfirst]
    exact ih hnotes hids

theorem storable_of_hasRoom (hroom : ∀ i : Fin 10, Storable (s.nextIdOf .audit + i))
    (hlength : notes.length ≤ 10) :
    ∀ i < notes.length, Storable (nextId (s.audit.map (·.id)) + i) := by
  intro i hi
  rw [← Store.nextIdOf_audit]
  exact hroom ⟨i, by omega⟩

/-- The trail takes ten notes at most as long as the ids have not run out. -/
theorem record_of_storable (hctx : ctx.IsRecordable)
    (hroom : ∀ i : Fin 10, Storable (s.nextIdOf .audit + i)) (hlength : notes.length ≤ 10)
    (hnotes : ∀ n ∈ notes, n.IsStorable) : record ctx s notes = .ok (logged ctx notes s) := by
  rw [record_eq, checkEntries_of_storable hctx hnotes (storable_of_hasRoom hroom hlength)]
  rfl

end Trail

/-! ### Rows that are taken -/

namespace Store

variable {row : Row}

theorem insert_of_admits (hcheck : row.check = .ok ()) (hnew : s.row? row.table row.id = none)
    (h : s.Admits row) : s.insert row = .ok (s.push row) := by
  simp [insert, hcheck, hnew, h, bind, Except.bind]

theorem replace_of_admits (hcheck : row.check = .ok ()) (h : s.Admits row) :
    s.replace row = .ok (s.put row) := by
  simp [replace, hcheck, h, bind, Except.bind]

end Store

/-! ### Regulations -/

/-- Nothing that the patch sets is refused by storage. -/
structure Patch.IsStorable (p : Patch) : Prop where
  name : ∀ u ∈ p.name, u.Encodable
  displayName : ∀ u ∈ p.displayName.join, u.Encodable
  description : ∀ u ∈ p.description.join, u.Encodable
  typeId : ∀ n ∈ p.typeId, Storable n
  config : ∀ u ∈ p.config.join, u.Encodable
  order : ∀ n ∈ p.order, Storable n

/-- A regulation can be stored when its integers fit and its texts have bytes. -/
theorem Regulation.check_iff {r : Regulation} : (Row.regulation r).check = .ok () ↔
    (Storable r.id ∧ Storable r.order ∧ Storable r.typeId ∧ Storable r.projectId) ∧
      r.name.Encodable ∧ (∀ u ∈ r.displayName, u.Encodable) ∧ (∀ u ∈ r.description, u.Encodable) ∧
      ∀ u ∈ r.config, u.Encodable := by
  have htext {t : Option Text} : (Cell.ofText? t).check = .ok () ↔ ∀ u ∈ t, u.Encodable :=
    Cell.check_ofText?
  have hinteger {n : Int} : (Cell.integer n).check = .ok () ↔ Storable n := checkInteger_eq_ok
  have hname {t : Text} : (Cell.text t).check = .ok () ↔ t.Encodable := checkText_eq_ok
  have hinstant {t : Instant} : (Cell.instant t).check = .ok () := rfl
  rw [Row.check_eq_ok]
  simp only [Row.columns, columns, List.forall_mem_cons, htext, hinteger, hname, hinstant,
    List.not_mem_nil, IsEmpty.forall_iff, implies_true, and_true]
  tauto

/-- A regulation at an address is found, since the keys that it is found by are stored. -/
theorem Regulations.find_of_mem_at {project : Int} {address : Address} {r : Regulation}
    (hs : s.Consistent) (hrows : s.Every fun r => r.check = .ok ())
    (h : r ∈ s.regulationsAt project address) : find s project address = .ok r := by
  obtain ⟨hmem, rfl⟩ := Store.mem_of_mem_regulationsAt h
  obtain ⟨⟨hid, -, -, hproject⟩, hname, -⟩ := Regulation.check_iff.1 (hrows.regulations r hmem)
  refine find_of_mem hs hproject ?_ h
  match address, h with
  | .byId _, h =>
    obtain rfl := (of_decide_eq_true (List.mem_filter.1 h).2).1
    exact checkInteger_eq_ok.2 hid
  | .byName (some _), h =>
    obtain rfl := (of_decide_eq_true (List.mem_filter.1 h).2).1
    exact checkText_eq_ok.2 hname
  | .byName none, h => simp [Store.regulationsAt] at h

namespace Config

/-- What is kept of a config is the config, or nothing. -/
theorem eq_or_eq_none_of_settle {typeName : Text} {config kept : Option Text}
    (h : settle typeName config = .ok kept) : kept = config ∨ kept = none := by
  unfold settle at h
  split at h
  · exact .inl (Except.ok.inj h).symm
  · exact .inr (Except.ok.inj h).symm
  · exact .inl (requireNumber_eq_ok h).1
  · exact .inl (requireNumber_eq_ok h).1

end Config

theorem Regulation.encodable_of_mem_columns {r : Regulation} :
    ∀ c ∈ r.columns, c.1.Encodable := by
  simp [columns]

/-- A note on two states of a regulation that can be stored can be stored. -/
theorem Regulations.isStorable_of_mem_updateNotes {before after : Regulation} {n : Trail.Note}
    (hbefore : (Row.regulation before).check = .ok ())
    (hafter : (Row.regulation after).check = .ok ()) (hn : n ∈ updateNotes before after) :
    n.IsStorable := by
  have hshown {r : Regulation} (hr : (Row.regulation r).check = .ok ()) :
      ∀ c ∈ r.columns, ∀ u ∈ c.2.shown?, u.Encodable := by
    intro c hc
    refine Cell.encodable_shown? (Row.check_eq_ok.1 hr c hc) fun t ht => ?_
    rw [Regulation.columns_eq] at hc
    obtain ⟨column, -, rfl⟩ := List.mem_map.1 hc
    exact absurd ht Regulation.cell_ne_details
  obtain ⟨⟨b, a⟩, hpair, hnote⟩ := List.mem_filterMap.1 hn
  obtain ⟨hb, ha⟩ := List.of_mem_zip hpair
  dsimp only at hnote
  split at hnote
  · cases hnote
  · obtain rfl := Option.some.inj hnote
    have hid : Storable before.id := Row.storable_id hbefore
    -- the columns that are compared are those of the row but for its type and its time
    have hrow : (Row.regulation { after with
        typeId := before.typeId
        updatedAt := before.updatedAt }).check = .ok () := by
      rw [Regulation.check_iff] at hbefore hafter ⊢
      exact ⟨⟨hafter.1.1, hafter.1.2.1, hbefore.1.2.2.1, hafter.1.2.2.2⟩, hafter.2⟩
    exact Trail.Note.isStorable_field hid (Regulation.encodable_of_mem_columns a ha)
      (hshown hbefore b hb) (hshown hrow a ha)

/-! ### Updates -/

namespace Work

variable {α : Type} {w : Work α} {σ : Session}

theorem Yields.of_write {statement : Store → Except Fault Store} {Q : Unit → Session → Prop}
    {after : Store} (h : statement σ.working = .ok after) (hQ : Q () { σ with working := after }) :
    (write statement).Yields σ Q :=
  ⟨(), _, by simp [write, h], hQ⟩

theorem Yields.of_lift {e : Except Fault α} {Q : α → Session → Prop} {a : α} (h : e = .ok a)
    (hQ : Q a σ) : (liftM e : Work α).Yields σ Q :=
  ⟨a, σ, h ▸ rfl, hQ⟩

/-- Work that does not fail and would end in some way ends so. -/
theorem Leads.yields {P Q : α → Session → Prop} (h : w.Leads σ Q) (hw : w.Yields σ P) :
    w.Yields σ Q := by
  obtain ⟨a, τ, hw, -⟩ := hw
  exact ⟨a, τ, hw, by simpa [Leads, hw] using h⟩

end Work

namespace Regulations

open Work

variable {project : Int} {address : Address} {patch : Patch} {before after : Regulation}
variable {type : RegulationType} {config : Option Text} {view : RegulationView}

/-- What a patch that can be stored makes of a regulation that was stored can be stored. -/
theorem check_patched (hbefore : (Row.regulation before).check = .ok ()) (hpatch : patch.IsStorable)
    (htype : Catalog.find s (patch.typeId.getD before.typeId) = .ok type)
    (hconfig : Config.settle type.name (patch.config.getD before.config) = .ok config)
    (clock : Instant) :
    (Row.regulation { patched before patch type config with updatedAt := clock }).check =
      .ok () := by
  obtain ⟨⟨hid, horder, -, hproject⟩, hname, hdisplayName, hdescription, hkept⟩ :=
    Regulation.check_iff.1 hbefore
  have hmerged {p : Option (Option Text)} {o : Option Text} (hp : ∀ u ∈ p.join, u.Encodable)
      (ho : ∀ u ∈ o, u.Encodable) : ∀ u ∈ p.getD o, u.Encodable := by
    cases p with
    | none => exact ho
    | some t => exact hp
  obtain ⟨_, htypeId, -⟩ := bind_eq_ok.1 htype
  rw [← (Catalog.find_eq_ok htype).2] at htypeId
  rw [Regulation.check_iff]
  refine ⟨⟨hid, ?_, checkInteger_eq_ok.1 htypeId, hproject⟩, ?_,
    hmerged hpatch.displayName hdisplayName, hmerged hpatch.description hdescription, ?_⟩
  · change Storable (patch.order.getD before.order)
    cases h : patch.order with
    | none => exact horder
    | some n => exact hpatch.order n h
  · change (patch.name.getD before.name).Encodable
    cases h : patch.name with
    | none => exact hname
    | some t => exact hpatch.name t h
  · rcases Config.eq_or_eq_none_of_settle hconfig with rfl | rfl
    · exact hmerged hpatch.config hkept
    · simp [patched]

theorem commitNaming_yields {name : Text} {writing : Work Unit} {σ : Session}
    (h : writing.Yields σ fun _ _ => True) :
    (commitNaming name project writing).Yields σ fun _ _ => True := by
  obtain ⟨_, τ, hw, -⟩ := h
  refine ⟨(), { τ with committed := τ.working }, ?_, trivial⟩
  unfold commitNaming rescue
  rw [bind_apply_ok hw]
  rfl

variable (hctx : ctx.IsRecordable) (hroom : ∀ i : Fin 10, Storable (s.nextIdOf .audit + i))
include hctx hroom

/-- Changes that can be stored, under a name that is not taken, are written. -/
theorem writeChanges_yields (hbefore : (Row.regulation before).check = .ok ())
    (hafter : (Row.regulation { after with updatedAt := ctx.clock }).check = .ok ())
    (hadmits : s.Admits (.regulation { after with updatedAt := ctx.clock })) :
    (writeChanges ctx before after).Yields (.start s) fun _ _ => True := by
  unfold writeChanges
  split
  · have hreplace := Store.replace_of_admits hafter hadmits
    -- a row that takes the place of another one leaves the trail and its ids alone
    have hrecord := Trail.record_of_storable (s := s.put (.regulation { after with
      updatedAt := ctx.clock })) hctx hroom length_updateNotes_le fun _ =>
        isStorable_of_mem_updateNotes hbefore hafter
    exact Yields.bind (Yields.of_write hreplace (Yields.of_write hrecord trivial))
  · exact Yields.of_pure trivial

/-- An update whose checks pass is carried out, if its name is not taken and what it sets can be
stored. -/
theorem update_yields (hs : s.Consistent) (hstored : (Row.regulation before).check = .ok ())
    (hpatch : patch.IsStorable) (hbefore : find s project address = .ok before)
    (htype : Catalog.find s (patch.typeId.getD before.typeId) = .ok type)
    (hname : ensureRenamable ctx s project before (patch.name.getD before.name) = .ok ())
    (hconfig : Config.settle type.name (patch.config.getD before.config) = .ok config)
    (hfree : ¬ s.IsTaken before.projectId (patch.name.getD before.name) before.id) :
    (update ctx project address patch).Yields (.start s) fun view τ =>
      (∃ before, Updated ctx s project address patch before view τ.committed) ∧
        τ.announced = [announcement ctx .updated view.regulation] := by
  have hrow := check_patched hstored hpatch htype hconfig ctx.clock
  have hadmits : s.Admits (.regulation { patched before patch type config with
      updatedAt := ctx.clock }) := by
    by_contra hrefused
    refine hfree (Store.isTaken_of_not_admits hrefused ?_ ?_)
    · exact List.mem_map_of_mem (Catalog.find_eq_ok htype).1
    · exact hs.regulationProjects before (mem_of_find_eq_ok hbefore).1
  have hwritten : (commitNaming (patched before patch type config).name project
      (writeChanges ctx before (patched before patch type config))).Yields (.start s)
      fun _ _ => True :=
    commitNaming_yields (writeChanges_yields hctx hroom hstored hrow hadmits)
  refine Yields.bind (Yields.of_query hbefore ?_)
  refine Yields.bind (Yields.of_query htype ?_)
  refine Yields.bind (Yields.of_query hname ?_)
  refine Yields.bind (Yields.of_lift hconfig ?_)
  exact Yields.bind ((rewriting_leads hs hbefore htype hname hconfig).yields hwritten)

end Regulations

/-! ### Statuses -/

/-- The trail can tell of the details as they are: they are no text, or a text that has bytes. -/
def Document.IsTellable (d : Document) : Prop := ∀ t, d = .text t → t.Encodable

/-- Nothing that the write sets is refused by storage. -/
def StatusWrite.IsStorable : StatusWrite → Prop
  | .value v d | .report v d _ => (∀ u ∈ v, u.Encodable) ∧ d.IsTellable
  | .compliance _ => True

/-- A status can be stored when its integers fit and its value has bytes. -/
theorem Status.check_iff {st : Status} : (Row.status st).check = .ok () ↔
    (Storable st.id ∧ Storable st.regulationId ∧ Storable st.versionId) ∧
      ∀ u ∈ st.value, u.Encodable := by
  have htext {t : Option Text} : (Cell.ofText? t).check = .ok () ↔ ∀ u ∈ t, u.Encodable :=
    Cell.check_ofText?
  have hinteger {n : Int} : (Cell.integer n).check = .ok () ↔ Storable n := checkInteger_eq_ok
  have hdetails {d : Document} : (Cell.ofDetails d).check = .ok () := by cases d <;> rfl
  have htruth {b : Option Bool} : (Cell.ofTruth? b).check = .ok () := by cases b <;> rfl
  have hinstant {t : Instant} : (Cell.instant t).check = .ok () := rfl
  rw [Row.check_eq_ok]
  simp only [Row.columns, columns, List.forall_mem_cons, htext, hinteger, hdetails, htruth,
    hinstant, List.not_mem_nil, IsEmpty.forall_iff, implies_true, and_true]
  tauto

namespace Statuses

open Work

variable {r : Regulation} {v : Version} {st : Status} {w : StatusWrite} {written : Store}
variable {project regulation : Int} {catalogId : Text}

/-- What a write that can be stored makes of a status that can be stored can be stored. -/
theorem check_apply (hw : w.IsStorable) (hst : (Row.status st).check = .ok ()) (clock : Instant) :
    (Row.status { w.apply st with updatedAt := clock }).check = .ok () := by
  rw [Status.check_iff] at hst ⊢
  cases w with
  | compliance c => exact hst
  | value u d | report u d c => exact ⟨hst.1, hw.1⟩

theorem eq_of_ofDetails_eq {d e : Document} (h : Cell.ofDetails d = .details e) : d = e := by
  cases d with
  | null => cases h
  | _ => exact Cell.details.inj h

/-- The cells that a write sends are shown with bytes. -/
theorem encodable_shown?_cells (hw : w.IsStorable) :
    ∀ c ∈ w.cells, ∀ u ∈ c.2.shown?, u.Encodable := by
  have hvalue {v : Option Text} (hv : ∀ u ∈ v, u.Encodable) :
      ∀ u ∈ (Cell.ofText? v).shown?, u.Encodable :=
    Cell.encodable_shown? (Cell.check_ofText?.2 hv) fun t ht => by cases v <;> cases ht
  have hdetails {d : Document} (hd : d.IsTellable) : ∀ u ∈ (Cell.ofDetails d).shown?, u.Encodable :=
    Cell.encodable_shown? (by cases d <;> rfl) fun t ht => hd t (eq_of_ofDetails_eq ht)
  have htruth {b : Bool} : ∀ u ∈ (Cell.truth b).shown?, u.Encodable :=
    Cell.encodable_shown? rfl nofun
  cases w with
  | value u d => simpa [StatusWrite.cells] using ⟨hvalue hw.1, hdetails hw.2⟩
  | compliance c =>
    cases c with
    | none => simp [StatusWrite.cells, Cell.ofTruth?, Cell.shown?]
    | some b => simpa [StatusWrite.cells, Cell.ofTruth?] using htruth
  | report u d c => simpa [StatusWrite.cells] using ⟨hvalue hw.1, hdetails hw.2, htruth⟩

/-- The cells of a status that can be stored are shown with bytes. -/
theorem encodable_shown?_cellOf (hst : (Row.status st).check = .ok ())
    (hdetails : st.details.IsTellable) (column : Text) :
    ∀ u ∈ (cellOf st column).shown?, u.Encodable := by
  have hcells : ∀ c ∈ st.columns, ∀ t, c.2 = .details (.text t) → t.Encodable := by
    have htext {v : Option Text} {d : Document} : Cell.ofText? v ≠ .details d := by
      cases v <;> simp [Cell.ofText?]
    have htruth {b : Option Bool} {d : Document} : Cell.ofTruth? b ≠ .details d := by
      cases b <;> simp [Cell.ofTruth?]
    simp only [Status.columns, List.forall_mem_cons, htext, htruth, reduceCtorEq,
      IsEmpty.forall_iff, implies_true, true_and]
    exact ⟨fun t h => hdetails t (eq_of_ofDetails_eq h), List.forall_mem_nil _⟩
  unfold cellOf
  cases hfound : st.columns.find? fun c => c.1 = column with
  | none => simp [Cell.shown?]
  | some c =>
    have hc := List.mem_of_find?_eq_some hfound
    exact Cell.encodable_shown? (Row.check_eq_ok.1 hst c hc) (hcells c hc)

/-- The notes on a write that can be stored can be stored. -/
theorem isStorable_of_mem_putNotes {before : Option Status} {id : Int} {n : Trail.Note}
    (hw : w.IsStorable) (hid : Storable id)
    (hbefore : ∀ st ∈ before, (Row.status st).check = .ok () ∧ st.details.IsTellable)
    (hn : n ∈ putNotes before id w) : n.IsStorable := by
  obtain ⟨c, hc, rfl⟩ := List.mem_map.1 hn
  have hname : c.1.Encodable := by
    have hnames : ∀ c ∈ w.cells, c.1.Encodable := by cases w <;> simp [StatusWrite.cells]
    exact hnames c hc
  have hnew := encodable_shown?_cells hw c hc
  cases before with
  | none => exact Trail.Note.isStorable_field hid hname (by simp) hnew
  | some st =>
    obtain ⟨hst, hdetails⟩ := hbefore st rfl
    exact Trail.Note.isStorable_field hid hname (encodable_shown?_cellOf hst hdetails c.1) hnew

/-- A row that was written could be stored. -/
theorem Upserted.check {row : Status} {after : Store} (h : Upserted ctx s r v w row after) :
    (Row.status row).check = .ok () := by
  cases h with
  | added hnone hrow hwritten => exact (Store.insert_eq_ok hwritten).1
  | replaced hsome hrow hwritten => exact (Store.replace_eq_ok hwritten).1

variable (hs : s.Consistent) (hrows : s.Every Row.IsReadable) (hw : w.IsStorable)
variable (hpair : Pair s project regulation catalogId r v)

include hs hrows hw hpair

/-- The statement that adds or replaces the row of a pair succeeds. -/
theorem exists_upsert (hroom : Storable (s.nextIdOf .statuses)) :
    ∃ written, upsert ctx r v w s = .ok written := by
  unfold upsert
  cases hhead : (s.statusesAt r.id v.id).head? with
  | some st =>
    have hst : (Row.status st).check = .ok () :=
      (hrows.statuses st (List.mem_of_mem_filter (List.mem_of_head? hhead))).1
    exact ⟨_, Store.replace_of_admits (check_apply hw hst ctx.clock)
      (admits_replacement hs hpair hhead)⟩
  | none =>
    obtain ⟨hnew, hadmits⟩ : (s.row? .statuses (w.apply (fresh ctx s r v)).id).isNone ∧
        s.Admits (.status (w.apply (fresh ctx s r v))) :=
      admits_addition hpair (List.head?_eq_none_iff.1 hhead)
    have hregulation : Storable r.id :=
      Row.storable_id (hrows.regulations r hpair.regulation_mem).1
    have hversion : Storable v.id := Row.storable_id (hrows.versions v hpair.version_mem).1
    have hfresh : (Row.status (fresh ctx s r v)).check = .ok () := by
      rw [Status.check_iff]
      rw [Store.nextIdOf_statuses] at hroom
      exact ⟨⟨hroom, hregulation, hversion⟩, by simp [fresh]⟩
    have hrow := check_apply hw hfresh ctx.clock
    refine ⟨_, Store.insert_of_admits ?_ (Option.isNone_iff_eq_none.1 hnew) hadmits⟩
    cases w <;> exact hrow

variable (hdetails : ∀ st ∈ s.statuses, st.details.IsTellable) (hctx : ctx.IsRecordable)
variable (hroom : s.HasRoom)

include hdetails hctx hroom

/-- A write for a pair is carried out, if what it sets can be stored. -/
theorem write_yields : (write ctx project r v w).Yields (.start s) fun view τ =>
    Upserted ctx s r v w view.status τ.committed ∧ view.catalogId = catalogId ∧
      τ.announced = [] := by
  obtain ⟨written, hwritten⟩ : ∃ written, upsert ctx r v w s = .ok written :=
    exists_upsert hs hrows hw hpair hroom.statuses
  obtain ⟨row, hid, hrow⟩ := idOfPair_of_upsert hs hwritten
  have hbefore : ∀ st ∈ (s.statusesAt r.id v.id).head?,
      (Row.status st).check = .ok () ∧ st.details.IsTellable := by
    intro st hst
    have hmem := List.mem_of_mem_filter (List.mem_of_mem_head? hst)
    exact ⟨(hrows.statuses st hmem).1, hdetails st hmem⟩
  have hroom' : ∀ i : Fin 10, Storable (written.nextIdOf .audit + i) := by
    rw [Store.nextIdOf_audit, audit_of_upsert hwritten, ← Store.nextIdOf_audit]
    exact hroom.audit
  have hrecord := Trail.record_of_storable hctx hroom' length_putNotes_le fun _ =>
    isStorable_of_mem_putNotes hw (Row.storable_id hrow.check) hbefore
  refine (write_leads hs hpair).yields (P := fun _ _ => True) (Yields.bind ?_)
  refine Yields.bind (Yields.of_query rfl (Yields.bind (Yields.of_write hwritten ?_)))
  refine Yields.bind (Yields.of_query hid (Yields.bind (Yields.of_write hrecord ?_)))
  exact Yields.of_commit (get_yields hs hpair hrow trivial)

end Statuses

/-! ### Details after any requests -/

namespace Document

/-- What can be told when it is sent can be told as it is stored. -/
theorem isTellable_stored {d : Document} (h : d.IsTellable) : d.stored.IsTellable := by
  intro t ht
  cases d with
  | text u =>
    have hu := h u rfl
    rw [stored_text hu, text.injEq] at ht
    exact ht ▸ hu
  | float x =>
    simp only [stored, ofColumnNumber] at ht
    split at ht
    · split at ht <;> cases ht
    · cases ht
  | integer n =>
    simp only [stored] at ht
    split at ht <;> cases ht
  | _ => cases ht

end Document

namespace World

variable {settings : Settings} {w : World} {arrivals : List Arrival} {a : Arrival}

theorem tellable_outcome (hs : s.Consistent) (hrows : s.Every Row.IsReadable)
    (htellable : ∀ st ∈ s.statuses, st.details.IsTellable) :
    ∀ st ∈ (a.outcome settings s).store.statuses, st.details.IsTellable := by
  have hafter : (a.outcome settings s).store.Every Row.IsReadable := readable_outcome hrows
  intro st hst
  rcases Server.handle_cases hs with ⟨op, answer, hop, -, houtcome⟩ | ⟨hstore, -⟩
  · rcases houtcome.details_of_mem hst with ⟨old, hold, hsame⟩ | hnull | ⟨d, hsent, hstored⟩
    · exact hsame ▸ htellable old hold
    · rw [hnull]
      exact nofun
    · -- a text that was sent has been recorded in the trail
      rw [hstored]
      refine Document.isTellable_stored fun t ht => ?_
      exact houtcome.encodable_of_sent hafter (ht ▸ hsent)
  · exact htellable st (hstore ▸ hst)

/-- After any requests the trail can tell of all details. -/
theorem tellable_serve (h : w.store.Initial) (hrows : w.store.Every Row.IsReadable) :
    ∀ st ∈ (w.serve settings arrivals).store.statuses, st.details.IsTellable := by
  have hall : (w.serve settings arrivals).store.Kept ∧
      (w.serve settings arrivals).store.Every Row.IsReadable ∧
      ∀ st ∈ (w.serve settings arrivals).store.statuses, st.details.IsTellable := by
    refine serve_induction (P := fun s => s.Kept ∧ s.Every Row.IsReadable ∧
      ∀ st ∈ s.statuses, st.details.IsTellable) ?_ ?_
    · exact ⟨h.kept, hrows, by simp [h.statuses_eq]⟩
    · rintro a s ⟨hs, hreadable, htellable⟩
      exact ⟨kept_outcome hs, readable_outcome hreadable,
        tellable_outcome hs.toConsistent hreadable htellable⟩
  exact hall.2.2

end World

end ComplianceRegistry
