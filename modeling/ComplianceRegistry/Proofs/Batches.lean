import ComplianceRegistry.Proofs.Writes

/-!
# What batches preserve

A batch of edits writes by the same statements as everything else: it records what the last flush
noted, moves and inserts rows of the tables that it edits, and removes rows of these. So what the
statements preserve is preserved by every batch that takes effect.

## Main definitions

* `Edit.table?` — the table that an edit is about
* `Batch.IsWithin` — the stores of a batch have a property, and it edits open tables only

## Main results

* `Batch.isWithin_flush`, `Batch.isWithin_apply` — one flush, one edit
* `Batch.run_preserves` — a whole batch
-/

namespace ComplianceRegistry

/-- The table that an edit is about. -/
def Edit.table? : Edit → Option Table
  | .add t _ | .set t _ _ | .remove t _ => some t
  | .flush | .rollback => none

/-- What one step of a fold preserves holds of the end if it holds of the start. -/
theorem foldlM_preserves {ε α β : Type} {Q : β → Prop} {f : β → α → Except ε β} {l : List α}
    {b c : β} (hstep : ∀ a ∈ l, ∀ b c, Q b → f b a = .ok c → Q c) (hb : Q b)
    (h : l.foldlM f b = .ok c) : Q c := by
  induction l generalizing b with
  | nil => exact Except.ok.inj h ▸ hb
  | cons a l ih =>
    rw [List.foldlM_cons] at h
    obtain ⟨d, hd, h⟩ := bind_eq_ok.1 h
    exact ih (fun a' ha' => hstep a' (List.mem_cons_of_mem a ha'))
      (hstep a (List.mem_cons_self ..) b d hb hd) h

/-- A check of storage passes where it is lifted to edits if it passes by itself. -/
theorem lift_eq_ok {α : Type} {e : Except Fault α} {a : α}
    (h : (liftM e : Except Edit.Refusal α) = .ok a) : e = .ok a := by
  cases e with
  | ok b => exact congrArg _ (Except.ok.inj h)
  | error f => cases h

variable {table : Table} {id : Int} {row : Row} {s : Store}

theorem Row.table_of_ofCells? {cells : List (Text × Cell)}
    (h : Row.ofCells? table cells = some row) : row.table = table := by
  cases table <;>
    simp only [ofCells?, Option.bind_eq_bind, Option.bind_eq_some_iff, Option.some.injEq] at h <;>
    grind [Row.table]

theorem Store.table_of_row? (h : s.row? table id = some row) : row.table = table := by
  have hrow := (findById_eq_some h).1
  cases table <;> obtain ⟨r, -, rfl⟩ := List.mem_map.1 hrow <;> rfl

namespace Batch

variable {ctx : Context} {isOpen : Table → Prop} {isNoted : Trail.Note → Prop} {P : Store → Prop}
variable {b c : Batch} {key : Value} {values : List (Text × Value)}

/-- The stores of a batch have the property, what it noted is regular, and the rows that wait and
those in hand are of open tables. -/
structure IsWithin (isOpen : Table → Prop) (P : Store → Prop) (b : Batch) : Prop where
  origin : P b.origin
  store : P b.store
  noted : ∀ n ∈ b.noted, n.IsRegular
  added : ∀ f ∈ b.added, isOpen f.table
  held : ∀ h ∈ b.held, isOpen h.table

theorem isWithin_start (hs : P s) : (start s).IsWithin isOpen P :=
  ⟨hs, hs, by simp [start], by simp [start], by simp [start]⟩

/-! ### Rows in hand -/

namespace IsWithin

/-- Other rows may be taken in hand, as long as they are of open tables. -/
theorem holding (h : b.IsWithin isOpen P) {held : List Held} (hheld : ∀ g ∈ held, isOpen g.table) :
    { b with held := held }.IsWithin isOpen P :=
  { h with held := hheld }

theorem release (h : b.IsWithin isOpen P) : b.release.IsWithin isOpen P :=
  h.holding fun g hg => h.held g (List.mem_of_mem_filter hg)

theorem take (h : b.IsWithin isOpen P) (hopen : isOpen table) :
    (b.take table id).IsWithin isOpen P := by
  unfold Batch.take
  split
  · exact h
  · split
    · next r hr =>
      have htable : (Held.ofRow r).table = table := Store.table_of_row? hr
      exact h.holding (forall_mem_append h.held (by rwa [htable]))
    · exact h

theorem change (h : b.IsWithin isOpen P) : (b.change table key values).IsWithin isOpen P := by
  refine (h.holding fun g hg => ?_).release
  obtain ⟨g', hg', rfl⟩ := List.mem_map.1 hg
  split <;> exact h.held g' hg'

theorem forget (h : b.IsWithin isOpen P) : b.forget.IsWithin isOpen P := by
  refine (h.holding fun g hg => ?_).release
  obtain ⟨g', hg', rfl⟩ := List.mem_map.1 hg
  exact h.held g' hg'

theorem mark (h : b.IsWithin isOpen P) : (b.mark table key).IsWithin isOpen P := by
  unfold Batch.mark
  rw [List.partition_eq_filter_filter]
  refine (h.holding fun g hg => ?_).release
  rcases List.mem_append.1 hg with hg | hg
  · exact h.held g (List.mem_of_mem_filter hg)
  · obtain ⟨g', hg', rfl⟩ := List.mem_map.1 hg
    exact h.held g' (List.mem_of_mem_filter hg')

end IsWithin

/-! ### Flushing -/

section Flushing

variable {p q : Progress} {f : Fresh} {h : Held}

/-- The store in the middle of a flush has the property, and what it notes is regular. -/
def Progress.IsWithin (P : Store → Prop) (p : Progress) : Prop :=
  P p.store ∧ ∀ n ∈ p.came, n.2.IsRegular

theorem Progress.IsWithin.noting (hp : p.IsWithin P) : (p.noting f id).IsWithin P :=
  ⟨hp.1, forall_mem_append hp.2 Trail.isRegular_row⟩

variable (hP : Store.Preserves ctx isOpen isNoted P)

include hP

theorem overwrite_preserves {after : Store} (hopen : isOpen table) (hs : P s)
    (h : overwrite ctx s table id values = .ok after) : P after := by
  unfold overwrite at h
  split at h
  · exact Except.ok.inj h ▸ hs
  · obtain ⟨cells, -, h⟩ := bind_eq_ok.1 h
    split at h
    · cases h
    · dsimp only at h
      split at h
      · next r hr => exact hP.move (Row.table_of_ofCells? hr ▸ hopen) hs (lift_eq_ok h)
      · cases h

theorem writeHeld_preserves (hopen : isOpen h.table) (hp : p.IsWithin P)
    (hwrite : writeHeld ctx p h = .ok q) : q.IsWithin P := by
  obtain ⟨after, hover, hq⟩ := bind_eq_ok.1 hwrite
  obtain rfl := Except.ok.inj hq
  exact ⟨overwrite_preserves hP hopen hp.1 hover, hp.2⟩

theorem writeOver_preserves (hopen : isOpen f.table) (hp : p.IsWithin P)
    (hwrite : writeOver ctx p f = .ok q) : q.IsWithin P := by
  obtain ⟨after, hover, hq⟩ := bind_eq_ok.1 hwrite
  obtain rfl := Except.ok.inj hq
  exact Progress.IsWithin.noting ⟨overwrite_preserves hP hopen hp.1 hover, hp.2⟩

theorem writeFresh_preserves (hopen : isOpen f.table) (hp : p.IsWithin P)
    (hwrite : writeFresh ctx p f = .ok q) : q.IsWithin P := by
  obtain ⟨cells, -, hwrite⟩ := bind_eq_ok.1 hwrite
  dsimp only at hwrite
  split at hwrite
  · cases hwrite
  · next r hr =>
    obtain ⟨after, hinsert, hq⟩ := bind_eq_ok.1 hwrite
    obtain rfl := Except.ok.inj hq
    have hafter : P after :=
      hP.insert (Row.table_of_ofCells? hr ▸ hopen) hp.1 (lift_eq_ok hinsert)
    exact Progress.IsWithin.noting ⟨hafter, hp.2⟩

theorem writeTable_preserves (hb : b.IsWithin isOpen P) (hp : p.IsWithin P)
    (hwrite : writeTable ctx b p table = .ok q) : q.IsWithin P := by
  unfold writeTable at hwrite
  rw [List.partition_eq_filter_filter] at hwrite
  have hadded {g : Fresh → Bool} (f : Fresh)
      (hf : f ∈ (b.added.filter fun f => f.table = table).filter g) : isOpen f.table :=
    hb.added f (List.mem_of_mem_filter (List.mem_of_mem_filter hf))
  -- rows that take the place of others, rows in hand and new rows, each written one by one
  obtain ⟨p₁, h₁, hwrite⟩ := bind_eq_ok.1 hwrite
  obtain ⟨p₂, h₂, h₃⟩ := bind_eq_ok.1 hwrite
  have hp₁ : p₁.IsWithin P := foldlM_preserves
    (fun f hf _ _ hp hw => writeOver_preserves hP (hadded f hf) hp hw) hp h₁
  have hp₂ : p₂.IsWithin P := foldlM_preserves
    (fun g hg _ _ hp hw => writeHeld_preserves hP (hb.held g (List.mem_of_mem_filter hg)) hp hw)
    hp₁ h₂
  exact foldlM_preserves
    (fun f hf _ _ hp hw => writeFresh_preserves hP (hadded f hf) hp hw) hp₂ h₃

theorem removeHeld_preserves {after : Store} (hopen : isOpen h.table) (hs : P s)
    (hremove : b.removeHeld s h = .ok after) : P after := by
  unfold removeHeld at hremove
  dsimp only at hremove
  split at hremove
  · cases hremove
  · split at hremove
    · exact Except.ok.inj hremove ▸ hs
    · exact hP.remove hopen hs (lift_eq_ok hremove)

theorem removeTable_preserves {after : Store} (hb : b.IsWithin isOpen P) (hs : P s)
    (hremove : b.removeTable s table = .ok after) : P after :=
  foldlM_preserves (fun g hg _ _ hs hr =>
    removeHeld_preserves hP (hb.held g (List.mem_of_mem_filter hg)) hs hr) hs hremove

omit hP in
/-- A flush notes changed columns, rows that came and rows that went, all of them in order. -/
theorem isRegular_notes {came : List (Nat × Trail.Note)} (hcame : ∀ n ∈ came, n.2.IsRegular) :
    ∀ n ∈ b.notes came, n.IsRegular := by
  intro n hn
  unfold notes at hn
  simp only [List.mem_append] at hn
  rcases hn with (hn | hn) | hn
  · obtain ⟨g, -, hn⟩ := List.mem_flatMap.1 hn
    obtain ⟨change, -, rfl⟩ := List.mem_map.1 hn
    exact Trail.isRegular_field
  · obtain ⟨m, hm, rfl⟩ := List.mem_map.1 (List.mem_of_mem_filter hn)
    exact hcame m ((List.mergeSort_perm _ _).mem_iff.1 hm)
  · obtain ⟨g, -, rfl⟩ := List.mem_map.1 hn
    exact Trail.isRegular_row

theorem isWithin_flush (hb : b.IsWithin isOpen P) (hflush : flush ctx b = .ok c) :
    c.IsWithin isOpen P := by
  -- the entries of the flush before go first, then the rows that come and the rows that go
  obtain ⟨recorded, hrecord, hflush⟩ := bind_eq_ok.1 hflush
  obtain ⟨p, hwrite, hflush⟩ := bind_eq_ok.1 hflush
  obtain ⟨store, hremove, hc⟩ := bind_eq_ok.1 hflush
  obtain rfl := Except.ok.inj hc
  have hrecorded : P recorded := hP.record_regular hb.noted hb.store (lift_eq_ok hrecord)
  have hp : p.IsWithin P := foldlM_preserves
    (fun t _ _ _ hp hw => writeTable_preserves hP hb hp hw) (b := ⟨recorded, []⟩)
    ⟨hrecorded, by simp⟩ hwrite
  have hstore : P store := foldlM_preserves
    (fun t _ _ _ hs hr => removeTable_preserves hP hb hs hr) hp.1 hremove
  refine IsWithin.release ⟨hb.origin, hstore, isRegular_notes hp.2, by simp, fun g hg => ?_⟩
  obtain ⟨g', hg', rfl⟩ := List.mem_map.1 hg
  exact hb.held g' (List.mem_of_mem_filter hg')

/-! ### Edits -/

theorem isWithin_load {found : Option Value} (hb : b.IsWithin isOpen P) (hopen : isOpen table)
    (hload : load ctx b table key = .ok (c, found)) : c.IsWithin isOpen P := by
  unfold load at hload
  split at hload
  · cases hload
    exact hb
  · obtain ⟨d, hflush, hload⟩ := bind_eq_ok.1 hload
    have hd : d.IsWithin isOpen P := isWithin_flush hP hb hflush
    obtain ⟨id?, -, hload⟩ := bind_eq_ok.1 hload
    split at hload
    · cases hload
      exact hd
    · next r hr =>
      obtain ⟨_, -, hload⟩ := bind_eq_ok.1 hload
      cases hload
      -- a regulation brings its type, whose table is open too
      split
      · exact (hd.take hopen).take (hP.tables _ (by simp))
      · exact hd.take hopen

theorem isWithin_apply {e : Edit} (hb : b.IsWithin isOpen P) (hopen : ∀ t ∈ e.table?, isOpen t)
    (happly : apply ctx b e = .ok c) : c.IsWithin isOpen P := by
  cases e with
  | add table values =>
    unfold apply at happly
    dsimp only at happly
    split at happly
    · obtain rfl := Except.ok.inj happly
      exact { hb with added := forall_mem_append hb.added (hopen table rfl) }
    · cases happly
  | set table key values =>
    obtain ⟨⟨d, found⟩, hload, happly⟩ := bind_eq_ok.1 happly
    have hd := isWithin_load hP hb (hopen table rfl) hload
    cases found with
    | some key => exact Except.ok.inj happly ▸ hd.change
    | none =>
      dsimp only at happly
      split at happly
      · exact Except.ok.inj happly ▸ hd.forget
      · cases happly
  | remove table key =>
    obtain ⟨⟨d, found⟩, hload, happly⟩ := bind_eq_ok.1 happly
    have hd := isWithin_load hP hb (hopen table rfl) hload
    cases found with
    | some key => exact Except.ok.inj happly ▸ hd.mark
    | none => cases happly
  | flush => exact isWithin_flush hP hb happly
  | rollback =>
    cases happly
    exact isWithin_start hb.origin

/-- A batch that takes effect preserves what its statements preserve. -/
theorem run_preserves {edits : List Edit} {after : Store}
    (hopen : ∀ e ∈ edits, ∀ t ∈ e.table?, isOpen t) (hs : P s)
    (hrun : run ctx s edits = .ok after) : P after := by
  obtain ⟨b, hedits, hrun⟩ := bind_eq_ok.1 hrun
  -- the second flush writes the entries of the first
  obtain ⟨c, hfirst, hrun⟩ := bind_eq_ok.1 hrun
  obtain ⟨d, hsecond, hafter⟩ := bind_eq_ok.1 hrun
  obtain rfl := Except.ok.inj hafter
  have hb : b.IsWithin isOpen P := foldlM_preserves
    (fun e he _ _ hb ha => isWithin_apply hP hb (hopen e he) ha) (isWithin_start hs) hedits
  exact (isWithin_flush hP (isWithin_flush hP hb hfirst) hsecond).store

end Flushing

end Batch

end ComplianceRegistry
