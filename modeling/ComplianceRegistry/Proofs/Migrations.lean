import ComplianceRegistry.Schema.Migration
import Mathlib.Data.List.Nodup

/-!
# Migrations leave all tables or none

The statements that create tables are undone by those that drop indexes and tables in reverse, for
any list of tables without a name in common. So a database on which no stamp is carried out is
always wholly at one of two points: the version table holds the revision and all tables are there
as they are described, or it holds none and no table is there.

## Main definitions

* `Description.names` — the names that a table takes up
* `Migration.complete` — the tables of the registry
* `Migration.Point.database` — the database that is wholly at a point
* `Migration.Database.IsWhole` — the version table and the tables agree
* `Migration.Order.IsStamp` — the version table is told something without a look at the tables

## Main results

* `Migration.Database.execute_create`, `Migration.Database.execute_drop` — what the statements of
  a list of tables do
* `Migration.run_cases` — what a command does to a database that is wholly at a point
* `Migration.orders_keep_whole` — sequences of orders
-/

namespace ComplianceRegistry

namespace Description

/-- The names that a table takes up: its own and those of its indexes. -/
def names (d : Description) : List Text := d.table.name :: d.indexes.map (·.name)

/-- The table without its indexes. -/
def bare (d : Description) : Description := { d with indexes := [] }

variable {d : Description} {before ds : List Description} {t : Table} {i : Index}

theorem table_notMem (hname : t.name ∉ before.flatMap names) : t ∉ before.map (·.table) := by
  intro ht
  obtain ⟨d, hd, rfl⟩ := List.mem_map.mp ht
  exact hname (List.mem_flatMap.mpr ⟨d, hd, List.mem_cons_self⟩)

theorem tableNames_sublist (ds : List Description) :
    ((ds.map (·.table)).map Table.name).Sublist (ds.flatMap names) := by
  induction ds with
  | nil => exact .slnil
  | cons d ds ih => exact (ih.trans (List.sublist_append_right _ _)).cons_cons _

/-- A change of one table leaves the others alone. -/
theorem map_update_of_notMem {f : Description → Description} (ht : t ∉ before.map (·.table)) :
    (before.map fun d => if d.table = t then f d else d) = before :=
  (List.map_congr_left fun _ hd => if_neg fun h => ht (List.mem_map.mpr ⟨_, hd, h⟩)).trans
    (List.map_id _)

/-- An index that is nowhere among the tables is not missed. -/
theorem map_filter_of_notMem (hname : i.name ∉ before.flatMap names) :
    (before.map fun d => { d with indexes := d.indexes.filter fun j => j.name ≠ i.name }) =
      before := by
  refine (List.map_congr_left fun d hd => ?_).trans (List.map_id _)
  have hkept : d.indexes.filter (fun j => j.name ≠ i.name) = d.indexes := by
    refine List.filter_eq_self.mpr fun j hj => decide_eq_true fun hij => hname ?_
    exact List.mem_flatMap.mpr ⟨d, hd, List.mem_cons_of_mem _ (List.mem_map.mpr ⟨j, hj, hij⟩)⟩
  rw [hkept]
  rfl

end Description

/-- The statements that create a table and its indexes. -/
def Statement.create (d : Description) : List Statement :=
  .createTable d :: d.indexes.map (.createIndex d.table)

namespace Migration

/-! ### Statements -/

namespace Database

variable {db next : Database} {d : Description} {ds before after : List Description}
  {t : Table} {i : Index} {is done : List Index} {statement : Statement} {rest : List Statement}
  {n : Text}

theorem execute_cons (happly : db.apply statement = .ok next) :
    db.execute (statement :: rest) = next.execute rest := by
  simp [execute, happly]

theorem apply_dropIndex (hthere : i.name ∈ db.indexNames) :
    db.apply (.dropIndex i.name) = .ok { db with built := db.built.map fun d =>
      { d with indexes := d.indexes.filter fun j => j.name ≠ i.name } } :=
  if_pos (List.contains_iff_mem.mpr hthere)

theorem apply_dropTable (hthere : t ∈ db.built.map (·.table)) :
    db.apply (.dropTable t) = .ok { db with built := db.built.filter fun d => d.table ≠ t } :=
  if_pos hthere

theorem mem_names : n ∈ db.names ↔ n ∈ db.built.flatMap Description.names := by
  simp only [names, indexNames, Description.names, List.mem_append, List.mem_map, List.mem_flatMap,
    List.mem_cons]
  grind

/-- The indexes of a table are added one by one to those that it has. -/
theorem execute_createIndexes
    (hnames : ((before ++ [{ d with indexes := done ++ is }]).flatMap Description.names).Nodup) :
    ({ db with built := before ++ [{ d with indexes := done }] } : Database).execute
        (is.map (.createIndex d.table) ++ rest) =
      ({ db with built := before ++ [{ d with indexes := done ++ is }] } : Database).execute
        rest := by
  induction is generalizing done with
  | nil => simp
  | cons i is ih =>
    have htable : d.table ∉ before.map (·.table) := Description.table_notMem (by
      simp only [List.flatMap_append, List.nodup_append] at hnames
      exact fun h => hnames.2.2 _ h _ (by simp [Description.names]) rfl)
    have hfree : i.name ∉
        (before ++ [{ d with indexes := done }]).flatMap Description.names := by
      simp [Description.names, List.nodup_append, List.nodup_cons] at hnames ⊢
      grind
    have happly : ({ db with built := before ++ [{ d with indexes := done }] } : Database).apply
        (.createIndex d.table i) =
          .ok { db with built := before ++ [{ d with indexes := done ++ [i] }] } := by
      simp only [apply, List.contains_iff_mem, mem_names, hfree, false_or]
      rw [if_neg (by simp), List.map_append, Description.map_update_of_notMem htable]
      simp
    rw [List.map_cons, List.cons_append, execute_cons happly, ih (by simpa using hnames),
      List.append_assoc, List.singleton_append]

/-- A table is created, and then its indexes. -/
theorem execute_createTable
    (hnames : ((before ++ [d]).flatMap Description.names).Nodup) :
    ({ db with built := before } : Database).execute (Statement.create d ++ rest) =
      ({ db with built := before ++ [d] } : Database).execute rest := by
  have hfree : d.table.name ∉ before.flatMap Description.names := by
    simp only [List.flatMap_append, List.nodup_append] at hnames
    exact fun h => hnames.2.2 _ h _ (by simp [Description.names]) rfl
  have happly : ({ db with built := before } : Database).apply (.createTable d) =
      .ok { db with built := before ++ [{ d with indexes := [] }] } := by
    simp only [apply, List.contains_iff_mem, mem_names, if_neg hfree]
  rw [Statement.create, List.cons_append, execute_cons happly,
    execute_createIndexes (by simpa using hnames), List.nil_append]

/-- Tables that have no name in common with one another or with what is there are all created. -/
theorem execute_create (db : Database) (before : List Description)
    (hnames : ((before ++ ds).flatMap Description.names).Nodup) :
    ({ db with built := before } : Database).execute (ds.flatMap Statement.create ++ rest) =
      ({ db with built := before ++ ds } : Database).execute rest := by
  -- each table joins those that are there before the next one is created
  induction ds generalizing before with
  | nil => simp
  | cons d ds ih =>
    have hfirst : ((before ++ [d]).flatMap Description.names).Nodup := by
      rw [List.append_cons, List.flatMap_append] at hnames
      exact hnames.sublist (List.sublist_append_left _ _)
    rw [List.flatMap_cons, List.append_assoc, execute_createTable hfirst,
      ih _ (by simpa using hnames), List.append_assoc, List.singleton_append]

/-- The indexes of a table are dropped one by one. -/
theorem execute_dropIndexes
    (hnames : ((before ++ { d with indexes := is } :: after).flatMap Description.names).Nodup) :
    ({ db with built := before ++ { d with indexes := is } :: after } : Database).execute
        (is.map (fun i => .dropIndex i.name) ++ rest) =
      ({ db with built := before ++ d.bare :: after } : Database).execute rest := by
  induction is with
  | nil => rfl
  | cons i is ih =>
    -- the other names are those of the tables without the index
    have hothers : (i.name :: (before ++ { d with indexes := is } :: after).flatMap
        Description.names).Nodup := by
      refine hnames.perm ?_
      simp only [List.flatMap_append, List.flatMap_cons, Description.names, List.map_cons]
      grind
    obtain ⟨hfree, hrest⟩ := List.nodup_cons.mp hothers
    have hthere : i.name ∈ ({ db with
        built := before ++ { d with indexes := i :: is } :: after } : Database).indexNames := by
      simp [indexNames]
    rw [List.map_cons, List.cons_append, execute_cons (apply_dropIndex hthere), ← ih hrest,
      ← Description.map_filter_of_notMem hfree]
    simp

/-- The indexes of all tables are dropped, and the tables stay. -/
theorem execute_dropAllIndexes
    (hnames : ((before ++ ds).flatMap Description.names).Nodup) :
    ({ db with built := before ++ ds } : Database).execute
        (ds.flatMap (fun d => d.indexes.map fun i => Statement.dropIndex i.name) ++ rest) =
      ({ db with built := before ++ ds.map Description.bare } : Database).execute rest := by
  induction ds generalizing before with
  | nil => simp
  | cons d ds ih =>
    have hbare : ((before ++ [d.bare] ++ ds).flatMap Description.names).Nodup := by
      refine hnames.sublist ?_
      simp [Description.names, Description.bare]
    rw [List.flatMap_cons, List.append_assoc, execute_dropIndexes hnames, List.append_cons,
      ih hbare, List.append_assoc, List.map_cons, List.singleton_append]

/-- Tables are dropped, the last one first. -/
theorem execute_dropTables (htables : ((before ++ ds).map (·.table)).Nodup) :
    ({ db with built := before ++ ds } : Database).execute
        (ds.reverse.map (fun d => Statement.dropTable d.table) ++ rest) =
      ({ db with built := before } : Database).execute rest := by
  -- the first table is dropped when all others are gone, so the statements after it are general
  induction ds generalizing before rest with
  | nil => simp
  | cons d ds ih =>
    rw [List.append_cons] at htables ⊢
    have hbefore : ((before ++ [d]).map (·.table)).Nodup := by
      rw [List.map_append] at htables
      exact htables.sublist (List.sublist_append_left _ _)
    have hothers : ∀ e ∈ before, e.table ≠ d.table := by
      rw [List.map_append, List.nodup_append] at hbefore
      exact fun e he => hbefore.2.2 _ (List.mem_map_of_mem he) _ (by simp)
    have hkept : (before ++ [d]).filter (fun e => e.table ≠ d.table) = before := by
      rw [List.filter_append, List.filter_eq_self.mpr (by simpa using hothers)]
      simp
    rw [List.reverse_cons, List.map_append, List.append_assoc (ds.reverse.map _), ih htables,
      List.map_singleton, List.singleton_append, execute_cons (apply_dropTable (by simp)), hkept]

/-- Tables without a name in common are dropped with their indexes. -/
theorem execute_drop (db : Database) (before : List Description)
    (hnames : ((before ++ ds).flatMap Description.names).Nodup) :
    ({ db with built := before ++ ds } : Database).execute
        (ds.flatMap (fun d => d.indexes.map fun i => Statement.dropIndex i.name) ++
          (ds.reverse.map (fun d => Statement.dropTable d.table) ++ rest)) =
      ({ db with built := before } : Database).execute rest := by
  have htables : ((before ++ ds.map Description.bare).map (·.table)).Nodup := by
    have hnodup := (hnames.sublist (Description.tableNames_sublist _)).of_map _
    simpa [Description.bare, Function.comp_def] using hnodup
  rw [execute_dropAllIndexes hnames, ← execute_dropTables htables, ← List.map_reverse,
    List.map_map]
  rfl

end Database

/-! ### Points -/

/-- The tables of the registry with their columns (name, type, whether it may be empty, default),
uniqueness constraints, references and indexes. They are written out here, so that nothing which
creates or drops a table has a part in what the tables are to be. -/
def complete : List Description :=
  [{ table := .projects
     columns :=
       [⟨"id", .integer, false, none⟩,
         ⟨"name", .varchar 200, false, none⟩,
         ⟨"description", .text, true, none⟩,
         ⟨"created_at", .datetime, false, some "CURRENT_TIMESTAMP"⟩,
         ⟨"updated_at", .datetime, false, some "CURRENT_TIMESTAMP"⟩]
     unique := [⟨none, ["name"]⟩]
     references := []
     indexes := [] },
    { table := .versions
      columns :=
        [⟨"id", .integer, false, none⟩,
          ⟨"catalog_id", .varchar 100, false, none⟩,
          ⟨"project_id", .integer, false, none⟩,
          ⟨"version", .varchar 100, true, none⟩,
          ⟨"created_at", .datetime, false, some "CURRENT_TIMESTAMP"⟩]
      unique := [⟨none, ["catalog_id"]⟩]
      references := [⟨"project_id", .projects, true⟩]
      indexes := [] },
    { table := .types
      columns :=
        [⟨"id", .integer, false, none⟩,
          ⟨"name", .varchar 50, false, none⟩,
          ⟨"description", .text, true, none⟩]
      unique := [⟨none, ["name"]⟩]
      references := []
      indexes := [] },
    { table := .regulations
      columns :=
        [⟨"id", .integer, false, none⟩,
          ⟨"name", .varchar 200, false, none⟩,
          ⟨"display_name", .varchar 300, true, none⟩,
          ⟨"description", .text, true, none⟩,
          ⟨"config", .varchar 500, true, none⟩,
          ⟨"order", .integer, false, some "'0'"⟩,
          ⟨"type_id", .integer, false, none⟩,
          ⟨"project_id", .integer, false, none⟩,
          ⟨"created_at", .datetime, false, some "CURRENT_TIMESTAMP"⟩,
          ⟨"updated_at", .datetime, false, some "CURRENT_TIMESTAMP"⟩]
      unique := [⟨some "uq_regulation_project_name", ["project_id", "name"]⟩]
      references := [⟨"type_id", .types, false⟩, ⟨"project_id", .projects, true⟩]
      indexes := [] },
    { table := .statuses
      columns :=
        [⟨"id", .integer, false, none⟩,
          ⟨"regulation_id", .integer, false, none⟩,
          ⟨"version_id", .integer, false, none⟩,
          ⟨"value", .text, true, none⟩,
          ⟨"report_details", .json, true, none⟩,
          ⟨"is_compliant", .boolean, true, none⟩,
          ⟨"created_at", .datetime, false, some "CURRENT_TIMESTAMP"⟩,
          ⟨"updated_at", .datetime, false, some "CURRENT_TIMESTAMP"⟩]
      unique := [⟨some "regulation_version_unique_constraint", ["regulation_id", "version_id"]⟩]
      references := [⟨"regulation_id", .regulations, true⟩, ⟨"version_id", .versions, true⟩]
      indexes := [] },
    { table := .audit
      columns :=
        [⟨"id", .integer, false, none⟩,
          ⟨"user_id", .integer, true, none⟩,
          ⟨"module", .varchar 50, false, none⟩,
          ⟨"action", .choice 6, false, none⟩,
          ⟨"entity_type", .varchar 50, false, none⟩,
          ⟨"entity_id", .integer, false, none⟩,
          ⟨"field_name", .varchar 100, true, none⟩,
          ⟨"old_value", .text, true, none⟩,
          ⟨"new_value", .text, true, none⟩,
          ⟨"ip_address", .varchar 45, true, none⟩,
          ⟨"created_at", .datetime, false, some "CURRENT_TIMESTAMP"⟩]
      unique := []
      references := []
      indexes := [⟨"idx_audit_log_entity", ["entity_type", "entity_id"]⟩] }]

/-- No two things in the registry share a name. -/
theorem nodup_complete : (complete.flatMap Description.names).Nodup := by decide

/-- The revision creates what it is to create. -/
theorem creation_eq : creation = complete.flatMap Statement.create := by decide

/-- The other list takes the same away, the indexes first and the tables in reverse. -/
theorem removal_eq : removal =
    complete.flatMap (fun d => d.indexes.map fun i => Statement.dropIndex i.name) ++
      complete.reverse.map fun d => Statement.dropTable d.table := by
  decide

namespace Point

/-- The revisions in the version table at a point. -/
def revisions : Point → List Text
  | .base => []
  | .head => [revision]

/-- The tables at a point. -/
def tables : Point → List Description
  | .base => []
  | .head => complete

/-- The database that is wholly at a point. -/
def database (p : Point) : Database := ⟨some p.revisions, p.tables⟩

@[simp] theorem point_database (p : Point) : p.database.point = p := by
  cases p <;> decide

/-- The statements of a move lead from the database at the one point to that at the other. -/
theorem execute_moves (p q : Point) :
    p.database.execute (moves creation removal p q) = (none, q.database) := by
  cases p <;> cases q
  · rfl
  · rw [moves, creation_eq]
    exact base.database.execute_create [] nodup_complete
  · rw [moves, removal_eq, List.append_assoc]
    exact head.database.execute_drop [] nodup_complete
  · rfl

end Point

namespace Database

variable {db : Database}

/-- The version table holds the revision and all tables are there as they are described, or it
holds none and no table is there. -/
def IsWhole (db : Database) : Prop :=
  (db.revisions = [revision] ∧ db.built = complete) ∨ (db.revisions = [] ∧ db.built = [])

instance : DecidablePred IsWhole := fun _ => inferInstanceAs (Decidable (_ ∨ _))

/-- The databases have the same revisions in the version table, and the same tables. One may lack
an empty version table that the other has. -/
def Agrees (db other : Database) : Prop := other.revisions = db.revisions ∧ other.built = db.built

instance : Decidable (Agrees db other) := inferInstanceAs (Decidable (_ ∧ _))

theorem Agrees.refl (db : Database) : Agrees db db := ⟨rfl, rfl⟩

theorem agrees_withLedger (db : Database) : Agrees db db.withLedger := ⟨rfl, rfl⟩

theorem IsWhole.of_agrees {other : Database} (hdb : db.IsWhole) (hother : Agrees db other) :
    other.IsWhole := by
  unfold IsWhole
  rwa [hother.1, hother.2]

theorem isWhole_fresh : fresh.IsWhole := .inr ⟨rfl, rfl⟩

theorem isWhole_database (p : Point) : p.database.IsWhole := by
  cases p
  · exact .inr ⟨rfl, rfl⟩
  · exact .inl ⟨rfl, rfl⟩

@[simp] theorem point_withLedger (db : Database) : db.withLedger.point = db.point := rfl

/-- With a version table, a whole database is that of its point. -/
theorem IsWhole.withLedger_eq (hdb : db.IsWhole) : db.withLedger = db.point.database := by
  obtain ⟨ledger, built⟩ := db
  obtain ⟨hrevisions, hbuilt⟩ | ⟨hrevisions, hbuilt⟩ := hdb
  all_goals
    change ledger.getD [] = _ at hrevisions
    simp [withLedger, point, revisions, hrevisions, Point.database, Point.revisions, Point.tables]
    exact hbuilt

end Database

/-! ### Commands -/

variable {db : Database} {c : Command} {p q : Point} {aim : Text} {refusal : Refusal}

/-- The command tells the version table alone where the database stands. -/
def Command.isStamp : Command → Bool
  | .stamp _ => true
  | _ => false

/-- A move is carried out to its end. -/
theorem run_of_plan (hdb : db.IsWhole) (hrange : c.namesRange = false) (hc : c ≠ .current)
    (hplan : plan db.point c = .ok (moves creation removal db.point q)) :
    run db c = (none, q.database) := by
  simp only [run, hrange, hc, if_false, Bool.false_eq_true, hdb.withLedger_eq,
    Point.point_database, hplan, Point.execute_moves]

/-- Where no way leads, nothing but an empty version table comes into being. -/
theorem run_of_refusal (hrange : c.namesRange = false)
    (hplan : plan db.point c = .error refusal) :
    ∃ refusal other, run db c = (some refusal, other) ∧ db.Agrees other := by
  have hc : c ≠ .current := by
    rintro rfl
    simp [plan] at hplan
  exact ⟨refusal, db.withLedger, by simp [run, hrange, hc, hplan], db.agrees_withLedger⟩

/-- A command is refused and changes neither the revisions nor the tables, or it asks for the
current revision, or it leads to a point. -/
theorem run_cases (hdb : db.IsWhole) (hc : ¬c.isStamp) :
    (∃ refusal other, run db c = (some refusal, other) ∧ db.Agrees other) ∨
      run db c = (none, db) ∨ ∃ q : Point, run db c = (none, q.database) := by
  cases hrange : c.namesRange with
  | true => exact .inl ⟨.rangeRefused, db, by simp [run, hrange], .refl db⟩
  | false =>
    cases c with
    | upgrade aim =>
      cases haim : upgradeAim db.point aim with
      | error refusal => exact .inl (run_of_refusal hrange (by rw [plan, haim]; rfl))
      | ok q => exact .inr (.inr ⟨q, run_of_plan hdb hrange (by simp) (by rw [plan, haim]; rfl)⟩)
    | downgrade aim =>
      cases haim : downgradeAim db.point aim with
      | error refusal => exact .inl (run_of_refusal hrange (by rw [plan, haim]; rfl))
      | ok q => exact .inr (.inr ⟨q, run_of_plan hdb hrange (by simp) (by rw [plan, haim]; rfl)⟩)
    | stamp aim => exact absurd rfl hc
    | current => exact .inr (.inl rfl)

/-- The way up is open from every whole database. -/
theorem run_upgrade_head (hdb : db.IsWhole) :
    run db (.upgrade "head") = (none, Point.head.database) := by
  have haim : ∀ p : Point, upgradeAim p "head" = .ok .head := by
    intro p
    cases p <;> decide
  exact run_of_plan hdb (by decide) (by simp) (by rw [plan, haim]; rfl)

/-- So is the way down. -/
theorem run_downgrade_base (hdb : db.IsWhole) :
    run db (.downgrade "base") = (none, Point.base.database) := by
  have haim : ∀ p : Point, downgradeAim p "base" = .ok .base := by
    intro p
    cases p <;> decide
  exact run_of_plan hdb (by decide) (by simp) (by rw [plan, haim]; rfl)

/-! ### Orders -/

namespace Order

/-- The order is to carry out a stamp. -/
def IsStamp (o : Order) : Prop := o.command.isStamp ∧ ¬o.scripted

instance : DecidablePred IsStamp := fun _ => inferInstanceAs (Decidable (_ ∧ _))

/-- The order to bring the database to the last revision. -/
def ascend : Order := ⟨.upgrade "head", false⟩

/-- The order to undo all revisions. -/
def descend : Order := ⟨.downgrade "base", false⟩

end Order

namespace Database

variable {o : Order} {orders : List Order}

@[simp] theorem follow_scripted (ho : o.scripted) : (db.follow o).2 = db := by
  simp only [follow, ho, if_true]
  split <;> rfl

/-- An order that is not a stamp keeps a database whole, and changes nothing when it is refused. -/
theorem follow_whole (hdb : db.IsWhole) (ho : ¬o.IsStamp) :
    (db.follow o).2.IsWhole ∧
      ∀ refusal, (db.follow o).1 = .refused refusal → db.Agrees (db.follow o).2 := by
  obtain ⟨c, scripted⟩ := o
  cases scripted with
  | true => simp [hdb, Agrees.refl]
  | false =>
    have hc : ¬c.isStamp := fun h => ho ⟨h, Bool.false_ne_true⟩
    obtain ⟨refusal, other, hrefused, hother⟩ | hdone | ⟨q, hdone⟩ := run_cases hdb hc
    · simp [follow, hrefused, hother, hdb.of_agrees hother]
    · simp [follow, hdone, hdb]
    · simp [follow, hdone, isWhole_database]

/-- Any number of orders that are not stamps keep a database whole. -/
theorem followAll_whole (hdb : db.IsWhole) (horders : ∀ o ∈ orders, ¬o.IsStamp) :
    (db.followAll orders).2.IsWhole := by
  induction orders generalizing db with
  | nil => exact hdb
  | cons o orders ih =>
    rw [List.forall_mem_cons] at horders
    exact ih (follow_whole hdb horders.1).1 horders.2

/-- Orders that are only written out can be left out. -/
theorem followAll_filter :
    (db.followAll (orders.filter fun o => !o.scripted)).2 = (db.followAll orders).2 := by
  induction orders generalizing db with
  | nil => rfl
  | cons o orders ih =>
    cases ho : o.scripted with
    | true =>
      rw [List.filter_cons_of_neg (by simp [ho]), ih]
      simp [followAll, ho]
    | false =>
      rw [List.filter_cons_of_pos (by simp [ho])]
      exact ih

theorem follow_ascend (hdb : db.IsWhole) : db.follow .ascend = (.done, Point.head.database) := by
  simp [follow, Order.ascend, run_upgrade_head hdb]

theorem follow_descend (hdb : db.IsWhole) : db.follow .descend = (.done, Point.base.database) := by
  simp [follow, Order.descend, run_downgrade_base hdb]

end Database

/-- After any orders on a new database, none of which carries out a stamp, the tables are all there
with their revision or all missing without it. One more order keeps this: if it is refused, the
revisions and tables stay as they are, and if it is only written out nothing changes. Nor would
anything be different without the orders that were only written out. From there the way up, the way
down and the way up again are open, and the way down leads to a database without tables. -/
theorem orders_keep_whole (orders : List Order) (o : Order) (horders : ∀ x ∈ orders, ¬x.IsStamp)
    (ho : ¬o.IsStamp) :
    let db := (Database.fresh.followAll orders).2
    db.IsWhole ∧ (db.follow o).2.IsWhole ∧
      (∀ refusal, (db.follow o).1 = .refused refusal → db.Agrees (db.follow o).2) ∧
      (o.scripted → (db.follow o).2 = db) ∧
      (Database.fresh.followAll (orders.filter fun x => !x.scripted)).2 = db ∧
      db.followAll [.ascend, .descend] = ([.done, .done], Point.base.database) ∧
      db.followAll [.ascend, .descend, .ascend] =
        ([.done, .done, .done], Point.head.database) := by
  intro db
  have hdb : db.IsWhole := Database.followAll_whole Database.isWhole_fresh horders
  obtain ⟨hnext, hrefused⟩ := Database.follow_whole hdb ho
  have hhead := Database.isWhole_database .head
  have hbase := Database.isWhole_database .base
  refine ⟨hdb, hnext, hrefused, Database.follow_scripted, Database.followAll_filter, ?_, ?_⟩
  · simp [Database.followAll, Database.follow_ascend hdb, Database.follow_descend hhead]
  · simp [Database.followAll, Database.follow_ascend hdb, Database.follow_descend hhead,
      Database.follow_ascend hbase]

/-- An order up, a script and a refused order down, and then one more order. -/
theorem orders_keep_whole_up_and_down :
    let orders : List Order :=
      [.ascend, ⟨.stamp "head", true⟩, ⟨.downgrade "-2", false⟩, ⟨.downgrade "-1", false⟩]
    let db := (Database.fresh.followAll orders).2
    db.IsWhole ∧ (db.follow ⟨.upgrade "001", false⟩).2.IsWhole :=
  have h := orders_keep_whole
    [.ascend, ⟨.stamp "head", true⟩, ⟨.downgrade "-2", false⟩, ⟨.downgrade "-1", false⟩]
    ⟨.upgrade "001", false⟩ (by decide) (by decide)
  ⟨h.1, h.2.1⟩

/-- A stamp that is carried out breaks it. -/
example : ¬(Database.fresh.follow ⟨.stamp "head", false⟩).2.IsWhole := by decide

end Migration

end ComplianceRegistry
