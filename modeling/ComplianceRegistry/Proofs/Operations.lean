import ComplianceRegistry.Proofs.Soundness
import ComplianceRegistry.Registry.Operation

/-!
# What operations come to

An operation on a sound store either fails and leaves no trace, or it is one of a few things: a
read, a write to a regulation, a write to a status, a growth of the catalog or a remark in the
trail. Whatever is to be shown of all operations is shown of these.

## Main definitions

* `Operation.Outcome` — what an operation comes to when it is carried out

## Main results

* `Operation.run_leads` — every operation comes to that or leaves no trace
* `Operation.Outcome.sound` — operations keep what the registry keeps
-/

namespace ComplianceRegistry

open Work

variable {ctx : Context} {s after : Store} {op : Operation} {answer : Answer}
variable {announcements : List Announcement}

/-! ### Seeding the catalog -/

namespace Catalog

/-- Nothing was missing from the catalog, or what was missing was added. -/
inductive Seeded (recorded : Bool) (ctx : Context) (s : Store) : Store → Prop
  | complete (hnone : missing s = []) : Seeded recorded ctx s s
  | grown {grown : Store} (hadd : addTypes s (missing s) = .ok grown) :
      Seeded recorded ctx s (Trail.logged ctx (creationNotes recorded (newIds s grown)) grown)

variable {recorded : Bool}

theorem seed_leads : (seed recorded ctx).Leads (.start s) fun _ τ =>
    Seeded recorded ctx s τ.committed ∧ τ.announced = [] := by
  refine Leads.query_bind fun before hbefore => ?_
  obtain rfl : s = before := Except.ok.inj hbefore
  dsimp only
  split
  · refine Leads.write_bind fun grown hadd => Leads.write_bind fun after hrecord =>
      Yields.leads (Yields.bind (Yields.of_commit (Yields.of_pure ?_)))
    obtain rfl := Trail.record_eq_ok hrecord
    exact ⟨.grown hadd, rfl⟩
  · next hempty => exact Leads.of_pure ⟨.complete (by simpa using hempty), rfl⟩

theorem sound_of_addTypes {kinds : List Kind} (hs : s.Sound) (h : addTypes s kinds = .ok after) :
    after.Sound := by
  induction kinds generalizing s with
  | nil => exact Except.ok.inj h ▸ hs
  | cons k kinds ih =>
    obtain ⟨grown, hinsert, h⟩ := bind_eq_ok.1 h
    exact ih (hs.insert_type hinsert) h

/-- Types that are added change no other table. -/
theorem eq_of_addTypes {kinds : List Kind} (h : addTypes s kinds = .ok after) :
    after = { s with types := after.types } := by
  induction kinds generalizing s with
  | nil => exact Except.ok.inj h ▸ rfl
  | cons k kinds ih =>
    obtain ⟨grown, hinsert, h⟩ := bind_eq_ok.1 h
    obtain ⟨-, -, -, rfl⟩ := Store.insert_eq_ok hinsert
    -- the rest starts from a store that differs in its types alone
    have hrest := ih h
    exact hrest

theorem Seeded.regulations_eq (h : Seeded recorded ctx s after) :
    after.regulations = s.regulations := by
  cases h with
  | complete hnone => rfl
  | grown hadd => rw [Trail.logged_regulations, eq_of_addTypes hadd]

theorem Seeded.statuses_eq (h : Seeded recorded ctx s after) : after.statuses = s.statuses := by
  cases h with
  | complete hnone => rfl
  | grown hadd => rw [Trail.logged_statuses, eq_of_addTypes hadd]

theorem Seeded.sound (hs : s.Sound) (h : Seeded recorded ctx s after) : after.Sound := by
  cases h with
  | complete hnone => exact hs
  | grown hadd => exact (sound_of_addTypes hs hadd).logged

end Catalog

/-- A remark that the trail takes becomes its notes there. -/
theorem Remark.record_eq_ok {remark : Remark} (h : remark.record ctx s = .ok after) :
    ∃ notes, remark.notes? = some notes ∧ after = Trail.logged ctx notes s := by
  obtain ⟨_, -, h⟩ := bind_eq_ok.1 h
  split at h
  · next notes hnotes => exact ⟨notes, hnotes, Trail.record_eq_ok h⟩
  · simp at h

namespace Operation

/-! ### Outcomes -/

/-- The operation asks and writes nothing. -/
def IsRead : Operation → Prop
  | .listTypes | .findType _ | .listRegulations _ | .getRegulation .. | .listStatuses ..
  | .getStatus .. | .evaluate .. | .browseTrail _ => True
  | _ => False

/-- The fields that an operation writes to the status of a regulation and a version. -/
inductive Writes (s : Store) (r : Regulation) (project regulation : Int) (catalogId : Text) :
    Operation → StatusWrite → Prop
  | value {value : Option Text} {details : Document} :
      Writes s r project regulation catalogId
        (.setValue project regulation catalogId value details) (.value value details)
  | compliance {compliant : Option Bool} :
      Writes s r project regulation catalogId
        (.setCompliance project regulation catalogId compliant) (.compliance compliant)
  | report {value : Option Text} {details : Document} {compliant : Bool}
      (hverdict : Statuses.verdictOn s r value = .ok compliant) :
      Writes s r project regulation catalogId
        (.report project regulation catalogId value details) (.report value details compliant)

/-- What an operation comes to when it is carried out: its answer, the store after it and what it
announces. -/
inductive Outcome (ctx : Context) (s : Store) :
    Operation → Answer → Store → List Announcement → Prop
  | seeded {recorded : Bool} {names : List Text} {after : Store}
      (h : Catalog.Seeded recorded ctx s after) :
      Outcome ctx s (.seedTypes recorded) (.names names) after []
  | read {op : Operation} {answer : Answer} (h : op.IsRead) : Outcome ctx s op answer s []
  | created {project : Int} {draft : Draft} {view : RegulationView} {after : Store}
      (h : Regulations.Created ctx s project draft view after) :
      Outcome ctx s (.createRegulation project draft) (.regulation view) after
        [Regulations.announcement ctx .created view.regulation]
  | updated {project : Int} {address : Address} {patch : Patch} {before : Regulation}
      {view : RegulationView} {after : Store}
      (h : Regulations.Updated ctx s project address patch before view after) :
      Outcome ctx s (.updateRegulation project address patch) (.regulation view) after
        [Regulations.announcement ctx .updated view.regulation]
  | deleted {project : Int} {address : Address} {view : RegulationView} {after : Store}
      (h : Regulations.Deleted ctx s project address view after) :
      Outcome ctx s (.deleteRegulation project address) (.regulation view) after
        [Regulations.announcement ctx .deleted view.regulation]
  | upserted {op : Operation} {project regulation : Int} {catalogId : Text} {r : Regulation}
      {v : Version} {w : StatusWrite} {view : StatusView} {after : Store}
      (hpair : Statuses.Pair s project regulation catalogId r v)
      (hwrites : op.Writes s r project regulation catalogId w)
      (h : Statuses.Upserted ctx s r v w view.status after) :
      Outcome ctx s op (.status view) after []
  | statusDeleted {project regulation : Int} {catalogId : Text} {r : Regulation} {v : Version}
      {st : Status} {after : Store}
      (hpair : Statuses.Pair s project regulation catalogId r v)
      (h : Statuses.Deleted ctx s r v st after) :
      Outcome ctx s (.deleteStatus project regulation catalogId) .nothing after []
  | remarked {notes : List Trail.Note} {remark : Remark} (h : remark.notes? = some notes) :
      Outcome ctx s (.remark remark) .nothing (Trail.logged ctx notes s) []

/-- Every operation comes to one of these or leaves no trace. -/
theorem run_leads (hs : s.Consistent) (op : Operation) :
    (op.run ctx).Leads (.start s) fun answer τ =>
      Outcome ctx s op answer τ.committed τ.announced := by
  cases op with
  | seedTypes => exact Leads.map (Catalog.seed_leads.mono fun _ _ ⟨h, hnone⟩ => hnone ▸ .seeded h)
  | createRegulation project draft =>
    exact Leads.map (Regulations.create_leads.mono fun _ _ ⟨h, ha⟩ => ha ▸ .created h)
  | updateRegulation project address patch =>
    exact Leads.map ((Regulations.update_leads hs).mono fun _ _ ⟨⟨_, h⟩, ha⟩ => ha ▸ .updated h)
  | deleteRegulation project address =>
    exact Leads.map (Regulations.delete_leads.mono fun _ _ ⟨h, ha⟩ => ha ▸ .deleted h)
  | setValue project regulation catalogId value details =>
    exact Leads.map ((Statuses.setValue_leads hs).mono fun _ _ ⟨⟨_, _, hpair, h⟩, _, ha⟩ =>
      ha ▸ .upserted hpair .value h)
  | setCompliance project regulation catalogId compliant =>
    exact Leads.map ((Statuses.setCompliance_leads hs).mono fun _ _ ⟨⟨_, _, hpair, h⟩, _, ha⟩ =>
      ha ▸ .upserted hpair .compliance h)
  | report project regulation catalogId value details =>
    exact Leads.map ((Statuses.report_leads hs).mono
      fun _ _ ⟨⟨_, _, _, hpair, hverdict, h⟩, _, ha⟩ =>
        ha ▸ .upserted hpair (.report hverdict) h)
  | deleteStatus project regulation catalogId =>
    exact Leads.map (Statuses.delete_leads.mono fun _ _ ⟨⟨_, _, _, hpair, h⟩, ha⟩ =>
      ha ▸ .statusDeleted hpair h)
  | remark remark =>
    refine Leads.write_bind fun after hrecord =>
      Yields.leads (Yields.bind (Yields.of_commit (Yields.of_pure ?_)))
    obtain ⟨notes, hnotes, rfl⟩ := Remark.record_eq_ok hrecord
    exact .remarked hnotes
  -- all others only ask
  | _ => exact Leads.map (Leads.of_query fun _ _ => .read trivial)

/-- What an operation that is carried out comes to. -/
theorem outcome_of_perform (hs : s.Consistent) (h : ((op.run ctx).perform s).answer = .ok answer) :
    Outcome ctx s op answer ((op.run ctx).perform s).store
      ((op.run ctx).perform s).announcements := by
  obtain ⟨τ, houtcome, hstore, hannounced⟩ := (run_leads hs op).perform_ok h
  rw [hstore, hannounced]
  exact houtcome

/-- Operations keep what the registry keeps. -/
theorem Outcome.sound (hs : s.Sound) (h : Outcome ctx s op answer after announcements) :
    after.Sound := by
  cases h with
  | seeded h => exact h.sound hs
  | read => exact hs
  | created h => exact hs.created h
  | updated h => exact hs.updated h
  | deleted h => exact hs.deleted h
  | upserted hpair hwrites h => exact hs.upserted hpair h
  | statusDeleted hpair h => exact hs.statusDeleted h
  | remarked h => exact hs.logged

end Operation

end ComplianceRegistry
