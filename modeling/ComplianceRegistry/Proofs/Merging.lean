import ComplianceRegistry.Proofs.Bounds

/-!
# What the body of an update comes to

A body may leave a key out, give null for it, or give a value. Null leaves the name, the type and
the order of a regulation as they are, and clears the other columns. What the body asks for is
checked in a fixed order: that there is the type, that the name is free, and that the config suits
the type. Only a name that another writer takes after the check is refused after the config. If all
is well the columns of the body take the place of those of the regulation, and the time of its last
update moves when any of them differs.

## Main definitions

* `Merge.leaving`, `Merge.clearing` — a column under a body, for the two meanings of null
* `Merge.row` — the regulation as a body asks for it
* `Merge.refusal?` — the refusal that is told of the name and the config
* `Merge.outcome` — what comes of an update, told from the body and the store

## Main results

* `Body.patch_eq` — what a valid body asks for
* `Regulations.update_of_outcome_error`, `Regulations.perform_update_of_outcome_ok` — an update
  comes to what is told of it
* `World.updates_merge` — so it does after every run
-/

namespace ComplianceRegistry

/-! ### Columns under a body -/

/-- The text, if the document is one. -/
def Document.text? : Document → Option Text
  | .text t => some t
  | _ => none

/-- The integer that the document can be read as. -/
def Document.integer? (d : Document) : Option Int := (Validation.integer d).toOption

namespace Merge

variable (body : Document)

/-- A column that null and a missing key leave as it is. -/
def leaving {α : Type} (key : Text) (read : Document → Option α) (old : α) : α :=
  ((body.member? key).bind read).getD old

/-- A column that null clears and that a missing key leaves as it is. -/
def clearing (key : Text) (old : Option Text) : Option Text :=
  ((body.member? key).map Document.text?).getD old

variable (r : Regulation)

/-- The name that the regulation is to have. -/
def name : Text := leaving body "name" Document.text? r.name

/-- The type that the regulation is to have. -/
def typeId : Int := leaving body "type_id" Document.integer? r.typeId

/-- The config that the regulation is to have, before it is seen with the type. -/
def config : Option Text := clearing body "config" r.config

/-- The place in listings that the regulation is to have. -/
def order : Int := leaving body "order" Document.integer? r.order

/-- The regulation as the body asks for it, with the type that it is to have. -/
def row (type : RegulationType) : Regulation :=
  { r with
    name := name body r
    displayName := clearing body "display_name" r.displayName
    description := clearing body "description" r.description
    config := if type.name = Kind.boolean.name then none else config body r
    order := order body r
    typeId := type.id }

/-- The regulation as it is stored: it keeps the time of its last update when no column changes. -/
def stamped (clock : Instant) (type : RegulationType) : Regulation :=
  if row body r type = r then r else { row body r type with updatedAt := clock }

instance {s : Store} {project : Int} {t : Text} {id : Int} : Decidable (s.IsTaken project t id) :=
  inferInstanceAs (Decidable (∃ g ∈ s.regulations, _))

/-- The kind of a type whose configs are numbers. -/
def numeric? (type : RegulationType) : Option Kind :=
  (Kind.ofName? type.name).filter (· ≠ .boolean)

/-- The name is refused when another regulation of the project has it. -/
def nameRefusal? (s : Store) (project : Int) : Option Fault :=
  if s.IsTaken project (name body r) r.id then some (.nameTaken (name body r) project) else none

/-- The config is refused when it has to be a number and is none. -/
def configRefusal? (type : RegulationType) : Option Fault :=
  match numeric? type, Verdict.readOptional (config body r) with
  | some kind, .notNumber => some (.configNotNumber kind)
  | _, _ => none

/-- The refusal that is told: that of the name comes first, unless another writer takes the name
only after the check. -/
def refusal? (s : Store) (ctx : Context) (project : Int) (type : RegulationType) : Option Fault :=
  if ctx.contended then (configRefusal? body r type).or (nameRefusal? body r s project)
  else (nameRefusal? body r s project).or (configRefusal? body r type)

/-- What comes of an update of the regulation: the first check that fails, or the regulation as it
is then. -/
def outcome (s : Store) (ctx : Context) (project : Int) : Except Fault RegulationView :=
  match s.type? (typeId body r) with
  | none => .error (.notFound (.regulationType (typeId body r)))
  | some type =>
    match refusal? body r s ctx project type with
    | some f => .error f
    | none => .ok ⟨stamped body r ctx.clock type, type⟩

variable {body r} in
/-- Nothing is refused when the name is free and the config suits the type. -/
theorem refusal?_eq_none {s : Store} {ctx : Context} {project : Int} {type : RegulationType} :
    refusal? body r s ctx project type = none ↔
      ¬ s.IsTaken project (name body r) r.id ∧ configRefusal? body r type = none := by
  unfold refusal? nameRefusal?
  cases ctx.contended <;> simp [and_comm]

end Merge

/-! ### What a valid body asks for -/

namespace Validation

variable {α : Type} {base : List Place} {body d : Document} {key t : Text}
variable {read : Document → Except Complaint α} {told : Document → Option α} {form : TextForm}

/-- A text that passes is left as it is, and has bytes if it was measured. -/
theorem text_eq_ok (h : text form d = .ok t) : d = .text t ∧ (form ≠ anyText → t.Encodable) := by
  cases d with
  | text u =>
    simp only [text] at h
    split at h
    · next hany => exact ⟨congrArg _ (Except.ok.inj h), fun hform => absurd hany hform⟩
    · split at h
      · cases h
      · next hencodable =>
        have hsame : u = t := by
          split at h
          · cases h
          · split at h
            · split at h
              · cases h
              · exact Except.ok.inj h
            · exact Except.ok.inj h
        exact ⟨congrArg _ hsame, fun _ => hsame ▸ not_not.1 hencodable⟩
  | _ => cases h

theorem text?_of_text (h : text form d = .ok t) : d.text? = some t := by
  rw [(text_eq_ok h).1]
  rfl

theorem integer?_of_integer {n : Int} (h : integer d = .ok n) : d.integer? = some n := by
  rw [Document.integer?, h]
  rfl

/-- Where null is no value, it is told apart from a missing key no more. -/
theorem join_map_told {member : Option Document} : (member.map told).join = member.bind told := by
  cases member <;> rfl

variable (hnull : told .null = none) (hread : ∀ d a, read d = .ok a → told d = some a)
include hnull hread

theorem told_of_nullable {value : Option α} (h : nullable read d = .ok value) :
    told d = value := by
  unfold nullable at h
  split at h
  · exact hnull.trans (Except.ok.inj h)
  · cases hd : read d with
    | ok a =>
      rw [hd] at h
      exact (hread d a hd).trans (Except.ok.inj h)
    | error c =>
      rw [hd] at h
      cases h

/-- A field that may be left out and may be null is what its key tells. -/
theorem patched_nullable_eq_valid {field : Option (Option α)}
    (h : patched base body key (nullable read) = .valid field) :
    field = (body.member? key).map told := by
  unfold patched at h
  cases hmember : body.member? key with
  | none =>
    simp only [hmember] at h
    exact (Checked.valid.inj h).symm
  | some d =>
    simp only [hmember] at h
    cases hvalue : nullable read d with
    | ok value =>
      rw [hvalue] at h
      rw [Option.map_some, told_of_nullable hnull hread hvalue]
      exact (Checked.valid.inj h).symm
    | error c =>
      rw [hvalue] at h
      cases h

end Validation

namespace Body

open Validation

variable {base : List Place} {body : Document} {patch : Patch}

/-- The fields of a valid body were read one by one. -/
theorem exists_fields (h : Body.patch base body = .valid patch) :
    (∃ name, patched base body "name" (nullable (text nameForm)) = .valid name ∧
      patch.name = name.join) ∧
    patched base body "display_name" (nullable (text displayNameForm)) =
      .valid patch.displayName ∧
    patched base body "description" (nullable (text anyText)) = .valid patch.description ∧
    (∃ typeId, patched base body "type_id" (nullable integer) = .valid typeId ∧
      patch.typeId = typeId.join) ∧
    patched base body "config" (nullable (text configForm)) = .valid patch.config ∧
    ∃ order, patched base body "order" (nullable integer) = .valid order ∧
      patch.order = order.join := by
  -- the name is the first field, so that all others are taken off from the last one on
  obtain ⟨_, order, hfive, horder, rfl⟩ := Checked.ap_eq_valid h
  obtain ⟨_, config, hfour, hconfig, rfl⟩ := Checked.ap_eq_valid hfive
  obtain ⟨_, typeId, hthree, htype, rfl⟩ := Checked.ap_eq_valid hfour
  obtain ⟨_, description, htwo, hdescription, rfl⟩ := Checked.ap_eq_valid hthree
  obtain ⟨_, displayName, hone, hdisplayName, rfl⟩ := Checked.ap_eq_valid htwo
  obtain ⟨name, hname, rfl⟩ := Checked.map_eq_valid hone
  exact ⟨⟨name, hname, rfl⟩, hdisplayName, hdescription, ⟨typeId, htype, rfl⟩, hconfig,
    order, horder, rfl⟩

/-- A patch is told by the keys of the body: null is no value for the name, the type and the order,
and an empty one for the other columns. -/
theorem patch_eq (h : Body.patch base body = .valid patch) : patch =
    { name := (body.member? "name").bind Document.text?
      displayName := (body.member? "display_name").map Document.text?
      description := (body.member? "description").map Document.text?
      typeId := (body.member? "type_id").bind Document.integer?
      config := (body.member? "config").map Document.text?
      order := (body.member? "order").bind Document.integer? } := by
  have htext {form : TextForm} {key : Text} {field : Option (Option Text)}
      (h : patched base body key (nullable (text form)) = .valid field) :
      field = (body.member? key).map Document.text? :=
    patched_nullable_eq_valid rfl (fun _ _ => text?_of_text) h
  have hinteger {key : Text} {field : Option (Option Int)}
      (h : patched base body key (nullable integer) = .valid field) :
      field = (body.member? key).map Document.integer? :=
    patched_nullable_eq_valid rfl (fun _ _ => integer?_of_integer) h
  obtain ⟨⟨name, hname, hnamed⟩, hdisplayName, hdescription, ⟨typeId, htype, htyped⟩, hconfig,
    order, horder, hordered⟩ := exists_fields h
  rw [htext hname, join_map_told] at hnamed
  rw [hinteger htype, join_map_told] at htyped
  rw [hinteger horder, join_map_told] at hordered
  rw [← hnamed, ← htext hdisplayName, ← htext hdescription, ← htyped, ← htext hconfig, ← hordered]

/-- Of a valid body storage takes all but descriptions without bytes and integers that do not
fit. -/
theorem isStorable_patch (h : Body.patch base body = .valid patch)
    (hdescription : ∀ u ∈ (body.member? "description").bind Document.text?, u.Encodable)
    (htype : ∀ n ∈ (body.member? "type_id").bind Document.integer?, Storable n)
    (horder : ∀ n ∈ (body.member? "order").bind Document.integer?, Storable n) :
    patch.IsStorable := by
  have hread {form : TextForm} {key u : Text} {field : Option (Option Text)}
      (hform : form ≠ anyText) (h : patched base body key (nullable (text form)) = .valid field)
      (hu : u ∈ field.join) : u.Encodable := by
    obtain rfl := Option.join_eq_some_iff.1 hu
    obtain ⟨d, hd⟩ := patched_eq_valid h
    exact (text_eq_ok (nullable_eq_ok hd)).2 hform
  obtain ⟨⟨name, hname, hnamed⟩, hdisplayName, -, -, hconfig, -⟩ := exists_fields h
  have hpatch := patch_eq h
  exact
    { name := fun u hu => hread (by decide) hname (hnamed ▸ hu)
      displayName := fun u => hread (by decide) hdisplayName
      description := by
        rw [hpatch]
        exact fun u hu => hdescription u (join_map_told ▸ hu)
      typeId := by rw [hpatch]; exact htype
      config := fun u => hread (by decide) hconfig
      order := by rw [hpatch]; exact horder }

end Body

/-! ### Updates -/

/-- What is kept of a config within the bounds, told from the type and from what the config says. -/
theorem Config.settle_merged {body : Document} {r : Regulation} {type : RegulationType}
    (hbounds : Merge.numeric? type ≠ none →
      Verdict.readOptional (Merge.config body r) ≠ .beyondBounds) :
    settle type.name (Merge.config body r) =
      match Merge.configRefusal? body r type with
      | some f => .error f
      | none => .ok (if type.name = Kind.boolean.name then none else Merge.config body r) := by
  cases hkind : Kind.ofName? type.name with
  | none =>
    have hname : type.name ≠ Kind.boolean.name := fun hname => by simp [hname] at hkind
    simp [settle, Merge.configRefusal?, Merge.numeric?, hkind, hname]
  | some kind =>
    have hname := Kind.name_of_ofName? hkind
    by_cases hboolean : kind = .boolean
    · subst hboolean
      simp [settle, Merge.configRefusal?, Merge.numeric?, ← hname]
    · have hnumeric : Merge.numeric? type = some kind := by simp [Merge.numeric?, hkind, hboolean]
      have hother : type.name ≠ Kind.boolean.name := fun hsame =>
        hboolean (Kind.name_injective (hname.trans hsame))
      rw [hnumeric] at hbounds
      rw [if_neg hother, ← hname, settle_of_ne_boolean hboolean, Merge.configRefusal?, hnumeric]
      cases hread : Verdict.readOptional (Merge.config body r) with
      | beyondBounds => exact absurd hread (hbounds (by simp))
      | notNumber => rfl
      | number n => rfl

theorem Catalog.find_eq {s : Store} {id : Int} (hid : Storable id) :
    find s id = match s.type? id with
      | some type => .ok type
      | none => .error (.notFound (.regulationType id)) := by
  cases hfound : s.type? id <;>
    simp only [find, checkInteger_eq_ok.2 hid, hfound, bind, Except.bind]

namespace Regulations

open Work

variable {ctx : Context} {s : Store} {project : Int} {address : Address} {base : List Place}
variable {body : Document} {patch : Patch} {r : Regulation} {view : RegulationView} {f : Fault}
variable {type : RegulationType}

/-- The check refuses a name just when it sees that another regulation of the project has it. -/
theorem ensureRenamable_eq {name : Text} (hs : s.Consistent) (hr : r ∈ s.regulations)
    (hname : name.Encodable) : ensureRenamable ctx s r.projectId r name =
      if s.IsTaken r.projectId name r.id ∧ ctx.contended = false then
        .error (.nameTaken name r.projectId)
      else .ok () := by
  by_cases htaken : s.IsTaken r.projectId name r.id
  · obtain ⟨g, hg, -, hkeys⟩ := id htaken
    have hcheck : ensureNameFree ctx s r.projectId name =
        if ctx.contended then .ok () else .error (.nameTaken name r.projectId) :=
      ensureNameFree_of_taken (checkText_eq_ok.2 hname) hg hkeys
    rw [ensureRenamable, if_pos (name_ne_of_isTaken hs hr htaken), hcheck]
    cases ctx.contended <;> simp [htaken]
  · rw [if_neg (fun h => htaken h.1)]
    exact ensureRenamable_of_not_isTaken hs hr hname htaken

variable (hrows : s.Every Row.IsReadable) (hbody : Body.patch base body = .valid patch)
variable (hr : r ∈ s.regulationsAt project address) (hstorable : patch.IsStorable)

include hrows hbody hr hstorable

/-- The type that a body asks for, or the one that the regulation has, is looked for. -/
theorem find_merged_type : Catalog.find s (patch.typeId.getD r.typeId) =
    match s.type? (Merge.typeId body r) with
      | some type => .ok type
      | none => .error (.notFound (.regulationType (Merge.typeId body r))) := by
  have hid : Storable (patch.typeId.getD r.typeId) := by
    cases hpatched : patch.typeId with
    | some id => exact hstorable.typeId id hpatched
    | none =>
      have hmem := (Store.mem_of_mem_regulationsAt hr).1
      exact (Regulation.check_iff.1 (hrows.regulations r hmem).1).1.2.2.1
  obtain rfl := Body.patch_eq hbody
  exact Catalog.find_eq hid

variable (hs : s.Consistent)

include hs

/-- The name that a body asks for, or the one that the regulation has, is checked. -/
theorem ensureRenamable_merged : ensureRenamable ctx s project r (patch.name.getD r.name) =
    if s.IsTaken project (Merge.name body r) r.id ∧ ctx.contended = false then
      .error (.nameTaken (Merge.name body r) project)
    else .ok () := by
  obtain ⟨hmem, rfl⟩ := Store.mem_of_mem_regulationsAt hr
  have hname : (patch.name.getD r.name).Encodable := by
    cases hpatched : patch.name with
    | some t => exact hstorable.name t hpatched
    | none => exact (Regulation.check_iff.1 (hrows.regulations r hmem).1).2.1
  obtain rfl := Body.patch_eq hbody
  exact ensureRenamable_eq hs hmem hname

section Refused

variable (htype : Catalog.find s (patch.typeId.getD r.typeId) = .ok type)
variable (hbounds : Merge.numeric? type ≠ none →
  Verdict.readOptional (Merge.config body r) ≠ .beyondBounds)

include htype hbounds

omit hstorable in
/-- A config that is refused is told when the check of the name passes. -/
theorem update_of_configRefusal
    (hname : ensureRenamable ctx s project r (patch.name.getD r.name) = .ok ())
    (hrefused : Merge.configRefusal? body r type = some f) :
    update ctx project address patch (.start s) = (.error f, .start s) := by
  have hconfig := Config.settle_merged hbounds
  rw [hrefused] at hconfig
  have hfind := find_of_mem_at hs hrows.checked hr
  obtain rfl := Body.patch_eq hbody
  exact update_of_refused_config hfind htype hname hconfig

/-- A name that another writer takes after the check is refused by the constraint. -/
theorem update_of_taken (htaken : s.IsTaken project (Merge.name body r) r.id)
    (hkept : Merge.configRefusal? body r type = none) :
    update ctx project address patch (.start s) =
      (.error (.nameTaken (Merge.name body r) project), .start s) := by
  have hconfig := Config.settle_merged hbounds
  rw [hkept] at hconfig
  have hfind := find_of_mem_at hs hrows.checked hr
  have hstored := (hrows.regulations r (Store.mem_of_mem_regulationsAt hr).1).1
  obtain rfl := Body.patch_eq hbody
  have hrow := check_patched hstored hstorable htype hconfig ctx.clock
  exact update_of_clash hs hfind htype hconfig hrow htaken

/-- The name and the config are refused in the order that is told of them. -/
theorem update_of_refusal (hrefused : Merge.refusal? body r s ctx project type = some f) :
    update ctx project address patch (.start s) = (.error f, .start s) := by
  have hname : ensureRenamable ctx s project r (patch.name.getD r.name) = _ :=
    ensureRenamable_merged hrows hbody hr hstorable hs
  unfold Merge.refusal? Merge.nameRefusal? at hrefused
  by_cases htaken : s.IsTaken project (Merge.name body r) r.id
  · rw [if_pos htaken] at hrefused
    cases hcontended : ctx.contended with
    | false =>
      rw [if_pos ⟨htaken, hcontended⟩] at hname
      obtain rfl : _ = f := by simpa [hcontended] using hrefused
      exact (query_bind_ok (find_of_mem_at hs hrows.checked hr)).trans
        ((query_bind_ok htype).trans (query_bind_error hname))
    | true =>
      rw [if_neg (by simp [hcontended])] at hname
      rw [if_pos hcontended] at hrefused
      rcases Option.or_eq_some_iff.1 hrefused with hconfig | ⟨hkept, htold⟩
      · exact update_of_configRefusal hrows hbody hr hs htype hbounds hname hconfig
      · cases htold
        exact update_of_taken hrows hbody hr hstorable hs htype hbounds htaken hkept
  · rw [if_neg fun h => htaken h.1] at hname
    have hconfig : Merge.configRefusal? body r type = some f := by
      simpa [htaken] using hrefused
    exact update_of_configRefusal hrows hbody hr hs htype hbounds hname hconfig

end Refused

variable (hbounds : ∀ type ∈ s.types, type.id = Merge.typeId body r → Merge.numeric? type ≠ none →
  Verdict.readOptional (Merge.config body r) ≠ .beyondBounds)

include hbounds

/-- An update that is refused is refused by the first check that fails. -/
theorem update_of_outcome_error (h : Merge.outcome body r s ctx project = .error f) :
    update ctx project address patch (.start s) = (.error f, .start s) := by
  have htype := find_merged_type hrows hbody hr hstorable
  unfold Merge.outcome at h
  cases hfound : s.type? (Merge.typeId body r) with
  | none =>
    rw [hfound] at htype h
    cases h
    exact (query_bind_ok (find_of_mem_at hs hrows.checked hr)).trans (query_bind_error htype)
  | some type =>
    rw [hfound] at htype
    simp only [hfound] at h
    obtain ⟨hmem, hid⟩ := findById_eq_some hfound
    split at h
    · next hrefused =>
      cases h
      exact update_of_refusal hrows hbody hr hstorable hs htype (hbounds type hmem hid) hrefused
    · cases h

/-- What passes the checks is the regulation as the body asks for it. -/
theorem exists_settled (h : Merge.outcome body r s ctx project = .ok view) :
    Catalog.find s (patch.typeId.getD r.typeId) = .ok view.type ∧
      ensureRenamable ctx s project r (patch.name.getD r.name) = .ok () ∧
      ¬ s.IsTaken project (patch.name.getD r.name) r.id ∧
      (∃ config, Config.settle view.type.name (patch.config.getD r.config) = .ok config ∧
        patched r patch view.type config = Merge.row body r view.type) ∧
      view.regulation = Merge.stamped body r ctx.clock view.type := by
  have htype := find_merged_type hrows hbody hr hstorable
  have hname : ensureRenamable ctx s project r (patch.name.getD r.name) = _ :=
    ensureRenamable_merged hrows hbody hr hstorable hs
  unfold Merge.outcome at h
  cases hfound : s.type? (Merge.typeId body r) with
  | none => simp [hfound] at h
  | some type =>
    rw [hfound] at htype
    simp only [hfound] at h
    obtain ⟨hmem, hid⟩ := findById_eq_some hfound
    have hconfig := Config.settle_merged (hbounds type hmem hid)
    split at h
    · cases h
    · next hpasses =>
      cases h
      obtain ⟨hfree, hkept⟩ := Merge.refusal?_eq_none.1 hpasses
      rw [if_neg fun h => hfree h.1] at hname
      rw [hkept] at hconfig
      obtain rfl := Body.patch_eq hbody
      exact ⟨htype, hname, hfree, ⟨_, hconfig, rfl⟩, rfl⟩

omit hrows hbody hr hstorable hs hbounds in
/-- A rewritten regulation has the time of the change, unless no column changed. -/
theorem Rewritten.eq_stamped {before patched row : Regulation} {after : Store}
    (h : Rewritten ctx s before patched row after) :
    row = if patched = before then before else { patched with updatedAt := ctx.clock } := by
  cases h with
  | unchanged heq => rw [if_pos heq]
  | changed hne hrow hwritten => rw [if_neg hne, hrow]

omit hrows hbody hr hstorable hbounds in
/-- Nothing but the place of the regulation changes, and the trail. -/
theorem Rewritten.after_eq {before patched row : Regulation} {after : Store}
    (h : Rewritten ctx s before patched row after) (hbefore : before ∈ s.regulations) :
    after = { s with
      regulations := Store.putById (·.id) row s.regulations
      audit := after.audit } := by
  cases h with
  | unchanged heq => rw [putById_of_mem hs.regulationIds hbefore]
  | changed hne hrow hwritten => rfl

/-- An update that passes the checks stores the regulation as the body asks for it. -/
theorem perform_update_of_outcome_ok (hctx : ctx.IsRecordable)
    (hroom : ∀ i : Fin 10, Storable (s.nextIdOf .audit + i))
    (h : Merge.outcome body r s ctx project = .ok view) :
    ∃ audit, (update ctx project address patch).perform s =
      ⟨.ok view, { s with
        regulations := s.regulations.map fun g => if g.id = r.id then view.regulation else g
        audit }, [announcement ctx .updated view.regulation]⟩ := by
  obtain ⟨htype, hname, hfree, ⟨config, hconfig, hrow⟩, hstamped⟩ :=
    exists_settled hrows hbody hr hstorable hs hbounds h
  obtain ⟨hmem, hproject⟩ := Store.mem_of_mem_regulationsAt hr
  have hfind := find_of_mem_at hs hrows.checked hr
  obtain ⟨stored, τ, hperform, ⟨before, hupdated⟩, hannounced⟩ := (update_yields hctx hroom hs
    (hrows.regulations r hmem).1 hstorable hfind htype hname hconfig (hproject ▸ hfree)).perform
  obtain rfl : r = before := Except.ok.inj (hfind.symm.trans hupdated.found)
  have hsame : view.type = stored.type := Except.ok.inj (htype.symm.trans hupdated.type_found)
  have hkept : config = stored.regulation.config :=
    Except.ok.inj (hconfig.symm.trans (hsame ▸ hupdated.config_settled))
  have hrewritten := hupdated.rewritten
  rw [← hsame, ← hkept, hrow] at hrewritten
  -- so what is stored is the regulation as the body asks for it
  have hregulation : view.regulation = stored.regulation := by
    rw [hstamped, hrewritten.eq_stamped, Merge.stamped]
  obtain rfl : view = stored := congrArg₂ RegulationView.mk hregulation hsame
  have hafter := hrewritten.after_eq hs hmem
  rw [Store.putById, hupdated.life_eq.1] at hafter
  exact ⟨_, by rw [hperform, hannounced, ← hafter]⟩

end Regulations

/-! ### Runs -/

namespace World

variable {settings : Settings} {w : World} {arrivals : List Arrival}

/-- After every run, an update of a regulation with a valid body comes to what is told of it. If a
check fails, the first one that does is told and nothing happens. Otherwise the regulation is stored
as the body asks for it, and no other regulation, status, project, version or type changes. The
integers have to fit, the description has to have bytes, and a config that has to be a number must
not lie beyond the bounds. -/
theorem updates_merge (h : w.store.Initial) (hrows : w.store.Every Row.IsReadable)
    {ctx : Context} {project : Int} {address : Address} {base : List Place} {body : Document}
    {patch : Patch} {r : Regulation} (hbody : Body.patch base body = .valid patch)
    (hr : r ∈ (w.serve settings arrivals).store.regulationsAt project address)
    (hctx : ctx.IsRecordable)
    (hroom : ∀ i : Fin 10, Storable ((w.serve settings arrivals).store.nextIdOf .audit + i))
    (hdescription : ∀ u ∈ (body.member? "description").bind Document.text?, u.Encodable)
    (htype : ∀ n ∈ (body.member? "type_id").bind Document.integer?, Storable n)
    (horder : ∀ n ∈ (body.member? "order").bind Document.integer?, Storable n)
    (hbounds : ∀ type ∈ (w.serve settings arrivals).store.types,
      type.id = Merge.typeId body r → Merge.numeric? type ≠ none →
      Verdict.readOptional (Merge.config body r) ≠ .beyondBounds) :
    let s := (w.serve settings arrivals).store
    let work := (Operation.updateRegulation project address patch).run ctx
    (∀ f, Merge.outcome body r s ctx project = .error f →
      work.perform s = ⟨.error f, s, []⟩) ∧
    ∀ view, Merge.outcome body r s ctx project = .ok view →
      ∃ audit, work.perform s = ⟨.ok (.regulation view), { s with
        regulations := s.regulations.map fun g => if g.id = r.id then view.regulation else g
        audit }, [Regulations.announcement ctx .updated view.regulation]⟩ := by
  intro s work
  have hs : s.Consistent := (kept_serve h).toConsistent
  have hreadable : s.Every Row.IsReadable := readable_serve hrows
  have hstorable := Body.isStorable_patch hbody hdescription htype horder
  have hperform : work.perform s = _ := Work.perform_map
  constructor
  · intro f hf
    rw [hperform, Work.perform_of_refused (Regulations.update_of_outcome_error hreadable hbody hr
      hstorable hs hbounds hf)]
    rfl
  · intro view hview
    obtain ⟨audit, hupdate⟩ := Regulations.perform_update_of_outcome_ok hreadable hbody hr hstorable
      hs hbounds hctx hroom hview
    refine ⟨audit, ?_⟩
    rw [hperform, hupdate]
    rfl

/-- A regulation is created with a name to be displayed. -/
def displayedCreation : Arrival :=
  .plain "POST" "/api/v1/projects/1/regulations"
    "\x7b\"name\": \"r\", \"display_name\": \"R\", \"type_id\": 1\x7d"

/-- It is stored so. -/
def displayedRegulation : Regulation := ⟨1, "r", some "R", none, none, 0, 1, 1, ⟨0⟩, ⟨0⟩⟩

/-- Null leaves the name and clears the name that is displayed, and another type takes a config. -/
theorem updates_merge_nulls :
    let s := (sample.serve (.ofDatabase "sqlite") [displayedCreation]).store
    let ctx : Context := ⟨⟨7⟩, none, none, false⟩
    let body : Document := .object [("name", .null), ("display_name", .null),
      ("type_id", .integer 2), ("config", .text " 0.5 ")]
    let patch : Patch := ⟨none, some none, none, some 2, some (some " 0.5 "), none⟩
    let row : Regulation := ⟨1, "r", none, none, some " 0.5 ", 0, 2, 1, ⟨0⟩, ⟨7⟩⟩
    sample.store.Initial ∧ Body.patch [] body = .valid patch ∧
      displayedRegulation ∈ s.regulationsAt 1 (.byId 1) ∧
      ∃ audit, ((Operation.updateRegulation 1 (.byId 1) patch).run ctx).perform s =
        ⟨.ok (.regulation ⟨row, ⟨2, "Threshold", none⟩⟩),
          { s with regulations := [row], audit }, [⟨.updated, 1, "r", ⟨7⟩⟩]⟩ := by
  intro s ctx body patch row
  have hbody : Body.patch [] body = .valid patch := rfl
  have hr : displayedRegulation ∈ s.regulationsAt 1 (.byId 1) := by decide +kernel
  have hctx : ctx.IsRecordable := ⟨by decide, by decide⟩
  have hroom : s.HasRoom := hasRoom_serve Store.initial_sample (by decide) (by decide)
  have houtcome : Merge.outcome body displayedRegulation s ctx 1 =
      .ok ⟨row, ⟨2, "Threshold", none⟩⟩ := by
    decide +kernel
  have hregulations : s.regulations = [displayedRegulation] := by decide +kernel
  obtain ⟨audit, hupdate⟩ := (updates_merge Store.initial_sample readable_sample hbody hr hctx
    hroom.audit (by decide) (by decide) (by decide) fun _ _ _ _ => by decide +kernel).2 _ houtcome
  refine ⟨Store.initial_sample, hbody, hr, audit, ?_⟩
  rw [hregulations] at hupdate
  exact hupdate

/-- A description that is half of a pair passes all checks, and the update fails. -/
theorem description_without_bytes_fails :
    let s := (sample.serve (.ofDatabase "sqlite") [displayedCreation]).store
    let half : Text := [⟨0xD800, by decide⟩]
    let body : Document := .object [("description", .text half)]
    let patch : Patch := ⟨none, none, some (some half), none, none, none⟩
    let ctx : Context := ⟨⟨7⟩, none, none, false⟩
    Body.patch [] body = .valid patch ∧
      displayedRegulation ∈ s.regulationsAt 1 (.byId 1) ∧
      Merge.outcome body displayedRegulation s ctx 1 =
        .ok ⟨⟨1, "r", some "R", some half, none, 0, 1, 1, ⟨0⟩, ⟨7⟩⟩, ⟨1, "Boolean", none⟩⟩ ∧
      (((Operation.updateRegulation 1 (.byId 1) patch).run ctx).perform s).answer =
        .error .textNotEncodable :=
  ⟨rfl, by decide +kernel⟩

end World

end ComplianceRegistry
