import ComplianceRegistry.Proofs.Projects

/-!
# Texts that reads ask with

A read takes the texts that it asks with from the path and from the query. The segments of a path
have bytes if the path has, and the values of a query always have: what is read from bytes is never
half of a pair, however the bytes are chosen.

## Main definitions

* `Utf8.StaysClear`, `Utf8.Begun.IsClear` — what was begun cannot end as half of a pair
* `Target.texts` — the texts that a target carries
* `Operation.asked` — the texts that a read asks with

## Main results

* `Query.encodable_of_value?` — the values of a query have bytes
* `Server.encodable_of_asked` — a read asks with texts that have bytes, if the path has bytes
-/

namespace ComplianceRegistry

/-! ### Bytes -/

theorem CodePoint.not_isSurrogate_ofNat {n : Nat} (hlow : n < 0xD800 ∨ 0xE000 ≤ n)
    (hhigh : n < 0x110000) : ¬ (ofNat n).IsSurrogate := by
  simp only [IsSurrogate, ofNat, Nat.mod_eq_of_lt hhigh]
  omega

/-- The bytes of a code point are bytes. -/
theorem CodePoint.lt_of_mem_bytes {c : CodePoint} {b : Nat} (h : b ∈ c.bytes) : b < 0x100 := by
  have hc := c.isLt
  unfold bytes at h
  dsimp only at h
  split at h
  · simp only [List.mem_singleton] at h
    omega
  · split at h
    · simp only [List.mem_cons, List.not_mem_nil, or_false] at h
      omega
    · split at h
      · simp only [List.mem_cons, List.not_mem_nil, or_false] at h
        omega
      · simp only [List.mem_cons, List.not_mem_nil, or_false] at h
        omega

namespace Utf8

/-- Whichever bytes are still to come, the number does not become half of a pair. -/
def StaysClear : Nat → Nat → Prop
  | 0, number => ¬ (CodePoint.ofNat number).IsSurrogate
  | missing + 1, number =>
    ∀ b, 0x80 ≤ b → b ≤ 0xBF → StaysClear missing (number * 64 + b % 64)

/-- What was begun does not become half of a pair. -/
structure Begun.IsClear (p : Begun) : Prop where
  missing_pos : 0 < p.missing
  next : ∀ b, p.low ≤ b → b ≤ p.high → StaysClear (p.missing - 1) (p.number * 64 + b % 64)

variable {begun : Option Begun} {b : Nat}

@[simp] theorem not_isSurrogate_replacement : ¬ replacement.IsSurrogate := by decide

theorem isClear_one {number low high : Nat}
    (h : ∀ b, low ≤ b → b ≤ high →
      (number * 64 + b % 64 < 0xD800 ∨ 0xE000 ≤ number * 64 + b % 64) ∧
        number * 64 + b % 64 < 0x110000) : Begun.IsClear ⟨1, number, low, high⟩ := by
  refine ⟨Nat.one_pos, fun b hlow hhigh => ?_⟩
  obtain ⟨hpair, hbound⟩ := h b hlow hhigh
  exact CodePoint.not_isSurrogate_ofNat hpair hbound

theorem isClear_two {number low high : Nat}
    (h : ∀ b, low ≤ b → b ≤ high → ∀ c, 0x80 ≤ c → c ≤ 0xBF →
      ((number * 64 + b % 64) * 64 + c % 64 < 0xD800 ∨
        0xE000 ≤ (number * 64 + b % 64) * 64 + c % 64) ∧
        (number * 64 + b % 64) * 64 + c % 64 < 0x110000) :
    Begun.IsClear ⟨2, number, low, high⟩ := by
  refine ⟨Nat.two_pos, fun b hlow hhigh c hc hc' => ?_⟩
  obtain ⟨hpair, hbound⟩ := h b hlow hhigh c hc hc'
  exact CodePoint.not_isSurrogate_ofNat hpair hbound

/-- Code points of four bytes come after all halves of pairs. -/
theorem isClear_three {number low high : Nat}
    (h : ∀ b, low ≤ b → b ≤ high →
      16 ≤ number * 64 + b % 64 ∧ number * 64 + b % 64 < 272) :
    Begun.IsClear ⟨3, number, low, high⟩ := by
  refine ⟨Nat.succ_pos 2, fun b hlow hhigh c _ _ d _ _ => ?_⟩
  have hbounds := h b hlow hhigh
  dsimp only at hbounds ⊢
  exact CodePoint.not_isSurrogate_ofNat (by omega) (by omega)

/-- The bounds of the second byte keep what a first byte begins clear of the halves of pairs. -/
theorem isClear_first : (first b).1.Encodable ∧ ∀ p ∈ (first b).2, p.IsClear := by
  unfold first
  split_ifs with hone htwo hlow hgap hthree hfour hlast hmiddle
  · have hclear : ¬ (CodePoint.ofNat b).IsSurrogate :=
      CodePoint.not_isSurrogate_ofNat (by omega) (by omega)
    simpa [Text.Encodable] using hclear
  · simpa using isClear_one fun c _ _ => by omega
  · simpa using isClear_two fun c _ _ d _ _ => by omega
  · simpa using isClear_two fun c _ _ d _ _ => by omega
  · simpa using isClear_two fun c _ _ d _ _ => by omega
  · simpa using isClear_three fun c _ _ => by omega
  · simpa using isClear_three fun c _ _ => by omega
  · simpa using isClear_three fun c _ _ => by omega
  · simp [Text.Encodable]

/-- One more byte keeps what is read clear of the halves of pairs. -/
theorem isClear_step (h : ∀ p ∈ begun, p.IsClear) :
    (step begun b).1.Encodable ∧ ∀ p ∈ (step begun b).2, p.IsClear := by
  cases begun with
  | none => exact isClear_first
  | some p =>
    obtain ⟨hpos, hnext⟩ := h p rfl
    unfold step
    dsimp only
    split
    · next hbounds =>
      have hclear := hnext b hbounds.1 hbounds.2
      split
      · next hlast =>
        rw [hlast] at hclear
        have hwhole : ¬ (CodePoint.ofNat (p.number * 64 + b % 64)).IsSurrogate := hclear
        simpa [Text.Encodable] using hwhole
      · next hmore =>
        refine ⟨Text.encodable_nil, ?_⟩
        rintro _ ⟨⟩
        obtain ⟨k, hk⟩ : ∃ k, p.missing - 1 = k + 1 := ⟨p.missing - 2, by omega⟩
        rw [hk] at hclear
        exact ⟨by simp [hk], fun c hlow hhigh => by simpa [hk] using hclear c hlow hhigh⟩
    · -- the byte does not fit, so that it starts anew after a replacement
      obtain ⟨hout, hbegun⟩ : (first b).1.Encodable ∧ ∀ p ∈ (first b).2, p.IsClear := isClear_first
      exact ⟨List.forall_mem_cons.2 ⟨not_isSurrogate_replacement, hout⟩, hbegun⟩

end Utf8

/-! ### Queries -/

namespace Query

variable {t query name : Text}

/-- Code points that stand for themselves are no halves of pairs. -/
theorem not_isSurrogate_of_mem_pieces {c : CodePoint} (h : .inr c ∈ pieces t) :
    ¬ c.IsSurrogate := by
  fun_induction pieces t with
  | case1 => simp at h
  | case2 | case3 | case4 | case5 | case6 =>
    rename_i ih
    exact ih (by simpa using h)
  | case7 d rest hpercent hplus hascii ih =>
    rcases List.mem_append.1 h with h | h
    · obtain ⟨b, hb, hc⟩ := List.mem_map.1 h
      have hlt := CodePoint.lt_of_mem_bytes hb
      rw [← Sum.inr.inj hc]
      exact CodePoint.not_isSurrogate_ofNat (by omega) (by omega)
    · exact ih h

theorem encodable_joined {begun : Option Utf8.Begun} {ps : List Piece}
    (hbegun : ∀ p ∈ begun, p.IsClear) (h : ∀ c, .inr c ∈ ps → ¬ CodePoint.IsSurrogate c) :
    (joined begun ps).Encodable := by
  induction ps generalizing begun with
  | nil =>
    unfold joined
    split <;> simp [Text.Encodable]
  | cons piece ps ih =>
    have hrest : ∀ c, .inr c ∈ ps → ¬ CodePoint.IsSurrogate c :=
      fun c hc => h c (List.mem_cons_of_mem piece hc)
    cases piece with
    | inl b =>
      obtain ⟨hout, hnext⟩ := Utf8.isClear_step (b := b) hbegun
      exact Text.encodable_append.2 ⟨hout, ih hnext hrest⟩
    | inr c =>
      refine Text.encodable_append.2 ⟨?_, List.forall_mem_cons.2 ⟨?_, ih (by simp) hrest⟩⟩
      · split <;> simp [Text.Encodable]
      · exact h c (List.mem_cons_self ..)

/-- What is decoded has bytes. -/
theorem encodable_decoded : (decoded t).Encodable :=
  encodable_joined (by simp) fun _ => not_isSurrogate_of_mem_pieces

/-- The values of a query have bytes. -/
theorem encodable_of_value? (h : value? query name = some t) : t.Encodable := by
  obtain ⟨p, hp, rfl⟩ := Option.map_eq_some_iff.1 h
  have hmem : p ∈ pairs query := List.mem_reverse.1 (List.mem_of_find?_eq_some hp)
  obtain ⟨part, -, rfl⟩ := List.mem_map.1 hmem
  exact encodable_decoded

end Query

/-! ### Paths -/

/-- The parts of a text have no other code points. -/
theorem Text.mem_of_mem_splitOn {separator c : CodePoint} {t part : Text}
    (hpart : part ∈ splitOn separator t) (hc : c ∈ part) : c ∈ t := by
  induction t generalizing part with
  | nil => simp_all [splitOn]
  | cons d rest ih =>
    unfold splitOn at hpart
    split at hpart
    · rcases List.mem_cons.1 hpart with rfl | hpart
      · simp at hc
      · exact List.mem_cons_of_mem d (ih hpart hc)
    · split at hpart
      · simp_all
      · next first parts hsplit =>
        rcases List.mem_cons.1 hpart with rfl | hpart
        · -- the first part goes on with that of the rest
          rcases List.mem_cons.1 hc with rfl | hc
          · exact List.mem_cons_self ..
          · exact List.mem_cons_of_mem d (ih (hsplit ▸ List.mem_cons_self ..) hc)
        · exact List.mem_cons_of_mem d (ih (hsplit ▸ List.mem_cons_of_mem first hpart) hc)

namespace Target

/-- The texts that a target carries. -/
def texts : Target → List Text
  | .health | .page _ | .types | .trial | .trail => []
  | .regulations p => [p]
  | .regulation p r | .regulationNamed p r | .versionStatuses p r => [p, r]
  | .status p r v | .value p r v | .compliance p r v | .report p r v => [p, r, v]

variable {t : Target} {project text path : Text} {segments : List Text}

theorem texts_of_ofPair? {regulation version last : Text}
    (h : ofPair? project regulation version last = some t) :
    t.texts = [project, regulation, version] := by
  rcases ofPair?_eq_some h with rfl | rfl | rfl | rfl <;> rfl

theorem mem_of_inProject? (h : inProject? project segments = some t) (htext : text ∈ t.texts) :
    text ∈ project :: segments := by
  unfold inProject? at h
  split at h
  · split at h
    · cases h; grind [texts]
    · simp at h
  · split at h
    · cases h; grind [texts]
    · simp at h
  · split at h
    · cases h; grind [texts]
    · split at h
      · cases h; grind [texts]
      · simp at h
  · split at h
    · rw [texts_of_ofPair? h] at htext
      grind
    · simp at h
  · simp at h

theorem mem_of_inInterface? (h : inInterface? segments = some t) (htext : text ∈ t.texts) :
    text ∈ segments := by
  unfold inInterface? at h
  split at h
  · split at h
    · cases h; simp [texts] at htext
    · split at h
      · cases h; simp [texts] at htext
      · simp at h
  · split at h
    · exact List.mem_cons_of_mem _ (mem_of_inProject? h htext)
    · split at h
      · cases h; simp [texts] at htext
      · simp at h
  · simp at h

theorem mem_of_ofSegments? (h : ofSegments? segments = some t) (htext : text ∈ t.texts) :
    text ∈ segments := by
  unfold ofSegments? at h
  split at h
  · -- words alone carry no text
    split_ifs at h
    all_goals
      cases h
      simp [texts] at htext
  · split_ifs at h
    · exact List.mem_cons_of_mem _ (List.mem_cons_of_mem _ (mem_of_inInterface? h htext))
    · cases h
      simp [texts] at htext
  · simp at h

/-- A target carries segments of its path. -/
theorem mem_of_ofPath? {c : CodePoint} (h : ofPath? path = some t) (htext : text ∈ t.texts)
    (hc : c ∈ text) : c ∈ path := by
  unfold ofPath? at h
  split at h
  · simp at h
  · next slash rest =>
    split at h
    · have hmem := mem_of_ofSegments? h htext
      exact List.mem_cons_of_mem slash (Text.mem_of_mem_splitOn hmem hc)
    · simp at h

end Target

/-! ### Reads -/

/-- The texts that a read asks with. -/
def Operation.asked : Operation → List Text
  | .getRegulation _ (.byName name) => name.toList
  | .listStatuses _ v | .getStatus _ _ v => [v]
  | .browseTrail q => q.module.toList ++ q.entityType.toList
  | _ => []

namespace Demand

variable {name t query : Text}

theorem pathText_eq_valid {u : Text} (h : pathText name t = .valid u) : u = t :=
  (Except.ok.inj (Validation.ofRead_eq_valid h)).symm

/-- A text that filters is a value of the query. -/
theorem value?_of_queryValue {filter : Option Text}
    (h : queryValue query name none
      (fun d => (Validation.text Validation.anyText d).map some) = .valid filter)
    (ht : t ∈ filter) : Query.value? query name = some t := by
  unfold queryValue at h
  split at h
  · next u hu =>
    have hread := Validation.ofRead_eq_valid h
    obtain rfl : some u = filter := Except.ok.inj hread
    exact hu.trans ht
  · cases h
    simp at ht

theorem value?_of_auditQuery {q : AuditQuery} (h : auditQuery query = .valid q)
    (ht : t ∈ q.module.toList ++ q.entityType.toList) :
    ∃ name, Query.value? query name = some t := by
  -- the module and the entity type are the first filters, so that all others are taken off first
  obtain ⟨_, perPage, hpage, -, rfl⟩ := Checked.ap_eq_valid h
  obtain ⟨_, page, haction, -, rfl⟩ := Checked.ap_eq_valid hpage
  obtain ⟨_, action, hid, -, rfl⟩ := Checked.ap_eq_valid haction
  obtain ⟨_, entityId, hfilters, -, rfl⟩ := Checked.ap_eq_valid hid
  obtain ⟨module, entityType, hmodule, hentityType, rfl⟩ := Checked.map₂_eq_valid hfilters
  rcases List.mem_append.1 ht with ht | ht
  · exact ⟨_, value?_of_queryValue hmodule (Option.mem_toList.1 ht)⟩
  · exact ⟨_, value?_of_queryValue hentityType (Option.mem_toList.1 ht)⟩

end Demand

namespace Target

/-- A read asks with texts of its target or with values of the query. -/
theorem mem_of_asked {t : Target} {verb : Verb} {check : Check Operation} {query text : Text}
    {body : Payload} {op : Operation} (hcheck : t.operation? verb = some check)
    (hop : check query body = .valid op) (htext : text ∈ op.asked) :
    text ∈ t.texts ∨ ∃ name, Query.value? query name = some text := by
  unfold operation? at hcheck
  split at hcheck <;> cases hcheck
  case h_3 =>
    obtain ⟨q, hq, rfl⟩ := Checked.map_eq_valid hop
    exact .inr (Demand.value?_of_auditQuery hq htext)
  case h_6 =>
    obtain ⟨_, address, -, haddress, rfl⟩ := Checked.map₂_eq_valid hop
    obtain ⟨name, hname, rfl⟩ := Checked.map_eq_valid haddress
    obtain rfl := Demand.pathText_eq_valid hname
    obtain rfl : text = name := List.mem_singleton.1 htext
    exact .inl (by simp [texts])
  case h_12 =>
    obtain ⟨_, version, -, hversion, rfl⟩ := Checked.map₂_eq_valid hop
    obtain rfl := Demand.pathText_eq_valid hversion
    obtain rfl : text = version := List.mem_singleton.1 htext
    exact .inl (by simp [texts])
  case h_13 =>
    obtain ⟨keys, hkeys, rfl⟩ := Checked.map_eq_valid hop
    unfold Demand.pair at hkeys
    obtain ⟨_, version, hids, hversion, rfl⟩ := Checked.ap_eq_valid hkeys
    obtain ⟨_, _, -, -, rfl⟩ := Checked.map₂_eq_valid hids
    obtain rfl := Demand.pathText_eq_valid hversion
    obtain rfl : text = version := List.mem_singleton.1 htext
    exact .inl (by simp [texts])
  -- nothing else asks with a text
  case h_1 => cases hop; cases htext
  case h_2 | h_4 | h_14 =>
    obtain ⟨_, -, rfl⟩ := Checked.map_eq_valid hop
    cases htext
  case h_7 | h_10 =>
    obtain ⟨_, _, hpath, -, rfl⟩ := Checked.ap_eq_valid hop
    obtain ⟨_, _, -, -, rfl⟩ := Checked.map₂_eq_valid hpath
    cases htext
  case h_9 =>
    obtain ⟨_, _, -, haddress, rfl⟩ := Checked.map₂_eq_valid hop
    obtain ⟨_, -, rfl⟩ := Checked.map_eq_valid haddress
    cases htext
  all_goals
    obtain ⟨_, _, -, -, rfl⟩ := Checked.map₂_eq_valid hop
    cases htext

end Target

/-- A read asks with texts that have bytes, if the path has bytes. -/
theorem Server.encodable_of_asked {settings : Settings} {r : Request} {op : Operation}
    (hpath : r.path.Encodable) (hop : operationOf? settings r = some op) :
    ∀ t ∈ op.asked, t.Encodable := by
  intro text htext
  obtain ⟨-, -, t, ht, hdemand⟩ := operationOf?_eq_some hop
  obtain ⟨verb, check, body, -, hcheck, hvalid⟩ := demandOf_eq_ok hdemand
  obtain ⟨inner, hinner, hinnerop⟩ := Target.operation?_of_demand? hcheck hvalid
  -- texts of the path are as the path has them, those of the query come out of the decoder
  rcases Target.mem_of_asked hinner hinnerop htext with hmem | ⟨name, hvalue⟩
  · exact fun c hc => hpath c (Target.mem_of_ofPath? ht hmem hc)
  · exact Query.encodable_of_value? hvalue

end ComplianceRegistry
