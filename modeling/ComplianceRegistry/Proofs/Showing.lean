import ComplianceRegistry.Proofs.Announcements
import ComplianceRegistry.Proofs.Readable

/-!
# What can be shown

All that storage takes can be shown in a response but for the details of reports. They are stored as
interchange text, which can hold halves of pairs and may be nested as deep as one likes, while a
response can show neither. A status with such details is written and committed, and then neither the
write nor any later read of the status is answered.

As long as no request sends such details, whatever is carried out is answered as a success, and a
look-up is answered, or what it looks for is missing.

## Main definitions

* `Document.IsShowable` — details that a response can show
* `Answer.details` — the details of reports in an answer
* `Arrival.SendsShowable` — a request sends no lists or objects that cannot be shown

## Main results

* `Answer.Tells.status_present` — an answer is told as a success when its details can be shown
* `Operation.Outcome.details_of_mem` — details come from requests
* `World.answered_while_details_showable` — how requests are answered after a run of others
-/

namespace ComplianceRegistry

/-! ### Details -/

namespace Document

/-- A response can show the document: all of its texts have bytes, and it is not nested too deep. -/
def IsShowable (d : Document) : Prop := d.isCarriable ∧ d.depth ≤ Server.deepestDetails

instance : DecidablePred IsShowable := fun _ => inferInstanceAs (Decidable (_ ∧ _))

/-- A document with parts. -/
def IsNested : Document → Prop
  | .list _ | .object _ => True
  | _ => False

instance : DecidablePred IsNested
  | .list _ | .object _ => isTrue trivial
  | .null | .truth _ | .integer _ | .float _ | .text _ => isFalse not_false

end Document

/-- The details of reports in an answer. -/
def Answer.details : Answer → List Document
  | .status v => [v.status.details]
  | .statuses vs => vs.map (·.status.details)
  | _ => []

/-- The details that an operation sends. -/
def Operation.details? : Operation → Option Document
  | .setValue _ _ _ _ d | .report _ _ _ _ d => some d
  | _ => none

/-- Lists and objects that the request sends as details can be shown as they are stored. -/
def Arrival.SendsShowable (settings : Settings) (a : Arrival) : Prop :=
  ∀ d ∈ (Server.operationOf? settings a.request).bind Operation.details?, d.IsNested →
    d.stored.IsShowable

instance (settings : Settings) (a : Arrival) : Decidable (a.SendsShowable settings) :=
  inferInstanceAs (Decidable (∀ d ∈ Option.bind _ _, _ → _))

/-! ### Answers -/

namespace Document

theorem itemsCarriable_iff {ds : List Document} :
    itemsCarriable ds ↔ ∀ d ∈ ds, d.isCarriable := by
  induction ds with
  | nil => simp [itemsCarriable]
  | cons d ds ih => simp [itemsCarriable, ih]

end Document

theorem Status.check_eq_ok {st : Status} (h : (Row.status st).check = .ok ()) :
    ∀ u ∈ st.value, u.Encodable := by
  have hcolumns := Row.check_eq_ok.1 h
  simp only [Row.columns, columns, List.forall_mem_cons] at hcolumns
  exact Cell.check_ofText?.1 hcolumns.2.2.2.1

theorem AuditEntry.check_eq_ok {e : AuditEntry} (h : (Row.audit e).check = .ok ()) :
    (e.module.Encodable ∧ e.action.Encodable ∧ e.entityType.Encodable) ∧
      (∀ u ∈ e.fieldName, u.Encodable) ∧ (∀ u ∈ e.oldValue, u.Encodable) ∧
      (∀ u ∈ e.newValue, u.Encodable) ∧ ∀ u ∈ e.address, u.Encodable := by
  have hcolumns := Row.check_eq_ok.1 h
  simp only [Row.columns, columns, List.forall_mem_cons] at hcolumns
  obtain ⟨-, -, hmodule, haction, htype, -, hfield, hold, hnew, haddress, -⟩ := hcolumns
  exact ⟨⟨checkText_eq_ok.1 hmodule, checkText_eq_ok.1 haction, checkText_eq_ok.1 htype⟩,
    Cell.check_ofText?.1 hfield, Cell.check_ofText?.1 hold, Cell.check_ofText?.1 hnew,
    Cell.check_ofText?.1 haddress⟩

theorem AuditEntry.isCarriable_answer {e : AuditEntry} (h : (Row.audit e).check = .ok ()) :
    e.answer.isCarriable := by
  obtain ⟨⟨hmodule, haction, htype⟩, hfield, hold, hnew, haddress⟩ := check_eq_ok h
  have htext : ∀ {t : Option Text}, (∀ u ∈ t, u.Encodable) → (Document.ofText? t).isCarriable :=
    Document.isCarriable_ofText?.2
  have hinteger : ∀ {n : Option Int}, (Document.ofInteger? n).isCarriable := by
    rintro (_ | _) <;> rfl
  simp [answer, Document.isCarriable, Document.membersCarriable, hmodule, haction, htype,
    htext hfield, htext hold, htext hnew, htext haddress, hinteger]

theorem RegulationType.isCarriable_answer {t : RegulationType} (h : (Row.type t).check = .ok ()) :
    t.answer.isCarriable := by
  obtain ⟨hname, hnote⟩ := check_eq_ok h
  have htext : (Document.ofText? t.description).isCarriable := Document.isCarriable_ofText?.2 hnote
  simp [answer, Document.isCarriable, Document.membersCarriable, hname, htext]

/-- A status that could be stored can be carried when its details can. -/
theorem StatusView.isCarriable_answer {v : StatusView} (h : (Row.status v.status).check = .ok ())
    (hcatalog : v.catalogId.Encodable) : v.answer.isCarriable ↔ v.status.details.isCarriable := by
  have hvalue : (Document.ofText? v.status.value).isCarriable :=
    Document.isCarriable_ofText?.2 (Status.check_eq_ok h)
  have htruth {b : Option Bool} : (Document.ofTruth? b).isCarriable := by cases b <;> rfl
  simp [answer, Document.isCarriable, Document.membersCarriable, hcatalog, hvalue, htruth]

/-- The answer to an operation can be carried when the details in it can, and these are found in the
store. -/
structure Answer.Tells (s : Store) (op : Operation) (answer : Answer) : Prop where
  isCarriable_iff : (Server.documentOf op answer).isCarriable ↔
    ∀ d ∈ answer.details, d.isCarriable
  details_mem : ∀ d ∈ answer.details, ∃ st ∈ s.statuses, st.details = d

theorem Server.isWritable_iff {answer : Answer} :
    isWritable answer ↔ ∀ d ∈ answer.details, d.depth ≤ deepestDetails := by
  cases answer <;> simp [isWritable, Answer.details]

theorem Server.statusOf_of_isLookup {op : Operation} (h : op.IsLookup) : statusOf op = 200 := by
  cases op <;> first | rfl | exact h.elim

/-- An answer is told as a success exactly when its details can be shown. -/
theorem Answer.Tells.status_present {s : Store} {op : Operation} {answer : Answer}
    {settings : Settings} {r : Request} (h : answer.Tells s op) :
    (Server.present settings r op (.ok answer)).status =
      if ∀ d ∈ answer.details, d.IsShowable then Server.statusOf op else 500 := by
  split
  · next hshowable =>
    refine Server.status_present_of_isCarriable ?_ ?_
    · exact Server.isWritable_iff.2 fun d hd => (hshowable d hd).2
    · exact h.isCarriable_iff.2 fun d hd => (hshowable d hd).1
  · next hunshowable =>
    refine Server.status_present_of_not_isCarriable fun ⟨hwritable, hcarriable⟩ => ?_
    exact hunshowable fun d hd =>
      ⟨h.isCarriable_iff.1 hcarriable d hd, Server.isWritable_iff.1 hwritable d hd⟩

/-! ### What is told -/

theorem Answer.tells_of_isCarriable {s : Store} {op : Operation} {answer : Answer}
    (hnone : answer.details = []) (h : (Server.documentOf op answer).isCarriable) :
    answer.Tells s op := by
  constructor <;> simp [hnone, h]

/-- The status of a pair is told. -/
theorem StatusView.tells {s : Store} {op : Operation} {v : StatusView}
    (hrows : s.Every Row.IsReadable) (hst : v.status ∈ s.statuses)
    (hcatalog : v.catalogId.Encodable)
    (hdocument : Server.documentOf op (.status v) = v.answer) : (Answer.status v).Tells s op := by
  constructor
  · rw [hdocument, isCarriable_answer (hrows.statuses _ hst).1 hcatalog]
    simp [Answer.details]
  · simp only [Answer.details, List.forall_mem_singleton]
    exact ⟨v.status, hst, rfl⟩

/-- The status that was written is told. -/
theorem Statuses.Upserted.tells {ctx : Context} {s after : Store} {project regulation : Int}
    {catalogId : Text} {r : Regulation} {v : Version} {w : StatusWrite} {view : StatusView}
    {op : Operation} (h : Upserted ctx s r v w view.status after)
    (hpair : Pair s project regulation catalogId r v) (hcatalog : view.catalogId = catalogId)
    (hrows : after.Every Row.IsReadable)
    (hdocument : Server.documentOf op (.status view) = view.answer) :
    (Answer.status view).Tells after op :=
  StatusView.tells hrows (List.mem_of_mem_filter h.mem_statusesAt) (hcatalog ▸ hpair.encodable)
    hdocument

namespace Operation

variable {ctx : Context} {s after : Store} {op : Operation} {answer : Answer}
variable {announcements : List Announcement}

/-- What was looked up is told. -/
theorem tells_of_isLookup (hrows : s.Every Row.IsReadable) (hop : op.IsLookup)
    (h : ((op.run ctx).perform s).answer = .ok answer) : answer.Tells s op := by
  have hview {v : RegulationView} (hv : v.regulation ∈ s.regulations ∧ v.type ∈ s.types) :
      v.answer.isCarriable :=
    RegulationView.isCarriable_answer (hrows.regulations _ hv.1).1 (hrows.types _ hv.2).1
  cases op with
  | listTypes =>
    obtain ⟨ts, hts, rfl⟩ := answer_query_eq_ok.1 h
    obtain rfl : Catalog.list s = ts := Except.ok.inj hts
    refine Answer.tells_of_isCarriable rfl (Document.itemsCarriable_iff.2 ?_)
    refine List.forall_mem_map.2 fun t ht => RegulationType.isCarriable_answer ?_
    exact (hrows.types t (List.mem_mergeSort.1 ht)).1
  | findType id =>
    obtain ⟨t, ht, rfl⟩ := answer_query_eq_ok.1 h
    refine Answer.tells_of_isCarriable rfl (RegulationType.isCarriable_answer ?_)
    exact (hrows.types t (Catalog.find_eq_ok ht).1).1
  | listRegulations p =>
    obtain ⟨vs, hvs, rfl⟩ := answer_query_eq_ok.1 h
    refine Answer.tells_of_isCarriable rfl (Document.itemsCarriable_iff.2 ?_)
    exact List.forall_mem_map.2 fun v hv => hview (Regulations.mem_of_list_eq_ok hvs hv)
  | getRegulation p address =>
    obtain ⟨v, hv, rfl⟩ := answer_query_eq_ok.1 h
    exact Answer.tells_of_isCarriable rfl (hview (Regulations.get_eq_ok hv))
  | listStatuses p catalogId =>
    obtain ⟨vs, hvs, rfl⟩ := answer_query_eq_ok.1 h
    constructor
    · refine Document.itemsCarriable_iff.trans ?_
      rw [List.forall_mem_map, Answer.details, List.forall_mem_map]
      refine forall₂_congr fun v hv => ?_
      obtain ⟨hst, hcatalog⟩ := Statuses.mem_of_list_eq_ok hvs hv
      exact StatusView.isCarriable_answer (hrows.statuses _ hst).1 hcatalog
    · refine List.forall_mem_map.2 fun v hv => ?_
      exact ⟨v.status, (Statuses.mem_of_list_eq_ok hvs hv).1, rfl⟩
  | getStatus p r catalogId =>
    obtain ⟨v, hv, rfl⟩ := answer_query_eq_ok.1 h
    obtain ⟨hst, hcatalog⟩ := Statuses.get_eq_ok hv
    exact StatusView.tells hrows hst hcatalog rfl
  | browseTrail q =>
    obtain ⟨page, hpage, rfl⟩ := answer_query_eq_ok.1 h
    refine Answer.tells_of_isCarriable rfl ?_
    have hitems : Document.itemsCarriable (page.items.map AuditEntry.answer) :=
      Document.itemsCarriable_iff.2 <| List.forall_mem_map.2 fun e he =>
        AuditEntry.isCarriable_answer (hrows.audit e (AuditPage.mem_of_find_eq_ok hpage e he)).1
    simp [Server.documentOf, Answer.document, AuditPage.answer, Document.isCarriable,
      Document.membersCarriable, hitems]
  | _ => exact hop.elim

theorem store_of_isLookup (hop : op.IsLookup) : ((op.run ctx).perform s).store = s := by
  cases op <;> first | exact hop.elim | exact congrArg Written.store Work.perform_map

/-- The operation writes to the status of a pair. -/
def IsReport : Operation → Prop
  | .setValue .. | .setCompliance .. | .report .. | .deleteStatus .. => True
  | _ => False

/-- What was written to a status is told. -/
theorem tells_of_isReport (hs : s.Consistent)
    (hrows : ((op.run ctx).perform s).store.Every Row.IsReadable) (hop : op.IsReport)
    (h : ((op.run ctx).perform s).answer = .ok answer) :
    answer.Tells ((op.run ctx).perform s).store op := by
  have htells {answer : Answer} {w : Work Answer} {op : Operation}
      (hw : w.Leads (.start s) fun answer τ =>
        τ.committed.Every Row.IsReadable → answer.Tells τ.committed op)
      (hrows : (w.perform s).store.Every Row.IsReadable) (h : (w.perform s).answer = .ok answer) :
      answer.Tells (w.perform s).store op := by
    obtain ⟨τ, htold, hstore, -⟩ := hw.perform_ok h
    rw [hstore] at hrows ⊢
    exact htold hrows
  refine htells ?_ hrows h
  cases op with
  | setValue p r catalogId value details =>
    refine Work.Leads.map ((Statuses.setValue_leads hs).mono ?_)
    rintro v τ ⟨⟨r, version, hpair, hrow⟩, hcatalog, -⟩ hrows
    exact hrow.tells hpair hcatalog hrows rfl
  | setCompliance p r catalogId compliant =>
    refine Work.Leads.map ((Statuses.setCompliance_leads hs).mono ?_)
    rintro v τ ⟨⟨r, version, hpair, hrow⟩, hcatalog, -⟩ hrows
    exact hrow.tells hpair hcatalog hrows rfl
  | report p r catalogId value details =>
    refine Work.Leads.map ((Statuses.report_leads hs).mono ?_)
    rintro v τ ⟨⟨r, version, compliant, hpair, hverdict, hrow⟩, hcatalog, -⟩ hrows
    exact hrow.tells hpair hcatalog hrows rfl
  | deleteStatus p r catalogId =>
    refine Work.Leads.map (Statuses.delete_leads.mono ?_)
    rintro _ τ ⟨⟨r, version, st, hpair, -⟩, -⟩ -
    refine Answer.tells_of_isCarriable rfl ?_
    simp [Server.documentOf, Document.isCarriable, Document.membersCarriable, hpair.encodable]
  | _ => exact hop.elim

/-- What requests ask for and is carried out is told, but for changes and trials. -/
theorem tells_of_perform (hs : s.Consistent) (hrows : s.Every Row.IsReadable)
    (hafter : ((op.run ctx).perform s).store.Every Row.IsReadable) (hposed : op.IsPosed)
    (hchange : ¬ op.IsChange)
    (htrial : ∀ typeName config value, op ≠ .evaluate typeName config value)
    (h : ((op.run ctx).perform s).answer = .ok answer) :
    answer.Tells ((op.run ctx).perform s).store op := by
  by_cases hlookup : op.IsLookup
  · rw [store_of_isLookup hlookup]
    exact tells_of_isLookup hrows hlookup h
  · refine tells_of_isReport hs hafter ?_ h
    cases op with
    | setValue | setCompliance | report | deleteStatus => trivial
    | evaluate typeName config value => exact (htrial _ _ _ rfl).elim
    | seedTypes | remark => exact hposed.elim
    | createRegulation | updateRegulation | deleteRegulation => exact (hchange trivial).elim
    | _ => exact (hlookup trivial).elim

/-- The answer to a change is a regulation, in which there are no details. -/
theorem Outcome.details_of_isChange (hchange : op.IsChange)
    (h : Outcome ctx s op answer after announcements) : answer.details = [] := by
  cases h with
  | created | updated | deleted => rfl
  | read hread => cases op <;> first | exact hread.elim | exact hchange.elim
  | upserted hpair hwrites h => cases hwrites <;> exact hchange.elim
  | _ => exact hchange.elim

end Operation

/-! ### Where details come from -/

/-- Without halves of pairs there are none to be joined. -/
theorem Document.pairHalves_of_encodable {t : Text} (h : t.Encodable) : pairHalves t = t := by
  induction t with
  | nil => rfl
  | cons c t ih =>
    obtain ⟨hc, ht⟩ := List.forall_mem_cons.1 h
    have hrest := ih ht
    cases t with
    | nil => rfl
    | cons d t =>
      have hnone : pair? ⟨c, true⟩ ⟨d, true⟩ = none := by
        have hbounds : ¬ (0xD800 ≤ c.val ∧ c.val < 0xDC00 ∧ 0xDC00 ≤ d.val ∧ d.val < 0xE000) := by
          rintro ⟨hlow, hhigh, -⟩
          exact hc ⟨hlow, by omega⟩
        simp [pair?, hbounds]
      simp only [pairHalves, List.map_cons, pairUp, hnone] at hrest ⊢
      rw [hrest]

/-- A text that has bytes comes back from its column as it was sent. -/
theorem Document.stored_text {t : Text} (h : t.Encodable) : (text t).stored = .text t :=
  stored_eq_self (by simp [isPairedUp, pairHalves_of_encodable h]) (by simp) (by simp)

/-- Numbers can be shown, and so can texts that have bytes. -/
theorem Document.isShowable_stored {d : Document} (hnested : d.IsNested → d.stored.IsShowable)
    (htext : ∀ t, d = .text t → t.Encodable) : d.stored.IsShowable := by
  cases d with
  | list items => exact hnested trivial
  | object members => exact hnested trivial
  | text t =>
    have ht := htext t rfl
    simp [stored_text ht, IsShowable, isCarriable, depth, Server.deepestDetails, ht]
  | float x =>
    simp only [stored, ofColumnNumber]
    split
    · split <;> simp [IsShowable, isCarriable, depth, Server.deepestDetails]
    · simp [IsShowable, isCarriable, depth, Server.deepestDetails]
  | integer n =>
    simp only [stored]
    split <;> simp [IsShowable, isCarriable, depth, Server.deepestDetails]
  | _ => simp [stored, pairedUp, IsShowable, isCarriable, depth, Server.deepestDetails]

/-- The details that a write sets. -/
def StatusWrite.details? : StatusWrite → Option Document
  | .value _ d | .report _ d _ => some d
  | .compliance _ => none

theorem StatusWrite.details_apply {w : StatusWrite} {st : Status} :
    (w.apply st).details = st.details ∨
      ∃ d, w.details? = some d ∧ (w.apply st).details = d.stored := by
  cases w with
  | value v d => exact .inr ⟨d, rfl, rfl⟩
  | compliance c => exact .inl rfl
  | report v d c => exact .inr ⟨d, rfl, rfl⟩

theorem Operation.Writes.details?_eq {s : Store} {r : Regulation} {project regulation : Int}
    {catalogId : Text} {op : Operation} {w : StatusWrite}
    (h : op.Writes s r project regulation catalogId w) : op.details? = w.details? := by
  cases h <;> rfl

namespace Statuses

variable {ctx : Context} {s after : Store} {r : Regulation} {v : Version} {w : StatusWrite}
variable {row st : Status} {t : Text}

/-- The details of a status were there before the write, or the write set them. -/
theorem Upserted.details_of_mem (h : Upserted ctx s r v w row after) (hst : st ∈ after.statuses) :
    (∃ old ∈ s.statuses, old.details = st.details) ∨ st.details = .null ∨
      ∃ d, w.details? = some d ∧ st.details = d.stored := by
  cases h with
  | added hnone hrow =>
    rcases List.mem_append.1 hst with hst | hst
    · exact .inl ⟨st, hst, rfl⟩
    · obtain rfl : st = row := List.mem_singleton.1 hst
      exact .inr (hrow ▸ StatusWrite.details_apply)
  | @replaced before hsome hrow =>
    rcases mem_putById.1 hst with ⟨rfl, -⟩ | ⟨hst, -⟩
    · have hbefore : before ∈ s.statuses := List.mem_of_mem_filter (List.mem_of_head? hsome)
      have hdetails : (w.apply before).details = before.details ∨
          ∃ d, w.details? = some d ∧ (w.apply before).details = d.stored :=
        StatusWrite.details_apply
      rw [hrow]
      exact hdetails.imp (fun hsame => ⟨before, hbefore, hsame.symm⟩) .inr
    · exact .inl ⟨st, hst, rfl⟩

/-- The trail records a text that is set as details, so that it has bytes. -/
theorem Upserted.encodable_of_set (h : Upserted ctx s r v w row after)
    (hafter : after.Every Row.IsReadable) (hset : w.details? = some (.text t)) : t.Encodable := by
  have hcell : (("report_details" : Text), Cell.details (.text t)) ∈ w.cells := by
    cases w with
    | compliance c => cases hset
    | _ =>
      obtain rfl := Option.some.inj hset
      simp [StatusWrite.cells, Cell.ofDetails]
  obtain ⟨before, written, rfl⟩ : ∃ before written,
      after = Trail.logged ctx (putNotes before row.id w) written := by
    cases h <;> exact ⟨_, _, rfl⟩
  obtain ⟨n, hn, hnew⟩ : ∃ n ∈ putNotes before row.id w, n.newValue = some t := by
    refine ⟨_, List.mem_map_of_mem hcell, ?_⟩
    cases before <;> rfl
  obtain ⟨e, he, rfl⟩ : ∃ e ∈ (Trail.logged ctx (putNotes before row.id w) written).audit,
      e.note = n := by
    -- the entries at the end of the trail are those of the notes
    let first := nextId (written.audit.map (·.id))
    have hnotes : (Trail.entriesFrom ctx first (putNotes before row.id w)).map AuditEntry.note =
        putNotes before row.id w := Trail.map_note_entriesFrom
    obtain ⟨e, he, hnote⟩ := List.mem_map.1 (hnotes ▸ hn)
    exact ⟨e, List.mem_append_right _ he, hnote⟩
  obtain ⟨-, -, -, hencodable, -⟩ := AuditEntry.check_eq_ok (hafter.audit e he).1
  exact hencodable t hnew

end Statuses

namespace Operation.Outcome

variable {ctx : Context} {s after : Store} {op : Operation} {answer : Answer}
variable {announcements : List Announcement} {st : Status} {t : Text}

/-- The details of a status were there before or were sent. -/
theorem details_of_mem (h : Outcome ctx s op answer after announcements)
    (hst : st ∈ after.statuses) :
    (∃ old ∈ s.statuses, old.details = st.details) ∨ st.details = .null ∨
      ∃ d, op.details? = some d ∧ st.details = d.stored := by
  have hkept (h : st ∈ s.statuses) : ∃ old ∈ s.statuses, old.details = st.details := ⟨st, h, rfl⟩
  cases h with
  | seeded h => exact .inl (hkept (h.statuses_eq ▸ hst))
  | read => exact .inl (hkept hst)
  | created h => exact .inl (hkept (h.statuses_eq ▸ hst))
  | updated h => exact .inl (hkept (h.rewritten.statuses_eq ▸ hst))
  | deleted h =>
    rw [h.after_eq] at hst
    exact .inl (hkept (List.mem_of_mem_filter hst))
  | upserted hpair hwrites h => exact hwrites.details?_eq ▸ h.details_of_mem hst
  | statusDeleted hpair h =>
    rw [h.after_eq] at hst
    exact .inl (hkept (List.mem_of_mem_filter hst))
  | remarked => exact .inl (hkept hst)

/-- A text that was sent as details and written has bytes. -/
theorem encodable_of_sent (h : Outcome ctx s op answer after announcements)
    (hafter : after.Every Row.IsReadable) (hsent : op.details? = some (.text t)) :
    t.Encodable := by
  cases h with
  | upserted hpair hwrites h => exact h.encodable_of_set hafter (hwrites.details?_eq ▸ hsent)
  | read hread => cases op <;> first | exact hread.elim | cases hsent
  | _ => cases hsent

end Operation.Outcome

/-! ### Runs -/

namespace World

variable {settings : Settings} {w : World} {a : Arrival} {arrivals : List Arrival} {s : Store}
variable {op : Operation}

/-- Where all details can be shown, a request that sends none but such leaves it so. -/
theorem showable_outcome (hs : s.Consistent) (hrows : s.Every Row.IsReadable)
    (hsends : a.SendsShowable settings) (hshowable : ∀ st ∈ s.statuses, st.details.IsShowable) :
    ∀ st ∈ (a.outcome settings s).store.statuses, st.details.IsShowable := by
  have hafter : (a.outcome settings s).store.Every Row.IsReadable := readable_outcome hrows
  intro st hst
  rcases Server.handle_cases hs with ⟨op, answer, hop, -, houtcome⟩ | ⟨hstore, -⟩
  · rcases houtcome.details_of_mem hst with ⟨old, hold, hsame⟩ | hnull | ⟨d, hsent, hstored⟩
    · exact hsame ▸ hshowable old hold
    · rw [hnull]
      decide
    · rw [hstored]
      have hd : d ∈ (Server.operationOf? settings a.request).bind Operation.details? := by
        rw [hop]
        exact hsent
      refine Document.isShowable_stored (hsends d hd) ?_
      rintro t rfl
      exact houtcome.encodable_of_sent hafter hsent
  · exact hshowable st (hstore ▸ hst)

/-- After requests that send no details but such that can be shown there are none but such. -/
theorem showable_serve (hs : w.store.Kept) (hrows : w.store.Every Row.IsReadable)
    (hsends : ∀ a ∈ arrivals, a.SendsShowable settings)
    (hshowable : ∀ st ∈ w.store.statuses, st.details.IsShowable) :
    ∀ st ∈ (w.serve settings arrivals).store.statuses, st.details.IsShowable := by
  induction arrivals generalizing w with
  | nil => exact hshowable
  | cons a arrivals ih =>
    obtain ⟨ha, hothers⟩ := List.forall_mem_cons.1 hsends
    rw [serve_cons]
    refine ih (kept_outcome (a := a) hs) (readable_outcome (a := a) hrows) hothers ?_
    exact showable_outcome hs.toConsistent hrows ha hshowable

theorem answer_outcome (hop : Server.operationOf? settings a.request = some op) :
    (a.outcome settings s).answer = Server.present settings a.request op
      ((op.run (Server.contextOf a.context a.request)).perform s).answer :=
  congrArg Written.answer (Server.handle_of_operation hop)

/-- What is carried out is told as a success exactly when all details in its answer can be shown,
and these are details in the store. -/
theorem status_outcome {answer : Answer} (hs : s.Consistent) (hrows : s.Every Row.IsReadable)
    (hop : Server.operationOf? settings a.request = some op)
    (htrial : ∀ typeName config value, op ≠ .evaluate typeName config value)
    (hok : ((op.run (Server.contextOf a.context a.request)).perform s).answer = .ok answer) :
    (a.outcome settings s).answer.status =
        (if ∀ d ∈ answer.details, d.IsShowable then Server.statusOf op else 500) ∧
      ∀ d ∈ answer.details, ∃ st ∈ (a.outcome settings s).store.statuses, st.details = d := by
  have hposed : op.IsPosed := Server.isPosed_of_operationOf? hop
  have hafter : (a.outcome settings s).store.Every Row.IsReadable := readable_outcome hrows
  have houtcome := Operation.outcome_of_perform hs hok
  have hstore : (a.outcome settings s).store =
      ((op.run (Server.contextOf a.context a.request)).perform s).store :=
    congrArg Written.store (Server.handle_of_operation hop)
  rw [answer_outcome hop, hok, hstore]
  rw [hstore] at hafter
  -- changes answer with a regulation, which has no details
  by_cases hchange : op.IsChange
  · have hlegible : s.Legible :=
      ⟨fun t ht => (hrows.types t ht).1, fun r hr => (hrows.regulations r hr).1⟩
    rw [houtcome.status_present hlegible hposed hs hchange]
    simp [houtcome.details_of_isChange hchange]
  · have htells := Operation.tells_of_perform hs hrows hafter hposed hchange htrial hok
    exact ⟨htells.status_present, htells.details_mem⟩

/-- A look-up that fails is told that something is missing, if its integers fit. -/
theorem status_of_failed_lookup {f : Fault} (hs : s.Consistent) (hrows : s.Every Row.IsReadable)
    (hop : Server.operationOf? settings a.request = some op) (hlookup : op.IsLookup)
    (hpath : a.request.path.Encodable) (hintegers : ∀ n ∈ op.integers, Storable n)
    (hfails : ((op.run (Server.contextOf a.context a.request)).perform s).answer = .error f) :
    (a.outcome settings s).answer.status = 404 := by
  have htexts : ∀ t ∈ op.asked, t.Encodable := Server.encodable_of_asked hpath hop
  obtain ⟨what, rfl⟩ := Operation.missing_of_error hs hrows hlookup htexts hintegers hfails
  rw [answer_outcome hop, hfails]
  rfl

/-- From a store without regulations whose rows can be read, let requests arrive, and after them one
that asks for something else than a trial. If none of them sends lists or objects as details that
cannot be shown, what is carried out is answered as a success, and a look-up is answered, or what it
looks for is missing, as long as its integers fit. Whatever was sent, an answer with details that
cannot be shown is a failure. -/
theorem answered_while_details_showable (h : w.store.Initial)
    (hrows : w.store.Every Row.IsReadable)
    (hop : Server.operationOf? settings a.request = some op)
    (htrial : ∀ typeName config value, op ≠ .evaluate typeName config value) :
    let s := (w.serve settings arrivals).store
    let result := ((op.run (Server.contextOf a.context a.request)).perform s).answer
    let status := (a.outcome settings s).answer.status
    ((∀ b ∈ arrivals ++ [a], b.SendsShowable settings) →
      (∀ answer, result = .ok answer → status = Server.statusOf op) ∧
      (op.IsLookup → a.request.path.Encodable → (∀ n ∈ op.integers, Storable n) →
        status = 200 ∨ status = 404)) ∧
    ∀ answer, result = .ok answer → (∃ d ∈ answer.details, ¬ d.IsShowable) → status = 500 := by
  intro s result status
  have hs : s.Consistent := (kept_serve h).toConsistent
  have hreadable : s.Every Row.IsReadable := readable_serve hrows
  constructor
  · intro hsends
    obtain ⟨hothers, ha⟩ := List.forall_mem_append.1 hsends
    have hnone : ∀ st ∈ w.store.statuses, st.details.IsShowable := by simp [h.statuses_eq]
    -- what the last request leaves can be shown too, and its answer shows nothing else
    have hshowable : ∀ st ∈ (a.outcome settings s).store.statuses, st.details.IsShowable :=
      showable_outcome hs hreadable (ha a (List.mem_singleton_self a))
        (showable_serve h.kept hrows hothers hnone)
    have hsuccess : ∀ answer, result = .ok answer → status = Server.statusOf op := by
      intro answer hok
      obtain ⟨hstatus, hmem⟩ := status_outcome hs hreadable hop htrial hok
      refine hstatus.trans (if_pos fun d hd => ?_)
      obtain ⟨st, hst, rfl⟩ := hmem d hd
      exact hshowable st hst
    refine ⟨hsuccess, fun hlookup hpath hintegers => ?_⟩
    cases hresult : result with
    | ok answer =>
      exact .inl ((hsuccess answer hresult).trans (Server.statusOf_of_isLookup hlookup))
    | error f =>
      exact .inr (status_of_failed_lookup hs hreadable hop hlookup hpath hintegers hresult)
  · rintro answer hok ⟨d, hd, hunshowable⟩
    obtain ⟨hstatus, -⟩ := status_outcome hs hreadable hop htrial hok
    exact hstatus.trans (if_neg fun hall => hunshowable (hall d hd))

/-- The status of the first regulation for the first version is asked for. -/
def statusAsked : Arrival :=
  .plain "GET" "/api/v1/projects/1/regulations/1/versions/cat-100/status" ""

/-- The statuses of the first version are asked for. -/
def statusesAsked : Arrival :=
  .plain "GET" "/api/v1/projects/1/versions/cat-100/regulation-statuses" ""

/-- Details with numbers that are not finite are written and read again. -/
theorem answered_while_details_showable_infinite :
    let settings := Settings.ofDatabase "sqlite"
    let write := Arrival.detailing "[NaN, 1e999]"
    let created := (sample.serve settings [.creation]).store
    let written := (sample.serve settings [.creation, write]).store
    (write.outcome settings created).answer.status = 200 ∧
      ((statusAsked.outcome settings written).answer.status = 200 ∨
        (statusAsked.outcome settings written).answer.status = 404) := by
  intro settings write created written
  have hsends : ∀ b ∈ [Arrival.creation, write, statusAsked], b.SendsShowable settings := by
    decide +kernel
  have hstart : sample.store.Initial := Store.initial_sample
  constructor
  · let details : Document := .list [.float .nan, .float (.infinite false)]
    let op : Operation := .setValue 1 1 "cat-100" (some "x") details
    have hop : Server.operationOf? settings write.request = some op := by decide +kernel
    have hok : ((op.run (Server.contextOf write.context write.request)).perform created).answer =
        .ok (.status ⟨⟨1, 1, 1, some "x", details, none, ⟨0⟩, ⟨0⟩⟩, "cat-100"⟩) := by
      decide +kernel
    have hsent : ∀ b ∈ [Arrival.creation, write], b.SendsShowable settings :=
      fun b hb => hsends b (List.mem_append_left [statusAsked] hb)
    exact ((answered_while_details_showable hstart readable_sample hop nofun).1 hsent).1 _ hok
  · have hop : Server.operationOf? settings statusAsked.request =
        some (.getStatus 1 1 "cat-100") := by decide +kernel
    have hpath : statusAsked.request.path.Encodable := by decide
    have hintegers : ∀ n ∈ (Operation.getStatus 1 1 "cat-100").integers, Storable n := by decide
    exact ((answered_while_details_showable hstart readable_sample hop nofun).1 hsends).2 trivial
      hpath hintegers

/-- Half of a pair among the details is written, and neither the write nor any read of it is
answered. -/
theorem unshowable_details_fail_reads :
    let settings := Settings.ofDatabase "sqlite"
    let write := Arrival.detailing "[\"\\ud800\"]"
    let created := (sample.serve settings [.creation]).store
    let written := (sample.serve settings [.creation, write]).store
    (write.outcome settings created).answer.status = 500 ∧
      written.statuses.map (·.details) = [.list [.text [⟨0xD800, by decide⟩]]] ∧
      (statusAsked.outcome settings written).answer.status = 500 ∧
      (statusesAsked.outcome settings written).answer.status = 500 := by
  decide +kernel

end World

end ComplianceRegistry
