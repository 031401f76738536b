import ComplianceRegistry.Proofs.Numerals
import ComplianceRegistry.Proofs.Requests

/-!
# Whom a request names

The user of a request stands in a header of its own. No other part of a request is read from that
header, so that requests which differ in nothing else ask for the same and are answered in the same
way, once their users have been read.

## Main definitions

* `Text.decimal?` — the number that decimal digits write
* `Caller.id?`, `Caller.ofHeader` — the number of a caller, and the caller whom a header names
* `Request.identified` — the request with this value in the header, or without the header

## Main results

* `Caller.id?_ofText` — the number of a caller who can be recorded is the one that is written
* `Server.respond_identified` — a request is answered for the caller whom its header names
-/

namespace ComplianceRegistry

/-! ### Numbers in decimal digits -/

/-- The number that a text of decimal digits writes, the first digit being the most significant. A
text that is empty or has other code points writes none. -/
def Text.decimal? (t : Text) : Option Nat :=
  if t ≠ [] ∧ ∀ c ∈ t, 48 ≤ c.val ∧ c.val ≤ 57 then
    some (Nat.ofDigits 10 (t.reverse.map fun c => c.val - 48))
  else none

theorem CodePoint.asciiDigit?_eq_some {c : CodePoint} {d : Nat} (h : c.asciiDigit? = some d) :
    (48 ≤ c.val ∧ c.val ≤ 57) ∧ d = c.val - 48 := by
  unfold asciiDigit? at h
  split at h
  · next hrange => exact ⟨hrange, (Option.some.inj h).symm⟩
  · simp at h

theorem Text.mapM_asciiDigit?_eq_some {t : Text} {digits : List Nat}
    (h : t.mapM CodePoint.asciiDigit? = some digits) :
    (∀ c ∈ t, 48 ≤ c.val ∧ c.val ≤ 57) ∧ digits = t.map fun c => c.val - 48 := by
  induction t generalizing digits with
  | nil =>
    obtain rfl := Option.some.inj h
    simp
  | cons c t ih =>
    rw [List.mapM_cons] at h
    obtain ⟨d, hd, h⟩ := Option.bind_eq_some_iff.1 h
    obtain ⟨rest, hrest, h⟩ := Option.bind_eq_some_iff.1 h
    obtain rfl := Option.some.inj h
    obtain ⟨hrange, rfl⟩ := CodePoint.asciiDigit?_eq_some hd
    obtain ⟨hranges, rfl⟩ := ih hrest
    exact ⟨List.forall_mem_cons.2 ⟨hrange, hranges⟩, rfl⟩

/-! ### Callers -/

namespace Caller

/-- The number of a caller. -/
def id? : Caller → Option Int
  | .user id => some id
  | _ => none

/-- The caller whom the value of a header names, or its absence. -/
def ofHeader : Option Text → Caller
  | some t => .ofText t
  | none => .anonymous

/-- A caller who can be read has the number that the text writes in decimal digits, if it does. -/
theorem id?_ofText {t : Text} (h : ofText t ≠ .unreadable) :
    (ofText t).id? = t.decimal?.map Int.ofNat := by
  unfold ofText at h ⊢
  split
  · next hother =>
    have hnone : t.decimal? = none := by
      refine if_neg ?_
      rintro ⟨hne, hdigits⟩
      -- a text of decimal digits is one of digits of a kind
      have hall : t.all fun c => c.asciiDigit?.isSome || isRaisedDigit c := by
        refine List.all_eq_true.2 fun c hc => ?_
        simp [CodePoint.asciiDigit?, hdigits c hc]
      simp [hne, hall] at hother
    rw [hnone]
    rfl
  · next hother =>
    rw [if_neg hother] at h
    split
    · next digits hdigits =>
      rw [hdigits] at h
      obtain ⟨hrange, rfl⟩ := Text.mapM_asciiDigit?_eq_some hdigits
      have hne : t ≠ [] := by
        rintro rfl
        simp at hother
      dsimp only at h
      split
      · next hlong => exact absurd (if_pos hlong) h
      · rw [Text.decimal?, if_pos ⟨hne, hrange⟩, Number.ofDigits_eq, ← List.map_reverse]
        rfl
    · next hnone =>
      rw [hnone] at h
      exact absurd rfl h

theorem id?_ofHeader {value : Option Text} (h : ofHeader value ≠ .unreadable) :
    (ofHeader value).id? = (value.bind Text.decimal?).map Int.ofNat := by
  cases value with
  | none => rfl
  | some t => exact id?_ofText h

end Caller

/-! ### The header of the user -/

/-- The name of the header for the user. -/
def Request.userHeader : Text := "x-user-id"

namespace Request

variable {r : Request} {value : Option Text} {name : Text}

/-- The request with this value in the header for the user, or without that header. -/
def identified (r : Request) (value : Option Text) : Request :=
  { r with
    headers := r.headers.filter (fun h => h.1.asciiLower ≠ userHeader) ++
      value.toList.map fun t => (userHeader, t) }

/-- Every other header is as it was. -/
theorem header?_identified (h : name.asciiLower ≠ userHeader) :
    (r.identified value).header? name = r.header? name := by
  have hkept : (r.headers.filter fun h => h.1.asciiLower ≠ userHeader).find?
        (fun h => h.1.asciiLower = name.asciiLower) =
      r.headers.find? fun h => h.1.asciiLower = name.asciiLower := by
    rw [List.find?_filter]
    refine List.find?_congr fun g _ => ?_
    by_cases hg : g.1.asciiLower = name.asciiLower
    · simp [hg, h]
    · simp [hg]
  have hadded : (value.toList.map fun t => (userHeader, t)).find?
      (fun h => h.1.asciiLower = name.asciiLower) = none := by
    have huser : userHeader.asciiLower = userHeader := by decide
    cases value <;> simp [huser, Ne.symm h]
  unfold header? identified
  rw [List.find?_append, hkept, hadded, Option.or_none]

theorem caller_identified : (r.identified value).caller = Caller.ofHeader value := by
  have hvalue : (r.identified value).header? userHeader = value := by
    have huser : userHeader.asciiLower = userHeader := by decide
    have hkept : (r.headers.filter fun h => h.1.asciiLower ≠ userHeader).find?
        (fun h => h.1.asciiLower = userHeader) = none := by
      rw [List.find?_filter]
      exact List.find?_eq_none.2 fun g _ => by simp
    unfold header? identified
    rw [huser, List.find?_append, hkept, Option.none_or]
    cases value <;> simp [huser]
  change (match (r.identified value).header? userHeader with
    | some t => Caller.ofText t
    | none => .anonymous) = _
  rw [hvalue]
  rfl

theorem payload_identified : (r.identified value).payload = r.payload := by
  have hsends : (r.identified value).sendsDocument = r.sendsDocument := by
    rw [sendsDocument, header?_identified (by decide)]
    rfl
  simp only [payload, hsends]
  rfl

end Request

namespace CrossOrigin

variable {r : Request} {value : Option Text} {origins : List Text}

theorem preflight?_identified : preflight? origins (r.identified value) = preflight? origins r := by
  have hname (name : Text) (h : name.asciiLower ≠ Request.userHeader) :
      (r.identified value).header? name = r.header? name := Request.header?_identified h
  simp only [preflight?, answer, failures, allowedHeaders]
  rw [hname "origin" (by decide), hname "access-control-request-method" (by decide),
    hname "access-control-request-private-network" (by decide),
    hname "access-control-request-headers" (by decide)]
  rfl

theorem marked_identified {response : Response} :
    marked origins (r.identified value) response = marked origins r response := by
  rw [marked, Request.header?_identified (by decide)]
  rfl

end CrossOrigin

namespace Server

variable {settings : Settings} {outage : Option Text} {ctx : Context} {s : Store} {r : Request}
variable {value : Option Text}

theorem demandOf_identified {t : Target} : demandOf (r.identified value) t = demandOf r t := by
  simp only [demandOf, Request.payload_identified]
  rfl

theorem astray_identified : astray (r.identified value) = astray r := by
  have horigin : origin (r.identified value) = origin r := by
    rw [origin, Request.header?_identified (by decide)]
    rfl
  simp only [astray, redirection, horigin]
  rfl

theorem answerTo_identified :
    answerTo settings outage ctx s (r.identified value) = answerTo settings outage ctx s r := by
  simp only [answerTo, demandOf_identified, astray_identified]
  rfl

/-- The response that is sent, a failure where the server has none. -/
def shown (settings : Settings) (r : Request) : Option Response → Response
  | some response => CrossOrigin.marked settings.origins r response.labelled
  | none => Response.failure.labelled

theorem shown_identified : shown settings (r.identified value) = shown settings r := by
  funext response
  cases response with
  | some response => exact CrossOrigin.marked_identified
  | none => rfl

/-- The outcome of a request with any value in the header for the user. -/
theorem handle_identified : handle settings outage ctx s (r.identified value) =
    match CrossOrigin.preflight? settings.origins r with
    | some response => ⟨response.labelled, s, []⟩
    | none => (respond settings outage ctx s (r.identified value)).map (shown settings r) := by
  unfold handle
  rw [CrossOrigin.preflight?_identified]
  cases CrossOrigin.preflight? settings.origins r with
  | some response => rfl
  | none =>
    have hshown : shown settings (r.identified value) = shown settings r := shown_identified
    rw [← hshown]
    rfl

theorem respond_identified_of_unreadable (h : Caller.ofHeader value = .unreadable) :
    respond settings outage ctx s (r.identified value) = ⟨none, s, []⟩ := by
  unfold respond
  rw [Request.caller_identified, h]

/-- A request whose caller can be read is answered for that caller. -/
theorem respond_identified (h : Caller.ofHeader value ≠ .unreadable) :
    respond settings outage ctx s (r.identified value) =
      answerTo settings outage
        { ctx with user := (Caller.ofHeader value).id?, address := r.client } s r := by
  unfold respond
  rw [Request.caller_identified]
  cases hcaller : Caller.ofHeader value with
  | unreadable => exact absurd hcaller h
  | anonymous => exact answerTo_identified
  | user id => exact answerTo_identified

end Server

end ComplianceRegistry
