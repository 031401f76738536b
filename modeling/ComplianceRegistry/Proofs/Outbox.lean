import ComplianceRegistry.Notifier
import Mathlib.Data.List.Induction
import Mathlib.Data.List.Nodup
import Mathlib.Data.List.Perm.Subperm

/-!
# Deliveries in the background

However the moves of an outbox interleave, its attempts begin in the order in which the
announcements came. So those that have begun are what sending one after another would have made of
the first announcements, with the same requests and the same results, and the order in which they
end makes no difference. An attempt is pending exactly until its end is noted; when nothing can move
any more, every announcement was sent once and nothing is pending.

## Main definitions

* `Outbox.Ended` — an attempt has ended
* `Outbox.Follows` — the invariant of an outbox, given the announcements that came
* `Outbox.IsIdle` — nothing is left to do
* `Outbox.work` — how many moves are left

## Main results

* `Outbox.Follows.move`, `Outbox.Follows.moves` — moves keep the invariant
* `Outbox.Follows.of_isIdle` — what is left in the end
* `Outbox.move_eq_or_work`, `Outbox.isIdle_of_stuck` — every order of moves comes to an end
* `Outbox.isIdle_drain` — draining is one such order
-/

namespace ComplianceRegistry

variable {n : Notifier} {u : Uplink} {a : Announcement} {news begun : List Announcement}

namespace Notifier

theorem sendAll_append {more : List Announcement} : n.sendAll u (news ++ more) =
    ((n.sendAll u news).1 ++ (n.sendAll (n.sendAll u news).2 more).1,
      (n.sendAll (n.sendAll u news).2 more).2) := by
  induction news generalizing u with
  | nil => rfl
  | cons a news ih => simp [sendAll, ih]

@[simp] theorem length_sendAll : (n.sendAll u news).1.length = news.length := by
  induction news generalizing u with
  | nil => rfl
  | cons a news ih => simp [sendAll, ih]

end Notifier

/-- The announcement that comes with a move. -/
def Move.scheduled? : Move → Option Announcement
  | .schedule a => some a
  | _ => none

namespace Outbox

variable {o : Outbox} {i j : Nat} {m : Move} {ms : List Move}

/-- The attempt of this number has ended. -/
def Ended (o : Outbox) (i : Nat) : Prop := ∃ t, o.attempts[i]? = some t ∧ t.ended

instance : Decidable (o.Ended i) :=
  decidable_of_iff (o.attempts[i]?.any (·.ended)) (by
    cases h : o.attempts[i]? <;> simp [Ended, h])

/-- The attempts that have begun are what sending the first announcements one after another comes
to, and the others wait. Those attempts are pending that have not ended, or whose end is not
noted. -/
structure Follows (n : Notifier) (u : Uplink) (news : List Announcement) (o : Outbox) : Prop where
  sent : ∃ begun, news = begun ++ o.waiting ∧
    n.sendAll u begun = (o.attempts.map (·.delivered), o.uplink)
  pending : ∀ i, i ∈ o.pending ↔ i < news.length ∧ (o.Ended i → i ∈ o.unnoted)
  nodup_pending : o.pending.Nodup
  ended : ∀ i ∈ o.unnoted, o.Ended i
  nodup_unnoted : o.unnoted.Nodup

theorem follows_empty : (empty u).Follows n u [] where
  sent := ⟨[], rfl, rfl⟩
  pending := by simp [empty]
  nodup_pending := List.nodup_nil
  ended := by simp [empty]
  nodup_unnoted := List.nodup_nil

theorem ended_of_mem (h : ∀ i < o.attempts.length, o.Ended i) : ∀ t ∈ o.attempts, t.ended := by
  intro t ht
  obtain ⟨i, hi⟩ := List.mem_iff_getElem?.mp ht
  obtain ⟨t', ht', hended⟩ := h i (List.getElem?_eq_some_iff.mp hi).1
  obtain rfl : t = t' := Option.some.inj (hi.symm.trans ht')
  exact hended

theorem Ended.lt (h : o.Ended i) : i < o.attempts.length := by
  obtain ⟨t, ht, -⟩ := h
  exact (List.getElem?_eq_some_iff.mp ht).1

theorem move_finish {delivered : Bool} (h : o.attempts[i]? = some ⟨delivered, false⟩) :
    o.move n (.finish i) =
      { o with
        attempts := o.attempts.set i ⟨delivered, true⟩
        unnoted := o.unnoted ++ [i] } := by
  simp only [move, h]

/-- An attempt has ended after its end, and what had ended before stays so. -/
theorem ended_move_finish :
    (o.move n (.finish i)).Ended j ↔ o.Ended j ∨ j = i ∧ i < o.attempts.length := by
  cases hattempt : o.attempts[i]? with
  | none =>
    have hle := List.getElem?_eq_none_iff.mp hattempt
    simp only [move, hattempt]
    exact ⟨.inl, fun hj => hj.elim id fun hj => absurd hj.2 (Nat.not_lt.mpr hle)⟩
  | some t =>
    have hlt := (List.getElem?_eq_some_iff.mp hattempt).1
    obtain ⟨delivered, ended⟩ := t
    cases ended with
    | false =>
      rw [move_finish hattempt]
      by_cases hij : j = i
      · subst hij
        simp [Ended, hlt]
      · simp [Ended, List.getElem?_set_ne (Ne.symm hij), hij]
    | true =>
      have hi : o.Ended i := ⟨_, hattempt, rfl⟩
      simp only [move, hattempt]
      exact ⟨.inl, fun hj => hj.elim id fun hj => hj.1 ▸ hi⟩

namespace Follows

variable (h : o.Follows n u news)

include h

theorem length_eq : o.attempts.length + o.waiting.length = news.length := by
  obtain ⟨begun, rfl, hsent⟩ := h.sent
  have hlength := congrArg (fun r => r.1.length) hsent
  simp only [Notifier.length_sendAll, List.length_map] at hlength
  rw [List.length_append, hlength]

/-- What has not begun has not ended. -/
theorem not_ended_length : ¬o.Ended news.length := by
  intro hended
  have hlt := hended.lt
  have hlength := h.length_eq
  omega

theorem schedule : (o.schedule a).Follows n u (news ++ [a]) where
  sent := by
    obtain ⟨begun, rfl, hsent⟩ := h.sent
    exact ⟨begun, by simp [Outbox.schedule], hsent⟩
  pending := by
    intro i
    have hended : (o.schedule a).Ended i ↔ o.Ended i := Iff.rfl
    -- the new attempt has the number of announcements that came before
    simp only [Outbox.schedule, List.mem_append, List.mem_singleton, h.length_eq,
      List.length_append, List.length_singleton]
    constructor
    · rintro (hi | rfl)
      · obtain ⟨hlt, hunnoted⟩ := (h.pending i).mp hi
        exact ⟨by omega, hunnoted⟩
      · exact ⟨by omega, fun hi => absurd hi h.not_ended_length⟩
    · rintro ⟨hlt, hunnoted⟩
      by_cases hi : i = news.length
      · exact .inr hi
      · exact .inl ((h.pending i).mpr ⟨by omega, hunnoted⟩)
  nodup_pending := by
    refine List.nodup_append.mpr ⟨h.nodup_pending, by simp, ?_⟩
    rintro i hi _ hlast rfl
    rw [List.mem_singleton.mp hlast, h.length_eq] at hi
    exact absurd ((h.pending _).mp hi).1 (Nat.lt_irrefl _)
  ended := h.ended
  nodup_unnoted := h.nodup_unnoted

/-- The first attempt that waits begins as it would after all others. -/
theorem start : (o.move n .start).Follows n u news := by
  obtain ⟨begun, hnews, hsent⟩ := h.sent
  cases hwaiting : o.waiting with
  | nil =>
    simp only [move, hwaiting]
    exact h
  | cons a rest =>
    have hended (i : Nat) : (o.move n .start).Ended i ↔ o.Ended i := by
      simp only [Ended, move, hwaiting]
      grind
    refine ⟨⟨begun ++ [a], ?_, ?_⟩, fun i => ?_, ?_, ?_, ?_⟩
    · simp [move, hnews, hwaiting]
    · -- its request comes after those of all attempts that have begun, whether they ended or not
      rw [Notifier.sendAll_append, hsent]
      simp [move, hwaiting, Notifier.sendAll]
    · rw [hended]
      simpa only [move, hwaiting] using h.pending i
    · simpa only [move, hwaiting] using h.nodup_pending
    · intro i hi
      rw [hended]
      exact h.ended i (by simpa only [move, hwaiting] using hi)
    · simpa only [move, hwaiting] using h.nodup_unnoted

/-- An attempt that ends stays pending until its end is noted. -/
theorem finish : (o.move n (.finish i)).Follows n u news := by
  by_cases hopen : ∃ delivered, o.attempts[i]? = some ⟨delivered, false⟩
  · obtain ⟨delivered, hattempt⟩ := hopen
    have hlt := (List.getElem?_eq_some_iff.mp hattempt).1
    have hnot : ¬o.Ended i := by
      rintro ⟨t, ht, hended⟩
      rw [hattempt, Option.some.injEq] at ht
      simp [← ht] at hended
    have hended (j : Nat) : (o.move n (.finish i)).Ended j ↔ o.Ended j ∨ j = i := by
      rw [ended_move_finish, and_iff_left hlt]
    refine ⟨?_, fun j => ?_, ?_, fun j => ?_, ?_⟩
    · obtain ⟨begun, hnews, hsent⟩ := h.sent
      -- what comes of the attempt was settled when it began
      have hvalue : (o.attempts.map (·.delivered))[i]? = some delivered := by
        rw [List.getElem?_map, hattempt]
        rfl
      obtain ⟨_, hvalue⟩ := List.getElem?_eq_some_iff.mp hvalue
      have hsame : (o.attempts.set i ⟨delivered, true⟩).map (·.delivered) =
          o.attempts.map (·.delivered) := by
        rw [List.map_set, ← hvalue]
        exact List.set_getElem_self _
      rw [move_finish hattempt]
      exact ⟨begun, hnews, by rw [hsent, hsame]⟩
    · rw [hended, move_finish hattempt, h.pending, List.mem_append, List.mem_singleton]
      grind
    · rw [move_finish hattempt]
      exact h.nodup_pending
    · rw [hended, move_finish hattempt, List.mem_append, List.mem_singleton]
      exact Or.imp_left (h.ended j)
    · rw [move_finish hattempt]
      refine List.nodup_append.mpr ⟨h.nodup_unnoted, by simp, ?_⟩
      rintro j hj _ hi rfl
      exact hnot (List.mem_singleton.mp hi ▸ h.ended j hj)
  · have hmove : o.move n (.finish i) = o := by
      simp only [move]
      split
      · next delivered hattempt => exact absurd ⟨delivered, hattempt⟩ hopen
      · rfl
    rw [hmove]
    exact h

/-- An attempt whose end is noted is pending no more. -/
theorem note : (o.move n .note).Follows n u news := by
  cases hunnoted : o.unnoted with
  | nil =>
    simp only [move, hunnoted]
    exact h
  | cons i rest =>
    have hnodup := h.nodup_unnoted
    rw [hunnoted, List.nodup_cons] at hnodup
    have hi : o.Ended i := h.ended i (by simp [hunnoted])
    have hmove : o.move n .note = { o with pending := o.pending.erase i, unnoted := rest } := by
      simp only [move, hunnoted]
    rw [hmove]
    refine ⟨h.sent, fun j => ?_, h.nodup_pending.erase i,
      fun j hj => h.ended j (by simp [hunnoted, show j ∈ rest from hj]), hnodup.2⟩
    have hended : ({ o with pending := o.pending.erase i, unnoted := rest } : Outbox).Ended j ↔
        o.Ended j := Iff.rfl
    rw [hended, h.nodup_pending.mem_erase_iff, h.pending, hunnoted, List.mem_cons]
    by_cases hij : j = i
    · subst hij
      exact iff_of_false (fun hj => hj.1 rfl) fun hj => hnodup.1 (hj.2 hi)
    · simp [hij]

/-- Moves keep the invariant; an announcement that comes with a move counts from then on. -/
theorem move (m : Move) : (o.move n m).Follows n u (news ++ m.scheduled?.toList) := by
  cases m with
  | schedule a => exact h.schedule
  | start => simpa [Move.scheduled?] using h.start
  | finish i => simpa [Move.scheduled?] using h.finish
  | note => simpa [Move.scheduled?] using h.note

/-- Any moves keep the invariant. -/
theorem moves (ms : List Move) :
    (o.moves n ms).Follows n u (news ++ ms.filterMap Move.scheduled?) := by
  induction ms generalizing o news with
  | nil => simpa [Outbox.moves] using h
  | cons m ms ih =>
    have hnext := ih (h.move m)
    cases hm : m.scheduled? <;> simpa [Outbox.moves, hm, List.filterMap_cons] using hnext

end Follows

/-! ### Nothing left to do -/

/-- Nothing waits, all attempts have ended, and all ends are noted. -/
structure IsIdle (o : Outbox) : Prop where
  waiting : o.waiting = []
  ended : ∀ t ∈ o.attempts, t.ended
  unnoted : o.unnoted = []

theorem IsIdle.ended_of_lt (h : o.IsIdle) (hi : i < o.attempts.length) : o.Ended i :=
  ⟨_, List.getElem?_eq_getElem hi, h.ended _ (List.getElem_mem hi)⟩

/-- In the end nothing is pending, and the results and requests are those of sending the
announcements one after another. -/
theorem Follows.of_isIdle (h : o.Follows n u news) (hidle : o.IsIdle) :
    o.pending = [] ∧ (o.results, o.uplink) = n.sendAll u news := by
  constructor
  · refine List.eq_nil_iff_forall_not_mem.mpr fun i hi => ?_
    obtain ⟨hlt, hunnoted⟩ := (h.pending i).mp hi
    have hlength := h.length_eq
    rw [hidle.waiting, List.length_nil, Nat.add_zero] at hlength
    have hnoted := hunnoted (hidle.ended_of_lt (hlength ▸ hlt))
    rw [hidle.unnoted] at hnoted
    cases hnoted
  · obtain ⟨begun, hnews, hsent⟩ := h.sent
    rw [hidle.waiting, List.append_nil] at hnews
    rw [hnews, hsent, results, List.filter_eq_self.mpr hidle.ended]

/-- How many moves are left, if no more announcements come: three for each announcement that waits,
two for each attempt that has not ended, and one for each end that is not noted. -/
def work (o : Outbox) : Nat :=
  3 * o.waiting.length + 2 * o.attempts.countP (!·.ended) + o.unnoted.length

/-- A move changes nothing, or it is one of those that were left. -/
theorem move_eq_or_work (hm : m.scheduled? = none) :
    o.move n m = o ∨ (o.move n m).work + 1 = o.work := by
  cases m with
  | schedule a => cases hm
  | start =>
    cases hwaiting : o.waiting with
    | nil => exact .inl (by simp only [move, hwaiting])
    | cons a rest =>
      refine .inr ?_
      simp [move, hwaiting, work, List.countP_append]
      omega
  | finish i =>
    simp only [move]
    split
    · next delivered hattempt =>
      obtain ⟨hlt, hattempt⟩ := List.getElem?_eq_some_iff.mp hattempt
      have hpos : 0 < o.attempts.countP (!·.ended) :=
        List.countP_pos_iff.mpr ⟨_, List.getElem_mem hlt, by simp [hattempt]⟩
      refine .inr ?_
      simp [work, List.countP_set hlt, hattempt]
      omega
    · exact .inl rfl
  | note =>
    cases hunnoted : o.unnoted with
    | nil => exact .inl (by simp only [move, hunnoted])
    | cons i rest =>
      refine .inr ?_
      simp [move, hunnoted, work]
      omega

/-- When no move changes anything any more, nothing is left to do. -/
theorem isIdle_of_stuck (h : ∀ m : Move, m.scheduled? = none → o.move n m = o) : o.IsIdle := by
  -- whatever was left to do, the move that does it would show in the list that it changes
  refine ⟨?_, fun t ht => ?_, ?_⟩
  · by_contra hwaiting
    obtain ⟨a, rest, hwaiting⟩ := List.exists_cons_of_ne_nil hwaiting
    have hsame := congrArg Outbox.waiting (h .start rfl)
    simp [move, hwaiting] at hsame
  · by_contra hended
    obtain ⟨i, hi⟩ := List.mem_iff_getElem?.mp ht
    obtain ⟨delivered, ended⟩ := t
    obtain rfl : ended = false := by simpa using hended
    have hsame := congrArg Outbox.unnoted (h (.finish i) rfl)
    simp [move, hi] at hsame
  · by_contra hunnoted
    obtain ⟨i, rest, hunnoted⟩ := List.exists_cons_of_ne_nil hunnoted
    have hsame := congrArg Outbox.unnoted (h .note rfl)
    simp [move, hunnoted] at hsame

/-! ### Draining -/

theorem moves_append {more : List Move} :
    o.moves n (ms ++ more) = (o.moves n ms).moves n more := List.foldl_append

theorem moves_start {waiting : List Announcement} (h : o.waiting = waiting) :
    (o.moves n (waiting.map fun _ => .start)).waiting = [] ∧
      (o.moves n (waiting.map fun _ => .start)).pending = o.pending := by
  induction waiting generalizing o with
  | nil => exact ⟨h, rfl⟩
  | cons a rest ih =>
    have hmove : (o.move n .start).waiting = rest ∧ (o.move n .start).pending = o.pending := by
      simp [move, h]
    obtain ⟨hwaiting, hpending⟩ := ih hmove.1
    exact ⟨hwaiting, hpending.trans hmove.2⟩

theorem moves_finish (o : Outbox) (is : List Nat) :
    (o.moves n (is.map .finish)).waiting = o.waiting ∧
      (o.moves n (is.map .finish)).pending = o.pending ∧
      (o.moves n (is.map .finish)).attempts.length = o.attempts.length ∧
      ∀ j, o.Ended j ∨ j ∈ is ∧ j < o.attempts.length → (o.moves n (is.map .finish)).Ended j := by
  induction is generalizing o with
  | nil => exact ⟨rfl, rfl, rfl, fun j hj => hj.elim id fun hj => nomatch hj.1⟩
  | cons i is ih =>
    have hmove : (o.move n (.finish i)).waiting = o.waiting ∧
        (o.move n (.finish i)).pending = o.pending ∧
        (o.move n (.finish i)).attempts.length = o.attempts.length := by
      simp only [move]
      split <;> simp
    obtain ⟨hwaiting, hpending, hlength, hended⟩ := ih (o.move n (.finish i))
    refine ⟨hwaiting.trans hmove.1, hpending.trans hmove.2.1, hlength.trans hmove.2.2,
      fun j hj => hended j ?_⟩
    rw [ended_move_finish, hmove.2.2]
    rcases hj with hj | ⟨hj, hlt⟩
    · exact .inl (.inl hj)
    · rcases List.mem_cons.mp hj with rfl | hj
      · exact .inl (.inr ⟨rfl, hlt⟩)
      · exact .inr ⟨hj, hlt⟩

theorem moves_note (o : Outbox) (is : List Nat) :
    (o.moves n (is.map fun _ => .note)).waiting = o.waiting ∧
      (o.moves n (is.map fun _ => .note)).attempts = o.attempts ∧
      (o.moves n (is.map fun _ => .note)).unnoted = o.unnoted.drop is.length := by
  induction is generalizing o with
  | nil => exact ⟨rfl, rfl, rfl⟩
  | cons i is ih =>
    have hmove : (o.move n .note).waiting = o.waiting ∧
        (o.move n .note).attempts = o.attempts ∧ (o.move n .note).unnoted = o.unnoted.drop 1 := by
      simp only [move]
      split <;> simp [*]
    obtain ⟨hwaiting, hattempts, hunnoted⟩ := ih (o.move n .note)
    refine ⟨hwaiting.trans hmove.1, hattempts.trans hmove.2.1, hunnoted.trans ?_⟩
    rw [hmove.2.2, List.drop_drop, List.length_cons, Nat.add_comm]

/-- Moves that bring no announcements. -/
theorem Follows.moves_of_unscheduled (h : o.Follows n u news) (ms : List Move)
    (hms : ms.filterMap Move.scheduled? = []) : (o.moves n ms).Follows n u news := by
  simpa [hms] using h.moves ms

/-- Ends that are not noted are those of pending attempts, so that there are no more of them. -/
theorem Follows.length_unnoted_le (h : o.Follows n u news) :
    o.unnoted.length ≤ o.pending.length := by
  refine (h.nodup_unnoted.subperm fun i hi => ?_).length_le
  have hlt := (h.ended i hi).lt
  have hlength := h.length_eq
  exact (h.pending i).mpr ⟨by omega, fun _ => hi⟩

/-- After draining nothing is left to do. -/
theorem Follows.isIdle_drain (h : o.Follows n u news) : (o.drain n).IsIdle := by
  -- the invariant holds after each of the three rounds, and says what the next one finds
  rw [drain, moves_append, moves_append]
  obtain ⟨hwaiting, hpending⟩ := moves_start (n := n) (o := o) rfl
  have hbegun := h.moves_of_unscheduled (o.waiting.map fun _ => .start) (by simp [Move.scheduled?])
  generalize o.moves n (o.waiting.map fun _ => .start) = begun at *
  obtain ⟨hwaiting', hpending', hlength, hended⟩ :=
    moves_finish begun o.pending
  have hfinished := hbegun.moves_of_unscheduled (o.pending.map .finish) (by simp [Move.scheduled?])
  generalize begun.moves n (o.pending.map .finish) = finished at *
  obtain ⟨hwaiting'', hattempts, hunnoted⟩ := moves_note finished o.pending
  have hnumber := hbegun.length_eq
  rw [hwaiting, List.length_nil, Nat.add_zero] at hnumber
  refine ⟨hwaiting''.trans (hwaiting'.trans hwaiting), hattempts ▸ ended_of_mem fun i hi => ?_, ?_⟩
  · rw [hlength] at hi
    by_cases hi' : begun.Ended i
    · exact hended i (.inl hi')
    · -- an attempt that has not ended yet is pending
      have hmem := (hbegun.pending i).mpr ⟨hnumber ▸ hi, fun h => absurd h hi'⟩
      exact hended i (.inr ⟨hpending ▸ hmem, hi⟩)
  · rw [hunnoted, List.drop_eq_nil_iff]
    exact (hpending'.trans hpending) ▸ hfinished.length_unnoted_le

theorem Follows.drain (h : o.Follows n u news) : (o.drain n).Follows n u news :=
  h.moves_of_unscheduled _ (by simp [Move.scheduled?, List.filterMap_map, Function.comp_def])

/-! ### Announcements that come together -/

theorem follows_scheduled : (news.foldl Outbox.schedule (empty u)).Follows n u news := by
  induction news using List.reverseRecOn with
  | nil => exact follows_empty
  | append_singleton news a ih =>
    rw [List.foldl_append]
    exact ih.schedule

/-- Right after they came, all are pending. -/
theorem pending_scheduled :
    (news.foldl Outbox.schedule (empty u)).pending = List.range news.length := by
  induction news using List.reverseRecOn with
  | nil => rfl
  | append_singleton news a ih =>
    have hscheduled : (news.foldl Outbox.schedule (empty u)).Follows ⟨[]⟩ u news :=
      follows_scheduled
    rw [List.foldl_append, List.length_append, List.length_singleton, List.range_succ]
    simp [Outbox.schedule, ih, hscheduled.length_eq]

/-- Draining an outbox to which announcements came is to send them one after another. -/
theorem uplink_drain :
    ((news.foldl Outbox.schedule (empty u)).drain n).uplink = (n.sendAll u news).2 :=
  congrArg Prod.snd (follows_scheduled.drain.of_isIdle follows_scheduled.isIdle_drain).2

end Outbox

end ComplianceRegistry
