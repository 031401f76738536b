import ComplianceRegistry.Text.Basic

/-!
# Instants

Rows and announcements carry instants of a calendar clock without zone, to the microsecond. An
instant is its count of microseconds, and the calendar is the Gregorian one extended to all days.

## Main definitions

* `Instant` — microseconds since the first of January 1970
* `Instant.ofCivil?` — the instant of a date and time of day, if there is such a date
* `Instant.iso`, `Instant.display` — the two written forms, which differ in what stands between
  date and time
-/

namespace ComplianceRegistry

/-- Microseconds since the start of the first of January 1970. -/
structure Instant where
  micros : Int
deriving DecidableEq, Repr, Inhabited

/-- A date of the Gregorian calendar. -/
structure Date where
  year : Int
  month : Nat
  day : Nat
deriving DecidableEq, Repr

namespace Date

/-- Years that four divides, save the centuries that four hundred does not divide. -/
def isLeap (year : Int) : Bool := year % 4 == 0 && (year % 100 != 0 || year % 400 == 0)

/-- The length of a month, zero for a number that names none. -/
def monthLength (year : Int) : Nat → Nat
  | 2 => if isLeap year then 29 else 28
  | 4 | 6 | 9 | 11 => 30
  | 1 | 3 | 5 | 7 | 8 | 10 | 12 => 31
  | _ => 0

/-- Days from the first of January 1970. A year is counted from March, so that the leap day is its
last, and four centuries always have 146097 days. -/
def toDays (d : Date) : Int :=
  let year := if d.month ≤ 2 then d.year - 1 else d.year
  let era := year / 400
  let yearOfEra := year % 400
  let month : Int := (d.month + 9) % 12
  let dayOfYear := (153 * month + 2) / 5 + d.day - 1
  let dayOfEra := yearOfEra * 365 + yearOfEra / 4 - yearOfEra / 100 + dayOfYear
  era * 146097 + dayOfEra - 719468

/-- The date of a day counted from the first of January 1970. -/
def ofDays (days : Int) : Date :=
  let shifted := days + 719468
  let era := shifted / 146097
  let dayOfEra := shifted % 146097
  let yearOfEra := (dayOfEra - dayOfEra / 1460 + dayOfEra / 36524 - dayOfEra / 146096) / 365
  let dayOfYear := dayOfEra - (365 * yearOfEra + yearOfEra / 4 - yearOfEra / 100)
  let month := (5 * dayOfYear + 2) / 153
  let day := dayOfYear - (153 * month + 2) / 5 + 1
  let civilMonth := if month < 10 then month + 3 else month - 9
  { year := yearOfEra + era * 400 + (if civilMonth ≤ 2 then 1 else 0)
    month := civilMonth.toNat
    day := day.toNat }

end Date

namespace Instant

/-- The microseconds of a day. -/
def dayLength : Int := 86400000000

/-- The instant of a date and a time of day; none if the calendar has no such date, the clock no
such time, or the year is not from one to 9999. -/
def ofCivil? (year month day hour minute second micro : Int) : Option Instant :=
  if 1 ≤ year ∧ year ≤ 9999 ∧ 1 ≤ month ∧ 1 ≤ day ∧
      day ≤ Date.monthLength year month.toNat ∧ 0 ≤ hour ∧ hour < 24 ∧ 0 ≤ minute ∧
      minute < 60 ∧ 0 ≤ second ∧ second < 60 ∧ 0 ≤ micro ∧ micro < 1000000 then
    let days := Date.toDays { year, month := month.toNat, day := day.toNat }
    some ⟨days * dayLength + ((hour * 60 + minute) * 60 + second) * 1000000 + micro⟩
  else none

/-- The instant that many microseconds later. -/
def after (t : Instant) (micros : Int) : Instant := ⟨t.micros + micros⟩

/-- Date and time with the given text between them. The microseconds are written, in six digits,
only when there are any. -/
def written (between : Text) (t : Instant) : Text :=
  let date := Date.ofDays (t.micros / dayLength)
  let time := (t.micros % dayLength).toNat
  let seconds := time / 1000000
  let micro := time % 1000000
  Text.zeroPadded 4 date.year.toNat ++ ("-" : Text) ++ Text.zeroPadded 2 date.month ++
    ("-" : Text) ++ Text.zeroPadded 2 date.day ++ between ++
    Text.zeroPadded 2 (seconds / 3600) ++ (":" : Text) ++
    Text.zeroPadded 2 (seconds / 60 % 60) ++ (":" : Text) ++ Text.zeroPadded 2 (seconds % 60) ++
    (if micro = 0 then [] else ("." : Text) ++ Text.zeroPadded 6 micro)

/-- The form of answers and payloads, with the letter T. -/
def iso (t : Instant) : Text := t.written "T"

/-- The form of the audit trail, with a blank. -/
def display (t : Instant) : Text := t.written " "

end Instant

end ComplianceRegistry
