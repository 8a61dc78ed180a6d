import DocScribe.Proofs.Credential.Calendar
import Mathlib.Algebra.Order.Ring.Rat

/-! Dates with a time of day as ISO 8601 writes them, and the instants that they denote. Instants are counted in seconds
of UTC, with fractions of any length. -/

namespace DocScribe.Credential
open Moment (padded)

/-- A date by month and day, by week and day of the week, or by the day of the year. -/
inductive WrittenDate where
  | calendar (year month day : Nat)
  | week (year nth day : Nat)
  | ordinal (year day : Nat)

namespace WrittenDate

def hyphen (separated : Bool) : List Char := if separated then ['-'] else []

def text (separated : Bool) : WrittenDate → List Char
  | .calendar year month day => padded 4 year ++ hyphen separated ++ padded 2 month ++ hyphen separated ++ padded 2 day
  | .week year nth day => padded 4 year ++ hyphen separated ++ 'W' :: padded 2 nth ++ hyphen separated ++ padded 1 day
  | .ordinal year day => padded 4 year ++ hyphen separated ++ padded 3 day

/-- The date exists. Years before 1 are written by agreement only. -/
def IsValid : WrittenDate → Prop
  | .calendar year month day => Moment.IsDate year month day
  | .week year nth day => (1 ≤ year ∧ year ≤ 9999) ∧
      (1 ≤ nth ∧ Moment.weekOne year + (nth - 1) * 7 < Moment.weekOne (year + 1)) ∧ 1 ≤ day ∧ day ≤ 7
  | .ordinal year day => (1 ≤ year ∧ year ≤ 9999) ∧ 1 ≤ day ∧ day ≤ Moment.yearDays year

/-- The number of the day. -/
def number : WrittenDate → Nat
  | .calendar year month day => Moment.dayNumber year month day
  | .week year nth day => Moment.weekOne year + (nth - 1) * 7 + (day - 1)
  | .ordinal year day => Moment.daysBeforeYear year + day

def isOrdinal : WrittenDate → Bool
  | .ordinal .. => true
  | _ => false

end WrittenDate

/-- A time of day, to the hour, the minute or the second, with a fraction of the last of these if it has decimal places.
The smaller parts are the minutes and the seconds. -/
structure WrittenTime where
  hour : Nat
  smaller : List Nat := []
  separated : Bool := true
  places : Nat := 0
  fraction : Nat := 0
  comma : Bool := false

namespace WrittenTime

def smallerText (separated : Bool) (smaller : List Nat) : List Char :=
  smaller.flatMap fun part => (if separated then [':'] else []) ++ padded 2 part

def fractionText (time : WrittenTime) : List Char :=
  if time.places = 0 then [] else (if time.comma then ',' else '.') :: padded time.places time.fraction

def text (time : WrittenTime) : List Char :=
  padded 2 time.hour ++ smallerText time.separated time.smaller ++ time.fractionText

def minute (time : WrittenTime) : Nat := time.smaller.getD 0 0

def second (time : WrittenTime) : Nat := time.smaller.getD 1 0

/-- The seconds since midnight. -/
def seconds (time : WrittenTime) : ℚ :=
  (time.hour * 60 + time.minute) * 60 + time.second +
    time.fraction / 10 ^ time.places * 60 ^ (2 - time.smaller.length)

/-- The end of the day is written as its hour 24, and a leap second as its second 60. -/
structure IsValid (time : WrittenTime) : Prop where
  hours : time.hour ≤ 23 ∨ time.hour = 24 ∧ time.minute = 0 ∧ time.second = 0 ∧ time.fraction = 0
  parts : time.smaller.length ≤ 2
  minutes : time.minute ≤ 59
  seconds : time.second ≤ 60
  fractions : time.fraction < 10 ^ time.places

/-- Has no fraction but one of a second, with six digits at most. -/
def IsExact (time : WrittenTime) : Prop := time.fraction = 0 ∨ time.smaller.length = 2 ∧ time.places ≤ 6

/-- Is before the end of the day, and no leap second. -/
def IsUsual (time : WrittenTime) : Prop := time.hour ≤ 23 ∧ time.second ≤ 59

/-- The microseconds that the digits of the fraction are taken for. -/
def micro (time : WrittenTime) : Nat := time.fraction * 10 ^ 6 / 10 ^ time.places

/-- The part of the fraction that is not in these microseconds: all behind the sixth digit, and, of a fraction of an
hour or a minute, also what it is more than the same fraction of a second. -/
def lost (time : WrittenTime) : ℚ :=
  time.fraction / 10 ^ time.places * 60 ^ (2 - time.smaller.length) - time.micro / 10 ^ 6

end WrittenTime

/-- None, which means UTC, the letter for UTC, or the time by which the clock is ahead of UTC or behind it. -/
inductive WrittenZone where
  | absent
  | utc
  | offset (behind : Bool) (size : WrittenTime)

namespace WrittenZone

def text : WrittenZone → List Char
  | .absent => []
  | .utc => ['Z']
  | .offset behind size => (if behind then '-' else '+') :: size.text

def IsValid : WrittenZone → Prop
  | .offset _ size => size.IsValid ∧ size.IsUsual ∧ size.places = 0
  | _ => True

/-- The seconds by which the clock is ahead of UTC. -/
def seconds : WrittenZone → ℚ
  | .offset behind size => if behind then -size.seconds else size.seconds
  | _ => 0

end WrittenZone

/-- A date with a time of day and a zone. -/
structure Stamp where
  date : WrittenDate
  hyphens : Bool := true
  time : WrittenTime
  zone : WrittenZone := .absent

namespace Stamp

def text (stamp : Stamp) : String :=
  .ofList (stamp.date.text stamp.hyphens ++ 'T' :: stamp.time.text ++ stamp.zone.text)

structure IsValid (stamp : Stamp) : Prop where
  date : stamp.date.IsValid
  time : stamp.time.IsValid
  zone : stamp.zone.IsValid

/-- The instant that is denoted. -/
def instant (stamp : Stamp) : ℚ := stamp.date.number * 86400 + stamp.time.seconds - stamp.zone.seconds

/-- Is in a form that is taken for a date: not by the day of the year, not behind the last day of year 9999, not at the
end of a day, and no leap second. -/
def IsReadable (stamp : Stamp) : Prop :=
  stamp.date.isOrdinal = false ∧ stamp.date.number ≤ Moment.lastDay ∧ stamp.time.IsUsual

end Stamp

namespace Moment

/-- The instant of a moment in UTC. -/
def instant (moment : Moment) : ℚ := moment.seconds + moment.micro / 10 ^ 6

end Moment
end DocScribe.Credential
