import DocScribe.Text.Utf8

/-! Dates with a time of day, as text. Written are a date and a time with separators; read are also
the forms without separators, dates by week, any one character between date and time, fractions of
any length, and a zone at the end. -/

namespace DocScribe.Credential

/-- A date and a time of day, down to the microsecond. -/
structure Moment where
  year : Nat
  month : Nat
  day : Nat
  hour : Nat := 0
  minute : Nat := 0
  second : Nat := 0
  micro : Nat := 0
  deriving DecidableEq, Inhabited

namespace Moment

def isLeap (year : Nat) : Bool := year % 4 == 0 && (year % 100 != 0 || year % 400 == 0)

def monthDays (year month : Nat) : Nat :=
  if month == 2 then (if isLeap year then 29 else 28)
  else if month == 4 || month == 6 || month == 9 || month == 11 then 30 else 31

/-- The days of all years before this one. -/
def daysBeforeYear (year : Nat) : Nat :=
  let past := year - 1
  past * 365 + past / 4 - past / 100 + past / 400

/-- The days of the year before this month. -/
def daysBeforeMonth (year month : Nat) : Nat :=
  (List.range (month - 1)).foldl (fun days earlier => days + monthDays year (earlier + 1)) 0

/-- The number of a date, the first day of year one being 1. -/
def dayNumber (year month day : Nat) : Nat :=
  daysBeforeYear year + daysBeforeMonth year month + day

/-- A date and a time that exist, in the years 1 to 9999. -/
def isValid (moment : Moment) : Bool :=
  1 ≤ moment.year && moment.year ≤ 9999 && 1 ≤ moment.month && moment.month ≤ 12 &&
    1 ≤ moment.day && moment.day ≤ monthDays moment.year moment.month &&
    moment.hour ≤ 23 && moment.minute ≤ 59 && moment.second ≤ 59 && moment.micro ≤ 999999

/-- The seconds since the start of year one. -/
def seconds (moment : Moment) : Nat :=
  (((dayNumber moment.year moment.month moment.day * 24 + moment.hour) * 60 + moment.minute) * 60) +
    moment.second

/-- Comes before another moment, or is the same. -/
def isAtOrBefore (a b : Moment) : Bool :=
  a.seconds < b.seconds || (a.seconds == b.seconds && a.micro ≤ b.micro)

/-- Decimal digits, with zeros in front up to a width. -/
def padded (width n : Nat) : List Char :=
  let digits := Nat.toDigits 10 n
  List.replicate (width - digits.length) '0' ++ digits

/-- The text of a moment; the fraction is written only when there is one. -/
def toText (moment : Moment) : String :=
  .ofList <| padded 4 moment.year ++ '-' :: padded 2 moment.month ++ '-' :: padded 2 moment.day ++
    'T' :: padded 2 moment.hour ++ ':' :: padded 2 moment.minute ++ ':' :: padded 2 moment.second ++
    (if moment.micro == 0 then [] else '.' :: padded 6 moment.micro)

/-- The octets of a text, read one by one; behind the end comes a zero. -/
abbrev Octets := List UInt8

def peek (text : Octets) : Char := Char.ofNat (text.headD 0).toNat

/-- A number of exactly this many digits, and what follows it. -/
def digits? (count : Nat) (text : Octets) : Option (Nat × Octets) :=
  let digits := (text.take count).map fun octet => octet.toNat - 48
  if (text.take count).all (fun octet => 48 ≤ octet && octet ≤ 57) && digits.length == count then
    some (digits.foldl (fun value digit => value * 10 + digit) 0, text.drop count)
  else none

def isDigitAt (text : Octets) (place : Nat) : Bool := (peek (text.drop place)).isDigit

/-- How many octets the date takes. Where the digit of a date by week could also belong to the time,
the time is taken. -/
def dateLength? (text : Octets) : Option Nat :=
  let octetAt (place : Nat) : Char := peek (text.drop place)
  let length := text.length
  if length == 7 then some 7
  else if octetAt 4 == '-' then
    if octetAt 5 == 'W' then
      if length < 8 then none
      else if 8 < length && octetAt 8 == '-' then
        if length == 9 then none
        else if 10 < length && isDigitAt text 10 then some 8
        else some 10
      else some 8
    else some 10
  else if octetAt 4 == 'W' then
    let place := 7 + ((text.drop 7).takeWhile fun octet => 48 ≤ octet && octet ≤ 57).length
    if place < 9 then some place
    else if place % 2 == 0 then some 7 else some 8
  else some 8

/-- The day of the week of a date, Monday being 0. -/
def weekday (year month day : Nat) : Nat := (dayNumber year month day + 6) % 7

/-- The number of the Monday with which the first week of a year starts: the week of its first
Thursday. -/
def firstMonday (year : Nat) : Int :=
  let first : Int := dayNumber year 1 1
  let offset := weekday year 1 1
  if 3 < offset then first + 7 - offset else first - offset

/-- The date with a number, if it is in the years 1 to 9999. -/
def ofDayNumber? (number : Int) : Option (Nat × Nat × Nat) :=
  if number < 1 then none
  else
    let number := number.toNat
    let guess := (number - 1) / 366 + 1
    let year? := (List.range 30).findSome? fun step =>
      let year := guess + step
      if daysBeforeYear year < number && number ≤ daysBeforeYear (year + 1) then some year else none
    year?.bind fun year =>
      if 9999 < year then none
      else
        let inYear := number - daysBeforeYear year
        (List.range 12).findSome? fun step =>
          let month := step + 1
          let before := daysBeforeMonth year month
          if before < inYear && inYear ≤ before + monthDays year month then
            some (year, month, inYear - before)
          else none

/-- A date by week exists: no year has a week 54, and a week 53 only one that starts on a Thursday, or
a leap year that starts on a Wednesday. -/
def isWeek (year week : Nat) : Bool :=
  if 1 ≤ week && week ≤ 52 then true
  else
    week == 53 && (weekday year 1 1 == 3 || (weekday year 1 1 == 2 && isLeap year))

def ofWeek? (year week day : Nat) : Option (Nat × Nat × Nat) :=
  if year < 1 || 9999 < year || !isWeek year week || day < 1 || 7 < day then none
  else ofDayNumber? (firstMonday year + ((week : Int) - 1) * 7 + (day : Int) - 1)

/-- Reads the date at the start of a text, which takes `length` octets. -/
def readDate? (text : Octets) (length : Nat) : Option (Nat × Nat × Nat) := do
  let (year, rest) ← digits? 4 text
  let separated := peek rest == '-'
  let rest := if separated then rest.drop 1 else rest
  if peek rest == 'W' then
    let (week, rest) ← digits? 2 (rest.drop 1)
    if text.length - rest.length < length then
      if separated && peek rest != '-' then none
      else
        let (day, _) ← digits? 1 (if separated then rest.drop 1 else rest)
        ofWeek? year week day
    else ofWeek? year week 1
  else
    let (month, rest) ← digits? 2 rest
    if separated && peek rest != '-' then none
    else
      let (day, rest) ← digits? 2 (if separated then rest.drop 1 else rest)
      if text.length - rest.length == length then some (year, month, day) else none

/-- A time of day as it is read: its parts, and whether something that is no part of it follows. -/
structure Clock where
  parts : List Nat
  micro : Nat
  unread : Bool

/-- Reads the digits after the point: six count, and those behind them are passed over. The text
ends `behind` octets before its end. -/
def readFraction? (parts : List Nat) (text : Octets) (behind : Nat) : Option Clock := do
  let count := min 6 (text.length - behind)
  let (value, rest) ← digits? count text
  let rest := rest.dropWhile fun octet => 48 ≤ octet && octet ≤ 57
  some ⟨parts, value * Nat.pow 10 (6 - count), peek rest != Char.ofNat 0⟩

/-- Reads hours, minutes and seconds, `left` of them, up to `behind` octets before the end of the
text. A colon after the first part has to stand after the others too. -/
def readParts? : (left : Nat) → (parts : List Nat) → (separated : Bool) → Octets → (behind : Nat) →
    Option Clock
  | 0, parts, _, text, behind => readFraction? parts text behind
  | left + 1, parts, separated, text, behind => do
    let (value, rest) ← digits? 2 text
    let parts := parts ++ [value]
    let c := peek rest
    let separated := if parts.length == 1 then c == ':' else separated
    let after := rest.drop 1
    if rest.length ≤ behind + 1 then some ⟨parts, 0, c != Char.ofNat 0⟩
    else if separated && c == ':' then readParts? left parts separated after behind
    else if c == '.' || c == ',' then readFraction? parts after behind
    else if !separated then readParts? left parts separated rest behind
    else none

/-- Where the zone of a time starts; at least one octet comes before it when there is no zone. -/
def zonePlace (text : Octets) : Nat :=
  (text.takeWhile fun octet =>
    let c := Char.ofNat octet.toNat
    c != '+' && c != '-' && c != 'Z').length

def Clock.seconds (clock : Clock) : Nat :=
  (clock.parts.getD 0 0 * 60 + clock.parts.getD 1 0) * 60 + clock.parts.getD 2 0

/-- A time of day and the microseconds by which its zone is ahead, if it has a zone. -/
def readTime? (text : Octets) : Option (Clock × Option Int) := do
  let place := zonePlace text
  let clock ← readParts? 3 [] true text (text.length - place)
  match text.drop place with
  | [] => if clock.unread then none else some (clock, none)
  | mark :: zone =>
    if mark == 90 then
      if zone.headD 0 == 0 then some (clock, some 0) else none
    else
      let offset ← readParts? 3 [] true zone 0
      if offset.unread then none
      else
        let size : Int := offset.seconds * 1000000 + offset.micro
        if 86400000000 ≤ size then none
        else some (clock, some (if mark == 45 then -size else size))

/-- How many octets the character takes that starts with this one. -/
def separatorLength (octet : UInt8) : Nat :=
  if octet < 128 then 1
  else if octet / 16 == 14 then 3
  else if octet / 16 == 15 then 4
  else 2

/-- Reads a moment, and the microseconds by which its zone is ahead, if it has one. -/
def ofText? (text : String) : Option (Moment × Option Int) := do
  let octets := Text.encodeUtf8 text
  if octets.length < 7 then none
  else
    let length ← dateLength? octets
    let (year, month, day) ← readDate? octets length
    let rest := octets.drop length
    let (clock, zone) ←
      if !rest.isEmpty then readTime? (rest.drop (separatorLength (rest.headD 0)))
      else some (⟨[], 0, false⟩, none)
    let moment : Moment :=
      ⟨year, month, day, clock.parts.getD 0 0, clock.parts.getD 1 0, clock.parts.getD 2 0, clock.micro⟩
    if moment.isValid then some (moment, zone) else none

end Moment
end DocScribe.Credential
