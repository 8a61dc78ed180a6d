import DocScribe.Proofs.Credential.TimeReading
import Mathlib.Data.List.Basic

/-! What the reader takes from a date in one of the forms of ISO 8601: how long it is, and which day it is. -/

namespace DocScribe.Credential
open Moment

section Dates
variable {year : Nat} {c : Char} {more : List Char}

theorem drop_year (fits : year < 10 ^ 4) (count : Nat) (more : List Char) :
    (written (padded 4 year ++ more)).drop (4 + count) = (written more).drop count := by
  have length := padded_length (by decide : 0 < 4) fits
  rw [← List.drop_drop, written, List.map_append, List.drop_left' ((List.length_map _).trans length)]

theorem length_year (fits : year < 10 ^ 4) (more : List Char) : (written (padded 4 year ++ more)).length = 4 + more.length := by
  rw [written, List.length_map, List.length_append, padded_length (by decide) fits]

/-- How many octets a date takes. -/
def dateLength (separated : Bool) : Nat := if separated then 10 else 8

/-- The octet behind the year decides how long a date is. -/
theorem dateLength?_digit (fits : year < 10 ^ 4) (digit : c.isDigit = true) (long : 3 ≤ more.length) :
    dateLength? (written (padded 4 year ++ c :: more)) = some 8 := by
  have small := isDigit_small digit
  have long : (4 + (more.length + 1) == 7) = false := beq_false_of_ne (by omega)
  have four : peek ((written (padded 4 year ++ c :: more)).drop 4) = c :=
    (congrArg peek (drop_year fits 0 _)).trans (peek_written (by omega))
  simp only [dateLength?, length_year fits, List.length_cons, long, four, digit_ne digit '-' rfl, digit_ne digit 'W' rfl,
    Bool.false_eq_true, if_false]

private theorem dateLength?_hyphenDigit (fits : year < 10 ^ 4) (digit : c.isDigit = true) (long : 2 ≤ more.length) :
    dateLength? (written (padded 4 year ++ '-' :: c :: more)) = some 10 := by
  have small := isDigit_small digit
  have long : (4 + (more.length + 1 + 1) == 7) = false := beq_false_of_ne (by omega)
  have four : peek ((written (padded 4 year ++ '-' :: c :: more)).drop 4) = '-' :=
    (congrArg peek (drop_year fits 0 _)).trans (peek_written (by decide))
  have five : peek ((written (padded 4 year ++ '-' :: c :: more)).drop 5) = c :=
    (congrArg peek (drop_year fits 1 _)).trans (peek_written (by omega))
  simp only [dateLength?, length_year fits, List.length_cons, long, four, five, digit_ne digit 'W' rfl, beq_self_eq_true,
    Bool.false_eq_true, if_true, if_false]

private theorem dateLength?_padded (fits : year < 10 ^ 4) {width n : Nat} (positive : 0 < width) (small : n < 10 ^ width) (separated : Bool)
    (long : 4 ≤ width + more.length) :
    dateLength? (written (padded 4 year ++ (WrittenDate.hyphen separated ++ (padded width n ++ more)))) =
      some (dateLength separated) := by
  obtain ⟨c, last, same, digit⟩ := exists_padded positive small
  have length := padded_length positive small
  rw [same, List.length_cons] at length
  rw [same, List.cons_append]
  cases separated with
  | true => exact dateLength?_hyphenDigit fits digit (by rw [List.length_append]; omega)
  | false => exact dateLength?_digit fits digit (by rw [List.length_append]; omega)

private theorem dateLength?_week (fits : year < 10 ^ 4) {a b d : Char} (digit : d.isDigit = true) :
    dateLength? (written (padded 4 year ++ 'W' :: a :: b :: d :: 'T' :: more)) = some 8 := by
  have long : (4 + (more.length + 1 + 1 + 1 + 1 + 1) == 7) = false := beq_false_of_ne (by omega)
  have four : peek ((written (padded 4 year ++ 'W' :: a :: b :: d :: 'T' :: more)).drop 4) = 'W' :=
    (congrArg peek (drop_year fits 0 _)).trans (peek_written (by decide))
  have seven : (written (padded 4 year ++ 'W' :: a :: b :: d :: 'T' :: more)).drop 7 = written (d :: 'T' :: more) :=
    drop_year fits 3 _
  have taken : (written (d :: 'T' :: more)).takeWhile (fun octet => 48 ≤ octet && octet ≤ 57) = [Text.octet d] := by
    simp only [written, List.map_cons, List.takeWhile_cons, octet_inRange digit, if_true]
    rfl
  have hyphen : ('W' == '-') = false := rfl
  simp only [dateLength?, length_year fits, List.length_cons, List.length_nil, long, four, seven, taken, hyphen, beq_self_eq_true,
    Bool.false_eq_true, if_true, if_false]
  rfl

private theorem dateLength?_hyphenWeek (fits : year < 10 ^ 4) {a b d : Char} :
    dateLength? (written (padded 4 year ++ '-' :: 'W' :: a :: b :: '-' :: d :: 'T' :: more)) = some 10 := by
  have long : (4 + (more.length + 1 + 1 + 1 + 1 + 1 + 1 + 1) == 7) = false := beq_false_of_ne (by omega)
  have longer : ¬ 4 + (more.length + 1 + 1 + 1 + 1 + 1 + 1 + 1) < 8 := by omega
  have further : 8 < 4 + (more.length + 1 + 1 + 1 + 1 + 1 + 1 + 1) := by omega
  have furthest : (4 + (more.length + 1 + 1 + 1 + 1 + 1 + 1 + 1) == 9) = false := beq_false_of_ne (by omega)
  have four : peek ((written (padded 4 year ++ '-' :: 'W' :: a :: b :: '-' :: d :: 'T' :: more)).drop 4) = '-' :=
    (congrArg peek (drop_year fits 0 _)).trans (peek_written (by decide))
  have five : peek ((written (padded 4 year ++ '-' :: 'W' :: a :: b :: '-' :: d :: 'T' :: more)).drop 5) = 'W' :=
    (congrArg peek (drop_year fits 1 _)).trans (peek_written (by decide))
  have eight : peek ((written (padded 4 year ++ '-' :: 'W' :: a :: b :: '-' :: d :: 'T' :: more)).drop 8) = '-' :=
    (congrArg peek (drop_year fits 4 _)).trans (peek_written (by decide))
  have ten : peek ((written (padded 4 year ++ '-' :: 'W' :: a :: b :: '-' :: d :: 'T' :: more)).drop 10) = 'T' :=
    (congrArg peek (drop_year fits 6 _)).trans (peek_written (by decide))
  have letter : 'T'.isDigit = false := rfl
  simp only [dateLength?, length_year fits, List.length_cons, long, longer, further, furthest, four, five, eight, isDigitAt, ten,
    letter, beq_self_eq_true, Bool.and_false, Bool.and_true, Bool.false_eq_true, decide_true, if_true, if_false]

theorem peek_padded {width n : Nat} (positive : 0 < width) (fits : n < 10 ^ width) (other : Char) (apart : other.isDigit = false) :
    (peek (written (padded width n ++ more)) == other) = false := by
  obtain ⟨c, last, same, digit⟩ := exists_padded positive fits
  have small := isDigit_small digit
  rw [same, List.cons_append, peek_written (by omega), digit_ne digit other apart]

section Hyphens
variable (separated : Bool)

theorem peek_hyphen (other : (peek (written more) == '-') = false) :
    (peek (written (WrittenDate.hyphen separated ++ more)) == '-') = separated := by
  cases separated with
  | true =>
    change (peek (written ('-' :: more)) == '-') = true
    rw [peek_written (by decide)]
    rfl
  | false => exact other

theorem drop_hyphen (more : List Char) :
    (if separated then (written (WrittenDate.hyphen separated ++ more)).drop 1
      else written (WrittenDate.hyphen separated ++ more)) = written more := by
  cases separated <;> rfl

private theorem hyphen_present (other : (peek (written more) == '-') = false) :
    (separated && peek (written (WrittenDate.hyphen separated ++ more)) != '-') = false := by
  rw [bne, peek_hyphen separated other]
  cases separated <;> rfl

end Hyphens

theorem length_hyphen (separated : Bool) : (WrittenDate.hyphen separated).length = if separated then 1 else 0 := by
  cases separated <;> rfl

variable {month day nth : Nat} {rest : List Char}

private theorem readDate?_calendar (years : year < 10 ^ 4) (months : month < 10 ^ 2) (days : day < 10 ^ 2) (separated : Bool) :
    readDate? (written ((WrittenDate.calendar year month day).text separated ++ 'T' :: rest)) (dateLength separated) =
      some (year, month, day) := by
  have consumed : (written ((WrittenDate.calendar year month day).text separated ++ 'T' :: rest)).length -
      (written ('T' :: rest)).length = dateLength separated := by
    simp only [written, WrittenDate.text, List.length_map, List.length_append, padded_length (by decide : 0 < 4) years,
      padded_length (by decide : 0 < 2) months, padded_length (by decide : 0 < 2) days, length_hyphen, dateLength]
    split <;> omega
  simp only [WrittenDate.text, List.append_assoc] at consumed ⊢
  have monthly : (peek (written (padded 2 month ++ (WrittenDate.hyphen separated ++ (padded 2 day ++ 'T' :: rest)))) == '-') = false :=
    peek_padded (by decide) months '-' rfl
  have daily : (peek (written (padded 2 day ++ 'T' :: rest)) == '-') = false := peek_padded (by decide) days '-' rfl
  simp only [readDate?, digits?_padded (by decide : 0 < 4) years, digits?_padded (by decide : 0 < 2) months,
    digits?_padded (by decide : 0 < 2) days, peek_hyphen separated monthly, drop_hyphen, hyphen_present separated daily,
    peek_padded (by decide : 0 < 2) months 'W' rfl, consumed, Option.bind_eq_bind, Option.bind_some, Bool.false_eq_true,
    if_true, if_false, beq_self_eq_true]

private theorem readDate?_week (years : year < 10 ^ 4) (weeks : nth < 10 ^ 2) (days : day < 10 ^ 1) (separated : Bool) :
    readDate? (written ((WrittenDate.week year nth day).text separated ++ 'T' :: rest)) (dateLength separated) =
      ofWeek? year nth day := by
  have early : (written ((WrittenDate.week year nth day).text separated ++ 'T' :: rest)).length -
      (written (WrittenDate.hyphen separated ++ (padded 1 day ++ 'T' :: rest))).length < dateLength separated := by
    simp only [written, WrittenDate.text, List.length_map, List.length_append, List.length_cons, padded_length (by decide : 0 < 4) years,
      padded_length (by decide : 0 < 2) weeks, padded_length (by decide : 0 < 1) days, length_hyphen, dateLength]
    split <;> omega
  simp only [WrittenDate.text, List.append_assoc, List.cons_append] at early ⊢
  have letter {more : List Char} : peek (written ('W' :: more)) = 'W' := peek_written (by decide)
  have weekly : (peek (written ('W' :: (padded 2 nth ++ (WrittenDate.hyphen separated ++ (padded 1 day ++ 'T' :: rest))))) == '-') = false := by
    rw [letter]
    rfl
  have daily : (peek (written (padded 1 day ++ 'T' :: rest)) == '-') = false := peek_padded (by decide) days '-' rfl
  have behind {more : List Char} : (written ('W' :: more)).drop 1 = written more := rfl
  simp only [readDate?, digits?_padded (by decide : 0 < 4) years, digits?_padded (by decide : 0 < 2) weeks,
    digits?_padded (by decide : 0 < 1) days, peek_hyphen separated weekly, drop_hyphen, hyphen_present separated daily,
    letter, behind, early, Option.bind_eq_bind, Option.bind_some, Bool.false_eq_true,
    if_true, if_false, beq_self_eq_true]

/-- The first two digits of a day of the year are taken for a month, and what follows is no day. -/
theorem readDate?_ordinal (years : year < 10 ^ 4) (days : day < 10 ^ 3) (separated : Bool) (length : Nat) :
    readDate? (written ((WrittenDate.ordinal year day).text separated ++ 'T' :: rest)) length = none := by
  have unmarked (other : Char) (apart : other.isDigit = false) : (peek (written (padded 3 day ++ 'T' :: rest)) == other) = false :=
    peek_padded (by decide) days other apart
  simp only [WrittenDate.text, List.append_assoc]
  simp only [readDate?, digits?_padded (by decide : 0 < 4) years, peek_hyphen separated (unmarked '-' rfl), drop_hyphen,
    unmarked 'W' rfl, Option.bind_eq_bind, Option.bind_some, Bool.false_eq_true, if_false]
  obtain ⟨a, b, c, same⟩ := List.length_eq_three.mp (padded_length (by decide : 0 < 3) days)
  have digits := padded_digits 3 day
  rw [same] at digits
  simp only [List.forall_mem_cons] at digits
  obtain ⟨first, second, third, -⟩ := digits
  have small := isDigit_small third
  have month : digits? 2 (written ([a, b] ++ c :: 'T' :: rest)) = _ :=
    digits?_written (List.forall_mem_cons.mpr ⟨first, List.forall_mem_singleton.mpr second⟩) _
  have noDay : digits? 2 (written (c :: 'T' :: rest)) = none := by
    have letter : ¬ (48 ≤ Text.octet 'T' && Text.octet 'T' ≤ 57) = true := by decide
    simp [digits?, written, letter]
  rw [same]
  change (digits? 2 (written ([a, b] ++ c :: 'T' :: rest))).bind _ = none
  rw [month, Option.bind_some]
  cases separated with
  | true =>
    rw [peek_written (by omega), bne, digit_ne third '-' rfl]
    rfl
  | false =>
    simp only [Bool.false_and, Bool.false_eq_true, if_false, noDay]
    rfl

/-- What a date is taken for. -/
def WrittenDate.read? : WrittenDate → Option (Nat × Nat × Nat)
  | .calendar year month day => some (year, month, day)
  | .week year nth day => ofWeek? year nth day
  | .ordinal .. => none

theorem monthDays_le (year month : Nat) : monthDays year month ≤ 31 := by
  unfold monthDays
  split
  · split <;> omega
  · split <;> omega

theorem yearDays_le (year : Nat) : yearDays year ≤ 366 := by
  unfold yearDays
  split <;> omega

/-- No year has a week 54. -/
theorem week_le {year week : Nat} (first : 1 ≤ year) (inYear : 1 ≤ week ∧ weekOne year + (week - 1) * 7 < weekOne (year + 1)) :
    week ≤ 53 := by
  have is53 := (isWeek_iff first week).mpr inYear
  unfold isWeek at is53
  split at is53
  next usual =>
    simp only [Bool.and_eq_true, decide_eq_true_eq] at usual
    omega
  next =>
    simp only [Bool.and_eq_true, beq_iff_eq] at is53
    omega

variable {date : WrittenDate}

theorem dateLength?_written (valid : date.IsValid) (separated : Bool) (rest : List Char) :
    dateLength? (written (date.text separated ++ 'T' :: rest)) = some (dateLength separated) := by
  cases date with
  | calendar year month day =>
    obtain ⟨years, months, days⟩ := valid
    have most := monthDays_le year month
    have length := padded_length (by decide : 0 < 2) (show day < 10 ^ 2 by omega)
    simp only [WrittenDate.text, List.append_assoc]
    refine dateLength?_padded (by omega) (by decide) (show month < 10 ^ 2 by omega) separated ?_
    simp only [List.length_append, length]
    omega
  | week year nth day =>
    obtain ⟨years, weeks, days⟩ := valid
    have := week_le years.1 weeks
    obtain ⟨a, b, same⟩ := List.length_eq_two.mp (padded_length (by decide : 0 < 2) (show nth < 10 ^ 2 by omega))
    obtain ⟨d, own⟩ := List.length_eq_one_iff.mp (padded_length (by decide : 0 < 1) (show day < 10 ^ 1 by omega))
    have digit : d.isDigit = true := padded_digits 1 day d (own ▸ List.mem_singleton_self d)
    cases separated with
    | true =>
      simp only [WrittenDate.text, same, own, List.append_assoc]
      exact dateLength?_hyphenWeek (by omega)
    | false =>
      simp only [WrittenDate.text, same, own, List.append_assoc]
      exact dateLength?_week (by omega) digit
  | ordinal year day =>
    obtain ⟨years, days⟩ := valid
    have := yearDays_le year
    simp only [WrittenDate.text, List.append_assoc]
    refine dateLength?_padded (by omega) (by decide) (show day < 10 ^ 3 by omega) separated ?_
    rw [List.length_cons]
    omega

theorem readDate?_written (valid : date.IsValid) (separated : Bool) (rest : List Char) :
    readDate? (written (date.text separated ++ 'T' :: rest)) (dateLength separated) = date.read? := by
  cases date with
  | calendar year month day =>
    obtain ⟨years, months, days⟩ := valid
    have := monthDays_le year month
    exact readDate?_calendar (by omega) (by omega) (by omega) separated
  | week year nth day =>
    obtain ⟨years, weeks, days⟩ := valid
    have := week_le years.1 weeks
    exact readDate?_week (by omega) (by omega) (by omega) separated
  | ordinal year day =>
    obtain ⟨years, days⟩ := valid
    have := yearDays_le year
    exact readDate?_ordinal (by omega) (by omega) separated _

end Dates

end DocScribe.Credential
