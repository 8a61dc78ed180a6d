import DocScribe.Credential.Moment
import Mathlib.Order.Monotone.Basic
import Mathlib.Tactic.SplitIfs

/-! Dates and the numbers of days. Every number from 1 up to that of the last day of year 9999 is the number of one
date, which is found; the weeks of a year are those between two first Mondays. -/

namespace DocScribe.Credential.Moment

/-- Exists, in the years 1 to 9999. -/
structure IsDate (year month day : Nat) : Prop where
  years : 1 ≤ year ∧ year ≤ 9999
  months : 1 ≤ month ∧ month ≤ 12
  days : 1 ≤ day ∧ day ≤ monthDays year month

/-- The number of the last day of year 9999. -/
def lastDay : Nat := 3652059

def yearDays (year : Nat) : Nat := if isLeap year then 366 else 365

section Steps

theorem daysBeforeYear_succ {year : Nat} (positive : 1 ≤ year) :
    daysBeforeYear (year + 1) = daysBeforeYear year + yearDays year := by
  obtain ⟨past, rfl⟩ := Nat.exists_eq_add_of_le' positive
  have fourth : (past + 1) / 4 = past / 4 + if (past + 1) % 4 = 0 then 1 else 0 := by split_ifs <;> omega
  have century : (past + 1) / 100 = past / 100 + if (past + 1) % 100 = 0 then 1 else 0 := by split_ifs <;> omega
  have fourthCentury : (past + 1) / 400 = past / 400 + if (past + 1) % 400 = 0 then 1 else 0 := by split_ifs <;> omega
  have fewer : past / 100 ≤ past / 4 := by omega
  have whole : (past + 1) % 100 = 0 → (past + 1) % 4 = 0 := by omega
  have wholes : (past + 1) % 400 = 0 → (past + 1) % 100 = 0 := by omega
  simp only [daysBeforeYear, yearDays, isLeap, Nat.add_sub_cancel, fourth, century, fourthCentury, Bool.and_eq_true,
    Bool.or_eq_true, beq_iff_eq, bne_iff_ne, Nat.add_mul]
  clear fourth century fourthCentury
  generalize past / 4 = fourths, past / 100 = centuries, past / 400 = fourthCenturies at *
  split_ifs <;> grind

private theorem daysBeforeYear_mono : Monotone daysBeforeYear := by
  refine monotone_nat_of_le_succ fun year => ?_
  cases year with
  | zero => decide
  | succ year =>
    rw [daysBeforeYear_succ (Nat.succ_pos year)]
    exact Nat.le_add_right _ _

theorem daysBeforeMonth_succ (year : Nat) {month : Nat} (positive : 1 ≤ month) :
    daysBeforeMonth year (month + 1) = daysBeforeMonth year month + monthDays year month := by
  obtain ⟨month, rfl⟩ := Nat.exists_eq_add_of_le' positive
  simp only [daysBeforeMonth, Nat.add_sub_cancel, List.range_succ, List.foldl_append, List.foldl_cons, List.foldl_nil]

private theorem daysBeforeMonth_mono (year : Nat) : Monotone (daysBeforeMonth year) := by
  refine monotone_nat_of_le_succ fun month => ?_
  cases month with
  | zero => exact Nat.le_refl _
  | succ month =>
    rw [daysBeforeMonth_succ year (Nat.succ_pos month)]
    exact Nat.le_add_right _ _

private theorem daysBeforeMonth_thirteen (year : Nat) : daysBeforeMonth year 13 = yearDays year := by
  unfold daysBeforeMonth yearDays monthDays
  cases isLeap year <;> rfl

/-- A count that starts below a number and reaches it passes it in one step. -/
theorem exists_step {count : Nat → Nat} {first last number : Nat} (below : count first < number)
    (reached : number ≤ count last) (ordered : first ≤ last) :
    ∃ step, first ≤ step ∧ step < last ∧ count step < number ∧ number ≤ count (step + 1) := by
  induction ordered with
  | refl => omega
  | @step last ordered ih =>
    by_cases sooner : number ≤ count last
    · obtain ⟨step, behind, before, passes⟩ := ih sooner
      exact ⟨step, behind, Nat.lt_succ_of_lt before, passes⟩
    · exact ⟨last, ordered, Nat.lt_succ_self last, Nat.lt_of_not_le sooner, reached⟩

end Steps

section Numbers
variable {number : Nat}

private theorem exists_year (positive : 1 ≤ number) (bounded : number ≤ lastDay) :
    ∃ year, 1 ≤ year ∧ year ≤ 9999 ∧ daysBeforeYear year < number ∧ number ≤ daysBeforeYear (year + 1) := by
  have start : daysBeforeYear 1 < number := positive
  have reached : number ≤ daysBeforeYear 10000 := bounded
  obtain ⟨year, first, last, passes⟩ := exists_step start reached (by decide)
  exact ⟨year, first, by omega, passes⟩

/-- The year of a day is found where it is looked for: a year has 365 days or 366, so it is at most 30 behind the
earliest that it could be. -/
theorem year_near {year : Nat} (first : 1 ≤ year) (last : year ≤ 9999) (past : daysBeforeYear year < number)
    (reached : number ≤ daysBeforeYear (year + 1)) : ∃ step < 30, (number - 1) / 366 + 1 + step = year := by
  have least : 365 * (year - 1) ≤ daysBeforeYear year := by
    unfold daysBeforeYear
    dsimp only
    omega
  have most : daysBeforeYear (year + 1) ≤ 366 * year := by
    unfold daysBeforeYear
    dsimp only
    omega
  exact ⟨year - ((number - 1) / 366 + 1), by omega, by omega⟩

private theorem year_unique {year other : Nat} (past : daysBeforeYear year < number) (reached : number ≤ daysBeforeYear (other + 1)) :
    year ≤ other := by
  by_contra later
  have between := daysBeforeYear_mono (Nat.succ_le_of_lt (Nat.lt_of_not_le later))
  exact absurd (Nat.lt_of_lt_of_le past (reached.trans between)) (Nat.lt_irrefl _)

private theorem exists_month {year number : Nat} (positive : 1 ≤ number) (bounded : number ≤ yearDays year) :
    ∃ month, 1 ≤ month ∧ month ≤ 12 ∧ daysBeforeMonth year month < number ∧
      number ≤ daysBeforeMonth year month + monthDays year month := by
  have start : daysBeforeMonth year 1 < number := positive
  rw [← daysBeforeMonth_thirteen] at bounded
  obtain ⟨month, first, last, past, reached⟩ := exists_step start bounded (by decide)
  rw [daysBeforeMonth_succ year first] at reached
  exact ⟨month, first, by omega, past, reached⟩

private theorem daysBeforeMonth_le (year : Nat) {month : Nat} (january : 1 ≤ month) (december : month ≤ 12) :
    daysBeforeMonth year month + monthDays year month ≤ yearDays year := by
  rw [← daysBeforeMonth_succ year january, ← daysBeforeMonth_thirteen]
  exact daysBeforeMonth_mono year (Nat.succ_le_succ december)

theorem IsDate.dayNumber_le {year month day : Nat} (date : IsDate year month day) : dayNumber year month day ≤ lastDay := by
  have inYear := daysBeforeMonth_le year date.months.1 date.months.2
  have next := daysBeforeYear_succ date.years.1
  have last : daysBeforeYear (year + 1) ≤ lastDay := daysBeforeYear_mono (Nat.succ_le_succ date.years.2)
  have := date.days.2
  rw [dayNumber]
  omega

/-- What is found for a number is the date with this number. -/
theorem ofDayNumber?_sound {number : Int} {year month day : Nat} (found : ofDayNumber? number = some (year, month, day)) :
    IsDate year month day ∧ dayNumber year month day = number := by
  unfold ofDayNumber? at found
  dsimp only at found
  split at found
  · cases found
  next positive =>
    obtain ⟨inside, searched, found⟩ := Option.bind_eq_some_iff.mp found
    obtain ⟨step, -, here⟩ := List.exists_of_findSome?_eq_some searched
    split at here
    case isFalse => cases here
    next passed =>
      split at found
      · cases found
      next last =>
        obtain ⟨months, among, there⟩ := List.exists_of_findSome?_eq_some found
        split at there
        case isFalse => cases there
        next inMonth =>
          cases here
          cases there
          simp only [Bool.and_eq_true, decide_eq_true_eq, List.mem_range] at passed inMonth among
          refine ⟨⟨⟨by omega, by omega⟩, ⟨by omega, by omega⟩, by omega, by omega⟩, ?_⟩
          rw [dayNumber]
          omega

/-- The only value that a search can come to is what it comes to. -/
theorem findSome?_of_unique {items : List α} {search : α → Option β} {item : α} {value : β} (among : item ∈ items)
    (found : search item = some value) (unique : ∀ other, ∀ result, search other = some result → result = value) :
    items.findSome? search = some value := by
  cases searched : items.findSome? search with
  | none =>
    have missed := List.findSome?_eq_none_iff.mp searched item among
    rw [found] at missed
    cases missed
  | some result =>
    obtain ⟨other, -, here⟩ := List.exists_of_findSome?_eq_some searched
    rw [unique other result here]

theorem ofDayNumber?_isSome (positive : 1 ≤ number) (bounded : number ≤ lastDay) : (ofDayNumber? number).isSome := by
  obtain ⟨year, first, last, past, reached⟩ := exists_year positive bounded
  obtain ⟨step, inside, same⟩ := year_near first last past reached
  have days := daysBeforeYear_succ first
  have inYear : number - daysBeforeYear year ≤ yearDays year := by omega
  obtain ⟨month, january, december, before, after⟩ := exists_month (Nat.sub_pos_of_lt past) inYear
  unfold ofDayNumber?
  rw [if_neg (by omega), Int.toNat_natCast]
  simp only [Option.isSome_iff_exists, Option.bind_eq_some_iff]
  rw [exists_comm]
  refine ⟨year, ?_⟩
  rw [exists_and_left]
  constructor
  · refine findSome?_of_unique (List.mem_range.mpr inside) ?_ fun other result here => ?_
    · rw [same, if_pos (by simp [past, reached])]
    · split at here
      case isFalse => cases here
      next passed =>
        cases here
        simp only [Bool.and_eq_true, decide_eq_true_eq] at passed
        exact Nat.le_antisymm (year_unique passed.1 reached) (year_unique past passed.2)
  · rw [if_neg (by omega), ← Option.isSome_iff_exists, List.findSome?_isSome_iff]
    refine ⟨month - 1, List.mem_range.mpr (by omega), ?_⟩
    rw [Nat.sub_add_cancel january, if_pos (by simp [before, after])]
    rfl

theorem ofDayNumber?_late (late : lastDay < number) : ofDayNumber? number = none := by
  cases found : ofDayNumber? number with
  | none => rfl
  | some date =>
    obtain ⟨year, month, day⟩ := date
    obtain ⟨date, numbered⟩ := ofDayNumber?_sound found
    have := date.dayNumber_le
    omega

end Numbers

section Weeks

/-- The number of the Monday with which the first week of a year starts, the week in which January 4 is. -/
def weekOne (year : Nat) : Nat := dayNumber year 1 4 - weekday year 1 4

variable {year : Nat}

theorem dayNumber_january (year day : Nat) : dayNumber year 1 day = daysBeforeYear year + day := rfl

theorem firstMonday_eq (year : Nat) : firstMonday year = weekOne year := by
  unfold firstMonday weekOne weekday
  simp only [dayNumber_january]
  split_ifs <;> omega

/-- The weeks of a year are those before the first Monday of the next. -/
theorem isWeek_iff (first : 1 ≤ year) (week : Nat) :
    isWeek year week = true ↔ 1 ≤ week ∧ weekOne year + (week - 1) * 7 < weekOne (year + 1) := by
  have next : ∀ day, dayNumber (year + 1) 1 day = daysBeforeYear year + yearDays year + day := by
    intro day
    rw [dayNumber_january, daysBeforeYear_succ first]
  unfold isWeek weekOne weekday
  simp only [next, dayNumber_january, yearDays]
  generalize daysBeforeYear year = past
  by_cases usual : 1 ≤ week ∧ week ≤ 52
  · rw [if_pos (by simpa using usual), eq_self, true_iff]
    split_ifs <;> omega
  · rw [if_neg (by simpa using usual)]
    cases isLeap year <;> simp <;> omega

end Weeks

end DocScribe.Credential.Moment
