import DocScribe.Proofs.Credential.DateReading
import Mathlib.Tactic.Ring

/-! What a text in one of the forms of ISO 8601 is taken for, and how its instant differs from the one that is denoted:
by the offset of the zone, and by the part of the fraction that is not read. -/

namespace DocScribe.Credential
open Moment

section Whole
variable {stamp : Stamp}

private theorem date_ascii (date : WrittenDate) (separated : Bool) : ∀ c ∈ date.text separated, c.toNat < 0x80 ∧ c ≠ 'Z' := by
  have digits (width n : Nat) : ∀ c ∈ padded width n, c.toNat < 0x80 ∧ c ≠ 'Z' := by
    intro c among
    have digit := padded_digits width n c among
    have := isDigit_small digit
    exact ⟨by omega, by simpa using digit_ne digit 'Z' rfl⟩
  have hyphen : ∀ c ∈ WrittenDate.hyphen separated, c.toNat < 0x80 ∧ c ≠ 'Z' := by
    cases separated <;> exact List.all_iff_forall_prop.mp rfl
  cases date <;> simp only [WrittenDate.text, List.forall_mem_append, List.forall_mem_cons]
  · exact ⟨⟨⟨⟨digits _ _, hyphen⟩, digits _ _⟩, hyphen⟩, digits _ _⟩
  · exact ⟨⟨⟨⟨digits _ _, hyphen⟩, by decide, digits _ _⟩, hyphen⟩, digits _ _⟩
  · exact ⟨⟨digits _ _, hyphen⟩, digits _ _⟩

theorem time_ascii (time : WrittenTime) : ∀ c ∈ time.text, c.toNat < 0x80 ∧ c ≠ 'Z' := by
  intro c among
  have own := (text_timeChars time c among).apart
  simp only [Bool.and_eq_true, bne_iff_ne] at own
  exact ⟨own.1, own.2.2⟩

/-- The zone in the form that is read: the letter stands for an offset of zero. -/
def WrittenZone.numeric : WrittenZone → WrittenZone
  | .utc => .offset false { hour := 0, smaller := [0] }
  | zone => zone

private theorem zone_ascii (zone : WrittenZone) : ∀ c ∈ zone.numeric.text, c.toNat < 0x80 ∧ c ≠ 'Z' := by
  have offset (behind : Bool) (size : WrittenTime) : ∀ c ∈ (WrittenZone.offset behind size).text, c.toNat < 0x80 ∧ c ≠ 'Z' :=
    List.forall_mem_cons.mpr ⟨by cases behind <;> decide, time_ascii size⟩
  cases zone with
  | absent => exact List.forall_mem_nil _
  | utc => exact offset _ _
  | offset behind size => exact offset _ _

def Stamp.numeric (stamp : Stamp) : Stamp := { stamp with zone := stamp.zone.numeric }

/-- The letter for UTC is read as an offset. -/
def zoned (c : Char) : List Char := if c == 'Z' then "+00:00".toList else [c]

private theorem flatMap_zoned {text : List Char} (free : ∀ c ∈ text, c ≠ 'Z') : text.flatMap zoned = text := by
  induction text with
  | nil => rfl
  | cons c text ih =>
    rw [List.forall_mem_cons] at free
    rw [List.flatMap_cons, ih free.2, zoned, if_neg (by simpa using free.1), List.singleton_append]

theorem text_zoned (stamp : Stamp) : String.ofList (stamp.text.toList.flatMap zoned) = stamp.numeric.text := by
  have front : ∀ c ∈ stamp.date.text stamp.hyphens ++ 'T' :: stamp.time.text, c ≠ 'Z' :=
    List.forall_mem_append.mpr ⟨fun c among => (date_ascii _ _ c among).2,
      List.forall_mem_cons.mpr ⟨by decide, fun c among => (time_ascii _ c among).2⟩⟩
  have zone : stamp.zone.text.flatMap zoned = stamp.zone.numeric.text := by
    have free := fun c among => (zone_ascii stamp.zone c among).2
    cases same : stamp.zone with
    | utc => decide
    | absent => rfl
    | offset behind size =>
      rw [same] at free
      exact flatMap_zoned free
  rw [Stamp.text, String.toList_ofList, List.flatMap_append, flatMap_zoned front, zone]
  rfl

/-- A day at a time of day. -/
def WrittenTime.on (time : WrittenTime) : Nat × Nat × Nat → Moment
  | (year, month, day) => ⟨year, month, day, time.hour, time.minute, time.second, time.micro⟩

/-- What a text is taken for: the time is left in its own zone. -/
def Stamp.read? (stamp : Stamp) : Option Moment :=
  stamp.date.read?.bind fun day => if (stamp.time.on day).isValid then some (stamp.time.on day) else none

private theorem length_text {date : WrittenDate} (valid : date.IsValid) (separated : Bool) (dated : date.isOrdinal = false) :
    (date.text separated).length = dateLength separated := by
  cases date with
  | calendar year month day =>
    obtain ⟨years, months, days⟩ := valid
    have most := monthDays_le year month
    simp only [WrittenDate.text, List.length_append, padded_length (by decide : 0 < 4) (show year < 10 ^ 4 by omega),
      padded_length (by decide : 0 < 2) (show month < 10 ^ 2 by omega),
      padded_length (by decide : 0 < 2) (show day < 10 ^ 2 by omega), length_hyphen, dateLength]
    split <;> rfl
  | week year nth day =>
    obtain ⟨years, weeks, days⟩ := valid
    have most := week_le years.1 weeks
    simp only [WrittenDate.text, List.length_append, List.length_cons, padded_length (by decide : 0 < 4) (show year < 10 ^ 4 by omega),
      padded_length (by decide : 0 < 2) (show nth < 10 ^ 2 by omega),
      padded_length (by decide : 0 < 1) (show day < 10 ^ 1 by omega), length_hyphen, dateLength]
    split <;> rfl
  | ordinal year day => cases dated

private theorem length_ordinal {year day : Nat} (valid : (WrittenDate.ordinal year day).IsValid) (separated : Bool) :
    7 ≤ ((WrittenDate.ordinal year day).text separated).length := by
  obtain ⟨years, days⟩ := valid
  have most := yearDays_le year
  simp only [WrittenDate.text, List.length_append, padded_length (by decide : 0 < 4) (show year < 10 ^ 4 by omega),
    padded_length (by decide : 0 < 3) (show day < 10 ^ 3 by omega)]
  omega

private theorem length_long {date : WrittenDate} (valid : date.IsValid) (separated : Bool) : 7 ≤ (date.text separated).length := by
  cases dated : date.isOrdinal with
  | false =>
    rw [length_text valid separated dated, dateLength]
    split <;> decide
  | true =>
    cases date with
    | calendar => cases dated
    | week => cases dated
    | ordinal year day => exact length_ordinal valid separated

private theorem readTime?_numeric {time : WrittenTime} (valid : time.IsValid) {zone : WrittenZone} (known : zone.IsValid) :
    ∃ ahead, readTime? (written (time.text ++ zone.numeric.text)) = some (clock time zone.numeric.text, ahead) := by
  cases zone with
  | absent => exact ⟨none, readTime?_written valid (.inl rfl)⟩
  | utc =>
    obtain ⟨ahead, read⟩ := readTime?_offset valid
      (⟨⟨.inl (by decide), by decide, by decide, by decide, by decide⟩, ⟨by decide, by decide⟩, rfl⟩ : WrittenZone.utc.numeric.IsValid)
    exact ⟨some ahead, read⟩
  | offset behind size =>
    obtain ⟨ahead, read⟩ := readTime?_offset valid known
    exact ⟨some ahead, read⟩

/-- The characters of a time with its zone in the form that is read. -/
def Stamp.timeChars (stamp : Stamp) : List Char := stamp.time.text ++ stamp.zone.numeric.text

/-- The octets that are read for a text. -/
def Stamp.octets (stamp : Stamp) : Octets := written (stamp.date.text stamp.hyphens ++ 'T' :: stamp.timeChars)

private theorem encodeUtf8_numeric (stamp : Stamp) : Text.encodeUtf8 stamp.numeric.text = stamp.octets := by
  have whole : stamp.numeric.text = .ofList (stamp.date.text stamp.hyphens ++ 'T' :: stamp.timeChars) :=
    congrArg String.ofList (List.append_assoc _ ('T' :: stamp.time.text) _)
  rw [whole]
  apply Text.encodeUtf8_ascii
  refine List.forall_mem_append.mpr ⟨fun c among => (date_ascii _ _ c among).1, ?_⟩
  refine List.forall_mem_cons.mpr ⟨by decide, List.forall_mem_append.mpr ⟨fun c among => (time_ascii _ c among).1, ?_⟩⟩
  exact fun c among => (zone_ascii _ c among).1

/-- Behind a date, which is no day of the year, come one character and the time. -/
theorem octets_behindDate (valid : stamp.date.IsValid) (dated : stamp.date.isOrdinal = false) :
    stamp.octets.drop (dateLength stamp.hyphens) = Text.octet 'T' :: written stamp.timeChars := by
  rw [Stamp.octets, written, List.map_append, List.drop_left' ((List.length_map _).trans (length_text valid _ dated))]
  rfl

theorem ofText?_numeric (valid : stamp.IsValid) :
    ∃ ahead, ofText? stamp.numeric.text = stamp.read?.map fun moment => (moment, ahead) := by
  obtain ⟨ahead, timed⟩ := readTime?_numeric valid.time valid.zone
  refine ⟨ahead, ?_⟩
  have length : dateLength? stamp.octets = some (dateLength stamp.hyphens) :=
    dateLength?_written valid.date stamp.hyphens stamp.timeChars
  have date : readDate? stamp.octets (dateLength stamp.hyphens) = stamp.date.read? :=
    readDate?_written valid.date stamp.hyphens stamp.timeChars
  have long : ¬ stamp.octets.length < 7 := by
    have := length_long valid.date stamp.hyphens
    rw [Stamp.octets, written, List.length_map, List.length_append]
    omega
  unfold ofText? Stamp.read?
  dsimp only
  rw [encodeUtf8_numeric, if_neg long, length]
  simp only [Option.bind_eq_bind, Option.bind_some, date]
  cases read : stamp.date.read? with
  | none => rfl
  | some found =>
    have dated : stamp.date.isOrdinal = false := by
      cases kind : stamp.date with
      | ordinal year day =>
        rw [kind] at read
        cases read
      | _ => rfl
    obtain ⟨year, month, day⟩ := found
    simp only [Option.bind_some, octets_behindDate valid.date dated]
    change (readTime? (written stamp.timeChars)).bind _ = _
    rw [Stamp.timeChars, timed, Option.bind_some]
    dsimp only
    rw [apply_ite (Option.map fun moment => (moment, ahead))]
    rfl

end Whole

section Instants
variable {date : WrittenDate} {stamp : Stamp}

private theorem weekOne_pos (year : Nat) : 1 ≤ weekOne year := by
  unfold weekOne weekday
  rw [dayNumber_january]
  omega

private theorem ofWeek?_written {year nth day : Nat} (valid : (WrittenDate.week year nth day).IsValid) :
    ofWeek? year nth day = ofDayNumber? (WrittenDate.week year nth day).number := by
  obtain ⟨years, weeks, days⟩ := valid
  have inYear := (isWeek_iff years.1 nth).mpr weeks
  have bounds : ¬ (year < 1 || 9999 < year || !isWeek year nth || day < 1 || 7 < day) = true := by
    simp only [inYear, Bool.not_true, Bool.or_false, Bool.or_eq_true, decide_eq_true_eq]
    omega
  have first := weekOne_pos year
  rw [ofWeek?, if_neg bounds, firstMonday_eq, WrittenDate.number]
  congr 1
  omega

private theorem date_sound (valid : date.IsValid) {year month day : Nat} (read : date.read? = some (year, month, day)) :
    IsDate year month day ∧ dayNumber year month day = date.number := by
  cases date with
  | calendar =>
    cases read
    exact ⟨valid, rfl⟩
  | week years nth days =>
    rw [WrittenDate.read?, ofWeek?_written valid] at read
    obtain ⟨isDate, same⟩ := ofDayNumber?_sound read
    exact ⟨isDate, Int.ofNat_inj.mp same⟩
  | ordinal => cases read

private theorem date_read_iff (valid : date.IsValid) : date.read?.isSome = true ↔ date.isOrdinal = false ∧ date.number ≤ lastDay := by
  cases date with
  | calendar year month day => exact ⟨fun _ => ⟨rfl, valid.dayNumber_le⟩, fun _ => rfl⟩
  | week year nth day =>
    have positive : 1 ≤ (WrittenDate.week year nth day).number := by
      have := weekOne_pos year
      rw [WrittenDate.number]
      omega
    rw [WrittenDate.read?, ofWeek?_written valid]
    constructor
    · intro found
      refine ⟨rfl, Nat.le_of_not_lt fun late => ?_⟩
      rw [ofDayNumber?_late late] at found
      cases found
    · exact fun known => ofDayNumber?_isSome positive known.2
  | ordinal year day =>
    constructor
    · intro found
      cases found
    · intro known
      cases known.1

variable {time : WrittenTime} {year month day : Nat}

private theorem on_isValid_iff (isDate : IsDate year month day) (valid : time.IsValid) :
    (time.on (year, month, day)).isValid = true ↔ time.IsUsual := by
  obtain ⟨years, months, days⟩ := isDate
  have minutes := valid.minutes
  have micros := micro_lt valid
  change Moment.isValid ⟨year, month, day, time.hour, time.minute, time.second, time.micro⟩ = true ↔ _
  simp only [Moment.isValid, Bool.and_eq_true, decide_eq_true_eq, WrittenTime.IsUsual]
  omega

private theorem on_instant (time : WrittenTime) (year month day : Nat) :
    (time.on (year, month, day)).instant = dayNumber year month day * 86400 + time.seconds - time.lost := by
  simp only [WrittenTime.on, Moment.instant, Moment.seconds, WrittenTime.seconds, WrittenTime.lost]
  push_cast
  ring

/-- What can be read is taken for a moment that exists. -/
theorem read?_isSome_iff (valid : stamp.IsValid) : stamp.read?.isSome = true ↔ stamp.IsReadable := by
  have dated := date_read_iff valid.date
  unfold Stamp.read? Stamp.IsReadable
  cases read : stamp.date.read? with
  | none =>
    rw [read] at dated
    constructor
    · intro impossible
      cases impossible
    · intro known
      exact absurd (dated.mpr ⟨known.1, known.2.1⟩) Bool.false_ne_true
  | some found =>
    obtain ⟨year, month, day⟩ := found
    rw [read] at dated
    have known := dated.mp rfl
    have isUsual := on_isValid_iff (date_sound valid.date read).1 valid.time
    rw [Option.bind_some, Option.isSome_ite, isUsual]
    exact ⟨fun usual => ⟨known.1, known.2, usual⟩, fun readable => readable.2.2⟩

theorem read?_sound (valid : stamp.IsValid) {moment : Moment} (read : stamp.read? = some moment) :
    moment.isValid = true ∧ moment.instant = stamp.instant + stamp.zone.seconds - stamp.time.lost := by
  obtain ⟨⟨year, month, day⟩, dated, here⟩ := Option.bind_eq_some_iff.mp read
  obtain ⟨-, numbered⟩ := date_sound valid.date dated
  split at here
  next isValid =>
    cases here
    refine ⟨isValid, ?_⟩
    rw [on_instant, numbered, Stamp.instant]
    ring
  next => cases here

end Instants

end DocScribe.Credential
