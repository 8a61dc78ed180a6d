import DocScribe.Proofs.Credential.Stamp
import DocScribe.Proofs.Text.PlainAscii

/-! What the reader of dates takes from a time of day with a zone behind it: all parts, six digits of the fraction, and
the offset. -/

namespace DocScribe.Credential
open Moment

/-- The octets of a text in ASCII. -/
abbrev written (text : List Char) : Octets := text.map Text.octet

section Digits
variable {c : Char} {rest digits : List Char}

theorem isDigit_small (digit : c.isDigit = true) : 48 ≤ c.toNat ∧ c.toNat ≤ 57 := by
  simp only [Char.isDigit, Bool.and_eq_true, decide_eq_true_eq, UInt32.le_iff_toNat_le] at digit
  exact digit

private theorem octet_digit (digit : c.isDigit = true) : (Text.octet c).toNat = c.toNat :=
  Text.octet_toNat (by have := isDigit_small digit; omega)

theorem peek_written (small : c.toNat < 0x80) : peek (written (c :: rest)) = c := by
  rw [peek, written, List.map_cons, List.headD_cons, Text.octet_toNat small, Char.ofNat_toNat]

theorem padded_digits (width n : Nat) : ∀ c ∈ padded width n, c.isDigit = true := by
  unfold padded
  refine List.forall_mem_append.mpr ⟨fun c among => ?_, fun c among => ?_⟩
  · rw [List.eq_of_mem_replicate among]
    rfl
  · exact Nat.isDigit_of_mem_toDigits (by decide) (by decide) among

theorem padded_length {width n : Nat} (positive : 0 < width) (fits : n < 10 ^ width) : (padded width n).length = width := by
  have short := (Nat.length_toDigits_le_iff (by decide) positive).mpr fits
  unfold padded
  rw [List.length_append, List.length_replicate]
  omega

theorem exists_padded {width n : Nat} (positive : 0 < width) (fits : n < 10 ^ width) :
    ∃ c more, padded width n = c :: more ∧ c.isDigit = true := by
  have length := padded_length positive fits
  have areDigits := padded_digits width n
  cases same : padded width n with
  | nil =>
    rw [same] at length
    exact absurd length (Nat.ne_of_lt positive)
  | cons c more =>
    rw [same] at areDigits
    exact ⟨c, more, rfl, areDigits c List.mem_cons_self⟩

private theorem ofDigitChars_padded (width n : Nat) : Nat.ofDigitChars 10 (padded width n) 0 = n := by
  unfold padded
  rw [Nat.ofDigitChars_append, Nat.ofDigitChars_replicate_zero, Nat.mul_zero, Nat.ofDigitChars_ten_toDigits]

theorem digit_ne (digit : c.isDigit = true) (other : Char) (apart : other.isDigit = false) : (c == other) = false := by
  rw [beq_eq_false_iff_ne]
  rintro rfl
  rw [digit] at apart
  cases apart

theorem octet_inRange (digit : c.isDigit = true) : (48 ≤ Text.octet c && Text.octet c ≤ 57) = true := by
  have := isDigit_small digit
  rw [Bool.and_eq_true, decide_eq_true_eq, decide_eq_true_eq, UInt8.le_iff_toNat_le, UInt8.le_iff_toNat_le, octet_digit digit]
  exact this

theorem digits?_written (areDigits : ∀ c ∈ digits, c.isDigit = true) (rest : List Char) :
    digits? digits.length (written (digits ++ rest)) = some (Nat.ofDigitChars 10 digits 0, written rest) := by
  have taken : (written (digits ++ rest)).take digits.length = written digits := by
    rw [written, List.map_append]
    exact List.take_left' (List.length_map _)
  have left : (written (digits ++ rest)).drop digits.length = written rest := by
    rw [written, List.map_append]
    exact List.drop_left' (List.length_map _)
  have inRange : ((written digits).all fun octet => 48 ≤ octet && octet ≤ 57) = true := by
    rw [List.all_map, List.all_eq_true]
    exact fun c among => octet_inRange (areDigits c among)
  have values : (written digits).map (fun octet => octet.toNat - 48) = digits.map fun c => c.toNat - 48 := by
    rw [List.map_map]
    exact List.map_congr_left fun c among => congrArg (· - 48) (octet_digit (areDigits c among))
  unfold digits?
  dsimp only
  rw [taken, left, inRange, values, List.length_map, beq_self_eq_true, Bool.and_self, if_pos rfl, List.foldl_map,
    Nat.ofDigitChars_eq_foldl]
  simp only [Nat.mul_comm]
  rfl

theorem digits?_padded {width n : Nat} (positive : 0 < width) (fits : n < 10 ^ width) :
    digits? width (written (padded width n ++ rest)) = some (n, written rest) := by
  have read := digits?_written (padded_digits width n) rest
  rwa [padded_length positive fits, ofDigitChars_padded] at read

private theorem ofDigitChars_lt (areDigits : ∀ c ∈ digits, c.isDigit = true) :
    Nat.ofDigitChars 10 digits 0 < 10 ^ digits.length := by
  induction digits with
  | nil => exact Nat.one_pos
  | cons c digits ih =>
    rw [List.forall_mem_cons] at areDigits
    have := isDigit_small areDigits.1
    have := ih areDigits.2
    rw [Nat.ofDigitChars_cons, Nat.ofDigitChars_eq_ofDigitChars_zero, List.length_cons, Nat.pow_succ]
    have digit : 10 * 0 + (c.toNat - '0'.toNat) ≤ 9 := by
      change 10 * 0 + (c.toNat - 48) ≤ 9
      omega
    have := Nat.mul_le_mul_left (10 ^ digits.length) digit
    omega

private theorem ofDigitChars_take (areDigits : ∀ c ∈ digits, c.isDigit = true) (count : Nat) :
    Nat.ofDigitChars 10 (digits.take count) 0 = Nat.ofDigitChars 10 digits 0 / 10 ^ (digits.length - count) := by
  have rest : Nat.ofDigitChars 10 (digits.drop count) 0 < 10 ^ (digits.drop count).length :=
    ofDigitChars_lt fun c among => areDigits c (List.mem_of_mem_drop among)
  have whole := Nat.ofDigitChars_append (b := 10) (l := digits.take count) (m := digits.drop count) 0
  rw [List.take_append_drop, Nat.ofDigitChars_eq_ofDigitChars_zero (l := digits.drop count)] at whole
  rw [List.length_drop] at rest whole
  rw [whole, Nat.mul_add_div (Nat.pow_pos (by decide)), Nat.div_eq_of_lt rest, Nat.add_zero]

end Digits

/-- What stands behind a time of day: nothing, or a zone with its sign. -/
def IsZoneText (text : List Char) : Prop := text = [] ∨ ∃ c more, (c = '+' ∨ c = '-') ∧ text = c :: more

section Times
variable {parts : List Nat} {tail : List Char}

/-- Six digits count. -/
theorem scaled_take (places fraction : Nat) :
    fraction / 10 ^ (places - min 6 places) * 10 ^ (6 - min 6 places) = fraction * 10 ^ 6 / 10 ^ places := by
  rcases Nat.le_total places 6 with few | many
  · rw [Nat.min_eq_right few, Nat.sub_self, Nat.pow_zero, Nat.div_one]
    obtain ⟨more, same⟩ := Nat.exists_eq_add_of_le few
    rw [same, Nat.add_sub_cancel_left, Nat.pow_add, Nat.mul_left_comm, Nat.mul_div_cancel_left _ (Nat.pow_pos (by decide))]
  · rw [Nat.min_eq_left many, Nat.sub_self, Nat.pow_zero, Nat.mul_one]
    obtain ⟨more, same⟩ := Nat.exists_eq_add_of_le many
    rw [same, Nat.add_sub_cancel_left, Nat.pow_add, Nat.mul_comm fraction, Nat.mul_div_mul_left _ _ (by decide)]

private theorem dropWhile_zone (zone : IsZoneText tail) {digits : List Char} (areDigits : ∀ c ∈ digits, c.isDigit = true) :
    (written (digits ++ tail)).dropWhile (fun octet => 48 ≤ octet && octet ≤ 57) = written tail := by
  have passed : ∀ octet ∈ written digits, (48 ≤ octet && octet ≤ 57) = true :=
    List.forall_mem_map.mpr fun c among => octet_inRange (areDigits c among)
  rw [written, List.map_append, List.dropWhile_append_of_pos passed]
  rcases zone with rfl | ⟨c, more, rfl | rfl, rfl⟩
  · rfl
  · exact List.dropWhile_cons_of_neg (by decide)
  · exact List.dropWhile_cons_of_neg (by decide)

private theorem readFraction?_written {places fraction : Nat} (positive : 0 < places) (fits : fraction < 10 ^ places)
    (zone : IsZoneText tail) :
    readFraction? parts (written (padded places fraction ++ tail)) tail.length =
      some ⟨parts, fraction * 10 ^ 6 / 10 ^ places, peek (written tail) != Char.ofNat 0⟩ := by
  have areDigits := padded_digits places fraction
  have length := padded_length positive fits
  have left : (written (padded places fraction ++ tail)).length - tail.length = places := by
    rw [written, List.length_map, List.length_append, length, Nat.add_sub_cancel]
  have value := ofDigitChars_take areDigits (min 6 places)
  have taken : ((padded places fraction).take (min 6 places)).length = min 6 places := by
    rw [List.length_take, length]
    omega
  have first : ∀ c ∈ (padded places fraction).take (min 6 places), c.isDigit = true :=
    fun c among => areDigits c (List.mem_of_mem_take among)
  have read := digits?_written first ((padded places fraction).drop (min 6 places) ++ tail)
  rw [length, ofDigitChars_padded] at value
  rw [taken, ← List.append_assoc, List.take_append_drop, value] at read
  unfold readFraction?
  dsimp only
  rw [left, read]
  simp only [Option.bind_eq_bind, Option.bind_some]
  rw [dropWhile_zone zone fun c among => areDigits c (List.mem_of_mem_drop among)]
  exact congrArg (fun micro => some (Clock.mk parts micro _)) (scaled_take places fraction)

variable {time : WrittenTime} {value : Nat}

/-- What is left over behind a time of day. -/
def isUnread (tail : List Char) : Bool := peek (written tail) != Char.ofNat 0

private theorem readParts?_last (fractions : time.fraction < 10 ^ time.places) (zone : IsZoneText tail) (fits : value < 10 ^ 2)
    (left : Nat) (separated : Bool) :
    readParts? (left + 1) parts separated (written (padded 2 value ++ (time.fractionText ++ tail))) tail.length =
      some ⟨parts ++ [value], time.micro, isUnread tail⟩ := by
  rw [readParts?, digits?_padded (by decide) fits]
  simp only [Option.bind_eq_bind, Option.bind_some]
  unfold WrittenTime.fractionText
  split
  next none =>
    have nothing : time.micro = 0 := by
      rw [none, Nat.pow_zero, Nat.lt_one_iff] at fractions
      rw [WrittenTime.micro, fractions, Nat.zero_mul, Nat.zero_div]
    rw [List.nil_append, if_pos (by rw [written, List.length_map]; omega), nothing]
    rfl
  next some =>
    have positive := Nat.pos_of_ne_zero some
    have mark : ∃ c, (c = ',' ∨ c = '.') ∧ (if time.comma then ',' else '.') = c := by
      cases time.comma <;> simp
    obtain ⟨c, kind, same⟩ := mark
    have far : ¬ (written (c :: (padded time.places time.fraction ++ tail))).length ≤ tail.length + 1 := by
      rw [written, List.length_map, List.length_cons, List.length_append, padded_length positive fractions]
      omega
    have apart : (c == ':') = false ∧ (c == '.' || c == ',') = true := by
      rcases kind with rfl | rfl <;> decide
    rw [same, List.cons_append, peek_written (by rcases kind with rfl | rfl <;> decide), if_neg far, apart.1, apart.2,
      Bool.and_false, if_neg Bool.false_ne_true, if_pos rfl]
    exact readFraction?_written positive fractions zone

private theorem smallerText_cons (separated : Bool) (next : Nat) (smaller : List Nat) (more : List Char) :
    WrittenTime.smallerText separated (next :: smaller) ++ more =
      (if separated then [':'] else []) ++ (padded 2 next ++ (WrittenTime.smallerText separated smaller ++ more)) := by
  simp only [WrittenTime.smallerText, List.flatMap_cons, List.append_assoc]

/-- Where a time has colons one stands behind its first part, and this is remembered for the parts that follow. -/
theorem separated_kept {c : Char} {separated colons : Bool} (here : (c == ':') = colons) (known : parts = [] ∨ separated = colons)
    (value : Nat) : (if (parts ++ [value]).length == 1 then c == ':' else separated) = colons := by
  rcases known with rfl | same
  · exact here
  · split
    · exact here
    · exact same

/-- The induction is on the parts behind the first. -/
theorem readParts?_written (fractions : time.fraction < 10 ^ time.places) (zone : IsZoneText tail) {smaller : List Nat}
    (fits : ∀ part ∈ value :: smaller, part < 10 ^ 2) {left : Nat} (room : smaller.length ≤ left) {separated : Bool}
    (known : parts = [] ∨ separated = time.separated) :
    readParts? (left + 1) parts separated
        (written (padded 2 value ++ (WrittenTime.smallerText time.separated smaller ++ (time.fractionText ++ tail)))) tail.length =
      some ⟨parts ++ value :: smaller, time.micro, isUnread tail⟩ := by
  induction smaller generalizing value left parts separated with
  | nil => exact readParts?_last fractions zone (fits value List.mem_cons_self) left separated
  | cons next smaller ih =>
    obtain ⟨left, rfl⟩ := Nat.exists_eq_succ_of_ne_zero (Nat.ne_zero_of_lt room)
    rw [List.forall_mem_cons] at fits
    have own := fits.2 next List.mem_cons_self
    have others := ih fits.2 (Nat.le_of_succ_le_succ room) (.inr rfl : parts ++ [value] = [] ∨ time.separated = time.separated)
    rw [List.append_assoc, List.singleton_append] at others
    have far : tail.length + 1 < (padded 2 next ++ (WrittenTime.smallerText time.separated smaller ++ (time.fractionText ++ tail))).length := by
      simp only [List.length_append, padded_length (by decide : 0 < 2) own]
      omega
    rw [readParts?, digits?_padded (by decide) fits.1, smallerText_cons]
    simp only [Option.bind_eq_bind, Option.bind_some]
    generalize WrittenTime.smallerText time.separated smaller ++ (time.fractionText ++ tail) = more at others far ⊢
    cases colons : time.separated with
    | true =>
      rw [colons] at known others
      have beyond : ¬ (written (':' :: (padded 2 next ++ more))).length ≤ tail.length + 1 := by
        rw [written, List.length_map, List.length_cons]
        omega
      rw [if_pos rfl, List.singleton_append, if_neg beyond, peek_written (by decide), separated_kept rfl known]
      exact others
    | false =>
      rw [colons] at known others
      obtain ⟨c, last, same, digit⟩ := exists_padded (by decide : 0 < 2) own
      have small := isDigit_small digit
      have beyond : ¬ (written (padded 2 next ++ more)).length ≤ tail.length + 1 := by
        rw [written, List.length_map]
        omega
      rw [if_neg Bool.false_ne_true, List.nil_append, if_neg beyond, same, List.cons_append, peek_written (by omega),
        separated_kept (digit_ne digit ':' rfl) known, digit_ne digit ':' rfl, digit_ne digit '.' rfl, Bool.false_and,
        Bool.false_or, digit_ne digit ',' rfl, if_neg Bool.false_ne_true, if_neg Bool.false_ne_true, Bool.not_false, if_pos rfl,
        ← List.cons_append, ← same]
      exact others

private theorem parts_fit (valid : time.IsValid) : ∀ part ∈ time.hour :: time.smaller, part < 10 ^ 2 := by
  obtain ⟨hours, parts, minutes, seconds, -⟩ := valid
  obtain ⟨hour, smaller⟩ := time
  simp only [WrittenTime.minute, WrittenTime.second] at *
  rcases smaller with - | ⟨minute, - | ⟨second, - | ⟨extra, smaller⟩⟩⟩
  · simp only [List.forall_mem_cons]
    exact ⟨by omega, List.forall_mem_nil _⟩
  · simp only [List.forall_mem_cons, List.getD_cons_zero] at *
    exact ⟨by omega, by omega, List.forall_mem_nil _⟩
  · simp only [List.forall_mem_cons, List.getD_cons_zero, List.getD_cons_succ] at *
    exact ⟨by omega, by omega, by omega, List.forall_mem_nil _⟩
  · simp only [List.length_cons] at parts
    omega

/-- The clock that is read for a time. -/
def clock (time : WrittenTime) (tail : List Char) : Clock := ⟨time.hour :: time.smaller, time.micro, isUnread tail⟩

private theorem readParts?_text (valid : time.IsValid) (zone : IsZoneText tail) :
    readParts? 3 [] true (written (time.text ++ tail)) tail.length = some (clock time tail) := by
  have read := readParts?_written valid.fractions zone (parts_fit valid) valid.parts
    (.inl rfl : ([] : List Nat) = [] ∨ true = time.separated)
  rwa [← List.append_assoc, ← List.append_assoc] at read

def IsTimeChar (c : Char) : Prop := c.isDigit = true ∨ c ∈ [':', '.', ',']

theorem text_timeChars (time : WrittenTime) : ∀ c ∈ time.text, IsTimeChar c := by
  have digits (width n : Nat) : ∀ c ∈ padded width n, IsTimeChar c := fun c among => .inl (padded_digits width n c among)
  unfold WrittenTime.text WrittenTime.smallerText WrittenTime.fractionText
  refine List.forall_mem_append.mpr ⟨List.forall_mem_append.mpr ⟨digits _ _, fun c among => ?_⟩, ?_⟩
  · obtain ⟨part, -, among⟩ := List.mem_flatMap.mp among
    rcases List.mem_append.mp among with colon | digit
    · split at colon
      · rw [List.mem_singleton.mp colon]
        exact .inr (by decide)
      · cases colon
    · exact digits _ _ c digit
  · split
    · exact List.forall_mem_nil _
    · refine List.forall_mem_cons.mpr ⟨.inr ?_, digits _ _⟩
      split <;> decide

/-- No character of a time is one that starts a zone, or the letter for UTC. -/
theorem IsTimeChar.apart {c : Char} (own : IsTimeChar c) : c.toNat < 0x80 ∧ (c != '+' && c != '-' && c != 'Z') = true := by
  rcases own with digit | mark
  · have := isDigit_small digit
    rw [bne, bne, bne, digit_ne digit '+' rfl, digit_ne digit '-' rfl, digit_ne digit 'Z' rfl]
    exact ⟨by omega, rfl⟩
  · have marks : ∀ c ∈ [':', '.', ','], c.toNat < 0x80 ∧ (c != '+' && c != '-' && c != 'Z') = true :=
      List.all_iff_forall_prop.mp rfl
    exact marks c mark

private theorem zonePlace_written (time : WrittenTime) (zone : IsZoneText tail) :
    zonePlace (written (time.text ++ tail)) = time.text.length := by
  have passed : ∀ octet ∈ written time.text, (let c := Char.ofNat octet.toNat; c != '+' && c != '-' && c != 'Z') = true := by
    refine List.forall_mem_map.mpr fun c among => ?_
    have own := (text_timeChars time c among).apart
    dsimp only
    rw [Text.octet_toNat own.1, Char.ofNat_toNat]
    exact own.2
  unfold zonePlace
  rw [written, List.map_append, List.takeWhile_append_of_pos passed, List.length_append, List.length_map]
  rcases zone with rfl | ⟨c, more, rfl | rfl, rfl⟩
  · rfl
  · rfl
  · rfl

/-- The microseconds of an offset, signed by the mark in front of it. -/
def signed (mark : UInt8) (offset : Clock) : Int :=
  let size : Int := offset.seconds * 1000000 + offset.micro
  if mark == 45 then -size else size

theorem readTime?_written (valid : time.IsValid) (zone : IsZoneText tail) :
    readTime? (written (time.text ++ tail)) = match written tail with
      | [] => some (clock time tail, none)
      | mark :: zone => (readParts? 3 [] true zone 0).bind fun offset =>
        if offset.unread then none
        else if 86400000000 ≤ (offset.seconds * 1000000 + offset.micro : Int) then none
        else some (clock time tail, some (signed mark offset)) := by
  have behind : (written (time.text ++ tail)).length - time.text.length = tail.length := by
    rw [written, List.length_map, List.length_append, Nat.add_sub_cancel_left]
  have zoned : (written (time.text ++ tail)).drop time.text.length = written tail := by
    rw [written, List.map_append]
    exact List.drop_left' (List.length_map _)
  unfold readTime?
  dsimp only
  rw [zonePlace_written time zone, behind, readParts?_text valid zone, zoned]
  simp only [Option.bind_eq_bind, Option.bind_some]
  rcases zone with rfl | ⟨c, more, rfl | rfl, rfl⟩
  · rfl
  · rfl
  · rfl

private theorem zoneText_offset (behind : Bool) (size : WrittenTime) : IsZoneText (WrittenZone.offset behind size).text := by
  cases behind
  · exact .inr ⟨_, _, .inl rfl, rfl⟩
  · exact .inr ⟨_, _, .inr rfl, rfl⟩

private theorem clock_seconds (time : WrittenTime) (tail : List Char) :
    (clock time tail).seconds = (time.hour * 60 + time.minute) * 60 + time.second := rfl

theorem micro_lt (valid : time.IsValid) : time.micro < 1000000 := by
  have := valid.fractions
  rw [WrittenTime.micro, Nat.div_lt_iff_lt_mul (Nat.pow_pos (by decide))]
  omega

/-- An offset is read whatever its size is, below a day. -/
theorem readTime?_offset (valid : time.IsValid) {behind : Bool} {size : WrittenTime}
    (zone : (WrittenZone.offset behind size).IsValid) :
    ∃ ahead, readTime? (written (time.text ++ (WrittenZone.offset behind size).text)) =
      some (clock time (WrittenZone.offset behind size).text, some ahead) := by
  obtain ⟨offset, ⟨hours, seconds⟩, -⟩ := zone
  have read := readParts?_text offset (.inl rfl)
  rw [List.append_nil] at read
  have inDay : ¬ 86400000000 ≤ ((clock size []).seconds * 1000000 + (clock size []).micro : Int) := by
    have := micro_lt offset
    have := offset.minutes
    rw [clock_seconds, clock]
    push_cast
    omega
  refine ⟨signed (Text.octet (if behind then '-' else '+')) (clock size []), ?_⟩
  rw [readTime?_written valid (zoneText_offset behind size)]
  change (readParts? 3 [] true (written size.text) 0).bind _ = _
  rw [show 0 = ([] : List Char).length from rfl, read, Option.bind_some, if_neg inDay]
  rfl

end Times

end DocScribe.Credential
