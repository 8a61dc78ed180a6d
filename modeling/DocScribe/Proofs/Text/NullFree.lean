import DocScribe.Proofs.Outcomes
import DocScribe.Text.Case
import DocScribe.Text.Percent
import DocScribe.Text.Punycode

/-! Which codings of a text can bring in the character U+0000. UTF-8 does so for an octet 0 only, and
percent coding for `%00` only; case and Punycode bring in no character below the letters. -/

namespace DocScribe.Text

/-- U+0000. -/
def null : Char := Char.ofNat 0

/-- What percent coding makes of U+0000. -/
def codedNull : List Char := ['%', '0', '0']

theorem toNat_ofNat {n : Nat} (valid : n.isValidChar) : (Char.ofNat n).toNat = n := by
  rw [Char.ofNat, dif_pos valid]
  rfl

theorem ofNat_ne_null {n : Nat} (valid : n.isValidChar) (positive : 0 < n) : Char.ofNat n ≠ null := by
  intro same
  have value := congrArg Char.toNat same
  rw [toNat_ofNat valid] at value
  exact absurd value (Nat.pos_iff_ne_zero.mp positive)

section Utf8

private theorem continueUtf8_succ {count low high bits seen : Nat} {octets rest : List UInt8} {c : Char}
    (read : continueUtf8 (count + 1) low high bits seen octets = .ok (c, rest)) :
    ∃ octet more, octets = octet :: more ∧ low ≤ octet.toNat ∧ octet.toNat ≤ high ∧
      continueUtf8 count 0x80 0xbf (bits * 64 + (octet.toNat - 0x80)) (seen + 1) more = .ok (c, rest) := by
  cases octets with
  | nil => cases read
  | cons octet more =>
    rw [continueUtf8] at read
    split at read
    · next within =>
      rw [Bool.and_eq_true, decide_eq_true_eq, decide_eq_true_eq] at within
      exact ⟨octet, more, rfl, within.1, within.2, read⟩
    · cases read

/-- Each continuation octet adds six bits. -/
theorem continueUtf8_bits {count bits seen : Nat} {octets rest : List UInt8} {c : Char}
    (read : continueUtf8 count 0x80 0xbf bits seen octets = .ok (c, rest)) :
    rest <:+ octets ∧ ∃ n, c = Char.ofNat n ∧ bits * Nat.pow 64 count ≤ n ∧ n < (bits + 1) * Nat.pow 64 count := by
  induction count generalizing bits seen octets with
  | zero =>
    cases read
    exact ⟨List.suffix_refl _, bits, rfl, Nat.le_of_eq (Nat.mul_one _), by simp⟩
  | succ count ih =>
    obtain ⟨octet, more, rfl, atLeast, atMost, read⟩ := continueUtf8_succ read
    obtain ⟨behind, n, same, from_start, to_stop⟩ := ih read
    have power : Nat.pow 64 (count + 1) = 64 * Nat.pow 64 count := Nat.pow_succ'
    rw [power, ← Nat.mul_assoc, ← Nat.mul_assoc]
    refine ⟨behind.trans (List.suffix_cons _ _), n, same, ?_, ?_⟩
    · refine Nat.le_trans (Nat.mul_le_mul_right _ ?_) from_start
      omega
    · refine Nat.lt_of_lt_of_le to_stop (Nat.mul_le_mul_right _ ?_)
      omega

/-- The first octet of more than one, and what may follow it. -/
inductive Leads : (count low high bits : Nat) → Prop where
  | two {bits} (some : 2 ≤ bits) (few : bits < 32) : Leads 1 0x80 0xbf bits
  | threeLow : Leads 2 0xa0 0xbf 0
  | three {bits} (some : 1 ≤ bits) (few : bits < 16) (other : bits ≠ 13) : Leads 2 0x80 0xbf bits
  | threeSurrogate : Leads 2 0x80 0x9f 13
  | fourLow : Leads 3 0x90 0xbf 0
  | four {bits} (some : 1 ≤ bits) (few : bits < 4) : Leads 3 0x80 0xbf bits
  | fourHigh : Leads 3 0x80 0x8f 4

private theorem leadOctet?_leads {lead : UInt8} {count low high bits : Nat}
    (found : leadOctet? lead = some (count, low, high, bits)) : Leads count low high bits := by
  unfold leadOctet? at found
  dsimp only at found
  generalize lead.toNat = n at found
  split at found
  next range =>
    cases found
    simp only [Bool.and_eq_true, decide_eq_true_eq] at range
    exact .two (by omega) (by omega)
  split at found
  · cases found
    exact .threeLow
  split at found
  next range =>
    cases found
    rw [eq_of_beq range]
    exact .threeSurrogate
  split at found
  next other range =>
    cases found
    simp only [Bool.and_eq_true, decide_eq_true_eq, beq_iff_eq] at range other
    exact .three (by omega) (by omega) (by omega)
  split at found
  · cases found
    exact .fourLow
  split at found
  next range =>
    cases found
    simp only [Bool.and_eq_true, decide_eq_true_eq] at range
    exact .four (by omega) (by omega)
  split at found
  next range =>
    cases found
    rw [eq_of_beq range]
    exact .fourHigh
  · cases found

/-- What more than one octet codes is a character, and not U+0000. -/
theorem continueUtf8_lead {count low high bits : Nat} {octets rest : List UInt8} {c : Char}
    (leads : Leads count low high bits) (read : continueUtf8 count low high bits 1 octets = .ok (c, rest)) :
    c ≠ null ∧ rest <:+ octets := by
  obtain ⟨count, rfl⟩ : ∃ more, count = more + 1 := by
    cases leads
    case two => exact ⟨0, rfl⟩
    case threeLow | three | threeSurrogate => exact ⟨1, rfl⟩
    case fourLow | four | fourHigh => exact ⟨2, rfl⟩
  obtain ⟨octet, more, rfl, atLeast, atMost, read⟩ := continueUtf8_succ read
  obtain ⟨behind, n, rfl, fromStart, toStop⟩ := continueUtf8_bits read
  have scalar : 0 < n ∧ (n < 0xd800 ∨ 0xdfff < n ∧ n < 0x110000) := by
    have powers : Nat.pow 64 0 = 1 ∧ Nat.pow 64 1 = 64 ∧ Nat.pow 64 2 = 4096 := ⟨rfl, rfl, rfl⟩
    cases leads <;> simp only [powers] at fromStart toStop <;> omega
  exact ⟨ofNat_ne_null scalar.2 scalar.1, behind.trans (List.suffix_cons _ _)⟩

private theorem decodeUtf8From_null {fuel position : Nat} {octets : List UInt8} {text : List Char}
    (decoded : decodeUtf8From fuel position octets = .ok text) (holds : null ∈ text) : 0 ∈ octets := by
  induction fuel generalizing position octets text with
  | zero =>
    cases decoded
    cases holds
  | succ fuel ih =>
    cases octets with
    | nil =>
      cases decoded
      cases holds
    | cons octet rest =>
      rw [decodeUtf8From] at decoded
      split at decoded
      next ascii =>
        obtain ⟨behind, read, rfl⟩ := ok_of_map decoded
        rcases List.mem_cons.mp holds with same | later
        · rcases Nat.eq_zero_or_pos octet.toNat with zero | some
          · rw [← UInt8.toNat_inj.mp (zero.trans UInt8.toNat_zero.symm)]
            exact List.mem_cons_self
          · exact absurd same.symm (ofNat_ne_null (.inl (by omega)) some)
        · exact List.mem_cons_of_mem _ (ih read later)
      next =>
        split at decoded
        · cases decoded
        next count low high bits found =>
          split at decoded
          · cases decoded
          next c more read =>
            obtain ⟨behind, further, rfl⟩ := ok_of_map decoded
            obtain ⟨other, suffix⟩ := continueUtf8_lead (leadOctet?_leads found) read
            rcases List.mem_cons.mp holds with same | later
            · exact absurd same.symm other
            · exact List.mem_cons_of_mem _ (suffix.subset (ih further later))

private theorem decodeUtf8_null {octets : List UInt8} {text : String} (decoded : decodeUtf8 octets = .ok text)
    (holds : null ∈ text.toList) : 0 ∈ octets := by
  obtain ⟨chars, read, rfl⟩ := ok_of_map decoded
  exact decodeUtf8From_null read (by simpa using holds)

end Utf8

section Percent
open Percent

private theorem hexValue?_spec {c : Char} {value : Nat} (digit : Json.hexValue? c = some value) :
    value < 16 ∧ (value = 0 → c = '0') := by
  unfold Json.hexValue? at digit
  split at digit
  next decimal =>
    obtain rfl := Option.some.inj digit
    have range : '0'.toNat ≤ c.toNat ∧ c.toNat ≤ '9'.toNat := by
      simpa [Char.isDigit, Char.le_def, UInt32.le_iff_toNat_le] using decimal
    have bounds : '0'.toNat = 48 ∧ '9'.toNat = 57 := ⟨rfl, rfl⟩
    refine ⟨by omega, fun zero => Char.toNat_inj.mp ?_⟩
    omega
  split at digit
  next letter =>
    obtain rfl := Option.some.inj digit
    simp only [Bool.and_eq_true, decide_eq_true_eq, Char.le_def, UInt32.le_iff_toNat_le] at letter
    have range : 'a'.toNat ≤ c.toNat ∧ c.toNat ≤ 'f'.toNat := letter
    have bounds : 'a'.toNat = 97 ∧ 'f'.toNat = 102 := ⟨rfl, rfl⟩
    exact ⟨by omega, fun zero => by omega⟩
  split at digit
  next letter =>
    obtain rfl := Option.some.inj digit
    simp only [Bool.and_eq_true, decide_eq_true_eq, Char.le_def, UInt32.le_iff_toNat_le] at letter
    have range : 'A'.toNat ≤ c.toNat ∧ c.toNat ≤ 'F'.toNat := letter
    have bounds : 'A'.toNat = 65 ∧ 'F'.toNat = 70 := ⟨rfl, rfl⟩
    exact ⟨by omega, fun zero => by omega⟩
  · cases digit

private theorem codedRun_spec (text : List Char) :
    (codedRun text).2 <:+ text ∧
      ∀ octet ∈ (codedRun text).1, octet < 256 ∧ (octet = 0 → codedNull <:+: text) := by
  fun_induction codedRun text with
  | case1 a b rest high low highValue lowValue octets more found ih =>
    rw [found] at ih
    obtain ⟨behind, coded⟩ := ih
    have later : rest <:+ '%' :: a :: b :: rest := List.suffix_append ['%', a, b] rest
    refine ⟨behind.trans later, List.forall_mem_cons.mpr ⟨?_, fun octet among => ?_⟩⟩
    · obtain ⟨highBound, highZero⟩ := hexValue?_spec highValue
      obtain ⟨lowBound, lowZero⟩ := hexValue?_spec lowValue
      refine ⟨by omega, fun zero => ?_⟩
      rw [highZero (by omega), lowZero (by omega)]
      exact (List.prefix_append codedNull rest).isInfix
    · obtain ⟨bound, zero⟩ := coded octet among
      exact ⟨bound, fun same => (zero same).trans later.isInfix⟩
  | case2 => exact ⟨List.suffix_refl _, List.forall_mem_nil _⟩
  | case3 => exact ⟨List.suffix_refl _, List.forall_mem_nil _⟩

private theorem hexDigit_ne_null (n : Nat) : hexDigit n ≠ null := by
  have all : ∀ digit < 16, (Nat.digitChar digit).toUpper ≠ null := by decide
  exact all _ (Nat.mod_lt n (by decide))

private theorem encodeOctet_null (octet : Nat) : null ∉ encodeOctet octet := by
  simp [encodeOctet, (hexDigit_ne_null _).symm, show null ≠ '%' by decide]

private theorem decodeSequence_null {octets : List Nat} (bounded : ∀ octet ∈ octets, octet < 256)
    (holds : null ∈ decodeSequence octets) : 0 ∈ octets := by
  unfold decodeSequence at holds
  split at holds
  next text decoded =>
    obtain ⟨octet, among, same⟩ := List.mem_map.mp (decodeUtf8_null decoded holds)
    have value := congrArg UInt8.toNat same
    rw [UInt8.toNat_ofNat_of_lt' (bounded octet among), UInt8.toNat_zero] at value
    exact value ▸ among
  next =>
    obtain ⟨octet, -, same⟩ := List.mem_map.mp holds
    exact absurd same (by decide)

private theorem decodeRun_null {fuel : Nat} {octets : List Nat} (bounded : ∀ octet ∈ octets, octet < 256)
    (holds : null ∈ decodeRun fuel octets) : 0 ∈ octets := by
  induction fuel generalizing octets with
  | zero => cases holds
  | succ fuel ih =>
    cases octets with
    | nil => cases holds
    | cons octet rest =>
      have bounds := (List.forall_mem_cons.mp bounded).2
      rw [decodeRun] at holds
      split at holds
      next ascii =>
        rcases List.mem_append.mp holds with here | later
        · split at here
          · exact absurd here (encodeOctet_null octet)
          · rcases Nat.eq_zero_or_pos octet with rfl | some
            · exact List.mem_cons_self
            · exact absurd (List.mem_singleton.mp here).symm (ofNat_ne_null (.inl (by omega)) some)
        · exact List.mem_cons_of_mem _ (ih bounds later)
      next =>
        dsimp only at holds
        split at holds
        · rcases List.mem_append.mp holds with here | later
          · have taken := decodeSequence_null (List.forall_mem_cons.mpr
              ⟨bounded octet List.mem_cons_self, fun other among => bounds other (List.mem_of_mem_take among)⟩) here
            rcases List.mem_cons.mp taken with rfl | among
            · exact List.mem_cons_self
            · exact List.mem_cons_of_mem _ (List.mem_of_mem_take among)
          · have behind := ih (fun other among => bounds other (List.mem_of_mem_drop among)) later
            exact List.mem_cons_of_mem _ (List.mem_of_mem_drop behind)
        · rcases List.mem_cons.mp holds with same | later
          · exact absurd same (by decide)
          · exact List.mem_cons_of_mem _ (ih bounds later)

/-- Decoding brings in U+0000 only where it is coded. -/
theorem decode_null {text : List Char} (holds : null ∈ decode text) : null ∈ text ∨ codedNull <:+: text := by
  unfold decode at holds
  generalize text.length = fuel at holds
  induction fuel generalizing text with
  | zero => cases holds
  | succ fuel ih =>
    cases text with
    | nil => cases holds
    | cons c rest =>
      obtain ⟨behind, coded⟩ := codedRun_spec (c :: rest)
      rw [decodeFrom] at holds
      split at holds
      next =>
        rcases List.mem_cons.mp holds with same | later
        · exact .inl (same ▸ List.mem_cons_self)
        · rcases ih later with here | coded
          · exact .inl (List.mem_cons_of_mem _ here)
          · exact .inr (List.infix_cons coded)
      next octets more _ found =>
        rw [found] at behind coded
        rcases List.mem_append.mp holds with here | later
        · have zero := decodeRun_null (fun octet among => (coded octet among).1) here
          exact .inr ((coded 0 zero).2 rfl)
        · rcases ih later with here | coded
          · exact .inl (behind.subset here)
          · exact .inr (coded.trans behind.isInfix)

end Percent

section Labels
open Case

private theorem lowerRuns_letters : ∀ run ∈ lowerRuns, 0x41 ≤ run.first + run.shift ∧
    (run.last + run.shift < 0xd800 ∨ 0xdfff < run.first + run.shift ∧ run.last + run.shift < 0x110000) := by
  decide +kernel

private theorem lowerChar_letters {c d : Char} (among : d ∈ lowerChar c) (low : d.toNat < 0x41) : d = c := by
  unfold lowerChar at among
  split at among
  next ascii =>
    obtain rfl := List.mem_singleton.mp among
    have all : ∀ n < 0x80, (Char.ofNat n).toLower.toNat < 0x41 → (Char.ofNat n).toLower = Char.ofNat n := by decide
    have own := all c.toNat ascii
    rw [Char.ofNat_toNat] at own
    exact own low
  split at among
  next =>
    simp only [List.mem_cons, List.not_mem_nil, or_false] at among
    rcases among with rfl | rfl
    · exact absurd low (by decide)
    · exact absurd low (by decide)
  next =>
    obtain rfl := List.mem_singleton.mp among
    cases found : lowerRuns.findSome? (·.map? c.toNat) with
    | none => rfl
    | some value =>
      rw [found] at low
      obtain ⟨run, member, mapped⟩ := List.exists_of_findSome?_eq_some found
      obtain ⟨letters, scalar⟩ := lowerRuns_letters run member
      unfold Run.map? at mapped
      split at mapped
      next range =>
        obtain rfl := Option.some.inj mapped
        simp only [Bool.and_eq_true, decide_eq_true_eq] at range
        have valid : (c.toNat + run.shift).toNat.isValidChar := by
          have : (c.toNat + run.shift).toNat < 0xd800 ∨
              0xdfff < (c.toNat + run.shift).toNat ∧ (c.toNat + run.shift).toNat < 0x110000 := by omega
          exact this
        have same : (Char.ofNat (c.toNat + run.shift).toNat).toNat = _ := toNat_ofNat valid
        simp only [Option.map_some, Option.getD_some, same] at low
        omega
      · cases mapped

/-- Lower case brings in nothing below the letters. -/
theorem lowerFrom_letters {before text : List Char} {c : Char} (among : c ∈ lowerFrom before text) (low : c.toNat < 0x41) :
    c ∈ text := by
  induction text generalizing before with
  | nil => cases among
  | cons d rest ih =>
    rw [lowerFrom] at among
    rcases List.mem_append.mp among with here | later
    · split at here
      · obtain rfl := List.mem_singleton.mp here
        split at low <;> exact absurd low (by decide)
      · exact lowerChar_letters here low ▸ List.mem_cons_self
    · exact List.mem_cons_of_mem _ (ih later)

private theorem decodeInto_ascii {fuel point position bias : Nat} {isFirst : Bool} {label digits decoded : List Char}
    (done : Punycode.decodeInto fuel point position bias isFirst label digits = some decoded) (wide : 0x80 ≤ point)
    {c : Char} (among : c ∈ decoded) (ascii : c.toNat < 0x80) : c ∈ label := by
  induction fuel generalizing point position bias isFirst label digits with
  | zero =>
    cases digits with
    | nil => exact Option.some.inj done ▸ among
    | cons digit digits => cases done
  | succ fuel ih =>
    cases digits with
    | nil => exact Option.some.inj done ▸ among
    | cons digit digits =>
      simp only [Punycode.decodeInto, bind, Option.bind_eq_some_iff] at done
      obtain ⟨⟨delta, rest⟩, -, done⟩ := done
      split at done
      next valid =>
        have wider := Nat.le_trans wide (Nat.le_add_right point ((position + delta) / (label.length + 1)))
        have before := ih done wider
        simp only [List.mem_append, List.mem_cons] at before
        rcases before with front | rfl | back
        · exact List.mem_of_mem_take front
        · rw [toNat_ofNat valid] at ascii
          exact absurd ascii (Nat.not_lt.mpr wider)
        · exact List.mem_of_mem_drop back
      · cases done

/-- Punycode brings in nothing of ASCII. -/
theorem punycode_ascii {label decoded : List Char} (done : Punycode.decode label = some decoded) {c : Char}
    (among : c ∈ decoded) (ascii : c.toNat < 0x80) : c ∈ label := by
  unfold Punycode.decode at done
  split at done
  · cases done
  · split at done
    next basic digits parts =>
      have basicOf := decodeInto_ascii done (Nat.le_refl _) among ascii
      split at parts
      · cases parts
        exact List.mem_of_mem_take basicOf
      · cases parts
        cases basicOf

end Labels

end DocScribe.Text
