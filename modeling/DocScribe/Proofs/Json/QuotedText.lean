import DocScribe.Json.Printer
import DocScribe.Json.Reader
import Mathlib.Tactic.SplitIfs

/-! Texts in quotes. Whatever the characters of a text are, the reader finds them again behind the escapes that the
printer writes, those beyond the basic plane as two units. -/

namespace DocScribe.Json

section Units

private theorem hexValue?_hexDigit (n : Nat) : hexValue? (hexDigit n) = some (n % 16) := by
  have each : ∀ digit < 16, hexValue? (Nat.digitChar digit) = some digit := by decide
  exact each _ (Nat.mod_lt _ (by decide))

private theorem hexUnit?_hexDigit {unit : Nat} (small : unit < 0x10000) :
    hexUnit? (hexDigit (unit / 0x1000)) (hexDigit (unit / 0x100)) (hexDigit (unit / 0x10)) (hexDigit unit) = some unit := by
  simp only [hexUnit?, hexValue?_hexDigit, bind, Option.bind, pure]
  congr 1
  omega

private theorem ofSurrogates_split {c : Char} (far : 0x10000 ≤ c.toNat) :
    ofSurrogates (0xd800 + (c.toNat - 0x10000) / 0x400) (0xdc00 + (c.toNat - 0x10000) % 0x400) = c := by
  have whole : 0x10000 + (0xd800 + (c.toNat - 0x10000) / 0x400 - 0xd800) * 0x400 +
      (0xdc00 + (c.toNat - 0x10000) % 0x400 - 0xdc00) = c.toNat := by
    omega
  rw [ofSurrogates, whole, Char.ofNat_toNat]

/-- No character has the number of a half of a pair. -/
theorem char_scalar (c : Char) : (c.toNat < 0xd800 ∨ 0xdfff < c.toNat) ∧ c.toNat < 0x110000 := by
  have := c.valid
  simp only [UInt32.isValidChar, Nat.isValidChar, Char.toNat] at *
  omega

private theorem ofUnit_of_char (c : Char) : ofUnit c.toNat = c := by
  have single := (char_scalar c).1
  rw [ofUnit, if_neg (by simp only [Bool.and_eq_true, decide_eq_true_eq]; omega), Char.ofNat_toNat]

end Units

section Reading
variable {c : Char} {found rest more : List Char}

private theorem readString_plain (unquoted : c ≠ '"') (unescaped : c ≠ '\\') (visible : 0x20 ≤ c.toNat)
    (read : readString rest = some (found, more)) : readString (c :: rest) = some (c :: found, more) := by
  rw [readString.eq_6 c rest unquoted (by simp [unescaped]) (by simp [unescaped]) (by simp [unescaped]), read,
    if_neg (by simpa [unescaped] using visible)]
  rfl

private theorem readString_short {letter : Char} (known : escapeChar? letter = some c)
    (read : readString rest = some (found, more)) : readString ('\\' :: letter :: rest) = some (c :: found, more) := by
  have short : letter ≠ 'u' := by
    rintro rfl
    cases known
  rw [readString.eq_5 letter rest (by simp [short]) (by simp [short]), known, read]
  rfl

/-- An escape at the start of what is read is a whole one. -/
theorem hexUnit?_of_read {a b c d : Char} (read : readString ('\\' :: 'u' :: a :: b :: c :: d :: rest) = some (found, more)) :
    ∃ unit, hexUnit? a b c d = some unit := by
  by_cases pair : ∃ a' b' c' d' others, rest = '\\' :: 'u' :: a' :: b' :: c' :: d' :: others
  · obtain ⟨a', b', c', d', others, rfl⟩ := pair
    rw [readString.eq_3] at read
    obtain ⟨unit, own, -⟩ := Option.bind_eq_some_iff.mp read
    exact ⟨unit, own⟩
  · rw [readString.eq_4 _ _ _ _ _ fun a' b' c' d' others same => pair ⟨a', b', c', d', others, same⟩] at read
    obtain ⟨unit, own, -⟩ := Option.bind_eq_some_iff.mp read
    exact ⟨unit, own⟩

/-- A unit that is no half of a pair stands for itself, also when another escape follows. -/
theorem readString_unit {unit : Nat} (small : unit < 0x10000) (single : unit < 0xd800 ∨ 0xdbff < unit)
    (read : readString rest = some (found, more)) :
    readString (escapeUnit unit ++ rest) = some (ofUnit unit :: found, more) := by
  have own := hexUnit?_hexDigit small
  change readString ('\\' :: 'u' :: _ :: _ :: _ :: _ :: rest) = _
  by_cases pair : ∃ a b c d others, rest = '\\' :: 'u' :: a :: b :: c :: d :: others
  · obtain ⟨a, b, c, d, others, rfl⟩ := pair
    obtain ⟨low, next⟩ := hexUnit?_of_read read
    have apart : ¬ (0xd800 ≤ unit && unit ≤ 0xdbff && 0xdc00 ≤ low && low ≤ 0xdfff) := by
      simp only [Bool.and_eq_true, decide_eq_true_eq]
      omega
    rw [readString.eq_3, own, next]
    simp only [Option.bind_eq_bind, Option.bind_some]
    rw [if_neg apart, read]
    rfl
  · rw [readString.eq_4 _ _ _ _ _ fun a b c d others same => pair ⟨a, b, c, d, others, same⟩, own, read]
    rfl

private theorem readString_pair {high low : Nat} (first : 0xd800 ≤ high ∧ high ≤ 0xdbff) (second : 0xdc00 ≤ low ∧ low ≤ 0xdfff)
    (read : readString rest = some (found, more)) :
    readString (escapeUnit high ++ escapeUnit low ++ rest) = some (ofSurrogates high low :: found, more) := by
  change readString ('\\' :: 'u' :: _ :: _ :: _ :: _ :: '\\' :: 'u' :: _ :: _ :: _ :: _ :: rest) = _
  rw [readString.eq_3, hexUnit?_hexDigit (by omega), hexUnit?_hexDigit (by omega)]
  simp only [Option.bind_eq_bind, Option.bind_some]
  rw [if_pos (by simp only [Bool.and_eq_true, decide_eq_true_eq]; omega), read]
  rfl

private theorem readString_escapedChar (read : readString rest = some (found, more)) :
    readString (escapedChar c ++ rest) = some (c :: found, more) := by
  have scalar := char_scalar c
  unfold escapedChar
  split
  case h_8 unquoted unescaped _ _ _ _ _ =>
    dsimp only
    split_ifs with basic ascii
    · simp only [Bool.or_eq_true, Bool.and_eq_true, decide_eq_true_eq] at basic
      refine (readString_unit (by omega) (by omega) read).trans ?_
      rw [ofUnit_of_char]
    · simp only [Bool.or_eq_true, Bool.and_eq_true, decide_eq_true_eq] at basic
      exact readString_plain unquoted unescaped (by omega) read
    · simp only [Bool.or_eq_true, Bool.and_eq_true, decide_eq_true_eq] at basic
      refine (readString_pair (by omega) (by omega) read).trans ?_
      rw [ofSurrogates_split (by omega)]
  all_goals exact readString_short rfl read

/-- A text that the printer put in quotes is read as itself, up to the closing quote. -/
theorem readString_quoted (text rest : List Char) :
    readString (text.flatMap escapedChar ++ '"' :: rest) = some (text, rest) := by
  induction text with
  | nil => exact readString.eq_2 rest
  | cons c text ih =>
    rw [List.flatMap_cons, List.append_assoc]
    exact readString_escapedChar ih

end Reading

end DocScribe.Json
