import DocScribe.Text.LineEnd
import DocScribe.Text.Utf8
import Mathlib.Data.Bool.AllAny

/-! Plain ASCII: one octet stands for each character, and a text is read from a file as it was written. -/

namespace DocScribe.Text

/-- Takes one octet, and is no line end to another system. -/
def IsPlainAscii (c : Char) : Prop := c.toNat < 0x80 ∧ c ≠ '\r'

instance (c : Char) : Decidable (IsPlainAscii c) := inferInstanceAs (Decidable (_ ∧ _))

/-- The octet of a character that takes one. -/
def octet (c : Char) : UInt8 := UInt8.ofNat c.toNat

variable {text : List Char}

theorem octet_toNat {c : Char} (small : c.toNat < 0x80) : (octet c).toNat = c.toNat :=
  UInt8.toNat_ofNat_of_lt' (Nat.lt_trans small (by decide))

private theorem utf8EncodeChar_ascii {c : Char} (small : c.toNat < 0x80) : String.utf8EncodeChar c = [octet c] := by
  unfold String.utf8EncodeChar
  exact if_pos (Nat.le_of_lt_succ small)

theorem encodeUtf8_ascii (ascii : ∀ c ∈ text, c.toNat < 0x80) : encodeUtf8 (.ofList text) = text.map octet := by
  rw [encodeUtf8, String.toList_ofList]
  induction text with
  | nil => rfl
  | cons c text ih =>
    rw [List.forall_mem_cons] at ascii
    rw [List.flatMap_cons, utf8EncodeChar_ascii ascii.1, ih ascii.2]
    rfl

private theorem decodeUtf8From_ascii (ascii : ∀ c ∈ text, c.toNat < 0x80) (position : Nat) :
    decodeUtf8From text.length position (text.map octet) = .ok text := by
  induction text generalizing position with
  | nil => rfl
  | cons c text ih =>
    rw [List.forall_mem_cons] at ascii
    rw [List.length_cons, List.map_cons, decodeUtf8From, octet_toNat ascii.1, if_pos ascii.1, ih ascii.2, Char.ofNat_toNat]
    rfl

theorem decodeUtf8_encodeUtf8 (ascii : ∀ c ∈ text, c.toNat < 0x80) : decodeUtf8 (encodeUtf8 (.ofList text)) = .ok (.ofList text) := by
  rw [encodeUtf8_ascii ascii, decodeUtf8, List.length_map, decodeUtf8From_ascii ascii]
  rfl

theorem unifyLineEnds_plain (plain : ∀ c ∈ text, c ≠ '\r') : unifyLineEnds text = text := by
  induction text with
  | nil => rfl
  | cons c text ih =>
    rw [List.forall_mem_cons] at plain
    rw [unifyLineEnds.eq_3 _ _ (fun _ own => (plain.1 own).elim) plain.1, ih plain.2]

end DocScribe.Text
