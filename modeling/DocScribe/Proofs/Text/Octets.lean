import DocScribe.Text.Utf8

/-! The start of a text that takes at most so many octets. No longer start does, and cutting two texts in a row
is cutting the second by what the first leaves. -/

namespace DocScribe.Text

theorem octetCount_cons (c : Char) (text : List Char) : octetCount (c :: text) = c.utf8Size + octetCount text := rfl

theorem octetCount_append (first second : List Char) : octetCount (first ++ second) = octetCount first + octetCount second := by
  induction first with
  | nil => simp [octetCount]
  | cons c first ih => rw [List.cons_append, octetCount_cons, octetCount_cons, ih, Nat.add_assoc]

theorem octetCount_toList (text : String) : octetCount text.toList = text.utf8ByteSize := by
  have ofList (chars : List Char) : octetCount chars = (String.ofList chars).utf8ByteSize := by
    induction chars with
    | nil => rfl
    | cons c chars ih => rw [octetCount_cons, ih, ← List.singleton_append, String.ofList_append]; simp
  rw [ofList, String.ofList_toList]

theorem takeOctets_prefix (limit : Nat) (text : List Char) : takeOctets limit text <+: text := by
  induction text generalizing limit with
  | nil => exact List.nil_prefix
  | cons c text ih =>
    rw [takeOctets]
    split
    · exact List.cons_prefix_cons.mpr ⟨rfl, ih _⟩
    · exact List.nil_prefix

theorem octetCount_takeOctets (limit : Nat) (text : List Char) : octetCount (takeOctets limit text) ≤ limit := by
  induction text generalizing limit with
  | nil => exact Nat.zero_le _
  | cons c text ih =>
    rw [takeOctets]
    split
    · have := ih (limit - c.utf8Size)
      rw [octetCount_cons]
      omega
    · exact Nat.zero_le _

/-- Every start of a text that fits is inside the one that is taken. -/
theorem prefix_takeOctets {limit : Nat} {text other : List Char} (starts : other <+: text) (fits : octetCount other ≤ limit) :
    other <+: takeOctets limit text := by
  induction other generalizing limit text with
  | nil => exact List.nil_prefix
  | cons c other ih =>
    obtain ⟨rest, rfl⟩ := starts
    rw [octetCount_cons] at fits
    rw [List.cons_append, takeOctets, if_pos (by omega)]
    exact List.cons_prefix_cons.mpr ⟨rfl, ih (List.prefix_append _ _) (by omega)⟩

theorem takeOctets_zero (text : List Char) : takeOctets 0 text = [] := by
  cases text with
  | nil => rfl
  | cons c text =>
    have := c.utf8Size_pos
    rw [takeOctets, if_neg (by omega)]

/-- A text that fits is taken whole. -/
theorem takeOctets_append {limit : Nat} {first : List Char} (fits : octetCount first ≤ limit) (second : List Char) :
    takeOctets limit (first ++ second) = first ++ takeOctets (limit - octetCount first) second := by
  induction first generalizing limit with
  | nil => rfl
  | cons c first ih =>
    rw [octetCount_cons] at fits
    rw [List.cons_append, takeOctets, if_pos (by omega), ih (by omega), octetCount_cons, Nat.sub_sub, List.cons_append]

/-- Behind a text that does not fit nothing is taken. -/
theorem takeOctets_long {limit : Nat} {first : List Char} (long : limit < octetCount first) (second : List Char) :
    takeOctets limit (first ++ second) = takeOctets limit first := by
  induction first generalizing limit with
  | nil => exact absurd long (Nat.not_lt_zero _)
  | cons c first ih =>
    rw [octetCount_cons] at long
    rw [List.cons_append, takeOctets, takeOctets]
    split
    · rw [ih (by omega)]
    · rfl

end DocScribe.Text
