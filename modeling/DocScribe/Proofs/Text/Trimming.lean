import DocScribe.Text.Blank

/-! What trimming keeps. -/

namespace DocScribe.Text

variable {cut : Char → Bool} {text : List Char}

private theorem dropWhile_eq_self (first : ∀ c ∈ text.head?, cut c = false) : text.dropWhile cut = text := by
  cases text with
  | nil => rfl
  | cons c rest => simp [first c rfl]

theorem trimEndBy_eq_self (last : ∀ c ∈ text.getLast?, cut c = false) : trimEndBy cut text = text := by
  rw [trimEndBy, dropWhile_eq_self (by simpa using last), List.reverse_reverse]

theorem trimBy_eq_self (first : ∀ c ∈ text.head?, cut c = false) (last : ∀ c ∈ text.getLast?, cut c = false) :
    trimBy cut text = text := by
  rw [trimBy, dropWhile_eq_self first, trimEndBy_eq_self last]

theorem getLast?_trimEndBy (cut : Char → Bool) (text : List Char) :
    (trimEndBy cut text).getLast? = text.reverse.find? (!cut ·) := by
  rw [trimEndBy, List.getLast?_reverse]
  induction text.reverse with
  | nil => rfl
  | cons c rest ih =>
    cases own : cut c with
    | true => simpa [own] using ih
    | false => simp [own]

theorem prefix_trimEndBy (cut : Char → Bool) (text : List Char) : trimEndBy cut text <+: text := by
  rw [trimEndBy, ← List.reverse_suffix, List.reverse_reverse]
  exact List.dropWhile_suffix cut

theorem infix_trimBy (cut : Char → Bool) (text : List Char) : trimBy cut text <:+: text :=
  (prefix_trimEndBy cut _).isInfix.trans (List.dropWhile_suffix cut).isInfix

theorem trimEndBy_split (cut : Char → Bool) (text : List Char) :
    ∃ back, text = trimEndBy cut text ++ back ∧ ∀ c ∈ back, cut c = true := by
  refine ⟨(text.reverse.takeWhile cut).reverse, ?_, fun c among => ?_⟩
  · rw [trimEndBy, ← List.reverse_append, List.takeWhile_append_dropWhile, List.reverse_reverse]
  · exact List.all_eq_true.mp List.all_takeWhile c (List.mem_reverse.mp among)

theorem trimEndBy_append (front : List Char) {back : List Char} (blank : ∀ c ∈ back, cut c = true) :
    trimEndBy cut (front ++ back) = trimEndBy cut front := by
  rw [trimEndBy, List.reverse_append, List.dropWhile_append_of_pos fun c among => blank c (List.mem_reverse.mp among)]
  rfl

private theorem length_trimEndBy_le (cut : Char → Bool) (text : List Char) : (trimEndBy cut text).length ≤ text.length :=
  (prefix_trimEndBy cut text).length_le

theorem ends_of_trimBy (kept : trimBy cut text = text) :
    (∀ c ∈ text.head?, cut c = false) ∧ ∀ c ∈ text.getLast?, cut c = false := by
  constructor
  · intro c first
    cases text with
    | nil => cases first
    | cons d rest =>
      obtain rfl := Option.some.inj first
      refine Bool.eq_false_iff.mpr fun blank => ?_
      have shorter : (trimBy cut (d :: rest)).length ≤ rest.length := by
        rw [trimBy, List.dropWhile_cons_of_pos blank]
        exact Nat.le_trans (length_trimEndBy_le cut _) (List.dropWhile_suffix cut).length_le
      rw [kept, List.length_cons] at shorter
      omega
  · intro c last
    rw [← kept, trimBy, getLast?_trimEndBy] at last
    simpa using List.find?_some last

end DocScribe.Text
