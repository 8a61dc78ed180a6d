import DocScribe.Docs.Marker
import DocScribe.Proofs.Docs.MarkerTag

/-! The scan of a text for markers. Behind its two brackets a marker holds no other bracket, so no marker
starts inside another one, and the scan finds all that stand in a text, in order. -/

namespace DocScribe.Docs
open DocScribe

def digitValues (digits : List Char) : List Nat := digits.filterMap Text.digitValue?

def AreDigits (digits : List Char) : Prop := digits ≠ [] ∧ ∀ c ∈ digits, Text.isDigit c = true

theorem length_digitValues {digits : List Char} (all : ∀ c ∈ digits, Text.isDigit c = true) :
    (digitValues digits).length = digits.length := by
  rw [digitValues, List.length_filterMap_eq_countP, List.countP_eq_length]
  exact all

theorem length_markerChars (tag digits : List Char) :
    (markerChars tag digits).length = tag.length + digits.length + 5 := by
  simp [markerChars, length_opener]
  omega

private theorem after?_eq_some {head text rest : List Char} : Text.after? head text = some rest ↔ text = head ++ rest := by
  unfold Text.after?
  constructor
  · intro found
    split at found
    · next starts =>
      obtain ⟨more, rfl⟩ := List.isPrefixOf_iff_prefix.mp starts
      simp only [List.drop_append_length, Option.some.injEq] at found
      rw [found]
    · cases found
  · rintro rfl
    simp

/-- The digits of a marker are all that stand behind the colon: a bracket is none. -/
theorem takeWhile_digits {digits rest : List Char} (all : ∀ c ∈ digits, Text.isDigit c = true) :
    (digits ++ (']' :: rest)).takeWhile Text.isDigit = digits := by
  have stop : (']' :: rest).takeWhile Text.isDigit = [] := List.takeWhile_cons_of_neg (by decide)
  rw [List.takeWhile_append_of_pos all, stop, List.append_nil]

theorem markerAt?_eq_some {tag text : List Char} {values : List Nat} {length : Nat} :
    markerAt? tag text = some (values, length) ↔
      ∃ digits rest, AreDigits digits ∧ text = markerChars tag digits ++ rest ∧
        values = digitValues digits ∧ length = (markerChars tag digits).length := by
  constructor
  · intro found
    simp only [markerAt?, bind, Option.bind_eq_some_iff] at found
    obtain ⟨behind, starts, found⟩ := found
    split at found
    · cases found
    · next some =>
      simp only [Option.bind_eq_some_iff, pure, Option.some.injEq, Prod.mk.injEq] at found
      obtain ⟨rest, closes, rfl, rfl⟩ := found
      have all : ∀ c ∈ behind.takeWhile Text.isDigit, Text.isDigit c = true := fun c member =>
        List.all_eq_true.mp List.all_takeWhile c member
      refine ⟨behind.takeWhile Text.isDigit, rest, ⟨?_, all⟩, ?_, rfl, (length_markerChars _ _).symm⟩
      · rintro none
        simp [none] at some
      · have split : behind = behind.takeWhile Text.isDigit ++ ("]]".toList ++ rest) := by
          rw [← after?_eq_some.mp closes]
          exact (List.take_append_drop _ _).symm.trans (by rw [← List.prefix_iff_eq_take.mp (List.takeWhile_prefix _)])
        rw [after?_eq_some.mp starts]
        simp only [markerChars, opener, List.append_assoc]
        rw [← split]
  · rintro ⟨digits, rest, ⟨some, all⟩, rfl, rfl, rfl⟩
    have starts : Text.after? ("[[".toList ++ tag ++ [':']) (markerChars tag digits ++ rest) =
        Option.some (digits ++ (']' :: (']' :: rest))) :=
      after?_eq_some.mpr (by simp [markerChars, opener])
    have values : ((digits.filterMap Text.digitValue?).isEmpty) = false := by
      have size := length_digitValues all
      rw [digitValues] at size
      rw [List.isEmpty_eq_false_iff, ne_eq, ← List.length_eq_zero_iff, size, List.length_eq_zero_iff]
      exact some
    simp only [markerAt?, starts, bind, Option.bind_some, takeWhile_digits all, values, length_markerChars,
      List.drop_append_length, Bool.false_eq_true, ↓reduceIte]
    rfl

theorem markerAt?_marker (tag : List Char) {digits : List Char} (all : AreDigits digits) (rest : List Char) :
    markerAt? tag (markerChars tag digits ++ rest) = some (digitValues digits, (markerChars tag digits).length) :=
  markerAt?_eq_some.mpr ⟨digits, rest, all, rfl, rfl, rfl⟩

theorem AreDigits.no_bracket {digits : List Char} (all : AreDigits digits) : '[' ∉ digits :=
  fun member => absurd (all.2 _ member) (by decide)

private theorem markerAt?_inside {tag digits rest : List Char} (plain : IsPlainTag tag) (all : AreDigits digits) {place : Nat}
    (positive : 0 < place) (inside : place < (markerChars tag digits).length) :
    markerAt? tag ((markerChars tag digits ++ rest).drop place) = none := by
  rw [Option.eq_none_iff_forall_ne_some]
  rintro ⟨values, length⟩ found
  obtain ⟨others, more, _, same, _⟩ := markerAt?_eq_some.mp found
  have absent : '[' ∉ tag ++ ':' :: (digits ++ [']', ']']) := by
    simp [plain.not_mem, all.no_bracket]
  have whole : markerChars tag digits = '[' :: '[' :: (tag ++ ':' :: (digits ++ [']', ']'])) := by
    simp [markerChars, opener]
  have bracket : '[' ∈ tag ++ ':' :: (digits ++ [']', ']']) := by
    rw [List.drop_append_of_le_length (by omega)] at same
    -- of the two brackets at that place, the second at the latest is behind those of the marker
    obtain ⟨steps, rfl⟩ := Nat.exists_eq_add_of_le' positive
    rw [whole] at same inside
    cases steps with
    | zero =>
      simp only [Nat.zero_add, List.drop_one, List.tail_cons, markerChars, opener_eq, List.cons_append,
        List.cons.injEq, true_and] at same
      cases tag with
      | nil => exact absurd (List.cons.inj same).1 (by decide)
      | cons c tag =>
        have head : c = '[' := (List.cons.inj same).1
        simp [head]
    | succ steps =>
      have enough : steps < (tag ++ ':' :: (digits ++ [']', ']'])).length := by
        simp only [List.length_cons] at inside
        omega
      rw [List.drop_succ_cons, List.drop_succ_cons, List.drop_eq_getElem_cons enough] at same
      have head : (tag ++ ':' :: (digits ++ [']', ']']))[steps] = '[' := (List.cons.inj same).1
      exact head ▸ List.getElem_mem enough
  exact absent bracket

/-- The scan finds nothing but markers, from the characters on that it does not pass over. -/
theorem markersFrom_sound {tag : List Char} {offset busy : Nat} {text : List Char} {marker : FoundMarker}
    (member : marker ∈ markersFrom tag offset busy text) :
    ∃ place, busy ≤ place ∧ marker.offset = offset + place ∧
      markerAt? tag (text.drop place) = some (marker.digits, marker.length) := by
  induction text generalizing offset busy with
  | nil => simp [markersFrom] at member
  | cons c rest ih =>
    have later {passed : Nat} (behind : marker ∈ markersFrom tag (offset + 1) passed rest) (most : busy ≤ passed + 1) :
        ∃ place, busy ≤ place ∧ marker.offset = offset + place ∧
          markerAt? tag ((c :: rest).drop place) = some (marker.digits, marker.length) := by
      obtain ⟨place, atLeast, same, found⟩ := ih behind
      exact ⟨place + 1, by omega, by omega, found⟩
    cases busy with
    | succ busy => exact later member (Nat.le_refl _)
    | zero =>
      simp only [markersFrom] at member
      cases found : markerAt? tag (c :: rest) with
      | none =>
        rw [found] at member
        exact later member (Nat.zero_le _)
      | some marked =>
        rw [found] at member
        rcases List.mem_cons.mp member with rfl | behind
        · exact ⟨0, Nat.le_refl _, rfl, found⟩
        · exact later behind (Nat.zero_le _)

/-- The scan finds every marker, if none starts in the characters that it passes over. -/
theorem markersFrom_complete {tag : List Char} (plain : IsPlainTag tag) {offset busy : Nat} {text : List Char}
    (passed : ∀ place < busy, markerAt? tag (text.drop place) = none) {place length : Nat} {values : List Nat}
    (found : markerAt? tag (text.drop place) = some (values, length)) :
    ⟨offset + place, values, length⟩ ∈ markersFrom tag offset busy text := by
  -- on the text: a marker that is found passes over characters in which no other starts
  induction text generalizing offset busy place with
  | nil =>
    obtain ⟨digits, rest, _, same, _⟩ := markerAt?_eq_some.mp found
    simp [markerChars, opener] at same
  | cons c rest ih =>
    have later {more : Nat} (free : ∀ place < more, markerAt? tag (rest.drop place) = none) {steps : Nat}
        (behind : markerAt? tag (rest.drop steps) = some (values, length)) :
        ⟨offset + (steps + 1), values, length⟩ ∈ markersFrom tag (offset + 1) more rest := by
      have member : ⟨offset + 1 + steps, values, length⟩ ∈ markersFrom tag (offset + 1) more rest := ih free behind
      rwa [Nat.add_assoc, Nat.add_comm 1 steps] at member
    cases busy with
    | succ busy =>
      cases place with
      | zero => exact absurd (found.symm.trans (passed 0 (Nat.succ_pos _))) (by simp)
      | succ place => exact later (fun other less => passed (other + 1) (by omega)) found
    | zero =>
      simp only [markersFrom]
      cases here : markerAt? tag (c :: rest) with
      | none =>
        cases place with
        | zero => exact absurd (found.symm.trans here) (by simp)
        | succ place => exact later (fun _ less => absurd less (Nat.not_lt_zero _)) found
      | some marked =>
        cases place with
        | zero =>
          obtain rfl : marked = (values, length) := Option.some.inj (here.symm.trans found)
          exact List.mem_cons_self
        | succ place =>
          refine List.mem_cons_of_mem _ (later (fun other less => ?_) found)
          obtain ⟨digits, more, all, same, _, size⟩ := markerAt?_eq_some.mp here
          have inside : markerAt? tag ((markerChars tag digits ++ more).drop (other + 1)) = none :=
            markerAt?_inside plain all (by omega) (by omega)
          rwa [← same] at inside

theorem markersFrom_ordered (tag : List Char) (offset busy : Nat) (text : List Char) :
    (markersFrom tag offset busy text).Pairwise fun first second => first.offset < second.offset := by
  induction text generalizing offset busy with
  | nil => exact List.Pairwise.nil
  | cons c rest ih =>
    cases busy with
    | succ busy => exact ih _ _
    | zero =>
      simp only [markersFrom]
      cases markerAt? tag (c :: rest) with
      | none => exact ih _ _
      | some marked =>
        refine List.Pairwise.cons (fun other member => ?_) (ih _ _)
        obtain ⟨place, _, same, _⟩ := markersFrom_sound member
        simp only
        omega

end DocScribe.Docs
