import DocScribe.Proofs.Docs.Compilation
import Mathlib.Data.List.Induction

/-! The numbers of ordered items, counted over the elements before them. The compiler keeps one number for each depth
and drops it where the numbering ends; an item is thereby numbered by the ordered items of its depth behind which
nothing has ended the numbering, however many deeper items stand between. -/

namespace DocScribe.Docs
open DocScribe Markdown

/-- An ordered item of a depth. -/
def isNumbered (depth : Nat) : Element → Bool
  | .listItem ordered level _ => ordered && level.toNat == depth
  | _ => false

/-- Behind the element, the items of a depth are numbered anew: it is no item, one that is less deep, or a bullet of
that depth. -/
def endsNumbering (depth : Nat) : Element → Bool
  | .listItem ordered level _ => level.toNat < depth || (level.toNat == depth && !ordered)
  | _ => true

/-- The places of the ordered items of a depth behind which nothing ends the numbering. -/
def countedPlaces (depth : Nat) (earlier : List Element) : List Nat :=
  (List.range earlier.length).filter fun place =>
    earlier[place]?.any (isNumbered depth) && (earlier.drop (place + 1)).all fun between => !endsNumbering depth between

section Counting
variable (depth : Nat)

private theorem countedPlaces_append (earlier : List Element) (element : Element) :
    countedPlaces depth (earlier ++ [element]) =
      (if endsNumbering depth element then [] else countedPlaces depth earlier) ++
        if isNumbered depth element then [earlier.length] else [] := by
  rw [countedPlaces, List.length_append, List.length_singleton, List.range_succ, List.filter_append]
  congr 1
  · have before : ∀ place ∈ List.range earlier.length,
        ((earlier ++ [element])[place]?.any (isNumbered depth) &&
          ((earlier ++ [element]).drop (place + 1)).all fun between => !endsNumbering depth between) =
        ((earlier[place]?.any (isNumbered depth) &&
          (earlier.drop (place + 1)).all fun between => !endsNumbering depth between) && !endsNumbering depth element) := by
      intro place inside
      have less := List.mem_range.mp inside
      rw [List.getElem?_append_left less, List.drop_append_of_le_length less, List.all_append, Bool.and_assoc]
      simp
    rw [List.filter_congr before]
    cases endsNumbering depth element with
    | true => simp
    | false => simp [countedPlaces]
  · cases own : isNumbered depth element <;> simp [own]

/-- The numbers that the counters keep, counted from the front. -/
theorem itemsBefore_reverse (earlier : List Element) :
    itemsBefore depth earlier.reverse = (countedPlaces depth earlier).length := by
  induction earlier using List.reverseRecOn with
  | nil => rfl
  | append_singleton earlier element ih =>
    rw [List.reverse_append, List.reverse_singleton, List.singleton_append, countedPlaces_append, List.length_append]
    cases element with
    | listItem ordered level spans =>
      rw [itemsBefore, ih]
      by_cases shallower : level.toNat < depth
      · have other : level.toNat ≠ depth := by omega
        simp [endsNumbering, isNumbered, shallower, other]
      · by_cases same : level.toNat = depth
        · cases ordered <;> simp [endsNumbering, isNumbered, same]
        · simp [endsNumbering, isNumbered, shallower, same]
    | _ => rfl

end Counting

/-- An item is written behind what stands before it as a line of its own, with a tab for each level of its depth. If
it is ordered, its number is one more than the ordered items of its depth before it behind which the numbering has not
ended; otherwise it has a bullet. -/
theorem compile_numbering (earlier later : List Element) (ordered : Bool) (depth : Int) (spans : List Span) (base : Int) :
    let compiled := compile (earlier ++ .listItem ordered depth spans :: later) base
    let before := earlier.foldl Draft.element { offset := base, tag := compiled.tag }
    let mark := if ordered then s!"{1 + (countedPlaces depth.toNat earlier).length}. " else "• "
    ∃ behind, compiled.text.toList = (String.join before.text).toList ++
      (List.replicate depth.toNat '\t' ++ mark.toList ++ (spansText spans).toList ++ ['\n']) ++ behind := by
  intro compiled before mark
  let item : Element := .listItem ordered depth spans
  let start : Draft := { offset := base, tag := compiled.tag }
  have fresh : Numbered [] start.counters := Numbered.start
  have followed := Draft.elements_follow fresh rfl earlier
  rw [List.append_nil] at followed
  obtain ⟨numbered, counted⟩ := followed
  have own : (String.join (before.element item).text).toList =
      (String.join before.text).toList ++ payload before.tag (partsOf earlier.reverse item) :=
    (Draft.item_grows numbered ordered depth spans).text
  have rest : (String.join (later.foldl Draft.element (before.element item)).text).toList =
      (String.join (before.element item).text).toList ++
        payload (before.element item).tag (partsFrom (item :: earlier.reverse) later) :=
    (Draft.elements_grow (Draft.element_numbered numbered item) (Draft.element_counted numbered counted item) later).text
  have whole : compiled.text = String.join (later.foldl Draft.element (before.element item)).text := by
    rw [← List.foldl_cons, ← List.foldl_append]
    rfl
  have line : payload before.tag (partsOf earlier.reverse item) =
      List.replicate depth.toNat '\t' ++ mark.toList ++ (spansText spans).toList ++ ['\n'] := by
    rw [partsOf, payload_cons, payload_append, payload_spanParts, payload_lineEnd, Part.chars, itemMark,
      itemsBefore_reverse, List.append_assoc _ _ ['\n']]
    congr 2
    cases ordered with
    | true => simp [mark, Nat.add_comm, toString]
    | false => simp [mark]
  rw [whole, rest, own, line]
  exact ⟨_, rfl⟩

end DocScribe.Docs
