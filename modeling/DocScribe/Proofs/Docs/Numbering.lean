import DocScribe.Docs.Compile

/-! The numbers of ordered items. The compiler keeps the last number of each depth; what such a number
means is how many ordered items of its depth stand before the item in its list. -/

namespace DocScribe.Docs
open DocScribe Markdown

/-- How many ordered items of a depth stand in a row before an item of that depth. The elements before it
are given with the nearest one first: deeper items are passed over, and anything else ends the row. -/
def itemsBefore (depth : Nat) : List Element → Nat
  | .listItem ordered level _ :: earlier =>
    if level.toNat < depth then 0
    else if level.toNat = depth then if ordered then itemsBefore depth earlier + 1 else 0
    else itemsBefore depth earlier
  | _ => 0

/-- What is written in front of an item: a tab for each depth, and a number or a bullet. -/
def itemMark (earlier : List Element) (ordered : Bool) (depth : Int) : List Char :=
  List.replicate depth.toNat '\t' ++
    if ordered then (toString (itemsBefore depth.toNat earlier + 1)).toList ++ ['.', ' '] else ['•', ' ']

namespace Counters

private theorem lookup_filter (keeps : Nat → Bool) (counters : Counters) (depth : Nat) :
    List.lookup depth (counters.filter fun counter => keeps counter.1) =
      if keeps depth then List.lookup depth counters else none := by
  induction counters with
  | nil => simp
  | cons counter counters ih =>
    obtain ⟨level, number⟩ := counter
    rw [List.filter_cons]
    by_cases same : depth = level
    · subst same
      cases kept : keeps depth with
      | true => simp
      | false =>
        rw [kept] at ih
        simpa using ih
    · have different : (depth == level) = false := beq_false_of_ne same
      cases kept : keeps level with
      | true => simpa [List.lookup_cons, different] using ih
      | false => simpa [List.lookup_cons, different] using ih

theorem next_upTo (depth level : Nat) (counters : Counters) :
    next depth (upTo level counters) = if depth ≤ level then next depth counters else 1 := by
  unfold next upTo
  rw [lookup_filter (fun depth => decide (depth ≤ level))]
  by_cases inside : depth ≤ level <;> simp [inside]

private theorem next_clear (depth level : Nat) (counters : Counters) :
    next depth (clear level counters) = if depth = level then 1 else next depth counters := by
  unfold next clear
  rw [lookup_filter (fun depth => depth != level)]
  by_cases same : depth = level <;> simp [same]

private theorem next_set (depth level number : Nat) (counters : Counters) :
    next depth (set level number counters) = if depth = level then number + 1 else next depth counters := by
  by_cases same : depth = level
  · simp [next, set, same]
  · have cleared := next_clear depth level counters
    rw [if_neg same] at cleared
    rw [if_neg same, ← cleared]
    simp [next, set, List.lookup_cons, beq_false_of_ne same]

end Counters

/-- The counters say of every depth how many items stand before the next one. -/
def Numbered (earlier : List Element) (counters : Counters) : Prop :=
  ∀ depth, counters.next depth = itemsBefore depth earlier + 1

theorem Numbered.start : Numbered [] [] := fun _ => rfl

theorem Numbered.other {earlier : List Element} {element : Element}
    (other : ∀ ordered depth spans, element ≠ .listItem ordered depth spans) : Numbered (element :: earlier) [] := by
  intro depth
  cases element with
  | listItem ordered level spans => exact absurd rfl (other ordered level spans)
  | _ => rfl

theorem Numbered.ordered {earlier : List Element} {counters : Counters} (numbered : Numbered earlier counters)
    (depth : Int) (spans : List Span) :
    Numbered (.listItem true depth spans :: earlier)
      ((counters.upTo depth.toNat).set depth.toNat ((counters.upTo depth.toNat).next depth.toNat)) := by
  intro level
  rw [Counters.next_set, Counters.next_upTo, Counters.next_upTo, if_pos (Nat.le_refl _), itemsBefore]
  by_cases same : level = depth.toNat
  · subst same
    simp [numbered depth.toNat]
  · rw [if_neg same]
    by_cases shallower : level ≤ depth.toNat
    · rw [if_pos shallower, if_neg (by omega), if_neg (by omega), numbered level]
    · rw [if_neg shallower, if_pos (by omega)]

theorem Numbered.bullet {earlier : List Element} {counters : Counters} (numbered : Numbered earlier counters)
    (depth : Int) (spans : List Span) :
    Numbered (.listItem false depth spans :: earlier) ((counters.upTo depth.toNat).clear depth.toNat) := by
  intro level
  rw [Counters.next_clear, Counters.next_upTo, itemsBefore]
  by_cases same : level = depth.toNat
  · subst same
    simp
  · rw [if_neg same]
    by_cases shallower : level ≤ depth.toNat
    · rw [if_pos shallower, if_neg (by omega), if_neg (by omega), numbered level]
    · rw [if_neg shallower, if_pos (by omega)]

end DocScribe.Docs
