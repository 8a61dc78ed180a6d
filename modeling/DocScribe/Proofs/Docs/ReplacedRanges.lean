import DocScribe.Docs.ImageInsertion
import DocScribe.Proofs.Docs.LiveBody
import Mathlib.Data.List.Pairwise

/-! Replacing ranges of a body by pictures. The edits go from the last range to the first, and so they come to what
replacing all ranges at once would come to, in whatever order the ranges are given. -/

namespace DocScribe.Docs
open DocScribe

/-- The address of the picture with a number; an empty one does not count. -/
def address? (urls : ImageUrls) (ordinal : Int) : Option String := (urls.lookup ordinal).filter (· != "")

/-- What a range puts in the place of the slot at an index: its picture for the first slot, and nothing for the others.
It leaves the slot alone if it has no address, or if the slot is outside. -/
def replacement? (urls : ImageUrls) (index : Nat) (range : Int × Int × Int) : Option LiveBody :=
  if range.2.1 ≤ index ∧ index < range.2.2 then
    (address? urls range.1).map fun url => if range.2.1 = index then [Slot.plain (.image url)] else []
  else none

namespace LiveBody

/-- The slots from an index on, each looked at by itself. -/
def picturedFrom (ranges : MarkerRanges) (urls : ImageUrls) : (index : Nat) → LiveBody → LiveBody
  | _, [] => []
  | index, slot :: rest =>
    (ranges.findSome? (replacement? urls index)).getD [slot] ++ picturedFrom ranges urls (index + 1) rest

/-- A body in which all ranges with an address are replaced by their pictures at once. -/
def pictured (ranges : MarkerRanges) (urls : ImageUrls) (body : LiveBody) : LiveBody := picturedFrom ranges urls 0 body

end LiveBody

section Ranges
variable {urls : ImageUrls} {ranges : MarkerRanges} {range : Int × Int × Int} {index : Nat}

private theorem replacement?_outside (outside : index < range.2.1 ∨ range.2.2 ≤ index) : replacement? urls index range = none := by
  rw [replacement?, if_neg]
  omega

private theorem replacement?_unaddressed (none : address? urls range.1 = .none) : replacement? urls index range = .none := by
  rw [replacement?, none]
  split <;> rfl

private theorem covers_of_replacement? {slots : LiveBody} (found : replacement? urls index range = some slots) :
    range.2.1 ≤ index ∧ index < range.2.2 := by
  by_contra outside
  rw [replacement?, if_neg outside] at found
  cases found

namespace LiveBody

private theorem exists_between {body : LiveBody} {start stop : Int} (positive : 0 ≤ start) (ordered : start ≤ stop)
    (inside : stop ≤ body.length) :
    ∃ front middle back : LiveBody, body = front ++ (middle ++ back) ∧ (front.length : Int) = start ∧
      start + middle.length = stop := by
  refine ⟨body.take start.toNat, (body.drop start.toNat).take (stop - start).toNat,
    (body.drop start.toNat).drop (stop - start).toNat, ?_, ?_, ?_⟩
  · rw [List.take_append_drop, List.take_append_drop]
  · rw [List.length_take]
    omega
  · rw [List.length_take, List.length_drop]
    omega

private theorem picturedFrom_append (front back : LiveBody) :
    picturedFrom ranges urls index (front ++ back) =
      picturedFrom ranges urls index front ++ picturedFrom ranges urls (index + front.length) back := by
  induction front generalizing index with
  | nil => rfl
  | cons slot front ih =>
    rw [List.cons_append, picturedFrom, ih, picturedFrom, List.append_assoc, List.length_cons]
    congr 3
    omega

private theorem picturedFrom_nil (body : LiveBody) : picturedFrom [] urls index body = body := by
  induction body generalizing index with
  | nil => rfl
  | cons slot body ih =>
    rw [picturedFrom, ih]
    rfl

/-- A range that says nothing of any of these slots may be left out. -/
theorem picturedFrom_cons {body : LiveBody}
    (silent : ∀ place, index ≤ place → place < index + body.length → replacement? urls place range = none) :
    picturedFrom (range :: ranges) urls index body = picturedFrom ranges urls index body := by
  induction body generalizing index with
  | nil => rfl
  | cons slot body ih =>
    rw [List.length_cons] at silent
    rw [picturedFrom, picturedFrom, List.findSome?_cons, silent index (Nat.le_refl _) (by omega),
      ih fun place after before => silent place (by omega) (by omega)]

private theorem picturedFrom_outside {body : LiveBody}
    (outside : ∀ range ∈ ranges, index + body.length ≤ range.2.1 ∨ range.2.2 ≤ index) :
    picturedFrom ranges urls index body = body := by
  induction ranges with
  | nil => exact picturedFrom_nil body
  | cons range ranges ih =>
    obtain ⟨own, others⟩ := List.forall_mem_cons.mp outside
    rw [picturedFrom_cons fun place after before => replacement?_outside (by omega), ih others]

private theorem picturedFrom_behindFirst {url : String} (addressed : address? urls range.1 = some url) {body : LiveBody}
    (behind : range.2.1 < index) (before : index + body.length ≤ range.2.2) :
    picturedFrom (range :: ranges) urls index body = [] := by
  induction body generalizing index with
  | nil => rfl
  | cons slot body ih =>
    rw [List.length_cons] at before
    have gone : replacement? urls index range = some [] := by
      rw [replacement?, if_pos (by omega), addressed, Option.map_some, if_neg (by omega)]
    rw [picturedFrom, List.findSome?_cons, gone, ih (by omega) (by omega)]
    rfl

/-- The slots of a range of which no other range says anything. -/
theorem picturedFrom_range {slots : LiveBody} (start : range.2.1 = index) (stop : range.2.2 = index + slots.length)
    (some : slots ≠ []) (others : ∀ other ∈ ranges, other.2.2 ≤ index) :
    picturedFrom (range :: ranges) urls index slots =
      match address? urls range.1 with
      | .some url => [Slot.plain (.image url)]
      | none => slots := by
  cases addressed : address? urls range.1 with
  | none =>
    rw [picturedFrom_cons fun place _ _ => replacement?_unaddressed addressed]
    exact picturedFrom_outside fun other among => .inr (others other among)
  | some url =>
    obtain ⟨slot, rest, rfl⟩ := List.exists_cons_of_ne_nil some
    rw [List.length_cons] at stop
    have first : replacement? urls index range = .some [Slot.plain (.image url)] := by
      rw [replacement?, if_pos (by omega), addressed, Option.map_some, if_pos start]
    rw [picturedFrom, List.findSome?_cons, first, picturedFrom_behindFirst addressed (by omega) (by omega)]
    rfl

end LiveBody

/-- Ranges that lie in a body, none of them empty. -/
def RangesInside (live : Nat) (ranges : MarkerRanges) : Prop :=
  ∀ range ∈ ranges, 0 ≤ range.2.1 ∧ range.2.1 < range.2.2 ∧ range.2.2 ≤ live

/-- No two ranges have a slot in common. -/
def RangesApart (ranges : MarkerRanges) : Prop :=
  ranges.Pairwise fun first second => first.2.2 ≤ second.2.1 ∨ second.2.2 ≤ first.2.1

instance (live : Nat) (ranges : MarkerRanges) : Decidable (RangesInside live ranges) :=
  inferInstanceAs (Decidable (∀ range ∈ ranges, _))

instance (ranges : MarkerRanges) : Decidable (RangesApart ranges) :=
  inferInstanceAs (Decidable (ranges.Pairwise _))

section Order
variable {live : Nat} {others : MarkerRanges}

theorem RangesApart.unique (apart : RangesApart ranges) {first second : Int × Int × Int} (memberFirst : first ∈ ranges)
    (memberSecond : second ∈ ranges) {slots more : LiveBody} (found : replacement? urls index first = some slots)
    (also : replacement? urls index second = some more) : first = second := by
  have covers := covers_of_replacement? found
  have coversToo := covers_of_replacement? also
  by_contra different
  have symmetric : Std.Symm fun first second : Int × Int × Int => first.2.2 ≤ second.2.1 ∨ second.2.2 ≤ first.2.1 :=
    ⟨fun _ _ => Or.symm⟩
  have := List.Pairwise.forall apart memberFirst memberSecond different
  omega

/-- Of ranges that are apart only one says something of a slot, so their order does not matter. -/
theorem findSome?_replacement (apart : RangesApart ranges) (slots : LiveBody) :
    ranges.findSome? (replacement? urls index) = some slots ↔ ∃ range ∈ ranges, replacement? urls index range = some slots := by
  constructor
  · exact List.exists_of_findSome?_eq_some
  · rintro ⟨range, member, found⟩
    obtain ⟨more, first⟩ := Option.isSome_iff_exists.mp (List.findSome?_isSome_iff.mpr ⟨range, member, Option.isSome_iff_exists.mpr ⟨slots, found⟩⟩)
    obtain ⟨other, among, also⟩ := List.exists_of_findSome?_eq_some first
    rw [first, ← also, ← found, apart.unique member among found also]

private theorem picturedFrom_perm (perm : ranges.Perm others) (apart : RangesApart ranges) (body : LiveBody) :
    LiveBody.picturedFrom ranges urls index body = LiveBody.picturedFrom others urls index body := by
  induction body generalizing index with
  | nil => rfl
  | cons slot body ih =>
    have same : ranges.findSome? (replacement? urls index) = others.findSome? (replacement? urls index) := by
      apply Option.ext
      intro slots
      have apartToo : RangesApart others := perm.pairwise apart fun either => either.symm
      rw [findSome?_replacement apart, findSome?_replacement apartToo]
      simp only [perm.mem_iff]
    rw [LiveBody.picturedFrom, LiveBody.picturedFrom, same, ih]

end Order

/-- The edits that replace one range. -/
def rangeEdits (urls : ImageUrls) (range : Int × Int × Int) : List Edit :=
  match address? urls range.1 with
  | some url => [.deleteRange range.2.1 range.2.2, .insertImage range.2.1 url]
  | none => []

theorem imageEdits_eq (ranges : MarkerRanges) (urls : ImageUrls) :
    imageEdits ranges urls = (ranges.mergeSort fun a b => b.2.1 ≤ a.2.1).flatMap (rangeEdits urls) := by
  unfold imageEdits
  dsimp only
  congr 1
  funext ⟨ordinal, start, stop⟩
  rw [rangeEdits, address?]
  cases urls.lookup ordinal with
  | none => rfl
  | some url => by_cases empty : url = "" <;> simp [empty, Option.filter]

theorem mergeSort_descends (ranges : MarkerRanges) :
    (ranges.mergeSort fun a b => b.2.1 ≤ a.2.1).Pairwise fun first second => second.2.1 ≤ first.2.1 := by
  have sorted : (ranges.mergeSort fun a b => b.2.1 ≤ a.2.1).Pairwise fun a b => decide (b.2.1 ≤ a.2.1) = true :=
    List.pairwise_mergeSort
      (fun a b c first second => by simp only [decide_eq_true_eq] at first second ⊢; omega)
      (fun a b => by simp only [Bool.or_eq_true, decide_eq_true_eq]; omega) ranges
  exact sorted.imp of_decide_eq_true

/-- The last range cuts a body into what holds the other ranges, its own slots, and what no range reaches. -/
theorem pictured_cons {ordinal start stop : Int} {front slots gap : LiveBody} (place : (front.length : Int) = start)
    (size : start + slots.length = stop) (some : start < stop) (before : ∀ other ∈ ranges, other.2.2 ≤ start) :
    LiveBody.pictured ((ordinal, start, stop) :: ranges) urls (front ++ (slots ++ gap)) =
      front.pictured ranges urls ++
        ((match address? urls ordinal with
          | .some url => [Slot.plain (.image url)]
          | none => slots) ++ gap) := by
  have filled : slots ≠ [] := by
    rintro rfl
    rw [List.length_nil] at size
    omega
  have untouched : LiveBody.picturedFrom ((ordinal, start, stop) :: ranges) urls 0 front =
      LiveBody.pictured ranges urls front :=
    LiveBody.picturedFrom_cons fun place _ inFront => replacement?_outside (.inl (by simp only; omega))
  have own : LiveBody.picturedFrom ((ordinal, start, stop) :: ranges) urls (0 + front.length) slots = _ :=
    LiveBody.picturedFrom_range (by simp only; omega) (by simp only; omega) filled
      fun other among => by have := before other among; omega
  have behind : LiveBody.picturedFrom ((ordinal, start, stop) :: ranges) urls (0 + front.length + slots.length) gap = gap := by
    refine LiveBody.picturedFrom_outside (List.forall_mem_cons.mpr ⟨.inr (by simp only; omega), fun other among => .inr ?_⟩)
    have := before other among
    omega
  rw [LiveBody.pictured, LiveBody.picturedFrom_append, LiveBody.picturedFrom_append, untouched, own, behind]

/-- Each range is replaced behind all that are still to come, which keep their places. -/
theorem rangeEdits_apply (keeps : Char → Bool) (urls : ImageUrls) {front : LiveBody} (back : LiveBody)
    (inside : RangesInside front.length ranges)
    (descending : ranges.Pairwise fun first second => second.2.2 ≤ first.2.1) :
    applyEdits keeps (ranges.flatMap (rangeEdits urls)) (front ++ back) = front.pictured ranges urls ++ back := by
  induction ranges generalizing front back with
  | nil => rw [LiveBody.pictured, LiveBody.picturedFrom_nil, List.flatMap_nil, applyEdits_nil]
  | cons range ranges ih =>
    obtain ⟨ordinal, start, stop⟩ := range
    obtain ⟨⟨positive, some, last⟩, others⟩ := List.forall_mem_cons.mp inside
    obtain ⟨before, apart⟩ := List.pairwise_cons.mp descending
    simp only at positive some last before
    obtain ⟨first, slots, gap, rfl, place, size⟩ := LiveBody.exists_between positive (Int.le_of_lt some) last
    have inFirst : RangesInside first.length ranges := by
      intro other among
      obtain ⟨positive, some, -⟩ := others other among
      exact ⟨positive, some, place ▸ before other among⟩
    rw [pictured_cons place size some before, List.flatMap_cons, applyEdits_append, rangeEdits]
    cases address? urls ordinal with
    | none =>
      simp only [applyEdits_nil, List.append_assoc]
      exact ih _ inFirst apart
    | some url =>
      simp only [applyEdits_cons, applyEdits_nil, Edit.applyTo, List.append_assoc]
      rw [LiveBody.remove_between place size, LiveBody.splice_at _ place]
      exact ih _ inFirst apart

/-- Pictures take the places of their ranges all at once: the ranges without an address and all other slots stay as
they are. -/
theorem imageEdits_simultaneous (keeps : Char → Bool) (urls : ImageUrls) {ranges : MarkerRanges} {body : LiveBody}
    (inside : RangesInside body.length ranges) (apart : RangesApart ranges) :
    applyEdits keeps (imageEdits ranges urls) body = body.pictured ranges urls := by
  have perm := List.mergeSort_perm ranges fun a b => b.2.1 ≤ a.2.1
  have among : RangesInside body.length (ranges.mergeSort fun a b => b.2.1 ≤ a.2.1) :=
    fun range member => inside range (perm.mem_iff.mp member)
  have descending : (ranges.mergeSort fun a b => b.2.1 ≤ a.2.1).Pairwise fun first second => second.2.2 ≤ first.2.1 := by
    have apartToo : RangesApart (ranges.mergeSort fun a b => b.2.1 ≤ a.2.1) :=
      perm.symm.pairwise apart fun either => either.symm
    refine (apartToo.and (mergeSort_descends ranges)).imp_of_mem fun memberFirst memberSecond both => ?_
    have := among _ memberFirst
    have := among _ memberSecond
    omega
  have applied := rangeEdits_apply keeps urls [] among descending
  rw [List.append_nil, List.append_nil] at applied
  rw [imageEdits_eq, applied]
  exact (picturedFrom_perm perm.symm apart body).symm

/-- Two ranges that touch and a third one without an address, in no order. -/
theorem imageEdits_simultaneous_touching :
    let body := plainSlots (textContents "abcdefgh".toList)
    let ranges : MarkerRanges := [(0, 1, 3), (2, 5, 7), (1, 3, 5), (4, 7, 8)]
    let urls : ImageUrls := [(2, "u"), (1, "v"), (0, "")]
    RangesInside body.length ranges ∧ RangesApart ranges ∧ applyEdits (fun _ => true) (imageEdits ranges urls) body =
      plainSlots [.code 97, .code 98, .code 99, .image "v", .image "u", .code 104] := by
  intro body ranges urls
  have inside : RangesInside body.length ranges := by decide
  have apart : RangesApart ranges := by decide
  exact ⟨inside, apart, imageEdits_simultaneous _ urls inside apart⟩

end Ranges

end DocScribe.Docs
