import DocScribe.Docs.TableLayout
import DocScribe.Proofs.Docs.LiveBody

/-! Which edits a service takes. An edit is judged on the body as the edits before it have left it. For
a body that ends in a line end the judgement needs nothing but its length, which every valid edit
changes by a known number of slots. -/

namespace DocScribe.Docs
open DocScribe

/-- What an edit has to be on a body that ends at `live`: its positions are in the body, a range is not
empty, and what it inserts is something. The slot before the end is a line end, which stays. -/
def Edit.IsValid (live : Int) : Edit → Prop
  | .insertText index text => 1 ≤ index ∧ index < live ∧ text ≠ ""
  | .deleteRange start stop => 1 ≤ start ∧ start < stop ∧ stop < live
  | .styleText start stop _ => 1 ≤ start ∧ start < stop ∧ stop ≤ live
  | .styleParagraph start stop _ => 1 ≤ start ∧ start < stop ∧ stop ≤ live
  | .insertTable index rows columns => 1 ≤ index ∧ index < live ∧ 1 ≤ rows ∧ 1 ≤ columns
  | .insertImage index url => 1 ≤ index ∧ index < live ∧ url ≠ ""
  | .given _ => False

/-- Every edit of a batch is valid on the body to which it comes. All characters of a text are stored. -/
def Accepts : LiveBody → List Edit → Prop
  | _, [] => True
  | body, edit :: rest => edit.IsValid body.length ∧ Accepts (edit.applyTo (fun _ => true) body) rest

/-- A body holds something, and then a last line end. -/
def LiveBody.EndsInLine (body : LiveBody) : Prop := ∃ front, front ≠ [] ∧ body.contents = front ++ [.code 10]

/-- The number of slots that an edit adds. -/
def Edit.growth : Edit → Int
  | .insertText _ text => Text.units text
  | .deleteRange start stop => start - stop
  | .insertTable _ rows columns => TableLayout.emptyLength rows columns
  | .insertImage .. => 1
  | _ => 0

def growthOf : List Edit → Int
  | [] => 0
  | edit :: rest => edit.growth + growthOf rest

/-- Every edit of a batch is valid, by the lengths alone. -/
def Fits : (live : Int) → List Edit → Prop
  | _, [] => True
  | live, edit :: rest => edit.IsValid live ∧ Fits (live + edit.growth) rest

section Lengths
variable {live : Int}

@[simp] theorem growthOf_nil : growthOf [] = 0 := rfl

@[simp] theorem growthOf_cons (edit : Edit) (edits : List Edit) :
    growthOf (edit :: edits) = edit.growth + growthOf edits := rfl

@[simp] theorem growthOf_append (first second : List Edit) :
    growthOf (first ++ second) = growthOf first + growthOf second := by
  induction first with
  | nil => exact (Int.zero_add _).symm
  | cons edit first ih => rw [List.cons_append, growthOf_cons, growthOf_cons, ih, Int.add_assoc]

theorem fits_append {first second : List Edit} (front : Fits live first)
    (back : Fits (live + growthOf first) second) : Fits live (first ++ second) := by
  induction first generalizing live with
  | nil => simpa using back
  | cons edit first ih =>
    obtain ⟨valid, rest⟩ := front
    refine ⟨valid, ih rest ?_⟩
    rwa [growthOf_cons, ← Int.add_assoc] at back

theorem fits_single {edit : Edit} (valid : edit.IsValid live) : Fits live [edit] := ⟨valid, trivial⟩

/-- Edits that add nothing do not get into each other's way. -/
theorem fits_still {edits : List Edit} (still : ∀ edit ∈ edits, edit.growth = 0)
    (valid : ∀ edit ∈ edits, edit.IsValid live) : Fits live edits ∧ growthOf edits = 0 := by
  induction edits with
  | nil => exact ⟨trivial, rfl⟩
  | cons edit edits ih =>
    obtain ⟨none, still⟩ := List.forall_mem_cons.mp still
    obtain ⟨first, valid⟩ := List.forall_mem_cons.mp valid
    obtain ⟨rest, nothing⟩ := ih still valid
    refine ⟨⟨first, ?_⟩, ?_⟩
    · rwa [none, Int.add_zero]
    · rw [growthOf_cons, none, nothing]
      rfl

end Lengths

private theorem length_emptyTable {rows columns : Nat} :
    ((emptyTable rows columns).length : Int) = TableLayout.emptyLength rows columns := by
  have row : (emptyRow columns).length = 2 * columns + 1 := by
    simp [emptyRow, Nat.mul_comm]
  simp only [emptyTable, List.cons_append, List.length_cons, List.length_append, List.length_flatten,
    List.map_replicate, List.sum_replicate_nat, row, List.length_nil, TableLayout.emptyLength]
  push_cast
  omega

namespace LiveBody
variable {body : LiveBody}

theorem EndsInLine.two_le (ends : body.EndsInLine) : 2 ≤ body.length := by
  obtain ⟨front, some, whole⟩ := ends
  have size := congrArg List.length whole
  have more := List.length_pos_iff.mpr some
  rw [length_contents, List.length_append, List.length_singleton] at size
  omega

/-- What is put in or taken out in front of the last line end, and behind the first slot, leaves both. -/
theorem EndsInLine.replace (ends : body.EndsInLine) {first last : Nat} (slots : LiveBody) (positive : 1 ≤ first)
    (ordered : first ≤ last) (inside : last < body.length) :
    EndsInLine (body.take first ++ (slots ++ body.drop last)) := by
  obtain ⟨front, some, whole⟩ := ends
  have size := congrArg List.length whole
  rw [length_contents, List.length_append, List.length_singleton] at size
  refine ⟨front.take first ++ (contents slots ++ front.drop last), ?_, ?_⟩
  · have kept : front.take first ≠ [] := by
      rw [ne_eq, List.take_eq_nil_iff, not_or]
      exact ⟨by omega, some⟩
    simp [kept]
  · have before : contents (body.take first) = front.take first := by
      rw [contents, List.map_take]
      change body.contents.take first = _
      rw [whole, List.take_append_of_le_length (by omega)]
    have after : contents (body.drop last) = front.drop last ++ [.code 10] := by
      rw [contents, List.map_drop]
      change body.contents.drop last = _
      rw [whole, List.drop_append_of_le_length (by omega)]
    rw [contents_append, contents_append, before, after]
    simp

theorem EndsInLine.splice (ends : body.EndsInLine) {index : Int} (slots : LiveBody) (positive : 1 ≤ index)
    (inside : index < body.length) :
    (LiveBody.splice index slots body).EndsInLine ∧
      ((LiveBody.splice index slots body).length : Int) = body.length + slots.length := by
  refine ⟨ends.replace slots (by omega) (Nat.le_refl _) (by omega), ?_⟩
  simp only [LiveBody.splice, List.length_append, List.length_take, List.length_drop]
  omega

theorem EndsInLine.remove (ends : body.EndsInLine) {start stop : Int} (positive : 1 ≤ start) (ordered : start < stop)
    (inside : stop < body.length) :
    (LiveBody.remove start stop body).EndsInLine ∧
      ((LiveBody.remove start stop body).length : Int) = body.length + (start - stop) := by
  have later : max start.toNat stop.toNat = stop.toNat := by omega
  rw [LiveBody.remove, later]
  refine ⟨?_, ?_⟩
  · exact ends.replace [] (by omega) (by omega) (by omega)
  · simp only [List.length_append, List.length_take, List.length_drop]
    omega

theorem EndsInLine.restyle (ends : body.EndsInLine) (start stop : Int) (change : StyleChange) :
    (LiveBody.restyle start stop change body).EndsInLine ∧
      (LiveBody.restyle start stop change body).length = body.length := by
  have same := contents_restyle start stop change body
  refine ⟨?_, ?_⟩
  · rwa [EndsInLine, same]
  · rw [← length_contents, same, length_contents]

/-- A valid edit leaves the last line end, and adds just its growth. -/
theorem EndsInLine.edit (ends : body.EndsInLine) {edit : Edit} (valid : edit.IsValid body.length) :
    (edit.applyTo (fun _ => true) body).EndsInLine ∧
      ((edit.applyTo (fun _ => true) body).length : Int) = body.length + edit.growth := by
  cases edit with
  | insertText index text =>
    obtain ⟨positive, inside, -⟩ := valid
    have all : text.toList.filter (fun _ => true) = text.toList := List.filter_eq_self.mpr fun _ _ => rfl
    have spliced := ends.splice (plainSlots (textContents text.toList)) positive inside
    rw [length_plainSlots, length_textContents] at spliced
    rw [Edit.applyTo, all]
    exact spliced
  | deleteRange start stop =>
    obtain ⟨positive, ordered, inside⟩ := valid
    exact ends.remove positive ordered inside
  | styleText start stop change =>
    obtain ⟨kept, same⟩ := ends.restyle start stop change
    exact ⟨kept, by simp [Edit.applyTo, Edit.growth, same]⟩
  | styleParagraph start stop change => exact ⟨ends, (Int.add_zero _).symm⟩
  | insertTable index rows columns =>
    obtain ⟨positive, inside, someRows, someColumns⟩ := valid
    have spliced := ends.splice (plainSlots (emptyTable rows.toNat columns.toNat)) positive inside
    rw [length_plainSlots, length_emptyTable, Int.toNat_of_nonneg (by omega),
      Int.toNat_of_nonneg (by omega)] at spliced
    exact spliced
  | insertImage index url =>
    obtain ⟨positive, inside, -⟩ := valid
    exact ends.splice [Slot.plain (.image url)] positive inside
  | given request => exact valid.elim

end LiveBody

theorem Fits.accepts {edits : List Edit} {body : LiveBody} (ends : body.EndsInLine)
    (fits : Fits body.length edits) :
    Accepts body edits ∧ (applyEdits (fun _ => true) edits body).EndsInLine ∧
      ((applyEdits (fun _ => true) edits body).length : Int) = body.length + growthOf edits := by
  induction edits generalizing body with
  | nil => exact ⟨trivial, ends, (Int.add_zero _).symm⟩
  | cons edit edits ih =>
    obtain ⟨valid, rest⟩ := fits
    obtain ⟨kept, size⟩ := ends.edit valid
    obtain ⟨accepted, finished, total⟩ := ih kept (size ▸ rest)
    refine ⟨⟨valid, accepted⟩, finished, ?_⟩
    rw [applyEdits_cons, total, size, growthOf_cons, Int.add_assoc]

end DocScribe.Docs
