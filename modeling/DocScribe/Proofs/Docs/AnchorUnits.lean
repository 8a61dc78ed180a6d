import DocScribe.Proofs.Docs.DocumentService
import DocScribe.Proofs.Docs.MarkerPlaces

/-! The anchor units of a body. Where a service does not store anchors, no edit brings in such a unit, so
whatever a program asks of the service, the body never holds more of them than before. -/

namespace DocScribe.Docs
open DocScribe Service

/-- How many units of a body are those of an anchor. -/
def anchorUnits (body : LiveBody) : Nat := (LiveBody.contents body).count (.code 0)

@[simp] theorem anchorUnits_append (first second : LiveBody) :
    anchorUnits (first ++ second) = anchorUnits first + anchorUnits second := by
  simp [anchorUnits]

theorem mem_anchor {text : List Char} : .code 0 ∈ textContents text ↔ tableAnchor ∈ text :=
  code_mem_textContents (c := tableAnchor) (by decide) text

private theorem anchorUnits_plainSlots {contents : List SlotContent} (absent : .code 0 ∉ contents) :
    anchorUnits (plainSlots contents) = 0 := by
  rw [anchorUnits, contents_plainSlots]
  exact List.count_eq_zero_of_not_mem absent

private theorem anchorUnits_splice (index : Int) {slots : LiveBody} (none : anchorUnits slots = 0) (body : LiveBody) :
    anchorUnits (LiveBody.splice index slots body) = anchorUnits body := by
  have whole := congrArg anchorUnits (List.take_append_drop index.toNat body)
  rw [anchorUnits_append] at whole
  rw [LiveBody.splice, anchorUnits_append, anchorUnits_append]
  omega

private theorem anchorUnits_remove (start stop : Int) (body : LiveBody) :
    anchorUnits (LiveBody.remove start stop body) ≤ anchorUnits body := by
  have first : max start.toNat stop.toNat = start.toNat + (stop.toNat - start.toNat) := by omega
  have whole := congrArg anchorUnits (List.take_append_drop start.toNat body)
  have removed := congrArg anchorUnits (List.take_append_drop (stop.toNat - start.toNat) (body.drop start.toNat))
  rw [anchorUnits_append] at whole removed
  rw [LiveBody.remove, first, anchorUnits_append, ← List.drop_drop]
  omega

private theorem emptyTable_noAnchor (rows columns : Nat) : .code 0 ∉ emptyTable rows columns := by
  simp [emptyTable, emptyRow, List.mem_flatten]

section Dropped
variable {keeps : Char → Bool} (dropped : keeps tableAnchor = false)
include dropped

private theorem anchorUnits_edit (edit : Edit) (body : LiveBody) : anchorUnits (edit.applyTo keeps body) ≤ anchorUnits body := by
  cases edit with
  | insertText index text =>
    have stored : SlotContent.code 0 ∉ textContents (text.toList.filter keeps) := by
      rw [mem_anchor, List.mem_filter, dropped]
      simp
    exact Nat.le_of_eq (anchorUnits_splice index (anchorUnits_plainSlots stored) body)
  | deleteRange start stop => exact anchorUnits_remove start stop body
  | styleText start stop change => simp [Edit.applyTo, anchorUnits]
  | styleParagraph start stop change => exact Nat.le_refl _
  | insertTable index rows columns =>
    exact Nat.le_of_eq (anchorUnits_splice index (anchorUnits_plainSlots (emptyTable_noAnchor _ _)) body)
  | insertImage index url => exact Nat.le_of_eq (anchorUnits_splice index (by simp [anchorUnits]) body)
  | given value => exact Nat.le_refl _

theorem anchorUnits_edits (edits : List Edit) (body : LiveBody) :
    anchorUnits (applyEdits keeps edits body) ≤ anchorUnits body := by
  induction edits generalizing body with
  | nil => exact Nat.le_refl _
  | cons edit edits ih => exact (ih _).trans (anchorUnits_edit dropped edit body)

end Dropped

variable {service : DocumentService}

private theorem anchorUnits_answer (dropped : service.keeps tableAnchor = false) (body : LiveBody) (question : Request) :
    anchorUnits (service.answer body question).2 ≤ anchorUnits body := by
  unfold DocumentService.answer
  split
  · split
    · exact anchorUnits_edits dropped _ body
    · exact Nat.le_refl _
  · split <;> exact Nat.le_refl _
  · exact Nat.le_refl _

/-- No program brings anchor units into the body of a service that does not store them. -/
theorem anchorUnits_run (dropped : service.keeps tableAnchor = false) (program : Program α) (body : LiveBody) :
    anchorUnits (service.run program body).2 ≤ anchorUnits body := by
  induction program generalizing body with
  | pure value => exact Nat.le_refl _
  | request question next ih => exact (ih _ _).trans (anchorUnits_answer dropped body question)

end DocScribe.Docs
