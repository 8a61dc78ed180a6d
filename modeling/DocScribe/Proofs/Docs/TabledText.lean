import DocScribe.Docs.MarkdownWrite
import DocScribe.Proofs.Docs.PicturePass
import DocScribe.Proofs.Docs.ShownBody
import DocScribe.Proofs.Docs.TablePass

/-! The tables of a text that was just written. Whether the anchors of the tables are stored is seen from where
the document ends; either way every table takes the place of its anchor, and a table starts no marker. -/

namespace DocScribe.Docs
open DocScribe Markdown TableInsertion

/-- The shape of a table that is not inserted yet, where its anchor may not be stored. -/
def bareShape (anchors : Bool) : Grid → List SlotContent := fun _ => if anchors then [.code 0] else []

def tableShape : Grid → List SlotContent := fun cells => LiveBody.contents (tableSlots true cells)

namespace LaidBody

def tabledPart : Part × LiveBody → Part × LiveBody
  | (.table cells, _) => (.table cells, tableSlots true cells)
  | piece => piece

def tabled (laid : LaidBody) : LaidBody := laid.map tabledPart

/-- A part as a piece that tables are put into. -/
def chunk : Part × LiveBody → Chunk
  | (.table cells, slots) => .table slots cells
  | (_, slots) => .fixed slots

section Tabled
variable {tag : String} {anchors : Bool} {laid : LaidBody}

private theorem before_chunks : (laid.map chunk).flatMap Chunk.before = laid.slots := by
  rw [List.flatMap_map, slots]
  refine List.flatMap_congr fun piece _ => ?_
  obtain ⟨part, own⟩ := piece
  cases part <;> rfl

private theorem after_chunks : (laid.map chunk).flatMap (Chunk.after true) = laid.tabled.slots := by
  rw [List.flatMap_map, slots, tabled, List.flatMap_map]
  refine List.flatMap_congr fun piece _ => ?_
  obtain ⟨part, own⟩ := piece
  cases part <;> rfl

theorem parts_tabled : laid.tabled.parts = laid.parts := by
  rw [parts, tabled, List.map_map]
  refine List.map_congr_left fun piece _ => ?_
  obtain ⟨part, own⟩ := piece
  cases part <;> rfl

theorem holds_tabled {shape : Grid → List SlotContent} (holds : laid.Holds shape tag) : laid.tabled.Holds tableShape tag := by
  intro piece member
  obtain ⟨⟨part, own⟩, there, rfl⟩ := List.mem_map.mp member
  have held := holds (part, own) there
  cases part with
  | table cells => rfl
  | text chars style | image ordinal source isRemote alt => exact held

private theorem chunk_units {piece : Part × LiveBody} {shape : Grid → List SlotContent}
    (held : LiveBody.contents piece.2 = piece.1.contents shape tag) : (chunk piece).units = piece.1.units tag := by
  obtain ⟨part, own⟩ := piece
  have size := congrArg List.length held
  rw [LiveBody.length_contents] at size
  cases part with
  | table cells => rfl
  | text chars style | image ordinal source isRemote alt =>
    simp only [Part.contents, length_textContents] at size
    exact size

private theorem units_chunks {shape : Grid → List SlotContent} (holds : laid.Holds shape tag) :
    ((laid.map chunk).map Chunk.units).sum = Text.listUnits (payload tag laid.parts) := by
  induction laid with
  | nil => rfl
  | cons piece laid ih =>
    have rest := ih fun other member => holds other (List.mem_cons_of_mem piece member)
    simp only [parts, List.map_cons, List.sum_cons, payload_cons, Text.listUnits_append] at rest ⊢
    rw [rest, chunk_units (holds piece (by simp)), Part.units]

private theorem deferredTables_chunks {shape : Grid → List SlotContent} (holds : laid.Holds shape tag) (start : Int) :
    deferredTables start (laid.map chunk) = (placed tag start laid.parts).filterMap tableOf? := by
  induction laid generalizing start with
  | nil => rfl
  | cons piece laid ih =>
    have rest := ih fun other member => holds other (List.mem_cons_of_mem piece member)
    have size := chunk_units (holds piece (by simp))
    obtain ⟨part, own⟩ := piece
    simp only [parts, List.map_cons, placed_cons, List.filterMap_cons] at rest ⊢
    cases part with
    | table cells =>
      simp only [chunk, Chunk.units] at size
      simp only [chunk, deferredTables, tableOf?, ← size, rest]
      rfl
    | text chars style | image ordinal source isRemote alt =>
      simp only [chunk, Chunk.units] at size
      simp only [chunk, deferredTables, tableOf?, ← size, rest]

/-- A text without its anchors is shorter by the number of its tables. -/
theorem length_slots (holds : laid.Holds (bareShape anchors) tag) (start : Int) :
    laid.slots.length + (if anchors then 0 else ((placed tag start laid.parts).filterMap tableOf?).length) =
      Text.listUnits (payload tag laid.parts) := by
  induction laid generalizing start with
  | nil => simp [slots, parts]
  | cons piece laid ih =>
    have rest := ih (fun other member => holds other (List.mem_cons_of_mem piece member)) (start + piece.1.units tag)
    have held := congrArg List.length (holds piece (by simp))
    obtain ⟨part, own⟩ := piece
    rw [LiveBody.length_contents] at held
    simp only [slots, parts, List.flatMap_cons, List.length_append, List.map_cons, placed_cons, List.filterMap_cons,
      payload_cons, Text.listUnits_append] at rest held ⊢
    cases part with
    | table cells =>
      have anchor : Text.listUnits ((Part.table cells).chars tag) = 1 := rfl
      cases anchors <;>
        simp only [Part.contents, bareShape, tableOf?, anchor, Bool.false_eq_true, ↓reduceIte, List.length_cons,
          List.length_nil] at rest held ⊢ <;>
        omega
    | text chars style | image ordinal source isRemote alt =>
      simp only [Part.contents, length_textContents, tableOf?] at rest held ⊢
      omega

private theorem ready_chunks {keeps : Char → Bool} (holds : laid.Holds (bareShape anchors) tag)
    (ready : ∀ cells, .table cells ∈ laid.parts → width cells ≠ 0 ∧ KeepsCells keeps cells) :
    ∀ piece ∈ laid.map chunk, piece.IsReady keeps anchors := by
  intro piece member
  obtain ⟨⟨part, own⟩, there, rfl⟩ := List.mem_map.mp member
  have held := congrArg List.length (holds (part, own) there)
  rw [LiveBody.length_contents] at held
  cases part with
  | table cells =>
    obtain ⟨wide, kept⟩ := ready cells (List.mem_map.mpr ⟨_, there, rfl⟩)
    refine ⟨wide, kept, held.trans ?_⟩
    cases anchors <;> rfl
  | text chars style | image ordinal source isRemote alt => trivial

end Tabled
end LaidBody

section Quiet
variable {tag : String}

@[simp] theorem contents_spanSlots (below : TextStyle) (spans : List Span) :
    LiveBody.contents (spanSlots below spans) = textContents (spansText spans).toList := by
  rw [toList_spansText]
  induction spans with
  | nil => rfl
  | cons span spans ih => simpa [spanSlots] using ih

theorem quiet_structure (tag : String) {content : SlotContent} (other : content ≠ .code 91) : Text.Quiet (opening tag) [content] := by
  rw [opening_eq]
  exact Text.Quiet.single other

private theorem quiet_cell (plain : IsPlainTag tag.toList) (bold : Bool) {spans : List Span}
    (without : ¬ opener tag.toList <:+: (spansText spans).toList) :
    Text.Quiet (opening tag) (LiveBody.contents (cellSlots bold spans)) := by
  have start : Text.Quiet (opening tag) [.cellStart] := quiet_structure tag (by simp)
  have line := start.append (quiet_line plain without)
  simpa [cellSlots, textContents, Text.charCodes] using line

private theorem quiet_row (plain : IsPlainTag tag.toList) (columns : Nat) (bold : Bool) {row : List (List Span)}
    (without : ∀ spans ∈ row, ¬ opener tag.toList <:+: (spansText spans).toList) :
    Text.Quiet (opening tag) (LiveBody.contents (rowSlots columns bold row)) := by
  have cells : Text.Quiet (opening tag)
      ((row ++ List.replicate (columns - row.length) []).flatMap fun spans => LiveBody.contents (cellSlots bold spans)) := by
    refine Text.Quiet.flatMap fun spans member => quiet_cell plain bold ?_
    rcases List.mem_append.mp member with own | added
    · exact without spans own
    · rw [(List.mem_replicate.mp added).2]
      simp [spansText, opener]
  have start : Text.Quiet (opening tag) [.rowStart] := quiet_structure tag (by simp)
  simpa [rowSlots, LiveBody.contents, List.map_flatMap] using start.append cells

private theorem quiet_rows (plain : IsPlainTag tag.toList) (columns : Nat) (bold : Bool) {cells : Grid}
    (without : ∀ row ∈ cells, ∀ spans ∈ row, ¬ opener tag.toList <:+: (spansText spans).toList) :
    Text.Quiet (opening tag) (LiveBody.contents (rowsSlots columns bold cells)) := by
  induction cells generalizing bold with
  | nil => exact Text.Quiet.nil
  | cons row cells ih =>
    rw [rowsSlots, LiveBody.contents_append]
    exact (quiet_row plain columns bold (without row (by simp))).append
      (ih false fun other member => without other (List.mem_cons_of_mem row member))

theorem quiet_tableShape (plain : IsPlainTag tag.toList) : QuietShape tableShape tag := by
  intro cells without
  have start : Text.Quiet (opening tag) [.tableStart] := quiet_structure tag (by simp)
  have stop : Text.Quiet (opening tag) [.tableEnd] := quiet_structure tag (by simp)
  simpa [tableShape, tableSlots] using start.append ((quiet_rows plain (width cells) true without).append stop)

end Quiet

section Inserting
variable {service : DocumentService} {target : WriteTarget}

/-- Where a body ends tells whether the anchors of its tables are in it. -/
theorem run_anchorsRemain (shows : service.ShowsBodies) (own : target.documentId = service.documentId) {tables : Nat}
    (some : tables ≠ 0) {anchors : Bool} {body : LiveBody} {expected : Int}
    (counted : (body.length : Int) + (if anchors then 0 else (tables : Int)) = expected) :
    service.Succeeds (target.anchorsRemain expected tables) body anchors body := by
  have shown := service.succeeds_view body
  rw [← own] at shown
  have remain : ((body.length : Int) == expected || (body.length : Int) != expected - tables) = anchors := by
    rw [← counted]
    cases anchors with
    | true => simp
    | false =>
      simp only [Bool.false_eq_true, ↓reduceIte, Bool.or_eq_false_iff, beq_eq_false_iff_ne, bne_eq_false_iff_eq]
      omega
  refine shown.andThen.trans ?_
  rw [shows.ends body, ← remain]
  rfl

/-- The tables of a compiled text take the places of their anchors, also where anchors are not stored. -/
theorem insertTables_succeeds (shows : service.ShowsBodies) (own : target.documentId = service.documentId)
    {compiled : Compiled} {laid : LaidBody} {anchors : Bool} {tag : String} (holds : laid.Holds (bareShape anchors) tag)
    (text : compiled.text.toList = payload tag laid.parts) {front back : LiveBody}
    (tables : compiled.tables = (placed tag front.length laid.parts).filterMap tableOf?)
    (ready : ∀ cells, .table cells ∈ laid.parts → width cells ≠ 0 ∧ KeepsCells service.keeps cells)
    (inside : front ≠ []) (followed : back ≠ []) (stop : target.endIndex = some ((front ++ back).length : Int)) :
    service.Succeeds (target.insertTables compiled) (front ++ (laid.slots ++ back)) ()
      (front ++ (laid.tabled.slots ++ back)) := by
  let inserter : TableInserter := { documentId := target.documentId }
  have units : Text.listUnits (payload tag laid.parts) = Text.units compiled.text := by rw [← text, Text.units]
  have deferred := LaidBody.deferredTables_chunks holds front.length
  have size := LaidBody.length_slots holds front.length
  rw [← tables] at deferred size
  have ownInserter : inserter.documentId = service.documentId := own
  have start : (front.length : Int) = front.length + 0 := by omega
  have landed := run_insertFrom ownInserter (LaidBody.ready_chunks holds ready) compiled.tables.length 1
    (some ((front ++ back).length + Text.units compiled.text : Int)) back start (List.length_pos_iff.mpr inside) (by
      rintro last ⟨rfl⟩
      have := List.length_pos_iff.mpr followed
      rw [LaidBody.units_chunks holds, List.length_append]
      omega)
  rw [deferred, LaidBody.before_chunks, LaidBody.after_chunks] at landed
  rw [DocumentService.Succeeds, WriteTarget.insertTables]
  by_cases none : compiled.tables = []
  · rw [none] at landed ⊢
    have same : front ++ (laid.slots ++ back) = front ++ (laid.tabled.slots ++ back) := congrArg Prod.snd landed
    rw [← same]
    rfl
  · have counted : ((front ++ (laid.slots ++ back)).length : Int) +
        (if anchors then 0 else (compiled.tables.length : Int)) = (front ++ back).length + Text.units compiled.text := by
      simp only [List.length_append]
      cases anchors <;> simp only [Bool.false_eq_true, ↓reduceIte] at size ⊢ <;> omega
    have seen := run_anchorsRemain shows own (List.length_pos_iff.mpr none).ne' counted
    simp only [List.isEmpty_eq_false_iff.mpr none, Bool.false_eq_true, ↓reduceIte, stop, Option.map_some]
    rw [seen.andThen]
    refine (DocumentService.succeeds_lift landed).andThen.trans ?_
    exact (DocumentService.succeeds_ofOutcome _ _).andThen

end Inserting
end DocScribe.Docs
