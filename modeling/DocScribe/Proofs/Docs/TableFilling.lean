import DocScribe.Proofs.Docs.DocumentService
import DocScribe.Proofs.Docs.Meaning
import Mathlib.Algebra.GroupWithZero.Nat

/-! Putting one table into a live document. The cells are filled in document order, each behind what the
cells before it have taken up, so at every moment the body is a filled part, an empty part and the rest. -/

namespace DocScribe.Docs
open DocScribe Markdown TableInsertion

/-- The style of text in a cell on which no span has set one. -/
def cellStyle (bold : Bool) : TextStyle := TextStyle.exactly { bold := bold }

def styledSlots (text : List Char) (style : TextStyle) : LiveBody := (textContents text).map fun content => ⟨content, style⟩

def spanSlots (below : TextStyle) (spans : List Span) : LiveBody :=
  spans.flatMap fun span => styledSlots span.text.toList (below.set span.style)

/-- The slots of a cell: its start, its text and a line end. -/
def cellSlots (bold : Bool) (spans : List Span) : LiveBody :=
  Slot.plain .cellStart :: (spanSlots (cellStyle bold) spans ++ [Slot.plain (.code 10)])

/-- The slots of a row, with empty cells up to a number of columns. -/
def rowSlots (columns : Nat) (bold : Bool) (row : List (List Span)) : LiveBody :=
  Slot.plain .rowStart :: (row ++ List.replicate (columns - row.length) []).flatMap (cellSlots bold)

/-- The slots of rows, of which the first may be bold. -/
def rowsSlots (columns : Nat) : (bold : Bool) → Grid → LiveBody
  | _, [] => []
  | bold, row :: rest => rowSlots columns bold row ++ rowsSlots columns false rest

def tableSlots (bold : Bool) (cells : Grid) : LiveBody :=
  Slot.plain .tableStart :: (rowsSlots (width cells) bold cells ++ [Slot.plain .tableEnd])

def rowUnits (row : List (List Span)) : Nat := (row.map fun spans => Text.units (spansText spans)).sum

section Slots

@[simp] theorem styledSlots_none (text : List Char) : styledSlots text TextStyle.none = plainSlots (textContents text) := rfl

@[simp] theorem styledSlots_append (first second : List Char) (style : TextStyle) :
    styledSlots (first ++ second) style = styledSlots first style ++ styledSlots second style := by
  simp [styledSlots]

@[simp] theorem length_styledSlots (text : List Char) (style : TextStyle) :
    (styledSlots text style).length = Text.listUnits text := by
  simp [styledSlots]

@[simp] theorem contents_styledSlots (text : List Char) (style : TextStyle) :
    LiveBody.contents (styledSlots text style) = textContents text := by
  simp [styledSlots, LiveBody.contents, Function.comp_def]

theorem restyle_styledSlots (change : StyleChange) (text : List Char) (style : TextStyle) :
    (styledSlots text style).map (Slot.restyle change) = styledSlots text (change.applyTo style) := by
  simp [styledSlots, Function.comp_def, Slot.restyle]

@[simp] theorem length_spanSlots (below : TextStyle) (spans : List Span) :
    (spanSlots below spans).length = Text.units (spansText spans) := by
  rw [Text.units, toList_spansText]
  induction spans with
  | nil => rfl
  | cons span spans ih =>
    have rest : (spanSlots below spans).length = Text.listUnits (spans.flatMap fun span => span.text.toList) := ih
    simp only [spanSlots, List.flatMap_cons, List.length_append, length_styledSlots, Text.listUnits_append]
    rw [← rest, spanSlots]

@[simp] theorem length_cellSlots (bold : Bool) (spans : List Span) :
    (cellSlots bold spans).length = 2 + Text.units (spansText spans) := by
  simp [cellSlots]
  omega

private theorem cellSlots_empty (bold : Bool) {spans : List Span} (empty : spansText spans = "") :
    cellSlots bold spans = cellSlots false [] := by
  have none : spanSlots (cellStyle bold) spans = [] := by
    rw [← List.length_eq_zero_iff, length_spanSlots, empty]
    rfl
  rw [cellSlots, none]
  rfl

end Slots

section Edits
variable {keeps : Char → Bool}

private theorem spanStyles_apply (spans : List Span) (below : TextStyle) {front back : LiveBody} {offset : Int}
    (place : (front.length : Int) = offset) :
    applyEdits keeps (spanStyles offset spans) (front ++ (styledSlots (spansText spans).toList below ++ back)) =
      front ++ (spanSlots below spans ++ back) := by
  rw [toList_spansText]
  induction spans generalizing front offset with
  | nil => rfl
  | cons span spans ih =>
    have behind : ((front ++ styledSlots span.text.toList (below.set span.style)).length : Int) =
        offset + Text.units span.text := by
      rw [List.length_append, length_styledSlots, Text.units]
      omega
    have rest := ih behind
    have size : offset + (styledSlots span.text.toList below).length = offset + Text.units span.text := by
      rw [length_styledSlots, Text.units]
    simp only [spanStyles, List.flatMap_cons, styledSlots_append, applyEdits_append, spanSlots, List.append_assoc] at rest ⊢
    rw [← rest]
    congr 1
    -- a span without text has nothing to style
    cases styled : span.style.isStyled with
    | false =>
      have plain : span.style = .plain := Decidable.not_not.mp (mt Style.isStyled_iff.mpr (Bool.eq_false_iff.mp styled))
      simp [plain]
    | true =>
      by_cases positive : offset < offset + Text.units span.text
      · simp only [positive, decide_true, Bool.and_self, ↓reduceIte, applyEdits_cons, applyEdits_nil, Edit.applyTo]
        rw [LiveBody.restyle_between _ place size, restyle_styledSlots,
          StyleChange.applyTo_ofStyle (Style.isStyled_iff.mp styled)]
      · have none : span.text.toList = [] := by
          rw [← Text.listUnits_eq_zero, ← Text.units]
          omega
        simp [none, styledSlots, positive]

theorem filter_kept {text : List Char} (kept : ∀ c ∈ text, keeps c = true) : text.filter keeps = text :=
  List.filter_eq_self.mpr kept

/-- The edits of a cell write its text in its styles. -/
theorem cellEdits_apply {spans : List Span} (kept : ∀ c ∈ (spansText spans).toList, keeps c = true) (bold : Bool)
    {front back : LiveBody} {index : Int} (place : (front.length : Int) = index) :
    applyEdits keeps (cellEdits spans index bold) (front ++ back) =
      front ++ (spanSlots (cellStyle bold) spans ++ back) := by
  have size : index + (plainSlots (textContents (spansText spans).toList)).length = index + Text.units (spansText spans) := by
    simp [Text.units]
  rw [cellEdits, List.cons_append, applyEdits_cons, applyEdits_append, Edit.applyTo, filter_kept kept, LiveBody.splice_at _ place]
  cases bold with
  | false =>
    have plain : cellStyle false = TextStyle.none := TextStyle.exactly_plain
    rw [← spanStyles_apply spans (cellStyle false) place, plain]
    rfl
  | true =>
    simp only [↓reduceIte, applyEdits_cons, applyEdits_nil, Edit.applyTo]
    rw [LiveBody.restyle_between _ place size, ← styledSlots_none, restyle_styledSlots,
      StyleChange.applyTo_ofStyle (by decide), TextStyle.set_none]
    exact spanStyles_apply spans (cellStyle true) place

/-- The first batch of a table leaves an empty table in the place of the anchor. -/
theorem structureEdits_apply (cells : Grid) {front anchor : LiveBody} (back : LiveBody) {index : Int}
    (place : (front.length : Int) = index) {replaceAnchor : Bool} (anchored : anchor.length = if replaceAnchor then 1 else 0) :
    applyEdits keeps (TableInserter.structureEdits index cells replaceAnchor) (front ++ (anchor ++ back)) =
      (front ++ [Slot.plain .tableStart]) ++ ((List.replicate cells.length (plainSlots (emptyRow (width cells)))).flatten ++
        ([Slot.plain .tableEnd] ++ back)) := by
  have cleared : applyEdits keeps (if replaceAnchor then [.deleteRange index (index + 1)] else [])
      (front ++ (anchor ++ back)) = front ++ back := by
    cases replaceAnchor with
    | false =>
      have none : anchor = [] := List.length_eq_zero_iff.mp anchored
      simp [none]
    | true =>
      have one : index + anchor.length = index + 1 := by
        rw [anchored]
        rfl
      exact LiveBody.remove_between place one
  rw [TableInserter.structureEdits, applyEdits_append, cleared]
  simp only [applyEdits_cons, applyEdits_nil, Edit.applyTo]
  rw [LiveBody.splice_at _ place]
  simp [emptyTable, plainSlots, List.map_flatten]

end Edits

def KeepsCells (keeps : Char → Bool) (cells : Grid) : Prop :=
  ∀ row ∈ cells, ∀ spans ∈ row, ∀ c ∈ (spansText spans).toList, keeps c = true

def emptyCells (count : Nat) : LiveBody := (List.replicate count (cellSlots false [])).flatten

section Rows

private theorem plainSlots_emptyRow (columns : Nat) : plainSlots (emptyRow columns) = Slot.plain .rowStart :: emptyCells columns := by
  simp [emptyRow, emptyCells, plainSlots, cellSlots, spanSlots]

private theorem emptyCells_add (first second : Nat) : emptyCells (first + second) = emptyCells first ++ emptyCells second := by
  rw [emptyCells, ← List.replicate_append_replicate, List.flatten_append]
  rfl

/-- A row of empty cells starts with as many as a text has for it. -/
theorem plainSlots_emptyRow_split {columns own missing : Nat} (size : own + missing = columns) :
    plainSlots (emptyRow columns) = Slot.plain .rowStart :: (emptyCells own ++ emptyCells missing) := by
  rw [plainSlots_emptyRow, ← emptyCells_add, size]

private theorem emptyCells_succ (count : Nat) : emptyCells (count + 1) = cellSlots false [] ++ emptyCells count := by
  rw [emptyCells, List.replicate_succ, List.flatten_cons, emptyCells]

private theorem rowSlots_eq (columns : Nat) (bold : Bool) (row : List (List Span)) :
    rowSlots columns bold row =
      Slot.plain .rowStart :: (row.flatMap (cellSlots bold) ++ emptyCells (columns - row.length)) := by
  have missing : (List.replicate (columns - row.length) []).flatMap (cellSlots bold) = emptyCells (columns - row.length) := by
    rw [List.flatMap_replicate, cellSlots_empty bold rfl, emptyCells]
  rw [rowSlots, List.flatMap_append, missing]

private theorem length_cells (bold : Bool) (cells : List (List Span)) :
    (cells.flatMap (cellSlots bold)).length = 2 * cells.length + rowUnits cells := by
  induction cells with
  | nil => rfl
  | cons spans cells ih =>
    simp only [List.flatMap_cons, List.length_append, ih, length_cellSlots, List.length_cons, rowUnits, List.map_cons,
      List.sum_cons]
    omega

private theorem length_rowSlots {columns : Nat} (bold : Bool) {row : List (List Span)} (fits : row.length ≤ columns) :
    (rowSlots columns bold row).length = 2 * columns + 1 + rowUnits row := by
  have empty : (emptyCells (columns - row.length)).length = 2 * (columns - row.length) := by
    simp [emptyCells, Text.units, spansText, Nat.mul_comm]
  rw [rowSlots_eq, List.length_cons, List.length_append, length_cells, empty]
  omega

private theorem length_rowsSlots {columns : Nat} (bold : Bool) {cells : Grid} (fits : ∀ row ∈ cells, row.length ≤ columns) :
    (rowsSlots columns bold cells).length = cells.length * (2 * columns + 1) + (cells.map rowUnits).sum := by
  induction cells generalizing bold with
  | nil => simp [rowsSlots]
  | cons row cells ih =>
    rw [rowsSlots, List.length_append, length_rowSlots bold (fits row (by simp)),
      ih false fun other member => fits other (by simp [member]), List.length_cons, List.map_cons, List.sum_cons,
      Nat.add_mul]
    omega

@[simp] theorem textUnits_cons (cell : PlacedCell) (cells : List PlacedCell) :
    textUnits (cell :: cells) = Text.units (spansText cell.spans) + textUnits cells := rfl

private theorem textUnits_append (first second : List PlacedCell) :
    textUnits (first ++ second) = textUnits first + textUnits second := by
  induction first with
  | nil => exact (Nat.zero_add _).symm
  | cons cell first ih => rw [List.cons_append, textUnits_cons, textUnits_cons, ih, Nat.add_assoc]

private theorem textUnits_filled (cells : List PlacedCell) :
    textUnits (cells.filter fun cell => spansText cell.spans != "") = textUnits cells := by
  induction cells with
  | nil => rfl
  | cons cell cells ih =>
    rw [List.filter_cons]
    by_cases empty : spansText cell.spans = ""
    · simpa [empty, Text.units] using ih
    · simpa [empty] using ih

private theorem textUnits_placedCells (row : Nat) (cells : Grid) : textUnits (placedCells row cells) = (cells.map rowUnits).sum := by
  have ofRow (row column : Nat) (spans : List (List Span)) : textUnits (placedRow row column spans) = rowUnits spans := by
    induction spans generalizing column with
    | nil => rfl
    | cons first spans ih => simpa [placedRow, rowUnits] using ih (column + 1)
  induction cells generalizing row with
  | nil => rfl
  | cons first cells ih => rw [placedCells, textUnits_append, ofRow, ih, List.map_cons, List.sum_cons]

/-- The length of a populated table is that of the empty one and of the texts. -/
theorem length_tableSlots (bold : Bool) (cells : Grid) :
    ((tableSlots bold cells).length : Int) =
      TableLayout.emptyLength cells.length (width cells) + textUnits (filledCells cells) := by
  rw [filledCells, textUnits_filled, textUnits_placedCells, tableSlots, List.length_cons, List.length_append,
    length_rowsSlots bold fun row member => length_le_width member, TableLayout.emptyLength]
  simp
  omega

end Rows

section Filling
variable {service : DocumentService} {inserter : TableInserter} (own : inserter.documentId = service.documentId)
include own

private theorem apply_succeeds (edits : List Edit) (body : LiveBody) :
    service.Succeeds (inserter.apply edits) body () (applyEdits service.keeps edits body) := by
  have called := service.succeeds_edit edits body
  rw [← own] at called
  exact called.andThen

/-- One cell is filled, and the others are as much further as its text is long. -/
theorem run_fillCells_cons (index : Int) (columns total completed shift : Nat) (cell : PlacedCell)
    (rest : List PlacedCell) (body : LiveBody) :
    service.run (inserter.fillCells index columns total completed shift (cell :: rest)).run body =
      service.run (inserter.fillCells index columns total (completed + 1)
          (shift + Text.units (spansText cell.spans)) rest).run
        (applyEdits service.keeps (cellEdits cell.spans
          (TableLayout.cellIndex index cell.row cell.column columns + shift)
          (inserter.boldHeaders && cell.row == 0)) body) := by
  rw [TableInserter.fillCells]
  exact (apply_succeeds own _ body).outcome.andThen

/-- A cell at its place is filled, whatever stands before and behind it. -/
theorem run_fillCells_cell (index : Int) (columns total completed shift row column : Nat) {spans : List Span}
    (kept : ∀ c ∈ (spansText spans).toList, service.keeps c = true) (rest : List PlacedCell) {front : LiveBody} (back : LiveBody)
    (place : (front.length : Int) = index + 2 + row * (2 * columns + 1) + 2 * column + shift) :
    service.run (inserter.fillCells index columns total completed shift (⟨row, column, spans⟩ :: rest)).run
        (front ++ (cellSlots false [] ++ back)) =
      service.run (inserter.fillCells index columns total (completed + 1) (shift + Text.units (spansText spans)) rest).run
        (front ++ (cellSlots (inserter.boldHeaders && row == 0) spans ++ back)) := by
  have empty : front ++ (cellSlots false [] ++ back) =
      (front ++ [Slot.plain .cellStart]) ++ ([Slot.plain (.code 10)] ++ back) := by
    simp [cellSlots, spanSlots]
  have content : ((front ++ [Slot.plain .cellStart]).length : Int) = TableLayout.cellIndex index row column columns + shift := by
    rw [List.length_append, List.length_singleton, TableLayout.cellIndex]
    push_cast
    omega
  rw [run_fillCells_cons own, empty, cellEdits_apply kept _ content]
  simp [cellSlots]

private theorem run_fillCells_row (index : Int) (columns total : Nat) (row column : Nat) (cells : List (List Span))
    (kept : ∀ spans ∈ cells, ∀ c ∈ (spansText spans).toList, service.keeps c = true) (more : List PlacedCell)
    (completed shift : Nat) {front : LiveBody} (back : LiveBody)
    (place : (front.length : Int) = index + 2 + row * (2 * columns + 1) + 2 * column + shift) :
    ∃ filled, service.run (inserter.fillCells index columns total completed shift
          ((placedRow row column cells).filter (fun cell => spansText cell.spans != "") ++ more)).run
        (front ++ (emptyCells cells.length ++ back)) =
      service.run (inserter.fillCells index columns total filled (shift + rowUnits cells) more).run
        (front ++ (cells.flatMap (cellSlots (inserter.boldHeaders && row == 0)) ++ back)) := by
  -- on the cells that are left: those in front are filled, and their texts are as long as the shift
  induction cells generalizing column completed shift front with
  | nil => exact ⟨completed, rfl⟩
  | cons spans cells ih =>
    have keptRest := fun other member => kept other (List.mem_cons_of_mem spans member)
    let bold := inserter.boldHeaders && row == 0
    have behind : ((front ++ cellSlots bold spans).length : Int) =
        index + 2 + row * (2 * columns + 1) + 2 * (column + 1 : Nat) + (shift + Text.units (spansText spans) : Nat) := by
      rw [List.length_append, length_cellSlots]
      push_cast
      omega
    have units : shift + rowUnits (spans :: cells) = shift + Text.units (spansText spans) + rowUnits cells := by
      simp [rowUnits, Nat.add_assoc]
    have filledCell : front ++ ((spans :: cells).flatMap (cellSlots bold) ++ back) =
        (front ++ cellSlots bold spans) ++ (cells.flatMap (cellSlots bold) ++ back) := by
      simp
    rw [units, filledCell, List.length_cons, emptyCells_succ, List.append_assoc]
    by_cases empty : spansText spans = ""
    · obtain ⟨filled, run⟩ := ih (column + 1) keptRest completed (shift + Text.units (spansText spans)) behind
      refine ⟨filled, ?_⟩
      rw [← run, ← cellSlots_empty bold empty]
      simp [placedRow, empty, Text.units]
    · obtain ⟨filled, run⟩ := ih (column + 1) keptRest (completed + 1) (shift + Text.units (spansText spans)) behind
      refine ⟨filled, ?_⟩
      have first : (placedRow row column (spans :: cells)).filter (fun cell => spansText cell.spans != "") =
          ⟨row, column, spans⟩ :: (placedRow row (column + 1) cells).filter fun cell => spansText cell.spans != "" := by
        simp [placedRow, empty]
      rw [← run, first, List.cons_append, run_fillCells_cell own index columns total completed shift row column
        (kept spans (by simp)) _ _ place, List.append_assoc]

private theorem run_fillCells_rows (index : Int) (columns total : Nat) (row : Nat) (cells : Grid)
    (kept : KeepsCells service.keeps cells) (fits : ∀ cellsOfRow ∈ cells, cellsOfRow.length ≤ columns)
    (completed shift : Nat) {front : LiveBody} (back : LiveBody)
    (place : (front.length : Int) = index + 1 + row * (2 * columns + 1) + shift) :
    service.run (inserter.fillCells index columns total completed shift
          ((placedCells row cells).filter fun cell => spansText cell.spans != "")).run
        (front ++ ((List.replicate cells.length (plainSlots (emptyRow columns))).flatten ++ back)) =
      (.ok (), front ++ (rowsSlots columns (inserter.boldHeaders && row == 0) cells ++ back)) := by
  induction cells generalizing row completed shift front with
  | nil => rfl
  | cons cellsOfRow cells ih =>
    let missing := columns - cellsOfRow.length
    have size : cellsOfRow.length + missing = columns := by
      have := fits cellsOfRow (by simp)
      omega
    have start : ((front ++ [Slot.plain .rowStart]).length : Int) =
        index + 2 + row * (2 * columns + 1) + 2 * (0 : Nat) + shift := by
      rw [List.length_append, List.length_singleton]
      push_cast
      omega
    obtain ⟨filled, run⟩ := run_fillCells_row own index columns total row 0 cellsOfRow (kept cellsOfRow (by simp))
      ((placedCells (row + 1) cells).filter fun cell => spansText cell.spans != "") completed shift
      (emptyCells missing ++ ((List.replicate cells.length (plainSlots (emptyRow columns))).flatten ++ back)) start
    let bold := inserter.boldHeaders && row == 0
    have behind : ((front ++ rowSlots columns bold cellsOfRow).length : Int) =
        index + 1 + (row + 1 : Nat) * (2 * columns + 1) + (shift + rowUnits cellsOfRow : Nat) := by
      rw [List.length_append, length_rowSlots bold (by omega), Int.natCast_add row, Int.add_mul]
      push_cast
      omega
    have rest := ih (row + 1) (fun other member => kept other (by simp [member]))
      (fun other member => fits other (by simp [member])) filled (shift + rowUnits cellsOfRow) behind
    have empty : front ++ ((List.replicate (cellsOfRow :: cells).length (plainSlots (emptyRow columns))).flatten ++ back) =
        (front ++ [Slot.plain .rowStart]) ++ (emptyCells cellsOfRow.length ++ (emptyCells missing ++
          ((List.replicate cells.length (plainSlots (emptyRow columns))).flatten ++ back))) := by
      rw [List.length_cons, List.replicate_succ, List.flatten_cons]
      generalize (List.replicate cells.length (plainSlots (emptyRow columns))).flatten = others
      rw [plainSlots_emptyRow_split size]
      simp
    have whole : (front ++ [Slot.plain .rowStart]) ++ (cellsOfRow.flatMap (cellSlots bold) ++ (emptyCells missing ++
          ((List.replicate cells.length (plainSlots (emptyRow columns))).flatten ++ back))) =
        (front ++ rowSlots columns bold cellsOfRow) ++
          ((List.replicate cells.length (plainSlots (emptyRow columns))).flatten ++ back) := by
      rw [rowSlots_eq]
      simp [missing]
    rw [placedCells, List.filter_append, empty, run, whole, rest]
    simp [rowsSlots, bold]

/-- A table takes the place of its anchor, or stands in front of what is there, with all its cells filled.
The result is the position behind it. -/
theorem insert_succeeds {cells : Grid} (some : width cells ≠ 0) (kept : KeepsCells service.keeps cells)
    {front anchor : LiveBody} (back : LiveBody) {index : Int} (place : (front.length : Int) = index) {replaceAnchor : Bool}
    (anchored : anchor.length = if replaceAnchor then 1 else 0) :
    service.Succeeds (inserter.insert index cells replaceAnchor) (front ++ (anchor ++ back))
      (index + (tableSlots inserter.boldHeaders cells).length)
      (front ++ (tableSlots inserter.boldHeaders cells ++ back)) := by
  have rows : cells ≠ [] := by
    rintro rfl
    exact some rfl
  have inside : ((front ++ [Slot.plain .tableStart]).length : Int) =
      index + 1 + (0 : Nat) * (2 * width cells + 1) + (0 : Nat) := by
    simp
    omega
  have filled := run_fillCells_rows own index (width cells) (filledCells cells).length 0 cells kept
    (fun row member => length_le_width member) 0 0 ([Slot.plain .tableEnd] ++ back) inside
  have built := apply_succeeds own (TableInserter.structureEdits index cells replaceAnchor) (front ++ (anchor ++ back))
  rw [structureEdits_apply cells back place anchored] at built
  have done : service.Succeeds (inserter.fillCells index (width cells) (filledCells cells).length 0 0 (filledCells cells))
      ((front ++ [Slot.plain .tableStart]) ++ ((List.replicate cells.length (plainSlots (emptyRow (width cells)))).flatten ++
        ([Slot.plain .tableEnd] ++ back))) () (front ++ (tableSlots inserter.boldHeaders cells ++ back)) := by
    refine filled.trans ?_
    simp [tableSlots]
  have dimensions : (cells.length == 0 || width cells == 0) = false := by
    simp [some, rows]
  rw [DocumentService.Succeeds, TableInserter.insert]
  simp only [dimensions, Bool.false_eq_true, ↓reduceIte]
  rw [built.andThen, done.andThen, length_tableSlots, ← Int.add_assoc]
  rfl

end Filling

end DocScribe.Docs
