import DocScribe.Docs.Compile
import DocScribe.Docs.TableLayout
import DocScribe.Program

/-! Putting tables into a document. A table takes the place of its anchor as an empty table, and then
its cells are filled one after the other. Every table moves what is behind it, so the sum of these
moves is carried along from table to table. -/

namespace DocScribe.Docs
open DocScribe Markdown Service

namespace TableInsertion

/-- The edits that set the style of each styled span of a text that starts at an offset. -/
def spanStyles : (offset : Int) → List Span → List Edit
  | _, [] => []
  | offset, span :: rest =>
    let stop := offset + Text.units span.text
    let styled := if span.style.isStyled && offset < stop then
      [Edit.styleText offset stop (.ofStyle span.style)] else []
    styled ++ spanStyles stop rest

/-- The edits that fill an empty cell: its text at once, all of it bold when asked for, and the style
of each styled span. -/
def cellEdits (spans : List Span) (index : Int) (bold : Bool) : List Edit :=
  let text := spansText spans
  let whole := if bold then
    [Edit.styleText index (index + Text.units text) (.ofStyle { bold := true })] else []
  .insertText index text :: whole ++ spanStyles index spans

structure PlacedCell where
  row : Nat
  column : Nat
  spans : List Span

/-- The cells of a row from a column on. -/
def placedRow (row : Nat) : (column : Nat) → List (List Span) → List PlacedCell
  | _, [] => []
  | column, spans :: rest => ⟨row, column, spans⟩ :: placedRow row (column + 1) rest

/-- The cells of rows from the row number `row` on, row by row. -/
def placedCells : (row : Nat) → Grid → List PlacedCell
  | _, [] => []
  | row, cells :: rest => placedRow row 0 cells ++ placedCells (row + 1) rest

def filledCells (cells : Grid) : List PlacedCell :=
  (placedCells 0 cells).filter fun cell => spansText cell.spans != ""

/-- The widest row. -/
def width (cells : Grid) : Nat := (cells.map List.length).foldl max 0

def textUnits (cells : List PlacedCell) : Nat :=
  cells.foldr (fun cell units => Text.units (spansText cell.spans) + units) 0

end TableInsertion

/-- What tables are put into: a document, and whether the cells of a first row are bold. -/
structure TableInserter where
  documentId : Identifier
  boldHeaders : Bool := true

namespace TableInserter
open TableInsertion

def apply (inserter : TableInserter) (edits : List Edit) : Action Unit := do
  let _ ← Action.call (.editDocument inserter.documentId edits)

/-- The edits that put an empty table into the place of its anchor, or in front of what stands there. -/
def structureEdits (index : Int) (cells : Grid) (replaceAnchor : Bool) : List Edit :=
  (if replaceAnchor then [.deleteRange index (index + 1)] else []) ++
    [.insertTable index cells.length (width cells)]

def cellFault (index : Int) (cell : PlacedCell) (completed total : Nat) (cause : Fault) : Fault :=
  .partialApply s!"Failed to populate table cell ({cell.row}, {cell.column})" completed total
    (.obj [("table_index", .int index), ("row", .int cell.row), ("column", .int cell.column)]) cause

/-- Fills cells in order. Those already filled, `completed` of `total`, have moved the others by
`shift`. -/
def fillCells (inserter : TableInserter) (index : Int) (columns total : Nat) :
    (completed shift : Nat) → List PlacedCell → Action Unit
  | _, _, [] => pure ()
  | completed, shift, cell :: rest => do
    let place := TableLayout.cellIndex index cell.row cell.column columns + shift
    let bold := inserter.boldHeaders && cell.row == 0
    match ← (inserter.apply (cellEdits cell.spans place bold)).outcome with
    | .error cause => throw (cellFault index cell completed total cause)
    | .ok () =>
      fillCells inserter index columns total (completed + 1)
        (shift + Text.units (spansText cell.spans)) rest

/-- Puts a table at a position and fills it. The position behind it is the result. -/
def insert (inserter : TableInserter) (index : Int) (cells : Grid) (replaceAnchor : Bool) :
    Action Int := do
  let rows := cells.length
  let columns := width cells
  if rows == 0 || columns == 0 then
    throw (.badValue s!"Invalid table dimensions: {rows}x{columns}")
  inserter.apply (structureEdits index cells replaceAnchor)
  let filled := filledCells cells
  inserter.fillCells index columns filled.length 0 0 filled
  return index + TableLayout.emptyLength rows columns + textUnits filled

/-- The fault of a table that could not be put in. It tells how many cells were filled, if one of them
was the reason. -/
def tableFault (number total : Nat) (index : Int) (cause : Fault) : Fault :=
  let cells : List (String × Json) := match cause with
    | .partialApply _ completed total _ _ =>
      [("cells_completed", .int completed), ("cells_total", .int total)]
    | _ => []
  .partialApply s!"Failed to insert table {number}" (number - 1 : Nat) total
    (.obj ([("table", .int number), ("table_index", .int index)] ++ cells)) cause

/-- A position is inside a document that ends at `stop`, if that is known. -/
def isInside (index : Int) (stop : Option Int) : Bool :=
  1 ≤ index && stop.all (index < ·)

/-- Puts in the tables from number `number` on, of `total`. Those before have moved the others by `drift`, and the
document ends at `stop`, if that is known. The position behind each table is told, and the drift at the end. -/
def insertFrom (inserter : TableInserter) (replaceAnchors : Bool) (total : Nat) :
    (number : Nat) → (drift : Int) → (stop : Option Int) → List DeferredTable →
      Program (Outcome (List Int) × Int)
  | _, drift, _, [] => pure (.ok [], drift)
  | number, drift, stop, table :: rest => do
    let index := table.offset + drift
    -- after a fault the drift is told too
    if !isInside index stop then
      return (.error (.outsideDocument index (stop.getD index) s!"table {number} of {total}"), drift)
    match ← (inserter.insert index table.cells replaceAnchors).run with
    | .error cause => return (.error (tableFault number total index cause), drift)
    | .ok behind =>
      let growth := behind - index - 1
      let (ends, drift) ←
        insertFrom inserter replaceAnchors total (number + 1) (drift + growth) (stop.map (· + growth)) rest
      return (ends.map (behind :: ·), drift)

/-- Puts tables into a document in order. Their positions are those of their anchors before any table
was put in; `drift` is the sum of the moves so far. -/
def insertAll (inserter : TableInserter) (tables : List DeferredTable) (drift : Int)
    (stop : Option Int) (replaceAnchors : Bool) : Program (Outcome (List Int) × Int) :=
  inserter.insertFrom replaceAnchors tables.length 1 drift stop tables

theorem isInside_iff {index : Int} {stop : Option Int} :
    isInside index stop = true ↔ 1 ≤ index ∧ ∀ last ∈ stop, index < last := by
  simp [isInside, Option.all_eq_true]

theorem insertFrom_cons (inserter : TableInserter) (replaceAnchors : Bool) (total number : Nat) (drift : Int)
    (stop : Option Int) (table : DeferredTable) (rest : List DeferredTable) :
    inserter.insertFrom replaceAnchors total number drift stop (table :: rest) =
      if isInside (table.offset + drift) stop then
        (inserter.insert (table.offset + drift) table.cells replaceAnchors).run >>= fun
          | .error cause => pure (.error (tableFault number total (table.offset + drift) cause), drift)
          | .ok behind =>
            let growth := behind - (table.offset + drift) - 1
            inserter.insertFrom replaceAnchors total (number + 1) (drift + growth) (stop.map (· + growth)) rest >>= fun told =>
              pure (told.1.map (behind :: ·), told.2)
      else pure (.error (.outsideDocument (table.offset + drift) (stop.getD (table.offset + drift)) s!"table {number} of {total}"),
        drift) := by
  rw [insertFrom]
  cases isInside (table.offset + drift) stop with
  | true => rfl
  | false => rfl

end TableInserter
end DocScribe.Docs
