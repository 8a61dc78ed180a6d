import DocScribe.Proofs.Docs.RangeOrder
import Mathlib.Data.List.Defs

/-! The tables that are put off. A table with a cell is kept, its short rows filled up with empty cells, and an anchor
stands for it in the text; a table without one is left out. A warning tells of each table that was left out or filled
up, by the number that the next kept table has. -/

namespace DocScribe.Docs
open DocScribe Markdown TableInsertion

/-- The tables among elements. -/
def gridsIn (elements : List Element) : List Grid :=
  elements.filterMap fun element => match element with | .table rows => some rows | _ => none

def hasCells (rows : Grid) : Bool := rows.any fun row => !row.isEmpty

def hasShortRow (rows : Grid) : Bool := rows.any fun row => rows.any fun other => row.length < other.length

/-- The table is left out or filled up. -/
def isFlawed (rows : Grid) : Bool := !hasCells rows || hasShortRow rows

/-- A kept table holds the cells of the rows that it comes from, each in its place. It is as high as these and as wide
as the longest of them, and all that they lack is empty. -/
structure DeferredTable.Keeps (table : DeferredTable) (rows : Grid) : Prop where
  rows_eq : table.rows = rows.length
  rows_pos : 1 ≤ table.rows
  columns_pos : 1 ≤ table.columns
  fits : ∀ row ∈ rows, row.length ≤ table.columns
  attained : ∃ row ∈ rows, row.length = table.columns
  rectangular : ∀ row ∈ table.cells, row.length = table.columns
  cells : ∀ row column, row < table.rows → column < table.columns →
    (table.cells[row]?.bind fun cells => cells[column]?) =
      some ((rows[row]?.bind fun cells => cells[column]?).getD [])

/-- Tables with their numbers: one more than the tables with cells before them. -/
def numberedGrids : (number : Nat) → List Grid → List (Nat × Grid)
  | _, [] => []
  | number, rows :: rest => (number, rows) :: numberedGrids (if hasCells rows then number + 1 else number) rest

/-- What is told of a table that is left out or filled up. -/
def gridWarning (number : Nat) (rows : Grid) : String :=
  if hasCells rows then
    s!"Table #{number}: padded {rows.countP fun row => row.length < width rows} short row(s) to {width rows} columns"
  else s!"Table #{number} has no cells; skipped"

/-- The warnings about tables, of which the first has a number. -/
def gridWarnings (number : Nat) (grids : List Grid) : List String :=
  ((numberedGrids number grids).filter fun entry => isFlawed entry.2).map fun entry => gridWarning entry.1 entry.2

section Padding
variable {rows : Grid}

private theorem width_hasCells : width rows = 0 ↔ hasCells rows = false := by
  rw [width_eq_zero, hasCells, List.any_eq_false, List.all_eq_true]
  simp

private theorem width_of_hasCells (some : hasCells rows = true) : width rows ≠ 0 := by
  intro none
  rw [width_hasCells.mp none] at some
  cases some

private theorem all_isEmpty_eq (rows : Grid) : rows.all List.isEmpty = !hasCells rows := by
  simp [hasCells, List.all_eq_not_any_not]

private theorem hasShortRow_iff : hasShortRow rows = true ↔ rows.countP (fun row => row.length < width rows) ≠ 0 := by
  rw [← Nat.pos_iff_ne_zero, List.countP_pos_iff]
  simp only [hasShortRow, List.any_eq_true, decide_eq_true_eq]
  constructor
  · rintro ⟨row, member, other, otherMember, short⟩
    exact ⟨row, member, Nat.lt_of_lt_of_le short (length_le_width otherMember)⟩
  · rintro ⟨row, member, short⟩
    obtain ⟨widest, widestMember, attained⟩ := width_attained (List.ne_nil_of_mem member)
    exact ⟨row, member, widest, widestMember, attained ▸ short⟩

private theorem length_of_padded {row : List (List Span)} (member : row ∈ padded rows) : row.length = width rows := by
  obtain ⟨given, inside, rfl⟩ := List.mem_map.mp member
  have fits := length_le_width inside
  rw [List.length_append, List.length_replicate]
  omega

private theorem padded_cell {row column : Nat} (inRows : row < rows.length) (inColumns : column < width rows) :
    ((padded rows)[row]?.bind fun cells => cells[column]?) = some ((rows[row]?.bind fun cells => cells[column]?).getD []) := by
  have fits : rows[row].length ≤ width rows := length_le_width (List.getElem_mem inRows)
  have filled : (padded rows)[row]? = some ((List.range (width rows)).map fun column => rows[row].getD column []) := by
    rw [← padded_eq fits, padded, List.getElem?_map, List.getElem?_eq_getElem inRows]
    rfl
  rw [filled, List.getElem?_eq_getElem inRows]
  simp [inColumns]

private theorem keeps_padded (some : hasCells rows = true) {table : DeferredTable} (cells : table.cells = padded rows) :
    table.Keeps rows := by
  have wide := width_of_hasCells some
  have rowsSome : rows ≠ [] := by
    rintro rfl
    cases some
  have height : table.rows = rows.length := by
    rw [DeferredTable.rows, cells, padded, List.length_map]
  have columns : table.columns = width rows := by
    obtain ⟨first, rest, rfl⟩ := List.exists_cons_of_ne_nil rowsSome
    rw [DeferredTable.columns, cells]
    exact length_of_padded List.mem_cons_self
  refine ⟨height, ?_, ?_, ?_, ?_, ?_, ?_⟩
  · rw [height]
    exact List.length_pos_iff.mpr rowsSome
  · rw [columns]
    exact Nat.pos_of_ne_zero wide
  · intro row member
    rw [columns]
    exact length_le_width member
  · rw [columns]
    exact width_attained rowsSome
  · intro row member
    rw [columns]
    rw [cells] at member
    exact length_of_padded member
  · intro row column inRows inColumns
    rw [height] at inRows
    rw [columns] at inColumns
    rw [cells]
    exact padded_cell inRows inColumns

private theorem keeps_grids {tables : List DeferredTable} {grids : List Grid} (filled : ∀ rows ∈ grids, hasCells rows = true)
    (cells : tables.map DeferredTable.cells = grids.map padded) : List.Forall₂ DeferredTable.Keeps tables grids := by
  induction tables generalizing grids with
  | nil =>
    obtain rfl := List.map_eq_nil_iff.mp cells.symm
    exact .nil
  | cons table tables ih =>
    obtain ⟨rows, rest, rfl, first, later⟩ := List.map_eq_cons_iff.mp cells.symm
    obtain ⟨own, others⟩ := List.forall_mem_cons.mp filled
    exact .cons (keeps_padded own first.symm) (ih others later.symm)

end Padding

section Keeping
variable (tag : String)

private theorem grids_partsOf (earlier : List Element) (start : Int) (element : Element) :
    ((placed tag start (partsOf earlier element)).filterMap tableOf?).map DeferredTable.cells =
      ((gridsIn [element]).filter hasCells).map padded := by
  cases element with
  | table rows =>
    rw [partsOf, all_isEmpty_eq]
    cases some : hasCells rows <;> simp [gridsIn, some]
  | image source isRemote alt => simp [partsOf, gridsIn, lineEnd]
  | _ =>
    rw [tables_of_texts tag (isText_partsOf earlier rfl)]
    rfl

private theorem gridsIn_cons (element : Element) (elements : List Element) :
    gridsIn (element :: elements) = gridsIn [element] ++ gridsIn elements := by
  rw [gridsIn, gridsIn, gridsIn, ← List.filterMap_append, List.singleton_append]

private theorem grids_partsFrom (earlier : List Element) (start : Int) (elements : List Element) :
    ((placed tag start (partsFrom earlier elements)).filterMap tableOf?).map DeferredTable.cells =
      ((gridsIn elements).filter hasCells).map padded := by
  induction elements generalizing earlier start with
  | nil => rfl
  | cons element elements ih =>
    rw [partsFrom, placed_append, List.filterMap_append, List.map_append, grids_partsOf, ih, gridsIn_cons element elements,
      List.filter_append, List.map_append]

private theorem code_at_table {parts : List Part} {start : Int} {table : DeferredTable}
    (member : table ∈ (placed tag start parts).filterMap tableOf?) :
    ∃ place : Nat, table.offset = start + place ∧ (Text.codes (payload tag parts))[place]? = some 0 := by
  obtain ⟨place, among, found⟩ := List.mem_filterMap.mp member
  obtain rfl := tableOf?_eq_some found
  obtain ⟨front, back, rfl, offset⟩ := placed_split tag among
  refine ⟨Text.listUnits (payload tag front), offset, ?_⟩
  have anchor : Text.codes ((Part.table table.cells).chars tag) = [0] := rfl
  rw [payload_append, payload_cons, Text.codes_append, Text.codes_append, anchor,
    List.getElem?_append_right (Nat.le_of_eq (Text.length_codes _)), Text.length_codes, Nat.sub_self]
  rfl

end Keeping

section Warnings

private theorem numberedGrids_append (number : Nat) (first second : List Grid) :
    numberedGrids number (first ++ second) =
      numberedGrids number first ++ numberedGrids (number + (first.filter hasCells).length) second := by
  induction first generalizing number with
  | nil => rfl
  | cons rows first ih =>
    rw [List.cons_append, numberedGrids, ih, numberedGrids, List.cons_append]
    cases some : hasCells rows with
    | false => simp [some]
    | true => simp [some, Nat.add_assoc, Nat.add_comm 1]

private theorem gridWarnings_append (number : Nat) (first second : List Grid) :
    gridWarnings number (first ++ second) =
      gridWarnings number first ++ gridWarnings (number + (first.filter hasCells).length) second := by
  rw [gridWarnings, numberedGrids_append, List.filter_append, List.map_append]
  rfl

private theorem gridWarnings_single (number : Nat) (rows : Grid) :
    gridWarnings number [rows] = if isFlawed rows then [gridWarning number rows] else [] := by
  rw [gridWarnings, numberedGrids, numberedGrids, List.filter_cons]
  cases isFlawed rows <;> rfl

namespace Draft

private theorem table_warnings (rows : Grid) (draft : Draft) :
    (draft.table rows).warnings = draft.warnings ++ gridWarnings (draft.tables.length + 1) [rows] := by
  have columns : (rows.map List.length).foldl max 0 = width rows := rfl
  rw [gridWarnings_single, isFlawed]
  simp only [table, columns]
  cases some : hasCells rows with
  | false =>
    have narrow : width rows = 0 := width_hasCells.mpr some
    simp [narrow, warn, gridWarning, some]
  | true =>
    have wide := width_of_hasCells some
    have short : hasShortRow rows = true ↔ rows.countP (fun row => row.length < width rows) ≠ 0 := hasShortRow_iff
    cases filled : hasShortRow rows with
    | false =>
      rw [filled] at short
      have none : (rows.countP fun row => row.length < width rows) = 0 := by simpa using short
      simp [wide, none]
    | true =>
      have present := short.mp filled
      simp [wide, present, warn, gridWarning, some]

private theorem element_warnings_other {element : Element} (other : gridsIn [element] = []) (draft : Draft) :
    (draft.element element).warnings = draft.warnings := by
  cases element with
  | table rows => cases other
  | heading level spans =>
    simp only [Draft.element, heading, warnings_emit]
    split <;> exact warnings_emitSpans spans _
  | paragraph spans => simp only [Draft.element, warnings_emit, warnings_emitSpans]
  | listItem ordered depth spans => simp only [Draft.element, item, warnings_emit, warnings_emitSpans]
  | codeBlock text =>
    simp only [Draft.element, codeBlock, warnings_emit]
    split <;> rfl
  | rule | image source isRemote alt | unknown => rfl

private theorem element_warnings (element : Element) (draft : Draft) :
    (draft.element element).warnings = draft.warnings ++ gridWarnings (draft.tables.length + 1) (gridsIn [element]) := by
  cases element with
  | table rows => exact table_warnings rows { draft with counters := [] }
  | _ =>
    rw [element_warnings_other rfl]
    exact (List.append_nil _).symm

private theorem element_tables {earlier : List Element} {draft : Draft} (numbered : Numbered earlier draft.counters)
    (counted : draft.images.length = imagesIn earlier) (element : Element) :
    (draft.element element).tables.length = draft.tables.length + ((gridsIn [element]).filter hasCells).length := by
  have kept := congrArg List.length (grids_partsOf draft.tag earlier draft.offset element)
  rw [List.length_map, List.length_map] at kept
  rw [(element_grows numbered counted element).tables, List.length_append, kept]

/-- Each table is warned of by the number of tables that are kept by then. -/
theorem elements_warnings {earlier : List Element} {draft : Draft} (numbered : Numbered earlier draft.counters)
    (counted : draft.images.length = imagesIn earlier) (elements : List Element) :
    (elements.foldl Draft.element draft).warnings =
      draft.warnings ++ gridWarnings (draft.tables.length + 1) (gridsIn elements) := by
  induction elements generalizing earlier draft with
  | nil => exact (List.append_nil _).symm
  | cons element elements ih =>
    have rest := ih (element_numbered numbered element) (element_counted numbered counted element)
    rw [List.foldl_cons, rest, element_warnings, element_tables numbered counted, gridsIn_cons element elements,
      gridWarnings_append, List.append_assoc, Nat.add_right_comm]

end Draft

end Warnings

section Compiled
variable (elements : List Element) (base : Int)

theorem compile_warnings : (compile elements base).warnings = gridWarnings 1 (gridsIn elements) := by
  let draft : Draft := { offset := base, tag := (compile elements base).tag }
  have numbered : Numbered [] draft.counters := Numbered.start
  exact Draft.elements_warnings numbered rfl elements

private theorem compile_grids : (compile elements base).tables.map DeferredTable.cells =
    ((gridsIn elements).filter hasCells).map padded := by
  rw [compile_tables]
  exact grids_partsFrom (compile elements base).tag [] base elements

/-- The tables that a compiled text puts off are those with a cell, in order, each with its cells kept and its rows
filled up; an anchor stands in the text where a table is to come. There is one warning for each table that is left out
or filled up, in order, and none else. -/
theorem compile_keeps (elements : List Element) (base : Int) :
    let compiled := compile elements base
    List.Forall₂ DeferredTable.Keeps compiled.tables ((gridsIn elements).filter hasCells) ∧
    (∀ table ∈ compiled.tables, ∃ place : Nat, table.offset = base + place ∧
      (Text.codes compiled.text.toList)[place]? = some 0) ∧
    compiled.warnings =
      ((numberedGrids 1 (gridsIn elements)).filter fun entry => isFlawed entry.2).map fun entry =>
        gridWarning entry.1 entry.2 := by
  intro compiled
  refine ⟨?_, ?_, compile_warnings elements base⟩
  · apply keeps_grids
    · intro rows member
      exact (List.mem_filter.mp member).2
    · exact compile_grids elements base
  · intro table member
    rw [compile_tables] at member
    rw [compile_text]
    exact code_at_table compiled.tag member

end Compiled
end DocScribe.Docs
