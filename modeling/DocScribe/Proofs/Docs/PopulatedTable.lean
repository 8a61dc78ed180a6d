import DocScribe.Proofs.Docs.AnchoredTables
import DocScribe.Proofs.Docs.MisplacedStyles

/-! The table that an insertion leaves, read off cell by cell. The edits style a bold header and then its spans,
one over the other; what stays on a unit is the style of its span, and nothing of a style of another unit. -/

namespace DocScribe.Docs
open DocScribe Markdown TableInsertion

/-- What a cell holds: each span in its own style, all of them bold if asked for, and a line end. -/
def cellContent (bold : Bool) (spans : List Span) : LiveBody :=
  (spans.flatMap fun span =>
    styledSlots span.text.toList (TextStyle.exactly { span.style with bold := span.style.bold || bold })) ++
      [Slot.plain (.code 10)]

/-- A table with as many rows and columns as asked for and a content for each cell. -/
def laidTable (rows columns : Nat) (content : (row column : Nat) → LiveBody) : LiveBody :=
  Slot.plain .tableStart :: ((List.range rows).flatMap fun row =>
    Slot.plain .rowStart :: (List.range columns).flatMap fun column => Slot.plain .cellStart :: content row column) ++
      [Slot.plain .tableEnd]

section Styles

/-- A span over the style of its cell has its own style, and is bold if the cell is. -/
theorem set_cellStyle (bold : Bool) (style : Style) :
    (cellStyle bold).set style = TextStyle.exactly { style with bold := style.bold || bold } := by
  funext field
  rw [TextStyle.set, cellStyle]
  unfold TextStyle.exactly
  split <;> first | (cases style.bold <;> rfl) | simp

end Styles

section Layout

private theorem cellSlots_eq (bold : Bool) (spans : List Span) : cellSlots bold spans = Slot.plain .cellStart :: cellContent bold spans := by
  rw [cellSlots, spanSlots, cellContent]
  simp only [set_cellStyle]

private theorem rowSlots_laid {row : List (List Span)} {columns : Nat} (fits : row.length ≤ columns) (bold : Bool) :
    rowSlots columns bold row = Slot.plain .rowStart :: (List.range columns).flatMap fun column =>
      Slot.plain .cellStart :: cellContent bold (row.getD column []) := by
  rw [rowSlots, padded_eq fits, List.flatMap_map]
  simp only [cellSlots_eq]

private theorem rowsSlots_eq (columns : Nat) (bold : Bool) (cells : Grid) :
    rowsSlots columns bold cells =
      (List.range cells.length).flatMap fun row => rowSlots columns (bold && row == 0) (cells.getD row []) := by
  induction cells generalizing bold with
  | nil => rfl
  | cons first cells ih =>
    rw [rowsSlots, ih, List.length_cons, List.range_succ_eq_map, List.flatMap_cons, List.flatMap_map]
    simp

private theorem tableSlots_laid (bold : Bool) (cells : Grid) :
    tableSlots bold cells = laidTable cells.length (width cells) fun row column =>
      cellContent (bold && row == 0) ((cells.getD row []).getD column []) := by
  rw [tableSlots, laidTable, rowsSlots_eq, List.cons_append]
  congr 2
  apply List.flatMap_congr
  intro row inside
  apply rowSlots_laid
  have present : row < cells.length := List.mem_range.mp inside
  have member : cells.getD row [] = cells[row] := by
    simp [present]
  rw [member]
  exact length_le_width (List.getElem_mem _)

end Layout

section Populating
variable {service : DocumentService} {inserter : TableInserter}

/-- A table with a cell lands in the place of its anchor, or in front of what stands there, as wide as its widest
row and with each cell in its place. Nothing else changes, and the result is the position behind the table. -/
theorem insert_populates (own : inserter.documentId = service.documentId) {cells : Grid}
    (filled : ∃ row ∈ cells, row ≠ []) (kept : KeepsCells service.keeps cells) (index : Nat) :
    ∃ columns, (∀ row ∈ cells, row.length ≤ columns) ∧ (∃ row ∈ cells, row.length = columns) ∧
      let table := laidTable cells.length columns fun row column =>
        cellContent (inserter.boldHeaders && row == 0) ((cells.getD row []).getD column [])
      (∀ body : LiveBody, body.contents[index]? = some (.code 0) →
        service.run (inserter.insert index cells true).run body =
          (.ok (index + table.length), body.take index ++ (table ++ body.drop (index + 1)))) ∧
      ∀ body : LiveBody, index ≤ body.length →
        service.run (inserter.insert index cells false).run body =
          (.ok (index + table.length), body.take index ++ (table ++ body.drop index)) := by
  have rows : cells ≠ [] := by
    obtain ⟨row, member, -⟩ := filled
    exact List.ne_nil_of_mem member
  have start {body : LiveBody} (inside : index ≤ body.length) : ((body.take index).length : Int) = index := by
    rw [List.length_take, Nat.min_eq_left inside]
  refine ⟨width cells, fun row member => length_le_width member, width_attained rows, ?_⟩
  rw [← tableSlots_laid]
  constructor
  · intro body anchored
    obtain ⟨before, -⟩ := List.getElem?_eq_some_iff.mp anchored
    rw [LiveBody.length_contents] at before
    have parts : body.take index ++ ([body[index]] ++ body.drop (index + 1)) = body := by
      rw [List.singleton_append, List.getElem_cons_drop, List.take_append_drop]
    have landed : service.Succeeds (inserter.insert index cells true)
        (body.take index ++ ([body[index]] ++ body.drop (index + 1))) _ _ :=
      insert_succeeds own (width_ne_zero filled) kept _ (start before.le) rfl
    rwa [parts] at landed
  · intro body inside
    have landed : service.Succeeds (inserter.insert index cells false) (body.take index ++ ([] ++ body.drop index)) _ _ :=
      insert_succeeds own (width_ne_zero filled) kept _ (start inside) rfl
    rwa [List.nil_append, List.take_append_drop] at landed

/-- A bold header with an italic span and a letter of two units, over a row that lacks a cell. -/
theorem insert_populates_raggedGrid :
    let service := DocumentService.showing fun _ => true
    let inserter : TableInserter := { documentId := .str "document" }
    let cells : Grid := [[[⟨"x", { italic := true }⟩, ⟨"𝄞", {}⟩], []], [[⟨"1", {}⟩]]]
    let cell (slots : LiveBody) : LiveBody := Slot.plain .cellStart :: slots ++ [Slot.plain (.code 10)]
    let bold := TextStyle.exactly { bold := true }
    let header := cell [⟨.code 120, TextStyle.exactly { bold := true, italic := true }⟩, ⟨.code 0xD834, bold⟩, ⟨.code 0xDD1E, bold⟩]
    let table := .flatten [[Slot.plain .tableStart], [Slot.plain .rowStart], header, cell [], [Slot.plain .rowStart],
      cell [Slot.plain (.code 49)], cell [], [Slot.plain .tableEnd]]
    service.run (inserter.insert 2 cells true).run (plainSlots (.other 0 :: textContents ['a', tableAnchor, 'b', '\n'])) =
      (.ok 18, plainSlots [.other 0, .code 97] ++ (table ++ plainSlots [.code 98, .code 10])) ∧
    service.run (inserter.insert 2 cells false).run (plainSlots (.other 0 :: textContents ['a', 'b', '\n'])) =
      (.ok 18, plainSlots [.other 0, .code 97] ++ (table ++ plainSlots [.code 98, .code 10])) := by
  intro service inserter cells cell bold header table
  obtain ⟨columns, most, ⟨row, member, attained⟩, replaced, added⟩ :=
    @insert_populates service inserter rfl cells ⟨[[⟨"1", {}⟩]], by simp [cells], by simp⟩ (fun _ _ _ _ _ _ => rfl) 2
  have two : columns = 2 := by
    have least := most [[⟨"x", { italic := true }⟩, ⟨"𝄞", {}⟩], []] (by simp [cells])
    simp [cells] at member least
    rcases member with rfl | rfl <;> simp at attained <;> omega
  subst two
  have digit : Slot.plain (.code 49) = ⟨.code 49, TextStyle.exactly .plain⟩ := congrArg (Slot.mk _) TextStyle.exactly_plain.symm
  constructor
  · refine (replaced _ rfl).trans ?_
    simp only [table, digit]
    rfl
  · refine (added _ (by decide)).trans ?_
    simp only [table, digit]
    rfl

end Populating

end DocScribe.Docs
