import DocScribe.Proofs.Markdown.CellText
import DocScribe.Proofs.Markdown.PageBlocks

/-! A table with as many cells in each row is written between bars, and read back cell by cell. -/

namespace DocScribe.Markdown
open DocScribe BlockStart BlockReader

/-- The text of a cell: no bar stands alone in it and no line end, no blanks at its ends. -/
structure IsCellText (text : List Char) : Prop where
  escapes : escapesBars text = true
  noBreak : '\n' ∉ text
  clean : IsClean text
  trimmed : Text.trimBy Text.isMargin (unbarred text) = unbarred text

/-- Cells between bars, with a space on both sides of each. -/
def barred (texts : List (List Char)) : List Char := '|' :: texts.flatMap fun text => ' ' :: text ++ [' ', '|']

private theorem mem_barred {c : Char} {texts : List (List Char)} (among : c ∈ barred texts) :
    c = '|' ∨ c = ' ' ∨ ∃ text ∈ texts, c ∈ text := by
  simp only [barred, List.mem_cons, List.mem_flatMap, List.mem_append, List.not_mem_nil, or_false] at among
  rcases among with bar | ⟨text, member, (space | inside) | space | bar⟩
  · exact .inl bar
  · exact .inr (.inl space)
  · exact .inr (.inr ⟨text, member, inside⟩)
  · exact .inr (.inl space)
  · exact .inl bar

private theorem row_barred {texts : List (List Char)} (some : texts ≠ []) :
    "| ".toList ++ Text.joinWith " | ".toList texts ++ " |".toList = barred texts := by
  have joined : ' ' :: Text.joinWith " | ".toList texts ++ " |".toList = texts.flatMap fun text => ' ' :: text ++ [' ', '|'] := by
    induction texts with
    | nil => exact absurd rfl some
    | cons text texts ih =>
      cases texts with
      | nil => simp [Text.joinWith]
      | cons second texts =>
        rw [List.flatMap_cons, ← ih (List.cons_ne_nil _ _), Text.joinWith, Text.joinWith, List.intercalate_cons_cons]
        simp
  exact congrArg ('|' :: ·) joined

section Cells

private theorem splitCells_barred {texts : List (List Char)} (escapes : ∀ text ∈ texts, escapesBars text = true) :
    splitCells (some '|') [] (texts.flatMap fun text => ' ' :: text ++ [' ', '|']) =
      texts.map (fun text => ' ' :: unbarred text ++ [' ']) ++ [[]] := by
  induction texts with
  | nil => rfl
  | cons text texts ih =>
    obtain ⟨own, others⟩ := List.forall_mem_cons.mp escapes
    have split := splitCells_escaped own (some ' ') [' '] (texts.flatMap fun text => ' ' :: text ++ [' ', '|'])
    rw [ih others] at split
    simpa [splitCells] using split

private theorem trimBy_spaced {text : List Char} (trimmed : Text.trimBy Text.isMargin text = text) :
    Text.trimBy Text.isMargin (' ' :: text ++ [' ']) = text := by
  have space : Text.isMargin ' ' = true := by decide
  cases text with
  | nil => decide
  | cons c rest =>
    have first := (Text.ends_of_trimBy trimmed).1 c rfl
    have kept : (' ' :: (c :: rest) ++ [' ']).dropWhile Text.isMargin = c :: rest ++ [' '] := by
      simp [space, first]
    have last := Text.trimEndBy_eq_self (Text.ends_of_trimBy trimmed).2
    rw [Text.trimBy, kept, Text.trimEndBy, List.reverse_append]
    simpa [space, Text.trimEndBy] using last

private theorem getLast?_barred (texts : List (List Char)) : (barred texts).getLast? = some '|' := by
  rcases List.eq_nil_or_concat' texts with rfl | ⟨front, last, rfl⟩
  · rfl
  · have ends : barred (front ++ [last]) = '|' :: front.flatMap (fun text => ' ' :: text ++ [' ', '|']) ++ ' ' :: last ++
      [' '] ++ ['|'] := by
      simp [barred]
    rw [ends, List.getLast?_concat]

private theorem trimBy_barred (texts : List (List Char)) : Text.trimBy Text.isMargin (barred texts) = barred texts := by
  refine Text.trimBy_eq_self (fun c first => ?_) fun c last => ?_
  · obtain rfl := Option.some.inj first
    rfl
  · rw [getLast?_barred] at last
    obtain rfl := Option.some.inj last
    rfl

private theorem rowCells_barred {texts : List (List Char)} (cells : ∀ text ∈ texts, IsCellText text) :
    rowCells (barred texts) = texts.map unbarred := by
  have split : splitCells none [] (barred texts) = [] :: (texts.map (fun text => ' ' :: unbarred text ++ [' ']) ++ [[]]) := by
    rw [← splitCells_barred fun text among => (cells text among).escapes]
    rfl
  have trimmed : (texts.map fun text => ' ' :: unbarred text ++ [' ']).map (Text.trimBy Text.isMargin) = texts.map unbarred := by
    rw [List.map_map]
    exact List.map_congr_left fun text among => trimBy_spaced (cells text among).trimmed
  simp only [rowCells, trimBy_barred, split]
  simpa using trimmed

end Cells

/-- The line under a header. -/
def underline (columns : Nat) : List Char := '|' :: Text.joinWith ['|'] (List.replicate columns "---".toList) ++ ['|']

private theorem mem_underline (columns : Nat) : ∀ c ∈ underline columns, c = '|' ∨ c = '-' := by
  intro c among
  rcases List.mem_append.mp among with among | among
  · rcases List.mem_cons.mp among with same | among
    · exact .inl same
    · rcases Text.mem_joinWith among with same | ⟨text, member, inside⟩
      · exact .inl (List.mem_singleton.mp same)
      · rw [List.eq_of_mem_replicate member] at inside
        exact .inr (by simpa using inside)
  · exact .inl (List.mem_singleton.mp among)

private theorem columns?_underline {columns : Nat} (positive : 0 < columns) : columns? (underline columns) = some columns := by
  have parts : (Text.splitAt '|' (underline columns)).map (Text.trimBy Text.isIndent) =
      [] :: (List.replicate columns "---".toList ++ [[]]) := by
    have words : Text.splitAt '|' (Text.joinWith ['|'] (List.replicate columns "---".toList)) =
      List.replicate columns "---".toList := by
      refine Text.splitAt_intercalate (by simp; omega) fun word among => ?_
      rw [List.eq_of_mem_replicate among]
      decide
    rw [underline, List.cons_append, Text.splitAt_cons_separator, Text.splitAt_append, words, List.map_cons, List.map_append,
      List.map_replicate]
    rfl
  obtain ⟨rest, shape⟩ : ∃ rest, underline columns = '|' :: '-' :: rest := by
    obtain ⟨more, rfl⟩ := Nat.exists_eq_succ_of_ne_zero (Nat.ne_of_gt positive)
    cases more with
    | zero => exact ⟨_, rfl⟩
    | succ more => exact ⟨_, rfl⟩
  have marks : ('-' :: rest).all (fun c => (c == '|' || c == '-' || c == ':') || Text.isIndent c) = true := by
    refine List.all_eq_true.mpr fun c among => ?_
    rcases mem_underline columns c (shape ▸ List.mem_cons_of_mem _ among) with rfl | rfl <;> rfl
  have aligned : isAlignment ['-', '-', '-'] = true := by decide
  rw [shape] at parts
  rw [shape, columns?]
  dsimp only
  rw [marks, parts]
  simp [aligned]

section Lines
variable {texts : List (List Char)} {margin : Margin} {rest : List Line}

private theorem barred_started (cells : ∀ text ∈ texts, IsCellText text) :
    '\n' ∉ barred texts ∧ IsClean (barred texts) ∧ ∀ c ∈ (barred texts).head?, Text.isIndent c = false := by
  refine ⟨fun among => ?_, fun c among => ?_, fun c first => ?_⟩
  · rcases mem_barred among with bar | space | ⟨text, member, inside⟩
    · exact absurd bar (by decide)
    · exact absurd space (by decide)
    · exact (cells text member).noBreak inside
  · rcases mem_barred among with rfl | rfl | ⟨text, member, inside⟩
    · decide
    · decide
    · exact (cells text member).clean c inside
  · obtain rfl := Option.some.inj first
    rfl

private theorem underline_started (columns : Nat) :
    '\n' ∉ underline columns ∧ IsClean (underline columns) ∧ ∀ c ∈ (underline columns).head?, Text.isIndent c = false := by
  refine ⟨fun among => ?_, fun c among => ?_, fun c first => ?_⟩
  · rcases mem_underline columns _ among with same | same <;> exact absurd same (by decide)
  · rcases mem_underline columns c among with rfl | rfl <;> decide
  · obtain rfl := Option.some.inj first
    rfl

private theorem isUnmarked_barred (texts : List (List Char)) : IsUnmarked (barred texts) := isUnmarked_plain rfl (by decide)

private theorem interruptsQuote_barred {line : Line} (content : line.content = barred texts) :
    interruptsQuote margin line = false := by
  have unmarked : IsUnmarked line.content := content ▸ isUnmarked_barred texts
  have heading : BlockStart.heading? margin line = none := by
    simp [BlockStart.heading?, content, barred]
  simp [interruptsQuote, interruptsAny, fence?_unmarked unmarked, isQuote_unmarked unmarked, isRule_unmarked unmarked,
    html?_unmarked unmarked, heading, list?_unmarked unmarked]

private theorem tableRows_barred {columns : Nat} {rows : List (List (List Char))}
    (cells : ∀ row ∈ rows, ∀ text ∈ row, IsCellText text)
    (even : ∀ row ∈ rows, row.length = columns) (apart : rest.head?.all Line.isEmpty = true) :
    tableRows .page columns 0 (rows.map (fun row => ⟨barred row, 0, 0, 0⟩) ++ rest) = rows.map (·.map unbarred) := by
  induction rows with
  | nil =>
    cases rest with
    | nil => rfl
    | cons line rest =>
      have empty : line.content = [] := by simpa [Line.isEmpty] using apart
      simp [tableRows, empty, Text.trimBy, Text.trimEndBy]
  | cons row rows ih =>
    obtain ⟨own, others⟩ := List.forall_mem_cons.mp cells
    obtain ⟨wide, widths⟩ := List.forall_mem_cons.mp even
    have read : rowCells (⟨barred row, 0, 0, 0⟩ : Line).content = row.map unbarred := rowCells_barred own
    have goesOn : interruptsQuote .page ⟨barred row, 0, 0, 0⟩ = false := interruptsQuote_barred rfl
    have filled : (Text.trimBy Text.isMargin (⟨barred row, 0, 0, 0⟩ : Line).content).isEmpty = false := by
      rw [show (⟨barred row, 0, 0, 0⟩ : Line).content = barred row from rfl, trimBy_barred]
      rfl
    have few : ¬ maxAddedCells < 0 := by decide
    have added : (columns - row.length : Int) = 0 := by omega
    have inside : (⟨barred row, 0, 0, 0⟩ : Line).isOutside .page = false := rfl
    have shallow : (⟨barred row, 0, 0, 0⟩ : Line).isDeep .page = false := rfl
    rw [List.map_cons, List.cons_append, tableRows]
    simp only [read, goesOn, filled, inside, shallow, List.length_map, added, few, Int.add_zero, ih others widths]
    simp [← wide, List.take_of_length_le]

private theorem tableHeader?_barred {columns : Nat} {header : List (List Char)} (cells : ∀ text ∈ header, IsCellText text)
    (wide : header.length = columns) (positive : 0 < columns) :
    tableHeader? .page (⟨barred header, 0, 0, 0⟩ :: ⟨underline columns, 0, 0, 0⟩ :: rest) = some (header.map unbarred) := by
  have some : header ≠ [] := List.ne_nil_of_length_pos (wide ▸ positive)
  have read : rowCells (⟨barred header, 0, 0, 0⟩ : Line).content = header.map unbarred := rowCells_barred cells
  have under : columns? (⟨underline columns, 0, 0, 0⟩ : Line).content = Option.some columns := columns?_underline positive
  have bar : '|' ∈ (⟨barred header, 0, 0, 0⟩ : Line).content := by simp [Line.content, barred]
  have inside (text : List Char) : (⟨text, 0, 0, 0⟩ : Line).isOutside .page = false := rfl
  have shallow (text : List Char) : (⟨text, 0, 0, 0⟩ : Line).isDeep .page = false := rfl
  simp [tableHeader?, read, under, bar, inside, shallow, wide, some]

private theorem isBlockText_table {columns : Nat} {header : List (List Char)} {body : List (List (List Char))}
    (cells : ∀ row ∈ header :: body, ∀ text ∈ row, IsCellText text) (even : ∀ row ∈ header :: body, row.length = columns)
    (positive : 0 < columns) :
    IsBlockText (Text.joinWith ['\n'] (barred header :: underline columns :: body.map barred))
      (.table ((header :: body).map (·.map unbarred))) := by
  obtain ⟨own, others⟩ := List.forall_mem_cons.mp cells
  obtain ⟨wide, widths⟩ := List.forall_mem_cons.mp even
  have started : ∀ text ∈ barred header :: underline columns :: body.map barred,
      '\n' ∉ text ∧ IsClean text ∧ ∀ c ∈ text.head?, Text.isIndent c = false := by
    refine List.forall_mem_cons.mpr ⟨?_, List.forall_mem_cons.mpr ⟨?_, List.forall_mem_map.mpr fun row among => ?_⟩⟩
    · exact barred_started own
    · exact underline_started columns
    · exact barred_started (others row among)
  have lines : textLines (Text.joinWith ['\n'] (barred header :: underline columns :: body.map barred)) =
      ⟨barred header, 0, 0, 0⟩ :: ⟨underline columns, 0, 0, 0⟩ :: body.map fun row => ⟨barred row, 0, 0, 0⟩ := by
    rw [textLines, Text.joinWith, Text.splitAt_intercalate (List.cons_ne_nil _ _) fun text among => (started text among).1,
      List.map_congr_left fun text among => ofChars_started (started text among).2.2]
    simp
  refine ⟨?_, ⟨_, _, lines, rfl, rfl, rfl⟩, fun insideQuote insideItem rest definitions apart => ?_⟩
  · exact isClean_joinWith (by decide) fun text among => (started text among).2.1
  · rw [lines, List.cons_append, List.cons_append, blockAt, table?, tableHeader?_barred own wide positive]
    simp [tableRows_barred others (wide ▸ widths) apart]

end Lines

section Walking
variable (elements : List Element) (lists itemsDone : List Bool)

private theorem run_cells (rows : List (List (List Span))) (row : List (List Span)) (cells : List (List Inline)) :
    ({ elements, lists, itemsDone, inTable := true, rows, row } : Walk).run
    (cells.flatMap fun cell => Token.framed .cell [.content cell]) =
      { elements, lists, itemsDone, inTable := true, rows, row := row ++ cells.map fun cell =>
        spansOnly (Piece.ofInline cell) } := by
  induction cells generalizing row with
  | nil => simp [Walk.run]
  | cons cell cells ih =>
    rw [List.flatMap_cons, Walk.run_append]
    refine Eq.trans (ih (row ++ [spansOnly (Piece.ofInline cell)])) ?_
    simp

theorem run_rows (before : List (List (List Span))) (rows : List (List (List Inline))) :
    ({ elements, lists, itemsDone, inTable := true, rows := before } : Walk).run
        (rows.flatMap fun row => Token.framed .row (row.flatMap fun cell => Token.framed .cell [.content cell])) =
      { elements, lists, itemsDone, inTable := true,
        rows := before ++ rows.map (·.map fun cell => spansOnly (Piece.ofInline cell)) } := by
  induction rows generalizing before with
  | nil => simp [Walk.run]
  | cons row rows ih =>
    have own : ({ elements, lists, itemsDone, inTable := true, rows := before } : Walk).run
        (Token.framed .row (row.flatMap fun cell => Token.framed .cell [.content cell])) =
          { elements, lists, itemsDone, inTable := true,
            rows := before ++ [row.map fun cell => spansOnly (Piece.ofInline cell)] } := by
      rw [Walk.run_framed]
      exact congrArg (Walk.leave .row) (run_cells elements lists itemsDone before [] row)
    rw [List.flatMap_cons, Walk.run_append, own, ih, List.append_assoc]
    rfl

end Walking

/-- Rows that a table can be read with: as many cells in each of them, and at least one. -/
structure SteadyTable (rows : List (List (List Span))) : Prop where
  filled : 0 < Render.columns rows
  even : ∀ row ∈ rows, row.length = Render.columns rows
  steady : ∀ row ∈ rows, ∀ cell ∈ row, SteadySpans cell ∧ ∀ span ∈ cell, span.FitsCell

instance : DecidablePred SteadyTable := fun _ =>
  decidable_of_iff (_ ∧ _ ∧ _) ⟨fun ⟨filled, even, steady⟩ => ⟨filled, even, steady⟩,
    fun table => ⟨table.filled, table.even, table.steady⟩⟩

private theorem row_spans {cells : List (List Span)} {columns : Nat} (wide : cells.length = columns) (positive : 0 < columns) :
    Render.row columns cells = barred (cells.map Render.spans) := by
  have some : cells.map Render.spans ≠ [] := List.ne_nil_of_length_pos (by simpa [wide] using positive)
  rw [Render.row, wide, Nat.sub_self, List.replicate_zero, List.append_nil]
  exact row_barred some

private theorem SteadySpans.isCellText {spans : List Span} (steady : SteadySpans spans) (fits : ∀ span ∈ spans, span.FitsCell) :
    IsCellText (Render.spans spans) where
  escapes := steady.escapesBars_rendered fits
  noBreak := steady.noBreak_rendered
  clean := steady.clean_rendered
  trimmed := steady.trimmed_unbarred

namespace SteadyTable
variable {rows : List (List (List Span))} (steady : SteadyTable rows)
include steady

private theorem ne_nil : rows ≠ [] := by
  rintro rfl
  exact absurd steady.filled (Nat.lt_irrefl 0)

theorem isBlockText : IsBlockText (Render.table rows) (.table (rows.map (·.map fun cell => unbarred (Render.spans cell)))) := by
  have written : ∀ row ∈ rows, Render.row (Render.columns rows) row = barred (row.map Render.spans) := fun row among =>
    row_spans (steady.even row among) steady.filled
  have block : ∀ row ∈ rows.map (·.map Render.spans), (∀ text ∈ row, IsCellText text) ∧ row.length = Render.columns rows := by
    refine List.forall_mem_map.mpr fun row among => ⟨List.forall_mem_map.mpr fun cell member => ?_, ?_⟩
    · obtain ⟨own, fits⟩ := steady.steady row among cell member
      exact own.isCellText fits
    · simp [steady.even row among]
  cases rows with
  | nil => exact absurd rfl steady.ne_nil
  | cons header body =>
    have whole := isBlockText_table (fun row among => (block row among).1) (fun row among => (block row among).2) steady.filled
    have under : Render.table (header :: body) = Text.joinWith ['\n'] (Render.row (Render.columns (header :: body)) header ::
        underline (Render.columns (header :: body)) :: body.map (Render.row (Render.columns (header :: body)))) := rfl
    rw [under, written header (List.mem_cons_self ..),
      List.map_congr_left fun row among => written row (List.mem_cons_of_mem _ among)]
    simpa [Function.comp_def] using whole

theorem run_rendered (definitions : Definitions) (elements : List Element) :
    ({ elements } : Walk).run
        (Token.ofBlock (RawBlock.resolve (Inline.ofText definitions)
          (.table (rows.map (·.map fun cell => unbarred (Render.spans cell)))))) =
      { elements := elements ++ [.table rows] } := by
  have cells : ∀ row ∈ rows, row.map (fun cell =>
    spansOnly (Piece.ofInline (Inline.ofText definitions (unbarred (Render.spans cell))))) = row := by
    intro row among
    refine (List.map_congr_left fun cell member => ?_).trans (List.map_id row)
    obtain ⟨own, fits⟩ := steady.steady row among cell member
    rw [own.pieces_unbarred fits, spansOnly_spans]
    rfl
  have read : rows.map (fun row => row.map fun cell =>
    spansOnly (Piece.ofInline (Inline.ofText definitions (unbarred (Render.spans cell))))) = rows :=
    (List.map_congr_left cells).trans (List.map_id rows)
  have kept : rows.filter (!·.isEmpty) = rows := by
    refine List.filter_eq_self.mpr fun row among => ?_
    have some : row ≠ [] := List.ne_nil_of_length_pos (steady.even row among ▸ steady.filled)
    simpa using some
  have shown : Walk.tableElement rows = [.table rows] := by
    rw [Walk.tableElement, kept]
    cases rows with
    | nil => exact absurd rfl steady.ne_nil
    | cons => rfl
  rw [RawBlock.resolve, Token.ofBlock, Walk.run_framed]
  refine Eq.trans (congrArg (Walk.leave .table) (run_rows elements [] [] [] _)) ?_
  simp only [List.map_map, Function.comp_def, read, List.nil_append]
  simp [Walk.leave, Walk.emit, shown]

end SteadyTable

end DocScribe.Markdown
