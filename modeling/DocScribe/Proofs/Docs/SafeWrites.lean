import DocScribe.Proofs.Docs.KeptDocuments
import DocScribe.Proofs.Docs.RangeOrder
import DocScribe.Proofs.Docs.TableFilling

/-! Writing the text and the tables of a compiled text: every batch is valid on the body that it comes to. -/

namespace DocScribe.Docs
open DocScribe Markdown Service Program TableInsertion

section Text
variable {elements : List Element} {base live : Int}

theorem StyledRange.edit_growth (range : StyledRange) : range.edit.growth = 0 := by
  unfold edit
  split <;> rfl

theorem StyledRange.edit_valid {range : StyledRange} (positive : 1 ≤ range.start) (some : range.start < range.stop)
    (inside : range.stop ≤ live) : range.edit.IsValid live := by
  unfold edit
  split
  · exact ⟨positive, some, inside⟩
  · exact ⟨positive, some, inside⟩

/-- The text goes in in front of the last line end; its styles lie in the text. -/
theorem compiled_fits (positive : 1 ≤ base) (inside : base < live) :
    Fits live (compile elements base).edits ∧
      growthOf (compile elements base).edits = Text.units (compile elements base).text := by
  unfold Compiled.edits
  split
  next empty =>
    rw [eq_of_beq empty]
    exact ⟨trivial, rfl⟩
  next written =>
    have styled : Fits (live + Text.units (compile elements base).text)
          ((compile elements base).styles.map StyledRange.edit) ∧
        growthOf ((compile elements base).styles.map StyledRange.edit) = 0 := by
      refine fits_still ?_ ?_
      · exact List.forall_mem_map.mpr fun range _ => range.edit_growth
      · refine List.forall_mem_map.mpr fun range among => ?_
        rw [compile_styles] at among
        have bounds := ranges_inside _ among
        rw [← parts, ← compile_text, ← Text.units] at bounds
        exact StyledRange.edit_valid (by omega) bounds.2.1 (by omega)
    refine ⟨⟨⟨positive, inside, by simpa using written⟩, styled.1⟩, ?_⟩
    rw [growthOf_cons, styled.2]
    exact Int.add_zero _

theorem table_inside {table : DeferredTable} (member : table ∈ (compile elements base).tables) :
    table.offset < base + Text.units (compile elements base).text := by
  rw [compile_tables] at member
  have bounds := tables_inside _ member
  rw [← compile_text, ← Text.units] at bounds
  exact bounds.2

end Text

section Cells
variable {live index : Int}

private theorem spanStyles_valid {spans : List Span} {offset : Int} (positive : 1 ≤ offset)
    (inside : offset + Text.units (spansText spans) ≤ live) :
    ∀ edit ∈ spanStyles offset spans, edit.growth = 0 ∧ edit.IsValid live := by
  induction spans generalizing offset with
  | nil => exact List.forall_mem_nil _
  | cons span spans ih =>
    have size : Text.units (spansText (span :: spans)) = Text.units span.text + Text.units (spansText spans) := by
      simp [Text.units, toList_spansText]
    rw [size] at inside
    refine List.forall_mem_append.mpr ⟨fun edit among => ?_, ih (by omega) (by omega)⟩
    split at among
    · next styled =>
      obtain rfl := List.mem_singleton.mp among
      rw [Bool.and_eq_true, decide_eq_true_eq] at styled
      exact ⟨rfl, positive, styled.2, by omega⟩
    · cases among

private theorem cellEdits_fits {spans : List Span} (written : spansText spans ≠ "") (bold : Bool) (positive : 1 ≤ index)
    (inside : index < live) :
    Fits live (cellEdits spans index bold) ∧ growthOf (cellEdits spans index bold) = Text.units (spansText spans) := by
  have some : 0 < Text.units (spansText spans) := by
    rw [Text.units_pos]
    exact written
  have styles : ∀ edit ∈ (if bold then
      [Edit.styleText index (index + Text.units (spansText spans)) (.ofStyle { bold := true })] else []) ++
        spanStyles index spans,
      edit.growth = 0 ∧ edit.IsValid (live + Text.units (spansText spans)) := by
    refine List.forall_mem_append.mpr ⟨fun edit among => ?_, spanStyles_valid positive (by omega)⟩
    split at among
    · obtain rfl := List.mem_singleton.mp among
      exact ⟨rfl, positive, by omega, by omega⟩
    · cases among
  obtain ⟨fits, none⟩ := fits_still (fun edit among => (styles edit among).1) (fun edit among => (styles edit among).2)
  refine ⟨⟨⟨positive, inside, written⟩, fits⟩, ?_⟩
  exact (congrArg (_ + ·) none).trans (Int.add_zero _)

private theorem placedRow_inside {row column : Nat} {spans : List (List Span)} {cell : PlacedCell}
    (member : cell ∈ placedRow row column spans) : cell.row = row ∧ cell.column < column + spans.length := by
  induction spans generalizing column with
  | nil => cases member
  | cons first spans ih =>
    rw [List.length_cons]
    rcases List.mem_cons.mp member with rfl | later
    · exact ⟨rfl, by simp only; omega⟩
    · obtain ⟨same, less⟩ := ih later
      exact ⟨same, by omega⟩

private theorem placedCells_inside {cells : Grid} {row : Nat} {cell : PlacedCell} (member : cell ∈ placedCells row cells) :
    cell.row < row + cells.length ∧ ∃ spans ∈ cells, cell.column < spans.length := by
  induction cells generalizing row with
  | nil => cases member
  | cons spans cells ih =>
    rw [List.length_cons]
    rcases List.mem_append.mp member with own | later
    · obtain ⟨same, less⟩ := placedRow_inside own
      exact ⟨by omega, spans, List.mem_cons_self, by omega⟩
    · obtain ⟨less, other, among, inside⟩ := ih later
      exact ⟨by omega, other, List.mem_cons_of_mem _ among, inside⟩

/-- Behind the place of a cell stand its line end and at least the end of the table. -/
theorem cellIndex_inside {rows columns row column : Nat} (inRows : row < rows) (inColumns : column < columns) :
    index + 3 ≤ TableLayout.cellIndex index row column columns ∧
      TableLayout.cellIndex index row column columns + 2 ≤ index + TableLayout.emptyLength rows columns := by
  have front : row * (2 * columns + 1) + (2 * columns + 1) ≤ rows * (2 * columns + 1) := by
    rw [← Nat.succ_mul]
    exact Nat.mul_le_mul_right _ inRows
  have bound : (row : Int) * (2 * columns + 1) + (2 * columns + 1) ≤ rows * (2 * columns + 1) := by exact_mod_cast front
  have positive : (0 : Int) ≤ (row * (2 * columns + 1) : Nat) := Int.natCast_nonneg _
  push_cast at positive
  unfold TableLayout.cellIndex TableLayout.emptyLength
  omega

end Cells

namespace TableInserter
variable {inserter : TableInserter} {live index : Int} {documents : Documents}

private theorem apply_safe {edits : List Edit} (held : Held inserter.documentId live documents) (fits : Fits live edits) :
    SafeAction (fun _ after => Held inserter.documentId (live + growthOf edits) after) documents
      (inserter.apply edits) := by
  refine (held.edit fits).bind fun _ after done => ?_
  exact SafeAction.pure done

/-- Every cell moves those behind it just as far as the body grows. -/
theorem fillCells_safe {columns total completed shift : Nat} {cells : List PlacedCell} {bound : Int}
    (held : Held inserter.documentId (bound + shift) documents)
    (inside : ∀ cell ∈ cells, spansText cell.spans ≠ "" ∧
      1 ≤ TableLayout.cellIndex index cell.row cell.column columns ∧
      TableLayout.cellIndex index cell.row cell.column columns < bound) :
    SafeAction (fun _ after => Held inserter.documentId (bound + shift + textUnits cells) after) documents
      (inserter.fillCells index columns total completed shift cells) := by
  induction cells generalizing documents completed shift with
  | nil => exact SafeAction.pure (by simpa [textUnits] using held)
  | cons cell cells ih =>
    obtain ⟨⟨written, positive, before⟩, rest⟩ := List.forall_mem_cons.mp inside
    obtain ⟨fits, growth⟩ : Fits (bound + shift) (cellEdits cell.spans
          (TableLayout.cellIndex index cell.row cell.column columns + shift)
          (inserter.boldHeaders && cell.row == 0)) ∧ _ :=
      cellEdits_fits written _ (by omega) (by omega)
    refine (apply_safe held fits).outcome.bind fun outcome after done => ?_
    cases outcome with
    | error cause => exact SafeAction.throw _
    | ok value =>
      have grown := done () rfl
      rw [growth, Int.add_assoc, ← Int.natCast_add] at grown
      have total : bound + shift + (textUnits (cell :: cells) : Nat) =
          bound + (shift + Text.units (spansText cell.spans) : Nat) + (textUnits cells : Nat) := by
        rw [textUnits_cons]
        omega
      rw [total]
      exact ih grown rest

/-- A table takes the place of an anchor that is not the last line end. -/
theorem insert_safe {cells : Grid} (held : Held inserter.documentId live documents) (positive : 1 ≤ index)
    (inside : index + 1 < live) :
    SafeAction (fun behind after => Held inserter.documentId (live + (behind - index - 1)) after) documents
      (inserter.insert index cells true) := by
  unfold insert
  dsimp only
  split
  · exact SafeAction.throw _
  next someCells =>
    simp only [Bool.or_eq_true, beq_iff_eq, not_or] at someCells
    have fits : Fits live (structureEdits index cells true) := by
      refine ⟨⟨positive, by omega, inside⟩, ⟨positive, ?_, by omega, by omega⟩, trivial⟩
      simp only [Edit.growth]
      omega
    refine (apply_safe held fits).bind fun _ after built => ?_
    have growth : growthOf (structureEdits index cells true) =
        TableLayout.emptyLength cells.length (width cells) - 1 := by
      simp only [structureEdits, ↓reduceIte, List.cons_append, List.nil_append, growthOf_cons, growthOf_nil, Edit.growth]
      omega
    rw [growth] at built
    have placed : ∀ cell ∈ filledCells cells, spansText cell.spans ≠ "" ∧
        1 ≤ TableLayout.cellIndex index cell.row cell.column (width cells) ∧
        TableLayout.cellIndex index cell.row cell.column (width cells) <
          live + (TableLayout.emptyLength cells.length (width cells) - 1) := by
      intro cell among
      obtain ⟨given, written⟩ := List.mem_filter.mp among
      obtain ⟨inRows, row, member, inRow⟩ := placedCells_inside given
      rw [Nat.zero_add] at inRows
      obtain ⟨behind, before⟩ : index + 3 ≤ _ ∧ _ :=
        cellIndex_inside inRows (Nat.lt_of_lt_of_le inRow (length_le_width member))
      exact ⟨by simpa using written, by omega, by omega⟩
    have start : Held inserter.documentId
        (live + (TableLayout.emptyLength cells.length (width cells) - 1) + (0 : Nat)) after := by
      simpa using built
    refine (fillCells_safe start placed).bind fun _ finished filled => SafeAction.pure ?_
    have total : live + (index + TableLayout.emptyLength cells.length (width cells) +
          (textUnits (filledCells cells) : Nat) - index - 1) =
        live + (TableLayout.emptyLength cells.length (width cells) - 1) + (0 : Nat) +
          (textUnits (filledCells cells) : Nat) := by
      omega
    exact total ▸ filled

/-- The drift is what the body has grown by, so no anchor comes to stand at the last line end. -/
theorem insertFrom_safe {total number : Nat} {drift : Int} {stop : Option Int} {tables : List DeferredTable}
    (held : Held inserter.documentId live documents)
    (inside : ∀ table ∈ tables, table.offset + drift + 1 < live) :
    Safe (fun value after => ∀ ends, value.1 = .ok ends → (after inserter.documentId).EndsInLine) documents
      (inserter.insertFrom true total number drift stop tables) := by
  induction tables generalizing documents live number drift stop with
  | nil => exact .pure fun _ _ => held.ends
  | cons table rest ih =>
    obtain ⟨before, others⟩ := List.forall_mem_cons.mp inside
    rw [insertFrom_cons]
    by_cases fits : isInside (table.offset + drift) stop
    · rw [if_pos fits]
      refine Safe.bind (insert_safe held (isInside_iff.mp fits).1 before) fun outcome after done => ?_
      cases outcome with
      | error cause =>
        refine Safe.pure ?_
        rintro _ ⟨⟩
      | ok behind =>
        refine (ih (done behind rfl) fun other among => ?_).bind fun value finished ended => .pure ?_
        · have := others other among
          omega
        · obtain ⟨outcome, drift⟩ := value
          cases outcome with
          | error cause => rintro _ ⟨⟩
          | ok ends => exact fun _ _ => ended ends rfl
    · rw [if_neg fits]
      refine Safe.pure ?_
      rintro _ ⟨⟩

end TableInserter

namespace WriteTarget
variable {target : WriteTarget} {compiled : Compiled} {documents : Documents} {live : Int}

/-- Where the body is as long as the text makes it, the anchors are found to be there. -/
theorem anchorsRemain_safe {expected : Int} {tables : Nat} (held : Held target.documentId live documents)
    (enough : expected ≤ live) (some : 0 < tables) :
    SafeAction (fun anchors after => after = documents ∧ anchors = true) documents
      (target.anchorsRemain expected tables) := by
  refine (SafeAction.view _).bind fun document after shown => ?_
  obtain ⟨rfl, shows⟩ := shown
  have ended : documentEnd document = .ok (.int live) := held.length ▸ shows.ends
  change SafeAction _ _ (Action.ofOutcome (documentEnd document) >>= _)
  rw [ended]
  have shorter : live ≠ expected - tables := by omega
  exact SafeAction.pure ⟨rfl, by simp [shorter]⟩

theorem insertTables_safe {base stop : Int} {elements : List Element}
    (held : Held target.documentId live documents) (inside : base < stop)
    (known : target.endIndex = some stop)
    (enough : stop + Text.units (compile elements base).text ≤ live) :
    SafeAction (fun _ after => (after target.documentId).EndsInLine) documents
      (target.insertTables (compile elements base)) := by
  unfold insertTables
  dsimp only
  split
  · exact SafeAction.pure held.ends
  next deferred =>
    rw [known]
    have tables : 0 < (compile elements base).tables.length := by
      rw [List.length_pos_iff]
      simpa using deferred
    refine (anchorsRemain_safe held enough tables).bind fun anchors after remain => ?_
    obtain ⟨rfl, rfl⟩ := remain
    let inserter : TableInserter := { documentId := target.documentId }
    have there : Held inserter.documentId live after := held
    have inserted : Safe (fun value after => ∀ ends, value.1 = .ok ends → (after target.documentId).EndsInLine) after
        (inserter.insertAll (compile elements base).tables 0
          (some (stop + (Text.units (compile elements base).text : Int))) true) := by
      refine TableInserter.insertFrom_safe there fun table among => ?_
      have := table_inside among
      omega
    refine (SafeAction.lift inserted).bind fun value finished ended => ?_
    obtain ⟨outcome, drift⟩ := value
    cases outcome with
    | error cause => exact SafeAction.throw cause
    | ok ends => exact SafeAction.pure (ended ends rfl)

end WriteTarget

end DocScribe.Docs
