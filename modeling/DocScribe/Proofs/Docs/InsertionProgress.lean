import DocScribe.Proofs.Docs.TableFilling
import DocScribe.Proofs.Service.Transcript
import DocScribe.Rehearsal.World
import Mathlib.Algebra.Ring.Int.Defs

/-! What an insertion of tables tells about itself. A table is put in by one batch for its structure and one for
each cell that holds text, and the first batch that is refused ends the insertion. The fault counts the tables
before it and, if a cell was refused, the cells of its table before it. -/

namespace DocScribe.Docs
open DocScribe Markdown Service TableInsertion

/-- Batches of edits are sent one after the other, and none is refused. -/
inductive Accepted (documentId : Identifier) : List (List Edit) → List Exchange → Prop where
  | none : Accepted documentId [] []
  | batch {edits batches receipt asked} (rest : Accepted documentId batches asked) :
      Accepted documentId (edits :: batches) (⟨.call (.editDocument documentId edits), .ok receipt⟩ :: asked)

/-- Batches are sent until one is refused, behind those that were accepted. -/
inductive Refused (documentId : Identifier) : List (List Edit) → (accepted : Nat) → Fault → List Exchange → Prop where
  | batch {edits batches refusal} :
      Refused documentId (edits :: batches) 0 refusal [⟨.call (.editDocument documentId edits), .error refusal⟩]
  | later {edits batches receipt accepted refusal asked} (rest : Refused documentId batches accepted refusal asked) :
      Refused documentId (edits :: batches) (accepted + 1) refusal
        (⟨.call (.editDocument documentId edits), .ok receipt⟩ :: asked)

theorem Accepted.append {documentId : Identifier} {first second : List (List Edit)} {asked further : List Exchange}
    (front : Accepted documentId first asked) (back : Accepted documentId second further) :
    Accepted documentId (first ++ second) (asked ++ further) := by
  induction front with
  | none => exact back
  | batch rest ih => exact .batch ih

namespace TableInserter
variable (inserter : TableInserter)

/-- The batches that fill cells, of which those before have moved the others by `shift`. -/
def cellBatches (index : Int) (columns : Nat) : (shift : Nat) → List PlacedCell → List (List Edit)
  | _, [] => []
  | shift, cell :: rest =>
    cellEdits cell.spans (TableLayout.cellIndex index cell.row cell.column columns + shift)
        (inserter.boldHeaders && cell.row == 0) ::
      cellBatches index columns (shift + Text.units (spansText cell.spans)) rest

def tableBatches (replaceAnchor : Bool) (index : Int) (cells : Grid) : List (List Edit) :=
  structureEdits index cells replaceAnchor :: inserter.cellBatches index (width cells) 0 (filledCells cells)

/-- What tables add to the length of a body in which they take the places of their anchors. -/
def growth (tables : List DeferredTable) : Int :=
  (tables.map fun table => ((tableSlots inserter.boldHeaders table.cells).length : Int) - 1).sum

def batches (replaceAnchors : Bool) : (drift : Int) → List DeferredTable → List (List Edit)
  | _, [] => []
  | drift, table :: rest =>
    inserter.tableBatches replaceAnchors (table.offset + drift) table.cells ++
      batches replaceAnchors (drift + inserter.growth [table]) rest

/-- A position is not in a body, whose end need not be known. -/
def IsOutside (index : Int) (stop : Option Int) : Prop := index < 1 ∨ ∃ last ∈ stop, last ≤ index

/-- The first tables of an insertion have landed, each at a place inside the body, and have moved what is behind
them from `drift` to `moved`. -/
structure Landed (replaceAnchors : Bool) (drift : Int) (stop : Option Int) (tables : List DeferredTable) (landed : Nat)
    (asked : List Exchange) (moved : Int) : Prop where
  within : landed ≤ tables.length
  grown : moved = drift + inserter.growth (tables.take landed)
  accepted : Accepted inserter.documentId (inserter.batches replaceAnchors drift (tables.take landed)) asked
  inside : ∀ number < landed, ∀ table ∈ tables[number]?,
    ¬IsOutside (table.offset + (drift + inserter.growth (tables.take number))) (stop.map (· + inserter.growth (tables.take number)))

/-- What is told about a table of which a batch was refused: the refusal itself if it was that of the structure,
and otherwise how many of the cells with text are filled. -/
def Blames (cells : Grid) (refusal : Fault) : (accepted : Nat) → Fault → Prop
  | 0, cause => cause = refusal
  | written + 1, cause => ∃ message details,
    cause = .partialApply message written (cells.flatten.countP fun spans => spansText spans != "") details refusal

/-- What ends an insertion of `total` tables when the first have landed: there is no other table, the next one has
no place in the body, which ends at `last`, or one of its batches is refused. -/
inductive Ending (replaceAnchors : Bool) (total landed : Nat) (moved : Int) (last : Option Int) :
    Option DeferredTable → List Exchange → Outcome (List Int) → Prop where
  | complete {ends} : Ending replaceAnchors total landed moved last .none [] (.ok ends)
  | outside {table} (outside : IsOutside (table.offset + moved) last) :
      Ending replaceAnchors total landed moved last (.some table) []
        (.error (.outsideDocument (table.offset + moved) (last.getD (table.offset + moved)) s!"table {landed + 1} of {total}"))
  | refused {table own accepted refusal cause message details} (inside : ¬IsOutside (table.offset + moved) last)
      (refused : Refused inserter.documentId
        (inserter.tableBatches replaceAnchors (table.offset + moved) table.cells) accepted refusal own)
      (blames : Blames table.cells refusal accepted cause) :
      Ending replaceAnchors total landed moved last (.some table) own (.error (.partialApply message landed total details cause))

section Runs

private theorem fillCells_request (index : Int) (columns total completed shift : Nat) (cell : PlacedCell) (rest : List PlacedCell) :
    (inserter.fillCells index columns total completed shift (cell :: rest)).run =
      .request (.call (.editDocument inserter.documentId (cellEdits cell.spans
          (TableLayout.cellIndex index cell.row cell.column columns + shift) (inserter.boldHeaders && cell.row == 0)))) fun
        | .ok _ => (inserter.fillCells index columns total (completed + 1) (shift + Text.units (spansText cell.spans)) rest).run
        | .error refusal => .pure (.error (cellFault index cell completed total refusal)) := by
  rw [fillCells]
  change Program.request _ _ = _
  congr 1
  funext reply
  cases reply <;> rfl

private theorem insert_request (index : Int) {cells : Grid} (filled : ∃ row ∈ cells, row ≠ []) (replaceAnchor : Bool) :
    (inserter.insert index cells replaceAnchor).run =
      .request (.call (.editDocument inserter.documentId (structureEdits index cells replaceAnchor))) fun
        | .ok _ => (inserter.fillCells index (width cells) (filledCells cells).length 0 0 (filledCells cells)).run >>=
            fun filled => .pure (filled.map fun _ => index + (tableSlots inserter.boldHeaders cells).length)
        | .error refusal => .pure (.error refusal) := by
  have rows : cells ≠ [] := by
    obtain ⟨row, member, -⟩ := filled
    exact List.ne_nil_of_mem member
  have dimensions : (cells.length == 0 || width cells == 0) = false := by
    simp [rows, width_ne_zero filled]
  rw [insert]
  simp only [dimensions, Bool.false_eq_true, ↓reduceIte, length_tableSlots, ← Int.add_assoc]
  change Program.request _ _ = _
  congr 1
  funext reply
  cases reply with
  | error refusal => rfl
  | ok receipt =>
    change ExceptT.run (inserter.fillCells .. >>= fun _ => pure _) = _
    rw [ExceptT.run_bind]
    congr 1
    funext outcome
    cases outcome <;> rfl

private theorem fillCells_leads (index : Int) (columns total completed shift : Nat) (cells : List PlacedCell) :
    (inserter.fillCells index columns total completed shift cells).run.Leads fun asked told =>
      (Accepted inserter.documentId (inserter.cellBatches index columns shift cells) asked ∧ told = .ok ()) ∨
      ∃ cell written refusal, Refused inserter.documentId (inserter.cellBatches index columns shift cells) written refusal asked ∧
        told = .error (cellFault index cell (completed + written) total refusal) := by
  induction cells generalizing completed shift with
  | nil => exact .pure (.inl ⟨.none, rfl⟩)
  | cons cell rest ih =>
    rw [fillCells_request]
    apply Program.Leads.ask
    intro reply
    cases reply with
    | error refusal => exact .pure (.inr ⟨cell, 0, refusal, .batch, rfl⟩)
    | ok receipt =>
      refine (ih _ _).mono ?_
      rintro asked told (⟨accepted, done⟩ | ⟨last, written, refusal, refused, failed⟩)
      · exact .inl ⟨.batch accepted, done⟩
      · refine .inr ⟨last, written + 1, refusal, .later refused, ?_⟩
        rw [failed, Nat.add_assoc, Nat.add_comm 1]

private theorem length_filledCells (cells : Grid) :
    (filledCells cells).length = cells.flatten.countP fun spans => spansText spans != "" := by
  have ofRow (row column : Nat) (spans : List (List Span)) : (placedRow row column spans).map PlacedCell.spans = spans := by
    induction spans generalizing column with
    | nil => rfl
    | cons first spans ih => rw [placedRow, List.map_cons, ih]
  have placed (row : Nat) : (placedCells row cells).map PlacedCell.spans = cells.flatten := by
    induction cells generalizing row with
    | nil => rfl
    | cons first cells ih => rw [placedCells, List.map_append, ofRow, ih, List.flatten_cons]
  rw [← placed 0, List.countP_map, List.countP_eq_length_filter]
  rfl

private theorem insert_leads (index : Int) {cells : Grid} (filled : ∃ row ∈ cells, row ≠ []) (replaceAnchor : Bool) :
    (inserter.insert index cells replaceAnchor).run.Leads fun asked told =>
      (Accepted inserter.documentId (inserter.tableBatches replaceAnchor index cells) asked ∧
        told = .ok (index + (tableSlots inserter.boldHeaders cells).length)) ∨
      ∃ accepted refusal cause, Refused inserter.documentId (inserter.tableBatches replaceAnchor index cells) accepted refusal asked ∧
        Blames cells refusal accepted cause ∧ told = .error cause := by
  rw [insert_request inserter index filled]
  apply Program.Leads.ask
  intro reply
  cases reply with
  | error refusal => exact .pure (.inr ⟨0, refusal, refusal, .batch, rfl, rfl⟩)
  | ok receipt =>
    refine Program.Leads.bind
      (inserter.fillCells_leads index (width cells) (filledCells cells).length 0 0 (filledCells cells)) ?_
    rintro asked told (⟨accepted, rfl⟩ | ⟨cell, written, refusal, refused, rfl⟩)
    · apply Program.Leads.pure
      rw [List.append_nil]
      exact .inl ⟨.batch accepted, rfl⟩
    · apply Program.Leads.pure
      rw [List.append_nil]
      refine .inr ⟨written + 1, refusal, _, .later refused, ?_, rfl⟩
      rw [Blames, ← length_filledCells, cellFault, Nat.zero_add]
      exact ⟨_, _, rfl⟩

end Runs

section Landings
variable {inserter}

private theorem isInside_iff_not_isOutside (index : Int) (stop : Option Int) : isInside index stop = true ↔ ¬IsOutside index stop := by
  simp [isInside_iff, IsOutside]

private theorem growth_nil : inserter.growth [] = 0 := rfl

theorem growth_cons (table : DeferredTable) (tables : List DeferredTable) :
    inserter.growth (table :: tables) = inserter.growth [table] + inserter.growth tables := by
  simp [growth]

variable {replaceAnchors : Bool} {drift moved : Int} {stop : Option Int} {tables : List DeferredTable}

theorem Landed.none : inserter.Landed replaceAnchors drift stop tables 0 [] drift where
  within := Nat.zero_le _
  grown := (Int.add_zero drift).symm
  accepted := .none
  inside := fun _ before => absurd before (Nat.not_lt_zero _)

private theorem map_add_add (first second : Int) : (stop.map (· + first)).map (· + second) = stop.map (· + (first + second)) := by
  rw [Option.map_map]
  congr 1
  funext last
  exact Int.add_assoc last first second

theorem Landed.next {table : DeferredTable} {own earlier : List Exchange} {landed : Nat}
    (fits : ¬IsOutside (table.offset + drift) stop)
    (accepted : Accepted inserter.documentId
      (inserter.tableBatches replaceAnchors (table.offset + drift) table.cells) own)
    (rest : inserter.Landed replaceAnchors (drift + inserter.growth [table]) (stop.map (· + inserter.growth [table]))
      tables landed earlier moved) :
    inserter.Landed replaceAnchors drift stop (table :: tables) (landed + 1) (own ++ earlier) moved where
  within := Nat.succ_le_succ rest.within
  grown := by
    rw [List.take_succ_cons, growth_cons, ← Int.add_assoc]
    exact rest.grown
  accepted := accepted.append rest.accepted
  inside := by
    intro number before other there
    cases number with
    | zero =>
      cases there
      have start : stop.map (· + 0) = stop := by simp
      rw [List.take_zero, growth_nil, Int.add_zero, start]
      exact fits
    | succ number =>
      have later := rest.inside number (Nat.lt_of_succ_lt_succ before) other there
      rw [map_add_add, Int.add_assoc drift] at later
      rw [List.take_succ_cons, growth_cons]
      exact later

theorem Ending.map {total landed : Nat} {next : Option DeferredTable} {own : List Exchange} {told : Outcome (List Int)}
    (ending : inserter.Ending replaceAnchors total landed moved stop next own told) (change : List Int → List Int) :
    inserter.Ending replaceAnchors total landed moved stop next own (told.map change) := by
  cases ending with
  | complete => exact .complete
  | outside outside => exact .outside outside
  | refused inside refused blames => exact .refused inside refused blames

theorem insertFrom_leads (total before : Nat) (filled : ∀ table ∈ tables, ∃ row ∈ table.cells, row ≠ []) :
    (inserter.insertFrom replaceAnchors total (before + 1) drift stop tables).Leads fun asked told =>
      ∃ landed earlier own, asked = earlier ++ own ∧ inserter.Landed replaceAnchors drift stop tables landed earlier told.2 ∧
        inserter.Ending replaceAnchors total (before + landed) told.2 (stop.map (· + (told.2 - drift))) tables[landed]? own told.1 := by
  induction tables generalizing before drift stop with
  | nil => exact .pure ⟨0, [], [], rfl, .none, .complete⟩
  | cons table rest ih =>
    have start : stop.map (· + (drift - drift)) = stop := by simp
    rw [insertFrom_cons]
    by_cases fits : isInside (table.offset + drift) stop
    · rw [if_pos fits]
      rw [isInside_iff_not_isOutside] at fits
      refine Program.Leads.bind (inserter.insert_leads (table.offset + drift) (filled table (by simp)) replaceAnchors) ?_
      rintro own told (⟨accepted, rfl⟩ | ⟨accepted, refusal, cause, refused, blames, rfl⟩)
      · -- the table has landed, and the others are inserted behind what it has added
        have grown : table.offset + drift + (tableSlots inserter.boldHeaders table.cells).length - (table.offset + drift) - 1 =
            inserter.growth [table] := by
          simp only [growth, List.map_cons, List.map_nil, List.sum_cons, List.sum_nil]
          omega
        simp only [grown]
        refine Program.Leads.bind (ih (before + 1) fun other member => filled other (by simp [member])) ?_
        rintro further told ⟨landed, earlier, last, parts, rest, ending⟩
        refine .pure ⟨landed + 1, own ++ earlier, last, ?_, .next fits accepted rest, ?_⟩
        · rw [parts, List.append_nil, List.append_assoc]
        · have counted : before + 1 + landed = before + (landed + 1) := by omega
          have passed : inserter.growth [table] + (told.2 - (drift + inserter.growth [table])) = told.2 - drift := by omega
          rw [map_add_add, passed, counted] at ending
          rw [List.getElem?_cons_succ]
          exact ending.map _
      · refine .pure ⟨0, [], own, by simp, .none, ?_⟩
        rw [start]
        exact .refused fits refused blames
    · rw [if_neg fits]
      refine .pure ⟨0, [], [], rfl, .none, ?_⟩
      rw [isInside_iff_not_isOutside, not_not] at fits
      rw [start]
      exact .outside fits

/-- An insertion of tables tells exactly how far it came. Its tables land in order, each with all its batches accepted,
up to the first that has no place in the body or of which a batch is refused; for that one the places of the others
count with what they have added. -/
theorem insertAll_progress (inserter : TableInserter) (replaceAnchors : Bool) (stop : Option Int) {tables : List DeferredTable}
    (filled : ∀ table ∈ tables, ∃ row ∈ table.cells, row ≠ []) :
    (inserter.insertAll tables 0 stop replaceAnchors).Leads fun asked told =>
      ∃ landed earlier own, asked = earlier ++ own ∧ inserter.Landed replaceAnchors 0 stop tables landed earlier told.2 ∧
        inserter.Ending replaceAnchors tables.length landed told.2 (stop.map (· + told.2)) tables[landed]? own told.1 := by
  refine (insertFrom_leads tables.length 0 filled).mono ?_
  rintro asked told ⟨landed, earlier, own, parts, before, ending⟩
  rw [Nat.zero_add, Int.sub_zero] at ending
  exact ⟨landed, earlier, own, parts, before, ending⟩

/-- The second cell of the second of two tables is refused. -/
theorem insertAll_progress_refusedCell :
    let inserter : TableInserter := { documentId := .str "document" }
    let tables : List DeferredTable := [⟨2, [[[⟨"xy", {}⟩], []]]⟩, ⟨4, [[[⟨"1", {}⟩], [⟨"2", {}⟩]]]⟩]
    let refusal : Fault := .http 400 "Bad Request"
    let replies : Replies := fun made question => match question with
      | .call _ => if made = 4 then .error refusal else .ok (.obj [])
      | other => (Rehearsal.World.answer {} other).1
    let told := (inserter.insertAll tables 0 (some 7) true).result replies 0
    let cell : Fault := .partialApply "Failed to populate table cell (0, 1)" 1 2
      (.obj [("table_index", .int 12), ("row", .int 0), ("column", .int 1)]) refusal
    let details : Json := .obj [("table", .int 2), ("table_index", .int 12), ("cells_completed", .int 1), ("cells_total", .int 2)]
    told = (.error (.partialApply "Failed to insert table 2" 1 2 details cell), 8) ∧
      ∃ earlier, inserter.Landed true 0 (some 7) tables 1 earlier 8 := by
  intro inserter tables refusal replies told cell details
  constructor
  · rfl
  obtain ⟨landed, earlier, own, parts, before, ending⟩ :=
    @insertAll_progress inserter true (some 7) tables (by simp [tables]) replies 0
  have moved : told.2 = 8 := rfl
  rw [moved] at before
  have one : landed = 1 := by
    have grown : 8 = 0 + inserter.growth (tables.take landed) := before.grown
    have within : landed ≤ 2 := before.within
    have none : inserter.growth (tables.take 0) ≠ 8 := by decide
    have both : inserter.growth (tables.take 2) ≠ 8 := by decide
    rw [Int.zero_add] at grown
    rcases (by omega : landed = 0 ∨ landed = 1 ∨ landed = 2) with rfl | rfl | rfl
    · exact absurd grown.symm none
    · rfl
    · exact absurd grown.symm both
  rw [one] at before
  exact ⟨earlier, before⟩

end Landings

end TableInserter
end DocScribe.Docs
