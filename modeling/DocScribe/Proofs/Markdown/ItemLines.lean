import DocScribe.Proofs.Markdown.SteadySpans

/-! The line of a list item as it is written: its mark starts a list and nothing else, ends the paragraph
above it, and its content starts behind the mark. -/

namespace DocScribe.Markdown
open DocScribe BlockStart BlockReader

/-- The columns that the mark of an item takes, with the space behind it. -/
def itemWidth (ordered : Bool) : Nat := (Render.itemMark ordered).length + 1

/-- An item, written at a column. -/
def itemText (column : Nat) (ordered : Bool) (spans : List Span) : List Char :=
  List.replicate column ' ' ++ Render.itemMark ordered ++ ' ' :: Render.spans spans

def itemLine (column : Nat) (ordered : Bool) (spans : List Span) : Line :=
  ⟨itemText column ordered spans, column, column, 0⟩

def markOf (ordered : Bool) : ItemMark := if ordered then ⟨true, 2, 1, '.'⟩ else ⟨false, 1, 0, '-'⟩

/-- A mark at a column is seen as the mark of an item. -/
def Margin.Admits (margin : Margin) (column : Nat) : Prop :=
  column - margin.indent < 4 ∧ ∀ outer ∈ margin.aroundList, column - outer < 4 ∨ margin.indent ≤ column

/-- The margin of an item's content. -/
def itemMargin (column : Nat) (ordered : Bool) : Margin := ⟨(column + itemWidth ordered : Nat), some column⟩

variable {column : Nat} {ordered : Bool} {spans : List Span} {margin : Margin} {rest : List Line}

@[simp] theorem itemWidth_ordered : itemWidth true = 3 := rfl

@[simp] theorem itemWidth_unordered : itemWidth false = 2 := rfl

private theorem itemWidth_le (ordered : Bool) : itemWidth ordered ≤ 3 := by cases ordered <;> simp

theorem itemWidth_pos (ordered : Bool) : 0 < itemWidth ordered := Nat.succ_pos _

theorem admits_itemMargin {inner : Nat} (left : inner ≤ column + itemWidth ordered) :
    (itemMargin column ordered).Admits inner := by
  have := itemWidth_le ordered
  refine ⟨by simp only [itemMargin]; omega, ?_⟩
  rintro outer same
  obtain rfl := Option.some.inj same
  simp only [itemMargin]
  omega

private theorem advance_spaces (count start : Nat) : (List.replicate count ' ').foldl (Line.advance 0) start = start + count := by
  induction count generalizing start with
  | zero => rfl
  | succ count ih =>
    rw [List.replicate_succ, List.foldl_cons, ih]
    change start + 1 + count = start + (count + 1)
    omega

theorem ofChars_itemText (column : Nat) (ordered : Bool) (spans : List Span) :
    Line.ofChars (itemText column ordered spans) = itemLine column ordered spans := by
  have blanks : (itemText column ordered spans).takeWhile Text.isIndent = List.replicate column ' ' := by
    rw [itemText, List.append_assoc, List.takeWhile_append_of_pos fun c among => List.eq_of_mem_replicate among ▸ rfl]
    cases ordered <;> simp [Render.itemMark, Text.isIndent]
  simp [Line.ofChars, itemLine, Line.contentColumn, blanks, advance_spaces]

theorem content_itemLine (column : Nat) (ordered : Bool) (spans : List Span) :
    (itemLine column ordered spans).content = Render.itemMark ordered ++ ' ' :: Render.spans spans := by
  rw [Line.content, itemLine, itemText, List.append_assoc]
  exact List.drop_left' (by simp)

theorem isEmpty_itemLine (column : Nat) (ordered : Bool) (spans : List Span) :
    (itemLine column ordered spans).isEmpty = false := by
  rw [Line.isEmpty, content_itemLine]
  cases ordered <;> rfl

theorem itemMark?_itemLine (column : Nat) (ordered : Bool) (spans : List Span) :
    itemMark? (itemLine column ordered spans).content = some (markOf ordered) := by
  rw [content_itemLine]
  cases ordered <;> rfl

private theorem columns?_itemLine (column : Nat) (ordered : Bool) (spans : List Span) :
    columns? (itemLine column ordered spans).content = none := by
  rw [content_itemLine]
  cases ordered <;> simp [Render.itemMark, columns?, Text.isIndent]

theorem tableHeader?_itemLine (header : Line) : tableHeader? margin (header :: itemLine column ordered spans :: rest) = none := by
  simp [tableHeader?, columns?_itemLine]

theorem isDeep_itemLine (admits : margin.Admits column) : (itemLine column ordered spans).isDeep margin = false :=
  decide_eq_false (Int.not_le_of_gt admits.1)

private theorem list?_itemLine (admits : margin.Admits column) :
    BlockStart.list? margin (itemLine column ordered spans) = some (markOf ordered) := by
  have hangs : (margin.aroundList.any fun outer =>
      0 ≤ outer && 4 ≤ (itemLine column ordered spans).indent - outer && (itemLine column ordered spans).isOutside margin) =
        false := by
    cases around : margin.aroundList with
    | none => rfl
    | some outer =>
      have near := admits.2 outer around
      change (decide (0 ≤ outer) && decide (4 ≤ (column : Int) - outer) && decide ((column : Int) < margin.indent)) = false
      simp only [Bool.and_eq_false_iff, decide_eq_false_iff_not]
      omega
  simp only [BlockStart.list?, isDeep_itemLine admits, hangs, itemMark?_itemLine]
  rfl

private theorem fence?_itemLine : fence? margin (itemLine column ordered spans) = none := by
  cases ordered <;> simp [fence?, content_itemLine, Render.itemMark]

private theorem isQuote_itemLine : isQuote margin (itemLine column ordered spans) = false := by
  cases ordered <;> simp [isQuote, content_itemLine, Render.itemMark]

/-- The content of an item, as the lines inside it start. -/
def openedLine (column : Nat) (ordered : Bool) (spans : List Span) : Line :=
  ⟨itemText column ordered spans, column + itemWidth ordered, (column + itemWidth ordered : Nat), 0⟩

/-- What stands before the content of an item. -/
def itemFront (column : Nat) (ordered : Bool) : List Char := List.replicate column ' ' ++ Render.itemMark ordered ++ [' ']

theorem itemText_eq (column : Nat) (ordered : Bool) (spans : List Span) :
    itemText column ordered spans = itemFront column ordered ++ Render.spans spans := by
  simp [itemText, itemFront]

private theorem length_itemFront (column : Nat) (ordered : Bool) :
    (itemFront column ordered).length = column + itemWidth ordered := by
  simp [itemFront, itemWidth]

theorem content_openedLine (column : Nat) (ordered : Bool) (spans : List Span) :
    (openedLine column ordered spans).content = Render.spans spans := by
  rw [Line.content, openedLine, itemText_eq]
  exact List.drop_left' (length_itemFront column ordered)

/-- Before the content each character is one column wide, unless it is a tab. -/
theorem cutColumns_front {line : Line} {width used passed : Nat} {front : List Char} (back : List Char)
    (noTab : '\t' ∉ front) (ahead : passed + front.length ≤ line.lead) (fits : used + front.length = width) :
    line.cutColumns width used passed (front ++ back) = back := by
  induction front generalizing used passed with
  | nil =>
    obtain rfl : used = width := by simpa using fits
    cases back <;> simp [Line.cutColumns]
  | cons c front ih =>
    obtain ⟨other, noTabs⟩ := not_or.mp (mt List.mem_cons.mpr noTab)
    simp only [List.length_cons] at ahead fits
    have short : ¬ width ≤ used := by omega
    have inside : passed < line.lead := by omega
    have next := ih noTabs (by omega : passed + 1 + front.length ≤ line.lead) (by omega : used + 1 + front.length = width)
    have step : Line.advance line.column used c = used + 1 := by
      simp [Line.advance, Ne.symm other]
    simp only [List.cons_append, Line.cutColumns, short, ↓reduceIte, inside, step, next, ite_self]

theorem cut_openedLine (column : Nat) (ordered : Bool) (spans : List Span) :
    (openedLine column ordered spans).cut (column + itemWidth ordered) = Render.spans spans := by
  have noTab : '\t' ∉ itemFront column ordered := by
    cases ordered <;> simp [itemFront, Render.itemMark]
  have length := length_itemFront column ordered
  rw [Line.cut]
  change Line.cutColumns _ _ _ _ (itemText column ordered spans) = _
  rw [itemText_eq]
  exact cutColumns_front _ noTab (by rw [length, Nat.zero_add]; exact Nat.le_refl _) (by rw [length, Nat.zero_add])

section Steady
variable (some : spans ≠ []) (steady : SteadySpans spans)
include some steady

private theorem exists_rendered : ∃ c tail, Render.spans spans = c :: tail ∧ c ≠ '-' ∧ Text.isIndent c = false := by
  obtain ⟨unmarked, -⟩ := steady.isUnmarked_rendered some
  obtain ⟨c, tail, split⟩ := List.exists_cons_of_ne_nil unmarked.some
  have first : c ∈ (Render.spans spans).head? := by simp [split]
  refine ⟨c, tail, split, ?_, isIndent_of_shown (steady.rendered_ends.1 c first)⟩
  rintro rfl
  exact unmarked.plain _ first (by decide)

private theorem isRule_itemLine : isRule margin (itemLine column ordered spans) = false := by
  obtain ⟨c, tail, split, noMark, shown⟩ := exists_rendered some steady
  cases ordered <;> simp [isRule, content_itemLine, Render.itemMark, split, noMark, shown]

theorem interruptsList_itemLine : interruptsList margin (itemLine column ordered spans) = false := by
  simp [interruptsList, fence?_itemLine, isQuote_itemLine, isRule_itemLine some steady]

private theorem interruptsParagraph_itemLine (admits : margin.Admits column) :
    interruptsParagraph margin (itemLine column ordered spans :: rest) = true := by
  obtain ⟨c, tail, split, -, shown⟩ := exists_rendered some steady
  have starts : interruptingList margin (itemLine column ordered spans) = true := by
    simp only [interruptingList, list?_itemLine admits, content_itemLine, split]
    cases ordered <;> simp [markOf, Render.itemMark, shown]
  simp [interruptsParagraph, starts]

theorem underlined?_itemLine (admits : margin.Admits column) :
    underlined? margin (itemLine column ordered spans :: rest) = none := by
  obtain ⟨c, tail, split, noMark, shown⟩ := exists_rendered some steady
  have noLine : underline? margin (itemLine column ordered spans) = none := by
    cases ordered <;> simp [underline?, content_itemLine, Render.itemMark, split, shown]
  have right : ¬ (itemLine column ordered spans).indent < 0 := by
    simp [itemLine]
  simp [underlined?, isEmpty_itemLine, isDeep_itemLine admits, noLine, right, interruptsParagraph_itemLine some steady admits]

theorem paragraphLines_itemLine (admits : margin.Admits column) :
    paragraphLines margin (itemLine column ordered spans :: rest) = 0 := by
  have right : ¬ (itemLine column ordered spans).indent < 0 := by
    simp [itemLine]
  simp [paragraphLines, isEmpty_itemLine, isDeep_itemLine admits, right, interruptsParagraph_itemLine some steady admits]

theorem openItem_itemLine : openItem margin (markOf ordered) (itemLine column ordered spans) =
    (openedLine column ordered spans, ⟨(column + itemWidth ordered : Nat), Option.some margin.indent⟩) := by
  obtain ⟨c, tail, split, -, shown⟩ := exists_rendered some steady
  have behind : (itemLine column ordered spans).content.drop (markOf ordered).width = ' ' :: Render.spans spans := by
    rw [content_itemLine]
    cases ordered <;> rfl
  have blanks : (' ' :: Render.spans spans).takeWhile Text.isIndent = [' '] := by
    rw [split, List.takeWhile_cons_of_pos (by rfl), List.takeWhile_cons_of_neg (by simp [shown])]
  have width : itemWidth ordered = (markOf ordered).width + 1 := by cases ordered <;> rfl
  have reached (before : Nat) : Line.contentColumn 0 before (' ' :: Render.spans spans) = before + 1 := by
    rw [Line.contentColumn, blanks]
    rfl
  have filled : ([' '].length == (' ' :: Render.spans spans).length) = false := by simp [split]
  have near : ¬ column + (markOf ordered).width + 4 < column + (markOf ordered).width + 1 := by omega
  simp only [openItem, behind, blanks, filled]
  simp only [itemLine, openedLine, reached, Int.toNat_natCast, near, decide_false, Bool.or_false, Bool.false_eq_true, ↓reduceIte,
    Nat.add_sub_cancel_left, width]
  rfl

theorem blockAt_itemLine {insideQuote insideItem : ReadInside} {definitions : Definitions} {items : List (List RawBlock)}
    {taken : Nat}
    (admits : margin.Admits column) (noTable : tableHeader? margin (itemLine column ordered spans :: rest) = none)
    (reads : listItems insideItem margin (rest.length + 1) (markOf ordered) (itemLine column ordered spans :: rest) definitions =
      (items, definitions, taken)) :
    blockAt insideQuote insideItem margin (itemLine column ordered spans :: rest) definitions =
      found (.list ordered items) definitions taken := by
  have kind : (markOf ordered).ordered = ordered := by cases ordered <;> rfl
  simp only [blockAt, table?, noTable, deepCode?, isDeep_itemLine admits, fencedCode?, fence?_itemLine, quote?,
    isQuote_itemLine, rule?, isRule_itemLine some steady, BlockReader.list?, list?_itemLine admits, List.length_cons, reads, kind,
    Option.map_none, Option.map_some, Bool.false_eq_true, ↓reduceIte]
  rfl

end Steady

end DocScribe.Markdown
