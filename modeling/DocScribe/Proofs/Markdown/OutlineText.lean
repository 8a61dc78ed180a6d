import DocScribe.Markdown.Reading
import DocScribe.Proofs.Markdown.OutlineLines

/-! A run of list items is written as one block, and the lists that are read from it are walked into the items. -/

namespace DocScribe.Markdown
open DocScribe BlockStart BlockReader

theorem Walk.run_append (walk : Walk) (tokens more : List Token) : walk.run (tokens ++ more) = (walk.run tokens).run more :=
  List.foldl_append

theorem Walk.run_framed (walk : Walk) (frame : Frame) (tokens : List Token) :
    walk.run (Token.framed frame tokens) = ((walk.enter frame).run tokens).leave frame := by
  rw [Token.framed, List.cons_append]
  exact run_append (walk.enter frame) tokens [.closes frame]

namespace Outline

/-- The items as elements, in the order they are written. -/
def elements (depth : Nat) : Outline → List Element
  | nil => []
  | item ordered spans inner next => .listItem ordered depth spans :: (inner.elements (depth + 1) ++ next.elements depth)

def texts (column : Nat) : Outline → List (List Char)
  | nil => []
  | item ordered spans inner next =>
    itemText column ordered spans :: (inner.texts (column + itemWidth ordered) ++ next.texts column)

def text (outline : Outline) : List Char := Text.joinWith ['\n'] (outline.texts 0)

private theorem lines_eq (outline : Outline) (column : Nat) : outline.lines column = (outline.texts column).map Line.ofChars := by
  induction outline generalizing column with
  | nil => rfl
  | item ordered spans inner next ihInner ihNext =>
    rw [lines, texts, ihInner, ihNext, List.map_cons, List.map_append, ofChars_itemText]

section Lines

private theorem noBreak_itemText {column : Nat} {ordered : Bool} {spans : List Span} (steady : SteadySpans spans) :
    '\n' ∉ itemText column ordered spans := by
  intro among
  rw [itemText_eq] at among
  rcases List.mem_append.mp among with front | rendered
  · cases ordered <;> simp [itemFront, Render.itemMark] at front
  · exact steady.noBreak_rendered rendered

private theorem clean_itemText {column : Nat} {ordered : Bool} {spans : List Span} (steady : SteadySpans spans) :
    IsClean (itemText column ordered spans) := by
  have mark : IsClean (Render.itemMark ordered) := by
    cases ordered <;> decide
  have front : IsClean (itemFront column ordered) :=
    ((isClean_replicate column (by decide)).append mark).append (by decide)
  rw [itemText_eq]
  exact front.append steady.clean_rendered

private theorem texts_oneLine {outline : Outline} (steady : outline.IsSteady) (column : Nat) :
    ∀ text ∈ outline.texts column, '\n' ∉ text ∧ IsClean text := by
  induction outline generalizing column with
  | nil => simp [texts]
  | item ordered spans inner next ihInner ihNext =>
    obtain ⟨own, innerSteady, nextSteady⟩ := steady
    intro text among
    simp only [texts, List.mem_cons, List.mem_append] at among
    rcases among with rfl | inside | later
    · exact ⟨noBreak_itemText own.2, clean_itemText own.2⟩
    · exact ihInner innerSteady _ text inside
    · exact ihNext nextSteady _ text later

theorem textLines_text {outline : Outline} (filled : outline ≠ nil) (steady : outline.IsSteady) :
    textLines outline.text = outline.lines 0 := by
  have some : outline.texts 0 ≠ [] := by
    cases outline with
    | nil => exact absurd rfl filled
    | item => exact List.cons_ne_nil _ _
  rw [textLines, text, Text.joinWith,
    Text.splitAt_intercalate some fun text among => (texts_oneLine steady 0 text among).1, lines_eq]

theorem clean_text {outline : Outline} (steady : outline.IsSteady) : IsClean outline.text :=
  isClean_joinWith (by decide) fun text among => (texts_oneLine steady 0 text among).2

end Lines

section Written

/-- The column behind the ancestors of an item. -/
def totalWidth (widths : List Nat) : Nat := widths.foldl (· + ·) 0

@[simp] theorem totalWidth_nil : totalWidth [] = 0 := rfl

theorem totalWidth_append (widths : List Nat) (width : Nat) : totalWidth (widths ++ [width]) = totalWidth widths + width := by
  simp [totalWidth]

private theorem widthsBefore_take {depth : Nat} {widths : List Nat} (enough : depth ≤ widths.length) :
    Render.widthsBefore depth widths = widths.take depth := by
  simp [Render.widthsBefore, Nat.min_eq_left enough]

private theorem add_first {progress : Render.Progress} (fresh : progress.run = none) (ordered : Bool) (spans : List Span) :
    Render.add progress (.listItem ordered (0 : Nat) spans) =
      ⟨itemText 0 ordered spans :: progress.blocks, some [itemWidth ordered]⟩ := by
  have noWidths : Render.widthsBefore 0 [] = [] := rfl
  simp [Render.add, fresh, noWidths, itemText, itemWidth]

private theorem add_next {depth : Nat} {widths : List Nat} (enough : depth ≤ widths.length) (last : List Char)
    (before : List (List Char)) (ordered : Bool) (spans : List Span) :
    Render.add ⟨last :: before, some widths⟩ (.listItem ordered depth spans) =
      ⟨(last ++ '\n' :: itemText (totalWidth (widths.take depth)) ordered spans) :: before,
        some (widths.take depth ++ [itemWidth ordered])⟩ := by
  simp [Render.add, widthsBefore_take enough, itemText, itemWidth, totalWidth]

/-- Further items are written below the first one of their block. -/
theorem foldl_add (outline : Outline) {depth : Nat} {widths : List Nat} (last : List Char) (before : List (List Char))
    (enough : depth ≤ widths.length) :
    ∃ more : List Nat, more.take depth = widths.take depth ∧ depth ≤ more.length ∧
      (outline.elements depth).foldl Render.add ⟨last :: before, some widths⟩ =
        ⟨(last ++ (outline.texts (totalWidth (widths.take depth))).flatMap ('\n' :: ·)) :: before, some more⟩ := by
  induction outline generalizing depth widths last with
  | nil => exact ⟨widths, rfl, enough, by simp [elements, texts]⟩
  | item ordered spans inner next ihInner ihNext =>
    have wider : (widths.take depth ++ [itemWidth ordered]).take (depth + 1) = widths.take depth ++ [itemWidth ordered] := by
      refine List.take_of_length_le ?_
      rw [List.length_append, List.length_take]
      exact Nat.add_le_add_right (Nat.min_le_left ..) 1
    obtain ⟨within, sameWithin, fitsWithin, innerWritten⟩ :=
      ihInner (last ++ '\n' :: itemText (totalWidth (widths.take depth)) ordered spans)
        (by simp [enough] : depth + 1 ≤ (widths.take depth ++ [itemWidth ordered]).length)
    have same : within.take depth = widths.take depth := by
      have := congrArg (List.take depth) sameWithin
      simpa [List.take_take, List.take_append_of_le_length, enough] using this
    obtain ⟨more, sameMore, fitsMore, nextWritten⟩ :=
      ihNext (last ++ '\n' :: itemText (totalWidth (widths.take depth)) ordered spans ++
        (inner.texts (totalWidth (widths.take depth) + itemWidth ordered)).flatMap ('\n' :: ·)) (by omega : depth ≤ within.length)
    refine ⟨more, sameMore.trans same, fitsMore, ?_⟩
    rw [wider, totalWidth_append] at innerWritten
    rw [same] at nextWritten
    rw [elements, List.foldl_cons, add_next enough, List.foldl_append, innerWritten, nextWritten]
    simp [texts]

theorem joinWith_cons (first : List Char) (others : List (List Char)) :
    Text.joinWith ['\n'] (first :: others) = first ++ others.flatMap ('\n' :: ·) := by
  induction others generalizing first with
  | nil => simp [Text.joinWith]
  | cons second others ih =>
    have later := ih second
    rw [Text.joinWith] at later ⊢
    rw [List.intercalate_cons_cons, later, List.flatMap_cons]
    simp

theorem foldl_add_text {outline : Outline} (filled : outline ≠ nil) {progress : Render.Progress} (fresh : progress.run = none) :
    ∃ widths, (outline.elements 0).foldl Render.add progress = ⟨outline.text :: progress.blocks, widths⟩ := by
  cases outline with
  | nil => exact absurd rfl filled
  | item ordered spans inner next =>
    obtain ⟨within, -, -, innerWritten⟩ :=
      foldl_add inner (itemText 0 ordered spans) progress.blocks (by simp : 0 + 1 ≤ [itemWidth ordered].length)
    obtain ⟨more, -, -, nextWritten⟩ := foldl_add next
      (itemText 0 ordered spans ++ (inner.texts (itemWidth ordered)).flatMap ('\n' :: ·)) progress.blocks
        (Nat.zero_le within.length)
    have width : totalWidth ([itemWidth ordered].take (0 + 1)) = itemWidth ordered := by
      rw [Nat.zero_add, List.take_one]
      exact Nat.zero_add _
    refine ⟨some more, ?_⟩
    rw [width] at innerWritten
    rw [elements, List.foldl_cons, add_first fresh, List.foldl_append, innerWritten, nextWritten, text, texts, joinWith_cons]
    simp

end Written

section Walked
variable {definitions : Definitions}

private theorem mark_rendered {spans : List Span} (steady : SteadySpans spans) (items : List Inline) :
    Task.mark (Render.spans spans) items = items := by
  rw [Task.mark, steady.startsWithBox_rendered]
  rfl

private theorem run_item {spans : List Span} (steady : SteadySpans spans) {inner : List (Block (List Inline))}
    {more : List Element}
    {kind : Bool} {lists done : List Bool} (elements : List Element)
    (reads : ∀ elements, ({ elements, lists := kind :: lists, itemsDone := true :: done } : Walk).run (Token.ofBlocks inner) =
      { elements := elements ++ more, lists := kind :: lists, itemsDone := true :: done }) :
    ({ elements, lists := kind :: lists, itemsDone := done } : Walk).run
      (Token.framed .item (Token.ofBlocks (.paragraph (Inline.ofText definitions (Render.spans spans)) :: inner))) =
        { elements := elements ++ .listItem kind lists.length spans :: more, lists := kind :: lists, itemsDone := done } := by
  have text : ({ elements, lists := kind :: lists, itemsDone := false :: done } : Walk).run
      (Token.ofBlock (.paragraph (Inline.ofText definitions (Render.spans spans)))) =
        { elements := elements ++ [.listItem kind lists.length spans], lists := kind :: lists, itemsDone := true :: done } := by
    simp [Token.ofBlock, Token.framed, Walk.run, Walk.step, Walk.enter, Walk.content, Walk.leave, Walk.emit,
      steady.pieces_rendered, spansOnly_spans]
  change Walk.run { elements, lists := kind :: lists, itemsDone := false :: done } (_ ++ _) = _
  rw [Token.ofBlocks, List.append_assoc, Walk.run_append, text, Walk.run_append, reads]
  simp [Walk.run, Walk.step, Walk.leave]

theorem run_blocks (outline : Outline) (steady : outline.IsSteady) :
    (∀ elements lists done, ({ elements, lists, itemsDone := done } : Walk).run
      (Token.ofBlocks (RawBlock.resolveAll (Inline.ofText definitions) (outline.blocks none))) =
        { elements := elements ++ outline.elements lists.length, lists, itemsDone := done }) ∧
    ∀ kind elements lists done, ({ elements, lists := kind :: lists, itemsDone := done } : Walk).run
      (Token.ofItems (RawBlock.resolveItems (Inline.ofText definitions) (outline.items kind)) ++
        .closes (.list kind) :: Token.ofBlocks (RawBlock.resolveAll (Inline.ofText definitions) (outline.blocks (some kind)))) =
        { elements := elements ++ outline.elements lists.length, lists, itemsDone := done } := by
  induction outline with
  | nil =>
    constructor
    · intro elements lists done
      simp [blocks, RawBlock.resolveAll, Token.ofBlocks, Walk.run, Outline.elements]
    · intro kind elements lists done
      simp [items, blocks, RawBlock.resolveItems, RawBlock.resolveAll, Token.ofItems, Token.ofBlocks, Walk.run, Walk.step,
        Walk.leave, Outline.elements]
  | item ordered spans inner next ihInner ihNext =>
    obtain ⟨own, innerSteady, nextSteady⟩ := steady
    obtain ⟨innerRead, -⟩ := ihInner innerSteady
    obtain ⟨-, nextRead⟩ := ihNext nextSteady
    -- The item and what follows it, in a list of its kind that is open.
    have listed (before : List Element) (lists done : List Bool) :
        ({ elements := before, lists := ordered :: lists, itemsDone := done } : Walk).run
          (Token.ofItems (RawBlock.resolveItems (Inline.ofText definitions)
            ((.paragraph (Render.spans spans) :: inner.blocks none) :: next.items ordered)) ++
            .closes (.list ordered) :: Token.ofBlocks (RawBlock.resolveAll (Inline.ofText definitions)
              (next.blocks (some ordered)))) =
          { elements := before ++ (item ordered spans inner next).elements lists.length, lists, itemsDone := done } := by
      rw [RawBlock.resolveItems, mark_rendered own.2, Token.ofItems, List.append_assoc, Walk.run_append,
        run_item own.2 before fun elements => innerRead elements (ordered :: lists) (true :: done), nextRead]
      simp [Outline.elements]
    have opened (before : List Element) (lists done : List Bool) {open? : Option Bool} (other : open? ≠ some ordered) :
        ({ elements := before, lists, itemsDone := done } : Walk).run
          (Token.ofBlocks (RawBlock.resolveAll (Inline.ofText definitions) ((item ordered spans inner next).blocks open?))) =
          { elements := before ++ (item ordered spans inner next).elements lists.length, lists, itemsDone := done } := by
      rw [blocks, if_neg other, RawBlock.resolveAll, RawBlock.resolve, Token.ofBlocks, Token.ofBlock, Token.framed,
        List.append_assoc]
      exact listed before lists done
    constructor
    · exact fun elements lists done => opened elements lists done (Option.some_ne_none ordered).symm
    · intro kind elements lists done
      by_cases same : ordered = kind
      · subst same
        rw [items, if_pos rfl, blocks, if_pos rfl]
        exact listed elements lists done
      · rw [items, if_neg same]
        exact opened elements lists done (by simpa using Ne.symm same)

end Walked

end Outline

end DocScribe.Markdown
