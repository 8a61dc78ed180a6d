import DocScribe.Proofs.Markdown.ItemLines

/-! A run of list items, each at the column of the content around it, is read as the lists that it shows. -/

namespace DocScribe.Markdown
open DocScribe BlockStart BlockReader

/-- Items as they are written: the first one, those inside it, and those behind it. -/
inductive Outline where
  | nil
  | item (ordered : Bool) (spans : List Span) (inner next : Outline)

namespace Outline

/-- How deep items lie inside items. -/
def height : Outline → Nat
  | nil => 0
  | item _ _ inner next => max (inner.height + 1) next.height

def IsSteady : Outline → Prop
  | nil => True
  | item _ spans inner next => (spans ≠ [] ∧ SteadySpans spans) ∧ inner.IsSteady ∧ next.IsSteady

/-- The lines of items that start at a column. -/
def lines (column : Nat) : Outline → List Line
  | nil => []
  | item ordered spans inner next =>
    itemLine column ordered spans :: (inner.lines (column + itemWidth ordered) ++ next.lines column)

mutual

/-- The first items, as long as they are of one kind. -/
def items (kind : Bool) : Outline → List (List RawBlock)
  | nil => []
  | item ordered spans inner next =>
    if ordered = kind then (.paragraph (Render.spans spans) :: inner.blocks none) :: next.items kind else []

/-- The lists that items make up, without those that belong to a list of one kind before them. -/
def blocks (open? : Option Bool) : Outline → List RawBlock
  | nil => []
  | item ordered spans inner next =>
    if open? = some ordered then next.blocks open?
    else .list ordered ((.paragraph (Render.spans spans) :: inner.blocks none) :: next.items ordered) ::
      next.blocks (some ordered)

end

/-- The items behind those that belong to a list before them. -/
def behind (open? : Option Bool) : Outline → Outline
  | nil => nil
  | item ordered spans inner next => if open? = some ordered then next.behind open? else item ordered spans inner next

/-- The lines that are left when only these items and what follows them are. -/
def left (column : Nat) (after end' : List Line) : Outline → List Line
  | nil => end'
  | item ordered spans inner next => (item ordered spans inner next).lines column ++ after

/-- The kind of the first item. -/
def first? : Outline → Option Bool
  | nil => none
  | item ordered .. => some ordered

end Outline

/-- What may follow the last of some items, and what is left of it behind them: an empty line belongs to the
item above it. -/
inductive Follows (column : Nat) : List Line → List Line → Prop
  | nothing : Follows column [] []
  | item {outer ordered spans rest} (left : outer < column) (steady : spans ≠ [] ∧ SteadySpans spans) :
      Follows column (itemLine outer ordered spans :: rest) (itemLine outer ordered spans :: rest)
  | block {line rest} (some : line.isEmpty = false) (atStart : line.indent = 0) (noItem : itemMark? line.content = none) :
      Follows column (Line.ofChars [] :: line :: rest) (line :: rest)

/-- What ends a paragraph in an item. -/
inductive EndsParagraph (margin : Margin) : List Line → Prop
  | apart {rest} (apart : rest.head?.all Line.isEmpty = true) : EndsParagraph margin rest
  | item {column ordered spans rest} (admits : margin.Admits column) (steady : spans ≠ [] ∧ SteadySpans spans) :
      EndsParagraph margin (itemLine column ordered spans :: rest)

namespace EndsParagraph
variable {margin : Margin} {rest : List Line}

private theorem noTable (ends : EndsParagraph margin rest) (other : Margin) (line : Line) : tableHeader? other (line :: rest) = none := by
  cases ends with
  | apart apart => exact tableHeader?_apart apart
  | item => exact tableHeader?_itemLine line

private theorem noLine (ends : EndsParagraph margin rest) : underlined? margin rest = none := by
  cases ends with
  | apart apart => exact underlined?_apart apart
  | item admits steady => exact underlined?_itemLine steady.1 steady.2 admits

private theorem paragraphLines (ends : EndsParagraph margin rest) : paragraphLines margin rest = 0 := by
  cases ends with
  | apart apart => exact paragraphLines_apart apart
  | item admits steady => exact paragraphLines_itemLine steady.1 steady.2 admits

end EndsParagraph

namespace Follows
variable {column : Nat} {margin : Margin} {after left : List Line}

private theorem inside (follows : Follows column after left) (width : Nat) : Follows (column + width) after left := by
  cases follows with
  | nothing => exact .nothing
  | item left steady => exact .item (Nat.lt_of_lt_of_le left (Nat.le_add_right ..)) steady
  | block some atStart noItem => exact .block some atStart noItem

private theorem skipGap_after (follows : Follows column after left) : skipGap after = left := by
  cases follows with
  | nothing => rfl
  | item left steady => exact skipGap_filled (isEmpty_itemLine ..)
  | block some atStart noItem => exact skipGap_empty rfl

private theorem skipGap_left (follows : Follows column after left) : skipGap left = left := by
  cases follows with
  | nothing => rfl
  | item left steady => exact skipGap_filled (isEmpty_itemLine ..)
  | block some atStart noItem => exact skipGap_filled some

private theorem endsParagraph {ordered : Bool} (follows : Follows (column + itemWidth ordered) after left) :
    EndsParagraph (itemMargin column ordered) after := by
  cases follows with
  | nothing => exact .apart rfl
  | item left steady => exact .item (admits_itemMargin (Nat.le_of_lt left)) steady
  | block some atStart noItem => exact .apart rfl

/-- Nothing inside an item is read from what is left behind it. -/
theorem yields_left {insideQuote insideItem : ReadInside} (follows : Follows column after left) (place : margin.indent = column)
    (positive : 0 < column) : Yields insideQuote insideItem margin left [] left := by
  cases follows with
  | nothing => exact yields_nil
  | item left steady =>
    refine yields_outside (isEmpty_itemLine ..) ?_
    simpa [Line.isOutside, itemLine, place] using left
  | block some atStart noItem =>
    refine yields_outside some ?_
    simpa [Line.isOutside, atStart, place] using positive

end Follows

/-- The mark of the next item of a list, when the lines that are left start with one. -/
def nextMark? (margin : Margin) (mark : ItemMark) : List Line → Option ItemMark
  | [] => none
  | line :: _ =>
    if line.isOutside margin || line.isDeep margin || interruptsList margin line then none
    else (itemMark? line.content).filter fun next => next.ordered == mark.ordered && next.sign == mark.sign

/-- The items of a list that are read from lines, and the lines that are left behind them. -/
def Itemizes (inside : ReadInside) (margin : Margin) (mark : ItemMark) (lines : List Line) (items : List (List RawBlock))
    (left : List Line) : Prop :=
  ∃ taken, lines.drop (taken + 1) = left ∧ ∀ fuel definitions, lines.length ≤ fuel →
    listItems inside margin fuel mark lines definitions = (items, definitions, taken + 1)

section Itemizes
variable {inside : ReadInside} {margin inner : Margin} {mark : ItemMark} {line first : Line} {rest left : List Line}
  {blocks : List RawBlock}

/-- The content of an item, and the lines that are left behind it. -/
def ReadsItem (inside : ReadInside) (margin : Margin) (lines : List Line) (blocks : List RawBlock) (left : List Line) : Prop :=
  ∃ taken, lines.tail.drop taken = left ∧ ∀ definitions, inside margin lines definitions = ⟨blocks, definitions, taken + 1⟩

private theorem listItems_item (opened : openItem margin mark line = (first, inner)) (some : first.isEmpty = false) {taken : Nat}
    {definitions : Definitions} (reads : inside inner (first :: rest) definitions = ⟨blocks, definitions, taken + 1⟩) (fuel : Nat) :
    listItems inside margin (fuel + 1) mark (line :: rest) definitions =
      match nextMark? margin mark (rest.drop taken) with
      | none => ([blocks], definitions, taken + 1)
      | .some next =>
        let (items, definitions, more) := listItems inside margin fuel next (rest.drop taken) definitions
        (blocks :: items, definitions, taken + 1 + more) := by
  simp only [listItems, opened, some, Bool.false_and, Bool.false_eq_true, ↓reduceIte, reads, List.drop_succ_cons]
  rfl

theorem Itemizes.last (opened : openItem margin mark line = (first, inner)) (some : first.isEmpty = false)
    (reads : ReadsItem inside inner (first :: rest) blocks left) (stops : nextMark? margin mark left = none) :
    Itemizes inside margin mark (line :: rest) [blocks] left := by
  obtain ⟨taken, behind, reads⟩ := reads
  rw [List.tail_cons] at behind
  refine ⟨taken, by rwa [List.drop_succ_cons], fun fuel definitions enough => ?_⟩
  cases fuel with
  | zero => exact absurd enough (Nat.not_succ_le_zero _)
  | succ fuel => rw [listItems_item opened some (reads definitions), behind, stops]

theorem Itemizes.next {items : List (List RawBlock)} {end' : List Line} {other : ItemMark}
    (opened : openItem margin mark line = (first, inner)) (some : first.isEmpty = false)
    (reads : ReadsItem inside inner (first :: rest) blocks left) (goes : nextMark? margin mark left = .some other)
    (later : Itemizes inside margin other left items end') :
    Itemizes inside margin mark (line :: rest) (blocks :: items) end' := by
  obtain ⟨taken, behind, reads⟩ := reads
  obtain ⟨more, ends, later⟩ := later
  rw [List.tail_cons] at behind
  refine ⟨taken + (more + 1), ?_, fun fuel definitions enough => ?_⟩
  · rw [List.drop_succ_cons, ← List.drop_drop, behind, ends]
  · cases fuel with
    | zero => exact absurd enough (Nat.not_succ_le_zero _)
    | succ fuel =>
      have fits : left.length ≤ fuel := by
        rw [← behind, List.length_drop]
        simp only [List.length_cons] at enough
        omega
      rw [listItems_item opened some (reads definitions), behind, goes]
      simp only [later fuel definitions fits]
      congr 2
      omega

end Itemizes

namespace Outline
variable {column : Nat} {after end' : List Line}

theorem behind_none (outline : Outline) : outline.behind none = outline := by
  cases outline <;> rfl

theorem left_of_ne_nil {outline : Outline} (filled : outline ≠ nil) :
    outline.left column after end' = outline.lines column ++ after := by
  cases outline with
  | nil => exact absurd rfl filled
  | item => rfl

private theorem skipGap_lines {outline : Outline} (steady : outline.IsSteady) (follows : Follows column after end') :
    skipGap (outline.lines column ++ after) = outline.left column after end' := by
  cases outline with
  | nil => exact follows.skipGap_after
  | item => exact skipGap_filled (isEmpty_itemLine ..)

private theorem skipGap_left (outline : Outline) (follows : Follows column after end') :
    skipGap (outline.left column after end') = outline.left column after end' := by
  cases outline with
  | nil => exact follows.skipGap_left
  | item => exact skipGap_filled (isEmpty_itemLine ..)

/-- The items behind an item follow what is inside it. -/
theorem follows_next {outline : Outline} (steady : outline.IsSteady) (follows : Follows column after end') {width : Nat} (positive : 0 < width) :
    Follows (column + width) (outline.lines column ++ after) (outline.left column after end') := by
  cases outline with
  | nil => exact follows.inside width
  | item => exact .item (Nat.lt_add_of_pos_right positive) steady.1

private theorem endsParagraph_inner {outline : Outline} (steady : outline.IsSteady) {ordered : Bool}
    (follows : Follows (column + itemWidth ordered) after end') :
    EndsParagraph (itemMargin column ordered) (outline.lines (column + itemWidth ordered) ++ after) := by
  cases outline with
  | nil => exact follows.endsParagraph
  | item => exact .item (admits_itemMargin (Nat.le_refl _)) steady.1

private theorem nextMark?_left {outline : Outline} (steady : outline.IsSteady) {margin : Margin} (place : margin.indent = column)
    (admits : margin.Admits column) (follows : Follows column after end') (kind : Bool) :
    nextMark? margin (markOf kind) (outline.left column after end') =
      if outline.first? = some kind then some (markOf kind) else none := by
  cases outline with
  | nil =>
    cases follows with
    | nothing => rfl
    | item left steady => simp [Outline.left, first?, nextMark?, Line.isOutside, itemLine, place, left]
    | block some atStart noItem => simp [Outline.left, first?, nextMark?, noItem]
  | item ordered spans inner next =>
    have inside : (itemLine column ordered spans).isOutside margin = false := by
      simp [Line.isOutside, itemLine, place]
    have same : ((markOf ordered).ordered == (markOf kind).ordered && (markOf ordered).sign == (markOf kind).sign) =
        decide (ordered = kind) := by
      cases ordered <;> cases kind <;> rfl
    simp only [Outline.left, lines, List.cons_append, nextMark?, inside, isDeep_itemLine admits,
      interruptsList_itemLine steady.1.1 steady.1.2, itemMark?_itemLine, Option.filter, same]
    by_cases same : ordered = kind <;> simp [same, first?]

variable {nesting : Nat} {insideQuote : ReadInside} {margin : Margin}

private theorem filled_openedLine (column : Nat) (ordered : Bool) {spans : List Span} (own : spans ≠ [] ∧ SteadySpans spans) :
    (openedLine column ordered spans).isEmpty = false := by
  rw [Line.isEmpty, content_openedLine]
  exact List.isEmpty_eq_false_iff.mpr (own.2.rendered_ne_nil own.1)

private theorem readsItem {ordered : Bool} {spans : List Span} {inner : Outline} (some : spans ≠ []) (steady : SteadySpans spans)
    (innerSteady : inner.IsSteady) (follows : Follows (column + itemWidth ordered) after end')
    (reads : Yields (read (2 * nesting + 1)) (read (2 * nesting)) (itemMargin column ordered)
      (inner.left (column + itemWidth ordered) after end') (inner.blocks none) end') :
    ReadsItem (read (2 * (nesting + 1))) (itemMargin column ordered)
      (openedLine column ordered spans :: (inner.lines (column + itemWidth ordered) ++ after))
      (.paragraph (Render.spans spans) :: inner.blocks none) end' := by
  have ends := endsParagraph_inner innerSteady follows
  have content := content_openedLine column ordered spans
  obtain ⟨unmarked, noHeading⟩ := steady.isUnmarked_rendered some
  have inside : (openedLine column ordered spans).isOutside (itemMargin column ordered) = false := by
    simp [Line.isOutside, openedLine, itemMargin]
  have shallow : (openedLine column ordered spans).isDeep (itemMargin column ordered) = false := by
    simp [Line.isDeep, openedLine, itemMargin]
  rw [← content] at unmarked noHeading
  have cut : (openedLine column ordered spans).cut (itemMargin column ordered).indent.toNat = Render.spans spans :=
    cut_openedLine column ordered spans
  have paragraph (definitions : Definitions) : blockAt (read (2 * nesting + 1)) (read (2 * nesting)) (itemMargin column ordered)
      (openedLine column ordered spans :: (inner.lines (column + itemWidth ordered) ++ after)) definitions =
        found (.paragraph (Render.spans spans)) definitions 1 := by
    rw [blockAt_paragraph unmarked noHeading shallow (ends.noTable _ _) ends.noLine ends.paragraphLines, cut, steady.trimmed_rendered]
  rw [← skipGap_lines innerSteady follows] at reads
  obtain ⟨taken, behind, run⟩ := blocksFrom_after (filled_openedLine column ordered ⟨some, steady⟩) inside paragraph reads
  exact ⟨taken, behind, fun definitions => run _ definitions (Nat.lt_succ_self _)⟩

section Item
variable {inside : ReadInside} {ordered : Bool} {spans : List Span} {inner next : Outline}

/-- An item is the first of a list, to which the items behind it belong as long as they are of its kind. -/
theorem itemizes_item (own : spans ≠ [] ∧ SteadySpans spans) (nextSteady : next.IsSteady) (place : margin.indent = column)
    (admits : margin.Admits column) (follows : Follows column after end')
    (content : ReadsItem inside (itemMargin column ordered)
      (openedLine column ordered spans :: (inner.lines (column + itemWidth ordered) ++ (next.lines column ++ after)))
      (.paragraph (Render.spans spans) :: inner.blocks none) (next.left column after end'))
    (others : ∀ kind, next.first? = some kind → Itemizes inside margin (markOf kind) (next.lines column ++ after)
      (next.items kind) ((next.behind (some kind)).left column after end')) :
    Itemizes inside margin (markOf ordered) ((item ordered spans inner next).lines column ++ after)
      ((item ordered spans inner next).items ordered) ((next.behind (some ordered)).left column after end') := by
  have opened : openItem margin (markOf ordered) (itemLine column ordered spans) =
      (openedLine column ordered spans, itemMargin column ordered) := by
    rw [openItem_itemLine own.1 own.2, place]
    rfl
  have filled := filled_openedLine column ordered own
  have marks := nextMark?_left nextSteady place admits follows ordered
  rw [lines, List.cons_append, List.append_assoc, items, if_pos rfl]
  cases next with
  | nil => exact .last opened filled content marks
  | item other nextSpans nextInner later =>
    by_cases same : other = ordered
    · subst same
      rw [behind, if_pos rfl]
      refine .next opened filled content (by simpa [first?] using marks) ?_
      have firsts := others other rfl
      rwa [behind, if_pos rfl] at firsts
    · have apart : some ordered ≠ some other := by simpa using Ne.symm same
      rw [behind, if_neg apart, items, if_neg same]
      exact .last opened filled content (by simpa [first?, same] using marks)

/-- The list that an item starts is read from its lines, in front of what is read behind the list. -/
theorem yields_item (own : spans ≠ [] ∧ SteadySpans spans) (place : margin.indent = column) (admits : margin.Admits column)
    (follows : Follows column after end') {around : Margin}
    (ends : EndsParagraph around (inner.lines (column + itemWidth ordered) ++ (next.lines column ++ after)))
    (itemized : Itemizes inside margin (markOf ordered) ((item ordered spans inner next).lines column ++ after)
      ((item ordered spans inner next).items ordered) ((next.behind (some ordered)).left column after end'))
    {others : List RawBlock} {left : List Line}
    (rest : Yields insideQuote inside margin ((next.behind (some ordered)).left column after end') others left) :
    Yields insideQuote inside margin ((item ordered spans inner next).lines column ++ after)
      (.list ordered ((item ordered spans inner next).items ordered) :: others) left := by
  have within : (itemLine column ordered spans).isOutside margin = false := by
    simp [Line.isOutside, itemLine, place]
  obtain ⟨taken, stops, listed⟩ := itemized
  rw [lines, List.cons_append, List.append_assoc] at stops listed ⊢
  rw [List.drop_succ_cons] at stops
  rw [← skipGap_left (next.behind (some ordered)) follows, ← stops] at rest
  have first (definitions : Definitions) : blockAt insideQuote inside margin
      (itemLine column ordered spans :: (inner.lines (column + itemWidth ordered) ++ (next.lines column ++ after))) definitions =
        found (.list ordered ((item ordered spans inner next).items ordered)) definitions (taken + 1) :=
    blockAt_itemLine own.1 own.2 admits (ends.noTable margin _) (listed _ definitions (Nat.le_refl _))
  exact Yields.after (isEmpty_itemLine ..) within first rest

end Item

/-- The lists that items make up are read from their lines, and so are the items of the first list. -/
theorem yields_lines (outline : Outline) : ∀ {nesting column : Nat} {margin : Margin} {after end' : List Line},
    outline.height ≤ nesting → outline.IsSteady → margin.indent = column → margin.Admits column → Follows column after end' →
    (∀ kind, outline.first? = some kind →
      Itemizes (read (2 * nesting)) margin (markOf kind) (outline.lines column ++ after) (outline.items kind)
        ((outline.behind (some kind)).left column after end')) ∧
    ∀ insideQuote open? more left, Yields insideQuote (read (2 * nesting)) margin end' more left →
      Yields insideQuote (read (2 * nesting)) margin ((outline.behind open?).left column after end')
        (outline.blocks open? ++ more) left := by
  induction outline with
  | nil =>
    intro nesting column margin after end' fits steady place admits follows
    constructor
    · intro kind same
      cases same
    intro insideQuote open? more left later
    simpa [behind, Outline.left, blocks] using later
  | item ordered spans inner next ihInner ihNext =>
    intro nesting column margin after end' fits steady place admits follows
    obtain ⟨own, innerSteady, nextSteady⟩ := steady
    have deeper : inner.height + 1 ≤ nesting ∧ next.height ≤ nesting := Nat.max_le.mp fits
    obtain ⟨nesting, rfl⟩ : ∃ more, nesting = more + 1 := ⟨nesting - 1, by omega⟩
    -- The content of the item ends where the next item starts, or with the items.
    have around := follows_next nextSteady follows (itemWidth_pos ordered)
    have innerRead := (ihInner (by omega : inner.height ≤ nesting) innerSteady rfl (admits_itemMargin (Nat.le_refl _)) around).2
      (read (2 * nesting + 1)) none [] _ (around.yields_left rfl (Nat.add_pos_right column (itemWidth_pos ordered)))
    rw [List.append_nil, behind_none] at innerRead
    have content := readsItem own.1 own.2 innerSteady around innerRead
    have nextRead := ihNext deeper.2 nextSteady place admits follows
    have itemized := itemizes_item own nextSteady place admits follows content nextRead.1
    constructor
    · intro kind same
      obtain rfl := Option.some.inj same
      simpa [behind] using itemized
    · intro insideQuote open? more left later
      by_cases same : open? = some ordered
      · simpa [behind, blocks, same] using nextRead.2 insideQuote (some ordered) more left later
      · have others := nextRead.2 insideQuote (some ordered) more left later
        rw [behind, if_neg same, blocks, if_neg same, Outline.left]
        have whole := yields_item own place admits follows (endsParagraph_inner innerSteady around) itemized others
        rwa [items, if_pos rfl] at whole

end Outline

end DocScribe.Markdown
