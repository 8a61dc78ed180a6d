import DocScribe.Proofs.Markdown.OutlineText
import DocScribe.Proofs.Markdown.TableText
import DocScribe.Proofs.Markdown.TreeMeaning

/-! The walk over the tokens of blocks comes to what the blocks mean, and ends with all that it remembers as it was. A
recursion over the blocks stands between the two. -/

namespace DocScribe.Markdown
open DocScribe

/-- A table without its empty rows, unless nothing is left. -/
def readTable (rows : List (List (List Inline))) : List Element :=
  let filled := (rows.filter (· ≠ [])).map (·.map fun cell => spansOnly (Piece.ofInline cell))
  if filled = [] then [] else [.table filled]

mutual

/-- The elements of a block inside so many lists. `turn` is the kind of the innermost list as long as its item has no
text yet: the next paragraph becomes that text. -/
def readBlock (lists : Nat) (turn : Option Bool) : Block (List Inline) → List Element
  | .paragraph items => match turn with
    | some ordered => [.listItem ordered ((lists : Int) - 1) (spansOnly (Piece.ofInline items))]
    | none => paragraphElements (Piece.ofInline items)
  | .heading level items => [.heading level (spansOnly (Piece.ofInline items))]
  | .list ordered items => readItems lists ordered items
  | .quote blocks => readBlocks lists turn blocks
  | .table rows => readTable rows
  | .code text => [.codeBlock (Walk.codeText text)]
  | .rule => [.rule]
  | .html source => Walk.htmlElement source

def readBlocks (lists : Nat) (turn : Option Bool) : List (Block (List Inline)) → List Element
  | [] => []
  | block :: blocks => readBlock lists turn block ++ readBlocks lists (if block.speaks then none else turn) blocks

/-- Each item is read inside one more list, and has a turn of its own. -/
def readItems (lists : Nat) (ordered : Bool) : List (List (Block (List Inline))) → List Element
  | [] => []
  | item :: items => readBlocks (lists + 1) (some ordered) item ++ readItems lists ordered items

end

section Meaning

private theorem tableShows_iff (rows : List (List (List Inline))) (elements : List Element) : TableShows rows elements ↔ elements = readTable rows := by
  have cells (shown : List (List (List Span))) : List.Forall₂ (List.Forall₂ TextShows) (rows.filter (· ≠ [])) shown ↔
      shown = (rows.filter (· ≠ [])).map (·.map fun cell => spansOnly (Piece.ofInline cell)) :=
    forall₂_iff_map (fun row => forall₂_iff_map textShows_iff row) _ shown
  have none : (rows.filter (· ≠ [])).map (·.map fun cell => spansOnly (Piece.ofInline cell)) = [] ↔ ∀ row ∈ rows, row = [] := by
    simp
  rw [readTable]
  constructor
  · rintro (empty | ⟨⟨row, among, some⟩, shown⟩)
    · rw [if_pos (none.mpr empty)]
    · rw [if_neg fun empty => some (none.mp empty row among), (cells _).mp shown]
  · rintro rfl
    split
    next empty => exact .empty (none.mp empty)
    next some =>
      have filled : ∃ row ∈ rows, row ≠ [] := by simpa using mt none.mpr some
      exact .filled filled ((cells _).mpr rfl)

mutual

theorem blockReads_iff (block : Block (List Inline)) (lists : Nat) (turn : Option Bool) (elements : List Element) :
    BlockReads lists turn block elements ↔ elements = readBlock lists turn block := by
  cases block with
  | paragraph items =>
    cases turn with
    | none =>
      rw [readBlock, ← contentShows_iff]
      exact ⟨fun | .paragraph shows => shows, .paragraph⟩
    | some ordered =>
      constructor
      · intro reads
        cases reads with
        | text shows => rw [readBlock, (textShows_iff _ _).mp shows]
      · rintro rfl
        exact .text ((textShows_iff _ _).mpr rfl)
  | heading level items =>
    constructor
    · intro reads
      cases reads with
      | heading shows => rw [readBlock, (textShows_iff _ _).mp shows]
    · rintro rfl
      exact .heading ((textShows_iff _ _).mpr rfl)
  | list ordered items =>
    rw [readBlock, ← itemsRead_iff items]
    exact ⟨fun | .list inside => inside, .list⟩
  | quote blocks =>
    rw [readBlock, ← blocksRead_iff blocks]
    exact ⟨fun | .quote inside => inside, .quote⟩
  | table rows =>
    rw [readBlock, ← tableShows_iff]
    exact ⟨fun | .table shows => shows, .table⟩
  | code text =>
    constructor
    · intro reads
      cases reads with
      | code shows => rw [readBlock, (codeShows_iff _ _).mp shows]
    · rintro rfl
      exact .code ((codeShows_iff _ _).mpr rfl)
  | rule =>
    constructor
    · rintro ⟨⟩
      rfl
    · rintro rfl
      exact .rule
  | html source =>
    rw [readBlock, ← htmlShows_iff]
    exact ⟨fun | .html shows => shows, .html⟩
termination_by structural block

private theorem blocksRead_iff (blocks : List (Block (List Inline))) (lists : Nat) (turn : Option Bool) (elements : List Element) :
    BlocksRead lists turn blocks elements ↔ elements = readBlocks lists turn blocks := by
  cases blocks with
  | nil =>
    constructor
    · rintro ⟨⟩
      rfl
    · rintro rfl
      exact .nil
  | cons block blocks =>
    constructor
    · intro reads
      cases reads with
      | cons first behind => rw [(blockReads_iff block _ _ _).mp first, (blocksRead_iff blocks _ _ _).mp behind, readBlocks]
    · rintro rfl
      exact .cons ((blockReads_iff block _ _ _).mpr rfl) ((blocksRead_iff blocks _ _ _).mpr rfl)
termination_by structural blocks

theorem itemsRead_iff (items : List (List (Block (List Inline)))) (lists : Nat) (ordered : Bool) (elements : List Element) :
    ItemsRead lists ordered items elements ↔ elements = readItems lists ordered items := by
  cases items with
  | nil =>
    constructor
    · rintro ⟨⟩
      rfl
    · rintro rfl
      exact .nil
  | cons item items =>
    constructor
    · intro reads
      cases reads with
      | cons first behind => rw [(blocksRead_iff item _ _ _).mp first, (itemsRead_iff items _ _ _).mp behind, readItems]
    · rintro rfl
      exact .cons ((blocksRead_iff item _ _ _).mpr rfl) ((itemsRead_iff items _ _ _).mpr rfl)
termination_by structural items

end

end Meaning

/-- The text of an item inside so many other lists. -/
def Element.isItemAt (depth : Int) : Element → Bool
  | .listItem _ own _ => own == depth
  | _ => false

section Turns
variable {lists done : List Bool}

def turnOf : (lists done : List Bool) → Option Bool
  | ordered :: _, false :: _ => some ordered
  | _, _ => none

/-- Paragraphs use up a turn. -/
def afterSaid (said : Bool) (lists done : List Bool) : List Bool :=
  if said ∧ (turnOf lists done).isSome then true :: done.tail else done

theorem afterSaid_silent (lists done : List Bool) : afterSaid false lists done = done := by
  rw [afterSaid, if_neg]
  simp

private theorem turnOf_afterSaid (said : Bool) (lists done : List Bool) :
    turnOf lists (afterSaid said lists done) = if said then none else turnOf lists done := by
  cases said with
  | false => rw [afterSaid_silent, if_neg Bool.false_ne_true]
  | true =>
    rw [if_pos rfl]
    cases turn : turnOf lists done with
    | none => simp [afterSaid, turn]
    | some =>
      rw [afterSaid, turn]
      cases lists <;> rfl

private theorem afterSaid_or (first second : Bool) (lists done : List Bool) :
    afterSaid (first || second) lists done = afterSaid second lists (afterSaid first lists done) := by
  cases first with
  | false => rw [afterSaid_silent, Bool.false_or]
  | true =>
    have used : turnOf lists (afterSaid true lists done) = none := turnOf_afterSaid true lists done
    rw [Bool.true_or, afterSaid.eq_def second, used]
    simp

private theorem afterSaid_tail (said ordered : Bool) (lists done : List Bool) :
    (afterSaid said (ordered :: lists) (false :: done)).tail = done := by
  cases said <;> rfl

end Turns

namespace Walk

private theorem tableElement_rows (rows : List (List (List Inline))) :
    tableElement (rows.map (·.map fun cell => spansOnly (Piece.ofInline cell))) = readTable rows := by
  have filled : (rows.map (·.map fun cell => spansOnly (Piece.ofInline cell))).filter (!·.isEmpty) =
      (rows.filter (· ≠ [])).map (·.map fun cell => spansOnly (Piece.ofInline cell)) := by
    rw [List.filter_map]
    congr 2
    funext row
    cases row <;> rfl
  rw [tableElement, filled, readTable]
  split
  · rename_i empty
    rw [if_pos empty]
  · rename_i some
    rw [if_neg some]

private theorem run_content (items : List Inline) (elements : List Element) (lists done : List Bool) :
    ({ elements, lists, itemsDone := done } : Walk).content items =
      { elements := elements ++ readBlock lists.length (turnOf lists done) (.paragraph items), lists,
        itemsDone := afterSaid true lists done } := by
  cases lists with
  | nil => rfl
  | cons ordered lists =>
    rcases done with _ | ⟨_ | _, done⟩
    · rfl
    · simp [content, emit, readBlock, turnOf, afterSaid]
    · rfl

private theorem run_table (rows : List (List (List Inline))) (elements : List Element) (lists done : List Bool) :
    ({ elements, lists, itemsDone := done } : Walk).run (Token.ofBlock (.table rows)) =
      { elements := elements ++ readTable rows, lists, itemsDone := done } := by
  rw [Token.ofBlock, run_framed, ← tableElement_rows]
  exact congrArg (leave .table) (run_rows elements lists done [] rows)

/-- An item takes its turn with it. -/
theorem run_item {item : List (Block (List Inline))} {elements more : List Element} {ordered said : Bool} {lists done : List Bool}
    (inside : ({ elements, lists := ordered :: lists, itemsDone := false :: done } : Walk).run (Token.ofBlocks item) =
      { elements := more, lists := ordered :: lists, itemsDone := afterSaid said (ordered :: lists) (false :: done) }) :
    ({ elements, lists := ordered :: lists, itemsDone := done } : Walk).run (Token.framed .item (Token.ofBlocks item)) =
      { elements := more, lists := ordered :: lists, itemsDone := done } := by
  rw [run_framed]
  refine (congrArg (leave .item) inside).trans ?_
  simp only [leave, afterSaid_tail]

mutual

theorem run_block (block : Block (List Inline)) (elements : List Element) (lists done : List Bool) :
    ({ elements, lists, itemsDone := done } : Walk).run (Token.ofBlock block) =
      { elements := elements ++ readBlock lists.length (turnOf lists done) block, lists,
        itemsDone := afterSaid block.speaks lists done } := by
  cases block with
  | paragraph items => exact run_content items elements lists done
  | heading level items =>
    rw [Block.speaks, afterSaid_silent, readBlock]
    rfl
  | list ordered items =>
    have inside := run_items items elements ordered lists done
    rw [Token.ofBlock, run_framed, Block.speaks, afterSaid_silent, readBlock]
    exact congrArg (leave (.list ordered)) inside
  | quote blocks =>
    rw [Token.ofBlock, run_framed, Block.speaks, readBlock]
    exact run_blocks blocks elements lists done
  | table rows =>
    rw [Block.speaks, afterSaid_silent, readBlock]
    exact run_table rows elements lists done
  | code text =>
    rw [Block.speaks, afterSaid_silent, readBlock]
    rfl
  | rule =>
    rw [Block.speaks, afterSaid_silent, readBlock]
    rfl
  | html source =>
    rw [Block.speaks, afterSaid_silent, readBlock]
    rfl
termination_by structural block

private theorem run_blocks (blocks : List (Block (List Inline))) (elements : List Element) (lists done : List Bool) :
    ({ elements, lists, itemsDone := done } : Walk).run (Token.ofBlocks blocks) =
      { elements := elements ++ readBlocks lists.length (turnOf lists done) blocks, lists,
        itemsDone := afterSaid (Block.anySpeaks blocks) lists done } := by
  cases blocks with
  | nil =>
    rw [readBlocks, Block.anySpeaks, afterSaid_silent, List.append_nil]
    rfl
  | cons block blocks =>
    rw [Token.ofBlocks, run_append, run_block block, run_blocks blocks, turnOf_afterSaid, ← afterSaid_or, List.append_assoc,
      readBlocks, Block.anySpeaks]
termination_by structural blocks

theorem run_items (items : List (List (Block (List Inline)))) (elements : List Element) (ordered : Bool)
    (lists done : List Bool) :
    ({ elements, lists := ordered :: lists, itemsDone := done } : Walk).run (Token.ofItems items) =
      { elements := elements ++ readItems lists.length ordered items, lists := ordered :: lists, itemsDone := done } := by
  cases items with
  | nil =>
    rw [readItems, List.append_nil]
    rfl
  | cons item items =>
    have own := run_item (run_blocks item elements (ordered :: lists) (false :: done))
    rw [Token.ofItems, run_append, own, run_items items, readItems, List.append_assoc]
    rfl
termination_by structural items

end

end Walk

theorem parse_eq_readBlocks (text : String) : parse text = readBlocks 0 none (Block.ofText text.toList) :=
  congrArg Walk.elements (Walk.run_blocks (Block.ofText text.toList) [] [] [])

section Items

theorem mem_splitAtImages {element : Element} {segment : List Span} {pieces : List Piece} (among : element ∈ splitAtImages segment pieces) :
    (∃ spans, element = .paragraph spans) ∨ ∃ source isRemote alt, element = .image source isRemote alt := by
  have own {segment : List Span} (among : element ∈ segmentElement segment) : ∃ spans, element = .paragraph spans := by
    unfold segmentElement at among
    split at among
    · cases among
    · exact ⟨_, List.mem_singleton.mp among⟩
  induction pieces generalizing segment with
  | nil => exact .inl (own among)
  | cons piece pieces ih =>
    cases piece with
    | span => exact ih among
    | image =>
      rcases List.mem_append.mp among with here | later
      · exact .inl (own here)
      · rcases List.mem_cons.mp later with rfl | behind
        · exact .inr ⟨_, _, _, rfl⟩
        · exact ih behind

private theorem splitAtImages_items {depth : Int} (segment : List Span) (pieces : List Piece) :
    (splitAtImages segment pieces).countP (Element.isItemAt depth) = 0 := by
  apply List.countP_eq_zero.mpr
  intro element among
  rcases mem_splitAtImages among with ⟨_, rfl⟩ | ⟨_, _, _, rfl⟩ <;> exact Bool.false_ne_true

/-- How often paragraphs become the text of an item. -/
def textsOf (said : Bool) (lists : Nat) (turn : Option Bool) (depth : Int) : Nat :=
  if said ∧ turn.isSome ∧ depth = (lists : Int) - 1 then 1 else 0

private theorem textsOf_or (first second : Bool) (lists : Nat) (turn : Option Bool) (depth : Int) :
    textsOf (first || second) lists turn depth =
      textsOf first lists turn depth + textsOf second lists (if first then none else turn) depth := by
  cases first <;> simp [textsOf]

mutual

theorem readBlock_items (block : Block (List Inline)) {lists : Nat} {depth : Int} (outer : depth < lists) (turn : Option Bool) :
    (readBlock lists turn block).countP (Element.isItemAt depth) = textsOf block.speaks lists turn depth := by
  cases block with
  | paragraph items =>
    rw [Block.speaks, textsOf]
    cases turn with
    | none =>
      rw [readBlock, if_neg (by simp)]
      exact splitAtImages_items [] (Piece.ofInline items)
    | some ordered =>
      rw [readBlock]
      by_cases own : depth = (lists : Int) - 1
      · simp [Element.isItemAt, own]
      · simp [Element.isItemAt, own, Ne.symm own]
  | heading level items =>
    rw [readBlock, Block.speaks]
    rfl
  | list ordered items =>
    rw [readBlock, Block.speaks, readItems_items items outer]
    rfl
  | quote blocks =>
    rw [readBlock, Block.speaks]
    exact readBlocks_items blocks outer turn
  | table rows =>
    rw [readBlock, Block.speaks, readTable]
    split <;> rfl
  | code text =>
    rw [readBlock, Block.speaks]
    rfl
  | rule =>
    rw [readBlock, Block.speaks]
    rfl
  | html source =>
    rw [readBlock, Block.speaks, Walk.htmlElement]
    split <;> rfl
termination_by structural block

private theorem readBlocks_items (blocks : List (Block (List Inline))) {lists : Nat} {depth : Int} (outer : depth < lists) (turn : Option Bool) :
    (readBlocks lists turn blocks).countP (Element.isItemAt depth) = textsOf (Block.anySpeaks blocks) lists turn depth := by
  cases blocks with
  | nil =>
    rw [readBlocks, Block.anySpeaks]
    rfl
  | cons block blocks =>
    rw [readBlocks, Block.anySpeaks, List.countP_append, readBlock_items block outer, readBlocks_items blocks outer, textsOf_or]
termination_by structural blocks

/-- The items of a list are inside it, and so further in than any item around it. -/
theorem readItems_items (items : List (List (Block (List Inline)))) {lists : Nat} {depth : Int} (outer : depth < lists) (ordered : Bool) :
    (readItems lists ordered items).countP (Element.isItemAt depth) = 0 := by
  cases items with
  | nil =>
    rw [readItems]
    rfl
  | cons item items =>
    have inner : textsOf (Block.anySpeaks item) (lists + 1) (some ordered) depth = 0 := by
      rw [textsOf, if_neg]
      omega
    rw [readItems, List.countP_append, readBlocks_items item (by omega), inner, readItems_items items outer]
termination_by structural items

end

end Items

/-- The walk ends with what the blocks of a forest mean, and nothing else; so it does for an item in any list, and goes on from
there as it came. An item has one text if a paragraph stands in it and in no item inside, and otherwise none. -/
theorem Walk.run_forest (blocks : List (Block (List Inline))) :
    (∃ read, ({} : Walk).run (Token.ofBlocks blocks) = { elements := read } ∧
      ∀ other, BlocksRead 0 none blocks other ↔ other = read) ∧
    ∀ (elements : List Element) (ordered : Bool) (lists done : List Bool), ∃ read,
      ({ elements, lists := ordered :: lists, itemsDone := done } : Walk).run (Token.framed .item (Token.ofBlocks blocks)) =
        { elements := elements ++ read, lists := ordered :: lists, itemsDone := done } ∧
      (∀ other, BlocksRead (lists.length + 1) (some ordered) blocks other ↔ other = read) ∧
      read.countP (Element.isItemAt lists.length) = if Block.anySpeaks blocks then 1 else 0 := by
  constructor
  · refine ⟨readBlocks 0 none blocks, ?_, blocksRead_iff blocks 0 none⟩
    have read := run_blocks blocks [] [] []
    cases said : Block.anySpeaks blocks <;> rw [said] at read <;> exact read
  · intro elements ordered lists done
    refine ⟨readBlocks (lists.length + 1) (some ordered) blocks, run_item (run_blocks blocks elements (ordered :: lists) (false :: done)),
      blocksRead_iff blocks (lists.length + 1) (some ordered), ?_⟩
    rw [readBlocks_items blocks (by omega), textsOf]
    simp

/-- A heading before the text of an item, an item that starts with another list, and text behind that list. -/
example : Element.ofTokens (Token.ofBlocks [.list true
      [[.heading 2 [.text ['h']], .quote [.paragraph [.text ['a']]], .paragraph [.text ['b']]],
        [.list false [[.paragraph [.text ['c']]]], .table [[], []], .paragraph [.text ['d']]]]]) =
    [.heading 2 [⟨"h", .plain⟩], .listItem true 0 [⟨"a", .plain⟩], .paragraph [⟨"b", .plain⟩],
      .listItem false 1 [⟨"c", .plain⟩], .listItem true 0 [⟨"d", .plain⟩]] := by
  decide +kernel

end DocScribe.Markdown
