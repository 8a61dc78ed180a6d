import DocScribe.Proofs.Markdown.OutlineText
import Mathlib.Data.List.SplitBy

/-! Items in a row are written as one block, each at the column that the items before it give to its depth: where the
content of its parent starts, if it has one. -/

namespace DocScribe.Markdown
open DocScribe

structure Item where
  ordered : Bool
  depth : Int
  spans : List Span

def Item.element (item : Item) : Element := .listItem item.ordered item.depth item.spans

theorem Item.element_injective : Function.Injective Item.element := by
  intro item other same
  cases item
  cases other
  cases same
  rfl

def Element.isItem : Element → Bool
  | .listItem .. => true
  | _ => false

/-- Neighbours in one run of items. -/
def bothItems (first second : Element) : Bool := first.isItem && second.isItem

/-- The blocks that elements are written as, in their order. -/
def writtenBlocks (elements : List Element) : List (List Char) := (elements.foldl Render.add {}).blocks.reverse

/-- The columns of one level behind these items: the last of them that lies no deeper gives its width if it lies there. -/
def levelWidth (before : List Item) (level : Nat) : Nat :=
  match (before.filter (·.depth ≤ (level : Int))).getLast? with
  | some last => if last.depth = level then itemWidth last.ordered else 2
  | none => 2

/-- All levels above a depth together. -/
def itemColumn (before : List Item) (depth : Int) : Nat := Outline.totalWidth ((List.range depth.toNat).map (levelWidth before))

/-- The columns of items, each one behind all that stand before it. -/
def itemColumns (before : List Item) : List Item → List Nat
  | [] => []
  | item :: rest => itemColumn before item.depth :: itemColumns (before ++ [item]) rest

def itemsText (columns : List Nat) (items : List Item) : List Char :=
  Text.joinWith ['\n'] (List.zipWith (fun column item => itemText column item.ordered item.spans) columns items)

section Levels
variable {before : List Item} {widths : List Nat} {item : Item}

private theorem levelWidth_concat (before : List Item) (item : Item) (level : Nat) : levelWidth (before ++ [item]) level =
    if item.depth ≤ level then if item.depth = level then itemWidth item.ordered else 2 else levelWidth before level := by
  unfold levelWidth
  rw [List.filter_append]
  by_cases near : item.depth ≤ level
  · simp [near]
  · simp [near]

private theorem levelWidth_append_deeper (before : List Item) {between : List Item} {level : Nat}
    (deeper : ∀ other ∈ between, (level : Int) < other.depth) : levelWidth (before ++ between) level = levelWidth before level := by
  have none : between.filter (·.depth ≤ (level : Int)) = [] := by
    apply List.filter_eq_nil_iff.mpr
    intro other among
    simpa using deeper other among
  rw [levelWidth, levelWidth, List.filter_append, none, List.append_nil]

/-- The widths that are remembered behind these items; those of deeper levels are not written down. -/
def LevelsOf (widths : List Nat) (before : List Item) : Prop := ∀ level, widths.getD level 2 = levelWidth before level

private theorem levelsOf_nil : LevelsOf [] [] := fun _ => rfl

theorem LevelsOf.kept (levels : LevelsOf widths before) {depth : Int} (positive : 0 ≤ depth) :
    Render.widthsBefore depth widths = (List.range depth.toNat).map (levelWidth before) := by
  rw [Render.widthsBefore, if_pos positive]
  apply List.ext_getElem
  · simp only [List.length_append, List.length_take, List.length_replicate, List.length_map, List.length_range]
    omega
  · intro level inside _
    simp only [List.length_append, List.length_take, List.length_replicate] at inside
    rw [List.getElem_map, List.getElem_range, ← levels level, List.getD_eq_getElem?_getD]
    by_cases known : level < widths.length
    · rw [List.getElem_append_left, List.getElem_take, List.getElem?_eq_getElem known]
      · rfl
      · rw [List.length_take]
        omega
    · rw [List.getElem_append_right, List.getElem_replicate, List.getElem?_eq_none (Nat.le_of_not_lt known)]
      · rfl
      · rw [List.length_take]
        omega

theorem LevelsOf.behind (levels : LevelsOf widths before) (positive : 0 ≤ item.depth) :
    LevelsOf (Render.widthsBefore item.depth widths ++ [itemWidth item.ordered]) (before ++ [item]) := by
  intro level
  rw [levels.kept positive, levelWidth_concat, List.getD_eq_getElem?_getD]
  have length : ((List.range item.depth.toNat).map (levelWidth before)).length = item.depth.toNat := by simp
  rcases Nat.lt_trichotomy level item.depth.toNat with above | here | below
  · rw [if_neg (by omega), List.getElem?_append_left (length.symm ▸ above), List.getElem?_map, List.getElem?_range above]
    rfl
  · rw [if_pos (by omega), if_pos (by omega), List.getElem?_append_right (by omega), length, here, Nat.sub_self]
    rfl
  · rw [if_pos (by omega), if_neg (by omega), List.getElem?_eq_none]
    · rfl
    · rw [List.length_append, length]
      exact below

theorem LevelsOf.column (levels : LevelsOf widths before) (positive : 0 ≤ item.depth) :
    Outline.totalWidth (Render.widthsBefore item.depth widths) = itemColumn before item.depth := by
  rw [levels.kept positive, itemColumn]

/-- An item starts where the content of its parent does. -/
theorem itemColumn_child {front between : List Item} {parent : Item} (positive : 0 ≤ parent.depth)
    (child : item.depth = parent.depth + 1) (deeper : ∀ other ∈ between, item.depth ≤ other.depth) :
    itemColumn (front ++ parent :: between) item.depth = itemColumn front parent.depth + itemWidth parent.ordered := by
  have levels : item.depth.toNat = parent.depth.toNat + 1 := by omega
  have behind (level : Nat) (near : (level : Int) ≤ parent.depth) :
      levelWidth (front ++ parent :: between) level = levelWidth (front ++ [parent]) level := by
    rw [List.append_cons, levelWidth_append_deeper]
    intro other among
    have := deeper other among
    omega
  have outer (level : Nat) (above : level ∈ List.range parent.depth.toNat) :
      levelWidth (front ++ parent :: between) level = levelWidth front level := by
    have above := List.mem_range.mp above
    rw [behind level (by omega), levelWidth_concat, if_neg (by omega)]
  rw [itemColumn, itemColumn, levels, List.range_succ, List.map_append, List.map_singleton, Outline.totalWidth_append,
    List.map_congr_left outer, behind _ (by omega), levelWidth_concat, if_pos (by omega), if_pos (by omega)]

end Levels

section Items

private theorem itemColumns_concat (before items : List Item) (item : Item) :
    itemColumns before (items ++ [item]) = itemColumns before items ++ [itemColumn (before ++ items) item.depth] := by
  induction items generalizing before with
  | nil => simp [itemColumns]
  | cons first items ih => simp [itemColumns, ih]

private theorem getElem?_itemColumns (before front : List Item) (item : Item) (behind : List Item) :
    (itemColumns before (front ++ item :: behind))[front.length]? = some (itemColumn (before ++ front) item.depth) := by
  induction front generalizing before with
  | nil => simp [itemColumns]
  | cons first front ih => simp [itemColumns, ih]

private theorem itemsText_concat {columns : List Nat} {items : List Item} (same : columns.length = items.length) (some : items ≠ [])
    (column : Nat) (item : Item) : itemsText (columns ++ [column]) (items ++ [item]) =
      itemsText columns items ++ '\n' :: itemText column item.ordered item.spans := by
  obtain ⟨first, items, rfl⟩ := List.exists_cons_of_ne_nil some
  obtain ⟨start, columns, rfl⟩ := List.exists_cons_of_length_eq_add_one same
  have same : columns.length = items.length := Nat.succ.inj same
  rw [itemsText, itemsText, List.cons_append, List.cons_append, List.zipWith_cons_cons, List.zipWith_cons_cons,
    List.zipWith_append same, Outline.joinWith_cons, Outline.joinWith_cons]
  simp

/-- What is remembered behind a run of items, and the block they make up. -/
theorem foldl_items {items : List Item} (some : items ≠ []) : ∃ columns widths, columns.length = items.length ∧
    (items.map Item.element).foldl Render.add {} = ⟨[itemsText columns items], Option.some widths⟩ ∧
    ((∀ item ∈ items, 0 ≤ item.depth) → columns = itemColumns [] items ∧ LevelsOf widths items) := by
  -- From the end, as a column depends on all items before it.
  induction items using List.reverseRecOn with
  | nil => exact absurd rfl some
  | append_singleton front item ih =>
    by_cases first : front = []
    · subst first
      refine ⟨[Outline.totalWidth (Render.widthsBefore item.depth [])],
        Render.widthsBefore item.depth [] ++ [itemWidth item.ordered], rfl, ?_, ?_⟩
      · simp [Item.element, Render.add, itemsText, itemText, itemWidth, Outline.totalWidth, Text.joinWith]
      · intro positive
        have positive := positive item (List.mem_singleton_self item)
        exact ⟨congrArg (· :: []) (levelsOf_nil.column positive), levelsOf_nil.behind positive⟩
    · obtain ⟨columns, widths, same, written, known⟩ := ih first
      refine ⟨columns ++ [Outline.totalWidth (Render.widthsBefore item.depth widths)],
        Render.widthsBefore item.depth widths ++ [itemWidth item.ordered], by simp [same], ?_, ?_⟩
      · rw [List.map_append, List.foldl_append, written, itemsText_concat same first]
        rfl
      · intro positive
        obtain ⟨positiveFront, own⟩ := List.forall_mem_append.mp positive
        obtain ⟨columnsOf, levels⟩ := known positiveFront
        have own := own item (List.mem_singleton_self item)
        rw [itemColumns_concat, columnsOf, levels.column own]
        exact ⟨rfl, levels.behind own⟩

end Items

section Runs

/-- Progress in front of which there are older blocks. -/
def Render.Progress.over (older : List (List Char)) (progress : Render.Progress) : Render.Progress :=
  ⟨progress.blocks ++ older, progress.run⟩

def Render.Progress.Started (progress : Render.Progress) : Prop := progress.run ≠ none → progress.blocks ≠ []

private theorem started_add (progress : Render.Progress) (element : Element) : (Render.add progress element).Started := by
  cases element with
  | listItem ordered depth spans =>
    intro _
    rw [Render.add]
    dsimp only
    split <;> exact List.cons_ne_nil _ _
  | _ => exact fun some => absurd rfl some

private theorem add_over {progress : Render.Progress} (started : progress.Started) (older : List (List Char)) (element : Element) :
    Render.add (progress.over older) element = (Render.add progress element).over older := by
  cases element with
  | listItem ordered depth spans =>
    obtain ⟨blocks, run⟩ := progress
    cases run with
    | none => rfl
    | some widths =>
      obtain ⟨last, before, rfl⟩ := List.exists_cons_of_ne_nil (started (Option.some_ne_none widths))
      rfl
  | _ => simp [Render.add, Render.Progress.over]

private theorem foldl_over {progress : Render.Progress} (started : progress.Started) (older : List (List Char)) (elements : List Element) :
    elements.foldl Render.add (progress.over older) = (elements.foldl Render.add progress).over older := by
  induction elements generalizing progress with
  | nil => rfl
  | cons element elements ih =>
    rw [List.foldl_cons, List.foldl_cons, add_over started, ih (started_add progress element)]

/-- Elements that do not continue a run make up blocks of their own. -/
theorem blocks_foldl {progress : Render.Progress} {elements : List Element}
    (apart : progress.run = none ∨ ∀ element ∈ elements.head?, element.isItem = false) :
    (elements.foldl Render.add progress).blocks = (elements.foldl Render.add {}).blocks ++ progress.blocks := by
  have fresh : (elements.foldl Render.add progress).blocks = (elements.foldl Render.add ⟨progress.blocks, none⟩).blocks := by
    -- An element that is no item looks at no widths.
    rcases apart with none | other
    · rw [← none]
    · cases elements with
      | nil => rfl
      | cons element elements =>
        have other := other element rfl
        cases element with
        | listItem => cases other
        | _ => rfl
  rw [fresh]
  exact congrArg Render.Progress.blocks
    (foldl_over (fun some => absurd rfl some : ({} : Render.Progress).Started) progress.blocks elements)

private theorem run_foldl (elements : List Element) :
    (elements.foldl Render.add {}).run = none ∨ ∃ last ∈ elements.getLast?, last.isItem = true := by
  induction elements using List.reverseRecOn with
  | nil => exact .inl rfl
  | append_singleton front last =>
    rw [List.foldl_append, List.getLast?_concat]
    cases last with
    | listItem => exact .inr ⟨_, rfl, rfl⟩
    | _ => exact .inl rfl

private theorem writtenBlocks_append {front rest : List Element}
    (apart : ∀ last ∈ front.getLast?, ∀ first ∈ rest.head?, bothItems last first = false) :
    writtenBlocks (front ++ rest) = writtenBlocks front ++ writtenBlocks rest := by
  rw [writtenBlocks, List.foldl_append, blocks_foldl, List.reverse_append]
  · rfl
  · apply (run_foldl front).imp id
    rintro ⟨last, ends, item⟩ first starts
    have := apart last ends first starts
    rw [bothItems, item] at this
    exact this

private theorem writtenBlocks_flatten {groups : List (List Element)}
    (apart : groups.IsChain fun group next => ∃ ended started, bothItems (group.getLast ended) (next.head started) = false) :
    writtenBlocks groups.flatten = groups.flatMap writtenBlocks := by
  induction groups with
  | nil => rfl
  | cons group groups ih =>
    rw [List.flatten_cons, List.flatMap_cons, writtenBlocks_append, ih apart.tail]
    intro last ends first starts
    cases groups with
    | nil => cases starts
    | cons next groups =>
      obtain ⟨ended, started, other⟩ := (List.isChain_cons_cons.mp apart).1
      obtain ⟨head, tail, rfl⟩ := List.exists_cons_of_ne_nil started
      obtain rfl := Option.some.inj starts
      rw [List.getLast?_eq_getLast_of_ne_nil ended] at ends
      obtain rfl := Option.some.inj ends
      exact other

private theorem writtenBlocks_runs (elements : List Element) :
    writtenBlocks elements = (elements.splitBy bothItems).flatMap writtenBlocks := by
  have whole := writtenBlocks_flatten (List.isChain_getLast_head_splitBy bothItems elements)
  rwa [List.flatten_splitBy] at whole

private theorem isItem_of_chain {group : List Element} (chain : group.IsChain fun first second => bothItems first second)
    (some : ∃ element ∈ group, element.isItem) : ∀ element ∈ group, element.isItem := by
  induction group with
  | nil => simp
  | cons element rest ih =>
    cases rest with
    | nil => simpa using some
    | cons next rest =>
      obtain ⟨both, chain⟩ := List.isChain_cons_cons.mp chain
      obtain ⟨own, second⟩ := Bool.and_eq_true_iff.mp both
      exact List.forall_mem_cons.mpr ⟨own, ih chain ⟨next, List.mem_cons_self .., second⟩⟩

private theorem exists_items {group : List Element} (own : ∀ element ∈ group, element.isItem) :
    ∃ items : List Item, group = items.map Item.element := by
  induction group with
  | nil => exact ⟨[], rfl⟩
  | cons element rest ih =>
    obtain ⟨first, others⟩ := List.forall_mem_cons.mp own
    obtain ⟨items, rfl⟩ := ih others
    cases element with
    | listItem ordered depth spans => exact ⟨⟨ordered, depth, spans⟩ :: items, rfl⟩
    | _ => cases first

end Runs

/-- A run of items, each on a line of one block behind a number of blanks. -/
structure IsItemBlock (run : List Element) (items : List Item) (columns : List Nat) : Prop where
  elements : run = items.map Item.element
  length : columns.length = items.length
  written : writtenBlocks run = [itemsText columns items]
  placed : (∀ item ∈ items, 0 ≤ item.depth) → columns = itemColumns [] items
  child : (∀ item ∈ items, 0 ≤ item.depth) → ∀ front parent between item behind,
    items = front ++ parent :: between ++ item :: behind → item.depth = parent.depth + 1 →
    (∀ other ∈ between, item.depth ≤ other.depth) →
    ∃ column, columns[front.length]? = some column ∧
      columns[(front ++ parent :: between).length]? = some (column + itemWidth parent.ordered)

private theorem isItemBlock_of_mem {elements run : List Element} (among : run ∈ elements.splitBy bothItems)
    (some : ∃ element ∈ run, element.isItem) : ∃ items columns, IsItemBlock run items columns := by
  obtain ⟨items, rfl⟩ := exists_items (isItem_of_chain (List.isChain_of_mem_splitBy among) some)
  have filled : items ≠ [] := by
    rintro rfl
    exact List.ne_nil_of_mem_splitBy among rfl
  obtain ⟨columns, widths, length, written, known⟩ := foldl_items filled
  refine ⟨items, columns, rfl, length, congrArg (fun progress => progress.blocks.reverse) written, fun positive => (known positive).1, ?_⟩
  intro positive front parent between item behind split child deeper
  have inside : parent ∈ items := by simp [split]
  refine ⟨itemColumn front parent.depth, ?_, ?_⟩
  · rw [(known positive).1, split, List.append_assoc]
    exact getElem?_itemColumns [] front parent _
  · rw [(known positive).1, split, ← itemColumn_child (positive parent inside) child deeper]
    exact getElem?_itemColumns [] _ item behind

/-- Blocks stand apart by an empty line, no block is shared by two runs, and each run of items is one block. -/
theorem render_runs (elements : List Element) :
    (render elements = if writtenBlocks elements = [] then "" else
      .ofList (Text.joinWith ['\n', '\n'] (writtenBlocks elements) ++ ['\n'])) ∧
    writtenBlocks elements = (elements.splitBy bothItems).flatMap writtenBlocks ∧
    ∀ run ∈ elements.splitBy bothItems, (∃ element ∈ run, element.isItem) →
      ∃ items columns, IsItemBlock run items columns := by
  refine ⟨?_, writtenBlocks_runs elements, fun run among some => isItemBlock_of_mem among some⟩
  rw [render, ← writtenBlocks]
  cases writtenBlocks elements <;> rfl

theorem render_runs_jumps :
    let jumps : List Element := [.listItem false 0 [⟨"a", .plain⟩], .listItem true 2 [⟨"b", .plain⟩], .listItem false 3 [⟨"c", .plain⟩],
      .listItem false 1 [⟨"d", .plain⟩]]
    let elements := jumps ++ [.rule, .listItem true 0 [⟨"e", .plain⟩], .listItem false 1 [⟨"f", .plain⟩]]
    render elements = "- a\n    1. b\n       - c\n  - d\n\n---\n\n1. e\n   - f\n" ∧ jumps ∈ elements.splitBy bothItems ∧
      ∃ items, IsItemBlock jumps items [0, 4, 7, 2] := by
  intro jumps elements
  have among : jumps ∈ elements.splitBy bothItems := List.mem_cons_self ..
  obtain ⟨-, -, runs⟩ := render_runs elements
  obtain ⟨items, columns, block⟩ := runs jumps among ⟨_, List.mem_cons_self .., rfl⟩
  have listed : items = [⟨false, 0, [⟨"a", .plain⟩]⟩, ⟨true, 2, [⟨"b", .plain⟩]⟩, ⟨false, 3, [⟨"c", .plain⟩]⟩, ⟨false, 1, [⟨"d", .plain⟩]⟩] :=
    (List.map_injective_iff.mpr Item.element_injective) block.elements.symm
  have placed := block.placed (by rw [listed]; decide)
  rw [listed] at placed
  rw [placed] at block
  exact ⟨by decide +kernel, among, items, block⟩

end DocScribe.Markdown
