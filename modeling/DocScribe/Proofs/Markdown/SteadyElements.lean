import DocScribe.Markdown.Reading
import DocScribe.Proofs.Markdown.ParagraphLines
import DocScribe.Proofs.Markdown.SteadyImages
import DocScribe.Proofs.Markdown.TableText

/-! Reading what was written gives the elements back when they are code, rules, images, or headings, paragraphs, tables
and nested items of steady spans. Text that is read as a character reference is one thing that does not come back. -/

namespace DocScribe.Markdown
open DocScribe BlockStart BlockReader

/-- Text ends in marks behind a blank, as a heading's line may. -/
def endsInMarks (text : List Char) : Bool := (Text.trimEndBy (· == '#') text).getLast?.any Text.isIndent

/-- Elements whose spans come back; only a paragraph holds hard breaks. -/
def Element.IsSteady : Element → Prop
  | .heading level spans =>
    1 ≤ level ∧ level ≤ 6 ∧ SteadySpans spans ∧ endsInMarks (Render.spans spans) = false
  | .paragraph spans => spans ≠ [] ∧ SteadyParagraph spans
  | .listItem _ _ spans => spans ≠ [] ∧ SteadySpans spans
  | .table rows => SteadyTable rows
  | .image source isRemote alt => SteadyImage source isRemote alt
  | .rule => True
  | .codeBlock text => IsClean text.toList
  | .unknown => False

instance : DecidablePred Element.IsSteady
  | .heading level spans => inferInstanceAs
    (Decidable (1 ≤ level ∧ level ≤ 6 ∧ SteadySpans spans ∧ endsInMarks (Render.spans spans) = false))
  | .paragraph spans => inferInstanceAs (Decidable (spans ≠ [] ∧ SteadyParagraph spans))
  | .listItem _ _ spans => inferInstanceAs (Decidable (spans ≠ [] ∧ SteadySpans spans))
  | .table rows => inferInstanceAs (Decidable (SteadyTable rows))
  | .image source isRemote alt => inferInstanceAs (Decidable (SteadyImage source isRemote alt))
  | .rule => inferInstanceAs (Decidable True)
  | .codeBlock text => inferInstanceAs (Decidable (IsClean text.toList))
  | .unknown => inferInstanceAs (Decidable False)

/-- The depth of the first element, if it is an item. -/
def itemDepth? : List Element → Option Int
  | .listItem _ depth _ :: _ => some depth
  | _ => none

/-- No item lies deeper than the limit, or more than one level deeper than the item before it. -/
def IsNested : (limit : Nat) → List Element → Prop
  | _, [] => True
  | limit, .listItem _ depth _ :: rest => (0 ≤ depth ∧ depth ≤ limit) ∧ IsNested (min 8 (depth.toNat + 1)) rest
  | _, _ :: rest => IsNested 0 rest

instance decidableIsNested : (limit : Nat) → (elements : List Element) → Decidable (IsNested limit elements)
  | _, [] => inferInstanceAs (Decidable True)
  | limit, .listItem _ depth _ :: rest =>
    let _ := decidableIsNested (min 8 (depth.toNat + 1)) rest
    inferInstanceAs (Decidable ((0 ≤ depth ∧ depth ≤ limit) ∧ IsNested (min 8 (depth.toNat + 1)) rest))
  | _, .heading .. :: rest | _, .paragraph _ :: rest | _, .table _ :: rest | _, .image .. :: rest
  | _, .rule :: rest | _, .codeBlock _ :: rest | _, .unknown :: rest => decidableIsNested 0 rest

/-- Elements that come back when they are written and read. -/
structure SteadyElements (elements : List Element) : Prop where
  steady : ∀ element ∈ elements, element.IsSteady
  nested : IsNested 0 elements

instance : DecidablePred SteadyElements := fun _ =>
  decidable_of_iff (_ ∧ _) ⟨fun ⟨steady, nested⟩ => ⟨steady, nested⟩, fun elements => ⟨elements.steady, elements.nested⟩⟩

namespace SteadySpans
variable {spans : List Span} (steady : SteadySpans spans)
include steady

private theorem headingText_rendered (plainEnd : endsInMarks (Render.spans spans) = false) :
    headingText (' ' :: Render.spans spans) = Render.spans spans := by
  rcases eq_or_ne spans [] with rfl | some
  · rfl
  have filled := steady.rendered_ne_nil some
  have whole : Text.trimEndBy Text.isIndent (' ' :: Render.spans spans) = ' ' :: Render.spans spans := by
    apply Text.trimEndBy_eq_self
    intro c last
    rw [List.getLast?_cons_of_ne_nil filled] at last
    exact isIndent_of_shown (steady.rendered_ends.2 c last)
  -- What is written does not consist of marks, since its first character would be one.
  have kept : ∃ c, (Render.spans spans).reverse.find? (!(· == '#') ·) = Option.some c := by
    apply Option.ne_none_iff_exists'.mp
    intro none
    obtain ⟨c, tail, split⟩ := List.exists_cons_of_ne_nil filled
    have mark := List.find?_eq_none.mp none c (by simp [split])
    exact (steady.isUnmarked_rendered some).2 (by simpa [split] using mark)
  have opened : (Text.trimEndBy (· == '#') (' ' :: Render.spans spans)).getLast?.any Text.isIndent = false := by
    obtain ⟨c, found⟩ := kept
    rw [endsInMarks, Text.getLast?_trimEndBy, found] at plainEnd
    rw [Text.getLast?_trimEndBy, List.reverse_cons, List.find?_append, found]
    exact plainEnd
  rw [headingText, whole, opened]
  exact steady.trimmed_rendered

private theorem isBlockText_heading {level : Nat} (small : level < 6) (plainEnd : endsInMarks (Render.spans spans) = false) :
    IsBlockText (List.replicate (level + 1) '#' ++ ' ' :: Render.spans spans) (.heading (level + 1) (Render.spans spans)) := by
  have marks : IsClean (List.replicate (level + 1) '#' ++ [' ']) := (isClean_replicate _ (by decide)).append (by decide)
  refine isBlockText_line (by simp) (fun c first => ?_) rfl ?_ ?_ fun insideQuote insideItem rest definitions apart => ?_
  · obtain rfl := Option.some.inj first
    rfl
  · simpa using marks.append steady.clean_rendered
  · simp [steady.noBreak_rendered]
  · rw [blockAt_heading rfl small rfl apart, steady.headingText_rendered plainEnd]

end SteadySpans

/-- One block for an element, and the element for the block. -/
structure Element.Corresponds (element : Element) (text : List Char) (block : RawBlock) : Prop where
  form : Render.block? element = some text
  onPage : IsBlockText text block
  walked : ∀ definitions elements, ({ elements } : Walk).run (Token.ofBlock (block.resolve (Inline.ofText definitions))) =
    { elements := elements ++ [element] }

theorem Element.IsSteady.corresponds {element : Element} (steady : element.IsSteady)
    (noItem : ∀ ordered depth spans, element ≠ .listItem ordered depth spans) :
    ∃ text block, element.Corresponds text block := by
  cases element with
  | heading level spans =>
    obtain ⟨positive, small, steady, plainEnd⟩ := steady
    obtain ⟨depth, rfl⟩ : ∃ depth : Nat, level = (depth + 1 : Nat) := ⟨(level - 1).toNat, by omega⟩
    refine ⟨_, _, rfl, steady.isBlockText_heading (by omega : depth < 6) plainEnd, fun definitions elements => ?_⟩
    simp [RawBlock.resolve, Token.ofBlock, Token.framed, Walk.run, Walk.step, Walk.enter, Walk.content, Walk.leave,
      Walk.emit, steady.pieces_rendered, spansOnly_spans]
  | paragraph spans =>
    obtain ⟨some, steady⟩ := steady
    refine ⟨_, _, rfl, steady.isBlockText some, fun definitions elements => ?_⟩
    simp [RawBlock.resolve, Token.ofBlock, Token.framed, Walk.run, Walk.step, Walk.enter, Walk.content, Walk.leave,
      Walk.emit, steady.pieces_rendered, steady.paragraphElements_self some]
  | table rows => exact ⟨_, _, rfl, steady.isBlockText, steady.run_rendered⟩
  | rule => exact ⟨_, _, rfl, isBlockText_rule, fun definitions elements => rfl⟩
  | codeBlock text =>
    refine ⟨_, _, rfl, isBlockText_codeBlock steady, fun definitions elements => ?_⟩
    rw [String.ofList_toList]
    simp [RawBlock.resolve, Token.ofBlock, Walk.run, Walk.step, Walk.emit]
  | listItem ordered depth spans => exact absurd rfl (noItem ordered depth spans)
  | image source isRemote alt =>
    have alone : paragraphElements [.image source isRemote alt] = [.image source isRemote alt] := rfl
    refine ⟨_, _, rfl, SteadyImage.isBlockText steady, fun definitions elements => ?_⟩
    simp [RawBlock.resolve, Token.ofBlock, Token.framed, Walk.run, Walk.step, Walk.enter, Walk.content, Walk.leave,
      Walk.emit, SteadyImage.pieces_rendered steady, alone]
  | unknown => exact steady.elim

private theorem add_form {element : Element} {text : List Char} (form : Render.block? element = some text)
    (progress : Render.Progress) : Render.add progress element = ⟨text :: progress.blocks, none⟩ := by
  cases element with
  | listItem => cases form
  | _ => simp [Render.add, form]

private theorem resolveAll_append (read : List Char → List Inline) (blocks more : List RawBlock) :
    RawBlock.resolveAll read (blocks ++ more) = RawBlock.resolveAll read blocks ++ RawBlock.resolveAll read more := by
  induction blocks with
  | nil => rfl
  | cons block blocks ih => rw [List.cons_append, RawBlock.resolveAll, RawBlock.resolveAll, ih, List.cons_append]

private theorem ofBlocks_append (blocks more : List (Block (List Inline))) :
    Token.ofBlocks (blocks ++ more) = Token.ofBlocks blocks ++ Token.ofBlocks more := by
  induction blocks with
  | nil => rfl
  | cons block blocks ih => rw [List.cons_append, Token.ofBlocks, Token.ofBlocks, ih, List.append_assoc]

/-- The page that elements are written as, from which they are walked. -/
structure IsPageOf (elements : List Element) (texts : List (List Char)) (blocks : List RawBlock) : Prop where
  page : IsPage texts blocks
  starts : itemDepth? elements = none → ∀ text ∈ texts.head?, StartsBlock text
  written : ∀ progress : Render.Progress, (itemDepth? elements ≠ none → progress.run = none) →
    (elements.foldl Render.add progress).blocks = texts.reverse ++ progress.blocks
  walked : ∀ definitions before, ({ elements := before } : Walk).run
    (Token.ofBlocks (RawBlock.resolveAll (Inline.ofText definitions) blocks)) = { elements := before ++ elements }

namespace IsPageOf
variable {elements : List Element} {texts : List (List Char)} {blocks : List RawBlock}

private theorem nil : IsPageOf [] [] [] where
  page := .nil
  starts := by simp
  written := fun progress _ => rfl
  walked := fun definitions before => by simp [RawBlock.resolveAll, Token.ofBlocks, Walk.run]

private theorem block (rest : IsPageOf elements texts blocks) {element : Element} {text : List Char} {block : RawBlock}
    (own : element.Corresponds text block) : IsPageOf (element :: elements) (text :: texts) (block :: blocks) where
  page := .block own.onPage rest.page
  starts := by
    rintro - first same
    obtain rfl := Option.some.inj same
    exact own.onPage.starts
  written := fun progress _ => by
    rw [List.foldl_cons, add_form own.form, rest.written _ fun _ => rfl]
    simp
  walked := fun definitions before => by
    rw [RawBlock.resolveAll, Token.ofBlocks, Walk.run_append, own.walked, rest.walked]
    simp

private theorem items (rest : IsPageOf elements texts blocks) {outline : Outline} (filled : outline ≠ .nil)
    (steady : outline.IsSteady)
    (fits : outline.height ≤ 9) (apart : itemDepth? elements = none) :
    IsPageOf (outline.elements 0 ++ elements) (outline.text :: texts) (outline.blocks none ++ blocks) where
  page := .items filled steady fits (rest.starts apart) rest.page
  starts := by
    cases outline with
    | nil => exact absurd rfl filled
    | item => exact fun noItem => by cases noItem
  written := fun progress fresh => by
    have own : progress.run = none := by
      refine fresh ?_
      cases outline with
      | nil => exact absurd rfl filled
      | item => exact Option.some_ne_none _
    obtain ⟨widths, listed⟩ := Outline.foldl_add_text filled own
    rw [List.foldl_append, listed, rest.written _ fun item => absurd apart item]
    simp
  walked := fun definitions before => by
    rw [resolveAll_append, ofBlocks_append, Walk.run_append, (outline.run_blocks steady).1, rest.walked]
    simp

end IsPageOf

theorem IsNested.lower {limit lower : Nat} {elements : List Element} (nested : IsNested limit elements)
    (first : ∀ depth ∈ itemDepth? elements, depth ≤ lower) : IsNested lower elements := by
  cases elements with
  | nil => trivial
  | cons element rest =>
    cases element with
    | listItem ordered depth spans => exact ⟨⟨nested.1.1, first depth rfl⟩, nested.2⟩
    | _ => exact nested

theorem IsNested.rest {limit : Nat} {element : Element} {rest : List Element} (nested : IsNested limit (element :: rest))
    (noItem : ∀ ordered depth spans, element ≠ .listItem ordered depth spans) : IsNested 0 rest := by
  cases element with
  | listItem ordered depth spans => exact absurd rfl (noItem ordered depth spans)
  | _ => exact nested

theorem IsNested.positive {limit : Nat} {elements : List Element} (nested : IsNested limit elements) :
    ∀ depth ∈ itemDepth? elements, 0 ≤ depth ∧ depth ≤ limit := by
  cases elements with
  | nil => simp [itemDepth?]
  | cons element rest =>
    cases element with
    | listItem ordered depth spans =>
      rintro first same
      obtain rfl := Option.some.inj same
      exact nested.1
    | _ => simp [itemDepth?]

/-- The items at a depth or deeper, up to one that lies less deep or is none. -/
theorem exists_outline {elements : List Element} {limit depth : Nat} (steady : ∀ element ∈ elements, element.IsSteady)
    (nested : IsNested limit elements) (near : limit ≤ depth) (bounded : limit ≤ 8) :
    ∃ (outline : Outline) (rest : List Element) (last : Nat), elements = outline.elements depth ++ rest ∧ outline.IsSteady ∧
      outline.height ≤ 9 - depth ∧ IsNested last rest ∧ ∀ first ∈ itemDepth? rest, first < depth := by
  -- on the length: the items inside the first one are split off, and then those behind it
  induction length : elements.length using Nat.strongRecOn generalizing elements limit depth with
  | ind size ih =>
    by_cases item : ∃ ordered spans more, elements = .listItem ordered depth spans :: more
    · obtain ⟨ordered, spans, more, rfl⟩ := item
      obtain ⟨⟨-, shallow⟩, nestedMore⟩ := nested
      have small : depth ≤ 8 := by omega
      obtain ⟨inner, others, last, split, innerSteady, innerFits, nestedOthers, above⟩ :=
        ih more.length (by simp [← length]) (fun other among => steady other (List.mem_cons_of_mem _ among)) nestedMore
          (by omega : _ ≤ depth + 1) (Nat.min_le_left ..) rfl
      have steadyOthers : ∀ element ∈ others, element.IsSteady := fun other among =>
        steady other (List.mem_cons_of_mem _ (split ▸ List.mem_append_right _ among))
      have shorter : others.length < size := by
        rw [← length, split]
        simp only [List.length_cons, List.length_append]
        omega
      obtain ⟨next, rest, end', splitNext, nextSteady, nextFits, nestedRest, behind⟩ :=
        ih others.length shorter steadyOthers (nestedOthers.lower fun first known => Int.lt_add_one_iff.mp (above first known))
          (Nat.le_refl depth) small rfl
      refine ⟨.item ordered spans inner next, rest, end', ?_, ⟨steady _ (List.mem_cons_self ..), innerSteady, nextSteady⟩, ?_,
        nestedRest, behind⟩
      · rw [Outline.elements, List.cons_append, List.append_assoc, ← splitNext, ← split]
      · exact Nat.max_le.mpr ⟨by omega, nextFits⟩
    · refine ⟨.nil, elements, limit, rfl, trivial, Nat.zero_le _, nested, fun first known => ?_⟩
      have other : first ≠ depth := by
        rintro rfl
        cases elements with
        | nil => cases known
        | cons element rest =>
          cases element with
          | listItem ordered place spans =>
            obtain rfl := Option.some.inj known
            exact item ⟨ordered, spans, rest, rfl⟩
          | _ => cases known
      have := nested.positive first known
      omega

/-- Elements that start with an item start with an outline that is not empty, and no item stands behind it. -/
theorem exists_filledOutline {elements : List Element} (steady : ∀ element ∈ elements, element.IsSteady)
    (nested : IsNested 0 elements) (item : (itemDepth? elements).isSome = true) :
    ∃ (outline : Outline) (others : List Element), elements = outline.elements 0 ++ others ∧ outline ≠ .nil ∧ outline.IsSteady ∧
      outline.height ≤ 9 ∧ IsNested 0 others ∧ itemDepth? others = none ∧ others.length < elements.length := by
  obtain ⟨outline, others, last, split, listed, fits, nestedOthers, above⟩ :=
    exists_outline steady nested (Nat.le_refl 0) (Nat.zero_le 8)
  have apart : itemDepth? others = none := by
    refine Option.eq_none_iff_forall_not_mem.mpr fun first known => ?_
    have := nestedOthers.positive first known
    have := above first known
    omega
  have filled : outline ≠ .nil := by
    rintro rfl
    have same : elements = others := split
    rw [same, apart] at item
    cases item
  refine ⟨outline, others, split, filled, listed, fits, nestedOthers.lower fun first known => absurd known (by simp [apart]),
    apart, ?_⟩
  rw [split]
  cases outline with
  | nil => exact absurd rfl filled
  | item =>
    simp only [Outline.elements, List.length_append, List.length_cons]
    omega

private theorem exists_page {elements : List Element} (steady : ∀ element ∈ elements, element.IsSteady)
    (nested : IsNested 0 elements) :
    ∃ texts blocks, IsPageOf elements texts blocks := by
  -- on the length, as a run of items is taken off as a whole
  induction length : elements.length using Nat.strongRecOn generalizing elements with
  | ind size ih =>
    cases elements with
    | nil => exact ⟨_, _, .nil⟩
    | cons element rest =>
      by_cases item : ∃ ordered depth spans, element = .listItem ordered depth spans
      · obtain ⟨ordered, depth, spans, rfl⟩ := item
        obtain ⟨outline, others, split, filled, listed, fits, nestedOthers, apart, shorter⟩ :=
          exists_filledOutline steady nested rfl
        have steadyOthers : ∀ element ∈ others, element.IsSteady := fun other among =>
          steady other (split ▸ List.mem_append_right _ among)
        obtain ⟨texts, blocks, page⟩ := ih others.length (length ▸ shorter) steadyOthers nestedOthers rfl
        rw [split]
        exact ⟨_, _, page.items filled listed fits apart⟩
      · have noItem (ordered : Bool) (depth : Int) (spans : List Span) : element ≠ .listItem ordered depth spans :=
          fun same => item ⟨ordered, depth, spans, same⟩
        have own := steady element (List.mem_cons_self ..)
        have steadyRest : ∀ element ∈ rest, element.IsSteady := fun other among => steady other (List.mem_cons_of_mem _ among)
        obtain ⟨text, block, corresponds⟩ := own.corresponds noItem
        obtain ⟨texts, blocks, page⟩ := ih rest.length (by simp [← length]) steadyRest (nested.rest noItem) rfl
        exact ⟨_, _, page.block corresponds⟩

theorem parse_render_steady {elements : List Element} (steady : SteadyElements elements) :
    parse (render elements) = elements := by
  obtain ⟨texts, blocks, page, -, written, walked⟩ := exists_page steady.steady steady.nested
  have blocksOf : (elements.foldl Render.add {}).blocks.reverse = texts := by
    simp [written {} fun _ => rfl]
  have walk := walked [] []
  cases texts with
  | nil =>
    cases page
    obtain rfl : elements = [] := (congrArg Walk.elements walk).symm
    rfl
  | cons text texts =>
    have read := page.ofText_blocks (List.cons_ne_nil text texts)
    rw [parse, render, blocksOf]
    simp only [String.toList_ofList, Block.ofText, read, Element.ofTokens, walk, List.nil_append]

/-- What is read from a text is read again from its rendering. -/
theorem parse_render_parse {markdown : String} (steady : SteadyElements (parse markdown)) :
    parse (render (parse markdown)) = parse markdown :=
  parse_render_steady steady

theorem parse_render_parse_sections :
    let markdown := "A `b` &\n=======\n3\\. c\\* d\n\n* x\n  1) y\n* z\n***\nu|`v`\n-|-\nw\n\n    a\n" ++
      "\n**e** [*f*](http://g/h)  \n~~i~~ ![j](k.png)\n"
    SteadyElements (parse markdown) ∧ parse (render (parse markdown)) = parse markdown ∧
      render (parse markdown) =
        "# A `b` &\n\n3\\. c\\* d\n\n- x\n  1. y\n- z\n\n---\n\n| u | `v` |\n|---|---|\n| w |  |\n\n```\na\n```\n" ++
          "\n**e** [*f*](http://g/h)\\\n~~i~~\n\n![j](k.png)\n" := by
  intro markdown
  have read : parse markdown = [.heading 1 [⟨"A ", .plain⟩, ⟨"b", { code := true }⟩, ⟨" &", .plain⟩],
      .paragraph [⟨"3. c* d", .plain⟩], .listItem false 0 [⟨"x", .plain⟩], .listItem true 1 [⟨"y", .plain⟩],
      .listItem false 0 [⟨"z", .plain⟩], .rule, .table [[[⟨"u", .plain⟩], [⟨"v", { code := true }⟩]], [[⟨"w", .plain⟩], []]],
      .codeBlock "a",
      .paragraph [⟨"e", { bold := true }⟩, ⟨" ", .plain⟩, ⟨"f", { italic := true, link := "http://g/h" }⟩, ⟨"\n", .plain⟩,
        ⟨"i", { strikethrough := true }⟩], .image "k.png" false "j"] := by
    decide +kernel
  have steady : SteadyElements (parse markdown) := by
    rw [read]
    decide +kernel
  refine ⟨steady, parse_render_parse steady, ?_⟩
  rw [read]
  decide +kernel

/-- An ampersand is written as it is, and may start a reference that was not there before. -/
theorem parse_render_parse_reference :
    Element.sameContent (parse (render (parse "&#38;#35;"))) (parse "&#38;#35;") = false := by
  decide +kernel

end DocScribe.Markdown
