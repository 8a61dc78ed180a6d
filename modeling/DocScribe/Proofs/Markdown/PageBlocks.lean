import DocScribe.Proofs.Markdown.FencedCode
import DocScribe.Proofs.Markdown.OutlineText

/-! Blocks and runs of list items, on a page with an empty line between neighbours, are read as they were written. -/

namespace DocScribe.Markdown
open DocScribe BlockStart BlockReader

/-- A text whose first line is no list item. -/
def StartsBlock (text : List Char) : Prop :=
  ∃ line lines, textLines text = line :: lines ∧ line.isEmpty = false ∧ line.indent = 0 ∧ itemMark? line.content = none

/-- A text that is read as one block wherever an empty line or none follows it. -/
structure IsBlockText (text : List Char) (block : RawBlock) : Prop where
  clean : IsClean text
  starts : StartsBlock text
  reads : ∀ insideQuote insideItem rest definitions, rest.head?.all Line.isEmpty = true →
    blockAt insideQuote insideItem .page (textLines text ++ rest) definitions =
      found block definitions (textLines text).length

/-- The texts of a page, and the blocks that they show. Two runs of items are never next to each other, since
they would be one. -/
inductive IsPage : List (List Char) → List RawBlock → Prop
  | nil : IsPage [] []
  | block {text block texts blocks} (own : IsBlockText text block) (rest : IsPage texts blocks) :
      IsPage (text :: texts) (block :: blocks)
  | items {outline : Outline} {texts blocks} (filled : outline ≠ .nil) (steady : outline.IsSteady) (fits : outline.height ≤ 9)
      (apart : ∀ text ∈ texts.head?, StartsBlock text) (rest : IsPage texts blocks) :
      IsPage (outline.text :: texts) (outline.blocks none ++ blocks)

variable {insideQuote insideItem : ReadInside} {text : List Char} {block : RawBlock}

theorem IsBlockText.yields (own : IsBlockText text block) {rest left : List Line} {more : List RawBlock}
    (apart : rest.head?.all Line.isEmpty = true) (later : Yields insideQuote insideItem .page (skipGap rest) more left) :
    Yields insideQuote insideItem .page (textLines text ++ rest) (block :: more) left := by
  obtain ⟨line, lines, split, filled, column, -⟩ := own.starts
  have reads (definitions : Definitions) := own.reads insideQuote insideItem rest definitions apart
  have inside : line.isOutside .page = false := by simp [Line.isOutside, column, Margin.page]
  have behind : (lines ++ rest).drop lines.length = rest := List.drop_left
  simp only [split, List.cons_append, List.length_cons] at reads ⊢
  exact Yields.after filled inside reads (by rwa [behind])

private theorem admits_page {column : Nat} (left : column < 4) : Margin.page.Admits column := by
  refine ⟨by simp only [Margin.page]; omega, ?_⟩
  rintro outer same
  cases same

private theorem follows_text (starts : StartsBlock text) (rest : List Line) :
    Follows 0 (Line.ofChars [] :: (textLines text ++ rest)) (textLines text ++ rest) := by
  obtain ⟨line, lines, split, filled, column, noItem⟩ := starts
  rw [split]
  exact .block filled column noItem

namespace IsPage
variable {texts : List (List Char)} {blocks : List RawBlock}

private theorem clean (page : IsPage texts blocks) : ∀ text ∈ texts, IsClean text := by
  induction page with
  | nil => simp
  | block own rest ih => exact List.forall_mem_cons.mpr ⟨own.clean, ih⟩
  | items filled steady fits apart rest ih => exact List.forall_mem_cons.mpr ⟨Outline.clean_text steady, ih⟩

private theorem yields (page : IsPage texts blocks) (insideQuote : ReadInside) :
    Yields insideQuote (read 18) .page (pageLines texts) blocks [] := by
  induction page with
  | nil => exact yields_nil
  | @block text block texts blocks own rest later =>
    cases texts with
    | nil =>
      rw [pageLines_singleton, ← List.append_nil (textLines text)]
      exact own.yields rfl later
    | cons second texts =>
      rw [pageLines_cons]
      exact own.yields rfl later
  | @items outline texts blocks filled steady fits apart rest later =>
    have listed {after end' : List Line} (follows : Follows 0 after end') (later : Yields insideQuote (read (2 * 9)) .page end' blocks []) :
        Yields insideQuote (read (2 * 9)) .page (outline.lines 0 ++ after) (outline.blocks none ++ blocks) [] := by
      have whole := (outline.yields_lines fits steady rfl (admits_page (by decide)) follows).2 insideQuote none blocks [] later
      rwa [Outline.behind_none, Outline.left_of_ne_nil filled] at whole
    cases texts with
    | nil =>
      rw [pageLines_singleton, Outline.textLines_text filled steady, ← List.append_nil (outline.lines 0)]
      exact listed .nothing later
    | cons second texts =>
      obtain ⟨more, split⟩ : ∃ more, pageLines (second :: texts) = textLines second ++ more := by
        cases texts with
        | nil => exact ⟨[], by rw [pageLines_singleton, List.append_nil]⟩
        | cons third texts => exact ⟨_, pageLines_cons second third texts⟩
      rw [pageLines_cons, Outline.textLines_text filled steady]
      refine listed ?_ later
      rw [split]
      exact follows_text (apart second rfl) more

theorem ofText_blocks (page : IsPage texts blocks) (some : texts ≠ []) :
    RawBlock.ofText (Text.joinWith ['\n', '\n'] texts ++ ['\n']) = (blocks, []) := by
  obtain ⟨taken, -, yields⟩ := page.yields (read 19)
  have run := yields ((pageLines texts).length + 1) [] (Nat.lt_succ_self _)
  rw [RawBlock.ofText, ofText_page some page.clean]
  change ((blocksFrom (read 19) (read 18) .page ((pageLines texts).length + 1) (pageLines texts) []).blocks,
    (blocksFrom (read 19) (read 18) .page ((pageLines texts).length + 1) (pageLines texts) []).definitions) = _
  rw [run]

end IsPage

theorem isBlockText_line {text : List Char} {block : RawBlock} (some : text ≠ [])
    (first : ∀ c ∈ text.head?, Text.isIndent c = false) (noItem : itemMark? text = none) (clean : IsClean text)
    (noBreak : '\n' ∉ text)
    (reads : ∀ insideQuote insideItem rest definitions, rest.head?.all Line.isEmpty = true →
      blockAt insideQuote insideItem .page (⟨text, 0, 0, 0⟩ :: rest) definitions = found block definitions 1) :
    IsBlockText text block := by
  have lines : textLines text = [⟨text, 0, 0, 0⟩] := by
    rw [textLines, Text.splitAt_word noBreak, List.map_singleton, ofChars_started first]
  refine ⟨clean, ⟨_, _, lines, ?_, rfl, noItem⟩, fun insideQuote insideItem rest definitions apart => ?_⟩
  · simpa [Line.isEmpty, Line.content] using some
  · rw [lines]
    exact reads insideQuote insideItem rest definitions apart

theorem isBlockText_rule : IsBlockText "---".toList .rule :=
  ⟨by decide, ⟨_, _, rfl, rfl, rfl, rfl⟩, fun insideQuote insideItem rest definitions _ => blockAt_rule rest⟩

theorem isBlockText_codeBlock {text : List Char} (clean : IsClean text) :
    IsBlockText (Render.codeBlock text) (.code (.ofList text ++ "\n")) := by
  have fence : IsClean (fenceOf text) := isClean_replicate _ (by decide)
  have lineEnd : IsClean ['\n'] := by decide
  have whole : IsClean (fenceOf text ++ ['\n'] ++ (text ++ ['\n'] ++ fenceOf text)) :=
    (fence.append lineEnd).append ((clean.append lineEnd).append fence)
  refine ⟨?_, ⟨_, _, textLines_codeBlock text, ?_, ?_, ?_⟩, fun insideQuote insideItem rest definitions _ => blockAt_codeBlock text rest⟩
  · simpa [Render.codeBlock, fenceOf] using whole
  · rw [ofChars_fenceOf]
    simp [Line.isEmpty, Line.content, fenceOf]
  · rw [ofChars_fenceOf]
  · rw [ofChars_fenceOf]
    obtain ⟨size, fenced⟩ : ∃ size, max 3 (Render.longestTicks 0 text + 1) = size + 1 :=
      Nat.exists_eq_succ_of_ne_zero (by omega)
    simp only [Line.content, fenceOf, fenced, List.replicate_succ]
    rfl

end DocScribe.Markdown
