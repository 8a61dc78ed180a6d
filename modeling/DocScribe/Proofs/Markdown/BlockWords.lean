import DocScribe.Markdown.Reading
import DocScribe.Proofs.Text.Trimming
import DocScribe.Proofs.Text.Words

/-! The texts of the blocks that are read from a source: every word of them stands in the source. Cells of
tables are left out, since a bar inside a cell loses its backslash. -/

namespace DocScribe.Markdown
open DocScribe Text BlockStart BlockReader

/-- The texts of a block and of the blocks inside it, but those of tables. -/
inductive RawBlock.AllTexts (holds : List Char → Prop) : RawBlock → Prop where
  | paragraph {text} (own : holds text) : AllTexts holds (.paragraph text)
  | heading {level text} (own : holds text) : AllTexts holds (.heading level text)
  | list {ordered items} (inside : ∀ item ∈ items, ∀ block ∈ item, AllTexts holds block) :
      AllTexts holds (.list ordered items)
  | quote {blocks} (inside : ∀ block ∈ blocks, AllTexts holds block) : AllTexts holds (.quote blocks)
  | table {rows} : AllTexts holds (.table rows)
  | code {text} (own : holds text.toList) : AllTexts holds (.code text)
  | rule : AllTexts holds .rule
  | html {source} (own : holds source.toList) : AllTexts holds (.html source)

variable {source : List Char}

def LinesOf (source : List Char) (lines : List Line) : Prop := ∀ line ∈ lines, WordsOf source line.chars

theorem LinesOf.sub {lines some : List Line} (words : LinesOf source lines) (among : some ⊆ lines) :
    LinesOf source some := fun line member => words line (among member)

section Cuts

private theorem cutColumns_suffix (line : Line) (width used passed : Nat) (text : List Char) :
    ∃ count rest, rest <:+ text ∧
      line.cutColumns width used passed text = List.replicate count ' ' ++ rest := by
  fun_induction Line.cutColumns line width used passed text with
  | case1 => exact ⟨_, [], List.suffix_refl _, (List.append_nil _).symm⟩
  | case2 => exact ⟨_, _, List.suffix_refl _, rfl⟩
  | case3 used passed c rest _ _ ih =>
    obtain ⟨count, left, behind, same⟩ := ih
    exact ⟨count, left, behind.trans (List.suffix_cons _ _), same⟩
  | case4 used passed c rest _ _ _ ih =>
    obtain ⟨count, left, behind, same⟩ := ih
    exact ⟨count, left, behind.trans (List.suffix_cons _ _), same⟩
  | case5 => exact ⟨0, _, List.suffix_refl _, rfl⟩

private theorem cut_words {line : Line} (words : WordsOf source line.chars) (width : Nat) : WordsOf source (line.cut width) := by
  obtain ⟨count, rest, behind, same⟩ := cutColumns_suffix line width 0 0 line.chars
  rw [Line.cut, same]
  exact (words.piece behind.isInfix).spaced count

theorem LinesOf.text {lines : List Line} (words : LinesOf source lines) (width : Nat) :
    WordsOf source (linesText width lines) :=
  WordsOf.lines (List.forall_mem_map.mpr fun line member => cut_words (words line member) width)

theorem LinesOf.code {lines : List Line} (words : LinesOf source lines) (width : Nat) :
    WordsOf source (codeLines width lines) := by
  induction lines with
  | nil => exact .nil
  | cons line lines ih =>
    obtain ⟨own, others⟩ := List.forall_mem_cons.mp words
    rw [codeLines, List.flatMap_cons, List.append_assoc]
    exact (cut_words own width).apart (.inr rfl) (ih others)

private theorem content_suffix (line : Line) : line.content <:+ line.chars := List.drop_suffix _ _

private theorem unquote_suffix (line : Line) : (unquote line).chars <:+ line.chars := by
  have behind : line.content.drop 1 <:+ line.chars := (List.drop_suffix _ _).trans (content_suffix line)
  unfold unquote
  dsimp only
  split
  next more found => exact (found ▸ List.suffix_cons ' ' more).trans behind
  next more found =>
    split
    · exact (found ▸ List.suffix_cons '\t' more).trans behind
    · exact behind
  next => exact behind

private theorem infix_headingText (text : List Char) : headingText text <:+: text := by
  have front := prefix_trimEndBy Text.isIndent text
  unfold headingText
  dsimp only
  refine (infix_trimBy _ _).trans ?_
  split
  · exact ((prefix_trimEndBy _ _).trans front).isInfix
  · exact front.isInfix

private theorem quoteRest_words {margin : Margin} {lastEmpty : Bool} {lines : List Line} (words : LinesOf source lines) :
    LinesOf source (quoteRest margin lastEmpty lines) := by
  induction lines generalizing lastEmpty with
  | nil => exact List.forall_mem_nil _
  | cons line rest ih =>
    obtain ⟨own, others⟩ := List.forall_mem_cons.mp words
    unfold quoteRest
    split
    · exact List.forall_mem_nil _
    · split
      · exact List.forall_mem_cons.mpr ⟨own.piece (unquote_suffix line).isInfix, ih others⟩
      · split
        · exact List.forall_mem_nil _
        · exact List.forall_mem_cons.mpr ⟨own, ih others⟩

end Cuts

def BlocksOf (source : List Char) (blocks : List RawBlock) : Prop :=
  ∀ block ∈ blocks, RawBlock.AllTexts (WordsOf source) block

def ReadsWords (source : List Char) (inside : ReadInside) : Prop :=
  ∀ margin lines definitions, LinesOf source lines → BlocksOf source (inside margin lines definitions).blocks

section Blocks
variable {inside insideQuote insideItem : ReadInside} {margin : Margin} {lines : List Line}
  {definitions : Definitions}

theorem BlocksOf.single {block : RawBlock} (words : RawBlock.AllTexts (WordsOf source) block) (taken : Nat) :
    BlocksOf source (found block definitions taken).blocks := List.forall_mem_singleton.mpr words

theorem LinesOf.first (words : LinesOf source lines) (count : Nat) : LinesOf source (lines.take count) :=
  words.sub (List.take_subset count lines)

theorem LinesOf.taken (words : LinesOf source lines) (width count : Nat) :
    WordsOf source (linesText width (lines.take count)) := (words.first count).text width

private theorem deepCode_words (words : LinesOf source lines) :
    ∀ run ∈ deepCode? margin lines definitions, BlocksOf source run.blocks := by
  intro run read
  unfold deepCode? at read
  split at read
  · split at read
    · cases read
      refine .single (.code ?_) _
      rw [String.toList_ofList]
      exact (words.first _).code _
    · cases read
  · cases read

private theorem fencedCode_words (words : LinesOf source lines) :
    ∀ run ∈ fencedCode? margin lines definitions, BlocksOf source run.blocks := by
  intro run read
  unfold fencedCode? at read
  split at read
  next line rest =>
    obtain ⟨fence, -, rfl⟩ := Option.map_eq_some_iff.mp read
    have behind : LinesOf source rest := words.sub (List.subset_cons_self _ _)
    refine .single (.code ?_) _
    rw [String.toList_ofList]
    exact (behind.first _).code _
  · cases read

private theorem quote_words (reads : ReadsWords source inside) (words : LinesOf source lines) :
    ∀ run ∈ quote? inside margin lines definitions, BlocksOf source run.blocks := by
  intro run read
  unfold quote? at read
  split at read
  next line rest =>
    obtain ⟨own, others⟩ := List.forall_mem_cons.mp words
    split at read
    · cases read
      refine List.forall_mem_singleton.mpr (.quote (reads _ _ _ ?_))
      exact List.forall_mem_cons.mpr ⟨own.piece (unquote_suffix line).isInfix, quoteRest_words others⟩
    · cases read
  · cases read

private theorem listItems_words (reads : ReadsWords source inside) {fuel : Nat} {mark : ItemMark} (words : LinesOf source lines) :
    ∀ item ∈ (listItems inside margin fuel mark lines definitions).1, BlocksOf source item := by
  induction fuel generalizing mark lines definitions with
  | zero => exact List.forall_mem_nil _
  | succ fuel ih =>
    cases lines with
    | nil => exact List.forall_mem_nil _
    | cons line rest =>
      -- the first line of an item holds the characters of the line itself
      have opened : LinesOf source ((openItem margin mark line).1 :: rest) := by
        obtain ⟨own, others⟩ := List.forall_mem_cons.mp words
        exact List.forall_mem_cons.mpr ⟨own, others⟩
      unfold listItems
      dsimp only
      generalize ran : (if (openItem margin mark line).1.isEmpty && rest.head?.all Line.isEmpty then
          (⟨[], definitions, min 2 (rest.length + 1)⟩ : BlockRun)
        else inside (openItem margin mark line).2 ((openItem margin mark line).1 :: rest) definitions) = run
      have first : BlocksOf source run.blocks := by
        rw [← ran]
        split
        · exact List.forall_mem_nil _
        · exact reads _ _ _ opened
      split
      · exact List.forall_mem_singleton.mpr first
      · refine List.forall_mem_cons.mpr ⟨first, ih ?_⟩
        exact words.sub (List.drop_subset _ _)

private theorem list_words (reads : ReadsWords source inside) (words : LinesOf source lines) :
    ∀ run ∈ BlockReader.list? inside margin lines definitions, BlocksOf source run.blocks := by
  intro run read
  unfold BlockReader.list? at read
  split at read
  next line rest =>
    obtain ⟨mark, -, rfl⟩ := Option.map_eq_some_iff.mp read
    have items : ∀ item ∈ (listItems inside margin (line :: rest).length mark (line :: rest) definitions).1, _ :=
      listItems_words reads words
    generalize listItems inside margin _ mark (line :: rest) definitions = result at items ⊢
    exact .single (.list items) _
  · cases read

private theorem html_words (words : LinesOf source lines) :
    ∀ run ∈ BlockReader.html? margin lines definitions, BlocksOf source run.blocks := by
  intro run read
  unfold BlockReader.html? at read
  split at read
  next line rest =>
    obtain ⟨⟨stop, interrupts⟩, -, rfl⟩ := Option.map_eq_some_iff.mp read
    refine .single (.html ?_) _
    rw [String.toList_ofList]
    exact words.taken _ _
  · cases read

private theorem heading_words (words : LinesOf source lines) :
    ∀ run ∈ BlockReader.heading? margin lines definitions, BlocksOf source run.blocks := by
  intro run read
  unfold BlockReader.heading? at read
  split at read
  next line rest =>
    obtain ⟨⟨level, text⟩, starts, rfl⟩ := Option.map_eq_some_iff.mp read
    have inside : text <:+ line.chars := by
      unfold BlockStart.heading? at starts
      dsimp only at starts
      split at starts
      · cases starts
      · cases starts
        exact (List.drop_suffix _ _).trans (content_suffix line)
    refine .single (.heading ?_) _
    exact (words line List.mem_cons_self).piece ((infix_headingText text).trans inside.isInfix)
  · cases read

private theorem underlinedHeading_words (words : LinesOf source lines) :
    ∀ run ∈ underlinedHeading? margin lines definitions, BlocksOf source run.blocks := by
  intro run read
  unfold underlinedHeading? at read
  split at read
  next line rest =>
    split at read
    · cases read
    · obtain ⟨⟨count, level⟩, -, rfl⟩ := Option.map_eq_some_iff.mp read
      exact .single (.heading ((words.taken _ _).piece (infix_trimBy _ _))) _
  · cases read

private theorem paragraph_words (words : LinesOf source lines) :
    BlocksOf source (paragraph margin lines definitions).blocks :=
  .single (.paragraph ((words.taken _ _).piece (infix_trimBy _ _))) _

private theorem definition_words :
    ∀ run ∈ definition? margin lines definitions, BlocksOf source run.blocks := by
  intro run read
  unfold definition? at read
  split at read
  · split at read
    · cases read
    · obtain ⟨found, -, rfl⟩ := Option.map_eq_some_iff.mp read
      exact List.forall_mem_nil _
  · cases read

private theorem table_words : ∀ run ∈ table? margin lines definitions, BlocksOf source run.blocks := by
  intro run read
  obtain ⟨header, -, rfl⟩ := Option.map_eq_some_iff.mp read
  exact .single .table _

private theorem rule_words : ∀ run ∈ rule? margin lines definitions, BlocksOf source run.blocks := by
  intro run read
  unfold rule? at read
  split at read
  · split at read
    · cases read
      exact .single .rule _
    · cases read
  · cases read

private theorem getD_holds {holds : BlockRun → Prop} {first : Option BlockRun} {last : BlockRun}
    (one : ∀ run ∈ first, holds run) (other : holds last) : holds (first.getD last) := by
  cases first with
  | none => exact other
  | some run => exact one run rfl

private theorem getD_orElse {holds : BlockRun → Prop} {first second : Option BlockRun} {last : BlockRun}
    (one : ∀ run ∈ first, holds run) (other : holds (second.getD last)) : holds ((first <|> second).getD last) := by
  cases first with
  | none => exact other
  | some run => exact one run rfl

private theorem blockAt_words (quotes : ReadsWords source insideQuote) (items : ReadsWords source insideItem)
    (words : LinesOf source lines) :
    BlocksOf source (blockAt insideQuote insideItem margin lines definitions).blocks := by
  unfold blockAt
  refine getD_orElse table_words ?_
  refine getD_orElse (deepCode_words words) ?_
  refine getD_orElse (fencedCode_words words) ?_
  refine getD_orElse (quote_words quotes words) ?_
  refine getD_orElse rule_words ?_
  refine getD_orElse (list_words items words) ?_
  refine getD_orElse definition_words ?_
  refine getD_orElse (html_words words) ?_
  refine getD_orElse (heading_words words) ?_
  exact getD_holds (underlinedHeading_words words) (paragraph_words words)

private theorem blocksFrom_words (quotes : ReadsWords source insideQuote) (items : ReadsWords source insideItem) {fuel : Nat}
    (words : LinesOf source lines) :
    BlocksOf source (blocksFrom insideQuote insideItem margin fuel lines definitions).blocks := by
  induction fuel generalizing lines definitions with
  | zero => exact List.forall_mem_nil _
  | succ fuel ih =>
    have shown : LinesOf source (lines.drop (emptyLines lines)) := words.sub (List.drop_subset _ _)
    unfold blocksFrom
    dsimp only
    split
    · exact List.forall_mem_nil _
    next line rest same =>
      rw [same] at shown
      split
      · exact List.forall_mem_nil _
      · refine List.forall_mem_append.mpr ⟨blockAt_words quotes items shown, ih ?_⟩
        exact shown.sub (List.Subset.trans (List.drop_subset _ _) (List.drop_subset _ _))

end Blocks

private theorem dropAll_words : ReadsWords source dropAll := fun _ _ _ _ => List.forall_mem_nil _

private theorem read_words (nesting : Nat) : ReadsWords source (read nesting) := by
  fun_induction read nesting with
  | case1 => exact dropAll_words
  | case2 => exact fun _ _ _ words => blocksFrom_words dropAll_words dropAll_words words
  | case3 nesting quotes items => exact fun _ _ _ words => blocksFrom_words quotes items words

private theorem lines_words (text : List Char) : LinesOf (Line.ofText.normalize text) (Line.ofText text) := by
  have parts : ∀ part ∈ splitAt '\n' (Line.ofText.normalize text), WordsOf (Line.ofText.normalize text) part :=
    fun part among => (WordsOf.refl _).piece (infix_of_mem_splitAt among)
  unfold Line.ofText LinesOf
  refine List.forall_mem_map.mpr ?_
  split
  · split
    · exact fun part among => parts part (List.dropLast_subset _ among)
    · exact parts
  · exact parts

/-- Every word of a block's text stands in the text that is read, with its line ends in one form. -/
theorem ofText_words (text : List Char) : BlocksOf (Line.ofText.normalize text) (RawBlock.ofText text).1 :=
  read_words _ _ _ _ (lines_words text)

end DocScribe.Markdown
