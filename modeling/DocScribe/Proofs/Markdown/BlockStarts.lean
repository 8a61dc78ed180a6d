import DocScribe.Proofs.Markdown.BlockRuns

/-! What a line starts, judged by its first characters and by the line below it. -/

namespace DocScribe.Markdown
open DocScribe BlockStart BlockReader

variable {insideQuote insideItem : ReadInside} {margin : Margin} {line : Line} {rest : List Line}
  {definitions : Definitions}

/-- Starts neither a quote, a rule, an item, a definition, HTML nor a fence. -/
structure IsUnmarked (content : List Char) : Prop where
  some : content ≠ []
  noItem : itemMark? content = none
  plain : ∀ c ∈ content.head?, c ∉ ['>', '-', '_', '<']
  noFence : ∀ mark ∈ ['`', '~'], (content.takeWhile (· == mark)).length < 3
  noRule : content.head? = .some '*' → ∃ c ∈ content, c ≠ '*' ∧ Text.isIndent c = false
  noDefinition : ∀ more, FoundDefinition.ofText? (content ++ '\n' :: more) = none

/-- A text that starts with no mark starts nothing but an item. -/
theorem isUnmarked_plain {c : Char} {tail : List Char} (noItem : itemMark? (c :: tail) = none)
    (others : c ∉ ['~', '>', '*', '-', '_', '[', '<', '`']) : IsUnmarked (c :: tail) where
  some := List.cons_ne_nil c tail
  noItem := noItem
  plain := by
    rintro d first among
    obtain rfl := Option.some.inj first
    have known : ∀ d ∈ ['>', '-', '_', '<'], d ∈ ['~', '>', '*', '-', '_', '[', '<', '`'] := by decide
    exact others (known _ among)
  noFence := by
    intro mark among
    have other : (c == mark) = false := by
      refine beq_false_of_ne fun same => others ?_
      have known : ∀ d ∈ ['`', '~'], d ∈ ['~', '>', '*', '-', '_', '[', '<', '`'] := by decide
      exact same ▸ known mark among
    simp [other]
  noRule := by
    intro star
    obtain rfl := Option.some.inj star
    exact absurd others (by decide)
  noDefinition := by
    intro more
    have other : c ≠ '[' := by
      rintro rfl
      exact others (by decide)
    simp [FoundDefinition.ofText?, other]

theorem fence?_unmarked (unmarked : IsUnmarked line.content) : fence? margin line = none := by
  have few := unmarked.noFence
  unfold fence?
  split
  next mark rest content =>
    by_cases known : mark ∈ ['`', '~']
    · have short := few mark known
      rw [content, List.takeWhile_cons, beq_self_eq_true, if_pos rfl, List.length_cons] at short
      have run : 1 + (rest.takeWhile (· == mark)).length < 3 := by omega
      simp [run]
    · simp only [List.mem_cons, List.not_mem_nil, or_false, not_or] at known
      simp [known]
  · rfl

theorem isQuote_unmarked (unmarked : IsUnmarked line.content) : isQuote margin line = false := by
  have other : line.content.head? ≠ some '>' := fun first => unmarked.plain '>' first (by decide)
  simp [isQuote, other]

theorem isRule_unmarked (unmarked : IsUnmarked line.content) : isRule margin line = false := by
  unfold isRule
  split
  next mark rest content =>
    have others := unmarked.plain mark (by simp [content])
    simp only [List.mem_cons, List.not_mem_nil, or_false, not_or] at others
    by_cases star : mark = '*'
    · obtain ⟨c, among, other, shown⟩ := unmarked.noRule (by simp [content, star])
      have inside : c ∈ rest := by simpa [content, star, other] using among
      have stops : rest.all (fun d => d == mark || Text.isIndent d) = false :=
        List.all_eq_false.mpr ⟨c, inside, by simp [star, other, shown]⟩
      simp [stops]
    · simp [star, others]
  · rfl

theorem html?_unmarked (unmarked : IsUnmarked line.content) : BlockStart.html? margin line = none := by
  unfold BlockStart.html? htmlEnd?
  split
  · rfl
  · split
    next same => exact absurd (List.mem_cons_of_mem _ (by decide)) (unmarked.plain '<' (by simp [same]))
    · rfl

theorem list?_unmarked (unmarked : IsUnmarked line.content) : BlockStart.list? margin line = none := by
  unfold BlockStart.list?
  dsimp only
  split
  · rfl
  · exact unmarked.noItem

/-- What is left for a line that starts nothing else: a heading or a paragraph. -/
theorem blockAt_unmarked (unmarked : IsUnmarked line.content) (shallow : line.isDeep margin = false)
    (noTable : tableHeader? margin (line :: rest) = none) :
    blockAt insideQuote insideItem margin (line :: rest) definitions =
      (BlockReader.heading? margin (line :: rest) definitions <|>
        underlinedHeading? margin (line :: rest) definitions).getD
      (paragraph margin (line :: rest) definitions) := by
  have noDefinition : definition? margin (line :: rest) definitions = none := by
    unfold definition?
    dsimp only
    split
    · rfl
    · rw [List.flatMap_cons, List.append_assoc]
      exact congrArg (Option.map _) (unmarked.noDefinition _)
  simp only [blockAt, table?, noTable, deepCode?, shallow, fencedCode?, fence?_unmarked unmarked, quote?,
    isQuote_unmarked unmarked, rule?, isRule_unmarked unmarked, BlockReader.list?, list?_unmarked unmarked,
    noDefinition, BlockReader.html?, html?_unmarked unmarked, Option.map_none, Bool.false_eq_true, ↓reduceIte]
  rfl

theorem tableHeader?_noBar (noBar : '|' ∉ line.content) : tableHeader? margin (line :: rest) = none := by
  cases rest with
  | nil => rfl
  | cons under rest => simp [tableHeader?, noBar]

/-- A line over an empty one, or the last line, is not a header of a table. -/
theorem tableHeader?_apart (apart : rest.head?.all Line.isEmpty = true) :
    tableHeader? margin (line :: rest) = none := by
  cases rest with
  | nil => rfl
  | cons under rest =>
    have empty : under.content = [] := by simpa [Line.isEmpty] using apart
    simp only [tableHeader?, empty, columns?]
    split <;> simp

theorem underlined?_apart (apart : rest.head?.all Line.isEmpty = true) : underlined? margin rest = none := by
  cases rest with
  | nil => rfl
  | cons under rest => simp [underlined?, show under.isEmpty = true by simpa using apart]

theorem paragraphLines_apart (apart : rest.head?.all Line.isEmpty = true) : paragraphLines margin rest = 0 := by
  cases rest with
  | nil => rfl
  | cons under rest => simp [paragraphLines, show under.isEmpty = true by simpa using apart]

theorem blockAt_heading {level : Nat} {tail : List Char}
    (content : line.content = List.replicate (level + 1) '#' ++ ' ' :: tail) (small : level < 6)
    (shallow : line.isDeep margin = false) (apart : rest.head?.all Line.isEmpty = true) :
    blockAt insideQuote insideItem margin (line :: rest) definitions =
      found (.heading (level + 1) (headingText (' ' :: tail))) definitions 1 := by
  have unmarked : IsUnmarked line.content := by
    rw [content]
    exact isUnmarked_plain rfl (by decide)
  have marks : (line.content.takeWhile (· == '#')).length = level + 1 := by
    rw [content, List.takeWhile_append_of_pos (by simp)]
    simp
  have behind : line.content.drop (level + 1) = ' ' :: tail := by
    rw [content, List.drop_left' (by simp)]
  have heading : BlockStart.heading? margin line = some (level + 1, ' ' :: tail) := by
    have few : ¬ 6 < level + 1 := by omega
    simp [BlockStart.heading?, marks, behind, shallow, few, Text.isIndent]
  rw [blockAt_unmarked unmarked shallow (tableHeader?_apart apart)]
  simp [BlockReader.heading?, heading]

/-- The lines that go on with a paragraph are taken with its first one. -/
theorem blockAt_paragraphLines (unmarked : IsUnmarked line.content) (noHeading : line.content.head? ≠ some '#')
    (shallow : line.isDeep margin = false) (noTable : tableHeader? margin (line :: rest) = none)
    (noLine : underlined? margin rest = none) :
    blockAt insideQuote insideItem margin (line :: rest) definitions =
      found (.paragraph (Text.trimBy Text.isMargin (linesText margin.indent.toNat (line :: rest.take (paragraphLines margin rest)))))
        definitions (paragraphLines margin rest + 1) := by
  have heading : BlockStart.heading? margin line = none := by
    have none : line.content.takeWhile (· == '#') = [] := by
      obtain ⟨c, tail, content⟩ := List.exists_cons_of_ne_nil unmarked.some
      have other : (c == '#') = false := by simpa [content] using noHeading
      simp [content, other]
    simp [BlockStart.heading?, none]
  rw [blockAt_unmarked unmarked shallow noTable]
  simp [BlockReader.heading?, heading, underlinedHeading?, noLine, shallow, paragraph]

theorem blockAt_paragraph (unmarked : IsUnmarked line.content) (noHeading : line.content.head? ≠ some '#')
    (shallow : line.isDeep margin = false) (noTable : tableHeader? margin (line :: rest) = none)
    (noLine : underlined? margin rest = none) (ends : paragraphLines margin rest = 0) :
    blockAt insideQuote insideItem margin (line :: rest) definitions =
      found (.paragraph (Text.trimBy Text.isMargin (line.cut margin.indent.toNat))) definitions 1 := by
  rw [blockAt_paragraphLines unmarked noHeading shallow noTable noLine, ends]
  simp [linesText, Text.joinWith]

end DocScribe.Markdown
