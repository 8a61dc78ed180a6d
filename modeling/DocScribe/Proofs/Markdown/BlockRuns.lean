import DocScribe.Proofs.Markdown.PageLines

/-! A run of blocks is read one block after the other, whatever the fuel is that is left. -/

namespace DocScribe.Markdown
open DocScribe BlockStart BlockReader

/-- The blocks that are read from lines, and the lines that are left behind them. -/
def Yields (insideQuote insideItem : ReadInside) (margin : Margin) (lines : List Line)
    (blocks : List RawBlock) (left : List Line) : Prop :=
  ∃ taken, lines.drop taken = left ∧ ∀ fuel definitions, lines.length < fuel →
    blocksFrom insideQuote insideItem margin fuel lines definitions = ⟨blocks, definitions, taken⟩

variable {insideQuote insideItem : ReadInside} {margin : Margin} {line : Line} {rest : List Line}

theorem yields_nil : Yields insideQuote insideItem margin [] [] [] := by
  refine ⟨0, rfl, fun fuel definitions enough => ?_⟩
  cases fuel with
  | zero => rfl
  | succ fuel => rfl

theorem yields_outside (some : line.isEmpty = false) (outside : line.isOutside margin = true) :
    Yields insideQuote insideItem margin (line :: rest) [] (line :: rest) := by
  refine ⟨0, rfl, fun fuel definitions enough => ?_⟩
  cases fuel with
  | zero => rfl
  | succ fuel => simp [blocksFrom, emptyLines, some, outside]

/-- Lines behind a block: an empty line there belongs to the block. -/
def skipGap (lines : List Line) : List Line := lines.drop (if lines.head?.any Line.isEmpty then 1 else 0)

theorem skipGap_empty (empty : line.isEmpty = true) : skipGap (line :: rest) = rest := by
  simp [skipGap, empty]

theorem skipGap_filled (some : line.isEmpty = false) : skipGap (line :: rest) = line :: rest := by
  simp [skipGap, some]

theorem blocksFrom_after {more : List RawBlock} {blocks : List RawBlock} {count : Nat} {left : List Line}
    (some : line.isEmpty = false) (inside : line.isOutside margin = false)
    (reads : ∀ definitions,
      blockAt insideQuote insideItem margin (line :: rest) definitions = ⟨blocks, definitions, count + 1⟩)
    (later : Yields insideQuote insideItem margin (skipGap (rest.drop count)) more left) :
    ∃ taken, rest.drop taken = left ∧ ∀ fuel definitions, (line :: rest).length < fuel →
      blocksFrom insideQuote insideItem margin fuel (line :: rest) definitions = ⟨blocks ++ more, definitions, taken + 1⟩ := by
  obtain ⟨taken, behind, later⟩ := later
  rw [skipGap] at behind later
  generalize gap : (if (rest.drop count).head?.any Line.isEmpty then 1 else 0) = width at behind later
  refine ⟨count + (width + taken), ?_, fun fuel definitions enough => ?_⟩
  · rw [← behind, List.drop_drop, List.drop_drop]
  · cases fuel with
    | zero => exact absurd enough (Nat.not_lt_zero _)
    | succ fuel =>
      have fits : ((rest.drop count).drop width).length < fuel := by
        simp only [List.length_drop, List.length_cons] at enough ⊢
        omega
      have skipped : emptyLines (line :: rest) = 0 := by simp [emptyLines, some]
      have whole : 0 + (count + 1) + width + taken = count + (width + taken) + 1 := by omega
      simp only [blocksFrom, skipped, List.drop_zero, inside, Bool.false_eq_true, ↓reduceIte, reads,
        List.drop_succ_cons, gap, later fuel definitions fits, whole]

theorem Yields.after {more : List RawBlock} {blocks : List RawBlock} {count : Nat} {left : List Line}
    (some : line.isEmpty = false) (inside : line.isOutside margin = false)
    (reads : ∀ definitions,
      blockAt insideQuote insideItem margin (line :: rest) definitions = ⟨blocks, definitions, count + 1⟩)
    (later : Yields insideQuote insideItem margin (skipGap (rest.drop count)) more left) :
    Yields insideQuote insideItem margin (line :: rest) (blocks ++ more) left := by
  obtain ⟨taken, behind, read⟩ := blocksFrom_after some inside reads later
  exact ⟨taken + 1, by rwa [List.drop_succ_cons], read⟩

end DocScribe.Markdown
