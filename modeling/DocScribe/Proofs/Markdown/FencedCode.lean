import DocScribe.Proofs.Markdown.BlockStarts

/-! Code between fences that are longer than any run of backticks inside is read as it was written. -/

namespace DocScribe.Markdown
open DocScribe BlockStart BlockReader

private theorem takeWhile_le_longestTicks (current : Nat) (text : List Char) :
    current + (text.takeWhile (· == '`')).length ≤ Render.longestTicks current text := by
  induction text generalizing current with
  | nil => simp [Render.longestTicks]
  | cons c rest ih =>
    have more := ih (current + 1)
    unfold Render.longestTicks
    by_cases tick : c = '`'
    · simp only [tick, beq_self_eq_true, List.takeWhile_cons_of_pos, List.length_cons, ↓reduceIte]
      omega
    · simp only [tick, beq_iff_eq, not_false_eq_true, List.takeWhile_cons_of_neg, List.length_nil, Nat.add_zero, ↓reduceIte]
      exact Nat.le_max_left ..

private theorem suffix_le_longestTicks (current : Nat) {suffix text : List Char} (ends : suffix <:+ text) :
    (suffix.takeWhile (· == '`')).length ≤ Render.longestTicks current text := by
  induction text generalizing current with
  | nil => simp [List.suffix_nil.mp ends]
  | cons c rest ih =>
    rcases List.suffix_cons_iff.mp ends with rfl | inner
    · have := takeWhile_le_longestTicks current (c :: rest)
      omega
    · unfold Render.longestTicks
      split
      · exact ih (current + 1) inner
      · exact Nat.le_trans (ih 0 inner) (Nat.le_max_right ..)

private theorem infix_le_longestTicks {part text : List Char} (inner : part <:+: text) :
    (part.takeWhile (· == '`')).length ≤ Render.longestTicks 0 text := by
  obtain ⟨before, after, rfl⟩ := inner
  have longer : (part.takeWhile (· == '`')).length ≤ ((part ++ after).takeWhile (· == '`')).length := by
    rw [List.takeWhile_append]
    split
    · rename_i whole
      simp [whole]
    · exact Nat.le_refl _
  refine Nat.le_trans longer (suffix_le_longestTicks 0 ⟨before, ?_⟩)
  rw [List.append_assoc]

@[simp] theorem cut_zero (line : Line) : line.cut 0 = line.chars := by
  unfold Line.cut
  cases line.chars <;> simp [Line.cutColumns]

private theorem isOutside_page (chars : List Char) : (Line.ofChars chars).isOutside .page = false := by
  have column : ¬ ((Line.contentColumn 0 0 chars : Int) < 0) := by omega
  simp [Line.isOutside, Line.ofChars, Margin.page, column]

private theorem fencedLines_closed {fence : Fence} {inner : List (List Char)} {closing : Line} (more : List Line)
    (short : ∀ part ∈ inner, ∀ lead, ((part.drop lead).takeWhile (· == fence.mark)).length < fence.length)
    (closes : closesFence .page fence closing = true) (inside : closing.isOutside .page = false) :
    fencedLines .page fence (inner.map Line.ofChars ++ closing :: more) = (inner.length, true) := by
  induction inner with
  | nil => simp [fencedLines, closes, inside]
  | cons part inner ih =>
    have own : ¬ fence.length ≤ ((Line.ofChars part).content.takeWhile (· == fence.mark)).length :=
      Nat.not_le_of_lt (short part (List.mem_cons_self ..) _)
    have later := ih fun other among => short other (List.mem_cons_of_mem _ among)
    simp [fencedLines, isOutside_page, closesFence, own, later]

def fenceOf (text : List Char) : List Char := List.replicate (max 3 (Render.longestTicks 0 text + 1)) '`'

theorem ofChars_fenceOf (text : List Char) : Line.ofChars (fenceOf text) = ⟨fenceOf text, 0, 0, 0⟩ := by
  refine ofChars_started fun c first => ?_
  rw [List.eq_of_mem_replicate (List.mem_of_head? first)]
  rfl

theorem textLines_codeBlock (text : List Char) :
    textLines (Render.codeBlock text) =
      Line.ofChars (fenceOf text) :: (textLines text ++ [Line.ofChars (fenceOf text)]) := by
  have plain : Text.splitAt '\n' (fenceOf text) = [fenceOf text] := Text.splitAt_word (by simp [fenceOf])
  have shape : Render.codeBlock text = fenceOf text ++ '\n' :: (text ++ '\n' :: fenceOf text) := by
    simp [Render.codeBlock, fenceOf]
  rw [textLines, shape, Text.splitAt_append, Text.splitAt_append, plain]
  simp [textLines]

theorem blockAt_codeBlock {insideQuote insideItem : ReadInside} {definitions : Definitions}
    (text : List Char) (more : List Line) :
    blockAt insideQuote insideItem .page (textLines (Render.codeBlock text) ++ more) definitions =
      found (.code (.ofList text ++ "\n")) definitions (textLines (Render.codeBlock text)).length := by
  obtain ⟨size, fenced⟩ : ∃ size, max 3 (Render.longestTicks 0 text + 1) = size + 3 :=
    ⟨max 3 (Render.longestTicks 0 text + 1) - 3, by omega⟩
  have content : (Line.ofChars (fenceOf text)).content = '`' :: List.replicate (size + 2) '`' := by
    rw [ofChars_fenceOf]
    simp [Line.content, fenceOf, fenced, List.replicate_succ]
  have indent : (Line.ofChars (fenceOf text)).indent = 0 := by rw [ofChars_fenceOf]
  have shallow : (Line.ofChars (fenceOf text)).isDeep .page = false := by
    simp [Line.isDeep, indent, Margin.page]
  have opens : fence? .page (Line.ofChars (fenceOf text)) = some ⟨'`', size + 3, 0⟩ := by
    simp [fence?, content, shallow, indent, Nat.add_comm 1]
  have closes : closesFence .page ⟨'`', size + 3, 0⟩ (Line.ofChars (fenceOf text)) = true := by
    simp [closesFence, content, shallow]
  have short : ∀ part ∈ Text.splitAt '\n' text, ∀ lead, ((part.drop lead).takeWhile (· == '`')).length < size + 3 := by
    intro part among lead
    have inner := (List.drop_suffix lead part).isInfix.trans (Text.infix_of_mem_splitAt among)
    have := infix_le_longestTicks inner
    omega
  have enclosed := fencedLines_closed more short closes (isOutside_page _)
  have noTable (rest : List Line) : tableHeader? .page (Line.ofChars (fenceOf text) :: rest) = none :=
    tableHeader?_noBar (by simp [content])
  have inside : codeLines 0 ((Text.splitAt '\n' text).map Line.ofChars) = text ++ ['\n'] := by
    rw [codeLines, List.flatMap_map, ← Text.flatMap_splitAt]
    congr 1
    funext part
    rw [cut_zero]
    rfl
  have count : ((Text.splitAt '\n' text).map Line.ofChars).length = (Text.splitAt '\n' text).length := List.length_map _
  rw [textLines_codeBlock]
  simp only [textLines, List.cons_append, List.append_assoc]
  simp [blockAt, table?, noTable, deepCode?, shallow, fencedCode?, opens, enclosed, count, inside, String.ofList_append]

theorem blockAt_rule {insideQuote insideItem : ReadInside} {definitions : Definitions} (more : List Line) :
    blockAt insideQuote insideItem .page (textLines "---".toList ++ more) definitions = found .rule definitions 1 := by
  have noTable : tableHeader? .page (Line.ofChars "---".toList :: more) = none := tableHeader?_noBar (by decide)
  change blockAt _ _ _ (Line.ofChars "---".toList :: more) _ = _
  simp only [blockAt, table?, noTable]
  rfl

end DocScribe.Markdown
