import DocScribe.Proofs.Markdown.PageBlocks
import DocScribe.Proofs.Markdown.SteadySpans

/-! Spans with line ends are written on several lines, each of which ends in a backslash but the last. They are read as
one paragraph where no line behind the first one starts another block or underlines what stands over it. -/

namespace DocScribe.Markdown
open DocScribe BlockStart BlockReader

/-- Lines that go on with a paragraph on the page. -/
def ContinuesParagraph : List Line → Prop
  | [] => True
  | line :: rest =>
    (line.isEmpty = false ∧ interruptsParagraph .page (line :: rest) = false ∧ underline? .page line = none) ∧
      ContinuesParagraph rest

instance decidableContinuesParagraph : (lines : List Line) → Decidable (ContinuesParagraph lines)
  | [] => inferInstanceAs (Decidable True)
  | line :: rest =>
    let _ := decidableContinuesParagraph rest
    inferInstanceAs (Decidable ((line.isEmpty = false ∧ interruptsParagraph .page (line :: rest) = false ∧
      underline? .page line = none) ∧
      ContinuesParagraph rest))

section Lines
variable {lines rest : List Line} (apart : rest.head?.all Line.isEmpty = true)
include apart

private theorem tableHeader?_append (some : lines ≠ []) : tableHeader? .page (lines ++ rest) = tableHeader? .page lines := by
  cases lines with
  | nil => exact absurd rfl some
  | cons line more =>
    cases more with
    | nil => exact tableHeader?_apart apart
    | cons => rfl

private theorem interruptsParagraph_append (some : lines ≠ []) :
    interruptsParagraph .page (lines ++ rest) = interruptsParagraph .page lines := by
  rw [interruptsParagraph, tableHeader?_append apart some, List.head?_append_of_ne_nil _ some, interruptsParagraph]

private theorem paragraphLines_continues (continues : ContinuesParagraph lines) :
    paragraphLines .page (lines ++ rest) = lines.length := by
  induction lines with
  | nil => exact paragraphLines_apart apart
  | cons line lines ih =>
    obtain ⟨⟨filled, goesOn, -⟩, others⟩ := continues
    have same := interruptsParagraph_append apart (List.cons_ne_nil line lines)
    rw [List.cons_append] at same ⊢
    simp [paragraphLines, filled, same, goesOn, ih others]

private theorem underlined?_continues (continues : ContinuesParagraph lines) : underlined? .page (lines ++ rest) = none := by
  induction lines with
  | nil => exact underlined?_apart apart
  | cons line lines ih =>
    obtain ⟨⟨filled, -, noLine⟩, others⟩ := continues
    simp [underlined?, filled, noLine, ih others]

end Lines

private theorem linesText_textLines (text : List Char) : linesText 0 (textLines text) = text := by
  have cut (chars : List Char) : (Line.ofChars chars).cut 0 = chars := by
    cases chars <;> simp [Line.cut, Line.cutColumns, Line.ofChars]
  rw [linesText, textLines, List.map_map]
  refine Eq.trans (congrArg (Text.joinWith ['\n']) (List.map_congr_left fun chars _ => cut chars)) ?_
  rw [List.map_id']
  exact Text.intercalate_splitAt '\n' text

section FirstLine

/-- The mark of an item is read off its digits and its sign, and off what follows the sign. -/
private theorem itemMark?_sign {digits after : List Char} {sign : Char} (numbers : ∀ c ∈ digits, c.isDigit = true)
    (noDigit : sign.isDigit = false) :
    itemMark? (digits ++ sign :: after) =
      (if digits.isEmpty then if sign == '*' || sign == '-' || sign == '+' then some ⟨false, 1, 0, sign⟩ else none
        else if digits.length ≤ 9 && (sign == '.' || sign == ')') then
          some ⟨true, digits.length + 1, Entity.decimalNat digits, sign⟩
        else none : Option ItemMark).filter fun _ => after.head?.all Text.isIndent := by
  have run : (digits ++ sign :: after).takeWhile Char.isDigit = digits := by
    rw [List.takeWhile_append_of_pos numbers]
    simp [noDigit]
  simp only [itemMark?, run, List.drop_left]
  cases digits with
  | nil =>
    simp only [List.isEmpty_nil, ↓reduceIte, List.nil_append]
    split <;> rfl
  | cons c digits =>
    have behind : (c :: digits ++ sign :: after).drop (digits.length + 1 + 1) = after := by
      rw [List.cons_append, List.drop_succ_cons, ← List.drop_drop, List.drop_left]
      rfl
    simp only [List.isEmpty_cons, Bool.false_eq_true, ↓reduceIte, List.length_cons]
    split
    · simp only [Option.filter, behind]
    · rfl

variable {first rest : List Char} (broken : first.getLast? = Option.some '\\')
include broken

private theorem itemMark?_front (noItem : itemMark? (first ++ rest) = none) : itemMark? first = none := by
  have numbers : ∀ c ∈ first.takeWhile Char.isDigit, c.isDigit = true :=
    fun c among => List.all_eq_true.mp List.all_takeWhile c among
  have whole := List.takeWhile_append_dropWhile (p := Char.isDigit) (l := first)
  have stops := List.head?_dropWhile_not Char.isDigit first
  cases left : first.dropWhile Char.isDigit with
  | nil =>
    rw [left, List.append_nil] at whole
    have digit := numbers '\\' (whole.symm ▸ List.mem_of_getLast? broken)
    exact absurd digit (by decide)
  | cons sign after =>
    rw [left] at whole stops
    have noDigit : sign.isDigit = false := by simpa using stops
    rw [← whole, List.append_assoc, List.cons_append, itemMark?_sign numbers noDigit] at noItem
    rw [← whole, itemMark?_sign numbers noDigit]
    cases after with
    | nil =>
      -- the sign is the backslash, which marks nothing
      obtain rfl : sign = '\\' := by
        rw [← whole, List.getLast?_concat] at broken
        exact Option.some.inj broken
      simp
    | cons c after => exact noItem

theorem IsUnmarked.firstLine (unmarked : IsUnmarked (first ++ '\n' :: rest)) (noBracket : first.head? ≠ Option.some '[') :
    IsUnmarked first := by
  have filled : first ≠ [] := by
    rintro rfl
    cases broken
  refine ⟨filled, itemMark?_front broken unmarked.noItem, ?_, ?_, ?_, ?_⟩
  · intro c same
    exact unmarked.plain c (by rwa [List.head?_append_of_ne_nil _ filled])
  · intro mark among
    have longer : (first.takeWhile (· == mark)).length ≤ ((first ++ '\n' :: rest).takeWhile (· == mark)).length := by
      rw [List.takeWhile_append]
      split
      · rw [List.length_append]
        omega
      · exact Nat.le_refl _
    exact Nat.lt_of_le_of_lt longer (unmarked.noFence mark among)
  · intro _
    exact ⟨'\\', List.mem_of_getLast? broken, by decide, by decide⟩
  · intro more
    obtain ⟨c, tail, rfl⟩ := List.exists_cons_of_ne_nil filled
    have other : c ≠ '[' := by simpa using noBracket
    simp [FoundDefinition.ofText?, other]

end FirstLine

/-- A line end stands behind a backslash only. -/
def BreaksHard (text : List Char) : Prop := ∀ front back, text = front ++ '\n' :: back → front.getLast? = some '\\'

namespace BreaksHard

private theorem of_noBreak {text : List Char} (noBreak : '\n' ∉ text) : BreaksHard text := by
  rintro front back rfl
  exact absurd (by simp) noBreak

private theorem append {text more : List Char} (first : BreaksHard text) (rest : BreaksHard more) :
    BreaksHard (text ++ more) := by
  intro front back split
  rcases List.append_eq_append_iff.mp split with ⟨between, rfl, behind⟩ | ⟨between, inside, behind⟩
  · have ends := rest between back behind
    have filled : between ≠ [] := by
      rintro rfl
      cases ends
    rwa [List.getLast?_append_of_ne_nil _ filled]
  · cases between with
    | nil => exact absurd (rest [] back behind.symm) (by simp)
    | cons c between =>
      obtain ⟨rfl, -⟩ := List.cons.inj behind
      exact first front between inside

private theorem flatMap {texts : List WrittenSpan} (each : ∀ written ∈ texts, BreaksHard written.text) :
    BreaksHard (texts.flatMap WrittenSpan.text) := by
  induction texts with
  | nil => exact of_noBreak (by simp)
  | cons written texts ih =>
    obtain ⟨own, others⟩ := List.forall_mem_cons.mp each
    rw [List.flatMap_cons]
    exact own.append (ih others)

end BreaksHard

private theorem Legible.breaksHard {tail text : List Char} {shown : List (Char × Bool)} (legible : Legible tail text shown) :
    BreaksHard text := by
  induction legible with
  | nil => exact .of_noBreak (by simp)
  | @literal c rest shown own more ih =>
    have single : '\n' ∉ [c] := by
      intro among
      exact own.1 (List.mem_singleton.mp among ▸ List.mem_cons_self ..)
    exact (BreaksHard.of_noBreak single).append ih
  | @escaped c rest shown mark more ih =>
    have pair : '\n' ∉ ['\\', c] := by
      intro among
      rcases List.mem_cons.mp among with slash | same
      · exact absurd slash (by decide)
      · exact absurd (List.mem_singleton.mp same ▸ mark) (by decide)
    exact (BreaksHard.of_noBreak pair).append ih
  | lineEnd starts more ih =>
    have pair : BreaksHard ['\\', '\n'] := by
      intro front back split
      cases front with
      | nil => cases split
      | cons c front =>
        obtain ⟨rfl, behind⟩ := List.cons.inj split
        cases front with
        | nil => rfl
        | cons d front => exact absurd (List.cons.inj behind).2 (by simp)
    exact pair.append ih
  | @code text rest shown valid apart more ih =>
    have span : '\n' ∉ '`' :: (text ++ ['`']) := by simp [valid.noBreak]
    have whole := (BreaksHard.of_noBreak span).append ih
    rwa [List.cons_append, List.append_assoc] at whole

private theorem WrittenSpan.IsSound.breaksHard {written : WrittenSpan} {before : Char} {tail : List Char}
    (sound : written.IsSound before tail) :
    BreaksHard written.text := by
  have marks {text : List Char} (own : ∀ c ∈ text, c = '*' ∨ c = '~') : BreaksHard text := by
    apply BreaksHard.of_noBreak
    intro among
    exact absurd (own _ among) (by decide)
  have body : BreaksHard written.body :=
    ((marks fun c => mem_opening).append sound.legible.breaksHard).append (marks fun c => mem_closing)
  cases link : written.span.style.link with
  | none =>
    rw [text, link]
    exact body
  | some target =>
    have bracket : BreaksHard ['['] := .of_noBreak (by decide)
    have printed : '\n' ∉ target.toList := fun among => absurd ((sound.target target link).printed _ among) (by decide)
    have behind : BreaksHard (behindLabel target.toList) := .of_noBreak (by simp [behindLabel, printed])
    rw [text_linked link]
    exact bracket.append (body.append behind)

private theorem SteadyText.breaksHard_rendered {spans : List Span} (steady : SteadyText spans) :
    BreaksHard (Render.spans spans) := by
  rw [steady.rendered_guarded]
  apply BreaksHard.flatMap
  intro written among
  obtain ⟨before, tail, sound⟩ := steady.allSound_guarded.each written among
  exact sound.breaksHard

/-- Spans that are read as one paragraph: hard breaks may stand in them where the next line starts nothing else. -/
structure SteadyParagraph (spans : List Span) : Prop extends SteadyText spans where
  noTable : tableHeader? .page (textLines (Render.spans spans)) = none
  continues : ContinuesParagraph (textLines (Render.spans spans)).tail
  label : ∀ span ∈ spans.head?, span.style.link ≠ none → '\n' ∉ span.text.toList

instance : DecidablePred SteadyParagraph := fun _ =>
  decidable_of_iff (_ ∧ _ ∧ _ ∧ _) ⟨fun ⟨steady, noTable, continues, label⟩ => ⟨steady, noTable, continues, label⟩,
    fun steady => ⟨steady.toSteadyText, steady.noTable, steady.continues, steady.label⟩⟩

/-- Spans on one line are a paragraph. -/
theorem SteadySpans.steadyParagraph {spans : List Span} (steady : SteadySpans spans) : SteadyParagraph spans := by
  have line : textLines (Render.spans spans) = [Line.ofChars (Render.spans spans)] := by
    rw [textLines, Text.splitAt_word steady.noBreak_rendered, List.map_singleton]
  refine ⟨steady.toSteadyText, ?_, ?_, fun span first _ => steady.oneLine span (List.mem_of_mem_head? first)⟩
  · rw [line]
    rfl
  · rw [line]
    trivial

namespace SteadyParagraph
variable {spans : List Span} (steady : SteadyParagraph spans)
include steady

private theorem isUnmarked_firstLine {first rest : List Char} (split : Render.spans spans = first ++ '\n' :: rest) :
    IsUnmarked first := by
  have broken := steady.breaksHard_rendered first rest split
  have filled : first ≠ [] := by
    rintro rfl
    cases broken
  by_cases bracket : first.head? = some '['
  · obtain ⟨span, leads, linked, label, more, opened, ends, inside⟩ :=
      steady.exists_label_rendered (by rwa [split, List.head?_append_of_ne_nil _ filled])
    have noBreak : '\n' ∉ '[' :: (label ++ [']', '(']) := by
      intro among
      simp only [List.mem_cons, List.mem_append, List.not_mem_nil, or_false] at among
      rcases among with same | own | same | same
      · exact absurd same (by decide)
      · rcases inside '\n' own with mark | shown
        · exact absurd mark (by decide)
        · exact steady.label span leads linked shown
      · exact absurd same (by decide)
      · exact absurd same (by decide)
    have whole : '[' :: (label ++ [']', '(']) ++ more = first ++ '\n' :: rest := by
      rw [← split, opened]
      simp
    rcases List.append_eq_append_iff.mp whole with ⟨between, rfl, -⟩ | ⟨between, same, behind⟩
    · have unmarked := (isUnmarked_link ends between).1
      simpa using unmarked
    · cases between with
      | nil =>
        rw [List.append_nil] at same
        have unmarked := (isUnmarked_link ends []).1
        simpa [← same] using unmarked
      | cons c between =>
        obtain ⟨rfl, -⟩ := List.cons.inj behind
        exact absurd (by simp [same]) noBreak
  · have some : spans ≠ [] := by
      rintro rfl
      simp [Render.spans, Render.guardStart] at split
    exact (split ▸ (steady.isUnmarked_rendered some).1).firstLine broken bracket

private theorem exists_firstLine (some : spans ≠ []) :
    ∃ first others, textLines (Render.spans spans) = ⟨first, 0, 0, 0⟩ :: others ∧ IsUnmarked first ∧
      first.head? ≠ Option.some '#' := by
  obtain ⟨unmarked, noHeading⟩ := steady.isUnmarked_rendered some
  have started : ∀ c ∈ (Render.spans spans).head?, Text.isIndent c = false :=
    fun c first => isIndent_of_shown (steady.rendered_ends.1 c first)
  by_cases broken : '\n' ∈ Render.spans spans
  · obtain ⟨first, rest, split, noBreak⟩ := List.eq_append_cons_of_mem broken
    have own := steady.isUnmarked_firstLine split
    have same : (Render.spans spans).head? = first.head? := by rw [split, List.head?_append_of_ne_nil _ own.some]
    refine ⟨first, textLines rest, ?_, own, same ▸ noHeading⟩
    rw [textLines, split, Text.splitAt_append, Text.splitAt_word noBreak, List.singleton_append, List.map_cons,
      ofChars_started (same ▸ started)]
    rfl
  · refine ⟨Render.spans spans, [], ?_, unmarked, noHeading⟩
    rw [textLines, Text.splitAt_word broken, List.map_singleton, ofChars_started started]

theorem isBlockText (some : spans ≠ []) : IsBlockText (Render.spans spans) (.paragraph (Render.spans spans)) := by
  obtain ⟨first, others, lines, unmarked, noHeading⟩ := steady.exists_firstLine some
  have noTable := steady.noTable
  have continues := steady.continues
  rw [lines] at noTable
  rw [lines, List.tail_cons] at continues
  refine ⟨steady.clean_rendered, ⟨_, _, lines, ?_, rfl, unmarked.noItem⟩,
    fun insideQuote insideItem rest definitions apart => ?_⟩
  · simpa [Line.isEmpty, Line.content] using unmarked.some
  · have own : IsUnmarked (⟨first, 0, 0, 0⟩ : Line).content := unmarked
    have header : tableHeader? .page (⟨first, 0, 0, 0⟩ :: (others ++ rest)) = none :=
      (tableHeader?_append apart (List.cons_ne_nil _ others)).trans noTable
    have whole : linesText 0 (⟨first, 0, 0, 0⟩ :: others) = Render.spans spans :=
      lines ▸ linesText_textLines (Render.spans spans)
    rw [lines, List.cons_append, blockAt_paragraphLines own noHeading rfl header (underlined?_continues apart continues),
      paragraphLines_continues apart continues, List.take_left, List.length_cons]
    change found (.paragraph (Text.trimBy Text.isMargin (linesText 0 _))) definitions _ = _
    rw [whole, steady.trimmed_rendered]

end SteadyParagraph

end DocScribe.Markdown
