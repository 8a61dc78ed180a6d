import DocScribe.Markdown.Render
import DocScribe.Proofs.Markdown.PageLines
import DocScribe.Proofs.Markdown.SpanReading

/-! What stands between the marks of a span is legible, whatever marks stand behind it. -/

namespace DocScribe.Markdown
open DocScribe

/-- A character reference stands in a text. -/
def holdsReference : List Char → Bool
  | [] => false
  | c :: rest => (c == '&' && (Entity.reference? rest).isSome) || holdsReference rest

/-- A line of a text starts with a blank. -/
def holdsIndent : List Char → Bool
  | [] => false
  | c :: rest => (c == '\n' && rest.head?.any Text.isIndent) || holdsIndent rest

/-- The text of a span as it is written between its marks. -/
def Span.core (span : Span) : List Char :=
  if span.style.code then Render.codeSpan span.text.toList else Render.plainText span.text.toList

section PlainText
variable {text tail : List Char}

theorem plainText_cons (c : Char) (text : List Char) :
    Render.plainText (c :: text) = (if c = '\n' ∨ Render.isMark c = true then ['\\', c] else [c]) ++ Render.plainText text := by
  have slash : ('\\' == '\n') = false := by decide
  unfold Render.plainText Render.escape
  rw [List.flatMap_cons, List.flatMap_append]
  congr 1
  by_cases lineEnd : c = '\n'
  · subst lineEnd
    rfl
  · by_cases mark : Render.isMark c = true <;> simp [lineEnd, mark]

private theorem mem_marks {c : Char} (mark : Render.isMark c = true) : c ∈ "\\`*_[]~<>|".toList :=
  List.contains_iff_mem.mp mark

def isReferenceChar (c : Char) : Bool := c.isAlphanum || c == '#'

theorem body?_eq (text : List Char) : Entity.body? text =
    if (text.dropWhile isReferenceChar).head? == some ';' then some (text.takeWhile isReferenceChar) else none := by
  have rest : text.drop (text.takeWhile isReferenceChar).length = text.dropWhile isReferenceChar := by
    conv_lhs => arg 2; rw [← List.takeWhile_append_dropWhile (p := isReferenceChar) (l := text)]
    rw [List.drop_left]
  rw [← rest]
  rfl

private theorem body?_plainText (follows : StartsMarked tail) :
    Entity.body? (Render.plainText text ++ tail) = Entity.body? text := by
  have same : (Render.plainText text ++ tail).takeWhile isReferenceChar = text.takeWhile isReferenceChar ∧
      (((Render.plainText text ++ tail).dropWhile isReferenceChar).head? == some ';') =
        ((text.dropWhile isReferenceChar).head? == some ';') := by
    induction text with
    | nil =>
      cases tail with
      | nil => exact ⟨rfl, rfl⟩
      | cons c rest =>
        have stops : ∀ c ∈ ['*', '~', '`', '[', ']'], isReferenceChar c = false ∧ c ≠ ';' := by decide
        obtain ⟨own, noEnd⟩ := stops c (follows c rfl)
        simp [Render.plainText, Render.escape, own, noEnd]
    | cons c text ih =>
      obtain ⟨front, back⟩ := ih
      rw [plainText_cons]
      by_cases mark : c = '\n' ∨ Render.isMark c = true
      · have stops : ∀ c ∈ '\n' :: "\\`*_[]~<>|".toList, isReferenceChar c = false ∧ c ≠ ';' := by decide
        have slash : isReferenceChar '\\' = false := by decide
        obtain ⟨own, noEnd⟩ := stops c (List.mem_cons.mpr (mark.imp_right mem_marks))
        simp [mark, own, slash, noEnd]
      · by_cases own : isReferenceChar c = true
        · simp [mark, own, front, back]
        · simp [mark, own]
  rw [body?_eq, body?_eq, same.1, same.2]

private theorem reference?_plainText (follows : StartsMarked tail) :
    Entity.reference? (Render.plainText text ++ tail) = Entity.reference? text := by
  simp only [Entity.reference?, body?_plainText follows]

/-- What is written for plain text starts with its first character, or with a backslash. -/
theorem head?_plainText {c : Char} (some : text ≠ []) (first : (Render.plainText text ++ tail).head? = .some c) :
    c = '\\' ∨ (text.head? = .some c ∧ c ≠ '\n' ∧ Render.isMark c = false) := by
  obtain ⟨d, text, rfl⟩ := List.exists_cons_of_ne_nil some
  rw [plainText_cons] at first
  by_cases mark : d = '\n' ∨ Render.isMark d = true
  · simp only [mark, ↓reduceIte] at first
    exact .inl (Option.some.inj first).symm
  · simp only [mark, ↓reduceIte] at first
    obtain rfl := Option.some.inj first
    exact .inr ⟨rfl, fun same => mark (.inl same), Bool.eq_false_iff.mpr fun own => mark (.inr own)⟩

private theorem getLast?_plainText (text : List Char) : (Render.plainText text).getLast? = text.getLast? := by
  induction text with
  | nil => rfl
  | cons c text ih =>
    have single : (if c = '\n' ∨ Render.isMark c = true then ['\\', c] else [c]).getLast? = some c := by split <;> rfl
    rw [plainText_cons, List.getLast?_append, ih, single, List.getLast?_cons]
    cases text.getLast? <;> rfl

private theorem plainText_ne_nil (some : text ≠ []) : Render.plainText text ≠ [] := by
  intro none
  have last := getLast?_plainText text
  rw [none] at last
  exact some (List.getLast?_eq_none_iff.mp last.symm)

theorem legible_plainText (noReference : holdsReference text = false) (noIndent : holdsIndent text = false)
    (follows : StartsMarked tail)
    (noImage : tail.head? = some '[' → text.getLast? ≠ some '!') :
      Legible tail (Render.plainText text) (text.map (·, false)) := by
  induction text with
  | nil => exact .nil
  | cons c text ih =>
    simp only [holdsReference, Bool.or_eq_false_iff, Bool.and_eq_false_iff] at noReference
    simp only [holdsIndent, Bool.or_eq_false_iff, Bool.and_eq_false_iff] at noIndent
    have later := ih noReference.2 noIndent.2 fun bracket last => by
      have some : text ≠ [] := by
        rintro rfl
        cases last
      exact noImage bracket (by rwa [List.getLast?_cons_of_ne_nil some])
    rw [plainText_cons, List.map_cons]
    by_cases lineEnd : c = '\n'
    · subst lineEnd
      refine .lineEnd (fun d first => ?_) later
      by_cases some : text = []
      · subst some
        have shown : ∀ d ∈ ['*', '~', '`', '[', ']'], Text.isIndent d = false := by decide
        exact shown d (follows d first)
      · rcases head?_plainText some first with rfl | ⟨same, -, -⟩
        · decide
        · simpa [same] using noIndent.1
    · by_cases mark : Render.isMark c = true
      · have punctuation : ∀ c ∈ "\\`*_[]~<>|".toList, Text.isAsciiPunctuation c = true := by decide
        rw [if_pos (.inr mark)]
        exact .escaped (punctuation c (mem_marks mark)) later
      · rw [if_neg (not_or.mpr ⟨lineEnd, mark⟩)]
        refine .literal ⟨?_, ?_, ?_⟩ later
        · intro among
          rcases List.mem_cons.mp among with rfl | among
          · exact lineEnd rfl
          · have marks : ∀ c ∈ ['\\', '`', '~', '*', '_', '[', ']', '<'], Render.isMark c = true := by decide
            exact mark (marks c among)
        · rintro rfl bracket
          by_cases some : text = []
          · subst some
            exact noImage bracket rfl
          · rcases head?_plainText some bracket with slash | ⟨-, -, plain⟩
            · exact absurd slash (by decide)
            · exact absurd plain (by decide)
        · rintro rfl
          change Entity.reference? (Render.plainText text ++ tail) = none
          rw [reference?_plainText follows]
          simpa using noReference.1

end PlainText

theorem IsTarget.clean {target : List Char} (valid : IsTarget target) : IsClean target := by
  intro c among
  have printed := valid.printed c among
  constructor
  all_goals
    rintro rfl
    exact absurd printed (by decide)

/-- Plain text without character references, or code that is kept, which stands close to its marks. -/
structure Span.IsSimple (span : Span) : Prop where
  clean : IsClean span.text.toList
  kind : (span.style.code = false ∧ span.text ≠ "" ∧ holdsReference span.text.toList = false ∧
    holdsIndent span.text.toList = false) ∨
    (span.style.code = true ∧ IsCodeText span.text.toList)
  firm : span.style.opening ≠ [] →
    (∀ c ∈ span.core.head?, Text.isSpacing c = false) ∧ ∀ c ∈ span.core.getLast?, Text.isSpacing c = false
  target : ∀ target ∈ span.style.link, IsTarget target.toList
  noBracket : span.style.link ≠ none → span.style.code = true → '[' ∉ span.text.toList ∧ ']' ∉ span.text.toList

instance : DecidablePred Span.IsSimple := fun _ =>
  decidable_of_iff (_ ∧ _ ∧ _ ∧ _ ∧ _)
    ⟨fun ⟨clean, kind, firm, target, noBracket⟩ => ⟨clean, kind, firm, target, noBracket⟩,
      fun simple => ⟨simple.clean, simple.kind, simple.firm, simple.target, simple.noBracket⟩⟩

namespace Span

/-- The marks of a span, if it has any and is no link, open behind this character. -/
def OpensBehind (span : Span) (before : Char) : Prop :=
  span.style.link = none → span.style.opening ≠ [] → ∀ c ∈ span.core.head?, Flanked before (span.style.facing c)

instance (span : Span) (before : Char) : Decidable (span.OpensBehind before) := inferInstanceAs (Decidable (_ → _ → _))

/-- The marks of a span, if it has any and is no link, close before this character. -/
def ClosesBefore (span : Span) (behind : Char) : Prop :=
  span.style.link = none → span.style.opening ≠ [] → ∀ c ∈ span.core.getLast?, Flanked behind (span.style.facing c)

instance (span : Span) (behind : Char) : Decidable (span.ClosesBefore behind) := inferInstanceAs (Decidable (_ → _ → _))

/-- Spans of different styles whose marks stay apart. -/
structure Meets (span next : Span) : Prop where
  other : span.style ≠ next.style
  apart : span.style.link = none → span.style.opening ≠ [] → (Render.span next).head? ≠ span.style.opening.head?
  opens : ∀ c ∈ (Render.span span).getLast?, next.OpensBehind c
  closes : ∀ c ∈ (Render.span next).head?, span.ClosesBefore c
  noImage : next.style.link ≠ none → (Render.span span).getLast? ≠ some '!'

instance (span next : Span) : Decidable (span.Meets next) :=
  decidable_of_iff (_ ∧ _ ∧ _ ∧ _ ∧ _)
    ⟨fun ⟨other, apart, opens, closes, noImage⟩ => ⟨other, apart, opens, closes, noImage⟩,
      fun meets => ⟨meets.other, meets.apart, meets.opens, meets.closes, meets.noImage⟩⟩

theorem text_written (span : Span) : (⟨span, span.core⟩ : WrittenSpan).text = Render.span span := by
  obtain ⟨text, bold, italic, strikethrough, code, link⟩ := span
  cases bold <;> cases italic <;> cases strikethrough <;> cases link <;>
    simp [WrittenSpan.text, WrittenSpan.body, Render.span, Render.wrap, Span.core, Style.opening, Style.closing, Style.stars,
      behindLabel]

section Simple
variable {span : Span} (simple : span.IsSimple)

theorem core_code (code : span.style.code = true) (valid : IsCodeText span.text.toList) :
    span.core = '`' :: (span.text.toList ++ ['`']) := by
  simp [core, code, Render.codeSpan, valid.noTick]

theorem core_plain (plain : span.style.code = false) : span.core = Render.plainText span.text.toList := by
  simp [core, plain]

include simple

theorem IsSimple.core_ne_nil : span.core ≠ [] := by
  rcases simple.kind with ⟨plain, filled, -⟩ | ⟨code, valid⟩
  · rw [core_plain plain]
    exact plainText_ne_nil (by simpa using filled)
  · rw [core_code code valid]
    exact List.cons_ne_nil _ _

/-- The text between the marks starts with no mark. -/
theorem IsSimple.head?_core : ∀ c ∈ span.core.head?, c = '\\' ∨ c = '`' ∧ span.style.code = true ∨
    span.text.toList.head? = some c ∧ c ≠ '\n' ∧ Render.isMark c = false := by
  intro c first
  rcases simple.kind with ⟨plain, filled, -⟩ | ⟨code, valid⟩
  · rw [core_plain plain, ← List.append_nil (Render.plainText _)] at first
    exact (head?_plainText (by simpa using filled) first).imp_right .inr
  · rw [core_code code valid] at first
    exact .inr (.inl ⟨(Option.some.inj first).symm, code⟩)

theorem IsSimple.legible_core (tail : List Char)
    (plainEnd : span.style.code = false → StartsMarked tail ∧ (tail.head? = some '[' → span.core.getLast? ≠ some '!'))
    (codeEnd : span.style.code = true → tail.head? ≠ some '`') :
      Legible tail span.core (span.text.toList.map (·, span.style.code)) := by
  rcases simple.kind with ⟨plain, -, noReference, noIndent⟩ | ⟨code, valid⟩
  · obtain ⟨follows, noImage⟩ := plainEnd plain
    rw [core_plain plain, getLast?_plainText] at noImage
    rw [core_plain plain, plain]
    exact legible_plainText noReference noIndent follows noImage
  · have whole : Legible tail ('`' :: (span.text.toList ++ ['`'])) _ := .code valid (codeEnd code) .nil
    rw [List.append_nil] at whole
    rw [core_code code valid, code]
    exact whole

end Simple

/-- What may stand behind a span without marks that is no link. -/
def EndsBefore (span : Span) (tail : List Char) : Prop :=
  span.style.link = none → span.style.opening = [] →
    (span.style.code = false → StartsMarked tail ∧ (tail.head? = some '[' → span.core.getLast? ≠ some '!')) ∧
      (span.style.code = true → tail.head? ≠ some '`')

/-- Marks stand behind the text of a span that has any. -/
private theorem closing_head {style : Style} (marked : style.opening ≠ []) (tail : List Char) :
    ∃ c, (style.closing ++ tail).head? = some c ∧ (c = '*' ∨ c = '~') := by
  have some : style.closing ≠ [] := List.ne_nil_of_length_pos (style.length_closing ▸ List.length_pos_iff.mpr marked)
  obtain ⟨c, rest, split⟩ := List.exists_cons_of_ne_nil some
  refine ⟨c, by simp [split], ?_⟩
  have among : c ∈ style.closing := split ▸ List.mem_cons_self ..
  exact (List.mem_append.mp among).symm.imp List.eq_of_mem_replicate List.eq_of_mem_replicate

private theorem EndsBefore.closing {span : Span} {tail : List Char} (ends : span.EndsBefore tail) :
    let behind := span.style.closing ++ (⟨span, span.core⟩ : WrittenSpan).behindBody tail
    (span.style.code = false → StartsMarked behind ∧ (behind.head? = some '[' → span.core.getLast? ≠ some '!')) ∧
      (span.style.code = true → behind.head? ≠ some '`') := by
  intro behind
  -- a mark or a bracket ends the text wherever it stands
  have marked {c : Char} (first : behind.head? = some c) (mark : c = '*' ∨ c = '~' ∨ c = ']') :
      (span.style.code = false → StartsMarked behind ∧ (behind.head? = some '[' → span.core.getLast? ≠ some '!')) ∧
        (span.style.code = true → behind.head? ≠ some '`') := by
    refine ⟨fun _ => ⟨fun d same => ?_, fun bracket => ?_⟩, fun _ tick => ?_⟩
    · obtain rfl := Option.mem_unique first same
      rcases mark with rfl | rfl | rfl <;> decide
    · obtain rfl := Option.mem_unique first bracket
      exact absurd mark (by decide)
    · obtain rfl := Option.mem_unique first tick
      exact absurd mark (by decide)
  by_cases some : span.style.opening = []
  · have noClosing := span.style.closing_eq_nil some
    cases link : span.style.link with
    | none =>
      have same : behind = tail := by simp [behind, noClosing, WrittenSpan.behindBody, link]
      rw [same]
      exact ends link some
    | some target =>
      have first : behind.head? = Option.some ']' := by simp [behind, noClosing, WrittenSpan.behindBody, link, behindLabel]
      exact marked first (.inr (.inr rfl))
  · obtain ⟨c, first, mark⟩ := closing_head some ((⟨span, span.core⟩ : WrittenSpan).behindBody tail)
    exact marked first (mark.imp_right .inl)

private theorem isSpacing_facing {style : Style} {c : Char} (shown : Text.isSpacing c = false) :
    Text.isSpacing (style.facing c) = false := by
  unfold Style.facing
  split
  · decide
  · exact shown

theorem IsSimple.isSound {span : Span} (simple : span.IsSimple) {before : Char} {tail : List Char}
    (opens : span.OpensBehind before)
    (closes : span.ClosesBefore (tail.head?.getD ' '))
    (apart : span.style.link = none → span.style.opening ≠ [] → tail.head? ≠ span.style.opening.head?)
    (ends : span.EndsBefore tail) : (⟨span, span.core⟩ : WrittenSpan).IsSound before tail := by
  have unmarked : ∀ c ∈ span.core.head?, c ≠ '*' ∧ c ≠ '~' := by
    intro c first
    rcases simple.head?_core c first with rfl | ⟨rfl, -⟩ | ⟨-, -, plain⟩
    · decide
    · decide
    · have marks : ∀ d ∈ ['*', '~'], Render.isMark d = true := by decide
      refine ⟨fun same => ?_, fun same => ?_⟩
      all_goals exact absurd (marks c (by simp [same])) (by simp [plain])
  refine ⟨simple.legible_core _ ends.closing.1 ends.closing.2, simple.target, fun _ some => ?_, fun link some => ?_,
    fun link none c last => ?_⟩
  · obtain ⟨starts, stops⟩ := simple.firm some
    refine ⟨simple.core_ne_nil, unmarked, fun c first =>
      ⟨starts c first, isSpacing_facing (starts c first), fun _ => .inr (by decide)⟩,
      fun c last => ⟨stops c last, isSpacing_facing (stops c last), fun _ => .inl (by decide)⟩⟩
  · obtain ⟨starts, stops⟩ := simple.firm some
    exact ⟨⟨simple.core_ne_nil, unmarked, fun c first => ⟨starts c first, opens link some c first⟩,
      fun c last => ⟨stops c last, closes link some c last⟩⟩, apart link some⟩
  · cases code : span.style.code with
    | true =>
      obtain ⟨plain, -⟩ | ⟨-, valid⟩ := simple.kind
      · exact absurd plain (by simp [code])
      · rw [core_code code valid, ← List.cons_append, List.getLast?_concat] at last
        obtain rfl := Option.some.inj last
        exact .inl rfl
    | false => exact .inr ((ends link none).1 code).1

section Rendered
variable {span : Span}

/-- How a span starts that is no bare text. -/
theorem head?_rendered (span : Span) : (Render.span span).head? = some '[' ∧ span.style.link ≠ none ∨
    span.style.link = none ∧ span.style.opening ≠ [] ∧ (Render.span span).head? = span.style.opening.head? ∨
    span.style.link = none ∧ span.style.opening = [] ∧ Render.span span = span.core := by
  rw [← text_written, WrittenSpan.text, WrittenSpan.body]
  cases link : span.style.link with
  | some target => exact .inl ⟨rfl, Option.some_ne_none _⟩
  | none =>
    by_cases some : span.style.opening = []
    · exact .inr (.inr ⟨rfl, some, by simp [some, span.style.closing_eq_nil some]⟩)
    · refine .inr (.inl ⟨rfl, some, ?_⟩)
      obtain ⟨c, rest, split⟩ := List.exists_cons_of_ne_nil some
      simp [split]

theorem head?_opening {style : Style} {c : Char} (first : style.opening.head? = some c) : c = '*' ∨ c = '~' :=
  (List.mem_append.mp (List.mem_of_mem_head? first)).imp List.eq_of_mem_replicate List.eq_of_mem_replicate

private theorem bare_style {style : Style} (none : style.link = none) (unmarked : style.opening = []) :
    style = { code := style.code } := by
  have short := congrArg List.length unmarked
  obtain ⟨bold, italic, strikethrough, code, link⟩ := style
  obtain rfl : link = .none := none
  cases bold <;> cases italic <;> cases strikethrough <;> simp [Style.opening, Style.stars] at short
  rfl

theorem IsSimple.opensBehind_blank (simple : span.IsSimple) : span.OpensBehind ' ' := fun _ some c first =>
  ⟨isSpacing_facing ((simple.firm some).1 c first), fun _ => .inl (by decide)⟩

private theorem IsSimple.closesBefore_blank (simple : span.IsSimple) : span.ClosesBefore ' ' := fun _ some c last =>
  ⟨isSpacing_facing ((simple.firm some).2 c last), fun _ => .inl (by decide)⟩

theorem IsSimple.rendered_ne_nil (simple : span.IsSimple) : Render.span span ≠ [] := by
  rcases head?_rendered span with ⟨first, -⟩ | ⟨-, some, first⟩ | ⟨-, -, same⟩
  · intro none
    cases none ▸ first
  · intro none
    rw [none] at first
    exact some (List.head?_eq_none_iff.mp first.symm)
  · exact same ▸ simple.core_ne_nil

private theorem endsBefore_nil (span : Span) : span.EndsBefore [] := by
  intro _ _
  simp [StartsMarked]

private theorem Meets.endsBefore {next : Span} (meets : span.Meets next) (simpleNext : next.IsSimple) (more : List Char) :
    span.EndsBefore (Render.span next ++ more) := by
  intro none unmarked
  have whole : Render.span span = span.core := by
    rw [← text_written, WrittenSpan.text, WrittenSpan.body]
    simp [none, unmarked, span.style.closing_eq_nil unmarked]
  have first : (Render.span next ++ more).head? = (Render.span next).head? := by
    obtain ⟨c, rest, split⟩ := List.exists_cons_of_ne_nil simpleNext.rendered_ne_nil
    simp [split]
  have apart : next.style.link = .none → next.style.opening = [] → next.style.code ≠ span.style.code := by
    intro noLink noMarks same
    exact meets.other (by rw [bare_style none unmarked, bare_style noLink noMarks, same])
  have noImage := meets.noImage
  rw [whole] at noImage
  rw [StartsMarked, first]
  rcases head?_rendered next with ⟨start, linked⟩ | ⟨-, some, start⟩ | ⟨noLink, noMarks, same⟩
  · rw [start]
    refine ⟨fun _ => ⟨fun c same => ?_, fun _ => noImage linked⟩, fun _ tick => absurd tick (by decide)⟩
    obtain rfl := Option.some.inj same
    decide
  · rw [start]
    refine ⟨fun _ => ⟨fun c same => ?_, fun bracket => ?_⟩, fun _ tick => ?_⟩
    · rcases head?_opening same with rfl | rfl <;> decide
    · exact absurd (head?_opening bracket) (by decide)
    · exact absurd (head?_opening tick) (by decide)
  · have other := apart noLink noMarks
    rw [same]
    refine ⟨fun plain => ?_, fun code tick => ?_⟩
    · obtain ⟨notCode, -⟩ | ⟨code, valid⟩ := simpleNext.kind
      · exact absurd (notCode.trans plain.symm) other
      · rw [core_code code valid]
        refine ⟨fun c same => ?_, fun bracket => absurd bracket (by simp)⟩
        obtain rfl := Option.some.inj same
        decide
    · rcases simpleNext.head?_core _ tick with slash | ⟨-, alsoCode⟩ | ⟨-, -, unmarked⟩
      · exact absurd slash (by decide)
      · exact other (alsoCode.trans code.symm)
      · exact absurd unmarked (by decide)

theorem endsBefore_rest {rest : List Span} (meets : (span :: rest).IsChain Meets) (simple : ∀ other ∈ rest, other.IsSimple) :
    span.EndsBefore (rest.flatMap Render.span) := by
  cases rest with
  | nil => exact endsBefore_nil span
  | cons next rest => exact (List.isChain_cons_cons.mp meets).1.endsBefore (simple next (List.mem_cons_self ..)) _

end Rendered

end Span

/-- A span as it is written on its own. -/
def Span.written (span : Span) : WrittenSpan := ⟨span, span.core⟩

theorem flatMap_written (spans : List Span) : (spans.map Span.written).flatMap WrittenSpan.text = spans.flatMap Render.span := by
  rw [List.flatMap_map]
  exact congrArg (List.flatMap · spans) (funext Span.text_written)

theorem allSound_written {spans : List Span} (before : Char) (simple : ∀ span ∈ spans, span.IsSimple)
    (meets : spans.IsChain Span.Meets)
    (opens : ∀ span ∈ spans.head?, span.OpensBehind before) : AllSound before (spans.map Span.written) := by
  induction spans generalizing before with
  | nil => trivial
  | cons span spans ih =>
    obtain ⟨own, others⟩ := List.forall_mem_cons.mp simple
    have ends := Span.endsBefore_rest meets others
    refine ⟨?_, ih _ others meets.tail fun next first => ?_⟩
    · rw [flatMap_written]
      cases spans with
      | nil =>
        exact own.isSound (opens span rfl) own.closesBefore_blank
          (fun _ some none => some (List.head?_eq_none_iff.mp none.symm)) ends
      | cons next spans =>
        have meets := (List.isChain_cons_cons.mp meets).1
        obtain ⟨c, rest, split⟩ := List.exists_cons_of_ne_nil (others next (List.mem_cons_self ..)).rendered_ne_nil
        have first : ((next :: spans).flatMap Render.span).head? = (Render.span next).head? := by simp [split]
        refine own.isSound (opens span rfl) ?_ (fun noLink some => ?_) ends
        · rw [first, split]
          exact meets.closes c (by simp [split])
        · rw [first]
          exact meets.apart noLink some
    · cases spans with
      | nil => cases first
      | cons second spans =>
        obtain rfl := Option.some.inj first
        have last := List.getLast?_eq_some_getLast own.rendered_ne_nil
        rw [Span.written, Span.text_written, last]
        exact (List.isChain_cons_cons.mp meets).1.opens _ last

end DocScribe.Markdown
