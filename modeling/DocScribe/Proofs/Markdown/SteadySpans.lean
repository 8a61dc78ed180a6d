import DocScribe.Proofs.Markdown.GuardedText
import DocScribe.Proofs.Markdown.ParagraphSegments
import DocScribe.Proofs.Text.Trimming

/-! Trimmed spans whose marks stay apart are written as text that starts no block, and read back from it. -/

namespace DocScribe.Markdown
open DocScribe BlockStart BlockReader

/-- Spans whose marks stay apart, without blanks at their ends. -/
structure SteadyText (spans : List Span) : Prop where
  simple : ∀ span ∈ spans, span.IsSimple
  meets : spans.IsChain Span.Meets
  trimmed : Text.trim (spansText spans) = spansText spans

instance : DecidablePred SteadyText := fun _ =>
  decidable_of_iff (_ ∧ _ ∧ _) ⟨fun ⟨simple, meets, trimmed⟩ => ⟨simple, meets, trimmed⟩,
    fun steady => ⟨steady.simple, steady.meets, steady.trimmed⟩⟩

/-- Spans that are written on one line. -/
structure SteadySpans (spans : List Span) : Prop extends SteadyText spans where
  oneLine : ∀ span ∈ spans, '\n' ∉ span.text.toList

instance : DecidablePred SteadySpans := fun _ =>
  decidable_of_iff (_ ∧ _) ⟨fun ⟨steady, oneLine⟩ => ⟨steady, oneLine⟩, fun steady => ⟨steady.toSteadyText, steady.oneLine⟩⟩

/-- Text without marks, which a guard may stand before. -/
def Span.IsBare (span : Span) : Prop := span.style.link = none ∧ span.style.opening = []

instance : DecidablePred Span.IsBare := fun _ => inferInstanceAs (Decidable (_ ∧ _))

/-- The spans as they are written behind one another, the first one guarded. -/
def guarded : List Span → List WrittenSpan
  | [] => []
  | span :: rest => ⟨span, if span.IsBare then Render.guardStart span.core else span.core⟩ :: rest.map Span.written

namespace SteadyText
variable {span : Span} {spans : List Span} {tail : List Char}

private theorem text_bare (bare : span.IsBare) (core : List Char) : (⟨span, core⟩ : WrittenSpan).text = core :=
  WrittenSpan.text_bare bare.1 bare.2

private theorem guardStart_cons {c : Char} {rest : List Char} (mark : c ∈ ['[', '*', '~', '`']) :
    Render.guardStart (c :: rest) = c :: rest := by
  have known : ∀ c ∈ ['[', '*', '~', '`'], c ∉ "#>+-=".toList ∧ Text.isDigit c = false := by decide
  exact guardStart_other (known c mark).1 (known c mark).2

/-- Only bare text is guarded. -/
private theorem guardStart_spans (own : span.IsSimple) (ends : span.EndsBefore tail) :
    Render.guardStart (Render.span span ++ tail) =
    (⟨span, if span.IsBare then Render.guardStart span.core else span.core⟩ : WrittenSpan).text ++ tail := by
  by_cases bare : span.IsBare
  · rw [if_pos bare, text_bare bare, ← Span.text_written, text_bare bare]
    obtain ⟨plain, code⟩ := ends bare.1 bare.2
    rcases own.kind with ⟨notCode, -⟩ | ⟨isCode, valid⟩
    · exact guardStart_append own.core_ne_nil (plain notCode).1
    · rw [Span.core_code isCode valid, List.cons_append, guardStart_cons (by decide), guardStart_cons (by decide)]
      rfl
  · rw [if_neg bare, Span.text_written]
    rcases Span.head?_rendered span with ⟨first, -⟩ | ⟨-, some, first⟩ | ⟨none, unmarked, -⟩
    · obtain ⟨rest, split⟩ := List.head?_eq_some_iff.mp first
      rw [split]
      exact guardStart_cons (by decide)
    · obtain ⟨c, rest, split⟩ := List.exists_cons_of_ne_nil own.rendered_ne_nil
      have mark : c = '*' ∨ c = '~' := Span.head?_opening (by rw [← first, split]; rfl)
      rw [split]
      exact guardStart_cons (by rcases mark with rfl | rfl <;> decide)
    · exact absurd ⟨none, unmarked⟩ bare

theorem rendered_guarded (steady : SteadyText spans) : Render.spans spans = (guarded spans).flatMap WrittenSpan.text := by
  cases spans with
  | nil => rfl
  | cons span rest =>
    obtain ⟨own, others⟩ := List.forall_mem_cons.mp steady.simple
    rw [Render.spans, List.flatMap_cons, guardStart_spans own (Span.endsBefore_rest steady.meets others), guarded,
      List.flatMap_cons, flatMap_written]

/-- A guard changes nothing of what is shown. -/
private theorem isSound_guarded {before : Char} (bare : span.IsBare) (sound : span.written.IsSound before tail) :
    (⟨span, Render.guardStart span.core⟩ : WrittenSpan).IsSound before tail where
  legible := legible_guardStart sound.legible
  target := sound.target
  linked := fun linked => absurd bare.1 linked
  marked := fun _ marked => absurd bare.2 marked
  bare := fun none unmarked c last => sound.bare none unmarked c (by rwa [getLast?_guardStart] at last)

theorem allSound_guarded (steady : SteadyText spans) : AllSound ' ' (guarded spans) := by
  have sound := allSound_written ' ' steady.simple steady.meets fun span first =>
    (steady.simple span (List.mem_of_mem_head? first)).opensBehind_blank
  cases spans with
  | nil => trivial
  | cons span rest =>
    obtain ⟨own, others⟩ := sound
    by_cases bare : span.IsBare
    · rw [guarded, if_pos bare]
      refine ⟨isSound_guarded bare own, ?_⟩
      have last : (⟨span, Render.guardStart span.core⟩ : WrittenSpan).text.getLast? = span.written.text.getLast? := by
        rw [Span.written, text_bare bare, text_bare bare, getLast?_guardStart]
      exact last ▸ others
    · rw [guarded, if_neg bare]
      exact ⟨own, others⟩

private theorem span_guarded (spans : List Span) : (guarded spans).map WrittenSpan.span = spans := by
  cases spans with
  | nil => rfl
  | cons span rest => simp [guarded, Span.written, Function.comp_def]

private theorem text_guarded (steady : SteadyText spans) : ∀ written ∈ guarded spans, written.text ≠ [] := by
  cases spans with
  | nil => simp [guarded]
  | cons span rest =>
    obtain ⟨own, others⟩ := List.forall_mem_cons.mp steady.simple
    refine List.forall_mem_cons.mpr ⟨?_, List.forall_mem_map.mpr fun other among => ?_⟩
    · split
      next bare =>
        rw [text_bare bare]
        intro none
        have last := getLast?_guardStart span.core
        rw [none] at last
        exact own.core_ne_nil (List.getLast?_eq_none_iff.mp last.symm)
      · rw [Span.text_written]
        exact own.rendered_ne_nil
    · rw [Span.written, Span.text_written]
      exact (others other among).rendered_ne_nil

theorem shown_guarded (spans : List Span) :
    (guarded spans).flatMap WrittenSpan.shown = spans.flatMap fun span => span.text.toList.map (·, span.style) := by
  cases spans with
  | nil => rfl
  | cons span rest =>
    rw [guarded, List.flatMap_cons, List.flatMap_map]
    rfl

end SteadyText

/-- Characters that spans show become these spans again. -/
theorem pieces_shown {spans : List Span} (filled : ∀ span ∈ spans, span.text ≠ "") (apart : spans.IsChain (·.style ≠ ·.style)) :
    (spans.flatMap fun span => span.text.toList.map (·, span.style)).foldr
      (fun entry => Piece.addText [entry.1] entry.2) [] = spans.map .span := by
  induction spans with
  | nil => rfl
  | cons span spans ih =>
    obtain ⟨own, others⟩ := List.forall_mem_cons.mp filled
    have some : span.text.toList.isEmpty = false := by simpa using own
    have added := Piece.addText_foldr span.text.toList span.style (spans.map .span)
    rw [List.flatMap_cons, List.foldr_append, ih others apart.tail, List.foldr_map]
    refine added.symm.trans ?_
    cases spans with
    | nil => simp [Piece.addText, some]
    | cons second spans =>
      have other : (second.style == span.style) = false := by
        have := (List.isChain_cons_cons.mp apart).1
        simpa using fun same => this same.symm
      simp [Piece.addText, some, other]

private theorem isBlank_of_isMargin {c : Char} (margin : Text.isMargin c = true) : Text.isBlank c = true := by
  simp only [Text.isMargin, Text.isSpacing, Text.isBlank, Bool.or_eq_true, Bool.and_eq_true, decide_eq_true_eq,
    beq_iff_eq] at margin ⊢
  omega

private theorem isBlank_of_isIndent {c : Char} (indent : Text.isIndent c = true) : Text.isBlank c = true := by
  simp only [Text.isIndent, Bool.or_eq_true, beq_iff_eq] at indent
  rcases indent with rfl | rfl <;> decide

theorem isMargin_of_shown {c : Char} (shown : Text.isBlank c = false) : Text.isMargin c = false := by
  refine Bool.eq_false_iff.mpr fun margin => ?_
  simp [isBlank_of_isMargin margin] at shown

theorem isIndent_of_shown {c : Char} (shown : Text.isBlank c = false) : Text.isIndent c = false := by
  refine Bool.eq_false_iff.mpr fun indent => ?_
  simp [isBlank_of_isIndent indent] at shown

private theorem isIndent_of_spacing {c : Char} (shown : Text.isSpacing c = false) : Text.isIndent c = false := by
  refine Bool.eq_false_iff.mpr fun indent => ?_
  simp only [Text.isIndent, Bool.or_eq_true, beq_iff_eq] at indent
  rcases indent with rfl | rfl <;> exact absurd shown (by decide)

private theorem trimEndSpans_filled (front : List Span) {last : Span}
    (filled : ∃ c ∈ last.text.toList.getLast?, Text.isBlank c = false) :
    trimEndSpans (front ++ [last]) = front ++ [last] := by
  induction front with
  | nil =>
    obtain ⟨c, ends, own⟩ := filled
    have some : Text.allBlank last.text = false := by
      refine Bool.eq_false_iff.mpr fun all => ?_
      exact absurd (List.all_eq_true.mp all c (List.mem_of_getLast? ends)) (by simp [own])
    have kept : Text.trimEnd last.text = last.text := by
      rw [Text.trimEnd, Text.trimEndBy_eq_self, String.ofList_toList]
      rintro d same
      obtain rfl := Option.some.inj (ends.symm.trans same)
      exact own
    simp [trimEndSpans, some, kept]
  | cons span front ih =>
    rw [List.cons_append, trimEndSpans, ih]
    cases front <;> rfl

theorem spansOnly_spans (spans : List Span) : spansOnly (spans.map .span) = spans := by
  simp [spansOnly, List.filterMap_map]

namespace SteadyText
variable {spans : List Span} (steady : SteadyText spans)
include steady

theorem filled : ∀ span ∈ spans, span.text ≠ "" := by
  intro span among
  rcases (steady.simple span among).kind with ⟨-, filled, -⟩ | ⟨-, valid⟩
  · exact filled
  · simpa using valid.filled

theorem apart : spans.IsChain (·.style ≠ ·.style) := steady.meets.imp fun _ _ meets => meets.other

theorem pieces_rendered (definitions : Definitions) :
    Piece.ofInline (Inline.ofText definitions (Render.spans spans)) = spans.map .span := by
  have shows := ofText_shows definitions steady.allSound_guarded []
  rw [shown_guarded, List.append_nil] at shows
  rw [steady.rendered_guarded, Piece.ofInline]
  exact shows.trans (pieces_shown steady.filled steady.apart)

private theorem text_ends : (∀ c ∈ (spansText spans).toList.head?, Text.isBlank c = false) ∧
    ∀ c ∈ (spansText spans).toList.getLast?, Text.isBlank c = false := by
  refine Text.ends_of_trimBy ?_
  have := congrArg String.toList steady.trimmed
  rwa [Text.trim, String.toList_ofList] at this

theorem rendered_ends : (∀ c ∈ (Render.spans spans).head?, Text.isBlank c = false) ∧
    ∀ c ∈ (Render.spans spans).getLast?, Text.isBlank c = false := by
  have sound := steady.allSound_guarded.each
  have filled := steady.text_guarded
  have same := span_guarded spans
  rw [steady.rendered_guarded]
  constructor
  · intro c first
    cases all : guarded spans with
    | nil =>
      rw [all] at first
      cases first
    | cons written rest =>
      rw [all] at first sound filled same
      obtain ⟨d, more, split⟩ := List.exists_cons_of_ne_nil (filled written (List.mem_cons_self ..))
      have own : written.text.head? = some c := by simpa [split] using first
      obtain ⟨before, tail, sound⟩ := sound written (List.mem_cons_self ..)
      rcases sound.head?_text c own with mark | shown
      · have marks : ∀ c ∈ ['[', '*', '~', '\\', '`'], Text.isBlank c = false := by decide
        exact marks c mark
      · refine steady.text_ends.1 c ?_
        rw [toList_spansText, ← same, List.map_cons, List.flatMap_cons]
        simp [shown]
  · intro c last
    rcases List.eq_nil_or_concat' (guarded spans) with all | ⟨front, written, all⟩
    · rw [all] at last
      cases last
    · rw [all] at last sound filled same
      have own : written.text.getLast? = some c := by
        rwa [List.flatMap_append, List.flatMap_singleton, List.getLast?_append_of_ne_nil _ (filled written (by simp))] at last
      obtain ⟨before, tail, sound⟩ := sound written (by simp)
      rcases sound.getLast?_text c own with mark | shown
      · have marks : ∀ c ∈ [')', '*', '~', '`'], Text.isBlank c = false := by decide
        exact marks c mark
      · refine steady.text_ends.2 c ?_
        have some : written.span.text.toList ≠ [] := by
          intro none
          rw [none] at shown
          cases shown
        rw [toList_spansText, ← same, List.map_append, List.flatMap_append, List.map_singleton, List.flatMap_singleton,
          List.getLast?_append_of_ne_nil _ some]
        exact shown

private theorem mem_rendered {c : Char} (among : c ∈ Render.spans spans) : c ∈ ['[', ']', '(', ')', '*', '~', '\\', '`'] ∨
    ∃ span ∈ spans, c ∈ span.text.toList ∨ ∃ target ∈ span.style.link, c ∈ target.toList := by
  rw [steady.rendered_guarded] at among
  obtain ⟨written, member, inside⟩ := List.mem_flatMap.mp among
  obtain ⟨before, tail, sound⟩ := steady.allSound_guarded.each written member
  refine (sound.mem_text c inside).imp_right fun shown => ⟨written.span, ?_, shown⟩
  rw [← span_guarded spans]
  exact List.mem_map_of_mem member

theorem clean_rendered : IsClean (Render.spans spans) := by
  intro c among
  rcases steady.mem_rendered among with mark | ⟨span, member, inside | ⟨target, link, inside⟩⟩
  · have marks : ∀ c ∈ ['[', ']', '(', ')', '*', '~', '\\', '`'], IsClean [c] := by decide
    exact marks c mark c (List.mem_singleton_self c)
  · exact (steady.simple span member).clean c inside
  · exact ((steady.simple span member).target target link).clean c inside

theorem trimmed_rendered : Text.trimBy Text.isMargin (Render.spans spans) = Render.spans spans :=
  Text.trimBy_eq_self (fun c first => isMargin_of_shown (steady.rendered_ends.1 c first))
    fun c last => isMargin_of_shown (steady.rendered_ends.2 c last)

end SteadyText

section Starts
variable {span : Span} (own : span.IsSimple) (tail : List Char)
include own

private theorem startsText_bare (bare : span.IsBare) : StartsText (Render.span span ++ tail) := by
  have whole : Render.span span = span.core := by rw [← Span.text_written, WrittenSpan.text_bare bare.1 bare.2]
  rw [whole]
  obtain ⟨c, core, split⟩ := List.exists_cons_of_ne_nil own.core_ne_nil
  have first := own.head?_core c (by simp [split])
  refine ⟨by simp [split], fun d same => ?_, fun rest same => ?_⟩
  · obtain rfl : c = d := by simpa [split] using same
    exact first.imp_right (.imp And.left fun shown => shown.2.2)
  · obtain rfl : c = '`' := by simpa [split] using congrArg List.head? same
    rcases first with slash | ⟨-, code⟩ | ⟨-, -, unmarked⟩
    · exact absurd slash (by decide)
    · obtain ⟨plain, -⟩ | ⟨-, valid⟩ := own.kind
      · exact absurd plain (by simp [code])
      · obtain ⟨d, text, filled⟩ := List.exists_cons_of_ne_nil valid.filled
        rw [Span.core_code code valid, filled] at same
        obtain ⟨-, rfl⟩ := List.cons.inj same
        intro tick
        exact valid.noTick (by simpa [filled] using .inl (Option.some.inj tick).symm)
    · exact absurd unmarked (by decide)

private theorem isUnmarked_marked (none : span.style.link = none) (marked : span.style.opening ≠ []) :
    IsUnmarked (Render.span span ++ tail) ∧ (Render.span span ++ tail).head? ≠ some '#' := by
  obtain ⟨c, core, split⟩ := List.exists_cons_of_ne_nil own.core_ne_nil
  have first : span.core.head? = some c := by simp [split]
  have shown := isIndent_of_spacing ((own.firm marked).1 c first)
  have unmarked : c ≠ '*' ∧ c ≠ '~' := by
    rcases own.head?_core c first with rfl | ⟨rfl, -⟩ | ⟨-, -, plain⟩
    · decide
    · decide
    · constructor
      all_goals
        rintro rfl
        exact absurd plain (by decide)
  have whole : Render.span span ++ tail = List.replicate span.style.stars '*' ++
    (List.replicate (2 * span.style.strikethrough.toNat) '~' ++
      c :: (core ++ span.style.closing ++ tail)) := by
    rw [← Span.text_written, WrittenSpan.text, none, WrittenSpan.body, split]
    simp [Style.opening]
  rw [whole]
  rcases Nat.eq_zero_or_pos span.style.stars with noStars | some
  · have struck : span.style.strikethrough = true := by
      by_contra plain
      exact marked (by simp [Style.opening, noStars, plain])
    rw [noStars, struck]
    exact isUnmarked_tildes unmarked.2
  · cases struck : span.style.strikethrough with
    | true => exact isUnmarked_stars some (by decide) (by decide)
    | false => exact isUnmarked_stars some unmarked.1 shown

/-- A link starts with its label, which ends where it seems to. -/
private theorem exists_label {target : String} (link : span.style.link = some target) :
    ∃ label more, Render.span span ++ tail = '[' :: (label ++ ']' :: '(' :: more) ∧
      (∀ rest, FoundDefinition.labelLength? (label ++ ']' :: rest) = some label.length) ∧
      ∀ c ∈ label, c ∈ ['*', '~', '\\', '`'] ∨ c ∈ span.text.toList := by
  have legible := own.legible_core [] (fun _ => ⟨by simp [StartsMarked], by simp⟩) (by simp)
  refine ⟨span.style.opening ++ (span.core ++ span.style.closing), target.toList ++ ')' :: tail, ?_, fun rest => ?_,
    fun c among => ?_⟩
  · rw [← Span.text_written, WrittenSpan.text_linked link]
    simp [WrittenSpan.body, behindLabel]
  · have noBracket : ('[', true) ∉ span.text.toList.map (·, span.style.code) ∧
      (']', true) ∉ span.text.toList.map (·, span.style.code) := by
      cases code : span.style.code with
      | false => simp
      | true => simpa using own.noBracket (by simp [link]) code
    rw [List.append_assoc, labelLength?_marks fun c => WrittenSpan.mem_opening, List.append_assoc,
      labelLength?_legible legible noBracket,
      labelLength?_marks fun c => WrittenSpan.mem_closing]
    simp [FoundDefinition.labelLength?]
    omega
  · simp only [List.mem_append] at among
    rcases among with mark | inside | mark
    · rcases WrittenSpan.mem_opening mark with rfl | rfl <;> exact .inl (by decide)
    · rcases legible.mem c inside with rfl | rfl | shown
      · exact .inl (by decide)
      · exact .inl (by decide)
      · exact .inr (by simpa using shown)
    · rcases WrittenSpan.mem_closing mark with rfl | rfl <;> exact .inl (by decide)

end Starts

namespace SteadyText
variable {spans : List Span} (steady : SteadyText spans)
include steady

theorem isUnmarked_rendered (some : spans ≠ []) :
    IsUnmarked (Render.spans spans) ∧ (Render.spans spans).head? ≠ Option.some '#' := by
  obtain ⟨span, rest, rfl⟩ := List.exists_cons_of_ne_nil some
  obtain ⟨own, others⟩ := List.forall_mem_cons.mp steady.simple
  have ends := Span.endsBefore_rest steady.meets others
  by_cases bare : span.IsBare
  · exact isUnmarked_guardStart (startsText_bare own _ bare)
  · have unguarded := guardStart_spans own ends
    rw [if_neg bare, Span.text_written] at unguarded
    rw [Render.spans, List.flatMap_cons, unguarded]
    cases link : span.style.link with
    | some target =>
      obtain ⟨label, more, split, ends, -⟩ := exists_label own (rest.flatMap Render.span) link
      exact split ▸ isUnmarked_link ends _
    | none => exact isUnmarked_marked own _ link fun unmarked => bare ⟨link, unmarked⟩

/-- Only a link is written with a bracket at its start. -/
theorem exists_label_rendered (bracket : (Render.spans spans).head? = some '[') :
    ∃ span ∈ spans.head?, span.style.link ≠ none ∧ ∃ label more, Render.spans spans = '[' :: (label ++ ']' :: '(' :: more) ∧
      (∀ rest, FoundDefinition.labelLength? (label ++ ']' :: rest) = some label.length) ∧
      ∀ c ∈ label, c ∈ ['*', '~', '\\', '`'] ∨ c ∈ span.text.toList := by
  cases spans with
  | nil => cases bracket
  | cons span rest =>
    obtain ⟨own, others⟩ := List.forall_mem_cons.mp steady.simple
    refine ⟨span, rfl, ?_⟩
    cases link : span.style.link with
    | some target =>
      obtain ⟨label, more, split, ends, inside⟩ := exists_label own (rest.flatMap Render.span) link
      refine ⟨Option.some_ne_none _, label, more, ?_, ends, inside⟩
      rw [Render.spans, List.flatMap_cons, split, guardStart_cons (by decide)]
    | none =>
      exfalso
      obtain ⟨c, more, split⟩ := List.exists_cons_of_ne_nil own.rendered_ne_nil
      have first : c ≠ '[' := by
        rintro rfl
        rcases Span.head?_rendered span with ⟨-, linked⟩ | ⟨-, -, same⟩ | ⟨-, -, same⟩
        · exact linked link
        · have first : span.style.opening.head? = some '[' := by rw [← same, split]; rfl
          exact absurd (Span.head?_opening first) (by decide)
        · rcases own.head?_core '[' (by rw [← same, split]; rfl) with slash | ⟨tick, -⟩ | ⟨-, -, plain⟩
          · exact absurd slash (by decide)
          · exact absurd tick (by decide)
          · exact absurd plain (by decide)
      rcases head?_guardStart _ '[' bracket with slash | same
      · exact absurd slash (by decide)
      · exact first (by simpa [split] using same)

/-- What is written starts with no box of a task. -/
theorem startsWithBox_rendered : Task.startsWithBox (Render.spans spans) = false := by
  by_cases bracket : (Render.spans spans).head? = some '['
  · obtain ⟨span, -, -, label, more, split, ends, -⟩ := steady.exists_label_rendered bracket
    exact split ▸ startsWithBox_link ends
  · unfold Task.startsWithBox
    split
    next same => exact absurd (by rw [same]; rfl) bracket
    · rfl

theorem rendered_ne_nil (some : spans ≠ []) : Render.spans spans ≠ [] := (steady.isUnmarked_rendered some).1.some

private theorem trimSpans_self : trimSpans spans = spans := by
  rcases List.eq_nil_or_concat' spans with rfl | ⟨front, last, rfl⟩
  · rfl
  · have chars (span : Span) (among : span ∈ front ++ [last]) : span.text.toList ≠ [] := by
      simpa using steady.filled span among
    have started : trimStartSpans (front ++ [last]) = front ++ [last] := by
      obtain ⟨first, rest, split⟩ := List.exists_cons_of_ne_nil
        (List.append_ne_nil_of_right_ne_nil front (List.cons_ne_nil last []))
      obtain ⟨c, text, filled⟩ := List.exists_cons_of_ne_nil (chars first (split ▸ List.mem_cons_self ..))
      have own : Text.isBlank c = false :=
        steady.text_ends.1 c (by rw [toList_spansText, split, List.flatMap_cons, filled]; rfl)
      have some : Text.allBlank first.text = false := by simp [Text.allBlank, filled, own]
      have kept : Text.trimStart first.text = first.text := by
        rw [Text.trimStart, filled, List.dropWhile_cons_of_neg (by simp [own]), ← filled, String.ofList_toList]
      rw [split, trimStartSpans, some, kept]
      rfl
    rw [trimSpans, started]
    refine trimEndSpans_filled front ?_
    obtain ⟨text, c, filled⟩ := List.eq_nil_or_concat' last.text.toList |>.resolve_left (chars last (by simp))
    refine ⟨c, by rw [filled]; simp, steady.text_ends.2 c ?_⟩
    rw [toList_spansText, List.flatMap_append, List.flatMap_singleton, filled]
    simp

theorem paragraphElements_self (some : spans ≠ []) : paragraphElements (spans.map .span) = [.paragraph spans] := by
  rw [paragraphElements, ← List.append_nil (List.map _ _), splitAtImages_spans, splitAtImages, List.nil_append, segmentElement,
    steady.trimSpans_self]
  cases spans with
  | nil => exact absurd rfl some
  | cons span spans => rfl

end SteadyText

theorem SteadySpans.noBreak_rendered {spans : List Span} (steady : SteadySpans spans) : '\n' ∉ Render.spans spans := by
  intro among
  rcases steady.mem_rendered among with mark | ⟨span, member, inside | ⟨target, link, inside⟩⟩
  · exact absurd mark (by decide)
  · exact steady.oneLine span member inside
  · exact absurd (((steady.simple span member).target target link).printed _ inside) (by decide)

end DocScribe.Markdown
