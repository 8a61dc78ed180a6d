import DocScribe.Proofs.Markdown.SteadySpans

/-! Bars in a cell are written with a backslash, which the cell loses before its text is read. The text shows the same without them. -/

namespace DocScribe.Markdown
open DocScribe BlockStart

/-- No bar stands alone. -/
def escapesBars : List Char → Bool
  | '\\' :: _ :: rest => escapesBars rest
  | c :: rest => c != '|' && escapesBars rest
  | [] => true

/-- The text without the backslashes before bars. -/
def unbarred : List Char → List Char
  | '\\' :: c :: rest => (if c = '|' then ['|'] else ['\\', c]) ++ unbarred rest
  | c :: rest => c :: unbarred rest
  | [] => []

section Bars
variable {c : Char} {text rest : List Char}

theorem escapesBars_cons (other : c ≠ '\\') (rest : List Char) : escapesBars (c :: rest) = (c != '|' && escapesBars rest) := by
  rw [escapesBars]
  intro d more same
  exact absurd same other

theorem unbarred_cons (other : c ≠ '\\') (rest : List Char) : unbarred (c :: rest) = c :: unbarred rest := by
  rw [unbarred]
  intro d more same
  exact absurd same other

/-- Each text is empty, or starts with a character alone or with a backslash and a character. -/
theorem barCases {motive : List Char → Prop} (nil : motive []) (single : motive ['\\'])
    (slash : ∀ c rest, motive rest → motive ('\\' :: c :: rest)) (cons : ∀ c rest, c ≠ '\\' → motive rest → motive (c :: rest))
    (text : List Char) :
    motive text := by
  induction length : text.length using Nat.strongRecOn generalizing text with
  | ind size ih =>
    subst length
    cases text with
    | nil => exact nil
    | cons c rest =>
      by_cases other : c = '\\'
      · subst other
        cases rest with
        | nil => exact single
        | cons d rest => exact slash d rest (ih rest.length (by simp only [List.length_cons]; omega) rest rfl)
      · exact cons c rest other (ih rest.length (Nat.lt_succ_self _) rest rfl)

private theorem escapesBars_noBar (noBar : '|' ∉ text) : escapesBars text = true := by
  induction text using barCases with
  | nil => rfl
  | single => rfl
  | slash c rest ih => exact ih fun among => noBar (List.mem_cons_of_mem _ (List.mem_cons_of_mem _ among))
  | cons c rest other ih =>
    obtain ⟨own, others⟩ := not_or.mp (mt List.mem_cons.mpr noBar)
    rw [escapesBars_cons other, ih others, Bool.and_true]
    exact bne_iff_ne.mpr (Ne.symm own)

/-- A cell ends at the first bar that stands alone. -/
theorem splitCells_escaped (escapes : escapesBars text = true) (before : Option Char) (cell rest : List Char) :
    splitCells before cell (text ++ ' ' :: '|' :: rest) =
      (cell.reverse ++ unbarred text ++ [' ']) :: splitCells (some '|') [] rest := by
  induction text using barCases generalizing before cell with
  | nil => simp [splitCells, unbarred]
  | single => simp [splitCells, unbarred]
  | slash c text ih =>
    have later := ih escapes
    by_cases bar : c = '|'
    · simp [splitCells, unbarred, bar, later]
    · simp [splitCells, unbarred, bar, later]
  | cons c text other ih =>
    rw [escapesBars_cons other, Bool.and_eq_true, bne_iff_ne] at escapes
    have later := ih escapes.2
    simp [splitCells, unbarred_cons other, escapes.1, later]

private theorem getLast?_unbarred (text : List Char) : (unbarred text).getLast? = text.getLast? := by
  induction text using barCases with
  | nil => rfl
  | single => rfl
  | slash c text ih =>
    have last : (if c = '|' then ['|'] else ['\\', c]).getLast? = some c := by split <;> simp [*]
    rw [unbarred, List.getLast?_append, ih, last, List.getLast?_cons_cons, List.getLast?_cons]
    cases text.getLast? <;> rfl
  | cons c text other ih =>
    rw [unbarred_cons other, List.getLast?_cons, ih, List.getLast?_cons]

/-- The first character stays, unless it is the backslash of a bar. -/
theorem head?_unbarred (text : List Char) :
    (unbarred text).head? = text.head? ∨ (unbarred text).head? = some '|' ∧ text.head? = some '\\' := by
  induction text using barCases with
  | nil => exact .inl rfl
  | single => exact .inl rfl
  | slash c text ih =>
    by_cases bar : c = '|'
    · exact .inr (by simp [unbarred, bar])
    · exact .inl (by simp [unbarred, bar])
  | cons c text other ih => exact .inl (by rw [unbarred_cons other]; rfl)

/-- Text without backslashes and bars stays as it is. -/
theorem unbarred_append {front : List Char} (noSlash : '\\' ∉ front) (noBar : '|' ∉ front) (rest : List Char) :
    unbarred (front ++ rest) = front ++ unbarred rest ∧ escapesBars (front ++ rest) = escapesBars rest := by
  induction front with
  | nil => exact ⟨rfl, rfl⟩
  | cons c front ih =>
    obtain ⟨slash, noSlashes⟩ := not_or.mp (mt List.mem_cons.mpr noSlash)
    obtain ⟨bar, noBars⟩ := not_or.mp (mt List.mem_cons.mpr noBar)
    obtain ⟨same, escapes⟩ := ih noSlashes noBars
    have own : (c != '|') = true := bne_iff_ne.mpr (Ne.symm bar)
    rw [List.cons_append, unbarred_cons (Ne.symm slash), escapesBars_cons (Ne.symm slash), same, escapes, own]
    exact ⟨rfl, rfl⟩

private theorem reference?_unbarred (escapes : escapesBars text = true) :
    Entity.reference? (unbarred text) = Entity.reference? text := by
  have same : (unbarred text).takeWhile isReferenceChar = text.takeWhile isReferenceChar ∧
      (((unbarred text).dropWhile isReferenceChar).head? == some ';') = ((text.dropWhile isReferenceChar).head? == some ';') := by
    have slash : isReferenceChar '\\' = false := by decide
    have bar : isReferenceChar '|' = false := by decide
    induction text using barCases with
    | nil => exact ⟨rfl, rfl⟩
    | single => exact ⟨rfl, rfl⟩
    | slash c text ih => by_cases own : c = '|' <;> simp [unbarred, own, slash, bar]
    | cons c text other ih =>
      rw [escapesBars_cons other, Bool.and_eq_true] at escapes
      obtain ⟨front, back⟩ := ih escapes.2
      rw [unbarred_cons other]
      by_cases own : isReferenceChar c = true
      · simp [own, front, back]
      · simp [own]
  simp only [Entity.reference?, body?_eq, same.1, same.2]

/-- A backslash at the end of code takes the backtick behind it along. -/
private theorem unbarred_code (noBar : '|' ∉ text) (rest : List Char) :
    unbarred (text ++ '`' :: rest) = text ++ '`' :: unbarred rest ∧ escapesBars (text ++ '`' :: rest) = escapesBars rest := by
  induction text using barCases with
  | nil => exact ⟨rfl, rfl⟩
  | single => exact ⟨rfl, rfl⟩
  | slash c text ih =>
    simp only [List.mem_cons, not_or] at noBar
    obtain ⟨-, bar, noBars⟩ := noBar
    obtain ⟨same, escapes⟩ := ih noBars
    simp [unbarred, escapesBars, same, escapes, Ne.symm bar]
  | cons c text other ih =>
    obtain ⟨bar, noBars⟩ := not_or.mp (mt List.mem_cons.mpr noBar)
    obtain ⟨same, escapes⟩ := ih noBars
    simp [unbarred_cons other, escapesBars_cons other, same, escapes, Ne.symm bar]

/-- Legible text shows the same without the backslashes before bars. -/
theorem Legible.unbarred {tail : List Char} {shown : List (Char × Bool)} (legible : Legible tail text shown)
    (escapes : escapesBars text = true) (escapesTail : escapesBars tail = true) (noBar : ('|', true) ∉ shown) :
    Legible (unbarred tail) (unbarred text) shown ∧
      Markdown.unbarred (text ++ tail) = Markdown.unbarred text ++ Markdown.unbarred tail ∧
      escapesBars (text ++ tail) = true := by
  -- what stands first behind a character is the same, unless it is the backslash of a bar
  have starts {rest : List Char} (same : Markdown.unbarred (rest ++ tail) = Markdown.unbarred rest ++ Markdown.unbarred tail)
    {c : Char}
      (first : (Markdown.unbarred rest ++ Markdown.unbarred tail).head? = some c) : (rest ++ tail).head? = some c ∨ c = '|' := by
    rw [← same] at first
    rcases head?_unbarred (rest ++ tail) with whole | ⟨bar, -⟩
    · exact .inl (whole ▸ first)
    · exact .inr (Option.some.inj (first.symm.trans bar))
  induction legible with
  | nil => exact ⟨.nil, rfl, escapesTail⟩
  | @literal c rest shown own more ih =>
    have other : c ≠ '\\' := by
      rintro rfl
      exact own.1 (by decide)
    rw [escapesBars_cons other, Bool.and_eq_true] at escapes
    obtain ⟨later, same, whole⟩ := ih escapes.2 (mt (List.mem_cons_of_mem _) noBar)
    rw [List.cons_append, unbarred_cons other, unbarred_cons other, escapesBars_cons other, escapes.1, same, whole]
    refine ⟨.literal ⟨own.1, fun image bracket => ?_, fun reference => ?_⟩ later, rfl, rfl⟩
    · rcases starts same bracket with first | bar
      · exact own.2.1 image first
      · exact absurd bar (by decide)
    · rw [← same, reference?_unbarred whole]
      exact own.2.2 reference
  | @escaped c rest shown mark more ih =>
    obtain ⟨later, same, whole⟩ := ih escapes (mt (List.mem_cons_of_mem _) noBar)
    simp only [List.cons_append, Markdown.unbarred, escapesBars, same, whole, List.append_assoc, and_true]
    by_cases bar : c = '|'
    · subst bar
      exact .literal ⟨by decide, fun image => absurd image (by decide), fun reference => absurd reference (by decide)⟩ later
    · rw [if_neg bar]
      exact .escaped mark later
  | @lineEnd rest shown indent more ih =>
    obtain ⟨later, same, whole⟩ := ih escapes (mt (List.mem_cons_of_mem _) noBar)
    simp only [List.cons_append, Markdown.unbarred, escapesBars, same, whole, List.append_assoc, and_true]
    refine .lineEnd (fun c first => ?_) later
    rcases starts same first with whole | rfl
    · exact indent c whole
    · decide
  | @code code rest shown valid apart more ih =>
    simp only [List.mem_append, List.mem_map, not_or] at noBar
    have noBars : '|' ∉ code := fun among => noBar.1 ⟨_, among, rfl⟩
    have tick : ('`' : Char) ≠ '\\' := by decide
    have split : '`' :: (code ++ '`' :: rest) ++ tail = '`' :: (code ++ '`' :: (rest ++ tail)) := by simp
    rw [escapesBars_cons tick, (unbarred_code noBars _).2, Bool.and_eq_true] at escapes
    obtain ⟨later, same, whole⟩ := ih escapes.2 noBar.2
    rw [split, unbarred_cons tick, unbarred_cons tick, (unbarred_code noBars _).1, (unbarred_code noBars _).1, same,
      escapesBars_cons tick,
      (unbarred_code noBars _).2, whole]
    refine ⟨.code valid (fun first => ?_) later, by simp, rfl⟩
    rcases starts same first with whole | bar
    · exact apart whole
    · exact absurd bar (by decide)

end Bars

section Neighbours

private theorem punctuation_bar : Text.isSpacing '|' = false ∧ Text.isPunctuation '|' = true := by decide

private theorem punctuation_slash : Text.isSpacing '\\' = false ∧ Text.isPunctuation '\\' = true := by decide

/-- Marks stand next to a bar where they may stand next to the backslash before it. -/
private theorem flanked_inside {outside : Char} {style : Style} (flanked : Flanked outside (style.facing '\\')) :
    Flanked outside (style.facing '|') := by
  unfold Style.facing at flanked ⊢
  split
  · simpa [*] using flanked
  · simpa [*, Flanked, punctuation_bar, punctuation_slash] using flanked

private theorem flanked_outside {inside : Char} (flanked : Flanked '\\' inside) : Flanked '|' inside := by
  simpa [Flanked, punctuation_bar, punctuation_slash] using flanked

end Neighbours

private theorem Style.Encloses.unbarred {style : Style} {before behind : Char} {core : List Char}
    (encloses : style.Encloses before core behind)
    {next : Char} (same : next = behind ∨ next = '|' ∧ behind = '\\') : style.Encloses before (unbarred core) next := by
  obtain ⟨filled, unmarked, starts, stops⟩ := encloses
  have head := head?_unbarred core
  refine ⟨?_, fun c first => ?_, fun c first => ?_, fun c last => ?_⟩
  · intro none
    have last := getLast?_unbarred core
    rw [none] at last
    exact filled (List.getLast?_eq_none_iff.mp last.symm)
  · rcases head with whole | ⟨bar, -⟩
    · exact unmarked c (whole ▸ first)
    · obtain rfl := Option.some.inj (first.symm.trans bar)
      decide
  · rcases head with whole | ⟨bar, slash⟩
    · exact starts c (whole ▸ first)
    · obtain rfl := Option.some.inj (first.symm.trans bar)
      exact ⟨by decide, flanked_inside (starts _ slash).2⟩
  · rw [getLast?_unbarred] at last
    refine ⟨(stops c last).1, ?_⟩
    rcases same with rfl | ⟨rfl, rfl⟩
    · exact (stops c last).2
    · exact flanked_outside (stops c last).2

namespace WrittenSpan

/-- The span as it is read in a cell. -/
def inCell (written : WrittenSpan) : WrittenSpan := ⟨written.span, unbarred written.core⟩

/-- No bar stands in code or in a link. -/
structure FitsCell (written : WrittenSpan) : Prop where
  escapes : escapesBars written.core = true
  code : written.span.style.code = true → '|' ∉ written.span.text.toList
  target : ∀ target ∈ written.span.style.link, '|' ∉ target.toList

variable {written : WrittenSpan} {before : Char} {tail : List Char}

private theorem getLast?_inCell (written : WrittenSpan) : written.inCell.text.getLast? = written.text.getLast? := by
  cases link : written.span.style.link with
  | none => simp [text, body, inCell, link, List.getLast?_append, getLast?_unbarred]
  | some target => simp [text, body, inCell, link, behindLabel, List.getLast?_append, List.getLast?_cons]

private theorem unbarred_marks {marks : List Char} (own : ∀ c ∈ marks, c = '*' ∨ c = '~') (rest : List Char) :
    unbarred (marks ++ rest) = marks ++ unbarred rest ∧ escapesBars (marks ++ rest) = escapesBars rest :=
  unbarred_append (fun among => absurd (own _ among) (by decide)) (fun among => absurd (own _ among) (by decide)) rest

private theorem unbarred_behindLabel {target : List Char} (valid : IsTarget target) (noBar : '|' ∉ target) (rest : List Char) :
    unbarred (behindLabel target ++ rest) = behindLabel target ++ unbarred rest ∧
      escapesBars (behindLabel target ++ rest) = escapesBars rest :=
  unbarred_append (by simpa [behindLabel] using valid.noSlash) (by simpa [behindLabel] using noBar) rest

/-- What stands behind the text of a span in a cell. -/
private theorem FitsCell.behind (fits : written.FitsCell) (sound : written.IsSound before tail) :
    unbarred (written.span.style.closing ++ written.behindBody tail) =
      written.span.style.closing ++ written.inCell.behindBody (unbarred tail) ∧
      escapesBars (written.span.style.closing ++ written.behindBody tail) = escapesBars tail := by
  have marks := unbarred_marks (fun c => mem_closing : ∀ c ∈ written.span.style.closing, _) (written.behindBody tail)
  rw [marks.1, marks.2]
  cases link : written.span.style.link with
  | none => simp [behindBody, inCell, link]
  | some target =>
    have label := unbarred_behindLabel (sound.target target link) (fits.target target link) tail
    simp only [behindBody, inCell, link]
    exact ⟨by rw [label.1], label.2⟩

private theorem FitsCell.legible (fits : written.FitsCell) (sound : written.IsSound before tail)
    (escapes : escapesBars tail = true) :
    let behind := written.span.style.closing ++ written.behindBody tail
    Legible (unbarred behind) (unbarred written.core) (written.span.text.toList.map (·, written.span.style.code)) ∧
      unbarred (written.core ++ behind) = unbarred written.core ++ unbarred behind ∧
        escapesBars (written.core ++ behind) = true := by
  have noBar : ('|', true) ∉ written.span.text.toList.map (·, written.span.style.code) := by
    cases code : written.span.style.code with
    | false => simp
    | true => simpa using fits.code code
  exact sound.legible.unbarred fits.escapes ((fits.behind sound).2.trans escapes) noBar

private theorem FitsCell.text_inCell (fits : written.FitsCell) (sound : written.IsSound before tail)
    (escapes : escapesBars tail = true) :
    unbarred (written.text ++ tail) = written.inCell.text ++ unbarred tail ∧ escapesBars (written.text ++ tail) = true := by
  obtain ⟨-, split, whole⟩ := fits.legible sound escapes
  rw [(fits.behind sound).1] at split
  have marks := unbarred_marks (fun c => mem_opening : ∀ c ∈ written.span.style.opening, _)
    (written.core ++ (written.span.style.closing ++ written.behindBody tail))
  cases link : written.span.style.link with
  | none =>
    have shape : written.text ++ tail =
        written.span.style.opening ++ (written.core ++ (written.span.style.closing ++ written.behindBody tail)) := by
      simp [text, body, behindBody, link]
    rw [shape, marks.1, marks.2, split, whole]
    simp [text, body, behindBody, inCell, link]
  | some target =>
    have shape : written.text ++ tail =
        '[' :: (written.span.style.opening ++ (written.core ++ (written.span.style.closing ++ written.behindBody tail))) := by
      simp [text, body, behindBody, link]
    have bracket : ('[' : Char) ≠ '\\' := by decide
    rw [shape, unbarred_cons bracket, escapesBars_cons bracket, marks.1, marks.2, split, whole]
    simp [text, body, behindBody, inCell, link]

/-- A span that is read back is read back in a cell. -/
theorem IsSound.inCell (sound : written.IsSound before tail) (fits : written.FitsCell) (escapes : escapesBars tail = true) :
    written.inCell.IsSound before (unbarred tail) where
  legible := by
    have legible := (fits.legible sound escapes).1
    rwa [(fits.behind sound).1] at legible
  target := sound.target
  linked := fun linked some => (sound.linked linked some).unbarred (.inl rfl)
  marked := by
    intro none some
    obtain ⟨encloses, apart⟩ := sound.marked none some
    rcases head?_unbarred tail with same | ⟨bar, slash⟩
    · exact ⟨encloses.unbarred (.inl (by rw [same])), by rwa [same]⟩
    · refine ⟨encloses.unbarred (.inr (by rw [bar, slash]; exact ⟨rfl, rfl⟩)), fun first => ?_⟩
      exact absurd (mem_opening (List.mem_of_mem_head? (first.symm.trans bar))) (by decide)
  bare := by
    intro none unmarked c last
    refine (sound.bare none unmarked c (by rwa [← getLast?_unbarred])).imp_right fun follows => ?_
    rcases head?_unbarred tail with same | ⟨-, slash⟩
    · rwa [StartsMarked, same]
    · exact absurd (follows _ slash) (by decide)

end WrittenSpan

theorem AllSound.text_inCell {all : List WrittenSpan} {before : Char} (sound : AllSound before all)
    (fits : ∀ written ∈ all, written.FitsCell) :
    unbarred (all.flatMap WrittenSpan.text) = (all.map WrittenSpan.inCell).flatMap WrittenSpan.text ∧
      escapesBars (all.flatMap WrittenSpan.text) = true := by
  induction all generalizing before with
  | nil => exact ⟨rfl, rfl⟩
  | cons written rest ih =>
    obtain ⟨own, others⟩ := List.forall_mem_cons.mp fits
    obtain ⟨same, escapes⟩ := ih sound.2 others
    obtain ⟨split, whole⟩ := own.text_inCell sound.1 escapes
    rw [List.flatMap_cons, split, same]
    exact ⟨rfl, whole⟩

/-- Spans that are read back are read back in a cell. -/
theorem AllSound.inCell {all : List WrittenSpan} {before : Char} (sound : AllSound before all)
    (fits : ∀ written ∈ all, written.FitsCell) :
    AllSound before (all.map WrittenSpan.inCell) := by
  induction all generalizing before with
  | nil => trivial
  | cons written rest ih =>
    obtain ⟨own, others⟩ := List.forall_mem_cons.mp fits
    obtain ⟨same, escapes⟩ := sound.2.text_inCell others
    refine ⟨same ▸ sound.1.inCell own escapes, ?_⟩
    rw [WrittenSpan.getLast?_inCell]
    exact ih sound.2 others

section Spans
variable {text : List Char} {span : Span} {spans : List Span}

private theorem escapesBars_plainText (text : List Char) : escapesBars (Render.plainText text) = true := by
  induction text with
  | nil => rfl
  | cons c text ih =>
    rw [plainText_cons]
    by_cases mark : c = '\n' ∨ Render.isMark c = true
    · rw [if_pos mark]
      exact ih
    · rw [if_neg mark, List.singleton_append, escapesBars_cons, ih, Bool.and_true]
      · refine bne_iff_ne.mpr fun bar => mark (.inr ?_)
        rw [bar]
        decide
      · rintro rfl
        exact mark (.inr (by decide))

/-- A guard separates no bar from its backslash. -/
private theorem escapesBars_guardStart (escapes : escapesBars text = true) : escapesBars (Render.guardStart text) = true := by
  -- behind the backslash of a guard stands what stood there before
  have guarded {c : Char} {rest : List Char} (other : c ≠ '\\') (whole : escapesBars (c :: rest) = true) :
      escapesBars ('\\' :: c :: rest) = true := by
    rw [escapesBars_cons other, Bool.and_eq_true] at whole
    exact whole.2
  have guards := guards_guardStart text
  generalize Render.guardStart text = written at guards ⊢
  cases guards with
  | @number _ digits after sign number =>
    have noDigit : Text.isDigit '\\' = false ∧ Text.isDigit '|' = false := by decide
    have noSlash : '\\' ∉ digits := fun among => absurd (number.isDigit _ among) (by simp [noDigit])
    have noBar : '|' ∉ digits := fun among => absurd (number.isDigit _ among) (by simp [noDigit])
    have front := unbarred_append noSlash noBar
    rw [number.split, (front _).2] at escapes
    rw [(front _).2]
    exact guarded (by rcases number.isSign with rfl | rfl <;> decide) escapes
  | marked marked =>
    refine guarded ?_ escapes
    rintro rfl
    exact absurd marked (by decide)
  | unguarded => exact escapes

/-- A span that a cell may hold. -/
structure Span.FitsCell (span : Span) : Prop where
  code : span.style.code = true → '|' ∉ span.text.toList
  target : ∀ target ∈ span.style.link, '|' ∉ target.toList

instance : DecidablePred Span.FitsCell := fun _ =>
  decidable_of_iff (_ ∧ _) ⟨fun ⟨code, target⟩ => ⟨code, target⟩, fun fits => ⟨fits.code, fits.target⟩⟩

private theorem escapesBars_core (simple : span.IsSimple) (fits : span.FitsCell) : escapesBars span.core = true := by
  rcases simple.kind with ⟨plain, -⟩ | ⟨code, valid⟩
  · rw [Span.core_plain plain]
    exact escapesBars_plainText _
  · rw [Span.core_code code valid]
    exact escapesBars_noBar (by simpa using fits.code code)

private theorem fitsCell_guarded (steady : SteadyText spans) (fits : ∀ span ∈ spans, span.FitsCell) :
    ∀ written ∈ guarded spans, written.FitsCell := by
  cases spans with
  | nil => simp [guarded]
  | cons span rest =>
    obtain ⟨own, others⟩ := List.forall_mem_cons.mp steady.simple
    obtain ⟨fit, fits⟩ := List.forall_mem_cons.mp fits
    refine List.forall_mem_cons.mpr ⟨⟨?_, fit.code, fit.target⟩, List.forall_mem_map.mpr fun other among => ?_⟩
    · have core := escapesBars_core own fit
      split
      · exact escapesBars_guardStart core
      · exact core
    · exact ⟨escapesBars_core (others other among) (fits other among), (fits other among).code, (fits other among).target⟩

namespace SteadyText
variable (steady : SteadyText spans) (fits : ∀ span ∈ spans, span.FitsCell)
include steady fits

theorem escapesBars_rendered : escapesBars (Render.spans spans) = true := by
  rw [steady.rendered_guarded]
  exact (steady.allSound_guarded.text_inCell (fitsCell_guarded steady fits)).2

/-- What is read from a cell shows the spans that were written. -/
theorem pieces_unbarred (definitions : Definitions) :
    Piece.ofInline (Inline.ofText definitions (unbarred (Render.spans spans))) = spans.map .span := by
  have inCells := fitsCell_guarded steady fits
  have shows := ofText_shows definitions (steady.allSound_guarded.inCell inCells) []
  have shown : ((guarded spans).map WrittenSpan.inCell).flatMap WrittenSpan.shown =
    (guarded spans).flatMap WrittenSpan.shown := by
    rw [List.flatMap_map]
    rfl
  rw [shown, shown_guarded, List.append_nil] at shows
  rw [steady.rendered_guarded, (steady.allSound_guarded.text_inCell inCells).1, Piece.ofInline]
  exact shows.trans (pieces_shown steady.filled steady.apart)

omit fits in
theorem trimmed_unbarred : Text.trimBy Text.isMargin (unbarred (Render.spans spans)) = unbarred (Render.spans spans) := by
  refine Text.trimBy_eq_self (fun c first => ?_) fun c last => ?_
  · rcases head?_unbarred (Render.spans spans) with same | ⟨bar, -⟩
    · exact isMargin_of_shown (steady.rendered_ends.1 c (same ▸ first))
    · obtain rfl := Option.some.inj (first.symm.trans bar)
      decide
  · rw [getLast?_unbarred] at last
    exact isMargin_of_shown (steady.rendered_ends.2 c last)

end SteadyText

end Spans

end DocScribe.Markdown
