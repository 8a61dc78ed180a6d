import DocScribe.Proofs.Markdown.MarkedText

/-! Text that the marks of a style enclose is read with that style. -/

namespace DocScribe.Markdown
open DocScribe InlineReader

namespace Style
variable (style : Style)

/-- The number of stars on either side of the text. -/
def stars : Nat := 2 * style.bold.toNat + style.italic.toNat

/-- The marks before the text. -/
def opening : List Char := List.replicate style.stars '*' ++ List.replicate (2 * style.strikethrough.toNat) '~'

/-- The marks behind the text. -/
def closing : List Char := List.replicate (2 * style.strikethrough.toNat) '~' ++ List.replicate style.stars '*'

/-- What the outermost marks stand next to, on the side of the text. -/
def facing (edge : Char) : Char := if 0 < style.stars ∧ style.strikethrough = true then '~' else edge

/-- The marks open before the text and close behind it, where these characters stand around them. -/
structure Encloses (before : Char) (core : List Char) (behind : Char) : Prop where
  filled : core ≠ []
  unmarked : ∀ c ∈ core.head?, c ≠ '*' ∧ c ≠ '~'
  starts : ∀ c ∈ core.head?, Text.isSpacing c = false ∧ Flanked before (style.facing c)
  stops : ∀ c ∈ core.getLast?, Text.isSpacing c = false ∧ Flanked behind (style.facing c)

private theorem stars_le : style.stars ≤ 3 := by
  have bold := Bool.toNat_le style.bold
  have italic := Bool.toNat_le style.italic
  unfold stars
  omega

theorem length_closing : style.closing.length = style.opening.length := by simp [opening, closing, Nat.add_comm]

theorem closing_eq_nil (none : style.opening = []) : style.closing = [] :=
  List.eq_nil_of_length_eq_zero (by rw [style.length_closing, none]; rfl)

end Style

variable {style : Style}

/-- A mark next to another mark opens or closes, unless there is a blank on its inner side. -/
private theorem flanked_mark {outside inside : Char} (mark : outside = '*' ∨ outside = '~')
    (shown : Text.isSpacing inside = false) :
    Flanked outside inside := by
  refine ⟨shown, fun _ => .inr ?_⟩
  rcases mark with rfl | rfl <;> decide

/-- What the outermost marks of a text face. -/
private theorem head?_facing {core more : List Char} {edge : Char} (positive : 0 < style.stars) (first : core.head? = some edge) :
    (List.replicate (2 * style.strikethrough.toNat) '~' ++ (core ++ more)).head? = some (style.facing edge) := by
  unfold Style.facing
  cases style.strikethrough with
  | true => simp [positive]
  | false => simp [first]

private theorem getLast?_facing {core : List Char} {edge : Char} (positive : 0 < style.stars)
    (last : core.getLast? = some edge) :
    (core ++ List.replicate (2 * style.strikethrough.toNat) '~').getLast? = some (style.facing edge) := by
  unfold Style.facing
  cases style.strikethrough with
  | true => simp [positive, List.getLast?_append]
  | false => simp [last]

private theorem facing_alone {edge : Char} (none : style.stars = 0) : style.facing edge = edge := by simp [Style.facing, none]

/-- The nest of an enclosed text that starts at a position and is as long as `size` between its marks. -/
def Style.nestAt (style : Style) (source : Source) (limit pos size : Nat) (inside : List Inline) : Nest :=
  let start := pos + style.opening.length
  let stop := start + size
  let last := stop + 2 * style.strikethrough.toNat
  ⟨style.stars, style.strikethrough, inside,
    (flanksAt source limit pos (pos + style.stars) true, flanksAt source limit last (last + style.stars) true),
    (flanksAt source limit (pos + style.stars) start true, flanksAt source limit stop last true)⟩

theorem Style.style_nestAt (style : Style) (source : Source) (limit pos size : Nat) (inside : List Inline) (links : List String)
    (code : Bool) :
    (style.nestAt source limit pos size inside).style links code = { style with code, link := links.head? } := by
  obtain ⟨bold, italic, strikethrough, _, _⟩ := style
  cases bold <;> cases italic <;> simp [Nest.style, nestAt, stars]

/-- The five parts of an enclosed text, each at its place. -/
structure PartsAt (text : List Char) (pos : Nat) (style : Style) (body more : List Char) (limit : Nat) : Prop where
  stars : StandsAt text pos (List.replicate style.stars '*')
    (List.replicate (2 * style.strikethrough.toNat) '~' ++ (body ++ (style.closing ++ more))) limit
  tildes : StandsAt text (pos + style.stars) (List.replicate (2 * style.strikethrough.toNat) '~')
    (body ++ (style.closing ++ more)) limit
  core : StandsAt text (pos + style.opening.length) body (style.closing ++ more) limit
  closingTildes : StandsAt text (pos + style.opening.length + body.length) (List.replicate (2 * style.strikethrough.toNat) '~')
    (List.replicate style.stars '*' ++ more) limit
  closingStars : StandsAt text (pos + style.opening.length + body.length + 2 * style.strikethrough.toNat)
    (List.replicate style.stars '*')
    more limit

section Parts
variable {text core more : List Char} {limit pos : Nat}

theorem StandsAt.parts (stands : StandsAt text pos (style.opening ++ core ++ style.closing) more limit) :
    PartsAt text pos style core more limit := by
  have inside := stands.behind _ (List.append_assoc ..)
  have behind := stands.behind (style.opening ++ core) rfl
  rw [List.length_append, ← Nat.add_assoc] at behind
  have front := stands.front _ (List.append_assoc ..)
  refine ⟨?_, ?_, ?_, ?_, ?_⟩
  · simpa using front.front (List.replicate style.stars '*') rfl
  · simpa using front.behind (List.replicate style.stars '*') rfl
  · simpa using inside.front _ rfl
  · simpa using behind.front (List.replicate (2 * style.strikethrough.toNat) '~') rfl
  · simpa using behind.behind (List.replicate (2 * style.strikethrough.toNat) '~') rfl

private theorem PartsAt.opens (parts : PartsAt text pos style core more limit) {first : Char} (firstOf : core.head? = some first)
    (shown : Text.isSpacing first = false) (flanked : Flanked (charBefore text pos) (style.facing first)) :
    (0 < style.stars → (flanksAt (Source.ofChars text) limit pos (pos + style.stars) true).canOpen = true) ∧
      (style.strikethrough = true → (flanksAt (Source.ofChars text) limit (pos + style.stars)
        (pos + style.opening.length) true).canOpen = true) := by
  have room : pos + style.opening.length < limit := by
    have fits := parts.core.fits
    have filled : core ≠ [] := by
      rintro rfl
      cases firstOf
    have := List.length_pos_iff.mpr filled
    omega
  have width : style.stars + 2 * style.strikethrough.toNat = style.opening.length := by simp [Style.opening]
  have stars := parts.stars.flanksAt_eq
  have tildes := parts.tildes.flanksAt_eq
  have before := parts.stars.charBefore_behind
  rw [List.length_replicate] at stars tildes before
  rw [Nat.add_assoc, width] at tildes
  constructor
  · intro positive
    rw [stars, charBehind, if_pos (by omega), head?_facing positive firstOf]
    exact ofNeighbours_canOpen flanked
  · intro struck
    rw [tildes, charBehind, if_pos room, List.head?_append, firstOf, before, List.getLast?_replicate]
    apply ofNeighbours_canOpen
    by_cases none : style.stars = 0
    · rw [facing_alone none] at flanked
      simpa [none] using flanked
    · simpa [none] using flanked_mark (.inl rfl) shown

private theorem PartsAt.closes (parts : PartsAt text pos style core more limit) {last : Char} (lastOf : core.getLast? = some last)
    (shown : Text.isSpacing last = false)
    (flanked : Flanked (charBehind (pos + (style.opening ++ core ++ style.closing).length) limit more) (style.facing last)) :
    let stop := pos + style.opening.length + core.length
    let close := stop + 2 * style.strikethrough.toNat
    (0 < style.stars → (flanksAt (Source.ofChars text) limit close (close + style.stars) true).canClose = true) ∧
      (style.strikethrough = true → (flanksAt (Source.ofChars text) limit stop close true).canClose = true) := by
  intro stop close
  have width : pos + (style.opening ++ core ++ style.closing).length = close + style.stars := by
    simp [Style.closing, stop, close]
    omega
  have stars := parts.closingStars.flanksAt_eq
  have tildes := parts.closingTildes.flanksAt_eq
  have behindTildes := parts.closingTildes.charBefore_behind
  have behindCore := parts.core.charBefore_behind
  rw [List.length_replicate] at stars tildes behindTildes
  rw [lastOf, Option.getD_some] at behindCore
  rw [behindCore] at behindTildes
  rw [width] at flanked
  constructor
  · intro positive
    have inner : charBefore text close = style.facing last := by
      have := getLast?_facing positive lastOf
      rw [behindTildes]
      rw [List.getLast?_append, lastOf] at this
      simpa using this
    rw [stars, inner]
    exact ofNeighbours_canClose flanked
  · intro struck
    rw [tildes, behindCore]
    apply ofNeighbours_canClose
    by_cases none : style.stars = 0
    · rw [facing_alone none, none] at flanked
      simpa [none] using flanked
    · have room : close < limit := by
        have := parts.closingStars.fits
        rw [List.length_replicate] at this
        omega
      rw [charBehind, if_pos room, List.head?_append, List.head?_replicate, if_neg none]
      exact flanked_mark (.inl rfl) shown

theorem ends_closing (marked : style.opening ≠ []) : Ends pos core (style.closing ++ more) limit := by
  have some : style.closing ≠ [] := List.ne_nil_of_length_pos (style.length_closing ▸ List.length_pos_iff.mpr marked)
  obtain ⟨mark, rest, split⟩ := List.exists_cons_of_ne_nil some
  intro _ _
  refine .inr (.inr ⟨mark, by simp [split], ?_⟩)
  have among : mark ∈ style.closing := split ▸ List.mem_cons_self ..
  rcases List.mem_append.mp among with tilde | star
  · obtain rfl := List.eq_of_mem_replicate tilde
    decide
  · obtain rfl := List.eq_of_mem_replicate star
    decide

theorem depth_pos (marked : style.opening ≠ []) {source : Source} {size : Nat} {inside : List Inline} :
    0 < (style.nestAt source limit pos size inside).depth := by
  have := List.length_pos_iff.mpr marked
  simp only [Style.opening, List.length_append, List.length_replicate] at this
  simp only [Nest.depth, Style.nestAt]
  omega

theorem PartsAt.flanked (parts : PartsAt text pos style core more limit)
    (encloses : style.Encloses (charBefore text pos) core
      (charBehind (pos + (style.opening ++ core ++ style.closing).length) limit more))
    {inside : List Inline} (some : inside ≠ []) (noTilde : inside.getLast? ≠ Option.some (.text ['~'])) :
    (style.nestAt (Source.ofChars text) limit pos core.length inside).Flanked := by
  obtain ⟨first, rest, firstOf⟩ := List.exists_cons_of_ne_nil encloses.filled
  have firstOf : core.head? = Option.some first := by simp [firstOf]
  have lastOf := List.getLast?_eq_some_getLast encloses.filled
  obtain ⟨shown, outside⟩ := encloses.starts first firstOf
  obtain ⟨shownLast, outsideLast⟩ := encloses.stops _ lastOf
  have opens := parts.opens firstOf shown outside
  have closes := parts.closes lastOf shownLast outsideLast
  have struck {index : Nat} (below : index < style.stars + style.strikethrough.toNat)
    (behind : ¬ index < style.stars) : style.strikethrough = true := by
    cases struck : style.strikethrough with
    | true => rfl
    | false => simp [struck] at below; omega
  refine ⟨style.stars_le, fun _ => some, ?_, ?_, noTilde⟩
  · intro index below
    by_cases star : index < style.stars
    · simpa [Nest.flanksAt, Style.nestAt, star] using opens.1 (Nat.zero_lt_of_lt star)
    · simpa [Nest.flanksAt, Style.nestAt, star] using opens.2 (struck below star)
  · intro index below
    by_cases star : index < style.stars
    · simpa [Nest.flanksAt, Style.nestAt, star] using closes.1 (Nat.zero_lt_of_lt star)
    · simpa [Nest.flanksAt, Style.nestAt, star] using closes.2 (struck below star)

end Parts

section Enclosed
variable {context : InlineContext} {text : List Char} (whole : context.source = Source.ofChars text) {limit pos : Nat}
  (skip : Nat → Scan Nat) (content : (start stop : Nat) → Scan (Array Inline)) {draft : Draft} (memory : InlineMemory)
  {core more : List Char} {shown : List (Char × Bool)} {links : List String} {chars : List (Char × Style)}
include whole

omit whole in
private theorem length_enclosed (pos : Nat) : pos + (style.opening ++ core ++ style.closing).length =
    pos + style.opening.length + core.length + 2 * style.strikethrough.toNat + style.stars := by
  simp [Style.closing]
  omega

/-- The marks before a text are read up to its first character. -/
private theorem reads_opening (parts : PartsAt text pos style core more limit) (filled : core ≠ [])
    (unmarked : ∀ c ∈ core.head?, c ≠ '*' ∧ c ≠ '~') :
    Reads context limit skip content pos draft memory (pos + style.opening.length)
      ((draft.pushStars '*' style.stars (flanksAt (Source.ofChars text) limit pos (pos + style.stars) true)).pushTildes
        (2 * style.strikethrough.toNat)
        (flanksAt (Source.ofChars text) limit (pos + style.stars) (pos + style.opening.length) true)) memory := by
  have width : style.stars + 2 * style.strikethrough.toNat = style.opening.length := by simp [Style.opening]
  obtain ⟨first, behind, rfl⟩ := List.exists_cons_of_ne_nil filled
  obtain ⟨noStar, noTilde⟩ := unmarked first rfl
  let starred := draft.pushStars '*' style.stars (flanksAt (Source.ofChars text) limit pos (pos + style.stars) true)
  have stars := Reads.stars whole skip content draft memory parts.stars fun _ => .inr ?_
  · have tildes := Reads.tildes whole skip content starred memory parts.tildes (Bool.toNat_le _) fun _ => .inr ?_
    · rw [Nat.add_assoc, width] at tildes
      exact stars.trans tildes
    · simpa using noTilde
  · cases style.strikethrough <;> simp [noStar]

/-- The marks behind a text are read where the text ends or no further mark of the kind follows. -/
private theorem reads_closing (draft : Draft) (parts : PartsAt text pos style core more limit)
    (ends : limit = pos + (style.opening ++ core ++ style.closing).length ∨ more.head? ≠ style.opening.head?)
    (inside : List Inline) :
    let nest := style.nestAt (Source.ofChars text) limit pos core.length inside
    Reads context limit skip content (pos + style.opening.length + core.length) draft memory
      (pos + (style.opening ++ core ++ style.closing).length)
      ((draft.pushTildes (2 * nest.tildes.toNat) nest.tildeFlanks.2).pushStars '*' nest.stars nest.starFlanks.2) memory := by
  intro nest
  rw [length_enclosed] at ends ⊢
  have tildes := Reads.tildes whole skip content draft memory parts.closingTildes (Bool.toNat_le _) fun some => ?_
  · have stars := Reads.stars whole skip content (draft.pushTildes (2 * nest.tildes.toNat) nest.tildeFlanks.2) memory
      parts.closingStars fun some => ?_
    · exact tildes.trans stars
    · refine ends.imp id fun other => ?_
      rwa [Style.opening, List.head?_append, List.head?_replicate, if_neg (Nat.ne_of_gt some)] at other
  · rcases Nat.eq_zero_or_pos style.stars with none | stars
    · refine ends.imp (fun same => by simp [same, none]) fun other => ?_
      rw [Style.opening, none, List.replicate_zero, List.nil_append, List.head?_replicate, if_neg (by omega)] at other
      simpa [none] using other
    · refine .inr ?_
      simp [List.head?_append, List.head?_replicate, Nat.ne_of_gt stars]

theorem Reads.enclosed (marked : style.opening ≠ [])
    (stands : StandsAt text pos (style.opening ++ core ++ style.closing) more limit)
    (legible : Legible (style.closing ++ more) core shown)
    (encloses : style.Encloses (charBefore text pos) core
      (charBehind (pos + (style.opening ++ core ++ style.closing).length) limit more))
    (ends : limit = pos + (style.opening ++ core ++ style.closing).length ∨ more.head? ≠ style.opening.head?)
    (writes : draft.Writes links chars) :
    ∃ next, Reads context limit skip content pos draft memory
      (pos + (style.opening ++ core ++ style.closing).length) next memory ∧
      next.Writes links (chars ++ shown.map fun entry => (entry.1, { style with code := entry.2, link := links.head? })) := by
  have parts := stands.parts
  let struck := (draft.pushStars '*' style.stars (flanksAt (Source.ofChars text) limit pos (pos + style.stars) true)).pushTildes
    (2 * style.strikethrough.toNat) (flanksAt (Source.ofChars text) limit (pos + style.stars) (pos + style.opening.length) true)
  have opening : Reads context limit skip content pos draft memory (pos + style.opening.length) struck memory :=
    reads_opening whole skip content memory parts encloses.filled encloses.unmarked
  -- the text itself, as the items of a nest
  obtain ⟨inner, reading, grown⟩ := Reads.legible whole legible parts.core (ends_closing marked) skip content struck memory
  obtain ⟨inside, items, plain, shows⟩ := (grown.trans (Draft.extends_flush inner)).items
  let nest := style.nestAt (Source.ofChars text) limit pos core.length inside
  have deep : 0 < nest.depth := depth_pos marked
  have noPending : struck.pending = [] := draft.pending_openers nest deep
  rw [noPending, Draft.pending_flush, List.append_nil] at shows
  have plain := plain (by simp [noPending])
  have shows : shownItems inside = shown := by simpa using shows
  have filled : inside ≠ [] := by
    rintro rfl
    exact legible.filled encloses.filled shows.symm
  have closing := reads_closing whole skip content memory inner parts ends inside
  refine ⟨_, (opening.trans reading).trans closing, ?_⟩
  have written := writes.marked (parts.flanked encloses filled (getLast?_plain plain)) deep plain
    items grown.delimiters
  have same : shownItems nest.inside = shown := shows
  simpa only [same, nest, Style.style_nestAt] using written

omit whole in
private theorem unmarked_style (unmarked : style.opening = []) (code : Bool) :
    linkedStyle links code = { style with code, link := links.head? } := by
  have none : style.stars = 0 ∧ style.strikethrough.toNat = 0 := by
    have := congrArg List.length unmarked
    simp only [Style.opening, List.length_append, List.length_replicate, List.length_nil] at this
    omega
  obtain ⟨bold, italic, strikethrough, _, _⟩ := style
  cases bold <;> cases italic <;> cases strikethrough <;> simp [Style.stars] at none
  rfl

/-- Text is read with its style, whether there are marks around it or not. -/
theorem Reads.styled (stands : StandsAt text pos (style.opening ++ core ++ style.closing) more limit)
    (legible : Legible (style.closing ++ more) core shown)
    (marked : style.opening ≠ [] →
      style.Encloses (charBefore text pos) core (charBehind (pos + (style.opening ++ core ++ style.closing).length) limit more) ∧
      (limit = pos + (style.opening ++ core ++ style.closing).length ∨ more.head? ≠ style.opening.head?))
    (unmarked : style.opening = [] → Ends pos core more limit) (writes : draft.Writes links chars) :
    ∃ next, Reads context limit skip content pos draft memory
      (pos + (style.opening ++ core ++ style.closing).length) next memory ∧
      next.Writes links (chars ++ shown.map fun entry => (entry.1, { style with code := entry.2, link := links.head? })) := by
  rcases eq_or_ne style.opening [] with none | some
  · have noClosing := style.closing_eq_nil none
    simp only [none, noClosing, List.append_nil, List.nil_append] at stands legible ⊢
    obtain ⟨next, reads, grown⟩ := Reads.legible whole legible stands (unmarked none) skip content draft memory
    refine ⟨next, reads, ?_⟩
    simpa only [unmarked_style none] using writes.extended grown
  · obtain ⟨encloses, ends⟩ := marked some
    exact Reads.enclosed whole skip content memory some stands legible encloses ends writes

end Enclosed

end DocScribe.Markdown
