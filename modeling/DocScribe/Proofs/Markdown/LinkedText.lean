import DocScribe.Proofs.Markdown.EnclosedText
import DocScribe.Proofs.Markdown.LabelEnds

/-! Links and images are read from a label and a destination behind it. -/

namespace DocScribe.Markdown
open DocScribe InlineReader

/-- A destination that is written as it is and read back unchanged. -/
structure IsTarget (target : List Char) : Prop where
  filled : target ≠ []
  bare : LinkPart.bareLength? 0 target = some target.length
  noAngle : target.head? ≠ some '<'
  noSlash : '\\' ∉ target
  unescaped : LinkPart.unescape target = target
  normal : Url.normalize target = target
  allowed : Url.isAllowed target = true

instance : DecidablePred IsTarget := fun _ =>
  decidable_of_iff (_ ∧ _ ∧ _ ∧ _ ∧ _ ∧ _ ∧ _)
    ⟨fun ⟨filled, bare, noAngle, noSlash, unescaped, normal, allowed⟩ =>
      ⟨filled, bare, noAngle, noSlash, unescaped, normal, allowed⟩,
      fun valid => ⟨valid.filled, valid.bare, valid.noAngle, valid.noSlash, valid.unescaped, valid.normal, valid.allowed⟩⟩

namespace LinkPart

private theorem bareLength?_cons {c : Char} (noSlash : c ≠ '\\') (depth : Nat) (rest : List Char) :
    bareLength? depth (c :: rest) =
    if c.toNat ≤ 0x20 || c.toNat == 0x7f then if depth == 0 then some 0 else none
    else if c == '(' then
      if depth < maxNesting then (bareLength? (depth + 1) rest).map (· + 1) else none
    else if c == ')' then
      if depth == 0 then some 0 else (bareLength? (depth - 1) rest).map (· + 1)
    else (bareLength? depth rest).map (· + 1) := by
  rw [bareLength?]
  intro d more same
  exact absurd same noSlash

/-- The first character of a bare part that goes on is no control character, and what follows it is a part as well. -/
theorem bareLength?_rest {c : Char} (noSlash : c ≠ '\\') {depth : Nat} {rest : List Char}
    (bare : bareLength? depth (c :: rest) = some (rest.length + 1)) :
    0x20 < c.toNat ∧ ∃ next, bareLength? next rest = some rest.length ∧
      ∀ more, bareLength? depth (c :: more) = (bareLength? next more).map (· + 1) := by
  rw [bareLength?_cons noSlash] at bare
  have past {found : Option Nat} (own : found.map (· + 1) = some (rest.length + 1)) : found = some rest.length := by
    obtain ⟨length, rfl, same⟩ := Option.map_eq_some_iff.mp own
    rw [Nat.succ.inj same]
  split at bare
  · split at bare <;> cases bare
  next control =>
    simp only [Bool.or_eq_true, decide_eq_true_eq, not_or, Nat.not_le] at control
    refine ⟨control.1, ?_⟩
    have plain : (decide (c.toNat ≤ 32) || c.toNat == 127) = false := by simpa using control
    split at bare
    next opens =>
      split at bare
      next few => exact ⟨_, past bare, fun more => by rw [bareLength?_cons noSlash]; simp [plain, opens, few]⟩
      · cases bare
    next opens =>
      split at bare
      next closes =>
        split at bare
        · cases bare
        next inside => exact ⟨_, past bare, fun more => by rw [bareLength?_cons noSlash]; simp [plain, opens, closes, inside]⟩
      next closes => exact ⟨_, past bare, fun more => by rw [bareLength?_cons noSlash]; simp [plain, opens, closes]⟩

private theorem bareLength?_closed {target : List Char} (noSlash : '\\' ∉ target) {depth : Nat}
    (bare : bareLength? depth target = some target.length)
    (rest : List Char) : bareLength? depth (target ++ ')' :: rest) = some target.length := by
  induction target generalizing depth with
  | nil =>
    have top : depth = 0 := by
      by_contra deep
      simp [bareLength?, deep] at bare
    subst top
    rfl
  | cons c target ih =>
    obtain ⟨other, others⟩ := not_or.mp (mt List.mem_cons.mpr noSlash)
    obtain ⟨-, next, bareRest, whole⟩ := bareLength?_rest (Ne.symm other) bare
    rw [List.cons_append, whole, ih others bareRest]
    rfl

/-- A bare part holds no control characters. -/
theorem printed_of_bareLength? {target : List Char} (noSlash : '\\' ∉ target) {depth : Nat}
    (bare : bareLength? depth target = some target.length) :
    ∀ c ∈ target, 0x20 < c.toNat := by
  induction target generalizing depth with
  | nil => simp
  | cons c target ih =>
    obtain ⟨other, others⟩ := not_or.mp (mt List.mem_cons.mpr noSlash)
    obtain ⟨printed, next, bareRest, -⟩ := bareLength?_rest (Ne.symm other) bare
    exact List.forall_mem_cons.mpr ⟨printed, ih others bareRest⟩

end LinkPart

section Destinations
variable {text target more : List Char} {pos limit : Nat}

theorem IsTarget.printed (valid : IsTarget target) : ∀ c ∈ target, 0x20 < c.toNat :=
  LinkPart.printed_of_bareLength? valid.noSlash valid.bare

private theorem isGap_printed {c : Char} (printed : 0x20 < c.toNat) : FoundDefinition.isGap c = false := by
  refine Bool.eq_false_iff.mpr fun gap => ?_
  simp only [FoundDefinition.isGap, Text.isIndent, Bool.or_eq_true, beq_iff_eq] at gap
  rcases gap with (rfl | rfl) | rfl <;> exact absurd printed (by decide)

private theorem destination?_target (valid : IsTarget target) (rest : List Char) :
    LinkPart.destination? (target ++ ')' :: rest) = some (target, target.length) := by
  obtain ⟨c, tail, split⟩ := List.exists_cons_of_ne_nil valid.filled
  have noAngle : c ≠ '<' := by
    rintro rfl
    exact valid.noAngle (by simp [split])
  have bare := LinkPart.bareLength?_closed valid.noSlash valid.bare rest
  have front : (target ++ ')' :: rest).take target.length = target := List.take_left
  have positive : target.length = tail.length + 1 := by simp [split]
  unfold LinkPart.destination?
  split
  next same =>
    rw [split] at same
    exact absurd (List.cons.inj same).1 noAngle
  · rw [bare, positive]
    change some (LinkPart.unescape (List.take (tail.length + 1) _), tail.length + 1) = _
    rw [← positive, front, valid.unescaped]

/-- No gap is skipped before a character that is none. -/
private theorem skipWhile_gap {part : List Char} (stands : StandsAt text pos part more limit) (some : part ≠ [])
    (printed : ∀ c ∈ part.head?, 0x20 < c.toNat) :
    skipWhile (Source.ofChars text) FoundDefinition.isGap pos limit = pos := by
  obtain ⟨c, rest, rfl⟩ := List.exists_cons_of_ne_nil some
  have none : ((c :: rest ++ more).take (limit - pos)).takeWhile FoundDefinition.isGap = [] := by
    cases limit - pos with
    | zero => rfl
    | succ => simp [isGap_printed (printed c rfl)]
  rw [skipWhile, stands.slice_eq, none]
  rfl

private theorem insideAt_target (valid : IsTarget target) (stands : StandsAt text pos (target ++ [')']) more limit) :
    insideAt (Source.ofChars text) limit pos = .link target (pos + target.length + 1) := by
  have closes : StandsAt text (pos + target.length) [')'] more limit := stands.behind _ rfl
  have fits := closes.fits
  have starts : ∀ c ∈ (target ++ [')']).head?, 0x20 < c.toNat := by
    intro c head
    rw [List.head?_append_of_ne_nil _ valid.filled] at head
    exact valid.printed c (List.mem_of_mem_head? head)
  have first := skipWhile_gap stands (List.append_ne_nil_of_left_ne_nil valid.filled _) starts
  have bracket : ∀ c ∈ [')'].head?, 0x20 < c.toNat := by
    intro c head
    obtain rfl := Option.some.inj head
    decide
  have last := skipWhile_gap closes (List.cons_ne_nil _ _) bracket
  obtain ⟨size, slice⟩ : ∃ rest, (Source.ofChars text).slice pos limit = target ++ ')' :: rest := by
    refine ⟨more.take (limit - pos - (target.length + 1)), ?_⟩
    have length : (target ++ [')']).length = target.length + 1 := by simp
    rw [stands.slice_eq, List.take_append, List.take_of_length_le (by rw [length]; simp at fits; omega), length]
    simp
  have inside : ¬ limit ≤ pos := by
    simp at fits
    omega
  have place : (Source.ofChars text).at? (pos + target.length) = some ')' := closes.at?_eq
  have before : pos + target.length < limit := by
    simp at fits
    omega
  simp only [insideAt, first, inside, ↓reduceIte, slice, destination?_target valid, valid.normal, valid.allowed, last]
  simp [place, before]

end Destinations

/-- What stands behind a label. -/
def behindLabel (target : List Char) : List Char := ']' :: '(' :: (target ++ [')'])

private theorem length_behindLabel (target : List Char) : (behindLabel target).length = target.length + 3 := by simp [behindLabel]

section Labels
variable {context : InlineContext} {text : List Char} (whole : context.source = Source.ofChars text) {limit : Nat}
    (nesting : Nat) {pos : Nat}
  {memory : InlineMemory} {style : Style} {core target more : List Char} {shown : List (Char × Bool)}
include whole

/-- The marks around a text are passed with it. -/
theorem Passes.enclosed (fresh : memory.Fresh pos)
    (stands : StandsAt text pos (style.opening ++ core ++ style.closing) more limit)
    (legible : Legible (style.closing ++ more) core shown)
    (ends : Ends (pos + style.opening.length) core (style.closing ++ more) limit) :
    ∃ later, Passes context limit nesting pos memory (pos + (style.opening ++ core ++ style.closing).length) later ∧
      later.Fresh (pos + (style.opening ++ core ++ style.closing).length) := by
  have parts := stands.parts
  have width : style.stars + 2 * style.strikethrough.toNat = style.opening.length := by simp [Style.opening]
  have total : pos + (style.opening ++ core ++ style.closing).length =
      pos + style.opening.length + core.length + 2 * style.strikethrough.toNat + style.stars := by
    simp [Style.closing]
    omega
  obtain ⟨_, stars, fresh⟩ := Passes.marks whole nesting fresh (.inl rfl) parts.stars
  obtain ⟨_, tildes, fresh⟩ := Passes.marks whole nesting fresh (.inr rfl) parts.tildes
  rw [Nat.add_assoc, width] at tildes fresh
  obtain ⟨_, inside, fresh⟩ := Passes.legible whole nesting fresh legible parts.core ends
  obtain ⟨_, closingTildes, fresh⟩ := Passes.marks whole nesting fresh (.inr rfl) parts.closingTildes
  obtain ⟨later, closingStars, fresh⟩ := Passes.marks whole nesting fresh (.inl rfl) parts.closingStars
  rw [total]
  exact ⟨later, (((stars.trans tildes).trans inside).trans closingTildes).trans closingStars, fresh⟩

omit whole in
private theorem ends_label : Ends pos core (style.closing ++ (behindLabel target ++ more)) limit := by
  intro _ _
  rcases eq_or_ne style.opening [] with none | marked
  · have noClosing := style.closing_eq_nil none
    rw [noClosing]
    exact .inr (.inr ⟨']', rfl, rfl⟩)
  · exact ends_closing marked _ ‹_›

variable {stop : Nat} (content : (start stop : Nat) → Scan (Array Inline)) (draft : Draft)

private theorem labelEnd_enclosed (fresh : memory.Fresh (pos + 1))
    (stands : StandsAt text (pos + 1) (style.opening ++ core ++ style.closing ++ behindLabel target) more limit)
    (legible : Legible (style.closing ++ (behindLabel target ++ more)) core shown)
    (ends : stop = pos + 1 + (style.opening ++ core ++ style.closing).length) (refuseLinks : Bool) :
    ∃ later, (labelEnd context.source limit (InlineReader.skip context limit (nesting + 1)) refuseLinks pos).run memory =
      (some stop, later) ∧
      later.Fresh stop := by
  have behind : StandsAt text stop (behindLabel target) more limit := ends ▸ stands.behind _ rfl
  obtain ⟨later, passes, fresh⟩ := Passes.enclosed whole nesting fresh (stands.front _ rfl) legible ends_label
  rw [← ends] at passes fresh
  refine ⟨later, ?_, fresh⟩
  have bracket : context.source.at? stop = some ']' := by rw [whole, behind.at?_eq]; rfl
  have room := behind.fits
  have inside := behind.inside
  rw [length_behindLabel] at room
  rw [labelEnd, whole, Source.length_ofChars, ← whole]
  exact passes.findLabelEnd_eq (by omega) bracket refuseLinks _ (by omega)

theorem linkAt_enclosed (fresh : memory.Fresh (pos + 1)) (valid : IsTarget target)
    (stands : StandsAt text pos ('[' :: (style.opening ++ core ++ style.closing ++ behindLabel target)) more limit)
    (legible : Legible (style.closing ++ (behindLabel target ++ more)) core shown)
    (ends : stop = pos + 1 + (style.opening ++ core ++ style.closing).length) :
    ∃ later, (linkAt context limit (InlineReader.skip context limit (nesting + 1)) pos).run memory =
      (some ⟨pos + 1, stop, target, stop + (behindLabel target).length⟩, later) ∧ later.Fresh stop := by
  have inside : StandsAt text (pos + 1) (style.opening ++ core ++ style.closing ++ behindLabel target) more limit :=
    stands.behind ['['] rfl
  have bracket : StandsAt text stop (behindLabel target) more limit := ends ▸ inside.behind _ rfl
  have behind : StandsAt text (stop + 1) ('(' :: (target ++ [')'])) more limit := bracket.behind [']'] rfl
  have round : StandsAt text (stop + 2) (target ++ [')']) more limit := behind.behind ['('] rfl
  obtain ⟨later, found, fresh⟩ := labelEnd_enclosed whole nesting fresh inside legible ends true
  refine ⟨later, ?_, fresh⟩
  have opens : context.source.at? (stop + 1) = some '(' := by rw [whole, behind.at?_eq]; rfl
  have room := bracket.fits
  rw [length_behindLabel] at room
  have before : stop + 1 < limit := by omega
  have size : stop + (behindLabel target).length = stop + 2 + target.length + 1 := by
    rw [length_behindLabel]
    omega
  rw [linkAt, StateT.run_bind, found, size]
  dsimp only [Bind.bind]
  rw [if_pos (by simp [before, opens]), whole, insideAt_target valid round]
  rfl

private theorem imageAt_enclosed (fresh : memory.Fresh (pos + 2)) (valid : IsTarget target)
    (stands : StandsAt text pos ('!' :: '[' :: (core ++ behindLabel target)) more limit)
    (legible : Legible (behindLabel target ++ more) core shown) (ends : stop = pos + 2 + core.length) :
    ∃ later, (imageAt context limit (InlineReader.skip context limit (nesting + 1)) pos).run memory =
      (some ⟨pos + 2, stop, target, stop + (behindLabel target).length⟩, later) ∧ later.Fresh stop := by
  have opening : StandsAt text (pos + 1) ('[' :: (core ++ behindLabel target)) more limit := stands.behind ['!'] rfl
  have inside : StandsAt text (pos + 2) (core ++ behindLabel target) more limit := opening.behind ['['] rfl
  have bracket : StandsAt text stop (behindLabel target) more limit := ends ▸ inside.behind _ rfl
  have behind : StandsAt text (stop + 1) ('(' :: (target ++ [')'])) more limit := bracket.behind [']'] rfl
  have round : StandsAt text (stop + 2) (target ++ [')']) more limit := behind.behind ['('] rfl
  -- the label of a link without marks
  have unmarked : StandsAt text (pos + 1 + 1) (Style.plain.opening ++ core ++ Style.plain.closing ++
    behindLabel target) more limit := by
    simpa [Style.opening, Style.closing, Style.stars, Style.plain] using inside
  have plain : Legible (Style.plain.closing ++ (behindLabel target ++ more)) core shown := by
    simpa [Style.closing, Style.stars, Style.plain] using legible
  have place : stop = pos + 1 + 1 + (Style.plain.opening ++ core ++ Style.plain.closing).length := by
    simpa [Style.opening, Style.closing, Style.stars, Style.plain] using ends
  obtain ⟨later, found, fresh⟩ := labelEnd_enclosed whole nesting fresh unmarked plain place false
  refine ⟨later, ?_, fresh⟩
  have starts : context.source.at? (pos + 1) = some '[' := by rw [whole, opening.at?_eq]; rfl
  have opens : context.source.at? (stop + 1) = some '(' := by rw [whole, behind.at?_eq]; rfl
  have room := bracket.fits
  rw [length_behindLabel] at room
  have before : stop + 1 < limit := by omega
  have size : stop + (behindLabel target).length = stop + 2 + target.length + 1 := by
    rw [length_behindLabel]
    omega
  have label : (context.source.at? (pos + 1) != some '[' || decide (limit ≤ pos + 1)) = false := by
    simp [starts]
    omega
  rw [imageAt, label, size]
  simp only [Bool.false_eq_true, ↓reduceIte, StateT.run_bind, found]
  dsimp only [Bind.bind]
  rw [if_pos (by simp [before, opens]), whole, insideAt_target valid round]
  rfl

/-- An image shows its description as it is written. -/
theorem readAt_image (fresh : memory.Fresh (pos + 2)) (valid : IsTarget target)
    (stands : StandsAt text pos ('!' :: '[' :: (core ++ behindLabel target)) more limit)
    (legible : Legible (behindLabel target ++ more) core shown) :
    ∃ later, (readAt context limit (InlineReader.skip context limit (nesting + 1)) content pos draft).run memory =
      ((draft.push (.image target core), pos + ('!' :: '[' :: (core ++ behindLabel target)).length), later) := by
  obtain ⟨later, found, -⟩ := imageAt_enclosed whole nesting fresh valid stands legible rfl
  have inside : StandsAt text (pos + 2) (core ++ behindLabel target) more limit := stands.behind ['!', '['] rfl
  have label : context.source.slice (pos + 2) (pos + 2 + core.length) = core := by
    rw [whole, Source.slice, inside.after_eq, Nat.add_sub_cancel_left, List.append_assoc, List.take_left]
  have here : context.source.at? pos = some '!' := by
    rw [whole]
    exact stands.at?_eq
  have special : isSpecial '!' = true := by decide
  have size : pos + ('!' :: '[' :: (core ++ behindLabel target)).length =
    pos + 2 + core.length + (behindLabel target).length := by
    simp only [List.length_cons, List.length_append]
    omega
  refine ⟨later, ?_⟩
  simp only [readAt, here, special, Bool.not_true, Bool.false_eq_true, ↓reduceIte, StateT.run_bind, found, size]
  dsimp only [Bind.bind]
  rw [label]
  rfl

end Labels

section Links
variable {context : InlineContext} {text : List Char} (whole : context.source = Source.ofChars text)
  {limit : Nat} (nesting : Nat) {pos stop : Nat} {memory : InlineMemory} {style : Style} {core target more : List Char}
  {shown : List (Char × Bool)} {draft : Draft}
  {links : List String} {chars others : List (Char × Style)}

/-- The items of a link between its ends. -/
private theorem items_link (draft : Draft) (target : List Char) (items : Array Inline) :
    (((draft.push (.openLink target)).append items).push .closeLink) =
      { draft.flush with items := ((draft.flush.items.push (.openLink target)) ++ items).push .closeLink } := by
  have opened : (draft.push (.openLink target)).flush = draft.push (.openLink target) :=
    Draft.flush_of_empty (Draft.pending_flush draft)
  have filled : ((draft.push (.openLink target)).append items).flush = (draft.push (.openLink target)).append items :=
    Draft.flush_of_empty (Draft.pending_flush _)
  rw [Draft.push, filled, Draft.append, opened]
  rfl

/-- A link is written with what its content shows. -/
theorem InlineReader.Draft.Writes.link (writes : draft.Writes links chars) {items : Array Inline}
    (shows : Shows (.ofList target :: links) items.toList others) :
    (((draft.push (.openLink target)).append items).push .closeLink).Writes links (chars ++ others) := by
  obtain ⟨nests, before, holds, flushed⟩ := writes.extended (Draft.extends_flush draft)
  obtain rfl : chars = before := by simpa [Draft.pending_flush] using flushed
  let nest := Nest.bare (.openLink target :: (items.toList ++ [.closeLink]))
  have flanked : nest.Flanked := by
    apply Nest.bare_flanked
    rw [← List.cons_append, List.getLast?_concat]
    simp
  have styled : Shows links nest.styled others := by
    rw [Nest.bare_styled]
    exact shows.link
  rw [items_link]
  refine ⟨_, _, holds.nest flanked styled ?_ ?_ ?_, ?_⟩
  · simp [nest]
  · simp [nest]
  · simp [Draft.pending_flush]
  · simp [Draft.pending_flush]

include whole

/-- The content of a link is read on its own. -/
theorem read_styled (memory : InlineMemory) (links : List String)
    (stands : StandsAt text pos (style.opening ++ core ++ style.closing) more stop)
    (legible : Legible (style.closing ++ more) core shown) (ends : stop = pos + (style.opening ++ core ++ style.closing).length)
    (marked : style.opening ≠ [] → style.Encloses (charBefore text pos) core ' ') :
    ∃ items, (read context (nesting + 1) pos stop).run memory = (items, memory) ∧
      Shows links items.toList (shown.map fun entry => (entry.1, { style with code := entry.2, link := links.head? })) := by
  have apart : charBehind (pos + (style.opening ++ core ++ style.closing).length) stop more = ' ' := by simp [charBehind, ends]
  have bare (none : style.opening = []) : Ends pos core more stop := by
    have noClosing := style.closing_eq_nil none
    intro _ _
    exact .inr (.inl (by simpa [none, noClosing] using ends))
  obtain ⟨next, reads, written⟩ := Reads.styled whole (InlineReader.skip context stop (nesting + 1))
    (read context nesting) memory stands legible
    (fun some => ⟨apart ▸ marked some, .inl ends⟩) bare (Draft.writes_empty links)
  have run := reads.run_eq ends.symm (stop - pos) (Nat.le_refl _)
  refine ⟨next.finish, ?_, written.finish⟩
  rw [InlineReader.read, StateT.run_bind, run]
  rfl

theorem Reads.link (fresh : memory.Fresh pos) (valid : IsTarget target)
    (stands : StandsAt text pos ('[' :: (style.opening ++ core ++ style.closing ++ behindLabel target)) more limit)
    (legible : Legible (style.closing ++ (behindLabel target ++ more)) core shown)
    (marked : style.opening ≠ [] → style.Encloses '[' core ' ') (writes : draft.Writes links chars) :
    ∃ next later, Reads context limit (InlineReader.skip context limit (nesting + 1 + 1))
      (read context (nesting + 1)) pos draft memory
        (pos + ('[' :: (style.opening ++ core ++ style.closing ++ behindLabel target)).length) next later ∧
      next.Writes links (chars ++ shown.map fun entry =>
        (entry.1, { style with code := entry.2, link := some (.ofList target) })) ∧
      later.Fresh (pos + ('[' :: (style.opening ++ core ++ style.closing ++ behindLabel target)).length) := by
  obtain ⟨stop, ends⟩ : ∃ stop, stop = pos + 1 + (style.opening ++ core ++ style.closing).length := ⟨_, rfl⟩
  have label : StandsAt text (pos + 1) (style.opening ++ core ++ style.closing ++ behindLabel target) more limit :=
    stands.behind ['['] rfl
  have inside : StandsAt text (pos + 1) (style.opening ++ core ++ style.closing) (behindLabel target ++ more) stop :=
    ⟨(label.front _ rfl).left, Nat.le_of_eq ends.symm, ends ▸ Nat.le_trans (label.front _ rfl).fits label.inside⟩
  have before : charBefore text (pos + 1) = '[' := (stands.front ['['] rfl).charBefore_behind
  have total : pos + ('[' :: (style.opening ++ core ++ style.closing ++ behindLabel target)).length =
    stop + (behindLabel target).length := by
    simp [ends]
    omega
  obtain ⟨later, found, stillFresh⟩ := linkAt_enclosed whole (nesting + 1)
    (fresh.mono (Nat.le_succ pos)) valid stands legible ends
  obtain ⟨items, content, shows⟩ := read_styled whole nesting later (.ofList target :: links) inside legible ends
    (before ▸ marked)
  rw [total]
  refine ⟨_, later, .one ?_ ?_ ?_, writes.link shows, stillFresh.mono (Nat.le_add_right ..)⟩
  · have := stands.fits
    simp only [List.length_cons] at this
    omega
  · omega
  · have here : context.source.at? pos = some '[' := by rw [whole, stands.at?_eq]; rfl
    have special : isSpecial '[' = true := by decide
    simp only [readAt, here, special, Bool.not_true, Bool.false_eq_true, ↓reduceIte, StateT.run_bind, found]
    change (do
      let items ← read context (nesting + 1) (pos + 1) stop
      return (((draft.push (.openLink target)).append items).push .closeLink, stop + (behindLabel target).length) :
        Scan (Draft × Nat)).run later = _
    rw [StateT.run_bind, content]
    rfl

end Links

end DocScribe.Markdown
