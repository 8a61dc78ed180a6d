import DocScribe.Proofs.Markdown.StyledItems

/-! Text between marks, and how a draft holds it: as a nest behind those that were read before. -/

namespace DocScribe.Markdown
open DocScribe Delimiters InlineReader

/-- The style of text between no marks. -/
def linkedStyle (links : List String) (code : Bool) : Style := ({ links } : OpenStyles).style code

namespace Delimiters

private theorem ofNests_append (item : Nat) (nests more : List Nest) :
    ofNests item (nests ++ more) = ofNests item nests ++ ofNests (item + (nests.flatMap Nest.items).length) more := by
  induction nests generalizing item with
  | nil => rfl
  | cons nest nests ih =>
    rw [List.cons_append, ofNests, ofNests, ih, List.append_assoc, List.flatMap_cons, List.length_append, nest.length_items,
      Nat.add_assoc]

end Delimiters

/-- Items without marks. -/
def Nest.bare (items : List Inline) : Nest :=
  ⟨0, false, items, (⟨false, false⟩, ⟨false, false⟩), (⟨false, false⟩, ⟨false, false⟩)⟩

theorem Nest.bare_flanked {items : List Inline} (noTilde : items.getLast? ≠ some (.text ['~'])) : (bare items).Flanked where
  few := Nat.zero_le 3
  filled := fun some => absurd some (Nat.lt_irrefl 0)
  opens := fun index below => absurd below (Nat.not_lt_zero index)
  closes := fun index below => absurd below (Nat.not_lt_zero index)
  noTilde := noTilde

@[simp] theorem Nest.bare_items (items : List Inline) : (bare items).items = items := by simp [bare, Nest.items, starItems]

@[simp] theorem Nest.bare_styled (items : List Inline) :
    (bare items).styled = items := by
  simp [bare, styled, inner, openings, closings]

@[simp] theorem Nest.bare_delimiters (items : List Inline) (item : Nat) : (bare items).delimiters item = [] := rfl

theorem getLast?_plain {items : List Inline} (plain : ∀ item ∈ items, item.IsPlain) : items.getLast? ≠ some (.text ['~']) := by
  intro last
  exact plain _ (List.mem_of_getLast? last) (List.mem_singleton_self '~')

namespace InlineReader.Draft

/-- The items of a draft are those of nests, which show these characters. -/
structure Holds (draft : Draft) (links : List String) (nests : List Nest) (chars : List (Char × Style)) : Prop where
  items : draft.items.toList = nests.flatMap Nest.items
  delimiters : draft.delimiters.toList = ofNests 0 nests
  flanked : ∀ nest ∈ nests, nest.Flanked
  shows : Shows links (nests.flatMap Nest.styled) chars
  noTilde : '~' ∉ draft.pending

/-- The draft shows these characters inside of the links. -/
def Writes (draft : Draft) (links : List String) (chars : List (Char × Style)) : Prop :=
  ∃ nests before, draft.Holds links nests before ∧ chars = before ++ draft.pending.reverse.map (·, linkedStyle links false)

variable {draft next : Draft} {links : List String} {chars : List (Char × Style)} {shown : List (Char × Bool)} {nests : List Nest}

theorem writes_empty (links : List String) : ({} : Draft).Writes links [] :=
  ⟨[], [], ⟨rfl, rfl, by simp, shows_nil, by simp⟩, rfl⟩

theorem Holds.nest (holds : draft.Holds links nests chars) {nest : Nest} (flanked : nest.Flanked) {more : List (Char × Style)}
    (shows : Shows links nest.styled more) (items : next.items.toList = draft.items.toList ++ nest.items)
    (delimiters : next.delimiters.toList = draft.delimiters.toList ++ nest.delimiters draft.items.size)
    (noTilde : '~' ∉ next.pending) :
    next.Holds links (nests ++ [nest]) (chars ++ more) where
  items := by simp [items, holds.items]
  delimiters := by
    rw [delimiters, holds.delimiters, ofNests_append, ← holds.items, Array.length_toList, Nat.zero_add]
    simp [ofNests]
  flanked := by
    intro other among
    rcases List.mem_append.mp among with inside | same
    · exact holds.flanked other inside
    · exact List.mem_singleton.mp same ▸ flanked
  shows := by simpa using holds.shows.append shows
  noTilde := noTilde

/-- Items that open no style are added as they are. -/
theorem Writes.extended (writes : draft.Writes links chars) (grown : draft.Extends shown next) :
    next.Writes links (chars ++ shown.map fun entry => (entry.1, linkedStyle links entry.2)) := by
  obtain ⟨nests, before, holds, rfl⟩ := writes
  obtain ⟨items, split, plain, shows⟩ := grown.items
  have plain := plain holds.noTilde
  refine ⟨_, _, holds.nest (Nest.bare_flanked (getLast?_plain plain)) ((Nest.bare items).shows (Nat.zero_le 3) plain links)
    (by simp [split])
    (by simp [grown.delimiters]) (grown.noTilde holds.noTilde), ?_⟩
  have styled := congrArg (List.map fun entry : Char × Bool => (entry.1, linkedStyle links entry.2)) shows
  simp only [List.map_append, List.map_map, Function.comp_def] at styled
  rw [List.append_assoc, List.append_assoc, ← styled]
  rfl

/-- When nothing more comes, the items show what was written. -/
theorem Writes.finish (writes : draft.Writes links chars) : Shows links draft.finish.toList chars := by
  obtain ⟨nests, before, holds, same⟩ := writes.extended (extends_flush draft)
  rw [pending_flush] at same
  have resolved := resolve_nests holds.flanked
  rw [← holds.items, ← holds.delimiters] at resolved
  simp only [Array.toArray_toList] at resolved
  rw [Draft.finish, resolved]
  obtain rfl : chars = before := by simpa using same
  exact holds.shows

/-- The next draft, when its pending text is an item, has these items and delimiters more. -/
structure Adds (draft next : Draft) (items : List Inline) (marks : (item : Nat) → List Delimiter) : Prop where
  items : next.flush.items.toList = draft.flush.items.toList ++ items
  delimiters : next.delimiters.toList = draft.delimiters.toList ++ marks draft.flush.items.size

private theorem flush_delimiters (draft : Draft) : draft.flush.delimiters = draft.delimiters := (extends_flush draft).delimiters

theorem flush_of_empty (none : draft.pending = []) : draft.flush = draft := by
  simp [flush, none]

theorem Adds.refl (draft : Draft) : draft.Adds draft [] fun _ => [] := ⟨by simp, by simp⟩

theorem Adds.trans {last : Draft} {items others : List Inline} {marks more : (item : Nat) → List Delimiter}
    (first : draft.Adds next items marks)
    (second : next.Adds last others more) :
      draft.Adds last (items ++ others) fun item => marks item ++ more (item + items.length) where
  items := by rw [second.items, first.items, List.append_assoc]
  delimiters := by
    have size : next.flush.items.size = draft.flush.items.size + items.length := by
      rw [← Array.length_toList, first.items, List.length_append, Array.length_toList]
    rw [second.delimiters, first.delimiters, List.append_assoc, size]

private theorem adds_pushMark (draft : Draft) (text : List Char) (mark : Char) (size : Nat) (flanks : Flanks) :
    draft.Adds (draft.pushMark text mark size flanks) [.text text] fun item =>
      [{ mark, runLength := size, item, canOpen := flanks.canOpen, canClose := flanks.canClose }] := by
  have pushed : (draft.pushMark text mark size flanks).pending = [] := pending_flush draft
  constructor
  · rw [flush_of_empty pushed]
    simp [pushMark, push]
  · simp [pushMark, push, flush_delimiters]

/-- Marks of one run, each on its own. -/
theorem adds_marks (draft : Draft) (text : List Char) (mark : Char) (size : Nat) (flanks : Flanks) (count : Nat) :
    draft.Adds ((List.range count).foldl (fun draft _ => draft.pushMark text mark size flanks) draft)
      (List.replicate count (.text text))
      fun item => (List.range count).map fun index =>
        { mark, runLength := size, item := item + index, canOpen := flanks.canOpen, canClose := flanks.canClose } := by
  induction count with
  | zero => exact .refl draft
  | succ count ih =>
    rw [List.range_succ, List.foldl_append, List.replicate_succ']
    have both := ih.trans (adds_pushMark _ text mark size flanks)
    simpa using both

private theorem pending_marks (draft : Draft) (text : List Char) (mark : Char) (size : Nat) (flanks : Flanks) {count : Nat}
    (some : 0 < count) :
    ((List.range count).foldl (fun draft _ => draft.pushMark text mark size flanks) draft).pending = [] := by
  obtain ⟨less, rfl⟩ : ∃ less, count = less + 1 := ⟨count - 1, by omega⟩
  rw [List.range_succ, List.foldl_append]
  exact pending_flush _

private theorem pushTildes_eq (draft : Draft) (count : Nat) (flanks : Flanks) : draft.pushTildes (2 * count) flanks =
    (List.range count).foldl (fun draft _ => draft.pushMark ['~', '~'] '~' 0 flanks) draft := by
  have even : 2 * count % 2 = 0 := by omega
  have half : 2 * count / 2 = count := by omega
  simp [pushTildes, even, half]

private theorem adds_stars (draft : Draft) (count : Nat) (flanks : Flanks) :
    draft.Adds (draft.pushStars '*' count flanks) (List.replicate count (.text ['*'])) fun item =>
      (List.range count).map fun index =>
      { mark := '*', runLength := count, item := item + index, canOpen := flanks.canOpen, canClose := flanks.canClose } :=
  adds_marks draft ['*'] '*' count flanks count

private theorem adds_tildes (draft : Draft) (count : Nat) (flanks : Flanks) :
    draft.Adds (draft.pushTildes (2 * count) flanks) (List.replicate count (.text ['~', '~'])) fun item =>
      (List.range count).map fun index =>
      { mark := '~', runLength := 0, item := item + index, canOpen := flanks.canOpen, canClose := flanks.canClose } := by
  rw [pushTildes_eq]
  exact adds_marks draft ['~', '~'] '~' 0 flanks count

/-- The marks before the items of a nest. -/
theorem adds_openers (draft : Draft) (nest : Nest) :
    draft.Adds ((draft.pushStars '*' nest.stars nest.starFlanks.1).pushTildes (2 * nest.tildes.toNat) nest.tildeFlanks.1)
      (nest.starItems ++ List.replicate nest.tildes.toNat (.text ['~', '~'])) fun item =>
        (List.range nest.depth).map (nest.opener item) := by
  have both := (adds_stars draft nest.stars nest.starFlanks.1).trans (adds_tildes _ nest.tildes.toNat nest.tildeFlanks.1)
  refine ⟨both.items, ?_⟩
  rw [both.delimiters, Nest.depth, List.range_add, List.map_append, List.map_map]
  refine congrArg (draft.delimiters.toList ++ ·) (congrArg₂ (· ++ ·) (List.map_congr_left fun index among => ?_)
    (List.map_congr_left fun index _ => ?_))
  · have star : index < nest.stars := List.mem_range.mp among
    simp [Nest.opener, Nest.markAt, Nest.runAt, Nest.flanksAt, star]
  · have tilde : ¬ nest.stars + index < nest.stars := Nat.not_lt.mpr (Nat.le_add_right ..)
    simp [Nest.opener, Nest.markAt, Nest.runAt, Nest.flanksAt, Nat.add_assoc, tilde]

/-- The marks behind the items of a nest. -/
theorem adds_closers (draft : Draft) (nest : Nest) {item : Nat}
    (place : draft.flush.items.size = item + nest.depth + nest.inside.length) :
    draft.Adds ((draft.pushTildes (2 * nest.tildes.toNat) nest.tildeFlanks.2).pushStars '*' nest.stars nest.starFlanks.2)
      (List.replicate nest.tildes.toNat (.text ['~', '~']) ++ nest.starItems) fun _ =>
        (List.range nest.depth).map (nest.closer item) := by
  have both := (adds_tildes draft nest.tildes.toNat nest.tildeFlanks.2).trans (adds_stars _ nest.stars nest.starFlanks.2)
  refine ⟨both.items, ?_⟩
  have depth : nest.depth = nest.tildes.toNat + nest.stars := Nat.add_comm ..
  have few := Bool.toNat_le nest.tildes
  rw [both.delimiters, depth, List.range_add, List.map_append, List.map_map, place]
  refine congrArg (draft.delimiters.toList ++ ·) (congrArg₂ (· ++ ·) (List.map_congr_left fun index among => ?_)
    (List.map_congr_left fun index among => ?_))
  · have tilde : ¬ nest.depth - 1 - index < nest.stars := by
      have := List.mem_range.mp among
      omega
    simp [Nest.closer, Nest.markAt, Nest.runAt, Nest.flanksAt, tilde]
  · have star : nest.depth - 1 - (nest.tildes.toNat + index) < nest.stars := by
      have := List.mem_range.mp among
      omega
    simp [Nest.closer, Nest.markAt, Nest.runAt, Nest.flanksAt, star, Nat.add_assoc]

theorem pending_openers (draft : Draft) (nest : Nest) (some : 0 < nest.depth) :
    ((draft.pushStars '*' nest.stars nest.starFlanks.1).pushTildes (2 * nest.tildes.toNat) nest.tildeFlanks.1).pending = [] := by
  rw [pushTildes_eq]
  cases tildes : nest.tildes with
  | true => exact pending_marks _ ['~', '~'] '~' 0 nest.tildeFlanks.1 Nat.zero_lt_one
  | false => exact pending_marks draft ['*'] '*' nest.stars nest.starFlanks.1 (by simpa [Nest.depth, tildes] using some)

private theorem pending_closers (draft : Draft) {nest : Nest} (some : 0 < nest.depth) :
    ((draft.pushTildes (2 * nest.tildes.toNat) nest.tildeFlanks.2).pushStars '*' nest.stars nest.starFlanks.2).pending = [] := by
  rcases Nat.eq_zero_or_pos nest.stars with none | stars
  · rw [none, pushTildes_eq]
    exact pending_marks draft ['~', '~'] '~' 0 nest.tildeFlanks.2 (by simpa [Nest.depth, none] using some)
  · exact pending_marks _ ['*'] '*' nest.stars nest.starFlanks.2 stars

/-- Text between marks is written with their styles. -/
theorem Writes.marked (writes : draft.Writes links chars) {nest : Nest} (flanked : nest.Flanked) (some : 0 < nest.depth)
    (plain : ∀ item ∈ nest.inside, item.IsPlain) {inner : Draft}
    (inside : inner.flush.items.toList =
      ((draft.pushStars '*' nest.stars nest.starFlanks.1).pushTildes (2 * nest.tildes.toNat) nest.tildeFlanks.1).items.toList ++
        nest.inside)
    (same : inner.delimiters = ((draft.pushStars '*' nest.stars nest.starFlanks.1).pushTildes
      (2 * nest.tildes.toNat) nest.tildeFlanks.1).delimiters) :
    ((inner.pushTildes (2 * nest.tildes.toNat) nest.tildeFlanks.2).pushStars '*' nest.stars nest.starFlanks.2).Writes links
      (chars ++ (shownItems nest.inside).map fun entry => (entry.1, nest.style links entry.2)) := by
  obtain ⟨nests, before, holds, flushed⟩ := writes.extended (extends_flush draft)
  obtain rfl : chars = before := by simpa [pending_flush] using flushed
  have opening := adds_openers draft nest
  have openEnd := pending_openers draft nest some
  have openItems := opening.items
  rw [flush_of_empty openEnd] at openItems
  have size : inner.flush.items.size = draft.flush.items.size + nest.depth + nest.inside.length := by
    rw [← Array.length_toList, inside, openItems]
    simp [Nest.starItems, Nest.depth]
    omega
  have closing := adds_closers inner nest size
  have closeEnd := pending_closers inner some
  have closeItems := closing.items
  rw [flush_of_empty closeEnd, inside, openItems] at closeItems
  have tildes : List.replicate nest.tildes.toNat (Inline.text ['~', '~']) = if nest.tildes then [.text ['~', '~']] else [] := by
    cases nest.tildes <;> rfl
  refine ⟨_, _, holds.nest flanked (nest.shows flanked.few plain links) ?_ ?_ ?_, ?_⟩
  · rw [closeItems, tildes]
    simp [Nest.items]
  · rw [closing.delimiters, same, opening.delimiters, flush_delimiters, List.append_assoc, Nest.delimiters]
  · simp [closeEnd]
  · simp [closeEnd]

end InlineReader.Draft

/-- A mark between a character outside and one inside opens, or closes when it stands on the other side: the one inside
is no blank, and if it is punctuation, then the one outside is a blank or punctuation. -/
def Flanked (outside inside : Char) : Prop :=
  Text.isSpacing inside = false ∧
    (Text.isPunctuation inside = true → Text.isSpacing outside = true ∨ Text.isPunctuation outside = true)

instance (outside inside : Char) : Decidable (Flanked outside inside) := inferInstanceAs (Decidable (_ ∧ _))

theorem ofNeighbours_canOpen {before after : Char} (flanked : Flanked before after) :
    (Flanks.ofNeighbours before after true).canOpen = true := by
  obtain ⟨shown, apart⟩ := flanked
  simp only [Flanks.ofNeighbours, Bool.true_or, Bool.and_true, Bool.not_eq_true', Bool.or_eq_false_iff, Bool.and_eq_false_iff]
  refine ⟨shown, ?_⟩
  cases punctuation : Text.isPunctuation after with
  | false => exact .inl rfl
  | true => exact .inr (by rcases apart punctuation with blank | mark <;> simp [*])

theorem ofNeighbours_canClose {before after : Char} (flanked : Flanked after before) :
    (Flanks.ofNeighbours before after true).canClose = true := by
  obtain ⟨shown, apart⟩ := flanked
  simp only [Flanks.ofNeighbours, Bool.true_or, Bool.and_true, Bool.not_eq_true', Bool.or_eq_false_iff, Bool.and_eq_false_iff]
  refine ⟨shown, ?_⟩
  cases punctuation : Text.isPunctuation before with
  | false => exact .inl rfl
  | true => exact .inr (by rcases apart punctuation with blank | mark <;> simp [*])

/-- The character before a position; the start of the text counts as a blank. -/
def charBefore (text : List Char) (pos : Nat) : Char := (text.take pos).getLast?.getD ' '

/-- The character behind a position; the limit counts as a blank. -/
def charBehind (pos limit : Nat) (more : List Char) : Char := if pos < limit then more.head?.getD ' ' else ' '

namespace StandsAt
variable {text part tail : List Char} {pos limit : Nat} (stands : StandsAt text pos part tail limit)
include stands

theorem charBefore_behind : charBefore text (pos + part.length) = part.getLast?.getD (charBefore text pos) := by
  have front : text.take (pos + part.length) = text.take pos ++ part := by
    rw [List.take_add, stands.left, List.take_left]
  rw [charBefore, front, List.getLast?_append, charBefore]
  cases part.getLast? <;> simp

theorem flanksAt_eq : flanksAt (Source.ofChars text) limit pos (pos + part.length) true =
    .ofNeighbours (charBefore text pos) (charBehind (pos + part.length) limit tail) true := by
  have after : (Source.ofChars text).at? (pos + part.length) = tail.head? := by
    rw [(stands.behind part (List.append_nil part).symm).at?_eq]
    rfl
  unfold InlineReader.flanksAt
  rw [after, charBehind]
  cases pos with
  | zero => rfl
  | succ previous =>
    have inside : previous < text.length := stands.pos_le
    have last : charBefore text (previous + 1) = text[previous] := by
      rw [charBefore, List.take_add_one, List.getElem?_eq_getElem inside, Option.toList_some, List.getLast?_concat,
        Option.getD_some]
    have here : (Source.ofChars text).at? previous = some text[previous] := by
      rw [Source.at?, Source.after_ofChars (Nat.le_of_lt inside), List.head?_drop, List.getElem?_eq_getElem inside]
    simp only [here, Option.getD_some, last]

end StandsAt

section Runs
variable {context : InlineContext} {text : List Char} (whole : context.source = Source.ofChars text) {limit pos count : Nat}
  {more : List Char}
  (skip : Nat → Scan Nat) (content : (start stop : Nat) → Scan (Array Inline)) (draft : Draft) (memory : InlineMemory)
include whole

theorem Reads.stars (stands : StandsAt text pos (List.replicate count '*') more limit)
    (ends : 0 < count → limit = pos + count ∨ more.head? ≠ some '*') :
    Reads context limit skip content pos draft memory (pos + count)
      (draft.pushStars '*' count (flanksAt (Source.ofChars text) limit pos (pos + count) true)) memory := by
  rcases Nat.eq_zero_or_pos count with rfl | positive
  · exact .here
  · have inside := stands.fits
    rw [List.length_replicate] at inside
    have here : (Source.ofChars text).at? pos = some '*' := by
      rw [stands.at?_eq]
      simp [List.head?_append, List.head?_replicate, Nat.ne_of_gt positive]
    have special : isSpecial '*' = true := by decide
    refine .one (by omega) (by omega) ?_
    simp only [readAt, whole, here, special, runEnd_eq stands (ends positive), Nat.add_sub_cancel_left, Bool.not_true,
      Bool.false_eq_true, ↓reduceIte]
    rfl

theorem Reads.tildes (stands : StandsAt text pos (List.replicate (2 * count) '~') more limit) (few : count ≤ 1)
    (ends : 0 < count → limit = pos + 2 * count ∨ more.head? ≠ some '~') :
    Reads context limit skip content pos draft memory (pos + 2 * count)
      (draft.pushTildes (2 * count) (flanksAt (Source.ofChars text) limit pos (pos + 2 * count) true)) memory := by
  rcases Nat.eq_zero_or_pos count with rfl | positive
  · exact .here
  · obtain rfl : count = 1 := by omega
    have inside := stands.fits
    have here : (Source.ofChars text).at? pos = some '~' := stands.at?_eq
    have special : isSpecial '~' = true := by decide
    refine .one (by simp at inside; omega) (by omega) ?_
    simp only [readAt, whole, here, special, runEnd_eq stands (ends positive), Nat.add_sub_cancel_left, Bool.not_true,
      Bool.false_eq_true, ↓reduceIte]
    rfl

end Runs

end DocScribe.Markdown
