import DocScribe.Proofs.Markdown.NestedMarks

/-! The marks of nests become styles: tildes those of strikethrough, stars those of emphasis. -/

namespace DocScribe.Markdown
open DocScribe Delimiters

namespace Nest
variable (nest : Nest)

def starItems : List Inline := List.replicate nest.stars (.text ['*'])

/-- The items with their marks as text. -/
def items : List Inline :=
  nest.starItems ++ (if nest.tildes then [.text ['~', '~']] else []) ++ nest.inside ++
    (if nest.tildes then [.text ['~', '~']] else []) ++ nest.starItems

/-- What stands inside of the stars when the tildes are a style. -/
def inner : List Inline :=
  (if nest.tildes then [.openMark .strike] else []) ++ nest.inside ++ (if nest.tildes then [.closeMark .strike] else [])

def struck : List Inline := nest.starItems ++ nest.inner ++ nest.starItems

/-- What stars become: of two, one is left without text. -/
def openings : (stars : Nat) → List Inline
  | 0 => []
  | 1 => [.openMark .emphasis]
  | 2 => [.text [], .openMark .strong]
  | _ => [.openMark .emphasis, .text [], .openMark .strong]

def closings : (stars : Nat) → List Inline
  | 0 => []
  | 1 => [.closeMark .emphasis]
  | 2 => [.closeMark .strong, .text []]
  | _ => [.closeMark .strong, .text [], .closeMark .emphasis]

/-- The items with their marks as styles. -/
def styled : List Inline := openings nest.stars ++ nest.inner ++ closings nest.stars

private theorem length_inner : nest.inner.length = nest.inside.length + 2 * nest.tildes.toNat := by
  cases tildes : nest.tildes <;> simp [inner, tildes]

theorem length_items : nest.items.length = 2 * nest.depth + nest.inside.length := by
  cases tildes : nest.tildes <;> simp [items, starItems, depth, tildes] <;> omega

private theorem length_struck : nest.struck.length = 2 * nest.depth + nest.inside.length := by
  simp only [struck, starItems, List.length_append, List.length_replicate, length_inner, depth]
  omega

end Nest

namespace Delimiters
variable {paired : Delimiters} {first item : Nat} {nest : Nest} {content : Array Inline}

private theorem stylePair_around (mark : Mark) (front inside back : List Inline) (opening closing : Inline) :
    stylePair mark front.length (front.length + 1 + inside.length) (front ++ opening :: (inside ++ closing :: back)).toArray =
      (front ++ .openMark mark :: (inside ++ .closeMark mark :: back)).toArray := by
  simp [stylePair, Nat.add_assoc, Nat.add_comm 1]

section Strike

/-- One step over the delimiters. -/
def strikeStep (paired : Delimiters) (state : Array Inline × List Nat) (opener : Delimiter) : Array Inline × List Nat :=
  if opener.mark != '~' then state
  else match opener.closer.bind (paired[·]?) with
    | none => state
    | some closer =>
      let content := stylePair .strike opener.item closer.item state.1
      match closer.item with
      | 0 => (content, state.2)
      | before + 1 => (content, if content[before]? == some (.text ['~']) then before :: state.2 else state.2)

/-- The content when the first delimiters are passed. -/
def struckBefore (paired : Delimiters) (content : Array Inline) (count : Nat) : Array Inline × List Nat :=
  (paired.toList.take count).foldl (strikeStep paired) (content, [])

private theorem strike_eq (paired : Delimiters) (content : Array Inline) :
    strike paired content = struckBefore paired content paired.size := by
  rw [struckBefore, ← Array.length_toList, List.take_length, Array.foldl_toList]
  rfl

private theorem struckBefore_succ {count : Nat} {own : Delimiter} (here : paired[count]? = some own) :
    struckBefore paired content (count + 1) = strikeStep paired (struckBefore paired content count) own := by
  rw [struckBefore, List.take_add_one, Array.getElem?_toList, here]
  simp [struckBefore]

private theorem strikeStep_idle {own : Delimiter} (idle : own.mark ≠ '~' ∨ own.closer = none) (state : Array Inline × List Nat) :
    strikeStep paired state own = state := by
  rcases idle with star | free
  · simp [strikeStep, star]
  · simp [strikeStep, free]

private theorem struckBefore_idle (count more : Nat)
    (idle : ∀ index < more, ∃ own, paired[count + index]? = some own ∧ (own.mark ≠ '~' ∨ own.closer = none)) :
    struckBefore paired content (count + more) = struckBefore paired content count := by
  induction more with
  | zero => rfl
  | succ more ih =>
    obtain ⟨own, here, free⟩ := idle more (Nat.lt_succ_self more)
    rw [← Nat.add_assoc, struckBefore_succ here, strikeStep_idle free]
    exact ih fun index below => idle index (Nat.lt_succ_of_lt below)

private theorem struckBefore_nest (tied : nest.Tied paired first item) (flanked : nest.Flanked) {front back : List Inline}
    (place : front.length = item)
    (before : struckBefore paired content first = ((front ++ nest.items ++ back).toArray, [])) :
    struckBefore paired content (first + 2 * nest.depth) = ((front ++ nest.struck ++ back).toArray, []) := by
  have closed (index : Nat) (below : index < nest.depth) : ∃ own, paired[first + nest.depth + index]? = some own ∧
    (own.mark ≠ '~' ∨ own.closer = none) := by
    obtain ⟨own, here, -, free⟩ := tied.closer index below
    exact ⟨own, here, .inr free⟩
  have stars (index : Nat) (below : index < nest.stars) : ∃ own, paired[first + index]? = some own ∧
    (own.mark ≠ '~' ∨ own.closer = none) := by
    obtain ⟨own, here, mark, -⟩ := tied.opener index (Nat.lt_add_right _ below)
    refine ⟨own, here, .inl ?_⟩
    rw [mark, Nest.markAt, if_pos below]
    decide
  rw [Nat.two_mul, ← Nat.add_assoc, struckBefore_idle _ _ closed]
  cases tildes : nest.tildes with
  | false =>
    have depth : nest.depth = nest.stars := by simp [Nest.depth, tildes]
    rw [depth, struckBefore_idle _ _ stars, before]
    simp [Nest.items, Nest.struck, Nest.inner, tildes]
  | true =>
    have depth : nest.depth = nest.stars + 1 := by simp [Nest.depth, tildes]
    obtain ⟨opener, here, mark, start, closing⟩ := tied.opener nest.stars (by omega)
    obtain ⟨closer, there, stop, -⟩ := tied.closer 0 (by omega)
    have tilde : opener.mark = '~' := by rw [mark, Nest.markAt, if_neg (Nat.lt_irrefl _)]
    have behind : nest.depth - 1 - nest.stars = 0 := by omega
    have start : opener.item = (front ++ nest.starItems).length := by simp [start, Nest.starItems, place]
    have stop : closer.item = (front ++ nest.starItems).length + nest.inside.length + 1 := by
      simp [stop, Nest.starItems, place]
      omega
    have raw : front ++ nest.items ++ back = (front ++ nest.starItems) ++
        .text ['~', '~'] :: (nest.inside ++ .text ['~', '~'] :: (nest.starItems ++ back)) := by simp [Nest.items, tildes]
    have styled : front ++ nest.struck ++ back = (front ++ nest.starItems) ++
        .openMark .strike :: (nest.inside ++ .closeMark .strike :: (nest.starItems ++ back)) := by
          simp [Nest.struck, Nest.inner, tildes]
    have noTilde : (front ++ nest.struck ++ back)[(front ++ nest.starItems).length + nest.inside.length]? ≠
        some (.text ['~']) := by
      obtain ⟨inner, last, split⟩ : ∃ inner last, nest.inside = inner ++ [last] :=
        ⟨_, _, (List.dropLast_concat_getLast (flanked.filled (by omega))).symm⟩
      have other := flanked.noTilde
      rw [split, List.getLast?_concat] at other
      have place : (front ++ nest.starItems).length + (inner ++ [last]).length =
        (front ++ nest.starItems).length + (inner.length + 1) := by
        simp
      rw [styled, split, place, List.getElem?_append_right (Nat.le_add_right ..), Nat.add_sub_cancel_left]
      simpa using other
    have around := stylePair_around .strike (front ++ nest.starItems) nest.inside (nest.starItems ++ back) (.text ['~', '~'])
      (.text ['~', '~'])
    rw [depth, ← Nat.add_assoc, struckBefore_succ here, struckBefore_idle _ _ stars, before]
    rw [← styled, ← raw, Nat.add_right_comm, ← stop, ← start] at around
    simp only [strikeStep, tilde, closing, behind, Option.bind_some, there, around]
    simp only [stop, List.getElem?_toArray, beq_false_of_ne noTilde]
    rfl

end Strike

section Emphasis

private theorem emphasize_idle {count : Nat} (none : emphasisAt? paired count = .none) (content : Array Inline) :
    emphasize paired (count + 1) content = emphasize paired count content := by
  cases count with
  | zero => simp [emphasize, none]
  | succ before => simp [emphasize, none]

private theorem emphasize_single {count stop : Nat} {opener : Delimiter} (own : emphasisAt? paired count = some (opener, stop))
    (single : ∀ before, count = before + 1 → isStrong paired (paired.getD before default) opener stop = false)
    (content : Array Inline) :
    emphasize paired (count + 1) content =
      emphasize paired count (stylePair .emphasis opener.item (paired.getD stop default).item content) := by
  cases count with
  | zero => simp [emphasize, own]
  | succ before =>
    have := single before rfl
    simp only [emphasize, own, this]
    rfl

private theorem emphasize_double {before stop : Nat} {opener : Delimiter}
    (own : emphasisAt? paired (before + 1) = some (opener, stop))
    (double : isStrong paired (paired.getD before default) opener stop = true) (content : Array Inline) :
    emphasize paired (before + 2) content = emphasize paired before
      (((stylePair .strong opener.item (paired.getD stop default).item content).setIfInBounds (paired.getD before default).item
        (.text [])).setIfInBounds ((paired.getD stop default).item + 1) (.text [])) := by
  simp only [emphasize, own, double, ↓reduceIte]

private theorem emphasize_idles (count more : Nat) (idle : ∀ index < more, emphasisAt? paired (count + index) = none)
    (content : Array Inline) :
    emphasize paired (count + more) content = emphasize paired count content := by
  induction more with
  | zero => rfl
  | succ more ih =>
    rw [← Nat.add_assoc, emphasize_idle (idle more (Nat.lt_succ_self more))]
    exact ih fun index below => idle index (Nat.lt_succ_of_lt below)

private theorem emphasisAt?_star {index stop : Nat} {own : Delimiter} (here : paired[index]? = some own) (star : own.mark = '*')
    (closer : own.closer = some stop) : emphasisAt? paired index = some (own, stop) := by
  simp [emphasisAt?, here, closer, star]

private theorem emphasisAt?_none {index : Nat} {own : Delimiter} (here : paired[index]? = some own)
    (idle : own.mark = '~' ∨ own.closer = none) :
    emphasisAt? paired index = none := by
  rcases idle with tilde | free
  · cases closer : own.closer <;> simp [emphasisAt?, here, closer, tilde]
  · simp [emphasisAt?, here, free]

private theorem stylePair_strong (front inside back : List Inline) (star : Inline) :
    ((stylePair .strong (front.length + 1) (front.length + 2 + inside.length)
          (front ++ star :: star :: (inside ++ star :: star :: back)).toArray).setIfInBounds front.length
            (.text [])).setIfInBounds
        (front.length + 2 + inside.length + 1) (.text []) =
      (front ++ .text [] :: .openMark .strong :: (inside ++ .closeMark .strong :: .text [] :: back)).toArray := by
  have second : inside.length + 1 - inside.length = 1 := by omega
  simp [stylePair, Nat.add_assoc, Nat.add_comm 2, second]

/-- An opener with the place of its closer, and the item of that one. -/
structure Opens (paired : Delimiters) (index item stop stopItem : Nat) (own : Delimiter) : Prop where
  here : paired[index]? = some own
  star : own.mark = '*'
  item : own.item = item
  closer : own.closer = some stop
  stopItem : (paired.getD stop default).item = stopItem

private theorem Opens.emphasis {index stop stopItem : Nat} {own : Delimiter}
    (opener : Opens paired index item stop stopItem own) :
    emphasisAt? paired index = some (own, stop) :=
  emphasisAt?_star opener.here opener.star opener.closer

/-- No opener stands right before these delimiters. -/
def Apart (paired : Delimiters) (first : Nat) : Prop :=
  ∀ before own, first = before + 1 → paired[before]? = some own → own.closer = none

/-- The last delimiter of a nest opens nothing. -/
theorem apart_behind (tied : nest.Tied paired first item) (apart : Apart paired first) :
    Apart paired (first + 2 * nest.depth) := by
  intro before own same found
  rcases Nat.eq_zero_or_pos nest.depth with none | some
  · exact apart before own (by omega) found
  · obtain ⟨other, here, -, free⟩ := tied.closer (nest.depth - 1) (by omega)
    have place : first + nest.depth + (nest.depth - 1) = before := by omega
    rw [place, found] at here
    exact Option.some.inj here ▸ free

private theorem emphasize_outer {stop stopItem : Nat} {own : Delimiter} (opener : Opens paired first item stop stopItem own)
    (apart : Apart paired first)
    {front inside : List Inline} (place : front.length = item) (behind : item + 1 + inside.length = stopItem)
    (opening closing : Inline) (back : List Inline) :
    emphasize paired (first + 1) (front ++ opening :: (inside ++ closing :: back)).toArray =
      emphasize paired first (front ++ .openMark .emphasis :: (inside ++ .closeMark .emphasis :: back)).toArray := by
  have single (before : Nat) (same : first = before + 1) : isStrong paired (paired.getD before default) own stop = false := by
    have free : (paired.getD before default).closer = none := by
      rw [Array.getD_eq_getD_getElem?]
      cases found : paired[before]? with
      | none => rfl
      | some outer => exact apart before outer same found
    rw [isStrong, free]
    rfl
  rw [emphasize_single opener.emphasis single, opener.item, opener.stopItem, ← behind, ← place, stylePair_around]

private theorem emphasize_inner {stop stopItem : Nat} {own outer : Delimiter}
    (opener : Opens paired (first + 1) (item + 1) stop stopItem own)
    (before : Opens paired first item (stop + 1) (stopItem + 1) outer) {front inside : List Inline}
    (place : front.length = item)
    (behind : item + 2 + inside.length = stopItem) (star : Inline) (back : List Inline) :
    emphasize paired (first + 2) (front ++ star :: star :: (inside ++ star :: star :: back)).toArray =
      emphasize paired first (front ++ .text [] :: .openMark .strong :: (inside ++
        .closeMark .strong :: .text [] :: back)).toArray := by
  have known : paired.getD first default = outer := by
    rw [Array.getD_eq_getD_getElem?, before.here, Option.getD_some]
  have double : isStrong paired (paired.getD first default) own stop = true := by
    simp only [isStrong, known, before.closer, before.star, opener.star, before.item, opener.item, before.stopItem,
      opener.stopItem]
    simp
  rw [emphasize_double opener.emphasis double, known, opener.item, opener.stopItem, before.item, ← behind, ← place,
    stylePair_strong]

private theorem opens_of_tied (tied : nest.Tied paired first item) {index stop stopItem : Nat} (below : index < nest.stars)
    (closes : stop + (index + 1) = first + 2 * nest.depth)
    (behind : stopItem + (index + 1) = item + 2 * nest.stars + nest.inner.length) :
    ∃ own, Opens paired (first + index) (item + index) stop stopItem own := by
  have width := nest.length_inner
  have depth : nest.depth = nest.stars + nest.tildes.toNat := rfl
  obtain ⟨own, here, mark, place, closer⟩ := tied.opener index (by omega)
  obtain ⟨other, there, item, -⟩ := tied.closer (nest.depth - 1 - index) (by omega)
  obtain rfl : stop = first + nest.depth + (nest.depth - 1 - index) := by omega
  refine ⟨own, here, ?_, place, closer, ?_⟩
  · rw [mark, Nest.markAt, if_pos below]
  · rw [Array.getD_eq_getD_getElem?, there, Option.getD_some, item]
    omega

/-- The stars of a nest become styles. -/
theorem emphasize_nest (tied : nest.Tied paired first item) (flanked : nest.Flanked) (apart : Apart paired first)
    {front : List Inline} (place : front.length = item) (back : List Inline) :
    emphasize paired (first + 2 * nest.depth) (front ++ nest.struck ++ back).toArray =
      emphasize paired first (front ++ nest.styled ++ back).toArray := by
  have closers (index : Nat) (below : index < nest.depth) : emphasisAt? paired (first + nest.depth + index) = none := by
    obtain ⟨own, here, -, free⟩ := tied.closer index below
    exact emphasisAt?_none here (.inr free)
  have tildes (index : Nat) (below : index < nest.tildes.toNat) : emphasisAt? paired (first + nest.stars + index) = none := by
    obtain ⟨own, here, mark, -⟩ := tied.opener (nest.stars + index) (Nat.add_lt_add_left below _)
    rw [Nat.add_assoc]
    refine emphasisAt?_none here (.inl ?_)
    rw [mark, Nest.markAt, if_neg (by omega)]
  rw [Nat.two_mul, ← Nat.add_assoc, emphasize_idles _ _ closers]
  have few := flanked.few
  have depth : nest.depth = nest.stars + nest.tildes.toNat := rfl
  rw [depth, ← Nat.add_assoc, emphasize_idles _ _ tildes]
  simp only [Nest.struck, Nest.styled, Nest.starItems]
  obtain count | count | count | count : nest.stars = 0 ∨ nest.stars = 1 ∨ nest.stars = 2 ∨ nest.stars = 3 := by omega
  · rw [count]
    rfl
  · rw [count]
    obtain ⟨own, opener⟩ := opens_of_tied tied (by omega : 0 < nest.stars) (by omega : first + 2 * nest.depth - 1 + 1 = _)
      (by omega : item + 1 + nest.inner.length + 1 = _)
    have outer := emphasize_outer opener apart place rfl (.text ['*']) (.text ['*']) back
    simpa [Nest.openings, Nest.closings] using outer
  · rw [count]
    obtain ⟨before, outer⟩ := opens_of_tied tied (by omega : 0 < nest.stars) (by omega : first + 2 * nest.depth - 2 + 1 + 1 = _)
      (by omega : item + 2 + nest.inner.length + 1 + 1 = _)
    obtain ⟨own, opener⟩ := opens_of_tied tied (by omega : 1 < nest.stars) (by omega : first + 2 * nest.depth - 2 + 2 = _)
      (by omega : item + 2 + nest.inner.length + 2 = _)
    have inner := emphasize_inner opener outer place rfl (.text ['*']) back
    simpa [Nest.openings, Nest.closings] using inner
  · rw [count]
    obtain ⟨last, lone⟩ := opens_of_tied tied (by omega : 0 < nest.stars) (by omega : first + 2 * nest.depth - 1 + 1 = _)
      (by omega : item + 5 + nest.inner.length + 1 = _)
    obtain ⟨before, outer⟩ := opens_of_tied tied (by omega : 1 < nest.stars) (by omega : first + 2 * nest.depth - 3 + 1 + 2 = _)
      (by omega : item + 3 + nest.inner.length + 1 + 2 = _)
    obtain ⟨own, opener⟩ := opens_of_tied tied (by omega : 2 < nest.stars) (by omega : first + 2 * nest.depth - 3 + 3 = _)
      (by omega : item + 3 + nest.inner.length + 3 = _)
    have here : (front ++ [Inline.text ['*']]).length = item + 1 := by simp [place]
    have inner := emphasize_inner opener outer here (by omega : item + 1 + 2 + nest.inner.length = _) (.text ['*'])
      (.text ['*'] :: back)
    let strong : List Inline := [.text [], .openMark .strong] ++ nest.inner ++ [.closeMark .strong, .text []]
    have width : item + 1 + strong.length = item + 5 + nest.inner.length := by
      simp [strong]
      omega
    have around := emphasize_outer lone apart place width (.text ['*']) (.text ['*']) back
    simp only [strong, List.append_assoc, List.cons_append, List.nil_append] at inner around
    simpa [Nest.openings, Nest.closings] using inner.trans around

private theorem length_front {front : List Inline} (place : front.length = item) (nest : Nest) :
    (front ++ nest.struck).length = item + (2 * nest.depth + nest.inside.length) := by
  simp [Nest.length_struck, place]

theorem struckBefore_nests {nests : List Nest} (tied : AllTied paired first item nests) (flanked : ∀ nest ∈ nests, nest.Flanked)
    {front : List Inline} (place : front.length = item)
    (before : struckBefore paired content first = ((front ++ nests.flatMap Nest.items).toArray, [])) :
    struckBefore paired content (first + depthOf nests) = ((front ++ nests.flatMap Nest.struck).toArray, []) := by
  induction nests generalizing front first item with
  | nil => exact before
  | cons nest nests ih =>
    obtain ⟨own, others⟩ := List.forall_mem_cons.mp flanked
    rw [List.flatMap_cons, ← List.append_assoc] at before
    have here := struckBefore_nest tied.1 own place before
    have later := ih tied.2 others (length_front place nest) here
    rw [depthOf, ← Nat.add_assoc, List.flatMap_cons, ← List.append_assoc]
    exact later

theorem emphasize_nests {nests : List Nest} (tied : AllTied paired first item nests) (flanked : ∀ nest ∈ nests, nest.Flanked)
    (apart : Apart paired first) {front : List Inline} (place : front.length = item) (back : List Inline) :
    emphasize paired (first + depthOf nests) (front ++ nests.flatMap Nest.struck ++ back).toArray =
      emphasize paired first (front ++ nests.flatMap Nest.styled ++ back).toArray := by
  induction nests generalizing front first item with
  | nil => rfl
  | cons nest nests ih =>
    obtain ⟨own, others⟩ := List.forall_mem_cons.mp flanked
    have here := emphasize_nest tied.1 own apart place (nests.flatMap Nest.styled ++ back)
    have later := ih tied.2 others (apart_behind tied.1 apart) (length_front place nest)
    rw [depthOf, ← Nat.add_assoc, List.flatMap_cons, List.flatMap_cons, ← List.append_assoc front]
    rw [later, List.append_assoc _ _ back, here]
    simp only [List.append_assoc]

/-- Marks that are nested become styles. -/
theorem resolve_nests {nests : List Nest} (flanked : ∀ nest ∈ nests, nest.Flanked) :
    resolve (ofNests 0 nests).toArray (nests.flatMap Nest.items).toArray = (nests.flatMap Nest.styled).toArray := by
  obtain ⟨tied, size⟩ := pair_ofNests flanked
  have none : ([] : List Inline).length = 0 := rfl
  have start : struckBefore (pair (ofNests 0 nests).toArray) (nests.flatMap Nest.items).toArray 0 =
      (([] ++ nests.flatMap Nest.items).toArray, []) := by
    simp [struckBefore]
  have apart : Apart (pair (ofNests 0 nests).toArray) 0 := fun before _ same => absurd same (Nat.zero_ne_add_one before)
  have struck := struckBefore_nests tied flanked none start
  have styled := emphasize_nests tied flanked apart none []
  simp only [Nat.zero_add, List.nil_append, List.append_nil] at struck styled
  simp only [resolve, strike_eq, size, struck, List.foldl_nil, styled]
  rfl

end Emphasis

end Delimiters

end DocScribe.Markdown
