import DocScribe.Markdown.Delimiter

/-! Runs of marks that are nested: each closer takes the opener that was pushed last. -/

namespace DocScribe.Markdown.Delimiters
open DocScribe

/-- What a delimiter keeps when it is paired. -/
def core (delimiter : Delimiter) : Char × Nat × Nat := (delimiter.mark, delimiter.runLength, delimiter.item)

/-- The opener that is looked for. -/
def opens (closer opener : Delimiter) : Bool :=
  opener.mark == closer.mark && opener.canOpen && opener.closer.isNone && !oddPair opener closer

section Openers
variable {search : Search} {closer : Delimiter} {floor : Int}

private theorem findOpener_none (fuel : Nat) {candidate : Int}
    (none : ∀ index : Nat, index ≤ candidate → ∀ other ∈ search.delimiters[index]?, opens closer other = false) :
    findOpener search closer floor fuel candidate = .none := by
  induction fuel generalizing candidate with
  | zero => rfl
  | succ fuel ih =>
    rw [findOpener]
    split
    · rfl
    next inside =>
      simp only [Bool.or_eq_true, decide_eq_true_eq, not_or, Int.not_le, Int.not_lt] at inside
      have here : (candidate.toNat : Int) = candidate := Int.toNat_of_nonneg inside.2
      dsimp only
      split
      · rfl
      next other found =>
        have own := none candidate.toNat (by omega) other found
        rw [opens] at own
        rw [own]
        exact ih fun index below => none index (by omega)

private theorem findOpener_some (fuel : Nat) {candidate : Int} {place : Nat} {opener : Delimiter} (above : floor < place)
    (found : search.delimiters[place]? = some opener) (own : opens closer opener = true) (below : place ≤ candidate)
    (between : ∀ index : Nat, place < index → index ≤ candidate →
      place + search.jumps.getD index 0 < index ∧ ∃ other, search.delimiters[index]? = some other ∧ opens closer other = false)
    (enough : candidate < place + fuel) : findOpener search closer floor fuel candidate = some place := by
  induction fuel generalizing candidate with
  | zero => omega
  | succ fuel ih =>
    rw [findOpener]
    have inside : (decide (candidate ≤ floor) || decide (candidate < 0)) = false := by
      simp only [Bool.or_eq_false_iff, decide_eq_false_iff_not]
      omega
    have here : (candidate.toNat : Int) = candidate := Int.toNat_of_nonneg (by omega)
    rw [inside]
    dsimp only
    by_cases reached : candidate.toNat = place
    · rw [reached, found]
      rw [opens] at own
      simp [own]
    · obtain ⟨jump, other, isOther, noMatch⟩ := between candidate.toNat (by omega) (by omega)
      rw [isOther]
      rw [opens] at noMatch
      simp only [noMatch, Bool.false_eq_true, ↓reduceIte]
      exact ih (by omega) (fun index above under => between index above (by omega)) (by omega)

end Openers

section Steps

/-- The first delimiter of the run that a delimiter belongs to. -/
def Search.headOf (search : Search) (own : Delimiter) (index : Nat) : Nat :=
  if (search.delimiters[search.head]?).any (·.mark == own.mark) && search.lastItem.any (· + 1 == own.item) then search.head
  else index

/-- The search when a delimiter has come up. -/
def Search.entered (search : Search) (own : Delimiter) (index : Nat) : Search :=
  { search with jumps := search.jumps.push 0, head := search.headOf own index, lastItem := some own.item }

def Search.floor (search : Search) (own : Delimiter) : Int :=
  (search.floors.lookup (own.mark, own.canOpen, own.runLength % 3)).getD (-1)

/-- Where the search for an opener starts: below the run. -/
def Search.start (search : Search) : Int := search.head - (search.jumps.getD search.head 0 : Nat) - 1

/-- How many delimiters are skipped beyond an opener that is taken. -/
def Search.beyond (search : Search) : (found : Nat) → Nat
  | 0 => 0
  | before + 1 => if (search.delimiters.getD before default).canOpen then 0 else search.jumps.getD before 0 + 1

/-- The search when a delimiter has been paired. -/
def Search.paired (search : Search) (index found : Nat) : Search :=
  { search with
    jumps := (search.jumps.setIfInBounds index (index - found + search.beyond found)).setIfInBounds found (search.beyond found)
    delimiters := (search.delimiters.modify index fun closer => { closer with canOpen := false }).modify found
      fun opener => { opener with closer := some index, canClose := false }
    lastItem := none }

variable {search : Search} {index : Nat} {own : Delimiter} (here : search.delimiters[index]? = some own)
include here

private theorem getD_eq : search.delimiters.getD index default = own := by
  rw [Array.getD_eq_getD_getElem?, here, Option.getD_some]

private theorem step_idle (noCloser : own.canClose = false) : step search index = search.entered own index := by
  simp only [step, getD_eq here, noCloser]
  rfl

private theorem step_closing (closes : own.canClose = true) : step search index =
    match findOpener (search.entered own index) own (search.floor own) search.delimiters.size
      (search.entered own index).start with
    | some found => (search.entered own index).paired index found
    | none =>
      if (search.entered own index).start == -1 then search.entered own index
      else { search.entered own index with
        floors := ((own.mark, own.canOpen, own.runLength % 3), (search.entered own index).start) ::
          search.floors.filter (·.1 != (own.mark, own.canOpen, own.runLength % 3)) } := by
  simp only [step, getD_eq here, closes]
  change (match findOpener (search.entered own index) own (search.floor own) search.delimiters.size
    (search.entered own index).start with
    | some found => _
    | none => _) = _
  split
  next found _ => cases found <;> rfl
  next => rfl

end Steps

/-- A search that has passed the first delimiters. Those that are `live` may still be closed, the last one first;
`pairs` tells what closes each of the others. -/
structure Search.Stands (all : Delimiters) (count : Nat) (live : List Nat) (pairs : List (Nat × Nat)) (search : Search) :
    Prop where
  size : search.delimiters.size = all.size
  kept : ∀ index : Nat, (search.delimiters[index]?).map core = (all[index]?).map core
  closers : ∀ index : Nat, (search.delimiters[index]?).bind Delimiter.closer = pairs.lookup index
  ahead : ∀ index : Nat, count ≤ index ∨ index ∈ live → search.delimiters[index]? = all[index]?
  behind : ∀ index : Nat, index < count → index ∉ live → ∀ other ∈ search.delimiters[index]?, other.canOpen = false ∨
    other.closer.isSome
  order : (count :: live).Pairwise (· > ·)
  ready : ∀ place : Nat, place ∈ live → ∀ opener ∈ all[place]?, opener.canOpen = true
  known : search.jumps.size = count
  passes : ∀ index place : Nat, index < count → place ∈ live → place < index → place + search.jumps.getD index 0 < index
  floors : ∀ key (floor : Int), (key, floor) ∈ search.floors → floor < count ∧
    ∀ place : Nat, place ∈ live → ∀ opener ∈ all[place]?, opener.mark = key.1 → floor < place
  head : search.head ≤ count

namespace Search.Stands
variable {all : Delimiters} {count : Nat} {live : List Nat} {pairs : List (Nat × Nat)} {search : Search}
  (stands : search.Stands all count live pairs) {own : Delimiter} (here : all[count]? = some own)
include stands

private theorem headOf_le (own : Delimiter) : search.headOf own count ≤ count := by
  unfold Search.headOf
  split
  · exact stands.head
  · exact Nat.le_refl count

private theorem getD_push {index : Nat} (below : index < count) :
    (search.jumps.push 0).getD index 0 = search.jumps.getD index 0 := by
  rw [← stands.known] at below
  simp [Array.getElem?_push, Nat.ne_of_lt below]

private theorem getD_push_self : (search.jumps.push 0).getD count 0 = 0 := by
  rw [Array.getD_eq_getD_getElem?, ← stands.known, Array.getElem?_push_size, Option.getD_some]

omit stands in
private theorem start_lt (search : Search) (own : Delimiter) (count : Nat) :
    (search.entered own count).start < search.headOf own count := by
  simp only [Search.start, Search.entered]
  omega

/-- A delimiter that can open joins those that may be closed. -/
private theorem entered (here : all[count]? = some own) (canOpen : own.canOpen = true) (floors : List ((Char × Bool × Nat) × Int))
    (above : ∀ key (floor : Int), (key, floor) ∈ floors → floor < (count + 1 : Nat) ∧
      ∀ place : Nat, place ∈ count :: live → ∀ opener ∈ all[place]?, opener.mark = key.1 → floor < place) :
    Stands all (count + 1) (count :: live) pairs { search.entered own count with floors } where
  size := stands.size
  kept := stands.kept
  closers := stands.closers
  ahead := by
    rintro index (later | among)
    · exact stands.ahead index (.inl (by omega))
    · rcases List.mem_cons.mp among with rfl | among
      · exact stands.ahead index (.inl (Nat.le_refl index))
      · exact stands.ahead index (.inr among)
  behind := by
    intro index below other
    simp only [List.mem_cons, not_or] at other
    exact stands.behind index (by omega) other.2
  order := by
    refine List.pairwise_cons.mpr ⟨fun place among => ?_, stands.order⟩
    rcases List.mem_cons.mp among with rfl | among
    · exact Nat.lt_succ_self place
    · have := List.rel_of_pairwise_cons stands.order among
      omega
  ready := by
    intro place among opener found
    rcases List.mem_cons.mp among with rfl | among
    · obtain rfl := Option.some.inj (here.symm.trans found)
      exact canOpen
    · exact stands.ready place among opener found
  known := by simp [Search.entered, stands.known]
  passes := by
    intro index place below among before
    simp only [Search.entered]
    rcases Nat.lt_succ_iff_lt_or_eq.mp below with below | rfl
    · have inside : place ∈ live := by
        rcases List.mem_cons.mp among with rfl | among
        · omega
        · exact among
      rw [stands.getD_push below]
      exact stands.passes index place below inside before
    · rw [stands.getD_push_self]
      exact before
  floors := above
  head := Nat.le_succ_of_le (stands.headOf_le _)

include here

private theorem current : search.delimiters[count]? = some own := (stands.ahead count (.inl (Nat.le_refl count))).trans here

omit here in
/-- No delimiter below the run opens what `own` closes. -/
private theorem findOpener_entered (free : ∀ place : Nat, place ∈ live → ∀ opener ∈ all[place]?, opener.mark = own.mark →
    search.headOf own count ≤ place) :
    findOpener (search.entered own count) own (search.floor own) search.delimiters.size (search.entered own count).start =
      none := by
  refine findOpener_none _ fun index below other found => ?_
  have := start_lt search own count
  have headLe := stands.headOf_le own
  change search.delimiters[index]? = some other at found
  by_cases among : index ∈ live
  · by_cases same : other.mark = own.mark
    · have := free index among other (stands.ahead index (.inr among) ▸ found) same
      omega
    · simp [opens, same]
  · rcases stands.behind index (by omega) among other found with noOpener | closed
    · simp [opens, noOpener]
    · have : other.closer.isNone = false := by simpa using closed
      simp [opens, this]

theorem opened (canOpen : own.canOpen = true)
    (free : ∀ place : Nat, place ∈ live → ∀ opener ∈ all[place]?, opener.mark = own.mark → search.headOf own count ≤ place) :
    (step search count).Stands all (count + 1) (count :: live) pairs ∧ (step search count).head = search.headOf own count ∧
      (step search count).lastItem = some own.item := by
  have older (key : Char × Bool × Nat) (floor : Int) (among : (key, floor) ∈ search.floors) : floor < (count + 1 : Nat) ∧
        ∀ place : Nat, place ∈ count :: live → ∀ opener ∈ all[place]?, opener.mark = key.1 → floor < place := by
    obtain ⟨below, above⟩ := stands.floors key floor among
    refine ⟨by omega, fun place inside opener known same => ?_⟩
    rcases List.mem_cons.mp inside with rfl | inside
    · exact below
    · exact above place inside opener known same
  cases closes : own.canClose with
  | false =>
    rw [step_idle (stands.current here) closes]
    exact ⟨stands.entered here canOpen search.floors older, rfl, rfl⟩
  | true =>
    rw [step_closing (stands.current here) closes, stands.findOpener_entered free]
    dsimp only
    split
    · exact ⟨stands.entered here canOpen search.floors older, rfl, rfl⟩
    · refine ⟨stands.entered here canOpen _ fun key floor among => ?_, rfl, rfl⟩
      rcases List.mem_cons.mp among with same | among
      · obtain ⟨rfl, rfl⟩ := Prod.mk.inj same
        have := start_lt search own count
        have headLe := stands.headOf_le own
        refine ⟨by omega, fun place inside opener known same => ?_⟩
        rcases List.mem_cons.mp inside with rfl | inside
        · omega
        · have := free place inside opener known same
          omega
      · exact older key floor ((List.mem_filter.mp among).1)

end Search.Stands

namespace Search.Stands
variable {all : Delimiters} {count place : Nat} {live : List Nat} {pairs : List (Nat × Nat)} {search : Search}
  (stands : search.Stands all count (place :: live) pairs) {own opener : Delimiter} (here : all[count]? = some own)
  (there : all[place]? = some opener) (fits : opens own opener = true)
include stands

private theorem place_lt : place < count := List.rel_of_pairwise_cons stands.order List.mem_cons_self

private theorem live_lt {other : Nat} (among : other ∈ live) : other < place :=
  List.rel_of_pairwise_cons (List.pairwise_cons.mp stands.order).2 among

private theorem getD_jumps {jump back index : Nat} :
    (((search.jumps.push 0).setIfInBounds count jump).setIfInBounds place back).getD index 0 =
    if index = place then back else if index = count then jump else search.jumps.getD index 0 := by
  have := stands.place_lt
  have := stands.known
  simp only [Array.getD_eq_getD_getElem?]
  grind

include there in
/-- What is skipped beyond an opener cannot open. -/
private theorem beyond_lt (own : Delimiter) {earlier : Nat} (among : earlier ∈ live) :
    earlier + (search.entered own count).beyond place < place := by
  have low := stands.live_lt among
  have below := stands.place_lt
  cases place with
  | zero => omega
  | succ before =>
    simp only [Search.beyond]
    split
    · exact low
    next noOpener =>
      have other : earlier ≠ before := by
        rintro rfl
        have inside : earlier < all.size := Nat.lt_of_succ_lt (Array.getElem?_eq_some_iff.mp there).1
        have known : search.delimiters[earlier]? = all[earlier]? := stands.ahead earlier (.inr (List.mem_cons_of_mem _ among))
        have canOpen := stands.ready earlier (List.mem_cons_of_mem _ among) all[earlier] (Array.getElem?_eq_getElem inside)
        apply noOpener
        rw [Search.entered, Array.getD_eq_getD_getElem?, known, Array.getElem?_eq_getElem inside]
        exact canOpen
      have jump : (search.entered own count).jumps.getD before 0 = search.jumps.getD before 0 := stands.getD_push (by omega)
      have := stands.passes before earlier (by omega) (List.mem_cons_of_mem _ among) (by omega)
      omega

include here there fits

omit here in
private theorem floor_lt : search.floor own < place := by
  have same : opener.mark = own.mark := by
    simp only [opens, Bool.and_eq_true, beq_iff_eq] at fits
    exact fits.1.1.1
  rw [Search.floor]
  cases found : search.floors.lookup (own.mark, own.canOpen, own.runLength % 3) with
  | none => exact Int.lt_of_lt_of_le (by decide : (-1 : Int) < 0) (Int.natCast_nonneg place)
  | some floor =>
    obtain ⟨front, back, split, -⟩ := List.lookup_eq_some_iff.mp found
    have among : ((own.mark, own.canOpen, own.runLength % 3), floor) ∈ search.floors := by simp [split]
    exact (stands.floors _ floor among).2 place List.mem_cons_self opener there same

private theorem findOpener_place (fresh : search.headOf own count = count) :
    findOpener (search.entered own count) own (search.floor own) search.delimiters.size (search.entered own count).start =
      some place := by
  have below := stands.place_lt
  have inside : count < search.delimiters.size := by
    rw [stands.size]
    exact (Array.getElem?_eq_some_iff.mp here).1
  have start : (search.entered own count).start = (count : Int) - 1 := by
    have head : (search.entered own count).head = count := fresh
    have jump : (search.entered own count).jumps.getD count 0 = 0 := stands.getD_push_self
    rw [Search.start, head, jump]
    rfl
  rw [start]
  refine findOpener_some _ (stands.floor_lt there fits) ?_ fits (by omega) (fun index above under => ⟨?_, ?_⟩) (by omega)
  · exact (stands.ahead place (.inr List.mem_cons_self)).trans there
  · have jump : (search.entered own count).jumps.getD index 0 = search.jumps.getD index 0 := stands.getD_push (by omega)
    rw [jump]
    exact stands.passes index place (by omega) List.mem_cons_self above
  · have other := Array.getElem?_eq_getElem (by omega : index < search.delimiters.size)
    have gone : index ∉ place :: live := by
      intro among
      rcases List.mem_cons.mp among with rfl | among
      · exact Nat.lt_irrefl _ above
      · have := stands.live_lt among
        omega
    refine ⟨_, other, ?_⟩
    rcases stands.behind index (by omega) gone _ other with noOpener | closed
    · simp [opens, noOpener]
    · have filled : search.delimiters[index].closer.isNone = false := by simpa using closed
      simp [opens, filled]

omit fits in
private theorem delimiters_paired (index : Nat) : ((search.entered own count).paired count place).delimiters[index]? =
    if index = place then some { opener with closer := some count, canClose := false }
    else if index = count then some { own with canOpen := false } else search.delimiters[index]? := by
  have below := stands.place_lt
  have first := stands.ahead place (.inr List.mem_cons_self)
  have last := stands.current here
  simp only [Search.paired, Search.entered, Array.getElem?_modify]
  by_cases same : index = place
  · subst same
    simp [Nat.ne_of_gt below, first, there]
  · by_cases same : index = count
    · subst same
      simp [last, Nat.ne_of_lt below, Nat.ne_of_gt below]
    · simp_all [Ne.symm]

omit fits in
private theorem stands_paired :
    ((search.entered own count).paired count place).Stands all (count + 1) live ((place, count) :: pairs) where
  size := by simp [Search.paired, Search.entered, stands.size]
  kept := by
    intro index
    rw [stands.delimiters_paired here there]
    split
    next same =>
      subst same
      rw [there]
      rfl
    · split
      next same =>
        subst same
        rw [here]
        rfl
      · exact stands.kept index
  closers := by
    intro index
    rw [stands.delimiters_paired here there, List.lookup_cons]
    split
    next same => simp [same]
    next other =>
      rw [beq_false_of_ne other]
      split
      next same =>
        subst same
        rw [← stands.closers index, stands.current here]
        rfl
      · exact stands.closers index
  ahead := by
    intro index later
    have below := stands.place_lt
    have free : index ≠ place ∧ index ≠ count ∧ (count ≤ index ∨ index ∈ place :: live) := by
      rcases later with later | among
      · omega
      · have := stands.live_lt among
        exact ⟨by omega, by omega, .inr (List.mem_cons_of_mem _ among)⟩
    rw [stands.delimiters_paired here there, if_neg free.1, if_neg free.2.1]
    exact stands.ahead index free.2.2
  behind := by
    intro index behind gone other found
    rw [stands.delimiters_paired here there] at found
    split at found
    · cases found
      exact .inr rfl
    · split at found
      · cases found
        exact .inl rfl
      next noPlace noCount =>
        refine stands.behind index (by omega) ?_ other found
        simp [noPlace, gone]
  order := by
    obtain ⟨top, others⟩ := List.pairwise_cons.mp stands.order
    refine List.pairwise_cons.mpr ⟨fun other among => ?_, (List.pairwise_cons.mp others).2⟩
    have := top other (List.mem_cons_of_mem _ among)
    omega
  ready := fun other among => stands.ready other (List.mem_cons_of_mem _ among)
  known := by simp [Search.paired, Search.entered, stands.known]
  passes := by
    intro index earlier behind among before
    have below := stands.place_lt
    have low := stands.live_lt among
    have skipped := stands.beyond_lt there own among
    simp only [Search.paired, Search.entered] at skipped ⊢
    rw [stands.getD_jumps]
    split
    next same => omega
    · split
      next same => omega
      next noPlace noCount => exact stands.passes index earlier (by omega) (List.mem_cons_of_mem _ among) before
  floors := by
    intro key floor among
    obtain ⟨under, above⟩ := stands.floors key floor among
    exact ⟨by omega, fun other inside => above other (List.mem_cons_of_mem _ inside)⟩
  head := Nat.le_succ_of_le (stands.headOf_le _)

/-- A delimiter that can close takes the one that was opened last. -/
theorem closed (closes : own.canClose = true) (apart : search.lastItem.any (· + 1 == own.item) = false) :
    (step search count).Stands all (count + 1) live ((place, count) :: pairs) ∧ (step search count).lastItem = none := by
  have fresh : search.headOf own count = count := by simp [Search.headOf, apart]
  rw [step_closing (stands.current here) closes, stands.findOpener_place here there fits fresh]
  exact ⟨stands.stands_paired here there, rfl⟩

end Search.Stands

end DocScribe.Markdown.Delimiters
