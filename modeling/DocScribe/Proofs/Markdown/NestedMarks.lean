import DocScribe.Proofs.Markdown.PairedMarks

/-! Items between marks that are nested: the marks are paired from the inside out, and become the marks of styles. -/

namespace DocScribe.Markdown
open DocScribe Delimiters

/-- Items between stars, and between tildes inside of the stars. -/
structure Nest where
  stars : Nat
  tildes : Bool
  inside : List Inline
  /-- How the runs before and behind the items may open and close. -/
  starFlanks : Flanks × Flanks
  tildeFlanks : Flanks × Flanks

namespace Nest
variable (nest : Nest)

/-- The number of marks on either side. -/
def depth : Nat := nest.stars + nest.tildes.toNat

/-- The marks from the outermost one on. -/
def markAt (index : Nat) : Char := if index < nest.stars then '*' else '~'

def runAt (index : Nat) : Nat := if index < nest.stars then nest.stars else 0

def flanksAt (index : Nat) : Flanks × Flanks := if index < nest.stars then nest.starFlanks else nest.tildeFlanks

def opener (item index : Nat) : Delimiter where
  mark := nest.markAt index
  runLength := nest.runAt index
  item := item + index
  canOpen := (nest.flanksAt index).1.canOpen
  canClose := (nest.flanksAt index).1.canClose

def closer (item index : Nat) : Delimiter where
  mark := nest.markAt (nest.depth - 1 - index)
  runLength := nest.runAt (nest.depth - 1 - index)
  item := item + nest.depth + nest.inside.length + index
  canOpen := (nest.flanksAt (nest.depth - 1 - index)).2.canOpen
  canClose := (nest.flanksAt (nest.depth - 1 - index)).2.canClose

/-- The delimiters of a nest whose first item has this number. -/
def delimiters (item : Nat) : List Delimiter :=
  (List.range nest.depth).map (nest.opener item) ++ (List.range nest.depth).map (nest.closer item)

/-- Marks that open before the items and close behind them. -/
structure Flanked : Prop where
  few : nest.stars ≤ 3
  filled : 0 < nest.depth → nest.inside ≠ []
  opens : ∀ index < nest.depth, (nest.flanksAt index).1.canOpen = true
  closes : ∀ index < nest.depth, (nest.flanksAt index).2.canClose = true
  noTilde : nest.inside.getLast? ≠ some (.text ['~'])

/-- The delimiters of a nest stand in their place. -/
structure StandsAt (all : Delimiters) (first item : Nat) : Prop where
  opener : ∀ index < nest.depth, all[first + index]? = some (nest.opener item index)
  closer : ∀ index < nest.depth, all[first + nest.depth + index]? = some (nest.closer item index)

/-- The delimiters of a nest when they are paired: each opener with the closer on the other side. -/
structure Tied (paired : Delimiters) (first item : Nat) : Prop where
  opener : ∀ index < nest.depth, ∃ own, paired[first + index]? = some own ∧ own.mark = nest.markAt index ∧
    own.item = item + index ∧ own.closer = some (first + nest.depth + (nest.depth - 1 - index))
  closer : ∀ index < nest.depth, ∃ own, paired[first + nest.depth + index]? = some own ∧
    own.item = item + nest.depth + nest.inside.length + index ∧ own.closer = none

end Nest

namespace Delimiters
variable {all : Delimiters} {first item : Nat} {pairs : List (Nat × Nat)} {search : Search} {nest : Nest}

private theorem oddPair_same {opener closer : Delimiter} (same : opener.runLength = closer.runLength) :
    oddPair opener closer = false := by
  simp only [oddPair, same, Bool.and_eq_false_iff, beq_eq_false_iff_ne, Bool.or_eq_false_iff, bne_eq_false_iff_eq]
  omega

/-- The delimiters from `first` on that have opened, the last one first. -/
def liveFrom (first count : Nat) : List Nat := (List.range' first count).reverse

private theorem liveFrom_succ (first count : Nat) : liveFrom first (count + 1) = (first + count) :: liveFrom first count := by
  rw [liveFrom, List.range'_concat, List.reverse_append, Nat.one_mul]
  rfl

private theorem exists_of_mem_liveFrom {count place : Nat} (among : place ∈ liveFrom first count) :
    ∃ index < count, place = first + index := by
  obtain ⟨low, high⟩ := List.mem_range'_1.mp (List.mem_reverse.mp among)
  exact ⟨place - first, by omega, by omega⟩

/-- Running over delimiters, one after the other. -/
def run (search : Search) (first count : Nat) : Search := (List.range' first count).foldl step search

private theorem run_succ (search : Search) (first count : Nat) :
    run search first (count + 1) = step (run search first count) (first + count) := by
  rw [run, List.range'_concat, List.foldl_append, Nat.one_mul]
  rfl

private theorem run_opened (flanked : nest.Flanked) (stands : nest.StandsAt all first item)
    (start : search.Stands all first [] pairs)
    (fresh : search.lastItem = none) {count : Nat} (few : count ≤ nest.depth) :
    (run search first count).Stands all (first + count) (liveFrom first count) pairs ∧
      (0 < count → count ≤ nest.stars → (run search first count).head = first) ∧
      (run search first count).lastItem = if count = 0 then none else some (item + (count - 1)) := by
  induction count with
  | zero => exact ⟨start, fun more => absurd more (Nat.lt_irrefl 0), fresh⟩
  | succ count ih =>
    obtain ⟨stood, head, last⟩ := ih (by omega)
    have here := stands.opener count (by omega)
    -- stars go on with the run of the first of them
    have headOf (inside : count < nest.stars) : (run search first count).headOf (nest.opener item count) (first + count) =
      first := by
      cases count with
      | zero => simp [Search.headOf, last]
      | succ before =>
        have lead := stood.ahead first (.inr (by simp [liveFrom]))
        have top := stands.opener 0 (by omega)
        rw [Nat.add_zero] at top
        have joins : nest.markAt 0 = nest.markAt (before + 1) := by
          simp [Nest.markAt, inside, Nat.zero_lt_of_lt inside]
        rw [Search.headOf, head (Nat.zero_lt_succ before) (by omega), lead, top, last]
        simp [joins, Nest.opener, Nat.add_assoc]
    have free : ∀ place : Nat, place ∈ liveFrom first count → ∀ opener ∈ all[place]?,
      opener.mark = (nest.opener item count).mark →
        (run search first count).headOf (nest.opener item count) (first + count) ≤ place := by
      intro place among opener found same
      obtain ⟨index, below, rfl⟩ := exists_of_mem_liveFrom among
      rw [stands.opener index (by omega)] at found
      obtain rfl := Option.some.inj found
      by_cases inside : count < nest.stars
      · rw [headOf inside]
        exact Nat.le_add_right first index
      · -- the only mark inside of the stars is one of tildes
        have : nest.tildes.toNat ≤ 1 := Bool.toNat_le nest.tildes
        simp only [Nest.depth] at few
        have star : index < nest.stars := by omega
        simp [Nest.opener, Nest.markAt, inside, star] at same
    obtain ⟨now, nextHead, nextLast⟩ := stood.opened here (flanked.opens count (by omega)) free
    rw [run_succ, liveFrom_succ]
    refine ⟨now, fun _ inside => nextHead.trans (headOf inside), ?_⟩
    rw [nextLast]
    simp [Nest.opener]

/-- What closes the openers from the last one on. -/
def pairsFrom (nest : Nest) (first : Nat) : (count : Nat) → List (Nat × Nat)
  | 0 => []
  | count + 1 => (first + (nest.depth - (count + 1)), first + nest.depth + count) :: pairsFrom nest first count

private theorem run_closed (flanked : nest.Flanked) (stands : nest.StandsAt all first item)
    (start : search.Stands all first [] pairs)
    (fresh : search.lastItem = none) {count : Nat} (few : count ≤ nest.depth) :
    (run search first (nest.depth + count)).Stands all (first + nest.depth + count) (liveFrom first (nest.depth - count))
        (pairsFrom nest first count ++ pairs) ∧
      (0 < count → (run search first (nest.depth + count)).lastItem = none) := by
  induction count with
  | zero =>
    obtain ⟨stood, -, -⟩ := run_opened flanked stands start fresh (Nat.le_refl nest.depth)
    exact ⟨stood, fun more => absurd more (Nat.lt_irrefl 0)⟩
  | succ count ih =>
    obtain ⟨stood, last⟩ := ih (by omega)
    have here := stands.closer count (by omega)
    have top : nest.depth - count = nest.depth - (count + 1) + 1 := by omega
    have there := stands.opener (nest.depth - (count + 1)) (by omega)
    rw [top, liveFrom_succ] at stood
    have inner : nest.depth - 1 - count = nest.depth - (count + 1) := by omega
    have fits : opens (nest.closer item count) (nest.opener item (nest.depth - (count + 1))) = true := by
      have canOpen := flanked.opens (nest.depth - (count + 1)) (by omega)
      have odd : oddPair (nest.opener item (nest.depth - (count + 1))) (nest.closer item count) = false :=
        oddPair_same (by simp [Nest.opener, Nest.closer, inner])
      simp only [opens, odd]
      simp [Nest.opener, Nest.closer, inner, canOpen]
    have apart : (run search first (nest.depth + count)).lastItem.any (· + 1 == (nest.closer item count).item) = false := by
      cases count with
      | succ before => simp [last (Nat.zero_lt_succ before)]
      | zero =>
        obtain ⟨-, -, lastOpener⟩ := run_opened flanked stands start fresh (Nat.le_refl nest.depth)
        have filled := List.length_pos_iff.mpr (flanked.filled (by omega))
        have some : nest.depth ≠ 0 := by omega
        rw [Nat.add_zero, lastOpener, if_neg some]
        simp only [Option.any_some, Nest.closer, beq_eq_false_iff_ne]
        omega
    obtain ⟨now, nextLast⟩ := stood.closed here there fits
      (by simpa [Nest.closer, inner] using flanked.closes (nest.depth - (count + 1)) (by omega)) apart
    have step : run search first (nest.depth + (count + 1)) =
        Delimiters.step (run search first (nest.depth + count)) (first + nest.depth + count) := by
      rw [← Nat.add_assoc nest.depth, run_succ, ← Nat.add_assoc]
    rw [step]
    exact ⟨now, fun _ => nextLast⟩

private theorem lookup_pairsFrom (nest : Nest) (first : Nat) (pairs : List (Nat × Nat)) {count : Nat} (few : count ≤ nest.depth)
    (index : Nat) :
    (pairsFrom nest first count ++ pairs).lookup index =
      if first + (nest.depth - count) ≤ index ∧ index < first + nest.depth then some (2 * (first + nest.depth) - 1 - index)
      else pairs.lookup index := by
  induction count with
  | zero =>
    have : ¬ (first + (nest.depth - 0) ≤ index ∧ index < first + nest.depth) := by omega
    rw [if_neg this]
    rfl
  | succ count ih =>
    have later := ih (Nat.le_of_succ_le few)
    rw [pairsFrom, List.cons_append, List.lookup_cons, later]
    grind

/-- The delimiters of nests stand in their places, one nest after the other. -/
def AllStand (all : Delimiters) : (first item : Nat) → List Nest → Prop
  | _, _, [] => True
  | first, item, nest :: nests =>
    nest.StandsAt all first item ∧ AllStand all (first + 2 * nest.depth) (item + (2 * nest.depth + nest.inside.length)) nests

/-- Every opener of the nests is closed by the closer on the other side. -/
def AllPaired (closerOf : Nat → Option Nat) : (first : Nat) → List Nest → Prop
  | _, [] => True
  | first, nest :: nests =>
    (∀ index < nest.depth, closerOf (first + index) = some (first + nest.depth + (nest.depth - 1 - index)) ∧
      closerOf (first + nest.depth + index) = none) ∧ AllPaired closerOf (first + 2 * nest.depth) nests

/-- How many delimiters stand in nests. -/
def depthOf : List Nest → Nat
  | [] => 0
  | nest :: nests => 2 * nest.depth + depthOf nests

private theorem run_add (search : Search) (first count more : Nat) :
    run search first (count + more) = run (run search first count) (first + count) more := by
  simp only [run]
  rw [← List.range'_append_1, List.foldl_append]

theorem run_nests {nests : List Nest} (flanked : ∀ nest ∈ nests, nest.Flanked) (stands : AllStand all first item nests)
    (start : search.Stands all first [] pairs) (fresh : search.lastItem = none)
    (unpaired : ∀ index, first ≤ index → pairs.lookup index = none) :
    ∃ final, (run search first (depthOf nests)).Stands all (first + depthOf nests) [] final ∧
      (∀ index < first, List.lookup index final = pairs.lookup index) ∧
        AllPaired (fun index => List.lookup index final) first nests := by
  induction nests generalizing first item search pairs with
  | nil => exact ⟨pairs, start, fun _ _ => rfl, trivial⟩
  | cons nest nests ih =>
    obtain ⟨own, others⟩ := List.forall_mem_cons.mp flanked
    obtain ⟨here, there⟩ := stands
    obtain ⟨stood, last⟩ := run_closed own here start fresh (Nat.le_refl nest.depth)
    have width : 2 * nest.depth = nest.depth + nest.depth := Nat.two_mul nest.depth
    rw [Nat.add_assoc, Nat.sub_self, ← width] at stood
    have free : (run search first (2 * nest.depth)).lastItem = none := by
      rw [width]
      rcases Nat.eq_zero_or_pos nest.depth with none | some
      · rw [none]
        exact fresh
      · exact last some
    have looked := lookup_pairsFrom nest first pairs (Nat.le_refl nest.depth)
    obtain ⟨final, after, kept, paired⟩ := ih others there stood free fun index later => by
      rw [looked, if_neg (by omega)]
      exact unpaired index (by omega)
    refine ⟨final, ?_, fun index below => ?_, fun index inside => ⟨?_, ?_⟩, paired⟩
    · rw [depthOf, run_add, ← Nat.add_assoc]
      exact after
    · rw [kept index (by omega), looked, if_neg (by omega)]
    · have low : first + index < first + 2 * nest.depth := by omega
      simp only [kept _ low, looked]
      rw [if_pos (by omega), Option.some.injEq]
      omega
    · have low : first + nest.depth + index < first + 2 * nest.depth := by omega
      simp only [kept _ low, looked]
      rw [if_neg (by omega)]
      exact unpaired _ (by omega)

/-- The delimiters of nests, the first item of which has this number. -/
def ofNests : (item : Nat) → List Nest → List Delimiter
  | _, [] => []
  | item, nest :: nests => nest.delimiters item ++ ofNests (item + (2 * nest.depth + nest.inside.length)) nests

private theorem length_delimiters (nest : Nest) (item : Nat) : (nest.delimiters item).length = 2 * nest.depth := by
  simp [Nest.delimiters]
  omega

private theorem length_ofNests (item : Nat) (nests : List Nest) : (ofNests item nests).length = depthOf nests := by
  induction nests generalizing item with
  | nil => rfl
  | cons nest nests ih => simp [ofNests, ih, depthOf, length_delimiters]

private theorem allStand_ofNests (front : List Delimiter) (item : Nat) (nests : List Nest) :
    AllStand (front ++ ofNests item nests).toArray front.length item nests := by
  induction nests generalizing front item with
  | nil => trivial
  | cons nest nests ih =>
    have later := ih (front ++ nest.delimiters item) (item + (2 * nest.depth + nest.inside.length))
    rw [List.append_assoc, List.length_append, length_delimiters] at later
    refine ⟨⟨fun index below => ?_, fun index below => ?_⟩, later⟩
    · rw [List.getElem?_toArray, List.getElem?_append_right (Nat.le_add_right ..), Nat.add_sub_cancel_left, ofNests,
        Nest.delimiters,
        List.append_assoc, List.getElem?_append_left (by simpa using below)]
      simp [below]
    · rw [List.getElem?_toArray, Nat.add_assoc, List.getElem?_append_right (Nat.le_add_right ..), Nat.add_sub_cancel_left,
        ofNests, Nest.delimiters, List.append_assoc, List.getElem?_append_right (by simp),
        List.getElem?_append_left (by simpa using below)]
      simp [below]

private theorem closer_ofNests {item : Nat} {nests : List Nest} {delimiter : Delimiter} (among : delimiter ∈ ofNests item nests) :
    delimiter.closer = none := by
  induction nests generalizing item with
  | nil => cases among
  | cons nest nests ih =>
    rcases List.mem_append.mp among with own | later
    · rcases List.mem_append.mp own with opener | closer
      · obtain ⟨index, -, rfl⟩ := List.mem_map.mp opener
        rfl
      · obtain ⟨index, -, rfl⟩ := List.mem_map.mp closer
        rfl
    · exact ih later

/-- The delimiters of nests when they are paired. -/
def AllTied (paired : Delimiters) : (first item : Nat) → List Nest → Prop
  | _, _, [] => True
  | first, item, nest :: nests =>
    nest.Tied paired first item ∧ AllTied paired (first + 2 * nest.depth) (item + (2 * nest.depth + nest.inside.length)) nests

private theorem allTied {paired : Delimiters} {nests : List Nest} (stands : AllStand all first item nests)
    (kept : ∀ index : Nat, (paired[index]?).map core = (all[index]?).map core) {closerOf : Nat → Option Nat}
    (closers : ∀ index : Nat, (paired[index]?).bind Delimiter.closer = closerOf index) (tied : AllPaired closerOf first nests) :
    AllTied paired first item nests := by
  have known {index : Nat} {own : Delimiter} (here : all[index]? = some own) :
      ∃ other, paired[index]? = some other ∧ other.mark = own.mark ∧ other.item = own.item ∧ other.closer = closerOf index := by
    have same := kept index
    have closer := closers index
    rw [here] at same
    obtain ⟨other, found, equal⟩ := Option.map_eq_some_iff.mp same
    obtain ⟨mark, -, item⟩ : other.mark = own.mark ∧ other.runLength = own.runLength ∧ other.item = own.item := by
      simpa [core] using equal
    rw [found] at closer
    exact ⟨other, found, mark, item, closer⟩
  induction nests generalizing first item with
  | nil => trivial
  | cons nest nests ih =>
    obtain ⟨here, there⟩ := stands
    obtain ⟨own, others⟩ := tied
    refine ⟨⟨fun index below => ?_, fun index below => ?_⟩, ih there others⟩
    · obtain ⟨opener, found, mark, place, closer⟩ := known (here.opener index below)
      exact ⟨opener, found, mark, place, closer.trans (own index below).1⟩
    · obtain ⟨other, found, -, place, closer⟩ := known (here.closer index below)
      exact ⟨other, found, place, closer.trans (own index below).2⟩

theorem pair_ofNests {nests : List Nest} (flanked : ∀ nest ∈ nests, nest.Flanked) :
    AllTied (pair (ofNests 0 nests).toArray) 0 0 nests ∧ (pair (ofNests 0 nests).toArray).size = depthOf nests := by
  have stands := allStand_ofNests [] 0 nests
  have start : Search.Stands (ofNests 0 nests).toArray 0 [] [] ⟨(ofNests 0 nests).toArray, #[], [], 0, none⟩ := by
    constructor
    · rfl
    · exact fun index => rfl
    · intro index
      simp only [List.lookup_nil]
      refine Option.bind_eq_none_iff.mpr fun delimiter found => ?_
      exact closer_ofNests (List.mem_of_getElem? (by simpa using found))
    · exact fun index _ => rfl
    · exact fun index below => absurd below (Nat.not_lt_zero index)
    · exact List.pairwise_singleton ..
    · exact fun place among => by cases among
    · rfl
    · exact fun index place below => absurd below (Nat.not_lt_zero index)
    · exact fun key floor among => by cases among
    · exact Nat.le_refl 0
  obtain ⟨final, stood, -, paired⟩ := run_nests flanked stands start rfl fun _ _ => rfl
  have whole : run ⟨(ofNests 0 nests).toArray, #[], [], 0, none⟩ 0 (depthOf nests) =
      (List.range (ofNests 0 nests).toArray.size).foldl step ⟨(ofNests 0 nests).toArray, #[], [], 0, none⟩ := by
    rw [run, List.size_toArray, length_ofNests, List.range_eq_range']
  rw [List.length_nil, whole] at stood
  refine ⟨allTied stands stood.kept stood.closers paired, ?_⟩
  rw [pair, stood.size, List.size_toArray, List.nil_append, length_ofNests]

end Delimiters

end DocScribe.Markdown
