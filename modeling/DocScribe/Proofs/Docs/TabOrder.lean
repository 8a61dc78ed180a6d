import DocScribe.Docs.Tab
import DocScribe.Proofs.Outcomes
import Mathlib.Data.List.Lex

/-! The order in which the tabs of a forest are listed. A place is the indices on the way to a tab, and places are
compared index by index: a tab comes before the tabs that it holds, and these come before the next tab beside it. -/

namespace DocScribe.Docs.Tab
open DocScribe

/-- What is listed where tabs are due. Null lists nothing. -/
def listing? : Json → Option (List Json)
  | .null => some []
  | .arr items => some items
  | _ => none

def childTabs? (members : List (String × Json)) : Option (List Json) :=
  listing? ((members.lookup "childTabs").getD .null)

/-- Tabs with all that they hold. Null may stand in the place of any. -/
inductive IsForest : List Json → Prop where
  | nil : IsForest []
  | absent {rest} (others : IsForest rest) : IsForest (.null :: rest)
  | tab {members inner rest} (listed : childTabs? members = some inner) (inside : IsForest inner)
      (others : IsForest rest) : IsForest (.obj members :: rest)

def children : Json → List Json
  | .obj members => (childTabs? members).getD []
  | _ => []

/-- The tab at a place, unless nothing or null is there. -/
def at? (forest : List Json) : List Nat → Option Json
  | [] => none
  | [index] => forest[index]?.filter fun tab => !tab.isNull
  | index :: next :: place => forest[index]?.bind fun tab => at? (children tab) (next :: place)

/-- All tabs of a forest with their places, in the order of these. -/
structure Places (forest : List Json) (placed : List (List Nat × Json)) : Prop where
  ordered : (placed.map Prod.fst).Pairwise (List.Lex (· < ·))
  complete : ∀ place tab, (place, tab) ∈ placed ↔ at? forest place = some tab

section Lookup
variable {first tab : Json} {rest : List Json}

private theorem at?_later (index : Nat) (place : List Nat) :
    at? (first :: rest) ((index + 1) :: place) = at? rest (index :: place) := by
  cases place <;> rfl

theorem at?_here {members : List (String × Json)} : at? (.obj members :: rest) [0] = some (.obj members) := rfl

private theorem at?_below {next : Nat} (place : List Nat) :
    at? (first :: rest) (0 :: next :: place) = at? (children first) (next :: place) := rfl

private theorem at?_absent (place : List Nat) : at? (.null :: rest) (0 :: place) = none := by
  cases place with
  | nil => rfl
  | cons next place =>
    have nowhere (place : List Nat) : at? [] place = none := by
      rcases place with - | ⟨index, - | ⟨next, place⟩⟩ <;> rfl
    exact nowhere _

theorem Places.ne_nil {forest : List Json} {placed : List (List Nat × Json)} (places : Places forest placed)
    {entry : List Nat × Json} (among : entry ∈ placed) : entry.1 ≠ [] := by
  intro empty
  have found := (places.complete entry.1 entry.2).mp among
  rw [empty] at found
  cases found

end Lookup

/-- The place seen from the tab that holds it. -/
def below (entry : List Nat × Json) : List Nat × Json := (0 :: entry.1, entry.2)

/-- The place when one more stands in front. -/
def later : List Nat × Json → List Nat × Json
  | ([], tab) => ([], tab)
  | (index :: place, tab) => ((index + 1) :: place, tab)

section Order
variable {placed : List (List Nat × Json)}

private theorem ordered_below (ordered : (placed.map Prod.fst).Pairwise (List.Lex (· < ·))) :
    ((placed.map below).map Prod.fst).Pairwise (List.Lex (· < ·)) := by
  rw [List.map_map, List.pairwise_map] at *
  exact ordered.imp fun earlier => .cons earlier

private theorem lex_later {first second : List Nat × Json} (earlier : List.Lex (· < ·) first.1 second.1) :
    List.Lex (· < ·) (later first).1 (later second).1 := by
  obtain ⟨first, own⟩ := first
  obtain ⟨second, other⟩ := second
  cases earlier with
  | nil => exact .nil
  | cons inner => exact .cons inner
  | rel less => exact .rel (Nat.succ_lt_succ less)

private theorem ordered_later (ordered : (placed.map Prod.fst).Pairwise (List.Lex (· < ·))) :
    ((placed.map later).map Prod.fst).Pairwise (List.Lex (· < ·)) := by
  rw [List.map_map, List.pairwise_map] at *
  exact ordered.imp lex_later

private theorem mem_below {place : List Nat} {tab : Json} :
    (place, tab) ∈ placed.map below ↔ ∃ inner, place = 0 :: inner ∧ (inner, tab) ∈ placed := by
  simp only [List.mem_map, below, Prod.mk.injEq, Prod.exists]
  constructor
  · rintro ⟨inner, tab, among, rfl, rfl⟩
    exact ⟨inner, rfl, among⟩
  · rintro ⟨inner, rfl, among⟩
    exact ⟨inner, tab, among, rfl, rfl⟩

private theorem mem_later (filled : ∀ entry ∈ placed, entry.1 ≠ []) {place : List Nat} {tab : Json} :
    (place, tab) ∈ placed.map later ↔ ∃ index inner, place = (index + 1) :: inner ∧ (index :: inner, tab) ∈ placed := by
  rw [List.mem_map]
  constructor
  · rintro ⟨⟨- | ⟨index, inner⟩, own⟩, among, same⟩
    · exact absurd rfl (filled _ among)
    · cases same
      exact ⟨index, inner, rfl, among⟩
  · rintro ⟨index, inner, rfl, among⟩
    exact ⟨_, among, rfl⟩

end Order

section Forest
variable {inner rest : List Json} {inside others : List (List Nat × Json)} {members : List (String × Json)}

private theorem places_nil : Places [] [] := by
  refine ⟨.nil, fun place tab => ⟨(fun among => nomatch among), fun found => ?_⟩⟩
  rcases place with - | ⟨index, - | ⟨next, place⟩⟩ <;> cases found

theorem Places.absent (places : Places rest others) : Places (.null :: rest) (others.map later) := by
  refine ⟨ordered_later places.ordered, fun place tab => ?_⟩
  rw [mem_later fun _ among => places.ne_nil among]
  rcases place with - | ⟨- | index, place⟩
  · exact ⟨(fun ⟨_, _, same, _⟩ => nomatch same), (fun found => nomatch found)⟩
  · rw [at?_absent]
    exact ⟨(fun ⟨_, _, same, _⟩ => nomatch same), (fun found => nomatch found)⟩
  · rw [at?_later, ← places.complete]
    constructor
    · rintro ⟨_, _, ⟨⟩, among⟩
      exact among
    · exact fun among => ⟨index, place, rfl, among⟩

/-- A tab stands in front, then what it holds, and then what stands beside it. -/
theorem Places.tab (listed : childTabs? members = some inner) (held : Places inner inside)
    (beside : Places rest others) :
    Places (.obj members :: rest) (([0], .obj members) :: (inside.map below ++ others.map later)) := by
  have own : children (.obj members) = inner := by rw [children, listed, Option.getD_some]
  have behind {entry : List Nat × Json} (among : entry ∈ others.map later) : ∃ index place, entry.1 = (index + 1) :: place := by
    obtain ⟨index, place, same, -⟩ := (mem_later fun _ among => beside.ne_nil among).mp among
    exact ⟨index, place, same⟩
  constructor
  · rw [List.map_cons, List.pairwise_cons, List.map_append, List.pairwise_append]
    refine ⟨?_, ordered_below held.ordered, ordered_later beside.ordered, ?_⟩
    · intro place further
      rw [← List.map_append] at further
      obtain ⟨entry, among, rfl⟩ := List.mem_map.mp further
      rcases List.mem_append.mp among with within | after
      · obtain ⟨deep, same, inner⟩ := mem_below.mp within
        obtain ⟨next, deep, rfl⟩ := List.exists_cons_of_ne_nil (held.ne_nil inner)
        rw [same]
        exact .cons .nil
      · obtain ⟨index, deep, same⟩ := behind after
        rw [same]
        exact .rel (Nat.succ_pos index)
    · intro first inFront second behindIt
      obtain ⟨entry, within, rfl⟩ := List.mem_map.mp inFront
      obtain ⟨other, after, rfl⟩ := List.mem_map.mp behindIt
      obtain ⟨deep, same, -⟩ := mem_below.mp within
      obtain ⟨index, far, apart⟩ := behind after
      rw [same, apart]
      exact .rel (Nat.succ_pos index)
  · intro place tab
    rw [List.mem_cons, List.mem_append, mem_below, mem_later fun _ among => beside.ne_nil among]
    -- no way at all, the way to the tab, one into it, and two ways beside it
    rcases place with - | ⟨- | index, - | ⟨next, place⟩⟩
    · simp [at?]
    · have nowhere : ([], tab) ∉ inside := fun among => held.ne_nil among rfl
      simp [at?_here, nowhere, eq_comm]
    · rw [at?_below, own, ← held.complete]
      simp
    · rw [at?_later, ← beside.complete]
      simp
    · rw [at?_later, ← beside.complete]
      simp

theorem flattenItems_nil : flattenItems [] = .ok [] := by
  rw [flattenItems]
  rfl

theorem flattenItems_tab {flat further : List Json} (listed : childTabs? members = some inner)
    (held : flattenItems inner = .ok flat) (beside : flattenItems rest = .ok further) :
    flattenItems (.obj members :: rest) = .ok (.obj members :: (flat ++ further)) := by
  have none (empty : inner = []) : flat = [] := by
    rw [empty, flattenItems_nil] at held
    exact (Except.ok.inj held).symm
  rw [flattenItems]
  split
  next missing =>
    rw [childTabs?, missing] at listed
    rw [none (Option.some.inj listed).symm, beside]
    rfl
  next value found =>
    rw [childTabs?, found] at listed
    cases value with
    | null =>
      rw [none (Option.some.inj listed).symm, beside]
      rfl
    | arr items =>
      cases listed
      simp only [Node.Listing.ofItems, held, beside]
      rfl
    | _ => cases listed

private theorem flattenItems_places {forest : List Json} (isForest : IsForest forest) :
    ∃ placed, Places forest placed ∧ flattenItems forest = .ok (placed.map Prod.snd) := by
  have kept (change : List Nat × Json → List Nat × Json) (same : ∀ entry, (change entry).2 = entry.2)
      (placed : List (List Nat × Json)) : (placed.map change).map Prod.snd = placed.map Prod.snd := by
    rw [List.map_map]
    exact List.map_congr_left fun entry _ => same entry
  induction isForest with
  | nil => exact ⟨[], places_nil, flattenItems_nil⟩
  | absent _ ih =>
    obtain ⟨others, places, flat⟩ := ih
    refine ⟨_, places.absent, ?_⟩
    rw [flattenItems, flat, kept later]
    rintro ⟨- | ⟨index, place⟩, tab⟩ <;> rfl
  | @tab members inner rest listed _ _ held beside =>
    obtain ⟨inside, placesInside, flatInside⟩ := held
    obtain ⟨others, placesBeside, flatBeside⟩ := beside
    refine ⟨_, .tab listed placesInside placesBeside, ?_⟩
    rw [flattenItems_tab listed flatInside flatBeside, List.map_cons, List.map_append, kept below fun _ => rfl, kept later]
    rintro ⟨- | ⟨index, place⟩, tab⟩ <;> rfl

end Forest

/-- The tabs of a forest are listed once each, in the order of their places. -/
theorem flatten_inOrder {tabs : Json} {forest : List Json} (listed : listing? tabs = some forest)
    (isForest : IsForest forest) :
    ∃ placed : List (List Nat × Json), flatten tabs = .ok (placed.map Prod.snd) ∧
      (placed.map Prod.fst).Pairwise (List.Lex (· < ·)) ∧
      ∀ place tab, (place, tab) ∈ placed ↔ at? forest place = some tab := by
  obtain ⟨placed, places, flat⟩ := flattenItems_places isForest
  refine ⟨placed, ?_, places.ordered, places.complete⟩
  rw [← flat]
  cases tabs with
  | null =>
    cases listed
    rw [flattenItems_nil]
    rfl
  | arr items =>
    obtain rfl : items = forest := Option.some.inj listed
    cases items with
    | nil =>
      rw [flattenItems_nil]
      rfl
    | cons => rfl
  | _ => cases listed

/-- Null stands in front of a tab, in front of what it holds, and in the place of what one of these holds. -/
theorem flatten_inOrder_amongNulls :
    let childless : Json := .obj [("childTabs", .null)]
    let vacant : Json := .obj [("childTabs", .arr [])]
    let forest : List Json := [.null, .obj [("childTabs", .arr [.null, childless, vacant])], .obj []]
    IsForest forest ∧
    ∃ placed : List (List Nat × Json), flatten (.arr forest) = .ok (placed.map Prod.snd) ∧
      (placed.map Prod.fst).Pairwise (List.Lex (· < ·)) ∧
      ([1, 1], childless) ∈ placed ∧ ([1, 2], vacant) ∈ placed ∧ ([2], .obj []) ∈ placed := by
  intro childless vacant forest
  have isForest : IsForest forest :=
    .absent (.tab rfl (.absent (.tab rfl .nil (.tab rfl .nil .nil))) (.tab rfl .nil .nil))
  have held : listing? (.arr forest) = some forest := rfl
  obtain ⟨placed, listed, ordered, complete⟩ := flatten_inOrder held isForest
  refine ⟨isForest, placed, listed, ordered, ?_, ?_, ?_⟩
  · exact (complete _ _).mpr rfl
  · exact (complete _ _).mpr rfl
  · exact (complete _ _).mpr rfl

end DocScribe.Docs.Tab
