import DocScribe.Proofs.Docs.ContentRuns
import DocScribe.Proofs.Docs.MarkerPlaces
import DocScribe.Proofs.Docs.MarkerScan
import Mathlib.Data.List.Sort

/-! The search for markers in a live document. Runs that spell the body at the indices that they state
show every marker that no run is cut in, at its place; of those, the markers from the base index on are
the images of the compiled text, in order, and then what comes behind it. -/

namespace DocScribe.Docs
open DocScribe Markdown

def Spells (contents : List SlotContent) (place : Nat) (text : List Char) : Prop :=
  textContents text <+: contents.drop place

instance (contents : List SlotContent) (place : Nat) (text : List Char) : Decidable (Spells contents place text) :=
  inferInstanceAs (Decidable (_ <+: _))

/-- Runs hold the texts of a body at the indices that they state, one behind the other. -/
structure RunsOf (contents : List SlotContent) (runs : List TextRun) : Prop where
  spelled : ∀ run ∈ runs, Spells contents run.start run.text.toList
  ordered : runs.Pairwise fun first second => first.start + Text.units first.text ≤ second.start

def InOneRun (runs : List TextRun) (place : Nat) (text : List Char) : Prop :=
  ∃ run ∈ runs, run.start ≤ place ∧ place + Text.listUnits text ≤ run.start + Text.units run.text

instance (runs : List TextRun) (place : Nat) (text : List Char) : Decidable (InOneRun runs place text) :=
  inferInstanceAs (Decidable (∃ run ∈ runs, _))

/-- A body holds a marker whose number has more digits than are read. -/
def HasLongMarker (tag : String) (contents : List SlotContent) : Prop :=
  ∃ place digits, AreDigits digits ∧ Text.maxDigits < digits.length ∧
    Spells contents place (markerChars tag.toList digits)

theorem HasLongMarker.size {tag : String} {contents : List SlotContent} (long : HasLongMarker tag contents) :
    Text.maxDigits < contents.length := by
  obtain ⟨place, digits, _, tooLong, spells⟩ := long
  have inside := spells.length_le
  have units := Text.length_le_listUnits (markerChars tag.toList digits)
  rw [length_textContents, List.length_drop] at inside
  rw [length_markerChars] at units
  omega

/-- A marker that the search comes across: its place, the values of its digits, and its units. -/
structure Sighting where
  place : Nat
  values : List Nat
  units : Nat

def Sighting.ofDigits (tag : String) (place : Nat) (digits : List Char) : Sighting :=
  ⟨place, digitValues digits, Text.listUnits (markerChars tag.toList digits)⟩

def sightingsIn (tag : String) (run : TextRun) : List Sighting :=
  (markersFrom tag.toList 0 0 run.text.toList).map fun marker =>
    ⟨run.start + Text.listUnits (run.text.toList.take marker.offset), marker.digits,
      Text.listUnits ((run.text.toList.drop marker.offset).take marker.length)⟩

def sightings (tag : String) (runs : List TextRun) : List Sighting := runs.flatMap (sightingsIn tag)

section Spelling
variable {contents : List SlotContent} {tag : String}

theorem Spells.take_drop {place : Nat} {first second : List Char} (spells : Spells contents place (first ++ second)) :
    Spells contents (place + Text.listUnits first) second := by
  obtain ⟨rest, same⟩ := spells
  refine ⟨rest, ?_⟩
  rw [← List.drop_drop, ← same, textContents_append, List.append_assoc, ← length_textContents,
    List.drop_append_length]

theorem Spells.start {place : Nat} {first second : List Char} (spells : Spells contents place (first ++ second)) :
    Spells contents place first := by
  refine List.IsPrefix.trans ?_ spells
  rw [textContents_append]
  exact List.prefix_append _ _

theorem Spells.marker_unique {place : Nat} {first second : List Char} (firstDigits : AreDigits first)
    (secondDigits : AreDigits second) (one : Spells contents place (markerChars tag.toList first))
    (other : Spells contents place (markerChars tag.toList second)) : first = second := by
  have shorter {digits more : List Char} (digitsFirst : AreDigits digits) (digitsSecond : AreDigits more)
      (starts : markerChars tag.toList digits <+: markerChars tag.toList more) : digits = more := by
    obtain ⟨rest, same⟩ := starts
    have found := markerAt?_marker tag.toList digitsFirst rest
    have whole := markerAt?_marker tag.toList digitsSecond []
    rw [same] at found
    rw [List.append_nil] at whole
    have lengths := congrArg Prod.snd (Option.some.inj (found.symm.trans whole))
    have none : rest = [] := by
      have total := congrArg List.length same
      rw [List.length_append] at total
      exact List.length_eq_zero_iff.mp (by simp only at lengths; omega)
    rw [none, List.append_nil] at same
    exact (List.append_inj' (List.append_cancel_left same) rfl).1
  rcases List.prefix_or_prefix_of_prefix one other with starts | starts
  · exact shorter firstDigits secondDigits (prefix_of_textContents starts)
  · exact (shorter secondDigits firstDigits (prefix_of_textContents starts)).symm

end Spelling

section Sightings
variable {contents : List SlotContent} {tag : String} {runs : List TextRun}

/-- What the search comes across are markers of the body, at their places. -/
theorem sightings_sound (runsOf : RunsOf contents runs) {sighting : Sighting} (member : sighting ∈ sightings tag runs) :
    ∃ digits, AreDigits digits ∧ sighting = .ofDigits tag sighting.place digits ∧
      Spells contents sighting.place (markerChars tag.toList digits) := by
  obtain ⟨run, inside, found⟩ := List.mem_flatMap.mp member
  obtain ⟨marker, scanned, rfl⟩ := List.mem_map.mp found
  obtain ⟨place, _, offset, here⟩ := markersFrom_sound scanned
  obtain ⟨digits, rest, all, text, values, length⟩ := markerAt?_eq_some.mp here
  rw [Nat.zero_add] at offset
  refine ⟨digits, all, ?_, ?_⟩
  · simp [Sighting.ofDigits, offset, text, values, length]
  · have spelled := runsOf.spelled run inside
    rw [← List.take_append_drop place run.text.toList, text] at spelled
    rw [offset]
    exact spelled.take_drop.start

/-- Every marker of the body in which no run is cut is come across. -/
theorem sightings_complete (plain : IsPlainTag tag.toList) (runsOf : RunsOf contents runs) {place : Nat}
    {digits : List Char} (all : AreDigits digits) (spells : Spells contents place (markerChars tag.toList digits))
    (whole : InOneRun runs place (markerChars tag.toList digits)) :
    Sighting.ofDigits tag place digits ∈ sightings tag runs := by
  obtain ⟨run, inside, from_start, to_stop⟩ := whole
  obtain ⟨steps, rfl⟩ := Nat.exists_eq_add_of_le from_start
  obtain ⟨more, body⟩ := runsOf.spelled run inside
  have split : ∃ front back, textContents run.text.toList =
      front ++ (textContents (markerChars tag.toList digits) ++ back) ∧ front.length = steps := by
    have size := length_textContents run.text.toList
    rw [Text.units] at to_stop
    rw [Spells, ← List.drop_drop, ← body, List.drop_append_of_le_length (by omega)] at spells
    have within := List.prefix_of_prefix_length_le spells (List.prefix_append _ _)
      (by rw [length_textContents, List.length_drop]; omega)
    obtain ⟨back, same⟩ := within
    refine ⟨(textContents run.text.toList).take steps, back, ?_, ?_⟩
    · rw [same, List.take_append_drop]
    · rw [List.length_take]
      omega
  obtain ⟨front, back, parts, length⟩ := split
  obtain ⟨left, right, text, same⟩ := textContents_aligned (by simp [markerChars, opener]) parts
  have before : Text.listUnits left = steps := by
    rw [← length_textContents, same, length]
  have scanned : ⟨0 + left.length, digitValues digits, (markerChars tag.toList digits).length⟩ ∈
      markersFrom tag.toList 0 0 run.text.toList := by
    refine markersFrom_complete plain (fun _ less => absurd less (Nat.not_lt_zero _)) ?_
    rw [text, List.drop_append_length]
    exact markerAt?_marker tag.toList all right
  refine List.mem_flatMap.mpr ⟨run, inside, List.mem_map.mpr ⟨_, scanned, ?_⟩⟩
  simp [Sighting.ofDigits, text, before]

private theorem listUnits_take_lt {text : List Char} {first second : Nat} (less : first < second) (inside : first < text.length) :
    Text.listUnits (text.take first) < Text.listUnits (text.take second) := by
  have split : text.take second = text.take first ++ (text.drop first).take (second - first) := by
    rw [← List.take_add, Nat.add_sub_cancel' (Nat.le_of_lt less)]
  have positive : 0 < Text.listUnits ((text.drop first).take (second - first)) := by
    rw [Nat.pos_iff_ne_zero, ne_eq, Text.listUnits_eq_zero, ← List.length_eq_zero_iff, List.length_take,
      List.length_drop]
    omega
  rw [split, Text.listUnits_append]
  omega

private theorem marker_inside {text : List Char} {marker : FoundMarker} (scanned : marker ∈ markersFrom tag.toList 0 0 text) :
    marker.offset < text.length := by
  obtain ⟨place, _, offset, here⟩ := markersFrom_sound scanned
  obtain ⟨digits, rest, _, same, _⟩ := markerAt?_eq_some.mp here
  have size := congrArg List.length same
  rw [List.length_drop, List.length_append, length_markerChars] at size
  omega

private theorem sighting_inside {run : TextRun} {sighting : Sighting} (member : sighting ∈ sightingsIn tag run) :
    run.start ≤ sighting.place ∧ sighting.place < run.start + Text.units run.text := by
  obtain ⟨marker, scanned, rfl⟩ := List.mem_map.mp member
  have inside := marker_inside scanned
  have less := listUnits_take_lt inside inside
  rw [List.take_length] at less
  simp only [Text.units]
  omega

theorem sightings_ordered (runsOf : RunsOf contents runs) :
    (sightings tag runs).Pairwise fun first second => first.place < second.place := by
  rw [sightings, List.flatMap_def, List.pairwise_flatten]
  constructor
  · intro found member
    obtain ⟨run, _, rfl⟩ := List.mem_map.mp member
    rw [sightingsIn, List.pairwise_map]
    refine (markersFrom_ordered tag.toList 0 0 run.text.toList).imp_of_mem fun scanned _ less => ?_
    have := listUnits_take_lt less (marker_inside scanned)
    simp only
    omega
  · rw [List.pairwise_map]
    refine runsOf.ordered.imp fun apart first memberFirst second memberSecond => ?_
    have := sighting_inside memberFirst
    have := sighting_inside memberSecond
    omega

end Sightings

section Adding
variable (count minIndex : Int)

def addSighting (ranges : MarkerRanges) (sighting : Sighting) : Outcome MarkerRanges :=
  match Text.digitsNat sighting.values with
  | .error (.tooLong digits) => .error (.tooManyDigits digits)
  | .error .malformed => .error (.badValue "")
  | .ok ordinal =>
    if count ≤ ordinal || (ranges.lookup (ordinal : Int)).isSome then .ok ranges
    else if (sighting.place : Int) < minIndex then .ok ranges
    else .ok (ranges ++ [((ordinal : Int), (sighting.place : Int), (sighting.place : Int) + sighting.units)])

private theorem addRun_eq (tag : String) (ranges : MarkerRanges) (run : TextRun) :
    addRun count minIndex tag.toList ranges run =
      (sightingsIn tag run).foldlM (addSighting count minIndex) ranges := by
  rw [sightingsIn, List.foldlM_map, addRun]
  congr 1
  funext ranges marker
  unfold addMarker addSighting
  cases Text.digitsNat marker.digits with
  | error fault => cases fault <;> rfl
  | ok ordinal =>
    have place : ((run.start + Text.listUnits (run.text.toList.take marker.offset) : Nat) : Int) =
        run.start + Text.listUnits (run.text.toList.take marker.offset) := Int.natCast_add _ _
    simp only [positionOf, bind, Except.bind, pure, Except.pure, place]

theorem foldlM_addRun (tag : String) (ranges : MarkerRanges) (runs : List TextRun) :
    runs.foldlM (addRun count minIndex tag.toList) ranges =
      (sightings tag runs).foldlM (addSighting count minIndex) ranges := by
  induction runs generalizing ranges with
  | nil => rfl
  | cons run runs ih =>
    rw [List.foldlM_cons, sightings, List.flatMap_cons, List.foldlM_append, addRun_eq]
    exact congrArg (Except.bind _) (funext fun ranges => ih ranges)

end Adding

end DocScribe.Docs
