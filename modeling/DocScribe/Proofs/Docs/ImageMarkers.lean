import DocScribe.Proofs.Docs.MarkerSearch

/-! The markers of a compiled text in a live document. A marker with too many digits ends the search
wherever it stands; without one, markers before the base index are passed over, each image is found at its
place, and what comes behind the text has numbers that are found already, or too great. -/

namespace DocScribe.Docs
open DocScribe Markdown

def markerRange (tag : String) (image : Nat × Nat) : Int × Int × Int :=
  (image.1, image.2, image.2 + Text.units (imageMarker image.1 tag))

def imageSighting (tag : String) (image : Nat × Nat) : Sighting := .ofDigits tag image.2 (Nat.toDigits 10 image.1)

section Numbers

private theorem digitValue?_digit {c : Char} (digit : c.isDigit = true) :
    Text.digitValue? c = some (c.toNat - '0'.toNat) := by
  have small : c.toNat < 0x80 := by
    simp only [Char.isDigit, Bool.and_eq_true, decide_eq_true_eq, UInt32.le_iff_toNat_le] at digit
    change 48 ≤ c.toNat ∧ c.toNat ≤ 57 at digit
    omega
  simp [Text.digitValue?, small, digit]

private theorem toDigits_digit {n : Nat} {c : Char} (member : c ∈ Nat.toDigits 10 n) : c.isDigit = true :=
  Nat.isDigit_of_mem_toDigits (by decide) (by decide) member

theorem areDigits_toDigits (n : Nat) : AreDigits (Nat.toDigits 10 n) :=
  ⟨Nat.toDigits_ne_nil, fun c member => by rw [Text.isDigit, digitValue?_digit (toDigits_digit member)]; rfl⟩

private theorem ofDigits_toDigits (n : Nat) : Text.ofDigits (digitValues (Nat.toDigits 10 n)) = n := by
  have values : digitValues (Nat.toDigits 10 n) = (Nat.toDigits 10 n).map fun c => c.toNat - '0'.toNat := by
    rw [digitValues, ← List.filterMap_eq_map]
    exact List.filterMap_congr fun c member => digitValue?_digit (toDigits_digit member)
  have number := Nat.ofDigitChars_ten_toDigits (n := n)
  rw [Nat.ofDigitChars_eq_foldl] at number
  rw [values]
  simpa [Text.ofDigits, List.foldl_map, Nat.mul_comm] using number

theorem digitsNat_short {values : List Nat} (short : values.length ≤ Text.maxDigits) :
    Text.digitsNat values = .ok (Text.ofDigits values) := by
  rw [Text.digitsNat, if_neg (by omega)]

end Numbers

section Folding
variable {tag : String} {count : Int} {base : Nat}

private theorem addSighting_before {sighting : Sighting} (short : sighting.values.length ≤ Text.maxDigits)
    (before : sighting.place < base) (ranges : MarkerRanges) : addSighting count base ranges sighting = .ok ranges := by
  rw [addSighting, digitsNat_short short]
  simp only
  split
  · rfl
  · rw [if_pos (by omega)]

private theorem addSighting_known {sighting : Sighting} (short : sighting.values.length ≤ Text.maxDigits)
    {ranges : MarkerRanges}
    (known : count ≤ Text.ofDigits sighting.values ∨ (ranges.lookup (Text.ofDigits sighting.values : Int)).isSome = true) :
    addSighting count base ranges sighting = .ok ranges := by
  rw [addSighting, digitsNat_short short]
  simp only
  rw [if_pos (by simpa using known)]

private theorem addSighting_image {image : Nat × Nat} (short : (Nat.toDigits 10 image.1).length ≤ Text.maxDigits)
    (inside : (image.1 : Int) < count) (behind : base ≤ image.2) {ranges : MarkerRanges}
    (fresh : ranges.lookup (image.1 : Int) = none) :
    addSighting count base ranges (imageSighting tag image) = .ok (ranges ++ [markerRange tag image]) := by
  have values : (imageSighting tag image).values = digitValues (Nat.toDigits 10 image.1) := rfl
  have place : (imageSighting tag image).place = image.2 := rfl
  have units : (imageSighting tag image).units = Text.units (imageMarker image.1 tag) := by
    rw [Text.units, toList_imageMarker]
    rfl
  rw [addSighting, digitsNat_short (by rw [values, length_digitValues (areDigits_toDigits image.1).2]; exact short)]
  simp only [values, ofDigits_toDigits, place, units, fresh]
  rw [if_neg (by simpa using inside), if_neg (by omega)]
  rfl

private theorem foldlM_before {found : List Sighting} (short : ∀ sighting ∈ found, sighting.values.length ≤ Text.maxDigits)
    (ranges : MarkerRanges) :
    found.foldlM (addSighting count base) ranges =
      (found.filter fun sighting => base ≤ sighting.place).foldlM (addSighting count base) ranges := by
  induction found generalizing ranges with
  | nil => rfl
  | cons sighting found ih =>
    have later := fun ranges => ih (fun other member => short other (by simp [member])) ranges
    rw [List.foldlM_cons, List.filter_cons]
    by_cases before : sighting.place < base
    · rw [addSighting_before (short sighting (by simp)) before, if_neg (by simpa using before)]
      exact later ranges
    · rw [if_pos (by simpa using before), List.foldlM_cons]
      exact congrArg (Except.bind _) (funext later)

private theorem foldlM_images {images : List (Nat × Nat)} {first : Nat}
    (ordinals : images.map Prod.fst = List.range' first images.length)
    (short : ∀ image ∈ images, (Nat.toDigits 10 image.1).length ≤ Text.maxDigits)
    (enough : ((first + images.length : Nat) : Int) ≤ count) (behind : ∀ image ∈ images, base ≤ image.2)
    {ranges : MarkerRanges} (fresh : ∀ ordinal : Nat, first ≤ ordinal → ranges.lookup (ordinal : Int) = none) :
    (images.map (imageSighting tag)).foldlM (addSighting count base) ranges =
      .ok (ranges ++ images.map (markerRange tag)) := by
  induction images generalizing first ranges with
  | nil => simp [pure, Except.pure]
  | cons image images ih =>
    rw [List.map_cons, List.length_cons, List.range'_succ, List.cons.injEq] at ordinals
    obtain ⟨rfl, ordinals⟩ := ordinals
    rw [List.length_cons] at enough
    rw [List.map_cons, List.foldlM_cons, addSighting_image (short image (by simp)) (by omega) (behind image (by simp))
      (fresh image.1 (Nat.le_refl _))]
    have freshLater : ∀ ordinal : Nat, image.1 + 1 ≤ ordinal →
        (ranges ++ [markerRange tag image]).lookup (ordinal : Int) = none := by
      intro ordinal later
      have other : (ordinal : Int) ≠ image.1 := by omega
      rw [List.lookup_append, fresh ordinal (by omega), Option.none_or, markerRange, List.lookup_cons,
        beq_false_of_ne other]
      rfl
    have rest := ih ordinals (fun other member => short other (by simp [member])) (by push_cast at enough ⊢; omega)
      (fun other member => behind other (by simp [member])) freshLater
    rw [List.append_assoc] at rest
    exact rest

private theorem foldlM_known {found : List Sighting} (short : ∀ sighting ∈ found, sighting.values.length ≤ Text.maxDigits)
    {ranges : MarkerRanges} (known : ∀ ordinal : Nat, (ordinal : Int) < count → (ranges.lookup (ordinal : Int)).isSome = true) :
    found.foldlM (addSighting count base) ranges = .ok ranges := by
  induction found with
  | nil => rfl
  | cons sighting found ih =>
    have here : addSighting count base ranges sighting = .ok ranges := by
      refine addSighting_known (short sighting (by simp)) ?_
      rcases Int.lt_or_le (Text.ofDigits sighting.values) count with less | most
      · exact .inr (known _ less)
      · exact .inl most
    rw [List.foldlM_cons, here]
    exact ih fun other member => short other (by simp [member])

private theorem foldlM_long {found : List Sighting} {long : Sighting} (member : long ∈ found)
    (tooLong : Text.maxDigits < long.values.length) (ranges : MarkerRanges) :
    ∃ digits, found.foldlM (addSighting count base) ranges = .error (.tooManyDigits digits) := by
  induction found generalizing ranges with
  | nil => simp at member
  | cons sighting found ih =>
    rw [List.foldlM_cons]
    by_cases here : Text.maxDigits < sighting.values.length
    · refine ⟨sighting.values.length, ?_⟩
      have fault : addSighting count base ranges sighting = .error (.tooManyDigits sighting.values.length) := by
        rw [addSighting, Text.digitsNat, if_pos here]
      rw [fault]
      rfl
    · have behind : long ∈ found := by
        rcases List.mem_cons.mp member with rfl | inside
        · exact absurd tooLong here
        · exact inside
      have value : ∃ next, addSighting count base ranges sighting = .ok next := by
        rw [addSighting, digitsNat_short (by omega)]
        simp only
        split
        · exact ⟨_, rfl⟩
        · split <;> exact ⟨_, rfl⟩
      obtain ⟨next, same⟩ := value
      rw [same]
      exact ih behind next

end Folding

section Finding
variable {shape : Grid → List SlotContent} {tag : String} {elements : List Element} {before after : List SlotContent}
  {document : Json} {runs : List TextRun}

private theorem filter_split {found : List Sighting} (ordered : found.Pairwise fun first second => first.place < second.place)
    (stop : Nat) :
    found = (found.filter fun sighting => sighting.place < stop) ++
      found.filter fun sighting => stop ≤ sighting.place := by
  induction found with
  | nil => rfl
  | cons sighting found ih =>
    obtain ⟨later, ordered⟩ := List.pairwise_cons.mp ordered
    have least : ∀ other ∈ sighting :: found, sighting.place ≤ other.place :=
      List.forall_mem_cons.mpr ⟨Nat.le_refl _, fun other behind => Nat.le_of_lt (later other behind)⟩
    by_cases inside : sighting.place < stop
    · have notBehind : ¬ stop ≤ sighting.place := by omega
      simp only [List.filter_cons, decide_eq_true_eq, inside, notBehind, ↓reduceIte, List.cons_append]
      rw [← ih ordered]
    · have none : (sighting :: found).filter (fun sighting => sighting.place < stop) = [] := by
        rw [List.filter_eq_nil_iff]
        intro other member
        have := least other member
        simp only [decide_eq_true_eq]
        omega
      have all : (sighting :: found).filter (fun sighting => stop ≤ sighting.place) = sighting :: found := by
        rw [List.filter_eq_self]
        intro other member
        have := least other member
        simp only [decide_eq_true_eq]
        omega
      rw [none, all, List.nil_append]

private theorem sightings_short {contents : List SlotContent} (runsOf : RunsOf contents runs)
    (short : ¬ HasLongMarker tag contents) {sighting : Sighting} (member : sighting ∈ sightings tag runs) :
    sighting.values.length ≤ Text.maxDigits := by
  obtain ⟨digits, all, same, spells⟩ := sightings_sound runsOf member
  have size : sighting.values.length = digits.length := by
    rw [same]
    exact length_digitValues all.2
  rw [size]
  exact Nat.not_lt.mp fun long => short ⟨_, digits, all, long, spells⟩

/-- The ordinals of the images are short when no marker has too many digits. -/
theorem imagePlaces_short (short : ¬ HasLongMarker tag (before ++ (laidOut shape tag (parts elements) ++ after))) :
    ∀ image ∈ imagePlaces shape tag before.length (parts elements), (Nat.toDigits 10 image.1).length ≤ Text.maxDigits := by
  intro image member
  have own := marker_at shape tag before after member
  rw [toList_imageMarker] at own
  exact Nat.not_lt.mp fun long => short ⟨_, _, areDigits_toDigits image.1, long, own⟩

/-- Of the markers that the search comes across, those that start among the elements are their images. -/
theorem sightings_images (shapes : QuietShape shape tag) (plain : IsPlainTag tag.toList) (unused : Unused tag elements)
    (runsOf : RunsOf (before ++ (laidOut shape tag (parts elements) ++ after)) runs)
    (whole : ∀ image ∈ imagePlaces shape tag before.length (parts elements),
      InOneRun runs image.2 (imageMarker image.1 tag).toList) :
    ((sightings tag runs).filter fun sighting => before.length ≤ sighting.place).filter
        (fun sighting => sighting.place < before.length + (laidOut shape tag (parts elements)).length) =
      (imagePlaces shape tag before.length (parts elements)).map (imageSighting tag) := by
  have irreflexive : Std.Irrefl fun first second : Sighting => first.place < second.place :=
    ⟨fun sighting => Nat.lt_irrefl sighting.place⟩
  have antisymmetric : Std.Antisymm fun first second : Sighting => first.place < second.place :=
    ⟨fun first second less more => absurd less (Nat.lt_asymm more)⟩
  obtain ⟨ordered, inside⟩ := imagePlaces_inside shape tag before.length (parts elements)
  refine List.Pairwise.eq_of_mem_iff (((sightings_ordered runsOf).filter _).filter _)
    (List.pairwise_map.mpr ordered) fun sighting => ?_
  simp only [List.mem_filter, decide_eq_true_eq, List.mem_map]
  constructor
  · rintro ⟨⟨member, behind⟩, among⟩
    obtain ⟨digits, all, same, spells⟩ := sightings_sound runsOf member
    have starts : opening tag <+: (before ++ (laidOut shape tag (parts elements) ++ after)).drop sighting.place :=
      spells.start
    rcases opening_at shapes plain [] unused starts behind with here | passed
    · obtain ⟨image, there, place⟩ := List.mem_map.mp here
      have own := marker_at shape tag before after there
      rw [toList_imageMarker, place] at own
      obtain rfl := spells.marker_unique all (areDigits_toDigits image.1) own
      exact ⟨image, there, by rw [imageSighting, place, ← same]⟩
    · exact absurd passed (by rw [← parts]; omega)
  · rintro ⟨image, there, rfl⟩
    have own := marker_at shape tag before after there
    have cut := whole image there
    obtain ⟨from_start, to_stop⟩ := inside image there
    rw [toList_imageMarker] at own cut
    refine ⟨⟨sightings_complete plain runsOf (areDigits_toDigits image.1) own cut, from_start⟩, ?_⟩
    have positive := imageMarker_pos tag image.1
    change image.2 < _
    omega

/-- The search finds the images among laid out elements, each at its place, and nothing else. -/
theorem findMarkers_laidOut (shapes : QuietShape shape tag) (plain : IsPlainTag tag.toList) (unused : Unused tag elements)
    (shows : DocumentShows document runs)
    (runsOf : RunsOf (before ++ (laidOut shape tag (parts elements) ++ after)) runs)
    (whole : ∀ image ∈ imagePlaces shape tag before.length (parts elements),
      InOneRun runs image.2 (imageMarker image.1 tag).toList)
    (short : ¬ HasLongMarker tag (before ++ (laidOut shape tag (parts elements) ++ after))) :
    findMarkers document (imagesIn elements) tag before.length =
      .ok ((imagePlaces shape tag before.length (parts elements)).map (markerRange tag)) := by
  have ordinals := imagePlaces_ordinals shape tag [] before.length elements
  have length := congrArg List.length ordinals
  rw [List.length_map, List.length_range'] at length
  rcases Nat.eq_zero_or_pos (imagesIn elements) with none | some
  · rw [none] at length ⊢
    rw [parts, List.length_eq_zero_iff.mp length]
    rfl
  · have shortFound : ∀ sighting ∈ sightings tag runs, sighting.values.length ≤ Text.maxDigits :=
      fun sighting member => sightings_short runsOf short member
    have shortBehind : ∀ sighting ∈ (sightings tag runs).filter fun sighting => before.length ≤ sighting.place,
        sighting.values.length ≤ Text.maxDigits :=
      fun sighting member => shortFound sighting (List.mem_filter.mp member).1
    have numbered : (imagePlaces shape tag before.length (parts elements)).map Prod.fst =
        List.range' 0 (imagePlaces shape tag before.length (parts elements)).length := by
      rw [parts, ordinals, length]
      rfl
    have behind := fun image member => ((imagePlaces_inside shape tag before.length (parts elements)).2 image member).1
    rw [findMarkers_shows _ _ shows tag (by omega), foldlM_addRun, foldlM_before shortFound,
      filter_split ((sightings_ordered runsOf).filter _) (before.length + (laidOut shape tag (parts elements)).length),
      sightings_images shapes plain unused runsOf whole, List.foldlM_append,
      foldlM_images numbered (imagePlaces_short short)
        (by rw [parts, length]; omega) behind (fun _ _ => rfl)]
    refine foldlM_known (fun sighting member => shortBehind sighting (List.mem_filter.mp member).1) fun ordinal less => ?_
    have member : ordinal ∈ (imagePlaces shape tag before.length (parts elements)).map Prod.fst := by
      rw [parts, ordinals, List.mem_range'_1]
      exact ⟨Nat.zero_le _, by have : imagesIn [] = 0 := rfl; omega⟩
    obtain ⟨image, there, rfl⟩ := List.mem_map.mp member
    rw [List.nil_append, List.lookup_isSome_iff]
    exact ⟨markerRange tag image, List.mem_map_of_mem there, by simp [markerRange]⟩

/-- Where a body holds a marker with too many digits, the search for images fails, even if the marker
stands before the base index. -/
theorem findMarkers_long {contents : List SlotContent} (count : Int) (positive : 0 < count)
    (plain : IsPlainTag tag.toList) (shows : DocumentShows document runs) (runsOf : RunsOf contents runs)
    (whole : ∀ place digits, AreDigits digits → Spells contents place (markerChars tag.toList digits) →
      InOneRun runs place (markerChars tag.toList digits))
    (long : HasLongMarker tag contents) (base : Nat) :
    ∃ digits, findMarkers document count tag base = .error (.tooManyDigits digits) := by
  obtain ⟨place, digits, all, tooLong, spells⟩ := long
  rw [findMarkers_shows _ _ shows tag positive, foldlM_addRun]
  refine foldlM_long (sightings_complete plain runsOf all spells (whole place digits all spells)) ?_ []
  rw [← length_digitValues all.2] at tooLong
  exact tooLong

end Finding

end DocScribe.Docs
