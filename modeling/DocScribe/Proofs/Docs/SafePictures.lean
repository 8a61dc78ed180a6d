import DocScribe.Proofs.Docs.PicturePass
import DocScribe.Proofs.Docs.SafeWrites

/-! Putting pictures in the place of markers that are found in a document: whatever markers these are,
they stand apart and in front of the last line end, so that each is replaced at its place. -/

namespace DocScribe.Docs
open DocScribe Markdown Service Program

section Markers
variable {contents : List SlotContent} {tag : String} {place : Nat} {digits : List Char}

/-- A marker that starts behind the start of another one starts behind its end. -/
theorem Spells.marker_apart (plain : IsPlainTag tag.toList) (all : AreDigits digits) {behind : Nat} {others : List Char}
    (spells : Spells contents place (markerChars tag.toList digits))
    (other : Spells contents behind (markerChars tag.toList others)) (less : place < behind) :
    place + Text.listUnits (markerChars tag.toList digits) ≤ behind := by
  obtain ⟨back, whole⟩ := spells
  have bracket : textContents (markerChars tag.toList digits) =
      .code 91 :: textContents ((markerChars tag.toList digits).drop 1) := rfl
  have inside : place < contents.length := by
    have size := congrArg List.length whole
    rw [bracket, List.length_append, List.length_cons, List.length_drop] at size
    omega
  have split : contents = (contents.take place ++ [.code 91]) ++
      (textContents ((markerChars tag.toList digits).drop 1) ++ back) := by
    rw [bracket, List.cons_append] at whole
    rw [List.append_assoc, List.singleton_append, whole, List.take_append_drop]
  have starts : opening tag <+: contents.drop behind := by
    rw [markerChars] at other
    exact other.start
  have front : (contents.take place ++ [SlotContent.code 91]).length = place + 1 := by
    rw [List.length_append, List.length_take, List.length_singleton]
    omega
  rw [split] at starts
  have passed := (quiet_marker plain all.no_bracket).behind starts (by omega)
  have units := congrArg List.length bracket
  rw [length_textContents, List.length_cons] at units
  omega

/-- A marker does not reach to a last line end. -/
theorem Spells.marker_before (spells : Spells contents place (markerChars tag.toList digits))
    {front : List SlotContent} (ends : contents = front ++ [.code 10]) :
    place + Text.listUnits (markerChars tag.toList digits) < contents.length := by
  obtain ⟨back, whole⟩ := spells
  have more : back ≠ [] := by
    rintro rfl
    have bracket : textContents (markerChars tag.toList digits) =
        textContents (opener tag.toList ++ (digits ++ [']'])) ++ [.code 93] := by
      rw [← show textContents [']'] = [.code 93] from rfl, ← textContents_append]
      simp [markerChars]
    have closed := List.take_append_drop place contents
    rw [← whole, bracket, List.append_nil, ← List.append_assoc, ends] at closed
    have same := (List.append_inj' closed rfl).2
    cases same
  have size := congrArg List.length whole
  have some := List.length_pos_iff.mpr more
  rw [List.length_append, length_textContents, List.length_drop] at size
  omega

end Markers

/-- Ranges one behind the other, from `low` on and in front of the last slot. -/
structure Apart (low live : Int) (ranges : List (Int × Int)) : Prop where
  inside : ∀ range ∈ ranges, low ≤ range.1 ∧ range.1 < range.2 ∧ range.2 < live
  ordered : ranges.Pairwise fun first second => first.2 ≤ second.1

def Sighting.range (sighting : Sighting) : Int × Int := (sighting.place, sighting.place + sighting.units)

section Search
variable {count minIndex : Int} {tag : String}

private theorem foldlM_addSighting {sightings : List Sighting} {ranges found : MarkerRanges}
    (added : sightings.foldlM (addSighting count minIndex) ranges = .ok found) :
    ∃ taken : List Sighting, taken.Sublist sightings ∧ (∀ sighting ∈ taken, minIndex ≤ sighting.place) ∧
      found.map Prod.snd = ranges.map Prod.snd ++ taken.map Sighting.range := by
  induction sightings generalizing ranges with
  | nil =>
    cases added
    exact ⟨[], List.Sublist.slnil, List.forall_mem_nil _, by simp⟩
  | cons sighting sightings ih =>
    rw [List.foldlM_cons, addSighting] at added
    have passed (rest : sightings.foldlM (addSighting count minIndex) ranges = .ok found) :
        ∃ taken : List Sighting, taken.Sublist (sighting :: sightings) ∧ (∀ sighting ∈ taken, minIndex ≤ sighting.place) ∧
          found.map Prod.snd = ranges.map Prod.snd ++ taken.map Sighting.range := by
      obtain ⟨taken, among, behind, same⟩ := ih rest
      exact ⟨taken, among.cons _, behind, same⟩
    split at added
    · cases added
    · cases added
    · split at added
      · exact passed added
      · split at added
        · exact passed added
        next behind =>
          obtain ⟨taken, among, others, same⟩ := ih added
          refine ⟨sighting :: taken, among.cons_cons _, List.forall_mem_cons.mpr ⟨by omega, others⟩, ?_⟩
          rw [same]
          simp [Sighting.range]

/-- The markers that are found in a document stand apart in its body. -/
theorem findMarkers_apart {document : Json} {body : LiveBody} {found : MarkerRanges} (plain : IsPlainTag tag.toList)
    (ends : body.EndsInLine) (shows : Shows document body)
    (searched : findMarkers document count tag minIndex = .ok found) :
    Apart minIndex body.length (found.map Prod.snd) := by
  by_cases positive : 0 < count
  · obtain ⟨runs, shown, runsOf⟩ := shows.texts
    obtain ⟨front, -, last⟩ := ends
    rw [findMarkers_shows count minIndex shown tag positive, foldlM_addRun] at searched
    obtain ⟨taken, among, behind, same⟩ := foldlM_addSighting searched
    rw [same, List.map_nil, List.nil_append]
    have spelled : ∀ sighting ∈ taken, ∃ digits, AreDigits digits ∧ sighting = .ofDigits tag sighting.place digits ∧
        Spells body.contents sighting.place (markerChars tag.toList digits) :=
      fun sighting member => sightings_sound runsOf (among.subset member)
    have units {place : Nat} {digits : List Char} :
        (Sighting.ofDigits tag place digits).units = Text.listUnits (markerChars tag.toList digits) := rfl
    constructor
    · refine List.forall_mem_map.mpr fun sighting member => ?_
      obtain ⟨digits, all, named, spells⟩ := spelled sighting member
      have before := spells.marker_before last
      have some := Text.length_le_listUnits (markerChars tag.toList digits)
      rw [length_markerChars] at some
      rw [LiveBody.length_contents] at before
      refine ⟨behind sighting member, ?_, ?_⟩
      · rw [Sighting.range, named, units]
        simp only
        omega
      · rw [Sighting.range, named, units]
        simp only [Sighting.ofDigits]
        omega
    · rw [List.pairwise_map]
      refine ((sightings_ordered runsOf).sublist among).imp_of_mem fun memberFirst memberSecond less => ?_
      obtain ⟨digits, all, named, spells⟩ := spelled _ memberFirst
      obtain ⟨others, -, -, other⟩ := spelled _ memberSecond
      have apart := spells.marker_apart plain all other less
      rw [Sighting.range, Sighting.range, named, units]
      simp only [Sighting.ofDigits]
      omega
  · rw [findMarkers, if_pos (by omega)] at searched
    cases searched
    exact ⟨List.forall_mem_nil _, List.Pairwise.nil⟩

end Search

/-- The last marker is replaced first, and so the others stay where they were found. -/
theorem imageEdits_fits {low live : Int} {ranges : MarkerRanges} (apart : Apart low live (ranges.map Prod.snd))
    (positive : 1 ≤ low) (urls : ImageUrls) : Fits live (imageEdits ranges urls) := by
  obtain ⟨inside, ordered⟩ := apart
  rw [List.forall_mem_map] at inside
  rw [List.pairwise_map] at ordered
  have ascending : ranges.Pairwise fun first second => first.2.1 < second.2.1 := by
    refine ordered.imp_of_mem fun member _ before => ?_
    have := inside _ member
    omega
  have backwards := List.pairwise_reverse.mpr ordered
  have among : ∀ range ∈ ranges.reverse, low ≤ range.2.1 ∧ range.2.1 < range.2.2 ∧ range.2.2 < live :=
    fun range member => inside range (List.mem_reverse.mp member)
  rw [imageEdits, mergeSort_ranges ascending]
  clear inside ordered ascending
  generalize ranges.reverse = descending at backwards among ⊢
  induction descending generalizing live with
  | nil => trivial
  | cons range rest ih =>
    obtain ⟨ordinal, start, stop⟩ := range
    obtain ⟨front, others⟩ := List.forall_mem_cons.mp among
    obtain ⟨before, apart⟩ := List.pairwise_cons.mp backwards
    simp only at front before
    simp only [List.flatMap_cons]
    split
    · split
      · exact ih apart others
      next url _ written =>
        have fits : Fits live [.deleteRange start stop, .insertImage start url] := by
          refine ⟨⟨by omega, by omega, by omega⟩, ⟨by omega, ?_, by simpa using written⟩, trivial⟩
          simp only [Edit.growth]
          omega
        refine fits_append fits (ih apart fun other member => ?_)
        have := others other member
        have := before other member
        simp only [growthOf_cons, growthOf_nil, Edit.growth]
        omega
    · exact ih apart others

namespace ImageInserter
variable {inserter : ImageInserter} {documents : Documents}

private theorem deleteAll_asks (uploaded : List Identifier) : (Drive.deleteAll uploaded).Asks (·.writes = false) := by
  induction uploaded with
  | nil => exact .pure
  | cons fileId uploaded ih => exact .ask rfl fun reply => ih.bind fun deleted => .pure

private theorem replaceMarkers_safe {live : Int} {markers : MarkerRanges} {urls : ImageUrls}
    (held : Held inserter.documentId live documents) (fits : Fits live (imageEdits markers urls)) :
    SafeAction (fun _ _ => True) documents (inserter.replaceMarkers markers urls) := by
  unfold replaceMarkers
  dsimp only
  split
  · exact SafeAction.pure trivial
  · refine (held.edit fits).outcome.bind fun outcome after _ => ?_
    cases outcome with
    | ok receipt => exact SafeAction.pure trivial
    | error cause => exact SafeAction.throw _

private theorem insertAll_safe {images : List DeferredImage} {minIndex : Int}
    (ends : (documents inserter.documentId).EndsInLine) (positive : 1 ≤ minIndex)
    (plain : ∀ image ∈ images, IsPlainTag image.tag.toList) (pending : List Identifier) :
    Safe (fun _ _ => True) documents (inserter.insertAll images minIndex pending) := by
  unfold insertAll
  split
  · exact .pure trivial
  next first rest =>
    have located : SafeAction (fun markers after => after = documents ∧
          Apart minIndex (documents inserter.documentId).length (markers.map Prod.snd)) documents
        (inserter.locateMarkers (first :: rest).length first.tag minIndex) := by
      refine (SafeAction.view _).bind fun document after shown => ?_
      obtain ⟨rfl, shows⟩ := shown
      exact SafeAction.ofOutcome fun markers searched =>
        ⟨rfl, findMarkers_apart (plain first List.mem_cons_self) ends shows searched⟩
    refine Safe.bind located fun outcome after done => ?_
    cases outcome with
    | error fault => exact .pure trivial
    | ok markers =>
      obtain ⟨rfl, apart⟩ := done markers rfl
      have inserted : Safe (fun _ _ => True) after (inserter.insertFound (first :: rest) markers pending) := by
        have resolved := (inserter.urlsOf_asks markers (first :: rest) [] pending).mono fun _ => And.right
        refine Safe.bind (.still resolved) fun value finished same => ?_
        subst same
        obtain ⟨outcome, uploaded⟩ := value
        cases outcome with
        | error fault => exact .pure trivial
        | ok urls =>
          have held : Held inserter.documentId (finished inserter.documentId).length finished := ⟨ends, rfl⟩
          refine Safe.bind (replaceMarkers_safe held (imageEdits_fits apart positive urls)) fun _ _ _ => ?_
          exact .pure trivial
      refine inserted.bind fun value finished _ => ?_
      refine Safe.bind (.still (deleteAll_asks value.2)) fun _ _ _ => ?_
      exact .pure trivial

end ImageInserter

namespace WriteTarget
variable {target : WriteTarget} {elements : List Element} {documents : Documents} {live stop : Int}

private theorem insertImages_safe (ends : (documents target.documentId).EndsInLine) (positive : 1 ≤ target.baseIndex)
    (report : Nat → WriteReport) :
    SafeAction (fun _ _ => True) documents (do
      let inserter : ImageInserter :=
        { documentId := target.documentId, hasDrive := target.hasDrive
          markdownPath := target.markdownPath, folder := target.imageFolder }
      let inserted ← ExceptT.lift
        (inserter.insertAll (compile elements target.baseIndex).images target.baseIndex [])
      let images ← Action.ofOutcome inserted.1
      return report images) := by
  have plain : ∀ image ∈ (compile elements target.baseIndex).images, IsPlainTag image.tag.toList := by
    intro image member
    rw [compile_images] at member
    obtain ⟨place, -, found⟩ := List.mem_filterMap.mp member
    obtain ⟨-, -, -, -, tagged⟩ := imageOf?_eq_some _ found
    rw [tagged]
    exact compile_plain elements target.baseIndex
  refine (SafeAction.lift (ImageInserter.insertAll_safe ends positive plain [])).bind fun inserted after _ => ?_
  obtain ⟨outcome, uploaded⟩ := inserted
  cases outcome with
  | error fault => exact SafeAction.throw fault
  | ok images => exact SafeAction.pure trivial

/-- A text that goes in in front of the last line end, behind edits that are valid themselves. -/
theorem write_safe (held : Held target.documentId live documents) (positive : 1 ≤ target.baseIndex)
    (inside : target.baseIndex < stop) (known : target.endIndex = some stop) (fits : Fits live target.preamble)
    (enough : stop ≤ live + growthOf target.preamble) (markdown : String) :
    SafeAction (fun _ _ => True) documents (target.write markdown) := by
  unfold write
  dsimp only
  generalize Markdown.parse markdown = elements
  obtain ⟨written, growth⟩ : Fits (live + growthOf target.preamble) (compile elements target.baseIndex).edits ∧ _ :=
    compiled_fits positive (by omega)
  have batch := fits_append fits written
  have behind (after : Documents) (grown : Held target.documentId
        (live + growthOf (target.preamble ++ (compile elements target.baseIndex).edits)) after)
      (report : Nat → WriteReport) :
      SafeAction (fun _ _ => True) after (do
        target.insertTables (compile elements target.baseIndex)
        let inserter : ImageInserter :=
          { documentId := target.documentId, hasDrive := target.hasDrive
            markdownPath := target.markdownPath, folder := target.imageFolder }
        let inserted ← ExceptT.lift
          (inserter.insertAll (compile elements target.baseIndex).images target.baseIndex [])
        let images ← Action.ofOutcome inserted.1
        return report images) := by
    refine SafeAction.bind (insertTables_safe grown inside known ?_) fun _ finished ends => ?_
    · rw [growthOf_append, growth]
      omega
    · exact insertImages_safe ends positive report
  split
  · exact (held.edit batch).bind fun _ after grown => behind after grown _
  next none =>
    refine behind documents ?_ _
    have empty : target.preamble ++ (compile elements target.baseIndex).edits = [] := by simpa using none
    rw [empty]
    simpa using held

end WriteTarget

end DocScribe.Docs
