import DocScribe.Proofs.Docs.ImageMarkers
import DocScribe.Proofs.Docs.ShownBody

/-! The compiler writes a marker for each image, and the search finds them in the live document, whatever
stands around the text and however the runs are cut. -/

namespace DocScribe.Docs
open DocScribe Markdown

/-- What tells an image of a compiled text: its number, its offset and its marker. -/
def DeferredImage.noted (image : DeferredImage) : Int × Int × String := (image.ordinal, image.offset, image.marker)

private theorem noted_images (tag : String) (base : Int) (start : Nat) (parts : List Part) :
    ((placed tag (base + start) parts).filterMap (imageOf? tag)).map DeferredImage.noted =
      (imagePlaces anchorShape tag start parts).map fun image =>
        ((image.1 : Int), base + image.2, imageMarker image.1 tag) := by
  induction parts generalizing start with
  | nil => rfl
  | cons part parts ih =>
    have behind : base + start + part.units tag = base + (start + (part.contents anchorShape tag).length : Nat) := by
      cases part <;>
        simp [Part.units, Part.contents, Part.chars, anchorShape, Text.charUnits, tableAnchor, Int.add_assoc]
    rw [placed_cons, List.filterMap_cons, behind]
    cases part with
    | text chars style | table cells => exact ih _
    | image ordinal source isRemote alt =>
      rw [imagePlaces, List.map_cons, ← ih]
      rfl

section Compiled
variable (elements : List Element) (base : Int)

theorem noted_compile : (compile elements base).images.map DeferredImage.noted =
    (imagePlaces anchorShape (compile elements base).tag 0 (parts elements)).map fun image =>
      ((image.1 : Int), base + image.2, imageMarker image.1 (compile elements base).tag) := by
  have places := noted_images (compile elements base).tag base 0 (parts elements)
  rw [Int.natCast_zero, Int.add_zero] at places
  rw [compile_images]
  exact places

theorem compile_ordinals : (compile elements base).images.map DeferredImage.ordinal =
    (List.range (imagesIn elements)).map fun ordinal : Nat => (ordinal : Int) := by
  have same := congrArg (List.map fun found : Int × Int × String => found.1) (noted_compile elements base)
  rw [List.map_map, List.map_map] at same
  have ordinals : (imagePlaces anchorShape (compile elements base).tag 0 (parts elements)).map Prod.fst =
      List.range' 0 (imagesIn elements) := imagePlaces_ordinals anchorShape _ [] 0 elements
  rw [List.range_eq_range', ← ordinals, List.map_map]
  exact same

theorem length_compile_images : (compile elements base).images.length = imagesIn elements := by
  have same := congrArg List.length (compile_ordinals elements base)
  simpa using same

/-- The images of a text that is compiled for a place in a body stand at their places in the body. -/
theorem noted_compile_at (start : Nat) : (compile elements start).images.map DeferredImage.noted =
    (imagePlaces anchorShape (compile elements start).tag start (parts elements)).map fun image =>
      ((image.1 : Int), (image.2 : Int), imageMarker image.1 (compile elements start).tag) := by
  have places := noted_images (compile elements start).tag 0 start (parts elements)
  simp only [Int.zero_add] at places
  rw [compile_images]
  exact places

end Compiled

/-- A compiled text stands at an index of a body, between any earlier and later contents. If the runs of the
document hold the texts of the body at the indices that they state, no marker of an image is cut, and no
marker has more digits than are read, then the search from that index on finds exactly the images, in order,
each in the range of its marker. -/
theorem findMarkers_compile {elements : List Element} {before after : List SlotContent} {document : Json}
    {runs : List TextRun} (shows : DocumentShows document runs)
    (runsOf : RunsOf (before ++ (textContents (compile elements before.length).text.toList ++ after)) runs)
    (whole : ∀ image ∈ (compile elements before.length).images,
      InOneRun runs image.offset.toNat image.marker.toList)
    (short : ¬ HasLongMarker (compile elements before.length).tag
      (before ++ (textContents (compile elements before.length).text.toList ++ after))) :
    let compiled := compile elements before.length
    findMarkers document compiled.images.length compiled.tag before.length =
        .ok (compiled.images.map fun image =>
          (image.ordinal, image.offset, image.offset + Text.units image.marker)) ∧
      compiled.images.map DeferredImage.ordinal =
        (List.range compiled.images.length).map fun ordinal : Nat => (ordinal : Int) := by
  intro compiled
  refine ⟨?_, by rw [length_compile_images]; exact compile_ordinals elements before.length⟩
  have text : textContents compiled.text.toList = laidOut anchorShape compiled.tag (parts elements) := by
    rw [compile_text, laidOut_anchorShape]
  have found := findMarkers_laidOut (quiet_anchorShape compiled.tag) (compile_plain elements before.length)
    (compile_unused elements before.length) shows (text ▸ runsOf) (fun image member => ?_) (text ▸ short)
  · have ranges : (compiled.images.map fun image =>
          ((image.ordinal, image.offset, image.offset + Text.units image.marker) : Int × Int × Int)) =
        (imagePlaces anchorShape compiled.tag before.length (parts elements)).map (markerRange compiled.tag) := by
      have same := congrArg (List.map fun found : Int × Int × String =>
        (found.1, found.2.1, found.2.1 + (Text.units found.2.2 : Int))) (noted_compile_at elements before.length)
      rw [List.map_map, List.map_map] at same
      exact same
    rw [length_compile_images, ranges]
    exact found
  · have member : ((image.1 : Int), (image.2 : Int), imageMarker image.1 compiled.tag) ∈ compiled.images.map DeferredImage.noted := by
      rw [noted_compile_at]
      exact List.mem_map_of_mem member
    obtain ⟨deferred, there, same⟩ := List.mem_map.mp member
    simp only [DeferredImage.noted, Prod.mk.injEq] at same
    have cut := whole deferred there
    rw [same.2.1, same.2.2] at cut
    exact cut

/-- Another document's marker stands in front of the text, one that the text quotes inside it, and a copy of the
image's own behind it. -/
theorem findMarkers_betweenCopies :
    let elements : List Element := [.paragraph [⟨"see [[IMG:0]]", {}⟩], .image "http://x/i.png" true "i"]
    let before := .other 0 :: textContents "[[IMG1:0]]\n".toList
    let after := textContents "later [[IMG1:0]]".toList
    let runs : List TextRun := [⟨1, "[[IMG1:0]]"⟩, ⟨11, "\nsee [[IMG"⟩, ⟨21, ":0]]\n[[IMG1:0]]"⟩, ⟨36, "\nlater [[IMG1:0]]"⟩]
    DocumentShows (paragraphJson 53 runs) runs ∧
      RunsOf (before ++ (textContents (compile elements before.length).text.toList ++ after)) runs ∧
      findMarkers (paragraphJson 53 runs) 1 "IMG1" 12 = .ok [(0, 26, 36)] := by
  intro elements before after runs
  have shows : DocumentShows (paragraphJson 53 runs) runs := paragraphJson_shows 53 (by decide)
  have runsOf : RunsOf (before ++ (textContents (compile elements before.length).text.toList ++ after)) runs :=
    ⟨by decide +kernel, by decide +kernel⟩
  have short : (before ++ (textContents (compile elements before.length).text.toList ++ after)).length ≤ Text.maxDigits := by
    decide +kernel
  have found := (findMarkers_compile shows runsOf (by decide +kernel) fun long => Nat.not_lt.mpr short long.size).1
  have tag : (compile elements before.length).tag = "IMG1" := by decide +kernel
  have ranges : ((compile elements before.length).images.map fun image =>
      (image.ordinal, image.offset, image.offset + (Text.units image.marker : Int))) = [(0, 26, 36)] := by decide +kernel
  rw [length_compile_images, tag, ranges] at found
  exact ⟨shows, runsOf, found⟩

end DocScribe.Docs
