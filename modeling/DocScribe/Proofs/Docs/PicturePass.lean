import DocScribe.Docs.ImageInsertion
import DocScribe.Proofs.Docs.DocumentService
import DocScribe.Proofs.Docs.MarkerRoundTrip
import DocScribe.Proofs.Docs.ReplacedRanges
import DocScribe.Proofs.Docs.ShownBody
import DocScribe.Proofs.Markdown.ImageSources

/-! Putting the pictures of a compiled text in the place of their markers. The last marker is replaced first,
so that every replacement leaves the markers that are still to come where they were found. -/

namespace DocScribe.Docs
open DocScribe Markdown

/-- Parts with the slots that stand for them. -/
abbrev LaidBody := List (Part × LiveBody)

namespace LaidBody

def parts (laid : LaidBody) : List Part := laid.map Prod.fst

def slots (laid : LaidBody) : LiveBody := laid.flatMap Prod.snd

/-- The slots of each part hold what the part holds, where tables have a shape. -/
def Holds (shape : Grid → List SlotContent) (tag : String) (laid : LaidBody) : Prop :=
  ∀ piece ∈ laid, LiveBody.contents piece.2 = piece.1.contents shape tag

def picturedPart : Part × LiveBody → Part × LiveBody
  | (.image ordinal source isRemote alt, _) => (.image ordinal source isRemote alt, [Slot.plain (.image source)])
  | piece => piece

def pictured (laid : LaidBody) : LaidBody := laid.map picturedPart

theorem contents_slots {shape : Grid → List SlotContent} {tag : String} {laid : LaidBody} (holds : laid.Holds shape tag) :
    LiveBody.contents laid.slots = laidOut shape tag laid.parts := by
  induction laid with
  | nil => rfl
  | cons piece laid ih =>
    have rest := ih fun other member => holds other (List.mem_cons_of_mem piece member)
    simp only [slots, parts, List.flatMap_cons, List.map_cons, LiveBody.contents_append, laidOut_cons] at rest ⊢
    rw [rest, holds piece (by simp)]

end LaidBody

/-- The edits that replace the markers among parts by pictures, the last one first. -/
def pictureEdits : (start : Nat) → LaidBody → List Edit
  | _, [] => []
  | start, (part, slots) :: rest =>
    pictureEdits (start + slots.length) rest ++
      match part with
      | .image _ source _ _ => [.deleteRange start (start + slots.length), .insertImage start source]
      | _ => []

private theorem pictureEdits_apply (keeps : Char → Bool) (laid : LaidBody) (front back : LiveBody) :
    applyEdits keeps (pictureEdits front.length laid) (front ++ (laid.slots ++ back)) =
      front ++ (laid.pictured.slots ++ back) := by
  induction laid generalizing front with
  | nil => rfl
  | cons piece laid ih =>
    obtain ⟨part, slots⟩ := piece
    have behind := ih (front ++ slots)
    rw [List.length_append, List.append_assoc, List.append_assoc] at behind
    have whole : front ++ (LaidBody.slots ((part, slots) :: laid) ++ back) = front ++ (slots ++ (LaidBody.slots laid ++ back)) := by
      simp [LaidBody.slots]
    cases part with
    | image ordinal source isRemote alt =>
      rw [pictureEdits, applyEdits_append, whole, behind]
      simp only [applyEdits_cons, applyEdits_nil, Edit.applyTo]
      rw [LiveBody.remove_between rfl rfl, LiveBody.splice_at _ rfl]
      simp [LaidBody.pictured, LaidBody.slots, LaidBody.picturedPart]
    | text chars style | table cells =>
      simp only [pictureEdits, List.append_nil]
      rw [whole, behind]
      simp [LaidBody.pictured, LaidBody.slots, LaidBody.picturedPart]

theorem mergeSort_ranges {ranges : MarkerRanges} (ordered : ranges.Pairwise fun first second => first.2.1 < second.2.1) :
    (ranges.mergeSort fun a b => b.2.1 ≤ a.2.1) = ranges.reverse := by
  have descending : ranges.reverse.Pairwise fun first second => second.2.1 ≤ first.2.1 :=
    (List.pairwise_reverse.mpr ordered).imp Int.le_of_lt
  refine List.Perm.eq_of_pairwise (fun a b memberA memberB first second => ?_) (mergeSort_descends ranges) descending
    ((List.mergeSort_perm _ _).trans (List.reverse_perm ranges).symm)
  -- two ranges with one start are the same
  obtain ⟨i, insideA, rfl⟩ := List.getElem_of_mem (List.mem_mergeSort.mp memberA)
  obtain ⟨j, insideB, rfl⟩ := List.getElem_of_mem (List.mem_reverse.mp memberB)
  rcases Nat.lt_trichotomy i j with less | rfl | more
  · have := List.pairwise_iff_getElem.mp ordered i j insideA insideB less
    omega
  · rfl
  · have := List.pairwise_iff_getElem.mp ordered j i insideB insideA more
    omega

def imageUrls (images : List DeferredImage) : ImageUrls := images.map fun image => (image.ordinal, image.source)

private theorem lookup_of_mem {urls : ImageUrls} (distinct : (urls.map Prod.fst).Nodup) {ordinal : Int} {url : String}
    (member : (ordinal, url) ∈ urls) : urls.lookup ordinal = some url := by
  induction urls with
  | nil => simp at member
  | cons first urls ih =>
    obtain ⟨number, address⟩ := first
    rw [List.map_cons, List.nodup_cons] at distinct
    rcases List.mem_cons.mp member with same | inside
    · cases same
      rw [List.lookup_cons, beq_self_eq_true]
    · have other : ordinal ≠ number := by
        rintro rfl
        exact distinct.1 (List.mem_map.mpr ⟨_, inside, rfl⟩)
      rw [List.lookup_cons, beq_false_of_ne other]
      exact ih distinct.2 inside

section Edits
variable {shape : Grid → List SlotContent} {tag : String}

/-- Every image among parts has an address, which is its source. -/
def Addressed (parts : List Part) (urls : ImageUrls) : Prop :=
  ∀ (ordinal : Nat) source isRemote alt, .image ordinal source isRemote alt ∈ parts →
    urls.lookup (ordinal : Int) = some source ∧ source ≠ ""

private theorem imageEdits_found {laid : LaidBody} (holds : laid.Holds shape tag) {urls : ImageUrls}
    (addressed : Addressed laid.parts urls) (start : Nat) :
    imageEdits ((imagePlaces shape tag start laid.parts).map (markerRange tag)) urls = pictureEdits start laid := by
  have ordered : ((imagePlaces shape tag start laid.parts).map (markerRange tag)).Pairwise
      fun first second => first.2.1 < second.2.1 := by
    rw [List.pairwise_map]
    exact (imagePlaces_inside shape tag start laid.parts).1.imp fun less => by simp only [markerRange]; omega
  rw [imageEdits, mergeSort_ranges ordered]
  clear ordered
  induction laid generalizing start with
  | nil => rfl
  | cons piece laid ih =>
    obtain ⟨part, slots⟩ := piece
    have rest := ih (fun other member => holds other (List.mem_cons_of_mem _ member))
      (fun ordinal source isRemote alt member => addressed ordinal source isRemote alt (List.mem_cons_of_mem _ member))
      (start + slots.length)
    have size : (part.contents shape tag).length = slots.length := by
      rw [← holds (part, slots) (by simp), LiveBody.length_contents]
    rw [LaidBody.parts, List.map_cons]
    cases part with
    | text chars style | table cells =>
      simp only [imagePlaces, size, pictureEdits, List.append_nil]
      exact rest
    | image ordinal source isRemote alt =>
      obtain ⟨address, written⟩ := addressed ordinal source isRemote alt (by simp [LaidBody.parts])
      have units : Text.units (imageMarker ordinal tag) = slots.length := by
        rw [← size, Part.contents, Part.chars, length_textContents, Text.units]
        simp
      simp only [imagePlaces, size, pictureEdits, List.map_cons, List.reverse_cons, List.flatMap_append]
      congr 1
      simp [markerRange, address, written, units]

end Edits

section Remote
variable (inserter : ImageInserter)

private theorem setUrl_fresh {urls : ImageUrls} {ordinal : Int} (fresh : ordinal ∉ urls.map Prod.fst) (url : String) :
    ImageInserter.setUrl ordinal url urls = urls ++ [(ordinal, url)] := by
  induction urls with
  | nil => rfl
  | cons first urls ih =>
    obtain ⟨number, old⟩ := first
    rw [List.map_cons, List.mem_cons, not_or] at fresh
    have other : (number == ordinal) = false := beq_false_of_ne fun same => fresh.1 same.symm
    rw [ImageInserter.setUrl, other, ih fresh.2]
    rfl

private theorem urlsOf_remote {markers : MarkerRanges} {images : List DeferredImage}
    (remote : ∀ image ∈ images, image.isRemote = true)
    (found : ∀ image ∈ images, (markers.lookup image.ordinal).isSome = true) {urls : ImageUrls}
    (distinct : (urls.map Prod.fst ++ images.map DeferredImage.ordinal).Nodup) (uploaded : List Service.Identifier) :
    inserter.urlsOf markers images urls uploaded = .pure (.ok (urls ++ imageUrls images), uploaded) := by
  induction images generalizing urls with
  | nil => simp [ImageInserter.urlsOf, imageUrls, pure]
  | cons image images ih =>
    have there : (markers.lookup image.ordinal).isNone = false := by
      rw [Option.isNone_eq_false_iff]
      exact found image (by simp)
    have known : inserter.urlOf image uploaded = .pure (.ok image.source, uploaded) := by
      rw [ImageInserter.urlOf, if_pos (remote image (by simp))]
      rfl
    have fresh : image.ordinal ∉ urls.map Prod.fst := by
      intro member
      exact (List.nodup_append.mp distinct).2.2 _ member _ (by simp) rfl
    have distinctRest : ((urls ++ [(image.ordinal, image.source)]).map Prod.fst ++
        images.map DeferredImage.ordinal).Nodup := by simpa using distinct
    have rest := ih (fun other member => remote other (by simp [member])) (fun other member => found other (by simp [member]))
      distinctRest
    rw [ImageInserter.urlsOf, there, known]
    simp only [Bool.false_eq_true, ↓reduceIte, setUrl_fresh fresh]
    change inserter.urlsOf markers images (urls ++ [(image.ordinal, image.source)]) uploaded = _
    rw [rest]
    simp [imageUrls]

end Remote

section Inserting
variable {service : DocumentService} {inserter : ImageInserter} (own : inserter.documentId = service.documentId)
include own

private theorem run_locateMarkers (count : Int) (tag : String) (base : Int) (body : LiveBody) :
    service.run (inserter.locateMarkers count tag base).run body =
      (findMarkers (service.view body) count tag base, body) := by
  have shown := service.succeeds_view body
  rw [← own] at shown
  exact shown.andThen

private theorem run_replaceMarkers {markers : MarkerRanges} {urls : ImageUrls} (some : imageEdits markers urls ≠ [])
    (body : LiveBody) :
    service.run (inserter.replaceMarkers markers urls).run body =
      (.ok urls.length, applyEdits service.keeps (imageEdits markers urls) body) := by
  have edited := service.succeeds_edit (imageEdits markers urls) body
  rw [← own] at edited
  rw [ImageInserter.replaceMarkers]
  simp only [List.isEmpty_eq_false_iff.mpr some, Bool.false_eq_true, ↓reduceIte]
  exact edited.outcome.andThen

private theorem run_insertAll_found {images : List DeferredImage} (remote : ∀ image ∈ images, image.isRemote = true)
    (distinct : (images.map DeferredImage.ordinal).Nodup) {tag : String} (tagged : ∀ image ∈ images, image.tag = tag)
    {base : Int} {body : LiveBody} {ranges : MarkerRanges}
    (found : findMarkers (service.view body) images.length tag base = .ok ranges)
    (all : ∀ image ∈ images, (ranges.lookup image.ordinal).isSome = true)
    (some : images ≠ [] → imageEdits ranges (imageUrls images) ≠ []) :
    service.run (inserter.insertAll images base []) body =
      ((.ok images.length, []), applyEdits service.keeps (imageEdits ranges (imageUrls images)) body) := by
  cases images with
  | nil =>
    have none : ranges = [] := by
      rw [findMarkers, if_pos (by simp)] at found
      exact (Except.ok.inj found).symm
    have noEdits : imageEdits [] (imageUrls []) = [] := by simp [imageEdits]
    rw [none, noEdits]
    rfl
  | cons first images =>
    have located := run_locateMarkers own ((first :: images).length : Int) first.tag base body
    rw [tagged first (by simp), found] at located
    have distinctAll : (List.map Prod.fst ([] : ImageUrls) ++ (first :: images).map DeferredImage.ordinal).Nodup := by
      simpa using distinct
    have addresses := urlsOf_remote inserter remote all distinctAll []
    have replaced := run_replaceMarkers own (some (by simp)) body
    have inserted : service.run (inserter.insertFound (first :: images) ranges []) body =
        ((.ok (first :: images).length, []),
          applyEdits service.keeps (imageEdits ranges (imageUrls (first :: images))) body) := by
      rw [ImageInserter.insertFound, addresses]
      refine (service.run_andThen replaced).trans ?_
      simp [imageUrls]
    rw [ImageInserter.insertAll, tagged first (by simp), service.run_andThen located]
    simp only
    rw [service.run_andThen inserted]
    rfl

private theorem run_insertAll_fault {first : DeferredImage} {images : List DeferredImage} {base : Int} {body : LiveBody}
    {fault : Fault}
    (failed : findMarkers (service.view body) (first :: images).length first.tag base = .error fault) :
    service.run (inserter.insertAll (first :: images) base []) body = ((.error fault, []), body) := by
  have located := run_locateMarkers own ((first :: images).length : Int) first.tag base body
  rw [failed] at located
  rw [ImageInserter.insertAll, service.run_andThen located]
  rfl

end Inserting

def AllRemote (elements : List Element) : Prop :=
  ∀ source isRemote alt, .image source isRemote alt ∈ elements → isRemote = true

section Compiled
variable {elements : List Element} {base : Nat}

theorem part_of_image {image : DeferredImage} (member : image ∈ (compile elements base).images) :
    image.tag = (compile elements base).tag ∧
      ∃ ordinal : Nat, image.ordinal = ordinal ∧ .image ordinal image.source image.isRemote image.alt ∈ parts elements := by
  rw [compile_images] at member
  obtain ⟨place, among, found⟩ := List.mem_filterMap.mp member
  obtain ⟨ordinal, rfl, number, -, tagged⟩ := imageOf?_eq_some _ found
  exact ⟨tagged, ordinal, number, mem_of_placed _ among⟩

private theorem image_of_part (base : Nat) {ordinal : Nat} {source : String} {isRemote : Bool} {alt : String}
    (member : .image ordinal source isRemote alt ∈ parts elements) :
    ∃ image ∈ (compile elements base).images, image.ordinal = ordinal ∧ image.source = source := by
  rw [← map_placed (compile elements base).tag base (parts elements)] at member
  obtain ⟨⟨start, part⟩, placed, rfl⟩ := List.mem_map.mp member
  rw [compile_images]
  exact ⟨_, List.mem_filterMap.mpr ⟨_, placed, rfl⟩, rfl, rfl⟩

private theorem compile_distinct : ((compile elements base).images.map DeferredImage.ordinal).Nodup := by
  rw [compile_ordinals]
  exact List.nodup_range.map fun first second same => Int.ofNat.inj same

private theorem addressed_compile (base : Nat) (sourced : ∀ element ∈ elements, element.HasSource) :
    Addressed (parts elements) (imageUrls (compile elements base).images) := by
  intro ordinal source isRemote alt member
  obtain ⟨image, inside, number, address⟩ := image_of_part base member
  refine ⟨lookup_of_mem ?_ (List.mem_map.mpr ⟨image, inside, by rw [number, address]⟩),
    sourced _ (image_of_partsFrom member) source isRemote alt rfl⟩
  rw [imageUrls, List.map_map]
  exact compile_distinct

private theorem remote_compile (remote : AllRemote elements) : ∀ image ∈ (compile elements base).images, image.isRemote = true := by
  intro image member
  obtain ⟨_, _, _, part⟩ := part_of_image member
  exact remote _ _ _ (image_of_partsFrom part)

end Compiled

section Pictures
variable {service : DocumentService} {inserter : ImageInserter} {elements : List Element} {laid : LaidBody}
  {shape : Grid → List SlotContent} {front back : LiveBody}

/-- The search in a body that a compiled text is laid in, between other slots. -/
theorem findMarkers_laid (shows : service.ShowsBodies) (shapes : QuietShape shape (compile elements front.length).tag)
    (whole : laid.parts = parts elements) (holds : laid.Holds shape (compile elements front.length).tag)
    (short : imagesIn elements = 0 ∨
      ¬ HasLongMarker (compile elements front.length).tag (LiveBody.contents (front ++ (laid.slots ++ back)))) :
    findMarkers (service.view (front ++ (laid.slots ++ back))) (compile elements front.length).images.length
        (compile elements front.length).tag front.length =
      .ok ((imagePlaces shape (compile elements front.length).tag front.length laid.parts).map
        (markerRange (compile elements front.length).tag)) := by
  rw [length_compile_images, whole]
  by_cases none : imagesIn elements = 0
  · have places := congrArg List.length (imagePlaces_ordinals shape (compile elements front.length).tag [] front.length elements)
    rw [List.length_map, List.length_range', none, List.length_eq_zero_iff] at places
    rw [none, parts, places]
    rfl
  · have short := short.resolve_left none
    obtain ⟨runs, shown, runsOf, uncut⟩ := shows.runs (front ++ (laid.slots ++ back))
    have contents : LiveBody.contents (front ++ (laid.slots ++ back)) = LiveBody.contents front ++
        (laidOut shape (compile elements front.length).tag (parts elements) ++ LiveBody.contents back) := by
      rw [LiveBody.contents_append, LiveBody.contents_append, LaidBody.contents_slots holds, whole]
    rw [contents] at runsOf uncut short
    have size : front.length = (LiveBody.contents front).length := by simp
    rw [size] at shapes short runsOf uncut ⊢
    refine findMarkers_laidOut shapes (compile_plain _ _) (compile_unused _ _) shown runsOf (fun image member => ?_) short
    have own := marker_at shape _ (LiveBody.contents front) (LiveBody.contents back) member
    rw [toList_imageMarker] at own ⊢
    exact uncut _ _ _ (compile_plain _ _) (areDigits_toDigits image.1) own

private theorem pictureEdits_some {ordinal : Nat} {source : String} {isRemote : Bool} {alt : String}
    (member : .image ordinal source isRemote alt ∈ laid.parts) (start : Nat) : pictureEdits start laid ≠ [] := by
  induction laid generalizing start with
  | nil => simp [LaidBody.parts] at member
  | cons piece laid ih =>
    obtain ⟨part, slots⟩ := piece
    rcases List.mem_cons.mp member with rfl | later
    · simp [pictureEdits]
    · simp [pictureEdits, ih later]

/-- The pictures of a compiled text take the places of their markers. -/
theorem run_pictures (shows : service.ShowsBodies) (own : inserter.documentId = service.documentId)
    (remote : AllRemote elements) (sourced : ∀ element ∈ elements, element.HasSource)
    (shapes : QuietShape shape (compile elements front.length).tag)
    (whole : laid.parts = parts elements) (holds : laid.Holds shape (compile elements front.length).tag)
    (short : imagesIn elements = 0 ∨
      ¬ HasLongMarker (compile elements front.length).tag (LiveBody.contents (front ++ (laid.slots ++ back)))) :
    service.run (inserter.insertAll (compile elements front.length).images front.length [])
        (front ++ (laid.slots ++ back)) =
      ((.ok (imagesIn elements), []), front ++ (laid.pictured.slots ++ back)) := by
  have found := findMarkers_laid shows shapes whole holds short
  have edits := imageEdits_found holds (whole ▸ addressed_compile front.length sourced) front.length
  have inserted := run_insertAll_found own (remote_compile remote) compile_distinct
    (fun image member => (part_of_image member).1) found (fun image member => ?_) (fun some => ?_)
  · rw [inserted, length_compile_images, edits, pictureEdits_apply]
  · have ordinals := compile_ordinals elements front.length
    have number : image.ordinal ∈ (compile elements front.length).images.map DeferredImage.ordinal := List.mem_map_of_mem member
    rw [ordinals] at number
    obtain ⟨ordinal, less, number⟩ := List.mem_map.mp number
    have placed : ordinal ∈ (imagePlaces shape (compile elements front.length).tag front.length laid.parts).map Prod.fst := by
      rw [whole, parts, imagePlaces_ordinals, List.mem_range'_1]
      exact ⟨Nat.zero_le _, by have : imagesIn [] = 0 := rfl; have := List.mem_range.mp less; omega⟩
    obtain ⟨place, there, rfl⟩ := List.mem_map.mp placed
    rw [List.lookup_isSome_iff, ← number]
    exact ⟨_, List.mem_map_of_mem there, by simp [markerRange]⟩
  · obtain ⟨image, member⟩ := List.exists_mem_of_ne_nil _ some
    obtain ⟨_, ordinal, _, part⟩ := part_of_image member
    rw [edits]
    exact pictureEdits_some (whole ▸ part) _

/-- Where the body holds a marker with too many digits, no picture is put in. -/
theorem run_pictures_long (shows : service.ShowsBodies) (own : inserter.documentId = service.documentId)
    (some : imagesIn elements ≠ 0) {body : LiveBody} {base : Nat}
    (long : HasLongMarker (compile elements base).tag (LiveBody.contents body)) :
    ∃ digits, service.run (inserter.insertAll (compile elements base).images base []) body =
      ((.error (.tooManyDigits digits), []), body) := by
  obtain ⟨runs, shown, runsOf, uncut⟩ := shows.runs body
  have count := length_compile_images elements base
  have tagged : ∀ image ∈ (compile elements base).images, image.tag = (compile elements base).tag :=
    fun image member => (part_of_image member).1
  cases images : (compile elements base).images with
  | nil =>
    rw [images] at count
    exact absurd count.symm some
  | cons first rest =>
    rw [images] at tagged
    obtain ⟨digits, failed⟩ := findMarkers_long ((first :: rest).length : Int) (by simp)
      (compile_plain _ _) shown runsOf (fun place digits all spells => uncut _ place digits (compile_plain _ _) all spells)
      long base
    rw [← tagged first (by simp)] at failed
    exact ⟨digits, run_insertAll_fault own failed⟩

end Pictures

end DocScribe.Docs
