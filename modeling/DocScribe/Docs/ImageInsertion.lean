import DocScribe.Docs.Marker
import DocScribe.Drive.Upload

/-! Putting pictures in the place of their markers. A picture of this computer is uploaded for the
time that the document's service needs to fetch it, and deleted again whatever happens. -/

namespace DocScribe.Docs
open DocScribe Service

/-- What pictures are put into: a document, and how references are looked up and uploaded. -/
structure ImageInserter where
  documentId : Identifier
  /-- There is a drive to upload to. -/
  hasDrive : Bool := true
  markdownPath : Option String := none
  folder : Option String := none

abbrev ImageUrls := List (Int × String)

namespace ImageInserter

/-- Looks for the markers of a document as it is now. -/
def locateMarkers (inserter : ImageInserter) (count : Int) (tag : String) (minIndex : Int) :
    Action MarkerRanges := do
  let document ← Action.call (.getDocument inserter.documentId .body)
  findMarkers document count tag minIndex

/-- Sets the address of a number: one that is there keeps its place. -/
def setUrl (ordinal : Int) (url : String) : ImageUrls → ImageUrls
  | [] => [(ordinal, url)]
  | (number, old) :: rest =>
    if number == ordinal then (ordinal, url) :: rest else (number, old) :: setUrl ordinal url rest

/-- An outcome, and the files that are uploaded by then. -/
abbrev WithUploads (α : Type) := Outcome α × List Identifier

/-- The address of a picture; one in a file is uploaded for it. -/
def urlOf (inserter : ImageInserter) (image : DeferredImage) (uploaded : List Identifier) :
    Program (WithUploads String) := do
  if image.isRemote then return (.ok image.source, uploaded)
  if !inserter.hasDrive then
    let message := s!"Local image '{image.source}' needs Drive access to upload"
    return (.error (.validation message), uploaded)
  let created ← (do
    let path ← Drive.locateImage image.source inserter.markdownPath
    Drive.upload path inserter.folder : Action Identifier).run
  match created with
  | .error fault => return (.error fault, uploaded)
  | .ok fileId =>
    -- the file counts as uploaded even when it cannot be shared
    let link ← (Drive.share fileId).run
    return (link, uploaded ++ [fileId])

def urlsOf (inserter : ImageInserter) (markers : MarkerRanges) :
    List DeferredImage → ImageUrls → List Identifier → Program (WithUploads ImageUrls)
  | [], urls, uploaded => pure (.ok urls, uploaded)
  | image :: rest, urls, uploaded => do
    if (markers.lookup image.ordinal).isNone then inserter.urlsOf markers rest urls uploaded
    else
      match ← inserter.urlOf image uploaded with
      | (.error fault, uploaded) => return (.error fault, uploaded)
      | (.ok url, uploaded) =>
        inserter.urlsOf markers rest (setUrl image.ordinal url urls) uploaded

/-- Replaces markers by the pictures that have an address. The number of addresses is the result,
unless there is nothing to replace. -/
def replaceMarkers (inserter : ImageInserter) (markers : MarkerRanges) (urls : ImageUrls) :
    Action Nat := do
  let edits := imageEdits markers urls
  if edits.isEmpty then return 0
  match ← (Action.call (.editDocument inserter.documentId edits)).outcome with
  | .ok _ => return urls.length
  | .error cause => throw (.partialApply "Failed to insert images" 0 urls.length .null cause)

/-- Puts in the pictures whose markers were found, when the files in `pending` are uploaded already. -/
def insertFound (inserter : ImageInserter) (images : List DeferredImage) (markers : MarkerRanges)
    (pending : List Identifier) : Program (WithUploads Nat) := do
  match ← inserter.urlsOf markers images [] pending with
  | (.error fault, uploaded) => return (.error fault, uploaded)
  | (.ok urls, uploaded) => return (← (inserter.replaceMarkers markers urls).run, uploaded)

/-- Puts in pictures, from the position `minIndex` on, and deletes what was uploaded for them. The
number of pictures is the outcome; beside it stand the files that are still uploaded. -/
def insertAll (inserter : ImageInserter) (images : List DeferredImage) (minIndex : Int)
    (pending : List Identifier) : Program (WithUploads Nat) := do
  match images with
  | [] => return (.ok 0, pending)
  | first :: _ =>
    match ← (inserter.locateMarkers images.length first.tag minIndex).run with
    | .error fault => return (.error fault, pending)
    | .ok markers =>
      let (inserted, uploaded) ← inserter.insertFound images markers pending
      let _ ← Drive.deleteAll uploaded
      return (inserted, [])

end ImageInserter
end DocScribe.Docs
