import DocScribe.Docs.Compile
import DocScribe.Docs.Tab

/-! Image markers in a live document: finding them, and the edits that replace them. -/

namespace DocScribe.Docs
open DocScribe

/-- A marker in a text: the characters before it, its number, and its length. -/
structure FoundMarker where
  offset : Nat
  digits : List Nat
  length : Nat

/-- The marker at the start of a text: two brackets, the tag and a colon, digits of any script, and
two brackets. -/
def markerAt? (tag : List Char) (text : List Char) : Option (List Nat × Nat) := do
  let rest ← Text.after? ("[[".toList ++ tag ++ [':']) text
  let digits := rest.takeWhile Text.isDigit
  let values := digits.filterMap Text.digitValue?
  if values.isEmpty then none
  else
    let _ ← Text.after? "]]".toList (rest.drop digits.length)
    pure (values, tag.length + digits.length + 5)

/-- The markers of a text from the character number `offset` on. The characters of the last marker,
`busy` of them, are passed over. -/
def markersFrom (tag : List Char) : (offset busy : Nat) → List Char → List FoundMarker
  | _, _, [] => []
  | offset, busy + 1, _ :: rest => markersFrom tag (offset + 1) busy rest
  | offset, 0, c :: rest =>
    match markerAt? tag (c :: rest) with
    | some (digits, length) => ⟨offset, digits, length⟩ :: markersFrom tag (offset + 1) (length - 1) rest
    | none => markersFrom tag (offset + 1) 0 rest

/-- A text and the position where it starts. -/
abbrev PlacedText := Json × String

namespace Node

mutual

def placedTexts : Node → List (Outcome PlacedText)
  | .paragraph runs => runs.filterMap fun run => match run with
    | .text text (some start) => some (.ok (start, text))
    | .unreadable kind (some _) =>
      some (.error (.wrongKind s!"expected string or bytes-like object, got '{kind}'"))
    | .text _ none => none
    | .unreadable _ none => none
    | .silent => none
    | .fault cause => some (.error cause)
  | .table rows => placedRows rows
  | .contents nodes => placedAll nodes
  | .other => []
  | .absent cause => [.error cause]
  | .unlisted _ => []
  | .fault cause => [.error cause]

def placedAll : List Node → List (Outcome PlacedText)
  | [] => []
  | node :: nodes => placedTexts node ++ placedAll nodes

def placedRows : List (List (List Node)) → List (Outcome PlacedText)
  | [] => []
  | row :: rows => placedCells row ++ placedRows rows

def placedCells : List (List Node) → List (Outcome PlacedText)
  | [] => []
  | cell :: cells => placedAll cell ++ placedCells cells

end

end Node

/-- The ranges of the markers that were found, by their numbers, in the order in which they were
found. -/
abbrev MarkerRanges := List (Int × Int × Int)

/-- The number of a position in a document. -/
def positionOf : Json → Outcome Int
  | .int n => pure n
  | .bool b => pure (if b then 1 else 0)
  | .str _ => throw (.wrongKind "can only concatenate str (not \"int\") to str")
  | .arr _ => throw (.wrongKind "can only concatenate list (not \"int\") to list")
  | other => throw (.wrongKind s!"unsupported operand type(s) for +: '{other.kind}' and 'int'")

/-- Adds a marker, unless its number is too great or already there, or it lies before `minIndex`. -/
def addMarker (count minIndex : Int) (start : Json) (text : List Char) (ranges : MarkerRanges)
    (marker : FoundMarker) : Outcome MarkerRanges := do
  let ordinal : Int ← match Text.digitsNat marker.digits with
    | .ok n => pure (n : Int)
    | .error (.tooLong digits) => throw (.tooManyDigits digits)
    | .error .malformed => throw (.badValue "")
  if count ≤ ordinal || (ranges.lookup ordinal).isSome then return ranges
  let start := (← positionOf start) + Text.listUnits (text.take marker.offset)
  if start < minIndex then return ranges
  return ranges ++ [(ordinal, start, start + Text.listUnits ((text.drop marker.offset).take marker.length))]

def addTexts (count minIndex : Int) (tag : List Char) : MarkerRanges → List (Outcome PlacedText) →
    Outcome MarkerRanges
  | ranges, [] => pure ranges
  | ranges, placed :: rest => do
    let (start, text) ← placed
    let ranges ← (markersFrom tag 0 0 text.toList).foldlM (addMarker count minIndex start text.toList) ranges
    addTexts count minIndex tag ranges rest

def bodyTexts (body : Json) : Outcome (List (Outcome PlacedText)) := do
  if !body.truthy then return []
  let content ← body.memberOr "content" (.arr [])
  return Node.placedAll (Node.contentOfJson content)

/-- The ranges of the markers numbered below `count` in a document: in its body, then in its tabs. Of
a number that comes twice the first counts. -/
def findMarkers (document : Json) (count : Int) (tag : String) (minIndex : Int) : Outcome MarkerRanges := do
  if count ≤ 0 then return []
  let add (ranges : MarkerRanges) (body : Json) : Outcome MarkerRanges := do
    addTexts count minIndex tag.toList ranges (← bodyTexts body)
  let ranges ← add [] (← document.member "body")
  let tabs ← Tab.flatten (← document.member "tabs")
  tabs.foldlM (fun ranges tab => do
    let documentTab ← tab.member "documentTab"
    add ranges (← (if documentTab.truthy then documentTab else .obj []).member "body")) ranges

/-- The edits that replace each marker that has an address by its image, from the last marker to the
first, so that the positions of the others stay as they are. -/
def imageEdits (ranges : MarkerRanges) (urls : List (Int × String)) : List Edit :=
  let ordered := ranges.mergeSort fun a b => b.2.1 ≤ a.2.1
  ordered.flatMap fun (ordinal, start, stop) =>
    match urls.lookup ordinal with
    | some url => if url == "" then [] else [.deleteRange start stop, .insertImage start url]
    | none => []

end DocScribe.Docs
