import DocScribe.Proofs.Docs.GridWidth
import DocScribe.Proofs.Docs.Numbering
import DocScribe.Proofs.Docs.StyleFields
import DocScribe.Proofs.Text.Utf16

/-! What elements mean as a text: a sequence of parts, each a text in one style, a table or an image. It is
said element by element and without positions; where a part stands follows from the parts before it. -/

namespace DocScribe.Docs
open DocScribe Markdown

/-- A part of what elements mean. -/
inductive Part where
  /-- A text in one style; the plain style is none. -/
  | text (chars : List Char) (style : Style)
  /-- A table whose rows are all of one length. -/
  | table (cells : Grid)
  | image (ordinal : Nat) (source : String) (isRemote : Bool) (alt : String)

namespace Part

/-- The style of a part's text. Anchors and markers have none. -/
def style : Part → Style
  | .text _ style => style
  | _ => .plain

def isText : Part → Bool
  | .text .. => true
  | _ => false

/-- What stands for a part in the text that is inserted first. -/
def chars (tag : String) : Part → List Char
  | .text chars _ => chars
  | .table _ => [tableAnchor]
  | .image ordinal _ _ _ => (imageMarker ordinal tag).toList

def units (tag : String) (part : Part) : Nat := Text.listUnits (part.chars tag)

end Part

def lineEnd : Part := .text ['\n'] .plain

def spanParts (spans : List Span) : List Part := spans.map fun span => .text span.text.toList span.style

/-- Rows with empty cells added up to the widest. -/
def padded (rows : Grid) : Grid :=
  rows.map fun row => row ++ List.replicate (TableInsertion.width rows - row.length) []

def imagesIn (elements : List Element) : Nat :=
  elements.countP fun element => match element with | .image .. => true | _ => false

/-- Nothing is put into the document for the element later on. -/
def isTextual : Element → Bool
  | .table _ => false
  | .image .. => false
  | _ => true

/-- What an element means behind earlier ones, of which the nearest comes first. -/
def partsOf (earlier : List Element) : Element → List Part
  | .heading _ spans => spanParts spans ++ [lineEnd]
  | .paragraph spans => spanParts spans ++ [lineEnd]
  | .listItem ordered depth spans => .text (itemMark earlier ordered depth) .plain :: (spanParts spans ++ [lineEnd])
  | .codeBlock text => [.text (Text.trimEndBy (· == '\n') text.toList) { code := true }, lineEnd]
  | .rule => [lineEnd]
  | .table rows => if rows.all List.isEmpty then [] else [.table (padded rows)]
  | .image source isRemote alt => [.image (imagesIn earlier) source isRemote alt, lineEnd]
  | .unknown => []

/-- What elements mean one after the other, behind earlier ones. -/
def partsFrom : (earlier : List Element) → List Element → List Part
  | _, [] => []
  | earlier, element :: rest => partsOf earlier element ++ partsFrom (element :: earlier) rest

def payload (tag : String) (parts : List Part) : List Char := parts.flatMap (Part.chars tag)

/-- The units of parts, each with the style of the part that it comes from. -/
def taggedUnits (tag : String) (parts : List Part) : List (Nat × Style) :=
  parts.flatMap fun part => (Text.codes (part.chars tag)).map (·, part.style)

def placed (tag : String) : (start : Int) → List Part → List (Int × Part)
  | _, [] => []
  | start, part :: rest => (start, part) :: placed tag (start + part.units tag) rest

def rangeOf? : Int × Part → Option StyledRange
  | (start, .text chars style) =>
    if style ≠ .plain ∧ chars ≠ [] then some ⟨start, start + Text.listUnits chars, .exactly style, false⟩
    else none
  | _ => none

def tableOf? : Int × Part → Option DeferredTable
  | (start, .table cells) => some ⟨start, cells⟩
  | _ => none

def imageOf? (tag : String) : Int × Part → Option DeferredImage
  | (start, .image ordinal source isRemote alt) =>
    some ⟨ordinal, imageMarker ordinal tag, source, isRemote, start, alt, tag⟩
  | _ => none

/-- The style of the paragraph that an element starts with: that of a heading with text covers the text,
and that of a rule its line end. -/
def paragraphRanges (start : Int) : Element → List StyledRange
  | .heading level spans =>
    if spansText spans == "" then []
    else [⟨start, start + Text.units (spansText spans), .named level, true⟩]
  | .rule => [⟨start, start + 1, .underlined, true⟩]
  | _ => []

def elementRanges (tag : String) (earlier : List Element) (start : Int) (element : Element) : List StyledRange :=
  paragraphRanges start element ++ (placed tag start (partsOf earlier element)).filterMap rangeOf?

/-- What a function of each element and the position where it starts gives for elements in a row. -/
def alongElements (tag : String) (f : (earlier : List Element) → (start : Int) → Element → List α) :
    (earlier : List Element) → (start : Int) → List Element → List α
  | _, _, [] => []
  | earlier, start, element :: rest =>
    f earlier start element ++
      alongElements tag f (element :: earlier)
        (start + Text.listUnits (payload tag (partsOf earlier element))) rest

section Payload
variable (tag : String)

@[simp] theorem payload_nil : payload tag [] = [] := rfl

@[simp] theorem payload_cons (part : Part) (parts : List Part) :
    payload tag (part :: parts) = part.chars tag ++ payload tag parts := rfl

@[simp] theorem payload_append (first second : List Part) :
    payload tag (first ++ second) = payload tag first ++ payload tag second := by
  simp [payload]

@[simp] theorem payload_spanParts (spans : List Span) : payload tag (spanParts spans) = (spansText spans).toList := by
  rw [toList_spansText]
  simp [payload, spanParts, Part.chars, List.flatMap_map]

@[simp] theorem payload_lineEnd : payload tag [lineEnd] = ['\n'] := rfl

theorem codes_taggedUnits (parts : List Part) :
    (taggedUnits tag parts).map Prod.fst = Text.codes (payload tag parts) := by
  induction parts with
  | nil => rfl
  | cons part parts ih =>
    have rest : (parts.flatMap fun part => (Text.codes (part.chars tag)).map (·, part.style)).map Prod.fst =
        Text.codes (payload tag parts) := ih
    simp [taggedUnits, rest, Function.comp_def]

@[simp] theorem placed_append (start : Int) (first second : List Part) :
    placed tag start (first ++ second) =
      placed tag start first ++ placed tag (start + Text.listUnits (payload tag first)) second := by
  induction first generalizing start with
  | nil => simp [placed]
  | cons part first ih =>
    simp [placed, ih, Part.units, Int.add_assoc]

@[simp] theorem placed_nil (start : Int) : placed tag start [] = [] := rfl

@[simp] theorem placed_cons (start : Int) (part : Part) (parts : List Part) :
    placed tag start (part :: parts) = (start, part) :: placed tag (start + part.units tag) parts := rfl

@[simp] theorem map_placed (start : Int) (parts : List Part) : (placed tag start parts).map Prod.snd = parts := by
  induction parts generalizing start with
  | nil => rfl
  | cons part parts ih => rw [placed_cons, List.map_cons, ih]

theorem mem_of_placed {parts : List Part} {start : Int} {place : Int × Part} (member : place ∈ placed tag start parts) :
    place.2 ∈ parts := by
  rw [← map_placed tag start parts]
  exact List.mem_map_of_mem member

theorem placed_split {parts : List Part} {start : Int} {place : Int × Part} (member : place ∈ placed tag start parts) :
    ∃ front back, parts = front ++ place.2 :: back ∧ place.1 = start + Text.listUnits (payload tag front) := by
  induction parts generalizing start with
  | nil => cases member
  | cons part parts ih =>
    rcases List.mem_cons.mp member with rfl | later
    · exact ⟨[], parts, rfl, by simp⟩
    · obtain ⟨front, back, rfl, offset⟩ := ih later
      refine ⟨part :: front, back, rfl, ?_⟩
      rw [offset, payload_cons, Text.listUnits_append, Part.units, Int.natCast_add, Int.add_assoc]

theorem placed_inside {parts : List Part} {start : Int} {place : Int × Part} (member : place ∈ placed tag start parts) :
    start ≤ place.1 ∧ place.1 + place.2.units tag ≤ start + Text.listUnits (payload tag parts) := by
  obtain ⟨front, back, rfl, offset⟩ := placed_split tag member
  rw [offset, payload_append, payload_cons, Text.listUnits_append, Text.listUnits_append, ← Part.units]
  omega

@[simp] theorem rangeOf?_plain (start : Int) (chars : List Char) : rangeOf? (start, .text chars .plain) = none := rfl

@[simp] theorem rangeOf?_lineEnd (start : Int) : rangeOf? (start, lineEnd) = none := rfl

@[simp] theorem rangeOf?_table (start : Int) (cells : Grid) : rangeOf? (start, .table cells) = none := rfl

@[simp] theorem rangeOf?_image (start : Int) (ordinal : Nat) (source : String) (isRemote : Bool) (alt : String) :
    rangeOf? (start, .image ordinal source isRemote alt) = none := rfl

@[simp] theorem tableOf?_text (start : Int) (chars : List Char) (style : Style) :
    tableOf? (start, .text chars style) = none := rfl

@[simp] theorem tableOf?_table (start : Int) (cells : Grid) : tableOf? (start, .table cells) = some ⟨start, cells⟩ := rfl

@[simp] theorem tableOf?_image (start : Int) (ordinal : Nat) (source : String) (isRemote : Bool) (alt : String) :
    tableOf? (start, .image ordinal source isRemote alt) = none := rfl

@[simp] theorem tableOf?_lineEnd (start : Int) : tableOf? (start, lineEnd) = none := rfl

@[simp] theorem imageOf?_text (start : Int) (chars : List Char) (style : Style) :
    imageOf? tag (start, .text chars style) = none := rfl

@[simp] theorem imageOf?_table (start : Int) (cells : Grid) : imageOf? tag (start, .table cells) = none := rfl

@[simp] theorem imageOf?_image (start : Int) (ordinal : Nat) (source : String) (isRemote : Bool) (alt : String) :
    imageOf? tag (start, .image ordinal source isRemote alt) =
      some ⟨ordinal, imageMarker ordinal tag, source, isRemote, start, alt, tag⟩ := rfl

@[simp] theorem imageOf?_lineEnd (start : Int) : imageOf? tag (start, lineEnd) = none := rfl

theorem rangeOf?_eq_some {place : Int × Part} {range : StyledRange} (found : rangeOf? place = some range) :
    ∃ chars style, place.2 = .text chars style ∧ chars ≠ [] ∧
      range = ⟨place.1, place.1 + Text.listUnits chars, .exactly style, false⟩ := by
  obtain ⟨start, part⟩ := place
  cases part with
  | text chars style =>
    simp only [rangeOf?] at found
    split at found
    · next written =>
      cases found
      exact ⟨chars, style, rfl, written.2, rfl⟩
    · cases found
  | table | image => cases found

theorem tableOf?_eq_some {place : Int × Part} {table : DeferredTable} (found : tableOf? place = some table) :
    place = (table.offset, .table table.cells) := by
  obtain ⟨start, part⟩ := place
  cases part with
  | table cells =>
    cases found
    rfl
  | text | image => cases found

theorem imageOf?_eq_some {place : Int × Part} {image : DeferredImage} (found : imageOf? tag place = some image) :
    ∃ ordinal : Nat, place = (image.offset, .image ordinal image.source image.isRemote image.alt) ∧
      image.ordinal = ordinal ∧ image.marker = imageMarker ordinal tag ∧ image.tag = tag := by
  obtain ⟨start, part⟩ := place
  cases part with
  | image ordinal source isRemote alt =>
    cases found
    exact ⟨ordinal, rfl, rfl, rfl, rfl⟩
  | text | table => cases found

private theorem filterMap_of_texts {α : Type} {f : Int × Part → Option α}
    (skips : ∀ start chars style, f (start, .text chars style) = none) {parts : List Part}
    (texts : parts.all Part.isText = true) (start : Int) : (placed tag start parts).filterMap f = [] := by
  apply List.filterMap_eq_nil_iff.mpr
  intro place member
  have isText := List.all_eq_true.mp texts _ (mem_of_placed tag member)
  obtain ⟨start, part⟩ := place
  cases part with
  | text chars style => exact skips start chars style
  | table | image => cases isText

theorem tables_of_texts {parts : List Part} (texts : parts.all Part.isText = true) (start : Int) :
    (placed tag start parts).filterMap tableOf? = [] := filterMap_of_texts tag (fun _ _ _ => rfl) texts start

theorem images_of_texts {parts : List Part} (texts : parts.all Part.isText = true) (start : Int) :
    (placed tag start parts).filterMap (imageOf? tag) = [] := filterMap_of_texts tag (fun _ _ _ => rfl) texts start

theorem imageMarker_pos (ordinal : Nat) : 0 < Text.units (imageMarker ordinal tag) := by
  rw [Text.units_pos, ne_eq, ← String.toList_eq_nil_iff]
  simp [imageMarker, toString]

theorem isText_line (spans : List Span) : (spanParts spans ++ [lineEnd]).all Part.isText = true := by
  simp [spanParts, lineEnd, Part.isText]

theorem isText_partsOf (earlier : List Element) {element : Element} (text : isTextual element = true) :
    (partsOf earlier element).all Part.isText = true := by
  cases element with
  | heading level spans | paragraph spans => exact isText_line spans
  | listItem ordered depth spans =>
    rw [partsOf, List.all_cons, isText_line]
    rfl
  | codeBlock text | rule | unknown => rfl
  | table rows | image source isRemote alt => cases text

end Payload

theorem imagesIn_cons (element : Element) (earlier : List Element) :
    imagesIn (element :: earlier) = imagesIn earlier + imagesIn [element] := by
  simp [imagesIn, List.countP_cons]

theorem imagesIn_append (first second : List Element) :
    imagesIn (first ++ second) = imagesIn first + imagesIn second := by
  simp [imagesIn]

section Origin
variable {earlier elements : List Element}

private theorem mem_partsFrom {part : Part} (member : part ∈ partsFrom earlier elements) :
    ∃ before, ∃ element ∈ elements, part ∈ partsOf before element := by
  induction elements generalizing earlier with
  | nil => simp [partsFrom] at member
  | cons element elements ih =>
    rcases List.mem_append.mp member with own | later
    · exact ⟨earlier, element, by simp, own⟩
    · obtain ⟨before, other, inside, part⟩ := ih later
      exact ⟨before, other, List.mem_cons_of_mem element inside, part⟩

theorem image_of_partsFrom {ordinal : Nat} {source : String} {isRemote : Bool} {alt : String}
    (member : .image ordinal source isRemote alt ∈ partsFrom earlier elements) : .image source isRemote alt ∈ elements := by
  obtain ⟨before, element, inside, part⟩ := mem_partsFrom member
  cases element with
  | image address remote text =>
    simp only [partsOf, List.mem_cons, Part.image.injEq, List.not_mem_nil, or_false, lineEnd, reduceCtorEq] at part
    obtain ⟨_, rfl, rfl, rfl⟩ := part
    exact inside
  | table rows =>
    rw [partsOf] at part
    split at part <;> simp at part
  | _ => cases List.all_eq_true.mp (isText_partsOf before rfl) _ part

theorem table_of_partsFrom {cells : Grid} (member : .table cells ∈ partsFrom earlier elements) :
    ∃ rows, .table rows ∈ elements ∧ cells = padded rows ∧ rows.all List.isEmpty = false := by
  obtain ⟨before, element, inside, part⟩ := mem_partsFrom member
  cases element with
  | table rows =>
    rw [partsOf] at part
    split at part
    · simp at part
    · next some =>
      simp only [List.mem_singleton, Part.table.injEq] at part
      exact ⟨rows, inside, part, by simpa using some⟩
  | image source isRemote alt => simp [partsOf, lineEnd] at part
  | _ => cases List.all_eq_true.mp (isText_partsOf before rfl) _ part

theorem width_of_partsFrom {cells : Grid} (member : .table cells ∈ partsFrom earlier elements) :
    TableInsertion.width cells ≠ 0 := by
  obtain ⟨rows, _, rfl, some⟩ := table_of_partsFrom member
  rw [ne_eq, width_eq_zero]
  intro empty
  have none : rows.all List.isEmpty = true := by
    refine List.all_eq_true.mpr fun row given => ?_
    have padding := List.all_eq_true.mp empty _ (List.mem_map_of_mem given)
    rw [List.isEmpty_iff, List.append_eq_nil_iff] at padding
    rw [padding.1]
    rfl
  rw [none] at some
  cases some

end Origin

end DocScribe.Docs
