import DocScribe.Docs.Edit
import DocScribe.Proofs.Text.Separated
import DocScribe.Proofs.Text.Utf16
import DocScribe.Text.Search

/-! The body of a document as its service keeps it: a sequence of slots, one for each index. A slot
holds a UTF-16 unit of a text or a unit of structure, with the text style that was set on it, and every
edit changes this sequence at the indices that it names. -/

namespace DocScribe.Docs
open DocScribe

/-- What stands at one index of a body. -/
inductive SlotContent where
  | code (unit : Nat)
  | tableStart
  | rowStart
  | cellStart
  | tableEnd
  | image (url : String)
  /-- Some other structure, told apart by a number. -/
  | other (kind : Nat)
  deriving DecidableEq

/-- The values of the fields of a text style that are set. -/
abbrev TextStyle := String → Option Json

def TextStyle.none : TextStyle := fun _ => Option.none

structure Slot where
  content : SlotContent
  style : TextStyle

/-- A body; the slot of an index is that of the same position in the list. -/
abbrev LiveBody := List Slot

namespace StyleChange

def fields (change : StyleChange) : List String := (Text.splitAt ',' change.mask.toList).map String.ofList

/-- Sets the fields that the mask names to what the properties say. -/
def applyTo (change : StyleChange) (style : TextStyle) : TextStyle := fun field =>
  if field ∈ change.fields then change.properties.lookup field else style field

theorem fields_ofProperties {properties : List (String × Json)} (some : properties ≠ [])
    (free : ∀ property ∈ properties, ',' ∉ property.1.toList) :
    (ofProperties properties).fields = properties.map Prod.fst := by
  have mask : (ofProperties properties).mask.toList = [','].intercalate (properties.map fun property => property.1.toList) := by
    simp [ofProperties, String.toList_intercalate, Function.comp_def]
  rw [fields, mask, Text.splitAt_intercalate (by simpa using some) (List.forall_mem_map.mpr free)]
  simp [Function.comp_def]

end StyleChange

namespace Slot

def plain (content : SlotContent) : Slot := ⟨content, TextStyle.none⟩

def restyle (change : StyleChange) (slot : Slot) : Slot := { slot with style := change.applyTo slot.style }

@[simp] theorem content_plain (content : SlotContent) : (plain content).content = content := rfl

@[simp] theorem content_restyle (change : StyleChange) (slot : Slot) :
    (slot.restyle change).content = slot.content := rfl

end Slot

def textContents (text : List Char) : List SlotContent := (Text.codes text).map .code

@[simp] theorem textContents_nil : textContents [] = [] := rfl

@[simp] theorem textContents_append (first second : List Char) :
    textContents (first ++ second) = textContents first ++ textContents second := by
  simp [textContents]

@[simp] theorem length_textContents (text : List Char) : (textContents text).length = Text.listUnits text := by
  simp [textContents]

theorem textContents_eq_nil {text : List Char} : textContents text = [] ↔ text = [] := by
  simp [textContents, Text.codes_eq_nil]

/-- The contents of the slots of an empty row: its start, and for each cell its start and a line end. -/
def emptyRow (columns : Nat) : List SlotContent :=
  .rowStart :: (List.replicate columns [.cellStart, .code 10]).flatten

/-- The contents of the slots of an empty table: its start, its rows and a closing unit. -/
def emptyTable (rows columns : Nat) : List SlotContent :=
  .tableStart :: (List.replicate rows (emptyRow columns)).flatten ++ [.tableEnd]

namespace LiveBody

def contents (body : LiveBody) : List SlotContent := body.map Slot.content

def splice (index : Int) (slots body : LiveBody) : LiveBody :=
  body.take index.toNat ++ (slots ++ body.drop index.toNat)

/-- Takes the slots of a range out; a range that ends before it starts has none. -/
def remove (start stop : Int) (body : LiveBody) : LiveBody :=
  body.take start.toNat ++ body.drop (max start.toNat stop.toNat)

def restyle (start stop : Int) (change : StyleChange) (body : LiveBody) : LiveBody :=
  body.mapIdx fun index slot => if start ≤ index ∧ index < stop then slot.restyle change else slot

end LiveBody

def plainSlots (contents : List SlotContent) : LiveBody := contents.map Slot.plain

/-- What an edit does to a body, where `keeps` tells which characters of a text are stored. A paragraph's
style is not one of text. -/
def Edit.applyTo (keeps : Char → Bool) (body : LiveBody) : Edit → LiveBody
  | .insertText index text => LiveBody.splice index (plainSlots (textContents (text.toList.filter keeps))) body
  | .deleteRange start stop => body.remove start stop
  | .styleText start stop change => body.restyle start stop change
  | .styleParagraph .. => body
  | .insertTable index rows columns => LiveBody.splice index (plainSlots (emptyTable rows.toNat columns.toNat)) body
  | .insertImage index url => LiveBody.splice index [Slot.plain (.image url)] body
  | .given _ => body

def applyEdits (keeps : Char → Bool) (edits : List Edit) (body : LiveBody) : LiveBody :=
  edits.foldl (Edit.applyTo keeps) body

@[simp] theorem applyEdits_nil (keeps : Char → Bool) (body : LiveBody) : applyEdits keeps [] body = body := rfl

@[simp] theorem applyEdits_cons (keeps : Char → Bool) (edit : Edit) (edits : List Edit) (body : LiveBody) :
    applyEdits keeps (edit :: edits) body = applyEdits keeps edits (edit.applyTo keeps body) := rfl

@[simp] theorem applyEdits_append (keeps : Char → Bool) (first second : List Edit) (body : LiveBody) :
    applyEdits keeps (first ++ second) body = applyEdits keeps second (applyEdits keeps first body) := by
  simp [applyEdits]

section PlainSlots

@[simp] theorem plainSlots_nil : plainSlots [] = [] := rfl

@[simp] theorem plainSlots_cons (content : SlotContent) (contents : List SlotContent) :
    plainSlots (content :: contents) = Slot.plain content :: plainSlots contents := rfl

@[simp] theorem plainSlots_append (first second : List SlotContent) :
    plainSlots (first ++ second) = plainSlots first ++ plainSlots second := by
  simp [plainSlots]

@[simp] theorem length_plainSlots (contents : List SlotContent) : (plainSlots contents).length = contents.length := by
  simp [plainSlots]

@[simp] theorem contents_plainSlots (contents : List SlotContent) :
    LiveBody.contents (plainSlots contents) = contents := by
  simp [plainSlots, LiveBody.contents, Function.comp_def]

end PlainSlots

namespace LiveBody

@[simp] theorem contents_nil : contents [] = [] := rfl

@[simp] theorem contents_cons (slot : Slot) (body : LiveBody) :
    contents (slot :: body) = slot.content :: contents body := rfl

@[simp] theorem contents_append (first second : LiveBody) :
    contents (first ++ second) = contents first ++ contents second := by
  simp [contents]

@[simp] theorem length_contents (body : LiveBody) : (contents body).length = body.length := by
  simp [contents]

/-- The index is a hypothesis of its own, so that it may be computed in another way than by counting. -/
theorem splice_at {front back : LiveBody} {index : Int} (slots : LiveBody) (place : (front.length : Int) = index) :
    splice index slots (front ++ back) = front ++ (slots ++ back) := by
  subst place
  simp [splice]

theorem remove_between {front middle back : LiveBody} {start stop : Int} (place : (front.length : Int) = start)
    (size : start + middle.length = stop) :
    remove start stop (front ++ (middle ++ back)) = front ++ back := by
  subst place size
  have behind : max (front.length : Int).toNat ((front.length : Int) + middle.length).toNat =
      front.length + middle.length := by omega
  rw [remove, behind]
  simp [List.drop_append]

theorem restyle_between {front middle back : LiveBody} {start stop : Int} (change : StyleChange)
    (place : (front.length : Int) = start) (size : start + middle.length = stop) :
    restyle start stop change (front ++ (middle ++ back)) =
      front ++ (middle.map (Slot.restyle change) ++ back) := by
  subst place size
  simp only [restyle, List.mapIdx_append]
  congr 1
  · apply List.ext_getElem (by simp)
    intro index inside _
    have before : index < front.length := by simpa using inside
    simp only [List.getElem_mapIdx]
    rw [if_neg (by omega)]
  · congr 1
    · apply List.ext_getElem (by simp)
      intro index inside _
      have among : index < middle.length := by simpa using inside
      simp only [List.getElem_mapIdx, List.getElem_map]
      rw [if_pos (by omega)]
    · apply List.ext_getElem (by simp)
      intro index inside _
      simp only [List.getElem_mapIdx]
      rw [if_neg (by omega)]

@[simp] theorem contents_restyle (start stop : Int) (change : StyleChange) (body : LiveBody) :
    contents (restyle start stop change body) = contents body := by
  unfold contents restyle
  apply List.ext_getElem (by simp)
  intro index _ _
  simp only [List.getElem_map, List.getElem_mapIdx]
  split <;> rfl

theorem getElem?_restyle_outside (start stop : Int) (change : StyleChange) (body : LiveBody) {index : Nat}
    (outside : index < start ∨ stop ≤ index) : (restyle start stop change body)[index]? = body[index]? := by
  simp only [restyle, List.getElem?_mapIdx]
  cases body[index]? with
  | none => rfl
  | some slot =>
    simp only [Option.map_some, Option.some.injEq]
    rw [if_neg (by omega)]

end LiveBody
end DocScribe.Docs
