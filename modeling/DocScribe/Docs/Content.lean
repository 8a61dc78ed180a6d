import DocScribe.Json.Access
import DocScribe.Text.Search

/-! The body of a document as a tree of paragraphs, tables and tables of contents. A part of the wrong
kind becomes a fault in its place, so that a reader meets it only if it gets there. -/

namespace DocScribe.Docs
open DocScribe

/-- A part of a paragraph. -/
inductive Run where
  /-- Text, with the position where it starts, if that is known. -/
  | text (text : String) (start : Option Json)
  /-- Content of a kind that is no text, a fault for who reads it. -/
  | unreadable (kind : String) (start : Option Json)
  | silent
  | fault (fault : Fault)

/-- A structural element. -/
inductive Node where
  | paragraph (runs : List Run)
  /-- Rows of cells, each with elements of its own. -/
  | table (rows : List (List (List Node)))
  | contents (nodes : List Node)
  /-- Of another kind, with nothing to read. -/
  | other
  /-- Absent: skipped by who reads text, and a fault for who looks for positions. -/
  | absent (fault : Fault)
  /-- Elements that are absent: a fault for who reads text, and skipped by who looks for positions. -/
  | unlisted (fault : Fault)
  | fault (fault : Fault)

namespace Run

def ofJson (value : Json) : Run :=
  let read : Outcome Run := do
    let textRun ← value.member "textRun"
    if !textRun.truthy then return .silent
    let content ← textRun.member "content"
    if !content.truthy then return .silent
    let start ← value.member? "startIndex"
    match content with
    | .str written => return .text written start
    | other => return .unreadable other.kind start
  match read with
  | .ok run => run
  | .error cause => .fault cause

def listOfJson (paragraph : Json) : Outcome (List Run) := do
  let elements ← paragraph.memberOr "elements" (.arr [])
  return (← elements.items).map ofJson

end Run

namespace Node

/-- The element that a text is taken for, where an element is due. -/
def ofText (text : String) : Node :=
  let names (key : String) : Bool := Text.occurs key text
  if names "paragraph" || names "table" || names "tableOfContents" then
    .fault (.wrongKind "string indices must be integers, not 'str'")
  else .other

theorem sizeOf_lookup {members : List (String × Json)} {key : String} {value : Json}
    (found : members.lookup key = some value) : sizeOf value < sizeOf members := by
  induction members with
  | nil => simp at found
  | cons head rest ih =>
    obtain ⟨name, first⟩ := head
    rw [List.lookup_cons] at found
    split at found
    · simp only [Option.some.injEq] at found
      subst found
      simp only [List.cons.sizeOf_spec, Prod.mk.sizeOf_spec]
      omega
    · have := ih found
      simp only [List.cons.sizeOf_spec]
      omega

/-- What the value of a member lists, or the fault in its place. A member that is missing counts as an
empty array. -/
inductive Listing (value : Json) where
  | items (items : List Json) (smaller : sizeOf items < sizeOf value)
  | texts (texts : List String)
  /-- Null, zero or false stands where items are due. -/
  | absent (fault : Fault)
  | fault (fault : Fault)

def Listing.ofItems (value : Json) : Listing value :=
  match value with
  | .arr listed => .items listed (by simp)
  | .obj members => .texts (members.map Prod.fst)
  | .str text => .texts (text.toList.map String.singleton)
  | single =>
    let cause := Fault.wrongKind s!"'{single.kind}' object is not iterable"
    if single.truthy then .fault cause else .absent cause

/-- What the member `key` of an object lists. -/
def Listing.ofMember (key : String) (value : Json) : Listing value :=
  match value with
  | .obj members =>
    match found : members.lookup key with
    | none => .texts []
    | some inner =>
      have smaller : sizeOf inner < sizeOf members := sizeOf_lookup found
      match Listing.ofItems inner with
      | .items listed less => .items listed (by simp only [Json.obj.sizeOf_spec]; omega)
      | .texts listed => .texts listed
      | .absent cause => .absent cause
      | .fault cause => .fault cause
  | single => .fault (.noMember single.kind "get")

mutual

def ofJson (value : Json) : Node :=
  match value with
  | .obj members =>
    match members.lookup "paragraph" with
    | some inner => match Run.listOfJson inner with
      | .ok runs => .paragraph runs
      | .error cause => .fault cause
    | none => match found : members.lookup "table" with
      | some inner =>
        have := sizeOf_lookup found
        match Listing.ofMember "tableRows" inner with
        | .items rows _ => .table (rowsOfJson rows)
        | .texts [] => .table []
        | .texts _ => .fault (.noMember "str" "get")
        | .absent cause => .fault cause
        | .fault cause => .fault cause
      | none => match found : members.lookup "tableOfContents" with
        | some inner =>
          have := sizeOf_lookup found
          match Listing.ofMember "content" inner with
          | .items items _ => .contents (listOfJson items)
          | .texts texts => .contents (texts.map ofText)
          | .absent cause => .unlisted cause
          | .fault cause => .fault cause
        | none => .other
  | .arr items =>
    if items.any (fun item => item.text? == some "paragraph" || item.text? == some "table" ||
        item.text? == some "tableOfContents") then
      .fault (.wrongKind "list indices must be integers or slices, not str")
    else .other
  | .str text => ofText text
  | single =>
    let cause := Fault.wrongKind s!"argument of type '{single.kind}' is not iterable"
    if single.truthy then .fault cause else .absent cause
termination_by sizeOf value

def listOfJson (items : List Json) : List Node :=
  match items with
  | [] => []
  | item :: rest => ofJson item :: listOfJson rest
termination_by sizeOf items

/-- The rows of a table. A row of the wrong kind is a row with one cell that is a fault. -/
def rowsOfJson (rows : List Json) : List (List (List Node)) :=
  match rows with
  | [] => []
  | row :: rest =>
    (match Listing.ofMember "tableCells" row with
      | .items cells _ => cellsOfJson cells
      | .texts [] => []
      | .texts _ => [[.fault (.noMember "str" "get")]]
      | .absent cause => [[.fault cause]]
      | .fault cause => [[.fault cause]]) :: rowsOfJson rest
termination_by sizeOf rows

def cellsOfJson (cells : List Json) : List (List Node) :=
  match cells with
  | [] => []
  | cell :: rest =>
    (match Listing.ofMember "content" cell with
      | .items items _ => listOfJson items
      | .texts texts => texts.map ofText
      | .absent cause => [.unlisted cause]
      | .fault cause => [.fault cause]) :: cellsOfJson rest
termination_by sizeOf cells

end

/-- The elements of a body's content; nothing for content that is absent. -/
def contentOfJson (content : Json) : List Node :=
  match Listing.ofItems content with
  | .items items _ => listOfJson items
  | .texts texts => texts.map ofText
  | .absent _ => []
  | .fault cause => [.fault cause]

end Node
end DocScribe.Docs
