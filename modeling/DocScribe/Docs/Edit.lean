import DocScribe.Json.Basic
import DocScribe.Markdown.Span
import DocScribe.Text.Units

/-! The edits of a document that one batch applies in order, and the styles that they set. Positions
count UTF-16 units. -/

namespace DocScribe.Docs
open Markdown (Style)

/-- Properties of text or of a paragraph, and the mask that names those which are set. -/
structure StyleChange where
  properties : List (String × Json)
  mask : String

inductive Edit where
  | insertText (index : Int) (text : String)
  | deleteRange (start stop : Int)
  | styleText (start stop : Int) (change : StyleChange)
  | styleParagraph (start stop : Int) (change : StyleChange)
  | insertTable (index rows columns : Int)
  | insertImage (index : Int) (url : String)
  /-- An edit that is passed on as it was given. -/
  | given (request : Json)

namespace Edit

def range (start stop : Int) : Json :=
  .obj [("startIndex", .int start), ("endIndex", .int stop)]

def location (index : Int) : Json := .obj [("index", .int index)]

/-- The form in which the service takes an edit. -/
def toJson : Edit → Json
  | .insertText index text =>
    .obj [("insertText", .obj [("location", location index), ("text", .str text)])]
  | .deleteRange start stop =>
    .obj [("deleteContentRange", .obj [("range", range start stop)])]
  | .styleText start stop change =>
    .obj [("updateTextStyle", .obj [("range", range start stop),
      ("textStyle", .obj change.properties), ("fields", .str change.mask)])]
  | .styleParagraph start stop change =>
    .obj [("updateParagraphStyle", .obj [("range", range start stop),
      ("paragraphStyle", .obj change.properties), ("fields", .str change.mask)])]
  | .insertTable index rows columns =>
    .obj [("insertTable", .obj [("location", location index), ("rows", .int rows),
      ("columns", .int columns)])]
  | .insertImage index url =>
    .obj [("insertInlineImage", .obj [("location", location index), ("uri", .str url)])]
  | .given request => request

end Edit

namespace StyleChange

/-- A change that sets exactly the given properties. -/
def ofProperties (properties : List (String × Json)) : StyleChange :=
  ⟨properties, ",".intercalate (properties.map Prod.fst)⟩

/-- A colour whose three parts are equal, in hundredths. -/
def grey (hundredths : Nat) : Json :=
  let part : Json := .decimal (.ofScientific false hundredths (-2))
  .obj [("rgbColor", .obj [("red", part), ("green", part), ("blue", part)])]

def points (size : Json) : Json := .obj [("magnitude", size), ("unit", .str "PT")]

/-- The properties of inline styles. Code has a fixed-width font on light grey. -/
def ofStyle (style : Style) : StyleChange :=
  ofProperties <|
    (if style.bold then [("bold", .bool true)] else []) ++
    (if style.italic then [("italic", .bool true)] else []) ++
    (if style.strikethrough then [("strikethrough", .bool true)] else []) ++
    (if style.code then
      [("weightedFontFamily", .obj [("fontFamily", .str "Consolas"), ("weight", .int 400)]),
        ("backgroundColor", .obj [("color", grey 96)])]
    else []) ++
    (match style.link with
      | some target => [("link", .obj [("url", .str target)])]
      | none => [])

/-- The named style of a heading; a level beyond those that exist has the last. -/
def ofHeading (level : Int) : StyleChange :=
  let known := if 1 ≤ level && level ≤ 6 then level else 6
  ofProperties [("namedStyleType", .str s!"HEADING_{known}")]

/-- A thin line under a paragraph. -/
def ruleBelow : StyleChange :=
  ofProperties [("borderBottom", .obj [("color", .obj [("color", grey 70)]),
    ("width", points (.decimal (.ofScientific false 1 0))), ("dashStyle", .str "SOLID"),
    ("padding", points (.int 6))])]

end StyleChange

/-- The address of a document for a reader. -/
def webLink (documentId : String) : String :=
  s!"https://docs.google.com/document/d/{documentId}/edit"

end DocScribe.Docs
