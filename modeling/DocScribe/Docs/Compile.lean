import DocScribe.Docs.Edit
import DocScribe.Markdown.Element
import DocScribe.Text.Search
import DocScribe.Text.Units

/-! Elements as one text for a document, with the edits that style it. A table leaves one anchor
unit in the text, and an image a line with a marker; both are put in afterwards. All positions are
fixed when the text is written. -/

namespace DocScribe.Docs
open DocScribe Markdown

/-- The cells of a table, each a sequence of spans. -/
abbrev Grid := List (List (List Span))

/-- A table that is to replace its anchor. -/
structure DeferredTable where
  offset : Int
  cells : Grid

namespace DeferredTable

def rows (table : DeferredTable) : Nat := table.cells.length

def columns (table : DeferredTable) : Nat := (table.cells.head?.map List.length).getD 0

end DeferredTable

/-- An image that is to replace its marker. -/
structure DeferredImage where
  ordinal : Int
  marker : String
  source : String
  isRemote : Bool
  offset : Int
  alt : String
  tag : String

/-- A style of some of the text. -/
structure StyledRange where
  start : Int
  stop : Int
  change : StyleChange
  /-- The style is one of paragraphs. -/
  ofParagraph : Bool

def StyledRange.edit (range : StyledRange) : Edit :=
  if range.ofParagraph then .styleParagraph range.start range.stop range.change
  else .styleText range.start range.stop range.change

/-- The character that stands for a table until it is inserted. -/
def tableAnchor : Char := Char.ofNat 0

/-- The tag of image markers, unless the text uses it. -/
def defaultTag : String := "IMG"

def imageMarker (ordinal : Int) (tag : String) : String := s!"[[{tag}:{ordinal}]]"

/-- The tag number `n`; the first has no number. -/
def numberedTag (n : Nat) : String := if n == 0 then defaultTag else s!"{defaultTag}{n}"

/-- The text holds the start of a marker with this tag. -/
def usesTag (text : List Char) (tag : String) : Bool :=
  Text.occursIn ("[[" ++ tag ++ ":").toList text

/-- The first tag from number `n` on whose markers do not start in the text. The fuel is more than
the number of markers that a text can hold. -/
def firstFreeTag (text : List Char) : (fuel n : Nat) → String
  | 0, n => numberedTag n
  | fuel + 1, n => if usesTag text (numberedTag n) then firstFreeTag text fuel (n + 1) else numberedTag n

/-- The first tag whose markers do not start in the text. -/
def chooseTag (text : String) : String := firstFreeTag text.toList (text.length + 1) 0

/-- The text of an element that is searched for markers. -/
def searchedText : Element → String
  | .heading _ spans => spansText spans
  | .paragraph spans => spansText spans
  | .listItem _ _ spans => spansText spans
  | .codeBlock text => text
  | .table rows => "\n".intercalate (rows.flatMap fun row => row.map spansText)
  | _ => ""

/-- A text for a document, with what is to be done to it. -/
structure Compiled where
  baseOffset : Int
  text : String
  styles : List StyledRange
  tables : List DeferredTable
  images : List DeferredImage
  warnings : List String
  tag : String

namespace Compiled

def endOffset (compiled : Compiled) : Int := compiled.baseOffset + Text.units compiled.text

def insertion (compiled : Compiled) : Edit := .insertText compiled.baseOffset compiled.text

/-- The edits that insert the text and style it; none when there is no text. -/
def edits (compiled : Compiled) : List Edit :=
  if compiled.text == "" then []
  else compiled.insertion :: compiled.styles.map StyledRange.edit

end Compiled

/-- The numbers of ordered items: for each depth, the last number that was given. -/
abbrev Counters := List (Nat × Nat)

namespace Counters

def upTo (depth : Nat) (counters : Counters) : Counters := counters.filter (·.1 ≤ depth)

def next (depth : Nat) (counters : Counters) : Nat := (counters.lookup depth).getD 0 + 1

def clear (depth : Nat) (counters : Counters) : Counters := counters.filter (·.1 != depth)

def set (depth number : Nat) (counters : Counters) : Counters :=
  (depth, number) :: counters.clear depth

end Counters

/-- What has been written, up to the position `offset`. -/
structure Draft where
  offset : Int
  text : List String := []
  styles : List StyledRange := []
  tables : List DeferredTable := []
  images : List DeferredImage := []
  warnings : List String := []
  counters : Counters := []
  tag : String

namespace Draft

def emit (text : String) (draft : Draft) : Draft :=
  { draft with text := draft.text ++ [text], offset := draft.offset + Text.units text }

/-- Sets a style from a position up to what is written. -/
def style (start : Int) (change : StyleChange) (ofParagraph : Bool) (draft : Draft) : Draft :=
  { draft with styles := draft.styles ++ [⟨start, draft.offset, change, ofParagraph⟩] }

def emitSpan (draft : Draft) (span : Span) : Draft :=
  if span.text == "" then draft
  else
    let written := draft.emit span.text
    if span.style.isStyled then written.style draft.offset (.ofStyle span.style) false else written

def emitSpans (spans : List Span) (draft : Draft) : Draft := spans.foldl emitSpan draft

def heading (level : Int) (spans : List Span) (draft : Draft) : Draft :=
  let written := draft.emitSpans spans
  -- its own style comes before those of its spans, so that the styles are in the order of their starts
  let styled :=
    if draft.offset < written.offset then
      { written with styles :=
          written.styles.insertIdx draft.styles.length ⟨draft.offset, written.offset, .ofHeading level, true⟩ }
    else written
  styled.emit "\n"

/-- Writes an item behind a tab for each depth and its number or bullet. -/
def item (ordered : Bool) (depth : Int) (spans : List Span) (draft : Draft) : Draft :=
  let depth := depth.toNat
  let counters := draft.counters.upTo depth
  let number := counters.next depth
  let counters := if ordered then counters.set depth number else counters.clear depth
  let mark := if ordered then s!"{number}. " else "• "
  let tabs : String := .ofList (List.replicate depth '\t')
  (({ draft with counters }.emit (tabs ++ mark)).emitSpans spans).emit "\n"

/-- Writes a code block without the line ends behind it. -/
def codeBlock (text : String) (draft : Draft) : Draft :=
  let text : String := .ofList (Text.trimEndBy (· == '\n') text.toList)
  let written :=
    if text == "" then draft
    else (draft.emit text).style draft.offset (.ofStyle { code := true }) false
  written.emit "\n"

/-- Writes a rule: an empty paragraph with a line under it. -/
def rule (draft : Draft) : Draft := (draft.emit "\n").style draft.offset .ruleBelow true

def warn (warning : String) (draft : Draft) : Draft :=
  { draft with warnings := draft.warnings ++ [warning] }

/-- Writes the anchor of a table, and keeps the table for later. -/
def table (rows : Grid) (draft : Draft) : Draft :=
  let columns := (rows.map List.length).foldl max 0
  let number := draft.tables.length + 1
  if columns == 0 then draft.warn s!"Table #{number} has no cells; skipped"
  else
    -- short rows get empty cells
    let short := rows.countP fun row => row.length < columns
    let padded := rows.map fun row => row ++ List.replicate (columns - row.length) []
    let draft :=
      if short == 0 then draft
      else draft.warn s!"Table #{number}: padded {short} short row(s) to {columns} columns"
    { draft.emit (String.singleton tableAnchor) with
      tables := draft.tables ++ [⟨draft.offset, padded⟩] }

/-- Writes the marker of an image on a line of its own. -/
def image (source : String) (isRemote : Bool) (alt : String) (draft : Draft) : Draft :=
  let ordinal : Int := draft.images.length
  let marker := imageMarker ordinal draft.tag
  { (draft.emit marker).emit "\n" with
    images := draft.images ++ [⟨ordinal, marker, source, isRemote, draft.offset, alt, draft.tag⟩] }

/-- Writes an element. Any element but an item ends the numbering of items. -/
def element (draft : Draft) : Element → Draft
  | .listItem ordered depth spans => draft.item ordered depth spans
  | other =>
    let draft := { draft with counters := [] }
    match other with
    | .heading level spans => draft.heading level spans
    | .paragraph spans => (draft.emitSpans spans).emit "\n"
    | .codeBlock text => draft.codeBlock text
    | .rule => draft.rule
    | .table rows => draft.table rows
    | .image source isRemote alt => draft.image source isRemote alt
    | .listItem .. => draft
    | .unknown => draft

end Draft

/-- Compiles elements for a position in a document. -/
def compile (elements : List Element) (baseOffset : Int) : Compiled :=
  let tag := chooseTag ("\n".intercalate (elements.map searchedText))
  let draft := elements.foldl Draft.element { offset := baseOffset, tag }
  { baseOffset, tag
    text := String.join draft.text
    styles := draft.styles
    tables := draft.tables
    images := draft.images
    warnings := draft.warnings }

end DocScribe.Docs
