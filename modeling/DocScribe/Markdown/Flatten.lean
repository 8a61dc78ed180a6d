import DocScribe.Markdown.Element
import DocScribe.Markdown.Inline
import DocScribe.Text.Blank
import DocScribe.Text.Search

/-! Inline content as spans of styled text and images between them. -/

namespace DocScribe.Markdown
open DocScribe

/-- A span, or an image that stands between spans. -/
inductive Piece where
  | span (span : Span)
  | image (source : String) (isRemote : Bool) (alt : String)
  deriving DecidableEq, Inhabited

/-- What is open at a point of the content: how many marks of each style, and the targets of the
links, the innermost first. -/
structure OpenStyles where
  strong : Nat := 0
  emphasis : Nat := 0
  strike : Nat := 0
  links : List String := []

namespace OpenStyles

def style (styles : OpenStyles) (code : Bool) : Style where
  bold := 0 < styles.strong
  italic := 0 < styles.emphasis
  strikethrough := 0 < styles.strike
  code := code
  link := styles.links.head?

/-- Changes the number of open marks of one style. -/
def count (mark : Mark) (change : Nat → Nat) (styles : OpenStyles) : OpenStyles :=
  match mark with
  | .strong => { styles with strong := change styles.strong }
  | .emphasis => { styles with emphasis := change styles.emphasis }
  | .strike => { styles with strike := change styles.strike }

/-- What is open behind an item. Closing what is not open changes nothing. -/
def after (item : Inline) (styles : OpenStyles) : OpenStyles :=
  match item with
  | .openMark mark => styles.count mark (· + 1)
  | .closeMark mark => styles.count mark (· - 1)
  | .openLink target => { styles with links := .ofList target :: styles.links }
  | .closeLink => { styles with links := styles.links.tail }
  | _ => styles

end OpenStyles

def uncheckedBox : Char := '☐'

def checkedBox : Char := '☑'

/-- HTML as text; a checkbox of a task list shows as a box. -/
def htmlText (source : List Char) : List Char :=
  if Text.occursIn "class=\"task-list-item-checkbox\"".toList source then
    [if Text.occursIn "checked=\"checked\"".toList source then checkedBox else uncheckedBox]
  else source

/-- The text that an item contributes, and whether it is code. -/
def Inline.contribution : Inline → List Char × Bool
  | .text chars => (chars, false)
  | .escaped chars => (chars, false)
  | .softBreak => ([' '], false)
  | .hardBreak => (['\n'], false)
  | .code chars => (chars, true)
  | .html source => (htmlText source, false)
  | _ => ([], false)

namespace Piece

/-- Adds text before pieces, joined with a first span of the same style. Empty text adds nothing. -/
def addText (text : List Char) (style : Style) (pieces : List Piece) : List Piece :=
  if text.isEmpty then pieces
  else match pieces with
    | .span next :: rest =>
      if next.style == style then .span ⟨.ofList text ++ next.text, style⟩ :: rest
      else .span ⟨.ofList text, style⟩ :: pieces
    | _ => .span ⟨.ofList text, style⟩ :: pieces

/-- The pieces of content that starts with these styles open. An image without a source is
dropped. -/
def ofInlineFrom (styles : OpenStyles) : List Inline → List Piece
  | [] => []
  | item :: rest =>
    let more := ofInlineFrom (styles.after item) rest
    match item with
    | .image source alt =>
      if source.isEmpty then more
      else .image (.ofList source) (isRemoteRef (.ofList source)) (.ofList alt) :: more
    | _ =>
      let (text, code) := item.contribution
      addText text (styles.style code) more

def ofInline (items : List Inline) : List Piece := ofInlineFrom {} items

end Piece

/-- The spans of content where images cannot stand: an image is replaced by its description. -/
def spansOnly (pieces : List Piece) : List Span :=
  pieces.filterMap fun piece => match piece with
    | .span span => some span
    | .image _ _ alt => if alt == "" then none else some ⟨alt, .plain⟩

/-- Cuts the spans that are blank from the start, and the blanks from the first that is not. -/
def trimStartSpans : List Span → List Span
  | [] => []
  | span :: rest =>
    if Text.allBlank span.text then trimStartSpans rest
    else { span with text := Text.trimStart span.text } :: rest

/-- Cuts the spans that are blank from the end, and the blanks from the last that is not. -/
def trimEndSpans : List Span → List Span
  | [] => []
  | span :: rest => match trimEndSpans rest with
    | [] => if Text.allBlank span.text then [] else [{ span with text := Text.trimEnd span.text }]
    | rest => span :: rest

def trimSpans (spans : List Span) : List Span := trimEndSpans (trimStartSpans spans)

/-- A segment of spans as a paragraph, unless it is blank. -/
def segmentElement (segment : List Span) : List Element :=
  match trimSpans segment with
  | [] => []
  | spans => [.paragraph spans]

/-- The elements of a paragraph: its images, and the segments between them. `segment` is the one
that is being collected. -/
def splitAtImages (segment : List Span) : List Piece → List Element
  | [] => segmentElement segment
  | .span span :: rest => splitAtImages (segment ++ [span]) rest
  | .image source isRemote alt :: rest =>
    segmentElement segment ++ .image source isRemote alt :: splitAtImages [] rest

def paragraphElements (pieces : List Piece) : List Element := splitAtImages [] pieces

end DocScribe.Markdown
