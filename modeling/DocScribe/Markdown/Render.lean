import DocScribe.Markdown.Element
import DocScribe.Text.Digit
import DocScribe.Text.Search

/-! Writing elements as Markdown. -/

namespace DocScribe.Markdown
open DocScribe

namespace Render

/-- The characters that a backslash keeps from being marks. -/
def isMark (c : Char) : Bool := "\\`*_[]~<>|".toList.contains c

def escape (text : List Char) : List Char :=
  text.flatMap fun c => if isMark c then ['\\', c] else [c]

/-- The text of a span, before its style is marked: a line end is a hard break. -/
def plainText (text : List Char) : List Char :=
  (escape text).flatMap fun c => if c == '\n' then ['\\', '\n'] else [c]

/-- A code span. Text with a backtick gets a longer fence and a space on either side. -/
def codeSpan (text : List Char) : List Char :=
  if text.contains '`' then "`` ".toList ++ text ++ " ``".toList else '`' :: text ++ ['`']

/-- Marks on both sides of a text. -/
def wrap (on : Bool) (mark : String) (text : List Char) : List Char :=
  if on then mark.toList ++ text ++ mark.toList else text

def span (s : Span) : List Char :=
  let body := if s.style.code then codeSpan s.text.toList else plainText s.text.toList
  let body := wrap s.style.bold "**" (wrap s.style.italic "*" (wrap s.style.strikethrough "~~" body))
  match s.style.link with
  | some target => '[' :: body ++ [']', '('] ++ target.toList ++ [')']
  | none => body

/-- Escapes what would start a block: a mark of a heading, a quote, an item or an underline, or the
sign after a number. -/
def guardStart (text : List Char) : List Char :=
  match text with
  | c :: rest =>
    if "#>+-=".toList.contains c then '\\' :: text
    else
      let digits := text.takeWhile Text.isDigit
      match text.drop digits.length with
      | sign :: after =>
        if !digits.isEmpty && (sign == '.' || sign == ')') then digits ++ '\\' :: sign :: after
        else c :: rest
      | [] => text
  | [] => []

def spans (s : List Span) : List Char := guardStart (s.flatMap span)

/-- A row of a table, with empty cells up to the number of columns. -/
def row (columns : Nat) (cells : List (List Span)) : List Char :=
  let texts := cells.map spans ++ List.replicate (columns - cells.length) []
  "| ".toList ++ Text.joinWith " | ".toList texts ++ " |".toList

/-- The widest row of a table. -/
def columns (rows : List (List (List Span))) : Nat := (rows.map List.length).foldl max 0

/-- A table: its header, the line under it, and the other rows. -/
def table (rows : List (List (List Span))) : List Char :=
  let columns := columns rows
  match rows with
  | [] => []
  | header :: body =>
    let under := '|' :: Text.joinWith ['|'] (List.replicate columns "---".toList) ++ ['|']
    Text.joinWith ['\n'] (row columns header :: under :: body.map (row columns))

/-- The length of the longest run of backticks; `current` is the run that ends here. -/
def longestTicks (current : Nat) : List Char → Nat
  | [] => current
  | c :: rest =>
    if c == '`' then longestTicks (current + 1) rest else max current (longestTicks 0 rest)

/-- A code block between fences that are longer than any run of backticks inside. -/
def codeBlock (text : List Char) : List Char :=
  let fence := List.replicate (max 3 (longestTicks 0 text + 1)) '`'
  fence ++ '\n' :: text ++ '\n' :: fence

/-- An image. A source with a blank or a bracket stands in angle brackets. -/
def image (source alt : List Char) : List Char :=
  let source := if source.any " ()".toList.contains then '<' :: source ++ ['>'] else source
  ['!', '['] ++ escape alt ++ [']', '('] ++ source ++ [')']

/-- An element that is no item; nothing for one that has no form. -/
def block? : Element → Option (List Char)
  | .heading level s => some (List.replicate level.toNat '#' ++ ' ' :: spans s)
  | .paragraph s => some (spans s)
  | .table rows => some (table rows)
  | .image source _ alt => some (image source.toList alt.toList)
  | .rule => some "---".toList
  | .codeBlock text => some (codeBlock text.toList)
  | .listItem .. => none
  | .unknown => none

/-- The widths that indent the items of each depth after an item: those of its ancestors, two for
each that is missing, and the width of its own mark. A negative depth counts from the deepest. -/
def widthsBefore (depth : Int) (widths : List Nat) : List Nat :=
  let kept := if 0 ≤ depth then depth.toNat else (widths.length + depth).toNat
  let widths := widths.take kept
  widths ++ List.replicate (depth.toNat - widths.length) 2

def itemMark (ordered : Bool) : List Char := if ordered then ['1', '.'] else ['-']

/-- The blocks so far, the last one first, and the widths of the items of the run that the last
block is, if it is one. -/
structure Progress where
  blocks : List (List Char) := []
  run : Option (List Nat) := none

/-- Adds an element. Items in a row share a block, one on each line. -/
def add (progress : Progress) (element : Element) : Progress :=
  match element with
  | .listItem ordered depth s =>
    let widths := widthsBefore depth (progress.run.getD [])
    let mark := itemMark ordered
    let line := List.replicate (widths.foldl (· + ·) 0) ' ' ++ mark ++ ' ' :: spans s
    { blocks := match progress.run, progress.blocks with
        | some _, last :: before => (last ++ '\n' :: line) :: before
        | _, blocks => line :: blocks
      run := some (widths ++ [mark.length + 1]) }
  | element => ⟨(block? element).toList ++ progress.blocks, none⟩

end Render

/-- Elements as a Markdown text, with an empty line between blocks. -/
def render (elements : List Element) : String :=
  match (elements.foldl Render.add {}).blocks.reverse with
  | [] => ""
  | blocks => .ofList (Text.joinWith ['\n', '\n'] blocks ++ ['\n'])

end DocScribe.Markdown
