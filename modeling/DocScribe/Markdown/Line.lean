import DocScribe.Text.Blank
import DocScribe.Text.Search

/-! The lines of a Markdown text as the blocks around them leave them. A tab reaches to the next
column that is a multiple of four, counted from the start of the whole line, so a line remembers at
which column its characters start. -/

namespace DocScribe.Markdown
open DocScribe

/-- A line inside a block. -/
structure Line where
  /-- The characters, those of an item's mark included. -/
  chars : List Char
  /-- How many of them come before the content: blanks, and the mark of an item that starts here. -/
  lead : Nat
  /-- The column of the content, counted from the block's own margin. It is negative for a line that
  only continues the paragraph of a quote without the quote's mark. -/
  indent : Int
  /-- The column at which the characters start. -/
  column : Nat
  deriving Inhabited

namespace Line

/-- The column behind a blank at `column`; a tab is as wide as the line's position makes it. -/
def advance (shift column : Nat) (c : Char) : Nat :=
  if c == '\t' then column + (4 - (column + shift) % 4) else column + 1

/-- The column behind the blanks at the start of a text that starts at `column`. -/
def contentColumn (shift column : Nat) (text : List Char) : Nat :=
  (text.takeWhile Text.isIndent).foldl (advance shift) column

def ofChars (chars : List Char) : Line :=
  { chars, lead := (chars.takeWhile Text.isIndent).length
    indent := contentColumn 0 0 chars, column := 0 }

def content (line : Line) : List Char := line.chars.drop line.lead

def isEmpty (line : Line) : Bool := line.content.isEmpty

/-- Cuts characters until `width` columns are cut; `used` columns and `passed` characters are cut already. -/
def cutColumns (line : Line) (width : Nat) : (used passed : Nat) → List Char → List Char
  | used, _, [] => List.replicate (used - width) ' '
  | used, passed, c :: rest =>
    -- of a tab that reaches beyond the width the rest becomes spaces
    if width ≤ used then List.replicate (used - width) ' ' ++ c :: rest
    else if Text.isIndent c then cutColumns line width (advance line.column used c) (passed + 1) rest
    else if passed < line.lead then cutColumns line width (used + 1) (passed + 1) rest
    else c :: rest

/-- The line without `width` columns at its start. -/
def cut (width : Nat) (line : Line) : List Char := line.cutColumns width 0 0 line.chars

/-- The lines of a text. A carriage return ends a line too, and a last line of nothing but spaces
and tabs is none. -/
def ofText (text : List Char) : List Line :=
  let parts := Text.splitAt '\n' (normalize text)
  let parts := match parts.getLast? with
    | some last => if last.all Text.isIndent then parts.dropLast else parts
    | none => parts
  parts.map ofChars
where
  /-- Gives line ends one form, and replaces the character that marks tables in a document. -/
  normalize : List Char → List Char
    | [] => []
    | '\r' :: '\n' :: rest => '\n' :: normalize rest
    | '\r' :: rest => '\n' :: normalize rest
    | c :: rest => (if c == Char.ofNat 0 then Char.ofNat 0xfffd else c) :: normalize rest

end Line

/-- The text of lines, cut at a margin. -/
def linesText (width : Nat) (lines : List Line) : List Char :=
  Text.joinWith ['\n'] (lines.map (Line.cut width))

/-- The text of lines of code, cut at a margin, each with its line end. -/
def codeLines (width : Nat) (lines : List Line) : List Char :=
  lines.flatMap fun line => line.cut width ++ ['\n']

end DocScribe.Markdown
