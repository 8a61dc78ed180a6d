import DocScribe.Markdown.Definition
import DocScribe.Markdown.HtmlTag
import DocScribe.Markdown.Line

/-! How each kind of block starts, and which starts interrupt a paragraph, a quote or an item. -/

namespace DocScribe.Markdown
open DocScribe

/-- The margin of the block that holds a line. -/
structure Margin where
  /-- The column where the content of the holding block starts. -/
  indent : Int
  /-- The margin around the innermost list, if there is one. -/
  aroundList : Option Int
  deriving Inhabited

def Margin.page : Margin := ⟨0, none⟩

namespace Line

/-- Four columns or more inside the margin: code, where code may start. -/
def isDeep (margin : Margin) (line : Line) : Bool := 4 ≤ line.indent - margin.indent

/-- Left of the margin. -/
def isOutside (margin : Margin) (line : Line) : Bool := line.indent < margin.indent

end Line

/-- The fence at the start of a code block: its character, its length and its column. -/
structure Fence where
  mark : Char
  length : Nat
  column : Nat

namespace BlockStart

/-- A fence of three or more backticks or tildes. No backtick follows one of backticks. -/
def fence? (margin : Margin) (line : Line) : Option Fence :=
  match line.content with
  | mark :: rest =>
    let length := 1 + (rest.takeWhile (· == mark)).length
    if line.isDeep margin || (mark != '`' && mark != '~') || length < 3 ||
        (mark == '`' && (rest.drop (length - 1)).contains '`') then none
    else some ⟨mark, length, line.indent.toNat⟩
  | [] => none

/-- The fence that closes a code block: no shorter, and with nothing behind it. -/
def closesFence (margin : Margin) (fence : Fence) (line : Line) : Bool :=
  let length := (line.content.takeWhile (· == fence.mark)).length
  !line.isDeep margin && fence.length ≤ length && 0 < length &&
    (line.content.drop length).all Text.isIndent

def isQuote (margin : Margin) (line : Line) : Bool :=
  !line.isDeep margin && line.content.head? == some '>'

/-- A rule: three or more of one mark, and nothing but blanks between. -/
def isRule (margin : Margin) (line : Line) : Bool :=
  match line.content with
  | mark :: rest =>
    !line.isDeep margin && (mark == '*' || mark == '-' || mark == '_') &&
      rest.all (fun c => c == mark || Text.isIndent c) && 2 ≤ rest.count mark
  | [] => false

/-- The level of a heading, and what follows its marks. -/
def heading? (margin : Margin) (line : Line) : Option (Nat × List Char) :=
  let level := (line.content.takeWhile (· == '#')).length
  let rest := line.content.drop level
  if line.isDeep margin || level == 0 || 6 < level || !rest.head?.all Text.isIndent then none
  else some (level, rest)

/-- The mark of a list item. -/
structure ItemMark where
  ordered : Bool
  /-- How many characters it has. -/
  width : Nat
  number : Nat
  /-- Its last character, which all items of a list share. -/
  sign : Char

/-- The mark of an item, which a blank follows or the end of the line: a number of at most nine
digits with a point or a bracket, or a single sign. -/
def itemMark? (content : List Char) : Option ItemMark :=
  let digits := content.takeWhile Char.isDigit
  let mark? : Option ItemMark := match content.drop digits.length with
    | sign :: _ =>
      if digits.isEmpty then
        if sign == '*' || sign == '-' || sign == '+' then some ⟨false, 1, 0, sign⟩ else none
      else if digits.length ≤ 9 && (sign == '.' || sign == ')') then
        some ⟨true, digits.length + 1, Entity.decimalNat digits, sign⟩
      else none
    | [] => none
  mark?.filter fun mark => (content.drop mark.width).head?.all Text.isIndent

/-- The mark of an item where a list may start. A line that hangs left of its margin but four columns
inside the margin around the list continues a paragraph. -/
def list? (margin : Margin) (line : Line) : Option ItemMark :=
  let hangs := margin.aroundList.any fun outer =>
    0 ≤ outer && 4 ≤ line.indent - outer && line.isOutside margin
  if line.isDeep margin || hangs then none else itemMark? line.content

/-- A list that may interrupt a paragraph inside the margin: it does not start with an empty item,
and its number, if it has one, is 1. -/
def interruptingList (margin : Margin) (line : Line) : Bool :=
  (list? margin line).any fun mark =>
    line.isOutside margin ||
      ((!mark.ordered || mark.number == 1) && !(line.content.drop mark.width).all Text.isIndent)

/-- The end of a block of HTML. -/
inductive HtmlEnd where
  /-- The line that holds one of these texts; letters compare without case when `folds`. -/
  | marked (texts : List String) (folds : Bool)
  | emptyLine

/-- Compares without case. Four characters beyond ASCII fold to a letter. -/
def fold (c : Char) : Char :=
  if c.toNat < 0x80 then c.toLower
  else match c.toNat with
    | 0x130 => 'i'
    | 0x131 => 'i'
    | 0x17f => 's'
    | 0x212a => 'k'
    | _ => c

def HtmlEnd.isReached (stop : HtmlEnd) (content : List Char) : Bool :=
  match stop with
  | .emptyLine => content.isEmpty
  | .marked texts folds =>
    let content := if folds then content.map fold else content
    texts.any fun text => Text.occursIn text.toList content

def rawElements : List String := ["script", "pre", "style", "textarea"]

def blockElements : List String := [
  "address", "article", "aside", "base", "basefont", "blockquote", "body", "caption", "center", "col",
  "colgroup", "dd", "details", "dialog", "dir", "div", "dl", "dt", "fieldset", "figcaption", "figure",
  "footer", "form", "frame", "frameset", "h1", "h2", "h3", "h4", "h5", "h6", "head", "header", "hr",
  "html", "iframe", "legend", "li", "link", "main", "menu", "menuitem", "nav", "noframes", "ol",
  "optgroup", "option", "p", "param", "search", "section", "summary", "table", "tbody", "td", "tfoot",
  "th", "thead", "title", "tr", "track", "ul"]

/-- One of the names at the start of a text, with an end behind it that `accepts`. -/
def startsWithName (names : List String) (accepts : List Char → Bool) (text : List Char) : Bool :=
  names.any fun name =>
    name.toList.isPrefixOf (text.map fold) && accepts (text.drop name.length)

/-- How the block of HTML that starts with this content ends, and whether it can interrupt a
paragraph. -/
def htmlEnd? (content : List Char) : Option (HtmlEnd × Bool) :=
  match content with
  | '<' :: rest =>
    let starts (head : String) : Bool := head.toList.isPrefixOf rest
    let endsName (rest : List Char) : Bool :=
      rest.head?.all fun c => Text.isBlank c || c == '>'
    let endsTag (rest : List Char) : Bool :=
      rest.head?.all (fun c => Text.isBlank c || c == '>') || "/>".toList.isPrefixOf rest
    if startsWithName rawElements endsName rest then
      some (.marked (rawElements.map fun name => "</" ++ name ++ ">") true, true)
    else if starts "!--" then some (.marked ["-->"] false, true)
    else if starts "?" then some (.marked ["?>"] false, true)
    else if starts "!" && (rest.drop 1).head?.any Char.isUpper then some (.marked [">"] false, true)
    else if starts "![CDATA[" then some (.marked ["]]>"] false, true)
    else if startsWithName blockElements endsTag (if starts "/" then rest.drop 1 else rest) then
      some (.emptyLine, true)
    else if HtmlTag.isTagLine content then some (.emptyLine, false)
    else none
  | _ => none

/-- How the block of HTML that starts at a line ends, and whether it can interrupt a paragraph. -/
def html? (margin : Margin) (line : Line) : Option (HtmlEnd × Bool) :=
  if line.isDeep margin then none else htmlEnd? line.content

/-- The cells between the bars of a line. `before` is the character before, `cell` the cell so far, last character first. -/
def splitCells (before : Option Char) (cell : List Char) : List Char → List (List Char)
  | [] => [cell.reverse]
  | c :: rest =>
    if c == '|' then
      -- a bar after a backslash belongs to the cell, which loses the backslash
      if before == some '\\' then splitCells (some c) (c :: cell.drop 1) rest
      else cell.reverse :: splitCells (some c) [] rest
    else splitCells (some c) (c :: cell) rest

/-- The cells of a row. A bar at either end only closes the row. -/
def rowCells (content : List Char) : List (List Char) :=
  let cells := splitCells none [] (Text.trimBy Text.isMargin content)
  let cells := if cells.head? == some [] then cells.drop 1 else cells
  let cells := if cells.getLast? == some [] then cells.dropLast else cells
  cells.map (Text.trimBy Text.isMargin)

/-- A cell of the line under a table's header: hyphens, with a colon at either end or not. -/
def isAlignment (cell : List Char) : Bool :=
  let cell := if cell.head? == some ':' then cell.drop 1 else cell
  let cell := if cell.getLast? == some ':' then cell.dropLast else cell
  !cell.isEmpty && cell.all (· == '-')

/-- The number of columns that the line under a table's header gives. -/
def columns? (content : List Char) : Option Nat :=
  let isMark (c : Char) : Bool := c == '|' || c == '-' || c == ':'
  match content with
  | first :: second :: rest =>
    if !isMark first || !(second :: rest).all (fun c => isMark c || Text.isIndent c) ||
        (first == '-' && Text.isIndent second) then none
    else
      let cells := (Text.splitAt '|' content).map (Text.trimBy Text.isIndent)
      -- empty cells may stand at the ends only
      let inner := (cells.drop 1).dropLast
      if inner.any List.isEmpty then none
      else
        let filled := cells.filter (!·.isEmpty)
        if filled.all isAlignment then some filled.length else none
  | _ => none

/-- The header of the table that starts at these lines: a line with a bar, over a line that gives as
many columns as the header has cells. -/
def tableHeader? (margin : Margin) (lines : List Line) : Option (List (List Char)) :=
  match lines with
  | header :: under :: _ =>
    if under.isOutside margin || under.isDeep margin || header.isDeep margin ||
        !header.content.contains '|' then none
    else
      let cells := rowCells header.content
      if !cells.isEmpty && columns? under.content == some cells.length then some cells else none
  | _ => none

/-- What interrupts both a quote and a paragraph; the first of the lines is in question. -/
def interruptsAny (margin : Margin) (line : Line) : Bool :=
  (fence? margin line).isSome || isQuote margin line || isRule margin line ||
    (html? margin line).any Prod.snd || (heading? margin line).isSome

def interruptsParagraph (margin : Margin) (lines : List Line) : Bool :=
  (tableHeader? margin lines).isSome ||
    lines.head?.any fun line => interruptsAny margin line || interruptingList margin line

def interruptsDefinition (margin : Margin) (lines : List Line) : Bool :=
  (tableHeader? margin lines).isSome ||
    lines.head?.any fun line => interruptsAny margin line || (list? margin line).isSome

/-- A line interrupts a quote that it would otherwise continue, or a table. -/
def interruptsQuote (margin : Margin) (line : Line) : Bool :=
  interruptsAny margin line || (list? margin line).isSome

/-- A line ends a list although it could be an item. -/
def interruptsList (margin : Margin) (line : Line) : Bool :=
  (fence? margin line).isSome || isQuote margin line || isRule margin line

end BlockStart
end DocScribe.Markdown
