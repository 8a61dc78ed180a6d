import DocScribe.Markdown.Block
import DocScribe.Markdown.BlockStart

/-! Reading the blocks of a text. Every block is read from the lines that are left; it tells how many
of them it takes. The definitions of link labels that come up are collected on the way, since a
label may be used before it is defined: inline content is read only when all of them are known. -/

namespace DocScribe.Markdown
open DocScribe

/-- Blocks nest no deeper; what lies deeper is dropped. A list counts twice, for itself and for its
items. -/
def maxBlockNesting : Nat := 20

/-- Blocks whose inline content is not read yet. -/
abbrev RawBlock := Block (List Char)

/-- What was read from the start of some lines. -/
structure BlockRun where
  blocks : List RawBlock
  definitions : Definitions
  /-- The number of lines that were taken. -/
  taken : Nat

/-- Reads the blocks inside another one, from its lines on, up to a line left of the margin. -/
abbrev ReadInside := Margin → List Line → Definitions → BlockRun

namespace BlockReader
open BlockStart

def emptyLines (lines : List Line) : Nat := (lines.takeWhile Line.isEmpty).length

/-- A block without definitions. -/
def found (block : RawBlock) (definitions : Definitions) (taken : Nat) : BlockRun :=
  ⟨[block], definitions, taken⟩

/-- Cells that are missing in the rows of a table are added up to this number. -/
def maxAddedCells : Int := 0x10000

/-- The rows below the header of a table, each with as many cells as the header. -/
def tableRows (margin : Margin) (columns : Nat) : (added : Int) → List Line → List (List (List Char))
  | _, [] => []
  | added, line :: rest =>
    let cells := rowCells line.content
    let added := added + (columns - cells.length : Int)
    if line.isOutside margin || interruptsQuote margin line ||
        (Text.trimBy Text.isMargin line.content).isEmpty || line.isDeep margin ||
        maxAddedCells < added then []
    else (cells.take columns ++ List.replicate (columns - cells.length) []) ::
      tableRows margin columns added rest

def table? (margin : Margin) (lines : List Line) (definitions : Definitions) : Option BlockRun :=
  (tableHeader? margin lines).map fun header =>
    let rows := tableRows margin header.length 0 (lines.drop 2)
    found (.table (header :: rows)) definitions (rows.length + 2)

/-- The number of lines of code at the start: deep ones, and empty ones before a deep one. -/
def deepLines (margin : Margin) : List Line → Nat
  | [] => 0
  | line :: rest =>
    if line.isEmpty then match deepLines margin rest with
      | 0 => 0
      | more + 1 => more + 2
    else if line.isDeep margin then deepLines margin rest + 1
    else 0

def deepCode? (margin : Margin) (lines : List Line) (definitions : Definitions) : Option BlockRun :=
  match lines with
  | line :: rest =>
    if line.isDeep margin then
      let count := deepLines margin rest + 1
      let text := codeLines (margin.indent + 4).toNat (lines.take count)
      some (found (.code (.ofList text)) definitions count)
    else none
  | [] => none

/-- The number of lines inside a fence, and whether a closing fence follows them. -/
def fencedLines (margin : Margin) (fence : Fence) : List Line → Nat × Bool
  | [] => (0, false)
  | line :: rest =>
    if !line.isEmpty && line.isOutside margin then (0, false)
    else if closesFence margin fence line then (0, true)
    else
      let (count, closed) := fencedLines margin fence rest
      (count + 1, closed)

def fencedCode? (margin : Margin) (lines : List Line) (definitions : Definitions) :
    Option BlockRun :=
  match lines with
  | line :: rest => (fence? margin line).map fun fence =>
      let (count, closed) := fencedLines margin fence rest
      let text := codeLines fence.column (rest.take count)
      found (.code (.ofList text)) definitions (count + (if closed then 2 else 1))
  | [] => none

/-- A line without the mark of its quote. One blank after the mark belongs to the mark. -/
def unquote (line : Line) : Line :=
  let start := (line.indent + 1).toNat
  let rest := line.content.drop 1
  let (rest, start, shift, padded) := match rest with
    | ' ' :: more => (more, start + 1, line.column, true)
    -- of a tab that is wider than one column the rest stays
    | '\t' :: more =>
      if (line.column + start) % 4 == 3 then (more, start + 1, line.column, true)
      else (rest, start, line.column + 1, true)
    | _ => (rest, start, line.column, false)
  { chars := rest
    lead := (rest.takeWhile Text.isIndent).length
    indent := (Line.contentColumn shift start rest : Int) - start
    column := (line.indent + 1).toNat + (if padded then 1 else 0) }

/-- The lines of a quote after its first one: those with the mark, and those that continue a
paragraph without it. -/
def quoteRest (margin : Margin) : (lastEmpty : Bool) → List Line → List Line
  | _, [] => []
  | lastEmpty, line :: rest =>
    if line.isEmpty then []
    else if line.content.head? == some '>' && !line.isOutside margin then
      let inner := unquote line
      inner :: quoteRest margin inner.isEmpty rest
    else if lastEmpty || interruptsQuote margin line then []
    else { line with indent := -1 } :: quoteRest margin false rest

def quote? (inside : ReadInside) (margin : Margin) (lines : List Line) (definitions : Definitions) :
    Option BlockRun :=
  match lines with
  | line :: rest =>
    if isQuote margin line then
      let first := unquote line
      let run := inside { margin with indent := 0 } (first :: quoteRest margin first.isEmpty rest)
        definitions
      some { run with blocks := [.quote run.blocks] }
    else none
  | [] => none

def rule? (margin : Margin) (lines : List Line) (definitions : Definitions) : Option BlockRun :=
  match lines with
  | line :: _ => if isRule margin line then some (found .rule definitions 1) else none
  | [] => none

/-- The first line of an item without the item's mark, and the margin of the item's content: the
column of what follows the mark, or one column behind the mark when that is far or nothing. -/
def openItem (margin : Margin) (mark : ItemMark) (line : Line) : Line × Margin :=
  let start := line.indent.toNat + mark.width
  let rest := line.content.drop mark.width
  let blanks := (rest.takeWhile Text.isIndent).length
  let column := Line.contentColumn line.column start rest
  let gap := if blanks == rest.length || start + 4 < column then 1 else column - start
  ({ line with lead := line.lead + mark.width + blanks, indent := column },
    { indent := start + gap, aroundList := some margin.indent })

/-- The items of a list, the first of which starts at the first line with the mark given, and the number of lines that
they take. The fuel is the number of lines. -/
def listItems (inside : ReadInside) (margin : Margin) : (fuel : Nat) → ItemMark → List Line →
    Definitions → List (List RawBlock) × Definitions × Nat
  | 0, _, _, definitions => ([], definitions, 0)
  | _, _, [], definitions => ([], definitions, 0)
  | fuel + 1, mark, line :: rest, definitions =>
    let (first, inner) := openItem margin mark line
    -- an empty item that an empty line follows ends there
    let run :=
      if first.isEmpty && rest.head?.all Line.isEmpty then
        ⟨[], definitions, min 2 (rest.length + 1)⟩
      else inside inner (first :: rest) definitions
    let left := (line :: rest).drop run.taken
    let next? : Option ItemMark := match left with
      | [] => none
      | line :: _ =>
        if line.isOutside margin || line.isDeep margin || interruptsList margin line then none
        else (itemMark? line.content).filter fun next =>
          next.ordered == mark.ordered && next.sign == mark.sign
    match next? with
    | none => ([run.blocks], run.definitions, run.taken)
    | some next =>
      let (items, definitions, taken) := listItems inside margin fuel next left run.definitions
      (run.blocks :: items, definitions, run.taken + taken)

def list? (inside : ReadInside) (margin : Margin) (lines : List Line) (definitions : Definitions) :
    Option BlockRun :=
  match lines with
  | line :: _ => (BlockStart.list? margin line).map fun mark =>
      let (items, definitions, taken) := listItems inside margin lines.length mark lines definitions
      found (.list mark.ordered items) definitions taken
  | [] => none

/-- The lines after the first that a definition may take. -/
def definitionRest (margin : Margin) : List Line → List Line
  | [] => []
  | line :: rest =>
    if line.isEmpty then []
    else if line.isDeep margin || line.indent < 0 || !interruptsDefinition margin (line :: rest) then
      line :: definitionRest margin rest
    else []

def definition? (margin : Margin) (lines : List Line) (definitions : Definitions) :
    Option BlockRun :=
  match lines with
  | line :: rest =>
    if line.isDeep margin || line.content.head? != some '[' then none
    else
      let text := (line :: definitionRest margin rest).flatMap fun line => line.content ++ ['\n']
      (FoundDefinition.ofText? text).map fun found =>
        ⟨[], definitions.add found.label found.target, found.lineEnds + 1⟩
  | [] => none

def htmlLines (margin : Margin) (stop : HtmlEnd) : List Line → Nat
  | [] => 0
  | line :: rest =>
    if line.isOutside margin then 0
    else if stop.isReached line.content then (if line.isEmpty then 0 else 1)
    else htmlLines margin stop rest + 1

def html? (margin : Margin) (lines : List Line) (definitions : Definitions) : Option BlockRun :=
  match lines with
  | line :: rest => (BlockStart.html? margin line).map fun (stop, _) =>
      let count := 1 + (if stop.isReached line.content then 0 else htmlLines margin stop rest)
      found (.html (.ofList (linesText margin.indent.toNat (lines.take count)))) definitions count
  | [] => none

/-- The text of a heading without the marks that may close it. -/
def headingText (text : List Char) : List Char :=
  let text := Text.trimEndBy Text.isIndent text
  let opened := Text.trimEndBy (· == '#') text
  let text := if opened.getLast?.any Text.isIndent then opened else text
  Text.trimBy Text.isMargin text

/-- A heading with its marks before it. -/
def heading? (margin : Margin) (lines : List Line) (definitions : Definitions) : Option BlockRun :=
  match lines with
  | line :: _ => (BlockStart.heading? margin line).map fun (level, text) =>
      found (.heading level (headingText text)) definitions 1
  | [] => none

/-- The level that a line gives to the paragraph over it, when it underlines it. -/
def underline? (margin : Margin) (line : Line) : Option Nat :=
  match line.content with
  | mark :: rest =>
    if !line.isOutside margin && (mark == '=' || mark == '-') &&
        (rest.dropWhile (· == mark)).all Text.isIndent then
      some (if mark == '=' then 1 else 2)
    else none
  | [] => none

/-- The number of further lines of a paragraph before the line that underlines it, and the level
that this line gives. -/
def underlined? (margin : Margin) : List Line → Option (Nat × Nat)
  | [] => none
  | line :: rest =>
    let more := (underlined? margin rest).map fun (count, level) => (count + 1, level)
    if line.isEmpty then none
    else if line.isDeep margin then more
    else match underline? margin line with
      | some level => some (0, level)
      | none =>
        if line.indent < 0 || !interruptsParagraph margin (line :: rest) then more else none

/-- A heading with a line under it. -/
def underlinedHeading? (margin : Margin) (lines : List Line) (definitions : Definitions) :
    Option BlockRun :=
  match lines with
  | line :: rest =>
    if line.isDeep margin then none
    else (underlined? margin rest).map fun (count, level) =>
      let text := linesText margin.indent.toNat (lines.take (count + 1))
      found (.heading level (Text.trimBy Text.isMargin text)) definitions (count + 2)
  | [] => none

/-- The number of lines that continue a paragraph. -/
def paragraphLines (margin : Margin) : List Line → Nat
  | [] => 0
  | line :: rest =>
    if line.isEmpty then 0
    else if line.isDeep margin || line.indent < 0 || !interruptsParagraph margin (line :: rest) then
      paragraphLines margin rest + 1
    else 0

/-- A paragraph, which any line can start. -/
def paragraph (margin : Margin) (lines : List Line) (definitions : Definitions) : BlockRun :=
  let count := paragraphLines margin (lines.drop 1) + 1
  let text := linesText margin.indent.toNat (lines.take count)
  found (.paragraph (Text.trimBy Text.isMargin text)) definitions count

/-- The block that starts at the first line. -/
def blockAt (insideQuote insideItem : ReadInside) (margin : Margin) (lines : List Line)
    (definitions : Definitions) : BlockRun :=
  (table? margin lines definitions <|>
    deepCode? margin lines definitions <|>
    fencedCode? margin lines definitions <|>
    quote? insideQuote margin lines definitions <|>
    rule? margin lines definitions <|>
    list? insideItem margin lines definitions <|>
    definition? margin lines definitions <|>
    html? margin lines definitions <|>
    heading? margin lines definitions <|>
    underlinedHeading? margin lines definitions).getD
  (paragraph margin lines definitions)

/-- The blocks from the first line on, up to a line left of the margin. The fuel is the number of
lines. -/
def blocksFrom (insideQuote insideItem : ReadInside) (margin : Margin) : (fuel : Nat) → List Line →
    Definitions → BlockRun
  | 0, _, definitions => ⟨[], definitions, 0⟩
  | fuel + 1, lines, definitions =>
    let skipped := emptyLines lines
    match lines.drop skipped with
    | [] => ⟨[], definitions, skipped⟩
    | line :: rest =>
      if line.isOutside margin then ⟨[], definitions, skipped⟩
      else
        let first := blockAt insideQuote insideItem margin (line :: rest) definitions
        let left := (line :: rest).drop first.taken
        let gap := if left.head?.any Line.isEmpty then 1 else 0
        let more := blocksFrom insideQuote insideItem margin fuel (left.drop gap) first.definitions
        ⟨first.blocks ++ more.blocks, more.definitions, skipped + first.taken + gap + more.taken⟩

/-- Takes everything from a line inside the margin on, and reads nothing. -/
def dropAll : ReadInside := fun margin lines definitions =>
  let skipped := emptyLines lines
  let outside := (lines.drop skipped).head?.all fun line => line.isOutside margin
  ⟨[], definitions, if outside then skipped else lines.length⟩

/-- Reads blocks that may nest as deep as given. -/
def read : (nesting : Nat) → ReadInside
  | 0 => dropAll
  | 1 => fun margin lines definitions =>
    blocksFrom dropAll dropAll margin (lines.length + 1) lines definitions
  | nesting + 2 => fun margin lines definitions =>
    blocksFrom (read (nesting + 1)) (read nesting) margin (lines.length + 1) lines definitions

end BlockReader

/-- The blocks of a text, and the link labels that it defines. -/
def RawBlock.ofText (text : List Char) : List RawBlock × Definitions :=
  let run := BlockReader.read maxBlockNesting .page (Line.ofText text) []
  (run.blocks, run.definitions)

end DocScribe.Markdown
