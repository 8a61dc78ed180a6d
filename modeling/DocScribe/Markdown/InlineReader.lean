import DocScribe.Markdown.Autolink
import DocScribe.Markdown.Definition
import DocScribe.Markdown.Delimiter
import DocScribe.Markdown.HtmlTag
import DocScribe.Markdown.Source

/-! Reading the inline content of a block. The text is scanned from left to right; each special
character has its own rule, and where the rule does not apply the character is text. To find the
end of a link label, the same rules run without writing anything, and remember how far each
position reaches. -/

namespace DocScribe.Markdown
open DocScribe

/-- Links, and labels inside labels, nest no deeper. -/
def maxInlineNesting : Nat := 20

/-- What reading the content of one block shares: its text and the labels that are defined. -/
structure InlineContext where
  source : Source
  definitions : Definitions

/-- What the scans of a text remember: for each position how far the rule there reaches, zero when
unknown. -/
structure InlineMemory where
  reaches : Array Nat

/-- A computation that may use and extend the memory. -/
abbrev Scan := StateM InlineMemory

namespace InlineReader

/-- The characters at which a rule may apply; all others are text. -/
def isSpecial (c : Char) : Bool := "\n!#$%&*+-:<=>@[\\]^_`\x7b\x7d~".toList.contains c

/-- The end of the run of one character that starts at `pos`, not beyond `limit`. -/
def runEnd (source : Source) (c : Char) (pos limit : Nat) : Nat :=
  pos + ((source.slice pos limit).takeWhile (· == c)).length

/-- The position behind the characters of a class from `pos` on, not beyond `limit`. -/
def skipWhile (source : Source) (accepts : Char → Bool) (pos limit : Nat) : Nat :=
  pos + ((source.slice pos limit).takeWhile accepts).length

/-- A code span, or a run of backticks that opens none. -/
inductive Ticks where
  | span (content : List Char) (stop : Nat)
  | loose (stop : Nat)

/-- The text of a code span: line ends become spaces, and one space is taken from each end when both
have one and there is something between. -/
def codeText (chars : List Char) : List Char :=
  let flat := chars.map fun c => if c == '\n' then ' ' else c
  if flat.head? == some ' ' && flat.getLast? == some ' ' && !flat.all Text.isBlank then
    (flat.drop 1).dropLast
  else flat

/-- Searches for a run of `size` backticks from `pos` on, and yields its place and its end. A run is
measured up to `limit`. The fuel is the length of the text. -/
def findTicks? (source : Source) (limit size : Nat) : (fuel pos : Nat) → Option (Nat × Nat)
  | 0, _ => none
  | fuel + 1, pos =>
    let rest := source.after pos
    let skipped := (rest.takeWhile (· != '`')).length
    if skipped == rest.length then none
    else
      let start := pos + skipped
      let stop := max (start + 1) (runEnd source '`' start limit)
      if stop - start == size then some (start, stop) else findTicks? source limit size fuel stop

/-- The code span that opens at `pos`, where a backtick stands. -/
def ticksAt (source : Source) (limit pos : Nat) : Ticks :=
  let stop := runEnd source '`' pos limit
  match findTicks? source limit (stop - pos) (source.length + 1) stop with
  | some (start, close) => .span (codeText (source.slice stop start)) close
  | none => .loose stop

/-- The end of the label whose opening bracket is at `start`: the bracket that closes it. The fuel is the length of the
text. -/
def findLabelEnd (source : Source) (limit : Nat) (skip : Nat → Scan Nat) (refuseLinks : Bool) :
    (fuel : Nat) → (pos depth : Nat) → Scan (Option Nat)
  | 0, _, _ => return none
  | fuel + 1, pos, depth => do
    if limit ≤ pos then return none
    let c := source.at? pos
    if c == some ']' && depth == 0 then return some pos
    let depth := if c == some ']' then depth - 1 else depth
    let next ← skip pos
    if c == some '[' then
      if next == pos + 1 then findLabelEnd source limit skip refuseLinks fuel next (depth + 1)
      -- where links are refused, a label that holds a link or another label of its own has no end
      else if refuseLinks then return none
      else findLabelEnd source limit skip refuseLinks fuel next depth
    else findLabelEnd source limit skip refuseLinks fuel next depth

/-- The end of the label whose opening bracket is at `start`. -/
def labelEnd (source : Source) (limit : Nat) (skip : Nat → Scan Nat) (refuseLinks : Bool)
    (start : Nat) : Scan (Option Nat) :=
  findLabelEnd source limit skip refuseLinks (source.length + 2) (start + 1) 0

/-- What follows a label in round brackets. -/
inductive Inside where
  /-- The destination, and the position behind the closing bracket. -/
  | link (target : List Char) (stop : Nat)
  /-- The text ends before there is a destination. -/
  | cutOff
  /-- There is no closing bracket at the position where one is due. -/
  | unclosed (pos : Nat)

/-- Reads a destination and at most a title between round brackets; `pos` is behind the opening one. -/
def insideAt (source : Source) (limit pos : Nat) : Inside :=
  let pos := skipWhile source FoundDefinition.isGap pos limit
  if limit ≤ pos then .cutOff
  else
    let (target, pos) := match LinkPart.destination? (source.slice pos limit) with
      | none => ([], pos)
      | some (destination, size) =>
        let target := Url.normalize destination
        -- a destination that is not allowed is not taken, so the closing bracket is missing then
        let (target, pos) := if Url.isAllowed target then (target, pos + size) else ([], pos)
        let next := skipWhile source FoundDefinition.isGap pos limit
        if next == pos then (target, pos)
        else match LinkPart.title? (source.slice next limit) with
          | some (_, length) =>
            (target, skipWhile source FoundDefinition.isGap (next + length) limit)
          | none => (target, next)
    if pos < limit && source.at? pos == some ')' then .link target (pos + 1) else .unclosed pos

/-- The definition that a link refers to, and the position behind it: `pos` is behind the label or behind what was
tried as its destination, `start` and `stop` bound the label. -/
def referenceAt (context : InlineContext) (limit : Nat) (skip : Nat → Scan Nat)
    (start stop pos : Nat) : Scan (Option (List Char × Nat)) := do
  if context.definitions.isEmpty then return none
  let second ← if pos < limit && context.source.at? pos == some '[' then
      labelEnd context.source limit skip false pos
    else pure none
  -- a second label that is not empty is looked up instead of the first
  let (label, next) := match second with
    | some close => (context.source.slice (pos + 1) close, close + 1)
    | none => ([], stop + 1)
  let label := if label.isEmpty then context.source.slice start stop else label
  return (context.definitions.lookup (LinkPart.normalizeLabel label)).map fun target =>
    (target, next)

/-- A link or an image: where its label starts and stops, its destination, and where it ends. -/
structure Target where
  labelStart : Nat
  labelStop : Nat
  target : List Char
  stop : Nat

/-- The link whose opening bracket is at `pos`. -/
def linkAt (context : InlineContext) (limit : Nat) (skip : Nat → Scan Nat) (pos : Nat) :
    Scan (Option Target) := do
  match ← labelEnd context.source limit skip true pos with
  | none => return none
  | some stop =>
    let refer (place : Nat) : Scan (Option Target) := do
      return (← referenceAt context limit skip (pos + 1) stop place).map fun (target, next) =>
        ⟨pos + 1, stop, target, next⟩
    if stop + 1 < limit && context.source.at? (stop + 1) == some '(' then
      match insideAt context.source limit (stop + 2) with
      | .link target next => return some ⟨pos + 1, stop, target, next⟩
      | .cutOff => return none
      | .unclosed next => refer (next + 1)
    else refer (stop + 1)

/-- The image whose exclamation mark is at `pos`. -/
def imageAt (context : InlineContext) (limit : Nat) (skip : Nat → Scan Nat) (pos : Nat) :
    Scan (Option Target) := do
  if context.source.at? (pos + 1) != some '[' || limit ≤ pos + 1 then return none
  match ← labelEnd context.source limit skip false (pos + 1) with
  | none => return none
  | some stop =>
    if stop + 1 < limit && context.source.at? (stop + 1) == some '(' then
      match insideAt context.source limit (stop + 2) with
      | .link target next => return some ⟨pos + 2, stop, target, next⟩
      -- an image with round brackets after its label does not fall back to a definition
      | _ => return none
    else
      return (← referenceAt context limit skip (pos + 2) stop (stop + 1)).map fun (target, next) =>
        ⟨pos + 2, stop, target, next⟩

def tagLength? (source : Source) (limit pos : Nat) : Option Nat :=
  if limit ≤ pos + 2 then none
  else
    let starts := match source.at? (pos + 1) with
      | some c => c == '!' || c == '?' || c == '/' || c.isAlpha
      | none => false
    if starts then HtmlTag.length? (source.after pos) else none

/-- The position behind a line end and the blanks that start the next line. -/
def nextLine (source : Source) (limit pos : Nat) : Nat :=
  skipWhile source Text.isIndent (pos + 1) limit

/-- Where the rule at `pos` reaches when it only looks, or nothing when no rule applies. -/
def lookAhead (context : InlineContext) (limit : Nat) (skip : Nat → Scan Nat) (pos : Nat) :
    Scan (Option Nat) := do
  let source := context.source
  match source.at? pos with
  | none => return none
  | some c =>
    if !isSpecial c then return some (skipWhile source (!isSpecial ·) pos limit)
    else match c with
      | '\n' => return some (nextLine source limit pos)
      | '\\' =>
        if limit ≤ pos + 1 then return none
        else if source.at? (pos + 1) == some '\n' then return some (nextLine source limit (pos + 1))
        else return some (pos + 2)
      | '`' => match ticksAt source limit pos with
        | .span _ stop => return some stop
        | .loose stop => return some stop
      | '[' => return (← linkAt context limit skip pos).map Target.stop
      | '!' => return (← imageAt context limit skip pos).map Target.stop
      | '<' => match Autolink.inside? (source.slice pos limit) with
        | some body =>
          if (Autolink.target? body).isSome then return some (pos + body.length + 2)
          else return (tagLength? source limit pos).map (pos + ·)
        | none => return (tagLength? source limit pos).map (pos + ·)
      | '&' => return (Entity.reference? (source.after (pos + 1))).map fun found => pos + 1 + found.2
      -- marks of emphasis are never passed as a whole
      | _ => return none

/-- Passes what stands at a position: as far as its rule reaches, or one character. -/
def skip (context : InlineContext) (limit : Nat) : (nesting : Nat) → (pos : Nat) → Scan Nat
  | nesting, pos => do
    let known := (← get).reaches.getD pos 0
    if known != 0 then return known
    let next ← match nesting with
      -- at the deepest nesting everything is passed
      | 0 => pure (limit + 1)
      | nesting + 1 => (·.getD (pos + 1)) <$> lookAhead context limit (skip context limit nesting) pos
    modify fun memory => { memory with reaches := memory.reaches.setIfInBounds pos next }
    return next

/-- Content that is being written: the text that is not yet an item, last character first, the
items, and the marks among them. -/
structure Draft where
  pending : List Char := []
  items : Array Inline := #[]
  delimiters : Delimiters := #[]

namespace Draft

def say (chars : List Char) (draft : Draft) : Draft :=
  { draft with pending := chars.reverse ++ draft.pending }

/-- Makes the pending text an item. -/
def flush (draft : Draft) : Draft :=
  if draft.pending.isEmpty then draft
  else { draft with pending := [], items := draft.items.push (.text draft.pending.reverse) }

def push (item : Inline) (draft : Draft) : Draft :=
  let draft := draft.flush
  { draft with items := draft.items.push item }

def append (items : Array Inline) (draft : Draft) : Draft :=
  let draft := draft.flush
  { draft with items := draft.items ++ items }

/-- Adds a mark that may open or close a style. -/
def pushMark (text : List Char) (mark : Char) (runLength : Nat) (flanks : Flanks) (draft : Draft) :
    Draft :=
  let draft := draft.push (.text text)
  { draft with
    delimiters := draft.delimiters.push
      { mark, runLength, item := draft.items.size - 1
        canOpen := flanks.canOpen, canClose := flanks.canClose } }

/-- Ends a line: two spaces or more before its end make the break hard, and one is dropped. -/
def breakLine (draft : Draft) : Draft :=
  let kept := draft.pending.dropWhile (· == ' ')
  match draft.pending.length - kept.length with
  | 0 => draft.push .softBreak
  | 1 => { draft with pending := kept }.push .softBreak
  | _ => { draft with pending := kept }.push .hardBreak

/-- Adds the marks of a run of stars or underscores, each on its own. -/
def pushStars (mark : Char) (count : Nat) (flanks : Flanks) (draft : Draft) : Draft :=
  (List.range count).foldl (fun draft _ => draft.pushMark [mark] mark count flanks) draft

/-- Adds the marks of a run of tildes, two by two, after a single one when their number is odd. -/
def pushTildes (count : Nat) (flanks : Flanks) (draft : Draft) : Draft :=
  let draft := if count % 2 == 1 then draft.push (.text ['~']) else draft
  (List.range (count / 2)).foldl (fun draft _ => draft.pushMark ['~', '~'] '~' 0 flanks) draft

/-- The items with their marks resolved. -/
def finish (draft : Draft) : Array Inline :=
  let draft := draft.flush
  draft.delimiters.resolve draft.items

end Draft

/-- The neighbours of the run from `pos` to `stop`; an end of the text counts as a blank. -/
def flanksAt (source : Source) (limit pos stop : Nat) (splitsWords : Bool) : Flanks :=
  let before := match pos with
    | 0 => ' '
    | previous + 1 => (source.at? previous).getD ' '
  let after := if stop < limit then (source.at? stop).getD ' ' else ' '
  .ofNeighbours before after splitsWords

/-- Writes what stands at a position and tells where it ends. `content` reads the content of a
link. -/
def readAt (context : InlineContext) (limit : Nat) (skip : Nat → Scan Nat)
    (content : (start stop : Nat) → Scan (Array Inline)) (pos : Nat) (draft : Draft) :
    Scan (Draft × Nat) := do
  let source := context.source
  match source.at? pos with
  | none => return (draft, pos + 1)
  | some c =>
    let literal := (draft.say [c], pos + 1)
    if !isSpecial c then
      let stop := skipWhile source (!isSpecial ·) pos limit
      return (draft.say (source.slice pos stop), stop)
    else match c with
      | '\n' => return (draft.breakLine, nextLine source limit pos)
      | '\\' =>
        if limit ≤ pos + 1 then return literal
        else match source.at? (pos + 1) with
          | none => return literal
          | some '\n' => return (draft.push .hardBreak, nextLine source limit (pos + 1))
          | some c =>
            let shown := if Text.isAsciiPunctuation c then [c] else ['\\', c]
            return (draft.push (.escaped shown), pos + 2)
      | '`' => match ticksAt source limit pos with
        | .span code stop => return (draft.push (.code code), stop)
        | .loose stop => return (draft.say (source.slice pos stop), stop)
      | '~' =>
        let stop := runEnd source '~' pos limit
        if stop - pos < 2 then return literal
        else return (draft.pushTildes (stop - pos) (flanksAt source limit pos stop true), stop)
      | '*' =>
        let stop := runEnd source '*' pos limit
        return (draft.pushStars '*' (stop - pos) (flanksAt source limit pos stop true), stop)
      | '_' =>
        let stop := runEnd source '_' pos limit
        return (draft.pushStars '_' (stop - pos) (flanksAt source limit pos stop false), stop)
      | '[' => match ← linkAt context limit skip pos with
        | none => return literal
        | some link =>
          let items ← content link.labelStart link.labelStop
          return (((draft.push (.openLink link.target)).append items).push .closeLink, link.stop)
      | '!' => match ← imageAt context limit skip pos with
        | none => return literal
        | some image =>
          let alt := source.slice image.labelStart image.labelStop
          return (draft.push (.image image.target alt), image.stop)
      | '<' =>
        let tag : Draft × Nat := match tagLength? source limit pos with
          | some length => (draft.push (.html (source.slice pos (pos + length))), pos + length)
          | none => literal
        match Autolink.inside? (source.slice pos limit) with
        | none => return tag
        | some body => match Autolink.target? body with
          | none => return tag
          | some target =>
            return (((draft.push (.openLink target)).push (.text (Url.readable body))).push .closeLink,
              pos + body.length + 2)
      | '&' => match Entity.reference? (source.after (pos + 1)) with
        | some (value, length) => return (draft.push (.escaped value), pos + 1 + length)
        | none => return literal
      | _ => return literal

/-- Reads from `pos` up to `limit`. The fuel is the number of characters between. -/
def readFrom (context : InlineContext) (limit : Nat) (skip : Nat → Scan Nat)
    (content : (start stop : Nat) → Scan (Array Inline)) : (fuel : Nat) → (pos : Nat) → Draft →
    Scan Draft
  | 0, _, draft => return draft
  | fuel + 1, pos, draft => do
    if limit ≤ pos then return draft
    let (draft, next) ← readAt context limit skip content pos draft
    readFrom context limit skip content fuel next draft

/-- Reads the text from `start` to `stop`. At the deepest nesting all of it is plain text. -/
def read (context : InlineContext) : (nesting : Nat) → (start stop : Nat) → Scan (Array Inline)
  | 0, start, stop =>
    return (Draft.say (context.source.slice start stop) {}).finish
  | nesting + 1, start, stop => do
    let draft ← readFrom context stop (skip context stop (nesting + 1)) (read context nesting)
      (stop - start) start {}
    return draft.finish

end InlineReader

/-- The inline content of a block's text. -/
def Inline.ofText (definitions : Definitions) (text : List Char) : List Inline :=
  let source := Source.ofChars text
  let context : InlineContext := ⟨source, definitions⟩
  ((InlineReader.read context maxInlineNesting 0 source.length).run
    { reaches := Array.replicate (source.length + 1) 0 }).run.1.toList

end DocScribe.Markdown
