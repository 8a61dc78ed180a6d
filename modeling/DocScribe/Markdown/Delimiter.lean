import DocScribe.Markdown.Inline
import DocScribe.Text.Blank
import DocScribe.Text.Punctuation

/-! Marks of emphasis and of strikethrough: which runs of marks can open and close, which opener
each closer takes, and the styles that the pairs give. -/

namespace DocScribe.Markdown

/-- Whether a run of marks can open a style and whether it can close one. -/
structure Flanks where
  canOpen : Bool
  canClose : Bool

/-- A run opens where text follows it directly, and closes where text comes before it directly;
punctuation counts as text only beside a blank or other punctuation. An underscore does neither
inside a word. -/
def Flanks.ofNeighbours (before after : Char) (splitsWords : Bool) : Flanks :=
  let left := !(Text.isSpacing after ||
    (Text.isPunctuation after && !(Text.isSpacing before || Text.isPunctuation before)))
  let right := !(Text.isSpacing before ||
    (Text.isPunctuation before && !(Text.isSpacing after || Text.isPunctuation after)))
  { canOpen := left && (splitsWords || !right || Text.isPunctuation before)
    canClose := right && (splitsWords || !left || Text.isPunctuation after) }

/-- One mark that may open or close a style. -/
structure Delimiter where
  mark : Char
  /-- The length of the run, or zero where the rule of three does not count. -/
  runLength : Nat
  /-- The position of the mark's item in the inline content. -/
  item : Nat
  canOpen : Bool
  canClose : Bool
  /-- The delimiter that closes this one. -/
  closer : Option Nat := none
  deriving Inhabited

abbrev Delimiters := Array Delimiter

namespace Delimiters

/-- What a search for openers has learned. -/
structure Search where
  delimiters : Delimiters
  /-- How many delimiters a search may skip beyond each. -/
  jumps : Array Nat
  /-- For a mark, whether the closer can open, and the length of its run modulo three: no opener
  lies at or below this delimiter. -/
  floors : List ((Char × Bool × Nat) × Int)
  /-- The first delimiter of the current run. -/
  head : Nat
  /-- The item of the delimiter before, unless that one was closed. -/
  lastItem : Option Nat

/-- Two runs that both open and close pair only if their lengths do not add up to a multiple of
three, unless each is one. -/
def oddPair (opener closer : Delimiter) : Bool :=
  (opener.canClose || closer.canOpen) && (opener.runLength + closer.runLength) % 3 == 0 &&
    (opener.runLength % 3 != 0 || closer.runLength % 3 != 0)

/-- The opener for `closer`, going down from `candidate` to above `floor`. The fuel is the number of
delimiters. -/
def findOpener (search : Search) (closer : Delimiter) (floor : Int) : (fuel : Nat) → (candidate : Int) →
    Option Nat
  | 0, _ => none
  | fuel + 1, candidate =>
    if candidate ≤ floor || candidate < 0 then none
    else
      let index := candidate.toNat
      match search.delimiters[index]? with
      | none => none
      | some opener =>
        if opener.mark == closer.mark && opener.canOpen && opener.closer.isNone &&
            !oddPair opener closer then
          some index
        else
          findOpener search closer floor fuel (candidate - (search.jumps.getD index 0 + 1))

/-- Looks for the opener of the delimiter number `index`. -/
def step (search : Search) (index : Nat) : Search :=
  let closer := search.delimiters.getD index default
  let joins := (search.delimiters[search.head]?).any (·.mark == closer.mark) &&
    search.lastItem.any (· + 1 == closer.item)
  let search := { search with
    jumps := search.jumps.push 0
    head := if joins then search.head else index
    lastItem := some closer.item }
  if !closer.canClose then search
  else
    let key := (closer.mark, closer.canOpen, closer.runLength % 3)
    let floor := (search.floors.lookup key).getD (-1)
    let start : Int := search.head - (search.jumps.getD search.head 0 : Nat) - 1
    match findOpener search closer floor search.delimiters.size start with
    | some found =>
      let beyond := match found with
        | 0 => 0
        | before + 1 =>
          if (search.delimiters.getD before default).canOpen then 0
          else search.jumps.getD before 0 + 1
      { search with
        jumps := (search.jumps.setIfInBounds index (index - found + beyond)).setIfInBounds found beyond
        delimiters :=
          (search.delimiters.modify index fun closer => { closer with canOpen := false }).modify found
            fun opener => { opener with closer := some index, canClose := false }
        lastItem := none }
    | none =>
      if start == -1 then search
      else { search with floors := (key, start) :: search.floors.filter (·.1 != key) }

/-- Gives each closer its opener, from the first delimiter on. -/
def pair (delimiters : Delimiters) : Delimiters :=
  ((List.range delimiters.size).foldl step ⟨delimiters, #[], [], 0, none⟩).delimiters

def closesStrike : Inline → Bool
  | .closeMark .strike => true
  | _ => false

def stylePair (mark : Mark) (openItem closeItem : Nat) (content : Array Inline) : Array Inline :=
  (content.setIfInBounds openItem (.openMark mark)).setIfInBounds closeItem (.closeMark mark)

/-- Styles the pairs of tildes, and tells the single tildes that stand before a closing pair. -/
def strike (delimiters : Delimiters) (content : Array Inline) : Array Inline × List Nat :=
  delimiters.foldl (fun (content, lone) opener =>
    if opener.mark != '~' then (content, lone)
    else match opener.closer.bind (delimiters[·]?) with
      | none => (content, lone)
      | some closer =>
        let content := stylePair .strike opener.item closer.item content
        match closer.item with
        | 0 => (content, lone)
        | before + 1 =>
          (content, if content[before]? == some (.text ['~']) then before :: lone else lone))
    (content, [])

/-- The number of closing marks of strikethrough from a position on. -/
def strikeRun (content : Array Inline) (start : Nat) : Nat :=
  ((content.toList.drop start).takeWhile closesStrike).length

/-- Moves a single tilde behind the closing marks that follow it. -/
def moveLone (content : Array Inline) (lone : Nat) : Array Inline :=
  content.swapIfInBounds lone (lone + strikeRun content (lone + 1))

/-- The star or underscore number `index`, if it opens, with the number of its closer. -/
def emphasisAt? (delimiters : Delimiters) (index : Nat) : Option (Delimiter × Nat) := do
  let opener ← delimiters[index]?
  let stop ← opener.closer
  if opener.mark == '*' || opener.mark == '_' then pure (opener, stop) else none

/-- The delimiter `outer` comes right before `opener`, and their closers stand side by side, so that
the two pairs are one of strong emphasis. -/
def isStrong (delimiters : Delimiters) (outer opener : Delimiter) (stop : Nat) : Bool :=
  outer.closer == some (stop + 1) && outer.mark == opener.mark && outer.item + 1 == opener.item &&
    (delimiters.getD (stop + 1) default).item == (delimiters.getD stop default).item + 1

/-- Styles the pairs of stars and underscores below the delimiter number `count`, from the last one
down. -/
def emphasize (delimiters : Delimiters) : (count : Nat) → Array Inline → Array Inline
  | 0, content => content
  | 1, content =>
    match delimiters.emphasisAt? 0 with
    | none => content
    | some (opener, stop) =>
      stylePair .emphasis opener.item (delimiters.getD stop default).item content
  | before + 2, content =>
    match delimiters.emphasisAt? (before + 1) with
    | none => emphasize delimiters (before + 1) content
    | some (opener, stop) =>
      let closeItem := (delimiters.getD stop default).item
      let outer := delimiters.getD before default
      if isStrong delimiters outer opener stop then
        emphasize delimiters before
          (((stylePair .strong opener.item closeItem content).setIfInBounds outer.item
            (.text [])).setIfInBounds (closeItem + 1) (.text []))
      else
        emphasize delimiters (before + 1) (stylePair .emphasis opener.item closeItem content)

/-- Turns the marks of a content into styles. -/
def resolve (delimiters : Delimiters) (content : Array Inline) : Array Inline :=
  let delimiters := delimiters.pair
  let (content, lone) := delimiters.strike content
  delimiters.emphasize delimiters.size (lone.foldl moveLone content)

end Delimiters
end DocScribe.Markdown
