import DocScribe.Markdown.Flatten
import DocScribe.Markdown.Token
import DocScribe.Text.Search

/-! Elements from tokens, in one pass. The pass remembers which lists and items are open, the level
of an open heading, and the rows and cells of an open table. -/

namespace DocScribe.Markdown
open DocScribe

/-- What the pass remembers. -/
structure Walk where
  elements : List Element := []
  /-- Whether each open list is ordered, the innermost first. -/
  lists : List Bool := []
  /-- Whether each open item has its text, the innermost first. -/
  itemsDone : List Bool := []
  heading : Option Nat := none
  inTable : Bool := false
  rows : List (List (List Span)) := []
  row : List (List Span) := []
  cell : List Span := []
  deriving DecidableEq

namespace Walk

def emit (elements : List Element) (walk : Walk) : Walk :=
  { walk with elements := walk.elements ++ elements }

/-- Gives content to what it belongs to: a cell, a heading, the innermost item if it has no text
yet, or else a paragraph. -/
def content (items : List Inline) (walk : Walk) : Walk :=
  let pieces := Piece.ofInline items
  if walk.inTable then { walk with cell := spansOnly pieces }
  else match walk.heading with
    | some level => walk.emit [.heading level (spansOnly pieces)]
    | none => match walk.lists, walk.itemsDone with
      | ordered :: outer, false :: done =>
        { walk with itemsDone := true :: done }.emit
          [.listItem ordered outer.length (spansOnly pieces)]
      | _, _ => walk.emit (paragraphElements pieces)

/-- A table without its empty rows, unless nothing is left. -/
def tableElement (rows : List (List (List Span))) : List Element :=
  match rows.filter (!·.isEmpty) with
  | [] => []
  | rows => [.table rows]

/-- HTML is shown as it is, without the line ends behind it. -/
def htmlElement (source : String) : List Element :=
  match Text.trimEndBy (· == '\n') source.toList with
  | [] => []
  | text => [.paragraph [⟨.ofList text, .plain⟩]]

/-- Code without the line end of its last line. -/
def codeText (text : String) : String :=
  if text.toList.getLast? == some '\n' then .ofList text.toList.dropLast else text

@[simp] theorem codeText_ended (text : String) : codeText (text ++ "\n") = text := by
  simp [codeText]

theorem codeText_prefix (text : String) : (codeText text).toList <+: text.toList := by
  unfold codeText
  split
  · rw [String.toList_ofList]
    exact List.dropLast_prefix _
  · exact List.prefix_refl _

def enter (frame : Frame) (walk : Walk) : Walk :=
  match frame with
  | .paragraph => walk
  | .quote => walk
  | .heading level => { walk with heading := some level }
  | .list ordered => { walk with lists := ordered :: walk.lists }
  | .item => { walk with itemsDone := false :: walk.itemsDone }
  | .table => { walk with inTable := true, rows := [] }
  | .row => { walk with row := [] }
  | .cell => { walk with cell := [] }

def leave (frame : Frame) (walk : Walk) : Walk :=
  match frame with
  | .paragraph => walk
  | .quote => walk
  | .heading _ => { walk with heading := none }
  | .list _ => { walk with lists := walk.lists.tail }
  | .item => { walk with itemsDone := walk.itemsDone.tail }
  | .table => { walk with inTable := false, rows := [] }.emit (tableElement walk.rows)
  | .row => { walk with rows := walk.rows ++ [walk.row], row := [] }
  | .cell => { walk with row := walk.row ++ [walk.cell], cell := [] }

def step (walk : Walk) : Token → Walk
  | .opens frame => walk.enter frame
  | .closes frame => walk.leave frame
  | .content items => walk.content items
  | .code text => walk.emit [.codeBlock (codeText text)]
  | .rule => walk.emit [.rule]
  | .html source => walk.emit (htmlElement source)

def run (walk : Walk) (tokens : List Token) : Walk := tokens.foldl step walk

end Walk

/-- The elements of a sequence of tokens. -/
def Element.ofTokens (tokens : List Token) : List Element := (({} : Walk).run tokens).elements

end DocScribe.Markdown
