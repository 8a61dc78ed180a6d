import DocScribe.Markdown.Block
import DocScribe.Markdown.Inline

/-! Blocks as a flat sequence of tokens: a block with blocks or content inside opens and closes. -/

namespace DocScribe.Markdown

/-- The blocks that open and close. -/
inductive Frame where
  | paragraph
  | heading (level : Nat)
  | list (ordered : Bool)
  | item
  | quote
  | table
  | row
  | cell
  deriving DecidableEq

inductive Token where
  | opens (frame : Frame)
  | closes (frame : Frame)
  /-- The content of a paragraph, a heading or a cell. -/
  | content (items : List Inline)
  /-- Code, the line end of its last line included. -/
  | code (text : String)
  | rule
  | html (source : String)
  deriving DecidableEq

namespace Token

def framed (frame : Frame) (inside : List Token) : List Token :=
  .opens frame :: inside ++ [.closes frame]

mutual

def ofBlock : Block (List Inline) → List Token
  | .paragraph items => framed .paragraph [.content items]
  | .heading level items => framed (.heading level) [.content items]
  | .list ordered items => framed (.list ordered) (ofItems items)
  | .quote blocks => framed .quote (ofBlocks blocks)
  | .table rows => framed .table (rows.flatMap fun row =>
      framed .row (row.flatMap fun cell => framed .cell [.content cell]))
  | .code text => [.code text]
  | .rule => [.rule]
  | .html source => [.html source]

def ofBlocks : List (Block (List Inline)) → List Token
  | [] => []
  | block :: blocks => ofBlock block ++ ofBlocks blocks

def ofItems : List (List (Block (List Inline))) → List Token
  | [] => []
  | item :: items => framed .item (ofBlocks item) ++ ofItems items

end

end Token
end DocScribe.Markdown
