import DocScribe.Markdown.BlockReader
import DocScribe.Markdown.InlineReader
import DocScribe.Markdown.Task
import DocScribe.Markdown.Walk

/-! Reading a Markdown text: its blocks, then their inline content, then the elements. -/

namespace DocScribe.Markdown

namespace RawBlock

mutual

/-- Reads the inline content of a block. -/
def resolve (read : List Char → List Inline) : RawBlock → Block (List Inline)
  | .paragraph text => .paragraph (read text)
  | .heading level text => .heading level (read text)
  | .list ordered items => .list ordered (resolveItems read items)
  | .quote blocks => .quote (resolveAll read blocks)
  | .table rows => .table (rows.map (·.map read))
  | .code text => .code text
  | .rule => .rule
  | .html source => .html source

def resolveAll (read : List Char → List Inline) : List RawBlock → List (Block (List Inline))
  | [] => []
  | block :: blocks => resolve read block :: resolveAll read blocks

/-- Reads the inline content of items. The paragraph that starts an item may have a checkbox. -/
def resolveItems (read : List Char → List Inline) :
    List (List RawBlock) → List (List (Block (List Inline)))
  | [] => []
  | (.paragraph text :: blocks) :: items =>
    (.paragraph (Task.mark text (read text)) :: resolveAll read blocks) :: resolveItems read items
  | item :: items => resolveAll read item :: resolveItems read items

end

end RawBlock

/-- The blocks of a text with their inline content. -/
def Block.ofText (text : List Char) : List (Block (List Inline)) :=
  let (blocks, definitions) := RawBlock.ofText text
  RawBlock.resolveAll (Inline.ofText definitions) blocks

/-- The elements of a Markdown text. -/
def parse (text : String) : List Element :=
  Element.ofTokens (Token.ofBlocks (Block.ofText text.toList))

end DocScribe.Markdown
