/-! The blocks of a Markdown text, over any kind of inline content. -/

namespace DocScribe.Markdown

inductive Block (Content : Type) where
  | paragraph (content : Content)
  | heading (level : Nat) (content : Content)
  | list (ordered : Bool) (items : List (List (Block Content)))
  | quote (blocks : List (Block Content))
  | table (rows : List (List Content))
  /-- Code, the line end of its last line included. -/
  | code (text : String)
  | rule
  | html (source : String)

end DocScribe.Markdown
