/-! The inline content of a block as a flat sequence: text, breaks, the marks that open and close a
style or a link, and what stands for itself. -/

namespace DocScribe.Markdown

/-- The styles that a pair of marks gives. -/
inductive Mark where
  | emphasis
  | strong
  | strike
  deriving DecidableEq

inductive Inline where
  | text (chars : List Char)
  /-- A character that is written as an escape or a reference. -/
  | escaped (chars : List Char)
  | softBreak
  | hardBreak
  | openMark (mark : Mark)
  | closeMark (mark : Mark)
  | openLink (target : List Char)
  | closeLink
  | code (chars : List Char)
  | image (source alt : List Char)
  | html (source : List Char)
  deriving DecidableEq, Inhabited

end DocScribe.Markdown
