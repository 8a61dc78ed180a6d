import DocScribe.Markdown.LinkPart
import DocScribe.Markdown.Url

/-! Definitions of link labels. -/

namespace DocScribe.Markdown
open DocScribe

/-- The destinations of the defined labels. -/
abbrev Definitions := List (List Char × List Char)

/-- Adds a definition, unless the label has one: the first one counts. -/
def Definitions.add (label target : List Char) (definitions : Definitions) : Definitions :=
  if (definitions.lookup label).isSome then definitions else definitions ++ [(label, target)]

/-- A definition at the start of a text: its label in the form in which labels are compared, its
destination, and how many line ends come before its end. -/
structure FoundDefinition where
  label : List Char
  target : List Char
  lineEnds : Nat

namespace FoundDefinition

/-- The length of a label up to its closing bracket. -/
def labelLength? : List Char → Option Nat
  | [] => none
  | '[' :: _ => none
  | ']' :: _ => some 0
  | '\\' :: _ :: rest => (labelLength? rest).map (· + 2)
  | _ :: rest => (labelLength? rest).map (· + 1)

/-- Blanks and line ends between the parts. -/
def isGap (c : Char) : Bool := Text.isIndent c || c == '\n'

/-- Nothing but blanks follows on the line. -/
def endsLine (text : List Char) : Bool :=
  let rest := text.dropWhile Text.isIndent
  rest.isEmpty || rest.head? == some '\n'

/-- The end of a definition, counted from the end of its destination: behind a title that is set apart and ends its
line, or else right there, when the destination ends its line. -/
def endAfter? (tail : List Char) : Option Nat :=
  let untitled := if endsLine tail then some 0 else none
  let gap := (tail.takeWhile isGap).length
  if gap == 0 then untitled
  else match LinkPart.title? (tail.drop gap) with
    | none => untitled
    | some (title, length) =>
      if endsLine (tail.drop (gap + length)) then some (gap + length)
      -- an empty title that does not end its line spoils the definition
      else if title.isEmpty then none
      else untitled

/-- Reads a definition at the start of a text: a label in square brackets, a colon, a destination
that is allowed, and at most a title. -/
def ofText? (text : List Char) : Option FoundDefinition := do
  match text with
  | '[' :: body =>
    let length ← labelLength? body
    let label := LinkPart.normalizeLabel (body.take length)
    match body.drop (length + 1) with
    | ':' :: rest =>
      let gap := (rest.takeWhile isGap).length
      let (destination, size) ← LinkPart.destination? (rest.drop gap)
      let target := Url.normalize destination
      let more ← endAfter? (rest.drop (gap + size))
      if label.isEmpty || !Url.isAllowed target then none
      else pure ⟨label, target, (text.take (length + 3 + gap + size + more)).count '\n'⟩
    | _ => none
  | _ => none

end FoundDefinition
end DocScribe.Markdown
