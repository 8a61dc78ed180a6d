import DocScribe.Markdown.Inline
import DocScribe.Text.Blank

/-! Task items: an item whose text starts with a box in square brackets gets a checkbox. -/

namespace DocScribe.Markdown.Task

/-- The blanks that may follow the box. -/
def isGap (c : Char) : Bool :=
  c == ' ' || (0x09 ≤ c.toNat && c.toNat ≤ 0x0d)

def startsWithBox : List Char → Bool
  | '[' :: mark :: ']' :: gap :: _ => (mark == ' ' || mark == 'x' || mark == 'X') && isGap gap
  | _ => false

/-- The checkbox for a box; one that no space follows stays invisible. -/
def checkbox : List Char → List Char
  | '[' :: mark :: ']' :: ' ' :: _ =>
    ("<input class=\"task-list-item-checkbox\" " ++ (if mark == ' ' then "" else "checked=\"checked\" ") ++
      "disabled=\"disabled\" type=\"checkbox\">").toList
  | _ => []

/-- Content without the box, which takes up three characters of a text. -/
def cutBox : List Inline → List Inline
  | .text chars :: rest => .text (chars.drop 3) :: rest
  | items => items

/-- The content of the first paragraph of an item, read from `text`. -/
def mark (text : List Char) (items : List Inline) : List Inline :=
  if startsWithBox text then .html (checkbox text) :: cutBox items else items

end DocScribe.Markdown.Task
