import DocScribe.Markdown.Span
import DocScribe.Text.Blank

/-! The flat sequence of elements that a Markdown text is read as. Lists have no node of their own:
an item carries its depth. -/

namespace DocScribe.Markdown
open DocScribe

/-- One element. Levels and depths are whole numbers of any size, since elements need not come from
a text. -/
inductive Element where
  | heading (level : Int) (spans : List Span)
  | paragraph (spans : List Span)
  | listItem (ordered : Bool) (depth : Int) (spans : List Span)
  /-- Rows of cells, the header first. -/
  | table (rows : List (List (List Span)))
  | image (source : String) (isRemote : Bool) (alt : String)
  | rule
  | codeBlock (text : String)
  /-- An element of a kind that has no form here: it ends lists, and nothing stands for it. -/
  | unknown
  deriving DecidableEq, Inhabited

/-- An element without what does not count when elements are compared: an image's description. -/
def Element.essence : Element → Element
  | .image source isRemote _ => .image source isRemote ""
  | element => element

/-- Elements that are equal but for the descriptions of images. -/
def Element.sameContent (a b : List Element) : Bool := a.map essence == b.map essence

/-- A reference with a scheme of two or more characters is remote; one letter before a colon names a
drive. -/
def isRemoteRef (reference : String) : Bool :=
  let isSchemeChar (c : Char) : Bool := c.isAlphanum || c == '+' || c == '.' || c == '-'
  match reference.toList.dropWhile Text.isBlank with
  | first :: rest =>
    let scheme := rest.takeWhile isSchemeChar
    first.isAlpha && !scheme.isEmpty && (rest.drop scheme.length).head? == some ':'
  | [] => false

end DocScribe.Markdown
