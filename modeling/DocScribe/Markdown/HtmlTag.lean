import DocScribe.Text.Blank

/-! The tags of HTML as patterns over characters. A pattern tries its choices in order and takes
back what it took when the rest does not fit. -/

namespace DocScribe.Markdown

/-- A pattern over characters. -/
inductive Pattern where
  | one (accepts : Char → Bool)
  | seq (first second : Pattern)
  | alt (first second : Pattern)
  /-- As often as possible, but never without taking a character. -/
  | star (body : Pattern)
  | empty

namespace Pattern

/-- The first way to match the start of a text after which `next` accepts the rest. -/
def run (pattern : Pattern) (text : List Char) (next : List Char → Option β) : Option β :=
  match pattern with
  | .empty => next text
  | .one accepts => match text with
    | [] => none
    | c :: rest => if accepts c then next rest else none
  | .seq first second => first.run text fun rest => second.run rest next
  | .alt first second => match first.run text next with
    | some found => some found
    | none => second.run text next
  | .star body =>
    match body.run text fun rest =>
      if _h : rest.length < text.length then (Pattern.star body).run rest next else none with
    | some found => some found
    | none => next text
termination_by (sizeOf pattern, text.length)

def word (text : String) : Pattern :=
  text.toList.foldr (fun c rest => .seq (.one (· == c)) rest) .empty

def all (patterns : List Pattern) : Pattern := patterns.foldr .seq .empty

def maybe (pattern : Pattern) : Pattern := .alt pattern .empty

def plus (pattern : Pattern) : Pattern := .seq pattern (.star pattern)

/-- The length of the first match at the start of a text. -/
def matchLength? (pattern : Pattern) (text : List Char) : Option Nat :=
  pattern.run text fun rest => some (text.length - rest.length)

end Pattern

namespace HtmlTag
open Pattern

/-- A character of an attribute value without quotes. -/
def isBareValue (c : Char) : Bool := 0x20 < c.toNat && !"\"'=<>`".toList.contains c

def blanks : Pattern := .star (.one Text.isBlank)

def tagName : Pattern := .seq (.one Char.isAlpha) (.star (.one fun c => c.isAlphanum || c == '-'))

def attributeName : Pattern :=
  .seq (.one fun c => c.isAlpha || c == '_' || c == ':')
    (.star (.one fun c => c.isAlphanum || ":._-".toList.contains c))

def attributeValue : Pattern :=
  .alt (plus (.one isBareValue))
    (.alt (all [word "'", .star (.one (· != '\'')), word "'"])
      (all [word "\"", .star (.one (· != '"')), word "\""]))

def spacedAttribute : Pattern :=
  all [plus (.one Text.isBlank), attributeName,
    maybe (all [blanks, word "=", blanks, attributeValue])]

def openTag : Pattern :=
  all [word "<", tagName, .star spacedAttribute, blanks, maybe (word "/"), word ">"]

def closeTag : Pattern := all [word "</", tagName, blanks, word ">"]

/-- A comment: the two short forms, or one that ends at the first end mark, which the units of one
to three characters inside it cannot contain. -/
def comment : Pattern :=
  let inside : Pattern := .alt (.one (· != '-'))
    (.alt (.seq (word "-") (.one (· != '-'))) (.seq (word "--") (.one (· != '>'))))
  .alt (word "<!-->") (.alt (word "<!--->") (all [word "<!--", .star inside, word "-->"]))

def declaration : Pattern :=
  all [word "<!", .one Char.isAlpha, .star (.one (· != '>')), word ">"]

/-- The length of what stands between an opening and the first `closing` after it, both included. -/
def spanLength? (opening closing text : List Char) : Option Nat :=
  let rec find : List Char → Option Nat
    | [] => if closing.isEmpty then some 0 else none
    | c :: rest =>
      if closing.isPrefixOf (c :: rest) then some 0 else (find rest).map (· + 1)
  if opening.isPrefixOf text then
    (find (text.drop opening.length)).map (· + opening.length + closing.length)
  else none

/-- The length of the tag, comment, instruction, declaration or section of raw text at the start of
a text. -/
def length? (text : List Char) : Option Nat :=
  [openTag.matchLength? text, closeTag.matchLength? text, comment.matchLength? text,
    spanLength? "<?".toList "?>".toList text, declaration.matchLength? text,
    spanLength? "<![CDATA[".toList "]]>".toList text].findSome? id

/-- A line that holds one opening or closing tag and nothing but blanks after it. -/
def isTagLine (text : List Char) : Bool :=
  let ends (rest : List Char) : Option Unit := if rest.all Text.isBlank then some () else none
  ((openTag.run text ends).or (closeTag.run text ends)).isSome

end HtmlTag
end DocScribe.Markdown
