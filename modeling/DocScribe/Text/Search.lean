/-! Looking for one text inside another, and cutting at separators. -/

namespace DocScribe.Text

/-- The first position at which `needle` occurs in `hay`. -/
def findIn (needle : List Char) : List Char → Option Nat
  | [] => if needle.isEmpty then some 0 else none
  | c :: rest =>
    if needle.isPrefixOf (c :: rest) then some 0 else (findIn needle rest).map (· + 1)

def occursIn (needle hay : List Char) : Bool := (findIn needle hay).isSome

def occurs (needle hay : String) : Bool := occursIn needle.toList hay.toList

def lastIndexOf (c : Char) (text : List Char) : Option Nat :=
  (text.reverse.idxOf? c).map fun back => text.length - 1 - back

/-- The parts between the characters of a class: one more than there are such characters. -/
def splitBy (isSeparator : Char → Bool) : List Char → List (List Char)
  | [] => [[]]
  | c :: rest =>
    if isSeparator c then
      [] :: splitBy isSeparator rest
    else
      match splitBy isSeparator rest with
      | [] => [[c]]
      | part :: parts => (c :: part) :: parts

def splitAt (separator : Char) : List Char → List (List Char) := splitBy (· == separator)

def joinWith (separator : List Char) (parts : List (List Char)) : List Char :=
  separator.intercalate parts

/-- The text without `head` at its start, when it starts with it. -/
def after? (head text : List Char) : Option (List Char) :=
  if head.isPrefixOf text then some (text.drop head.length) else none

end DocScribe.Text
