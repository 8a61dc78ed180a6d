import DocScribe.Text.CaseTable

/-! The full case mappings of Unicode. Lower case looks at the neighbours of a capital sigma; all
else maps character by character, some to two or three characters. -/

namespace DocScribe.Text
open Case

/-- A capital sigma that ends a word: the nearest character before it that is not skipped has case,
and the nearest one after it has not. The characters before it come nearest first. -/
def endsWord (before after : List Char) : Bool :=
  let nearest (side : List Char) := side.dropWhile ignorableRanges.contains
  (nearest before).head?.any casedRanges.contains &&
    !(nearest after).head?.any casedRanges.contains

/-- The lower-case form of one character, from the second case on only for one whose form does not
depend on its place. -/
def lowerChar (c : Char) : List Char :=
  if c.toNat < 0x80 then [c.toLower]
  else if c.toNat == 0x130 then ['i', Char.ofNat 0x307]
  else [((lowerRuns.findSome? (·.map? c.toNat)).map Char.ofNat).getD c]

/-- Lower case of a text whose preceding characters, nearest first, are `before`. -/
def lowerFrom (before : List Char) : List Char → List Char
  | [] => []
  | c :: rest =>
    let form :=
      if c.toNat == 0x3a3 then
        [Char.ofNat (if endsWord before rest then 0x3c2 else 0x3c3)]
      else
        lowerChar c
    form ++ lowerFrom (c :: before) rest

def upperChar (c : Char) : List Char :=
  if c.toNat < 0x80 then [c.toUpper]
  else match upperLong.lookup c.toNat with
    | some form => form.map Char.ofNat
    | none => [((upperRuns.findSome? (·.map? c.toNat)).map Char.ofNat).getD c]

def lower (text : String) : String := .ofList (lowerFrom [] text.toList)

def upper (text : String) : String := .ofList (text.toList.flatMap upperChar)

end DocScribe.Text
