import DocScribe.Json.Basic
import DocScribe.Text.Printable

/-! The text of a value inside a message: a string stands for itself, and any other value is shown
with its strings quoted. -/

namespace DocScribe.Json

def hexEscape (letter : Char) (width n : Nat) : List Char :=
  let digits := Nat.toDigits 16 n
  '\\' :: letter :: List.replicate (width - digits.length) '0' ++ digits

def shownChar (quote c : Char) : List Char :=
  if c == quote || c == '\\' then ['\\', c]
  else if c == '\n' then ['\\', 'n']
  else if c == '\r' then ['\\', 'r']
  else if c == '\t' then ['\\', 't']
  else if Text.isPrintable c then [c]
  else if c.toNat < 0x100 then hexEscape 'x' 2 c.toNat
  else if c.toNat < 0x10000 then hexEscape 'u' 4 c.toNat
  else hexEscape 'U' 8 c.toNat

/-- A text in apostrophes, or in double quotes when it holds an apostrophe and no double quote. -/
def shownText (text : String) : List Char :=
  let chars := text.toList
  let quote := if chars.contains '\'' && !chars.contains '"' then '"' else '\''
  quote :: chars.flatMap (shownChar quote) ++ [quote]

mutual

/-- A value with its strings quoted. -/
def shown : Json → List Char
  | .null => "None".toList
  | .bool value => (if value then "True" else "False").toList
  | .int value => (toString value).toList
  | .decimal value => value.toText.toList
  | .str text => shownText text
  | .arr items => '[' :: shownItems true items ++ [']']
  | .obj members => '\x7b' :: shownMembers true members ++ ['\x7d']

/-- The items of an array, with a comma before each but the first. -/
def shownItems (first : Bool) : List Json → List Char
  | [] => []
  | item :: items => (if first then [] else [',', ' ']) ++ shown item ++ shownItems false items

/-- The members of an object, with a comma before each but the first. -/
def shownMembers (first : Bool) : List (String × Json) → List Char
  | [] => []
  | (key, value) :: members =>
    (if first then [] else [',', ' ']) ++ shownText key ++ [':', ' '] ++ shown value ++
      shownMembers false members

end

/-- The text of a value inside a message. -/
def display : Json → String
  | .str text => text
  | value => .ofList (shown value)

end DocScribe.Json
