import DocScribe.Json.Basic

/-! Writing JSON in ASCII: compact on one line, or indented by two spaces with one item a line. -/

namespace DocScribe.Json

/-- A hexadecimal digit in lower case. -/
def hexDigit (n : Nat) : Char := Nat.digitChar (n % 16)

/-- The escape of one UTF-16 code unit. -/
def escapeUnit (unit : Nat) : List Char :=
  ['\\', 'u', hexDigit (unit / 0x1000), hexDigit (unit / 0x100), hexDigit (unit / 0x10),
    hexDigit unit]

/-- A character of a string: the short escapes, the units of every other control and of all that is
not ASCII, and all else as it is. -/
def escapedChar (c : Char) : List Char :=
  match c with
  | '"' => ['\\', '"']
  | '\\' => ['\\', '\\']
  | '\n' => ['\\', 'n']
  | '\r' => ['\\', 'r']
  | '\t' => ['\\', 't']
  | '\x08' => ['\\', 'b']
  | '\x0c' => ['\\', 'f']
  | _ =>
    let n := c.toNat
    if n < 0x20 || (0x7f ≤ n && n < 0x10000) then escapeUnit n
    else if n < 0x7f then [c]
    else escapeUnit (0xd800 + (n - 0x10000) / 0x400) ++ escapeUnit (0xdc00 + (n - 0x10000) % 0x400)

def quotedChars (text : String) : List Char := '"' :: text.toList.flatMap escapedChar ++ ['"']

/-- A fractional number; the numbers that are not finite are spelled as words. -/
def decimalText : Decimal → String
  | .undefined => "NaN"
  | .infinite negative => if negative then "-Infinity" else "Infinity"
  | value => value.toText

/-- Where line breaks go. -/
structure Layout where
  /-- What follows an opening bracket, and comes before an item, at this depth. -/
  lineBreak : Nat → List Char
  /-- What separates two items, before the break. -/
  comma : List Char

def compact : Layout := ⟨fun _ => [], [',', ' ']⟩

/-- Each item on a line of its own, two spaces deeper than the bracket. -/
def indented : Layout := ⟨fun depth => '\n' :: List.replicate (2 * depth) ' ', [',']⟩

mutual

/-- Writes a value that stands at the given depth. -/
def write (layout : Layout) (depth : Nat) : Json → List Char
  | .null => "null".toList
  | .bool value => (if value then "true" else "false").toList
  | .int value => (toString value).toList
  | .decimal value => (decimalText value).toList
  | .str text => quotedChars text
  | .arr [] => ['[', ']']
  | .arr (item :: items) =>
    '[' :: layout.lineBreak (depth + 1) ++ write layout (depth + 1) item ++
      writeItems layout (depth + 1) items ++ layout.lineBreak depth ++ [']']
  | .obj [] => ['\x7b', '\x7d']
  | .obj ((key, value) :: members) =>
    '\x7b' :: layout.lineBreak (depth + 1) ++ quotedChars key ++ [':', ' '] ++
      write layout (depth + 1) value ++ writeMembers layout (depth + 1) members ++
      layout.lineBreak depth ++ ['\x7d']

/-- Writes the items after the first. -/
def writeItems (layout : Layout) (depth : Nat) : List Json → List Char
  | [] => []
  | item :: items =>
    layout.comma ++ layout.lineBreak depth ++ write layout depth item ++
      writeItems layout depth items

/-- Writes the members after the first. -/
def writeMembers (layout : Layout) (depth : Nat) : List (String × Json) → List Char
  | [] => []
  | (key, value) :: members =>
    layout.comma ++ layout.lineBreak depth ++ quotedChars key ++ [':', ' '] ++
      write layout depth value ++ writeMembers layout depth members

end

def pretty (value : Json) : String := .ofList (write indented 0 value)

def oneLine (value : Json) : String := .ofList (write compact 0 value)

end DocScribe.Json
