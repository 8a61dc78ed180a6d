import DocScribe.Json.Basic
import DocScribe.Text.Integer

/-! Reading JSON text. Beside the standard, the three words for numbers that are not finite are
read, and a key that comes twice keeps its first place and its last value. -/

namespace DocScribe.Json
open Text (IntegerFault)

/-- Cuts the four blanks that JSON allows between tokens. -/
def skipSpace (text : List Char) : List Char :=
  text.dropWhile fun c => c == ' ' || c == '\t' || c == '\n' || c == '\r'

def hexValue? (c : Char) : Option Nat :=
  if c.isDigit then some (c.toNat - '0'.toNat)
  else if 'a' ≤ c && c ≤ 'f' then some (c.toNat - 'a'.toNat + 10)
  else if 'A' ≤ c && c ≤ 'F' then some (c.toNat - 'A'.toNat + 10)
  else none

/-- The unit that four hexadecimal digits denote. -/
def hexUnit? (a b c d : Char) : Option Nat := do
  let a ← hexValue? a
  let b ← hexValue? b
  let c ← hexValue? c
  let d ← hexValue? d
  pure (((a * 16 + b) * 16 + c) * 16 + d)

/-- The character that a letter after a backslash stands for. -/
def escapeChar? : Char → Option Char
  | '"' => some '"'
  | '\\' => some '\\'
  | '/' => some '/'
  | 'b' => some '\x08'
  | 'f' => some '\x0c'
  | 'n' => some '\n'
  | 'r' => some '\r'
  | 't' => some '\t'
  | _ => none

def ofSurrogates (high low : Nat) : Char :=
  Char.ofNat (0x10000 + (high - 0xd800) * 0x400 + (low - 0xdc00))

/-- The character of a single unit; half of a surrogate pair has none, and is replaced. -/
def ofUnit (unit : Nat) : Char :=
  if 0xd800 ≤ unit && unit ≤ 0xdfff then Char.ofNat 0xfffd else Char.ofNat unit

/-- Reads the rest of a string after its opening quote. Control characters must be escaped. -/
def readString : List Char → Option (List Char × List Char)
  | [] => none
  | '"' :: rest => some ([], rest)
  | '\\' :: 'u' :: a :: b :: c :: d :: '\\' :: 'u' :: a' :: b' :: c' :: d' :: rest => do
    let high ← hexUnit? a b c d
    match hexUnit? a' b' c' d' with
    | some low =>
      if 0xd800 ≤ high && high ≤ 0xdbff && 0xdc00 ≤ low && low ≤ 0xdfff then
        let (text, rest) ← readString rest
        pure (ofSurrogates high low :: text, rest)
      else
        let (text, rest) ← readString ('\\' :: 'u' :: a' :: b' :: c' :: d' :: rest)
        pure (ofUnit high :: text, rest)
    | none => none
  | '\\' :: 'u' :: a :: b :: c :: d :: rest => do
    let unit ← hexUnit? a b c d
    let (text, rest) ← readString rest
    pure (ofUnit unit :: text, rest)
  | '\\' :: c :: rest => do
    let c ← escapeChar? c
    let (text, rest) ← readString rest
    pure (c :: text, rest)
  | c :: rest => do
    if c.toNat < 0x20 || c == '\\' then none
    else
      let (text, rest) ← readString rest
      pure (c :: text, rest)

/-- The leading ASCII digits and what follows them. -/
def readDigits (text : List Char) : List Nat × List Char :=
  ((text.takeWhile Char.isDigit).map fun c => c.toNat - '0'.toNat, text.dropWhile Char.isDigit)

/-- The fraction after a point, when digits follow the point. -/
def readFraction (text : List Char) : Option (List Nat × List Char) :=
  match text with
  | '.' :: rest => match readDigits rest with
    | ([], _) => none
    | found => some found
  | _ => none

/-- The exponent after the letter e, when digits follow. -/
def readExponent (text : List Char) : Option (Int × List Char) :=
  let signed (rest : List Char) (negative : Bool) : Option (Int × List Char) :=
    match readDigits rest with
    | ([], _) => none
    | (digits, rest) =>
      let size : Int := Text.ofDigits digits
      some (if negative then -size else size, rest)
  match text with
  | e :: rest =>
    if e == 'e' || e == 'E' then match rest with
      | '-' :: rest => signed rest true
      | '+' :: rest => signed rest false
      | rest => signed rest false
    else none
  | [] => none

/-- Reads a number whose sign is read already. -/
def readNumber (negative : Bool) (text : List Char) : Except IntegerFault (Json × List Char) := do
  let (digits, rest) ← match text with
    | '0' :: rest => pure ([0], rest)
    | c :: _ => if c.isDigit then pure (readDigits text) else throw .malformed
    | [] => throw .malformed
  let (places, afterPlaces) := (readFraction rest).getD ([], rest)
  let exponent := readExponent afterPlaces
  if places.isEmpty && exponent.isNone then
    let size ← Text.digitsNat digits
    pure (.int (if negative then -size else size), rest)
  else
    let (power, rest) := exponent.getD (0, afterPlaces)
    pure (.decimal (.ofScientific negative (Text.ofDigits (digits ++ places)) (power - places.length)),
      rest)

def words : List (List Char × Json) :=
  [("null".toList, .null), ("true".toList, .bool true), ("false".toList, .bool false),
   ("NaN".toList, .decimal .undefined), ("Infinity".toList, .decimal (.infinite false)),
   ("-Infinity".toList, .decimal (.infinite true))]

def readWord (text : List Char) : Option (Json × List Char) :=
  words.findSome? fun (word, value) =>
    if word.isPrefixOf text then some (value, text.drop word.length) else none

mutual

/-- Reads a value that starts here. The fuel bounds the nesting and the number of items. -/
def readValue : Nat → List Char → Except IntegerFault (Json × List Char)
  | 0, _ => throw .malformed
  | fuel + 1, text =>
    match text with
    | '"' :: rest => match readString rest with
      | some (body, rest) => pure (.str (.ofList body), rest)
      | none => throw .malformed
    | '[' :: rest =>
      match skipSpace rest with
      | ']' :: rest => pure (.arr [], rest)
      | rest => do
        let (items, rest) ← readItems fuel rest
        pure (.arr items, rest)
    | '\x7b' :: rest =>
      match skipSpace rest with
      | '\x7d' :: rest => pure (.obj [], rest)
      | rest => readMembers fuel [] rest
    | _ =>
      match readWord text with
      | some found => pure found
      | none => match text with
        | '-' :: rest => readNumber true rest
        | _ => readNumber false text

/-- Reads the items of an array up to its closing bracket. -/
def readItems : Nat → List Char → Except IntegerFault (List Json × List Char)
  | 0, _ => throw .malformed
  | fuel + 1, text => do
    let (item, rest) ← readValue fuel text
    match skipSpace rest with
    | ']' :: rest => pure ([item], rest)
    | ',' :: rest =>
      let (items, rest) ← readItems fuel (skipSpace rest)
      pure (item :: items, rest)
    | _ => throw .malformed

/-- Reads the members of an object, after those in `members`, up to its closing brace. -/
def readMembers : Nat → List (String × Json) → List Char →
    Except IntegerFault (Json × List Char)
  | 0, _, _ => throw .malformed
  | fuel + 1, members, text =>
    match text with
    | '"' :: rest => match readString rest with
      | none => throw .malformed
      | some (key, rest) => match skipSpace rest with
        | ':' :: rest => do
          let (value, rest) ← readValue fuel (skipSpace rest)
          let members := setMember (.ofList key) value members
          match skipSpace rest with
          | '\x7d' :: rest => pure (.obj members, rest)
          | ',' :: rest => readMembers fuel members (skipSpace rest)
          | _ => throw .malformed
        | _ => throw .malformed
    | _ => throw .malformed

end

/-- Reads a text that holds one value and nothing else. -/
def read (text : String) : Except IntegerFault Json := do
  let chars := text.toList
  let (value, rest) ← readValue (chars.length + 1) (skipSpace chars)
  if (skipSpace rest).isEmpty then pure value else throw .malformed

end DocScribe.Json
