import DocScribe.Json.Reader
import DocScribe.Markdown.EntityTable
import DocScribe.Text.Search

/-! Character references: names, and numbers in decimal or hexadecimal digits. -/

namespace DocScribe.Markdown.Entity
open DocScribe

def hexNat (digits : List Char) : Nat :=
  digits.foldl (fun value c => value * 16 + (Json.hexValue? c).getD 0) 0

def decimalNat (digits : List Char) : Nat :=
  digits.foldl (fun value c => value * 10 + (c.toNat - '0'.toNat)) 0

/-- One entry of a row of the table. -/
def entry (text : List Char) : String × List Char :=
  (.ofList (text.takeWhile (· != '=')),
    (Text.splitAt ',' ((text.dropWhile (· != '=')).drop 1)).map fun digits => Char.ofNat (hexNat digits))

def table : List (String × List Char) :=
  entityRows.flatMap fun row => (Text.splitAt ' ' row.toList).map entry

def named? (name : List Char) : Option (List Char) := table.lookup (.ofList name)

/-- A number that denotes a character which text may hold: no surrogate, no control other than the
usual blanks, and no code point that is reserved. -/
def isValid (n : Nat) : Bool :=
  !((0xd800 ≤ n && n ≤ 0xdfff) || (0xfdd0 ≤ n && n ≤ 0xfdef) || n % 0x10000 == 0xffff ||
    n % 0x10000 == 0xfffe || n ≤ 0x08 || n == 0x0b || (0x0e ≤ n && n ≤ 0x1f) ||
    (0x7f ≤ n && n ≤ 0x9f) || 0x10ffff < n)

/-- The number after a number sign: `x` and hexadecimal digits, or decimal digits, with a limit on
the number of each. -/
def number? (hexLimit decimalLimit : Nat) (text : List Char) : Option Nat :=
  let fits (digits : List Char) (limit : Nat) : Bool := 0 < digits.length && digits.length ≤ limit
  let decimal : Option Nat :=
    if fits text decimalLimit && text.all Char.isDigit then some (decimalNat text) else none
  match text with
  | x :: digits =>
    if x == 'x' || x == 'X' then
      if fits digits hexLimit && digits.all (Json.hexValue? · |>.isSome) then some (hexNat digits)
      else none
    else decimal
  | [] => none

/-- The text between an ampersand and the next semicolon. -/
def body? (text : List Char) : Option (List Char) :=
  let body := text.takeWhile fun c => c.isAlphanum || c == '#'
  if (text.drop body.length).head? == some ';' then some body else none

/-- The reference whose ampersand comes before `text`: what it stands for, and its length without the ampersand. -/
def reference? (text : List Char) : Option (List Char × Nat) := do
  let body ← body? text
  match body with
  | '#' :: digits =>
    let n ← number? 6 7 digits
    -- a number that denotes no character stands for the replacement character
    pure ([if isValid n then Char.ofNat n else Char.ofNat 0xfffd], body.length + 1)
  | _ => pure (← named? body, body.length + 1)

/-- The same inside a link, where a number may be longer, and one that denotes no character is no
reference. -/
def linkReference? (text : List Char) : Option (List Char × Nat) := do
  let body ← body? text
  match body with
  | '#' :: digits =>
    let n ← number? 8 8 digits
    if isValid n then pure ([Char.ofNat n], body.length + 1) else none
  | _ => pure (← named? body, body.length + 1)

end DocScribe.Markdown.Entity
