import DocScribe.Markdown.Entity
import DocScribe.Text.Blank
import DocScribe.Text.Case
import DocScribe.Text.Punctuation

/-! The parts of a link: its destination, its title and its label. Each reader takes the text from
the part's first character on, and tells how many characters the part has. -/

namespace DocScribe.Markdown.LinkPart
open DocScribe

/-- Resolves the escapes and the references. The fuel is the length of the text. -/
def unescapeFrom : (fuel : Nat) → List Char → List Char
  | 0, _ => []
  | _, [] => []
  | fuel + 1, '\\' :: c :: rest =>
    if Text.isAsciiPunctuation c then c :: unescapeFrom fuel rest
    else '\\' :: unescapeFrom fuel (c :: rest)
  | fuel + 1, '&' :: rest =>
    match Entity.linkReference? rest with
    | some (value, length) => value ++ unescapeFrom fuel (rest.drop length)
    | none => '&' :: unescapeFrom fuel rest
  | fuel + 1, c :: rest => c :: unescapeFrom fuel rest

/-- Resolves the escapes and the references of a destination or a title. -/
def unescape (text : List Char) : List Char := unescapeFrom text.length text

/-- Round brackets nest no deeper in a destination. -/
def maxNesting : Nat := 32

/-- The length of the inside of a destination in angle brackets, which ends on its line. -/
def angleLength? : List Char → Option Nat
  | [] => none
  | '\n' :: _ => none
  | '<' :: _ => none
  | '>' :: _ => some 0
  | '\\' :: _ :: rest => (angleLength? rest).map (· + 2)
  | _ :: rest => (angleLength? rest).map (· + 1)

/-- The length of a bare destination: it ends at a blank or a control character, or at a closing
bracket that none opened, and its brackets are balanced. -/
def bareLength? : (depth : Nat) → List Char → Option Nat
  | depth, [] => if depth == 0 then some 0 else none
  | depth, '\\' :: c :: rest =>
    if c == ' ' then if depth == 0 then some 0 else none
    else (bareLength? depth rest).map (· + 2)
  | depth, c :: rest =>
    if c.toNat ≤ 0x20 || c.toNat == 0x7f then if depth == 0 then some 0 else none
    else if c == '(' then
      if depth < maxNesting then (bareLength? (depth + 1) rest).map (· + 1) else none
    else if c == ')' then
      if depth == 0 then some 0 else (bareLength? (depth - 1) rest).map (· + 1)
    else (bareLength? depth rest).map (· + 1)

/-- The destination at the start of a text, and its length. A bare one is not empty. -/
def destination? (text : List Char) : Option (List Char × Nat) :=
  match text with
  | '<' :: rest => (angleLength? rest).map fun length => (unescape (rest.take length), length + 2)
  | _ => match bareLength? 0 text with
    | none => none
    | some 0 => none
    | some length => some (unescape (text.take length), length)

/-- The length of the inside of a title up to its closing mark. -/
def titleLength? (mark : Char) : List Char → Option Nat
  | [] => none
  | '\\' :: _ :: rest => (titleLength? mark rest).map (· + 2)
  | c :: rest =>
    if c == mark then some 0
    else if c == '(' && mark == ')' then none
    else (titleLength? mark rest).map (· + 1)

def title? (text : List Char) : Option (List Char × Nat) :=
  match text with
  | opening :: rest =>
    let mark? : Option Char :=
      if opening == '"' || opening == '\'' then some opening
      else if opening == '(' then some ')' else none
    match mark? with
    | some mark => (titleLength? mark rest).map fun length =>
        (unescape (rest.take length), length + 2)
    | none => none
  | [] => none

/-- Makes each run of blanks one space. -/
def collapse : List Char → List Char
  | [] => []
  | c :: rest =>
    if !Text.isBlank c then c :: collapse rest
    else if rest.head?.any Text.isBlank then collapse rest
    else ' ' :: collapse rest

/-- The form in which labels are compared: trimmed, each run of blanks one space, and case taken
away by going to lower and then to upper case. -/
def normalizeLabel (label : List Char) : List Char :=
  (Text.lowerFrom [] (collapse (Text.trimBy Text.isMargin label))).flatMap Text.upperChar

end DocScribe.Markdown.LinkPart
