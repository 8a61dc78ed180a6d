import DocScribe.Text.Blank
import DocScribe.Text.Digit

/-! Reading whole numbers: blanks around, an optional sign, digits of any script, and single
underscores between digits. -/

namespace DocScribe.Text

/-- The digits of a numeral longer than this are refused. -/
def maxDigits : Nat := 4300

inductive IntegerFault where
  | malformed
  | tooLong (digits : Nat)
  deriving DecidableEq

/-- The digits of a numeral in which an underscore may stand between two digits. -/
def numeralDigits? : List Char → Option (List Nat)
  | [] => none
  | [c] => (digitValue? c).map ([·])
  | c :: '_' :: rest => do
    let value ← digitValue? c
    (numeralDigits? rest).map (value :: ·)
  | c :: d :: rest => do
    let value ← digitValue? c
    (numeralDigits? (d :: rest)).map (value :: ·)

/-- The number with these digits, most significant first. -/
def ofDigits (digits : List Nat) : Nat := digits.foldl (fun value digit => value * 10 + digit) 0

/-- The number that digits of any script denote, unless there are too many of them. -/
def digitsNat (digits : List Nat) : Except IntegerFault Nat :=
  if maxDigits < digits.length then .error (.tooLong digits.length) else .ok (ofDigits digits)

def readInt (text : String) : Except IntegerFault Int :=
  let (negative, body) := match trimBy isBlank text.toList with
    | '-' :: rest => (true, rest)
    | '+' :: rest => (false, rest)
    | rest => (false, rest)
  match numeralDigits? body with
  | none => .error .malformed
  | some digits => (digitsNat digits).map fun value => if negative then -value else value

/-- Decimal digits with a comma between groups of three. -/
def grouped (n : Nat) : String :=
  let digits := (toString n).toList.reverse
  let rec group : List Char → List Char
    | a :: b :: c :: d :: rest => a :: b :: c :: ',' :: group (d :: rest)
    | rest => rest
  .ofList (group digits).reverse

end DocScribe.Text
