/-! Fractional numbers: a written number is rounded to the nearest binary number of 53 bits, and
kept as the fewest decimal digits that read back as it. -/

namespace DocScribe

/-- A fractional number by its fewest digits: `digits` times ten to the power `exponent`. -/
inductive Decimal where
  | finite (negative : Bool) (digits : Nat) (exponent : Int)
  | infinite (negative : Bool)
  | undefined
  deriving DecidableEq

namespace Decimal

/-- The whole number nearest to `num / den`; a half goes to the even neighbour. -/
def roundDiv (num den : Nat) : Nat :=
  let low := num / den
  let twice := 2 * (num % den)
  if twice < den || (twice == den && low % 2 == 0) then low else low + 1

/-- `num / den` times two to the power `shift`, rounded to a whole number. -/
def roundScaled (num den : Nat) (shift : Int) : Nat :=
  if 0 ≤ shift then roundDiv (num * Nat.pow 2 shift.toNat) den else roundDiv num (den * Nat.pow 2 (-shift).toNat)

/-- The nearest binary number to `num / den`: a significand below 2^53 and a power of two that is at
least -1074. -/
def nearest (num den : Nat) : Nat × Int :=
  let power : Int := max ((num.log2 : Int) - (den.log2 : Int) - 53) (-1074)
  let settle (power : Int) : Option (Nat × Int) :=
    let significand := roundScaled num den (-power)
    if significand < Nat.pow 2 53 then some (significand, power) else none
  match settle power with
  | some found => found
  | none => match settle (power + 1) with
    | some found => found
    | none => (roundScaled num den (-(power + 2)), power + 2)

/-- `digits` times ten to the power `exponent` as a fraction. -/
def fraction (digits : Nat) (exponent : Int) : Nat × Nat :=
  if 0 ≤ exponent then (digits * Nat.pow 10 exponent.toNat, 1) else (digits, Nat.pow 10 (-exponent).toNat)

/-- Two binary numbers are the same: the one with the greater power scaled to the other. -/
def sameBinary (a b : Nat × Int) : Bool :=
  let low := min a.2 b.2
  a.1 * Nat.pow 2 (a.2 - low).toNat == b.1 * Nat.pow 2 (b.2 - low).toNat

/-- Divides out the tens. The fuel is the number of digits. -/
def stripZeros : (fuel : Nat) → Nat → Int → Nat × Int
  | 0, digits, exponent => (digits, exponent)
  | fuel + 1, digits, exponent =>
    if digits != 0 && digits % 10 == 0 then stripZeros fuel (digits / 10) (exponent + 1)
    else (digits, exponent)

/-- Of the two neighbours of `num / den` among the multiples of ten to the power `exponent`, the
nearer one that reads back as `target`. -/
def onGrid? (target : Nat × Int) (num den : Nat) (exponent : Int) : Option Nat :=
  let (up, down) := fraction 1 exponent
  let scaledNum := num * down
  let scaledDen := den * up
  let low := scaledNum / scaledDen
  let near := roundDiv scaledNum scaledDen
  let far := if near == low then low + 1 else low
  [near, far].find? fun digits =>
    let (n, d) := fraction digits exponent
    digits != 0 && sameBinary (nearest n d) target

/-- The fewest digits that read back as a binary number other than zero. -/
def shortest (target : Nat × Int) : Nat × Int :=
  let (num, den) := if 0 ≤ target.2 then (target.1 * Nat.pow 2 target.2.toNat, 1)
    else (target.1, Nat.pow 2 (-target.2).toNat)
  let magnitude : Int :=
    if den ≤ num then ((Nat.toDigits 10 (num / den)).length : Int)
    else 1 - ((Nat.toDigits 10 (den / num)).length : Int)
  let found := (List.range 19).findSome? fun count =>
    let exponent := magnitude + 1 - Int.ofNat count
    (onGrid? target num den exponent).map fun digits => (digits, exponent)
  match found with
  | some (digits, exponent) => stripZeros 20 digits exponent
  | none => (num, 0)

/-- The number that `digits` times ten to the power `exponent` is rounded to. -/
def ofScientific (negative : Bool) (digits : Nat) (exponent : Int) : Decimal :=
  if digits == 0 then .finite negative 0 0
  else
    let size : Int := (Nat.toDigits 10 digits).length + exponent
    if 400 < size then .infinite negative
    else if size < -400 then .finite negative 0 0
    else
      let (num, den) := fraction digits exponent
      let target := nearest num den
      if target.1 == 0 then .finite negative 0 0
      else if 971 < target.2 + (target.1.log2 : Int) - 52 then .infinite negative
      else
        let (short, power) := shortest target
        .finite negative short power

/-- Toward zero; nothing for a number that is not finite. -/
def truncate? : Decimal → Option Int
  | .finite negative digits exponent =>
    let (num, den) := fraction digits exponent
    let value : Int := num / den
    some (if negative then -value else value)
  | _ => none

def isZero : Decimal → Bool
  | .finite _ digits _ => digits == 0
  | _ => false

/-- Fewest digits: positional from 10^-4 up to below 10^16, with a point always, and otherwise one
digit before the point and an exponent of two digits at least. -/
def toText : Decimal → String
  | .undefined => "nan"
  | .infinite negative => if negative then "-inf" else "inf"
  | .finite negative digits exponent =>
    let figures := Nat.toDigits 10 digits
    let sign := if negative then "-" else ""
    let point : Int := figures.length + exponent
    let zeros (n : Int) : List Char := List.replicate n.toNat '0'
    let body : List Char :=
      if digits == 0 then ['0', '.', '0']
      else if -4 < point && point ≤ 16 then
        if point ≤ 0 then '0' :: '.' :: zeros (-point) ++ figures
        else if figures.length ≤ point then figures ++ zeros (point - figures.length) ++ ['.', '0']
        else figures.take point.toNat ++ '.' :: figures.drop point.toNat
      else
        let power := point - 1
        let mantissa := match figures with
          | [] => []
          | [only] => [only]
          | lead :: rest => lead :: '.' :: rest
        let size := Nat.toDigits 10 power.natAbs
        mantissa ++ 'e' :: (if power < 0 then '-' else '+') ::
          (if size.length < 2 then '0' :: size else size)
    sign ++ .ofList body

end Decimal
end DocScribe
