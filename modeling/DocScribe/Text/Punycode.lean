import DocScribe.Text.Search

/-! Punycode: a label of a host name as ASCII. The ASCII characters come first; the others follow as
the distances between insertions, in numbers whose last digit is below a threshold. -/

namespace DocScribe.Text.Punycode

/-- The threshold of the digit number `place`, counted from zero. -/
def threshold (place bias : Nat) : Nat :=
  let value : Int := 36 * (place + 1) - bias
  if value < 1 then 1 else if 26 < value then 26 else value.toNat

/-- Divides until the distance is small, and counts 36 for each division. The fuel is the
distance. -/
def settle : (fuel delta divisions : Nat) → Nat
  | 0, delta, divisions => divisions + 36 * delta / (delta + 38)
  | fuel + 1, delta, divisions =>
    if 455 < delta then settle fuel (delta / 35) (divisions + 36)
    else divisions + 36 * delta / (delta + 38)

/-- The bias after a distance. -/
def adapt (delta : Nat) (isFirst : Bool) (count : Nat) : Nat :=
  let scaled := if isFirst then delta / 700 else delta / 2
  settle delta (scaled + scaled / count) 0

def digitChar (n : Nat) : Char :=
  if n < 26 then Char.ofNat ('a'.toNat + n) else Char.ofNat ('0'.toNat + n - 26)

def digitValue? (c : Char) : Option Nat :=
  if 'a' ≤ c && c ≤ 'z' then some (c.toNat - 'a'.toNat)
  else if c.isDigit then some (c.toNat - '0'.toNat + 26)
  else none

/-- The digits of a number, lowest first. The fuel is the number. -/
def encodeNumber (bias : Nat) : (fuel place n : Nat) → List Char
  | 0, _, n => [digitChar n]
  | fuel + 1, place, n =>
    let t := threshold place bias
    if n < t then [digitChar n]
    else digitChar (t + (n - t) % (36 - t)) :: encodeNumber bias fuel (place + 1) ((n - t) / (36 - t))

/-- What the encoder keeps: the distance since the last insertion, the bias, how many characters are
written, and whether none was inserted yet. -/
structure Progress where
  delta : Nat
  bias : Nat
  handled : Nat
  isFirst : Bool
  digits : List Char

/-- Passes one character while those with the code point `n` are inserted. -/
def pass (n : Nat) (progress : Progress) (c : Char) : Progress :=
  if c.toNat < n then { progress with delta := progress.delta + 1 }
  else if c.toNat == n then
    { delta := 0
      bias := adapt progress.delta progress.isFirst (progress.handled + 1)
      handled := progress.handled + 1
      isFirst := false
      digits := progress.digits ++ encodeNumber progress.bias progress.delta 0 progress.delta }
  else progress

/-- The smallest code point from `n` on that occurs in a label. -/
def nextPoint? (n : Nat) (label : List Char) : Option Nat :=
  ((label.map Char.toNat).filter (n ≤ ·)).min?

/-- Inserts the characters from the code point `n` on. The fuel bounds the number of different
ones. -/
def insertPoints (label : List Char) : (fuel n : Nat) → Progress → Progress
  | 0, _, progress => progress
  | fuel + 1, n, progress =>
    match nextPoint? n label with
    | none => progress
    | some point =>
      let start := { progress with
        delta := progress.delta + (point - n) * (progress.handled + 1) }
      let done := label.foldl (pass point) start
      insertPoints label fuel (point + 1) { done with delta := done.delta + 1 }

def encode (label : List Char) : List Char :=
  let basic := label.filter (·.toNat < 0x80)
  let done := insertPoints label label.length 0x80 ⟨0, 72, basic.length, true, []⟩
  (if basic.isEmpty then [] else basic ++ ['-']) ++ done.digits

/-- Reads a number of which `place` digits are read; `weight` is the weight of the next. -/
def decodeNumber (bias : Nat) : (place weight sum : Nat) → List Char → Option (Nat × List Char)
  | _, _, _, [] => none
  | place, weight, sum, c :: rest => do
    let digit ← digitValue? c
    let t := threshold place bias
    let sum := sum + digit * weight
    if digit < t then pure (sum, rest) else decodeNumber bias (place + 1) (weight * (36 - t)) sum rest

/-- Inserts characters into `label` as the digits tell; `point` and `position` are those of the last
insertion, the position counted from one. The fuel is the number of digits. -/
def decodeInto : (fuel point position bias : Nat) → (isFirst : Bool) → (label digits : List Char) →
    Option (List Char)
  | _, _, _, _, _, label, [] => some label
  | 0, _, _, _, _, _, _ => none
  | fuel + 1, point, position, bias, isFirst, label, digits => do
    let (delta, rest) ← decodeNumber bias 0 1 0 digits
    let size := label.length + 1
    let place := position + delta
    let point := point + place / size
    if point.isValidChar then
      let spot := place % size
      let label := label.take spot ++ Char.ofNat point :: label.drop spot
      decodeInto fuel point (spot + 1) (adapt delta isFirst label.length) false label rest
    else none

/-- Decodes a label of lower-case ASCII. -/
def decode (label : List Char) : Option (List Char) :=
  if label.any (0x80 ≤ ·.toNat) then none
  else
    let (basic, digits) := match lastIndexOf '-' label with
      | some place => (label.take place, label.drop (place + 1))
      | none => ([], label)
    decodeInto digits.length 0x80 0 72 true basic digits

end DocScribe.Text.Punycode
