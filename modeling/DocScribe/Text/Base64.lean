/-! Octets as text of sixty-four digits, padded to whole groups of four. -/

namespace DocScribe.Text.Base64

def digits : List Char :=
  "ABCDEFGHIJKLMNOPQRSTUVWXYZabcdefghijklmnopqrstuvwxyz0123456789+/".toList

def digit (value : Nat) : Char := digits.getD (value % 64) 'A'

def value? (c : Char) : Option Nat := digits.idxOf? c

/-- Three octets make four digits; the last group is filled up with equality signs. -/
def encodeChars : List UInt8 → List Char
  | a :: b :: c :: rest =>
    let n := (a.toNat * 256 + b.toNat) * 256 + c.toNat
    digit (n / 262144) :: digit (n / 4096) :: digit (n / 64) :: digit n :: encodeChars rest
  | [a, b] =>
    let n := (a.toNat * 256 + b.toNat) * 4
    [digit (n / 4096), digit (n / 64), digit n, '=']
  | [a] =>
    let n := a.toNat * 16
    [digit (n / 64), digit n, '=', '=']
  | [] => []

def encode (octets : List UInt8) : String := .ofList (encodeChars octets)

/-- The octets of groups of four values, of which the last may be shorter. -/
def groups : List Nat → List UInt8
  | a :: b :: c :: d :: rest =>
    let n := ((a * 64 + b) * 64 + c) * 64 + d
    .ofNat (n / 65536) :: .ofNat (n / 256) :: .ofNat n :: groups rest
  | [a, b, c] =>
    let n := ((a * 64 + b) * 64 + c) / 4
    [.ofNat (n / 256), .ofNat n]
  | [a, b] => [.ofNat ((a * 64 + b) / 16)]
  | _ => []

/-- The octets of a text; characters that are no digits are passed over. -/
def decode (text : String) : List UInt8 := groups (text.toList.filterMap value?)

end DocScribe.Text.Base64
