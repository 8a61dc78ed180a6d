/-! UTF-8 with the reason and place of the first fault. -/

namespace DocScribe.Text

/-- What is wrong with an encoded text. -/
inductive Utf8Reason where
  | invalidStart
  | invalidContinuation
  | unexpectedEnd
  deriving DecidableEq

/-- The first fault of an encoded text: the position of its first octet and that octet, how many
octets belong to it, and the reason. -/
structure Utf8Fault where
  position : Nat
  octet : UInt8
  length : Nat
  reason : Utf8Reason
  deriving DecidableEq

/-- How many continuation octets follow a first octet, the bounds of the next octet, which exclude
overlong forms, surrogates and values beyond U+10FFFF, and the bits that it contributes. -/
def leadOctet? (octet : UInt8) : Option (Nat × Nat × Nat × Nat) :=
  let n := octet.toNat
  if 0xc2 ≤ n && n ≤ 0xdf then some (1, 0x80, 0xbf, n - 0xc0)
  else if n == 0xe0 then some (2, 0xa0, 0xbf, 0)
  else if n == 0xed then some (2, 0x80, 0x9f, n - 0xe0)
  else if 0xe1 ≤ n && n ≤ 0xef then some (2, 0x80, 0xbf, n - 0xe0)
  else if n == 0xf0 then some (3, 0x90, 0xbf, 0)
  else if 0xf1 ≤ n && n ≤ 0xf3 then some (3, 0x80, 0xbf, n - 0xf0)
  else if n == 0xf4 then some (3, 0x80, 0x8f, n - 0xf0)
  else none

/-- Reads the continuation octets of one character. The first must lie in `[low, high]`, the others
in the whole range of continuation octets; `seen` octets of the character are already read. -/
def continueUtf8 : (count low high bits seen : Nat) → List UInt8 →
    Except (Nat × Utf8Reason) (Char × List UInt8)
  | 0, _, _, bits, _, rest => .ok (Char.ofNat bits, rest)
  | _ + 1, _, _, _, seen, [] => .error (seen, .unexpectedEnd)
  | count + 1, low, high, bits, seen, octet :: rest =>
    if low ≤ octet.toNat && octet.toNat ≤ high then
      continueUtf8 count 0x80 0xbf (bits * 64 + (octet.toNat - 0x80)) (seen + 1) rest
    else
      .error (seen, .invalidContinuation)

/-- Decodes what starts at the octet number `position`. The fuel is the number of octets. -/
def decodeUtf8From : (fuel position : Nat) → List UInt8 → Except Utf8Fault (List Char)
  | 0, _, _ => .ok []
  | _, _, [] => .ok []
  | fuel + 1, position, octet :: rest =>
    if octet.toNat < 0x80 then
      (decodeUtf8From fuel (position + 1) rest).map (Char.ofNat octet.toNat :: ·)
    else match leadOctet? octet with
      | none => .error ⟨position, octet, 1, .invalidStart⟩
      | some (count, low, high, bits) =>
        match continueUtf8 count low high bits 1 rest with
        | .error (length, reason) => .error ⟨position, octet, length, reason⟩
        | .ok (c, more) => (decodeUtf8From fuel (position + count + 1) more).map (c :: ·)

def decodeUtf8 (octets : List UInt8) : Except Utf8Fault String :=
  (decodeUtf8From octets.length 0 octets).map .ofList

def encodeUtf8 (text : String) : List UInt8 := text.toList.flatMap String.utf8EncodeChar

def octetCount (text : List Char) : Nat := text.foldr (fun c octets => c.utf8Size + octets) 0

/-- The longest start of a text, in whole characters, that takes at most `limit` octets. -/
def takeOctets : (limit : Nat) → List Char → List Char
  | _, [] => []
  | limit, c :: rest =>
    if c.utf8Size ≤ limit then c :: takeOctets (limit - c.utf8Size) rest else []

end DocScribe.Text
