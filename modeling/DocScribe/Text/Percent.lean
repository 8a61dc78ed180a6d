import DocScribe.Json.Reader
import DocScribe.Text.Utf8

/-! Percent coding of URLs, over the octets of UTF-8. -/

namespace DocScribe.Text.Percent

/-- A hexadecimal digit in upper case. -/
def hexDigit (n : Nat) : Char := (Nat.digitChar (n % 16)).toUpper

/-- An octet as a percent sign and two digits. -/
def encodeOctet (octet : Nat) : List Char := ['%', hexDigit (octet / 16), hexDigit octet]

def charOctets (c : Char) : List Nat := (String.utf8EncodeChar c).map UInt8.toNat

/-- The characters of a URL that are written as they are: letters and digits of ASCII, and these
marks. -/
def isPlain (c : Char) : Bool :=
  c.toNat < 0x80 && (c.isAlphanum || ";/?:@&=+$,-_.!~*'()#".toList.contains c)

def isHex (c : Char) : Bool := (Json.hexValue? c).isSome

/-- Encodes all but the plain characters; a percent sign that two hexadecimal digits follow is kept
with them. -/
def encode : List Char → List Char
  | [] => []
  | '%' :: a :: b :: rest =>
    if isHex a && isHex b then '%' :: a :: b :: encode rest
    else encodeOctet 0x25 ++ encode (a :: b :: rest)
  | c :: rest =>
    (if isPlain c then [c] else (charOctets c).flatMap encodeOctet) ++ encode rest

/-- The coded octets at the start of a text, and what follows them. -/
def codedRun : List Char → List Nat × List Char
  | '%' :: a :: b :: rest =>
    match Json.hexValue? a, Json.hexValue? b with
    | some high, some low =>
      let (octets, rest) := codedRun rest
      ((high * 16 + low) :: octets, rest)
    | _, _ => ([], '%' :: a :: b :: rest)
  | text => ([], text)

/-- The ASCII characters that stay coded, so that the parts of a URL stay apart. -/
def staysCoded (n : Nat) : Bool := ";/?:@&=+$,#%".toList.any fun c => c.toNat == n

def isContinuation (octet : Nat) : Bool := 0x80 ≤ octet && octet < 0xc0

/-- The character of a whole sequence of octets, or one replacement character for each octet when
they form none. -/
def decodeSequence (octets : List Nat) : List Char :=
  match decodeUtf8 (octets.map UInt8.ofNat) with
  | .ok text => text.toList
  | .error _ => octets.map fun _ => Char.ofNat 0xfffd

/-- The length of the sequence that a first octet announces. -/
def announcedLength (octet : Nat) : Nat :=
  if octet / 32 == 6 then 2 else if octet / 16 == 14 then 3 else if octet / 8 == 30 then 4 else 1

/-- The characters of a run of coded octets. The fuel is the number of octets. -/
def decodeRun : (fuel : Nat) → List Nat → List Char
  | 0, _ => []
  | _, [] => []
  | fuel + 1, octet :: rest =>
    if octet < 0x80 then
      (if staysCoded octet then encodeOctet octet else [Char.ofNat octet]) ++ decodeRun fuel rest
    else
      let more := announcedLength octet - 1
      let tail := rest.take more
      if more != 0 && tail.length == more && tail.all isContinuation then
        decodeSequence (octet :: tail) ++ decodeRun fuel (rest.drop more)
      else
        Char.ofNat 0xfffd :: decodeRun fuel rest

/-- Decodes the coded octets of a text. The fuel is its length. -/
def decodeFrom : (fuel : Nat) → List Char → List Char
  | 0, _ => []
  | _, [] => []
  | fuel + 1, c :: rest =>
    match codedRun (c :: rest) with
    | ([], _) => c :: decodeFrom fuel rest
    | (octets, rest) => decodeRun octets.length octets ++ decodeFrom fuel rest

/-- Decodes a text for reading. -/
def decode (text : List Char) : List Char := decodeFrom text.length text

end DocScribe.Text.Percent
