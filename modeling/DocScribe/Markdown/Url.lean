import DocScribe.Text.Blank
import DocScribe.Text.Case
import DocScribe.Text.Percent
import DocScribe.Text.Punycode
import DocScribe.Text.Search

/-! URLs of links and images: their parts, the coded form that goes into a document, the readable
form that an automatic link shows, and the schemes that are refused. -/

namespace DocScribe.Markdown

/-- The parts of a URL, each with the marks that set it apart; a part that is absent is empty. -/
structure Url where
  /-- With its colon. -/
  scheme : List Char
  /-- Two slashes follow the scheme. -/
  slashes : Bool
  /-- What stands before the at sign. -/
  user : List Char
  host : List Char
  /-- Without its colon. -/
  port : List Char
  path : List Char
  /-- With its question mark. -/
  query : List Char
  /-- With its number sign. -/
  fragment : List Char

namespace Url

/-- A character of a scheme. The class ignores case as Unicode folds it, so it holds four characters
that fold to an ASCII letter. -/
def isSchemeChar (c : Char) : Bool :=
  c.isAlphanum || c == '+' || c == '.' || c == '-' ||
    [0x130, 0x131, 0x17f, 0x212a].contains c.toNat

def splitScheme (text : List Char) : List Char × List Char :=
  let name := text.takeWhile isSchemeChar
  match text.dropWhile isSchemeChar with
  | ':' :: rest => if name.isEmpty then ([], text) else (name ++ [':'], rest)
  | _ => ([], text)

/-- Schemes that have a host only after two slashes. -/
def slashedSchemes : List String := ["http:", "https:", "ftp:", "gopher:", "file:"]

def endsHost (c : Char) : Bool :=
  "%/?;#'\x7b\x7d|\\^`<>\" \r\n\t".toList.contains c

/-- The part before the last at sign of the authority, and the rest. -/
def splitUser (text : List Char) : List Char × List Char :=
  let isEnd (c : Char) : Bool := c == '/' || c == '?' || c == '#'
  match Text.lastIndexOf '@' (text.takeWhile (!isEnd ·)) with
  | some place => (text.take place, text.drop (place + 1))
  | none => ([], text)

/-- A host without its port, and the port. A colon that no digit follows is dropped. -/
def splitPort (host : List Char) : List Char × List Char :=
  let digits := (host.reverse.takeWhile Char.isDigit).reverse
  match host.reverse.dropWhile Char.isDigit with
  | ':' :: before => (before.reverse, digits)
  | _ => (host, [])

def isLabelChar (c : Char) : Bool := c.isAlphanum || c == '+' || c == '_' || c == '-'

def maxLabel : Nat := 63

def maxHost : Nat := 255

/-- A label that a host may have; a character that is not ASCII counts as a letter. -/
def validLabel (label : List Char) : Bool :=
  label.length ≤ maxLabel && label.all fun c => isLabelChar c || 0x80 ≤ c.toNat

/-- The valid labels of a host, with the start of the first invalid one, and what is left over. -/
def splitLabels : List (List Char) → List (List Char) × Option (List (List Char))
  | [] => ([], none)
  | label :: labels =>
    if validLabel label then
      let (valid, left) := splitLabels labels
      (label :: valid, left)
    else
      let start := (label.takeWhile isLabelChar).take maxLabel
      ([start], some (label.drop start.length :: labels))

/-- A host that is an address in square brackets. -/
def isBracketed (host : List Char) : Bool := host.head? == some '[' && host.getLast? == some ']'

/-- The host at the start of a text, its port, and the rest, with what is not a valid host put back
before it. -/
def splitHost (text : List Char) : List Char × List Char × List Char :=
  let whole := text.takeWhile (!endsHost ·)
  let whole := if whole.getLast? == some ':' then whole.dropLast else whole
  let rest := text.drop whole.length
  let (host, port) := splitPort whole
  if isBracketed host then
    let host := if maxHost < host.length then [] else host
    ((host.drop 1).dropLast, port, rest)
  else
    let (valid, left) := splitLabels (Text.splitAt '.' host)
    let host := Text.joinWith ['.'] valid
    let rest := match left with
      | some labels => Text.joinWith ['.'] labels ++ rest
      | none => rest
    (if maxHost < host.length then [] else host, port, rest)

/-- Takes a text apart. Two slashes, or a scheme that needs none, introduce a host. -/
def parse (text : List Char) : Url :=
  let (scheme, rest) := splitScheme (Text.trimBy Text.isBlank text)
  let (slashes, rest) := match rest with
    | '/' :: '/' :: rest => (true, rest)
    | rest => (false, rest)
  let hasHost := slashes || (!scheme.isEmpty && !slashedSchemes.contains (.ofList scheme))
  let (user, host, port, rest) :=
    if hasHost then
      let (user, rest) := splitUser rest
      let (host, port, rest) := splitHost rest
      (user, host, port, rest)
    else ([], [], [], rest)
  let fragment := rest.dropWhile (· != '#')
  let rest := rest.takeWhile (· != '#')
  let query := rest.dropWhile (· != '?')
  let path := rest.takeWhile (· != '?')
  ⟨scheme, slashes, user, host, port, path, query, fragment⟩

/-- Puts the parts together, each in the form that `code` gives it. The square brackets around an
address are no part of any. -/
def format (code : List Char → List Char) (url : Url) : List Char :=
  code url.scheme ++ (if url.slashes then ['/', '/'] else []) ++
    (if url.user.isEmpty then [] else code url.user ++ ['@']) ++
    (if url.host.contains ':' then '[' :: code url.host ++ [']'] else code url.host) ++
    (if url.port.isEmpty then [] else ':' :: url.port) ++
    code url.path ++ code url.query ++ code url.fragment

/-- The dots that separate the labels of a host in any script. -/
def isLabelDot (c : Char) : Bool :=
  c == '.' || c.toNat == 0x3002 || c.toNat == 0xff0e || c.toNat == 0xff61

/-- Changes every label of a host, or leaves the host as it is when one label cannot be changed. -/
def mapLabels (change : List Char → Option (List Char)) (url : Url) : Url :=
  if url.host.isEmpty || !(["", "http:", "https:", "mailto:"].contains (.ofList url.scheme)) then url
  else match (Text.splitBy isLabelDot url.host).mapM change with
    | some labels => { url with host := Text.joinWith ['.'] labels }
    | none => url

def asciiLabel (label : List Char) : List Char :=
  if label.any (0x7f ≤ ·.toNat) then "xn--".toList ++ Text.Punycode.encode label else label

/-- A host label in its own script, unless it is coded badly. -/
def readableLabel (label : List Char) : Option (List Char) :=
  match Text.after? "xn--".toList label with
  | some coded => Text.Punycode.decode (Text.lowerFrom [] coded)
  | none => some label

/-- The form of a destination that a document holds. -/
def normalize (text : List Char) : List Char :=
  ((parse text).mapLabels (some ∘ asciiLabel)).format Text.Percent.encode

/-- The form of a destination that is shown. -/
def readable (text : List Char) : List Char :=
  ((parse text).mapLabels readableLabel).format Text.Percent.decode

/-- The schemes that may run a script or read a file. -/
def refusedSchemes : List String := ["vbscript:", "javascript:", "file:", "data:"]

/-- The data that is harmless: pictures. -/
def harmlessData : List String :=
  ["data:image/gif;", "data:image/png;", "data:image/jpeg;", "data:image/webp;"]

/-- A normalized destination that a link or an image may have. -/
def isAllowed (text : List Char) : Bool :=
  let plain := Text.lowerFrom [] (Text.trimBy Text.isBlank text)
  let starts (head : String) : Bool := head.toList.isPrefixOf plain
  !refusedSchemes.any starts || harmlessData.any starts

end Url
end DocScribe.Markdown
