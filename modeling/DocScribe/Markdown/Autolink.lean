import DocScribe.Markdown.Url

/-! Automatic links: an address in angle brackets, either a URL with a scheme or an address of
electronic mail. -/

namespace DocScribe.Markdown.Autolink
open DocScribe

/-- The inside of the angle brackets that open at the start of a text. -/
def inside? : List Char → Option (List Char)
  | '<' :: rest =>
    let body := rest.takeWhile fun c => c != '<' && c != '>'
    if (rest.drop body.length).head? == some '>' then some body else none
  | _ => none

/-- A scheme of two to thirty-two characters, a colon, and no blank, control or angle bracket after
it. -/
def isUrl (text : List Char) : Bool :=
  let isSchemeChar (c : Char) : Bool := c.isAlphanum || c == '+' || c == '.' || c == '-'
  let scheme := text.takeWhile isSchemeChar
  match text.drop scheme.length with
  | ':' :: rest =>
    scheme.head?.any Char.isAlpha && 2 ≤ scheme.length && scheme.length ≤ 32 &&
      rest.all fun c => 0x20 < c.toNat && c != '<' && c != '>'
  | _ => false

/-- A label of a mail host: at most 63 letters, digits and hyphens, with no hyphen at an end. -/
def isMailLabel (label : List Char) : Bool :=
  label.length ≤ 63 && label.all (fun c => c.isAlphanum || c == '-') &&
    label.head?.any Char.isAlphanum && label.getLast?.any Char.isAlphanum

def isMail (text : List Char) : Bool :=
  let isNameChar (c : Char) : Bool :=
    c.isAlphanum || ".!#$%&'*+/=?^_`\x7b|\x7d~-".toList.contains c
  let name := text.takeWhile isNameChar
  match text.drop name.length with
  | '@' :: host => !name.isEmpty && (Text.splitAt '.' host).all isMailLabel
  | _ => false

/-- The destination of the automatic link with this inside, if it is one that is allowed. -/
def target? (body : List Char) : Option (List Char) :=
  let allowed (target : List Char) : Option (List Char) :=
    if Url.isAllowed target then some target else none
  if isUrl body then allowed (Url.normalize body)
  else if isMail body then allowed (Url.normalize ("mailto:".toList ++ body))
  else none

end DocScribe.Markdown.Autolink
