/-! The classes of blank characters, and trimming. Three classes differ in a few characters each:
what trimming a value removes, what trims a Markdown block, and what counts as space beside an
emphasis mark. -/

namespace DocScribe.Text

/-- The blanks of every script that is written horizontally, the controls that separate records,
and the line ends. Zero-width characters are not blank. -/
def isBlank (c : Char) : Bool :=
  let n := c.toNat
  (0x09 ≤ n && n ≤ 0x0d) || (0x1c ≤ n && n ≤ 0x20) || n == 0x85 || n == 0xa0 || n == 0x1680 ||
    (0x2000 ≤ n && n ≤ 0x200a) || n == 0x2028 || n == 0x2029 || n == 0x202f || n == 0x205f ||
    n == 0x3000

/-- The blanks beside which an emphasis mark cannot open or close. -/
def isSpacing (c : Char) : Bool :=
  let n := c.toNat
  (0x09 ≤ n && n ≤ 0x0d) || n == 0x20 || n == 0xa0 || n == 0x1680 ||
    (0x2000 ≤ n && n ≤ 0x200a) || n == 0x202f || n == 0x205f || n == 0x3000

/-- The blanks that are cut from the ends of a Markdown block's text. -/
def isMargin (c : Char) : Bool :=
  isSpacing c || c.toNat == 0x2028 || c.toNat == 0x2029

/-- The two characters that indent a line. -/
def isIndent (c : Char) : Bool := c == ' ' || c == '\t'

def trimEndBy (cut : Char → Bool) (text : List Char) : List Char :=
  (text.reverse.dropWhile cut).reverse

def trimBy (cut : Char → Bool) (text : List Char) : List Char :=
  trimEndBy cut (text.dropWhile cut)

def trim (text : String) : String := .ofList (trimBy isBlank text.toList)

def trimStart (text : String) : String := .ofList (text.toList.dropWhile isBlank)

def trimEnd (text : String) : String := .ofList (trimEndBy isBlank text.toList)

def allBlank (text : String) : Bool := text.toList.all isBlank

end DocScribe.Text
