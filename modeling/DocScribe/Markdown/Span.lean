/-! Runs of text with one inline style. -/

namespace DocScribe.Markdown

structure Style where
  bold : Bool := false
  italic : Bool := false
  strikethrough : Bool := false
  code : Bool := false
  link : Option String := none
  deriving DecidableEq, Inhabited

def Style.plain : Style := {}

/-- Differs from plain text. A link counts, even one without a target. -/
def Style.isStyled (style : Style) : Bool := style != .plain

theorem Style.isStyled_iff {style : Style} : style.isStyled = true ↔ style ≠ .plain := bne_iff_ne

/-- A run of text with one style. -/
structure Span where
  text : String
  style : Style := .plain
  deriving DecidableEq, Inhabited

def spansText (spans : List Span) : String := String.join (spans.map Span.text)

theorem toList_spansText (spans : List Span) :
    (spansText spans).toList = spans.flatMap fun span => span.text.toList := by
  induction spans with
  | nil => rfl
  | cons span spans ih => simpa [spansText] using ih

end DocScribe.Markdown
