import DocScribe.Fault
import DocScribe.Text.Blank
import DocScribe.Text.Case
import DocScribe.Text.WordChar

/-! Checks of the arguments that a user gives. Each yields the argument in its normal form. -/

namespace DocScribe.Validation

/-- Word characters and hyphens make an identifier. -/
def isIdentifierChar (c : Char) : Bool := Text.isWordChar c || c == '-'

/-- A document's identifier, without the blanks around it. -/
def documentId (id : String) (name : String := "document_id") : Outcome String := do
  if id == "" then throw (.validation s!"{name} is required")
  let trimmed := Text.trim id
  if trimmed == "" then throw (.validation s!"{name} cannot be empty")
  if !trimmed.toList.all isIdentifierChar then
    throw (.validation s!"{name} contains invalid characters")
  return trimmed

/-- A text that is not blank, without the blanks around it. -/
def nonEmpty (value : Option String) (name : String) : Outcome String := do
  let trimmed := Text.trim (value.getD "")
  if trimmed == "" then throw (.validation s!"empty {name}")
  return trimmed

/-- One of some choices in lower case; a blank value stands for the default. -/
def choice (value : Option String) (choices : List String) (name default : String) : Outcome String := do
  let lowered := Text.lower (Text.trim (value.getD ""))
  let chosen := if lowered == "" then default else lowered
  if !choices.contains chosen then
    let listed := " or ".intercalate choices
    throw (.validation s!"{name} must be {listed}")
  return chosen

end DocScribe.Validation
