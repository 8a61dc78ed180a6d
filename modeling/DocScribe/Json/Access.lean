import DocScribe.Fault

/-! Looking into a value whose shape is not known, with the fault that each wrong kind gives. -/

namespace DocScribe.Json

/-- The kind of a value, as messages name it. -/
def kind : Json → String
  | .null => "NoneType"
  | .bool _ => "bool"
  | .int _ => "int"
  | .decimal _ => "float"
  | .str _ => "str"
  | .arr _ => "list"
  | .obj _ => "dict"

/-- A member of what must be an object, if it has one of that name. -/
def member? (key : String) : Json → Outcome (Option Json)
  | .obj members => pure (members.lookup key)
  | value => throw (.noMember value.kind "get")

/-- A member of what must be an object, or null. -/
def member (key : String) (value : Json) : Outcome Json :=
  return (← value.member? key).getD .null

/-- A member of what must be an object, or a default. -/
def memberOr (key : String) (value default : Json) : Outcome Json :=
  return (← value.member? key).getD default

def required (key : String) (value : Json) : Outcome Json :=
  match value with
  | .obj members => match members.lookup key with
    | some found => pure found
    | none => throw (.missingKey (.str key))
  | .str _ => throw (.wrongKind "string indices must be integers, not 'str'")
  | .arr _ => throw (.wrongKind "list indices must be integers or slices, not str")
  | value => throw (.wrongKind s!"'{value.kind}' object is not subscriptable")

/-- The items of a collection: those of an array, the names of an object, the characters of a
string. -/
def items : Json → Outcome (List Json)
  | .arr items => pure items
  | .obj members => pure (members.map fun found => .str found.1)
  | .str text => pure (text.toList.map fun c => .str (String.singleton c))
  | value => throw (.wrongKind s!"'{value.kind}' object is not iterable")

/-- The text of what must be a string, asked for one of its operations. -/
def textFor (operation : String) : Json → Outcome String
  | .str text => pure text
  | value => throw (.noMember value.kind operation)

end DocScribe.Json
