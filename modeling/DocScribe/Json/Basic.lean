import DocScribe.Json.Decimal

/-! JSON values. Whole numbers are unbounded and kept apart from fractional ones, and an object
keeps its members in the order in which they came. -/

namespace DocScribe

inductive Json where
  | null
  | bool (value : Bool)
  | int (value : Int)
  | decimal (value : Decimal)
  | str (text : String)
  | arr (items : List Json)
  | obj (members : List (String × Json))
  deriving Inhabited

namespace Json

/-- The members with `key` set: a key that is there keeps its place, a new one comes last. -/
def setMember (key : String) (value : Json) : List (String × Json) → List (String × Json)
  | [] => [(key, value)]
  | (name, old) :: rest =>
    if name == key then (key, value) :: rest else (name, old) :: setMember key value rest

def find? (key : String) : Json → Option Json
  | .obj members => members.lookup key
  | _ => none

/-- Null, false, zero and everything empty count as absent. -/
def truthy : Json → Bool
  | .null => false
  | .bool value => value
  | .int value => value != 0
  | .decimal value => !value.isZero
  | .str text => text != ""
  | .arr items => !items.isEmpty
  | .obj members => !members.isEmpty

def isNull : Json → Bool
  | .null => true
  | _ => false

def text? : Json → Option String
  | .str text => some text
  | _ => none

def int? : Json → Option Int
  | .int value => some value
  | _ => none

end Json
end DocScribe
