import DocScribe.Docs.Content
import DocScribe.Text.Utf8

/-! The plain text of a body, up to a number of octets. Cells are separated by tabs and rows by line
ends. -/

namespace DocScribe.Docs
open DocScribe

/-- A part of the text in document order. -/
inductive Fragment where
  | text (chars : List Char)
  /-- A value of a kind that is no text, a fault only where the texts are joined or cut. -/
  | unreadable (kind : String)
  /-- A fault that stops who gets there. -/
  | fault (fault : Fault)

namespace Run

def fragments : Run → List Fragment
  | .text written _ => [.text written.toList]
  | .unreadable kind _ => [.unreadable kind]
  | .silent => []
  | .fault cause => [.fault cause]

end Run

namespace Node

mutual

def fragments : Node → List Fragment
  | .paragraph runs => runs.flatMap Run.fragments
  | .table rows => rowFragments true rows
  | .contents nodes => listFragments nodes
  | .other => []
  | .absent _ => []
  | .unlisted cause => [.fault cause]
  | .fault cause => [.fault cause]

def listFragments : List Node → List Fragment
  | [] => []
  | node :: nodes => fragments node ++ listFragments nodes

/-- The text of rows, with a line end before each but the first. -/
def rowFragments (first : Bool) : List (List (List Node)) → List Fragment
  | [] => []
  | row :: rows =>
    (if first then [] else [.text ['\n']]) ++ cellFragments true row ++ rowFragments false rows

/-- The text of cells, with a tab before each but the first. -/
def cellFragments (first : Bool) : List (List Node) → List Fragment
  | [] => []
  | cell :: cells =>
    (if first then [] else [.text ['\t']]) ++ listFragments cell ++ cellFragments false cells

end

end Node

namespace Fragment

/-- The fault that stops who collects fragments. -/
def collect : Fragment → Outcome Unit
  | .fault cause => throw cause
  | _ => pure ()

/-- The text of fragments, of which the first has the number `position`. -/
def concat (position : Nat) : List Fragment → Outcome (List Char)
  | [] => pure []
  | .text chars :: rest => return chars ++ (← concat (position + 1) rest)
  | .unreadable kind :: _ =>
    throw (.wrongKind s!"sequence item {position}: expected str instance, {kind} found")
  | .fault cause :: _ => throw cause

/-- The text of fragments. They are collected before the first of them is read. -/
def joined (fragments : List Fragment) : Outcome (List Char) := do
  fragments.forM collect
  concat 0 fragments

/-- The text of fragments up to a number of octets, in whole characters. Reading ends with the first
fragment that does not fit, or that comes when no octet is left. -/
def taken (budget : Nat) : List Fragment → Outcome (List Char)
  | [] => pure []
  | .text chars :: rest => do
    if budget == 0 then return []
    let size := Text.octetCount chars
    if budget < size then return Text.takeOctets budget chars
    else return chars ++ (← taken (budget - size) rest)
  -- what is no text does not matter once no octet is left
  | .unreadable kind :: _ => if budget == 0 then pure [] else throw (.noMember kind "encode")
  | .fault cause :: _ => throw cause

end Fragment

/-- The text of elements. A budget that is not positive is no limit. -/
def nodesText (nodes : List Node) (maxOctets : Int) : Outcome String :=
  let fragments := Node.listFragments nodes
  (if maxOctets ≤ 0 then Fragment.joined fragments else Fragment.taken maxOctets.toNat fragments).map .ofList

/-- The text of a body's content. -/
def contentText (content : Json) (maxOctets : Int) : Outcome String :=
  nodesText (Node.contentOfJson content) maxOctets

/-- The text of a document's body. -/
def documentText (document : Json) (maxOctets : Int) : Outcome String := do
  if !document.truthy then return ""
  let body ← document.memberOr "body" (.obj [])
  contentText (← body.memberOr "content" (.arr [])) maxOctets

/-- The position behind the last element of a document's body, which is 1 for an empty body. -/
def documentEnd (document : Json) : Outcome Json := do
  let body ← document.memberOr "body" (.obj [])
  let content ← body.memberOr "content" (.arr [])
  if !content.truthy then return .int 1
  match content with
  | .arr items => (items.getLastD .null).memberOr "endIndex" (.int 1)
  | .obj _ => throw (.missingKey (.int (-1)))
  | .str _ => throw (.noMember "str" "get")
  | other => throw (.wrongKind s!"'{other.kind}' object is not subscriptable")

end DocScribe.Docs
