import DocScribe.Docs.PlainText
import DocScribe.Text.Blank
import DocScribe.Text.Case

/-! The tabs of a document, which may hold tabs of their own. -/

namespace DocScribe.Docs
open DocScribe

namespace Tab

/-- The tabs of a tree, each before the tabs that it holds; absent ones are skipped. -/
def flattenItems (items : List Json) : Outcome (List Json) :=
  match items with
  | [] => pure []
  | .null :: rest => flattenItems rest
  | .obj members :: rest => do
    let children ← match found : members.lookup "childTabs" with
      | none => pure []
      | some children =>
        have := Node.sizeOf_lookup found
        match Node.Listing.ofItems children with
        | .items items _ => flattenItems items
        | .texts [] => pure []
        | .texts _ => throw (.noMember "str" "get")
        | .absent _ => pure []
        | .fault fault => throw fault
    return .obj members :: children ++ (← flattenItems rest)
  | other :: _ => throw (.noMember other.kind "get")
termination_by sizeOf items

/-- The tabs of a tree, if there is one. -/
def flatten (tabs : Json) : Outcome (List Json) := do
  if !tabs.truthy then return []
  flattenItems (← tabs.items)

/-- The properties of a tab; an empty object when it has none. -/
def properties (tab : Json) : Outcome Json := tab.memberOr "tabProperties" (.obj [])

def findFirst (accepts : Json → Outcome Bool) : List Json → Outcome (Option Json)
  | [] => pure none
  | tab :: rest => do
    if ← accepts tab then return some tab
    findFirst accepts rest

def hasId (id : String) (tab : Json) : Outcome Bool := do
  return (← (← properties tab).member "tabId").text? == some id

/-- The tab has this title, but for case. -/
def hasTitle (lowered : String) (tab : Json) : Outcome Bool := do
  match ← tab.member "tabProperties" with
  | .null => return false
  | found =>
    let title ← (← found.memberOr "title" (.str "")).textFor "lower"
    return Text.lower title == lowered

/-- The tab that a query names: by its identifier, or else by its title without regard to case. -/
def find (tabs : List Json) (query : String) : Outcome (Option Json) := do
  let query := Text.trim query
  match ← findFirst (hasId query) tabs with
  | some tab => return some tab
  | none => findFirst (hasTitle (Text.lower query)) tabs

def plainText (tab : Json) (maxOctets : Int) : Outcome String := do
  if !tab.truthy then return ""
  let orEmpty (value : Json) : Json := if value.truthy then value else .obj []
  let body ← (orEmpty (← tab.member "documentTab")).member "body"
  contentText (← (orEmpty body).memberOr "content" (.arr [])) maxOctets

def untitled : Json := .str "(untitled)"

def title (tab : Json) : Outcome Json := do
  let found ← (← properties tab).member "title"
  return if found.truthy then found else untitled

/-- What identifies a tab, if it has properties. -/
def identity (tab : Json) : Outcome (List (String × Json)) := do
  match ← tab.member "tabProperties" with
  | .null => return []
  | found =>
    return [("id", ← found.memberOr "tabId" (.str "")), ("title", ← found.memberOr "title" (.str "")),
      ("index", ← found.memberOr "index" (.int 0))]

def withText (tab : Json) (text : String) : Outcome Json := do
  return .obj (("text", .str text) :: (← identity tab))

def isPositive (value : Json) : Outcome Bool :=
  match value with
  | .int n => pure (0 < n)
  | .bool b => pure b
  | .decimal (.finite negative digits _) => pure (!negative && digits != 0)
  | .decimal (.infinite negative) => pure !negative
  | .decimal .undefined => pure false
  | other => throw (.wrongKind s!"'>' not supported between instances of '{other.kind}' and 'int'")

/-- A tab without its text; how it is nested is told only where it is. -/
def info (tab : Json) : Outcome Json := do
  match ← tab.member "tabProperties" with
  | .null => return .obj []
  | found =>
    let level ← found.memberOr "nestingLevel" (.int 0)
    let parent ← found.member "parentTabId"
    let nesting := if ← isPositive level then [("nestingLevel", level)] else []
    return .obj ((← identity tab) ++ nesting ++
      if parent.truthy then [("parentTabId", parent)] else [])

end Tab
end DocScribe.Docs
