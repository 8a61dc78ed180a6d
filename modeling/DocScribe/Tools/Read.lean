import DocScribe.Docs.Tab
import DocScribe.Json.Printer
import DocScribe.Tools.Guard
import DocScribe.Validation

/-! The tools that read a document: what it is, its text, and its tabs. -/

namespace DocScribe.Tools
open DocScribe Docs Service

/-- The answer of a tool about a document: as JSON, or as text. -/
def present (asJson : Bool) (json : Outcome Json) (text : Outcome String) : Outcome String :=
  if asJson then json.map Json.pretty else text

namespace Info

/-- What is told about a document, under the names of JSON and of the lines of a text. -/
structure Properties where
  id : Json
  name : Json
  revision : Option Json

/-- The properties of a document. One without an identifier has the one that was asked for. -/
def properties (document : Json) (documentId : String) : Outcome Properties := do
  let id ← document.memberOr "documentId" (.str documentId)
  let name ← document.memberOr "title" (.str "")
  let revision ← document.member "revisionId"
  return ⟨id, name, if revision.truthy then some revision else none⟩

def Properties.toJson (properties : Properties) : Json :=
  .obj ([("id", properties.id), ("name", properties.name), ("mimeType", .str documentMimeType),
    ("webViewLink", .str (webLink properties.id.display))] ++
    (properties.revision.map fun revision => ("revision", revision)).toList)

def Properties.toText (properties : Properties) : String :=
  "\n".intercalate (["id\t" ++ properties.id.display, "name\t" ++ properties.name.display,
    "mime\t" ++ documentMimeType, "link\t" ++ webLink properties.id.display] ++
    (properties.revision.map fun revision => "revision\t" ++ revision.display).toList)

end Info

/-- Tells what a document is, in one try. -/
def Info.read (documentId : String) (asJson : Bool) : Action String := do
  authorize "docs" "docs_read"
  let id ← Validation.documentId documentId
  let document ← Action.call (.getDocument (.str id) .properties)
  let properties ← Info.properties document id
  present asJson (pure (.obj [("file", properties.toJson), ("document", document)]))
    (pure properties.toText)

def documentInfo (documentId : String) (asJson : Bool) : Action String :=
  Guard.run { tool := "get_doc_info", isReadOnly := true, documentId := .str documentId }
    (Info.read documentId asJson)

namespace Content

def answer (asJson : Bool) (text : String) : String :=
  if asJson then Json.pretty (.obj [("text", .str text)]) else text

/-- The text of a document without its tabs. -/
def ofBody (document : Json) (maxOctets : Int) (asJson : Bool) : Outcome String :=
  return answer asJson (← documentText document maxOctets)

def ofTab (tabs : List Json) (query : String) (maxOctets : Int) (asJson : Bool) : Outcome String := do
  match ← Tab.find tabs query with
  | none => throw (.notFound s!"tab not found: {query}")
  | some tab =>
    let text ← Tab.plainText tab maxOctets
    present asJson (return .obj [("tab", ← Tab.withText tab text)]) (pure text)

/-- A tab under a line with its title. -/
def titled (maxOctets : Int) (tab : Json) : Outcome String := do
  let text ← Tab.plainText tab maxOctets
  let closed := if text == "" || text.endsWith "\n" then text else text ++ "\n"
  let title ← Tab.title tab
  return s!"=== Tab: {title.display} ===\n{closed}"

def ofTabs (tabs : List Json) (maxOctets : Int) (asJson : Bool) : Outcome String :=
  let entry (tab : Json) : Outcome Json := do
    Tab.withText tab (← Tab.plainText tab maxOctets)
  present asJson (return .obj [("tabs", .arr (← tabs.mapM entry))])
    (return "\n".intercalate (← tabs.mapM (titled maxOctets)))

end Content

/-- What of a document is to be read. -/
structure ContentQuery where
  maxOctets : Option Int := none
  tab : Option String := none
  allTabs : Bool := false
  asJson : Bool := false

/-- The tab that a query names. A blank name is a name, an empty one is none. -/
def ContentQuery.tab? (query : ContentQuery) : Option String := query.tab.filter (· != "")

/-- Reads the text of a document, in one try. -/
def ContentQuery.read (query : ContentQuery) (documentId : String) : Action String := do
  authorize "docs" "docs_read"
  let id ← Validation.documentId documentId
  let maxOctets ← match query.maxOctets with
    | some limit => pure limit
    | none => Settings.maxOctets <$> Action.settings
  if query.tab?.isNone && !query.allTabs then
    Content.ofBody (← Action.call (.getDocument (.str id) .body)) maxOctets query.asJson
  else
    let document ← Action.call (.getDocument (.str id) .tabs)
    let tabs ← Tab.flatten (← document.member "tabs")
    match query.tab? with
    | some tab => Content.ofTab tabs tab maxOctets query.asJson
    | none => Content.ofTabs tabs maxOctets query.asJson

def documentContent (documentId : String) (query : ContentQuery) : Action String :=
  Guard.run { tool := "get_doc_content", isReadOnly := true, documentId := .str documentId }
    (query.read documentId)

/-- One line for a tab; none for a tab without properties. -/
def tabLine (tab : Json) : Outcome (List String) := do
  match ← tab.member "tabProperties" with
  | .null => return []
  | properties =>
    let id ← properties.memberOr "tabId" (.str "")
    let title ← properties.memberOr "title" (.str "")
    let index ← properties.memberOr "index" (.int 0)
    return ["\t".intercalate [id.display, title.display, index.display]]

/-- Lists tabs under a head line. -/
def tabTable (tabs : List Json) : Outcome String := do
  return "\n".intercalate ("ID\tTITLE\tINDEX" :: (← tabs.mapM tabLine).flatten)

/-- Lists the tabs of a document, each before the tabs that it holds, in one try. -/
def readTabs (documentId : String) (asJson : Bool) : Action String := do
  authorize "docs" "docs_read"
  let id ← Validation.documentId documentId
  let document ← Action.call (.getDocument (.str id) .tabs)
  let tabs ← Tab.flatten (← document.member "tabs")
  present asJson (return .obj [("tabs", .arr (← tabs.mapM Tab.info))]) (tabTable tabs)

/-- Lists the tabs of a document, each before the tabs that it holds. -/
def documentTabs (documentId : String) (asJson : Bool) : Action String :=
  Guard.run { tool := "list_doc_tabs", isReadOnly := true, documentId := .str documentId }
    (readTabs documentId asJson)

end DocScribe.Tools
