import DocScribe.Docs.MarkdownWrite
import DocScribe.Tools.Guard
import DocScribe.Validation

/-! The tools that write: a new document, and new or further content for one that is there. -/

namespace DocScribe.Tools
open DocScribe Docs Service

/-- The end of a document that was just made: one break and one line end. -/
def emptyDocumentEnd : Int := 2

/-- The content of a file that the user names. -/
def fileContent (file : String) : Action String := do
  let path ← Files.userPath file
  if !(← Files.isFile path.toText) then throw (.localFileNotFound path.toText "")
  Files.readText path.toText

/-- The content to write: given as text or in a file, but not both. -/
def contentOf (content file : Option String) : Action String := do
  let content := content.getD ""
  let file := file.getD ""
  if content != "" && file != "" then
    throw (.validation "content and content_file are mutually exclusive")
  if file != "" then fileContent file else return content

/-- The folder that a user names, unless it is blank. -/
def folderOf (folder : Option String) : Option String :=
  (folder.map Text.trim).filter (· != "")

/-- A document that is to be made. -/
structure NewDocument where
  title : Option String
  folder : Option String := none
  content : Option String := some ""
  markdownFile : Option String := none
  asMarkdown : Bool := true

/-- Makes a document and fills it, in one try. -/
def NewDocument.make (document : NewDocument) : Action String := do
  authorize "drive" "drive_file"
  authorize "docs" "docs_write"
  let title ← Validation.nonEmpty document.title "title"
  let body ← contentOf document.content document.markdownFile
  let metadata : FileMetadata :=
    { name := title, mimeType := some documentMimeType, folder := folderOf document.folder }
  let created ← Action.call (.createFile metadata none)
  let id ← created.required "id"
  let given ← created.member "webViewLink"
  let link := if given.truthy then given.display else webLink id.display
  let detail ←
    if body == "" then pure ""
    else if document.asMarkdown then do
      let settings ← Action.settings
      let target : WriteTarget :=
        { documentId := id, endIndex := some emptyDocumentEnd
          markdownPath := document.markdownFile, imageFolder := settings.imageFolder }
      let report ← target.write body
      pure s!" with {report.summary}"
    else do
      let _ ← Action.call (.editDocument id [.insertText 1 body])
      pure s!" with {body.length} characters of plain text"
  return s!"Created Google Doc '{title}' (ID: {id.display}){detail}. Link: {link}"

def createDocument (document : NewDocument) : Action String :=
  Guard.run { tool := "create_doc" } document.make

/-- Content that is to be written. -/
structure Update where
  content : Option String := none
  file : Option String := none
  format : Option String := some "plain"
  append : Bool := false

/-- The ways in which content can be given. -/
def contentFormats : List String := ["plain", "markdown"]

/-- Where new content goes in a document that ends at `stop`: its position, the edits that come
before it, and where the document ends when it is inserted. Content that replaces goes to the start,
after everything but the last line end is deleted. -/
def placement (append : Bool) (stop : Int) : Int × List Edit × Int :=
  if append then (max (stop - 1) 1, [], stop)
  else
    (1, if emptyDocumentEnd < stop then [.deleteRange 1 (stop - 1)] else [], min stop emptyDocumentEnd)

/-- The end of a document as a number. -/
def endNumber (append : Bool) (stop : Json) : Outcome Int :=
  match stop with
  | .int stop => pure stop
  | .bool stop => pure (if stop then 1 else 0)
  | other =>
    if append then throw (.wrongKind s!"unsupported operand type(s) for -: '{other.kind}' and 'int'")
    else throw (.wrongKind s!"'>' not supported between instances of '{other.kind}' and 'int'")

/-- Replaces the content of a document, or adds to it, in one try. -/
def Update.write (update : Update) (documentId : String) : Action String := do
  authorize "docs" "docs_write"
  authorize "drive" "drive_file"
  let id ← Validation.documentId documentId
  let format ← Validation.choice update.format contentFormats "content_format" "plain"
  let text ← contentOf update.content update.file
  if text == "" then throw (.validation "either content or content_file is required")
  let document ← Action.call (.getDocument (.str id) .body)
  let stop ← endNumber update.append (← documentEnd document)
  let (base, preamble, insertEnd) := placement update.append stop
  let detail ←
    if format == "markdown" then do
      let settings ← Action.settings
      let target : WriteTarget :=
        { documentId := .str id, baseIndex := base, endIndex := some insertEnd, preamble
          markdownPath := update.file, imageFolder := settings.imageFolder }
      let report ← target.write text
      pure report.summary
    else do
      let _ ← Action.call (.editDocument (.str id) (preamble ++ [.insertText base text]))
      pure s!"{text.length} characters of plain text"
  let action := if update.append then "Appended to" else "Updated"
  return s!"{action} document {id}: {detail}. Link: {webLink id}"

def updateDocument (documentId : String) (update : Update) : Action String :=
  Guard.run { tool := "update_doc", documentId := .str documentId } (update.write documentId)

end DocScribe.Tools
