import DocScribe.Files.Access
import DocScribe.Text.Integer
import DocScribe.Json.Access
import DocScribe.Tools.Guard
import DocScribe.Tools.Write
import DocScribe.Validation

/-! The tools that take a document elsewhere: into a local file, and into a copy. -/

namespace DocScribe.Tools
open DocScribe Service Files

structure ExportFormat where
  name : String
  mimeType : String
  extension : String

def exportFormats : List ExportFormat :=
  [⟨"pdf", "application/pdf", ".pdf"⟩,
    ⟨"docx", "application/vnd.openxmlformats-officedocument.wordprocessingml.document", ".docx"⟩,
    ⟨"txt", "text/plain", ".txt"⟩]

/-- The metadata of a file that has to be a document. -/
def documentMetadata (documentId : String) : Action Json := do
  let metadata ← Action.call (.getFile (.str documentId))
  let mimeType ← metadata.memberOr "mimeType" (.str "")
  if mimeType.text? != some documentMimeType then
    let name ← metadata.memberOr "name" (.str documentId)
    throw (.validation <| s!"File '{name.display}' is not a Google Doc " ++
      s!"(MIME type: {mimeType.display})")
  return metadata

/-- The characters that file names avoid. -/
def isUnsafe (c : Char) : Bool := "\\/:*?\"<>|".toList.contains c

/-- One underscore for every run of characters that file names avoid. -/
def safeChars : (inRun : Bool) → List Char → List Char
  | _, [] => []
  | inRun, c :: rest =>
    if isUnsafe c then (if inRun then safeChars true rest else '_' :: safeChars true rest)
    else c :: safeChars false rest

/-- The file in the working folder that has the name of a document. -/
def defaultPath (folder name extension : String) : Path :=
  let trimmed := Text.trim (.ofList (safeChars false name.toList))
  let base := if trimmed == "" then "document" else trimmed
  (Path.ofText (base ++ extension)).within (Path.ofText folder)

/-- The parts of a download from here on. One of more than `left` parts counts as one without an end. -/
def chunksFrom (fileId : Identifier) (mimeType : String) : (left : Nat) → Action (List UInt8)
  | 0 => throw (.runtime "The download does not end")
  | left + 1 => do
    let chunk ← ExceptT.mk (Program.ask (.nextChunk fileId mimeType))
    if chunk.done then return chunk.octets
    return chunk.octets ++ (← chunksFrom fileId mimeType left)

def download (fileId : Identifier) (mimeType : String) : Action (List UInt8) := do
  chunksFrom fileId mimeType (← Action.get (.openDownload fileId mimeType))

/-- Where a document goes, and in which form. -/
structure Export where
  format : Option String := some "pdf"
  path : Option String := none

def exportPath (path : Option String) (name : Json) (extension : String) : Action Path := do
  match path.filter (· != "") with
  | some path => userPath path
  | none =>
    let place ← Action.get .place
    match name with
    | .str name => return defaultPath place.folder name extension
    | other => throw (.wrongKind s!"expected string or bytes-like object, got '{other.kind}'")

/-- Exports a document to a local file, in one try. -/
def Export.save (target : Export) (documentId : String) : Action String := do
  authorize "drive" "drive_read"
  let id ← Validation.documentId documentId
  let format ← Validation.choice target.format (exportFormats.map ExportFormat.name) "export_format" "pdf"
  let found := (exportFormats.find? fun known => known.name == format).getD ⟨format, "", ""⟩
  let metadata ← documentMetadata id
  let name ← metadata.memberOr "name" (.str "document")
  let octets ← download (.str id) found.mimeType
  let path ← exportPath target.path name found.extension
  makeFolders path.parent
  write path.toText octets
  return s!"Exported '{name.display}' as {format} to {path.toText} ({Text.grouped octets.length} bytes)"

def exportDocument (documentId : String) (target : Export) : Action String :=
  Guard.run { tool := "export_doc", isReadOnly := true, documentId := .str documentId }
    (target.save documentId)

/-- Copies a document, in one try. -/
def makeCopy (documentId : String) (title folder : Option String) : Action String := do
  authorize "drive" "drive_file"
  let id ← Validation.documentId documentId
  let title ← Validation.nonEmpty title "title"
  let _ ← documentMetadata id
  let metadata : FileMetadata := { name := title, folder := folderOf folder }
  let copied ← Action.call (.copyFile (.str id) metadata)
  let link ← copied.memberOr "webViewLink" (.str "#")
  let name ← copied.memberOr "name" (.str title)
  let copyId ← copied.member "id"
  return s!"Copied Google Doc to '{name.display}' (ID: {copyId.display}). Link: {link.display}"

def copyDocument (documentId : String) (title folder : Option String) : Action String :=
  Guard.run { tool := "copy_doc", documentId := .str documentId } (makeCopy documentId title folder)

end DocScribe.Tools
