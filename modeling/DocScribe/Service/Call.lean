import DocScribe.Docs.Edit
import DocScribe.Text.Base64

/-! The calls of the services that keep documents and files. -/

namespace DocScribe.Service
open DocScribe Docs

/-- An identifier, as a service or a user gave it. -/
abbrev Identifier := Json

/-- How much of a document is asked for. -/
inductive DocumentView where
  | body
  | properties
  | tabs
  deriving DecidableEq

/-- A file's content that goes with its creation. -/
structure Upload where
  mimeType : String
  octets : List UInt8

/-- What a file is to be called, and where it goes. -/
structure FileMetadata where
  name : String
  mimeType : Option String := none
  folder : Option String := none

inductive Call where
  | getDocument (documentId : Identifier) (view : DocumentView)
  | editDocument (documentId : Identifier) (edits : List Edit)
  | createFile (metadata : FileMetadata) (upload : Option Upload)
  | getFile (fileId : Identifier)
  | copyFile (fileId : Identifier) (metadata : FileMetadata)
  | deleteFile (fileId : Identifier)
  /-- Lets anyone who has the link read the file. -/
  | shareFile (fileId : Identifier)

def documentMimeType : String := "application/vnd.google-apps.document"

/-- How many octets of a file are sent at a time. -/
def uploadChunk : Int := 5 * 1024 * 1024

def FileMetadata.toJson (metadata : FileMetadata) : Json :=
  .obj ([("name", .str metadata.name)] ++
    (metadata.mimeType.map fun kind => ("mimeType", Json.str kind)).toList ++
    (metadata.folder.map fun folder => ("parents", Json.arr [.str folder])).toList)

/-- What is told about a content that is sent in parts. -/
def Upload.toJson (upload : Upload) : Json :=
  .obj [("mimetype", .str upload.mimeType), ("size", .int upload.octets.length),
    ("resumable", .bool true), ("chunksize", .int uploadChunk),
    ("b64", .str (Text.Base64.encode upload.octets))]

namespace Call

def method : Call → String
  | .getDocument .. => "documents.get"
  | .editDocument .. => "documents.batchUpdate"
  | .createFile .. => "files.create"
  | .getFile .. => "files.get"
  | .copyFile .. => "files.copy"
  | .deleteFile .. => "files.delete"
  | .shareFile .. => "permissions.create"

/-- Files on shared drives are meant too. -/
def everyDrive : String × Json := ("supportsAllDrives", .bool true)

def arguments : Call → List (String × Json)
  | .getDocument id view => ("documentId", id) :: match view with
    | .body => []
    | .properties => [("fields", .str "documentId,title,revisionId")]
    | .tabs => [("includeTabsContent", .bool true)]
  | .editDocument id edits =>
    [("documentId", id), ("body", .obj [("requests", .arr (edits.map Edit.toJson))])]
  | .createFile metadata none =>
    [("body", metadata.toJson), ("fields", .str "id, name, mimeType, webViewLink"), everyDrive]
  | .createFile metadata (some upload) =>
    [("body", metadata.toJson), ("media_body", upload.toJson), ("fields", .str "id"), everyDrive]
  | .getFile id =>
    [("fileId", id), ("fields", .str "id, name, mimeType, webViewLink"), everyDrive]
  | .copyFile id metadata =>
    [("fileId", id), ("body", metadata.toJson), ("fields", .str "id, name, webViewLink"), everyDrive]
  | .deleteFile id => [("fileId", id), everyDrive]
  | .shareFile id =>
    [("fileId", id), ("body", .obj [("type", .str "anyone"), ("role", .str "reader")]), everyDrive]

end Call
end DocScribe.Service
