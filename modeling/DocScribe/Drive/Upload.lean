import DocScribe.Files.Access
import DocScribe.Files.MimeType
import DocScribe.Json.Access

/-! Pictures that are put on the drive for a while, so that the service which keeps documents can
fetch them. -/

namespace DocScribe.Drive
open DocScribe Service Files

/-- The picture file that a reference names. -/
def locateImage (reference : String) (markdownPath : Option String) : Action Path := do
  let trimmed := Text.trim reference
  let bare := match Text.after? "file://".toList trimmed.toList with
    | some rest => String.ofList rest
    | none => trimmed
  let place ← Action.get .place
  let path := Path.ofText (expandHome place.home bare)
  let folder := Path.ofText place.folder
  -- a relative path starts at the folder of the Markdown file, or else at the working folder
  let path ←
    if path.isAbsolute then pure path
    else match markdownPath.filter (· != "") with
      | some document =>
        if document.toList.contains (Char.ofNat 0) then throw (.badValue "embedded null byte")
        else pure (path.within ((Path.ofText document).resolve folder).parent)
      | none => pure (path.within folder)
  if ← isFile path.toText then return path
  throw (.localFileNotFound path.toText s!"Image file not found: {path.toText}")

/-- Uploads a picture under a name that shows that it may be deleted. -/
def upload (path : Path) (folder : Option String) : Action Identifier := do
  let mimeType ← MimeType.ofImage path
  let octets ← readOctets path.toText
  let metadata : FileMetadata :=
    { name := "tmp-" ++ path.name, folder := folder.filter (· != "") }
  let created ← Action.call (.createFile metadata (some ⟨mimeType, octets⟩))
  created.required "id"

/-- Lets anyone who has the link read a file, and yields the link. -/
def share (fileId : Identifier) : Action String := do
  let _ ← Action.call (.shareFile fileId)
  return "https://drive.google.com/uc?id=" ++ fileId.display

/-- Deletes files one after the other, and tells the number of those that were deleted. -/
def deleteAll : List Identifier → Program Nat
  | [] => pure 0
  | fileId :: rest => do
    -- a file that cannot be deleted does not keep the others
    let reply ← Program.ask (.call (.deleteFile fileId))
    let deleted ← deleteAll rest
    return deleted + (if reply.isOk then 1 else 0)

end DocScribe.Drive
