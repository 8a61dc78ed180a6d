import DocScribe.Program
import DocScribe.Rehearsal.FileTree
import DocScribe.Text.Utf8

/-! Surroundings in which a program can be rehearsed: its files are in memory, the services answer as a
script says, and everything that is asked of them is kept. -/

namespace DocScribe.Rehearsal
open DocScribe Service

/-- How a service answers. -/
inductive Response where
  | reply (value : Json)
  | fail (fault : Fault)

/-- What was asked of a service, by the name of the method and its arguments. -/
structure Event where
  method : String
  arguments : List (String × Json)

/-- The answers of each method that are still to come; a missing one stands for the usual answer. -/
abbrev Script := List (String × List (Option Response))

/-- The surroundings of a program. -/
structure World where
  files : FileTree := {}
  folder : Location := []
  environment : Environment := []
  now : Credential.Moment := ⟨2025, 1, 1, 0, 0, 0, 0⟩
  /-- The settings, once they were read. -/
  settings : Option Settings := none
  /-- The file that holds the token, once it was asked for. -/
  tokenFile : Option String := none
  script : Script := []
  /-- How many files were asked to be made. -/
  created : Nat := 0
  /-- What was asked, the last event first. -/
  events : List Event := []

namespace World

/-- Takes the next answer of a method from a script. -/
def takeResponse (method : String) : Script → Option Response × Script
  | [] => (none, [])
  | (name, responses) :: rest =>
    if name == method then
      match responses with
      | [] => (none, (name, []) :: rest)
      | first :: later => (first, (name, later) :: rest)
    else
      let (response, rest) := takeResponse method rest
      (response, (name, responses) :: rest)

/-- Keeps what is asked, and answers it: as the script says, or else in the usual way. -/
def respond (world : World) (method : String) (arguments : List (String × Json)) (usual : Json) :
    Outcome Json × World :=
  let (response, script) := takeResponse method world.script
  let answer := match response with
    | none => .ok usual
    | some (.reply value) => .ok value
    | some (.fail fault) => .error fault
  (answer, { world with script, events := ⟨method, arguments⟩ :: world.events })

/-- A document that holds nothing but its last line end. -/
def emptyDocument : Json :=
  let run : Json := .obj [("startIndex", .int 1), ("endIndex", .int 2),
    ("textRun", .obj [("content", .str "\n")])]
  .obj [("documentId", .str "doc123"), ("title", .str "Test Doc"),
    ("body", .obj [("content", .arr [
      .obj [("endIndex", .int 1), ("sectionBreak", .obj [])],
      .obj [("startIndex", .int 1), ("endIndex", .int 2),
        ("paragraph", .obj [("elements", .arr [run])])]])])]

/-- The usual answer to a call, when `created` files were asked to be made. -/
def usualAnswer (created : Nat) : Call → Json
  | .getDocument .. => emptyDocument
  | .editDocument .. => .obj [("replies", .arr [])]
  | .createFile .. => .obj [("id", .str s!"file{created}")]
  | .shareFile _ => .obj [("id", .str "perm1")]
  | _ => .obj []

def answerCall (world : World) (call : Call) : Outcome Json × World :=
  let created := match call with
    | .createFile .. => world.created + 1
    | _ => world.created
  { world with created }.respond call.method call.arguments (usualAnswer created call)

/-- The settings: those that were read before, or else those of the environment. -/
def getSettings (world : World) : Outcome Settings × World :=
  match world.settings with
  | some settings => (.ok settings, world)
  | none => match Settings.ofEnvironment world.environment with
    | .ok settings => (.ok settings, { world with settings := some settings })
    | .error fault => (.error fault, world)

/-- Reads the settings of the environment again. -/
def reloadSettings (world : World) : Outcome Settings × World :=
  match Settings.ofEnvironment world.environment with
  | .ok settings => (.ok settings, { world with settings := some settings })
  | .error fault => (.error fault, world)

/-- The file that holds the token: the one that was asked for before, or else that of the settings. -/
def getTokenFile (world : World) : Outcome String × World :=
  match world.tokenFile with
  | some path => (.ok path, world)
  | none => match world.getSettings with
    | (.ok settings, world) =>
      (.ok settings.credentialsFile, { world with tokenFile := some settings.credentialsFile })
    | (.error fault, world) => (.error fault, world)

def chunkOf (value : Json) : Chunk :=
  ⟨Text.encodeUtf8 (((value.find? "data").bind Json.text?).getD ""),
    ((value.find? "done").getD (.bool true)).truthy⟩

def renewalOf (value : Json) : Renewal :=
  ⟨(value.find? "token").getD .null,
    (((value.find? "expiry").bind Json.text?).bind Credential.Moment.ofText?).map Prod.fst⟩

/-- The number of answers of a method that are still to come. -/
def remaining (world : World) (method : String) : Nat := ((world.script.lookup method).getD []).length

/-- Changes the files, unless that fails. -/
def changeFiles (world : World) (changed : Outcome FileTree) : Outcome Unit × World :=
  match changed with
  | .ok files => (.ok (), { world with files })
  | .error fault => (.error fault, world)

def folderPath (world : World) : String := "/" ++ "/".intercalate world.folder

def answer (world : World) : (question : Request) → question.Reply × World
  | .call call => world.answerCall call
  | .authorize service scopes =>
    let (reply, world) :=
      world.respond "auth" [("service_type", .str service), ("scopes", .str scopes)] .null
    (reply.map fun _ => (), world)
  | .openDownload .. => (world.remaining "next_chunk" + 1, world)
  | .nextChunk fileId mimeType =>
    let (reply, world) :=
      world.respond "next_chunk" [("fileId", fileId), ("mimeType", .str mimeType)] (.obj [])
    (reply.map chunkOf, world)
  | .attempt => world.respond "attempt" [] (.obj [])
  | .pause seconds => ((), (world.respond "sleep" [("seconds", .int seconds)] .null).2)
  | .connect name version token =>
    let (reply, world) := world.respond "build"
      [("name", .str name), ("version", .str version), ("token", token)] .null
    (reply.map fun _ => (), world)
  | .renew token =>
    let (reply, world) := world.respond "refresh" [("refresh_token", token)] (.obj [])
    (reply.map renewalOf, world)
  | .settings => world.getSettings
  | .tokenFile => world.getTokenFile
  | .now => (world.now, world)
  | .place => (⟨Settings.home world.environment, world.folderPath⟩, world)
  | .isFile path => (world.files.isFile world.folder path, world)
  | .isFolder path => (world.files.hasFolder world.folder path, world)
  | .isThere path => (world.files.isThere world.folder path, world)
  | .readFile path => (world.files.read world.folder path, world)
  | .writeFile path octets => world.changeFiles (world.files.write world.folder path octets)
  | .makeFolder path => world.changeFiles (world.files.makeFolder world.folder path)

def run (program : Program α) (world : World) : α × World :=
  match program with
  | .pure value => (value, world)
  | .request question next =>
    let (reply, world) := world.answer question
    run (next reply) world

end World
end DocScribe.Rehearsal
