import DocScribe.Program
import DocScribe.Text.LineEnd
import DocScribe.Text.Utf8

/-! Reading and writing files from a program. -/

namespace DocScribe.Files
open DocScribe

def isFile (path : String) : Action Bool := ExceptT.mk (Program.ask (.isFile path))

def readOctets (path : String) : Action (List UInt8) := ExceptT.mk (Program.ask (.readFile path))

def readText (path : String) : Action String := do
  match Text.decodeUtf8 (← readOctets path) with
  | .ok text => return .ofList (Text.unifyLineEnds text.toList)
  | .error fault => throw (.undecodable fault)

/-- Writes a file anew. -/
def write (path : String) (octets : List UInt8) : Action Unit :=
  ExceptT.mk (Program.ask (.writeFile path octets))

/-- Makes a folder, unless it is already there. -/
def makeFolder (path : Path) : Program (Outcome Unit) := do
  match ← Program.ask (.makeFolder path.toText) with
  | .ok () => return .ok ()
  | .error (.noSuchFile missing) => return .error (.noSuchFile missing)
  | .error fault => return if ← Program.ask (.isFolder path.toText) then .ok () else .error fault

/-- Makes a folder and those that it is in. The parts of the path are given with the last one first. -/
def makeFoldersFrom (root : Root) : (inward : List String) → Program (Outcome Unit)
  | [] => makeFolder ⟨root, []⟩
  | part :: outer => do
    let path : Path := ⟨root, (part :: outer).reverse⟩
    match ← makeFolder path with
    -- the folder around it is missing, so that one is made first
    | .error (.noSuchFile _) =>
      match ← makeFoldersFrom root outer with
      | .ok () => makeFolder path
      | .error fault => return .error fault
    | made => return made

def makeFolders (path : Path) : Action Unit :=
  ExceptT.mk (makeFoldersFrom path.root path.parts.reverse)

/-- A path as the user wrote it, with the home folder in the place of a tilde. -/
def userPath (text : String) : Action Path := do
  let place ← Action.get .place
  match (Path.ofText text).expandHome? place.home with
  | some path => return path
  | none => throw (.runtime "Could not determine home directory.")

end DocScribe.Files
