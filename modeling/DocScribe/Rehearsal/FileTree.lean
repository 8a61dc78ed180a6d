import DocScribe.Fault
import DocScribe.Text.Search
import DocScribe.Text.Utf8

/-! Files and folders held in memory. A place is the names on the way from the root to it. -/

namespace DocScribe.Rehearsal
open DocScribe

/-- The names on the way from the root. -/
abbrev Location := List String

inductive Entry where
  | folder
  | file (octets : List UInt8)
  deriving DecidableEq

/-- The entries by their places. The root is a folder without an entry. -/
structure FileTree where
  entries : List (Location × Entry) := []

/-- Why a path leads nowhere. -/
inductive WalkFault where
  | missing
  | notFolder
  | tooLong
  | unspeakable

def WalkFault.toFault (path : String) : WalkFault → Fault
  | .missing => .noSuchFile path
  | .notFolder => .notADirectory path
  | .tooLong => .nameTooLong path
  | .unspeakable => .badValue "embedded null byte"

namespace FileTree

def at? (tree : FileTree) (location : Location) : Option Entry :=
  if location.isEmpty then some .folder else tree.entries.lookup location

def isFolder (tree : FileTree) (location : Location) : Bool := tree.at? location == some .folder

/-- The most octets that a name may have. -/
def maxName : Nat := 255

/-- Walks along parts of a path. All but the last have to be folders; two dots lead back. -/
def walk (tree : FileTree) : Location → List (List Char) → Except WalkFault Location
  | location, [] => .ok location
  | location, part :: rest =>
    match tree.at? location with
    | none => .error .missing
    | some (.file _) => .error .notFolder
    | some .folder =>
      if part.isEmpty || part == ['.'] then tree.walk location rest
      else if part == ['.', '.'] then tree.walk location.dropLast rest
      else if maxName < Text.octetCount part then .error .tooLong
      else tree.walk (location ++ [.ofList part]) rest

/-- The place that a path names, as seen from a folder. There need not be anything at it. -/
def locate (tree : FileTree) (folder : Location) (path : String) : Except WalkFault Location :=
  let chars := path.toList
  if chars.contains (Char.ofNat 0) then .error .unspeakable
  else if chars.isEmpty then .error .missing
  else if 4096 ≤ Text.octetCount chars then .error .tooLong
  else tree.walk (if chars.head? == some '/' then [] else folder) (Text.splitAt '/' chars)

def put (tree : FileTree) (location : Location) (entry : Entry) : FileTree :=
  ⟨(location, entry) :: tree.entries.filter fun known => known.1 != location⟩

/-- Puts an entry at a place, and folders on the way to it. -/
def plant (tree : FileTree) (location : Location) (entry : Entry) : FileTree :=
  let outer := (List.range location.length).map fun size => location.take size
  let grown := outer.foldl (fun tree place => if tree.isFolder place then tree else tree.put place .folder) tree
  grown.put location entry

def isFile (tree : FileTree) (folder : Location) (path : String) : Outcome Bool :=
  match tree.locate folder path with
  | .ok location => match tree.at? location with
    | some (.file _) => pure true
    | _ => pure false
  -- a name that is too long cannot be asked for
  | .error .tooLong => throw (.nameTooLong path)
  | .error _ => pure false

def isThere (tree : FileTree) (folder : Location) (path : String) : Bool :=
  match tree.locate folder path with
  | .ok location => (tree.at? location).isSome
  | .error _ => false

def hasFolder (tree : FileTree) (folder : Location) (path : String) : Bool :=
  match tree.locate folder path with
  | .ok location => tree.isFolder location
  | .error _ => false

def read (tree : FileTree) (folder : Location) (path : String) : Outcome (List UInt8) :=
  match tree.locate folder path with
  | .error fault => throw (fault.toFault path)
  | .ok location => match tree.at? location with
    | some (.file octets) => pure octets
    | some .folder => throw (.isADirectory path)
    | none => throw (.noSuchFile path)

def hasParent (tree : FileTree) (location : Location) : Bool := tree.isFolder location.dropLast

def write (tree : FileTree) (folder : Location) (path : String) (octets : List UInt8) :
    Outcome FileTree :=
  match tree.locate folder path with
  | .error fault => throw (fault.toFault path)
  | .ok location =>
    if tree.isFolder location then throw (.isADirectory path)
    else pure (tree.put location (.file octets))

def makeFolder (tree : FileTree) (folder : Location) (path : String) : Outcome FileTree :=
  match tree.locate folder path with
  | .error fault => throw (fault.toFault path)
  | .ok location =>
    if (tree.at? location).isSome then throw (.fileExists path)
    else pure (tree.put location .folder)

/-- The files that are not in an older tree, or differ from what they were there. -/
def changedSince (tree old : FileTree) : List (Location × List UInt8) :=
  tree.entries.filterMap fun (location, entry) => match entry with
    | .file octets => if old.at? location == some entry then none else some (location, octets)
    | .folder => none

end FileTree
end DocScribe.Rehearsal
