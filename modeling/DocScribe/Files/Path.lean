import DocScribe.Text.Search

/-! Paths of files. A path is read once: repeated slashes and single dots disappear, and two dots
stay, since what they mean depends on the folders that exist. -/

namespace DocScribe.Files
open DocScribe

/-- Where a path starts. A path that starts with exactly two slashes keeps them. -/
inductive Root where
  | none
  | single
  | double
  deriving DecidableEq

/-- A path in its normal form: no part is empty or a single dot. -/
structure Path where
  root : Root
  parts : List String
  deriving DecidableEq

namespace Path

/-- The parts between the slashes of a text, without those that say nothing. -/
def partsOf (text : List Char) : List String :=
  ((Text.splitAt '/' text).map String.ofList).filter fun part => part != "" && part != "."

def rootOf : List Char → Root
  | '/' :: '/' :: '/' :: _ => .single
  | '/' :: '/' :: _ => .double
  | '/' :: _ => .single
  | _ => .none

def ofText (text : String) : Path := ⟨rootOf text.toList, partsOf text.toList⟩

def rootText : Root → String
  | .none => ""
  | .single => "/"
  | .double => "//"

/-- The text of a path; a path without parts that has no root is the working folder. -/
def toText (path : Path) : String :=
  if path.root == .none && path.parts.isEmpty then "."
  else rootText path.root ++ "/".intercalate path.parts

def isAbsolute (path : Path) : Bool := path.root != .none

/-- A path as seen from a folder; one that starts at the root is the same from everywhere. -/
def within (path folder : Path) : Path :=
  if path.isAbsolute then path else ⟨folder.root, folder.parts ++ path.parts⟩

/-- The folder that holds what the path names. -/
def parent (path : Path) : Path := ⟨path.root, path.parts.dropLast⟩

def name (path : Path) : String := path.parts.getLastD ""

/-- The parts with each pair of dots and the part before it taken out. -/
def withoutDots (parts : List String) : List String :=
  (parts.foldl (fun before part => if part == ".." then before.drop 1 else part :: before) []).reverse

/-- A path without pairs of dots, as seen from a folder. -/
def resolve (path folder : Path) : Path := ⟨.single, withoutDots (path.within folder).parts⟩

end Path

/-- The folder part of a text: all before its last slash, without slashes at its end unless it has
nothing else. -/
def folderText (path : String) : String :=
  let chars := path.toList
  let head := chars.take ((Text.lastIndexOf '/' chars).elim 0 (· + 1))
  let cut := (head.reverse.dropWhile (· == '/')).reverse
  .ofList (if cut.isEmpty then head else cut)

/-- The home folder of a user by name. The administrator's is known. -/
def homeOf? (user : String) : Option String := if user == "root" then some "/root" else none

/-- A text with the tilde at its start, and the name of a user after it, replaced by that user's home folder. Without
a name it is `home`. -/
def expandHome (home path : String) : String :=
  match path.toList with
  | '~' :: rest =>
    let user := rest.takeWhile (· != '/')
    let after := rest.drop user.length
    match if user.isEmpty then some home else homeOf? (.ofList user) with
    -- a user who is not known stays as written
    | none => path
    | some folder =>
      let kept := (folder.toList.reverse.dropWhile (· == '/')).reverse
      let expanded := kept ++ after
      if expanded.isEmpty then "/" else .ofList expanded
  | _ => path

/-- A path that starts with a tilde as seen from the home folder; nothing when the home folder is not
known. -/
def Path.expandHome? (home : String) (path : Path) : Option Path :=
  match path.root, path.parts with
  | .none, first :: rest =>
    if first.startsWith "~" then
      let expanded := expandHome home first
      if expanded.startsWith "~" then none
      else
        let folder := Path.ofText expanded
        some ⟨folder.root, folder.parts ++ rest⟩
    else some path
  | _, _ => some path

def joinText (folder name : String) : String :=
  if folder == "" || folder.endsWith "/" then folder ++ name else folder ++ "/" ++ name

end DocScribe.Files
