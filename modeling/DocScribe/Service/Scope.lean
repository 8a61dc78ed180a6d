/-! What a token permits. A scope is known by its address, and the usual ones also by a short name. -/

namespace DocScribe.Scope

def address (name : String) : String := "https://www.googleapis.com/auth/" ++ name

def docsRead : String := address "documents.readonly"

def docsWrite : String := address "documents"

def drive : String := address "drive"

def driveRead : String := address "drive.readonly"

def driveFile : String := address "drive.file"

def named : List (String × String) :=
  [("docs_read", docsRead), ("docs_write", docsWrite), ("drive_read", driveRead),
    ("drive_file", driveFile), ("drive", drive)]

/-- The addresses of scopes, of which some are given by short names. -/
def resolve (scopes : List String) : List String :=
  scopes.map fun scope => (named.lookup scope).getD scope

/-- The narrower scopes that a scope also grants. -/
def implied (scope : String) : List String :=
  if scope == drive then [driveRead, driveFile]
  else if scope == docsWrite then [docsRead]
  else []

def isCovered (granted : List String) (scope : String) : Bool :=
  granted.any fun grant => grant == scope || (implied grant).contains scope

/-- The required scopes that the granted ones do not cover. -/
def missing (required granted : List String) : List String :=
  required.filter fun scope => !isCovered granted scope

end DocScribe.Scope
