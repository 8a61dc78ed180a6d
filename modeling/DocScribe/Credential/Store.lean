import DocScribe.Files.Access
import DocScribe.Json.Access
import DocScribe.Json.Printer
import DocScribe.Json.Reader

/-! The file that holds a token: reading it, writing it, and renewing a token that is no longer
valid. -/

namespace DocScribe

/-- A token with what is needed to renew it. The values are kept as they stand in the file. -/
structure Credential where
  token : Json
  refreshToken : Json
  tokenUri : Json
  clientId : Json
  clientSecret : Json
  scopes : Json
  expiry : Option Credential.Moment

namespace Credential

/-- The address that renews tokens, unless the file names another. -/
def defaultTokenUri : Json := .str "https://oauth2.googleapis.com/token"

/-- The expiry in a file. A zone is dropped; a text that is no date is no expiry. -/
def expiryOf (data : Json) : Outcome (Option Moment) := do
  let value ← data.member "expiry"
  if !value.truthy then return none
  let text ← value.textFor "replace"
  let zoned : String := .ofList (text.toList.flatMap fun c => if c == 'Z' then "+00:00".toList else [c])
  return (Moment.ofText? zoned).map Prod.fst

def ofJson (data : Json) : Outcome Credential := do
  let expiry ← expiryOf data
  return {
    token := ← data.member "token"
    refreshToken := ← data.member "refresh_token"
    tokenUri := ← data.memberOr "token_uri" defaultTokenUri
    clientId := ← data.member "client_id"
    clientSecret := ← data.member "client_secret"
    scopes := ← data.member "scopes"
    expiry }

def toJson (credential : Credential) : Json :=
  .obj [("token", credential.token), ("refresh_token", credential.refreshToken),
    ("token_uri", credential.tokenUri), ("client_id", credential.clientId),
    ("client_secret", credential.clientSecret), ("scopes", credential.scopes),
    ("expiry", credential.expiry.elim .null fun expiry => .str expiry.toText)]

/-- The seconds before its expiry from which a token is not used any more. -/
def margin : Nat := 225

/-- The token can be used at a moment. An empty token is one that can. -/
def isValid (credential : Credential) (now : Moment) : Bool :=
  !credential.token.isNull && credential.expiry.all fun expiry =>
    now.seconds + margin < expiry.seconds ||
      (now.seconds + margin == expiry.seconds && now.micro < expiry.micro)

def isFileFault : Fault → Bool
  | .noSuchFile _ => true
  | .fileExists _ => true
  | .notADirectory _ => true
  | .isADirectory _ => true
  | .nameTooLong _ => true
  | _ => false

/-- Reads a credential from the file; none if there is no such file, or what it holds is not JSON. -/
def load (path : String) : Action (Option Credential) := do
  if !(← Action.get (.isThere path)) then return none
  match ← (Files.readText path).outcome with
  | .error fault => if isFileFault fault then return none else throw fault
  | .ok text => match Json.read text with
    | .error .malformed => return none
    | .error (.tooLong digits) => throw (.tooManyDigits digits)
    | .ok data => return some (← ofJson data)

/-- Writes a credential to the file, in a folder that is made if need be. Whether it could be written
is the result. -/
def store (path : String) (credential : Credential) : Action Bool := do
  let text := Json.pretty credential.toJson
  let written ← (do
    Files.makeFolders (Files.Path.ofText (Files.folderText path))
    Files.write path (Text.encodeUtf8 text) : Action Unit).outcome
  match written with
  | .ok () => return true
  | .error fault => if isFileFault fault then return false else throw fault

/-- A credential that can be used: the one in the file, or else that one renewed, which is then written
to the file. -/
def loadValid (path : String) : Action Credential := do
  match ← load path with
  | none => throw (.noCredentials path)
  | some credential =>
    let now ← Action.get .now
    if credential.isValid now then return credential
    if !credential.refreshToken.truthy then
      throw (.authentication s!"Stored token at {path} is expired and has no refresh token.")
    match ← ExceptT.lift (Program.ask (.renew credential.refreshToken)) with
    | .error (.refreshRefused message) =>
      throw (.authentication s!"Failed to refresh token from {path}: {message}")
    | .error fault => throw fault
    | .ok renewal =>
      let renewed := { credential with token := renewal.token, expiry := renewal.expiry }
      let _ ← store path renewed
      return renewed

end Credential
end DocScribe
