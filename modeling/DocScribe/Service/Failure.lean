import DocScribe.Fault
import DocScribe.Json.Access
import DocScribe.Json.Reader
import DocScribe.Text.Blank

/-! The replies by which a service refuses a call: their text, and the faults that they mean. -/

namespace DocScribe.Service

/-- What a refusal tells: a reason, and details of any kind. -/
structure Refusal where
  reason : Json
  details : Json

namespace Refusal

/-- The members of an error's description that may hold the details, the first that is there. -/
def detailKeys : List String := ["detail", "details", "errors", "message"]

/-- What the content of a reply tells beside the reason in its head. An object has an error with a
message, and so has the first item of an array; where one of them is missing the reason stays and
there are no details. Any other content is the details itself. -/
def ofContent (reason content : String) : Refusal :=
  let bare : Refusal := ⟨.str reason, .str ""⟩
  match Json.read content with
  | .error .malformed => ⟨.str reason, .str content⟩
  | .error (.tooLong _) => bare
  | .ok (.obj members) => match members.lookup "error" with
    | some (.obj error) => match error.lookup "message" with
      | some message => ⟨message, (detailKeys.findSome? fun key => error.lookup key).getD (.str "")⟩
      | none => bare
    | _ => bare
  | .ok (.arr (first :: _)) => match first.find? "error" with
    | some (.obj error) => match error.lookup "message" with
      | some message => ⟨message, (error.lookup "details").getD (.str "")⟩
      | none => bare
    | _ => bare
  | .ok data => ⟨.str reason, data⟩

def toText (status : Int) (reason : String) (details : Json) : String :=
  if details.truthy then
    s!"<HttpError {status} when requesting None returned \"{reason}\". Details: \"{details.display}\">"
  else s!"<HttpError {status} \"{reason}\">"

end Refusal

/-- The fault of a reply that refuses a call. -/
def refuse (status : Int) (reason content : String) : Fault :=
  let refusal := Refusal.ofContent reason content
  let text (reason : String) : Fault :=
    .http status (Refusal.toText status (Text.trim reason) refusal.details)
  match refusal.reason with
  | .null => text ""
  | .str reason => text reason
  -- a reason that is no text has no blanks to trim
  | other => .noMember other.kind "strip"

/-- The whole number that a status is given as, if it is one. -/
def statusNumber? : Json → Option Int
  | .int status => some status
  | .bool status => some (if status then 1 else 0)
  | .decimal status => status.truncate?
  | .str status => (Text.readInt status).toOption
  | _ => none

def status? : Fault → Option Int
  | .http status _ => some status
  | .withStatus status _ => statusNumber? status
  | _ => none

/-- What a failure of a service means to the user. -/
def explain (fault : Fault) (documentId : Json) : Fault :=
  match status? fault with
  | some 404 =>
    let id := if documentId.truthy then documentId.display else "unknown"
    .notFound s!"Doc not found or not a Google Doc (id={id})"
  | some 403 =>
    .permissionDenied "Permission denied. You may not have access to this document." (some 403)
  | some 401 => .authentication "Authentication expired. Please re-authorize."
  | some 429 => .rateLimited "Rate limit exceeded. Please wait and try again." (some 429)
  | status => .api s!"Google API error: {fault.message}" status

/-- The report of an operation that failed. -/
def failureReport (operation : String) (fault : Fault) : String :=
  s!"{operation} failed: {fault.message}"

end DocScribe.Service
