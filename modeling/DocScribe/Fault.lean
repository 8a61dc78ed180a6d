import DocScribe.Json.Display
import DocScribe.Text.Integer
import DocScribe.Text.Utf8

/-! What can go wrong, by cause. The wording of each cause is in one place. -/

namespace DocScribe

/-- A cause of failure. The first group are the outcomes that a tool reports; the others come from
the services, the files and the values that a tool meets. -/
inductive Fault where
  | validation (message : String)
  | notFound (message : String)
  | localFileNotFound (path message : String)
  /-- A computed position is not inside the document, which ends at `stop`. -/
  | outsideDocument (index stop : Int) (context : String)
  /-- A change of several steps stopped on the way. -/
  | partialApply (message : String) (completed total : Int) (details : Json) (cause : Option Fault)
  | api (message : String) (status : Option Int)
  | permissionDenied (message : String) (status : Option Int)
  | rateLimited (message : String) (status : Option Int)
  | transientNetwork (message : String) (status : Option Int)
  | authentication (message : String)
  | noCredentials (path : String)
  /-- The service answered with an error; `text` shows it. -/
  | http (status : Int) (text : String)
  | secureChannel (message : String)
  | refreshRefused (message : String)
  | badValue (message : String)
  | runtime (message : String)
  /-- Some other failure that carries a status of the service. -/
  | withStatus (status : Json) (message : String)
  /-- An object has no member of this name, or an array shown as one no item of this number. -/
  | missingKey (key : Json)
  | noSuchFile (path : String)
  | fileExists (path : String)
  | notADirectory (path : String)
  | isADirectory (path : String)
  | nameTooLong (path : String)
  | undecodable (fault : Text.Utf8Fault)
  /-- A value of this kind has no such part. -/
  | noMember (kind member : String)
  /-- A value is of a kind that does not support what is done with it. -/
  | wrongKind (message : String)
  deriving Inhabited

namespace Fault

/-- The faults that a tool may report. -/
def isReported : Fault → Bool
  | .validation .. => true
  | .notFound .. => true
  | .localFileNotFound .. => true
  | .outsideDocument .. => true
  | .partialApply .. => true
  | .api .. => true
  | .permissionDenied .. => true
  | .rateLimited .. => true
  | .transientNetwork .. => true
  | .authentication .. => true
  | .noCredentials .. => true
  | _ => false

def undecodableText (fault : Text.Utf8Fault) : String :=
  let reason := match fault.reason with
    | .invalidStart => "invalid start byte"
    | .invalidContinuation => "invalid continuation byte"
    | .unexpectedEnd => "unexpected end of data"
  if fault.length == 1 then
    let octet : String := .ofList (Json.hexEscape 'x' 2 fault.octet.toNat |>.drop 2)
    s!"'utf-8' codec can't decode byte 0x{octet} in position {fault.position}: {reason}"
  else
    let last := fault.position + fault.length - 1
    s!"'utf-8' codec can't decode bytes in position {fault.position}-{last}: {reason}"

def fileText (code : Nat) (what path : String) : String :=
  s!"[Errno {code}] {what}: " ++ .ofList (Json.shownText path)

def message : Fault → String
  | .validation message => message
  | .notFound message => message
  | .localFileNotFound path message =>
    if message == "" then s!"Local file not found: '{path}'" else message
  | .outsideDocument index stop context =>
    let place := if context == "" then "" else s!" ({context})"
    s!"Computed index {index} is outside the document bounds [1, {stop}){place}"
  | .partialApply message completed total _ _ => s!"{message} ({completed} of {total} applied)"
  | .api message _ => message
  | .permissionDenied message _ => message
  | .rateLimited message _ => message
  | .transientNetwork message _ => message
  | .authentication message => message
  | .noCredentials path =>
    s!"No credentials found at {path}. Authorize once and point GDOCS_MCP_CREDENTIALS_FILE at the saved token."
  | .http _ text => text
  | .secureChannel message => "(" ++ .ofList (Json.shownText message) ++ ",)"
  | .refreshRefused message => message
  | .badValue message => message
  | .runtime message => message
  | .withStatus _ message => message
  | .missingKey key => .ofList (Json.shown key)
  | .noSuchFile path => fileText 2 "No such file or directory" path
  | .fileExists path => fileText 17 "File exists" path
  | .notADirectory path => fileText 20 "Not a directory" path
  | .isADirectory path => fileText 21 "Is a directory" path
  | .nameTooLong path => fileText 36 "File name too long" path
  | .undecodable fault => undecodableText fault
  | .noMember kind member => s!"'{kind}' object has no attribute '{member}'"
  | .wrongKind message => message

/-- The text of an integer that has too many digits. -/
def tooManyDigits (digits : Nat) : Fault :=
  .badValue <| s!"Exceeds the limit ({Text.maxDigits} digits) for integer string conversion: " ++
    s!"value has {digits} digits; use sys.set_int_max_str_digits() to increase the limit"

end Fault

/-- A result, or the fault that prevents it. -/
abbrev Outcome := Except Fault

end DocScribe
