import DocScribe.Credential.Moment
import DocScribe.Service.Call
import DocScribe.Settings

/-! Programs that ask their surroundings: services, files, settings and the clock. A program is a value,
so what it asks, in which order and for which replies, is there to be looked at; who runs it decides
where the replies come from. -/

namespace DocScribe
open Service

/-- Where a program runs: the home folder of its user, and the folder that relative paths start at. -/
structure Place where
  home : String
  folder : String

/-- A part of a file that is downloaded, and whether it is the last. -/
structure Chunk where
  octets : List UInt8
  done : Bool

/-- What takes the place of a token that is no longer valid. -/
structure Renewal where
  token : Json
  expiry : Option Credential.Moment

/-- What a program can ask. -/
inductive Request where
  | call (call : Call)
  /-- A connection to a service with some scopes. -/
  | authorize (service scopes : String)
  /-- The start of a download. The reply bounds the number of its parts. -/
  | openDownload (fileId : Identifier) (mimeType : String)
  | nextChunk (fileId : Identifier) (mimeType : String)
  /-- An action of which nothing is known but how it ends. -/
  | attempt
  | pause (seconds : Nat)
  /-- A client of a service that presents a token. -/
  | connect (name version : String) (token : Json)
  | renew (refreshToken : Json)
  | settings
  /-- The file that holds the token. -/
  | tokenFile
  | now
  | place
  | isFile (path : String)
  | isFolder (path : String)
  /-- There is a file or a folder. -/
  | isThere (path : String)
  | readFile (path : String)
  | writeFile (path : String) (octets : List UInt8)
  | makeFolder (path : String)

@[reducible] def Request.Reply : Request → Type
  | .call _ => Outcome Json
  | .authorize .. => Outcome Unit
  | .openDownload .. => Nat
  | .nextChunk .. => Outcome Chunk
  | .attempt => Outcome Json
  | .pause _ => Unit
  | .connect .. => Outcome Unit
  | .renew _ => Outcome Renewal
  | .settings => Outcome Settings
  | .tokenFile => Outcome String
  | .now => Credential.Moment
  | .place => Place
  | .isFile _ => Outcome Bool
  | .isFolder _ => Bool
  | .isThere _ => Bool
  | .readFile _ => Outcome (List UInt8)
  | .writeFile .. => Outcome Unit
  | .makeFolder _ => Outcome Unit

/-- A program that ends with a value, or asks and goes on with the reply. -/
inductive Program (α : Type) where
  | pure (value : α)
  | request (question : Request) (next : question.Reply → Program α)

namespace Program

def bind (program : Program α) (next : α → Program β) : Program β :=
  match program with
  | .pure value => next value
  | .request question rest => .request question fun reply => (rest reply).bind next

instance : Monad Program where
  pure := .pure
  bind := .bind

/-- Asks, and ends with the reply. -/
def ask (question : Request) : Program question.Reply := .request question .pure

end Program

/-- A program that may end with a fault. -/
abbrev Action := ExceptT Fault Program

namespace Action

/-- Asks for what is always there. -/
def get (question : Request) : Action question.Reply := ExceptT.lift (Program.ask question)

def ofOutcome (outcome : Outcome α) : Action α := ExceptT.mk (pure outcome)

def call (call : Call) : Action Json := ExceptT.mk (Program.ask (.call call))

def settings : Action Settings := ExceptT.mk (Program.ask .settings)

/-- The outcome of an action, whose faults do not end the program. -/
def outcome (action : Action α) : Action (Outcome α) := ExceptT.lift action.run

instance : MonadLift Outcome Action := ⟨ofOutcome⟩

end Action
end DocScribe
