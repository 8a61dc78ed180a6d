import DocScribe.Program
import DocScribe.Service.Failure

/-! What stands around every tool: faults become faults that a user can act on, and a tool that only
reads is tried again when the connection broke. -/

namespace DocScribe.Tools
open DocScribe Service

/-- A tool as its guard knows it. -/
structure Guard where
  tool : String
  /-- Nothing is changed by a second try. -/
  isReadOnly : Bool := false
  /-- The document that was asked for, as the user named it. -/
  documentId : Json := .null

namespace Guard

/-- How often a tool that only reads is tried again. -/
def maxRetries : Nat := 2

/-- The seconds to wait after this many failed tries. -/
def delay (failed : Nat) : Nat := Nat.pow 2 (failed - 1)

/-- What the connection's failure means after this many tries. -/
def brokenConnection (guard : Guard) (tries : Nat) : Fault :=
  .transientNetwork (s!"A transient SSL error occurred in '{guard.tool}' after {tries} attempt(s). " ++
    "This is likely a temporary network or certificate issue. Please try again shortly.") none

/-- What a fault other than a broken connection means to the user. -/
def report (guard : Guard) (fault : Fault) : Fault :=
  if fault.isReported then fault
  else match fault with
    | .http .. => explain fault guard.documentId
    | other => .api s!"An unexpected error occurred in {guard.tool}: {other.message}" none

/-- Runs a tool of which `tries` tries have failed; at most `left` may still fail without an end. -/
def runFrom (guard : Guard) (body : Action α) : (left tries : Nat) → Program (Outcome α)
  | left, tries => do
    match ← body.run with
    | .ok value => return .ok value
    | .error (.secureChannel _) =>
      match left with
      | 0 => return .error (guard.brokenConnection (tries + 1))
      | left + 1 =>
        let () ← Program.ask (.pause (delay (tries + 1)))
        guard.runFrom body left (tries + 1)
    | .error fault => return .error (guard.report fault)

def run (guard : Guard) (body : Action α) : Action α :=
  ExceptT.mk (guard.runFrom body (if guard.isReadOnly then maxRetries else 0) 0)

end Guard

def authorize (service scopes : String) : Action Unit :=
  ExceptT.mk (Program.ask (.authorize service scopes))

end DocScribe.Tools
