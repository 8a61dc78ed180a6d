import DocScribe.Credential.Store
import DocScribe.Service.Scope

/-! Clients of the services, which present a token that has the scopes they need. -/

namespace DocScribe.Credential
open DocScribe

/-- A service by its name and version. -/
structure Client where
  name : String
  version : String

def clients : List (String × Client) := [("docs", ⟨"docs", "v1"⟩), ("drive", ⟨"drive", "v3"⟩)]

/-- The texts among the granted scopes. Only values that can be looked up may be among them. -/
def grantedScopes (scopes : Json) : Outcome (List String) := do
  let items ← scopes.items
  match items.find? fun item => item matches .arr _ | .obj _ with
  | some item => throw (.wrongKind s!"unhashable type: '{item.kind}'")
  | none => return items.filterMap Json.text?

/-- Connects to a service. A token that says nothing about its scopes is taken to have them all. -/
def connect (service : String) (scopes : List String) : Action Client := do
  match clients.lookup service with
  | none => throw (.badValue s!"Unknown service type: {service}")
  | some client =>
    let path ← ExceptT.mk (Program.ask .tokenFile)
    let credential ← loadValid path
    if credential.scopes.truthy then
      let missing := Scope.missing (Scope.resolve scopes) (← grantedScopes credential.scopes)
      if !missing.isEmpty then
        let listed := ", ".intercalate missing
        throw (.authentication s!"Stored token is missing required scopes: {listed}")
    ExceptT.mk (Program.ask (.connect client.name client.version credential.token))
    return client

end DocScribe.Credential
