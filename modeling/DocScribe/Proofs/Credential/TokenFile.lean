import DocScribe.Credential.Store
import DocScribe.Proofs.Credential.StampReading
import DocScribe.Proofs.Files.FileService
import DocScribe.Proofs.Json.RoundTrip

/-! The file of a token on a service of files: what is loaded from a file that holds a value, what is left when a
credential is stored, and when a token is renewed. -/

namespace DocScribe.Credential
open Rehearsal FileService

variable {service : FileService} {made : Nat} {files : FileTree} {path : String}

/-- The file at a path holds the text of a JSON value. -/
def Holds (service : FileService) (files : FileTree) (path : String) (data : Json) : Prop :=
  ∃ octets text, files.read service.folder path = .ok octets ∧ Text.decodeUtf8 octets = .ok text ∧
    Json.read (.ofList (Text.unifyLineEnds text.toList)) = .ok data

/-- What is written indented is held. -/
theorem holds_pretty {data : Json} (textual : data.IsTextual)
    (read : files.read service.folder path = .ok (Text.encodeUtf8 (Json.pretty data))) : Holds service files path data := by
  have ascii := Json.write_ascii Json.indented_ascii textual 0
  refine ⟨_, Json.pretty data, read, Text.decodeUtf8_encodeUtf8 fun c among => (ascii c among).1, ?_⟩
  rw [Json.pretty, String.toList_ofList, Text.unifyLineEnds_plain fun c among => (ascii c among).2]
  exact Json.read_write Json.indented_isBlank textual

private theorem run_get (service : FileService) (made : Nat) (files : FileTree) (question : Request) :
    service.run made files (Action.get question).run =
      let answer := service.answer made files question
      ⟨[⟨question, answer.1⟩], .ok answer.1, answer.2⟩ := rfl

private theorem run_outcome (service : FileService) (made : Nat) (files : FileTree) (action : Action α) :
    service.run made files action.outcome.run =
      let attempt := service.run made files action.run
      ⟨attempt.asked, .ok attempt.value, attempt.files⟩ := by
  have lifted : action.outcome.run = action.run >>= fun outcome => Program.pure (Except.ok outcome) := rfl
  rw [lifted, run_bind]
  exact congrArg (Record.mk · _ _) (List.append_nil _)

private theorem run_readText {octets : List UInt8} {text : String} (read : files.read service.folder path = .ok octets)
    (decoded : Text.decodeUtf8 octets = .ok text) :
    service.run made files (Files.readText path).run =
      ⟨[⟨.readFile path, .ok octets⟩], .ok (.ofList (Text.unifyLineEnds text.toList)), files⟩ := by
  have first : service.run made files (Files.readOctets path).run = ⟨[⟨.readFile path, .ok octets⟩], .ok octets, files⟩ := by
    rw [← read]
    rfl
  unfold Files.readText
  rw [run_andThen first, decoded]
  rfl

theorem expiryOf_stamp {stamp : Stamp} (valid : stamp.IsValid)
    {members : List (String × Json)} (expiry : members.lookup "expiry" = some (.str stamp.text)) :
    expiryOf (.obj members) = .ok stamp.read? := by
  obtain ⟨ahead, read⟩ := ofText?_numeric valid
  have filled : Json.truthy (.str stamp.text) = true := by
    refine bne_iff_ne.mpr fun same => ?_
    have none := congrArg String.toList same
    rw [Stamp.text, String.toList_ofList, String.toList_empty, List.append_eq_nil_iff, List.append_eq_nil_iff] at none
    cases none.1.2
  have member : (Json.obj members).member "expiry" = .ok (.str stamp.text) := by
    rw [Json.member, Json.member?, expiry]
    rfl
  rw [expiryOf, bind_of_ok member]
  rw [filled, Bool.not_true, if_neg Bool.false_ne_true]
  change Except.ok ((Moment.ofText? (.ofList (stamp.text.toList.flatMap zoned))).map Prod.fst) = _
  rw [text_zoned, read, Option.map_map]
  exact congrArg Except.ok Option.map_id'

/-- The members of a file that are read. -/
theorem ofJson_obj {members : List (String × Json)} {expiry : Option Moment} (read : expiryOf (.obj members) = .ok expiry) :
    ofJson (.obj members) = .ok {
      token := (members.lookup "token").getD .null
      refreshToken := (members.lookup "refresh_token").getD .null
      tokenUri := (members.lookup "token_uri").getD defaultTokenUri
      clientId := (members.lookup "client_id").getD .null
      clientSecret := (members.lookup "client_secret").getD .null
      scopes := (members.lookup "scopes").getD .null
      expiry } := by
  rw [ofJson, bind_of_ok read]
  rfl

theorem load_held {data : Json} {credential : Credential} (held : Holds service files path data)
    (described : ofJson data = .ok credential) (made : Nat) :
    ∃ octets, service.run made files (load path).run =
      ⟨[⟨.isThere path, true⟩, ⟨.readFile path, .ok octets⟩], .ok (some credential), files⟩ := by
  obtain ⟨octets, text, read, decoded, parsed⟩ := held
  refine ⟨octets, ?_⟩
  have there : service.run made files (Action.get (.isThere path)).run = ⟨[⟨.isThere path, true⟩], .ok true, files⟩ := by
    rw [run_get, answer, FileTree.isThere_of_read read]
  have outcome : service.run (made + 1) files (Files.readText path).outcome.run =
      ⟨[⟨.readFile path, .ok octets⟩], .ok (.ok (.ofList (Text.unifyLineEnds text.toList))), files⟩ := by
    rw [run_outcome, run_readText read decoded]
  unfold load
  rw [run_andThen there]
  dsimp only
  rw [Bool.not_true, if_neg Bool.false_ne_true, List.length_singleton, run_andThen outcome]
  dsimp only
  rw [parsed]
  dsimp only
  rw [described]
  rfl

section Storing
variable {credential : Credential}

/-- The octets that are stored. -/
def octets (credential : Credential) : List UInt8 := Text.encodeUtf8 (Json.pretty credential.toJson)

/-- What is done to store a credential, before its faults are looked at. -/
def write (path : String) (credential : Credential) : Action Unit :=
  writeWithin (Files.Path.ofText (Files.folderText path)) path credential.octets

private theorem write_told (service : FileService) (made : Nat) (files : FileTree) (path : String) (credential : Credential) :
    WriteTold service path credential.octets (service.run made files (write path credential).run) :=
  writeWithin_told _ path credential.octets service made files

private theorem store_run (service : FileService) (made : Nat) (files : FileTree) (path : String) (credential : Credential) :
    service.run made files (store path credential).run =
      let attempt := service.run made files (write path credential).run
      let value := match attempt.value with
        | .ok () => .ok true
        | .error fault => if isFileFault fault then .ok false else .error fault
      ⟨attempt.asked, value, attempt.files⟩ := by
  unfold store
  dsimp only
  change service.run made files ((write path credential).outcome >>= _).run = _
  cases attempt : service.run made files (write path credential).run with
  | mk asked value after =>
    have first := run_outcome service made files (write path credential)
    rw [attempt] at first
    rw [run_andThen first]
    cases value with
    | ok _ => exact congrArg (Record.mk · _ _) (List.append_nil _)
    | error fault =>
      dsimp only
      split
      · exact congrArg (Record.mk · _ _) (List.append_nil _)
      · exact congrArg (Record.mk · _ _) (List.append_nil _)

theorem store_saves (stored : (service.run made files (store path credential).run).value = .ok true) :
    (service.run made files (store path credential).run).files.read service.folder path = .ok credential.octets := by
  have told := write_told service made files path credential
  rw [store_run] at stored ⊢
  dsimp only at stored ⊢
  split at stored
  next done => exact told.saved done
  next fault _ =>
    split at stored
    · cases stored
    · cases stored

theorem store_written_iff :
    (service.run made files (store path credential).run).value = .ok true ↔
      ∃ octets, ⟨.writeFile path octets, .ok ()⟩ ∈ (service.run made files (store path credential).run).asked := by
  rw [store_run, ← (write_told service made files path credential).told]
  dsimp only
  cases (service.run made files (write path credential).run).value with
  | ok _ => exact iff_of_true rfl rfl
  | error fault =>
    dsimp only
    split
    · exact iff_of_false nofun nofun
    · exact iff_of_false nofun nofun

end Storing

section Renewing
variable {credential : Credential} {asked : List Exchange}

def isRenewal : Request → Bool
  | .renew _ => true
  | _ => false

def renewed (credential : Credential) (renewal : Renewal) : Credential :=
  { credential with token := renewal.token, expiry := renewal.expiry }

/-- What is done with the reply to a renewal. -/
def keep (path : String) (credential : Credential) : Outcome Renewal → Action Credential
  | .error (.refreshRefused message) =>
    throw (.authentication s!"Failed to refresh token from {path}: {message}")
  | .error fault => throw fault
  | .ok renewal => do
    let _ ← store path (credential.renewed renewal)
    return credential.renewed renewal

/-- What is done with a credential that is no longer valid. -/
def renew (path : String) (credential : Credential) : Action Credential :=
  if !credential.refreshToken.truthy then
    throw (.authentication s!"Stored token at {path} is expired and has no refresh token.")
  else do
    keep path credential (← ExceptT.lift (Program.ask (.renew credential.refreshToken)))

private theorem loadValid_eq (path : String) : loadValid path = (do
    match ← load path with
    | none => throw (.noCredentials path)
    | some credential =>
      let now ← Action.get .now
      if credential.isValid now then return credential
      else renew path credential) := by
  unfold loadValid renew keep
  congr 1
  funext loaded
  cases loaded with
  | none => rfl
  | some credential =>
    dsimp only
    congr 1
    funext now
    split
    · rfl
    · split
      · rfl
      · congr 1
        funext reply
        rcases reply with fault | renewal
        · cases fault <;> rfl
        · rfl

/-- A credential that was loaded is used as long as it is valid. -/
theorem loadValid_run (loaded : service.run made files (load path).run = ⟨asked, .ok (some credential), files⟩) :
    service.run made files (loadValid path).run =
      let now := service.elsewhere (made + asked.length) .now
      let rest := service.run (made + asked.length + 1) files
        (if credential.isValid now then pure credential else renew path credential : Action Credential).run
      ⟨asked ++ ⟨.now, now⟩ :: rest.asked, rest.value, rest.files⟩ := by
  have told := run_get service (made + asked.length) files .now
  rw [loadValid_eq, run_andThen loaded]
  dsimp only
  rw [run_andThen told]
  rfl

/-- Without anything to renew it with, a credential is not renewed. -/
theorem renew_missing (missing : credential.refreshToken.truthy = false) :
    service.run made files (renew path credential).run =
      ⟨[], .error (.authentication s!"Stored token at {path} is expired and has no refresh token."), files⟩ := by
  rw [renew, missing]
  rfl

theorem renew_asks (present : credential.refreshToken.truthy = true) :
    service.run made files (renew path credential).run =
      let reply := service.elsewhere made (.renew credential.refreshToken)
      let rest := service.run (made + 1) files (keep path credential reply).run
      ⟨⟨.renew credential.refreshToken, reply⟩ :: rest.asked, rest.value, rest.files⟩ := by
  have told : service.run made files (ExceptT.lift (Program.ask (.renew credential.refreshToken)) : Action _).run =
      ⟨[⟨.renew credential.refreshToken, service.elsewhere made (.renew credential.refreshToken)⟩],
        .ok (service.elsewhere made (.renew credential.refreshToken)), files⟩ := rfl
  rw [renew, present, Bool.not_true, if_neg Bool.false_ne_true, run_andThen told]
  rfl

/-- Used as it was loaded, with no renewal. -/
def IsUnrenewed (run : Record (Outcome Credential)) : Prop :=
  (∃ credential, run.value = .ok credential) ∧ ∀ exchange ∈ run.asked, isRenewal exchange.question = false

theorem loadValid_unrenewed_iff {octets : List UInt8}
    (loaded : service.run made files (load path).run =
      ⟨[⟨.isThere path, true⟩, ⟨.readFile path, .ok octets⟩], .ok (some credential), files⟩) :
    IsUnrenewed (service.run made files (loadValid path).run) ↔
      credential.isValid (service.elsewhere (made + 2) .now) = true := by
  rw [loadValid_run loaded]
  dsimp only [List.length_cons, List.length_nil]
  cases valid : credential.isValid (service.elsewhere (made + 2) .now) with
  | true =>
    rw [if_pos rfl]
    refine ⟨fun _ => rfl, fun _ => ⟨⟨credential, rfl⟩, ?_⟩⟩
    exact List.forall_mem_cons.mpr ⟨rfl, List.forall_mem_cons.mpr ⟨rfl, List.forall_mem_singleton.mpr rfl⟩⟩
  | false =>
    rw [if_neg Bool.false_ne_true]
    refine ⟨fun ⟨⟨_, returned⟩, quiet⟩ => ?_, fun impossible => nomatch impossible⟩
    cases present : credential.refreshToken.truthy with
    | false =>
      rw [renew_missing present] at returned
      cases returned
    | true =>
      rw [renew_asks present] at quiet
      have asked := quiet _ (List.mem_append_right _ (List.mem_cons_of_mem _ List.mem_cons_self))
      cases asked

end Renewing

end DocScribe.Credential
