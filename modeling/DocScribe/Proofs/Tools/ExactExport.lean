import DocScribe.Proofs.Files.FileService
import DocScribe.Proofs.Outcomes
import DocScribe.Rehearsal.World
import DocScribe.Tools.Export

/-! What an export leaves in the files. The file holds what came in the last try, from its first part to the part that
was the last, and a try in which a service refuses leaves the files as they were. -/

namespace DocScribe
open Service Program

namespace Request

def isPause : Request → Bool
  | .pause _ => true
  | _ => false

/-- A service was asked, for a part of a file maybe, and refused. -/
def refuses : (question : Request) → question.Reply → Bool
  | .nextChunk .., reply => !reply.isOk
  | question, reply => question.fails reply

/-- The part of a file that came. -/
def chunk? : (question : Request) → question.Reply → Option Chunk
  | .nextChunk .., .ok chunk => some chunk
  | _, _ => none

end Request

namespace Exchange

def isRefused (exchange : Exchange) : Bool := exchange.question.refuses exchange.reply

def chunk? (exchange : Exchange) : Option Chunk := exchange.question.chunk? exchange.reply

end Exchange

/-- The parts of files that came. -/
def chunksIn (asked : List Exchange) : List Chunk := asked.filterMap Exchange.chunk?

namespace Action
variable (replies : Replies)

/-- When it ends with a value, this holds of what was asked and of the value. -/
def Passes (action : Action α) (ends : List Exchange → α → Prop) : Prop :=
  ∀ made value, action.run.result replies made = .ok value → ends (action.run.exchanges replies made) value

variable {replies} {action : Action α} {ends : List Exchange → α → Prop} {last : List Exchange → β → Prop}

theorem Passes.pure {value : α} (done : ends [] value) : (Pure.pure value : Action α).Passes replies ends := by
  rintro made _ ⟨⟩
  exact done

theorem Passes.throw (fault : Fault) : (MonadExcept.throw fault : Action α).Passes replies ends := by
  rintro made _ ⟨⟩

theorem Passes.ofOutcome (ends : List Exchange → α → Prop) {outcome : Outcome α}
    (done : ∀ value, outcome = .ok value → ends [] value) :
    (ofOutcome outcome).Passes replies ends :=
  fun _ value same => done value same

theorem Passes.bind {next : α → Action β} (first : action.Passes replies ends)
    (rest : ∀ asked value, ends asked value → (next value).Passes replies fun further => last (asked ++ further)) :
    (action >>= next).Passes replies last := by
  intro made value ended
  rw [ExceptT.run_bind, result_bind] at ended
  rw [ExceptT.run_bind, exchanges_bind]
  cases middle : action.run.result replies made with
  | error fault =>
    rw [middle] at ended
    cases ended
  | ok between =>
    rw [middle] at ended
    exact rest _ between (first made between middle) _ value ended

end Action

/-- No service refuses, and no part of a file comes. -/
structure Uneventful (asked : List Exchange) : Prop where
  smooth : ∀ exchange ∈ asked, exchange.isRefused = false
  bare : chunksIn asked = []

theorem uneventful_nil : Uneventful [] := ⟨List.forall_mem_nil _, rfl⟩

theorem Uneventful.append {asked further : List Exchange} (first : Uneventful asked) (rest : Uneventful further) :
    Uneventful (asked ++ further) := by
  refine ⟨List.forall_mem_append.mpr ⟨first.smooth, rest.smooth⟩, ?_⟩
  rw [chunksIn, List.filterMap_append]
  exact List.append_eq_nil_iff.mpr ⟨first.bare, rest.bare⟩

theorem uneventful_single {exchange : Exchange} (smooth : exchange.isRefused = false) (bare : exchange.chunk? = none) :
    Uneventful [exchange] := by
  refine ⟨List.forall_mem_singleton.mpr smooth, ?_⟩
  rw [chunksIn, List.filterMap_cons_none bare]
  rfl

private theorem chunksIn_append (asked further : List Exchange) : chunksIn (asked ++ further) = chunksIn asked ++ chunksIn further :=
  List.filterMap_append

namespace Action
variable (replies : Replies)

/-- Ends with a value only if all goes smoothly, without parts of a file. -/
def Smooth (action : Action α) : Prop := action.Passes replies fun asked _ => Uneventful asked

variable {replies} {action : Action α} {next : α → Action β} {last : List Exchange → β → Prop}

private theorem smooth_pure (value : α) : (pure value : Action α).Smooth replies := .pure uneventful_nil

private theorem smooth_ofOutcome (outcome : Outcome α) : (ofOutcome outcome).Smooth replies :=
  .ofOutcome _ fun _ _ => uneventful_nil

theorem Smooth.before (first : action.Smooth replies)
    (kept : ∀ look asked value, Uneventful look → last asked value → last (look ++ asked) value)
    (rest : ∀ value, (next value).Passes replies last) : (action >>= next).Passes replies last :=
  Passes.bind first fun look value quiet made result ended => kept look _ result quiet (rest value made result ended)

theorem Smooth.bind (first : action.Smooth replies) (rest : ∀ value, (next value).Smooth replies) :
    (action >>= next).Smooth replies :=
  first.before (fun _ _ _ quiet further => quiet.append further) rest

private theorem smooth_call (call : Call) : (Action.call call).Smooth replies := by
  intro made value ended
  refine uneventful_single ?_ rfl
  change (!(replies made (.call call)).isOk) = false
  rw [show replies made (.call call) = .ok value from ended]
  rfl

end Action

/-- Without a refusal parts of a file came one after the other, up to the last. -/
structure Downloaded (asked : List Exchange) (octets : List UInt8) : Prop where
  smooth : ∀ exchange ∈ asked, exchange.isRefused = false
  ended : ∃ parts final, chunksIn asked = parts ++ [final] ∧ (∀ part ∈ parts, part.done = false) ∧ final.done = true
  joined : octets = (chunksIn asked).flatMap Chunk.octets

theorem Downloaded.around {before asked after : List Exchange} {octets : List UInt8} (downloaded : Downloaded asked octets)
    (first : Uneventful before) (rest : Uneventful after) : Downloaded (before ++ (asked ++ after)) octets := by
  have same : chunksIn (before ++ (asked ++ after)) = chunksIn asked := by
    rw [chunksIn_append, chunksIn_append, first.bare, rest.bare, List.nil_append, List.append_nil]
  refine ⟨?_, same ▸ downloaded.ended, same ▸ downloaded.joined⟩
  exact List.forall_mem_append.mpr ⟨first.smooth, List.forall_mem_append.mpr ⟨downloaded.smooth, rest.smooth⟩⟩

namespace Tools
open DocScribe.Action Files
variable {replies : Replies}

private theorem authorize_smooth (service scopes : String) : (authorize service scopes).Smooth replies := by
  intro made value ended
  refine uneventful_single ?_ rfl
  change (!(replies made (.authorize service scopes)).isOk) = false
  rw [show replies made (.authorize service scopes) = .ok value from ended]
  rfl

private theorem documentMetadata_smooth (documentId : String) : (documentMetadata documentId).Smooth replies := by
  unfold documentMetadata
  refine (smooth_call _).bind fun metadata => (smooth_ofOutcome _).bind fun mimeType => ?_
  dsimp only
  split
  · refine (smooth_ofOutcome _).bind fun name => ?_
    exact Passes.throw _
  · exact smooth_pure metadata

private theorem chunksFrom_succ (fileId : Identifier) (mimeType : String) (left : Nat) :
    (chunksFrom fileId mimeType (left + 1)).run = .request (.nextChunk fileId mimeType) fun reply =>
      match reply with
      | .error fault => .pure (.error fault)
      | .ok chunk =>
        if chunk.done then .pure (.ok chunk.octets)
        else (chunksFrom fileId mimeType left).run >>= fun later => .pure (later.map (chunk.octets ++ ·)) := by
  refine congrArg (Program.request _) (funext fun reply => ?_)
  cases reply with
  | error fault => rfl
  | ok chunk =>
    change (if chunk.done = true then pure chunk.octets else do
      let later ← chunksFrom fileId mimeType left
      pure (chunk.octets ++ later) : Action (List UInt8)).run = if chunk.done = true then _ else _
    split
    · rfl
    · refine congrArg ((chunksFrom fileId mimeType left).run >>= ·) (funext fun later => ?_)
      cases later <;> rfl

private theorem chunksFrom_whole {fileId : Identifier} {mimeType : String} {left made : Nat} {octets : List UInt8}
    (ended : (chunksFrom fileId mimeType left).run.result replies made = .ok octets) :
    Downloaded ((chunksFrom fileId mimeType left).run.exchanges replies made) octets := by
  -- on the parts that may still come
  induction left generalizing made octets with
  | zero => cases ended
  | succ left ih =>
    rw [chunksFrom_succ, result] at ended
    rw [chunksFrom_succ, exchanges]
    cases came : replies made (.nextChunk fileId mimeType) with
    | error fault =>
      rw [came] at ended
      cases ended
    | ok chunk =>
      rw [came] at ended
      have smooth : Exchange.isRefused ⟨.nextChunk fileId mimeType, .ok chunk⟩ = false := rfl
      have first (asked : List Exchange) :
          chunksIn (⟨.nextChunk fileId mimeType, .ok chunk⟩ :: asked) = chunk :: chunksIn asked := rfl
      dsimp only at ended ⊢
      cases done : chunk.done with
      | true =>
        rw [done, if_pos rfl] at ended
        cases ended
        rw [if_pos rfl, exchanges]
        refine ⟨List.forall_mem_singleton.mpr smooth, ⟨[], chunk, first [], List.forall_mem_nil _, done⟩, ?_⟩
        exact (List.append_nil _).symm
      | false =>
        rw [done, if_neg Bool.false_ne_true, result_bind] at ended
        rw [if_neg Bool.false_ne_true, exchanges_bind, exchanges, List.append_nil]
        obtain ⟨later, rest, whole⟩ := ok_of_map (by exact ended)
        obtain ⟨smoothly, ⟨parts, final, split, unfinished, finished⟩, joined⟩ := ih rest
        refine ⟨List.forall_mem_cons.mpr ⟨smooth, smoothly⟩, ⟨chunk :: parts, final, ?_, ?_, finished⟩, ?_⟩
        · rw [first, split, List.cons_append]
        · exact List.forall_mem_cons.mpr ⟨done, unfinished⟩
        · rw [first, ← whole, joined, List.flatMap_cons]

private theorem download_passes (fileId : Identifier) (mimeType : String) :
    (download fileId mimeType).Passes replies Downloaded := by
  intro made octets ended
  have started : (download fileId mimeType).run =
      .request (.openDownload fileId mimeType) fun left => (chunksFrom fileId mimeType left).run :=
    ExceptT.run_bind_lift _ _
  rw [started, result] at ended
  rw [started, exchanges]
  have opened : Uneventful [⟨.openDownload fileId mimeType, replies made (.openDownload fileId mimeType)⟩] :=
    uneventful_single rfl rfl
  have whole := chunksFrom_whole ended
  rw [← List.append_nil (exchanges ..)]
  exact whole.around opened uneventful_nil

/-- Where an export goes from a place: where the user says, or else to a file that is named for the document. -/
def Export.GoesTo (target : Export) (place : Place) (name : Json) (extension : String) (path : Path) : Prop :=
  match target.path.filter (· != "") with
  | some given => (Path.ofText given).expandHome? place.home = some path
  | none => ∃ title, name = .str title ∧ path = defaultPath place.folder title extension

private theorem exportPath_passes (target : Export) (name : Json) (extension : String) :
    (exportPath target.path name extension).Passes replies fun asked path =>
      Uneventful asked ∧ ∃ place, ⟨.place, place⟩ ∈ asked ∧ target.GoesTo place name extension path := by
  have told : (Action.get .place).Passes replies fun asked place => asked = [⟨.place, place⟩] := by
    rintro made _ ⟨⟩
    rfl
  have quiet (place : Place) : Uneventful [⟨.place, place⟩] := uneventful_single rfl rfl
  unfold exportPath Export.GoesTo
  cases target.path.filter (· != "") with
  | some given =>
    refine Passes.bind told fun asked place only => ?_
    subst only
    dsimp only
    cases expanded : (Path.ofText given).expandHome? place.home with
    | none => exact .throw _
    | some path => exact .pure ⟨quiet place, place, List.mem_singleton_self _, expanded⟩
  | none =>
    refine Passes.bind told fun asked place only => ?_
    subst only
    cases name with
    | str title => exact .pure ⟨quiet place, place, List.mem_singleton_self _, title, rfl, rfl⟩
    | _ => exact .throw _

/-- What an export has when it turns to the files. -/
structure Fetched where
  format : ExportFormat
  name : Json
  octets : List UInt8
  path : Path

structure Fetched.From (target : Export) (asked : List Exchange) (fetched : Fetched) : Prop where
  known : fetched.format ∈ exportFormats
  downloaded : Downloaded asked fetched.octets
  aimed : ∃ place, ⟨.place, place⟩ ∈ asked ∧ target.GoesTo place fetched.name fetched.format.extension fetched.path

theorem Fetched.From.around {target : Export} {before asked after : List Exchange} {fetched : Fetched}
    (origin : fetched.From target asked) (first : Uneventful before) (rest : Uneventful after) :
    fetched.From target (before ++ (asked ++ after)) := by
  obtain ⟨known, downloaded, place, among, goes⟩ := origin
  refine ⟨known, downloaded.around first rest, place, ?_, goes⟩
  exact List.mem_append_right _ (List.mem_append_left _ among)

def Export.fetch (target : Export) (documentId : String) : Action Fetched := do
  authorize "drive" "drive_read"
  let id ← Validation.documentId documentId
  let chosen ← Validation.choice target.format (exportFormats.map ExportFormat.name) "export_format" "pdf"
  let format := (exportFormats.find? fun known => known.name == chosen).getD ⟨chosen, "", ""⟩
  let metadata ← documentMetadata id
  let name ← metadata.memberOr "name" (.str "document")
  let octets ← download (.str id) format.mimeType
  let path ← exportPath target.path name format.extension
  return ⟨format, name, octets, path⟩

private theorem choice_mem {value : Option String} {choices : List String} {name default chosen : String}
    (valid : Validation.choice value choices name default = .ok chosen) : chosen ∈ choices := by
  unfold Validation.choice at valid
  dsimp only at valid
  generalize (if Text.lower (Text.trim (value.getD "")) == "" then default else Text.lower (Text.trim (value.getD ""))) = picked at valid
  split at valid
  · cases valid
  next known =>
    cases valid
    simpa using known

private theorem exists_format {chosen : String} (known : chosen ∈ exportFormats.map ExportFormat.name) :
    ∃ format ∈ exportFormats, (exportFormats.find? fun known => known.name == chosen) = some format := by
  obtain ⟨format, among, rfl⟩ := List.mem_map.mp known
  cases found : exportFormats.find? fun known => known.name == format.name with
  | none => exact absurd (List.find?_eq_none.mp found format among) (by simp)
  | some first => exact ⟨first, List.mem_of_find?_eq_some found, rfl⟩

private theorem fetch_passes (target : Export) (documentId : String) :
    (target.fetch documentId).Passes replies (Fetched.From target) := by
  have kept (look asked : List Exchange) (fetched : Fetched) (quiet : Uneventful look) (origin : fetched.From target asked) :
      fetched.From target (look ++ asked) := by
    have whole := origin.around quiet uneventful_nil
    rwa [List.append_nil] at whole
  unfold Export.fetch
  refine (authorize_smooth _ _).before kept fun _ => (smooth_ofOutcome _).before kept fun id => ?_
  refine Passes.bind (.ofOutcome (fun asked chosen => asked = [] ∧ chosen ∈ exportFormats.map ExportFormat.name)
    fun chosen valid => ⟨rfl, choice_mem valid⟩) fun asked chosen valid => ?_
  obtain ⟨rfl, known⟩ := valid
  obtain ⟨format, among, found⟩ := exists_format known
  rw [found]
  refine (documentMetadata_smooth id).before kept fun metadata => (smooth_ofOutcome _).before kept fun name => ?_
  refine (download_passes _ _).bind fun asked octets downloaded => ?_
  refine (exportPath_passes target name _).bind fun further path aimed => .pure ?_
  obtain ⟨quiet, place, there, goes⟩ := aimed
  rw [List.append_nil]
  refine ⟨among, ?_, place, List.mem_append_right _ (List.mem_append_right _ there), goes⟩
  exact downloaded.around uneventful_nil quiet

def Fetched.report (fetched : Fetched) : String :=
  s!"Exported '{fetched.name.display}' as {fetched.format.name} to {fetched.path.toText} ({Text.grouped fetched.octets.length} bytes)"

def Fetched.deliver (fetched : Fetched) : Action String := do
  Rehearsal.FileService.writeWithin fetched.path.parent fetched.path.toText fetched.octets
  return fetched.report

theorem Export.save_eq (target : Export) (documentId : String) :
    target.save documentId = target.fetch documentId >>= Fetched.deliver := by
  have named (chosen : String) :
      ((exportFormats.find? fun known => known.name == chosen).getD ⟨chosen, "", ""⟩).name = chosen := by
    cases found : exportFormats.find? fun known => known.name == chosen with
    | none => rfl
    | some format => simpa using List.find?_some found
  unfold save fetch
  rw [bind_assoc]
  refine bind_congr fun _ => ?_
  rw [bind_assoc]
  refine bind_congr fun id => ?_
  rw [bind_assoc]
  refine bind_congr fun chosen => ?_
  have same := named chosen
  generalize (exportFormats.find? fun known => known.name == chosen).getD ⟨chosen, "", ""⟩ = format at same ⊢
  subst same
  simp only [bind_assoc, pure_bind, Fetched.deliver, Rehearsal.FileService.writeWithin]
  rfl

section Files
variable {service : Rehearsal.FileService} {made : Nat} {files : Rehearsal.FileTree}
open Rehearsal FileService

private theorem deliver_asks (fetched : Fetched) : Program.Asks (·.isAboutFiles) fetched.deliver.run :=
  Asks.andThen (writeWithin_asks ..) fun _ => .pure

private theorem deliver_unbroken (fetched : Fetched) : service.Settles fetched.deliver.run Unbroken := by
  unfold Fetched.deliver
  rw [ExceptT.run_bind]
  refine Settles.bind (writeWithin_unbroken _ _ _) fun written unbroken => ?_
  cases written with
  | error fault => exact settles_pure fun message same => unbroken message (by cases same; rfl)
  | ok _ => exact settles_pure (unbroken_ok _)

private theorem deliver_saves {fetched : Fetched} {report : String}
    (ended : (service.run made files fetched.deliver.run).value = .ok report) :
    report = fetched.report ∧
      (service.run made files fetched.deliver.run).files.read service.folder fetched.path.toText = .ok fetched.octets := by
  have told := writeWithin_told fetched.path.parent fetched.path.toText fetched.octets service made files
  unfold Fetched.deliver at ended ⊢
  cases written : service.run made files (writeWithin fetched.path.parent fetched.path.toText fetched.octets).run with
  | mk asked value after =>
    rw [written] at told
    cases value with
    | error fault =>
      rw [run_stopped written] at ended
      cases ended
    | ok _ =>
      rw [run_andThen written] at ended ⊢
      cases ended
      exact ⟨rfl, told.saved rfl⟩

private theorem uneventful_files {asked : List Exchange} (local_ : ∀ exchange ∈ asked, exchange.question.isAboutFiles = true) :
    Uneventful asked := by
  constructor
  · intro exchange among
    obtain ⟨question, reply⟩ := exchange
    have own := local_ _ among
    cases question <;> first | rfl | cases own
  · refine List.filterMap_eq_nil_iff.mpr fun exchange among => ?_
    obtain ⟨question, reply⟩ := exchange
    have own := local_ _ among
    cases question <;> first | rfl | cases own

/-- What one try of an export leaves behind. -/
structure Tried (service : FileService) (target : Export) (before : FileTree) (attempt : Record (Outcome String)) : Prop where
  unpaused : ∀ exchange ∈ attempt.asked, exchange.question.isPause = false
  broken : ∀ message, attempt.value = .error (.secureChannel message) → attempt.files = before
  refused : ∀ exchange ∈ attempt.asked, exchange.isRefused = true →
    (∃ fault, attempt.value = .error fault) ∧ attempt.files = before
  saved : ∀ report, attempt.value = .ok report → ∃ fetched : Fetched, fetched.From target attempt.asked ∧
    report = fetched.report ∧ attempt.files.read service.folder fetched.path.toText = .ok fetched.octets

/-- Neither about files nor a pause. -/
def IsRemote (question : Request) : Prop := question.isAboutFiles = false ∧ question.isPause = false

private theorem documentMetadata_asks (documentId : String) : Program.Asks IsRemote (documentMetadata documentId).run := by
  unfold documentMetadata
  refine Asks.andThen (.ask ⟨rfl, rfl⟩ fun _ => .pure) fun metadata => Asks.andThen .pure fun mimeType => ?_
  dsimp only
  split
  · exact Asks.andThen .pure fun name => Asks.andThen .pure fun _ => .pure
  · exact .pure

private theorem chunksFrom_asks (fileId : Identifier) (mimeType : String) (left : Nat) :
    Program.Asks IsRemote (chunksFrom fileId mimeType left).run := by
  induction left with
  | zero => exact .pure
  | succ left ih =>
    rw [chunksFrom_succ]
    refine .ask ⟨rfl, rfl⟩ fun reply => ?_
    split
    · exact .pure
    · split
      · exact .pure
      · exact ih.bind fun later => .pure

private theorem exportPath_asks (path : Option String) (name : Json) (extension : String) :
    Program.Asks IsRemote (exportPath path name extension).run := by
  unfold exportPath
  cases path.filter (· != "") with
  | some given =>
    refine Asks.andThen (.ask ⟨rfl, rfl⟩ fun place => .pure) fun place => ?_
    split
    · exact .pure
    · exact .pure
  | none =>
    refine Asks.andThen (.ask ⟨rfl, rfl⟩ fun place => .pure) fun place => ?_
    cases name <;> exact .pure

private theorem fetch_asks (target : Export) (documentId : String) : Program.Asks IsRemote (target.fetch documentId).run := by
  unfold Export.fetch
  refine Asks.andThen (.ask ⟨rfl, rfl⟩ fun _ => .pure) fun _ => Asks.andThen .pure fun id => Asks.andThen .pure fun chosen => ?_
  refine Asks.andThen (documentMetadata_asks id) fun metadata => Asks.andThen .pure fun name => ?_
  refine Asks.andThen (Asks.andThen (.ask ⟨rfl, rfl⟩ fun _ => .pure) (chunksFrom_asks _ _)) fun octets => ?_
  exact Asks.andThen (exportPath_asks ..) fun path => .pure

variable (service made files) in
private theorem save_tried (target : Export) (documentId : String) :
    Tried service target files (service.run made files (target.save documentId).run) := by
  rw [Export.save_eq]
  have asks := fetch_asks target documentId
  have fetched := run_elsewhere service made files (asks.mono fun _ fine => fine.1)
  have unpaused := run_asks service made files (asks.mono fun _ fine => fine.2)
  rw [fetched] at unpaused
  cases outcome : (target.fetch documentId).run.result service.elsewhere made with
  | error fault =>
    rw [outcome] at fetched
    rw [run_stopped fetched]
    exact ⟨unpaused, fun _ _ => rfl, fun _ _ _ => ⟨⟨fault, rfl⟩, rfl⟩, fun _ impossible => nomatch impossible⟩
  | ok result =>
    rw [outcome] at fetched
    rw [run_andThen fetched]
    have origin := fetch_passes target documentId made result outcome
    generalize (target.fetch documentId).run.exchanges service.elsewhere made = asked at *
    have about := run_asks service (made + asked.length) files (deliver_asks result)
    have quiet := uneventful_files about
    refine ⟨?_, fun message same => absurd same ?_, ?_, fun report ended => ?_⟩
    · refine List.forall_mem_append.mpr ⟨unpaused, fun exchange among => ?_⟩
      have own := about exchange among
      cases kind : exchange.question <;> first | rfl | (rw [kind] at own; cases own)
    · exact deliver_unbroken result _ _ message
    · intro exchange among refused
      have smooth := (origin.around uneventful_nil quiet).downloaded.smooth exchange among
      rw [refused] at smooth
      cases smooth
    · obtain ⟨same, held⟩ := deliver_saves ended
      exact ⟨result, origin.around uneventful_nil quiet, same, held⟩

end Files

section Tries
variable {service : Rehearsal.FileService}
open Rehearsal FileService

/-- The exchanges behind the last pause. -/
structure IsLastTry (asked last : List Exchange) : Prop where
  unpaused : ∀ exchange ∈ last, exchange.question.isPause = false
  behind : asked = last ∨ ∃ front seconds, asked = front ++ ⟨.pause seconds, ()⟩ :: last

theorem IsLastTry.after {asked last : List Exchange} (isLast : IsLastTry asked last) (front : List Exchange) (seconds : Nat) :
    IsLastTry (front ++ ⟨.pause seconds, ()⟩ :: asked) last := by
  refine ⟨isLast.unpaused, .inr ?_⟩
  rcases isLast.behind with rfl | ⟨middle, other, rfl⟩
  · exact ⟨front, seconds, rfl⟩
  · exact ⟨front ++ ⟨.pause seconds, ()⟩ :: middle, other, by simp⟩

variable {body : Action α} {made left tries : Nat} {before : FileTree}

private theorem runFrom_ends (guard : Guard) (tries : Nat) (final : left = 0 ∨ Unbroken (service.run made before body.run).value) :
    let run := service.run made before (guard.runFrom body left tries)
    let last := service.run made before body.run
    run.asked = last.asked ∧ run.files = last.files ∧ ∀ value, run.value = .ok value ↔ last.value = .ok value := by
  unfold Guard.runFrom
  rw [run_bind]
  generalize service.run made before body.run = attempt at final
  obtain ⟨asked, outcome, files⟩ := attempt
  dsimp only
  have whole : asked ++ [] = asked := List.append_nil asked
  cases outcome with
  | ok value => exact ⟨whole, rfl, fun _ => Iff.rfl⟩
  | error fault =>
    have apart {told : Fault} (value : α) : (.error told : Outcome α) = .ok value ↔ (.error fault : Outcome α) = .ok value :=
      iff_of_false (fun same => nomatch same) (fun same => nomatch same)
    cases fault with
    | secureChannel message =>
      rcases final with rfl | unbroken
      · exact ⟨whole, rfl, apart⟩
      · exact absurd rfl (unbroken message)
    | _ => exact ⟨whole, rfl, apart⟩

private theorem runFrom_resumes (guard : Guard) (left tries : Nat) {message : String}
    (broken : (service.run made before body.run).value = .error (.secureChannel message)) :
    let run := service.run made before (guard.runFrom body (left + 1) tries)
    let first := service.run made before body.run
    ∃ seconds next, let rest := service.run next first.files (guard.runFrom body left (tries + 1))
      run.asked = first.asked ++ ⟨.pause seconds, ()⟩ :: rest.asked ∧ run.files = rest.files ∧ run.value = rest.value := by
  rw [Guard.runFrom, run_bind]
  generalize service.run made before body.run = attempt at broken
  obtain ⟨asked, outcome, files⟩ := attempt
  obtain rfl : outcome = _ := broken
  exact ⟨_, _, rfl, rfl, rfl⟩

/-- When a try that broke leaves the files as they were, only the last try counts. -/
theorem runFrom_lastTry (guard : Guard)
    (unpaused : ∀ made, ∀ exchange ∈ (service.run made before body.run).asked, exchange.question.isPause = false)
    (broken : ∀ made message, (service.run made before body.run).value = .error (.secureChannel message) →
      (service.run made before body.run).files = before)
    (left tries made : Nat) :
    ∃ start, let run := service.run made before (guard.runFrom body left tries)
      let last := service.run start before body.run
      IsLastTry run.asked last.asked ∧ run.files = last.files ∧
        (∀ value, run.value = .ok value ↔ last.value = .ok value) := by
  have ends {left tries made : Nat} (final : left = 0 ∨ Unbroken (service.run made before body.run).value) :
      ∃ start, let run := service.run made before (guard.runFrom body left tries)
        let last := service.run start before body.run
        IsLastTry run.asked last.asked ∧ run.files = last.files ∧
          (∀ value, run.value = .ok value ↔ last.value = .ok value) := by
    obtain ⟨asked, files, value⟩ := runFrom_ends guard tries final
    exact ⟨made, ⟨unpaused made, .inl asked⟩, files, value⟩
  induction left generalizing tries made with
  | zero => exact ends (.inl rfl)
  | succ left ih =>
    by_cases unbroken : Unbroken (service.run made before body.run).value
    · exact ends (.inr unbroken)
    · obtain ⟨message, broke⟩ : ∃ message, (service.run made before body.run).value = .error (.secureChannel message) := by
        simpa [Unbroken] using unbroken
      obtain ⟨seconds, next, asked, files, value⟩ := runFrom_resumes guard left tries broke
      rw [broken made message broke] at asked files value
      obtain ⟨start, isLast, same, told⟩ := ih (tries + 1) next
      refine ⟨start, ?_, files.trans same, fun outcome => ?_⟩
      · rw [asked]
        exact isLast.after _ seconds
      · rw [value]
        exact told outcome

end Tries

/-- Without its commas a grouped number is the number. -/
theorem grouped_digits (n : Nat) : (Text.grouped n).toList.filter (· != ',') = Nat.toDigits 10 n := by
  have group (digits : List Char) : (Text.grouped.group digits).filter (· != ',') = digits.filter (· != ',') := by
    fun_induction Text.grouped.group digits with
    | case1 a b c d rest ih => simp only [List.filter_cons, ih, bne_self_eq_false, Bool.false_eq_true, if_false]
    | case2 digits short => rfl
  have spelled : (toString n).toList = Nat.toDigits 10 n := String.toList_ofList
  rw [Text.grouped, String.toList_ofList, List.filter_reverse, group, ← List.filter_reverse, List.reverse_reverse, spelled]
  refine List.filter_eq_self.mpr fun c among => ?_
  have digit := Nat.isDigit_of_mem_toDigits (by decide) (by decide) among
  simp only [bne_iff_ne, ne_eq]
  rintro rfl
  cases digit

open Rehearsal in
/-- What an export reports stands in the file: the parts of the last try up to the one that was the last, and their length.
If a service refuses in the last try the export fails, and the files are as they were before the first. -/
theorem exportDocument_exact (service : FileService) (target : Export) (documentId : String) (made : Nat) (files : FileTree) :
    let run := service.run made files (exportDocument documentId target).run
    ∃ last, IsLastTry run.asked last ∧
      (∀ report, run.value = .ok report → ∃ format ∈ exportFormats, ∃ (name : Json) (path : Path) (octets : List UInt8) (size : String),
        (∃ parts final, chunksIn last = parts ++ [final] ∧ (∀ part ∈ parts, part.done = false) ∧ final.done = true) ∧
        octets = (chunksIn last).flatMap Chunk.octets ∧
        (∃ place, ⟨.place, place⟩ ∈ last ∧ target.GoesTo place name format.extension path) ∧
        run.files.read service.folder path.toText = .ok octets ∧
        report = s!"Exported '{name.display}' as {format.name} to {path.toText} ({size} bytes)" ∧
        size.toList.filter (· != ',') = Nat.toDigits 10 octets.length) ∧
      ((∃ exchange ∈ last, exchange.isRefused = true) → (∃ fault, run.value = .error fault) ∧ run.files = files) := by
  intro run
  have tried (made : Nat) := save_tried service made files target documentId
  obtain ⟨start, isLast, same, told⟩ := runFrom_lastTry
    { tool := "export_doc", isReadOnly := true, documentId := .str documentId }
    (fun made => (tried made).unpaused) (fun made => (tried made).broken) Guard.maxRetries 0 made
  refine ⟨_, isLast, fun report ended => ?_, fun ⟨exchange, among, refused⟩ => ?_⟩
  · obtain ⟨fetched, ⟨known, downloaded, aimed⟩, spelled, held⟩ := (tried start).saved report ((told report).mp ended)
    refine ⟨fetched.format, known, fetched.name, fetched.path, fetched.octets, Text.grouped fetched.octets.length,
      downloaded.ended, downloaded.joined, aimed, ?_, spelled, grouped_digits _⟩
    exact same ▸ held
  · obtain ⟨⟨fault, failed⟩, kept⟩ := (tried start).refused exchange among refused
    refine ⟨?_, same.trans kept⟩
    cases ended : run.value with
    | error fault => exact ⟨fault, rfl⟩
    | ok value =>
      have impossible := failed.symm.trans ((told value).mp ended)
      cases impossible

/-- Replies by which the first try of a download breaks behind its first part. -/
def brokenDownload : Replies := fun made question =>
  match question with
  | .openDownload .. => 8
  | .nextChunk .. =>
    if made = 4 then .error (.secureChannel "closed")
    else if made = 3 ∨ made = 9 then .ok ⟨[0xff], false⟩
    else .ok ⟨[0x80], true⟩
  | .call (.getFile _) => .ok (.obj [("mimeType", .str documentMimeType), ("name", .str "a")])
  | .place => ⟨"/", "/"⟩
  | question => (Rehearsal.World.answer {} question).1

/-- The part that came before the connection broke comes again, and stands in the file once. -/
theorem exportDocument_exact_brokenDownload :
    let run := (⟨[], brokenDownload⟩ : Rehearsal.FileService).run 0 {} (exportDocument "d" {}).run
    run.value.toOption = some "Exported 'a' as pdf to /a.pdf (2 bytes)" ∧
    ((chunksIn run.asked).map Chunk.octets = [[0xff], [0xff], [0x80]]) ∧
    ∃ last, IsLastTry run.asked last ∧ ∃ path : Path,
      run.files.read [] path.toText = .ok ((chunksIn last).flatMap Chunk.octets) := by
  intro run
  have told : run.value.toOption = some "Exported 'a' as pdf to /a.pdf (2 bytes)" := by decide +kernel
  refine ⟨told, by decide +kernel, ?_⟩
  obtain ⟨last, isLast, saved, -⟩ := exportDocument_exact ⟨[], brokenDownload⟩ {} "d" 0 {}
  obtain ⟨format, -, name, path, octets, size, -, rfl, -, held, -⟩ := saved _ (ok_of_toOption told)
  exact ⟨last, isLast, path, held⟩

end Tools
end DocScribe
