import DocScribe.Proofs.Docs.PromptPictures
import DocScribe.Rehearsal.World
import DocScribe.Tools.Write

/-! A tool that writes stops at the first call that fails: nothing is tried again, nothing further is
written, and what was uploaded for the pictures is deleted. -/

namespace DocScribe.Tools
open Docs Service Program DocScribe.Action

private theorem fileContent_prompt (file : String) : (fileContent file).Prompt := by
  have text (path : String) : (Files.readText path).Prompt := by
    refine (readOctets_prompt path).bind fun octets => ?_
    split
    · exact prompt_pure _
    · exact prompt_throw _
  unfold fileContent
  refine Prompt.bind ?_ fun path => (isFile_prompt _).bind fun isThere => ?_
  · refine (prompt_local isLocal_place prompt_pure).bind fun place => ?_
    split
    · exact prompt_pure _
    · exact prompt_throw _
  · cases isThere with
    | true => exact text _
    | false => exact (prompt_throw _).bind fun _ => text _

private theorem contentOf_prompt (content file : Option String) : (contentOf content file).Prompt := by
  unfold contentOf
  dsimp only
  split
  · refine (prompt_throw _).bind fun _ => ?_
    split
    · exact fileContent_prompt _
    · exact prompt_pure _
  · split
    · exact fileContent_prompt _
    · exact prompt_pure _

private theorem authorize_prompt (service scopes : String) : (authorize service scopes).Prompt := by
  refine prompt_ask rfl (fun _ => rfl) (fun reply failed => ?_) fun reply _ => prompt_ofOutcome reply
  cases reply with
  | ok value => cases failed
  | error fault => exact ⟨fault, rfl⟩

private theorem run_tidy (guard : Guard) (once : guard.isReadOnly = false) {body : Action α} (tidy : body.Tidy) :
    (guard.run body).Tidy := by
  have single : guard.run body = ExceptT.mk (guard.runFrom body 0 0) := by
    rw [Guard.run, once]
    rfl
  rw [single]
  unfold Guard.runFrom
  refine tidy.finish ?_ ?_
  · intro fault
    cases fault <;> exact ⟨_, rfl⟩
  · intro outcome
    cases outcome with
    | ok value => exact ⟨_, rfl⟩
    | error fault => cases fault <;> exact ⟨_, rfl⟩

private theorem settings_prompt : Action.settings.Prompt :=
  prompt_local ⟨rfl, fun _ => ⟨rfl, rfl⟩⟩ prompt_ofOutcome

private theorem createDocument_tidy (document : NewDocument) : (createDocument document).Tidy := by
  refine run_tidy _ rfl ?_
  unfold NewDocument.make
  refine (authorize_prompt ..).before fun _ => (authorize_prompt ..).before fun _ =>
    (prompt_ofOutcome _).before fun title => (contentOf_prompt ..).before fun body =>
    (prompt_call rfl fun _ => rfl).before fun created => (prompt_ofOutcome _).before fun id =>
    (prompt_ofOutcome _).before fun given => ?_
  dsimp only
  generalize (if given.truthy = true then _ else _) = link
  split
  · exact (prompt_pure _).tidy
  · split
    · refine settings_prompt.before fun settings => ?_
      exact (write_tidy ..).andThen fun report => ⟨_, rfl⟩
    · exact (editDocument_prompt _ _).before fun _ => (prompt_pure _).tidy

/-- What is left of an update when its arguments are found valid. -/
def Update.enter (update : Update) (id format text : String) : Action String := do
  let document ← Action.call (.getDocument (.str id) .body)
  let stop ← endNumber update.append (← documentEnd document)
  let place := placement update.append stop
  let detail ←
    if format == "markdown" then do
      let settings ← Action.settings
      let target : WriteTarget :=
        { documentId := .str id, baseIndex := place.1, endIndex := some place.2.2, preamble := place.2.1
          markdownPath := update.file, imageFolder := settings.imageFolder }
      let report ← target.write text
      pure report.summary
    else do
      let _ ← Action.call (.editDocument (.str id) (place.2.1 ++ [.insertText place.1 text]))
      pure s!"{text.length} characters of plain text"
  let action := if update.append then "Appended to" else "Updated"
  return s!"{action} document {id}: {detail}. Link: {webLink id}"

theorem Update.write_eq (update : Update) (documentId : String) : update.write documentId = (do
    authorize "docs" "docs_write"
    authorize "drive" "drive_file"
    let id ← Validation.documentId documentId
    let format ← Validation.choice update.format contentFormats "content_format" "plain"
    let text ← contentOf update.content update.file
    if text == "" then throw (.validation "either content or content_file is required")
    update.enter id format text) := rfl

private theorem enter_tidy (update : Update) (id format text : String) : (update.enter id format text).Tidy := by
  unfold Update.enter
  refine (getDocument_prompt ..).before fun document => (prompt_ofOutcome _).before fun last =>
    (prompt_ofOutcome _).before fun stop => ?_
  dsimp only
  split
  · refine settings_prompt.before fun settings => ?_
    exact (write_tidy ..).andThen fun report => ⟨_, rfl⟩
  · exact (editDocument_prompt _ _).before fun _ => (prompt_pure _).tidy

private theorem updateDocument_tidy (documentId : String) (update : Update) :
    (updateDocument documentId update).Tidy := by
  refine run_tidy _ rfl ?_
  rw [Update.write_eq]
  refine (authorize_prompt ..).before fun _ => (authorize_prompt ..).before fun _ =>
    (prompt_ofOutcome _).before fun id => (prompt_ofOutcome _).before fun format =>
    (contentOf_prompt ..).before fun text => ?_
  dsimp only
  split
  · exact (prompt_throw _).before fun _ => enter_tidy update id format text
  · exact enter_tidy update id format text

/-- A tool that writes, with its arguments. -/
inductive WritingTool where
  | create (document : NewDocument)
  | update (documentId : String) (content : Update)

namespace WritingTool

def action : WritingTool → Action String
  | .create document => createDocument document
  | .update documentId content => updateDocument documentId content

private theorem action_tidy (tool : WritingTool) : tool.action.Tidy := by
  cases tool with
  | create document => exact createDocument_tidy document
  | update documentId content => exact updateDocument_tidy documentId content

end WritingTool

/-- A request that fails is the last one, but for the deletions of what was uploaded before it: up to there a run is the one
in which nothing fails. A deletion that fails changes nothing. -/
theorem writing_failsStop (tool : WritingTool) (told : Replies)
    (smooth : ∀ exchange ∈ tool.action.run.exchanges told 0, exchange.isBreak = false) :
    (∀ (other : Replies) (before after : List Exchange) (question : Request) (reply : question.Reply),
      tool.action.run.exchanges told 0 = before ++ ⟨question, reply⟩ :: after →
      (∀ made < before.length, other made = told made) →
      Exchange.isBreak ⟨question, other before.length question⟩ = true →
      ∃ deletions fault,
        tool.action.run.exchanges other 0 =
          before ++ ⟨question, other before.length question⟩ :: deletions ∧
        deletions.map Exchange.question =
          (before.flatMap Exchange.uploads).map (fun fileId => .call (.deleteFile fileId)) ∧
        tool.action.run.result other 0 = .error fault) ∧
    ∀ other : Replies,
      (∀ made question, question.isDeletion = false → other made question = told made question) →
      (tool.action.run.exchanges other 0).map Exchange.question =
          (tool.action.run.exchanges told 0).map Exchange.question ∧
        tool.action.run.result other 0 = tool.action.run.result told 0 := by
  constructor
  · intro other before after question reply asked agree broken
    obtain ⟨left, ⟨fault, rfl⟩, questions, ended⟩ := tool.action_tidy.exchanges_break asked
      (Nat.zero_add _).symm (fun exchange among => smooth exchange (asked ▸ List.mem_append_left _ among))
      agree broken
    refine ⟨_, fault, questions, ?_, ?_⟩
    · exact exchanges_deleteAll ..
    · rw [ended]
      exact result_deleteAll ..
  · intro other agree
    exact tool.action_tidy.exchanges_deletions smooth agree

/-- Replies for a document that shows one marker. -/
def markedReplies : Replies := fun _ question =>
  match question with
  | .call (.getDocument ..) =>
    let run : Json := .obj [("startIndex", .int 1), ("textRun", .obj [("content", .str "[[IMG:0]]\n")])]
    .ok (.obj [("body", .obj [("content", .arr [
      .obj [("endIndex", .int 11), ("paragraph", .obj [("elements", .arr [run])])]])])])
  | .isFile _ => .ok true
  | .readFile _ => .ok []
  | question => (Rehearsal.World.answer {} question).1

/-- The same replies, but for the calls that break. -/
def brokenReplies (breaks : Nat → Call → Bool) : Replies := fun made question =>
  match question with
  | .call call =>
    if breaks made call then .error (.secureChannel "closed") else markedReplies made (.call call)
  | question => markedReplies made question

private theorem brokenReplies_other {breaks : Nat → Call → Bool} {made : Nat} {question : Request}
    (sound : ∀ call, question = .call call → breaks made call = false) :
    brokenReplies breaks made question = markedReplies made question := by
  cases question with
  | call call => simp [brokenReplies, sound call rfl]
  | _ => rfl

/-- The picture of a text is uploaded before the batch that fails, or before its deletion fails. -/
theorem writing_failsStop_uploadedPicture :
    let tool := WritingTool.update "d" { content := some "![](a.png)", format := some "markdown" }
    let whole := tool.action.run.exchanges markedReplies 0
    let unfinished := brokenReplies fun made _ => made == 11
    let undeleted := brokenReplies fun _ call => (Request.call call).isDeletion
    whole.length = 13 ∧
    (∃ deleted fault, deleted.display = "file1" ∧
      (tool.action.run.exchanges unfinished 0).map Exchange.question =
        (whole.take 12).map Exchange.question ++ [.call (.deleteFile deleted)] ∧
      tool.action.run.result unfinished 0 = .error fault) ∧
    tool.action.run.result undeleted 0 = tool.action.run.result markedReplies 0 := by
  intro tool whole unfinished undeleted
  have length : whole.length = 13 := by decide +kernel
  have broken : ∀ reached : 11 < whole.length,
      Exchange.isBreak ⟨whole[11].question, unfinished 11 whole[11].question⟩ = true := by decide +kernel
  have uploaded : ((whole.take 11).flatMap Exchange.uploads).map Json.display = ["file1"] := by
    decide +kernel
  obtain ⟨stopped, same⟩ := writing_failsStop tool markedReplies (by decide +kernel)
  refine ⟨length, ?_, ?_⟩
  · have early : (whole.take 11).length = 11 := by simp [length]
    have asked : whole = whole.take 11 ++ whole[11] :: whole.drop 12 := by
      rw [← List.drop_eq_getElem_cons, List.take_append_drop]
    obtain ⟨deletions, fault, questions, deleted, ended⟩ := stopped unfinished _ _ _ _ asked
      (fun made before => funext fun question => brokenReplies_other fun call _ => by
        rw [early] at before
        simpa using Nat.ne_of_lt before)
      (by rw [early]; exact broken (by omega))
    obtain ⟨fileId, file, named⟩ := List.map_eq_singleton_iff.mp uploaded
    refine ⟨fileId, fault, named, ?_, ended⟩
    have further : whole.take 12 = whole.take 11 ++ [whole[11]] := List.take_succ_eq_append_getElem _
    rw [questions, List.map_append, List.map_cons, deleted, file, further, List.map_append, List.append_assoc]
    rfl
  · refine (same undeleted fun made question kept => brokenReplies_other ?_).2
    rintro call rfl
    exact kept

end DocScribe.Tools
