import DocScribe.Proofs.Docs.BoundedTables
import DocScribe.Proofs.Docs.TemporaryUploads
import DocScribe.Proofs.Tools.StoppedWrites

/-! The tools that write, where no service fails: every table lands inside the body, and no tool reports a position
outside of the document or a change that stopped on the way. -/

namespace DocScribe.Tools
open Docs Service DocScribe.Action
open Program (FairlyLeads)

def shownDocument? : Exchange → Option Json
  | ⟨.call (.getDocument _ _), .ok document⟩ => some document
  | _ => none

/-- The document as it was shown first. -/
def firstShown? (asked : List Exchange) : Option Json := asked.findSome? shownDocument?

private theorem shownDocument?_local {exchange : Exchange} (isLocal : exchange.question.isCall = false) : shownDocument? exchange = none := by
  obtain ⟨question, reply⟩ := exchange
  cases question with
  | call => cases isLocal
  | _ => rfl

/-- Text goes to where it belongs in a document that ends at `stop`. -/
structure AimsAt (append : Bool) (stop : Int) (target : WriteTarget) : Prop where
  base : target.baseIndex = (placement append stop).1
  preamble : target.preamble = (placement append stop).2.1
  stop : target.endIndex = some (placement append stop).2.2

section Steps
variable {allowed : Request → Prop}

private theorem authorize_calm {service scopes : String} (fine : allowed (.authorize service scopes)) :
    (authorize service scopes).Calm allowed := by
  refine Program.calm_ask fine fun reply fair => Program.calm_pure ?_
  cases reply with
  | ok value => exact spares_ok value
  | error fault => cases fair.whole

private theorem fileContent_calm (file : String) : (fileContent file).Calm (·.isCall = false) := by
  have text (path : String) : (Files.readText path).Calm (·.isCall = false) := by
    refine (calm_readOctets (by rfl)).bind fun octets => ?_
    split
    · exact calm_pure _
    · exact calm_throw rfl
  have home : (Files.userPath file).Calm (·.isCall = false) := by
    refine (calm_place (by rfl)).bind fun place => ?_
    split
    · exact calm_pure _
    · exact calm_throw rfl
  refine home.bind fun path => (calm_isFile (by rfl)).bind fun isThere => ?_
  split
  · exact (calm_throw rfl).bind fun _ => text _
  · exact text _

private theorem contentOf_calm (content file : Option String) : (contentOf content file).Calm (·.isCall = false) := by
  have body : Action.Calm (if file.getD "" != "" then fileContent (file.getD "") else pure (content.getD ""))
      (·.isCall = false) := by
    split
    · exact fileContent_calm _
    · exact calm_pure _
  unfold contentOf
  dsimp only
  split
  · exact (calm_throw rfl).bind fun _ => body
  · exact body

private theorem nonEmpty_spares (value : Option String) (name : String) : Spares (Validation.nonEmpty value name) := by
  unfold Validation.nonEmpty
  dsimp only
  split
  · exact spares_throw rfl
  · exact spares_pure _

private theorem documentId_spares (id : String) : Spares (Validation.documentId id) := by
  unfold Validation.documentId
  dsimp only
  split
  · exact spares_throw rfl
  · split
    · exact spares_throw rfl
    · split
      · exact spares_throw rfl
      · exact spares_pure _

private theorem choice_spares (value : Option String) (choices : List String) (name default : String) :
    Spares (Validation.choice value choices name default) := by
  unfold Validation.choice
  dsimp only
  generalize (if Text.lower (Text.trim (value.getD "")) == "" then default else _) = chosen
  split
  · exact spares_error rfl
  · exact spares_pure _

private theorem isTableless_of_local (question : Request) (isLocal : question.isCall = false) : question.IsTableless := by
  cases question with
  | call => cases isLocal
  | _ => trivial

end Steps

section Runs
variable {ends : List Exchange → Outcome α → Prop}

theorem Guard.report_mild (guard : Guard) {fault : Fault} (mild : fault.isUnfinished = false) :
    (guard.report fault).isUnfinished = false := by
  unfold Guard.report
  split
  · exact mild
  · split
    · unfold explain
      split <;> rfl
    · rfl

private theorem run_fairly {guard : Guard} (once : guard.isReadOnly = false) {body : Action α} (leads : body.run.FairlyLeads ends) :
    (guard.run body).run.FairlyLeads fun asked told => ∃ own, ends asked own ∧ (Spares own → Spares told) := by
  have single : (guard.run body).run = guard.runFrom body 0 0 := by
    rw [Guard.run, once]
    rfl
  rw [single]
  unfold Guard.runFrom
  refine FairlyLeads.bind leads fun asked own done => ?_
  rw [← List.append_nil asked] at done
  split
  · exact .pure ⟨_, done, id⟩
  · exact .pure ⟨_, done, fun _ => spares_error rfl⟩
  · exact .pure ⟨_, done, fun spares => spares_error (guard.report_mild (spares _ rfl))⟩

end Runs

section Tools

/-- A text is written to a target of a kind. -/
def WritesTo (aims : WriteTarget → Prop) (asked : List Exchange) : Prop :=
  ∃ target markdown, aims target ∧ Writes target markdown asked

theorem writesTo_steady (aims : WriteTarget → Prop) : Steady (WritesTo aims) := by
  rintro look asked rest quiet ⟨target, markdown, aimed, writes⟩ silent
  exact ⟨target, markdown, aimed, writes_steady target markdown look asked rest quiet writes silent⟩

private theorem make_bounds (document : NewDocument) : Bounds document.make (WritesTo (AimsAt true emptyDocumentEnd)) := by
  have steady := writesTo_steady (AimsAt true emptyDocumentEnd)
  unfold NewDocument.make
  refine .behind steady (authorize_calm trivial) fun _ => .behind steady (authorize_calm trivial) fun _ =>
    .behind steady (calm_ofOutcome (nonEmpty_spares _ _)) fun title =>
    .behind steady (Action.Calm.mono (contentOf_calm _ _) isTableless_of_local) fun body => ?_
  dsimp only
  refine .behind steady (calm_call trivial rfl) fun created =>
    .behind steady (calm_ofOutcome (created.required_spares _)) fun id =>
    .behind steady (calm_ofOutcome (created.member_spares _)) fun given => ?_
  generalize (if given.truthy = true then _ else _) = link
  split
  · exact bounds_of_calm (calm_pure _)
  · split
    · refine .behind steady (calm_settings trivial) fun settings => ?_
      refine .andThen steady (Bounds.mono (WriteTarget.write_bounds rfl ?_ ?_ rfl body) ?_) fun report => calm_pure _
      · exact Int.le_refl 1
      · exact (by decide : (1 : Int) ≤ emptyDocumentEnd)
      · exact fun asked writes => ⟨_, body, ⟨rfl, rfl, rfl⟩, writes⟩
    · refine bounds_of_calm ((calm_call ?_ rfl).bind fun _ => calm_pure _)
      rfl

private theorem placement_inside (append : Bool) {stop : Int} (positive : 1 ≤ stop) :
    1 ≤ (placement append stop).1 ∧ (placement append stop).1 ≤ (placement append stop).2.2 ∧
      (placement append stop).2.1.any Edit.isTable = false := by
  cases append with
  | true =>
    refine ⟨Int.le_max_right _ _, ?_, rfl⟩
    simp only [placement, ↓reduceIte]
    omega
  | false =>
    refine ⟨Int.le_refl 1, ?_, ?_⟩
    · simp only [placement, emptyDocumentEnd, Bool.false_eq_true, ↓reduceIte]
      omega
    · simp only [placement, Bool.false_eq_true, ↓reduceIte]
      split <;> rfl

private theorem bounds_ofOutcome {outcome : Outcome α} {value : α} (done : outcome = .ok value) {next : α → Action β}
    {inside : List Exchange → Prop} (rest : Bounds (next value) inside) : Bounds (Action.ofOutcome outcome >>= next) inside := by
  rw [done]
  exact rest

namespace WritingTool

/-- A document that is updated is shown first with an end behind its start. -/
def ShownWhole (asked : List Exchange) : WritingTool → Prop
  | .create _ => True
  | .update .. => ∀ document ∈ firstShown? asked, ∃ stop : Int, documentEnd document = .ok (.int stop) ∧ 1 ≤ stop

/-- Where a text is to go: into a new document as if behind what it holds, and else to where it belongs in the document
as it was shown first. -/
def Aims (asked : List Exchange) : WritingTool → WriteTarget → Prop
  | .create _ => AimsAt true emptyDocumentEnd
  | .update _ content => fun target =>
    ∃ document ∈ firstShown? asked, ∃ stop : Int, documentEnd document = .ok (.int stop) ∧ AimsAt content.append stop target

def Bounded (tool : WritingTool) (asked : List Exchange) (told : Outcome String) : Prop :=
  tool.ShownWhole asked → (Tableless asked ∨ WritesTo (tool.Aims asked) asked) ∧ Spares told

private theorem bounded_ignores (documentId : String) (content : Update) :
    Ignores (WritingTool.update documentId content).Bounded (·.isCall = false) where
  failed := by
    intro asked fault locals mild _
    exact ⟨.inl fun exchange among => isTableless_of_local _ (locals exchange among), spares_error mild⟩
  before := by
    intro look asked told locals bounded whole
    have same : firstShown? (look ++ asked) = firstShown? asked := by
      rw [firstShown?, List.findSome?_append, List.findSome?_eq_none_iff.mpr fun exchange among => shownDocument?_local (locals exchange among)]
      rfl
    have quiet : Tableless look := fun exchange among => isTableless_of_local _ (locals exchange among)
    unfold ShownWhole at whole
    rw [same] at whole
    obtain ⟨holds, spares⟩ := bounded whole
    refine ⟨holds.imp quiet.append fun writes => ?_, spares⟩
    have writes := writesTo_steady _ look asked [] quiet writes tableless_nil
    rw [List.append_nil] at writes
    unfold Aims at writes ⊢
    rwa [same]

end WritingTool

/-- An update looks at its document, and goes on from where that ends. -/
theorem bounded_of_shown {documentId : String} {content : Update} {id : Identifier} {view : DocumentView}
    {next : Json → Action String}
    (rest : ∀ document stop, documentEnd document = .ok (.int stop) → 1 ≤ stop →
      Bounds (next document) (WritesTo (AimsAt content.append stop))) :
    (Action.call (.getDocument id view) >>= next).run.FairlyLeads (WritingTool.update documentId content).Bounded := by
  refine FairlyLeads.ask fun reply fair => ?_
  cases reply with
  | error fault => cases fair.whole
  | ok document =>
    intro replies made others whole
    obtain ⟨stop, ends, positive⟩ := whole document rfl
    obtain ⟨holds, spares⟩ := rest document stop ends positive replies made others
    have quiet : Tableless [⟨.call (.getDocument id view), .ok document⟩] := List.forall_mem_singleton.mpr trivial
    refine ⟨holds.imp quiet.append ?_, spares⟩
    rintro ⟨target, markdown, aimed, writes⟩
    have writes := writes_steady target markdown _ _ [] quiet writes tableless_nil
    rw [List.append_nil] at writes
    exact ⟨target, markdown, ⟨document, rfl, stop, ends, aimed⟩, writes⟩

private theorem enter_bounded (documentId : String) (content : Update) (id format text : String) :
    (content.enter id format text).run.FairlyLeads (WritingTool.update documentId content).Bounded := by
  unfold Update.enter
  refine bounded_of_shown fun document stop ends positive => ?_
  obtain ⟨front, back, plain⟩ := placement_inside content.append positive
  have steady := writesTo_steady (AimsAt content.append stop)
  refine bounds_ofOutcome ends (bounds_ofOutcome (show endNumber content.append (.int stop) = .ok stop from rfl) ?_)
  dsimp only
  split
  · refine .behind steady (calm_settings trivial) fun settings => ?_
    refine .andThen steady (Bounds.mono (WriteTarget.write_bounds rfl front back plain text) ?_) fun report => calm_pure _
    exact fun asked writes => ⟨_, text, ⟨rfl, rfl, rfl⟩, writes⟩
  · refine bounds_of_calm ((calm_call ?_ rfl).bind fun _ => calm_pure _)
    change List.any _ _ = false
    rw [List.any_append, plain]
    rfl

private theorem update_bounded (documentId : String) (content : Update) :
    (content.write documentId).run.FairlyLeads (WritingTool.update documentId content).Bounded := by
  have ignores := WritingTool.bounded_ignores documentId content
  rw [Update.write_eq]
  refine Action.Calm.before (authorize_calm (by rfl)) ignores fun _ => Action.Calm.before (authorize_calm (by rfl)) ignores fun _ =>
    Action.Calm.before (calm_ofOutcome (documentId_spares _)) ignores fun id =>
    Action.Calm.before (calm_ofOutcome (choice_spares _ _ _ _)) ignores fun format =>
    Action.Calm.before (contentOf_calm _ _) ignores fun text => ?_
  dsimp only
  split
  · exact Action.Calm.before (calm_throw rfl) ignores fun _ => enter_bounded documentId content id format text
  · exact enter_bounded documentId content id format text

/-- Where no service fails, no tool that writes reports a position outside of the document or a change that stopped on
the way. All its tables are put in, each at a place in the body, whatever the document is shown to be after the text. -/
theorem writing_bounded (tool : WritingTool) (replies : Replies)
    (fair : ∀ exchange ∈ tool.action.run.exchanges replies 0, exchange.IsFair)
    (whole : tool.ShownWhole (tool.action.run.exchanges replies 0)) :
    (Tableless (tool.action.run.exchanges replies 0) ∨
      WritesTo (tool.Aims (tool.action.run.exchanges replies 0)) (tool.action.run.exchanges replies 0)) ∧
    Spares (tool.action.run.result replies 0) := by
  have leads : tool.action.run.FairlyLeads fun asked told => ∃ own, tool.Bounded asked own ∧ (Spares own → Spares told) := by
    cases tool with
    | create document =>
      refine run_fairly rfl (FairlyLeads.mono (make_bounds document) ?_)
      exact fun asked told ends _ => ends
    | update documentId content => exact run_fairly rfl (update_bounded documentId content)
  obtain ⟨own, bounded, kept⟩ := leads replies 0 fair
  obtain ⟨holds, spares⟩ := bounded whole
  exact ⟨holds, kept spares⟩

/-- Replies for a document that has nothing in it at first, and is shown longer than it can be later. -/
def vacantReplies : Replies := fun made question =>
  match question with
  | .call (.getDocument ..) =>
    .ok (.obj [("body", .obj [("content", .arr [.obj [("endIndex", .int (if made = 2 then 1 else 50))]])])])
  | .call (.editDocument ..) => .ok .null
  | question => (Rehearsal.World.answer {} question).1

/-- Two tables go in behind the only unit of a body. -/
theorem writing_bounded_vacantDocument :
    let tool := WritingTool.update "d"
      { content := some "| a |\n| - |\n\n| b |\n| - |", format := some "markdown", append := true }
    let asked := tool.action.run.exchanges vacantReplies 0
    WritesTo (tool.Aims asked) asked ∧ Spares (tool.action.run.result vacantReplies 0) := by
  intro tool asked
  have tables : ¬Tableless asked := by decide +kernel
  have ends : ((firstShown? asked).bind fun document => (documentEnd document).toOption).bind Json.int? = some 1 := by
    decide +kernel
  have whole : tool.ShownWhole asked := by
    intro document shown
    rw [Option.mem_def.mp shown, Option.bind_some] at ends
    obtain ⟨stop, found, same⟩ := Option.bind_eq_some_iff.mp ends
    cases stop with
    | int =>
      cases same
      exact ⟨1, ok_of_toOption found, Int.le_refl 1⟩
    | _ => cases same
  obtain ⟨holds, spares⟩ := writing_bounded tool vacantReplies (by decide +kernel) whole
  exact ⟨holds.resolve_left tables, spares⟩

end Tools

end DocScribe.Tools
