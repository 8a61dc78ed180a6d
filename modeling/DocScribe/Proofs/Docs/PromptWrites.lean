import DocScribe.Docs.MarkdownWrite
import DocScribe.Proofs.Service.PromptAction

/-! A Markdown text is written promptly: the first call that fails ends the write, and what was uploaded
for its pictures is deleted. -/

namespace DocScribe.Docs
open Service Program DocScribe.Action

theorem isFile_prompt (path : String) : (Files.isFile path).Prompt :=
  prompt_local ⟨rfl, fun _ => ⟨rfl, rfl⟩⟩ prompt_ofOutcome

theorem readOctets_prompt (path : String) : (Files.readOctets path).Prompt :=
  prompt_local ⟨rfl, fun _ => ⟨rfl, rfl⟩⟩ prompt_ofOutcome

theorem getDocument_prompt (documentId : Identifier) (view : DocumentView) :
    (Action.call (.getDocument documentId view)).Prompt :=
  prompt_call rfl fun _ => rfl

theorem editDocument_prompt (documentId : Identifier) (edits : List Edit) :
    (Action.call (.editDocument documentId edits)).Prompt :=
  prompt_call rfl fun _ => rfl

private theorem anchorsRemain_prompt (target : WriteTarget) (expected : Int) (tables : Nat) :
    (target.anchorsRemain expected tables).Prompt := by
  refine (getDocument_prompt ..).bind fun document => (prompt_ofOutcome _).bind fun stop => ?_
  split <;> exact prompt_pure _

namespace TableInserter

private theorem apply_prompt (inserter : TableInserter) (edits : List Edit) : (inserter.apply edits).Prompt :=
  (editDocument_prompt ..).bind fun _ => prompt_pure ()

private theorem fillCells_prompt (inserter : TableInserter) (index : Int) (columns total completed shift : Nat)
    (cells : List TableInsertion.PlacedCell) :
    (inserter.fillCells index columns total completed shift cells).Prompt := by
  induction cells generalizing completed shift with
  | nil => exact prompt_pure ()
  | cons cell rest ih =>
    refine (inserter.apply_prompt _).outcome (fun fault => ⟨_, rfl⟩) fun outcome => ?_
    cases outcome with
    | ok _ => exact ih ..
    | error cause => exact prompt_throw _

private theorem insert_prompt (inserter : TableInserter) (index : Int) (cells : Grid) (replaceAnchor : Bool) :
    (inserter.insert index cells replaceAnchor).Prompt := by
  unfold insert
  dsimp only
  split
  · exact (prompt_throw _).bind fun _ => (inserter.apply_prompt _).bind fun _ =>
      (inserter.fillCells_prompt ..).bind fun _ => prompt_pure _
  · exact (inserter.apply_prompt _).bind fun _ =>
      (inserter.fillCells_prompt ..).bind fun _ => prompt_pure _

private theorem insertFrom_failStop (inserter : TableInserter) (replaceAnchors : Bool) (total number : Nat)
    (drift : Int) (stop : Option Int) (tables : List DeferredTable) (held : List Identifier) :
    FailStop (fun after left => after = held ∧ ∃ fault drift, left = .pure (.error fault, drift))
      (fun after _ => after = held) held
      (inserter.insertFrom replaceAnchors total number drift stop tables) := by
  induction tables generalizing number drift stop with
  | nil => exact .pure rfl
  | cons table rest ih =>
    rw [insertFrom_cons]
    split
    · refine (inserter.insert_prompt ..).andThen (fun fault => ⟨rfl, _, _, rfl⟩) fun outcome => ?_
      cases outcome with
      | error cause => exact .pure rfl
      | ok behind =>
        refine (ih ..).bind ?_ ?_
        · rintro after left ⟨rfl, fault, drift, rfl⟩
          exact ⟨rfl, fault, drift, rfl⟩
        · rintro after value rfl
          exact .pure rfl
    · exact FailStop.pure rfl

end TableInserter

theorem insertTables_prompt (target : WriteTarget) (compiled : Compiled) :
    (target.insertTables compiled).Prompt := by
  have tables (anchors : Bool) : Action.Prompt (do
      let inserted ← ExceptT.lift (({ documentId := target.documentId : TableInserter }).insertAll
        compiled.tables 0 (target.endIndex.map (· + Text.units compiled.text)) anchors)
      let _ ← Action.ofOutcome inserted.1) := by
    constructor
    intro held
    rw [ExceptT.run_bind_lift]
    refine (TableInserter.insertFrom_failStop ..).bind ?_ ?_
    · rintro after left ⟨rfl, fault, drift, rfl⟩
      exact ⟨rfl, fault, rfl⟩
    · rintro after ⟨ends, drift⟩ rfl
      exact (prompt_ofOutcome ends).bind (fun _ => prompt_pure ()) |>.failStop after
  unfold WriteTarget.insertTables
  dsimp only
  split
  · exact prompt_pure ()
  · split
    · exact (anchorsRemain_prompt ..).bind tables
    · exact (prompt_pure true).bind tables

end DocScribe.Docs
