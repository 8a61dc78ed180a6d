import DocScribe.Program
import DocScribe.Proofs.Docs.LiveBody

/-! Programs run against a service that keeps one document. The service carries out every edit of its
document and shows the body as it is at that moment; what concerns anything else does not touch it. -/

namespace DocScribe.Docs
open DocScribe Service

/-- A service that keeps one document. -/
structure DocumentService where
  documentId : Identifier
  /-- The characters of a text that are stored. -/
  keeps : Char → Bool
  view : LiveBody → Json
  receipt : List Edit → Json
  /-- The replies to what does not concern the document. -/
  elsewhere : (question : Request) → question.Reply

namespace DocumentService

open Classical in
noncomputable def answer (service : DocumentService) (body : LiveBody) :
    (question : Request) → question.Reply × LiveBody
  | .call (.editDocument id edits) =>
    if id = service.documentId then (.ok (service.receipt edits), applyEdits service.keeps edits body)
    else (service.elsewhere (.call (.editDocument id edits)), body)
  | .call (.getDocument id .body) =>
    if id = service.documentId then (.ok (service.view body), body)
    else (service.elsewhere (.call (.getDocument id .body)), body)
  | question => (service.elsewhere question, body)

noncomputable def run (service : DocumentService) : Program α → LiveBody → α × LiveBody
  | .pure value, body => (value, body)
  | .request question next, body =>
    service.run (next (service.answer body question).1) (service.answer body question).2

def Succeeds (service : DocumentService) (action : Action α) (before : LiveBody) (value : α)
    (after : LiveBody) : Prop :=
  service.run action.run before = (.ok value, after)

def Fails (service : DocumentService) (action : Action α) (before : LiveBody) (fault : Fault)
    (after : LiveBody) : Prop :=
  service.run action.run before = (.error fault, after)

variable (service : DocumentService)

@[simp] theorem run_pure (value : α) (body : LiveBody) :
    service.run (pure value : Program α) body = (value, body) := rfl

theorem run_bind (program : Program α) (next : α → Program β) (body : LiveBody) :
    service.run (program >>= next) body =
      service.run (next (service.run program body).1) (service.run program body).2 := by
  change service.run (program.bind next) body = _
  induction program generalizing body with
  | pure value => rfl
  | request question rest ih => exact ih _ _

private theorem run_map (change : α → β) (program : Program α) (body : LiveBody) :
    service.run (change <$> program) body =
      (change (service.run program body).1, (service.run program body).2) :=
  service.run_bind program (fun value => pure (change value)) body

theorem run_andThen {program : Program α} {next : α → Program β} {before middle : LiveBody} {value : α}
    (first : service.run program before = (value, middle)) :
    service.run (program >>= next) before = service.run (next value) middle := by
  rw [run_bind, first]

variable {service} {before middle after : LiveBody}

theorem Succeeds.andThen {action : Action α} {next : α → Action β} {value : α}
    (first : service.Succeeds action before value middle) :
    service.run (action >>= next).run before = service.run (next value).run middle := by
  rw [ExceptT.run_bind, run_bind, first]

theorem Succeeds.outcome {action : Action α} {value : α} (first : service.Succeeds action before value after) :
    service.Succeeds action.outcome before (.ok value) after := by
  change service.run (Except.ok <$> action.run) before = _
  rw [run_map, first]

theorem succeeds_lift {program : Program α} {value : α} (first : service.run program before = (value, after)) :
    service.Succeeds (ExceptT.lift program) before value after := by
  change service.run (Except.ok <$> program) before = _
  rw [run_map, first]

theorem succeeds_edit (service : DocumentService) (edits : List Edit) (body : LiveBody) :
    service.Succeeds (Action.call (.editDocument service.documentId edits)) body (service.receipt edits)
      (applyEdits service.keeps edits body) := by
  simp [Succeeds, Action.call, Program.ask, ExceptT.run, ExceptT.mk, run, answer]

theorem succeeds_view (service : DocumentService) (body : LiveBody) :
    service.Succeeds (Action.call (.getDocument service.documentId .body)) body (service.view body) body := by
  simp [Succeeds, Action.call, Program.ask, ExceptT.run, ExceptT.mk, run, answer]

theorem succeeds_ofOutcome (value : α) (body : LiveBody) :
    service.Succeeds (Action.ofOutcome (.ok value)) body value body := rfl

end DocumentService
end DocScribe.Docs
