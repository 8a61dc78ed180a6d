import DocScribe.Proofs.Service.FailStop

/-! Actions that end with a fault as soon as a call fails. -/

namespace DocScribe.Action
open Service Program

/-- Uploads and deletes nothing, and ends with a fault as soon as a call fails. -/
structure Prompt (action : Action α) : Prop where
  failStop : ∀ held, FailStop (fun after left => after = held ∧ ∃ fault, left = .pure (.error fault))
    (fun after _ => after = held) held action.run

variable {action : Action α} {halts : List Identifier → Program β → Prop}
  {ends : List Identifier → β → Prop} {held : List Identifier}

theorem Prompt.andThen (first : action.Prompt) {next : Outcome α → Program β}
    (halting : ∀ fault, halts held (next (.error fault)))
    (rest : ∀ outcome, FailStop halts ends held (next outcome)) :
    FailStop halts ends held (action.run >>= next) := by
  refine (first.failStop held).bind ?_ ?_
  · rintro after left ⟨rfl, fault, rfl⟩
    exact halting fault
  · rintro after outcome rfl
    exact rest outcome

theorem Prompt.bind (first : action.Prompt) {next : α → Action β} (rest : ∀ value, (next value).Prompt) :
    (action >>= next).Prompt := by
  constructor
  intro held
  rw [ExceptT.run_bind]
  refine first.andThen (fun fault => ⟨rfl, fault, rfl⟩) fun outcome => ?_
  cases outcome with
  | ok value => exact (rest value).failStop held
  | error fault => exact .pure rfl

theorem Prompt.outcome (first : action.Prompt) {next : Outcome α → Action β}
    (halting : ∀ fault, ∃ cause, (next (.error fault)).run = .pure (.error cause))
    (rest : ∀ outcome, (next outcome).Prompt) : (action.outcome >>= next).Prompt := by
  constructor
  intro held
  rw [Action.outcome, ExceptT.run_bind_lift]
  exact first.andThen (fun fault => ⟨rfl, halting fault⟩) fun outcome => (rest outcome).failStop held

theorem prompt_ofOutcome (outcome : Outcome α) : (ofOutcome outcome).Prompt := ⟨fun _ => .pure rfl⟩

theorem prompt_pure (value : α) : (pure value : Action α).Prompt := ⟨fun _ => .pure rfl⟩

theorem prompt_throw (fault : Fault) : (throw fault : Action α).Prompt := ⟨fun _ => .pure rfl⟩

theorem prompt_ask {question : Request} {next : question.Reply → Action α}
    (kept : question.isDeletion = false) (bare : ∀ reply, question.uploads reply = [])
    (stop : ∀ reply, question.fails reply = true → ∃ fault, (next reply).run = .pure (.error fault))
    (rest : ∀ reply, question.fails reply = false → (next reply).Prompt) :
    Prompt (.request question next) := by
  constructor
  intro held
  refine .ask kept (fun reply failed => ⟨rfl, stop reply failed⟩) fun reply passed => ?_
  rw [bare, List.append_nil]
  exact (rest reply passed).failStop held

theorem prompt_call {call : Call} (kept : (Request.call call).isDeletion = false)
    (bare : ∀ reply, (Request.call call).uploads reply = []) : (Action.call call).Prompt := by
  refine prompt_ask kept bare (fun reply failed => ?_) fun reply _ => prompt_ofOutcome reply
  cases reply with
  | ok value => cases failed
  | error fault => exact ⟨fault, rfl⟩

/-- Questions that no service answers. -/
def IsLocal (question : Request) : Prop :=
  question.isDeletion = false ∧ ∀ reply, question.fails reply = false ∧ question.uploads reply = []

theorem isLocal_place : IsLocal .place := ⟨rfl, fun _ => ⟨rfl, rfl⟩⟩

theorem prompt_local {question : Request} (isLocal : IsLocal question) {next : question.Reply → Action α}
    (rest : ∀ reply, (next reply).Prompt) : Prompt (.request question next) :=
  prompt_ask isLocal.1 (fun reply => (isLocal.2 reply).2)
    (fun reply failed => absurd failed (by simp [(isLocal.2 reply).1])) fun reply _ => rest reply

/-- Starts with nothing uploaded, and deletes what it uploads when a call fails. -/
def Tidy (action : Action α) : Prop :=
  FailStop (Cleans .error) (fun _ _ => True) [] action.run

theorem Prompt.before (first : action.Prompt) {next : α → Action β} (rest : ∀ value, (next value).Tidy) :
    (action >>= next).Tidy := by
  unfold Tidy
  rw [ExceptT.run_bind]
  refine first.andThen (fun fault => ⟨fault, rfl⟩) fun outcome => ?_
  cases outcome with
  | ok value => exact rest value
  | error fault => exact .pure trivial

theorem Prompt.tidy (prompt : action.Prompt) : action.Tidy := by
  rw [← bind_pure action]
  exact prompt.before fun _ => .pure trivial

theorem Tidy.finish (first : action.Tidy) {next : Outcome α → Program (Outcome β)}
    (faulty : ∀ fault, ∃ cause, next (.error fault) = .pure (.error cause))
    (silent : ∀ outcome, ∃ last, next outcome = .pure last) :
    Tidy (ExceptT.mk (action.run >>= next)) := by
  refine FailStop.bind first ?_ ?_
  · rintro after left ⟨fault, rfl⟩
    obtain ⟨cause, becomes⟩ := faulty fault
    refine ⟨cause, ?_⟩
    rw [bind_assoc, ← becomes]
    rfl
  · intro after outcome _
    obtain ⟨last, becomes⟩ := silent outcome
    rw [becomes]
    exact .pure trivial

theorem Tidy.andThen (first : action.Tidy) {next : α → Action β}
    (silent : ∀ value, ∃ last, (next value).run = .pure last) : (action >>= next).Tidy := by
  refine first.finish (fun fault => ⟨fault, rfl⟩) fun outcome => ?_
  cases outcome with
  | ok value => exact silent value
  | error fault => exact ⟨_, rfl⟩

end DocScribe.Action
