import DocScribe.Docs.PlainText
import DocScribe.Proofs.Docs.MarkerSearch
import DocScribe.Proofs.Docs.TemporaryUploads
import DocScribe.Proofs.Docs.ValidEdits

/-! A service that keeps documents, any of whose calls may fail. A run is safe when every batch that it
sends is valid at that moment, whatever is replied. -/

namespace DocScribe.Docs
open Service Program

abbrev Documents := Identifier → LiveBody

/-- A document tells where its body ends, and shows its texts at the indices where they stand. -/
structure Shows (document : Json) (body : LiveBody) : Prop where
  ends : documentEnd document = .ok (.int body.length)
  texts : ∃ runs, DocumentShows document runs ∧ RunsOf body.contents runs

/-- The edits of one document are carried out. -/
structure Carried (documents after : Documents) (documentId : Identifier) (edits : List Edit) : Prop where
  edited : after documentId = applyEdits (fun _ => true) edits (documents documentId)
  others : ∀ other, other ≠ documentId → after other = documents other

/-- A document is made, if its name can be read. -/
structure Created (documents after : Documents) (file : Json) : Prop where
  fresh : ∀ documentId, file.required "id" = .ok documentId → (after documentId).EndsInLine
  others : ∀ other, file.required "id" ≠ .ok other → after other = documents other

/-- What may be replied to a question, and what the documents are then. When the reply to a batch is
lost on the way, the batch may have been carried out. -/
def Serves (documents after : Documents) : (question : Request) → question.Reply → Prop
  | .call (.editDocument documentId edits), .ok _ => Carried documents after documentId edits
  | .call (.editDocument documentId edits), .error _ =>
    after = documents ∨ Carried documents after documentId edits
  | .call (.getDocument documentId .body), .ok document =>
    after = documents ∧ Shows document (documents documentId)
  | .call (.createFile _ none), .ok file => Created documents after file
  | _, _ => after = documents

/-- A batch is valid on the document that it is for, which ends in a line end. -/
def Request.IsValid (documents : Documents) : Request → Prop
  | .call (.editDocument documentId edits) =>
    (documents documentId).EndsInLine ∧ Accepts (documents documentId) edits
  | _ => True

/-- Every batch of a program is valid when it is sent. -/
inductive Safe (ends : α → Documents → Prop) : Documents → Program α → Prop where
  | pure {documents value} (done : ends value documents) : Safe ends documents (.pure value)
  | ask {documents question next} (valid : Request.IsValid documents question)
      (resume : ∀ reply after, Serves documents after question reply → Safe ends after (next reply)) :
      Safe ends documents (.request question next)

namespace Safe
variable {ends : α → Documents → Prop} {last : β → Documents → Prop} {documents : Documents}
  {program : Program α}

theorem bind {next : α → Program β} (first : Safe ends documents program)
    (rest : ∀ value after, ends value after → Safe last after (next value)) :
    Safe last documents (program >>= next) := by
  induction first with
  | pure done => exact rest _ _ done
  | ask valid resume ih => exact .ask valid ih

private theorem serves_still {after : Documents} {question : Request} (still : question.writes = false)
    {reply : question.Reply} (serves : Serves documents after question reply) : after = documents := by
  cases question with
  | call call => cases call with
    | editDocument => cases still
    | createFile metadata upload => cases upload with
      | none => cases still
      | some content => exact serves
    | getDocument documentId view => cases view with
      | body => cases reply with
        | ok document => exact serves.1
        | error fault => exact serves
      | _ => exact serves
    | _ => exact serves
  | _ => exact serves

/-- A program that writes nothing leaves the documents as they are. -/
theorem still (asks : program.Asks (·.writes = false)) : Safe (fun _ after => after = documents) documents program := by
  induction asks with
  | pure => exact .pure rfl
  | @ask question next fine rest ih =>
    refine .ask ?_ fun reply after serves => ?_
    · cases question with
      | call call => cases call with
        | editDocument => cases fine
        | _ => trivial
      | _ => trivial
    · rw [serves_still fine serves]
      exact ih reply

/-- Along a run whose replies are those of the service, every batch is valid at its moment. -/
theorem accepts (safe : Safe ends documents program) {replies : Replies} {states : Nat → Documents} {made : Nat}
    (start : states made = documents)
    (serves : ∀ number exchange, (program.exchanges replies made)[number]? = some exchange →
      Serves (states (made + number)) (states (made + number + 1)) exchange.question exchange.reply)
    {number : Nat} {documentId : Identifier} {edits : List Edit} {reply : Outcome Json}
    (sent : (program.exchanges replies made)[number]? =
      some ⟨.call (.editDocument documentId edits), reply⟩) :
    (states (made + number) documentId).EndsInLine ∧ Accepts (states (made + number) documentId) edits := by
  induction safe generalizing made number with
  | pure done => cases sent
  | @ask documents question next valid resume ih =>
    cases number with
    | zero =>
      obtain ⟨rfl, -⟩ : question = .call (.editDocument documentId edits) ∧ _ := by
        simpa [exchanges] using sent
      subst start
      exact valid
    | succ number =>
      have first := serves 0 ⟨question, replies made question⟩ rfl
      subst start
      have later (number : Nat) : made + (number + 1) = made + 1 + number := by omega
      rw [later]
      refine ih _ _ first (show states (made + 1) = states (made + 1) from rfl) (fun number exchange found => ?_) sent
      have next := serves (number + 1) exchange found
      rwa [later] at next

end Safe

/-- An action whose batches are valid, and what holds when it ends without a fault. -/
def SafeAction (ends : α → Documents → Prop) (documents : Documents) (action : Action α) : Prop :=
  Safe (fun outcome after => ∀ value, outcome = .ok value → ends value after) documents action.run

namespace SafeAction
variable {ends : α → Documents → Prop} {last : β → Documents → Prop} {documents : Documents}
  {action : Action α}

theorem pure {value : α} (done : ends value documents) : SafeAction ends documents (Pure.pure value) := by
  refine Safe.pure ?_
  rintro _ ⟨⟩
  exact done

theorem throw (fault : Fault) : SafeAction ends documents (MonadExcept.throw fault) := by
  refine Safe.pure ?_
  rintro _ ⟨⟩

theorem ofOutcome {outcome : Outcome α} (done : ∀ value, outcome = .ok value → ends value documents) :
    SafeAction ends documents (Action.ofOutcome outcome) := Safe.pure done

theorem bind {next : α → Action β} (first : SafeAction ends documents action)
    (rest : ∀ value after, ends value after → SafeAction last after (next value)) :
    SafeAction last documents (action >>= next) := by
  unfold SafeAction
  rw [ExceptT.run_bind]
  refine Safe.bind first fun outcome after done => ?_
  cases outcome with
  | ok value => exact rest value after (done value rfl)
  | error fault => exact SafeAction.throw fault

/-- A part that writes nothing, in front of the rest. -/
theorem after {next : α → Action β} (asks : Program.Asks (·.writes = false) action.run)
    (rest : ∀ value, SafeAction last documents (next value)) : SafeAction last documents (action >>= next) := by
  unfold SafeAction
  rw [ExceptT.run_bind]
  refine Safe.bind (.still asks) fun outcome after same => ?_
  subst same
  cases outcome with
  | ok value => exact rest value
  | error fault => exact SafeAction.throw fault

theorem outcome (first : SafeAction ends documents action) :
    SafeAction (fun outcome after => ∀ value, outcome = .ok value → ends value after) documents action.outcome := by
  change Safe _ documents (Except.ok <$> action.run)
  rw [map_eq_pure_bind]
  refine Safe.bind first fun outcome after done => .pure ?_
  rintro _ ⟨⟩
  exact done

theorem lift {ends : α → Documents → Prop} {program : Program α} (safe : Safe ends documents program) :
    SafeAction ends documents (ExceptT.lift program) := by
  change Safe _ documents (Except.ok <$> program)
  rw [map_eq_pure_bind]
  refine safe.bind fun value after done => .pure ?_
  rintro _ ⟨⟩
  exact done

theorem view (documentId : Identifier) :
    SafeAction (fun document after => after = documents ∧ Shows document (documents documentId)) documents
      (Action.call (.getDocument documentId .body)) := by
  refine Safe.ask trivial fun reply after serves => .pure ?_
  rintro document rfl
  exact serves

end SafeAction

/-- A document that ends in a line end has a known length. -/
structure Held (documentId : Identifier) (live : Int) (documents : Documents) : Prop where
  ends : (documents documentId).EndsInLine
  length : ((documents documentId).length : Int) = live

theorem Held.edit {documentId : Identifier} {live : Int} {documents : Documents} {edits : List Edit}
    (held : Held documentId live documents) (fits : Fits live edits) :
    SafeAction (fun _ after => Held documentId (live + growthOf edits) after) documents
      (Action.call (.editDocument documentId edits)) := by
  obtain ⟨accepted, ends, length⟩ := Fits.accepts held.ends (held.length ▸ fits)
  refine Safe.ask ⟨held.ends, accepted⟩ fun reply after serves => .pure ?_
  rintro receipt rfl
  have edited : after documentId = _ := serves.edited
  rw [← edited, held.length] at length
  exact ⟨edited ▸ ends, length⟩

end DocScribe.Docs
