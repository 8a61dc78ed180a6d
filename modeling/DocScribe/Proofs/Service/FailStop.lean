import DocScribe.Drive.Upload

/-! What a program asks when its replies are given, and programs that stop at the first call which
fails. A deletion may fail; its reply is never read. -/

namespace DocScribe
open Service

namespace Request

def isDeletion : Request → Bool
  | .call (.deleteFile _) => true
  | _ => false

/-- A service was asked, and failed. -/
def fails : (question : Request) → question.Reply → Bool
  | .call _, reply => !reply.isOk
  | .authorize .., reply => !reply.isOk
  | _, _ => false

/-- The file that came to be, when a content went with its creation. -/
def uploads : (question : Request) → question.Reply → List Identifier
  | .call (.createFile _ (some _)), .ok created => (created.required "id").toOption.toList
  | _, _ => []

end Request

/-- The replies to questions, by how many were asked before. -/
abbrev Replies := Nat → (question : Request) → question.Reply

/-- A question, and what was replied. -/
structure Exchange where
  question : Request
  reply : question.Reply

namespace Exchange

/-- A service failed at something else than a deletion. -/
def isBreak (exchange : Exchange) : Bool :=
  exchange.question.fails exchange.reply && !exchange.question.isDeletion

def uploads (exchange : Exchange) : List Identifier := exchange.question.uploads exchange.reply

end Exchange

namespace Program

private theorem bind_pure_self (program : Program α) : (program >>= fun value => pure (id value)) = program := by
  induction program with
  | pure value => rfl
  | request question next ih => exact congrArg (Program.request question) (funext ih)

private theorem bind_assoc_self (program : Program α) (first : α → Program β) (second : β → Program γ) :
    (program >>= first >>= second) = program >>= fun value => first value >>= second := by
  induction program with
  | pure value => rfl
  | request question next ih => exact congrArg (Program.request question) (funext ih)

instance : LawfulMonad Program := .mk' Program bind_pure_self (fun _ _ => rfl) bind_assoc_self

theorem deleteAll_cons (fileId : Identifier) (files : List Identifier) (program : Program α) :
    (Drive.deleteAll (fileId :: files) >>= fun _ => program) =
      .request (.call (.deleteFile fileId)) fun _ => Drive.deleteAll files >>= fun _ => program := by
  change Program.request (.call (.deleteFile fileId)) _ = _
  congr 1
  funext reply
  exact bind_assoc (Drive.deleteAll files) _ _

/-- What a program asks and is told, after `made` questions. -/
def exchanges (replies : Replies) : (made : Nat) → Program α → List Exchange
  | _, .pure _ => []
  | made, .request question next =>
    ⟨question, replies made question⟩ :: (next (replies made question)).exchanges replies (made + 1)

def result (replies : Replies) : (made : Nat) → Program α → α
  | _, .pure value => value
  | made, .request question next => (next (replies made question)).result replies (made + 1)

/-- Stops at the first call that fails: what `halts` holds of is then left to do. `held` are the files
that are uploaded so far. -/
inductive FailStop (halts : List Identifier → Program α → Prop) (ends : List Identifier → α → Prop) :
    List Identifier → Program α → Prop where
  | pure {held value} (done : ends held value) : FailStop halts ends held (.pure value)
  | ask {held question next} (kept : question.isDeletion = false)
      (stop : ∀ reply, question.fails reply = true → halts held (next reply))
      (resume : ∀ reply, question.fails reply = false →
        FailStop halts ends (held ++ question.uploads reply) (next reply)) :
      FailStop halts ends held (.request question next)
  | delete {held fileId rest} (resume : FailStop halts ends held rest) :
      FailStop halts ends held (.request (.call (.deleteFile fileId)) fun _ => rest)

/-- What was uploaded is deleted, and then comes a fault. -/
def Cleans (fail : Fault → α) (held : List Identifier) (left : Program α) : Prop :=
  ∃ fault, left = Drive.deleteAll held >>= fun _ => .pure (fail fault)

namespace FailStop
variable {halts : List Identifier → Program α → Prop} {ends : List Identifier → α → Prop}
  {halts' : List Identifier → Program β → Prop} {ends' : List Identifier → β → Prop}
  {held : List Identifier} {program : Program α}

theorem bind {next : α → Program β} (first : FailStop halts ends held program)
    (halting : ∀ after left, halts after left → halts' after (left >>= next))
    (rest : ∀ after value, ends after value → FailStop halts' ends' after (next value)) :
    FailStop halts' ends' held (program >>= next) := by
  induction first with
  | pure done => exact rest _ _ done
  | ask kept stop resume ih =>
    exact .ask kept (fun reply failed => halting _ _ (stop reply failed)) ih
  | delete resume ih => exact .delete ih

theorem deleteAll (files : List Identifier) (rest : FailStop halts ends held program) :
    FailStop halts ends held (Drive.deleteAll files >>= fun _ => program) := by
  induction files with
  | nil => exact rest
  | cons fileId files ih =>
    rw [deleteAll_cons]
    exact .delete ih

variable {told other : Replies}

/-- A call that fails after the exchanges `before` is the last question that is asked, but for what is
left to do. -/
theorem exchanges_break (stops : FailStop halts ends held program) {made place : Nat}
    {before after : List Exchange} {question : Request} {reply : question.Reply}
    (asked : program.exchanges told made = before ++ ⟨question, reply⟩ :: after)
    (reached : place = made + before.length)
    (smooth : ∀ exchange ∈ before, exchange.isBreak = false)
    (agree : ∀ j < place, other j = told j)
    (broken : Exchange.isBreak ⟨question, other place question⟩ = true) :
    ∃ left, halts (held ++ before.flatMap Exchange.uploads) left ∧
      program.exchanges other made =
        before ++ ⟨question, other place question⟩ :: left.exchanges other (place + 1) ∧
      program.result other made = left.result other (place + 1) := by
  -- the call that fails is asked first, or it comes behind what was told for the first question
  induction stops generalizing made before with
  | pure done => simp [exchanges] at asked
  | @ask held first next kept stop resume ih =>
    cases before with
    | nil =>
      obtain rfl : place = made := reached
      obtain ⟨⟨rfl, -⟩, -⟩ : (first = question ∧ _) ∧ _ := by simpa [exchanges] using asked
      have failed : first.fails (other place first) = true := by
        simpa [Exchange.isBreak, kept] using broken
      exact ⟨next (other place first), by simpa using stop _ failed, rfl, rfl⟩
    | cons exchange before =>
      obtain ⟨rfl, later⟩ : ⟨first, told made first⟩ = exchange ∧ _ := by
        simpa [exchanges] using asked
      have passed : first.fails (told made first) = false := by
        simpa [Exchange.isBreak, kept] using smooth _ (List.mem_cons_self ..)
      have same : other made = told made := agree made (by simp at reached; omega)
      obtain ⟨left, halting, rest, ended⟩ := ih _ passed later (by simp at reached; omega)
        fun exchange among => smooth exchange (List.mem_cons_of_mem _ among)
      refine ⟨left, by simpa [Exchange.uploads] using halting, ?_, ?_⟩
      · rw [exchanges, same, rest, List.cons_append]
      · rw [result, same, ended]
  | @delete held fileId rest resume ih =>
    cases before with
    | nil =>
      obtain ⟨⟨rfl, -⟩, -⟩ : (Request.call (.deleteFile fileId) = question ∧ _) ∧ _ := by
        simpa [exchanges] using asked
      simp [Exchange.isBreak, Request.isDeletion] at broken
    | cons exchange before =>
      obtain ⟨rfl, later⟩ : ⟨.call (.deleteFile fileId), told made _⟩ = exchange ∧ _ := by
        simpa [exchanges] using asked
      have same : other made = told made := agree made (by simp at reached; omega)
      obtain ⟨left, halting, rest, ended⟩ := ih later (by simp at reached; omega)
        fun exchange among => smooth exchange (List.mem_cons_of_mem _ among)
      refine ⟨left, by simpa [Exchange.uploads, Request.uploads] using halting, ?_, ?_⟩
      · rw [exchanges, same, rest, List.cons_append]
      · rw [result, ended]

/-- Replies to deletions change neither the questions nor the result. -/
theorem exchanges_deletions (stops : FailStop halts ends held program) {made : Nat}
    (smooth : ∀ exchange ∈ program.exchanges told made, exchange.isBreak = false)
    (agree : ∀ j question, question.isDeletion = false → other j question = told j question) :
    (program.exchanges other made).map Exchange.question =
        (program.exchanges told made).map Exchange.question ∧
      program.result other made = program.result told made := by
  induction stops generalizing made with
  | pure done => exact ⟨rfl, rfl⟩
  | @ask held question next kept stop resume ih =>
    have same := agree made question kept
    have passed : question.fails (told made question) = false := by
      simpa [Exchange.isBreak, kept] using smooth ⟨question, told made question⟩ (by simp [exchanges])
    obtain ⟨asked, ended⟩ := ih _ passed fun exchange among =>
      smooth exchange (List.mem_cons_of_mem _ among)
    exact ⟨by simp [exchanges, same, asked], by simp [result, same, ended]⟩
  | @delete held fileId rest resume ih =>
    obtain ⟨asked, ended⟩ := ih fun exchange among =>
      smooth exchange (List.mem_cons_of_mem _ among)
    exact ⟨by simp [exchanges, asked], ended⟩

end FailStop

theorem exchanges_deleteAll (replies : Replies) (made : Nat) (files : List Identifier) (value : α) :
    ((Drive.deleteAll files >>= fun _ => (pure value : Program α)).exchanges replies made).map
        Exchange.question = files.map fun fileId => .call (.deleteFile fileId) := by
  induction files generalizing made with
  | nil => rfl
  | cons fileId files ih =>
    rw [deleteAll_cons, exchanges, List.map_cons, ih, List.map_cons]

theorem result_deleteAll (replies : Replies) (made : Nat) (files : List Identifier) (value : α) :
    (Drive.deleteAll files >>= fun _ => (pure value : Program α)).result replies made = value := by
  induction files generalizing made with
  | nil => rfl
  | cons fileId files ih =>
    rw [deleteAll_cons, result, ih]

end Program
end DocScribe
