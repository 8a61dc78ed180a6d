import DocScribe.Proofs.Service.FailStop

/-! The exchanges and the result of a program that is put together from others. -/

namespace DocScribe.Program
open Service

section
variable (replies : Replies)

theorem exchanges_bind (program : Program α) (next : α → Program β) (made : Nat) :
    (program >>= next).exchanges replies made = program.exchanges replies made ++
      (next (program.result replies made)).exchanges replies
        (made + (program.exchanges replies made).length) := by
  induction program generalizing made with
  | pure value => rfl
  | request question rest ih =>
    change _ :: Program.exchanges replies (made + 1) (rest (replies made question) >>= next) = _
    rw [ih, Nat.add_right_comm]
    rfl

theorem result_bind (program : Program α) (next : α → Program β) (made : Nat) :
    (program >>= next).result replies made = (next (program.result replies made)).result replies
      (made + (program.exchanges replies made).length) := by
  induction program generalizing made with
  | pure value => rfl
  | request question rest ih =>
    change Program.result replies (made + 1) (rest (replies made question) >>= next) = _
    rw [ih, Nat.add_right_comm]
    rfl

variable {replies} in
theorem result_andThen {action : Action α} {next : α → Action β} {made : Nat} {value : α}
    (done : action.run.result replies made = .ok value) :
    (action >>= next).run.result replies made =
      (next value).run.result replies (made + (action.run.exchanges replies made).length) := by
  rw [ExceptT.run_bind, result_bind, done]

variable {replies} in
theorem exchanges_told {program : Program α} {made number : Nat} {exchange : Exchange}
    (found : (program.exchanges replies made)[number]? = some exchange) :
    exchange.reply = replies (made + number) exchange.question := by
  induction program generalizing made number with
  | pure value => cases found
  | request question rest ih =>
    cases number with
    | zero =>
      cases found
      rfl
    | succ number =>
      rw [ih _ found, Nat.add_right_comm]
      rfl

end

/-- Whatever is replied, what is asked and what comes out of it stand in this relation. -/
def Leads (program : Program α) (ends : List Exchange → α → Prop) : Prop :=
  ∀ replies made, ends (program.exchanges replies made) (program.result replies made)

variable {program : Program α} {ends weaker : List Exchange → α → Prop} {last : List Exchange → β → Prop}

theorem Leads.pure {value : α} (done : ends [] value) : (Program.pure value).Leads ends :=
  fun _ _ => done

theorem Leads.ask {question : Request} {next : question.Reply → Program α}
    (rest : ∀ reply, (next reply).Leads fun asked value => ends (⟨question, reply⟩ :: asked) value) :
    (Program.request question next).Leads ends :=
  fun replies made => rest (replies made question) replies (made + 1)

theorem Leads.mono (leads : program.Leads ends) (implies : ∀ asked value, ends asked value → weaker asked value) :
    program.Leads weaker :=
  fun replies made => implies _ _ (leads replies made)

theorem Leads.and {other : List Exchange → α → Prop} (first : program.Leads ends) (second : program.Leads other) :
    program.Leads fun asked value => ends asked value ∧ other asked value :=
  fun replies made => ⟨first replies made, second replies made⟩

theorem Leads.bind {next : α → Program β} (first : program.Leads ends)
    (rest : ∀ asked value, ends asked value →
      (next value).Leads fun further outcome => last (asked ++ further) outcome) :
    (program >>= next).Leads last := by
  intro replies made
  rw [exchanges_bind, result_bind]
  exact rest _ _ (first replies made) replies _

/-- Every question that is asked is one of these. -/
inductive Asks (allowed : Request → Prop) : Program α → Prop where
  | pure {value} : Asks allowed (.pure value)
  | ask {question next} (fine : allowed question) (rest : ∀ reply, Asks allowed (next reply)) :
      Asks allowed (.request question next)

variable {allowed wider : Request → Prop}

theorem Asks.leads (asks : program.Asks allowed) :
    program.Leads fun asked _ => ∀ exchange ∈ asked, allowed exchange.question := by
  induction asks with
  | pure => exact .pure (List.forall_mem_nil _)
  | ask fine rest ih =>
    refine .ask fun reply => (ih reply).mono fun asked _ all => ?_
    exact List.forall_mem_cons.mpr ⟨fine, all⟩

theorem Asks.mono (asks : program.Asks allowed) (implies : ∀ question, allowed question → wider question) :
    program.Asks wider := by
  induction asks with
  | pure => exact .pure
  | ask fine rest ih => exact .ask (implies _ fine) ih

theorem Asks.bind {next : α → Program β} (first : program.Asks allowed)
    (rest : ∀ value, (next value).Asks allowed) : (program >>= next).Asks allowed := by
  induction first with
  | pure => exact rest _
  | ask fine _ ih => exact .ask fine ih

theorem Asks.andThen {action : Action α} {next : α → Action β} (first : Program.Asks allowed action.run)
    (rest : ∀ value, Program.Asks allowed (next value).run) :
    Program.Asks allowed (action >>= next).run := by
  rw [ExceptT.run_bind]
  refine first.bind fun outcome => ?_
  cases outcome with
  | ok value => exact rest value
  | error fault => exact .pure

/-- Where replies differ for deletions only, the same is asked, with the same result. -/
theorem FailStop.deaf {fail : Fault → α} {ends : List Identifier → α → Prop} {held : List Identifier}
    (stops : FailStop (Cleans fail) ends held program) {told other : Replies}
    (agree : ∀ made question, question.isDeletion = false → other made question = told made question)
    (made : Nat) :
    (program.exchanges other made).map Exchange.question =
        (program.exchanges told made).map Exchange.question ∧
      program.result other made = program.result told made := by
  induction stops generalizing made with
  | pure done => exact ⟨rfl, rfl⟩
  | @ask held question next kept stop resume ih =>
    rw [exchanges, exchanges, result, result, agree made question kept, List.map_cons, List.map_cons]
    cases failed : question.fails (told made question) with
    | true =>
      obtain ⟨fault, left⟩ := stop _ failed
      rw [left]
      refine ⟨congrArg _ ?_, ?_⟩
      · exact (exchanges_deleteAll other _ held _).trans (exchanges_deleteAll told _ held _).symm
      · exact (result_deleteAll other _ held _).trans (result_deleteAll told _ held _).symm
    | false =>
      obtain ⟨asked, ended⟩ := ih _ failed (made + 1)
      exact ⟨congrArg _ asked, ended⟩
  | @delete held fileId rest resume ih =>
    obtain ⟨asked, ended⟩ := ih (made + 1)
    exact ⟨congrArg (List.cons _) asked, ended⟩

end DocScribe.Program
