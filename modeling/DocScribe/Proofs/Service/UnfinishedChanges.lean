import DocScribe.Json.Access
import DocScribe.Proofs.Service.Transcript

/-! Faults that tell of a change that was not made as a whole: a position outside of the document, or a step that failed.
Where no service fails and no file is at fault in this way, only the program itself can bring one about. -/

namespace DocScribe
open Service

/-- Tells of a change that was not made, or not as a whole. -/
def Fault.isUnfinished : Fault → Bool
  | .outsideDocument .. => true
  | .partialApply .. => true
  | _ => false

/-- Ends with a value, or with a fault of another kind. -/
def Spares (outcome : Outcome α) : Prop := ∀ fault, outcome = .error fault → fault.isUnfinished = false

instance (outcome : Outcome α) : Decidable (Spares outcome) :=
  match outcome with
  | .ok _ => isTrue fun _ impossible => nomatch impossible
  | .error fault => decidable_of_iff (fault.isUnfinished = false)
      ⟨fun mild _ same => Except.error.inj same ▸ mild, fun spares => spares fault rfl⟩

section Outcomes

theorem spares_ok (value : α) : Spares (.ok value) := by
  rintro fault ⟨⟩

theorem spares_pure (value : α) : Spares (pure value) := spares_ok value

theorem spares_error {fault : Fault} (mild : fault.isUnfinished = false) : Spares (.error fault : Outcome α) := by
  rintro _ ⟨⟩
  exact mild

theorem spares_throw {fault : Fault} (mild : fault.isUnfinished = false) : Spares (throw fault : Outcome α) :=
  spares_error mild

theorem Spares.bind {outcome : Outcome α} (first : Spares outcome) {next : α → Outcome β}
    (rest : ∀ value, Spares (next value)) : Spares (outcome >>= next) := by
  cases outcome with
  | ok value => exact rest value
  | error fault => exact spares_error (first fault rfl)

theorem Spares.foldlM {items : List α} {step : β → α → Outcome β} (own : ∀ state, ∀ item ∈ items, Spares (step state item))
    (start : β) : Spares (items.foldlM step start) := by
  induction items generalizing start with
  | nil => exact spares_pure start
  | cons item items ih =>
    rw [List.foldlM_cons]
    refine (own start item List.mem_cons_self).bind fun state => ?_
    exact ih (fun state other among => own state other (List.mem_cons_of_mem _ among)) state

end Outcomes

namespace Json

theorem member?_spares (key : String) (value : Json) : Spares (value.member? key) := by
  unfold member?
  split
  · exact spares_pure _
  · exact spares_throw rfl

theorem member_spares (key : String) (value : Json) : Spares (value.member key) :=
  (value.member?_spares key).bind fun _ => spares_pure _

theorem memberOr_spares (key : String) (value default : Json) : Spares (value.memberOr key default) :=
  (value.member?_spares key).bind fun _ => spares_pure _

theorem required_spares (key : String) (value : Json) : Spares (value.required key) := by
  unfold required
  split
  · split
    · exact spares_pure _
    · exact spares_throw rfl
  · exact spares_throw rfl
  · exact spares_throw rfl
  · exact spares_throw rfl

theorem items_spares (value : Json) : Spares value.items := by
  unfold items
  split
  · exact spares_pure _
  · exact spares_pure _
  · exact spares_pure _
  · exact spares_throw rfl

end Json

/-- Files and settings are not at fault for a change. -/
def Request.Spared : (question : Request) → question.Reply → Prop
  | .settings, reply => Spares reply
  | .isFile _, reply => Spares reply
  | .readFile _, reply => Spares reply
  | _, _ => True

instance (question : Request) (reply : question.Reply) : Decidable (question.Spared reply) := by
  unfold Request.Spared
  split <;> infer_instance

/-- No service failed, and nothing else is at fault for a change. -/
structure Exchange.IsFair (exchange : Exchange) : Prop where
  whole : exchange.isBreak = false
  spared : exchange.question.Spared exchange.reply

instance (exchange : Exchange) : Decidable exchange.IsFair :=
  decidable_of_iff (_ ∧ _) ⟨fun ⟨whole, spared⟩ => ⟨whole, spared⟩, fun fair => ⟨fair.whole, fair.spared⟩⟩

namespace Program
variable {program : Program α} {ends weaker : List Exchange → α → Prop} {last : List Exchange → β → Prop}

/-- Leads there as long as all replies are fair. -/
def FairlyLeads (program : Program α) (ends : List Exchange → α → Prop) : Prop :=
  program.Leads fun asked value => (∀ exchange ∈ asked, exchange.IsFair) → ends asked value

theorem FairlyLeads.pure {value : α} (done : ends [] value) : (Program.pure value).FairlyLeads ends :=
  fun _ _ _ => done

theorem FairlyLeads.ask {question : Request} {next : question.Reply → Program α}
    (rest : ∀ reply, Exchange.IsFair ⟨question, reply⟩ →
      (next reply).FairlyLeads fun asked value => ends (⟨question, reply⟩ :: asked) value) :
    (Program.request question next).FairlyLeads ends := by
  intro replies made fair
  obtain ⟨own, others⟩ := List.forall_mem_cons.mp fair
  exact rest _ own replies (made + 1) others

theorem FairlyLeads.mono (leads : program.FairlyLeads ends) (implies : ∀ asked value, ends asked value → weaker asked value) :
    program.FairlyLeads weaker :=
  fun replies made fair => implies _ _ (leads replies made fair)

theorem FairlyLeads.bind {next : α → Program β} (first : program.FairlyLeads ends)
    (rest : ∀ asked value, ends asked value →
      (next value).FairlyLeads fun further outcome => last (asked ++ further) outcome) :
    (program >>= next).FairlyLeads last := by
  intro replies made
  rw [exchanges_bind, result_bind]
  intro fair
  obtain ⟨front, back⟩ := List.forall_mem_append.mp fair
  exact rest _ _ (first replies made front) replies _ back

/-- Asks only what is allowed, and ends well, as long as all replies are fair. -/
def Calm (program : Program α) (allowed : Request → Prop) (good : α → Prop) : Prop :=
  program.FairlyLeads fun asked value => (∀ exchange ∈ asked, allowed exchange.question) ∧ good value

section Calm
variable {allowed wider : Request → Prop} {good : α → Prop} {best : β → Prop}

theorem calm_pure {value : α} (done : good value) : (Program.pure value).Calm allowed good :=
  .pure ⟨List.forall_mem_nil _, done⟩

theorem calm_ask {question : Request} (fine : allowed question) {next : question.Reply → Program α}
    (rest : ∀ reply, Exchange.IsFair ⟨question, reply⟩ → (next reply).Calm allowed good) :
    (Program.request question next).Calm allowed good := by
  refine .ask fun reply fair => (rest reply fair).mono fun asked value ends => ⟨?_, ends.2⟩
  exact List.forall_mem_cons.mpr ⟨fine, ends.1⟩

theorem Calm.bind {next : α → Program β} (first : program.Calm allowed good)
    (rest : ∀ value, good value → (next value).Calm allowed best) : (program >>= next).Calm allowed best := by
  refine FairlyLeads.bind first fun asked value ends => (rest value ends.2).mono fun further outcome done => ⟨?_, done.2⟩
  exact List.forall_mem_append.mpr ⟨ends.1, done.1⟩

end Calm

end Program

namespace Action
open Program
variable {allowed wider : Request → Prop} {action : Action α} {next : α → Action β}

/-- Asks only what is allowed, and ends in no fault of a change, as long as all replies are fair. -/
def Calm (action : Action α) (allowed : Request → Prop) : Prop :=
  action.run.FairlyLeads fun asked outcome => (∀ exchange ∈ asked, allowed exchange.question) ∧ Spares outcome

theorem calm_ofOutcome {outcome : Outcome α} (spares : Spares outcome) : (ofOutcome outcome).Calm allowed :=
  Program.calm_pure spares

theorem calm_pure (value : α) : (pure value : Action α).Calm allowed := Program.calm_pure (spares_ok value)

theorem calm_throw {fault : Fault} (mild : fault.isUnfinished = false) : (throw fault : Action α).Calm allowed :=
  Program.calm_pure (spares_error mild)

theorem Calm.mono (calm : action.Calm allowed) (implies : ∀ question, allowed question → wider question) :
    action.Calm wider :=
  FairlyLeads.mono calm fun _ _ ends => ⟨fun exchange among => implies _ (ends.1 exchange among), ends.2⟩

/-- Holds of any end without a fault of a change, and still holds when questions of a kind come first. -/
structure Ignores (ends : List Exchange → Outcome α → Prop) (allowed : Request → Prop) : Prop where
  failed : ∀ asked fault, (∀ exchange ∈ asked, allowed exchange.question) → fault.isUnfinished = false → ends asked (.error fault)
  before : ∀ look asked told, (∀ exchange ∈ look, allowed exchange.question) → ends asked told → ends (look ++ asked) told

theorem Calm.before {ends : List Exchange → Outcome β → Prop} (first : action.Calm allowed) (ignores : Ignores ends allowed)
    (rest : ∀ value, (next value).run.FairlyLeads ends) : (action >>= next).run.FairlyLeads ends := by
  rw [ExceptT.run_bind]
  refine FairlyLeads.bind first fun asked outcome done => ?_
  cases outcome with
  | ok value => exact (rest value).mono fun further told => ignores.before asked further told done.1
  | error fault =>
    apply FairlyLeads.pure
    rw [List.append_nil]
    exact ignores.failed asked fault done.1 (done.2 fault rfl)

theorem Calm.bind (first : action.Calm allowed) (rest : ∀ value, (next value).Calm allowed) : (action >>= next).Calm allowed := by
  refine Calm.before first ⟨?_, ?_⟩ rest
  · exact fun asked fault fine mild => ⟨fine, spares_error mild⟩
  · exact fun look asked told fine ends => ⟨List.forall_mem_append.mpr ⟨fine, ends.1⟩, ends.2⟩

theorem calm_call {call : Call} (fine : allowed (.call call)) (kept : (Request.call call).isDeletion = false) :
    (Action.call call).Calm allowed := by
  refine calm_ask fine fun reply fair => Program.calm_pure ?_
  cases reply with
  | ok value => exact spares_ok value
  | error fault =>
    have whole := fair.whole
    rw [Exchange.isBreak, kept] at whole
    cases whole

theorem calm_isFile {path : String} (fine : allowed (.isFile path)) : (Files.isFile path).Calm allowed :=
  calm_ask fine fun _ fair => Program.calm_pure fair.spared

theorem calm_readOctets {path : String} (fine : allowed (.readFile path)) : (Files.readOctets path).Calm allowed :=
  calm_ask fine fun _ fair => Program.calm_pure fair.spared

theorem calm_settings (fine : allowed .settings) : Action.settings.Calm allowed :=
  calm_ask fine fun _ fair => Program.calm_pure fair.spared

theorem calm_place (fine : allowed .place) : (Action.get .place).Calm allowed :=
  calm_ask fine fun _ _ => Program.calm_pure (spares_ok _)

end Action

end DocScribe
