import DocScribe.Proofs.Service.Transcript
import DocScribe.Tools.Export
import DocScribe.Tools.Read

/-! What the guard makes of a tool: how often it is tried, what is asked, and what is told in the end. -/

namespace DocScribe.Tools
open Service Program

/-- A body that is tried again and again, with a pause behind each try. -/
structure Tries (α : Type) where
  body : Action α
  replies : Replies
  /-- The questions that were asked before. -/
  made : Nat

namespace Tries

def start (tries : Tries α) : (number : Nat) → Nat
  | 0 => tries.made
  | number + 1 =>
    tries.start number + (tries.body.run.exchanges tries.replies (tries.start number)).length + 1

def asks (tries : Tries α) (number : Nat) : List Exchange :=
  tries.body.run.exchanges tries.replies (tries.start number)

def outcome (tries : Tries α) (number : Nat) : Outcome α :=
  tries.body.run.result tries.replies (tries.start number)

def breaks (tries : Tries α) (number : Nat) : Prop :=
  ∃ message, tries.outcome number = .error (.secureChannel message)

/-- All but the last of some tries are followed by a pause, each twice as long as the one before. -/
def transcript (tries : Tries α) (first count : Nat) : List Exchange :=
  (List.range' first count).flatMap (fun number => tries.asks number ++ [⟨.pause (Nat.pow 2 number), ()⟩]) ++
    tries.asks (first + count)

/-- The number of the last try, when a broken one is followed by another up to `limit` times. -/
structure Stops (tries : Tries α) (limit last : Nat) : Prop where
  within : last ≤ limit
  broken : ∀ number < last, tries.breaks number
  settled : last < limit → ¬tries.breaks last

variable {tries : Tries α} {limit last : Nat}

theorem Stops.eq_limit (stops : tries.Stops limit last) (broken : tries.breaks last) : last = limit := by
  rcases Nat.eq_or_lt_of_le stops.within with all | fewer
  · exact all
  · exact absurd broken (stops.settled fewer)

theorem Stops.eq_min (stops : tries.Stops limit last) {count : Nat}
    (broken : ∀ number < count, tries.breaks number) (settled : ¬tries.breaks count) :
    last = min limit count := by
  have within := stops.within
  rcases Nat.lt_trichotomy last count with early | same | late
  · have all := stops.eq_limit (broken last early)
    omega
  · omega
  · exact absurd (stops.broken count late) settled

end Tries

namespace Guard

/-- What a fault of the last try, the one after `failed` others, becomes. -/
inductive Reports (guard : Guard) (failed : Nat) : Fault → Fault → Prop where
  | kept {fault} (reported : fault.isReported = true) : Reports guard failed fault fault
  | broken {message} : Reports guard failed (.secureChannel message)
      (.transientNetwork
        (s!"A transient SSL error occurred in '{guard.tool}' after {failed + 1} attempt(s). " ++
          "This is likely a temporary network or certificate issue. Please try again shortly.") none)
  | notFound {text} : Reports guard failed (.http 404 text)
      (.notFound ("Doc not found or not a Google Doc (id=" ++
        (if guard.documentId.truthy then guard.documentId.display else "unknown") ++ ")"))
  | denied {text} : Reports guard failed (.http 403 text)
      (.permissionDenied "Permission denied. You may not have access to this document." (some 403))
  | expired {text} : Reports guard failed (.http 401 text)
      (.authentication "Authentication expired. Please re-authorize.")
  | limited {text} : Reports guard failed (.http 429 text)
      (.rateLimited "Rate limit exceeded. Please wait and try again." (some 429))
  | refused {status text} (other : status ∉ [404, 403, 401, 429]) :
      Reports guard failed (.http status text) (.api s!"Google API error: {text}" (some status))
  | unexpected {fault} (foreign : fault.isReported = false) (silent : ∀ message, fault ≠ .secureChannel message)
      (unanswered : ∀ status text, fault ≠ .http status text) :
      Reports guard failed fault
        (.api s!"An unexpected error occurred in {guard.tool}: {fault.message}" none)

/-- The end of a run whose last try came after `failed` others. -/
inductive Judges (guard : Guard) (failed : Nat) : Outcome α → Outcome α → Prop where
  | value {value} : Judges guard failed (.ok value) (.ok value)
  | fault {cause told} (reports : guard.Reports failed cause told) :
      Judges guard failed (.error cause) (.error told)

variable {guard : Guard} {failed : Nat} {cause told : Fault}

theorem Reports.isReported (reports : guard.Reports failed cause told) : told.isReported = true := by
  cases reports with
  | kept reported => exact reported
  | _ => rfl

theorem Reports.eq_cause (reports : guard.Reports failed cause told) (reported : cause.isReported = true) :
    told = cause := by
  cases reports with
  | kept => rfl
  | unexpected foreign => exact absurd (reported.symm.trans foreign) Bool.noConfusion
  | _ => cases reported

theorem Judges.isReported {outcome : Outcome α} (judges : guard.Judges failed outcome (.error told)) :
    told.isReported = true := by
  cases judges with
  | fault reports => exact reports.isReported

theorem Judges.eq_outcome {outcome told : Outcome α} (judges : guard.Judges failed outcome told)
    (reported : ∀ fault, outcome = .error fault → fault.isReported = true) : told = outcome := by
  cases judges with
  | value => rfl
  | fault reports => rw [reports.eq_cause (reported _ rfl)]

theorem Judges.transient {message : String} {outcome : Outcome α}
    (judges : guard.Judges failed (.error (.secureChannel message)) outcome) :
    ∃ text, outcome = .error (.transientNetwork text none) := by
  cases judges with
  | fault reports =>
    cases reports with
    | kept reported => cases reported
    | broken => exact ⟨_, rfl⟩
    | unexpected _ silent _ => exact absurd rfl (silent message)

private theorem reports_explain (guard : Guard) (failed : Nat) (status : Int) (text : String) :
    guard.Reports failed (.http status text) (explain (.http status text) guard.documentId) := by
  unfold explain
  rw [status?]
  split
  next missing => cases missing; exact .notFound
  next denied => cases denied; exact .denied
  next expired => cases expired; exact .expired
  next limited => cases limited; exact .limited
  next missing denied expired limited =>
    refine .refused fun known => ?_
    simp only [List.mem_cons, List.not_mem_nil, or_false] at known
    rcases known with rfl | rfl | rfl | rfl
    · exact missing rfl
    · exact denied rfl
    · exact expired rfl
    · exact limited rfl

private theorem reports_report (guard : Guard) (failed : Nat)
    (silent : ∀ message, cause ≠ .secureChannel message) :
    guard.Reports failed cause (guard.report cause) := by
  unfold report
  split
  next reported => exact .kept reported
  next foreign =>
    split
    next status text => exact reports_explain guard failed status text
    next unanswered => exact .unexpected (by simpa using foreign) silent unanswered

variable (guard) {tries : Tries α} {left : Nat}

theorem runFrom_settled (settled : ¬tries.breaks failed) :
    (guard.runFrom tries.body left failed).exchanges tries.replies (tries.start failed) =
        tries.asks failed ∧
      guard.Judges failed (tries.outcome failed)
        ((guard.runFrom tries.body left failed).result tries.replies (tries.start failed)) := by
  unfold runFrom
  rw [exchanges_bind, result_bind]
  generalize ended : tries.body.run.result tries.replies (tries.start failed) = outcome
  rw [show tries.outcome failed = outcome from ended]
  split
  next value => exact ⟨List.append_nil _, .value⟩
  next message => exact absurd ⟨message, ended⟩ settled
  next cause silent => exact ⟨List.append_nil _, .fault (reports_report guard failed silent)⟩

private theorem runFrom_last (breaks : tries.breaks failed) :
    (guard.runFrom tries.body 0 failed).exchanges tries.replies (tries.start failed) =
        tries.asks failed ∧
      guard.Judges failed (tries.outcome failed)
        ((guard.runFrom tries.body 0 failed).result tries.replies (tries.start failed)) := by
  obtain ⟨message, ended⟩ := breaks
  unfold runFrom
  rw [exchanges_bind, result_bind, ended, show tries.body.run.result _ _ = _ from ended]
  exact ⟨List.append_nil _, .fault .broken⟩

private theorem runFrom_again (breaks : tries.breaks failed) :
    (guard.runFrom tries.body (left + 1) failed).exchanges tries.replies (tries.start failed) =
        tries.asks failed ++ ⟨.pause (Nat.pow 2 failed), ()⟩ ::
          (guard.runFrom tries.body left (failed + 1)).exchanges tries.replies (tries.start (failed + 1)) ∧
      (guard.runFrom tries.body (left + 1) failed).result tries.replies (tries.start failed) =
        (guard.runFrom tries.body left (failed + 1)).result tries.replies (tries.start (failed + 1)) := by
  obtain ⟨message, ended⟩ := breaks
  conv => enter [1, 1]; unfold runFrom
  conv => enter [2, 1]; unfold runFrom
  rw [exchanges_bind, result_bind, show tries.body.run.result _ _ = _ from ended]
  exact ⟨rfl, rfl⟩

private theorem runFrom_tries (tries : Tries α) (left failed : Nat) :
    ∃ count ≤ left, (∀ number, failed ≤ number → number < failed + count → tries.breaks number) ∧
      (count < left → ¬tries.breaks (failed + count)) ∧
      (guard.runFrom tries.body left failed).exchanges tries.replies (tries.start failed) =
        tries.transcript failed count ∧
      guard.Judges (failed + count) (tries.outcome (failed + count))
        ((guard.runFrom tries.body left failed).result tries.replies (tries.start failed)) := by
  induction left generalizing failed with
  | zero =>
    refine ⟨0, Nat.le_refl 0, fun number _ _ => by omega, fun none => by omega, ?_⟩
    by_cases breaks : tries.breaks failed
    · exact runFrom_last guard breaks
    · exact runFrom_settled guard breaks
  | succ left ih =>
    by_cases breaks : tries.breaks failed
    · obtain ⟨count, within, broken, final, asked, judged⟩ := ih (failed + 1)
      obtain ⟨again, same⟩ := runFrom_again guard breaks
      have later : failed + 1 + count = failed + (count + 1) := by omega
      rw [later] at final judged
      refine ⟨count + 1, by omega, fun number from_ before => ?_, fun fewer => final (by omega), ?_, ?_⟩
      · rcases Nat.eq_or_lt_of_le from_ with rfl | after
        · exact breaks
        · exact broken number after (by omega)
      · rw [again, asked, Tries.transcript, Tries.transcript, List.range'_succ, List.flatMap_cons, later]
        simp
      · rw [same]
        exact judged
    · exact ⟨0, by omega, fun number _ _ => by omega, fun _ => breaks, runFrom_settled guard breaks⟩

end Guard

/-- A tool with its arguments. -/
inductive Tool where
  | create (document : NewDocument)
  | update (documentId : String) (change : Update)
  | copy (documentId : String) (title folder : Option String)
  | save (documentId : String) (target : Export)
  | info (documentId : String) (asJson : Bool)
  | read (documentId : String) (query : ContentQuery)
  | tabs (documentId : String) (asJson : Bool)

namespace Tool

def action : Tool → Action String
  | .create document => createDocument document
  | .update documentId change => updateDocument documentId change
  | .copy documentId title folder => copyDocument documentId title folder
  | .save documentId target => exportDocument documentId target
  | .info documentId asJson => documentInfo documentId asJson
  | .read documentId query => documentContent documentId query
  | .tabs documentId asJson => documentTabs documentId asJson

/-- A tool without its guard. -/
def body : Tool → Action String
  | .create document => document.make
  | .update documentId change => change.write documentId
  | .copy documentId title folder => makeCopy documentId title folder
  | .save documentId target => target.save documentId
  | .info documentId asJson => Info.read documentId asJson
  | .read documentId query => query.read documentId
  | .tabs documentId asJson => readTabs documentId asJson

def guard : Tool → Guard
  | .create _ => { tool := "create_doc" }
  | .update documentId _ => { tool := "update_doc", documentId := .str documentId }
  | .copy documentId .. => { tool := "copy_doc", documentId := .str documentId }
  | .save documentId _ => { tool := "export_doc", isReadOnly := true, documentId := .str documentId }
  | .info documentId _ => { tool := "get_doc_info", isReadOnly := true, documentId := .str documentId }
  | .read documentId _ =>
    { tool := "get_doc_content", isReadOnly := true, documentId := .str documentId }
  | .tabs documentId _ => { tool := "list_doc_tabs", isReadOnly := true, documentId := .str documentId }

def writes : Tool → Bool
  | .create _ => true
  | .update .. => true
  | .copy .. => true
  | _ => false

private theorem action_run (tool : Tool) :
    tool.action.run = tool.guard.runFrom tool.body (if tool.writes then 0 else 2) 0 := by
  cases tool <;> rfl

theorem exists_lastTry (tool : Tool) (replies : Replies) (made : Nat) :
    let tries : Tries String := ⟨tool.body, replies, made⟩
    ∃ failed, tries.Stops (if tool.writes then 0 else 2) failed ∧
      tool.action.run.exchanges replies made = tries.transcript 0 failed ∧
      tool.guard.Judges failed (tries.outcome failed) (tool.action.run.result replies made) := by
  intro tries
  obtain ⟨failed, within, broken, settled, asked, judged⟩ :=
    tool.guard.runFrom_tries tries (if tool.writes then 0 else 2) 0
  rw [← tool.action_run] at asked judged
  simp only [Nat.zero_le, Nat.zero_add, forall_const] at broken settled judged
  exact ⟨failed, ⟨within, broken, settled⟩, asked, judged⟩

end Tool

/-- A tool that only reads is tried up to three times, as long as its connection breaks, and one that writes is tried once. What
the last try comes to is told as a fault that tools report. -/
theorem tool_tries (tool : Tool) (replies : Replies) (made : Nat) :
    let tries : Tries String := ⟨tool.body, replies, made⟩
    let limit := if tool.writes then 0 else 2
    let told := tool.action.run.result replies made
    ∃ failed, (∀ count, (∀ number < count, tries.breaks number) → ¬tries.breaks count →
        failed = min limit count) ∧
      ((∀ number, tries.breaks number) → failed = limit) ∧
      tool.action.run.exchanges replies made = tries.transcript 0 failed ∧
      tool.guard.Judges failed (tries.outcome failed) told ∧
      (∀ fault, told = .error fault → fault.isReported = true) ∧
      (tool.writes = false → (∀ number < 3, tries.breaks number) →
        ∃ message, told = .error (.transientNetwork message none)) := by
  intro tries limit told
  obtain ⟨failed, stops, asked, judged⟩ := tool.exists_lastTry replies made
  change tries.Stops limit failed at stops
  change tool.guard.Judges failed _ told at judged
  refine ⟨failed, fun count => stops.eq_min, fun all => stops.eq_limit (all failed), asked, judged,
    fun fault ended => ?_, fun reads breaks => ?_⟩
  · exact Guard.Judges.isReported (ended ▸ judged)
  · have most : limit = 2 := by simp [limit, reads]
    have within := stops.within
    obtain ⟨message, ended⟩ := breaks failed (by omega)
    exact Guard.Judges.transient (ended ▸ judged)

end DocScribe.Tools
