import DocScribe.Proofs.Docs.SafePictures
import DocScribe.Proofs.Tools.StoppedWrites

/-! The batches of the tools that write. A document that ends in a line end takes each of them, whatever
the calls in between reply. -/

namespace DocScribe.Tools
open Docs Service Program

/-- Changes no document. -/
def Reads (action : Action α) : Prop := Program.Asks (·.writes = false) action.run

private theorem reads_pure (value : α) : Reads (pure value) := Asks.pure

private theorem reads_throw (fault : Fault) : Reads (throw fault : Action α) := Asks.pure

private theorem reads_ofOutcome (outcome : Outcome α) : Reads (Action.ofOutcome outcome) := Asks.pure

theorem Reads.bind {action : Action α} {next : α → Action β} (first : Reads action)
    (rest : ∀ value, Reads (next value)) : Reads (action >>= next) := Asks.andThen first rest

private theorem authorize_reads (service scopes : String) : Reads (authorize service scopes) :=
  Asks.ask rfl fun _ => .pure

private theorem settings_reads : Reads Action.settings := Asks.ask rfl fun _ => .pure

private theorem fileContent_reads (file : String) : Reads (fileContent file) := by
  have home : Reads (Files.userPath file) := by
    refine Asks.andThen (.ask rfl fun place => .pure) fun place => ?_
    split
    · exact reads_pure _
    · exact reads_throw _
  have text (path : String) : Reads (Files.readText path) := by
    refine Asks.andThen (.ask rfl fun octets => .pure) fun octets => ?_
    split
    · exact reads_pure _
    · exact reads_throw _
  refine home.bind fun path => Asks.andThen (.ask rfl fun isThere => .pure) fun isThere => ?_
  split
  · exact (reads_throw _).bind fun _ => text _
  · exact text _

private theorem contentOf_reads (content file : Option String) : Reads (contentOf content file) := by
  have body : Reads (if file.getD "" != "" then fileContent (file.getD "") else pure (content.getD "")) := by
    split
    · exact fileContent_reads _
    · exact reads_pure _
  unfold contentOf
  dsimp only
  split
  · exact (reads_throw _).bind fun _ => body
  · exact body

section Tools
variable {documents : Documents} {live : Int}

private theorem run_safe {guard : Guard} (once : guard.isReadOnly = false) {body : Action α}
    (safe : SafeAction (fun _ _ => True) documents body) : Safe (fun _ _ => True) documents (guard.run body).run := by
  have single : (guard.run body).run = guard.runFrom body 0 0 := by
    rw [Guard.run, once]
    rfl
  rw [single]
  unfold Guard.runFrom
  refine Safe.bind safe fun outcome after _ => ?_
  split
  · exact .pure trivial
  · exact .pure trivial
  · exact .pure trivial

/-- Where a text goes, it goes in front of the last line end, behind what is deleted for it. -/
theorem placement_fits (append : Bool) {stop : Int} (some : 2 ≤ stop) :
    let (base, preamble, insertEnd) := placement append stop
    1 ≤ base ∧ base < insertEnd ∧ Fits stop preamble ∧ stop + growthOf preamble = insertEnd := by
  cases append with
  | true =>
    refine ⟨?_, ?_, trivial, Int.add_zero _⟩
    · exact Int.le_max_right _ _
    · omega
  | false =>
    by_cases more : emptyDocumentEnd < stop
    · have fits : Fits stop [.deleteRange 1 (stop - 1)] := by
        refine fits_single ⟨Int.le_refl _, ?_, ?_⟩
        · simp only [emptyDocumentEnd] at more
          omega
        · omega
      simp only [placement, Bool.false_eq_true, ↓reduceIte, more, growthOf_cons, growthOf_nil, Edit.growth]
      simp only [emptyDocumentEnd] at more ⊢
      exact ⟨Int.le_refl _, by omega, fits, by omega⟩
    · simp only [placement, Bool.false_eq_true, ↓reduceIte, more, growthOf_nil]
      simp only [emptyDocumentEnd] at more ⊢
      exact ⟨Int.le_refl _, by omega, trivial, by omega⟩

private theorem make_safe (document : NewDocument) : SafeAction (fun _ _ => True) documents document.make := by
  unfold NewDocument.make
  refine .after (authorize_reads ..) fun _ => .after (authorize_reads ..) fun _ =>
    .after (reads_ofOutcome _) fun title => .after (contentOf_reads ..) fun body => ?_
  dsimp only
  have made (metadata : FileMetadata) : SafeAction
      (fun file after => ∀ id, file.required "id" = .ok id → (after id).EndsInLine) documents
      (Action.call (.createFile metadata none)) := by
    refine Safe.ask trivial fun reply after serves => .pure ?_
    rintro file rfl
    exact serves.fresh
  refine (made _).bind fun created after fresh => ?_
  have named : SafeAction (fun id after => (after id).EndsInLine) after (Action.ofOutcome (created.required "id")) :=
    SafeAction.ofOutcome fresh
  refine named.bind fun id after ends => .after (reads_ofOutcome _) fun given => ?_
  generalize (if given.truthy = true then _ else _) = link
  have held : Held id (after id).length after := ⟨ends, rfl⟩
  have long := ends.two_le
  split
  · exact SafeAction.pure trivial
  next written =>
    split
    · refine .after settings_reads fun settings => ?_
      refine SafeAction.bind (WriteTarget.write_safe held (Int.le_refl _) ?_ rfl ?_ ?_ body)
        fun report _ _ => SafeAction.pure trivial
      · exact (by decide : (1 : Int) < emptyDocumentEnd)
      · trivial
      · simp only [growthOf_nil, emptyDocumentEnd]
        omega
    · have fits : Fits (after id).length [.insertText 1 body] :=
        fits_single ⟨Int.le_refl _, by omega, by simpa using written⟩
      exact (held.edit fits).bind fun _ _ _ => SafeAction.pure trivial

private theorem enter_safe (update : Update) {id text : String} (format : String) (given : text ≠ "")
    (held : (documents (.str id)).EndsInLine) : SafeAction (fun _ _ => True) documents (update.enter id format text) := by
  unfold Update.enter
  refine (SafeAction.view _).bind fun document after shown => ?_
  obtain ⟨rfl, shows⟩ := shown
  have long := held.two_le
  have held : Held (.str id) (after (.str id)).length after := ⟨held, rfl⟩
  obtain ⟨positive, inside, fits, whole⟩ : _ ∧ _ ∧ _ ∧ _ :=
    placement_fits update.append (show 2 ≤ ((after (.str id)).length : Int) by omega)
  have ended : SafeAction (fun stop later => later = after ∧ stop = .int (after (.str id)).length) after
      (Action.ofOutcome (documentEnd document)) :=
    SafeAction.ofOutcome fun stop found => ⟨rfl, Except.ok.inj (found.symm.trans shows.ends)⟩
  have number (stop : Int) : SafeAction (fun value later => later = after ∧ value = stop) after
      (Action.ofOutcome (endNumber update.append (.int stop))) :=
    SafeAction.ofOutcome fun value found => ⟨rfl, (Except.ok.inj found).symm⟩
  refine ended.bind fun stop later same => ?_
  obtain ⟨rfl, rfl⟩ := same
  refine (number _).bind fun stop finished same => ?_
  obtain ⟨rfl, rfl⟩ := same
  dsimp only
  split
  · refine .after settings_reads fun settings => ?_
    exact SafeAction.bind (WriteTarget.write_safe held positive inside rfl fits (Int.le_of_eq whole.symm) text)
      fun report _ _ => SafeAction.pure trivial
  · have batch : Fits ((finished (.str id)).length + growthOf _) [.insertText _ text] :=
      fits_single ⟨positive, whole ▸ inside, given⟩
    exact (held.edit (fits_append fits batch)).bind fun _ _ _ => SafeAction.pure trivial

private theorem write_safe (documentId : String) (update : Update)
    (ends : ∀ id, Validation.documentId documentId = .ok id → (documents (.str id)).EndsInLine) :
    SafeAction (fun _ _ => True) documents (update.write documentId) := by
  rw [Update.write_eq]
  have identified : SafeAction (fun id after => after = documents ∧ (documents (.str id)).EndsInLine) documents
      (Action.ofOutcome (Validation.documentId documentId)) :=
    SafeAction.ofOutcome fun id valid => ⟨rfl, ends id valid⟩
  refine .after (authorize_reads ..) fun _ => .after (authorize_reads ..) fun _ =>
    identified.bind fun id after held => ?_
  obtain ⟨rfl, held⟩ := held
  refine .after (reads_ofOutcome _) fun format => .after (contentOf_reads ..) fun text => ?_
  dsimp only
  split
  · have stopped (fault : Fault) : SafeAction (fun _ _ => False) after (throw fault : Action PUnit) :=
      SafeAction.throw fault
    exact (stopped _).bind fun _ _ impossible => impossible.elim
  next given => exact enter_safe update format (by simpa using given) held

namespace WritingTool

/-- The document that is updated, if there is one, ends in a line end. -/
def Ready (documents : Documents) : WritingTool → Prop
  | .create _ => True
  | .update documentId _ => ∀ id, Validation.documentId documentId = .ok id → (documents (.str id)).EndsInLine

private theorem action_safe (tool : WritingTool) (ready : tool.Ready documents) :
    Safe (fun _ _ => True) documents tool.action.run := by
  cases tool with
  | create document => exact run_safe rfl (make_safe document)
  | update documentId content => exact run_safe rfl (write_safe documentId content ready)

end WritingTool

end Tools

/-- Every batch that a tool sends is valid on the document as it stands at that moment, and leaves the
last line end. -/
theorem requests_valid (tool : WritingTool) (replies : Replies) (states : Nat → Documents)
    (ready : tool.Ready (states 0))
    (serves : ∀ number exchange, (tool.action.run.exchanges replies 0)[number]? = some exchange →
      Serves (states number) (states (number + 1)) exchange.question exchange.reply)
    (number : Nat) (documentId : Identifier) (edits : List Edit) (reply : Outcome Json)
    (sent : (tool.action.run.exchanges replies 0)[number]? = some ⟨.call (.editDocument documentId edits), reply⟩) :
    (states number documentId).EndsInLine ∧ Accepts (states number documentId) edits := by
  have start : states 0 = states 0 := rfl
  have valid := (tool.action_safe ready).accepts start (fun number exchange found => ?_) sent
  · rwa [Nat.zero_add] at valid
  · rw [Nat.zero_add]
    exact serves number exchange found

/-- A body that holds one character. -/
def shortBody : LiveBody := plainSlots [.other 0, .code 120, .code 10]

/-- Replies of a service that keeps such a body. -/
def shortReplies : Replies := fun _ question =>
  match question with
  | .call (.getDocument ..) => .ok (paragraphJson 3 [⟨1, "x\n"⟩])
  | .call (.editDocument ..) => .ok .null
  | question => (Rehearsal.World.answer {} question).1

/-- The name of the document that is edited, and the number of edits. -/
def editsOf : Request → Option (String × Nat)
  | .call (.editDocument documentId edits) => some (documentId.display, edits.length)
  | _ => none

private theorem shortReplies_serves (made : Nat) {question : Request} (still : question.writes = false) :
    Serves (fun _ => shortBody) (fun _ => shortBody) question (shortReplies made question) := by
  have shows : Shows (paragraphJson 3 [⟨1, "x\n"⟩]) shortBody :=
    ⟨rfl, [⟨1, "x\n"⟩], paragraphJson_shows 3 (by decide), by decide, by decide⟩
  cases question with
  | call call => cases call with
    | editDocument => cases still
    | getDocument documentId view => cases view with
      | body => exact ⟨rfl, shows⟩
      | _ => rfl
    | createFile metadata upload => cases upload with
      | none => cases still
      | some content => rfl
    | _ => rfl
  | _ => rfl

/-- A heading takes the place of the character: it is deleted, and a text goes in with its style. -/
theorem requests_valid_replacedCharacter :
    let tool := WritingTool.update "d" { content := some "# a", format := some "markdown" }
    let asked := tool.action.run.exchanges shortReplies 0
    ∃ (states : Nat → Documents) (documentId : Identifier) (edits : List Edit) (reply : Outcome Json),
      states 0 = (fun _ => shortBody) ∧ documentId.display = "d" ∧ edits.length = 3 ∧
        asked[4]? = some ⟨.call (.editDocument documentId edits), reply⟩ ∧
        (states 4 documentId).EndsInLine ∧ Accepts (states 4 documentId) edits := by
  intro tool asked
  have length : asked.length = 5 := by decide +kernel
  have quiet : ∀ exchange ∈ asked.take 4, exchange.question.writes = false := by decide +kernel
  have last : asked[4]?.bind (fun exchange => editsOf exchange.question) = some ("d", 3) := by decide +kernel
  obtain ⟨⟨question, reply⟩, there, found⟩ := Option.bind_eq_some_iff.mp last
  have told := exchanges_told there
  obtain ⟨documentId, edits, rfl⟩ : ∃ documentId edits, question = .call (.editDocument documentId edits) := by
    cases question with
    | call call => cases call with
      | editDocument documentId edits => exact ⟨documentId, edits, rfl⟩
      | _ => cases found
    | _ => cases found
  obtain ⟨named, three⟩ : documentId.display = "d" ∧ edits.length = 3 := by
    simpa [editsOf] using found
  classical
  let start : Documents := fun _ => shortBody
  let states (number : Nat) : Documents := if number ≤ 4 then start
    else fun other => if other = documentId then applyEdits (fun _ => true) edits shortBody else shortBody
  have valid := requests_valid tool shortReplies states (fun _ _ => ?_) ?_ 4 documentId edits reply there
  · exact ⟨states, documentId, edits, reply, rfl, named, three, there, valid⟩
  · exact ⟨[.other 0, .code 120], by simp, rfl⟩
  · intro number exchange asks
    obtain ⟨inside, -⟩ := List.getElem?_eq_some_iff.mp asks
    change number < asked.length at inside
    by_cases early : number < 4
    · have still : exchange.question.writes = false := by
        have among : (asked.take 4)[number]? = some exchange := by
          rw [List.getElem?_take_of_lt early]
          exact asks
        exact quiet exchange (List.mem_of_getElem? among)
      have now : states number = start := if_pos (by omega)
      have next : states (number + 1) = start := if_pos (by omega)
      rw [now, next, exchanges_told asks, Nat.zero_add]
      exact shortReplies_serves number still
    · obtain rfl : number = 4 := by omega
      cases there.symm.trans asks
      cases told
      have now : states 4 = start := if_pos (Nat.le_refl _)
      have next : states 5 = fun other => if other = documentId then applyEdits (fun _ => true) edits shortBody
        else shortBody := if_neg (by decide)
      rw [now, next]
      exact ⟨if_pos rfl, fun other different => if_neg different⟩

end DocScribe.Tools
