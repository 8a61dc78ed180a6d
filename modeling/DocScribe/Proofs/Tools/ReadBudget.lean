import DocScribe.Proofs.Docs.TextBudget
import DocScribe.Proofs.Tools.GuardedTries
import DocScribe.Rehearsal.World
import Mathlib.Algebra.GroupWithZero.Nat

/-! How much of a document a reading shows. Each text has the whole budget for itself, so the budget bounds a reading
of one text, but one of all tabs only if the starts that are shown of them fit in it together. -/

namespace DocScribe.Tools
open DocScribe Docs Service Program

def octets (texts : List String) : Nat := (texts.map String.utf8ByteSize).sum

namespace ContentQuery
variable (query : ContentQuery)

def readsAllTabs : Bool := query.tab?.isNone && query.allTabs

/-- What is asked for: the body alone, or the tabs with their bodies. -/
def view : DocumentView := if query.tab?.isNone && !query.allTabs then .body else .tabs

/-- The texts that are read of a document, each by its budget. -/
def sources (document : Json) : Outcome (List (Int → Outcome String)) :=
  if query.tab?.isNone && !query.allTabs then pure [documentText document]
  else do
    let tabs ← Tab.flatten (← document.member "tabs")
    match query.tab? with
    | some name => return (← Tab.find tabs name).toList.map Tab.plainText
    | none => return tabs.map Tab.plainText

/-- A section of a text answer: a line with a title, and the text, which a line end closes unless it is empty. -/
def sectionText (title : Json) (text : String) : String :=
  let closed := if text == "" || text.endsWith "\n" then text else text ++ "\n"
  s!"=== Tab: {title.display} ===\n{closed}"

/-- An answer holds texts, and with those of tabs what identifies the tabs. -/
inductive Presents : List String → (answer : String) → Prop where
  | plain {text} (one : query.readsAllTabs = false) (plain : query.asJson = false) : Presents [text] text
  | body {text} (one : query.readsAllTabs = false) (json : query.asJson = true) :
      Presents [text] (Json.pretty (.obj [("text", .str text)]))
  | tab {text identity} (one : query.readsAllTabs = false) (json : query.asJson = true) :
      Presents [text] (Json.pretty (.obj [("tab", .obj (("text", .str text) :: identity))]))
  | sections {titles texts} (all : query.readsAllTabs = true) (plain : query.asJson = false)
      (each : titles.length = texts.length) :
      Presents texts ("\n".intercalate (List.zipWith sectionText titles texts))
  | entries {identities texts} (all : query.readsAllTabs = true) (json : query.asJson = true)
      (each : identities.length = texts.length) :
      Presents texts (Json.pretty (.obj [("tabs",
        .arr (List.zipWith (fun identity text => .obj (("text", .str text) :: identity)) identities texts))]))

def answerTo (document : Json) (maxOctets : Int) : Outcome String :=
  if query.tab?.isNone && !query.allTabs then Content.ofBody document maxOctets query.asJson
  else do
    let tabs ← Tab.flatten (← document.member "tabs")
    match query.tab? with
    | some tab => Content.ofTab tabs tab maxOctets query.asJson
    | none => Content.ofTabs tabs maxOctets query.asJson

end ContentQuery

section Sources

/-- A text that is read by a budget, of which it shows as much as fits. -/
def Budgeted (source : Int → Outcome String) : Prop :=
  ∀ budget, 0 < budget → ∀ shown, source budget = .ok shown →
    (shown.utf8ByteSize : Int) ≤ budget ∧ ∀ full, source 0 = .ok full → FillsBudget budget full shown

private theorem budgeted_empty : Budgeted fun _ => pure "" := by
  intro budget positive shown read
  cases read
  refine ⟨Int.le_of_lt positive, ?_⟩
  intro full whole
  cases whole
  exact ⟨List.prefix_refl _, Int.le_of_lt positive, fun other starts _ => starts⟩

private theorem budgeted_bind {first : Outcome α} {next : α → Int → Outcome String} (rest : ∀ value, Budgeted (next value)) :
    Budgeted fun budget => first >>= fun value => next value budget := by
  cases first with
  | error fault =>
    intro budget _ shown read
    cases read
  | ok value => exact rest value

private theorem budgeted_content (content : Json) : Budgeted (contentText content) := by
  intro budget positive shown read
  exact nodesText_budget positive read

private theorem budgeted_document (document : Json) : Budgeted (documentText document) := by
  unfold documentText
  by_cases none : !document.truthy
  · simp only [none, ↓reduceIte]
    exact budgeted_empty
  · simp only [none]
    exact budgeted_bind fun body => budgeted_bind fun content => budgeted_content content

private theorem budgeted_tab (tab : Json) : Budgeted (Tab.plainText tab) := by
  unfold Tab.plainText
  by_cases none : !tab.truthy
  · simp only [none, ↓reduceIte]
    exact budgeted_empty
  · simp only [none]
    exact budgeted_bind fun found => budgeted_bind fun body => budgeted_bind fun content => budgeted_content content

variable {query : ContentQuery}

/-- The body is read, or tabs are, of which there are several only when all of them are asked for. -/
theorem sources_cases {document : Json} {sources : List (Int → Outcome String)} (read : query.sources document = .ok sources) :
    sources = [documentText document] ∨
      ∃ tabs : List Json, sources = tabs.map Tab.plainText ∧ (query.readsAllTabs = false → tabs.length ≤ 1) := by
  rw [ContentQuery.sources] at read
  split at read
  · exact .inl (Except.ok.inj read).symm
  · next several =>
    right
    obtain ⟨listed, -, remaining⟩ := ok_of_bind read
    obtain ⟨tabs, -, named⟩ := ok_of_bind remaining
    split at named
    · obtain ⟨found, -, whole⟩ := ok_of_bind named
      refine ⟨found.toList, (Except.ok.inj whole).symm, ?_⟩
      intro _
      exact Option.length_toList_le
    · next absent =>
      refine ⟨tabs, (Except.ok.inj named).symm, ?_⟩
      intro one
      rw [ContentQuery.readsAllTabs, absent] at one
      rw [absent] at several
      simp_all

private theorem sources_budgeted {document : Json} {sources : List (Int → Outcome String)} (read : query.sources document = .ok sources) :
    ∀ source ∈ sources, Budgeted source := by
  intro source member
  rcases sources_cases read with rfl | ⟨tabs, rfl, -⟩
  · rw [List.mem_singleton.mp member]
    exact budgeted_document document
  · obtain ⟨tab, -, rfl⟩ := List.mem_map.mp member
    exact budgeted_tab tab

private theorem sources_one {document : Json} {sources : List (Int → Outcome String)} (one : query.readsAllTabs = false)
    (read : query.sources document = .ok sources) : sources.length ≤ 1 := by
  rcases sources_cases read with rfl | ⟨tabs, rfl, few⟩
  · exact Nat.le_refl 1
  · rw [List.length_map]
    exact few one

end Sources

section Answers
variable {query : ContentQuery} {document : Json} {limit : Int}

private theorem withText_ok {tab shown : Json} {text : String} (made : Tab.withText tab text = .ok shown) :
    ∃ identity, shown = .obj (("text", .str text) :: identity) := by
  obtain ⟨identity, -, whole⟩ := ok_of_bind made
  cases whole
  exact ⟨identity, rfl⟩

private theorem entry_ok {tab shown : Json} (made : (Tab.plainText tab limit >>= Tab.withText tab) = .ok shown) :
    ∃ text identity, Tab.plainText tab limit = .ok text ∧ shown = .obj (("text", .str text) :: identity) := by
  obtain ⟨text, read, marked⟩ := ok_of_bind made
  obtain ⟨identity, same⟩ := withText_ok marked
  exact ⟨text, identity, read, same⟩

private theorem titled_ok {tab : Json} {shown : String} (made : Content.titled limit tab = .ok shown) :
    ∃ text title, Tab.plainText tab limit = .ok text ∧ shown = ContentQuery.sectionText title text := by
  obtain ⟨text, read, marked⟩ := ok_of_bind made
  obtain ⟨title, -, same⟩ := ok_of_bind marked
  cases same
  exact ⟨text, title, read, rfl⟩

/-- What is shown of tabs are their texts, each with a mark of its own. -/
theorem texts_of_tabs {make : μ → String → β} {step : Json → Outcome β} {tabs : List Json} {values : List β}
    (marked : ∀ tab value, step tab = .ok value → ∃ text mark, Tab.plainText tab limit = .ok text ∧ value = make mark text)
    (done : tabs.mapM step = .ok values) :
    ∃ marks texts, List.Forall₂ (fun source text => source limit = .ok text) (tabs.map Tab.plainText) texts ∧
      marks.length = texts.length ∧ values = List.zipWith make marks texts := by
  have shown := (forall_of_mapM done).imp marked
  clear done
  induction shown with
  | nil => exact ⟨[], [], .nil, rfl, rfl⟩
  | cons first _ ih =>
    obtain ⟨text, mark, read, rfl⟩ := first
    obtain ⟨marks, texts, others, each, rfl⟩ := ih
    exact ⟨mark :: marks, text :: texts, .cons read others, congrArg Nat.succ each, rfl⟩

private theorem present_ok {asJson : Bool} {json : Outcome Json} {text : Outcome String} {answer : String}
    (presented : present asJson json text = .ok answer) :
    (asJson = true ∧ ∃ value, json = .ok value ∧ answer = value.pretty) ∨ (asJson = false ∧ text = .ok answer) := by
  cases asJson with
  | false => exact .inr ⟨rfl, presented⟩
  | true =>
    obtain ⟨value, found, rfl⟩ := ok_of_map presented
    exact .inl ⟨rfl, value, found, rfl⟩

private theorem ofTab_presents {tabs : List Json} {name answer : String} (named : query.tab? = some name)
    (answered : Content.ofTab tabs name limit query.asJson = .ok answer) :
    ∃ tab text, Tab.find tabs name = .ok (some tab) ∧ Tab.plainText tab limit = .ok text ∧ query.Presents [text] answer := by
  have one : query.readsAllTabs = false := by
    rw [ContentQuery.readsAllTabs, named]
    rfl
  obtain ⟨found, search, remaining⟩ := ok_of_bind answered
  cases found with
  | none => cases remaining
  | some tab =>
    obtain ⟨text, read, presented⟩ := ok_of_bind remaining
    refine ⟨tab, text, search, read, ?_⟩
    rcases present_ok presented with ⟨json, value, object, rfl⟩ | ⟨plain, shown⟩
    · obtain ⟨entry, made, whole⟩ := ok_of_bind object
      obtain ⟨identity, rfl⟩ := withText_ok made
      cases whole
      exact .tab one json
    · cases shown
      exact .plain one plain

private theorem ofTabs_presents {tabs : List Json} {answer : String} (all : query.readsAllTabs = true)
    (answered : Content.ofTabs tabs limit query.asJson = .ok answer) :
    ∃ texts, List.Forall₂ (fun source text => source limit = .ok text) (tabs.map Tab.plainText) texts ∧
      query.Presents texts answer := by
  rcases present_ok answered with ⟨json, value, object, rfl⟩ | ⟨plain, shown⟩
  · obtain ⟨entries, listed, whole⟩ := ok_of_bind object
    obtain ⟨identities, texts, read, each, rfl⟩ := texts_of_tabs (fun _ _ => entry_ok) listed
    cases whole
    exact ⟨texts, read, .entries all json each⟩
  · obtain ⟨sections, listed, whole⟩ := ok_of_bind shown
    obtain ⟨titles, texts, read, each, rfl⟩ := texts_of_tabs (fun _ _ => titled_ok) listed
    cases whole
    exact ⟨texts, read, .sections all plain each⟩

private theorem answerTo_presents {answer : String} (answered : query.answerTo document limit = .ok answer) :
    ∃ sources texts, query.sources document = .ok sources ∧
      List.Forall₂ (fun source text => source limit = .ok text) sources texts ∧ query.Presents texts answer := by
  rw [ContentQuery.answerTo] at answered
  rw [ContentQuery.sources]
  by_cases alone : query.tab?.isNone && !query.allTabs
  · rw [if_pos alone] at answered ⊢
    have one : query.readsAllTabs = false := by
      rw [ContentQuery.readsAllTabs]
      simp_all
    obtain ⟨text, read, shown⟩ := ok_of_bind answered
    refine ⟨_, [text], rfl, .cons read .nil, ?_⟩
    cases shown
    cases json : query.asJson with
    | true => exact .body one json
    | false => exact .plain one json
  · rw [if_neg alone] at answered ⊢
    obtain ⟨listed, member, remaining⟩ := ok_of_bind answered
    obtain ⟨tabs, flat, named⟩ := ok_of_bind remaining
    rw [bind_of_ok member, bind_of_ok flat]
    cases name : query.tab? with
    | some asked =>
      rw [name] at named
      obtain ⟨tab, text, search, read, presents⟩ := ofTab_presents name named
      exact ⟨_, [text], bind_of_ok search _, .cons read .nil, presents⟩
    | none =>
      rw [name] at named
      have all : query.readsAllTabs = true := by
        rw [ContentQuery.readsAllTabs]
        simp_all
      obtain ⟨texts, read, presents⟩ := ofTabs_presents all named
      exact ⟨_, texts, rfl, read, presents⟩

def Shown (query : ContentQuery) (limit : Int) (asked : List Exchange) (told : Outcome String) : Prop :=
  ∀ answer, told = .ok answer → ∃ id document,
    ⟨.call (.getDocument (.str id) query.view), .ok document⟩ ∈ asked ∧ query.answerTo document limit = .ok answer

private theorem shown_fault {asked : List Exchange} {fault : Fault} : Shown query limit asked (.error fault) := by
  intro answer ended
  cases ended

private theorem run_outcome_bind {first : Outcome α} {next : α → Action β} {last : α → Outcome β}
    (rest : ∀ value, (next value).run = .pure (last value)) : (liftM first >>= next).run = .pure (first >>= last) := by
  cases first with
  | error fault => rfl
  | ok value => exact rest value

private theorem call_leads (id : String) {next : Json → Action String}
    (answers : ∀ document, (next document).run = .pure (query.answerTo document limit)) :
    (Action.call (.getDocument (.str id) query.view) >>= next).run.Leads (Shown query limit) := by
  refine Program.Leads.ask ?_
  intro reply
  cases reply with
  | error fault => exact .pure shown_fault
  | ok document =>
    change (next document).run.Leads _
    rw [answers]
    exact .pure fun answer ended => ⟨id, document, by simp, ended⟩

private theorem read_leads (documentId : String) (given : query.maxOctets = some limit) :
    (query.read documentId).run.Leads (Shown query limit) := by
  rw [ContentQuery.read, given]
  refine Program.Leads.ask ?_
  intro reply
  cases reply with
  | error fault => exact .pure shown_fault
  | ok value =>
    cases Validation.documentId documentId with
    | error fault => exact .pure shown_fault
    | ok id =>
      have later {program : Program (Outcome String)} (leads : program.Leads (Shown query limit)) :
          program.Leads fun asked => Shown query limit (⟨.authorize "docs" "docs_read", .ok value⟩ :: asked) := by
        refine leads.mono ?_
        intro asked told shown answer ended
        obtain ⟨named, document, among, same⟩ := shown answer ended
        exact ⟨named, document, List.mem_cons_of_mem _ among, same⟩
      by_cases alone : query.tab?.isNone && !query.allTabs
      · have view : query.view = .body := if_pos alone
        simp only [alone, ↓reduceIte]
        rw [← view]
        refine later (call_leads id fun document => ?_)
        rw [ContentQuery.answerTo, if_pos alone]
        rfl
      · have view : query.view = .tabs := if_neg alone
        simp only [alone]
        rw [← view]
        refine later (call_leads id fun document => ?_)
        rw [ContentQuery.answerTo, if_neg alone]
        refine run_outcome_bind fun listed => run_outcome_bind fun tabs => ?_
        cases query.tab? <;> rfl

end Answers

section Budget

private theorem judged_ok {guard : Guard} {failed : Nat} {outcome : Outcome α} {value : α}
    (judged : guard.Judges failed outcome (.ok value)) : outcome = .ok value := by
  cases judged
  rfl

private theorem budgeted_texts {limit : Int} (positive : 0 < limit) {sources : List (Int → Outcome String)} {texts : List String}
    (budgeted : ∀ source ∈ sources, Budgeted source) (read : List.Forall₂ (fun source text => source limit = .ok text) sources texts) :
    (∀ text ∈ texts, (text.utf8ByteSize : Int) ≤ limit) ∧
      ∀ wholes, List.Forall₂ (fun source whole => source 0 = .ok whole) sources wholes →
        List.Forall₂ (FillsBudget limit) wholes texts := by
  induction read with
  | nil =>
    refine ⟨List.forall_mem_nil _, ?_⟩
    intro wholes whole
    cases whole
    exact .nil
  | cons first rest ih =>
    obtain ⟨own, others⟩ := List.forall_mem_cons.mp budgeted
    obtain ⟨fits, fills⟩ := own limit positive _ first
    obtain ⟨fit, starts⟩ := ih others
    refine ⟨List.forall_mem_cons.mpr ⟨fits, fit⟩, ?_⟩
    intro wholes whole
    cases whole with
    | cons full more => exact .cons (fills _ full) (starts _ more)

/-- A reading with a budget shows texts that fit in it one by one. A single text is all there is to show, so then the
budget bounds the whole answer; of all tabs together it does so only if their longest starts fit in it. -/
theorem documentContent_budget (documentId : String) (query : ContentQuery) {limit : Int} (given : query.maxOctets = some limit)
    (positive : 0 < limit) :
    (documentContent documentId query).run.Leads fun asked told => ∀ answer, told = .ok answer →
      ∃ id document sources texts, ⟨.call (.getDocument (.str id) query.view), .ok document⟩ ∈ asked ∧
        query.sources document = .ok sources ∧ List.Forall₂ (fun source text => source limit = .ok text) sources texts ∧
        query.Presents texts answer ∧ (∀ text ∈ texts, (text.utf8ByteSize : Int) ≤ limit) ∧
        (query.readsAllTabs = false → octets texts ≤ limit) ∧
        ∀ wholes, List.Forall₂ (fun source whole => source 0 = .ok whole) sources wholes →
          (octets texts ≤ limit ↔ query.readsAllTabs = false ∨
            ∃ starts, List.Forall₂ (FillsBudget limit) wholes starts ∧ octets starts ≤ limit) := by
  intro replies made answer told
  -- the last try is the one that answers
  obtain ⟨failed, -, asked, judged⟩ := (Tool.read documentId query).exists_lastTry replies made
  change Guard.Judges _ _ _ ((documentContent documentId query).run.result replies made) at judged
  rw [told] at judged
  obtain ⟨id, document, among, shown⟩ := read_leads documentId given replies _ answer (judged_ok judged)
  obtain ⟨sources, texts, found, read, presents⟩ := answerTo_presents shown
  obtain ⟨fits, starts⟩ := budgeted_texts positive (sources_budgeted found) read
  have one : query.readsAllTabs = false → octets texts ≤ limit := by
    intro alone
    have few := sources_one alone found
    rw [read.length_eq] at few
    match texts, few with
    | [], _ => exact Int.le_of_lt positive
    | [text], _ => simpa [octets] using fits text
  refine ⟨id, document, sources, texts, ?_, found, read, presents, fits, one, ?_⟩
  · change _ ∈ (Tool.read documentId query).action.run.exchanges replies made
    rw [asked]
    apply List.mem_append_right
    rw [Nat.zero_add]
    exact among
  · intro wholes whole
    constructor
    · intro bounded
      exact .inr ⟨texts, starts wholes whole, bounded⟩
    · rintro (alone | ⟨others, also, bounded⟩)
      · exact one alone
      · have same : texts = others := List.right_unique_forall₂' (fun _ _ _ first other => first.eq other) (starts wholes whole) also
        rw [same]
        exact bounded

/-- Replies that show a document with a tab in a tab. -/
def tabbedReplies : Replies := fun _ question =>
  let tab (id text : String) (children : List Json) : Json :=
    let run : Json := .obj [("textRun", .obj [("content", .str text)])]
    let paragraph : Json := .obj [("paragraph", .obj [("elements", .arr [run])])]
    .obj [("tabProperties", .obj [("tabId", .str id), ("title", .str id)]),
      ("documentTab", .obj [("body", .obj [("content", .arr [paragraph])])]), ("childTabs", .arr children)]
  match question with
  | .call (.getDocument ..) => .ok (.obj [("tabs", .arr [tab "a" "ab" [tab "b" "cd" []]])])
  | question => (Rehearsal.World.answer {} question).1

/-- Two tabs whose texts fit in the budget together. -/
theorem documentContent_budget_tabInTab :
    let query : ContentQuery := { maxOctets := some 4, allTabs := true }
    let answer := "=== Tab: a ===\nab\n\n=== Tab: b ===\ncd\n"
    (documentContent "d" query).run.result tabbedReplies 0 = .ok answer ∧
      ∃ document sources texts, query.sources document = .ok sources ∧
        List.Forall₂ (fun source text => source 4 = .ok text) sources texts ∧ query.Presents texts answer ∧
        ∀ text ∈ texts, (text.utf8ByteSize : Int) ≤ 4 := by
  intro query answer
  have answered : (documentContent "d" query).run.result tabbedReplies 0 = .ok answer := ok_of_toOption (by decide +kernel)
  obtain ⟨id, document, sources, texts, -, found, read, presents, fits, -⟩ :=
    documentContent_budget "d" query rfl (by decide) tabbedReplies 0 answer answered
  exact ⟨answered, document, sources, texts, found, read, presents, fits⟩

/-- Each of two tabs uses up the budget. -/
theorem documentContent_budget_exceeded :
    let query : ContentQuery := { maxOctets := some 2, allTabs := true, asJson := true }
    ∃ answer, (documentContent "d" query).run.result tabbedReplies 0 = .ok answer ∧ query.Presents ["ab", "cd"] answer ∧
      2 < octets ["ab", "cd"] := by
  intro query
  let identity (id : String) : List (String × Json) := [("id", .str id), ("title", .str id), ("index", .int 0)]
  have presents := @ContentQuery.Presents.entries query [identity "a", identity "b"] ["ab", "cd"] rfl rfl rfl
  exact ⟨_, ok_of_toOption (by decide +kernel), presents, by decide⟩

end Budget

end DocScribe.Tools
