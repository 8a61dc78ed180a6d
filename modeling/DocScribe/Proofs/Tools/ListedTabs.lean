import DocScribe.Proofs.Docs.TabLookup
import DocScribe.Proofs.Docs.TabOrder
import DocScribe.Proofs.Tools.GuardedTries
import DocScribe.Rehearsal.World

/-! The names that a list of tabs shows, given back as the name of the tab to read. An identifier leads to a tab that has
it. A title with a blank at an end does not lead to its tab, because the blank is cut from the name only. -/

namespace DocScribe.Tools
open DocScribe Docs Service Program

/-- An action ends so, wherever in the replies it starts. -/
def Ends (replies : Replies) (action : Action α) (outcome : Outcome α) : Prop :=
  ∀ made, action.run.result replies made = outcome

/-- Replies that show a document to who asks for its tabs, and these settings. -/
structure ShowsTabs (replies : Replies) (settings : Settings) (document : Json) : Prop where
  connects : ∀ made, replies made (.authorize "docs" "docs_read") = .ok ()
  shows : ∀ made id, replies made (.call (.getDocument id .tabs)) = .ok document
  settled : ∀ made, replies made .settings = .ok settings

/-- Who asks for a tab by a name is told the text of this tab, with what identifies the tab when the answer is JSON. -/
def ReadsTab (replies : Replies) (settings : Settings) (documentId name : String) (tab : Json) : Prop :=
  ∀ query : ContentQuery, query.tab = some name →
    ∀ text, Tab.plainText tab (query.maxOctets.getD settings.maxOctets) = .ok text →
      ∃ identity, Tab.identity tab = .ok identity ∧
        Ends replies (documentContent documentId query)
          (.ok (if query.asJson then Json.pretty (.obj [("tab", .obj (("text", .str text) :: identity))]) else text))

section Run
variable {replies : Replies} {action : Action α}

theorem Ends.bind {value : α} {next : α → Action β} {outcome : Outcome β} (first : Ends replies action (.ok value))
    (rest : Ends replies (next value) outcome) : Ends replies (action >>= next) outcome := by
  intro made
  rw [result_andThen (first made)]
  exact rest _

theorem ends_outcome {outcome other : Outcome α} (same : outcome = other) : Ends replies (liftM outcome) other :=
  fun _ => same

/-- A guard lets a value pass, and a fault that is for the user. -/
theorem Ends.guarded {outcome : Outcome α} (ends : Ends replies action outcome) (guard : Guard)
    (reported : ∀ fault, outcome = .error fault → fault.isReported = true) : Ends replies (guard.run action) outcome := by
  intro made
  let tries : Tries α := ⟨action, replies, made⟩
  have settled : ¬tries.breaks 0 := by
    rintro ⟨message, broken⟩
    cases reported _ ((ends made).symm.trans broken)
  have judged : guard.Judges 0 (tries.outcome 0) ((guard.run action).run.result replies made) :=
    (guard.runFrom_settled settled).2
  rw [show tries.outcome 0 = outcome from ends made] at judged
  exact judged.eq_outcome reported

end Run

section Shown
variable {replies : Replies} {settings : Settings} {document : Json} {tabs : List Json} {documentId id name : String}
  {outcome : Outcome String}
  (shown : ShowsTabs replies settings document) (flat : (document.member "tabs" >>= Tab.flatten) = .ok tabs)
include shown flat

private theorem tabs_end {next : List Json → Action String} (rest : Ends replies (next tabs) outcome) :
    Ends replies (Action.call (.getDocument (.str id) .tabs) >>= fun document =>
      liftM (document.member "tabs") >>= fun listed => liftM (Tab.flatten listed) >>= next) outcome := by
  obtain ⟨listed, found, flattened⟩ := ok_of_bind flat
  refine Ends.bind (fun made => shown.shows made _) ?_
  exact (ends_outcome found).bind ((ends_outcome flattened).bind rest)

private theorem documentTabs_ends {answer : String} (valid : Validation.documentId documentId = .ok id)
    (listed : tabTable tabs = .ok answer) : Ends replies (documentTabs documentId false) (.ok answer) := by
  refine Ends.guarded ?_ _ fun fault broken => nomatch broken
  rw [readTabs]
  refine Ends.bind shown.connects ((ends_outcome valid).bind ?_)
  exact tabs_end shown flat (ends_outcome listed)

private theorem documentContent_ends (valid : Validation.documentId documentId = .ok id) {query : ContentQuery}
    (asked : query.tab? = some name)
    (read : Content.ofTab tabs name (query.maxOctets.getD settings.maxOctets) query.asJson = outcome)
    (reported : ∀ fault, outcome = .error fault → fault.isReported = true) :
    Ends replies (documentContent documentId query) outcome := by
  refine Ends.guarded ?_ _ reported
  rw [ContentQuery.read]
  refine Ends.bind shown.connects ((ends_outcome valid).bind ?_)
  simp only [asked]
  cases given : query.maxOctets with
  | some limit =>
    rw [given] at read
    refine Ends.bind (fun _ => rfl) ?_
    exact tabs_end shown flat (ends_outcome read)
  | none =>
    have settled : Ends replies (Settings.maxOctets <$> Action.settings) (.ok settings.maxOctets) := by
      rw [map_eq_pure_bind]
      exact Ends.bind shown.settled fun _ => rfl
    rw [given] at read
    refine settled.bind ?_
    exact tabs_end shown flat (ends_outcome read)

end Shown

section Names
variable {replies : Replies} {settings : Settings} {document tab : Json} {tabs : List Json} {documentId id name : String}

private theorem tabLine_labelled (labelled : Tab.IsLabelled tab) : ∃ lines, tabLine tab = .ok lines ∧
    ∀ name title, Tab.id? tab = some name → Tab.title? tab = some title →
      ∃ index, "\t".intercalate [name, title, index] ∈ lines := by
  cases labelled with
  | bare absent =>
    refine ⟨[], ?_, ?_⟩
    · rw [tabLine, Tab.member_obj, absent]
      rfl
    · intro name title own
      rw [Tab.id?, Json.find?, absent] at own
      cases own
  | @titled members own given present text =>
    have line : tabLine (.obj members) = .ok ["\t".intercalate [((own.lookup "tabId").getD (.str "")).display,
        given, ((own.lookup "index").getD (.int 0)).display]] := by
      rw [tabLine, Tab.member_obj, present, bind_of_ok rfl]
      dsimp only [Option.getD_some]
      rw [Tab.memberOr_obj, bind_of_ok rfl, Tab.memberOr_obj, bind_of_ok rfl, Tab.memberOr_obj, bind_of_ok rfl, text]
      rfl
    refine ⟨_, line, ?_⟩
    intro name title named titled
    rw [Tab.id?_obj present, Option.bind_eq_some_iff] at named
    rw [Tab.title?_obj present, text] at titled
    obtain ⟨value, stored, isText⟩ := named
    cases value with
    | str written =>
      cases isText
      cases titled
      rw [stored]
      exact ⟨_, List.mem_singleton_self _⟩
    | _ => cases isText

private theorem tabTable_labelled (labelled : ∀ tab ∈ tabs, Tab.IsLabelled tab) :
    ∃ lines, tabTable tabs = .ok ("\n".intercalate ("ID\tTITLE\tINDEX" :: lines)) ∧
      ∀ tab ∈ tabs, ∀ name title, Tab.id? tab = some name → Tab.title? tab = some title →
        ∃ index, "\t".intercalate [name, title, index] ∈ lines := by
  obtain ⟨values, listed, each⟩ := exists_mapM fun tab among =>
    (tabLine_labelled (labelled tab among)).imp fun _ found => found.1
  refine ⟨values.flatten, ?_, ?_⟩
  · rw [tabTable, bind_of_ok listed]
    rfl
  · intro tab among name title named titled
    obtain ⟨lines, within, own⟩ := each tab among
    obtain ⟨others, same, shows⟩ := tabLine_labelled (labelled tab among)
    obtain rfl : lines = others := Except.ok.inj (own.symm.trans same)
    obtain ⟨index, line⟩ := shows name title named titled
    exact ⟨index, List.mem_flatten.mpr ⟨lines, within, line⟩⟩

private theorem readsTab_found (shown : ShowsTabs replies settings document)
    (flat : (document.member "tabs" >>= Tab.flatten) = .ok tabs) (valid : Validation.documentId documentId = .ok id)
    (labelled : Tab.IsLabelled tab) (filled : name ≠ "") (found : Tab.find tabs name = .ok (some tab)) :
    ReadsTab replies settings documentId name tab := by
  intro query asked text read
  obtain ⟨identity, identified⟩ := Tab.identity_labelled labelled
  have named : query.tab? = some name := by simp [ContentQuery.tab?, asked, filled]
  refine ⟨identity, identified, documentContent_ends shown flat valid named ?_ fun fault broken => nomatch broken⟩
  rw [Content.ofTab, bind_of_ok found]
  dsimp only
  rw [bind_of_ok read]
  cases query.asJson with
  | false => rfl
  | true =>
    rw [present, if_pos rfl, Tab.withText, bind_of_ok identified]
    rfl

/-- The list shows the identifier and the title of each tab. The identifier reads a tab that has it, unless it has a blank
at an end. The title reads a tab that it means, by title or identifier, exactly when it has no blank at an end or what is
left without these blanks is the identifier of a tab. -/
theorem documentContent_reads_listed (shown : ShowsTabs replies settings document)
    (valid : Validation.documentId documentId = .ok id) (flat : (document.member "tabs" >>= Tab.flatten) = .ok tabs)
    (labelled : ∀ tab ∈ tabs, Tab.IsLabelled tab) :
    ∃ lines, Ends replies (documentTabs documentId false) (.ok ("\n".intercalate ("ID\tTITLE\tINDEX" :: lines))) ∧
      ∀ tab ∈ tabs,
        (∀ name title, Tab.id? tab = some name → Tab.title? tab = some title →
          ∃ index, "\t".intercalate [name, title, index] ∈ lines) ∧
        (∀ name, Tab.id? tab = some name → name ≠ "" → Text.trim name = name →
          ∃ found ∈ tabs, Tab.find tabs name = .ok (some found) ∧ Tab.id? found = some name ∧
            ReadsTab replies settings documentId name found) ∧
        ∀ title, Tab.title? tab = some title → title ≠ "" →
          ((∃ found ∈ tabs, Tab.find tabs title = .ok (some found) ∧
              (Tab.id? found = some (Text.trim title) ∨ Tab.isTitled title found = true) ∧
              ReadsTab replies settings documentId title found) ↔
            Text.trim title = title ∨ ∃ other ∈ tabs, Tab.id? other = some (Text.trim title)) := by
  obtain ⟨lines, table, lists⟩ := tabTable_labelled labelled
  refine ⟨lines, documentTabs_ends shown flat valid table, fun tab among => ⟨lists tab among, ?_, ?_⟩⟩
  · intro name own filled whole
    obtain ⟨found, within, search, same⟩ := Tab.find_ownId labelled among own whole
    exact ⟨found, within, search, same, readsTab_found shown flat valid (labelled found within) filled search⟩
  · intro title own filled
    rw [← Tab.find_ownTitle_iff labelled among own]
    constructor
    · rintro ⟨found, within, search, means, -⟩
      exact ⟨found, within, search, means⟩
    · rintro ⟨found, within, search, means⟩
      exact ⟨found, within, search, means, readsTab_found shown flat valid (labelled found within) filled search⟩

end Names

def unlimited : Settings :=
  { configFolder := "/c", credentialsFile := "/c/t", maxOctets := 0, imageFolder := none, logLevel := "INFO", transport := "stdio",
    port := 8000 }

/-- Replies that show a document with these tabs. -/
def tabsReplies (tabs : List Json) : Replies := fun _ question =>
  let document : Json := .obj [("tabs", .arr tabs)]
  let world : Rehearsal.World := { settings := unlimited, script := [("documents.get", [some (.reply document)])] }
  (world.answer question).1

private theorem tabsReplies_shows (tabs : List Json) : ShowsTabs (tabsReplies tabs) unlimited (.obj [("tabs", .arr tabs)]) where
  connects _ := rfl
  shows _ _ := rfl
  settled _ := rfl

def namedTab (id title : String) (children : List Json) : Json :=
  .obj [("tabProperties", .obj [("tabId", .str id), ("title", .str title)]), ("childTabs", .arr children)]

private theorem namedTab_labelled (id title : String) (children : List Json) : Tab.IsLabelled (namedTab id title children) :=
  .titled rfl rfl

/-- A title ends in a sigma, and what is left of another is the identifier of a tab in a tab. -/
theorem documentContent_reads_listed_byOtherId :
    let inner := namedTab "x" "" []
    let outer := namedTab "t.0" "ΟΔΟΣ" [inner]
    let padded := namedTab "t.2" " x\t" []
    let replies := tabsReplies [.obj [], outer, padded]
    let tabs := [.obj [], outer, inner, padded]
    Tab.flatten (.arr [.obj [], outer, padded]) = .ok tabs ∧ (∀ tab ∈ tabs, Tab.IsLabelled tab) ∧
      (∃ found ∈ tabs, Tab.find tabs "ΟΔΟΣ" = .ok (some found) ∧ ReadsTab replies unlimited "d" "ΟΔΟΣ" found) ∧
      ∃ found ∈ tabs, Tab.find tabs " x\t" = .ok (some found) ∧ ReadsTab replies unlimited "d" " x\t" found := by
  intro inner outer padded replies tabs
  have valid : Validation.documentId "d" = .ok "d" := ok_of_toOption (by decide +kernel)
  have flat : Tab.flatten (.arr [.obj [], outer, padded]) = .ok tabs := by
    have within : Tab.flattenItems [inner] = .ok [inner] := Tab.flattenItems_tab rfl Tab.flattenItems_nil Tab.flattenItems_nil
    have last : Tab.flattenItems [padded] = .ok [padded] := Tab.flattenItems_tab rfl Tab.flattenItems_nil Tab.flattenItems_nil
    exact Tab.flattenItems_tab rfl Tab.flattenItems_nil (Tab.flattenItems_tab rfl within last)
  have labelled : ∀ tab ∈ tabs, Tab.IsLabelled tab := by
    simp only [tabs, List.forall_mem_cons]
    exact ⟨.bare rfl, namedTab_labelled .., namedTab_labelled .., namedTab_labelled .., List.forall_mem_nil _⟩
  have shown := tabsReplies_shows [.obj [], outer, padded]
  obtain ⟨lines, -, reads⟩ := documentContent_reads_listed shown valid flat labelled
  refine ⟨flat, labelled, ?_, ?_⟩
  · obtain ⟨-, -, byTitle⟩ := reads outer (by simp [tabs])
    obtain ⟨found, within, search, -, read⟩ := (byTitle "ΟΔΟΣ" rfl (by decide)).mpr (.inl (by decide +kernel))
    exact ⟨found, within, search, read⟩
  · obtain ⟨-, -, byTitle⟩ := reads padded (by simp [tabs])
    obtain ⟨found, within, search, -, read⟩ :=
      (byTitle " x\t" rfl (by decide)).mpr (.inr ⟨inner, by simp [tabs], by decide +kernel⟩)
    exact ⟨found, within, search, read⟩

/-- The only tab is listed by a title that does not read it. -/
theorem documentContent_titleEndsInBlank_fails :
    let tab := namedTab "t.1" "Notes " []
    let replies := tabsReplies [tab]
    Tab.flatten (.arr [tab]) = .ok [tab] ∧ Tab.IsLabelled tab ∧ Tab.title? tab = some "Notes " ∧ Text.allBlank "Notes " = false ∧
      Ends replies (documentTabs "d" false) (.ok "ID\tTITLE\tINDEX\nt.1\tNotes \t0") ∧
      Tab.find [tab] "Notes " = .ok none ∧
      Ends replies (documentContent "d" { tab := some "Notes " }) (.error (.notFound "tab not found: Notes ")) := by
  intro tab replies
  have valid : Validation.documentId "d" = .ok "d" := ok_of_toOption (by decide +kernel)
  have flat : Tab.flatten (.arr [tab]) = .ok [tab] := Tab.flattenItems_tab rfl Tab.flattenItems_nil Tab.flattenItems_nil
  have shown := tabsReplies_shows [tab]
  have missed : Tab.find [tab] "Notes " = .ok none := rfl
  have lost : Content.ofTab [tab] "Notes " 0 false = .error (.notFound "tab not found: Notes ") := rfl
  refine ⟨flat, namedTab_labelled .., rfl, by decide +kernel, ?_, missed, ?_⟩
  · exact documentTabs_ends shown flat valid rfl
  · refine documentContent_ends shown flat valid rfl lost ?_
    rintro _ ⟨⟩
    rfl

end DocScribe.Tools
