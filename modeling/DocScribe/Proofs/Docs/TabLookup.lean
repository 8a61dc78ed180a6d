import DocScribe.Docs.Tab
import DocScribe.Proofs.Outcomes
import DocScribe.Proofs.Text.LowerCase

/-! The tab that a name leads to. Of all tabs, the first with the trimmed name as its identifier comes before the first
with it as its title. Titles are not trimmed, so one with a blank at an end is not found as a title. -/

namespace DocScribe.Docs.Tab
open DocScribe

/-- The identifier of a tab, if it has one that is a text. -/
def id? (tab : Json) : Option String :=
  ((tab.find? "tabProperties").bind (Json.find? "tabId")).bind Json.text?

/-- The title of a tab that has properties. One that is missing is empty. -/
def title? (tab : Json) : Option String :=
  (tab.find? "tabProperties").bind fun properties => ((properties.find? "title").getD (.str "")).text?

/-- The tab has this title, but for case. -/
def isTitled (title : String) (tab : Json) : Bool := (title? tab).map Text.lower == some (Text.lower title)

/-- A tab without properties, or with properties whose title is a text or missing. -/
inductive IsLabelled : Json → Prop where
  | bare {members} (absent : members.lookup "tabProperties" = none) : IsLabelled (.obj members)
  | titled {members properties title} (present : members.lookup "tabProperties" = some (.obj properties))
      (text : (properties.lookup "title").getD (.str "") = .str title) : IsLabelled (.obj members)

/-- What is found for a name. -/
inductive Finds (tabs : List Json) (name : String) : Option Json → Prop where
  | byId {tab} (among : tab ∈ tabs) (named : id? tab = some (Text.trim name)) : Finds tabs name (some tab)
  | byTitle {tab} (among : tab ∈ tabs) (unnamed : ∀ other ∈ tabs, id? other ≠ some (Text.trim name))
      (titled : isTitled (Text.trim name) tab = true) : Finds tabs name (some tab)
  | nothing (unnamed : ∀ other ∈ tabs, id? other ≠ some (Text.trim name))
      (untitled : ∀ other ∈ tabs, isTitled (Text.trim name) other = false) : Finds tabs name none

section Search
variable {tab : Json} {tabs : List Json}

theorem member_obj (key : String) (members : List (String × Json)) :
    (Json.obj members).member key = .ok ((members.lookup key).getD .null) := rfl

theorem memberOr_obj (key : String) (default : Json) (members : List (String × Json)) :
    (Json.obj members).memberOr key default = .ok ((members.lookup key).getD default) := rfl

theorem id?_obj {members own : List (String × Json)} (present : members.lookup "tabProperties" = some (.obj own)) :
    id? (.obj members) = (own.lookup "tabId").bind Json.text? := by
  rw [id?, Json.find?, present]
  rfl

theorem title?_obj {members own : List (String × Json)} (present : members.lookup "tabProperties" = some (.obj own)) :
    title? (.obj members) = ((own.lookup "title").getD (.str "")).text? := by
  rw [title?, Json.find?, present]
  rfl

private theorem isTitled_iff {title : String} : isTitled title tab = true ↔ (title? tab).map Text.lower = some (Text.lower title) :=
  beq_iff_eq

private theorem hasId_labelled (id : String) (labelled : IsLabelled tab) : hasId id tab = .ok (id? tab == some id) := by
  cases labelled with
  | bare absent =>
    rw [hasId, properties, memberOr_obj, id?, Json.find?, absent]
    rfl
  | titled present text =>
    rw [hasId, properties, memberOr_obj, id?_obj present, present, bind_of_ok rfl, Option.getD_some, member_obj]
    cases List.lookup "tabId" _ <;> rfl

private theorem hasTitle_labelled (title : String) (labelled : IsLabelled tab) :
    hasTitle (Text.lower title) tab = .ok (isTitled title tab) := by
  cases labelled with
  | bare absent =>
    rw [hasTitle, member_obj, isTitled, title?, Json.find?, absent]
    rfl
  | titled present text =>
    rw [hasTitle, member_obj, isTitled, title?_obj present, present, bind_of_ok rfl]
    dsimp only [Option.getD_some]
    rw [memberOr_obj, text]
    rfl

theorem identity_labelled (labelled : IsLabelled tab) : ∃ members, identity tab = .ok members := by
  cases labelled with
  | bare absent =>
    rw [identity, member_obj, absent]
    exact ⟨_, rfl⟩
  | titled present text =>
    rw [identity, member_obj, present]
    exact ⟨_, rfl⟩

private theorem findFirst_eq {accepts : Json → Outcome Bool} {test : Json → Bool}
    (agree : ∀ tab ∈ tabs, accepts tab = .ok (test tab)) : findFirst accepts tabs = .ok (tabs.find? test) := by
  induction tabs with
  | nil => rfl
  | cons first rest ih =>
    obtain ⟨own, others⟩ := List.forall_mem_cons.mp agree
    rw [findFirst, bind_of_ok own, List.find?_cons, ih others]
    cases test first <;> rfl

private theorem find_eq (labelled : ∀ tab ∈ tabs, IsLabelled tab) (name : String) :
    find tabs name = .ok ((tabs.find? fun tab => id? tab == some (Text.trim name)).or
      (tabs.find? (isTitled (Text.trim name)))) := by
  have ids := findFirst_eq fun tab among => hasId_labelled (Text.trim name) (labelled tab among)
  have titles := findFirst_eq fun tab among => hasTitle_labelled (Text.trim name) (labelled tab among)
  rw [find, bind_of_ok ids]
  cases tabs.find? fun tab => id? tab == some (Text.trim name) with
  | some tab => rfl
  | none => exact titles

private theorem find_finds (labelled : ∀ tab ∈ tabs, IsLabelled tab) (name : String) :
    ∃ found, find tabs name = .ok found ∧ Finds tabs name found := by
  refine ⟨_, find_eq labelled name, ?_⟩
  cases named : tabs.find? fun tab => id? tab == some (Text.trim name) with
  | some tab =>
    refine .byId (List.mem_of_find?_eq_some named) ?_
    simpa using List.find?_some named
  | none =>
    have unnamed : ∀ other ∈ tabs, id? other ≠ some (Text.trim name) := by simpa using named
    cases titled : tabs.find? (isTitled (Text.trim name)) with
    | some tab => exact .byTitle (List.mem_of_find?_eq_some titled) unnamed (List.find?_some titled)
    | none => exact .nothing unnamed (by simpa using titled)

/-- A tab is found by its own identifier, unless trimming changes it. -/
theorem find_ownId (labelled : ∀ tab ∈ tabs, IsLabelled tab) (among : tab ∈ tabs) {id : String} (own : id? tab = some id)
    (whole : Text.trim id = id) : ∃ found ∈ tabs, find tabs id = .ok (some found) ∧ id? found = some id := by
  obtain ⟨outcome, search, finds⟩ := find_finds labelled id
  have present : ¬∀ other ∈ tabs, id? other ≠ some (Text.trim id) := by
    intro unnamed
    rw [whole] at unnamed
    exact unnamed tab among own
  cases finds with
  | byId within named =>
    rw [whole] at named
    exact ⟨_, within, search, named⟩
  | byTitle _ unnamed _ => exact absurd unnamed present
  | nothing unnamed _ => exact absurd unnamed present

/-- What is left of a title when it is trimmed is found as an identifier, or as this title if nothing was cut. -/
theorem find_ownTitle_iff (labelled : ∀ tab ∈ tabs, IsLabelled tab) (among : tab ∈ tabs) {title : String}
    (own : title? tab = some title) :
    (∃ found ∈ tabs, find tabs title = .ok (some found) ∧
        (id? found = some (Text.trim title) ∨ isTitled title found = true)) ↔
      Text.trim title = title ∨ ∃ other ∈ tabs, id? other = some (Text.trim title) := by
  obtain ⟨outcome, search, finds⟩ := find_finds labelled title
  rw [search]
  cases finds with
  | @byId found within named =>
    constructor
    · intro _
      exact .inr ⟨found, within, named⟩
    · intro _
      exact ⟨found, within, rfl, .inl named⟩
  | @byTitle found within unnamed titled =>
    constructor
    · rintro ⟨_, _, ⟨⟩, named | alsoTitled⟩
      · exact .inr ⟨found, within, named⟩
      · -- the trimmed title and the title have the lower case of one title
        have forms := (isTitled_iff.mp titled).symm.trans (isTitled_iff.mp alsoTitled)
        exact .inl ((Text.lower_trim_eq_iff title).mp (Option.some.inj forms))
    · rintro (whole | ⟨other, member, named⟩)
      · rw [whole] at titled
        exact ⟨found, within, rfl, .inr titled⟩
      · exact absurd named (unnamed other member)
  | nothing unnamed untitled =>
    constructor
    · rintro ⟨_, _, ⟨⟩, _⟩
    · rintro (whole | ⟨other, member, named⟩)
      · have missed := untitled tab among
        rw [whole, isTitled, own, Option.map_some, beq_self_eq_true] at missed
        cases missed
      · exact absurd named (unnamed other member)

end Search
end DocScribe.Docs.Tab
