import DocScribe.Docs.Marker
import DocScribe.Proofs.Docs.TabOrder

/-! The text runs that a document shows, in document order. The rules say which runs the parts of a
document hold, each by itself; the search for markers goes through just these runs. -/

namespace DocScribe.Docs
open DocScribe

/-- A run of text, and the index where it starts. -/
structure TextRun where
  start : Nat
  text : String

def TextRun.placed (run : TextRun) : Outcome PlacedText := .ok (.int run.start, run.text)

/-- What a member of an object lists; one that is missing lists nothing. -/
inductive Lists (key : String) : List (String × Json) → List Json → Prop where
  | items {members : List (String × Json)} {items : List Json} (found : members.lookup key = some (.arr items)) :
      Lists key members items
  | missing {members : List (String × Json)} (absent : members.lookup key = none) : Lists key members []

/-- The runs of the parts of a paragraph. Other parts than text hold none. -/
inductive PartsShow : List Json → List TextRun → Prop where
  | nil : PartsShow [] []
  | text {members inner : List (String × Json)} {parts : List Json} {runs : List TextRun} (run : TextRun)
      (textRun : members.lookup "textRun" = some (.obj inner)) (content : inner.lookup "content" = some (.str run.text))
      (written : run.text ≠ "") (index : members.lookup "startIndex" = some (.int run.start)) (rest : PartsShow parts runs) :
      PartsShow (.obj members :: parts) (run :: runs)
  | other {members : List (String × Json)} {parts : List Json} {runs : List TextRun}
      (absent : members.lookup "textRun" = none) (rest : PartsShow parts runs) : PartsShow (.obj members :: parts) runs

mutual

inductive ElementShows : Json → List TextRun → Prop where
  | paragraph {members inner : List (String × Json)} {parts : List Json} {runs : List TextRun}
      (found : members.lookup "paragraph" = some (.obj inner)) (listed : Lists "elements" inner parts)
      (shown : PartsShow parts runs) : ElementShows (.obj members) runs
  | table {members inner : List (String × Json)} {rows : List Json} {runs : List TextRun}
      (noParagraph : members.lookup "paragraph" = none) (found : members.lookup "table" = some (.obj inner))
      (listed : Lists "tableRows" inner rows) (shown : RowsShow rows runs) : ElementShows (.obj members) runs
  | contents {members inner : List (String × Json)} {elements : List Json} {runs : List TextRun}
      (noParagraph : members.lookup "paragraph" = none) (noTable : members.lookup "table" = none)
      (found : members.lookup "tableOfContents" = some (.obj inner)) (listed : Lists "content" inner elements)
      (shown : ContentShows elements runs) : ElementShows (.obj members) runs
  | other {members : List (String × Json)} (noParagraph : members.lookup "paragraph" = none)
      (noTable : members.lookup "table" = none) (noContents : members.lookup "tableOfContents" = none) :
      ElementShows (.obj members) []

inductive ContentShows : List Json → List TextRun → Prop where
  | nil : ContentShows [] []
  | cons {element : Json} {elements : List Json} {own runs : List TextRun} (first : ElementShows element own)
      (rest : ContentShows elements runs) : ContentShows (element :: elements) (own ++ runs)

inductive RowsShow : List Json → List TextRun → Prop where
  | nil : RowsShow [] []
  | cons {members : List (String × Json)} {cells rows : List Json} {own runs : List TextRun}
      (listed : Lists "tableCells" members cells) (first : CellsShow cells own) (rest : RowsShow rows runs) :
      RowsShow (.obj members :: rows) (own ++ runs)

inductive CellsShow : List Json → List TextRun → Prop where
  | nil : CellsShow [] []
  | cons {members : List (String × Json)} {elements cells : List Json} {own runs : List TextRun}
      (listed : Lists "content" members elements) (first : ContentShows elements own) (rest : CellsShow cells runs) :
      CellsShow (.obj members :: cells) (own ++ runs)

end

/-- The runs of what may be a body. -/
inductive BodyShows : Json → List TextRun → Prop where
  | absent : BodyShows .null []
  | content {members : List (String × Json)} {elements : List Json} {runs : List TextRun}
      (listed : Lists "content" members elements) (shown : ContentShows elements runs) : BodyShows (.obj members) runs

/-- The runs of tabs, each before those of the tabs that it holds. -/
inductive TabsShow : List Json → List TextRun → Prop where
  | nil : TabsShow [] []
  | cons {members inner : List (String × Json)} {children tabs : List Json} {own below runs : List TextRun}
      (found : members.lookup "documentTab" = some (.obj inner)) (body : BodyShows ((inner.lookup "body").getD .null) own)
      (listed : Lists "childTabs" members children) (held : TabsShow children below) (rest : TabsShow tabs runs) :
      TabsShow (.obj members :: tabs) (own ++ (below ++ runs))

/-- The runs of a document: those of its body, and then those of its tabs. -/
inductive DocumentShows : Json → List TextRun → Prop where
  | document {members : List (String × Json)} {tabs : List Json} {own runs : List TextRun}
      (body : BodyShows ((members.lookup "body").getD .null) own) (listed : Lists "tabs" members tabs)
      (shown : TabsShow tabs runs) : DocumentShows (.obj members) (own ++ runs)

namespace Node

theorem Listing.ofMember_lists {key : String} {members : List (String × Json)} {items : List Json}
    (listed : Lists key members items) :
    (∃ smaller, Listing.ofMember key (.obj members) = .items items smaller) ∨
      items = [] ∧ Listing.ofMember key (.obj members) = .texts [] := by
  cases listed with
  | items found =>
    left
    simp only [Listing.ofMember]
    split
    · next absent => rw [found] at absent; cases absent
    · next inner same =>
      obtain rfl : inner = .arr items := Option.some.inj (same.symm.trans found)
      have smaller : sizeOf items < sizeOf (Json.obj members) := by
        have := sizeOf_lookup found
        simp only [Json.arr.sizeOf_spec, Json.obj.sizeOf_spec] at this ⊢
        omega
      exact ⟨smaller, rfl⟩
  | missing absent =>
    right
    refine ⟨rfl, ?_⟩
    simp only [Listing.ofMember]
    split
    · rfl
    · next inner same => rw [absent] at same; cases same

theorem placedTexts_parts {parts : List Json} {runs : List TextRun} (shown : PartsShow parts runs) :
    placedTexts (.paragraph (parts.map Run.ofJson)) = runs.map TextRun.placed := by
  induction shown with
  | nil => rfl
  | @text members inner parts runs run textRun content written index rest ih =>
    have read : Run.ofJson (.obj members) = .text run.text (some (.int run.start)) := by
      have textThere : inner.isEmpty = false := by
        cases inner with
        | nil => simp at content
        | cons first inner => rfl
      simp [Run.ofJson, Json.member, Json.member?, textRun, content, index, Json.truthy, textThere, written, bind,
        Except.bind, pure, Except.pure]
    simp only [placedTexts, List.map_cons, List.filterMap_cons, read] at ih ⊢
    rw [ih]
    rfl
  | @other members parts runs absent rest ih =>
    have read : Run.ofJson (.obj members) = .silent := by
      simp [Run.ofJson, Json.member, Json.member?, absent, Json.truthy, bind, Except.bind, pure, Except.pure]
    simp only [placedTexts, List.map_cons, List.filterMap_cons, read] at ih ⊢
    exact ih

private theorem listOfJson_lists {inner : List (String × Json)} {parts : List Json} (listed : Lists "elements" inner parts) :
    Run.listOfJson (.obj inner) = .ok (parts.map Run.ofJson) := by
  cases listed with
  | items found =>
    simp [Run.listOfJson, Json.memberOr, Json.member?, found, Json.items, bind, Except.bind, pure, Except.pure]
  | missing absent =>
    simp [Run.listOfJson, Json.memberOr, Json.member?, absent, Json.items, bind, Except.bind, pure, Except.pure]

section Elements
variable {members inner : List (String × Json)} {items rest : List Json}

theorem ofJson_paragraph (found : members.lookup "paragraph" = some (.obj inner)) (listed : Lists "elements" inner items) :
    ofJson (.obj members) = .paragraph (items.map Run.ofJson) := by
  rw [ofJson]
  simp only [found, listOfJson_lists listed]

theorem ofJson_table (noParagraph : members.lookup "paragraph" = none) (found : members.lookup "table" = some (.obj inner))
    (listed : Lists "tableRows" inner items) : ofJson (.obj members) = .table (rowsOfJson items) := by
  rw [ofJson]
  simp only [noParagraph]
  split
  · next inner same =>
    cases same.symm.trans found
    rcases Listing.ofMember_lists listed with ⟨smaller, same⟩ | ⟨rfl, none⟩
    · rw [same]
    · rw [none, rowsOfJson]
  · next absent => rw [found] at absent; cases absent

theorem ofJson_contents (noParagraph : members.lookup "paragraph" = none) (noTable : members.lookup "table" = none)
    (found : members.lookup "tableOfContents" = some (.obj inner)) (listed : Lists "content" inner items) :
    ofJson (.obj members) = .contents (listOfJson items) := by
  rw [ofJson]
  simp only [noParagraph]
  split
  · next inner same => rw [noTable] at same; cases same
  · split
    · next inner same =>
      cases same.symm.trans found
      rcases Listing.ofMember_lists listed with ⟨smaller, same⟩ | ⟨rfl, none⟩
      · rw [same]
      · rw [none, listOfJson]
        rfl
    · next absent => rw [found] at absent; cases absent

theorem ofJson_other (noParagraph : members.lookup "paragraph" = none) (noTable : members.lookup "table" = none)
    (noContents : members.lookup "tableOfContents" = none) : ofJson (.obj members) = .other := by
  rw [ofJson]
  simp only [noParagraph]
  split
  · next inner same => rw [noTable] at same; cases same
  · split
    · next inner same => rw [noContents] at same; cases same
    · rfl

theorem rowsOfJson_cons (listed : Lists "tableCells" members items) :
    rowsOfJson (.obj members :: rest) = cellsOfJson items :: rowsOfJson rest := by
  rw [rowsOfJson]
  rcases Listing.ofMember_lists listed with ⟨smaller, same⟩ | ⟨rfl, none⟩
  · rw [same]
  · rw [none, cellsOfJson]

theorem cellsOfJson_cons (listed : Lists "content" members items) :
    cellsOfJson (.obj members :: rest) = listOfJson items :: cellsOfJson rest := by
  rw [cellsOfJson]
  rcases Listing.ofMember_lists listed with ⟨smaller, same⟩ | ⟨rfl, none⟩
  · rw [same]
  · rw [none, listOfJson]
    rfl

end Elements

mutual

theorem placedTexts_shows {element : Json} {runs : List TextRun} (shows : ElementShows element runs) :
    placedTexts (ofJson element) = runs.map TextRun.placed :=
  match shows with
  | .paragraph found listed shown => by
    rw [ofJson_paragraph found listed]
    exact placedTexts_parts shown
  | .table noParagraph found listed shown => by
    rw [ofJson_table noParagraph found listed]
    exact placedRows_shows shown
  | .contents noParagraph noTable found listed shown => by
    rw [ofJson_contents noParagraph noTable found listed]
    exact placedAll_shows shown
  | .other noParagraph noTable noContents => by
    rw [ofJson_other noParagraph noTable noContents]
    rfl
termination_by structural shows

private theorem placedAll_shows {elements : List Json} {runs : List TextRun} (shows : ContentShows elements runs) :
    placedAll (listOfJson elements) = runs.map TextRun.placed :=
  match shows with
  | .nil => by
    rw [listOfJson]
    rfl
  | .cons first rest => by
    have own := placedTexts_shows first
    have others := placedAll_shows rest
    rw [listOfJson, placedAll, own, others, List.map_append]
termination_by structural shows

theorem placedRows_shows {rows : List Json} {runs : List TextRun} (shows : RowsShow rows runs) :
    placedRows (rowsOfJson rows) = runs.map TextRun.placed :=
  match shows with
  | .nil => by
    rw [rowsOfJson]
    rfl
  | .cons listed first rest => by
    have own := placedCells_shows first
    have others := placedRows_shows rest
    rw [rowsOfJson_cons listed, placedRows, own, others, List.map_append]
termination_by structural shows

theorem placedCells_shows {cells : List Json} {runs : List TextRun} (shows : CellsShow cells runs) :
    placedCells (cellsOfJson cells) = runs.map TextRun.placed :=
  match shows with
  | .nil => by
    rw [cellsOfJson]
    rfl
  | .cons listed first rest => by
    have own := placedAll_shows first
    have others := placedCells_shows rest
    rw [cellsOfJson_cons listed, placedCells, own, others, List.map_append]
termination_by structural shows

end

end Node

section Search
variable (count minIndex : Int)

def addRun (tag : List Char) (ranges : MarkerRanges) (run : TextRun) : Outcome MarkerRanges :=
  (markersFrom tag 0 0 run.text.toList).foldlM (addMarker count minIndex (.int run.start) run.text.toList) ranges

private theorem addTexts_runs (tag : List Char) (ranges : MarkerRanges) (runs : List TextRun) :
    addTexts count minIndex tag ranges (runs.map TextRun.placed) = runs.foldlM (addRun count minIndex tag) ranges := by
  induction runs generalizing ranges with
  | nil => rfl
  | cons run runs ih =>
    rw [List.map_cons, List.foldlM_cons]
    exact congrArg (Except.bind _) (funext fun ranges => ih ranges)

private theorem bodyTexts_shows {body : Json} {runs : List TextRun} (shows : BodyShows body runs) :
    bodyTexts body = .ok (runs.map TextRun.placed) := by
  cases shows with
  | absent => rfl
  | @content members elements runs listed shown =>
    have placed := Node.placedAll_shows shown
    have fromItems (items : List Json) : Node.contentOfJson (.arr items) = Node.listOfJson items := rfl
    cases members with
    | nil =>
      cases listed with
      | items found => simp at found
      | missing absent =>
        cases shown
        rfl
    | cons first members =>
      cases listed with
      | items found =>
        simp [bodyTexts, Json.truthy, Json.memberOr, Json.member?, found, fromItems, placed, bind, Except.bind, pure,
          Except.pure]
      | missing absent =>
        simp [bodyTexts, Json.truthy, Json.memberOr, Json.member?, absent, fromItems, placed, bind, Except.bind, pure,
          Except.pure]

private def addTab (tag : List Char) (ranges : MarkerRanges) (tab : Json) : Outcome MarkerRanges := do
  let documentTab ← tab.member "documentTab"
  let body ← (if documentTab.truthy then documentTab else .obj []).member "body"
  addTexts count minIndex tag ranges (← bodyTexts body)

private theorem addTab_shows (tag : List Char) {members inner : List (String × Json)} {own : List TextRun}
    (found : members.lookup "documentTab" = some (.obj inner)) (body : BodyShows ((inner.lookup "body").getD .null) own)
    (ranges : MarkerRanges) :
    addTab count minIndex tag ranges (.obj members) = own.foldlM (addRun count minIndex tag) ranges := by
  have same : (if (Json.obj inner).truthy then Json.obj inner else .obj []) = .obj inner := by
    cases inner <;> rfl
  simp only [addTab, Json.member, Json.member?, found, bind, Except.bind, pure, Except.pure, Option.getD_some]
  rw [same]
  simp only [bodyTexts_shows body, addTexts_runs]

private theorem childTabs?_lists {members : List (String × Json)} {children : List Json}
    (listed : Lists "childTabs" members children) : Tab.childTabs? members = some children := by
  cases listed with
  | items there =>
    rw [Tab.childTabs?, there]
    rfl
  | missing absent =>
    rw [Tab.childTabs?, absent]
    rfl

private theorem foldlM_shows (tag : List Char) {tabs : List Json} {runs : List TextRun} (shows : TabsShow tabs runs) :
    ∃ flat, Tab.flattenItems tabs = .ok flat ∧ ∀ ranges,
      flat.foldlM (addTab count minIndex tag) ranges = runs.foldlM (addRun count minIndex tag) ranges := by
  induction shows with
  | nil => exact ⟨[], by rw [Tab.flattenItems]; rfl, fun ranges => rfl⟩
  | cons found body listed held rest ihHeld ihRest =>
    obtain ⟨inside, flatInside, foldInside⟩ := ihHeld
    obtain ⟨others, flatOthers, foldOthers⟩ := ihRest
    refine ⟨_, Tab.flattenItems_tab (childTabs?_lists listed) flatInside flatOthers, fun ranges => ?_⟩
    simp only [List.foldlM_cons, List.foldlM_append, addTab_shows count minIndex tag found body, foldInside, foldOthers]

private theorem flatten_lists {members : List (String × Json)} {tabs flat : List Json}
    (listed : Lists "tabs" members tabs) (flattened : Tab.flattenItems tabs = .ok flat) :
    Tab.flatten ((members.lookup "tabs").getD .null) = .ok flat := by
  cases listed with
  | items found =>
    rw [found]
    cases tabs with
    | nil => exact Tab.flattenItems_nil.symm.trans flattened
    | cons first tabs => exact flattened
  | missing absent =>
    rw [absent]
    exact Tab.flattenItems_nil.symm.trans flattened

/-- The search for markers goes through the runs that the document shows. -/
theorem findMarkers_shows {document : Json} {runs : List TextRun} (shows : DocumentShows document runs) (tag : String)
    (positive : 0 < count) :
    findMarkers document count tag minIndex = runs.foldlM (addRun count minIndex tag.toList) [] := by
  cases shows with
  | @document members tabs own runs body listed shown =>
    obtain ⟨flat, flattened, fold⟩ := foldlM_shows count minIndex tag.toList shown
    have start : (bodyTexts ((members.lookup "body").getD .null) >>= addTexts count minIndex tag.toList []) =
        own.foldlM (addRun count minIndex tag.toList) [] := by
      rw [bodyTexts_shows body]
      exact addTexts_runs count minIndex tag.toList [] own
    have unfolded : findMarkers (.obj members) count tag minIndex =
        (do
          let ranges ← bodyTexts ((members.lookup "body").getD .null) >>= addTexts count minIndex tag.toList []
          let tabs ← Tab.flatten ((members.lookup "tabs").getD .null)
          tabs.foldlM (addTab count minIndex tag.toList) ranges) := by
      rw [findMarkers, if_neg (by omega)]
      rfl
    rw [unfolded, start, flatten_lists listed flattened, List.foldlM_append]
    simp only [← fold]
    rfl

end Search

end DocScribe.Docs
