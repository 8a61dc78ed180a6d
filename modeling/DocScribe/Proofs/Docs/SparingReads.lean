import DocScribe.Docs.Marker
import DocScribe.Proofs.Outcomes
import DocScribe.Proofs.Service.UnfinishedChanges

/-! Documents are read without a fault that tells of a change, whatever a service shows of them. -/

namespace DocScribe.Docs
open DocScribe

theorem documentEnd_spares (document : Json) : Spares (documentEnd document) := by
  refine (document.memberOr_spares _ _).bind fun body => (body.memberOr_spares _ _).bind fun content => ?_
  split
  · exact spares_pure _
  · split
    · exact Json.memberOr_spares "endIndex" _ _
    · exact spares_throw rfl
    · exact spares_throw rfl
    · exact spares_throw rfl

private theorem runs_spare (paragraph : Json) : Spares (Run.listOfJson paragraph) := by
  refine (paragraph.memberOr_spares _ _).bind fun elements => ?_
  exact elements.items_spares.bind fun _ => spares_pure _

/-- A part that is a fault is none of a change. -/
def Run.Spared : Run → Prop
  | .fault cause => cause.isUnfinished = false
  | _ => True

private theorem run_spared (value : Json) : (Run.ofJson value).Spared := by
  have shown := value.member_spares "textRun"
  have started := value.member?_spares "startIndex"
  unfold Run.ofJson
  cases read : value.member "textRun" with
  | error cause => exact shown cause read
  | ok textRun =>
    have written := textRun.member_spares "content"
    simp only [bind, Except.bind, pure, Except.pure]
    cases textRun.truthy with
    | false => trivial
    | true =>
      cases read : textRun.member "content" with
      | error cause => exact written cause read
      | ok content =>
        simp only
        cases content.truthy with
        | false => trivial
        | true =>
          cases read : value.member? "startIndex" with
          | error cause => exact started cause read
          | ok start => cases content <;> trivial

private theorem runs_spared {paragraph : Json} {runs : List Run} (listed : Run.listOfJson paragraph = .ok runs) :
    ∀ run ∈ runs, run.Spared := by
  obtain ⟨elements, -, rest⟩ := ok_of_bind listed
  obtain ⟨items, -, done⟩ := ok_of_bind rest
  obtain rfl := Except.ok.inj done
  exact List.forall_mem_map.mpr fun item _ => run_spared item

namespace Node

/-- What stands in the place of the items is no fault of a change. -/
def Listing.Spared {value : Json} : Listing value → Prop
  | .items .. => True
  | .texts _ => True
  | .absent cause => cause.isUnfinished = false
  | .fault cause => cause.isUnfinished = false

section Listings
variable {value : Json} {listing : Listing value} {cause : Fault}

theorem Listing.Spared.absent (spared : listing.Spared) (same : listing = .absent cause) : cause.isUnfinished = false := by
  rw [same] at spared
  exact spared

theorem Listing.Spared.fault (spared : listing.Spared) (same : listing = .fault cause) : cause.isUnfinished = false := by
  rw [same] at spared
  exact spared

end Listings

theorem Listing.ofItems_spared (value : Json) : (Listing.ofItems value).Spared := by
  unfold ofItems
  split
  · trivial
  · trivial
  · trivial
  · dsimp only
    split <;> rfl

theorem Listing.ofMember_spared (key : String) (value : Json) : (Listing.ofMember key value).Spared := by
  unfold ofMember
  split
  · split
    · trivial
    · rename_i inner found
      have spared := Listing.ofItems_spared inner
      dsimp only
      split
      · trivial
      · trivial
      · exact spared.absent ‹_›
      · exact spared.fault ‹_›
  · rfl

/-- No text that is placed is a fault of a change. -/
def AllSpared (texts : List (Outcome PlacedText)) : Prop := ∀ text ∈ texts, Spares text

theorem AllSpared.append {first second : List (Outcome PlacedText)} (front : AllSpared first) (back : AllSpared second) :
    AllSpared (first ++ second) :=
  List.forall_mem_append.mpr ⟨front, back⟩

theorem allSpared_nil : AllSpared [] := List.forall_mem_nil _

theorem allSpared_fault {cause : Fault} (mild : cause.isUnfinished = false) : AllSpared [.error cause] :=
  List.forall_mem_singleton.mpr (spares_error mild)

private theorem placed_runs {runs : List Run} (spared : ∀ run ∈ runs, run.Spared) : AllSpared (placedTexts (.paragraph runs)) := by
  rw [placedTexts]
  intro text among
  obtain ⟨run, member, found⟩ := List.mem_filterMap.mp among
  have own := spared run member
  split at found <;> cases found
  · exact spares_ok _
  · exact spares_error rfl
  · exact spares_error own

private theorem placed_text (text : String) : AllSpared (placedTexts (ofText text)) := by
  unfold ofText
  dsimp only
  split
  · exact allSpared_fault rfl
  · exact allSpared_nil

private theorem placed_textList (texts : List String) : AllSpared (placedAll (texts.map ofText)) := by
  induction texts with
  | nil => exact allSpared_nil
  | cons text texts ih =>
    rw [List.map_cons, placedAll]
    exact (placed_text text).append ih

mutual

theorem placed_ofJson (value : Json) : AllSpared (placedTexts (ofJson value)) := by
  cases value with
  | obj members =>
    unfold ofJson
    dsimp only
    split
    · rename_i inner _
      have read := runs_spare inner
      cases listed : Run.listOfJson inner with
      | error cause => exact allSpared_fault (read cause listed)
      | ok runs => exact placed_runs (runs_spared listed)
    · split
      · rename_i inner found
        have smaller := sizeOf_lookup found
        have spared := Listing.ofMember_spared "tableRows" inner
        split
        · rw [placedTexts]
          exact placed_rowsOfJson _
        · exact allSpared_nil
        · exact allSpared_fault rfl
        · exact allSpared_fault (spared.absent ‹_›)
        · exact allSpared_fault (spared.fault ‹_›)
      · split
        · rename_i inner found
          have smaller := sizeOf_lookup found
          have spared := Listing.ofMember_spared "content" inner
          split
          · rw [placedTexts]
            exact placed_listOfJson _
          · rw [placedTexts]
            exact placed_textList _
          · exact allSpared_nil
          · exact allSpared_fault (spared.fault ‹_›)
        · exact allSpared_nil
  | arr items =>
    unfold ofJson
    split
    · exact allSpared_fault rfl
    · exact allSpared_nil
  | str text =>
    unfold ofJson
    exact placed_text text
  | null | bool | int | decimal =>
    unfold ofJson
    split
    · exact allSpared_fault rfl
    · exact allSpared_fault rfl
termination_by sizeOf value

private theorem placed_listOfJson (items : List Json) : AllSpared (placedAll (listOfJson items)) := by
  cases items with
  | nil =>
    unfold listOfJson
    exact allSpared_nil
  | cons item rest =>
    rw [listOfJson, placedAll]
    exact (placed_ofJson item).append (placed_listOfJson rest)
termination_by sizeOf items

theorem placed_rowsOfJson (rows : List Json) : AllSpared (placedRows (rowsOfJson rows)) := by
  cases rows with
  | nil =>
    unfold rowsOfJson
    exact allSpared_nil
  | cons row rest =>
    have spared := Listing.ofMember_spared "tableCells" row
    rw [rowsOfJson, placedRows]
    refine AllSpared.append ?_ (placed_rowsOfJson rest)
    split
    · exact placed_cellsOfJson _
    · exact allSpared_nil
    · exact allSpared_fault rfl
    · exact allSpared_fault (spared.absent ‹_›)
    · exact allSpared_fault (spared.fault ‹_›)
termination_by sizeOf rows

theorem placed_cellsOfJson (cells : List Json) : AllSpared (placedCells (cellsOfJson cells)) := by
  cases cells with
  | nil =>
    unfold cellsOfJson
    exact allSpared_nil
  | cons cell rest =>
    have spared := Listing.ofMember_spared "content" cell
    rw [cellsOfJson, placedCells]
    refine AllSpared.append ?_ (placed_cellsOfJson rest)
    split
    · exact placed_listOfJson _
    · exact placed_textList _
    · exact allSpared_nil
    · exact allSpared_fault (spared.fault ‹_›)
termination_by sizeOf cells

end

private theorem placed_contentOfJson (content : Json) : AllSpared (placedAll (contentOfJson content)) := by
  have spared := Listing.ofItems_spared content
  unfold contentOfJson
  split
  · exact placed_listOfJson _
  · exact placed_textList _
  · exact allSpared_nil
  · exact allSpared_fault (spared.fault ‹_›)

end Node

private theorem flattenItems_spares (items : List Json) : Spares (Tab.flattenItems items) := by
  rcases items with _ | ⟨item, rest⟩
  · unfold Tab.flattenItems
    exact spares_pure _
  · cases item with
    | null =>
      unfold Tab.flattenItems
      exact flattenItems_spares rest
    | obj members =>
      have joined (children : List Json) :
          Spares (do return .obj members :: children ++ (← Tab.flattenItems rest)) :=
        (flattenItems_spares rest).bind fun _ => spares_pure _
      unfold Tab.flattenItems
      dsimp only
      split
      · exact joined []
      · rename_i children found
        have smaller := Node.sizeOf_lookup found
        have spared := Node.Listing.ofItems_spared children
        split
        · exact (flattenItems_spares _).bind joined
        · exact joined []
        · exact spares_error rfl
        · exact joined []
        · exact spares_error (spared.fault ‹_›)
    | _ =>
      unfold Tab.flattenItems
      exact spares_error rfl
termination_by sizeOf items

private theorem flatten_spares (tabs : Json) : Spares (Tab.flatten tabs) := by
  unfold Tab.flatten
  split
  · exact spares_pure _
  · exact tabs.items_spares.bind fun items => flattenItems_spares items

section Markers
variable (count minIndex : Int)

private theorem positionOf_spares (start : Json) : Spares (positionOf start) := by
  unfold positionOf
  split
  · exact spares_pure _
  · exact spares_pure _
  · exact spares_throw rfl
  · exact spares_throw rfl
  · exact spares_throw rfl

private theorem addMarker_spares (start : Json) (text : List Char) (ranges : MarkerRanges) (marker : FoundMarker) :
    Spares (addMarker count minIndex start text ranges marker) := by
  unfold addMarker
  dsimp only
  split
  · rw [pure_bind]
    split
    · exact spares_pure _
    · refine (positionOf_spares start).bind fun place => ?_
      split
      · exact spares_pure _
      · exact spares_pure _
  · exact spares_error rfl
  · exact spares_error rfl

private theorem addTexts_spares (tag : List Char) (ranges : MarkerRanges) {texts : List (Outcome PlacedText)}
    (spared : Node.AllSpared texts) : Spares (addTexts count minIndex tag ranges texts) := by
  induction texts generalizing ranges with
  | nil => exact spares_pure _
  | cons text texts ih =>
    obtain ⟨own, others⟩ := List.forall_mem_cons.mp spared
    refine own.bind fun placed => ?_
    refine (Spares.foldlM (fun ranges marker _ => ?_) _).bind fun ranges => ih ranges others
    exact addMarker_spares count minIndex _ _ ranges marker

theorem findMarkers_spares (document : Json) (tag : String) : Spares (findMarkers document count tag minIndex) := by
  have add (ranges : MarkerRanges) (body : Json) :
      Spares (do addTexts count minIndex tag.toList ranges (← bodyTexts body)) := by
    unfold bodyTexts
    split
    · exact addTexts_spares count minIndex _ _ Node.allSpared_nil
    · rw [bind_assoc]
      refine (body.memberOr_spares _ _).bind fun content => ?_
      exact addTexts_spares count minIndex _ _ (Node.placed_contentOfJson content)
  unfold findMarkers
  split
  · exact spares_pure _
  · refine (document.member_spares _).bind fun body => (add _ body).bind fun ranges =>
      (document.member_spares _).bind fun tabs => (flatten_spares tabs).bind fun tabs => ?_
    refine Spares.foldlM (fun ranges tab _ => ?_) ranges
    exact (tab.member_spares _).bind fun documentTab => (Json.member_spares _ _).bind fun body => add ranges body

end Markers

end DocScribe.Docs
