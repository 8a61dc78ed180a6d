import DocScribe.Proofs.Docs.AnchorUnits
import DocScribe.Proofs.Docs.MisplacedStyles
import DocScribe.Proofs.Docs.WholeWrite

/-! Writing to a service that drops the anchors of tables from the text. Its document ends up like that of a
service that stores them just if the text holds no such character itself and nothing behind a table is styled:
the first batch sets its styles where the text would stand with its anchors. -/

namespace DocScribe.Docs
open DocScribe Markdown TableInsertion

/-- The same service, but for the anchors, which it does not store. -/
def DocumentService.stripped (service : DocumentService) : DocumentService :=
  { service with keeps := fun c => service.keeps c && c != tableAnchor }

theorem DocumentService.stripped_drops (service : DocumentService) : service.stripped.keeps tableAnchor = false := by
  simp [stripped]

/-- The character of an anchor stands in the text of a part or in a cell of it. -/
def Part.HoldsAnchor : Part → Prop
  | .text chars _ => tableAnchor ∈ chars
  | .table cells => ∃ row ∈ cells, ∃ spans ∈ row, tableAnchor ∈ (spansText spans).toList
  | .image .. => False

instance : DecidablePred Part.HoldsAnchor
  | .text chars _ => inferInstanceAs (Decidable (tableAnchor ∈ chars))
  | .table cells => inferInstanceAs (Decidable (∃ row ∈ cells, ∃ spans ∈ row, tableAnchor ∈ (spansText spans).toList))
  | .image .. => inferInstanceAs (Decidable False)

namespace LaidBody

/-- A part with its table, or with its picture if the search for markers ended well. -/
def finishedPart (found : Bool) : Part × LiveBody → LiveBody
  | (.text .., own) => own
  | (.table cells, _) => tableSlots true cells
  | (.image _ source _ _, own) => if found then [Slot.plain (.image source)] else own

def finished (found : Bool) (laid : LaidBody) : LiveBody := laid.flatMap (finishedPart found)

private theorem finished_found (laid : LaidBody) : laid.finished true = laid.tabled.pictured.slots := by
  rw [finished, slots, pictured, tabled, List.map_map, List.flatMap_map]
  refine List.flatMap_congr fun piece _ => ?_
  obtain ⟨part, own⟩ := piece
  cases part <;> rfl

private theorem finished_notFound (laid : LaidBody) : laid.finished false = laid.tabled.slots := by
  rw [finished, slots, tabled, List.flatMap_map]
  refine List.flatMap_congr fun piece _ => ?_
  obtain ⟨part, own⟩ := piece
  cases part <;> rfl

/-- What the finished parts hold does not depend on the styles of their texts. -/
theorem contents_finished (found : Bool) {tag : String} {shape otherShape : Grid → List SlotContent}
    {laid other : LaidBody} (holds : laid.Holds shape tag) (otherHolds : other.Holds otherShape tag)
    (same : laid.parts = other.parts) : LiveBody.contents (laid.finished found) = LiveBody.contents (other.finished found) := by
  induction laid generalizing other with
  | nil =>
    obtain rfl := List.map_eq_nil_iff.mp same.symm
    rfl
  | cons piece laid ih =>
    obtain ⟨⟨part, own⟩, rest, rfl, rfl, later⟩ := List.map_eq_cons_iff.mp same.symm
    have tail := ih (fun piece member => holds piece (List.mem_cons_of_mem _ member))
      (fun piece member => otherHolds piece (List.mem_cons_of_mem _ member)) later.symm
    have first := holds piece (by simp)
    have second := otherHolds (piece.1, own) (by simp)
    obtain ⟨part, slots⟩ := piece
    simp only [finished, List.flatMap_cons, LiveBody.contents_append] at tail ⊢
    rw [tail]
    congr 1
    cases part with
    | text chars style => exact first.trans second.symm
    | table cells => rfl
    | image ordinal source isRemote alt =>
      cases found with
      | true => rfl
      | false => exact first.trans second.symm

private theorem finished_writtenParts (found anchors : Bool) (tag : String) (parts : List Part) :
    (writtenParts anchors tag parts).finished found = (writtenParts true tag parts).finished found := by
  rw [finished, finished, writtenParts, writtenParts, List.flatMap_map, List.flatMap_map]
  refine List.flatMap_congr fun part _ => ?_
  cases part <;> rfl

end LaidBody

section Finishing
variable {service : DocumentService} {target : WriteTarget} {front back : LiveBody} {elements : List Element}
  {laid : LaidBody} {anchors : Bool}

/-- The body that a write ends with, whether the search for markers ends well or not. -/
theorem complete_body (shows : service.ShowsBodies) (between : target.Between service front back)
    (whole : laid.parts = parts elements) (holds : laid.Holds (bareShape anchors) (compile elements front.length).tag)
    (kept : ∀ cells, .table cells ∈ parts elements → KeepsCells service.keeps cells) (remote : AllRemote elements)
    (sourced : ∀ element ∈ elements, element.HasSource) {found : Bool}
    (known : found = true ↔ (imagesIn elements = 0 ∨ ¬ HasLongMarker (compile elements front.length).tag
      (LiveBody.contents (front ++ (laid.tabled.slots ++ back))))) :
    (service.run (target.complete (compile elements front.length)).run (front ++ (laid.slots ++ back))).2 =
      front ++ (laid.finished found ++ back) := by
  cases found with
  | true =>
    have complete := complete_succeeds shows between whole holds kept remote sourced (known.mp rfl)
    rw [complete, LaidBody.finished_found]
  | false =>
    obtain ⟨some, long⟩ := not_or.mp (mt known.mpr Bool.false_ne_true)
    obtain ⟨digits, complete⟩ := complete_fails shows between whole holds kept some (Classical.not_not.mp long)
    rw [complete, LaidBody.finished_notFound]

end Finishing

section Anchors
variable {tag : String}

theorem anchor_not_mem_marker (plain : IsPlainTag tag.toList) (ordinal : Nat) :
    tableAnchor ∉ (imageMarker ordinal tag).toList := by
  rw [toList_imageMarker, markerChars, List.mem_append, List.mem_append]
  rintro (opens | digit | closes)
  · exact not_mem_opener plain (by decide) (by decide) (by decide) opens
  · exact absurd (toDigits_alphanum digit) (by decide)
  · exact absurd closes (by decide)

private theorem stripped_keeps {service : DocumentService} (keeps : ∀ c, service.keeps c = true) (c : Char) :
    service.stripped.keeps c = (c != tableAnchor) := by
  simp [DocumentService.stripped, keeps c]

private theorem isKept_stripped {service : DocumentService} (keeps : ∀ c, service.keeps c = true) (plain : IsPlainTag tag.toList)
    {part : Part} (free : ¬ part.HoldsAnchor) : part.IsKept service.stripped.keeps tag := by
  cases part with
  | table cells => trivial
  | text chars style =>
    intro c member
    rw [stripped_keeps keeps, bne_iff_ne]
    rintro rfl
    exact free member
  | image ordinal source isRemote alt =>
    intro c member
    rw [stripped_keeps keeps, bne_iff_ne]
    exact fun same => anchor_not_mem_marker plain ordinal (same ▸ member)

private theorem keepsCells_stripped {service : DocumentService} (keeps : ∀ c, service.keeps c = true) {cells : Grid}
    (free : ¬ (Part.table cells).HoldsAnchor) : KeepsCells service.stripped.keeps cells := by
  intro row inside spans member c there
  rw [stripped_keeps keeps, bne_iff_ne]
  exact fun same => free ⟨row, inside, spans, member, same ▸ there⟩

private theorem mem_rowsSlots (columns : Nat) (bold : Bool) {cells : Grid} {row : List (List Span)} (inside : row ∈ cells)
    {spans : List Span} (member : spans ∈ row) {content : SlotContent}
    (there : content ∈ textContents (spansText spans).toList) :
    content ∈ LiveBody.contents (rowsSlots columns bold cells) := by
  induction cells generalizing bold with
  | nil => simp at inside
  | cons first cells ih =>
    rw [rowsSlots, LiveBody.contents_append, List.mem_append]
    rcases List.mem_cons.mp inside with rfl | later
    · left
      have cell : content ∈ LiveBody.contents (cellSlots bold spans) := by simp [cellSlots, there]
      obtain ⟨slot, inCell, rfl⟩ := List.mem_map.mp cell
      refine List.mem_map_of_mem (List.mem_cons_of_mem _ (List.mem_flatMap.mpr ⟨spans, ?_, inCell⟩))
      exact List.mem_append_left _ member
    · exact .inr (ih false later)

private theorem anchorUnits_finished (tag : String) {part : Part} (holds : part.HoldsAnchor) (found : Bool) :
    0 < anchorUnits (LaidBody.finishedPart found (part, part.slots true tag)) := by
  rw [anchorUnits, List.count_pos_iff]
  cases part with
  | text chars style =>
    simp only [LaidBody.finishedPart, Part.slots, contents_styledSlots]
    exact mem_anchor.mpr holds
  | table cells =>
    obtain ⟨row, inside, spans, member, there⟩ := holds
    have cell := mem_rowsSlots (width cells) true inside member (mem_anchor.mpr there)
    simp [LaidBody.finishedPart, tableSlots, cell]
  | image ordinal source isRemote alt => exact holds.elim

end Anchors

section Services
variable {service : DocumentService} {target : WriteTarget} {markdown : String} {body before after : LiveBody}

theorem DocumentService.ShowsBodies.stripped (shows : service.ShowsBodies) : service.stripped.ShowsBodies :=
  ⟨shows.ends, shows.runs⟩

theorem WriteTarget.Between.stripped (between : target.Between service before after) :
    target.Between service.stripped before after :=
  ⟨between.own, between.base, between.stop, between.inside, between.followed⟩

/-- Two sides of a body that hold the same are as good a place. -/
theorem WriteTarget.Between.of_contents {front back : LiveBody} (between : target.Between service before after)
    (inFront : front.contents = before.contents) (inBack : back.contents = after.contents) :
    target.Between service front back := by
  have sizeFront : front.length = before.length := by simpa using congrArg List.length inFront
  have sizeBack : back.length = after.length := by simpa using congrArg List.length inBack
  refine ⟨between.own, by rw [sizeFront, between.base], ?_, List.ne_nil_of_length_pos ?_, List.ne_nil_of_length_pos ?_⟩
  · rw [between.stop, List.length_append, List.length_append, sizeFront, sizeBack]
  · rw [sizeFront]
    exact List.length_pos_iff.mpr between.inside
  · rw [sizeBack]
    exact List.length_pos_iff.mpr between.followed

/-- The search for markers ends well in the document that a text is written into. -/
def FindsMarkers (elements : List Element) (before after : LiveBody) : Prop :=
  imagesIn elements = 0 ∨ ¬ HasLongMarker (compile elements before.length).tag
    (LiveBody.contents (before ++ (marked (compile elements before.length).tag (parts elements) ++ after)))

theorem exists_found (elements : List Element) (before after : LiveBody) :
    ∃ found : Bool, found = true ↔ FindsMarkers elements before after := by
  classical exact ⟨decide _, decide_eq_true_iff⟩

theorem kept_body (shows : service.ShowsBodies) (keeps : ∀ c, service.keeps c = true)
    (between : target.Between service before after) (prepared : applyEdits service.keeps target.preamble body = before ++ after)
    (remote : AllRemote (parse markdown)) {found : Bool} (known : found = true ↔ FindsMarkers (parse markdown) before after) :
    (service.run (target.write markdown).run body).2 = before ++
      ((writtenParts true (compile (parse markdown) before.length).tag (parts (parse markdown))).finished found ++ after) := by
  rw [run_write_kept keeps between prepared]
  refine complete_body shows between (parts_writtenParts _) (holds_writtenParts _ _) (fun _ _ _ _ _ _ c _ => keeps c) remote
    (parse_hasSource markdown) ?_
  rw [tabled_writtenParts]
  exact known

theorem run_write_stripped (between : target.Between service before after)
    (prepared : applyEdits service.stripped.keeps target.preamble body = before ++ after) :
    service.stripped.run (target.write markdown).run body =
      service.stripped.run (target.complete (compile (parse markdown) before.length)).run
        (applyEdits service.stripped.keeps (compile (parse markdown) before.length).edits (before ++ after)) := by
  have written := run_write between.stripped.own markdown body
  rw [between.base, applyEdits_append, prepared] at written
  exact written

/-- Nothing behind a table is styled and no text holds an anchor: the documents are the same. -/
theorem bodies_agree (shows : service.ShowsBodies) (keeps : ∀ c, service.keeps c = true)
    (between : target.Between service before after) (prepared : applyEdits service.keeps target.preamble body = before ++ after)
    (preparedStripped : applyEdits service.stripped.keeps target.preamble body = before ++ after)
    (remote : AllRemote (parse markdown)) (free : ∀ part ∈ parts (parse markdown), ¬ part.HoldsAnchor)
    (unstyled : ¬ StyledBehindTable (parts (parse markdown))) :
    (service.run (target.write markdown).run body).2 = (service.stripped.run (target.write markdown).run body).2 := by
  obtain ⟨found, known⟩ := exists_found (parse markdown) before after
  have kept : ∀ part ∈ parts (parse markdown),
      part.IsKept service.stripped.keeps (compile (parse markdown) before.length).tag :=
    fun part member => isKept_stripped keeps (compile_plain _ _) (free part member)
  have batch := compiled_edits_apply (parse markdown) before after rfl kept (.inr unstyled)
  rw [service.stripped_drops] at batch
  rw [kept_body shows keeps between prepared remote known, run_write_stripped between preparedStripped, batch,
    complete_body shows.stripped between.stripped (parts_writtenParts _) (holds_writtenParts _ _)
      (fun cells member => keepsCells_stripped keeps (free _ member)) remote (parse_hasSource markdown)
      (by rw [tabled_writtenParts]; exact known),
    LaidBody.finished_writtenParts found false]

/-- A text that holds an anchor itself keeps it only where anchors are stored. -/
theorem bodies_differ_of_anchor (shows : service.ShowsBodies) (keeps : ∀ c, service.keeps c = true)
    (between : target.Between service before after) (prepared : applyEdits service.keeps target.preamble body = before ++ after)
    (preparedStripped : applyEdits service.stripped.keeps target.preamble body = before ++ after)
    (remote : AllRemote (parse markdown)) {part : Part} (member : part ∈ parts (parse markdown)) (holds : part.HoldsAnchor) :
    (service.run (target.write markdown).run body).2 ≠ (service.stripped.run (target.write markdown).run body).2 := by
  intro same
  obtain ⟨found, known⟩ := exists_found (parse markdown) before after
  have fewer : anchorUnits (service.stripped.run (target.write markdown).run body).2 ≤ anchorUnits (before ++ after) := by
    rw [run_write_stripped between preparedStripped]
    exact (anchorUnits_run service.stripped_drops _ _).trans (anchorUnits_edits service.stripped_drops _ _)
  rw [← same, kept_body shows keeps between prepared remote known] at fewer
  obtain ⟨left, right, split⟩ := List.append_of_mem member
  have own := anchorUnits_finished (compile (parse markdown) before.length).tag holds found
  rw [split] at fewer
  simp only [writtenParts, List.map_append, List.map_cons, LaidBody.finished, List.flatMap_append, List.flatMap_cons,
    anchorUnits_append] at fewer
  omega

/-- The first styled text behind a table starts with a unit that gets its style only where anchors are stored. -/
theorem bodies_differ_of_styled (shows : service.ShowsBodies) (keeps : ∀ c, service.keeps c = true)
    (between : target.Between service before after) (prepared : applyEdits service.keeps target.preamble body = before ++ after)
    (preparedStripped : applyEdits service.stripped.keeps target.preamble body = before ++ after)
    (remote : AllRemote (parse markdown)) (free : ∀ part ∈ parts (parse markdown), ¬ part.HoldsAnchor)
    {ahead middle behind : List Part} {cells : Grid} {chars : List Char} {style : Style}
    (split : SplitAtStyled (parts (parse markdown)) ahead cells middle chars style behind) :
    (service.run (target.write markdown).run body).2 ≠ (service.stripped.run (target.write markdown).run body).2 := by
  intro same
  obtain ⟨found, known⟩ := exists_found (parse markdown) before after
  obtain ⟨front, back, first, last, slot, own, batch, inFront, inBack, firstParts, lastParts, holds, unstyled⟩ :=
    split.batch before after service.stripped_drops fun part member => isKept_stripped keeps (compile_plain _ _) (free part member)
  have whole : LaidBody.parts (first ++ (.text chars style, slot :: own) :: last) = parts (parse markdown) := by
    rw [LaidBody.parts, List.map_append, List.map_cons, ← LaidBody.parts, ← LaidBody.parts, firstParts, lastParts, split.whole]
  have sizeFront : front.length = before.length := by simpa using congrArg List.length inFront
  have searched : LiveBody.contents (front ++ (LaidBody.slots (LaidBody.tabled (first ++ (.text chars style, slot :: own) :: last)) ++ back)) =
      LiveBody.contents (before ++
        (marked (compile (parse markdown) before.length).tag (parts (parse markdown)) ++ after)) := by
    simp only [LiveBody.contents_append, inFront, inBack]
    rw [LaidBody.contents_slots (LaidBody.holds_tabled holds), LaidBody.parts_tabled, whole, ← tabled_writtenParts _ true,
      LaidBody.contents_slots (LaidBody.holds_tabled (holds_writtenParts _ _)), LaidBody.parts_tabled, parts_writtenParts]
  have ended := complete_body shows.stripped (between.stripped.of_contents inFront inBack) whole
    (by rw [sizeFront]; exact holds) (fun cells member => keepsCells_stripped keeps (free _ member)) remote
    (parse_hasSource markdown) (by rw [searched, sizeFront]; exact known)
  rw [sizeFront, ← batch, ← run_write_stripped between preparedStripped, ← same,
    kept_body shows keeps between prepared remote known] at ended
  -- what stands in front of the first styled text is as long on both sides, so its first slots are one
  have whereStored : (writtenParts true (compile (parse markdown) before.length).tag (parts (parse markdown))).finished found =
      (writtenParts true (compile (parse markdown) before.length).tag (ahead ++ .table cells :: middle)).finished found ++
        (styledSlots chars (TextStyle.none.set style) ++
          (writtenParts true (compile (parse markdown) before.length).tag behind).finished found) := by
    rw [split.whole]
    simp [writtenParts, LaidBody.finished, LaidBody.finishedPart, Part.slots]
  have whereDropped : LaidBody.finished found (first ++ (.text chars style, slot :: own) :: last) =
      first.finished found ++ (slot :: own ++ last.finished found) := by
    simp [LaidBody.finished, LaidBody.finishedPart]
  have asLong := congrArg List.length (LaidBody.contents_finished found
    (holds_writtenParts (ahead ++ .table cells :: middle) true)
    (fun piece member => holds piece (List.mem_append_left _ member)) ((parts_writtenParts _).trans firstParts.symm))
  rw [LiveBody.length_contents, LiveBody.length_contents] at asLong
  obtain ⟨_, ended⟩ := List.append_inj ended sizeFront.symm
  simp only [whereStored, whereDropped, List.append_assoc] at ended
  obtain ⟨_, ended⟩ := List.append_inj ended asLong
  obtain ⟨content, more, text⟩ := List.exists_cons_of_ne_nil (textContents_eq_nil.not.mpr split.styled.1)
  rw [styledSlots, text, List.map_cons] at ended
  rw [← (List.cons.inj ended).1] at unstyled
  exact split.styled.2 (TextStyle.set_none_eq_none.mp unstyled)

/-- A Markdown text whose images are all remote is written to a service that stores every character and to one that
drops anchors. The two documents end up the same, unit for unit and style for style, just if no text of it holds
such a character itself and nothing behind a table is styled. -/
theorem bodies_agree_iff (shows : service.ShowsBodies) (keeps : ∀ c, service.keeps c = true)
    (between : target.Between service before after) (prepared : applyEdits service.keeps target.preamble body = before ++ after)
    (preparedStripped : applyEdits service.stripped.keeps target.preamble body = before ++ after)
    (remote : AllRemote (parse markdown)) :
    (service.run (target.write markdown).run body).2 = (service.stripped.run (target.write markdown).run body).2 ↔
      (∀ part ∈ parts (parse markdown), ¬ part.HoldsAnchor) ∧ ¬ StyledBehindTable (parts (parse markdown)) := by
  constructor
  · intro same
    have free : ∀ part ∈ parts (parse markdown), ¬ part.HoldsAnchor := fun part member holds =>
      bodies_differ_of_anchor shows keeps between prepared preparedStripped remote member holds same
    refine ⟨free, mt StyledBehindTable.split ?_⟩
    rintro ⟨_, _, _, _, _, _, split⟩
    exact bodies_differ_of_styled shows keeps between prepared preparedStripped remote free split same
  · rintro ⟨free, unstyled⟩
    exact bodies_agree shows keeps between prepared preparedStripped remote free unstyled

/-- A styled text in front of a table, with a plain text and a picture behind it, is no trouble. -/
theorem bodies_agree_plainBehindTable :
    let markdown := "**a**\n\n| b |\n|---|\n\nplain\n\n![p](http://x/i.png)\n"
    let body := plainSlots [.other 0, .code 10]
    let service := DocumentService.showing fun _ => true
    let target : WriteTarget := { documentId := .str "document", baseIndex := 1, endIndex := some 2 }
    (service.run (target.write markdown).run body).2 = (service.stripped.run (target.write markdown).run body).2 := by
  intro markdown body service target
  have elements : parse markdown = [.paragraph [⟨"a", { bold := true }⟩], .table [[[⟨"b", {}⟩]]],
      .paragraph [⟨"plain", {}⟩], .image "http://x/i.png" true "p"] := by decide +kernel
  have between : target.Between service (plainSlots [.other 0]) (plainSlots [.code 10]) := ⟨rfl, rfl, rfl, by simp, by simp⟩
  refine (bodies_agree_iff (DocumentService.showing_showsBodies _) (fun _ => rfl) between rfl rfl ?_).mpr ⟨?_, ?_⟩
  · rw [elements]
    simp [AllRemote]
  · rw [elements]
    decide +kernel
  · rw [elements]
    decide +kernel

/-- A bold text behind a table does not get its style on all of its units where anchors are dropped. -/
theorem bodies_differ_boldBehindTable :
    let markdown := "| a |\n|---|\n\n**bold** plain"
    let body := plainSlots [.other 0, .code 10]
    let service := DocumentService.showing fun _ => true
    let target : WriteTarget := { documentId := .str "document", baseIndex := 1, endIndex := some 2 }
    AllRemote (parse markdown) ∧
      (service.run (target.write markdown).run body).2 ≠ (service.stripped.run (target.write markdown).run body).2 := by
  intro markdown body service target
  have elements : parse markdown =
      [.table [[[⟨"a", {}⟩]]], .paragraph [⟨"bold", { bold := true }⟩, ⟨" plain", {}⟩]] := by decide +kernel
  have between : target.Between service (plainSlots [.other 0]) (plainSlots [.code 10]) := ⟨rfl, rfl, rfl, by simp, by simp⟩
  have remote : AllRemote (parse markdown) := by
    rw [elements]
    simp [AllRemote]
  obtain ⟨_, _, _, _, _, _, split⟩ : ∃ ahead cells middle chars style behind,
      SplitAtStyled (parts (parse markdown)) ahead cells middle chars style behind := by
    rw [elements]
    exact StyledBehindTable.split (by decide +kernel)
  refine ⟨remote, bodies_differ_of_styled (DocumentService.showing_showsBodies _) (fun _ => rfl) between rfl rfl remote ?_ split⟩
  rw [elements]
  decide +kernel

end Services

end DocScribe.Docs
