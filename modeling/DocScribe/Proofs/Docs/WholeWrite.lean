import DocScribe.Proofs.Docs.TabledText
import DocScribe.Proofs.Docs.TextBatch

/-! Writing a Markdown text into a live document, from the first batch to the last. Where the text goes, the
document ends up with the parts of the text in order: the texts in their styles, the tables with their cells
and the pictures. Only a marker with too many digits stops this, since the search for markers reads the number
of every marker in the document. -/

namespace DocScribe.Docs
open DocScribe Markdown TableInsertion

/-- A target is a place in a body: the base index stands between its two sides, and the end index is where the
document ends. -/
structure WriteTarget.Between (target : WriteTarget) (service : DocumentService) (before after : LiveBody) : Prop where
  own : target.documentId = service.documentId
  base : target.baseIndex = before.length
  stop : target.endIndex = some ((before ++ after).length : Int)
  inside : before ≠ []
  followed : after ≠ []

def Compiled.report (compiled : Compiled) : WriteReport :=
  ⟨compiled.text.length, compiled.styles.length, compiled.tables.length, compiled.images.length, compiled.warnings⟩

namespace Part

/-- The slots of a part in a document. -/
def rendered : Part → LiveBody
  | .text chars style => styledSlots chars (TextStyle.none.set style)
  | .table cells => tableSlots true cells
  | .image _ source _ _ => [Slot.plain (.image source)]

/-- The slots of a part before the pictures are put in. -/
def marked (tag : String) : Part → LiveBody
  | .image ordinal _ _ _ => plainSlots (textContents (imageMarker ordinal tag).toList)
  | part => part.rendered

end Part

def rendered (parts : List Part) : LiveBody := parts.flatMap Part.rendered

def marked (tag : String) (parts : List Part) : LiveBody := parts.flatMap (Part.marked tag)

/-- What a write does behind its first batch. -/
def WriteTarget.complete (target : WriteTarget) (compiled : Compiled) : Action WriteReport := do
  target.insertTables compiled
  let inserter : ImageInserter :=
    { documentId := target.documentId, hasDrive := target.hasDrive
      markdownPath := target.markdownPath, folder := target.imageFolder }
  let (inserted, _) ← ExceptT.lift (inserter.insertAll compiled.images target.baseIndex [])
  let images ← Action.ofOutcome inserted
  return ⟨compiled.text.length, compiled.styles.length, compiled.tables.length, images, compiled.warnings⟩

section Phases
variable {service : DocumentService} {target : WriteTarget} {front back : LiveBody}

theorem run_write (own : target.documentId = service.documentId) (markdown : String) (body : LiveBody) :
    service.run (target.write markdown).run body =
      service.run (target.complete (compile (parse markdown) target.baseIndex)).run
        (applyEdits service.keeps (target.preamble ++ (compile (parse markdown) target.baseIndex).edits) body) := by
  rw [WriteTarget.write]
  cases edits : target.preamble ++ (compile (parse markdown) target.baseIndex).edits with
  | nil => rfl
  | cons edit rest =>
    have edited := service.succeeds_edit (edit :: rest) body
    rw [← own] at edited
    exact edited.andThen

variable {elements : List Element} {laid : LaidBody} {anchors : Bool}

private theorem tables_succeed (shows : service.ShowsBodies) (between : target.Between service front back)
    (whole : laid.parts = parts elements) (holds : laid.Holds (bareShape anchors) (compile elements front.length).tag)
    (kept : ∀ cells, .table cells ∈ parts elements → KeepsCells service.keeps cells) :
    service.Succeeds (target.insertTables (compile elements front.length)) (front ++ (laid.slots ++ back)) ()
      (front ++ (laid.tabled.slots ++ back)) := by
  refine insertTables_succeeds shows between.own holds ?_ ?_ (fun cells member => ?_) between.inside between.followed
    between.stop
  · rw [whole]
    exact compile_text elements front.length
  · rw [whole]
    exact compile_tables elements front.length
  · rw [whole] at member
    exact ⟨width_of_partsFrom member, kept cells member⟩

/-- Behind the first batch the parts of the text are laid into the body. If no marker has too many digits, they
get their tables and pictures. -/
theorem complete_succeeds (shows : service.ShowsBodies) (between : target.Between service front back)
    (whole : laid.parts = parts elements) (holds : laid.Holds (bareShape anchors) (compile elements front.length).tag)
    (kept : ∀ cells, .table cells ∈ parts elements → KeepsCells service.keeps cells) (remote : AllRemote elements)
    (sourced : ∀ element ∈ elements, element.HasSource)
    (short : imagesIn elements = 0 ∨ ¬ HasLongMarker (compile elements front.length).tag
      (LiveBody.contents (front ++ (laid.tabled.slots ++ back)))) :
    service.Succeeds (target.complete (compile elements front.length)) (front ++ (laid.slots ++ back))
      (compile elements front.length).report (front ++ (laid.tabled.pictured.slots ++ back)) := by
  have tables := tables_succeed shows between whole holds kept
  let inserter : ImageInserter :=
    { documentId := target.documentId, hasDrive := target.hasDrive
      markdownPath := target.markdownPath, folder := target.imageFolder }
  have own : inserter.documentId = service.documentId := between.own
  have pictures := run_pictures shows own remote sourced
    (quiet_tableShape (compile_plain elements front.length)) (LaidBody.parts_tabled.trans whole)
    (LaidBody.holds_tabled holds) short
  rw [DocumentService.Succeeds, WriteTarget.complete, tables.andThen, between.base]
  refine (DocumentService.succeeds_lift pictures).andThen.trans ?_
  refine (DocumentService.succeeds_ofOutcome _ _).andThen.trans ?_
  rw [← length_compile_images elements front.length]
  rfl

/-- If a marker has too many digits, the tables are put in and then the write fails. -/
theorem complete_fails (shows : service.ShowsBodies) (between : target.Between service front back)
    (whole : laid.parts = parts elements) (holds : laid.Holds (bareShape anchors) (compile elements front.length).tag)
    (kept : ∀ cells, .table cells ∈ parts elements → KeepsCells service.keeps cells) (some : imagesIn elements ≠ 0)
    (long : HasLongMarker (compile elements front.length).tag (LiveBody.contents (front ++ (laid.tabled.slots ++ back)))) :
    ∃ digits, service.Fails (target.complete (compile elements front.length)) (front ++ (laid.slots ++ back))
      (.tooManyDigits digits) (front ++ (laid.tabled.slots ++ back)) := by
  have tables := tables_succeed shows between whole holds kept
  let inserter : ImageInserter :=
    { documentId := target.documentId, hasDrive := target.hasDrive
      markdownPath := target.markdownPath, folder := target.imageFolder }
  have own : inserter.documentId = service.documentId := between.own
  obtain ⟨digits, pictures⟩ := run_pictures_long shows own some long
  refine ⟨digits, ?_⟩
  rw [DocumentService.Fails, WriteTarget.complete, tables.andThen, between.base]
  exact (DocumentService.succeeds_lift pictures).andThen

end Phases

section Written
variable {tag : String} {anchors : Bool} (parts : List Part)

theorem contents_bareShape (part : Part) : part.contents (bareShape anchors) tag = textContents (part.stored anchors tag) := by
  cases part with
  | table cells => cases anchors <;> rfl
  | text chars style | image ordinal source isRemote alt => rfl

theorem laidOut_bareShape : laidOut (bareShape anchors) tag parts = textContents (storedText anchors tag parts) := by
  induction parts with
  | nil => rfl
  | cons part parts ih => rw [laidOut_cons, ih, contents_bareShape, storedText_cons, textContents_append]

theorem parts_writtenParts : (writtenParts anchors tag parts).parts = parts := by
  simp [writtenParts, LaidBody.parts, Function.comp_def]

theorem holds_writtenParts (anchors : Bool) : (writtenParts anchors tag parts).Holds (bareShape anchors) tag := by
  intro piece member
  obtain ⟨part, _, rfl⟩ := List.mem_map.mp member
  rw [contents_slots, contents_bareShape]

theorem tabled_writtenParts (anchors : Bool) : (writtenParts anchors tag parts).tabled.slots = marked tag parts := by
  rw [LaidBody.slots, LaidBody.tabled, writtenParts, List.map_map, List.flatMap_map, marked]
  refine List.flatMap_congr fun part _ => ?_
  cases part <;> rfl

private theorem pictured_writtenParts : (writtenParts anchors tag parts).tabled.pictured.slots = rendered parts := by
  rw [LaidBody.slots, LaidBody.pictured, LaidBody.tabled, writtenParts, List.map_map, List.map_map, List.flatMap_map, rendered]
  refine List.flatMap_congr fun part _ => ?_
  cases part <;> rfl

end Written

section Whole
variable {service : DocumentService} {target : WriteTarget} {markdown : String} {body before after : LiveBody}

theorem run_write_kept (keeps : ∀ c, service.keeps c = true) (between : target.Between service before after)
    (prepared : applyEdits service.keeps target.preamble body = before ++ after) :
    service.run (target.write markdown).run body =
      service.run (target.complete (compile (parse markdown) before.length)).run
        (before ++ ((writtenParts true (compile (parse markdown) before.length).tag (parts (parse markdown))).slots ++ after)) := by
  have written := run_write between.own markdown body
  have kept : ∀ part ∈ parts (parse markdown), part.IsKept service.keeps (compile (parse markdown) before.length).tag := by
    intro part _
    cases part with
    | table cells => trivial
    | text chars style | image ordinal source isRemote alt => exact fun c _ => keeps c
  have batch := compiled_edits_apply (parse markdown) before after rfl kept (.inl (keeps tableAnchor))
  rw [between.base, applyEdits_append, prepared, batch, keeps tableAnchor] at written
  exact written

/-- A text is written between the two sides of a body: between its sides, the body ends up with the parts of the
text. -/
theorem write_succeeds (shows : service.ShowsBodies) (keeps : ∀ c, service.keeps c = true)
    (between : target.Between service before after) (prepared : applyEdits service.keeps target.preamble body = before ++ after)
    (remote : AllRemote (parse markdown))
    (short : imagesIn (parse markdown) = 0 ∨ ¬ HasLongMarker (compile (parse markdown) before.length).tag
      (LiveBody.contents (before ++ (marked (compile (parse markdown) before.length).tag (parts (parse markdown)) ++ after)))) :
    service.Succeeds (target.write markdown) body (compile (parse markdown) before.length).report
      (before ++ (rendered (parts (parse markdown)) ++ after)) := by
  have complete := complete_succeeds shows between (parts_writtenParts _) (holds_writtenParts _ true)
    (fun _ _ _ _ _ _ c _ => keeps c) remote (parse_hasSource markdown) (by rw [tabled_writtenParts]; exact short)
  rw [pictured_writtenParts] at complete
  exact (run_write_kept keeps between prepared).trans complete

private theorem write_fails (shows : service.ShowsBodies) (keeps : ∀ c, service.keeps c = true)
    (between : target.Between service before after) (prepared : applyEdits service.keeps target.preamble body = before ++ after)
    (some : imagesIn (parse markdown) ≠ 0)
    (long : HasLongMarker (compile (parse markdown) before.length).tag
      (LiveBody.contents (before ++ (marked (compile (parse markdown) before.length).tag (parts (parse markdown)) ++ after)))) :
    ∃ digits, service.Fails (target.write markdown) body (.tooManyDigits digits)
      (before ++ (marked (compile (parse markdown) before.length).tag (parts (parse markdown)) ++ after)) := by
  obtain ⟨digits, complete⟩ := complete_fails shows between (parts_writtenParts _) (holds_writtenParts _ true)
    (fun _ _ _ _ _ _ c _ => keeps c) some (by rw [tabled_writtenParts]; exact long)
  rw [tabled_writtenParts] at complete
  exact ⟨digits, (run_write_kept keeps between prepared).trans complete⟩

/-- A Markdown text whose images are all remote is written between the two sides of a body. The body ends up with
the parts of the text between its sides just if the text has no image or no marker with its tag has too many
digits; else the write fails when the tables are in, and the markers of the images stay. -/
theorem write_renders_iff (shows : service.ShowsBodies) (keeps : ∀ c, service.keeps c = true)
    (between : target.Between service before after) (prepared : applyEdits service.keeps target.preamble body = before ++ after)
    (remote : AllRemote (parse markdown)) :
    let elements := parse markdown
    let compiled := compile elements before.length
    let searchable := imagesIn elements = 0 ∨
      ¬ HasLongMarker compiled.tag (LiveBody.contents (before ++ (marked compiled.tag (parts elements) ++ after)))
    (service.Succeeds (target.write markdown) body compiled.report (before ++ (rendered (parts elements) ++ after)) ↔
        searchable) ∧
      (¬ searchable → ∃ digits, service.Fails (target.write markdown) body (.tooManyDigits digits)
        (before ++ (marked compiled.tag (parts elements) ++ after))) := by
  intro elements compiled searchable
  have fails (notFound : ¬ searchable) : ∃ digits, service.Fails (target.write markdown) body (.tooManyDigits digits)
      (before ++ (marked compiled.tag (parts elements) ++ after)) := by
    obtain ⟨some, long⟩ := not_or.mp notFound
    exact write_fails shows keeps between prepared some (Classical.not_not.mp long)
  refine ⟨⟨fun success => ?_, write_succeeds shows keeps between prepared remote⟩, fails⟩
  by_contra notFound
  obtain ⟨digits, failure⟩ := fails notFound
  rw [DocumentService.Succeeds, failure] at success
  cases success

/-- A text in two styles, a table with a short row and a picture go into a document that holds a marker already. -/
theorem write_renders_eachKind :
    let markdown := "Hi **there**\n\n| a | b |\n|---|---|\n| 1 |\n\n![pic](http://x/i.png)\n"
    let before := plainSlots (.other 0 :: textContents "old [[IMG:0]]\n".toList)
    let after := plainSlots (textContents "rest\n".toList)
    let target : WriteTarget := { documentId := .str "document", baseIndex := 15, endIndex := some 20 }
    (DocumentService.showing fun _ => true).Succeeds (target.write markdown) (before ++ after) ⟨20, 1, 1, 1, []⟩
      (before ++ (rendered [.text "Hi ".toList {}, .text "there".toList { bold := true }, lineEnd,
        .table [[[⟨"a", {}⟩], [⟨"b", {}⟩]], [[⟨"1", {}⟩], []]], .image 0 "http://x/i.png" true "pic", lineEnd] ++ after)) := by
  intro markdown before after target
  have elements : parse markdown = [.paragraph [⟨"Hi ", {}⟩, ⟨"there", { bold := true }⟩],
      .table [[[⟨"a", {}⟩], [⟨"b", {}⟩]], [[⟨"1", {}⟩], []]], .image "http://x/i.png" true "pic"] := by decide +kernel
  have between : target.Between (DocumentService.showing fun _ => true) before after :=
    ⟨rfl, by decide +kernel, by decide +kernel, by simp [before], by decide +kernel⟩
  have remote : AllRemote (parse markdown) := by
    rw [elements]
    simp [AllRemote]
  have report : (compile (parse markdown) before.length).report = ⟨20, 1, 1, 1, []⟩ := by
    rw [Compiled.report, WriteReport.mk.injEq]
    decide +kernel
  have written := (write_renders_iff (DocumentService.showing_showsBodies _) (fun _ => rfl) between rfl remote).1.mpr
    (.inr fun long => Nat.not_lt.mpr (by decide +kernel) long.size)
  rw [report, elements] at written
  exact written

/-- A picture is to go behind a marker of the same tag that is far too long, in front of the base index. -/
theorem write_behindLongMarker_fails :
    let digits := List.replicate 4301 '1'
    let before := plainSlots (.other 0 :: textContents ("[[IMG:".toList ++ (digits ++ "]]".toList)))
    let after := plainSlots [.code 10]
    let target : WriteTarget :=
      { documentId := .str "document", baseIndex := before.length, endIndex := some ((before ++ after).length : Int) }
    AllRemote (parse "![a](http://x/i.png)") ∧
      ¬ ∃ report, (DocumentService.showing fun _ => true).Succeeds (target.write "![a](http://x/i.png)") (before ++ after) report
        (before ++ (rendered (parts (parse "![a](http://x/i.png)")) ++ after)) := by
  intro digits before after target
  have elements : parse "![a](http://x/i.png)" = [.image "http://x/i.png" true "a"] := by decide +kernel
  have between : target.Between (DocumentService.showing fun _ => true) before after :=
    ⟨rfl, rfl, rfl, by simp [before], by simp [after]⟩
  have tag : (compile (parse "![a](http://x/i.png)") before.length).tag = "IMG" := by
    have same : (compile (parse "![a](http://x/i.png)") before.length).tag = (compile (parse "![a](http://x/i.png)") 0).tag := rfl
    rw [same, elements]
    decide +kernel
  have long (more : LiveBody) : HasLongMarker "IMG" (LiveBody.contents (before ++ more)) := by
    have size : digits.length = 4301 := List.length_replicate
    refine ⟨1, digits, ⟨List.ne_nil_of_length_pos (by omega), fun c member => ?_⟩, by rw [size]; decide, ?_⟩
    · rw [(List.mem_replicate.mp member).2]
      decide
    · rw [Spells, LiveBody.contents_append, contents_plainSlots, List.cons_append, List.drop_succ_cons, List.drop_zero]
      exact List.prefix_append _ _
  have pictured : imagesIn (parse "![a](http://x/i.png)") ≠ 0 := by
    rw [elements]
    decide
  obtain ⟨number, failure⟩ := write_fails (DocumentService.showing_showsBodies _) (fun _ => rfl) between rfl
    pictured (by rw [tag]; exact long _)
  refine ⟨by rw [elements]; simp [AllRemote], ?_⟩
  rintro ⟨report, success⟩
  rw [DocumentService.Succeeds, failure] at success
  cases success

end Whole

end DocScribe.Docs
