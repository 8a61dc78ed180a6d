import DocScribe.Proofs.Docs.DroppedAnchors
import DocScribe.Proofs.Markdown.ElementNulls

/-! Where the character of anchors stands in a compiled text: where a table is to come, and nowhere else, just
if no text of the source holds it. A text holds it only where an automatic link codes it. -/

namespace DocScribe.Docs
open DocScribe Markdown Text

/-- Where the character of anchors stands in a text that starts at a position. -/
def anchorPlaces : (start : Int) → List Char → List Int
  | _, [] => []
  | start, c :: rest => (if c = tableAnchor then [start] else []) ++ anchorPlaces (start + charUnits c) rest

/-- The character of anchors stands in the text where tables are to come, one for each in order, and nowhere
else. -/
def Compiled.AnchorsMarkTables (compiled : Compiled) : Prop :=
  anchorPlaces compiled.baseOffset compiled.text.toList = compiled.tables.map DeferredTable.offset

instance : DecidablePred Compiled.AnchorsMarkTables := fun compiled =>
  inferInstanceAs (Decidable (anchorPlaces compiled.baseOffset compiled.text.toList = _))

section Places

private theorem anchorPlaces_append (start : Int) (first second : List Char) :
    anchorPlaces start (first ++ second) = anchorPlaces start first ++ anchorPlaces (start + listUnits first) second := by
  induction first generalizing start with
  | nil => simp [anchorPlaces]
  | cons c first ih => simp [anchorPlaces, ih, Int.add_assoc]

private theorem length_anchorPlaces (start : Int) (text : List Char) :
    (anchorPlaces start text).length = text.count tableAnchor := by
  induction text generalizing start with
  | nil => rfl
  | cons c text ih =>
    rw [anchorPlaces, List.length_append, ih, List.count_cons, Nat.add_comm]
    by_cases same : c = tableAnchor <;> simp [same]

private theorem anchorPlaces_nil {text : List Char} (free : tableAnchor ∉ text) (start : Int) : anchorPlaces start text = [] := by
  rw [← List.length_eq_zero_iff, length_anchorPlaces, List.count_eq_zero]
  exact free

end Places

/-- The texts of parts hold no anchor themselves; the cells of tables may, as they are written later. -/
def TextsHoldNone (parts : List Part) : Prop := ∀ part ∈ parts, part.isText = true → ¬ part.HoldsAnchor

section Parts
variable {tag : String} (plain : IsPlainTag tag.toList) {parts : List Part}
include plain

private theorem anchorPlaces_payload (free : TextsHoldNone parts) (start : Int) :
    anchorPlaces start (payload tag parts) = ((placed tag start parts).filterMap tableOf?).map DeferredTable.offset := by
  induction parts generalizing start with
  | nil => rfl
  | cons part parts ih =>
    obtain ⟨own, others⟩ := List.forall_mem_cons.mp free
    have later := ih others (start + part.units tag)
    rw [payload_cons, anchorPlaces_append, placed_cons, ← Part.units, later]
    cases part with
    | text chars style =>
      have none : tableAnchor ∉ chars := own rfl
      simp [Part.chars, anchorPlaces_nil none, List.filterMap_cons]
    | table cells => simp [Part.chars, anchorPlaces]
    | image ordinal source isRemote alt =>
      simp [Part.chars, anchorPlaces_nil (anchor_not_mem_marker plain ordinal), List.filterMap_cons]

private theorem count_payload (start : Int) :
    (payload tag parts).count tableAnchor =
      ((placed tag start parts).filterMap tableOf?).length + (payload tag (parts.filter Part.isText)).count tableAnchor := by
  induction parts generalizing start with
  | nil => rfl
  | cons part parts ih =>
    rw [payload_cons, placed_cons, List.count_append, ih (start + part.units tag)]
    cases part with
    | text chars style => simp [Part.chars, Part.isText, List.filterMap_cons, List.filter_cons, Nat.add_left_comm]
    | table cells => simp [Part.chars, Part.isText, Nat.add_comm, Nat.add_left_comm]
    | image ordinal source isRemote alt =>
      simp [Part.chars, Part.isText, List.filterMap_cons, List.count_eq_zero.mpr (anchor_not_mem_marker plain ordinal)]

private theorem anchorPlaces_iff (start : Int) :
    anchorPlaces start (payload tag parts) = ((placed tag start parts).filterMap tableOf?).map DeferredTable.offset ↔
      TextsHoldNone parts := by
  constructor
  · intro same part among isText holds
    have sizes := congrArg List.length same
    rw [length_anchorPlaces, List.length_map, count_payload plain start] at sizes
    have none : tableAnchor ∉ payload tag (parts.filter Part.isText) := List.count_eq_zero.mp (by omega)
    refine none (List.mem_flatMap.mpr ⟨part, List.mem_filter.mpr ⟨among, isText⟩, ?_⟩)
    cases part with
    | text chars style => exact holds
    | table | image => cases isText
  · exact fun free => anchorPlaces_payload plain free start

end Parts

section Elements

private theorem textsHoldNone_line {spans : List Span} (free : SpansFree spans) : TextsHoldNone (spanParts spans ++ [lineEnd]) := by
  refine List.forall_mem_append.mpr ⟨?_, ?_⟩
  · exact List.forall_mem_map.mpr fun span among _ => free span among
  · exact List.forall_mem_singleton.mpr fun _ => by decide

private theorem textsHoldNone_partsOf (earlier : List Element) {element : Element} (free : element.NullFree) :
    TextsHoldNone (partsOf earlier element) := by
  have lineEnds : TextsHoldNone [lineEnd] := List.forall_mem_singleton.mpr fun _ => by decide
  cases element with
  | heading level spans => exact textsHoldNone_line free
  | paragraph spans => exact textsHoldNone_line free
  | listItem ordered depth spans =>
    have mark : tableAnchor ∉ itemMark earlier ordered depth   :=
      not_mem_itemMark (by decide) (by decide) earlier ordered depth
    exact List.forall_mem_cons.mpr ⟨fun _ => mark, textsHoldNone_line free⟩
  | codeBlock text =>
    refine List.forall_mem_cons.mpr ⟨fun _ among => free ?_, lineEnds⟩
    exact (prefix_trimEndBy _ _).subset among
  | rule => exact lineEnds
  | table rows =>
    rw [partsOf]
    split
    · exact List.forall_mem_nil _
    · exact List.forall_mem_singleton.mpr (by cases ·)
  | image source isRemote alt => exact List.forall_mem_cons.mpr ⟨(by cases ·), lineEnds⟩
  | unknown => exact List.forall_mem_nil _

private theorem textsHoldNone_parts {elements : List Element} (free : ∀ element ∈ elements, element.NullFree)
    (earlier : List Element) : TextsHoldNone (partsFrom earlier elements) := by
  induction elements generalizing earlier with
  | nil => exact List.forall_mem_nil _
  | cons element elements ih =>
    obtain ⟨own, others⟩ := List.forall_mem_cons.mp free
    exact List.forall_mem_append.mpr ⟨textsHoldNone_partsOf earlier own, ih others _⟩

end Elements

private theorem anchorsMarkTables_iff (elements : List Element) (base : Int) :
    (compile elements base).AnchorsMarkTables ↔ TextsHoldNone (parts elements) := by
  have start : (compile elements base).baseOffset = base := rfl
  rw [Compiled.AnchorsMarkTables, compile_text, compile_tables, start]
  exact anchorPlaces_iff (compile_plain elements base) base

/-- The anchors mark the tables just if no text of the source holds an anchor itself, and so if no automatic
link of the source codes one. -/
theorem anchors_mark_tables (markdown : String) (base : Int) :
    ((compile (parse markdown) base).AnchorsMarkTables ↔ TextsHoldNone (parts (parse markdown))) ∧
      (¬ CodesNull (Line.ofText.normalize markdown.toList) → (compile (parse markdown) base).AnchorsMarkTables) := by
  have exactly := anchorsMarkTables_iff (parse markdown) base
  refine ⟨exactly, fun uncoded => exactly.mpr ?_⟩
  exact textsHoldNone_parts (parse_free markdown uncoded) []

/-- A link that codes another character brings no anchor into the text. -/
theorem anchors_mark_tables_otherCode :
    let markdown := "| a |\n|---|\n\nsee <http://a/%20>"
    ¬ CodesNull (Line.ofText.normalize markdown.toList) ∧ (compile (parse markdown) 5).AnchorsMarkTables ∧
      (compile (parse markdown) 5).tables.map DeferredTable.offset = [5] := by
  intro markdown
  have uncoded : ¬ CodesNull (Line.ofText.normalize markdown.toList) := by
    rintro ⟨body, inside, -, coded⟩
    have whole : codedNull <:+: Line.ofText.normalize markdown.toList :=
      (coded.trans ⟨['<'], ['>'], rfl⟩).trans inside
    exact absurd whole (by decide +kernel)
  exact ⟨uncoded, (anchors_mark_tables markdown 5).2 uncoded, by decide +kernel⟩

/-- The address of an automatic link is shown decoded, with an anchor where no table is to come. -/
theorem anchors_mark_tables_fails : ¬ (compile (parse "a <http://a/%00>") 1).AnchorsMarkTables := by
  decide +kernel

end DocScribe.Docs
