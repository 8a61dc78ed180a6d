import DocScribe.Proofs.Docs.KeptTables
import Mathlib.Data.List.Basic

/-! Texts that are compiled together. A text that starts with no item of a list and has no images is compiled as if it
stood alone, but for its positions, which are moved by what stands before it; and the base offset of any text moves its
positions and changes nothing else. -/

namespace DocScribe.Docs
open DocScribe Markdown

attribute [ext] Compiled

def StyledRange.moved (distance : Int) (range : StyledRange) : StyledRange :=
  { range with start := range.start + distance, stop := range.stop + distance }

def DeferredTable.moved (distance : Int) (table : DeferredTable) : DeferredTable :=
  { table with offset := table.offset + distance }

def DeferredImage.moved (distance : Int) (image : DeferredImage) : DeferredImage :=
  { image with offset := image.offset + distance }

/-- The same text for a place further on. -/
def Compiled.moved (distance : Int) (compiled : Compiled) : Compiled :=
  { compiled with
    baseOffset := compiled.baseOffset + distance
    styles := compiled.styles.map (StyledRange.moved distance)
    tables := compiled.tables.map (DeferredTable.moved distance)
    images := compiled.images.map (DeferredImage.moved distance) }

def isItem : Element → Bool
  | .listItem .. => true
  | _ => false

/-- The numbering of lists is ended before the elements or by the first of them. -/
def NumberedAfresh (earlier elements : List Element) : Prop :=
  (∃ element ∈ earlier, isItem element = false) ∨ ∀ first ∈ elements.head?, isItem first = false

section Moving
variable (tag : String) (distance : Int)

private theorem placed_moved (start : Int) (parts : List Part) :
    placed tag (start + distance) parts = (placed tag start parts).map fun place => (place.1 + distance, place.2) := by
  induction parts generalizing start with
  | nil => rfl
  | cons part parts ih => rw [placed_cons, placed_cons, List.map_cons, Int.add_right_comm, ih]

theorem filterMap_placed_moved {α : Type} {f : Int × Part → Option α} {move : α → α}
    (moves : ∀ place : Int × Part, f (place.1 + distance, place.2) = (f place).map move) (start : Int)
    (parts : List Part) :
    (placed tag (start + distance) parts).filterMap f = ((placed tag start parts).filterMap f).map move := by
  rw [placed_moved, List.filterMap_map, List.map_filterMap]
  exact List.filterMap_congr fun place _ => moves place

private theorem rangeOf?_moved (place : Int × Part) :
    rangeOf? (place.1 + distance, place.2) = (rangeOf? place).map (StyledRange.moved distance) := by
  obtain ⟨start, part⟩ := place
  cases part with
  | text chars style =>
    simp only [rangeOf?]
    split
    · simp only [Option.map_some, StyledRange.moved, Int.add_right_comm]
    · rfl
  | table | image => rfl

private theorem tableOf?_moved (place : Int × Part) :
    tableOf? (place.1 + distance, place.2) = (tableOf? place).map (DeferredTable.moved distance) := by
  obtain ⟨start, part⟩ := place
  cases part <;> rfl

private theorem imageOf?_moved (place : Int × Part) :
    imageOf? tag (place.1 + distance, place.2) = (imageOf? tag place).map (DeferredImage.moved distance) := by
  obtain ⟨start, part⟩ := place
  cases part <;> rfl

private theorem paragraphRanges_moved (start : Int) (element : Element) :
    paragraphRanges (start + distance) element =
      (paragraphRanges start element).map (StyledRange.moved distance) := by
  cases element with
  | heading level spans =>
    simp only [paragraphRanges]
    split
    · rfl
    · simp only [List.map_cons, List.map_nil, StyledRange.moved, Int.add_right_comm]
  | rule => simp only [paragraphRanges, List.map_cons, List.map_nil, StyledRange.moved, Int.add_right_comm]
  | _ => rfl

private theorem ranges_moved (earlier : List Element) (start : Int) (elements : List Element) :
    alongElements tag (elementRanges tag) earlier (start + distance) elements =
      (alongElements tag (elementRanges tag) earlier start elements).map (StyledRange.moved distance) := by
  induction elements generalizing earlier start with
  | nil => rfl
  | cons element elements ih =>
    rw [alongElements, alongElements, List.map_append, elementRanges, elementRanges, List.map_append,
      paragraphRanges_moved, filterMap_placed_moved tag distance (rangeOf?_moved distance), Int.add_right_comm, ih]

/-- The base offset moves all positions of a text, and nothing else depends on it. -/
theorem compile_add (elements : List Element) (base : Int) :
    compile elements (base + distance) = (compile elements base).moved distance := by
  apply Compiled.ext
  · rfl
  · apply String.toList_injective
    rw [compile_text, Compiled.moved, compile_text]
    rfl
  · rw [compile_styles, ranges_moved, Compiled.moved, compile_styles]
    rfl
  · rw [compile_tables, filterMap_placed_moved _ distance (tableOf?_moved distance), Compiled.moved, compile_tables]
    rfl
  · rw [compile_images, filterMap_placed_moved _ distance (imageOf?_moved _ distance), Compiled.moved, compile_images]
    rfl
  · rw [compile_warnings, Compiled.moved, compile_warnings]
  · rfl

end Moving

section Joining
variable {near far : List Element}

private theorem partsFrom_append (earlier first second : List Element) :
    partsFrom earlier (first ++ second) = partsFrom earlier first ++ partsFrom (first.reverse ++ earlier) second := by
  induction first generalizing earlier with
  | nil => rfl
  | cons element first ih => simp [partsFrom, ih]

private theorem alongElements_append {α : Type} (tag : String) (f : List Element → Int → Element → List α)
    (earlier : List Element) (start : Int) (first second : List Element) :
    alongElements tag f earlier start (first ++ second) =
      alongElements tag f earlier start first ++
        alongElements tag f (first.reverse ++ earlier) (start + Text.listUnits (payload tag (partsFrom earlier first)))
          second := by
  induction first generalizing earlier start with
  | nil => simp [partsFrom, alongElements]
  | cons element first ih => simp [partsFrom, alongElements, ih, Int.add_assoc]

private theorem itemsBefore_behind (ended : ∃ element ∈ near, isItem element = false) (depth : Nat) (far : List Element) :
    itemsBefore depth (near ++ far) = itemsBefore depth near := by
  induction near with
  | nil =>
    obtain ⟨element, member, _⟩ := ended
    cases member
  | cons first near ih =>
    cases first with
    | listItem ordered level spans =>
      obtain ⟨element, member, other⟩ := ended
      have later : element ∈ near := by
        rcases List.mem_cons.mp member with rfl | later
        · cases other
        · exact later
      rw [List.cons_append, itemsBefore, itemsBefore, ih ⟨element, later, other⟩]
    | _ => rfl

theorem NumberedAfresh.next {element : Element} {elements : List Element}
    (afresh : NumberedAfresh near (element :: elements)) : NumberedAfresh (element :: near) elements := by
  apply Or.inl
  rcases afresh with ⟨ending, member, other⟩ | other
  · exact ⟨ending, List.mem_cons_of_mem element member, other⟩
  · exact ⟨element, List.mem_cons_self, other element rfl⟩

private theorem partsOf_behind {element : Element} {elements : List Element} (afresh : NumberedAfresh near (element :: elements))
    (noImage : imagesIn [element] = 0) (far : List Element) :
    partsOf (near ++ far) element = partsOf near element := by
  cases element with
  | listItem ordered depth spans =>
    rcases afresh with ended | other
    · rw [partsOf, itemMark, itemsBefore_behind ended]
      rfl
    · cases other _ rfl
  | image => cases noImage
  | _ => rfl

private theorem chars_partsFrom {elements : List Element} (noImages : imagesIn elements = 0) (tag other : String)
    (earlier : List Element) : ∀ part ∈ partsFrom earlier elements, part.chars tag = part.chars other := by
  intro part member
  cases part with
  | text | table => rfl
  | image ordinal source isRemote alt =>
    have inside := List.countP_eq_zero.mp noImages _ (image_of_partsFrom member)
    exact absurd rfl inside

private theorem chars_partsOf {element : Element} (noImage : imagesIn [element] = 0) (tag other : String) (earlier : List Element) :
    ∀ part ∈ partsOf earlier element, part.chars tag = part.chars other := by
  have single : partsFrom earlier [element] = partsOf earlier element := List.append_nil _
  rw [← single]
  exact chars_partsFrom noImage tag other earlier

private theorem payload_congr {tag other : String} {parts : List Part} (same : ∀ part ∈ parts, part.chars tag = part.chars other) :
    payload tag parts = payload other parts := List.flatMap_congr same

private theorem placed_congr {tag other : String} {parts : List Part} (same : ∀ part ∈ parts, part.chars tag = part.chars other)
    (start : Int) : placed tag start parts = placed other start parts := by
  induction parts generalizing start with
  | nil => rfl
  | cons part parts ih =>
    obtain ⟨own, others⟩ := List.forall_mem_cons.mp same
    rw [placed_cons, placed_cons, Part.units, own, ih others, ← Part.units]

private theorem ranges_untagged {elements : List Element} (noImages : imagesIn elements = 0) (tag other : String)
    (earlier : List Element) (start : Int) :
    alongElements tag (elementRanges tag) earlier start elements =
      alongElements other (elementRanges other) earlier start elements := by
  induction elements generalizing earlier start with
  | nil => rfl
  | cons element elements ih =>
    rw [imagesIn_cons, Nat.add_eq_zero_iff] at noImages
    have same := chars_partsOf noImages.2 tag other earlier
    rw [alongElements, alongElements, elementRanges, elementRanges, placed_congr same, payload_congr same, ih noImages.1]

private theorem ranges_behind {elements : List Element} (afresh : NumberedAfresh near elements) (noImages : imagesIn elements = 0)
    (tag : String) (far : List Element) (start : Int) :
    alongElements tag (elementRanges tag) (near ++ far) start elements =
      alongElements tag (elementRanges tag) near start elements := by
  induction elements generalizing near start with
  | nil => rfl
  | cons element elements ih =>
    rw [imagesIn_cons, Nat.add_eq_zero_iff] at noImages
    rw [alongElements, alongElements, elementRanges, elementRanges, partsOf_behind afresh noImages.2, ← List.cons_append,
      ih afresh.next noImages.1]

private theorem partsFrom_behind {elements : List Element} (afresh : NumberedAfresh near elements) (noImages : imagesIn elements = 0)
    (far : List Element) : partsFrom (near ++ far) elements = partsFrom near elements := by
  induction elements generalizing near with
  | nil => rfl
  | cons element elements ih =>
    rw [imagesIn_cons, Nat.add_eq_zero_iff] at noImages
    rw [partsFrom, partsFrom, partsOf_behind afresh noImages.2, ← List.cons_append, ih afresh.next noImages.1]

end Joining

/-- Elements without images are compiled piece by piece, where a piece starts with no item of a list: the texts follow
one another, and so do the styles and the tables, those of the second piece moved to the end of the first. The base
offset of any elements moves the positions and changes nothing else. -/
theorem compile_append {first second : List Element} (noImages : imagesIn (first ++ second) = 0)
    (apart : ∀ element ∈ second.head?, isItem element = false) (base : Int) :
    let whole := compile (first ++ second) base
    let front := compile first base
    let back := compile second 0
    whole.text = front.text ++ back.text ∧
    whole.styles = front.styles ++ back.styles.map (StyledRange.moved front.endOffset) ∧
    whole.tables = front.tables ++ back.tables.map (DeferredTable.moved front.endOffset) ∧
    ∀ (elements : List Element) (distance : Int),
      compile elements (base + distance) = (compile elements base).moved distance := by
  intro whole front back
  rw [imagesIn_append, Nat.add_eq_zero_iff] at noImages
  have afresh : NumberedAfresh [] second := Or.inr apart
  have inFront := chars_partsFrom noImages.1 whole.tag front.tag []
  have inBack := chars_partsFrom noImages.2 whole.tag back.tag []
  have pieces : parts (first ++ second) = parts first ++ parts second := by
    rw [parts, partsFrom_append, List.append_nil, ← List.nil_append first.reverse, partsFrom_behind afresh noImages.2]
    rfl
  have stop : base + Text.listUnits (payload front.tag (parts first)) = front.endOffset := (compile_endOffset first base).symm
  refine ⟨?_, ?_, ?_, fun elements distance => compile_add distance elements base⟩
  · apply String.toList_injective
    rw [String.toList_append, compile_text, compile_text, compile_text, pieces, payload_append, parts, payload_congr inFront,
      parts, payload_congr inBack]
  · rw [compile_styles, alongElements_append, List.append_nil, payload_congr inFront, ← parts, stop,
      ranges_untagged noImages.1 whole.tag front.tag, ← compile_styles, ranges_untagged noImages.2 whole.tag back.tag,
      ← List.nil_append first.reverse, ranges_behind afresh noImages.2, ← Int.zero_add front.endOffset, ranges_moved,
      ← compile_styles, Int.zero_add]
  · rw [compile_tables, pieces, placed_append, List.filterMap_append, parts, placed_congr inFront, payload_congr inFront,
      ← parts, stop, ← compile_tables, parts, placed_congr inBack, ← parts, ← Int.zero_add front.endOffset,
      filterMap_placed_moved back.tag _ (tableOf?_moved _), ← compile_tables, Int.zero_add]

/-- A list and a table, and behind them a heading in italics, a list that is numbered anew and a table whose only cell is
empty. -/
theorem compile_append_behindList :
    let first : List Element := [.listItem true 0 [⟨"a", {}⟩], .table [[[⟨"x", {}⟩]]]]
    let second : List Element := [.heading 2 [⟨"b", { italic := true }⟩], .listItem true 0 [⟨"c", {}⟩], .table [[[]]]]
    imagesIn (first ++ second) = 0 ∧ (∀ element ∈ second.head?, isItem element = false) ∧
      (compile (first ++ second) (-3)).text = (compile first (-3)).text ++ (compile second 0).text ∧
      (compile (first ++ second) (-3)).styles = (compile second 0).styles.map (StyledRange.moved 3) ∧
      (compile (first ++ second) (-3)).tables.map DeferredTable.offset = [2, 10] := by
  intro first second
  have noImages : imagesIn (first ++ second) = 0 := rfl
  have apart : ∀ element ∈ second.head?, isItem element = false := by simp [second, isItem]
  obtain ⟨text, styles, tables, _⟩ := compile_append noImages apart (-3)
  have stop : (compile first (-3)).endOffset = 3 := by decide +kernel
  have unstyled : (compile first (-3)).styles = [] := rfl
  rw [stop, unstyled] at styles
  rw [stop] at tables
  refine ⟨noImages, apart, text, styles, ?_⟩
  rw [tables]
  decide +kernel

end DocScribe.Docs
