import DocScribe.Proofs.Docs.Styling

/-! Where the styles, the anchors and the markers of a compiled text stand. Its parts lie side by side, so that a
position belongs to one of them only: a style covers parts that are text, and an anchor or a marker is a part of its
own. -/

namespace DocScribe.Docs
open DocScribe Markdown

/-- A position lies in a part that stands at a place. -/
def LiesIn (tag : String) (position : Int) (place : Int × Part) : Prop :=
  place.1 ≤ position ∧ position < place.1 + place.2.units tag

section Places
variable (tag : String) {parts : List Part} {start : Int}

theorem placed_ordered (start : Int) (parts : List Part) :
    (placed tag start parts).Pairwise fun (first second : Int × Part) => first.1 + first.2.units tag ≤ second.1 := by
  induction parts generalizing start with
  | nil => exact List.Pairwise.nil
  | cons part parts ih =>
    apply List.Pairwise.cons
    · intro place member
      exact (placed_inside tag member).1
    · exact ih _

private theorem placed_unique {place other : Int × Part} (member : place ∈ placed tag start parts)
    (otherMember : other ∈ placed tag start parts) {position : Int} (lies : LiesIn tag position place)
    (otherLies : LiesIn tag position other) : place = other := by
  induction parts generalizing start with
  | nil => cases member
  | cons part parts ih =>
    have apart : ∀ later ∈ placed tag (start + part.units tag) parts, LiesIn tag position later →
        ¬ LiesIn tag position (start, part) := by
      intro later among behind here
      have beyond := (placed_inside tag among).1
      exact Int.not_le.mpr here.2 (Int.le_trans beyond behind.1)
    rcases List.mem_cons.mp member with rfl | later
    · rcases List.mem_cons.mp otherMember with rfl | otherLater
      · rfl
      · exact absurd lies (apart other otherLater otherLies)
    · rcases List.mem_cons.mp otherMember with rfl | otherLater
      · exact absurd otherLies (apart place later lies)
      · exact ih later otherLater

private theorem exists_placed {position : Int} (behind : start ≤ position)
    (before : position < start + Text.listUnits (payload tag parts)) :
    ∃ place ∈ placed tag start parts, LiesIn tag position place := by
  induction parts generalizing start with
  | nil =>
    simp only [payload_nil, Text.listUnits_nil] at before
    omega
  | cons part parts ih =>
    rw [payload_cons, Text.listUnits_append, ← Part.units] at before
    by_cases here : position < start + part.units tag
    · exact ⟨(start, part), by simp, behind, here⟩
    · have beyond : start + part.units tag ≤ position := Int.not_lt.mp here
      have within : position < start + part.units tag + Text.listUnits (payload tag parts) := by omega
      obtain ⟨place, member, lies⟩ := ih beyond within
      exact ⟨place, List.mem_cons_of_mem _ member, lies⟩

theorem rangeOf?_inside {place : Int × Part} {range : StyledRange} (found : rangeOf? place = some range) :
    place.1 ≤ range.start ∧ range.start < range.stop ∧ range.stop ≤ place.1 + place.2.units tag := by
  obtain ⟨chars, style, part, some, rfl⟩ := rangeOf?_eq_some found
  have units : place.2.units tag = Text.listUnits chars := by
    rw [part]
    rfl
  have positive := mt Text.listUnits_eq_zero.mp some
  rw [units]
  simp only
  omega

private theorem rangeOf?_isText {place : Int × Part} {range : StyledRange} (found : rangeOf? place = some range) :
    place.2.isText = true := by
  obtain ⟨chars, style, part, -, -⟩ := rangeOf?_eq_some found
  rw [part]
  rfl

private theorem imageOf?_inside {place : Int × Part} {image : DeferredImage} (found : imageOf? tag place = some image) :
    place.1 = image.offset ∧ place.2.units tag = Text.units image.marker ∧ place.2.isText = false ∧
      0 < Text.units image.marker := by
  obtain ⟨ordinal, rfl, -, marker, -⟩ := imageOf?_eq_some tag found
  rw [marker]
  exact ⟨rfl, rfl, rfl, imageMarker_pos tag ordinal⟩

end Places

section Order
variable (tag : String)

theorem textRanges_inside {parts : List Part} {start : Int} {range : StyledRange}
    (member : range ∈ (placed tag start parts).filterMap rangeOf?) :
    start ≤ range.start ∧ range.start < range.stop ∧ range.stop ≤ start + Text.listUnits (payload tag parts) := by
  obtain ⟨place, among, found⟩ := List.mem_filterMap.mp member
  have := placed_inside tag among
  have := rangeOf?_inside tag found
  omega

private theorem textRanges_ordered (start : Int) (parts : List Part) :
    ((placed tag start parts).filterMap rangeOf?).Pairwise fun first second => first.stop ≤ second.start := by
  apply (placed_ordered tag start parts).filterMap
  intro place other ordered range found otherRange otherFound
  have := rangeOf?_inside tag found
  have := rangeOf?_inside tag otherFound
  omega

private theorem tables_ordered (start : Int) (parts : List Part) :
    ((placed tag start parts).filterMap tableOf?).Pairwise fun first second => first.offset < second.offset := by
  apply (placed_ordered tag start parts).filterMap
  intro place other ordered table found otherTable otherFound
  obtain rfl := tableOf?_eq_some found
  obtain rfl := tableOf?_eq_some otherFound
  have anchor : (Part.table table.cells).units tag = 1 := rfl
  simp only [anchor] at ordered
  omega

theorem tables_inside {parts : List Part} {start : Int} {table : DeferredTable}
    (member : table ∈ (placed tag start parts).filterMap tableOf?) :
    start ≤ table.offset ∧ table.offset < start + Text.listUnits (payload tag parts) := by
  obtain ⟨place, among, found⟩ := List.mem_filterMap.mp member
  obtain rfl := tableOf?_eq_some found
  have anchor : (Part.table table.cells).units tag = 1 := rfl
  have inside := placed_inside tag among
  simp only [anchor] at inside
  omega

private theorem images_ordered (start : Int) (parts : List Part) :
    ((placed tag start parts).filterMap (imageOf? tag)).Pairwise fun first second => first.offset < second.offset := by
  apply (placed_ordered tag start parts).filterMap
  intro place other ordered image found otherImage otherFound
  have := imageOf?_inside tag found
  have := imageOf?_inside tag otherFound
  omega

private theorem paragraphRanges_inside {start : Int} {element : Element} {range : StyledRange}
    (member : range ∈ paragraphRanges start element) (earlier : List Element) :
    start ≤ range.start ∧ range.start < range.stop ∧
      range.stop ≤ start + Text.listUnits (payload tag (partsOf earlier element)) := by
  cases element with
  | heading level spans =>
    rw [paragraphRanges] at member
    split at member
    · cases member
    · next written =>
      obtain rfl := List.mem_singleton.mp member
      have some : 0 < Text.units (spansText spans) := by
        rw [Text.units_pos]
        simpa using written
      rw [partsOf, payload_append, payload_spanParts, Text.listUnits_append, ← Text.units]
      simp only
      omega
  | rule =>
    obtain rfl := List.mem_singleton.mp member
    have single : Text.listUnits (payload tag (partsOf earlier .rule)) = 1 := rfl
    simp only [single]
    omega
  | _ => cases member

private theorem elementRanges_inside {earlier : List Element} {start : Int} {element : Element} {range : StyledRange}
    (member : range ∈ elementRanges tag earlier start element) :
    start ≤ range.start ∧ range.start < range.stop ∧
      range.stop ≤ start + Text.listUnits (payload tag (partsOf earlier element)) := by
  rcases List.mem_append.mp member with paragraph | text
  · exact paragraphRanges_inside tag paragraph earlier
  · exact textRanges_inside tag text

theorem ranges_inside {earlier elements : List Element} {start : Int} {range : StyledRange}
    (member : range ∈ alongElements tag (elementRanges tag) earlier start elements) :
    start ≤ range.start ∧ range.start < range.stop ∧
      range.stop ≤ start + Text.listUnits (payload tag (partsFrom earlier elements)) := by
  induction elements generalizing earlier start with
  | nil => cases member
  | cons element elements ih =>
    rw [partsFrom, payload_append, Text.listUnits_append]
    rcases List.mem_append.mp member with own | later
    · have := elementRanges_inside tag own
      omega
    · have := ih later
      omega

/-- The style of a heading comes before those of its spans, and all of them before those of what stands behind it. -/
theorem starts_ordered (earlier : List Element) (start : Int) (elements : List Element) :
    (alongElements tag (elementRanges tag) earlier start elements).Pairwise
      fun first second => first.start ≤ second.start := by
  induction elements generalizing earlier start with
  | nil => exact List.Pairwise.nil
  | cons element elements ih =>
    have own : (elementRanges tag earlier start element).Pairwise fun first second => first.start ≤ second.start := by
      apply List.pairwise_append.mpr
      refine ⟨?_, ?_, ?_⟩
      · apply List.pairwise_of_forall_mem_list
        intro first firstMember second secondMember
        have same := (paragraphRanges_start firstMember).1.trans (paragraphRanges_start secondMember).1.symm
        exact Int.le_of_eq same
      · apply (textRanges_ordered tag start _).imp_of_mem
        intro first second firstMember _ ordered
        have := textRanges_inside tag firstMember
        omega
      · intro first firstMember second secondMember
        rw [(paragraphRanges_start firstMember).1]
        exact (textRanges_inside tag secondMember).1
    apply List.pairwise_append.mpr
    refine ⟨own, ih _ _, ?_⟩
    intro first firstMember second secondMember
    have := elementRanges_inside tag firstMember
    have := ranges_inside tag secondMember
    omega

end Order

section Covering
variable (tag : String)

/-- Only an element that is text has a style of its paragraph. -/
theorem isText_of_paragraphRanges {start : Int} {element : Element} {range : StyledRange}
    (member : range ∈ paragraphRanges start element) (earlier : List Element) :
    (partsOf earlier element).all Part.isText = true := by
  cases element with
  | heading level spans => exact isText_line spans
  | rule => rfl
  | _ => cases member

private theorem elementRanges_cover_text {earlier : List Element} {start position : Int} {element : Element}
    {range : StyledRange} (member : range ∈ elementRanges tag earlier start element)
    (covers : range.covers position = true) :
    ∃ place ∈ placed tag start (partsOf earlier element), place.2.isText = true ∧ LiesIn tag position place := by
  simp only [StyledRange.covers, Bool.and_eq_true, decide_eq_true_eq] at covers
  rcases List.mem_append.mp member with paragraph | text
  · have inside := paragraphRanges_inside tag paragraph earlier
    have behind : start ≤ position := Int.le_trans inside.1 covers.1
    have before : position < start + Text.listUnits (payload tag (partsOf earlier element)) :=
      Int.lt_of_lt_of_le covers.2 inside.2.2
    obtain ⟨place, among, lies⟩ := exists_placed tag behind before
    have texts := isText_of_paragraphRanges paragraph earlier
    exact ⟨place, among, List.all_eq_true.mp texts _ (mem_of_placed tag among), lies⟩
  · obtain ⟨place, among, found⟩ := List.mem_filterMap.mp text
    have inside := rangeOf?_inside tag found
    refine ⟨place, among, rangeOf?_isText found, ?_, ?_⟩
    · omega
    · omega

private theorem ranges_cover_text {earlier elements : List Element} {start position : Int} {range : StyledRange}
    (member : range ∈ alongElements tag (elementRanges tag) earlier start elements)
    (covers : range.covers position = true) :
    ∃ place ∈ placed tag start (partsFrom earlier elements), place.2.isText = true ∧ LiesIn tag position place := by
  induction elements generalizing earlier start with
  | nil => cases member
  | cons element elements ih =>
    rw [partsFrom, placed_append]
    rcases List.mem_append.mp member with own | later
    · obtain ⟨place, among, isText, lies⟩ := elementRanges_cover_text tag own covers
      exact ⟨place, List.mem_append_left _ among, isText, lies⟩
    · obtain ⟨place, among, isText, lies⟩ := ih later
      exact ⟨place, List.mem_append_right _ among, isText, lies⟩

/-- A position in an anchor or a marker is covered by no style. -/
theorem ranges_leave {earlier elements : List Element} {start position : Int} {range : StyledRange}
    (member : range ∈ alongElements tag (elementRanges tag) earlier start elements) {place : Int × Part}
    (among : place ∈ placed tag start (partsFrom earlier elements)) (noText : place.2.isText = false)
    (lies : LiesIn tag position place) : range.covers position = false := by
  apply Bool.eq_false_iff.mpr
  intro covers
  obtain ⟨other, otherAmong, isText, otherLies⟩ := ranges_cover_text tag member covers
  obtain rfl := placed_unique tag among otherAmong lies otherLies
  rw [noText] at isText
  cases isText

end Covering

/-- The styles of a compiled text come in the order of their starts, each inside the text, and those of text do not
overlap. The anchors of its tables and the markers of its images stand one behind the other inside the text, and no
style covers an anchor or any unit of a marker. -/
theorem compile_ordered (elements : List Element) (base : Int) :
    let compiled := compile elements base
    compiled.styles.Pairwise (fun first second => first.start ≤ second.start) ∧
    (∀ range ∈ compiled.styles, base ≤ range.start ∧ range.start < range.stop ∧ range.stop ≤ compiled.endOffset) ∧
    (compiled.styles.filter fun range => !range.ofParagraph).Pairwise (fun first second => first.stop ≤ second.start) ∧
    compiled.tables.Pairwise (fun first second => first.offset < second.offset) ∧
    compiled.images.Pairwise (fun first second => first.offset < second.offset) ∧
    (∀ table ∈ compiled.tables, base ≤ table.offset ∧ table.offset < compiled.endOffset ∧
      ∀ range ∈ compiled.styles, range.covers table.offset = false) ∧
    ∀ image ∈ compiled.images, base ≤ image.offset ∧ image.offset + Text.units image.marker ≤ compiled.endOffset ∧
      image.offset < compiled.endOffset ∧
      ∀ range ∈ compiled.styles, ∀ position, image.offset ≤ position →
        position < image.offset + Text.units image.marker → range.covers position = false := by
  intro compiled
  have stop : compiled.endOffset = base + Text.listUnits (payload compiled.tag (parts elements)) :=
    compile_endOffset elements base
  have styles : compiled.styles = alongElements compiled.tag (elementRanges compiled.tag) [] base elements :=
    compile_styles elements base
  have tables : compiled.tables = (placed compiled.tag base (parts elements)).filterMap tableOf? :=
    compile_tables elements base
  have images : compiled.images = (placed compiled.tag base (parts elements)).filterMap (imageOf? compiled.tag) :=
    compile_images elements base
  rw [stop, styles, tables, images, textRanges_alongElements]
  refine ⟨starts_ordered compiled.tag [] base elements, fun range member => ranges_inside compiled.tag member,
    textRanges_ordered compiled.tag base _, tables_ordered compiled.tag base _, images_ordered compiled.tag base _, ?_, ?_⟩
  · intro table member
    obtain ⟨behind, before⟩ := tables_inside compiled.tag member
    refine ⟨behind, before, ?_⟩
    intro range styled
    obtain ⟨place, among, found⟩ := List.mem_filterMap.mp member
    obtain rfl := tableOf?_eq_some found
    apply ranges_leave compiled.tag styled among rfl
    exact ⟨Int.le_refl _, Int.lt_succ table.offset⟩
  · intro image member
    obtain ⟨place, among, found⟩ := List.mem_filterMap.mp member
    obtain ⟨offset, units, noText, some⟩ := imageOf?_inside compiled.tag found
    have inside := placed_inside compiled.tag among
    rw [offset, units] at inside
    refine ⟨inside.1, inside.2, by omega, ?_⟩
    intro range styled position behind before
    apply ranges_leave compiled.tag styled among noText
    rw [LiesIn, offset, units]
    exact ⟨behind, before⟩

end DocScribe.Docs
