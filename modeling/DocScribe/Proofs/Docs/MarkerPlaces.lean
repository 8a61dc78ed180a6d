import DocScribe.Proofs.Docs.Compilation
import DocScribe.Proofs.Docs.LiveBody
import DocScribe.Proofs.Docs.MarkerTag
import DocScribe.Proofs.Text.Trimming

/-! Where the markers of images stand. Elements are laid out as slots in a row, each table in a shape that
is left open here: its anchor at first, its cells later on. The start of a marker with the tag of the
compiled text is found nowhere in them but at the images. -/

namespace DocScribe.Docs
open DocScribe Markdown

/-- What the slots of a part hold, where each table has a shape. -/
def Part.contents (shape : Grid → List SlotContent) (tag : String) : Part → List SlotContent
  | .table cells => shape cells
  | part => textContents (part.chars tag)

def laidOut (shape : Grid → List SlotContent) (tag : String) (parts : List Part) : List SlotContent :=
  parts.flatMap (Part.contents shape tag)

/-- The numbers of the images among parts, with the places where their markers start. -/
def imagePlaces (shape : Grid → List SlotContent) (tag : String) : (start : Nat) → List Part → List (Nat × Nat)
  | _, [] => []
  | start, .image ordinal source isRemote alt :: rest =>
    (ordinal, start) ::
      imagePlaces shape tag (start + ((Part.image ordinal source isRemote alt).contents shape tag).length) rest
  | start, part :: rest => imagePlaces shape tag (start + (part.contents shape tag).length) rest

/-- The shape of a table that is not inserted yet. -/
def anchorShape : Grid → List SlotContent := fun _ => [.code 0]

def opening (tag : String) : List SlotContent := textContents (opener tag.toList)

section Laying
variable (shape : Grid → List SlotContent) (tag : String)

@[simp] theorem laidOut_nil : laidOut shape tag [] = [] := rfl

@[simp] theorem laidOut_cons (part : Part) (parts : List Part) :
    laidOut shape tag (part :: parts) = part.contents shape tag ++ laidOut shape tag parts := rfl

@[simp] theorem laidOut_append (first second : List Part) :
    laidOut shape tag (first ++ second) = laidOut shape tag first ++ laidOut shape tag second := by
  simp [laidOut]

private theorem laidOut_texts {parts : List Part} (texts : parts.all Part.isText = true) :
    laidOut shape tag parts = textContents (payload tag parts) := by
  induction parts with
  | nil => rfl
  | cons part parts ih =>
    rw [List.all_cons, Bool.and_eq_true] at texts
    rw [laidOut_cons, payload_cons, textContents_append, ih texts.2]
    cases part with
    | text chars style => rfl
    | table cells | image ordinal source isRemote alt => simp [Part.isText] at texts

theorem laidOut_anchorShape (parts : List Part) : laidOut anchorShape tag parts = textContents (payload tag parts) := by
  induction parts with
  | nil => rfl
  | cons part parts ih =>
    rw [laidOut_cons, payload_cons, textContents_append, ih]
    cases part <;> rfl

private theorem imagePlaces_append (start : Nat) (first second : List Part) :
    imagePlaces shape tag start (first ++ second) =
      imagePlaces shape tag start first ++ imagePlaces shape tag (start + (laidOut shape tag first).length) second := by
  induction first generalizing start with
  | nil => simp [imagePlaces]
  | cons part first ih =>
    cases part <;> simp [imagePlaces, ih, Nat.add_assoc]

private theorem imagePlaces_texts {parts : List Part} (texts : parts.all Part.isText = true) (start : Nat) :
    imagePlaces shape tag start parts = [] := by
  induction parts generalizing start with
  | nil => rfl
  | cons part parts ih =>
    rw [List.all_cons, Bool.and_eq_true] at texts
    cases part with
    | text chars style => exact ih texts.2 _
    | table cells | image ordinal source isRemote alt => simp [Part.isText] at texts

end Laying

section Texts

/-- A unit of the characters below the surrogates stands only where the character does. -/
theorem code_mem_textContents {c : Char} (small : c.toNat < 0xD800) (text : List Char) :
    .code c.toNat ∈ textContents text ↔ c ∈ text := by
  induction text with
  | nil => simp
  | cons d text ih =>
    have single : SlotContent.code c.toNat ∈ textContents [d] ↔ c = d := by
      simp only [textContents, Text.codes_cons, Text.codes_nil, List.append_nil, List.mem_map, SlotContent.code.injEq,
        exists_eq_right]
      unfold Text.charCodes
      split
      · rw [List.mem_singleton]
        exact Char.toNat_inj
      · constructor
        · intro member
          simp only [List.mem_cons, List.not_mem_nil, or_false] at member
          omega
        · rintro rfl
          omega
    rw [← List.singleton_append, textContents_append, List.mem_append, single, ih]
    simp

theorem prefix_of_textContents {first text : List Char} (starts : textContents first <+: textContents text) :
    first <+: text := by
  obtain ⟨rest, same⟩ := starts
  obtain ⟨units, more, split, one, _⟩ := List.map_eq_append_iff.mp same.symm
  have units_eq : units = Text.codes first :=
    (List.map_inj_right (fun _ _ equal => by simpa using equal)).mp one
  subst units_eq
  obtain ⟨behind, rfl, _⟩ := Text.codes_cancel split
  exact List.prefix_append _ _

/-- A text whose slots stand among those of another stands in it at that place. -/
theorem textContents_aligned {text inner : List Char} {front back : List SlotContent} (some : inner ≠ [])
    (same : textContents text = front ++ (textContents inner ++ back)) :
    ∃ left right, text = left ++ (inner ++ right) ∧ textContents left = front := by
  obtain ⟨before, more, split, one, rest⟩ := List.map_eq_append_iff.mp same
  obtain ⟨units, after, again, two, _⟩ := List.map_eq_append_iff.mp rest
  have units_eq : units = Text.codes inner :=
    (List.map_inj_right (fun _ _ equal => by simpa using equal)).mp two
  subst units_eq again
  rw [← List.append_assoc] at split
  obtain ⟨left, right, whole, codes, _⟩ := Text.codes_aligned some split
  exact ⟨left, right, by simpa using whole, by rw [textContents, codes, one]⟩

private theorem infix_of_textContents {inner text : List Char} (stands : textContents inner <:+: textContents text) :
    inner <:+: text := by
  by_cases empty : inner = []
  · simp [empty]
  · obtain ⟨front, back, same⟩ := stands
    rw [List.append_assoc] at same
    obtain ⟨left, right, rfl, _⟩ := textContents_aligned empty same.symm
    exact ⟨left, right, by simp⟩

end Texts

section Quiet
variable {shape : Grid → List SlotContent} {tag : String}

theorem opening_eq (tag : String) :
    opening tag = .code 91 :: .code 91 :: textContents (tag.toList ++ [':']) := rfl

theorem quiet_of_noBracket {text : List Char} (absent : '[' ∉ text) (needle : List SlotContent) :
    Text.Quiet (.code 91 :: needle) (textContents text) :=
  Text.Quiet.of_not_mem ((code_mem_textContents (by decide) text).not.mpr absent)

theorem quiet_line (plain : IsPlainTag tag.toList) {text : List Char} (without : ¬ opener tag.toList <:+: text) :
    Text.Quiet (opening tag) (textContents (text ++ ['\n'])) := by
  have noLineEnd : SlotContent.code 10 ∉ opening tag :=
    (code_mem_textContents (c := '\n') (by decide) _).not.mpr
      (not_mem_opener plain (by decide) (by decide) (by decide))
  rw [textContents_append]
  rw [opening_eq] at noLineEnd ⊢
  exact Text.Quiet.line (fun stands => without (infix_of_textContents stands)) noLineEnd

/-- Behind its first bracket, a marker starts no other one: its second bracket is the last that it has. -/
theorem quiet_marker (plain : IsPlainTag tag.toList) {digits : List Char} (noBracket : '[' ∉ digits) :
    Text.Quiet (opening tag) (textContents ((markerChars tag.toList digits).drop 1)) := by
  have absent : '[' ∉ tag.toList ++ ':' :: (digits ++ [']', ']']) := by
    simp [plain.not_mem, noBracket]
  have behind : textContents ((markerChars tag.toList digits).drop 1) =
      .code 91 :: textContents (tag.toList ++ ':' :: (digits ++ [']', ']'])) := by
    simp [markerChars, opener, textContents, Text.charCodes]
  rw [behind, opening_eq]
  intro left right rest same some starts
  cases left with
  | nil =>
    rw [List.nil_append] at same
    subst same
    have more : textContents (tag.toList ++ ':' :: (digits ++ [']', ']'])) ≠ [] :=
      textContents_eq_nil.not.mpr (by simp)
    exact quiet_of_noBracket absent (textContents (tag.toList ++ [':'])) [] _ rest rfl more
      (List.cons_prefix_cons.mp starts).2
  | cons first left =>
    exact quiet_of_noBracket absent _ left right rest (List.cons.inj same).2 some starts

end Quiet

section Elements
variable {shape : Grid → List SlotContent} {tag : String}

/-- The start of a marker stands in no table whose cells do not hold it. -/
def QuietShape (shape : Grid → List SlotContent) (tag : String) : Prop :=
  ∀ cells : Grid, (∀ row ∈ cells, ∀ spans ∈ row, ¬ opener tag.toList <:+: (spansText spans).toList) →
    Text.Quiet (opening tag) (shape cells)

theorem quiet_anchorShape (tag : String) : QuietShape anchorShape tag := by
  intro cells without
  rw [opening_eq]
  exact Text.Quiet.of_not_mem (by simp [anchorShape])

def Unused (tag : String) (elements : List Element) : Prop :=
  ∀ element ∈ elements, ¬ opener tag.toList <:+: (searchedText element).toList

private theorem infix_intercalate {separator text : String} {texts : List String} (member : text ∈ texts) :
    text.toList <:+: (separator.intercalate texts).toList := by
  induction texts with
  | nil => simp at member
  | cons first rest ih =>
    cases rest with
    | nil => simp_all
    | cons second rest =>
      rw [String.intercalate_cons_cons]
      simp only [String.toList_append, List.append_assoc]
      rcases List.mem_cons.mp member with rfl | inside
      · exact (List.prefix_append _ _).isInfix
      · exact (ih inside).trans ((List.suffix_append _ _).isInfix.trans (List.suffix_append _ _).isInfix)

theorem compile_unused (elements : List Element) (base : Int) : Unused (compile elements base).tag elements := by
  intro element member stands
  have within : (searchedText element).toList <:+: ("\n".intercalate (elements.map searchedText)).toList :=
    infix_intercalate (List.mem_map.mpr ⟨element, member, rfl⟩)
  have unused := chooseTag_unused ("\n".intercalate (elements.map searchedText))
  have used := (usesTag_iff _ (compile elements base).tag).mpr (stands.trans within)
  exact absurd (used.symm.trans unused) (by simp)

theorem compile_plain (elements : List Element) (base : Int) : IsPlainTag (compile elements base).tag.toList :=
  chooseTag_plain _

theorem toList_imageMarker (ordinal : Nat) (tag : String) :
    (imageMarker ordinal tag).toList = markerChars tag.toList (Nat.toDigits 10 ordinal) := by
  have number : (ordinal : Int).repr.toList = Nat.toDigits 10 ordinal := by
    change (Nat.repr ordinal).toList = _
    rw [Nat.toList_repr]
  simp [imageMarker, markerChars, opener, number, toString]

private theorem mem_itemMark {earlier : List Element} {ordered : Bool} {depth : Int} {c : Char}
    (member : c ∈ itemMark earlier ordered depth) : c.isAlphanum = true ∨ c ∈ ['\t', '.', ' ', '•'] := by
  rcases List.mem_append.mp member with tab | mark
  · rw [List.eq_of_mem_replicate tab]
    exact .inr (by decide)
  · cases ordered with
    | true =>
      rcases List.mem_append.mp mark with digit | behind
      · have digits : c ∈ Nat.toDigits 10 (itemsBefore depth.toNat earlier + 1) := by
          rw [← Nat.toList_repr]
          exact digit
        exact .inl (toDigits_alphanum digits)
      · have sub : ['.', ' '] ⊆ ['\t', '.', ' ', '•'] := by decide
        exact .inr (sub behind)
    | false =>
      have sub : ['•', ' '] ⊆ ['\t', '.', ' ', '•'] := by decide
      exact .inr (sub mark)

theorem not_mem_itemMark {c : Char} (other : c.isAlphanum = false) (noMark : c ∉ ['\t', '.', ' ', '•'])
    (earlier : List Element) (ordered : Bool) (depth : Int) : c ∉ itemMark earlier ordered depth := fun member =>
  (mem_itemMark member).elim (by simp [other]) noMark

/-- What the text of a table does not hold is in none of its cells, nor in those that are added. -/
theorem without_padded {rows : Grid} (without : ¬ opener tag.toList <:+: (searchedText (.table rows)).toList) :
    ∀ row ∈ padded rows, ∀ spans ∈ row, ¬ opener tag.toList <:+: (spansText spans).toList := by
  intro row member spans inside
  obtain ⟨given, there, rfl⟩ := List.mem_map.mp member
  rcases List.mem_append.mp inside with own | added
  · intro stands
    refine without (stands.trans (infix_intercalate ?_))
    exact List.mem_flatMap.mpr ⟨given, there, List.mem_map.mpr ⟨spans, own, rfl⟩⟩
  · rw [(List.mem_replicate.mp added).2]
    simp [spansText, opener]

private theorem quiet_partsOf (shapes : QuietShape shape tag) (plain : IsPlainTag tag.toList) (earlier : List Element)
    {element : Element} (without : ¬ opener tag.toList <:+: (searchedText element).toList)
    (noImage : ∀ source isRemote alt, element ≠ .image source isRemote alt) :
    Text.Quiet (opening tag) (laidOut shape tag (partsOf earlier element)) := by
  have line (spans : List Span) (absent : ¬ opener tag.toList <:+: (spansText spans).toList) :
      Text.Quiet (opening tag) (laidOut shape tag (spanParts spans ++ [lineEnd])) := by
    rw [laidOut_texts shape tag (isText_line spans), payload_append, payload_spanParts, payload_lineEnd]
    exact quiet_line plain absent
  cases element with
  | heading level spans => exact line spans without
  | paragraph spans => exact line spans without
  | listItem ordered depth spans =>
    rw [partsOf, laidOut_cons]
    exact (quiet_of_noBracket (not_mem_itemMark (by decide) (by decide) earlier ordered depth) _).append (line spans without)
  | codeBlock text =>
    rw [laidOut_texts shape tag rfl]
    have trimmed : ¬ opener tag.toList <:+: Text.trimEndBy (· == '\n') text.toList :=
      fun stands => without (stands.trans (Text.prefix_trimEndBy _ _).isInfix)
    exact quiet_line plain trimmed
  | rule =>
    rw [laidOut_texts shape tag rfl]
    have noBracket : '[' ∉ ['\n'] := by decide
    exact quiet_of_noBracket noBracket _
  | table rows =>
    rw [partsOf]
    split
    · exact Text.Quiet.nil
    · have cells : Text.Quiet (opening tag) (shape (padded rows)) := shapes _ (without_padded without)
      simpa [laidOut, Part.contents] using cells
  | image source isRemote alt => exact absurd rfl (noImage source isRemote alt)
  | unknown => exact Text.Quiet.nil

private theorem textContents_marker (tag digits : List Char) :
    textContents (markerChars tag digits) = .code 91 :: textContents ((markerChars tag digits).drop 1) := rfl

/-- Where an element is passed, a marker starts at its image, if it is one, or behind the element. -/
private theorem opening_at_element (shapes : QuietShape shape tag) (plain : IsPlainTag tag.toList)
    (earlier : List Element) {element : Element} (without : ¬ opener tag.toList <:+: (searchedText element).toList)
    {front back : List SlotContent} {place : Nat}
    (starts : opening tag <+: (front ++ (laidOut shape tag (partsOf earlier element) ++ back)).drop place)
    (behind : front.length ≤ place) :
    place ∈ (imagePlaces shape tag front.length (partsOf earlier element)).map Prod.snd ∨
      front.length + (laidOut shape tag (partsOf earlier element)).length ≤ place := by
  by_cases image : ∃ source isRemote alt, element = .image source isRemote alt
  · obtain ⟨source, isRemote, alt, rfl⟩ := image
    rcases Nat.eq_or_lt_of_le behind with here | later
    · exact .inl (by simp [partsOf, imagePlaces, lineEnd, here])
    · right
      let digits := Nat.toDigits 10 (imagesIn earlier)
      have noBracket : '[' ∉ digits := fun member => absurd (toDigits_alphanum member) (by decide)
      have whole : laidOut shape tag (partsOf earlier (.image source isRemote alt)) =
          [.code 91] ++ (textContents ((markerChars tag.toList digits).drop 1) ++ textContents ['\n']) := by
        rw [partsOf, laidOut_cons, Part.contents, Part.chars, toList_imageMarker, textContents_marker]
        · rfl
        · simp
      have quiet : Text.Quiet (opening tag)
          (textContents ((markerChars tag.toList digits).drop 1) ++ textContents ['\n']) :=
        (quiet_marker plain noBracket).append (quiet_of_noBracket (by decide) _)
      rw [whole] at starts ⊢
      rw [List.append_assoc, ← List.append_assoc] at starts
      have passed := quiet.behind starts (by rwa [List.length_append])
      simp only [List.length_append, List.length_singleton] at passed ⊢
      omega
  · exact .inr ((quiet_partsOf shapes plain earlier without fun source isRemote alt same =>
      image ⟨source, isRemote, alt, same⟩).behind starts behind)

/-- Where elements start, or later, a marker starts only at an image of them or behind them. -/
theorem opening_at (shapes : QuietShape shape tag) (plain : IsPlainTag tag.toList) (earlier : List Element)
    {elements : List Element} (unused : Unused tag elements) {front back : List SlotContent} {place : Nat}
    (starts : opening tag <+: (front ++ (laidOut shape tag (partsFrom earlier elements) ++ back)).drop place)
    (behind : front.length ≤ place) :
    place ∈ (imagePlaces shape tag front.length (partsFrom earlier elements)).map Prod.snd ∨
      front.length + (laidOut shape tag (partsFrom earlier elements)).length ≤ place := by
  induction elements generalizing earlier front with
  | nil => exact .inr (by simpa [partsFrom] using behind)
  | cons element elements ih =>
    rw [partsFrom, laidOut_append, List.append_assoc] at starts
    rw [partsFrom, imagePlaces_append, laidOut_append, List.map_append, List.mem_append, List.length_append]
    rcases opening_at_element shapes plain earlier (unused element (by simp)) starts behind with here | later
    · exact .inl (.inl here)
    · rw [← List.append_assoc] at starts
      rcases ih (element :: earlier) (fun other member => unused other (by simp [member])) starts
          (by simpa using later) with inside | passed
      · exact .inl (.inr (by simpa using inside))
      · right
        rw [List.length_append] at passed
        omega

end Elements

section Places
variable (shape : Grid → List SlotContent) (tag : String)

theorem marker_at {parts : List Part} (front back : List SlotContent) {image : Nat × Nat}
    (member : image ∈ imagePlaces shape tag front.length parts) :
    textContents (imageMarker image.1 tag).toList <+: (front ++ (laidOut shape tag parts ++ back)).drop image.2 := by
  induction parts generalizing front with
  | nil => simp [imagePlaces] at member
  | cons part parts ih =>
    have later (inside : image ∈ imagePlaces shape tag (front.length + (part.contents shape tag).length) parts) :
        textContents (imageMarker image.1 tag).toList <+:
          (front ++ (laidOut shape tag (part :: parts) ++ back)).drop image.2 := by
      have behind := ih (front ++ part.contents shape tag) (by simpa using inside)
      simpa using behind
    cases part with
    | text chars style => exact later member
    | table cells => exact later member
    | image ordinal source isRemote alt =>
      rcases List.mem_cons.mp member with rfl | inside
      · rw [List.drop_append_length, laidOut_cons, List.append_assoc]
        exact List.prefix_append _ _
      · exact later inside

/-- The markers of images stand one behind the other, inside the parts. -/
theorem imagePlaces_inside (start : Nat) (parts : List Part) :
    (imagePlaces shape tag start parts).Pairwise (fun first second => first.2 < second.2) ∧
    ∀ image ∈ imagePlaces shape tag start parts, start ≤ image.2 ∧
      image.2 + Text.units (imageMarker image.1 tag) ≤ start + (laidOut shape tag parts).length := by
  induction parts generalizing start with
  | nil => exact ⟨List.Pairwise.nil, by simp [imagePlaces]⟩
  | cons part parts ih =>
    obtain ⟨ordered, inside⟩ := ih (start + (part.contents shape tag).length)
    have later : ∀ image ∈ imagePlaces shape tag (start + (part.contents shape tag).length) parts,
        start + (part.contents shape tag).length ≤ image.2 ∧
          image.2 + Text.units (imageMarker image.1 tag) ≤ start + (laidOut shape tag (part :: parts)).length := by
      intro image member
      obtain ⟨from_start, to_stop⟩ := inside image member
      refine ⟨from_start, ?_⟩
      rw [laidOut_cons, List.length_append]
      omega
    cases part with
    | text chars style | table cells =>
      exact ⟨ordered, fun image member => ⟨by have := (later image member).1; omega, (later image member).2⟩⟩
    | image ordinal source isRemote alt =>
      have own : ((Part.image ordinal source isRemote alt).contents shape tag).length =
          Text.units (imageMarker ordinal tag) := by
        simp [Part.contents, Part.chars, Text.units]
      have positive := imageMarker_pos tag ordinal
      refine ⟨List.Pairwise.cons (fun image member => ?_) ordered, fun image member => ?_⟩
      · have := (later image member).1
        simp only
        omega
      · rcases List.mem_cons.mp member with rfl | inside
        · refine ⟨Nat.le_refl _, ?_⟩
          rw [laidOut_cons, List.length_append, own]
          exact Nat.add_le_add_left (Nat.le_add_right _ _) start
        · exact ⟨by have := (later image inside).1; omega, (later image inside).2⟩

theorem imagePlaces_ordinals (earlier : List Element) (start : Nat) (elements : List Element) :
    (imagePlaces shape tag start (partsFrom earlier elements)).map Prod.fst =
      List.range' (imagesIn earlier) (imagesIn elements) := by
  induction elements generalizing earlier start with
  | nil => rfl
  | cons element elements ih =>
    rw [partsFrom, imagePlaces_append, List.map_append, ih, imagesIn_cons element earlier,
      imagesIn_cons element elements, Nat.add_comm (imagesIn elements), ← List.range'_append_1]
    congr 1
    cases element with
    | image source isRemote alt => simp [partsOf, imagePlaces, imagesIn, lineEnd]
    | table rows => by_cases empty : rows.all List.isEmpty = true <;> simp [partsOf, empty, imagePlaces, imagesIn]
    | _ =>
      rw [imagePlaces_texts shape tag (isText_partsOf earlier rfl)]
      rfl

end Places
end DocScribe.Docs
