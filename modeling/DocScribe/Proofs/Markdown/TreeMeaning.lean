import DocScribe.Markdown.Walk
import DocScribe.Proofs.Markdown.FaithfulSpans
import DocScribe.Proofs.Markdown.ParagraphSegments
import DocScribe.Proofs.Text.Trimming

/-! What blocks mean, whatever reads them. Content means the pieces that show all of its atoms; a paragraph comes apart at its
images, and where images cannot stand their descriptions do. A list has an element for each of its texts. -/

namespace DocScribe.Markdown
open DocScribe

mutual

/-- A paragraph stands in the block, and in no item of a list. -/
def Block.speaks : Block (List Inline) → Bool
  | .paragraph _ => true
  | .quote blocks => anySpeaks blocks
  | .heading .. => false
  | .list .. => false
  | .table _ => false
  | .code _ => false
  | .rule => false
  | .html _ => false

def Block.anySpeaks : List (Block (List Inline)) → Bool
  | [] => false
  | block :: blocks => block.speaks || anySpeaks blocks

end

/-- Pieces that show content as a whole, in order and in the right style. -/
structure ShowContent (items : List Inline) (pieces : List Piece) : Prop where
  atoms : pieces.flatMap Piece.atoms = atomsBehind [] items
  merged : Piece.Merged pieces

/-- What a piece is where images cannot stand. -/
def Piece.inText : Piece → Option Span
  | .span run => some run
  | .image _ _ alt => if alt == "" then none else some ⟨alt, .plain⟩

/-- Content where images cannot stand. -/
def TextShows (items : List Inline) (spans : List Span) : Prop :=
  ∃ pieces, ShowContent items pieces ∧ spans = pieces.filterMap Piece.inText

/-- Content where images stand between paragraphs. -/
def ContentShows (items : List Inline) (elements : List Element) : Prop :=
  ∃ pieces, ShowContent items pieces ∧ ParagraphShows pieces elements

/-- Rows without cells are dropped, and so is a table without rows. -/
inductive TableShows (rows : List (List (List Inline))) : List Element → Prop
  | empty (none : ∀ row ∈ rows, row = []) : TableShows rows []
  | filled {shown} (some : ∃ row ∈ rows, row ≠ []) (cells : List.Forall₂ (List.Forall₂ TextShows) (rows.filter (· ≠ [])) shown) :
      TableShows rows [.table shown]

/-- One line end is cut from the end of code. -/
inductive CodeShows (code : String) : String → Prop
  | cut {text} (ends : code = text ++ "\n") : CodeShows code text
  | whole (unended : ∀ text, code ≠ text ++ "\n") : CodeShows code code

/-- HTML shows itself, without the line ends behind it. -/
inductive HtmlShows (source : String) : List Element → Prop
  | blank (none : ∀ c ∈ source.toList, c = '\n') : HtmlShows source []
  | filled {text ends} (split : source.toList = text ++ ends) (cut : ∀ c ∈ ends, c = '\n') (last : ∃ c ∈ text.getLast?, c ≠ '\n') :
      HtmlShows source [.paragraph [⟨.ofList text, .plain⟩]]

mutual

/-- The elements of a block inside so many lists. `turn` is the kind of the innermost list as long as its item has no
text yet: the next paragraph becomes that text. -/
inductive BlockReads : (lists : Nat) → (turn : Option Bool) → Block (List Inline) → List Element → Prop
  | text {lists ordered items spans} (shows : TextShows items spans) :
      BlockReads lists (some ordered) (.paragraph items) [.listItem ordered ((lists : Int) - 1) spans]
  | paragraph {lists items elements} (shows : ContentShows items elements) : BlockReads lists none (.paragraph items) elements
  | heading {lists turn level items spans} (shows : TextShows items spans) :
      BlockReads lists turn (.heading level items) [.heading level spans]
  | list {lists turn ordered items elements} (inside : ItemsRead lists ordered items elements) :
      BlockReads lists turn (.list ordered items) elements
  | quote {lists turn blocks elements} (inside : BlocksRead lists turn blocks elements) : BlockReads lists turn (.quote blocks) elements
  | table {lists turn rows elements} (shows : TableShows rows elements) : BlockReads lists turn (.table rows) elements
  | code {lists turn code text} (shows : CodeShows code text) : BlockReads lists turn (.code code) [.codeBlock text]
  | rule {lists turn} : BlockReads lists turn .rule [.rule]
  | html {lists turn source elements} (shows : HtmlShows source elements) : BlockReads lists turn (.html source) elements

/-- A paragraph uses up the turn, wherever it stands in a block. -/
inductive BlocksRead : (lists : Nat) → (turn : Option Bool) → List (Block (List Inline)) → List Element → Prop
  | nil {lists turn} : BlocksRead lists turn [] []
  | cons {lists turn block blocks elements more} (first : BlockReads lists turn block elements)
      (behind : BlocksRead lists (if block.speaks then none else turn) blocks more) :
      BlocksRead lists turn (block :: blocks) (elements ++ more)

/-- Each item is read inside one more list, and has a turn of its own. -/
inductive ItemsRead : (lists : Nat) → (ordered : Bool) → List (List (Block (List Inline))) → List Element → Prop
  | nil {lists ordered} : ItemsRead lists ordered [] []
  | cons {lists ordered item items elements more} (first : BlocksRead (lists + 1) (some ordered) item elements)
      (behind : ItemsRead lists ordered items more) : ItemsRead lists ordered (item :: items) (elements ++ more)

end

section Pieces
variable {pieces : List Piece}

theorem Piece.Merged.inside (merged : Merged pieces) {part : List Piece} (inside : part <:+: pieces) : Merged part where
  filled := fun span among => merged.filled span (inside.subset among)
  apart := List.IsChain.infix merged.apart inside

/-- The pieces that show these atoms, and no others do. -/
def Piece.ofAtoms (atoms : List Atom) : List Piece :=
  atoms.foldr (fun atom pieces => match atom with
    | .char c style => addText [c] style pieces
    | .image source isRemote alt => .image source isRemote alt :: pieces) []

theorem Piece.Merged.addText_self {span : Span} (merged : Merged (.span span :: pieces)) :
    Piece.addText span.text.toList span.style pieces = .span span :: pieces := by
  have filled : span.text.toList.isEmpty = false := by
    simpa using merged.filled span List.mem_cons_self
  cases pieces with
  | nil => simp [Piece.addText, filled]
  | cons piece pieces =>
    cases piece with
    | image => simp [Piece.addText, filled]
    | span next =>
      have apart : span.style ≠ next.style := (List.isChain_cons_cons.mp merged.apart).1
      simp [Piece.addText, filled, apart.symm]

theorem Piece.Merged.ofAtoms_atoms (merged : Merged pieces) : ofAtoms (pieces.flatMap atoms) = pieces := by
  induction pieces with
  | nil => rfl
  | cons piece pieces ih =>
    have later := ih (merged.inside (List.suffix_cons piece pieces).isInfix)
    rw [ofAtoms] at later
    rw [List.flatMap_cons, ofAtoms, List.foldr_append, later]
    cases piece with
    | image => rfl
    | span span =>
      rw [atoms, List.foldr_map, ← addText_foldr]
      exact merged.addText_self

theorem Piece.Merged.unique {other : List Piece} (merged : Merged pieces) (too : Merged other)
    (same : pieces.flatMap atoms = other.flatMap atoms) : pieces = other := by
  rw [← merged.ofAtoms_atoms, same, too.ofAtoms_atoms]

private theorem showContent_iff (items : List Inline) : ShowContent items pieces ↔ pieces = Piece.ofInline items := by
  obtain ⟨atoms, merged⟩ := Piece.ofInline_faithful items
  constructor
  · intro shows
    exact shows.merged.unique merged (shows.atoms.trans atoms.symm)
  · rintro rfl
    exact ⟨atoms, merged⟩

end Pieces

section Segments

private theorem spans_unique {spans other : List Span} (filled : SpansFilled spans) (apart : SpansApart spans) (otherFilled : SpansFilled other)
    (otherApart : SpansApart other) (same : styledChars spans = styledChars other) : spans = other := by
  have merged {spans : List Span} (filled : SpansFilled spans) (apart : SpansApart spans) : Piece.Merged (spans.map .span) := by
    constructor
    · intro span among
      obtain ⟨_, member, same⟩ := List.mem_map.mp among
      cases same
      exact filled span member
    · exact (List.isChain_map Piece.span).mpr apart
  have atoms (spans : List Span) : (spans.map Piece.span).flatMap Piece.atoms = (styledChars spans).map fun entry => .char entry.1 entry.2 := by
    simp [styledChars, List.flatMap_map, List.map_flatMap, Piece.atoms, Function.comp_def]
  have equal := (merged filled apart).unique (merged otherFilled otherApart) (by rw [atoms, atoms, same])
  exact List.map_injective_iff.mpr (fun _ _ => Piece.span.inj) equal

theorem SegmentShows.unique {segment : List Span} {shown other : List Element} (apart : SpansApart segment)
    (shows : SegmentShows segment shown) (too : SegmentShows segment other) : shown = other := by
  cases shows with
  | blank text =>
    cases too with
    | blank => rfl
    | filled some => exact absurd (text.symm.trans some) Bool.true_eq_false.mp
  | filled some trims =>
    cases too with
    | blank text => exact absurd (text.symm.trans some) Bool.true_eq_false.mp
    | filled _ otherTrims =>
      rw [spans_unique trims.filled (trims.apart apart) otherTrims.filled (otherTrims.apart apart) (trims.chars.trans otherTrims.chars.symm)]

theorem ParagraphShows.eq {pieces : List Piece} {elements : List Element} (merged : Piece.Merged pieces)
    (shows : ParagraphShows pieces elements) : elements = paragraphElements pieces := by
  have segment {segment : List Span} {shown : List Element} (own : SegmentShows segment shown)
      (merged : Piece.Merged (segment.map .span)) : shown = segmentElement segment := by
    have filled : SpansFilled segment := fun span among => merged.filled span (List.mem_map_of_mem among)
    exact own.unique ((List.isChain_map Piece.span).mp merged.apart) (segmentElement_shows filled)
  rw [paragraphElements]
  induction shows with
  | last own =>
    rw [← List.append_nil (List.map _ _), splitAtImages_spans]
    exact segment own merged
  | @image front shown source isRemote alt pieces elements own _ ih =>
    have before : front.map .span <:+: front.map .span ++ .image source isRemote alt :: pieces := (List.prefix_append ..).isInfix
    have behind : pieces <:+: front.map .span ++ .image source isRemote alt :: pieces :=
      ((List.suffix_cons ..).trans (List.suffix_append ..)).isInfix
    rw [splitAtImages_spans, splitAtImages, ← ih (merged.inside behind), segment own (merged.inside before), List.nil_append]

end Segments

section Leaves

theorem spansOnly_eq (pieces : List Piece) : spansOnly pieces = pieces.filterMap Piece.inText := by
  unfold spansOnly
  congr 1

theorem textShows_iff (items : List Inline) (spans : List Span) : TextShows items spans ↔ spans = spansOnly (Piece.ofInline items) := by
  simp only [TextShows, showContent_iff, exists_eq_left, spansOnly_eq]

theorem contentShows_iff (items : List Inline) (elements : List Element) :
    ContentShows items elements ↔ elements = paragraphElements (Piece.ofInline items) := by
  have merged := Piece.ofInlineFrom_merged {} items
  simp only [ContentShows, showContent_iff, exists_eq_left]
  constructor
  · exact ParagraphShows.eq merged
  · rintro rfl
    exact paragraphElements_shows merged.filled

theorem forall₂_iff_map {α β : Type} {shows : α → β → Prop} {shown : α → β} (own : ∀ item result, shows item result ↔ result = shown item)
    (items : List α) (results : List β) : List.Forall₂ shows items results ↔ results = items.map shown := by
  obtain rfl : shows = fun item result => shown item = result := by
    funext item result
    exact propext ((own item result).trans eq_comm)
  rw [← List.forall₂_map_left_iff (f := shown) (R := Eq), List.forall₂_eq_eq_eq, eq_comm]

theorem codeShows_iff (code text : String) : CodeShows code text ↔ text = Walk.codeText code := by
  by_cases ended : ∃ text, code = text ++ "\n"
  · obtain ⟨front, rfl⟩ := ended
    rw [Walk.codeText_ended]
    constructor
    · rintro (same | unended)
      · exact ((String.append_left_inj "\n").mp same).symm
      · exact absurd rfl (unended front)
    · rintro rfl
      exact .cut rfl
  · have unended : ∀ text, code ≠ text ++ "\n" := not_exists.mp ended
    have kept : Walk.codeText code = code := by
      rw [Walk.codeText, if_neg]
      intro last
      obtain ⟨front, split⟩ := List.getLast?_eq_some_iff.mp (eq_of_beq last)
      apply unended (.ofList front)
      rw [← String.toList_inj, split, String.toList_append, String.toList_ofList]
      rfl
    rw [kept]
    constructor
    · rintro (same | _)
      · exact absurd same (unended text)
      · rfl
    · rintro rfl
      exact .whole unended

private theorem htmlElement_split {source : String} {text ends : List Char} (split : source.toList = text ++ ends)
    (cut : ∀ c ∈ ends, c = '\n') (last : ∀ c ∈ text.getLast?, c ≠ '\n') :
    Walk.htmlElement source = if text = [] then [] else [.paragraph [⟨.ofList text, .plain⟩]] := by
  have shown : Text.trimEndBy (· == '\n') source.toList = text := by
    rw [split, Text.trimEndBy_append text fun c among => beq_iff_eq.mpr (cut c among)]
    exact Text.trimEndBy_eq_self fun c ends => beq_false_of_ne (last c ends)
  rw [Walk.htmlElement, shown]
  cases text <;> rfl

theorem htmlShows_iff (source : String) (elements : List Element) : HtmlShows source elements ↔ elements = Walk.htmlElement source := by
  constructor
  · rintro (none | @⟨text, ends, split, cut, c, ended, other⟩)
    · rw [htmlElement_split (List.nil_append source.toList).symm none (by simp), if_pos rfl]
    · have last : ∀ d ∈ text.getLast?, d ≠ '\n' := by
        intro d same
        rwa [Option.mem_unique same ended]
      have some : text ≠ [] := by
        rintro rfl
        cases ended
      rw [htmlElement_split split cut last, if_neg some]
  · rintro rfl
    obtain ⟨ends, split, blank⟩ := Text.trimEndBy_split (· == '\n') source.toList
    have cut : ∀ c ∈ ends, c = '\n' := fun c among => eq_of_beq (blank c among)
    have last : ∀ c ∈ (Text.trimEndBy (· == '\n') source.toList).getLast?, c ≠ '\n' := by
      intro c ended
      rw [Text.getLast?_trimEndBy] at ended
      simpa using List.find?_some ended
    rw [htmlElement_split split cut last]
    split
    next none =>
      rw [none, List.nil_append] at split
      exact .blank fun c among => cut c (split ▸ among)
    next some =>
      refine .filled split cut ⟨_, List.getLast?_eq_some_getLast some, last _ (List.getLast?_eq_some_getLast some)⟩

end Leaves

end DocScribe.Markdown
