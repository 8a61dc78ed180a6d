import DocScribe.Markdown.Reading

/-! The images that are read from a Markdown text. An image without a source is dropped where inline content
becomes pieces, and no later pass makes images of its own. -/

namespace DocScribe.Markdown
open DocScribe

def Element.HasSource (element : Element) : Prop :=
  ∀ source isRemote alt, element = .image source isRemote alt → source ≠ ""

def Piece.HasSource (piece : Piece) : Prop :=
  ∀ source isRemote alt, piece = .image source isRemote alt → source ≠ ""

private theorem addText_hasSource {pieces : List Piece} (valid : ∀ piece ∈ pieces, piece.HasSource) (text : List Char)
    (style : Style) : ∀ piece ∈ Piece.addText text style pieces, piece.HasSource := by
  have span (written : Span) : (Piece.span written).HasSource := fun _ _ _ same => by cases same
  intro piece member
  unfold Piece.addText at member
  split at member
  · exact valid piece member
  · split at member
    · split at member
      · rcases List.mem_cons.mp member with rfl | inside
        · exact span _
        · exact valid piece (by simp [inside])
      · rcases List.mem_cons.mp member with rfl | inside
        · exact span _
        · exact valid piece inside
    · rcases List.mem_cons.mp member with rfl | inside
      · exact span _
      · exact valid piece inside

private theorem ofInlineFrom_hasSource (styles : OpenStyles) (items : List Inline) :
    ∀ piece ∈ Piece.ofInlineFrom styles items, piece.HasSource := by
  induction items generalizing styles with
  | nil => simp [Piece.ofInlineFrom]
  | cons item items ih =>
    have more := ih (styles.after item)
    cases item with
    | image source alt =>
      intro piece member
      simp only [Piece.ofInlineFrom] at member
      split at member
      · exact more piece member
      · next some =>
        rcases List.mem_cons.mp member with rfl | inside
        · intro _ _ _ same
          cases same
          simpa using some
        · exact more piece inside
    | _ => exact addText_hasSource more _ _

private theorem splitAtImages_hasSource {pieces : List Piece} (valid : ∀ piece ∈ pieces, piece.HasSource)
    (segment : List Span) : ∀ element ∈ splitAtImages segment pieces, element.HasSource := by
  have paragraph (spans : List Span) : ∀ element ∈ segmentElement spans, element.HasSource := by
    intro element member
    unfold segmentElement at member
    split at member
    · simp at member
    · rw [List.mem_singleton.mp member]
      exact fun _ _ _ same => by cases same
  induction pieces generalizing segment with
  | nil => exact paragraph segment
  | cons piece pieces ih =>
    have rest := ih fun other member => valid other (by simp [member])
    cases piece with
    | span span => exact rest _
    | image source isRemote alt =>
      intro element member
      rcases List.mem_append.mp member with front | back
      · exact paragraph segment element front
      · rcases List.mem_cons.mp back with rfl | inside
        · intro _ _ _ same
          cases same
          exact valid (.image source isRemote alt) (by simp) _ _ _ rfl
        · exact rest [] element inside

namespace Walk

def HasSources (walk : Walk) : Prop := ∀ element ∈ walk.elements, element.HasSource

theorem HasSources.emit {walk : Walk} (valid : walk.HasSources) {elements : List Element}
    (more : ∀ element ∈ elements, element.HasSource) : (walk.emit elements).HasSources := by
  intro element member
  rcases List.mem_append.mp member with old | new
  · exact valid element old
  · exact more element new

private theorem HasSources.emitOther {walk : Walk} (valid : walk.HasSources) {element : Element}
    (other : ∀ source isRemote alt, element ≠ .image source isRemote alt) : (walk.emit [element]).HasSources := by
  refine valid.emit fun same member => ?_
  rw [List.mem_singleton.mp member]
  exact fun source isRemote alt image => absurd image (other source isRemote alt)

theorem HasSources.step {walk : Walk} (valid : walk.HasSources) (token : Token) : (walk.step token).HasSources := by
  cases token with
  | opens frame => cases frame <;> exact valid
  | closes frame =>
    cases frame with
    | table =>
      have left : HasSources { walk with inTable := false, rows := [] } := valid
      refine left.emit fun element member => ?_
      unfold tableElement at member
      split at member
      · simp at member
      · rw [List.mem_singleton.mp member]
        exact fun _ _ _ same => by cases same
    | _ => exact valid
  | content items =>
    have images := splitAtImages_hasSource (ofInlineFrom_hasSource {} items) []
    simp only [Walk.step, Walk.content]
    split
    · exact valid
    · split
      · exact valid.emitOther (by simp)
      · split
        · next ordered outer done _ _ =>
          have marked : HasSources { walk with itemsDone := true :: done } := valid
          exact marked.emitOther (by simp)
        · exact valid.emit images
  | code text => exact valid.emitOther (by simp)
  | rule => exact valid.emitOther (by simp)
  | html source =>
    refine valid.emit fun element member => ?_
    unfold htmlElement at member
    split at member
    · simp at member
    · rw [List.mem_singleton.mp member]
      exact fun _ _ _ same => by cases same

theorem HasSources.run {walk : Walk} (valid : walk.HasSources) (tokens : List Token) : (walk.run tokens).HasSources := by
  induction tokens generalizing walk with
  | nil => exact valid
  | cons token tokens ih => exact ih (valid.step token)

end Walk

/-- Every image of a Markdown text has a source. -/
theorem parse_hasSource (text : String) : ∀ element ∈ parse text, element.HasSource := by
  have start : Walk.HasSources {} := by simp [Walk.HasSources]
  exact start.run _

end DocScribe.Markdown
