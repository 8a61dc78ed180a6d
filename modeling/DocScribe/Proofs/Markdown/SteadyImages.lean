import DocScribe.Proofs.Markdown.PageBlocks
import DocScribe.Proofs.Markdown.SpanCores

/-! An image that is a paragraph of its own is written with its description and its source, and read back. -/

namespace DocScribe.Markdown
open DocScribe BlockStart BlockReader InlineReader

/-- A source that is written without angle brackets, and a description without marks or references. -/
structure SteadyImage (source : String) (isRemote : Bool) (alt : String) : Prop where
  target : IsTarget source.toList
  bare : source.toList.any " ()".toList.contains = false
  remote : isRemote = isRemoteRef source
  clean : IsClean alt.toList
  plain : ∀ c ∈ alt.toList, c ≠ '\n' ∧ Render.isMark c = false
  noReference : holdsReference alt.toList = false

instance (source : String) (isRemote : Bool) (alt : String) : Decidable (SteadyImage source isRemote alt) :=
  decidable_of_iff (_ ∧ _ ∧ _ ∧ _ ∧ _ ∧ _)
    ⟨fun ⟨target, bare, remote, clean, plain, noReference⟩ => ⟨target, bare, remote, clean, plain, noReference⟩,
      fun steady => ⟨steady.target, steady.bare, steady.remote, steady.clean, steady.plain, steady.noReference⟩⟩

section PlainText
variable {text : List Char} (plain : ∀ c ∈ text, c ≠ '\n' ∧ Render.isMark c = false)
include plain

private theorem escape_plain : Render.escape text = text := by
  induction text with
  | nil => rfl
  | cons c text ih =>
    obtain ⟨⟨-, unmarked⟩, others⟩ := List.forall_mem_cons.mp plain
    have rest : text.flatMap (fun d => if Render.isMark d = true then ['\\', d] else [d]) = text := ih others
    simp [Render.escape, unmarked, rest]

private theorem plainText_plain : Render.plainText text = text := by
  have kept : text.flatMap (fun c => if c == '\n' then ['\\', '\n'] else [c]) = text.flatMap fun c => [c] := by
    apply List.flatMap_congr
    intro c among
    simp [(plain c among).1]
  rw [Render.plainText, escape_plain plain, kept, List.flatMap_singleton']

private theorem holdsIndent_plain : holdsIndent text = false := by
  induction text with
  | nil => rfl
  | cons c text ih =>
    obtain ⟨⟨noBreak, -⟩, others⟩ := List.forall_mem_cons.mp plain
    simp [holdsIndent, noBreak, ih others]

end PlainText

namespace SteadyImage
variable {source alt : String} {isRemote : Bool} (steady : SteadyImage source isRemote alt)
include steady

theorem rendered : Render.image source.toList alt.toList = '!' :: '[' :: (alt.toList ++ behindLabel source.toList) := by
  have bare : (if source.toList.any " ()".toList.contains then '<' :: source.toList ++ ['>'] else source.toList) =
      source.toList :=
    if_neg (by simp only [steady.bare, Bool.false_eq_true, not_false_eq_true])
  rw [Render.image, bare, escape_plain steady.plain]
  simp [behindLabel]

private theorem legible (more : List Char) :
    Legible (behindLabel source.toList ++ more) alt.toList (alt.toList.map (·, false)) := by
  have follows : StartsMarked (behindLabel source.toList ++ more) := by
    intro c first
    obtain rfl := Option.some.inj first
    decide
  have written := legible_plainText steady.noReference (holdsIndent_plain steady.plain) follows fun bracket =>
    absurd bracket (by simp [behindLabel])
  rwa [plainText_plain steady.plain] at written

/-- All that is read of the text is the image. -/
theorem ofText_rendered (definitions : Definitions) :
    Inline.ofText definitions (Render.image source.toList alt.toList) = [.image source.toList alt.toList] := by
  rw [steady.rendered]
  have stands {text : List Char} : StandsAt text 0 text [] text.length := ⟨by simp, by simp, Nat.le_refl _⟩
  let text := '!' :: '[' :: (alt.toList ++ behindLabel source.toList)
  have whole : (⟨Source.ofChars text, definitions⟩ : InlineContext).source = Source.ofChars text := rfl
  obtain ⟨later, image⟩ := readAt_image whole 19 (read ⟨Source.ofChars text, definitions⟩ 19) {} (fresh_freshMemory _ 2)
    steady.target stands (steady.legible [])
  rw [Nat.zero_add] at image
  have reads := Reads.one (Nat.zero_lt_succ _) (Nat.zero_lt_succ _) image
  rw [Reads.ofText_eq reads]
  rfl

private theorem noBreak : '\n' ∉ Render.image source.toList alt.toList := by
  rw [steady.rendered]
  have source : '\n' ∉ source.toList := fun among => absurd (steady.target.printed _ among) (by decide)
  have alt : '\n' ∉ alt.toList := fun among => (steady.plain _ among).1 rfl
  simp [behindLabel, source, alt]

private theorem clean_rendered : IsClean (Render.image source.toList alt.toList) := by
  rw [steady.rendered]
  have source : IsClean source.toList := steady.target.clean
  have opening : IsClean ['!', '['] := by decide
  have between : IsClean [']', '('] := by decide
  have closing : IsClean [')'] := by decide
  simpa [behindLabel] using (opening.append steady.clean).append ((between.append source).append closing)

theorem isBlockText : IsBlockText (Render.image source.toList alt.toList)
    (.paragraph (Render.image source.toList alt.toList)) := by
  have unmarked : IsUnmarked (Render.image source.toList alt.toList) := by
    rw [steady.rendered]
    exact isUnmarked_plain rfl (by decide)
  have first : (Render.image source.toList alt.toList).head? = some '!' := by rw [steady.rendered]; rfl
  have last : (Render.image source.toList alt.toList).getLast? = some ')' := by
    have ends : Render.image source.toList alt.toList = '!' :: '[' :: (alt.toList ++ ']' :: '(' :: source.toList) ++ [')'] := by
      simp [steady.rendered, behindLabel]
    rw [ends, List.getLast?_concat]
  have trimmed : Text.trimBy Text.isMargin (Render.image source.toList alt.toList) = Render.image source.toList alt.toList := by
    apply Text.trimBy_eq_self
    · intro c same
      obtain rfl := Option.some.inj (first.symm.trans same)
      decide
    · intro c same
      obtain rfl := Option.some.inj (last.symm.trans same)
      decide
  refine isBlockText_line unmarked.some ?_ unmarked.noItem steady.clean_rendered steady.noBreak
    fun insideQuote insideItem rest definitions apart => ?_
  · intro c same
    obtain rfl := Option.some.inj (first.symm.trans same)
    decide
  · have own : IsUnmarked (⟨Render.image source.toList alt.toList, 0, 0, 0⟩ : Line).content := unmarked
    have noHeading : (⟨Render.image source.toList alt.toList, 0, 0, 0⟩ : Line).content.head? ≠ some '#' := fun same =>
      absurd (first.symm.trans same) (by decide)
    rw [blockAt_paragraph own noHeading rfl (tableHeader?_apart apart) (underlined?_apart apart) (paragraphLines_apart apart)]
    simp [Margin.page, trimmed]

theorem pieces_rendered (definitions : Definitions) :
    Piece.ofInline (Inline.ofText definitions (Render.image source.toList alt.toList)) = [.image source isRemote alt] := by
  rw [steady.ofText_rendered]
  have filled : source.toList ≠ [] := steady.target.filled
  simp [Piece.ofInline, Piece.ofInlineFrom, filled, steady.remote]

end SteadyImage

end DocScribe.Markdown
