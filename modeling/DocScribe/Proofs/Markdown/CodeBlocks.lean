import DocScribe.Proofs.Markdown.BlockWords
import DocScribe.Proofs.Markdown.SteadyElements
import DocScribe.Proofs.Markdown.TreeReading

/-! Code that is read has none of the characters that reading replaces. Code without them comes back when it is written
and read, and so do rules. -/

namespace DocScribe.Markdown
open DocScribe Text

def CodeHolds (holds : List Char → Prop) (elements : List Element) : Prop :=
  ∀ text, .codeBlock text ∈ elements → holds text.toList

section Tree
variable {holds : List Char → Prop} {read : List Char → List Inline}

theorem codeHolds_nil : CodeHolds holds [] := fun _ among => absurd among List.not_mem_nil

theorem CodeHolds.append {first second : List Element} (one : CodeHolds holds first) (other : CodeHolds holds second) :
    CodeHolds holds (first ++ second) := by
  intro text among
  exact (List.mem_append.mp among).elim (one text) (other text)

private theorem codeHolds_other {element : Element} (other : ∀ text, element ≠ .codeBlock text) : CodeHolds holds [element] := by
  intro text among
  exact absurd (List.mem_singleton.mp among).symm (other text)

private theorem codeHolds_paragraph (lists : Nat) (turn : Option Bool) (items : List Inline) :
    CodeHolds holds (readBlock lists turn (.paragraph items)) := by
  cases turn with
  | none =>
    intro text among
    rcases mem_splitAtImages among with ⟨_, same⟩ | ⟨_, _, _, same⟩ <;> cases same
  | some => exact codeHolds_other (by simp)

theorem codeHolds_blocks {blocks : List RawBlock}
    (own : ∀ block ∈ blocks, ∀ lists turn, CodeHolds holds (readBlock lists turn (block.resolve read))) (lists : Nat) (turn : Option Bool) :
    CodeHolds holds (readBlocks lists turn (RawBlock.resolveAll read blocks)) := by
  induction blocks generalizing turn with
  | nil => exact codeHolds_nil
  | cons block blocks ih =>
    obtain ⟨first, others⟩ := List.forall_mem_cons.mp own
    exact (first lists turn).append (ih others _)

private theorem codeHolds_items {items : List (List RawBlock)}
    (own : ∀ item ∈ items, ∀ block ∈ item, ∀ lists turn, CodeHolds holds (readBlock lists turn (block.resolve read)))
    (lists : Nat) (ordered : Bool) : CodeHolds holds (readItems lists ordered (RawBlock.resolveItems read items)) := by
  induction items with
  | nil => exact codeHolds_nil
  | cons item items ih =>
    obtain ⟨first, others⟩ := List.forall_mem_cons.mp own
    unfold RawBlock.resolveItems
    split
    · exact codeHolds_nil
    next text blocks _ same =>
      cases same
      have behind := codeHolds_blocks (List.forall_mem_cons.mp first).2 (lists + 1)
      exact ((codeHolds_paragraph _ _ _).append (behind _)).append (ih others)
    next same =>
      cases same
      exact (codeHolds_blocks first _ _).append (ih others)

private theorem codeHolds_block (cut : ∀ {part text}, part <+: text → holds text → holds part) {block : RawBlock}
    (texts : block.AllTexts holds) (lists : Nat) (turn : Option Bool) :
    CodeHolds holds (readBlock lists turn (block.resolve read)) := by
  induction texts generalizing lists turn with
  | paragraph => exact codeHolds_paragraph lists turn _
  | heading => exact codeHolds_other (by simp)
  | list _ ih => exact codeHolds_items ih lists _
  | quote _ ih => exact codeHolds_blocks ih lists turn
  | table =>
    rw [RawBlock.resolve, readBlock, readTable]
    split
    · exact codeHolds_nil
    · exact codeHolds_other (by simp)
  | @code text own =>
    intro other among
    obtain rfl : other = Walk.codeText text := by simpa [RawBlock.resolve, readBlock] using among
    exact cut (Walk.codeText_prefix text) own
  | rule => exact codeHolds_other (by simp)
  | html =>
    rw [RawBlock.resolve, readBlock, Walk.htmlElement]
    split
    · exact codeHolds_nil
    · exact codeHolds_other (by simp)

end Tree

private theorem parse_code_clean (markdown : String) : CodeHolds IsClean (parse markdown) := by
  rw [parse_eq_readBlocks]
  refine codeHolds_blocks (fun block among lists turn => ?_) 0 none
  have words := ofText_words markdown.toList block among
  intro text inside c own
  rcases (codeHolds_block (fun front own => own.piece front.isInfix) words lists turn text inside).holds own with separates | kept
  · simp only [SetsApart, isIndent, Bool.or_eq_true, beq_iff_eq] at separates
    rcases separates with (rfl | rfl) | rfl <;> decide
  · exact isClean_normalize _ c kept

private theorem isNested_of_noItem {elements : List Element} (noItem : ∀ ordered depth spans, .listItem ordered depth spans ∉ elements) :
    IsNested 0 elements := by
  induction elements with
  | nil => trivial
  | cons element rest ih =>
    have later := ih fun ordered depth spans among => noItem ordered depth spans (List.mem_cons_of_mem _ among)
    cases element with
    | listItem ordered depth spans => exact absurd (List.mem_cons_self ..) (noItem ordered depth spans)
    | _ => exact later

/-- Code and rules come back in any order, unless reading replaces a character of the code. -/
theorem parse_render_code_iff {elements : List Element} (own : ∀ element ∈ elements, element = .rule ∨ ∃ text, element = .codeBlock text) :
    parse (render elements) = elements ↔ ∀ text, .codeBlock text ∈ elements → IsClean text.toList := by
  constructor
  · intro same
    rw [← same]
    exact parse_code_clean (render elements)
  · intro clean
    apply parse_render_steady
    constructor
    · intro element among
      rcases own element among with rfl | ⟨text, rfl⟩
      · trivial
      · exact clean text among
    · apply isNested_of_noItem
      intro ordered depth spans among
      rcases own _ among with other | ⟨text, other⟩ <;> cases other

theorem parse_render_code_fences :
    let elements : List Element := [.codeBlock "", .rule, .codeBlock "\n```\n\n    a\n", .codeBlock "````y", .rule, .rule]
    parse (render elements) = elements ∧ parse (render [.codeBlock "a\rb"]) ≠ [.codeBlock "a\rb"] := by
  constructor
  · apply (parse_render_code_iff _).mpr
    · intro text among
      simp only [List.mem_cons, Element.codeBlock.injEq, reduceCtorEq, false_or, or_false, List.not_mem_nil] at among
      rcases among with rfl | rfl | rfl <;> decide
    · simp
  · intro same
    have clean := (parse_render_code_iff (by simp)).mp same "a\rb" (List.mem_singleton_self _)
    exact absurd clean (by decide)

end DocScribe.Markdown
