import DocScribe.Markdown.Flatten
import DocScribe.Markdown.Task
import DocScribe.Proofs.Text.Occurrence
import Mathlib.Data.List.Chain

/-! Pieces hold all that inline content shows, character by character and in its order, each character with the styles
that are open where it stands, and no two spans side by side could have been one. -/

namespace DocScribe.Markdown
open DocScribe

/-- What content shows in one place. -/
inductive Atom where
  | char (c : Char) (style : Style)
  | image (source : String) (isRemote : Bool) (alt : String)
  deriving DecidableEq

def Piece.atoms : Piece → List Atom
  | .span run => run.text.toList.map (.char · run.style)
  | .image source isRemote alt => [.image source isRemote alt]

/-- How many marks of a style are open behind these items. A closing mark counts only if one is open. -/
def openMarks (mark : Mark) (before : List Inline) : Nat :=
  before.foldl (fun count item =>
    if item = .openMark mark then count + 1 else if item = .closeMark mark then count - 1 else count) 0

/-- The targets of the links that are open behind these items, the innermost first. -/
def openLinks (before : List Inline) : List String :=
  before.foldl (fun links item => match item with
    | .openLink target => .ofList target :: links
    | .closeLink => links.tail
    | _ => links) []

def styleBehind (before : List Inline) (code : Bool) : Style where
  bold := 0 < openMarks .strong before
  italic := 0 < openMarks .emphasis before
  strikethrough := 0 < openMarks .strike before
  code := code
  link := (openLinks before).head?

/-- HTML that is the checkbox of a task. -/
def IsCheckbox (source : List Char) : Prop := "class=\"task-list-item-checkbox\"".toList <:+: source

def IsChecked (source : List Char) : Prop := "checked=\"checked\"".toList <:+: source

instance : DecidablePred IsCheckbox := fun _ => inferInstanceAs (Decidable (_ <:+: _))

instance : DecidablePred IsChecked := fun _ => inferInstanceAs (Decidable (_ <:+: _))

/-- What HTML shows: a ballot box for a checkbox, and else itself. -/
def shownHtml (source : List Char) : List Char :=
  if IsCheckbox source then [if IsChecked source then '☑' else '☐'] else source

/-- What an item shows behind these items. -/
def Inline.atoms (before : List Inline) : Inline → List Atom
  | .text chars => chars.map (.char · (styleBehind before false))
  | .escaped chars => chars.map (.char · (styleBehind before false))
  | .softBreak => [.char ' ' (styleBehind before false)]
  | .hardBreak => [.char '\n' (styleBehind before false)]
  | .code chars => chars.map (.char · (styleBehind before true))
  | .html source => (shownHtml source).map (.char · (styleBehind before false))
  | .image source alt =>
    if source = [] then [] else [.image (.ofList source) (isRemoteRef (.ofList source)) (.ofList alt)]
  | .openMark _ => []
  | .closeMark _ => []
  | .openLink _ => []
  | .closeLink => []

/-- What items show, each one behind all that stand before it. -/
def atomsBehind (before : List Inline) : List Inline → List Atom
  | [] => []
  | item :: rest => item.atoms before ++ atomsBehind (before ++ [item]) rest

/-- A piece that cannot be joined with the one behind it. -/
def Piece.StandsApart : Piece → Piece → Prop
  | .span first, .span second => first.style ≠ second.style
  | _, _ => True

/-- Spans that have text, and of which no two in a row have the same style. -/
structure Piece.Merged (pieces : List Piece) : Prop where
  filled : ∀ span, .span span ∈ pieces → span.text ≠ ""
  apart : pieces.IsChain Piece.StandsApart

section Checkboxes

private theorem htmlText_eq (source : List Char) : htmlText source = shownHtml source := by
  simp only [htmlText, shownHtml, Text.occursIn_iff]
  rfl

/-- The box of a task shows as a ballot box, which is checked unless it holds a space. -/
theorem htmlText_checkbox (mark : Char) (text : List Char) :
    htmlText (Task.checkbox ('[' :: mark :: ']' :: ' ' :: text)) = [if mark = ' ' then '☐' else '☑'] := by
  by_cases empty : mark = ' '
  · subst empty
    have box : Task.checkbox ('[' :: ' ' :: ']' :: ' ' :: text) = Task.checkbox "[ ] ".toList := rfl
    rw [box, if_pos rfl]
    decide +kernel
  · have box : Task.checkbox ('[' :: mark :: ']' :: ' ' :: text) = Task.checkbox "[x] ".toList := by
      simp [Task.checkbox, empty]
    rw [box, if_neg empty]
    decide +kernel

end Checkboxes

section Styles

private theorem openMarks_concat (mark : Mark) (before : List Inline) (item : Inline) : openMarks mark (before ++ [item]) =
    if item = .openMark mark then openMarks mark before + 1
    else if item = .closeMark mark then openMarks mark before - 1 else openMarks mark before :=
  List.foldl_concat ..

private theorem openLinks_concat (before : List Inline) (item : Inline) : openLinks (before ++ [item]) = match item with
    | .openLink target => .ofList target :: openLinks before
    | .closeLink => (openLinks before).tail
    | _ => openLinks before :=
  List.foldl_concat ..

/-- What the pass has counted behind these items. -/
def OpenStyles.behind (before : List Inline) : OpenStyles where
  strong := openMarks .strong before
  emphasis := openMarks .emphasis before
  strike := openMarks .strike before
  links := openLinks before

theorem OpenStyles.after_behind (before : List Inline) (item : Inline) :
    (behind before).after item = behind (before ++ [item]) := by
  unfold behind
  rw [openMarks_concat, openMarks_concat, openMarks_concat, openLinks_concat]
  cases item with
  | openMark mark => cases mark <;> rfl
  | closeMark mark => cases mark <;> rfl
  | _ => rfl

end Styles

namespace Piece
variable {pieces : List Piece}

private theorem addText_cons (c : Char) {chars : List Char} (some : chars ≠ []) (style : Style) (pieces : List Piece) :
    addText (c :: chars) style pieces = addText [c] style (addText chars style pieces) := by
  have whole : String.ofList (c :: chars) = String.ofList [c] ++ String.ofList chars := by
    rw [← String.ofList_append]
    rfl
  have filled : chars.isEmpty = false := List.isEmpty_eq_false_iff.mpr some
  cases pieces with
  | nil => simp [addText, filled, whole]
  | cons piece pieces =>
    cases piece with
    | image => simp [addText, filled, whole]
    | span next =>
      by_cases same : next.style = style
      · simp [addText, filled, same, String.append_assoc]
      · simp [addText, filled, same, whole]

theorem addText_foldr (chars : List Char) (style : Style) (pieces : List Piece) :
    addText chars style pieces = chars.foldr (fun c => addText [c] style) pieces := by
  induction chars with
  | nil => rfl
  | cons c chars ih =>
    cases chars with
    | nil => rfl
    | cons d chars => rw [addText_cons c (List.cons_ne_nil d chars), ih, ← List.foldr_cons (f := fun c => addText [c] style)]

private theorem addText_atoms (text : List Char) (style : Style) (pieces : List Piece) :
    (addText text style pieces).flatMap atoms = text.map (.char · style) ++ pieces.flatMap atoms := by
  cases text with
  | nil => rfl
  | cons c text =>
    cases pieces with
    | nil => simp [addText, atoms]
    | cons piece pieces =>
      cases piece with
      | image => simp [addText, atoms]
      | span next =>
        by_cases same : next.style = style
        · simp [addText, atoms, same]
        · simp [addText, atoms, same]

theorem Merged.span {text : List Char} {style : Style} (merged : Merged pieces) (some : text ≠ [])
    (differs : ∀ next ∈ pieces.head?, StandsApart (.span ⟨.ofList text, style⟩) next) :
    Merged (.span ⟨.ofList text, style⟩ :: pieces) where
  filled := by
    intro span among
    rcases List.mem_cons.mp among with same | among
    · cases same
      simpa using some
    · exact merged.filled span among
  apart := List.isChain_cons.mpr ⟨differs, merged.apart⟩

theorem Merged.join {text : List Char} {next : Span} {rest : List Piece} (merged : Merged (.span next :: rest)) :
    Merged (.span ⟨.ofList text ++ next.text, next.style⟩ :: rest) where
  filled := by
    intro span among
    rcases List.mem_cons.mp among with same | among
    · cases same
      have own := merged.filled next List.mem_cons_self
      intro empty
      exact own (String.append_eq_empty_iff.mp empty).2
    · exact merged.filled span (List.mem_cons_of_mem _ among)
  apart := by
    obtain ⟨differs, apart⟩ := List.isChain_cons.mp merged.apart
    refine List.isChain_cons.mpr ⟨fun other first => ?_, apart⟩
    have := differs other first
    cases other with
    | span => exact this
    | image => trivial

theorem Merged.addText (merged : Merged pieces) (text : List Char) (style : Style) :
    Merged (addText text style pieces) := by
  unfold Piece.addText
  split
  · exact merged
  · rename_i filled
    have some : text ≠ [] := by simpa using filled
    cases pieces with
    | nil => exact merged.span some fun _ first => by cases first
    | cons piece rest =>
      cases piece with
      | image =>
        refine merged.span some fun _ first => ?_
        cases first
        trivial
      | span next =>
        dsimp only
        split
        · rename_i same
          rw [← eq_of_beq same]
          exact merged.join
        · rename_i other
          refine merged.span some fun _ first => ?_
          cases first
          exact fun same => other (beq_iff_eq.mpr same.symm)

theorem Merged.image (merged : Merged pieces) (source : String) (isRemote : Bool) (alt : String) :
    Merged (.image source isRemote alt :: pieces) where
  filled := by
    intro span among
    rcases List.mem_cons.mp among with same | among
    · cases same
    · exact merged.filled span among
  apart := List.isChain_cons.mpr ⟨fun _ _ => trivial, merged.apart⟩

theorem ofInlineFrom_merged (styles : OpenStyles) (items : List Inline) : Merged (ofInlineFrom styles items) := by
  induction items generalizing styles with
  | nil => exact ⟨nofun, .nil⟩
  | cons item items ih =>
    have later := ih (styles.after item)
    cases item with
    | image source alt =>
      rw [ofInlineFrom]
      split
      · exact later
      · exact later.image ..
    | _ => exact later.addText ..

private theorem ofInlineFrom_atoms (before items : List Inline) :
    (ofInlineFrom (.behind before) items).flatMap atoms = atomsBehind before items := by
  induction items generalizing before with
  | nil => rfl
  | cons item items ih =>
    have later := ih (before ++ [item])
    rw [atomsBehind, ← later, ← OpenStyles.after_behind]
    cases item with
    | image source alt =>
      rw [ofInlineFrom, Inline.atoms]
      cases source <;> simp [atoms]
    | html source =>
      rw [Inline.atoms, ← htmlText_eq]
      exact addText_atoms ..
    | _ => exact addText_atoms ..

/-- Content is shown as a whole, in order and in the right style, by as few spans as can be. -/
theorem ofInline_faithful (items : List Inline) :
    (ofInline items).flatMap atoms = atomsBehind [] items ∧ Merged (ofInline items) :=
  ⟨ofInlineFrom_atoms [] items, ofInlineFrom_merged {} items⟩

/-- Links and marks that cross each other, a mark that closes nothing, and an image without a source. -/
example : ofInline [.closeMark .strong, .openMark .strong, .text ['a'], .openMark .strong, .image [] ['x'], .softBreak,
      .closeMark .strong, .code ['b'], .openLink ['u'], .closeMark .strong, .text ['c'], .closeLink, .closeLink] =
    [.span ⟨"a ", { bold := true }⟩, .span ⟨"b", { bold := true, code := true }⟩, .span ⟨"c", { link := some "u" }⟩] := by
  decide

end Piece

end DocScribe.Markdown
