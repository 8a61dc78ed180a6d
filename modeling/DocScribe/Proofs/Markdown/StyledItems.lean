import DocScribe.Proofs.Markdown.FaithfulSpans
import DocScribe.Proofs.Markdown.ReadingSteps
import DocScribe.Proofs.Markdown.StyledNests

/-! What items show between the marks of nests and inside of links, each character with its style. -/

namespace DocScribe.Markdown
open DocScribe Delimiters InlineReader

/-- Items that show these characters inside of the links, whatever stands behind them. -/
def Shows (links : List String) (items : List Inline) (chars : List (Char × Style)) : Prop :=
  ∀ rest, Piece.ofInlineFrom { links } (items ++ rest) =
    chars.foldr (fun entry => Piece.addText [entry.1] entry.2) (Piece.ofInlineFrom { links } rest)

variable {links : List String} {items more : List Inline} {chars others : List (Char × Style)}

theorem shows_nil : Shows links [] [] := fun _ => rfl

theorem Shows.append (first : Shows links items chars) (second : Shows links more others) :
    Shows links (items ++ more) (chars ++ others) := by
  intro rest
  rw [List.append_assoc, first, second, List.foldr_append]

/-- What plain items show under any styles. -/
theorem ofInlineFrom_plain (plain : ∀ item ∈ items, item.IsPlain) (styles : OpenStyles) (rest : List Inline) :
    Piece.ofInlineFrom styles (items ++ rest) =
      (shownItems items).foldr (fun entry => Piece.addText [entry.1] (styles.style entry.2))
      (Piece.ofInlineFrom styles rest) := by
  induction items with
  | nil => rfl
  | cons item items ih =>
    obtain ⟨own, others⟩ := List.forall_mem_cons.mp plain
    rw [shownItems, List.flatMap_cons, List.foldr_append, ← shownItems, ← ih others, List.foldr_map]
    refine Eq.trans ?_ (Piece.addText_foldr item.contribution.1 (styles.style item.contribution.2) _)
    cases item with
    | text => rfl
    | escaped => rfl
    | hardBreak => rfl
    | code => rfl
    | _ => exact own.elim

/-- The style between the marks of a nest. -/
def Nest.style (nest : Nest) (links : List String) (code : Bool) : Style where
  bold := 2 ≤ nest.stars
  italic := nest.stars % 2 = 1
  strikethrough := nest.tildes
  code := code
  link := links.head?

/-- What is open between stars. -/
private def starred (stars : Nat) (links : List String) : OpenStyles :=
  { strong := if 2 ≤ stars then 1 else 0, emphasis := stars % 2, links }

private theorem ofInlineFrom_openings {stars : Nat} (few : stars ≤ 3) (links : List String) (rest : List Inline) :
    Piece.ofInlineFrom { links } (Nest.openings stars ++ rest) = Piece.ofInlineFrom (starred stars links) rest := by
  match stars with
  | 0 | 1 | 2 | 3 => rfl
  | more + 4 => omega

private theorem ofInlineFrom_closings {stars : Nat} (few : stars ≤ 3) (links : List String) (rest : List Inline) :
    Piece.ofInlineFrom (starred stars links) (Nest.closings stars ++ rest) = Piece.ofInlineFrom { links } rest := by
  match stars with
  | 0 | 1 | 2 | 3 => rfl
  | more + 4 => omega

private theorem ofInlineFrom_inner (nest : Nest) (plain : ∀ item ∈ nest.inside, item.IsPlain) (styles : OpenStyles)
    (none : styles.strike = 0)
    (rest : List Inline) : Piece.ofInlineFrom styles (nest.inner ++ rest) =
      (shownItems nest.inside).foldr (fun entry => Piece.addText [entry.1]
        ({ styles with strike := nest.tildes.toNat }.style entry.2))
        (Piece.ofInlineFrom styles rest) := by
  obtain ⟨strong, emphasis, strike, links⟩ := styles
  subst none
  cases tildes : nest.tildes with
  | false =>
    rw [Nest.inner, tildes]
    simpa using ofInlineFrom_plain plain _ rest
  | true =>
    rw [Nest.inner, tildes]
    simpa using! ofInlineFrom_plain plain ⟨strong, emphasis, 1, links⟩ (.closeMark .strike :: rest)

theorem Nest.shows (nest : Nest) (few : nest.stars ≤ 3) (plain : ∀ item ∈ nest.inside, item.IsPlain) (links : List String) :
    Shows links nest.styled ((shownItems nest.inside).map fun entry => (entry.1, nest.style links entry.2)) := by
  intro rest
  have style (code : Bool) : { starred nest.stars links with strike := nest.tildes.toNat }.style code =
    nest.style links code := by
    have single : (0 < nest.stars % 2) = (nest.stars % 2 = 1) := propext (by omega)
    have double : (0 < if 2 ≤ nest.stars then 1 else 0) = (2 ≤ nest.stars) := propext (by split <;> omega)
    cases tildes : nest.tildes <;> simp [Nest.style, OpenStyles.style, starred, single, double, tildes]
  rw [List.foldr_map, Nest.styled, List.append_assoc, List.append_assoc, ofInlineFrom_openings few,
    ofInlineFrom_inner nest plain _ rfl, ofInlineFrom_closings few]
  simp only [style]

/-- A link shows what its content shows inside of it. -/
theorem Shows.link {target : List Char} (inside : Shows (.ofList target :: links) items chars) :
    Shows links (.openLink target :: (items ++ [.closeLink])) chars := by
  intro rest
  have whole := inside (.closeLink :: rest)
  rw [List.cons_append, List.append_assoc]
  exact whole

end DocScribe.Markdown
