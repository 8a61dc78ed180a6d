import DocScribe.Markdown.BlockReader
import DocScribe.Markdown.Render
import DocScribe.Proofs.Text.Separated

/-! A page of blocks with an empty line between them comes apart into the lines of its blocks, and a run
of blocks is read one block after the other. -/

namespace DocScribe.Markdown
open DocScribe

-- Without these, the characters that exist may be gone through instead of those of the text.
instance (priority := high) decidableForallMem {p : Char → Prop} [DecidablePred p] (text : List Char) : Decidable (∀ c ∈ text, p c) :=
  List.decidableBAll p text

instance (priority := high) decidableForallSome {p : Char → Prop} [DecidablePred p] (found : Option Char) :
    Decidable (∀ c ∈ found, p c) :=
  Option.decidableForallMem found

/-- Free of the characters that reading a text does not leave as they are. -/
def IsClean (text : List Char) : Prop := ∀ c ∈ text, c ≠ '\r' ∧ c ≠ Char.ofNat 0

instance : DecidablePred IsClean := fun text =>
  inferInstanceAs (Decidable (∀ c ∈ text, c ≠ '\r' ∧ c ≠ Char.ofNat 0))

theorem IsClean.append {text more : List Char} (first : IsClean text) (rest : IsClean more) :
    IsClean (text ++ more) := by
  intro c among
  rcases List.mem_append.mp among with inside | inside
  · exact first c inside
  · exact rest c inside

theorem isClean_replicate {c : Char} (count : Nat) (own : c ≠ '\r' ∧ c ≠ Char.ofNat 0) : IsClean (List.replicate count c) := by
  intro d among
  rwa [List.eq_of_mem_replicate among]

theorem isClean_joinWith {separator : List Char} {texts : List (List Char)} (between : IsClean separator)
    (clean : ∀ text ∈ texts, IsClean text) : IsClean (Text.joinWith separator texts) := by
  intro c among
  rcases Text.mem_joinWith among with inside | ⟨text, member, inside⟩
  · exact between c inside
  · exact clean text member c inside

private theorem normalize_clean {text : List Char} (clean : IsClean text) : Line.ofText.normalize text = text := by
  induction text with
  | nil => rfl
  | cons c rest ih =>
    obtain ⟨noReturn, noAnchor⟩ := clean c (List.mem_cons_self ..)
    rw [Line.ofText.normalize, ih fun other among => clean other (List.mem_cons_of_mem _ among)]
    · simp [noAnchor]
    · exact fun _ same _ => noReturn same
    · exact fun same => noReturn same

theorem isClean_normalize (text : List Char) : IsClean (Line.ofText.normalize text) := by
  fun_induction Line.ofText.normalize text with
  | case1 => exact List.forall_mem_nil _
  | case2 rest ih => exact List.forall_mem_cons.mpr ⟨by decide, ih⟩
  | case3 rest _ ih => exact List.forall_mem_cons.mpr ⟨by decide, ih⟩
  | case4 c rest _ other ih =>
    refine List.forall_mem_cons.mpr ⟨?_, ih⟩
    split
    · decide
    next kept => exact ⟨fun same => other same, by simpa using kept⟩

theorem ofChars_started {text : List Char} (first : ∀ c ∈ text.head?, Text.isIndent c = false) :
    Line.ofChars text = ⟨text, 0, 0, 0⟩ := by
  have none : text.takeWhile Text.isIndent = [] := by
    cases text with
    | nil => rfl
    | cons c rest => simp [first c rfl]
  simp [Line.ofChars, Line.contentColumn, none]

def textLines (text : List Char) : List Line := (Text.splitAt '\n' text).map Line.ofChars

/-- The lines of blocks with an empty line between neighbours. -/
def pageLines (blocks : List (List Char)) : List Line := [Line.ofChars []].intercalate (blocks.map textLines)

theorem pageLines_singleton (text : List Char) : pageLines [text] = textLines text :=
  List.intercalate_singleton

theorem pageLines_cons (text second : List Char) (rest : List (List Char)) :
    pageLines (text :: second :: rest) = textLines text ++ Line.ofChars [] :: pageLines (second :: rest) := by
  simp only [pageLines, List.map_cons, List.intercalate_cons_cons, List.append_assoc, List.singleton_append]

private theorem textLines_page {blocks : List (List Char)} (some : blocks ≠ []) :
    textLines (Text.joinWith ['\n', '\n'] blocks) = pageLines blocks := by
  induction blocks with
  | nil => exact absurd rfl some
  | cons text rest ih =>
    cases rest with
    | nil => rw [pageLines_singleton, Text.joinWith, List.intercalate_singleton]
    | cons second rest =>
      have joined := ih (List.cons_ne_nil _ _)
      rw [pageLines_cons, ← joined, Text.joinWith, List.intercalate_cons_cons, List.append_assoc]
      simp only [textLines, List.cons_append, List.nil_append, Text.splitAt_append, List.map_append,
        Text.splitAt_cons_separator, List.map_cons]
      rfl

theorem ofText_page {blocks : List (List Char)} (some : blocks ≠ [])
    (clean : ∀ text ∈ blocks, IsClean text) :
    Line.ofText (Text.joinWith ['\n', '\n'] blocks ++ ['\n']) = pageLines blocks := by
  have whole : IsClean (Text.joinWith ['\n', '\n'] blocks ++ ['\n']) := (isClean_joinWith (by decide) clean).append (by decide)
  have parts : Text.splitAt '\n' (Text.joinWith ['\n', '\n'] blocks ++ ['\n']) =
      Text.splitAt '\n' (Text.joinWith ['\n', '\n'] blocks) ++ [[]] := Text.splitAt_append ..
  rw [Line.ofText, normalize_clean whole, parts]
  simp only [List.getLast?_concat, List.all_nil, ↓reduceIte, List.dropLast_concat]
  exact textLines_page some

end DocScribe.Markdown
