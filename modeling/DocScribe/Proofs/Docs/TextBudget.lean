import DocScribe.Docs.PlainText
import DocScribe.Proofs.Docs.ContentRuns
import DocScribe.Proofs.Outcomes
import DocScribe.Proofs.Text.Octets

/-! Reading a body's text up to a number of octets. The rules say what text the parts of a body have, each by
itself; the reader, which stops as soon as the octets are used up, gives the longest start of just this text. -/

namespace DocScribe.Docs
open DocScribe

/-- The text of the parts of a paragraph. Only text runs have any. -/
inductive PartsRead : List Json → List Char → Prop where
  | nil : PartsRead [] []
  | text {members inner : List (String × Json)} {parts : List Json} {written : String} {rest : List Char}
      (textRun : members.lookup "textRun" = some (.obj inner)) (content : inner.lookup "content" = some (.str written))
      (more : PartsRead parts rest) : PartsRead (.obj members :: parts) (written.toList ++ rest)
  | wordless {members inner : List (String × Json)} {parts : List Json} {rest : List Char}
      (textRun : members.lookup "textRun" = some (.obj inner)) (content : inner.lookup "content" = none)
      (more : PartsRead parts rest) : PartsRead (.obj members :: parts) rest
  | other {members : List (String × Json)} {parts : List Json} {rest : List Char}
      (absent : members.lookup "textRun" = none) (more : PartsRead parts rest) : PartsRead (.obj members :: parts) rest

mutual

inductive ElementReads : Json → List Char → Prop where
  | absent : ElementReads .null []
  | paragraph {members inner : List (String × Json)} {parts : List Json} {text : List Char}
      (found : members.lookup "paragraph" = some (.obj inner)) (listed : Lists "elements" inner parts)
      (read : PartsRead parts text) : ElementReads (.obj members) text
  /-- Rows are separated by line ends. -/
  | table {members inner : List (String × Json)} {rows : List Json} {texts : List (List Char)}
      (noParagraph : members.lookup "paragraph" = none) (found : members.lookup "table" = some (.obj inner))
      (listed : Lists "tableRows" inner rows) (read : RowsRead rows texts) :
      ElementReads (.obj members) (['\n'].intercalate texts)
  | contents {members inner : List (String × Json)} {elements : List Json} {text : List Char}
      (noParagraph : members.lookup "paragraph" = none) (noTable : members.lookup "table" = none)
      (found : members.lookup "tableOfContents" = some (.obj inner)) (listed : Lists "content" inner elements)
      (read : ContentReads elements text) : ElementReads (.obj members) text
  | other {members : List (String × Json)} (noParagraph : members.lookup "paragraph" = none)
      (noTable : members.lookup "table" = none) (noContents : members.lookup "tableOfContents" = none) :
      ElementReads (.obj members) []

inductive ContentReads : List Json → List Char → Prop where
  | nil : ContentReads [] []
  | cons {element : Json} {elements : List Json} {own rest : List Char} (first : ElementReads element own)
      (more : ContentReads elements rest) : ContentReads (element :: elements) (own ++ rest)

/-- The text of each row; cells are separated by tabs. -/
inductive RowsRead : List Json → List (List Char) → Prop where
  | nil : RowsRead [] []
  | cons {members : List (String × Json)} {cells rows : List Json} {texts rest : List (List Char)}
      (listed : Lists "tableCells" members cells) (first : CellsRead cells texts) (more : RowsRead rows rest) :
      RowsRead (.obj members :: rows) (['\t'].intercalate texts :: rest)

inductive CellsRead : List Json → List (List Char) → Prop where
  | nil : CellsRead [] []
  | cons {members : List (String × Json)} {elements cells : List Json} {own : List Char} {rest : List (List Char)}
      (listed : Lists "content" members elements) (first : ContentReads elements own) (more : CellsRead cells rest) :
      CellsRead (.obj members :: cells) (own :: rest)

end

/-- Texts with a separator before each, but before the first only if it is not the first of all. -/
def separated (separator : Char) : (first : Bool) → List (List Char) → List Char
  | _, [] => []
  | first, text :: texts => (if first then [] else [separator]) ++ (text ++ separated separator false texts)

theorem separated_eq (separator : Char) (texts : List (List Char)) :
    separated separator true texts = [separator].intercalate texts := by
  cases texts with
  | nil => rfl
  | cons text texts =>
    induction texts generalizing text with
    | nil => simp [separated]
    | cons second texts ih =>
      have rest := ih second
      rw [List.intercalate_cons_cons, ← rest]
      simp [separated]

/-- Fragments that are all text. -/
def Fragment.Spell (fragments : List Fragment) (text : List Char) : Prop :=
  ∃ pieces : List (List Char), fragments = pieces.map .text ∧ pieces.flatten = text

namespace Fragment
variable {fragments others : List Fragment} {text more : List Char}

theorem Spell.nil : Spell [] [] := ⟨[], rfl, rfl⟩

theorem Spell.single (text : List Char) : Spell [.text text] text := ⟨[text], rfl, by simp⟩

theorem Spell.append (first : Spell fragments text) (second : Spell others more) : Spell (fragments ++ others) (text ++ more) := by
  obtain ⟨pieces, rfl, rfl⟩ := first
  obtain ⟨otherPieces, rfl, rfl⟩ := second
  exact ⟨pieces ++ otherPieces, by simp, by simp⟩

private theorem joined_spell (spelled : Spell fragments text) : joined fragments = .ok text := by
  obtain ⟨pieces, rfl, rfl⟩ := spelled
  have collected : forM (pieces.map Fragment.text) collect = .ok () := by
    induction pieces with
    | nil => rfl
    | cons piece pieces ih =>
      rw [List.map_cons, List.forM_cons, ih]
      rfl
  have concatenated (position : Nat) : concat position (pieces.map .text) = .ok pieces.flatten := by
    clear collected
    induction pieces generalizing position with
    | nil => rfl
    | cons piece pieces ih =>
      rw [List.map_cons, concat, ih]
      rfl
  change (forM (pieces.map Fragment.text) collect >>= fun _ => concat 0 (pieces.map .text)) = _
  rw [collected]
  exact concatenated 0

/-- What is taken from fragments is the start of their text. -/
theorem taken_spell (spelled : Spell fragments text) (budget : Nat) : taken budget fragments = .ok (Text.takeOctets budget text) := by
  obtain ⟨pieces, rfl, rfl⟩ := spelled
  induction pieces generalizing budget with
  | nil => cases budget <;> rfl
  | cons piece pieces ih =>
    rw [List.map_cons, List.flatten_cons, taken]
    cases budget with
    | zero =>
      rw [Text.takeOctets_zero (piece ++ pieces.flatten)]
      rfl
    | succ budget =>
      have left : (budget + 1 == 0) = false := rfl
      simp only [left, Bool.false_eq_true, ↓reduceIte]
      by_cases long : budget + 1 < Text.octetCount piece
      · rw [if_pos long, Text.takeOctets_long long]
        rfl
      · rw [if_neg long, ih, Text.takeOctets_append (Nat.le_of_not_lt long)]
        rfl

private theorem spell_of_concat {position : Nat} (done : concat position fragments = .ok text) : Spell fragments text := by
  induction fragments generalizing position text with
  | nil =>
    cases done
    exact Spell.nil
  | cons fragment fragments ih =>
    cases fragment with
    | unreadable kind => cases done
    | fault cause => cases done
    | text chars =>
      obtain ⟨others, rest, whole⟩ := ok_of_bind done
      cases whole
      exact (Spell.single chars).append (ih rest)

/-- Fragments that can be joined are all text. -/
theorem spell_of_joined (done : joined fragments = .ok text) : Spell fragments text := by
  obtain ⟨_, -, concatenated⟩ := ok_of_bind done
  exact spell_of_concat concatenated

/-- What is taken fits, also where a fragment behind it is no text. -/
theorem octetCount_taken {budget : Nat} (done : taken budget fragments = .ok text) : Text.octetCount text ≤ budget := by
  induction fragments generalizing budget text with
  | nil =>
    cases done
    exact Nat.zero_le _
  | cons fragment fragments ih =>
    cases fragment with
    | fault cause => cases done
    | unreadable kind =>
      rw [taken] at done
      split at done
      · cases done
        exact Nat.zero_le _
      · cases done
    | text chars =>
      rw [taken] at done
      split at done
      · cases done
        exact Nat.zero_le _
      · simp only at done
        split at done
        · cases done
          exact Text.octetCount_takeOctets budget chars
        · next short =>
          obtain ⟨others, rest, whole⟩ := ok_of_bind done
          cases whole
          have fits := ih rest
          rw [Text.octetCount_append]
          omega

end Fragment

namespace Node
open Fragment

private theorem fragments_run {members inner : List (String × Json)} {written : String}
    (textRun : members.lookup "textRun" = some (.obj inner)) (content : inner.lookup "content" = some (.str written)) :
    Spell (Run.ofJson (.obj members)).fragments written.toList := by
  have textThere : inner.isEmpty = false := by
    cases inner with
    | nil => simp at content
    | cons first inner => rfl
  by_cases empty : written = ""
  · have read : Run.ofJson (.obj members) = .silent := by
      simp [Run.ofJson, Json.member, Json.member?, textRun, content, Json.truthy, textThere, empty, bind, Except.bind, pure,
        Except.pure]
    rw [read, empty]
    exact Spell.nil
  · have read : Run.ofJson (.obj members) = .text written (members.lookup "startIndex") := by
      simp [Run.ofJson, Json.member, Json.member?, textRun, content, Json.truthy, textThere, empty, bind, Except.bind, pure,
        Except.pure]
    rw [read]
    exact Spell.single _

private theorem silent_run {members : List (String × Json)}
    (silent : members.lookup "textRun" = none ∨
      ∃ inner, members.lookup "textRun" = some (.obj inner) ∧ inner.lookup "content" = none) :
    Run.ofJson (.obj members) = .silent := by
  rcases silent with absent | ⟨inner, textRun, wordless⟩
  · simp [Run.ofJson, Json.member, Json.member?, absent, Json.truthy, bind, Except.bind, pure, Except.pure]
  · cases inner with
    | nil => simp [Run.ofJson, Json.member, Json.member?, textRun, Json.truthy, bind, Except.bind, pure, Except.pure]
    | cons first inner =>
      simp [Run.ofJson, Json.member, Json.member?, textRun, wordless, Json.truthy, bind, Except.bind, pure, Except.pure]

theorem fragments_parts {parts : List Json} {text : List Char} (read : PartsRead parts text) :
    Spell (fragments (.paragraph (parts.map Run.ofJson))) text := by
  rw [fragments]
  induction read with
  | nil => exact Spell.nil
  | text textRun content more ih => exact (fragments_run textRun content).append ih
  | wordless textRun content more ih =>
    rw [List.map_cons, List.flatMap_cons, silent_run (.inr ⟨_, textRun, content⟩)]
    exact ih
  | other absent more ih =>
    rw [List.map_cons, List.flatMap_cons, silent_run (.inl absent)]
    exact ih

mutual

theorem fragments_reads {element : Json} {text : List Char} (reads : ElementReads element text) :
    Spell (fragments (ofJson element)) text :=
  match reads with
  | .absent => by
    simp only [ofJson]
    exact Spell.nil
  | .paragraph found listed read => by
    rw [ofJson_paragraph found listed]
    exact fragments_parts read
  | .table noParagraph found listed read => by
    rw [ofJson_table noParagraph found listed, ← separated_eq]
    exact rowFragments_reads read true
  | .contents noParagraph noTable found listed read => by
    rw [ofJson_contents noParagraph noTable found listed]
    exact listFragments_reads read
  | .other noParagraph noTable noContents => by
    rw [ofJson_other noParagraph noTable noContents]
    exact Spell.nil
termination_by structural reads

private theorem listFragments_reads {elements : List Json} {text : List Char} (reads : ContentReads elements text) :
    Spell (listFragments (listOfJson elements)) text :=
  match reads with
  | .nil => by
    rw [listOfJson]
    exact Spell.nil
  | .cons first more => by
    rw [listOfJson, listFragments]
    exact (fragments_reads first).append (listFragments_reads more)
termination_by structural reads

theorem rowFragments_reads {rows : List Json} {texts : List (List Char)} (reads : RowsRead rows texts) (first : Bool) :
    Spell (rowFragments first (rowsOfJson rows)) (separated '\n' first texts) :=
  match reads with
  | .nil => by
    rw [rowsOfJson, rowFragments, separated]
    exact Spell.nil
  | .cons listed read more => by
    rw [rowsOfJson_cons listed, rowFragments, separated, List.append_assoc, ← separated_eq]
    refine Spell.append ?_ ((cellFragments_reads read true).append (rowFragments_reads more false))
    cases first
    · exact Spell.single _
    · exact Spell.nil
termination_by structural reads

theorem cellFragments_reads {cells : List Json} {texts : List (List Char)} (reads : CellsRead cells texts) (first : Bool) :
    Spell (cellFragments first (cellsOfJson cells)) (separated '\t' first texts) :=
  match reads with
  | .nil => by
    rw [cellsOfJson, cellFragments, separated]
    exact Spell.nil
  | .cons listed read more => by
    rw [cellsOfJson_cons listed, cellFragments, separated, List.append_assoc]
    refine Spell.append ?_ ((listFragments_reads read).append (cellFragments_reads more false))
    cases first
    · exact Spell.single _
    · exact Spell.nil
termination_by structural reads

end

end Node

/-- The longest start of a text, in whole characters, that takes at most so many octets. -/
structure FillsBudget (budget : Int) (full shown : String) : Prop where
  starts : shown.toList <+: full.toList
  fits : (shown.utf8ByteSize : Int) ≤ budget
  longest : ∀ other : String, other.toList <+: full.toList → (other.utf8ByteSize : Int) ≤ budget → other.toList <+: shown.toList

private theorem fillsBudget_takeOctets {budget : Int} (positive : 0 < budget) (text : List Char) :
    FillsBudget budget (.ofList text) (.ofList (Text.takeOctets budget.toNat text)) := by
  refine ⟨?_, ?_, fun other starts fits => ?_⟩
  · simpa using Text.takeOctets_prefix budget.toNat text
  · have fits := Text.octetCount_takeOctets budget.toNat text
    rw [← Text.octetCount_toList, String.toList_ofList]
    omega
  · rw [← Text.octetCount_toList] at fits
    rw [String.toList_ofList] at starts ⊢
    exact Text.prefix_takeOctets starts (by omega)

theorem FillsBudget.eq {budget : Int} {full shown other : String} (fills : FillsBudget budget full shown)
    (also : FillsBudget budget full other) : shown = other := by
  have first := also.longest shown fills.starts fills.fits
  have second := fills.longest other also.starts also.fits
  exact String.toList_inj.mp (first.eq_of_length_le second.length_le)

/-- A text that is read with a budget fits, and if all of it can be read it is the longest start that does. -/
theorem nodesText_budget {nodes : List Node} {budget : Int} (positive : 0 < budget) {shown : String}
    (read : nodesText nodes budget = .ok shown) :
    (shown.utf8ByteSize : Int) ≤ budget ∧ ∀ full, nodesText nodes 0 = .ok full → FillsBudget budget full shown := by
  rw [nodesText, if_neg (by omega)] at read
  obtain ⟨chars, taken, rfl⟩ := ok_of_map read
  constructor
  · have fits := Fragment.octetCount_taken taken
    rw [← Text.octetCount_toList, String.toList_ofList]
    omega
  · intro full whole
    rw [nodesText, if_pos (Int.le_refl 0)] at whole
    obtain ⟨text, joined, rfl⟩ := ok_of_map whole
    have start := Fragment.taken_spell (Fragment.spell_of_joined joined) budget.toNat
    cases taken.symm.trans start
    exact fillsBudget_takeOctets positive text

/-- A body is read whole, as its parts say, when the budget is no limit. Otherwise the text that is read is the longest
start of the whole one that fits. -/
theorem contentText_budget {elements : List Json} {text : List Char} (reads : ContentReads elements text) :
    contentText (.arr elements) 0 = .ok (.ofList text) ∧
      ∀ budget : Int, ∃ shown, contentText (.arr elements) budget = .ok shown ∧
        (budget ≤ 0 → shown = .ofList text) ∧ (0 < budget → FillsBudget budget (.ofList text) shown) := by
  have spelled := Node.listFragments_reads reads
  have unlimited {budget : Int} (none : budget ≤ 0) : contentText (.arr elements) budget = .ok (.ofList text) := by
    have joined := Fragment.joined_spell spelled
    simp only [contentText, nodesText, Node.contentOfJson, Node.Listing.ofItems, if_pos none, joined]
    rfl
  refine ⟨unlimited (Int.le_refl 0), fun budget => ?_⟩
  by_cases none : budget ≤ 0
  · exact ⟨.ofList text, unlimited none, fun _ => rfl, fun positive => absurd none (by omega)⟩
  · have taken := Fragment.taken_spell spelled budget.toNat
    refine ⟨.ofList (Text.takeOctets budget.toNat text), ?_, fun limit => absurd limit none, fun positive => ?_⟩
    · simp only [contentText, nodesText, Node.contentOfJson, Node.Listing.ofItems, if_neg none, taken]
      rfl
    · exact fillsBudget_takeOctets positive text

/-- The budget ends inside a character of the second cell of a table. -/
theorem contentText_budget_insideCell :
    let paragraph (text : String) : Json :=
      .obj [("paragraph", .obj [("elements", .arr [.obj [("textRun", .obj [("content", .str text)])], .obj []])])]
    let cell (text : String) : Json := .obj [("content", .arr [paragraph text])]
    let rows : List Json := [.obj [("tableCells", .arr [cell "a", cell "😀b"])], .obj [("tableCells", .arr [.obj []])]]
    let elements : List Json :=
      [.obj [("sectionBreak", .obj [])], paragraph "né\n", .obj [("table", .obj [("tableRows", .arr rows)])]]
    contentText (.arr elements) 0 = .ok "né\na\t😀b\n" ∧
      ∃ shown, contentText (.arr elements) 9 = .ok shown ∧ FillsBudget 9 "né\na\t😀b\n" shown := by
  intro paragraph cell rows elements
  have read (text : String) : ElementReads (paragraph text) (text.toList ++ []) :=
    .paragraph rfl (.items rfl) (.text rfl rfl (.other rfl .nil))
  have first : CellsRead [cell "a", cell "😀b"] ["a".toList ++ [] ++ [], "😀b".toList ++ [] ++ []] :=
    .cons (.items rfl) (.cons (read "a") .nil) (.cons (.items rfl) (.cons (read "😀b") .nil) .nil)
  have second : CellsRead [.obj []] [[]] := .cons (.missing rfl) .nil .nil
  have whole : ContentReads elements "né\na\t😀b\n".toList :=
    .cons (.other rfl rfl rfl) (.cons (read "né\n") (.cons (.table rfl rfl (.items rfl)
      (.cons (.items rfl) first (.cons (.items rfl) second .nil))) .nil))
  obtain ⟨unlimited, limited⟩ := contentText_budget whole
  obtain ⟨shown, result, -, fills⟩ := limited 9
  exact ⟨unlimited, shown, result, fills (by decide)⟩

end DocScribe.Docs
