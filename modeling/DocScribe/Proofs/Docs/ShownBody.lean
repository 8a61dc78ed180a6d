import DocScribe.Docs.PlainText
import DocScribe.Proofs.Docs.DocumentService
import DocScribe.Proofs.Docs.MarkerSearch
import DocScribe.Rehearsal.World

/-! What a service shows of a body: where it ends, and its texts in runs that state their indices and cut no
marker. A service that reads the body into the longest runs of text shows it in this way. -/

namespace DocScribe.Docs
open DocScribe

/-- Every body is shown with its true end, and with the texts that it holds at their true indices; a marker
lies in one run. -/
structure DocumentService.ShowsBodies (service : DocumentService) : Prop where
  ends : ∀ body : LiveBody, documentEnd (service.view body) = .ok (.int body.length)
  runs : ∀ body : LiveBody, ∃ runs, DocumentShows (service.view body) runs ∧ RunsOf body.contents runs ∧
    ∀ tag place digits, IsPlainTag tag → AreDigits digits → Spells body.contents place (markerChars tag digits) →
      InOneRun runs place (markerChars tag digits)

open Classical in
/-- The character whose units stand at the start of contents, and what is behind it. -/
noncomputable def readChar? (contents : List SlotContent) : Option (Char × List SlotContent) :=
  if found : ∃ read : Char × List SlotContent, contents = textContents [read.1] ++ read.2 then some found.choose else none

theorem readChar?_sound {contents rest : List SlotContent} {c : Char} (found : readChar? contents = some (c, rest)) :
    contents = textContents [c] ++ rest := by
  unfold readChar? at found
  split at found
  · next read =>
    have chosen := read.choose_spec
    rw [Option.some.inj found] at chosen
    exact chosen
  · cases found

private theorem readChar?_complete (c : Char) (rest : List SlotContent) :
    readChar? (textContents [c] ++ rest) = some (c, rest) := by
  have there : ∃ read : Char × List SlotContent, textContents [c] ++ rest = textContents [read.1] ++ read.2 := ⟨(c, rest), rfl⟩
  have chosen := there.choose_spec
  rw [readChar?, dif_pos there, Option.some.injEq]
  have same : c = there.choose.1 := by
    have first : textContents [c] <+: textContents [c] ++ rest := List.prefix_append _ _
    have second : textContents [there.choose.1] <+: textContents [c] ++ rest := by
      nth_rewrite 2 [chosen]
      exact List.prefix_append _ _
    rcases List.prefix_or_prefix_of_prefix first second with starts | starts
    · exact (List.cons_prefix_cons.mp (prefix_of_textContents starts)).1
    · exact (List.cons_prefix_cons.mp (prefix_of_textContents starts)).1.symm
  rw [← same] at chosen
  exact Prod.ext same.symm (List.append_cancel_left chosen).symm

/-- The longest text at the start of contents, and what is behind it. -/
noncomputable def readText (contents : List SlotContent) : List Char × List SlotContent :=
  match found : readChar? contents with
  | some (c, rest) =>
    have : rest.length < contents.length := by
      rw [readChar?_sound found, List.length_append, length_textContents]
      have := Text.charUnits_pos c
      simp only [Text.listUnits_cons, Text.listUnits_nil]
      omega
    (c :: (readText rest).1, (readText rest).2)
  | none => ([], contents)
termination_by contents.length

private theorem readText_char (c : Char) (rest : List SlotContent) :
    readText (textContents [c] ++ rest) = (c :: (readText rest).1, (readText rest).2) := by
  rw [readText]
  split
  · next first behind found =>
    obtain ⟨rfl, rfl⟩ := Prod.mk.inj (Option.some.inj ((readChar?_complete c rest).symm.trans found))
    rfl
  · next none =>
    rw [readChar?_complete] at none
    cases none

private theorem readText_none {contents : List SlotContent} (none : readChar? contents = none) : readText contents = ([], contents) := by
  rw [readText]
  split
  · next first behind found =>
    rw [none] at found
    cases found
  · rfl

theorem readText_sound (contents : List SlotContent) :
    contents = textContents (readText contents).1 ++ (readText contents).2 := by
  induction contents using readText.induct with
  | case1 contents c rest found smaller ih =>
    have whole : textContents (c :: (readText rest).1) = textContents [c] ++ textContents (readText rest).1 :=
      textContents_append [c] _
    rw [readChar?_sound found, readText_char]
    simp only
    rw [whole, List.append_assoc, ← ih]
  | case2 contents none => rw [readText_none none, textContents_nil, List.nil_append]

private theorem readText_longest {text : List Char} {contents : List SlotContent} (starts : textContents text <+: contents) :
    text <+: (readText contents).1 := by
  induction text generalizing contents with
  | nil => exact List.nil_prefix
  | cons c text ih =>
    obtain ⟨rest, rfl⟩ := starts
    rw [← List.singleton_append, textContents_append, List.append_assoc, readText_char]
    exact List.cons_prefix_cons.mpr ⟨rfl, ih (List.prefix_append _ _)⟩

/-- The longest texts in contents that start at an index, one run for each. -/
noncomputable def textRuns (start : Nat) : List SlotContent → List TextRun
  | [] => []
  | slot :: more =>
    if none : (readText (slot :: more)).1 = [] then textRuns (start + 1) more
    else
      have : (readText (slot :: more)).2.length < (slot :: more).length := by
        have size := congrArg List.length (readText_sound (slot :: more))
        have := Text.listUnits_eq_zero.not.mpr none
        rw [List.length_append, length_textContents] at size
        omega
      ⟨start, .ofList (readText (slot :: more)).1⟩ ::
        textRuns (start + Text.listUnits (readText (slot :: more)).1) (readText (slot :: more)).2
termination_by contents => contents.length
decreasing_by
  · exact Nat.lt_succ_self more.length
  · exact this

theorem textRuns_empty (start : Nat) {slot : SlotContent} {more : List SlotContent}
    (none : (readText (slot :: more)).1 = []) : textRuns start (slot :: more) = textRuns (start + 1) more := by
  rw [textRuns, dif_pos none]

theorem textRuns_text (start : Nat) {slot : SlotContent} {more : List SlotContent}
    (some : (readText (slot :: more)).1 ≠ []) :
    textRuns start (slot :: more) =
      ⟨start, .ofList (readText (slot :: more)).1⟩ ::
        textRuns (start + Text.listUnits (readText (slot :: more)).1) (readText (slot :: more)).2 := by
  rw [textRuns, dif_neg some]

private theorem textRuns_start (start : Nat) (contents : List SlotContent) :
    (∀ run ∈ textRuns start contents, run.text ≠ "" ∧ start ≤ run.start) ∧
      (textRuns start contents).Pairwise fun first second => first.start + Text.units first.text ≤ second.start := by
  induction start, contents using textRuns.induct with
  | case1 start => simp [textRuns]
  | case2 start slot more none ih =>
    rw [textRuns_empty start none]
    exact ⟨fun run member => ⟨(ih.1 run member).1, Nat.le_of_succ_le (ih.1 run member).2⟩, ih.2⟩
  | case3 start slot more some smaller ih =>
    rw [textRuns_text start some]
    refine ⟨fun run member => ?_, List.pairwise_cons.mpr ⟨fun run member => ?_, ih.2⟩⟩
    · rcases List.mem_cons.mp member with rfl | later
      · exact ⟨fun empty => some (String.ofList_eq_empty_iff.mp empty), Nat.le_refl _⟩
      · exact ⟨(ih.1 run later).1, by have := (ih.1 run later).2; omega⟩
    · simpa [Text.units] using (ih.1 run member).2

private theorem textRuns_spelled {start : Nat} (contents front : List SlotContent)
    (place : front.length = start) :
    ∀ run ∈ textRuns start contents, Spells (front ++ contents) run.start run.text.toList := by
  induction start, contents using textRuns.induct generalizing front with
  | case1 start => simp [textRuns]
  | case2 start slot more none ih =>
    rw [textRuns_empty start none]
    have rest := ih (front ++ [slot]) (by simp [place])
    rwa [List.append_assoc] at rest
  | case3 start slot more some smaller ih =>
    rw [textRuns_text start some]
    have split := readText_sound (slot :: more)
    intro run member
    rcases List.mem_cons.mp member with rfl | later
    · rw [Spells, ← place, List.drop_left, String.toList_ofList]
      nth_rewrite 2 [split]
      exact List.prefix_append _ _
    · have rest := ih (front ++ textContents (readText (slot :: more)).1) (by simp [place]) run later
      rwa [List.append_assoc, ← split] at rest

/-- A bracket stands for itself only, so in a text it is a character of its own. -/
theorem bracket_inside {written text : List Char} {rest : List SlotContent} {place : Nat}
    (inside : place < Text.listUnits written)
    (starts : textContents ('[' :: text) <+: (textContents written ++ rest).drop place) :
    ∃ left, Text.listUnits left = place ∧ textContents (left ++ '[' :: text) <+: textContents written ++ rest := by
  have bounded : place < (textContents written).length := by simpa using inside
  have bracket : (textContents written).drop place = .code 91 :: (textContents written).drop (place + 1) := by
    rw [List.drop_append_of_le_length (by omega), List.drop_eq_getElem_cons bounded] at starts
    rw [List.drop_eq_getElem_cons bounded]
    exact congrArg (· :: _) (List.cons_prefix_cons.mp starts).1.symm
  have split : textContents written =
      (textContents written).take place ++ (textContents ['['] ++ (textContents written).drop (place + 1)) := by
    nth_rewrite 1 [← List.take_append_drop place (textContents written)]
    rw [bracket]
    rfl
  obtain ⟨left, right, rfl, front⟩ := textContents_aligned (by simp) split
  have size : Text.listUnits left = place := by
    rw [← length_textContents, front, List.length_take]
    omega
  refine ⟨left, size, ?_⟩
  rw [textContents_append, textContents_append, List.append_assoc]
  refine (List.prefix_append_right_inj _).mpr ?_
  rwa [textContents_append, List.append_assoc, ← size, ← length_textContents, List.drop_left] at starts

private theorem textRuns_whole {start : Nat} (contents front : List SlotContent)
    (before : front.length = start) {place : Nat} {text : List Char} (behind : start ≤ place)
    (spells : Spells (front ++ contents) place ('[' :: text)) :
    InOneRun (textRuns start contents) place ('[' :: text) := by
  -- along the runs: `front` is what they have left behind
  induction start, contents using textRuns.induct generalizing front with
  | case1 start =>
    rw [Spells, List.append_nil, List.drop_eq_nil_of_le (before ▸ behind), List.prefix_nil, textContents_eq_nil] at spells
    cases spells
  | case2 start slot more none ih =>
    rw [textRuns_empty start none]
    have later : start ≠ place := by
      rintro rfl
      rw [Spells, ← before, List.drop_left] at spells
      have longer := readText_longest spells
      rw [none, List.prefix_nil] at longer
      cases longer
    exact ih (front ++ [slot]) (by simp [before]) (by omega) (by rwa [List.append_assoc])
  | case3 start slot more some smaller ih =>
    rw [textRuns_text start some]
    have split := readText_sound (slot :: more)
    generalize readText_eq : readText (slot :: more) = read at split ih ⊢
    obtain ⟨written, rest⟩ := read
    simp only at split ih ⊢
    by_cases inside : place < start + Text.listUnits written
    · have starts : textContents ('[' :: text) <+: (textContents written ++ rest).drop (place - start) := by
        rw [← split]
        rwa [Spells, ← Nat.add_sub_cancel' behind, ← List.drop_drop, ← before, List.drop_left, before] at spells
      obtain ⟨left, size, whole⟩ := bracket_inside (by omega) starts
      rw [← split] at whole
      have longer := readText_longest whole
      rw [readText_eq] at longer
      obtain ⟨right, same⟩ := longer
      have units := congrArg Text.listUnits same
      rw [Text.listUnits_append, Text.listUnits_append] at units
      simp only at units
      exact ⟨_, List.mem_cons_self, behind, by simp only [Text.units, String.toList_ofList]; omega⟩
    · have found := ih (front ++ textContents written) (by simp [before]) (by omega)
        (by rwa [List.append_assoc, ← split])
      obtain ⟨run, member, first, last⟩ := found
      exact ⟨run, List.mem_cons_of_mem _ member, first, last⟩

def TextRun.toJson (run : TextRun) : Json :=
  .obj [("startIndex", .int run.start), ("textRun", .obj [("content", .str run.text)])]

/-- A document of one paragraph, which ends at an index and holds runs. -/
def paragraphJson (stop : Nat) (runs : List TextRun) : Json :=
  .obj [("body", .obj [("content", .arr [.obj [("endIndex", .int stop),
    ("paragraph", .obj [("elements", .arr (runs.map TextRun.toJson))])]])])]

theorem paragraphJson_shows (stop : Nat) {runs : List TextRun} (written : ∀ run ∈ runs, run.text ≠ "") :
    DocumentShows (paragraphJson stop runs) runs := by
  have parts : PartsShow (runs.map TextRun.toJson) runs := by
    induction runs with
    | nil => exact .nil
    | cons run runs ih =>
      exact .text run rfl rfl (written run (by simp)) rfl (ih fun other member => written other (by simp [member]))
  let element : List (String × Json) :=
    [("endIndex", .int stop), ("paragraph", .obj [("elements", .arr (runs.map TextRun.toJson))])]
  have paragraph : ElementShows (.obj element) runs := .paragraph rfl (.items rfl) parts
  have body : BodyShows (.obj [("content", .arr [.obj element])]) (runs ++ []) := .content (.items rfl) (.cons paragraph .nil)
  have whole : DocumentShows (paragraphJson stop runs) (runs ++ [] ++ []) := .document body (.missing rfl) .nil
  simpa using whole

private theorem paragraphJson_end (stop : Nat) (runs : List TextRun) : documentEnd (paragraphJson stop runs) = .ok (.int stop) := rfl

noncomputable def LiveBody.toJson (body : LiveBody) : Json := paragraphJson body.length (textRuns 0 body.contents)

theorem DocumentService.showsBodies_toJson {service : DocumentService} (view : service.view = LiveBody.toJson) :
    service.ShowsBodies := by
  constructor
  · intro body
    rw [view]
    exact paragraphJson_end _ _
  · intro body
    have starts := textRuns_start 0 body.contents
    refine ⟨textRuns 0 body.contents, ?_, ⟨?_, starts.2⟩, fun tag place digits _ _ spells => ?_⟩
    · rw [view]
      exact paragraphJson_shows _ fun run member => (starts.1 run member).1
    · exact textRuns_spelled body.contents [] rfl
    · exact textRuns_whole body.contents [] rfl (Nat.zero_le place) spells

/-- A service that shows its document as one paragraph, and stores some characters. -/
noncomputable def DocumentService.showing (keeps : Char → Bool) : DocumentService where
  documentId := .str "document"
  keeps := keeps
  view := LiveBody.toJson
  receipt := fun _ => .obj []
  elsewhere := fun question => (Rehearsal.World.answer {} question).1

theorem DocumentService.showing_showsBodies (keeps : Char → Bool) : (showing keeps).ShowsBodies := showsBodies_toJson rfl

end DocScribe.Docs
