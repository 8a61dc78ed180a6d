import DocScribe.Markdown.Task
import DocScribe.Proofs.Markdown.BlockStarts
import DocScribe.Proofs.Markdown.SpanCores

/-! A guarded text starts no block and shows the same characters. -/

namespace DocScribe.Markdown
open DocScribe BlockStart

/-- The digits at the start of a text, with the sign behind them escaped. -/
theorem legible_guardDigits {digits after tail : List Char} {sign : Char} {shown : List (Char × Bool)}
    (isDigit : ∀ c ∈ digits, Text.isDigit c = true) (isSign : sign = '.' ∨ sign = ')')
    (legible : Legible tail (digits ++ sign :: after) shown) : Legible tail (digits ++ '\\' :: sign :: after) shown := by
  induction digits generalizing shown with
  | nil =>
    have printed : Text.isAsciiPunctuation sign = true := by rcases isSign with rfl | rfl <;> decide
    rw [List.nil_append] at legible
    generalize whole : sign :: after = text at legible
    cases legible with
    | nil => cases whole
    | literal own more =>
      cases whole
      exact .escaped printed more
    | escaped mark more =>
      obtain ⟨rfl, -⟩ := List.cons.inj whole
      exact absurd isSign (by decide)
    | lineEnd starts more =>
      obtain ⟨rfl, -⟩ := List.cons.inj whole
      exact absurd isSign (by decide)
    | code valid apart more =>
      obtain ⟨rfl, -⟩ := List.cons.inj whole
      exact absurd isSign (by decide)
  | cons c digits ih =>
    have own := isDigit c (List.mem_cons_self ..)
    rw [List.cons_append] at legible
    generalize whole : c :: (digits ++ sign :: after) = text at legible
    cases legible with
    | nil => cases whole
    | literal harmless more =>
      cases whole
      refine .literal ⟨harmless.1, ?_, ?_⟩ (ih (fun other among => isDigit other (List.mem_cons_of_mem _ among)) more)
      · rintro rfl
        exact absurd own (by decide)
      · rintro rfl
        exact absurd own (by decide)
    | escaped mark more =>
      obtain ⟨rfl, -⟩ := List.cons.inj whole
      exact absurd own (by decide)
    | lineEnd starts more =>
      obtain ⟨rfl, -⟩ := List.cons.inj whole
      exact absurd own (by decide)
    | code valid apart more =>
      obtain ⟨rfl, -⟩ := List.cons.inj whole
      exact absurd own (by decide)

/-- Digits and the sign behind them, at the start of a text. -/
structure StartsNumber (text digits : List Char) (sign : Char) (after : List Char) : Prop where
  split : text = digits ++ sign :: after
  some : digits ≠ []
  isDigit : ∀ c ∈ digits, Text.isDigit c = true
  isSign : sign = '.' ∨ sign = ')'

private theorem guardStart_number {text digits after : List Char} {sign : Char} (number : StartsNumber text digits sign after) :
    Render.guardStart text = digits ++ '\\' :: sign :: after := by
  obtain ⟨rfl, some, isDigit, isSign⟩ := number
  have noDigit : Text.isDigit sign = false := by rcases isSign with rfl | rfl <;> decide
  have run : (digits ++ sign :: after).takeWhile Text.isDigit = digits := by
    rw [List.takeWhile_append_of_pos isDigit]
    simp [noDigit]
  have noMark : ∀ c ∈ "#>+-=".toList, Text.isDigit c = false := by decide
  obtain ⟨c, digits, rfl⟩ := List.exists_cons_of_ne_nil some
  have own : "#>+-=".toList.contains c = false := by
    refine Bool.eq_false_iff.mpr fun among => ?_
    have := noMark c (List.contains_iff_mem.mp among)
    simp [isDigit c (List.mem_cons_self ..)] at this
  have signs : (sign == '.' || sign == ')') = true := by simpa using isSign
  unfold Render.guardStart
  simp only [List.cons_append] at run ⊢
  simp only [own, Bool.false_eq_true, ↓reduceIte, run]
  simp [signs]

private theorem guardStart_plain {text : List Char} (unmarked : ∀ c ∈ text.head?, c ∉ "#>+-=".toList)
    (noNumber : ∀ digits sign after, ¬ StartsNumber text digits sign after) : Render.guardStart text = text := by
  cases text with
  | nil => rfl
  | cons c rest =>
    have own : "#>+-=".toList.contains c = false :=
      Bool.eq_false_iff.mpr fun among => unmarked c rfl (List.contains_iff_mem.mp among)
    unfold Render.guardStart
    simp only [own, Bool.false_eq_true, ↓reduceIte]
    split
    · next sign after split =>
      split
      · next number =>
        simp only [Bool.and_eq_true, Bool.or_eq_true, beq_iff_eq, Bool.not_eq_true', List.isEmpty_eq_false_iff] at number
        refine absurd ⟨?_, number.1, fun d among => ?_, number.2⟩ (noNumber ((c :: rest).takeWhile Text.isDigit) sign after)
        · have run := List.prefix_iff_eq_take.mp (List.takeWhile_prefix (l := c :: rest) Text.isDigit)
          have whole := List.take_append_drop ((c :: rest).takeWhile Text.isDigit).length (c :: rest)
          rw [← run, split] at whole
          exact whole.symm
        · exact List.all_eq_true.mp (List.all_takeWhile (l := c :: rest) (p := Text.isDigit)) d among
      · rfl
    · rfl

private theorem guardStart_marked {c : Char} (rest : List Char) (marked : c ∈ "#>+-=".toList) :
    Render.guardStart (c :: rest) = '\\' :: c :: rest := by
  simp only [Render.guardStart, List.contains_iff_mem.mpr marked, ↓reduceIte]

/-- A text and what is written for it: the sign behind a number is guarded, a mark, or nothing. -/
inductive Guards : (text written : List Char) → Prop
  | number {text digits after : List Char} {sign : Char} (number : StartsNumber text digits sign after) :
      Guards text (digits ++ '\\' :: sign :: after)
  | marked {c : Char} {rest : List Char} (marked : c ∈ "#>+-=".toList) : Guards (c :: rest) ('\\' :: c :: rest)
  | unguarded {text : List Char} (unmarked : ∀ c ∈ text.head?, c ∉ "#>+-=".toList)
      (noNumber : ∀ digits sign after, ¬ StartsNumber text digits sign after) : Guards text text

theorem guards_guardStart (text : List Char) : Guards text (Render.guardStart text) := by
  by_cases number : ∃ digits sign after, StartsNumber text digits sign after
  · obtain ⟨digits, sign, after, number⟩ := number
    exact guardStart_number number ▸ .number number
  · have noNumber (digits : List Char) (sign : Char) (after : List Char) : ¬ StartsNumber text digits sign after :=
      fun own => number ⟨digits, sign, after, own⟩
    by_cases marked : ∃ c ∈ text.head?, c ∈ "#>+-=".toList
    · obtain ⟨c, first, marked⟩ := marked
      obtain ⟨rest, rfl⟩ := List.head?_eq_some_iff.mp first
      exact guardStart_marked rest marked ▸ .marked marked
    · have unmarked : ∀ c ∈ text.head?, c ∉ "#>+-=".toList := fun c first among => marked ⟨c, first, among⟩
      rw [guardStart_plain unmarked noNumber]
      exact .unguarded unmarked noNumber

theorem Guards.eq {text written : List Char} (guards : Guards text written) : Render.guardStart text = written := by
  cases guards with
  | number number => exact guardStart_number number
  | marked marked => exact guardStart_marked _ marked
  | unguarded unmarked noNumber => exact guardStart_plain unmarked noNumber

theorem legible_guardStart {text tail : List Char} {shown : List (Char × Bool)} (legible : Legible tail text shown) :
    Legible tail (Render.guardStart text) shown := by
  have guards := guards_guardStart text
  generalize Render.guardStart text = written at guards ⊢
  cases guards with
  | number number => exact legible_guardDigits number.isDigit number.isSign (number.split ▸ legible)
  | marked marked =>
    have printed : ∀ c ∈ "#>+-=".toList, Text.isAsciiPunctuation c = true := by decide
    cases legible with
    | literal own more => exact .escaped (printed _ marked) more
    | escaped mark more => exact absurd marked (by decide)
    | lineEnd starts more => exact absurd marked (by decide)
    | code valid apart more => exact absurd marked (by decide)
  | unguarded => exact legible

/-- A guarded text starts as it did, or with a backslash. -/
theorem head?_guardStart (text : List Char) : ∀ c ∈ (Render.guardStart text).head?, c = '\\' ∨ text.head? = some c := by
  have guards := guards_guardStart text
  generalize Render.guardStart text = written at guards ⊢
  intro c first
  cases guards with
  | number number =>
    obtain ⟨d, digits, rfl⟩ := List.exists_cons_of_ne_nil number.some
    exact .inr (by rw [number.split]; exact first)
  | marked => exact .inl (Option.some.inj first).symm
  | unguarded => exact .inr first

/-- The guard stands before the last character. -/
theorem getLast?_guardStart (text : List Char) : (Render.guardStart text).getLast? = text.getLast? := by
  have guards := guards_guardStart text
  generalize Render.guardStart text = written at guards ⊢
  cases guards with
  | number number =>
    rw [number.split, List.getLast?_append_of_ne_nil _ (List.cons_ne_nil _ _),
      List.getLast?_append_of_ne_nil _ (List.cons_ne_nil _ _), List.getLast?_cons_cons]
  | marked => rw [List.getLast?_cons_cons]
  | unguarded => rfl

/-- Text that starts with no mark, no digit and no sign needs no guard. -/
theorem guardStart_other {c : Char} {rest : List Char} (unmarked : c ∉ "#>+-=".toList) (noDigit : Text.isDigit c = false) :
    Render.guardStart (c :: rest) = c :: rest := by
  refine guardStart_plain (fun d first => Option.some.inj first ▸ unmarked) fun digits sign after number => ?_
  obtain ⟨d, digits, rfl⟩ := List.exists_cons_of_ne_nil number.some
  obtain rfl := (List.cons.inj number.split).1
  exact absurd (number.isDigit c (List.mem_cons_self ..)) (by simp [noDigit])

/-- A number does not reach into marks that stand behind it. -/
private theorem StartsNumber.inside {text tail digits after : List Char} {sign : Char}
    (number : StartsNumber (text ++ tail) digits sign after)
    (follows : StartsMarked tail) : ∃ more, StartsNumber text digits sign more := by
  obtain ⟨split, filled, isDigit, isSign⟩ := number
  have noMark : ∀ d ∈ ['*', '~', '`', '[', ']'], Text.isDigit d = false ∧ ¬ (d = '.' ∨ d = ')') := by decide
  rcases List.append_eq_append_iff.mp split with ⟨more, rfl, tailOf⟩ | ⟨more, textOf, afterOf⟩
  · cases more with
    | nil => exact absurd isSign (noMark sign (follows sign (by simp [tailOf]))).2
    | cons d more =>
      have digit := isDigit d (by simp)
      exact absurd digit (by simp [(noMark d (follows d (by simp [tailOf]))).1])
  · cases more with
    | nil => exact absurd isSign (noMark sign (follows sign (by simpa using congrArg List.head? afterOf.symm))).2
    | cons d more =>
      obtain ⟨rfl, -⟩ := List.cons.inj afterOf
      exact ⟨more, textOf, filled, isDigit, isSign⟩

/-- Only the first text is guarded when a mark stands behind it. -/
theorem guardStart_append {text tail : List Char} (some : text ≠ []) (follows : StartsMarked tail) :
    Render.guardStart (text ++ tail) = Render.guardStart text ++ tail := by
  have guards := guards_guardStart text
  generalize Render.guardStart text = written at guards ⊢
  apply Guards.eq
  cases guards with
  | @number _ digits after sign number =>
    have whole : StartsNumber (text ++ tail) digits sign (after ++ tail) :=
      ⟨by rw [number.split, List.append_assoc]; rfl, number.some, number.isDigit, number.isSign⟩
    rw [List.append_assoc]
    exact .number whole
  | marked marked => exact .marked marked
  | unguarded unmarked noNumber =>
    refine .unguarded (by rwa [List.head?_append_of_ne_nil _ some]) ?_
    intro digits sign after number
    obtain ⟨more, own⟩ := number.inside follows
    exact noNumber digits sign more own

/-- A text that starts with neither a mark nor a bar, and not with two backticks. -/
structure StartsText (text : List Char) : Prop where
  some : text ≠ []
  unmarked : ∀ c ∈ text.head?, c = '\\' ∨ c = '`' ∨ Render.isMark c = false
  single : ∀ rest, text = '`' :: rest → rest.head? ≠ .some '`'

private theorem isDigit_of_ascii {c : Char} (ascii : c.isDigit = true) : Text.isDigit c = true := by
  have small : c.toNat < 0x80 := by
    simp only [Char.isDigit, Bool.and_eq_true, decide_eq_true_eq] at ascii
    have := UInt32.le_iff_toNat_le.mp ascii.2
    change c.toNat ≤ _ at this
    exact Nat.lt_of_le_of_lt this (by decide)
  simp [Text.isDigit, Text.digitValue?, small, ascii]

/-- An item is marked by a sign alone, or by one behind digits. -/
theorem itemMark?_none {content : List Char}
    (alone : ∀ sign ∈ content.head?, sign ∉ ['*', '-', '+'])
    (behind : ∀ digits sign after, content = digits ++ sign :: after → digits ≠ [] → (∀ c ∈ digits, c.isDigit = true) →
      sign ∉ ['.', ')']) : itemMark? content = none := by
  have run := List.prefix_iff_eq_take.mp (List.takeWhile_prefix (l := content) Char.isDigit)
  have whole := List.take_append_drop (content.takeWhile Char.isDigit).length content
  rw [← run] at whole
  unfold itemMark?
  dsimp only
  split
  · next mark after split =>
    rw [split] at whole
    by_cases empty : content.takeWhile Char.isDigit = []
    · have other := alone mark (by rw [← whole, empty]; rfl)
      simp only [List.mem_cons, List.not_mem_nil, or_false, not_or] at other
      simp [empty, other]
    · have other := behind _ mark after whole.symm empty (List.all_eq_true.mp List.all_takeWhile)
      simp only [List.mem_cons, List.not_mem_nil, or_false, not_or] at other
      simp [empty, other]
  · rfl

/-- A sign that marks no item by itself, and is no digit. -/
theorem itemMark?_other {c : Char} {rest : List Char} (other : c ∉ ['*', '-', '+']) (noDigit : c.isDigit = false) :
    itemMark? (c :: rest) = none := by
  refine itemMark?_none (fun sign first => ?_) fun digits sign after split some isDigit => ?_
  · obtain rfl := Option.some.inj first
    exact other
  · obtain ⟨d, digits, rfl⟩ := List.exists_cons_of_ne_nil some
    obtain rfl := (List.cons.inj split).1
    exact absurd (isDigit c (List.mem_cons_self ..)) (by simp [noDigit])

/-- A code span of one backtick on either side starts no block. -/
private theorem isUnmarked_tick {tail : List Char} (single : tail.head? ≠ some '`') : IsUnmarked ('`' :: tail) where
  some := List.cons_ne_nil _ tail
  noItem := itemMark?_other (by decide) (by decide)
  plain := by
    rintro c first
    obtain rfl := Option.some.inj first
    decide
  noFence := by
    have run : tail.takeWhile (· == '`') = [] := by
      cases tail with
      | nil => rfl
      | cons c tail =>
        have other : (c == '`') = false := by simpa using single
        simp [other]
    simp [run]
  noRule := fun star => absurd star (by simp)
  noDefinition := fun more => rfl

/-- Stars before text start no block. -/
theorem isUnmarked_stars {stars : Nat} {c : Char} {rest : List Char} (some : 0 < stars) (other : c ≠ '*')
    (shown : Text.isIndent c = false) :
    IsUnmarked (List.replicate stars '*' ++ c :: rest) ∧ (List.replicate stars '*' ++ c :: rest).head? ≠ Option.some '#' := by
  obtain ⟨stars, rfl⟩ := Nat.exists_eq_succ_of_ne_zero (Nat.ne_of_gt some)
  rw [List.replicate_succ, List.cons_append]
  have next : (List.replicate stars '*' ++ c :: rest).head?.all Text.isIndent = false := by
    cases stars with
    | zero => simp [shown]
    | succ stars => rfl
  refine ⟨⟨List.cons_ne_nil _ _, ?_, ?_, by simp, fun _ => ⟨c, by simp, other, shown⟩, fun more => rfl⟩, by simp⟩
  · have noDigit : ('*' :: (List.replicate stars '*' ++ c :: rest)).takeWhile Char.isDigit = [] := by
      have own : ('*').isDigit = false := by decide
      simp [own]
    have mark : itemMark? ('*' :: (List.replicate stars '*' ++ c :: rest)) =
        if (List.replicate stars '*' ++ c :: rest).head?.all Text.isIndent then Option.some ⟨false, 1, 0, '*'⟩ else none := by
      rw [itemMark?, noDigit]
      rfl
    rw [mark, next]
    rfl
  · rintro d first
    obtain rfl := Option.some.inj first
    decide

/-- Two tildes before text start no block. -/
theorem isUnmarked_tildes {c : Char} {rest : List Char} (other : c ≠ '~') :
    IsUnmarked ('~' :: '~' :: c :: rest) ∧ ('~' :: '~' :: c :: rest).head? ≠ some '#' := by
  have run : (c == '~') = false := beq_false_of_ne other
  refine ⟨⟨List.cons_ne_nil _ _, itemMark?_other (by decide) (by decide), ?_, by simp [run], fun star => absurd star (by simp),
    fun more => rfl⟩, by simp⟩
  rintro d first
  obtain rfl := Option.some.inj first
  decide

/-- Behind the digits of a guarded number stands a backslash, which marks no item. -/
theorem itemMark?_guardedNumber {text digits after : List Char} {sign : Char} (number : StartsNumber text digits sign after) :
    itemMark? (digits ++ '\\' :: sign :: after) = none := by
  have signs : ∀ c ∈ ['*', '-', '+', '.', ')'], ¬ (Text.isDigit c = true ∨ c = '\\') := by decide
  have noSign (c : Char) (other : Text.isDigit c = true ∨ c = '\\') : c ∉ ['*', '-', '+'] ∧ c ∉ ['.', ')'] :=
    ⟨fun among => signs c (List.mem_append_left ['.', ')'] among) other,
      fun among => signs c (List.mem_append_right ['*', '-', '+'] among) other⟩
  refine itemMark?_none ?_ ?_
  · intro c first
    obtain ⟨d, more, split⟩ := List.exists_cons_of_ne_nil number.some
    rw [split] at first
    obtain rfl := Option.some.inj first
    exact (noSign d (.inl (number.isDigit d (split ▸ List.mem_cons_self ..)))).1
  · intro front c behind split some isDigit
    refine (noSign c ?_).2
    rcases List.append_eq_append_iff.mp split with ⟨more, rfl, rest⟩ | ⟨more, inside, rest⟩
    · cases more with
      | nil => exact .inr (List.cons.inj rest).1.symm
      | cons d more =>
        obtain ⟨rfl, -⟩ := List.cons.inj rest
        exact absurd (isDigit '\\' (by simp)) (by decide)
    · cases more with
      | nil => exact .inr (List.cons.inj rest).1
      | cons d more =>
        obtain ⟨rfl, -⟩ := List.cons.inj rest
        exact .inl (number.isDigit c (inside ▸ by simp))

/-- A text that needs no guard starts with no mark of an item. -/
theorem itemMark?_unguarded {text : List Char} (starts : StartsText text) (unmarked : ∀ c ∈ text.head?, c ∉ "#>+-=".toList)
    (noNumber : ∀ digits sign after, ¬ StartsNumber text digits sign after) : itemMark? text = none := by
  refine itemMark?_none ?_ ?_
  · intro sign first among
    have own := unmarked sign first
    rcases starts.unmarked sign first with rfl | rfl | plain
    · exact absurd among (by decide)
    · exact absurd among (by decide)
    · simp only [List.mem_cons, List.not_mem_nil, or_false] at among
      rcases among with rfl | rfl | rfl
      · exact absurd plain (by decide)
      · exact own (by decide)
      · exact own (by decide)
  · intro digits sign after split some isDigit among
    exact noNumber digits sign after ⟨split, some, fun d inside => isDigit_of_ascii (isDigit d inside), by simpa using among⟩

private theorem itemMark?_guardStart {text : List Char} (starts : StartsText text) :
    itemMark? (Render.guardStart text) = none := by
  have guards := guards_guardStart text
  generalize Render.guardStart text = written at guards ⊢
  cases guards with
  | number number => exact itemMark?_guardedNumber number
  | marked => rfl
  | unguarded unmarked noNumber => exact itemMark?_unguarded starts unmarked noNumber

/-- What is guarded starts with no mark of a block, and not with two backticks. -/
private theorem head?_unmarked {text : List Char} (starts : StartsText text) :
    ∃ c tail, Render.guardStart text = c :: tail ∧ c ∉ ['~', '>', '*', '-', '_', '[', '<', '#'] ∧
      (c = '`' → tail.head? ≠ some '`') := by
  have guards := guards_guardStart text
  generalize Render.guardStart text = written at guards ⊢
  cases guards with
  | @number _ digits after sign number =>
    obtain ⟨d, more, rfl⟩ := List.exists_cons_of_ne_nil number.some
    have own := number.isDigit d (List.mem_cons_self ..)
    have noDigit : ∀ c ∈ ['~', '>', '*', '-', '_', '[', '<', '#', '`'], Text.isDigit c = false := by decide
    refine ⟨d, more ++ '\\' :: sign :: after, rfl, fun among => ?_, ?_⟩
    · exact absurd own (by simp [noDigit d (List.mem_append_left ['`'] among)])
    · rintro rfl
      exact absurd own (by decide)
  | marked => exact ⟨'\\', _, rfl, by decide, fun tick => absurd tick (by decide)⟩
  | unguarded unmarked =>
    obtain ⟨c, rest, rfl⟩ := List.exists_cons_of_ne_nil starts.some
    refine ⟨c, rest, rfl, ?_, ?_⟩
    · intro among
      have known : ∀ c ∈ ['~', '>', '*', '-', '_', '[', '<', '#'], Render.isMark c = true ∧ c ≠ '\\' ∧ c ≠ '`' ∨
          c ∈ "#>+-=".toList := by
        decide
      rcases known c among with ⟨mark, noSlash, noTick⟩ | same
      · rcases starts.unmarked c rfl with slash | tick | plain
        · exact noSlash slash
        · exact noTick tick
        · exact absurd mark (by simp [plain])
      · exact unmarked c rfl same
    · rintro rfl
      exact starts.single rest rfl

theorem isUnmarked_guardStart {text : List Char} (starts : StartsText text) :
    IsUnmarked (Render.guardStart text) ∧ (Render.guardStart text).head? ≠ some '#' := by
  obtain ⟨c, tail, split, others, single⟩ := head?_unmarked starts
  have noItem := itemMark?_guardStart starts
  rw [split] at noItem ⊢
  simp only [List.mem_cons, List.not_mem_nil, or_false, not_or] at others
  refine ⟨?_, by simp [others]⟩
  by_cases tick : c = '`'
  · exact tick ▸ isUnmarked_tick (single tick)
  · exact isUnmarked_plain noItem (by simp [others, tick])

section Links
open FoundDefinition

private theorem labelLength?_cons {c : Char} (other : c ∉ ['[', ']', '\\']) (rest : List Char) :
    labelLength? (c :: rest) = (labelLength? rest).map (· + 1) := by
  simp only [List.mem_cons, List.not_mem_nil, or_false, not_or] at other
  obtain ⟨noOpening, noClosing, noSlash⟩ := other
  rw [labelLength?]
  · exact noOpening
  · exact noClosing
  · intro d more same
    exact absurd same noSlash

private theorem labelLength?_slash (c : Char) (rest : List Char) :
    labelLength? ('\\' :: c :: rest) = (labelLength? rest).map (· + 2) := rfl

private theorem map_add (found : Option Nat) (first second : Nat) :
    (found.map (· + first)).map (· + second) = found.map (· + (first + second)) := by
  cases found with
  | none => rfl
  | some length => exact congrArg some (Nat.add_assoc ..)

/-- A backslash at the end of code takes the backtick behind it along. -/
private theorem labelLength?_code {text : List Char} (noOpening : '[' ∉ text) (noClosing : ']' ∉ text) (more : List Char) :
    labelLength? (text ++ '`' :: more) = (labelLength? more).map (· + (text.length + 1)) := by
  -- on the length, since a backslash is passed together with the next character
  induction length : text.length using Nat.strongRecOn generalizing text with
  | ind size ih =>
    subst length
    cases text with
    | nil => exact labelLength?_cons (by decide) more
    | cons c text =>
      obtain ⟨otherOpening, noOpenings⟩ := not_or.mp (mt List.mem_cons.mpr noOpening)
      obtain ⟨otherClosing, noClosings⟩ := not_or.mp (mt List.mem_cons.mpr noClosing)
      by_cases slash : c = '\\'
      · subst slash
        cases text with
        | nil => exact labelLength?_slash '`' more
        | cons d text =>
          have later := ih text.length (by simp only [List.length_cons]; omega) (mt (List.mem_cons_of_mem d) noOpenings)
            (mt (List.mem_cons_of_mem d) noClosings) rfl
          rw [List.cons_append, List.cons_append, labelLength?_slash, later, map_add]
          rfl
      · have later := ih text.length (Nat.lt_succ_self _) noOpenings noClosings rfl
        rw [List.cons_append, labelLength?_cons (by simp [Ne.symm otherOpening, Ne.symm otherClosing, slash]), later, map_add]
        rfl

/-- The brackets of a text are written with backslashes, so that none of them ends a label. -/
theorem labelLength?_legible {tail text : List Char} {shown : List (Char × Bool)} (legible : Legible tail text shown)
    (noBracket : ('[', true) ∉ shown ∧ (']', true) ∉ shown) (more : List Char) :
    labelLength? (text ++ more) = (labelLength? more).map (· + text.length) := by
  induction legible with
  | nil => simp
  | @literal c rest shown own _ ih =>
    have later := ih (noBracket.imp (mt (List.mem_cons_of_mem _)) (mt (List.mem_cons_of_mem _)))
    have other : c ∉ ['[', ']', '\\'] := fun among => own.1 (by
      have known : ∀ c ∈ ['[', ']', '\\'], c ∈ ['\n', '\\', '`', '~', '*', '_', '[', ']', '<'] := by decide
      exact known c among)
    rw [List.cons_append, labelLength?_cons other, later, map_add]
    rfl
  | @escaped c rest shown mark _ ih =>
    have later := ih (noBracket.imp (mt (List.mem_cons_of_mem _)) (mt (List.mem_cons_of_mem _)))
    rw [List.cons_append, List.cons_append, labelLength?_slash, later, map_add]
    rfl
  | @lineEnd rest shown starts _ ih =>
    have later := ih (noBracket.imp (mt (List.mem_cons_of_mem _)) (mt (List.mem_cons_of_mem _)))
    rw [List.cons_append, List.cons_append, labelLength?_slash, later, map_add]
    rfl
  | @code text rest shown valid apart _ ih =>
    simp only [List.mem_append, List.mem_map, not_or] at noBracket
    have later := ih ⟨noBracket.1.2, noBracket.2.2⟩
    have noOpening : '[' ∉ text := fun among => noBracket.1.1 ⟨_, among, rfl⟩
    have noClosing : ']' ∉ text := fun among => noBracket.2.1 ⟨_, among, rfl⟩
    rw [List.cons_append, labelLength?_cons (by decide), List.append_assoc, List.cons_append,
      labelLength?_code noOpening noClosing, later, map_add,
      map_add]
    have size : ('`' :: (text ++ '`' :: rest)).length = rest.length + (text.length + 1 + 1) := by
      simp only [List.length_cons, List.length_append]
      omega
    rw [size]

theorem labelLength?_marks {marks : List Char} (own : ∀ c ∈ marks, c = '*' ∨ c = '~') (more : List Char) :
    labelLength? (marks ++ more) = (labelLength? more).map (· + marks.length) := by
  induction marks with
  | nil => simp
  | cons c marks ih =>
    obtain ⟨mark, others⟩ := List.forall_mem_cons.mp own
    rw [List.cons_append, labelLength?_cons (by rcases mark with rfl | rfl <;> decide), ih others, map_add]
    rfl

/-- What starts with a link is no definition. -/
theorem isUnmarked_link {label : List Char} (ends : ∀ rest, labelLength? (label ++ ']' :: rest) = some label.length)
    (more : List Char) :
    IsUnmarked ('[' :: (label ++ ']' :: '(' :: more)) ∧ ('[' :: (label ++ ']' :: '(' :: more)).head? ≠ some '#' := by
  refine ⟨⟨List.cons_ne_nil _ _, itemMark?_other (by decide) (by decide), ?_, by simp, fun star => absurd star (by simp),
    fun rest => ?_⟩, by simp⟩
  · rintro d first
    obtain rfl := Option.some.inj first
    decide
  · have length := ends ('(' :: (more ++ '\n' :: rest))
    have behind : (label ++ ']' :: '(' :: (more ++ '\n' :: rest)).drop (label.length + 1) = '(' :: (more ++ '\n' :: rest) := by
      rw [← List.drop_drop, List.drop_left]
      rfl
    simp only [FoundDefinition.ofText?, List.cons_append, List.append_assoc, length]
    simp [behind]

/-- What starts with a link has no box, since a bracket stands behind its label. -/
theorem startsWithBox_link {label more : List Char} (ends : ∀ rest, labelLength? (label ++ ']' :: rest) = some label.length) :
    Task.startsWithBox ('[' :: (label ++ ']' :: '(' :: more)) = false := by
  have length := ends ('(' :: more)
  unfold Task.startsWithBox
  split
  next mark gap rest same =>
    obtain ⟨-, inside⟩ := List.cons.inj same
    refine Bool.eq_false_iff.mpr fun boxed => ?_
    simp only [Bool.and_eq_true, Bool.or_eq_true, beq_iff_eq] at boxed
    obtain ⟨marked, isGap⟩ := boxed
    have plain : mark ∉ ['[', ']', '\\'] := by rcases marked with (rfl | rfl) | rfl <;> decide
    rw [inside, labelLength?_cons plain] at length
    obtain ⟨c, rfl⟩ := List.length_eq_one_iff.mp (Option.some.inj length).symm
    obtain ⟨-, behind⟩ := List.cons.inj inside
    obtain ⟨-, behind⟩ := List.cons.inj behind
    obtain ⟨rfl, -⟩ := List.cons.inj behind
    exact absurd isGap (by decide)
  · rfl

end Links

end DocScribe.Markdown
