import DocScribe.Markdown.Reading
import DocScribe.Proofs.Markdown.EntityValues
import DocScribe.Proofs.Markdown.ReadingSteps
import DocScribe.Proofs.Markdown.ReadableUrls
import DocScribe.Proofs.Text.Words

/-! Where inline content takes U+0000 from. A text without it gives items without it, unless it has an
automatic link whose address codes it: that is the only rule that shows what it has decoded. -/

namespace DocScribe.Markdown
open DocScribe Text InlineReader

/-- The characters of an item that can come to be shown. -/
def Inline.wording : Inline → List Char
  | .text chars | .escaped chars | .code chars | .html chars => chars
  | .image _ alt => alt
  | _ => []

/-- An automatic link of the text codes U+0000. -/
def CodesNull (text : List Char) : Prop :=
  ∃ body, '<' :: (body ++ ['>']) <:+: text ∧ (Autolink.target? body).isSome = true ∧ codedNull <:+: body

section Links

theorem takeWhile_append_of_drop {accepts : Char → Bool} {text rest : List Char}
    (behind : text.drop (text.takeWhile accepts).length = rest) : text.takeWhile accepts ++ rest = text :=
  behind ▸ (List.prefix_iff_eq_append.mp (List.takeWhile_prefix accepts))

private theorem prefix_inside {text body : List Char} (found : Autolink.inside? text = some body) :
    '<' :: (body ++ ['>']) <+: text := by
  unfold Autolink.inside? at found
  split at found
  next rest =>
    dsimp only at found
    split at found
    next closed =>
      obtain ⟨more, behind⟩ := List.head?_eq_some_iff.mp (beq_iff_eq.mp closed)
      have whole := takeWhile_append_of_drop behind
      cases found
      refine ⟨more, ?_⟩
      rw [List.cons_append, List.append_assoc, List.singleton_append, whole]
    · cases found
  · cases found

private theorem isWord_url {body : List Char} (url : Autolink.isUrl body = true) : IsWord body := by
  unfold Autolink.isUrl at url
  dsimp only at url
  split at url
  next rest behind =>
    have whole := takeWhile_append_of_drop behind
    simp only [Bool.and_eq_true] at url
    have scheme : IsWord (body.takeWhile fun c => c.isAlphanum || c == '+' || c == '.' || c == '-') :=
      IsWord.of_all rfl rfl rfl List.all_takeWhile
    have address : IsWord rest := .of_all rfl rfl rfl url.2
    rw [← whole]
    exact List.forall_mem_append.mpr ⟨scheme, List.forall_mem_cons.mpr ⟨by decide, address⟩⟩
  · cases url

private theorem isWord_mail {body : List Char} (mail : Autolink.isMail body = true) : IsWord body := by
  unfold Autolink.isMail at mail
  dsimp only at mail
  split at mail
  next host behind =>
    have whole := takeWhile_append_of_drop behind
    have name : IsWord (body.takeWhile fun c => c.isAlphanum || ".!#$%&'*+/=?^_`\x7b|\x7d~-".toList.contains c) :=
      IsWord.of_all (by decide) (by decide) (by decide) List.all_takeWhile
    have labels := List.all_eq_true.mp (Bool.and_eq_true_iff.mp mail).2
    have address : IsWord host := by
      intro c among
      rw [← intercalate_splitAt '.' host] at among
      rcases mem_joinWith among with dot | ⟨label, member, inside⟩
      · rw [List.mem_singleton.mp dot]
        decide
      · have valid := labels label member
        simp only [Autolink.isMailLabel, Bool.and_eq_true] at valid
        exact IsWord.of_all rfl rfl rfl valid.1.1.2 c inside
    rw [← whole]
    exact List.forall_mem_append.mpr ⟨name, List.forall_mem_cons.mpr ⟨by decide, address⟩⟩
  · cases mail

private theorem isWord_target {body : List Char} (link : (Autolink.target? body).isSome = true) : IsWord body := by
  unfold Autolink.target? at link
  dsimp only at link
  split at link
  next url => exact isWord_url url
  · split at link
    next mail => exact isWord_mail mail
    · cases link

/-- The address of an automatic link is a word, so it stands in the source of the text. -/
theorem CodesNull.of_words {source text : List Char} (words : WordsOf source text) (codes : CodesNull text) :
    CodesNull source := by
  obtain ⟨body, inside, link, coded⟩ := codes
  refine ⟨body, words _ ?_ inside, link, coded⟩
  have whole : IsWord body := isWord_target link
  rw [IsWord, List.forall_mem_cons, List.forall_mem_append, List.forall_mem_singleton]
  exact ⟨by decide, whole, by decide⟩

end Links

def Inline.NullFree (item : Inline) : Prop := null ∉ item.wording

def AllNullFree (items : Array Inline) : Prop := ∀ item ∈ items, item.NullFree

section Marks
variable {content : Array Inline} {delimiters : Delimiters}

theorem AllNullFree.push (free : AllNullFree content) {item : Inline} (own : item.NullFree) :
    AllNullFree (content.push item) := by
  intro other among
  rcases Array.mem_push.mp among with inside | rfl
  · exact free other inside
  · exact own

theorem AllNullFree.set (free : AllNullFree content) {item : Inline} (own : item.NullFree) (pos : Nat) :
    AllNullFree (content.setIfInBounds pos item) := by
  intro other among
  rcases Array.mem_or_eq_of_mem_setIfInBounds among with inside | rfl
  · exact free other inside
  · exact own

theorem AllNullFree.swap (free : AllNullFree content) (first second : Nat) :
    AllNullFree (content.swapIfInBounds first second) := by
  rw [Array.swapIfInBounds_def]
  split
  · split
    · exact fun item among => free item ((Array.swap_perm _ _).mem_iff.mp among)
    · exact free
  · exact free

private theorem nullFree_mark (mark : Mark) : (Inline.openMark mark).NullFree ∧ (Inline.closeMark mark).NullFree :=
  ⟨List.not_mem_nil, List.not_mem_nil⟩

namespace Delimiters

private theorem stylePair_free (free : AllNullFree content) (mark : Mark) (openItem closeItem : Nat) :
    AllNullFree (stylePair mark openItem closeItem content) :=
  (free.set (nullFree_mark mark).1 _).set (nullFree_mark mark).2 _

private theorem strike_free (free : AllNullFree content) : AllNullFree (strike delimiters content).1 := by
  unfold strike
  rw [← Array.foldl_toList]
  refine List.foldlRecOn delimiters.toList _ (motive := fun (styled : Array Inline × List Nat) => AllNullFree styled.1) free ?_
  intro (content, lone) free opener _
  dsimp only
  split
  · exact free
  · split
    · exact free
    · split <;> exact stylePair_free free _ _ _

private theorem emphasize_free (count : Nat) (free : AllNullFree content) : AllNullFree (emphasize delimiters count content) := by
  fun_induction emphasize delimiters count content with
  | case1 => exact free
  | case2 => exact free
  | case3 => exact stylePair_free free _ _ _
  | case4 _ _ _ ih => exact ih free
  | case5 _ _ _ _ _ _ _ _ ih =>
    have nothing : (Inline.text []).NullFree := List.not_mem_nil
    exact ih (((stylePair_free free _ _ _).set nothing _).set nothing _)
  | case6 _ _ _ _ _ _ _ _ ih => exact ih (stylePair_free free _ _ _)

private theorem resolve_free (free : AllNullFree content) : AllNullFree (resolve delimiters content) := by
  unfold resolve
  refine emphasize_free _ ?_
  exact List.foldlRecOn _ _ (motive := AllNullFree) (strike_free free) fun _ free _ _ => free.swap _ _

end Delimiters

end Marks

namespace InlineReader.Draft

structure NullFree (draft : Draft) : Prop where
  pending : null ∉ draft.pending
  items : AllNullFree draft.items

variable {draft : Draft}

theorem NullFree.empty : NullFree {} := ⟨List.not_mem_nil, fun _ among => absurd among (Array.not_mem_empty _)⟩

theorem NullFree.say (free : draft.NullFree) {chars : List Char} (own : null ∉ chars) : (draft.say chars).NullFree := by
  refine ⟨?_, free.items⟩
  rw [Draft.say, List.mem_append, List.mem_reverse, not_or]
  exact ⟨own, free.pending⟩

theorem NullFree.flush (free : draft.NullFree) : draft.flush.NullFree := by
  unfold Draft.flush
  split
  · exact free
  · refine ⟨List.not_mem_nil, free.items.push ?_⟩
    rw [Inline.NullFree, Inline.wording, List.mem_reverse]
    exact free.pending

theorem NullFree.push (free : draft.NullFree) {item : Inline} (own : item.NullFree) : (draft.push item).NullFree :=
  ⟨free.flush.pending, free.flush.items.push own⟩

theorem NullFree.append (free : draft.NullFree) {items : Array Inline} (own : AllNullFree items) :
    (draft.append items).NullFree := by
  refine ⟨free.flush.pending, fun item among => ?_⟩
  exact (Array.mem_append.mp among).elim (free.flush.items item) (own item)

theorem NullFree.pushMark (free : draft.NullFree) {text : List Char} (own : null ∉ text) (mark : Char)
    (runLength : Nat) (flanks : Flanks) : (draft.pushMark text mark runLength flanks).NullFree :=
  have pushed : (draft.push (.text text)).NullFree := free.push own
  ⟨pushed.pending, pushed.items⟩

theorem NullFree.breakLine (free : draft.NullFree) : draft.breakLine.NullFree := by
  have kept : NullFree { draft with pending := draft.pending.dropWhile (· == ' ') } :=
    ⟨fun among => free.pending ((List.dropWhile_suffix _).subset among), free.items⟩
  unfold Draft.breakLine
  dsimp only
  split
  · exact free.push List.not_mem_nil
  · exact kept.push List.not_mem_nil
  · exact kept.push List.not_mem_nil

theorem NullFree.pushStars (free : draft.NullFree) {mark : Char} (own : null ∉ [mark]) (count : Nat) (flanks : Flanks) :
    (draft.pushStars mark count flanks).NullFree :=
  List.foldlRecOn _ _ (motive := NullFree) free fun _ free _ _ => free.pushMark own _ _ _

theorem NullFree.pushTildes (free : draft.NullFree) (count : Nat) (flanks : Flanks) :
    (draft.pushTildes count flanks).NullFree := by
  have tilde : null ∉ ['~'] := by decide
  refine List.foldlRecOn _ _ (motive := NullFree) ?_ fun _ free _ _ => free.pushMark (by decide) _ _ _
  split
  · exact free.push tilde
  · exact free

theorem NullFree.finish (free : draft.NullFree) : AllNullFree draft.finish := Delimiters.resolve_free free.flush.items

end InlineReader.Draft

namespace Source

private theorem infix_after (text : List Char) (pos : Nat) : (ofChars text).after pos <:+: text := by
  by_cases inside : pos ≤ text.length
  · rw [after_ofChars inside]
    exact (List.drop_suffix _ _).isInfix
  · have none : (suffixes text)[pos]? = none := by
      rw [List.getElem?_eq_none_iff, length_suffixes]
      omega
    simp [after, ofChars, Array.getD_eq_getD_getElem?, none]

theorem infix_slice (text : List Char) (start stop : Nat) : (ofChars text).slice start stop <:+: text :=
  (List.take_prefix _ _).isInfix.trans (infix_after text start)

end Source

section Scans

/-- What a computation gives, whatever it remembers. -/
def Gives (holds : α → Prop) (scan : Scan α) : Prop := ∀ memory, holds (scan.run memory).run.1

theorem Gives.pure {holds : α → Prop} {value : α} (own : holds value) : Gives holds (pure value) := fun _ => own

theorem Gives.bind {holds : β → Prop} {among : α → Prop} {first : Scan α} {next : α → Scan β}
    (start : Gives among first) (rest : ∀ value, among value → Gives holds (next value)) :
    Gives holds (first >>= next) := fun memory => rest _ (start memory) _

theorem Gives.after {holds : β → Prop} (first : Scan α) {next : α → Scan β}
    (rest : ∀ value, Gives holds (next value)) : Gives holds (first >>= next) := fun _ => rest _ _

end Scans

section Reading
variable {text : List Char} {definitions : Definitions} {limit : Nat} {skip : Nat → Scan Nat}
  {content : (start stop : Nat) → Scan (Array Inline)} {draft : Draft}

private theorem codeText_subset (chars : List Char) : ∀ c ∈ codeText chars, c = ' ' ∨ c ∈ chars := by
  intro c among
  have flat : c ∈ chars.map fun c => if c == '\n' then ' ' else c := by
    unfold codeText at among
    dsimp only at among
    split at among
    · exact (List.drop_suffix _ _).subset ((List.dropLast_prefix _).subset among)
    · exact among
  obtain ⟨d, inside, rfl⟩ := List.mem_map.mp flat
  split
  · exact .inl rfl
  · exact .inr inside

private theorem ticksAt_free (free : null ∉ text) {pos : Nat} {code : List Char} {stop : Nat}
    (span : ticksAt (.ofChars text) limit pos = .span code stop) : null ∉ code := by
  unfold ticksAt at span
  dsimp only at span
  split at span
  · cases span
    intro among
    rcases codeText_subset _ null among with same | inside
    · exact absurd same (by decide)
    · exact free ((Source.infix_slice _ _ _).subset inside)
  · cases span

private theorem autolink_free (free : null ∉ text) (uncoded : ¬ CodesNull text) {body target : List Char}
    (whole : '<' :: (body ++ ['>']) <:+: text) (allowed : Autolink.target? body = some target) :
    null ∉ Url.readable body := by
  have inside : body <:+: text := List.IsInfix.trans ⟨['<'], ['>'], rfl⟩ whole
  refine Url.readable_null ⟨fun among => free (inside.subset among), fun coded => uncoded ?_⟩
  exact ⟨body, whole, Option.isSome_of_eq_some allowed, coded⟩

private theorem silent_free {item : Inline} (silent : item.wording = []) : item.NullFree := by
  rw [Inline.NullFree, silent]
  exact List.not_mem_nil

private theorem readAt_free (free : null ∉ text) (uncoded : ¬ CodesNull text)
    (inner : ∀ start stop, Gives AllNullFree (content start stop)) (kept : draft.NullFree) (pos : Nat) :
    Gives (fun read => read.1.NullFree) (readAt ⟨.ofChars text, definitions⟩ limit skip content pos draft) := by
  have slice (start stop : Nat) : null ∉ (Source.ofChars text).slice start stop := fun among =>
    free ((Source.infix_slice _ _ _).subset among)
  have single {place : Nat} {c : Char} (here : (Source.ofChars text).at? place = some c) : null ∉ [c] := by
    rw [List.mem_singleton]
    exact fun same => free ((Source.infix_after text place).subset (List.mem_of_mem_head? (same ▸ here)))
  unfold readAt
  dsimp only
  split
  · exact .pure kept
  next c here =>
    have literal : (draft.say [c]).NullFree := kept.say (single here)
    split
    · exact .pure (kept.say (slice _ _))
    · -- one case for each character with a rule, in the order of the rules
      split
      · exact .pure kept.breakLine
      · split
        · exact .pure literal
        · split
          · exact .pure literal
          · exact .pure (kept.push (silent_free rfl))
          next d _ there =>
            refine .pure (kept.push ?_)
            rw [Inline.NullFree, Inline.wording]
            split
            · exact single there
            · exact List.not_mem_cons_of_ne_of_not_mem (by decide) (single there)
      · split
        next code stop span => exact .pure (kept.push (ticksAt_free free span))
        · exact .pure (kept.say (slice _ _))
      · split
        · exact .pure literal
        · exact .pure (kept.pushTildes _ _)
      · exact .pure (kept.pushStars (by decide) _ _)
      · exact .pure (kept.pushStars (by decide) _ _)
      · refine .after _ fun found => ?_
        split
        · exact .pure literal
        · refine .bind (inner _ _) fun items own => ?_
          exact .pure (((kept.push (silent_free rfl)).append own).push (silent_free rfl))
      · refine .after _ fun found => ?_
        split
        · exact .pure literal
        · exact .pure (kept.push (slice _ _))
      · split
        · refine .pure ?_
          split
          · exact kept.push (slice _ _)
          · exact literal
        next body inside =>
          split
          · refine .pure ?_
            split
            · exact kept.push (slice _ _)
            · exact literal
          next target allowed =>
            have whole := (prefix_inside inside).isInfix.trans (Source.infix_slice _ _ _)
            have shown : (Inline.text (Url.readable body)).NullFree := autolink_free free uncoded whole allowed
            exact .pure (((kept.push (silent_free rfl)).push shown).push (silent_free rfl))
      · split
        next value length found => exact .pure (kept.push (Entity.reference_null found))
        · exact .pure literal
      · exact .pure literal

private theorem readFrom_free (free : null ∉ text) (uncoded : ¬ CodesNull text)
    (inner : ∀ start stop, Gives AllNullFree (content start stop)) (fuel pos : Nat) (kept : draft.NullFree) :
    Gives Draft.NullFree (readFrom ⟨.ofChars text, definitions⟩ limit skip content fuel pos draft) := by
  induction fuel generalizing pos draft with
  | zero => exact .pure kept
  | succ fuel ih =>
    unfold readFrom
    split
    · exact .pure kept
    · exact .bind (readAt_free free uncoded inner kept pos) fun read own => ih read.2 own

private theorem read_free (free : null ∉ text) (uncoded : ¬ CodesNull text) (nesting start stop : Nat) :
    Gives AllNullFree (InlineReader.read ⟨.ofChars text, definitions⟩ nesting start stop) := by
  induction nesting generalizing start stop with
  | zero =>
    have slice : null ∉ (Source.ofChars text).slice start stop := fun among =>
      free ((Source.infix_slice _ _ _).subset among)
    exact .pure (Draft.NullFree.empty.say slice).finish
  | succ nesting ih =>
    exact .bind (readFrom_free free uncoded ih _ _ .empty) fun _ own => .pure own.finish

/-- The items of a text hold U+0000 only if the text does, or codes it in an automatic link. -/
theorem ofText_free (definitions : Definitions) (free : null ∉ text) (uncoded : ¬ CodesNull text) :
    ∀ item ∈ Inline.ofText definitions text, item.NullFree := by
  intro item among
  exact read_free free uncoded _ _ _ _ item (Array.mem_toList_iff.mp among)

end Reading

end DocScribe.Markdown
