import DocScribe.Proofs.Json.QuotedText
import DocScribe.Proofs.Outcomes
import DocScribe.Proofs.Text.PlainAscii

/-! Values without numbers survive being written and read, on one line or indented. The text that is written is plain
ASCII, whatever the texts in the value are. -/

namespace DocScribe.Json
open Text (IsPlainAscii)

/-- A value that holds no number, and in which no object has a key twice. -/
inductive IsTextual : Json → Prop where
  | null : IsTextual .null
  | bool (value : Bool) : IsTextual (.bool value)
  | str (text : String) : IsTextual (.str text)
  | arr {items : List Json} (each : ∀ item ∈ items, IsTextual item) : IsTextual (.arr items)
  | obj {members : List (String × Json)} (apart : (members.map Prod.fst).Nodup)
      (each : ∀ member ∈ members, IsTextual member.2) : IsTextual (.obj members)

def isBlank (c : Char) : Bool := c == ' ' || c == '\t' || c == '\n' || c == '\r'

/-- Only blanks stand between the tokens. -/
structure Layout.IsBlank (layout : Layout) : Prop where
  breaks : ∀ depth, ∀ c ∈ layout.lineBreak depth, isBlank c
  comma : ∃ blanks, layout.comma = ',' :: blanks ∧ ∀ c ∈ blanks, isBlank c

theorem indented_isBlank : indented.IsBlank where
  breaks _ := List.forall_mem_cons.mpr ⟨rfl, fun _ among => List.eq_of_mem_replicate among ▸ rfl⟩
  comma := ⟨[], rfl, List.forall_mem_nil _⟩

section Blanks
variable {blanks text : List Char}

theorem skipSpace_blanks (blank : ∀ c ∈ blanks, isBlank c) : skipSpace (blanks ++ text) = skipSpace text :=
  List.dropWhile_append_of_pos blank

theorem skipSpace_token {c : Char} (token : isBlank c = false) : skipSpace (c :: text) = c :: text :=
  List.dropWhile_cons_of_neg (by simpa [isBlank] using token)

end Blanks

private theorem skipSpace_quoted (key : String) (text : List Char) : skipSpace (quotedChars key ++ text) = quotedChars key ++ text := by
  change skipSpace ('"' :: _) = _
  exact skipSpace_token rfl

/-- What a value without numbers can start with. -/
def openings : List Char := ['n', 't', 'f', '"', '[', '\x7b']

theorem write_start {value : Json} (textual : value.IsTextual) (layout : Layout) (depth : Nat) :
    ∃ c more, write layout depth value = c :: more ∧ c ∈ openings := by
  cases textual with
  | null => exact ⟨_, _, rfl, by decide⟩
  | bool value => cases value <;> exact ⟨_, _, rfl, by decide⟩
  | str text => exact ⟨_, _, rfl, by decide⟩
  | @arr items each =>
    cases items with
    | nil => exact ⟨_, _, by rw [write], by decide⟩
    | cons item items => exact ⟨'[', _, by rw [write]; rfl, by decide⟩
  | @obj members apart each =>
    cases members with
    | nil => exact ⟨_, _, by rw [write], by decide⟩
    | cons member members => exact ⟨'\x7b', _, by rw [write]; rfl, by decide⟩

variable {layout : Layout}

theorem skipSpace_write {value : Json} (textual : value.IsTextual) (depth : Nat) (text : List Char) :
    skipSpace (write layout depth value ++ text) = write layout depth value ++ text := by
  obtain ⟨c, more, same, opening⟩ := write_start textual layout depth
  have token : ∀ c ∈ openings, isBlank c = false := List.all_iff_forall_prop.mp rfl
  rw [same]
  exact skipSpace_token (token c opening)

/-- What is written for a value is read as this value, with as much fuel as it has characters. -/
def Reads (layout : Layout) (value : Json) : Prop :=
  ∀ depth fuel rest, (write layout depth value).length ≤ fuel →
    readValue fuel (write layout depth value ++ rest) = .ok (value, rest)

section Lists
variable {depth fuel : Nat} {closing : List Char}

private theorem readItems_write (blank : layout.IsBlank) (closes : ∀ c ∈ closing, isBlank c) {item : Json} {items : List Json}
    (textual : ∀ other ∈ item :: items, other.IsTextual) (reads : ∀ other ∈ item :: items, Reads layout other)
    (enough : (write layout depth item ++ writeItems layout depth items).length < fuel) (rest : List Char) :
    readItems fuel (write layout depth item ++ (writeItems layout depth items ++ (closing ++ ']' :: rest))) =
      .ok (item :: items, rest) := by
  induction items generalizing item fuel with
  | nil =>
    obtain ⟨fuel, rfl⟩ := Nat.exists_eq_succ_of_ne_zero (Nat.ne_zero_of_lt enough)
    rw [writeItems, List.append_nil] at enough
    rw [readItems, bind_of_ok (reads item List.mem_cons_self _ _ _ (Nat.le_of_lt_succ enough)), writeItems,
      List.nil_append]
    dsimp only
    rw [skipSpace_blanks closes, skipSpace_token rfl]
    rfl
  | cons next items ih =>
    obtain ⟨fuel, rfl⟩ := Nat.exists_eq_succ_of_ne_zero (Nat.ne_zero_of_lt enough)
    obtain ⟨blanks, comma, spaced⟩ := blank.comma
    simp only [writeItems, comma, List.length_append, List.length_cons] at enough
    have less : (write layout depth next ++ writeItems layout depth items).length < fuel := by
      simp only [List.length_append]
      omega
    have others := ih (fun other among => textual other (List.mem_cons_of_mem _ among))
      (fun other among => reads other (List.mem_cons_of_mem _ among)) less
    rw [readItems, bind_of_ok (reads item List.mem_cons_self _ _ _ (by omega)), writeItems, comma]
    simp only [List.cons_append, List.append_assoc]
    rw [skipSpace_token rfl]
    simp only
    rw [skipSpace_blanks spaced, skipSpace_blanks (blank.breaks depth),
      skipSpace_write (textual next (List.mem_cons_of_mem _ List.mem_cons_self)), bind_of_ok others]
    rfl

private theorem setMember_absent {key : String} {value : Json} {members : List (String × Json)}
    (absent : key ∉ members.map Prod.fst) : setMember key value members = members ++ [(key, value)] := by
  induction members with
  | nil => rfl
  | cons member members ih =>
    obtain ⟨name, old⟩ := member
    rw [List.map_cons, List.mem_cons, not_or] at absent
    rw [setMember, if_neg (by simpa using Ne.symm absent.1), ih absent.2]
    rfl

private theorem absent_of_apart {key : String} {value : Json} {members seen : List (String × Json)}
    (apart : ((seen ++ (key, value) :: members).map Prod.fst).Nodup) : key ∉ seen.map Prod.fst := by
  rw [List.map_append, List.map_cons, List.nodup_append] at apart
  exact fun among => apart.2.2 key among key List.mem_cons_self rfl

/-- Reading a member comes down to reading its value. -/
theorem readMembers_quoted (seen : List (String × Json)) (key : String) (text : List Char) :
    readMembers (fuel + 1) seen (quotedChars key ++ ':' :: ' ' :: text) = (do
      let (value, rest) ← readValue fuel (skipSpace text)
      let members := setMember key value seen
      match skipSpace rest with
      | '\x7d' :: rest => pure (.obj members, rest)
      | ',' :: rest => readMembers fuel members (skipSpace rest)
      | _ => throw .malformed) := by
  have read := readString_quoted key.toList (':' :: ' ' :: text)
  change readMembers (fuel + 1) seen ('"' :: ((key.toList.flatMap escapedChar ++ ['"']) ++ ':' :: ' ' :: text)) = _
  rw [List.append_assoc, List.singleton_append, readMembers, read]
  simp only
  rw [skipSpace_token rfl]
  simp only [String.ofList_toList]
  rfl

private theorem readMembers_write (blank : layout.IsBlank) (closes : ∀ c ∈ closing, isBlank c) {key : String} {value : Json}
    {members seen : List (String × Json)} (apart : ((seen ++ (key, value) :: members).map Prod.fst).Nodup)
    (textual : ∀ member ∈ (key, value) :: members, member.2.IsTextual)
    (reads : ∀ member ∈ (key, value) :: members, Reads layout member.2)
    (enough : (write layout depth value ++ writeMembers layout depth members).length < fuel) (rest : List Char) :
    readMembers fuel seen (quotedChars key ++ (':' :: ' ' :: (write layout depth value ++
      (writeMembers layout depth members ++ (closing ++ '\x7d' :: rest))))) =
      .ok (.obj (seen ++ (key, value) :: members), rest) := by
  induction members generalizing key value seen fuel with
  | nil =>
    obtain ⟨fuel, rfl⟩ := Nat.exists_eq_succ_of_ne_zero (Nat.ne_zero_of_lt enough)
    rw [writeMembers, List.append_nil] at enough
    rw [readMembers_quoted, skipSpace_write (textual _ List.mem_cons_self),
      bind_of_ok (reads _ List.mem_cons_self _ _ _ (Nat.le_of_lt_succ enough)), writeMembers, List.nil_append]
    dsimp only
    rw [skipSpace_blanks closes, skipSpace_token rfl, setMember_absent (absent_of_apart apart)]
    rfl
  | cons next members ih =>
    obtain ⟨fuel, rfl⟩ := Nat.exists_eq_succ_of_ne_zero (Nat.ne_zero_of_lt enough)
    obtain ⟨other, content⟩ := next
    obtain ⟨blanks, comma, spaced⟩ := blank.comma
    simp only [writeMembers, comma, List.length_append, List.length_cons] at enough
    have less : (write layout depth content ++ writeMembers layout depth members).length < fuel := by
      simp only [List.length_append]
      omega
    have moved : ((seen ++ [(key, value)] ++ (other, content) :: members).map Prod.fst).Nodup := by
      rwa [List.append_assoc]
    have others := ih moved (fun member among => textual member (List.mem_cons_of_mem _ among))
      (fun member among => reads member (List.mem_cons_of_mem _ among)) less
    have own := reads _ List.mem_cons_self depth fuel
    rw [readMembers_quoted, skipSpace_write (textual _ List.mem_cons_self), bind_of_ok (own _ (by dsimp only; omega)),
      writeMembers, comma]
    simp only [List.cons_append, List.append_assoc, List.nil_append]
    rw [skipSpace_token rfl]
    simp only
    rw [skipSpace_blanks spaced, skipSpace_blanks (blank.breaks depth), setMember_absent (absent_of_apart apart)]
    rw [skipSpace_quoted]
    simpa only [List.append_assoc, List.singleton_append] using others

end Lists

theorem Reads.of_succ {value : Json} (textual : value.IsTextual)
    (reads : ∀ depth fuel rest, (write layout depth value).length ≤ fuel + 1 →
      readValue (fuel + 1) (write layout depth value ++ rest) = .ok (value, rest)) : Reads layout value := by
  intro depth fuel rest enough
  cases fuel with
  | zero =>
    obtain ⟨c, more, start, -⟩ := write_start textual layout depth
    rw [start] at enough
    cases enough
  | succ fuel => exact reads depth fuel rest enough

/-- The induction is on the value; its lists bring the fuel down by one with each item. -/
theorem readValue_write (blank : layout.IsBlank) {value : Json} (textual : value.IsTextual) : Reads layout value := by
  induction textual with
  | null => exact .of_succ .null fun _ _ _ _ => rfl
  | bool value => exact .of_succ (.bool value) fun _ _ _ _ => by cases value <;> rfl
  | str text =>
    refine .of_succ (.str text) fun depth fuel rest _ => ?_
    change readValue (fuel + 1) ('"' :: (text.toList.flatMap escapedChar ++ ['"'] ++ rest)) = _
    rw [List.append_assoc, List.singleton_append, readValue, readString_quoted]
    simp only [String.ofList_toList]
    rfl
  | @arr items each ih =>
    refine .of_succ (.arr each) fun depth fuel rest enough => ?_
    cases items with
    | nil => rfl
    | cons item items =>
      simp only [write, List.length_cons, List.length_append] at enough
      have less : (write layout (depth + 1) item ++ writeItems layout (depth + 1) items).length < fuel := by
        rw [List.length_append]
        omega
      have inside := readItems_write blank (blank.breaks depth) each ih less rest
      simp only [write, List.cons_append, List.append_assoc, List.nil_append]
      rw [readValue, skipSpace_blanks (blank.breaks _), skipSpace_write (each item List.mem_cons_self)]
      split
      next after closed =>
        obtain ⟨c, more, start, opening⟩ := write_start (each item List.mem_cons_self) layout (depth + 1)
        rw [start, List.cons_append] at closed
        cases closed
        exact absurd opening (by decide)
      next =>
        rw [bind_of_ok inside]
        rfl
  | @obj members apart each ih =>
    refine .of_succ (.obj apart each) fun depth fuel rest enough => ?_
    cases members with
    | nil => rfl
    | cons member members =>
      obtain ⟨key, value⟩ := member
      simp only [write, List.length_cons, List.length_append] at enough
      have less : (write layout (depth + 1) value ++ writeMembers layout (depth + 1) members).length < fuel := by
        rw [List.length_append]
        omega
      have apart : (([] ++ (key, value) :: members).map Prod.fst).Nodup := apart
      have inside := readMembers_write blank (blank.breaks depth) apart each ih less rest
      simp only [write, List.cons_append, List.append_assoc, List.nil_append]
      rw [readValue, skipSpace_blanks (blank.breaks _), skipSpace_quoted]
      exact inside

/-- A value without numbers is what is read from the text that is written for it. -/
theorem read_write (blank : layout.IsBlank) {value : Json} (textual : value.IsTextual) :
    read (.ofList (write layout 0 value)) = .ok value := by
  have start : skipSpace (write layout 0 value ++ []) = write layout 0 value ++ [] := skipSpace_write textual 0 []
  have whole := readValue_write blank textual 0 _ [] (Nat.le_succ (write layout 0 value).length)
  rw [List.append_nil] at start whole
  unfold read
  rw [String.toList_ofList]
  dsimp only
  rw [start, bind_of_ok whole]
  rfl

section Ascii

private theorem hexDigit_ascii (n : Nat) : IsPlainAscii (hexDigit n) := by
  have each : ∀ digit < 16, IsPlainAscii (Nat.digitChar digit) := by decide
  exact each _ (Nat.mod_lt _ (by decide))

private theorem escapeUnit_ascii (unit : Nat) : ∀ c ∈ escapeUnit unit, IsPlainAscii c := by
  simp only [escapeUnit, List.forall_mem_cons, hexDigit_ascii, true_and]
  exact ⟨by decide, by decide, List.forall_mem_nil _⟩

private theorem escapedChar_ascii (c : Char) : ∀ written ∈ escapedChar c, IsPlainAscii written := by
  unfold escapedChar
  split
  case h_8 unquoted unescaped feed back tab bell form =>
    dsimp only
    split_ifs with basic ascii
    · exact escapeUnit_ascii _
    · exact List.forall_mem_singleton.mpr ⟨by omega, back⟩
    · exact List.forall_mem_append.mpr ⟨escapeUnit_ascii _, escapeUnit_ascii _⟩
  all_goals exact List.all_iff_forall_prop.mp rfl

private theorem quotedChars_ascii (text : String) : ∀ c ∈ quotedChars text, IsPlainAscii c := by
  unfold quotedChars
  refine List.forall_mem_append.mpr ⟨List.forall_mem_cons.mpr ⟨by decide, fun c among => ?_⟩, List.forall_mem_singleton.mpr (by decide)⟩
  obtain ⟨source, -, among⟩ := List.mem_flatMap.mp among
  exact escapedChar_ascii source c among

structure Layout.IsPlainAscii (layout : Layout) : Prop where
  breaks : ∀ depth, ∀ c ∈ layout.lineBreak depth, Text.IsPlainAscii c
  comma : ∀ c ∈ layout.comma, Text.IsPlainAscii c

theorem indented_ascii : indented.IsPlainAscii where
  breaks _ := List.forall_mem_cons.mpr ⟨by decide, fun _ among => List.eq_of_mem_replicate among ▸ by decide⟩
  comma := List.all_iff_forall_prop.mp rfl

private theorem writeItems_ascii (ascii : layout.IsPlainAscii) {items : List Json}
    (each : ∀ item ∈ items, ∀ depth, ∀ c ∈ write layout depth item, IsPlainAscii c) (depth : Nat) :
    ∀ c ∈ writeItems layout depth items, IsPlainAscii c := by
  induction items with
  | nil => exact List.forall_mem_nil _
  | cons item items ih =>
    rw [List.forall_mem_cons] at each
    simp only [writeItems, List.forall_mem_append]
    exact ⟨⟨⟨ascii.comma, ascii.breaks depth⟩, each.1 depth⟩, ih each.2⟩

private theorem writeMembers_ascii (ascii : layout.IsPlainAscii) {members : List (String × Json)}
    (each : ∀ member ∈ members, ∀ depth, ∀ c ∈ write layout depth member.2, IsPlainAscii c) (depth : Nat) :
    ∀ c ∈ writeMembers layout depth members, IsPlainAscii c := by
  induction members with
  | nil => exact List.forall_mem_nil _
  | cons member members ih =>
    rw [List.forall_mem_cons] at each
    simp only [writeMembers, List.forall_mem_append]
    exact ⟨⟨⟨⟨⟨ascii.comma, ascii.breaks depth⟩, quotedChars_ascii _⟩, List.all_iff_forall_prop.mp rfl⟩, each.1 depth⟩, ih each.2⟩

theorem write_ascii (ascii : layout.IsPlainAscii) {value : Json} (textual : value.IsTextual) (depth : Nat) :
    ∀ c ∈ write layout depth value, IsPlainAscii c := by
  induction textual generalizing depth with
  | null =>
    rw [write]
    exact List.all_iff_forall_prop.mp rfl
  | bool value =>
    rw [write]
    cases value <;> exact List.all_iff_forall_prop.mp rfl
  | str text =>
    rw [write]
    exact quotedChars_ascii text
  | @arr items each ih =>
    cases items with
    | nil =>
      rw [write]
      exact List.all_iff_forall_prop.mp rfl
    | cons item items =>
      rw [List.forall_mem_cons] at ih
      simp only [write, List.forall_mem_append, List.forall_mem_cons]
      exact ⟨⟨⟨⟨⟨by decide, ascii.breaks _⟩, ih.1 _⟩, writeItems_ascii ascii ih.2 _⟩, ascii.breaks depth⟩, by decide, List.forall_mem_nil _⟩
  | @obj members apart each ih =>
    cases members with
    | nil =>
      rw [write]
      exact List.all_iff_forall_prop.mp rfl
    | cons member members =>
      rw [List.forall_mem_cons] at ih
      simp only [write, List.forall_mem_append, List.forall_mem_cons]
      exact ⟨⟨⟨⟨⟨⟨⟨by decide, ascii.breaks _⟩, quotedChars_ascii _⟩, by decide, by decide, List.forall_mem_nil _⟩, ih.1 _⟩,
        writeMembers_ascii ascii ih.2 _⟩, ascii.breaks depth⟩, by decide, List.forall_mem_nil _⟩

end Ascii

end DocScribe.Json
