import DocScribe.Proofs.Credential.TokenFile
import DocScribe.Rehearsal.World
import Mathlib.Algebra.Order.Field.Basic
import Mathlib.Tactic.FieldSimp
import Mathlib.Tactic.Linarith

/-! The instant at which a loaded token expires. The offset of the zone in a file is dropped, and not converted to UTC:
the loaded instant is off by this offset, and a token is used for as much longer or shorter. -/

namespace DocScribe.Credential
open Rehearsal FileService Moment

section Validity
variable {credential : Credential} {now : Moment}

private theorem micro_of_isValid {moment : Moment} (valid : moment.isValid = true) : moment.micro < 1000000 := by
  simp only [Moment.isValid, Bool.and_eq_true, decide_eq_true_eq] at valid
  omega

private theorem instant_lt_iff {first second : Moment} (early : first.micro < 1000000) (late : second.micro < 1000000) (seconds : Nat) :
    first.instant + seconds < second.instant ↔
      first.seconds + seconds < second.seconds ∨
        first.seconds + seconds = second.seconds ∧ first.micro < second.micro := by
  have scaled : first.instant + seconds < second.instant ↔
      (first.seconds + seconds) * 1000000 + first.micro < second.seconds * 1000000 + second.micro := by
    rw [instant, instant, ← Nat.cast_lt (α := ℚ)]
    push_cast
    constructor <;> intro less <;> linarith
  rw [scaled]
  omega

/-- A token is used until a margin before its expiry. -/
theorem isValid_iff (clock : now.isValid = true) (sound : ∀ expiry, credential.expiry = some expiry → expiry.isValid = true) :
    credential.isValid now = true ↔
      credential.token.isNull = false ∧ ∀ expiry, credential.expiry = some expiry → now.instant + margin < expiry.instant := by
  rw [Credential.isValid, Bool.and_eq_true, Bool.not_eq_true']
  refine and_congr_right fun _ => ?_
  cases same : credential.expiry with
  | none => simp
  | some expiry =>
    have early := micro_of_isValid clock
    have late := micro_of_isValid (sound expiry same)
    simp only [Option.all_some, Option.some.injEq, forall_eq', instant_lt_iff early late, Bool.or_eq_true, Bool.and_eq_true,
      decide_eq_true_eq, beq_iff_eq]

end Validity

section Loading
private theorem lost_exact {time : WrittenTime} (exact_ : time.IsExact) : time.lost = 0 := by
  rcases exact_ with none | ⟨seconds, few⟩
  · simp [WrittenTime.lost, WrittenTime.micro, none]
  · obtain ⟨more, same⟩ := Nat.exists_eq_add_of_le few
    have scaled : time.micro = time.fraction * 10 ^ more := by
      rw [WrittenTime.micro, same, Nat.pow_add, Nat.mul_left_comm, Nat.mul_div_cancel_left _ (Nat.pow_pos (by decide))]
    rw [WrittenTime.lost, seconds, scaled, same, Nat.sub_self, pow_zero, pow_add]
    push_cast
    field_simp
    ring

variable {stamp : Stamp} {members : List (String × Json)} {service : FileService} {files : FileTree} {path : String}
  {made : Nat}

/-- The expiry of a file in a form that is read is taken without its offset. It is the instant that the file denotes
exactly for an offset of zero, and a token is returned unrenewed up to the margin before what it is taken for. -/
theorem load_expiry_instant (valid : stamp.IsValid) (held : Holds service files path (.obj members))
    (expiry : members.lookup "expiry" = some (.str stamp.text)) (clock : (service.elsewhere (made + 2) .now).isValid = true) :
    let now := service.elsewhere (made + 2) .now
    ∃ credential, (service.run made files (load path).run).value = .ok (some credential) ∧
      (credential.expiry.isSome = true ↔ stamp.IsReadable) ∧
      (∀ moment, credential.expiry = some moment →
        moment.instant = stamp.instant + stamp.zone.seconds - stamp.time.lost ∧
        (stamp.time.IsExact → (moment.instant = stamp.instant ↔ stamp.zone.seconds = 0))) ∧
      (IsUnrenewed (service.run made files (loadValid path).run) ↔ credential.token.isNull = false ∧
        (stamp.IsReadable → now.instant + margin < stamp.instant + stamp.zone.seconds - stamp.time.lost)) := by
  intro now
  obtain ⟨octets, loaded⟩ := load_held held (ofJson_obj (expiryOf_stamp valid expiry)) made
  refine ⟨_, congrArg Record.value loaded, read?_isSome_iff valid, fun moment read => ?_, ?_⟩
  · have instant := (read?_sound valid read).2
    refine ⟨instant, fun exact_ => ?_⟩
    rw [instant, lost_exact exact_]
    constructor <;> intro same <;> linarith
  · rw [loadValid_unrenewed_iff loaded, isValid_iff clock fun moment read => (read?_sound valid read).1]
    refine and_congr_right fun _ => ⟨fun early readable => ?_, fun early moment read => ?_⟩
    · obtain ⟨moment, read⟩ := Option.isSome_iff_exists.mp ((read?_isSome_iff valid).mpr readable)
      have less := early moment read
      rwa [(read?_sound valid read).2] at less
    · rw [(read?_sound valid read).2]
      exact early ((read?_isSome_iff valid).mp (Option.isSome_of_eq_some read))

/-- A folder with the file of a token, seen by someone whose clock shows this moment. -/
def folderAt (now : Moment) : FileService := ⟨[], fun _ question => match question with
  | .now => now
  | question => (World.answer {} question).1⟩

def tokenTree (data : Json) : FileTree := ⟨[(["token.json"], .file (Text.encodeUtf8 (Json.pretty data)))]⟩

private theorem tokenTree_holds {data : Json} (textual : data.IsTextual) (now : Moment) :
    Holds (folderAt now) (tokenTree data) "token.json" data :=
  holds_pretty textual rfl

/-- Thursday of the first week of 2026, half a second past noon, two hours and a half behind UTC. -/
def thursday : Stamp where
  date := .week 2026 1 4
  hyphens := false
  time := { hour := 12, smaller := [0, 0], places := 1, fraction := 5 }
  zone := .offset true { hour := 2, smaller := [30] }

def expiring (stamp : Stamp) : List (String × Json) := [("token", .str "t"), ("expiry", .str stamp.text)]

private theorem expiring_textual (stamp : Stamp) : (Json.obj (expiring stamp)).IsTextual :=
  .obj (show ["token", "expiry"].Nodup by decide) (List.forall_mem_cons.mpr ⟨.str _, List.forall_mem_singleton.mpr (.str _)⟩)

private theorem thursday_isValid : thursday.IsValid where
  date := ⟨by decide, by decide +kernel, by decide⟩
  time := ⟨.inl (by decide), by decide, by decide, by decide, by decide⟩
  zone := ⟨⟨.inl (by decide), by decide, by decide, by decide, by decide⟩, ⟨by decide, by decide⟩, rfl⟩

/-- The expiry of this file is loaded two hours and a half early, so a token is renewed although it is valid. -/
theorem load_expiry_instant_thursday :
    let service := folderAt ⟨2026, 1, 1, 12, 0, 0, 0⟩
    let files := tokenTree (.obj (expiring thursday))
    thursday.IsValid ∧ thursday.text = "2026W014T12:00:00.5-02:30" ∧
    Holds service files "token.json" (.obj (expiring thursday)) ∧ Moment.isValid (service.elsewhere 2 .now) = true ∧
    ∃ credential, (service.run 0 files (load "token.json").run).value = .ok (some credential) ∧
      (∃ moment, credential.expiry = some moment ∧ moment.instant = thursday.instant - 9000) ∧
      ¬ IsUnrenewed (service.run 0 files (loadValid "token.json").run) ∧
      (service.elsewhere 2 .now).instant + margin < thursday.instant := by
  intro service files
  have held : Holds service files "token.json" (.obj (expiring thursday)) := tokenTree_holds (expiring_textual thursday) _
  have clock : Moment.isValid (service.elsewhere 2 .now) = true := by decide
  obtain ⟨credential, loaded, read, instants, used⟩ := load_expiry_instant thursday_isValid held rfl clock
  have readable : thursday.IsReadable := ⟨rfl, by decide +kernel, by decide, by decide⟩
  have zone : thursday.zone.seconds = -9000 := by decide +kernel
  have lost : thursday.time.lost = 0 := by decide +kernel
  refine ⟨thursday_isValid, by decide +kernel, held, clock, credential, loaded, ?_, ?_, ?_⟩
  · obtain ⟨moment, expiry⟩ := Option.isSome_iff_exists.mp (read.mpr readable)
    refine ⟨moment, expiry, ?_⟩
    rw [(instants moment expiry).1, zone, lost]
    ring
  · intro unrenewed
    have early := (used.mp unrenewed).2 readable
    revert early
    decide +kernel
  · decide +kernel

/-- New Year 2030 five hours ahead of UTC. -/
def newYear : Stamp where
  date := .calendar 2030 1 1
  time := { hour := 0, smaller := [0, 0] }
  zone := .offset false { hour := 5, smaller := [0] }

private theorem newYear_isValid : newYear.IsValid where
  date := ⟨by decide, by decide, by decide⟩
  time := ⟨.inl (by decide), by decide, by decide, by decide, by decide⟩
  zone := ⟨⟨.inl (by decide), by decide, by decide, by decide, by decide⟩, ⟨by decide, by decide⟩, rfl⟩

/-- The token of this file expired an hour ago, and is returned unrenewed. -/
theorem load_expiry_ignoresOffset :
    let service := folderAt ⟨2029, 12, 31, 20, 0, 0, 0⟩
    let files := tokenTree (.obj (expiring newYear))
    newYear.IsValid ∧ newYear.text = "2030-01-01T00:00:00+05:00" ∧
    newYear.instant = Moment.instant ⟨2029, 12, 31, 19, 0, 0, 0⟩ ∧
    (∃ credential, (service.run 0 files (load "token.json").run).value = .ok (some credential) ∧
      credential.expiry = some ⟨2030, 1, 1, 0, 0, 0, 0⟩) ∧
    Moment.instant ⟨2030, 1, 1, 0, 0, 0, 0⟩ ≠ newYear.instant ∧
    newYear.instant < (service.elsewhere 2 .now).instant ∧
    IsUnrenewed (service.run 0 files (loadValid "token.json").run) := by
  intro service files
  have held : Holds service files "token.json" (.obj (expiring newYear)) := tokenTree_holds (expiring_textual newYear) _
  obtain ⟨octets, loaded⟩ := load_held held (ofJson_obj (expiryOf_stamp newYear_isValid rfl)) 0
  refine ⟨newYear_isValid, by decide +kernel, by decide +kernel, ⟨_, congrArg Record.value loaded, ?_⟩, by decide +kernel,
    by decide +kernel, (loadValid_unrenewed_iff loaded).mpr ?_⟩
  · exact (by decide +kernel : newYear.read? = some ⟨2030, 1, 1, 0, 0, 0, 0⟩)
  · decide +kernel

end Loading

end DocScribe.Credential
