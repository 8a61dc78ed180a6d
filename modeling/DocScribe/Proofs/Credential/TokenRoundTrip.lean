import DocScribe.Proofs.Credential.TokenFile
import DocScribe.Proofs.Outcomes
import DocScribe.Rehearsal.World

/-! A stored credential is loaded again as it was, and a renewed one with its new token and expiry. -/

namespace DocScribe.Credential
open Rehearsal FileService Program

section Expiries
variable {moment : Moment}

/-- The form in which an expiry is written. -/
def Moment.stamp (moment : Moment) : Stamp where
  date := .calendar moment.year moment.month moment.day
  time := { hour := moment.hour, smaller := [moment.minute, moment.second], places := if moment.micro = 0 then 0 else 6,
            fraction := moment.micro }

theorem Moment.toText_eq (moment : Moment) : moment.toText = moment.stamp.text := by
  obtain ⟨year, month, day, hour, minute, second, micro⟩ := moment
  simp only [Moment.toText, Stamp.text, Moment.stamp, WrittenDate.text, WrittenDate.hyphen, WrittenTime.text,
    WrittenTime.smallerText, WrittenTime.fractionText, WrittenZone.text, List.flatMap_cons, List.flatMap_nil, if_true,
    List.append_assoc, List.cons_append, List.nil_append, List.append_nil, beq_iff_eq]
  by_cases whole : micro = 0
  · simp [whole]
  · simp [whole]

theorem Moment.stamp_isValid (valid : moment.isValid = true) : moment.stamp.IsValid := by
  obtain ⟨year, month, day, hour, minute, second, micro⟩ := moment
  simp only [Moment.isValid, Bool.and_eq_true, decide_eq_true_eq] at valid
  have isDate : Moment.IsDate year month day := ⟨by omega, by omega, by omega⟩
  refine ⟨isDate, ⟨.inl (show hour ≤ 23 by omega), Nat.le_refl 2, show minute ≤ 59 by omega, show second ≤ 60 by omega, ?_⟩, trivial⟩
  simp only [Moment.stamp]
  split <;> omega

theorem Moment.stamp_micro (moment : Moment) : moment.stamp.time.micro = moment.micro := by
  simp only [WrittenTime.micro, Moment.stamp]
  split
  next whole =>
    rw [whole]
    rfl
  next => exact Nat.mul_div_cancel _ (by decide)

theorem Moment.stamp_read (valid : moment.isValid = true) : moment.stamp.read? = some moment := by
  have same : moment.stamp.time.on (moment.year, moment.month, moment.day) = moment := by
    change Moment.mk _ _ _ _ _ _ moment.stamp.time.micro = moment
    rw [moment.stamp_micro]
    rfl
  change (if (moment.stamp.time.on (moment.year, moment.month, moment.day)).isValid then
    some (moment.stamp.time.on (moment.year, moment.month, moment.day)) else none) = some moment
  rw [same, if_pos valid]

end Expiries

variable {credential : Credential}

/-- Holds no numbers, and texts, null and lists of texts are fine; the expiry is a moment that exists. -/
structure IsTextual (credential : Credential) : Prop where
  token : credential.token.IsTextual
  refreshToken : credential.refreshToken.IsTextual
  tokenUri : credential.tokenUri.IsTextual
  clientId : credential.clientId.IsTextual
  clientSecret : credential.clientSecret.IsTextual
  scopes : credential.scopes.IsTextual
  expiry : ∀ moment, credential.expiry = some moment → moment.isValid = true

private theorem toJson_textual (textual : credential.IsTextual) : credential.toJson.IsTextual := by
  refine .obj (show ["token", "refresh_token", "token_uri", "client_id", "client_secret", "scopes", "expiry"].Nodup by decide) ?_
  have expiry : (credential.expiry.elim .null fun expiry => Json.str expiry.toText).IsTextual := by
    cases credential.expiry with
    | none => exact .null
    | some moment => exact .str _
  simp only [List.forall_mem_cons]
  exact ⟨textual.token, textual.refreshToken, textual.tokenUri, textual.clientId, textual.clientSecret, textual.scopes, expiry,
    List.forall_mem_nil _⟩

private theorem expiryOf_toJson (textual : credential.IsTextual) : expiryOf credential.toJson = .ok credential.expiry := by
  cases expiry : credential.expiry with
  | none =>
    rw [toJson, expiry]
    rfl
  | some moment =>
    have valid := textual.expiry moment expiry
    rw [← Moment.stamp_read valid]
    refine expiryOf_stamp (Moment.stamp_isValid valid) ?_
    rw [← Moment.toText_eq, expiry]
    rfl

/-- The members that are written are those that are read. -/
theorem ofJson_toJson (textual : credential.IsTextual) : ofJson credential.toJson = .ok credential :=
  ofJson_obj (expiryOf_toJson textual)

variable {service : FileService} {files : FileTree} {path : String} {made : Nat}

/-- Whoever loads the file next gets this credential, and leaves the files as they are. -/
def Reloads (folder : Location) (files : FileTree) (path : String) (credential : Credential) : Prop :=
  ∀ replies made, ∃ asked,
    FileService.run ⟨folder, replies⟩ made files (load path).run = ⟨asked, .ok (some credential), files⟩

private theorem store_reloads (textual : credential.IsTextual)
    (stored : (service.run made files (store path credential).run).value = .ok true) :
    Reloads service.folder (service.run made files (store path credential).run).files path credential := by
  intro replies later
  have held : Holds ⟨service.folder, replies⟩ (service.run made files (store path credential).run).files path credential.toJson :=
    holds_pretty (toJson_textual textual) (store_saves stored)
  obtain ⟨octets, loaded⟩ := load_held held (ofJson_toJson textual) later
  exact ⟨_, loaded⟩

section Renewal
variable {renewal : Renewal} {octets : List UInt8}

/-- Concerns the file at a path, and only to read it. -/
def LooksAt (path : String) (question : Request) : Prop := question = .isThere path ∨ question = .readFile path

private theorem load_asks (path : String) : Program.Asks (LooksAt path) (load path).run := by
  unfold load
  refine Asks.andThen (.ask (.inl rfl) fun _ => .pure) fun isThere => ?_
  split
  · exact .pure
  · have text : Program.Asks (LooksAt path) (Files.readText path).run := by
      unfold Files.readText
      refine Asks.andThen (.ask (.inr rfl) fun _ => .pure) fun octets => ?_
      split <;> exact .pure
    refine Asks.andThen (text.bind fun _ => .pure) fun outcome => ?_
    split
    · split <;> exact .pure
    · split
      · exact .pure
      · exact .pure
      · exact Asks.andThen .pure fun _ => .pure

private theorem load_unchanged (loaded : (service.run made files (load path).run).value = .ok (some credential)) :
    ∃ asked, service.run made files (load path).run = ⟨asked, .ok (some credential), files⟩ ∧
      ∀ exchange ∈ asked, LooksAt path exchange.question := by
  have asks := run_asks service made files (load_asks path)
  have still : Program.Asks (·.changesFiles = false) (load path).run := by
    apply (load_asks path).mono
    rintro question (rfl | rfl) <;> rfl
  have same := run_unchanged service made files still
  cases run : service.run made files (load path).run with
  | mk asked value after =>
    rw [run] at loaded same asks
    dsimp only at loaded same
    subst loaded same
    exact ⟨asked, rfl, asks⟩

private theorem mem_behind {asked rest : List Exchange} {now : Moment} {question : Request} {reply : question.Reply}
    (looks : ∀ exchange ∈ asked, LooksAt path exchange.question) (among : ⟨question, reply⟩ ∈ asked ++ ⟨.now, now⟩ :: rest)
    (other : ¬ LooksAt path question) (timeless : question ≠ .now) : ⟨question, reply⟩ ∈ rest := by
  rcases List.mem_append.mp among with early | late
  · exact absurd (looks _ early) other
  · rcases List.mem_cons.mp late with same | late
    · cases same
      exact absurd rfl timeless
    · exact late

private theorem store_asks (path : String) (credential : Credential) :
    Program.Asks (·.isAboutFiles = true) (store path credential).run := by
  unfold store
  refine Asks.andThen ((writeWithin_asks _ path credential.octets).bind fun _ => .pure) fun outcome => ?_
  split
  · exact .pure
  · split <;> exact .pure

private theorem keep_run (service : FileService) (made : Nat) (files : FileTree) (path : String) (credential : Credential)
    (renewal : Renewal) :
    service.run made files (keep path credential (.ok renewal)).run =
      let stored := service.run made files (store path (credential.renewed renewal)).run
      ⟨stored.asked, stored.value.map fun _ => credential.renewed renewal, stored.files⟩ := by
  unfold keep
  change service.run made files (store path (credential.renewed renewal) >>= _).run = _
  cases stored : service.run made files (store path (credential.renewed renewal)).run with
  | mk asked value after =>
    cases value with
    | ok done =>
      rw [run_andThen stored]
      exact congrArg (Record.mk · _ _) (List.append_nil _)
    | error fault =>
      rw [run_stopped stored]
      rfl

/-- A token that is no longer valid, and can be renewed, is stored as renewed. -/
theorem loadValid_renews {asked : List Exchange}
    (loaded : service.run made files (load path).run = ⟨asked, .ok (some credential), files⟩)
    (late : credential.isValid (service.elsewhere (made + asked.length) .now) = false)
    (present : credential.refreshToken.truthy = true)
    (told : service.elsewhere (made + asked.length + 1) (.renew credential.refreshToken) = .ok renewal) :
    service.run made files (loadValid path).run =
      let stored := service.run (made + asked.length + 2) files (store path (credential.renewed renewal)).run
      ⟨asked ++ ⟨.now, service.elsewhere (made + asked.length) .now⟩ :: ⟨.renew credential.refreshToken, .ok renewal⟩ :: stored.asked,
        stored.value.map fun _ => credential.renewed renewal, stored.files⟩ := by
  rw [loadValid_run loaded]
  dsimp only
  rw [late, if_neg Bool.false_ne_true, renew_asks present, told]
  dsimp only
  rw [keep_run]

private theorem keep_asks (path : String) (credential : Credential) (reply : Outcome Renewal) :
    Program.Asks (·.isAboutFiles = true) (keep path credential reply).run := by
  unfold keep
  split
  · exact .pure
  · exact .pure
  · exact Asks.andThen (store_asks path _) fun _ => .pure

/-- When the token was renewed and the file written, this is what is returned and loaded next. -/
theorem renew_reloads {token : Json}
    (told : ⟨.renew token, .ok renewal⟩ ∈ (service.run made files (renew path credential).run).asked)
    (written : ⟨.writeFile path octets, .ok ()⟩ ∈ (service.run made files (renew path credential).run).asked)
    (textual : (credential.renewed renewal).IsTextual) :
    (service.run made files (renew path credential).run).value = .ok (credential.renewed renewal) ∧
      Reloads service.folder (service.run made files (renew path credential).run).files path (credential.renewed renewal) := by
  cases present : credential.refreshToken.truthy with
  | false =>
    rw [renew_missing present] at told
    cases told
  | true =>
    rw [renew_asks present] at told written ⊢
    generalize service.elsewhere made (.renew credential.refreshToken) = reply at told written ⊢
    dsimp only at told written ⊢
    -- Nothing behind the first question is a renewal, so its reply is the one there is.
    rcases List.mem_cons.mp told with same | among
    · cases same
      rw [keep_run] at written ⊢
      dsimp only at written ⊢
      rcases List.mem_cons.mp written with impossible | among
      · cases impossible
      · have stored := store_written_iff.mpr ⟨octets, among⟩
        exact ⟨congrArg (Except.map _) stored, store_reloads textual stored⟩
    · have files := run_asks service (made + 1) files (keep_asks path credential reply) _ among
      cases files

end Renewal

/-- What was stored is loaded again, whoever looks. So a token that was renewed is the one that is returned and loaded next,
with its expiry, if the file was written. -/
theorem load_store :
    (∀ (service : FileService) (made : Nat) (files : FileTree) (path : String) (credential : Credential),
      credential.IsTextual → (service.run made files (store path credential).run).value = .ok true →
        Reloads service.folder (service.run made files (store path credential).run).files path credential) ∧
    (∀ (service : FileService) (made : Nat) (files : FileTree) (path : String) (credential : Credential) (token : Json)
      (renewal : Renewal) (octets : List UInt8),
      let run := service.run made files (loadValid path).run
      (service.run made files (load path).run).value = .ok (some credential) →
        ⟨.renew token, .ok renewal⟩ ∈ run.asked → ⟨.writeFile path octets, .ok ()⟩ ∈ run.asked →
        (credential.renewed renewal).IsTextual →
          run.value = .ok (credential.renewed renewal) ∧
            Reloads service.folder run.files path (credential.renewed renewal)) := by
  refine ⟨fun service made files path credential textual stored => store_reloads textual stored, ?_⟩
  intro service made files path credential token renewal octets run found told written textual
  obtain ⟨asked, loaded, looks⟩ := load_unchanged found
  have ran := loadValid_run loaded
  simp only [run, ran] at told written ⊢
  replace told := mem_behind looks told (by rintro (same | same) <;> cases same) nofun
  replace written := mem_behind looks written (by rintro (same | same) <;> cases same) nofun
  cases valid : credential.isValid (service.elsewhere (made + asked.length) .now) with
  | true =>
    rw [valid] at told
    cases told
  | false =>
    rw [valid] at told written
    exact renew_reloads told written textual

def fresh : Renewal := ⟨.str "neu", some ⟨2026, 1, 1, 13, 0, 0, 40⟩⟩

/-- Renews every token at noon on New Year 2026. -/
def renewing : FileService := ⟨[], fun _ question => match question with
  | .now => ⟨2026, 1, 1, 12, 0, 0, 0⟩
  | .renew _ => .ok fresh
  | question => (World.answer {} question).1⟩

def aged : Credential where
  token := .str "\"alt\" 😀"
  refreshToken := .str "ü\n"
  tokenUri := .null
  clientId := .str ""
  clientSecret := .null
  scopes := .arr [.str "drive", .str "documents"]
  expiry := some ⟨999, 12, 31, 23, 59, 59, 7⟩

private theorem aged_textual : aged.IsTextual where
  token := .str _
  refreshToken := .str _
  tokenUri := .null
  clientId := .str _
  clientSecret := .null
  scopes := .arr (List.forall_mem_cons.mpr ⟨.str _, List.forall_mem_singleton.mpr (.str _)⟩)
  expiry := by
    rintro moment ⟨⟩
    decide

private theorem aged_renewed_textual : (aged.renewed fresh).IsTextual where
  __ := aged_textual
  token := .str _
  expiry := by
    rintro moment ⟨⟩
    decide

/-- A token that expired in the year 999 is stored, loaded, renewed, and loaded again. -/
theorem load_store_aged :
    let stored := renewing.run 0 {} (store "tokens/token.json" aged).run
    let run := renewing.run 0 stored.files (loadValid "tokens/token.json").run
    aged.IsTextual ∧ stored.value = .ok true ∧ Reloads [] stored.files "tokens/token.json" aged ∧
    (aged.renewed fresh).IsTextual ∧ ⟨.renew (.str "ü\n"), .ok fresh⟩ ∈ run.asked ∧
    (∃ octets, ⟨.writeFile "tokens/token.json" octets, .ok ()⟩ ∈ run.asked) ∧
    run.value = .ok (aged.renewed fresh) ∧ Reloads [] run.files "tokens/token.json" (aged.renewed fresh) := by
  intro stored run
  have done : stored.value = .ok true := ok_of_toOption (by decide +kernel)
  obtain ⟨reloads, renews⟩ := load_store
  have same := reloads renewing 0 {} "tokens/token.json" aged aged_textual done
  obtain ⟨octets, loaded⟩ := load_held (holds_pretty (toJson_textual aged_textual) (store_saves done)) (ofJson_toJson aged_textual) 0
  have late (made : Nat) : aged.isValid (renewing.elsewhere made .now) = false :=
    (by decide +kernel : aged.isValid ⟨2026, 1, 1, 12, 0, 0, 0⟩ = false)
  have ran : run = _ := loadValid_renews loaded (late _) rfl rfl
  obtain ⟨content, written⟩ :
      ∃ content, ⟨.writeFile "tokens/token.json" content, .ok ()⟩ ∈
        (renewing.run 4 stored.files (store "tokens/token.json" (aged.renewed fresh)).run).asked :=
    store_written_iff.mp (ok_of_toOption (by decide +kernel))
  have told : ⟨.renew (.str "ü\n"), .ok fresh⟩ ∈ run.asked := by
    rw [ran]
    exact List.mem_append_right _ (List.mem_cons_of_mem _ List.mem_cons_self)
  have wrote : ⟨.writeFile "tokens/token.json" content, .ok ()⟩ ∈ run.asked := by
    rw [ran]
    exact List.mem_append_right _ (List.mem_cons_of_mem _ (List.mem_cons_of_mem _ written))
  exact ⟨aged_textual, done, same, aged_renewed_textual, told, ⟨content, wrote⟩,
    renews renewing 0 stored.files _ aged _ fresh content (congrArg Record.value loaded) told wrote aged_renewed_textual⟩

end DocScribe.Credential
