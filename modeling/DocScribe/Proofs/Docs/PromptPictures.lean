import DocScribe.Proofs.Docs.PromptWrites

/-! What was uploaded for the pictures of a text is deleted, whichever call fails. -/

namespace DocScribe.Docs
open Service Program DocScribe.Action

private theorem locateImage_prompt (reference : String) (markdownPath : Option String) :
    (Drive.locateImage reference markdownPath).Prompt := by
  have found (path : Files.Path) : Action.Prompt (do
      if ← Files.isFile path.toText then return path
      throw (.localFileNotFound path.toText s!"Image file not found: {path.toText}")) := by
    refine (isFile_prompt _).bind fun isThere => ?_
    cases isThere with
    | true => exact prompt_pure path
    | false => exact prompt_throw _
  unfold Drive.locateImage
  dsimp only
  refine (prompt_local isLocal_place prompt_pure).bind fun place => ?_
  generalize Files.Path.ofText (Files.expandHome place.home _) = path
  split
  · exact (prompt_pure _).bind found
  · split
    · split
      · exact (prompt_throw _).bind found
      · exact (prompt_pure _).bind found
    · exact (prompt_pure _).bind found

private theorem share_prompt (fileId : Identifier) : (Drive.share fileId).Prompt :=
  (prompt_call rfl fun _ => rfl).bind fun _ => prompt_pure _

private theorem upload_failStop (path : Files.Path) (folder : Option String) (held : List Identifier) :
    FailStop (fun after left => after = held ∧ ∃ fault, left = .pure (.error fault))
      (fun after outcome => after = held ++ outcome.toOption.toList) held
      (Drive.upload path folder).run := by
  unfold Drive.upload
  rw [ExceptT.run_bind]
  refine (prompt_ofOutcome _).andThen (fun fault => ⟨rfl, fault, rfl⟩) fun mimeType => ?_
  cases mimeType with
  | error fault => exact .pure (List.append_nil held).symm
  | ok mimeType =>
    dsimp only
    rw [ExceptT.run_bind]
    refine (readOctets_prompt _).andThen (fun fault => ⟨rfl, fault, rfl⟩) fun octets => ?_
    cases octets with
    | error fault => exact .pure (List.append_nil held).symm
    | ok octets =>
      refine .ask rfl (fun reply failed => ?_) fun reply passed => ?_
      · cases reply with
        | ok created => cases failed
        | error fault => exact ⟨rfl, fault, rfl⟩
      · cases reply with
        | error fault => cases passed
        | ok created => exact .pure rfl

namespace ImageInserter

/-- Ends with the files that are uploaded, and stops with them as soon as a call fails. -/
def Carries (held : List Identifier) (program : Program (WithUploads α)) : Prop :=
  FailStop (fun after left => ∃ fault, left = .pure (.error fault, after))
    (fun after value => value.2 = after) held program

private theorem urlOf_carries (inserter : ImageInserter) (image : DeferredImage) (held : List Identifier) :
    Carries held (inserter.urlOf image held) := by
  unfold urlOf
  split
  · exact FailStop.pure rfl
  · split
    · exact FailStop.pure rfl
    · refine FailStop.bind (?_ : FailStop (fun after left => after = held ∧ ∃ fault, left = .pure (.error fault))
        (fun after outcome => after = held ++ outcome.toOption.toList) held _) ?_ ?_
      · rw [ExceptT.run_bind]
        refine (locateImage_prompt ..).andThen (fun fault => ⟨rfl, fault, rfl⟩) fun path => ?_
        cases path with
        | error fault => exact .pure (List.append_nil held).symm
        | ok path => exact upload_failStop path _ held
      · rintro after left ⟨rfl, fault, rfl⟩
        exact ⟨fault, rfl⟩
      · rintro after created rfl
        cases created with
        | error fault => exact .pure (List.append_nil held).symm
        | ok fileId =>
          refine (share_prompt fileId).andThen (fun fault => ⟨fault, rfl⟩) fun link => ?_
          exact .pure rfl

private theorem urlsOf_carries (inserter : ImageInserter) (markers : MarkerRanges) (images : List DeferredImage)
    (urls : ImageUrls) (held : List Identifier) :
    Carries held (inserter.urlsOf markers images urls held) := by
  induction images generalizing urls held with
  | nil => exact .pure rfl
  | cons image rest ih =>
    unfold urlsOf
    split
    · exact ih urls held
    · refine (inserter.urlOf_carries image held).bind ?_ ?_
      · rintro after left ⟨fault, rfl⟩
        exact ⟨fault, rfl⟩
      · rintro after ⟨outcome, uploaded⟩ rfl
        cases outcome with
        | error fault => exact .pure rfl
        | ok url => exact ih _ uploaded

private theorem replaceMarkers_prompt (inserter : ImageInserter) (markers : MarkerRanges) (urls : ImageUrls) :
    (inserter.replaceMarkers markers urls).Prompt := by
  unfold replaceMarkers
  dsimp only
  split
  · exact prompt_pure 0
  · refine (editDocument_prompt _ _).outcome (fun fault => ⟨_, rfl⟩) fun outcome => ?_
    cases outcome with
    | ok _ => exact prompt_pure _
    | error cause => exact prompt_throw _

private theorem insertFound_carries (inserter : ImageInserter) (images : List DeferredImage)
    (markers : MarkerRanges) (held : List Identifier) :
    Carries held (inserter.insertFound images markers held) := by
  refine (inserter.urlsOf_carries markers images [] held).bind ?_ ?_
  · rintro after left ⟨fault, rfl⟩
    exact ⟨fault, rfl⟩
  · rintro after ⟨outcome, uploaded⟩ rfl
    cases outcome with
    | error fault => exact .pure rfl
    | ok urls =>
      refine (inserter.replaceMarkers_prompt markers urls).andThen (fun fault => ⟨fault, rfl⟩) fun outcome => ?_
      exact .pure rfl

theorem insertAll_failStop (inserter : ImageInserter) (images : List DeferredImage) (minIndex : Int) :
    FailStop (Cleans fun fault => (.error fault, [])) (fun _ _ => True) []
      (inserter.insertAll images minIndex []) := by
  cases images with
  | nil => exact .pure trivial
  | cons first rest =>
    refine (Prompt.bind (getDocument_prompt _ _) fun document => prompt_ofOutcome _).andThen ?_ ?_
    · intro fault
      exact ⟨fault, rfl⟩
    · intro markers
      cases markers with
      | error fault => exact .pure trivial
      | ok markers =>
        refine (inserter.insertFound_carries _ markers []).bind ?_ ?_
        · rintro after left ⟨fault, rfl⟩
          exact ⟨fault, rfl⟩
        · rintro after ⟨inserted, uploaded⟩ rfl
          exact .deleteAll uploaded (.pure trivial)

end ImageInserter

theorem write_tidy (target : WriteTarget) (markdown : String) : (target.write markdown).Tidy := by
  have pictures (compiled : Compiled) : Action.Tidy (do
      let inserter : ImageInserter :=
        { documentId := target.documentId, hasDrive := target.hasDrive
          markdownPath := target.markdownPath, folder := target.imageFolder }
      let inserted ← ExceptT.lift (inserter.insertAll compiled.images target.baseIndex [])
      let images ← Action.ofOutcome inserted.1
      return (⟨compiled.text.length, compiled.styles.length, compiled.tables.length, images,
        compiled.warnings⟩ : WriteReport)) := by
    unfold Tidy
    rw [ExceptT.run_bind_lift]
    refine (ImageInserter.insertAll_failStop ..).bind ?_ ?_
    · rintro after left ⟨fault, rfl⟩
      exact ⟨fault, bind_assoc ..⟩
    · rintro after ⟨inserted, uploaded⟩ -
      cases inserted <;> exact .pure trivial
  unfold WriteTarget.write
  dsimp only
  split
  · exact (editDocument_prompt _ _).before fun _ => (insertTables_prompt ..).before fun _ => pictures _
  · exact (insertTables_prompt ..).before fun _ => pictures _

end DocScribe.Docs
