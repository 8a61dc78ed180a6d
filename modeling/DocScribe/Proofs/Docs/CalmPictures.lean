import DocScribe.Docs.MarkdownWrite
import DocScribe.Proofs.Docs.ReplacedRanges
import DocScribe.Proofs.Docs.SparingReads

/-! Putting in pictures adds no table, and where all replies are fair it is not left unfinished. -/

namespace DocScribe
open Service Docs

def Docs.Edit.isTable : Edit → Bool
  | .insertTable .. => true
  | _ => false

/-- Sends no edit that adds a table. -/
def Request.IsTableless : Request → Prop
  | .call (.editDocument _ edits) => edits.any Edit.isTable = false
  | _ => True

instance : DecidablePred Request.IsTableless := fun question => by
  unfold Request.IsTableless
  split <;> infer_instance

def Tableless (asked : List Exchange) : Prop := ∀ exchange ∈ asked, exchange.question.IsTableless

instance (asked : List Exchange) : Decidable (Tableless asked) :=
  inferInstanceAs (Decidable (∀ exchange ∈ asked, exchange.question.IsTableless))

theorem tableless_nil : Tableless [] := List.forall_mem_nil _

theorem Tableless.append {asked further : List Exchange} (front : Tableless asked) (back : Tableless further) :
    Tableless (asked ++ further) :=
  List.forall_mem_append.mpr ⟨front, back⟩

namespace Drive
open DocScribe.Action

private theorem locateImage_calm (reference : String) (markdownPath : Option String) :
    (locateImage reference markdownPath).Calm Request.IsTableless := by
  have found (path : Files.Path) : Action.Calm (do
      if ← Files.isFile path.toText then return path
      throw (.localFileNotFound path.toText s!"Image file not found: {path.toText}")) Request.IsTableless := by
    refine (calm_isFile trivial).bind fun isThere => ?_
    cases isThere with
    | true => exact calm_pure path
    | false => exact calm_throw rfl
  unfold locateImage
  dsimp only
  refine (calm_place trivial).bind fun place => ?_
  generalize Files.Path.ofText (Files.expandHome place.home _) = path
  split
  · exact found _
  · split
    · split
      · exact (calm_throw rfl).bind fun _ => found _
      · exact found _
    · exact found _

private theorem ofImage_spares (path : Files.Path) : Spares (Files.MimeType.ofImage path) := by
  unfold Files.MimeType.ofImage
  split
  · split
    · exact spares_pure _
    · exact spares_throw rfl
  · exact spares_throw rfl

private theorem upload_calm (path : Files.Path) (folder : Option String) : (upload path folder).Calm Request.IsTableless := by
  refine (calm_ofOutcome (ofImage_spares path)).bind fun mimeType => (calm_readOctets trivial).bind fun octets => ?_
  exact (calm_call trivial rfl).bind fun created => calm_ofOutcome (created.required_spares "id")

private theorem share_calm (fileId : Identifier) : (share fileId).Calm Request.IsTableless :=
  (calm_call trivial rfl).bind fun _ => calm_pure _

private theorem deleteAll_calm (files : List Identifier) : (deleteAll files).Calm Request.IsTableless fun _ => True := by
  induction files with
  | nil => exact Program.calm_pure trivial
  | cons fileId files ih => exact Program.calm_ask trivial fun reply _ => ih.bind fun _ _ => Program.calm_pure trivial

end Drive

namespace Docs.ImageInserter
open Program
variable (inserter : ImageInserter)

private theorem imageEdits_tableless (ranges : MarkerRanges) (urls : ImageUrls) : (imageEdits ranges urls).any Edit.isTable = false := by
  rw [imageEdits_eq, List.any_flatMap, List.any_eq_false]
  intro range _
  unfold rangeEdits
  split <;> simp [Edit.isTable]

private theorem urlOf_calm (image : DeferredImage) (held : List Identifier) :
    (inserter.urlOf image held).Calm Request.IsTableless fun value => Spares value.1 := by
  unfold urlOf
  split
  · exact calm_pure (spares_ok _)
  · split
    · exact calm_pure (spares_error rfl)
    · have uploaded : Action.Calm (do
          let path ← Drive.locateImage image.source inserter.markdownPath
          Drive.upload path inserter.folder) Request.IsTableless :=
        (Drive.locateImage_calm _ _).bind fun path => Drive.upload_calm path _
      refine Program.Calm.bind uploaded fun outcome spares => ?_
      cases outcome with
      | error fault => exact calm_pure (spares_error (spares fault rfl))
      | ok fileId => exact Program.Calm.bind (Drive.share_calm fileId) fun _ spares => calm_pure spares

private theorem urlsOf_calm (markers : MarkerRanges) (images : List DeferredImage) (urls : ImageUrls) (held : List Identifier) :
    (inserter.urlsOf markers images urls held).Calm Request.IsTableless fun value => Spares value.1 := by
  induction images generalizing urls held with
  | nil => exact calm_pure (spares_ok _)
  | cons image images ih =>
    unfold urlsOf
    split
    · exact ih urls held
    · refine (inserter.urlOf_calm image held).bind fun value spares => ?_
      obtain ⟨outcome, uploaded⟩ := value
      cases outcome with
      | error fault => exact calm_pure (spares_error (spares fault rfl))
      | ok url => exact ih _ uploaded

/-- The only fault of a change that is made here is that of a batch which a service refused. -/
theorem replaceMarkers_calm (markers : MarkerRanges) (urls : ImageUrls) :
    (inserter.replaceMarkers markers urls).Calm Request.IsTableless := by
  unfold replaceMarkers
  dsimp only
  split
  · exact Action.calm_pure 0
  · have quiet : (Request.call (.editDocument inserter.documentId (imageEdits markers urls))).IsTableless :=
      imageEdits_tableless markers urls
    refine calm_ask quiet fun reply fair => ?_
    cases reply with
    | ok receipt => exact calm_pure (spares_ok _)
    | error fault => cases fair.whole

theorem insertAll_calm (images : List DeferredImage) (minIndex : Int) (pending : List Identifier) :
    (inserter.insertAll images minIndex pending).Calm Request.IsTableless fun value => Spares value.1 := by
  unfold insertAll
  split
  · exact calm_pure (spares_ok _)
  · rename_i first rest
    have located : (inserter.locateMarkers (first :: rest).length first.tag minIndex).Calm Request.IsTableless :=
      (Action.calm_call trivial rfl).bind fun document => Action.calm_ofOutcome (findMarkers_spares _ _ document _)
    refine Program.Calm.bind located fun outcome spares => ?_
    cases outcome with
    | error fault => exact calm_pure (spares_error (spares fault rfl))
    | ok markers =>
      have inserted : (inserter.insertFound (first :: rest) markers pending).Calm Request.IsTableless
          fun value => Spares value.1 := by
        refine (inserter.urlsOf_calm markers _ [] pending).bind fun value spares => ?_
        obtain ⟨outcome, uploaded⟩ := value
        cases outcome with
        | error fault => exact calm_pure (spares_error (spares fault rfl))
        | ok urls => exact Program.Calm.bind (inserter.replaceMarkers_calm markers urls) fun _ spares => calm_pure spares
      refine inserted.bind fun value spares => ?_
      exact (Drive.deleteAll_calm value.2).bind fun _ _ => calm_pure spares

end Docs.ImageInserter

end DocScribe
