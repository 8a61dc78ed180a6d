import DocScribe.Proofs.Docs.PromptPictures
import DocScribe.Proofs.Service.Transcript

/-! Putting pictures in deletes each file that it uploaded, and no other, whatever fails. The pictures
go in by one batch, for which all of them have an address. -/

namespace DocScribe

namespace Request

def isCall : Request → Bool
  | .call _ => true
  | _ => false

/-- Changes a document, or makes one. -/
def writes : Request → Bool
  | .call (.editDocument ..) => true
  | .call (.createFile _ none) => true
  | _ => false

def Harmless (question : Request) : Prop := question.isDeletion = false ∧ question.writes = false

theorem Harmless.ofLocal (question : Request) (isLocal : question.isCall = false) : question.Harmless := by
  cases question with
  | call => cases isLocal
  | _ => exact ⟨rfl, rfl⟩

end Request

theorem Exchange.uploads_locals {asked : List Exchange}
    (locals : ∀ exchange ∈ asked, exchange.question.isCall = false) :
    asked.flatMap Exchange.uploads = [] := by
  refine List.flatMap_eq_nil_iff.mpr fun exchange among => ?_
  have isLocal := locals exchange among
  obtain ⟨question, reply⟩ := exchange
  cases question with
  | call => cases isLocal
  | _ => rfl

namespace Docs
open Service Program

private theorem locateImage_asks (reference : String) (markdownPath : Option String) :
    Program.Asks (·.isCall = false) (Drive.locateImage reference markdownPath).run := by
  have found (path : Files.Path) : Program.Asks (·.isCall = false) (ExceptT.run (do
      if ← Files.isFile path.toText then return path
      throw (.localFileNotFound path.toText s!"Image file not found: {path.toText}"))) := by
    refine Asks.andThen (.ask rfl fun reply => .pure) fun isThere => ?_
    cases isThere with
    | true => exact .pure
    | false => exact .pure
  unfold Drive.locateImage
  dsimp only
  refine Asks.andThen (.ask rfl fun reply => .pure) fun place => ?_
  generalize Files.Path.ofText (Files.expandHome place.home _) = path
  split
  · exact found _
  · split
    · split
      · exact .pure
      · exact found _
    · exact found _

private theorem upload_asks (path : Files.Path) (folder : Option String) :
    Program.Asks Request.Harmless (Drive.upload path folder).run := by
  have guessed : Program.Asks Request.Harmless
      (ExceptT.run (Action.ofOutcome (Files.MimeType.ofImage path))) := .pure
  refine guessed.andThen fun mimeType => ?_
  refine Asks.andThen (.ask ⟨rfl, rfl⟩ fun reply => .pure) fun octets => ?_
  exact Asks.andThen (.ask ⟨rfl, rfl⟩ fun reply => .pure) fun created => .pure

/-- How the upload of a picture ends: before its file was created, or with what its creation said. -/
inductive Uploading : List Exchange → Outcome Identifier → Prop where
  | unasked {asked fault} (locals : ∀ exchange ∈ asked, exchange.question.isCall = false) :
      Uploading asked (.error fault)
  | refused {asked metadata content fault} (locals : ∀ exchange ∈ asked, exchange.question.isCall = false) :
      Uploading (asked ++ [⟨.call (.createFile metadata (some content)), .error fault⟩]) (.error fault)
  | created {asked metadata content file} (locals : ∀ exchange ∈ asked, exchange.question.isCall = false) :
      Uploading (asked ++ [⟨.call (.createFile metadata (some content)), .ok file⟩]) (file.required "id")

namespace Uploading
variable {asked look : List Exchange} {outcome : Outcome Identifier}

private theorem after (uploading : Uploading asked outcome)
    (locals : ∀ exchange ∈ look, exchange.question.isCall = false) : Uploading (look ++ asked) outcome := by
  cases uploading with
  | unasked more => exact .unasked (List.forall_mem_append.mpr ⟨locals, more⟩)
  | refused more =>
    rw [← List.append_assoc]
    exact .refused (List.forall_mem_append.mpr ⟨locals, more⟩)
  | created more =>
    rw [← List.append_assoc]
    exact .created (List.forall_mem_append.mpr ⟨locals, more⟩)

private theorem uploads (uploading : Uploading asked outcome) :
    asked.flatMap Exchange.uploads = outcome.toOption.toList := by
  cases uploading with
  | unasked locals => exact Exchange.uploads_locals locals
  | refused locals =>
    rw [List.flatMap_append, Exchange.uploads_locals locals]
    rfl
  | created locals =>
    rw [List.flatMap_append, Exchange.uploads_locals locals]
    exact List.append_nil _

end Uploading

private theorem upload_leads (path : Files.Path) (folder : Option String) :
    (Drive.upload path folder).run.Leads Uploading := by
  have guessed : Leads (ExceptT.run (Action.ofOutcome (Files.MimeType.ofImage path)))
      fun asked _ => asked = [] := Leads.pure rfl
  unfold Drive.upload
  rw [ExceptT.run_bind]
  refine guessed.bind ?_
  rintro asked mimeType rfl
  cases mimeType with
  | error fault => exact .pure (.unasked (List.forall_mem_nil _))
  | ok mimeType =>
    refine .ask fun octets => ?_
    cases octets with
    | error fault => exact .pure (.unasked (List.forall_mem_singleton.mpr rfl))
    | ok octets =>
      refine .ask fun file => ?_
      have locals : ∀ exchange ∈ [(⟨.readFile path.toText, .ok octets⟩ : Exchange)],
          exchange.question.isCall = false := List.forall_mem_singleton.mpr rfl
      cases file with
      | error fault => exact .pure (.refused locals)
      | ok file => exact .pure (.created locals)

private theorem locateAndUpload_leads (reference : String) (markdownPath folder : Option String) :
    Leads (ExceptT.run (do
      let path ← Drive.locateImage reference markdownPath
      Drive.upload path folder)) Uploading := by
  rw [ExceptT.run_bind]
  refine (locateImage_asks reference markdownPath).leads.bind fun asked path locals => ?_
  cases path with
  | error fault => exact .pure (by simpa using .unasked locals)
  | ok path => exact (upload_leads path folder).mono fun further outcome uploading => uploading.after locals

namespace ImageInserter

private theorem urlOf_asks (inserter : ImageInserter) (image : DeferredImage) (held : List Identifier) :
    (inserter.urlOf image held).Asks Request.Harmless := by
  unfold urlOf
  split
  · exact .pure
  · split
    · exact .pure
    · refine Asks.bind (Asks.andThen ?_ fun path => upload_asks path _) fun created => ?_
      · exact (locateImage_asks ..).mono Request.Harmless.ofLocal
      · cases created with
        | error fault => exact .pure
        | ok fileId =>
          exact Asks.bind (Asks.andThen (.ask ⟨rfl, rfl⟩ fun reply => .pure) fun shared => .pure)
            fun link => .pure

theorem urlsOf_asks (inserter : ImageInserter) (markers : MarkerRanges) (images : List DeferredImage)
    (urls : ImageUrls) (held : List Identifier) :
    (inserter.urlsOf markers images urls held).Asks Request.Harmless := by
  induction images generalizing urls held with
  | nil => exact .pure
  | cons image rest ih =>
    unfold urlsOf
    split
    · exact ih urls held
    · refine (inserter.urlOf_asks image held).bind fun value => ?_
      obtain ⟨outcome, uploaded⟩ := value
      cases outcome with
      | error fault => exact .pure
      | ok url => exact ih _ uploaded

/-- What was asked for the address of a picture, and the address. -/
inductive Addresses (image : DeferredImage) : List Exchange → String → Prop where
  | remote (isRemote : image.isRemote = true) : Addresses image [] image.source
  | uploaded {asked metadata content file fileId shared} (isLocal : image.isRemote = false)
      (locals : ∀ exchange ∈ asked, exchange.question.isCall = false)
      (named : file.required "id" = .ok fileId) :
      Addresses image
        (asked ++ [⟨.call (.createFile metadata (some content)), .ok file⟩, ⟨.call (.shareFile fileId), .ok shared⟩])
        ("https://drive.google.com/uc?id=" ++ fileId.display)

/-- What was asked for the addresses of all pictures whose markers were found, and the addresses. -/
inductive Resolves (markers : MarkerRanges) : List DeferredImage → List Exchange → ImageUrls → Prop where
  | nil : Resolves markers [] [] []
  | unmarked {image images asked urls} (absent : markers.lookup image.ordinal = none)
      (rest : Resolves markers images asked urls) : Resolves markers (image :: images) asked urls
  | marked {image images asked further url urls} (found : (markers.lookup image.ordinal).isSome = true)
      (addresses : Addresses image asked url) (rest : Resolves markers images further urls) :
      Resolves markers (image :: images) (asked ++ further) ((image.ordinal, url) :: urls)

/-- The addresses by number, where a later one takes the place of an earlier one. -/
def collect (urls found : ImageUrls) : ImageUrls :=
  found.foldl (fun urls entry => setUrl entry.1 entry.2 urls) urls

/-- How the search for addresses ends: with the files that were uploaded before and during it, and
with what was looked for unless something failed. -/
structure Gathers (held : List Identifier) (found : List Exchange → α → Prop) (asked : List Exchange)
    (value : WithUploads α) : Prop where
  uploads : value.2 = held ++ asked.flatMap Exchange.uploads
  found : ∀ result, value.1 = .ok result → found asked result

theorem Gathers.failed {held uploaded : List Identifier} {found : List Exchange → α → Prop}
    {asked : List Exchange} (fault : Fault) (uploads : uploaded = held ++ asked.flatMap Exchange.uploads) :
    Gathers held found asked (.error fault, uploaded) := by
  refine ⟨uploads, ?_⟩
  rintro _ ⟨⟩

private theorem urlOf_leads (inserter : ImageInserter) (image : DeferredImage) (held : List Identifier) :
    (inserter.urlOf image held).Leads (Gathers held (Addresses image)) := by
  unfold urlOf
  split
  next isRemote =>
    refine Leads.pure ⟨(List.append_nil _).symm, ?_⟩
    rintro url ⟨⟩
    exact .remote isRemote
  next isLocal =>
    split
    · exact Leads.pure (.failed _ (List.append_nil _).symm)
    · refine Leads.bind (locateAndUpload_leads _ _ _) fun asked created uploading => ?_
      cases created with
      | error fault =>
        refine Leads.pure (.failed _ ?_)
        rw [List.append_nil, uploading.uploads]
        exact (List.append_nil _).symm
      | ok fileId =>
        have uploads : ∀ reply, held ++ [fileId] =
            held ++ (asked ++ [(⟨.call (.shareFile fileId), reply⟩ : Exchange)]).flatMap Exchange.uploads := by
          intro reply
          rw [List.flatMap_append, uploading.uploads]
          rfl
        refine .ask fun shared => ?_
        cases shared with
        | error fault =>
          change (Program.pure (Except.error fault, held ++ [fileId])).Leads _
          exact .pure (.failed _ (uploads _))
        | ok shared =>
          change (Program.pure (Except.ok ("https://drive.google.com/uc?id=" ++ fileId.display),
            held ++ [fileId])).Leads _
          refine .pure ⟨uploads _, ?_⟩
          rintro url ⟨⟩
          generalize named : Except.ok fileId = outcome at uploading
          cases uploading with
          | unasked | refused => cases named
          | created locals =>
            rw [List.append_assoc]
            exact .uploaded (by simpa using isLocal) locals named.symm

private theorem urlsOf_leads (inserter : ImageInserter) (markers : MarkerRanges) (images : List DeferredImage)
    (urls : ImageUrls) (held : List Identifier) :
    (inserter.urlsOf markers images urls held).Leads (Gathers held fun asked all =>
      ∃ found, Resolves markers images asked found ∧ all = collect urls found) := by
  -- on the images: the files that are held are those that the exchanges so far have uploaded
  induction images generalizing urls held with
  | nil =>
    refine Leads.pure ⟨(List.append_nil _).symm, ?_⟩
    rintro all ⟨⟩
    exact ⟨[], .nil, rfl⟩
  | cons image rest ih =>
    unfold urlsOf
    split
    next absent =>
      refine (ih urls held).mono fun asked value gathers => ⟨gathers.uploads, ?_⟩
      intro all ended
      obtain ⟨found, resolves, same⟩ := gathers.found all ended
      exact ⟨found, .unmarked (by simpa using absent) resolves, same⟩
    next marked =>
      refine (inserter.urlOf_leads image held).bind fun asked value first => ?_
      obtain ⟨outcome, uploaded⟩ := value
      obtain rfl : uploaded = _ := first.uploads
      cases outcome with
      | error fault =>
        refine Leads.pure (.failed _ ?_)
        rw [List.append_nil]
      | ok url =>
        refine (ih _ _).mono fun further value later => ⟨?_, ?_⟩
        · rw [later.uploads, List.flatMap_append, List.append_assoc]
        · intro all ended
          obtain ⟨found, resolves, same⟩ := later.found all ended
          exact ⟨(image.ordinal, url) :: found,
            .marked (by simpa [Option.ne_none_iff_isSome] using marked) (first.found url rfl) resolves, same⟩

/-- A batch is asked for last, if at all, and then all markers that were found have an address. -/
inductive Batches (inserter : ImageInserter) (markers : MarkerRanges) (images : List DeferredImage) :
    List Exchange → Prop where
  | unsent {asked} (harmless : ∀ exchange ∈ asked, exchange.question.Harmless) :
      Batches inserter markers images asked
  | sent {asked found reply} (harmless : ∀ exchange ∈ asked, exchange.question.Harmless)
      (resolves : Resolves markers images asked found) :
      Batches inserter markers images (asked ++
        [⟨.call (.editDocument inserter.documentId (imageEdits markers (collect [] found))), reply⟩])

theorem Batches.undeleted {inserter : ImageInserter} {markers : MarkerRanges} {images : List DeferredImage}
    {asked : List Exchange} (batches : Batches inserter markers images asked) :
    ∀ exchange ∈ asked, exchange.question.isDeletion = false := by
  cases batches with
  | unsent harmless => exact fun exchange among => (harmless exchange among).1
  | sent harmless resolves =>
    exact List.forall_mem_append.mpr
      ⟨fun exchange among => (harmless exchange among).1, List.forall_mem_singleton.mpr rfl⟩

private theorem insertFound_leads (inserter : ImageInserter) (images : List DeferredImage) (markers : MarkerRanges) :
    (inserter.insertFound images markers []).Leads fun asked value =>
      Batches inserter markers images asked ∧ value.2 = asked.flatMap Exchange.uploads := by
  refine ((inserter.urlsOf_leads markers images [] []).and
    (inserter.urlsOf_asks markers images [] []).leads).bind fun asked value ends => ?_
  obtain ⟨gathers, harmless⟩ := ends
  obtain ⟨outcome, uploaded⟩ := value
  obtain rfl : uploaded = [] ++ _ := gathers.uploads
  have silent (outcome : Outcome Nat) : Leads (.pure (outcome, [] ++ asked.flatMap Exchange.uploads))
      fun further value => Batches inserter markers images (asked ++ further) ∧
        value.2 = (asked ++ further).flatMap Exchange.uploads := by
    refine .pure ?_
    rw [List.append_nil]
    exact ⟨.unsent harmless, rfl⟩
  cases outcome with
  | error fault => exact silent (.error fault)
  | ok urls =>
    obtain ⟨found, resolves, rfl⟩ := gathers.found _ rfl
    dsimp only [replaceMarkers]
    split
    · exact silent (.ok 0)
    · refine .ask fun reply => ?_
      have ends : Batches inserter markers images (asked ++ [⟨.call (.editDocument ..), reply⟩]) ∧
          [] ++ asked.flatMap Exchange.uploads =
            (asked ++ [(⟨.call (.editDocument ..), reply⟩ : Exchange)]).flatMap Exchange.uploads := by
        refine ⟨.sent harmless resolves, ?_⟩
        rw [List.flatMap_append]
        exact (List.append_nil _).symm
      cases reply with
      | ok answer => exact Leads.pure ends
      | error cause => exact Leads.pure ends

/-- What comes of putting in pictures, up to the deletions and from there. -/
structure Cleared (inserter : ImageInserter) (images : List DeferredImage) (minIndex : Int)
    (asked deletions : List Exchange) (value : WithUploads Nat) : Prop where
  kept : ∀ exchange ∈ asked, exchange.question.isDeletion = false
  deleted : deletions.map Exchange.question =
    (asked.flatMap Exchange.uploads).map fun fileId => .call (.deleteFile fileId)
  forgotten : value.2 = []
  batches : (∀ exchange ∈ asked, exchange.question.Harmless) ∨
    ∃ first document markers resolution, images.head? = some first ∧
      findMarkers document images.length first.tag minIndex = .ok markers ∧
      asked = ⟨.call (.getDocument inserter.documentId .body), .ok document⟩ :: resolution ∧
      Batches inserter markers images resolution

private theorem insertAll_leads (inserter : ImageInserter) (images : List DeferredImage) (minIndex : Int) :
    (inserter.insertAll images minIndex []).Leads fun exchanges value =>
      ∃ asked deletions, exchanges = asked ++ deletions ∧
        inserter.Cleared images minIndex asked deletions value := by
  cases images with
  | nil =>
    have none := List.forall_mem_nil fun exchange : Exchange => exchange.question.Harmless
    exact .pure ⟨[], [], rfl, List.forall_mem_nil _, rfl, rfl, .inl none⟩
  | cons first rest =>
    have unread (document : Outcome Json) (fault : Fault) :
        inserter.Cleared (first :: rest) minIndex
          [⟨.call (.getDocument inserter.documentId .body), document⟩] [] (.error fault, []) :=
      ⟨List.forall_mem_singleton.mpr rfl, rfl, rfl, .inl (List.forall_mem_singleton.mpr ⟨rfl, rfl⟩)⟩
    refine .ask fun document => ?_
    cases document with
    | error fault => exact Leads.pure ⟨_, [], rfl, unread (.error fault) fault⟩
    | ok document =>
      cases searched : findMarkers document (first :: rest).length first.tag minIndex with
      | error fault =>
        change Leads (ExceptT.run (Action.ofOutcome (findMarkers ..)) >>= _) _
        rw [searched]
        exact Leads.pure ⟨_, [], rfl, unread (.ok document) fault⟩
      | ok markers =>
        change Leads (ExceptT.run (Action.ofOutcome (findMarkers ..)) >>= _) _
        rw [searched]
        change Leads (inserter.insertFound (first :: rest) markers [] >>= _) _
        refine Leads.bind (inserter.insertFound_leads _ markers) fun resolution value ends => ?_
        obtain ⟨inserted, uploaded⟩ := value
        obtain ⟨batches, rfl⟩ := ends
        intro replies made
        refine ⟨⟨.call (.getDocument inserter.documentId .body), .ok document⟩ :: resolution, _, rfl, ?_⟩
        refine ⟨List.forall_mem_cons.mpr ⟨rfl, batches.undeleted⟩, ?_, ?_, .inr ?_⟩
        · exact exchanges_deleteAll ..
        · exact congrArg Prod.snd (result_deleteAll ..)
        · exact ⟨first, document, markers, resolution, rfl, searched, rfl, batches⟩

/-- Whatever stops a pass over images, the files that were uploaded for it are deleted behind everything else, in their order, and
it does not matter whether that succeeds. -/
theorem insertAll_cleans (inserter : ImageInserter) (images : List DeferredImage) (minIndex : Int)
    (replies : Replies) (made : Nat) :
    let program := inserter.insertAll images minIndex []
    (∃ asked deletions, program.exchanges replies made = asked ++ deletions ∧
      inserter.Cleared images minIndex asked deletions (program.result replies made)) ∧
    ∀ other : Replies,
      (∀ made question, question.isDeletion = false → other made question = replies made question) →
      (program.exchanges other made).map Exchange.question =
          (program.exchanges replies made).map Exchange.question ∧
        program.result other made = program.result replies made :=
  ⟨inserter.insertAll_leads images minIndex replies made,
    fun _ agree => (inserter.insertAll_failStop images minIndex).deaf agree made⟩

end ImageInserter
end Docs
end DocScribe
