import DocScribe.Files.Access
import DocScribe.Proofs.Service.Transcript
import DocScribe.Rehearsal.FileTree
import Mathlib.Tactic.SplitIfs

/-! Programs run on files in memory, with given replies to whatever does not concern files. What was written to a file
can be read from it. -/

namespace DocScribe

def Request.isAboutFiles : Request → Bool
  | .isFile _ => true
  | .isFolder _ => true
  | .isThere _ => true
  | .readFile _ => true
  | .writeFile .. => true
  | .makeFolder _ => true
  | _ => false

def Request.isAboutFolders : Request → Bool
  | .isFolder _ => true
  | .makeFolder _ => true
  | _ => false

def Request.changesFiles : Request → Bool
  | .writeFile .. => true
  | .makeFolder _ => true
  | _ => false

theorem Request.isAboutFiles_of_folders {question : Request} (folders : question.isAboutFolders = true) :
    question.isAboutFiles = true := by
  cases question <;> first | rfl | cases folders

namespace Rehearsal
open Service Program

namespace FileTree
variable {tree after : FileTree} {folder start location : Location} {parts : List (List Char)} {entry : Entry}

private theorem lookup_filter_of_ne {entries : List (Location × Entry)} {other : Location} (apart : other ≠ location) :
    (entries.filter fun known => known.1 != location).lookup other = entries.lookup other := by
  induction entries with
  | nil => rfl
  | cons known entries ih =>
    obtain ⟨place, entry⟩ := known
    by_cases same : place = location
    · subst same
      rw [List.filter_cons_of_neg (by simp), ih, List.lookup_cons, beq_false_of_ne apart]
    · rw [List.filter_cons_of_pos (by simpa using same), List.lookup_cons, List.lookup_cons, ih]

private theorem at?_put_other {other : Location} (apart : other ≠ location) :
    (tree.put location entry).at? other = tree.at? other := by
  unfold at? put
  rw [List.lookup_cons, beq_false_of_ne apart]
  simp only [lookup_filter_of_ne apart]

private theorem at?_put (free : tree.isFolder location = false) : (tree.put location entry).at? location = some entry := by
  cases location with
  | nil => cases free
  | cons name outer => simp [at?, put]

/-- The way to a place goes through folders, so it is not changed by what is put at its end. -/
theorem walk_put (led : tree.walk start parts = .ok location) (free : tree.isFolder location = false) :
    (tree.put location entry).walk start parts = .ok location := by
  induction parts generalizing start with
  | nil => exact led
  | cons part parts ih =>
    unfold walk at led ⊢
    cases here : tree.at? start with
    | none => simp only [here, reduceCtorEq] at led
    | some kind =>
      cases kind with
      | file octets => simp only [here, reduceCtorEq] at led
      | folder =>
        have apart : start ≠ location := by
          rintro rfl
          simp [isFolder, here] at free
        rw [at?_put_other apart, here]
        simp only [here] at led ⊢
        split_ifs at led ⊢
        · exact ih led
        · exact ih led
        · exact ih led

variable {path : String} {octets : List UInt8}

private theorem locate_put (found : tree.locate folder path = .ok location) (free : tree.isFolder location = false) :
    (tree.put location entry).locate folder path = .ok location := by
  unfold locate at found ⊢
  dsimp only at found ⊢
  split_ifs at found ⊢
  · exact walk_put found free
  · exact walk_put found free

private theorem exists_of_write (written : tree.write folder path octets = .ok after) :
    ∃ location, tree.locate folder path = .ok location ∧ tree.isFolder location = false ∧
      after = tree.put location (.file octets) := by
  unfold write at written
  cases found : tree.locate folder path with
  | error fault => simp only [found, throw, throwThe, MonadExceptOf.throw, reduceCtorEq] at written
  | ok location =>
    simp only [found] at written
    split at written
    · cases written
    next free => exact ⟨location, rfl, by simpa using free, (Except.ok.inj written).symm⟩

private theorem read_write (written : tree.write folder path octets = .ok after) : after.read folder path = .ok octets := by
  obtain ⟨location, found, free, rfl⟩ := exists_of_write written
  simp only [read, locate_put found free, at?_put free]
  rfl

theorem isThere_of_read (held : tree.read folder path = .ok octets) : tree.isThere folder path = true := by
  unfold read at held
  unfold isThere
  cases found : tree.locate folder path with
  | error fault => simp only [found, throw, throwThe, MonadExceptOf.throw, reduceCtorEq] at held
  | ok location =>
    cases here : tree.at? location with
    | none => simp only [found, here, throw, throwThe, MonadExceptOf.throw, reduceCtorEq] at held
    | some entry => simp only [here, Option.isSome_some]

end FileTree

/-- Files in memory as they are seen from a folder, with given replies to all else. -/
structure FileService where
  folder : Location
  elsewhere : Replies

/-- What a program asked, what it ended with, and the files then. -/
structure Record (α : Type) where
  asked : List Exchange
  value : α
  files : FileTree

namespace FileService

def changed (files : FileTree) : Outcome FileTree → Outcome Unit × FileTree
  | .ok after => (.ok (), after)
  | .error fault => (.error fault, files)

def answer (service : FileService) (made : Nat) (files : FileTree) : (question : Request) → question.Reply × FileTree
  | .isFile path => (files.isFile service.folder path, files)
  | .isFolder path => (files.hasFolder service.folder path, files)
  | .isThere path => (files.isThere service.folder path, files)
  | .readFile path => (files.read service.folder path, files)
  | .writeFile path octets => changed files (files.write service.folder path octets)
  | .makeFolder path => changed files (files.makeFolder service.folder path)
  | question => (service.elsewhere made question, files)

/-- Runs a program after `made` questions. -/
def run (service : FileService) : (made : Nat) → (files : FileTree) → Program α → Record α
  | _, files, .pure value => ⟨[], value, files⟩
  | made, files, .request question next =>
    let answer := service.answer made files question
    let rest := service.run (made + 1) answer.2 (next answer.1)
    ⟨⟨question, answer.1⟩ :: rest.asked, rest.value, rest.files⟩

variable (service : FileService) (made : Nat) (files : FileTree)

theorem run_bind (program : Program α) (next : α → Program β) :
    service.run made files (program >>= next) =
      let first := service.run made files program
      let rest := service.run (made + first.asked.length) first.files (next first.value)
      ⟨first.asked ++ rest.asked, rest.value, rest.files⟩ := by
  induction program generalizing made files with
  | pure value => rfl
  | request question rest ih =>
    change service.run made files (.request question fun reply => rest reply >>= next) = _
    simp only [run, ih, List.length_cons, Nat.add_assoc, Nat.add_comm 1, List.cons_append]

private theorem run_write (path : String) (octets : List UInt8) :
    service.run made files (Files.write path octets).run =
      let reply := changed files (files.write service.folder path octets)
      ⟨[⟨.writeFile path octets, reply.1⟩], reply.1, reply.2⟩ := rfl

/-- Without questions about files, a run is one on the given replies. -/
theorem run_elsewhere {program : Program α} (asks : program.Asks (·.isAboutFiles = false)) :
    service.run made files program =
      ⟨program.exchanges service.elsewhere made, program.result service.elsewhere made, files⟩ := by
  induction asks generalizing made with
  | pure => rfl
  | @ask question next fine rest ih =>
    have given : service.answer made files question = (service.elsewhere made question, files) := by
      cases question <;> first | rfl | cases fine
    simp only [run, given, ih]
    rfl

theorem run_unchanged {program : Program α} (asks : program.Asks (·.changesFiles = false)) :
    (service.run made files program).files = files := by
  induction asks generalizing made with
  | pure => rfl
  | @ask question next fine rest ih =>
    have same : (service.answer made files question).2 = files := by
      cases question <;> first | rfl | cases fine
    change (service.run (made + 1) (service.answer made files question).2 _).files = files
    rw [same]
    exact ih _ _

theorem run_asks {allowed : Request → Prop} {program : Program α} (asks : program.Asks allowed) :
    ∀ exchange ∈ (service.run made files program).asked, allowed exchange.question := by
  induction asks generalizing made files with
  | pure => exact List.forall_mem_nil _
  | ask fine rest ih => exact List.forall_mem_cons.mpr ⟨fine, ih _ _ _⟩

variable {service made files}

theorem run_andThen {action : Action α} {next : α → Action β} {value : α} {asked : List Exchange} {after : FileTree}
    (first : service.run made files action.run = ⟨asked, .ok value, after⟩) :
    service.run made files (action >>= next).run =
      let rest := service.run (made + asked.length) after (next value).run
      ⟨asked ++ rest.asked, rest.value, rest.files⟩ := by
  rw [ExceptT.run_bind, run_bind, first]

theorem run_stopped {action : Action α} {next : α → Action β} {fault : Fault} {asked : List Exchange} {after : FileTree}
    (first : service.run made files action.run = ⟨asked, .error fault, after⟩) :
    service.run made files (action >>= next).run = ⟨asked, .error fault, after⟩ := by
  rw [ExceptT.run_bind, run_bind, first]
  exact congrArg (Record.mk · _ _) (List.append_nil asked)

section Values
variable (service)

/-- Ends with such a value, whatever the files are. -/
def Settles (program : Program α) (good : α → Prop) : Prop :=
  ∀ made files, good (service.run made files program).value

variable {service} {good : α → Prop} {best : β → Prop}

theorem settles_pure {value : α} (done : good value) : service.Settles (.pure value) good := fun _ _ => done

private theorem settles_ask {question : Request} {next : question.Reply → Program α}
    (rest : ∀ made files, service.Settles (next (service.answer made files question).1) good) :
    service.Settles (.request question next) good :=
  fun made files => rest made files (made + 1) (service.answer made files question).2

theorem Settles.bind {program : Program α} {next : α → Program β} (first : service.Settles program good)
    (rest : ∀ value, good value → service.Settles (next value) best) : service.Settles (program >>= next) best := by
  intro made files
  rw [run_bind]
  exact rest _ (first made files) _ _

end Values

end FileService

/-- Does not end because of a connection that broke. -/
def Unbroken (outcome : Outcome α) : Prop := ∀ message, outcome ≠ .error (.secureChannel message)

section Unbroken
variable {tree : FileTree} {folder : Location} {path : String}

theorem unbroken_ok (value : α) : Unbroken (.ok value) := by
  rintro message ⟨⟩

theorem WalkFault.unbroken (fault : WalkFault) (path : String) : Unbroken (.error (fault.toFault path) : Outcome α) := by
  cases fault <;> rintro message ⟨⟩

theorem FileTree.write_unbroken (octets : List UInt8) : Unbroken (tree.write folder path octets) := by
  unfold write
  split
  next fault _ => exact fault.unbroken path
  next location _ =>
    split
    · rintro message ⟨⟩
    · exact unbroken_ok _

theorem FileTree.makeFolder_unbroken : Unbroken (tree.makeFolder folder path) := by
  unfold makeFolder
  split
  next fault _ => exact fault.unbroken path
  next location _ =>
    split
    · rintro message ⟨⟩
    · exact unbroken_ok _

theorem FileService.changed_unbroken {outcome : Outcome FileTree} (unbroken : Unbroken outcome) :
    Unbroken (changed tree outcome).1 := by
  cases outcome with
  | ok after => exact unbroken_ok ()
  | error fault =>
    rintro message ⟨⟩
    exact unbroken message rfl

end Unbroken

namespace FileService
variable {service : FileService}

private theorem makeFolder_unbroken (path : Files.Path) : service.Settles (Files.makeFolder path) Unbroken := by
  refine settles_ask fun made files => ?_
  have own : Unbroken (service.answer made files (.makeFolder path.toText)).1 :=
    changed_unbroken FileTree.makeFolder_unbroken
  generalize (service.answer made files (.makeFolder path.toText)).1 = reply at own
  simp only [Program.bind]
  split
  · exact settles_pure (unbroken_ok ())
  · exact settles_pure own
  · refine settles_ask fun made files => settles_pure ?_
    split
    · exact unbroken_ok ()
    · exact own

private theorem makeFoldersFrom_unbroken (root : Files.Root) (inward : List String) :
    service.Settles (Files.makeFoldersFrom root inward) Unbroken := by
  induction inward with
  | nil => exact makeFolder_unbroken _
  | cons part outer ih =>
    refine (makeFolder_unbroken _).bind fun made unbroken => ?_
    split
    · refine ih.bind fun around held => ?_
      split
      · exact makeFolder_unbroken _
      · exact settles_pure held
    · exact settles_pure unbroken

private theorem makeFolder_asks (path : Files.Path) : (Files.makeFolder path).Asks (·.isAboutFolders) := by
  refine .ask rfl fun reply => ?_
  simp only [Program.bind]
  split
  · exact .pure
  · exact .pure
  · exact .ask rfl fun _ => .pure

private theorem makeFoldersFrom_asks (root : Files.Root) (inward : List String) :
    (Files.makeFoldersFrom root inward).Asks (·.isAboutFolders) := by
  induction inward with
  | nil => exact makeFolder_asks _
  | cons part outer ih =>
    refine (makeFolder_asks _).bind fun made => ?_
    split
    · refine ih.bind fun around => ?_
      split
      · exact makeFolder_asks _
      · exact .pure
    · exact .pure

private theorem makeFolders_asks (path : Files.Path) : Program.Asks (·.isAboutFolders) (Files.makeFolders path).run :=
  makeFoldersFrom_asks _ _

/-- Writes a file in a folder that is made if need be. -/
def writeWithin (folder : Files.Path) (path : String) (octets : List UInt8) : Action Unit := do
  Files.makeFolders folder
  Files.write path octets

/-- Whether a file was written is told by the reply to its writing. -/
structure WriteTold (service : FileService) (path : String) (octets : List UInt8) (run : Record (Outcome Unit)) : Prop where
  saved : run.value = .ok () → run.files.read service.folder path = .ok octets
  told : run.value = .ok () ↔ ∃ octets, ⟨.writeFile path octets, .ok ()⟩ ∈ run.asked

section Writing
variable (folder : Files.Path) (path : String) (octets : List UInt8)

theorem writeWithin_asks : Program.Asks (·.isAboutFiles) (writeWithin folder path octets).run := by
  unfold writeWithin
  refine Asks.andThen ((makeFolders_asks folder).mono fun _ => Request.isAboutFiles_of_folders) fun _ => ?_
  exact .ask rfl fun _ => .pure

theorem writeWithin_unbroken : service.Settles (writeWithin folder path octets).run Unbroken := by
  unfold writeWithin
  rw [ExceptT.run_bind]
  refine Settles.bind (makeFoldersFrom_unbroken _ _) fun folders unbroken => ?_
  cases folders with
  | error fault => exact settles_pure fun message same => unbroken message (by cases same; rfl)
  | ok _ => exact settles_ask fun made files => settles_pure (changed_unbroken (FileTree.write_unbroken octets))

theorem writeWithin_told (service : FileService) (made : Nat) (files : FileTree) :
    WriteTold service path octets (service.run made files (writeWithin folder path octets).run) := by
  have about := run_asks service made files (makeFolders_asks folder)
  unfold writeWithin
  cases folders : service.run made files (Files.makeFolders folder).run with
  | mk asked value after =>
    rw [folders] at about
    have unwritten (octets : List UInt8) (reply : Outcome Unit) : ⟨.writeFile path octets, reply⟩ ∉ asked :=
      fun among => Bool.false_ne_true (about _ among)
    cases value with
    | error fault =>
      rw [run_stopped folders]
      exact ⟨nofun, nofun, fun ⟨octets, among⟩ => absurd among (unwritten octets _)⟩
    | ok _ =>
      rw [run_andThen folders, run_write]
      cases saved : after.write service.folder path octets with
      | error fault =>
        refine ⟨nofun, nofun, fun ⟨octets, among⟩ => ?_⟩
        rcases List.mem_append.mp among with early | late
        · exact absurd early (unwritten octets _)
        · cases List.mem_singleton.mp late
      | ok last =>
        refine ⟨fun _ => FileTree.read_write saved, fun _ => ⟨octets, ?_⟩, fun _ => rfl⟩
        exact List.mem_append_right _ (List.mem_singleton.mpr rfl)

end Writing

end FileService

end Rehearsal
end DocScribe
