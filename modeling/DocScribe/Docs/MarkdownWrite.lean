import DocScribe.Docs.ImageInsertion
import DocScribe.Docs.PlainText
import DocScribe.Docs.TableInsertion
import DocScribe.Markdown.Reading

/-! Writing a Markdown text into a document: first its text and styles in one batch, then its tables,
then its pictures. -/

namespace DocScribe.Docs
open DocScribe Service

structure WriteReport where
  characters : Int
  styles : Int
  tables : Int
  images : Int
  warnings : List String

namespace WriteReport

def summary (report : WriteReport) : String :=
  let counts :=
    [s!"{report.characters} characters", s!"{report.styles} style operations"] ++
    (if report.tables == 0 then [] else [s!"{report.tables} tables"]) ++
    (if report.images == 0 then [] else [s!"{report.images} images"])
  let text := ", ".intercalate counts
  if report.warnings.isEmpty then text
  else
    let warnings := "; ".intercalate report.warnings
    s!"{text} ({report.warnings.length} warnings: {warnings})"

end WriteReport

/-- Where a text is written to. -/
structure WriteTarget where
  documentId : Identifier
  baseIndex : Int := 1
  /-- The end of the document just before the text is inserted, if that is known. -/
  endIndex : Option Int := none
  /-- Edits that come before the text in the same batch. -/
  preamble : List Edit := []
  hasDrive : Bool := true
  markdownPath : Option String := none
  imageFolder : Option String := none

namespace WriteTarget

/-- The anchors of the tables are still there, after a text that should make the document end at
`expected`. A document that is shorter by just the number of tables has lost them. -/
def anchorsRemain (target : WriteTarget) (expected : Int) (tables : Nat) : Action Bool := do
  let document ← Action.call (.getDocument target.documentId .body)
  match ← documentEnd document with
  | .int actual => return actual == expected || actual != expected - tables
  | _ => return true

def insertTables (target : WriteTarget) (compiled : Compiled) : Action Unit := do
  if compiled.tables.isEmpty then return
  let stop : Option Int := target.endIndex.map fun stop => stop + Text.units compiled.text
  let anchors ← match stop with
    | some expected => target.anchorsRemain expected compiled.tables.length
    | none => pure true
  let inserter : TableInserter := { documentId := target.documentId }
  let (ends, _) ← ExceptT.lift (inserter.insertAll compiled.tables 0 stop anchors)
  let _ ← Action.ofOutcome ends

/-- Writes a Markdown text. -/
def write (target : WriteTarget) (markdown : String) : Action WriteReport := do
  let compiled := compile (Markdown.parse markdown) target.baseIndex
  let edits := target.preamble ++ compiled.edits
  if !edits.isEmpty then
    let _ ← Action.call (.editDocument target.documentId edits)
  target.insertTables compiled
  let inserter : ImageInserter :=
    { documentId := target.documentId, hasDrive := target.hasDrive
      markdownPath := target.markdownPath, folder := target.imageFolder }
  let (inserted, _) ← ExceptT.lift (inserter.insertAll compiled.images target.baseIndex [])
  let images ← Action.ofOutcome inserted
  return ⟨compiled.text.length, compiled.styles.length, compiled.tables.length, images,
    compiled.warnings⟩

end WriteTarget
end DocScribe.Docs
