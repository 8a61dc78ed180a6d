import DocScribe.Proofs.Docs.TableFilling
import Mathlib.Algebra.Ring.Int.Defs

/-! Putting all tables of a compiled text into a live document. Every table lands where the parts in front
of it end by then: what these have grown by is the drift that is added to the compiled position, and a
missing anchor makes up for the unit that is taken off for it. -/

namespace DocScribe.Docs
open DocScribe Markdown TableInsertion

/-- A piece of a body that tables are put into. -/
inductive Chunk where
  | fixed (slots : LiveBody)
  /-- The place of a table, with what the table takes the place of. -/
  | table (anchor : LiveBody) (cells : Grid)

namespace Chunk

def before : Chunk → LiveBody
  | .fixed slots => slots
  | .table anchor _ => anchor

def after (bold : Bool) : Chunk → LiveBody
  | .fixed slots => slots
  | .table _ cells => tableSlots bold cells

/-- The units that the compiler counts for a piece. -/
def units : Chunk → Nat
  | .fixed slots => slots.length
  | .table .. => 1

/-- How much longer a piece is with its table than the compiler counts it. -/
def growth (bold : Bool) : Chunk → Int
  | .fixed _ => 0
  | .table _ cells => (tableSlots bold cells).length - 1

/-- A table can be put into a piece: it has cells, their texts are stored, and the anchor is there just if it
is to be replaced. -/
def IsReady (keeps : Char → Bool) (replaceAnchors : Bool) : Chunk → Prop
  | .fixed _ => True
  | .table anchor cells =>
    width cells ≠ 0 ∧ KeepsCells keeps cells ∧ anchor.length = if replaceAnchors then 1 else 0

end Chunk

def deferredTables : (start : Int) → List Chunk → List DeferredTable
  | _, [] => []
  | start, .fixed slots :: rest => deferredTables (start + slots.length) rest
  | start, .table _ cells :: rest => ⟨start, cells⟩ :: deferredTables (start + 1) rest

/-- The positions behind the tables of pieces, each when the tables up to it are put in. -/
def tableEnds (bold : Bool) : (place : Int) → List Chunk → List Int
  | _, [] => []
  | place, .fixed slots :: rest => tableEnds bold (place + slots.length) rest
  | place, .table _ cells :: rest =>
    (place + (tableSlots bold cells).length) :: tableEnds bold (place + (tableSlots bold cells).length) rest

variable {service : DocumentService} {inserter : TableInserter}

/-- One table takes the place of its anchor, and the others are put in behind what it has added. -/
theorem run_insertFrom_cons (own : inserter.documentId = service.documentId) {replaceAnchors : Bool} (table : DeferredTable)
    (wide : width table.cells ≠ 0) (kept : KeepsCells service.keeps table.cells) {slots : LiveBody}
    (filled : tableSlots inserter.boldHeaders table.cells = slots) {front anchor : LiveBody}
    (anchored : anchor.length = if replaceAnchors then 1 else 0) {drift : Int}
    (place : (front.length : Int) = table.offset + drift) (inside : 0 < front.length) {stop : Option Int}
    (bounded : ∀ last ∈ stop, (front.length : Int) < last) {rest : List DeferredTable} {total number : Nat}
    {back after : LiveBody} {told : Outcome (List Int)} {moved : Int}
    (others : service.run (inserter.insertFrom replaceAnchors total (number + 1) (drift + (slots.length - 1))
      (stop.map (· + (slots.length - 1 : Int))) rest) ((front ++ slots) ++ back) = ((told, moved), after)) :
    service.run (inserter.insertFrom replaceAnchors total number drift stop (table :: rest)) (front ++ (anchor ++ back)) =
      ((told.map (((front.length : Int) + slots.length) :: ·), moved), after) := by
  subst filled
  have fits : TableInserter.isInside (table.offset + drift) stop = true :=
    TableInserter.isInside_iff.mpr ⟨by omega, fun last known => place ▸ bounded last known⟩
  have landed := insert_succeeds own wide kept back place anchored
  rw [List.append_assoc] at others
  have added : table.offset + drift + (tableSlots inserter.boldHeaders table.cells).length - (table.offset + drift) - 1 =
      (tableSlots inserter.boldHeaders table.cells).length - 1 := by omega
  rw [TableInserter.insertFrom_cons, if_pos fits, service.run_andThen landed]
  simp only [added]
  rw [service.run_andThen others, place]
  rfl

/-- Tables are put into pieces one after the other. -/
theorem run_insertFrom (own : inserter.documentId = service.documentId) {replaceAnchors : Bool} {chunks : List Chunk}
    (ready : ∀ chunk ∈ chunks, chunk.IsReady service.keeps replaceAnchors) (total number : Nat) {start drift : Int}
    (stop : Option Int) {front : LiveBody} (back : LiveBody) (place : (front.length : Int) = start + drift) (inside : 0 < front.length)
    (bounded : ∀ last ∈ stop, (front.length : Int) + (chunks.map Chunk.units).sum ≤ last) :
    service.run (inserter.insertFrom replaceAnchors total number drift stop (deferredTables start chunks))
        (front ++ (chunks.flatMap Chunk.before ++ back)) =
      ((.ok (tableEnds inserter.boldHeaders front.length chunks),
          drift + (chunks.map (Chunk.growth inserter.boldHeaders)).sum),
        front ++ (chunks.flatMap (Chunk.after inserter.boldHeaders) ++ back)) := by
  -- on the pieces: those in front are in place, and the drift is what they have grown by
  induction chunks generalizing number start drift stop front with
  | nil => simp [deferredTables, TableInserter.insertFrom, tableEnds]
  | cons chunk chunks ih =>
    have readyRest := fun other member => ready other (List.mem_cons_of_mem chunk member)
    cases chunk with
    | fixed slots =>
      have ends : ((front ++ slots).length : Int) = front.length + slots.length := by simp
      have behind : ((front ++ slots).length : Int) = start + slots.length + drift := by omega
      have rest := ih readyRest number stop behind (by rw [List.length_append]; omega) fun last known => by
        have := bounded last known
        simp only [List.map_cons, List.sum_cons, Chunk.units] at this
        omega
      rw [ends] at rest
      simpa [deferredTables, tableEnds, Chunk.before, Chunk.after, Chunk.growth] using rest
    | table anchor cells =>
      obtain ⟨wide, kept, anchored⟩ := ready (.table anchor cells) (by simp)
      let slots := tableSlots inserter.boldHeaders cells
      have ends : ((front ++ slots).length : Int) = front.length + slots.length := by simp
      have behind : ((front ++ slots).length : Int) = start + 1 + (drift + (slots.length - 1)) := by omega
      have rest := ih readyRest (number + 1) (stop.map (· + (slots.length - 1 : Int))) behind
        (by rw [List.length_append]; omega) fun last known => by
        obtain ⟨former, there, rfl⟩ := Option.map_eq_some_iff.mp known
        have := bounded former there
        simp only [List.map_cons, List.sum_cons, Chunk.units] at this
        omega
      have follows : ∀ last ∈ stop, (front.length : Int) < last := fun last known => by
        have := bounded last known
        simp only [List.map_cons, List.sum_cons, Chunk.units] at this
        omega
      rw [ends] at rest
      have landed := run_insertFrom_cons own ⟨start, cells⟩ wide kept rfl anchored place inside follows rest
      have whole : front ++ ((Chunk.table anchor cells :: chunks).flatMap Chunk.before ++ back) =
          front ++ (anchor ++ (chunks.flatMap Chunk.before ++ back)) := by
        simp [Chunk.before]
      rw [whole, deferredTables, landed, List.map_cons, List.sum_cons, List.flatMap_cons, tableEnds, Chunk.growth, Chunk.after,
        ← Int.add_assoc, List.append_assoc, List.append_assoc]
      rfl

end DocScribe.Docs
