import DocScribe.Proofs.Docs.ShownBody
import DocScribe.Proofs.Docs.TablePass

/-! Tables that are put into any body that holds their anchors. The offsets of the tables are those of their
anchors before the first table lands, and still every anchor gives way to its own table and nothing else
changes. The same offsets serve a body that has lost the anchors. -/

namespace DocScribe.Docs
open DocScribe Markdown TableInsertion

/-- A body from an index on, in which the unit at the offset of a table is exchanged for what the table becomes. -/
def exchanged (become : Grid → LiveBody) (tables : List DeferredTable) : (index : Int) → LiveBody → LiveBody
  | _, [] => []
  | index, slot :: body =>
    (match tables.find? fun table => table.offset == index with
      | some table => become table.cells
      | none => [slot]) ++ exchanged become tables (index + 1) body

/-- A body with its tables in the places of their anchors. -/
def withTables (bold : Bool) (tables : List DeferredTable) (body : LiveBody) : LiveBody :=
  exchanged (tableSlots bold) tables 0 body

/-- A body that has lost the anchors of its tables. -/
def withoutAnchors (tables : List DeferredTable) (body : LiveBody) : LiveBody := exchanged (fun _ => []) tables 0 body

/-- The position behind each table when it has just landed: the tables up to it are in place then, and what is
behind its anchor does not count. -/
def landings (bold : Bool) (tables : List DeferredTable) (body : LiveBody) : List Int :=
  tables.mapIdx fun number table =>
    ((withTables bold (tables.take (number + 1)) (body.take (table.offset + 1).toNat)).length : Int)

/-- The anchors of tables stand in a body, of which the first unit has the index `index`. -/
inductive Anchored : (index : Int) → List DeferredTable → LiveBody → Prop where
  | none {index body} : Anchored index [] body
  | table {index table tables fixed anchor body} (place : index + (fixed.length : Int) = table.offset)
      (later : Anchored (table.offset + 1) tables body) :
      Anchored index (table :: tables) (fixed ++ anchor :: body)

section Exchanging
variable {become : Grid → LiveBody} {tables : List DeferredTable} {index : Int}

private theorem exchanged_append (front back : LiveBody) :
    exchanged become tables index (front ++ back) =
      exchanged become tables index front ++ exchanged become tables (index + front.length) back := by
  induction front generalizing index with
  | nil => simp [exchanged]
  | cons slot front ih =>
    have behind : index + 1 + (front.length : Int) = index + ((slot :: front).length : Int) := by
      simp only [List.length_cons]
      omega
    rw [List.cons_append, exchanged, exchanged, ih, behind, List.append_assoc]

/-- What has no offset of a table stays. -/
theorem exchanged_free {body : LiveBody}
    (free : ∀ table ∈ tables, table.offset < index ∨ index + body.length ≤ table.offset) :
    exchanged become tables index body = body := by
  induction body generalizing index with
  | nil => rfl
  | cons slot body ih =>
    simp only [List.length_cons] at free
    have none : tables.find? (fun table => table.offset == index) = Option.none := by
      refine List.find?_eq_none.mpr fun table member => ?_
      have := free table member
      simp only [beq_iff_eq]
      omega
    have rest : exchanged become tables (index + 1) body = body := ih fun table member => by
      have := free table member
      omega
    rw [exchanged, none, rest]
    rfl

theorem exchanged_nil (index : Int) (body : LiveBody) : exchanged become [] index body = body :=
  exchanged_free (by simp)

/-- No table stands at the start of a body. -/
theorem exchanged_first (inside : ∀ table ∈ tables, 1 ≤ table.offset) (first : Slot) (rest : LiveBody) :
    exchanged become tables 0 (first :: rest) = first :: exchanged become tables 1 rest := by
  have alone : exchanged become tables 0 [first] = [first] := exchanged_free fun table member => by
    have := inside table member
    simp only [List.length_singleton]
    omega
  rw [← List.singleton_append, exchanged_append, alone]
  rfl

/-- A table in front of a part of the body has no say in it. -/
theorem exchanged_behind {table : DeferredTable} (before : table.offset < index) (body : LiveBody) :
    exchanged become (table :: tables) index body = exchanged become tables index body := by
  induction body generalizing index with
  | nil => rfl
  | cons slot body ih =>
    have other : (table.offset == index) = false := by
      rw [beq_eq_false_iff_ne]
      omega
    rw [exchanged, exchanged, List.find?_cons, other, ih (by omega)]

theorem Anchored.offset_le {body : LiveBody} (anchored : Anchored index tables body) :
    ∀ table ∈ tables, index ≤ table.offset := by
  induction anchored with
  | none => simp
  | table place later ih =>
    intro other member
    rcases List.mem_cons.mp member with rfl | inside
    · omega
    · have := ih other inside
      omega

/-- Up to the first anchor everything stays, and behind it the other tables are exchanged. -/
theorem exchanged_cons {table : DeferredTable} {fixed body : LiveBody} {anchor : Slot}
    (place : index + (fixed.length : Int) = table.offset) (later : ∀ other ∈ tables, table.offset < other.offset) :
    exchanged become (table :: tables) index (fixed ++ anchor :: body) =
      fixed ++ (become table.cells ++ exchanged become tables (table.offset + 1) body) := by
  have free : exchanged become (table :: tables) index fixed = fixed := exchanged_free fun other member => by
    rcases List.mem_cons.mp member with rfl | inside
    · omega
    · have := later other inside
      omega
  rw [exchanged_append, free, place, exchanged, List.find?_cons, beq_self_eq_true, exchanged_behind (by omega)]

end Exchanging

/-- The pieces of a body up to the last anchor, with their anchors or without. -/
def anchorChunks (anchors : Bool) : (index : Int) → List DeferredTable → LiveBody → List Chunk
  | _, [], _ => []
  | index, table :: tables, body =>
    let place := (table.offset - index).toNat
    .fixed (body.take place) :: .table (if anchors then (body.drop place).take 1 else []) table.cells ::
      anchorChunks anchors (table.offset + 1) tables (body.drop (place + 1))

/-- What is behind the last anchor. -/
def behindAnchors : (index : Int) → List DeferredTable → LiveBody → LiveBody
  | _, [], body => body
  | index, table :: tables, body =>
    behindAnchors (table.offset + 1) tables (body.drop ((table.offset - index).toNat + 1))

section Chunks
variable {index : Int} {tables : List DeferredTable} {body : LiveBody} {anchors : Bool}

theorem anchorChunks_cons {table : DeferredTable} {fixed : LiveBody} (anchor : Slot)
    (place : index + (fixed.length : Int) = table.offset) :
    anchorChunks anchors index (table :: tables) (fixed ++ anchor :: body) =
      .fixed fixed :: .table (if anchors then [anchor] else []) table.cells ::
        anchorChunks anchors (table.offset + 1) tables body := by
  have size : (table.offset - index).toNat = fixed.length := by omega
  rw [anchorChunks, size]
  simp

private theorem behindAnchors_cons {table : DeferredTable} {fixed : LiveBody} (anchor : Slot)
    (place : index + (fixed.length : Int) = table.offset) :
    behindAnchors index (table :: tables) (fixed ++ anchor :: body) = behindAnchors (table.offset + 1) tables body := by
  have size : (table.offset - index).toNat = fixed.length := by omega
  rw [behindAnchors, size]
  simp

theorem Anchored.later {table : DeferredTable} (later : Anchored (table.offset + 1) tables body) :
    ∀ other ∈ tables, table.offset < other.offset := by
  intro other member
  have := later.offset_le other member
  omega

private theorem deferredTables_anchorChunks (anchored : Anchored index tables body) :
    deferredTables index (anchorChunks anchors index tables body) = tables := by
  induction anchored with
  | none => rfl
  | @table index table tables fixed anchor body place later ih =>
    rw [anchorChunks_cons anchor place, deferredTables, deferredTables, place, ih]

private theorem before_anchorChunks (anchored : Anchored index tables body) :
    (anchorChunks anchors index tables body).flatMap Chunk.before ++ behindAnchors index tables body =
      if anchors then body else exchanged (fun _ => []) tables index body := by
  induction anchored with
  | none =>
    rw [exchanged_nil]
    simp [anchorChunks, behindAnchors]
  | @table index table tables fixed anchor body place later ih =>
    rw [anchorChunks_cons anchor place, behindAnchors_cons anchor place, exchanged_cons place later.later]
    simp only [List.flatMap_cons, Chunk.before, List.append_assoc, ih]
    cases anchors <;> rfl

private theorem after_anchorChunks (bold : Bool) (anchored : Anchored index tables body) :
    (anchorChunks anchors index tables body).flatMap (Chunk.after bold) ++ behindAnchors index tables body =
      exchanged (tableSlots bold) tables index body := by
  induction anchored with
  | none => exact (exchanged_nil _ _).symm
  | @table index table tables fixed anchor body place later ih =>
    rw [anchorChunks_cons anchor place, behindAnchors_cons anchor place, exchanged_cons place later.later]
    simp only [List.flatMap_cons, Chunk.after, List.append_assoc, ih]

private theorem growth_anchorChunks (bold : Bool) (anchored : Anchored index tables body) :
    ((anchorChunks anchors index tables body).map (Chunk.growth bold)).sum =
      (tables.map fun table => ((tableSlots bold table.cells).length : Int) - 1).sum := by
  induction anchored with
  | none => rfl
  | @table index table tables fixed anchor body place later ih =>
    rw [anchorChunks_cons anchor place]
    simp only [List.map_cons, List.sum_cons, Chunk.growth, ih]
    omega

/-- The pieces end with the last anchor, so they are inside every bound on the offsets. -/
theorem units_anchorChunks {last : Int} (anchored : Anchored index tables body) (start : index ≤ last)
    (bounded : ∀ table ∈ tables, table.offset < last) :
    index + ((anchorChunks anchors index tables body).map Chunk.units).sum ≤ last := by
  induction anchored with
  | none => simpa [anchorChunks] using start
  | @table index table tables fixed anchor body place later ih =>
    have rest := ih (bounded table (by simp)) fun other member => bounded other (by simp [member])
    rw [anchorChunks_cons anchor place]
    simp only [List.map_cons, List.sum_cons, Chunk.units]
    omega

private theorem ready_anchorChunks {keeps : Char → Bool} (anchored : Anchored index tables body)
    (filled : ∀ table ∈ tables, width table.cells ≠ 0) (kept : ∀ table ∈ tables, KeepsCells keeps table.cells) :
    ∀ chunk ∈ anchorChunks anchors index tables body, chunk.IsReady keeps anchors := by
  induction anchored with
  | none => simp [anchorChunks]
  | @table index table tables fixed anchor body place later ih =>
    have rest := ih (fun other member => filled other (by simp [member])) fun other member => kept other (by simp [member])
    rw [anchorChunks_cons anchor place]
    intro chunk member
    rcases List.mem_cons.mp member with rfl | member
    · trivial
    · rcases List.mem_cons.mp member with rfl | member
      · refine ⟨filled table (by simp), kept table (by simp), ?_⟩
        cases anchors <;> rfl
      · exact rest chunk member

/-- The ends of the tables are their landings. -/
theorem tableEnds_anchorChunks (bold : Bool) (place : Int) (anchored : Anchored index tables body) :
    tableEnds bold place (anchorChunks anchors index tables body) =
      tables.mapIdx fun number table => place +
        ((exchanged (tableSlots bold) (tables.take (number + 1)) index
          (body.take (table.offset + 1 - index).toNat)).length : Int) := by
  -- on the anchors: a landing reaches over the whole of every piece in front of it
  induction anchored generalizing place with
  | none => rfl
  | @table index table tables fixed anchor body start later ih =>
    have reach {other : DeferredTable} (behind : table.offset ≤ other.offset) :
        (fixed ++ anchor :: body).take (other.offset + 1 - index).toNat =
          fixed ++ anchor :: body.take (other.offset + 1 - (table.offset + 1)).toNat := by
      have size : (other.offset + 1 - index).toNat =
          fixed.length + ((other.offset + 1 - (table.offset + 1)).toNat + 1) := by omega
      rw [size, List.take_length_add_append, List.take_succ_cons]
    rw [anchorChunks_cons anchor start, tableEnds, tableEnds, ih, List.mapIdx_cons]
    refine congrArg₂ List.cons ?_ ?_
    · rw [reach (Int.le_refl _), List.take_succ_cons, List.take_zero, exchanged_cons start (by simp)]
      simp [exchanged]
      omega
    · apply List.mapIdx_eq_mapIdx_iff.mpr
      intro number inside
      have behind := later.later tables[number] (List.getElem_mem inside)
      rw [reach (by omega), List.take_succ_cons,
        exchanged_cons start fun other member => later.later other (List.mem_of_mem_take member)]
      simp only [List.length_append]
      omega

end Chunks

/-- The first unit of a body counts for every landing. -/
theorem landings_first (bold : Bool) {tables : List DeferredTable} (inside : ∀ table ∈ tables, 1 ≤ table.offset)
    (first : Slot) (rest : LiveBody) :
    landings bold tables (first :: rest) = tables.mapIdx fun number table => (1 : Int) +
      ((exchanged (tableSlots bold) (tables.take (number + 1)) 1 (rest.take (table.offset + 1 - 1).toNat)).length : Int) := by
  refine List.mapIdx_eq_mapIdx_iff.mpr fun number there => ?_
  have := inside tables[number] (List.getElem_mem there)
  have size : (tables[number].offset + 1).toNat = (tables[number].offset + 1 - 1).toNat + 1 := by omega
  rw [withTables, size, List.take_succ_cons, exchanged_first fun table member => inside table (List.mem_of_mem_take member)]
  simp only [List.length_cons]
  omega

/-- Tables whose offsets increase inside a body are anchored in it. -/
theorem anchored_of_increasing {index : Int} {tables : List DeferredTable} {body : LiveBody}
    (increasing : tables.Pairwise fun table other => table.offset < other.offset)
    (inside : ∀ table ∈ tables, index ≤ table.offset ∧ table.offset < index + body.length) :
    Anchored index tables body := by
  induction tables generalizing index body with
  | nil => exact .none
  | cons table tables ih =>
    obtain ⟨before, later⟩ := List.pairwise_cons.mp increasing
    obtain ⟨start, stop⟩ := inside table (by simp)
    have place : (table.offset - index).toNat < body.length := by omega
    have rest : Anchored (table.offset + 1) tables (body.drop ((table.offset - index).toNat + 1)) := by
      refine ih later fun other member => ?_
      have := before other member
      have := inside other (by simp [member])
      rw [List.length_drop]
      omega
    rw [← List.take_append_drop (table.offset - index).toNat body, List.drop_eq_getElem_cons place]
    refine .table ?_ rest
    rw [List.length_take]
    omega

section Inserting
variable {service : DocumentService} {inserter : TableInserter}

/-- Tables that are all put in have offsets inside the document as it was before the first of them. -/
theorem insertFrom_bounded {replaceAnchors : Bool} {total number : Nat} {drift : Int} {stop : Option Int}
    {tables : List DeferredTable} {body : LiveBody} {ends : List Int}
    (done : (service.run (inserter.insertFrom replaceAnchors total number drift stop tables) body).1.1 = .ok ends) :
    ∀ last ∈ stop, ∀ table ∈ tables, table.offset + drift < last := by
  induction tables generalizing number drift stop body ends with
  | nil => simp
  | cons table tables ih =>
    rw [TableInserter.insertFrom_cons] at done
    by_cases fits : TableInserter.isInside (table.offset + drift) stop
    · rw [if_pos fits, DocumentService.run_bind] at done
      generalize service.run (inserter.insert (table.offset + drift) table.cells replaceAnchors).run body = landed at done
      obtain ⟨⟨cause⟩ | ⟨behind⟩, after⟩ := landed
      · simp at done
      · simp only [DocumentService.run_bind, DocumentService.run_pure] at done
        cases rest : (service.run (inserter.insertFrom replaceAnchors total (number + 1)
            (drift + (behind - (table.offset + drift) - 1)) (stop.map (· + (behind - (table.offset + drift) - 1))) tables) after).1.1 with
        | error fault =>
          rw [rest] at done
          cases done
        | ok more =>
          intro last known other member
          rcases List.mem_cons.mp member with rfl | inside
          · exact (TableInserter.isInside_iff.mp fits).2 last known
          · have := ih rest (last + (behind - (table.offset + drift) - 1)) (Option.mem_map_of_mem _ known) other inside
            omega
    · simp [fits] at done

/-- With its anchors in place or without them, a body gets its tables where the anchors belong. -/
theorem run_insertAll_anchored (own : inserter.documentId = service.documentId) {tables : List DeferredTable}
    {body : LiveBody} {stop : Option Int} (increasing : tables.Pairwise fun table other => table.offset < other.offset)
    (filled : ∀ table ∈ tables, width table.cells ≠ 0) (kept : ∀ table ∈ tables, KeepsCells service.keeps table.cells)
    (inside : ∀ table ∈ tables, 1 ≤ table.offset ∧ table.offset < body.length)
    (bounded : ∀ last ∈ stop, ∀ table ∈ tables, table.offset < last) (anchors : Bool) :
    service.run (inserter.insertAll tables 0 stop anchors) (if anchors then body else withoutAnchors tables body) =
      ((.ok (landings inserter.boldHeaders tables body),
          (tables.map fun table => ((tableSlots inserter.boldHeaders table.cells).length : Int) - 1).sum),
        withTables inserter.boldHeaders tables body) := by
  by_cases none : tables = []
  · subst none
    cases anchors <;> simp [TableInserter.insertAll, TableInserter.insertFrom, landings, withTables, withoutAnchors, exchanged_nil]
  · obtain ⟨table, member⟩ := List.exists_mem_of_ne_nil tables none
    have start : 1 ≤ table.offset ∧ table.offset < body.length := inside table member
    obtain ⟨first, rest, rfl⟩ : ∃ first rest, body = first :: rest :=
      List.exists_cons_of_ne_nil (List.ne_nil_of_length_pos (by omega))
    have anchored : Anchored 1 tables rest := anchored_of_increasing increasing fun table member => by
      have := inside table member
      simp only [List.length_cons] at this
      omega
    have positive : ∀ table ∈ tables, 1 ≤ table.offset := fun table member => (inside table member).1
    have place : (([first] : LiveBody).length : Int) = 1 + 0 := rfl
    have ready : ∀ chunk ∈ anchorChunks anchors 1 tables rest, chunk.IsReady service.keeps anchors :=
      ready_anchorChunks anchored filled kept
    have landed := run_insertFrom own ready tables.length 1 stop (behindAnchors 1 tables rest) place (by simp) fun last known => by
      have := bounded last known table member
      exact units_anchorChunks anchored (by omega) (bounded last known)
    have whole : (if anchors then first :: rest else withoutAnchors tables (first :: rest)) =
        [first] ++ (if anchors then rest else exchanged (fun _ => []) tables 1 rest) := by
      cases anchors with
      | true => rfl
      | false =>
        simp only [Bool.false_eq_true, ↓reduceIte, withoutAnchors]
        exact exchanged_first positive first rest
    rw [deferredTables_anchorChunks anchored, before_anchorChunks anchored, after_anchorChunks _ anchored,
      growth_anchorChunks _ anchored, tableEnds_anchorChunks _ _ anchored, Int.zero_add] at landed
    rw [TableInserter.insertAll, whole, landed, landings_first _ positive, withTables, exchanged_first positive]
    rfl

/-- Tables take the places of their anchors, and nothing else in the body changes: this succeeds just if every offset is
inside the document, if its end is told. The position that is told for a table is the one behind it when it has landed,
and the drift is what the tables have grown by over their anchors. A body that has lost the anchors ends up the same. -/
theorem insertAll_replaces_anchors (own : inserter.documentId = service.documentId) {tables : List DeferredTable}
    {body : LiveBody} {stop : Option Int} (increasing : tables.Pairwise fun table other => table.offset < other.offset)
    (filled : ∀ table ∈ tables, ∃ row ∈ table.cells, row ≠ []) (kept : ∀ table ∈ tables, KeepsCells service.keeps table.cells)
    (anchored : ∀ table ∈ tables, 1 ≤ table.offset ∧ body.contents[table.offset.toNat]? = some (.code 0)) :
    let inserted := service.run (inserter.insertAll tables 0 stop true) body
    let bare := service.run (inserter.insertAll tables 0 stop false) (withoutAnchors tables body)
    ((∃ ends, inserted.1.1 = .ok ends) ↔ ∀ last ∈ stop, ∀ table ∈ tables, table.offset < last) ∧
      ∀ ends, inserted.1.1 = .ok ends →
        inserted.2 = withTables inserter.boldHeaders tables body ∧
        ends = landings inserter.boldHeaders tables body ∧
        inserted.1.2 = (tables.map fun table => ((tableSlots inserter.boldHeaders table.cells).length : Int) - 1).sum ∧
        bare = inserted := by
  intro inserted bare
  have wide : ∀ table ∈ tables, width table.cells ≠ 0 := fun table member => width_ne_zero (filled table member)
  have inside : ∀ table ∈ tables, 1 ≤ table.offset ∧ table.offset < body.length := fun table member => by
    obtain ⟨start, anchor⟩ := anchored table member
    obtain ⟨before, -⟩ := List.getElem?_eq_some_iff.mp anchor
    rw [LiveBody.length_contents] at before
    omega
  have landed (bounded : ∀ last ∈ stop, ∀ table ∈ tables, table.offset < last) :=
    run_insertAll_anchored own increasing wide kept inside bounded
  have bounded {ends : List Int} (done : inserted.1.1 = .ok ends) : ∀ last ∈ stop, ∀ table ∈ tables, table.offset < last := by
    intro last known table member
    have := insertFrom_bounded done last known table member
    omega
  constructor
  · refine ⟨fun ⟨ends, done⟩ => bounded done, fun bounded => ⟨landings inserter.boldHeaders tables body, ?_⟩⟩
    exact congrArg (·.1.1) (landed bounded true)
  · intro ends done
    have withAnchors := landed (bounded done) true
    have without := landed (bounded done) false
    simp only [↓reduceIte, Bool.false_eq_true] at withAnchors without
    have result : inserted = _ := withAnchors
    rw [result] at done ⊢
    exact ⟨rfl, (Except.ok.inj done).symm, rfl, without⟩

/-- A table between two texts, and two tables that touch, the last with a short row. -/
theorem insertAll_replaces_touchingAnchors :
    let body := plainSlots (.other 0 :: textContents ['a', tableAnchor, 'b', tableAnchor, tableAnchor, '\n'])
    let tables : List DeferredTable :=
      [⟨2, [[[⟨"xy", { bold := true }⟩]]]⟩, ⟨4, [[[]]]⟩, ⟨5, [[[⟨"1", {}⟩], []], [[⟨"2", {}⟩]]]⟩]
    let service := DocumentService.showing fun _ => true
    let inserter : TableInserter := { documentId := .str "document" }
    let inserted := service.run (inserter.insertAll tables 0 (some 7) true) body
    let cell (text : String) : List SlotContent := .cellStart :: textContents text.toList
    let first : List SlotContent := .flatten [[.tableStart, .rowStart], cell "xy\n", [.tableEnd]]
    let second : List SlotContent := .flatten [[.tableStart, .rowStart], cell "\n", [.tableEnd]]
    let third : List SlotContent :=
      .flatten [[.tableStart, .rowStart], cell "1\n", cell "\n", [.rowStart], cell "2\n", cell "\n", [.tableEnd]]
    inserted.1 = (.ok [9, 15, 29], 23) ∧
      inserted.2.contents = .flatten [[.other 0, .code 97], first, [.code 98], second, third, [.code 10]] ∧
      service.run (inserter.insertAll tables 0 (some 7) false) (plainSlots (.other 0 :: textContents ['a', 'b', '\n'])) =
        inserted := by
  intro body tables service inserter inserted cell first second third
  have own : inserter.documentId = service.documentId := rfl
  have lost : withoutAnchors tables body = plainSlots (.other 0 :: textContents ['a', 'b', '\n']) := by
    rfl
  have replaced := @insertAll_replaces_anchors service inserter own tables body (some 7) (by decide) (by decide)
    (fun _ _ _ _ _ _ _ _ => rfl) (by decide +kernel)
  obtain ⟨ends, done⟩ := replaced.1.mpr (by decide)
  obtain ⟨whole, landed, drift, bare⟩ := replaced.2 ends done
  have positions : landings true tables body = [9, 15, 29] := by decide +kernel
  refine ⟨Prod.ext (done.trans ?_) (drift.trans (by decide +kernel)), ?_, ?_⟩
  · rw [landed]
    exact congrArg Except.ok positions
  · rw [whole]
    decide +kernel
  · rw [← lost]
    exact bare

end Inserting

end DocScribe.Docs
