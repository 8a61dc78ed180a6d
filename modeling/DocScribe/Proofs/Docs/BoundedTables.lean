import DocScribe.Proofs.Docs.CalmPictures
import DocScribe.Proofs.Docs.InsertionProgress
import DocScribe.Proofs.Docs.SafeWrites

/-! Where no service fails, all tables of a text are put in, each at a place in the body as it is by then. The body is
taken to end where the text should leave it, so what it is shown to be in between does not matter. -/

namespace DocScribe.Docs
open DocScribe Markdown Service Program TableInsertion

private theorem tables_filled {elements : List Element} {base : Int} :
    ∀ table ∈ (compile elements base).tables, ∃ row ∈ table.cells, row ≠ [] := by
  intro table member
  rw [compile_tables] at member
  obtain ⟨place, among, found⟩ := List.mem_filterMap.mp member
  obtain rfl := tableOf?_eq_some found
  have wide : width table.cells ≠ 0 := width_of_partsFrom (mem_of_placed _ among)
  by_contra none
  push Not at none
  rw [ne_eq, width_eq_zero, List.all_eq_true] at wide
  exact wide fun row inside => List.isEmpty_iff.mpr (none row inside)

/-- A batch that is refused is a call that fails. -/
theorem Refused.breaks {documentId : Identifier} {batches : List (List Edit)} {accepted : Nat} {refusal : Fault}
    {asked : List Exchange} (refused : Refused documentId batches accepted refusal asked) :
    ∃ exchange ∈ asked, exchange.isBreak = true := by
  induction refused with
  | batch => exact ⟨_, List.mem_singleton_self _, rfl⟩
  | later rest ih =>
    obtain ⟨exchange, among, breaks⟩ := ih
    exact ⟨exchange, List.mem_cons_of_mem _ among, breaks⟩

private theorem table_behind {elements : List Element} {base : Int} {table : DeferredTable}
    (member : table ∈ (compile elements base).tables) : base ≤ table.offset := by
  rw [compile_tables] at member
  exact (tables_inside _ member).1

namespace TableInserter
variable {inserter : TableInserter}

private theorem growth_nonneg (tables : List DeferredTable) : 0 ≤ inserter.growth tables := by
  induction tables with
  | nil => exact Int.le_refl 0
  | cons table tables ih =>
    have own : inserter.growth [table] = (tableSlots inserter.boldHeaders table.cells).length - 1 := by
      simp [growth]
    rw [growth_cons, own, tableSlots, List.length_cons]
    omega

/-- A table moves its place and the end of the body alike. -/
theorem inside_moved {index moved : Int} {stop : Option Int} (inside : ¬IsOutside index stop) (forward : 0 ≤ moved) :
    ¬IsOutside (index + moved) (stop.map (· + moved)) := by
  rintro (before | ⟨last, found, behind⟩)
  · exact inside (.inl (by omega))
  · obtain ⟨last, given, rfl⟩ := Option.map_eq_some_iff.mp found
    exact inside (.inr ⟨last, given, by omega⟩)

/-- What ends an insertion before its last table is a place outside of the body, or a service that fails. -/
theorem insertAll_lands {replaceAnchors : Bool} {stop : Option Int} {tables : List DeferredTable}
    (filled : ∀ table ∈ tables, ∃ row ∈ table.cells, row ≠ []) (inside : ∀ table ∈ tables, ¬IsOutside table.offset stop) :
    (inserter.insertAll tables 0 stop replaceAnchors).FairlyLeads fun asked told =>
      inserter.Landed replaceAnchors 0 stop tables tables.length asked told.2 ∧ Spares told.1 := by
  refine (insertFrom_leads tables.length 0 filled).mono ?_
  rintro asked told ⟨landed, earlier, own, rfl, before, ending⟩ fair
  rw [Int.sub_zero] at ending
  have forward : 0 ≤ told.2 := by
    rw [before.grown, Int.zero_add]
    exact growth_nonneg _
  generalize next : tables[landed]? = following at ending
  generalize told.1 = ends at ending
  cases ending with
  | complete =>
    obtain rfl : landed = tables.length := by
      have := before.within
      have := List.getElem?_eq_none_iff.mp next
      omega
    rw [List.append_nil]
    exact ⟨before, spares_ok _⟩
  | outside outside =>
    have fits := inside_moved (inside _ (List.mem_of_getElem? next)) forward
    exact absurd outside fits
  | refused fits refused blames =>
    obtain ⟨exchange, among, breaks⟩ := refused.breaks
    have whole := (fair exchange (List.mem_append_right _ among)).whole
    rw [breaks] at whole
    cases whole

end TableInserter

/-- Still holds when what adds no table is asked before and behind. -/
def Steady (inside : List Exchange → Prop) : Prop :=
  ∀ look asked rest, Tableless look → inside asked → Tableless rest → inside (look ++ (asked ++ rest))

/-- As long as all replies are fair no table is added or all is as it should be, and there is no fault of a change. -/
def Bounds (action : Action α) (inside : List Exchange → Prop) : Prop :=
  action.run.FairlyLeads fun asked told => (Tableless asked ∨ inside asked) ∧ Spares told

section Bounds
variable {inside wider : List Exchange → Prop} {action : Action α} {next : α → Action β}

theorem bounds_of_calm (calm : action.Calm Request.IsTableless) : Bounds action inside :=
  FairlyLeads.mono calm fun _ _ ends => ⟨.inl ends.1, ends.2⟩

theorem Bounds.mono (bounds : Bounds action inside) (implies : ∀ asked, inside asked → wider asked) : Bounds action wider :=
  FairlyLeads.mono bounds fun asked _ ends => ⟨ends.1.imp id (implies asked), ends.2⟩

theorem Bounds.behind (steady : Steady inside) (first : action.Calm Request.IsTableless)
    (rest : ∀ value, Bounds (next value) inside) : Bounds (action >>= next) inside := by
  refine Action.Calm.before first ⟨?_, ?_⟩ rest
  · exact fun asked fault quiet mild => ⟨.inl quiet, spares_error mild⟩
  · intro look asked told quiet ends
    refine ⟨ends.1.imp (Tableless.append quiet) fun holds => ?_, ends.2⟩
    have whole := steady look asked [] quiet holds tableless_nil
    rwa [List.append_nil] at whole

theorem Bounds.andThen (steady : Steady inside) (first : Bounds action inside)
    (rest : ∀ value, (next value).Calm Request.IsTableless) : Bounds (action >>= next) inside := by
  unfold Bounds
  rw [ExceptT.run_bind]
  refine FairlyLeads.bind first fun asked outcome ends => ?_
  obtain ⟨holds, spares⟩ := ends
  cases outcome with
  | error fault =>
    apply FairlyLeads.pure
    rw [List.append_nil]
    exact ⟨holds, spares_error (spares fault rfl)⟩
  | ok value =>
    refine FairlyLeads.mono (rest value) fun further told done => ⟨?_, done.2⟩
    exact holds.imp (·.append done.1) fun holds => steady [] asked further tableless_nil holds done.1

end Bounds

/-- A text has tables, and they are put in one after the other, each at a place in the body as it is by then. Nothing
else adds a table. -/
def TablesInside (target : WriteTarget) (compiled : Compiled) (asked : List Exchange) : Prop :=
  compiled.tables ≠ [] ∧ ∃ (front own back : List Exchange) (anchors : Bool) (moved : Int), asked = front ++ (own ++ back) ∧
    Tableless front ∧ Tableless back ∧
    ({ documentId := target.documentId } : TableInserter).Landed anchors 0
      (target.endIndex.map (· + Text.units compiled.text)) compiled.tables compiled.tables.length own moved

/-- The batch of the text is among these, and its tables are put in. -/
def Writes (target : WriteTarget) (markdown : String) (asked : List Exchange) : Prop :=
  let compiled := compile (Markdown.parse markdown) target.baseIndex
  (∃ receipt, ⟨.call (.editDocument target.documentId (target.preamble ++ compiled.edits)), .ok receipt⟩ ∈ asked) ∧
    TablesInside target compiled asked

theorem tablesInside_steady (target : WriteTarget) (compiled : Compiled) : Steady (TablesInside target compiled) := by
  rintro look _ rest quiet ⟨some, front, own, back, anchors, moved, rfl, before, after, landed⟩ silent
  refine ⟨some, look ++ front, own, back ++ rest, anchors, moved, ?_, quiet.append before, after.append silent, landed⟩
  simp only [List.append_assoc]

theorem writes_steady (target : WriteTarget) (markdown : String) : Steady (Writes target markdown) := by
  rintro look asked rest quiet ⟨⟨receipt, sent⟩, inside⟩ silent
  refine ⟨⟨receipt, ?_⟩, tablesInside_steady _ _ look asked rest quiet inside silent⟩
  exact List.mem_append_right look (List.mem_append_left rest sent)

namespace WriteTarget
variable {target : WriteTarget} {stop : Int}

private theorem anchorsRemain_calm (target : WriteTarget) (expected : Int) (tables : Nat) :
    (target.anchorsRemain expected tables).Calm Request.IsTableless := by
  refine (Action.calm_call trivial rfl).bind fun document => ?_
  refine (Action.calm_ofOutcome (documentEnd_spares document)).bind fun last => ?_
  split
  · exact Action.calm_pure _
  · exact Action.calm_pure true

private theorem insertTables_bounds (known : target.endIndex = some stop) {compiled : Compiled}
    (filled : ∀ table ∈ compiled.tables, ∃ row ∈ table.cells, row ≠ [])
    (inside : ∀ table ∈ compiled.tables, 1 ≤ table.offset ∧ table.offset < stop + Text.units compiled.text) :
    Bounds (target.insertTables compiled) (TablesInside target compiled) := by
  unfold insertTables
  dsimp only
  split
  · exact bounds_of_calm (Action.calm_pure ())
  · rename_i filledUp
    have some : compiled.tables ≠ [] := by simpa using filledUp
    have places : ∀ table ∈ compiled.tables,
        ¬TableInserter.IsOutside table.offset (target.endIndex.map (· + Text.units compiled.text)) := by
      intro table member outside
      obtain ⟨front, back⟩ := inside table member
      rw [known, Option.map_some] at outside
      rcases outside with before | ⟨last, given, behind⟩
      · omega
      · obtain rfl := Option.some.inj given
        omega
    have landing (anchors : Bool) : Bounds (do
        let inserted ← ExceptT.lift (({ documentId := target.documentId : TableInserter }).insertAll
          compiled.tables 0 (target.endIndex.map (· + Text.units compiled.text)) anchors)
        let _ ← Action.ofOutcome inserted.1) (TablesInside target compiled) := by
      unfold Bounds
      rw [ExceptT.run_bind_lift]
      refine FairlyLeads.bind (TableInserter.insertAll_lands filled places) fun own told ends => ?_
      obtain ⟨outcome, moved⟩ := told
      obtain ⟨landed, spares⟩ := ends
      have whole : TablesInside target compiled (own ++ []) :=
        ⟨some, [], own, [], anchors, moved, rfl, tableless_nil, tableless_nil, landed⟩
      cases outcome with
      | error fault => exact .pure ⟨.inr whole, spares_error (spares fault rfl)⟩
      | ok behind => exact .pure ⟨.inr whole, spares_ok ()⟩
    rw [known] at landing ⊢
    exact .behind (tablesInside_steady target compiled) (target.anchorsRemain_calm _ _) landing

private theorem compiled_tableless (elements : List Element) (base : Int) :
    (compile elements base).edits.any Edit.isTable = false := by
  unfold Compiled.edits
  split
  · rfl
  · rw [List.any_cons, List.any_map, Bool.or_eq_false_iff, List.any_eq_false]
    refine ⟨rfl, fun range _ => ?_⟩
    simp only [Function.comp_apply, StyledRange.edit]
    split <;> simp [Edit.isTable]

/-- A table leaves an anchor in the text, so there is a text to send. -/
theorem edits_of_tables {elements : List Element} {base : Int} (some : (compile elements base).tables ≠ []) :
    (compile elements base).edits ≠ [] := by
  obtain ⟨table, member⟩ := List.exists_mem_of_ne_nil _ some
  have front := table_behind member
  have back := table_inside member
  have written : (compile elements base).text ≠ "" := by
    rw [← Text.units_pos]
    omega
  rw [Compiled.edits, if_neg (by simpa using written)]
  exact List.cons_ne_nil _ _

private theorem insertPictures_calm (target : WriteTarget) (images : List DeferredImage) (report : Nat → WriteReport) :
    Action.Calm (do
      let inserter : ImageInserter :=
        { documentId := target.documentId, hasDrive := target.hasDrive
          markdownPath := target.markdownPath, folder := target.imageFolder }
      let inserted ← ExceptT.lift (inserter.insertAll images target.baseIndex [])
      let images ← Action.ofOutcome inserted.1
      return report images) Request.IsTableless := by
  unfold Action.Calm
  rw [ExceptT.run_bind_lift]
  refine Program.Calm.bind (ImageInserter.insertAll_calm _ _ _ _) fun value spares => ?_
  obtain ⟨outcome, uploaded⟩ := value
  cases outcome with
  | error fault => exact calm_pure (spares_error (spares fault rfl))
  | ok images => exact calm_pure (spares_ok _)

/-- Wherever a text goes that does not start behind the end of the body, its tables stay inside. -/
theorem write_bounds (known : target.endIndex = some stop) (positive : 1 ≤ target.baseIndex)
    (before : target.baseIndex ≤ stop) (plain : target.preamble.any Edit.isTable = false) (markdown : String) :
    Bounds (target.write markdown) (Writes target markdown) := by
  unfold write Writes
  dsimp only
  generalize Markdown.parse markdown = elements
  have inside : ∀ table ∈ (compile elements target.baseIndex).tables,
      1 ≤ table.offset ∧ table.offset < stop + Text.units (compile elements target.baseIndex).text := by
    intro table member
    have front := table_behind member
    have back := table_inside member
    omega
  have batch : (target.preamble ++ (compile elements target.baseIndex).edits).any Edit.isTable = false := by
    rw [List.any_append, plain, compiled_tableless]
    rfl
  have tables (report : Nat → WriteReport) := Bounds.andThen (tablesInside_steady target (compile elements target.baseIndex))
    (insertTables_bounds known tables_filled inside)
    fun _ => target.insertPictures_calm (compile elements target.baseIndex).images report
  split
  · refine FairlyLeads.ask fun reply fair => ?_
    cases reply with
    | error fault => cases fair.whole
    | ok receipt =>
      refine FairlyLeads.mono (tables _) fun asked told ends => ⟨?_, ends.2⟩
      have quiet : Tableless [⟨.call (.editDocument target.documentId (target.preamble ++ _)), .ok receipt⟩] :=
        List.forall_mem_singleton.mpr batch
      refine ends.1.imp quiet.append fun holds => ⟨⟨receipt, List.mem_cons_self⟩, ?_⟩
      have whole := tablesInside_steady _ _ _ asked [] quiet holds tableless_nil
      rwa [List.append_nil] at whole
  · rename_i unsent
    refine (tables _).mono fun asked holds => ?_
    have edits := edits_of_tables holds.1
    simp [edits] at unsent

end WriteTarget

end DocScribe.Docs
