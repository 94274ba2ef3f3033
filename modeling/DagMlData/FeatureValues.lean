import DagMlData.FeatureTable
import DagMlData.HandleRuns

/-!
# Feature values by table and by buffer

`fromFeatureTable_eq`: the buffer of a table of numbers. `featureValues_agree`: on every view of a
reachable arena, the lookup in the table and the projection of its buffer select the same rows and
columns, with the same cells.
-/

namespace DagMlData

open Guard RustText

/-! ## The buffer of a table -/

/-- The cell of a number, none for the other values. -/
def cellValue : Json → Option F64
  | .number n => some n.asF64
  | _ => none

/-- A number as a float. -/
def Json.asFloat : Json → Json
  | .number n => .number (.float n.asF64)
  | value => value

namespace CoordinatorFeatureTable

variable {table : CoordinatorFeatureTable}

/-- The columns of the cells of the rows. -/
def columnsOf (featureCount : Nat) (rows : List CoordinatorFeatureRow) :
    List (List (Option F64)) :=
  (List.range featureCount).map fun i => rows.map fun row => cellValue (row.values.getD i .null)

/-- The buffer that a table of numbers makes. -/
def asBuffer (table : CoordinatorFeatureTable) : NumericFeatureBuffer where
  featureSetId := table.featureSetId
  representationId := table.representationId
  featureNames := table.featureNames
  observationIds := table.rows.map (·.observationId)
  columns := columnsOf table.featureNames.length table.rows
  rowIndexByObservation := rowIndex (table.rows.map (·.observationId))

theorem pushCells_eq {α : Type} {columns : List (List α)} {cells : List α}
    (h : columns.length = cells.length) :
    pushCells columns cells = List.zipWith (fun column cell => column ++ [cell]) columns cells := by
  induction columns generalizing cells with
  | nil => rfl
  | cons column columns ih =>
    cases cells with
    | nil => cases h
    | cons cell cells => rw [pushCells, ih (Nat.succ.inj h), List.zipWith_cons_cons]

theorem pushCells_columnsOf {rows : List CoordinatorFeatureRow} {row : CoordinatorFeatureRow} :
    pushCells (columnsOf row.values.length rows) (row.values.map cellValue) =
      columnsOf row.values.length (rows ++ [row]) := by
  rw [pushCells_eq (by simp [columnsOf])]
  refine List.ext_getElem? fun i => ?_
  by_cases hi : i < row.values.length
  · simp [columnsOf, hi]
  · simp [columnsOf, hi]

theorem numericFeatureValue_eq_ok {featureSetId : String} {observationId : ObservationId}
    {name : String} {value : Json}
    (h : value = .null ∨ ∃ n : JsonNumber, value = .number n ∧ n.Fits) :
    numericFeatureValue featureSetId observationId name value = .ok (cellValue value) := by
  rcases h with rfl | ⟨n, rfl, -⟩
  · rfl
  · rfl

/-- What the loop over the rows has stored after some of them. -/
theorem foldlM_addTableRow (hnumeric : table.Numeric) {rows : List CoordinatorFeatureRow}
    (hrows : ∀ row ∈ rows, row ∈ table.rows ∧ row.values.length = table.featureNames.length)
    (hnodup : (rows.map (·.observationId)).Nodup) :
    rows.zipIdx.foldlM (NumericFeatureBuffer.addTableRow table)
        ⟨[], List.replicate table.featureNames.length [], ∅⟩ =
      .ok ⟨rows.map (·.observationId), columnsOf table.featureNames.length rows,
        rowIndex (rows.map (·.observationId))⟩ := by
  induction rows using List.reverseRecOn with
  | nil =>
    have hcolumns : columnsOf table.featureNames.length [] =
        List.replicate table.featureNames.length [] := by
      simp [columnsOf]
    rw [hcolumns]
    rfl
  | append_singleton rows row ih =>
    rw [List.map_append, List.map_singleton, List.nodup_append] at hnodup
    obtain ⟨hrow, hlength⟩ := hrows row (by simp)
    have hnew : (rowIndex (rows.map (·.observationId))).contains row.observationId = false := by
      rw [← Bool.not_eq_true, Std.ExtTreeMap.contains_iff_mem, rowIndex, BTreeMap.mem_collect,
        List.zipIdx_map_fst]
      exact fun h => hnodup.2.2 _ h _ (List.mem_singleton_self _) rfl
    have hcells : (row.values.zipIdx.mapM fun value => numericFeatureValue table.featureSetId
        row.observationId (table.featureNames.getD value.2 "") value.1) =
        .ok (row.values.map cellValue) := by
      have hmap : row.values.map cellValue = row.values.zipIdx.map fun v => cellValue v.1 := by
        conv_lhs => rw [← List.zipIdx_map_fst 0 row.values, List.map_map]
        rfl
      rw [mapM_eq_ok, hmap, List.forall₂_map_right_iff, List.forall₂_same]
      intro value hvalue
      have hmem : value.1 ∈ row.values := List.fst_mem_of_mem_zipIdx hvalue
      exact numericFeatureValue_eq_ok (hnumeric row hrow value.1 hmem)
    have hstored := ih (fun r hr => hrows r (List.mem_append_left _ hr)) hnodup.1
    have hcolumns := @pushCells_columnsOf rows row
    rw [hlength] at hcolumns
    have hindex : (rowIndex (rows.map (·.observationId))).insert row.observationId rows.length =
        rowIndex ((rows ++ [row]).map (·.observationId)) := by
      rw [rowIndex, rowIndex, List.map_append, List.map_singleton, List.zipIdx_append,
        List.zipIdx_singleton, BTreeMap.collect_append_single, List.length_map, Nat.zero_add]
    rw [List.zipIdx_append, List.foldlM_append, bind_eq_ok]
    refine ⟨_, hstored, ?_⟩
    simp only [List.zipIdx_singleton, List.foldlM_cons, List.foldlM_nil, bind_eq_ok, pure_eq_ok,
      NumericFeatureBuffer.addTableRow, rejectIf_eq_ok, exists_unit]
    refine ⟨_, ⟨hnew, _, hcells, rfl⟩, ?_⟩
    rw [Nat.zero_add, hcolumns, hindex, List.map_append, List.map_singleton]

/-- A valid table of numbers makes its buffer. -/
theorem fromFeatureTable_eq (hvalid : table.Valid) (hnumeric : table.Numeric) :
    NumericFeatureBuffer.fromFeatureTable table = .ok table.asBuffer := by
  have hloop := foldlM_addTableRow hnumeric
    (fun row hrow => ⟨hrow, hvalid.rows row hrow⟩) hvalid.observationsNodup
  refine bind_eq_ok.mpr ⟨(), validate_eq_ok.mpr hvalid, bind_eq_ok.mpr ⟨_, hloop, ?_⟩⟩
  rfl

theorem Valid.asBuffer_shaped (h : table.Valid) : table.asBuffer.Shaped where
  featureSetId := h.featureSetId
  named := h.named
  columns := by simp [asBuffer, columnsOf]
  observed := by simpa [asBuffer] using h.observed
  names := h.names
  namesNodup := h.namesNodup
  observationsNodup := h.observationsNodup
  index := rfl
  rows := by simp [asBuffer, columnsOf]

/-- The cell of the buffer is the cell of the row, as a float. -/
theorem cell_asBuffer {featureIdx rowIdx : Nat} {row : CoordinatorFeatureRow}
    (hfeature : featureIdx < table.featureNames.length) (hrow : table.rows[rowIdx]? = some row) :
    table.asBuffer.cell featureIdx rowIdx = cellValue (row.values.getD featureIdx .null) := by
  simp [NumericFeatureBuffer.cell, asBuffer, columnsOf, hfeature, hrow]

theorem cellJson_cellValue {value : Json}
    (h : value = .null ∨ ∃ n : JsonNumber, value = .number n ∧ n.Fits) :
    NumericFeatureBuffer.cellJson (cellValue value) = value.asFloat := by
  rcases h with rfl | ⟨n, rfl, hfits⟩
  · rfl
  · show Json.ofF64 n.asF64 = .number (.float n.asF64)
    rw [Json.ofF64, if_pos hfits.isFinite_asF64]

/-- The row of the table and the row of its buffer have the same cells. -/
theorem holds_asBuffer (hvalid : table.Valid) (hnumeric : table.Numeric) {selected : List Nat}
    (hselected : ∀ i ∈ selected, i < table.featureNames.length) {r : CoordinatorRelation}
    {values : List Json} :
    table.asBuffer.Holds selected r values ↔
      ∃ values', table.Holds selected r values' ∧ values = values'.map Json.asFloat := by
  have hcells : ∀ (rowIdx : Nat) (row : CoordinatorFeatureRow), table.rows[rowIdx]? = some row →
      (selected.map fun i => NumericFeatureBuffer.cellJson (table.asBuffer.cell i rowIdx)) =
        (selected.map fun i => row.values.getD i .null).map Json.asFloat := by
    intro rowIdx row hrow
    rw [List.map_map]
    refine List.map_congr_left fun i hi => ?_
    have hmem : row ∈ table.rows := List.mem_of_getElem? hrow
    have hlt : i < row.values.length := by
      rw [hvalid.rows row hmem]
      exact hselected i hi
    rw [cell_asBuffer (hselected i hi) hrow, cellJson_cellValue]
    · rfl
    · rw [List.getD_eq_getElem _ _ hlt]
      exact hnumeric row hmem _ (List.getElem_mem hlt)
  constructor
  · rintro ⟨rowIdx, hobservation, rfl⟩
    obtain ⟨row, hrow, heq⟩ : ∃ row, table.rows[rowIdx]? = some row ∧
        row.observationId = r.observationId := by
      simpa [asBuffer] using hobservation
    exact ⟨_, ⟨row, List.mem_of_getElem? hrow, heq, rfl⟩, hcells rowIdx row hrow⟩
  · rintro ⟨_, ⟨row, hmem, heq, rfl⟩, rfl⟩
    obtain ⟨rowIdx, hrow⟩ := List.getElem?_of_mem hmem
    refine ⟨rowIdx, ?_, (hcells rowIdx row hrow).symm⟩
    simp [asBuffer, hrow, heq]

end CoordinatorFeatureTable

/-! ## Live views -/

namespace CoordinatorHandleArena

/-- What holds of the records after any run, whether the counter has wrapped or not. -/
structure RecordsOk (arena : CoordinatorHandleArena) : Prop where
  data : ∀ (h : Nat) (record : CoordinatorDataHandleRecord), arena.records[h]? = some record →
    record.handle = ⟨h, .data, arena.ownerController⟩
  parent : ∀ (v : Nat) (record : CoordinatorDataViewRecord),
    arena.viewRecords[v]? = some record →
    ∃ parent, arena.records[record.parentHandle.handle]? = some parent ∧
      parent.handle = record.parentHandle
  columns : ∀ (v : Nat) (record : CoordinatorDataViewRecord),
    arena.viewRecords[v]? = some record →
    ∀ columns, record.view.columns = some columns → columns.Nodup
  relations : ∀ v : Nat, v ∈ arena.viewRelations ↔ v ∈ arena.viewRecords

theorem recordsOk_new {owner : String} {arena : CoordinatorHandleArena}
    (h : new owner = .ok arena) : arena.RecordsOk := by
  simp only [new, bind_eq_ok, pure_eq_ok] at h
  obtain ⟨_, _, rfl⟩ := h
  constructor <;> simp

theorem validateView_columns_nodup [ThirdParty] {view : DataView}
    (h : validateView view = .ok ()) : ∀ columns, view.columns = some columns →
      columns.Nodup := by
  simp only [validateView, bind_eq_ok, exists_unit, whenSome_eq_ok, rejectIf_eq_ok,
    hasRepeats_eq_false] at h
  exact fun columns hcolumns => (h.2.2.2.1 columns hcolumns).1

variable {arena : CoordinatorHandleArena}

theorem RecordsOk.eraseView (h : arena.RecordsOk) (v : Nat) : (arena.eraseView v).RecordsOk := by
  have hof : ∀ (k : Nat) (record : CoordinatorDataViewRecord),
      (arena.eraseView v).viewRecords[k]? = some record →
        arena.viewRecords[k]? = some record := by
    intro k record hk
    simp only [CoordinatorHandleArena.eraseView, Std.ExtTreeMap.getElem?_erase] at hk
    split at hk
    · cases hk
    · exact hk
  refine ⟨h.data, fun k record hk => h.parent k record (hof k record hk),
    fun k record hk => h.columns k record (hof k record hk), fun k => ?_⟩
  simp only [CoordinatorHandleArena.eraseView, Std.ExtTreeMap.mem_erase, h.relations]

/-- Without a data handle and the views that name it as parent, the rest still fits. -/
theorem RecordsOk.removesData (h : arena.RecordsOk) {k : Nat}
    {record : CoordinatorDataHandleRecord} (hr : arena.records[k]? = some record) :
    (((arena.eraseData k).childViews record.handle).foldl CoordinatorHandleArena.eraseView
      (arena.eraseData k)).RecordsOk := by
  have hchild : ∀ v, v ∈ (arena.eraseData k).childViews record.handle ↔
      ∃ view, arena.viewRecords[v]? = some view ∧ view.parentHandle = record.handle :=
    fun v => mem_childViews
  have hof : ∀ (v : Nat) (view : CoordinatorDataViewRecord),
      (BTreeMap.eraseAll arena.viewRecords
        ((arena.eraseData k).childViews record.handle))[v]? = some view →
      arena.viewRecords[v]? = some view ∧ view.parentHandle ≠ record.handle := by
    intro v view hv
    rw [BTreeMap.getElem?_eraseAll] at hv
    split at hv
    · cases hv
    · next hnot => exact ⟨hv, fun heq => hnot ((hchild v).mpr ⟨view, hv, heq⟩)⟩
  rw [foldl_eraseView]
  refine ⟨fun a r ha => ?_, fun v view hv => ?_, fun v view hv => ?_, fun v => ?_⟩
  · simp only [eraseData, Std.ExtTreeMap.getElem?_erase] at ha
    split at ha
    · cases ha
    · exact h.data a r ha
  · obtain ⟨hview, hne⟩ := hof v view hv
    obtain ⟨parent, hparent, hhandle⟩ := h.parent v view hview
    have hk : k ≠ view.parentHandle.handle := by
      rintro rfl
      rw [hr, Option.some.injEq] at hparent
      exact hne (by rw [← hhandle, hparent])
    exact ⟨parent, (BTreeMap.getElem?_erase_of_ne hk).trans hparent, hhandle⟩
  · exact h.columns v view (hof v view hv).1
  · simp only [BTreeMap.mem_eraseAll, eraseData, h.relations]

variable [ThirdParty]

theorem RecordsOk.step (h : arena.RecordsOk) (call : ArenaCall) :
    (arena.step call).2.RecordsOk := by
  have hs := step_spec arena call
  generalize (arena.step call).1 = reply at hs
  generalize (arena.step call).2 = after at hs ⊢
  cases hs with
  | notMaterialized _ => exact h
  | @materialized _ _ scope record _ hrecord =>
    have hhandle : record.handle = ⟨arena.nextHandle, .data, arena.ownerController⟩ := by
      rw [hrecord]
      rfl
    refine ⟨fun a r ha => ?_, fun v view hv => ?_, h.columns, h.relations⟩
    · rw [getElem?_records_insertData, hhandle] at ha
      split at ha
      · next heq =>
        cases ha
        rw [hhandle, heq]
        rfl
      · exact h.data a r ha
    · -- A handle that is taken again keeps its reference, so it is still the parent.
      obtain ⟨parent, hparent, hph⟩ := h.parent v view hv
      rw [getElem?_records_insertData, hhandle]
      split
      · next heq =>
        refine ⟨record, rfl, ?_⟩
        rw [hhandle, ← hph, h.data _ parent hparent, heq]
      · exact ⟨parent, hparent, hph⟩
  | notViewed => exact h
  | @viewed dataHandle view parent _ _ record hview hparent _ _ hrecord =>
    have hkey : record.handle.handle = arena.nextHandle := by rw [hrecord]
    refine ⟨h.data, fun v view' hv => ?_, fun v view' hv => ?_, fun v => ?_⟩
    · rw [getElem?_viewRecords_insertView, hkey] at hv
      split at hv
      · cases hv
        have hhandle := h.data dataHandle parent hparent
        refine ⟨parent, ?_, by rw [hrecord]⟩
        rw [hrecord]
        show arena.records[parent.handle.handle]? = some parent
        rw [hhandle]
        exact hparent
      · exact h.parent v view' hv
    · rw [getElem?_viewRecords_insertView, hkey] at hv
      split at hv
      · cases hv
        rw [hrecord]
        exact validateView_columns_nodup hview
      · exact h.columns v view' hv
    · simp only [insertView, Std.ExtTreeMap.mem_insert, advance, h.relations]
  | releasedView _ => exact h.eraseView _
  | releasedData _ hr => exact h.removesData hr
  | releasedNothing _ _ => exact h

theorem RecordsOk.run (h : arena.RecordsOk) (calls : List ArenaCall) :
    (arena.run calls).RecordsOk :=
  Machine.run_preserves RecordsOk h fun _ call _ hs => hs.step call

/-! ## Both reads agree -/

omit [ThirdParty] in
/-- What `feature_values` answers for a live view. -/
theorem featureValues_eq_ok {table : CoordinatorFeatureTable} (hvalid : table.Valid)
    {viewHandle : Nat} {view : CoordinatorDataViewRecord} {relations : CoordinatorRelationSet}
    {parent : CoordinatorDataHandleRecord} (hview : arena.viewRecords[viewHandle]? = some view)
    (hrelations : arena.viewRelations[viewHandle]? = some relations)
    (hparent : arena.records[view.parentHandle.handle]? = some parent)
    (hrepresentation : table.representationId = parent.outputRepresentation)
    {block : CoordinatorFeatureBlock} :
    arena.featureValues viewHandle table = .ok block ↔
      ∃ selected, Picks table.featureNames view.view.columns selected ∧
      ∃ values, List.Forall₂ (table.Holds selected) relations.records values ∧
        block = ⟨table.featureSetId, table.representationId,
          selected.map fun idx => table.featureNames.getD idx "",
          relations.records.map (·.observationId),
            relations.records.map (·.sampleId), values⟩ := by
  have hholds : ∀ (selected : List Nat) (r : CoordinatorRelation) (values : List Json),
      (∃ row, (BTreeMap.collect (table.rows.map fun row =>
        (row.observationId, row)))[r.observationId]? = some row ∧
        (selected.map fun idx => row.values.getD idx .null) = values) ↔
        table.Holds selected r values := by
    intro selected r values
    simp only [hvalid.getElem?_rows, and_assoc, eq_comm (b := values)]
    rfl
  simp only [featureValues, viewIdentity, bind_eq_ok, CoordinatorFeatureTable.validate_eq_ok,
    exists_unit, require_eq_ok, rejectIf_eq_ok, bne_eq_false_iff_eq, pure_eq_ok, mapM_eq_ok,
    selectedFeatureIndices_eq_ok hvalid, hholds]
  constructor
  · rintro ⟨-, _, hv, _, hp, -, _, hr, selected, hselected, values, hvalues, rfl⟩
    cases hview.symm.trans hv
    cases hrelations.symm.trans hr
    exact ⟨selected, hselected, values, hvalues, rfl⟩
  · rintro ⟨selected, hselected, values, hvalues, rfl⟩
    exact ⟨hvalid, view, hview, parent, hparent, hrepresentation, relations, hrelations, selected,
      hselected, values, hvalues, rfl⟩

/-- For every view of a reachable arena and every table of numbers with the representation of the
view's handle, reading the table and projecting its buffer succeed together, with the same rows,
columns and cells. -/
theorem featureValues_agree {owner : String} (hnew : CoordinatorHandleArena.new owner = .ok arena)
    (calls : List ArenaCall) {viewHandle : Nat} {view : CoordinatorDataViewRecord}
    {relations : CoordinatorRelationSet}
    (hview : (arena.run calls).viewRecords[viewHandle]? = some view)
    (hrelations : (arena.run calls).viewIdentity viewHandle = .ok relations)
    (hvalid : relations.validate = .ok ()) {table : CoordinatorFeatureTable}
    (htable : table.validate = .ok ()) (hnumeric : table.Numeric)
    (hrepresentation : ∀ parent,
      (arena.run calls).records[view.parentHandle.handle]? = some parent →
      table.representationId = parent.outputRepresentation) :
    ∃ buffer, NumericFeatureBuffer.fromFeatureTable table = .ok buffer ∧
      ((∃ block, (arena.run calls).featureValues viewHandle table = .ok block) ↔
        ∃ block, buffer.projectRelations relations none view.view.columns = .ok block) ∧
      ∀ block block', (arena.run calls).featureValues viewHandle table = .ok block →
        buffer.projectRelations relations none view.view.columns = .ok block' →
        block'.featureSetId = block.featureSetId ∧
        block'.representationId = block.representationId ∧
        block'.featureNames = block.featureNames ∧
        block'.observationIds = block.observationIds ∧ block'.sampleIds = block.sampleIds ∧
        block'.values = block.values.map fun row => row.map Json.asFloat := by
  have hok : (arena.run calls).RecordsOk := (recordsOk_new hnew).run calls
  obtain ⟨parent, hparent, -⟩ := hok.parent viewHandle view hview
  have htvalid := CoordinatorFeatureTable.validate_eq_ok.mp htable
  have hrvalid := CoordinatorRelationSet.validate_eq_ok.mp hvalid
  have hfeature := fun block => @featureValues_eq_ok _ _ htvalid _ _ _ _ hview
    (require_eq_ok.mp hrelations) hparent (hrepresentation parent hparent) block
  have hproject : ∀ block, table.asBuffer.projectRelations relations none view.view.columns =
      .ok block ↔ ∃ selected, Picks table.featureNames view.view.columns selected ∧
        table.asBuffer.Projects selected relations.records block := by
    intro block
    have hall : relations.records.filter (·.inScope none) = relations.records :=
      List.filter_eq_self.mpr fun r _ => rfl
    have hnodup := hok.columns viewHandle view hview
    rw [NumericFeatureBuffer.projectRelations_eq_ok, hall]
    simp only [hrvalid, true_and, NumericFeatureBuffer.selectedIndices_eq_ok,
      htvalid.asBuffer_shaped]
    exact exists_congr fun selected => and_congr_left fun _ =>
      ⟨fun h => h.2, fun h => ⟨hnodup, h⟩⟩
  -- A projected block is the looked up block with its numbers as floats.
  have hagree : ∀ block', table.asBuffer.projectRelations relations none view.view.columns =
      .ok block' ↔ ∃ block, (arena.run calls).featureValues viewHandle table = .ok block ∧
        block' = { block with values := block.values.map fun row => row.map Json.asFloat } := by
    intro block'
    -- The buffer holds the same rows under the same columns.
    have hrows : ∀ selected, Picks table.featureNames view.view.columns selected →
        ∀ values, List.Forall₂ (table.asBuffer.Holds selected) relations.records values ↔
          ∃ values', List.Forall₂ (table.Holds selected) relations.records values' ∧
            values = values'.map fun row => row.map Json.asFloat := by
      intro selected hselected values
      refine forall₂_image fun r row => ?_
      exact CoordinatorFeatureTable.holds_asBuffer htvalid hnumeric hselected.lt_length
    simp only [hproject, hfeature]
    constructor
    · rintro ⟨selected, hselected, hblock⟩
      obtain ⟨values, hvalues, heq⟩ := (hrows selected hselected _).mp hblock.values
      refine ⟨_, ⟨selected, hselected, values, hvalues, rfl⟩, ?_⟩
      obtain ⟨hid, hrep, hnames, hobservations, hsamples, -⟩ := hblock
      cases block'
      simp only at hid hrep hnames hobservations hsamples heq
      rw [hid, hrep, hnames, hobservations, hsamples, heq]
      rfl
    · rintro ⟨_, ⟨selected, hselected, values, hvalues, rfl⟩, rfl⟩
      refine ⟨selected, hselected, ⟨rfl, rfl, rfl, rfl, rfl, ?_⟩⟩
      exact (hrows selected hselected _).mpr ⟨values, hvalues, rfl⟩
  refine ⟨table.asBuffer, CoordinatorFeatureTable.fromFeatureTable_eq htvalid hnumeric, ?_, ?_⟩
  · constructor
    · rintro ⟨block, hblock⟩
      exact ⟨_, (hagree _).mpr ⟨block, hblock, rfl⟩⟩
    · rintro ⟨block', hblock'⟩
      obtain ⟨block, hblock, -⟩ := (hagree block').mp hblock'
      exact ⟨block, hblock⟩
  · intro block block' hblock hblock'
    obtain ⟨_, hread, rfl⟩ := (hagree block').mp hblock'
    cases hblock.symm.trans hread
    exact ⟨rfl, rfl, rfl, rfl, rfl, rfl⟩

omit [ThirdParty]

/-- Two features of the training observation. -/
def numbersTable : CoordinatorFeatureTable where
  featureSetId := "x"
  representationId := .lit "tabular" rfl
  featureNames := ["a", "b"]
  rows := [⟨.lit "o1" rfl, [.number (.int 3), .null]⟩]

/-- Materialize and view. -/
def viewedRun : List ArenaCall :=
  [.materialize testEnvelope trainingRequest, .makeView 1 plainView]

theorem viewedRun_featureValues_agree :
    letI := testDigests
    ∃ view relations buffer, (emptyArena.run viewedRun).viewRecords[2]? = some view ∧
      (emptyArena.run viewedRun).viewIdentity 2 = .ok relations ∧
      NumericFeatureBuffer.fromFeatureTable numbersTable = .ok buffer ∧
      ((∃ block, (emptyArena.run viewedRun).featureValues 2 numbersTable = .ok block) ↔
        ∃ block, buffer.projectRelations relations none view.view.columns = .ok block) := by
  let _ := testDigests
  have hrun : emptyArena.run viewedRun =
      ((emptyArena.advance.insertData
        (dataRecord testEnvelope trainingRequest (some ⟨[trainingRecord]⟩)
          ⟨1, .data, "controller"⟩) (some ⟨[trainingRecord]⟩)).step
            (.makeView 1 plainView)).2 := by
    rw [viewedRun, run, Machine.run_cons, materialize_trainingRequest]
    rfl
  have hlive : ((emptyArena.run viewedRun).viewRecords[2]?).any (fun view =>
      ((emptyArena.run viewedRun).records[view.parentHandle.handle]?).all fun parent =>
        numbersTable.representationId == parent.outputRepresentation) = true := by
    rw [hrun]
    decide +kernel
  have hread : ((emptyArena.run viewedRun).viewIdentity 2).toOption.any (fun relations =>
      relations.validate.toOption.isSome) = true := by
    rw [hrun]
    decide +kernel
  obtain ⟨view, hview, hparent⟩ := Option.any_eq_true _ _ |>.mp hlive
  obtain ⟨relations, hrelations, hvalid⟩ := Option.any_eq_true _ _ |>.mp hread
  obtain ⟨u, hvalid⟩ := Option.isSome_iff_exists.mp hvalid
  have hrepresentation : ∀ parent,
      (emptyArena.run viewedRun).records[view.parentHandle.handle]? = some parent →
        numbersTable.representationId = parent.outputRepresentation := by
    intro parent heq
    rw [heq, Option.all_some, beq_iff_eq] at hparent
    exact hparent
  have hnumeric : numbersTable.Numeric := by
    intro row hrow value hvalue
    cases List.mem_singleton.mp hrow
    rcases List.mem_cons.mp hvalue with rfl | hvalue
    · exact Or.inr ⟨.int 3, rfl, by decide, by decide⟩
    · exact Or.inl (List.mem_singleton.mp hvalue)
  obtain ⟨buffer, hbuffer, hiff, -⟩ :=
    @featureValues_agree emptyArena testDigests "controller" rfl
    viewedRun 2 view relations hview (toOption_eq_some.mp hrelations) (toOption_eq_some.mp hvalid)
    numbersTable rfl hnumeric hrepresentation
  exact ⟨view, relations, buffer, hview, toOption_eq_some.mp hrelations, hbuffer, hiff⟩

end CoordinatorHandleArena

end DagMlData
