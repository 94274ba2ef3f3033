import DagMlData.Buffer
import DagMlData.Handle
import DagMlData.RelationSetValid

/-!
# Feature tables and feature blocks

The two ways of the source to read features of a view: `feature_values` looks the rows of a JSON
table up one by one, `project_relations` gathers the rows of a buffer. Both give a
`CoordinatorFeatureBlock`.
-/

namespace DagMlData

open Guard RustText

structure CoordinatorFeatureRow where
  observationId : ObservationId
  values : List Json

structure CoordinatorFeatureTable where
  featureSetId : String
  representationId : RepresentationId
  featureNames : List String
  rows : List CoordinatorFeatureRow

structure CoordinatorFeatureBlock where
  featureSetId : String
  representationId : RepresentationId
  featureNames : List String
  observationIds : List ObservationId
  sampleIds : List SampleId
  values : List (List Json)

/-! ## Feature tables -/

namespace CoordinatorFeatureTable

variable (table : CoordinatorFeatureTable)

/-- The loop over the feature names, with the names that it has seen. -/
def checkNames : List String → List String → Result Unit
  | _, [] => .ok ()
  | seen, name :: names => do
    validateNonEmpty "feature_name" name
    rejectIf (seen.contains name)
      (.validation s!"feature table `{table.featureSetId}` contains duplicate feature `{name}`")
    checkNames (name :: seen) names

/-- The loop over the rows, with the observations that it has seen. -/
def checkRows : List ObservationId → List CoordinatorFeatureRow → Result Unit
  | _, [] => .ok ()
  | seen, row :: rows => do
    rejectIf (seen.contains row.observationId)
      (.validation (s!"feature table `{table.featureSetId}` contains duplicate observation " ++
        s!"`{row.observationId}`"))
    rejectIf (row.values.length != table.featureNames.length)
      (.validation (s!"feature table `{table.featureSetId}` row `{row.observationId}` has " ++
        s!"{row.values.length} values for {table.featureNames.length} features"))
    checkRows (row.observationId :: seen) rows

def validate : Result Unit := do
  validateNonEmpty "feature_set_id" table.featureSetId
  rejectIf table.featureNames.isEmpty
    (.validation s!"feature table `{table.featureSetId}` contains no features")
  table.checkNames [] table.featureNames
  rejectIf table.rows.isEmpty
    (.validation s!"feature table `{table.featureSetId}` contains no rows")
  table.checkRows [] table.rows

end CoordinatorFeatureTable

/-- `numeric_feature_value`. Every number of a table is one that `as_f64` converts. -/
def numericFeatureValue (featureSetId : String) (observationId : ObservationId)
    (featureName : String) (value : Json) : Result (Option F64) :=
  match value with
  | .null => .ok none
  | .number n => .ok (some n.asF64)
  | _ => .error (.validation (s!"feature table `{featureSetId}` row `{observationId}` feature " ++
      s!"`{featureName}` must be numeric or null"))

/-- Pushes every cell to the column at its place. -/
def pushCells {α : Type} : List (List α) → List α → List (List α)
  | column :: columns, cell :: cells => (column ++ [cell]) :: pushCells columns cells
  | columns, _ => columns

namespace NumericFeatureBuffer

/-- The storage that `from_feature_table` fills row by row. -/
structure FromTableLoop where
  observationIds : List ObservationId
  columns : List (List (Option F64))
  rowIndexByObservation : BTreeMap ObservationId Nat

/-- One row of the table. -/
def addTableRow (table : CoordinatorFeatureTable) (st : FromTableLoop)
    (entry : CoordinatorFeatureRow × Nat) : Result FromTableLoop := do
  rejectIf (st.rowIndexByObservation.contains entry.1.observationId)
    (.validation (s!"feature table `{table.featureSetId}` contains duplicate observation " ++
      s!"`{entry.1.observationId}`"))
  let cells ← entry.1.values.zipIdx.mapM fun value =>
    numericFeatureValue table.featureSetId entry.1.observationId
      (table.featureNames.getD value.2 "") value.1
  pure ⟨st.observationIds ++ [entry.1.observationId], pushCells st.columns cells,
    st.rowIndexByObservation.insert entry.1.observationId entry.2⟩

/-- `from_feature_table`. -/
def fromFeatureTable (table : CoordinatorFeatureTable) : Result NumericFeatureBuffer := do
  table.validate
  let st ← table.rows.zipIdx.foldlM (addTableRow table)
    ⟨[], List.replicate table.featureNames.length [], ∅⟩
  pure {
    featureSetId := table.featureSetId
    representationId := table.representationId
    featureNames := table.featureNames
    observationIds := st.observationIds
    columns := st.columns
    rowIndexByObservation := st.rowIndexByObservation }

/-! ## Reading a buffer -/

/-- The places of the selected columns, with the columns that the selection has seen. -/
def selectColumns (featureSetId : String) (indexByName : BTreeMap String Nat) :
    List String → List String → Result (List Nat)
  | _, [] => .ok []
  | seen, column :: columns => do
    rejectIf (seen.contains column)
      (.validation (s!"feature table `{featureSetId}` selected duplicate feature column " ++
        s!"`{column}`"))
    let index ← require indexByName[column]?
      (.validation s!"feature table `{featureSetId}` has no feature column `{column}`")
    let indices ← selectColumns featureSetId indexByName (column :: seen) columns
    pure (index :: indices)

variable (buffer : NumericFeatureBuffer)

/-- `selected_indices`. -/
def selectedIndices (columns : Option (List String)) : Result (List Nat) := do
  buffer.validate
  let indexByName := BTreeMap.collect buffer.featureNames.zipIdx
  let indices ← match columns with
    | some columns => selectColumns buffer.featureSetId indexByName [] columns
    | none => pure (List.range buffer.featureNames.length)
  rejectIf indices.isEmpty
    (.validation s!"feature table `{buffer.featureSetId}` selected no feature columns")
  pure indices

/-- The cell in the storage. The validated shape keeps both places in range. -/
def cell (featureIdx rowIdx : Nat) : Option F64 :=
    (buffer.columns.getD featureIdx []).getD rowIdx none

/-- A cell as a JSON value. -/
def cellJson : Option F64 → Json
  | some x => Json.ofF64 x
  | none => .null

end NumericFeatureBuffer

/-- The record belongs to the source, when one is asked for. -/
def CoordinatorRelation.inScope (sourceId : Option SourceId) (r : CoordinatorRelation) : Bool :=
  (sourceId.map fun sourceId => r.sourceId == some sourceId).getD true

/-- `NumericFeatureBuffer::project_relations`. -/
def NumericFeatureBuffer.projectRelations (buffer : NumericFeatureBuffer)
    (relations : CoordinatorRelationSet) (sourceId : Option SourceId)
    (columns : Option (List String)) : Result CoordinatorFeatureBlock := do
  relations.validate
  let selected ← buffer.selectedIndices columns
  let records := relations.records.filter (·.inScope sourceId)
  let values ← records.mapM fun r => do
    let rowIdx ← require buffer.rowIndexByObservation[r.observationId]?
      (.validation (s!"feature table `{buffer.featureSetId}` has no row for observation " ++
        s!"`{r.observationId}`"))
    pure (selected.map fun featureIdx => cellJson (buffer.cell featureIdx rowIdx))
  pure {
    featureSetId := buffer.featureSetId
    representationId := buffer.representationId
    featureNames := selected.map fun featureIdx => buffer.featureNames.getD featureIdx ""
    observationIds := records.map (·.observationId)
    sampleIds := records.map (·.sampleId)
    values := values }

/-! ## Reading a table -/

/-- `selected_feature_indices`. -/
def selectedFeatureIndices (table : CoordinatorFeatureTable) (view : DataView) :
    Result (List Nat) := do
  let indexByName := BTreeMap.collect table.featureNames.zipIdx
  let select := fun column : String => require indexByName[column]?
    (DataError.validation s!"feature table `{table.featureSetId}` has no feature column `{column}`")
  let indices ← match view.columns with
    | some columns => columns.mapM select
    | none => pure (List.range table.featureNames.length)
  rejectIf indices.isEmpty
    (.validation s!"feature table `{table.featureSetId}` selected no feature columns")
  pure indices

/-- `feature_values`. -/
def CoordinatorHandleArena.featureValues (arena : CoordinatorHandleArena) (viewHandle : Nat)
    (table : CoordinatorFeatureTable) : Result CoordinatorFeatureBlock := do
  table.validate
  let viewRecord ← require arena.viewRecords[viewHandle]? (.unknownHandle "view" viewHandle)
  let parentRecord ← require arena.records[viewRecord.parentHandle.handle]?
    (.unknownHandle "data" viewRecord.parentHandle.handle)
  rejectIf (table.representationId != parentRecord.outputRepresentation)
    (.validation (s!"feature table `{table.featureSetId}` representation " ++
      s!"`{table.representationId}` does not match materialized output representation " ++
      s!"`{parentRecord.outputRepresentation}`"))
  let relations ← arena.viewIdentity viewHandle
  let selected ← selectedFeatureIndices table viewRecord.view
  let rowsByObservation := BTreeMap.collect (table.rows.map fun row => (row.observationId, row))
  let values ← relations.records.mapM fun r => do
    let row ← require rowsByObservation[r.observationId]?
      (.validation (s!"feature table `{table.featureSetId}` has no row for observation " ++
        s!"`{r.observationId}`"))
    pure (selected.map fun idx => row.values.getD idx .null)
  pure {
    featureSetId := table.featureSetId
    representationId := table.representationId
    featureNames := selected.map fun idx => table.featureNames.getD idx ""
    observationIds := relations.records.map (·.observationId)
    sampleIds := relations.records.map (·.sampleId)
    values := values }

/-! ## What the validator of tables accepts -/

namespace CoordinatorFeatureTable

variable {table : CoordinatorFeatureTable}

/-- What `CoordinatorFeatureTable.validate` accepts. -/
structure Valid (table : CoordinatorFeatureTable) : Prop where
  featureSetId : isBlank table.featureSetId = false
  named : table.featureNames ≠ []
  names : ∀ name ∈ table.featureNames, isBlank name = false
  namesNodup : table.featureNames.Nodup
  observed : table.rows ≠ []
  observationsNodup : (table.rows.map (·.observationId)).Nodup
  rows : ∀ row ∈ table.rows, row.values.length = table.featureNames.length

/-- Every cell is a number or null. -/
def Numeric (table : CoordinatorFeatureTable) : Prop :=
  ∀ row ∈ table.rows, ∀ value ∈ row.values,
    value = .null ∨ ∃ n : JsonNumber, value = .number n ∧ n.Fits

theorem checkNames_eq_ok {seen names : List String} {u : Unit} :
    table.checkNames seen names = .ok u ↔
      (∀ name ∈ names, isBlank name = false) ∧ names.Nodup ∧
        ∀ name ∈ names, name ∉ seen := by
  have hloop : table.checkNames seen names = .ok u ↔
    (∀ name ∈ names, isBlank name = false) ∧
      (names.map id).Nodup ∧ ∀ name ∈ names, id name ∉ seen := by
    refine seenLoop_eq_ok (fun _ => rfl) fun seen name names => ?_
    simp only [checkNames, bind_eq_ok, validateNonEmpty_eq_ok, rejectIf_eq_ok, exists_unit,
      List.contains_eq_mem, decide_eq_false_iff_not, id]
  rwa [List.map_id] at hloop

theorem checkRows_eq_ok {seen : List ObservationId} {rows : List CoordinatorFeatureRow} {u : Unit} :
    table.checkRows seen rows = .ok u ↔
      (∀ row ∈ rows, row.values.length = table.featureNames.length) ∧
        (rows.map (·.observationId)).Nodup ∧ ∀ row ∈ rows, row.observationId ∉ seen := by
  refine seenLoop_eq_ok (fun _ => rfl) fun seen row rows => ?_
  simp only [checkRows, bind_eq_ok, rejectIf_eq_ok, exists_unit, List.contains_eq_mem,
    decide_eq_false_iff_not, bne_eq_false_iff_eq]
  exact and_left_comm

theorem validate_eq_ok {u : Unit} : table.validate = .ok u ↔ table.Valid := by
  simp only [validate, bind_eq_ok, validateNonEmpty_eq_ok, rejectIf_eq_ok, exists_unit,
    checkNames_eq_ok, checkRows_eq_ok, List.isEmpty_eq_false_iff, List.not_mem_nil,
    not_false_eq_true, implies_true, and_true]
  constructor
  · rintro ⟨hid, hnamed, ⟨hnames, hnodup⟩, hobserved, hrows, hobservations⟩
    exact ⟨hid, hnamed, hnames, hnodup, hobserved, hobservations, hrows⟩
  · rintro ⟨hid, hnamed, hnames, hnodup, hobserved, hobservations, hrows⟩
    exact ⟨hid, hnamed, ⟨hnames, hnodup⟩, hobserved, hrows, hobservations⟩

theorem Valid.getElem?_rows (h : table.Valid) {observationId : ObservationId}
    {row : CoordinatorFeatureRow} :
    (BTreeMap.collect (table.rows.map fun row => (row.observationId, row)))[observationId]? =
      some row ↔ row ∈ table.rows ∧ row.observationId = observationId := by
  rw [BTreeMap.getElem?_collect_of_nodup]
  · simp only [List.mem_map, Prod.mk.injEq]
    constructor
    · rintro ⟨row', hrow, rfl, rfl⟩
      exact ⟨hrow, rfl⟩
    · rintro ⟨hrow, rfl⟩
      exact ⟨row, hrow, rfl, rfl⟩
  · rw [List.map_map]
    exact h.observationsNodup

/-- The values are the selected cells of the row of the record's observation. -/
def Holds (table : CoordinatorFeatureTable) (selected : List Nat) (r : CoordinatorRelation)
    (values : List Json) : Prop :=
  ∃ row ∈ table.rows, row.observationId = r.observationId ∧
    values = selected.map fun idx => row.values.getD idx .null

end CoordinatorFeatureTable

/-! ## What a selection of columns picks -/

/-- The places of the named columns, or of all columns, and at least one. -/
def Picks (names : List String) (columns : Option (List String)) (indices : List Nat) : Prop :=
  indices ≠ [] ∧ match columns with
    | some columns => List.Forall₂ (fun column i => names[i]? = some column) columns indices
    | none => indices = List.range names.length

theorem Picks.lt_length {names : List String} {columns : Option (List String)} {indices : List Nat}
    (h : Picks names columns indices) : ∀ i ∈ indices, i < names.length := by
  obtain ⟨_, hcolumns⟩ := h
  intro i hi
  cases columns with
  | none =>
    rw [hcolumns] at hi
    exact List.mem_range.mp hi
  | some columns =>
    obtain ⟨column, _, hget⟩ := exists_left_of_forall₂ hcolumns hi
    exact (List.getElem?_eq_some_iff.mp hget).1

/-- The names are distinct, so there is one selection. -/
theorem Picks.unique {names : List String} (hnodup : names.Nodup)
    {columns : Option (List String)} {indices indices' : List Nat}
    (h : Picks names columns indices) (h' : Picks names columns indices') :
    indices = indices' := by
  replace h := h.2
  replace h' := h'.2
  cases columns with
  | none => exact h.trans h'.symm
  | some columns =>
    refine List.forall₂_eq_eq_eq ▸ ?_
    induction h generalizing indices' with
    | nil =>
      cases h'
      exact .nil
    | cons hi _ ih =>
      cases h' with
      | cons hi' htail =>
        have hlt := (List.getElem?_eq_some_iff.mp hi).1
        exact .cons ((List.getElem?_inj hlt hnodup).mp (hi.trans hi'.symm)) (ih htail)

theorem selectedFeatureIndices_eq_ok {table : CoordinatorFeatureTable} (h : table.Valid)
    {view : DataView} {indices : List Nat} :
    selectedFeatureIndices table view = .ok indices ↔
      Picks table.featureNames view.columns indices := by
  unfold selectedFeatureIndices Picks
  cases view.columns with
  | none =>
    simp only [bind_eq_ok, rejectIf_eq_ok, exists_unit, pure_eq_ok, List.isEmpty_eq_false_iff]
    constructor
    · rintro ⟨_, rfl, hne, rfl⟩
      exact ⟨hne, rfl⟩
    · rintro ⟨hne, rfl⟩
      exact ⟨_, rfl, hne, rfl⟩
  | some columns =>
    simp only [bind_eq_ok, rejectIf_eq_ok, exists_unit, pure_eq_ok, List.isEmpty_eq_false_iff,
      mapM_eq_ok, require_eq_ok, BTreeMap.getElem?_collect_zipIdx h.namesNodup]
    constructor
    · rintro ⟨_, hcolumns, hne, rfl⟩
      exact ⟨hne, hcolumns⟩
    · rintro ⟨hne, hcolumns⟩
      exact ⟨_, hcolumns, hne, rfl⟩

namespace NumericFeatureBuffer

theorem selectColumns_eq_ok {featureSetId : String} {indexByName : BTreeMap String Nat}
    {columns seen : List String} {indices : List Nat} :
    selectColumns featureSetId indexByName seen columns = .ok indices ↔
      (columns.Nodup ∧ ∀ column ∈ columns, column ∉ seen) ∧
        List.Forall₂ (fun column i => indexByName[column]? = some i) columns indices := by
  induction columns generalizing seen indices with
  | nil => simp [selectColumns, eq_comm]
  | cons column columns ih =>
    simp only [selectColumns, bind_eq_ok, rejectIf_eq_ok, exists_unit, require_eq_ok, pure_eq_ok,
      ih, List.contains_eq_mem, decide_eq_false_iff_not, List.nodup_cons, List.mem_cons, not_or,
      forall_eq_or_imp, List.forall₂_cons_left_iff]
    constructor
    · rintro ⟨hseen, i, hi, rest, ⟨⟨hnodup, hnew⟩, hrest⟩, rfl⟩
      exact ⟨⟨⟨fun h => (hnew column h).1 rfl, hnodup⟩, hseen,
        fun other h => (hnew other h).2⟩,
        i, rest, hi, hrest, rfl⟩
    · rintro ⟨⟨⟨hnew, hnodup⟩, hseen, hother⟩, i, rest, hi, hrest, rfl⟩
      exact ⟨hseen, i, hi, rest, ⟨⟨hnodup, fun other h =>
        ⟨fun heq => hnew (heq ▸ h), hother other h⟩⟩, hrest⟩, rfl⟩

variable {buffer : NumericFeatureBuffer}

theorem selectedIndices_eq_ok {columns : Option (List String)} {indices : List Nat} :
    buffer.selectedIndices columns = .ok indices ↔
      buffer.Shaped ∧ (∀ columns', columns = some columns' → columns'.Nodup) ∧
        Picks buffer.featureNames columns indices := by
  unfold selectedIndices Picks
  rw [bind_eq_ok, exists_unit, validate_eq_ok]
  refine and_congr_right fun hshaped => ?_
  cases columns with
  | none =>
    simp only [bind_eq_ok, rejectIf_eq_ok, exists_unit, pure_eq_ok, List.isEmpty_eq_false_iff]
    constructor
    · rintro ⟨_, rfl, hne, rfl⟩
      refine ⟨?_, hne, rfl⟩
      rintro _ ⟨⟩
    · rintro ⟨_, hne, rfl⟩
      exact ⟨_, rfl, hne, rfl⟩
  | some columns =>
    simp only [bind_eq_ok, rejectIf_eq_ok, exists_unit, pure_eq_ok, List.isEmpty_eq_false_iff,
      selectColumns_eq_ok, BTreeMap.getElem?_collect_zipIdx hshaped.namesNodup,
      List.not_mem_nil, not_false_eq_true, implies_true, and_true, Option.some.injEq,
      forall_eq']
    constructor
    · rintro ⟨_, ⟨hnodup, hcolumns⟩, hne, rfl⟩
      exact ⟨hnodup, hne, hcolumns⟩
    · rintro ⟨hnodup, hne, hcolumns⟩
      exact ⟨_, ⟨hnodup, hcolumns⟩, hne, rfl⟩

/-- The values are the selected cells of the stored row of the record's observation. -/
def Holds (buffer : NumericFeatureBuffer) (selected : List Nat) (r : CoordinatorRelation)
    (values : List Json) : Prop :=
  ∃ rowIdx, buffer.observationIds[rowIdx]? = some r.observationId ∧
    values = selected.map fun featureIdx => cellJson (buffer.cell featureIdx rowIdx)

/-- The block of the records: one stored row for each of them, in their order. -/
structure Projects (buffer : NumericFeatureBuffer) (selected : List Nat)
    (records : List CoordinatorRelation) (block : CoordinatorFeatureBlock) : Prop where
  featureSetId : block.featureSetId = buffer.featureSetId
  representationId : block.representationId = buffer.representationId
  featureNames : block.featureNames =
    selected.map fun featureIdx => buffer.featureNames.getD featureIdx ""
  observationIds : block.observationIds = records.map (·.observationId)
  sampleIds : block.sampleIds = records.map (·.sampleId)
  values : List.Forall₂ (buffer.Holds selected) records block.values

theorem projectRelations_eq_ok {relations : CoordinatorRelationSet} {sourceId : Option SourceId}
    {columns : Option (List String)} {block : CoordinatorFeatureBlock} :
    buffer.projectRelations relations sourceId columns = .ok block ↔
      relations.Valid ∧ ∃ selected, buffer.selectedIndices columns = .ok selected ∧
        buffer.Projects selected (relations.records.filter (·.inScope sourceId)) block := by
  simp only [projectRelations, bind_eq_ok, CoordinatorRelationSet.validate_eq_ok, exists_unit,
    mapM_eq_ok, require_eq_ok, pure_eq_ok]
  refine and_congr_right fun _ => exists_congr fun selected => and_congr_right fun hselected => ?_
  have hshaped := (selectedIndices_eq_ok.mp hselected).1
  have hholds : ∀ (r : CoordinatorRelation) (values : List Json),
      (∃ rowIdx, buffer.rowIndexByObservation[r.observationId]? = some rowIdx ∧
        (selected.map fun featureIdx => cellJson (buffer.cell featureIdx rowIdx)) = values) ↔
        buffer.Holds selected r values := by
    intro r values
    refine exists_congr fun rowIdx => ?_
    rw [hshaped.index, rowIndex, BTreeMap.getElem?_collect_zipIdx hshaped.observationsNodup,
      eq_comm (b := values)]
  simp only [hholds]
  constructor
  · rintro ⟨values, hvalues, rfl⟩
    exact ⟨rfl, rfl, rfl, rfl, rfl, hvalues⟩
  · rintro ⟨hid, hrep, hnames, hobservations, hsamples, hvalues⟩
    refine ⟨block.values, hvalues, ?_⟩
    cases block
    simp only at hid hrep hnames hobservations hsamples
    rw [hid, hrep, hnames, hobservations, hsamples]

end NumericFeatureBuffer

end DagMlData
