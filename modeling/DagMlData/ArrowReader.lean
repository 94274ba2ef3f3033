import DagMlData.Buffer

/-!
# The Arrow reader

`read_batches` turns a sequence of Arrow record batches into a feature store. It keeps one matrix
for each feature set and extends it batch by batch, with validity masks from the first batch that
has a null.

* `recordBatchToMatrix`, `readBatches`: the reader.
* `ArrowLayout`: what a schema says about the rows, and `ArrowLayout.matrix`: the matrix of rows,
  without batches.
* `readBatches_eq_ok`: the reader reads the matrix of all rows, however they are cut into batches.
-/

namespace DagMlData

open Guard RustText

/-! ## Record batches -/

/-- The type of a column. The reader tells only two types from the others. -/
inductive ArrowDataType
  | utf8
  | float64
  | other (name : String)
deriving DecidableEq

structure ArrowField where
  name : String
  dataType : ArrowDataType

structure ArrowSchema where
  fields : List ArrowField
  metadata : BTreeMap String String

/-- `index_of`: the first field of the name. -/
def ArrowSchema.indexOf (schema : ArrowSchema) (name : String) : Option Nat :=
  schema.fields.findIdx? (·.name == name)

/-- The values of a column, absent where they are null. -/
inductive ArrowArray (α : Type)
  | utf8 (values : List (Option String))
  | float64 (values : List (Option F64))
  | other (name : String) (values : List (Option α))

/-- One value of a column. -/
inductive ArrowCell (α : Type)
  | utf8 (value : Option String)
  | float64 (value : Option F64)
  | other (value : Option α)

namespace ArrowArray

variable {α : Type}

def dataType : ArrowArray α → ArrowDataType
  | utf8 _ => .utf8
  | float64 _ => .float64
  | other name _ => .other name

def length : ArrowArray α → Nat
  | utf8 values => values.length
  | float64 values => values.length
  | other _ values => values.length

/-- `downcast_ref` to a `StringArray`. -/
def asString : ArrowArray α → Option (List (Option String))
  | utf8 values => some values
  | _ => none

/-- `downcast_ref` to a `Float64Array`. -/
def asFloat64 : ArrowArray α → Option (List (Option F64))
  | float64 values => some values
  | _ => none

def cell : ArrowArray α → Nat → ArrowCell α
  | utf8 values, row => .utf8 (values.getD row none)
  | float64 values, row => .float64 (values.getD row none)
  | other _ values, row => .other (values.getD row none)

/-- `slice`. -/
def slice (offset length : Nat) : ArrowArray α → ArrowArray α
  | utf8 values => .utf8 ((values.drop offset).take length)
  | float64 values => .float64 ((values.drop offset).take length)
  | other name values => .other name ((values.drop offset).take length)

@[simp] theorem dataType_slice (offset count : Nat) (array : ArrowArray α) :
    (array.slice offset count).dataType = array.dataType := by
  cases array <;> rfl

theorem length_slice (offset count : Nat) (array : ArrowArray α)
    (h : offset + count ≤ array.length) : (array.slice offset count).length = count := by
  cases array <;> simp [slice, length] at h ⊢ <;> omega

theorem cell_slice {offset count row : Nat} (array : ArrowArray α) (h : row < count) :
    (array.slice offset count).cell row = array.cell (offset + row) := by
  cases array <;> simp [slice, cell, List.getElem?_take_of_lt h]

end ArrowArray

/-- A record batch: a column for each field, of its type, and of the length of the batch. -/
structure RecordBatch (α : Type) where
  schema : ArrowSchema
  columns : List (ArrowArray α)
  rowCount : Nat
  typed : columns.map (·.dataType) = schema.fields.map (·.dataType)
  filled : ∀ array ∈ columns, array.length = rowCount

namespace RecordBatch

variable {α : Type}

/-- `column`. The reader only asks for the columns of fields, which are there. -/
def column (batch : RecordBatch α) (idx : Nat) : ArrowArray α :=
  batch.columns.getD idx (.other "" [])

/-- The rows of a batch, each with its cells in the order of the fields. -/
def rows (batch : RecordBatch α) : List (List (ArrowCell α)) :=
  (List.range batch.rowCount).map fun row => batch.columns.map (·.cell row)

/-- `slice`: the rows from `offset` on, `count` of them. -/
def slice (batch : RecordBatch α) (offset count : Nat) (h : offset + count ≤ batch.rowCount) :
    RecordBatch α where
  schema := batch.schema
  columns := batch.columns.map (·.slice offset count)
  rowCount := count
  typed := by
    rw [← batch.typed, List.map_map]
    exact List.map_congr_left fun array _ => array.dataType_slice offset count
  filled := by
    intro array harray
    obtain ⟨whole, hwhole, rfl⟩ := List.mem_map.mp harray
    exact whole.length_slice offset count (batch.filled whole hwhole ▸ h)

theorem rows_slice (batch : RecordBatch α) {offset count : Nat}
    (h : offset + count ≤ batch.rowCount) :
    (batch.slice offset count h).rows = (batch.rows.drop offset).take count := by
  refine List.ext_getElem ?_ fun row hrow hrow' => ?_
  · simp only [rows, slice, List.length_map, List.length_range, List.length_take, List.length_drop]
    omega
  · have hlt : row < count := by simpa [rows, slice] using hrow
    simp only [rows, slice, List.getElem_map, List.getElem_range, List.getElem_take,
      List.getElem_drop, List.map_map]
    exact List.map_congr_left fun array _ => array.cell_slice hlt

/-- Two slices that meet have the rows of the batch. -/
theorem rows_split (batch : RecordBatch α) {count : Nat} (h : count ≤ batch.rowCount) :
    (batch.slice 0 count (by omega)).rows ++
      (batch.slice count (batch.rowCount - count) (by omega)).rows = batch.rows := by
  have hlength : batch.rows.length = batch.rowCount := by simp [rows]
  rw [rows_slice, rows_slice, List.drop_zero,
    List.take_of_length_le (l := batch.rows.drop count) (by simp [hlength]), List.take_append_drop]

end RecordBatch

/-! ## Reader -/

def schemaMetadataFeatureSetId : String := "dag_ml_data.feature_set_id"

def schemaMetadataRepresentationId : String := "dag_ml_data.representation_id"

def observationIdColumn : String := "observation_id"

/-- A feature column as the loop over the fields reads it. -/
structure FeatureColumn where
  name : String
  values : List F64
  mask : List Bool
  anyNull : Bool

variable {α : Type}

/-- The loop body over the fields: a null is the value `0.0`, with the mask off. -/
def readFeatureColumn (featureSetId : String) (field : ArrowField) (column : ArrowArray α) :
    Result FeatureColumn := do
  let floatColumn ← require column.asFloat64
    (.validation s!"arrow IPC batch `{featureSetId}` column `{field.name}` must be Float64")
  pure ⟨field.name, floatColumn.map (·.getD .zero), floatColumn.map (·.isSome),
    floatColumn.any (·.isNone)⟩

/-- `record_batch_to_matrix`. -/
def recordBatchToMatrix (batch : RecordBatch α) : Result NumericFeatureMatrixF64Columnar := do
  let schema := batch.schema
  let featureSetId ← require schema.metadata[schemaMetadataFeatureSetId]?
    (.validation (s!"arrow IPC batch is missing required schema metadata " ++
      s!"`{schemaMetadataFeatureSetId}`"))
  let representationRaw ← require schema.metadata[schemaMetadataRepresentationId]?
    (.validation (s!"arrow IPC batch `{featureSetId}` is missing required schema metadata " ++
      s!"`{schemaMetadataRepresentationId}`"))
  let representationId ← Ident.new .representation representationRaw
  let observationFieldIndex ← require (schema.indexOf observationIdColumn)
    (.validation (s!"arrow IPC batch `{featureSetId}` is missing the required " ++
      s!"`{observationIdColumn}` column"))
  let observationArray ← require (batch.column observationFieldIndex).asString
    (.validation (s!"arrow IPC batch `{featureSetId}` `{observationIdColumn}` column must be " ++
      "Utf8"))
  let containsNulls : DataError :=
    .validation s!"arrow IPC batch `{featureSetId}` `{observationIdColumn}` column contains nulls"
  rejectIf (observationArray.countP (·.isNone) != 0) containsNulls
  let observationIds ← observationArray.mapM fun raw => do
    let value ← require raw containsNulls
    Ident.new .observation value
  let features ← (schema.fields.zipIdx.filter (·.2 != observationFieldIndex)).mapM
    fun entry => readFeatureColumn featureSetId entry.1 (batch.column entry.2)
  rejectIf features.isEmpty
    (.validation (s!"arrow IPC batch `{featureSetId}` has no feature columns besides " ++
      s!"`{observationIdColumn}`"))
  pure {
    featureSetId := featureSetId
    representationId := representationId
    featureNames := features.map (·.name)
    observationIds := observationIds
    columns := features.map (·.values)
    validityMasks := if features.any (·.anyNull) then some (features.map (·.mask)) else none }

/-- Extends every column by the column at its place, while there is one. -/
def extendColumns : List (List F64) → List (List F64) → List (List F64)
  | column :: columns, next :: nexts => (column ++ next) :: extendColumns columns nexts
  | columns, _ => columns

namespace NumericFeatureMatrixF64Columnar

/-- The masks of a matrix that is extended: with the first mask of the two, the rows of the other
are all valid. -/
def extendMasks (matrix next : NumericFeatureMatrixF64Columnar) : Option (List (List Bool)) :=
  let priorRows := matrix.observationIds.length
  let nextRows := next.observationIds.length
  let masks :=
    if matrix.validityMasks.isNone && next.validityMasks.isSome then
      some (List.replicate matrix.columns.length (List.replicate priorRows true))
    else matrix.validityMasks
  masks.map fun masks => masks.zipIdx.map fun entry =>
    match next.validityMasks with
    | some nextMasks => entry.1 ++ nextMasks.getD entry.2 []
    | none => entry.1 ++ List.replicate nextRows true

/-- The rows of the next batch, after those of the matrix. -/
def extend (matrix next : NumericFeatureMatrixF64Columnar) : NumericFeatureMatrixF64Columnar :=
  { matrix with
    validityMasks := matrix.extendMasks next
    observationIds := matrix.observationIds ++ next.observationIds
    columns := extendColumns matrix.columns next.columns }

end NumericFeatureMatrixF64Columnar

/-- The matrices of the batches before, by feature set. -/
abbrev ArrowMatrices := BTreeMap String NumericFeatureMatrixF64Columnar

/-- The loop body of `read_batches`, with the matrix of the batch. -/
def addMatrix (matrices : ArrowMatrices) (next : NumericFeatureMatrixF64Columnar) :
    Result ArrowMatrices :=
  if next.observationIds.isEmpty then .ok matrices
  else match matrices[next.featureSetId]? with
    | none => .ok (matrices.insert next.featureSetId next)
    | some matrix => do
      rejectIf (matrix.representationId != next.representationId ||
          matrix.featureNames != next.featureNames)
        (.validation "arrow IPC batches use incompatible feature schemas")
      pure (matrices.insert next.featureSetId (matrix.extend next))

/-- The loop body of `read_batches`. -/
def readBatch (matrices : ArrowMatrices) (batch : Except String (RecordBatch α)) :
    Result ArrowMatrices := do
  let batch ← batch.mapError fun error => .validation s!"arrow IPC reader error: {error}"
  let next ← recordBatchToMatrix batch
  addMatrix matrices next

/-- `read_batches`. -/
def readBatches (batches : List (Except String (RecordBatch α))) :
    Result NumericFeatureBufferStore := do
  let matrices ← batches.foldlM readBatch ∅
  NumericFeatureBufferStore.fromF64ColumnMatrices (matrices.toList.map (·.2))

/-! ## Rows without batches -/

/-- What a schema says about the rows: the matrix that they belong to, the column of the observation
ids, and the feature columns. -/
structure ArrowLayout where
  featureSetId : String
  representationId : RepresentationId
  observationIndex : Nat
  features : List (ArrowField × Nat)

structure ArrowSchema.HasLayout (schema : ArrowSchema) (layout : ArrowLayout) : Prop where
  featureSetId : schema.metadata[schemaMetadataFeatureSetId]? = some layout.featureSetId
  representationId :
    schema.metadata[schemaMetadataRepresentationId]? = some layout.representationId.value
  observationIndex : schema.indexOf observationIdColumn = some layout.observationIndex
  observations : (schema.fields.map (·.dataType))[layout.observationIndex]? = some .utf8
  features : layout.features = schema.fields.zipIdx.filter (·.2 != layout.observationIndex)
  numbers : ∀ entry ∈ layout.features, entry.1.dataType = .float64
  named : layout.features ≠ []

/-- A schema has one layout at most. -/
theorem ArrowSchema.HasLayout.unique {schema : ArrowSchema} {layout layout' : ArrowLayout}
    (h : schema.HasLayout layout) (h' : schema.HasLayout layout') : layout = layout' := by
  cases layout with
  | mk featureSetId representationId observationIndex features =>
    cases layout' with
    | mk featureSetId' representationId' observationIndex' features' =>
      cases h.featureSetId.symm.trans h'.featureSetId
      cases Ident.ext_value (Option.some.inj (h.representationId.symm.trans h'.representationId))
      cases h.observationIndex.symm.trans h'.observationIndex
      cases h.features.trans h'.features.symm
      rfl

def ArrowCell.asString : ArrowCell α → Option String
  | utf8 value => value
  | _ => none

def ArrowCell.asFloat64 : ArrowCell α → Option F64
  | float64 value => value
  | _ => none

def cellAt (row : List (ArrowCell α)) (idx : Nat) : ArrowCell α := row.getD idx (.other none)

/-- A row with the id of its observation. -/
structure ArrowRow (α : Type) where
  observationId : ObservationId
  cells : List (ArrowCell α)

def ArrowRow.number (row : ArrowRow α) (idx : Nat) : Option F64 := (cellAt row.cells idx).asFloat64

namespace ArrowLayout

variable (layout : ArrowLayout)

/-- The row has an observation id, which is a valid one. -/
structure Reads (cells : List (ArrowCell α)) (row : ArrowRow α) : Prop where
  cells_eq : row.cells = cells
  observationId : (cellAt cells layout.observationIndex).asString = some row.observationId.value

def hasNull (rows : List (ArrowRow α)) : Bool :=
  layout.features.any fun entry => rows.any fun row => (row.number entry.2).isNone

/-- The matrix of the rows. -/
def matrix (rows : List (ArrowRow α)) : NumericFeatureMatrixF64Columnar where
  featureSetId := layout.featureSetId
  representationId := layout.representationId
  featureNames := layout.features.map (·.1.name)
  observationIds := rows.map (·.observationId)
  columns := layout.features.map fun entry => rows.map fun row => (row.number entry.2).getD .zero
  validityMasks :=
    if layout.hasNull rows then
      some (layout.features.map fun entry => rows.map fun row => (row.number entry.2).isSome)
    else none

/-- The matrices of the rows: none, while there is no row. -/
def matrices (rows : List (ArrowRow α)) : ArrowMatrices :=
  if rows.isEmpty then ∅ else (∅ : ArrowMatrices).insert layout.featureSetId
    (layout.matrix rows)

end ArrowLayout

/-- A feature column of the rows, as the reader makes it. -/
def featureColumn (rows : List (List (ArrowCell α))) (entry : ArrowField × Nat) :
    FeatureColumn where
  name := entry.1.name
  values := rows.map fun row => (cellAt row entry.2).asFloat64.getD .zero
  mask := rows.map fun row => (cellAt row entry.2).asFloat64.isSome
  anyNull := rows.any fun row => (cellAt row entry.2).asFloat64.isNone

/-! ## A batch is read as its rows -/

/-- The matrix is the one of the feature columns. -/
theorem ArrowLayout.matrix_eq (layout : ArrowLayout) (rows : List (ArrowRow α)) :
    let features := layout.features.map (featureColumn (rows.map (·.cells)))
    layout.matrix rows = {
      featureSetId := layout.featureSetId
      representationId := layout.representationId
      featureNames := features.map (·.name)
      observationIds := rows.map (·.observationId)
      columns := features.map (·.values)
      validityMasks :=
        if features.any (·.anyNull) then some (features.map (·.mask)) else none } := by
  intro features
  have hnull : features.any (·.anyNull) = layout.hasNull rows := by
    simp only [features, List.any_map, ArrowLayout.hasNull, featureColumn, Function.comp_def,
      ArrowRow.number]
  rw [hnull]
  simp only [features, List.map_map, ArrowLayout.matrix, featureColumn, Function.comp_def,
    ArrowRow.number]

theorem ArrowLayout.matrix_zipWith (layout : ArrowLayout) {cells : List (List (ArrowCell α))}
    {observationIds : List ObservationId} (h : observationIds.length = cells.length) :
    let features := layout.features.map (featureColumn cells)
    layout.matrix (List.zipWith ArrowRow.mk observationIds cells) = {
      featureSetId := layout.featureSetId
      representationId := layout.representationId
      featureNames := features.map (·.name)
      observationIds := observationIds
      columns := features.map (·.values)
      validityMasks :=
        if features.any (·.anyNull) then some (features.map (·.mask)) else none } := by
  have hcells : (List.zipWith ArrowRow.mk observationIds cells).map (·.cells) = cells := by
    rw [List.map_zipWith]
    exact List.ext_getElem (by simp [h]) fun i _ _ => by simp
  have hids : (List.zipWith ArrowRow.mk observationIds cells).map (·.observationId) =
      observationIds := by
    rw [List.map_zipWith]
    exact List.ext_getElem (by simp [h]) fun i _ _ => by simp
  rw [layout.matrix_eq, hcells, hids]

/-- The rows are read when their observation ids are. -/
theorem ArrowLayout.exists_reads (layout : ArrowLayout) {cells : List (List (ArrowCell α))}
    {p : List (ArrowRow α) → Prop} :
    (∃ rows, List.Forall₂ layout.Reads cells rows ∧ p rows) ↔
      ∃ observationIds, List.Forall₂ (fun row (observationId : ObservationId) =>
          (cellAt row layout.observationIndex).asString = some observationId.value)
        cells observationIds ∧ p (List.zipWith ArrowRow.mk observationIds cells) := by
  have hreads : ∀ (cells : List (ArrowCell α)) (row : ArrowRow α), layout.Reads cells row ↔
      ∃ observationId : ObservationId,
        (cellAt cells layout.observationIndex).asString = some observationId.value ∧
          row = ⟨observationId, cells⟩ := by
    rintro cells ⟨observationId, cells'⟩
    constructor
    · rintro ⟨rfl, hid⟩
      exact ⟨observationId, hid, rfl⟩
    · rintro ⟨_, hid, h⟩
      cases h
      exact ⟨rfl, hid⟩
  induction cells generalizing p with
  | nil => simp
  | cons row cells ih =>
    simp only [List.forall₂_cons_left_iff, hreads]
    constructor
    · rintro ⟨_, ⟨_, rows, ⟨observationId, hid, rfl⟩, hrows, rfl⟩, hp⟩
      obtain ⟨observationIds, hids, hp'⟩ :=
        (ih (p := fun rows => p (⟨observationId, row⟩ :: rows))).mp ⟨rows, hrows, hp⟩
      exact ⟨_, ⟨observationId, observationIds, hid, hids, rfl⟩, hp'⟩
    · rintro ⟨_, ⟨observationId, observationIds, hid, hids, rfl⟩, hp⟩
      obtain ⟨rows, hrows, hp'⟩ :=
        (ih (p := fun rows => p (⟨observationId, row⟩ :: rows))).mpr
          ⟨observationIds, hids, hp⟩
      exact ⟨_, ⟨_, rows, ⟨observationId, hid, rfl⟩, hrows, rfl⟩, hp'⟩

namespace RecordBatch

variable {batch : RecordBatch α}

theorem column_eq {idx : Nat} {array : ArrowArray α} (h : batch.columns[idx]? = some array) :
    batch.column idx = array := by
  rw [column, List.getD_eq_getElem?_getD, h]
  rfl

/-- The column of a field has its type. -/
theorem exists_column {idx : Nat} {dataType : ArrowDataType}
    (h : (batch.schema.fields.map (·.dataType))[idx]? = some dataType) :
    ∃ array, batch.columns[idx]? = some array ∧ array.dataType = dataType := by
  rw [← batch.typed, List.getElem?_map, Option.map_eq_some_iff] at h
  exact h

/-- The cells of a column are those of the rows. -/
theorem map_cell {idx : Nat} {array : ArrowArray α} (h : batch.columns[idx]? = some array) :
    (List.range batch.rowCount).map array.cell = batch.rows.map (cellAt · idx) := by
  rw [rows, List.map_map]
  refine List.map_congr_left fun row _ => ?_
  simp only [Function.comp_apply, cellAt, List.getD_eq_getElem?_getD, List.getElem?_map, h]
  rfl

theorem eq_map_getD {β : Type} (values : List (Option β)) :
    values = (List.range values.length).map fun row => values.getD row none := by
  refine List.ext_getElem (by simp) fun row hrow _ => ?_
  simp [List.getD_eq_getElem?_getD, hrow]

theorem utf8_eq {idx : Nat} {values : List (Option String)}
    (h : batch.columns[idx]? = some (.utf8 values)) :
    values = batch.rows.map fun row => (cellAt row idx).asString := by
  have hlength : values.length = batch.rowCount := batch.filled _ (List.mem_of_getElem? h)
  have hcells := congrArg (List.map ArrowCell.asString) (map_cell h)
  rw [List.map_map, List.map_map, ← hlength] at hcells
  exact (eq_map_getD values).trans hcells

theorem float64_eq {idx : Nat} {values : List (Option F64)}
    (h : batch.columns[idx]? = some (.float64 values)) :
    values = batch.rows.map fun row => (cellAt row idx).asFloat64 := by
  have hlength : values.length = batch.rowCount := batch.filled _ (List.mem_of_getElem? h)
  have hcells := congrArg (List.map ArrowCell.asFloat64) (map_cell h)
  rw [List.map_map, List.map_map, ← hlength] at hcells
  exact (eq_map_getD values).trans hcells

/-- What the reader makes of the column of an observation id field. -/
theorem observationIds_eq_ok {values : List (Option String)} {e : DataError}
    {observationIds : List ObservationId} :
    ((values.countP (·.isNone) != 0) = false ∧ (values.mapM fun raw => do
        let value ← require raw e
        Ident.new .observation value) = .ok observationIds) ↔
      List.Forall₂ (fun raw observationId => raw = some observationId.value) values
        observationIds := by
  simp only [bne_eq_false_iff_eq, List.countP_eq_zero, mapM_eq_ok, bind_eq_ok,
    require_eq_ok, Ident.new_eq_ok]
  have hpair : ∀ (raw : Option String) (observationId : ObservationId),
      (∃ value, raw = some value ∧ observationId.value = value) ↔
        raw = some observationId.value := by
    intro raw observationId
    constructor
    · rintro ⟨_, hraw, rfl⟩
      exact hraw
    · exact fun h => ⟨_, h, rfl⟩
  simp only [hpair]
  refine ⟨And.right, fun h => ⟨fun raw hraw => ?_, h⟩⟩
  obtain ⟨_, _, rfl⟩ := exists_right_of_forall₂ h hraw
  simp

/-- What the reader makes of a feature column. -/
theorem readFeatureColumn_eq {layout : ArrowLayout} (h : batch.schema.HasLayout layout)
    (featureSetId : String) {entry : ArrowField × Nat} (hentry : entry ∈ layout.features) :
    readFeatureColumn featureSetId entry.1 (batch.column entry.2) =
      .ok (featureColumn batch.rows entry) := by
  have hnumber := h.numbers entry hentry
  rw [h.features, List.mem_filter, List.mem_zipIdx_iff_getElem?] at hentry
  have hfield : (batch.schema.fields.map (·.dataType))[entry.2]? = some .float64 := by
    rw [List.getElem?_map, hentry.1, Option.map_some, hnumber]
  obtain ⟨array, harray, htype⟩ := exists_column hfield
  cases array with
  | float64 values =>
    rw [column_eq harray]
    refine bind_eq_ok.mpr ⟨_, require_eq_ok.mpr (congrArg some (float64_eq harray)), ?_⟩
    simp only [featureColumn, List.map_map, List.any_map, Function.comp_def]
    rfl
  | utf8 values => cases htype
  | other name values => cases htype

end RecordBatch

open RecordBatch

/-- A batch of a schema with a layout is read as the matrix of its rows. -/
theorem recordBatchToMatrix_eq_ok {batch : RecordBatch α} {layout : ArrowLayout}
    (h : batch.schema.HasLayout layout) {matrix : NumericFeatureMatrixF64Columnar} :
    recordBatchToMatrix batch = .ok matrix ↔
      ∃ rows, List.Forall₂ layout.Reads batch.rows rows ∧ matrix = layout.matrix rows := by
  obtain ⟨observations, hobservations, htype⟩ := exists_column h.observations
  cases observations with
  | float64 values => cases htype
  | other name values => cases htype
  | utf8 values =>
  have hfeatures : ∀ featureSetId,
      (batch.schema.fields.zipIdx.filter (·.2 != layout.observationIndex)).mapM
        (fun entry => readFeatureColumn featureSetId entry.1 (batch.column entry.2)) =
      .ok (layout.features.map (featureColumn batch.rows)) := by
    intro featureSetId
    rw [← h.features, mapM_eq_ok, List.forall₂_map_right_iff, List.forall₂_same]
    exact fun entry hentry => readFeatureColumn_eq h featureSetId hentry
  have hasString : (batch.column layout.observationIndex).asString =
      some (batch.rows.map fun row => (cellAt row layout.observationIndex).asString) := by
    rw [column_eq hobservations, ← utf8_eq hobservations]
    rfl
  have hnamed : (layout.features.map (featureColumn batch.rows)).isEmpty = false := by
    simpa using h.named
  rw [layout.exists_reads]
  unfold recordBatchToMatrix
  simp only [bind_eq_ok, require_eq_ok, h.featureSetId, h.representationId, h.observationIndex,
    hasString, Option.some.injEq, exists_eq_left', Ident.new_value, Except.ok.injEq, hfeatures,
    exists_unit, rejectIf_eq_ok, hnamed, true_and, pure_eq_ok]
  constructor
  · rintro ⟨hnulls, observationIds, hids, rfl⟩
    have hread := observationIds_eq_ok.mp ⟨hnulls, hids⟩
    rw [List.forall₂_map_left_iff] at hread
    exact ⟨observationIds, hread, (layout.matrix_zipWith hread.length_eq.symm).symm⟩
  · rintro ⟨observationIds, hread, rfl⟩
    obtain ⟨hnulls, hids⟩ := observationIds_eq_ok.mpr (List.forall₂_map_left_iff.mpr hread)
    exact ⟨hnulls, observationIds, hids, (layout.matrix_zipWith hread.length_eq.symm).symm⟩

/-- A schema of a batch that is read has a layout. -/
theorem exists_layout {batch : RecordBatch α} {matrix : NumericFeatureMatrixF64Columnar}
    (h : recordBatchToMatrix batch = .ok matrix) : ∃ layout, batch.schema.HasLayout layout := by
  simp only [recordBatchToMatrix, bind_eq_ok, require_eq_ok, exists_unit, rejectIf_eq_ok,
    pure_eq_ok, Ident.new_eq_ok] at h
  obtain ⟨featureSetId, hset, _, hrepresentation, representationId, rfl, index, hindex, values,
    hvalues, -, _, -, features, hfeatures, hnamed, -⟩ := h
  have htype : ∀ (idx : Nat) (field : ArrowField), batch.schema.fields[idx]? = some field →
      (batch.column idx).dataType = field.dataType := by
    intro idx field hfield
    have htyped : (batch.schema.fields.map (·.dataType))[idx]? = some field.dataType := by
      rw [List.getElem?_map, hfield]
      rfl
    obtain ⟨array, harray, hdata⟩ := exists_column htyped
    rw [column_eq harray, hdata]
  refine ⟨⟨featureSetId, representationId, index,
    batch.schema.fields.zipIdx.filter (·.2 != index)⟩, hset, hrepresentation, hindex, ?_, rfl,
    ?_, ?_⟩
  · obtain ⟨hlt, -⟩ := List.findIdx?_eq_some_iff_findIdx_eq.mp hindex
    have hcolumn := htype index _ (List.getElem?_eq_getElem hlt)
    rw [List.getElem?_map, List.getElem?_eq_getElem hlt, Option.map_some, ← hcolumn]
    cases hbatch : batch.column index <;> rw [hbatch] at hvalues <;> cases hvalues
    rfl
  · intro entry hentry
    obtain ⟨_, -, hread⟩ := exists_right_of_forall₂ (mapM_eq_ok.mp hfeatures) hentry
    rw [readFeatureColumn] at hread
    obtain ⟨_, hfloat, -⟩ := bind_eq_ok.mp hread
    rw [require_eq_ok] at hfloat
    rw [← htype entry.2 entry.1 (List.mem_zipIdx_iff_getElem?.mp (List.mem_filter.mp hentry).1)]
    cases hbatch : batch.column entry.2 <;> rw [hbatch] at hfloat <;> cases hfloat
    rfl
  · intro hnil
    have hread := mapM_eq_ok.mp hfeatures
    rw [show List.filter _ _ = [] from hnil, List.forall₂_nil_left_iff] at hread
    rw [hread] at hnamed
    cases hnamed

/-! ## Extending a matrix -/

theorem extendColumns_map {β : Type} (features : List β) (f g : β → List F64) :
    extendColumns (features.map f) (features.map g) = features.map fun x => f x ++ g x := by
  induction features with
  | nil => rfl
  | cons x features ih => rw [List.map_cons, List.map_cons, extendColumns, ih, List.map_cons]

theorem zipIdx_map_append {β : Type} (features : List β) (f g : β → List Bool) :
    ((features.map f).zipIdx.map fun entry => entry.1 ++ (features.map g).getD entry.2 []) =
      features.map fun x => f x ++ g x := by
  refine List.ext_getElem (by simp) fun i _ hi => ?_
  have hi' : i < features.length := by simpa using hi
  simp [hi']

theorem zipIdx_map_fst {β γ : Type} (xs : List β) (f : β → γ) :
    (xs.zipIdx.map fun entry => f entry.1) = xs.map f := by
  have hcomp : xs.zipIdx.map (f ∘ Prod.fst) = (xs.zipIdx.map Prod.fst).map f :=
    List.map_map.symm
  rw [List.zipIdx_map_fst] at hcomp
  exact hcomp

namespace ArrowLayout

variable {layout : ArrowLayout}

/-- Without a null, all rows are valid. -/
theorem mask_of_not_hasNull {rows : List (ArrowRow α)} (h : layout.hasNull rows = false)
    {entry : ArrowField × Nat} (hentry : entry ∈ layout.features) :
    (rows.map fun row => (row.number entry.2).isSome) = List.replicate rows.length true := by
  rw [hasNull, List.any_eq_false] at h
  have hrows := h entry hentry
  rw [Bool.not_eq_true, List.any_eq_false] at hrows
  refine List.eq_replicate_iff.mpr ⟨List.length_map _, fun b hb => ?_⟩
  obtain ⟨row, hrow, rfl⟩ := List.mem_map.mp hb
  cases hnumber : row.number entry.2 with
  | some x => rfl
  | none => exact absurd (by rw [hnumber]; rfl) (hrows row hrow)

theorem hasNull_append (prior new : List (ArrowRow α)) :
    layout.hasNull (prior ++ new) = (layout.hasNull prior || layout.hasNull new) := by
  simp only [hasNull, List.any_append]
  induction layout.features with
  | nil => rfl
  | cons entry features ih =>
    rw [List.any_cons, List.any_cons, List.any_cons, ih]
    ac_rfl

/-- The masks of the two matrices are those of all rows. -/
theorem extendMasks_matrix (prior new : List (ArrowRow α)) :
    (layout.matrix prior).extendMasks (layout.matrix new) =
      (layout.matrix (prior ++ new)).validityMasks := by
  unfold NumericFeatureMatrixF64Columnar.extendMasks matrix
  simp only [hasNull_append, List.map_append, List.length_map]
  cases hprior : layout.hasNull prior with
  | true =>
    cases hnew : layout.hasNull new with
    | true =>
      simp only [reduceIte, Option.isNone_some, Bool.false_and, Bool.false_eq_true,
        Option.map_some, Bool.or_true, zipIdx_map_append]
    | false =>
      -- The rows after are all valid.
      simp only [reduceIte, Bool.false_eq_true, Option.isNone_some, Option.isSome_none,
        Bool.and_false, Option.map_some, Bool.or_false, Option.some.injEq]
      rw [zipIdx_map_fst _ (· ++ List.replicate new.length true), List.map_map]
      refine List.map_congr_left fun entry hentry => ?_
      rw [mask_of_not_hasNull hnew hentry]
      rfl
  | false =>
    cases hnew : layout.hasNull new with
    | true =>
      -- The rows before are all valid.
      have hvalid : List.replicate layout.features.length (List.replicate prior.length true) =
          layout.features.map fun entry => prior.map fun row => (row.number entry.2).isSome := by
        rw [← List.map_const']
        exact List.map_congr_left fun entry hentry => (mask_of_not_hasNull hprior hentry).symm
      simp only [reduceIte, Bool.false_eq_true, Option.isNone_none, Option.isSome_some,
        Bool.and_self, Option.map_some, Bool.or_true, hvalid, zipIdx_map_append]
    | false => rfl

/-- The matrix of the rows before, extended by that of the rows after, is the matrix of all. -/
theorem extend_matrix (prior new : List (ArrowRow α)) :
    (layout.matrix prior).extend (layout.matrix new) = layout.matrix (prior ++ new) := by
  have hcolumns : extendColumns (layout.matrix prior).columns (layout.matrix new).columns =
      (layout.matrix (prior ++ new)).columns := by
    simp only [matrix, extendColumns_map, List.map_append]
  have hids : (layout.matrix prior).observationIds ++ (layout.matrix new).observationIds =
      (layout.matrix (prior ++ new)).observationIds := List.map_append.symm
  unfold NumericFeatureMatrixF64Columnar.extend
  rw [extendMasks_matrix, hcolumns, hids]
  rfl

/-- A matrix of rows is added to the matrices of the rows before. -/
theorem addMatrix_matrices (prior new : List (ArrowRow α)) :
    addMatrix (layout.matrices prior) (layout.matrix new) =
      .ok (layout.matrices (prior ++ new)) := by
  cases new with
  | nil =>
    rw [List.append_nil]
    rfl
  | cons row rows =>
    have hsome : (layout.matrix (row :: rows)).observationIds.isEmpty = false := rfl
    unfold addMatrix
    rw [hsome, if_neg Bool.false_ne_true]
    cases prior with
    | nil => rfl
    | cons first before =>
      have hget : (layout.matrices (first :: before))[(layout.matrix (row :: rows)).featureSetId]? =
          some (layout.matrix (first :: before)) := Std.ExtTreeMap.getElem?_insert_self
      have hsame : ((layout.matrix (first :: before)).representationId !=
            (layout.matrix (row :: rows)).representationId ||
          (layout.matrix (first :: before)).featureNames !=
            (layout.matrix (row :: rows)).featureNames) = false := by
        simp [matrix]
      simp only [hget, hsame, extend_matrix]
      exact bind_eq_ok.mpr ⟨(), rfl, congrArg Except.ok BTreeMap.insert_insert⟩

end ArrowLayout

/-! ## A sequence of batches is read as its rows -/

/-- The loop body of `read_batches`, after the rows of the batches before. -/
theorem readBatch_eq_ok {layout : ArrowLayout} {batch : RecordBatch α}
    (h : batch.schema.HasLayout layout) (prior : List (ArrowRow α)) {matrices : ArrowMatrices} :
    readBatch (layout.matrices prior) (.ok batch) = .ok matrices ↔
      ∃ rows, List.Forall₂ layout.Reads batch.rows rows ∧
        matrices = layout.matrices (prior ++ rows) := by
  have hbatch : readBatch (layout.matrices prior) (.ok batch) =
      recordBatchToMatrix batch >>= addMatrix (layout.matrices prior) := rfl
  rw [hbatch]
  simp only [bind_eq_ok, recordBatchToMatrix_eq_ok h]
  constructor
  · rintro ⟨_, ⟨rows, hrows, rfl⟩, hadd⟩
    rw [ArrowLayout.addMatrix_matrices] at hadd
    exact ⟨rows, hrows, (Except.ok.inj hadd).symm⟩
  · rintro ⟨rows, hrows, rfl⟩
    exact ⟨_, ⟨rows, hrows, rfl⟩, ArrowLayout.addMatrix_matrices prior rows⟩

/-- Batches of one schema are read as the matrix of their rows. -/
theorem readBatches_eq_ok {schema : ArrowSchema} {batches : List (RecordBatch α)}
    (hbatches : batches ≠ []) (hschema : ∀ batch ∈ batches, batch.schema = schema)
    {store : NumericFeatureBufferStore} :
    readBatches (batches.map .ok) = .ok store ↔
      ∃ layout rows, schema.HasLayout layout ∧
        List.Forall₂ layout.Reads (batches.flatMap RecordBatch.rows) rows ∧
        NumericFeatureBufferStore.fromF64ColumnMatrices
          ((layout.matrices rows).toList.map (·.2)) = .ok store := by
  have hread : ∀ layout, schema.HasLayout layout → ∀ matrices : ArrowMatrices,
      (batches.map Except.ok).foldlM readBatch ∅ = .ok matrices ↔
        ∃ rows, List.Forall₂ layout.Reads (batches.flatMap RecordBatch.rows) rows ∧
          matrices = layout.matrices rows := by
    intro layout hlayout matrices
    have hstep : ∀ batch ∈ batches, ∀ prior matrices,
        readBatch (layout.matrices prior) (.ok batch) = .ok matrices ↔
          ∃ rows, List.Forall₂ layout.Reads batch.rows rows ∧
            matrices = layout.matrices (prior ++ rows) :=
      fun batch hbatch prior _ => readBatch_eq_ok (hschema batch hbatch ▸ hlayout) prior
    rw [List.foldlM_map]
    exact foldlM_chunks_eq_ok (f := fun matrices batch => readBatch matrices (.ok batch)) hstep []
  rw [readBatches]
  simp only [bind_eq_ok]
  constructor
  · rintro ⟨matrices, hfold, hstore⟩
    obtain ⟨batch, rest, rfl⟩ := List.exists_cons_of_ne_nil hbatches
    have hfirst := hfold
    rw [List.map_cons, List.foldlM_cons] at hfirst
    obtain ⟨_, hbatch, -⟩ := bind_eq_ok.mp hfirst
    obtain ⟨_, hmatrix, -⟩ := bind_eq_ok.mp (show
      recordBatchToMatrix batch >>= addMatrix ∅ = .ok _ from hbatch)
    obtain ⟨layout, hlayout⟩ := exists_layout hmatrix
    rw [hschema batch List.mem_cons_self] at hlayout
    obtain ⟨rows, hrows, rfl⟩ := (hread layout hlayout _).mp hfold
    exact ⟨layout, rows, hlayout, hrows, hstore⟩
  · rintro ⟨layout, rows, hlayout, hrows, hstore⟩
    exact ⟨_, (hread layout hlayout _).mpr ⟨rows, hrows, rfl⟩, hstore⟩

/-- The outcome depends on the schema and the rows alone, not on how the rows are cut into
batches. -/
theorem readBatches_of_same_rows {schema : ArrowSchema} {batches batches' : List (RecordBatch α)}
    (hbatches : batches ≠ []) (hbatches' : batches' ≠ [])
    (hschema : ∀ batch ∈ batches, batch.schema = schema)
    (hschema' : ∀ batch ∈ batches', batch.schema = schema)
    (hrows : batches.flatMap RecordBatch.rows = batches'.flatMap RecordBatch.rows) :
    (readBatches (batches.map .ok)).toOption = (readBatches (batches'.map .ok)).toOption := by
  refine Option.ext fun store => ?_
  rw [toOption_eq_some, toOption_eq_some, readBatches_eq_ok hbatches hschema,
    readBatches_eq_ok hbatches' hschema', hrows]

/-! ## A batch and its cuts -/

def spectraSchema : ArrowSchema where
  fields := [⟨observationIdColumn, .utf8⟩, ⟨"w700", .float64⟩]
  metadata := BTreeMap.collect
    [(schemaMetadataFeatureSetId, "spectra"), (schemaMetadataRepresentationId, "tabular")]

/-- Two rows, the second with a null. -/
def spectraBatch : RecordBatch Empty where
  schema := spectraSchema
  columns := [.utf8 [some "o1", some "o2"], .float64 [some (F64.ofInt 1), none]]
  rowCount := 2
  typed := rfl
  filled := by simp [ArrowArray.length]

/-- No row, the first row, and the second. -/
def spectraCuts : List (RecordBatch Empty) :=
  [spectraBatch.slice 0 0 (by decide), spectraBatch.slice 0 1 (by decide),
    spectraBatch.slice 1 1 (by decide)]

theorem spectraCuts_same_rows :
    (readBatches ([spectraBatch].map .ok)).toOption =
      (readBatches (spectraCuts.map .ok)).toOption ∧
      (readBatches ([spectraBatch].map .ok)).isOk = true := by
  have hrows : [spectraBatch].flatMap RecordBatch.rows = spectraCuts.flatMap RecordBatch.rows := by
    have hsplit := spectraBatch.rows_split (show 1 ≤ 2 by decide)
    simp only [spectraCuts, List.flatMap_cons, List.flatMap_nil, List.append_nil]
    rw [← hsplit]
    rfl
  have hschema : ∀ batch ∈ spectraCuts, batch.schema = spectraSchema := by
    simp [spectraCuts, RecordBatch.slice, spectraBatch]
  exact ⟨readBatches_of_same_rows (by simp) (by simp [spectraCuts])
    (by simp [spectraBatch]) hschema
    hrows, by decide +kernel⟩

end DagMlData
