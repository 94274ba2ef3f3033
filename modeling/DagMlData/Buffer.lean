import DagMlData.Coordinator
import DagMlData.Fingerprint

/-!
# Numeric feature buffers

The typed feature storage of `buffer.rs`: a buffer holds the cells of one feature set, column
by column, with one row per observation. A cell is a float, or absent when it is masked.

* `NumericFeatureBuffer.validate`, `NumericFeatureMatrixF64Columnar.validate`: the validators.
* `fromF64ColumnMatrix`, `toF64ColumnMatrix`: the columnar constructor and its inverse.
* `NumericFeatureBufferStore`: buffers by feature set id.

The fields of a buffer that are public in the source can be edited after it was built, so a
buffer carries no proof of validity. `NumericFeatureBuffer.Valid` is what `validate` checks,
with the cells finite, which every constructor establishes for the private storage.
-/

namespace DagMlData

open Guard RustText

structure NumericFeatureBuffer where
  featureSetId : String
  representationId : RepresentationId
  featureNames : List String
  observationIds : List ObservationId
  columns : List (List (Option F64))
  rowIndexByObservation : BTreeMap ObservationId Nat

structure NumericFeatureMatrixF64Columnar where
  featureSetId : String
  representationId : RepresentationId
  featureNames : List String
  observationIds : List ObservationId
  columns : List (List F64)
  validityMasks : Option (List (List Bool))
deriving DecidableEq

structure NumericFeatureBufferStore where
  buffers : BTreeMap String NumericFeatureBuffer

/-- The row index of a list of observations. -/
def rowIndex (observationIds : List ObservationId) : BTreeMap ObservationId Nat :=
  BTreeMap.collect observationIds.zipIdx

/-! ## Validators -/

/-- `validate_feature_shape`. -/
def validateFeatureShape (featureSetId : String) (featureNames : List String)
    (observationIds : List ObservationId) : Result Unit := do
  rejectIf (isBlank featureSetId) (.validation "feature_set_id is empty")
  rejectIf featureNames.isEmpty
    (.validation s!"feature matrix `{featureSetId}` contains no features")
  checkNames featureSetId [] featureNames
  rejectIf observationIds.isEmpty
    (.validation s!"feature matrix `{featureSetId}` contains no observations")
  rejectRepeats (fun observationId => .validation
    s!"feature matrix `{featureSetId}` contains duplicate observation `{observationId}`")
    observationIds
where
  /-- The loop over the names, with the names that it has seen. -/
  checkNames (featureSetId : String) : List String → List String → Result Unit
    | _, [] => .ok ()
    | seen, name :: names => do
      rejectIf (isBlank name)
        (.validation s!"feature matrix `{featureSetId}` contains an empty feature name")
      rejectIf (seen.contains name)
        (.validation s!"feature matrix `{featureSetId}` contains duplicate feature `{name}`")
      checkNames featureSetId (name :: seen) names

namespace NumericFeatureBuffer

def validate (buffer : NumericFeatureBuffer) : Result Unit := do
  rejectIf (isBlank buffer.featureSetId || buffer.featureNames.isEmpty ||
      buffer.featureNames.length != buffer.columns.length || buffer.observationIds.isEmpty ||
      buffer.observationIds.length != buffer.rowIndexByObservation.size)
    (.validation "feature buffer descriptors do not match storage")
  rejectIf (buffer.featureNames.any isBlank || hasRepeats buffer.featureNames)
    (.validation "feature buffer contains empty or duplicate feature names")
  forM buffer.observationIds.zipIdx fun entry =>
    rejectIf (buffer.rowIndexByObservation[entry.1]? != some entry.2)
      (.validation "feature buffer observation descriptors do not match row index")
  rejectIf (buffer.columns.any fun column => column.length != buffer.observationIds.length)
    (.validation "feature buffer column length differs from observation count")

def rowCount (buffer : NumericFeatureBuffer) : Nat := buffer.observationIds.length

def featureCount (buffer : NumericFeatureBuffer) : Nat := buffer.featureNames.length

def containsObservation (buffer : NumericFeatureBuffer) (observationId : ObservationId) : Bool :=
  buffer.rowIndexByObservation.contains observationId

end NumericFeatureBuffer

namespace NumericFeatureMatrixF64Columnar

variable (matrix : NumericFeatureMatrixF64Columnar)

/-- The mask of a column, when the matrix has masks. -/
def maskOf (featureIdx : Nat) : Option (List Bool) :=
  matrix.validityMasks.map fun masks => masks.getD featureIdx []

/-- Whether the cell at `rowIdx` counts: there is no mask, or the mask has it. -/
def isValidAt (mask : Option (List Bool)) (rowIdx : Nat) : Bool :=
  (mask.map fun mask => mask.getD rowIdx false).getD true

/-- The loop body of the validator: one column and its mask. -/
def checkColumn (featureIdx : Nat) (column : List F64) : Result Unit := do
  let rowCount := matrix.observationIds.length
  rejectIf (column.length != rowCount)
    (.validation (s!"f64 columnar feature matrix `{matrix.featureSetId}` column {featureIdx} " ++
      s!"has {column.length} values for {rowCount} observations"))
  whenSome (matrix.maskOf featureIdx) fun mask =>
    rejectIf (mask.length != rowCount)
      (.validation (s!"f64 columnar feature matrix `{matrix.featureSetId}` column {featureIdx} " ++
        s!"validity_mask has {mask.length} values for {rowCount} observations"))
  forM column.zipIdx fun cell =>
    rejectIf (isValidAt (matrix.maskOf featureIdx) cell.2 && !cell.1.isFinite)
      (.validation (s!"f64 columnar feature matrix `{matrix.featureSetId}` column {featureIdx} " ++
        s!"row {cell.2} is not finite"))

def validate : Result Unit := do
  validateFeatureShape matrix.featureSetId matrix.featureNames matrix.observationIds
  rejectIf (matrix.columns.length != matrix.featureNames.length)
    (.validation (s!"f64 columnar feature matrix `{matrix.featureSetId}` has " ++
      s!"{matrix.columns.length} columns for {matrix.featureNames.length} features"))
  whenSome matrix.validityMasks fun masks =>
    rejectIf (masks.length != matrix.featureNames.length)
      (.validation (s!"f64 columnar feature matrix `{matrix.featureSetId}` has " ++
        s!"{masks.length} validity_masks for {matrix.featureNames.length} features"))
  forM matrix.columns.zipIdx fun entry => matrix.checkColumn entry.2 entry.1

end NumericFeatureMatrixF64Columnar

/-! ## Columnar constructor and its inverse -/

open NumericFeatureMatrixF64Columnar (isValidAt)

/-- The cells of a column under its mask. -/
def maskColumn (mask : Option (List Bool)) (column : List F64) : List (Option F64) :=
  column.zipIdx.map fun cell => if isValidAt mask cell.2 then some cell.1 else none

namespace NumericFeatureBuffer

/-- `from_f64_column_matrix`. -/
def fromF64ColumnMatrix (matrix : NumericFeatureMatrixF64Columnar) :
    Result NumericFeatureBuffer := do
  matrix.validate
  pure {
    featureSetId := matrix.featureSetId
    representationId := matrix.representationId
    featureNames := matrix.featureNames
    observationIds := matrix.observationIds
    columns := matrix.columns.zipIdx.map fun entry => maskColumn (matrix.maskOf entry.2) entry.1
    rowIndexByObservation := rowIndex matrix.observationIds }

/-- `to_f64_column_matrix`: a masked cell has the value `0.0`, and there are masks only when a
cell is masked. -/
def toF64ColumnMatrix (buffer : NumericFeatureBuffer) : NumericFeatureMatrixF64Columnar where
  featureSetId := buffer.featureSetId
  representationId := buffer.representationId
  featureNames := buffer.featureNames
  observationIds := buffer.observationIds
  columns := buffer.columns.map fun column => column.map fun cell => cell.getD .zero
  validityMasks :=
    if buffer.columns.any fun column => column.any Option.isNone then
      some (buffer.columns.map fun column => column.map Option.isSome)
    else none

end NumericFeatureBuffer

/-! ## Stores -/

namespace NumericFeatureBufferStore

/-- `NumericFeatureBufferStore::new`. -/
def new (buffers : BTreeMap String NumericFeatureBuffer) : Result NumericFeatureBufferStore := do
  forM buffers.toList fun entry => do
    entry.2.validate
    rejectIf (entry.1 != entry.2.featureSetId)
      (.validation (s!"feature buffer store key `{entry.1}` does not match buffer " ++
        s!"feature_set_id `{entry.2.featureSetId}`"))
  pure ⟨buffers⟩

/-- The loop body of `from_f64_column_matrices`. -/
def addColumnMatrix (buffers : BTreeMap String NumericFeatureBuffer)
    (matrix : NumericFeatureMatrixF64Columnar) :
    Result (BTreeMap String NumericFeatureBuffer) := do
  let buffer ← NumericFeatureBuffer.fromF64ColumnMatrix matrix
  rejectIf (buffers.contains matrix.featureSetId)
    (.validation s!"duplicate f64 columnar feature matrix `{matrix.featureSetId}`")
  pure (buffers.insert matrix.featureSetId buffer)

/-- `from_f64_column_matrices`. -/
def fromF64ColumnMatrices (matrices : List NumericFeatureMatrixF64Columnar) :
    Result NumericFeatureBufferStore := do
  let buffers ← matrices.foldlM addColumnMatrix ∅
  new buffers

end NumericFeatureBufferStore

/-! ## What the validators accept -/

/-- What `NumericFeatureBuffer.validate` accepts. -/
structure NumericFeatureBuffer.Shaped (buffer : NumericFeatureBuffer) : Prop where
  featureSetId : isBlank buffer.featureSetId = false
  named : buffer.featureNames ≠ []
  columns : buffer.columns.length = buffer.featureNames.length
  observed : buffer.observationIds ≠ []
  names : ∀ name ∈ buffer.featureNames, isBlank name = false
  namesNodup : buffer.featureNames.Nodup
  observationsNodup : buffer.observationIds.Nodup
  index : buffer.rowIndexByObservation = rowIndex buffer.observationIds
  rows : ∀ column ∈ buffer.columns, column.length = buffer.observationIds.length

/-- No cell of the buffer is an infinity or a NaN. -/
def NumericFeatureBuffer.Finite (buffer : NumericFeatureBuffer) : Prop :=
  ∀ column ∈ buffer.columns, ∀ x : F64, some x ∈ column → x.isFinite = true

theorem NumericFeatureBuffer.validate_eq_ok {buffer : NumericFeatureBuffer} {u : Unit} :
    buffer.validate = .ok u ↔ buffer.Shaped := by
  simp only [validate, bind_eq_ok, rejectIf_eq_ok, forM_eq_ok, exists_unit, Bool.or_eq_false_iff,
    List.isEmpty_eq_false_iff, bne_eq_false_iff_eq, List.any_eq_false, hasRepeats_eq_false,
    Bool.not_eq_true, ne_eq]
  have hindex : (buffer.rowIndexByObservation.size = buffer.observationIds.length ∧
      ∀ entry ∈ buffer.observationIds.zipIdx,
        buffer.rowIndexByObservation[entry.1]? = some entry.2) ↔
      buffer.observationIds.Nodup ∧
        buffer.rowIndexByObservation = rowIndex buffer.observationIds := by
    rw [rowIndex, ← BTreeMap.eq_collect_zipIdx_iff]
    refine and_congr_right fun _ => ⟨fun h i k hik => ?_, fun h entry hentry => ?_⟩
    · exact h (k, i) (List.mk_mem_zipIdx_iff_getElem?.mpr hik)
    · exact h entry.2 entry.1 (List.mk_mem_zipIdx_iff_getElem?.mp hentry)
  constructor
  · rintro ⟨⟨⟨⟨⟨hid, hnamed⟩, hcolumns⟩, hobserved⟩, hsize⟩,
      ⟨hnames, hnodup⟩, hat, hrows⟩
    obtain ⟨hobs, hidx⟩ := hindex.mp ⟨hsize.symm, hat⟩
    exact ⟨hid, hnamed, hcolumns.symm, hobserved, hnames, hnodup, hobs, hidx, hrows⟩
  · rintro ⟨hid, hnamed, hcolumns, hobserved, hnames, hnodup, hobs, hidx, hrows⟩
    obtain ⟨hsize, hat⟩ := hindex.mpr ⟨hobs, hidx⟩
    exact ⟨⟨⟨⟨⟨hid, hnamed⟩, hcolumns.symm⟩, hobserved⟩, hsize.symm⟩,
      ⟨hnames, hnodup⟩, hat, hrows⟩

/-- What `validate_feature_shape` accepts. -/
structure ShapedFeatures (featureSetId : String) (featureNames : List String)
    (observationIds : List ObservationId) : Prop where
  featureSetId : isBlank featureSetId = false
  named : featureNames ≠ []
  names : ∀ name ∈ featureNames, isBlank name = false
  namesNodup : featureNames.Nodup
  observed : observationIds ≠ []
  observationsNodup : observationIds.Nodup

theorem checkNames_eq_ok {featureSetId : String} {names seen : List String} {u : Unit} :
    validateFeatureShape.checkNames featureSetId seen names = .ok u ↔
      (∀ name ∈ names, isBlank name = false) ∧ names.Nodup ∧
        ∀ name ∈ names, name ∉ seen := by
  have hloop : validateFeatureShape.checkNames featureSetId seen names = .ok u ↔
      (∀ name ∈ names, isBlank name = false) ∧ (names.map id).Nodup ∧
        ∀ name ∈ names, id name ∉ seen := by
    refine seenLoop_eq_ok (fun _ => rfl) fun seen name names => ?_
    simp only [validateFeatureShape.checkNames, bind_eq_ok, rejectIf_eq_ok, exists_unit,
      List.contains_eq_mem, decide_eq_false_iff_not, id]
  rwa [List.map_id] at hloop

theorem validateFeatureShape_eq_ok {featureSetId : String} {featureNames : List String}
    {observationIds : List ObservationId} {u : Unit} :
    validateFeatureShape featureSetId featureNames observationIds = .ok u ↔
      ShapedFeatures featureSetId featureNames observationIds := by
  simp only [validateFeatureShape, bind_eq_ok, rejectIf_eq_ok, exists_unit, checkNames_eq_ok,
    rejectRepeats_eq_ok, List.isEmpty_eq_false_iff, List.not_mem_nil, not_false_eq_true,
    implies_true, and_true]
  constructor
  · rintro ⟨hid, hnamed, ⟨hnames, hnodup⟩, hobserved, hobs⟩
    exact ⟨hid, hnamed, hnames, hnodup, hobserved, hobs⟩
  · rintro ⟨hid, hnamed, hnames, hnodup, hobserved, hobs⟩
    exact ⟨hid, hnamed, ⟨hnames, hnodup⟩, hobserved, hobs⟩

namespace NumericFeatureMatrixF64Columnar

/-- What the columnar validator accepts of one column. -/
structure ColumnValid (matrix : NumericFeatureMatrixF64Columnar) (featureIdx : Nat)
    (column : List F64) : Prop where
  rows : column.length = matrix.observationIds.length
  mask : ∀ mask, matrix.maskOf featureIdx = some mask →
    mask.length = matrix.observationIds.length
  finite : ∀ (rowIdx : Nat) (x : F64), column[rowIdx]? = some x →
    isValidAt (matrix.maskOf featureIdx) rowIdx = true → x.isFinite = true

/-- What the columnar validator accepts. -/
structure Valid (matrix : NumericFeatureMatrixF64Columnar) : Prop where
  shaped : ShapedFeatures matrix.featureSetId matrix.featureNames matrix.observationIds
  columns : matrix.columns.length = matrix.featureNames.length
  masks : ∀ masks, matrix.validityMasks = some masks → masks.length = matrix.featureNames.length
  column : ∀ (featureIdx : Nat) (column : List F64), matrix.columns[featureIdx]? = some column →
    matrix.ColumnValid featureIdx column

variable {matrix : NumericFeatureMatrixF64Columnar}

theorem checkColumn_eq_ok {featureIdx : Nat} {column : List F64} {u : Unit} :
    matrix.checkColumn featureIdx column = .ok u ↔ matrix.ColumnValid featureIdx column := by
  simp only [checkColumn, bind_eq_ok, rejectIf_eq_ok, exists_unit, whenSome_eq_ok, forM_eq_ok,
    bne_eq_false_iff_eq, Bool.and_eq_false_iff, Bool.not_eq_false', Prod.forall,
    List.mk_mem_zipIdx_iff_getElem?]
  constructor
  · rintro ⟨hrows, hmask, hfinite⟩
    refine ⟨hrows, hmask, fun rowIdx x hx hvalid => ?_⟩
    rcases hfinite x rowIdx hx with h | h
    · rw [hvalid] at h
      cases h
    · exact h
  · rintro ⟨hrows, hmask, hfinite⟩
    refine ⟨hrows, hmask, fun x rowIdx hx => ?_⟩
    cases hvalid : isValidAt (matrix.maskOf featureIdx) rowIdx with
    | false => exact Or.inl rfl
    | true => exact Or.inr (hfinite rowIdx x hx hvalid)

theorem validate_eq_ok {u : Unit} : matrix.validate = .ok u ↔ matrix.Valid := by
  simp only [validate, bind_eq_ok, rejectIf_eq_ok, exists_unit, whenSome_eq_ok, forM_eq_ok,
    bne_eq_false_iff_eq, validateFeatureShape_eq_ok, checkColumn_eq_ok, Prod.forall,
    List.mk_mem_zipIdx_iff_getElem?]
  constructor
  · rintro ⟨hshaped, hcolumns, hmasks, hcolumn⟩
    exact ⟨hshaped, hcolumns, hmasks, fun i c h => hcolumn c i h⟩
  · rintro ⟨hshaped, hcolumns, hmasks, hcolumn⟩
    exact ⟨hshaped, hcolumns, hmasks, fun c i h => hcolumn i c h⟩

end NumericFeatureMatrixF64Columnar

/-! ## The columnar constructor -/

open NumericFeatureMatrixF64Columnar (isValidAt)

@[simp] theorem length_maskColumn (mask : Option (List Bool)) (column : List F64) :
    (maskColumn mask column).length = column.length := by
  simp [maskColumn]

theorem some_mem_maskColumn {mask : Option (List Bool)} {column : List F64} {x : F64} :
    some x ∈ maskColumn mask column ↔
      ∃ rowIdx, column[rowIdx]? = some x ∧ isValidAt mask rowIdx = true := by
  simp only [maskColumn, List.mem_map, Prod.exists, List.mk_mem_zipIdx_iff_getElem?]
  constructor
  · rintro ⟨y, rowIdx, hy, hcell⟩
    split at hcell
    · next hvalid =>
      cases hcell
      exact ⟨rowIdx, hy, hvalid⟩
    · cases hcell
  · rintro ⟨rowIdx, hx, hvalid⟩
    exact ⟨x, rowIdx, hx, by rw [if_pos hvalid]⟩

/-- Without a mask, every cell is there. -/
theorem maskColumn_none (column : List F64) : maskColumn none column = column.map some := by
  refine List.ext_getElem? fun i => ?_
  simp [maskColumn, isValidAt, Function.comp_def]

/-- A column under the mask of its own present cells is the column. -/
theorem maskColumn_isSome (column : List (Option F64)) :
    maskColumn (some (column.map Option.isSome)) (column.map fun cell => cell.getD .zero) =
      column := by
  refine List.ext_getElem? fun i => ?_
  simp only [maskColumn, isValidAt, List.getElem?_map, List.getElem?_zipIdx, Option.map_some,
    Option.getD_some, List.getD_eq_getElem?_getD, Nat.zero_add]
  cases h : column[i]? with
  | none => rfl
  | some cell => cases cell <;> simp [h]

namespace NumericFeatureBuffer

variable {matrix : NumericFeatureMatrixF64Columnar} {buffer : NumericFeatureBuffer}

theorem fromF64ColumnMatrix_eq_ok : fromF64ColumnMatrix matrix = .ok buffer ↔
    matrix.Valid ∧ buffer = ⟨matrix.featureSetId, matrix.representationId, matrix.featureNames,
      matrix.observationIds,
      matrix.columns.zipIdx.map fun entry => maskColumn (matrix.maskOf entry.2) entry.1,
      rowIndex matrix.observationIds⟩ := by
  rw [eq_comm (a := buffer)]
  simp only [fromF64ColumnMatrix, bind_eq_ok, exists_unit,
    NumericFeatureMatrixF64Columnar.validate_eq_ok, pure_eq_ok]

/-- A constructed buffer passes its own validator, and its cells are finite. -/
theorem fromF64ColumnMatrix_shaped (h : fromF64ColumnMatrix matrix = .ok buffer) :
    buffer.Shaped ∧ buffer.Finite := by
  obtain ⟨hvalid, rfl⟩ := fromF64ColumnMatrix_eq_ok.mp h
  have hshaped := hvalid.shaped
  refine ⟨⟨hshaped.featureSetId, hshaped.named, ?_, hshaped.observed, hshaped.names,
    hshaped.namesNodup, hshaped.observationsNodup, rfl, ?_⟩, ?_⟩
  · show (matrix.columns.zipIdx.map _).length = _
    rw [List.length_map, List.length_zipIdx]
    exact hvalid.columns
  · intro column hcolumn
    obtain ⟨⟨raw, i⟩, hraw, rfl⟩ := List.mem_map.mp hcolumn
    rw [length_maskColumn]
    exact (hvalid.column i raw (List.mk_mem_zipIdx_iff_getElem?.mp hraw)).rows
  · intro column hcolumn x hx
    obtain ⟨⟨raw, i⟩, hraw, rfl⟩ := List.mem_map.mp hcolumn
    obtain ⟨rowIdx, hget, hmask⟩ := some_mem_maskColumn.mp hx
    exact (hvalid.column i raw (List.mk_mem_zipIdx_iff_getElem?.mp hraw)).finite rowIdx x hget hmask

/-- The mask of a column of the exported matrix gives the column back. -/
theorem maskColumn_toF64ColumnMatrix (i : Nat) (column : List (Option F64))
    (hcolumn : buffer.columns[i]? = some column) :
    maskColumn (buffer.toF64ColumnMatrix.maskOf i) (column.map fun cell => cell.getD .zero) =
      column := by
  by_cases hnull : (buffer.columns.any fun column => column.any Option.isNone) = true
  · have hmask : buffer.toF64ColumnMatrix.maskOf i = some (column.map Option.isSome) := by
      simp [NumericFeatureMatrixF64Columnar.maskOf, toF64ColumnMatrix, hnull, hcolumn]
    rw [hmask, maskColumn_isSome]
  · have hmask : buffer.toF64ColumnMatrix.maskOf i = none := by
      simp [NumericFeatureMatrixF64Columnar.maskOf, toF64ColumnMatrix, hnull]
    have hsome : ∀ cell ∈ column, some (cell.getD F64.zero) = cell := by
      intro cell hcell
      cases cell with
      | none =>
        refine absurd (List.any_eq_true.mpr ⟨column, List.mem_of_getElem? hcolumn, ?_⟩) hnull
        exact List.any_eq_true.mpr ⟨none, hcell, rfl⟩
      | some x => rfl
    rw [hmask, maskColumn_none, List.map_map]
    exact (List.map_congr_left hsome).trans (List.map_id column)

/-- The exported matrix of a valid buffer with finite cells is valid. -/
theorem toF64ColumnMatrix_valid (hshaped : buffer.Shaped) (hfinite : buffer.Finite) :
    buffer.toF64ColumnMatrix.Valid := by
  refine ⟨⟨hshaped.featureSetId, hshaped.named, hshaped.names, hshaped.namesNodup,
    hshaped.observed, hshaped.observationsNodup⟩, ?_, ?_, ?_⟩
  · show (buffer.columns.map _).length = _
    rw [List.length_map]
    exact hshaped.columns
  · intro masks hmasks
    simp only [toF64ColumnMatrix] at hmasks
    split at hmasks
    · cases hmasks
      rw [List.length_map]
      exact hshaped.columns
    · cases hmasks
  · intro i raw hraw
    obtain ⟨column, hcolumn, rfl⟩ : ∃ column, buffer.columns[i]? = some column ∧
        column.map (fun cell => cell.getD F64.zero) = raw := by
      simpa [toF64ColumnMatrix] using hraw
    have hmem : column ∈ buffer.columns := List.mem_of_getElem? hcolumn
    have hrows : column.length = buffer.observationIds.length := hshaped.rows column hmem
    refine ⟨by rw [List.length_map]; exact hrows, fun mask hmask => ?_,
      fun rowIdx x hx hv => ?_⟩
    · simp only [NumericFeatureMatrixF64Columnar.maskOf, toF64ColumnMatrix] at hmask
      split at hmask
      · simp [hcolumn] at hmask
        rw [← hmask, List.length_map]
        exact hrows
      · cases hmask
    · have hx' : some x ∈ column := by
        rw [← maskColumn_toF64ColumnMatrix i column hcolumn]
        exact some_mem_maskColumn.mpr ⟨rowIdx, hx, hv⟩
      exact hfinite column hmem x hx'

/-- `from_f64_column_matrix` inverts `to_f64_column_matrix`. -/
theorem fromF64ColumnMatrix_toF64ColumnMatrix (hshaped : buffer.Shaped)
    (hfinite : buffer.Finite) : fromF64ColumnMatrix buffer.toF64ColumnMatrix = .ok buffer := by
  refine fromF64ColumnMatrix_eq_ok.mpr ⟨toF64ColumnMatrix_valid hshaped hfinite, ?_⟩
  have hcolumns : buffer.toF64ColumnMatrix.columns.zipIdx.map
      (fun entry => maskColumn (buffer.toF64ColumnMatrix.maskOf entry.2) entry.1) =
      buffer.columns := by
    refine List.ext_getElem? fun i => ?_
    rw [List.getElem?_map, List.getElem?_zipIdx]
    show Option.map _ (Option.map _ (buffer.columns.map _)[i]?) = _
    rw [List.getElem?_map]
    cases h : buffer.columns[i]? with
    | none => rfl
    | some column =>
      show some (maskColumn (buffer.toF64ColumnMatrix.maskOf (0 + i)) _) = some column
      rw [Nat.zero_add, maskColumn_toF64ColumnMatrix i column h]
  rw [hcolumns]
  show buffer = ⟨_, _, _, _, _, rowIndex buffer.observationIds⟩
  rw [← hshaped.index]
  rfl

end NumericFeatureBuffer

/-! ## Valid stores -/

namespace NumericFeatureBufferStore

/-- A store as its constructors build it: every buffer is under its own id, passes its
validator, and has finite cells. -/
structure Valid (store : NumericFeatureBufferStore) : Prop where
  keyed : ∀ (key : String) (buffer : NumericFeatureBuffer), store.buffers[key]? = some buffer →
    buffer.featureSetId = key
  shaped : ∀ (key : String) (buffer : NumericFeatureBuffer), store.buffers[key]? = some buffer →
    buffer.Shaped
  finite : ∀ (key : String) (buffer : NumericFeatureBuffer), store.buffers[key]? = some buffer →
    buffer.Finite

theorem new_eq_ok {buffers : BTreeMap String NumericFeatureBuffer}
    {store : NumericFeatureBufferStore} : new buffers = .ok store ↔
      store.buffers = buffers ∧ ∀ (key : String) (buffer : NumericFeatureBuffer),
        buffers[key]? = some buffer → buffer.Shaped ∧ buffer.featureSetId = key := by
  simp only [new, bind_eq_ok, exists_unit, forM_eq_ok, NumericFeatureBuffer.validate_eq_ok,
    rejectIf_eq_ok, bne_eq_false_iff_eq, pure_eq_ok, Prod.forall,
    Std.ExtTreeMap.mem_toList_iff_getElem?_eq_some]
  constructor
  · rintro ⟨hall, rfl⟩
    exact ⟨rfl, fun key buffer h => ⟨(hall key buffer h).1, (hall key buffer h).2.symm⟩⟩
  · rintro ⟨rfl, hall⟩
    exact ⟨fun key buffer h => ⟨(hall key buffer h).1, (hall key buffer h).2.symm⟩, rfl⟩

/-- The loop of `from_f64_column_matrices`: it accepts matrices with distinct ids, each of which
makes a buffer, and collects the buffers under their ids. -/
theorem foldlM_addColumnMatrix_eq_ok {matrices : List NumericFeatureMatrixF64Columnar}
    {buffers : BTreeMap String NumericFeatureBuffer} :
    matrices.foldlM addColumnMatrix ∅ = .ok buffers ↔
      ∃ made : List NumericFeatureBuffer,
        List.Forall₂ (fun matrix buffer =>
          NumericFeatureBuffer.fromF64ColumnMatrix matrix = .ok buffer) matrices made ∧
        (made.map (·.featureSetId)).Nodup ∧
        buffers = BTreeMap.collect (made.map fun buffer => (buffer.featureSetId, buffer)) := by
  induction matrices using List.reverseRecOn generalizing buffers with
  | nil =>
    simp only [List.foldlM_nil, pure_eq_ok, List.forall₂_nil_left_iff, exists_eq_left,
      List.map_nil, List.nodup_nil, true_and, BTreeMap.collect_nil]
    exact eq_comm
  | append_singleton matrices matrix ih =>
    rw [List.foldlM_append]
    simp only [bind_eq_ok, ih, List.foldlM_cons, List.foldlM_nil, pure_eq_ok, addColumnMatrix,
      rejectIf_eq_ok, exists_unit, exists_eq_right]
    constructor
    · rintro ⟨_, ⟨made, hmade, hnodup, rfl⟩, buffer, hbuffer, hnew, rfl⟩
      have hid : matrix.featureSetId = buffer.featureSetId := by
        obtain ⟨_, rfl⟩ := NumericFeatureBuffer.fromF64ColumnMatrix_eq_ok.mp hbuffer
        rfl
      refine ⟨made ++ [buffer], ?_, ?_, ?_⟩
      · exact List.rel_append hmade (List.Forall₂.cons hbuffer List.Forall₂.nil)
      · rw [← Bool.not_eq_true, Std.ExtTreeMap.contains_iff_mem, BTreeMap.mem_collect,
          List.map_map] at hnew
        rw [List.map_append, List.map_singleton, List.nodup_append]
        refine ⟨hnodup, List.nodup_singleton _, fun a ha b hb => ?_⟩
        rw [List.mem_singleton] at hb
        rintro rfl
        rw [hb, ← hid] at ha
        exact hnew ha
      · rw [List.map_append, List.map_singleton, BTreeMap.collect_append_single, hid]
    · rintro ⟨made, hmade, hnodup, rfl⟩
      obtain ⟨init, last, hinit, hlast, rfl⟩ := forall₂_concat_left hmade
      have hid : matrix.featureSetId = last.featureSetId := by
        obtain ⟨_, rfl⟩ := NumericFeatureBuffer.fromF64ColumnMatrix_eq_ok.mp hlast
        rfl
      rw [List.map_append, List.map_singleton, List.nodup_append] at hnodup
      refine ⟨_, ⟨init, hinit, hnodup.1, rfl⟩, last, hlast, ?_, ?_⟩
      · rw [← Bool.not_eq_true, Std.ExtTreeMap.contains_iff_mem, BTreeMap.mem_collect,
          List.map_map, hid]
        exact fun h => hnodup.2.2 _ h last.featureSetId (List.mem_singleton_self _) rfl
      · rw [List.map_append, List.map_singleton, BTreeMap.collect_append_single, hid]

/-- Every buffer of a store that was made from matrices comes from one of them. -/
theorem exists_matrix_of_getElem? {matrices : List NumericFeatureMatrixF64Columnar}
    {store : NumericFeatureBufferStore} (h : fromF64ColumnMatrices matrices = .ok store)
    {key : String} {buffer : NumericFeatureBuffer} (hget : store.buffers[key]? = some buffer) :
    ∃ matrix ∈ matrices, NumericFeatureBuffer.fromF64ColumnMatrix matrix = .ok buffer := by
  obtain ⟨buffers, hloop, hnew⟩ := bind_eq_ok.mp h
  obtain ⟨made, hmade, _, rfl⟩ := foldlM_addColumnMatrix_eq_ok.mp hloop
  rw [(new_eq_ok.mp hnew).1] at hget
  obtain ⟨buffer', hmem, heq⟩ := List.mem_map.mp (BTreeMap.mem_of_getElem?_collect hget)
  cases heq
  exact exists_left_of_forall₂ hmade hmem

/-- A store made from matrices is valid, and has one buffer for each of them. -/
theorem fromF64ColumnMatrices_valid {matrices : List NumericFeatureMatrixF64Columnar}
    {store : NumericFeatureBufferStore} (h : fromF64ColumnMatrices matrices = .ok store) :
    store.Valid ∧ store.buffers.size = matrices.length := by
  obtain ⟨buffers, hloop, hnew⟩ := bind_eq_ok.mp h
  obtain ⟨made, hmade, hnodup, rfl⟩ := foldlM_addColumnMatrix_eq_ok.mp hloop
  obtain ⟨hbuffers, hchecked⟩ := new_eq_ok.mp hnew
  refine ⟨⟨fun key buffer hget => ?_, fun key buffer hget => ?_,
    fun key buffer hget => ?_⟩, ?_⟩
  · exact (hchecked key buffer (hbuffers ▸ hget)).2
  · exact (hchecked key buffer (hbuffers ▸ hget)).1
  · obtain ⟨matrix, _, hmatrix⟩ := exists_matrix_of_getElem? h hget
    exact (NumericFeatureBuffer.fromF64ColumnMatrix_shaped hmatrix).2
  · rw [hbuffers, BTreeMap.size_collect, List.length_map, hmade.length_eq]
    rwa [List.map_map]

/-- The matrices of a store, in key order. -/
def toF64ColumnMatrices (store : NumericFeatureBufferStore) :
    List NumericFeatureMatrixF64Columnar :=
  store.buffers.toList.map fun entry => entry.2.toF64ColumnMatrix

/-- A store is made again from its own matrices. -/
theorem fromF64ColumnMatrices_toF64ColumnMatrices {store : NumericFeatureBufferStore}
    (h : store.Valid) : fromF64ColumnMatrices store.toF64ColumnMatrices = .ok store := by
  have hget : ∀ entry ∈ store.buffers.toList, store.buffers[entry.1]? = some entry.2 :=
    fun entry => Std.ExtTreeMap.mem_toList_iff_getElem?_eq_some.mp
  have hkeyed : store.buffers.toList.map (fun entry => (entry.2.featureSetId, entry.2)) =
      store.buffers.toList := by
    refine (List.map_congr_left fun entry hentry => ?_).trans (List.map_id _)
    rw [h.keyed entry.1 entry.2 (hget entry hentry)]
    rfl
  refine bind_eq_ok.mpr ⟨store.buffers, foldlM_addColumnMatrix_eq_ok.mpr
    ⟨store.buffers.toList.map Prod.snd, ?_, ?_, ?_⟩, ?_⟩
  · rw [toF64ColumnMatrices, List.forall₂_map_left_iff, List.forall₂_map_right_iff,
      List.forall₂_same]
    intro entry hentry
    exact NumericFeatureBuffer.fromF64ColumnMatrix_toF64ColumnMatrix
      (h.shaped entry.1 entry.2 (hget entry hentry)) (h.finite entry.1 entry.2 (hget entry hentry))
  · have hkeys := congrArg (List.map Prod.fst) hkeyed
    rw [List.map_map, Std.ExtTreeMap.map_fst_toList_eq_keys] at hkeys
    rw [List.map_map]
    show (store.buffers.toList.map
      (Prod.fst ∘ fun entry => (entry.2.featureSetId, entry.2))).Nodup
    rw [hkeys]
    exact Std.ExtTreeMap.nodup_keys
  · rw [List.map_map]
    show store.buffers = BTreeMap.collect
      (store.buffers.toList.map fun entry => (entry.2.featureSetId, entry.2))
    rw [hkeyed, BTreeMap.collect_toList]
  · exact new_eq_ok.mpr ⟨rfl,
      fun key buffer hb => ⟨h.shaped key buffer hb, h.keyed key buffer hb⟩⟩

end NumericFeatureBufferStore
end DagMlData
