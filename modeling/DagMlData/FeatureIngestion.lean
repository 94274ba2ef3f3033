import DagMlData.FeatureProjection
import DagMlData.FeatureValues
import DagMlData.Lib.RowMajor

/-!
# Three ways into a buffer

A buffer is built from JSON rows, from row-major floats or from columns of floats. The three
constructors read one matrix of cells.

* `CellMatrix`: the matrix that the three inputs stand for, with its shape as fields.
* `IsTable`, `IsRowMajor`, `IsColumnar`: what it means that an input stands for the matrix.
* `featureIngestion`: the constructors agree, and the exporter inverts the columnar one.
-/

namespace DagMlData

open Guard RustText RowMajor NumericFeatureBuffer

/-- Cells of observations by features, finite where they are not masked. -/
structure CellMatrix where
  featureSetId : String
  representationId : RepresentationId
  featureNames : List String
  observationIds : List ObservationId
  rows : List (List (Option F64))
  rows_length : rows.length = observationIds.length
  row_length : ∀ row ∈ rows, row.length = featureNames.length
  finite : ∀ row ∈ rows, ∀ x : F64, some x ∈ row → x.isFinite = true

/-! ## What the inputs stand for -/

/-- Null for a masked cell, a number for another one. -/
def IsJsonCell (cell : Option F64) (value : Json) : Prop :=
  match cell with
  | none => value = .null
  | some x => ∃ n : JsonNumber, value = .number n ∧ n.Fits ∧ n.asF64 = x

/-- Any float for a masked cell, the float of the cell for another one. -/
def HoldsCell (cell : Option F64) (value : F64) : Prop := ∀ x, cell = some x → value = x

/-- The mask has the cells that are there. Without a mask all of them are. -/
def IsMask (cells : List (Option F64)) : Option (List Bool) → Prop
  | some mask => mask = cells.map Option.isSome
  | none => ∀ cell ∈ cells, cell.isSome = true

namespace CellMatrix

variable (cells : CellMatrix)

def columns : List (List (Option F64)) :=
  (List.range cells.featureNames.length).map fun i => cells.rows.map fun row => row.getD i none

/-- The buffer of the cells. -/
def buffer : NumericFeatureBuffer where
  featureSetId := cells.featureSetId
  representationId := cells.representationId
  featureNames := cells.featureNames
  observationIds := cells.observationIds
  columns := cells.columns
  rowIndexByObservation := rowIndex cells.observationIds

/-- The checks on ids and names that the constructors share. -/
def Shaped : Prop :=
  ShapedFeatures cells.featureSetId cells.featureNames cells.observationIds

/-- A constructor reads the matrix: it makes the buffer of the cells, or fails on their ids and
names. -/
def ReadBy (result : Result NumericFeatureBuffer) : Prop :=
  (cells.Shaped ∧ result = .ok cells.buffer) ∨ (¬ cells.Shaped ∧ ∃ e, result = .error e)

/-- The table has the cells as JSON rows. -/
structure IsTable (table : CoordinatorFeatureTable) : Prop where
  featureSetId : table.featureSetId = cells.featureSetId
  representationId : table.representationId = cells.representationId
  featureNames : table.featureNames = cells.featureNames
  observationIds : table.rows.map (·.observationId) = cells.observationIds
  rows : List.Forall₂ (fun row (tableRow : CoordinatorFeatureRow) =>
    List.Forall₂ IsJsonCell row tableRow.values) cells.rows table.rows

/-- The matrix has the cells row by row, with a mask or with no masked cell. -/
structure IsRowMajor (matrix : NumericFeatureMatrixF64) : Prop where
  featureSetId : matrix.featureSetId = cells.featureSetId
  representationId : matrix.representationId = cells.representationId
  featureNames : matrix.featureNames = cells.featureNames
  observationIds : matrix.observationIds = cells.observationIds
  values : List.Forall₂ HoldsCell cells.rows.flatten matrix.values
  mask : IsMask cells.rows.flatten matrix.validityMask

/-- The matrix has the cells column by column, with masks or with no masked cell. -/
structure IsColumnar (matrix : NumericFeatureMatrixF64Columnar) : Prop where
  featureSetId : matrix.featureSetId = cells.featureSetId
  representationId : matrix.representationId = cells.representationId
  featureNames : matrix.featureNames = cells.featureNames
  observationIds : matrix.observationIds = cells.observationIds
  columns : List.Forall₂ (List.Forall₂ HoldsCell) cells.columns matrix.columns
  masks_length : ∀ masks, matrix.validityMasks = some masks →
    masks.length = cells.columns.length
  mask : ∀ (i : Nat) (column : List (Option F64)), cells.columns[i]? = some column →
    IsMask column (matrix.maskOf i)

end CellMatrix

namespace CellMatrix

variable {cells : CellMatrix}

/-! ## From a table -/

theorem IsTable.valid_iff {table : CoordinatorFeatureTable} (h : cells.IsTable table) :
    table.Valid ↔ cells.Shaped := by
  have hrows : ∀ row ∈ table.rows, row.values.length = table.featureNames.length := by
    intro row hrow
    obtain ⟨cellRow, hmem, hcells⟩ := exists_left_of_forall₂ h.rows hrow
    rw [← hcells.length_eq, h.featureNames]
    exact cells.row_length cellRow hmem
  have hobserved : table.rows ≠ [] ↔ cells.observationIds ≠ [] := by
    rw [← h.observationIds, ne_eq, ne_eq, List.map_eq_nil_iff]
  constructor
  · rintro ⟨hid, hnamed, hnames, hnodup, hnonempty, hobservations, -⟩
    exact ⟨h.featureSetId ▸ hid, h.featureNames ▸ hnamed, h.featureNames ▸ hnames,
      h.featureNames ▸ hnodup, hobserved.mp hnonempty, h.observationIds ▸ hobservations⟩
  · rintro ⟨hid, hnamed, hnames, hnodup, hnonempty, hobservations⟩
    exact ⟨h.featureSetId ▸ hid, h.featureNames ▸ hnamed, h.featureNames ▸ hnames,
      h.featureNames ▸ hnodup, hobserved.mpr hnonempty,
        h.observationIds ▸ hobservations, hrows⟩

theorem IsTable.numeric {table : CoordinatorFeatureTable} (h : cells.IsTable table) :
    table.Numeric := by
  intro row hrow value hvalue
  obtain ⟨cellRow, -, hcells⟩ := exists_left_of_forall₂ h.rows hrow
  obtain ⟨cell, -, hcell⟩ := exists_left_of_forall₂ hcells hvalue
  cases cell with
  | none => exact .inl hcell
  | some x =>
    obtain ⟨n, hn, hfits, -⟩ := hcell
    exact .inr ⟨n, hn, hfits⟩

theorem cellValue_of_isJsonCell {cell : Option F64} {value : Json} (h : IsJsonCell cell value) :
    cellValue value = cell := by
  cases cell with
  | none =>
    rw [show value = .null from h]
    rfl
  | some x =>
    obtain ⟨n, rfl, -, rfl⟩ := h
    rfl

theorem getD_of_isJsonCells {row : List (Option F64)} {values : List Json}
    (h : List.Forall₂ IsJsonCell row values) (i : Nat) :
    cellValue (values.getD i .null) = row.getD i none := by
  rw [List.getD_eq_getElem?_getD, List.getD_eq_getElem?_getD]
  rcases Nat.lt_or_ge i row.length with hlt | hge
  · have hlt' : i < values.length := h.length_eq ▸ hlt
    rw [List.getElem?_eq_getElem hlt, List.getElem?_eq_getElem hlt']
    exact cellValue_of_isJsonCell (h.get hlt hlt')
  · rw [List.getElem?_eq_none hge, List.getElem?_eq_none (h.length_eq ▸ hge)]
    rfl

theorem IsTable.asBuffer_eq {table : CoordinatorFeatureTable} (h : cells.IsTable table) :
    table.asBuffer = cells.buffer := by
  have hcolumn : ∀ i, (table.rows.map fun row => cellValue (row.values.getD i .null)) =
      cells.rows.map fun row => row.getD i none := by
    intro i
    rw [← List.forall₂_eq_eq_eq, List.forall₂_map_left_iff, List.forall₂_map_right_iff]
    exact h.rows.flip.imp fun _ _ hrow => getD_of_isJsonCells hrow i
  have hcolumns : CoordinatorFeatureTable.columnsOf table.featureNames.length table.rows =
      cells.columns := by
    rw [CoordinatorFeatureTable.columnsOf, h.featureNames, columns]
    exact List.map_congr_left fun i _ => hcolumn i
  rw [CoordinatorFeatureTable.asBuffer, hcolumns, h.featureSetId, h.representationId,
    h.featureNames, h.observationIds]
  rfl

/-- `from_feature_table` reads the matrix. -/
theorem IsTable.readBy {table : CoordinatorFeatureTable} (h : cells.IsTable table) :
    cells.ReadBy (fromFeatureTable table) := by
  by_cases hshaped : cells.Shaped
  · have hok := CoordinatorFeatureTable.fromFeatureTable_eq (h.valid_iff.mpr hshaped) h.numeric
    rw [h.asBuffer_eq] at hok
    exact .inl ⟨hshaped, hok⟩
  · refine .inr ⟨hshaped, ?_⟩
    cases hresult : fromFeatureTable table with
    | error e => exact ⟨e, rfl⟩
    | ok buffer =>
      obtain ⟨_, hvalid, -⟩ := bind_eq_ok.mp hresult
      exact absurd (h.valid_iff.mp (CoordinatorFeatureTable.validate_eq_ok.mp hvalid)) hshaped

/-! ## From row-major values -/

theorem length_flatten (cells : CellMatrix) :
    cells.rows.flatten.length = cells.featureNames.length * cells.observationIds.length := by
  rw [List.length_flatten, List.eq_replicate_of_mem (a := cells.featureNames.length)
    (l := cells.rows.map List.length), List.sum_replicate, List.length_map, cells.rows_length,
    smul_eq_mul, Nat.mul_comm]
  intro n hn
  obtain ⟨row, hrow, rfl⟩ := List.mem_map.mp hn
  exact cells.row_length row hrow

/-- The cell of a row and a feature, in the flat list. -/
theorem getElem?_flatten {rowIdx featureIdx : Nat} {row : List (Option F64)}
    (hrow : cells.rows[rowIdx]? = some row) (hfeature : featureIdx < cells.featureNames.length) :
    cells.rows.flatten[rowIdx * cells.featureNames.length + featureIdx]? = row[featureIdx]? := by
  have helement := element_flatten cells.row_length hrow
  rw [← helement, element, List.getElem?_take_of_lt hfeature, List.getElem?_drop]

/-- The value and the mask at a place give the cell. -/
theorem IsRowMajor.cellAt {matrix : NumericFeatureMatrixF64} (h : cells.IsRowMajor matrix)
    {flatIdx : Nat} {cell : Option F64} (hcell : cells.rows.flatten[flatIdx]? = some cell) :
    matrix.cellAt flatIdx = cell := by
  have hlt : flatIdx < cells.rows.flatten.length := (List.getElem?_eq_some_iff.mp hcell).1
  have hlt' : flatIdx < matrix.values.length := h.values.length_eq ▸ hlt
  have hvalue : HoldsCell cell (matrix.values.getD flatIdx .zero) := by
    have hholds := h.values.get hlt hlt'
    rw [List.getD_eq_getElem _ _ hlt']
    rw [List.get_eq_getElem, List.get_eq_getElem] at hholds
    rwa [(List.getElem?_eq_some_iff.mp hcell).2] at hholds
  have hvalid : matrix.isValidAt flatIdx = cell.isSome := by
    have hmask := h.mask
    unfold NumericFeatureMatrixF64.isValidAt
    cases hm : matrix.validityMask with
    | none =>
      rw [hm] at hmask
      exact (hmask cell (List.mem_of_getElem? hcell)).symm
    | some mask =>
      rw [hm] at hmask
      rw [Option.map_some, Option.getD_some, show mask = _ from hmask,
        List.getD_eq_getElem?_getD, List.getElem?_map, hcell]
      rfl
  unfold NumericFeatureMatrixF64.cellAt
  rw [hvalid]
  cases cell with
  | none => rfl
  | some x => rw [hvalue x rfl]; rfl

/-- Rows of cells pushed one after the other make the columns. -/
theorem foldl_pushCells {α : Type} {cellsOf : Nat → List α} {n : Nat} (d : α)
    (hlength : ∀ rowIdx, (cellsOf rowIdx).length = n) (rowCount : Nat) :
    (List.range rowCount).foldl (fun columns rowIdx => pushCells columns (cellsOf rowIdx))
        (List.replicate n []) =
      (List.range n).map fun i => (List.range rowCount).map fun rowIdx =>
        (cellsOf rowIdx).getD i d := by
  induction rowCount with
  | zero => simp
  | succ rowCount ih =>
    rw [List.range_succ, List.foldl_append, ih, List.foldl_cons, List.foldl_nil,
      CoordinatorFeatureTable.pushCells_eq (by simp [hlength])]
    refine List.ext_getElem? fun i => ?_
    by_cases hi : i < n
    · have hcell : i < (cellsOf rowCount).length := by rwa [hlength]
      simp [hi, hcell]
    · have hcell : (cellsOf rowCount)[i]? = none := by
        rw [List.getElem?_eq_none]
        rw [hlength]
        omega
      simp [hi]

theorem IsRowMajor.validate_eq_ok {matrix : NumericFeatureMatrixF64}
    (h : cells.IsRowMajor matrix) : matrix.validate = .ok () ↔ cells.Shaped := by
  have hlength : matrix.values.length =
      matrix.featureNames.length * matrix.observationIds.length := by
    rw [← h.values.length_eq, length_flatten, h.featureNames, h.observationIds]
  have hmask : ∀ mask, matrix.validityMask = some mask →
      mask.length = matrix.featureNames.length * matrix.observationIds.length := by
    intro mask hsome
    have hmask := h.mask
    rw [hsome] at hmask
    rw [show mask = _ from hmask, List.length_map, h.values.length_eq, hlength]
  have hfinite : ∀ value idx, (value, idx) ∈ matrix.values.zipIdx →
      matrix.isValidAt idx = false ∨ value.isFinite = true := by
    intro value idx hmem
    have hvalue := List.mk_mem_zipIdx_iff_getElem?.mp hmem
    obtain ⟨hlt, heq⟩ := List.getElem?_eq_some_iff.mp hvalue
    have hlt' : idx < cells.rows.flatten.length := h.values.length_eq ▸ hlt
    have hcell := h.cellAt (List.getElem?_eq_getElem hlt')
    unfold NumericFeatureMatrixF64.cellAt at hcell
    cases hvalid : matrix.isValidAt idx with
    | false => exact .inl rfl
    | true =>
      rw [hvalid, if_pos rfl, List.getD_eq_getElem _ _ hlt, heq] at hcell
      obtain ⟨row, hrow, hmem⟩ := List.mem_flatten.mp (List.getElem_mem hlt')
      exact .inr (cells.finite row hrow value (hcell ▸ hmem))
  simp only [NumericFeatureMatrixF64.validate, bind_eq_ok, exists_unit, rejectIf_eq_ok,
    whenSome_eq_ok, forM_eq_ok, bne_eq_false_iff_eq, Bool.and_eq_false_iff, Bool.not_eq_false',
    validateFeatureShape_eq_ok, Prod.forall]
  rw [h.featureSetId, h.featureNames, h.observationIds]
  rw [h.featureNames, h.observationIds] at hlength hmask
  exact ⟨fun hvalid => hvalid.1, fun hshaped => ⟨hshaped, hlength, hmask, hfinite⟩⟩

theorem IsRowMajor.columns_eq {matrix : NumericFeatureMatrixF64} (h : cells.IsRowMajor matrix) :
    (List.range cells.observationIds.length).foldl (fun columns rowIdx =>
      pushCells columns ((List.range cells.featureNames.length).map fun featureIdx =>
        matrix.cellAt (rowIdx * cells.featureNames.length + featureIdx)))
        (List.replicate cells.featureNames.length []) = cells.columns := by
  rw [foldl_pushCells none (by simp), columns]
  refine List.map_congr_left fun featureIdx hmem => ?_
  have hfeature := List.mem_range.mp hmem
  refine List.ext_getElem? fun rowIdx => ?_
  rw [List.getElem?_map, List.getElem?_map]
  rcases Nat.lt_or_ge rowIdx cells.rows.length with hrow | hrow
  · have hget := List.getElem?_eq_getElem hrow
    have hwidth := cells.row_length _ (List.getElem_mem hrow)
    have hcell : cells.rows.flatten[rowIdx * cells.featureNames.length + featureIdx]? =
        some (cells.rows[rowIdx].getD featureIdx none) := by
      rw [getElem?_flatten hget hfeature, List.getD_eq_getElem _ _ (hwidth ▸ hfeature),
        List.getElem?_eq_getElem (hwidth ▸ hfeature)]
    have hrange : (List.range cells.observationIds.length)[rowIdx]? = some rowIdx := by
      rw [List.getElem?_range (cells.rows_length ▸ hrow)]
    rw [hget, hrange, Option.map_some, Option.map_some, List.getD_eq_getElem?_getD,
      List.getElem?_map, List.getElem?_range hfeature, Option.map_some, Option.getD_some,
      h.cellAt hcell]
  · have hrange : (List.range cells.observationIds.length)[rowIdx]? = none := by
      rw [List.getElem?_eq_none]
      rw [List.length_range, ← cells.rows_length]
      exact hrow
    rw [List.getElem?_eq_none hrow, hrange]
    rfl

/-- `from_f64_matrix` reads the matrix. -/
theorem IsRowMajor.readBy {matrix : NumericFeatureMatrixF64} (h : cells.IsRowMajor matrix) :
    cells.ReadBy (fromF64Matrix matrix) := by
  have hcolumns := h.columns_eq
  unfold fromF64Matrix
  rw [h.featureSetId, h.representationId, h.featureNames, h.observationIds]
  by_cases hshaped : cells.Shaped
  · refine .inl ⟨hshaped, ?_⟩
    rw [h.validate_eq_ok.mpr hshaped]
    simp only [hcolumns]
    rfl
  · refine .inr ⟨hshaped, ?_⟩
    cases hvalid : matrix.validate with
    | ok u => exact absurd (h.validate_eq_ok.mp hvalid) hshaped
    | error e => exact ⟨e, rfl⟩

/-! ## From columns -/

/-- A column under its mask is the column of cells. -/
theorem maskColumn_eq {column : List (Option F64)} {values : List F64} {mask : Option (List Bool)}
    (hvalues : List.Forall₂ HoldsCell column values) (hmask : IsMask column mask) :
    maskColumn mask values = column := by
  refine List.ext_getElem? fun i => ?_
  rw [maskColumn, List.getElem?_map, List.getElem?_zipIdx, Nat.zero_add]
  rcases Nat.lt_or_ge i column.length with hlt | hge
  · have hlt' : i < values.length := hvalues.length_eq ▸ hlt
    have hholds := hvalues.get hlt hlt'
    rw [List.get_eq_getElem, List.get_eq_getElem] at hholds
    have hvalid : NumericFeatureMatrixF64Columnar.isValidAt mask i = column[i].isSome := by
      cases mask with
      | none => exact (hmask _ (List.getElem_mem hlt)).symm
      | some mask =>
        rw [show mask = _ from hmask]
        simp [NumericFeatureMatrixF64Columnar.isValidAt, hlt]
    rw [List.getElem?_eq_getElem hlt', List.getElem?_eq_getElem hlt, Option.map_some,
      Option.map_some, hvalid]
    cases hcell : column[i] with
    | none => rfl
    | some x => rw [hholds x hcell]; rfl
  · rw [List.getElem?_eq_none hge, List.getElem?_eq_none (hvalues.length_eq ▸ hge)]
    rfl

theorem length_of_mem_columns {column : List (Option F64)} (h : column ∈ cells.columns) :
    column.length = cells.observationIds.length := by
  obtain ⟨i, -, rfl⟩ := List.mem_map.mp h
  rw [List.length_map, cells.rows_length]

theorem isFinite_of_mem_columns {column : List (Option F64)}
    (h : column ∈ cells.columns) {x : F64}
    (hx : some x ∈ column) : x.isFinite = true := by
  obtain ⟨i, -, rfl⟩ := List.mem_map.mp h
  obtain ⟨row, hrow, hcell⟩ := List.mem_map.mp hx
  rcases Nat.lt_or_ge i row.length with hlt | hge
  · rw [List.getD_eq_getElem _ _ hlt] at hcell
    exact cells.finite row hrow x (hcell ▸ List.getElem_mem hlt)
  · rw [List.getD_eq_default _ _ hge] at hcell
    cases hcell

theorem IsColumnar.maskColumn_eq {matrix : NumericFeatureMatrixF64Columnar}
    (h : cells.IsColumnar matrix) {i : Nat} {values : List F64}
    (hvalues : matrix.columns[i]? = some values) :
    cells.columns[i]? = some (maskColumn (matrix.maskOf i) values) := by
  obtain ⟨hlt', heq⟩ := List.getElem?_eq_some_iff.mp hvalues
  have hlt : i < cells.columns.length := h.columns.length_eq ▸ hlt'
  have hget := List.getElem?_eq_getElem hlt
  have hholds := h.columns.get hlt hlt'
  rw [List.get_eq_getElem, List.get_eq_getElem, heq] at hholds
  rw [hget, CellMatrix.maskColumn_eq hholds (h.mask i _ hget)]

theorem IsColumnar.columns_eq {matrix : NumericFeatureMatrixF64Columnar}
    (h : cells.IsColumnar matrix) :
    (matrix.columns.zipIdx.map fun entry => maskColumn (matrix.maskOf entry.2) entry.1) =
      cells.columns := by
  refine List.ext_getElem? fun i => ?_
  rw [List.getElem?_map, List.getElem?_zipIdx, Nat.zero_add]
  cases hvalues : matrix.columns[i]? with
  | none =>
    rw [List.getElem?_eq_none_iff, ← h.columns.length_eq] at hvalues
    rw [List.getElem?_eq_none hvalues]
    rfl
  | some values => exact (h.maskColumn_eq hvalues).symm

theorem IsColumnar.valid_iff {matrix : NumericFeatureMatrixF64Columnar}
    (h : cells.IsColumnar matrix) : matrix.Valid ↔ cells.Shaped := by
  have hshaped : ShapedFeatures matrix.featureSetId matrix.featureNames matrix.observationIds ↔
      cells.Shaped := by
    rw [h.featureSetId, h.featureNames, h.observationIds]
    rfl
  have hlength : cells.columns.length = matrix.featureNames.length := by
    rw [CellMatrix.columns, List.length_map, List.length_range, h.featureNames]
  refine ⟨fun hvalid => hshaped.mp hvalid.shaped, fun hok => ⟨hshaped.mpr hok, ?_, ?_, ?_⟩⟩
  · rw [← h.columns.length_eq, hlength]
  · intro masks hmasks
    rw [h.masks_length masks hmasks, hlength]
  · intro i values hvalues
    have hcolumn := h.maskColumn_eq hvalues
    have hmem := List.mem_of_getElem? hcolumn
    have hrows : values.length = matrix.observationIds.length := by
      rw [← length_maskColumn (matrix.maskOf i) values, length_of_mem_columns hmem,
        h.observationIds]
    refine ⟨hrows, fun mask hmask => ?_, fun rowIdx x hx hvalid => ?_⟩
    · have hisMask := h.mask i _ hcolumn
      rw [hmask] at hisMask
      rw [show mask = _ from hisMask, List.length_map, length_maskColumn, hrows]
    · exact isFinite_of_mem_columns hmem (some_mem_maskColumn.mpr ⟨rowIdx, hx, hvalid⟩)

/-- `from_f64_column_matrix` reads the matrix. -/
theorem IsColumnar.readBy {matrix : NumericFeatureMatrixF64Columnar}
    (h : cells.IsColumnar matrix) : cells.ReadBy (fromF64ColumnMatrix matrix) := by
  by_cases hshaped : cells.Shaped
  · refine .inl ⟨hshaped, fromF64ColumnMatrix_eq_ok.mpr ⟨h.valid_iff.mpr hshaped, ?_⟩⟩
    rw [h.columns_eq, h.featureSetId, h.representationId, h.featureNames, h.observationIds]
    rfl
  · refine .inr ⟨hshaped, ?_⟩
    cases hresult : fromF64ColumnMatrix matrix with
    | error e => exact ⟨e, rfl⟩
    | ok buffer =>
      exact absurd (h.valid_iff.mp (fromF64ColumnMatrix_eq_ok.mp hresult).1) hshaped

end CellMatrix

/-! ## Constructed buffers -/

namespace NumericFeatureBuffer

/-- The buffers that the three constructors make, as they make them. The numbers of a table are
those that JSON text has. -/
inductive Built : NumericFeatureBuffer → Prop
  | table {table : CoordinatorFeatureTable} {buffer : NumericFeatureBuffer} :
      (∀ row ∈ table.rows, ∀ value ∈ row.values, value.Fits) →
      fromFeatureTable table = .ok buffer → Built buffer
  | rowMajor {matrix : NumericFeatureMatrixF64} {buffer : NumericFeatureBuffer} :
      fromF64Matrix matrix = .ok buffer → Built buffer
  | columnar {matrix : NumericFeatureMatrixF64Columnar} {buffer : NumericFeatureBuffer} :
      fromF64ColumnMatrix matrix = .ok buffer → Built buffer

variable {buffer : NumericFeatureBuffer}

theorem numericFeatureValue_cases {featureSetId name : String} {observationId : ObservationId}
    {value : Json} {cell : Option F64} (hfits : value.Fits)
    (h : numericFeatureValue featureSetId observationId name value = .ok cell) :
    value = .null ∨ ∃ n : JsonNumber, value = .number n ∧ n.Fits := by
  cases value with
  | null => exact .inl rfl
  | number n => exact .inr ⟨n, rfl, hfits⟩
  | bool | string | array | object => cases h

theorem numeric_of_fromFeatureTable {table : CoordinatorFeatureTable}
    (hfits : ∀ row ∈ table.rows, ∀ value ∈ row.values, value.Fits)
    (h : fromFeatureTable table = .ok buffer) : table.Numeric := by
  obtain ⟨_, -, h⟩ := bind_eq_ok.mp h
  obtain ⟨st, hloop, -⟩ := bind_eq_ok.mp h
  intro row hrow value hvalue
  obtain ⟨rowIdx, hlt, hget⟩ := List.getElem_of_mem hrow
  have hentry : (row, rowIdx) ∈ table.rows.zipIdx :=
    List.mk_mem_zipIdx_iff_getElem?.mpr (by rw [List.getElem?_eq_getElem hlt, hget])
  obtain ⟨before, after, hstep⟩ := foldlM_ok_mem hloop hentry
  simp only [addTableRow, bind_eq_ok, exists_unit, pure_eq_ok] at hstep
  obtain ⟨-, cells, hcells, -⟩ := hstep
  obtain ⟨idx, hlt', hget'⟩ := List.getElem_of_mem hvalue
  have hcell : (value, idx) ∈ row.values.zipIdx :=
    List.mk_mem_zipIdx_iff_getElem?.mpr (by rw [List.getElem?_eq_getElem hlt', hget'])
  obtain ⟨cell, -, hread⟩ := exists_right_of_forall₂ (mapM_eq_ok.mp hcells) hcell
  exact numericFeatureValue_cases (hfits row hrow value hvalue) hread

theorem shaped_of_fromF64Matrix {matrix : NumericFeatureMatrixF64}
    (h : fromF64Matrix matrix = .ok buffer) : buffer.Shaped := by
  simp only [fromF64Matrix, bind_eq_ok, exists_unit, pure_eq_ok] at h
  obtain ⟨hvalid, rfl⟩ := h
  obtain ⟨_, hfeatures, -⟩ := bind_eq_ok.mp hvalid
  have hshaped := validateFeatureShape_eq_ok.mp hfeatures
  rw [CellMatrix.foldl_pushCells none (by simp)]
  exact {
    featureSetId := hshaped.featureSetId
    named := hshaped.named
    columns := by simp
    observed := hshaped.observed
    names := hshaped.names
    namesNodup := hshaped.namesNodup
    observationsNodup := hshaped.observationsNodup
    index := rfl
    rows := by simp }

/-- A buffer as it was built passes its validator, and its cells are finite. -/
theorem Built.shaped (h : buffer.Built) : buffer.Shaped ∧ buffer.Finite := by
  cases h with
  | table hfits h =>
    have hvalid := CoordinatorFeatureTable.validate_eq_ok.mp (bind_eq_ok.mp h).choose_spec.1
    have hbuffer := CoordinatorFeatureTable.fromFeatureTable_eq hvalid
      (numeric_of_fromFeatureTable hfits h)
    refine ⟨?_, fromFeatureTable_finite hfits h⟩
    rw [h] at hbuffer
    cases hbuffer
    exact hvalid.asBuffer_shaped
  | rowMajor h => exact ⟨shaped_of_fromF64Matrix h, fromF64Matrix_finite h⟩
  | columnar h => exact fromF64ColumnMatrix_shaped h

end NumericFeatureBuffer

/-! ## Out and in again -/

namespace NumericFeatureMatrixF64Columnar

/-- The matrix with `0.0` at its masked positions, and without masks that mask nothing. -/
def zeroMasked (matrix : NumericFeatureMatrixF64Columnar) : NumericFeatureMatrixF64Columnar :=
  { matrix with
    columns := matrix.columns.zipIdx.map fun entry => entry.1.zipIdx.map fun cell =>
      if isValidAt (matrix.maskOf entry.2) cell.2 then cell.1 else .zero
    validityMasks := matrix.validityMasks.filter fun masks => !(masks.all fun mask => mask.all id) }

variable {matrix : NumericFeatureMatrixF64Columnar}

theorem map_getD_maskColumn (mask : Option (List Bool)) (column : List F64) :
    ((maskColumn mask column).map fun cell => cell.getD .zero) =
      column.zipIdx.map fun cell => if isValidAt mask cell.2 then cell.1 else .zero := by
  rw [maskColumn, List.map_map]
  refine List.map_congr_left fun cell _ => ?_
  rw [Function.comp_apply]
  split
  · rfl
  · rfl

/-- A mask of the length of its column is read back from the column. -/
theorem map_isSome_maskColumn {mask : List Bool} {column : List F64}
    (h : mask.length = column.length) :
    (maskColumn (some mask) column).map Option.isSome = mask := by
  refine List.ext_getElem? fun i => ?_
  rw [List.getElem?_map, maskColumn, List.getElem?_map, List.getElem?_zipIdx, Nat.zero_add]
  rcases Nat.lt_or_ge i column.length with hlt | hge
  · have hlt' : i < mask.length := h ▸ hlt
    have hvalid : isValidAt (some mask) i = mask[i] := List.getD_eq_getElem _ _ hlt'
    rw [List.getElem?_eq_getElem hlt, List.getElem?_eq_getElem hlt', Option.map_some,
      Option.map_some, Option.map_some, hvalid]
    cases mask[i] with
    | false => rfl
    | true => rfl
  · rw [List.getElem?_eq_none hge, List.getElem?_eq_none (h ▸ hge)]
    rfl

theorem any_isNone_eq (columns : List (List (Option F64))) :
    (columns.any fun column => column.any Option.isNone) =
      !((columns.map fun column => column.map Option.isSome).all fun mask => mask.all id) := by
  rw [List.all_map, List.not_all_eq_any_not]
  refine congrArg (columns.any ·) (funext fun column => ?_)
  rw [Function.comp_apply, List.all_map, List.not_all_eq_any_not]
  refine congrArg (column.any ·) (funext fun cell => ?_)
  cases cell with
  | none => rfl
  | some x => rfl

/-- The masks of a valid matrix are read back from the columns of its buffer. -/
theorem Valid.masks_eq (h : matrix.Valid) {masks : List (List Bool)}
    (hmasks : matrix.validityMasks = some masks) :
    ((matrix.columns.zipIdx.map fun entry => maskColumn (matrix.maskOf entry.2) entry.1).map
      fun column => column.map Option.isSome) = masks := by
  have hlength : masks.length = matrix.columns.length := by
    rw [h.masks masks hmasks, h.columns]
  refine List.ext_getElem? fun i => ?_
  rw [List.map_map, List.getElem?_map, List.getElem?_zipIdx, Nat.zero_add]
  rcases Nat.lt_or_ge i matrix.columns.length with hlt | hge
  · have hlt' : i < masks.length := hlength ▸ hlt
    have hmask : matrix.maskOf i = some masks[i] := by
      rw [maskOf, hmasks, Option.map_some, List.getD_eq_getElem _ _ hlt']
    have hcolumn := h.column i _ (List.getElem?_eq_getElem hlt)
    rw [List.getElem?_eq_getElem hlt, List.getElem?_eq_getElem hlt', Option.map_some,
      Option.map_some, Function.comp_apply, hmask, map_isSome_maskColumn]
    rw [hcolumn.mask _ hmask, hcolumn.rows]
  · rw [List.getElem?_eq_none hge, List.getElem?_eq_none (hlength ▸ hge)]
    rfl

/-- Without masks no cell is masked. -/
theorem any_isNone_of_validityMasks_none (h : matrix.validityMasks = none) :
    ((matrix.columns.zipIdx.map fun entry => maskColumn (matrix.maskOf entry.2) entry.1).any
      fun column => column.any Option.isNone) = false := by
  rw [List.any_eq_false]
  intro column hcolumn
  obtain ⟨entry, -, rfl⟩ := List.mem_map.mp hcolumn
  rw [show matrix.maskOf entry.2 = none by rw [maskOf, h]; rfl, maskColumn_none, List.any_map,
    Bool.not_eq_true, List.any_eq_false]
  exact fun _ _ => Bool.false_ne_true

/-- A matrix that went through its buffer. -/
theorem toF64ColumnMatrix_fromF64ColumnMatrix {buffer : NumericFeatureBuffer}
    (h : fromF64ColumnMatrix matrix = .ok buffer) :
    buffer.toF64ColumnMatrix = matrix.zeroMasked := by
  obtain ⟨hvalid, rfl⟩ := fromF64ColumnMatrix_eq_ok.mp h
  have hcolumns : ((matrix.columns.zipIdx.map fun entry =>
      maskColumn (matrix.maskOf entry.2) entry.1).map fun column =>
        column.map fun cell => cell.getD .zero) = matrix.zeroMasked.columns := by
    rw [List.map_map]
    exact List.map_congr_left fun entry _ => map_getD_maskColumn _ _
  unfold toF64ColumnMatrix zeroMasked
  rw [hcolumns]
  cases hmasks : matrix.validityMasks with
  | none =>
    rw [if_neg]
    · rfl
    · rw [any_isNone_of_validityMasks_none hmasks]
      exact Bool.false_ne_true
  | some masks =>
    rw [any_isNone_eq, hvalid.masks_eq hmasks, Option.filter_some]
    rfl

end NumericFeatureMatrixF64Columnar

/-- The constructors agree on every matrix of cells, what they make is valid and finite, and it
goes out and in again without a change. A columnar matrix comes out with `0.0` at its masked
positions. -/
theorem featureIngestion :
    (∀ (cells : CellMatrix) (table : CoordinatorFeatureTable) (matrix : NumericFeatureMatrixF64)
      (columnar : NumericFeatureMatrixF64Columnar),
      cells.IsTable table → cells.IsRowMajor matrix → cells.IsColumnar columnar →
        (∃ buffer, fromFeatureTable table = .ok buffer ∧ fromF64Matrix matrix = .ok buffer ∧
          fromF64ColumnMatrix columnar = .ok buffer) ∨
        (∃ e e' e'', fromFeatureTable table = .error e ∧ fromF64Matrix matrix = .error e' ∧
          fromF64ColumnMatrix columnar = .error e'')) ∧
    (∀ buffer : NumericFeatureBuffer, buffer.Built →
      buffer.validate = .ok () ∧ buffer.Finite ∧
      fromF64ColumnMatrix buffer.toF64ColumnMatrix = .ok buffer) ∧
    ∀ (columnar : NumericFeatureMatrixF64Columnar) (buffer : NumericFeatureBuffer),
      fromF64ColumnMatrix columnar = .ok buffer →
        buffer.toF64ColumnMatrix = columnar.zeroMasked := by
  refine ⟨fun cells table matrix columnar htable hmatrix hcolumnar => ?_,
    fun buffer hbuilt => ?_, fun columnar buffer h => ?_⟩
  · rcases htable.readBy with ⟨hshaped, htable⟩ | ⟨hnot, e, htable⟩
    · left
      refine ⟨cells.buffer, htable, ?_, ?_⟩
      · exact (hmatrix.readBy.resolve_right fun h => h.1 hshaped).2
      · exact (hcolumnar.readBy.resolve_right fun h => h.1 hshaped).2
    · right
      obtain ⟨-, e', hmatrix⟩ := hmatrix.readBy.resolve_left fun h => hnot h.1
      obtain ⟨-, e'', hcolumnar⟩ := hcolumnar.readBy.resolve_left fun h => hnot h.1
      exact ⟨e, e', e'', htable, hmatrix, hcolumnar⟩
  · obtain ⟨hshaped, hfinite⟩ := hbuilt.shaped
    exact ⟨NumericFeatureBuffer.validate_eq_ok.mpr hshaped, hfinite,
      fromF64ColumnMatrix_toF64ColumnMatrix hshaped hfinite⟩
  · exact NumericFeatureMatrixF64Columnar.toF64ColumnMatrix_fromF64ColumnMatrix h

open CoordinatorHandleArena (numbersTable)

/-- The cells of `numbersTable`: a number and a masked cell. -/
def numbersCells : CellMatrix where
  featureSetId := "x"
  representationId := .lit "tabular" rfl
  featureNames := ["a", "b"]
  observationIds := [.lit "o1" rfl]
  rows := [[some (F64.ofInt 3), none]]
  rows_length := rfl
  row_length := fun _ hrow => List.mem_singleton.mp hrow ▸ rfl
  finite := fun _ hrow _ hx => by
    cases List.mem_singleton.mp hrow
    simp only [List.mem_cons, Option.some.injEq, reduceCtorEq, List.not_mem_nil, or_false] at hx
    rw [hx]
    exact F64.isFinite_ofInt (by omega)

/-- A stale `3.0` lies at the masked position. -/
def numbersMatrix : NumericFeatureMatrixF64 where
  featureSetId := "x"
  representationId := .lit "tabular" rfl
  featureNames := ["a", "b"]
  observationIds := [.lit "o1" rfl]
  values := [F64.ofInt 3, F64.ofInt 3]
  validityMask := some [true, false]

def numbersColumns : NumericFeatureMatrixF64Columnar where
  featureSetId := "x"
  representationId := .lit "tabular" rfl
  featureNames := ["a", "b"]
  observationIds := [.lit "o1" rfl]
  columns := [[F64.ofInt 3], [F64.ofInt 3]]
  validityMasks := some [[true], [false]]

theorem isTable_numbersTable : numbersCells.IsTable numbersTable := by
  have hthree : IsJsonCell (some (F64.ofInt 3)) (.number (.int 3)) :=
    ⟨.int 3, rfl, ⟨by omega, by omega⟩, rfl⟩
  exact ⟨rfl, rfl, rfl, rfl, .cons (.cons hthree (.cons rfl .nil)) .nil⟩

theorem holds_three : HoldsCell (some (F64.ofInt 3)) (F64.ofInt 3) := fun _ h => Option.some.inj h

theorem holds_masked : HoldsCell none (F64.ofInt 3) := by
  intro x h
  cases h

theorem isRowMajor_numbersMatrix : numbersCells.IsRowMajor numbersMatrix :=
  ⟨rfl, rfl, rfl, rfl, .cons holds_three (.cons holds_masked .nil), rfl⟩

theorem isColumnar_numbersColumns : numbersCells.IsColumnar numbersColumns := by
  refine ⟨rfl, rfl, rfl, rfl, ?_, fun masks h => ?_, fun i column h => ?_⟩
  · exact .cons (.cons holds_three .nil) (.cons (.cons holds_masked .nil) .nil)
  · cases h
    rfl
  · match i with
    | 0 =>
      cases h
      rfl
    | 1 =>
      cases h
      rfl

/-- The three inputs make one buffer, which comes out of the columns with its `0.0`. -/
theorem featureIngestion_numbers : ∃ buffer,
    (fromFeatureTable numbersTable = .ok buffer ∧ fromF64Matrix numbersMatrix = .ok buffer) ∧
      fromF64ColumnMatrix buffer.toF64ColumnMatrix = .ok buffer ∧
      buffer.toF64ColumnMatrix = numbersColumns.zeroMasked := by
  have hvalid : numbersTable.validate = .ok () := by decide +kernel
  obtain ⟨hagree, hbuilt, hexport⟩ := featureIngestion
  rcases hagree _ _ _ _ isTable_numbersTable isRowMajor_numbersMatrix isColumnar_numbersColumns with
    ⟨buffer, htable, hmatrix, hcolumns⟩ | ⟨e, _, _, htable, -⟩
  · exact ⟨buffer, ⟨htable, hmatrix⟩, (hbuilt buffer (.columnar hcolumns)).2.2,
      hexport _ buffer hcolumns⟩
  · have hok := CoordinatorFeatureTable.fromFeatureTable_eq
      (CoordinatorFeatureTable.validate_eq_ok.mp hvalid) isTable_numbersTable.numeric
    rw [htable] at hok
    cases hok

end DagMlData
