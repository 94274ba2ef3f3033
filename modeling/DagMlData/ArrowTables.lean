import DagMlData.FeatureProjection
import DagMlData.IdentityArrow
import DagMlData.TargetValues
import DagMlData.Lib.Unchecked

/-!
# Feature and target blocks in Arrow

`build_feature_arrow`, `build_target_arrow` and `build_multi_target_arrow`: the identities of a
block as columns of text, and a column of floats for each feature or target. A value that is null,
or that is masked, is a null of its column.

* `ArrowTable.readFeatures`, `ArrowTable.readTargets`: what a reader of the columns sees.
* `featureArrow_lossless`, `provider_featureArrow`: a block of features is read back.
* `targetArrow_lossless`: so is a block of targets, with the masks.
-/

namespace DagMlData

open Guard RustText Unchecked

/-! ## Building -/

inductive ArrowColumn
  | string (array : StringArray)
  | boolean (array : BoolArray)
  | f64 (array : F64Array)

/-- A struct array with its schema. -/
structure ArrowTable where
  length : Nat
  columns : List ArrowColumn
  name : String
  fields : List FieldSchema

/-- The table of identities. -/
def IdentityArrow.asTable (arrow : IdentityArrow) : ArrowTable where
  length := arrow.length
  columns := arrow.arrays.map fun
    | .string array => .string array
    | .boolean array => .boolean array
  name := arrow.name
  fields := arrow.schemas

/-- `schema`. Its texts become C strings. -/
def fieldSchema (name format : String) (nullable : Bool) : Result FieldSchema := do
  rejectIf ((bytes format).contains 0) (.validation "Arrow schema format contains nul")
  rejectIf ((bytes name).contains 0) (.validation "Arrow schema name contains nul")
  pure ⟨name, format, nullable⟩

/-- A column of identities. -/
def identArray {kind : IdKind} (ids : List (Ident kind)) : Result StringArray :=
  stringArray (ids.map fun id => some id.value)

namespace CoordinatorFeatureBlock

/-- The value of a row for `f64_array`. A row that is too short panics. -/
def arrowCell (featureName : String) (featureIdx : Nat) (row : List Json) :
    Outcome DataError (Option F64) := do
  let value ← require row[featureIdx]? .panicked
  match value with
  | .null => pure none
  | .number number => pure (some number.asF64)
  | _ => .error (.refused (.validation
      s!"feature `{featureName}` Arrow smoke only supports numeric or null values"))

/-- One feature: its column and its field. -/
def arrowColumn (features : CoordinatorFeatureBlock) (feature : String × Nat) :
    Outcome DataError (ArrowColumn × FieldSchema) := do
  let numericValues ← features.values.mapM (arrowCell feature.1 feature.2)
  let field ← lift (fieldSchema feature.1 "g" true)
  pure (.f64 (f64Array numericValues), field)

/-- `build_feature_arrow`. -/
def buildFeatureArrow (features : CoordinatorFeatureBlock) : Outcome DataError ArrowTable := do
  let observationIds ← lift (identArray features.observationIds)
  let sampleIds ← lift (identArray features.sampleIds)
  let observationField ← lift (fieldSchema "observation_id" "u" false)
  let sampleField ← lift (fieldSchema "sample_id" "u" false)
  let columns ← features.featureNames.zipIdx.mapM features.arrowColumn
  let root ← lift (fieldSchema "coordinator_features" "+s" false)
  pure {
    length := features.observationIds.length
    columns := .string observationIds :: .string sampleIds :: columns.map Prod.fst
    name := root.name
    fields := observationField :: sampleField :: columns.map Prod.snd }

end CoordinatorFeatureBlock

/-- `build_target_arrow`. -/
def CoordinatorTargetBlock.buildTargetArrow (target : CoordinatorTargetBlock) :
    Result ArrowTable := do
  let numericValues ← target.values.mapM fun value =>
    match value with
    | .number number => .ok (some number.asF64)
    | _ => .error (.validation
        s!"target `{target.targetId}` Arrow smoke only supports numeric values")
  let sampleIds ← identArray target.sampleIds
  let targetIds ← identArray (List.replicate target.sampleIds.length target.targetId)
  let sampleField ← fieldSchema "sample_id" "u" false
  let targetField ← fieldSchema "target_id" "u" false
  let valueField ← fieldSchema "value" "g" true
  let root ← fieldSchema "coordinator_target" "+s" false
  pure {
    length := target.sampleIds.length
    columns := [.string sampleIds, .string targetIds, .f64 (f64Array numericValues)]
    name := root.name
    fields := [sampleField, targetField, valueField] }

namespace CoordinatorMultiTargetBlock

/-- The value of a sample for `f64_array`: null where the mask has no value. -/
def arrowCell (targetId : TargetId) (entry : Json × Bool) : Result (Option F64) :=
  if !entry.2 || entry.1.isNull then .ok none
  else match entry.1 with
    | .number number => .ok (some number.asF64)
    | _ => .error (.validation
        s!"target `{targetId}` Arrow smoke only supports numeric or null values")

/-- One target: its column and its field. -/
def arrowColumn (targets : CoordinatorMultiTargetBlock) (target : TargetId × Nat) :
    Result (ArrowColumn × FieldSchema) := do
  let values ← require targets.values[target.2]?
    (.validation s!"multi-target block missing values for target `{target.1}`")
  let validity ← require targets.validityMasks[target.2]?
    (.validation s!"multi-target block missing validity mask for target `{target.1}`")
  rejectIf (values.length != targets.sampleIds.length ||
      validity.length != targets.sampleIds.length)
    (.validation s!"multi-target block target `{target.1}` is not aligned to sample_ids")
  let numericValues ← (values.zip validity).mapM (arrowCell target.1)
  let field ← fieldSchema target.1.value "g" true
  pure (.f64 (f64Array numericValues), field)

/-- `build_multi_target_arrow`. -/
def buildMultiTargetArrow (targets : CoordinatorMultiTargetBlock) : Result ArrowTable := do
  rejectIf (targets.values.length != targets.targetIds.length ||
      targets.validityMasks.length != targets.targetIds.length)
    (.validation "multi-target block target/value/mask lengths differ")
  let sampleIds ← identArray targets.sampleIds
  let sampleField ← fieldSchema "sample_id" "u" false
  let columns ← targets.targetIds.zipIdx.mapM targets.arrowColumn
  let root ← fieldSchema "coordinator_multi_target" "+s" false
  pure {
    length := targets.sampleIds.length
    columns := .string sampleIds :: columns.map Prod.fst
    name := root.name
    fields := sampleField :: columns.map Prod.snd }

end CoordinatorMultiTargetBlock

/-! ## Reading -/

namespace ArrowColumn

def texts : ArrowColumn → Option (List (Option String))
  | string array => array.decode
  | _ => none

def numbers : ArrowColumn → Option (List (Option F64))
  | f64 array => some array.decode
  | _ => none

def nullCount : ArrowColumn → Nat
  | string array => array.nullCount
  | boolean array => array.nullCount
  | f64 array => array.nullCount

/-- The identifiers of a column that has no null. -/
def idents (kind : IdKind) (column : ArrowColumn) : Option (List (Ident kind)) := do
  (← column.texts).mapM fun text => text.bind fun value => (Ident.new kind value).toOption

end ArrowColumn

namespace ArrowTable

/-- The block of features that a reader rebuilds. -/
def readFeatures (table : ArrowTable) (featureSetId : String)
    (representationId : RepresentationId) :
    Option CoordinatorFeatureBlock :=
  match table.columns with
  | observationIds :: sampleIds :: features => do
    let observationIds ← observationIds.idents .observation
    let sampleIds ← sampleIds.idents .sample
    let columns ← features.mapM ArrowColumn.numbers
    pure {
      featureSetId := featureSetId
      representationId := representationId
      featureNames := (table.fields.drop 2).map (·.name)
      observationIds := observationIds
      sampleIds := sampleIds
      values := (List.range table.length).map fun row =>
        columns.map fun column => NumericFeatureBuffer.cellJson (column.getD row none) }
  | _ => none

/-- The block of one target that a reader rebuilds. -/
def readTarget (table : ArrowTable) : Option CoordinatorTargetBlock :=
  match table.columns with
  | [sampleIds, targetIds, values] => do
    let sampleIds ← sampleIds.idents .sample
    let targetIds ← targetIds.idents .target
    let targetId ← targetIds.head?
    let values ← values.numbers
    pure ⟨targetId, sampleIds, values.map NumericFeatureBuffer.cellJson⟩
  | _ => none

/-- The block of targets that a reader rebuilds. A null is a place that is masked. -/
def readTargets (table : ArrowTable) : Option CoordinatorMultiTargetBlock :=
  match table.columns with
  | sampleIds :: targets => do
    let sampleIds ← sampleIds.idents .sample
    let targetIds ← (table.fields.drop 1).mapM fun field =>
      (Ident.new .target field.name).toOption
    let columns ← targets.mapM ArrowColumn.numbers
    pure {
      targetIds := targetIds
      sampleIds := sampleIds
      values := columns.map (List.map NumericFeatureBuffer.cellJson)
      validityMasks := columns.map (List.map Option.isSome) }
  | _ => none

end ArrowTable

/-! ## The parts of a table -/

/-- The array of texts that fit. -/
def textArray (values : List (Option String)) : StringArray :=
  ⟨values.length, values.countP Option.isNone, validityOf values, payloadOffsets values,
    payload values⟩

/-- The bytes of identifiers. -/
def identBytes {kind : IdKind} (ids : List (Ident kind)) : Nat :=
  (payload (ids.map fun id => some id.value)).length

theorem stringArray_eq_ok {values : List (Option String)} {array : StringArray} :
    stringArray values = .ok array ↔ (payload values).length ≤ i32Max ∧
      textArray values = array := by
  rw [stringArray_eq]
  split <;> simp_all [textArray]

theorem identArray_eq_ok {kind : IdKind} {ids : List (Ident kind)} {array : StringArray} :
    identArray ids = .ok array ↔
      identBytes ids ≤ i32Max ∧ textArray (ids.map fun id => some id.value) = array :=
  stringArray_eq_ok

theorem fieldSchema_eq_ok {name format : String} {nullable : Bool} {field : FieldSchema} :
    fieldSchema name format nullable = .ok field ↔
      (0 ∉ bytes format ∧ 0 ∉ bytes name) ∧ ⟨name, format, nullable⟩ = field := by
  simp [fieldSchema, bind_eq_ok, and_assoc]

/-- Every element is read as its image. -/
theorem mapM_map_eq_some {α β γ : Type} {f : α → β} {g : β → Option γ}
    {k : α → γ} {xs : List α}
    (h : ∀ x ∈ xs, g (f x) = some (k x)) : (xs.map f).mapM g = some (xs.map k) := by
  induction xs with
  | nil => rfl
  | cons x xs ih =>
    rw [List.forall_mem_cons] at h
    rw [List.map_cons, List.mapM_cons, h.1, ih h.2]
    rfl

theorem mapM_map_eq_some_self {α β : Type} {f : α → β} {g : β → Option α} {xs : List α}
    (h : ∀ x ∈ xs, g (f x) = some x) : (xs.map f).mapM g = some xs :=
  (mapM_map_eq_some h).trans (congrArg some (List.map_id xs))

theorem idents_textArray {kind : IdKind} {ids : List (Ident kind)} (h : identBytes ids ≤ i32Max) :
    (ArrowColumn.string (textArray (ids.map fun id => some id.value))).idents kind = some ids := by
  have htexts : (ArrowColumn.string (textArray (ids.map fun id => some id.value))).texts =
      some (ids.map fun id => some id.value) :=
    decode_stringArray (stringArray_eq_ok.mpr ⟨h, rfl⟩)
  rw [ArrowColumn.idents, htexts]
  refine mapM_map_eq_some_self fun id _ => ?_
  rw [Option.bind_some, Ident.new_value]
  rfl

@[simp] theorem numbers_f64Array (values : List (Option F64)) :
    (ArrowColumn.f64 (f64Array values)).numbers = some values :=
  congrArg some (decode_f64Array values)

@[simp] theorem nullCount_f64Array (values : List (Option F64)) :
    (ArrowColumn.f64 (f64Array values)).nullCount = values.countP Option.isNone := by
  rw [f64Array_eq]
  rfl

/-- What a column of floats can take of a block. -/
def Json.IsNumeric (value : Json) : Prop := value = .null ∨ ∃ n, value = .number n

/-! ## Features -/

namespace CoordinatorFeatureBlock

variable {features : CoordinatorFeatureBlock} {featureName : String} {featureIdx : Nat}
  {row : List Json}

theorem arrowCell_eq_ok {cell : Option F64} : arrowCell featureName featureIdx row = .ok cell ↔
    (∃ value, row[featureIdx]? = some value ∧ value.IsNumeric) ∧
      cellValue (row.getD featureIdx .null) = cell := by
  rw [List.getD_eq_getElem?_getD]
  cases hvalue : row[featureIdx]? with
  | none => simp [arrowCell, hvalue, bind_eq_ok, require]
  | some value => cases value <;> simp [arrowCell, hvalue, require, Json.IsNumeric, cellValue]

theorem panics_arrowCell : Panics (arrowCell featureName featureIdx row) ↔
    row.length ≤ featureIdx := by
  rw [← List.getElem?_eq_none_iff]
  cases hvalue : row[featureIdx]? with
  | none => simp [arrowCell, hvalue, require, Panics, bind, Except.bind]
  | some value => cases value <;> simp [arrowCell, hvalue, require, Panics, bind, Except.bind,
      pure, Except.pure]

/-- The cells of a feature. -/
def arrowNumbers (features : CoordinatorFeatureBlock) (featureIdx : Nat) : List (Option F64) :=
  features.values.map fun row => cellValue (row.getD featureIdx .null)

/-- The feature has a value in every row, a number or null. -/
def HasNumbers (features : CoordinatorFeatureBlock) (featureIdx : Nat) : Prop :=
  ∀ row ∈ features.values, ∃ value, row[featureIdx]? = some value ∧ value.IsNumeric

theorem arrowColumn_eq_ok {feature : String × Nat} {column : ArrowColumn × FieldSchema} :
    features.arrowColumn feature = .ok column ↔
      (features.HasNumbers feature.2 ∧ 0 ∉ bytes feature.1) ∧
        (.f64 (f64Array (features.arrowNumbers feature.2)),
          ⟨feature.1, "g", true⟩) = column := by
  have hformat : 0 ∉ bytes "g" := by decide
  simp only [arrowColumn, bind_eq_ok, lift_eq_ok, fieldSchema_eq_ok, pure_eq_ok, hformat,
    not_false_eq_true, true_and, mapM_eq_ok_map fun row _ cell => arrowCell_eq_ok]
  constructor
  · rintro ⟨_, ⟨hcells, rfl⟩, _, ⟨hname, rfl⟩, rfl⟩
    exact ⟨⟨hcells, hname⟩, rfl⟩
  · rintro ⟨⟨hcells, hname⟩, rfl⟩
    exact ⟨_, ⟨hcells, rfl⟩, _, ⟨hname, rfl⟩, rfl⟩

/-- A row for every observation, with a value for every feature. -/
structure Rectangular (features : CoordinatorFeatureBlock) : Prop where
  rows : features.values.length = features.observationIds.length
  values : ∀ row ∈ features.values, row.length = features.featureNames.length

/-- What Arrow can hold of a block. -/
structure Exportable (features : CoordinatorFeatureBlock) : Prop where
  observationIds : identBytes features.observationIds ≤ i32Max
  sampleIds : identBytes features.sampleIds ≤ i32Max
  names : ∀ name ∈ features.featureNames, 0 ∉ bytes name
  numeric : ∀ row ∈ features.values, ∀ value ∈ row, value.IsNumeric

/-- The table of a block. -/
def arrowTable (features : CoordinatorFeatureBlock) : ArrowTable where
  length := features.observationIds.length
  columns :=
    .string (textArray (features.observationIds.map fun id => some id.value)) ::
      .string (textArray (features.sampleIds.map fun id => some id.value)) ::
      features.featureNames.zipIdx.map fun feature =>
        .f64 (f64Array (features.arrowNumbers feature.2))
  name := "coordinator_features"
  fields := ⟨"observation_id", "u", false⟩ :: ⟨"sample_id", "u", false⟩ ::
    features.featureNames.map fun name => ⟨name, "g", true⟩

/-- Every feature has its values when every value of a row is numeric. -/
theorem Rectangular.hasNumbers (hrect : features.Rectangular) :
    (∀ feature ∈ features.featureNames.zipIdx, features.HasNumbers feature.2 ∧
      0 ∉ bytes feature.1) ↔
      (∀ name ∈ features.featureNames, 0 ∉ bytes name) ∧
        ∀ row ∈ features.values, ∀ value ∈ row, value.IsNumeric := by
  constructor
  · intro h
    refine ⟨fun name hname => ?_, fun row hrow value hvalue => ?_⟩
    · obtain ⟨i, hi⟩ := List.getElem?_of_mem hname
      exact (h (name, i) (List.mem_zipIdx_iff_getElem?.mpr hi)).2
    · obtain ⟨i, hi⟩ := List.getElem?_of_mem hvalue
      have hlt : i < features.featureNames.length :=
        hrect.values row hrow ▸ (List.getElem?_eq_some_iff.mp hi).1
      obtain ⟨value', hvalue', hnumeric⟩ := (h (features.featureNames[i], i)
        (List.mem_zipIdx_iff_getElem?.mpr (List.getElem?_eq_getElem hlt))).1 row hrow
      cases hi.symm.trans hvalue'
      exact hnumeric
  · rintro ⟨hnames, hnumeric⟩ ⟨name, i⟩ hfeature
    have hname := List.mem_zipIdx_iff_getElem?.mp hfeature
    refine ⟨fun row hrow => ?_, hnames name (List.mem_of_getElem? hname)⟩
    have hlt : i < row.length :=
      hrect.values row hrow ▸ (List.getElem?_eq_some_iff.mp hname).1
    exact ⟨row[i], List.getElem?_eq_getElem hlt, hnumeric row hrow _ (List.getElem_mem hlt)⟩

theorem buildFeatureArrow_eq_ok (hrect : features.Rectangular) {table : ArrowTable} :
    features.buildFeatureArrow = .ok table ↔ features.Exportable ∧
      features.arrowTable = table := by
  have hcolumns : ∀ columns : List (ArrowColumn × FieldSchema),
      features.featureNames.zipIdx.mapM features.arrowColumn = .ok columns ↔
        ((∀ name ∈ features.featureNames, 0 ∉ bytes name) ∧
          ∀ row ∈ features.values, ∀ value ∈ row, value.IsNumeric) ∧
        (features.featureNames.zipIdx.map fun feature =>
          (ArrowColumn.f64 (f64Array (features.arrowNumbers feature.2)),
            FieldSchema.mk feature.1 "g" true)) = columns := fun columns => by
    rw [mapM_eq_ok_map fun feature _ column => arrowColumn_eq_ok, hrect.hasNumbers]
  have hfields : (0 ∉ bytes "u" ∧ 0 ∉ bytes "observation_id") ∧
      (0 ∉ bytes "u" ∧ 0 ∉ bytes "sample_id") ∧
      0 ∉ bytes "+s" ∧ 0 ∉ bytes "coordinator_features" := by decide
  obtain ⟨hobservation, hsample, hroot⟩ := hfields
  have hnames : (features.featureNames.zipIdx.map fun feature =>
    FieldSchema.mk feature.1 "g" true) =
      features.featureNames.map fun name => ⟨name, "g", true⟩ := by
    have hfst := congrArg (List.map fun name => FieldSchema.mk name "g" true)
      (List.zipIdx_map_fst 0 features.featureNames)
    rwa [List.map_map] at hfst
  simp only [buildFeatureArrow, bind_eq_ok, lift_eq_ok, identArray_eq_ok, fieldSchema_eq_ok,
    hcolumns, pure_eq_ok]
  constructor
  · rintro ⟨_, ⟨hobservations, rfl⟩, _, ⟨hsamples, rfl⟩, _,
      ⟨-, rfl⟩, _, ⟨-, rfl⟩, _,
      ⟨⟨hnul, hnumeric⟩, rfl⟩, _, ⟨-, rfl⟩, rfl⟩
    refine ⟨⟨hobservations, hsamples, hnul, hnumeric⟩, ?_⟩
    simp only [arrowTable, List.map_map, Function.comp_def, hnames]
  · rintro ⟨⟨hobservations, hsamples, hnul, hnumeric⟩, rfl⟩
    refine ⟨_, ⟨hobservations, rfl⟩, _, ⟨hsamples, rfl⟩, _,
      ⟨hobservation, rfl⟩, _, ⟨hsample, rfl⟩,
      _, ⟨⟨hnul, hnumeric⟩, rfl⟩, _, ⟨hroot, rfl⟩, ?_⟩
    simp only [arrowTable, List.map_map, Function.comp_def, hnames]

/-- The export of a rectangular block does not panic. -/
theorem not_panics_buildFeatureArrow (hrect : features.Rectangular) :
    ¬ Panics features.buildFeatureArrow := by
  have hcolumns : ¬ Panics (features.featureNames.zipIdx.mapM features.arrowColumn) := by
    intro hpanics
    obtain ⟨⟨name, i⟩, hfeature, hpanics⟩ := exists_panics_of_mapM hpanics
    rw [arrowColumn, panics_bind] at hpanics
    rcases hpanics with hpanics | ⟨_, -, hpanics⟩
    · obtain ⟨row, hrow, hpanics⟩ := exists_panics_of_mapM hpanics
      have hname := List.mem_zipIdx_iff_getElem?.mp hfeature
      have hlt := (List.getElem?_eq_some_iff.mp hname).1
      have hle := panics_arrowCell.mp hpanics
      rw [hrect.values row hrow] at hle
      exact absurd hlt (Nat.not_lt.mpr hle)
    · simp at hpanics
  simp [buildFeatureArrow, hcolumns]

/-- A cell of a column is the value of its row. -/
theorem getD_arrowNumbers {i featureIdx : Nat} {row : List Json}
    (hrow : features.values[i]? = some row) :
    (features.arrowNumbers featureIdx).getD i none = cellValue (row.getD featureIdx .null) := by
  rw [arrowNumbers, List.getD_eq_getElem?_getD, List.getElem?_map, hrow]
  rfl

theorem readFeatures_arrowTable (hrect : features.Rectangular) (hexport : features.Exportable)
    (hfits : ∀ row ∈ features.values, ∀ value ∈ row, value.Fits) :
    features.arrowTable.readFeatures features.featureSetId features.representationId =
      some { features with values := features.values.map (List.map Json.asFloat) } := by
  have hcolumns : (features.featureNames.zipIdx.map fun feature =>
      ArrowColumn.f64 (f64Array (features.arrowNumbers feature.2))).mapM ArrowColumn.numbers =
      some (features.featureNames.zipIdx.map fun feature => features.arrowNumbers feature.2) :=
    mapM_map_eq_some fun feature _ => numbers_f64Array _
  have hvalues : ((List.range features.observationIds.length).map fun row =>
      (features.featureNames.zipIdx.map fun feature => features.arrowNumbers feature.2).map
        fun column => NumericFeatureBuffer.cellJson (column.getD row none)) =
      features.values.map (List.map Json.asFloat) := by
    have hlength : (features.values.map (List.map Json.asFloat)).length = features.values.length :=
      List.length_map _
    rw [← hrect.rows, ← hlength]
    refine map_range_eq fun i row' hrow' => ?_
    rw [List.getElem?_map, Option.map_eq_some_iff] at hrow'
    obtain ⟨row, hrow, rfl⟩ := hrow'
    have hmem := List.mem_of_getElem? hrow
    rw [List.map_map]
    refine List.ext_getElem (by simp [hrect.values row hmem]) fun k hk hk' => ?_
    rw [List.length_map] at hk'
    simp only [List.getElem_map, List.getElem_zipIdx, Function.comp_def, getD_arrowNumbers hrow,
      Nat.zero_add, List.getD_eq_getElem _ _ hk']
    refine CoordinatorFeatureTable.cellJson_cellValue ?_
    have hvalue := List.getElem_mem hk'
    have hfit := hfits row hmem _ hvalue
    rcases hexport.numeric row hmem _ hvalue with hnull | ⟨n, hn⟩
    · exact .inl hnull
    · rw [hn] at hfit
      exact .inr ⟨n, hn, hfit⟩
  simp only [ArrowTable.readFeatures, arrowTable, idents_textArray hexport.observationIds,
    idents_textArray hexport.sampleIds, hcolumns, hvalues, Option.bind_eq_bind, Option.bind_some]
  simp [Function.comp_def]

/-- A block of features with a value of every feature for every observation: its export does not
panic, it succeeds when the texts and the values fit, and a reader rebuilds the block, with its
numbers as floats. -/
theorem featureArrow_lossless (features : CoordinatorFeatureBlock)
    (hrect : features.Rectangular) :
    ¬ Panics features.buildFeatureArrow ∧
    ((∃ table, features.buildFeatureArrow = .ok table) ↔ features.Exportable) ∧
    ∀ table, features.buildFeatureArrow = .ok table →
      (∀ row ∈ features.values, ∀ value ∈ row, value.Fits) →
      table.readFeatures features.featureSetId features.representationId =
        some { features with values := features.values.map (List.map Json.asFloat) } := by
  simp only [buildFeatureArrow_eq_ok hrect]
  refine ⟨not_panics_buildFeatureArrow hrect, ?_, ?_⟩
  · exact ⟨fun ⟨_, hexport, _⟩ => hexport, fun hexport => ⟨_, hexport, rfl⟩⟩
  · rintro table ⟨hexport, rfl⟩ hfits
    exact readFeatures_arrowTable hrect hexport hfits

/-- A column of the table has a null exactly where a row has one. -/
theorem nullCount_arrowTable (hrect : features.Rectangular) (hexport : features.Exportable) :
    (∀ column ∈ features.arrowTable.columns, column.nullCount = 0) ↔
      ∀ row ∈ features.values, Json.null ∉ row := by
  have htexts : ∀ {kind : IdKind} (ids : List (Ident kind)),
      (ArrowColumn.string (textArray (ids.map fun id => some id.value))).nullCount = 0 := by
    intro kind ids
    show (ids.map _).countP _ = 0
    rw [List.countP_map, List.countP_eq_zero]
    simp
  simp only [arrowTable, List.forall_mem_cons, htexts, true_and, List.forall_mem_map,
    nullCount_f64Array, List.countP_eq_zero, arrowNumbers]
  constructor
  · intro h row hrow hnull
    obtain ⟨k, hk⟩ := List.getElem?_of_mem hnull
    have hlt : k < features.featureNames.length :=
      hrect.values row hrow ▸ (List.getElem?_eq_some_iff.mp hk).1
    refine h (features.featureNames[k], k)
      (List.mem_zipIdx_iff_getElem?.mpr (List.getElem?_eq_getElem hlt)) row hrow ?_
    rw [List.getD_eq_getElem?_getD, hk]
    rfl
  · rintro h ⟨name, k⟩ hfeature row hrow hnone
    have hlt : k < row.length := hrect.values row hrow ▸
      (List.getElem?_eq_some_iff.mp (List.mem_zipIdx_iff_getElem?.mp hfeature)).1
    have hmem := List.getElem_mem hlt
    rw [List.getD_eq_getElem _ _ hlt] at hnone
    rcases hexport.numeric row hrow _ hmem with hnull | ⟨n, hn⟩
    · exact h row hrow (hnull ▸ hmem)
    · rw [hn] at hnone
      exact absurd hnone Bool.false_ne_true

end CoordinatorFeatureBlock

/-! ## Features of a provider -/

namespace NumericFeatureBuffer

variable {buffer : NumericFeatureBuffer} {selected : List Nat} {records : List CoordinatorRelation}
  {block : CoordinatorFeatureBlock}

theorem Projects.rectangular (h : buffer.Projects selected records block) : block.Rectangular where
  rows := by rw [← h.values.length_eq, h.observationIds, List.length_map]
  values row hrow := by
    obtain ⟨r, -, rowIdx, -, rfl⟩ := exists_left_of_forall₂ h.values hrow
    rw [h.featureNames, List.length_map, List.length_map]

/-- A projected value is null or a finite float. -/
theorem Projects.value_cases (h : buffer.Projects selected records block) (hfinite : buffer.Finite)
    {row : List Json} (hrow : row ∈ block.values) {value : Json} (hvalue : value ∈ row) :
    value = .null ∨ ∃ x, value = floatJson x ∧ x.isFinite = true := by
  obtain ⟨r, -, rowIdx, -, rfl⟩ := exists_left_of_forall₂ h.values hrow
  obtain ⟨featureIdx, -, rfl⟩ := List.mem_map.mp hvalue
  rcases hfinite.cellJson_cases featureIdx rowIdx with hnull | ⟨x, hx⟩
  · exact .inl hnull
  · exact .inr ⟨x, hx, hfinite.isFinite_cell (hfinite.cellJson_eq.mp hx)⟩

end NumericFeatureBuffer

/-- The texts of a block that Arrow has to hold. -/
structure CoordinatorFeatureBlock.TextsFit (features : CoordinatorFeatureBlock) : Prop where
  observationIds : identBytes features.observationIds ≤ i32Max
  sampleIds : identBytes features.sampleIds ≤ i32Max
  names : ∀ name ∈ features.featureNames, 0 ∉ bytes name

section Provider
variable [ThirdParty]

/-- The block of a feature set is a projection of its buffer. -/
theorem ProviderArenas.exists_projectRelations {arenas : ProviderArenas} {viewHandle : Nat}
    {featureSetId : String} {block : CoordinatorFeatureBlock}
    (h : arenas.featureBlock viewHandle featureSetId = .ok block) :
    ∃ (buffer : NumericFeatureBuffer) (relations : CoordinatorRelationSet)
      (columns : Option (List String)), arenas.features.items[featureSetId]? = some buffer ∧
        buffer.projectRelations relations none columns = .ok block := by
  obtain ⟨scope, -, h⟩ := bind_eq_ok.mp h
  obtain ⟨_, -, h⟩ := bind_eq_ok.mp h
  obtain ⟨buffer, hbuffer, h⟩ := bind_eq_ok.mp h
  exact ⟨buffer, _, _, require_eq_ok.mp hbuffer, h⟩

/-- In every state that a provider of constructed buffers reaches, the export of a projected block
does not panic and fails only for its texts, a reader rebuilds the block, and the typed projection
serves the block exactly when no column has a null. -/
theorem provider_featureArrow {provider : InMemoryProvider} {envelope : CoordinatorDataPlanEnvelope}
    {featureStore : NumericFeatureBufferStore} {ndTensorStore : NdTensorStore}
    (hbuilt : provider.BuiltFrom envelope featureStore ndTensorStore)
    (hconstructed : ∀ (id : String) (buffer : NumericFeatureBuffer),
      featureStore.buffers[id]? = some buffer → buffer.Constructed)
    (calls : List ProviderCall) (viewHandle : Nat) (featureSetId : String)
    (block : CoordinatorFeatureBlock)
    (hblock : (provider.arenas.run envelope calls).featureBlock viewHandle featureSetId =
      .ok block) :
    ¬ Panics block.buildFeatureArrow ∧
    ((∃ table, block.buildFeatureArrow = .ok table) ↔ block.TextsFit) ∧
    ∀ table, block.buildFeatureArrow = .ok table →
      table.readFeatures block.featureSetId block.representationId = some block ∧
      ((∃ typed, (provider.arenas.run envelope calls).featureBlockF64 viewHandle featureSetId =
          .ok typed) ↔ ∀ column ∈ table.columns, column.nullCount = 0) := by
  obtain ⟨-, hitems, -⟩ := hbuilt.fresh
  obtain ⟨buffer, relations, columns, hbuffer, hprojected⟩ :=
    ProviderArenas.exists_projectRelations hblock
  rw [ProviderArenas.items_run, hitems] at hbuffer
  obtain ⟨-, selected, -, hprojects⟩ :=
    NumericFeatureBuffer.projectRelations_eq_ok.mp hprojected
  have hfinite := (hconstructed _ buffer hbuffer).finite
  have hrect := hprojects.rectangular
  have hcases : ∀ row ∈ block.values, ∀ value ∈ row, value = .null ∨
      ∃ x, value = floatJson x ∧ x.isFinite = true :=
    fun row hrow value hvalue => hprojects.value_cases hfinite hrow hvalue
  have hnumeric : ∀ row ∈ block.values, ∀ value ∈ row, value.IsNumeric :=
    fun row hrow value hvalue =>
      (hcases row hrow value hvalue).imp_right fun ⟨x, hx, _⟩ => ⟨_, hx⟩
  have hexport : block.Exportable ↔ block.TextsFit :=
    ⟨fun h => ⟨h.observationIds, h.sampleIds, h.names⟩,
      fun h => ⟨h.observationIds, h.sampleIds, h.names, hnumeric⟩⟩
  obtain ⟨hpanics, hok, hread⟩ := CoordinatorFeatureBlock.featureArrow_lossless block hrect
  refine ⟨hpanics, hok.trans hexport, fun table htable => ?_⟩
  have hrebuilt := hread table htable fun row hrow value hvalue => by
    rcases hcases row hrow value hvalue with rfl | ⟨x, rfl, hx⟩
    · trivial
    · exact hx
  have hvalues : block.values.map (List.map Json.asFloat) = block.values := by
    have hrow : ∀ row ∈ block.values, row.map Json.asFloat = row := fun row hrow => by
      refine (List.map_congr_left fun value hvalue => ?_).trans (List.map_id row)
      rcases hcases row hrow value hvalue with rfl | ⟨x, rfl, -⟩ <;> rfl
    exact (List.map_congr_left hrow).trans (List.map_id _)
  refine ⟨by rw [hrebuilt, hvalues], ?_⟩
  obtain ⟨hexported, rfl⟩ := (CoordinatorFeatureBlock.buildFeatureArrow_eq_ok hrect).mp htable
  rw [CoordinatorFeatureBlock.nullCount_arrowTable hrect hexported,
    (hbuilt.projectsAlike hconstructed calls viewHandle featureSetId).succeeds, hblock]
  simp

omit [ThirdParty] in
theorem sharedFeatureStore_constructed (id : String) (buffer : NumericFeatureBuffer)
    (hget : sharedFeatureStore.buffers[id]? = some buffer) : buffer.Constructed := by
  have hmem := sharedFeatureStore_buffer.mp hget
  simp only [List.mem_cons, Prod.mk.injEq, List.not_mem_nil, or_false] at hmem
  rcases hmem with ⟨-, rfl⟩ | ⟨-, rfl⟩
  · exact oneColumn_constructed (by decide)
  · exact oneColumn_constructed (by decide)

omit [ThirdParty] in
/-- The view of the training handle serves a block. -/
theorem sharedViewed_block :
    ∃ block, @ProviderArenas.featureBlock sharedDigests sharedViewed 2 "all" = .ok block ∧
      block.TextsFit ∧ block.values ≠ [] ∧
      block.values.length * block.featureNames.length < 2 ^ 64 := by
  let _ := sharedDigests
  have hread : (sharedViewed.featureBlock 2 "all").toOption.any (fun block =>
      decide ((identBytes block.observationIds ≤ i32Max ∧
        identBytes block.sampleIds ≤ i32Max ∧
        ∀ name ∈ block.featureNames, 0 ∉ bytes name) ∧ block.values.isEmpty = false ∧
        block.values.length * block.featureNames.length < 2 ^ 64)) = true := by
    decide +kernel
  obtain ⟨block, hblock, hall⟩ := Option.any_eq_true _ _ |>.mp hread
  obtain ⟨⟨hobservations, hsamples, hnames⟩, hvalues, hsize⟩ := of_decide_eq_true hall
  exact ⟨block, toOption_eq_some.mp hblock, ⟨hobservations, hsamples, hnames⟩,
    List.isEmpty_eq_false_iff.mp hvalues, hsize⟩

omit [ThirdParty] in
theorem sharedViewed_featureArrow :
    ∃ block table, @ProviderArenas.featureBlock sharedDigests sharedViewed 2 "all" = .ok block ∧
      block.buildFeatureArrow = .ok table ∧ block.values ≠ [] ∧
      table.readFeatures block.featureSetId block.representationId = some block := by
  let _ := sharedDigests
  obtain ⟨block, hblock, htexts, hvalues, -⟩ := sharedViewed_block
  obtain ⟨-, hok, hlossless⟩ := provider_featureArrow sharedProvider_built
    sharedFeatureStore_constructed sharedViewedRun 2 "all" block hblock
  obtain ⟨table, htable⟩ := hok.mpr htexts
  exact ⟨block, table, hblock, htable, hvalues, (hlossless table htable).1⟩

end Provider

/-! ## Targets -/

namespace CoordinatorMultiTargetBlock

/-- A block whose values and masks are the parts of cells: a row of them for every target, with a
cell for every sample. A cell is masked exactly when it is null. -/
structure Cells (targets : CoordinatorMultiTargetBlock) (cells : List (List (Json × Bool))) :
    Prop where
  values : targets.values = cells.map (List.map Prod.fst)
  masks : targets.validityMasks = cells.map (List.map Prod.snd)
  rows : cells.length = targets.targetIds.length
  samples : ∀ row ∈ cells, row.length = targets.sampleIds.length
  masked : ∀ row ∈ cells, ∀ cell ∈ row, cell.2 = !cell.1.isNull

/-- What Arrow can hold of a block. -/
structure Exportable (targets : CoordinatorMultiTargetBlock) : Prop where
  sampleIds : identBytes targets.sampleIds ≤ i32Max
  names : ∀ targetId ∈ targets.targetIds, 0 ∉ bytes targetId.value
  numeric : ∀ values ∈ targets.values, ∀ value ∈ values, value.IsNumeric

variable {targets : CoordinatorMultiTargetBlock} {cells : List (List (Json × Bool))}

theorem arrowCell_eq_ok {targetId : TargetId} {entry : Json × Bool} {cell : Option F64}
    (hmasked : entry.2 = !entry.1.isNull) :
    arrowCell targetId entry = .ok cell ↔ entry.1.IsNumeric ∧ cellValue entry.1 = cell := by
  unfold arrowCell
  rw [hmasked, Bool.not_not, Bool.or_self]
  rcases entry with ⟨value, valid⟩
  cases value <;> simp [Json.isNull, Json.IsNumeric, cellValue]

/-- The cells of one row of cells. -/
def rowNumbers (row : List (Json × Bool)) : List (Option F64) :=
  row.map fun cell => cellValue cell.1

theorem Cells.arrowColumn_eq_ok (h : targets.Cells cells) {target : TargetId × Nat}
    {column : ArrowColumn × FieldSchema} : targets.arrowColumn target = .ok column ↔
      ((∃ row, cells[target.2]? = some row ∧ ∀ cell ∈ row, cell.1.IsNumeric) ∧
        0 ∉ bytes target.1.value) ∧
      (.f64 (f64Array (rowNumbers (cells.getD target.2 []))), ⟨target.1.value, "g", true⟩) =
        column := by
  have hformat : 0 ∉ bytes "g" := by decide
  unfold arrowColumn
  rw [h.values, h.masks, List.getElem?_map, List.getElem?_map, List.getD_eq_getElem?_getD]
  cases hrow : cells[target.2]? with
  | none => simp [bind_eq_ok, require]
  | some row =>
    have hmem := List.mem_of_getElem? hrow
    have hcells : ∀ numbers, ((row.map Prod.fst).zip (row.map Prod.snd)).mapM
        (arrowCell target.1) = .ok numbers ↔
          (∀ cell ∈ row, cell.1.IsNumeric) ∧ rowNumbers row = numbers := by
      intro numbers
      have hzip : (row.map Prod.fst).zip (row.map Prod.snd) = row :=
        List.zip_map'.trans (List.map_id row)
      rw [hzip]
      exact mapM_eq_ok_map fun cell hcell _ => arrowCell_eq_ok (h.masked row hmem cell hcell)
    have hlength := h.samples row hmem
    simp only [Option.map_some, require_eq_ok, bind_eq_ok, pure_eq_ok, rejectIf_eq_ok, exists_unit,
      Option.some.injEq, exists_eq_left', hcells, fieldSchema_eq_ok, List.length_map, hlength,
      Option.getD_some, hformat, not_false_eq_true, true_and, bne_self_eq_false, Bool.or_self]
    constructor
    · rintro ⟨_, ⟨hnumeric, rfl⟩, _, ⟨hname, rfl⟩, rfl⟩
      exact ⟨⟨hnumeric, hname⟩, rfl⟩
    · rintro ⟨⟨hnumeric, hname⟩, rfl⟩
      exact ⟨_, ⟨hnumeric, rfl⟩, _, ⟨hname, rfl⟩, rfl⟩

/-- The table of a block. -/
def arrowTable (targets : CoordinatorMultiTargetBlock) : ArrowTable where
  length := targets.sampleIds.length
  columns := .string (textArray (targets.sampleIds.map fun id => some id.value)) ::
    targets.values.map fun values => .f64 (f64Array (values.map cellValue))
  name := "coordinator_multi_target"
  fields := ⟨"sample_id", "u", false⟩ ::
    targets.targetIds.map fun targetId => ⟨targetId.value, "g", true⟩

theorem Cells.buildMultiTargetArrow_eq_ok (h : targets.Cells cells) {table : ArrowTable} :
    targets.buildMultiTargetArrow = .ok table ↔
      targets.Exportable ∧ targets.arrowTable = table := by
  -- The exporter checks each target by its index, and there is a row of cells for each index.
  have hall : (∀ target ∈ targets.targetIds.zipIdx,
      (∃ row, cells[target.2]? = some row ∧ ∀ cell ∈ row, cell.1.IsNumeric) ∧
        0 ∉ bytes target.1.value) ↔
      (∀ targetId ∈ targets.targetIds, 0 ∉ bytes targetId.value) ∧
        ∀ values ∈ targets.values, ∀ value ∈ values, value.IsNumeric := by
    rw [h.values]
    simp only [List.forall_mem_map]
    constructor
    · intro hall
      refine ⟨fun targetId htarget => ?_, fun row hrow cell hcell => ?_⟩
      · obtain ⟨i, hi⟩ := List.getElem?_of_mem htarget
        exact (hall (targetId, i) (List.mem_zipIdx_iff_getElem?.mpr hi)).2
      · obtain ⟨i, hi⟩ := List.getElem?_of_mem hrow
        have hlt : i < targets.targetIds.length := h.rows ▸ (List.getElem?_eq_some_iff.mp hi).1
        obtain ⟨⟨row', hrow', hnumeric⟩, -⟩ := hall (targets.targetIds[i], i)
          (List.mem_zipIdx_iff_getElem?.mpr (List.getElem?_eq_getElem hlt))
        cases hi.symm.trans hrow'
        exact hnumeric cell hcell
    · rintro ⟨hnames, hnumeric⟩ ⟨targetId, i⟩ htarget
      have hget := List.mem_zipIdx_iff_getElem?.mp htarget
      have hlt : i < cells.length := h.rows ▸ (List.getElem?_eq_some_iff.mp hget).1
      exact ⟨⟨cells[i], List.getElem?_eq_getElem hlt, fun cell hcell =>
        hnumeric _ (List.getElem_mem hlt) cell hcell⟩,
          hnames targetId (List.mem_of_getElem? hget)⟩
  have hcolumns : (targets.targetIds.zipIdx.map fun target =>
      ArrowColumn.f64 (f64Array (rowNumbers (cells.getD target.2 [])))) =
      targets.values.map fun values => .f64 (f64Array (values.map cellValue)) := by
    rw [h.values, List.map_map]
    refine List.ext_getElem (by simp [h.rows]) fun i hi hi' => ?_
    rw [List.length_map] at hi'
    simp [rowNumbers, List.getElem?_eq_getElem hi', Function.comp_def]
  have hnames : (targets.targetIds.zipIdx.map fun target =>
      FieldSchema.mk target.1.value "g" true) =
      targets.targetIds.map fun targetId => ⟨targetId.value, "g", true⟩ := by
    have hfst := congrArg (List.map fun targetId : TargetId =>
      FieldSchema.mk targetId.value "g" true)
      (List.zipIdx_map_fst 0 targets.targetIds)
    rwa [List.map_map] at hfst
  have hlengths : targets.values.length = targets.targetIds.length ∧
      targets.validityMasks.length = targets.targetIds.length := by
    rw [h.values, h.masks, List.length_map, List.length_map]
    exact ⟨h.rows, h.rows⟩
  have hsample : 0 ∉ bytes "u" ∧ 0 ∉ bytes "sample_id" := by decide
  have hroot : 0 ∉ bytes "+s" ∧ 0 ∉ bytes "coordinator_multi_target" := by decide
  simp only [buildMultiTargetArrow, bind_eq_ok, rejectIf_eq_ok, exists_unit, hlengths,
    bne_self_eq_false, Bool.or_self, true_and, identArray_eq_ok, fieldSchema_eq_ok, pure_eq_ok,
    mapM_eq_ok_map fun target _ column => h.arrowColumn_eq_ok, hall]
  constructor
  · rintro ⟨_, ⟨hsamples, rfl⟩, _, ⟨-, rfl⟩, _,
      ⟨⟨hnul, hnumeric⟩, rfl⟩, _, ⟨-, rfl⟩, rfl⟩
    refine ⟨⟨hsamples, hnul, hnumeric⟩, ?_⟩
    simp only [arrowTable, List.map_map, Function.comp_def, hcolumns, hnames]
  · rintro ⟨⟨hsamples, hnul, hnumeric⟩, rfl⟩
    refine ⟨_, ⟨hsamples, rfl⟩, _, ⟨hsample, rfl⟩, _, ⟨⟨hnul, hnumeric⟩, rfl⟩,
      _, ⟨hroot, rfl⟩, ?_⟩
    simp only [arrowTable, List.map_map, Function.comp_def, hcolumns, hnames]

/-- A numeric value that fits is read back as a float. -/
theorem cellJson_numeric {value : Json} (hnumeric : value.IsNumeric) (hfits : value.Fits) :
    NumericFeatureBuffer.cellJson (cellValue value) = value.asFloat := by
  refine CoordinatorFeatureTable.cellJson_cellValue ?_
  rcases hnumeric with hnull | ⟨n, hn⟩
  · exact .inl hnull
  · rw [hn] at hfits
    exact .inr ⟨n, hn, hfits⟩

theorem isSome_cellValue {value : Json} (hnumeric : value.IsNumeric) :
    (cellValue value).isSome = !value.isNull := by
  rcases hnumeric with rfl | ⟨n, rfl⟩ <;> rfl

theorem Cells.readTargets_arrowTable (h : targets.Cells cells) (hexport : targets.Exportable)
    (hfits : ∀ values ∈ targets.values, ∀ value ∈ values, value.Fits) :
    targets.arrowTable.readTargets =
      some { targets with values := targets.values.map (List.map Json.asFloat) } := by
  have hcolumns : (targets.values.map fun values =>
      ArrowColumn.f64 (f64Array (values.map cellValue))).mapM ArrowColumn.numbers =
      some (targets.values.map (List.map cellValue)) :=
    mapM_map_eq_some fun values _ => numbers_f64Array _
  have hids : (targets.targetIds.map fun targetId =>
      FieldSchema.mk targetId.value "g" true).mapM
        (fun field => (Ident.new .target field.name).toOption) = some targets.targetIds := by
    refine mapM_map_eq_some_self fun id _ => ?_
    rw [Ident.new_value]
    rfl
  have hvalues : (targets.values.map (List.map cellValue)).map
      (List.map NumericFeatureBuffer.cellJson) = targets.values.map (List.map Json.asFloat) := by
    rw [List.map_map]
    refine List.map_congr_left fun values hrow => ?_
    rw [Function.comp_apply, List.map_map]
    exact List.map_congr_left fun value hvalue =>
      cellJson_numeric (hexport.numeric values hrow value hvalue) (hfits values hrow value hvalue)
  have hmasks : (targets.values.map (List.map cellValue)).map (List.map Option.isSome) =
      targets.validityMasks := by
    rw [h.masks, h.values, List.map_map, List.map_map]
    refine List.map_congr_left fun row hrow => ?_
    rw [Function.comp_apply, Function.comp_apply, List.map_map, List.map_map]
    refine List.map_congr_left fun cell hcell => ?_
    have hnumeric : cell.1.IsNumeric := hexport.numeric (row.map Prod.fst)
      (h.values ▸ List.mem_map_of_mem hrow) _ (List.mem_map_of_mem hcell)
    exact (isSome_cellValue hnumeric).trans (h.masked row hrow cell hcell).symm
  simp only [ArrowTable.readTargets, arrowTable, idents_textArray hexport.sampleIds, hcolumns,
    List.drop_one, List.tail_cons, hids, hvalues, hmasks, Option.bind_eq_bind, Option.bind_some]
  rfl

end CoordinatorMultiTargetBlock

/-- The cells of the block that an arena serves. -/
theorem CoordinatorHandleArena.multiTargetValues_cells {arena : CoordinatorHandleArena}
    {viewHandle : Nat} {tables : List CoordinatorTargetTable} {block : CoordinatorMultiTargetBlock}
    (h : arena.multiTargetValues viewHandle tables = .ok block) :
    ∃ cells, block.Cells cells := by
  simp only [multiTargetValues, bind_eq_ok, pure_eq_ok] at h
  obtain ⟨_, -, _, -, relations, -, _, -, rfl⟩ := h
  refine ⟨_, rfl, rfl, ?_, ?_, ?_⟩
  · rw [List.length_map, List.length_map]
  · rw [List.forall_mem_map]
    exact fun table _ => List.length_map _
  · rw [List.forall_mem_map]
    intro table _
    rw [List.forall_mem_map]
    intro sampleId _
    unfold targetCell
    cases table.valuesBySample[sampleId]? with
    | none => rfl
    | some value =>
      cases hvalue : value.isNull with
      | false => simp [hvalue]
      | true =>
        simp only [hvalue, if_true]
        rfl

namespace CoordinatorTargetBlock

/-- What Arrow can hold of a block. -/
structure Exportable (target : CoordinatorTargetBlock) : Prop where
  sampleIds : identBytes target.sampleIds ≤ i32Max
  targetIds : identBytes (List.replicate target.sampleIds.length target.targetId) ≤ i32Max
  numeric : ∀ value ∈ target.values, ∃ n, value = .number n

variable {target : CoordinatorTargetBlock}

/-- The table of a block. -/
def arrowTable (target : CoordinatorTargetBlock) : ArrowTable where
  length := target.sampleIds.length
  columns :=
    [.string (textArray (target.sampleIds.map fun id => some id.value)),
      .string (textArray ((List.replicate target.sampleIds.length target.targetId).map
        fun id => some id.value)),
      .f64 (f64Array (target.values.map cellValue))]
  name := "coordinator_target"
  fields := [⟨"sample_id", "u", false⟩, ⟨"target_id", "u", false⟩, ⟨"value", "g", true⟩]

theorem buildTargetArrow_eq_ok {table : ArrowTable} :
    target.buildTargetArrow = .ok table ↔ target.Exportable ∧ target.arrowTable = table := by
  have hfields : (0 ∉ bytes "u" ∧ 0 ∉ bytes "sample_id") ∧
    (0 ∉ bytes "u" ∧ 0 ∉ bytes "target_id") ∧
      (0 ∉ bytes "g" ∧ 0 ∉ bytes "value") ∧ 0 ∉ bytes "+s" ∧
        0 ∉ bytes "coordinator_target" := by
    decide
  have hcells : ∀ numbers, (target.values.mapM fun value =>
      match value with
      | .number number => .ok (some number.asF64)
      | _ => .error (.validation
          s!"target `{target.targetId}` Arrow smoke only supports numeric values") :
        Result (List (Option F64))) = .ok numbers ↔
      (∀ value ∈ target.values, ∃ n, value = .number n) ∧
        target.values.map cellValue = numbers :=
    fun numbers => mapM_eq_ok_map fun value _ cell => by cases value <;> simp [cellValue]
  simp only [buildTargetArrow, bind_eq_ok, hcells, identArray_eq_ok, fieldSchema_eq_ok, pure_eq_ok]
  constructor
  · rintro ⟨_, ⟨hnumeric, rfl⟩, _, ⟨hsamples, rfl⟩, _, ⟨htargets, rfl⟩, _,
      ⟨-, rfl⟩, _, ⟨-, rfl⟩, _,
      ⟨-, rfl⟩, _, ⟨-, rfl⟩, rfl⟩
    exact ⟨⟨hsamples, htargets, hnumeric⟩, rfl⟩
  · rintro ⟨⟨hsamples, htargets, hnumeric⟩, rfl⟩
    exact ⟨_, ⟨hnumeric, rfl⟩, _, ⟨hsamples, rfl⟩, _, ⟨htargets, rfl⟩, _,
      ⟨hfields.1, rfl⟩, _,
      ⟨hfields.2.1, rfl⟩, _, ⟨hfields.2.2.1, rfl⟩, _, ⟨hfields.2.2.2, rfl⟩, rfl⟩

theorem readTarget_arrowTable (hexport : target.Exportable) (hne : target.sampleIds ≠ [])
    (hfits : ∀ value ∈ target.values, value.Fits) :
    target.arrowTable.readTarget =
      some { target with values := target.values.map Json.asFloat } := by
  have hhead : (List.replicate target.sampleIds.length target.targetId).head? =
      some target.targetId := by
    cases hsamples : target.sampleIds with
    | nil => exact absurd hsamples hne
    | cons sampleId sampleIds => rfl
  have hvalues : (target.values.map cellValue).map NumericFeatureBuffer.cellJson =
      target.values.map Json.asFloat := by
    rw [List.map_map]
    exact List.map_congr_left fun value hvalue =>
      CoordinatorMultiTargetBlock.cellJson_numeric (.inr (hexport.numeric value hvalue))
        (hfits value hvalue)
  simp only [ArrowTable.readTarget, arrowTable, idents_textArray hexport.sampleIds,
    idents_textArray hexport.targetIds, hhead, numbers_f64Array, hvalues, Option.bind_eq_bind,
    Option.bind_some]
  rfl

end CoordinatorTargetBlock

/-- The targets that an arena serves for a view, one of them or several: the export succeeds when
the texts and the values fit, and a reader rebuilds the block, with its masks, and with its numbers
as floats. -/
theorem targetArrow_lossless (arena : CoordinatorHandleArena) (viewHandle : Nat) :
    (∀ table target, arena.targetValues viewHandle table = .ok target →
      ((∃ arrow, target.buildTargetArrow = .ok arrow) ↔ target.Exportable) ∧
      ∀ arrow, target.buildTargetArrow = .ok arrow →
        (∀ value ∈ target.values, value.Fits) →
        arrow.readTarget = some { target with values := target.values.map Json.asFloat }) ∧
    ∀ tables targets, arena.multiTargetValues viewHandle tables = .ok targets →
      ((∃ arrow, targets.buildMultiTargetArrow = .ok arrow) ↔ targets.Exportable) ∧
      ∀ arrow, targets.buildMultiTargetArrow = .ok arrow →
        (∀ values ∈ targets.values, ∀ value ∈ values, value.Fits) →
        arrow.readTargets =
          some { targets with values := targets.values.map (List.map Json.asFloat) } := by
  refine ⟨fun table target htarget => ?_, fun tables targets htargets => ?_⟩
  · simp only [CoordinatorTargetBlock.buildTargetArrow_eq_ok]
    refine ⟨⟨fun ⟨_, hexport, _⟩ => hexport, fun hexport => ⟨_, hexport, rfl⟩⟩, ?_⟩
    rintro arrow ⟨hexport, rfl⟩ hfits
    obtain ⟨_, _, h⟩ := bind_eq_ok.mp htarget
    obtain ⟨relations, hlive, -⟩ := bind_eq_ok.mp h
    obtain ⟨-, -, hne, -⟩ := CoordinatorHandleArena.targetValues_eq_ok hlive htarget
    exact CoordinatorTargetBlock.readTarget_arrowTable hexport hne hfits
  · obtain ⟨cells, hcells⟩ := CoordinatorHandleArena.multiTargetValues_cells htargets
    simp only [hcells.buildMultiTargetArrow_eq_ok]
    refine ⟨⟨fun ⟨_, hexport, _⟩ => hexport, fun hexport => ⟨_, hexport, rfl⟩⟩, ?_⟩
    rintro arrow ⟨hexport, rfl⟩ hfits
    exact hcells.readTargets_arrowTable hexport hfits

/-- A value for each sample of the view, which is served alone and together with a table that has
one of them. -/
def twoValueTable : CoordinatorTargetTable :=
  ⟨.lit "B" rfl, [⟨.lit "s1" rfl, .number (.int 42)⟩,
    ⟨.lit "s9" rfl, .number (.int 7)⟩]⟩

/-- Null, or an integer of 32 bits. -/
def isSmallNumber : Json → Bool
  | .null => true
  | .number (.int n) => decide (0 ≤ n ∧ n < 2 ^ 32)
  | _ => false

theorem fits_of_isSmallNumber {value : Json} (h : isSmallNumber value = true) :
    value.IsNumeric ∧ value.Fits := by
  cases value with
  | null => exact ⟨.inl rfl, trivial⟩
  | number n =>
    cases n with
    | int n =>
      have hrange := of_decide_eq_true h
      exact ⟨.inr ⟨_, rfl⟩, by rw [Json.Fits, JsonNumber.Fits]; omega⟩
    | float x => cases h
  | bool | string | array | object => cases h

theorem twoValueTable_lossless :
    (∃ target arrow, CoordinatorHandleArena.oneViewArena.targetValues 4 twoValueTable =
      .ok target ∧
      target.buildTargetArrow = .ok arrow ∧ arrow.readTarget =
        some { target with values := target.values.map Json.asFloat }) ∧
    ∃ targets arrow, CoordinatorHandleArena.oneViewArena.multiTargetValues 4
        [CoordinatorHandleArena.oneValueTable, twoValueTable] = .ok targets ∧
      targets.buildMultiTargetArrow = .ok arrow ∧ arrow.readTargets =
        some { targets with values := targets.values.map (List.map Json.asFloat) } := by
  obtain ⟨hsingle, hmulti⟩ := targetArrow_lossless CoordinatorHandleArena.oneViewArena 4
  constructor
  · have hserved : (CoordinatorHandleArena.oneViewArena.targetValues 4 twoValueTable).toOption.any
        (fun target => decide (identBytes target.sampleIds ≤ i32Max ∧
          identBytes (List.replicate target.sampleIds.length target.targetId) ≤ i32Max ∧
          ∀ value ∈ target.values, isSmallNumber value = true ∧
            value.isNull = false)) = true := by
      decide +kernel
    obtain ⟨target, htarget, hall⟩ := Option.any_eq_true _ _ |>.mp hserved
    rw [toOption_eq_some] at htarget
    obtain ⟨hsamples, htargets, hvalues⟩ := of_decide_eq_true hall
    obtain ⟨hok, hread⟩ := hsingle twoValueTable target htarget
    obtain ⟨arrow, harrow⟩ := hok.mpr ⟨hsamples, htargets, fun value hvalue => by
      obtain ⟨hsmall, hnull⟩ := hvalues value hvalue
      rcases (fits_of_isSmallNumber hsmall).1 with rfl | hnumber
      · cases hnull
      · exact hnumber⟩
    exact ⟨target, arrow, htarget, harrow, hread arrow harrow fun value hvalue =>
      (fits_of_isSmallNumber (hvalues value hvalue).1).2⟩
  · have hserved : (CoordinatorHandleArena.oneViewArena.multiTargetValues 4
        [CoordinatorHandleArena.oneValueTable, twoValueTable]).toOption.any
        (fun targets => decide (identBytes targets.sampleIds ≤ i32Max ∧
          (∀ targetId ∈ targets.targetIds, 0 ∉ bytes targetId.value) ∧
          ∀ values ∈ targets.values, ∀ value ∈ values, isSmallNumber value = true)) =
            true := by
      decide +kernel
    obtain ⟨targets, htargets, hall⟩ := Option.any_eq_true _ _ |>.mp hserved
    rw [toOption_eq_some] at htargets
    obtain ⟨hsamples, hnames, hvalues⟩ := of_decide_eq_true hall
    obtain ⟨hok, hread⟩ := hmulti _ targets htargets
    obtain ⟨arrow, harrow⟩ := hok.mpr ⟨hsamples, hnames, fun values hrow value hvalue =>
      (fits_of_isSmallNumber (hvalues values hrow value hvalue)).1⟩
    exact ⟨targets, arrow, htargets, harrow, hread arrow harrow fun values hrow value hvalue =>
      (fits_of_isSmallNumber (hvalues values hrow value hvalue)).2⟩

end DagMlData
