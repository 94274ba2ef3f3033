import DagMlData.Coordinates
import DagMlData.Ids

/-!
# Dataset schemas

What a dataset declares before any data is read: its samples, the sources with their native
representations, targets and metadata, groups and folds. `DatasetSchema.validate` is the
validator of `model.rs`.

`DatasetSchema.Accepted` is what later results use of an accepted schema: no identifier is
declared twice, and every representation passed its own check.
-/

namespace DagMlData

open Guard RustText

inductive AxisKind
  | sample
  | feature
  | processing
  | time
  | height
  | width
  | channel
  | node
  | edge
  | variant
  | token
  | target
  | wavelength
  | wavenumber
  | frequency
  | depth
deriving DecidableEq, Repr

structure AxisSpec where
  name : String
  kind : AxisKind
  unit : Option String
  size : Option Nat
  isVariable : Bool
  coordinate : Option CoordinateSpec

inductive SignalKind
  | absorbance
  | reflectance
  | transmittance
  | logReflectance
  | preprocessed
  | unknown
deriving DecidableEq, Repr

structure AxisSizeContract where
  exactSize : Option Nat
  min : Option Nat
  max : Option Nat
deriving DecidableEq, Repr

structure ShapeContract where
  rank : Option Nat
  axisSizes : BTreeMap String AxisSizeContract
  allowRagged : Bool

structure RepresentationSpec where
  id : RepresentationId
  typeId : TypeId
  rank : Option Nat
  axes : List AxisSpec
  container : String
  dtype : Option String
  sparse : Bool
  ragged : Bool
  signalType : Option SignalKind

inductive SourceGranularity
  | perSample
  | perSampleRepeated
  | perSampleSequence
  | perSampleSet
  | perGroup
  | perTarget
deriving DecidableEq, Repr

structure SourceDescriptor where
  id : SourceId
  name : String
  typeId : TypeId
  modality : String
  nativeRepresentation : RepresentationSpec
  sampleKey : String
  granularity : SourceGranularity
  schema : BTreeMap String Json
  tags : BTreeMap String Json
  shapeContract : Option ShapeContract

inductive MetadataValueKind
  | string
  | number
  | integer
  | boolean
  | date
  | datetime
  | categorical
  | json
deriving DecidableEq, Repr

structure MetadataFieldSpec where
  kind : MetadataValueKind
  required : Bool
  unit : Option String
  allowedValues : List Json
  description : Option String

structure MetadataSchema where
  fields : BTreeMap String MetadataFieldSpec

inductive GroupKind
  | repetitionGroup
  | subject
  | batch
  | split
  | custom
deriving DecidableEq, Repr

structure GroupSpec where
  id : GroupId
  kind : GroupKind
  column : String
  sourceId : Option SourceId
  strict : Bool
  metadata : BTreeMap String Json

structure FoldSpec where
  id : String
  groupId : Option GroupId
  splitColumn : Option String
  metadata : BTreeMap String Json

structure DatasetSchema where
  datasetId : String
  sampleIds : List SampleId
  sources : List SourceDescriptor
  targets : BTreeMap TargetId RepresentationSpec
  metadata : BTreeMap String RepresentationSpec
  metadataSchema : Option MetadataSchema
  groups : List GroupSpec
  folds : List FoldSpec

/-! ## Representations -/

section Validation
variable [ThirdParty]

def AxisSpec.validate (axis : AxisSpec) : Result Unit := do
  rejectIf (isBlank axis.name) (.validation "axis name is empty")
  rejectIf (axis.isVariable && axis.size.isSome)
    (.validation s!"axis `{axis.name}` cannot be both variable and sized")
  whenSome axis.unit fun unit =>
    rejectIf (isBlank unit) (.validation s!"axis `{axis.name}` has an empty unit")
  whenSome axis.coordinate fun coordinate =>
    coordinate.validate axis.name axis.size axis.isVariable

namespace AxisSizeContract

def validate (contract : AxisSizeContract) (axisName : String) : Result Unit := do
  rejectIf (contract.exactSize.isNone && contract.min.isNone && contract.max.isNone)
    (.validation s!"shape contract for axis `{axisName}` does not constrain the size")
  whenSome contract.min fun min => whenSome contract.max fun max =>
    rejectIf (min > max) (.validation
      s!"shape contract for axis `{axisName}` has min {min} greater than max {max}")
  whenSome contract.exactSize fun exactSize => do
    whenSome contract.min fun min =>
      rejectIf (exactSize < min) (.validation
        s!"shape contract for axis `{axisName}` exact size {exactSize} is below min {min}")
    whenSome contract.max fun max =>
      rejectIf (exactSize > max) (.validation
        s!"shape contract for axis `{axisName}` exact size {exactSize} is above max {max}")

def accepts (contract : AxisSizeContract) (size : Nat) : Bool :=
  !contract.exactSize.any (size != ·) && !contract.min.any (size < ·) &&
    !contract.max.any (size > ·)

end AxisSizeContract

/-- `{:?}` of an optional number. -/
def debugOption : Option Nat → String
  | some n => s!"Some({n})"
  | none => "None"

namespace ShapeContract

def validate (contract : ShapeContract) : Result Unit := do
  rejectIf (contract.rank.isNone && contract.axisSizes.isEmpty)
    (.validation "shape contract must constrain rank or at least one axis")
  forM contract.axisSizes.toList fun entry => do
    rejectIf (isBlank entry.1) (.validation "shape contract contains an empty axis name")
    entry.2.validate entry.1

def validateRepresentation (contract : ShapeContract) (sourceId : SourceId)
    (representation : RepresentationSpec) : Result Unit := do
  contract.validate
  whenSome contract.rank fun expectedRank =>
    rejectIf (representation.rank != some expectedRank) (.validation
      (s!"source `{sourceId}` shape contract expects rank {expectedRank} but representation " ++
        s!"`{representation.id}` has {debugOption representation.rank}"))
  rejectIf (representation.ragged && !contract.allowRagged) (.validation
    (s!"source `{sourceId}` shape contract does not allow ragged representation " ++
      s!"`{representation.id}`"))
  forM contract.axisSizes.toList fun entry => do
    let axis ← require (representation.axes.find? fun axis => axis.name == entry.1) (.validation
      s!"source `{sourceId}` shape contract references missing axis `{entry.1}`")
    match axis.size with
    | some size => rejectIf (!entry.2.accepts size) (.validation
        s!"source `{sourceId}` axis `{entry.1}` size {size} violates shape contract")
    | none => rejectIf (!axis.isVariable) (.validation
        s!"source `{sourceId}` axis `{entry.1}` has no concrete size for shape contract")

end ShapeContract

def RepresentationSpec.validate (representation : RepresentationSpec) : Result Unit := do
  rejectIf (isBlank representation.container)
    (.validation s!"representation `{representation.id}` has an empty container")
  rejectIf (representation.rank.isNone && !representation.ragged)
    (.validation s!"representation `{representation.id}` with no rank must be ragged")
  whenSome representation.rank fun rank =>
    rejectIf (representation.axes.length != rank) (.validation
      (s!"representation `{representation.id}` has rank {rank} but " ++
        s!"{representation.axes.length} axes"))
  forM representation.axes AxisSpec.validate
  rejectIf (representation.container != "graph_batch" &&
      !representation.axes.any fun axis => axis.kind == .sample)
    (.validation s!"representation `{representation.id}` has no sample axis")

/-! ## The parts of a schema -/

def SourceDescriptor.validate (source : SourceDescriptor) : Result Unit := do
  rejectIf (isBlank source.name) (.validation s!"source `{source.id}` has an empty name")
  rejectIf (isBlank source.sampleKey)
    (.validation s!"source `{source.id}` has an empty sample key")
  source.nativeRepresentation.validate
  whenSome source.shapeContract fun contract =>
    contract.validateRepresentation source.id source.nativeRepresentation

def MetadataFieldSpec.validate (field : MetadataFieldSpec) (fieldName : String) : Result Unit := do
  rejectIf (field.kind == .categorical && field.allowedValues.isEmpty) (.validation
    s!"metadata field `{fieldName}` is categorical but declares no allowed_values")
  whenSome field.unit fun unit =>
    rejectIf (isBlank unit) (.validation s!"metadata field `{fieldName}` has an empty unit")

def MetadataSchema.validate (schema : MetadataSchema) : Result Unit := do
  rejectIf schema.fields.isEmpty (.validation "metadata schema declares no fields")
  forM schema.fields.toList fun entry => do
    rejectIf (isBlank entry.1) (.validation "metadata schema contains an empty field name")
    entry.2.validate entry.1

def GroupSpec.validate (group : GroupSpec) : Result Unit := do
  rejectIf (isBlank group.column) (.validation s!"group `{group.id}` has an empty column")
  forM group.metadata.keys fun key =>
    rejectIf (isBlank key) (.validation s!"group `{group.id}` metadata contains an empty key")

def FoldSpec.validate (fold : FoldSpec) : Result Unit := do
  rejectIf (isBlank fold.id) (.validation "fold id is empty")
  rejectIf (fold.groupId.isNone && fold.splitColumn.isNone)
    (.validation s!"fold `{fold.id}` declares neither group_id nor split_column")
  whenSome fold.splitColumn fun splitColumn =>
    rejectIf (isBlank splitColumn) (.validation s!"fold `{fold.id}` has an empty split_column")
  forM fold.metadata.keys fun key =>
    rejectIf (isBlank key) (.validation s!"fold `{fold.id}` metadata contains an empty key")

/-! ## Schemas -/

/-- The loop over the sources, the groups or the folds: a repeated identifier is refused before
the element is checked. The result has the identifiers. -/
def checkUnique {α κ : Type} [Ord κ] [Std.TransOrd κ] (id : α → κ)
    (repeated : α → DataError)
    (check : α → Result Unit) (xs : List α) : Result (BTreeSet κ) :=
  xs.foldlM (fun ids x => do
    rejectIf (ids.contains (id x)) (repeated x)
    check x
    pure (ids.insert (id x))) ∅

def DatasetSchema.validate (schema : DatasetSchema) : Result Unit := do
  rejectIf (isBlank schema.datasetId) (.validation "dataset id must not be empty")
  rejectIf schema.sampleIds.isEmpty
    (.validation "dataset schema must contain at least one sample")
  rejectIf (hasRepeats schema.sampleIds)
    (.validation "dataset schema contains duplicate sample ids")
  let sourceIds ← checkUnique (·.id)
    (fun source => .validation s!"duplicate source id `{source.id}`")
    SourceDescriptor.validate schema.sources
  forM schema.targets.toList fun entry => entry.2.validate
  forM schema.metadata.toList fun entry => entry.2.validate
  whenSome schema.metadataSchema MetadataSchema.validate
  let groupIds ← checkUnique (·.id)
    (fun group => .validation s!"duplicate group id `{group.id}`")
    (fun group => do
      whenSome group.sourceId fun sourceId =>
        rejectIf (!sourceIds.contains sourceId) (.validation
          s!"group `{group.id}` references unknown source `{sourceId}`")
      group.validate) schema.groups
  let _ ← checkUnique (·.id)
    (fun fold => .validation s!"duplicate fold id `{fold.id}`")
    (fun fold => do
      whenSome fold.groupId fun groupId =>
        rejectIf (!groupIds.contains groupId) (.validation
          s!"fold `{fold.id}` references unknown group `{groupId}`")
      fold.validate) schema.folds
  pure ()

/-! ## Accepted schemas -/

omit [ThirdParty] in
/-- The loop accepts lists of distinct identifiers whose elements pass their check. -/
theorem checkUnique_eq_ok {α κ : Type} [Ord κ] [Std.TransOrd κ] [Std.LawfulEqOrd κ]
    [DecidableEq κ] {id : α → κ} {repeated : α → DataError}
    {check : α → Result Unit} {xs : List α}
    {ids : BTreeSet κ} :
    checkUnique id repeated check xs = .ok ids ↔
      (xs.map id).Nodup ∧ (∀ x ∈ xs, check x = .ok ()) ∧
        ids = BTreeSet.collect (xs.map id) := by
  induction xs using List.reverseRecOn generalizing ids with
  | nil =>
    have hstart : (∅ : BTreeSet κ) = ids ↔ ids = ∅ := eq_comm
    simp [checkUnique, BTreeSet.collect, pure_eq_ok, hstart]
  | append_singleton xs x ih =>
    have hinsert : BTreeSet.collect ((xs ++ [x]).map id) =
        (BTreeSet.collect (xs.map id)).insert (id x) := by
      refine Std.ExtTreeSet.ext_mem fun k => ?_
      rw [BTreeSet.mem_collect, BTreeSet.mem_insert_iff, BTreeSet.mem_collect, List.map_append,
        List.mem_append, List.map_singleton, List.mem_singleton, or_comm]
    have hstep : checkUnique id repeated check (xs ++ [x]) = .ok ids ↔
        ∃ seen, checkUnique id repeated check xs = .ok seen ∧
          id x ∉ seen ∧ check x = .ok () ∧
          ids = seen.insert (id x) := by
      simp only [checkUnique, List.foldlM_append, List.foldlM_cons, List.foldlM_nil, bind_eq_ok,
        exists_unit, rejectIf_eq_ok, pure_eq_ok, BTreeSet.contains_eq_false]
      constructor
      · rintro ⟨seen, hseen, _, ⟨hnew, hcheck, rfl⟩, rfl⟩
        exact ⟨seen, hseen, hnew, hcheck, rfl⟩
      · rintro ⟨seen, hseen, hnew, hcheck, rfl⟩
        exact ⟨seen, hseen, _, ⟨hnew, hcheck, rfl⟩, rfl⟩
    have hnodup : ((xs ++ [x]).map id).Nodup ↔ (xs.map id).Nodup ∧ id x ∉ xs.map id := by
      rw [List.map_append, List.map_singleton, ← List.concat_eq_append,
        List.nodup_concat, and_comm]
    rw [hstep, hinsert, hnodup, List.forall_mem_append, List.forall_mem_singleton]
    constructor
    · rintro ⟨seen, hseen, hnew, hcheck, rfl⟩
      obtain ⟨hdistinct, hchecks, rfl⟩ := ih.mp hseen
      rw [BTreeSet.mem_collect] at hnew
      exact ⟨⟨hdistinct, hnew⟩, ⟨hchecks, hcheck⟩, rfl⟩
    · rintro ⟨⟨hdistinct, hnew⟩, ⟨hchecks, hcheck⟩, rfl⟩
      refine ⟨_, ih.mpr ⟨hdistinct, hchecks, rfl⟩, ?_, hcheck, rfl⟩
      rwa [BTreeSet.mem_collect]

/-- The start and the step of a regular grid are finite. -/
def CoordinateSpec.FiniteGrid (spec : CoordinateSpec) : Prop :=
  ∀ start step, spec.values = .regularGrid start step →
    start.isFinite = true ∧ step.isFinite = true

def AxisSpec.FiniteGrid (axis : AxisSpec) : Prop :=
  ∀ coordinate, axis.coordinate = some coordinate → coordinate.FiniteGrid

def RepresentationSpec.FiniteGrids (representation : RepresentationSpec) : Prop :=
  ∀ axis ∈ representation.axes, axis.FiniteGrid

theorem CoordinateSpec.finiteGrid_of_validate {spec : CoordinateSpec} {axisName : String}
    {size : Option Nat} {isVariable : Bool} (h : spec.validate axisName size isVariable = .ok ()) :
    spec.FiniteGrid := by
  intro start step hvalues
  unfold validate at h
  rw [hvalues] at h
  simp only [bind_eq_ok, exists_unit, rejectIf_eq_ok, Bool.or_eq_false_iff,
    Bool.not_eq_false'] at h
  exact h.2.2.2.1

theorem RepresentationSpec.finiteGrids_of_validate {representation : RepresentationSpec}
    (h : representation.validate = .ok ()) : representation.FiniteGrids := by
  intro axis haxis coordinate hcoordinate
  simp only [validate, bind_eq_ok, exists_unit, forM_eq_ok] at h
  have hvalid := h.2.2.2.1 axis haxis
  simp only [AxisSpec.validate, bind_eq_ok, exists_unit, whenSome_eq_ok] at hvalid
  exact CoordinateSpec.finiteGrid_of_validate (hvalid.2.2.2 coordinate hcoordinate)

namespace DatasetSchema

/-- What later results use of an accepted schema. -/
structure Accepted (schema : DatasetSchema) : Prop where
  sampleIds : schema.sampleIds.Nodup
  sources : (schema.sources.map (·.id)).Nodup
  groups : (schema.groups.map (·.id)).Nodup
  folds : (schema.folds.map (·.id)).Nodup
  native : ∀ source ∈ schema.sources, source.nativeRepresentation.FiniteGrids
  targets : ∀ entry ∈ schema.targets.toList, entry.2.FiniteGrids
  metadata : ∀ entry ∈ schema.metadata.toList, entry.2.FiniteGrids

theorem accepted_of_validate {schema : DatasetSchema} (h : schema.validate = .ok ()) :
    schema.Accepted := by
  simp only [validate, bind_eq_ok, exists_unit, rejectIf_eq_ok, hasRepeats_eq_false,
    checkUnique_eq_ok, forM_eq_ok] at h
  obtain ⟨-, -, hsamples, _, ⟨hsources, hnative, rfl⟩, htargets, hmetadata, -, _,
    ⟨hgroups, -, rfl⟩, _, ⟨hfolds, -, rfl⟩, -⟩ := h
  refine ⟨hsamples, hsources, hgroups, hfolds, fun source hsource => ?_, fun entry hentry => ?_,
    fun entry hentry => ?_⟩
  · have hvalid := hnative source hsource
    simp only [SourceDescriptor.validate, bind_eq_ok, exists_unit] at hvalid
    exact RepresentationSpec.finiteGrids_of_validate hvalid.2.2.1
  · exact RepresentationSpec.finiteGrids_of_validate (htargets entry hentry)
  · exact RepresentationSpec.finiteGrids_of_validate (hmetadata entry hentry)

end DatasetSchema

end Validation

end DagMlData
