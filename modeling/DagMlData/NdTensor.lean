import DagMlData.Buffer
import DagMlData.FeatureTable

/-!
# N-D tensors

The tensor storage of `nd_tensor.rs`: row-major bytes whose first axis is the observation, with
one row of bytes for each of them.

* `NdTensor.fromInput`: the only constructor. `NdTensor.Built` is what it establishes.
* `NdTensor.projectRelations`: the rows of the records, in their order.
-/

namespace DagMlData

open Guard RustText

inductive NdTensorDType
  | f64
  | f32
  | u8
  | i32
  | bool
deriving DecidableEq, Repr

namespace NdTensorDType

def elementSize : NdTensorDType → Nat
  | f64 => 8
  | f32 => 4
  | u8 => 1
  | i32 => 4
  | bool => 1

def fingerprintTag : NdTensorDType → Nat
  | f64 => 1
  | f32 => 2
  | u8 => 3
  | i32 => 4
  | bool => 5

/-- The name in the errors. -/
def debugName : NdTensorDType → String
  | f64 => "F64"
  | f32 => "F32"
  | u8 => "U8"
  | i32 => "I32"
  | bool => "Bool"

theorem fingerprintTag_injective : Function.Injective fingerprintTag := by
  intro a b h
  cases a <;> cases b <;> first | rfl | cases h

theorem elementSize_pos (dtype : NdTensorDType) : 0 < dtype.elementSize := by
  cases dtype <;> decide

end NdTensorDType

/-- `ND_TENSOR_MAX_RANK`. -/
def ndTensorMaxRank : Nat := 16

structure NdTensorInput where
  tensorId : String
  representationId : RepresentationId
  container : String
  dtype : NdTensorDType
  shape : List Nat
  observationIds : List ObservationId
  sampleIds : Option (List SampleId)
  data : List UInt8
  rowPresence : Option (List Bool)

structure NdTensor where
  tensorId : String
  representationId : RepresentationId
  container : String
  dtype : NdTensorDType
  shape : List Nat
  observationIds : List ObservationId
  data : List UInt8
  rowPresence : Option (List Bool)
  rowIndexByObservation : BTreeMap ObservationId Nat
  rowStrideBytes : Nat

structure NdTensorBlock where
  tensorId : String
  representationId : RepresentationId
  container : String
  dtype : NdTensorDType
  shape : List Nat
  observationIds : List ObservationId
  sampleIds : List SampleId
  data : List UInt8
  rowPresence : Option (List Bool)

/-- `checked_shape_product`. -/
def checkedShapeProduct (tensorId : String) (shape : List Nat) : Result Nat :=
  shape.foldlM (fun product dim => require (checkedMul product dim)
    (.validation s!"nd tensor `{tensorId}` shape product overflows usize")) 1

/-- A shape as the errors print it. -/
def shapeText (shape : List Nat) : String :=
  "[" ++ String.intercalate ", " (shape.map toString) ++ "]"

namespace NdTensor

/-- `from_input`. -/
def fromInput (input : NdTensorInput) : Result NdTensor := do
  rejectIf (isBlank input.tensorId) (.validation "nd tensor has an empty tensor id")
  rejectIf (isBlank input.container)
    (.validation s!"nd tensor `{input.tensorId}` has an empty container")
  rejectIf (input.shape.isEmpty || decide (input.shape.length > ndTensorMaxRank))
    (.validation (s!"nd tensor `{input.tensorId}` rank {input.shape.length} is not in " ++
      s!"1..={ndTensorMaxRank}"))
  rejectIf (input.shape.contains 0)
    (.validation (s!"nd tensor `{input.tensorId}` has a zero dimension in shape " ++
      shapeText input.shape))
  let rowCount := input.shape.headD 0
  rejectIf (input.observationIds.length != rowCount)
    (.validation (s!"nd tensor `{input.tensorId}` has {input.observationIds.length} observation " ++
      s!"ids for axis-0 size {rowCount}"))
  rejectIf input.observationIds.isEmpty
    (.validation s!"nd tensor `{input.tensorId}` has no observations")
  rejectRepeats (fun observationId => .validation
    s!"nd tensor `{input.tensorId}` has duplicate observation `{observationId}`")
    input.observationIds
  whenSome input.sampleIds fun sampleIds =>
    rejectIf (sampleIds.length != rowCount)
      (.validation (s!"nd tensor `{input.tensorId}` has {sampleIds.length} sample ids for " ++
        s!"axis-0 size {rowCount}"))
  let totalElements ← checkedShapeProduct input.tensorId input.shape
  let expectedBytes ← require (checkedMul totalElements input.dtype.elementSize)
    (.validation s!"nd tensor `{input.tensorId}` byte size overflows usize")
  rejectIf (input.data.length != expectedBytes)
    (.validation (s!"nd tensor `{input.tensorId}` has {input.data.length} data bytes for shape " ++
      s!"{shapeText input.shape} dtype {input.dtype.debugName} ({expectedBytes} expected)"))
  rejectIf (input.dtype == .bool && input.data.any (· > 1))
    (.validation (s!"nd tensor `{input.tensorId}` bool payload contains a byte that is not " ++
      "0 or 1"))
  whenSome input.rowPresence fun rowPresence =>
    rejectIf (rowPresence.length != rowCount)
      (.validation (s!"nd tensor `{input.tensorId}` row presence has {rowPresence.length} flags " ++
        s!"for axis-0 size {rowCount}"))
  pure {
    tensorId := input.tensorId
    representationId := input.representationId
    container := input.container
    dtype := input.dtype
    shape := input.shape
    observationIds := input.observationIds
    data := input.data
    rowPresence := input.rowPresence
    rowIndexByObservation := rowIndex input.observationIds
    rowStrideBytes := expectedBytes / rowCount }

variable (tensor : NdTensor)

def containsObservation (observationId : ObservationId) : Bool :=
  tensor.rowIndexByObservation.contains observationId

/-- The bytes of a row. -/
def rowBytes (rowIdx : Nat) : List UInt8 :=
  (tensor.data.drop (rowIdx * tensor.rowStrideBytes)).take tensor.rowStrideBytes

/-- `NdTensor::project_relations`. -/
def projectRelations (relations : CoordinatorRelationSet) (sourceId : Option SourceId) :
    Result NdTensorBlock := do
  relations.validate
  let records := relations.records.filter (·.inScope sourceId)
  let rows ← records.mapM fun r => require tensor.rowIndexByObservation[r.observationId]?
    (.validation (s!"nd tensor `{tensor.tensorId}` has no row for observation " ++
      s!"`{r.observationId}`"))
  pure {
    tensorId := tensor.tensorId
    representationId := tensor.representationId
    container := tensor.container
    dtype := tensor.dtype
    shape := tensor.shape.set 0 records.length
    observationIds := records.map (·.observationId)
    sampleIds := records.map (·.sampleId)
    data := rows.flatMap tensor.rowBytes
    rowPresence := tensor.rowPresence.map fun rowPresence =>
      rows.map fun rowIdx => rowPresence.getD rowIdx false }

/-! ## What the constructor establishes -/

/-- What `from_input` establishes. -/
structure Built (tensor : NdTensor) : Prop where
  tensorId : isBlank tensor.tensorId = false
  container : isBlank tensor.container = false
  rank : tensor.shape ≠ [] ∧ tensor.shape.length ≤ ndTensorMaxRank
  positive : 0 ∉ tensor.shape
  rowCount : tensor.observationIds.length = tensor.shape.headD 0
  observed : tensor.observationIds ≠ []
  observationsNodup : tensor.observationIds.Nodup
  size : tensor.data.length = tensor.shape.prod * tensor.dtype.elementSize
  fits : tensor.data.length < u64Size
  booleans : tensor.dtype = .bool → ∀ byte ∈ tensor.data, byte ≤ 1
  presence : ∀ rowPresence, tensor.rowPresence = some rowPresence →
    rowPresence.length = tensor.observationIds.length
  index : tensor.rowIndexByObservation = rowIndex tensor.observationIds
  stride : tensor.data.length = tensor.observationIds.length * tensor.rowStrideBytes

theorem checkedShapeProduct_eq_ok {tensorId : String} {shape : List Nat} {product : Nat}
    (h : checkedShapeProduct tensorId shape = .ok product) : product = shape.prod := by
  refine foldlM_ok_induction (P := fun pre b => b = pre.prod) (by simp) ?_ h
  intro pre b dim b' hpre hstep
  rw [require_eq_ok, checkedMul_eq_some] at hstep
  rw [← hstep.2, hpre, List.prod_append, List.prod_singleton]

theorem fromInput_built {input : NdTensorInput} {tensor : NdTensor}
    (h : fromInput input = .ok tensor) : tensor.Built := by
  simp only [fromInput, bind_eq_ok, exists_unit, rejectIf_eq_ok, whenSome_eq_ok,
    rejectRepeats_eq_ok, require_eq_ok, pure_eq_ok, bne_eq_false_iff_eq, Bool.or_eq_false_iff,
    List.isEmpty_eq_false_iff, decide_eq_false_iff_not, not_lt, Bool.and_eq_false_iff,
    beq_eq_false_iff_ne, List.any_eq_false, decide_eq_true_eq, gt_iff_lt,
    checkedMul_eq_some] at h
  obtain ⟨hid, hcontainer, hrank, hpositive, hrows, hobserved, hnodup, -, total, htotal,
    expected, ⟨hfits, hexpected⟩, hdata, hbool, hpresence, rfl⟩ := h
  have hprod := checkedShapeProduct_eq_ok htotal
  have hsize : input.data.length = input.shape.prod * input.dtype.elementSize := by
    rw [hdata, ← hexpected, hprod]
  refine
    { tensorId := hid, container := hcontainer, rank := hrank, positive := ?_, rowCount := hrows
      observed := hobserved, observationsNodup := hnodup, size := hsize, fits := ?_
      booleans := ?_, presence := ?_, index := rfl, stride := ?_ }
  · simpa using hpositive
  · show input.data.length < u64Size
    rw [hdata, ← hexpected]
    exact hfits
  · intro hdtype byte hbyte
    exact UInt8.not_lt.mp (hbool.resolve_left (fun hne => hne hdtype) byte hbyte)
  · intro rowPresence heq
    exact (hpresence rowPresence heq).trans hrows.symm
  · show input.data.length = input.observationIds.length * (expected / input.shape.headD 0)
    have hdvd : input.observationIds.length ∣ expected := by
      rw [hrows, ← hexpected, hprod]
      cases hshape : input.shape with
      | nil => exact absurd hshape hrank.1
      | cons rowCount dims =>
        rw [List.prod_cons, mul_assoc]
        exact Dvd.intro _ rfl
    rw [hdata, ← hrows, Nat.mul_div_cancel' hdvd]

end NdTensor

end DagMlData
