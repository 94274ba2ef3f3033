import DagMlData.BufferFile
import DagMlData.NdTensor
import DagMlData.Lib.RowMajor
import DagMlData.Lib.Unchecked

/-!
# Borrowed tensor views

A host hands a tensor over as a view: pointers, lengths, a shape and byte strides.
`borrowed_tensor_view_to_input` of the C ABI checks the view and copies the payload into row-major
bytes. Every number in the view comes from the host, so the steps that the function does not check
are steps that may panic here.

* `borrowedTensorViewToInput`: the function. A pointer is what can be read behind it.
* `gatherStridedTensor_eq_ok`: what the strided gather demands, and the bytes that it copies.
-/

namespace DagMlData

open Guard RustText Unchecked BufferFile

/-- `isize::MAX`: no vector and no slice has more bytes. -/
def isizeMax : Nat := 2 ^ 63 - 1

/-- A pointer of the host, with the items that can be read behind it. -/
abbrev Pointer (α : Type) := Option (List α)

structure DagMlDataBytesView where
  ptr : Pointer UInt8
  len : Nat

structure DagMlDataBorrowedTensorView where
  abiVersion : Nat
  tensorId : DagMlDataBytesView
  representationId : DagMlDataBytesView
  container : DagMlDataBytesView
  dtype : Nat
  data : Pointer UInt8
  dataLen : Nat
  shape : Pointer Nat
  stridesBytes : Pointer Int
  rank : Nat
  observationIds : Pointer DagMlDataBytesView
  sampleIds : Pointer DagMlDataBytesView
  idsLen : Nat
  rowPresenceMask : Pointer UInt8
  rowPresenceLen : Nat

/-- `DAG_ML_DATA_BORROWED_TENSOR_VIEW_ABI_VERSION`. -/
def borrowedTensorViewAbiVersion : Nat := 1

/-- `DagMlDataTensorDType::from_code`. -/
def NdTensorDType.fromCode : Nat → Result NdTensorDType
  | 0 => .ok .f64
  | 1 => .ok .f32
  | 2 => .ok .u8
  | 3 => .ok .i32
  | 4 => .ok .bool
  | other => .error (.validation s!"unknown tensor dtype code {other}")

abbrev AbiOutcome := Outcome DataError

/-- `Err(DataError::Validation(..))`. -/
def refusal (detail : String) : Loading.Stop DataError := .refused (.validation detail)

/-- `slice::from_raw_parts` on items of `size` bytes. -/
def readSlice {α : Type} (size : Nat) (readable : List α) (len : Nat) : AbiOutcome (List α) :=
  fromRawParts isizeMax size readable len

/-- What the allocator of the process does when it is asked for so many bytes for a vector of the
tensor. The texts of identifiers and errors are taken to be granted. -/
class TensorAllocator where
  grants : Nat → Bool

/-- A vector may have so many bytes, and the allocator grants them. It is not asked for none. -/
def Granted [TensorAllocator] (count : Nat) : Prop :=
  count ≤ isizeMax ∧ (count = 0 ∨ TensorAllocator.grants count = true)

instance [TensorAllocator] {count : Nat} : Decidable (Granted count) :=
  inferInstanceAs (Decidable (_ ∧ _))

/-- `Vec::with_capacity`, for that many bytes. It panics above `isize::MAX`, and when the allocator
refuses it aborts. Both ways nothing is returned. -/
def reserveBytes [TensorAllocator] (count : Nat) : AbiOutcome Unit :=
  assume (decide (Granted count))

/-- `bytes_view_to_string`. -/
def bytesViewToString [Machine] (view : DagMlDataBytesView) (label : String) :
    AbiOutcome String := do
  let readable ← require view.ptr (refusal s!"{label} pointer is null")
  let raw ← readSlice 1 readable view.len
  require (fromUtf8 raw) (refusal s!"{label} is not valid UTF-8: {Machine.utf8Error raw}")

/-- `bytes_view_array_to_strings`. -/
def bytesViewArrayToStrings [Machine] (ptr : Pointer DagMlDataBytesView) (len : Nat)
    (label : String) : AbiOutcome (List String) :=
  match ptr with
  | none => do
    rejectIf (len != 0) (refusal s!"{label} pointer is null")
    pure []
  | some readable => do
    let views ← readSlice 16 readable len
    views.zipIdx.mapM fun (view, idx) => bytesViewToString view s!"{label}[{idx}]"

/-- `checked_product`. -/
def checkedProduct (label : String) (shape : List Nat) : Result Nat :=
  shape.foldlM (fun product dim => require (checkedMul product dim)
    (.validation s!"{label} shape product overflows usize")) 1

/-- `ensure_addressable`. -/
def ensureAddressable (label : String) (len : Nat) : Result Unit :=
  rejectIf (decide (len > isizeMax)) (.validation s!"{label} byte length {len} exceeds isize::MAX")

/-! ## The payload -/

/-- The sizes of the axes and their strides, in the order of the axes. -/
abbrev Axes := List (Nat × Nat)

/-- The strides that the loop of `gather_strided_tensor` collects. -/
def positiveStrides (label : String) (strides : List Int) : AbiOutcome (List Nat) :=
  strides.mapM fun stride => do
    rejectIf (decide (stride ≤ 0))
      (refusal (s!"{label} has a non-positive byte stride {stride} " ++
      "(v1 supports null or positive strides)"))
    pure stride.toNat

/-- The loop body that computes `max_offset`. -/
def addSpan (label : String) (offset : Nat) : Nat × Nat → AbiOutcome Nat
  | (dim, stride) => do
    let steps ← sub dim 1
    let span ← require (checkedMul steps stride) (refusal s!"{label} stride span overflows usize")
    require (checkedAdd offset span) (refusal s!"{label} stride offset overflows usize")

/-- The loop body that takes one axis off a place. The state is `remainder` and `offset`. -/
def takeAxis : Nat × Nat → Nat × Nat → AbiOutcome (Nat × Nat)
  | (remainder, offset), (dim, stride) => do
    let coord ← mod remainder dim
    let remainder ← div remainder dim
    let step ← sized u64Size (coord * stride)
    let offset ← sized u64Size (offset + step)
    pure (remainder, offset)

/-- The bytes of the element at a place, which is decomposed from the last axis on. -/
def elementBytes (data : List UInt8) (axes : Axes) (elementSize flat : Nat) :
    AbiOutcome (List UInt8) := do
  let (_, offset) ← axes.reverse.foldlM takeAxis (flat, 0)
  let stop ← sized u64Size (offset + elementSize)
  slice data offset stop

/-- `gather_strided_tensor`. -/
def gatherStridedTensor [TensorAllocator] (view : DagMlDataBorrowedTensorView) (data : List UInt8)
    (stridesBytes : List Int) (label : String) (shape : List Nat)
    (elementSize totalElements canonicalBytes : Nat) : AbiOutcome (List UInt8) := do
  let strides ← readSlice 8 stridesBytes view.rank
  reserveBytes (view.rank * 8)
  let strides ← positiveStrides label strides
  let axes := shape.zip strides
  let offset ← axes.foldlM (addSpan label) 0
  let maxByte ← require (checkedAdd offset elementSize)
    (refusal s!"{label} addressed byte overflows usize")
  rejectIf (decide (view.dataLen < maxByte))
    (refusal s!"{label} strided data has {view.dataLen} bytes but addresses up to {maxByte}")
  lift (ensureAddressable label maxByte)
  let data ← readSlice 1 data maxByte
  reserveBytes canonicalBytes
  let elements ← (List.range totalElements).mapM (elementBytes data axes elementSize)
  pure elements.flatten

/-- The `data` of `borrowed_tensor_view_to_input`. -/
def borrowedPayload [TensorAllocator] (view : DagMlDataBorrowedTensorView) (label : String)
    (shape : List Nat) (dtype : NdTensorDType) (totalElements canonicalBytes : Nat) :
      AbiOutcome (List UInt8) := do
  let data ← require view.data (refusal s!"{label} data pointer is null")
  match view.stridesBytes with
  | none => do
    rejectIf (view.dataLen != canonicalBytes) (refusal (s!"{label} contiguous data has " ++
      s!"{view.dataLen} bytes for shape {shapeText shape} dtype {dtype.debugName} " ++
      s!"({canonicalBytes} expected)"))
    lift (ensureAddressable label canonicalBytes)
    let bytes ← readSlice 1 data canonicalBytes
    reserveBytes canonicalBytes
    pure bytes
  | some stridesBytes =>
    gatherStridedTensor view data stridesBytes label shape dtype.elementSize totalElements
      canonicalBytes

/-- The `row_presence` of `borrowed_tensor_view_to_input`. -/
def borrowedRowPresence [TensorAllocator] (view : DagMlDataBorrowedTensorView) (label : String)
    (rowCount : Nat) : AbiOutcome (Option (List Bool)) :=
  match view.rowPresenceMask with
  | none => do
    rejectIf (view.rowPresenceLen != 0) (refusal (s!"{label} row presence mask pointer is null " ++
      s!"but length is {view.rowPresenceLen}"))
    pure none
  | some mask => do
    rejectIf (view.rowPresenceLen != rowCount) (refusal (s!"{label} row presence mask has " ++
      s!"{view.rowPresenceLen} flags for axis-0 size {rowCount}"))
    let bytes ← readSlice 1 mask view.rowPresenceLen
    reserveBytes bytes.length
    let presence ← bytes.mapM fun byte => do
      rejectIf (decide (byte > 1))
        (refusal s!"{label} row presence mask contains a byte that is not 0 or 1")
      pure (byte == 1)
    pure (some presence)

/-- The `sample_ids` of `borrowed_tensor_view_to_input`. -/
def borrowedSampleIds [Machine] (view : DagMlDataBorrowedTensorView) (label : String) :
    AbiOutcome (Option (List SampleId)) :=
  match view.sampleIds with
  | none => pure none
  | some ids => do
    let sampleIds ← bytesViewArrayToStrings (some ids) view.idsLen s!"{label} sample_ids"
    let sampleIds ← lift (sampleIds.mapM (Ident.new .sample))
    pure (some sampleIds)

/-- `borrowed_tensor_view_to_input`. -/
def borrowedTensorViewToInput [Machine] [TensorAllocator] (view : DagMlDataBorrowedTensorView)
    (index : Nat) : AbiOutcome NdTensorInput := do
  let label := s!"borrowed tensor view {index}"
  rejectIf (view.abiVersion != borrowedTensorViewAbiVersion)
    (refusal s!"{label} abi_version {view.abiVersion} is not {borrowedTensorViewAbiVersion}")
  let tensorId ← bytesViewToString view.tensorId s!"{label} tensor_id"
  let representationId ← bytesViewToString view.representationId s!"{label} representation_id"
  let representationId ← lift (Ident.new .representation representationId)
  let container ← bytesViewToString view.container s!"{label} container"
  let dtype ← lift (NdTensorDType.fromCode view.dtype)
  rejectIf (view.rank == 0 || decide (view.rank > ndTensorMaxRank))
    (refusal s!"{label} rank {view.rank} is not in 1..={ndTensorMaxRank}")
  let shape ← require view.shape (refusal s!"{label} shape pointer is null")
  let shape ← readSlice 8 shape view.rank
  reserveBytes (view.rank * 8)
  rejectIf (shape.contains 0)
    (refusal s!"{label} has a zero dimension in shape {shapeText shape}")
  let rowCount ← require shape[0]? .panicked
  rejectIf (rowCount != view.idsLen)
    (refusal s!"{label} axis-0 size {rowCount} does not match ids_len {view.idsLen}")
  let observationIds ← bytesViewArrayToStrings view.observationIds view.idsLen
    s!"{label} observation_ids"
  let observationIds ← lift (observationIds.mapM (Ident.new .observation))
  let sampleIds ← borrowedSampleIds view label
  let totalElements ← lift (checkedProduct label shape)
  let canonicalBytes ← require (checkedMul totalElements dtype.elementSize)
    (refusal s!"{label} byte size overflows usize")
  let data ← borrowedPayload view label shape dtype totalElements canonicalBytes
  let rowPresence ← borrowedRowPresence view label rowCount
  pure {
    tensorId := tensorId
    representationId := representationId
    container := container
    dtype := dtype
    shape := shape
    observationIds := observationIds
    sampleIds := sampleIds
    data := data
    rowPresence := rowPresence }

/-! ## The steps of the gather -/

@[simp] theorem reserveBytes_eq_ok [TensorAllocator] {count : Nat} {u : Unit} :
    reserveBytes count = .ok u ↔ Granted count := by
  simp [reserveBytes]

section Gather
variable {label : String} {shape strides : List Nat}

theorem positiveStrides_eq_ok {stridesBytes : List Int} :
    positiveStrides label stridesBytes = .ok strides ↔
      (∀ stride ∈ stridesBytes, 0 < stride) ∧ strides = stridesBytes.map Int.toNat := by
  unfold positiveStrides
  rw [mapM_eq_ok]
  simp only [bind_eq_ok, exists_unit, rejectIf_eq_ok, decide_eq_false_iff_not, not_le, pure_eq_ok]
  constructor
  · intro h
    induction h with
    | nil => exact ⟨List.forall_mem_nil _, rfl⟩
    | cons hfirst _ ih =>
      obtain ⟨hpos, rfl⟩ := hfirst
      refine ⟨List.forall_mem_cons.mpr ⟨hpos, ih.1⟩, ?_⟩
      rw [List.map_cons, ih.2]
  · rintro ⟨hpos, rfl⟩
    rw [List.forall₂_map_right_iff, List.forall₂_same]
    exact fun stride hstride => ⟨hpos stride hstride, rfl⟩

theorem not_panics_positiveStrides {stridesBytes : List Int} :
    ¬ Panics (positiveStrides label stridesBytes) := by
  intro h
  obtain ⟨stride, -, hpanics⟩ := exists_panics_of_mapM h
  simp [refusal] at hpanics

theorem addSpan_eq_ok {offset dim stride next : Nat} (hdim : 0 < dim) :
    addSpan label offset (dim, stride) = .ok next ↔
      offset + (dim - 1) * stride < u64Size ∧ offset + (dim - 1) * stride = next := by
  simp only [addSpan, bind_eq_ok, sub_eq_ok, require_eq_ok, checkedMul_eq_some, checkedAdd_eq_some]
  constructor
  · rintro ⟨_, ⟨-, rfl⟩, _, ⟨-, rfl⟩, hlt, rfl⟩
    exact ⟨hlt, rfl⟩
  · rintro ⟨hlt, rfl⟩
    have hspan := (Nat.le_add_left _ _).trans_lt hlt
    exact ⟨_, ⟨hdim, rfl⟩, _, ⟨hspan, rfl⟩, hlt, rfl⟩

theorem not_panics_addSpan {offset dim stride : Nat} (hdim : 0 < dim) :
    ¬ Panics (addSpan label offset (dim, stride)) := by
  intro h
  simp only [addSpan, panics_bind, Unchecked.sub] at h
  rcases h with (h | ⟨_, _, h⟩) | ⟨_, _, h | ⟨_, _, h⟩⟩
  · rw [panics_assume, decide_eq_false_iff_not] at h
    exact h hdim
  · exact not_panics_pure h
  · exact not_panics_require h
  · exact not_panics_require h

/-- The loop adds the offset of the last element, or it overflows. -/
theorem foldlM_addSpan (hshape : 0 ∉ shape) {start last : Nat} (hstart : start < u64Size) :
    (shape.zip strides).foldlM (addSpan label) start = .ok last ↔
      start + RowMajor.offset strides (shape.map (· - 1)) < u64Size ∧
        start + RowMajor.offset strides (shape.map (· - 1)) = last := by
  induction shape generalizing start strides with
  | nil => simp [RowMajor.offset, hstart]
  | cons dim shape ih =>
    rw [List.mem_cons, not_or] at hshape
    cases strides with
    | nil => simp [RowMajor.offset, hstart]
    | cons stride strides =>
      rw [List.zip_cons_cons, List.foldlM_cons, bind_eq_ok, List.map_cons, RowMajor.offset_cons,
        ← Nat.add_assoc]
      simp only [addSpan_eq_ok (Nat.pos_of_ne_zero fun hzero => hshape.1 hzero.symm)]
      constructor
      · rintro ⟨next, ⟨hnext, rfl⟩, hrest⟩
        exact (ih hshape.2 hnext).mp hrest
      · rintro ⟨hlast, rfl⟩
        have hnext := (Nat.le_add_right _ _).trans_lt hlast
        exact ⟨_, ⟨hnext, rfl⟩, (ih hshape.2 hnext).mpr ⟨hlast, rfl⟩⟩

theorem not_panics_foldlM_addSpan (hshape : 0 ∉ shape) {start : Nat} :
    ¬ Panics ((shape.zip strides).foldlM (addSpan label) start) := by
  induction shape generalizing start strides with
  | nil => exact not_panics_pure
  | cons dim shape ih =>
    rw [List.mem_cons, not_or] at hshape
    cases strides with
    | nil => exact not_panics_pure
    | cons stride strides =>
      rw [List.zip_cons_cons, List.foldlM_cons, panics_bind]
      rintro (h | ⟨next, -, h⟩)
      · exact not_panics_addSpan (Nat.pos_of_ne_zero fun hzero => hshape.1 hzero.symm) h
      · exact ih hshape.2 h

/-- The loop takes the index vector off the place and adds up its offset. -/
theorem foldlM_takeAxis (hshape : 0 ∉ shape)
    (hlength : shape.length = strides.length) (flat : Nat)
    (hlast : RowMajor.offset strides (shape.map (· - 1)) < u64Size) :
    (shape.zip strides).reverse.foldlM takeAxis (flat, 0) =
      .ok (flat / shape.prod, RowMajor.offset strides (RowMajor.coords shape flat)) := by
  induction shape generalizing strides with
  | nil =>
    rw [List.zip_nil_left, List.prod_nil, Nat.div_one]
    rfl
  | cons dim shape ih =>
    cases strides with
    | nil => cases hlength
    | cons stride strides =>
      have hinside := RowMajor.coords_inside hshape flat
      have hle := (RowMajor.offset_le_last hinside (stride :: strides)).trans_lt hlast
      rw [List.mem_cons, not_or] at hshape
      rw [List.map_cons, RowMajor.offset_cons] at hlast
      have htail := ih hshape.2 (Nat.succ.inj hlength) ((Nat.le_add_left _ _).trans_lt hlast)
      rw [RowMajor.coords, RowMajor.offset_cons] at hle ⊢
      have hdim : 0 < dim := Nat.pos_of_ne_zero fun hzero => hshape.1 hzero.symm
      rw [List.zip_cons_cons, List.reverse_cons, List.foldlM_append, htail]
      have hstep := (Nat.le_add_right _ _).trans_lt hle
      rw [Nat.add_comm] at hle
      simp only [List.foldlM_cons, List.foldlM_nil, bind_eq_ok, takeAxis, mod_eq_ok, div_eq_ok,
        sized_eq_ok, pure_eq_ok]
      refine ⟨_, rfl, _, ⟨_, ⟨hdim, rfl⟩, _, ⟨hdim, rfl⟩, _, ⟨hstep, rfl⟩, _,
        ⟨hle, rfl⟩, rfl⟩, ?_⟩
      rw [Nat.div_div_eq_div_mul, List.prod_cons, Nat.mul_comm dim, Nat.add_comm]

/-- The element at a place is the one at the offset of its index vector. -/
theorem elementBytes_eq (hshape : 0 ∉ shape) (hlength : shape.length = strides.length)
    {data : List UInt8} {elementSize : Nat} (hdata : data.length < u64Size)
    (hlast : RowMajor.offset strides (shape.map (· - 1)) + elementSize ≤ data.length)
    (flat : Nat) :
    elementBytes data (shape.zip strides) elementSize flat =
      .ok ((data.drop (RowMajor.offset strides (RowMajor.coords shape flat))).take
        elementSize) := by
  have hle := RowMajor.offset_le_last (RowMajor.coords_inside hshape flat) strides
  have hstop := (Nat.add_le_add_right hle elementSize).trans hlast
  have hloop := foldlM_takeAxis hshape hlength flat
    (((Nat.le_add_right _ _).trans hlast).trans_lt hdata)
  unfold elementBytes
  rw [hloop]
  simp only [bind_eq_ok, sized_eq_ok, slice_eq_ok]
  refine ⟨_, rfl, _, ⟨hstop.trans_lt hdata, rfl⟩, ⟨Nat.le_add_right _ _, hstop⟩, ?_⟩
  rw [Nat.add_sub_cancel_left]

/-- The bytes up to the end of the last element. -/
def addressed (shape strides : List Nat) (elementSize : Nat) : Nat :=
  RowMajor.offset strides (shape.map (· - 1)) + elementSize

/-- The element at an index vector. -/
def strideElement (data : List UInt8) (strides : List Nat) (elementSize : Nat) (idx : List Nat) :
    List UInt8 :=
  (data.drop (RowMajor.offset strides idx)).take elementSize

/-- The elements in row-major order. -/
def gathered (data : List UInt8) (shape strides : List Nat) (elementSize : Nat) : List UInt8 :=
  ((List.range shape.prod).map fun flat =>
    strideElement data strides elementSize (RowMajor.coords shape flat)).flatten

/-- The strides are positive and the elements are within `dataLen` bytes. -/
structure Spans (dataLen : Nat) (shape : List Nat) (strides : List Int) (elementSize : Nat) :
    Prop where
  positive : ∀ stride ∈ strides, 0 < stride
  within : addressed shape (strides.map Int.toNat) elementSize ≤ dataLen
  addressable : addressed shape (strides.map Int.toNat) elementSize ≤ isizeMax

theorem isizeMax_lt : isizeMax < u64Size := by decide

variable {view : DagMlDataBorrowedTensorView} {data bytes : List UInt8} {stridesBytes : List Int}
  {elementSize canonicalBytes : Nat}

/-- The loop over the places copies the elements in row-major order. -/
theorem mapM_elementBytes (hshape : 0 ∉ shape) (hlength : shape.length = strides.length)
    (hread : addressed shape strides elementSize ≤ data.length)
    (hsmall : addressed shape strides elementSize ≤ isizeMax) (places : List Nat) :
    places.mapM (elementBytes (data.take (addressed shape strides elementSize))
        (shape.zip strides) elementSize) =
      .ok (places.map fun flat =>
        strideElement data strides elementSize (RowMajor.coords shape flat)) := by
  have htake : (data.take (addressed shape strides elementSize)).length =
      addressed shape strides elementSize := by rw [List.length_take, min_eq_left hread]
  have hlt : (data.take (addressed shape strides elementSize)).length < u64Size :=
    htake.trans_lt (hsmall.trans_lt isizeMax_lt)
  rw [mapM_eq_ok, List.forall₂_map_right_iff, List.forall₂_same]
  intro flat _
  rw [elementBytes_eq hshape hlength hlt htake.ge]
  have hle := RowMajor.offset_le_last (RowMajor.coords_inside hshape flat) strides
  have hstop : elementSize ≤ addressed shape strides elementSize -
      RowMajor.offset strides (RowMajor.coords shape flat) := by
    rw [addressed]
    omega
  rw [strideElement, List.drop_take, List.take_take, min_eq_left hstop]

theorem gatherStridedTensor_eq_ok [TensorAllocator] (hshape : 0 ∉ shape)
    (hrank : shape.length = view.rank) (hwords : Granted (view.rank * 8)) :
    gatherStridedTensor view data stridesBytes label shape elementSize shape.prod canonicalBytes =
        .ok bytes ↔
      view.rank ≤ stridesBytes.length ∧
        Spans view.dataLen shape (stridesBytes.take view.rank) elementSize ∧
        addressed shape ((stridesBytes.take view.rank).map Int.toNat) elementSize ≤
          data.length ∧
        Granted canonicalBytes ∧
        gathered data shape ((stridesBytes.take view.rank).map Int.toNat) elementSize = bytes := by
  simp only [gatherStridedTensor, readSlice, reserveBytes_eq_ok, ensureAddressable, bind_eq_ok,
    exists_unit, fromRawParts_eq_ok, positiveStrides_eq_ok,
    foldlM_addSpan hshape (show 0 < u64Size by decide), Nat.zero_add, require_eq_ok,
    checkedAdd_eq_some, rejectIf_eq_ok, decide_eq_false_iff_not, not_lt, lift_eq_ok, pure_eq_ok]
  constructor
  · rintro ⟨_, ⟨⟨hstrides, -⟩, rfl⟩, -, strides, ⟨hpositive, rfl⟩, _,
      ⟨-, rfl⟩, _, ⟨-, rfl⟩,
      hwithin, haddressable, _, ⟨⟨hread, -⟩, rfl⟩, hcanonical, elements, helements, rfl⟩
    have hlength : shape.length = ((stridesBytes.take view.rank).map Int.toNat).length := by
      rw [List.length_map, List.length_take, min_eq_left hstrides, hrank]
    refine ⟨hstrides, ⟨hpositive, hwithin, haddressable⟩, hread, hcanonical, ?_⟩
    have hloop := mapM_elementBytes hshape hlength hread haddressable (List.range shape.prod)
    rw [gathered, Except.ok.inj (hloop.symm.trans helements)]
  · rintro ⟨hstrides, ⟨hpositive, hwithin, haddressable⟩, hread, hcanonical, rfl⟩
    have hlength : shape.length = ((stridesBytes.take view.rank).map Int.toNat).length := by
      rw [List.length_map, List.length_take, min_eq_left hstrides, hrank]
    have hlt := haddressable.trans_lt isizeMax_lt
    refine ⟨_, ⟨⟨hstrides, hwords.1⟩, rfl⟩, hwords, _, ⟨hpositive, rfl⟩, _,
      ⟨(Nat.le_add_right _ _).trans_lt hlt, rfl⟩, _, ⟨hlt, rfl⟩, hwithin, haddressable, _,
      ⟨⟨hread, (Nat.mul_one _).le.trans haddressable⟩, rfl⟩, hcanonical, _, ?_, rfl⟩
    exact mapM_elementBytes hshape hlength hread haddressable _

end Gather

/-! ## The bytes that are copied -/

section Bytes
variable {shape strides : List Nat} {elementSize : Nat} {data : List UInt8}

theorem length_strideElement (hread : addressed shape strides elementSize ≤ data.length)
    {idx : List Nat} (hidx : RowMajor.Inside idx shape) :
    (strideElement data strides elementSize idx).length = elementSize := by
  have hle := RowMajor.offset_le_last hidx strides
  rw [addressed] at hread
  rw [strideElement, List.length_take, List.length_drop]
  omega

theorem length_of_mem_elements (hshape : 0 ∉ shape)
    (hread : addressed shape strides elementSize ≤ data.length) (chunk : List UInt8)
    (hchunk : chunk ∈ (List.range shape.prod).map fun flat =>
      strideElement data strides elementSize (RowMajor.coords shape flat)) :
    chunk.length = elementSize := by
  obtain ⟨flat, -, rfl⟩ := List.mem_map.mp hchunk
  exact length_strideElement hread (RowMajor.coords_inside hshape flat)

theorem length_gathered (hshape : 0 ∉ shape)
    (hread : addressed shape strides elementSize ≤ data.length) :
    (gathered data shape strides elementSize).length = shape.prod * elementSize := by
  have hlengths := List.eq_replicate_of_mem fun n hn => by
    obtain ⟨chunk, hchunk, rfl⟩ := List.mem_map.mp hn
    exact length_of_mem_elements hshape hread chunk hchunk
  rw [gathered, List.length_flatten, hlengths, List.sum_replicate, List.length_map,
    List.length_map, List.length_range, smul_eq_mul]

/-- The element at a place in the gathered bytes is the one at the offset of its index vector. -/
theorem element_gathered (hshape : 0 ∉ shape)
    (hread : addressed shape strides elementSize ≤ data.length) {idx : List Nat}
    (hidx : RowMajor.Inside idx shape) :
    RowMajor.element (gathered data shape strides elementSize) elementSize
      (RowMajor.position shape idx) = strideElement data strides elementSize idx := by
  refine RowMajor.element_flatten (length_of_mem_elements hshape hread) ?_
  rw [List.getElem?_map, List.getElem?_range (RowMajor.position_lt hidx), Option.map_some,
    RowMajor.coords_position hidx]

theorem addressed_strides (hshape : 0 ∉ shape) :
    addressed shape (RowMajor.strides shape elementSize) elementSize =
      shape.prod * elementSize := by
  rw [addressed, RowMajor.offset_strides elementSize (List.length_map _), ← Nat.succ_mul,
    Nat.succ_eq_add_one, RowMajor.position_last hshape]

/-- With the strides of the row-major order the gather is a plain copy. -/
theorem gathered_strides (hshape : 0 ∉ shape) (hread : shape.prod * elementSize ≤ data.length) :
    gathered data shape (RowMajor.strides shape elementSize) elementSize =
      data.take (shape.prod * elementSize) := by
  have hlength : (data.take (shape.prod * elementSize)).length = shape.prod * elementSize := by
    rw [List.length_take, min_eq_left hread]
  conv_rhs => rw [← RowMajor.flatten_elements hlength]
  refine congrArg List.flatten (List.map_congr_left fun flat hflat => ?_)
  rw [List.mem_range] at hflat
  have hcoords := RowMajor.coords_inside hshape flat
  have hstop : flat * elementSize + elementSize ≤ shape.prod * elementSize := by
    rw [← Nat.succ_mul]
    exact Nat.mul_le_mul_right _ hflat
  rw [strideElement, RowMajor.offset_strides elementSize hcoords.length_eq,
    RowMajor.position_coords,
    Nat.mod_eq_of_lt hflat, RowMajor.element, List.drop_take, List.take_take,
    min_eq_left (by omega)]

end Bytes

end DagMlData
