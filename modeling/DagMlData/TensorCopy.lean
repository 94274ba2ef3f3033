import DagMlData.BorrowedTensor
import DagMlData.BufferRoundTrip

/-!
# The copy of a borrowed tensor

What `borrowed_tensor_view_to_input` copies when it accepts a view.

* `borrowedTensorViewToInput_eq_ok`: the conditions under which it does.
* `borrowedTensorViewToInput_copies`: the elements at the offsets of their index vectors, in
  row-major order.
-/

namespace DagMlData

open Guard RustText Unchecked BufferFile

/-! ## The payload -/

/-- The byte strides of a view: its own, or those of the row-major order. -/
def DagMlDataBorrowedTensorView.byteStrides (view : DagMlDataBorrowedTensorView)
    (shape : List Nat) (elementSize : Nat) : List Nat :=
  match view.stridesBytes with
  | none => RowMajor.strides shape elementSize
  | some strides => (strides.take view.rank).map Int.toNat

/-- What a view has to declare for its payload to be read: the canonical size when it is
contiguous, and else a stride for each axis that keeps within the declared length. -/
def DagMlDataBorrowedTensorView.Declares (view : DagMlDataBorrowedTensorView) (shape : List Nat)
    (elementSize : Nat) : Prop :=
  match view.stridesBytes with
  | none => view.dataLen = shape.prod * elementSize
  | some strides =>
    view.rank ≤ strides.length ∧ Spans view.dataLen shape (strides.take view.rank) elementSize

section Payload
variable {view : DagMlDataBorrowedTensorView} {shape : List Nat} {dtype : NdTensorDType}
  {label : String} {bytes : List UInt8}

/-- Both paths copy the elements at the offsets of their index vectors. -/
theorem borrowedPayload_eq_ok [TensorAllocator] (hpositive : 0 ∉ shape)
    (hrank : shape.length = view.rank) (hwords : Granted (view.rank * 8)) :
    borrowedPayload view label shape dtype shape.prod (shape.prod * dtype.elementSize) =
        .ok bytes ↔
      ∃ data, view.data = some data ∧ view.Declares shape dtype.elementSize ∧
        addressed shape (view.byteStrides shape dtype.elementSize) dtype.elementSize ≤
          data.length ∧
        Granted (shape.prod * dtype.elementSize) ∧
        gathered data shape (view.byteStrides shape dtype.elementSize) dtype.elementSize =
          bytes := by
  unfold borrowedPayload DagMlDataBorrowedTensorView.Declares
    DagMlDataBorrowedTensorView.byteStrides
  simp only [bind_eq_ok, require_eq_ok]
  refine exists_congr fun data => and_congr_right fun _ => ?_
  cases view.stridesBytes with
  | none =>
    simp only [bind_eq_ok, exists_unit, rejectIf_eq_ok, bne_eq_false_iff_eq, lift_eq_ok,
      ensureAddressable, readSlice, reserveBytes_eq_ok, fromRawParts_eq_ok, pure_eq_ok,
      decide_eq_false_iff_not, not_lt, gt_iff_lt, Nat.mul_one,
      addressed_strides hpositive]
    constructor
    · rintro ⟨hlength, -, _, ⟨⟨hread, -⟩, rfl⟩, hgranted, rfl⟩
      exact ⟨hlength, hread, hgranted, gathered_strides hpositive hread⟩
    · rintro ⟨hlength, hread, hgranted, rfl⟩
      exact ⟨hlength, hgranted.1, _, ⟨⟨hread, hgranted.1⟩, rfl⟩, hgranted,
        (gathered_strides hpositive hread).symm⟩
  | some strides => rw [gatherStridedTensor_eq_ok hpositive hrank hwords, and_assoc]

/-- The elements are within the declared length. -/
theorem DagMlDataBorrowedTensorView.Declares.addressed_le {elementSize : Nat}
    (h : view.Declares shape elementSize) (hpositive : 0 ∉ shape) :
    addressed shape (view.byteStrides shape elementSize) elementSize ≤ view.dataLen := by
  unfold DagMlDataBorrowedTensorView.Declares at h
  unfold DagMlDataBorrowedTensorView.byteStrides
  cases hstrides : view.stridesBytes with
  | none =>
    rw [hstrides] at h
    exact (addressed_strides hpositive).le.trans h.ge
  | some strides =>
    rw [hstrides] at h
    exact h.2.within

end Payload

/-- Bytes past the last element do not matter. -/
theorem gathered_take {data : List UInt8} {shape strides : List Nat} {elementSize n : Nat}
    (hshape : 0 ∉ shape) (hn : addressed shape strides elementSize ≤ n) :
    gathered (data.take n) shape strides elementSize = gathered data shape strides elementSize := by
  refine congrArg List.flatten (List.map_congr_left fun flat _ => ?_)
  have hle := RowMajor.offset_le_last (RowMajor.coords_inside hshape flat) strides
  rw [addressed] at hn
  rw [strideElement, strideElement, List.drop_take, List.take_take, min_eq_left (by omega)]

theorem map_toNat_ofNat (strides : List Nat) : (strides.map Int.ofNat).map Int.toNat = strides := by
  rw [List.map_map]
  exact List.map_id _

/-! ## What the function accepts -/

/-- The product of positive sizes is computed without overflow exactly when it fits. -/
theorem checkedProduct_eq_ok {label : String} {shape : List Nat} (hshape : 0 ∉ shape) {n : Nat} :
    checkedProduct label shape = .ok n ↔ shape.prod < u64Size ∧ shape.prod = n := by
  suffices h : ∀ start, start < u64Size → (shape.foldlM (fun product dim =>
      require (checkedMul product dim) (DataError.validation
        s!"{label} shape product overflows usize")) start = .ok n ↔
          start * shape.prod < u64Size ∧ start * shape.prod = n) by
    have hone := h 1 (by decide)
    rwa [Nat.one_mul] at hone
  induction shape with
  | nil =>
    intro start hstart
    simp [hstart]
  | cons dim shape ih =>
    intro start hstart
    rw [List.mem_cons, not_or] at hshape
    have hpos := RowMajor.prod_pos hshape.2
    rw [List.foldlM_cons, bind_eq_ok, List.prod_cons, ← Nat.mul_assoc]
    simp only [require_eq_ok, checkedMul_eq_some]
    constructor
    · rintro ⟨next, ⟨hnext, rfl⟩, hrest⟩
      exact (ih hshape.2 _ hnext).mp hrest
    · intro hrest
      have hnext := (Nat.le_mul_of_pos_right _ hpos).trans_lt hrest.1
      exact ⟨_, ⟨hnext, rfl⟩, (ih hshape.2 _ hnext).mpr hrest⟩

section Copy
variable [Machine] [TensorAllocator] {view : DagMlDataBorrowedTensorView} {index : Nat}
    {input : NdTensorInput}

/-- How messages name the view at `index`. -/
def viewLabel (index : Nat) : String := s!"borrowed tensor view {index}"

/-- The view is copied into the input. -/
structure Copied (view : DagMlDataBorrowedTensorView) (index : Nat) (input : NdTensorInput) :
    Prop where
  abi : view.abiVersion = borrowedTensorViewAbiVersion
  tensorId : bytesViewToString view.tensorId
    s!"{viewLabel index} tensor_id" = .ok input.tensorId
  representationId : ∃ value, bytesViewToString view.representationId
    s!"{viewLabel index} representation_id" = .ok value ∧
      Ident.new .representation value = .ok input.representationId
  container : bytesViewToString view.container
    s!"{viewLabel index} container" = .ok input.container
  dtype : NdTensorDType.fromCode view.dtype = .ok input.dtype
  rank : view.rank ≠ 0 ∧ view.rank ≤ ndTensorMaxRank
  shape : ∃ shape, view.shape = some shape ∧ view.rank ≤ shape.length ∧
    shape.take view.rank = input.shape
  words : Granted (view.rank * 8)
  positive : 0 ∉ input.shape
  rowCount : input.shape[0]? = some view.idsLen
  observationIds : ∃ values, bytesViewArrayToStrings view.observationIds view.idsLen
    s!"{viewLabel index} observation_ids" = .ok values ∧
      values.mapM (Ident.new .observation) = .ok input.observationIds
  sampleIds : borrowedSampleIds view (viewLabel index) = .ok input.sampleIds
  fits : input.shape.prod * input.dtype.elementSize < u64Size
  payload : borrowedPayload view (viewLabel index) input.shape input.dtype
    input.shape.prod (input.shape.prod * input.dtype.elementSize) = .ok input.data
  rowPresence : borrowedRowPresence view (viewLabel index) view.idsLen =
    .ok input.rowPresence

theorem borrowedTensorViewToInput_eq_ok :
    borrowedTensorViewToInput view index = .ok input ↔ Copied view index input := by
  simp only [borrowedTensorViewToInput, bind_eq_ok, exists_unit, rejectIf_eq_ok, require_eq_ok,
    lift_eq_ok, readSlice, fromRawParts_eq_ok, reserveBytes_eq_ok, bne_eq_false_iff_eq,
      Bool.or_eq_false_iff,
    beq_eq_false_iff_ne, decide_eq_false_iff_not, not_lt, gt_iff_lt, checkedMul_eq_some,
    pure_eq_ok, List.contains_eq_mem]
  constructor
  · rintro ⟨habi, tensorId, htensorId, text, htext, representationId, hrepresentation, container,
      hcontainer, dtype, hdtype, hrank, readable, hreadable, _,
        ⟨⟨hlength, -⟩, rfl⟩, hwords, hpositive,
      rowCount, hrowCount, rfl, ids, hids, observationIds, hobservations, sampleIds, hsamples,
      total, htotal, _, ⟨hfits, rfl⟩, data, hdata, rowPresence, hpresence, rfl⟩
    obtain ⟨-, rfl⟩ := (checkedProduct_eq_ok hpositive).mp htotal
    exact ⟨habi, htensorId, ⟨text, htext, hrepresentation⟩, hcontainer, hdtype, hrank,
      ⟨readable, hreadable, hlength, rfl⟩, hwords, hpositive, hrowCount,
        ⟨ids, hids, hobservations⟩,
      hsamples, hfits, hdata, hpresence⟩
  · intro h
    obtain ⟨text, htext, hrepresentation⟩ := h.representationId
    obtain ⟨readable, hreadable, hlength, hshape⟩ := h.shape
    obtain ⟨ids, hids, hobservations⟩ := h.observationIds
    have hfits := (Nat.le_mul_of_pos_right _ input.dtype.elementSize_pos).trans_lt h.fits
    have htotal : checkedProduct (viewLabel index) input.shape =
        .ok input.shape.prod := (checkedProduct_eq_ok h.positive).mpr ⟨hfits, rfl⟩
    exact ⟨h.abi, _, h.tensorId, text, htext, _, hrepresentation, _, h.container, _, h.dtype,
      h.rank, readable, hreadable, _, ⟨⟨hlength, h.words.1⟩, hshape⟩,
        h.words, h.positive, _,
      h.rowCount, rfl, ids, hids, _, hobservations, _, h.sampleIds, _, htotal, _,
      ⟨h.fits, rfl⟩, _, h.payload, _, h.rowPresence, rfl⟩

theorem Copied.length_shape (h : Copied view index input) : input.shape.length = view.rank := by
  obtain ⟨readable, -, hlength, hshape⟩ := h.shape
  rw [← hshape, List.length_take, min_eq_left hlength]

theorem Copied.payload_iff (h : Copied view index input) {other : DagMlDataBorrowedTensorView}
    (hrank : other.rank = view.rank) :
    borrowedPayload other (viewLabel index) input.shape input.dtype
        input.shape.prod (input.shape.prod * input.dtype.elementSize) = .ok input.data ↔
      ∃ data, other.data = some data ∧ other.Declares input.shape input.dtype.elementSize ∧
        addressed input.shape (other.byteStrides input.shape input.dtype.elementSize)
          input.dtype.elementSize ≤ data.length ∧
        Granted (input.shape.prod * input.dtype.elementSize) ∧
        gathered data input.shape (other.byteStrides input.shape input.dtype.elementSize)
          input.dtype.elementSize = input.data :=
  borrowedPayload_eq_ok h.positive (h.length_shape.trans hrank.symm) (hrank ▸ h.words)

/-- What the copy of a view is. -/
structure CopiesElements (view : DagMlDataBorrowedTensorView) (index : Nat)
    (input : NdTensorInput) : Prop where
  dtype : NdTensorDType.fromCode view.dtype = .ok input.dtype
  shape : ∃ shape, view.shape = some shape ∧ shape.take view.rank = input.shape ∧
    input.shape.length = view.rank
  length : input.data.length = input.shape.prod * input.dtype.elementSize
  elements : ∃ data, view.data = some data ∧ ∀ idx, RowMajor.Inside idx input.shape →
    let offset := RowMajor.offset (view.byteStrides input.shape input.dtype.elementSize) idx
    offset + input.dtype.elementSize ≤ view.dataLen ∧
      offset + input.dtype.elementSize ≤ data.length ∧
      RowMajor.element input.data input.dtype.elementSize (RowMajor.position input.shape idx) =
        (data.drop offset).take input.dtype.elementSize
  /-- Nothing past the declared length has to be readable. -/
  readsDeclared : borrowedTensorViewToInput
    { view with data := view.data.map (List.take view.dataLen) } index = .ok input
  contiguous : ∀ strides, view.stridesBytes = some strides →
    strides.take view.rank =
      (RowMajor.strides input.shape input.dtype.elementSize).map Int.ofNat →
    view.dataLen = input.shape.prod * input.dtype.elementSize →
    borrowedTensorViewToInput { view with stridesBytes := none } index = .ok input
  strided : view.stridesBytes = none →
    borrowedTensorViewToInput { view with
      stridesBytes := some ((RowMajor.strides input.shape input.dtype.elementSize).map Int.ofNat) }
      index = .ok input

theorem borrowedTensorViewToInput_copies
    (h : borrowedTensorViewToInput view index = .ok input) : CopiesElements view index input := by
  rw [borrowedTensorViewToInput_eq_ok] at h
  obtain ⟨data, hdata, hdeclares, hread, hgranted, hbytes⟩ := (h.payload_iff rfl).mp h.payload
  have hwithin := hdeclares.addressed_le h.positive
  obtain ⟨readable, hreadable, -, hshape⟩ := h.shape
  refine
    { dtype := h.dtype
      shape := ⟨readable, hreadable, hshape, h.length_shape⟩
      length := by rw [← hbytes, length_gathered h.positive hread]
      elements := ⟨data, hdata, fun idx hidx => ?_⟩
      readsDeclared := ?_
      contiguous := fun strides hstrides hcanonical hlength => ?_
      strided := fun hstrides => ?_ }
  · have hle := Nat.add_le_add_right (RowMajor.offset_le_last hidx
      (view.byteStrides input.shape input.dtype.elementSize)) input.dtype.elementSize
    refine ⟨hle.trans hwithin, hle.trans hread, ?_⟩
    rw [← hbytes]
    exact element_gathered h.positive hread hidx
  · refine borrowedTensorViewToInput_eq_ok.mpr { h with payload := ?_ }
    refine (h.payload_iff (by rfl)).mpr
      ⟨data.take view.dataLen, congrArg (Option.map _) hdata, hdeclares, ?_, hgranted, ?_⟩
    · rw [List.length_take]
      exact le_min hwithin hread
    · exact (gathered_take h.positive hwithin).trans hbytes
  · have hstridesEq : view.byteStrides input.shape input.dtype.elementSize =
        RowMajor.strides input.shape input.dtype.elementSize := by
      unfold DagMlDataBorrowedTensorView.byteStrides
      rw [hstrides, ← map_toNat_ofNat (RowMajor.strides _ _), ← hcanonical]
    rw [hstridesEq] at hread hbytes
    refine borrowedTensorViewToInput_eq_ok.mpr { h with payload := ?_ }
    exact (h.payload_iff (by rfl)).mpr ⟨data, hdata, hlength, hread, hgranted, hbytes⟩
  · have hrank : (RowMajor.strides input.shape input.dtype.elementSize).length = view.rank := by
      rw [RowMajor.length_strides, h.length_shape]
    have htake : (((RowMajor.strides input.shape input.dtype.elementSize).map Int.ofNat).take
        view.rank).map Int.toNat = RowMajor.strides input.shape input.dtype.elementSize := by
      rw [List.take_of_length_le (by rw [List.length_map, hrank]), map_toNat_ofNat]
    have haddressed : addressed input.shape _ input.dtype.elementSize = _ :=
      addressed_strides h.positive
    unfold DagMlDataBorrowedTensorView.byteStrides at hread hbytes hwithin
    rw [hstrides] at hread hbytes hwithin
    refine borrowedTensorViewToInput_eq_ok.mpr { h with payload := ?_ }
    refine (h.payload_iff (by rfl)).mpr ⟨data, hdata, ⟨?_, ?_, ?_, ?_⟩, ?_, hgranted, ?_⟩
    · rw [List.length_map, hrank]
    · intro stride hstride
      obtain ⟨n, hn, rfl⟩ := List.mem_map.mp (List.mem_of_mem_take hstride)
      exact Int.natCast_pos.mpr (RowMajor.strides_pos h.positive input.dtype.elementSize_pos hn)
    · rw [htake]
      exact hwithin
    · rw [htake, haddressed]
      exact hgranted.1
    · show addressed _ (List.map _ _) _ ≤ _
      rw [htake]
      exact hread
    · show gathered _ _ (List.map _ _) _ = _
      rw [htake]
      exact hbytes

end Copy

/-- A text of the host, with all of its bytes. -/
def DagMlDataBytesView.ofText (text : String) : DagMlDataBytesView where
  ptr := some (bytes text)
  len := (bytes text).length

/-- A view of bytes with one row for each of the texts. -/
def testView (data : List UInt8) (shape : List Nat) (strides : List Int) (ids : List String) :
    DagMlDataBorrowedTensorView where
  abiVersion := borrowedTensorViewAbiVersion
  tensorId := .ofText "image"
  representationId := .ofText "pixels"
  container := .ofText "nd"
  dtype := 2
  data := some data
  dataLen := data.length
  shape := some shape
  stridesBytes := some strides
  rank := shape.length
  observationIds := some (ids.map .ofText)
  sampleIds := none
  idsLen := ids.length
  rowPresenceMask := none
  rowPresenceLen := 0

/-- An allocator that grants everything. -/
@[reducible] def ampleMemory : TensorAllocator := ⟨fun _ => true⟩

/-- Two rows of three bytes, stored column by column. -/
def columnMajorView : DagMlDataBorrowedTensorView :=
  testView [1, 2, 3, 4, 5, 6] [2, 3] [1, 2] ["r1", "r2"]

theorem columnMajorView_copies : ∃ input : NdTensorInput, input.data = [1, 3, 5, 2, 4, 6] ∧
    @CopiesElements steadyMachine ampleMemory columnMajorView 0 input := by
  have haccepted : ((@borrowedTensorViewToInput steadyMachine ampleMemory columnMajorView 0).map
      NdTensorInput.data).toOption = some [1, 3, 5, 2, 4, 6] := by
    decide +kernel
  cases h : @borrowedTensorViewToInput steadyMachine ampleMemory columnMajorView 0 with
  | error stop => rw [h] at haccepted; cases haccepted
  | ok input =>
    rw [h] at haccepted
    exact ⟨input, Option.some.inj haccepted,
      @borrowedTensorViewToInput_copies steadyMachine ampleMemory _ _ _ h⟩

end DagMlData
