import DagMlData.Collation
import DagMlData.NdTensor
import DagMlData.BufferWire
import DagMlData.Lib.Owned

/-!
# The memory of tensors and texts

The C ABI hands out texts and tensors as structs of pointers. Every pointer is a box of its own, and
the receiver gives a struct back with the free function of its type, which frees every box of it.

* `tensorMemory`: a receiver that takes texts and tensors and gives them back, in any order, has no
  fault, reads each as it was handed out for as long as it holds it, and leaves nothing behind.
-/

namespace DagMlData

open Guard RustText BufferFile Owned

/-! ## Cells and structs -/

/-- `DagMlDataString`. -/
structure DagMlDataString where
  ptr : Option Nat
  len : Nat
deriving DecidableEq

/-- What a box holds. A C string has a NUL after its text. -/
inductive TensorCell
  | cString (text : List UInt8)
  | strings (items : List DagMlDataString)
  | usizes (items : List Nat)
  | f64s (items : List F64)
  | u8s (items : List UInt8)

abbrev TensorHeap : Type := Heap TensorCell

abbrev DagMlDataStringArray : Type := CSlice
abbrev DagMlDataUSizeArray : Type := CSlice
abbrev DagMlDataF64Array : Type := CSlice
abbrev DagMlDataU8Array : Type := CSlice

namespace TensorCell

def stringSlices : Slices TensorCell DagMlDataString where
  cell := strings
  items
    | strings items => some items
    | _ => none
  items_cell _ := rfl

def usizeSlices : Slices TensorCell Nat where
  cell := usizes
  items
    | usizes items => some items
    | _ => none
  items_cell _ := rfl

def f64Slices : Slices TensorCell F64 where
  cell := f64s
  items
    | f64s items => some items
    | _ => none
  items_cell _ := rfl

def u8Slices : Slices TensorCell UInt8 where
  cell := u8s
  items
    | u8s items => some items
    | _ => none
  items_cell _ := rfl

end TensorCell

open TensorCell

structure DagMlDataTensorF64 where
  abiVersion : Nat
  blockId : DagMlDataString
  representationId : DagMlDataString
  batchContainer : DagMlDataString
  observationIds : DagMlDataStringArray
  sampleIds : DagMlDataStringArray
  shape : DagMlDataUSizeArray
  values : DagMlDataF64Array
  presenceMask : DagMlDataU8Array
  validityMask : DagMlDataU8Array
  featureNames : DagMlDataStringArray

structure DagMlDataOwnedTensor where
  abiVersion : Nat
  tensorId : DagMlDataString
  representationId : DagMlDataString
  container : DagMlDataString
  dtype : NdTensorDType
  observationIds : DagMlDataStringArray
  sampleIds : DagMlDataStringArray
  shape : DagMlDataUSizeArray
  data : DagMlDataU8Array
  rowPresenceMask : DagMlDataU8Array

/-! ## Texts -/

/-- `value.replace('\0', "\\0")`. -/
def sanitizeNul (value : String) : String :=
  String.ofList (value.toList.flatMap fun c => if c = '\x00' then ['\\', '0'] else [c])

/-- `owned_string`. -/
def ownedString (value : String) (h : TensorHeap) : DagMlDataString × TensorHeap :=
  let text := bytes (sanitizeNul value)
  let (a, h) := h.alloc (.cString text)
  (⟨some a, text.length⟩, h)

/-- The C string at an address. -/
def cStringAt (h : TensorHeap) (a : Nat) : Option (List UInt8) :=
  match h.get a with
  | some (.cString text) => some text
  | _ => none

/-- `dagmldata_string_free`. `CString::from_raw` takes the length up to the first NUL for the length
of the box. -/
def dagmldataStringFree (value : DagMlDataString) (h : TensorHeap) : Option TensorHeap :=
  match value.ptr with
  | none => some h
  | some a => do
    let text ← cStringAt h a
    if text.contains 0 then none else h.free a

/-- What a receiver reads. It may go by the length or by the NUL at the end. -/
def readString (value : DagMlDataString) (h : TensorHeap) : Option String :=
  match value.ptr with
  | none => some ""
  | some a => do
    let text ← cStringAt h a
    let upToNul := text.takeWhile (· != 0)
    if upToNul.length = value.len then fromUtf8 upToNul else none

/-- A text. -/
def textExport : Export TensorCell String DagMlDataString String where
  store := ownedString
  free := dagmldataStringFree
  read := readString
  meaning := sanitizeNul

/-! ## Arrays -/

/-- `owned_string_array`. -/
def ownedStringArray (values : List String) (h : TensorHeap) : DagMlDataStringArray × TensorHeap :=
  let (items, h) := Slices.storeAll textExport values h
  stringSlices.boxed.store items h

/-- `owned_usize_array`. -/
def ownedUsizeArray : List Nat → TensorHeap → DagMlDataUSizeArray × TensorHeap :=
  usizeSlices.boxed.store

/-- `owned_f64_array`. -/
def ownedF64Array : List F64 → TensorHeap → DagMlDataF64Array × TensorHeap :=
  f64Slices.boxed.store

/-- `owned_u8_array`. -/
def ownedU8Array : List UInt8 → TensorHeap → DagMlDataU8Array × TensorHeap :=
  u8Slices.boxed.store

/-- `owned_bool_array`. -/
def ownedBoolArray (values : Option (List Bool)) (h : TensorHeap) :
    DagMlDataU8Array × TensorHeap :=
  match values with
  | none => (⟨none, 0⟩, h)
  | some values => u8Slices.boxed.store (values.map boolByte) h

/-- The names of the features, where there are any. -/
def ownedFeatureNames (names : Option (List String)) (h : TensorHeap) :
    DagMlDataStringArray × TensorHeap :=
  match names with
  | none => (⟨none, 0⟩, h)
  | some names => ownedStringArray names h

/-- `free_string_array`. -/
def freeStringArray (array : DagMlDataStringArray) (h : TensorHeap) : Option TensorHeap :=
  match array.ptr with
  | none => some h
  | some a => do
    let h ← (List.range array.len).foldlM (fun h idx => do
      let items ← stringSlices.load h a
      let value ← items[idx]?
      dagmldataStringFree value h) h
    stringSlices.boxed.free array h

/-! ## Tensors -/

/-- `tensor_to_c`. -/
def tensorToC (tensor : NumericTensorBlock) (h : TensorHeap) : DagMlDataTensorF64 × TensorHeap :=
  let (blockId, h) := ownedString tensor.blockId h
  let (representationId, h) := ownedString tensor.representationId.value h
  let (batchContainer, h) := ownedString tensor.batchContainer h
  let (observationIds, h) := ownedStringArray (tensor.observationIds.map (·.value)) h
  let (sampleIds, h) := ownedStringArray (tensor.sampleIds.map (·.value)) h
  let (shape, h) := ownedUsizeArray tensor.shape h
  let (values, h) := ownedF64Array tensor.values h
  let (presenceMask, h) := ownedBoolArray tensor.presenceMask h
  let (validityMask, h) := ownedBoolArray tensor.validityMask h
  let (featureNames, h) := ownedFeatureNames tensor.featureNames h
  ({ abiVersion := 1
     blockId := blockId
     representationId := representationId
     batchContainer := batchContainer
     observationIds := observationIds
     sampleIds := sampleIds
     shape := shape
     values := values
     presenceMask := presenceMask
     validityMask := validityMask
     featureNames := featureNames }, h)

/-- `dagmldata_tensor_f64_free`. -/
def dagmldataTensorF64Free (tensor : DagMlDataTensorF64) (h : TensorHeap) : Option TensorHeap := do
  let h ← dagmldataStringFree tensor.blockId h
  let h ← dagmldataStringFree tensor.representationId h
  let h ← dagmldataStringFree tensor.batchContainer h
  let h ← freeStringArray tensor.observationIds h
  let h ← freeStringArray tensor.sampleIds h
  let h ← usizeSlices.boxed.free tensor.shape h
  let h ← f64Slices.boxed.free tensor.values h
  let h ← u8Slices.boxed.free tensor.presenceMask h
  let h ← u8Slices.boxed.free tensor.validityMask h
  freeStringArray tensor.featureNames h

/-- `owned_tensor_from_block`. -/
def ownedTensorFromBlock (block : NdTensorBlock) (h : TensorHeap) :
    DagMlDataOwnedTensor × TensorHeap :=
  let (tensorId, h) := ownedString block.tensorId h
  let (representationId, h) := ownedString block.representationId.value h
  let (container, h) := ownedString block.container h
  let (observationIds, h) := ownedStringArray (block.observationIds.map (·.value)) h
  let (sampleIds, h) := ownedStringArray (block.sampleIds.map (·.value)) h
  let (shape, h) := ownedUsizeArray block.shape h
  let (data, h) := ownedU8Array block.data h
  let (rowPresenceMask, h) := ownedBoolArray block.rowPresence h
  ({ abiVersion := 1
     tensorId := tensorId
     representationId := representationId
     container := container
     dtype := block.dtype
     observationIds := observationIds
     sampleIds := sampleIds
     shape := shape
     data := data
     rowPresenceMask := rowPresenceMask }, h)

/-- `dagmldata_nd_tensor_free`. -/
def dagmldataNdTensorFree (tensor : DagMlDataOwnedTensor) (h : TensorHeap) : Option TensorHeap := do
  let h ← dagmldataStringFree tensor.tensorId h
  let h ← dagmldataStringFree tensor.representationId h
  let h ← dagmldataStringFree tensor.container h
  let h ← freeStringArray tensor.observationIds h
  let h ← freeStringArray tensor.sampleIds h
  let h ← usizeSlices.boxed.free tensor.shape h
  let h ← u8Slices.boxed.free tensor.data h
  u8Slices.boxed.free tensor.rowPresenceMask h

/-! ## What a receiver reads -/

structure TensorRead where
  blockId : String
  representationId : String
  batchContainer : String
  observationIds : List String
  sampleIds : List String
  shape : List Nat
  values : List F64
  presenceMask : List UInt8
  validityMask : List UInt8
  featureNames : List String

structure OwnedTensorRead where
  dtype : NdTensorDType
  tensorId : String
  representationId : String
  container : String
  observationIds : List String
  sampleIds : List String
  shape : List Nat
  data : List UInt8
  rowPresenceMask : List UInt8

def readStringArray (array : DagMlDataStringArray) (h : TensorHeap) : Option (List String) := do
  let items ← stringSlices.boxed.read array h
  items.mapM fun item => readString item h

def readTensorF64 (tensor : DagMlDataTensorF64) (h : TensorHeap) : Option TensorRead := do
  let blockId ← readString tensor.blockId h
  let representationId ← readString tensor.representationId h
  let batchContainer ← readString tensor.batchContainer h
  let observationIds ← readStringArray tensor.observationIds h
  let sampleIds ← readStringArray tensor.sampleIds h
  let shape ← usizeSlices.boxed.read tensor.shape h
  let values ← f64Slices.boxed.read tensor.values h
  let presenceMask ← u8Slices.boxed.read tensor.presenceMask h
  let validityMask ← u8Slices.boxed.read tensor.validityMask h
  let featureNames ← readStringArray tensor.featureNames h
  pure ⟨blockId, representationId, batchContainer, observationIds, sampleIds, shape, values,
    presenceMask, validityMask, featureNames⟩

def readOwnedTensor (tensor : DagMlDataOwnedTensor) (h : TensorHeap) : Option OwnedTensorRead := do
  let tensorId ← readString tensor.tensorId h
  let representationId ← readString tensor.representationId h
  let container ← readString tensor.container h
  let observationIds ← readStringArray tensor.observationIds h
  let sampleIds ← readStringArray tensor.sampleIds h
  let shape ← usizeSlices.boxed.read tensor.shape h
  let data ← u8Slices.boxed.read tensor.data h
  let rowPresenceMask ← u8Slices.boxed.read tensor.rowPresenceMask h
  pure ⟨tensor.dtype, tensorId, representationId, container, observationIds,
    sampleIds, shape, data,
    rowPresenceMask⟩

/-- An absent mask is read as an empty one. -/
def maskBytes (mask : Option (List Bool)) : List UInt8 := (mask.getD []).map boolByte

/-- What is read of a tensor: its texts without NULs, its masks as bytes, the rest as it is. -/
def NumericTensorBlock.exported (tensor : NumericTensorBlock) : TensorRead where
  blockId := sanitizeNul tensor.blockId
  representationId := sanitizeNul tensor.representationId.value
  batchContainer := sanitizeNul tensor.batchContainer
  observationIds := tensor.observationIds.map fun id => sanitizeNul id.value
  sampleIds := tensor.sampleIds.map fun id => sanitizeNul id.value
  shape := tensor.shape
  values := tensor.values
  presenceMask := maskBytes tensor.presenceMask
  validityMask := maskBytes tensor.validityMask
  featureNames := (tensor.featureNames.getD []).map sanitizeNul

def NdTensorBlock.exported (block : NdTensorBlock) : OwnedTensorRead where
  dtype := block.dtype
  tensorId := sanitizeNul block.tensorId
  representationId := sanitizeNul block.representationId.value
  container := sanitizeNul block.container
  observationIds := block.observationIds.map fun id => sanitizeNul id.value
  sampleIds := block.sampleIds.map fun id => sanitizeNul id.value
  shape := block.shape
  data := block.data
  rowPresenceMask := maskBytes block.rowPresence

/-- Tensors of the collation. -/
def tensorF64Export : Export TensorCell NumericTensorBlock DagMlDataTensorF64 TensorRead where
  store := tensorToC
  free := dagmldataTensorF64Free
  read := readTensorF64
  meaning := NumericTensorBlock.exported

/-- Tensors of the tensor store. -/
def ownedTensorExport : Export TensorCell NdTensorBlock DagMlDataOwnedTensor OwnedTensorRead where
  store := ownedTensorFromBlock
  free := dagmldataNdTensorFree
  read := readOwnedTensor
  meaning := NdTensorBlock.exported

/-! ## Each export fits -/

theorem nul_not_mem_sanitizeNul (value : String) : '\x00' ∉ (sanitizeNul value).toList := by
  unfold sanitizeNul
  rw [String.toList_ofList, List.mem_flatMap]
  rintro ⟨c, -, hc⟩
  split at hc
  · simp at hc
  · next hne =>
    rw [List.mem_singleton] at hc
    exact hne hc.symm

theorem zero_ne_ofNat {n : Nat} (hpos : 0 < n) (hlt : n < 256) : (0 : UInt8) ≠ UInt8.ofNat n := by
  intro h
  have hnat := congrArg UInt8.toNat h
  rw [UInt8.toNat_ofNat_of_lt' hlt] at hnat
  exact hpos.ne hnat

/-- Only the NUL character has a zero byte. -/
theorem zero_not_mem_encodeChar {c : Char} (h : c ≠ '\x00') : 0 ∉ String.utf8EncodeChar c := by
  have hpos : 0 < c.val.toNat :=
    Nat.pos_of_ne_zero fun hzero => h (Char.ext (UInt32.toNat_inj.mp hzero))
  have hsmall : c.val.toNat < 0x110000 := by
    rcases c.valid with hlow | ⟨-, hhigh⟩
    · exact hlow.trans (by decide)
    · exact hhigh
  unfold String.utf8EncodeChar
  simp only
  split
  · simp only [List.mem_cons, List.not_mem_nil, or_false]
    exact zero_ne_ofNat hpos (by omega)
  · split
    · simp only [List.mem_cons, List.not_mem_nil, or_false, not_or]
      exact ⟨zero_ne_ofNat (by omega) (by omega), zero_ne_ofNat (by omega) (by omega)⟩
    · split
      · simp only [List.mem_cons, List.not_mem_nil, or_false, not_or]
        exact ⟨zero_ne_ofNat (by omega) (by omega), zero_ne_ofNat (by omega) (by omega),
          zero_ne_ofNat (by omega) (by omega)⟩
      · simp only [List.mem_cons, List.not_mem_nil, or_false, not_or]
        exact ⟨zero_ne_ofNat (by omega) (by omega), zero_ne_ofNat (by omega) (by omega),
          zero_ne_ofNat (by omega) (by omega), zero_ne_ofNat (by omega) (by omega)⟩

theorem zero_not_mem_sanitizeNul (value : String) : 0 ∉ bytes (sanitizeNul value) := by
  rw [bytes_eq_flatMap, List.mem_flatMap]
  rintro ⟨c, hc, hzero⟩
  refine zero_not_mem_encodeChar (fun heq => ?_) hzero
  exact nul_not_mem_sanitizeNul value (heq ▸ hc)

/-- The box of a text. -/
theorem textExport_owns (a : Nat) {text : String} (h : 0 ∉ bytes text) :
    textExport.Owns ⟨some a, (bytes text).length⟩ text [(a, .cString (bytes text))] where
  read heap rest his := by
    have htake : (bytes text).takeWhile (· != 0) = bytes text := by
      rw [List.takeWhile_eq_self_iff]
      intro byte hbyte
      rw [bne_iff_ne]
      rintro rfl
      exact h hbyte
    have hcell : cStringAt heap a = some (bytes text) := by
      unfold cStringAt
      rw [Heap.Is.get his]
    show (do let text ← cStringAt heap a; _) = _
    rw [hcell]
    show (if ((bytes text).takeWhile (· != 0)).length = (bytes text).length then
      fromUtf8 ((bytes text).takeWhile (· != 0)) else none) = _
    rw [htake, if_pos rfl]
    exact fromUtf8_eq_some.mpr rfl
  free heap rest his := by
    obtain ⟨heap', hfree, his'⟩ := Heap.Is.free his
    refine ⟨heap', ?_, his'⟩
    have hcell : cStringAt heap a = some (bytes text) := by
      unfold cStringAt
      rw [Heap.Is.get his]
    show (do let text ← cStringAt heap a; if text.contains 0 then none else heap.free a) = _
    rw [hcell]
    show (if (bytes text).contains 0 then none else heap.free a) = _
    rw [if_neg (by simpa using h)]
    exact hfree

theorem textExport_lawful : textExport.Lawful := fun value _ _ his =>
  ⟨_, textExport_owns _ (zero_not_mem_sanitizeNul value), his.alloc _⟩

/-! ### Arrays -/

/-- The arrays of texts. -/
def textsExport : Export TensorCell (List String) DagMlDataStringArray (List String) :=
  stringSlices.array textExport

theorem textsExport_lawful : textsExport.Lawful := stringSlices.array_lawful textExport_lawful

/-- Masks, where an absent one is an empty one. -/
def maskExport : Export TensorCell (Option (List Bool)) DagMlDataU8Array (List UInt8) :=
  u8Slices.boxed.comap maskBytes

theorem ownedBoolArray_eq (mask : Option (List Bool)) (h : TensorHeap) :
    ownedBoolArray mask h = maskExport.store mask h := by
  cases mask <;> rfl

theorem ownedFeatureNames_eq (names : Option (List String)) (h : TensorHeap) :
    ownedFeatureNames names h = textsExport.store (names.getD []) h := by
  cases names <;> rfl

/-! ### Tensors -/

/-- The fields of a tensor one after the other. -/
def tensorFields :=
  textExport.pair <| textExport.pair <| textExport.pair <| textsExport.pair <| textsExport.pair <|
    usizeSlices.boxed.pair <| f64Slices.boxed.pair <| maskExport.pair <| maskExport.pair textsExport

theorem tensorFields_lawful : tensorFields.Lawful :=
  textExport_lawful.pair <| textExport_lawful.pair <| textExport_lawful.pair <|
    textsExport_lawful.pair <| textsExport_lawful.pair <| (Slices.boxed_lawful _).pair <|
    (Slices.boxed_lawful _).pair <| ((Slices.boxed_lawful _).comap _).pair <|
    ((Slices.boxed_lawful _).comap _).pair textsExport_lawful

theorem tensorF64Export_lawful : tensorF64Export.Lawful := by
  refine tensorFields_lawful.transport
    (fun tensor => (tensor.blockId, tensor.representationId.value, tensor.batchContainer,
      tensor.observationIds.map (·.value), tensor.sampleIds.map (·.value), tensor.shape,
      tensor.values, tensor.presenceMask, tensor.validityMask, tensor.featureNames.getD []))
    (fun r => ⟨1, r.1, r.2.1, r.2.2.1, r.2.2.2.1, r.2.2.2.2.1, r.2.2.2.2.2.1, r.2.2.2.2.2.2.1,
      r.2.2.2.2.2.2.2.1, r.2.2.2.2.2.2.2.2.1, r.2.2.2.2.2.2.2.2.2⟩)
    (fun b => ⟨b.1, b.2.1, b.2.2.1, b.2.2.2.1, b.2.2.2.2.1, b.2.2.2.2.2.1, b.2.2.2.2.2.2.1,
      b.2.2.2.2.2.2.2.1, b.2.2.2.2.2.2.2.2.1, b.2.2.2.2.2.2.2.2.2⟩) ?_ ?_ ?_ ?_
  · intro tensor h
    show tensorToC tensor h = _
    unfold tensorToC
    simp only [ownedBoolArray_eq, ownedFeatureNames_eq]
    rfl
  · intro r h
    rfl
  · intro r h
    unfold tensorFields
    simp only [Export.map_pair_read]
    simp only [Option.map_eq_bind]
    rfl
  · intro tensor
    show NumericTensorBlock.exported tensor = _
    unfold NumericTensorBlock.exported
    simp only [tensorFields, Export.pair, textsExport, Slices.array, List.map_map]
    rfl

/-- The fields of a tensor of the store. The type is no memory. -/
def ownedTensorFields :=
  (Export.plain TensorCell NdTensorDType).pair <| textExport.pair <| textExport.pair <|
    textExport.pair <| textsExport.pair <| textsExport.pair <| usizeSlices.boxed.pair <|
    u8Slices.boxed.pair maskExport

theorem ownedTensorFields_lawful : ownedTensorFields.Lawful :=
  Export.plain_lawful.pair <| textExport_lawful.pair <| textExport_lawful.pair <|
    textExport_lawful.pair <| textsExport_lawful.pair <| textsExport_lawful.pair <|
    (Slices.boxed_lawful _).pair <| (Slices.boxed_lawful _).pair ((Slices.boxed_lawful _).comap _)

theorem ownedTensorExport_lawful : ownedTensorExport.Lawful := by
  refine ownedTensorFields_lawful.transport
    (fun block => (block.dtype, block.tensorId, block.representationId.value, block.container,
      block.observationIds.map (·.value), block.sampleIds.map (·.value), block.shape, block.data,
      block.rowPresence))
    (fun r => ⟨1, r.2.1, r.2.2.1, r.2.2.2.1, r.1, r.2.2.2.2.1, r.2.2.2.2.2.1, r.2.2.2.2.2.2.1,
      r.2.2.2.2.2.2.2.1, r.2.2.2.2.2.2.2.2⟩)
    (fun b => ⟨b.1, b.2.1, b.2.2.1, b.2.2.2.1, b.2.2.2.2.1, b.2.2.2.2.2.1, b.2.2.2.2.2.2.1,
      b.2.2.2.2.2.2.2.1, b.2.2.2.2.2.2.2.2⟩) ?_ ?_ ?_ ?_
  · intro block h
    show ownedTensorFromBlock block h = _
    unfold ownedTensorFromBlock
    simp only [ownedBoolArray_eq]
    rfl
  · intro r h
    rfl
  · intro r h
    unfold ownedTensorFields
    simp only [Export.map_pair_read]
    simp only [Option.map_eq_bind]
    rfl
  · intro block
    show NdTensorBlock.exported block = _
    unfold NdTensorBlock.exported
    simp only [ownedTensorFields, Export.pair, textsExport, Slices.array, List.map_map]
    rfl

/-! ## Receivers -/

/-- What the C ABI hands out on its heap: texts, tensors of the collation and of the store. -/
def abiExport :=
  textExport.either (tensorF64Export.either ownedTensorExport)

theorem abiExport_lawful : abiExport.Lawful :=
  textExport_lawful.either (tensorF64Export_lawful.either ownedTensorExport_lawful)

/-- A receiver that takes values and gives them back in any order runs into no fault, whatever else
is on the heap. At any time all that it holds reads as it was handed out, and when it gives back the
rest, the heap is as it was. -/
theorem tensorMemory (heap : TensorHeap) (others : List (Nat × TensorCell))
    (hheap : heap.Is others)
    (actions : List (Action (String ⊕ NumericTensorBlock ⊕ NdTensorBlock))) :
    ∃ c, Receiver.run abiExport ⟨heap, []⟩ actions = some c ∧
      c.held.mapM (fun r => abiExport.read r c.heap) =
        some (actions.foldl (Receiver.after abiExport) []) ∧
      ∃ c', Receiver.giveBackAll abiExport c = some c' ∧ c'.held = [] ∧
        c'.heap.Is others := by
  have hstart : Receiver.Holds abiExport ⟨heap, []⟩ [] others := ⟨[], .nil, hheap⟩
  obtain ⟨c, hrun, hholds⟩ := Receiver.run_is abiExport_lawful hstart actions
  exact ⟨c, hrun, hholds.read, hholds.giveBackAll abiExport_lawful⟩

/-- A tensor of one observation. -/
def oneByte : NdTensorBlock where
  tensorId := "T"
  representationId := .lit "nir" rfl
  container := "raw"
  dtype := .u8
  shape := [1, 1]
  observationIds := [.lit "o1" rfl]
  sampleIds := [.lit "s1" rfl]
  data := [7]
  rowPresence := none

/-- A text with a NUL and a tensor are taken, and the text is given back. -/
theorem tensorMemory_oneByte :
    ∃ c, Receiver.run abiExport ⟨Heap.empty, []⟩
        [.take (.inl "a\x00b"), .take (.inr (.inr oneByte)), .giveBack 0] = some c ∧
      c.held.mapM (fun r => abiExport.read r c.heap) = some [.inr (.inr oneByte.exported)] ∧
      ∃ c', Receiver.giveBackAll abiExport c = some c' ∧ c'.held = [] ∧ c'.heap.Is [] :=
  tensorMemory Heap.empty [] Heap.is_empty _

end DagMlData
