import DagMlData.ContentHash
import DagMlData.NdTensor

/-!
# Content fingerprints of buffers and tensors

The byte sequences that `NumericFeatureBuffer::fingerprint` and `NdTensor::fingerprint` feed to the
digest determine what they are made from (`preimage_determines_content`).
-/

namespace DagMlData

open Guard RustText StreamingHasher

/-- Every identifier has at most 128 bytes. -/
theorem length_bytes_ident {kind : IdKind}
    (id : Ident kind) : (bytes id.value).length < u64Size := by
  have h := (validateIdentifier_eq_ok.mp id.valid).2.1
  rw [length_bytes, u64Size]
  omega

/-! ## Feature buffers -/

namespace NumericFeatureBuffer

/-- The domain tag of feature buffers. -/
def domain : List UInt8 := bytes "dag-ml-data.numeric-feature-buffer.v2\x00"

variable (buffer : NumericFeatureBuffer)

/-- The cells of a row, column by column. -/
def absorbRow (hasher : StreamingHasher) (row : Nat) : StreamingHasher :=
  buffer.columns.foldl (fun hasher column => hasher.absorbCell (column.getD row none)) hasher

/-- The hasher that has absorbed the buffer. -/
def absorbed : StreamingHasher :=
  let hasher := StreamingHasher.new domain
    |>.absorbStr buffer.featureSetId
    |>.absorbStr buffer.representationId.value
    |>.absorbStrCollection buffer.featureNames
    |>.absorbStrCollection (buffer.observationIds.map (·.value))
    |>.absorbLen buffer.rowCount
    |>.absorbLen buffer.featureCount
  (List.range buffer.rowCount).foldl buffer.absorbRow hasher

def fingerprint [ThirdParty] : Result String := do
  buffer.validate
  pure buffer.absorbed.finalizeHex

/-- The lengths of the buffer are those of values in memory, which a `usize` counts. -/
structure InMemory : Prop where
  featureSetId : (bytes buffer.featureSetId).length < u64Size
  featureNames : buffer.featureNames.length < u64Size
  names : ∀ name ∈ buffer.featureNames, (bytes name).length < u64Size
  rows : buffer.observationIds.length < u64Size

/-- The two buffers have the same ids, names and cells. -/
structure SameContent (a b : NumericFeatureBuffer) : Prop where
  featureSetId : a.featureSetId = b.featureSetId
  representationId : a.representationId = b.representationId
  featureNames : a.featureNames = b.featureNames
  observationIds : a.observationIds = b.observationIds
  columns : a.columns = b.columns

/-- The cells of a row, in column order. -/
def rowCells (row : Nat) : List (Option F64) :=
    buffer.columns.map fun column => column.getD row none

theorem preimage_eq : buffer.absorbed.preimage = domain ++ (strBytes buffer.featureSetId ++
    (strBytes buffer.representationId.value ++ (strCollectionBytes buffer.featureNames ++
      (strCollectionBytes (buffer.observationIds.map (·.value)) ++
        (u64Bytes buffer.rowCount ++ (u64Bytes buffer.featureCount ++
          (List.range buffer.rowCount).flatMap fun row =>
            (buffer.rowCells row).flatMap cellBytes)))))) := by
  have hrow : ∀ hasher row, (buffer.absorbRow hasher row).content =
      hasher.content ++ (buffer.rowCells row).flatMap cellBytes := by
    intro hasher row
    have hfold := content_foldl (fun hasher column => content_absorbCell hasher
      (List.getD column row none)) hasher buffer.columns
    rw [absorbRow, hfold, rowCells, List.flatMap_map]
  rw [preimage_eq_content, absorbed, content_foldl hrow]
  simp only [content_absorbLen, content_absorbStrCollection, content_absorbStr, content_new,
    List.append_assoc]

/-- The cells of all rows are the columns. -/
theorem columns_eq_of_rowCells {a b : NumericFeatureBuffer} (ha : a.Shaped) (hb : b.Shaped)
    (hcount : a.featureNames.length = b.featureNames.length)
    (hrows : a.observationIds.length = b.observationIds.length)
    (hcells : ∀ row < a.rowCount, a.rowCells row = b.rowCells row) : a.columns = b.columns := by
  have hlength : a.columns.length = b.columns.length := by rw [ha.columns, hb.columns, hcount]
  refine List.ext_getElem hlength fun i hia hib => ?_
  have hra := ha.rows _ (List.getElem_mem hia)
  have hrb := hb.rows _ (List.getElem_mem hib)
  refine List.ext_getElem (by rw [hra, hrb, hrows]) fun row hrowa hrowb => ?_
  have hrow : row < a.rowCount := by rwa [rowCount, ← hra]
  have hcell := congrArg (fun cells => cells[i]?) (hcells row hrow)
  simpa [rowCells, hia, hib, hrowa, hrowb] using hcell

theorem preimage_iff {a b : NumericFeatureBuffer} (ha : a.Shaped) (hb : b.Shaped)
    (hma : a.InMemory) (hmb : b.InMemory) :
    a.absorbed.preimage = b.absorbed.preimage ↔ a.SameContent b := by
  have hnames : ∀ c : NumericFeatureBuffer, c.InMemory → c.featureNames.length < u64Size ∧
      ∀ name ∈ c.featureNames, (bytes name).length < u64Size :=
    fun c hc => ⟨hc.featureNames, hc.names⟩
  have hobservations : ∀ c : NumericFeatureBuffer, c.InMemory →
      (c.observationIds.map (·.value)).length < u64Size ∧
        ∀ id ∈ c.observationIds.map (·.value), (bytes id).length < u64Size := by
    intro c hc
    refine ⟨by rw [List.length_map]; exact hc.rows, fun id hid => ?_⟩
    obtain ⟨observationId, _, rfl⟩ := List.mem_map.mp hid
    exact length_bytes_ident observationId
  constructor
  · intro h
    rw [preimage_eq, preimage_eq, List.append_cancel_left_eq,
      selfDelimiting_strBytes.append_iff hma.featureSetId hmb.featureSetId,
      selfDelimiting_strBytes.append_iff (length_bytes_ident _) (length_bytes_ident _),
      selfDelimiting_strCollectionBytes.append_iff (hnames a hma) (hnames b hmb),
      selfDelimiting_strCollectionBytes.append_iff (hobservations a hma) (hobservations b hmb),
      selfDelimiting_u64Bytes.append_iff (a := a.rowCount) (b := b.rowCount) hma.rows hmb.rows,
      selfDelimiting_u64Bytes.append_iff (a := a.featureCount) (b := b.featureCount)
        hma.featureNames hmb.featureNames] at h
    obtain ⟨hid, hrep, hfeatures, hobs, hrows, hcount, hcells⟩ := h
    have hobs' := List.map_injective_iff.mpr Ident.value_injective hobs
    refine ⟨hid, Ident.value_injective hrep, hfeatures, hobs', ?_⟩
    -- Every row has as many cells, so the stream of cells splits row by row.
    have hcount' : a.columns.length = b.columns.length := by rw [ha.columns, hb.columns, hfeatures]
    have hcell := selfDelimiting_cellBytes.row b.columns.length
    have hstream := (@SelfDelimiting.flatMap _ _ _ _ hcell ((List.range a.rowCount).map a.rowCells)
      ((List.range b.rowCount).map b.rowCells) ?_ ?_ ?_ [] []).mp ?_
    · refine columns_eq_of_rowCells ha hb (congrArg List.length hfeatures) hrows fun row hrow => ?_
      have hat := congrArg (fun rows => rows[row]?) hstream.1
      have hrow' : row < b.rowCount := hrows ▸ hrow
      simpa [hrow, hrow'] using hat
    · rw [List.length_map, List.length_map, List.length_range, List.length_range]
      exact hrows
    · intro cells hmem
      obtain ⟨row, _, rfl⟩ := List.mem_map.mp hmem
      exact ⟨by rw [rowCells, List.length_map, hcount'], fun _ _ => trivial⟩
    · intro cells hmem
      obtain ⟨row, _, rfl⟩ := List.mem_map.mp hmem
      exact ⟨by rw [rowCells, List.length_map], fun _ _ => trivial⟩
    · rw [List.append_nil, List.append_nil, List.flatMap_map, List.flatMap_map]
      exact hcells
  · rintro ⟨hid, hrep, hnames', hobs, hcolumns⟩
    rw [preimage_eq, preimage_eq]
    simp only [rowCells, rowCount, featureCount, hid, hrep, hnames', hobs, hcolumns]

end NumericFeatureBuffer

/-! ## Tensors -/

namespace NdTensor

/-- The domain tag of tensors. -/
def domain : List UInt8 := bytes "dag-ml-data.nd-tensor.v2\x00"

variable (tensor : NdTensor)

/-- A flag as a byte. -/
def flagByte (present : Bool) : UInt8 := if present then 1 else 0

/-- The tag and the flags of the row presence. -/
def absorbPresence (hasher : StreamingHasher) : Option (List Bool) → StreamingHasher
  | none => hasher.absorbU64 0
  | some presence =>
    presence.foldl (fun hasher present => hasher.absorbRaw [flagByte present])
      ((hasher.absorbU64 1).absorbLen presence.length)

/-- The hasher that has absorbed the tensor. -/
def absorbed : StreamingHasher :=
  let hasher := StreamingHasher.new domain
    |>.absorbStr tensor.tensorId
    |>.absorbStr tensor.representationId.value
    |>.absorbStr tensor.container
    |>.absorbU64 tensor.dtype.fingerprintTag
    |>.absorbLen tensor.shape.length
  let hasher := tensor.shape.foldl absorbLen hasher
    |>.absorbStrCollection (tensor.observationIds.map (·.value))
    |>.absorbLen tensor.data.length
    |>.absorbRaw tensor.data
  absorbPresence hasher tensor.rowPresence

def fingerprint [ThirdParty] : Result String := pure tensor.absorbed.finalizeHex

/-- The lengths of the tensor are those of values in memory, which a `usize` counts. -/
structure InMemory : Prop where
  tensorId : (bytes tensor.tensorId).length < u64Size
  container : (bytes tensor.container).length < u64Size

/-- The two tensors have the same descriptors, bytes and row presence. -/
structure SameContent (a b : NdTensor) : Prop where
  tensorId : a.tensorId = b.tensorId
  representationId : a.representationId = b.representationId
  container : a.container = b.container
  dtype : a.dtype = b.dtype
  shape : a.shape = b.shape
  observationIds : a.observationIds = b.observationIds
  data : a.data = b.data
  rowPresence : a.rowPresence = b.rowPresence

/-- The row presence as it is absorbed. -/
def presenceBytes : Option (List Bool) → List UInt8
  | none => u64Bytes 0
  | some presence =>
    u64Bytes 1 ++ (u64Bytes presence.length ++ presence.flatMap fun present => [flagByte present])

theorem content_absorbPresence (hasher : StreamingHasher) (presence : Option (List Bool)) :
    (absorbPresence hasher presence).content = hasher.content ++ presenceBytes presence := by
  cases presence with
  | none => exact content_absorbU64 ..
  | some presence =>
    have hfold := content_foldl (fun hasher present => content_absorbRaw hasher [flagByte present])
      ((hasher.absorbU64 1).absorbLen presence.length) presence
    rw [absorbPresence, hfold]
    simp only [content_absorbLen, content_absorbU64, presenceBytes, List.append_assoc]

theorem preimage_eq : tensor.absorbed.preimage = domain ++ (strBytes tensor.tensorId ++
    (strBytes tensor.representationId.value ++ (strBytes tensor.container ++
      (u64Bytes tensor.dtype.fingerprintTag ++ ((u64Bytes tensor.shape.length ++
        tensor.shape.flatMap u64Bytes) ++
          (strCollectionBytes (tensor.observationIds.map (·.value)) ++
            ((u64Bytes tensor.data.length ++ tensor.data) ++
              presenceBytes tensor.rowPresence))))))) := by
  rw [preimage_eq_content, absorbed, content_absorbPresence]
  simp only [content_absorbRaw, content_absorbLen, content_absorbStrCollection,
    content_foldl content_absorbLen, content_absorbU64, content_absorbStr, content_new,
    List.append_assoc]

theorem selfDelimiting_flagByte : SelfDelimiting (fun _ : Bool => True)
    fun present => [flagByte present] := by
  refine .of_length (n := 1) (fun _ _ => rfl) fun a b _ _ heq => ?_
  cases a <;> cases b <;> first | rfl | cases heq

/-- The tag separates an absent presence from an empty one. -/
theorem selfDelimiting_presenceBytes : SelfDelimiting
    (fun presence : Option (List Bool) => ∀ flags, presence = some flags →
      flags.length < u64Size)
    presenceBytes := by
  intro a b ha hb s t heq
  have hzero : (0 : Nat) < u64Size := by decide
  have hone : (1 : Nat) < u64Size := by decide
  cases a with
  | none =>
    cases b with
    | none => exact ⟨rfl, List.append_cancel_left heq⟩
    | some flags =>
      rw [presenceBytes, presenceBytes, List.append_assoc,
        selfDelimiting_u64Bytes.append_iff hzero hone] at heq
      cases heq.1
  | some flags =>
    cases b with
    | none =>
      rw [presenceBytes, presenceBytes, List.append_assoc,
        selfDelimiting_u64Bytes.append_iff hone hzero] at heq
      cases heq.1
    | some flags' =>
      have hcounted := selfDelimiting_u64Bytes.counted selfDelimiting_flagByte
      simp only [presenceBytes, List.append_assoc, List.append_cancel_left_eq] at heq
      obtain ⟨hflags, hst⟩ := hcounted ⟨ha flags rfl, fun _ _ => trivial⟩
        ⟨hb flags' rfl, fun _ _ => trivial⟩ (by simpa only [List.append_assoc] using heq)
      exact ⟨by rw [hflags], hst⟩

variable {tensor}

/-- No dimension of a built tensor is larger than its data. -/
theorem Built.dim_lt (h : tensor.Built) : ∀ dim ∈ tensor.shape, dim < u64Size := by
  intro dim hdim
  have hpos : 0 < tensor.shape.prod :=
    List.prod_pos fun n hn => Nat.pos_of_ne_zero fun hz => h.positive (hz ▸ hn)
  have hdvd : dim ∣ tensor.shape.prod := List.dvd_prod hdim
  calc dim ≤ tensor.shape.prod := Nat.le_of_dvd hpos hdvd
    _ ≤ tensor.shape.prod * tensor.dtype.elementSize :=
      Nat.le_mul_of_pos_right _ tensor.dtype.elementSize_pos
    _ < u64Size := h.size ▸ h.fits

theorem Built.observations_lt (h : tensor.Built) : tensor.observationIds.length < u64Size := by
  rw [h.rowCount]
  cases hshape : tensor.shape with
  | nil => exact absurd hshape h.rank.1
  | cons dim dims => exact h.dim_lt dim (by rw [hshape]; exact List.mem_cons_self)

theorem preimage_iff {a b : NdTensor} (ha : a.Built) (hb : b.Built) (hma : a.InMemory)
    (hmb : b.InMemory) : a.absorbed.preimage = b.absorbed.preimage ↔ a.SameContent b := by
  have htag : ∀ c : NdTensor, c.dtype.fingerprintTag < u64Size := by
    intro c
    cases c.dtype <;> decide
  have hshape : ∀ c : NdTensor, c.Built → c.shape.length < u64Size ∧
      ∀ dim ∈ c.shape, dim < u64Size :=
    fun c hc => ⟨lt_of_le_of_lt hc.rank.2 (by decide), hc.dim_lt⟩
  have hobservations : ∀ c : NdTensor, c.Built →
      (c.observationIds.map (·.value)).length < u64Size ∧
        ∀ id ∈ c.observationIds.map (·.value), (bytes id).length < u64Size := by
    intro c hc
    refine ⟨by rw [List.length_map]; exact hc.observations_lt, fun id hid => ?_⟩
    obtain ⟨observationId, _, rfl⟩ := List.mem_map.mp hid
    exact length_bytes_ident observationId
  have hpresence : ∀ c : NdTensor, c.Built → ∀ flags, c.rowPresence = some flags →
      flags.length < u64Size := by
    intro c hc flags hflags
    rw [hc.presence flags hflags]
    exact hc.observations_lt
  have hdims := selfDelimiting_u64Bytes.counted selfDelimiting_u64Bytes
  have hdata : SelfDelimiting (fun raw : List UInt8 => raw.length < u64Size)
      fun raw => u64Bytes raw.length ++ raw :=
    selfDelimiting_u64Bytes.sized Function.injective_id
  rw [preimage_eq, preimage_eq, List.append_cancel_left_eq,
    selfDelimiting_strBytes.append_iff hma.tensorId hmb.tensorId,
    selfDelimiting_strBytes.append_iff (length_bytes_ident _) (length_bytes_ident _),
    selfDelimiting_strBytes.append_iff hma.container hmb.container,
    selfDelimiting_u64Bytes.append_iff (htag a) (htag b),
    hdims.append_iff (hshape a ha) (hshape b hb),
    selfDelimiting_strCollectionBytes.append_iff (hobservations a ha) (hobservations b hb),
    hdata.append_iff ha.fits hb.fits,
    selfDelimiting_presenceBytes.eq_iff (hpresence a ha) (hpresence b hb)]
  constructor
  · rintro ⟨hid, hrep, hcontainer, hdtype, hshape', hobs, hbytes, hflags⟩
    exact ⟨hid, Ident.value_injective hrep, hcontainer,
      NdTensorDType.fingerprintTag_injective hdtype, hshape',
      List.map_injective_iff.mpr Ident.value_injective hobs, hbytes, hflags⟩
  · rintro ⟨hid, hrep, hcontainer, hdtype, hshape', hobs, hbytes, hflags⟩
    rw [hrep, hdtype, hobs]
    exact ⟨hid, rfl, hcontainer, rfl, hshape', rfl, hbytes, hflags⟩

end NdTensor

/-! ## Both kinds together -/

/-- The domain tags differ before either of them ends. -/
theorem buffer_preimage_ne_tensor (buffer : NumericFeatureBuffer) (tensor : NdTensor) :
    buffer.absorbed.preimage ≠ tensor.absorbed.preimage := by
  intro h
  rw [NumericFeatureBuffer.preimage_eq, NdTensor.preimage_eq] at h
  have htake := congrArg (List.take 14) h
  have hbuffer : 14 ≤ NumericFeatureBuffer.domain.length := by decide +kernel
  have htensor : 14 ≤ NdTensor.domain.length := by decide +kernel
  rw [List.take_append_of_le_length hbuffer, List.take_append_of_le_length htensor] at htake
  exact absurd htake (by decide +kernel)

/-- The digest does not map the two sequences to one value, unless they are equal. -/
def DigestSeparates [ThirdParty] (xs ys : List UInt8) : Prop :=
  ThirdParty.sha256 xs = ThirdParty.sha256 ys → xs = ys

theorem preimage_eq_of_finalizeHex [ThirdParty] {a b : StreamingHasher}
    (hdigest : DigestSeparates a.preimage b.preimage) (h : a.finalizeHex = b.finalizeHex) :
    a.preimage = b.preimage :=
  hdigest (Vector.toList_inj.mp (toHex_injective h))

/-- The bytes that are fed to the digest determine the content of a valid buffer and of a tensor,
and tell the two kinds apart. So do the fingerprints, where the digest separates the bytes. -/
theorem preimage_determines_content [ThirdParty] :
    (∀ a b : NumericFeatureBuffer, a.validate = .ok () → b.validate = .ok () →
      a.InMemory → b.InMemory →
      (a.absorbed.preimage = b.absorbed.preimage ↔ a.SameContent b) ∧
      (DigestSeparates a.absorbed.preimage b.absorbed.preimage →
        a.fingerprint = b.fingerprint → a.SameContent b)) ∧
    (∀ (i j : NdTensorInput) (a b : NdTensor), NdTensor.fromInput i = .ok a →
      NdTensor.fromInput j = .ok b → a.InMemory → b.InMemory →
      (a.absorbed.preimage = b.absorbed.preimage ↔ a.SameContent b) ∧
      (DigestSeparates a.absorbed.preimage b.absorbed.preimage →
        a.fingerprint = b.fingerprint → a.SameContent b)) ∧
    ∀ (buffer : NumericFeatureBuffer) (tensor : NdTensor),
      buffer.absorbed.preimage ≠ tensor.absorbed.preimage := by
  refine ⟨fun a b ha hb hma hmb => ?_, fun i j a b ha hb hma hmb => ?_,
    buffer_preimage_ne_tensor⟩
  · have hiff := NumericFeatureBuffer.preimage_iff (NumericFeatureBuffer.validate_eq_ok.mp ha)
      (NumericFeatureBuffer.validate_eq_ok.mp hb) hma hmb
    refine ⟨hiff, fun hdigest hprint => hiff.mp (preimage_eq_of_finalizeHex hdigest ?_)⟩
    rw [NumericFeatureBuffer.fingerprint, NumericFeatureBuffer.fingerprint, ha, hb] at hprint
    exact Except.ok.inj hprint
  · have hiff := NdTensor.preimage_iff (NdTensor.fromInput_built ha) (NdTensor.fromInput_built hb)
      hma hmb
    exact ⟨hiff, fun hdigest hprint =>
      hiff.mp (preimage_eq_of_finalizeHex hdigest (Except.ok.inj hprint))⟩

/-- One feature of one observation. -/
def oneCell (cell : Option F64) : NumericFeatureBuffer where
  featureSetId := "x"
  representationId := .lit "tabular" rfl
  featureNames := ["a"]
  observationIds := [.lit "o1" rfl]
  columns := [[cell]]
  rowIndexByObservation := rowIndex [.lit "o1" rfl]

/-- One byte of one observation. -/
def oneByteInput (dtype : NdTensorDType) : NdTensorInput where
  tensorId := "x"
  representationId := .lit "tabular" rfl
  container := "dense"
  dtype := dtype
  shape := [1, 1]
  observationIds := [.lit "o1" rfl]
  sampleIds := none
  data := [1]
  rowPresence := none

/-- SHA-256 on the bytes of two such buffers. -/
@[reducible] def cellDigests : ThirdParty :=
  { ThirdParty.ofTable [] with
    sha256 := fun content => digestOfHex
      (if content = (oneCell none).absorbed.preimage then
        "9d85259cf845cb87db9f9817bcbb9367d72c25d1b43d109db20f4fa906adf90c"
      else "8240eabb868b8379dcaf4bfabbdf4bc0d0e66fbcee19def4bef98e67a2d5ca9d") }

/-- A missing cell is not a zero, and a byte is not a flag. -/
theorem oneCell_preimage :
    letI := cellDigests
    (oneCell none).absorbed.preimage ≠ (oneCell (some .zero)).absorbed.preimage ∧
      (oneCell none).fingerprint ≠ (oneCell (some .zero)).fingerprint ∧
      ∃ a b, NdTensor.fromInput (oneByteInput .u8) = .ok a ∧
        NdTensor.fromInput (oneByteInput .bool) = .ok b ∧
        a.absorbed.preimage ≠ b.absorbed.preimage := by
  let _ := cellDigests
  obtain ⟨hbuffers, htensors, -⟩ := preimage_determines_content
  have hnames : ∀ name ∈ ["a"], (bytes name).length < u64Size := by decide
  have hone : 1 < u64Size := by decide
  obtain ⟨hpreimage, hfingerprint⟩ := hbuffers (oneCell none) (oneCell (some .zero))
    (by decide +kernel) (by decide +kernel) ⟨hone, hone, hnames, hone⟩
      ⟨hone, hone, hnames, hone⟩
  have hne : ¬ (oneCell none).SameContent (oneCell (some .zero)) := by
    intro hsame
    cases hsame.columns
  have hseparates : DigestSeparates (oneCell none).absorbed.preimage
      (oneCell (some .zero)).absorbed.preimage := by
    intro hdigest
    exact absurd hdigest (by decide +kernel)
  refine ⟨fun h => hne (hpreimage.mp h), fun h => hne (hfingerprint hseparates h), _, _, rfl, rfl,
    fun h => ?_⟩
  obtain ⟨hpreimage, -⟩ := htensors (oneByteInput .u8) (oneByteInput .bool) _ _ rfl rfl
    ⟨hone, show 5 < u64Size by decide⟩ ⟨hone, show 5 < u64Size by decide⟩
  cases (hpreimage.mp h).dtype

end DagMlData
