import DagMlData.BufferWire

/-!
# Reading back what was written

* `deserialize_safe`: on arbitrary bytes the reader does not panic and stays within the input,
  and what it accepts is the header, the wire forms of the buffers it returns, and the digest.
* `columnar_store_round_trip`: a store is read back from the bytes it was written to, and a store
  that was read is read back from the bytes that it would be written to.
-/

namespace DagMlData.BufferFile

open Guard RustText Loading

/-! ## The writer emits wire forms -/

theorem writeEach_eq_some {α : Type} {write : α → Option (List UInt8)} {items : List α}
    {chunk : List UInt8} :
    writeEach write items = some chunk ↔ WireAll (Written write) items chunk := by
  have hmapM : ∀ {items : List α} {chunks : List (List UInt8)},
      items.mapM write = some chunks ↔ List.Forall₂ (Written write) items chunks := by
    intro items
    induction items with
    | nil => simp [eq_comm]
    | cons item items ih =>
      intro chunks
      simp only [List.mapM_cons, Option.bind_eq_bind, Option.bind_eq_some_iff, ih,
        List.forall₂_cons_left_iff]
      constructor
      · rintro ⟨c, hc, cs, hcs, heq⟩
        cases heq
        exact ⟨c, cs, hc, hcs, rfl⟩
      · rintro ⟨c, cs, hc, hcs, rfl⟩
        exact ⟨c, hc, cs, hcs, rfl⟩
  simp only [writeEach, Option.map_eq_some_iff, hmapM, WireAll, eq_comm]

theorem debugAssertLen_eq_some {len expected : Nat} (h : len = expected)
    (hlt : expected < 2 ^ 32) : debugAssertLen len expected = some () := by
  unfold debugAssertLen
  rw [if_pos (by rw [h]; exact Nat.mod_eq_of_lt hlt)]

variable {matrix : NumericFeatureMatrixF64Columnar}

/-- A buffer that fits its dimensions is written as its parts: no assertion fails. -/
theorem BufferParts.writeBuffer_eq (parts : BufferParts matrix) :
    writeBuffer matrix = some parts.toBytes := by
  have hrows : matrix.observationIds.length < 2 ^ 32 := (writeU32_eq_some.mp parts.rowsWire).1
  have hfeatures : matrix.featureNames.length < 2 ^ 32 := (writeU32_eq_some.mp parts.featuresWire).1
  have hnames : writeEach writeString matrix.featureNames = some parts.names :=
    writeEach_eq_some.mpr parts.namesWire
  have hobservations : writeEach (fun o : ObservationId => writeString o.value)
      matrix.observationIds = some parts.observations :=
    writeEach_eq_some.mpr parts.observationsWire
  have hcolumns : writeEach (writeColumn matrix.observationIds.length) matrix.columns =
      some parts.columns := by
    refine writeEach_eq_some.mpr (WireAll.imp parts.columnsWire fun column _ c hc => ?_)
    obtain ⟨hlen, rfl⟩ := hc
    simp [Written, writeColumn, debugAssertLen_eq_some hlen hrows]
  have hmasks : writeMasks matrix.observationIds.length matrix.featureNames.length
      matrix.validityMasks = some parts.masks := by
    have hwire := parts.masksWire
    cases hm : matrix.validityMasks with
    | none =>
      rw [hm] at hwire
      exact congrArg some hwire.symm
    | some masks =>
      rw [hm] at hwire
      obtain ⟨hcount, hall⟩ := hwire
      simp only [writeMasks, debugAssertLen_eq_some hcount hfeatures, Option.bind_eq_bind,
        Option.bind_some]
      refine writeEach_eq_some.mpr (WireAll.imp hall fun mask _ c hc => ?_)
      obtain ⟨hlen, rfl⟩ := hc
      simp [Written, writeMask, debugAssertLen_eq_some hlen hrows]
  have hid : writeString matrix.featureSetId = some parts.featureSetId := parts.featureSetIdWire
  have hrepresentation : writeString matrix.representationId.value = some parts.representationId :=
    parts.representationIdWire
  have hrowsWire : writeU32 matrix.observationIds.length = some parts.rows := parts.rowsWire
  have hfeaturesWire : writeU32 matrix.featureNames.length = some parts.features :=
    parts.featuresWire
  simp only [writeBuffer, hid, hrepresentation, hrowsWire, hfeaturesWire, hnames, hobservations,
    hcolumns, hmasks, Option.bind_eq_bind, Option.bind_some, BufferParts.toBytes, BufferParts.body]

/-- Two string lengths, two dimensions and a flag. -/
theorem seventeen_le_length_buffer {chunk : List UInt8} (h : BufferWire matrix chunk) :
    17 ≤ chunk.length := by
  obtain ⟨parts, rfl⟩ := h
  have hid := four_le_length_string parts.featureSetIdWire
  have hrepresentation := four_le_length_string parts.representationIdWire
  obtain ⟨_, hrows⟩ := writeU32_eq_some.mp parts.rowsWire
  obtain ⟨_, hfeatures⟩ := writeU32_eq_some.mp parts.featuresWire
  simp only [BufferParts.toBytes, List.length_append, ← hrows, ← hfeatures, length_leBytes,
    List.length_singleton]
  omega

/-! ## Stores that fit the format -/

/-- The counts and the string lengths of the buffer fit in a `u32`, and its cells, of sixteen
bytes each, fit in the address space. -/
structure BufferFits (buffer : NumericFeatureBuffer) : Prop where
  featureSetId : (bytes buffer.featureSetId).length < 2 ^ 32
  names : ∀ name ∈ buffer.featureNames, (bytes name).length < 2 ^ 32
  rows : buffer.rowCount < 2 ^ 32
  features : buffer.featureCount < 2 ^ 32
  cells : buffer.rowCount * buffer.featureCount * 16 ≤ 2 ^ 64

structure StoreFits (store : NumericFeatureBufferStore) : Prop where
  count : store.buffers.size < 2 ^ 32
  buffers : ∀ (key : String) (buffer : NumericFeatureBuffer),
    store.buffers[key]? = some buffer → BufferFits buffer

theorem stringWire_of_lt {value : String} (h : (bytes value).length < 2 ^ 32) :
    StringWire value (leBytes 4 (bytes value).length ++ bytes value) :=
  writeString_eq_some.mpr ⟨h, rfl⟩

/-- An identifier always fits: it has at most 128 bytes. -/
theorem identWire {kind : IdKind} (ident : Ident kind) :
    IdentWire ident (leBytes 4 (bytes ident.value).length ++ bytes ident.value) := by
  refine stringWire_of_lt ?_
  obtain ⟨_, hlen, _⟩ := validateIdentifier_eq_ok.mp ident.valid
  rw [length_bytes]
  omega

/-- The matrix of a valid buffer that fits has a wire form. -/
theorem exists_bufferWire {buffer : NumericFeatureBuffer} (hshaped : buffer.Shaped)
    (hfinite : buffer.Finite) (hfits : BufferFits buffer) :
    ∃ chunk, BufferWire buffer.toF64ColumnMatrix chunk ∧ CellsFit buffer.toF64ColumnMatrix := by
  have hvalid := NumericFeatureBuffer.toF64ColumnMatrix_valid hshaped hfinite
  have hcolumns : ∀ column ∈ buffer.toF64ColumnMatrix.columns,
      ColumnWire buffer.observationIds.length column (column.flatMap F64.toLeBytes) := by
    intro column hcolumn
    obtain ⟨i, hi⟩ := List.getElem?_of_mem hcolumn
    exact ⟨(hvalid.column i column hi).rows, rfl⟩
  have hmasks : ∃ masks, MasksWire buffer.observationIds.length buffer.featureNames.length
      buffer.toF64ColumnMatrix.validityMasks masks := by
    cases hm : buffer.toF64ColumnMatrix.validityMasks with
    | none => exact ⟨[], rfl⟩
    | some masks =>
      refine ⟨masks.flatMap fun mask => mask.map boolByte, hvalid.masks masks hm,
        wireAll_of_forall fun mask hmask => ⟨?_, rfl⟩⟩
      obtain ⟨i, hi⟩ := List.getElem?_of_mem hmask
      have hlt : i < buffer.toF64ColumnMatrix.columns.length := by
        rw [hvalid.columns, ← hvalid.masks masks hm]
        exact (List.getElem?_eq_some_iff.mp hi).1
      refine (hvalid.column i _ (List.getElem?_eq_getElem hlt)).mask mask ?_
      rw [NumericFeatureMatrixF64Columnar.maskOf, hm, Option.map_some, List.getD_eq_getElem?_getD,
        hi, Option.getD_some]
  obtain ⟨masks, hmasks⟩ := hmasks
  have hcells : buffer.observationIds.length * buffer.featureNames.length * 16 ≤ 2 ^ 64 :=
    hfits.cells
  let parts : BufferParts buffer.toF64ColumnMatrix :=
    ⟨_, _, _, _, _, _, _, masks, stringWire_of_lt hfits.featureSetId,
      identWire buffer.representationId, writeU32_eq_some.mpr ⟨hfits.rows, rfl⟩,
      writeU32_eq_some.mpr ⟨hfits.features, rfl⟩,
      wireAll_of_forall fun name hname => stringWire_of_lt (hfits.names name hname),
      wireAll_of_forall fun observation _ => identWire observation,
      hvalid.columns, wireAll_of_forall hcolumns, hmasks⟩
  refine ⟨parts.toBytes, ⟨parts, rfl⟩, ?_⟩
  show buffer.observationIds.length * buffer.featureNames.length * 9 < u64Size
  unfold u64Size
  omega

/-! ## Whole files -/

section Files
variable [ThirdParty] [Machine]

/-- The run of the reader on a file. -/
def load (file : List UInt8) : Except (Stop DataError) NumericFeatureBufferStore × Trace :=
  deserializeColumnarStore file Trace.empty

/-- The bytes of a file up to the digest. -/
def payloadOf (count : Nat) (buffers : List UInt8) : List UInt8 :=
  magic ++ (leBytes 4 formatVersion ++ (leBytes 4 count ++ buffers))

/-- A file is a payload and its digest. -/
def fileOf (count : Nat) (buffers : List UInt8) : List UInt8 :=
  payloadOf count buffers ++ (ThirdParty.sha256 (payloadOf count buffers)).toList

omit [ThirdParty] [Machine] in
theorem length_payloadOf (count : Nat) (buffers : List UInt8) :
    (payloadOf count buffers).length = 12 + buffers.length := by
  have hmagic : magic.length = 4 := by decide
  simp only [payloadOf, List.length_append, hmagic, length_leBytes]
  omega

omit [Machine] in
theorem length_fileOf (count : Nat) (buffers : List UInt8) :
    (fileOf count buffers).length = 12 + buffers.length + 32 := by
  rw [fileOf, List.length_append, length_payloadOf, Vector.length_toList]

omit [Machine] in
/-- `serialize_columnar_store` writes the wire forms of the matrices of the store. -/
theorem serializeColumnarStore_eq {store : NumericFeatureBufferStore} (h : store.Valid)
    (hcount : store.buffers.size < 2 ^ 32) {buffers : List UInt8}
    (hbuffers : WireAll BufferWire store.toF64ColumnMatrices buffers) :
    serializeColumnarStore store = some (fileOf store.buffers.size buffers) := by
  have hkeyed : ∀ entry ∈ store.buffers.toList, entry.1 = entry.2.featureSetId := by
    intro entry hentry
    exact (h.keyed entry.1 entry.2
      (Std.ExtTreeMap.mem_toList_iff_getElem?_eq_some.mp hentry)).symm
  have hwrite : writeEach (fun entry : String × NumericFeatureBuffer =>
      if entry.1 = entry.2.featureSetId then writeBuffer entry.2.toF64ColumnMatrix else none)
      store.buffers.toList = some buffers := by
    rw [writeEach_eq_some]
    obtain ⟨chunks, hall, rfl⟩ := hbuffers
    rw [NumericFeatureBufferStore.toF64ColumnMatrices, List.forall₂_map_left_iff] at hall
    refine WireAll.imp ⟨chunks, hall, rfl⟩ fun entry hentry c hc => ?_
    obtain ⟨parts, rfl⟩ := hc
    show (if entry.1 = entry.2.featureSetId then _ else none) = some parts.toBytes
    rw [if_pos (hkeyed entry hentry)]
    exact parts.writeBuffer_eq
  have hsize : writeU32 store.buffers.size = some (leBytes 4 store.buffers.size) :=
    writeU32_eq_some.mpr ⟨hcount, rfl⟩
  simp only [serializeColumnarStore, writePayload, hsize, hwrite, Option.bind_eq_bind,
    Option.bind_some]
  rfl

omit [ThirdParty] [Machine] in
theorem returns_readU32At {input : List UInt8} {limit offset n : Nat}
    (hlimit : limit ≤ input.length) (hn : n < 2 ^ 32)
    (hspan : Span input limit offset (leBytes 4 n)) : Returns (readU32 input offset) n := by
  have hslice : Returns (Loader.slice input offset (offset + (leBytes 4 n).length) :
      Loader DataError _) (leBytes 4 n) := returns_sliceNext hlimit hspan
  have hinside := hspan.inside
  rw [length_leBytes] at hslice hinside
  refine Returns.bind (returns_add offset 4) ?_
  refine returns_guard (by omega) ?_
  refine Returns.bind hslice ?_
  have hvalue : leValue (leBytes 4 n) = n := leValue_leBytes hn
  rw [hvalue]
  exact returns_pure n

/-- A file of wire forms is read: the reader makes a store of the matrices. -/
theorem load_fileOf (hgrants : AllGranted) {matrices : List NumericFeatureMatrixF64Columnar}
    {store : NumericFeatureBufferStore} {buffers : List UInt8}
    (hcount : matrices.length < 2 ^ 32)
    (hbuffers : WireAll (fun matrix chunk => BufferWire matrix chunk ∧ CellsFit matrix) matrices
      buffers)
    (hstore : NumericFeatureBufferStore.fromF64ColumnMatrices matrices = .ok store) :
    (load (fileOf matrices.length buffers)).1 = .ok store := by
  suffices h : Returns (deserializeColumnarStore (fileOf matrices.length buffers)) store from h _
  have hlength := length_fileOf matrices.length buffers
  have hpayload := length_payloadOf matrices.length buffers
  have hmagic : magic.length = 4 := by decide
  have hend : (fileOf matrices.length buffers).length - trailerLen =
      (payloadOf matrices.length buffers).length := by
    rw [hlength, hpayload]
    rfl
  have hspan : Span (fileOf matrices.length buffers) (payloadOf matrices.length buffers).length 0
      (payloadOf matrices.length buffers) :=
    ⟨List.prefix_append _ _, by omega⟩
  have hinput : (payloadOf matrices.length buffers).length ≤
      (fileOf matrices.length buffers).length := by omega
  obtain ⟨hmagicSpan, hrest⟩ := span_append.mp hspan
  obtain ⟨hversion, hrest⟩ := span_append.mp hrest
  obtain ⟨hcountSpan, hbuffersSpan⟩ := span_append.mp hrest
  simp only [hmagic, length_leBytes, Nat.zero_add,
    Nat.reduceAdd] at hversion hcountSpan hbuffersSpan
  have htrailer : ((fileOf matrices.length buffers).drop
      (payloadOf matrices.length buffers).length).take ((fileOf matrices.length buffers).length -
        (payloadOf matrices.length buffers).length) =
      (ThirdParty.sha256 (payloadOf matrices.length buffers)).toList := by
    rw [fileOf, List.drop_left, List.take_of_length_le]
    rw [List.length_append]
    omega
  -- From here the reads stand in the order in which the reader makes them.
  refine returns_guard (by rw [hlength]; unfold trailerLen; omega) ?_
  refine Returns.bind (returns_slice (Nat.zero_le 4) (by omega) hmagicSpan.take_eq) ?_
  refine returns_guard (not_not.mpr rfl) ?_
  refine Returns.bind (returns_sub (by rw [hlength]; unfold trailerLen; omega)) ?_
  rw [hend]
  refine Returns.bind (returns_slice (Nat.zero_le _) hinput (List.take_left)) ?_
  refine Returns.bind (returns_slice hinput le_rfl htrailer) ?_
  refine returns_guard (not_not.mpr rfl) ?_
  refine Returns.bind (returns_readU32At hinput (by unfold formatVersion; omega) hversion) ?_
  refine returns_guard (not_not.mpr rfl) ?_
  refine Returns.bind (returns_readU32At hinput hcount hcountSpan) ?_
  have hcountFits : 12 + matrices.length * 17 ≤ (payloadOf matrices.length buffers).length := by
    have h := hbuffers.le_length (k := 17) fun _ _ c hc => seventeen_le_length_buffer hc.1
    omega
  refine Returns.bind (returns_ensureCountFits (by unfold u64Size; omega) hcountFits) ?_
  refine Returns.bind (returns_reservedVec hgrants _) ?_
  refine Returns.bind (decodes_readMany (decodes_readBuffer hinput hgrants) matrices buffers 12
    hbuffers hbuffersSpan) ?_
  show Returns (if 12 + buffers.length ≠
    (payloadOf matrices.length buffers).length then _ else _) _
  rw [if_neg (not_not.mpr hpayload.symm)]
  refine Returns.bind (returns_reserveAll _) ?_
  exact returns_lift hstore

/-- What the reader accepts: a file of wire forms of matrices that make the store. -/
def Accepted (file : List UInt8) (store : NumericFeatureBufferStore) : Prop :=
  ∃ (matrices : List NumericFeatureMatrixF64Columnar) (buffers : List UInt8),
    matrices.length < 2 ^ 32 ∧ WireAll BufferWire matrices buffers ∧
      file = fileOf matrices.length buffers ∧
      NumericFeatureBufferStore.fromF64ColumnMatrices matrices = .ok store

omit [ThirdParty] [Machine] in
theorem safe_readU32At {input : List UInt8} {limit offset : Nat} (hlimit : limit ≤ input.length)
    (hfits : offset + 4 ≤ limit) :
    Safe (limits input limit) (readU32 input offset) fun n =>
      n < 2 ^ 32 ∧ Span input limit offset (leBytes 4 n) := by
  refine Safe.bind (safe_add (le_trans hfits hlimit)) fun stop hstop => ?_
  rw [hstop]
  refine safe_guard fun _ => ?_
  refine Safe.bind (safe_sliceNext hlimit hfits) fun raw hraw => ?_
  obtain ⟨hspan, hlen⟩ := hraw
  have hlt : leValue raw < 2 ^ 32 := by
    have h := leValue_lt raw
    rw [hlen] at h
    exact h
  have hvalue : leBytes 4 (leValue raw) = raw := hlen ▸ leBytes_leValue raw
  refine safe_pure ⟨hlt, ?_⟩
  rw [hvalue]
  exact hspan

omit [ThirdParty] [Machine] in
/-- The capacities of a buffer that was read are bounded by its wire form. -/
theorem capacity_le {chunk : List UInt8} {matrix : NumericFeatureMatrixF64Columnar}
    (h : BufferWire matrix chunk) : ∀ n ∈ constructorCapacities matrix, n ≤ chunk.length := by
  obtain ⟨parts, rfl⟩ := h
  obtain ⟨hnames, hobservations, _⟩ := parts.dimensions_le
  have hbody : parts.body.length ≤ parts.toBytes.length := by
    simp only [BufferParts.toBytes, List.length_append]
    omega
  intro n hn
  rcases List.mem_cons.mp hn with rfl | hn
  · omega
  · obtain ⟨_, _, rfl⟩ := List.mem_map.mp hn
    omega

omit [ThirdParty] [Machine] in
/-- The capacities of all buffers that were read. -/
theorem capacities_le {chunk : List UInt8} {matrices : List NumericFeatureMatrixF64Columnar}
    (h : WireAll BufferWire matrices chunk) :
    ∀ n ∈ matrices.flatMap constructorCapacities, n ≤ chunk.length := by
  obtain ⟨chunks, hall, rfl⟩ := h
  induction hall with
  | nil => simp
  | @cons matrix c matrices chunks hmatrix _ ih =>
    intro n hn
    rw [List.flatMap_cons] at hn
    rw [List.flatten_cons, List.length_append]
    rcases List.mem_append.mp hn with hn | hn
    · exact le_trans (capacity_le hmatrix n hn) (Nat.le_add_right _ _)
    · exact le_trans (ih n hn) (Nat.le_add_left _ _)

omit [Machine] in
/-- The parts of a file determine it. -/
theorem eq_fileOf {file buffers : List UInt8} {payloadEnd count : Nat}
    (hmagic : Span file payloadEnd 0 magic)
    (hversion : Span file payloadEnd 4 (leBytes 4 formatVersion))
    (hcount : Span file payloadEnd 8 (leBytes 4 count)) (hbuffers : Span file payloadEnd 12 buffers)
    (hend : 12 + buffers.length = payloadEnd)
    (hdigest : (ThirdParty.sha256 (file.take payloadEnd)).toList = file.drop payloadEnd) :
    file = fileOf count buffers := by
  have hmagicLength : magic.length = 4 := by decide
  have hspan : Span file payloadEnd 0 (payloadOf count buffers) := by
    simp only [payloadOf, span_append, hmagicLength, length_leBytes, Nat.zero_add, Nat.reduceAdd]
    exact ⟨hmagic, hversion, hcount, hbuffers⟩
  have hpayload : file.take payloadEnd = payloadOf count buffers := by
    have h := hspan.take_eq
    rwa [length_payloadOf, hend, List.drop_zero] at h
  rw [fileOf, ← hpayload, hdigest, List.take_append_drop]

theorem safe_deserialize (file : List UInt8) :
    Safe (limits file (file.length - trailerLen)) (deserializeColumnarStore file)
      (Accepted file) := by
  refine safe_guard fun hlength => ?_
  have hmin : 12 + trailerLen ≤ file.length := not_lt.mp hlength
  refine Safe.bind (safe_slice (Nat.zero_le 4) (by omega)) fun start hstart => ?_
  refine safe_guard fun hmagic => ?_
  refine Safe.bind (safe_sub (by omega) le_rfl) fun payloadEnd hpayloadEnd => ?_
  rw [← hpayloadEnd]
  have hend : payloadEnd ≤ file.length := by omega
  have hheader : 12 ≤ payloadEnd := by omega
  refine Safe.bind (safe_slice (Nat.zero_le _) hend) fun payload hpayload => ?_
  refine Safe.bind (safe_slice hend le_rfl) fun trailer htrailer => ?_
  refine safe_guard fun hdigest => ?_
  refine Safe.bind (safe_readU32At hend (by omega)) fun version hversion => ?_
  refine safe_guard fun hversionEq => ?_
  refine Safe.bind (safe_readU32At hend hheader) fun count hcount => ?_
  refine Safe.bind (safe_ensureCountFits hend _ _ _ _) fun _ hcountFits => ?_
  refine Safe.bind (safe_reservedVec (by omega)) fun _ _ => ?_
  refine Safe.bind (consumes_readMany (consumes_readBuffer hend) count 12 hheader) fun r hr => ?_
  obtain ⟨matrices, cursor⟩ := r
  obtain ⟨htook, rfl⟩ := hr
  obtain ⟨buffers, hbuffers, hspan, rfl⟩ := took_iff.mp htook
  show Safe _ (if 12 + buffers.length ≠ payloadEnd then _ else _) _
  by_cases hcursor : 12 + buffers.length = payloadEnd
  · rw [if_neg (not_not.mpr hcursor)]
    refine Safe.bind (safe_reserveAll fun n hn => ?_) fun _ _ => ?_
    · have h := capacities_le hbuffers n hn
      show n ≤ payloadEnd
      omega
    · refine safe_lift fun store hstore => ⟨matrices, buffers, hcount.1, hbuffers, ?_, hstore⟩
      refine eq_fileOf ?_ ?_ hcount.2 hspan hcursor ?_
      · have h := (span_slice hend (show 0 + 4 ≤ payloadEnd by omega)).1
        rwa [← hstart, not_not.mp hmagic] at h
      · rw [← not_not.mp hversionEq]
        exact hversion.2
      · rw [List.drop_zero, Nat.sub_zero] at hpayload
        rw [← hpayload, not_not.mp hdigest, htrailer, List.take_of_length_le]
        rw [List.length_drop]
  · rw [if_pos hcursor]
    refine Safe.bind (safe_sub htook.le hend) fun trailing _ => ?_
    exact safe_refuse

/-- Reading arbitrary bytes: the reader ends with a store or an error, no slice or index is out of
range, no size exceeds the length of the input, no capacity exceeds the length of the payload.
An accepted file is exactly its header, the written forms of the matrices that were read, and
the digest. -/
theorem deserialize_safe (file : List UInt8) :
    (load file).1 ≠ .error .panicked ∧
    (∀ n ∈ (load file).2.reserved, n ≤ file.length - trailerLen) ∧
    (∀ n ∈ (load file).2.computed, n ≤ file.length) ∧
    ∀ store, (load file).1 = .ok store →
      (∃ matrices buffers, writeEach writeBuffer matrices = some buffers ∧
        file = fileOf matrices.length buffers ∧
        NumericFeatureBufferStore.fromF64ColumnMatrices matrices = .ok store ∧
        store.buffers.size = matrices.length) ∧
      ∀ (key : String) (buffer : NumericFeatureBuffer), store.buffers[key]? = some buffer →
        buffer.featureSetId = key ∧ buffer.validate = .ok () ∧ buffer.Finite := by
  obtain ⟨hwithin, hpanic, haccepted⟩ :=
    safe_deserialize file Trace.empty (Trace.empty_within _)
  refine ⟨hpanic, hwithin.reserved, hwithin.computed, fun store hstore => ?_⟩
  obtain ⟨matrices, buffers, _, hbuffers, hfile, hmade⟩ := haccepted store hstore
  obtain ⟨hvalid, hsize⟩ := NumericFeatureBufferStore.fromF64ColumnMatrices_valid hmade
  refine ⟨⟨matrices, buffers, ?_, hfile, hmade, hsize⟩, fun key buffer hget => ?_⟩
  · refine writeEach_eq_some.mpr (WireAll.imp hbuffers fun matrix _ c hc => ?_)
    obtain ⟨parts, rfl⟩ := hc
    exact parts.writeBuffer_eq
  · exact ⟨hvalid.keyed key buffer hget,
      NumericFeatureBuffer.validate_eq_ok.mpr (hvalid.shaped key buffer hget),
      hvalid.finite key buffer hget⟩

/-- A valid store that fits is read back from the bytes it is written to. -/
theorem load_serialize (hgrants : AllGranted) {store : NumericFeatureBufferStore}
    (hvalid : store.Valid) (hfits : StoreFits store) :
    ∃ file, serializeColumnarStore store = some file ∧ (load file).1 = .ok store := by
  have hwire : ∃ buffers, WireAll (fun matrix chunk => BufferWire matrix chunk ∧
    CellsFit matrix)
      store.toF64ColumnMatrices buffers := by
    refine exists_wireAll fun matrix hmatrix => ?_
    obtain ⟨entry, hentry, rfl⟩ := List.mem_map.mp hmatrix
    have hget := Std.ExtTreeMap.mem_toList_iff_getElem?_eq_some.mp hentry
    exact exists_bufferWire (hvalid.shaped _ _ hget) (hvalid.finite _ _ hget)
      (hfits.buffers _ _ hget)
  obtain ⟨buffers, hbuffers⟩ := hwire
  have hcount : store.toF64ColumnMatrices.length = store.buffers.size := by
    rw [NumericFeatureBufferStore.toF64ColumnMatrices, List.length_map,
      Std.ExtTreeMap.length_toList]
  refine ⟨_, serializeColumnarStore_eq hvalid hfits.count
    (WireAll.imp hbuffers fun _ _ _ hc => hc.1), ?_⟩
  rw [← hcount]
  exact load_fileOf hgrants (by rw [hcount]; exact hfits.count) hbuffers
    (NumericFeatureBufferStore.fromF64ColumnMatrices_toF64ColumnMatrices hvalid)

omit [Machine] in
/-- A store that was read fits the format. -/
theorem storeFits_of_accepted {file : List UInt8} {store : NumericFeatureBufferStore}
    (hfile : file.length < 2 ^ 63) (h : Accepted file store) : StoreFits store := by
  obtain ⟨matrices, buffers, hcount, hbuffers, rfl, hmade⟩ := h
  rw [length_fileOf] at hfile
  refine ⟨?_, fun key buffer hget => ?_⟩
  · rw [(NumericFeatureBufferStore.fromF64ColumnMatrices_valid hmade).2]
    exact hcount
  · obtain ⟨matrix, hmatrix, hbuffer⟩ :=
      NumericFeatureBufferStore.exists_matrix_of_getElem? hmade hget
    obtain ⟨_, rfl⟩ := NumericFeatureBuffer.fromF64ColumnMatrix_eq_ok.mp hbuffer
    obtain ⟨chunk, ⟨parts, rfl⟩, hchunk⟩ := hbuffers.exists_of_mem hmatrix
    obtain ⟨_, _, hcells⟩ := parts.dimensions_le
    have hbody : parts.body.length ≤ parts.toBytes.length := by
      simp only [BufferParts.toBytes, List.length_append]
      omega
    refine ⟨(writeString_eq_some.mp parts.featureSetIdWire).1, fun name hname => ?_,
      (writeU32_eq_some.mp parts.rowsWire).1, (writeU32_eq_some.mp parts.featuresWire).1, ?_⟩
    · obtain ⟨c, hc, _⟩ := parts.namesWire.exists_of_mem hname
      exact (writeString_eq_some.mp hc).1
    · show matrix.observationIds.length * matrix.featureNames.length * 16 ≤ 2 ^ 64
      have height : matrix.observationIds.length * matrix.featureNames.length * 8 ≤
          parts.body.length :=
        le_trans (Nat.mul_le_mul_left _ (Nat.le_add_right 8 _)) hcells
      omega

/-- Writing and reading are inverse: a valid store is read back from its own bytes, and what was
read from any bytes is read back from the bytes that it is written to. The allocator grants
the reservations, and a file is a slice, which has at most `isize::MAX` bytes. -/
theorem columnar_store_round_trip (hgrants : AllGranted) :
    (∀ store : NumericFeatureBufferStore, store.Valid → StoreFits store →
      ∃ file, serializeColumnarStore store = some file ∧ (load file).1 = .ok store) ∧
    ∀ (file : List UInt8) (store : NumericFeatureBufferStore), file.length < 2 ^ 63 →
      (load file).1 = .ok store →
      ∃ file', serializeColumnarStore store = some file' ∧ (load file').1 = .ok store := by
  refine ⟨fun store hvalid hfits => load_serialize hgrants hvalid hfits,
    fun file store hfile hload => ?_⟩
  obtain ⟨_, _, haccepted⟩ := safe_deserialize file Trace.empty (Trace.empty_within _)
  have hstore := haccepted store hload
  have hfits := storeFits_of_accepted hfile hstore
  obtain ⟨_, _, _, _, _, hmade⟩ := hstore
  exact load_serialize hgrants
    (NumericFeatureBufferStore.fromF64ColumnMatrices_valid hmade).1 hfits

end Files

/-! ## A small file -/

/-- Two rows of one feature, the second masked. -/
def smallMatrix : NumericFeatureMatrixF64Columnar where
  featureSetId := "nir"
  representationId := .lit "grid" rfl
  featureNames := ["f1"]
  observationIds := [.lit "o1" rfl, .lit "o2" rfl]
  columns := [[⟨0x4000000000000000⟩, .zero]]
  validityMasks := some [[true, false]]

/-- The payload of the file of `smallMatrix`, as text, and its digest. -/
def smallDigest : String × String :=
  ("N4DF\x01\x00\x00\x00\x01\x00\x00\x00\x03\x00\x00\x00nir\x04\x00\x00\x00grid\x02\x00\x00\x00" ++
    "\x01\x00\x00\x00\x01\x02\x00\x00\x00f1\x02\x00\x00\x00o1\x02\x00\x00\x00o2" ++
    "\x00\x00\x00\x00\x00\x00\x00@\x00\x00\x00\x00\x00\x00\x00\x00\x01\x00",
    "3f4238248da6f024833e4a9a066f2e140074db22a256b548735df0c3a36ba025")

/-- A machine with enough memory. -/
@[reducible] def steadyMachine : Machine where
  grants _ _ := true
  reserveError _ := "memory allocation failed"
  utf8Error _ := "invalid utf-8 sequence"

theorem smallStore_round_trip :
    ∃ store, NumericFeatureBufferStore.fromF64ColumnMatrices [smallMatrix] = .ok store ∧
      ∃ file, @serializeColumnarStore (.ofTable [smallDigest]) store = some file ∧
        (@load (.ofTable [smallDigest]) steadyMachine file).1 = .ok store := by
  have hmade : (NumericFeatureBufferStore.fromF64ColumnMatrices [smallMatrix]).isOk = true := by
    decide +kernel
  cases hstore : NumericFeatureBufferStore.fromF64ColumnMatrices [smallMatrix] with
  | error e => rw [hstore] at hmade; cases hmade
  | ok store =>
    obtain ⟨hvalid, hsize⟩ := NumericFeatureBufferStore.fromF64ColumnMatrices_valid hstore
    refine ⟨store, rfl, (@columnar_store_round_trip (.ofTable [smallDigest]) steadyMachine
      fun _ _ => rfl).1 store hvalid ⟨by rw [hsize]; decide, fun key buffer hget => ?_⟩⟩
    obtain ⟨matrix, hmatrix, hbuffer⟩ :=
      NumericFeatureBufferStore.exists_matrix_of_getElem? hstore hget
    rw [List.mem_singleton] at hmatrix
    obtain ⟨_, rfl⟩ := NumericFeatureBuffer.fromF64ColumnMatrix_eq_ok.mp hbuffer
    subst hmatrix
    exact ⟨by decide, by decide, by decide, by decide, by decide⟩

end DagMlData.BufferFile
