import DagMlData.BufferFile

/-!
# Wire forms of feature buffers

Every part of the file has a wire form: the bytes that the writer emits for a value. For each
reader there are two lemmas. `decodes_...`: wherever the wire form of a value lies, the reader
takes it and returns the value. `consumes_...`: the reader is safe on arbitrary bytes, and
when it returns a value it has taken the wire form of that value and nothing else.
-/

namespace DagMlData.BufferFile

open Guard RustText Loading

/-! ## Wire forms -/

/-- The wire form that a writer emits. -/
def Written {α : Type} (write : α → Option (List UInt8)) (a : α) (chunk : List UInt8) : Prop :=
  write a = some chunk

def U32Wire : Nat → List UInt8 → Prop := Written writeU32

def StringWire : String → List UInt8 → Prop := Written writeString

def IdentWire {kind : IdKind} (ident : Ident kind) (chunk : List UInt8) : Prop :=
  StringWire ident.value chunk

/-- A column of `rowCount` cells. -/
def ColumnWire (rowCount : Nat) (column : List F64) (chunk : List UInt8) : Prop :=
  column.length = rowCount ∧ column.flatMap F64.toLeBytes = chunk

/-- A mask of `rowCount` flags. -/
def MaskWire (rowCount : Nat) (mask : List Bool) (chunk : List UInt8) : Prop :=
  mask.length = rowCount ∧ mask.map boolByte = chunk

/-- The mask section: `featureCount` masks, or nothing. -/
def MasksWire (rowCount featureCount : Nat) (masks : Option (List (List Bool)))
    (chunk : List UInt8) : Prop :=
  match masks with
  | some masks => masks.length = featureCount ∧ WireAll (MaskWire rowCount) masks chunk
  | none => chunk = []

/-- The parts of a buffer in the file, one after the other. -/
structure BufferParts (matrix : NumericFeatureMatrixF64Columnar) where
  featureSetId : List UInt8
  representationId : List UInt8
  rows : List UInt8
  features : List UInt8
  names : List UInt8
  observations : List UInt8
  columns : List UInt8
  masks : List UInt8
  featureSetIdWire : StringWire matrix.featureSetId featureSetId
  representationIdWire : IdentWire matrix.representationId representationId
  rowsWire : U32Wire matrix.observationIds.length rows
  featuresWire : U32Wire matrix.featureNames.length features
  namesWire : WireAll StringWire matrix.featureNames names
  observationsWire : WireAll IdentWire matrix.observationIds observations
  columnCount : matrix.columns.length = matrix.featureNames.length
  columnsWire : WireAll (ColumnWire matrix.observationIds.length) matrix.columns columns
  masksWire : MasksWire matrix.observationIds.length matrix.featureNames.length
    matrix.validityMasks masks

variable {matrix : NumericFeatureMatrixF64Columnar}

/-- The dimensions, the flag, and what follows. -/
def BufferParts.body (parts : BufferParts matrix) : List UInt8 :=
  parts.names ++ (parts.observations ++ (parts.columns ++ parts.masks))

def BufferParts.toBytes (parts : BufferParts matrix) : List UInt8 :=
  parts.featureSetId ++ (parts.representationId ++ (parts.rows ++ (parts.features ++
    ([boolByte matrix.validityMasks.isSome] ++ parts.body))))

/-- The wire form of a matrix whose columns and masks fit its dimensions. -/
def BufferWire (matrix : NumericFeatureMatrixF64Columnar) (chunk : List UInt8) : Prop :=
  ∃ parts : BufferParts matrix, parts.toBytes = chunk

/-! ## Lengths -/

theorem writeU32_eq_some {n : Nat} {chunk : List UInt8} :
    writeU32 n = some chunk ↔ n < 2 ^ 32 ∧ leBytes 4 n = chunk := by
  simp [writeU32]

theorem writeString_eq_some {value : String} {chunk : List UInt8} :
    writeString value = some chunk ↔
      (bytes value).length < 2 ^ 32 ∧ leBytes 4 (bytes value).length ++ bytes value = chunk := by
  simp only [writeString, Option.bind_eq_bind, Option.bind_eq_some_iff, writeU32_eq_some,
    Option.some.injEq]
  constructor
  · rintro ⟨_, ⟨hlt, rfl⟩, rfl⟩
    exact ⟨hlt, rfl⟩
  · rintro ⟨hlt, rfl⟩
    exact ⟨_, ⟨hlt, rfl⟩, rfl⟩

theorem four_le_length_string {value : String} {chunk : List UInt8} (h : StringWire value chunk) :
    4 ≤ chunk.length := by
  obtain ⟨_, rfl⟩ := writeString_eq_some.mp h
  simp

theorem ColumnWire.length {rowCount : Nat} {column : List F64} {chunk : List UInt8}
    (h : ColumnWire rowCount column chunk) : chunk.length = rowCount * 8 := by
  obtain ⟨rfl, rfl⟩ := h
  simp [List.length_flatMap, F64.length_toLeBytes]

theorem map_boolByte (mask : List Bool) :
    mask.map boolByte = mask.flatMap fun flag => [boolByte flag] :=
  List.map_eq_flatMap

theorem boolByte_le_one (flag : Bool) : ¬boolByte flag > 1 := by
  cases flag <;> decide

theorem toNat_boolByte (flag : Bool) : (boolByte flag).toNat = flag.toNat := by
  cases flag <;> rfl

/-- A byte that is at most one is the byte of a flag. -/
theorem boolByte_eq_one {byte : UInt8} (h : ¬byte > 1) : boolByte (byte == 1) = byte := by
  have hle : byte.toNat ≤ 1 := by
    have h1 : byte ≤ 1 := UInt8.not_lt.mp h
    exact h1
  rcases Nat.le_one_iff_eq_zero_or_eq_one.mp hle with h0 | h1
  · rw [show byte = 0 from UInt8.toNat_inj.mp h0]
    rfl
  · rw [show byte = 1 from UInt8.toNat_inj.mp h1]
    rfl

theorem MaskWire.length {rowCount : Nat} {mask : List Bool} {chunk : List UInt8}
    (h : MaskWire rowCount mask chunk) : chunk.length = rowCount := by
  obtain ⟨rfl, rfl⟩ := h
  exact List.length_map _

theorem MasksWire.le_length {rowCount featureCount : Nat} {masks : Option (List (List Bool))}
    {chunk : List UInt8} (h : MasksWire rowCount featureCount masks chunk) :
    featureCount * (rowCount * masks.isSome.toNat) ≤ chunk.length := by
  cases masks with
  | none => simp
  | some masks =>
    obtain ⟨rfl, hall⟩ := h
    rw [Option.isSome_some, Bool.toNat_true, Nat.mul_one]
    exact hall.le_length fun _ _ _ hc => le_of_eq hc.length.symm

/-- The dimensions of a buffer are bounded by the bytes that follow them. -/
theorem BufferParts.dimensions_le (parts : BufferParts matrix) :
    matrix.featureNames.length * 4 ≤ parts.body.length ∧
      matrix.observationIds.length * 4 ≤ parts.body.length ∧
      matrix.observationIds.length * matrix.featureNames.length *
        (8 + matrix.validityMasks.isSome.toNat) ≤ parts.body.length := by
  have hnames := parts.namesWire.le_length fun _ _ _ hc => four_le_length_string hc
  have hobservations := parts.observationsWire.le_length fun _ _ _ hc => four_le_length_string hc
  have hcolumns := parts.columnsWire.le_length fun _ _ _ hc => le_of_eq hc.length.symm
  have hmasks := parts.masksWire.le_length
  have hcells : matrix.observationIds.length * matrix.featureNames.length *
      (8 + matrix.validityMasks.isSome.toNat) =
      matrix.featureNames.length * (matrix.observationIds.length * 8) +
        matrix.featureNames.length *
          (matrix.observationIds.length * matrix.validityMasks.isSome.toNat) := by ring
  rw [parts.columnCount] at hcolumns
  simp only [BufferParts.body, List.length_append]
  refine ⟨by omega, by omega, ?_⟩
  rw [hcells]
  omega

/-! ## Readers -/

section Checks

variable {input : List UInt8} {payloadEnd cursor : Nat}

/-- No capacity exceeds the payload, and no size exceeds the input. -/
def limits (input : List UInt8) (payloadEnd : Nat) : Limits := ⟨payloadEnd, input.length⟩

theorem safe_ensureRemaining (hend : payloadEnd ≤ input.length) (cursor needed : Nat)
    (label : String) :
    Safe (limits input payloadEnd) (ensureRemaining payloadEnd cursor needed label) fun _ =>
      cursor + needed ≤ payloadEnd := by
  refine safe_guard fun hcursor => ?_
  refine Safe.bind (safe_sub (by omega) hend) fun remaining hremaining => ?_
  refine safe_guard fun hneeded => ?_
  exact safe_pure (by omega)

theorem returns_ensureRemaining {needed : Nat} {label : String}
    (h : cursor + needed ≤ payloadEnd) :
    Returns (ensureRemaining payloadEnd cursor needed label) () := by
  refine returns_guard (by omega) ?_
  refine Returns.bind (returns_sub (by omega)) ?_
  exact returns_guard (by omega) (returns_pure ())

theorem safe_checkedMul {l : Limits} {a b : Nat} {e : DataError} :
    Safe l (Loader.lift (require (checkedMul a b) e)) fun n => n = a * b :=
  safe_lift fun _ h => (checkedMul_eq_some.mp (require_eq_ok.mp h)).2.symm

theorem returns_checkedMul {a b : Nat} {e : DataError} (h : a * b < u64Size) :
    Returns (Loader.lift (require (checkedMul a b) e)) (a * b) :=
  returns_lift (require_eq_ok.mpr (checkedMul_eq_some.mpr ⟨h, rfl⟩))

theorem safe_ensureCountFits (hend : payloadEnd ≤ input.length) (cursor count minimumBytes : Nat)
    (label : String) :
    Safe (limits input payloadEnd) (ensureCountFits payloadEnd cursor count minimumBytes label)
      fun _ => cursor + count * minimumBytes ≤ payloadEnd := by
  refine Safe.bind safe_checkedMul fun needed hneeded => ?_
  rw [hneeded]
  exact safe_ensureRemaining hend cursor _ label

theorem returns_ensureCountFits {count minimumBytes : Nat} {label : String}
    (hsize : count * minimumBytes < u64Size) (h : cursor + count * minimumBytes ≤ payloadEnd) :
    Returns (ensureCountFits payloadEnd cursor count minimumBytes label) () :=
  Returns.bind (returns_checkedMul hsize) (returns_ensureRemaining h)

theorem decodes_readU32 (hend : payloadEnd ≤ input.length) :
    Decodes input payloadEnd (readU32Advance input payloadEnd) U32Wire := by
  intro n chunk cursor hwire hspan
  obtain ⟨hlt, rfl⟩ := writeU32_eq_some.mp hwire
  have hslice : Returns (Loader.slice input cursor (cursor + (leBytes 4 n).length) :
      Loader DataError _) (leBytes 4 n) := returns_sliceNext hend hspan
  have hinside := hspan.inside
  rw [length_leBytes] at hslice hinside ⊢
  refine Returns.bind (returns_ensureRemaining hinside) ?_
  refine Returns.bind (returns_add cursor 4) ?_
  refine Returns.bind hslice ?_
  rw [leValue_leBytes hlt]
  exact returns_pure _

theorem consumes_readU32 (hend : payloadEnd ≤ input.length) :
    Consumes (limits input payloadEnd) input payloadEnd (readU32Advance input payloadEnd)
      U32Wire := by
  intro cursor _
  refine Safe.bind (safe_ensureRemaining hend cursor 4 _) fun _ hfits => ?_
  refine Safe.bind (safe_add (le_trans hfits hend)) fun next hnext => ?_
  rw [hnext]
  refine Safe.bind (safe_sliceNext hend hfits) fun raw hraw => ?_
  obtain ⟨hspan, hlen⟩ := hraw
  have hvalue : leBytes 4 (leValue raw) = raw := hlen ▸ leBytes_leValue raw
  have hlt : leValue raw < 2 ^ 32 := by
    have h := leValue_lt raw
    rw [hlen] at h
    exact h
  exact safe_pure ⟨raw, writeU32_eq_some.mpr ⟨hlt, hvalue⟩, hspan, by rw [hlen]⟩

/-- The wire form of one byte is the byte. -/
def ByteWire (b : UInt8) (chunk : List UInt8) : Prop := chunk = [b]

theorem decodes_readU8 : Decodes input payloadEnd (readU8Advance input payloadEnd) ByteWire := by
  rintro b _ cursor rfl hspan
  refine Returns.bind (returns_ensureRemaining hspan.inside) ?_
  refine Returns.bind (returns_byteNext hspan) ?_
  exact Returns.bind (returns_add cursor 1) (returns_pure _)

theorem consumes_readU8 (hend : payloadEnd ≤ input.length) :
    Consumes (limits input payloadEnd) input payloadEnd (readU8Advance input payloadEnd)
      ByteWire := by
  intro cursor _
  refine Safe.bind (safe_ensureRemaining hend cursor 1 _) fun _ hfits => ?_
  refine Safe.bind (safe_byteNext hend hfits) fun b hb => ?_
  refine Safe.bind (safe_add (le_trans hfits hend)) fun next hnext => ?_
  exact safe_pure ⟨[b], rfl, hb, hnext⟩

end Checks

section Readers

variable [Machine] {input : List UInt8} {payloadEnd cursor : Nat}

theorem safe_reservedVec {count : Nat} (h : count ≤ payloadEnd) :
    Safe (limits input payloadEnd) (reservedVec count) fun _ => True :=
  safe_reserve h

/-- Every reservation is granted. -/
def AllGranted : Prop := ∀ (history : List Nat) (n : Nat), Machine.grants history n = true

theorem returns_reservedVec (hgrants : AllGranted) (count : Nat) :
    Returns (reservedVec count) () :=
  returns_reserve hgrants

/-! ### Strings and identifiers -/

omit [Machine] in
theorem fromUtf8_eq_some {raw : List UInt8} {value : String} :
    fromUtf8 raw = some value ↔ bytes value = raw := by
  unfold fromUtf8 String.fromUTF8?
  constructor
  · intro h
    split at h
    · cases h
      rfl
    · cases h
  · rintro rfl
    have harray : (⟨(bytes value).toArray⟩ : ByteArray) = value.toByteArray := by
      apply ByteArray.ext
      simp [bytes, String.toUTF8]
    have hvalid : (⟨(bytes value).toArray⟩ : ByteArray).IsValidUTF8 :=
      harray ▸ value.isValidUTF8
    rw [dif_pos hvalid]
    congr 1

theorem decodes_readString (hend : payloadEnd ≤ input.length) :
    Decodes input payloadEnd (readString input payloadEnd) StringWire := by
  intro value chunk cursor hwire hspan
  obtain ⟨hlt, rfl⟩ := writeString_eq_some.mp hwire
  obtain ⟨hlen, hraw⟩ := span_append.mp hspan
  refine Returns.bind (decodes_readU32 hend _ _ cursor
    (writeU32_eq_some.mpr ⟨hlt, rfl⟩) hlen) ?_
  refine Returns.bind (returns_ensureRemaining hraw.inside) ?_
  refine Returns.bind (returns_add _ _) ?_
  refine Returns.bind (returns_sliceNext hend hraw) ?_
  refine Returns.bind (returns_lift (require_eq_ok.mpr (fromUtf8_eq_some.mpr rfl))) ?_
  rw [List.length_append, ← Nat.add_assoc]
  exact returns_pure _

theorem consumes_readString (hend : payloadEnd ≤ input.length) :
    Consumes (limits input payloadEnd) input payloadEnd (readString input payloadEnd)
      StringWire := by
  intro cursor hcursor
  refine Safe.bind (consumes_readU32 hend cursor hcursor) fun r hr => ?_
  obtain ⟨len, next⟩ := r
  obtain ⟨lenChunk, hlen, hlenSpan, rfl⟩ := took_iff.mp hr
  obtain ⟨hlt, rfl⟩ := writeU32_eq_some.mp hlen
  refine Safe.bind (safe_ensureRemaining hend _ len _) fun _ hfits => ?_
  refine Safe.bind (safe_add (le_trans hfits hend)) fun last hlast => ?_
  rw [hlast]
  refine Safe.bind (safe_sliceNext hend hfits) fun raw hraw => ?_
  obtain ⟨hspan, hrawLen⟩ := hraw
  refine Safe.bind (safe_lift fun value hvalue => require_eq_ok.mp hvalue) fun value hvalue => ?_
  have hbytes : bytes value = raw := fromUtf8_eq_some.mp hvalue
  refine safe_pure ⟨leBytes 4 len ++ raw, writeString_eq_some.mpr ?_, span_append.mpr ?_, ?_⟩
  · rw [hbytes, hrawLen]
    exact ⟨hlt, rfl⟩
  · exact ⟨hlenSpan, hspan⟩
  · rw [List.length_append, hrawLen, Nat.add_assoc]

theorem decodes_readIdent (hend : payloadEnd ≤ input.length) (kind : IdKind) :
    Decodes input payloadEnd (readIdent kind input payloadEnd) IdentWire := by
  intro ident chunk cursor hwire hspan
  refine Returns.bind (decodes_readString hend _ _ cursor hwire hspan) ?_
  exact Returns.bind (returns_lift (Ident.new_value ident)) (returns_pure _)

theorem consumes_readIdent (hend : payloadEnd ≤ input.length) (kind : IdKind) :
    Consumes (limits input payloadEnd) input payloadEnd (readIdent kind input payloadEnd)
      IdentWire := by
  intro cursor hcursor
  refine Safe.bind (consumes_readString hend cursor hcursor) fun r hr => ?_
  obtain ⟨chunk, hwire, hspan, hnext⟩ := hr
  refine Safe.bind (safe_lift fun ident hident => Ident.new_eq_ok.mp hident) fun ident hident => ?_
  refine safe_pure ⟨chunk, ?_, hspan, hnext⟩
  show StringWire ident.value chunk
  rw [hident]
  exact hwire

/-! ### Columns and masks -/

theorem decodes_readColumn (hend : payloadEnd ≤ input.length) (hgrants : AllGranted)
    (featureSetId : String) {rowCount : Nat} (hrows : rowCount < 2 ^ 32) :
    Decodes input payloadEnd (readColumn input payloadEnd featureSetId rowCount)
      (ColumnWire rowCount) := by
  intro column chunk cursor hwire hspan
  have hlen := hwire.length
  obtain ⟨rfl, rfl⟩ := hwire
  have hinside := hspan.inside
  rw [hlen] at hinside ⊢
  have hsize : column.length * 8 < u64Size := by
    unfold u64Size
    omega
  refine Returns.bind (returns_checkedMul hsize) ?_
  refine Returns.bind (returns_ensureRemaining hinside) ?_
  refine Returns.bind (returns_reservedVec hgrants _) ?_
  refine Returns.bind (returns_rangeLoop F64.toLeBytes F64.length_toLeBytes hspan
    fun row x hcell => ?_)
    (Returns.bind (returns_add _ _) (returns_pure _))
  have hslice : Returns (Loader.slice input (cursor + row * 8)
      (cursor + row * 8 + x.toLeBytes.length) : Loader DataError _) x.toLeBytes :=
    returns_sliceNext hend hcell
  rw [F64.length_toLeBytes] at hslice
  refine Returns.bind (returns_mul row 8) ?_
  refine Returns.bind (returns_add _ _) ?_
  refine Returns.bind (returns_add _ _) ?_
  refine Returns.bind hslice ?_
  rw [F64.fromLeBytes_toLeBytes]
  exact returns_pure _

theorem consumes_readColumn (hend : payloadEnd ≤ input.length) (featureSetId : String)
    (rowCount : Nat) :
    Consumes (limits input payloadEnd) input payloadEnd
      (readColumn input payloadEnd featureSetId rowCount) (ColumnWire rowCount) := by
  intro cursor hcursor
  refine Safe.bind safe_checkedMul fun needed hneeded => ?_
  rw [hneeded]
  refine Safe.bind (safe_ensureRemaining hend cursor _ _) fun _ hfits => ?_
  refine Safe.bind (safe_reservedVec (by omega)) fun _ _ => ?_
  refine Safe.bind (safe_rangeLoop input F64.toLeBytes F64.length_toLeBytes
    hcursor fun row hrow => ?_)
    fun column hcolumn => ?_
  · have hcell : cursor + row * 8 + 8 ≤ payloadEnd := by omega
    refine Safe.bind (safe_mul ?_) fun step hstep => ?_
    · show row * 8 ≤ input.length
      omega
    rw [hstep]
    refine Safe.bind (safe_add ?_) fun offset hoffset => ?_
    · show cursor + row * 8 ≤ input.length
      omega
    rw [hoffset]
    refine Safe.bind (safe_add (le_trans hcell hend)) fun stop hstop => ?_
    rw [hstop]
    refine Safe.bind (safe_sliceNext hend hcell) fun raw hraw => ?_
    refine safe_pure ?_
    rw [F64.toLeBytes_fromLeBytes hraw.2]
    exact hraw.1
  · refine Safe.bind (safe_add (le_trans hfits hend)) fun next hnext => ?_
    have hwire : ColumnWire rowCount column (column.flatMap F64.toLeBytes) := ⟨hcolumn.1, rfl⟩
    exact safe_pure ⟨_, hwire, hcolumn.2, by rw [hwire.length]; exact hnext⟩

theorem decodes_readMask (hgrants : AllGranted) (featureSetId : String) (rowCount : Nat) :
    Decodes input payloadEnd (readMask input payloadEnd featureSetId rowCount)
      (MaskWire rowCount) := by
  intro mask chunk cursor hwire hspan
  have hlen := hwire.length
  obtain ⟨rfl, rfl⟩ := hwire
  have hinside := hspan.inside
  rw [hlen] at hinside ⊢
  rw [map_boolByte] at hspan
  refine Returns.bind (returns_ensureRemaining hinside) ?_
  refine Returns.bind (returns_reservedVec hgrants _) ?_
  refine Returns.bind (returns_rangeLoop (fun flag => [boolByte flag]) (fun _ => rfl) hspan
    fun row flag hcell => ?_)
    (Returns.bind (returns_add _ _) (returns_pure _))
  rw [Nat.mul_one] at hcell
  refine Returns.bind (returns_add _ _) ?_
  refine Returns.bind (returns_byteNext hcell) ?_
  refine returns_guard (boolByte_le_one flag) ?_
  have hflag : (boolByte flag == 1) = flag := by cases flag <;> rfl
  rw [hflag]
  exact returns_pure _

theorem consumes_readMask (hend : payloadEnd ≤ input.length) (featureSetId : String)
    (rowCount : Nat) :
    Consumes (limits input payloadEnd) input payloadEnd
      (readMask input payloadEnd featureSetId rowCount) (MaskWire rowCount) := by
  intro cursor hcursor
  refine Safe.bind (safe_ensureRemaining hend cursor _ _) fun _ hfits => ?_
  refine Safe.bind (safe_reservedVec (by omega)) fun _ _ => ?_
  refine Safe.bind (safe_rangeLoop input (fun flag => [boolByte flag]) (fun _ => rfl) hcursor
    fun row hrow => ?_) fun mask hmask => ?_
  · have hcell : cursor + row + 1 ≤ payloadEnd := by omega
    refine Safe.bind (safe_add ?_) fun position hposition => ?_
    · show cursor + row ≤ input.length
      omega
    rw [hposition]
    refine Safe.bind (safe_byteNext hend hcell) fun byte hbyte => ?_
    refine safe_guard fun hflag => ?_
    refine safe_pure ?_
    rw [boolByte_eq_one hflag, Nat.mul_one]
    exact hbyte
  · refine Safe.bind (safe_add (le_trans hfits hend)) fun next hnext => ?_
    have hwire : MaskWire rowCount mask (mask.map boolByte) := ⟨hmask.1, rfl⟩
    refine safe_pure ⟨_, hwire, ?_, by rw [hwire.length]; exact hnext⟩
    rw [map_boolByte]
    exact hmask.2

theorem decodes_readMasks (hgrants : AllGranted) (featureSetId : String)
    (rowCount featureCount : Nat) (masks : Option (List (List Bool))) (chunk : List UInt8)
    (cursor : Nat) (hwire : MasksWire rowCount featureCount masks chunk)
    (hspan : Span input payloadEnd cursor chunk) :
    Returns (readMasks input payloadEnd featureSetId rowCount featureCount
      (boolByte masks.isSome) cursor) (masks, cursor + chunk.length) := by
  cases masks with
  | none =>
    cases hwire
    exact returns_pure _
  | some masks =>
    obtain ⟨rfl, hall⟩ := hwire
    refine Returns.bind (returns_reservedVec hgrants _) ?_
    refine Returns.bind (decodes_readMany (decodes_readMask hgrants featureSetId rowCount) masks
      chunk cursor hall hspan) ?_
    exact returns_pure _

theorem consumes_readMasks (hend : payloadEnd ≤ input.length) (featureSetId : String)
    {rowCount featureCount : Nat} (hfeatures : featureCount ≤ payloadEnd) {hasValidity : UInt8}
    (hflag : ¬hasValidity > 1) (hcursor : cursor ≤ payloadEnd) :
    Safe (limits input payloadEnd)
      (readMasks input payloadEnd featureSetId rowCount featureCount hasValidity cursor)
      fun r => Took input payloadEnd cursor (MasksWire rowCount featureCount) r ∧
        boolByte r.1.isSome = hasValidity := by
  have hbyte := boolByte_eq_one hflag
  unfold readMasks
  by_cases hone : hasValidity = 1
  · rw [if_pos hone]
    refine Safe.bind (safe_reservedVec hfeatures) fun _ _ => ?_
    refine Safe.bind (consumes_readMany (consumes_readMask hend featureSetId rowCount) featureCount
      cursor hcursor) fun r hr => ?_
    obtain ⟨masks, next⟩ := r
    obtain ⟨⟨chunk, hall, hspan, hnext⟩, hcount⟩ := hr
    exact safe_pure ⟨⟨chunk, ⟨hcount, hall⟩, hspan, hnext⟩, hone.symm⟩
  · rw [if_neg hone]
    have hzero : (hasValidity == 1) = false := beq_eq_false_iff_ne.mpr hone
    rw [hzero] at hbyte
    exact safe_pure ⟨⟨[], rfl, Span.nil hcursor, rfl⟩, hbyte⟩

/-! ### Buffers -/

omit [Machine] in
theorem returns_ensureDimensionsFit {rowCount featureCount : Nat} {flag : Bool}
    (hrows : rowCount < 2 ^ 32) (hfeatures : featureCount < 2 ^ 32)
    (hcells : rowCount * featureCount * (8 + flag.toNat) < u64Size)
    (hfeaturesFit : cursor + featureCount * 4 ≤ payloadEnd)
    (hrowsFit : cursor + rowCount * 4 ≤ payloadEnd)
    (hcellsFit : cursor + rowCount * featureCount * (8 + flag.toNat) ≤ payloadEnd) :
    Returns (ensureDimensionsFit payloadEnd cursor rowCount featureCount (boolByte flag)) () := by
  have hmul : rowCount * featureCount < u64Size := by
    have h := Nat.mul_lt_mul'' hrows hfeatures
    exact h
  refine Returns.bind (returns_ensureCountFits (by unfold u64Size; omega) hfeaturesFit) ?_
  refine Returns.bind (returns_ensureCountFits (by unfold u64Size; omega) hrowsFit) ?_
  refine Returns.bind (returns_checkedMul hmul) ?_
  rw [toNat_boolByte]
  exact returns_ensureCountFits hcells hcellsFit

omit [Machine] in
theorem safe_ensureDimensionsFit (hend : payloadEnd ≤ input.length)
    (cursor rowCount featureCount : Nat) (hasValidity : UInt8) :
    Safe (limits input payloadEnd)
      (ensureDimensionsFit payloadEnd cursor rowCount featureCount hasValidity)
      fun _ => featureCount ≤ payloadEnd ∧ rowCount ≤ payloadEnd := by
  refine Safe.bind (safe_ensureCountFits hend _ _ _ _) fun _ hfeatures => ?_
  refine Safe.bind (safe_ensureCountFits hend _ _ _ _) fun _ hrows => ?_
  refine Safe.bind safe_checkedMul fun cells _ => ?_
  refine (safe_ensureCountFits hend _ _ _ _).weaken fun _ _ => ?_
  omega

/-- A buffer whose cells fit in the address space. -/
def CellsFit (matrix : NumericFeatureMatrixF64Columnar) : Prop :=
  matrix.observationIds.length * matrix.featureNames.length * 9 < u64Size

theorem decodes_readBuffer (hend : payloadEnd ≤ input.length) (hgrants : AllGranted) :
    Decodes input payloadEnd (readBuffer input payloadEnd)
      (fun matrix chunk => BufferWire matrix chunk ∧ CellsFit matrix) := by
  rintro matrix _ cursor ⟨⟨parts, rfl⟩, hcells⟩ hspan
  obtain ⟨hnamesLen, hobservationsLen, hcellsLen⟩ := parts.dimensions_le
  have hrows : matrix.observationIds.length < 2 ^ 32 := (writeU32_eq_some.mp parts.rowsWire).1
  have hfeatures : matrix.featureNames.length < 2 ^ 32 := (writeU32_eq_some.mp parts.featuresWire).1
  have hflagBound : matrix.validityMasks.isSome.toNat ≤ 1 := Bool.toNat_le _
  have hcellsBound : matrix.observationIds.length * matrix.featureNames.length *
      (8 + matrix.validityMasks.isSome.toNat) < u64Size :=
    lt_of_le_of_lt (Nat.mul_le_mul_left _ (by omega)) hcells
  have hlength : cursor + parts.toBytes.length = cursor + parts.featureSetId.length +
      parts.representationId.length + parts.rows.length + parts.features.length + 1 +
      parts.names.length + parts.observations.length + parts.columns.length +
      parts.masks.length := by
    simp only [BufferParts.toBytes, BufferParts.body, List.length_append, List.length_singleton]
    omega
  rw [hlength]
  -- The parts, each at the cursor where the reader is when it comes to it.
  obtain ⟨hid, hspan⟩ := span_append.mp hspan
  obtain ⟨hrepresentation, hspan⟩ := span_append.mp hspan
  obtain ⟨hrowsSpan, hspan⟩ := span_append.mp hspan
  obtain ⟨hfeaturesSpan, hspan⟩ := span_append.mp hspan
  obtain ⟨hflag, hbody⟩ := span_append.mp hspan
  have hinside := hbody.inside
  obtain ⟨hnames, hspan⟩ := span_append.mp hbody
  obtain ⟨hobservations, hspan⟩ := span_append.mp hspan
  obtain ⟨hcolumns, hmasks⟩ := span_append.mp hspan
  rw [List.length_singleton] at hinside hnames hobservations hcolumns hmasks
  refine Returns.bind (decodes_readString hend _ _ _ parts.featureSetIdWire hid) ?_
  refine Returns.bind (decodes_readIdent hend _ _ _ _ parts.representationIdWire hrepresentation) ?_
  refine Returns.bind (decodes_readU32 hend _ _ _ parts.rowsWire hrowsSpan) ?_
  refine Returns.bind (decodes_readU32 hend _ _ _ parts.featuresWire hfeaturesSpan) ?_
  refine Returns.bind (decodes_readU8 _ _ _ rfl hflag) ?_
  refine returns_guard (boolByte_le_one _) ?_
  refine Returns.bind (returns_ensureDimensionsFit hrows hfeatures hcellsBound
    (by rw [List.length_singleton]; omega) (by rw [List.length_singleton]; omega)
    (by rw [List.length_singleton]; omega)) ?_
  refine Returns.bind (returns_reservedVec hgrants _) ?_
  refine Returns.bind (decodes_readMany (decodes_readString hend) _ _ _ parts.namesWire hnames) ?_
  refine Returns.bind (returns_reservedVec hgrants _) ?_
  refine Returns.bind (decodes_readMany (decodes_readIdent hend _) _ _ _ parts.observationsWire
    hobservations) ?_
  refine Returns.bind (returns_reservedVec hgrants _) ?_
  have hcolumnsRead := decodes_readMany (decodes_readColumn hend hgrants matrix.featureSetId hrows)
    _ _ _ parts.columnsWire hcolumns
  rw [parts.columnCount] at hcolumnsRead
  refine Returns.bind hcolumnsRead ?_
  refine Returns.bind (decodes_readMasks hgrants _ _ _ _ _ _ parts.masksWire hmasks) ?_
  exact returns_pure _

theorem consumes_readBuffer (hend : payloadEnd ≤ input.length) :
    Consumes (limits input payloadEnd) input payloadEnd (readBuffer input payloadEnd)
      BufferWire := by
  intro cursor hcursor
  refine Safe.bind (consumes_readString hend cursor hcursor) fun r hr => ?_
  obtain ⟨featureSetId, next⟩ := r
  obtain ⟨idChunk, hid, hidSpan, rfl⟩ := took_iff.mp hr
  refine Safe.bind (consumes_readIdent hend _ _ hr.le) fun r hr => ?_
  obtain ⟨representationId, next⟩ := r
  obtain ⟨representationChunk, hrepresentation, hrepresentationSpan, rfl⟩ := took_iff.mp hr
  refine Safe.bind (consumes_readU32 hend _ hr.le) fun r hr => ?_
  obtain ⟨rowCount, next⟩ := r
  obtain ⟨rowsChunk, hrows, hrowsSpan, rfl⟩ := took_iff.mp hr
  refine Safe.bind (consumes_readU32 hend _ hr.le) fun r hr => ?_
  obtain ⟨featureCount, next⟩ := r
  obtain ⟨featuresChunk, hfeatures, hfeaturesSpan, rfl⟩ := took_iff.mp hr
  refine Safe.bind (consumes_readU8 hend _ hr.le) fun r hr => ?_
  obtain ⟨hasValidity, next⟩ := r
  obtain ⟨_, rfl, hflagSpan, rfl⟩ := took_iff.mp hr
  refine safe_guard fun hflag => ?_
  refine Safe.bind (safe_ensureDimensionsFit hend _ _ _ _) fun _ hfit => ?_
  refine Safe.bind (safe_reservedVec hfit.1) fun _ _ => ?_
  refine Safe.bind (consumes_readMany (consumes_readString hend) _ _ hr.le) fun r hr => ?_
  obtain ⟨names, next⟩ := r
  obtain ⟨hnamesTook, rfl⟩ := hr
  obtain ⟨namesChunk, hnames, hnamesSpan, rfl⟩ := took_iff.mp hnamesTook
  refine Safe.bind (safe_reservedVec hfit.2) fun _ _ => ?_
  refine Safe.bind (consumes_readMany (consumes_readIdent hend _) _ _ hnamesTook.le)
    fun r hr => ?_
  obtain ⟨observations, next⟩ := r
  obtain ⟨hobservationsTook, rfl⟩ := hr
  obtain ⟨observationsChunk, hobservations, hobservationsSpan, rfl⟩ :=
    took_iff.mp hobservationsTook
  refine Safe.bind (safe_reservedVec hfit.1) fun _ _ => ?_
  refine Safe.bind (consumes_readMany (consumes_readColumn hend featureSetId _) _ _
    hobservationsTook.le) fun r hr => ?_
  obtain ⟨columns, next⟩ := r
  obtain ⟨hcolumnsTook, hcolumnCount⟩ := hr
  obtain ⟨columnsChunk, hcolumns, hcolumnsSpan, rfl⟩ := took_iff.mp hcolumnsTook
  refine Safe.bind (consumes_readMasks hend featureSetId hfit.1 hflag hcolumnsTook.le)
    fun r hr => ?_
  obtain ⟨masks, next⟩ := r
  obtain ⟨hmasksTook, hbyte⟩ := hr
  obtain ⟨masksChunk, hmasks, hmasksSpan, rfl⟩ := took_iff.mp hmasksTook
  change boolByte masks.isSome = hasValidity at hbyte
  subst hbyte
  -- The chunks lie one after another, in the order of the wire form.
  let parts : BufferParts ⟨featureSetId, representationId, names,
      observations, columns, masks⟩ :=
    ⟨idChunk, representationChunk, rowsChunk, featuresChunk, namesChunk, observationsChunk,
      columnsChunk, masksChunk, hid, hrepresentation, hrows, hfeatures, hnames, hobservations,
      hcolumnCount, hcolumns, hmasks⟩
  refine safe_pure ⟨parts.toBytes, ⟨parts, rfl⟩, ?_, ?_⟩
  · simp only [parts, BufferParts.toBytes, BufferParts.body, span_append]
    exact ⟨hidSpan, hrepresentationSpan, hrowsSpan, hfeaturesSpan, hflagSpan, hnamesSpan,
      hobservationsSpan, hcolumnsSpan, hmasksSpan⟩
  · simp only [parts, BufferParts.toBytes, BufferParts.body, List.length_append]
    omega

end Readers

end DagMlData.BufferFile
