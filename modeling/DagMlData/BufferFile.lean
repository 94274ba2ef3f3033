import DagMlData.Buffer
import DagMlData.Lib.Loading

/-!
# The buffer file format

`buffer_file_store.rs`: the `.n4d` byte stream that a store of feature buffers is written to and
read from. A stream is a header, the wire forms of the buffers and the SHA-256 of all of it.

* Writing: `serializeColumnarStore`. It yields no bytes where the source panics, which is when a
  count does not fit in a `u32` or when a debug assertion fails.
* Reading: `deserializeColumnarStore`, a `Loader`. It keeps a trace of the sizes that it computes
  and of the vectors that it reserves. The allocator of the machine is a parameter.
-/

namespace DagMlData

open Guard RustText Loading

/-- What the reader asks of the machine: which reservations the allocator grants after which
earlier ones, and how the errors of the standard library print. -/
class Machine where
  grants : List Nat → Nat → Bool
  reserveError : Nat → String
  utf8Error : List UInt8 → String

namespace BufferFile

/-- `MAGIC`. -/
def magic : List UInt8 := bytes "N4DF"

/-- `NUMERIC_FEATURE_BUFFER_FILE_FORMAT_VERSION`. -/
def formatVersion : Nat := 1

/-- `TRAILER_LEN`. -/
def trailerLen : Nat := 32

/-! ## Writing -/

/-- `u32::try_from(n).expect(..)`, as the four bytes that are written. -/
def writeU32 (n : Nat) : Option (List UInt8) := if n < 2 ^ 32 then some (leBytes 4 n) else none

/-- `debug_assert_eq!(len as u32, expected)`. -/
def debugAssertLen (len expected : Nat) : Option Unit :=
  if len % 2 ^ 32 = expected then some () else none

/-- The items, each written after the other. -/
def writeEach {α : Type} (write : α → Option (List UInt8)) (items : List α) :
    Option (List UInt8) :=
  (items.mapM write).map List.flatten

def writeString (value : String) : Option (List UInt8) := do
  let len ← writeU32 (bytes value).length
  some (len ++ bytes value)

def writeColumn (rowCount : Nat) (column : List F64) : Option (List UInt8) := do
  debugAssertLen column.length rowCount
  some (column.flatMap F64.toLeBytes)

/-- `u8::from(b)`. -/
def boolByte (b : Bool) : UInt8 := if b then 1 else 0

def writeMask (rowCount : Nat) (mask : List Bool) : Option (List UInt8) := do
  debugAssertLen mask.length rowCount
  some (mask.map boolByte)

def writeMasks (rowCount featureCount : Nat) (masks : Option (List (List Bool))) :
    Option (List UInt8) :=
  match masks with
  | some masks => do
    debugAssertLen masks.length featureCount
    writeEach (writeMask rowCount) masks
  | none => some []

def writeBuffer (matrix : NumericFeatureMatrixF64Columnar) : Option (List UInt8) := do
  let rowCount := matrix.observationIds.length
  let featureCount := matrix.featureNames.length
  let featureSetId ← writeString matrix.featureSetId
  let representationId ← writeString matrix.representationId.value
  let rows ← writeU32 rowCount
  let features ← writeU32 featureCount
  let names ← writeEach writeString matrix.featureNames
  let observations ← writeEach
    (fun o : ObservationId => writeString o.value) matrix.observationIds
  let columns ← writeEach (writeColumn rowCount) matrix.columns
  let masks ← writeMasks rowCount featureCount matrix.validityMasks
  some (featureSetId ++ (representationId ++ (rows ++ (features ++
    ([boolByte matrix.validityMasks.isSome] ++ (names ++ (observations ++ (columns ++ masks))))))))

/-- What `serialize_columnar_store` writes before the digest. -/
def writePayload (store : NumericFeatureBufferStore) : Option (List UInt8) := do
  let bufferCount ← writeU32 store.buffers.size
  let buffers ← writeEach (fun entry : String × NumericFeatureBuffer =>
    if entry.1 = entry.2.featureSetId then writeBuffer entry.2.toF64ColumnMatrix else none)
    store.buffers.toList
  some (magic ++ (leBytes 4 formatVersion ++ (bufferCount ++ buffers)))

def serializeColumnarStore [ThirdParty] (store : NumericFeatureBufferStore) :
    Option (List UInt8) := do
  let payload ← writePayload store
  some (payload ++ (ThirdParty.sha256 payload).toList)

/-! ## Reading -/

section Reading
variable [Machine]

/-- `std::str::from_utf8`. -/
def fromUtf8 (raw : List UInt8) : Option String := String.fromUTF8? ⟨raw.toArray⟩

/-- `ensure_remaining`. -/
def ensureRemaining (payloadEnd cursor needed : Nat) (label : String) : Loader DataError Unit := do
  let truncated : DataError := .validation (s!"{label} truncated at cursor {cursor}: needed " ++
    s!"{needed} bytes, payload ends at {payloadEnd}")
  if cursor > payloadEnd then Loader.refuse truncated
  else do
    let remaining ← Loader.sub payloadEnd cursor
    if needed > remaining then Loader.refuse truncated else pure ()

/-- `ensure_count_fits`. -/
def ensureCountFits (payloadEnd cursor count minimumBytes : Nat) (label : String) :
    Loader DataError Unit := do
  let needed ← Loader.lift (require (checkedMul count minimumBytes)
    (.validation s!"feature buffer file {label} size overflows usize"))
  ensureRemaining payloadEnd cursor needed label

/-- `reserved_vec`. -/
def reservedVec (count : Nat) : Loader DataError Unit :=
  Loader.reserve Machine.grants
    (.validation s!"feature buffer file allocation failed: {Machine.reserveError count}") count

/-- `read_u32`. -/
def readU32 (bytes : List UInt8) (offset : Nat) : Loader DataError Nat := do
  let stop ← Loader.add offset 4
  if stop > bytes.length then
    Loader.refuse (.validation s!"feature buffer file truncated reading u32 at offset {offset}")
  else do
    let raw ← Loader.slice bytes offset stop
    pure (leValue raw)

/-- `read_u32_advance`. -/
def readU32Advance (bytes : List UInt8) (payloadEnd : Nat) : Reader DataError Nat :=
    fun cursor => do
  ensureRemaining payloadEnd cursor 4 "feature buffer file u32"
  let next ← Loader.add cursor 4
  let raw ← Loader.slice bytes cursor next
  pure (leValue raw, next)

/-- `read_u8_advance`. -/
def readU8Advance (bytes : List UInt8) (payloadEnd : Nat) : Reader DataError UInt8 :=
    fun cursor => do
  ensureRemaining payloadEnd cursor 1 "feature buffer file u8"
  let value ← Loader.byteAt bytes cursor
  let next ← Loader.add cursor 1
  pure (value, next)

/-- `read_string`. -/
def readString (bytes : List UInt8) (payloadEnd : Nat) : Reader DataError String := fun cursor => do
  let (len, cursor) ← readU32Advance bytes payloadEnd cursor
  ensureRemaining payloadEnd cursor len "feature buffer file string"
  let next ← Loader.add cursor len
  let raw ← Loader.slice bytes cursor next
  let value ← Loader.lift (require (fromUtf8 raw)
    (.validation s!"invalid utf-8 string: {Machine.utf8Error raw}"))
  pure (value, next)

/-- A string that is an identifier. -/
def readIdent (kind : IdKind) (bytes : List UInt8) (payloadEnd : Nat) :
    Reader DataError (Ident kind) := fun cursor => do
  let (raw, cursor) ← readString bytes payloadEnd cursor
  let ident ← Loader.lift (Ident.new kind raw)
  pure (ident, cursor)

/-- The loop body over the columns of `read_buffer`. -/
def readColumn (bytes : List UInt8) (payloadEnd : Nat) (featureSetId : String) (rowCount : Nat) :
    Reader DataError (List F64) := fun cursor => do
  let needed ← Loader.lift (require (checkedMul rowCount 8)
    (.validation s!"feature buffer file `{featureSetId}` column size overflows usize"))
  ensureRemaining payloadEnd cursor needed featureSetId
  reservedVec rowCount
  let column ← (List.range rowCount).mapM fun row => do
    let step ← Loader.mul row 8
    let offset ← Loader.add cursor step
    let stop ← Loader.add offset 8
    let raw ← Loader.slice bytes offset stop
    pure (F64.fromLeBytes raw)
  let next ← Loader.add cursor needed
  pure (column, next)

/-- The loop body over the masks of `read_buffer`. -/
def readMask (bytes : List UInt8) (payloadEnd : Nat) (featureSetId : String) (rowCount : Nat) :
    Reader DataError (List Bool) := fun cursor => do
  ensureRemaining payloadEnd cursor rowCount featureSetId
  reservedVec rowCount
  let mask ← (List.range rowCount).mapM fun offset => do
    let at_ ← Loader.add cursor offset
    let byte ← Loader.byteAt bytes at_
    if byte > 1 then
      Loader.refuse (.validation
        s!"feature buffer file `{featureSetId}` validity byte {byte} is not 0 or 1")
    else pure (byte == 1)
  let next ← Loader.add cursor rowCount
  pure (mask, next)

/-- The mask section of `read_buffer`, when there is one. -/
def readMasks (bytes : List UInt8) (payloadEnd : Nat) (featureSetId : String)
    (rowCount featureCount : Nat) (hasValidity : UInt8) :
    Reader DataError (Option (List (List Bool))) := fun cursor =>
  if hasValidity = 1 then do
    reservedVec featureCount
    let (masks, cursor) ←
      readMany (readMask bytes payloadEnd featureSetId rowCount) featureCount cursor
    pure (some masks, cursor)
  else pure (none, cursor)

/-- The checks of `read_buffer` on the declared dimensions. -/
def ensureDimensionsFit (payloadEnd cursor rowCount featureCount : Nat) (hasValidity : UInt8) :
    Loader DataError Unit := do
  ensureCountFits payloadEnd cursor featureCount 4 "feature count"
  ensureCountFits payloadEnd cursor rowCount 4 "row count"
  let cells ← Loader.lift (require (checkedMul rowCount featureCount)
    (.validation "feature buffer file matrix dimensions overflow usize"))
  ensureCountFits payloadEnd cursor cells (8 + hasValidity.toNat) "matrix cells"

/-- `read_buffer`. -/
def readBuffer (bytes : List UInt8) (payloadEnd : Nat) :
    Reader DataError NumericFeatureMatrixF64Columnar := fun cursor => do
  let (featureSetId, cursor) ← readString bytes payloadEnd cursor
  let (representationId, cursor) ← readIdent .representation bytes payloadEnd cursor
  let (rowCount, cursor) ← readU32Advance bytes payloadEnd cursor
  let (featureCount, cursor) ← readU32Advance bytes payloadEnd cursor
  let (hasValidity, cursor) ← readU8Advance bytes payloadEnd cursor
  if hasValidity > 1 then
    Loader.refuse (.validation
      s!"feature buffer file `{featureSetId}` has invalid has_validity byte {hasValidity}")
  else do
    ensureDimensionsFit payloadEnd cursor rowCount featureCount hasValidity
    reservedVec featureCount
    let (featureNames, cursor) ← readMany (readString bytes payloadEnd) featureCount cursor
    reservedVec rowCount
    let (observationIds, cursor) ←
      readMany (readIdent .observation bytes payloadEnd) rowCount cursor
    reservedVec featureCount
    let (columns, cursor) ←
      readMany (readColumn bytes payloadEnd featureSetId rowCount) featureCount cursor
    let (validityMasks, cursor) ←
      readMasks bytes payloadEnd featureSetId rowCount featureCount hasValidity cursor
    pure (⟨featureSetId, representationId, featureNames, observationIds,
      columns, validityMasks⟩,
      cursor)

/-- The capacities that `from_f64_column_matrix` reserves: the columns, and the rows of each. -/
def constructorCapacities (matrix : NumericFeatureMatrixF64Columnar) : List Nat :=
  matrix.featureNames.length :: matrix.columns.map fun _ => matrix.observationIds.length

/-- `deserialize_columnar_store`. -/
def deserializeColumnarStore [ThirdParty] (bytes : List UInt8) :
    Loader DataError NumericFeatureBufferStore := do
  if bytes.length < 12 + trailerLen then
    Loader.refuse (.validation (s!"feature buffer file is truncated: got {bytes.length} bytes, " ++
      s!"need at least {12 + trailerLen}"))
  else do
    let start ← Loader.slice bytes 0 4
    if start ≠ magic then
      Loader.refuse (.validation "feature buffer file does not start with N4DF magic")
    else do
      let payloadEnd ← Loader.sub bytes.length trailerLen
      let payload ← Loader.slice bytes 0 payloadEnd
      let trailer ← Loader.slice bytes payloadEnd bytes.length
      if (ThirdParty.sha256 payload).toList ≠ trailer then
        Loader.refuse (.validation "feature buffer file SHA-256 trailer does not match payload")
      else do
        let version ← readU32 bytes 4
        if version ≠ formatVersion then
          Loader.refuse (.validation (s!"feature buffer file uses unsupported format version " ++
            s!"{version}, expected {formatVersion}"))
        else do
          let bufferCount ← readU32 bytes 8
          ensureCountFits payloadEnd 12 bufferCount 17 "buffer count"
          reservedVec bufferCount
          let (matrices, cursor) ← readMany (readBuffer bytes payloadEnd) bufferCount 12
          if cursor ≠ payloadEnd then do
            let trailing ← Loader.sub payloadEnd cursor
            Loader.refuse (.validation
              (s!"feature buffer file has {trailing} trailing bytes after " ++
              s!"{bufferCount} declared buffer(s)"))
          else do
            Loader.reserveAll (matrices.flatMap constructorCapacities)
            Loader.lift (NumericFeatureBufferStore.fromF64ColumnMatrices matrices)

end Reading

end BufferFile

end DagMlData
