import DagMlData.Lib.Callbacks
import DagMlData.ProviderAbi
import DagMlData.TensorPanics

/-!
# Buffers from a fetcher of the host

`dagmldata_inmemory_provider_new_with_buffer_fetcher` asks callbacks of the host for the feature
matrices, copies them, frees the error texts that the host hands out, and calls `destroy` of the
host when it is done. The host may answer in any way, also by what happened before.

* `bufferFetcher_lifecycle`: what the host sees of a call of the constructor, and when the provider
  is built.
-/

namespace DagMlData

open Guard RustText Unchecked BufferFile Loading Callbacks

/-! ## Texts of the host -/

namespace Utf8Lossy

/-- The ranges of the bytes that follow a first byte, where a character starts with it. -/
def followers (first : UInt8) : Option (List (UInt8 × UInt8)) :=
  if first < 0x80 then some []
  else if 0xC2 ≤ first && first ≤ 0xDF then some [(0x80, 0xBF)]
  else if first == 0xE0 then some [(0xA0, 0xBF), (0x80, 0xBF)]
  else if first == 0xED then some [(0x80, 0x9F), (0x80, 0xBF)]
  else if 0xE1 ≤ first && first ≤ 0xEF then some [(0x80, 0xBF), (0x80, 0xBF)]
  else if first == 0xF0 then some [(0x90, 0xBF), (0x80, 0xBF), (0x80, 0xBF)]
  else if first == 0xF4 then some [(0x80, 0x8F), (0x80, 0xBF), (0x80, 0xBF)]
  else if 0xF1 ≤ first && first ≤ 0xF3 then some [(0x80, 0xBF), (0x80, 0xBF), (0x80, 0xBF)]
  else none

/-- The text so far, the bytes of the character that has started, and what may follow them. -/
structure State where
  done : String
  pending : List UInt8
  missing : List (UInt8 × UInt8)

/-- Text with the replacement character at its end. -/
def replaced (text : String) : String := text ++ "\uFFFD"

/-- A byte where a character starts. -/
def start (text : String) (byte : UInt8) : State :=
  match followers byte with
  | none => ⟨replaced text, [], []⟩
  | some [] => ⟨text ++ (fromUtf8 [byte]).getD "", [], []⟩
  | some missing => ⟨text, [byte], missing⟩

def step (st : State) (byte : UInt8) : State :=
  match st.missing with
  | [] => start st.done byte
  | (low, high) :: missing =>
    if low ≤ byte && byte ≤ high then
      let pending := st.pending ++ [byte]
      if missing.isEmpty then ⟨st.done ++ (fromUtf8 pending).getD "", [], []⟩
      else ⟨st.done, pending, missing⟩
    else start (replaced st.done) byte

end Utf8Lossy

/-- `String::from_utf8_lossy`: the longest beginning of a character that no byte continues becomes
one replacement character. -/
def fromUtf8Lossy (raw : List UInt8) : String :=
  let last := raw.foldl Utf8Lossy.step ⟨"", [], []⟩
  if last.pending.isEmpty then last.done else Utf8Lossy.replaced last.done

example : fromUtf8Lossy [0x61, 0xE2, 0x82, 0xE2, 0x82, 0xAC, 0xFF, 0xF0] =
    "a\uFFFD\u20AC\uFFFD\uFFFD" := by decide +kernel

/-- `DagMlDataString` as a host fills it. -/
structure HostString where
  ptr : Pointer UInt8
  len : Nat

/-! ## Columnar views -/

structure DagMlDataF64ColumnView where
  values : Pointer F64
  valuesLen : Nat
  validityMask : Pointer UInt8
  validityMaskLen : Nat

structure DagMlDataFeatureMatrixF64ColumnarView where
  featureSetId : DagMlDataBytesView
  representationId : DagMlDataBytesView
  featureNames : Pointer DagMlDataBytesView
  featureNamesLen : Nat
  observationIds : Pointer DagMlDataBytesView
  observationIdsLen : Nat
  columns : Pointer DagMlDataF64ColumnView
  columnsLen : Nat

/-- `f64_view_to_vec`. -/
def f64ViewToVec (ptr : Pointer F64) (len : Nat) (label : String) : AbiOutcome (List F64) :=
  match ptr with
  | none => do
    rejectIf (len != 0) (refusal s!"{label} pointer is null")
    pure []
  | some readable => readSlice 8 readable len

/-- `u8_validity_mask_to_vec`. -/
def u8ValidityMaskToVec (ptr : Pointer UInt8) (len : Nat) (label : String) :
    AbiOutcome (Option (List Bool)) :=
  match ptr with
  | none => do
    rejectIf (len != 0) (refusal s!"{label} pointer is null")
    pure none
  | some readable =>
    if len == 0 then pure none
    else do
      let raw ← readSlice 1 readable len
      let mask ← raw.zipIdx.mapM fun (byte, idx) => do
        rejectIf (byte > 1) (refusal s!"{label}[{idx}] must be 0 or 1")
        pure (byte == 1)
      pure (some mask)

/-- A column of the view, with an empty mask where it has none. -/
def f64ColumnViewToVecs (label : String) (column : DagMlDataF64ColumnView) (idx : Nat) :
    AbiOutcome (List F64 × List Bool) := do
  let values ← f64ViewToVec column.values column.valuesLen s!"{label} column {idx} values"
  let mask ← u8ValidityMaskToVec column.validityMask column.validityMaskLen
    s!"{label} column {idx} validity_mask"
  pure (values, mask.getD [])

/-- The check of the mask of a column where some column has one. -/
def checkColumnMask (label : String) (column : List F64 × List Bool) (idx : Nat) :
    AbiOutcome Unit := do
  rejectIf column.2.isEmpty
    (refusal (s!"{label} column {idx} validity_mask is missing but other " ++
    "columns supply one; either all columns must supply a validity_mask or none"))
  rejectIf (column.2.length != column.1.length)
    (refusal (s!"{label} column {idx} validity_mask has {column.2.length} values for " ++
      s!"{column.1.length} rows"))

/-- `f64_column_views_to_vecs`. -/
def f64ColumnViewsToVecs (ptr : Pointer DagMlDataF64ColumnView) (len : Nat) (label : String) :
    AbiOutcome (List (List F64) × Option (List (List Bool))) :=
  match ptr with
  | none => do
    rejectIf (len != 0) (refusal s!"{label} columns pointer is null")
    pure ([], none)
  | some readable => do
    let views ← readSlice 32 readable len
    let columns ← views.zipIdx.mapM fun (column, idx) => f64ColumnViewToVecs label column idx
    if columns.any fun column => !column.2.isEmpty then do
      forM columns.zipIdx fun (column, idx) => checkColumnMask label column idx
      pure (columns.map Prod.fst, some (columns.map Prod.snd))
    else pure (columns.map Prod.fst, none)

/-- `f64_feature_matrix_columnar_view_to_core`. -/
def f64FeatureMatrixColumnarViewToCore [Machine] (view : DagMlDataFeatureMatrixF64ColumnarView)
    (index : Nat) : AbiOutcome NumericFeatureMatrixF64Columnar := do
  let label := s!"f64 columnar feature matrix view {index}"
  let featureSetId ← bytesViewToString view.featureSetId s!"{label} feature_set_id"
  let representation ← bytesViewToString view.representationId s!"{label} representation_id"
  let representationId ← lift (Ident.new .representation representation)
  let featureNames ← bytesViewArrayToStrings view.featureNames view.featureNamesLen
    s!"{label} feature_names"
  let observationIds ← bytesViewArrayToStrings view.observationIds view.observationIdsLen
    s!"{label} observation_ids"
  let observationIds ← lift (observationIds.mapM (Ident.new .observation))
  let (columns, validityMasks) ← f64ColumnViewsToVecs view.columns view.columnsLen label
  pure {
    featureSetId := featureSetId
    representationId := representationId
    featureNames := featureNames
    observationIds := observationIds
    columns := columns
    validityMasks := validityMasks }

/-! ## The constructor -/

structure DagMlDataBufferFetchRequest where
  featureSetId : DagMlDataBytesView
  contentFingerprint : DagMlDataBytesView

/-- What a call of `fetch_columnar` leaves: its status and what it wrote to its out pointers. -/
structure FetchReply where
  status : DagMlDataStatusCode
  view : DagMlDataFeatureMatrixF64ColumnarView
  error : HostString

/-- What the host gets to see. -/
inductive FetcherEvent
  | fetched (request : DagMlDataBufferFetchRequest) (reply : FetchReply)
  | freed (message : HostString)
  | destroyed

abbrev FetchCallback : Type := Host FetcherEvent DagMlDataBufferFetchRequest FetchReply

structure DagMlDataBufferFetcherVTable where
  abiVersion : Nat
  fetchColumnar : Option FetchCallback
  /-- Whether there is a `destroy` callback. -/
  destroy : Bool

/-- `DAG_ML_DATA_BUFFER_FETCHER_ABI_VERSION`. -/
def bufferFetcherAbiVersion : Nat := 1

/-- The derived readers of the constructors. -/
class ConstructorReader where
  envelope : List UInt8 → Except String CoordinatorDataPlanEnvelope
  targetTables : List UInt8 → Except String (List CoordinatorTargetTable)

/-- A session of a constructor. -/
abbrev FetcherSession (α : Type) : Type := Session FetcherEvent (Stop AbiFailure) α

def DagMlDataStatusCode.debugName : DagMlDataStatusCode → String
  | .ok => "Ok"
  | .invalidArgument => "InvalidArgument"
  | .validationError => "ValidationError"
  | .panic => "Panic"

/-- `consume_string_message`. -/
def consumeStringMessage (value : HostString) : FetcherSession String :=
  match value.ptr with
  | none => pure "<empty>"
  | some readable =>
    if value.len == 0 then pure "<empty>"
    else do
      let raw ← Session.lift (fromRawParts isizeMax 1 readable value.len)
      Session.emit (.freed value)
      pure (fromUtf8Lossy raw)

/-- The matrix of a view, for the request at a place. -/
def fetchedMatrix [Machine] (view : DagMlDataFeatureMatrixF64ColumnarView) (index : Nat) :
    Outcome AbiFailure NumericFeatureMatrixF64Columnar :=
  (f64FeatureMatrixColumnarViewToCore view index).mapError fun
    | .refused e => .refused (argumentFailure .validationError
        s!"fetcher returned invalid matrix for request {index}: {CoreError.message (.data e)}")
    | .panicked => .panicked

/-- The loop body of the constructor. -/
def fetchMatrix [Machine] (fetch : FetchCallback) (entry : DagMlDataBufferFetchRequest × Nat) :
    FetcherSession NumericFeatureMatrixF64Columnar := do
  let reply ← Session.ask fetch .fetched entry.1
  let message ← consumeStringMessage reply.error
  Session.lift (rejectIf (reply.status != .ok) (.refused (argumentFailure .validationError
    (s!"fetcher rejected request {entry.2}: status {reply.status.debugName} message " ++
      s!"{message}"))))
  Session.lift (fetchedMatrix reply.view entry.2)

/-- The loop body of `parse_target_tables`. -/
def addTargetTable (byTarget : BTreeMap TargetId CoordinatorTargetTable)
    (table : CoordinatorTargetTable) : Result (BTreeMap TargetId CoordinatorTargetTable) := do
  table.validate
  rejectIf (byTarget.contains table.targetId)
    (.validation s!"duplicate target table `{table.targetId}`")
  pure (byTarget.insert table.targetId table)

/-- `parse_target_tables`. -/
def parseTargetTables [ConstructorReader] (ptr : Pointer UInt8) (len : Nat) :
    Outcome AbiFailure (BTreeMap TargetId CoordinatorTargetTable) :=
  match ptr with
  | none => do
    rejectIf (len != 0) (.refused (argumentFailure .invalidArgument
      "target tables pointer is null but length is non-zero"))
    pure ∅
  | some readable =>
    if len == 0 then pure ∅
    else do
      let json ← fromRawParts isizeMax 1 readable len
      let tables ← lift ((ConstructorReader.targetTables json).mapError jsonFailure)
      inCallback (tables.foldlM addTargetTable ∅)

/-- `InMemoryProviderState`, without its store of fitted adapters. -/
structure InMemoryProviderState where
  provider : InMemoryProvider
  targetTables : BTreeMap TargetId CoordinatorTargetTable

/-- `InMemoryProviderState::new`. -/
def InMemoryProviderState.new [ThirdParty] (envelope : CoordinatorDataPlanEnvelope)
    (targetTables : BTreeMap TargetId CoordinatorTargetTable)
    (featureStore : NumericFeatureBufferStore) : Result InMemoryProviderState := do
  envelope.validate
  forM targetTables.toList fun entry => entry.2.validateValues
  let provider ← InMemoryProvider.newWithTensors envelope featureStore ⟨∅⟩
  pure ⟨provider, targetTables⟩

/-- The arguments of the constructor. `outVtable` is whether its pointer is not null. -/
structure FetcherArguments where
  envelope : Pointer UInt8
  envelopeLen : Nat
  targetTables : Pointer UInt8
  targetTablesLen : Nat
  fetcher : DagMlDataBufferFetcherVTable
  requests : Pointer DagMlDataBufferFetchRequest
  requestsLen : Nat
  outVtable : Bool

/-- What the constructor has before it fetches. -/
structure FetchPlan where
  fetch : FetchCallback
  envelope : CoordinatorDataPlanEnvelope
  targetTables : BTreeMap TargetId CoordinatorTargetTable
  requests : List DagMlDataBufferFetchRequest

/-- The slice of the requests. -/
def FetcherArguments.readRequests (args : FetcherArguments) :
    Outcome AbiFailure (List DagMlDataBufferFetchRequest) :=
  if args.requestsLen == 0 then pure []
  else fromRawParts isizeMax 32 (args.requests.getD []) args.requestsLen

/-- The steps of the constructor before it fetches. -/
def fetchPlan [ConstructorReader] (args : FetcherArguments) : Outcome AbiFailure FetchPlan := do
  rejectIf (!args.outVtable)
    (.refused (argumentFailure .invalidArgument "vtable output pointer is null"))
  let readable ← require args.envelope
    (.refused (argumentFailure .invalidArgument "envelope pointer is null"))
  rejectIf (args.fetcher.abiVersion != bufferFetcherAbiVersion)
    (.refused (argumentFailure .invalidArgument
      (s!"fetcher vtable abi_version {args.fetcher.abiVersion} does not match " ++
        s!"{bufferFetcherAbiVersion}")))
  let fetch ← require args.fetcher.fetchColumnar (.refused (argumentFailure .invalidArgument
    "fetcher vtable fetch_columnar callback is null"))
  rejectIf (args.requests.isNone && args.requestsLen != 0)
    (.refused (argumentFailure .invalidArgument
      "fetch requests pointer is null but length is non-zero"))
  let json ← fromRawParts isizeMax 1 readable args.envelopeLen
  let envelope ← lift ((ConstructorReader.envelope json).mapError jsonFailure)
  let targetTables ← parseTargetTables args.targetTables args.targetTablesLen
  let requests ← args.readRequests
  pure ⟨fetch, envelope, targetTables, requests⟩

/-- `destroy_fetcher`. -/
def destroyFetcher (fetcher : DagMlDataBufferFetcherVTable) : FetcherSession Unit :=
  if fetcher.destroy then Session.emit .destroyed else pure ()

/-- `dagmldata_inmemory_provider_new_with_buffer_fetcher`. Every error up to the last fetch destroys
the fetcher before it returns. -/
def newWithBufferFetcher [ThirdParty] [Machine] [ConstructorReader] (args : FetcherArguments) :
    FetcherSession InMemoryProviderState := do
  let (plan, matrices) ← Session.orClose (destroyFetcher args.fetcher) do
    let plan ← Session.lift (fetchPlan args)
    let matrices ← Session.forEach (fetchMatrix plan.fetch) plan.requests.zipIdx
    pure (plan, matrices)
  destroyFetcher args.fetcher
  let featureStore ← Session.lift (inCallback
    (NumericFeatureBufferStore.fromF64ColumnMatrices matrices))
  Session.lift (inCallback
    (InMemoryProviderState.new plan.envelope plan.targetTables featureStore))

/-! ## Contracts of the host -/

/-- What the view declares can be read. -/
structure DagMlDataF64ColumnView.Readable (column : DagMlDataF64ColumnView) : Prop where
  values : column.values.Readable 8 column.valuesLen
  validityMask : column.validityMask.Readable 1 column.validityMaskLen

structure DagMlDataFeatureMatrixF64ColumnarView.Readable
    (view : DagMlDataFeatureMatrixF64ColumnarView) : Prop where
  featureSetId : view.featureSetId.ptr.Readable 1 view.featureSetId.len
  representationId : view.representationId.ptr.Readable 1 view.representationId.len
  featureNames : view.featureNames.ReadableViews view.featureNamesLen
  observationIds : view.observationIds.ReadableViews view.observationIdsLen
  columns : view.columns.Readable 32 view.columnsLen
  column : ∀ readable, view.columns = some readable →
    ∀ column ∈ readable.take view.columnsLen, column.Readable

/-- An answer that keeps to the contract of `fetch_columnar`: what it points to can be read. -/
structure FetchReply.Readable (reply : FetchReply) : Prop where
  view : reply.view.Readable
  error : reply.error.ptr.Readable 1 reply.error.len

structure FetcherArguments.Readable (args : FetcherArguments) : Prop where
  envelope : args.envelope.Readable 1 args.envelopeLen
  targetTables : args.targetTables.Readable 1 args.targetTablesLen
  requests : args.requests.Readable 32 args.requestsLen

/-! ## Panics -/

theorem not_panics_f64ViewToVec {ptr : Pointer F64} {len : Nat} {label : String}
    (h : ptr.Readable 8 len) : ¬ Panics (f64ViewToVec ptr len label) := by
  unfold f64ViewToVec
  cases ptr with
  | none => simp [refusal]
  | some readable => exact not_panics_readSlice (h readable rfl)

theorem not_panics_u8ValidityMaskToVec {ptr : Pointer UInt8} {len : Nat} {label : String}
    (h : ptr.Readable 1 len) : ¬ Panics (u8ValidityMaskToVec ptr len label) := by
  unfold u8ValidityMaskToVec
  cases ptr with
  | none => simp [refusal]
  | some readable =>
    simp only
    split
    · exact not_panics_pure
    · simp only [panics_bind, not_panics_readSlice (h readable rfl), false_or, not_panics_pure,
        and_false, exists_false, or_false]
      rintro ⟨raw, -, hpanics⟩
      obtain ⟨byte, -, hpanics⟩ := exists_panics_of_mapM hpanics
      simp [refusal] at hpanics

theorem not_panics_f64ColumnViewToVecs {label : String} {column : DagMlDataF64ColumnView}
    {idx : Nat} (h : column.Readable) : ¬ Panics (f64ColumnViewToVecs label column idx) := by
  unfold f64ColumnViewToVecs
  simp only [panics_bind, not_panics_f64ViewToVec h.values,
    not_panics_u8ValidityMaskToVec h.validityMask, not_panics_pure, and_false, exists_false,
    or_self, not_false_eq_true]

theorem not_panics_checkColumnMask {label : String} {column : List F64 × List Bool} {idx : Nat} :
    ¬ Panics (checkColumnMask label column idx) := by
  unfold checkColumnMask
  simp only [panics_bind, not_panics_rejectIf_refusal, and_false, exists_false, or_self,
    not_false_eq_true]

theorem not_panics_forM {α : Type} {xs : List α} {f : α → AbiOutcome Unit}
    (h : ∀ x ∈ xs, ¬ Panics (f x)) : ¬ Panics (forM xs f) := by
  induction xs with
  | nil => exact not_panics_pure
  | cons x xs ih =>
    obtain ⟨hfirst, hrest⟩ := List.forall_mem_cons.mp h
    rw [List.forM_cons, panics_bind]
    rintro (hpanics | ⟨-, -, hpanics⟩)
    · exact hfirst hpanics
    · exact ih hrest hpanics

theorem not_panics_f64ColumnViewsToVecs {ptr : Pointer DagMlDataF64ColumnView} {len : Nat}
    {label : String} (h : ptr.Readable 32 len)
    (hcolumns : ∀ readable, ptr = some readable →
      ∀ column ∈ readable.take len, column.Readable) :
    ¬ Panics (f64ColumnViewsToVecs ptr len label) := by
  unfold f64ColumnViewsToVecs
  cases ptr with
  | none => simp [refusal]
  | some readable =>
    simp only [panics_bind, not_panics_readSlice (h readable rfl), false_or]
    rintro ⟨views, hviews, hpanics | ⟨columns, -, hpanics⟩⟩
    · rw [readSlice, fromRawParts_eq_ok] at hviews
      obtain ⟨-, rfl⟩ := hviews
      obtain ⟨⟨column, idx⟩, hmem, hpanics⟩ := exists_panics_of_mapM hpanics
      have hcolumn := hcolumns readable rfl column (List.fst_mem_of_mem_zipIdx hmem)
      exact not_panics_f64ColumnViewToVecs hcolumn hpanics
    · split at hpanics
      · rcases panics_bind.mp hpanics with hpanics | ⟨-, -, hpanics⟩
        · exact not_panics_forM (fun _ _ => not_panics_checkColumnMask) hpanics
        · exact not_panics_pure hpanics
      · exact not_panics_pure hpanics

section Sessions
variable [Machine]

theorem not_panics_f64FeatureMatrixColumnarViewToCore
    {view : DagMlDataFeatureMatrixF64ColumnarView} {index : Nat} (h : view.Readable) :
    ¬ Panics (f64FeatureMatrixColumnarViewToCore view index) := by
  unfold f64FeatureMatrixColumnarViewToCore
  simp only [panics_bind, not_panics_bytesViewToString h.featureSetId,
    not_panics_bytesViewToString h.representationId,
    not_panics_bytesViewArrayToStrings h.featureNames,
    not_panics_bytesViewArrayToStrings h.observationIds,
    not_panics_f64ColumnViewsToVecs h.columns h.column, not_panics_lift, not_panics_pure,
    and_false, exists_false, or_self, not_false_eq_true]

theorem not_panics_fetchedMatrix {view : DagMlDataFeatureMatrixF64ColumnarView} {index : Nat}
    (h : view.Readable) : ¬ Panics (fetchedMatrix view index) := by
  have hcore : ¬ Panics (f64FeatureMatrixColumnarViewToCore view index) :=
    not_panics_f64FeatureMatrixColumnarViewToCore h
  unfold fetchedMatrix
  cases hrun : f64FeatureMatrixColumnarViewToCore view index with
  | ok matrix => nofun
  | error stop =>
    cases stop with
    | refused e => nofun
    | panicked => exact absurd hrun hcore

end Sessions

/-! ## The log -/

/-- The text is freed when it is not empty. The buffer of an empty one is left to the host. -/
def freedEvents (message : HostString) : List FetcherEvent :=
  if message.ptr.isSome && message.len != 0 then [.freed message] else []

/-- A call of the host: its answer, and the error text that is freed right after it. -/
def fetchEvents (request : DagMlDataBufferFetchRequest) (reply : FetchReply) : List FetcherEvent :=
  .fetched request reply :: freedEvents reply.error

/-- The first requests with the answers to them. -/
def fetchLog (requests : List DagMlDataBufferFetchRequest) (replies : List FetchReply) :
    List FetcherEvent :=
  (requests.zip replies).flatMap fun entry => fetchEvents entry.1 entry.2

/-- The last event: a fetcher with a `destroy` callback is destroyed once. -/
def destroyEvents (fetcher : DagMlDataBufferFetcherVTable) : List FetcherEvent :=
  if fetcher.destroy then [.destroyed] else []

theorem consumeStringMessage_eq {value : HostString} (h : value.ptr.Readable 1 value.len)
    (past : List FetcherEvent) :
    ∃ message, consumeStringMessage value past = (.ok message, past ++ freedEvents value) := by
  unfold consumeStringMessage freedEvents
  cases hptr : value.ptr with
  | none => exact ⟨"<empty>", by simp [pure, Session.ret]⟩
  | some readable =>
    simp only [Option.isSome_some, Bool.true_and]
    split
    · next hzero =>
      rw [beq_iff_eq] at hzero
      exact ⟨"<empty>", by simp [hzero, pure, Session.ret]⟩
    · next hne =>
      have hraw : (fromRawParts isizeMax 1 readable value.len : Outcome AbiFailure _) =
          .ok (readable.take value.len) := fromRawParts_eq_ok.mpr ⟨h readable hptr, rfl⟩
      refine ⟨fromUtf8Lossy (readable.take value.len), ?_⟩
      rw [hraw]
      have hfilled : (value.len != 0) = true := by simpa using hne
      rw [hfilled]
      rfl

section Fetching
variable [Machine]

/-- What a round of the loop ends with. -/
def fetchResult (reply : FetchReply) (index : Nat) (message : String) :
    Outcome AbiFailure NumericFeatureMatrixF64Columnar := do
  rejectIf (reply.status != .ok) (.refused (argumentFailure .validationError
    (s!"fetcher rejected request {index}: status {reply.status.debugName} message " ++
      s!"{message}")))
  fetchedMatrix reply.view index

/-- The host answered a request with a matrix. -/
def Served (entry : (DagMlDataBufferFetchRequest × Nat) × FetchReply)
    (matrix : NumericFeatureMatrixF64Columnar) : Prop :=
  entry.2.status = .ok ∧ fetchedMatrix entry.2.view entry.1.2 = .ok matrix

theorem fetchResult_eq_ok {reply : FetchReply} {entry : DagMlDataBufferFetchRequest × Nat}
    {message : String} {matrix : NumericFeatureMatrixF64Columnar} :
    fetchResult reply entry.2 message = .ok matrix ↔ Served (entry, reply) matrix := by
  unfold fetchResult Served
  simp only [bind_eq_ok, exists_unit, rejectIf_eq_ok, bne_eq_false_iff_eq]

theorem not_panics_fetchResult {reply : FetchReply} (h : reply.Readable) {index : Nat}
    {message : String} : ¬ Panics (fetchResult reply index message) := by
  unfold fetchResult
  simp only [panics_bind, not_panics_rejectIf, not_panics_fetchedMatrix h.view, and_false,
    exists_false, or_self, not_false_eq_true]

/-- A round: the host answers, its text is freed, and the answer is read. -/
theorem fetchMatrix_eq {fetch : FetchCallback} {past : List FetcherEvent}
    (entry : DagMlDataBufferFetchRequest × Nat) (h : (fetch past entry.1).Readable) :
    ∃ message, fetchMatrix fetch entry past =
      (fetchResult (fetch past entry.1) entry.2 message,
        past ++ fetchEvents entry.1 (fetch past entry.1)) := by
  obtain ⟨message, hmessage⟩ :=
    consumeStringMessage_eq h.error (past ++ [.fetched entry.1 (fetch past entry.1)])
  rw [List.append_assoc] at hmessage
  refine ⟨message, ?_⟩
  unfold fetchMatrix fetchResult
  have hask : Session.ask (ε := Stop AbiFailure) fetch FetcherEvent.fetched entry.1 past =
      (.ok (fetch past entry.1), past ++ [.fetched entry.1 (fetch past entry.1)]) := rfl
  rw [Session.bind_of_ok hask, Session.bind_of_ok hmessage]
  rw [← Session.lift_bind]
  rfl

end Fetching

/-! ## The steps before the fetches -/

/-- The requests that the arguments declare. -/
def FetcherArguments.requestList (args : FetcherArguments) : List DagMlDataBufferFetchRequest :=
  if args.requestsLen == 0 then [] else (args.requests.getD []).take args.requestsLen

section Plan
variable [ConstructorReader]

theorem fetchPlan_eq_ok {args : FetcherArguments} {plan : FetchPlan}
    (h : fetchPlan args = .ok plan) :
    args.fetcher.fetchColumnar = some plan.fetch ∧ plan.requests = args.requestList := by
  simp only [fetchPlan, bind_eq_ok, exists_unit, require_eq_ok, pure_eq_ok] at h
  obtain ⟨-, -, -, -, fetch, hfetch, -, -, -, -, -, -, -, requests, hrequests, rfl⟩ := h
  refine ⟨hfetch, ?_⟩
  unfold FetcherArguments.requestList
  unfold FetcherArguments.readRequests at hrequests
  split at hrequests
  · next hzero =>
    rw [if_pos hzero]
    exact (pure_eq_ok.mp hrequests).symm
  · next hne =>
    rw [if_neg hne]
    exact (fromRawParts_eq_ok.mp hrequests).2.symm

omit [ConstructorReader] in
theorem not_panics_inCallback {α : Type} (r : Result α) : ¬ Panics (inCallback r) :=
  not_panics_lift

theorem not_panics_parseTargetTables {ptr : Pointer UInt8} {len : Nat} (h : ptr.Readable 1 len) :
    ¬ Panics (parseTargetTables ptr len) := by
  unfold parseTargetTables
  cases ptr with
  | none => simp
  | some readable =>
    simp only
    split
    · exact not_panics_pure
    · rw [panics_bind, panics_fromRawParts]
      rintro (hpanics | ⟨json, -, hpanics⟩)
      · exact hpanics (h readable rfl)
      · rcases panics_bind.mp hpanics with hpanics | ⟨tables, -, hpanics⟩
        · exact not_panics_lift hpanics
        · exact not_panics_inCallback _ hpanics

omit [ConstructorReader] in
theorem not_panics_readRequests {args : FetcherArguments} (h : args.Readable)
    (hnull : (args.requests.isNone && args.requestsLen != 0) = false) :
    ¬ Panics args.readRequests := by
  unfold FetcherArguments.readRequests
  split
  · exact not_panics_pure
  · next hne =>
    rw [panics_fromRawParts]
    cases hrequests : args.requests with
    | none => simp_all
    | some requests => exact not_not_intro (h.requests requests hrequests)

theorem not_panics_fetchPlan {args : FetcherArguments} (h : args.Readable) :
    ¬ Panics (fetchPlan args) := by
  unfold fetchPlan
  simp only [panics_bind, not_panics_rejectIf, not_panics_require, not_panics_lift,
    not_panics_parseTargetTables h.targetTables, not_panics_pure, and_false, exists_false,
    or_false, false_or, panics_fromRawParts, require_eq_ok, rejectIf_eq_ok, exists_unit]
  rintro ⟨-, readable, hptr, -, fetch, -, hnull, hpanics | ⟨_, -, _, -, _, -, hpanics⟩⟩
  · exact hpanics (h.envelope readable hptr)
  · exact not_panics_readRequests h hnull hpanics

end Plan

/-! ## The loop -/

section Loop
variable [Machine] {fetch : FetchCallback} {past now : List FetcherEvent}

omit [Machine] in
theorem fetchLog_cons (request : DagMlDataBufferFetchRequest)
    (requests : List DagMlDataBufferFetchRequest) (reply : FetchReply) (replies : List FetchReply) :
    fetchLog (request :: requests) (reply :: replies) =
      fetchEvents request reply ++ fetchLog requests replies := by
  unfold fetchLog
  rw [List.zip_cons_cons, List.flatMap_cons]

/-- The rounds that end with a matrix. -/
theorem rounds_fetchMatrix (hhost : ∀ past request, (fetch past request).Readable)
    {entries : List (DagMlDataBufferFetchRequest × Nat)}
    {matrices : List NumericFeatureMatrixF64Columnar}
    (h : Session.Rounds (fetchMatrix fetch) past entries matrices now) :
    ∃ replies, replies.length = entries.length ∧
      now = past ++ fetchLog (entries.map Prod.fst) replies ∧
      List.Forall₂ Served (entries.zip replies) matrices := by
  induction h with
  | nil past => exact ⟨[], rfl, (List.append_nil past).symm, .nil⟩
  | @cons past mid now entry entries matrix matrices hbody _ ih =>
    obtain ⟨replies, hlength, rfl, hserved⟩ := ih
    obtain ⟨message, hround⟩ := fetchMatrix_eq entry (hhost past entry.1)
    rw [hround] at hbody
    obtain ⟨hresult, rfl⟩ := Prod.mk.inj hbody
    refine ⟨fetch past entry.1 :: replies, congrArg Nat.succ hlength, ?_,
      .cons (fetchResult_eq_ok.mp hresult) hserved⟩
    rw [List.map_cons, fetchLog_cons, List.append_assoc]

/-- The answers in the log of the loop are those of the host. -/
theorem keeps_fetchMatrix (entry : DagMlDataBufferFetchRequest × Nat) :
    Session.Keeps (Answered fetch FetcherEvent.fetched) (fetchMatrix fetch entry) := by
  unfold fetchMatrix
  refine (keeps_ask (fun _ _ _ _ h => FetcherEvent.fetched.inj h) entry.1).bind fun reply => ?_
  refine Session.Keeps.bind ?_ fun message =>
    (Session.keeps_lift _).bind fun _ => Session.keeps_lift _
  unfold consumeStringMessage
  split
  · exact Session.keeps_ret _
  · split
    · exact Session.keeps_ret _
    · exact (Session.keeps_lift _).bind fun raw =>
        (keeps_emit_answered fun _ _ h => by cases h).bind
        fun _ => Session.keeps_ret _

omit [Machine] in
theorem exists_of_forall₂ {α β : Type} {R : α → β → Prop} {xs : List α} {ys : List β}
    (h : List.Forall₂ R xs ys) {x : α} (hx : x ∈ xs) : ∃ y, R x y := by
  induction h with
  | nil => cases hx
  | @cons a b as bs hab _ ih =>
    rcases List.mem_cons.mp hx with rfl | hmem
    · exact ⟨b, hab⟩
    · exact ih hmem

theorem served_unique {entries : List ((DagMlDataBufferFetchRequest × Nat) × FetchReply)}
    {matrices others : List NumericFeatureMatrixF64Columnar}
    (h : List.Forall₂ Served entries matrices) (h' : List.Forall₂ Served entries others) :
    matrices = others :=
  List.right_unique_forall₂' (fun _ _ _ hab hac => Except.ok.inj (hab.2.symm.trans hac.2)) h h'

/-- What the loop has done when it stops: the first requests have been answered, and each answer but
the last one has given a matrix. -/
theorem fetchLoop_spec (hhost : ∀ past request, (fetch past request).Readable)
    (requests : List DagMlDataBufferFetchRequest) :
    ∃ (result : Outcome AbiFailure (List NumericFeatureMatrixF64Columnar))
      (replies : List FetchReply),
      Session.forEach (fetchMatrix fetch) requests.zipIdx [] =
        (result, fetchLog requests replies) ∧
      ¬ Panics result ∧ replies.length ≤ requests.length ∧
      (∀ entry ∈ (requests.zipIdx.zip replies).dropLast, ∃ matrix, Served entry matrix) ∧
      ∀ matrices, result = .ok matrices ↔ replies.length = requests.length ∧
        List.Forall₂ Served (requests.zipIdx.zip replies) matrices := by
  have hfst : requests.zipIdx.map Prod.fst = requests := List.zipIdx_map_fst 0 requests
  rcases Session.forEach_cases (fetchMatrix fetch) requests.zipIdx [] with
    ⟨matrices, now, hloop, hrounds⟩ | ⟨done, entry, rest, matrices, mid, e, now, hentries,
      hrounds, hfailed, hloop⟩
  · -- Every reply has been taken over.
    obtain ⟨replies, hlength, rfl, hserved⟩ := rounds_fetchMatrix hhost hrounds
    rw [hfst] at hloop
    rw [List.length_zipIdx] at hlength
    refine ⟨_, replies, hloop, nofun, hlength.le, fun entry hentry => ?_, ?_⟩
    · have hmem := List.mem_of_mem_dropLast hentry
      exact exists_of_forall₂ hserved hmem
    · refine fun others => ⟨fun h => ?_, fun h => ?_⟩
      · obtain rfl := Except.ok.inj h
        exact ⟨hlength, hserved⟩
      · exact congrArg Except.ok (served_unique hserved h.2)
  · -- The reply to `entry` has failed. It is the last one, and it is in the log.
    obtain ⟨replies, hlength, rfl, hserved⟩ := rounds_fetchMatrix hhost hrounds
    obtain ⟨message, hround⟩ := fetchMatrix_eq entry
      (hhost ([] ++ fetchLog (done.map Prod.fst) replies) entry.1)
    rw [hround] at hfailed
    obtain ⟨hresult, rfl⟩ := Prod.mk.inj hfailed
    generalize hlast : fetch ([] ++ fetchLog (done.map Prod.fst) replies) entry.1 = last at hloop
    have hreadable : last.Readable := hlast ▸ hhost _ _
    have hrequests : requests = done.map Prod.fst ++ entry.1 :: rest.map Prod.fst := by
      rw [← hfst, hentries, List.map_append, List.map_cons]
    have hcount : (done.map Prod.fst).length = replies.length := by
      rw [List.length_map, hlength]
    have hzip : requests.zipIdx.zip (replies ++ [last]) = done.zip replies ++ [(entry, last)] := by
      rw [hentries, List.zip_append hlength.symm, List.zip_cons_cons, List.zip_nil_right]
    have hlog : fetchLog requests (replies ++ [last]) =
        [] ++ fetchLog (done.map Prod.fst) replies ++ fetchEvents entry.1 last := by
      unfold fetchLog
      rw [hrequests, List.zip_append hcount, List.flatMap_append, List.zip_cons_cons,
        List.zip_nil_right, List.flatMap_singleton]
      rfl
    refine ⟨.error e, replies ++ [last], ?_, ?_, ?_, fun entry' hentry => ?_, fun others => ?_⟩
    · rw [hloop, hlog]
    · rw [hlast] at hresult
      intro hpanics
      obtain rfl := Except.error.inj hpanics
      exact not_panics_fetchResult hreadable hresult
    · rw [hrequests, List.length_append, List.length_append, hcount]
      exact Nat.add_le_add_left (Nat.le_add_left 1 _) _
    · rw [hzip, List.dropLast_concat] at hentry
      exact exists_of_forall₂ hserved hentry
    · refine ⟨nofun, fun h => ?_⟩
      rw [hzip] at h
      obtain ⟨matrix, hmatrix⟩ :=
        exists_of_forall₂ h.2 (List.mem_append_right _ List.mem_cons_self)
      rw [hlast] at hresult
      exact absurd (hresult.symm.trans (fetchResult_eq_ok.mpr hmatrix)) nofun

end Loop

/-! ## The constructor as the host sees it -/

section Constructor
variable [ThirdParty]

theorem InMemoryProviderState.builtFrom {envelope : CoordinatorDataPlanEnvelope}
    {targetTables : BTreeMap TargetId CoordinatorTargetTable}
    {buffers : BTreeMap String NumericFeatureBuffer} {featureStore : NumericFeatureBufferStore}
    {state : InMemoryProviderState}
    (hstore : NumericFeatureBufferStore.new buffers = .ok featureStore)
    (h : InMemoryProviderState.new envelope targetTables featureStore = .ok state) :
    state.provider.BuiltFrom envelope featureStore ⟨∅⟩ := by
  simp only [InMemoryProviderState.new, bind_eq_ok, exists_unit, pure_eq_ok] at h
  obtain ⟨-, -, provider, hprovider, rfl⟩ := h
  exact ⟨⟨buffers, hstore⟩, ⟨[], rfl⟩, hprovider⟩

omit [ThirdParty] in
theorem destroyFetcher_eq (fetcher : DagMlDataBufferFetcherVTable) (past : List FetcherEvent) :
    destroyFetcher fetcher past = (.ok (), past ++ destroyEvents fetcher) := by
  unfold destroyFetcher destroyEvents
  cases fetcher.destroy with
  | true => rfl
  | false => exact congrArg (Prod.mk _) (List.append_nil past).symm

/-- The provider of the matrices that the fetches gave. -/
def FetchPlan.build (plan : FetchPlan) (matrices : List NumericFeatureMatrixF64Columnar) :
    Outcome AbiFailure InMemoryProviderState := do
  let featureStore ← inCallback (NumericFeatureBufferStore.fromF64ColumnMatrices matrices)
  inCallback (InMemoryProviderState.new plan.envelope plan.targetTables featureStore)

omit [ThirdParty] in
theorem inCallback_eq_ok {α : Type} {r : Result α}
    {a : α} : inCallback r = .ok a ↔ r = .ok a := by
  cases r <;> simp [inCallback, Except.mapError]

theorem FetchPlan.not_panics_build (plan : FetchPlan)
    (matrices : List NumericFeatureMatrixF64Columnar) : ¬ Panics (plan.build matrices) := by
  unfold FetchPlan.build
  simp only [panics_bind, not_panics_inCallback, and_false, exists_false, or_self,
    not_false_eq_true]

omit [ThirdParty] in
theorem answered_destroyed {fetch : FetchCallback} {log : List FetcherEvent}
    (h : Answered fetch FetcherEvent.fetched log) (fetcher : DagMlDataBufferFetcherVTable) :
    Answered fetch FetcherEvent.fetched (log ++ destroyEvents fetcher) := by
  unfold destroyEvents
  split
  · exact h.concat fun _ _ heq => by cases heq
  · rw [List.append_nil]
    exact h

variable [Machine] [ConstructorReader]

/-- The constructor, after its checks and its loop. -/
theorem newWithBufferFetcher_eq {args : FetcherArguments} (h : args.Readable) :
    (∃ e, fetchPlan args = .error (.refused e) ∧
      newWithBufferFetcher args [] = (.error (.refused e), destroyEvents args.fetcher)) ∨
    ∃ plan, fetchPlan args = .ok plan ∧
      ∀ result log, Session.forEach (fetchMatrix plan.fetch) plan.requests.zipIdx [] =
        (result, log) → ¬ Panics result →
        newWithBufferFetcher args [] =
          (result >>= plan.build, log ++ destroyEvents args.fetcher) := by
  have hplan := not_panics_fetchPlan h
  unfold newWithBufferFetcher
  cases hrun : fetchPlan args with
  | error stop =>
    cases stop with
    | panicked => exact absurd hrun hplan
    | refused e =>
      refine .inl ⟨e, rfl, Session.bind_of_error ?_⟩
      have hnow := destroyFetcher_eq args.fetcher []
      rw [List.nil_append] at hnow
      have hlift : (Session.lift (.error (.refused e)) : FetcherSession FetchPlan) [] =
          (.error (.refused e), []) := rfl
      rw [Session.orClose_of_refused (Session.bind_of_error hlift), hnow]
  | ok plan =>
    refine .inr ⟨plan, rfl, fun result log hloop hpanics => ?_⟩
    have hlift : (Session.lift (.ok plan) : FetcherSession FetchPlan) [] = (.ok plan, []) := rfl
    cases result with
    | error stop =>
      cases stop with
      | panicked => exact absurd rfl hpanics
      | refused e =>
        refine Session.bind_of_error ?_
        rw [Session.orClose_of_refused ((Session.bind_of_ok hlift).trans
          (Session.bind_of_error hloop)), destroyFetcher_eq]
    | ok matrices =>
      refine (Session.bind_of_ok (Session.orClose_of_ok ((Session.bind_of_ok hlift).trans
        (Session.bind_of_ok hloop)))).trans ?_
      refine (Session.bind_of_ok (destroyFetcher_eq _ _)).trans ?_
      rw [← Session.lift_bind]
      rfl

/-- A call of the constructor as the host sees it. It answers for the first requests, in their
order, and every error text that is not empty is freed once, right after the answer that brought it.
Then the fetcher is destroyed once, and nothing happens after that, whether the call succeeds or
not. The call asks on only after answers that are matrices. It builds a provider exactly when the
arguments are read, all requests were answered by matrices that make a store, and the envelope and
the target tables pass their checks. The provider is built from these matrices and nothing else. -/
theorem bufferFetcher_lifecycle (args : FetcherArguments) (h : args.Readable)
    (hhost : ∀ fetch, args.fetcher.fetchColumnar = some fetch →
      ∀ past request, (fetch past request).Readable) :
    let run := newWithBufferFetcher args []
    let requests := args.requestList
    ¬ Panics run.1 ∧ ∃ replies : List FetchReply,
      run.2 = fetchLog requests replies ++ destroyEvents args.fetcher ∧
      replies.length ≤ requests.length ∧
      (∀ fetch, args.fetcher.fetchColumnar = some fetch →
        Answered fetch FetcherEvent.fetched run.2) ∧
      (∀ entry ∈ (requests.zipIdx.zip replies).dropLast, ∃ matrix, Served entry matrix) ∧
      ∀ state, run.1 = .ok state ↔ ∃ plan matrices featureStore,
        fetchPlan args = .ok plan ∧ replies.length = requests.length ∧
        List.Forall₂ Served (requests.zipIdx.zip replies) matrices ∧
        NumericFeatureBufferStore.fromF64ColumnMatrices matrices = .ok featureStore ∧
        InMemoryProviderState.new plan.envelope plan.targetTables featureStore = .ok state ∧
        state.provider.BuiltFrom plan.envelope featureStore ⟨∅⟩ := by
  intro run requests
  rcases newWithBufferFetcher_eq h with ⟨e, hplan, hrun⟩ | ⟨plan, hplan, hrun⟩
  · -- The arguments are refused, and nothing is fetched.
    have hrun' : run = (.error (.refused e), destroyEvents args.fetcher) := hrun
    rw [hrun']
    refine ⟨nofun, [], ?_, Nat.zero_le _, fun fetch _ => ?_, ?_, fun state => ⟨nofun, ?_⟩⟩
    · rw [fetchLog, List.zip_nil_right]
      rfl
    · exact answered_destroyed answered_nil args.fetcher
    · rw [List.zip_nil_right]
      nofun
    · rintro ⟨plan, _, _, hplan', -⟩
      exact absurd (hplan.symm.trans hplan') nofun
  · obtain ⟨hfetch, hrequests⟩ := fetchPlan_eq_ok hplan
    obtain ⟨result, replies, hloop, hpanics, hlength, hserved, hok⟩ :=
      fetchLoop_spec (hhost plan.fetch hfetch) requests
    have hrun' : run = (result >>= plan.build, fetchLog requests replies ++
        destroyEvents args.fetcher) := hrun result _ (hrequests ▸ hloop) hpanics
    have hanswered : Answered plan.fetch FetcherEvent.fetched (fetchLog requests replies) := by
      have hround : ∀ entry, Session.Keeps (Answered plan.fetch FetcherEvent.fetched)
          (fetchMatrix plan.fetch entry) := keeps_fetchMatrix
      have hkeeps := Session.Keeps.forEach hround requests.zipIdx [] answered_nil
      rw [hloop] at hkeeps
      exact hkeeps
    rw [hrun']
    refine ⟨?_, replies, rfl, hlength, fun fetch hfetch' => ?_, hserved, fun state => ?_⟩
    · rw [panics_bind]
      rintro (hpanics' | ⟨matrices, -, hpanics'⟩)
      · exact hpanics hpanics'
      · exact plan.not_panics_build matrices hpanics'
    · obtain rfl := Option.some.inj (hfetch.symm.trans hfetch')
      exact answered_destroyed hanswered args.fetcher
    · simp only [bind_eq_ok, FetchPlan.build, inCallback_eq_ok]
      constructor
      · rintro ⟨matrices, hmatrices, featureStore, hstore, hnew⟩
        obtain ⟨hall, hserved⟩ := (hok matrices).mp hmatrices
        obtain ⟨buffers, -, hbuffers⟩ := bind_eq_ok.mp hstore
        exact ⟨plan, matrices, featureStore, hplan, hall, hserved, hstore, hnew,
          InMemoryProviderState.builtFrom hbuffers hnew⟩
      · rintro ⟨plan', matrices, featureStore, hplan', hall, hserved, hstore, hnew, -⟩
        obtain rfl := Except.ok.inj (hplan.symm.trans hplan')
        exact ⟨matrices, (hok matrices).mpr ⟨hall, hserved⟩, featureStore, hstore, hnew⟩

end Constructor

/-! ## Two hosts -/

deriving instance DecidableEq for DagMlDataBytesView, HostString, DagMlDataF64ColumnView,
  DagMlDataFeatureMatrixF64ColumnarView, DagMlDataBufferFetchRequest, FetchReply, FetcherEvent

/-- The shared envelope, as it is written. -/
def sharedEnvelopeText : String :=
  let cohort : List (String × Json) := match sharedCohort.toJson with
    | .object fields => fields
    | _ => []
  @Json.compact (.ofTable []) (.object
    [("schema_version", .number (.int sharedEnvelope.schemaVersion)),
      ("schema_fingerprint", .string sharedEnvelope.schemaFingerprint),
      ("plan_fingerprint", .string sharedEnvelope.planFingerprint),
      ("plan", sharedEnvelope.plan.toJson), ("coordinator_relations", sharedTraining.toJson),
      ("predict_cohort", .object
        (cohort ++ [("cohort_fingerprint", .string sharedCohort.cohortFingerprint)]))])

/-- A reader that knows one envelope. -/
@[reducible] def sharedConstructorReader : ConstructorReader where
  envelope json :=
    if json = bytes sharedEnvelopeText then .ok sharedEnvelope
    else .error "expected value at line 1 column 1"
  targetTables _ := .error "expected value at line 1 column 1"

/-- A matrix of one column, and an error text although nothing has failed. -/
def servingReply : FetchReply where
  status := .ok
  view :=
    { featureSetId := .ofText "all"
      representationId := .ofText "tabular"
      featureNames := some [.ofText "a"]
      featureNamesLen := 1
      observationIds := some [.ofText "o1", .ofText "o2"]
      observationIdsLen := 2
      columns := some [⟨some [F64.ofInt 1, F64.ofInt 2], 2, none, 0⟩]
      columnsLen := 1 }
  error := ⟨some [0x6E, 0x6F], 2⟩

/-- The text `no`, with a status that is not `Ok`. -/
def refusingReply : FetchReply where
  status := .validationError
  view := ⟨⟨none, 0⟩, ⟨none, 0⟩, none, 0, none, 0, none, 0⟩
  error := ⟨some [0x6E, 0x6F], 2⟩

def oneRequest : DagMlDataBufferFetchRequest := ⟨.ofText "all", .ofText "b"⟩

/-- Requests to a host that answers every one alike. -/
def hostArguments (reply : FetchReply) (requests : List DagMlDataBufferFetchRequest) :
    FetcherArguments where
  envelope := some (bytes sharedEnvelopeText)
  envelopeLen := (bytes sharedEnvelopeText).length
  targetTables := none
  targetTablesLen := 0
  fetcher := ⟨1, some fun _ _ => reply, true⟩
  requests := some requests
  requestsLen := requests.length
  outVtable := true

theorem DagMlDataBytesView.readableViews_ofText {texts : List String}
    (hcount : texts.length * 16 ≤ isizeMax)
    (htexts : ∀ text ∈ texts, (bytes text).length ≤ isizeMax) :
    Pointer.ReadableViews (some (texts.map DagMlDataBytesView.ofText)) texts.length := by
  refine ⟨?_, ?_⟩
  · rintro _ ⟨⟩
    exact ⟨(List.length_map _).ge, hcount⟩
  · rintro _ ⟨⟩ view hview
    obtain ⟨text, htext, rfl⟩ := List.mem_map.mp (List.mem_of_mem_take hview)
    exact DagMlDataBytesView.readable_ofText (htexts text htext)

theorem servingReply_readable : servingReply.Readable := by
  have hcolumn : DagMlDataF64ColumnView.Readable
      ⟨some [F64.ofInt 1, F64.ofInt 2], 2, none, 0⟩ := by
    refine ⟨?_, nofun⟩
    rintro _ ⟨⟩
    exact ⟨le_rfl, by decide⟩
  refine ⟨⟨DagMlDataBytesView.readable_ofText (by decide),
    DagMlDataBytesView.readable_ofText (by decide),
    @DagMlDataBytesView.readableViews_ofText ["a"] (by decide) (by decide),
    @DagMlDataBytesView.readableViews_ofText ["o1", "o2"] (by decide) (by decide),
    ?_, ?_⟩, ?_⟩
  · rintro _ ⟨⟩
    exact ⟨le_rfl, by decide⟩
  · rintro _ ⟨⟩ column hmem
    rw [show column = _ from List.mem_singleton.mp hmem]
    exact hcolumn
  · rintro _ ⟨⟩
    decide

theorem refusingReply_readable : refusingReply.Readable := by
  refine ⟨⟨nofun, nofun, ⟨nofun, nofun⟩, ⟨nofun, nofun⟩, nofun, nofun⟩, ?_⟩
  rintro readable h
  cases h
  decide

theorem hostArguments_readable {reply : FetchReply} {requests : List DagMlDataBufferFetchRequest}
    (h : requests.length * 32 ≤ isizeMax) : (hostArguments reply requests).Readable := by
  refine ⟨?_, nofun, ?_⟩
  · rintro readable ⟨⟩
    refine ⟨le_rfl, ?_⟩
    show (bytes sharedEnvelopeText).length * 1 ≤ isizeMax
    decide +kernel
  · rintro readable ⟨⟩
    exact ⟨le_rfl, h⟩

/-- A host that serves a matrix has its error text freed, is destroyed, and there is a provider of
the matrix. A host that refuses is not asked again. -/
theorem hosts_lifecycle :
    letI := sharedDigests
    letI := steadyMachine
    letI := sharedConstructorReader
    let served := newWithBufferFetcher (hostArguments servingReply [oneRequest]) []
    let refused := newWithBufferFetcher (hostArguments refusingReply [oneRequest, oneRequest]) []
    (served.2 = [.fetched oneRequest servingReply, .freed servingReply.error, .destroyed] ∧
      ∃ state replies matrices featureStore, served.1 = .ok state ∧
        served.2 = fetchLog [oneRequest] replies ++ [.destroyed] ∧
        List.Forall₂ Served ([oneRequest].zipIdx.zip replies) matrices ∧
        NumericFeatureBufferStore.fromF64ColumnMatrices matrices = .ok featureStore ∧
        ∃ envelope, state.provider.BuiltFrom envelope featureStore ⟨∅⟩) ∧
      ¬ Panics refused.1 ∧ refused.2 =
        [.fetched oneRequest refusingReply, .freed refusingReply.error, .destroyed] := by
  let _ := sharedDigests
  let _ := steadyMachine
  let _ := sharedConstructorReader
  intro served refused
  have hbuilt : served.1.isOk = true := by decide +kernel
  obtain ⟨state, hstate⟩ := exists_ok hbuilt
  obtain ⟨-, replies, hlog, -, -, -, hok⟩ := bufferFetcher_lifecycle
    (hostArguments servingReply [oneRequest]) (hostArguments_readable (by decide))
    (by rintro _ ⟨⟩ _ _; exact servingReply_readable)
  obtain ⟨plan, matrices, featureStore, -, -, hserved, hstore, -, hfrom⟩ :=
    (hok state).mp hstate
  obtain ⟨hpanics, -⟩ := bufferFetcher_lifecycle
    (hostArguments refusingReply [oneRequest, oneRequest]) (hostArguments_readable (by decide))
    (by rintro _ ⟨⟩ _ _; exact refusingReply_readable)
  exact ⟨⟨by decide +kernel, state, replies, matrices, featureStore, hstate, hlog, hserved,
    hstore,
    _, hfrom⟩, hpanics, by decide +kernel⟩

end DagMlData
