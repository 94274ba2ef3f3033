import DagMlData.BufferFetcher
import DagMlData.TypedProvider
import DagMlData.Lib.Decimal

/-!
# The JSON facade of the provider

`JsonInMemoryProvider` takes and returns texts: JSON, and handles as decimal numbers. The readers
and writers that `serde` derives are parameters.

* `fromJson`, `fromJsonWithF64Values`: the constructors.
* `facadeCall`: the calls. `facade_refines`: over a run, the facade is the typed provider.
* `facade_handles`: which texts the facade hands out for handles, and which texts it takes for one
  of them.
-/

namespace DagMlData

open Guard RustText

/-- `F64FeatureMatrixMeta`. -/
structure F64FeatureMatrixMeta where
  featureSetId : String
  representationId : RepresentationId
  featureNames : List String
  observationIds : List ObservationId

/-- The readers that are derived for the arguments. Each yields a value or the message of the
refusal. -/
class FacadeReader where
  envelope : String → Except String CoordinatorDataPlanEnvelope
  targetTables : String → Except String (List CoordinatorTargetTable)
  featureTables : String → Except String (List CoordinatorFeatureTable)
  f64Matrices : String → Except String (List NumericFeatureMatrixF64)
  matrixMeta : String → Except String F64FeatureMatrixMeta
  materializationRequest : String → Except String CoordinatorDataMaterializationRequest
  dataView : String → Except String DataView
  collationRequest : String → Except String ProviderFeatureCollationRequest

/-- The writers that are derived for the results. -/
class FacadeWriter where
  relations : CoordinatorRelationSet → String
  targetBlock : CoordinatorTargetBlock → String
  featureBlock : CoordinatorFeatureBlock → String
  tensor : NumericTensorBlock → String
  manifests : List NumericFeatureBufferManifest → String
  bindings : List NumericFeatureBufferBinding → String

abbrev FacadeResult (α : Type) : Type := Except CoreError α

/-- A result of the core. -/
def ofCore {α : Type} (r : Result α) : FacadeResult α := r.mapError .data

theorem ofCore_eq_ok {α : Type} {r : Result α} {a : α} : ofCore r = .ok a ↔ r = .ok a := by
  cases r <;> simp [ofCore, Except.mapError]

/-- `map_err(DataError::Serialization)`. -/
def ofReader {α : Type} (r : Except String α) : FacadeResult α := r.mapError .serialization

/-! ## Constructors -/

/-- `str::trim`. -/
def trim (s : String) : String :=
  String.ofList ((s.toList.dropWhile isWhitespace).rdropWhile isWhitespace)

/-- `parse_json_array`. -/
def parseJsonArray {α : Type} (reader : String → Except String (List α))
    (json : Option String) :
    FacadeResult (List α) :=
  -- A blank text is no text.
  match (json.map trim).filter fun value => value != "" with
  | some json => ofReader (reader json)
  | none => pure []

namespace NumericFeatureBufferStore

/-- The loop body of `from_feature_tables` and of `from_f64_matrices`. -/
def addBuffer (kind featureSetId : String) (made : Result NumericFeatureBuffer)
    (buffers : BTreeMap String NumericFeatureBuffer) :
    Result (BTreeMap String NumericFeatureBuffer) := do
  let buffer ← made
  rejectIf (buffers.contains featureSetId) (.validation s!"duplicate {kind} `{featureSetId}`")
  pure (buffers.insert featureSetId buffer)

/-- `from_feature_tables`. -/
def fromFeatureTables (tables : List CoordinatorFeatureTable) :
    Result NumericFeatureBufferStore := do
  let buffers ← tables.foldlM (fun buffers table => addBuffer "feature table" table.featureSetId
    (NumericFeatureBuffer.fromFeatureTable table) buffers) ∅
  new buffers

/-- `from_f64_matrices`. -/
def fromF64Matrices (matrices : List NumericFeatureMatrixF64) :
    Result NumericFeatureBufferStore := do
  let buffers ← matrices.foldlM (fun buffers matrix => addBuffer "f64 feature matrix"
    matrix.featureSetId (NumericFeatureBuffer.fromF64Matrix matrix) buffers) ∅
  new buffers

end NumericFeatureBufferStore

/-- `JsonInMemoryProvider`. -/
structure JsonInMemoryProvider where
  state : InMemoryProviderState

namespace JsonInMemoryProvider

variable [ThirdParty] [FacadeReader]

/-- `parse_target_tables`. -/
def parseTargetTables (json : Option String) :
    FacadeResult (BTreeMap TargetId CoordinatorTargetTable) := do
  let tables ← parseJsonArray FacadeReader.targetTables json
  ofCore (tables.foldlM addTargetTable ∅)

/-- The store of the parsed tables or matrices. -/
def chooseFeatureStore (featureTables : List CoordinatorFeatureTable)
    (f64Matrices : List NumericFeatureMatrixF64) : Result NumericFeatureBufferStore :=
  -- An array without entries does not count as given.
  match featureTables.isEmpty, f64Matrices.isEmpty with
  | false, false => .error (.validation
      "pass at most one of feature_tables or f64_feature_matrices")
  | false, true => NumericFeatureBufferStore.fromFeatureTables featureTables
  | true, false => NumericFeatureBufferStore.fromF64Matrices f64Matrices
  | true, true => .ok ⟨∅⟩

/-- `parse_feature_store`. -/
def parseFeatureStore (featureTablesJson f64MatricesJson : Option String) :
    FacadeResult NumericFeatureBufferStore := do
  let featureTables ← parseJsonArray FacadeReader.featureTables featureTablesJson
  let f64Matrices ← parseJsonArray FacadeReader.f64Matrices f64MatricesJson
  ofCore (chooseFeatureStore featureTables f64Matrices)

/-- `from_json`. -/
def fromJson (envelopeJson : String) (targetTablesJson featureTablesJson f64MatricesJson :
    Option String) : FacadeResult JsonInMemoryProvider := do
  let envelope ← ofReader (FacadeReader.envelope envelopeJson)
  let targetTables ← parseTargetTables targetTablesJson
  let featureStore ← parseFeatureStore featureTablesJson f64MatricesJson
  let state ← ofCore (InMemoryProviderState.new envelope targetTables featureStore)
  pure ⟨state⟩

/-- `from_json_with_f64_values`. -/
def fromJsonWithF64Values (envelopeJson : String) (targetTablesJson : Option String)
    (matrixMetaJson : String) (values : List F64) : FacadeResult JsonInMemoryProvider := do
  let envelope ← ofReader (FacadeReader.envelope envelopeJson)
  let targetTables ← parseTargetTables targetTablesJson
  let described ← ofReader (FacadeReader.matrixMeta matrixMetaJson)
  let matrix : NumericFeatureMatrixF64 :=
    { featureSetId := described.featureSetId
      representationId := described.representationId
      featureNames := described.featureNames
      observationIds := described.observationIds
      values := values
      validityMask := none }
  let featureStore ← ofCore (NumericFeatureBufferStore.fromF64Matrices [matrix])
  let state ← ofCore (InMemoryProviderState.new envelope targetTables featureStore)
  pure ⟨state⟩

end JsonInMemoryProvider

/-! ## Calls -/

/-- `parse_handle`. -/
def parseHandle (handle : String) : Result Nat :=
  require (Decimal.parse u64Size handle)
    (.validation s!"handle `{handle}` is not a u64 decimal string")

/-- A call with texts. A fusion reads each source under a lock of its own. `others` is what other
threads have called by then. -/
inductive FacadeCall
  | materialize (requestJson : String)
  | makeView (dataHandle viewJson : String)
  | viewIdentity (viewHandle : String)
  | targetBlock (viewHandle targetId : String)
  | featureBlock (viewHandle featureSetId : String)
  | featureBlockF64 (viewHandle featureSetId : String)
  | featureCollation (viewHandle selectorJson : String) (others : Nat → List ProviderCall)
  | featureBufferManifests
  | dataFeatureBufferBindings (dataHandle : String)
  | release (handle : String)

/-- What a call returns. The text of a handle is one of its own. -/
inductive FacadeReply
  | handle (result : FacadeResult String)
  | text (result : FacadeResult String)
  | values (result : FacadeResult (String × List F64))
  | released (result : FacadeResult Bool)

/-- The layout of a typed block, with its keys in the order of `serde_json`'s maps. -/
def CoordinatorFeatureBlockF64.layout (block : CoordinatorFeatureBlockF64) : Json :=
  .object
    [("feature_names", .array (block.featureNames.map .string)),
      ("feature_set_id", .string block.featureSetId),
      ("n_cols", .number (.int block.featureNames.length)),
      ("n_rows", .number (.int block.observationIds.length)),
      ("observation_ids", .array (block.observationIds.map fun o => .string o.value)),
      ("representation_id", .string block.representationId.value),
      ("sample_ids", .array (block.sampleIds.map fun s => .string s.value))]

section Calls
variable [ThirdParty] [FacadeReader] [FacadeWriter] [CollationAllocator] (setup : ProviderSetup)
  (arenas : ProviderArenas)

/-- The reply to a call, and the arenas after it. -/
def facadeCall : FacadeCall → FacadeReply × ProviderArenas
  | .materialize requestJson =>
    match FacadeReader.materializationRequest requestJson with
    | .error detail => (.handle (.error (.serialization detail)), arenas)
    | .ok request =>
      let (record, arenas) := arenas.materialize setup.envelope request
      (.handle (ofCore (record.map fun record => record.handle.handle.repr)), arenas)
  | .makeView dataHandle viewJson =>
    -- The view is read before the handle.
    match FacadeReader.dataView viewJson with
    | .error detail => (.handle (.error (.serialization detail)), arenas)
    | .ok view =>
      match parseHandle dataHandle with
      | .error e => (.handle (.error (.data e)), arenas)
      | .ok handle =>
        let (record, arenas) := arenas.makeView handle view
        (.handle (ofCore (record.map fun record => record.handle.handle.repr)), arenas)
  | .viewIdentity viewHandle =>
    (.text (ofCore do
      let handle ← parseHandle viewHandle
      let relations ← arenas.handles.viewIdentity handle
      pure (FacadeWriter.relations relations)), arenas)
  | .targetBlock viewHandle targetId =>
    (.text (ofCore do
      let targetId ← Ident.new .target targetId
      let handle ← parseHandle viewHandle
      let block ← setup.targetBlock arenas handle targetId
      pure (FacadeWriter.targetBlock block)), arenas)
  | .featureBlock viewHandle featureSetId =>
    (.text (ofCore do
      let handle ← parseHandle viewHandle
      let block ← arenas.featureBlock handle featureSetId
      pure (FacadeWriter.featureBlock block)), arenas)
  | .featureBlockF64 viewHandle featureSetId =>
    (.values (ofCore do
      let handle ← parseHandle viewHandle
      let block ← arenas.featureBlockF64 handle featureSetId
      pure (block.layout.compact, block.values)), arenas)
  | .featureCollation viewHandle selectorJson others =>
    (.text (do
      let selector ← ofReader (FacadeReader.collationRequest selectorJson)
      ofCore do
        let handle ← parseHandle viewHandle
        let block ← ProviderArenas.featureCollationBlock
          (fun place => arenas.run setup.envelope (others place)) handle selector
        let tensor ← collateFeatureBlock block selector.policy
        pure (FacadeWriter.tensor tensor)), arenas)
  | .featureBufferManifests =>
    (.text (ofCore do
      let manifests ← arenas.featureBufferManifests
      pure (FacadeWriter.manifests manifests)), arenas)
  | .dataFeatureBufferBindings dataHandle =>
    (.text (ofCore do
      let handle ← parseHandle dataHandle
      let bindings ← arenas.dataFeatureBufferBindings handle
      pure (FacadeWriter.bindings bindings)), arenas)
  | .release handle =>
    match parseHandle handle with
    | .error e => (.released (.error (.data e)), arenas)
    | .ok handle =>
      let (done, arenas) := arenas.release handle
      (.released (.ok done), arenas)

end Calls

/-! ## The typed provider -/

/-- The call of the provider that a call with texts makes. -/
def FacadeCall.typed [FacadeReader] : FacadeCall → Option TypedCall
  | .materialize requestJson =>
    (FacadeReader.materializationRequest requestJson).toOption.map fun request =>
      .arena (.materialize request)
  | .makeView dataHandle viewJson => do
    let view ← (FacadeReader.dataView viewJson).toOption
    let handle ← (parseHandle dataHandle).toOption
    some (.arena (.makeView handle view))
  | .viewIdentity viewHandle => (parseHandle viewHandle).toOption.map .viewIdentity
  | .targetBlock viewHandle targetId => do
    let targetId ← (Ident.new .target targetId).toOption
    let handle ← (parseHandle viewHandle).toOption
    some (.targetBlock handle targetId)
  | .featureBlock viewHandle featureSetId =>
    (parseHandle viewHandle).toOption.map fun handle => .featureBlock handle featureSetId
  | .featureBlockF64 viewHandle featureSetId =>
    (parseHandle viewHandle).toOption.map fun handle => .featureBlockF64 handle featureSetId
  | .featureCollation viewHandle selectorJson others => do
    let selector ← (FacadeReader.collationRequest selectorJson).toOption
    let handle ← (parseHandle viewHandle).toOption
    some (.featureCollationBlock handle selector others)
  | .featureBufferManifests => some .featureBufferManifests
  | .dataFeatureBufferBindings dataHandle =>
    (parseHandle dataHandle).toOption.map .dataFeatureBufferBindings
  | .release handle => (parseHandle handle).toOption.map fun handle => .arena (.release handle)

/-- A reply of the provider as the facade returns it. What `feature_collation_block` returns is
collated by the policy of the call. -/
def facadeWire [ThirdParty] [FacadeWriter]
    [CollationAllocator] : TypedCall → TypedReply → FacadeReply
  | _, .arena (.materialized record) =>
    .handle (ofCore (record.map fun record => record.handle.handle.repr))
  | _, .arena (.viewed record) =>
    .handle (ofCore (record.map fun record => record.handle.handle.repr))
  | _, .arena (.released done) => .released (.ok done)
  | _, .relations result => .text (ofCore (result.map FacadeWriter.relations))
  | _, .target result => .text (ofCore (result.map FacadeWriter.targetBlock))
  | .featureCollationBlock _ selector _, .features result =>
    .text (ofCore do
      let block ← result
      (collateFeatureBlock block selector.policy).map FacadeWriter.tensor)
  | _, .features result => .text (ofCore (result.map FacadeWriter.featureBlock))
  | _, .featuresF64 result =>
    .values (ofCore (result.map fun block => (block.layout.compact, block.values)))
  | _, .manifests result => .text (ofCore (result.map FacadeWriter.manifests))
  | _, .bindings result => .text (ofCore (result.map FacadeWriter.bindings))

/-- The text that a call hands out for a handle. -/
def FacadeReply.handedOut : FacadeReply → Option String
  | .handle result => result.toOption
  | _ => none

/-- The call is refused. -/
def FacadeReply.Refused : FacadeReply → Prop
  | .handle result => ∃ e, result = .error e
  | .text result => ∃ e, result = .error e
  | .values result => ∃ e, result = .error e
  | .released result => ∃ e, result = .error e

theorem FacadeReply.Refused.handedOut {reply : FacadeReply} (h : reply.Refused) :
    reply.handedOut = none := by
  cases reply with
  | handle result =>
    obtain ⟨e, rfl⟩ := h
    rfl
  | text | values | released => rfl

section Refinement
variable [ThirdParty] [FacadeReader] [FacadeWriter] [CollationAllocator] (setup : ProviderSetup)

omit [FacadeReader] in
theorem handedOut_facadeWire (call : TypedCall) (reply : TypedReply) :
    (facadeWire call reply).handedOut = reply.minted.map Nat.repr := by
  cases reply with
  | arena reply => rcases reply with (_ | _) | (_ | _) | _ <;> rfl
  | relations | target | featuresF64 | manifests | bindings => rfl
  | features => cases call <;> rfl

/-- A call does nothing that the typed provider sees and is refused, or it is one call of it. -/
theorem facadeCall_typed (arenas : ProviderArenas) (call : FacadeCall) :
    (call.typed = none ∧ (facadeCall setup arenas call).2 = arenas ∧
        (facadeCall setup arenas call).1.Refused) ∨
      ∃ typed, call.typed = some typed ∧
        (facadeCall setup arenas call).2 = (providerCall setup arenas typed).2 ∧
        (facadeCall setup arenas call).1 =
          facadeWire typed (providerCall setup arenas typed).1 := by
  cases call with
  | materialize requestJson =>
    simp only [FacadeCall.typed, facadeCall]
    cases FacadeReader.materializationRequest requestJson with
    | error detail => exact .inl ⟨rfl, rfl, _, rfl⟩
    | ok request => exact .inr ⟨.arena (.materialize request), rfl, rfl, rfl⟩
  | makeView dataHandle viewJson =>
    simp only [FacadeCall.typed, facadeCall]
    cases FacadeReader.dataView viewJson with
    | error detail => exact .inl ⟨rfl, rfl, _, rfl⟩
    | ok view =>
      cases parseHandle dataHandle with
      | error e => exact .inl ⟨rfl, rfl, _, rfl⟩
      | ok handle => exact .inr ⟨.arena (.makeView handle view), rfl, rfl, rfl⟩
  | viewIdentity viewHandle =>
    simp only [FacadeCall.typed, facadeCall]
    cases parseHandle viewHandle with
    | error e => exact .inl ⟨rfl, trivial, _, rfl⟩
    | ok handle => exact .inr ⟨.viewIdentity handle, rfl, rfl, rfl⟩
  | targetBlock viewHandle targetId =>
    simp only [FacadeCall.typed, facadeCall]
    cases Ident.new .target targetId with
    | error e => exact .inl ⟨rfl, trivial, _, rfl⟩
    | ok targetId =>
      cases parseHandle viewHandle with
      | error e => exact .inl ⟨rfl, trivial, _, rfl⟩
      | ok handle => exact .inr ⟨.targetBlock handle targetId, rfl, rfl, rfl⟩
  | featureBlock viewHandle featureSetId =>
    simp only [FacadeCall.typed, facadeCall]
    cases parseHandle viewHandle with
    | error e => exact .inl ⟨rfl, trivial, _, rfl⟩
    | ok handle => exact .inr ⟨.featureBlock handle featureSetId, rfl, rfl, rfl⟩
  | featureBlockF64 viewHandle featureSetId =>
    simp only [FacadeCall.typed, facadeCall]
    cases parseHandle viewHandle with
    | error e => exact .inl ⟨rfl, trivial, _, rfl⟩
    | ok handle => exact .inr ⟨.featureBlockF64 handle featureSetId, rfl, rfl, rfl⟩
  | featureCollation viewHandle selectorJson others =>
    simp only [FacadeCall.typed, facadeCall]
    cases FacadeReader.collationRequest selectorJson with
    | error detail => exact .inl ⟨rfl, trivial, _, rfl⟩
    | ok selector =>
      cases parseHandle viewHandle with
      | error e => exact .inl ⟨rfl, trivial, _, rfl⟩
      | ok handle => exact .inr ⟨.featureCollationBlock handle selector others, rfl, rfl, rfl⟩
  | featureBufferManifests => exact .inr ⟨.featureBufferManifests, rfl, rfl, rfl⟩
  | dataFeatureBufferBindings dataHandle =>
    simp only [FacadeCall.typed, facadeCall]
    cases parseHandle dataHandle with
    | error e => exact .inl ⟨rfl, trivial, _, rfl⟩
    | ok handle => exact .inr ⟨.dataFeatureBufferBindings handle, rfl, rfl, rfl⟩
  | release handle =>
    simp only [FacadeCall.typed, facadeCall]
    cases parseHandle handle with
    | error e => exact .inl ⟨rfl, rfl, _, rfl⟩
    | ok handle => exact .inr ⟨.arena (.release handle), rfl, rfl, rfl⟩

theorem facadeCall_refines :
    Machine.Refines (facadeCall setup) (providerCall setup)
      (fun arenas arenas' => arenas = arenas') FacadeCall.typed
      (fun call reply => some (facadeWire call reply)) where
  skipped := by
    rintro arenas _ call rfl hnone
    rcases facadeCall_typed setup arenas call with ⟨-, harenas, -⟩ | ⟨typed, hsome, -⟩
    · exact harenas
    · cases hnone.symm.trans hsome
  translated := by
    rintro arenas _ call typed rfl hsome
    rcases facadeCall_typed setup arenas call with ⟨hnone, -⟩ | ⟨typed',
      hsome', harenas, hreply⟩
    · cases hnone.symm.trans hsome
    · obtain rfl := Option.some.inj (hsome.symm.trans hsome')
      exact ⟨harenas, congrArg some hreply⟩

theorem facadeCall_refused (arenas : ProviderArenas) (call : FacadeCall) (h : call.typed = none) :
    (facadeCall setup arenas call).1.Refused := by
  rcases facadeCall_typed setup arenas call with ⟨-, -, hrefused⟩ | ⟨typed, hsome, -⟩
  · exact hrefused
  · cases h.symm.trans hsome

/-- The facade is the typed provider: the calls whose texts are read are calls of it, in their
order, with its replies as texts. The other calls are refused and change nothing. -/
theorem facade_refines (arenas : ProviderArenas) (calls : List FacadeCall) :
    let typed := calls.filterMap FacadeCall.typed
    Machine.run (facadeCall setup) arenas calls = Machine.run (providerCall setup) arenas typed ∧
      Machine.translatedReplies (facadeCall setup) FacadeCall.typed arenas calls =
        (Machine.log (providerCall setup) arenas typed).map
          (fun entry => facadeWire entry.1 entry.2) ∧
      ∀ entry ∈ Machine.log (facadeCall setup) arenas calls,
        entry.1.typed = none → entry.2.Refused := by
  intro typed
  obtain ⟨hrun, hreplies⟩ := (facadeCall_refines setup).run (s := arenas) rfl calls
  refine ⟨hrun, ?_, ?_⟩
  · refine List.map_injective_iff.mpr (Option.some_injective _) ?_
    rw [hreplies, List.map_map]
    rfl
  · rintro ⟨call, reply⟩ hmem hnone
    obtain ⟨pre, post, -, rfl⟩ := Machine.mem_log _ hmem
    exact facadeCall_refused setup _ call hnone

end Refinement

/-! ## The texts of handles -/

/-- The texts that are read as a handle. -/
theorem parseHandle_eq_ok {text : String} {handle : Nat} :
    parseHandle text = .ok handle ↔ handle < u64Size ∧
      ∃ k, text.toList = List.replicate k '0' ++ handle.repr.toList ∨
        text.toList = '+' :: (List.replicate k '0' ++ handle.repr.toList) := by
  rw [parseHandle, require_eq_ok, Decimal.parse_eq_some_iff_zeros (by decide)]

/-- A text that is printed for a handle is read as that handle. -/
theorem parseHandle_repr {handle : Nat} (h : handle < u64Size) :
    parseHandle handle.repr = .ok handle := by
  rw [parseHandle, require_eq_ok, Decimal.parse_repr h]

namespace JsonInMemoryProvider

theorem chooseFeatureStore_new {featureTables : List CoordinatorFeatureTable}
    {f64Matrices : List NumericFeatureMatrixF64} {featureStore : NumericFeatureBufferStore}
    (h : chooseFeatureStore featureTables f64Matrices = .ok featureStore) :
    ∃ buffers, NumericFeatureBufferStore.new buffers = .ok featureStore := by
  unfold chooseFeatureStore at h
  split at h
  · cases h
  · obtain ⟨buffers, -, hnew⟩ := bind_eq_ok.mp h
    exact ⟨buffers, hnew⟩
  · obtain ⟨buffers, -, hnew⟩ := bind_eq_ok.mp h
    exact ⟨buffers, hnew⟩
  · cases h
    exact ⟨∅, rfl⟩

variable [ThirdParty] [FacadeReader] {provider : JsonInMemoryProvider}

/-- A facade as one of its constructors builds it. -/
inductive Built : JsonInMemoryProvider → Prop
  | fromJson {provider : JsonInMemoryProvider} {envelopeJson : String}
      {targetTablesJson featureTablesJson f64MatricesJson : Option String} :
      JsonInMemoryProvider.fromJson envelopeJson targetTablesJson featureTablesJson
        f64MatricesJson = .ok provider → Built provider
  | fromJsonWithF64Values {provider : JsonInMemoryProvider} {envelopeJson : String}
      {targetTablesJson : Option String} {matrixMetaJson : String} {values : List F64} :
      JsonInMemoryProvider.fromJsonWithF64Values envelopeJson targetTablesJson matrixMetaJson
        values = .ok provider → Built provider

/-- The part of the provider that does not change. -/
def setup (provider : JsonInMemoryProvider) : ProviderSetup :=
  ⟨provider.state.provider.envelope, provider.state.targetTables⟩

/-- The provider behind the facade is one that its constructor built from a store. -/
theorem Built.builtFrom (h : Built provider) : ∃ envelope featureStore,
    provider.state.provider.BuiltFrom envelope featureStore ⟨∅⟩ := by
  cases h with
  | fromJson h =>
    simp only [JsonInMemoryProvider.fromJson, parseFeatureStore, bind_eq_ok, ofCore_eq_ok,
      pure_eq_ok] at h
    obtain ⟨envelope, -, targetTables, -, featureStore, ⟨_, -, _, -, hchoose⟩, state, hstate,
      rfl⟩ := h
    obtain ⟨buffers, hnew⟩ := chooseFeatureStore_new hchoose
    exact ⟨envelope, featureStore, InMemoryProviderState.builtFrom hnew hstate⟩
  | fromJsonWithF64Values h =>
    simp only [JsonInMemoryProvider.fromJsonWithF64Values, bind_eq_ok, ofCore_eq_ok,
      pure_eq_ok] at h
    obtain ⟨envelope, -, targetTables, -, described, -, featureStore, hmatrices, state, hstate,
      rfl⟩ := h
    obtain ⟨buffers, -, hnew⟩ := bind_eq_ok.mp hmatrices
    exact ⟨envelope, featureStore, InMemoryProviderState.builtFrom hnew hstate⟩

end JsonInMemoryProvider

section Handles
variable [ThirdParty] [FacadeReader] [FacadeWriter] [CollationAllocator]

/-- The texts that a facade hands out are those of 1, 2 and so on, in the order of the calls. It
reads each of them back, and takes another text for the same handle exactly when that puts zeros
before it, or a plus sign and zeros. -/
theorem facade_handles {provider : JsonInMemoryProvider} (hbuilt : provider.Built)
    (calls : List FacadeCall)
    (hsize : (provider.state.provider.arenas.mintedHandles provider.state.provider.envelope
      ((calls.filterMap FacadeCall.typed).filterMap TypedCall.arenaCall)).length < 2 ^ 64 - 1) :
    let handedOut := (Machine.replies (facadeCall provider.setup) provider.state.provider.arenas
      calls).filterMap FacadeReply.handedOut
    handedOut = (List.range' 1 handedOut.length).map Nat.repr ∧ handedOut.Nodup ∧
      ∀ text ∈ handedOut, (∃ handle, parseHandle text = .ok handle ∧ text = handle.repr) ∧
        ∀ other, parseHandle other = parseHandle text ↔
          ∃ k, other.toList = List.replicate k '0' ++ text.toList ∨
            other.toList = '+' :: (List.replicate k '0' ++ text.toList) := by
  intro handedOut
  obtain ⟨envelope, featureStore, hfrom⟩ := hbuilt.builtFrom
  obtain ⟨hfresh, -, -, -, -⟩ := hfrom.fresh
  have hskipped : ∀ (arenas : ProviderArenas) (call : FacadeCall), call.typed = none →
      (facadeCall provider.setup arenas call).1.handedOut = none :=
    fun arenas call hnone => (facadeCall_refused provider.setup arenas call hnone).handedOut
  have hwire : ∀ (call : TypedCall) (reply : TypedReply) (reply' : FacadeReply),
      some (facadeWire call reply) = some reply' →
        reply'.handedOut = reply.minted.map Nat.repr := by
    rintro call reply _ ⟨⟩
    exact handedOut_facadeWire call reply
  obtain ⟨hrange, hlength⟩ : handedOut = (List.range' 1 handedOut.length).map Nat.repr ∧
      handedOut.length = (provider.state.provider.arenas.mintedHandles
        provider.state.provider.envelope
          ((calls.filterMap FacadeCall.typed).filterMap TypedCall.arenaCall)).length :=
    hfresh.handedOut (facadeCall_refines provider.setup) hskipped hwire rfl hsize
  -- The handles are those of a run that does not exhaust the counter, so a `u64` holds them.
  have hsmall : ∀ handle ∈ List.range' 1 handedOut.length, handle < u64Size := by
    intro handle hhandle
    rw [List.mem_range'_1] at hhandle
    rw [u64Size]
    omega
  refine ⟨hrange, ?_, fun text htext => ?_⟩
  · rw [hrange]
    refine List.Nodup.map_on (fun a ha b hb heq => ?_) List.nodup_range'
    have hread := parseHandle_repr (hsmall a ha)
    rw [heq, parseHandle_repr (hsmall b hb)] at hread
    exact (Except.ok.inj hread).symm
  · rw [hrange, List.mem_map] at htext
    obtain ⟨handle, hhandle, rfl⟩ := htext
    have hlt := hsmall handle hhandle
    refine ⟨⟨handle, parseHandle_repr hlt, rfl⟩, fun other => ?_⟩
    rw [parseHandle_repr hlt, parseHandle_eq_ok]
    exact and_iff_right hlt

end Handles

/-- Readers that know one envelope, one request and one view. -/
@[reducible] def sharedFacadeReader : FacadeReader where
  envelope json :=
    if json = sharedEnvelopeText then .ok sharedEnvelope
    else .error "expected value at line 1 column 1"
  targetTables _ := .error "expected value at line 1 column 1"
  featureTables _ := .error "expected value at line 1 column 1"
  f64Matrices _ := .error "expected value at line 1 column 1"
  matrixMeta _ := .error "expected value at line 1 column 1"
  materializationRequest json :=
    if json = trainingRequestText then .ok CoordinatorHandleArena.trainingRequest
    else .error "expected value at line 1 column 1"
  dataView json :=
    if json = plainViewText then .ok CoordinatorHandleArena.plainView
    else .error "expected value at line 1 column 1"
  collationRequest _ := .error "expected value at line 1 column 1"

@[reducible] def silentWriter : FacadeWriter where
  relations _ := ""
  targetBlock _ := ""
  featureBlock _ := ""
  tensor _ := ""
  manifests _ := ""
  bindings _ := ""

/-- A facade without features. -/
def sharedFacade : JsonInMemoryProvider where
  state :=
    { provider :=
        { arenas :=
            { handles := ⟨defaultOwnerController, 1, ∅, ∅, ∅, ∅⟩
              features := NumericFeatureBufferArena.new ⟨∅⟩
              ndTensors := NdTensorArena.new ⟨∅⟩ }
          envelope := sharedEnvelope }
      targetTables := ∅ }

theorem sharedFacade_built :
    @JsonInMemoryProvider.Built sharedDigests sharedFacadeReader sharedFacade := by
  let _ := sharedDigests
  let _ := sharedFacadeReader
  have hstate : InMemoryProviderState.new sharedEnvelope ∅ ⟨∅⟩ =
    .ok sharedFacade.state := by
    unfold InMemoryProviderState.new InMemoryProvider.newWithTensors
    rw [sharedEnvelope_valid]
    rfl
  have henvelope : FacadeReader.envelope sharedEnvelopeText = .ok sharedEnvelope := if_pos rfl
  have hbuild : JsonInMemoryProvider.fromJson sharedEnvelopeText none none none =
      .ok sharedFacade :=
    bind_eq_ok.mpr ⟨sharedEnvelope, congrArg ofReader henvelope, bind_eq_ok.mpr ⟨∅, rfl,
      bind_eq_ok.mpr ⟨⟨∅⟩, rfl, bind_eq_ok.mpr
        ⟨sharedFacade.state, ofCore_eq_ok.mpr hstate, rfl⟩⟩⟩⟩
  exact .fromJson hbuild

/-- A data handle, a view of it, and the release of the data handle by another spelling. -/
def sharedFacadeCalls : List FacadeCall :=
  [.materialize trainingRequestText, .makeView "1" plainViewText, .release "+01"]

theorem sharedFacade_handles :
    letI := sharedDigests
    letI := sharedFacadeReader
    letI := silentWriter
    letI := roomyAllocator
    let handedOut := (Machine.replies (facadeCall sharedFacade.setup)
      sharedFacade.state.provider.arenas sharedFacadeCalls).filterMap FacadeReply.handedOut
    handedOut = (List.range' 1 handedOut.length).map Nat.repr ∧ handedOut.Nodup ∧
      ∀ text ∈ handedOut, ∃ handle, parseHandle text = .ok handle ∧ text = handle.repr := by
  let _ := sharedDigests
  let _ := sharedFacadeReader
  let _ := silentWriter
  let _ := roomyAllocator
  obtain ⟨hrange, hnodup, hread⟩ := facade_handles sharedFacade_built sharedFacadeCalls
    (length_mintedHandles_lt (by decide))
  exact ⟨hrange, hnodup, fun text htext => (hread text htext).1⟩

end DagMlData
