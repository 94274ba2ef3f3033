import DagMlData.Binding
import DagMlData.FeatureValues
import DagMlData.ViewValidity

/-!
# The in-memory provider

`InMemoryProvider` keeps the handle arena and the two binding arenas behind one lock, so each call
is one step on all three (`ProviderArenas.step`). The handle arena steps as it does alone
(`step_handles`).
-/

namespace DagMlData

open Guard RustText

structure ProviderArenas where
  handles : CoordinatorHandleArena
  features : NumericFeatureBufferArena
  ndTensors : NdTensorArena

/-- The provider without its target tables, which no modelled call reads. -/
structure InMemoryProvider where
  arenas : ProviderArenas
  envelope : CoordinatorDataPlanEnvelope

/-- `default_owner_controller`. -/
def defaultOwnerController : String := "controller:data.provider"

/-- `new_with_tensors`. -/
def InMemoryProvider.newWithTensors [ThirdParty] (envelope : CoordinatorDataPlanEnvelope)
    (featureStore : NumericFeatureBufferStore) (ndTensorStore : NdTensorStore) :
    Result InMemoryProvider := do
  envelope.validate
  let handles ← CoordinatorHandleArena.new defaultOwnerController
  pure {
    arenas :=
      { handles := handles
        features := NumericFeatureBufferArena.new featureStore
        ndTensors := NdTensorArena.new ndTensorStore }
    envelope := envelope }

inductive ProviderCall
  | materialize (request : CoordinatorDataMaterializationRequest)
  | makeView (dataHandle : Nat) (view : DataView)
  | release (handle : Nat)

namespace ProviderArenas

variable [ThirdParty] (arenas : ProviderArenas)

/-- Binds a new data handle in both arenas. What was bound before an error stays. -/
def bind (record : CoordinatorDataHandleRecord) (relations : CoordinatorRelationSet) :
    Result Unit × ProviderArenas :=
  match arenas.features.bindDataHandle NumericFeatureBuffer.bindable record.handle.handle relations
      record.outputRepresentation with
  | .error e => (.error e, arenas)
  | .ok features =>
    let arenas := { arenas with features := features }
    match arenas.ndTensors.bindDataHandle NdTensor.bindable record.handle.handle relations
        record.outputRepresentation with
    | .error e => (.error e, arenas)
    | .ok ndTensors => (.ok (), { arenas with ndTensors := ndTensors })

/-- `materialize`. -/
def materialize (envelope : CoordinatorDataPlanEnvelope)
    (request : CoordinatorDataMaterializationRequest) :
    Result CoordinatorDataHandleRecord × ProviderArenas :=
  let (record, handles) := (CoordinatorHandleArena.materialize envelope request).exec arenas.handles
  let arenas := { arenas with handles := handles }
  match record with
  | .error e => (.error e, arenas)
  | .ok record =>
    match (handles.dataIdentity record.handle.handle).toOption with
    | none => (.ok record, arenas)
    | some relations =>
      match arenas.bind record relations with
      | (.error e, arenas) => (.error e, arenas)
      | (.ok (), arenas) => (.ok record, arenas)

/-- `make_view`. -/
def makeView (dataHandle : Nat) (view : DataView) :
    Result CoordinatorDataViewRecord × ProviderArenas :=
  let (record, handles) := (CoordinatorHandleArena.makeView dataHandle view).exec arenas.handles
  (record, { arenas with handles := handles })

omit [ThirdParty] in
/-- `release`. -/
def release (handle : Nat) : Bool × ProviderArenas :=
  let (releasedHandle, handles) := CoordinatorHandleArena.releaseHandle handle arenas.handles
  let (releasedBuffers, features) := arenas.features.releaseDataHandle handle
  let (releasedTensors, ndTensors) := arenas.ndTensors.releaseDataHandle handle
  (releasedHandle || releasedBuffers || releasedTensors, ⟨handles, features, ndTensors⟩)

/-- The reply to a call, and the arenas after it. -/
def step (envelope : CoordinatorDataPlanEnvelope) (arenas : ProviderArenas) :
    ProviderCall → ArenaReply × ProviderArenas
  | .materialize request =>
    let (record, arenas) := arenas.materialize envelope request
    (.materialized record, arenas)
  | .makeView dataHandle view =>
    let (record, arenas) := arenas.makeView dataHandle view
    (.viewed record, arenas)
  | .release handle =>
    let (done, arenas) := arenas.release handle
    (.released done, arenas)

/-! ## Reading -/

/-- The view, its parent and its relations. -/
def viewScope (viewHandle : Nat) : Result
    (CoordinatorDataViewRecord × CoordinatorDataHandleRecord × CoordinatorRelationSet) := do
  let viewRecord ← require arenas.handles.viewRecords[viewHandle]?
    (.unknownHandle "view" viewHandle)
  let parentRecord ← require arenas.handles.records[viewRecord.parentHandle.handle]?
    (.unknownHandle "data" viewRecord.parentHandle.handle)
  let relations ← arenas.handles.viewIdentity viewHandle
  pure (viewRecord, parentRecord, relations)

/-- `feature_block_filtered`. -/
def featureBlockFiltered (viewHandle : Nat) (featureSetId : String) (sourceId : Option SourceId)
    (columns : Option (List String)) : Result CoordinatorFeatureBlock := do
  let (viewRecord, parentRecord, relations) ← arenas.viewScope viewHandle
  let selected := if sourceId.isSome then columns else columns.or viewRecord.view.columns
  arenas.features.projectBoundRelations parentRecord.handle.handle featureSetId relations sourceId
    selected

/-- `feature_block`. -/
def featureBlock (viewHandle : Nat) (featureSetId : String) : Result CoordinatorFeatureBlock :=
  arenas.featureBlockFiltered viewHandle featureSetId none none

/-- `nd_tensor_block`. -/
def ndTensorBlock (viewHandle : Nat) (tensorId : String) (sourceId : Option SourceId) :
    Result NdTensorBlock := do
  let (_, parentRecord, relations) ← arenas.viewScope viewHandle
  arenas.ndTensors.projectBoundRelations parentRecord.handle.handle tensorId relations sourceId

end ProviderArenas

/-! ## The handle arena of the provider -/

/-- The call that the handle arena gets. -/
def ProviderCall.onHandles (envelope : CoordinatorDataPlanEnvelope) : ProviderCall → ArenaCall
  | .materialize request => .materialize envelope request
  | .makeView dataHandle view => .makeView dataHandle view
  | .release handle => .release handle

namespace ProviderArenas

variable [ThirdParty] (arenas : ProviderArenas)

theorem handles_bind (record : CoordinatorDataHandleRecord) (relations : CoordinatorRelationSet) :
    (arenas.bind record relations).2.handles = arenas.handles := by
  unfold bind
  split
  · rfl
  · simp only
    split
    · rfl
    · rfl

/-- The handle arena of the provider steps as it does alone. -/
theorem step_handles (envelope : CoordinatorDataPlanEnvelope) (call : ProviderCall) :
    (arenas.step envelope call).2.handles =
      (arenas.handles.step (call.onHandles envelope)).2 := by
  cases call with
  | materialize request =>
    simp only [step, materialize, ProviderCall.onHandles, CoordinatorHandleArena.step]
    split
    · rfl
    · split
      · rfl
      · split
        · next h => rw [← show _ = _ from congrArg (·.2.handles) h, handles_bind]
        · next h => rw [← show _ = _ from congrArg (·.2.handles) h, handles_bind]
  | makeView dataHandle view => rfl
  | release handle => rfl

end ProviderArenas

/-! ## A provider with an external test -/

def nirSource : SourceId := .lit "nir" rfl

def nirRecord (observationId : ObservationId) (sampleId : SampleId) : CoordinatorRelation :=
  { CoordinatorRelation.new observationId sampleId with sourceId := some nirSource }

def sharedTraining : CoordinatorRelationSet where
  records :=
    [nirRecord (.lit "o1" rfl) (.lit "s1" rfl),
      nirRecord (.lit "o2" rfl) (.lit "s2" rfl)]

/-- An external test with samples of its own, one of which records an observation that the
training relations record, too. -/
def sharedCohort : PredictCohort :=
  { testCohort with
    physicalSampleIds := [.lit "s8" rfl, .lit "s9" rfl]
    originSampleIds := [.lit "s8" rfl, .lit "s9" rfl]
    relationFingerprint := "3437ce36dd1f22a4a13c3110c58de9b04a8aa4a919db3a24a68e9f8a67db3d2d"
    relations :=
      ⟨[nirRecord (.lit "o9" rfl) (.lit "s9" rfl),
        nirRecord (.lit "o1" rfl) (.lit "s8" rfl)]⟩
    cohortFingerprint := "2a18caefeb7bccba02cbf14070d54716ebe1d961aa3a4efcc112d799d938d74d" }

def sharedEnvelope : CoordinatorDataPlanEnvelope :=
  { testEnvelope with
    coordinatorRelations := some sharedTraining
    predictCohort := some sharedCohort }

/-- SHA-256 on the three texts that validating the envelope digests. -/
@[reducible] def sharedDigests : ThirdParty :=
  .ofTable
    [(@Json.compact (.ofTable []) nirPlan.toJson, sharedEnvelope.planFingerprint),
      (@Json.compact (.ofTable []) (CoordinatorRelationSet.canonicalJson
        [("o1", nirRecord (.lit "o1" rfl) (.lit "s8" rfl)),
          ("o9", nirRecord (.lit "o9" rfl) (.lit "s9" rfl))]),
        sharedCohort.relationFingerprint),
      (@Json.compact (.ofTable []) sharedCohort.toJson, sharedCohort.cohortFingerprint)]

/-- A request for the external test beside the training data. -/
def cohortRequest : CoordinatorDataMaterializationRequest :=
  { CoordinatorHandleArena.trainingRequest with predictCohort := some sharedCohort }

/-- One feature of the observations. -/
def oneColumn (featureSetId : String) (observationIds : List ObservationId) (cells : List F64) :
    NumericFeatureBuffer where
  featureSetId := featureSetId
  representationId := .lit "tabular" rfl
  featureNames := ["a"]
  observationIds := observationIds
  columns := [cells.map some]
  rowIndexByObservation := rowIndex observationIds

/-- A buffer with every observation, and one without an observation of the training relations. -/
def sharedFeatureStore : NumericFeatureBufferStore where
  buffers := BTreeMap.collect
    [("all", oneColumn "all" [.lit "o1" rfl, .lit "o2" rfl, .lit "o9" rfl]
        [F64.ofInt 1, F64.ofInt 2, F64.ofInt 9]),
      ("test", oneColumn "test" [.lit "o1" rfl, .lit "o9" rfl]
        [F64.ofInt 1, F64.ofInt 9])]

def sharedTensorInput : NdTensorInput where
  tensorId := "image"
  representationId := .lit "tabular" rfl
  container := "dense"
  dtype := .u8
  shape := [3, 1]
  observationIds := [.lit "o1" rfl, .lit "o2" rfl, .lit "o9" rfl]
  sampleIds := none
  data := [1, 2, 9]
  rowPresence := none

def sharedTensorStore : NdTensorStore :=
  (NdTensorStore.fromInputs [sharedTensorInput]).toOption.getD ⟨∅⟩

def sharedProvider : InMemoryProvider where
  arenas :=
    { handles := ⟨defaultOwnerController, 1, ∅, ∅, ∅, ∅⟩
      features := NumericFeatureBufferArena.new sharedFeatureStore
      ndTensors := NdTensorArena.new sharedTensorStore }
  envelope := sharedEnvelope

theorem sharedEnvelope_valid :
    @CoordinatorDataPlanEnvelope.validate sharedDigests sharedEnvelope = .ok () := by
  decide +kernel

end DagMlData
