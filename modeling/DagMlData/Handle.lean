import DagMlData.Envelope
import DagMlData.Lib.Machine

/-!
# The handle arena

`CoordinatorHandleArena` keeps data handles and the views that are made from them, with the
relations of each. Its operations are state computations in the order of the source, so that an
operation that fails leaves behind what it has written before it failed.

The arena as a machine that answers calls is `CoordinatorHandleArena.step`.
-/

namespace DagMlData

open Guard RustText

structure DataView where
  sampleIds : Option (List SampleId)
  partition : Option String
  foldId : Option String
  sourceIds : Option (List SourceId)
  columns : Option (List String)
  includeAugmented : Bool
  includeExcluded : Bool
  branchView : Option CoordinatorBranchView

inductive CoordinatorHandleKind
  | data
  | view
deriving DecidableEq, Repr

structure CoordinatorHandleRef where
  handle : Nat
  kind : CoordinatorHandleKind
  ownerController : String
deriving DecidableEq, Repr

structure CoordinatorDataMaterializationRequest where
  runId : String
  nodeId : String
  inputName : String
  phase : String
  variantId : Option String
  foldId : Option String
  requestId : String
  schemaFingerprint : String
  planFingerprint : String
  relationFingerprint : Option String
  outputRepresentation : RepresentationId
  sourceIds : List SourceId
  requireRelations : Bool
  predictCohort : Option PredictCohort

structure CoordinatorDataHandleRecord where
  handle : CoordinatorHandleRef
  runId : String
  nodeId : String
  inputName : String
  phase : String
  variantId : Option String
  foldId : Option String
  requestId : String
  schemaFingerprint : String
  planFingerprint : String
  relationFingerprint : Option String
  planId : String
  outputRepresentation : RepresentationId
  sourceIds : List SourceId
  sampleCount : Option Nat
  relationRecordCount : Option Nat

structure CoordinatorDataViewRecord where
  handle : CoordinatorHandleRef
  parentHandle : CoordinatorHandleRef
  view : DataView
  sampleCount : Nat
  relationRecordCount : Nat

structure CoordinatorHandleArena where
  ownerController : String
  nextHandle : Nat
  records : BTreeMap Nat CoordinatorDataHandleRecord
  dataRelations : BTreeMap Nat CoordinatorRelationSet
  viewRecords : BTreeMap Nat CoordinatorDataViewRecord
  viewRelations : BTreeMap Nat CoordinatorRelationSet

/-! ## Requests -/

namespace CoordinatorDataMaterializationRequest

variable (request : CoordinatorDataMaterializationRequest)

/-- How the errors name the request. -/
def label : String := s!"materialization request `{request.inputName}` on `{request.nodeId}`"

def validate : Result Unit := do
  validateNonEmpty "run_id" request.runId
  validateNonEmpty "node_id" request.nodeId
  validateNonEmpty "input_name" request.inputName
  validateNonEmpty "phase" request.phase
  validateNonEmpty "request_id" request.requestId
  validateFingerprint "schema" request.schemaFingerprint
  validateFingerprint "plan" request.planFingerprint
  match request.relationFingerprint with
  | some relationFingerprint => validateFingerprint "relation" relationFingerprint
  | none =>
    rejectIf request.requireRelations
      (.validation s!"{request.label} requires relations but has no relation_fingerprint")
  rejectIf (hasRepeats request.sourceIds)
    (.validation s!"{request.label} contains duplicate source ids")

/-- The phase is one of those that read the predict cohort of the envelope. -/
def isPrediction : Bool :=
  eqIgnoreAsciiCase request.phase "predict" || eqIgnoreAsciiCase request.phase "explain"

/-- The phase is one of those that may read an external test beside the training data. -/
def isCompanion : Bool :=
  eqIgnoreAsciiCase request.phase "fit_cv" || eqIgnoreAsciiCase request.phase "refit"

end CoordinatorDataMaterializationRequest

section Materialization

variable [ThirdParty] (envelope : CoordinatorDataPlanEnvelope)
  (request : CoordinatorDataMaterializationRequest)

/-- `materialization_relations`. -/
def materializationRelations : Result (Option CoordinatorRelationSet) :=
  match request.predictCohort with
  | some cohort => do
    cohort.validate
    let authority ← require (envelope.predictCohort.filter (· == cohort))
      (.validation "request predict_cohort does not match envelope authority")
    rejectIf (!(request.isPrediction || (request.isCompanion && cohort.role == .externalTest)))
      (.validation "request phase cannot read this predict cohort")
    pure (some authority.relations)
  | none =>
    match request.isPrediction, envelope.predictCohort with
    | true, some cohort => pure (some cohort.relations)
    | _, _ => pure envelope.coordinatorRelations

/-- `validate_request_against_envelope`. -/
def validateRequestAgainstEnvelope : Result Unit := do
  rejectIf (request.schemaFingerprint != envelope.schemaFingerprint)
    (.fingerprintMismatch "schema" envelope.schemaFingerprint request.schemaFingerprint)
  rejectIf (request.planFingerprint != envelope.planFingerprint)
    (.fingerprintMismatch "plan" envelope.planFingerprint request.planFingerprint)
  rejectIf (request.relationFingerprint != envelope.relationFingerprint)
    (.fingerprintMismatch "relation" (envelope.relationFingerprint.getD "<none>")
      (request.relationFingerprint.getD "<none>"))
  if request.requireRelations then do
    let relations ← materializationRelations envelope request
    rejectIf relations.isNone (.validation s!"{request.label} requires coordinator relations")
  else pure ()
  rejectIf (request.outputRepresentation != envelope.plan.outputRepresentation)
    (.validation (s!"{request.label} output representation `{request.outputRepresentation}` " ++
      s!"does not match plan output `{envelope.plan.outputRepresentation}`"))
  let planSources := BTreeSet.collect (envelope.plan.steps.filterMap (·.sourceId))
  forM request.sourceIds fun sourceId =>
    rejectIf (!planSources.contains sourceId)
      (.validation (s!"{request.label} source `{sourceId}` is not present in data plan " ++
        s!"`{envelope.plan.id}`"))

omit [ThirdParty] in
/-- `scoped_relations_for_materialization`. -/
def scopedRelationsForMaterialization (relations : CoordinatorRelationSet) :
    Result CoordinatorRelationSet := do
  relations.validate
  if request.sourceIds.isEmpty then pure relations
  else do
    let sourceFilter := BTreeSet.collect request.sourceIds
    let selected := relations.records.filter fun r => r.sourceId.any (sourceFilter.contains ·)
    rejectIf selected.isEmpty
      (.validation (s!"{request.label} selected no coordinator relations for requested " ++
        "source ids"))
    CoordinatorRelationSet.validate ⟨selected⟩
    pure ⟨selected⟩

/-- What `materialize` checks and computes before it takes a handle. -/
def materializationScope : Result (Option CoordinatorRelationSet) := do
  envelope.validate
  request.validate
  validateRequestAgainstEnvelope envelope request
  match ← materializationRelations envelope request with
  | some relations => some <$> scopedRelationsForMaterialization request relations
  | none => pure none

end Materialization

/-- `unique_sample_count`. -/
def uniqueSampleCount (records : List CoordinatorRelation) : Nat :=
  (BTreeSet.collect (records.map (·.sampleId))).size

/-! ## Views -/

/-- `validate_view`. -/
def validateView [ThirdParty] (view : DataView) : Result Unit := do
  forM [("partition", view.partition), ("fold_id", view.foldId)] fun entry =>
    whenSome entry.2 (validateNonEmpty entry.1)
  whenSome view.sampleIds fun samples =>
    rejectIf (hasRepeats samples) (.validation "data view contains duplicate sample ids")
  whenSome view.sourceIds fun sources =>
    rejectIf (hasRepeats sources) (.validation "data view contains duplicate source ids")
  whenSome view.columns fun columns => do
    rejectIf (hasRepeats columns) (.validation "data view contains duplicate columns")
    rejectIf (columns.any isBlank) (.validation "data view contains an empty column")
  whenSome view.branchView CoordinatorBranchView.validate

/-- The view asks for all records of its handle. -/
def DataView.wholeHandle (view : DataView) : Bool :=
  view.partition == some "full_train" || view.partition == some "predict"

/-- The labels that stand for the partition and the fold of the view. -/
def viewLabels (view : DataView) (parent : CoordinatorDataHandleRecord) :
    List (String × String) :=
  let partition := if view.wholeHandle then none else view.partition
  let fold := view.foldId.filter fun fold => !view.wholeHandle || parent.foldId != some fold
  (partition.map fun p => ("partition", p)).toList ++ (fold.map fun f => ("fold_id", f)).toList

/-- `resolved_view_labels`: the metadata labels that a record of the view must have. -/
def resolvedViewLabels (view : DataView) (parent : CoordinatorDataHandleRecord) :
    Result (List (String × String)) :=
  if view.sampleIds.isSome then pure []
  else do
    rejectIf (view.partition == some "predict" && !eqIgnoreAsciiCase parent.phase "predict")
      (.validation ("partition=predict requires a PREDICT materialized handle or explicit " ++
        "sample_ids"))
    pure (viewLabels view parent)

/-- The record has the labels, as strings in its metadata. -/
def CoordinatorRelation.hasLabels (labels : List (String × String)) (r : CoordinatorRelation) :
    Bool :=
  labels.all fun l => (r.metadata[l.1]?.bind Json.asStr) == some l.2

/-- The filters that a branch view adds, at most one of them. -/
structure BranchFilters where
  sources : Option (List SourceId)
  metadata : Option (BTreeMap String Json)
  tags : Option (List String)
  native : Option NativeBranchViewFilter

/-- The selection of the filter by the mode of the branch view. -/
def branchFilters [ThirdParty] (branchView : Option CoordinatorBranchView) :
    Result BranchFilters :=
  match branchView with
  | none => pure ⟨none, none, none, none⟩
  | some branchView =>
    match branchView.mode with
    | .bySource => pure ⟨some branchView.selector.sourceIds, none, none, none⟩
    | .byMetadata => pure ⟨none, some branchView.selector.metadata, none, none⟩
    | .byTag => pure ⟨none, none, some branchView.selector.tags, none⟩
    | .separation => pure ⟨none, none, none, none⟩
    | .byFilter => do
      let filter ← require branchView.selector.filter
        (.validation s!"{branchView.label} mode=by_filter requires filter")
      let native ← parseNativeBranchViewFilter filter branchView.label
      pure ⟨none, none, none, some native⟩

namespace CoordinatorRelation

variable (r : CoordinatorRelation)

/-- The record has one of the sources. -/
def hasSourceIn (sources : List SourceId) : Bool :=
  r.sourceId.any ((BTreeSet.collect sources).contains ·)

/-- The metadata of the record has every key of the selector, with an equal value. -/
def hasMetadata (selector : BTreeMap String Json) : Bool :=
  selector.toList.all fun entry => r.metadata[entry.1]?.any (· == entry.2)

/-- The record has every one of the tags. -/
def hasTags (tags : List String) : Bool := tags.all (r.tags.contains ·)

end CoordinatorRelation

/-- A filter that is not there lets every record through. -/
def passes {α : Type} (filter : Option α) (test : α → Bool) : Bool :=
  match filter with
  | some a => test a
  | none => true

/-- The place of a record in the order of a view: the place of its sample in the requested
samples, then its own. -/
def viewOrderKey (order : BTreeMap SampleId Nat) (entry : CoordinatorRelation × Nat) :
    Nat × Nat :=
  (order.getD entry.1.sampleId (u64Size - 1), entry.2)

/-- The order of the pairs of `usize` keys. -/
def keyLe (a b : Nat × Nat) : Bool := a.1 < b.1 || (a.1 == b.1 && a.2 ≤ b.2)

/-- `filter_relations`. -/
def filterRelations [ThirdParty] (relations : List CoordinatorRelation) (view : DataView) :
    Result (List CoordinatorRelation) := do
  let branch ← branchFilters view.branchView
  let filtered := relations.zipIdx
    |>.filter (fun e => passes view.sampleIds fun s => (BTreeSet.collect s).contains e.1.sampleId)
    |>.filter (fun e => passes view.sourceIds e.1.hasSourceIn)
    |>.filter (fun e => passes branch.sources e.1.hasSourceIn)
    |>.filter (fun e => passes branch.metadata e.1.hasMetadata)
    |>.filter (fun e => passes branch.tags e.1.hasTags)
    |>.filter (fun e => passes branch.native fun f =>
      e.1.hasMetadata f.metadataEquals && e.1.hasTags f.tagsAll)
    |>.filter (fun e => view.includeAugmented || !e.1.isAugmented)
    |>.filter (fun e => view.includeExcluded || !e.1.excluded)
  rejectIf filtered.isEmpty (.validation "data view selected no coordinator relations")
  match view.sampleIds with
  | some sampleIds =>
    let order := BTreeMap.collect sampleIds.zipIdx
    let sorted := filtered.insertionSort fun a b =>
      keyLe (viewOrderKey order a) (viewOrderKey order b)
    pure (sorted.map Prod.fst)
  | none => pure (filtered.map Prod.fst)

/-- The records of a view of the parent. -/
def viewSelection [ThirdParty] (view : DataView) (parent : CoordinatorDataHandleRecord)
    (relations : CoordinatorRelationSet) : Result (List CoordinatorRelation) := do
  let labels ← resolvedViewLabels view parent
  filterRelations (relations.records.filter (·.hasLabels labels)) view

/-! ## The arena -/

/-- A computation that reads and writes the arena and may fail in between. -/
abbrev ArenaM := ExceptT DataError (StateM CoordinatorHandleArena)

/-- A check that does not look at the arena. -/
def ofResult {α : Type} (r : Result α) : ArenaM α := ExceptT.mk (pure r)

/-- The result of the computation in the arena, and the arena after it. -/
def ArenaM.exec {α : Type} (m : ArenaM α) (arena : CoordinatorHandleArena) :
    Result α × CoordinatorHandleArena :=
  m.run.run arena

namespace CoordinatorHandleArena

/-- `CoordinatorHandleArena::new`. -/
def new (ownerController : String) : Result CoordinatorHandleArena := do
  validateNonEmpty "owner_controller" ownerController
  pure ⟨ownerController, 1, ∅, ∅, ∅, ∅⟩

/-- The arena after the next handle is taken. The `u64` counter wraps. -/
def advance (arena : CoordinatorHandleArena) : CoordinatorHandleArena :=
  { arena with nextHandle := (arena.nextHandle + 1) % u64Size }

/-- `next_handle`. -/
def takeHandle : ArenaM Nat := do
  let arena ← get
  set arena.advance
  pure arena.nextHandle

/-- The record of a new data handle. -/
def dataRecord (envelope : CoordinatorDataPlanEnvelope)
    (request : CoordinatorDataMaterializationRequest) (scope : Option CoordinatorRelationSet)
    (handle : CoordinatorHandleRef) : CoordinatorDataHandleRecord where
  handle := handle
  runId := request.runId
  nodeId := request.nodeId
  inputName := request.inputName
  phase := request.phase
  variantId := request.variantId
  foldId := request.foldId
  requestId := request.requestId
  schemaFingerprint := request.schemaFingerprint
  planFingerprint := request.planFingerprint
  relationFingerprint := request.relationFingerprint
  planId := envelope.plan.id
  outputRepresentation := request.outputRepresentation
  sourceIds := request.sourceIds
  sampleCount := scope.map fun relations => uniqueSampleCount relations.records
  relationRecordCount := scope.map fun relations => relations.records.length

/-- Writes the record and the relations of a data handle. -/
def insertData (arena : CoordinatorHandleArena) (record : CoordinatorDataHandleRecord)
    (scope : Option CoordinatorRelationSet) : CoordinatorHandleArena :=
  { arena with
    records := arena.records.insert record.handle.handle record
    dataRelations := match scope with
      | some relations => arena.dataRelations.insert record.handle.handle relations
      | none => arena.dataRelations }

/-- Writes the record and the relations of a view. -/
def insertView (arena : CoordinatorHandleArena) (record : CoordinatorDataViewRecord)
    (relations : CoordinatorRelationSet) : CoordinatorHandleArena :=
  { arena with
    viewRecords := arena.viewRecords.insert record.handle.handle record
    viewRelations := arena.viewRelations.insert record.handle.handle relations }

def materialize [ThirdParty] (envelope : CoordinatorDataPlanEnvelope)
    (request : CoordinatorDataMaterializationRequest) : ArenaM CoordinatorDataHandleRecord := do
  let scope ← ofResult (materializationScope envelope request)
  let handle ← takeHandle
  let owner := (← get).ownerController
  let record := dataRecord envelope request scope ⟨handle, .data, owner⟩
  modify fun arena => arena.insertData record scope
  pure record

def makeView [ThirdParty] (dataHandle : Nat) (view : DataView) :
    ArenaM CoordinatorDataViewRecord := do
  ofResult (validateView view)
  let parent ← ofResult (require (← get).records[dataHandle]?
    (.unknownHandle "data" dataHandle))
  let relations ← ofResult (require (← get).dataRelations[dataHandle]?
    (.validation s!"data handle `{dataHandle}` has no coordinator relations"))
  let filtered ← ofResult (viewSelection view parent relations)
  let handle ← takeHandle
  let owner := (← get).ownerController
  let record : CoordinatorDataViewRecord :=
    { handle := ⟨handle, .view, owner⟩
      parentHandle := parent.handle
      view := view
      sampleCount := uniqueSampleCount filtered
      relationRecordCount := filtered.length }
  modify fun arena => arena.insertView record ⟨filtered⟩
  pure record

/-- Removes the view and its relations. -/
def eraseView (arena : CoordinatorHandleArena) (handle : Nat) : CoordinatorHandleArena :=
  { arena with
    viewRecords := arena.viewRecords.erase handle
    viewRelations := arena.viewRelations.erase handle }

/-- Removes the data handle and its relations. -/
def eraseData (arena : CoordinatorHandleArena) (handle : Nat) : CoordinatorHandleArena :=
  { arena with
    records := arena.records.erase handle
    dataRelations := arena.dataRelations.erase handle }

/-- The views whose parent is the handle. -/
def childViews (arena : CoordinatorHandleArena) (parent : CoordinatorHandleRef) : List Nat :=
  arena.viewRecords.toList.filterMap fun entry =>
    if entry.2.parentHandle = parent then some entry.1 else none

/-- `release_handle`. -/
def releaseHandle (handle : Nat) (arena : CoordinatorHandleArena) :
    Bool × CoordinatorHandleArena :=
  if arena.viewRecords.contains handle then (true, arena.eraseView handle)
  else
    match arena.records[handle]? with
    | some record =>
      let arena := arena.eraseData handle
      (true, (arena.childViews record.handle).foldl eraseView arena)
    | none => (false, arena)

/-- `view_identity`. -/
def viewIdentity (arena : CoordinatorHandleArena) (handle : Nat) : Result CoordinatorRelationSet :=
  require arena.viewRelations[handle]? (.unknownHandle "view" handle)

/-- `data_identity`. -/
def dataIdentity (arena : CoordinatorHandleArena) (handle : Nat) :
    Result CoordinatorRelationSet := do
  rejectIf (!arena.records.contains handle) (.unknownHandle "data" handle)
  require arena.dataRelations[handle]?
    (.validation s!"data handle `{handle}` has no coordinator relations")

end CoordinatorHandleArena

/-! ## Running -/

namespace CoordinatorHandleArena

variable {α β : Type} (arena : CoordinatorHandleArena)

theorem exec_ofResult_bind (r : Result α) (f : α → ArenaM β) :
    ArenaM.exec (ofResult r >>= f) arena =
      match r with
      | .error e => (.error e, arena)
      | .ok a => (f a).exec arena := by
  cases r <;> rfl

theorem exec_get_bind (f : CoordinatorHandleArena → ArenaM β) :
    ArenaM.exec (get >>= f) arena = (f arena).exec arena := rfl

theorem exec_takeHandle_bind (f : Nat → ArenaM β) :
    ArenaM.exec (takeHandle >>= f) arena = (f arena.nextHandle).exec arena.advance := rfl

theorem exec_modify_bind (g : CoordinatorHandleArena → CoordinatorHandleArena)
    (f : Unit → ArenaM β) : ArenaM.exec (modify g >>= f) arena = (f ()).exec (g arena) := rfl

theorem exec_pure (a : α) : ArenaM.exec (pure a) arena = (.ok a, arena) := rfl

end CoordinatorHandleArena

/-! ## The arena as a machine -/

inductive ArenaCall
  | materialize (envelope : CoordinatorDataPlanEnvelope)
    (request : CoordinatorDataMaterializationRequest)
  | makeView (dataHandle : Nat) (view : DataView)
  | release (handle : Nat)

inductive ArenaReply
  | materialized (record : Result CoordinatorDataHandleRecord)
  | viewed (record : Result CoordinatorDataViewRecord)
  | released (done : Bool)

namespace CoordinatorHandleArena

/-- The reply to a call, and the arena after it. -/
def step [ThirdParty] (arena : CoordinatorHandleArena) :
    ArenaCall → ArenaReply × CoordinatorHandleArena
  | .materialize envelope request =>
    let (record, arena) := (materialize envelope request).exec arena
    (.materialized record, arena)
  | .makeView dataHandle view =>
    let (record, arena) := (makeView dataHandle view).exec arena
    (.viewed record, arena)
  | .release handle =>
    let (done, arena) := releaseHandle handle arena
    (.released done, arena)

end CoordinatorHandleArena

end DagMlData
