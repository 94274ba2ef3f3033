import DagMlData.ProviderFusion
import DagMlData.ProviderProjections

/-!
# Fusion among the calls of other clients

`feature_fusion_block` takes the lock once for each source, so that other clients' calls come in
between. `fusion_reads_at_once`: while the handle counter does not wrap, a block that it returns is
the block of each instant at which it has read a source, and the view, its parent and its relations
are the same at all of them (`ProviderArenas.Consistent.stays_read`).
-/

namespace DagMlData

open Guard RustText CoordinatorHandleArena

namespace BindingArena

variable {ι β : Type} {kind : Bindable ι β} {arena arena' : BindingArena ι β}
  {handles handles' : CoordinatorHandleArena}

/-- A data handle with the same record and relations in both has the same bindings. -/
theorem Bound.same (h : Bound kind arena handles) (h' : Bound kind arena' handles')
    (hitems : arena'.items = arena.items) {k : Nat} {record : CoordinatorDataHandleRecord}
    (hrecord : handles.records[k]? = some record) (hrecord' : handles'.records[k]? = some record)
    (hrelations : handles'.dataRelations[k]? = handles.dataRelations[k]?) :
    arena'.dataBindings[k]? = arena.dataBindings[k]? := by
  cases hdata : handles.dataRelations[k]? with
  | none =>
    have hnot : k ∉ arena.dataBindings := by
      rw [h.keys, Std.ExtTreeMap.mem_iff_isSome_getElem?, hdata]
      exact Bool.false_ne_true
    have hnot' : k ∉ arena'.dataBindings := by
      rw [h'.keys, Std.ExtTreeMap.mem_iff_isSome_getElem?, hrelations, hdata]
      exact Bool.false_ne_true
    rw [Std.ExtTreeMap.getElem?_eq_none hnot, Std.ExtTreeMap.getElem?_eq_none hnot']
  | some relations =>
    obtain ⟨bindings, hbindings, hget⟩ := h.bindings k record relations hrecord hdata
    obtain ⟨bindings', hbindings', hget'⟩ :=
      h'.bindings k record relations hrecord' (hrelations.trans hdata)
    rw [bindingsForRelations, hitems] at hbindings'
    cases hbindings.symm.trans hbindings'
    rw [hget, hget']

theorem validateBoundSources_congr {dataHandle : Nat}
    (h : arena'.dataBindings[dataHandle]? = arena.dataBindings[dataHandle]?) (id : String)
    (relations : CoordinatorRelationSet) (sourceId : Option SourceId) :
    arena'.validateBoundSources kind dataHandle id relations sourceId =
      arena.validateBoundSources kind dataHandle id relations sourceId := by
  unfold validateBoundSources binding?
  rw [h]

end BindingArena

section Interleaving

variable [ThirdParty]

namespace ProviderArenas

variable {arenas : ProviderArenas} {envelope : CoordinatorDataPlanEnvelope}

/-- The calls before the read of a place. Between the read of the place before it and its own, the
other clients make the calls `turns place`. -/
def callsBefore (turns : Nat → List ProviderCall) (place : Nat) : List ProviderCall :=
  (List.range (place + 1)).flatMap turns

omit [ThirdParty] in
theorem exists_callsBefore (turns : Nat → List ProviderCall) {i j : Nat} (hij : i ≤ j) :
    ∃ calls, callsBefore turns j = callsBefore turns i ++ calls := by
  obtain ⟨n, rfl⟩ := Nat.exists_eq_add_of_le hij
  refine ⟨((List.range n).map (i + 1 + ·)).flatMap turns, ?_⟩
  unfold callsBefore
  rw [← List.flatMap_append, ← List.range_add, show i + n + 1 = i + 1 + n by omega]

/-- A view that is live at both ends of a run reads the same relations of the same parent, which has
the same bindings. -/
theorem Consistent.stays_read (h : arenas.Consistent) {calls : List ProviderCall}
    (hsize : arenas.handles.nextHandle + (arenas.mintedHandles envelope calls).length < u64Size)
    {viewHandle : Nat} {view : CoordinatorDataViewRecord} {parent : CoordinatorDataHandleRecord}
    {relations : CoordinatorRelationSet}
    (hread : arenas.viewScope viewHandle = .ok (view, parent, relations))
    (hlive : viewHandle ∈ (arenas.run envelope calls).handles.viewRecords) :
    (arenas.run envelope calls).viewScope viewHandle = .ok (view, parent, relations) ∧
      (arenas.run envelope calls).features.items = arenas.features.items ∧
      (arenas.run envelope calls).features.dataBindings[parent.handle.handle]? =
        arenas.features.dataBindings[parent.handle.handle]? := by
  obtain ⟨hview, hparent, hrelations⟩ := viewScope_eq_ok.mp hread
  obtain ⟨hafter, hitems, -⟩ := h.run hsize
  have hkeeps := h.wellFormed.run_keeps_records hsize
  rw [← run_handles] at hkeeps
  obtain ⟨hsameView, hsameRelations⟩ :=
    hkeeps.2 viewHandle (BTreeMap.mem_iff_exists_getElem?.mpr ⟨_, hview⟩) hlive
  rw [hview] at hsameView
  rw [hrelations] at hsameRelations
  -- The parent of a live view is live.
  obtain ⟨parent', _, hparent', -⟩ :=
    (hafter.wellFormed.view_record _ _ _ hsameView hsameRelations).parent
  obtain ⟨hsameParent, hsameData⟩ := hkeeps.1 view.parentHandle.handle
    (BTreeMap.mem_iff_exists_getElem?.mpr ⟨_, hparent⟩)
    (BTreeMap.mem_iff_exists_getElem?.mpr ⟨_, hparent'⟩)
  rw [hparent] at hsameParent
  have hhandle : parent.handle.handle = view.parentHandle.handle := by
    rw [(h.wellFormed.data_record _ parent hparent).handle]
  refine ⟨viewScope_eq_ok.mpr ⟨hsameView, hsameParent, hsameRelations⟩, hitems, ?_⟩
  rw [hhandle]
  exact h.features.same hafter.features hitems hparent hsameParent hsameData

/-- When a source is read, and what the block is. -/
theorem fusionSource_eq_ok {viewHandle : Nat}
    {source : ProviderFeatureFusionSource} {block : SourceFeatureBlock} :
    arenas.fusionSource viewHandle source = .ok block ↔
      ∃ view parent relations, arenas.viewScope viewHandle = .ok (view, parent, relations) ∧
        arenas.features.validateBoundSources NumericFeatureBuffer.bindable parent.handle.handle
          source.featureSetId relations (some source.sourceId) = .ok () ∧
        ∃ buffer, arenas.features.items[source.featureSetId]? = some buffer ∧
          buffer.projectRelations relations (some source.sourceId) source.columns =
            .ok block.block ∧ block.sourceId = source.sourceId := by
  simp only [fusionSource, featureBlockFiltered, NumericFeatureBufferArena.projectBoundRelations,
    bind_eq_ok, exists_unit, require_eq_ok, pure_eq_ok]
  constructor
  · rintro ⟨_, ⟨⟨view, parent, relations⟩, hread, hbound, buffer,
      hbuffer, hblock⟩, rfl⟩
    exact ⟨view, parent, relations, hread, hbound, buffer, hbuffer, hblock, rfl⟩
  · rintro ⟨view, parent, relations, hread, hbound, buffer, hbuffer, hblock, hsource⟩
    refine ⟨_, ⟨(view, parent, relations), hread, hbound, buffer, hbuffer, hblock⟩, ?_⟩
    rw [← hsource]

/-- What a source reads, once its view is read. -/
theorem fusionSource_of_read {viewHandle : Nat} {view : CoordinatorDataViewRecord}
    {parent : CoordinatorDataHandleRecord} {relations : CoordinatorRelationSet}
    (hread : arenas.viewScope viewHandle = .ok (view, parent, relations))
    (source : ProviderFeatureFusionSource) :
    arenas.fusionSource viewHandle source =
      (arenas.features.projectBoundRelations parent.handle.handle source.featureSetId relations
        (some source.sourceId) source.columns).map (⟨source.sourceId, ·⟩) := by
  unfold fusionSource featureBlockFiltered
  rw [hread]
  rfl

/-- Two arenas that read the same scope of a view read the same block of a source. -/
theorem fusionSource_congr {arenas' : ProviderArenas} {viewHandle : Nat}
    {view : CoordinatorDataViewRecord} {parent : CoordinatorDataHandleRecord}
    {relations : CoordinatorRelationSet}
    (hread : arenas.viewScope viewHandle = .ok (view, parent, relations))
    (hread' : arenas'.viewScope viewHandle = .ok (view, parent, relations))
    (hitems : arenas'.features.items = arenas.features.items)
    (hbindings : arenas'.features.dataBindings[parent.handle.handle]? =
      arenas.features.dataBindings[parent.handle.handle]?)
    (source : ProviderFeatureFusionSource) :
    arenas'.fusionSource viewHandle source = arenas.fusionSource viewHandle source := by
  have hproject : arenas'.features.projectBoundRelations parent.handle.handle source.featureSetId
      relations (some source.sourceId) source.columns =
        arenas.features.projectBoundRelations parent.handle.handle source.featureSetId relations
          (some source.sourceId) source.columns := by
    unfold NumericFeatureBufferArena.projectBoundRelations
    rw [BindingArena.validateBoundSources_congr hbindings, hitems]
  rw [fusionSource_of_read hread, fusionSource_of_read hread', hproject]

/-- A view that is live at two places reads the same sources at both. -/
theorem Consistent.fusionSource_stays (h : arenas.Consistent) (turns : Nat → List ProviderCall)
    {i j : Nat} (hij : i ≤ j) (hsize : arenas.handles.nextHandle +
      (arenas.mintedHandles envelope (callsBefore turns j)).length < u64Size)
    {viewHandle : Nat} {view : CoordinatorDataViewRecord} {parent : CoordinatorDataHandleRecord}
    {relations : CoordinatorRelationSet}
    (hread : (arenas.run envelope (callsBefore turns i)).viewScope viewHandle =
      .ok (view, parent, relations))
    (hlive : viewHandle ∈ (arenas.run envelope (callsBefore turns j)).handles.viewRecords) :
    (arenas.run envelope (callsBefore turns j)).viewScope viewHandle =
        .ok (view, parent, relations) ∧
      ∀ source, (arenas.run envelope (callsBefore turns j)).fusionSource viewHandle source =
        (arenas.run envelope (callsBefore turns i)).fusionSource viewHandle source := by
  obtain ⟨calls, hcalls⟩ := exists_callsBefore turns hij
  rw [hcalls, mintedHandles, List.map_append] at hsize
  obtain ⟨hpre, hpost⟩ := room_after hsize
  have hrun : arenas.run envelope (callsBefore turns j) =
      (arenas.run envelope (callsBefore turns i)).run envelope calls := by
    rw [hcalls]
    exact Machine.run_append ..
  rw [hrun] at hlive ⊢
  rw [← run_handles] at hpost
  obtain ⟨hread', hitems, hbindings⟩ := (h.run hpre).1.stays_read hpost hread hlive
  exact ⟨hread', fusionSource_congr hread hread' hitems hbindings⟩

end ProviderArenas

variable {provider : InMemoryProvider} {envelope : CoordinatorDataPlanEnvelope}
  {featureStore : NumericFeatureBufferStore} {ndTensorStore : NdTensorStore}

/-- While the counter does not wrap, a fused block is the block of every instant at which a source
has been read, and all sources are read through one view of one data handle. -/
theorem fusion_reads_at_once (hbuilt : provider.BuiltFrom envelope featureStore ndTensorStore)
    (turns : Nat → List ProviderCall) (viewHandle : Nat)
    (selector : ProviderFeatureFusionSelector)
    (hsize : ∀ place < selector.sources.length,
      (provider.arenas.mintedHandles envelope
        (ProviderArenas.callsBefore turns place)).length < 2 ^ 64 - 1)
    {block : CoordinatorFeatureBlock}
    (h : ProviderArenas.featureFusionBlock
      (fun place => provider.arenas.run envelope (ProviderArenas.callsBefore turns place))
      viewHandle selector = .ok block) :
    selector.sources ≠ [] ∧ ∃ scope, ∀ place < selector.sources.length,
      let arenas := provider.arenas.run envelope (ProviderArenas.callsBefore turns place)
      arenas.viewScope viewHandle = .ok scope ∧
        ProviderArenas.featureFusionBlock (fun _ => arenas) viewHandle selector = .ok block := by
  obtain ⟨hfresh, -, -, rfl, -⟩ := hbuilt.fresh
  simp only [ProviderArenas.featureFusionBlock, bind_eq_ok, exists_unit, rejectIf_eq_ok,
    List.isEmpty_eq_false_iff] at h
  obtain ⟨hne, sources, hsources, hfused⟩ := h
  refine ⟨hne, ?_⟩
  -- The fusion is over, so each place has read the scope of the view.
  have hreads : ∀ place < selector.sources.length, ∃ view parent relations,
      (provider.arenas.run provider.envelope
        (ProviderArenas.callsBefore turns place)).viewScope viewHandle =
          .ok (view, parent, relations) := by
    intro place hplace
    have hmem : (selector.sources[place], place) ∈ selector.sources.zipIdx :=
      List.mem_zipIdx_iff_getElem?.mpr (List.getElem?_eq_getElem hplace)
    obtain ⟨_, _, hok⟩ := exists_right_of_forall₂ (mapM_eq_ok.mp hsources) hmem
    obtain ⟨view, parent, relations, hread, -⟩ := ProviderArenas.fusionSource_eq_ok.mp hok
    exact ⟨view, parent, relations, hread⟩
  have hroom : ∀ place < selector.sources.length, provider.arenas.handles.nextHandle +
      (provider.arenas.mintedHandles provider.envelope
        (ProviderArenas.callsBefore turns place)).length < u64Size := by
    intro place hplace
    have hplace' := hsize place hplace
    rw [hfresh.nextHandle, u64Size]
    omega
  have hfirst : 0 < selector.sources.length := List.length_pos_iff.mpr hne
  obtain ⟨view, parent, relations, hread⟩ := hreads 0 hfirst
  -- Every place reads what the first place reads.
  have hsame : ∀ place < selector.sources.length,
      (provider.arenas.run provider.envelope
        (ProviderArenas.callsBefore turns place)).viewScope viewHandle =
          .ok (view, parent, relations) ∧
      ∀ source, (provider.arenas.run provider.envelope
        (ProviderArenas.callsBefore turns place)).fusionSource viewHandle source =
          (provider.arenas.run provider.envelope
            (ProviderArenas.callsBefore turns 0)).fusionSource viewHandle source := by
    intro place hplace
    obtain ⟨view', parent', relations', hread'⟩ := hreads place hplace
    exact hfresh.consistent.fusionSource_stays turns (Nat.zero_le place) (hroom place hplace) hread
      (BTreeMap.mem_iff_exists_getElem?.mpr ⟨_, (ProviderArenas.viewScope_eq_ok.mp hread').1⟩)
  refine ⟨(view, parent, relations), fun place hplace => ⟨(hsame place hplace).1, ?_⟩⟩
  have hatOnce : ProviderArenas.fusionSources (fun _ => provider.arenas.run provider.envelope
      (ProviderArenas.callsBefore turns place)) viewHandle selector.sources = .ok sources := by
    rw [← hsources]
    refine mapM_congr ?_
    rintro ⟨source, i⟩ hmem
    have hi : i < selector.sources.length := List.snd_lt_of_mem_zipIdx hmem
    exact ((hsame place hplace).2 source).trans ((hsame i hi).2 source).symm
  simp only [ProviderArenas.featureFusionBlock, bind_eq_ok, exists_unit, rejectIf_eq_ok,
    List.isEmpty_eq_false_iff]
  exact ⟨hne, sources, hatOnce, hfused⟩

end Interleaving

/-! ## When the counter wraps -/

def soilSource : SourceId := soilBlock.sourceId

def soilRecord (observationId : ObservationId) (sampleId : SampleId) : CoordinatorRelation :=
  { CoordinatorRelation.new observationId sampleId with sourceId := some soilSource }

/-- Two samples in two sources. -/
def pairedTraining : CoordinatorRelationSet where
  records :=
    [nirRecord (.lit "o1" rfl) (.lit "s1" rfl),
      nirRecord (.lit "o2" rfl) (.lit "s2" rfl),
      soilRecord (.lit "q1" rfl) (.lit "s1" rfl),
        soilRecord (.lit "q2" rfl) (.lit "s2" rfl)]

def pairedEnvelope : CoordinatorDataPlanEnvelope :=
  { testEnvelope with
    schemaVersion := 1
    coordinatorRelations := some pairedTraining
    predictCohort := none }

def nirBuffer : NumericFeatureBuffer :=
  oneColumn "nir" [.lit "o1" rfl, .lit "o2" rfl] [F64.ofInt 1, F64.ofInt 2]

def soilBuffer : NumericFeatureBuffer :=
  oneColumn "soil" [.lit "q1" rfl, .lit "q2" rfl] [F64.ofInt 3, F64.ofInt 4]

def pairedFeatureStore : NumericFeatureBufferStore where
  buffers := BTreeMap.collect [("nir", nirBuffer), ("soil", soilBuffer)]

def pairedProvider : InMemoryProvider where
  arenas :=
    { handles := ⟨defaultOwnerController, 1, ∅, ∅, ∅, ∅⟩
      features := NumericFeatureBufferArena.new pairedFeatureStore
      ndTensors := NdTensorArena.new ⟨∅⟩ }
  envelope := pairedEnvelope

theorem pairedEnvelope_valid :
    @CoordinatorDataPlanEnvelope.validate testDigests pairedEnvelope = .ok () := by
  decide +kernel

theorem pairedProvider_built :
    @InMemoryProvider.BuiltFrom testDigests pairedProvider pairedEnvelope pairedFeatureStore
      ⟨∅⟩ := by
  let _ := testDigests
  refine ⟨⟨pairedFeatureStore.buffers, ?_⟩, ⟨[], rfl⟩,
    bind_eq_ok.mpr ⟨(), pairedEnvelope_valid, rfl⟩⟩
  have hok : (NumericFeatureBufferStore.new pairedFeatureStore.buffers).toOption.isSome = true := by
    decide +kernel
  obtain ⟨store, hstore⟩ := Option.isSome_iff_exists.mp hok
  have hnew := toOption_eq_some.mp hstore
  have hbuffers := (NumericFeatureBufferStore.new_eq_ok.mp hnew).1
  cases store
  cases hbuffers
  exact hnew

/-- The view of a sample. -/
def sampleView (sampleId : SampleId) : DataView := { plainView with sampleIds := some [sampleId] }

def firstView : DataView := sampleView (.lit "s1" rfl)

def secondView : DataView := sampleView (.lit "s2" rfl)

/-- Both sources, on the samples of the first in the first and of the second in the second. -/
def crossAlignment : SampleAlignmentPlan where
  mode := .outer
  sampleIds := [.lit "s1" rfl, .lit "s2" rfl]
  masks :=
    [⟨[.lit "s1" rfl, .lit "s2" rfl], nirSource, [true, false]⟩,
      ⟨[.lit "s1" rfl, .lit "s2" rfl], soilSource, [false, true]⟩]

def pairedSelector (alignment : SampleAlignmentPlan) : ProviderFeatureFusionSelector where
  featureSetId := "fused"
  sources := [⟨nirSource, "nir", none⟩, ⟨soilSource, "soil", none⟩]
  alignment := alignment
  sourceLayout := none
  policy := ⟨true⟩

/-- The fusion of the relations that the two sources are read for. -/
def pairedFusion (nirRelations soilRelations : CoordinatorRelationSet)
    (alignment : SampleAlignmentPlan) : Result CoordinatorFeatureBlock := do
  let nir ← nirBuffer.projectRelations nirRelations (some nirSource) none
  let soil ← soilBuffer.projectRelations soilRelations (some soilSource) none
  fuseWithLayout "fused" [⟨nirSource, nir⟩, ⟨soilSource, soil⟩] alignment none ⟨true⟩

def firstRecords : List CoordinatorRelation :=
  [nirRecord (.lit "o1" rfl) (.lit "s1" rfl),
    soilRecord (.lit "q1" rfl) (.lit "s1" rfl)]

def secondRecords : List CoordinatorRelation :=
  [nirRecord (.lit "o2" rfl) (.lit "s2" rfl),
    soilRecord (.lit "q2" rfl) (.lit "s2" rfl)]

theorem cross_ok : (pairedFusion ⟨firstRecords⟩ ⟨secondRecords⟩ crossAlignment).isOk =
    true := by
  decide +kernel

theorem first_not_ok : (pairedFusion ⟨firstRecords⟩ ⟨firstRecords⟩ crossAlignment).isOk =
    false := by
  decide +kernel

theorem second_not_ok :
    (pairedFusion ⟨secondRecords⟩ ⟨secondRecords⟩ crossAlignment).isOk = false := by
  decide +kernel

def pairedRecord : CoordinatorDataHandleRecord :=
  dataRecord pairedEnvelope trainingRequest (some pairedTraining)
    ⟨1, .data, defaultOwnerController⟩

theorem first_selected :
    @viewSelection testDigests firstView pairedRecord pairedTraining =
      .ok firstRecords := by
  rfl

theorem second_selected :
    @viewSelection testDigests secondView pairedRecord pairedTraining =
      .ok secondRecords := by
  rfl

theorem plain_selected :
    @viewSelection testDigests plainView pairedRecord pairedTraining =
      .ok pairedTraining.records := by
  rfl

/-- The training data has the handle 1, and the next handle is 2. -/
structure Paired [ThirdParty] (arenas : ProviderArenas) : Prop where
  record : arenas.handles.records[1]? = some pairedRecord
  relations : arenas.handles.dataRelations[1]? = some pairedTraining
  nextHandle : arenas.handles.nextHandle = 2
  ownerController : arenas.handles.ownerController = defaultOwnerController
  items : arenas.features.items = pairedFeatureStore.buffers
  bindings : ∃ bindings,
    arenas.features.bindingsForRelations NumericFeatureBuffer.bindable pairedTraining
      trainingRequest.outputRepresentation = .ok bindings ∧
    arenas.features.dataBindings[1]? =
      some (BindingArena.bindingMap NumericFeatureBuffer.bindable bindings)

theorem pairedFeatureStore_buffer {id : String} {buffer : NumericFeatureBuffer} :
    pairedFeatureStore.buffers[id]? = some buffer ↔
      (id, buffer) ∈ [("nir", nirBuffer), ("soil", soilBuffer)] :=
  BTreeMap.getElem?_collect_of_nodup (by decide)

theorem pairedScope : @materializationScope testDigests pairedEnvelope trainingRequest =
    .ok (some pairedTraining) := by
  let _ := testDigests
  exact materializationScope_of_valid pairedEnvelope_valid (by decide +kernel) (by decide +kernel)
    rfl rfl (by decide +kernel)

/-- A call that makes a view. -/
theorem step_makeView [ThirdParty] {arena : CoordinatorHandleArena} {dataHandle : Nat}
    {view : DataView} {parent : CoordinatorDataHandleRecord} {relations : CoordinatorRelationSet}
    {selected : List CoordinatorRelation} (hview : validateView view = .ok ())
    (hparent : arena.records[dataHandle]? = some parent)
    (hrelations : arena.dataRelations[dataHandle]? = some relations)
    (hselected : viewSelection view parent relations = .ok selected) :
    (arena.step (.makeView dataHandle view)).2 = arena.advance.insertView
      ⟨⟨arena.nextHandle, .view, arena.ownerController⟩, parent.handle, view,
        uniqueSampleCount selected, selected.length⟩ ⟨selected⟩ := by
  simp only [step, makeView, exec_ofResult_bind, exec_takeHandle_bind, exec_get_bind,
    exec_modify_bind, exec_pure, hview, hparent, hrelations, hselected, require]
  rfl

/-- A view of the training data gets the handle 2. -/
theorem Paired.viewed {arenas : ProviderArenas} (h : @Paired testDigests arenas) {view : DataView}
    {selected : List CoordinatorRelation} (hview : @validateView testDigests view = .ok ())
    (hselected : @viewSelection testDigests view pairedRecord pairedTraining = .ok selected) :
    letI := testDigests
    let after := (arenas.step pairedEnvelope (.makeView 1 view)).2
    after.handles.nextHandle = 3 ∧ after.handles.ownerController = defaultOwnerController ∧
      after.handles.viewRelations[2]? = some ⟨selected⟩ ∧
      ∃ record, after.viewScope 2 = .ok (record, pairedRecord, ⟨selected⟩) := by
  let _ := testDigests
  intro after
  have hhandles : after.handles = (arenas.handles.step (.makeView 1 view)).2 :=
    arenas.step_handles pairedEnvelope _
  rw [step_makeView hview h.record h.relations hselected] at hhandles
  have hnext := nextHandle_advance (by rw [h.nextHandle]; decide)
  rw [h.nextHandle] at hhandles hnext
  have hrelations : after.handles.viewRelations[2]? = some ⟨selected⟩ := by
    rw [hhandles]
    exact Std.ExtTreeMap.getElem?_insert_self
  obtain ⟨record, hrecord, hparent⟩ :
    ∃ record, after.handles.viewRecords[2]? = some record ∧
      record.parentHandle = pairedRecord.handle := by
    rw [hhandles]
    exact ⟨_, Std.ExtTreeMap.getElem?_insert_self, rfl⟩
  refine ⟨by rw [hhandles]; exact hnext, by rw [hhandles]; exact h.ownerController,
    hrelations, record,
    ProviderArenas.viewScope_eq_ok.mpr ⟨hrecord, ?_, hrelations⟩⟩
  rw [hparent, hhandles]
  exact h.record

/-- A view of the training data reads each buffer for its source. -/
theorem Paired.reads {arenas : ProviderArenas} (h : @Paired testDigests arenas) {view : DataView}
    {selected : List CoordinatorRelation} (hview : @validateView testDigests view = .ok ())
    (hselected : @viewSelection testDigests view pairedRecord pairedTraining = .ok selected)
    (hvalid : CoordinatorRelationSet.validate ⟨selected⟩ = .ok ())
    {id : String} {buffer : NumericFeatureBuffer} {s : SourceId} {block : CoordinatorFeatureBlock}
    (hbuffer : pairedFeatureStore.buffers[id]? = some buffer)
    (hrepresentation : buffer.representationId = trainingRequest.outputRepresentation)
    (hcoverage : coverage buffer.containsObservation pairedTraining = some [s])
    (hsource : s ∈ CoordinatorRelationSet.sources ⟨selected⟩)
    (hblock : buffer.projectRelations ⟨selected⟩ (some s) none = .ok block) :
    letI := testDigests
    (arenas.step pairedEnvelope (.makeView 1 view)).2.fusionSource 2 ⟨s, id, none⟩ =
      .ok ⟨s, block⟩ := by
  let _ := testDigests
  have hitem : arenas.features.items[id]? = some buffer := by
    rw [h.items]
    exact hbuffer
  have hlawful : BindingArena.Lawful NumericFeatureBuffer.bindable arenas.features.items := by
    rw [h.items]
    exact pairedProvider_built.fresh.1.consistent.features.lawful
  obtain ⟨bindings, hbindings, hget⟩ := h.bindings
  obtain ⟨binding, hmade, -, hsources⟩ := hlawful id buffer [s] hitem
  have hbound := (BindingArena.getElem?_bindingMap hlawful hbindings).mpr
    ⟨_, hitem, hrepresentation, [s], hcoverage, hmade⟩
  obtain ⟨-, -, -, record, hread⟩ := h.viewed hview hselected
  refine ProviderArenas.fusionSource_eq_ok.mpr
    ⟨record, pairedRecord, ⟨selected⟩, hread, ?_, buffer,
    hitem, hblock, rfl⟩
  refine BindingArena.validateBoundSources_eq_ok.mpr
    ⟨CoordinatorRelationSet.validate_eq_ok.mp hvalid, binding, ?_, hsource, ?_⟩
  · show (arenas.features.dataBindings[1]?).bind _ = _
    rw [hget]
    exact hbound
  · rw [hsources]
    exact List.mem_singleton_self s

/-- The calls of the other clients: a view of the first sample, and then, once the counter has
wrapped, a view of the second sample with the same handle. -/
def wrappingTurns (n : Nat) : Nat → List ProviderCall
  | 0 => [.materialize trainingRequest, .makeView 1 firstView]
  | 1 => ProviderArenas.wrapping trainingRequest 3 n 1 ++ [.makeView 1 secondView]
  | _ => []

section Wrapped

/-- What the selector gets, when each source is read for its relations. -/
theorem featureFusionBlock_eq {arenasAt : Nat → ProviderArenas}
    {nirRelations soilRelations : CoordinatorRelationSet} {alignment : SampleAlignmentPlan}
    {block : CoordinatorFeatureBlock}
    (hnir : ∀ block, nirBuffer.projectRelations nirRelations (some nirSource) none = .ok block →
      @ProviderArenas.fusionSource testDigests (arenasAt 0) 2 ⟨nirSource, "nir", none⟩ =
        .ok ⟨nirSource, block⟩)
    (hsoil : ∀ block, soilBuffer.projectRelations soilRelations
      (some soilSource) none = .ok block →
      @ProviderArenas.fusionSource testDigests (arenasAt 1) 2 ⟨soilSource, "soil", none⟩ =
        .ok ⟨soilSource, block⟩)
    (hfused : pairedFusion nirRelations soilRelations alignment = .ok block) :
    @ProviderArenas.featureFusionBlock testDigests arenasAt 2 (pairedSelector alignment) =
      .ok block := by
  let _ := testDigests
  simp only [pairedFusion, bind_eq_ok] at hfused
  obtain ⟨nir, hnirBlock, soil, hsoilBlock, hfused⟩ := hfused
  simp only [ProviderArenas.featureFusionBlock, bind_eq_ok, exists_unit, rejectIf_eq_ok]
  refine ⟨rfl, [⟨nirSource, nir⟩, ⟨soilSource, soil⟩], mapM_eq_ok.mpr ?_, hfused⟩
  exact .cons (hnir nir hnirBlock) (.cons (hsoil soil hsoilBlock) .nil)

/-- The arenas with the training data and a view of it. -/
def viewedArenas (view : DataView) : ProviderArenas :=
  @ProviderArenas.run testDigests pairedEnvelope pairedProvider.arenas
    [.materialize trainingRequest, .makeView 1 view]

theorem paired_materialize : letI := testDigests
    let arenas := (pairedProvider.arenas.step pairedEnvelope (.materialize trainingRequest)).2
    Paired arenas ∧ arenas.handles.viewRelations = ∅ := by
  let _ := testDigests
  have hconsistent := pairedProvider_built.fresh.1.consistent
  obtain ⟨bindings, _, hbindings, hstep⟩ := ProviderArenas.materialize_of_relations
    hconsistent.features.lawful hconsistent.ndTensors.lawful pairedScope
  simp only [hstep]
  exact ⟨⟨Std.ExtTreeMap.getElem?_insert_self,
    Std.ExtTreeMap.getElem?_insert_self, rfl, rfl, rfl,
    bindings, hbindings, Std.ExtTreeMap.getElem?_insert_self⟩, rfl⟩

theorem viewedArenas_eq (view : DataView) : letI := testDigests
    viewedArenas view = ((pairedProvider.arenas.step pairedEnvelope
      (.materialize trainingRequest)).2.step pairedEnvelope (.makeView 1 view)).2 := rfl

theorem run_viewedArenas (view : DataView) (calls : List ProviderCall) : letI := testDigests
    pairedProvider.arenas.run pairedEnvelope
      ([.materialize trainingRequest, .makeView 1 view] ++ calls) =
        (viewedArenas view).run pairedEnvelope calls := by
  exact Machine.run_append ..

theorem viewedArenas_consistent (view : DataView) :
    @ProviderArenas.Consistent testDigests (viewedArenas view) ∧
      (viewedArenas view).features.items = pairedFeatureStore.buffers := by
  let _ := testDigests
  obtain ⟨hfresh, hstart, -, henvelope, -⟩ := pairedProvider_built.fresh
  have hsize : (pairedProvider.arenas.mintedHandles pairedProvider.envelope
      [.materialize trainingRequest, .makeView 1 view]).length < 2 ^ 64 - 1 :=
    lt_of_le_of_lt (Machine.length_minted_le _ _) (show 2 < 2 ^ 64 - 1 by decide)
  obtain ⟨hconsistent, hitems, -⟩ := hfresh.run hsize
  rw [henvelope] at hconsistent hitems
  unfold viewedArenas
  exact ⟨hconsistent, hitems.trans hstart⟩

theorem viewedArenas_keeps {view : DataView}
    (hnext : (viewedArenas view).handles.nextHandle = 3) (n : Nat) : letI := testDigests
    (viewedArenas view).KeepsViews
      ((viewedArenas view).run pairedEnvelope
        (List.replicate n (.materialize trainingRequest))) := by
  let _ := testDigests
  obtain ⟨hbuilt, -⟩ := viewedArenas_consistent view
  exact (ProviderArenas.run_replicate hbuilt.features.lawful hbuilt.ndTensors.lawful pairedScope
    (by rw [hnext]; decide) n).1

theorem viewedArenas_handles : (viewedArenas firstView).handles.nextHandle = 3 ∧
    (viewedArenas firstView).handles.ownerController = defaultOwnerController ∧
    (viewedArenas firstView).handles.viewRelations[2]? = some ⟨firstRecords⟩ := by
  obtain ⟨hnext, howner, hrelations, -⟩ := paired_materialize.1.viewed rfl first_selected
  rw [viewedArenas_eq]
  exact ⟨hnext, howner, hrelations⟩

/-- The arenas before the second view. -/
def wrapped (n : Nat) : ProviderArenas :=
  @ProviderArenas.run testDigests pairedEnvelope (viewedArenas firstView)
    (ProviderArenas.wrapping trainingRequest 3 n 1)

/-- Once the counter has wrapped, the training data has the handle 1 again. -/
theorem paired_wrapped {n : Nat} (hn : 3 + n = u64Size) :
    @Paired testDigests (wrapped n) := by
  let _ := testDigests
  unfold wrapped
  obtain ⟨hbuilt, hitems⟩ := viewedArenas_consistent firstView
  have hnext : (viewedArenas firstView).handles.nextHandle = 3 := viewedArenas_handles.1
  obtain ⟨hkeeps, hcount, hrecord, hrelations, bindings, hbindings, hget⟩ :=
    hbuilt.run_wrapping pairedScope hnext (by decide) hn (show 1 < u64Size by decide)
  rw [viewedArenas_handles.2.1] at hrecord
  refine ⟨hrecord, hrelations, hcount, hkeeps.ownerController.trans viewedArenas_handles.2.1,
    hkeeps.featureItems.trans hitems, bindings, ?_, hget⟩
  rw [BindingArena.bindingsForRelations, hkeeps.featureItems]
  exact hbindings

theorem callsBefore_wrappingTurns (n : Nat) :
    ProviderArenas.callsBefore (wrappingTurns n) 1 =
      (wrappingTurns n 0 ++ ProviderArenas.wrapping trainingRequest 3 n 1) ++
        [.makeView 1 secondView] := by
  simp [ProviderArenas.callsBefore, wrappingTurns, List.range_succ]

/-- The arenas when the second source is read. -/
theorem secondRead_eq (n : Nat) : letI := testDigests
    pairedProvider.arenas.run pairedEnvelope (ProviderArenas.callsBefore (wrappingTurns n) 1) =
      ((wrapped n).step pairedEnvelope (.makeView 1 secondView)).2 := by
  rw [callsBefore_wrappingTurns, List.append_assoc, wrappingTurns, run_viewedArenas]
  exact Machine.run_append ..

/-- A view with the handle 2 reads one of the two samples. -/
structure ReadsOne (arenas : ProviderArenas) : Prop where
  items : arenas.features.items = pairedFeatureStore.buffers
  relations : ∀ relations, arenas.handles.viewRelations[2]? = some relations →
    relations = ⟨firstRecords⟩ ∨ relations = ⟨secondRecords⟩

theorem readsOne_materialize : letI := testDigests
    ReadsOne (pairedProvider.arenas.run pairedEnvelope [.materialize trainingRequest]) := by
  obtain ⟨hpaired, hnone⟩ := paired_materialize
  have hone : @ProviderArenas.run testDigests pairedEnvelope pairedProvider.arenas
      [.materialize trainingRequest] = (@ProviderArenas.step testDigests pairedEnvelope
        pairedProvider.arenas (.materialize trainingRequest)).2 := rfl
  rw [hone]
  generalize (@ProviderArenas.step testDigests pairedEnvelope pairedProvider.arenas
    (.materialize trainingRequest)).2 = arenas at hpaired hnone ⊢
  refine ⟨@Paired.items testDigests _ hpaired, fun relations h => ?_⟩
  rw [hnone] at h
  simp at h

/-- At every instant of the run. -/
theorem wrapped_reads {n : Nat} (hn : 3 + n = u64Size) {calls : List ProviderCall}
    (hcalls : calls <+: ProviderArenas.callsBefore (wrappingTurns n) 1) : letI := testDigests
    ReadsOne (pairedProvider.arenas.run pairedEnvelope calls) := by
  let _ := testDigests
  have hread : ∀ more, more <+: ProviderArenas.wrapping trainingRequest 3 n 1 →
      ReadsOne ((viewedArenas firstView).run pairedEnvelope more) := by
    intro more hmore
    obtain ⟨hnext, -, hrelations⟩ := viewedArenas_handles
    have hkeeps := (viewedArenas_consistent firstView).1.keepsViews_wrapping pairedScope hnext
      (by decide) hn hmore
    refine ⟨hkeeps.featureItems.trans (viewedArenas_consistent _).2,
      fun relations h => Or.inl ?_⟩
    rw [hkeeps.viewRelations, hrelations] at h
    exact (Option.some.inj h).symm
  have hends : calls = ProviderArenas.callsBefore (wrappingTurns n) 1 ∨
      calls <+: wrappingTurns n 0 ++ ProviderArenas.wrapping trainingRequest 3 n 1 := by
    rwa [callsBefore_wrappingTurns, List.prefix_concat_iff, ← callsBefore_wrappingTurns] at hcalls
  rcases hends with rfl | hcalls
  · -- The second view is made.
    rw [secondRead_eq]
    have hpaired := paired_wrapped hn
    generalize wrapped n = arenas at hpaired ⊢
    obtain ⟨-, -, hrelations, -⟩ := hpaired.viewed rfl second_selected
    exact ⟨hpaired.items, fun relations h => Or.inr (Option.some.inj (h.symm.trans hrelations))⟩
  · rcases List.prefix_or_prefix_of_prefix hcalls (List.prefix_append _ _) with hshort | hlong
    · -- There is no view yet, or only the first.
      have hcases : calls = [] ∨ calls = [.materialize trainingRequest] ∨
          calls = wrappingTurns n 0 ++ [] := by
        rw [show wrappingTurns n 0 = [.materialize trainingRequest] ++
          [.makeView 1 firstView] from rfl, List.prefix_concat_iff,
          ← List.nil_append [ProviderCall.materialize trainingRequest], List.prefix_concat_iff,
          List.prefix_nil] at hshort
        rcases hshort with h | h | h
        · exact Or.inr (Or.inr h)
        · exact Or.inr (Or.inl h)
        · exact Or.inl h
      rcases hcases with rfl | rfl | rfl
      · refine ⟨rfl, fun relations h => ?_⟩
        simp [ProviderArenas.run, pairedProvider] at h
      · exact readsOne_materialize
      · rw [wrappingTurns, run_viewedArenas]
        exact hread [] List.nil_prefix
    · obtain ⟨more, rfl⟩ := hlong
      rw [wrappingTurns, run_viewedArenas]
      exact hread more ((List.prefix_append_right_inj _).mp hcalls)

/-- With relations read at one instant, the fusion is rejected. -/
theorem ReadsOne.rejects {arenas : ProviderArenas} (h : ReadsOne arenas)
    (block : CoordinatorFeatureBlock) : letI := testDigests
    ProviderArenas.featureFusionBlock (fun _ => arenas) 2 (pairedSelector crossAlignment) ≠
      .ok block := by
  let _ := testDigests
  intro hok
  simp only [ProviderArenas.featureFusionBlock, bind_eq_ok, exists_unit] at hok
  obtain ⟨-, sources, hsources, hfused⟩ := hok
  obtain ⟨nir, rest, hnir, hrest, rfl⟩ :=
    List.forall₂_cons_left_iff.mp (mapM_eq_ok.mp hsources)
  obtain ⟨soil, none', hsoil, hnone, rfl⟩ := List.forall₂_cons_left_iff.mp hrest
  cases hnone
  obtain ⟨_, _, relations, hread, -, _, hnirBuffer, hnirBlock, hnirSource⟩ :=
    ProviderArenas.fusionSource_eq_ok.mp hnir
  obtain ⟨_, _, _, hread', -, _, hsoilBuffer, hsoilBlock, hsoilSource⟩ :=
    ProviderArenas.fusionSource_eq_ok.mp hsoil
  cases hread.symm.trans hread'
  cases nir
  cases soil
  cases hnirSource
  cases hsoilSource
  rw [h.items] at hnirBuffer hsoilBuffer
  cases hnirBuffer.symm.trans (pairedFeatureStore_buffer.mpr List.mem_cons_self)
  cases hsoilBuffer.symm.trans
    (pairedFeatureStore_buffer.mpr (List.mem_cons_of_mem _ List.mem_cons_self))
  have hpaired : pairedFusion relations relations crossAlignment = .ok block :=
    bind_eq_ok.mpr ⟨_, hnirBlock, bind_eq_ok.mpr ⟨_, hsoilBlock, hfused⟩⟩
  rcases h.relations relations (ProviderArenas.viewScope_eq_ok.mp hread).2.2 with rfl | rfl
  · obtain ⟨e, he⟩ := exists_error first_not_ok
    rw [he] at hpaired
    cases hpaired
  · obtain ⟨e, he⟩ := exists_error second_not_ok
    rw [he] at hpaired
    cases hpaired

theorem mixes_of {n : Nat} (hn : 3 + n = u64Size) : letI := testDigests
    let turns := wrappingTurns n
    ∃ block, ProviderArenas.featureFusionBlock
        (fun place => pairedProvider.arenas.run pairedEnvelope
          (ProviderArenas.callsBefore turns place)) 2
            (pairedSelector crossAlignment) = .ok block ∧
      ∀ calls, calls <+: ProviderArenas.callsBefore turns 1 →
        ProviderArenas.featureFusionBlock
          (fun _ => pairedProvider.arenas.run pairedEnvelope calls) 2
            (pairedSelector crossAlignment) ≠ .ok block := by
  let _ := testDigests
  intro turns
  obtain ⟨block, hblock⟩ := exists_ok cross_ok
  refine ⟨block, ?_, fun calls hcalls => (wrapped_reads hn hcalls).rejects block⟩
  refine featureFusionBlock_eq (fun nir hnir => ?_) (fun soil hsoil => ?_) hblock
  · have hfirst : pairedProvider.arenas.run pairedEnvelope (ProviderArenas.callsBefore turns 0) =
        viewedArenas firstView := rfl
    rw [hfirst, viewedArenas_eq]
    exact paired_materialize.1.reads rfl first_selected (by decide +kernel)
      (pairedFeatureStore_buffer.mpr List.mem_cons_self) rfl (by decide +kernel)
      (by decide +kernel) hnir
  · rw [secondRead_eq]
    exact (paired_wrapped hn).reads rfl second_selected (by decide +kernel)
      (pairedFeatureStore_buffer.mpr (List.mem_cons_of_mem _ List.mem_cons_self)) rfl
      (by decide +kernel) (by decide +kernel) hsoil

/-- After `2 ^ 64 - 1` materializations between its reads, all but two of which are released at
once, the fusion has a row of the one view and a row of the other, which no instant of the run has
together. -/
theorem wrapped_fusion_mixes : letI := testDigests
    let turns := wrappingTurns (2 ^ 64 - 3)
    ∃ block, ProviderArenas.featureFusionBlock
        (fun place => pairedProvider.arenas.run pairedEnvelope
          (ProviderArenas.callsBefore turns place)) 2
            (pairedSelector crossAlignment) = .ok block ∧
      ∀ calls, calls <+: ProviderArenas.callsBefore turns 1 →
        ProviderArenas.featureFusionBlock
          (fun _ => pairedProvider.arenas.run pairedEnvelope calls) 2
            (pairedSelector crossAlignment) ≠ .ok block :=
  mixes_of (by norm_num [u64Size])

end Wrapped

/-! ## A run between the reads -/

def plainAlignment : SampleAlignmentPlan :=
  builtPlan [⟨nirSource, [.lit "s1" rfl, .lit "s2" rfl]⟩,
    ⟨soilSource, [.lit "s1" rfl, .lit "s2" rfl]⟩] .inner

/-- A view before the reads, and a materialization between them. -/
def plainTurns : Nat → List ProviderCall
  | 0 => [.materialize trainingRequest, .makeView 1 plainView]
  | 1 => [.materialize trainingRequest]
  | _ => []

theorem plainTurns_size : letI := testDigests
    ∀ place < 2, (pairedProvider.arenas.mintedHandles pairedEnvelope
      (ProviderArenas.callsBefore plainTurns place)).length < 2 ^ 64 - 1 := by
  intro place hplace
  refine lt_of_le_of_lt (Machine.length_minted_le _ _) ?_
  rw [List.length_map]
  interval_cases place
  · decide
  · decide

theorem plainTurns_before : letI := testDigests
    pairedProvider.arenas.run pairedEnvelope (ProviderArenas.callsBefore plainTurns 0) =
      viewedArenas plainView := rfl

theorem plainTurns_after : letI := testDigests
    pairedProvider.arenas.run pairedEnvelope (ProviderArenas.callsBefore plainTurns 1) =
      (viewedArenas plainView).run pairedEnvelope
        (List.replicate 1 (.materialize trainingRequest)) :=
  run_viewedArenas plainView _

theorem plainView_read : (viewedArenas plainView).handles.nextHandle = 3 ∧
    ∃ record, (viewedArenas plainView).viewScope 2 = .ok
      (record, pairedRecord, pairedTraining) := by
  obtain ⟨hnext, -, -, record, hread⟩ := paired_materialize.1.viewed rfl plain_selected
  rw [viewedArenas_eq]
  exact ⟨hnext, record, hread⟩

/-- A materialization changes no source of a view. -/
theorem fusionSource_materialize [ThirdParty] {arenas : ProviderArenas} (h : arenas.Consistent)
    {envelope : CoordinatorDataPlanEnvelope} {request : CoordinatorDataMaterializationRequest}
    (hnext : arenas.handles.nextHandle + 1 < u64Size) {viewHandle : Nat}
    {view : CoordinatorDataViewRecord} {parent : CoordinatorDataHandleRecord}
    {relations : CoordinatorRelationSet}
    (hread : arenas.viewScope viewHandle = .ok (view, parent, relations))
    (hkeeps : arenas.KeepsViews
      (arenas.run envelope (List.replicate 1 (.materialize request))))
    (source : ProviderFeatureFusionSource) :
    (arenas.run envelope (List.replicate 1 (.materialize request))).fusionSource viewHandle source =
      arenas.fusionSource viewHandle source := by
  have hminted : (arenas.mintedHandles envelope
      (List.replicate 1 (.materialize request))).length ≤ 1 := Machine.length_minted_le _ _
  have hlive : viewHandle ∈ (arenas.run envelope
      (List.replicate 1 (.materialize request))).handles.viewRecords := by
    rw [hkeeps.viewRecords]
    exact BTreeMap.mem_iff_exists_getElem?.mpr ⟨_, (ProviderArenas.viewScope_eq_ok.mp hread).1⟩
  obtain ⟨hread', hitems, hbindings⟩ := h.stays_read (by omega) hread hlive
  exact ProviderArenas.fusionSource_congr hread hread' hitems hbindings source

theorem plainTurns_stays (source : ProviderFeatureFusionSource) : letI := testDigests
    (pairedProvider.arenas.run pairedEnvelope
      (ProviderArenas.callsBefore plainTurns 1)).fusionSource 2 source =
        (viewedArenas plainView).fusionSource 2 source := by
  obtain ⟨hnext, record, hread⟩ := plainView_read
  rw [plainTurns_after]
  exact @fusionSource_materialize testDigests _ (viewedArenas_consistent plainView).1 _ _
    (by rw [hnext]; decide) _ _ _ _ hread (viewedArenas_keeps hnext 1) source

theorem plainTurns_read : letI := testDigests
    ∃ block, ProviderArenas.featureFusionBlock
      (fun place => pairedProvider.arenas.run pairedEnvelope
        (ProviderArenas.callsBefore plainTurns place)) 2 (pairedSelector plainAlignment) =
          .ok block := by
  have hok : (pairedFusion pairedTraining pairedTraining plainAlignment).isOk = true := by
    decide +kernel
  obtain ⟨block, hblock⟩ := exists_ok hok
  refine ⟨block, featureFusionBlock_eq (fun nir hnir => ?_) (fun soil hsoil => ?_) hblock⟩
  · rw [plainTurns_before, viewedArenas_eq]
    exact paired_materialize.1.reads rfl plain_selected (by decide +kernel)
      (pairedFeatureStore_buffer.mpr List.mem_cons_self) rfl (by decide +kernel)
      (by decide +kernel) hnir
  · rw [plainTurns_stays, viewedArenas_eq]
    exact paired_materialize.1.reads rfl plain_selected (by decide +kernel)
      (pairedFeatureStore_buffer.mpr (List.mem_cons_of_mem _ List.mem_cons_self)) rfl
      (by decide +kernel) (by decide +kernel) hsoil

theorem plainTurns_at_once : letI := testDigests
    ∃ block scope, ∀ place < 2,
      let arenas := pairedProvider.arenas.run pairedEnvelope
        (ProviderArenas.callsBefore plainTurns place)
      arenas.viewScope 2 = .ok scope ∧
        ProviderArenas.featureFusionBlock (fun _ => arenas) 2 (pairedSelector plainAlignment) =
          .ok block := by
  let _ := testDigests
  obtain ⟨block, hblock⟩ := plainTurns_read
  obtain ⟨-, scope, hscope⟩ := fusion_reads_at_once pairedProvider_built plainTurns 2
    (pairedSelector plainAlignment) plainTurns_size hblock
  exact ⟨block, scope, hscope⟩

end DagMlData
