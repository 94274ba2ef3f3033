import DagMlData.ProviderRuns

/-!
# Bindings of the provider

`provider_bindings`: in every run that does not exhaust the handle counter, the bindings of both
arenas belong to the live data handles with relations, name what the provider holds, and go with
their handle.
-/

namespace DagMlData

open Guard RustText CoordinatorHandleArena

/-! ## Stores -/

/-- A store as its constructor checks it. -/
def NumericFeatureBufferStore.Checked (buffers : BTreeMap String NumericFeatureBuffer) : Prop :=
  ∀ (id : String) (buffer : NumericFeatureBuffer), buffers[id]? = some buffer →
    buffer.Shaped ∧ buffer.featureSetId = id

/-- A store as its constructor builds it. -/
def NdTensorStore.Checked (tensors : BTreeMap String NdTensor) : Prop :=
  ∀ (id : String) (tensor : NdTensor), tensors[id]? = some tensor →
    tensor.Built ∧ tensor.tensorId = id

theorem NumericFeatureBufferStore.new_checked {buffers : BTreeMap String NumericFeatureBuffer}
    {store : NumericFeatureBufferStore} (h : NumericFeatureBufferStore.new buffers = .ok store) :
    Checked store.buffers := by
  obtain ⟨heq, hchecked⟩ := new_eq_ok.mp h
  rw [heq]
  exact hchecked

theorem NdTensorStore.fromInputs_checked {inputs : List NdTensorInput} {store : NdTensorStore}
    (h : NdTensorStore.fromInputs inputs = .ok store) : Checked store.tensors := by
  simp only [fromInputs, bind_eq_ok, pure_eq_ok] at h
  obtain ⟨tensors, hloop, rfl⟩ := h
  refine foldlM_ok_induction (P := fun _ tensors => Checked tensors) ?_ ?_ hloop
  · intro id tensor hget
    simp at hget
  · intro _ tensors input after hchecked hstep id tensor hget
    simp only [addInput, bind_eq_ok, exists_unit, rejectIf_eq_ok, pure_eq_ok] at hstep
    obtain ⟨made, hmade, _, rfl⟩ := hstep
    rw [Std.ExtTreeMap.getElem?_insert] at hget
    split at hget
    · next heq =>
      cases hget
      exact ⟨NdTensor.fromInput_built hmade, Std.LawfulEqOrd.eq_of_compare heq⟩
    · exact hchecked id tensor hget

section Lawful

variable [ThirdParty]

theorem NumericFeatureBufferStore.Checked.lawful {buffers : BTreeMap String NumericFeatureBuffer}
    (h : Checked buffers) : BindingArena.Lawful NumericFeatureBuffer.bindable buffers := by
  intro id buffer sources hget
  obtain ⟨hshaped, hid⟩ := h id buffer hget
  have hprint : buffer.fingerprint = .ok buffer.absorbed.finalizeHex :=
    bind_eq_ok.mpr ⟨(), NumericFeatureBuffer.validate_eq_ok.mpr hshaped, rfl⟩
  exact ⟨_, bind_eq_ok.mpr ⟨_, hprint, rfl⟩, hid, rfl⟩

theorem NdTensorStore.Checked.lawful {tensors : BTreeMap String NdTensor} (h : Checked tensors) :
    BindingArena.Lawful NdTensor.bindable tensors := by
  intro id tensor sources hget
  exact ⟨_, bind_eq_ok.mpr ⟨_, rfl, rfl⟩, (h id tensor hget).2, rfl⟩

end Lawful

/-! ## What the bindings say -/

namespace BindingArena

variable {ι β : Type} {kind : Bindable ι β} {arena : BindingArena ι β}
  {handles : CoordinatorHandleArena}

/-- The bindings of an arena say which sources of a live data handle each item covers. -/
structure Exact (kind : Bindable ι β) (arena : BindingArena ι β)
    (handles : CoordinatorHandleArena) : Prop where
  keys : ∀ h : Nat, h ∈ arena.dataBindings ↔ h ∈ handles.records ∧
    h ∈ handles.dataRelations
  binding : ∀ (h : Nat) (id : String) (binding : β), arena.binding? h id = some binding →
    ∃ item record relations, arena.items[id]? = some item ∧
      handles.records[h]? = some record ∧
      handles.dataRelations[h]? = some relations ∧
      kind.representationId item = record.outputRepresentation ∧
      ∀ s, s ∈ kind.sourceIds binding ↔
        s ∈ relations.sources ∧ relations.CoveredBy (kind.containsObservation item) s

/-- The binding of a live data handle is what binding the item to its relations gives. -/
theorem Bound.binding?_eq_some (h : Bound kind arena handles) {dataHandle : Nat}
    {record : CoordinatorDataHandleRecord} {relations : CoordinatorRelationSet}
    (hrecord : handles.records[dataHandle]? = some record)
    (hrelations : handles.dataRelations[dataHandle]? = some relations) {id : String}
    {binding : β} : arena.binding? dataHandle id = some binding ↔
      ∃ item, arena.items[id]? = some item ∧
        Binds kind relations record.outputRepresentation item binding := by
  obtain ⟨bindings, hbindings, hget⟩ :=
    h.bindings dataHandle record relations hrecord hrelations
  rw [binding?, hget, Option.bind_some, getElem?_bindingMap h.lawful hbindings]

/-- A bound handle is live and has relations. -/
theorem Bound.exists_of_binding? (h : Bound kind arena handles) (hwf : handles.WellFormed)
    {dataHandle : Nat} {id : String} {binding : β}
    (hbinding : arena.binding? dataHandle id = some binding) :
    ∃ record relations, handles.records[dataHandle]? = some record ∧
      handles.dataRelations[dataHandle]? = some relations := by
  obtain ⟨bindings, hbindings, -⟩ := Option.bind_eq_some_iff.mp hbinding
  have hmem : dataHandle ∈ handles.dataRelations :=
    (h.keys dataHandle).mp (BTreeMap.mem_iff_exists_getElem?.mpr ⟨bindings, hbindings⟩)
  obtain ⟨record, hrecord⟩ :=
    BTreeMap.mem_iff_exists_getElem?.mp (hwf.data_keys dataHandle hmem)
  obtain ⟨relations, hrelations⟩ := BTreeMap.mem_iff_exists_getElem?.mp hmem
  exact ⟨record, relations, hrecord, hrelations⟩

theorem Binds.mem_sourceIds (hlawful : Lawful kind arena.items) {id : String} {item : ι}
    (hitem : arena.items[id]? = some item) {relations : CoordinatorRelationSet}
    {representationId : RepresentationId} {binding : β}
    (h : Binds kind relations representationId item binding) {s : SourceId} :
    s ∈ kind.sourceIds binding ↔
      s ∈ relations.sources ∧ relations.CoveredBy (kind.containsObservation item) s := by
  obtain ⟨_, sources, hcoverage, hbinding⟩ := h
  obtain ⟨_, heq, _, hsources⟩ := hlawful id item sources hitem
  cases hbinding.symm.trans heq
  rw [hsources]
  exact mem_coverage hcoverage

theorem Bound.exact (h : Bound kind arena handles) (hwf : handles.WellFormed) :
    Exact kind arena handles := by
  refine ⟨fun k => ?_, fun k id binding hbinding => ?_⟩
  · rw [h.keys]
    exact ⟨fun hk => ⟨hwf.data_keys k hk, hk⟩, fun hk => hk.2⟩
  · obtain ⟨record, relations, hrecord, hrelations⟩ := h.exists_of_binding? hwf hbinding
    obtain ⟨item, hitem, hbinds⟩ := (h.binding?_eq_some hrecord hrelations).mp hbinding
    exact ⟨item, record, relations, hitem, hrecord, hrelations, hbinds.1,
      fun s => hbinds.mem_sourceIds h.lawful hitem⟩

end BindingArena

/-! ## Providers -/

section Providers

variable [ThirdParty]

/-- The provider holds what its stores hold, and starts without handles. -/
structure InMemoryProvider.Fresh (provider : InMemoryProvider) : Prop where
  consistent : provider.arenas.Consistent
  records : provider.arenas.handles.RecordsOk
  nextHandle : provider.arenas.handles.nextHandle = 1
  features : NumericFeatureBufferStore.Checked provider.arenas.features.items
  ndTensors : NdTensorStore.Checked provider.arenas.ndTensors.items

/-- The provider was built from stores that their constructors built. -/
def InMemoryProvider.BuiltFrom (provider : InMemoryProvider)
    (envelope : CoordinatorDataPlanEnvelope) (featureStore : NumericFeatureBufferStore)
    (ndTensorStore : NdTensorStore) : Prop :=
  (∃ buffers, NumericFeatureBufferStore.new buffers = .ok featureStore) ∧
  (∃ inputs, NdTensorStore.fromInputs inputs = .ok ndTensorStore) ∧
  InMemoryProvider.newWithTensors envelope featureStore ndTensorStore = .ok provider

variable {provider : InMemoryProvider} {envelope : CoordinatorDataPlanEnvelope}
  {featureStore : NumericFeatureBufferStore} {ndTensorStore : NdTensorStore}

theorem InMemoryProvider.BuiltFrom.fresh
    (h : provider.BuiltFrom envelope featureStore ndTensorStore) :
    provider.Fresh ∧ provider.arenas.features.items = featureStore.buffers ∧
      provider.arenas.ndTensors.items = ndTensorStore.tensors ∧ provider.envelope = envelope ∧
      envelope.validate = .ok () := by
  obtain ⟨⟨buffers, hbuffers⟩, ⟨inputs, hinputs⟩, hnew⟩ := h
  simp only [newWithTensors, bind_eq_ok, exists_unit, pure_eq_ok] at hnew
  obtain ⟨hvalid, handles, hhandles, rfl⟩ := hnew
  have hf := NumericFeatureBufferStore.new_checked hbuffers
  have ht := NdTensorStore.fromInputs_checked hinputs
  have hrecords := recordsOk_new hhandles
  have hwf := wellFormed_new hhandles
  simp only [CoordinatorHandleArena.new, bind_eq_ok, exists_unit, pure_eq_ok] at hhandles
  obtain ⟨_, rfl⟩ := hhandles
  refine ⟨⟨⟨hwf, ?_, ⟨hf.lawful, ?_, ?_⟩, ⟨ht.lawful, ?_, ?_⟩⟩, hrecords,
    rfl, hf, ht⟩, rfl, rfl,
    rfl, hvalid⟩
  · intro k relations hget
    simp at hget
  · simp [NumericFeatureBufferArena.new]
  · intro k record relations hget
    simp at hget
  · simp [NdTensorArena.new]
  · intro k record relations hget
    simp at hget

/-- After a run that does not exhaust the counter. -/
theorem InMemoryProvider.Fresh.run (h : provider.Fresh) {calls : List ProviderCall}
    (hsize : (provider.arenas.mintedHandles provider.envelope calls).length < 2 ^ 64 - 1) :
    (provider.arenas.run provider.envelope calls).Consistent ∧
      (provider.arenas.run provider.envelope calls).features.items =
        provider.arenas.features.items ∧
      (provider.arenas.run provider.envelope calls).ndTensors.items =
        provider.arenas.ndTensors.items := by
  refine h.consistent.run ?_
  rw [h.nextHandle, u64Size]
  omega

/-- What the calls do to the bindings. -/
structure ProviderArenas.CallsKeepBindings (envelope : CoordinatorDataPlanEnvelope)
    (arenas : ProviderArenas) : Prop where
  releaseData : ∀ h ∈ arenas.handles.records,
    let after := (arenas.step envelope (.release h)).2
    RemovesData arenas.handles after.handles h ∧
      after.features.dataBindings = arenas.features.dataBindings.erase h ∧
      after.ndTensors.dataBindings = arenas.ndTensors.dataBindings.erase h
  releaseView : ∀ v ∈ arenas.handles.viewRecords,
    let after := (arenas.step envelope (.release v)).2
    RemovesView arenas.handles after.handles v ∧ after.features = arenas.features ∧
      after.ndTensors = arenas.ndTensors
  materializeError : ∀ request e,
    (arenas.step envelope (.materialize request)).1 = .materialized (.error e) →
    (arenas.step envelope (.materialize request)).2 = arenas

theorem ProviderArenas.Consistent.callsKeepBindings {arenas : ProviderArenas}
    (h : arenas.Consistent) : arenas.CallsKeepBindings envelope := by
  refine ⟨fun k hk => ?_, fun v hv => ?_, fun request e herror => ?_⟩
  · have hspec : CallSpec envelope arenas (.release k) _ _ := h.callSpec _
    obtain ⟨hfeatures, htensors⟩ := hspec.releaseData k rfl hk
    refine ⟨?_, by rw [hfeatures]; rfl, by rw [htensors]; rfl⟩
    rw [hspec.handles]
    exact (h.wellFormed.callContract _).release_data k hk rfl
  · have hspec : CallSpec envelope arenas (.release v) _ _ := h.callSpec _
    have hnot : v ∉ arenas.handles.records := fun hk => h.wellFormed.disjoint v hk hv
    refine ⟨?_, hspec.releaseOther v rfl hnot⟩
    rw [hspec.handles]
    exact (h.wellFormed.callContract _).release_view v hv rfl
  · exact (h.callSpec (.materialize request)).error e herror

/-- In every run of a provider that mints fewer than `2 ^ 64 - 1` handles, the bindings of both
arenas are exact, and every call keeps them with their handles. -/
theorem provider_bindings (hbuilt : provider.BuiltFrom envelope featureStore ndTensorStore)
    (calls : List ProviderCall)
    (hsize : (provider.arenas.mintedHandles envelope calls).length < 2 ^ 64 - 1) :
    let arenas := provider.arenas.run envelope calls
    (arenas.features.items = featureStore.buffers ∧
      arenas.features.Exact NumericFeatureBuffer.bindable arenas.handles) ∧
    (arenas.ndTensors.items = ndTensorStore.tensors ∧
      arenas.ndTensors.Exact NdTensor.bindable arenas.handles) ∧
    arenas.CallsKeepBindings envelope := by
  obtain ⟨hfresh, hfeatures, htensors, rfl, -⟩ := hbuilt.fresh
  obtain ⟨hrun, hitems, hitems'⟩ := hfresh.run hsize
  exact ⟨⟨hitems.trans hfeatures, hrun.features.exact hrun.wellFormed⟩,
    ⟨hitems'.trans htensors, hrun.ndTensors.exact hrun.wellFormed⟩, hrun.callsKeepBindings⟩

omit [ThirdParty]

theorem sharedProvider_built :
    @InMemoryProvider.BuiltFrom sharedDigests sharedProvider sharedEnvelope sharedFeatureStore
      sharedTensorStore := by
  let _ := sharedDigests
  refine ⟨⟨sharedFeatureStore.buffers, ?_⟩, ⟨[sharedTensorInput], ?_⟩, ?_⟩
  · have hok : (NumericFeatureBufferStore.new sharedFeatureStore.buffers).toOption.isSome =
      true := by
      decide +kernel
    obtain ⟨store, hstore⟩ := Option.isSome_iff_exists.mp hok
    have hnew := toOption_eq_some.mp hstore
    have hbuffers := (NumericFeatureBufferStore.new_eq_ok.mp hnew).1
    cases store
    cases hbuffers
    exact hnew
  · have hok : (NdTensorStore.fromInputs [sharedTensorInput]).toOption.isSome = true := by
      decide +kernel
    obtain ⟨store, hstore⟩ := Option.isSome_iff_exists.mp hok
    rw [sharedTensorStore, hstore]
    exact toOption_eq_some.mp hstore
  · exact bind_eq_ok.mpr ⟨(), sharedEnvelope_valid, rfl⟩

/-- Two data handles, a view of each, and the release of the first handle. -/
def sharedRun : List ProviderCall :=
  [.materialize trainingRequest, .makeView 1 plainView, .materialize cohortRequest,
    .makeView 3 plainView, .release 1]

theorem sharedRun_bindings :
    letI := sharedDigests
    let arenas := sharedProvider.arenas.run sharedEnvelope sharedRun
    arenas.features.Exact NumericFeatureBuffer.bindable arenas.handles ∧
      arenas.ndTensors.Exact NdTensor.bindable arenas.handles ∧
      arenas.CallsKeepBindings sharedEnvelope := by
  let _ := sharedDigests
  have h := provider_bindings sharedProvider_built sharedRun
    (lt_of_le_of_lt (Machine.length_minted_le _ _) (by decide))
  exact ⟨h.1.2, h.2.1.2, h.2.2⟩

/-- A data handle and a view of it. -/
def sharedViewedRun : List ProviderCall := [.materialize trainingRequest, .makeView 1 plainView]

def sharedViewed : ProviderArenas :=
  @ProviderArenas.run sharedDigests sharedEnvelope sharedProvider.arenas sharedViewedRun

theorem sharedTraining_scope :
    @materializationScope sharedDigests sharedEnvelope trainingRequest =
      .ok (some sharedTraining) := by
  let _ := sharedDigests
  exact materializationScope_of_valid sharedEnvelope_valid (by decide +kernel) (by decide +kernel)
    rfl rfl (by decide +kernel)

/-- The handles of the two calls. -/
theorem sharedViewed_handles :
    letI := sharedDigests
    sharedViewed.handles = (((sharedProvider.arenas.handles.advance.insertData
      (dataRecord sharedEnvelope trainingRequest (some sharedTraining)
        ⟨1, .data, defaultOwnerController⟩) (some sharedTraining)).step
          (.makeView 1 plainView)).2) := by
  let _ := sharedDigests
  rw [sharedViewed, ProviderArenas.run_handles]
  show sharedProvider.arenas.handles.run
    [.materialize sharedEnvelope trainingRequest, .makeView 1 plainView] = _
  rw [run, Machine.run_cons, step, exec_materialize, sharedTraining_scope]
  rfl

theorem sharedViewed_state :
    sharedViewed.handles.nextHandle = 3 ∧ 2 ∈ sharedViewed.handles.viewRecords := by
  rw [sharedViewed_handles]
  decide +kernel

theorem sharedViewed_consistent : @ProviderArenas.Consistent sharedDigests sharedViewed := by
  let _ := sharedDigests
  obtain ⟨hfresh, -, -, -, -⟩ := sharedProvider_built.fresh
  exact (hfresh.run (lt_of_le_of_lt (Machine.length_minted_le _ _) (by decide))).1

/-- Materializations that wrap the counter, after a data handle and a view of it. -/
def wrappingRun (n k : Nat) (request : CoordinatorDataMaterializationRequest) :
    List ProviderCall :=
  sharedViewedRun ++ ProviderArenas.wrapping request 3 n k

theorem run_wrappingRun (n k : Nat) (request : CoordinatorDataMaterializationRequest)
    (calls : List ProviderCall) :
    letI := sharedDigests
    sharedProvider.arenas.run sharedEnvelope (wrappingRun n k request ++ calls) =
      (sharedViewed.run sharedEnvelope (ProviderArenas.wrapping request 3 n k)).run
        sharedEnvelope calls := by
  let _ := sharedDigests
  rw [wrappingRun, ProviderArenas.run, Machine.run_append, Machine.run_append]
  rfl

/-- Once a data handle has taken the id of the view, releasing that id releases the view and the
bindings of the data handle, which stays live. -/
theorem release_wrapped {n : Nat} (hn : 3 + n = u64Size) :
    letI := sharedDigests
    let arenas := sharedProvider.arenas.run sharedEnvelope
      (wrappingRun n 2 trainingRequest ++ [.release 2])
    2 ∈ arenas.handles.records ∧ 2 ∈ arenas.handles.dataRelations ∧
      2 ∉ arenas.features.dataBindings := by
  let _ := sharedDigests
  intro arenas
  obtain ⟨hnext, hview⟩ := sharedViewed_state
  have hrun := run_wrappingRun n 2 trainingRequest [.release 2]
  obtain ⟨hkeeps, -, hrecord, hrelations, -⟩ :=
    sharedViewed_consistent.run_wrapping sharedTraining_scope hnext (by decide) hn
      (show 2 < u64Size by decide)
  generalize sharedViewed.run sharedEnvelope (ProviderArenas.wrapping trainingRequest 3 n 2) =
    after at *
  have harenas : arenas = (after.step sharedEnvelope (.release 2)).2 := hrun
  have hkept : arenas.handles = after.handles.eraseView 2 := by
    have hcontains : after.handles.viewRecords.contains 2 = true := by
      rw [hkeeps.viewRecords, Std.ExtTreeMap.contains_iff_mem]
      exact hview
    rw [harenas]
    show (releaseHandle 2 after.handles).2 = _
    rw [releaseHandle, if_pos hcontains]
  have hlost : 2 ∉ arenas.features.dataBindings := by
    rw [harenas]
    show 2 ∉ after.features.dataBindings.erase 2
    simp
  rw [hkept]
  refine ⟨BTreeMap.mem_iff_exists_getElem?.mpr ⟨_, hrecord⟩,
    BTreeMap.mem_iff_exists_getElem?.mpr ⟨_, hrelations⟩, hlost⟩

/-- After `2 ^ 64` materializations beside the view, all but three of which are released at once, a
live data handle has lost its bindings. -/
theorem wrapped_bindings_not_exact :
    letI := sharedDigests
    let arenas := sharedProvider.arenas.run sharedEnvelope
      (wrappingRun (2 ^ 64 - 3) 2 trainingRequest ++ [.release 2])
    ¬ arenas.features.Exact NumericFeatureBuffer.bindable arenas.handles := by
  let _ := sharedDigests
  obtain ⟨hrecord, hrelations, hlost⟩ :=
    release_wrapped (n := 2 ^ 64 - 3) (by norm_num [u64Size])
  exact fun hexact => hlost ((hexact.keys 2).mpr ⟨hrecord, hrelations⟩)

end Providers

end DagMlData
