import DagMlData.ProviderBindings
import DagMlData.ProviderProjections

/-!
# Manifests and bindings

A provider tells which buffers and tensors it has by their manifests, and which of them a data
handle is bound to by the bindings of the handle.

* `manifests`, `bindingsForDataHandle`: what an arena lists. The two arenas of the source list in
  the same way: `Catalogue` says what their manifests tell of an item.
* `provider_catalogue`: after any calls, the bindings of a data handle can be told from the
  manifests and the relations of the handle.
-/

namespace DagMlData

open Guard RustText CoordinatorHandleArena

/-! ## Manifests -/

structure NumericFeatureBufferManifest where
  schemaVersion : Nat
  featureSetId : String
  representationId : RepresentationId
  featureNames : List String
  observationIds : List ObservationId
  rowCount : Nat
  featureCount : Nat
  valueCount : Nat
  estimatedValueBytes : Nat
  bufferFingerprint : String

structure NdTensorManifest where
  schemaVersion : Nat
  tensorId : String
  representationId : RepresentationId
  container : String
  dtype : NdTensorDType
  shape : List Nat
  observationIds : List ObservationId
  rowCount : Nat
  elementBytes : Nat
  dataBytes : Nat
  tensorFingerprint : String

/-- `NUMERIC_FEATURE_BUFFER_MANIFEST_SCHEMA_VERSION`. -/
def numericFeatureBufferManifestSchemaVersion : Nat := 1

/-- `ND_TENSOR_MANIFEST_SCHEMA_VERSION`. -/
def ndTensorManifestSchemaVersion : Nat := 1

namespace NumericFeatureBuffer

variable (buffer : NumericFeatureBuffer)

def valueCount : Nat := buffer.rowCount * buffer.featureCount % u64Size

def estimatedValueBytes : Nat := buffer.valueCount * 8 % u64Size

def manifest [ThirdParty] : Result NumericFeatureBufferManifest := do
  let bufferFingerprint ← buffer.fingerprint
  pure {
    schemaVersion := numericFeatureBufferManifestSchemaVersion
    featureSetId := buffer.featureSetId
    representationId := buffer.representationId
    featureNames := buffer.featureNames
    observationIds := buffer.observationIds
    rowCount := buffer.rowCount
    featureCount := buffer.featureCount
    valueCount := buffer.valueCount
    estimatedValueBytes := buffer.estimatedValueBytes
    bufferFingerprint := bufferFingerprint }

end NumericFeatureBuffer

def NdTensor.manifest [ThirdParty] (tensor : NdTensor) : Result NdTensorManifest := do
  let tensorFingerprint ← tensor.fingerprint
  pure {
    schemaVersion := ndTensorManifestSchemaVersion
    tensorId := tensor.tensorId
    representationId := tensor.representationId
    container := tensor.container
    dtype := tensor.dtype
    shape := tensor.shape
    observationIds := tensor.observationIds
    rowCount := tensor.shape.headD 0
    elementBytes := tensor.dtype.elementSize
    dataBytes := tensor.data.length
    tensorFingerprint := tensorFingerprint }

/-! ## What an arena lists -/

/-- What the manifests `μ` of an arena tell of its items. -/
structure Catalogue (ι β μ : Type) where
  kind : Bindable ι β
  manifest : ι → Result μ
  representationId : μ → RepresentationId
  observationIds : μ → List ObservationId
  /-- The binding that a manifest tells for some sources. -/
  binding : μ → List SourceId → β

def NumericFeatureBuffer.catalogue [ThirdParty] :
    Catalogue NumericFeatureBuffer NumericFeatureBufferBinding NumericFeatureBufferManifest where
  kind := NumericFeatureBuffer.bindable
  manifest := (·.manifest)
  representationId := (·.representationId)
  observationIds := (·.observationIds)
  binding := fun manifest sourceIds =>
    { featureSetId := manifest.featureSetId
      representationId := manifest.representationId
      sourceIds := sourceIds
      rowCount := manifest.rowCount
      featureCount := manifest.featureCount
      bufferFingerprint := manifest.bufferFingerprint }

def NdTensor.catalogue [ThirdParty] : Catalogue NdTensor NdTensorBinding NdTensorManifest where
  kind := NdTensor.bindable
  manifest := (·.manifest)
  representationId := (·.representationId)
  observationIds := (·.observationIds)
  binding := fun manifest sourceIds =>
    { tensorId := manifest.tensorId
      representationId := manifest.representationId
      container := manifest.container
      dtype := manifest.dtype
      sourceIds := sourceIds
      shape := manifest.shape
      rowCount := manifest.rowCount
      tensorFingerprint := manifest.tensorFingerprint }

namespace BindingArena

variable {ι β μ : Type}

/-- `manifests`. -/
def manifests (arena : BindingArena ι β) (catalogue : Catalogue ι β μ) : Result (List μ) :=
  arena.items.toList.mapM fun entry => catalogue.manifest entry.2

/-- `bindings_for_data_handle`. -/
def bindingsForDataHandle (arena : BindingArena ι β) (kind : Bindable ι β) (dataHandle : Nat) :
    Result (List β) := do
  let bindings ← require arena.dataBindings[dataHandle]?
    (.validation s!"data handle `{dataHandle}` has no {kind.kind} bindings")
  pure (bindings.toList.map Prod.snd)

end BindingArena

namespace ProviderArenas

variable [ThirdParty] (arenas : ProviderArenas)

/-- `feature_buffer_manifests`. -/
def featureBufferManifests : Result (List NumericFeatureBufferManifest) :=
  arenas.features.manifests NumericFeatureBuffer.catalogue

/-- `nd_tensor_manifests`. -/
def ndTensorManifests : Result (List NdTensorManifest) :=
  arenas.ndTensors.manifests NdTensor.catalogue

/-- The bindings of a live data handle. -/
def dataBindings {ι β : Type} (arena : BindingArena ι β) (kind : Bindable ι β)
    (dataHandle : Nat) : Result (List β) := do
  rejectIf (arenas.handles.records[dataHandle]?).isNone (.unknownHandle "data" dataHandle)
  arena.bindingsForDataHandle kind dataHandle

/-- `data_feature_buffer_bindings`. -/
def dataFeatureBufferBindings (dataHandle : Nat) : Result (List NumericFeatureBufferBinding) :=
  arenas.dataBindings arenas.features NumericFeatureBuffer.bindable dataHandle

/-- `data_nd_tensor_bindings`. -/
def dataNdTensorBindings (dataHandle : Nat) : Result (List NdTensorBinding) :=
  arenas.dataBindings arenas.ndTensors NdTensor.bindable dataHandle

end ProviderArenas

/-! ## What the manifests tell -/

namespace Catalogue

variable {ι β μ : Type} (catalogue : Catalogue ι β μ)

/-- The binding that a manifest tells for the relations of a handle, if any. -/
def listed (representationId : RepresentationId) (relations : CoordinatorRelationSet)
    (manifest : μ) : Option β :=
  if catalogue.representationId manifest != representationId then none
  else (coverage ((catalogue.observationIds manifest).contains ·) relations).map
    (catalogue.binding manifest)

/-- What the manifests tell of the bindings of a data handle. -/
def told (handles : CoordinatorHandleArena) (manifests : List μ) (dataHandle : Nat) :
    Result (List β) :=
  match handles.records[dataHandle]?, handles.dataRelations[dataHandle]? with
  | none, _ => .error (.unknownHandle "data" dataHandle)
  | some _, none =>
    .error (.validation s!"data handle `{dataHandle}` has no {catalogue.kind.kind} bindings")
  | some record, some relations =>
    .ok (manifests.filterMap (catalogue.listed record.outputRepresentation relations))

/-- The manifest of an item tells what its binding says. -/
structure Describes (item : ι) (manifest : μ) : Prop where
  made : catalogue.manifest item = .ok manifest
  representationId : catalogue.representationId manifest = catalogue.kind.representationId item
  observationIds : ∀ o, catalogue.kind.containsObservation item o =
    (catalogue.observationIds manifest).contains o
  binding : ∀ sourceIds, catalogue.kind.bindingForSources item sourceIds =
    .ok (catalogue.binding manifest sourceIds)

/-- Every item has a manifest. -/
def Complete (items : BTreeMap String ι) : Prop :=
  ∀ (id : String) (item : ι), items[id]? = some item →
    ∃ manifest, catalogue.Describes item manifest

/-- The manifests are those of the items, in the order of the keys. -/
def Lists (items : BTreeMap String ι) (manifests : List μ) : Prop :=
  List.Forall₂ (fun entry manifest => items[entry.1]? = some entry.2 ∧
    catalogue.Describes entry.2 manifest) items.toList manifests

variable {catalogue}

/-- The binding of an item is what its manifest tells. -/
theorem Describes.bindItem {item : ι} {manifest : μ} (h : catalogue.Describes item manifest)
    (relations : CoordinatorRelationSet) (representationId : RepresentationId) :
    BindingArena.bindItem catalogue.kind relations representationId item =
      .ok (catalogue.listed representationId relations manifest) := by
  unfold BindingArena.bindItem listed
  rw [← h.representationId, funext h.observationIds]
  split
  · rfl
  · cases coverage ((catalogue.observationIds manifest).contains ·) relations with
    | none => rfl
    | some sources =>
      show some <$> catalogue.kind.bindingForSources item sources = _
      rw [h.binding]
      rfl

variable {arena : BindingArena ι β}

theorem Complete.exists_manifests (h : catalogue.Complete arena.items) :
    ∃ manifests, arena.manifests catalogue = .ok manifests ∧
      catalogue.Lists arena.items manifests := by
  have hentry : ∀ entry ∈ arena.items.toList, ∃ manifest,
      arena.items[entry.1]? = some entry.2 ∧ catalogue.Describes entry.2 manifest := by
    intro entry hentry
    have hget := Std.ExtTreeMap.mem_toList_iff_getElem?_eq_some.mp hentry
    obtain ⟨manifest, hdescribes⟩ := h entry.1 entry.2 hget
    exact ⟨manifest, hget, hdescribes⟩
  obtain ⟨manifests, hall⟩ := exists_forall₂ hentry
  exact ⟨manifests, mapM_eq_ok.mpr (hall.imp fun _ _ hitem => hitem.2.made), hall⟩

/-- Binding relations yields what the manifests tell, in their order. -/
theorem bindings_eq {manifests : List μ}
    (hall : catalogue.Lists arena.items manifests)
    {relations : CoordinatorRelationSet} {representationId : RepresentationId} {bindings : List β}
    (h : arena.bindingsForRelations catalogue.kind relations representationId = .ok bindings) :
    bindings = manifests.filterMap (catalogue.listed representationId relations) := by
  simp only [BindingArena.bindingsForRelations, bind_eq_ok, exists_unit,
    mapM_eq_ok, pure_eq_ok] at h
  obtain ⟨-, bound, hbound, rfl⟩ := h
  unfold Lists at hall
  generalize arena.items.toList = entries at hall hbound
  have hmap : bound = manifests.map (catalogue.listed representationId relations) := by
    induction hall generalizing bound with
    | nil =>
      cases hbound
      rfl
    | cons hitem _ ih =>
      cases hbound with
      | cons hbind hrest =>
        rw [hitem.2.bindItem] at hbind
        cases hbind
        rw [List.map_cons, ← ih _ hrest]
  rw [hmap, List.filterMap_map]
  rfl

section Handles

variable {manifests : List μ} {handles : CoordinatorHandleArena}

/-- A binding that a manifest tells is of the item with the manifest. -/
theorem Describes.itemId {id : String} {item : ι} {manifest : μ}
    (h : catalogue.Describes item manifest)
    (hlawful : BindingArena.Lawful catalogue.kind arena.items)
    (hitem : arena.items[id]? = some item) {representationId : RepresentationId}
    {relations : CoordinatorRelationSet} {binding : β}
    (hlisted : catalogue.listed representationId relations manifest = some binding) :
    catalogue.kind.itemId binding = id := by
  unfold listed at hlisted
  split at hlisted
  · cases hlisted
  · obtain ⟨sources, -, rfl⟩ := Option.map_eq_some_iff.mp hlisted
    obtain ⟨_, hbinding, hid, -⟩ := hlawful id item sources hitem
    rw [h.binding] at hbinding
    cases hbinding
    exact hid

/-- The manifests are in the order of the keys. -/
theorem map_eq_keys {name : μ → String}
    (hname : ∀ (id : String) (item : ι) (manifest : μ), arena.items[id]? = some item →
      catalogue.manifest item = .ok manifest → name manifest = id)
    (hall : catalogue.Lists arena.items manifests) : manifests.map name = arena.items.keys := by
  rw [← Std.ExtTreeMap.map_fst_toList_eq_keys]
  unfold Lists at hall
  generalize arena.items.toList = entries at hall
  induction hall with
  | nil => rfl
  | cons hitem _ ih =>
    obtain ⟨hget, hdescribes⟩ := hitem
    rw [List.map_cons, List.map_cons, ih, hname _ _ _ hget hdescribes.made]

/-- The bindings that the manifests tell are in the order of the keys. -/
theorem itemIds_sublist (hlawful : BindingArena.Lawful catalogue.kind arena.items)
    (hall : catalogue.Lists arena.items manifests)
    (representationId : RepresentationId) (relations : CoordinatorRelationSet) :
    ((manifests.filterMap (catalogue.listed representationId relations)).map
      catalogue.kind.itemId).Sublist arena.items.keys := by
  rw [← Std.ExtTreeMap.map_fst_toList_eq_keys]
  unfold Lists at hall
  generalize arena.items.toList = entries at hall
  induction hall with
  | nil => exact List.Sublist.slnil
  | @cons entry manifest _ _ hitem _ ih =>
    obtain ⟨hget, hdescribes⟩ := hitem
    cases hlisted : catalogue.listed representationId relations manifest with
    -- An item that is not bound drops its key.
    | none =>
      rw [List.filterMap_cons_none hlisted]
      exact ih.cons _
    | some binding =>
      rw [List.filterMap_cons_some hlisted, List.map_cons,
        hdescribes.itemId hlawful hget hlisted]
      exact ih.cons_cons _

/-- A live data handle with relations lists what the manifests tell. -/
theorem bindingsForDataHandle_eq (hbound : arena.Bound catalogue.kind handles)
    (hall : catalogue.Lists arena.items manifests)
    {dataHandle : Nat} {record : CoordinatorDataHandleRecord} {relations : CoordinatorRelationSet}
    (hrecord : handles.records[dataHandle]? = some record)
    (hrelations : handles.dataRelations[dataHandle]? = some relations) :
    arena.bindingsForDataHandle catalogue.kind dataHandle =
      .ok (manifests.filterMap (catalogue.listed record.outputRepresentation relations)) := by
  obtain ⟨bindings, hbindings, hget⟩ :=
    hbound.bindings dataHandle record relations hrecord hrelations
  have hids := itemIds_sublist hbound.lawful hall record.outputRepresentation relations
  rw [← bindings_eq hall hbindings] at hids ⊢
  -- The map of the bindings lists them by id, and they are in this order already.
  have hsorted := List.pairwise_map.mp (Std.ExtTreeMap.ordered_keys.sublist hids)
  have hlist : (BindingArena.bindingMap catalogue.kind bindings).toList =
      bindings.map fun binding => (catalogue.kind.itemId binding, binding) :=
    BTreeMap.toList_collect (List.pairwise_map.mpr hsorted)
  refine bind_eq_ok.mpr ⟨_, require_eq_ok.mpr hget, ?_⟩
  rw [hlist, List.map_map]
  exact congrArg Except.ok (List.map_id _)

variable (catalogue) in
/-- The bindings of any data handle are what the manifests tell. -/
theorem dataBindings_eq [ThirdParty] {arenas : ProviderArenas}
    (hbound : arena.Bound catalogue.kind arenas.handles)
    (hall : catalogue.Lists arena.items manifests) (dataHandle : Nat) :
    arenas.dataBindings arena catalogue.kind dataHandle =
      catalogue.told arenas.handles manifests dataHandle := by
  unfold ProviderArenas.dataBindings told
  cases hrecord : arenas.handles.records[dataHandle]? with
  | none => rfl
  | some record =>
    cases hrelations : arenas.handles.dataRelations[dataHandle]? with
    | some relations => exact bindingsForDataHandle_eq hbound hall hrecord hrelations
    -- Without relations the handle was never bound.
    | none =>
      have hnot : dataHandle ∉ arena.dataBindings := fun hmem => by
        obtain ⟨relations, hget⟩ :=
          BTreeMap.mem_iff_exists_getElem?.mp ((hbound.keys _).mp hmem)
        rw [hrelations] at hget
        cases hget
      show arena.bindingsForDataHandle catalogue.kind dataHandle = _
      rw [BindingArena.bindingsForDataHandle, Std.ExtTreeMap.getElem?_eq_none hnot]
      rfl

end Handles

end Catalogue

/-! ## Providers -/

section Providers

variable [ThirdParty]

theorem NumericFeatureBufferStore.Checked.complete {buffers : BTreeMap String NumericFeatureBuffer}
    (h : Checked buffers) : NumericFeatureBuffer.catalogue.Complete buffers := by
  intro id buffer hget
  obtain ⟨hshaped, -⟩ := h id buffer hget
  have hprint : buffer.fingerprint = .ok buffer.absorbed.finalizeHex :=
    bind_eq_ok.mpr ⟨(), NumericFeatureBuffer.validate_eq_ok.mpr hshaped, rfl⟩
  refine ⟨_, bind_eq_ok.mpr ⟨_, hprint, rfl⟩, rfl, fun o => ?_,
    fun sources => bind_eq_ok.mpr ⟨_, hprint, rfl⟩⟩
  exact Bool.eq_iff_iff.mpr (hshaped.containsObservation.trans List.contains_iff_mem.symm)

theorem NdTensorStore.Checked.complete {tensors : BTreeMap String NdTensor} (h : Checked tensors) :
    NdTensor.catalogue.Complete tensors := by
  intro id tensor hget
  refine ⟨_, bind_eq_ok.mpr ⟨_, rfl, rfl⟩, rfl, fun o => ?_,
    fun sources => bind_eq_ok.mpr ⟨_, rfl, rfl⟩⟩
  exact Bool.eq_iff_iff.mpr ((h id tensor hget).1.containsObservation.trans
    List.contains_iff_mem.symm)

variable {provider : InMemoryProvider} {envelope : CoordinatorDataPlanEnvelope}
  {featureStore : NumericFeatureBufferStore} {ndTensorStore : NdTensorStore}

/-- The manifests of a provider name what its stores hold, and no call changes them. In every run
that mints fewer than `2 ^ 64 - 1` handles, the bindings of a data handle are those that the
manifests tell for its relations. -/
theorem provider_catalogue (hbuilt : provider.BuiltFrom envelope featureStore ndTensorStore)
    (calls : List ProviderCall)
    (hsize : (provider.arenas.mintedHandles envelope calls).length < 2 ^ 64 - 1) :
    let arenas := provider.arenas.run envelope calls
    ∃ buffers tensors,
      (provider.arenas.featureBufferManifests = .ok buffers ∧
        arenas.featureBufferManifests = .ok buffers ∧
        buffers.map (·.featureSetId) = featureStore.buffers.keys) ∧
      (provider.arenas.ndTensorManifests = .ok tensors ∧
        arenas.ndTensorManifests = .ok tensors ∧
        tensors.map (·.tensorId) = ndTensorStore.tensors.keys) ∧
      ∀ dataHandle,
        arenas.dataFeatureBufferBindings dataHandle =
          NumericFeatureBuffer.catalogue.told arenas.handles buffers dataHandle ∧
        arenas.dataNdTensorBindings dataHandle =
          NdTensor.catalogue.told arenas.handles tensors dataHandle := by
  obtain ⟨hfresh, hfeatures, htensors, rfl, -⟩ := hbuilt.fresh
  obtain ⟨hrun, hitems, hitems'⟩ := hfresh.run hsize
  obtain ⟨buffers, hbuffers, hall⟩ :=
    Catalogue.Complete.exists_manifests hfresh.features.complete
  obtain ⟨tensors, htensors', hall'⟩ :=
    Catalogue.Complete.exists_manifests hfresh.ndTensors.complete
  have hnames : buffers.map (·.featureSetId) = provider.arenas.features.items.keys := by
    refine Catalogue.map_eq_keys (fun id buffer manifest hget hmanifest => ?_) hall
    obtain ⟨_, -, hmade⟩ := bind_eq_ok.mp hmanifest
    cases hmade
    exact (hfresh.features id buffer hget).2
  have hnames' : tensors.map (·.tensorId) = provider.arenas.ndTensors.items.keys := by
    refine Catalogue.map_eq_keys (fun id tensor manifest hget hmanifest => ?_) hall'
    obtain ⟨_, -, hmade⟩ := bind_eq_ok.mp hmanifest
    cases hmade
    exact (hfresh.ndTensors id tensor hget).2
  refine ⟨buffers, tensors, ⟨hbuffers, ?_, hfeatures ▸ hnames⟩,
    ⟨htensors', ?_, htensors ▸ hnames'⟩,
    fun dataHandle => ⟨?_, ?_⟩⟩
  · rw [ProviderArenas.featureBufferManifests, BindingArena.manifests, hitems]
    exact hbuffers
  · rw [ProviderArenas.ndTensorManifests, BindingArena.manifests, hitems']
    exact htensors'
  · exact Catalogue.dataBindings_eq NumericFeatureBuffer.catalogue hrun.features
      (hitems ▸ hall) dataHandle
  · exact Catalogue.dataBindings_eq NdTensor.catalogue hrun.ndTensors
      (hitems' ▸ hall') dataHandle

omit [ThirdParty]

theorem sharedRun_catalogue :
    letI := sharedDigests
    let arenas := sharedProvider.arenas.run sharedEnvelope sharedRun
    ∃ buffers tensors,
      (sharedProvider.arenas.featureBufferManifests = .ok buffers ∧
        arenas.featureBufferManifests = .ok buffers ∧
        buffers.map (·.featureSetId) = sharedFeatureStore.buffers.keys) ∧
      (sharedProvider.arenas.ndTensorManifests = .ok tensors ∧
        arenas.ndTensorManifests = .ok tensors ∧
        tensors.map (·.tensorId) = sharedTensorStore.tensors.keys) ∧
      ∀ dataHandle,
        arenas.dataFeatureBufferBindings dataHandle =
          NumericFeatureBuffer.catalogue.told arenas.handles buffers dataHandle ∧
        arenas.dataNdTensorBindings dataHandle =
          NdTensor.catalogue.told arenas.handles tensors dataHandle := by
  let _ := sharedDigests
  exact provider_catalogue sharedProvider_built sharedRun
    (lt_of_le_of_lt (Machine.length_minted_le _ _) (by decide))

end Providers

end DagMlData
