import DagMlData.ProviderProjections

/-!
# Rows of the external test in the provider

The envelope keeps the samples of an external test apart from training, but rows are looked up by
observation. `cohort_rows_apart`: a row that a training view and a view of the cohort both read
has an observation that both relation sets record, and the rows of the other observations of the
cohort do not influence what a training view reads. `shared_row_read_twice`: a valid envelope can
record one observation in both sets.
-/

namespace DagMlData

open Guard RustText CoordinatorHandleArena

/-! ## Items that differ in rows that nobody may see -/

/-- The buffers differ only in the cells of observations that are not in `Low`. -/
structure NumericFeatureBuffer.AgreesOn (Low : ObservationId → Prop)
    (buffer buffer' : NumericFeatureBuffer) : Prop where
  featureSetId : buffer.featureSetId = buffer'.featureSetId
  representationId : buffer.representationId = buffer'.representationId
  featureNames : buffer.featureNames = buffer'.featureNames
  observationIds : buffer.observationIds = buffer'.observationIds
  cells : ∀ rowIdx o, buffer.observationIds[rowIdx]? = some o → Low o →
    ∀ featureIdx, buffer.cell featureIdx rowIdx = buffer'.cell featureIdx rowIdx

/-- The tensors differ only in the data of observations that are not in `Low`. -/
structure NdTensor.AgreesOn (Low : ObservationId → Prop) (tensor tensor' : NdTensor) : Prop where
  tensorId : tensor.tensorId = tensor'.tensorId
  representationId : tensor.representationId = tensor'.representationId
  container : tensor.container = tensor'.container
  dtype : tensor.dtype = tensor'.dtype
  shape : tensor.shape = tensor'.shape
  observationIds : tensor.observationIds = tensor'.observationIds
  presence : tensor.rowPresence.isSome = tensor'.rowPresence.isSome
  rows : ∀ rowIdx o, tensor.observationIds[rowIdx]? = some o → Low o →
    tensor.rowBytes rowIdx = tensor'.rowBytes rowIdx ∧
      (tensor.rowPresence.map fun flags => flags.getD rowIdx false) =
        tensor'.rowPresence.map fun flags => flags.getD rowIdx false

/-- The same keys, with related items. -/
def ItemsAgree {ι : Type} (R : ι → ι → Prop) (items items' : BTreeMap String ι) : Prop :=
  ∀ id : String, Option.Rel R items[id]? items'[id]?

theorem ItemsAgree.none_or_some {ι : Type} {R : ι → ι → Prop}
    {items items' : BTreeMap String ι}
    (h : ItemsAgree R items items') (id : String) :
    (items[id]? = none ∧ items'[id]? = none) ∨
      ∃ item item', items[id]? = some item ∧ items'[id]? = some item' ∧ R item item' := by
  have hid := h id
  generalize items[id]? = found at hid ⊢
  generalize items'[id]? = found' at hid ⊢
  cases hid with
  | none => exact .inl ⟨rfl, rfl⟩
  | some hrel => exact .inr ⟨_, _, rfl, rfl, hrel⟩

variable {Low : ObservationId → Prop}

theorem NumericFeatureBuffer.AgreesOn.projectRelations {buffer buffer' : NumericFeatureBuffer}
    (h : buffer.AgreesOn Low buffer') (hshaped : buffer.Shaped) (hshaped' : buffer'.Shaped)
    {relations : CoordinatorRelationSet} (hlow : ∀ r ∈ relations.records, Low r.observationId)
    (sourceId : Option SourceId) (columns : Option (List String)) :
    buffer.projectRelations relations sourceId columns =
      buffer'.projectRelations relations sourceId columns := by
  have hselected : buffer.selectedIndices columns = buffer'.selectedIndices columns := by
    unfold selectedIndices
    have hvalid : buffer.validate = .ok () := validate_eq_ok.mpr hshaped
    have hvalid' : buffer'.validate = .ok () := validate_eq_ok.mpr hshaped'
    rw [hvalid, hvalid', h.featureSetId, h.featureNames]
  unfold NumericFeatureBuffer.projectRelations
  rw [hselected, h.featureSetId, h.representationId, h.featureNames]
  refine congrArg _ (funext fun _ => congrArg _ (funext fun selected => ?_))
  refine congrArg (· >>= _) (mapM_congr fun r hr => ?_)
  rw [hshaped.index, hshaped'.index, h.observationIds]
  cases hrow : (rowIndex buffer'.observationIds)[r.observationId]? with
  | none => rfl
  | some rowIdx =>
    have hget : buffer'.observationIds[rowIdx]? = some r.observationId :=
      (BTreeMap.getElem?_collect_zipIdx hshaped'.observationsNodup).mp hrow
    have hcells := h.cells rowIdx r.observationId (h.observationIds ▸ hget)
      (hlow r (List.mem_of_mem_filter hr))
    refine congrArg Except.ok (List.map_congr_left fun featureIdx _ => ?_)
    rw [hcells featureIdx]

theorem NdTensor.AgreesOn.projectRelations {tensor tensor' : NdTensor}
    (h : tensor.AgreesOn Low tensor') (hbuilt : tensor.Built) (hbuilt' : tensor'.Built)
    {relations : CoordinatorRelationSet} (hlow : ∀ r ∈ relations.records, Low r.observationId)
    (sourceId : Option SourceId) :
    tensor.projectRelations relations sourceId = tensor'.projectRelations relations sourceId := by
  have hindex : tensor.rowIndexByObservation = tensor'.rowIndexByObservation := by
    rw [hbuilt.index, hbuilt'.index, h.observationIds]
  unfold NdTensor.projectRelations
  rw [hindex, h.tensorId]
  refine congrArg _ (funext fun _ => ?_)
  refine bind_congr_ok fun rows hrows => ?_
  -- Every row that the block takes is of an observation in `Low`.
  have hsame : ∀ rowIdx ∈ rows, tensor.rowBytes rowIdx = tensor'.rowBytes rowIdx ∧
      (tensor.rowPresence.map fun flags => flags.getD rowIdx false) =
        tensor'.rowPresence.map fun flags => flags.getD rowIdx false := by
    intro rowIdx hmem
    obtain ⟨r, hr, hrow⟩ := exists_left_of_forall₂ (mapM_eq_ok.mp hrows) hmem
    rw [require_eq_ok, hbuilt'.index] at hrow
    have hget := (BTreeMap.getElem?_collect_zipIdx hbuilt'.observationsNodup).mp hrow
    exact h.rows rowIdx r.observationId (h.observationIds ▸ hget)
      (hlow r (List.mem_of_mem_filter hr))
  have hpresence : (tensor.rowPresence.map fun flags => rows.map fun i => flags.getD i false) =
      tensor'.rowPresence.map fun flags => rows.map fun i => flags.getD i false := by
    have hsome := h.presence
    cases hp : tensor.rowPresence with
    | none =>
      rw [hp] at hsome
      cases hp' : tensor'.rowPresence with
      | none => rfl
      | some flags' => rw [hp'] at hsome; cases hsome
    | some flags =>
      rw [hp] at hsome
      cases hp' : tensor'.rowPresence with
      | none => rw [hp'] at hsome; cases hsome
      | some flags' =>
        refine congrArg some (List.map_congr_left fun rowIdx hmem => ?_)
        have hflag := (hsame rowIdx hmem).2
        rw [hp, hp'] at hflag
        exact Option.some.inj hflag
  refine congrArg Except.ok ?_
  rw [h.representationId, h.container, h.dtype, h.shape, hpresence,
    List.flatMap_congr fun rowIdx hmem => (hsame rowIdx hmem).1]

/-! ## Arenas with such items -/

namespace BindingArena

variable {ι β : Type} {kind : Bindable ι β} {arena arena' : BindingArena ι β}

/-- Binding reads the same of both items. -/
def BindAlike (kind : Bindable ι β) (item item' : ι) : Prop :=
  kind.representationId item = kind.representationId item' ∧
    kind.containsObservation item = kind.containsObservation item'

/-- The arenas bind the items of one key to the same sources. -/
structure Alike (kind : Bindable ι β) (arena arena' : BindingArena ι β) : Prop where
  lawful : Lawful kind arena.items
  lawful' : Lawful kind arena'.items
  items : ItemsAgree (BindAlike kind) arena.items arena'.items
  sources : ∀ dataHandle id, (arena.binding? dataHandle id).map kind.sourceIds =
    (arena'.binding? dataHandle id).map kind.sourceIds

theorem Alike.getElem?_bindingMap (h : Alike kind arena arena')
    {relations : CoordinatorRelationSet} {representationId : RepresentationId}
    {bindings bindings' : List β}
    (hbindings : arena.bindingsForRelations kind relations representationId = .ok bindings)
    (hbindings' : arena'.bindingsForRelations kind relations representationId = .ok bindings')
    (id : String) : ((bindingMap kind bindings)[id]?).map kind.sourceIds =
      ((bindingMap kind bindings')[id]?).map kind.sourceIds := by
  ext sources
  simp only [Option.map_eq_some_iff, BindingArena.getElem?_bindingMap h.lawful hbindings,
    BindingArena.getElem?_bindingMap h.lawful' hbindings']
  rcases h.items.none_or_some id with ⟨hget, hget'⟩ | ⟨item, item', hget,
    hget', hrep, hcontains⟩
  · simp [hget, hget']
  · simp only [hget, hget', Option.some.injEq, exists_eq_left']
    constructor
    · rintro ⟨binding, hbinds, rfl⟩
      exact hbinds.alike h.lawful h.lawful' hget hget' hrep hcontains
    · rintro ⟨binding, hbinds, rfl⟩
      exact hbinds.alike h.lawful' h.lawful hget' hget hrep.symm hcontains.symm

theorem binding?_insert (bindings : BTreeMap String β) (h k : Nat) (id : String) :
    binding? { arena with dataBindings := arena.dataBindings.insert h bindings } k id =
      if k = h then bindings[id]? else arena.binding? k id := by
  unfold binding?
  rw [getElem?_insert_eq]
  split
  · rfl
  · rfl

theorem binding?_erase (h k : Nat) (id : String) :
    binding? { arena with dataBindings := arena.dataBindings.erase h } k id =
      if k = h then none else arena.binding? k id := by
  unfold binding?
  by_cases hk : k = h
  · simp [hk]
  · rw [if_neg hk, BTreeMap.getElem?_erase_of_ne (Ne.symm hk)]

/-- Binding fails in both arenas with one error, or in none, and keeps them alike. -/
theorem Alike.bindDataHandle (h : Alike kind arena arena') (dataHandle : Nat)
    (relations : CoordinatorRelationSet) (representationId : RepresentationId) :
    (∃ e, arena.bindDataHandle kind dataHandle relations representationId = .error e ∧
      arena'.bindDataHandle kind dataHandle relations representationId = .error e) ∨
    ∃ after after', arena.bindDataHandle kind dataHandle relations representationId =
      .ok after ∧
      arena'.bindDataHandle kind dataHandle relations representationId = .ok after' ∧
      Alike kind after after' ∧ after.items = arena.items ∧ after'.items = arena'.items := by
  rcases ok_or_error relations.validate with hvalid | ⟨e, he⟩
  · obtain ⟨bindings, hbindings⟩ := exists_bindings h.lawful hvalid representationId
    obtain ⟨bindings', hbindings'⟩ := exists_bindings h.lawful' hvalid representationId
    refine .inr ⟨_, _, bind_eq_ok.mpr ⟨bindings, hbindings, rfl⟩,
      bind_eq_ok.mpr ⟨bindings', hbindings', rfl⟩,
        ⟨h.lawful, h.lawful', h.items, ?_⟩, rfl, rfl⟩
    intro k id
    rw [binding?_insert, binding?_insert]
    split
    · exact h.getElem?_bindingMap hbindings hbindings' id
    · exact h.sources k id
  · refine .inl ⟨e, ?_, ?_⟩
    · rw [BindingArena.bindDataHandle, bindingsForRelations, he]
      rfl
    · rw [BindingArena.bindDataHandle, bindingsForRelations, he]
      rfl

theorem Alike.releaseDataHandle (h : Alike kind arena arena') (dataHandle : Nat) :
    Alike kind (arena.releaseDataHandle dataHandle).2 (arena'.releaseDataHandle dataHandle).2 := by
  refine ⟨h.lawful, h.lawful', h.items, fun k id => ?_⟩
  show (binding? { arena with dataBindings := arena.dataBindings.erase dataHandle } k id).map _ =
    (binding? { arena' with dataBindings := arena'.dataBindings.erase dataHandle } k id).map _
  rw [binding?_erase, binding?_erase]
  split
  · rfl
  · exact h.sources k id

/-- The same projections are refused. -/
theorem Alike.validateBoundSources (h : Alike kind arena arena') (dataHandle : Nat) (id : String)
    (relations : CoordinatorRelationSet) (sourceId : Option SourceId) :
    arena.validateBoundSources kind dataHandle id relations sourceId =
      arena'.validateBoundSources kind dataHandle id relations sourceId := by
  have hsources := h.sources dataHandle id
  unfold BindingArena.validateBoundSources
  refine congrArg _ (funext fun _ => ?_)
  cases hget : arena.binding? dataHandle id with
  | none =>
    rw [hget] at hsources
    cases hget' : arena'.binding? dataHandle id with
    | none => rfl
    | some binding' => rw [hget'] at hsources; cases hsources
  | some binding =>
    rw [hget] at hsources
    cases hget' : arena'.binding? dataHandle id with
    | none => rw [hget'] at hsources; cases hsources
    | some binding' =>
      rw [hget'] at hsources
      have hsame : kind.sourceIds binding = kind.sourceIds binding' := Option.some.inj hsources
      show (requiredSources kind dataHandle id relations sourceId >>= fun required =>
        forM required fun s => rejectIf (!(kind.sourceIds binding).contains s) _) = _
      rw [hsame]
      rfl

end BindingArena

/-! ## Providers with such stores -/

namespace ProviderArenas

variable [ThirdParty] {arenas arenas' : ProviderArenas} {envelope : CoordinatorDataPlanEnvelope}

/-- The same handles, and items that differ only in rows that are not in `Low`. -/
structure Alike (Low : ObservationId → Prop) (arenas arenas' : ProviderArenas) : Prop where
  handles : arenas.handles = arenas'.handles
  featuresChecked : NumericFeatureBufferStore.Checked arenas.features.items
  featuresChecked' : NumericFeatureBufferStore.Checked arenas'.features.items
  tensorsChecked : NdTensorStore.Checked arenas.ndTensors.items
  tensorsChecked' : NdTensorStore.Checked arenas'.ndTensors.items
  featureItems : ItemsAgree (NumericFeatureBuffer.AgreesOn Low) arenas.features.items
    arenas'.features.items
  tensorItems : ItemsAgree (NdTensor.AgreesOn Low) arenas.ndTensors.items arenas'.ndTensors.items
  features : arenas.features.Alike NumericFeatureBuffer.bindable arenas'.features
  ndTensors : arenas.ndTensors.Alike NdTensor.bindable arenas'.ndTensors

/-- The arenas with other handles, and with bindings that are still alike. -/
theorem Alike.update (h : Alike Low arenas arenas') (handles : CoordinatorHandleArena)
    {features features' : NumericFeatureBufferArena} {ndTensors ndTensors' : NdTensorArena}
    (hfeatures : features.Alike NumericFeatureBuffer.bindable features')
    (hf : features.items = arenas.features.items) (hf' : features'.items = arenas'.features.items)
    (htensors : ndTensors.Alike NdTensor.bindable ndTensors')
    (ht : ndTensors.items = arenas.ndTensors.items)
    (ht' : ndTensors'.items = arenas'.ndTensors.items) :
    Alike Low ⟨handles, features, ndTensors⟩ ⟨handles, features', ndTensors'⟩ :=
  { handles := rfl
    featuresChecked := hf ▸ h.featuresChecked
    featuresChecked' := hf' ▸ h.featuresChecked'
    tensorsChecked := ht ▸ h.tensorsChecked
    tensorsChecked' := ht' ▸ h.tensorsChecked'
    featureItems := hf ▸ hf' ▸ h.featureItems
    tensorItems := ht ▸ ht' ▸ h.tensorItems
    features := hfeatures
    ndTensors := htensors }

theorem Alike.bind (h : Alike Low arenas arenas') (record : CoordinatorDataHandleRecord)
    (relations : CoordinatorRelationSet) :
    (arenas.bind record relations).1 = (arenas'.bind record relations).1 ∧
      Alike Low (arenas.bind record relations).2 (arenas'.bind record relations).2 := by
  unfold ProviderArenas.bind
  rcases h.features.bindDataHandle record.handle.handle relations record.outputRepresentation with
    ⟨e, he, he'⟩ | ⟨features, features', hok, hok', hfeatures, hf, hf'⟩
  · rw [he, he']
    exact ⟨rfl, h⟩
  · rw [hok, hok']
    simp only
    rcases h.ndTensors.bindDataHandle record.handle.handle relations
      record.outputRepresentation with
      ⟨e, he, he'⟩ | ⟨ndTensors, ndTensors', hbound, hbound', htensors, ht, ht'⟩
    · rw [he, he', h.handles]
      exact ⟨rfl, h.update _ hfeatures hf hf' h.ndTensors rfl rfl⟩
    · rw [hbound, hbound', h.handles]
      exact ⟨rfl, h.update _ hfeatures hf hf' htensors ht ht'⟩

theorem Alike.materialize (h : Alike Low arenas arenas')
    (request : CoordinatorDataMaterializationRequest) :
    Alike Low (arenas.materialize envelope request).2 (arenas'.materialize envelope request).2 := by
  unfold ProviderArenas.materialize
  rw [h.handles]
  generalize (CoordinatorHandleArena.materialize envelope request).exec arenas'.handles = made
  obtain ⟨record, handles⟩ := made
  have hhandles := h.update handles h.features rfl rfl h.ndTensors rfl rfl
  cases record with
  | error e => exact hhandles
  | ok record =>
    simp only
    cases (handles.dataIdentity record.handle.handle).toOption with
    | none => exact hhandles
    | some relations =>
      -- The buffers are bound in both or in neither, since both give the same reply.
      obtain ⟨hreply, hbound⟩ := hhandles.bind record relations
      simp only
      split
      · next e after heq =>
        rw [heq] at hreply hbound
        split
        · next e' after' heq' =>
          rw [heq'] at hbound
          exact hbound
        · next after' heq' =>
          rw [heq'] at hreply
          cases hreply
      · next after heq =>
        rw [heq] at hreply hbound
        split
        · next e' after' heq' =>
          rw [heq'] at hreply
          cases hreply
        · next after' heq' =>
          rw [heq'] at hbound
          exact hbound

theorem Alike.step (h : Alike Low arenas arenas') (call : ProviderCall) :
    Alike Low (arenas.step envelope call).2 (arenas'.step envelope call).2 := by
  cases call with
  | materialize request => exact h.materialize request
  | makeView dataHandle view =>
    show Alike Low (arenas.makeView dataHandle view).2 (arenas'.makeView dataHandle view).2
    unfold ProviderArenas.makeView
    rw [h.handles]
    exact h.update _ h.features rfl rfl h.ndTensors rfl rfl
  | release handle =>
    show Alike Low (arenas.release handle).2 (arenas'.release handle).2
    unfold ProviderArenas.release
    rw [h.handles]
    exact h.update _ (h.features.releaseDataHandle handle) rfl rfl
      (h.ndTensors.releaseDataHandle handle) rfl rfl

theorem Alike.run (h : Alike Low arenas arenas') (calls : List ProviderCall) :
    Alike Low (arenas.run envelope calls) (arenas'.run envelope calls) :=
  Machine.run_relates (Alike Low) h fun _ _ call _ h => h.step call

/-- A view whose relations are all in `Low` reads the same in both. -/
theorem Alike.featureBlockFiltered (h : Alike Low arenas arenas') {viewHandle : Nat}
    (hlow : ∀ relations, arenas.handles.viewRelations[viewHandle]? = some relations →
      ∀ r ∈ relations.records, Low r.observationId)
    (featureSetId : String) (sourceId : Option SourceId) (columns : Option (List String)) :
    arenas.featureBlockFiltered viewHandle featureSetId sourceId columns =
      arenas'.featureBlockFiltered viewHandle featureSetId sourceId columns := by
  have hscope : arenas.viewScope viewHandle = arenas'.viewScope viewHandle := by
    unfold viewScope
    rw [h.handles]
  unfold ProviderArenas.featureBlockFiltered
  rw [← hscope]
  refine bind_congr_ok fun (view, parent, relations) hread => ?_
  obtain ⟨-, -, hrelations⟩ := viewScope_eq_ok.mp hread
  simp only [NumericFeatureBufferArena.projectBoundRelations]
  rw [h.features.validateBoundSources]
  refine congrArg _ (funext fun _ => ?_)
  rcases h.featureItems.none_or_some featureSetId with
    ⟨hget, hget'⟩ | ⟨buffer, buffer', hget, hget', hagree⟩
  · rw [hget, hget']
  · rw [hget, hget']
    exact hagree.projectRelations (h.featuresChecked _ _ hget).1 (h.featuresChecked' _ _ hget').1
      (hlow relations hrelations) sourceId _

theorem Alike.ndTensorBlock (h : Alike Low arenas arenas') {viewHandle : Nat}
    (hlow : ∀ relations, arenas.handles.viewRelations[viewHandle]? = some relations →
      ∀ r ∈ relations.records, Low r.observationId)
    (tensorId : String) (sourceId : Option SourceId) :
    arenas.ndTensorBlock viewHandle tensorId sourceId =
      arenas'.ndTensorBlock viewHandle tensorId sourceId := by
  have hscope : arenas.viewScope viewHandle = arenas'.viewScope viewHandle := by
    unfold viewScope
    rw [h.handles]
  unfold ProviderArenas.ndTensorBlock
  rw [← hscope]
  refine bind_congr_ok fun (view, parent, relations) hread => ?_
  obtain ⟨-, -, hrelations⟩ := viewScope_eq_ok.mp hread
  simp only [NdTensorArena.projectBoundRelations]
  rw [h.ndTensors.validateBoundSources]
  refine congrArg _ (funext fun _ => ?_)
  rcases h.tensorItems.none_or_some tensorId with
    ⟨hget, hget'⟩ | ⟨tensor, tensor', hget, hget', hagree⟩
  · rw [hget, hget']
  · rw [hget, hget']
    exact hagree.projectRelations (h.tensorsChecked _ _ hget).1 (h.tensorsChecked' _ _ hget').1
      (hlow relations hrelations) sourceId

end ProviderArenas

/-! ## Training and the external test -/

/-- A record of the relations is of the observation. -/
def CoordinatorRelationSet.Records (relations : CoordinatorRelationSet)
    (o : ObservationId) : Prop :=
  ∃ r ∈ relations.records, r.observationId = o

section Providers

variable [ThirdParty]

namespace ProviderArenas

variable (envelope : CoordinatorDataPlanEnvelope) (arenas : ProviderArenas)

/-- The request that the parent of the view was materialized from has no cohort and is in no
prediction phase. -/
def TrainingView (calls : List ProviderCall) (viewHandle : Nat) : Prop :=
  ∃ request, (watchedRun arenas.handles
    (calls.map (·.onHandles envelope))).2.views[viewHandle]? =
    some request ∧ request.IsTraining

/-- The parent of the view was materialized from the cohort. -/
def CohortView (calls : List ProviderCall) (viewHandle : Nat) : Prop :=
  ∃ request, (watchedRun arenas.handles
    (calls.map (·.onHandles envelope))).2.views[viewHandle]? =
    some request ∧ ¬ request.IsTraining

/-- The view reads the row of the observation in the feature buffer. -/
def ReadsFeatureRow (viewHandle : Nat) (featureSetId : String) (o : ObservationId) : Prop :=
  ∃ sourceId columns block,
    arenas.featureBlockFiltered viewHandle featureSetId sourceId columns = .ok block ∧
      o ∈ block.observationIds

/-- The view reads the row of the observation in the tensor. -/
def ReadsTensorRow (viewHandle : Nat) (tensorId : String) (o : ObservationId) : Prop :=
  ∃ sourceId block, arenas.ndTensorBlock viewHandle tensorId sourceId = .ok block ∧
    o ∈ block.observationIds

variable {envelope} {arenas}

theorem ReadsFeatureRow.records {viewHandle : Nat} {featureSetId : String} {o : ObservationId}
    (h : arenas.ReadsFeatureRow viewHandle featureSetId o) :
    ∃ relations, arenas.handles.viewRelations[viewHandle]? = some relations ∧
      relations.Records o := by
  obtain ⟨sourceId, columns, block, hblock, ho⟩ := h
  obtain ⟨⟨view, parent, relations⟩, hscope, hblock⟩ := bind_eq_ok.mp hblock
  obtain ⟨-, -, hrelations⟩ := viewScope_eq_ok.mp hscope
  obtain ⟨-, _, _, _, _, _, _, _, hprojects⟩ :=
    NumericFeatureBufferArena.projectBoundRelations_eq_ok.mp hblock
  rw [hprojects.observationIds] at ho
  obtain ⟨r, hr, rfl⟩ := List.mem_map.mp ho
  exact ⟨relations, hrelations, r, List.mem_of_mem_filter hr, rfl⟩

theorem ReadsTensorRow.records (hchecked : NdTensorStore.Checked arenas.ndTensors.items)
    {viewHandle : Nat} {tensorId : String} {o : ObservationId}
    (h : arenas.ReadsTensorRow viewHandle tensorId o) :
    ∃ relations, arenas.handles.viewRelations[viewHandle]? = some relations ∧
      relations.Records o := by
  obtain ⟨sourceId, block, hblock, ho⟩ := h
  obtain ⟨⟨view, parent, relations⟩, hscope, hblock⟩ := bind_eq_ok.mp hblock
  obtain ⟨-, -, hrelations⟩ := viewScope_eq_ok.mp hscope
  obtain ⟨-, _, _, _, _, _, hprojects⟩ :=
    (NdTensorArena.projectBoundRelations_eq_ok hchecked).mp hblock
  rw [hprojects.observationIds] at ho
  obtain ⟨r, hr, rfl⟩ := List.mem_map.mp ho
  exact ⟨relations, hrelations, r, List.mem_of_mem_filter hr, rfl⟩

end ProviderArenas

omit [ThirdParty] in
/-- An item with the observations of the relations covers all of their sources. -/
theorem exists_coverage {contains : ObservationId → Bool} {relations : CoordinatorRelationSet}
    (hall : ∀ r ∈ relations.records, contains r.observationId = true) :
    ∃ sources, coverage contains relations = some sources := by
  unfold coverage
  split
  · rw [if_pos (List.all_eq_true.mpr hall)]
    exact ⟨_, rfl⟩
  · next hsome =>
    have hcovered : relations.sources.toList.filter (fun sourceId =>
        (relations.records.filter (·.sourceId == some sourceId)).all fun r =>
          contains r.observationId) = relations.sources.toList := by
      refine List.filter_eq_self.mpr fun sourceId _ => List.all_eq_true.mpr fun r hr => ?_
      exact hall r (List.mem_of_mem_filter hr)
    simp only [hcovered]
    rw [if_neg (by simpa using hsome)]
    exact ⟨_, rfl⟩

/-- A view reads its rows of a source in a buffer with all observations of its parent. -/
theorem ProviderArenas.Consistent.readsFeatureRow {arenas : ProviderArenas}
    (h : arenas.Consistent) (hbuffers : NumericFeatureBufferStore.Checked arenas.features.items)
    (htensors : NdTensorStore.Checked arenas.ndTensors.items) {v : Nat}
    {view : CoordinatorDataViewRecord} {parent : CoordinatorDataHandleRecord}
    {relations parentRelations : CoordinatorRelationSet}
    (hscope : arenas.viewScope v = .ok (view, parent, relations)) (hvalid : relations.Valid)
    (hparent : arenas.handles.dataRelations[parent.handle.handle]? = some parentRelations)
    {id : String} {buffer : NumericFeatureBuffer} (hitem : arenas.features.items[id]? = some buffer)
    (hrepresentation : buffer.representationId = parent.outputRepresentation)
    (hcovers : ∀ r ∈ parentRelations.records, r.observationId ∈ buffer.observationIds)
    {r : CoordinatorRelation} (hr : r ∈ relations.records) {s : SourceId}
    (hs : r.sourceId = some s) : arenas.ReadsFeatureRow v id r.observationId := by
  obtain ⟨hview, hrecord, hrelations⟩ := ProviderArenas.viewScope_eq_ok.mp hscope
  have hhandle : parent.handle.handle = view.parentHandle.handle := by
    rw [(h.wellFormed.data_record _ _ hrecord).handle]
  have hshaped := (hbuffers id buffer hitem).1
  have hcontains : ∀ r ∈ parentRelations.records,
      buffer.containsObservation r.observationId = true :=
    fun r hr => hshaped.containsObservation.mpr (hcovers r hr)
  obtain ⟨sources, hcoverage⟩ := exists_coverage hcontains
  obtain ⟨binding, hmade, -, -⟩ := h.features.lawful id buffer sources hitem
  have hbinds : BindingArena.Binds NumericFeatureBuffer.bindable parentRelations
      parent.outputRepresentation buffer binding := ⟨hrepresentation, sources, hcoverage, hmade⟩
  rw [hhandle] at hparent
  have hbinding := (h.features.binding?_eq_some hrecord hparent).mpr ⟨buffer, hitem, hbinds⟩
  obtain ⟨_, parentRelations', _, _, hparent', hsub⟩ :=
    (h.wellFormed.view_record v view relations hview hrelations).parent
  cases hparent.symm.trans hparent'
  have hbound : s ∈ binding.sourceIds := by
    refine (hbinds.mem_sourceIds h.features.lawful hitem).mpr ⟨?_, fun r hr _ => ?_⟩
    · exact CoordinatorRelationSet.mem_sources.mpr ⟨r, hsub r hr, hs⟩
    · exact hshaped.containsObservation.mpr (hcovers r hr)
  have hserves := h.serves hbuffers htensors hscope hvalid
    (CoordinatorRelationSet.mem_sources.mpr ⟨r, hr, hs⟩)
  obtain ⟨_, _, hblocks⟩ := hserves.features id binding (hhandle ▸ hbinding) hbound
  obtain ⟨_, block, _, hblock, hprojects⟩ := hblocks none (by rintro _ ⟨⟩)
  refine ⟨some s, none, block, hblock, ?_⟩
  rw [hprojects.observationIds]
  exact List.mem_map.mpr ⟨r,
    List.mem_filter.mpr ⟨hr, by simp [CoordinatorRelation.inScope, hs]⟩,
    rfl⟩

variable {provider : InMemoryProvider} {envelope : CoordinatorDataPlanEnvelope}
  {featureStore : NumericFeatureBufferStore} {ndTensorStore : NdTensorStore}
  {training : CoordinatorRelationSet} {cohort : PredictCohort}

theorem InMemoryProvider.BuiltFrom.exists_handles
    (h : provider.BuiltFrom envelope featureStore ndTensorStore) :
    ∃ handles, CoordinatorHandleArena.new defaultOwnerController = .ok handles ∧
      provider.arenas =
        ⟨handles, NumericFeatureBufferArena.new featureStore,
          NdTensorArena.new ndTensorStore⟩ := by
  obtain ⟨-, -, hnew⟩ := h
  simp only [newWithTensors, bind_eq_ok, exists_unit, pure_eq_ok] at hnew
  obtain ⟨-, handles, hhandles, rfl⟩ := hnew
  exact ⟨handles, hhandles, rfl⟩

/-- What the views of the handles store, after any calls. -/
theorem InMemoryProvider.BuiltFrom.tracks
    (h : provider.BuiltFrom envelope featureStore ndTensorStore)
    (htraining : envelope.coordinatorRelations = some training)
    (hcohort : envelope.predictCohort = some cohort) (calls : List ProviderCall) :
    (watchedRun provider.arenas.handles (calls.map (·.onHandles envelope))).2.Tracks
      (fun request => request.Reads training cohort)
      (provider.arenas.run envelope calls).handles := by
  obtain ⟨handles, hnew, harenas⟩ := h.exists_handles
  rw [ProviderArenas.run_handles, harenas]
  refine watchedRun_tracks htraining hcohort hnew fun call hcall => ?_
  obtain ⟨providerCall, -, rfl⟩ := List.mem_map.mp hcall
  intro other request heq
  cases providerCall with
  | materialize _ =>
    cases heq
    rfl
  | makeView _ _ => cases heq
  | release _ => cases heq

theorem InMemoryProvider.BuiltFrom.alike {provider' : InMemoryProvider}
    {featureStore' : NumericFeatureBufferStore} {ndTensorStore' : NdTensorStore}
    (h : provider.BuiltFrom envelope featureStore ndTensorStore)
    (h' : provider'.BuiltFrom envelope featureStore' ndTensorStore')
    (hfeatures : ItemsAgree (NumericFeatureBuffer.AgreesOn Low) featureStore.buffers
      featureStore'.buffers)
    (htensors : ItemsAgree (NdTensor.AgreesOn Low) ndTensorStore.tensors ndTensorStore'.tensors) :
    provider.arenas.Alike Low provider'.arenas := by
  obtain ⟨hfresh, -, -, -, -⟩ := h.fresh
  obtain ⟨hfresh', -, -, -, -⟩ := h'.fresh
  obtain ⟨handles, hnew, harenas⟩ := h.exists_handles
  obtain ⟨handles', hnew', harenas'⟩ := h'.exists_handles
  cases hnew.symm.trans hnew'
  have hbuffers := hfresh.features
  have hbuffers' := hfresh'.features
  have hchecked := hfresh.ndTensors
  have hchecked' := hfresh'.ndTensors
  rw [harenas] at hbuffers hchecked ⊢
  rw [harenas'] at hbuffers' hchecked' ⊢
  refine ⟨rfl, hbuffers, hbuffers', hchecked, hchecked', hfeatures, htensors,
    ⟨hbuffers.lawful, hbuffers'.lawful, fun id => ?_, ?_⟩,
    ⟨hchecked.lawful, hchecked'.lawful, fun id => ?_, ?_⟩⟩
  · show Option.Rel _ featureStore.buffers[id]? featureStore'.buffers[id]?
    rcases hfeatures.none_or_some id with ⟨hget, hget'⟩ | ⟨buffer, buffer',
      hget, hget', hagree⟩
    · rw [hget, hget']
      exact .none
    · rw [hget, hget']
      refine .some ⟨hagree.representationId, funext fun o => ?_⟩
      have hindex : buffer.rowIndexByObservation = buffer'.rowIndexByObservation := by
        rw [(hbuffers id buffer hget).1.index, (hbuffers' id buffer' hget').1.index,
          hagree.observationIds]
      show buffer.rowIndexByObservation.contains o = buffer'.rowIndexByObservation.contains o
      rw [hindex]
  · intro dataHandle id
    simp [BindingArena.binding?, NumericFeatureBufferArena.new]
  · show Option.Rel _ ndTensorStore.tensors[id]? ndTensorStore'.tensors[id]?
    rcases htensors.none_or_some id with ⟨hget, hget'⟩ | ⟨tensor, tensor',
      hget, hget', hagree⟩
    · rw [hget, hget']
      exact .none
    · rw [hget, hget']
      refine .some ⟨hagree.representationId, funext fun o => ?_⟩
      have hindex : tensor.rowIndexByObservation = tensor'.rowIndexByObservation := by
        rw [(hchecked id tensor hget).1.index, (hchecked' id tensor' hget').1.index,
          hagree.observationIds]
      show tensor.rowIndexByObservation.contains o = tensor'.rowIndexByObservation.contains o
      rw [hindex]
  · intro dataHandle id
    simp [BindingArena.binding?, NdTensorArena.new]

/-- What a run leaves of the stores. -/
theorem InMemoryProvider.BuiltFrom.run_checked
    (h : provider.BuiltFrom envelope featureStore ndTensorStore) (calls : List ProviderCall) :
    NdTensorStore.Checked (provider.arenas.run envelope calls).ndTensors.items := by
  have hself : provider.arenas.Alike (fun _ => True) provider.arenas := by
    refine h.alike h (fun id => ?_) fun id => ?_
    · cases featureStore.buffers[id]? with
      | none => exact .none
      | some buffer => exact .some ⟨rfl, rfl, rfl, rfl, fun _ _ _ _ _ => rfl⟩
    · cases ndTensorStore.tensors[id]? with
      | none => exact .none
      | some tensor => exact .some ⟨rfl, rfl, rfl, rfl, rfl, rfl, rfl,
          fun _ _ _ _ => ⟨rfl, rfl⟩⟩
  exact (hself.run calls).tensorsChecked

/-- What a view stores is what the request of its parent reads. -/
theorem InMemoryProvider.BuiltFrom.view_reads
    (h : provider.BuiltFrom envelope featureStore ndTensorStore)
    (htraining : envelope.coordinatorRelations = some training)
    (hcohort : envelope.predictCohort = some cohort) {calls : List ProviderCall} {v : Nat}
    {relations : CoordinatorRelationSet}
    (hrelations : (provider.arenas.run envelope calls).handles.viewRelations[v]? =
      some relations) :
    (provider.arenas.TrainingView envelope calls v → ∀ r ∈ relations.records,
      r ∈ training.records) ∧
    (provider.arenas.CohortView envelope calls v → ∀ r ∈ relations.records,
      r ∈ cohort.relations.records) := by
  obtain ⟨request, hrequest, hreads⟩ := (h.tracks htraining hcohort calls).views v relations
    hrelations
  constructor
  · rintro ⟨other, hother, hkind⟩ r hr
    cases hrequest.symm.trans hother
    exact (hreads r hr).1 hkind
  · rintro ⟨other, hother, hkind⟩ r hr
    cases hrequest.symm.trans hother
    exact (hreads r hr).2 hkind

/-- In a provider over an envelope with an external test, a row that a training view and a view of
the cohort read, in any two runs, has an observation that the relations of both record, and what
training views read does not depend on the rows of other observations than those in training. -/
theorem cohort_rows_apart (hbuilt : provider.BuiltFrom envelope featureStore ndTensorStore)
    (hcohort : envelope.predictCohort = some cohort) (hrole : cohort.role = .externalTest) :
    ∃ training, envelope.coordinatorRelations = some training ∧
      (∀ calls calls' v v', provider.arenas.TrainingView envelope calls v →
        provider.arenas.CohortView envelope calls' v' →
        ∀ (id : String) (o : ObservationId),
          ((provider.arenas.run envelope calls).ReadsFeatureRow v id o ∧
              (provider.arenas.run envelope calls').ReadsFeatureRow v' id o ∨
            (provider.arenas.run envelope calls).ReadsTensorRow v id o ∧
              (provider.arenas.run envelope calls').ReadsTensorRow v' id o) →
          training.Records o ∧ cohort.relations.Records o) ∧
      ∀ provider' featureStore' ndTensorStore',
        InMemoryProvider.BuiltFrom provider' envelope featureStore' ndTensorStore' →
        ItemsAgree (NumericFeatureBuffer.AgreesOn training.Records) featureStore.buffers
          featureStore'.buffers →
        ItemsAgree (NdTensor.AgreesOn training.Records) ndTensorStore.tensors
          ndTensorStore'.tensors →
        ∀ calls v, provider.arenas.TrainingView envelope calls v →
          (∀ id sourceId columns,
            (provider.arenas.run envelope calls).featureBlockFiltered v id sourceId columns =
              (provider'.arenas.run envelope calls).featureBlockFiltered v id sourceId columns) ∧
          ∀ id sourceId,
            (provider.arenas.run envelope calls).ndTensorBlock v id sourceId =
              (provider'.arenas.run envelope calls).ndTensorBlock v id sourceId := by
  obtain ⟨-, -, -, -, hvalid⟩ := hbuilt.fresh
  obtain ⟨training, htraining, -⟩ := trainingRelations_apart hvalid hcohort hrole
  refine ⟨training, htraining, ?_, ?_⟩
  · intro calls calls' v v' hview hview' id o hreads
    -- Both views have stored relations with a record of the observation.
    obtain ⟨⟨relations, hrelations, r, hr, ho⟩, relations', hrelations', r', hr', ho'⟩ :
        (∃ relations, (provider.arenas.run envelope calls).handles.viewRelations[v]? =
          some relations ∧ relations.Records o) ∧
        ∃ relations', (provider.arenas.run envelope calls').handles.viewRelations[v']? =
          some relations' ∧ relations'.Records o := by
      rcases hreads with ⟨hread, hread'⟩ | ⟨hread, hread'⟩
      · exact ⟨hread.records, hread'.records⟩
      · exact ⟨hread.records (hbuilt.run_checked calls),
          hread'.records (hbuilt.run_checked calls')⟩
    exact ⟨⟨r, (hbuilt.view_reads htraining hcohort hrelations).1 hview r hr, ho⟩,
      r', (hbuilt.view_reads htraining hcohort hrelations').2 hview' r' hr', ho'⟩
  · intro provider' featureStore' ndTensorStore' hbuilt' hfeatures htensors calls v hview
    -- A training view stores training rows only, and on those the two providers agree.
    have halike : ProviderArenas.Alike training.Records
        (provider.arenas.run envelope calls) (provider'.arenas.run envelope calls) :=
      (hbuilt.alike hbuilt' hfeatures htensors).run calls
    have hlow : ∀ relations,
        (provider.arenas.run envelope calls).handles.viewRelations[v]? = some relations →
        ∀ r ∈ relations.records, training.Records r.observationId :=
      fun relations hrelations r hr =>
        ⟨r, (hbuilt.view_reads htraining hcohort hrelations).1 hview r hr, rfl⟩
    exact ⟨halike.featureBlockFiltered hlow, halike.ndTensorBlock hlow⟩

omit [ThirdParty]

/-! ## A row that is read twice -/

/-- A view of the training handle, and one of a handle of the external test. -/
def sharedPairRun : List ProviderCall :=
  sharedViewedRun ++ [.materialize cohortRequest, .makeView 3 plainView]

def sharedPair : ProviderArenas :=
  @ProviderArenas.run sharedDigests sharedEnvelope sharedProvider.arenas sharedPairRun

/-- The handles of the four calls. -/
theorem sharedPair_handles :
    letI := sharedDigests
    sharedPair.handles = ((sharedViewed.handles.advance.insertData
      (dataRecord sharedEnvelope cohortRequest (some sharedCohort.relations)
        ⟨sharedViewed.handles.nextHandle, .data, sharedViewed.handles.ownerController⟩)
      (some sharedCohort.relations)).step (.makeView 3 plainView)).2 := by
  let _ := sharedDigests
  have happ : sharedPair = sharedViewed.run sharedEnvelope
      [.materialize cohortRequest, .makeView 3 plainView] := by
    unfold sharedPair sharedViewed sharedPairRun
    exact Machine.run_append ..
  rw [happ, ProviderArenas.run_handles]
  show sharedViewed.handles.run
    [.materialize sharedEnvelope cohortRequest, .makeView 3 plainView] = _
  rw [run, Machine.run_cons, step, exec_materialize, sharedCohort_scope]
  rfl

theorem sharedPair_facts :
    @ProviderArenas.Consistent sharedDigests sharedPair ∧
      NumericFeatureBufferStore.Checked sharedPair.features.items ∧
      NdTensorStore.Checked sharedPair.ndTensors.items ∧
      sharedPair.features.items = sharedFeatureStore.buffers := by
  let _ := sharedDigests
  obtain ⟨hfresh, hstart, -, henvelope, -⟩ := sharedProvider_built.fresh
  have hsize : (sharedProvider.arenas.mintedHandles sharedProvider.envelope sharedPairRun).length <
      2 ^ 64 - 1 := lt_of_le_of_lt (Machine.length_minted_le _ _) (by decide)
  obtain ⟨hrun, hitems, hitems'⟩ := hfresh.run hsize
  rw [henvelope] at hrun hitems hitems'
  unfold sharedPair
  exact ⟨hrun, hitems.symm ▸ hfresh.features, hitems'.symm ▸ hfresh.ndTensors,
    hitems.trans hstart⟩

/-- What a look at the two views shows: the observation `o1`, and another one. -/
def ReadsShared (handles : CoordinatorHandleArena) (v : Nat) (other : ObservationId) : Bool :=
  (handles.viewRecords[v]?).any fun view =>
    (handles.records[view.parentHandle.handle]?).any fun parent =>
      parent.outputRepresentation == (.lit "tabular" rfl) &&
      ((handles.dataRelations[parent.handle.handle]?).any fun parentRelations =>
        parentRelations.records.all fun r =>
          [.lit "o1" rfl, .lit "o2" rfl,
            .lit "o9" rfl].contains r.observationId) &&
      (handles.viewRelations[v]?).any fun relations =>
        relations.validate.toOption.isSome &&
        (relations.records.any fun r =>
          r.observationId == (.lit "o1" rfl) && r.sourceId == some nirSource) &&
        relations.records.any fun r => r.observationId == other

theorem sharedPair_reads {v : Nat} {other : ObservationId}
    (h : ReadsShared sharedPair.handles v other = true) :
    @ProviderArenas.ReadsFeatureRow sharedDigests sharedPair v "all" (.lit "o1" rfl) ∧
      ∃ relations, sharedPair.handles.viewRelations[v]? = some relations ∧
        relations.Records other := by
  let _ := sharedDigests
  obtain ⟨hconsistent, hbuffers, htensors, hitems⟩ := sharedPair_facts
  obtain ⟨view, hview, h⟩ := Option.any_eq_true _ _ |>.mp h
  obtain ⟨parent, hparent, h⟩ := Option.any_eq_true _ _ |>.mp h
  obtain ⟨h, hread⟩ := Bool.and_eq_true_iff.mp h
  obtain ⟨hrepresentation, hdata⟩ := Bool.and_eq_true_iff.mp h
  obtain ⟨parentRelations, hparentRelations, hcovers⟩ := Option.any_eq_true _ _ |>.mp hdata
  obtain ⟨relations, hrelations, h⟩ := Option.any_eq_true _ _ |>.mp hread
  obtain ⟨h, hother⟩ := Bool.and_eq_true_iff.mp h
  obtain ⟨hvalid, hshared⟩ := Bool.and_eq_true_iff.mp h
  obtain ⟨_, hvalid⟩ := Option.isSome_iff_exists.mp hvalid
  obtain ⟨r, hr, hboth⟩ := List.any_eq_true.mp hshared
  obtain ⟨hobservation, hsource⟩ := Bool.and_eq_true_iff.mp hboth
  obtain ⟨r', hr', hobservation'⟩ := List.any_eq_true.mp hother
  have hall := sharedFeatureStore_buffer.mpr List.mem_cons_self
  rw [← hitems] at hall
  refine ⟨?_, relations, hrelations, r', hr', beq_iff_eq.mp hobservation'⟩
  rw [← beq_iff_eq.mp hobservation]
  refine hconsistent.readsFeatureRow hbuffers htensors
    (ProviderArenas.viewScope_eq_ok.mpr ⟨hview, hparent, hrelations⟩)
    (CoordinatorRelationSet.validate_eq_ok.mp (toOption_eq_some.mp hvalid)) hparentRelations hall
    (beq_iff_eq.mp hrepresentation).symm (fun r hr => ?_) hr (beq_iff_eq.mp hsource)
  exact List.contains_iff_mem.mp (List.all_eq_true.mp hcovers r hr)

/-- One row of the buffer is read through a view of a training handle and through a view of a
handle of the external test. -/
theorem shared_row_read_twice :
    letI := sharedDigests
    let arenas := sharedProvider.arenas.run sharedEnvelope sharedPairRun
    (sharedProvider.BuiltFrom sharedEnvelope sharedFeatureStore sharedTensorStore ∧
      sharedEnvelope.predictCohort = some sharedCohort ∧ sharedCohort.role = .externalTest) ∧
    sharedProvider.arenas.TrainingView sharedEnvelope sharedPairRun 2 ∧
      sharedProvider.arenas.CohortView sharedEnvelope sharedPairRun 4 ∧
      arenas.ReadsFeatureRow 2 "all" (.lit "o1" rfl) ∧
      arenas.ReadsFeatureRow 4 "all" (.lit "o1" rfl) := by
  let _ := sharedDigests
  have hcohort : sharedEnvelope.predictCohort = some sharedCohort := rfl
  have htraining : sharedEnvelope.coordinatorRelations = some sharedTraining := rfl
  have htracks := sharedProvider_built.tracks htraining hcohort sharedPairRun
  have htrained : ReadsShared sharedPair.handles 2 (.lit "o2" rfl) = true := by
    rw [sharedPair_handles, sharedViewed_handles]
    decide +kernel
  have htested : ReadsShared sharedPair.handles 4 (.lit "o9" rfl) = true := by
    rw [sharedPair_handles, sharedViewed_handles]
    decide +kernel
  obtain ⟨hread, relations, hrelations, r, hr, ho⟩ := sharedPair_reads htrained
  obtain ⟨hread', relations', hrelations', r', hr', ho'⟩ := sharedPair_reads htested
  unfold sharedPair at hread hrelations hread' hrelations'
  obtain ⟨request, hrequest, hreads⟩ := htracks.views 2 relations hrelations
  obtain ⟨request', hrequest', hreads'⟩ := htracks.views 4 relations' hrelations'
  refine ⟨⟨sharedProvider_built, rfl, rfl⟩, ⟨request, hrequest, ?_⟩,
    ⟨request', hrequest', ?_⟩,
    hread, hread'⟩
  · by_contra hkind
    have hmem := (hreads r hr).2 hkind
    have hnone : ∀ r ∈ sharedCohort.relations.records,
      r.observationId ≠ (.lit "o2" rfl) := by
      decide
    exact hnone r hmem ho
  · intro hkind
    have hmem := (hreads' r' hr').1 hkind
    have hnone : ∀ r ∈ sharedTraining.records, r.observationId ≠ (.lit "o9" rfl) := by
      decide
    exact hnone r' hmem ho'

/-- The row that is read twice has an observation that both relation sets record. -/
theorem shared_row_recorded_twice :
    letI := sharedDigests
    ∃ training, sharedEnvelope.coordinatorRelations = some training ∧
      (sharedProvider.arenas.TrainingView sharedEnvelope sharedPairRun 2 →
        sharedProvider.arenas.CohortView sharedEnvelope sharedPairRun 4 →
        (sharedProvider.arenas.run sharedEnvelope sharedPairRun).ReadsFeatureRow 2 "all"
          (.lit "o1" rfl) →
        (sharedProvider.arenas.run sharedEnvelope sharedPairRun).ReadsFeatureRow 4 "all"
          (.lit "o1" rfl) →
        training.Records (.lit "o1" rfl) ∧
          sharedCohort.relations.Records (.lit "o1" rfl)) := by
  let _ := sharedDigests
  have hcohort : sharedEnvelope.predictCohort = some sharedCohort := rfl
  obtain ⟨training, htraining, hrows, -⟩ := cohort_rows_apart sharedProvider_built hcohort rfl
  refine ⟨training, htraining, fun hview hview' hread hread' => ?_⟩
  exact hrows sharedPairRun sharedPairRun 2 4 hview hview' "all" _ (.inl ⟨hread, hread'⟩)

end Providers

end DagMlData
