import DagMlData.ContentFingerprint

/-!
# Bindings of buffers and tensors

A buffer or tensor is bound to a data handle for the sources of the handle whose observations it
has. The two arenas of the source, one for buffers and one for tensors, do this in the same way:
`Bindable` says what they read of a stored item, and each arena is `BindingArena` at its own items.

* `coverage`: the sources that an item is bound for, if it is bound at all.
* `bindingsForRelations`, `bindDataHandle`, `releaseDataHandle`: the bindings of a handle.
* `validateBoundSources`: what a projection checks before it reads the item.
-/

namespace DagMlData

open Guard RustText

structure NumericFeatureBufferBinding where
  featureSetId : String
  representationId : RepresentationId
  sourceIds : List SourceId
  rowCount : Nat
  featureCount : Nat
  bufferFingerprint : String

structure NdTensorBinding where
  tensorId : String
  representationId : RepresentationId
  container : String
  dtype : NdTensorDType
  sourceIds : List SourceId
  shape : List Nat
  rowCount : Nat
  tensorFingerprint : String

/-- What an arena reads of its items `ι` and bindings `β`. -/
structure Bindable (ι β : Type) where
  /-- How the errors call an item. -/
  kind : String
  representationId : ι → RepresentationId
  containsObservation : ι → ObservationId → Bool
  bindingForSources : ι → List SourceId → Result β
  itemId : β → String
  sourceIds : β → List SourceId

/-- `NumericFeatureBuffer::binding_for_sources`. -/
def NumericFeatureBuffer.bindingForSources [ThirdParty] (buffer : NumericFeatureBuffer)
    (sourceIds : List SourceId) : Result NumericFeatureBufferBinding := do
  let bufferFingerprint ← buffer.fingerprint
  pure {
    featureSetId := buffer.featureSetId
    representationId := buffer.representationId
    sourceIds := sourceIds
    rowCount := buffer.rowCount
    featureCount := buffer.featureCount
    bufferFingerprint := bufferFingerprint }

/-- `NdTensor::binding_for_sources`. -/
def NdTensor.bindingForSources [ThirdParty] (tensor : NdTensor) (sourceIds : List SourceId) :
    Result NdTensorBinding := do
  let tensorFingerprint ← tensor.fingerprint
  pure {
    tensorId := tensor.tensorId
    representationId := tensor.representationId
    container := tensor.container
    dtype := tensor.dtype
    sourceIds := sourceIds
    shape := tensor.shape
    rowCount := tensor.shape.headD 0
    tensorFingerprint := tensorFingerprint }

def NumericFeatureBuffer.bindable [ThirdParty] :
    Bindable NumericFeatureBuffer NumericFeatureBufferBinding where
  kind := "feature buffer"
  representationId := (·.representationId)
  containsObservation := (·.containsObservation)
  bindingForSources := (·.bindingForSources)
  itemId := (·.featureSetId)
  sourceIds := (·.sourceIds)

def NdTensor.bindable [ThirdParty] : Bindable NdTensor NdTensorBinding where
  kind := "nd tensor"
  representationId := (·.representationId)
  containsObservation := (·.containsObservation)
  bindingForSources := (·.bindingForSources)
  itemId := (·.tensorId)
  sourceIds := (·.sourceIds)

/-- The sources of the records, once each. -/
def CoordinatorRelationSet.sources (relations : CoordinatorRelationSet) : BTreeSet SourceId :=
  BTreeSet.collect (relations.records.filterMap (·.sourceId))

/-- The sources that an item with these observations is bound for. Without any source in the
relations it must have every observation, and is then bound without a source. -/
def coverage (contains : ObservationId → Bool) (relations : CoordinatorRelationSet) :
    Option (List SourceId) :=
  if relations.sources.isEmpty then
    if relations.records.all fun r => contains r.observationId then some [] else none
  else
    let covered := relations.sources.toList.filter fun sourceId =>
      (relations.records.filter (·.sourceId == some sourceId)).all fun r =>
        contains r.observationId
    if covered.isEmpty then none else some covered

/-- Items with the bindings of each data handle. -/
structure BindingArena (ι β : Type) where
  items : BTreeMap String ι
  dataBindings : BTreeMap Nat (BTreeMap String β)

namespace BindingArena

variable {ι β : Type} (kind : Bindable ι β) (arena : BindingArena ι β)

/-- The binding of one item, if it is bound. -/
def bindItem (relations : CoordinatorRelationSet) (representationId : RepresentationId)
    (item : ι) : Result (Option β) :=
  if kind.representationId item != representationId then .ok none
  else
    match coverage (kind.containsObservation item) relations with
    | some sources => some <$> kind.bindingForSources item sources
    | none => .ok none

/-- `bindings_for_relations`. -/
def bindingsForRelations (relations : CoordinatorRelationSet)
    (representationId : RepresentationId) : Result (List β) := do
  relations.validate
  let bound ← arena.items.toList.mapM fun entry =>
    bindItem kind relations representationId entry.2
  pure (bound.filterMap id)

/-- The bindings by the id of their item. -/
def bindingMap (bindings : List β) : BTreeMap String β :=
  BTreeMap.collect (bindings.map fun binding => (kind.itemId binding, binding))

/-- `bind_data_handle`. -/
def bindDataHandle (dataHandle : Nat) (relations : CoordinatorRelationSet)
    (representationId : RepresentationId) : Result (BindingArena ι β) := do
  let bindings ← arena.bindingsForRelations kind relations representationId
  pure { arena with
    dataBindings := arena.dataBindings.insert dataHandle (bindingMap kind bindings) }

/-- `release_data_handle`. -/
def releaseDataHandle (dataHandle : Nat) : Bool × BindingArena ι β :=
  (arena.dataBindings.contains dataHandle,
    { arena with dataBindings := arena.dataBindings.erase dataHandle })

/-- The binding of an item to a data handle. -/
def binding? (dataHandle : Nat) (id : String) : Option β :=
  arena.dataBindings[dataHandle]?.bind fun bindings => bindings[id]?

/-- The sources that a projection needs, when the scope is in the view. -/
def requiredSources (dataHandle : Nat) (id : String) (relations : CoordinatorRelationSet)
    (sourceId : Option SourceId) : Result (List SourceId) :=
  match sourceId with
  | some sourceId => do
    rejectIf (relations.sources.isEmpty || !relations.sources.contains sourceId)
      (.validation (s!"{kind.kind} `{id}` source `{sourceId}` is not present in view for data " ++
        s!"handle `{dataHandle}`"))
    pure [sourceId]
  | none => pure relations.sources.toList

/-- `validate_bound_sources`. -/
def validateBoundSources (dataHandle : Nat) (id : String) (relations : CoordinatorRelationSet)
    (sourceId : Option SourceId) : Result Unit := do
  relations.validate
  let binding ← require (arena.binding? dataHandle id)
    (.validation s!"{kind.kind} `{id}` is not bound to data handle `{dataHandle}`")
  let required ← requiredSources kind dataHandle id relations sourceId
  forM required fun sourceId =>
    rejectIf (!(kind.sourceIds binding).contains sourceId)
      (.validation (s!"{kind.kind} `{id}` is not bound to source `{sourceId}` for data handle " ++
        s!"`{dataHandle}`"))

end BindingArena

/-! ## The two arenas -/

abbrev NumericFeatureBufferArena := BindingArena NumericFeatureBuffer NumericFeatureBufferBinding

abbrev NdTensorArena := BindingArena NdTensor NdTensorBinding

structure NdTensorStore where
  tensors : BTreeMap String NdTensor

namespace NdTensorStore

/-- The loop body of `from_inputs`. -/
def addInput (tensors : BTreeMap String NdTensor) (input : NdTensorInput) :
    Result (BTreeMap String NdTensor) := do
  let tensor ← NdTensor.fromInput input
  rejectIf (tensors.contains tensor.tensorId)
    (.validation s!"duplicate nd tensor `{tensor.tensorId}`")
  pure (tensors.insert tensor.tensorId tensor)

/-- `from_inputs`. -/
def fromInputs (inputs : List NdTensorInput) : Result NdTensorStore := do
  let tensors ← inputs.foldlM addInput ∅
  pure ⟨tensors⟩

end NdTensorStore

/-- `NumericFeatureBufferArena::new`. -/
def NumericFeatureBufferArena.new (store : NumericFeatureBufferStore) : NumericFeatureBufferArena :=
  ⟨store.buffers, ∅⟩

/-- `NdTensorArena::new`. -/
def NdTensorArena.new (store : NdTensorStore) : NdTensorArena := ⟨store.tensors, ∅⟩

/-- `NumericFeatureBufferArena::project_bound_relations`. -/
def NumericFeatureBufferArena.projectBoundRelations [ThirdParty]
    (arena : NumericFeatureBufferArena) (dataHandle : Nat) (featureSetId : String)
    (relations : CoordinatorRelationSet) (sourceId : Option SourceId)
    (columns : Option (List String)) : Result CoordinatorFeatureBlock := do
  arena.validateBoundSources NumericFeatureBuffer.bindable dataHandle
    featureSetId relations sourceId
  let buffer ← require arena.items[featureSetId]?
    (.validation s!"unknown feature buffer `{featureSetId}`")
  buffer.projectRelations relations sourceId columns

/-- `NdTensorArena::project_bound_relations`. -/
def NdTensorArena.projectBoundRelations [ThirdParty] (arena : NdTensorArena) (dataHandle : Nat)
    (tensorId : String) (relations : CoordinatorRelationSet) (sourceId : Option SourceId) :
    Result NdTensorBlock := do
  arena.validateBoundSources NdTensor.bindable dataHandle tensorId relations sourceId
  let tensor ← require arena.items[tensorId]?
    (.validation s!"nd tensor `{tensorId}` is not present")
  tensor.projectRelations relations sourceId

/-! ## What is bound -/

/-- The item has every observation of the source. -/
def CoordinatorRelationSet.CoveredBy (relations : CoordinatorRelationSet)
    (contains : ObservationId → Bool) (sourceId : SourceId) : Prop :=
  ∀ r ∈ relations.records, r.sourceId = some sourceId → contains r.observationId = true

theorem CoordinatorRelationSet.mem_sources {relations : CoordinatorRelationSet} {s : SourceId} :
    s ∈ relations.sources ↔ ∃ r ∈ relations.records, r.sourceId = some s := by
  simp [sources]

/-- The sources of an item are those that it covers. -/
theorem mem_coverage {contains : ObservationId → Bool} {relations : CoordinatorRelationSet}
    {covered : List SourceId} (h : coverage contains relations = some covered) {s : SourceId} :
    s ∈ covered ↔ s ∈ relations.sources ∧ relations.CoveredBy contains s := by
  unfold coverage at h
  split at h
  · next hempty =>
    have hnone : s ∉ relations.sources := by
      rw [Std.ExtTreeSet.isEmpty_iff] at hempty
      simp [hempty]
    split at h
    · cases h
      simp [hnone]
    · cases h
  · simp only at h
    split at h
    · cases h
    · cases h
      simp only [List.mem_filter, Std.ExtTreeSet.mem_toList, List.all_eq_true, beq_iff_eq,
        and_imp, CoordinatorRelationSet.CoveredBy]

namespace BindingArena

variable {ι β : Type} {kind : Bindable ι β} {arena : BindingArena ι β}

/-- Every item can be bound, under its own key. -/
def Lawful (kind : Bindable ι β) (items : BTreeMap String ι) : Prop :=
  ∀ (id : String) (item : ι) (sources : List SourceId), items[id]? = some item →
    ∃ binding, kind.bindingForSources item sources = .ok binding ∧ kind.itemId binding = id ∧
      kind.sourceIds binding = sources

/-- The binding is the one that binding the item to the relations gives. -/
def Binds (kind : Bindable ι β) (relations : CoordinatorRelationSet)
    (representationId : RepresentationId) (item : ι) (binding : β) : Prop :=
  kind.representationId item = representationId ∧
    ∃ sources, coverage (kind.containsObservation item) relations = some sources ∧
      kind.bindingForSources item sources = .ok binding

theorem bindItem_eq_some {relations : CoordinatorRelationSet} {representationId : RepresentationId}
    {item : ι} {binding : β} :
    bindItem kind relations representationId item = .ok (some binding) ↔
      Binds kind relations representationId item binding := by
  unfold bindItem Binds
  split
  · next hne =>
    rw [bne_iff_ne] at hne
    simp [hne]
  · next heq =>
    rw [bne_iff_ne, not_not] at heq
    cases coverage (kind.containsObservation item) relations with
    | none => simp
    | some sources => simp [heq]

/-- Binding valid relations never fails. -/
theorem exists_bindings (hlawful : Lawful kind arena.items) {relations : CoordinatorRelationSet}
    (hvalid : relations.validate = .ok ()) (representationId : RepresentationId) :
    ∃ bindings, arena.bindingsForRelations kind relations representationId = .ok bindings := by
  have hitem : ∀ entry ∈ arena.items.toList, ∃ bound,
      bindItem kind relations representationId entry.2 = .ok bound := by
    intro entry hentry
    have hget := Std.ExtTreeMap.mem_toList_iff_getElem?_eq_some.mp hentry
    unfold bindItem
    split
    · exact ⟨none, rfl⟩
    · cases coverage (kind.containsObservation entry.2) relations with
      | none => exact ⟨none, rfl⟩
      | some sources =>
        obtain ⟨binding, hbinding, -⟩ := hlawful entry.1 entry.2 sources hget
        exact ⟨some binding, map_eq_ok.mpr ⟨binding, hbinding, rfl⟩⟩
  obtain ⟨bound, hbound⟩ : ∃ bound, arena.items.toList.mapM
      (fun entry => bindItem kind relations representationId entry.2) = .ok bound := by
    simp only [mapM_eq_ok]
    exact exists_forall₂ hitem
  exact ⟨bound.filterMap id,
    bind_eq_ok.mpr ⟨(), hvalid, bind_eq_ok.mpr ⟨bound, hbound, rfl⟩⟩⟩

theorem mem_bindings {relations : CoordinatorRelationSet} {representationId : RepresentationId}
    {bindings : List β}
    (h : arena.bindingsForRelations kind relations representationId = .ok bindings) {binding : β} :
    binding ∈ bindings ↔ ∃ (id : String) (item : ι), arena.items[id]? = some item ∧
      Binds kind relations representationId item binding := by
  simp only [bindingsForRelations, bind_eq_ok, exists_unit, mapM_eq_ok, pure_eq_ok] at h
  obtain ⟨-, bound, hbound, rfl⟩ := h
  simp only [List.mem_filterMap, id_eq, exists_eq_right]
  constructor
  · intro hmem
    obtain ⟨entry, hentry, heq⟩ := exists_left_of_forall₂ hbound hmem
    exact ⟨entry.1, entry.2, Std.ExtTreeMap.mem_toList_iff_getElem?_eq_some.mp hentry,
      bindItem_eq_some.mp heq⟩
  · rintro ⟨key, item, hget, hbinds⟩
    have hentry := Std.ExtTreeMap.mem_toList_iff_getElem?_eq_some.mpr hget
    obtain ⟨y, hy, heq⟩ := exists_right_of_forall₂ hbound hentry
    cases (bindItem_eq_some.mpr hbinds).symm.trans heq
    exact hy

/-- No two bindings are of the same item. -/
theorem nodup_itemIds (hlawful : Lawful kind arena.items) {relations : CoordinatorRelationSet}
    {representationId : RepresentationId} {bindings : List β}
    (h : arena.bindingsForRelations kind relations representationId = .ok bindings) :
    (bindings.map kind.itemId).Nodup := by
  simp only [bindingsForRelations, bind_eq_ok, exists_unit, mapM_eq_ok, pure_eq_ok] at h
  obtain ⟨-, bound, hbound, rfl⟩ := h
  have hkeys : (arena.items.toList.map Prod.fst).Nodup := by
    rw [Std.ExtTreeMap.map_fst_toList_eq_keys]
    exact Std.ExtTreeMap.nodup_keys
  have hget : ∀ entry ∈ arena.items.toList, arena.items[entry.1]? = some entry.2 :=
    fun entry => Std.ExtTreeMap.mem_toList_iff_getElem?_eq_some.mp
  generalize arena.items.toList = entries at hbound hkeys hget
  have hsub : ((bound.filterMap id).map kind.itemId).Sublist (entries.map Prod.fst) := by
    induction hbound with
    | nil => exact List.Sublist.slnil
    | @cons entry y entries bound heq _ ih =>
      have hrest := ih (List.nodup_cons.mp hkeys).2 fun e he => hget e (List.mem_cons_of_mem _ he)
      cases y with
      | none => exact hrest.cons _
      | some binding =>
        obtain ⟨_, sources, _, hbinding⟩ := bindItem_eq_some.mp heq
        obtain ⟨_, heq', hid, _⟩ :=
          hlawful entry.1 entry.2 sources (hget entry List.mem_cons_self)
        cases hbinding.symm.trans heq'
        simp only [List.filterMap_cons, id_eq, List.map_cons, hid]
        exact hrest.cons_cons _
  exact hsub.nodup hkeys

/-- The binding of an id is that of the item with the id. -/
theorem getElem?_bindingMap (hlawful : Lawful kind arena.items)
    {relations : CoordinatorRelationSet} {representationId : RepresentationId} {bindings : List β}
    (h : arena.bindingsForRelations kind relations representationId = .ok bindings) {id : String}
    {binding : β} : (bindingMap kind bindings)[id]? = some binding ↔
      ∃ item, arena.items[id]? = some item ∧
        Binds kind relations representationId item binding := by
  have hkeys : ((bindings.map fun binding =>
    (kind.itemId binding, binding)).map Prod.fst).Nodup := by
    rw [List.map_map]
    exact nodup_itemIds hlawful h
  have hown : ∀ (key : String) (item : ι), arena.items[key]? = some item →
      Binds kind relations representationId item binding → kind.itemId binding = key := by
    rintro key item hget ⟨_, sources, _, hbinding⟩
    obtain ⟨_, heq, hid, _⟩ := hlawful key item sources hget
    cases hbinding.symm.trans heq
    exact hid
  rw [bindingMap, BTreeMap.getElem?_collect_of_nodup hkeys]
  simp only [List.mem_map, Prod.mk.injEq]
  constructor
  · rintro ⟨_, hmem, hid, rfl⟩
    obtain ⟨key, item, hget, hbinds⟩ := (mem_bindings h).mp hmem
    have hkey : key = id := (hown key item hget hbinds).symm.trans hid
    exact ⟨item, hkey ▸ hget, hbinds⟩
  · rintro ⟨item, hget, hbinds⟩
    exact ⟨binding, (mem_bindings h).mpr ⟨id, item, hget, hbinds⟩,
      hown id item hget hbinds, rfl⟩

end BindingArena

end DagMlData
