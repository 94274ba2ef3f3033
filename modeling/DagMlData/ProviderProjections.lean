import DagMlData.CohortSeparation
import DagMlData.ProviderBindings

/-!
# Projections of the provider

A buffer or tensor that is bound to the parent of a view for a source has every row that the view
needs of the source (`scoped_projections`): binding looks at the relations of the parent, and the
view has no others. The two arenas decide alike (`arenas_agree`).
-/

namespace DagMlData

open Guard RustText CoordinatorHandleArena

theorem contains_rowIndex {observationIds : List ObservationId} {o : ObservationId} :
    (rowIndex observationIds).contains o = true ↔ o ∈ observationIds := by
  rw [Std.ExtTreeMap.contains_iff_mem, rowIndex, BTreeMap.mem_collect, List.zipIdx_map_fst]

/-! ## Rows -/

namespace NdTensor

variable {tensor : NdTensor}

theorem Built.containsObservation (h : tensor.Built) {o : ObservationId} :
    tensor.containsObservation o = true ↔ o ∈ tensor.observationIds := by
  unfold NdTensor.containsObservation
  rw [h.index, contains_rowIndex]

/-- The block of the records: one stored row for each of them, in their order. -/
structure Projects (tensor : NdTensor) (records : List CoordinatorRelation)
    (block : NdTensorBlock) : Prop where
  tensorId : block.tensorId = tensor.tensorId
  representationId : block.representationId = tensor.representationId
  container : block.container = tensor.container
  dtype : block.dtype = tensor.dtype
  shape : block.shape = tensor.shape.set 0 records.length
  observationIds : block.observationIds = records.map (·.observationId)
  sampleIds : block.sampleIds = records.map (·.sampleId)
  rows : ∃ rows,
    List.Forall₂ (fun (r : CoordinatorRelation) rowIdx =>
      tensor.observationIds[rowIdx]? = some r.observationId) records rows ∧
    block.data = rows.flatMap tensor.rowBytes ∧
    block.rowPresence = tensor.rowPresence.map fun rowPresence =>
      rows.map fun rowIdx => rowPresence.getD rowIdx false

theorem projectRelations_eq_ok (hbuilt : tensor.Built) {relations : CoordinatorRelationSet}
    {sourceId : Option SourceId} {block : NdTensorBlock} :
    tensor.projectRelations relations sourceId = .ok block ↔
      relations.Valid ∧
        tensor.Projects (relations.records.filter (·.inScope sourceId)) block := by
  simp only [projectRelations, bind_eq_ok, CoordinatorRelationSet.validate_eq_ok, exists_unit,
    mapM_eq_ok, require_eq_ok, pure_eq_ok]
  refine and_congr_right fun _ => ?_
  simp only [hbuilt.index, rowIndex, BTreeMap.getElem?_collect_zipIdx hbuilt.observationsNodup]
  constructor
  · rintro ⟨rows, hrows, rfl⟩
    exact ⟨rfl, rfl, rfl, rfl, rfl, rfl, rfl, rows, hrows, rfl, rfl⟩
  · rintro ⟨hid, hrep, hcontainer, hdtype, hshape, hobservations, hsamples, rows, hrows, hdata,
      hpresence⟩
    refine ⟨rows, hrows, ?_⟩
    cases block
    simp only at hid hrep hcontainer hdtype hshape hobservations hsamples hdata hpresence
    rw [hid, hrep, hcontainer, hdtype, hshape, hobservations, hsamples, hdata, hpresence]

theorem exists_projects {records : List CoordinatorRelation} :
    (∃ block, tensor.Projects records block) ↔
      ∀ r ∈ records, r.observationId ∈ tensor.observationIds := by
  constructor
  · rintro ⟨_, _, _, _, _, _, _, _, rows, hrows, _⟩ r hr
    obtain ⟨rowIdx, _, hget⟩ := exists_right_of_forall₂ hrows hr
    exact List.mem_of_getElem? hget
  · intro hall
    obtain ⟨rows, hrows⟩ := exists_forall₂ fun r hr => List.mem_iff_getElem?.mp (hall r hr)
    exact ⟨⟨_, _, _, _, _, _, _, _, _⟩, rfl, rfl, rfl, rfl, rfl, rfl, rfl,
      rows, hrows, rfl, rfl⟩

end NdTensor

namespace NumericFeatureBuffer

variable {buffer : NumericFeatureBuffer}

theorem Shaped.containsObservation (h : buffer.Shaped) {o : ObservationId} :
    buffer.containsObservation o = true ↔ o ∈ buffer.observationIds := by
  unfold NumericFeatureBuffer.containsObservation
  rw [h.index, contains_rowIndex]

theorem exists_projects {selected : List Nat} {records : List CoordinatorRelation} :
    (∃ block, buffer.Projects selected records block) ↔
      ∀ r ∈ records, r.observationId ∈ buffer.observationIds := by
  constructor
  · rintro ⟨_, _, _, _, _, _, hvalues⟩ r hr
    obtain ⟨_, _, rowIdx, hget, _⟩ := exists_right_of_forall₂ hvalues hr
    exact List.mem_of_getElem? hget
  · intro hall
    obtain ⟨values, hvalues⟩ :
      ∃ values, List.Forall₂ (buffer.Holds selected) records values := by
      refine exists_forall₂ fun r hr => ?_
      obtain ⟨rowIdx, hget⟩ := List.mem_iff_getElem?.mp (hall r hr)
      exact ⟨_, rowIdx, hget, rfl⟩
    exact ⟨⟨_, _, _, _, _, _⟩, rfl, rfl, rfl, rfl, rfl, hvalues⟩

/-- No selection, or distinct names of features, at least one. -/
def Selects (buffer : NumericFeatureBuffer) (columns : Option (List String)) : Prop :=
  ∀ columns', columns = some columns' →
    columns' ≠ [] ∧ columns'.Nodup ∧ ∀ column ∈ columns', column ∈ buffer.featureNames

theorem Shaped.exists_selectedIndices (h : buffer.Shaped) {columns : Option (List String)}
    (hselects : buffer.Selects columns) :
      ∃ selected, buffer.selectedIndices columns = .ok selected := by
  simp only [selectedIndices_eq_ok, Picks]
  cases columns with
  | none =>
    refine ⟨_, h, ?_, ?_, rfl⟩
    · rintro _ ⟨⟩
    · rw [Ne, List.range_eq_nil, List.length_eq_zero_iff]
      exact h.named
  | some columns =>
    obtain ⟨hne, hnodup, hall⟩ := hselects columns rfl
    obtain ⟨selected, hselected⟩ := exists_forall₂ fun column hcolumn =>
      List.mem_iff_getElem?.mp (hall column hcolumn)
    refine ⟨selected, h, ?_, ?_, hselected⟩
    · rintro _ ⟨⟩
      exact hnodup
    · rintro rfl
      cases hselected
      exact hne rfl

end NumericFeatureBuffer

/-! ## Bound projections -/

namespace BindingArena

variable {ι β : Type} {kind : Bindable ι β} {arena : BindingArena ι β}

/-- The sources that a projection needs are those of the binding. -/
def Scopes (relations : CoordinatorRelationSet) (sourceId : Option SourceId)
    (bound : List SourceId) : Prop :=
  match sourceId with
  | some s => s ∈ relations.sources ∧ s ∈ bound
  | none => ∀ s ∈ relations.sources, s ∈ bound

theorem validateBoundSources_eq_ok {dataHandle : Nat} {id : String}
    {relations : CoordinatorRelationSet} {sourceId : Option SourceId} {u : Unit} :
    arena.validateBoundSources kind dataHandle id relations sourceId = .ok u ↔
      relations.Valid ∧ ∃ binding, arena.binding? dataHandle id = some binding ∧
        Scopes relations sourceId (kind.sourceIds binding) := by
  simp only [validateBoundSources, bind_eq_ok, CoordinatorRelationSet.validate_eq_ok, exists_unit,
    require_eq_ok, forM_eq_ok, rejectIf_eq_ok, List.contains_eq_mem, Bool.not_eq_false',
    decide_eq_true_eq]
  refine and_congr_right fun _ => exists_congr fun binding => and_congr_right fun _ => ?_
  cases sourceId with
  | none =>
    simp only [requiredSources, pure_eq_ok, Scopes]
    constructor
    · rintro ⟨_, rfl, hall⟩ s hs
      exact hall s (Std.ExtTreeSet.mem_toList.mpr hs)
    · intro hall
      exact ⟨_, rfl, fun s hs => hall s (Std.ExtTreeSet.mem_toList.mp hs)⟩
  | some s =>
    simp only [requiredSources, bind_eq_ok, rejectIf_eq_ok, exists_unit, pure_eq_ok, Scopes,
      Bool.or_eq_false_iff, Bool.not_eq_false', Std.ExtTreeSet.contains_iff_mem]
    constructor
    · rintro ⟨_, ⟨⟨_, hmem⟩, rfl⟩, hall⟩
      exact ⟨hmem, hall s List.mem_cons_self⟩
    · rintro ⟨hmem, hbound⟩
      refine ⟨_, ⟨⟨?_, hmem⟩, rfl⟩, ?_⟩
      · rw [← Bool.not_eq_true, Std.ExtTreeSet.isEmpty_iff]
        rintro hempty
        rw [hempty] at hmem
        simp at hmem
      · intro s' hs'
        rw [List.mem_singleton.mp hs']
        exact hbound

end BindingArena

section Projections

variable [ThirdParty]

/-- When a feature buffer is projected, and what the block is. -/
theorem NumericFeatureBufferArena.projectBoundRelations_eq_ok {arena : NumericFeatureBufferArena}
    {dataHandle : Nat} {id : String} {relations : CoordinatorRelationSet}
    {sourceId : Option SourceId} {columns : Option (List String)}
    {block : CoordinatorFeatureBlock} :
    arena.projectBoundRelations dataHandle id relations sourceId columns = .ok block ↔
      relations.Valid ∧ ∃ binding buffer, arena.binding? dataHandle id = some binding ∧
        BindingArena.Scopes relations sourceId binding.sourceIds ∧
          arena.items[id]? = some buffer ∧
        ∃ selected, buffer.selectedIndices columns = .ok selected ∧
          buffer.Projects selected (relations.records.filter (·.inScope sourceId)) block := by
  simp only [projectBoundRelations, bind_eq_ok, exists_unit, require_eq_ok,
    BindingArena.validateBoundSources_eq_ok, NumericFeatureBuffer.projectRelations_eq_ok]
  constructor
  · rintro ⟨⟨hvalid, binding, hbinding, hscopes⟩, buffer, hbuffer, _, hprojects⟩
    exact ⟨hvalid, binding, buffer, hbinding, hscopes, hbuffer, hprojects⟩
  · rintro ⟨hvalid, binding, buffer, hbinding, hscopes, hbuffer, hprojects⟩
    exact ⟨⟨hvalid, binding, hbinding, hscopes⟩, buffer, hbuffer, hvalid, hprojects⟩

/-- When a tensor is projected, and what the block is. -/
theorem NdTensorArena.projectBoundRelations_eq_ok {arena : NdTensorArena}
    (hbuilt : NdTensorStore.Checked arena.items) {dataHandle : Nat} {id : String}
    {relations : CoordinatorRelationSet} {sourceId : Option SourceId} {block : NdTensorBlock} :
    arena.projectBoundRelations dataHandle id relations sourceId = .ok block ↔
      relations.Valid ∧ ∃ binding tensor, arena.binding? dataHandle id = some binding ∧
        BindingArena.Scopes relations sourceId binding.sourceIds ∧
          arena.items[id]? = some tensor ∧
        tensor.Projects (relations.records.filter (·.inScope sourceId)) block := by
  simp only [projectBoundRelations, bind_eq_ok, exists_unit, require_eq_ok,
    BindingArena.validateBoundSources_eq_ok]
  constructor
  · rintro ⟨⟨hvalid, binding, hbinding, hscopes⟩, tensor, htensor, hprojects⟩
    exact ⟨hvalid, binding, tensor, hbinding, hscopes, htensor,
      ((NdTensor.projectRelations_eq_ok (hbuilt id tensor htensor).1).mp hprojects).2⟩
  · rintro ⟨hvalid, binding, tensor, hbinding, hscopes, htensor, hprojects⟩
    exact ⟨⟨hvalid, binding, hbinding, hscopes⟩, tensor, htensor,
      (NdTensor.projectRelations_eq_ok (hbuilt id tensor htensor).1).mpr ⟨hvalid, hprojects⟩⟩

omit [ThirdParty] in
theorem ProviderArenas.viewScope_eq_ok {arenas : ProviderArenas} {viewHandle : Nat}
    {view : CoordinatorDataViewRecord} {parent : CoordinatorDataHandleRecord}
    {relations : CoordinatorRelationSet} :
    arenas.viewScope viewHandle = .ok (view, parent, relations) ↔
      arenas.handles.viewRecords[viewHandle]? = some view ∧
        arenas.handles.records[view.parentHandle.handle]? = some parent ∧
        arenas.handles.viewRelations[viewHandle]? = some relations := by
  simp only [viewScope, viewIdentity, bind_eq_ok, require_eq_ok, pure_eq_ok, Prod.mk.injEq]
  constructor
  · rintro ⟨_, hview, _, hparent, _, hrelations, rfl, rfl, rfl⟩
    exact ⟨hview, hparent, hrelations⟩
  · rintro ⟨hview, hparent, hrelations⟩
    exact ⟨_, hview, _, hparent, _, hrelations, rfl, rfl, rfl⟩

/-! ## Scoped projections -/

omit [ThirdParty] in
/-- An item bound to the parent of a view for a source has the observations that the view needs of
the source. -/
theorem BindingArena.Bound.covers {ι β : Type} {kind : Bindable ι β}
    {arena : BindingArena ι β}
    {handles : CoordinatorHandleArena} (h : arena.Bound kind handles) (hwf : handles.WellFormed)
    {v : Nat} {view : CoordinatorDataViewRecord} {relations : CoordinatorRelationSet}
    (hview : handles.viewRecords[v]? = some view)
    (hrelations : handles.viewRelations[v]? = some relations) {id : String} {binding : β}
    (hbinding : arena.binding? view.parentHandle.handle id = some binding) {s : SourceId}
    (hs : s ∈ kind.sourceIds binding) :
    ∃ item, arena.items[id]? = some item ∧
      ∀ r ∈ relations.records.filter (·.inScope (some s)),
      kind.containsObservation item r.observationId = true := by
  obtain ⟨item, record, parentRelations, hitem, hrecord, hparent, -, hsources⟩ :=
    (h.exact hwf).binding _ id binding hbinding
  obtain ⟨_, parentRelations', _, _, hparent', hsub⟩ :=
    (hwf.view_record v view relations hview hrelations).parent
  cases hparent.symm.trans hparent'
  refine ⟨item, hitem, fun r hr => ?_⟩
  obtain ⟨hr, hscope⟩ := List.mem_filter.mp hr
  -- The binding covers the source in the relations of the parent, and the record is one of them.
  have hcovered := ((hsources s).mp hs).2
  refine hcovered r (hsub r hr) ?_
  simpa [CoordinatorRelation.inScope] using hscope

namespace ProviderArenas

/-- The projections of a view to a source: every item that the parent has bound for it gives its
rows. -/
structure Serves (arenas : ProviderArenas) (dataHandle viewHandle : Nat)
    (relations : CoordinatorRelationSet) (s : SourceId) : Prop where
  features : ∀ (id : String) (binding : NumericFeatureBufferBinding),
    arenas.features.binding? dataHandle id = some binding → s ∈ binding.sourceIds →
    ∃ buffer, arenas.features.items[id]? = some buffer ∧ ∀ columns, buffer.Selects columns →
      ∃ selected block, Picks buffer.featureNames columns selected ∧
        arenas.featureBlockFiltered viewHandle id (some s) columns = .ok block ∧
        buffer.Projects selected (relations.records.filter (·.inScope (some s))) block
  ndTensors : ∀ (id : String) (binding : NdTensorBinding),
    arenas.ndTensors.binding? dataHandle id = some binding → s ∈ binding.sourceIds →
    ∃ tensor block, arenas.ndTensors.items[id]? = some tensor ∧
      arenas.ndTensorBlock viewHandle id (some s) = .ok block ∧
      tensor.Projects (relations.records.filter (·.inScope (some s))) block

variable {arenas : ProviderArenas}

theorem Consistent.serves (h : arenas.Consistent)
    (hbuffers : NumericFeatureBufferStore.Checked arenas.features.items)
    (htensors : NdTensorStore.Checked arenas.ndTensors.items) {v : Nat}
    {view : CoordinatorDataViewRecord} {parent : CoordinatorDataHandleRecord}
    {relations : CoordinatorRelationSet}
    (hscope : arenas.viewScope v = .ok (view, parent, relations)) (hvalid : relations.Valid)
    {s : SourceId} (hs : s ∈ relations.sources) :
    arenas.Serves parent.handle.handle v relations s := by
  obtain ⟨hview, hparent, hrelations⟩ := viewScope_eq_ok.mp hscope
  have hhandle : parent.handle.handle = view.parentHandle.handle := by
    rw [(h.wellFormed.data_record _ _ hparent).handle]
  refine ⟨fun id binding hbinding hbound => ?_, fun id binding hbinding hbound => ?_⟩
  · rw [hhandle] at hbinding
    obtain ⟨buffer, hbuffer, hcovers⟩ :=
      h.features.covers h.wellFormed hview hrelations hbinding hbound
    have hshaped := (hbuffers id buffer hbuffer).1
    refine ⟨buffer, hbuffer, fun columns hselects => ?_⟩
    obtain ⟨selected, hselected⟩ := hshaped.exists_selectedIndices hselects
    obtain ⟨block, hblock⟩ : ∃ block, buffer.Projects selected _ block :=
      NumericFeatureBuffer.exists_projects.mpr fun r hr =>
        hshaped.containsObservation.mp (hcovers r hr)
    refine ⟨selected, block, (NumericFeatureBuffer.selectedIndices_eq_ok.mp hselected).2.2, ?_,
      hblock⟩
    refine bind_eq_ok.mpr ⟨_, hscope, ?_⟩
    show arenas.features.projectBoundRelations parent.handle.handle id relations
      (some s) columns = _
    rw [hhandle]
    exact NumericFeatureBufferArena.projectBoundRelations_eq_ok.mpr
      ⟨hvalid, binding, buffer, hbinding, ⟨hs, hbound⟩, hbuffer,
        selected, hselected, hblock⟩
  · rw [hhandle] at hbinding
    obtain ⟨tensor, htensor, hcovers⟩ :=
      h.ndTensors.covers h.wellFormed hview hrelations hbinding hbound
    have hbuilt := (htensors id tensor htensor).1
    obtain ⟨block, hblock⟩ := NdTensor.exists_projects.mpr
      fun r hr => hbuilt.containsObservation.mp (hcovers r hr)
    refine ⟨tensor, block, htensor, bind_eq_ok.mpr ⟨_, hscope, ?_⟩, hblock⟩
    show arenas.ndTensors.projectBoundRelations parent.handle.handle id relations (some s) = _
    rw [hhandle]
    exact (NdTensorArena.projectBoundRelations_eq_ok htensors).mpr
      ⟨hvalid, binding, tensor, hbinding, ⟨hs, hbound⟩, htensor, hblock⟩

end ProviderArenas

/-! ## The two arenas -/

omit [ThirdParty] in
/-- Items of one representation with the same observations are bound to the same sources. -/
theorem BindingArena.Binds.alike {ι β ι' β' : Type} {kind : Bindable ι β}
    {kind' : Bindable ι' β'}
    {items : BTreeMap String ι} {items' : BTreeMap String ι'} (hlawful : Lawful kind items)
    (hlawful' : Lawful kind' items') {id id' : String} {item : ι} {item' : ι'}
    (hitem : items[id]? = some item) (hitem' : items'[id']? = some item')
    (hrepresentation : kind.representationId item = kind'.representationId item')
    (hcontains : kind.containsObservation item = kind'.containsObservation item')
    {relations : CoordinatorRelationSet} {representationId : RepresentationId} {binding : β}
    (h : Binds kind relations representationId item binding) :
    ∃ binding', Binds kind' relations representationId item' binding' ∧
      kind'.sourceIds binding' = kind.sourceIds binding := by
  obtain ⟨hrep, sources, hcoverage, hmade⟩ := h
  obtain ⟨_, heq, _, hsources⟩ := hlawful id item sources hitem
  cases hmade.symm.trans heq
  obtain ⟨binding', hmade', _, hsources'⟩ := hlawful' id' item' sources hitem'
  exact ⟨binding', ⟨hrepresentation ▸ hrep, sources, hcontains ▸ hcoverage, hmade'⟩,
    hsources'.trans hsources.symm⟩

omit [ThirdParty] in
theorem BindingArena.Bound.binding?_alike {ι β ι' β' : Type} {kind : Bindable ι β}
    {kind' : Bindable ι' β'} {arena : BindingArena ι β} {arena' : BindingArena ι' β'}
    {handles : CoordinatorHandleArena} (h : arena.Bound kind handles)
    (h' : arena'.Bound kind' handles) (hwf : handles.WellFormed) {id id' : String} {item : ι}
    {item' : ι'} (hitem : arena.items[id]? = some item) (hitem' : arena'.items[id']? = some item')
    (hrepresentation : kind.representationId item = kind'.representationId item')
    (hcontains : kind.containsObservation item = kind'.containsObservation item')
    {dataHandle : Nat} {binding : β} (hbinding : arena.binding? dataHandle id = some binding) :
    ∃ binding', arena'.binding? dataHandle id' = some binding' ∧
      kind'.sourceIds binding' = kind.sourceIds binding := by
  obtain ⟨record, relations, hrecord, hrelations⟩ := h.exists_of_binding? hwf hbinding
  obtain ⟨_, hget, hbinds⟩ := (h.binding?_eq_some hrecord hrelations).mp hbinding
  cases hitem.symm.trans hget
  obtain ⟨binding', hbinds', hsources⟩ :=
    hbinds.alike h.lawful h'.lawful hitem hitem' hrepresentation hcontains
  exact ⟨binding', (h'.binding?_eq_some hrecord hrelations).mpr
    ⟨item', hitem', hbinds'⟩, hsources⟩

namespace ProviderArenas

/-- A buffer and a tensor are bound alike and projected alike. -/
structure Agree (arenas : ProviderArenas) (featureSetId tensorId : String) : Prop where
  bindings : ∀ dataHandle, (arenas.features.binding? dataHandle featureSetId).map (·.sourceIds) =
    (arenas.ndTensors.binding? dataHandle tensorId).map (·.sourceIds)
  projected : ∀ dataHandle relations sourceId,
    (∃ block, arenas.features.projectBoundRelations dataHandle featureSetId relations sourceId
      none = .ok block) ↔
    ∃ block, arenas.ndTensors.projectBoundRelations dataHandle tensorId relations sourceId =
      .ok block
  ids : ∀ dataHandle relations sourceId block block',
    arenas.features.projectBoundRelations dataHandle featureSetId relations sourceId none =
      .ok block →
    arenas.ndTensors.projectBoundRelations dataHandle tensorId relations sourceId = .ok block' →
    block.observationIds = block'.observationIds ∧ block.sampleIds = block'.sampleIds

variable {arenas : ProviderArenas}

theorem Consistent.agree (h : arenas.Consistent)
    (hbuffers : NumericFeatureBufferStore.Checked arenas.features.items)
    (htensors : NdTensorStore.Checked arenas.ndTensors.items) {featureSetId tensorId : String}
    {buffer : NumericFeatureBuffer} {tensor : NdTensor}
    (hbuffer : arenas.features.items[featureSetId]? = some buffer)
    (htensor : arenas.ndTensors.items[tensorId]? = some tensor)
    (hrepresentation : buffer.representationId = tensor.representationId)
    (hobservations : ∀ o, o ∈ buffer.observationIds ↔ o ∈ tensor.observationIds) :
    arenas.Agree featureSetId tensorId := by
  have hshaped := (hbuffers _ _ hbuffer).1
  have hbuilt := (htensors _ _ htensor).1
  have hcontains : buffer.containsObservation = tensor.containsObservation := by
    funext o
    rw [Bool.eq_iff_iff, hshaped.containsObservation, hbuilt.containsObservation, hobservations]
  have hforth : ∀ {dataHandle binding},
      arenas.features.binding? dataHandle featureSetId = some binding →
      ∃ binding', arenas.ndTensors.binding? dataHandle tensorId = some binding' ∧
        binding'.sourceIds = binding.sourceIds := fun hbinding =>
    h.features.binding?_alike h.ndTensors h.wellFormed hbuffer htensor hrepresentation hcontains
      hbinding
  have hback : ∀ {dataHandle binding'},
      arenas.ndTensors.binding? dataHandle tensorId = some binding' →
      ∃ binding, arenas.features.binding? dataHandle featureSetId = some binding ∧
        binding.sourceIds = binding'.sourceIds := fun hbinding =>
    h.ndTensors.binding?_alike h.features h.wellFormed htensor hbuffer hrepresentation.symm
      hcontains.symm hbinding
  refine ⟨fun dataHandle => ?_, fun dataHandle relations sourceId => ?_, ?_⟩
  · ext sources
    simp only [Option.map_eq_some_iff]
    constructor
    · rintro ⟨binding, hbinding, rfl⟩
      exact hforth hbinding
    · rintro ⟨binding, hbinding, rfl⟩
      exact hback hbinding
  · simp only [NumericFeatureBufferArena.projectBoundRelations_eq_ok,
      NdTensorArena.projectBoundRelations_eq_ok htensors]
    constructor
    · rintro ⟨block, hvalid, binding, _, hbinding, hscopes, hget, selected, _, hprojects⟩
      cases hbuffer.symm.trans hget
      obtain ⟨binding', hbinding', hsources⟩ := hforth hbinding
      obtain ⟨block', hblock'⟩ : ∃ block', tensor.Projects _ block' :=
        NdTensor.exists_projects.mpr fun r hr =>
          (hobservations _).mp (NumericFeatureBuffer.exists_projects.mp ⟨block, hprojects⟩ r hr)
      exact ⟨block', hvalid, binding', tensor, hbinding',
        hsources ▸ hscopes, htensor, hblock'⟩
    · rintro ⟨block', hvalid, binding', _, hbinding', hscopes, hget, hprojects⟩
      cases htensor.symm.trans hget
      obtain ⟨binding, hbinding, hsources⟩ := hback hbinding'
      have hselects : buffer.Selects none := by rintro _ ⟨⟩
      obtain ⟨selected, hselected⟩ := hshaped.exists_selectedIndices hselects
      obtain ⟨block, hblock⟩ : ∃ block, buffer.Projects selected _ block :=
        NumericFeatureBuffer.exists_projects.mpr fun r hr =>
          (hobservations _).mpr (NdTensor.exists_projects.mp ⟨block', hprojects⟩ r hr)
      exact ⟨block, hvalid, binding, buffer, hbinding, hsources ▸ hscopes, hbuffer, selected,
        hselected, hblock⟩
  · intro dataHandle relations sourceId block block' hblock hblock'
    obtain ⟨_, _, _, _, _, _, _, _, hprojects⟩ :=
      NumericFeatureBufferArena.projectBoundRelations_eq_ok.mp hblock
    obtain ⟨_, _, _, _, _, _, hprojects'⟩ :=
      (NdTensorArena.projectBoundRelations_eq_ok htensors).mp hblock'
    rw [hprojects.observationIds, hprojects'.observationIds, hprojects.sampleIds,
      hprojects'.sampleIds]
    exact ⟨rfl, rfl⟩

end ProviderArenas

variable {provider : InMemoryProvider} {envelope : CoordinatorDataPlanEnvelope}
  {featureStore : NumericFeatureBufferStore} {ndTensorStore : NdTensorStore}

/-- In every run of a provider that mints fewer than `2 ^ 64 - 1` handles, what the parent of a
valid view has bound for a source of the view serves it, and a buffer and a tensor with the same
observations are bound and projected alike. -/
theorem provider_projections (hbuilt : provider.BuiltFrom envelope featureStore ndTensorStore)
    (calls : List ProviderCall)
    (hsize : (provider.arenas.mintedHandles envelope calls).length < 2 ^ 64 - 1) :
    let arenas := provider.arenas.run envelope calls
    (∀ (dataHandle viewHandle : Nat) (parent : CoordinatorDataHandleRecord)
        (view : CoordinatorDataViewRecord) (relations : CoordinatorRelationSet),
      arenas.handles.records[dataHandle]? = some parent →
      arenas.handles.viewRecords[viewHandle]? = some view → view.parentHandle = parent.handle →
      arenas.handles.viewRelations[viewHandle]? = some relations → relations.validate = .ok () →
      ∀ s ∈ relations.sources, arenas.Serves dataHandle viewHandle relations s) ∧
    ∀ (featureSetId tensorId : String) (buffer : NumericFeatureBuffer) (tensor : NdTensor),
      featureStore.buffers[featureSetId]? = some buffer →
      ndTensorStore.tensors[tensorId]? = some tensor →
      buffer.representationId = tensor.representationId →
      (∀ o, o ∈ buffer.observationIds ↔ o ∈ tensor.observationIds) →
      arenas.Agree featureSetId tensorId := by
  obtain ⟨hfresh, hfeatures, htensors, rfl, -⟩ := hbuilt.fresh
  obtain ⟨hrun, hitems, hitems'⟩ := hfresh.run hsize
  have hbuffers := hitems.symm ▸ hfresh.features
  have hchecked := hitems'.symm ▸ hfresh.ndTensors
  refine ⟨fun h v parent view relations hrecord hview hparent hrelations hvalid s hs => ?_,
    fun featureSetId tensorId buffer tensor hbuffer htensor => ?_⟩
  · have hhandle : parent.handle.handle = h := by
      rw [(hrun.wellFormed.data_record h parent hrecord).handle]
    have hscope := ProviderArenas.viewScope_eq_ok.mpr
      ⟨hview, by rw [hparent, hhandle]; exact hrecord, hrelations⟩
    have hserves := hrun.serves hbuffers hchecked hscope
      (CoordinatorRelationSet.validate_eq_ok.mp hvalid) hs
    rwa [hhandle] at hserves
  · rw [← hfeatures, ← hitems] at hbuffer
    rw [← htensors, ← hitems'] at htensor
    exact hrun.agree hbuffers hchecked hbuffer htensor

omit [ThirdParty]

theorem sharedFeatureStore_buffer {id : String} {buffer : NumericFeatureBuffer} :
    sharedFeatureStore.buffers[id]? = some buffer ↔ (id, buffer) ∈
      [("all", oneColumn "all" [.lit "o1" rfl, .lit "o2" rfl, .lit "o9" rfl]
          [F64.ofInt 1, F64.ofInt 2, F64.ofInt 9]),
        ("test", oneColumn "test" [.lit "o1" rfl, .lit "o9" rfl]
          [F64.ofInt 1, F64.ofInt 9])] :=
  BTreeMap.getElem?_collect_of_nodup (by decide)

theorem sharedViewed_items : sharedViewed.features.items = sharedFeatureStore.buffers := by
  let _ := sharedDigests
  obtain ⟨hfresh, hstart, -, henvelope, -⟩ := sharedProvider_built.fresh
  have hsize : (sharedProvider.arenas.mintedHandles sharedProvider.envelope
    sharedViewedRun).length <
      2 ^ 64 - 1 := lt_of_le_of_lt (Machine.length_minted_le _ _) (by decide)
  obtain ⟨-, hitems, -⟩ := hfresh.run hsize
  rw [henvelope, hstart] at hitems
  unfold sharedViewed
  exact hitems

/-- The view of the training handle. -/
theorem sharedViewed_view : ∃ (parent : CoordinatorDataHandleRecord)
    (view : CoordinatorDataViewRecord) (relations : CoordinatorRelationSet),
    sharedViewed.handles.records[1]? = some parent ∧
    sharedViewed.handles.viewRecords[2]? = some view ∧ view.parentHandle = parent.handle ∧
    sharedViewed.handles.viewRelations[2]? = some relations ∧ relations.validate = .ok () ∧
    ∃ r ∈ relations.records, r.sourceId = some nirSource ∧
      r.observationId = (.lit "o2" rfl) := by
  have hlive : (sharedViewed.handles.records[1]?).any (fun parent =>
      (sharedViewed.handles.viewRecords[2]?).any fun view =>
        view.parentHandle == parent.handle) = true := by
    rw [sharedViewed_handles]
    decide +kernel
  have hread : (sharedViewed.handles.viewRelations[2]?).any (fun relations =>
      relations.validate.toOption.isSome && relations.records.any fun r =>
        r.sourceId == some nirSource && r.observationId == (.lit "o2" rfl)) = true := by
    rw [sharedViewed_handles]
    decide +kernel
  obtain ⟨parent, hparent, hview⟩ := Option.any_eq_true _ _ |>.mp hlive
  obtain ⟨view, hview, hof⟩ := Option.any_eq_true _ _ |>.mp hview
  obtain ⟨relations, hrelations, hboth⟩ := Option.any_eq_true _ _ |>.mp hread
  obtain ⟨hvalid, hrecord⟩ := Bool.and_eq_true_iff.mp hboth
  obtain ⟨_, hvalid⟩ := Option.isSome_iff_exists.mp hvalid
  obtain ⟨r, hr, hr'⟩ := List.any_eq_true.mp hrecord
  obtain ⟨hsource, hobservation⟩ := Bool.and_eq_true_iff.mp hr'
  exact ⟨parent, view, relations, hparent, hview, beq_iff_eq.mp hof, hrelations,
    toOption_eq_some.mp hvalid, r, hr, beq_iff_eq.mp hsource, beq_iff_eq.mp hobservation⟩

theorem sharedViewed_projections :
    letI := sharedDigests
    let arenas := sharedProvider.arenas.run sharedEnvelope sharedViewedRun
    (∃ relations, arenas.handles.viewRelations[2]? = some relations ∧
      arenas.Serves 1 2 relations nirSource) ∧ arenas.Agree "all" "image" := by
  have h := @provider_projections sharedDigests _ _ _ _ sharedProvider_built sharedViewedRun
    (lt_of_le_of_lt (Machine.length_minted_le _ _) (by decide))
  obtain ⟨parent, view, relations, hparent, hview, hof, hrelations, hvalid,
      r, hr, hsource, -⟩ := sharedViewed_view
  have hnir : nirSource ∈ relations.sources :=
    CoordinatorRelationSet.mem_sources.mpr ⟨r, hr, hsource⟩
  unfold sharedViewed at hparent hview hrelations
  have htensor : (sharedTensorStore.tensors["image"]?).any (fun tensor =>
      tensor.representationId == sharedTensorInput.representationId &&
        tensor.observationIds == sharedTensorInput.observationIds) = true := by
    decide +kernel
  obtain ⟨tensor, htensor, hboth⟩ := Option.any_eq_true _ _ |>.mp htensor
  obtain ⟨hrepresentation, hobservations⟩ := Bool.and_eq_true_iff.mp hboth
  rw [beq_iff_eq] at hrepresentation hobservations
  have hserves := h.1 1 2 parent view relations hparent hview hof hrelations hvalid nirSource hnir
  refine ⟨⟨relations, hrelations, hserves⟩, ?_⟩
  refine h.2 "all" "image" _ tensor (sharedFeatureStore_buffer.mpr List.mem_cons_self) htensor ?_ ?_
  · exact hrepresentation.symm
  · rw [hobservations]
    exact fun _ => Iff.rfl

theorem sharedCohort_scope :
    @materializationScope sharedDigests sharedEnvelope cohortRequest =
      .ok (some sharedCohort.relations) := by
  let _ := sharedDigests
  have hcohort : sharedCohort.validate = .ok () :=
    (validateCohort_of_validate sharedEnvelope_valid rfl).1
  have hauthority : (sharedCohort == sharedCohort) = true := by decide +kernel
  have hrelations : materializationRelations sharedEnvelope cohortRequest =
      .ok (some sharedCohort.relations) := by
    refine bind_eq_ok.mpr ⟨(), hcohort, bind_eq_ok.mpr ⟨sharedCohort, require_eq_ok.mpr ?_,
      bind_eq_ok.mpr ⟨(), by decide +kernel, rfl⟩⟩⟩
    exact Option.filter_eq_some_iff.mpr ⟨rfl, hauthority⟩
  exact materializationScope_of_valid sharedEnvelope_valid (by decide +kernel) (by decide +kernel)
    hrelations rfl (by decide +kernel)

/-- Once a handle of the external test has taken the id of the training handle, a view of the old
handle reads what the new one has bound, which is not enough. -/
theorem project_wrapped {n : Nat} (hn : 3 + n = u64Size) :
    letI := sharedDigests
    let arenas := sharedProvider.arenas.run sharedEnvelope (wrappingRun n 1 cohortRequest)
    ∃ (parent : CoordinatorDataHandleRecord) (view : CoordinatorDataViewRecord)
      (relations : CoordinatorRelationSet) (binding : NumericFeatureBufferBinding),
      arenas.handles.records[1]? = some parent ∧
      arenas.handles.viewRecords[2]? = some view ∧ view.parentHandle = parent.handle ∧
      arenas.handles.viewRelations[2]? = some relations ∧ relations.validate = .ok () ∧
      nirSource ∈ relations.sources ∧ arenas.features.binding? 1 "test" = some binding ∧
      nirSource ∈ binding.sourceIds ∧
      ∀ block, arenas.featureBlockFiltered 2 "test" (some nirSource) none ≠ .ok block := by
  let _ := sharedDigests
  intro arenas
  obtain ⟨parent, view, relations, hparent, hview, hof, hrelations, hvalid, r, hr, hsource,
    hobservation⟩ := sharedViewed_view
  have hlawful := sharedViewed_consistent.features.lawful
  obtain ⟨hkeeps, -, hrecord, -, bindings, hbindings, hbound⟩ :=
    sharedViewed_consistent.run_wrapping sharedCohort_scope sharedViewed_state.1 (by decide) hn
      (show 1 < u64Size by decide)
  -- The last materialization has bound the buffers to handle 1 again, for the external test.
  have hrun := run_wrappingRun n 1 cohortRequest []
  rw [List.append_nil] at hrun
  generalize sharedViewed.run sharedEnvelope (ProviderArenas.wrapping cohortRequest 3 n 1) =
    after at *
  have harenas : arenas = after := hrun
  have htest := sharedFeatureStore_buffer.mpr (List.mem_cons_of_mem _ List.mem_cons_self)
  rw [← sharedViewed_items] at htest
  -- The buffer without the observation `o2` covers the external test.
  have hcoverage : coverage (oneColumn "test" [.lit "o1" rfl, .lit "o9" rfl]
      [F64.ofInt 1, F64.ofInt 9]).containsObservation sharedCohort.relations =
        some [nirSource] := by
    decide +kernel
  obtain ⟨binding, hmade, -, hsources⟩ := hlawful "test" _ [nirSource] htest
  have hget := (BindingArena.getElem?_bindingMap hlawful hbindings).mpr
    ⟨_, htest, rfl, [nirSource], hcoverage, hmade⟩
  have hnir : nirSource ∈ relations.sources :=
    CoordinatorRelationSet.mem_sources.mpr ⟨r, hr, hsource⟩
  have hview' : arenas.handles.viewRecords[2]? = some view := by
    rw [harenas, hkeeps.viewRecords]
    exact hview
  have hrelations' : arenas.handles.viewRelations[2]? = some relations := by
    rw [harenas, hkeeps.viewRelations]
    exact hrelations
  refine ⟨_, view, relations, binding, by rw [harenas]; exact hrecord, hview', ?_, hrelations',
    hvalid, hnir, ?_,
    by rw [show binding.sourceIds = _ from hsources]; exact List.mem_cons_self, ?_⟩
  · rw [hof, (sharedViewed_consistent.wellFormed.data_record 1 parent hparent).handle]
    rfl
  · rw [harenas, BindingArena.binding?, hbound]
    exact hget
  · intro block hblock
    obtain ⟨⟨_, _, relations'⟩, hscope, hblock⟩ := bind_eq_ok.mp hblock
    obtain ⟨-, -, hsame⟩ := ProviderArenas.viewScope_eq_ok.mp hscope
    cases hrelations'.symm.trans hsame
    obtain ⟨-, _, buffer, -, -, hbuffer, _, -, hprojects⟩ :=
      NumericFeatureBufferArena.projectBoundRelations_eq_ok.mp hblock
    rw [harenas, hkeeps.featureItems] at hbuffer
    cases htest.symm.trans hbuffer
    -- The view wants the row of `o2`, which the buffer does not have.
    have hmem := NumericFeatureBuffer.exists_projects.mp ⟨block, hprojects⟩ r
      (List.mem_filter.mpr ⟨hr, by simp [CoordinatorRelation.inScope, hsource]⟩)
    rw [hobservation] at hmem
    exact absurd hmem (by decide)

/-- After `2 ^ 64 - 1` more materializations, all but two of which are released at once, a live view
of a live handle cannot read what the handle has bound for its source. -/
theorem wrapped_projection_fails :
    letI := sharedDigests
    let arenas := sharedProvider.arenas.run sharedEnvelope
      (wrappingRun (2 ^ 64 - 3) 1 cohortRequest)
    ∃ parent view relations binding, arenas.handles.records[1]? = some parent ∧
      arenas.handles.viewRecords[2]? = some view ∧ view.parentHandle = parent.handle ∧
      arenas.handles.viewRelations[2]? = some relations ∧ relations.validate = .ok () ∧
      nirSource ∈ relations.sources ∧ arenas.features.binding? 1 "test" = some binding ∧
      nirSource ∈ binding.sourceIds ∧
      ∀ block, arenas.featureBlockFiltered 2 "test" (some nirSource) none ≠ .ok block :=
  project_wrapped (by norm_num [u64Size])

end Projections

end DagMlData
