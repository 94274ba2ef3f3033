import DagMlData.Provider

/-!
# Runs of the provider

`BindingArena.Bound` links a binding arena to the handle arena: the bindings of a data handle are
what binding its relations gives. `ProviderArenas.Consistent` has it for both arenas. Every call
keeps it while the handle counter does not wrap (`Consistent.step`), and so does every run
(`Consistent.run`).
-/

namespace DagMlData

open Guard RustText

namespace BindingArena

open CoordinatorHandleArena

variable {ι β : Type} {kind : Bindable ι β} {arena : BindingArena ι β}
  {handles : CoordinatorHandleArena}

/-- The bindings of each data handle are those of its relations, and no other handle has any. -/
structure Bound (kind : Bindable ι β) (arena : BindingArena ι β)
    (handles : CoordinatorHandleArena) : Prop where
  lawful : Lawful kind arena.items
  keys : ∀ h : Nat, h ∈ arena.dataBindings ↔ h ∈ handles.dataRelations
  bindings : ∀ (h : Nat) (record : CoordinatorDataHandleRecord)
    (relations : CoordinatorRelationSet),
    handles.records[h]? = some record → handles.dataRelations[h]? = some relations →
    ∃ bindings, arena.bindingsForRelations kind relations record.outputRepresentation =
        .ok bindings ∧ arena.dataBindings[h]? = some (bindingMap kind bindings)

theorem Bound.congr (h : Bound kind arena handles) {after : CoordinatorHandleArena}
    (hrecords : after.records = handles.records)
    (hrelations : after.dataRelations = handles.dataRelations) : Bound kind arena after := by
  refine ⟨h.lawful, fun k => ?_, fun k record relations => ?_⟩
  · rw [hrelations]
    exact h.keys k
  · rw [hrecords, hrelations]
    exact h.bindings k record relations

/-- A new data handle without relations gets no bindings. -/
theorem Bound.insertNone (h : Bound kind arena handles) (hwf : handles.WellFormed)
    {record : CoordinatorDataHandleRecord} (hnext : record.handle.handle = handles.nextHandle) :
    Bound kind arena (handles.advance.insertData record none) := by
  refine ⟨h.lawful, h.keys, fun k r relations hr hrelations => ?_⟩
  have hne : k ≠ handles.nextHandle := by
    rintro rfl
    exact hwf.fresh.2.2 (BTreeMap.mem_iff_exists_getElem?.mpr ⟨relations, hrelations⟩)
  rw [getElem?_records_insertData, hnext, if_neg hne] at hr
  exact h.bindings k r relations hr hrelations

/-- Binding a new data handle with valid relations succeeds. -/
theorem Bound.bind (h : Bound kind arena handles) (hwf : handles.WellFormed)
    (record : CoordinatorDataHandleRecord) (hnext : record.handle.handle = handles.nextHandle)
    {relations : CoordinatorRelationSet} (hvalid : relations.validate = .ok ()) :
    ∃ bound, arena.bindDataHandle kind record.handle.handle relations
        record.outputRepresentation = .ok bound ∧ bound.items = arena.items ∧
      Bound kind bound (handles.advance.insertData record (some relations)) := by
  obtain ⟨bindings, hbindings⟩ := exists_bindings h.lawful hvalid record.outputRepresentation
  refine ⟨_, bind_eq_ok.mpr ⟨bindings, hbindings, rfl⟩, rfl,
    ⟨h.lawful, fun k => ?_, ?_⟩⟩
  · show k ∈ arena.dataBindings.insert _ _ ↔ k ∈ handles.dataRelations.insert _ _
    rw [Std.ExtTreeMap.mem_insert, Std.ExtTreeMap.mem_insert, h.keys]
  · intro k r rs hr hrs
    rw [getElem?_records_insertData, hnext] at hr
    rw [getElem?_dataRelations_insertData (by rw [hnext]; exact hwf.fresh.2.2), hnext] at hrs
    show ∃ bindings', _ ∧ (arena.dataBindings.insert record.handle.handle _)[k]? = _
    rw [getElem?_insert_eq, hnext]
    split at hr
    · next hk =>
      rw [if_pos hk] at hrs
      cases hr
      cases hrs
      exact ⟨bindings, hbindings, if_pos hk⟩
    · next hk =>
      rw [if_neg hk] at hrs ⊢
      exact h.bindings k r rs hr hrs

/-- Releasing a data handle removes its bindings. -/
theorem Bound.releaseData (h : Bound kind arena handles) {after : CoordinatorHandleArena} {k : Nat}
    (hrem : RemovesData handles after k) : Bound kind (arena.releaseDataHandle k).2 after := by
  refine ⟨h.lawful, fun a => ?_, fun a record relations hr hrs => ?_⟩
  · show a ∈ arena.dataBindings.erase k ↔ _
    rw [hrem.dataRelations, Std.ExtTreeMap.mem_erase, Std.ExtTreeMap.mem_erase, h.keys]
  · rw [hrem.records] at hr
    rw [hrem.dataRelations] at hrs
    have hne : k ≠ a := by
      rintro rfl
      simp at hr
    rw [BTreeMap.getElem?_erase_of_ne hne] at hr hrs
    obtain ⟨bindings, hbindings, hget⟩ := h.bindings a record relations hr hrs
    exact ⟨bindings, hbindings, (BTreeMap.getElem?_erase_of_ne hne).trans hget⟩

/-- An id that is no data handle has no bindings to remove. -/
theorem Bound.releaseOther (h : Bound kind arena handles) (hwf : handles.WellFormed) {k : Nat}
    (hk : k ∉ handles.records) : (arena.releaseDataHandle k).2 = arena := by
  have hnot : k ∉ arena.dataBindings := fun hmem => hk (hwf.data_keys k ((h.keys k).mp hmem))
  show { arena with dataBindings := arena.dataBindings.erase k } = arena
  congr
  refine Std.ExtTreeMap.ext_getElem? fun a => ?_
  rw [Std.ExtTreeMap.getElem?_erase]
  split
  · next heq =>
    rw [Std.LawfulEqOrd.eq_of_compare heq] at hnot
    exact (Std.ExtTreeMap.getElem?_eq_none hnot).symm
  · rfl

end BindingArena

namespace ProviderArenas

open CoordinatorHandleArena

variable [ThirdParty] {arenas : ProviderArenas} {envelope : CoordinatorDataPlanEnvelope}

/-- What holds of the arenas after every run. -/
structure Consistent (arenas : ProviderArenas) : Prop where
  wellFormed : arenas.handles.WellFormed
  dataValid : arenas.handles.DataValid
  features : arenas.features.Bound NumericFeatureBuffer.bindable arenas.handles
  ndTensors : arenas.ndTensors.Bound NdTensor.bindable arenas.handles

/-- What a call does to consistent arenas. -/
structure CallSpec (envelope : CoordinatorDataPlanEnvelope) (arenas : ProviderArenas)
    (call : ProviderCall) (reply : ArenaReply) (after : ProviderArenas) : Prop where
  /-- The handle arena answers: binding adds no error. -/
  answer : reply = (arenas.handles.step (call.onHandles envelope)).1
  handles : after.handles = (arenas.handles.step (call.onHandles envelope)).2
  featureItems : after.features.items = arenas.features.items
  tensorItems : after.ndTensors.items = arenas.ndTensors.items
  features : after.features.Bound NumericFeatureBuffer.bindable after.handles
  ndTensors : after.ndTensors.Bound NdTensor.bindable after.handles
  error : ∀ e, reply = .materialized (.error e) → after = arenas
  releaseData : ∀ h, call = .release h → h ∈ arenas.handles.records →
    after.features = (arenas.features.releaseDataHandle h).2 ∧
      after.ndTensors = (arenas.ndTensors.releaseDataHandle h).2
  releaseOther : ∀ h, call = .release h → h ∉ arenas.handles.records →
    after.features = arenas.features ∧ after.ndTensors = arenas.ndTensors

omit [ThirdParty] in
theorem dataIdentity_eq {handles : CoordinatorHandleArena} {dataHandle : Nat}
    (hlive : dataHandle ∈ handles.records) :
    (handles.dataIdentity dataHandle).toOption = handles.dataRelations[dataHandle]? := by
  rw [← Std.ExtTreeMap.contains_iff_mem] at hlive
  unfold dataIdentity
  rw [hlive]
  cases handles.dataRelations[dataHandle]? with
  | none => rfl
  | some relations => rfl

omit [ThirdParty] in
/-- The relations of a new data handle that has relations, also when its id was in use. -/
theorem dataIdentity_insertSome (handles : CoordinatorHandleArena)
    (record : CoordinatorDataHandleRecord) (relations : CoordinatorRelationSet) :
    ((handles.advance.insertData record (some relations)).dataIdentity
      record.handle.handle).toOption = some relations := by
  rw [dataIdentity_eq Std.ExtTreeMap.mem_insert_self]
  exact Std.ExtTreeMap.getElem?_insert_self

theorem materialize_of_error {request : CoordinatorDataMaterializationRequest} {e : DataError}
    (hscope : materializationScope envelope request = .error e) :
    arenas.materialize envelope request = (.error e, arenas) := by
  rw [ProviderArenas.materialize, exec_materialize, hscope]

theorem materialize_of_none (hwf : arenas.handles.WellFormed)
    {request : CoordinatorDataMaterializationRequest}
    (hscope : materializationScope envelope request = .ok none) :
    let record := dataRecord envelope request none
      ⟨arenas.handles.nextHandle, .data, arenas.handles.ownerController⟩
    arenas.materialize envelope request =
      (.ok record, { arenas with handles := arenas.handles.advance.insertData record none }) := by
  intro record
  have hidentity : ((arenas.handles.advance.insertData record none).dataIdentity
      record.handle.handle).toOption = none := by
    rw [dataIdentity_eq Std.ExtTreeMap.mem_insert_self]
    exact Std.ExtTreeMap.getElem?_eq_none hwf.fresh.2.2
  rw [ProviderArenas.materialize, exec_materialize, hscope]
  simp only
  rw [hidentity]

/-- A materialization whose relations are bound in both arenas. -/
theorem materialize_of_bound {request : CoordinatorDataMaterializationRequest}
    {relations : CoordinatorRelationSet}
    (hscope : materializationScope envelope request = .ok (some relations))
    {features : NumericFeatureBufferArena} {ndTensors : NdTensorArena} :
    let record := dataRecord envelope request (some relations)
      ⟨arenas.handles.nextHandle, .data, arenas.handles.ownerController⟩
    arenas.features.bindDataHandle NumericFeatureBuffer.bindable record.handle.handle relations
      record.outputRepresentation = .ok features →
    arenas.ndTensors.bindDataHandle NdTensor.bindable record.handle.handle relations
      record.outputRepresentation = .ok ndTensors →
    arenas.materialize envelope request =
      (.ok record, ⟨arenas.handles.advance.insertData record (some relations), features,
        ndTensors⟩) := by
  intro record hfeatures htensors
  rw [ProviderArenas.materialize, exec_materialize, hscope]
  simp only
  rw [dataIdentity_insertSome]
  simp only [ProviderArenas.bind]
  rw [hfeatures]
  simp only
  rw [htensors]

theorem Consistent.materialize_of_some (h : arenas.Consistent)
    {request : CoordinatorDataMaterializationRequest} {relations : CoordinatorRelationSet}
    (hscope : materializationScope envelope request = .ok (some relations)) :
    let record := dataRecord envelope request (some relations)
      ⟨arenas.handles.nextHandle, .data, arenas.handles.ownerController⟩
    let handles := arenas.handles.advance.insertData record (some relations)
    ∃ features ndTensors,
      arenas.materialize envelope request = (.ok record, ⟨handles, features, ndTensors⟩) ∧
      (features.items = arenas.features.items ∧ ndTensors.items = arenas.ndTensors.items) ∧
      features.Bound NumericFeatureBuffer.bindable handles ∧
      ndTensors.Bound NdTensor.bindable handles := by
  intro record handles
  have hvalid : relations.validate = .ok () :=
    CoordinatorRelationSet.validate_eq_ok.mpr (materializationScope_valid hscope)
  obtain ⟨features, hfeatures, hitems, hbound⟩ := h.features.bind h.wellFormed record rfl hvalid
  obtain ⟨ndTensors, htensors, hitems', hbound'⟩ :=
    h.ndTensors.bind h.wellFormed record rfl hvalid
  exact ⟨features, ndTensors, materialize_of_bound hscope hfeatures htensors,
    ⟨hitems, hitems'⟩,
    hbound, hbound'⟩

theorem Consistent.callSpec_materialize (h : arenas.Consistent)
    (request : CoordinatorDataMaterializationRequest) :
    CallSpec envelope arenas (.materialize request)
      (arenas.step envelope (.materialize request)).1
      (arenas.step envelope (.materialize request)).2 := by
  have hhandles := arenas.step_handles envelope (.materialize request)
  have hanswer : (arenas.handles.step (.materialize envelope request)).1 =
      .materialized ((CoordinatorHandleArena.materialize envelope request).exec arenas.handles).1 :=
    rfl
  rw [exec_materialize] at hanswer
  have hstep : arenas.step envelope (.materialize request) =
      (.materialized (arenas.materialize envelope request).1,
        (arenas.materialize envelope request).2) := rfl
  rw [hstep] at hhandles ⊢
  cases hscope : materializationScope envelope request with
  | error e =>
    rw [hscope] at hanswer
    rw [materialize_of_error hscope] at hhandles ⊢
    refine ⟨hanswer.symm, hhandles, rfl, rfl, h.features, h.ndTensors, fun _ _ => rfl, ?_, ?_⟩
    all_goals rintro _ ⟨⟩
  | ok scope =>
    rw [hscope] at hanswer
    cases scope with
    | none =>
      rw [materialize_of_none h.wellFormed hscope] at hhandles ⊢
      refine ⟨hanswer.symm, hhandles, rfl, rfl, h.features.insertNone h.wellFormed rfl,
        h.ndTensors.insertNone h.wellFormed rfl, ?_, ?_, ?_⟩
      all_goals rintro _ ⟨⟩
    | some relations =>
      obtain ⟨features, ndTensors, heq, ⟨hitems, hitems'⟩, hbound, hbound'⟩ :=
        h.materialize_of_some hscope
      rw [heq] at hhandles ⊢
      refine ⟨hanswer.symm, hhandles, hitems, hitems', hbound, hbound', ?_, ?_, ?_⟩
      all_goals rintro _ ⟨⟩

theorem Consistent.callSpec_makeView (h : arenas.Consistent) (dataHandle : Nat) (view : DataView) :
    CallSpec envelope arenas (.makeView dataHandle view)
      (arenas.step envelope (.makeView dataHandle view)).1
      (arenas.step envelope (.makeView dataHandle view)).2 := by
  have hkeeps : ((arenas.step envelope (.makeView dataHandle view)).2.handles.records =
      arenas.handles.records) ∧
      (arenas.step envelope (.makeView dataHandle view)).2.handles.dataRelations =
        arenas.handles.dataRelations := by
    rw [step_handles]
    have hs := stepSpec_makeView arenas.handles dataHandle view
    simp only [ProviderCall.onHandles]
    generalize (arenas.handles.step (.makeView dataHandle view)).1 = reply at hs
    generalize (arenas.handles.step (.makeView dataHandle view)).2 = after at hs ⊢
    cases hs with
    | notViewed => exact ⟨rfl, rfl⟩
    | viewed _ _ _ _ _ => exact ⟨rfl, rfl⟩
  refine ⟨rfl, rfl, rfl, rfl, h.features.congr hkeeps.1 hkeeps.2,
    h.ndTensors.congr hkeeps.1 hkeeps.2, ?_, ?_, ?_⟩
  all_goals rintro _ ⟨⟩

theorem Consistent.callSpec_release (h : arenas.Consistent) (handle : Nat) :
    CallSpec envelope arenas (.release handle) (arenas.step envelope (.release handle)).1
      (arenas.step envelope (.release handle)).2 := by
  have hcontract := h.wellFormed.callContract (.release handle)
  have hfeatures : (arenas.step envelope (.release handle)).2.features =
      (arenas.features.releaseDataHandle handle).2 := rfl
  have htensors : (arenas.step envelope (.release handle)).2.ndTensors =
      (arenas.ndTensors.releaseDataHandle handle).2 := rfl
  have hhandles : (arenas.step envelope (.release handle)).2.handles =
      (arenas.handles.step (.release handle)).2 := rfl
  have hanswer : (arenas.step envelope (.release handle)).1 =
      (arenas.handles.step (.release handle)).1 := by
    have hown : (arenas.handles.step (.release handle)).1 =
        .released (releaseHandle handle arenas.handles).1 := rfl
    have hall : (arenas.step envelope (.release handle)).1 =
        .released ((releaseHandle handle arenas.handles).1 ||
          arenas.features.dataBindings.contains handle ||
          arenas.ndTensors.dataBindings.contains handle) := rfl
    rw [hown, hall]
    by_cases hrelations : handle ∈ arenas.handles.dataRelations
    · have hdone : (releaseHandle handle arenas.handles).1 = true := by
        obtain ⟨record, hrecord⟩ :=
          BTreeMap.mem_iff_exists_getElem?.mp (h.wellFormed.data_keys handle hrelations)
        unfold releaseHandle
        rw [hrecord]
        split
        · rfl
        · rfl
      rw [hdone]
      rfl
    · have hfeatures := (h.features.keys handle).not.mpr hrelations
      have htensors := (h.ndTensors.keys handle).not.mpr hrelations
      rw [← Std.ExtTreeMap.contains_iff_mem, Bool.not_eq_true] at hfeatures htensors
      rw [hfeatures, htensors, Bool.or_false, Bool.or_false]
  by_cases hdata : handle ∈ arenas.handles.records
  · have hrem := hcontract.release_data handle hdata rfl
    refine ⟨hanswer, hhandles, rfl, rfl, ?_, ?_, ?_, ?_, ?_⟩
    · rw [hfeatures, hhandles]
      exact h.features.releaseData hrem
    · rw [htensors, hhandles]
      exact h.ndTensors.releaseData hrem
    · rintro _ ⟨⟩
    · rintro _ ⟨⟩ _
      exact ⟨hfeatures, htensors⟩
    · rintro _ ⟨⟩ hnot
      exact absurd hdata hnot
  · have hkeeps : (arenas.handles.step (.release handle)).2.records = arenas.handles.records ∧
        (arenas.handles.step (.release handle)).2.dataRelations = arenas.handles.dataRelations := by
      by_cases hview : handle ∈ arenas.handles.viewRecords
      · have hrem := hcontract.release_view handle hview rfl
        exact ⟨hrem.records, hrem.dataRelations⟩
      · rw [hcontract.release_unknown handle rfl hdata hview]
        exact ⟨rfl, rfl⟩
    have hf := h.features.releaseOther h.wellFormed hdata
    have ht := h.ndTensors.releaseOther h.wellFormed hdata
    refine ⟨hanswer, hhandles, rfl, rfl, ?_, ?_, ?_, ?_, ?_⟩
    · rw [hfeatures, hf, hhandles]
      exact h.features.congr hkeeps.1 hkeeps.2
    · rw [htensors, ht, hhandles]
      exact h.ndTensors.congr hkeeps.1 hkeeps.2
    · rintro _ ⟨⟩
    · rintro _ ⟨⟩ hmem
      exact absurd hmem hdata
    · rintro _ ⟨⟩ _
      exact ⟨hfeatures.trans hf, htensors.trans ht⟩

theorem Consistent.callSpec (h : arenas.Consistent) (call : ProviderCall) :
    CallSpec envelope arenas call (arenas.step envelope call).1 (arenas.step envelope call).2 := by
  cases call with
  | materialize request => exact h.callSpec_materialize request
  | makeView dataHandle view => exact h.callSpec_makeView dataHandle view
  | release handle => exact h.callSpec_release handle

/-! ## Runs -/

/-- The arenas after the calls. -/
abbrev run (envelope : CoordinatorDataPlanEnvelope) (arenas : ProviderArenas)
    (calls : List ProviderCall) : ProviderArenas :=
  Machine.run (step envelope) arenas calls

/-- The handles that the calls mint, in order. -/
abbrev mintedHandles (envelope : CoordinatorDataPlanEnvelope) (arenas : ProviderArenas)
    (calls : List ProviderCall) : List Nat :=
  arenas.handles.mintedHandles (calls.map (·.onHandles envelope))

/-- The handle arena runs as it does alone. -/
theorem run_handles (calls : List ProviderCall) :
    (arenas.run envelope calls).handles =
      arenas.handles.run (calls.map (·.onHandles envelope)) := by
  induction calls generalizing arenas with
  | nil => rfl
  | cons call calls ih =>
    rw [List.map_cons]
    show ((arenas.step envelope call).2.run envelope calls).handles = _
    rw [ih, step_handles]
    rfl

theorem Consistent.step (h : arenas.Consistent) (call : ProviderCall)
    (hsize : arenas.handles.nextHandle + (arenas.mintedHandles envelope [call]).length < u64Size) :
    (arenas.step envelope call).2.Consistent := by
  have hspec : CallSpec envelope arenas call _ _ := h.callSpec call
  refine ⟨?_, ?_, hspec.features, hspec.ndTensors⟩
  · rw [hspec.handles]
    exact h.wellFormed.step _ hsize
  · rw [hspec.handles]
    exact h.dataValid.step _

/-- A run that does not exhaust the counter keeps the arenas consistent and the items as they
are. -/
theorem Consistent.run (h : arenas.Consistent) {calls : List ProviderCall}
    (hsize : arenas.handles.nextHandle + (arenas.mintedHandles envelope calls).length < u64Size) :
    (arenas.run envelope calls).Consistent ∧
      (arenas.run envelope calls).features.items = arenas.features.items ∧
      (arenas.run envelope calls).ndTensors.items = arenas.ndTensors.items := by
  induction calls using List.reverseRecOn with
  | nil => exact ⟨h, rfl, rfl⟩
  | append_singleton calls call ih =>
    rw [mintedHandles, List.map_append, List.map_singleton] at hsize
    obtain ⟨hpre, hpost⟩ := room_after hsize
    obtain ⟨hrun, hfeatures, htensors⟩ := ih hpre
    have happ : arenas.run envelope (calls ++ [call]) =
        ((arenas.run envelope calls).step envelope call).2 := Machine.run_append ..
    have hspec : CallSpec envelope (arenas.run envelope calls) call _ _ := hrun.callSpec call
    rw [happ, hspec.featureItems, hspec.tensorItems, hfeatures, htensors]
    refine ⟨hrun.step call ?_, rfl, rfl⟩
    rw [mintedHandles, run_handles]
    exact hpost

/-! ## When the counter wraps -/

/-- A materialization with relations binds them, whatever the id that it takes. -/
theorem materialize_of_relations (hf : BindingArena.Lawful NumericFeatureBuffer.bindable
      arenas.features.items) (ht : BindingArena.Lawful NdTensor.bindable arenas.ndTensors.items)
    {request : CoordinatorDataMaterializationRequest} {relations : CoordinatorRelationSet}
    (hscope : materializationScope envelope request = .ok (some relations)) :
    let record := dataRecord envelope request (some relations)
      ⟨arenas.handles.nextHandle, .data, arenas.handles.ownerController⟩
    ∃ bindings bindings',
      arenas.features.bindingsForRelations NumericFeatureBuffer.bindable relations
        request.outputRepresentation = .ok bindings ∧
      (arenas.step envelope (.materialize request)).2 =
        ⟨arenas.handles.advance.insertData record (some relations),
          { arenas.features with
            dataBindings := arenas.features.dataBindings.insert arenas.handles.nextHandle
              (BindingArena.bindingMap NumericFeatureBuffer.bindable bindings) },
          { arenas.ndTensors with
            dataBindings := arenas.ndTensors.dataBindings.insert arenas.handles.nextHandle
              (BindingArena.bindingMap NdTensor.bindable bindings') }⟩ := by
  intro record
  have hvalid : relations.validate = .ok () :=
    CoordinatorRelationSet.validate_eq_ok.mpr (materializationScope_valid hscope)
  obtain ⟨bindings, hbindings⟩ := BindingArena.exists_bindings hf hvalid
    record.outputRepresentation
  obtain ⟨bindings', hbindings'⟩ := BindingArena.exists_bindings ht hvalid
    record.outputRepresentation
  refine ⟨bindings, bindings', hbindings, ?_⟩
  show (arenas.materialize envelope request).2 = _
  rw [materialize_of_bound hscope (bind_eq_ok.mpr ⟨bindings, hbindings, rfl⟩)
    (bind_eq_ok.mpr ⟨bindings', hbindings', rfl⟩)]
  rfl

/-- The arenas after materializations that leave the views as they are. -/
structure KeepsViews (arenas after : ProviderArenas) : Prop where
  featureItems : after.features.items = arenas.features.items
  tensorItems : after.ndTensors.items = arenas.ndTensors.items
  viewRecords : after.handles.viewRecords = arenas.handles.viewRecords
  viewRelations : after.handles.viewRelations = arenas.handles.viewRelations
  ownerController : after.handles.ownerController = arenas.handles.ownerController

/-- A number of materializations with relations moves the counter on, and it wraps. -/
theorem run_replicate (hf : BindingArena.Lawful NumericFeatureBuffer.bindable
      arenas.features.items) (ht : BindingArena.Lawful NdTensor.bindable arenas.ndTensors.items)
    {request : CoordinatorDataMaterializationRequest} {relations : CoordinatorRelationSet}
    (hscope : materializationScope envelope request = .ok (some relations))
    (hnext : arenas.handles.nextHandle < u64Size) (n : Nat) :
    let after := arenas.run envelope (List.replicate n (.materialize request))
    arenas.KeepsViews after ∧
      after.handles.nextHandle = (arenas.handles.nextHandle + n) % u64Size := by
  induction n with
  | zero => exact ⟨⟨rfl, rfl, rfl, rfl, rfl⟩, (Nat.mod_eq_of_lt hnext).symm⟩
  | succ n ih =>
    obtain ⟨hkeeps, hcount⟩ := ih
    obtain ⟨_, _, _, hstep⟩ := materialize_of_relations (hkeeps.featureItems ▸ hf)
      (hkeeps.tensorItems ▸ ht) hscope
    have happ : arenas.run envelope (List.replicate (n + 1) (.materialize request)) =
        ((arenas.run envelope (List.replicate n (.materialize request))).step envelope
          (.materialize request)).2 := by
      rw [List.replicate_succ']
      exact Machine.run_append ..
    rw [happ, hstep]
    refine ⟨⟨hkeeps.featureItems, hkeeps.tensorItems, hkeeps.viewRecords, hkeeps.viewRelations,
      hkeeps.ownerController⟩, ?_⟩
    show ((arenas.run envelope _).handles.nextHandle + 1) % u64Size = _
    rw [hcount, Nat.mod_add_mod, Nat.add_assoc]

/-- The id is of no handle, and of no parent of a view. -/
structure Unused (arenas : ProviderArenas) (handle : Nat) : Prop where
  records : handle ∉ arenas.handles.records
  dataRelations : handle ∉ arenas.handles.dataRelations
  viewRecords : handle ∉ arenas.handles.viewRecords
  parents : ∀ (v : Nat) (view : CoordinatorDataViewRecord),
    arenas.handles.viewRecords[v]? = some view → view.parentHandle.handle ≠ handle
  features : handle ∉ arenas.features.dataBindings
  ndTensors : handle ∉ arenas.ndTensors.dataBindings

/-- The ids from the counter on are unused, until it wraps. -/
theorem Consistent.unused (h : arenas.Consistent) {k : Nat} (hk : arenas.handles.nextHandle ≤ k) :
    arenas.Unused k := by
  have hrecords : k ∉ arenas.handles.records := fun hmem =>
    absurd (h.wellFormed.data_lt k hmem) (Nat.not_lt.mpr hk)
  have hrelations : k ∉ arenas.handles.dataRelations := fun hmem =>
    hrecords (h.wellFormed.data_keys k hmem)
  refine ⟨hrecords, hrelations, fun hmem => ?_, fun v view hview heq => ?_,
    (h.features.keys k).not.mpr hrelations, (h.ndTensors.keys k).not.mpr hrelations⟩
  · exact absurd (h.wellFormed.view_lt k hmem) (Nat.not_lt.mpr hk)
  · obtain ⟨relations, hget⟩ := BTreeMap.mem_iff_exists_getElem?.mp
      ((h.wellFormed.view_keys v).mpr (BTreeMap.mem_iff_exists_getElem?.mpr ⟨view, hview⟩))
    obtain ⟨parent, _, hparent, -⟩ :=
      (h.wellFormed.view_record v view relations hview hget).parent
    rw [heq] at hparent
    exact hrecords (BTreeMap.mem_iff_exists_getElem?.mpr ⟨parent, hparent⟩)

theorem Consistent.unused_mod (h : arenas.Consistent) {n : Nat}
    (hn : arenas.handles.nextHandle + n = u64Size) :
    ∀ i < n, arenas.Unused ((arenas.handles.nextHandle + i) % u64Size) := by
  intro i hi
  rw [Nat.mod_eq_of_lt (by omega)]
  exact h.unused (Nat.le_add_right _ _)

/-- The arenas with another next id. -/
def countedTo (arenas : ProviderArenas) (next : Nat) : ProviderArenas :=
  { arenas with handles := { arenas.handles with nextHandle := next } }

/-- A materialization whose handle is released at once only moves the counter on. -/
theorem mint_release (hunused : arenas.Unused arenas.handles.nextHandle)
    (hf : BindingArena.Lawful NumericFeatureBuffer.bindable arenas.features.items)
    (ht : BindingArena.Lawful NdTensor.bindable arenas.ndTensors.items)
    {request : CoordinatorDataMaterializationRequest} {relations : CoordinatorRelationSet}
    (hscope : materializationScope envelope request = .ok (some relations)) :
    arenas.run envelope [.materialize request, .release arenas.handles.nextHandle] =
      arenas.countedTo ((arenas.handles.nextHandle + 1) % u64Size) := by
  obtain ⟨bindings, bindings', -, hstep⟩ := materialize_of_relations hf ht hscope
  generalize hrecord : dataRecord envelope request (some relations)
    ⟨arenas.handles.nextHandle, .data, arenas.handles.ownerController⟩ = record at hstep
  have hhandle : record.handle = ⟨arenas.handles.nextHandle, .data,
      arenas.handles.ownerController⟩ := hrecord ▸ rfl
  have hnot : ¬ (arenas.handles.advance.insertData record (some relations)).viewRecords.contains
      arenas.handles.nextHandle = true :=
    fun hcontains => hunused.viewRecords (Std.ExtTreeMap.contains_iff_mem.mp hcontains)
  have hget : (arenas.handles.advance.insertData record
      (some relations)).records[arenas.handles.nextHandle]? = some record := by
    rw [getElem?_records_insertData, hhandle, if_pos rfl]
  have hchildren : ((arenas.handles.advance.insertData record (some relations)).eraseData
      arenas.handles.nextHandle).childViews record.handle = [] := by
    refine List.eq_nil_iff_forall_not_mem.mpr fun v hv => ?_
    obtain ⟨view, hview, hparent⟩ := mem_childViews.mp hv
    exact hunused.parents v view hview (by rw [hparent, hhandle])
  have hreleased : (releaseHandle arenas.handles.nextHandle
      (arenas.handles.advance.insertData record (some relations))).2 = arenas.handles.advance := by
    unfold releaseHandle
    rw [if_neg hnot, hget]
    simp only
    rw [hchildren]
    simp only [List.foldl_nil, eraseData, insertData, hhandle]
    rw [BTreeMap.erase_insert (m := arenas.handles.advance.records) hunused.records,
      BTreeMap.erase_insert (m := arenas.handles.advance.dataRelations) hunused.dataRelations]
  show ((arenas.step envelope (.materialize request)).2.release arenas.handles.nextHandle).2 = _
  rw [hstep]
  simp only [ProviderArenas.release, BindingArena.releaseDataHandle, hreleased]
  rw [BTreeMap.erase_insert hunused.features, BTreeMap.erase_insert hunused.ndTensors]
  rfl

/-- Materializations whose handles, from the first id on, are released at once. -/
def churn (request : CoordinatorDataMaterializationRequest)
    (first : Nat) : Nat → List ProviderCall
  | 0 => []
  | n + 1 => churn request first n ++ [.materialize request, .release ((first + n) % u64Size)]

/-- They only move the counter on, and it wraps. -/
theorem run_churn (hf : BindingArena.Lawful NumericFeatureBuffer.bindable
      arenas.features.items) (ht : BindingArena.Lawful NdTensor.bindable arenas.ndTensors.items)
    {request : CoordinatorDataMaterializationRequest} {relations : CoordinatorRelationSet}
    (hscope : materializationScope envelope request = .ok (some relations))
    (hnext : arenas.handles.nextHandle < u64Size) {n : Nat}
    (hunused : ∀ i < n, arenas.Unused ((arenas.handles.nextHandle + i) % u64Size)) :
    arenas.run envelope (churn request arenas.handles.nextHandle n) =
      arenas.countedTo ((arenas.handles.nextHandle + n) % u64Size) := by
  induction n with
  | zero =>
    rw [Nat.add_zero, Nat.mod_eq_of_lt hnext]
    rfl
  | succ n ih =>
    have hrun : arenas.run envelope (churn request arenas.handles.nextHandle (n + 1)) =
        (arenas.run envelope (churn request arenas.handles.nextHandle n)).run envelope
          [.materialize request, .release ((arenas.handles.nextHandle + n) % u64Size)] :=
      Machine.run_append ..
    have hfresh := hunused n (Nat.lt_succ_self n)
    rw [hrun, ih fun i hi => hunused i (Nat.lt_succ_of_lt hi)]
    have hcounted : (arenas.countedTo ((arenas.handles.nextHandle + n) % u64Size)).Unused
        ((arenas.handles.nextHandle + n) % u64Size) :=
      ⟨hfresh.records, hfresh.dataRelations, hfresh.viewRecords, hfresh.parents, hfresh.features,
        hfresh.ndTensors⟩
    refine (mint_release hcounted hf ht hscope).trans ?_
    show arenas.countedTo (((arenas.handles.nextHandle + n) % u64Size + 1) % u64Size) = _
    rw [Nat.mod_add_mod, Nat.add_assoc]

/-- A materialization that the counter gives the id `k` takes it, also when a view has it or a data
handle had it. -/
theorem run_remint (hf : BindingArena.Lawful NumericFeatureBuffer.bindable arenas.features.items)
    (ht : BindingArena.Lawful NdTensor.bindable arenas.ndTensors.items)
    {request : CoordinatorDataMaterializationRequest} {relations : CoordinatorRelationSet}
    (hscope : materializationScope envelope request = .ok (some relations))
    (hnext : arenas.handles.nextHandle < u64Size) {k n : Nat}
    (hn : (arenas.handles.nextHandle + n) % u64Size = k) :
    let after := arenas.run envelope (List.replicate (n + 1) (.materialize request))
    arenas.KeepsViews after ∧
      after.handles.records[k]? = some (dataRecord envelope request (some relations)
        ⟨k, .data, arenas.handles.ownerController⟩) ∧
      after.handles.dataRelations[k]? = some relations ∧
      ∃ bindings,
        arenas.features.bindingsForRelations NumericFeatureBuffer.bindable relations
          request.outputRepresentation = .ok bindings ∧
        after.features.dataBindings[k]? =
          some (BindingArena.bindingMap NumericFeatureBuffer.bindable bindings) := by
  intro after
  obtain ⟨hkeeps, hcount⟩ := run_replicate hf ht hscope hnext n
  rw [hn] at hcount
  obtain ⟨bindings, _, hbindings, hstep⟩ :=
    materialize_of_relations (hkeeps.featureItems ▸ hf)
    (hkeeps.tensorItems ▸ ht) hscope
  have hafter : after = ((arenas.run envelope (List.replicate n (.materialize request))).step
      envelope (.materialize request)).2 := by
    show arenas.run envelope (List.replicate (n + 1) _) = _
    rw [List.replicate_succ']
    exact Machine.run_append ..
  rw [hstep, hcount, hkeeps.ownerController] at hafter
  rw [hafter]
  refine ⟨⟨hkeeps.featureItems, hkeeps.tensorItems, hkeeps.viewRecords, hkeeps.viewRelations,
    hkeeps.ownerController⟩, Std.ExtTreeMap.getElem?_insert_self,
    Std.ExtTreeMap.getElem?_insert_self, bindings, ?_, Std.ExtTreeMap.getElem?_insert_self⟩
  rw [BindingArena.bindingsForRelations, ← hkeeps.featureItems]
  exact hbindings

/-- Materializations that are released at once until the counter wraps, and then those that take the
ids up to `k`. -/
def wrapping (request : CoordinatorDataMaterializationRequest) (first n k : Nat) :
    List ProviderCall :=
  churn request first n ++ List.replicate (k + 1) (.materialize request)

/-- The counter is then 0, and nothing else has changed. -/
theorem Consistent.run_churn_to_wrap (h : arenas.Consistent)
    {request : CoordinatorDataMaterializationRequest} {relations : CoordinatorRelationSet}
    (hscope : materializationScope envelope request = .ok (some relations)) {n : Nat}
    (hfirst : arenas.handles.nextHandle < u64Size) (hn : arenas.handles.nextHandle + n = u64Size) :
    arenas.run envelope (churn request arenas.handles.nextHandle n) = arenas.countedTo 0 := by
  have hrun := run_churn h.features.lawful h.ndTensors.lawful hscope hfirst (h.unused_mod hn)
  rwa [hn, Nat.mod_self] at hrun

theorem Consistent.run_wrapping (h : arenas.Consistent)
    {request : CoordinatorDataMaterializationRequest} {relations : CoordinatorRelationSet}
    (hscope : materializationScope envelope request = .ok (some relations)) {first n k : Nat}
    (hnext : arenas.handles.nextHandle = first) (hfirst : first < u64Size)
    (hn : first + n = u64Size) (hk : k < u64Size) :
    let after := arenas.run envelope (wrapping request first n k)
    arenas.KeepsViews after ∧ after.handles.nextHandle = (k + 1) % u64Size ∧
      after.handles.records[k]? = some (dataRecord envelope request (some relations)
        ⟨k, .data, arenas.handles.ownerController⟩) ∧
      after.handles.dataRelations[k]? = some relations ∧
      ∃ bindings,
        arenas.features.bindingsForRelations NumericFeatureBuffer.bindable relations
          request.outputRepresentation = .ok bindings ∧
        after.features.dataBindings[k]? =
          some (BindingArena.bindingMap NumericFeatureBuffer.bindable bindings) := by
  intro after
  subst hnext
  have hf := h.features.lawful
  have ht := h.ndTensors.lawful
  have hafter : after = (arenas.countedTo 0).run envelope
      (List.replicate (k + 1) (.materialize request)) := by
    rw [← h.run_churn_to_wrap hscope hfirst hn]
    exact Machine.run_append ..
  have hf' : BindingArena.Lawful NumericFeatureBuffer.bindable
      (arenas.countedTo 0).features.items := hf
  have hzero : (arenas.countedTo 0).handles.nextHandle < u64Size := show 0 < u64Size by decide
  obtain ⟨hkeeps, hrecord, hrelations, hbindings⟩ := run_remint hf' ht hscope hzero (n := k)
    (k := k) (show (0 + k) % u64Size = k by rw [Nat.zero_add, Nat.mod_eq_of_lt hk])
  have hcount := (run_replicate hf' ht hscope hzero (k + 1)).2
  rw [hafter]
  exact ⟨⟨hkeeps.featureItems, hkeeps.tensorItems, hkeeps.viewRecords, hkeeps.viewRelations,
    hkeeps.ownerController⟩, by rw [hcount]; exact congrArg (· % u64Size) (Nat.zero_add _),
    hrecord, hrelations, hbindings⟩

/-- At each instant of materializations that are released at once the views are as they were. -/
theorem keepsViews_churn (hf : BindingArena.Lawful NumericFeatureBuffer.bindable
      arenas.features.items) (ht : BindingArena.Lawful NdTensor.bindable arenas.ndTensors.items)
    {request : CoordinatorDataMaterializationRequest} {relations : CoordinatorRelationSet}
    (hscope : materializationScope envelope request = .ok (some relations))
    (hnext : arenas.handles.nextHandle < u64Size) {n : Nat}
    (hunused : ∀ i < n, arenas.Unused ((arenas.handles.nextHandle + i) % u64Size))
    {calls : List ProviderCall} (hcalls : calls <+: churn request arenas.handles.nextHandle n) :
    arenas.KeepsViews (arenas.run envelope calls) := by
  induction n with
  | zero =>
    rw [churn, List.prefix_nil] at hcalls
    rw [hcalls]
    exact ⟨rfl, rfl, rfl, rfl, rfl⟩
  | succ n ih =>
    have hsplit : churn request arenas.handles.nextHandle (n + 1) =
        (churn request arenas.handles.nextHandle n ++ [.materialize request]) ++
          [.release ((arenas.handles.nextHandle + n) % u64Size)] := by
      rw [List.append_assoc]
      rfl
    have hshort : ∀ i < n, arenas.Unused ((arenas.handles.nextHandle + i) % u64Size) :=
      fun i hi => hunused i (Nat.lt_succ_of_lt hi)
    rw [hsplit, List.prefix_concat_iff, List.prefix_concat_iff, ← hsplit] at hcalls
    rcases hcalls with rfl | rfl | hcalls
    · rw [run_churn hf ht hscope hnext hunused]
      exact ⟨rfl, rfl, rfl, rfl, rfl⟩
    · have hrun : arenas.run envelope (churn request arenas.handles.nextHandle n ++
          [.materialize request]) = ((arenas.run envelope (churn request
            arenas.handles.nextHandle n)).step envelope (.materialize request)).2 :=
        Machine.run_append ..
      rw [hrun, run_churn hf ht hscope hnext hshort]
      have hf' : BindingArena.Lawful NumericFeatureBuffer.bindable
          (arenas.countedTo ((arenas.handles.nextHandle + n) % u64Size)).features.items := hf
      obtain ⟨_, _, -, hstep⟩ := materialize_of_relations hf' ht hscope
      rw [hstep]
      exact ⟨rfl, rfl, rfl, rfl, rfl⟩
    · exact ih hshort hcalls

/-- Also while the counter wraps. -/
theorem Consistent.keepsViews_wrapping (h : arenas.Consistent)
    {request : CoordinatorDataMaterializationRequest} {relations : CoordinatorRelationSet}
    (hscope : materializationScope envelope request = .ok (some relations)) {first n k : Nat}
    (hnext : arenas.handles.nextHandle = first) (hfirst : first < u64Size)
    (hn : first + n = u64Size) {calls : List ProviderCall}
    (hcalls : calls <+: wrapping request first n k) :
    arenas.KeepsViews (arenas.run envelope calls) := by
  subst hnext
  have hf := h.features.lawful
  have ht := h.ndTensors.lawful
  rcases List.prefix_or_prefix_of_prefix hcalls (List.prefix_append _ _) with hshort | hlong
  · exact keepsViews_churn hf ht hscope hfirst (h.unused_mod hn) hshort
  · obtain ⟨more, rfl⟩ := hlong
    obtain ⟨-, hmore⟩ := List.prefix_replicate_iff.mp
      ((List.prefix_append_right_inj _).mp hcalls)
    have hrun : arenas.run envelope (churn request arenas.handles.nextHandle n ++ more) =
        (arenas.countedTo 0).run envelope more := by
      rw [← h.run_churn_to_wrap hscope hfirst hn]
      exact Machine.run_append ..
    have hf' : BindingArena.Lawful NumericFeatureBuffer.bindable
        (arenas.countedTo 0).features.items := hf
    have hkeeps := (run_replicate hf' ht hscope (show 0 < u64Size by decide) more.length).1
    rw [hrun, hmore]
    exact ⟨hkeeps.featureItems, hkeeps.tensorItems, hkeeps.viewRecords, hkeeps.viewRelations,
      hkeeps.ownerController⟩

end ProviderArenas

end DagMlData
