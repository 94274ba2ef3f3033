import DagMlData.Handle
import DagMlData.Lib.StableOrder

/-!
# What a view selects

`DataView.Selects` says which records of the parent a view is for, and
`DataView.selectedRecords` in which order it has them. The main result of this part is
`viewSelection_eq_ok`: the filters and the sort of the source compute exactly these records, or
refuse. `makeView_correct` is about the whole operation.
-/

namespace DagMlData

open Guard RustText

/-! ## What a view is for -/

/-- The metadata of the record has every key of the selector, with an equal value. -/
def CoordinatorRelation.HasMetadata (r : CoordinatorRelation) (selector : BTreeMap String Json) :
    Prop :=
  ∀ (key : String) (value : Json), selector[key]? = some value →
    ∃ actual, r.metadata[key]? = some actual ∧ (actual == value) = true

/-- The record passes the selector of the branch view's mode. -/
def CoordinatorBranchView.Selects (branchView : CoordinatorBranchView)
    (r : CoordinatorRelation) : Prop :=
  match branchView.mode with
  | .bySource => ∃ source ∈ branchView.selector.sourceIds, r.sourceId = some source
  | .byMetadata => r.HasMetadata branchView.selector.metadata
  | .byTag => ∀ tag ∈ branchView.selector.tags, tag ∈ r.tags
  | .byFilter =>
    ∀ native, branchView.selector.filter.bind NativeBranchViewFilter.fromValue = some native →
      r.HasMetadata native.metadataEquals ∧ ∀ tag ∈ native.tagsAll, tag ∈ r.tags
  | .separation => True

/-- The record is one that the view of the parent is for. -/
structure DataView.Selects (view : DataView) (parent : CoordinatorDataHandleRecord)
    (r : CoordinatorRelation) : Prop where
  sample : ∀ ids, view.sampleIds = some ids → r.sampleId ∈ ids
  source : ∀ ids, view.sourceIds = some ids → ∃ source ∈ ids, r.sourceId = some source
  branch : ∀ branchView, view.branchView = some branchView → branchView.Selects r
  partition : view.sampleIds = none → view.wholeHandle = false →
    ∀ p, view.partition = some p →
    r.metadata["partition"]? = some (.string p)
  fold : view.sampleIds = none → ∀ f, view.foldId = some f →
    (view.wholeHandle = true → parent.foldId ≠ some f) →
    r.metadata["fold_id"]? = some (.string f)
  augmented : r.isAugmented = true → view.includeAugmented = true
  excluded : r.excluded = true → view.includeExcluded = true

/-- A view of the partition `predict` is of a handle of that phase, unless it names samples. -/
def DataView.PhaseOk (view : DataView) (parent : CoordinatorDataHandleRecord) : Prop :=
  view.sampleIds = none → view.partition = some "predict" →
    eqIgnoreAsciiCase parent.phase "predict" = true

/-! ## The tests of the source -/

theorem CoordinatorRelation.hasSourceIn_iff {r : CoordinatorRelation} {sources : List SourceId} :
    r.hasSourceIn sources = true ↔ ∃ source ∈ sources, r.sourceId = some source := by
  cases h : r.sourceId <;> simp [hasSourceIn, h, eq_comm]

theorem CoordinatorRelation.hasMetadata_iff {r : CoordinatorRelation}
    {selector : BTreeMap String Json} :
    r.hasMetadata selector = true ↔ r.HasMetadata selector := by
  simp only [hasMetadata, HasMetadata, List.all_eq_true, Prod.forall, Option.any_eq_true,
    Std.ExtTreeMap.mem_toList_iff_getElem?_eq_some]

theorem CoordinatorRelation.hasTags_iff {r : CoordinatorRelation} {tags : List String} :
    r.hasTags tags = true ↔ ∀ tag ∈ tags, tag ∈ r.tags := by
  simp [hasTags]

theorem CoordinatorRelation.hasLabels_iff {r : CoordinatorRelation}
    {labels : List (String × String)} :
    r.hasLabels labels = true ↔
      ∀ key label, (key, label) ∈ labels → r.metadata[key]? = some (.string label) := by
  simp only [hasLabels, List.all_eq_true, Prod.forall, beq_iff_eq, Option.bind_eq_some_iff,
    Json.asStr_eq_some]
  refine forall₃_congr fun key label _ => ⟨?_, fun h => ⟨_, h, rfl⟩⟩
  rintro ⟨_, h, rfl⟩
  exact h

/-- A valid branch view by filter has a native filter. -/
theorem CoordinatorBranchView.exists_native [ThirdParty] {branchView : CoordinatorBranchView}
    (h : branchView.validate = .ok ()) (hmode : branchView.mode = .byFilter) :
    ∃ value native, branchView.selector.filter = some value ∧
      NativeBranchViewFilter.fromValue value = some native ∧
      parseNativeBranchViewFilter value branchView.label = .ok native := by
  simp only [validate, hmode, bind_eq_ok, exists_unit, require_eq_ok] at h
  obtain ⟨-, -, -, -, -, value, hvalue, native, hparse, -⟩ := h
  refine ⟨value, native, hvalue, ?_, hparse⟩
  simp only [parseNativeBranchViewFilter, bind_eq_ok, exists_unit, require_eq_ok] at hparse
  obtain ⟨native', hnative, -, -, -, heq⟩ := hparse
  rw [hnative, pure_eq_ok.mp heq]

/-- The tests that the branch view adds. -/
def BranchFilters.letsThrough (filters : BranchFilters) (r : CoordinatorRelation) : Bool :=
  passes filters.sources r.hasSourceIn && passes filters.metadata r.hasMetadata &&
    passes filters.tags r.hasTags &&
    passes filters.native fun f => r.hasMetadata f.metadataEquals && r.hasTags f.tagsAll

/-- The filters of a valid branch view let through what it selects. -/
theorem branchFilters_ok [ThirdParty] {branchView : Option CoordinatorBranchView}
    (h : whenSome branchView CoordinatorBranchView.validate = .ok ()) :
    ∃ filters, branchFilters branchView = .ok filters ∧ ∀ r : CoordinatorRelation,
      filters.letsThrough r = true ↔ ∀ b, branchView = some b → b.Selects r := by
  cases branchView with
  | none => exact ⟨_, rfl, fun r => by simp [BranchFilters.letsThrough, passes]⟩
  | some b =>
    have hb : b.validate = .ok () := h
    cases hmode : b.mode with
    | byFilter =>
      obtain ⟨value, native, hvalue, hnative, hparse⟩ :=
        CoordinatorBranchView.exists_native hb hmode
      refine ⟨⟨none, none, none, some native⟩, ?_, fun r => ?_⟩
      · simp [branchFilters, hmode, hvalue, hparse]
      · simp [BranchFilters.letsThrough, passes, CoordinatorBranchView.Selects,
          hmode, hvalue, hnative,
          CoordinatorRelation.hasMetadata_iff, CoordinatorRelation.hasTags_iff]
    | separation =>
      refine ⟨⟨none, none, none,
        none⟩, by simp [branchFilters, hmode, pure, Except.pure], ?_⟩
      simp [BranchFilters.letsThrough, passes, CoordinatorBranchView.Selects, hmode]
    | bySource =>
      refine ⟨_, by simp only [branchFilters, hmode]; rfl, fun r => ?_⟩
      simp [BranchFilters.letsThrough, passes, CoordinatorBranchView.Selects, hmode,
        CoordinatorRelation.hasSourceIn_iff]
    | byMetadata =>
      refine ⟨_, by simp only [branchFilters, hmode]; rfl, fun r => ?_⟩
      simp [BranchFilters.letsThrough, passes, CoordinatorBranchView.Selects, hmode,
        CoordinatorRelation.hasMetadata_iff]
    | byTag =>
      refine ⟨_, by simp only [branchFilters, hmode]; rfl, fun r => ?_⟩
      simp [BranchFilters.letsThrough, passes, CoordinatorBranchView.Selects, hmode,
        CoordinatorRelation.hasTags_iff]

theorem hasLabels_viewLabels {view : DataView} {parent : CoordinatorDataHandleRecord}
    {r : CoordinatorRelation} :
    r.hasLabels (viewLabels view parent) = true ↔
      (view.wholeHandle = false → ∀ p, view.partition = some p →
        r.metadata["partition"]? = some (.string p)) ∧
      ∀ f, view.foldId = some f → (view.wholeHandle = true → parent.foldId ≠ some f) →
        r.metadata["fold_id"]? = some (.string f) := by
  rw [CoordinatorRelation.hasLabels_iff]
  simp only [viewLabels, List.mem_append, Option.mem_toList, Option.map_eq_some_iff,
    Option.filter_eq_some_iff]
  constructor
  · intro h
    refine ⟨fun hw p hp => h _ _ (Or.inl ⟨p, by simp [hw, hp], rfl⟩), fun f hf hn => ?_⟩
    refine h _ _ (Or.inr ⟨f, ⟨hf, ?_⟩, rfl⟩)
    simpa [imp_iff_not_or] using hn
  · rintro ⟨hpart, hfold⟩ key label (⟨p, hp, heq⟩ | ⟨f, ⟨hf, hn⟩, heq⟩)
    · obtain ⟨rfl, rfl⟩ := Prod.mk.injEq .. ▸ heq
      cases hw : view.wholeHandle
      · exact hpart hw p (by simpa [hw] using hp)
      · simp [hw] at hp
    · obtain ⟨rfl, rfl⟩ := Prod.mk.injEq .. ▸ heq
      exact hfold f hf (by simpa [imp_iff_not_or] using hn)

/-- Labels are found unless the view of the partition `predict` has no handle of that phase. -/
theorem resolvedViewLabels_eq_ok {view : DataView} {parent : CoordinatorDataHandleRecord}
    {labels : List (String × String)} :
    resolvedViewLabels view parent = .ok labels ↔
      view.PhaseOk parent ∧
        labels = if view.sampleIds.isSome then [] else viewLabels view parent := by
  unfold resolvedViewLabels DataView.PhaseOk
  cases view.sampleIds with
  | some ids =>
    simp only [Option.isSome_some, if_true, pure_eq_ok, reduceCtorEq, false_imp_iff, true_and]
    exact eq_comm
  | none =>
    simp only [Option.isSome_none, Bool.false_eq_true, if_false, bind_eq_ok, rejectIf_eq_ok,
      exists_unit, pure_eq_ok, Bool.and_eq_false_iff, beq_eq_false_iff_ne, Bool.not_eq_false',
      forall_const, imp_iff_not_or]
    exact and_congr_right' eq_comm

/-! ## The selection -/

/-- The records in the order of the view: by the place of their samples in the requested
samples, when there are any, and else in the order of the parent. -/
def DataView.inOrder (view : DataView) (records : List CoordinatorRelation) :
    List CoordinatorRelation :=
  match view.sampleIds with
  | some ids => ids.flatMap fun s => records.filter fun r => r.sampleId = s
  | none => records

/-- The tests that do not look at labels. -/
def DataView.passesFilters (view : DataView) (filters : BranchFilters)
    (r : CoordinatorRelation) : Bool :=
  passes view.sampleIds (fun s => (BTreeSet.collect s).contains r.sampleId) &&
    passes view.sourceIds r.hasSourceIn &&
    filters.letsThrough r && (view.includeAugmented || !r.isAugmented) &&
      (view.includeExcluded || !r.excluded)

theorem pairwise_order {ids : List SampleId} (hnd : ids.Nodup) {d : Nat} :
    ids.Pairwise fun s t => (BTreeMap.collect ids.zipIdx).getD s d <
      (BTreeMap.collect ids.zipIdx).getD t d := by
  have hget : ∀ (i : Nat) (hi : i < ids.length),
      (BTreeMap.collect ids.zipIdx).getD (ids[i]) d = i := by
    intro i hi
    have hkeys : (ids.zipIdx.map Prod.fst).Nodup := by simpa using hnd
    have := (BTreeMap.getElem?_collect_of_nodup hkeys (k := ids[i]) (v := i)).mpr
      (by simp [List.mem_zipIdx_iff_getElem?, hi])
    rw [Std.ExtTreeMap.getD_eq_getD_getElem?, this]
    rfl
  rw [List.pairwise_iff_getElem]
  intro i j hi hj hij
  rw [hget i hi, hget j hj]
  exact hij

theorem keyLe_iff {a b : Nat × Nat} :
    keyLe a b = true ↔ a.1 < b.1 ∨ (a.1 = b.1 ∧ a.2 ≤ b.2) := by
  simp [keyLe]

theorem filterRelations_eq [ThirdParty] {relations : List CoordinatorRelation} {view : DataView}
    {filters : BranchFilters} (hf : branchFilters view.branchView = .ok filters)
    (hnd : ∀ ids, view.sampleIds = some ids → ids.Nodup) :
    filterRelations relations view =
      if relations.filter (view.passesFilters filters) = [] then
        .error (.validation "data view selected no coordinator relations")
      else .ok (view.inOrder (relations.filter (view.passesFilters filters))) := by
  have hchain : (relations.zipIdx.filter fun e => view.passesFilters filters e.1) = [] ↔
      relations.filter (view.passesFilters filters) = [] := by
    rw [← StableOrder.map_fst_filter_zipIdx relations _ 0, List.map_eq_nil_iff]
  have hmerge : ∀ e : CoordinatorRelation × Nat,
      ((view.includeExcluded || !e.1.excluded) && ((view.includeAugmented || !e.1.isAugmented) &&
        ((passes filters.native fun f => e.1.hasMetadata f.metadataEquals &&
          e.1.hasTags f.tagsAll) &&
        (passes filters.tags e.1.hasTags && (passes filters.metadata e.1.hasMetadata &&
        (passes filters.sources e.1.hasSourceIn && (passes view.sourceIds e.1.hasSourceIn &&
        passes view.sampleIds fun s => (BTreeSet.collect s).contains e.1.sampleId))))))) =
      view.passesFilters filters e.1 := by
    intro e
    simp only [DataView.passesFilters, BranchFilters.letsThrough]
    ac_rfl
  unfold filterRelations
  simp only [hf, bind, Except.bind, List.filter_filter, hmerge]
  by_cases hempty : relations.filter (view.passesFilters filters) = []
  · rw [hchain.mpr hempty, if_pos hempty]
    rfl
  rw [if_neg hempty]
  have hne : (relations.zipIdx.filter fun e => view.passesFilters filters e.1).isEmpty = false := by
    simpa using fun h => hempty (hchain.mp h)
  simp only [rejectIf, hne, Bool.false_eq_true, if_false]
  cases hs : view.sampleIds with
  | none =>
    simp only [DataView.inOrder, hs, StableOrder.map_fst_filter_zipIdx]
    rfl
  | some ids =>
    have hsort := StableOrder.insertionSort_eq_flatMap
      (fun r : CoordinatorRelation => r.sampleId)
      (fun a b => keyLe (viewOrderKey (BTreeMap.collect ids.zipIdx) a)
        (viewOrderKey (BTreeMap.collect ids.zipIdx) b))
      (pairwise_order (hnd ids hs) (d := u64Size - 1))
      (StableOrder.pairwise_filter_zipIdx relations
        (fun e => view.passesFilters filters e.1) 0) ?_ ?_
    · simp only [DataView.inOrder, hs]
      rw [hsort, StableOrder.map_fst_byKey]
      rfl
    · intro e he
      have hp := (List.mem_filter.mp he).2
      simp only [DataView.passesFilters, Bool.and_eq_true, hs, passes] at hp
      simpa using hp.1.1.1.1
    · intro a b
      rw [keyLe_iff]
      simp only [viewOrderKey, StableOrder.Precedes]
      omega

/-- The tests of the source are what the view asks. -/
theorem passesFilters_and_hasLabels_iff {view : DataView} {filters : BranchFilters}
    {parent : CoordinatorDataHandleRecord} {labels : List (String × String)}
    {r : CoordinatorRelation}
    (hbranch : filters.letsThrough r = true ↔ ∀ b, view.branchView = some b → b.Selects r)
    (hlabels : resolvedViewLabels view parent = .ok labels) :
    (view.passesFilters filters r && r.hasLabels labels) = true ↔ view.Selects parent r := by
  obtain ⟨-, rfl⟩ := resolvedViewLabels_eq_ok.mp hlabels
  have hlabel : r.hasLabels
    (if view.sampleIds.isSome then [] else viewLabels view parent) = true ↔
      (view.sampleIds = none → r.hasLabels (viewLabels view parent) = true) := by
    cases view.sampleIds <;> simp [CoordinatorRelation.hasLabels]
  have hsample : passes view.sampleIds
    (fun s => (BTreeSet.collect s).contains r.sampleId) = true ↔
      ∀ ids, view.sampleIds = some ids → r.sampleId ∈ ids := by
    cases view.sampleIds <;> simp [passes]
  have hsource : passes view.sourceIds r.hasSourceIn = true ↔
      ∀ ids, view.sourceIds = some ids → ∃ source ∈ ids, r.sourceId = some source := by
    cases view.sourceIds <;> simp [passes, CoordinatorRelation.hasSourceIn_iff]
  have hflag : ∀ shown marked : Bool, (shown || !marked) = true ↔
    (marked = true → shown = true) := by
    decide
  simp only [Bool.and_eq_true, DataView.passesFilters, hbranch, hlabel, hsample, hsource, hflag,
    hasLabels_viewLabels]
  constructor
  · rintro ⟨⟨⟨⟨⟨hsa, hso⟩, hb⟩, ha⟩, he⟩, hl⟩
    exact ⟨hsa, hso, hb, fun hn => (hl hn).1, fun hn => (hl hn).2, ha, he⟩
  · rintro ⟨hsa, hso, hb, hp, hf, ha, he⟩
    exact ⟨⟨⟨⟨⟨hsa, hso⟩, hb⟩, ha⟩, he⟩, fun hn => ⟨hp hn, hf hn⟩⟩

/-- A test that decides what a view selects. -/
theorem exists_selects [ThirdParty] {view : DataView} (h : validateView view = .ok ())
    (parent : CoordinatorDataHandleRecord) :
    ∃ filters, branchFilters view.branchView = .ok filters ∧
      ∀ labels, resolvedViewLabels view parent = .ok labels → ∀ r : CoordinatorRelation,
        (view.passesFilters filters r && r.hasLabels labels) = true ↔ view.Selects parent r := by
  simp only [validateView, bind_eq_ok, exists_unit] at h
  obtain ⟨filters, hf, hsel⟩ := branchFilters_ok h.2.2.2.2
  exact ⟨filters, hf, fun labels hl r => passesFilters_and_hasLabels_iff (hsel r) hl⟩

open Classical in
/-- The records of the parent that the view is for, in its order. -/
noncomputable def DataView.selectedRecords (view : DataView)
    (parent : CoordinatorDataHandleRecord) (records : List CoordinatorRelation) :
    List CoordinatorRelation :=
  view.inOrder (records.filter fun r => view.Selects parent r)

open Classical in
/-- The selection of a valid view succeeds exactly when there is something to select from a
handle of the right phase, and gives the records that the view is for. -/
theorem viewSelection_eq_ok [ThirdParty] {view : DataView} (hv : validateView view = .ok ())
    {parent : CoordinatorDataHandleRecord} {relations : CoordinatorRelationSet}
    {selected : List CoordinatorRelation} :
    viewSelection view parent relations = .ok selected ↔
      view.PhaseOk parent ∧ (∃ r ∈ relations.records, view.Selects parent r) ∧
        selected = view.selectedRecords parent relations.records := by
  obtain ⟨filters, hf, hsel⟩ := exists_selects hv parent
  have hnd : ∀ ids, view.sampleIds = some ids → ids.Nodup := by
    simp only [validateView, bind_eq_ok, exists_unit, whenSome_eq_ok, rejectIf_eq_ok,
      hasRepeats_eq_false] at hv
    exact hv.2.1
  unfold viewSelection
  simp only [bind_eq_ok, filterRelations_eq hf hnd, List.filter_filter]
  have hfilter : ∀ labels, resolvedViewLabels view parent = .ok labels →
      (relations.records.filter fun r => view.passesFilters filters r && r.hasLabels labels) =
        relations.records.filter fun r => view.Selects parent r :=
    fun labels hl => List.filter_congr fun r _ => by
      rw [Bool.eq_iff_iff, hsel labels hl r, decide_eq_true_iff]
  constructor
  · rintro ⟨labels, hl, h⟩
    rw [hfilter labels hl] at h
    split at h
    · cases h
    · next hne =>
      cases h
      refine ⟨(resolvedViewLabels_eq_ok.mp hl).1, ?_, rfl⟩
      simpa [List.filter_eq_nil_iff] using hne
  · rintro ⟨hphase, ⟨r, hr, hrs⟩, rfl⟩
    have hl := resolvedViewLabels_eq_ok.mpr ⟨hphase, rfl⟩
    refine ⟨_, hl, ?_⟩
    rw [hfilter _ hl, if_neg]
    · rfl
    · intro hnil
      exact absurd (decide_eq_true hrs) (by simpa using List.filter_eq_nil_iff.mp hnil r hr)

/-- The records of a view are among the records of the parent. -/
theorem mem_of_mem_selectedRecords {view : DataView} {parent : CoordinatorDataHandleRecord}
    {records : List CoordinatorRelation} {r : CoordinatorRelation}
    (h : r ∈ view.selectedRecords parent records) : r ∈ records ∧ view.Selects parent r := by
  unfold DataView.selectedRecords DataView.inOrder at h
  split at h
  · obtain ⟨s, -, hr⟩ := List.mem_flatMap.mp h
    simpa using List.mem_of_mem_filter hr
  · simpa using h

/-! ## The operation -/

namespace CoordinatorHandleArena

variable [ThirdParty]

/-- Making a view of a live handle with relations. -/
theorem makeView_exec {arena : CoordinatorHandleArena} {dataHandle : Nat}
    {parent : CoordinatorDataHandleRecord} {relations : CoordinatorRelationSet}
    (hp : arena.records[dataHandle]? = some parent)
    (hr : arena.dataRelations[dataHandle]? = some relations) (view : DataView) :
    (makeView dataHandle view).exec arena =
      match validateView view >>= fun _ => viewSelection view parent relations with
      | .error e => (.error e, arena)
      | .ok selected =>
        let record : CoordinatorDataViewRecord :=
          ⟨⟨arena.nextHandle, .view, arena.ownerController⟩, parent.handle, view,
            uniqueSampleCount selected, selected.length⟩
        (.ok record, arena.advance.insertView record ⟨selected⟩) := by
  simp only [makeView, exec_ofResult_bind, exec_takeHandle_bind, exec_get_bind, exec_modify_bind,
    exec_pure, hp, hr, require]
  cases validateView view with
  | error e => rfl
  | ok u => cases viewSelection view parent relations <;> rfl

/-- A view of a live handle with relations is made exactly when the view is valid, asks for the
partition `predict` only of a handle of that phase, and selects a record. Its records are the
records that it is for, in its order. -/
theorem makeView_correct {arena : CoordinatorHandleArena} {dataHandle : Nat}
    {parent : CoordinatorDataHandleRecord} {relations : CoordinatorRelationSet}
    (hp : arena.records[dataHandle]? = some parent)
    (hr : arena.dataRelations[dataHandle]? = some relations) (view : DataView) :
    ((∃ record, ((makeView dataHandle view).exec arena).1 = .ok record) ↔
      validateView view = .ok () ∧ view.PhaseOk parent ∧
        ∃ r ∈ relations.records, view.Selects parent r) ∧
    ∀ record, ((makeView dataHandle view).exec arena).1 = .ok record →
      let after := ((makeView dataHandle view).exec arena).2
      let selected := view.selectedRecords parent relations.records
      after.viewRelations[record.handle.handle]? = some ⟨selected⟩ ∧
        after.viewRecords[record.handle.handle]? = some record ∧
        record.parentHandle = parent.handle ∧ record.relationRecordCount = selected.length ∧
        record.sampleCount = uniqueSampleCount selected := by
  have hexec := makeView_exec hp hr view
  cases hv : validateView view with
  | error e =>
    rw [hv] at hexec
    simp [hexec, bind, Except.bind]
  | ok u =>
    rw [hv] at hexec
    cases hs : viewSelection view parent relations with
    | error e =>
      have hno : ¬ (view.PhaseOk parent ∧
        ∃ r ∈ relations.records, view.Selects parent r) := by
        intro h
        have := (viewSelection_eq_ok hv).mpr ⟨h.1, h.2, rfl⟩
        rw [hs] at this
        cases this
      rw [hs] at hexec
      simp [hexec, bind, Except.bind, hno]
    | ok selected =>
      obtain ⟨hphase, hsome, rfl⟩ := (viewSelection_eq_ok hv).mp hs
      rw [hs] at hexec
      simp [hexec, bind, Except.bind, hphase, hsome, insertView]

/-- One observation. -/
def plainRelations : CoordinatorRelationSet :=
  ⟨[CoordinatorRelation.new (.lit "o1" rfl) (.lit "s1" rfl)]⟩

/-- An arena with one data handle. -/
def plainArena : CoordinatorHandleArena where
  ownerController := "controller"
  nextHandle := 2
  records := BTreeMap.collect [(1,
    { handle := ⟨1, .data, "controller"⟩, runId := "run", nodeId := "node", inputName := "x"
      phase := "fit_cv", variantId := none, foldId := none, requestId := "request"
      schemaFingerprint := "", planFingerprint := "", relationFingerprint := none
      planId := "plan", outputRepresentation := .lit "tabular" rfl, sourceIds := []
      sampleCount := some 1, relationRecordCount := some 1 })]
  dataRelations := BTreeMap.collect [(1, plainRelations)]
  viewRecords := ∅
  viewRelations := ∅

/-- A view without restrictions. -/
def plainView : DataView := ⟨none, none, none, none, none, true, false, none⟩

omit [ThirdParty] in
theorem plainView_made :
    ∃ record, ((@makeView (.ofTable []) 1 plainView).exec plainArena).1 = .ok record := by
  have hp : ∃ parent, plainArena.records[1]? = some parent := by
    simp [plainArena, BTreeMap.collect]
  have hr : plainArena.dataRelations[1]? = some plainRelations := by
    simp [plainArena, BTreeMap.collect]
  obtain ⟨parent, hp⟩ := hp
  refine (@makeView_correct (.ofTable []) plainArena 1 parent _ hp hr plainView).1.mpr
    ⟨rfl, ?_, _, List.mem_cons_self, ?_⟩
  · intro _ h
    simp [plainView] at h
  · constructor <;> simp [plainView, CoordinatorRelation.new]

end CoordinatorHandleArena

end DagMlData
