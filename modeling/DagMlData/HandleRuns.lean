import DagMlData.ViewSelection

/-!
# Runs of the handle arena

`StepSpec` says once what each call does. The invariant `WellFormed` links the four maps and the
counter of the arena. Every step keeps it while the counter does not wrap (`WellFormed.step`),
so it holds after every run (`arena_run`).
-/

namespace DagMlData

open Guard

namespace CoordinatorHandleArena

/-! ## The invariant -/

/-- The record of a data handle agrees with the relations stored for it. -/
structure DataRecordOk (arena : CoordinatorHandleArena) (h : Nat)
    (record : CoordinatorDataHandleRecord) : Prop where
  handle : record.handle = ⟨h, .data, arena.ownerController⟩
  sampleCount : record.sampleCount =
    arena.dataRelations[h]?.map fun relations => uniqueSampleCount relations.records
  recordCount : record.relationRecordCount =
    arena.dataRelations[h]?.map fun relations => relations.records.length

/-- The record of a view agrees with the relations stored for it, its parent is live, and its
relations are among those of the parent. -/
structure ViewRecordOk (arena : CoordinatorHandleArena) (v : Nat)
    (record : CoordinatorDataViewRecord) (relations : CoordinatorRelationSet) : Prop where
  handle : record.handle = ⟨v, .view, arena.ownerController⟩
  sampleCount : record.sampleCount = uniqueSampleCount relations.records
  recordCount : record.relationRecordCount = relations.records.length
  parent : ∃ parent parentRelations,
    arena.records[record.parentHandle.handle]? = some parent ∧
    parent.handle = record.parentHandle ∧
    arena.dataRelations[record.parentHandle.handle]? = some parentRelations ∧
    ∀ r ∈ relations.records, r ∈ parentRelations.records

/-- What holds of the arena after every run. -/
structure WellFormed (arena : CoordinatorHandleArena) : Prop where
  data_lt : ∀ h ∈ arena.records, h < arena.nextHandle
  view_lt : ∀ v ∈ arena.viewRecords, v < arena.nextHandle
  disjoint : ∀ h ∈ arena.records, h ∉ arena.viewRecords
  view_keys : ∀ v, v ∈ arena.viewRelations ↔ v ∈ arena.viewRecords
  data_keys : ∀ h ∈ arena.dataRelations, h ∈ arena.records
  data_record : ∀ h record, arena.records[h]? = some record → arena.DataRecordOk h record
  view_record : ∀ v record relations, arena.viewRecords[v]? = some record →
    arena.viewRelations[v]? = some relations → arena.ViewRecordOk v record relations

theorem wellFormed_new {owner : String} {arena : CoordinatorHandleArena}
    (h : new owner = .ok arena) : arena.WellFormed := by
  simp only [new, bind_eq_ok, pure_eq_ok] at h
  obtain ⟨-, -, rfl⟩ := h
  constructor <;> simp

theorem nextHandle_advance {arena : CoordinatorHandleArena} (h : arena.nextHandle + 1 < u64Size) :
    arena.advance.nextHandle = arena.nextHandle + 1 :=
  Nat.mod_eq_of_lt h

theorem getElem?_insert_eq {α : Type} {m : BTreeMap Nat α} {n k : Nat} {v : α} :
    (m.insert n v)[k]? = if k = n then some v else m[k]? := by
  by_cases h : k = n
  · simp [h]
  · rw [if_neg h, BTreeMap.getElem?_insert_of_ne (Ne.symm h)]

/-- The next handle is not in use. -/
theorem WellFormed.fresh {arena : CoordinatorHandleArena} (h : arena.WellFormed) :
    arena.nextHandle ∉ arena.records ∧ arena.nextHandle ∉ arena.viewRecords ∧
      arena.nextHandle ∉ arena.dataRelations := by
  have hdata : arena.nextHandle ∉ arena.records := fun hk => lt_irrefl _ (h.data_lt _ hk)
  exact ⟨hdata, fun hk => lt_irrefl _ (h.view_lt _ hk), fun hk => hdata (h.data_keys _ hk)⟩

@[simp] theorem dataRecord_handle (envelope : CoordinatorDataPlanEnvelope)
    (request : CoordinatorDataMaterializationRequest) (scope : Option CoordinatorRelationSet)
    (handle : CoordinatorHandleRef) : (dataRecord envelope request scope handle).handle = handle :=
  rfl

theorem getElem?_records_insertData (arena : CoordinatorHandleArena)
    (record : CoordinatorDataHandleRecord) (scope : Option CoordinatorRelationSet) (k : Nat) :
    (arena.insertData record scope).records[k]? =
      if k = record.handle.handle then some record else arena.records[k]? :=
  getElem?_insert_eq

theorem getElem?_viewRecords_insertView (arena : CoordinatorHandleArena)
    (record : CoordinatorDataViewRecord) (relations : CoordinatorRelationSet) (k : Nat) :
    (arena.insertView record relations).viewRecords[k]? =
      if k = record.handle.handle then some record else arena.viewRecords[k]? :=
  getElem?_insert_eq

theorem getElem?_viewRelations_insertView (arena : CoordinatorHandleArena)
    (record : CoordinatorDataViewRecord) (relations : CoordinatorRelationSet) (k : Nat) :
    (arena.insertView record relations).viewRelations[k]? =
      if k = record.handle.handle then some relations else arena.viewRelations[k]? :=
  getElem?_insert_eq

theorem getElem?_dataRelations_insertData {arena : CoordinatorHandleArena}
    {record : CoordinatorDataHandleRecord} {scope : Option CoordinatorRelationSet}
    (hfresh : record.handle.handle ∉ arena.dataRelations) (k : Nat) :
    (arena.insertData record scope).dataRelations[k]? =
      if k = record.handle.handle then scope else arena.dataRelations[k]? := by
  cases scope with
  | some relations => simp only [insertData, getElem?_insert_eq]
  | none =>
    simp only [insertData]
    split
    · next hk =>
      rw [hk]
      simpa using hfresh
    · rfl

theorem WellFormed.insertData {arena : CoordinatorHandleArena} (h : arena.WellFormed)
    (hsize : arena.nextHandle + 1 < u64Size) {record : CoordinatorDataHandleRecord}
    {scope : Option CoordinatorRelationSet}
    (hhandle : record.handle = ⟨arena.nextHandle, .data, arena.ownerController⟩)
    (hsamples : record.sampleCount = scope.map fun relations => uniqueSampleCount relations.records)
    (hrecords : record.relationRecordCount = scope.map fun relations => relations.records.length) :
    (arena.advance.insertData record scope).WellFormed := by
  obtain ⟨hdata, hview, hrel⟩ := h.fresh
  have hnext := nextHandle_advance hsize
  have hkey : record.handle.handle = arena.nextHandle := by rw [hhandle]
  have hrecs : ∀ k, (arena.advance.insertData record scope).records[k]? =
      if k = arena.nextHandle then some record else arena.records[k]? := by
    intro k
    rw [getElem?_records_insertData, hkey]
    rfl
  have hrels : ∀ k, (arena.advance.insertData record scope).dataRelations[k]? =
      if k = arena.nextHandle then scope else arena.dataRelations[k]? := by
    intro k
    rw [getElem?_dataRelations_insertData (by rw [hkey]; exact hrel), hkey]
    rfl
  have hmem : ∀ k, k ∈ (arena.advance.insertData record scope).records ↔
      k = arena.nextHandle ∨ k ∈ arena.records := by
    intro k
    rw [BTreeMap.mem_iff_exists_getElem?, hrecs, BTreeMap.mem_iff_exists_getElem?]
    split <;> simp_all
  refine
    { data_lt := ?_, view_lt := ?_, disjoint := ?_, view_keys := h.view_keys, data_keys := ?_
      data_record := ?_, view_record := ?_ }
  · intro k hk
    change k < arena.advance.nextHandle
    rw [hnext]
    rcases (hmem k).mp hk with rfl | hk
    · omega
    · exact Nat.lt_succ_of_lt (h.data_lt k hk)
  · intro v hv
    change v < arena.advance.nextHandle
    rw [hnext]
    exact Nat.lt_succ_of_lt (h.view_lt v hv)
  · intro k hk
    rcases (hmem k).mp hk with rfl | hk
    · exact hview
    · exact h.disjoint k hk
  · intro k hk
    rw [hmem]
    rw [BTreeMap.mem_iff_exists_getElem?, hrels] at hk
    split at hk
    · next heq => exact Or.inl heq
    · exact Or.inr (h.data_keys k (BTreeMap.mem_iff_exists_getElem?.mpr hk))
  · intro k r hr
    rw [hrecs] at hr
    split at hr
    · next heq =>
      cases hr
      subst heq
      exact ⟨hhandle, by rw [hrels, if_pos rfl, hsamples], by rw [hrels, if_pos rfl, hrecords]⟩
    · next hne =>
      obtain ⟨h₁, h₂, h₃⟩ := h.data_record k r hr
      exact ⟨h₁, by rw [hrels, if_neg hne, h₂], by rw [hrels, if_neg hne, h₃]⟩
  · intro v r rs hr hrs
    obtain ⟨h₁, h₂, h₃, p, prs, hp, hph, hprs, hsub⟩ := h.view_record v r rs hr hrs
    have hne : r.parentHandle.handle ≠ arena.nextHandle := by
      intro heq
      exact hdata (BTreeMap.mem_iff_exists_getElem?.mpr ⟨p, heq ▸ hp⟩)
    exact ⟨h₁, h₂, h₃, p, prs, by rw [hrecs, if_neg hne, hp], hph,
      by rw [hrels, if_neg hne, hprs], hsub⟩

theorem WellFormed.insertView {arena : CoordinatorHandleArena} (h : arena.WellFormed)
    (hsize : arena.nextHandle + 1 < u64Size) {record : CoordinatorDataViewRecord}
    {relations : CoordinatorRelationSet}
    (hhandle : record.handle = ⟨arena.nextHandle, .view, arena.ownerController⟩)
    (hok : arena.ViewRecordOk arena.nextHandle record relations) :
    (arena.advance.insertView record relations).WellFormed := by
  obtain ⟨hdata, hview, hrel⟩ := h.fresh
  have hnext := nextHandle_advance hsize
  have hkey : record.handle.handle = arena.nextHandle := by rw [hhandle]
  have hrecs : ∀ k, (arena.advance.insertView record relations).viewRecords[k]? =
      if k = arena.nextHandle then some record else arena.viewRecords[k]? := by
    intro k
    rw [getElem?_viewRecords_insertView, hkey]
    rfl
  have hrels : ∀ k, (arena.advance.insertView record relations).viewRelations[k]? =
      if k = arena.nextHandle then some relations else arena.viewRelations[k]? := by
    intro k
    rw [getElem?_viewRelations_insertView, hkey]
    rfl
  have hmem : ∀ k, k ∈ (arena.advance.insertView record relations).viewRecords ↔
      k = arena.nextHandle ∨ k ∈ arena.viewRecords := by
    intro k
    rw [BTreeMap.mem_iff_exists_getElem?, hrecs, BTreeMap.mem_iff_exists_getElem?]
    split <;> simp_all
  refine
    { data_lt := ?_, view_lt := ?_, disjoint := ?_, view_keys := ?_, data_keys := h.data_keys
      data_record := ?_, view_record := ?_ }
  · intro k hk
    change k < arena.advance.nextHandle
    rw [hnext]
    exact Nat.lt_succ_of_lt (h.data_lt k hk)
  · intro v hv
    change v < arena.advance.nextHandle
    rw [hnext]
    rcases (hmem v).mp hv with rfl | hv
    · omega
    · exact Nat.lt_succ_of_lt (h.view_lt v hv)
  · intro k hk hv
    rcases (hmem k).mp hv with rfl | hv
    · exact hdata hk
    · exact h.disjoint k hk hv
  · intro v
    rw [hmem, BTreeMap.mem_iff_exists_getElem?, hrels, ← h.view_keys v,
      BTreeMap.mem_iff_exists_getElem? (m := arena.viewRelations)]
    split <;> simp_all
  · intro k r hr
    obtain ⟨h₁, h₂, h₃⟩ := h.data_record k r hr
    exact ⟨h₁, h₂, h₃⟩
  · intro v r rs hr hrs
    rw [hrecs] at hr
    rw [hrels] at hrs
    split at hr
    · next heq =>
      rw [if_pos heq] at hrs
      cases hr
      cases hrs
      subst heq
      exact ⟨hok.handle, hok.sampleCount, hok.recordCount, hok.parent⟩
    · next hne =>
      rw [if_neg hne] at hrs
      obtain ⟨h₁, h₂, h₃, hparent⟩ := h.view_record v r rs hr hrs
      exact ⟨h₁, h₂, h₃, hparent⟩

/-! ### Releasing -/

/-- Only the view `v` is gone. -/
structure RemovesView (before after : CoordinatorHandleArena) (v : Nat) : Prop where
  nextHandle : after.nextHandle = before.nextHandle
  ownerController : after.ownerController = before.ownerController
  records : after.records = before.records
  dataRelations : after.dataRelations = before.dataRelations
  viewRecords : after.viewRecords = before.viewRecords.erase v
  viewRelations : after.viewRelations = before.viewRelations.erase v

/-- Only the data handle `h`, its relations and the views whose parent it is are gone. -/
structure RemovesData (before after : CoordinatorHandleArena) (h : Nat) : Prop where
  nextHandle : after.nextHandle = before.nextHandle
  ownerController : after.ownerController = before.ownerController
  records : after.records = before.records.erase h
  dataRelations : after.dataRelations = before.dataRelations.erase h
  viewRecords : ∀ v : Nat, after.viewRecords[v]? =
    before.viewRecords[v]?.filter fun record => record.parentHandle.handle ≠ h
  viewRelations : ∀ v : Nat, after.viewRelations[v]? =
    if v ∈ after.viewRecords then before.viewRelations[v]? else none

theorem removesView (arena : CoordinatorHandleArena) (v : Nat) :
    RemovesView arena (arena.eraseView v) v :=
  ⟨rfl, rfl, rfl, rfl, rfl, rfl⟩

theorem foldl_eraseView (arena : CoordinatorHandleArena) (keys : List Nat) :
    keys.foldl eraseView arena =
      { arena with
        viewRecords := BTreeMap.eraseAll arena.viewRecords keys
        viewRelations := BTreeMap.eraseAll arena.viewRelations keys } := by
  induction keys generalizing arena with
  | nil => rfl
  | cons k keys ih => rw [List.foldl_cons, ih]; rfl

theorem mem_childViews {arena : CoordinatorHandleArena} {parent : CoordinatorHandleRef} {v : Nat} :
    v ∈ arena.childViews parent ↔
      ∃ record, arena.viewRecords[v]? = some record ∧ record.parentHandle = parent := by
  simp only [childViews, List.mem_filterMap, Prod.exists,
    Std.ExtTreeMap.mem_toList_iff_getElem?_eq_some,
      Option.ite_none_right_eq_some, Option.some.injEq]
  constructor
  · rintro ⟨_, record, hr, hp, rfl⟩
    exact ⟨record, hr, hp⟩
  · rintro ⟨record, hr, hp⟩
    exact ⟨v, record, hr, hp, rfl⟩

/-- The views of a live data handle are those with its number as parent. -/
theorem WellFormed.parentHandle_eq_iff {arena : CoordinatorHandleArena} (h : arena.WellFormed)
    {k v : Nat} {record : CoordinatorDataHandleRecord} (hr : arena.records[k]? = some record)
    {view : CoordinatorDataViewRecord} (hv : arena.viewRecords[v]? = some view) :
    view.parentHandle = record.handle ↔ view.parentHandle.handle = k := by
  have hhandle := (h.data_record k record hr).handle
  obtain ⟨rs, hrs⟩ := BTreeMap.mem_iff_exists_getElem?.mp
    ((h.view_keys v).mpr (BTreeMap.mem_iff_exists_getElem?.mpr ⟨view, hv⟩))
  obtain ⟨parent, _, hp, hph, -⟩ := (h.view_record v view rs hv hrs).parent
  constructor
  · intro heq
    rw [heq, hhandle]
  · intro heq
    rw [heq, hr, Option.some.injEq] at hp
    rw [← hph, ← hp]

theorem WellFormed.removesData {arena : CoordinatorHandleArena} (h : arena.WellFormed) {k : Nat}
    {record : CoordinatorDataHandleRecord} (hr : arena.records[k]? = some record) :
    RemovesData arena
      (((arena.eraseData k).childViews record.handle).foldl eraseView (arena.eraseData k)) k := by
  have hchild : ∀ v, v ∈ (arena.eraseData k).childViews record.handle ↔
      ∃ view, arena.viewRecords[v]? = some view ∧ view.parentHandle.handle = k := by
    intro v
    rw [mem_childViews]
    refine exists_congr fun view => and_congr_right fun hv => ?_
    exact h.parentHandle_eq_iff hr hv
  rw [foldl_eraseView]
  refine ⟨rfl, rfl, rfl, rfl, fun v => ?_, fun v => ?_⟩
  · change (BTreeMap.eraseAll arena.viewRecords _)[v]? = _
    rw [BTreeMap.getElem?_eraseAll]
    split
    · next hc =>
      obtain ⟨view, hv, hk⟩ := (hchild v).mp hc
      simp [hv, hk, Option.filter]
    · next hc =>
      cases hv : arena.viewRecords[v]? with
      | none => rfl
      | some view =>
        have hk : view.parentHandle.handle ≠ k := fun hk => hc ((hchild v).mpr ⟨view, hv, hk⟩)
        simp [hk, Option.filter]
  · change (BTreeMap.eraseAll arena.viewRelations _)[v]? =
      if v ∈ BTreeMap.eraseAll arena.viewRecords _ then arena.viewRelations[v]? else none
    rw [BTreeMap.getElem?_eraseAll]
    simp only [BTreeMap.mem_eraseAll]
    by_cases hc : v ∈ (arena.eraseData k).childViews record.handle
    · simp [hc]
    · rw [if_neg hc]
      split
      · rfl
      · next hv =>
        have : v ∉ arena.viewRecords := fun hm => hv ⟨hc, hm⟩
        simpa [h.view_keys v] using this

theorem WellFormed.of_removesView {arena after : CoordinatorHandleArena} (h : arena.WellFormed)
    {v : Nat} (hrem : RemovesView arena after v) : after.WellFormed := by
  have hsub : ∀ k, k ∈ after.viewRecords → k ∈ arena.viewRecords := by
    intro k hk
    rw [hrem.viewRecords] at hk
    exact (Std.ExtTreeMap.mem_erase.mp hk).2
  refine
    { data_lt := ?_, view_lt := ?_, disjoint := ?_, view_keys := ?_, data_keys := ?_
      data_record := ?_, view_record := ?_ }
  · rw [hrem.records, hrem.nextHandle]
    exact h.data_lt
  · intro k hk
    rw [hrem.nextHandle]
    exact h.view_lt k (hsub k hk)
  · intro k hk hv
    rw [hrem.records] at hk
    exact h.disjoint k hk (hsub k hv)
  · intro k
    rw [hrem.viewRecords, hrem.viewRelations, Std.ExtTreeMap.mem_erase, Std.ExtTreeMap.mem_erase,
      h.view_keys]
  · rw [hrem.dataRelations, hrem.records]
    exact h.data_keys
  · intro k r hr
    rw [hrem.records] at hr
    obtain ⟨h₁, h₂, h₃⟩ := h.data_record k r hr
    refine ⟨?_, ?_, ?_⟩ <;> simp only [hrem.ownerController, hrem.dataRelations] <;> assumption
  · intro k r rs hr hrs
    rw [hrem.viewRecords] at hr
    rw [hrem.viewRelations] at hrs
    have hk : v ≠ k := by
      rintro rfl
      simp at hr
    rw [BTreeMap.getElem?_erase_of_ne hk] at hr hrs
    obtain ⟨h₁, h₂, h₃, hparent⟩ := h.view_record k r rs hr hrs
    refine ⟨?_, h₂, h₃, ?_⟩
    · rw [hrem.ownerController]
      exact h₁
    · rw [hrem.records, hrem.dataRelations]
      exact hparent

theorem WellFormed.of_removesData {arena after : CoordinatorHandleArena} (h : arena.WellFormed)
    {k : Nat} (hrem : RemovesData arena after k) : after.WellFormed := by
  have hview : ∀ (v : Nat) (r : CoordinatorDataViewRecord), after.viewRecords[v]? = some r →
      arena.viewRecords[v]? = some r ∧ r.parentHandle.handle ≠ k := by
    intro v r hr
    rw [hrem.viewRecords, Option.filter_eq_some_iff] at hr
    exact ⟨hr.1, by simpa using hr.2⟩
  have hsub : ∀ v, v ∈ after.viewRecords → v ∈ arena.viewRecords := by
    intro v hv
    obtain ⟨r, hr⟩ := BTreeMap.mem_iff_exists_getElem?.mp hv
    exact BTreeMap.mem_iff_exists_getElem?.mpr ⟨r, (hview v r hr).1⟩
  refine
    { data_lt := ?_, view_lt := ?_, disjoint := ?_, view_keys := ?_, data_keys := ?_
      data_record := ?_, view_record := ?_ }
  · intro a ha
    rw [hrem.records] at ha
    rw [hrem.nextHandle]
    exact h.data_lt a (Std.ExtTreeMap.mem_erase.mp ha).2
  · intro v hv
    rw [hrem.nextHandle]
    exact h.view_lt v (hsub v hv)
  · intro a ha hv
    rw [hrem.records] at ha
    exact h.disjoint a (Std.ExtTreeMap.mem_erase.mp ha).2 (hsub a hv)
  · intro v
    rw [BTreeMap.mem_iff_exists_getElem?, hrem.viewRelations]
    constructor
    · rintro ⟨rs, hrs⟩
      split at hrs
      · next hv => exact hv
      · cases hrs
    · intro hv
      rw [if_pos hv]
      exact BTreeMap.mem_iff_exists_getElem?.mp ((h.view_keys v).mpr (hsub v hv))
  · intro a ha
    rw [hrem.dataRelations, Std.ExtTreeMap.mem_erase] at ha
    rw [hrem.records, Std.ExtTreeMap.mem_erase]
    exact ⟨ha.1, h.data_keys a ha.2⟩
  · intro a r hr
    rw [hrem.records] at hr
    have hne : k ≠ a := by
      rintro rfl
      simp at hr
    rw [BTreeMap.getElem?_erase_of_ne hne] at hr
    obtain ⟨h₁, h₂, h₃⟩ := h.data_record a r hr
    refine ⟨?_, ?_, ?_⟩
    · rw [hrem.ownerController]
      exact h₁
    · rw [hrem.dataRelations, BTreeMap.getElem?_erase_of_ne hne]
      exact h₂
    · rw [hrem.dataRelations, BTreeMap.getElem?_erase_of_ne hne]
      exact h₃
  · intro v r rs hr hrs
    obtain ⟨hr, hne⟩ := hview v r hr
    rw [hrem.viewRelations] at hrs
    split at hrs
    · obtain ⟨h₁, h₂, h₃, p, prs, hp, hph, hprs, hsubset⟩ := h.view_record v r rs hr hrs
      refine ⟨?_, h₂, h₃, p, prs, ?_, hph, ?_, hsubset⟩
      · rw [hrem.ownerController]
        exact h₁
      · rw [hrem.records, BTreeMap.getElem?_erase_of_ne hne.symm]
        exact hp
      · rw [hrem.dataRelations, BTreeMap.getElem?_erase_of_ne hne.symm]
        exact hprs
    · cases hrs

/-! ## What a call does -/

/-- The handle that a reply hands out. -/
def minted : ArenaReply → Option Nat
  | .materialized (.ok record) => some record.handle.handle
  | .viewed (.ok record) => some record.handle.handle
  | _ => none

variable [ThirdParty]

/-- What a call does to the arena: the reply and the next arena. -/
inductive StepSpec (arena : CoordinatorHandleArena) :
    ArenaCall → ArenaReply → CoordinatorHandleArena → Prop
  | notMaterialized {envelope : CoordinatorDataPlanEnvelope}
      {request : CoordinatorDataMaterializationRequest} {e : DataError} :
      materializationScope envelope request = .error e →
      StepSpec arena (.materialize envelope request) (.materialized (.error e)) arena
  | materialized {envelope : CoordinatorDataPlanEnvelope}
      {request : CoordinatorDataMaterializationRequest} {scope : Option CoordinatorRelationSet}
      {record : CoordinatorDataHandleRecord} :
      materializationScope envelope request = .ok scope →
      record = dataRecord envelope request scope
        ⟨arena.nextHandle, .data, arena.ownerController⟩ →
      StepSpec arena (.materialize envelope request) (.materialized (.ok record))
        (arena.advance.insertData record scope)
  | notViewed {dataHandle : Nat} {view : DataView} {e : DataError} :
      StepSpec arena (.makeView dataHandle view) (.viewed (.error e)) arena
  | viewed {dataHandle : Nat} {view : DataView} {parent : CoordinatorDataHandleRecord}
      {relations : CoordinatorRelationSet} {selected : List CoordinatorRelation}
      {record : CoordinatorDataViewRecord} :
      validateView view = .ok () →
      arena.records[dataHandle]? = some parent →
      arena.dataRelations[dataHandle]? = some relations →
      viewSelection view parent relations = .ok selected →
      record = ⟨⟨arena.nextHandle, .view, arena.ownerController⟩, parent.handle, view,
        uniqueSampleCount selected, selected.length⟩ →
      StepSpec arena (.makeView dataHandle view) (.viewed (.ok record))
        (arena.advance.insertView record ⟨selected⟩)
  | releasedView {handle : Nat} :
      handle ∈ arena.viewRecords →
      StepSpec arena (.release handle) (.released true) (arena.eraseView handle)
  | releasedData {handle : Nat} {record : CoordinatorDataHandleRecord} :
      handle ∉ arena.viewRecords → arena.records[handle]? = some record →
      StepSpec arena (.release handle) (.released true)
        (((arena.eraseData handle).childViews record.handle).foldl eraseView
          (arena.eraseData handle))
  | releasedNothing {handle : Nat} :
      handle ∉ arena.viewRecords → handle ∉ arena.records →
      StepSpec arena (.release handle) (.released false) arena

/-- The scope of a request for all sources of valid relations. -/
theorem materializationScope_of_valid {envelope : CoordinatorDataPlanEnvelope}
    {request : CoordinatorDataMaterializationRequest} {relations : CoordinatorRelationSet}
    (henvelope : envelope.validate = .ok ()) (hrequest : request.validate = .ok ())
    (hagree : validateRequestAgainstEnvelope envelope request = .ok ())
    (hrelations : materializationRelations envelope request = .ok (some relations))
    (hsources : request.sourceIds = []) (hvalid : relations.validate = .ok ()) :
    materializationScope envelope request = .ok (some relations) := by
  have hscoped : scopedRelationsForMaterialization request relations = .ok relations := by
    unfold scopedRelationsForMaterialization
    rw [hvalid, hsources]
    rfl
  unfold materializationScope
  rw [henvelope, hrequest, hagree, hrelations]
  show some <$> scopedRelationsForMaterialization request relations = _
  rw [hscoped]
  rfl

theorem exec_materialize (arena : CoordinatorHandleArena) (envelope : CoordinatorDataPlanEnvelope)
    (request : CoordinatorDataMaterializationRequest) :
    (materialize envelope request).exec arena =
      match materializationScope envelope request with
      | .error e => (.error e, arena)
      | .ok scope =>
        let record := dataRecord envelope request scope
          ⟨arena.nextHandle, .data, arena.ownerController⟩
        (.ok record, arena.advance.insertData record scope) := by
  simp only [materialize, exec_ofResult_bind, exec_takeHandle_bind, exec_get_bind,
    exec_modify_bind, exec_pure]
  cases materializationScope envelope request with
  | error e => rfl
  | ok scope => rfl

theorem stepSpec_materialize (arena : CoordinatorHandleArena)
    (envelope : CoordinatorDataPlanEnvelope)
    (request : CoordinatorDataMaterializationRequest) :
    StepSpec arena (.materialize envelope request) (arena.step (.materialize envelope request)).1
      (arena.step (.materialize envelope request)).2 := by
  simp only [step, exec_materialize]
  cases h : materializationScope envelope request with
  | error e => exact .notMaterialized h
  | ok scope => exact .materialized h rfl

theorem stepSpec_makeView (arena : CoordinatorHandleArena) (dataHandle : Nat) (view : DataView) :
    StepSpec arena (.makeView dataHandle view) (arena.step (.makeView dataHandle view)).1
      (arena.step (.makeView dataHandle view)).2 := by
  simp only [step, makeView, exec_ofResult_bind, exec_takeHandle_bind, exec_get_bind,
    exec_modify_bind, exec_pure]
  cases hv : validateView view with
  | error e => exact .notViewed
  | ok u =>
  cases hp : arena.records[dataHandle]? with
  | none => exact .notViewed
  | some parent =>
  cases hr : arena.dataRelations[dataHandle]? with
  | none => exact .notViewed
  | some relations =>
  simp only [require]
  cases hs : viewSelection view parent relations with
  | error e => exact .notViewed
  | ok selected => exact .viewed hv hp hr hs rfl

theorem stepSpec_release (arena : CoordinatorHandleArena) (handle : Nat) :
    StepSpec arena (.release handle) (arena.step (.release handle)).1
      (arena.step (.release handle)).2 := by
  simp only [step, releaseHandle]
  by_cases hv : handle ∈ arena.viewRecords
  · rw [if_pos (Std.ExtTreeMap.contains_iff_mem.mpr hv)]
    exact .releasedView hv
  · rw [if_neg (fun h => hv (Std.ExtTreeMap.contains_iff_mem.mp h))]
    cases hr : arena.records[handle]? with
    | none => exact .releasedNothing hv (by simpa using hr)
    | some record => exact .releasedData hv hr

theorem step_spec (arena : CoordinatorHandleArena) (call : ArenaCall) :
    StepSpec arena call (arena.step call).1 (arena.step call).2 := by
  cases call with
  | materialize envelope request => exact stepSpec_materialize arena envelope request
  | makeView dataHandle view => exact stepSpec_makeView arena dataHandle view
  | release handle => exact stepSpec_release arena handle

/-! ## Steps and runs -/

/-- The arena after the calls. -/
abbrev run (arena : CoordinatorHandleArena) (calls : List ArenaCall) : CoordinatorHandleArena :=
  Machine.run step arena calls

/-- The handles that the calls hand out, in order. -/
abbrev mintedHandles (arena : CoordinatorHandleArena) (calls : List ArenaCall) : List Nat :=
  Machine.minted minted step arena calls

theorem mintsFromCounter :
    Machine.MintsFromCounter nextHandle minted u64Size
      (step : CoordinatorHandleArena → ArenaCall → ArenaReply × CoordinatorHandleArena) := by
  intro arena call
  cases hspec : step arena call with
  | mk reply after =>
  have h := step_spec arena call
  rw [hspec] at h
  simp only at h
  cases h with
  | notMaterialized _ => exact Or.inl ⟨rfl, rfl⟩
  | materialized _ hrecord => exact Or.inr ⟨by rw [hrecord]; rfl, rfl⟩
  | notViewed => exact Or.inl ⟨rfl, rfl⟩
  | viewed _ _ _ _ hrecord => exact Or.inr ⟨by rw [hrecord]; rfl, rfl⟩
  | releasedView _ => exact Or.inl ⟨rfl, rfl⟩
  | releasedData _ _ => exact Or.inl ⟨rfl, by rw [foldl_eraseView]; rfl⟩
  | releasedNothing _ _ => exact Or.inl ⟨rfl, rfl⟩

/-- One minted handle counts as one. -/
theorem length_mintedHandles_single (arena : CoordinatorHandleArena) (call : ArenaCall) :
    (arena.mintedHandles [call]).length =
      if (minted (arena.step call).1).isSome then 1 else 0 := by
  cases h : minted (arena.step call).1 <;>
    simp [mintedHandles, Machine.minted, Machine.replies, h]

/-- Every step keeps the invariant, as long as the counter does not wrap. -/
theorem WellFormed.step {arena : CoordinatorHandleArena} (h : arena.WellFormed) (call : ArenaCall)
    (hsize : arena.nextHandle + (arena.mintedHandles [call]).length < u64Size) :
    (arena.step call).2.WellFormed := by
  rw [length_mintedHandles_single] at hsize
  cases hspec : arena.step call with
  | mk reply after =>
  have hs := step_spec arena call
  rw [hspec] at hs hsize
  simp only at hs hsize
  cases hs with
  | notMaterialized _ => exact h
  | materialized hscope hrecord =>
    subst hrecord
    exact h.insertData (by simpa [minted] using hsize) rfl rfl rfl
  | notViewed => exact h
  | @viewed _ _ parent relations selected _ hv hp hr hs hrecord =>
    subst hrecord
    obtain ⟨-, -, rfl⟩ := (viewSelection_eq_ok hv).mp hs
    have hkey := (h.data_record _ parent hp).handle
    refine h.insertView (by simpa [minted] using hsize) rfl
      ⟨rfl, rfl, rfl, parent, relations, ?_⟩
    simp only [hkey]
    exact ⟨hp, trivial, hr, fun r hr => (mem_of_mem_selectedRecords hr).1⟩
  | releasedView _ => exact h.of_removesView (removesView arena _)
  | releasedData _ hr => exact h.of_removesData (h.removesData hr)
  | releasedNothing _ _ => exact h

/-- The relations of the handles that are live in both arenas are the same. -/
structure KeepsRelations (before after : CoordinatorHandleArena) : Prop where
  data : ∀ h ∈ before.records, h ∈ after.records →
    after.dataRelations[h]? = before.dataRelations[h]?
  views : ∀ v ∈ before.viewRecords, v ∈ after.viewRecords →
    after.viewRelations[v]? = before.viewRelations[v]?

/-- A handle below the counter that is live after a step had the same record and relations before
it. -/
theorem WellFormed.step_keeps {arena : CoordinatorHandleArena} (h : arena.WellFormed)
    (call : ArenaCall) {k : Nat} (hk : k < arena.nextHandle) :
    (k ∈ (arena.step call).2.records → (arena.step call).2.records[k]? = arena.records[k]? ∧
      (arena.step call).2.dataRelations[k]? = arena.dataRelations[k]?) ∧
    (k ∈ (arena.step call).2.viewRecords →
      (arena.step call).2.viewRecords[k]? = arena.viewRecords[k]? ∧
      (arena.step call).2.viewRelations[k]? = arena.viewRelations[k]?) := by
  obtain ⟨-, -, hrel⟩ := h.fresh
  have hne : k ≠ arena.nextHandle := Nat.ne_of_lt hk
  have hs := step_spec arena call
  generalize (arena.step call).1 = reply at hs
  generalize (arena.step call).2 = after at hs ⊢
  cases hs with
  | notMaterialized _ => exact ⟨fun _ => ⟨rfl, rfl⟩, fun _ => ⟨rfl, rfl⟩⟩
  | @materialized _ _ scope _ _ hrecord =>
    subst hrecord
    refine ⟨fun _ => ⟨?_, ?_⟩, fun _ => ⟨rfl, rfl⟩⟩
    · rw [getElem?_records_insertData, dataRecord_handle, if_neg hne]
      rfl
    · rw [getElem?_dataRelations_insertData hrel, dataRecord_handle, if_neg hne]
      rfl
  | notViewed => exact ⟨fun _ => ⟨rfl, rfl⟩, fun _ => ⟨rfl, rfl⟩⟩
  | viewed _ _ _ _ hrecord =>
    subst hrecord
    refine ⟨fun _ => ⟨rfl, rfl⟩, fun _ => ⟨?_, ?_⟩⟩
    · rw [getElem?_viewRecords_insertView, if_neg hne]
      rfl
    · rw [getElem?_viewRelations_insertView, if_neg hne]
      rfl
  | @releasedView v _ =>
    refine ⟨fun _ => ⟨rfl, rfl⟩, fun hl => ?_⟩
    have hv : v ≠ k := by simpa using (Std.ExtTreeMap.mem_erase.mp hl).1
    exact ⟨BTreeMap.getElem?_erase_of_ne hv, BTreeMap.getElem?_erase_of_ne hv⟩
  | @releasedData v _ _ hr =>
    have hrem := h.removesData hr
    refine ⟨fun hl => ?_, fun hl => ⟨?_, ?_⟩⟩
    · rw [hrem.records, Std.ExtTreeMap.mem_erase] at hl
      have hv : v ≠ k := by simpa using hl.1
      rw [hrem.records, hrem.dataRelations]
      exact ⟨BTreeMap.getElem?_erase_of_ne hv, BTreeMap.getElem?_erase_of_ne hv⟩
    · obtain ⟨r, hr⟩ := BTreeMap.mem_iff_exists_getElem?.mp hl
      have hkept := hr
      rw [hrem.viewRecords] at hkept
      exact hr.trans (Option.filter_eq_some_iff.mp hkept).1.symm
    · rw [hrem.viewRelations, if_pos hl]
  | releasedNothing _ _ => exact ⟨fun _ => ⟨rfl, rfl⟩, fun _ => ⟨rfl, rfl⟩⟩

/-- What a call must do: an error changes nothing, and a release removes what belongs to the
handle and nothing else. -/
structure CallContract (arena : CoordinatorHandleArena) (call : ArenaCall) : Prop where
  error : ∀ e, (arena.step call).1 = .materialized (.error e) ∨
    (arena.step call).1 = .viewed (.error e) → (arena.step call).2 = arena
  release_data : ∀ h ∈ arena.records, call = .release h →
    RemovesData arena (arena.step call).2 h
  release_view : ∀ v ∈ arena.viewRecords, call = .release v →
    RemovesView arena (arena.step call).2 v
  release_unknown : ∀ h, call = .release h → h ∉ arena.records → h ∉ arena.viewRecords →
    (arena.step call).2 = arena

theorem WellFormed.callContract {arena : CoordinatorHandleArena} (h : arena.WellFormed)
    (call : ArenaCall) : arena.CallContract call := by
  have hs := step_spec arena call
  constructor
  · intro e he
    generalize (arena.step call).1 = reply at hs he
    generalize (arena.step call).2 = after at hs
    cases hs <;> simp_all
  · rintro k hk rfl
    generalize (arena.step (.release k)).1 = reply at hs
    generalize (arena.step (.release k)).2 = after at hs ⊢
    cases hs with
    | releasedView hv => exact absurd hv (h.disjoint k hk)
    | releasedData _ hr => exact h.removesData hr
    | releasedNothing _ hn => exact absurd hk hn
  · rintro k hk rfl
    generalize (arena.step (.release k)).1 = reply at hs
    generalize (arena.step (.release k)).2 = after at hs ⊢
    cases hs with
    | releasedView _ => exact removesView arena k
    | releasedData hn _ => exact absurd hk hn
    | releasedNothing hn _ => exact absurd hk hn
  · rintro k rfl hd hv
    generalize (arena.step (.release k)).1 = reply at hs
    generalize (arena.step (.release k)).2 = after at hs ⊢
    cases hs with
    | releasedView hm => exact absurd hm hv
    | releasedData _ hr => exact absurd (BTreeMap.mem_iff_exists_getElem?.mpr ⟨_, hr⟩) hd
    | releasedNothing _ _ => rfl

theorem WellFormed.run {arena : CoordinatorHandleArena} (h : arena.WellFormed)
    {calls : List ArenaCall}
    (hsize : arena.nextHandle + (arena.mintedHandles calls).length < u64Size) :
    (arena.run calls).WellFormed :=
  Machine.run_preserves_of_no_wrap mintsFromCounter (fun _ call h hsize => h.step call hsize) h
    hsize

/-- A handle that is live at both ends of a run keeps its record and its relations. -/
theorem WellFormed.run_keeps_records {arena : CoordinatorHandleArena} (h : arena.WellFormed)
    {calls : List ArenaCall}
    (hsize : arena.nextHandle + (arena.mintedHandles calls).length < u64Size) :
    (∀ k ∈ arena.records, k ∈ (arena.run calls).records →
      (arena.run calls).records[k]? = arena.records[k]? ∧
      (arena.run calls).dataRelations[k]? = arena.dataRelations[k]?) ∧
    ∀ k ∈ arena.viewRecords, k ∈ (arena.run calls).viewRecords →
      (arena.run calls).viewRecords[k]? = arena.viewRecords[k]? ∧
      (arena.run calls).viewRelations[k]? = arena.viewRelations[k]? := by
  constructor
  · intro k hk hl
    have hstays := (Machine.stays_while_live mintsFromCounter
      (fun s k => k ∈ s.records) (fun s k => (s.records[k]?, s.dataRelations[k]?))
      (fun _ call h hsize => WellFormed.step h call hsize)
      (fun _ call _ h hk hl => by
        obtain ⟨hrecord, hrelations⟩ := (WellFormed.step_keeps h call hk).1 hl
        exact ⟨BTreeMap.mem_congr hrecord |>.mp hl, Prod.ext hrecord hrelations⟩) h hsize
      (h.data_lt k hk) hl).2
    exact ⟨congrArg Prod.fst hstays, congrArg Prod.snd hstays⟩
  · intro k hk hl
    have hstays := (Machine.stays_while_live mintsFromCounter
      (fun s k => k ∈ s.viewRecords) (fun s k => (s.viewRecords[k]?, s.viewRelations[k]?))
      (fun _ call h hsize => WellFormed.step h call hsize)
      (fun _ call _ h hk hl => by
        obtain ⟨hrecord, hrelations⟩ := (WellFormed.step_keeps h call hk).2 hl
        exact ⟨BTreeMap.mem_congr hrecord |>.mp hl, Prod.ext hrecord hrelations⟩) h hsize
      (h.view_lt k hk) hl).2
    exact ⟨congrArg Prod.fst hstays, congrArg Prod.snd hstays⟩

theorem WellFormed.run_keeps {arena : CoordinatorHandleArena} (h : arena.WellFormed)
    {calls : List ArenaCall}
    (hsize : arena.nextHandle + (arena.mintedHandles calls).length < u64Size) :
    KeepsRelations arena (arena.run calls) :=
  ⟨fun k hk hl => ((h.run_keeps_records hsize).1 k hk hl).2,
    fun k hk hl => ((h.run_keeps_records hsize).2 k hk hl).2⟩

/-- A prefix of a run leaves room in the counter for the rest of it. -/
theorem room_after {arena : CoordinatorHandleArena} {pre post : List ArenaCall}
    (hsize : arena.nextHandle + (arena.mintedHandles (pre ++ post)).length < u64Size) :
    arena.nextHandle + (arena.mintedHandles pre).length < u64Size ∧
      (arena.run pre).nextHandle + ((arena.run pre).mintedHandles post).length < u64Size := by
  have happ : arena.mintedHandles (pre ++ post) =
      arena.mintedHandles pre ++ (arena.run pre).mintedHandles post := Machine.minted_append ..
  replace happ := congrArg List.length happ
  rw [List.length_append] at happ
  have hpre : arena.nextHandle + (arena.mintedHandles pre).length < u64Size := by
    unfold mintedHandles at *
    omega
  refine ⟨hpre, ?_⟩
  have hcount := (Machine.minted_eq_range mintsFromCounter hpre).2
  unfold mintedHandles run at *
  omega

/-- In every run of a new arena that hands out fewer than `2 ^ 64 - 1` handles, the invariant
holds at the end, no handle is handed out twice, the relations of a handle stay as they are
while it is live, and every call keeps its contract. -/
theorem arena_run {owner : String} {arena : CoordinatorHandleArena}
    (hnew : CoordinatorHandleArena.new owner = .ok arena) {calls : List ArenaCall}
    (hsize : (arena.mintedHandles calls).length < 2 ^ 64 - 1) :
    (arena.run calls).WellFormed ∧ (arena.mintedHandles calls).Nodup ∧
      (∀ pre post, calls = pre ++ post → KeepsRelations (arena.run pre) (arena.run calls)) ∧
      ∀ pre call post, calls = pre ++ call :: post → (arena.run pre).CallContract call := by
  have hwf := wellFormed_new hnew
  have hone : arena.nextHandle = 1 := by
    simp only [new, bind_eq_ok, pure_eq_ok] at hnew
    obtain ⟨-, -, rfl⟩ := hnew
    rfl
  have hroom : arena.nextHandle + (arena.mintedHandles calls).length < u64Size := by
    rw [hone, u64Size]
    omega
  refine ⟨hwf.run hroom, Machine.minted_nodup mintsFromCounter hroom, ?_, ?_⟩
  · rintro pre post rfl
    obtain ⟨hpre, hpost⟩ := room_after hroom
    have hrun : arena.run (pre ++ post) = (arena.run pre).run post := Machine.run_append ..
    rw [hrun]
    exact (hwf.run hpre).run_keeps hpost
  · rintro pre call post rfl
    exact (hwf.run (room_after hroom).1).callContract call

omit [ThirdParty]

/-- An arena without handles. -/
def emptyArena : CoordinatorHandleArena := ⟨"controller", 1, ∅, ∅, ∅, ∅⟩

/-- A request for the training data of the test envelope. -/
def trainingRequest : CoordinatorDataMaterializationRequest where
  runId := "run"
  nodeId := "model"
  inputName := "x"
  phase := "FIT_CV"
  variantId := none
  foldId := none
  requestId := "request"
  schemaFingerprint := testEnvelope.schemaFingerprint
  planFingerprint := testEnvelope.planFingerprint
  relationFingerprint := none
  outputRepresentation := nirPlan.outputRepresentation
  sourceIds := []
  requireRelations := false
  predictCohort := none

theorem trainingRequest_scope :
    @materializationScope testDigests testEnvelope trainingRequest =
      .ok (some ⟨[trainingRecord]⟩) := by
  let _ := testDigests
  exact materializationScope_of_valid testEnvelope_valid (by decide +kernel) (by decide +kernel) rfl
    rfl (by decide +kernel)

/-- The test arena with the training data. -/
theorem materialize_trainingRequest :
    letI := testDigests
    (emptyArena.step (.materialize testEnvelope trainingRequest)).2 =
      emptyArena.advance.insertData
        (dataRecord testEnvelope trainingRequest (some ⟨[trainingRecord]⟩)
          ⟨1, .data, "controller"⟩) (some ⟨[trainingRecord]⟩) := by
  let _ := testDigests
  rw [step, exec_materialize, trainingRequest_scope]
  rfl

/-- The same data with the external test. -/
def testRequest : CoordinatorDataMaterializationRequest :=
  { trainingRequest with predictCohort := some testCohort }

/-- Materialize, view, release; then the training data and the external test, each with a view. -/
def shortRun : List ArenaCall :=
  [.materialize testEnvelope trainingRequest, .makeView 1 plainView, .release 1,
    .materialize testEnvelope trainingRequest, .makeView 3 plainView,
    .materialize testEnvelope testRequest, .makeView 5 plainView]

/-- The observations that are stored for each handle. -/
def storedObservations (relations : BTreeMap Nat CoordinatorRelationSet) :
    List (Nat × List String) :=
  relations.toList.map fun entry => (entry.1, entry.2.records.map (·.observationId.value))

/-- Two data handles and their views are live at the end. -/
theorem shortRun_stores :
    letI := testDigests
    storedObservations (emptyArena.run shortRun).dataRelations = [(3, ["o1"]), (5, ["o9"])] ∧
      storedObservations (emptyArena.run shortRun).viewRelations = [(4, ["o1"]), (6, ["o9"])] := by
  decide +kernel

theorem shortRun_wellFormed :
    letI := testDigests
    storedObservations (emptyArena.run shortRun).viewRelations = [(4, ["o1"]), (6, ["o9"])] ∧
      (emptyArena.run shortRun).WellFormed ∧ (emptyArena.mintedHandles shortRun).Nodup := by
  have h := @arena_run testDigests "controller" emptyArena rfl shortRun
    (lt_of_le_of_lt (Machine.length_minted_le _ _) (by decide))
  exact ⟨shortRun_stores.2, h.1, h.2.1⟩

end CoordinatorHandleArena

end DagMlData
