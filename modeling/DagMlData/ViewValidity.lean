import DagMlData.HandleRuns
import DagMlData.RelationSetValid

/-!
# Valid relations in the arena

The relations that are stored for a data handle were validated. The relations of a view are those
of its handle that pass the filters of the view one by one, so a view can have a combo record
without a record of one of its components. `viewRelations_valid_iff`: a view is valid exactly
when this does not happen. `relations_valid`: in a run without such views every stored relation
set is valid.
-/

namespace DagMlData

open Guard CoordinatorHandleArena

/-! ## Views of valid relations -/

section Views

variable {view : DataView} {parent : CoordinatorDataHandleRecord}
  {relations : CoordinatorRelationSet}

/-- With every combo record the view selects the records of its components. -/
def DataView.KeepsComponents (view : DataView) (parent : CoordinatorDataHandleRecord)
    (relations : CoordinatorRelationSet) : Prop :=
  ∀ combo ∈ relations.records, combo.unitLevel = .combo → view.Selects parent combo →
    ∀ row ∈ relations.records, row.observationId ∈ combo.componentObservationIds →
      view.Selects parent row

theorem DataView.nodup_inOrder {records : List CoordinatorRelation}
    (hview : ∀ ids, view.sampleIds = some ids → ids.Nodup) (h : records.Nodup) :
    (view.inOrder records).Nodup := by
  unfold DataView.inOrder
  cases hids : view.sampleIds with
  | none => exact h
  | some ids =>
    refine List.nodup_flatMap.mpr ⟨fun s _ => h.filter _, ?_⟩
    refine (hview ids hids).imp fun {s t} hne => ?_
    intro r hs ht
    have hs' := (List.mem_filter.mp hs).2
    have ht' := (List.mem_filter.mp ht).2
    exact hne ((of_decide_eq_true hs').symm.trans (of_decide_eq_true ht'))

theorem DataView.mem_inOrder {records : List CoordinatorRelation} {r : CoordinatorRelation}
    (h : ∀ ids, view.sampleIds = some ids → r.sampleId ∈ ids) :
    r ∈ view.inOrder records ↔ r ∈ records := by
  unfold DataView.inOrder
  cases hids : view.sampleIds with
  | none => rfl
  | some ids =>
    simp only [List.mem_flatMap, List.mem_filter, decide_eq_true_iff]
    constructor
    · rintro ⟨_, _, hr, _⟩
      exact hr
    · exact fun hr => ⟨r.sampleId, h ids hids, hr, rfl⟩

open Classical in
/-- The records of a view are the records that it selects. -/
theorem DataView.mem_selectedRecords {records : List CoordinatorRelation}
    {r : CoordinatorRelation} :
    r ∈ view.selectedRecords parent records ↔ r ∈ records ∧ view.Selects parent r := by
  refine ⟨mem_of_mem_selectedRecords, fun ⟨hr, hselects⟩ => ?_⟩
  unfold DataView.selectedRecords
  rw [DataView.mem_inOrder hselects.sample, List.mem_filter, decide_eq_true_iff]
  exact ⟨hr, hselects⟩

theorem DataView.selectedRecords_subperm (hset : relations.Valid)
    (hview : ∀ ids, view.sampleIds = some ids → ids.Nodup) :
    (view.selectedRecords parent relations.records).Subperm relations.records := by
  classical
  refine List.subperm_of_subset ?_ fun r hr => (DataView.mem_selectedRecords.mp hr).1
  exact DataView.nodup_inOrder hview (hset.observations.of_map.filter _)

/-- A view of valid relations is valid exactly when it keeps components. -/
theorem DataView.valid_selectedRecords_iff (hset : relations.Valid)
    (hview : ∀ ids, view.sampleIds = some ids → ids.Nodup)
    (hsome : ∃ r ∈ relations.records, view.Selects parent r) :
    CoordinatorRelationSet.Valid ⟨view.selectedRecords parent relations.records⟩ ↔
      view.KeepsComponents parent relations := by
  constructor
  · intro hvalid combo hcombo hlevel hselects row hrow hcomponent
    have hmem := DataView.mem_selectedRecords.mpr ⟨hcombo, hselects⟩
    obtain ⟨row', hrow', hobservation, _⟩ := hvalid.components combo hmem hlevel _ hcomponent
    obtain ⟨hrow', hselects'⟩ := DataView.mem_selectedRecords.mp hrow'
    rwa [hset.eq_of_observation hrow' hrow hobservation] at hselects'
  · intro hkeeps
    obtain ⟨r, hr, hselects⟩ := hsome
    refine hset.of_subset (List.ne_nil_of_mem (DataView.mem_selectedRecords.mpr ⟨hr, hselects⟩))
      (DataView.selectedRecords_subperm hset hview) fun combo hcombo hlevel component hc => ?_
    obtain ⟨hcombo, hselects⟩ := DataView.mem_selectedRecords.mp hcombo
    obtain ⟨row, hrow, hobservation, hsample⟩ :=
      hset.components combo hcombo hlevel component hc
    have hrowSelects := hkeeps combo hcombo hlevel hselects row hrow (hobservation ▸ hc)
    exact ⟨row, DataView.mem_selectedRecords.mpr ⟨hrow, hrowSelects⟩, hobservation, hsample⟩

theorem validateView_nodup [ThirdParty] (h : validateView view = .ok ()) :
    ∀ ids, view.sampleIds = some ids → ids.Nodup := by
  simp only [validateView, bind_eq_ok, exists_unit, whenSome_eq_ok, rejectIf_eq_ok,
    hasRepeats_eq_false] at h
  exact h.2.1

end Views

/-! ## Runs -/

section Runs

variable [ThirdParty]

/-- The scope of a materialization was validated. -/
theorem materializationScope_valid {envelope : CoordinatorDataPlanEnvelope}
    {request : CoordinatorDataMaterializationRequest} {relations : CoordinatorRelationSet}
    (h : materializationScope envelope request = .ok (some relations)) : relations.Valid := by
  simp only [materializationScope, bind_eq_ok, exists_unit] at h
  obtain ⟨_, _, _, readable, _, h⟩ := h
  cases readable with
  | none => cases h
  | some readable =>
    obtain ⟨selected, hselected, heq⟩ := map_eq_ok.mp h
    cases heq
    unfold scopedRelationsForMaterialization at hselected
    simp only [bind_eq_ok, exists_unit] at hselected
    obtain ⟨hreadable, hselected⟩ := hselected
    split at hselected
    · cases pure_eq_ok.mp hselected
      exact CoordinatorRelationSet.validate_eq_ok.mp hreadable
    · simp only [bind_eq_ok, exists_unit, pure_eq_ok] at hselected
      obtain ⟨_, hvalid, rfl⟩ := hselected
      exact CoordinatorRelationSet.validate_eq_ok.mp hvalid

namespace CoordinatorHandleArena

omit [ThirdParty] in
/-- Every relation set that is stored for a data handle is valid. -/
def DataValid (arena : CoordinatorHandleArena) : Prop :=
  ∀ (h : Nat) (relations : CoordinatorRelationSet), arena.dataRelations[h]? = some relations →
    relations.validate = .ok ()

omit [ThirdParty] in
/-- Every relation set that is stored for a view is valid. -/
def ViewsValid (arena : CoordinatorHandleArena) : Prop :=
  ∀ (v : Nat) (relations : CoordinatorRelationSet), arena.viewRelations[v]? = some relations →
    relations.validate = .ok ()

omit [ThirdParty] in
/-- A call that makes a view makes one that keeps components. -/
def KeepsComponents (arena : CoordinatorHandleArena) : ArenaCall → Prop
  | .makeView dataHandle view => ∀ parent relations, arena.records[dataHandle]? = some parent →
      arena.dataRelations[dataHandle]? = some relations → view.KeepsComponents parent relations
  | _ => True

variable {arena : CoordinatorHandleArena}

/-- The relations of a data handle after a call were there before it, or were validated by it. -/
theorem DataValid.step (h : arena.DataValid) (call : ArenaCall) :
    (arena.step call).2.DataValid := by
  intro k relations hget
  have hs := step_spec arena call
  generalize (arena.step call).1 = reply at hs
  generalize (arena.step call).2 = after at hs hget
  cases hs with
  | notMaterialized _ => exact h k relations hget
  | @materialized _ _ scope _ hscope _ =>
    cases scope with
    | none => exact h k relations hget
    | some selected =>
      change (arena.dataRelations.insert _ selected)[k]? = some relations at hget
      rw [getElem?_insert_eq] at hget
      split at hget
      · cases hget
        exact CoordinatorRelationSet.validate_eq_ok.mpr (materializationScope_valid hscope)
      · exact h k relations hget
  | notViewed => exact h k relations hget
  | viewed _ _ _ _ _ => exact h k relations hget
  | releasedView _ => exact h k relations hget
  | releasedData _ _ =>
    rw [foldl_eraseView] at hget
    change (arena.dataRelations.erase _)[k]? = some relations at hget
    rw [Std.ExtTreeMap.getElem?_erase] at hget
    split at hget
    · cases hget
    · exact h k relations hget
  | releasedNothing _ _ => exact h k relations hget

/-- The relations of a view after a call were there before it, or are what the call selected. -/
theorem ViewsValid.step (hdata : arena.DataValid) (h : arena.ViewsValid) (call : ArenaCall)
    (hkeeps : arena.KeepsComponents call) : (arena.step call).2.ViewsValid := by
  intro k relations hget
  have hs := step_spec arena call
  generalize (arena.step call).1 = reply at hs
  generalize (arena.step call).2 = after at hs hget
  cases hs with
  | notMaterialized _ => exact h k relations hget
  | materialized _ _ => exact h k relations hget
  | notViewed => exact h k relations hget
  | @viewed _ view parent stored selected record hview hparent hstored hselected hrecord =>
    rw [getElem?_viewRelations_insertView] at hget
    split at hget
    · cases hget
      obtain ⟨_, hsome, rfl⟩ := (viewSelection_eq_ok hview).mp hselected
      have hvalid := CoordinatorRelationSet.validate_eq_ok.mp (hdata _ _ hstored)
      exact CoordinatorRelationSet.validate_eq_ok.mpr
        ((DataView.valid_selectedRecords_iff hvalid (validateView_nodup hview) hsome).mpr
          (hkeeps parent stored hparent hstored))
    · exact h k relations hget
  | releasedView _ =>
    change (arena.viewRelations.erase _)[k]? = some relations at hget
    rw [Std.ExtTreeMap.getElem?_erase] at hget
    split at hget
    · cases hget
    · exact h k relations hget
  | releasedData _ _ =>
    rw [foldl_eraseView] at hget
    change (BTreeMap.eraseAll arena.viewRelations _)[k]? = some relations at hget
    rw [BTreeMap.getElem?_eraseAll] at hget
    split at hget
    · cases hget
    · exact h k relations hget
  | releasedNothing _ _ => exact h k relations hget

theorem DataValid.run (h : arena.DataValid) (calls : List ArenaCall) :
    (arena.run calls).DataValid :=
  Machine.run_preserves DataValid h fun _ call _ hs => hs.step call

/-- A view that was made of valid relations is valid exactly when it keeps components. -/
theorem viewRelations_valid_iff (hdata : arena.DataValid) {dataHandle : Nat} {view : DataView}
    {record : CoordinatorDataViewRecord}
    (hmade : (arena.step (.makeView dataHandle view)).1 = .viewed (.ok record)) :
    (∃ relations : CoordinatorRelationSet,
      (arena.step (.makeView dataHandle view)).2.viewRelations[record.handle.handle]? =
        some relations ∧ relations.validate = .ok ()) ↔
      arena.KeepsComponents (.makeView dataHandle view) := by
  have hs := step_spec arena (.makeView dataHandle view)
  rw [hmade] at hs
  generalize (arena.step (.makeView dataHandle view)).2 = after at hs ⊢
  cases hs with
  | @viewed _ _ parent stored selected _ hview hparent hstored hselected _ =>
    obtain ⟨_, hsome, rfl⟩ := (viewSelection_eq_ok hview).mp hselected
    have hvalid := CoordinatorRelationSet.validate_eq_ok.mp (hdata _ _ hstored)
    have hiff := DataView.valid_selectedRecords_iff hvalid (validateView_nodup hview) hsome
    rw [getElem?_viewRelations_insertView, if_pos rfl]
    constructor
    · rintro ⟨relations, heq, hok⟩ parent' stored' hparent' hstored'
      cases heq
      cases hparent.symm.trans hparent'
      cases hstored.symm.trans hstored'
      exact hiff.mp (CoordinatorRelationSet.validate_eq_ok.mp hok)
    · intro hkeeps
      exact ⟨_, rfl, CoordinatorRelationSet.validate_eq_ok.mpr
        (hiff.mpr (hkeeps parent stored hparent hstored))⟩

/-- In every run of a new arena in which every call that makes a view makes one that keeps
components, the relations of every data handle and of every view are valid. In any run, a view
is valid exactly when it keeps components. -/
theorem relations_valid {owner : String} (hnew : CoordinatorHandleArena.new owner = .ok arena)
    (calls : List ArenaCall) :
    ((∀ pre call post, calls = pre ++ call :: post → (arena.run pre).KeepsComponents call) →
      (arena.run calls).DataValid ∧ (arena.run calls).ViewsValid) ∧
    ∀ dataHandle view record,
      ((arena.run calls).step (.makeView dataHandle view)).1 = .viewed (.ok record) →
      ((∃ relations : CoordinatorRelationSet,
        ((arena.run calls).step (.makeView dataHandle
          view)).2.viewRelations[record.handle.handle]? =
          some relations ∧ relations.validate = .ok ()) ↔
        (arena.run calls).KeepsComponents (.makeView dataHandle view)) := by
  have hdata : arena.DataValid := by
    simp only [new, bind_eq_ok, pure_eq_ok] at hnew
    obtain ⟨_, _, rfl⟩ := hnew
    intro k relations hget
    simp at hget
  have hviews : arena.ViewsValid := by
    simp only [new, bind_eq_ok, pure_eq_ok] at hnew
    obtain ⟨_, _, rfl⟩ := hnew
    intro k relations hget
    simp at hget
  refine ⟨fun hkeeps => ⟨hdata.run calls, ?_⟩, fun dataHandle view record hmade =>
    viewRelations_valid_iff (hdata.run calls) hmade⟩
  induction calls using List.reverseRecOn with
  | nil => exact hviews
  | append_singleton calls call ih =>
    have hrun : arena.run (calls ++ [call]) = ((arena.run calls).step call).2 :=
      Machine.run_append ..
    rw [hrun]
    refine ViewsValid.step (hdata.run calls) (ih fun pre call' post heq => ?_) call
      (hkeeps calls call [] rfl)
    exact hkeeps pre call' (post ++ [call]) (by rw [heq]; simp)

omit [ThirdParty]

/-- Two repetitions, the second one excluded, and their combination. -/
def comboRelations : CoordinatorRelationSet where
  records :=
    [CoordinatorRelation.new (.lit "o1" rfl) (.lit "s1" rfl),
      { CoordinatorRelation.new (.lit "o2" rfl) (.lit "s1" rfl) with excluded := true },
      { CoordinatorRelation.new (.lit "o3" rfl) (.lit "s1" rfl) with
        unitLevel := .combo
        derivedUnitId := some "mean"
        componentObservationIds := [.lit "o1" rfl, .lit "o2" rfl] }]

def comboEnvelope : CoordinatorDataPlanEnvelope :=
  { testEnvelope with
    schemaVersion := 1
    coordinatorRelations := some comboRelations
    predictCohort := none }

/-- The view with the excluded records. -/
def excludedView : DataView := { plainView with includeExcluded := true }

/-- A view of a combination with both of its components. -/
def comboRun : List ArenaCall :=
  [.materialize comboEnvelope trainingRequest, .makeView 1 excludedView]

theorem comboRun_relations_valid :
    letI := testDigests
    storedObservations (emptyArena.run comboRun).viewRelations = [(2, ["o1", "o2", "o3"])] ∧
      (emptyArena.run comboRun).DataValid ∧ (emptyArena.run comboRun).ViewsValid := by
  refine ⟨by decide +kernel, (@relations_valid testDigests emptyArena "controller" rfl comboRun).1
    fun pre call post heq => ?_⟩
  match pre, heq with
  | [], heq =>
    cases heq
    trivial
  | [_], heq =>
    cases heq
    intro _ _ _ _ _ _ _ _ _ _ _
    constructor <;> simp [excludedView, plainView]
  | _ :: _ :: pre, heq =>
    simp [comboRun] at heq

/-! ## A view without a component -/

/-- The view leaves out the excluded repetition and keeps the combination. -/
theorem comboView_not_valid :
    letI := testDigests
    let calls : List ArenaCall :=
      [.materialize comboEnvelope trainingRequest, .makeView 1 plainView]
    ∃ relations, (emptyArena.run calls).viewRelations[2]? = some relations ∧
      relations.validate ≠ .ok () := by
  let _ := testDigests
  have hinvalid : ((emptyArena.run [.materialize comboEnvelope trainingRequest,
      .makeView 1 plainView]).viewRelations[2]?).any
        (fun relations => relations.validate.toOption.isNone) = true := by
    decide +kernel
  obtain ⟨relations, hget, hnone⟩ := Option.any_eq_true _ _ |>.mp hinvalid
  refine ⟨relations, hget, fun hok => ?_⟩
  rw [hok] at hnone
  cases hnone

end CoordinatorHandleArena

end Runs

end DagMlData
