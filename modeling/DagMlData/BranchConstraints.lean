import DagMlData.JsonEq
import DagMlData.ViewValidity

/-!
# Constraints of a branch view

A selector can have constraints of several kinds, and a view applies those of its mode only.
`CoordinatorBranchView.validate` refuses the others in mode `by_filter` alone.
`branch_constraints_enforced_iff` says which accepted branch views have all of their constraints
enforced in every view that is made with them.
-/

namespace DagMlData

open Guard RustText

/-- The record meets every constraint that the selector has. -/
structure CoordinatorBranchViewSelector.SatisfiedBy (selector : CoordinatorBranchViewSelector)
    (r : CoordinatorRelation) : Prop where
  sourceIds : selector.sourceIds ≠ [] →
    ∃ source ∈ selector.sourceIds, r.sourceId = some source
  metadata : r.HasMetadata selector.metadata
  tags : ∀ tag ∈ selector.tags, tag ∈ r.tags
  filter : ∀ value, selector.filter = some value →
    ∃ native, NativeBranchViewFilter.fromValue value = some native ∧
      r.HasMetadata native.metadataEquals ∧ ∀ tag ∈ native.tagsAll, tag ∈ r.tags

/-- The filter asks for nothing but the metadata and the tags of the selector. -/
def CoordinatorBranchViewSelector.FilterRedundant (selector : CoordinatorBranchViewSelector) :
    Prop :=
  ∀ value, selector.filter = some value →
    ∃ native, NativeBranchViewFilter.fromValue value = some native ∧
      (∀ (key : String) (v : Json), native.metadataEquals[key]? = some v →
        ∃ own, selector.metadata[key]? = some own ∧ (own == v) = true) ∧
      ∀ tag ∈ native.tagsAll, tag ∈ selector.tags

/-- The selector has no constraint of another mode, save a redundant filter. -/
structure CoordinatorBranchView.OwnConstraintsOnly (b : CoordinatorBranchView) : Prop where
  sourceIds : b.mode ≠ .bySource → b.selector.sourceIds = []
  metadata : b.mode ≠ .byMetadata → b.selector.metadata = ∅
  tags : b.mode ≠ .byTag → b.selector.tags = []
  filter : b.mode ≠ .byFilter → b.selector.FilterRedundant

/-! ## Constraints on a record -/

theorem CoordinatorRelation.hasMetadata_empty (r : CoordinatorRelation) : r.HasMetadata ∅ := by
  intro key value hget
  simp at hget

theorem eq_empty_of_hasMetadata {r : CoordinatorRelation} {selector : BTreeMap String Json}
    (hnone : r.metadata = ∅) (h : r.HasMetadata selector) : selector = ∅ := by
  refine Std.ExtTreeMap.eq_empty_iff_forall_not_mem.mpr fun key hmem => ?_
  obtain ⟨value, hvalue⟩ := BTreeMap.mem_iff_exists_getElem?.mp hmem
  obtain ⟨actual, hactual, -⟩ := h key value hvalue
  simp [hnone] at hactual

/-- A record with the metadata and the tags of the selector passes a redundant filter. -/
theorem CoordinatorBranchViewSelector.FilterRedundant.passes
    {selector : CoordinatorBranchViewSelector} (h : selector.FilterRedundant)
    {r : CoordinatorRelation} (hmetadata : r.HasMetadata selector.metadata)
    (htags : ∀ tag ∈ selector.tags, tag ∈ r.tags) :
    ∀ value, selector.filter = some value →
      ∃ native, NativeBranchViewFilter.fromValue value = some native ∧
        r.HasMetadata native.metadataEquals ∧ ∀ tag ∈ native.tagsAll, tag ∈ r.tags := by
  intro value hvalue
  obtain ⟨native, hnative, hkeys, htagsAll⟩ := h value hvalue
  refine ⟨native, hnative, fun key v hget => ?_, fun tag htag => htags tag (htagsAll tag htag)⟩
  obtain ⟨own, hown, hownv⟩ := hkeys key v hget
  obtain ⟨actual, hactual, heq⟩ := hmetadata key own hown
  exact ⟨actual, hactual, Json.eq_trans heq hownv⟩

variable [ThirdParty] {b : CoordinatorBranchView}

/-- A valid branch view by filter has no constraint outside of its filter. -/
theorem CoordinatorBranchView.byFilter_only (h : b.validate = .ok ()) (hmode : b.mode = .byFilter) :
    b.selector.sourceIds = [] ∧ b.selector.metadata = ∅ ∧ b.selector.tags = [] := by
  simp only [validate, hmode, bind_eq_ok, exists_unit, rejectIf_eq_ok] at h
  obtain ⟨-, -, -, -, hnone, -⟩ := h
  simp only [Bool.or_eq_false_iff, Bool.not_eq_false', List.isEmpty_iff,
    Std.ExtTreeMap.isEmpty_iff] at hnone
  exact ⟨hnone.1.1, hnone.1.2, hnone.2⟩

/-- A record that an own-constraint view selects meets every constraint. -/
theorem CoordinatorBranchView.OwnConstraintsOnly.satisfiedBy (h : b.OwnConstraintsOnly)
    (hvalid : b.validate = .ok ()) {r : CoordinatorRelation} (hr : b.Selects r) :
    b.selector.SatisfiedBy r := by
  have hmetadata : r.HasMetadata b.selector.metadata := by
    by_cases hm : b.mode = .byMetadata
    · simpa only [CoordinatorBranchView.Selects, hm] using hr
    · rw [h.metadata hm]
      exact r.hasMetadata_empty
  have htags : ∀ tag ∈ b.selector.tags, tag ∈ r.tags := by
    by_cases hm : b.mode = .byTag
    · simpa only [CoordinatorBranchView.Selects, hm] using hr
    · rw [h.tags hm]
      exact fun tag htag => absurd htag List.not_mem_nil
  refine ⟨fun hne => ?_, hmetadata, htags, ?_⟩
  · by_cases hm : b.mode = .bySource
    · simpa only [CoordinatorBranchView.Selects, hm] using hr
    · exact absurd (h.sourceIds hm) hne
  · by_cases hm : b.mode = .byFilter
    · intro value hvalue
      obtain ⟨value', native, hvalue', hnative, -⟩ := exists_native hvalid hm
      cases hvalue.symm.trans hvalue'
      simp only [CoordinatorBranchView.Selects, hm, hvalue, Option.bind_some] at hr
      exact ⟨native, hnative, hr native hnative⟩
    · exact (h.filter hm).passes hmetadata htags

/-! ## A record that meets the constraint of the mode only -/

/-- A record that has what the mode of the branch view asks for, and nothing else. -/
def CoordinatorBranchView.probe (b : CoordinatorBranchView) : CoordinatorRelation :=
  let plain := CoordinatorRelation.new (.lit "o1" rfl) (.lit "s1" rfl)
  match b.mode with
  | .bySource => { plain with sourceId := b.selector.sourceIds.head? }
  | .byMetadata => { plain with metadata := b.selector.metadata }
  | .byTag => { plain with tags := b.selector.tags }
  | _ => plain

theorem CoordinatorBranchView.probe_selected (hvalid : b.validate = .ok ())
    (hmode : b.mode ≠ .separation) (hfilter : b.mode ≠ .byFilter)
    (hjson : ∀ (key : String) (v : Json), b.selector.metadata[key]? = some v → v.Fits) :
    b.Selects b.probe := by
  cases hm : b.mode with
  | separation => exact absurd hm hmode
  | byFilter => exact absurd hm hfilter
  | bySource =>
    simp only [validate, hm, bind_eq_ok, exists_unit, rejectIf_eq_ok] at hvalid
    obtain ⟨-, -, -, -, hsources⟩ := hvalid
    simp only [Selects, probe, hm]
    cases hlist : b.selector.sourceIds with
    | nil => rw [hlist] at hsources; cases hsources
    | cons source sources => exact ⟨source, List.mem_cons_self, rfl⟩
  | byMetadata =>
    simp only [Selects, probe, hm]
    exact fun key v hget => ⟨v, hget, (hjson key v hget).eq_self⟩
  | byTag =>
    simp only [Selects, probe, hm]
    exact fun tag htag => htag

/-- If that record meets every constraint, the others are no constraints. -/
theorem CoordinatorBranchView.ownConstraintsOnly_of_probe (hvalid : b.validate = .ok ())
    (h : b.mode ≠ .byFilter → b.selector.SatisfiedBy b.probe) : b.OwnConstraintsOnly := by
  by_cases hfilter : b.mode = .byFilter
  · obtain ⟨hsources, hmetadata, htags⟩ := byFilter_only hvalid hfilter
    exact ⟨fun _ => hsources, fun _ => hmetadata, fun _ => htags, fun hne => absurd hfilter hne⟩
  · have hsat := h hfilter
    have hsource : b.mode ≠ .bySource → b.probe.sourceId = none := by
      cases hm : b.mode <;> simp [probe, hm, CoordinatorRelation.new]
    have hmetadata : b.mode ≠ .byMetadata → b.probe.metadata = ∅ := by
      cases hm : b.mode <;> simp [probe, hm, CoordinatorRelation.new]
    have htags : b.mode ≠ .byTag → b.probe.tags = [] := by
      cases hm : b.mode <;> simp [probe, hm, CoordinatorRelation.new]
    have hmetadata' : b.mode ≠ .byMetadata → b.selector.metadata = ∅ := fun hm =>
      eq_empty_of_hasMetadata (hmetadata hm) hsat.metadata
    have htags' : b.mode ≠ .byTag → b.selector.tags = [] := by
      intro hm
      refine List.eq_nil_iff_forall_not_mem.mpr fun tag htag => ?_
      have hmem := hsat.tags tag htag
      rw [htags hm] at hmem
      exact List.not_mem_nil hmem
    have hprobeMetadata : b.probe.metadata = b.selector.metadata := by
      by_cases hm : b.mode = .byMetadata
      · simp [probe, hm]
      · rw [hmetadata hm, hmetadata' hm]
    have hprobeTags : b.probe.tags = b.selector.tags := by
      by_cases hm : b.mode = .byTag
      · simp [probe, hm]
      · rw [htags hm, htags' hm]
    refine ⟨fun hm => ?_, hmetadata', htags', fun _ value hvalue => ?_⟩
    · by_contra hne
      obtain ⟨source, -, heq⟩ := hsat.sourceIds hne
      rw [hsource hm] at heq
      cases heq
    · obtain ⟨native, hnative, hkeys, htagsAll⟩ := hsat.filter value hvalue
      refine ⟨native, hnative, ?_, hprobeTags ▸ htagsAll⟩
      rw [CoordinatorRelation.HasMetadata, hprobeMetadata] at hkeys
      exact hkeys

/-! ## Views -/

namespace CoordinatorHandleArena

/-- Every record of every view that is made with the branch view meets all of its constraints. -/
def ConstraintsEnforced (b : CoordinatorBranchView) : Prop :=
  ∀ arena : CoordinatorHandleArena, arena.WellFormed → arena.DataValid →
    ∀ dataHandle view record relations, view.branchView = some b →
      (arena.step (.makeView dataHandle view)).1 = .viewed (.ok record) →
      (arena.step (.makeView dataHandle view)).2.viewRelations[record.handle.handle]? =
        some relations →
      ∀ r ∈ relations.records, b.selector.SatisfiedBy r

/-- The records of a view that was made are among those that its branch view selects. -/
theorem selects_of_makeView {arena : CoordinatorHandleArena} {dataHandle : Nat} {view : DataView}
    {record : CoordinatorDataViewRecord} {relations : CoordinatorRelationSet}
    (hb : view.branchView = some b)
    (hmade : (arena.step (.makeView dataHandle view)).1 = .viewed (.ok record))
    (hget : (arena.step (.makeView dataHandle view)).2.viewRelations[record.handle.handle]? =
      some relations) : ∀ r ∈ relations.records, b.Selects r := by
  have hs := step_spec arena (.makeView dataHandle view)
  rw [hmade] at hs
  generalize (arena.step (.makeView dataHandle view)).2 = after at hs hget
  cases hs with
  | @viewed _ _ parent stored selected _ hview _ _ hselected _ =>
    obtain ⟨-, -, rfl⟩ := (viewSelection_eq_ok hview).mp hselected
    rw [getElem?_viewRelations_insertView, if_pos rfl, Option.some.injEq] at hget
    subst hget
    intro r hr
    exact (mem_of_mem_selectedRecords hr).2.branch b hb

/-- An arena with one record, as a training handle has it. -/
def probeArena (r : CoordinatorRelation) : CoordinatorHandleArena :=
  emptyArena.advance.insertData
    (dataRecord testEnvelope trainingRequest (some ⟨[r]⟩) ⟨1, .data, "controller"⟩)
    (some ⟨[r]⟩)

/-- An envelope with one record. -/
def probeEnvelope (r : CoordinatorRelation) : CoordinatorDataPlanEnvelope :=
  { testEnvelope with
    schemaVersion := 1
    coordinatorRelations := some ⟨[r]⟩
    predictCohort := none }

omit [ThirdParty] in
theorem probeEnvelope_valid {r : CoordinatorRelation}
    (hr : CoordinatorRelationSet.validate ⟨[r]⟩ = .ok ()) :
    @CoordinatorDataPlanEnvelope.validate testDigests (probeEnvelope r) = .ok () := by
  have hrest : @CoordinatorDataPlanEnvelope.validate testDigests
      { testEnvelope with
        schemaVersion := 1
        coordinatorRelations := none
        predictCohort := none } = .ok () := by
    decide +kernel
  simp only [CoordinatorDataPlanEnvelope.validate, bind_eq_ok, exists_unit] at hrest ⊢
  obtain ⟨hversion, hcohort, hschema, hplan, hvalid, actual, hactual, hsame, -, hcontent⟩ :=
    hrest
  exact ⟨hversion, hcohort, hschema, hplan, hvalid, actual, hactual, hsame, hr, hcontent⟩

omit [ThirdParty] in
/-- The arena is reached by a call that materializes the record. -/
theorem run_probeEnvelope {r : CoordinatorRelation}
    (hr : CoordinatorRelationSet.validate ⟨[r]⟩ = .ok ()) :
    letI := testDigests
    emptyArena.run [.materialize (probeEnvelope r) trainingRequest] = probeArena r := by
  let _ := testDigests
  have hscope : materializationScope (probeEnvelope r) trainingRequest = .ok (some ⟨[r]⟩) :=
    materializationScope_of_valid (probeEnvelope_valid hr) (by decide +kernel) rfl rfl rfl hr
  rw [run, Machine.run_cons, step, exec_materialize, hscope]
  rfl

omit [ThirdParty] in
theorem probeArena_wellFormed {r : CoordinatorRelation}
    (hr : CoordinatorRelationSet.validate ⟨[r]⟩ = .ok ()) : (probeArena r).WellFormed := by
  let _ := testDigests
  have hnew : CoordinatorHandleArena.new "controller" = .ok emptyArena := rfl
  rw [← run_probeEnvelope hr]
  refine (wellFormed_new hnew).run ?_
  exact lt_of_le_of_lt (Nat.add_le_add_left (Machine.length_minted_le _ _) _)
    (show 1 + 1 < u64Size by decide)

omit [ThirdParty] in
theorem getElem?_probeArena (r : CoordinatorRelation) (k : Nat) :
    (probeArena r).dataRelations[k]? = if k = 1 then some ⟨[r]⟩ else none := by
  rw [probeArena, getElem?_dataRelations_insertData (by simp [emptyArena, advance])]
  simp [emptyArena, advance]

omit [ThirdParty] in
theorem probeArena_dataValid {r : CoordinatorRelation}
    (hr : CoordinatorRelationSet.validate ⟨[r]⟩ = .ok ()) : (probeArena r).DataValid := by
  let _ := testDigests
  rw [← run_probeEnvelope hr]
  refine DataValid.run (fun k relations hget => ?_) _
  simp [emptyArena] at hget

/-- The view of every record that the branch view selects. -/
def branchDataView (b : CoordinatorBranchView) : DataView := { plainView with branchView := some b }

omit [ThirdParty] in
theorem probe_valid (b : CoordinatorBranchView) :
    CoordinatorRelationSet.validate ⟨[b.probe]⟩ = .ok () := by
  cases hm : b.mode <;> simp only [CoordinatorBranchView.probe, hm] <;> rfl

/-- The view of the probe has the probe, and only it. -/
theorem probe_viewed (hvalid : b.validate = .ok ()) (hselects : b.Selects b.probe) :
    ∃ record relations,
      ((probeArena b.probe).step (.makeView 1 (branchDataView b))).1 = .viewed (.ok record) ∧
      ((probeArena b.probe).step (.makeView 1 (branchDataView b))).2.viewRelations[
        record.handle.handle]? = some relations ∧ b.probe ∈ relations.records := by
  have hparent : ∃ parent, (probeArena b.probe).records[1]? = some parent :=
    ⟨_, (getElem?_records_insertData ..).trans (if_pos rfl)⟩
  obtain ⟨parent, hparent⟩ := hparent
  have hrelations : (probeArena b.probe).dataRelations[1]? = some ⟨[b.probe]⟩ := by
    rw [getElem?_probeArena, if_pos rfl]
  have hview : validateView (branchDataView b) = .ok () := by
    simp [validateView, branchDataView, plainView, hvalid]
  have hexcluded : b.probe.excluded = false := by
    cases hm : b.mode <;> simp [CoordinatorBranchView.probe, hm, CoordinatorRelation.new]
  have hprobe : (branchDataView b).Selects parent b.probe := by
    constructor <;> simp [branchDataView, plainView, hselects, hexcluded]
  have hphase : (branchDataView b).PhaseOk parent := by
    intro _ hpartition
    cases hpartition
  have hselection : viewSelection (branchDataView b) parent ⟨[b.probe]⟩ = .ok _ :=
    (viewSelection_eq_ok hview).mpr ⟨hphase, ⟨b.probe, List.mem_cons_self, hprobe⟩, rfl⟩
  have hexec := makeView_exec hparent hrelations (branchDataView b)
  simp only [hview, hselection, bind, Except.bind] at hexec
  simp only [step, hexec]
  exact ⟨_, _, rfl, Std.ExtTreeMap.getElem?_insert_self,
    List.mem_filter.mpr ⟨List.mem_cons_self, by simpa using hprobe⟩⟩

/-- An accepted branch view that is not a mere separation has all of its constraints enforced
exactly when it has no constraint of another mode, save a redundant filter. -/
theorem branch_constraints_enforced_iff (hvalid : b.validate = .ok ())
    (hmode : b.mode ≠ .separation)
    (hjson : ∀ (key : String) (v : Json), b.selector.metadata[key]? = some v → v.Fits) :
    ConstraintsEnforced b ↔ b.OwnConstraintsOnly := by
  constructor
  · intro henforced
    refine CoordinatorBranchView.ownConstraintsOnly_of_probe hvalid fun hfilter => ?_
    obtain ⟨record, relations, hmade, hget, hmem⟩ :=
      probe_viewed hvalid (CoordinatorBranchView.probe_selected hvalid hmode hfilter hjson)
    exact henforced (probeArena b.probe) (probeArena_wellFormed (probe_valid b))
      (probeArena_dataValid (probe_valid b)) 1 _ record relations rfl hmade hget _ hmem
  · intro hown arena _ _ dataHandle view record relations hb hmade hget r hr
    exact hown.satisfiedBy hvalid (selects_of_makeView hb hmade hget r hr)

omit [ThirdParty]

/-- The clean records of site `a`, it seems. -/
def cleanSite : CoordinatorBranchView where
  viewId := "view"
  branchId := "branch"
  mode := .byTag
  selector := ⟨[], BTreeMap.collect [("site", .string "a")], ["clean"], none⟩
  metadata := ∅

/-- A clean record without a site. -/
def cleanEnvelope : CoordinatorDataPlanEnvelope :=
  { testEnvelope with
    schemaVersion := 1
    coordinatorRelations := some
      ⟨[{ CoordinatorRelation.new (.lit "o1" rfl)
        (.lit "s1" rfl) with tags := ["clean"] }]⟩
    predictCohort := none }

theorem cleanSite_enforced_iff :
    @ConstraintsEnforced testDigests cleanSite ↔ cleanSite.OwnConstraintsOnly :=
  @branch_constraints_enforced_iff testDigests cleanSite (by decide +kernel) (by decide)
    fun key v hget => by
      obtain heq := List.mem_singleton.mp (BTreeMap.mem_of_getElem?_collect hget)
      cases heq
      simp [Json.Fits]

/-- The branch view is accepted, and a view that is made with it has a record without the site. -/
theorem cleanSite_ignored :
    letI := testDigests
    let calls : List ArenaCall :=
      [.materialize cleanEnvelope trainingRequest, .makeView 1 (branchDataView cleanSite)]
    cleanSite.validate = .ok () ∧ ∃ relations r, (emptyArena.run calls).viewRelations[2]? =
      some relations ∧ r ∈ relations.records ∧ ¬ cleanSite.selector.SatisfiedBy r := by
  let _ := testDigests
  have hviewed : ((emptyArena.run [.materialize cleanEnvelope trainingRequest,
      .makeView 1 (branchDataView cleanSite)]).viewRelations[2]?).any
        (fun relations => relations.records.any fun r => !r.metadata.contains "site") = true := by
    decide +kernel
  obtain ⟨relations, hget, hany⟩ := Option.any_eq_true _ _ |>.mp hviewed
  obtain ⟨r, hr, hsite⟩ := List.any_eq_true.mp hany
  refine ⟨by decide +kernel, relations, r, hget, hr, fun hsat => ?_⟩
  obtain ⟨actual, hactual, -⟩ := hsat.metadata "site" (.string "a")
    (by simp [cleanSite, BTreeMap.collect])
  rw [Bool.not_eq_true', Std.ExtTreeMap.contains_eq_isSome_getElem?, hactual] at hsite
  cases hsite

end CoordinatorHandleArena

end DagMlData
