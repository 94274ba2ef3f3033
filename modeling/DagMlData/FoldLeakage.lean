import DagMlData.RelationValid
import DagMlData.Lib.Separation

/-!
# Fold sets and leakage between training and validation

`SampleRelationTable.validateFoldSet` looks at direct origin links and at own groups. The main
result is `validateFoldSet_separates_iff`: in an accepted fold set, training and validation
samples are linked exactly when a link runs through samples that the fold leaves out.
-/

namespace DagMlData

open Guard Separation

/-- `s` derives from `o`: an observation of `s` names an observation of `o` as its origin. -/
def SampleRelationTable.DerivesFrom (table : SampleRelationTable) (s o : SampleId) : Prop :=
  ∃ row ∈ table.rows, ∃ origin ∈ table.rows, ∃ originId, row.originId = some originId ∧
    origin.observationId.value = originId.value ∧ row.sampleId = s ∧ origin.sampleId = o

/-- The groups that a row or the fold set gives to the sample itself. -/
def SampleRelationTable.OwnGroup (table : SampleRelationTable) (foldSet : FoldSet) (s : SampleId)
    (g : GroupId) : Prop :=
  (∃ row ∈ table.rows, row.sampleId = s ∧ row.groupId = some g) ∨
    foldSet.sampleGroups[s]? = some g

/-- No training sample of the fold is linked to a validation sample of the fold. -/
def SampleRelationTable.Separates (table : SampleRelationTable) (foldSet : FoldSet)
    (fold : FoldAssignment) : Prop :=
  ∀ a b, a ∈ fold.trainSampleIds → b ∈ fold.validationSampleIds →
    ¬ Linked table.DerivesFrom (table.OwnGroup foldSet) a b

/-- No origin chain and no inherited group runs from a training to a validation sample through
samples that are in neither list of the fold. -/
def SampleRelationTable.NoLinkOutsideFold (table : SampleRelationTable) (foldSet : FoldSet)
    (fold : FoldAssignment) : Prop :=
  NoOutsideLink table.DerivesFrom (table.OwnGroup foldSet) (· ∈ fold.trainSampleIds)
    (· ∈ fold.validationSampleIds)

/-- What `validateFoldSet` establishes. -/
structure SampleRelationTable.FoldSetChecked (table : SampleRelationTable) (foldSet : FoldSet) :
    Prop where
  valid : table.Valid
  foldSet_valid : foldSet.Valid
  groups_agree : ∀ (s : SampleId) (g h : GroupId), table.sampleGroups[s]? = some g →
    foldSet.sampleGroups[s]? = some h → g = h
  group_boundary : ∀ fold ∈ foldSet.folds, ∀ a ∈ fold.trainSampleIds,
    ∀ b ∈ fold.validationSampleIds, ∀ g : GroupId, table.sampleGroups[a]? = some g →
      table.sampleGroups[b]? ≠ some g
  origin_boundary : ∀ fold ∈ foldSet.folds, ∀ a ∈ fold.trainSampleIds,
    ∀ b ∈ fold.validationSampleIds, ¬ Either table.DerivesFrom a b

/-- The origin boundary refuses a direct origin link in either direction. -/
theorem no_link_of_validateOriginBoundary {table : SampleRelationTable} (hv : table.Valid)
    {foldId : String} {train validation : BTreeSet SampleId}
    (h : validateOriginBoundary foldId train validation table = .ok ()) {a b : SampleId}
    (ha : a ∈ train) (hb : b ∈ validation) : ¬ Either table.DerivesFrom a b := by
  simp only [validateOriginBoundary, forM_eq_ok, whenSome_eq_ok, bind_eq_ok, rejectIf_eq_ok,
    exists_unit] at h
  have hlookup : ∀ origin ∈ table.rows,
      (BTreeMap.collect (table.rows.map fun row => (row.observationId.value, row.sampleId)))[
        origin.observationId.value]? = some origin.sampleId := by
    intro origin horigin
    refine (BTreeMap.getElem?_collect_of_nodup ?_).mpr
      (List.mem_map.mpr ⟨origin, horigin, rfl⟩)
    have hnd := hv.observations_nodup.map Ident.value_injective
    simpa [List.map_map, Function.comp_def] using hnd
  rintro (⟨row, hrow, origin, horigin, originId, ho, hval, rfl, rfl⟩ |
    ⟨row, hrow, origin, horigin, originId, ho, hval, rfl, rfl⟩)
  · have := (h row hrow originId ho origin.sampleId (hval ▸ hlookup origin horigin)).1
    simp [Std.ExtTreeSet.contains_iff_mem.mpr ha, Std.ExtTreeSet.contains_iff_mem.mpr hb] at this
  · have := (h row hrow originId ho origin.sampleId (hval ▸ hlookup origin horigin)).2
    simp [Std.ExtTreeSet.contains_iff_mem.mpr ha, Std.ExtTreeSet.contains_iff_mem.mpr hb] at this

theorem SampleRelationTable.foldSetChecked_of_validate {table : SampleRelationTable}
    {foldSet : FoldSet} (h : table.validateFoldSet foldSet = .ok ()) :
    table.FoldSetChecked foldSet := by
  simp only [validateFoldSet, bind_eq_ok, exists_unit, forM_eq_ok, whenSome_error_eq_ok,
    validateGroupBoundary_eq_ok, BTreeSet.mem_collect] at h
  obtain ⟨htable, hfold, -, -, hagree, hfolds⟩ := h
  have hv := valid_of_validate htable
  refine
    { valid := hv
      foldSet_valid := FoldSet.valid_of_validate hfold
      groups_agree := ?_
      group_boundary := fun fold hf => (hfolds fold hf).1
      origin_boundary := fun fold hf a ha b hb =>
        no_link_of_validateOriginBoundary hv (hfolds fold hf).2 (BTreeSet.mem_collect.mpr ha)
          (BTreeSet.mem_collect.mpr hb) }
  intro s g h hg hh
  have := hagree (s, h) (Std.ExtTreeMap.mem_toList_iff_getElem?_eq_some.mpr hh)
  simpa using whenSome_eq_ok.mp this g hg

/-- A sample of an accepted fold has the groups that the map of the fold set gives it, when that
map is not empty, and else those that the rows give it. -/
theorem SampleRelationTable.FoldSetChecked.ownGroup {table : SampleRelationTable}
    {foldSet : FoldSet} (h : table.FoldSetChecked foldSet) {s : SampleId}
    (hs : s ∈ foldSet.sampleIds) {g : GroupId} (hg : table.OwnGroup foldSet s g) :
    if foldSet.sampleGroups = ∅ then table.sampleGroups[s]? = some g
    else foldSet.sampleGroups[s]? = some g := by
  have hrows : (∃ row ∈ table.rows, row.sampleId = s ∧ row.groupId = some g) →
      table.sampleGroups[s]? = some g := by
    rintro ⟨row, hrow, rfl, hrg⟩
    exact h.valid.groups row hrow g hrg
  split
  · next hempty =>
    rcases hg with hrow | hmap
    · exact hrows hrow
    · simp [hempty] at hmap
  · next hne =>
    rcases hg with hrow | hmap
    · obtain ⟨g', hg'⟩ := BTreeMap.mem_iff_exists_getElem?.mp
        ((h.foldSet_valid.groups_cover hne s).mpr hs)
      rw [hg', h.groups_agree s g g' (hrows hrow) hg']
    · exact hmap

theorem SampleRelationTable.FoldSetChecked.no_common_group {table : SampleRelationTable}
    {foldSet : FoldSet} (h : table.FoldSetChecked foldSet) {fold : FoldAssignment}
    (hfold : fold ∈ foldSet.folds) {a b : SampleId} (ha : a ∈ fold.trainSampleIds)
    (hb : b ∈ fold.validationSampleIds) {g : GroupId} (hga : table.OwnGroup foldSet a g) :
    ¬ table.OwnGroup foldSet b g := by
  intro hgb
  have hchecked := h.foldSet_valid.folds fold hfold
  have hga := h.ownGroup (hchecked.known a (Or.inl ha)) hga
  have hgb := h.ownGroup (hchecked.known b (Or.inr hb)) hgb
  split at hga
  · next hempty =>
    rw [if_pos hempty] at hgb
    exact h.group_boundary fold hfold a ha b hb g hga hgb
  · next hne =>
    rw [if_neg hne] at hgb
    exact hchecked.groups a ha b hb g hga hgb

theorem SampleRelationTable.FoldSetChecked.separates_iff {table : SampleRelationTable}
    {foldSet : FoldSet} (h : table.FoldSetChecked foldSet) {fold : FoldAssignment}
    (hfold : fold ∈ foldSet.folds) :
    table.Separates foldSet fold ↔ table.NoLinkOutsideFold foldSet fold := by
  refine separated_iff ?_ ?_ ?_
  · exact (h.foldSet_valid.folds fold hfold).disjoint
  · exact fun a b ha hb => h.origin_boundary fold hfold a ha b hb
  · exact fun a b g ha hb hga => h.no_common_group hfold ha hb hga

/-- In an accepted fold set, every fold separates training from validation exactly when no fold
has a link through the samples that it leaves out. -/
theorem validateFoldSet_separates_iff {table : SampleRelationTable} {foldSet : FoldSet}
    (h : table.validateFoldSet foldSet = .ok ()) :
    (∀ fold ∈ foldSet.folds, table.Separates foldSet fold) ↔
      ∀ fold ∈ foldSet.folds, table.NoLinkOutsideFold foldSet fold := by
  have hchecked := SampleRelationTable.foldSetChecked_of_validate h
  exact forall₂_congr fun fold hfold => hchecked.separates_iff hfold

/-- A fold set whose folds leave no sample out separates training from validation. -/
theorem separates_of_folds_cover {table : SampleRelationTable} {foldSet : FoldSet}
    (h : table.validateFoldSet foldSet = .ok ())
    (hcover : ∀ fold ∈ foldSet.folds, ∀ row ∈ table.rows,
      row.sampleId ∈ fold.trainSampleIds ∨ row.sampleId ∈ fold.validationSampleIds) :
    ∀ fold ∈ foldSet.folds, table.Separates foldSet fold := by
  intro fold hfold
  have hchecked := SampleRelationTable.foldSetChecked_of_validate h
  refine (hchecked.separates_iff hfold).mpr ?_
  have hin : ∀ s o, table.DerivesFrom s o →
      (¬ Outside (· ∈ fold.trainSampleIds) (· ∈ fold.validationSampleIds) s) ∧
        ¬ Outside (· ∈ fold.trainSampleIds) (· ∈ fold.validationSampleIds) o := by
    rintro s o ⟨row, hrow, origin, horigin, _, _, _, rfl, rfl⟩
    exact ⟨fun hout => (hcover fold hfold row hrow).elim hout.1 hout.2,
      fun hout => (hcover fold hfold origin horigin).elim hout.1 hout.2⟩
  have himport : ∀ s g, ¬ Imports table.DerivesFrom (table.OwnGroup foldSet)
      (Outside (· ∈ fold.trainSampleIds) (· ∈ fold.validationSampleIds)) s g := by
    rintro s g ⟨o, hd, hout, -⟩
    exact (hin s o hd).2 hout
  refine ⟨?_, fun a b g _ _ ha => absurd ha (himport a g),
    fun a b g _ _ ha => absurd ha (himport a g), fun a b g _ _ hb => absurd hb (himport b g)⟩
  rintro a b - - hbridge
  cases hbridge with
  | last hstep hout _ =>
    exact hstep.elim (fun hd => (hin _ _ hd).2 hout) fun hd => (hin _ _ hd).1 hout
  | cons hstep hout _ =>
    exact hstep.elim (fun hd => (hin _ _ hd).2 hout) fun hd => (hin _ _ hd).1 hout

/-! ## A fold set that leaks -/

/-- A row that has no group: a plain observation, or an augmented one when it has an origin. -/
def lineageRow (sampleId : SampleId) (observationId : ObservationId)
    (originId : Option OriginId) : SampleRelation :=
  { observationId, sampleId, sourceId := none, targetId := none, groupId := none, originId
    repetitionId := none, augmented := originId.isSome, excluded := false, metadata := ∅
    tags := [], augmentation := none }

/-- `C` derives from `B`, and `B` derives from `A`. -/
def chainRelations : SampleRelationTable where
  rows :=
    [lineageRow (.lit "A" rfl) (.lit "oA" rfl) none,
      lineageRow (.lit "B" rfl) (.lit "oB" rfl) (some (.lit "oA" rfl)),
      lineageRow (.lit "C" rfl) (.lit "oC" rfl) (some (.lit "oB" rfl))]

/-- Two folds over `A` and `C`. The target of `B` is missing, so that `B` is in no fold. -/
def chainFoldSet : FoldSet where
  id := "folds"
  sampleIds := [.lit "A" rfl, .lit "C" rfl]
  folds :=
    [⟨"fold-0", [.lit "A" rfl], [.lit "C" rfl], ∅⟩,
      ⟨"fold-1", [.lit "C" rfl], [.lit "A" rfl], ∅⟩]
  sampleGroups := ∅
  partitionMode := .partition
  trainExclusion := .relations
  targetMissingSampleIds := [.lit "B" rfl]

theorem chainFoldSet_accepted : chainRelations.validateFoldSet chainFoldSet = .ok () := by
  decide +kernel

theorem chainFoldSet_separates_iff :
    (∀ fold ∈ chainFoldSet.folds, chainRelations.Separates chainFoldSet fold) ↔
      ∀ fold ∈ chainFoldSet.folds, chainRelations.NoLinkOutsideFold chainFoldSet fold :=
  validateFoldSet_separates_iff chainFoldSet_accepted

/-- The fold set is accepted, and its first fold trains on `A` and validates on `C`. -/
theorem chainFoldSet_leaks :
    chainRelations.validateFoldSet chainFoldSet = .ok () ∧
      ¬ ∀ fold ∈ chainFoldSet.folds, chainRelations.Separates chainFoldSet fold := by
  refine ⟨chainFoldSet_accepted, fun h => ?_⟩
  have hderives : ∀ row ∈ chainRelations.rows, ∀ origin ∈ chainRelations.rows,
      row.originId.map Ident.value = some origin.observationId.value →
      chainRelations.DerivesFrom row.sampleId origin.sampleId := by
    intro row hrow origin horigin ho
    obtain ⟨originId, hid, hval⟩ := Option.map_eq_some_iff.mp ho
    exact ⟨row, hrow, origin, horigin, originId, hid, hval.symm, rfl, rfl⟩
  have hAB : Either chainRelations.DerivesFrom (.lit "A" rfl) (.lit "B" rfl) :=
    Or.inr (hderives (chainRelations.rows.get ⟨1, by decide⟩) (List.get_mem _ _)
      (chainRelations.rows.get ⟨0, by decide⟩) (List.get_mem _ _) rfl)
  have hBC : Either chainRelations.DerivesFrom (.lit "B" rfl) (.lit "C" rfl) :=
    Or.inr (hderives (chainRelations.rows.get ⟨2, by decide⟩) (List.get_mem _ _)
      (chainRelations.rows.get ⟨1, by decide⟩) (List.get_mem _ _) rfl)
  exact h _ List.mem_cons_self (.lit "A" rfl) (.lit "C" rfl) List.mem_cons_self
    List.mem_cons_self (Or.inl ((Relation.ReflTransGen.single hAB).tail hBC))

end DagMlData
