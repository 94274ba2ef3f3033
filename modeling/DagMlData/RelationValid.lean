import DagMlData.Relation

/-!
# What the relation validators establish

`SampleRelationTable.Valid` and `FoldSet.Valid` say what `SampleRelationTable.validate` and
`FoldSet.validate` establish, with `RelationLoop.Seen` as the invariant of the row loop.
-/

namespace DagMlData

open Guard

/-! ## Sample-relation tables -/

/-- What `SampleRelationTable.validate` establishes of the rows. -/
structure SampleRelationTable.Valid (table : SampleRelationTable) : Prop where
  nonempty : table.rows ≠ []
  observations_nodup : (table.rows.map (·.observationId)).Nodup
  groups : ∀ row ∈ table.rows, ∀ g, row.groupId = some g →
    table.sampleGroups[row.sampleId]? = some g
  augmented_iff_origin : ∀ row ∈ table.rows, row.augmented = row.originId.isSome
  not_own_origin : ∀ row ∈ table.rows, ∀ o, row.originId = some o →
    o.value ≠ row.observationId.value
  origin_present : ∀ row ∈ table.rows, ∀ o, row.originId = some o →
    ∃ origin ∈ table.rows, origin.observationId.value = o.value

/-- What the row loop has established of the rows that it has accepted. -/
structure RelationLoop.Seen (rows : List SampleRelation) (st : RelationLoop) : Prop where
  observations : ∀ o, o ∈ st.observationIds ↔ o ∈ rows.map (·.observationId)
  observations_nodup : (rows.map (·.observationId)).Nodup
  origins : ∀ row ∈ rows, ∀ o, row.originId = some o → o ∈ st.originIds
  groups : ∀ row ∈ rows, ∀ g, row.groupId = some g → st.sampleGroups[row.sampleId]? = some g
  augmented_iff_origin : ∀ row ∈ rows, row.augmented = row.originId.isSome
  not_own_origin : ∀ row ∈ rows, ∀ o, row.originId = some o →
    o.value ≠ row.observationId.value

/-- What the loop body checks of the row. -/
structure SampleRelation.Checked (st : RelationLoop) (row : SampleRelation) : Prop where
  fresh : row.observationId ∉ st.observationIds
  group : ∀ g, row.groupId = some g → ∀ h, st.sampleGroups[row.sampleId]? = some h → h = g
  augmented_iff_origin : row.augmented = row.originId.isSome
  not_own_origin : ∀ o, row.originId = some o → o.value ≠ row.observationId.value

theorem SampleRelation.check_ok {st st' : RelationLoop} {row : SampleRelation}
    (h : SampleRelation.check st row = .ok st') : row.Checked st ∧ st' = st.add row := by
  simp only [check, bind_eq_ok, rejectIf_eq_ok, whenSome_eq_ok, exists_unit, pure_eq_ok] at h
  obtain ⟨hfresh, hgroup, horigin, hplain, -, hown, rfl⟩ := h
  refine ⟨⟨?_, ?_, ?_, ?_⟩, rfl⟩
  · simpa using hfresh
  · intro g hg h hh
    simpa using hgroup g hg h hh
  · cases ho : row.originId <;> cases ha : row.augmented <;> simp_all
  · intro o ho
    simpa using hown o ho

theorem RelationLoop.Seen.add {rows : List SampleRelation} {st : RelationLoop}
    {row : SampleRelation} (h : RelationLoop.Seen rows st) (hrow : row.Checked st) :
    RelationLoop.Seen (rows ++ [row]) (st.add row) where
  observations o := by
    simp only [RelationLoop.add, BTreeSet.mem_insert_iff, h.observations, List.map_append,
      List.mem_append, List.map_cons, List.map_nil, List.mem_singleton]
    exact or_comm
  observations_nodup := by
    simp only [List.map_append, List.map_cons, List.map_nil]
    refine List.Nodup.append h.observations_nodup (List.nodup_singleton _) ?_
    simp only [List.disjoint_singleton]
    exact fun hm => hrow.fresh ((h.observations _).mpr hm)
  origins r hr o ho := by
    rcases List.mem_append.mp hr with hr | hr
    · have := h.origins r hr o ho
      cases horigin : row.originId <;> simp [RelationLoop.add, horigin, this]
    · rw [List.mem_singleton] at hr
      subst hr
      simp [RelationLoop.add, ho]
  groups r hr g hg := by
    rcases List.mem_append.mp hr with hr | hr
    · have hold := h.groups r hr g hg
      cases hgroup : row.groupId with
      | none => simpa [RelationLoop.add, hgroup] using hold
      | some g' =>
        by_cases hs : row.sampleId = r.sampleId
        · have := hrow.group g' hgroup g (hs ▸ hold)
          simp [RelationLoop.add, hgroup, hs, this]
        · simp only [RelationLoop.add, hgroup]
          rw [BTreeMap.getElem?_insert_of_ne hs, hold]
    · rw [List.mem_singleton] at hr
      subst hr
      simp [RelationLoop.add, hg]
  augmented_iff_origin r hr := by
    rcases List.mem_append.mp hr with hr | hr
    · exact h.augmented_iff_origin r hr
    · exact List.mem_singleton.mp hr ▸ hrow.augmented_iff_origin
  not_own_origin r hr := by
    rcases List.mem_append.mp hr with hr | hr
    · exact h.not_own_origin r hr
    · exact List.mem_singleton.mp hr ▸ hrow.not_own_origin

theorem RelationLoop.seen_of_foldlM {rows : List SampleRelation} {st : RelationLoop}
    (h : rows.foldlM SampleRelation.check ⟨∅, ∅, ∅⟩ = .ok st) :
      RelationLoop.Seen rows st := by
  refine foldlM_ok_induction (P := RelationLoop.Seen) ?_ ?_ h
  · constructor <;> simp
  · intro pre st row st' hpre hstep
    obtain ⟨hrow, rfl⟩ := SampleRelation.check_ok hstep
    exact hpre.add hrow

/-- A row's group is the group of its sample: every row of the sample that has one has it. -/
theorem SampleRelationTable.getElem?_sampleGroups {table : SampleRelationTable}
    {groups : BTreeMap SampleId GroupId}
    (hall : ∀ row ∈ table.rows, ∀ g, row.groupId = some g → groups[row.sampleId]? = some g)
    {row : SampleRelation} (hrow : row ∈ table.rows) {g : GroupId} (hg : row.groupId = some g) :
    table.sampleGroups[row.sampleId]? = some g := by
  have hmem : (row.sampleId, g) ∈
      table.rows.filterMap fun row => row.groupId.map fun g => (row.sampleId, g) :=
    List.mem_filterMap.mpr ⟨row, hrow, by simp [hg]⟩
  obtain ⟨g', hg'⟩ := BTreeMap.exists_getElem?_collect hmem
  obtain ⟨other, hother, heq⟩ := List.mem_filterMap.mp (BTreeMap.mem_of_getElem?_collect hg')
  obtain ⟨h, hh, hpair⟩ := Option.map_eq_some_iff.mp heq
  obtain ⟨hs, rfl⟩ := Prod.mk.injEq .. ▸ hpair
  have h₁ := hall other hother h hh
  have h₂ := hall row hrow g hg
  rw [hs, h₂] at h₁
  rw [SampleRelationTable.sampleGroups, hg', Option.some.inj h₁]

theorem SampleRelationTable.valid_of_validate {table : SampleRelationTable}
    (h : table.validate = .ok ()) : table.Valid := by
  simp only [SampleRelationTable.validate, bind_eq_ok, rejectIf_eq_ok, exists_unit,
    forM_eq_ok] at h
  obtain ⟨hne, st, hloop, horigins⟩ := h
  have hseen := RelationLoop.seen_of_foldlM hloop
  refine
    { nonempty := by simpa using hne
      observations_nodup := hseen.observations_nodup
      groups := fun row hrow g hg => getElem?_sampleGroups hseen.groups hrow hg
      augmented_iff_origin := hseen.augmented_iff_origin
      not_own_origin := hseen.not_own_origin
      origin_present := ?_ }
  intro row hrow o ho
  have hany := horigins o (by simpa using hseen.origins row hrow o ho)
  simp only [Bool.not_eq_false', List.any_eq_true, beq_iff_eq] at hany
  obtain ⟨obs, hobs, heq⟩ := hany
  have hobs := (hseen.observations obs).mp (by simpa using hobs)
  obtain ⟨origin, horigin, rfl⟩ := List.mem_map.mp hobs
  exact ⟨origin, horigin, heq⟩

/-! ## Fold sets -/

theorem uniqueSamples_eq_ok {label : String} {samples : List SampleId} {s : BTreeSet SampleId} :
    uniqueSamples label samples = .ok s ↔ samples.Nodup ∧ s = BTreeSet.collect samples := by
  simp only [uniqueSamples, bind_eq_ok, rejectRepeats_eq_ok, exists_unit, pure_eq_ok]
  rw [eq_comm (a := s)]

/-- An accepted group boundary: no group of a map on both sides. -/
theorem validateGroupBoundary_eq_ok {foldId : String} {train validation : BTreeSet SampleId}
    {groups : BTreeMap SampleId GroupId} :
    validateGroupBoundary foldId train validation groups = .ok () ↔
      ∀ a ∈ train, ∀ b ∈ validation, ∀ g, groups[a]? = some g →
        groups[b]? ≠ some g := by
  unfold validateGroupBoundary
  split
  · next hempty =>
    obtain rfl := Std.ExtTreeMap.isEmpty_iff.mp hempty
    simp
  · simp only [forM_eq_ok, whenSome_eq_ok, rejectIf_eq_ok, BTreeSet.contains_collect,
      decide_eq_false_iff_not, List.mem_filterMap, Std.ExtTreeSet.mem_toList]
    constructor
    · intro h a ha b hb g hga hgb
      exact h b hb g hgb ⟨a, ha, hga⟩
    · rintro h b hb g hgb ⟨a, ha, hga⟩
      exact h a ha b hb g hga hgb

/-- What `FoldSet.validate` establishes of one fold. -/
structure FoldSet.FoldChecked (foldSet : FoldSet) (fold : FoldAssignment) : Prop where
  train_nodup : fold.trainSampleIds.Nodup
  validation_nodup : fold.validationSampleIds.Nodup
  known : ∀ s, s ∈ fold.trainSampleIds ∨ s ∈ fold.validationSampleIds →
    s ∈ foldSet.sampleIds
  disjoint : ∀ s ∈ fold.trainSampleIds, s ∉ fold.validationSampleIds
  groups : ∀ a ∈ fold.trainSampleIds, ∀ b ∈ fold.validationSampleIds, ∀ g,
    foldSet.sampleGroups[a]? = some g → foldSet.sampleGroups[b]? ≠ some g

theorem FoldSet.foldChecked_of_checkFold {foldSet : FoldSet} {st st' : FoldLoop}
    {fold : FoldAssignment}
    (h : foldSet.checkFold (BTreeSet.collect foldSet.sampleIds) st fold = .ok st') :
    foldSet.FoldChecked fold := by
  simp only [checkFold, bind_eq_ok, rejectIf_eq_ok, exists_unit, uniqueSamples_eq_ok,
    forM_eq_ok, whenSome_error_eq_ok, validateGroupBoundary_eq_ok,
    BTreeSet.intersectionNext_eq_none] at h
  obtain ⟨-, -, _, ⟨htrain, rfl⟩, _, ⟨hval, rfl⟩, -, hknown, hover, hgroups, -⟩ := h
  simp only [BTreeSet.mem_collect] at hover hgroups
  refine ⟨htrain, hval, ?_, hover, hgroups⟩
  intro s hs
  simpa using hknown s (by simpa [Std.ExtTreeSet.mem_union_iff] using hs)

/-- What `FoldSet.validate` establishes. -/
structure FoldSet.Valid (foldSet : FoldSet) : Prop where
  samples_nodup : foldSet.sampleIds.Nodup
  missing_apart : ∀ s ∈ foldSet.targetMissingSampleIds, s ∉ foldSet.sampleIds
  folds : ∀ fold ∈ foldSet.folds, foldSet.FoldChecked fold
  groups_cover : foldSet.sampleGroups ≠ ∅ →
    ∀ s, s ∈ foldSet.sampleGroups ↔ s ∈ foldSet.sampleIds

theorem FoldSet.checkSampleGroups_eq_ok {foldSet : FoldSet} :
    foldSet.checkSampleGroups (BTreeSet.collect foldSet.sampleIds) = .ok () ↔
      (foldSet.sampleGroups ≠ ∅ → ∀ s, s ∈ foldSet.sampleGroups ↔
        s ∈ foldSet.sampleIds) := by
  unfold checkSampleGroups
  split
  · next hempty => simp [Std.ExtTreeMap.isEmpty_iff.mp hempty]
  · next hne =>
    have hne : foldSet.sampleGroups ≠ ∅ := fun h => hne (Std.ExtTreeMap.isEmpty_iff.mpr h)
    simp only [bind_eq_ok, forM_eq_ok, rejectIf_eq_ok, exists_unit, whenSome_error_eq_ok,
      Bool.not_eq_false', BTreeSet.contains_collect, decide_eq_true_iff, List.find?_eq_none,
      Std.ExtTreeMap.mem_keys, Bool.not_eq_true', Bool.not_eq_false,
      Std.ExtTreeMap.contains_iff_mem]
    exact ⟨fun h _ s => ⟨h.1 s, h.2 s⟩,
      fun h => ⟨fun s => (h hne s).mp, fun s => (h hne s).mpr⟩⟩

theorem FoldSet.valid_of_validate {foldSet : FoldSet} (h : foldSet.validate = .ok ()) :
    foldSet.Valid := by
  simp only [validate, bind_eq_ok, rejectIf_eq_ok, exists_unit, uniqueSamples_eq_ok,
    whenSome_error_eq_ok] at h
  obtain ⟨-, -, -, _, ⟨hnodup, rfl⟩, _, ⟨-, rfl⟩, hmissing, hgroups, _, hfolds, -⟩ := h
  refine ⟨hnodup, ?_, ?_, checkSampleGroups_eq_ok.mp hgroups⟩
  · simpa [BTreeSet.intersectionNext_eq_none] using hmissing
  · intro fold hfold
    obtain ⟨st, st', hstep⟩ := foldlM_ok_mem hfolds hfold
    exact foldChecked_of_checkFold hstep

end DagMlData
