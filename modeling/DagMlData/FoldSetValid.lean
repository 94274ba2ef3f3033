import DagMlData.FoldLeakage

/-!
# Which fold sets are accepted

`FoldSet.Accepted` has the conditions on a fold set in terms of its lists, and
`FoldSet.validate_eq_ok` says that the loops and counters of `FoldSet.validate` amount to them.
`FoldSet.validate_accepts_iff` adds what they mean together: in partition mode the validation lists
are a partition of the samples.
-/

namespace DagMlData

open Guard RustText

/-! ## Counting validations -/

/-- The number of folds that validate on the sample. -/
def validationCount (folds : List FoldAssignment) (s : SampleId) : Nat :=
  folds.countP fun fold => s ∈ fold.validationSampleIds

/-- The counters after every fold. -/
def countValidations (counts : BTreeMap SampleId Nat) (folds : List FoldAssignment) :
    BTreeMap SampleId Nat :=
  folds.foldl (fun counts fold =>
    countValidation counts (BTreeSet.collect fold.validationSampleIds)) counts

theorem getElem?_foldl_count {samples : List SampleId} (hnodup : samples.Nodup)
    {counts : BTreeMap SampleId Nat} {s : SampleId} :
    (samples.foldl (fun c t => c.insert t (c.getD t 0 + 1)) counts)[s]? =
      if s ∈ samples then some (counts.getD s 0 + 1) else counts[s]? := by
  induction samples generalizing counts with
  | nil => rfl
  | cons t samples ih =>
    obtain ⟨hnew, hnodup⟩ := List.nodup_cons.mp hnodup
    rw [List.foldl_cons, ih hnodup]
    by_cases hst : s = t
    · subst hst
      rw [if_neg hnew, if_pos List.mem_cons_self, Std.ExtTreeMap.getElem?_insert_self]
    · have hget : ∀ v, (counts.insert t v)[s]? = counts[s]? := fun v =>
        BTreeMap.getElem?_insert_of_ne (Ne.symm hst)
      rw [Std.ExtTreeMap.getD_eq_getD_getElem?, hget, ← Std.ExtTreeMap.getD_eq_getD_getElem?]
      by_cases hmem : s ∈ samples
      · rw [if_pos hmem, if_pos (List.mem_cons_of_mem t hmem)]
      · rw [if_neg hmem, if_neg (by simp [hst, hmem])]

theorem getElem?_countValidation {counts : BTreeMap SampleId Nat} {samples : List SampleId}
    {s : SampleId} :
    (countValidation counts (BTreeSet.collect samples))[s]? =
      if s ∈ samples then some (counts.getD s 0 + 1) else counts[s]? := by
  have hnodup : (BTreeSet.collect samples).toList.Nodup :=
    Std.ExtTreeSet.distinct_toList.imp fun hne heq =>
      hne (Std.LawfulEqOrd.compare_eq_iff_eq.mpr heq)
  rw [countValidation, getElem?_foldl_count hnodup]
  have hmem : s ∈ (BTreeSet.collect samples).toList ↔ s ∈ samples := by
    rw [Std.ExtTreeSet.mem_toList, BTreeSet.mem_collect]
  simp only [hmem]

/-- A sample that is counted has one more for every fold that validates on it. -/
theorem getElem?_countValidations {folds : List FoldAssignment} {counts : BTreeMap SampleId Nat}
    {s : SampleId} {n : Nat} (h : counts[s]? = some n) :
    (countValidations counts folds)[s]? = some (n + validationCount folds s) := by
  induction folds generalizing counts n with
  | nil => exact h
  | cons fold folds ih =>
    have hstep : (countValidation counts (BTreeSet.collect fold.validationSampleIds))[s]? =
        some (n + if s ∈ fold.validationSampleIds then 1 else 0) := by
      rw [getElem?_countValidation, Std.ExtTreeMap.getD_eq_getD_getElem?, h]
      by_cases hmem : s ∈ fold.validationSampleIds
      · rw [if_pos hmem, if_pos hmem]
        rfl
      · rw [if_neg hmem, if_neg hmem]
        rfl
    rw [countValidations, List.foldl_cons]
    refine (ih hstep).trans ?_
    rw [validationCount, validationCount, List.countP_cons]
    simp only [decide_eq_true_eq]
    congr 1
    omega

/-- Nothing but known samples is counted. -/
theorem mem_of_mem_countValidations {samples : List SampleId} {folds : List FoldAssignment}
    (hknown : ∀ fold ∈ folds, ∀ s ∈ fold.validationSampleIds, s ∈ samples)
    {counts : BTreeMap SampleId Nat} {s : SampleId} {n : Nat}
    (hcounts : ∀ s n, counts[s]? = some n → s ∈ samples)
    (h : (countValidations counts folds)[s]? = some n) : s ∈ samples := by
  induction folds generalizing counts with
  | nil => exact hcounts s n h
  | cons fold folds ih =>
    refine ih (fun other hother => hknown other (List.mem_cons_of_mem fold hother))
      (fun t m ht => ?_) h
    rw [getElem?_countValidation] at ht
    split at ht
    · next hmem => exact hknown fold List.mem_cons_self t hmem
    · exact hcounts t m ht

/-- A count is one exactly when one fold validates on the sample. -/
theorem validationCount_eq_one {folds : List FoldAssignment}
    (hnodup : (folds.map (·.foldId)).Nodup) {s : SampleId} :
    validationCount folds s = 1 ↔
      ∃! fold, fold ∈ folds ∧ s ∈ fold.validationSampleIds := by
  rw [validationCount, List.countP_eq_length_filter, List.length_eq_one_iff]
  have hfilter : ∀ fold, fold ∈ folds.filter (fun fold => s ∈ fold.validationSampleIds) ↔
      fold ∈ folds ∧ s ∈ fold.validationSampleIds := by
    intro fold
    rw [List.mem_filter, decide_eq_true_eq]
  constructor
  · rintro ⟨fold, hfold⟩
    refine ⟨fold, (hfilter fold).mp (hfold ▸ List.mem_cons_self), fun other hother => ?_⟩
    have hmem := (hfilter other).mpr hother
    rwa [hfold, List.mem_singleton] at hmem
  · rintro ⟨fold, hfold, honly⟩
    refine ⟨fold, List.perm_singleton.mp ?_⟩
    refine (List.perm_ext_iff_of_nodup ((List.Nodup.of_map _ hnodup).filter _)
      (List.nodup_singleton fold)).mpr fun other => ?_
    rw [hfilter, List.mem_singleton]
    exact ⟨fun hother => honly other hother, fun heq => heq ▸ hfold⟩

/-! ## The loop over the folds -/

namespace FoldSet

variable {foldSet : FoldSet}

/-- What the loop body checks of the fold alone. -/
structure FoldAccepted (foldSet : FoldSet) (fold : FoldAssignment) : Prop
    extends foldSet.FoldChecked fold where
  foldId : isBlank fold.foldId = false
  validated : fold.validationSampleIds ≠ []

theorem checkFold_eq_ok {st st' : FoldLoop} {fold : FoldAssignment} :
    foldSet.checkFold (BTreeSet.collect foldSet.sampleIds) st fold = .ok st' ↔
      foldSet.FoldAccepted fold ∧ fold.foldId ∉ st.foldIds ∧
        st' = ⟨st.foldIds.insert fold.foldId,
          countValidation st.validationCounts (BTreeSet.collect fold.validationSampleIds)⟩ := by
  have hempty : (BTreeSet.collect fold.validationSampleIds).isEmpty = false ↔
      fold.validationSampleIds ≠ [] := by
    rw [← Bool.not_eq_true, Std.ExtTreeSet.isEmpty_iff,
      Std.ExtTreeSet.eq_empty_iff_forall_not_mem, ne_eq, List.eq_nil_iff_forall_not_mem]
    simp only [BTreeSet.mem_collect]
  simp only [checkFold, bind_eq_ok, rejectIf_eq_ok, exists_unit, uniqueSamples_eq_ok,
    forM_eq_ok, whenSome_error_eq_ok, validateGroupBoundary_eq_ok,
    BTreeSet.intersectionNext_eq_none, BTreeSet.contains_eq_false, pure_eq_ok]
  constructor
  · rintro ⟨hid, hfresh, _, ⟨htrain, rfl⟩, _, ⟨hval, rfl⟩, hne, hknown,
      hover, hgroups, rfl⟩
    simp only [BTreeSet.mem_collect] at hover hgroups
    refine ⟨⟨⟨htrain, hval, fun s hs => ?_, hover, hgroups⟩, hid, hempty.mp hne⟩,
      hfresh, rfl⟩
    simpa using hknown s (by simpa [Std.ExtTreeSet.mem_union_iff] using hs)
  · rintro ⟨⟨⟨htrain, hval, hknown, hover, hgroups⟩, hid, hne⟩, hfresh, rfl⟩
    refine ⟨hid, hfresh, _, ⟨htrain, rfl⟩, _, ⟨hval, rfl⟩, hempty.mpr hne,
      fun s hs => ?_, ?_, ?_,
      rfl⟩
    · have hs' : s ∈ fold.trainSampleIds ∨ s ∈ fold.validationSampleIds := by
        simpa [Std.ExtTreeSet.mem_union_iff] using hs
      simpa using hknown s hs'
    · simpa only [BTreeSet.mem_collect] using hover
    · simpa only [BTreeSet.mem_collect] using hgroups

/-- The loop accepts exactly the accepted folds with distinct new ids, and counts their
validations. -/
theorem foldlM_checkFold_eq_ok {folds : List FoldAssignment} {st st' : FoldLoop} :
    folds.foldlM (foldSet.checkFold (BTreeSet.collect foldSet.sampleIds)) st = .ok st' ↔
      (∀ fold ∈ folds, foldSet.FoldAccepted fold) ∧ (folds.map (·.foldId)).Nodup ∧
        (∀ fold ∈ folds, fold.foldId ∉ st.foldIds) ∧
        st' = ⟨folds.foldl (fun ids fold => ids.insert fold.foldId) st.foldIds,
          countValidations st.validationCounts folds⟩ := by
  induction folds generalizing st with
  | nil => simp [countValidations, pure_eq_ok, eq_comm (a := st')]
  | cons fold folds ih =>
    simp only [List.foldlM_cons, bind_eq_ok, checkFold_eq_ok, ih, List.map_cons, List.nodup_cons,
      List.mem_map, List.mem_cons, forall_eq_or_imp, not_exists, not_and]
    constructor
    · rintro ⟨_, ⟨hfold, hfresh, rfl⟩, hfolds, hnodup, hnew, rfl⟩
      have hnew' : ∀ other ∈ folds, other.foldId ≠ fold.foldId ∧
        other.foldId ∉ st.foldIds := by
        intro other hother
        have h := hnew other hother
        rwa [BTreeSet.mem_insert_iff, not_or] at h
      exact ⟨⟨hfold, hfolds⟩, ⟨fun other h => (hnew' other h).1, hnodup⟩,
        ⟨hfresh, fun other h => (hnew' other h).2⟩, rfl⟩
    · rintro ⟨⟨hfold, hfolds⟩, ⟨hdistinct, hnodup⟩, ⟨hfresh, hnew⟩, rfl⟩
      refine ⟨_, ⟨hfold, hfresh, rfl⟩, hfolds, hnodup, fun other h => ?_, rfl⟩
      rw [BTreeSet.mem_insert_iff, not_or]
      exact ⟨hdistinct other h, hnew other h⟩

/-! ## What is accepted -/

/-- The conditions on a fold set. -/
structure Accepted (foldSet : FoldSet) : Prop where
  id : isBlank foldSet.id = false
  sampled : foldSet.sampleIds ≠ []
  samples_nodup : foldSet.sampleIds.Nodup
  folded : foldSet.folds ≠ []
  missing_nodup : foldSet.targetMissingSampleIds.Nodup
  missing_apart : ∀ s ∈ foldSet.targetMissingSampleIds, s ∉ foldSet.sampleIds
  groups_cover : foldSet.sampleGroups = ∅ ∨
    ∀ s, s ∈ foldSet.sampleGroups ↔ s ∈ foldSet.sampleIds
  foldIds_nodup : (foldSet.folds.map (·.foldId)).Nodup
  folds : ∀ fold ∈ foldSet.folds, foldSet.FoldAccepted fold
  /-- In partition mode every sample is validated by exactly one fold. -/
  coverage : foldSet.partitionMode = .partition → ∀ s ∈ foldSet.sampleIds,
    ∃! fold, fold ∈ foldSet.folds ∧ s ∈ fold.validationSampleIds

/-- The validation lists are a partition of the samples. -/
structure PartitionsSamples (foldSet : FoldSet) : Prop where
  nonempty : ∀ fold ∈ foldSet.folds, fold.validationSampleIds ≠ []
  apart : foldSet.folds.Pairwise fun fold other =>
    ∀ s ∈ fold.validationSampleIds, s ∉ other.validationSampleIds
  covers : ∀ s, s ∈ foldSet.sampleIds ↔
    ∃ fold ∈ foldSet.folds, s ∈ fold.validationSampleIds

/-- The counters of accepted folds pass in partition mode when every sample is validated once. -/
theorem checkCoverage_eq_ok (hfolds : ∀ fold ∈ foldSet.folds, foldSet.FoldAccepted fold)
    (hids : (foldSet.folds.map (·.foldId)).Nodup) {u : Unit} :
    foldSet.checkCoverage (countValidations
        (BTreeMap.collect (foldSet.sampleIds.map fun s => (s, 0))) foldSet.folds) = .ok u ↔
      (foldSet.partitionMode = .partition → ∀ s ∈ foldSet.sampleIds,
        ∃! fold, fold ∈ foldSet.folds ∧ s ∈ fold.validationSampleIds) := by
  have hstart : ∀ (s : SampleId) (n : Nat),
    (BTreeMap.collect (foldSet.sampleIds.map fun s => (s, 0)))[s]? = some n →
      s ∈ foldSet.sampleIds ∧ n = 0 := by
    intro s n h
    obtain ⟨t, ht, heq⟩ := List.mem_map.mp (BTreeMap.mem_of_getElem?_collect h)
    cases heq
    exact ⟨ht, rfl⟩
  have hcounted : ∀ s ∈ foldSet.sampleIds, (countValidations
      (BTreeMap.collect (foldSet.sampleIds.map fun s => (s, 0))) foldSet.folds)[s]? =
        some (validationCount foldSet.folds s) := by
    intro s hs
    have hmem : (s, 0) ∈ foldSet.sampleIds.map fun s => (s, 0) :=
      List.mem_map.mpr ⟨s, hs, rfl⟩
    obtain ⟨n, hn⟩ := BTreeMap.exists_getElem?_collect hmem
    obtain rfl := (hstart s n hn).2
    rw [getElem?_countValidations hn, Nat.zero_add]
  by_cases hmode : foldSet.partitionMode = .partition
  · simp only [checkCoverage, hmode, beq_self_eq_true, if_true, forM_eq_ok, rejectIf_eq_ok,
      bne_eq_false_iff_eq, Prod.forall,
        Std.ExtTreeMap.mem_toList_iff_getElem?_eq_some, true_imp_iff]
    constructor
    · intro h s hs
      exact (validationCount_eq_one hids).mp (h s _ (hcounted s hs))
    · intro h s n hn
      have hs : s ∈ foldSet.sampleIds := mem_of_mem_countValidations
        (fun fold hfold t ht => (hfolds fold hfold).known t (.inr ht))
        (fun t m ht => (hstart t m ht).1) hn
      rw [hcounted s hs, Option.some.injEq] at hn
      rw [← hn]
      exact (validationCount_eq_one hids).mpr (h s hs)
  · simp [checkCoverage, hmode]

theorem validate_eq_ok : foldSet.validate = .ok () ↔ foldSet.Accepted := by
  have hgroups : (foldSet.sampleGroups ≠ ∅ →
      ∀ s, s ∈ foldSet.sampleGroups ↔ s ∈ foldSet.sampleIds) ↔
        (foldSet.sampleGroups = ∅ ∨ ∀ s, s ∈ foldSet.sampleGroups ↔
          s ∈ foldSet.sampleIds) := by
    rw [ne_eq, ← or_iff_not_imp_left]
  simp only [validate, bind_eq_ok, rejectIf_eq_ok, exists_unit, uniqueSamples_eq_ok,
    whenSome_error_eq_ok, List.isEmpty_eq_false_iff]
  constructor
  · rintro ⟨hid, hsampled, hfolded, _, ⟨hnodup, rfl⟩, _, ⟨hmissing, rfl⟩,
      hapart, hcover, _, hloop,
      hcoverage⟩
    obtain ⟨hfolds, hids, -, rfl⟩ := foldlM_checkFold_eq_ok.mp hloop
    exact
      { id := hid
        sampled := hsampled
        samples_nodup := hnodup
        folded := hfolded
        missing_nodup := hmissing
        missing_apart := by simpa [BTreeSet.intersectionNext_eq_none] using hapart
        groups_cover := hgroups.mp (checkSampleGroups_eq_ok.mp hcover)
        foldIds_nodup := hids
        folds := hfolds
        coverage := (checkCoverage_eq_ok hfolds hids).mp hcoverage }
  · intro h
    refine ⟨h.id, h.sampled, h.folded, _, ⟨h.samples_nodup, rfl⟩, _,
      ⟨h.missing_nodup, rfl⟩, ?_,
      checkSampleGroups_eq_ok.mpr (hgroups.mpr h.groups_cover), _,
      foldlM_checkFold_eq_ok.mpr ⟨h.folds, h.foldIds_nodup, by simp, rfl⟩,
      (checkCoverage_eq_ok h.folds h.foldIds_nodup).mpr h.coverage⟩
    simpa [BTreeSet.intersectionNext_eq_none] using h.missing_apart

theorem Accepted.partitionsSamples (h : foldSet.Accepted)
    (hmode : foldSet.partitionMode = .partition) : foldSet.PartitionsSamples where
  nonempty fold hfold := (h.folds fold hfold).validated
  apart := by
    refine (List.Nodup.of_map _ h.foldIds_nodup).imp_of_mem fun {a b} ha hb hne s hs hs' => ?_
    have hsample := (h.folds a ha).known s (.inr hs)
    exact hne ((h.coverage hmode s hsample).unique ⟨ha, hs⟩ ⟨hb, hs'⟩)
  covers s := by
    constructor
    · intro hs
      obtain ⟨fold, ⟨hfold, hmem⟩, -⟩ := h.coverage hmode s hs
      exact ⟨fold, hfold, hmem⟩
    · rintro ⟨fold, hfold, hmem⟩
      exact (h.folds fold hfold).known s (.inr hmem)

/-- The validator accepts exactly the fold sets that meet the conditions. The validation lists of
one that is accepted in partition mode are a partition of its samples. -/
theorem validate_accepts_iff (foldSet : FoldSet) :
    (foldSet.validate = .ok () ↔ foldSet.Accepted) ∧
      (foldSet.validate = .ok () → foldSet.partitionMode = .partition →
        foldSet.PartitionsSamples) :=
  ⟨validate_eq_ok, fun h hmode => (validate_eq_ok.mp h).partitionsSamples hmode⟩

theorem chainFoldSet_partitions : chainFoldSet.PartitionsSamples :=
  (validate_accepts_iff chainFoldSet).2 (by decide +kernel) rfl

end FoldSet

end DagMlData
