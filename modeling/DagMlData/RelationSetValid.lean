import DagMlData.Coordinator

/-!
# Valid relation sets

`CoordinatorRelationSet.Valid` is what `CoordinatorRelationSet::validate` accepts
(`validate_eq_ok`): there is a record, no observation and no unit occurs twice, and every
component of a combo record is the observation of a record of the same sample.

`Valid.of_subset`: some records of a valid set, in any order, are valid again when they have the
components of their combo records.
-/

namespace DagMlData

open Guard RustText

namespace CoordinatorRelation

/-- The effective unit, empty when there is none. -/
def unit (r : CoordinatorRelation) : String := (r.effectiveUnitId.toOption).getD ""

/-- What is checked of a record alone. -/
structure OwnOk (r : CoordinatorRelation) : Prop where
  unit : r.effectiveUnitId = .ok r.unit
  weight : ∀ w, r.sampleInfluenceWeight = some w → w.isFinite = true ∧ w.leZero = false
  components : r.unitLevel ≠ .combo → r.componentObservationIds = []
  derivedUnit : r.unitLevel = .combo → r.derivedUnitId ≠ none
  someComponent : r.unitLevel = .combo → r.componentObservationIds ≠ []
  origin : r.unitLevel = .combo → ∀ s, r.originSampleId = some s → s = r.sampleId
  distinct : r.unitLevel = .combo → r.componentObservationIds.Nodup
  notItself : r.unitLevel = .combo → r.observationId ∉ r.componentObservationIds

/-- The components of a combo record are observations of records of its sample. -/
def HasComponents (records : List CoordinatorRelation) (r : CoordinatorRelation) : Prop :=
  r.unitLevel = .combo → ∀ component ∈ r.componentObservationIds,
    ∃ row ∈ records, row.observationId = component ∧ row.sampleId = r.sampleId

theorem effectiveUnitId_eq_ok {r : CoordinatorRelation} {u : String}
    (h : r.effectiveUnitId = .ok u) : r.effectiveUnitId = .ok r.unit := by
  rw [unit, h]
  rfl

theorem unit_eq {r : CoordinatorRelation} {u : String} (h : r.effectiveUnitId = .ok u) :
    r.unit = u := by
  rw [unit, h]
  rfl

theorem checkCombo_eq_ok {records : List CoordinatorRelation} {r : CoordinatorRelation} {u : Unit} :
    r.checkCombo records = .ok u ↔
      (r.derivedUnitId ≠ none ∧ r.componentObservationIds ≠ [] ∧
        ∀ s, r.originSampleId = some s → s = r.sampleId) ∧
      r.componentObservationIds.Nodup ∧ ∀ component ∈ r.componentObservationIds,
        component ≠ r.observationId ∧
          ∃ row ∈ records, row.observationId = component ∧ row.sampleId = r.sampleId := by
  simp only [checkCombo, bind_eq_ok, exists_unit, rejectIf_eq_ok, rejectRepeats_eq_ok,
    forM_eq_ok, Bool.or_eq_false_iff, Option.isNone_eq_false_iff, Option.isSome_iff_ne_none,
    List.isEmpty_eq_false_iff, Option.any_eq_false, bne_eq_false_iff_eq, beq_eq_false_iff_ne,
    Bool.not_eq_false', List.any_eq_true, Bool.and_eq_true, beq_iff_eq, and_assoc]

/-- One record in the loop over the records. -/
theorem check_eq_ok {records : List CoordinatorRelation} {st st' : RelationSetLoop}
    {r : CoordinatorRelation} :
    check records st r = .ok st' ↔
      (r.observationId ∉ st.seen ∧ r.unit ∉ st.units ∧ r.OwnOk ∧
        r.HasComponents records) ∧
        st' = ⟨st.seen.insert r.observationId, st.units.insert r.unit⟩ := by
  simp only [check, bind_eq_ok, exists_unit, rejectIf_eq_ok, pure_eq_ok, ite_eq_ok, beq_iff_eq,
    checkCombo_eq_ok, BTreeSet.contains_eq_false, Option.any_eq_false, Bool.or_eq_false_iff,
    Bool.and_eq_false_iff, bne_eq_false_iff_eq, Bool.not_eq_false', List.isEmpty_iff]
  constructor
  · rintro ⟨hseen, u, hu, hunits, hweight, hcomponents, hcombo⟩
    have hnext : st' = ⟨st.seen.insert r.observationId, st.units.insert u⟩ := by
      rcases hcombo with ⟨_, _, heq⟩ | ⟨_, heq⟩
      · exact heq.symm
      · exact heq.symm
    have hunit := unit_eq hu
    rw [← hunit] at hunits hnext
    refine ⟨⟨hseen, hunits, ⟨effectiveUnitId_eq_ok hu, hweight, ?_, ?_, ?_, ?_,
      ?_, ?_⟩, ?_⟩, hnext⟩
    · exact fun hne => hcomponents.resolve_left hne
    all_goals
      intro hlevel
      obtain ⟨⟨hderived, hsome, horigin⟩, hnodup, heach⟩ :=
        (hcombo.resolve_right fun hne => hne.1 hlevel).2.1
    · exact hderived
    · exact hsome
    · exact horigin
    · exact hnodup
    · exact fun hmem => (heach _ hmem).1 rfl
    · exact fun component hcomponent => (heach component hcomponent).2
  · rintro ⟨⟨hseen, hunits, hown, hcomponents⟩, rfl⟩
    refine ⟨hseen, r.unit, hown.unit, hunits, hown.weight, ?_, ?_⟩
    · by_cases hlevel : r.unitLevel = .combo
      · exact Or.inl hlevel
      · exact Or.inr (hown.components hlevel)
    · by_cases hlevel : r.unitLevel = .combo
      · refine Or.inl ⟨hlevel, ⟨⟨hown.derivedUnit hlevel, hown.someComponent hlevel,
          hown.origin hlevel⟩, hown.distinct hlevel,
            fun component hcomponent => ⟨?_, ?_⟩⟩, rfl⟩
        · rintro rfl
          exact hown.notItself hlevel hcomponent
        · exact hcomponents hlevel component hcomponent
      · exact Or.inr ⟨hlevel, rfl⟩

/-- The loop accepts the records. -/
theorem foldlM_check_eq_ok {records : List CoordinatorRelation} {xs : List CoordinatorRelation}
    {st : RelationSetLoop} :
    (∃ st', xs.foldlM (check records) st = .ok st') ↔
      (∀ r ∈ xs, r.observationId ∉ st.seen ∧ r.unit ∉ st.units ∧ r.OwnOk ∧
        r.HasComponents records) ∧
      (xs.map (·.observationId)).Nodup ∧ (xs.map unit).Nodup := by
  induction xs generalizing st with
  | nil => simp
  | cons r xs ih =>
    have hstep : (∃ st', (r :: xs).foldlM (check records) st = .ok st') ↔
        (r.observationId ∉ st.seen ∧ r.unit ∉ st.units ∧ r.OwnOk ∧
          r.HasComponents records) ∧
          ∃ st', xs.foldlM (check records)
            ⟨st.seen.insert r.observationId, st.units.insert r.unit⟩ = .ok st' := by
      simp only [List.foldlM_cons, bind_eq_ok, check_eq_ok]
      constructor
      · rintro ⟨st', _, ⟨hr, rfl⟩, hxs⟩
        exact ⟨hr, st', hxs⟩
      · rintro ⟨hr, st', hxs⟩
        exact ⟨st', _, ⟨hr, rfl⟩, hxs⟩
    rw [hstep, ih]
    simp only [BTreeSet.mem_insert_iff, List.forall_mem_cons, List.map_cons, List.nodup_cons,
      List.mem_map, not_or]
    constructor
    · rintro ⟨hr, hxs, hobservations, hunits⟩
      refine ⟨⟨hr, fun x hx => ⟨(hxs x hx).1.2, (hxs x hx).2.1.2, (hxs x hx).2.2⟩⟩,
        ⟨?_, hobservations⟩, ?_, hunits⟩
      · rintro ⟨x, hx, heq⟩
        exact (hxs x hx).1.1 heq
      · rintro ⟨x, hx, heq⟩
        exact (hxs x hx).2.1.1 heq
    · rintro ⟨⟨hr, hxs⟩, ⟨hobservation, hobservations⟩, hunit, hunits⟩
      refine ⟨hr, fun x hx => ⟨⟨fun heq => ?_, (hxs x hx).1⟩,
        ⟨fun heq => ?_, (hxs x hx).2.1⟩,
        (hxs x hx).2.2⟩, hobservations, hunits⟩
      · exact hobservation ⟨x, hx, heq⟩
      · exact hunit ⟨x, hx, heq⟩

end CoordinatorRelation

namespace CoordinatorRelationSet

/-- What the validator of relation sets accepts. -/
structure Valid (set : CoordinatorRelationSet) : Prop where
  nonempty : set.records ≠ []
  observations : (set.records.map (·.observationId)).Nodup
  units : (set.records.map CoordinatorRelation.unit).Nodup
  own : ∀ r ∈ set.records, r.OwnOk
  components : ∀ r ∈ set.records, r.HasComponents set.records

theorem validate_eq_ok {set : CoordinatorRelationSet} {u : Unit} :
    set.validate = .ok u ↔ set.Valid := by
  have hloop := @CoordinatorRelation.foldlM_check_eq_ok set.records set.records ⟨∅, ∅⟩
  simp only [validate, bind_eq_ok, exists_unit, rejectIf_eq_ok, List.isEmpty_eq_false_iff,
    pure_eq_ok, and_true, hloop]
  constructor
  · rintro ⟨hne, heach, hobservations, hunits⟩
    exact ⟨hne, hobservations, hunits, fun r hr => (heach r hr).2.2.1,
      fun r hr => (heach r hr).2.2.2⟩
  · rintro ⟨hne, hobservations, hunits, hown, hcomponents⟩
    exact ⟨hne, fun r hr => ⟨by simp, by simp, hown r hr, hcomponents r hr⟩,
      hobservations, hunits⟩

variable {set selected : CoordinatorRelationSet}

/-- Records of a valid set with the same observation are one record. -/
theorem Valid.eq_of_observation (h : set.Valid) {r r' : CoordinatorRelation}
    (hr : r ∈ set.records) (hr' : r' ∈ set.records) (heq : r.observationId = r'.observationId) :
    r = r' :=
  List.inj_on_of_nodup_map h.observations hr hr' heq

theorem nodup_map_of_subperm {α β : Type} {f : α → β} {xs ys : List α} (h : xs.Subperm ys)
    (hnodup : (ys.map f).Nodup) : (xs.map f).Nodup := by
  obtain ⟨zs, hperm, hsub⟩ := h
  rw [← (hperm.map f).nodup_iff]
  exact (hsub.map f).nodup hnodup

/-- Some of the records, in any order, with the components of their combo records. -/
theorem Valid.of_subset (h : set.Valid) (hne : selected.records ≠ [])
    (hsub : selected.records.Subperm set.records)
    (hcomponents : ∀ r ∈ selected.records, r.HasComponents selected.records) :
    selected.Valid := by
  refine ⟨hne, ?_, ?_, fun r hr => h.own r (hsub.subset hr), hcomponents⟩
  · exact nodup_map_of_subperm hsub h.observations
  · exact nodup_map_of_subperm hsub h.units

end CoordinatorRelationSet

end DagMlData
