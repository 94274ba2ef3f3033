import DagMlData.Lib.SortOn
import DagMlData.RelationSetValid
import DagMlData.RelationValid

/-!
# Coordinator relations of a sample table

`coordinator_relations_from_sample_table` turns the rows of a sample-relation table into
coordinator records. The two schemas differ in what they ask for: the table names the origin of a
row by its observation, the records by its sample, and only records have units.

* `SampleRelationTable.validate_eq_ok`: the tables that the validator accepts.
* `coordinatorRelationsFromSampleTable_spec`: what becomes of them.
-/

namespace DagMlData

open Guard RustText SortOn

/-- The record of a row, given the sample of its origin. -/
def SampleRelation.toRelation (row : SampleRelation) (originSampleId : Option SampleId) :
    CoordinatorRelation where
  unitLevel := .observation
  unitId := none
  observationId := row.observationId
  sampleId := row.sampleId
  sourceId := row.sourceId
  repId := row.repetitionId.map Ident.value
  targetId := row.targetId
  groupId := row.groupId
  originSampleId := originSampleId
  derivedUnitId := none
  componentObservationIds := []
  sampleInfluenceWeight := none
  qualityFlag := none
  isAugmented := row.augmented
  excluded := row.excluded
  metadata := row.metadata
  tags := row.tags

/-- The sample of the first observation with the text of the origin. -/
def findOrigin (observationToSample : BTreeMap ObservationId SampleId) (originId : OriginId) :
    Option SampleId :=
  observationToSample.toList.findSome? fun entry =>
    if entry.1.value = originId.value then some entry.2 else none

/-- The loop body of `coordinator_relations_from_sample_table`. -/
def SampleRelation.convert (observationToSample : BTreeMap ObservationId SampleId)
    (row : SampleRelation) : Result CoordinatorRelation :=
  match row.originId with
  | some originId => do
    let originSampleId ← require (findOrigin observationToSample originId)
      (.validation s!"origin `{originId}` is not present as an observation")
    pure (row.toRelation (some originSampleId))
  | none => pure (row.toRelation none)

/-- `coordinator_relations_from_sample_table`. -/
def coordinatorRelationsFromSampleTable (relations : SampleRelationTable) :
    Result CoordinatorRelationSet := do
  relations.validate
  let observationToSample := BTreeMap.collect
    (relations.rows.map fun row => (row.observationId, row.sampleId))
  let records ← relations.rows.mapM (SampleRelation.convert observationToSample)
  let converted : CoordinatorRelationSet := ⟨sortOn (·.observationId) records⟩
  converted.validate
  pure converted

/-! ## Identifiers as text -/

/-- A text without continuation bytes is ASCII. -/
theorem toUInt8_mem_bytes {s : String} (h : ∀ b ∈ bytes s, b.IsUTF8FirstByte) {c : Char}
    (hc : c ∈ s.toList) : c.toNat ≤ 127 ∧ c.toUInt8 ∈ bytes s := by
  rw [bytes_eq_flatMap] at h ⊢
  have hfirst : ∀ b ∈ String.utf8EncodeChar c, b.IsUTF8FirstByte := fun b hb =>
    h b (List.mem_flatMap.mpr ⟨c, hc, hb⟩)
  have hlength : (String.utf8EncodeChar c).length = 1 := by
    rcases Nat.lt_or_ge 1 (String.utf8EncodeChar c).length with hlt | hle
    · have := UInt8.isUTF8FirstByte_getElem_utf8EncodeChar.mp (hfirst _ (List.getElem_mem hlt))
      cases this
    · have := c.utf8Size_pos
      rw [String.length_utf8EncodeChar] at hle ⊢
      omega
  rw [String.length_utf8EncodeChar] at hlength
  refine ⟨UInt32.le_iff_toNat_le.mp (Char.utf8Size_eq_one_iff.mp hlength), ?_⟩
  refine List.mem_flatMap.mpr ⟨c, hc, ?_⟩
  rw [String.utf8EncodeChar_eq_singleton hlength]
  exact List.mem_cons_self

theorem isUTF8FirstByte_of_isIdentifierByte {b : UInt8} (h : isIdentifierByte b = true) :
    b.IsUTF8FirstByte := by
  have hall : ∀ n : Fin 256, isIdentifierByte (UInt8.ofNat n) = true →
      (UInt8.ofNat n).IsUTF8FirstByte := by decide +kernel
  have hb := hall ⟨b.toNat, b.toNat_lt⟩
  rw [UInt8.ofNat_toNat] at hb
  exact hb h

/-- The characters of an identifier are neither white space nor control characters. -/
theorem Ident.plain {kind : IdKind} (a : Ident kind) :
    isBlank a.value = false ∧ a.value.toList.any isControl = false := by
  obtain ⟨hpos, -, hbytes⟩ := validateIdentifier_eq_ok.mp a.valid
  rw [List.all_eq_true] at hbytes
  have hchar : ∀ c ∈ a.value.toList, isWhitespace c = false ∧ isControl c = false := by
    intro c hc
    obtain ⟨hascii, hmem⟩ := toUInt8_mem_bytes
      (fun b hb => isUTF8FirstByte_of_isIdentifierByte (hbytes b hb)) hc
    have hbyte := hbytes _ hmem
    have hall : ∀ n : Fin 128, isIdentifierByte (UInt8.ofNat n) = true →
        isWhitespace (Char.ofNat n) = false ∧ isControl (Char.ofNat n) = false := by
      decide +kernel
    have hcase := hall ⟨c.toNat, by omega⟩
    rw [Char.ofNat_toNat] at hcase
    exact hcase hbyte
  constructor
  · cases hlist : a.value.toList with
    | nil =>
      rw [String.toList_eq_nil_iff] at hlist
      rw [hlist] at hpos
      cases hpos
    | cons c cs =>
      rw [isBlank, hlist, List.all_cons, (hchar c (by rw [hlist]; exact List.mem_cons_self)).1]
      rfl
  · rw [List.any_eq_false]
    exact fun c hc => by rw [(hchar c hc).2]; exact Bool.false_ne_true
/-! ## Accepted tables -/

/-- What is checked of a row alone. -/
structure SampleRelation.OwnOk (row : SampleRelation) : Prop where
  augmented : row.augmented = row.originId.isSome
  augmentation : ∀ augmentation, row.augmentation = some augmentation →
    augmentation.validate = .ok () ∧ row.augmented = true
  not_own_origin : ∀ o, row.originId = some o → o.value ≠ row.observationId.value

/-- Rows of one sample do not have two groups. -/
def SampleRelation.GroupsAgree (a b : SampleRelation) : Prop :=
  a.sampleId = b.sampleId → ∀ g h, a.groupId = some g → b.groupId = some h → g = h

/-- The tables that the validator accepts. -/
structure SampleRelationTable.Accepted (table : SampleRelationTable) : Prop where
  nonempty : table.rows ≠ []
  own : ∀ row ∈ table.rows, row.OwnOk
  observations_nodup : (table.rows.map (·.observationId)).Nodup
  groups_agree : table.rows.Pairwise SampleRelation.GroupsAgree
  origin_present : ∀ row ∈ table.rows, ∀ o, row.originId = some o →
    ∃ origin ∈ table.rows, origin.observationId.value = o.value

namespace SampleRelation

/-- The row agrees with what the loop has seen. -/
structure FitsLoop (st : RelationLoop) (row : SampleRelation) : Prop where
  fresh : row.observationId ∉ st.observationIds
  group : ∀ g, row.groupId = some g → ∀ h, st.sampleGroups[row.sampleId]? = some h → h = g

theorem check_eq_ok {st st' : RelationLoop} {row : SampleRelation} :
    check st row = .ok st' ↔ (row.OwnOk ∧ row.FitsLoop st) ∧ st' = st.add row := by
  simp only [check, bind_eq_ok, rejectIf_eq_ok, whenSome_eq_ok, exists_unit, pure_eq_ok]
  constructor
  · rintro ⟨hfresh, hgroup, horigin, hplain, haugmentation, hown, rfl⟩
    refine ⟨⟨⟨?_, ?_, ?_⟩, ?_, ?_⟩, rfl⟩
    · cases ho : row.originId <;> cases ha : row.augmented <;> simp_all
    · intro augmentation h
      simpa using haugmentation augmentation h
    · intro o ho
      simpa using hown o ho
    · simpa using hfresh
    · intro g hg h hh
      simpa using hgroup g hg h hh
  · rintro ⟨⟨⟨horigin, haugmentation, hown⟩, hfresh, hgroup⟩, rfl⟩
    refine ⟨?_, ?_, ?_, ?_, ?_, ?_, rfl⟩
    · simpa using hfresh
    · intro g hg h hh
      simpa using hgroup g hg h hh
    · rw [horigin]
      cases row.originId <;> rfl
    · rw [horigin]
      cases row.originId <;> rfl
    · intro augmentation h
      simpa using haugmentation augmentation h
    · intro o ho
      simpa using hown o ho

theorem sampleGroups_add {st : RelationLoop} {row : SampleRelation} {sampleId : SampleId} :
    (st.add row).sampleGroups[sampleId]? =
      if row.sampleId = sampleId ∧ row.groupId.isSome then row.groupId
      else st.sampleGroups[sampleId]? := by
  cases hgroup : row.groupId with
  | none => simp [RelationLoop.add, hgroup]
  | some g =>
    by_cases hsample : row.sampleId = sampleId
    · simp [RelationLoop.add, hgroup, hsample]
    · simp only [RelationLoop.add, hgroup, hsample, false_and, if_false]
      exact BTreeMap.getElem?_insert_of_ne hsample

/-- Fitting the loop after a row is fitting it before, and fitting the row. -/
theorem fitsLoop_add {st : RelationLoop} {row x : SampleRelation} (hrow : row.FitsLoop st) :
    x.FitsLoop (st.add row) ↔
      x.FitsLoop st ∧ row.observationId ≠ x.observationId ∧ row.GroupsAgree x := by
  have hfresh : x.observationId ∉ (st.add row).observationIds ↔
      row.observationId ≠ x.observationId ∧ x.observationId ∉ st.observationIds := by
    rw [RelationLoop.add, BTreeSet.mem_insert_iff, not_or, ne_comm]
  constructor
  · rintro ⟨hnew, hgroup⟩
    refine ⟨⟨(hfresh.mp hnew).2, fun gx hgx h hh => ?_⟩, (hfresh.mp hnew).1, ?_⟩
    · by_cases hcase : row.sampleId = x.sampleId ∧ row.groupId.isSome
      · obtain ⟨g, hg⟩ := Option.isSome_iff_exists.mp hcase.2
        have hgx' : g = gx := hgroup gx hgx g (by rw [sampleGroups_add, if_pos hcase, hg])
        rw [← hcase.1] at hh
        exact (hrow.group g hg h hh).trans hgx'
      · exact hgroup gx hgx h (by rw [sampleGroups_add, if_neg hcase, hh])
    · intro hsample g gx hg hgx
      refine hgroup gx hgx g ?_
      rw [sampleGroups_add, if_pos ⟨hsample, by rw [hg]; rfl⟩, hg]
  · rintro ⟨⟨hold, hgroup⟩, hne, hagree⟩
    refine ⟨hfresh.mpr ⟨hne, hold⟩, fun gx hgx h hh => ?_⟩
    rw [sampleGroups_add] at hh
    split at hh
    · next hcase => exact hagree hcase.1 h gx hh hgx
    · exact hgroup gx hgx h hh

/-- The loop accepts rows that fit what it has seen and one another. -/
theorem foldlM_check_eq_ok {rows : List SampleRelation} {st : RelationLoop} :
    (∃ st', rows.foldlM check st = .ok st') ↔
      (∀ row ∈ rows, row.OwnOk ∧ row.FitsLoop st) ∧ (rows.map (·.observationId)).Nodup ∧
        rows.Pairwise GroupsAgree := by
  induction rows generalizing st with
  | nil => simp
  | cons row rows ih =>
    have hstep : (∃ st', (row :: rows).foldlM check st = .ok st') ↔
        (row.OwnOk ∧ row.FitsLoop st) ∧ ∃ st', rows.foldlM check (st.add row) = .ok st' := by
      simp only [List.foldlM_cons, bind_eq_ok, check_eq_ok]
      constructor
      · rintro ⟨st', _, ⟨hrow, rfl⟩, hrows⟩
        exact ⟨hrow, st', hrows⟩
      · rintro ⟨hrow, st', hrows⟩
        exact ⟨st', _, ⟨hrow, rfl⟩, hrows⟩
    rw [hstep, ih, List.forall_mem_cons, List.map_cons, List.nodup_cons, List.pairwise_cons,
      List.mem_map]
    constructor
    · rintro ⟨hrow, hrows, hnodup, hagree⟩
      have hfits := fun x hx => (fitsLoop_add hrow.2).mp (hrows x hx).2
      refine ⟨⟨hrow, fun x hx => ⟨(hrows x hx).1, (hfits x hx).1⟩⟩, ⟨?_, hnodup⟩,
        fun x hx => (hfits x hx).2.2, hagree⟩
      rintro ⟨x, hx, heq⟩
      exact (hfits x hx).2.1 heq.symm
    · rintro ⟨⟨hrow, hrows⟩, ⟨hfresh, hnodup⟩, hagrees, hagree⟩
      refine ⟨hrow, fun x hx => ⟨(hrows x hx).1, (fitsLoop_add hrow.2).mpr
        ⟨(hrows x hx).2, fun heq => hfresh ⟨x, hx, heq.symm⟩, hagrees x hx⟩⟩,
          hnodup, hagree⟩

/-- What the loop has collected. -/
theorem mem_loop {rows : List SampleRelation} {st st' : RelationLoop}
    (h : rows.foldlM check st = .ok st') :
    (∀ o, o ∈ st'.observationIds ↔ o ∈ st.observationIds ∨
      ∃ row ∈ rows, row.observationId = o) ∧
      ∀ o, o ∈ st'.originIds ↔ o ∈ st.originIds ∨
        ∃ row ∈ rows, row.originId = some o := by
  induction rows generalizing st with
  | nil =>
    cases h
    simp
  | cons row rows ih =>
    rw [List.foldlM_cons, bind_eq_ok] at h
    obtain ⟨_, hrow, hrows⟩ := h
    obtain ⟨-, rfl⟩ := check_eq_ok.mp hrow
    obtain ⟨hobservations, horigins⟩ := ih hrows
    constructor
    · intro o
      rw [hobservations, RelationLoop.add, BTreeSet.mem_insert_iff, List.exists_mem_cons_iff,
        or_assoc, or_left_comm, eq_comm]
    · intro o
      rw [horigins, List.exists_mem_cons_iff, ← or_assoc]
      refine or_congr_left ?_
      cases horigin : row.originId with
      | none => simp [RelationLoop.add, horigin]
      | some origin =>
        simp only [RelationLoop.add, horigin, BTreeSet.mem_insert_iff, Option.some.injEq]
        rw [or_comm, eq_comm]

end SampleRelation

theorem SampleRelationTable.validate_eq_ok {table : SampleRelationTable} :
    table.validate = .ok () ↔ table.Accepted := by
  have hloop := @SampleRelation.foldlM_check_eq_ok table.rows ⟨∅, ∅, ∅⟩
  simp only [validate, bind_eq_ok, exists_unit, rejectIf_eq_ok, List.isEmpty_eq_false_iff,
    forM_eq_ok, Bool.not_eq_false', List.any_eq_true, beq_iff_eq, Std.ExtTreeSet.mem_toList]
  have hpresent : ∀ {st'}, table.rows.foldlM SampleRelation.check
    ⟨∅, ∅, ∅⟩ = .ok st' →
      ((∀ o ∈ st'.originIds, ∃ x ∈ st'.observationIds, x.value = o.value) ↔
        ∀ row ∈ table.rows, ∀ o, row.originId = some o →
          ∃ origin ∈ table.rows, origin.observationId.value = o.value) := by
    intro st' hst
    obtain ⟨hobservations, horigins⟩ := SampleRelation.mem_loop hst
    simp only [hobservations, horigins, Std.ExtTreeSet.not_mem_empty, false_or]
    constructor
    · intro h row hrow o ho
      obtain ⟨_, ⟨origin, horigin, rfl⟩, heq⟩ := h o ⟨row, hrow, ho⟩
      exact ⟨origin, horigin, heq⟩
    · rintro h o ⟨row, hrow, ho⟩
      obtain ⟨origin, horigin, heq⟩ := h row hrow o ho
      exact ⟨_, ⟨origin, horigin, rfl⟩, heq⟩
  constructor
  · rintro ⟨hne, st', hst, horigins⟩
    obtain ⟨hown, hnodup, hagree⟩ := hloop.mp ⟨st', hst⟩
    exact ⟨hne, fun row hrow => (hown row hrow).1, hnodup, hagree, (hpresent hst).mp horigins⟩
  · rintro ⟨hne, hown, hnodup, hagree, horigins⟩
    obtain ⟨st', hst⟩ := hloop.mpr
      ⟨fun row hrow => ⟨hown row hrow, by simp, by simp⟩, hnodup,
      hagree⟩
    exact ⟨hne, st', hst, (hpresent hst).mpr horigins⟩

theorem SampleRelation.GroupsAgree.symm {a b : SampleRelation} (h : a.GroupsAgree b) :
    b.GroupsAgree a :=
  fun hsample g g' hg hg' => (h hsample.symm g' g hg' hg).symm

/-- Acceptance does not depend on the order of the rows. -/
theorem SampleRelationTable.Accepted.perm {table table' : SampleRelationTable}
    (h : table.Accepted) (hperm : table.rows.Perm table'.rows) : table'.Accepted where
  nonempty := fun hnil => h.nonempty (by rwa [hnil, List.perm_nil] at hperm)
  own row hrow := h.own row (hperm.mem_iff.mpr hrow)
  observations_nodup := (hperm.map _).nodup_iff.mp h.observations_nodup
  groups_agree := hperm.pairwise h.groups_agree SampleRelation.GroupsAgree.symm
  origin_present row hrow o ho := by
    obtain ⟨origin, horigin, heq⟩ := h.origin_present row (hperm.mem_iff.mpr hrow) o ho
    exact ⟨origin, hperm.mem_iff.mp horigin, heq⟩

/-! ## Converted rows -/

/-- What the record of a row carries, in a table that has the row of its origin. -/
structure SampleRelation.Carries (table : SampleRelationTable) (row : SampleRelation)
    (record : CoordinatorRelation) : Prop where
  observation : record.observationId = row.observationId
  sample : record.sampleId = row.sampleId
  target : record.targetId = row.targetId
  group : record.groupId = row.groupId
  source : record.sourceId = row.sourceId
  repetition : record.repId = row.repetitionId.map Ident.value
  augmented : record.isAugmented = row.augmented
  excluded : record.excluded = row.excluded
  metadata : record.metadata = row.metadata
  tags : record.tags = row.tags
  no_origin : row.originId = none → record.originSampleId = none
  origin : ∀ o, row.originId = some o → ∃ origin ∈ table.rows,
    origin.observationId.value = o.value ∧ record.originSampleId = some origin.sampleId
  unit_level : record.unitLevel = .observation
  no_unit : record.unitId = none ∧ record.derivedUnitId = none
  no_components : record.componentObservationIds = []
  no_weight : record.sampleInfluenceWeight = none
  no_flag : record.qualityFlag = none

variable {table : SampleRelationTable} {row : SampleRelation}

/-- The observations of the table with their samples. -/
def SampleRelationTable.observationToSample (table : SampleRelationTable) :
    BTreeMap ObservationId SampleId :=
  .collect (table.rows.map fun row => (row.observationId, row.sampleId))

/-- The origin that is found is the sample of the row with its observation. -/
theorem findOrigin_eq_some (h : table.Accepted) {o : OriginId} {sampleId : SampleId} :
    findOrigin table.observationToSample o = some sampleId ↔
      ∃ origin ∈ table.rows, origin.observationId.value = o.value ∧
        origin.sampleId = sampleId := by
  have hnodup : ((table.rows.map fun row => (row.observationId, row.sampleId)).map
      Prod.fst).Nodup := by
    rw [List.map_map]
    exact h.observations_nodup
  have hentry : ∀ entry, entry ∈ table.observationToSample.toList ↔
      ∃ origin ∈ table.rows, (origin.observationId, origin.sampleId) = entry := by
    rintro ⟨observationId, sample⟩
    rw [Std.ExtTreeMap.mem_toList_iff_getElem?_eq_some, SampleRelationTable.observationToSample,
      BTreeMap.getElem?_collect_of_nodup hnodup, List.mem_map]
  have hfound : ∀ {sample}, findOrigin table.observationToSample o = some sample →
      ∃ origin ∈ table.rows, origin.observationId.value = o.value ∧
        origin.sampleId = sample := by
    intro sample hfind
    obtain ⟨entry, hmem, hif⟩ := List.exists_of_findSome?_eq_some hfind
    obtain ⟨origin, horigin, rfl⟩ := (hentry entry).mp hmem
    split at hif
    · next heq =>
      cases hif
      exact ⟨origin, horigin, heq, rfl⟩
    · cases hif
  refine ⟨hfound, ?_⟩
  rintro ⟨origin, horigin, heq, rfl⟩
  cases hfind : findOrigin table.observationToSample o with
  | none =>
    have hnone := List.findSome?_eq_none_iff.mp hfind _ ((hentry _).mpr ⟨origin, horigin, rfl⟩)
    rw [if_pos heq] at hnone
    cases hnone
  | some sample =>
    obtain ⟨other, hother, hvalue, rfl⟩ := hfound hfind
    have hsame : other.observationId = origin.observationId :=
      Ident.ext_value (hvalue.trans heq.symm)
    rw [List.inj_on_of_nodup_map h.observations_nodup hother horigin hsame]

/-- Every row of an accepted table is converted, and the record carries it. -/
theorem convert_carries (h : table.Accepted) (hrow : row ∈ table.rows) :
    ∃ record, row.convert table.observationToSample = .ok record ∧
      row.Carries table record := by
  cases horigin : row.originId with
  | none =>
    refine ⟨row.toRelation none, ?_, ?_⟩
    · rw [SampleRelation.convert, horigin]
      rfl
    · constructor <;> simp [SampleRelation.toRelation, horigin]
  | some o =>
    obtain ⟨origin, hmem, heq⟩ := h.origin_present row hrow o horigin
    have hfind := (findOrigin_eq_some h).mpr ⟨origin, hmem, heq, rfl⟩
    refine ⟨row.toRelation (some origin.sampleId), ?_, ?_⟩
    · rw [SampleRelation.convert, horigin]
      simp only [hfind]
      rfl
    · constructor <;> simp [SampleRelation.toRelation, horigin]
      exact ⟨origin, hmem, heq, rfl⟩

/-- A row has one record that carries it. -/
theorem SampleRelation.Carries.unique (h : table.Accepted) {record record' : CoordinatorRelation}
    (hrecord : row.Carries table record) (hrecord' : row.Carries table record') :
    record = record' := by
  have horigin : record.originSampleId = record'.originSampleId := by
    cases ho : row.originId with
    | none => rw [hrecord.no_origin ho, hrecord'.no_origin ho]
    | some o =>
      obtain ⟨origin, hmem, heq, hsample⟩ := hrecord.origin o ho
      obtain ⟨origin', hmem', heq', hsample'⟩ := hrecord'.origin o ho
      have hsame : origin.observationId = origin'.observationId :=
        Ident.ext_value (heq.trans heq'.symm)
      rw [hsample, hsample', List.inj_on_of_nodup_map h.observations_nodup hmem hmem' hsame]
  obtain ⟨_, _, _, _, _, _, _, _, _, _, _, _, _, ⟨_, _⟩, _, _, _⟩ := hrecord
  obtain ⟨_, _, _, _, _, _, _, _, _, _, _, _, _, ⟨_, _⟩, _, _, _⟩ := hrecord'
  cases record
  cases record'
  simp_all

/-- The unit of a converted row is its observation. -/
theorem SampleRelation.Carries.unit {record : CoordinatorRelation}
    (h : row.Carries table record) : record.effectiveUnitId = .ok record.observationId.value := by
  have hrep : record.repId.any (fun text => isBlank text || text.toList.any isControl) = false := by
    rw [h.repetition, Option.any_map]
    cases row.repetitionId with
    | none => rfl
    | some a =>
      obtain ⟨hblank, hcontrol⟩ := a.plain
      simp [hblank, hcontrol]
  unfold CoordinatorRelation.effectiveUnitId
  rw [h.no_unit.1, h.no_unit.2, h.no_flag, h.unit_level]
  simp [hrep]

/-- Records that carry the rows of an accepted table, row by row, make a valid set. -/
theorem valid_of_carries (h : table.Accepted) {rows : List SampleRelation}
    (hrows : rows.Perm table.rows) {set : CoordinatorRelationSet}
    (hset : List.Forall₂ (SampleRelation.Carries table) rows set.records) : set.Valid := by
  have hrecord : ∀ record ∈ set.records,
      ∃ row : SampleRelation, row.Carries table record := fun record hmem => by
    obtain ⟨row, -, hcarries⟩ := exists_left_of_forall₂ hset hmem
    exact ⟨row, hcarries⟩
  have hobservations : set.records.map (·.observationId) = rows.map (·.observationId) := by
    rw [← List.forall₂_eq_eq_eq, List.forall₂_map_left_iff, List.forall₂_map_right_iff]
    exact hset.flip.imp fun _ _ hcarries => hcarries.observation
  have hnodup : (set.records.map (·.observationId)).Nodup := by
    rw [hobservations, (hrows.map _).nodup_iff]
    exact h.observations_nodup
  refine ⟨?_, hnodup, ?_, ?_, ?_⟩
  · intro hnil
    rw [hnil, List.forall₂_nil_right_iff] at hset
    rw [hset, List.nil_perm] at hrows
    exact h.nonempty hrows
  · have hunits : set.records.map CoordinatorRelation.unit =
        (set.records.map (·.observationId)).map Ident.value := by
      rw [List.map_map]
      refine List.map_congr_left fun record hmem => ?_
      obtain ⟨row, hcarries⟩ := hrecord record hmem
      exact CoordinatorRelation.unit_eq hcarries.unit
    rw [hunits]
    exact hnodup.map Ident.value_injective
  · intro record hmem
    obtain ⟨row, hcarries⟩ := hrecord record hmem
    have hlevel : record.unitLevel ≠ .combo := by rw [hcarries.unit_level]; decide
    refine ⟨CoordinatorRelation.effectiveUnitId_eq_ok hcarries.unit, ?_,
      fun _ => hcarries.no_components, ?_, ?_, ?_, ?_, ?_⟩
    · intro w hw
      rw [hcarries.no_weight] at hw
      cases hw
    all_goals exact fun hcombo => absurd hcombo hlevel
  · intro record hmem hcombo
    obtain ⟨row, hcarries⟩ := hrecord record hmem
    rw [hcarries.unit_level] at hcombo
    cases hcombo

/-- The records of a set are those of the rows of the table, in order of observation. -/
structure SampleRelationTable.ConvertsTo (table : SampleRelationTable)
    (set : CoordinatorRelationSet) : Prop where
  rows : ∃ rows : List SampleRelation, rows.Perm table.rows ∧
    List.Forall₂ (SampleRelation.Carries table) rows set.records
  sorted : set.records.Pairwise fun a b => compare a.observationId b.observationId = .lt
  distinct : ∀ row ∈ table.rows, ∀ row' ∈ table.rows, ∀ record,
    row.Carries table record → row'.Carries table record → row = row'

/-- An accepted table is converted. -/
theorem exists_convertsTo (h : table.Accepted) : ∃ set,
    coordinatorRelationsFromSampleTable table = .ok set ∧ table.ConvertsTo set := by
  obtain ⟨records, hrecords⟩ := exists_forall₂ fun row hrow => convert_carries h hrow
  have hmapM : table.rows.mapM (SampleRelation.convert table.observationToSample) = .ok records :=
    mapM_eq_ok.mpr (hrecords.imp fun _ _ hrecord => hrecord.1)
  have hcarries := hrecords.imp fun _ _ hrecord => hrecord.2
  obtain ⟨rows, hperm, hsorted⟩ := exists_forall₂_sortOn hcarries (·.observationId)
  have hobservations : (records.map (·.observationId)).Nodup := by
    have heq : records.map (·.observationId) = table.rows.map (·.observationId) := by
      rw [← List.forall₂_eq_eq_eq, List.forall₂_map_left_iff, List.forall₂_map_right_iff]
      exact hcarries.flip.imp fun _ _ hcarries => hcarries.observation
    rw [heq]
    exact h.observations_nodup
  have hvalid : CoordinatorRelationSet.Valid ⟨sortOn (·.observationId) records⟩ :=
    valid_of_carries h hperm hsorted
  refine ⟨⟨sortOn (·.observationId) records⟩, ?_, ⟨rows, hperm, hsorted⟩,
    pairwise_sortOn hobservations, ?_⟩
  · unfold coordinatorRelationsFromSampleTable
    rw [SampleRelationTable.validate_eq_ok.mpr h]
    show (table.rows.mapM (SampleRelation.convert table.observationToSample) >>= _) = _
    rw [hmapM]
    show (CoordinatorRelationSet.validate ⟨sortOn (·.observationId) records⟩ >>= _) = _
    rw [show CoordinatorRelationSet.validate _ = .ok () from
      CoordinatorRelationSet.validate_eq_ok.mpr hvalid]
    rfl
  · intro row hrow row' hrow' record hrecord hrecord'
    exact List.inj_on_of_nodup_map h.observations_nodup hrow hrow'
      (hrecord.observation.symm.trans hrecord'.observation)

theorem SampleRelation.Carries.congr {table' : SampleRelationTable}
    (hperm : table'.rows.Perm table.rows) {record : CoordinatorRelation}
    (h : row.Carries table' record) : row.Carries table record :=
  { h with
    origin := fun o ho => by
      obtain ⟨origin, hmem, heq⟩ := h.origin o ho
      exact ⟨origin, hperm.mem_iff.mp hmem, heq⟩ }

/-- The rows decide which records are in the set. -/
theorem SampleRelationTable.ConvertsTo.mem (h : table.Accepted) {set : CoordinatorRelationSet}
    (hset : table.ConvertsTo set) {record : CoordinatorRelation} :
    record ∈ set.records ↔ ∃ row ∈ table.rows, row.Carries table record := by
  obtain ⟨rows, hperm, hrows⟩ := hset.rows
  constructor
  · intro hmem
    obtain ⟨row, hrow, hcarries⟩ := exists_left_of_forall₂ hrows hmem
    exact ⟨row, hperm.mem_iff.mp hrow, hcarries⟩
  · rintro ⟨row, hrow, hcarries⟩
    obtain ⟨record', hmem, hcarries'⟩ :=
      exists_right_of_forall₂ hrows (hperm.mem_iff.mpr hrow)
    rwa [hcarries.unique h hcarries']

/-- A valid table is converted into one record for each row, in order of observation, and the
order of the rows does not matter. -/
theorem coordinatorRelationsFromSampleTable_spec (h : table.validate = .ok ()) : ∃ set,
    coordinatorRelationsFromSampleTable table = .ok set ∧ table.ConvertsTo set ∧
      ∀ table' : SampleRelationTable, table'.rows.Perm table.rows →
        coordinatorRelationsFromSampleTable table' = .ok set := by
  have haccepted := SampleRelationTable.validate_eq_ok.mp h
  obtain ⟨set, hconvert, hset⟩ := exists_convertsTo haccepted
  refine ⟨set, hconvert, hset, fun table' hperm => ?_⟩
  obtain ⟨set', hconvert', hset'⟩ := exists_convertsTo (haccepted.perm hperm.symm)
  have hsame : set'.records = set.records := by
    refine eq_of_pairwise_lt hset'.sorted hset.sorted fun record => ?_
    rw [hset'.mem (haccepted.perm hperm.symm), hset.mem haccepted]
    constructor
    · rintro ⟨row, hrow, hcarries⟩
      exact ⟨row, hperm.mem_iff.mp hrow, hcarries.congr hperm⟩
    · rintro ⟨row, hrow, hcarries⟩
      exact ⟨row, hperm.mem_iff.mpr hrow, hcarries.congr hperm.symm⟩
  obtain ⟨records'⟩ := set'
  obtain ⟨records⟩ := set
  cases hsame
  exact hconvert'

/-- Two rows, the second one augmented from the first. -/
def augmentedTable : SampleRelationTable :=
  ⟨[{ observationId := .lit "o1" rfl, sampleId := .lit "s1" rfl, sourceId := none
      targetId := none, groupId := none, originId := none, repetitionId := none
      augmented := false, excluded := false, metadata := ∅, tags := [], augmentation := none },
    { observationId := .lit "o2" rfl, sampleId := .lit "s2" rfl, sourceId := none
      targetId := none, groupId := none, originId :=
        some (.lit "o1" rfl), repetitionId := none
      augmented := true, excluded := false, metadata := ∅, tags := [], augmentation := none }]⟩

theorem augmentedTable_converts : ∃ set,
    coordinatorRelationsFromSampleTable augmentedTable = .ok set ∧
      augmentedTable.ConvertsTo set ∧ ∀ table' : SampleRelationTable,
        table'.rows.Perm augmentedTable.rows →
        coordinatorRelationsFromSampleTable table' = .ok set :=
  coordinatorRelationsFromSampleTable_spec (by decide +kernel)

end DagMlData
