import DagMlData.AlignmentPlans
import DagMlData.Handle

/-!
# Target values of a view

`target_values` serves the values of one target table for the samples of a view, and refuses a
sample that the table does not have. `multi_target_values` serves several tables side by side,
with a mask where a table has no value.

* `CoordinatorMultiTargetBlock.Lists`: what a block of several targets holds, said without the
  traversals.
* `multiTargetValues_agrees`: the block of several targets is the one that the tables and the
  records say, and each block of one target is a part of it.
-/

namespace DagMlData

open Guard RustText

structure CoordinatorTargetValue where
  sampleId : SampleId
  value : Json

structure CoordinatorTargetTable where
  targetId : TargetId
  values : List CoordinatorTargetValue

inductive TargetValueKind
  | number
  | label
deriving DecidableEq, Repr

/-- The width is absent for a scalar, and the length of the vector for a row of a matrix. -/
structure TargetValueShape where
  kind : TargetValueKind
  width : Option Nat
deriving DecidableEq, Repr

structure CoordinatorTargetBlock where
  targetId : TargetId
  sampleIds : List SampleId
  values : List Json

structure CoordinatorMultiTargetBlock where
  targetIds : List TargetId
  sampleIds : List SampleId
  values : List (List Json)
  validityMasks : List (List Bool)

/-! ## Tables -/

/-- `target_scalar_kind`. -/
def targetScalarKind : Json → Except String TargetValueKind
  | .number _ => .ok .number
  | .string label => if isBlank label then .error "an empty string label" else .ok .label
  | .null => .error "a missing (null) value"
  | .bool _ => .error "a boolean value"
  | .object _ => .error "an object value"
  | .array _ => .error "a nested array"

/-- `target_value_shape`. -/
def targetValueShape : Json → Except String TargetValueShape
  | .array [] => .error "an empty array"
  | .array (first :: items) => do
    let kind ← targetScalarKind first
    forM items fun item => do
      let itemKind ← targetScalarKind item
      rejectIf (itemKind != kind) "a vector mixing numbers and string labels"
    pure ⟨kind, some (items.length + 1)⟩
  | value => do
    let kind ← targetScalarKind value
    pure ⟨kind, none⟩

/-- `describe_target_width`. -/
def describeTargetWidth : Option Nat → String
  | none => "a scalar value"
  | some width => s!"a vector of {width} values"

namespace CoordinatorTargetTable

variable (table : CoordinatorTargetTable)

def validate : Result Unit := do
  rejectIf table.values.isEmpty
    (.validation s!"target table `{table.targetId}` contains no values")
  rejectRepeats (fun sampleId => .validation
    s!"target table `{table.targetId}` contains duplicate sample `{sampleId}`")
    (table.values.map (·.sampleId))

/-- `value_error`. -/
def valueError (entry : CoordinatorTargetValue) (reason : String) : DataError :=
  .validation (s!"target table `{table.targetId}` has {reason} for sample `{entry.sampleId}`; " ++
    "target values must all be finite numbers or all non-empty string labels, as scalars or as " ++
    "equal-length vectors (drop samples with missing targets before building the provider)")

/-- The check of one value against the kind of the table and the width of its first value. -/
def validateShape (numeric : Bool) (first : CoordinatorTargetValue) (firstShape : TargetValueShape)
    (entry : CoordinatorTargetValue) (shape : TargetValueShape) : Result Unit := do
  rejectIf (numeric && shape.kind == .label)
    (table.valueError entry "a non-numeric string value in a numeric target")
  rejectIf (shape.width != firstShape.width)
    (table.valueError entry (s!"{describeTargetWidth shape.width} where sample " ++
      s!"`{first.sampleId}` has {describeTargetWidth firstShape.width}"))

def validateValues : Result Unit := do
  table.validate
  let shapes ← table.values.mapM fun entry =>
    (targetValueShape entry.value).mapError (table.valueError entry)
  let numeric := shapes.any fun shape => shape.kind == .number
  match table.values, shapes with
  | first :: _, firstShape :: _ =>
    forM (table.values.zip shapes) fun (entry, shape) =>
      table.validateShape numeric first firstShape entry shape
  -- A table without values has been refused.
  | _, _ => pure ()

/-- The values of the table by sample. -/
def valuesBySample : BTreeMap SampleId Json :=
  .collect (table.values.map fun entry => (entry.sampleId, entry.value))

end CoordinatorTargetTable

/-! ## Projections -/

/-- The record has no target, or one that the test accepts. -/
def CoordinatorRelation.hasTarget (r : CoordinatorRelation) (test : TargetId → Bool) : Bool :=
  (r.targetId.map test).getD true

/-- The samples of the records that the filter keeps, each at its first place. -/
def targetSamples (relations : CoordinatorRelationSet) (test : TargetId → Bool) : List SampleId :=
  firstSeen [] ((relations.records.filter (·.hasTarget test)).map (·.sampleId))

/-- One place of a block of several targets, with its validity. -/
def targetCell (valuesBySample : BTreeMap SampleId Json) (sampleId : SampleId) : Json × Bool :=
  match valuesBySample[sampleId]? with
  | some value => if value.isNull then (.null, false) else (value, true)
  | none => (.null, false)

/-- The checks on the tables of a request, given the targets of the tables before. -/
def checkTargetTables : List TargetId → List CoordinatorTargetTable → Result Unit
  | _, [] => .ok ()
  | seenTargets, table :: targetTables => do
    table.validate
    rejectIf (seenTargets.contains table.targetId)
      (.validation (s!"multi-target materialization contains duplicate target " ++
        s!"`{table.targetId}`"))
    checkTargetTables (table.targetId :: seenTargets) targetTables

namespace CoordinatorHandleArena

variable (arena : CoordinatorHandleArena) (viewHandle : Nat)

/-- `target_values`. -/
def targetValues (targetTable : CoordinatorTargetTable) : Result CoordinatorTargetBlock := do
  targetTable.validateValues
  let relations ← arena.viewIdentity viewHandle
  let valuesBySample := targetTable.valuesBySample
  let sampleIds := targetSamples relations (· == targetTable.targetId)
  -- The loop stops at the first sample without a value.
  let values ← sampleIds.mapM fun sampleId => require valuesBySample[sampleId]?
    (.validation s!"target table `{targetTable.targetId}` has no value for sample `{sampleId}`")
  rejectIf sampleIds.isEmpty
    (.validation (s!"view `{viewHandle}` contains no samples for target " ++
      s!"`{targetTable.targetId}`"))
  pure ⟨targetTable.targetId, sampleIds, values⟩

/-- `multi_target_values`. -/
def multiTargetValues (targetTables : List CoordinatorTargetTable) :
    Result CoordinatorMultiTargetBlock := do
  rejectIf targetTables.isEmpty
    (.validation "multi-target materialization requires at least one target table")
  checkTargetTables [] targetTables
  let targetIds := targetTables.map (·.targetId)
  let targetUniverse := BTreeSet.collect targetIds
  let relations ← arena.viewIdentity viewHandle
  let sampleIds := targetSamples relations (targetUniverse.contains ·)
  rejectIf sampleIds.isEmpty
    (.validation s!"view `{viewHandle}` contains no samples for requested targets")
  let cells := targetTables.map fun table => sampleIds.map (targetCell table.valuesBySample)
  pure ⟨targetIds, sampleIds, cells.map (·.map Prod.fst), cells.map (·.map Prod.snd)⟩

end CoordinatorHandleArena

/-! ## What the tables and the records say -/

namespace CoordinatorTargetTable

variable {table : CoordinatorTargetTable} {sampleId : SampleId} {value : Json}

/-- The table has the value for the sample. -/
def HasValue (table : CoordinatorTargetTable) (sampleId : SampleId) (value : Json) : Prop :=
  ⟨sampleId, value⟩ ∈ table.values

theorem validate_eq_ok : table.validate = .ok () ↔
    table.values ≠ [] ∧ (table.values.map (·.sampleId)).Nodup := by
  simp [validate]

/-- The lookup finds what the table has. -/
theorem getElem?_valuesBySample (h : table.validate = .ok ()) :
    table.valuesBySample[sampleId]? = some value ↔ table.HasValue sampleId value := by
  have hnodup : ((table.values.map fun entry => (entry.sampleId, entry.value)).map
      Prod.fst).Nodup := by
    rw [List.map_map]
    exact (validate_eq_ok.mp h).2
  rw [valuesBySample, BTreeMap.getElem?_collect_of_nodup hnodup, List.mem_map]
  constructor
  · rintro ⟨entry, hmem, heq⟩
    cases heq
    exact hmem
  · exact fun hmem => ⟨_, hmem, rfl⟩

theorem validate_of_validateValues (h : table.validateValues = .ok ()) :
    table.validate = .ok () := by
  obtain ⟨_, hvalid, -⟩ := bind_eq_ok.mp h
  exact hvalid

theorem isNull_of_shape {shape : TargetValueShape} (h : targetValueShape value = .ok shape) :
    value.isNull = false := by
  cases value with
  | null => cases h
  | bool | number | string | array | object => rfl

/-- No value of a table that serves a single target is null. -/
theorem isNull_of_validateValues (h : table.validateValues = .ok ())
    (hvalue : table.HasValue sampleId value) : value.isNull = false := by
  obtain ⟨_, -, h⟩ := bind_eq_ok.mp h
  obtain ⟨shapes, hshapes, -⟩ := bind_eq_ok.mp h
  obtain ⟨shape, -, hshape⟩ := exists_right_of_forall₂ (mapM_eq_ok.mp hshapes) hvalue
  cases hvalueShape : targetValueShape value with
  | error reason =>
    rw [hvalueShape] at hshape
    cases hshape
  | ok shape => exact isNull_of_shape hvalueShape

end CoordinatorTargetTable

theorem checkTargetTables_eq_ok {seenTargets : List TargetId}
    {tables : List CoordinatorTargetTable} : checkTargetTables seenTargets tables = .ok () ↔
      (∀ table ∈ tables, table.validate = .ok ()) ∧ (tables.map (·.targetId)).Nodup ∧
        ∀ table ∈ tables, table.targetId ∉ seenTargets := by
  refine seenLoop_eq_ok (fun _ => rfl) fun seen table tables => ?_
  simp only [checkTargetTables, bind_eq_ok, rejectIf_eq_ok, exists_unit, List.contains_eq_mem,
    decide_eq_false_iff_not]

/-- The record has no target, or the target of one of the tables. -/
def CoordinatorRelation.ServesTargets (r : CoordinatorRelation)
    (tables : List CoordinatorTargetTable) : Prop :=
  r.targetId = none ∨ ∃ table ∈ tables, r.targetId = some table.targetId

instance (r : CoordinatorRelation) (tables : List CoordinatorTargetTable) :
    Decidable (r.ServesTargets tables) :=
  inferInstanceAs (Decidable (_ ∨ _))

/-- The samples of the records that serve the tables, record by record. -/
def servedSamples (records : List CoordinatorRelation) (tables : List CoordinatorTargetTable) :
    List SampleId :=
  (records.filter fun r => r.ServesTargets tables).map (·.sampleId)

/-- What stands at the place of a table and a sample: the value that counts, or null. -/
structure CoordinatorTargetTable.IsCell (table : CoordinatorTargetTable) (sampleId : SampleId)
    (cell : Json × Bool) : Prop where
  valid_iff : cell.2 = true ↔ ∃ value, table.HasValue sampleId value ∧ value.isNull = false
  hasValue : cell.2 = true → table.HasValue sampleId cell.1
  null : cell.2 = false → cell.1 = .null

/-- A block of several targets, said by the records and the tables alone. -/
structure CoordinatorMultiTargetBlock.Lists (block : CoordinatorMultiTargetBlock)
    (records : List CoordinatorRelation) (tables : List CoordinatorTargetTable) : Prop where
  target_ids : block.targetIds = tables.map (·.targetId)
  samples_nodup : block.sampleIds.Nodup
  mem_samples : ∀ sampleId, sampleId ∈ block.sampleIds ↔
    ∃ r ∈ records, r.ServesTargets tables ∧ r.sampleId = sampleId
  samples_order : block.sampleIds.Pairwise fun a b =>
    (servedSamples records tables).idxOf a < (servedSamples records tables).idxOf b
  values_length : block.values.length = tables.length
  masks_length : block.validityMasks.length = tables.length
  cells : ∀ (i : Nat) (table : CoordinatorTargetTable), tables[i]? = some table →
    ∃ cells : List (Json × Bool),
      block.values[i]? = some (cells.map Prod.fst) ∧
      block.validityMasks[i]? = some (cells.map Prod.snd) ∧
      List.Forall₂ table.IsCell block.sampleIds cells

/-- Each value of the block of one target stands in the table's row of the other block. -/
def CoordinatorTargetBlock.PartOf (single : CoordinatorTargetBlock)
    (block : CoordinatorMultiTargetBlock) (i : Nat) : Prop :=
  List.Forall₂ (fun sampleId value => ∃ (k : Nat) (values : List Json) (mask : List Bool),
    block.sampleIds[k]? = some sampleId ∧ block.values[i]? = some values ∧
      values[k]? = some value ∧
    block.validityMasks[i]? = some mask ∧ mask[k]? = some true) single.sampleIds single.values

theorem isCell_targetCell {table : CoordinatorTargetTable} {sampleId : SampleId}
    (h : table.validate = .ok ()) :
    table.IsCell sampleId (targetCell table.valuesBySample sampleId) := by
  have hvalues : ∀ value, table.HasValue sampleId value ↔
      table.valuesBySample[sampleId]? = some value :=
    fun _ => (CoordinatorTargetTable.getElem?_valuesBySample h).symm
  unfold targetCell
  cases hlookup : table.valuesBySample[sampleId]? with
  | none => constructor <;> simp [hvalues, hlookup]
  | some value => cases hnull : value.isNull <;> constructor <;> simp [hvalues, hlookup, hnull]

theorem hasTarget_collect {r : CoordinatorRelation} {tables : List CoordinatorTargetTable} :
    r.hasTarget ((BTreeSet.collect (tables.map (·.targetId))).contains ·) =
      decide (r.ServesTargets tables) := by
  rw [Bool.eq_iff_iff, decide_eq_true_iff]
  unfold CoordinatorRelation.hasTarget CoordinatorRelation.ServesTargets
  cases r.targetId with
  | none => simp
  | some targetId => simp [eq_comm]

theorem hasTarget_single {r : CoordinatorRelation} {table : CoordinatorTargetTable} :
    r.hasTarget (· == table.targetId) = decide (r.ServesTargets [table]) := by
  rw [Bool.eq_iff_iff, decide_eq_true_iff]
  unfold CoordinatorRelation.hasTarget CoordinatorRelation.ServesTargets
  cases r.targetId with
  | none => simp
  | some targetId => simp

theorem targetSamples_collect {relations : CoordinatorRelationSet}
    {tables : List CoordinatorTargetTable} :
    targetSamples relations ((BTreeSet.collect (tables.map (·.targetId))).contains ·) =
      firstSeen [] (servedSamples relations.records tables) := by
  unfold targetSamples servedSamples
  simp only [hasTarget_collect]

theorem targetSamples_single {relations : CoordinatorRelationSet} {table : CoordinatorTargetTable} :
    targetSamples relations (· == table.targetId) =
      firstSeen [] (servedSamples relations.records [table]) := by
  unfold targetSamples servedSamples
  simp only [hasTarget_single]

theorem mem_servedSamples {records : List CoordinatorRelation}
    {tables : List CoordinatorTargetTable} {sampleId : SampleId} :
    sampleId ∈ servedSamples records tables ↔
      ∃ r ∈ records, r.ServesTargets tables ∧ r.sampleId = sampleId := by
  simp [servedSamples, and_assoc]

theorem CoordinatorRelation.ServesTargets.mono {r : CoordinatorRelation}
    {tables tables' : List CoordinatorTargetTable} (hsub : tables ⊆ tables')
    (h : r.ServesTargets tables) : r.ServesTargets tables' :=
  h.imp_right fun ⟨table, hmem, htarget⟩ => ⟨table, hsub hmem, htarget⟩

namespace CoordinatorHandleArena

variable {arena : CoordinatorHandleArena} {viewHandle : Nat} {relations : CoordinatorRelationSet}
  {tables : List CoordinatorTargetTable}

/-- The block that is served for tables that pass the checks. -/
def multiTargetBlock (relations : CoordinatorRelationSet) (tables : List CoordinatorTargetTable) :
    CoordinatorMultiTargetBlock :=
  let sampleIds := firstSeen [] (servedSamples relations.records tables)
  let cells := tables.map fun table => sampleIds.map (targetCell table.valuesBySample)
  ⟨tables.map (·.targetId), sampleIds, cells.map (·.map Prod.fst),
    cells.map (·.map Prod.snd)⟩

theorem multiTargetValues_of_valid (hlive : arena.viewIdentity viewHandle = .ok relations)
    (hne : tables ≠ []) (hvalid : ∀ table ∈ tables, table.validate = .ok ())
    (hdistinct : (tables.map (·.targetId)).Nodup) :
    arena.multiTargetValues viewHandle tables =
      if (firstSeen [] (servedSamples relations.records tables)).isEmpty then
        .error (.validation s!"view `{viewHandle}` contains no samples for requested targets")
      else .ok (multiTargetBlock relations tables) := by
  have hchecks : checkTargetTables [] tables = .ok () :=
    checkTargetTables_eq_ok.mpr ⟨hvalid, hdistinct, fun _ _ => List.not_mem_nil⟩
  have hnonempty : tables.isEmpty = false := List.isEmpty_eq_false_iff.mpr hne
  unfold multiTargetValues
  rw [hnonempty, hchecks, hlive]
  show (rejectIf (targetSamples relations _).isEmpty _ >>= fun _ => _) = _
  rw [targetSamples_collect, rejectIf]
  split <;> rfl

/-- The row of one table. -/
theorem multiTargetBlock_row {i : Nat} {table : CoordinatorTargetTable}
    (htable : tables[i]? = some table) :
    (multiTargetBlock relations tables).values[i]? =
        some (((multiTargetBlock relations tables).sampleIds.map
          (targetCell table.valuesBySample)).map Prod.fst) ∧
      (multiTargetBlock relations tables).validityMasks[i]? =
        some (((multiTargetBlock relations tables).sampleIds.map
          (targetCell table.valuesBySample)).map Prod.snd) := by
  simp [multiTargetBlock, htable]

theorem multiTargetBlock_lists (hvalid : ∀ table ∈ tables, table.validate = .ok ()) :
    (multiTargetBlock relations tables).Lists relations.records tables where
  target_ids := rfl
  samples_nodup := nodup_firstSeen
  mem_samples sampleId := by
    rw [← mem_servedSamples]
    show sampleId ∈ firstSeen [] _ ↔ _
    rw [mem_firstSeen, and_iff_left List.not_mem_nil]
  samples_order := pairwise_firstSeen
  values_length := by simp [multiTargetBlock]
  masks_length := by simp [multiTargetBlock]
  cells i table htable := by
    obtain ⟨hvalues, hmask⟩ := @multiTargetBlock_row relations _ _ _ htable
    refine ⟨_, hvalues, hmask, ?_⟩
    rw [List.forall₂_map_right_iff, List.forall₂_same]
    exact fun sampleId _ => isCell_targetCell (hvalid table (List.mem_of_getElem? htable))

/-- What `target_values` has found when it succeeds. -/
theorem targetValues_eq_ok {table : CoordinatorTargetTable} {single : CoordinatorTargetBlock}
    (hlive : arena.viewIdentity viewHandle = .ok relations)
    (h : arena.targetValues viewHandle table = .ok single) :
    table.validateValues = .ok () ∧
      single.sampleIds = firstSeen [] (servedSamples relations.records [table]) ∧
      single.sampleIds ≠ [] ∧
      List.Forall₂ (fun sampleId value => table.valuesBySample[sampleId]? = some value)
        single.sampleIds single.values := by
  unfold targetValues at h
  rw [hlive] at h
  obtain ⟨_, hvalid, h⟩ := bind_eq_ok.mp h
  obtain ⟨_, hrelations, h⟩ := bind_eq_ok.mp h
  cases hrelations
  obtain ⟨values, hvalues, h⟩ := bind_eq_ok.mp h
  obtain ⟨_, hne, h⟩ := bind_eq_ok.mp h
  cases h
  refine ⟨hvalid, ?_, ?_, ?_⟩
  · exact targetSamples_single
  · rw [rejectIf_eq_ok] at hne
    exact List.isEmpty_eq_false_iff.mp hne
  · exact (mapM_eq_ok.mp hvalues).imp fun _ _ => require_eq_ok.mp

/-- What one table serves is in its row of the block of all tables. -/
theorem partOf_multiTargetBlock {table : CoordinatorTargetTable}
    {single : CoordinatorTargetBlock} {i : Nat} (htable : tables[i]? = some table)
    (hlive : arena.viewIdentity viewHandle = .ok relations)
    (h : arena.targetValues viewHandle table = .ok single) :
    single.PartOf (multiTargetBlock relations tables) i := by
  obtain ⟨hvalues, hsamples, -, hlookup⟩ := targetValues_eq_ok hlive h
  have hvalid := CoordinatorTargetTable.validate_of_validateValues hvalues
  have hmem : ∀ sampleId ∈ single.sampleIds,
      sampleId ∈ (multiTargetBlock relations tables).sampleIds := by
    intro sampleId hsample
    rw [hsamples, mem_firstSeen, mem_servedSamples] at hsample
    obtain ⟨⟨r, hr, hserves, rfl⟩, -⟩ := hsample
    have hserves' := hserves.mono (List.cons_subset.mpr
      ⟨List.mem_of_getElem? htable, List.nil_subset tables⟩)
    exact mem_firstSeen.mpr ⟨mem_servedSamples.mpr ⟨r, hr, hserves', rfl⟩, List.not_mem_nil⟩
  refine (List.forall₂_iff_zip.mpr ⟨hlookup.length_eq, fun {sampleId value} hpair => ?_⟩)
  have hfound := List.forall₂_zip hlookup hpair
  have hpresent := CoordinatorTargetTable.isNull_of_validateValues hvalues
    ((CoordinatorTargetTable.getElem?_valuesBySample hvalid).mp hfound)
  have hcell : targetCell table.valuesBySample sampleId = (value, true) := by
    unfold targetCell
    rw [hfound]
    simp only [hpresent]
    rfl
  obtain ⟨k, hk⟩ := List.mem_iff_getElem?.mp (hmem sampleId (List.of_mem_zip hpair).1)
  obtain ⟨hvalues, hmask⟩ := @multiTargetBlock_row relations _ _ _ htable
  refine ⟨k, _, _, hk, hvalues, ?_, hmask, ?_⟩
  · rw [List.getElem?_map, List.getElem?_map, hk, Option.map_some, Option.map_some, hcell]
  · rw [List.getElem?_map, List.getElem?_map, hk, Option.map_some, Option.map_some, hcell]

/-- The block of several targets is the one that the records and the tables say, there is none
exactly when no record serves the tables, and each block of one target is a part of it. -/
theorem multiTargetValues_agrees (hlive : arena.viewIdentity viewHandle = .ok relations)
    (hne : tables ≠ []) (hvalid : ∀ table ∈ tables, table.validate = .ok ())
    (hdistinct : (tables.map (·.targetId)).Nodup) :
    ((∀ r ∈ relations.records, ¬ r.ServesTargets tables) →
      arena.multiTargetValues viewHandle tables = .error
        (.validation s!"view `{viewHandle}` contains no samples for requested targets")) ∧
    ((∃ r ∈ relations.records, r.ServesTargets tables) →
      ∃ block, arena.multiTargetValues viewHandle tables = .ok block ∧
        block.Lists relations.records tables) ∧
    ∀ (i : Nat) (table : CoordinatorTargetTable) (single : CoordinatorTargetBlock),
      tables[i]? = some table → arena.targetValues viewHandle table = .ok single →
      ∃ block, arena.multiTargetValues viewHandle tables = .ok block ∧
        single.PartOf block i ∧ (tables = [table] → single.sampleIds = block.sampleIds) := by
  have hmulti := multiTargetValues_of_valid hlive hne hvalid hdistinct
  have hserved : ∀ {sampleId},
    sampleId ∈ firstSeen [] (servedSamples relations.records tables) ↔
      ∃ r ∈ relations.records, r.ServesTargets tables ∧ r.sampleId = sampleId := by
    intro sampleId
    rw [mem_firstSeen, mem_servedSamples, and_iff_left List.not_mem_nil]
  have hblock : (∃ r ∈ relations.records, r.ServesTargets tables) →
      arena.multiTargetValues viewHandle tables = .ok (multiTargetBlock relations tables) := by
    rintro ⟨r, hr, hserves⟩
    rw [hmulti, if_neg]
    rw [List.isEmpty_iff]
    exact List.ne_nil_of_mem (hserved.mpr ⟨r, hr, hserves, rfl⟩)
  refine ⟨fun hnone => ?_, fun hsome =>
    ⟨_, hblock hsome, multiTargetBlock_lists hvalid⟩, ?_⟩
  · rw [hmulti, if_pos]
    rw [List.isEmpty_iff, List.eq_nil_iff_forall_not_mem]
    intro sampleId hmem
    obtain ⟨r, hr, hserves, -⟩ := hserved.mp hmem
    exact hnone r hr hserves
  · intro i table single htable hsingle
    obtain ⟨-, hsamples, hnonempty, -⟩ := targetValues_eq_ok hlive hsingle
    have hsome : ∃ r ∈ relations.records, r.ServesTargets tables := by
      obtain ⟨sampleId, hsample⟩ := List.exists_mem_of_ne_nil _ hnonempty
      rw [hsamples, mem_firstSeen, mem_servedSamples] at hsample
      obtain ⟨⟨r, hr, hserves, -⟩, -⟩ := hsample
      exact ⟨r, hr, hserves.mono (List.cons_subset.mpr
        ⟨List.mem_of_getElem? htable, List.nil_subset tables⟩)⟩
    refine ⟨_, hblock hsome, partOf_multiTargetBlock htable hlive hsingle, ?_⟩
    rintro rfl
    exact hsamples

/-- An arena with one view, of two samples. -/
def oneViewArena : CoordinatorHandleArena :=
  ⟨"controller", 5, ∅, ∅, ∅, .collect [(4, ⟨[testRecord, trainingRecord]⟩)]⟩

/-- A table with a value for one of the samples. -/
def oneValueTable : CoordinatorTargetTable :=
  ⟨.lit "A" rfl, [⟨.lit "s1" rfl, .number (.int 42)⟩,
    ⟨.lit "s9" rfl, .null⟩]⟩

theorem viewIdentity_oneViewArena :
    oneViewArena.viewIdentity 4 = .ok ⟨[testRecord, trainingRecord]⟩ := by
  rw [viewIdentity, require_eq_ok]
  exact (BTreeMap.getElem?_collect_of_nodup (by decide)).mpr List.mem_cons_self

theorem multiTargetValues_agrees_oneValue : ∃ block,
    oneViewArena.multiTargetValues 4 [oneValueTable] = .ok block ∧
      block.Lists [testRecord, trainingRecord] [oneValueTable] :=
  (multiTargetValues_agrees viewIdentity_oneViewArena (List.cons_ne_nil _ _) (by decide)
    (by decide)).2.1 ⟨testRecord, List.mem_cons_self, .inl rfl⟩

end CoordinatorHandleArena

end DagMlData
