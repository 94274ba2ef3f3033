import DagMlData.Lib.RowMajor
import DagMlData.Lib.Unchecked
import DagMlData.ProviderProjections

/-!
# Projections of a tensor

`project_relations` with the products, the sum and the slices that it does not check.

* `gatherRelations`: the loop over the records.
* `gatherRelations_eq`: on a tensor that was built, no step of it goes wrong.
* `ndTensor_projection`: the rows of the block, and the block as a tensor of its own.
-/

namespace DagMlData

open Guard RustText RowMajor Unchecked

/-! ## The loop -/

/-- The vectors that the loop over the records fills. -/
structure GatherLoop where
  observationIds : List ObservationId
  sampleIds : List SampleId
  data : List UInt8
  presence : List Bool

namespace NdTensor

variable (tensor : NdTensor)

/-- The row that the index has for a record. -/
def rowOf (r : CoordinatorRelation) : Result Nat :=
  require tensor.rowIndexByObservation[r.observationId]?
    (.validation (s!"nd tensor `{tensor.tensorId}` has no row for observation " ++
      s!"`{r.observationId}`"))

/-- `row_presence[row_idx]`, where the tensor has a mask. -/
def presenceAt (rowIdx : Nat) : Outcome DataError (List Bool) :=
  match tensor.rowPresence with
  | some rowPresence => slice rowPresence rowIdx (rowIdx + 1)
  | none => pure []

/-- One turn of the loop of `project_relations`. -/
def gatherRow (st : GatherLoop) (r : CoordinatorRelation) : Outcome DataError GatherLoop := do
  let rowIdx ← Unchecked.lift (tensor.rowOf r)
  let start ← sized u64Size (rowIdx * tensor.rowStrideBytes)
  let stop ← sized u64Size (start + tensor.rowStrideBytes)
  let bytes ← slice tensor.data start stop
  let flags ← tensor.presenceAt rowIdx
  pure ⟨st.observationIds ++ [r.observationId], st.sampleIds ++ [r.sampleId], st.data ++ bytes,
    st.presence ++ flags⟩

/-- `NdTensor::project_relations`, with the steps that can panic. -/
def gatherRelations (relations : CoordinatorRelationSet) (sourceId : Option SourceId) :
    Outcome DataError NdTensorBlock := do
  Unchecked.lift relations.validate
  let st ← (relations.records.filter (·.inScope sourceId)).foldlM tensor.gatherRow
    ⟨[], [], [], []⟩
  -- The axis-0 size is stored by an index into the shape.
  assume (decide (0 < tensor.shape.length))
  pure {
    tensorId := tensor.tensorId
    representationId := tensor.representationId
    container := tensor.container
    dtype := tensor.dtype
    shape := tensor.shape.set 0 st.observationIds.length
    observationIds := st.observationIds
    sampleIds := st.sampleIds
    data := st.data
    rowPresence := tensor.rowPresence.map fun _ => st.presence }

variable {tensor : NdTensor}

/-! ## No step of the loop goes wrong -/

/-- The bytes of a row lie in the data. -/
theorem Built.row_le (h : tensor.Built) {rowIdx : Nat}
    (hrow : rowIdx < tensor.observationIds.length) :
    rowIdx * tensor.rowStrideBytes + tensor.rowStrideBytes ≤ tensor.data.length := by
  rw [h.stride, ← Nat.succ_mul]
  exact Nat.mul_le_mul_right _ hrow

theorem Built.length_rowBytes (h : tensor.Built) {rowIdx : Nat}
    (hrow : rowIdx < tensor.observationIds.length) :
    (tensor.rowBytes rowIdx).length = tensor.rowStrideBytes := by
  rw [rowBytes, List.length_take, List.length_drop]
  exact min_eq_left (Nat.le_sub_of_add_le' (h.row_le hrow))

/-- The index has the place of the observation. -/
theorem Built.rowOf_eq_ok (h : tensor.Built) {r : CoordinatorRelation} {rowIdx : Nat} :
    tensor.rowOf r = .ok rowIdx ↔ tensor.observationIds[rowIdx]? = some r.observationId := by
  rw [rowOf, require_eq_ok, h.index, rowIndex,
    BTreeMap.getElem?_collect_zipIdx h.observationsNodup]

/-- The flag of a row, where the tensor has flags. -/
def flagsAt (tensor : NdTensor) (rowIdx : Nat) : List Bool :=
  (tensor.rowPresence.map fun rowPresence => rowPresence.getD rowIdx false).toList

theorem Built.presenceAt_eq (h : tensor.Built) {rowIdx : Nat}
    (hrow : rowIdx < tensor.observationIds.length) :
    tensor.presenceAt rowIdx = .ok (tensor.flagsAt rowIdx) := by
  unfold presenceAt flagsAt
  cases hpresence : tensor.rowPresence with
  | none => rfl
  | some rowPresence =>
    have hlt : rowIdx < rowPresence.length := (h.presence rowPresence hpresence).symm ▸ hrow
    refine slice_eq_ok.mpr ⟨⟨Nat.le_succ rowIdx, hlt⟩, ?_⟩
    rw [Nat.add_sub_cancel_left, List.drop_eq_getElem_cons hlt, List.take_succ_cons, List.take_zero,
      Option.map_some, List.getD_eq_getElem _ _ hlt]
    rfl

/-- What a turn of the loop adds. -/
def GatherLoop.push (tensor : NdTensor) (st : GatherLoop) (r : CoordinatorRelation)
    (rowIdx : Nat) : GatherLoop :=
  ⟨st.observationIds ++ [r.observationId], st.sampleIds ++ [r.sampleId],
    st.data ++ tensor.rowBytes rowIdx, st.presence ++ tensor.flagsAt rowIdx⟩

theorem Built.gatherRow_eq (h : tensor.Built) (st : GatherLoop) (r : CoordinatorRelation) :
    tensor.gatherRow st r =
      Unchecked.lift ((tensor.rowOf r).map (GatherLoop.push tensor st r)) := by
  cases hrow : tensor.rowOf r with
  | error e =>
    unfold gatherRow
    rw [hrow]
    rfl
  | ok rowIdx =>
    have hlt := (List.getElem?_eq_some_iff.mp (h.rowOf_eq_ok.mp hrow)).1
    have hle := h.row_le hlt
    have hstop := hle.trans_lt h.fits
    have hstart := (Nat.le_add_right _ _).trans_lt hstop
    have hbytes : slice tensor.data (rowIdx * tensor.rowStrideBytes)
        (rowIdx * tensor.rowStrideBytes + tensor.rowStrideBytes) =
        (.ok (tensor.rowBytes rowIdx) : Outcome DataError _) := by
      refine slice_eq_ok.mpr ⟨⟨Nat.le_add_right _ _, hle⟩, ?_⟩
      rw [Nat.add_sub_cancel_left, rowBytes]
    unfold gatherRow
    rw [hrow]
    exact bind_eq_ok.mpr ⟨rowIdx, rfl, bind_eq_ok.mpr ⟨_, sized_eq_ok.mpr ⟨hstart, rfl⟩,
      bind_eq_ok.mpr ⟨_, sized_eq_ok.mpr ⟨hstop, rfl⟩, bind_eq_ok.mpr ⟨_, hbytes,
        bind_eq_ok.mpr ⟨_, h.presenceAt_eq hlt, rfl⟩⟩⟩⟩⟩

/-- The vectors of the loop after some records. -/
def GatherLoop.pushes (tensor : NdTensor) (st : GatherLoop) (records : List CoordinatorRelation)
    (rows : List Nat) : GatherLoop :=
  ⟨st.observationIds ++ records.map (·.observationId), st.sampleIds ++ records.map (·.sampleId),
    st.data ++ rows.flatMap tensor.rowBytes, st.presence ++ rows.flatMap tensor.flagsAt⟩

theorem Built.foldlM_gatherRow (h : tensor.Built) (records : List CoordinatorRelation)
    (st : GatherLoop) :
    records.foldlM tensor.gatherRow st =
      Unchecked.lift ((records.mapM tensor.rowOf).map (GatherLoop.pushes tensor st records)) := by
  induction records generalizing st with
  | nil => simp [GatherLoop.pushes, Unchecked.lift, Except.map, Except.mapError, pure, Except.pure]
  | cons r records ih =>
    rw [List.foldlM_cons, List.mapM_cons, h.gatherRow_eq]
    cases hrow : tensor.rowOf r with
    | error e => rfl
    | ok rowIdx =>
      show records.foldlM tensor.gatherRow (GatherLoop.push tensor st r rowIdx) = _
      rw [ih]
      cases hrows : records.mapM tensor.rowOf with
      | error e => rfl
      | ok rows =>
        refine congrArg Except.ok ?_
        simp [GatherLoop.push, GatherLoop.pushes]

/-- The flags of rows, as the block has them. -/
theorem flatMap_flagsAt {rowPresence : List Bool} (h : tensor.rowPresence = some rowPresence)
    (rows : List Nat) :
    rows.flatMap tensor.flagsAt = rows.map fun rowIdx => rowPresence.getD rowIdx false := by
  rw [← List.flatMap_pure_eq_map]
  refine List.flatMap_congr fun rowIdx _ => ?_
  rw [flagsAt, h]
  rfl

theorem Built.shape_eq (h : tensor.Built) :
    tensor.shape = tensor.observationIds.length :: tensor.shape.tail := by
  rw [h.rowCount]
  cases hshape : tensor.shape with
  | nil => exact absurd hshape h.rank.1
  | cons rowCount dims => rfl

/-- The loop never panics. It is the projection. -/
theorem Built.gatherRelations_eq (h : tensor.Built) (relations : CoordinatorRelationSet)
    (sourceId : Option SourceId) :
    tensor.gatherRelations relations sourceId =
      Unchecked.lift (tensor.projectRelations relations sourceId) := by
  unfold gatherRelations projectRelations
  rw [h.foldlM_gatherRow]
  cases hvalid : relations.validate with
  | error e => rfl
  | ok u =>
    cases hrows : (relations.records.filter (·.inScope sourceId)).mapM tensor.rowOf with
    | error e =>
      unfold rowOf at hrows
      simp only [hrows]
      rfl
    | ok rows =>
      have hloop : (relations.records.filter (·.inScope sourceId)).mapM tensor.rowOf = .ok rows :=
        hrows
      unfold rowOf at hrows
      have hshape : decide (0 < tensor.shape.length) = true := by
        rw [h.shape_eq]
        rfl
      have hpresence : (tensor.rowPresence.map fun _ => rows.flatMap tensor.flagsAt) =
          tensor.rowPresence.map fun rowPresence =>
            rows.map fun rowIdx => rowPresence.getD rowIdx false := by
        cases hpresent : tensor.rowPresence with
        | none => rfl
        | some rowPresence => rw [Option.map_some, Option.map_some, flatMap_flagsAt hpresent]
      simp only [hrows, hshape]
      show Except.ok _ = Except.ok _
      simp only [GatherLoop.pushes, List.nil_append, List.length_map, hpresence]

/-! ## The block -/

namespace Projects

variable {records : List CoordinatorRelation} {block : NdTensorBlock}

/-- A row of the block is the stored row of its record. -/
theorem row (hbuilt : tensor.Built) (h : tensor.Projects records block) {r : Nat}
    {record : CoordinatorRelation} (hrecord : records[r]? = some record) :
    ∃ rowIdx, tensor.observationIds[rowIdx]? = some record.observationId ∧
      element block.data tensor.rowStrideBytes r = tensor.rowBytes rowIdx ∧
      ∀ rowPresence, tensor.rowPresence = some rowPresence → ∃ flags,
        block.rowPresence = some flags ∧ flags[r]? = rowPresence[rowIdx]? := by
  obtain ⟨rows, hrows, hdata, hpresence⟩ := h.rows
  obtain ⟨hlt, heq⟩ := List.getElem?_eq_some_iff.mp hrecord
  have hlt' : r < rows.length := hrows.length_eq ▸ hlt
  have hrow := hrows.get hlt hlt'
  rw [List.get_eq_getElem, List.get_eq_getElem, heq] at hrow
  have hindex := (List.getElem?_eq_some_iff.mp hrow).1
  refine ⟨rows[r], hrow, ?_, fun rowPresence hsome => ?_⟩
  · rw [hdata, List.flatMap]
    refine element_flatten (fun bytes hbytes => ?_) ?_
    · obtain ⟨rowIdx, hmem, rfl⟩ := List.mem_map.mp hbytes
      obtain ⟨_, _, hget⟩ := exists_left_of_forall₂ hrows hmem
      exact hbuilt.length_rowBytes (List.getElem?_eq_some_iff.mp hget).1
    · rw [List.getElem?_map, List.getElem?_eq_getElem hlt', Option.map_some]
  · have hflag : rows[r] < rowPresence.length := (hbuilt.presence _ hsome).symm ▸ hindex
    refine ⟨rows.map fun rowIdx =>
      rowPresence.getD rowIdx false, by rw [hpresence, hsome]; rfl, ?_⟩
    rw [List.getElem?_map, List.getElem?_eq_getElem hlt', List.getElem?_eq_getElem hflag,
      Option.map_some, List.getD_eq_getElem _ _ hflag]

theorem length_data (hbuilt : tensor.Built) (h : tensor.Projects records block) :
    block.data.length = records.length * tensor.rowStrideBytes := by
  obtain ⟨rows, hrows, hdata, -⟩ := h.rows
  have hlengths : rows.map (fun rowIdx => (tensor.rowBytes rowIdx).length) =
      List.replicate rows.length tensor.rowStrideBytes := by
    rw [List.eq_replicate_iff, List.length_map]
    refine ⟨rfl, fun n hn => ?_⟩
    obtain ⟨rowIdx, hmem, rfl⟩ := List.mem_map.mp hn
    obtain ⟨_, _, hget⟩ := exists_left_of_forall₂ hrows hmem
    exact hbuilt.length_rowBytes (List.getElem?_eq_some_iff.mp hget).1
  rw [hdata, List.length_flatMap, hlengths, List.sum_replicate, smul_eq_mul, hrows.length_eq]

end Projects

/-- The stride is the size of one row. -/
theorem Built.stride_eq (h : tensor.Built) :
    tensor.rowStrideBytes = tensor.shape.tail.prod * tensor.dtype.elementSize := by
  have hpos : 0 < tensor.observationIds.length := List.length_pos_iff.mpr h.observed
  have hsize := h.size
  rw [h.stride, h.shape_eq, List.prod_cons, mul_assoc] at hsize
  exact Nat.eq_of_mul_eq_mul_left hpos hsize

theorem Projects.shape_eq (hbuilt : tensor.Built) {records : List CoordinatorRelation}
    {block : NdTensorBlock} (h : tensor.Projects records block) :
    block.shape = records.length :: tensor.shape.tail := by
  rw [h.shape, hbuilt.shape_eq, List.set_cons_zero, List.tail_cons]

theorem Projects.size (hbuilt : tensor.Built) {records : List CoordinatorRelation}
    {block : NdTensorBlock} (h : tensor.Projects records block) :
    block.data.length = block.shape.prod * block.dtype.elementSize := by
  rw [h.length_data hbuilt, hbuilt.stride_eq, h.shape_eq hbuilt, h.dtype, List.prod_cons, mul_assoc]

/-! ## The block as an input -/

/-- The block, handed in as a tensor with its own observation ids. -/
def asInput (block : NdTensorBlock) (sampleIds : Option (List SampleId)) : NdTensorInput where
  tensorId := block.tensorId
  representationId := block.representationId
  container := block.container
  dtype := block.dtype
  shape := block.shape
  observationIds := block.observationIds
  sampleIds := sampleIds
  data := block.data
  rowPresence := block.rowPresence

/-- A product that fits has no step that overflows. -/
theorem checkedShapeProduct_of_fits {tensorId : String} {shape : List Nat} (hpositive : 0 ∉ shape)
    (hfits : shape.prod < u64Size) : checkedShapeProduct tensorId shape = .ok shape.prod := by
  suffices hloop : ∀ product, product * shape.prod < u64Size →
      (shape.foldlM (fun product dim => require (checkedMul product dim)
        (DataError.validation s!"nd tensor `{tensorId}` shape product overflows usize")) product :
          Result Nat) = .ok (product * shape.prod) by
    have hone := hloop 1
    rw [Nat.one_mul] at hone
    exact hone hfits
  clear hfits
  induction shape with
  | nil =>
    intro product _
    rw [List.prod_nil, Nat.mul_one]
    rfl
  | cons dim shape ih =>
    intro product hlt
    rw [List.mem_cons, not_or] at hpositive
    rw [List.prod_cons, ← mul_assoc] at hlt ⊢
    have hstep : product * dim < u64Size :=
      (Nat.le_mul_of_pos_right _ (prod_pos hpositive.2)).trans_lt hlt
    rw [List.foldlM_cons, bind_eq_ok]
    exact ⟨_, require_eq_ok.mpr (checkedMul_eq_some.mpr ⟨hstep, rfl⟩), ih hpositive.2 _ hlt⟩

/-- The input has the sizes that `from_input` checks. -/
theorem exists_fromInput {input : NdTensorInput} (hid : isBlank input.tensorId = false)
    (hcontainer : isBlank input.container = false) {rowCount : Nat} {dims : List Nat}
    (hshape : input.shape = rowCount :: dims) (hrank : input.shape.length ≤ ndTensorMaxRank)
    (hpositive : 0 ∉ input.shape) (hrows : input.observationIds.length = rowCount)
    (hnodup : input.observationIds.Nodup)
    (hsamples : ∀ sampleIds, input.sampleIds = some sampleIds → sampleIds.length = rowCount)
    (hsize : input.data.length = input.shape.prod * input.dtype.elementSize)
    (hfits : input.data.length < u64Size)
    (hbooleans : input.dtype = .bool → ∀ byte ∈ input.data, byte ≤ 1)
    (hpresence : ∀ rowPresence, input.rowPresence = some rowPresence →
      rowPresence.length = rowCount) :
    ∃ tensor, fromInput input = .ok tensor ∧ tensor.tensorId = input.tensorId ∧
      tensor.representationId = input.representationId ∧ tensor.container = input.container ∧
      tensor.dtype = input.dtype ∧ tensor.shape = input.shape ∧
      tensor.observationIds = input.observationIds ∧ tensor.data = input.data ∧
      tensor.rowPresence = input.rowPresence := by
  have hprod : input.shape.prod < u64Size := by
    refine lt_of_le_of_lt ?_ hfits
    rw [hsize]
    exact Nat.le_mul_of_pos_right _ input.dtype.elementSize_pos
  have hcount : input.shape.headD 0 = rowCount := by rw [hshape]; rfl
  have hobserved : input.observationIds ≠ [] := by
    rintro hnil
    rw [hnil] at hrows
    rw [hshape, ← hrows] at hpositive
    exact hpositive List.mem_cons_self
  have hbytes : (input.dtype == .bool && input.data.any (· > 1)) = false := by
    rw [Bool.and_eq_false_imp]
    intro hdtype
    rw [List.any_eq_false]
    intro byte hbyte
    rw [decide_eq_true_eq]
    exact UInt8.not_lt.mpr (hbooleans (beq_iff_eq.mp hdtype) byte hbyte)
  simp only [fromInput, bind_eq_ok, exists_unit, rejectIf_eq_ok, whenSome_eq_ok,
    rejectRepeats_eq_ok, require_eq_ok, pure_eq_ok, bne_eq_false_iff_eq, Bool.or_eq_false_iff,
    List.isEmpty_eq_false_iff, decide_eq_false_iff_not, not_lt, checkedMul_eq_some,
    checkedShapeProduct_of_fits hpositive hprod, hcount]
  refine ⟨_, ⟨hid, hcontainer, ⟨?_, hrank⟩, ?_, hrows, hobserved, hnodup,
    hsamples, _, rfl, _,
    ⟨hsize ▸ hfits, rfl⟩, hsize, hbytes, hpresence, rfl⟩, rfl, rfl, rfl,
      rfl, rfl, rfl, rfl, rfl⟩
  · rw [hshape]
    exact List.cons_ne_nil _ _
  · rw [List.contains_eq_mem, decide_eq_false_iff_not]
    exact hpositive

/-- A block with a row, taken as a tensor, projects to itself. -/
theorem Projects.again (hbuilt : tensor.Built) {relations : CoordinatorRelationSet}
    {sourceId : Option SourceId} {block : NdTensorBlock} (hvalid : relations.Valid)
    (h : tensor.Projects (relations.records.filter (·.inScope sourceId)) block)
    (hne : block.observationIds ≠ []) {sampleIds : Option (List SampleId)}
    (hsamples : ∀ ids, sampleIds = some ids → ids = block.sampleIds) :
    ∃ copy, fromInput (asInput block sampleIds) = .ok copy ∧
      copy.projectRelations relations sourceId = .ok block := by
  generalize hrecords : relations.records.filter (·.inScope sourceId) = records at h
  -- The block is accepted as an input. It has no more rows than the tensor, so its size fits too.
  have hsublist : records.Sublist relations.records := hrecords ▸ List.filter_sublist
  have hshape := h.shape_eq hbuilt
  have hlength : block.observationIds.length = records.length := by
    rw [h.observationIds, List.length_map]
  have hpos : 0 < records.length := hlength ▸ List.length_pos_iff.mpr hne
  obtain ⟨rows, hrows, hdata, hpresence⟩ := h.rows
  have hnodup : block.observationIds.Nodup := by
    rw [h.observationIds]
    exact (hsublist.map _).nodup hvalid.observations
  have hcount : records.length ≤ tensor.observationIds.length := by
    rw [← hlength]
    refine (List.subperm_of_subset hnodup fun o ho => ?_).length_le
    rw [h.observationIds] at ho
    obtain ⟨record, hrecord, rfl⟩ := List.mem_map.mp ho
    obtain ⟨_, _, hget⟩ := exists_right_of_forall₂ hrows hrecord
    exact List.mem_of_getElem? hget
  have hblockId : isBlank block.tensorId = false := h.tensorId ▸ hbuilt.tensorId
  have hblockContainer : isBlank block.container = false := h.container ▸ hbuilt.container
  have hpositive : 0 ∉ block.shape := by
    have htensor := hbuilt.positive
    rw [hbuilt.shape_eq, List.mem_cons, not_or] at htensor
    rw [hshape, List.mem_cons, not_or]
    exact ⟨hpos.ne, htensor.2⟩
  have hrank : block.shape.length ≤ ndTensorMaxRank := by
    rw [h.shape, List.length_set]
    exact hbuilt.rank.2
  have hfits : block.data.length < u64Size := by
    refine lt_of_le_of_lt ?_ hbuilt.fits
    rw [h.length_data hbuilt, hbuilt.stride]
    exact Nat.mul_le_mul_right _ hcount
  have hbooleans : block.dtype = .bool → ∀ byte ∈ block.data, byte ≤ 1 := by
    intro hdtype byte hbyte
    rw [hdata] at hbyte
    obtain ⟨rowIdx, -, hmem⟩ := List.mem_flatMap.mp hbyte
    exact hbuilt.booleans (h.dtype ▸ hdtype) byte
      (List.mem_of_mem_drop (List.mem_of_mem_take hmem))
  have hflags : ∀ rowPresence, block.rowPresence = some rowPresence →
      rowPresence.length = records.length := by
    intro rowPresence hsome
    rw [hpresence] at hsome
    obtain ⟨_, -, rfl⟩ := Option.map_eq_some_iff.mp hsome
    rw [List.length_map, hrows.length_eq]
  have hsampleCount : ∀ ids, sampleIds = some ids → ids.length = records.length := by
    intro ids hsome
    rw [hsamples ids hsome, h.sampleIds, List.length_map]
  obtain ⟨copy, hcopy, hid, hrep, hcontainer, hdtype, hcopyShape, hids,
      hcopyData, hcopyPresence⟩ :=
    @exists_fromInput (asInput block sampleIds) hblockId hblockContainer _ _ hshape hrank hpositive
      hlength hnodup hsampleCount (h.size hbuilt) hfits hbooleans hflags
  -- Row `r` of the copy is for record `r`, so the projection takes the rows in their order.
  have hcopyBuilt := fromInput_built hcopy
  refine ⟨copy, hcopy, (projectRelations_eq_ok hcopyBuilt).mpr ⟨hvalid, ?_⟩⟩
  rw [hrecords]
  have hstride : copy.rowStrideBytes = tensor.rowStrideBytes := by
    rw [hcopyBuilt.stride_eq, hbuilt.stride_eq, hcopyShape, hdtype]
    show block.shape.tail.prod * block.dtype.elementSize = _
    rw [hshape, h.dtype, List.tail_cons]
  refine ⟨hid.symm, hrep.symm, hcontainer.symm, hdtype.symm, ?_, h.observationIds, h.sampleIds,
    List.range records.length, ?_, ?_, ?_⟩
  · rw [hcopyShape]
    show block.shape = block.shape.set 0 records.length
    rw [hshape, List.set_cons_zero]
  · rw [hids, List.forall₂_iff_get]
    refine ⟨by rw [List.length_range], fun r hr _ => ?_⟩
    show block.observationIds[_]? = _
    rw [List.get_eq_getElem, List.get_eq_getElem, List.getElem_range, h.observationIds,
      List.getElem?_map, List.getElem?_eq_getElem hr, Option.map_some]
  · have hchunks := flatten_elements (h.length_data hbuilt)
    rw [List.flatMap]
    refine hchunks.symm.trans (congrArg List.flatten (List.map_congr_left fun r _ => ?_))
    rw [rowBytes, hstride, hcopyData]
    rfl
  · rw [hcopyPresence]
    show block.rowPresence = block.rowPresence.map _
    cases hsome : block.rowPresence with
    | none => rfl
    | some flags =>
      rw [Option.map_some, ← hflags flags hsome]
      refine congrArg some (List.ext_getElem (by simp) fun r hr _ => ?_)
      simp [hr]

/-- Every tensor that `from_input` accepts has the stride of its rows. A projection goes through
without a panic, its rows are the stored rows of the records, and a block with a row is the
projection of itself. -/
theorem ndTensor_projection {input : NdTensorInput} (h : fromInput input = .ok tensor) :
    tensor.rowStrideBytes * tensor.observationIds.length = tensor.data.length ∧
    ∀ (relations : CoordinatorRelationSet) (sourceId : Option SourceId),
      tensor.gatherRelations relations sourceId =
        Unchecked.lift (tensor.projectRelations relations sourceId) ∧
      ∀ block, tensor.projectRelations relations sourceId = .ok block →
        let records := relations.records.filter (·.inScope sourceId)
        block.shape = records.length :: tensor.shape.tail ∧
        block.observationIds = records.map (·.observationId) ∧
        block.sampleIds = records.map (·.sampleId) ∧
        (block.rowPresence.isSome = tensor.rowPresence.isSome) ∧
        (∀ (r : Nat) (record : CoordinatorRelation), records[r]? = some record →
          ∃ rowIdx, tensor.observationIds[rowIdx]? = some record.observationId ∧
            rowIdx * tensor.rowStrideBytes + tensor.rowStrideBytes ≤ tensor.data.length ∧
            element block.data tensor.rowStrideBytes r = tensor.rowBytes rowIdx ∧
            ∀ rowPresence, tensor.rowPresence = some rowPresence → ∃ flags,
              block.rowPresence = some flags ∧ flags[r]? = rowPresence[rowIdx]?) ∧
        block.data.length = block.shape.prod * block.dtype.elementSize ∧
        (block.observationIds ≠ [] → ∀ sampleIds : Option (List SampleId),
          (∀ ids, sampleIds = some ids → ids = block.sampleIds) →
          ∃ copy, fromInput (asInput block sampleIds) = .ok copy ∧
            copy.projectRelations relations sourceId = .ok block) := by
  have hbuilt := fromInput_built h
  refine ⟨by rw [hbuilt.stride, Nat.mul_comm], fun relations sourceId =>
    ⟨hbuilt.gatherRelations_eq relations sourceId, fun block hblock => ?_⟩⟩
  obtain ⟨hvalid, hprojects⟩ := (projectRelations_eq_ok hbuilt).mp hblock
  refine ⟨hprojects.shape_eq hbuilt, hprojects.observationIds, hprojects.sampleIds, ?_,
    fun r record hrecord => ?_, hprojects.size hbuilt,
    fun hne sampleIds hsamples => hprojects.again hbuilt hvalid hne hsamples⟩
  · obtain ⟨_, _, _, hpresence⟩ := hprojects.rows
    rw [hpresence, Option.isSome_map]
  · obtain ⟨rowIdx, hrow, hbytes, hflag⟩ := hprojects.row hbuilt hrecord
    exact ⟨rowIdx, hrow, hbuilt.row_le (List.getElem?_eq_some_iff.mp hrow).1, hbytes, hflag⟩

/-- Three rows of two bytes, the second of them absent. -/
def pairsInput : NdTensorInput where
  tensorId := "pairs"
  representationId := .lit "tabular" rfl
  container := "dense"
  dtype := .u8
  shape := [3, 2]
  observationIds := [.lit "o1" rfl, .lit "o2" rfl, .lit "o9" rfl]
  sampleIds := none
  data := [10, 11, 20, 21, 90, 91]
  rowPresence := some [true, false, true]

/-- The last observation before the first one. -/
def swappedRelations : CoordinatorRelationSet where
  records := [.new (.lit "o9" rfl) (.lit "s9" rfl),
    .new (.lit "o1" rfl) (.lit "s1" rfl)]

/-- Two rows, out of order, and the block of them as a tensor. -/
theorem ndTensor_projection_pairs : ∃ tensor block, fromInput pairsInput = .ok tensor ∧
    tensor.projectRelations swappedRelations none = .ok block ∧
    block.data = [90, 91, 10, 11] ∧ block.rowPresence = some [true, true] ∧
    ∃ copy, fromInput (asInput block none) = .ok copy ∧
      copy.projectRelations swappedRelations none = .ok block := by
  have hrun : (fromInput pairsInput).toOption.any (fun tensor =>
      (tensor.projectRelations swappedRelations none).toOption.any fun block =>
        block.data == [90, 91, 10, 11] && block.rowPresence == some [true, true]) = true := by
    decide +kernel
  obtain ⟨tensor, htensor, hblock⟩ := Option.any_eq_true _ _ |>.mp hrun
  obtain ⟨block, hblock, hcontent⟩ := Option.any_eq_true _ _ |>.mp hblock
  rw [Bool.and_eq_true, beq_iff_eq, beq_iff_eq] at hcontent
  rw [toOption_eq_some] at htensor hblock
  obtain ⟨-, hprojection⟩ := ndTensor_projection htensor
  obtain ⟨-, hspec⟩ := hprojection swappedRelations none
  obtain ⟨-, hids, -, -, -, -, hagain⟩ := hspec block hblock
  have hne : block.observationIds ≠ [] := by
    rw [hids]
    exact List.cons_ne_nil _ _
  have hnone : ∀ ids, (none : Option (List SampleId)) = some ids → ids = block.sampleIds := by
    intro ids h
    cases h
  exact ⟨tensor, block, htensor, hblock, hcontent.1, hcontent.2, hagain hne none hnone⟩

end NdTensor

end DagMlData
