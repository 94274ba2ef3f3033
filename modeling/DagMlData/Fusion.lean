import DagMlData.Alignment
import DagMlData.FeatureTable

/-!
# Fusion of feature blocks

The blocks of several sources become one block over the samples of an alignment plan. The first
block is the reference: its rows are the rows of the result, and the cells of the other sources
come from their row of the same sample.

* `sourceSampleSetFromFeatureBlock`: the samples of a block.
* `fuseFeatureBlocks`: the fusion.
-/

namespace DagMlData

open Guard RustText

structure FeatureFusionPolicy where
  namespaceColumns : Bool

structure SourceFeatureBlock where
  sourceId : SourceId
  block : CoordinatorFeatureBlock

/-! ## Blocks -/

namespace CoordinatorFeatureBlock

variable (block : CoordinatorFeatureBlock)

/-- The rows of the block, with the observations that come before. -/
def checkRows : List ObservationId → List (ObservationId × List Json) → Result Unit
  | _, [] => .ok ()
  | seen, (observationId, values) :: rows => do
    rejectIf (seen.contains observationId)
      (.validation (s!"feature block `{block.featureSetId}` contains duplicate observation " ++
        s!"`{observationId}`"))
    rejectIf (values.length != block.featureNames.length)
      (.validation (s!"feature block `{block.featureSetId}` row `{observationId}` has " ++
        s!"{values.length} values for {block.featureNames.length} features"))
    checkRows (observationId :: seen) rows

/-- `validate_feature_block`. -/
def validate : Result Unit := do
  rejectIf (isBlank block.featureSetId) (.validation "feature block feature_set_id is empty")
  rejectIf block.featureNames.isEmpty
    (.validation s!"feature block `{block.featureSetId}` contains no features")
  rejectIf (block.observationIds.length != block.sampleIds.length ||
      block.sampleIds.length != block.values.length)
    (.validation s!"feature block `{block.featureSetId}` row identity/value lengths differ")
  block.checkRows [] (block.observationIds.zip block.values)

/-- `rows_by_sample`. -/
def rowsBySample : BTreeMap SampleId (List Nat) := BTreeMap.group block.sampleIds.zipIdx

/-- The observation of a row. A valid block has one for every row. -/
def observationAt (idx : Nat) : ObservationId := block.observationIds.getD idx ⟨"0", by decide⟩

/-- The cells of a row. A valid block has them for every row. -/
def valuesAt (idx : Nat) : List Json := block.values.getD idx []

/-- A null for every feature. -/
def nulls : List Json := List.replicate block.featureNames.length .null

end CoordinatorFeatureBlock

/-- `source_sample_set_from_feature_block`. -/
def sourceSampleSetFromFeatureBlock (block : SourceFeatureBlock) : Result SourceSampleSet := do
  block.block.validate
  pure ⟨block.sourceId, firstSeen [] block.block.sampleIds⟩

/-! ## Fusion -/

inductive OutputRow
  | reference (idx : Nat)
  | synthetic

/-- A row of the fused block. -/
structure FusedRow where
  observationId : ObservationId
  sampleId : SampleId
  values : List Json

/-- `synthetic_observation_id`. -/
def syntheticObservationId (sampleId : SampleId) : Result ObservationId :=
  Ident.new .observation s!"fused.{sampleId}"

section Fusion

variable (blocks : List SourceFeatureBlock) (alignment : SampleAlignmentPlan)
  (rowMaps : BTreeMap SourceId (BTreeMap SampleId (List Nat)))

/-- The checks of the blocks, with the sources that come before. -/
def checkFusedBlocks : List SourceId → List SourceFeatureBlock → Result Unit
  | _, [] => .ok ()
  | seen, block :: blocks => do
    rejectIf (seen.contains block.sourceId)
      (.validation s!"feature fusion contains duplicate source `{block.sourceId}`")
    block.block.validate
    checkFusedBlocks (block.sourceId :: seen) blocks

/-- The names of the columns of a block in the fused block. -/
def outputNames (policy : FeatureFusionPolicy) (block : SourceFeatureBlock) : List String :=
  block.block.featureNames.map fun featureName =>
    if policy.namespaceColumns then s!"{block.sourceId}.{featureName}" else featureName

/-- The rows of every sample in a source. -/
def sourceRows (sourceId : SourceId) : BTreeMap SampleId (List Nat) := (rowMaps[sourceId]?).getD ∅

/-- `validate_alignment_presence`. Every block has a mask: the fusion has checked that. -/
def validateAlignmentPresence (reference : SourceFeatureBlock) : Result Unit := do
  forM alignment.sampleIds.zipIdx fun entry => do
    rejectIf (alignment.mode == .left &&
        !(sourceRows rowMaps reference.sourceId).contains entry.1)
      (.validation s!"left alignment sample `{entry.1}` is absent from the reference source")
    rejectIf (!alignment.masks.any (·.presentAt entry.2))
      (.validation s!"alignment sample `{entry.1}` is absent from every fused source")
  forM blocks fun block =>
    whenSome (alignment.masks.find? (·.sourceId == block.sourceId)) fun mask =>
      forM (alignment.sampleIds.zip mask.present) fun entry =>
        let hasRows := (sourceRows rowMaps block.sourceId).contains entry.1
        rejectIf (entry.2 != hasRows)
          (.validation (s!"alignment presence for source `{block.sourceId}` sample " ++
            s!"`{entry.1}` is {entry.2} but feature block rows are " ++
            (if hasRows then "present" else "absent")))

/-- The rows of a sample: those of the reference, or else a synthetic one. -/
def outputRows (reference : SourceFeatureBlock) (sampleId : SampleId) : List OutputRow :=
  match (sourceRows rowMaps reference.sourceId)[sampleId]? with
  | some indices => indices.map .reference
  | none => [.synthetic]

/-- The cells of a source in an output row. -/
def sourceCells (reference : SourceFeatureBlock) (sampleId : SampleId) (outputRow : OutputRow)
    (block : SourceFeatureBlock) : Result (List Json) :=
  if block.sourceId = reference.sourceId then
    match outputRow with
    | .reference idx => .ok (block.block.valuesAt idx)
    | .synthetic => .ok block.block.nulls
  else
    match (sourceRows rowMaps block.sourceId)[sampleId]? with
    | some [idx] => .ok (block.block.valuesAt idx)
    | some indices => .error (.validation (s!"feature fusion cannot broadcast {indices.length} " ++
        s!"repeated rows from non-reference source `{block.sourceId}` for sample `{sampleId}`"))
    | none => .ok block.block.nulls

/-- The identity of an output row, and then its cells. -/
def fuseRow (reference : SourceFeatureBlock) (sampleId : SampleId) (outputRow : OutputRow) :
    Result FusedRow := do
  let observationId ← match outputRow with
    | .reference idx => pure (reference.block.observationAt idx)
    | .synthetic => syntheticObservationId sampleId
  let cells ← blocks.mapM (sourceCells rowMaps reference sampleId outputRow)
  pure ⟨observationId, sampleId, cells.flatten⟩

/-- `fuse_feature_blocks`. -/
def fuseFeatureBlocks (featureSetId : String) (policy : FeatureFusionPolicy) :
    Result CoordinatorFeatureBlock := do
  rejectIf (isBlank featureSetId) (.validation "fused feature set id is empty")
  match blocks with
  | [] => .error (.validation "feature fusion requires at least one source block")
  | reference :: others => do
    alignment.validate
    checkFusedBlocks [] blocks
    forM alignment.masks fun mask =>
      rejectIf (!(blocks.map (·.sourceId)).contains mask.sourceId)
        (.validation (s!"alignment mask references source `{mask.sourceId}` absent from feature " ++
          "fusion"))
    rejectIf (alignment.masks.length != blocks.length)
      (.validation "feature fusion sources and alignment masks differ")
    let representationId := reference.block.representationId
    forM others fun block =>
      rejectIf (block.block.representationId != representationId)
        (.validation (s!"feature fusion source `{block.sourceId}` representation " ++
          s!"`{block.block.representationId}` does not match `{representationId}`"))
    let featureNames := blocks.flatMap (outputNames policy)
    rejectRepeats (fun featureName => .validation
      s!"feature fusion produced duplicate feature `{featureName}`") featureNames
    let rowMaps := BTreeMap.collect (blocks.map fun block =>
      (block.sourceId, block.block.rowsBySample))
    validateAlignmentPresence blocks alignment rowMaps reference
    let rows ← alignment.sampleIds.mapM fun sampleId =>
      (outputRows rowMaps reference sampleId).mapM (fuseRow blocks rowMaps reference sampleId)
    let fused : CoordinatorFeatureBlock := {
      featureSetId := featureSetId
      representationId := representationId
      featureNames := featureNames
      observationIds := rows.flatten.map (·.observationId)
      sampleIds := rows.flatten.map (·.sampleId)
      values := rows.flatten.map (·.values) }
    fused.validate
    pure fused

end Fusion

/-! ## What the validator of blocks accepts -/

namespace CoordinatorFeatureBlock

variable {block : CoordinatorFeatureBlock}

/-- What `validate` accepts. -/
structure Valid (block : CoordinatorFeatureBlock) : Prop where
  featureSetId : isBlank block.featureSetId = false
  named : block.featureNames ≠ []
  samples : block.observationIds.length = block.sampleIds.length
  rows : block.sampleIds.length = block.values.length
  observationsNodup : block.observationIds.Nodup
  widths : ∀ values ∈ block.values, values.length = block.featureNames.length

theorem checkRows_eq_ok {seen : List ObservationId} {rows : List (ObservationId × List Json)}
    {u : Unit} : block.checkRows seen rows = .ok u ↔
      (∀ row ∈ rows, row.2.length = block.featureNames.length) ∧
        (rows.map (·.1)).Nodup ∧ ∀ row ∈ rows, row.1 ∉ seen := by
  refine seenLoop_eq_ok (fun _ => rfl) fun seen row rows => ?_
  simp only [checkRows, bind_eq_ok, rejectIf_eq_ok, exists_unit, List.contains_eq_mem,
    decide_eq_false_iff_not, bne_eq_false_iff_eq]
  exact and_left_comm

theorem validate_eq_ok {u : Unit} : block.validate = .ok u ↔ block.Valid := by
  simp only [validate, bind_eq_ok, rejectIf_eq_ok, exists_unit, List.isEmpty_eq_false_iff,
    Bool.or_eq_false_iff, bne_eq_false_iff_eq, checkRows_eq_ok, List.not_mem_nil,
    not_false_eq_true, implies_true, and_true]
  have hzip : block.observationIds.length = block.sampleIds.length →
      block.sampleIds.length = block.values.length →
      (block.observationIds.zip block.values).map (·.1) = block.observationIds ∧
        ∀ p : List Json → Prop, (∀ row ∈ block.observationIds.zip block.values, p row.2) ↔
          ∀ values ∈ block.values, p values := by
    intro hsamples hrows
    refine ⟨List.map_fst_zip (hsamples.trans hrows).le, fun p => ?_⟩
    rw [← List.forall_mem_map, List.map_snd_zip (hsamples.trans hrows).ge]
  constructor
  · rintro ⟨hid, hnamed, ⟨hsamples, hrows⟩, hwidths, hnodup⟩
    obtain ⟨hfst, hsnd⟩ := hzip hsamples hrows
    exact ⟨hid, hnamed, hsamples, hrows, hfst ▸ hnodup, (hsnd _).mp hwidths⟩
  · rintro ⟨hid, hnamed, hsamples, hrows, hnodup, hwidths⟩
    obtain ⟨hfst, hsnd⟩ := hzip hsamples hrows
    exact ⟨hid, hnamed, ⟨hsamples, hrows⟩, (hsnd _).mpr hwidths, hfst.symm ▸ hnodup⟩

/-- The rows of a sample, in the order of the block. -/
def rowsOf (block : CoordinatorFeatureBlock) (sampleId : SampleId) : List Nat :=
  (block.sampleIds.zipIdx.filter (·.1 = sampleId)).map (·.2)

theorem mem_rowsOf {sampleId : SampleId} {idx : Nat} :
    idx ∈ block.rowsOf sampleId ↔ block.sampleIds[idx]? = some sampleId := by
  simp [rowsOf, List.mk_mem_zipIdx_iff_getElem?]

theorem rowsOf_eq_nil {sampleId : SampleId} :
    block.rowsOf sampleId = [] ↔ sampleId ∉ block.sampleIds := by
  rw [List.eq_nil_iff_forall_not_mem]
  simp only [mem_rowsOf]
  rw [List.mem_iff_getElem?, not_exists]

/-- The rows of a sample are in ascending order. -/
theorem rowsOf_sorted (sampleId : SampleId) : (block.rowsOf sampleId).Pairwise (· < ·) := by
  unfold rowsOf
  have hsub : ((block.sampleIds.zipIdx.filter (·.1 = sampleId)).map (·.2)).Sublist
      (block.sampleIds.zipIdx.map (·.2)) := List.filter_sublist.map _
  refine List.Pairwise.sublist hsub ?_
  rw [List.zipIdx_map_snd]
  exact List.pairwise_lt_range'

theorem getElem?_rowsBySample {sampleId : SampleId} :
    block.rowsBySample[sampleId]? =
      if sampleId ∈ block.sampleIds then some (block.rowsOf sampleId) else none := by
  rw [rowsBySample, BTreeMap.getElem?_group]
  by_cases hmem : sampleId ∈ block.sampleIds
  · have hne : block.rowsOf sampleId ≠ [] := fun h => rowsOf_eq_nil.mp h hmem
    rw [if_pos hmem, if_neg ?_]
    · rfl
    · rw [List.isEmpty_iff]
      exact fun h => hne (by rw [rowsOf, h]; rfl)
  · have hnil : block.rowsOf sampleId = [] := rowsOf_eq_nil.mpr hmem
    rw [if_neg hmem, if_pos ?_]
    rw [List.isEmpty_iff]
    exact List.map_eq_nil_iff.mp hnil

theorem contains_rowsBySample {sampleId : SampleId} :
    block.rowsBySample.contains sampleId = decide (sampleId ∈ block.sampleIds) := by
  rw [Std.ExtTreeMap.contains_eq_isSome_getElem?, getElem?_rowsBySample]
  by_cases hmem : sampleId ∈ block.sampleIds
  · simp [hmem]
  · simp [hmem]

end CoordinatorFeatureBlock

/-! ## What the fusion computes -/

/-- The rows of a sample in the fused block: those of the reference, or else a synthetic one. -/
def alignedRows (reference : SourceFeatureBlock) (sampleId : SampleId) : List OutputRow :=
  if sampleId ∈ reference.block.sampleIds then
    (reference.block.rowsOf sampleId).map .reference
  else [.synthetic]

/-- Where the rows of the fused block come from, in their order. -/
def rowOrigins (reference : SourceFeatureBlock) (samples : List SampleId) :
    List (SampleId × OutputRow) :=
  samples.flatMap fun sampleId => (alignedRows reference sampleId).map (Prod.mk sampleId)

/-- The cells of a source in a row: those of the reference row, or those of the one row of the
sample, or nulls. -/
def CellsOf (reference : SourceFeatureBlock) (sampleId : SampleId) (row : OutputRow)
    (block : SourceFeatureBlock) (cells : List Json) : Prop :=
  if block.sourceId = reference.sourceId then
    match row with
    | .reference idx => block.block.values[idx]? = some cells
    | .synthetic => cells = block.block.nulls
  else
    (∃ idx, block.block.rowsOf sampleId = [idx] ∧ block.block.values[idx]? = some cells) ∨
      (block.block.rowsOf sampleId = [] ∧ cells = block.block.nulls)

/-- The row of the fused block that comes from an origin. -/
structure RowOf (blocks : List SourceFeatureBlock) (reference : SourceFeatureBlock)
    (sampleId : SampleId) (row : OutputRow) (fused : FusedRow) : Prop where
  sample : fused.sampleId = sampleId
  observation : match row with
    | .reference idx => reference.block.observationIds[idx]? = some fused.observationId
    | .synthetic => fused.observationId.value = "fused." ++ sampleId.value
  cells : ∃ parts, List.Forall₂ (CellsOf reference sampleId row) blocks parts ∧
    fused.values = parts.flatten

theorem mem_alignedRows {reference : SourceFeatureBlock} {sampleId : SampleId} {row : OutputRow} :
    row ∈ alignedRows reference sampleId ↔ match row with
      | .reference idx => reference.block.sampleIds[idx]? = some sampleId
      | .synthetic => sampleId ∉ reference.block.sampleIds := by
  unfold alignedRows
  by_cases hmem : sampleId ∈ reference.block.sampleIds
  · rw [if_pos hmem]
    cases row with
    | reference idx => simp [CoordinatorFeatureBlock.mem_rowsOf]
    | synthetic => simp [hmem]
  · rw [if_neg hmem]
    cases row with
    | reference idx =>
      simp only [List.mem_singleton, reduceCtorEq, false_iff]
      exact fun hget => hmem (List.mem_of_getElem? hget)
    | synthetic => simp [hmem]

section Rows

variable {blocks : List SourceFeatureBlock}
  {rowMaps : BTreeMap SourceId (BTreeMap SampleId (List Nat))}

/-- The rows of the blocks, by their source. -/
theorem sourceRows_collect (hsources : (blocks.map (·.sourceId)).Nodup)
    {block : SourceFeatureBlock}
    (hblock : block ∈ blocks) :
    sourceRows (BTreeMap.collect (blocks.map fun block =>
      (block.sourceId, block.block.rowsBySample))) block.sourceId = block.block.rowsBySample := by
  have hkeys : ((blocks.map fun block => (block.sourceId, block.block.rowsBySample)).map
      Prod.fst).Nodup := by
    rw [List.map_map]
    exact hsources
  rw [sourceRows, (BTreeMap.getElem?_collect_of_nodup hkeys).mpr
    (List.mem_map.mpr ⟨block, hblock, rfl⟩)]
  rfl

theorem outputRows_eq {reference : SourceFeatureBlock} (sampleId : SampleId)
    (hrows : sourceRows rowMaps reference.sourceId = reference.block.rowsBySample) :
    outputRows rowMaps reference sampleId = alignedRows reference sampleId := by
  unfold outputRows alignedRows
  rw [hrows, CoordinatorFeatureBlock.getElem?_rowsBySample]
  by_cases hmem : sampleId ∈ reference.block.sampleIds
  · rw [if_pos hmem, if_pos hmem]
  · rw [if_neg hmem, if_neg hmem]

theorem CoordinatorFeatureBlock.Valid.getElem?_values {block : CoordinatorFeatureBlock}
    (h : block.Valid) {idx : Nat} {sampleId : SampleId}
    (hget : block.sampleIds[idx]? = some sampleId)
    {cells : List Json} : block.values[idx]? = some cells ↔ block.valuesAt idx = cells := by
  have hlt : idx < block.values.length := h.rows ▸ (List.getElem?_eq_some_iff.mp hget).1
  rw [valuesAt, List.getD_eq_getElem?_getD, List.getElem?_eq_getElem hlt]
  simp

theorem CoordinatorFeatureBlock.Valid.getElem?_observationIds {block : CoordinatorFeatureBlock}
    (h : block.Valid) {idx : Nat} {sampleId : SampleId}
    (hget : block.sampleIds[idx]? = some sampleId)
    {o : ObservationId} : block.observationIds[idx]? = some o ↔ block.observationAt idx = o := by
  have hlt : idx < block.observationIds.length :=
    h.samples ▸ (List.getElem?_eq_some_iff.mp hget).1
  rw [observationAt, List.getD_eq_getElem?_getD, List.getElem?_eq_getElem hlt]
  simp

theorem sourceCells_eq_ok {reference block : SourceFeatureBlock} {sampleId : SampleId}
    {row : OutputRow} {cells : List Json}
    (hrow : row ∈ alignedRows reference sampleId)
    (hreference : block.sourceId = reference.sourceId →
      block = reference)
    (hrows : sourceRows rowMaps block.sourceId = block.block.rowsBySample)
    (hvalid : block.block.Valid) :
    sourceCells rowMaps reference sampleId row block = .ok cells ↔
      CellsOf reference sampleId row block cells := by
  unfold sourceCells CellsOf
  by_cases hsource : block.sourceId = reference.sourceId
  · rw [if_pos hsource, if_pos hsource]
    cases hreference hsource
    cases row with
    | reference idx =>
      simp only [Except.ok.injEq]
      exact (hvalid.getElem?_values (mem_alignedRows.mp hrow)).symm
    | synthetic => simp only [Except.ok.injEq, eq_comm]
  · rw [if_neg hsource, if_neg hsource, hrows, CoordinatorFeatureBlock.getElem?_rowsBySample]
    by_cases hmem : sampleId ∈ block.block.sampleIds
    · rw [if_pos hmem]
      have hne := CoordinatorFeatureBlock.rowsOf_eq_nil.not.mpr (not_not.mpr hmem)
      have hfirst : ∀ idx ∈ block.block.rowsOf sampleId, block.block.sampleIds[idx]? =
          some sampleId := fun idx => CoordinatorFeatureBlock.mem_rowsOf.mp
      generalize block.block.rowsOf sampleId = indices at hne hfirst
      match indices with
      | [] => exact absurd rfl hne
      | [idx] =>
        simp only [Except.ok.injEq, List.cons.injEq, and_true, exists_eq_left', reduceCtorEq,
          false_and, or_false]
        exact (hvalid.getElem?_values (hfirst idx List.mem_cons_self)).symm
      | _ :: _ :: _ => simp
    · rw [if_neg hmem]
      have hnil := CoordinatorFeatureBlock.rowsOf_eq_nil.mpr hmem
      simp only [hnil, Except.ok.injEq, reduceCtorEq, false_and, exists_false, true_and, false_or,
        eq_comm]

/-- A row is fused exactly when it has an identity, and every source has cells for it. -/
theorem fuseRow_eq_ok {reference : SourceFeatureBlock} {sampleId : SampleId} {row : OutputRow}
    {fused : FusedRow} (hrow : row ∈ alignedRows reference sampleId) (hmem : reference ∈ blocks)
    (hsources : (blocks.map (·.sourceId)).Nodup)
    (hrows : ∀ block ∈ blocks, sourceRows rowMaps block.sourceId = block.block.rowsBySample)
    (hvalid : ∀ block ∈ blocks, block.block.Valid) :
    fuseRow blocks rowMaps reference sampleId row = .ok fused ↔
      RowOf blocks reference sampleId row fused := by
  have hcells : ∀ parts, blocks.mapM (sourceCells rowMaps reference sampleId row) = .ok parts ↔
      List.Forall₂ (CellsOf reference sampleId row) blocks parts := by
    intro parts
    rw [mapM_eq_ok]
    refine forall₂_congr_left fun block hblock cells => ?_
    refine sourceCells_eq_ok hrow (fun heq => ?_) (hrows block hblock) (hvalid block hblock)
    exact List.inj_on_of_nodup_map hsources hblock hmem heq
  obtain ⟨observationId, sample, values⟩ := fused
  cases row with
  | reference idx =>
    have hobservation := (hvalid reference hmem).getElem?_observationIds (mem_alignedRows.mp hrow)
      (o := observationId)
    simp only [fuseRow, bind_eq_ok, pure_eq_ok, hcells, exists_eq_left', FusedRow.mk.injEq]
    constructor
    · rintro ⟨parts, hparts, hid, rfl, rfl⟩
      exact ⟨rfl, hobservation.mpr hid, parts, hparts, rfl⟩
    · rintro ⟨hsample, hid, parts, hparts, hvalues⟩
      exact ⟨parts, hparts, hobservation.mp hid, hsample.symm, hvalues.symm⟩
  | synthetic =>
    simp only [fuseRow, syntheticObservationId, bind_eq_ok, Ident.new_eq_ok, pure_eq_ok, hcells,
      FusedRow.mk.injEq]
    constructor
    · rintro ⟨_, hid, parts, hparts, rfl, rfl, rfl⟩
      exact ⟨rfl, hid, parts, hparts, rfl⟩
    · rintro ⟨hsample, hid, parts, hparts, hvalues⟩
      exact ⟨observationId, hid, parts, hparts, rfl, hsample.symm, hvalues.symm⟩

end Rows

/-! ## When a fusion is accepted -/

theorem checkFusedBlocks_eq_ok {seen : List SourceId}
    {blocks : List SourceFeatureBlock} {u : Unit} :
    checkFusedBlocks seen blocks = .ok u ↔
      (∀ block ∈ blocks, block.block.Valid) ∧ (blocks.map (·.sourceId)).Nodup ∧
        ∀ block ∈ blocks, block.sourceId ∉ seen := by
  refine seenLoop_eq_ok (fun _ => rfl) fun seen block blocks => ?_
  simp only [checkFusedBlocks, bind_eq_ok, exists_unit, rejectIf_eq_ok,
    CoordinatorFeatureBlock.validate_eq_ok, List.contains_eq_mem, decide_eq_false_iff_not]
  exact and_left_comm

/-- What the fusion checks of its sources before it looks at rows. -/
structure Fusible (reference : SourceFeatureBlock) (others : List SourceFeatureBlock)
    (alignment : SampleAlignmentPlan) (featureSetId : String) (policy : FeatureFusionPolicy) :
    Prop where
  featureSetId : isBlank featureSetId = false
  aligned : alignment.Valid
  blocks : ∀ block ∈ reference :: others, block.block.Valid
  sources : ((reference :: others).map (·.sourceId)).Nodup
  masks : ∀ mask ∈ alignment.masks, mask.sourceId ∈ (reference :: others).map (·.sourceId)
  count : alignment.masks.length = (reference :: others).length
  representation : ∀ block ∈ others,
    block.block.representationId = reference.block.representationId
  names : ((reference :: others).flatMap (outputNames policy)).Nodup

/-- The masks agree with the rows of the blocks. -/
structure Presence (reference : SourceFeatureBlock) (others : List SourceFeatureBlock)
    (alignment : SampleAlignmentPlan) : Prop where
  left : alignment.mode = .left → ∀ s ∈ alignment.sampleIds, s ∈ reference.block.sampleIds
  masks : ∀ block ∈ reference :: others, ∀ mask,
    alignment.masks.find? (·.sourceId == block.sourceId) = some mask →
    ∀ entry ∈ alignment.sampleIds.zip mask.present,
      entry.2 = decide (entry.1 ∈ block.block.sampleIds)

/-- The block of fused rows. -/
def fusedBlock (reference : SourceFeatureBlock) (others : List SourceFeatureBlock)
    (featureSetId : String) (policy : FeatureFusionPolicy) (rows : List FusedRow) :
    CoordinatorFeatureBlock where
  featureSetId := featureSetId
  representationId := reference.block.representationId
  featureNames := (reference :: others).flatMap (outputNames policy)
  observationIds := rows.map (·.observationId)
  sampleIds := rows.map (·.sampleId)
  values := rows.map (·.values)

section Accepted

variable {reference : SourceFeatureBlock} {others : List SourceFeatureBlock}
  {alignment : SampleAlignmentPlan} {featureSetId : String} {policy : FeatureFusionPolicy}

theorem validateAlignmentPresence_eq_ok (hvalid : alignment.Valid)
    (hsources : ((reference :: others).map (·.sourceId)).Nodup) {u : Unit} :
    validateAlignmentPresence (reference :: others) alignment
        (BTreeMap.collect ((reference :: others).map fun block =>
          (block.sourceId, block.block.rowsBySample))) reference = .ok u ↔
      Presence reference others alignment := by
  have hplace : ∀ entry ∈ alignment.sampleIds.zipIdx,
      alignment.masks.any (·.presentAt entry.2) = true := by
    intro entry hentry
    have hget := List.mk_mem_zipIdx_iff_getElem?.mp hentry
    exact (hvalid.present entry.2 (List.getElem?_eq_some_iff.mp hget).1).1
  have hcontains : ∀ block ∈ reference :: others, ∀ s,
      (sourceRows (BTreeMap.collect ((reference :: others).map fun block =>
        (block.sourceId, block.block.rowsBySample))) block.sourceId).contains s =
          decide (s ∈ block.block.sampleIds) := by
    intro block hblock s
    rw [sourceRows_collect hsources hblock, CoordinatorFeatureBlock.contains_rowsBySample]
  simp only [validateAlignmentPresence, bind_eq_ok, exists_unit, forM_eq_ok, rejectIf_eq_ok,
    whenSome_eq_ok, hcontains reference List.mem_cons_self, Bool.and_eq_false_iff,
    beq_eq_false_iff_ne, Bool.not_eq_false', bne_eq_false_iff_eq]
  constructor
  · rintro ⟨hleft, hmasks⟩
    refine ⟨fun hmode s hs => ?_, fun block hblock mask hmask entry hentry => ?_⟩
    · obtain ⟨idx, hidx⟩ := List.mem_iff_getElem?.mp hs
      have hs' := (hleft (s, idx) (List.mk_mem_zipIdx_iff_getElem?.mpr hidx)).1.resolve_left
        fun hne => hne hmode
      exact of_decide_eq_true hs'
    · rw [← hcontains block hblock]
      exact hmasks block hblock mask hmask entry hentry
  · rintro ⟨hleft, hmasks⟩
    refine ⟨fun entry hentry => ⟨?_, hplace entry hentry⟩,
      fun block hblock mask hmask entry hentry => ?_⟩
    · by_cases hmode : alignment.mode = .left
      · have hget := List.mk_mem_zipIdx_iff_getElem?.mp hentry
        exact .inr (decide_eq_true (hleft hmode entry.1 (List.mem_of_getElem? hget)))
      · exact .inl hmode
    · rw [hcontains block hblock]
      exact hmasks block hblock mask hmask entry hentry

/-- The loops over the samples and their rows give one row for each origin. -/
theorem fuseRows_eq_ok (hblocks : ∀ block ∈ reference :: others, block.block.Valid)
    (hsources : ((reference :: others).map (·.sourceId)).Nodup) {samples : List SampleId}
    {rows : List FusedRow} :
    let rowMaps := BTreeMap.collect ((reference :: others).map fun block =>
      (block.sourceId, block.block.rowsBySample))
    (∃ groups, samples.mapM (fun s => (outputRows rowMaps reference s).mapM
        (fuseRow (reference :: others) rowMaps reference s)) = .ok groups ∧
        rows = groups.flatten) ↔
      List.Forall₂ (fun origin row => RowOf (reference :: others) reference origin.1 origin.2 row)
        (rowOrigins reference samples) rows := by
  intro rowMaps
  have hrows : ∀ block ∈ reference :: others,
      sourceRows rowMaps block.sourceId = block.block.rowsBySample := fun block hblock =>
    sourceRows_collect hsources hblock
  have horigins : (fun s => (outputRows rowMaps reference s).map (Prod.mk s)) =
      fun s => (alignedRows reference s).map (Prod.mk s) := by
    funext s
    rw [outputRows_eq s (hrows reference List.mem_cons_self)]
  rw [mapM_mapM_eq_ok, horigins]
  refine forall₂_congr_left fun origin horigin row => ?_
  obtain ⟨s, _, hmem⟩ := List.mem_flatMap.mp horigin
  obtain ⟨output, houtput, rfl⟩ := List.mem_map.mp hmem
  exact fuseRow_eq_ok houtput List.mem_cons_self hsources hrows hblocks

/-- The fusion is accepted exactly when its sources are fusible, the masks agree with the rows, and
every row has its identity and cells. -/
theorem fuseFeatureBlocks_eq_ok {fused : CoordinatorFeatureBlock} :
    fuseFeatureBlocks (reference :: others) alignment featureSetId policy = .ok fused ↔
      Fusible reference others alignment featureSetId policy ∧
      Presence reference others alignment ∧ ∃ rows,
        List.Forall₂ (fun origin row => RowOf
          (reference :: others) reference origin.1 origin.2 row)
          (rowOrigins reference alignment.sampleIds) rows ∧
        fused = fusedBlock reference others featureSetId policy rows ∧ fused.Valid := by
  simp only [fuseFeatureBlocks, bind_eq_ok, exists_unit, rejectIf_eq_ok, forM_eq_ok,
    SampleAlignmentPlan.validate_eq_ok, checkFusedBlocks_eq_ok, rejectRepeats_eq_ok, pure_eq_ok,
    List.contains_eq_mem, Bool.not_eq_false', decide_eq_true_eq, bne_eq_false_iff_eq,
    List.not_mem_nil, not_false_eq_true, implies_true, and_true,
    CoordinatorFeatureBlock.validate_eq_ok]
  constructor
  · rintro ⟨hid, haligned, ⟨hblocks, hsources⟩, hmasks, hcount, hrep,
      hnames, hpresence, groups,
      hgroups, hvalid, rfl⟩
    refine ⟨⟨hid, haligned, hblocks, hsources, hmasks, hcount, hrep, hnames⟩,
      (validateAlignmentPresence_eq_ok haligned hsources).mp hpresence, groups.flatten, ?_, rfl,
      hvalid⟩
    exact (fuseRows_eq_ok hblocks hsources).mp ⟨groups, hgroups, rfl⟩
  · rintro ⟨⟨hid, haligned, hblocks, hsources, hmasks, hcount, hrep, hnames⟩,
      hpresence, rows,
      hrows, rfl, hvalid⟩
    obtain ⟨groups, hgroups, rfl⟩ := (fuseRows_eq_ok hblocks hsources).mpr hrows
    exact ⟨hid, haligned, ⟨hblocks, hsources⟩, hmasks, hcount, hrep, hnames,
      (validateAlignmentPresence_eq_ok haligned hsources).mpr hpresence, groups, hgroups, hvalid,
      rfl⟩

end Accepted

end DagMlData
