import DagMlData.Fusion

/-!
# Fusion is a join on samples

`fuseFeatureBlocks_joins`: a fused block has the rows of the reference, in the order of the
alignment and then of the reference, and a synthetic row for every other sample; each row has the
cells of every source for its sample. `fuse_built_fails_iff`: over a plan that was built of the same
blocks the fusion fails for the reasons of `FusionFails` only.
-/

namespace DagMlData

open Guard RustText

/-! ## Origins -/

/-- One row comes before the other: its sample does, or it is an earlier reference row of the same
sample. -/
def RowBefore (samples : List SampleId) (a b : SampleId × OutputRow) : Prop :=
  samples.idxOf a.1 < samples.idxOf b.1 ∨
    a.1 = b.1 ∧ ∃ i j, a.2 = .reference i ∧ b.2 = .reference j ∧ i < j

theorem RowBefore.ne {samples : List SampleId} {a b : SampleId × OutputRow}
    (h : RowBefore samples a b) : a ≠ b := by
  rintro rfl
  rcases h with hlt | ⟨_, i, j, hi, hj, hlt⟩
  · exact lt_irrefl _ hlt
  · cases hi.symm.trans hj
    exact lt_irrefl _ hlt

theorem mem_rowOrigins {reference : SourceFeatureBlock} {samples : List SampleId} {s : SampleId}
    {row : OutputRow} :
    (s, row) ∈ rowOrigins reference samples ↔ s ∈ samples ∧
      row ∈ alignedRows reference s := by
  simp only [rowOrigins, List.mem_flatMap, List.mem_map, Prod.mk.injEq]
  constructor
  · rintro ⟨s, hs, row, hrow, rfl, rfl⟩
    exact ⟨hs, hrow⟩
  · rintro ⟨hs, hrow⟩
    exact ⟨s, hs, row, hrow, rfl, rfl⟩

/-- Every aligned sample has a row. -/
theorem exists_alignedRow (reference : SourceFeatureBlock) (s : SampleId) :
    ∃ row, row ∈ alignedRows reference s := by
  by_cases hmem : s ∈ reference.block.sampleIds
  · obtain ⟨idx, hidx⟩ := List.mem_iff_getElem?.mp hmem
    exact ⟨.reference idx, mem_alignedRows.mpr hidx⟩
  · exact ⟨.synthetic, mem_alignedRows.mpr hmem⟩

/-- The rows of one sample are in the order of the reference. -/
theorem alignedRows_ordered (samples : List SampleId) (reference : SourceFeatureBlock)
    (s : SampleId) :
    ((alignedRows reference s).map (Prod.mk s)).Pairwise (RowBefore samples) := by
  unfold alignedRows
  split
  · rw [List.map_map, List.pairwise_map]
    exact (CoordinatorFeatureBlock.rowsOf_sorted s).imp fun hlt =>
      .inr ⟨rfl, _, _, rfl, rfl, hlt⟩
  · exact List.pairwise_singleton _ _

theorem rowOrigins_ordered {reference : SourceFeatureBlock} {samples : List SampleId}
    (hnodup : samples.Nodup) :
    (rowOrigins reference samples).Pairwise (RowBefore samples) := by
  unfold rowOrigins
  rw [List.pairwise_flatMap]
  refine ⟨fun s _ => alignedRows_ordered samples reference s, ?_⟩
  refine (List.pairwise_iff_getElem.mpr fun i j hi hj hij => ?_)
  intro a ha b hb
  obtain ⟨_, _, rfl⟩ := List.mem_map.mp ha
  obtain ⟨_, _, rfl⟩ := List.mem_map.mp hb
  left
  show samples.idxOf samples[i] < samples.idxOf samples[j]
  rw [hnodup.idxOf_getElem i hi, hnodup.idxOf_getElem j hj]
  exact hij

/-! ## The fused block -/

/-- The fused block as a join: where its rows come from, and what they hold. -/
structure Joins (reference : SourceFeatureBlock) (others : List SourceFeatureBlock)
    (alignment : SampleAlignmentPlan) (policy : FeatureFusionPolicy)
    (origins : List (SampleId × OutputRow)) (rows : List FusedRow)
    (fused : CoordinatorFeatureBlock) : Prop where
  /-- Every reference row of an aligned sample, and a synthetic row for the samples without any. -/
  complete : ∀ s row, (s, row) ∈ origins ↔ s ∈ alignment.sampleIds ∧ match row with
    | .reference idx => reference.block.sampleIds[idx]? = some s
    | .synthetic => s ∉ reference.block.sampleIds
  /-- Each of them once, in the order of the alignment and then of the reference. -/
  order : origins.Pairwise (RowBefore alignment.sampleIds)
  held : List.Forall₂ (fun origin row => RowOf
    (reference :: others) reference origin.1 origin.2 row)
    origins rows
  observationIds : fused.observationIds = rows.map (·.observationId)
  sampleIds : fused.sampleIds = rows.map (·.sampleId)
  values : fused.values = rows.map (·.values)
  featureNames : fused.featureNames = (reference :: others).flatMap (outputNames policy)
  namesNodup : fused.featureNames.Nodup
  observationsNodup : fused.observationIds.Nodup

variable {reference : SourceFeatureBlock} {others : List SourceFeatureBlock}
  {alignment : SampleAlignmentPlan} {featureSetId : String} {policy : FeatureFusionPolicy}
  {fused : CoordinatorFeatureBlock}

/-- An accepted fusion is a join on the samples of the alignment. -/
theorem fuseFeatureBlocks_joins {blocks : List SourceFeatureBlock}
    (h : fuseFeatureBlocks blocks alignment featureSetId policy = .ok fused) :
    ∃ reference others, blocks = reference :: others ∧
      ∃ origins rows, Joins reference others alignment policy origins rows fused := by
  cases blocks with
  | nil =>
    simp only [fuseFeatureBlocks, bind_eq_ok, reduceCtorEq, and_false, exists_false] at h
  | cons reference others =>
    obtain ⟨hfusible, -, rows, hrows, rfl, hvalid⟩ := fuseFeatureBlocks_eq_ok.mp h
    refine ⟨reference, others, rfl, rowOrigins reference alignment.sampleIds, rows, ?_⟩
    exact
      { complete := fun s row => by
          refine (mem_rowOrigins.trans (and_congr_right' mem_alignedRows)).trans ?_
          cases row with
          | reference idx => exact Iff.rfl
          | synthetic => exact Iff.rfl
        order := rowOrigins_ordered hfusible.aligned.samplesNodup
        held := hrows
        observationIds := rfl
        sampleIds := rfl
        values := rfl
        featureNames := rfl
        namesNodup := hfusible.names
        observationsNodup := hvalid.observationsNodup }

/-- Every sample of the alignment, and no other, has a row. -/
theorem Joins.mem_sampleIds {origins : List (SampleId × OutputRow)} {rows : List FusedRow}
    (h : Joins reference others alignment policy origins rows fused) {s : SampleId} :
    s ∈ fused.sampleIds ↔ s ∈ alignment.sampleIds := by
  rw [h.sampleIds, List.mem_map]
  constructor
  · rintro ⟨row, hrow, rfl⟩
    obtain ⟨⟨s, output⟩, horigin, hof⟩ := exists_left_of_forall₂ h.held hrow
    rw [hof.sample]
    exact ((h.complete s output).mp horigin).1
  · intro hs
    obtain ⟨output, houtput⟩ := exists_alignedRow reference s
    obtain ⟨row, hrow, hof⟩ := exists_right_of_forall₂ h.held
      ((h.complete s output).mpr ⟨hs, mem_alignedRows.mp houtput⟩)
    exact ⟨row, hrow, hof.sample⟩

/-! ## Why a fusion fails -/

/-- Why a fusion over a plan of its own blocks fails. -/
inductive FusionFails (reference : SourceFeatureBlock) (others : List SourceFeatureBlock)
    (alignment : SampleAlignmentPlan) (featureSetId : String) (policy : FeatureFusionPolicy) : Prop
  /-- The id of the fused features is blank. -/
  | blank : isBlank featureSetId = true →
      FusionFails reference others alignment featureSetId policy
  /-- A source has another representation than the reference. -/
  | representation (block : SourceFeatureBlock) : block ∈ others →
      block.block.representationId ≠ reference.block.representationId →
      FusionFails reference others alignment featureSetId policy
  /-- Two columns would have one name. -/
  | columns : ¬ ((reference :: others).flatMap (outputNames policy)).Nodup →
      FusionFails reference others alignment featureSetId policy
  /-- A source that is not the reference has several rows of an aligned sample. -/
  | repeated (block : SourceFeatureBlock) (s : SampleId) : block ∈ others →
      s ∈ alignment.sampleIds → 1 < (block.block.rowsOf s).length →
      FusionFails reference others alignment featureSetId policy
  /-- The id of a synthetic row would be too long. -/
  | long (s : SampleId) : s ∈ alignment.sampleIds → s ∉ reference.block.sampleIds →
      128 < ("fused." ++ s.value).utf8ByteSize →
      FusionFails reference others alignment featureSetId policy
  /-- The id of a synthetic row is that of a reference row. -/
  | taken (s s' : SampleId) (idx : Nat) (o : ObservationId) : s ∈ alignment.sampleIds →
      s ∉ reference.block.sampleIds → s' ∈ alignment.sampleIds →
      reference.block.sampleIds[idx]? = some s' →
        reference.block.observationIds[idx]? = some o →
      o.value = "fused." ++ s.value →
      FusionFails reference others alignment featureSetId policy

/-- Some cells of a source in a row, unless a sample is repeated. -/
theorem exists_cells {block : SourceFeatureBlock} {s : SampleId} {row : OutputRow}
    (hrow : row ∈ alignedRows reference s) (hblock : block.block.Valid)
    (hsource : block.sourceId = reference.sourceId → block = reference)
    (honce : block.sourceId ≠ reference.sourceId → (block.block.rowsOf s).length ≤ 1) :
    ∃ cells, CellsOf reference s row block cells := by
  have hvalues : ∀ idx : Nat, block.block.sampleIds[idx]? = some s →
      ∃ cells, block.block.values[idx]? = some cells := by
    intro idx hget
    exact ⟨_, (hblock.getElem?_values hget).mpr rfl⟩
  by_cases hsame : block.sourceId = reference.sourceId
  · simp only [CellsOf, if_pos hsame]
    cases hsource hsame
    cases row with
    | reference idx => exact hvalues idx (mem_alignedRows.mp hrow)
    | synthetic => exact ⟨_, rfl⟩
  · simp only [CellsOf, if_neg hsame]
    have hlength := honce hsame
    cases hrows : block.block.rowsOf s with
    | nil => exact ⟨_, .inr ⟨rfl, rfl⟩⟩
    | cons idx rest =>
      rw [hrows, List.length_cons] at hlength
      have hrest : rest = [] := List.length_eq_zero_iff.mp (by omega)
      have hget := CoordinatorFeatureBlock.mem_rowsOf.mp
        (hrows ▸ List.mem_cons_self : idx ∈ block.block.rowsOf s)
      obtain ⟨cells, hcells⟩ := hvalues idx hget
      exact ⟨cells, .inl ⟨idx, by rw [hrest], hcells⟩⟩

/-- Cells are as many as the features of their source. -/
theorem CellsOf.length_eq {block : SourceFeatureBlock} {s : SampleId} {row : OutputRow}
    {cells : List Json} (h : CellsOf reference s row block cells) (hblock : block.block.Valid) :
    cells.length = block.block.featureNames.length := by
  have hwidth : ∀ idx : Nat, block.block.values[idx]? = some cells →
      cells.length = block.block.featureNames.length := fun idx hget =>
    hblock.widths cells (List.mem_of_getElem? hget)
  have hnulls : cells = block.block.nulls →
      cells.length = block.block.featureNames.length := by
    rintro rfl
    exact List.length_replicate
  unfold CellsOf at h
  split at h
  · cases row with
    | reference idx => exact hwidth idx h
    | synthetic => exact hnulls h
  · rcases h with ⟨idx, -, hget⟩ | ⟨-, hcells⟩
    · exact hwidth idx hget
    · exact hnulls hcells

theorem RowOf.length_values {blocks : List SourceFeatureBlock} {s : SampleId} {row : OutputRow}
    {fusedRow : FusedRow} (h : RowOf blocks reference s row fusedRow)
    (hblocks : ∀ block ∈ blocks, block.block.Valid) :
    fusedRow.values.length = (blocks.flatMap (outputNames policy)).length := by
  obtain ⟨-, -, parts, hparts, heq⟩ := h
  rw [heq, List.length_flatten, List.length_flatMap]
  clear heq
  congr 1
  induction hparts with
  | nil => rfl
  | @cons block cells blocks parts hcells _ ih =>
    rw [List.map_cons, List.map_cons, ih fun b hb => hblocks b (List.mem_cons_of_mem block hb),
      hcells.length_eq (hblocks block List.mem_cons_self), outputNames, List.length_map]

/-! ## Fusion over a plan of the same blocks -/

/-- The samples of a block. -/
def sampleSet (block : SourceFeatureBlock) : SourceSampleSet :=
  ⟨block.sourceId, firstSeen [] block.block.sampleIds⟩

theorem mem_sampleSet {block : SourceFeatureBlock} {s : SampleId} :
    s ∈ (sampleSet block).sampleIds ↔ s ∈ block.block.sampleIds := by
  rw [sampleSet, mem_firstSeen]
  simp

theorem sampleSets_eq_ok {blocks : List SourceFeatureBlock} {sets : List SourceSampleSet}
    (h : blocks.mapM sourceSampleSetFromFeatureBlock = .ok sets) :
    (∀ block ∈ blocks, block.block.Valid) ∧ sets = blocks.map sampleSet := by
  rw [mapM_eq_ok] at h
  induction h with
  | nil => exact ⟨by simp, rfl⟩
  | @cons block set blocks sets hset _ ih =>
    simp only [sourceSampleSetFromFeatureBlock, bind_eq_ok, exists_unit, pure_eq_ok,
      CoordinatorFeatureBlock.validate_eq_ok] at hset
    obtain ⟨hvalid, rfl⟩ := hset
    exact ⟨List.forall_mem_cons.mpr ⟨hvalid, ih.1⟩, by rw [ih.2]; rfl⟩

/-- The plan was built of the sample sets of the blocks. -/
structure BuiltOf (reference : SourceFeatureBlock) (others : List SourceFeatureBlock)
    (mode : AlignmentMode) (alignment : SampleAlignmentPlan) : Prop where
  blocks : ∀ block ∈ reference :: others, block.block.Valid
  sources : ((reference :: others).map (·.sourceId)).Nodup
  aligned : alignment.Valid
  plan : alignment = builtPlan ((reference :: others).map sampleSet) mode

/-- The masks of such a plan agree with the rows of the blocks. -/
theorem BuiltOf.presence {mode : AlignmentMode} (h : BuiltOf reference others mode alignment) :
    Presence reference others alignment := by
  refine ⟨fun hmode s hs => ?_, fun block hblock mask hmask entry hentry => ?_⟩
  · rw [h.plan] at hmode hs
    have hmode' : mode = .left := hmode
    subst hmode'
    exact mem_sampleSet.mp hs
  · have hmem := List.mem_of_find?_eq_some hmask
    have hsource : mask.sourceId = block.sourceId := by
      have hfound := List.find?_some hmask
      exact beq_iff_eq.mp hfound
    rw [h.plan] at hmem hentry
    obtain ⟨set, hset, rfl⟩ := List.mem_map.mp hmem
    obtain ⟨other, hother, rfl⟩ := List.mem_map.mp hset
    -- The masks have distinct sources, so this one is the mask of the block.
    have hsame : other = block := List.inj_on_of_nodup_map h.sources hother hblock hsource
    subst hsame
    have hzip : (builtPlan ((reference :: others).map sampleSet) mode).sampleIds.zip
        ((alignedSamples ((reference :: others).map sampleSet) mode).map
          fun s => (sampleSet other).sampleIds.contains s) =
        (alignedSamples ((reference :: others).map sampleSet) mode).map
          fun s => (s, (sampleSet other).sampleIds.contains s) := by
      conv_lhs => rw [← List.map_id (builtPlan _ mode).sampleIds]
      exact List.zip_map'
    obtain ⟨s, -, rfl⟩ := List.mem_map.mp (hzip ▸ hentry)
    show (sampleSet other).sampleIds.contains s = decide (s ∈ other.block.sampleIds)
    rw [Bool.eq_iff_iff, List.contains_iff_mem, decide_eq_true_iff, mem_sampleSet]

/-- Over such a plan the sources are fusible when the id, the representations and the names are
right. -/
theorem BuiltOf.fusible {mode : AlignmentMode} (h : BuiltOf reference others mode alignment)
    (hid : isBlank featureSetId = false)
    (hrepresentation : ∀ block ∈ others,
      block.block.representationId = reference.block.representationId)
    (hnames : ((reference :: others).flatMap (outputNames policy)).Nodup) :
    Fusible reference others alignment featureSetId policy := by
  refine ⟨hid, h.aligned, h.blocks, h.sources, fun mask hmask => ?_, ?_,
    hrepresentation, hnames⟩
  · rw [h.plan] at hmask
    obtain ⟨set, hset, rfl⟩ := List.mem_map.mp hmask
    obtain ⟨block, hblock, rfl⟩ := List.mem_map.mp hset
    exact List.mem_map.mpr ⟨block, hblock, rfl⟩
  · rw [h.plan]
    simp [builtPlan]

/-- The id of a synthetic row that is not too long. -/
theorem exists_synthetic {s : SampleId} (h : ("fused." ++ s.value).utf8ByteSize ≤ 128) :
    ∃ o : ObservationId, o.value = "fused." ++ s.value := by
  have hvalid := validateIdentifier_eq_ok.mp s.valid
  refine ⟨⟨"fused." ++ s.value, ?_⟩, rfl⟩
  refine validateIdentifier_eq_ok.mpr ⟨?_, h, ?_⟩
  · rw [String.utf8ByteSize_append]
    exact Nat.add_pos_left (by decide) _
  · rw [bytes_append, List.all_append, hvalid.2.2, Bool.and_true]
    decide

/-- Over such a plan every origin has a row, unless the fusion fails for one of the reasons. -/
theorem BuiltOf.exists_row {mode : AlignmentMode} (h : BuiltOf reference others mode alignment)
    (hfails : ¬ FusionFails reference others alignment featureSetId policy) {s : SampleId}
    (hs : s ∈ alignment.sampleIds) {output : OutputRow}
    (houtput : output ∈ alignedRows reference s) :
    ∃ row, RowOf (reference :: others) reference s output row := by
  have hparts : ∃ parts, List.Forall₂ (CellsOf reference s output)
    (reference :: others) parts := by
    refine exists_forall₂ fun block hblock => ?_
    refine exists_cells houtput (h.blocks block hblock) (fun hsource => ?_) fun hsource => ?_
    · exact List.inj_on_of_nodup_map h.sources hblock List.mem_cons_self hsource
    · by_contra hlong
      rcases List.mem_cons.mp hblock with rfl | hother
      · exact hsource rfl
      · exact hfails (.repeated block s hother hs (not_le.mp hlong))
  obtain ⟨parts, hparts⟩ := hparts
  cases output with
  | reference idx =>
    have hget := mem_alignedRows.mp houtput
    have hreference := h.blocks reference List.mem_cons_self
    exact ⟨⟨reference.block.observationAt idx, s, parts.flatten⟩, rfl,
      (hreference.getElem?_observationIds hget).mpr rfl, parts, hparts, rfl⟩
  | synthetic =>
    have hlength : ("fused." ++ s.value).utf8ByteSize ≤ 128 := by
      by_contra hlong
      exact hfails (.long s hs (mem_alignedRows.mp houtput) (not_le.mp hlong))
    obtain ⟨o, ho⟩ := exists_synthetic hlength
    exact ⟨⟨o, s, parts.flatten⟩, rfl, ho, parts, hparts, rfl⟩

/-- Two rows with one observation come from one origin, unless the id of a synthetic row is
taken. -/
theorem origin_eq_of_observation
    (hreference : reference.block.Valid)
    (hfails : ¬ FusionFails reference others alignment featureSetId policy)
    {a b : SampleId × OutputRow} (ha : a ∈ rowOrigins reference alignment.sampleIds)
    (hb : b ∈ rowOrigins reference alignment.sampleIds) {x y : FusedRow}
    (hx : RowOf (reference :: others) reference a.1 a.2 x)
    (hy : RowOf (reference :: others) reference b.1 b.2 y)
    (heq : x.observationId = y.observationId) : a = b := by
  obtain ⟨s, output⟩ := a
  obtain ⟨s', output'⟩ := b
  obtain ⟨hs, houtput⟩ := mem_rowOrigins.mp ha
  obtain ⟨hs', houtput'⟩ := mem_rowOrigins.mp hb
  have hget := mem_alignedRows.mp houtput
  have hget' := mem_alignedRows.mp houtput'
  have hox := hx.observation
  have hoy := hy.observation
  rw [← heq] at hoy
  cases output with
  | reference idx =>
    cases output' with
    | reference idx' =>
      obtain ⟨hlt, hidx⟩ := List.getElem?_eq_some_iff.mp hox
      have hidx' : idx = idx' :=
        (List.getElem?_inj hlt hreference.observationsNodup).mp (hox.trans hoy.symm)
      subst hidx'
      cases hget.symm.trans hget'
      rfl
    | synthetic => exact absurd (.taken s' s idx _ hs' hget' hs hget hox hoy) hfails
  | synthetic =>
    cases output' with
    | reference idx' => exact absurd (.taken s s' idx' _ hs hget hs' hget' hoy hox) hfails
    | synthetic =>
      have hsame : s.value = s'.value := by
        simpa using hox.symm.trans hoy
      cases Ident.ext_value hsame
      rfl

/-- Over such a plan the fusion is accepted, unless it fails for one of the reasons. -/
theorem BuiltOf.accepted {mode : AlignmentMode} (h : BuiltOf reference others mode alignment)
    (hfails : ¬ FusionFails reference others alignment featureSetId policy) :
    ∃ fused, fuseFeatureBlocks (reference :: others) alignment featureSetId policy =
      .ok fused := by
  have hreference := h.blocks reference List.mem_cons_self
  have hid : isBlank featureSetId = false := by
    by_contra hblank
    exact hfails (.blank (Bool.not_eq_false _ ▸ hblank))
  have hrepresentation : ∀ block ∈ others,
      block.block.representationId = reference.block.representationId := by
    intro block hblock
    by_contra hne
    exact hfails (.representation block hblock hne)
  have hnames : ((reference :: others).flatMap (outputNames policy)).Nodup := by
    by_contra hrepeats
    exact hfails (.columns hrepeats)
  obtain ⟨rows, hrows⟩ : ∃ rows, List.Forall₂
      (fun origin row => RowOf (reference :: others) reference origin.1 origin.2 row)
      (rowOrigins reference alignment.sampleIds) rows := by
    refine exists_forall₂ fun ⟨s, output⟩ horigin => ?_
    obtain ⟨hs, houtput⟩ := mem_rowOrigins.mp horigin
    exact h.exists_row hfails hs houtput
  refine ⟨fusedBlock reference others featureSetId policy rows,
    fuseFeatureBlocks_eq_ok.mpr ⟨h.fusible hid hrepresentation hnames, h.presence, rows, hrows,
      rfl, ?_⟩⟩
  exact
    { featureSetId := hid
      named := fun hnil => hreference.named (by
        have houtput := (List.append_eq_nil_iff.mp hnil).1
        exact List.map_eq_nil_iff.mp houtput)
      samples := by simp [fusedBlock]
      rows := by simp [fusedBlock]
      observationsNodup := by
        have hordered : (rowOrigins reference alignment.sampleIds).Pairwise _ :=
          rowOrigins_ordered h.aligned.samplesNodup
        have hnodup := hordered.imp RowBefore.ne
        exact nodup_map_of_forall₂ hrows hnodup fun a ha b hb x y hx hy heq =>
          origin_eq_of_observation hreference hfails ha hb hx hy heq
      widths := by
        intro values hvalues
        obtain ⟨row, hrow, rfl⟩ := List.mem_map.mp hvalues
        obtain ⟨origin, -, hof⟩ := exists_left_of_forall₂ hrows hrow
        exact hof.length_values h.blocks }

/-- For each of the reasons the fusion fails, over any plan. -/
theorem FusionFails.rejected (h : FusionFails reference others alignment featureSetId policy) :
    fuseFeatureBlocks (reference :: others) alignment featureSetId policy ≠ .ok fused := by
  intro haccepted
  obtain ⟨hfusible, -, rows, hrows, rfl, hvalid⟩ := fuseFeatureBlocks_eq_ok.mp haccepted
  have hreference := hfusible.blocks reference List.mem_cons_self
  cases h with
  | blank hblank => exact Bool.noConfusion (hblank.symm.trans hfusible.featureSetId)
  | representation block hblock hne => exact hne (hfusible.representation block hblock)
  | columns hrepeats => exact hrepeats hfusible.names
  | «repeated» block s hblock hs hlength =>
    obtain ⟨output, houtput⟩ := exists_alignedRow reference s
    obtain ⟨row, -, hof⟩ := exists_right_of_forall₂ hrows
      (mem_rowOrigins.mpr ⟨hs, houtput⟩)
    obtain ⟨parts, hparts, -⟩ := hof.cells
    obtain ⟨cells, -, hcells⟩ :=
      exists_right_of_forall₂ hparts (List.mem_cons_of_mem reference hblock)
    have hsource : block.sourceId ≠ reference.sourceId := by
      intro heq
      have hnew := (List.nodup_cons.mp hfusible.sources).1
      exact hnew (List.mem_map.mpr ⟨block, hblock, heq⟩)
    simp only [CellsOf, if_neg hsource] at hcells
    rcases hcells with ⟨idx, hone, -⟩ | ⟨hnone, -⟩
    · rw [hone] at hlength
      exact lt_irrefl _ hlength
    · rw [hnone] at hlength
      exact Nat.not_lt_zero _ hlength
  | long s hs hsynthetic hlong =>
    obtain ⟨row, -, hof⟩ := exists_right_of_forall₂ hrows
      (mem_rowOrigins.mpr ⟨hs, (@mem_alignedRows reference s .synthetic).mpr hsynthetic⟩)
    have hlength := (validateIdentifier_eq_ok.mp row.observationId.valid).2.1
    rw [hof.observation] at hlength
    exact not_le.mpr hlong hlength
  | taken s s' idx o hs hsynthetic hs' hget ho htaken =>
    have hsyntheticOrigin : (s, .synthetic) ∈ rowOrigins reference alignment.sampleIds :=
      mem_rowOrigins.mpr ⟨hs, (@mem_alignedRows reference s .synthetic).mpr hsynthetic⟩
    have hreferenceOrigin : (s', .reference idx) ∈ rowOrigins reference alignment.sampleIds :=
      mem_rowOrigins.mpr ⟨hs', (@mem_alignedRows reference s' (.reference idx)).mpr hget⟩
    have hsame := eq_of_forall₂_nodup hrows hvalid.observationsNodup hsyntheticOrigin
      hreferenceOrigin fun x y hx hy => by
        have hox := hx.observation
        have hoy := hy.observation
        simp only [ho, Option.some.injEq] at hoy
        exact Ident.ext_value (by rw [hox, ← hoy, htaken])
    cases hsame

/-- Over a plan that was built of the same blocks the fusion fails for these reasons only. -/
theorem fuse_built_fails_iff {blocks : List SourceFeatureBlock} {sets : List SourceSampleSet}
    {mode : AlignmentMode} (hsets : blocks.mapM sourceSampleSetFromFeatureBlock = .ok sets)
    (hbuilt : buildSampleAlignmentPlan sets ⟨mode⟩ = .ok alignment) :
    ∃ reference others, blocks = reference :: others ∧
      BuiltOf reference others mode alignment ∧
      ((∃ e, fuseFeatureBlocks blocks alignment featureSetId policy = .error e) ↔
        FusionFails reference others alignment featureSetId policy) := by
  obtain ⟨hvalid, rfl⟩ := sampleSets_eq_ok hsets
  obtain ⟨hplan, haligned, hne, hsources⟩ := buildSampleAlignmentPlan_eq_ok hbuilt
  cases blocks with
  | nil => exact absurd rfl hne
  | cons reference others =>
    have hof : BuiltOf reference others mode alignment :=
      ⟨hvalid, by rw [List.map_map] at hsources; exact hsources, haligned, hplan⟩
    refine ⟨reference, others, rfl, hof, ⟨fun ⟨e, he⟩ => ?_, fun hfails => ?_⟩⟩
    · by_contra hfails
      obtain ⟨fused, hfused⟩ := hof.accepted hfails
      cases hfused.symm.trans he
    · cases hresult : fuseFeatureBlocks (reference :: others) alignment featureSetId policy with
      | error e => exact ⟨e, rfl⟩
      | ok fused => exact absurd hresult hfails.rejected

/-! ## The fusion of source blocks -/

/-- Every accepted fusion is a join on the aligned samples. Over a plan that was built of the same
blocks the fused block has the samples of the plan, and the fusion fails only for a blank id, a
representation or a column name that does not fit, a repeated row, or the id of a synthetic row. -/
theorem fusion_joins_sources (blocks : List SourceFeatureBlock) (alignment : SampleAlignmentPlan)
    (featureSetId : String) (policy : FeatureFusionPolicy) :
    (∀ fused, fuseFeatureBlocks blocks alignment featureSetId policy = .ok fused →
      ∃ reference others, blocks = reference :: others ∧
        ∃ origins rows, Joins reference others alignment policy origins rows fused) ∧
    ∀ sets mode, blocks.mapM sourceSampleSetFromFeatureBlock = .ok sets →
      buildSampleAlignmentPlan sets ⟨mode⟩ = .ok alignment →
      ∃ reference others, blocks = reference :: others ∧
        (∀ fused, fuseFeatureBlocks blocks alignment featureSetId policy = .ok fused →
          ∀ s, s ∈ fused.sampleIds ↔ s ∈ alignment.sampleIds) ∧
        ((∃ e, fuseFeatureBlocks blocks alignment featureSetId policy = .error e) ↔
          FusionFails reference others alignment featureSetId policy) := by
  refine ⟨fun fused h => fuseFeatureBlocks_joins h, fun sets mode hsets hbuilt => ?_⟩
  obtain ⟨reference, others, rfl, -, hfails⟩ := fuse_built_fails_iff hsets hbuilt
  refine ⟨reference, others, rfl, fun fused h s => ?_, hfails⟩
  obtain ⟨_, _, _, _, _, hjoins⟩ := fuseFeatureBlocks_joins h
  exact hjoins.mem_sampleIds

/-- A block of one feature with a value for every row. -/
def testBlock (sourceId : SourceId) (representationId : RepresentationId) (featureName : String)
    (rows : List (ObservationId × SampleId)) : SourceFeatureBlock where
  sourceId := sourceId
  block := {
    featureSetId := "x"
    representationId := representationId
    featureNames := [featureName]
    observationIds := rows.map (·.1)
    sampleIds := rows.map (·.2)
    values := rows.zipIdx.map fun row => [.number (.int row.2)] }

/-- Two rows of sample `s1` and one of `s2`. -/
def spectraBlock : SourceFeatureBlock :=
  testBlock (.lit "nir" rfl) (.lit "table" rfl) "a"
    [((.lit "o1" rfl), (.lit "s1" rfl)), ((.lit "o2" rfl), (.lit "s2" rfl)),
      ((.lit "o3" rfl), (.lit "s1" rfl))]

/-- One row of sample `s1` and one of `s3`. -/
def soilBlock : SourceFeatureBlock :=
  testBlock (.lit "soil" rfl) (.lit "table" rfl) "b"
    [((.lit "p1" rfl), (.lit "s1" rfl)), ((.lit "p3" rfl), (.lit "s3" rfl))]

/-- The outer alignment of the two blocks. -/
def spectraAlignment : SampleAlignmentPlan :=
  builtPlan ([spectraBlock, soilBlock].map sampleSet) .outer

example : (fuseFeatureBlocks [spectraBlock, soilBlock] spectraAlignment "fused"
    ⟨true⟩).toOption.map
    (fun fused => (fused.sampleIds.map (·.value), fused.observationIds.map (·.value))) =
    some (["s1", "s1", "s2", "s3"], ["o1", "o3", "o2", "fused.s3"]) := by
  decide +kernel

theorem spectraBlock_fusion :
    (∀ fused, fuseFeatureBlocks [spectraBlock, soilBlock] spectraAlignment "fused" ⟨true⟩ =
        .ok fused → ∀ s, s ∈ fused.sampleIds ↔ s ∈ spectraAlignment.sampleIds) ∧
      ∃ fused, fuseFeatureBlocks [spectraBlock, soilBlock] spectraAlignment "fused" ⟨true⟩ =
        .ok fused ∧ ∃ reference others, [spectraBlock, soilBlock] = reference :: others ∧
          ∃ origins rows, Joins reference others spectraAlignment
            ⟨true⟩ origins rows fused := by
  obtain ⟨hjoins, hbuilt⟩ :=
    fusion_joins_sources [spectraBlock, soilBlock] spectraAlignment "fused" ⟨true⟩
  obtain ⟨_, _, _, hsamples, _⟩ :=
    hbuilt ([spectraBlock, soilBlock].map sampleSet) .outer rfl rfl
  exact ⟨hsamples, _, rfl, hjoins _ rfl⟩

end DagMlData
