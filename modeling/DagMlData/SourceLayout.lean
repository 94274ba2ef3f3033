import DagMlData.FusionCorrect
import DagMlData.Lib.Tiling

/-!
# Source layouts

A `FeatureFusionSourceLayout` declares which columns of a fused block come from which source.
`FeatureFusionSourceLayout.validateForSourceBlocks` compares it with the blocks that are fused.
`fused_as_declared_iff`: a fusion whose layout passed has the block that the layout declares,
exactly when the layout and the policy agree on the names.
-/

namespace DagMlData

open Guard RustText Tiling

structure SourcePreprocessingOutput where
  featureSetId : String
  representationId : RepresentationId
  adapterId : Option String

structure SourceFeatureLayoutBlock where
  sourceId : SourceId
  preprocessingOutput : SourcePreprocessingOutput
  columnStart : Nat
  columnCount : Nat
  featureNames : List String
  metadata : BTreeMap String Json

structure SourceConcatLayout where
  featureSetId : String
  representationId : RepresentationId
  totalColumnCount : Nat
  preserveSourceOrder : Bool
  namespaceColumns : Bool

structure FeatureFusionSourceLayout where
  sourceOrder : List SourceId
  blocks : List SourceFeatureLayoutBlock
  concat : SourceConcatLayout
  metadata : BTreeMap String Json

def SourcePreprocessingOutput.validate (output : SourcePreprocessingOutput) (label : String) :
    Result Unit := do
  rejectIf (isBlank output.featureSetId)
    (.validation s!"{label} preprocessing_output feature_set_id is empty")
  rejectIf (output.adapterId.any isBlank)
    (.validation s!"{label} preprocessing_output adapter_id is empty")

def SourceFeatureLayoutBlock.validate (block : SourceFeatureLayoutBlock) (label : String) :
    Result Unit := do
  block.preprocessingOutput.validate label
  rejectIf (block.columnCount == 0)
    (.validation s!"{label} column_count must be greater than zero")
  rejectIf (!block.featureNames.isEmpty && block.featureNames.length != block.columnCount)
    (.validation (s!"{label} feature_names length {block.featureNames.length} does not match " ++
      s!"column_count {block.columnCount}"))
  checkTags (.validation s!"{label} contains an empty feature name")
    (fun featureName => .validation s!"{label} contains duplicate feature `{featureName}`")
    [] block.featureNames
  forM block.metadata.keys fun key =>
    rejectIf (isBlank key) (.validation s!"{label} metadata contains an empty key")

def SourceConcatLayout.validate (concat : SourceConcatLayout) : Result Unit := do
  rejectIf (isBlank concat.featureSetId)
    (.validation "source concat layout feature_set_id is empty")
  rejectIf (concat.totalColumnCount == 0)
    (.validation "source concat layout total_column_count must be greater than zero")
  rejectIf (!concat.preserveSourceOrder)
    (.validation "source concat layout must preserve source order")

namespace FeatureFusionSourceLayout

/-- The loop over the sources in their order, with the ones that come before and the column that
the next block has to start at. -/
def checkBlocks : List SourceId → Nat → List ((SourceId × SourceFeatureLayoutBlock) × Nat) →
    Result Nat
  | _, expected, [] => .ok expected
  | seen, expected, ((sourceId, block), idx) :: entries => do
    rejectIf (seen.contains sourceId) (.validation
      s!"feature fusion source layout contains duplicate source `{sourceId}`")
    rejectIf (block.sourceId != sourceId) (.validation
      (s!"feature fusion source layout block {idx} is for `{block.sourceId}` but source_order " ++
        s!"has `{sourceId}`"))
    let label := s!"feature fusion source layout block `{block.sourceId}`"
    block.validate label
    rejectIf (block.columnStart != expected) (.validation
      (s!"{label} starts at column {block.columnStart} but expected contiguous start " ++
        s!"{expected}"))
    -- `checked_add`
    rejectIf (decide (u64Size ≤ expected + block.columnCount))
      (.validation "feature fusion source layout column range overflows")
    checkBlocks (sourceId :: seen) (expected + block.columnCount) entries

variable (layout : FeatureFusionSourceLayout)

def validate : Result Unit := do
  rejectIf layout.sourceOrder.isEmpty
    (.validation "feature fusion source layout contains no source_order")
  rejectIf (layout.blocks.length != layout.sourceOrder.length)
    (.validation (s!"feature fusion source layout has {layout.blocks.length} blocks for " ++
      s!"{layout.sourceOrder.length} ordered sources"))
  layout.concat.validate
  let span ← checkBlocks [] 0 (layout.sourceOrder.zip layout.blocks).zipIdx
  rejectIf (span != layout.concat.totalColumnCount)
    (.validation (s!"feature fusion source layout total_column_count " ++
      s!"{layout.concat.totalColumnCount} does not match block span {span}"))
  forM layout.metadata.keys fun key =>
    rejectIf (isBlank key)
      (.validation "feature fusion source layout metadata contains an empty key")

/-- The checks of a layout block against the source block in its place. -/
def checkSourceBlock (entry : (SourceFeatureLayoutBlock × SourceFeatureBlock) × Nat) :
    Result Unit := do
  let ((layoutBlock, sourceBlock), idx) := entry
  let label := s!"source layout block `{layoutBlock.sourceId}`"
  let output := layoutBlock.preprocessingOutput
  rejectIf (layoutBlock.sourceId != sourceBlock.sourceId)
    (.validation (s!"source layout block {idx} is for `{layoutBlock.sourceId}` but feature " ++
      s!"fusion block is `{sourceBlock.sourceId}`"))
  rejectIf (output.featureSetId != sourceBlock.block.featureSetId)
    (.validation (s!"{label} preprocessing_output feature_set_id `{output.featureSetId}` does " ++
      s!"not match feature block `{sourceBlock.block.featureSetId}`"))
  rejectIf (output.representationId != sourceBlock.block.representationId)
    (.validation (s!"{label} preprocessing_output representation `{output.representationId}` " ++
      s!"does not match feature block `{sourceBlock.block.representationId}`"))
  rejectIf (layoutBlock.columnCount != sourceBlock.block.featureNames.length)
    (.validation (s!"{label} column_count {layoutBlock.columnCount} does not match feature " ++
      s!"block width {sourceBlock.block.featureNames.length}"))
  rejectIf (!layoutBlock.featureNames.isEmpty &&
      layoutBlock.featureNames != sourceBlock.block.featureNames)
    (.validation s!"{label} feature_names do not match feature block output")
  rejectIf (layout.concat.representationId != sourceBlock.block.representationId)
    (.validation (s!"source concat layout representation `{layout.concat.representationId}` " ++
      s!"does not match source `{sourceBlock.sourceId}` representation " ++
      s!"`{sourceBlock.block.representationId}`"))

def validateForSourceBlocks (featureSetId : String) (blocks : List SourceFeatureBlock) :
    Result Unit := do
  layout.validate
  rejectIf (layout.concat.featureSetId != featureSetId)
    (.validation (s!"source concat layout feature_set_id `{layout.concat.featureSetId}` does " ++
      s!"not match requested fused feature_set_id `{featureSetId}`"))
  rejectIf (blocks.length != layout.blocks.length)
    (.validation (s!"source layout has {layout.blocks.length} blocks but feature fusion has " ++
      s!"{blocks.length} source blocks"))
  forM (layout.blocks.zip blocks).zipIdx layout.checkSourceBlock

end FeatureFusionSourceLayout

/-- The fusion of blocks whose layout is checked first, when there is one. -/
def fuseWithLayout (featureSetId : String) (blocks : List SourceFeatureBlock)
    (alignment : SampleAlignmentPlan) (sourceLayout : Option FeatureFusionSourceLayout)
    (policy : FeatureFusionPolicy) : Result CoordinatorFeatureBlock := do
  whenSome sourceLayout fun layout => layout.validateForSourceBlocks featureSetId blocks
  fuseFeatureBlocks blocks alignment featureSetId policy

/-! ## What the validator of layouts accepts -/

/-- The columns of the block. -/
def SourceFeatureLayoutBlock.span (block : SourceFeatureLayoutBlock) : Span :=
  ⟨block.columnStart, block.columnCount⟩

namespace FeatureFusionSourceLayout

theorem checkBlocks_tiles {seen : List SourceId} {start stop : Nat}
    {entries : List ((SourceId × SourceFeatureLayoutBlock) × Nat)}
    (h : checkBlocks seen start entries = .ok stop) :
    Tiles start (entries.map (·.1.2.span)) stop ∧
      ∀ entry ∈ entries, entry.1.2.sourceId = entry.1.1 := by
  induction entries generalizing seen start with
  | nil =>
    cases h
    exact ⟨rfl, by simp⟩
  | cons entry entries ih =>
    obtain ⟨⟨sourceId, block⟩, idx⟩ := entry
    simp only [checkBlocks, SourceFeatureLayoutBlock.validate, bind_eq_ok, exists_unit,
      rejectIf_eq_ok, bne_eq_false_iff_eq, beq_eq_false_iff_ne] at h
    obtain ⟨-, hsource, ⟨-, hcount, -⟩, hstart, -, hrest⟩ := h
    obtain ⟨htiles, hsources⟩ := ih hrest
    exact ⟨⟨hstart, Nat.pos_of_ne_zero hcount, htiles⟩,
      List.forall_mem_cons.mpr ⟨hsource, hsources⟩⟩

variable {layout : FeatureFusionSourceLayout}

/-- The spans of a valid layout tile its columns, in the order of its sources. -/
theorem validate_tiles (h : layout.validate = .ok ()) :
    Tiles 0 (layout.blocks.map (·.span)) layout.concat.totalColumnCount ∧
      layout.blocks.map (·.sourceId) = layout.sourceOrder := by
  simp only [validate, bind_eq_ok, exists_unit, rejectIf_eq_ok, bne_eq_false_iff_eq] at h
  obtain ⟨-, hlength, -, span, hchecked, rfl, -⟩ := h
  obtain ⟨htiles, hsources⟩ := checkBlocks_tiles hchecked
  have hblocks : ∀ {β : Type} (f : SourceFeatureLayoutBlock → β),
      (layout.sourceOrder.zip layout.blocks).zipIdx.map (fun entry => f entry.1.2) =
        layout.blocks.map f := by
    intro β f
    conv_rhs => rw [← @List.map_snd_zip _ _ layout.sourceOrder _ hlength.le,
      ← List.zipIdx_map_fst 0 (layout.sourceOrder.zip layout.blocks), List.map_map, List.map_map]
    rfl
  have horder : (layout.sourceOrder.zip layout.blocks).zipIdx.map (·.1.1) =
    layout.sourceOrder := by
    conv_rhs => rw [← @List.map_fst_zip _ _ _ layout.blocks hlength.ge,
      ← List.zipIdx_map_fst 0 (layout.sourceOrder.zip layout.blocks), List.map_map]
    rfl
  rw [hblocks] at htiles
  exact ⟨htiles, (hblocks _).symm.trans ((List.map_congr_left hsources).trans horder)⟩

/-- What the comparison with the source blocks accepts. -/
structure Matches (layout : FeatureFusionSourceLayout)
    (blocks : List SourceFeatureBlock) : Prop where
  tiles : Tiles 0 (layout.blocks.map (·.span)) layout.concat.totalColumnCount
  order : layout.blocks.map (·.sourceId) = layout.sourceOrder
  blocks : List.Forall₂ (fun layoutBlock block => layoutBlock.sourceId = block.sourceId ∧
    layoutBlock.columnCount = block.block.featureNames.length) layout.blocks blocks

theorem matches_of_validateForSourceBlocks {featureSetId : String}
    {blocks : List SourceFeatureBlock}
    (h : layout.validateForSourceBlocks featureSetId blocks = .ok ()) : layout.Matches blocks := by
  simp only [validateForSourceBlocks, bind_eq_ok, exists_unit, rejectIf_eq_ok, forM_eq_ok,
    checkSourceBlock, bne_eq_false_iff_eq] at h
  obtain ⟨hvalid, -, hlength, hblocks⟩ := h
  obtain ⟨htiles, horder⟩ := validate_tiles hvalid
  refine ⟨htiles, horder, List.forall₂_iff_get.mpr ⟨hlength.symm, fun i hi hj => ?_⟩⟩
  have hmem : ((layout.blocks[i], blocks[i]), i) ∈ (layout.blocks.zip blocks).zipIdx := by
    rw [List.mk_mem_zipIdx_iff_getElem?, List.getElem?_zip_eq_some]
    exact ⟨List.getElem?_eq_getElem hi, List.getElem?_eq_getElem hj⟩
  obtain ⟨hsource, -, -, hcount, -⟩ := hblocks _ hmem
  exact ⟨hsource, hcount⟩

/-- The name that the layout gives to the column of a feature. -/
def declaredName (layout : FeatureFusionSourceLayout) (sourceId : SourceId)
    (featureName : String) : String :=
  if layout.concat.namespaceColumns then s!"{sourceId}.{featureName}" else featureName

end FeatureFusionSourceLayout

/-! ## The declared block -/

/-- The fused block is the one that the layout declares. -/
structure FusedAsDeclared (layout : FeatureFusionSourceLayout) (blocks : List SourceFeatureBlock)
    (alignment : SampleAlignmentPlan) (policy : FeatureFusionPolicy)
    (fused : CoordinatorFeatureBlock) : Prop where
  /-- The spans tile the columns, in the order of the sources. -/
  tiles : Tiles 0 (layout.blocks.map (·.span)) layout.concat.totalColumnCount
  covered : ∀ column < layout.concat.totalColumnCount,
    ∃! i : Nat, ∃ b, layout.blocks[i]? = some b ∧ b.span.Covers column
  order : layout.blocks.map (·.sourceId) = layout.sourceOrder ∧
    blocks.map (·.sourceId) = layout.sourceOrder
  width : fused.featureNames.length = layout.concat.totalColumnCount ∧
    ∀ row ∈ fused.values, row.length = layout.concat.totalColumnCount
  /-- The columns in the span of a source are its columns, with their declared names. -/
  names : List.Forall₂ (fun layoutBlock block => layoutBlock.span.slice fused.featureNames =
    block.block.featureNames.map (layout.declaredName block.sourceId)) layout.blocks blocks
  /-- The cells in the span of a source are its cells. -/
  cells : ∃ reference others, blocks = reference :: others ∧ ∃ origins rows,
    Joins reference others alignment policy origins rows fused ∧
      ∀ p ∈ origins.zip rows, List.Forall₂ (fun layoutBlock block =>
        CellsOf reference p.1.1 p.1.2 block
          (layoutBlock.span.slice p.2.values)) layout.blocks blocks

section Declared

variable {layout : FeatureFusionSourceLayout} {blocks : List SourceFeatureBlock}
  {alignment : SampleAlignmentPlan} {featureSetId : String} {policy : FeatureFusionPolicy}
  {fused : CoordinatorFeatureBlock}

/-- Parts as wide as the blocks of a matching layout are the slices of their concatenation. -/
theorem FeatureFusionSourceLayout.Matches.slices {α : Type} (h : layout.Matches blocks)
    {parts : List (List α)}
    (hparts : List.Forall₂ (fun (block : SourceFeatureBlock) (part : List α) =>
      part.length = block.block.featureNames.length) blocks parts) :
    layout.concat.totalColumnCount = parts.flatten.length ∧
      List.Forall₂ (fun layoutBlock part => layoutBlock.span.slice parts.flatten = part)
        layout.blocks parts := by
  have hwidths : List.Forall₂ (fun span part => part.length = span.count)
      (layout.blocks.map (·.span)) parts := by
    rw [List.forall₂_map_left_iff]
    exact forall₂_comp (fun _ _ _ hb hp => hp.trans hb.2.symm) h.blocks hparts
  refine ⟨by rw [h.tiles.stop_eq hwidths, Nat.zero_add], ?_⟩
  have hslices := h.tiles.slice_flatten hwidths [] rfl
  rwa [List.forall₂_map_left_iff] at hslices

theorem FeatureFusionSourceLayout.Matches.names (h : layout.Matches blocks) :
    layout.concat.totalColumnCount = (blocks.flatMap (outputNames policy)).length ∧
      List.Forall₂ (fun layoutBlock block =>
        layoutBlock.span.slice (blocks.flatMap (outputNames policy)) = outputNames policy block)
        layout.blocks blocks := by
  have hparts : List.Forall₂ (fun (block : SourceFeatureBlock) (part : List String) =>
      part.length = block.block.featureNames.length) blocks (blocks.map (outputNames policy)) := by
    rw [List.forall₂_map_right_iff, List.forall₂_same]
    exact fun block _ => by rw [outputNames, List.length_map]
  obtain ⟨hlength, hslices⟩ := h.slices hparts
  rw [List.forall₂_map_right_iff] at hslices
  exact ⟨hlength, hslices⟩

theorem FeatureFusionSourceLayout.Matches.cells (h : layout.Matches blocks)
    (hblocks : ∀ block ∈ blocks, block.block.Valid)
    {reference : SourceFeatureBlock} {s : SampleId}
    {output : OutputRow} {row : FusedRow} (hrow : RowOf blocks reference s output row) :
    layout.concat.totalColumnCount = row.values.length ∧
      List.Forall₂ (fun layoutBlock block =>
        CellsOf reference s output block (layoutBlock.span.slice row.values)) layout.blocks
        blocks := by
  obtain ⟨parts, hparts, hvalues⟩ := hrow.cells
  have hwidths : List.Forall₂ (fun (block : SourceFeatureBlock) (part : List Json) =>
      part.length = block.block.featureNames.length) blocks parts := by
    refine List.forall₂_iff_zip.mpr ⟨hparts.length_eq, fun hzip => ?_⟩
    exact CellsOf.length_eq (List.forall₂_zip hparts hzip) (hblocks _ (List.of_mem_zip hzip).1)
  obtain ⟨hlength, hslices⟩ := h.slices hwidths
  rw [← hvalues] at hlength hslices
  refine ⟨hlength, forall₂_comp (fun _ part block hslice hcells => ?_) hslices hparts.flip⟩
  rw [hslice]
  exact hcells

theorem FeatureFusionSourceLayout.Matches.covered (h : layout.Matches blocks) :
    ∀ column < layout.concat.totalColumnCount,
      ∃! i : Nat, ∃ b, layout.blocks[i]? = some b ∧ b.span.Covers column := by
  intro column hcolumn
  have hplace : ∀ i : Nat, (∃ span, (layout.blocks.map (·.span))[i]? = some span ∧
      span.Covers column) ↔ ∃ b, layout.blocks[i]? = some b ∧ b.span.Covers column := by
    intro i
    rw [List.getElem?_map]
    constructor
    · rintro ⟨span, hget, hcovers⟩
      obtain ⟨b, hb, rfl⟩ := Option.map_eq_some_iff.mp hget
      exact ⟨b, hb, hcovers⟩
    · rintro ⟨b, hb, hcovers⟩
      exact ⟨b.span, by rw [hb]; rfl, hcovers⟩
  simpa only [hplace] using h.tiles.existsUnique (Nat.zero_le column) hcolumn

theorem FeatureFusionSourceLayout.Matches.sourceIds (h : layout.Matches blocks) :
    blocks.map (·.sourceId) = layout.blocks.map (·.sourceId) := by
  have hsame : List.Forall₂ (· = ·) (layout.blocks.map (·.sourceId))
    (blocks.map (·.sourceId)) := by
    rw [List.forall₂_map_left_iff, List.forall₂_map_right_iff]
    exact h.blocks.imp fun _ _ hblock => hblock.1
  rw [List.forall₂_eq_eq_eq] at hsame
  exact hsame.symm

/-- Columns have their declared names when the layout and the policy agree. -/
theorem outputNames_eq_declared (h : layout.concat.namespaceColumns = policy.namespaceColumns)
    (block : SourceFeatureBlock) :
    outputNames policy block =
      block.block.featureNames.map (layout.declaredName block.sourceId) := by
  refine List.map_congr_left fun featureName _ => ?_
  rw [FeatureFusionSourceLayout.declaredName, h]

/-- They have other names when the two do not. -/
theorem namespaceColumns_eq {block : SourceFeatureBlock} (hnamed : block.block.featureNames ≠ [])
    (h : block.block.featureNames.map (layout.declaredName block.sourceId) =
      outputNames policy block) :
    layout.concat.namespaceColumns = policy.namespaceColumns := by
  obtain ⟨featureName, names, hnames⟩ := List.exists_cons_of_ne_nil hnamed
  rw [outputNames, hnames, List.map_cons, List.map_cons, List.cons.injEq] at h
  have hfirst := h.1
  -- A name with its source in front is longer than the name.
  have hlonger : s!"{block.sourceId}.{featureName}" ≠ featureName := by
    intro heq
    have hlength := congrArg String.utf8ByteSize heq
    simp only [String.utf8ByteSize_append] at hlength
    have hdot : (toString ".").utf8ByteSize = 1 := by decide
    have hname : (toString featureName).utf8ByteSize = featureName.utf8ByteSize := rfl
    omega
  unfold FeatureFusionSourceLayout.declaredName at hfirst
  cases hlayout : layout.concat.namespaceColumns <;> cases hpolicy : policy.namespaceColumns
  · rfl
  · simp only [hlayout, hpolicy, Bool.false_eq_true, if_false, if_true] at hfirst
    exact absurd hfirst.symm hlonger
  · simp only [hlayout, hpolicy, Bool.false_eq_true, if_false, if_true] at hfirst
    exact absurd hfirst hlonger
  · rfl

/-- A fusion whose layout passed has the block that the layout declares exactly when the layout and
the policy agree on whether columns have the name of their source. -/
theorem fused_as_declared_iff
    (h : fuseWithLayout featureSetId blocks alignment (some layout) policy = .ok fused) :
    FusedAsDeclared layout blocks alignment policy fused ↔
      layout.concat.namespaceColumns = policy.namespaceColumns := by
  simp only [fuseWithLayout, bind_eq_ok, exists_unit] at h
  obtain ⟨hlayout, hfused⟩ := h
  have hmatches := FeatureFusionSourceLayout.matches_of_validateForSourceBlocks
    (whenSome_eq_ok.mp hlayout layout rfl)
  obtain ⟨reference, others, rfl, origins, rows, hjoins⟩ := fuseFeatureBlocks_joins hfused
  have hblocks := (fuseFeatureBlocks_eq_ok.mp hfused).1.blocks
  obtain ⟨hwidth, hnames⟩ := @FeatureFusionSourceLayout.Matches.names _ _ policy hmatches
  rw [← hjoins.featureNames] at hwidth hnames
  constructor
  · intro hdeclared
    obtain ⟨layoutBlock, rest, hslice, -, hfirst⟩ := List.forall₂_cons_right_iff.mp hnames
    have hdeclaredNames := hdeclared.names
    rw [hfirst, List.forall₂_cons] at hdeclaredNames
    exact namespaceColumns_eq (hblocks reference List.mem_cons_self).named
      (hdeclaredNames.1.symm.trans hslice)
  · intro hagree
    have hrows : ∀ origin row, (origin, row) ∈ origins.zip rows →
        RowOf (reference :: others) reference origin.1 origin.2 row := fun _ _ hzip =>
      List.forall₂_zip hjoins.held hzip
    exact
      { tiles := hmatches.tiles
        covered := hmatches.covered
        order := ⟨hmatches.order, hmatches.sourceIds.trans hmatches.order⟩
        width := by
          refine ⟨hwidth.symm, fun values hvalues => ?_⟩
          rw [hjoins.values] at hvalues
          obtain ⟨row, hrow, rfl⟩ := List.mem_map.mp hvalues
          obtain ⟨origin, -, hof⟩ := exists_left_of_forall₂ hjoins.held hrow
          exact (hmatches.cells hblocks hof).1.symm
        names := by
          refine hnames.imp fun layoutBlock block hslice => ?_
          rw [hslice, outputNames_eq_declared hagree]
        cells := ⟨reference, others, rfl, origins, rows, hjoins, fun p hp =>
          (hmatches.cells hblocks (hrows p.1 p.2 hp)).2⟩ }

/-- The sources `nir` and `soil` with one column each. -/
def testLayout : FeatureFusionSourceLayout where
  sourceOrder := [spectraBlock.sourceId, soilBlock.sourceId]
  blocks :=
    [⟨spectraBlock.sourceId, ⟨"x", spectraBlock.block.representationId,
      none⟩, 0, 1, [], ∅⟩,
      ⟨soilBlock.sourceId, ⟨"x", soilBlock.block.representationId, none⟩, 1, 1, [], ∅⟩]
  concat := ⟨"fused", spectraBlock.block.representationId, 2, true, true⟩
  metadata := ∅

end Declared

end DagMlData
