import DagMlData.Provider
import DagMlData.SourceLayout

/-!
# Fusion requests

The two ways into the fusion: `feature_fusion_block` of the provider reads a block for every source
of a selector, and the C ABI entry gets the blocks with the request. `layout_declares_fusion_iff` is
about the layout of either.
-/

namespace DagMlData

open Guard RustText

structure ProviderFeatureFusionSource where
  sourceId : SourceId
  featureSetId : String
  columns : Option (List String)

structure ProviderFeatureFusionSelector where
  featureSetId : String
  sources : List ProviderFeatureFusionSource
  alignment : SampleAlignmentPlan
  sourceLayout : Option FeatureFusionSourceLayout
  policy : FeatureFusionPolicy

namespace ProviderArenas

variable [ThirdParty]

/-- The block of a source. -/
def fusionSource (arenas : ProviderArenas) (viewHandle : Nat)
    (source : ProviderFeatureFusionSource) : Result SourceFeatureBlock := do
  let block ← arenas.featureBlockFiltered viewHandle source.featureSetId (some source.sourceId)
    source.columns
  pure ⟨source.sourceId, block⟩

/-- The blocks of the sources. Each is read under a lock of its own, so the source at a place is
read from the arenas of that place. -/
def fusionSources (arenasAt : Nat → ProviderArenas) (viewHandle : Nat)
    (sources : List ProviderFeatureFusionSource) : Result (List SourceFeatureBlock) :=
  sources.zipIdx.mapM fun entry => (arenasAt entry.2).fusionSource viewHandle entry.1

/-- `feature_fusion_block`. -/
def featureFusionBlock (arenasAt : Nat → ProviderArenas) (viewHandle : Nat)
    (selector : ProviderFeatureFusionSelector) : Result CoordinatorFeatureBlock := do
  rejectIf selector.sources.isEmpty
    (.validation "feature fusion selector requires at least one source")
  let sources ← fusionSources arenasAt viewHandle selector.sources
  fuseWithLayout selector.featureSetId sources selector.alignment selector.sourceLayout
    selector.policy

end ProviderArenas

structure CoordinatorFeatureFusionArrowRequest where
  featureSetId : String
  sources : List SourceFeatureBlock
  alignment : SampleAlignmentPlan
  sourceLayout : Option FeatureFusionSourceLayout
  policy : FeatureFusionPolicy

/-- The block that `dagmldata_coordinator_feature_fusion_arrow_json` exports. -/
def CoordinatorFeatureFusionArrowRequest.fusedBlock
    (request : CoordinatorFeatureFusionArrowRequest) : Result CoordinatorFeatureBlock :=
  fuseWithLayout request.featureSetId request.sources request.alignment request.sourceLayout
    request.policy

/-! ## Layouts of requests -/

/-- An accepted request with a layout gets the block that the layout declares exactly when the
layout and the policy of the request agree on whether columns have the name of their source. -/
theorem layout_declares_fusion_iff [ThirdParty] (layout : FeatureFusionSourceLayout) :
    (∀ arenasAt viewHandle selector fused,
      ProviderFeatureFusionSelector.sourceLayout selector = some layout →
      ProviderArenas.featureFusionBlock arenasAt viewHandle selector = .ok fused →
      ∃ sources, ProviderArenas.fusionSources arenasAt viewHandle selector.sources =
        .ok sources ∧
        (FusedAsDeclared layout sources selector.alignment selector.policy fused ↔
          layout.concat.namespaceColumns = selector.policy.namespaceColumns)) ∧
    ∀ request fused, CoordinatorFeatureFusionArrowRequest.sourceLayout request = some layout →
      request.fusedBlock = .ok fused →
      (FusedAsDeclared layout request.sources request.alignment request.policy fused ↔
        layout.concat.namespaceColumns = request.policy.namespaceColumns) := by
  refine ⟨fun arenasAt viewHandle selector fused hlayout h => ?_,
    fun request fused hlayout h => ?_⟩
  · simp only [ProviderArenas.featureFusionBlock, bind_eq_ok, exists_unit, hlayout] at h
    obtain ⟨-, sources, hsources, hfused⟩ := h
    exact ⟨sources, hsources, fused_as_declared_iff hfused⟩
  · rw [CoordinatorFeatureFusionArrowRequest.fusedBlock, hlayout] at h
    exact fused_as_declared_iff h

/-- A request whose layout asks for the names of the sources, with a policy. -/
def spectraRequest (policy : FeatureFusionPolicy) : CoordinatorFeatureFusionArrowRequest where
  featureSetId := "fused"
  sources := [spectraBlock, soilBlock]
  alignment := spectraAlignment
  sourceLayout := some testLayout
  policy := policy

theorem spectraRequest_as_declared :
    ∃ fused, (spectraRequest ⟨true⟩).fusedBlock = .ok fused ∧
    FusedAsDeclared testLayout [spectraBlock, soilBlock] spectraAlignment ⟨true⟩ fused := by
  obtain ⟨fused, hfused⟩ : ∃ fused, (spectraRequest ⟨true⟩).fusedBlock = .ok fused :=
    ⟨_, rfl⟩
  have hiff := (@layout_declares_fusion_iff (.ofTable []) testLayout).2 (spectraRequest ⟨true⟩)
    fused rfl hfused
  exact ⟨fused, hfused, hiff.mpr rfl⟩

/-- The request is accepted with the policy that does not name sources, and its columns are not the
declared ones. -/
theorem spectraRequest_not_as_declared :
    ∃ fused, (spectraRequest ⟨false⟩).fusedBlock = .ok fused ∧
    fused.featureNames = ["a", "b"] ∧ testLayout.concat.namespaceColumns = true ∧
    ¬ FusedAsDeclared testLayout [spectraBlock, soilBlock] spectraAlignment ⟨false⟩ fused := by
  obtain ⟨fused, hfused, hnames⟩ :
    ∃ fused, (spectraRequest ⟨false⟩).fusedBlock = .ok fused ∧
      fused.featureNames = ["a", "b"] := ⟨_, rfl, rfl⟩
  refine ⟨fused, hfused, hnames, rfl, fun hdeclared => ?_⟩
  exact absurd ((fused_as_declared_iff hfused).mp hdeclared) (by decide)

end DagMlData
