import DagMlData.Ids
import DagMlData.Lib.RustMap

/-!
# Alignment of samples across sources

`SampleAlignmentPlan` has the samples of a fusion in their order, and for every source a mask that
says which of them it has.

* `SampleAlignmentPlan.validate`: what every fusion checks.
* `buildSampleAlignmentPlan`: the plan of the sample sets of some sources.
-/

namespace DagMlData

open Guard RustText

inductive AlignmentMode
  | inner
  | left
  | outer
deriving DecidableEq, Repr

/-- The derived `Debug`. -/
def AlignmentMode.debugName : AlignmentMode → String
  | .inner => "Inner"
  | .left => "Left"
  | .outer => "Outer"

structure AlignmentPolicy where
  mode : AlignmentMode

structure SourceSampleSet where
  sourceId : SourceId
  sampleIds : List SampleId

structure PresenceMask where
  sampleIds : List SampleId
  sourceId : SourceId
  present : List Bool

structure SampleAlignmentPlan where
  mode : AlignmentMode
  sampleIds : List SampleId
  masks : List PresenceMask

namespace PresenceMask

variable (mask : PresenceMask)

def validate : Result Unit :=
  rejectIf (mask.sampleIds.length != mask.present.length)
    (.validation (s!"presence mask for `{mask.sourceId}` has {mask.sampleIds.length} sample ids " ++
      s!"but {mask.present.length} flags"))

/-- The flag of the sample at a place. A valid mask has one for every sample. -/
def presentAt (idx : Nat) : Bool := mask.present.getD idx false

end PresenceMask

namespace SampleAlignmentPlan

variable (plan : SampleAlignmentPlan)

/-- The checks of the masks, with the sources that come before. -/
def checkMasks : List SourceId → List PresenceMask → Result Unit
  | _, [] => .ok ()
  | seen, mask :: masks => do
    mask.validate
    rejectIf (mask.sampleIds != plan.sampleIds)
      (.validation s!"presence mask for `{mask.sourceId}` does not use alignment sample order")
    rejectIf (seen.contains mask.sourceId)
      (.validation s!"alignment plan contains duplicate source mask `{mask.sourceId}`")
    checkMasks (mask.sourceId :: seen) masks

/-- The mode accepts the presence of the sample at a place. -/
def validAt (idx : Nat) : Bool :=
  match plan.mode with
  | .inner => plan.masks.all (·.presentAt idx)
  | .left => (plan.masks.head?.map (·.presentAt idx)).getD false
  | .outer => plan.masks.any (·.presentAt idx)

def validate : Result Unit := do
  rejectIf plan.sampleIds.isEmpty (.validation "alignment plan contains no samples")
  rejectRepeats (fun sampleId => .validation
    s!"alignment plan contains duplicate sample `{sampleId}`") plan.sampleIds
  rejectIf plan.masks.isEmpty (.validation "alignment plan contains no presence masks")
  plan.checkMasks [] plan.masks
  forM plan.sampleIds.zipIdx fun entry => do
    rejectIf (!plan.masks.any (·.presentAt entry.2))
      (.validation s!"alignment sample `{entry.1}` is absent from every fused source")
    rejectIf (!plan.validAt entry.2)
      (.validation (s!"alignment presence for sample `{entry.1}` violates " ++
        s!"{plan.mode.debugName} mode"))

end SampleAlignmentPlan

/-- The checks of the sources, with the ones that come before. -/
def checkSources : List SourceId → List SourceSampleSet → Result Unit
  | _, [] => .ok ()
  | seen, source :: sources => do
    rejectIf (seen.contains source.sourceId)
      (.validation s!"alignment contains duplicate source `{source.sourceId}`")
    rejectIf source.sampleIds.isEmpty
      (.validation s!"alignment source `{source.sourceId}` contains no samples")
    rejectRepeats (fun sampleId => .validation
      s!"alignment source `{source.sourceId}` contains duplicate sample `{sampleId}`")
      source.sampleIds
    checkSources (source.sourceId :: seen) sources

/-- The elements that are not among those seen, each at its first place. -/
def firstSeen {α : Type} [DecidableEq α] : List α → List α → List α
  | _, [] => []
  | seen, x :: xs =>
    if seen.contains x then firstSeen seen xs else x :: firstSeen (x :: seen) xs

/-- The samples of a plan, in their order. -/
def alignedSamples (sources : List SourceSampleSet) : AlignmentMode → List SampleId
  | .inner => ((sources.head?.map (·.sampleIds)).getD []).filter fun sampleId =>
      sources.all fun source => source.sampleIds.contains sampleId
  | .left => (sources.head?.map (·.sampleIds)).getD []
  | .outer => firstSeen [] (sources.flatMap (·.sampleIds))

/-- `build_sample_alignment_plan`. -/
def buildSampleAlignmentPlan (sources : List SourceSampleSet) (policy : AlignmentPolicy) :
    Result SampleAlignmentPlan := do
  rejectIf sources.isEmpty (.validation "alignment requires at least one source")
  checkSources [] sources
  let sampleIds := alignedSamples sources policy.mode
  rejectIf sampleIds.isEmpty
    (.validation s!"{policy.mode.debugName} alignment produced no shared samples")
  let plan : SampleAlignmentPlan := {
    mode := policy.mode
    sampleIds := sampleIds
    masks := sources.map fun source =>
      { sampleIds := sampleIds
        sourceId := source.sourceId
        present := sampleIds.map fun sampleId => source.sampleIds.contains sampleId } }
  plan.validate
  pure plan

/-! ## What the validator accepts -/

namespace SampleAlignmentPlan

variable {plan : SampleAlignmentPlan}

/-- What `validate` accepts. -/
structure Valid (plan : SampleAlignmentPlan) : Prop where
  aligned : plan.sampleIds ≠ []
  samplesNodup : plan.sampleIds.Nodup
  masked : plan.masks ≠ []
  masks : ∀ mask ∈ plan.masks, mask.sampleIds = plan.sampleIds ∧
    mask.present.length = plan.sampleIds.length
  sourcesNodup : (plan.masks.map (·.sourceId)).Nodup
  present : ∀ idx < plan.sampleIds.length,
    plan.masks.any (·.presentAt idx) = true ∧ plan.validAt idx = true

theorem checkMasks_eq_ok {seen : List SourceId} {masks : List PresenceMask} {u : Unit} :
    plan.checkMasks seen masks = .ok u ↔
      (∀ mask ∈ masks, mask.sampleIds = plan.sampleIds ∧
        mask.present.length = plan.sampleIds.length) ∧
      (masks.map (·.sourceId)).Nodup ∧ ∀ mask ∈ masks, mask.sourceId ∉ seen := by
  refine seenLoop_eq_ok (fun _ => rfl) fun seen mask masks => ?_
  simp only [checkMasks, PresenceMask.validate, bind_eq_ok, exists_unit, rejectIf_eq_ok,
    bne_eq_false_iff_eq, List.contains_eq_mem, decide_eq_false_iff_not]
  constructor
  · rintro ⟨hlength, horder, hseen, hmasks⟩
    exact ⟨⟨horder, by rw [← horder, hlength]⟩, hseen, hmasks⟩
  · rintro ⟨⟨horder, hlength⟩, hseen, hmasks⟩
    exact ⟨by rw [horder, hlength], horder, hseen, hmasks⟩

theorem validate_eq_ok {u : Unit} : plan.validate = .ok u ↔ plan.Valid := by
  have hplaces : ∀ p : Nat → Prop, (∀ entry ∈ plan.sampleIds.zipIdx, p entry.2) ↔
      ∀ idx < plan.sampleIds.length, p idx := by
    intro p
    constructor
    · intro h idx hidx
      exact h (plan.sampleIds[idx], idx) (List.mk_mem_zipIdx_iff_getElem?.mpr
        (List.getElem?_eq_getElem hidx))
    · intro h entry hentry
      have hget := List.mk_mem_zipIdx_iff_getElem?.mp hentry
      exact h entry.2 (List.getElem?_eq_some_iff.mp hget).1
  simp only [validate, bind_eq_ok, exists_unit, rejectIf_eq_ok, rejectRepeats_eq_ok, forM_eq_ok,
    checkMasks_eq_ok, List.isEmpty_eq_false_iff, Bool.not_eq_false', List.not_mem_nil,
    not_false_eq_true, implies_true, and_true]
  rw [hplaces fun idx => plan.masks.any (·.presentAt idx) = true ∧ plan.validAt idx = true]
  constructor
  · rintro ⟨haligned, hsamples, hmasked, ⟨hmasks, hsources⟩, hpresent⟩
    exact ⟨haligned, hsamples, hmasked, hmasks, hsources, hpresent⟩
  · rintro ⟨haligned, hsamples, hmasked, hmasks, hsources, hpresent⟩
    exact ⟨haligned, hsamples, hmasked, ⟨hmasks, hsources⟩, hpresent⟩

end SampleAlignmentPlan

/-! ## What a built plan is -/

theorem mem_firstSeen {α : Type} [DecidableEq α] {seen xs : List α} {x : α} :
    x ∈ firstSeen seen xs ↔ x ∈ xs ∧ x ∉ seen := by
  induction xs generalizing seen with
  | nil => simp [firstSeen]
  | cons y xs ih =>
    rw [firstSeen]
    split
    · next hy =>
      rw [List.contains_iff_mem] at hy
      rw [ih, List.mem_cons]
      constructor
      · rintro ⟨hx, hseen⟩
        exact ⟨.inr hx, hseen⟩
      · rintro ⟨rfl | hx, hseen⟩
        · exact absurd hy hseen
        · exact ⟨hx, hseen⟩
    · next hy =>
      rw [List.contains_iff_mem] at hy
      rw [List.mem_cons, ih, List.mem_cons, List.mem_cons, not_or]
      constructor
      · rintro (rfl | ⟨hx, _, hseen⟩)
        · exact ⟨.inl rfl, hy⟩
        · exact ⟨.inr hx, hseen⟩
      · rintro ⟨rfl | hx, hseen⟩
        · exact .inl rfl
        · by_cases hxy : x = y
          · exact .inl hxy
          · exact .inr ⟨hx, hxy, hseen⟩

theorem checkSources_eq_ok {seen : List SourceId} {sources : List SourceSampleSet} {u : Unit} :
    checkSources seen sources = .ok u ↔
      (∀ source ∈ sources, source.sampleIds ≠ [] ∧ source.sampleIds.Nodup) ∧
      (sources.map (·.sourceId)).Nodup ∧ ∀ source ∈ sources, source.sourceId ∉ seen := by
  refine seenLoop_eq_ok (fun _ => rfl) fun seen source sources => ?_
  simp only [checkSources, bind_eq_ok, exists_unit, rejectIf_eq_ok, rejectRepeats_eq_ok,
    List.isEmpty_eq_false_iff, List.contains_eq_mem, decide_eq_false_iff_not]
  constructor
  · rintro ⟨hseen, hne, hnodup, hsources⟩
    exact ⟨⟨hne, hnodup⟩, hseen, hsources⟩
  · rintro ⟨⟨hne, hnodup⟩, hseen, hsources⟩
    exact ⟨hseen, hne, hnodup, hsources⟩

/-- The plan that is built of the sources. -/
def builtPlan (sources : List SourceSampleSet) (mode : AlignmentMode) : SampleAlignmentPlan where
  mode := mode
  sampleIds := alignedSamples sources mode
  masks := sources.map fun source =>
    { sampleIds := alignedSamples sources mode
      sourceId := source.sourceId
      present := (alignedSamples sources mode).map fun sampleId =>
        source.sampleIds.contains sampleId }

theorem buildSampleAlignmentPlan_eq_ok {sources : List SourceSampleSet} {policy : AlignmentPolicy}
    {plan : SampleAlignmentPlan} (h : buildSampleAlignmentPlan sources policy = .ok plan) :
    plan = builtPlan sources policy.mode ∧ plan.Valid ∧ sources ≠ [] ∧
      (sources.map (·.sourceId)).Nodup := by
  simp only [buildSampleAlignmentPlan, bind_eq_ok, exists_unit, rejectIf_eq_ok, pure_eq_ok,
    checkSources_eq_ok, SampleAlignmentPlan.validate_eq_ok, List.isEmpty_eq_false_iff] at h
  obtain ⟨hne, ⟨-, hsources, -⟩, -, hvalid, rfl⟩ := h
  exact ⟨rfl, hvalid, hne, hsources⟩

end DagMlData
