import DagMlData.Ids
import DagMlData.Json
import DagMlData.Lib.RustMap

/-!
# Sample relations and fold sets

The sample-relation table (one row per observation) and the fold sets over its samples, with
the validators of `relation.rs`: `SampleRelationTable.validate`, `FoldSet.validate` and
`SampleRelationTable.validateFoldSet`. A loop of the source that fills maps while it checks is
a `foldlM` over a record of those maps.
-/

namespace DagMlData

open Guard RustText

structure AugmentationMetadata where
  transformId : String
  paramsFingerprint : Option String
  metadata : BTreeMap String Json

def AugmentationMetadata.validate (a : AugmentationMetadata) : Result Unit := do
  rejectIf (isBlank a.transformId)
    (.validation "augmentation metadata transform_id is empty")
  whenSome a.paramsFingerprint fun fingerprint =>
    rejectIf (fingerprint.utf8ByteSize != 64 || !(bytes fingerprint).all isAsciiHexdigit)
      (.validation
        s!"augmentation `{a.transformId}` params_fingerprint must be a 64-character hex digest")
  forM a.metadata.keys fun key =>
    rejectIf (isBlank key)
      (.validation s!"augmentation `{a.transformId}` metadata contains an empty key")

/-- One observation: the sample it belongs to and how it relates to other observations. -/
structure SampleRelation where
  observationId : ObservationId
  sampleId : SampleId
  sourceId : Option SourceId
  targetId : Option TargetId
  groupId : Option GroupId
  originId : Option OriginId
  repetitionId : Option RepetitionId
  augmented : Bool
  excluded : Bool
  metadata : BTreeMap String Json
  tags : List String
  augmentation : Option AugmentationMetadata

structure SampleRelationTable where
  rows : List SampleRelation

structure FoldAssignment where
  foldId : String
  trainSampleIds : List SampleId
  validationSampleIds : List SampleId
  metadata : BTreeMap String Json

inductive FoldPartitionMode
  | partition
  | resampled
deriving DecidableEq, Repr

inductive FoldTrainExclusion
  | relations
  | foldLocal
deriving DecidableEq, Repr

structure FoldSet where
  id : String
  sampleIds : List SampleId
  folds : List FoldAssignment
  sampleGroups : BTreeMap SampleId GroupId
  partitionMode : FoldPartitionMode
  trainExclusion : FoldTrainExclusion
  targetMissingSampleIds : List SampleId

/-! ## Shared checks -/

/-- `unique_samples`. -/
def uniqueSamples (label : String) (samples : List SampleId) : Result (BTreeSet SampleId) := do
  rejectRepeats (fun s => .validation s!"{label} contains duplicate sample `{s}`") samples
  pure (BTreeSet.collect samples)

/-- `validate_group_boundary`. -/
def validateGroupBoundary (foldId : String) (train validation : BTreeSet SampleId)
    (sampleGroups : BTreeMap SampleId GroupId) : Result Unit :=
  if sampleGroups.isEmpty then .ok ()
  else
    let trainGroups := BTreeSet.collect (train.toList.filterMap fun s => sampleGroups[s]?)
    forM validation.toList fun s =>
      whenSome sampleGroups[s]? fun g =>
        rejectIf (trainGroups.contains g)
          (.relationBoundaryViolation "group"
            s!"fold `{foldId}` leaks group `{g}` across train/validation")

/-- `validate_origin_boundary`. -/
def validateOriginBoundary (foldId : String) (train validation : BTreeSet SampleId)
    (relations : SampleRelationTable) : Result Unit :=
  let originSampleIds : BTreeMap String SampleId :=
    BTreeMap.collect (relations.rows.map fun row => (row.observationId.value, row.sampleId))
  forM relations.rows fun row =>
    whenSome row.originId fun originId =>
      whenSome originSampleIds[originId.value]? fun originSampleId => do
        let leak : DataError := .relationBoundaryViolation "origin"
          s!"fold `{foldId}` leaks augmentation origin `{originId}` across train/validation"
        rejectIf (train.contains row.sampleId && validation.contains originSampleId) leak
        rejectIf (validation.contains row.sampleId && train.contains originSampleId) leak

/-! ## Fold sets -/

/-- What the loop over the folds carries. -/
structure FoldLoop where
  foldIds : BTreeSet String
  validationCounts : BTreeMap SampleId Nat

/-- One more validation of every sample of the fold. -/
def countValidation (counts : BTreeMap SampleId Nat) (validation : BTreeSet SampleId) :
    BTreeMap SampleId Nat :=
  validation.toList.foldl (fun c s => c.insert s (c.getD s 0 + 1)) counts

/-- The loop body of `FoldSet::validate`. -/
def FoldSet.checkFold (foldSet : FoldSet) (sampleUniverse : BTreeSet SampleId) (st : FoldLoop)
    (fold : FoldAssignment) : Result FoldLoop := do
  rejectIf (isBlank fold.foldId) (.validation "fold assignment id is empty")
  rejectIf (st.foldIds.contains fold.foldId)
    (.validation s!"duplicate fold id `{fold.foldId}`")
  let train ← uniqueSamples s!"fold `{fold.foldId}` train_sample_ids" fold.trainSampleIds
  let validation ←
    uniqueSamples s!"fold `{fold.foldId}` validation_sample_ids" fold.validationSampleIds
  rejectIf validation.isEmpty
    (.validation s!"fold `{fold.foldId}` has no validation samples")
  forM (train ∪ validation).toList fun s =>
    rejectIf (!sampleUniverse.contains s)
      (.validation s!"fold `{fold.foldId}` references unknown sample `{s}`")
  whenSome (BTreeSet.intersectionNext train validation) fun s =>
    .error (.validation s!"fold `{fold.foldId}` has train/validation overlap at sample `{s}`")
  validateGroupBoundary fold.foldId train validation foldSet.sampleGroups
  pure ⟨st.foldIds.insert fold.foldId, countValidation st.validationCounts validation⟩

/-- The checks of the group map: it is empty, or it has exactly the samples of the fold set. -/
def FoldSet.checkSampleGroups (foldSet : FoldSet) (sampleUniverse : BTreeSet SampleId) :
    Result Unit :=
  if foldSet.sampleGroups.isEmpty then .ok ()
  else do
    forM foldSet.sampleGroups.keys fun s =>
      rejectIf (!sampleUniverse.contains s)
        (.validation s!"sample group map references unknown sample `{s}`")
    whenSome (foldSet.sampleIds.find? fun s => !foldSet.sampleGroups.contains s) fun s =>
      .error (.validation s!"sample `{s}` is missing from non-empty group map")

/-- In partition mode every sample of the fold set is validated exactly once. -/
def FoldSet.checkCoverage (foldSet : FoldSet) (counts : BTreeMap SampleId Nat) : Result Unit :=
  if foldSet.partitionMode == .partition then
    forM counts.toList fun entry =>
      rejectIf (entry.2 != 1)
        (.validation
          s!"sample `{entry.1}` appears in validation {entry.2} time(s), expected exactly once")
  else .ok ()

def FoldSet.validate (foldSet : FoldSet) : Result Unit := do
  rejectIf (isBlank foldSet.id) (.validation "fold set id is empty")
  rejectIf foldSet.sampleIds.isEmpty (.validation "fold set contains no samples")
  rejectIf foldSet.folds.isEmpty (.validation "fold set contains no folds")
  let sampleUniverse ← uniqueSamples "fold set sample_ids" foldSet.sampleIds
  let targetMissing ←
    uniqueSamples "fold set target_missing_sample_ids" foldSet.targetMissingSampleIds
  whenSome (BTreeSet.intersectionNext targetMissing sampleUniverse) fun s =>
    .error (.validation
      s!"target-missing sample `{s}` must not be part of the fold set sample_ids")
  foldSet.checkSampleGroups sampleUniverse
  let final ← foldSet.folds.foldlM (foldSet.checkFold sampleUniverse)
    ⟨∅, BTreeMap.collect (foldSet.sampleIds.map fun s => (s, 0))⟩
  foldSet.checkCoverage final.validationCounts

/-! ## Sample-relation tables -/

/-- What the loop over the rows carries. -/
structure RelationLoop where
  observationIds : BTreeSet ObservationId
  originIds : BTreeSet OriginId
  sampleGroups : BTreeMap SampleId GroupId

/-- The maps after the row. -/
def RelationLoop.add (st : RelationLoop) (row : SampleRelation) : RelationLoop where
  observationIds := st.observationIds.insert row.observationId
  originIds := match row.originId with
    | some originId => st.originIds.insert originId
    | none => st.originIds
  sampleGroups := match row.groupId with
    | some groupId => st.sampleGroups.insert row.sampleId groupId
    | none => st.sampleGroups

/-- The loop body of `SampleRelationTable::validate`. -/
def SampleRelation.check (st : RelationLoop) (row : SampleRelation) : Result RelationLoop := do
  rejectIf (st.observationIds.contains row.observationId)
    (.validation s!"duplicate observation id `{row.observationId}`")
  whenSome row.groupId fun groupId =>
    whenSome st.sampleGroups[row.sampleId]? fun previousGroupId =>
      rejectIf (previousGroupId != groupId)
        (.validation (s!"sample `{row.sampleId}` appears with conflicting groups " ++
          s!"`{previousGroupId}` and `{groupId}`"))
  rejectIf (row.augmented && row.originId.isNone)
    (.validation s!"augmented observation `{row.observationId}` has no origin_id")
  rejectIf (!row.augmented && row.originId.isSome)
    (.validation s!"non-augmented observation `{row.observationId}` declares origin_id")
  whenSome row.augmentation fun augmentation => do
    augmentation.validate
    rejectIf (!row.augmented)
      (.validation
        s!"non-augmented observation `{row.observationId}` declares augmentation metadata")
  whenSome row.originId fun originId =>
    rejectIf (originId.value == row.observationId.value)
      (.validation s!"observation `{row.observationId}` cannot be its own origin")
  pure (st.add row)

def SampleRelationTable.validate (table : SampleRelationTable) : Result Unit := do
  rejectIf table.rows.isEmpty (.validation "sample relation table contains no rows")
  let final ← table.rows.foldlM SampleRelation.check ⟨∅, ∅, ∅⟩
  forM final.originIds.toList fun originId =>
    rejectIf (!final.observationIds.toList.any fun o => o.value == originId.value)
      (.validation s!"origin `{originId}` is not present as an observation")

/-- `sample_groups`: the group of every sample that has one. -/
def SampleRelationTable.sampleGroups (table : SampleRelationTable) : BTreeMap SampleId GroupId :=
  BTreeMap.collect (table.rows.filterMap fun row => row.groupId.map fun g => (row.sampleId, g))

def SampleRelationTable.validateFoldSet (table : SampleRelationTable) (foldSet : FoldSet) :
    Result Unit := do
  table.validate
  foldSet.validate
  let relationSampleIds := BTreeSet.collect (table.rows.map (·.sampleId))
  let foldSampleIds := BTreeSet.collect foldSet.sampleIds
  let knownSampleIds := BTreeSet.collect (foldSampleIds.toList ++ foldSet.targetMissingSampleIds)
  whenSome (BTreeSet.differenceNext relationSampleIds knownSampleIds) fun s =>
    .error (.validation s!"fold set `{foldSet.id}` is missing relation sample `{s}`")
  whenSome (BTreeSet.differenceNext foldSampleIds relationSampleIds) fun s =>
    .error (.validation
      s!"fold set `{foldSet.id}` references sample `{s}` absent from sample relations")
  let relationGroups := table.sampleGroups
  forM foldSet.sampleGroups.toList fun entry =>
    whenSome relationGroups[entry.1]? fun relationGroupId =>
      rejectIf (relationGroupId != entry.2)
        (.validation (s!"fold set `{foldSet.id}` group `{entry.2}` for sample `{entry.1}` " ++
          s!"conflicts with relation group `{relationGroupId}`"))
  forM foldSet.folds fun fold => do
    let train := BTreeSet.collect fold.trainSampleIds
    let validation := BTreeSet.collect fold.validationSampleIds
    validateGroupBoundary fold.foldId train validation relationGroups
    validateOriginBoundary fold.foldId train validation table

end DagMlData
