import DagMlData.JsonRecord
import DagMlData.Relation

/-!
# Relation tables and fold sets as JSON

The JSON of a relation table keeps its fields in declared order, with sorted keys inside of its
JSON values. A fold set is printed with the keys of all its objects sorted, after the empty maps
are removed: the serialization has left them out before (`removeEmptyFoldSetMaps_toJson`).
-/

namespace DagMlData

open SortOn

/-! ## Relation tables -/

namespace AugmentationMetadata

def toJson (augmentation : AugmentationMetadata) : Json :=
  .record [("transform_id", some (.string augmentation.transformId)),
    ("params_fingerprint", augmentation.paramsFingerprint.map .string),
    ("metadata", Json.skipIf augmentation.metadata.isEmpty (.ofMap augmentation.metadata))]

def normalized (augmentation : AugmentationMetadata) : AugmentationMetadata :=
  { augmentation with metadata := sortedMap augmentation.metadata }

theorem toJson_eq_iff {a b : AugmentationMetadata} :
    a.toJson = b.toJson ↔ a.normalized = b.normalized := by
  refine Iff.trans (Json.record_inj rfl (by simp)) ?_
  simp [normalized, skipIf_ofMap_eq_iff, (Option.map_injective Json.string_injective).eq_iff]

end AugmentationMetadata

namespace SampleRelation

def toJson (row : SampleRelation) : Json :=
  .record [("observation_id", some row.observationId.toJson),
    ("sample_id", some row.sampleId.toJson),
    ("source_id", some (.ofOption Ident.toJson row.sourceId)),
    ("target_id", some (.ofOption Ident.toJson row.targetId)),
    ("group_id", some (.ofOption Ident.toJson row.groupId)),
    ("origin_id", some (.ofOption Ident.toJson row.originId)),
    ("repetition_id", some (.ofOption Ident.toJson row.repetitionId)),
    ("augmented", some (.bool row.augmented)), ("excluded", some (.bool row.excluded)),
    ("metadata", some (.ofMap row.metadata)),
    ("tags", Json.skipIf row.tags.isEmpty (.ofList .string row.tags)),
    ("augmentation", row.augmentation.map AugmentationMetadata.toJson)]

def normalized (row : SampleRelation) : SampleRelation :=
  { row with
    metadata := sortedMap row.metadata
    augmentation := row.augmentation.map AugmentationMetadata.normalized }

def jsonValues (row : SampleRelation) : List Json :=
  Json.valuesOf row.metadata ++
    row.augmentation.toList.flatMap fun augmentation => Json.valuesOf augmentation.metadata

theorem toJson_eq_iff {a b : SampleRelation} :
    a.toJson = b.toJson ↔ a.normalized = b.normalized := by
  have haugmentation := Json.map_option_eq_iff (f := AugmentationMetadata.toJson)
    (g := AugmentationMetadata.normalized) fun x (_ : a.augmentation = some x) y
      (_ : b.augmentation = some y) => AugmentationMetadata.toJson_eq_iff
  have htags := Json.skipIf_ofList_eq_iff (f := Json.string) (g := id)
    fun x (_ : x ∈ a.tags) y (_ : y ∈ b.tags) => Json.string_injective.eq_iff
  refine Iff.trans (Json.record_inj rfl (by simp)) ?_
  simp [normalized, sortedMap, haugmentation, htags]

theorem prints_toJson {row : SampleRelation} (h : ∀ j ∈ row.jsonValues, j.Prints) :
    row.toJson.Prints := by
  rw [jsonValues, List.forall_mem_append, List.forall_mem_flatMap] at h
  obtain ⟨hmetadata, haugmentation⟩ := h
  have hprints : ∀ augmentation, row.augmentation = some augmentation →
      augmentation.toJson.Prints := by
    intro augmentation hsome
    have hvalues := haugmentation augmentation (by simp [hsome])
    simp [AugmentationMetadata.toJson, Json.prints_ofMap hvalues]
  simpa [toJson, Json.prints_ofMap hmetadata] using hprints

end SampleRelation

def SampleRelationTable.toJson (table : SampleRelationTable) : Json :=
  .record [("rows", some (.ofList SampleRelation.toJson table.rows))]

/-! ## Fold sets -/

def FoldPartitionMode.name : FoldPartitionMode → String
  | .partition => "partition"
  | .resampled => "resampled"

def FoldTrainExclusion.name : FoldTrainExclusion → String
  | .relations => "relations"
  | .foldLocal => "fold_local"

namespace FoldAssignment

def toJson (fold : FoldAssignment) : Json :=
  .record [("fold_id", some (.string fold.foldId)),
    ("train_sample_ids", some (.ofList Ident.toJson fold.trainSampleIds)),
    ("validation_sample_ids", some (.ofList Ident.toJson fold.validationSampleIds)),
    ("metadata", Json.skipIf fold.metadata.isEmpty (.ofEntries id id fold.metadata))]

def normalized (fold : FoldAssignment) : FoldAssignment :=
  { fold with metadata := sortedMap fold.metadata }

end FoldAssignment

def FoldSet.toJson (foldSet : FoldSet) : Json :=
  .record [("id", some (.string foldSet.id)),
    ("sample_ids", some (.ofList Ident.toJson foldSet.sampleIds)),
    ("folds", some (.ofList FoldAssignment.toJson foldSet.folds)),
    ("sample_groups", Json.skipIf foldSet.sampleGroups.isEmpty
      (.ofEntries Ident.value Ident.toJson foldSet.sampleGroups)),
    ("partition_mode", Json.skipIf (foldSet.partitionMode == .partition)
      (.string foldSet.partitionMode.name)),
    ("train_exclusion", Json.skipIf (foldSet.trainExclusion == .relations)
      (.string foldSet.trainExclusion.name)),
    ("target_missing_sample_ids", Json.skipIf foldSet.targetMissingSampleIds.isEmpty
      (.ofList Ident.toJson foldSet.targetMissingSampleIds))]

/-- Removes a field whose value is an empty object. -/
def removeIfEmpty (key : String) (fields : List (String × Json)) : List (String × Json) :=
  match fields.lookup key with
  | some (.object []) => fields.filter fun field => field.1 != key
  | _ => fields

/-- The loop body of `remove_empty_fold_set_maps`. -/
def removeEmptyMetadata : Json → Json
  | .object fields => .object (removeIfEmpty "metadata" fields)
  | fold => fold

/-- The loop over the folds, which are the value of one field. -/
def removeFoldMetadata : String × Json → String × Json
  | ("folds", .array folds) => ("folds", .array (folds.map removeEmptyMetadata))
  | field => field

/-- `remove_empty_fold_set_maps`. -/
def removeEmptyFoldSetMaps : Json → Json
  | .object fields => .object ((removeIfEmpty "sample_groups" fields).map removeFoldMetadata)
  | value => value

/-! ## What is removed -/

theorem removeIfEmpty_of_not_mem {key : String} {fields : List (String × Json)}
    (h : (key, .object []) ∉ fields) : removeIfEmpty key fields = fields := by
  unfold removeIfEmpty
  split
  · next hlookup =>
    obtain ⟨before, after, rfl, -⟩ := List.lookup_eq_some_iff.mp hlookup
    exact absurd (List.mem_append_right _ List.mem_cons_self) h
  · rfl

theorem Json.ofEntries_ne_empty {κ α : Type} [Ord κ] [Std.TransOrd κ] {key : κ → String}
    {f : α → Json} {m : BTreeMap κ α} (h : m.isEmpty = false) :
    Json.ofEntries key f m ≠ .object [] := by
  intro hempty
  have hnil := List.map_eq_nil_iff.mp (Json.object.inj hempty)
  rw [← Std.ExtTreeMap.isEmpty_toList, hnil] at h
  cases h

/-- The serialization has left out empty metadata. -/
theorem removeEmptyMetadata_toJson (fold : FoldAssignment) :
    removeEmptyMetadata fold.toJson = fold.toJson := by
  refine congrArg Json.object (removeIfEmpty_of_not_mem fun hmem => ?_)
  have hfield := Json.mem_present.mp hmem
  simp only [List.mem_cons, Prod.mk.injEq, String.reduceEq, false_and, true_and, List.not_mem_nil,
    or_false, false_or] at hfield
  obtain ⟨hsome, hempty⟩ := Json.skipIf_eq_some.mp hfield.symm
  exact Json.ofEntries_ne_empty hsome hempty

/-- Nothing is left to remove. -/
theorem removeEmptyFoldSetMaps_toJson (foldSet : FoldSet) :
    removeEmptyFoldSetMaps foldSet.toJson = foldSet.toJson := by
  refine congrArg Json.object ?_
  rw [removeIfEmpty_of_not_mem fun hmem => ?_]
  · refine (List.map_congr_left fun field hmem => ?_).trans (List.map_id _)
    unfold removeFoldMetadata
    split
    · next folds =>
      have hfield := Json.mem_present.mp hmem
      simp only [List.mem_cons, Prod.mk.injEq, String.reduceEq, false_and, true_and,
        List.not_mem_nil, or_false, false_or, Option.some.injEq, Json.ofList,
        Json.array.injEq] at hfield
      rw [hfield, List.map_map, show removeEmptyMetadata ∘ FoldAssignment.toJson = _ from
        funext removeEmptyMetadata_toJson]
      rfl
    · rfl
  · have hfield := Json.mem_present.mp hmem
    simp only [List.mem_cons, Prod.mk.injEq, String.reduceEq, false_and, true_and,
      List.not_mem_nil, or_false, false_or] at hfield
    obtain ⟨hsome, hempty⟩ := Json.skipIf_eq_some.mp hfield.symm
    exact Json.ofEntries_ne_empty hsome hempty

/-! ## What the sorted JSON tells -/

theorem FoldAssignment.sorted_toJson_eq_iff {a b : FoldAssignment} :
    a.toJson.sortAllObjects = b.toJson.sortAllObjects ↔ a.normalized = b.normalized := by
  refine Iff.trans (Json.sortAllObjects_record_inj rfl (by simp)) ?_
  simp [normalized, Json.sortedOption, Json.map_skipIf, Json.sortAllObjects_ofList,
    Json.sortAllObjects_ofEntries_id, skipIf_ofMap_eq_iff]

end DagMlData
