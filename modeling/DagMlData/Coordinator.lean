import DagMlData.Plan

/-!
# Coordinator relations and branch views

The relation records that the coordinator hands to a provider, one per observation, and the
branch views that select some of them. `CoordinatorRelationSet.validate` and
`CoordinatorBranchView.validate` are the validators of `coordinator.rs`.
-/

namespace DagMlData

open Guard RustText

inductive CoordinatorEntityUnitLevel
  | physicalSample
  | sourceSample
  | observation
  | combo
deriving DecidableEq, Repr

structure CoordinatorRelation where
  unitLevel : CoordinatorEntityUnitLevel
  unitId : Option String
  observationId : ObservationId
  sampleId : SampleId
  sourceId : Option SourceId
  repId : Option String
  targetId : Option TargetId
  groupId : Option GroupId
  originSampleId : Option SampleId
  derivedUnitId : Option String
  componentObservationIds : List ObservationId
  sampleInfluenceWeight : Option F64
  qualityFlag : Option String
  isAugmented : Bool
  excluded : Bool
  metadata : BTreeMap String Json
  tags : List String

structure CoordinatorRelationSet where
  records : List CoordinatorRelation

namespace CoordinatorRelation

/-- `CoordinatorRelation::new`. -/
def new (observationId : ObservationId) (sampleId : SampleId) : CoordinatorRelation where
  unitLevel := .observation
  unitId := none
  observationId := observationId
  sampleId := sampleId
  sourceId := none
  repId := none
  targetId := none
  groupId := none
  originSampleId := none
  derivedUnitId := none
  componentObservationIds := []
  sampleInfluenceWeight := none
  qualityFlag := none
  isAugmented := false
  excluded := false
  metadata := ∅
  tags := []

variable (r : CoordinatorRelation)

def effectiveUnitId : Result String := do
  forM [("unit_id", r.unitId), ("rep_id", r.repId), ("derived_unit_id", r.derivedUnitId),
      ("quality_flag", r.qualityFlag)] fun field =>
    rejectIf (field.2.any fun text => isBlank text || text.toList.any isControl)
      (.validation s!"relation `{r.observationId}` has invalid {field.1}")
  match r.unitId with
  | some unitId => pure unitId
  | none =>
    match r.unitLevel with
    | .physicalSample => pure r.sampleId.value
    | .observation => pure r.observationId.value
    | .sourceSample => do
      let source ← require r.sourceId (.validation "source_sample relation requires source_id")
      pure s!"{r.sampleId}::{source}"
    | .combo => require r.derivedUnitId (.validation "combo relation requires derived_unit_id")

/-- The derived `PartialEq`: it compares weights as floats and metadata as JSON values. -/
def eq (a b : CoordinatorRelation) : Bool :=
  a.unitLevel == b.unitLevel && a.unitId == b.unitId && a.observationId == b.observationId &&
    a.sampleId == b.sampleId && a.sourceId == b.sourceId && a.repId == b.repId &&
    a.targetId == b.targetId && a.groupId == b.groupId &&
    a.originSampleId == b.originSampleId && a.derivedUnitId == b.derivedUnitId &&
    a.componentObservationIds == b.componentObservationIds &&
    (match a.sampleInfluenceWeight, b.sampleInfluenceWeight with
      | some x, some y => x.eq y
      | none, none => true
      | _, _ => false) &&
    a.qualityFlag == b.qualityFlag && a.isAugmented == b.isAugmented &&
    a.excluded == b.excluded && a.metadata.toList == b.metadata.toList && a.tags == b.tags

instance : BEq CoordinatorRelation := ⟨CoordinatorRelation.eq⟩

end CoordinatorRelation

/-! ## Relation sets -/

/-- The observations and the units that the loop over the records has seen. -/
structure RelationSetLoop where
  seen : BTreeSet ObservationId
  units : BTreeSet String

/-- The identity and the components of a combo record. -/
def CoordinatorRelation.checkCombo (records : List CoordinatorRelation)
    (record : CoordinatorRelation) : Result Unit := do
  rejectIf (record.derivedUnitId.isNone || record.componentObservationIds.isEmpty ||
      record.originSampleId.any (· != record.sampleId))
    (.validation "combo relation has invalid identity or components")
  -- The source has one error for the three ways in which a component can be wrong.
  let invalid : DataError :=
    .validation "combo component is missing, repeated or belongs to another sample"
  rejectRepeats (fun _ => invalid) record.componentObservationIds
  forM record.componentObservationIds fun component =>
    rejectIf (component == record.observationId || !records.any fun row =>
        row.observationId == component && row.sampleId == record.sampleId) invalid

/-- The loop body of `CoordinatorRelationSet::validate`. -/
def CoordinatorRelation.check (records : List CoordinatorRelation) (st : RelationSetLoop)
    (record : CoordinatorRelation) : Result RelationSetLoop := do
  rejectIf (st.seen.contains record.observationId)
    (.validation s!"duplicate coordinator observation `{record.observationId}`")
  let unit ← record.effectiveUnitId
  rejectIf (st.units.contains unit)
    (.validation "coordinator relations contain duplicate unit IDs")
  rejectIf (record.sampleInfluenceWeight.any fun w => !w.isFinite || w.leZero)
    (.validation "relation sample_influence_weight must be finite and positive")
  rejectIf (record.unitLevel != .combo && !record.componentObservationIds.isEmpty)
    (.validation "component observations require a combo relation")
  if record.unitLevel == .combo then record.checkCombo records else pure ()
  pure ⟨st.seen.insert record.observationId, st.units.insert unit⟩

def CoordinatorRelationSet.validate (set : CoordinatorRelationSet) : Result Unit := do
  rejectIf set.records.isEmpty (.validation "coordinator relation set contains no records")
  let _ ← set.records.foldlM (CoordinatorRelation.check set.records) ⟨∅, ∅⟩

/-! ## Fingerprint -/

def CoordinatorEntityUnitLevel.name : CoordinatorEntityUnitLevel → String
  | .physicalSample => "physical_sample"
  | .sourceSample => "source_sample"
  | .observation => "observation"
  | .combo => "combo"

/-- The serialized fields, in declared order. -/
def CoordinatorRelation.jsonFields (r : CoordinatorRelation) : List (String × Json) :=
  [("unit_level", .string r.unitLevel.name),
    ("unit_id", .ofOption .string r.unitId),
    ("observation_id", r.observationId.toJson),
    ("sample_id", r.sampleId.toJson),
    ("source_id", .ofOption Ident.toJson r.sourceId),
    ("rep_id", .ofOption .string r.repId),
    ("target_id", .ofOption Ident.toJson r.targetId),
    ("group_id", .ofOption Ident.toJson r.groupId),
    ("origin_sample_id", .ofOption Ident.toJson r.originSampleId),
    ("derived_unit_id", .ofOption .string r.derivedUnitId),
    ("component_observation_ids", .ofList Ident.toJson r.componentObservationIds),
    ("sample_influence_weight", .ofOption Json.ofF64 r.sampleInfluenceWeight),
    ("quality_flag", .ofOption .string r.qualityFlag),
    ("is_augmented", .bool r.isAugmented)] ++
  Json.fieldUnless (!r.excluded) "excluded" (.bool r.excluded) ++
  Json.fieldUnless r.metadata.isEmpty "metadata" (.ofMap r.metadata) ++
  Json.fieldUnless r.tags.isEmpty "tags" (.ofList .string r.tags)

namespace CoordinatorRelationSet

def toJson (set : CoordinatorRelationSet) : Json :=
  .object [("records", .ofList (fun r => .object r.jsonFields) set.records)]

/-- The order of the canonical records: by effective unit, then observation, then sample. -/
def canonicalLe (a b : String × CoordinatorRelation) : Bool :=
  ((compare a.1 b.1).then ((compare a.2.observationId b.2.observationId).then
    (compare a.2.sampleId b.2.sampleId))).isLE

/-- The records with their effective units, in canonical order. The sort is stable. -/
def canonicalJson (records : List (String × CoordinatorRelation)) : Json :=
  .ofList (fun p => .object (("effective_unit_id", .string p.1) :: p.2.jsonFields))
    (records.insertionSort fun a b => canonicalLe a b)

/-- `CoordinatorRelationSet::fingerprint`. -/
def fingerprint [ThirdParty] (set : CoordinatorRelationSet) : Result String := do
  set.validate
  let records ← set.records.mapM fun r => do pure ((← r.effectiveUnitId), r)
  pure (canonicalJson records).fingerprint

/-- The derived `PartialEq`. -/
instance : BEq CoordinatorRelationSet := ⟨fun a b => a.records == b.records⟩

end CoordinatorRelationSet

/-! ## Branch views -/

inductive CoordinatorBranchViewMode
  | separation
  | bySource
  | byMetadata
  | byTag
  | byFilter
deriving DecidableEq, Repr

structure CoordinatorBranchViewSelector where
  sourceIds : List SourceId
  metadata : BTreeMap String Json
  tags : List String
  filter : Option Json

structure CoordinatorBranchView where
  viewId : String
  branchId : String
  mode : CoordinatorBranchViewMode
  selector : CoordinatorBranchViewSelector
  metadata : BTreeMap String Json

structure NativeBranchViewFilter where
  metadataEquals : BTreeMap String Json
  tagsAll : List String

namespace NativeBranchViewFilter

/-- The field `metadata_equals`, empty when it is missing. -/
def metadataOf : Option Json → Option (BTreeMap String Json)
  | none => some ∅
  | some (.object fields) => some (BTreeMap.collect fields)
  | some _ => none

/-- The field `tags_all`, empty when it is missing. -/
def tagsOf : Option Json → Option (List String)
  | none => some []
  | some (.array items) => items.mapM Json.asStr
  | some _ => none

def ofFields (metadata tags : Option Json) : Option NativeBranchViewFilter := do
  pure ⟨← metadataOf metadata, ← tagsOf tags⟩

/-- `serde_json::from_value`: an object without unknown fields, or the fields in order. -/
def fromValue : Json → Option NativeBranchViewFilter
  | .object fields =>
    if fields.all fun f => f.1 == "metadata_equals" || f.1 == "tags_all" then
      ofFields (fields.lookup "metadata_equals") (fields.lookup "tags_all")
    else none
  | .array [] => ofFields none none
  | .array [metadata] => ofFields (some metadata) none
  | .array [metadata, tags] => ofFields (some metadata) (some tags)
  | _ => none

end NativeBranchViewFilter

/-- The loop over tags that stops at an empty or at a repeated one. -/
def checkTags (empty : DataError) (duplicate : String → DataError) :
    List String → List String → Result Unit
  | _, [] => .ok ()
  | seen, tag :: tags => do
    rejectIf (isBlank tag) empty
    rejectIf (decide (tag ∈ seen)) (duplicate tag)
    checkTags empty duplicate (tag :: seen) tags

/-- `parse_native_branch_view_filter`. -/
def parseNativeBranchViewFilter [ThirdParty] (value : Json) (label : String) :
    Result NativeBranchViewFilter := do
  let filter ← require (NativeBranchViewFilter.fromValue value)
    (.validation (s!"{label} mode=by_filter requires the native predicate " ++
      "\x7bmetadata_equals, tags_all\x7d: " ++ ThirdParty.filterError value))
  rejectIf (filter.metadataEquals.isEmpty && filter.tagsAll.isEmpty)
    (.validation
      s!"{label} mode=by_filter predicate must constrain metadata_equals or tags_all")
  forM filter.metadataEquals.toList fun entry => do
    rejectIf (isBlank entry.1)
      (.validation s!"{label} mode=by_filter metadata_equals contains an empty key")
    rejectIf entry.2.isNull
      (.validation s!"{label} mode=by_filter metadata_equals `{entry.1}` must not be null")
  checkTags (.validation s!"{label} mode=by_filter tags_all contains an empty entry")
    (fun tag => .validation s!"{label} mode=by_filter tags_all contains duplicate `{tag}`")
    [] filter.tagsAll
  pure filter

def CoordinatorBranchViewSelector.validate (selector : CoordinatorBranchViewSelector)
    (label : String) : Result Unit := do
  rejectIf (selector.sourceIds.isEmpty && selector.metadata.isEmpty && selector.tags.isEmpty &&
      selector.filter.isNone)
    (.validation s!"{label} selector must constrain source_ids, metadata, tags or filter")
  rejectRepeats
    (fun id => .validation s!"{label} selector source_ids contains duplicate `{id}`")
    selector.sourceIds
  checkTags (.validation s!"{label} selector tags contains an empty entry")
    (fun tag => .validation s!"{label} selector tags contains duplicate `{tag}`")
    [] selector.tags
  forM selector.metadata.keys fun key =>
    rejectIf (isBlank key) (.validation s!"{label} selector contains an empty metadata key")
  rejectIf (selector.filter.any Json.isNull)
    (.validation s!"{label} selector filter must not be null")

/-- How the errors name the view. -/
def CoordinatorBranchView.label (view : CoordinatorBranchView) : String :=
  s!"coordinator branch view `{view.viewId}`"

def CoordinatorBranchView.validate [ThirdParty] (view : CoordinatorBranchView) :
    Result Unit := do
  let selector := view.selector
  rejectIf (isBlank view.viewId) (.validation "coordinator branch view view_id is empty")
  rejectIf (isBlank view.branchId) (.validation s!"{view.label} branch_id is empty")
  selector.validate view.label
  forM view.metadata.keys fun key =>
    rejectIf (isBlank key) (.validation s!"{view.label} metadata contains an empty key")
  match view.mode with
  | .bySource =>
    rejectIf selector.sourceIds.isEmpty
      (.validation s!"{view.label} mode=by_source requires source_ids")
  | .byMetadata =>
    rejectIf selector.metadata.isEmpty
      (.validation s!"{view.label} mode=by_metadata requires metadata")
  | .byTag =>
    rejectIf selector.tags.isEmpty (.validation s!"{view.label} mode=by_tag requires tags")
  | .byFilter => do
    rejectIf (!selector.sourceIds.isEmpty || !selector.metadata.isEmpty ||
        !selector.tags.isEmpty)
      (.validation s!"{view.label} mode=by_filter accepts constraints only inside filter")
    let filter ← require selector.filter
      (.validation s!"{view.label} mode=by_filter requires filter")
    let _ ← parseNativeBranchViewFilter filter view.label
  | .separation => pure ()

end DagMlData
