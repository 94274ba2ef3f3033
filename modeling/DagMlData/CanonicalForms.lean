import DagMlData.CohortConstruction
import DagMlData.FoldLeakage
import DagMlData.FoldSetValid
import DagMlData.RelationJson
import DagMlData.RelationValid
import DagMlData.SchemaJson

/-!
# Canonical forms

Each fingerprint sorts some lists of its value by a key, prints the result as JSON with sorted
keys inside, and digests the text. The validators make the keys distinct, so the sorted list does
not depend on the order before, and nothing but this order is lost.

* `SameUpToOrder`: for each kind of value, equality up to the order of its lists.
* `Identifies`: the canonical text and the fingerprint tell values apart exactly up to a relation.
* `fingerprints_identify`: they do, for all four kinds and this relation.
-/

namespace DagMlData

open Guard RustText SortOn

/-! ## Fold sets -/

theorem skipIf_partitionMode_eq_iff {a b : FoldPartitionMode} :
    Json.skipIf (a == .partition) (.string a.name) = Json.skipIf (b == .partition)
      (.string b.name) ↔
      a = b := by
  cases a <;> cases b <;> simp [Json.skipIf]

theorem skipIf_trainExclusion_eq_iff {a b : FoldTrainExclusion} :
    Json.skipIf (a == .relations) (.string a.name) = Json.skipIf (b == .relations)
      (.string b.name) ↔
      a = b := by
  cases a <;> cases b <;> simp [Json.skipIf]

theorem skipIf_sampleIds_eq_iff {xs ys : List SampleId} :
    Json.skipIf xs.isEmpty (.ofList Ident.toJson xs) =
      Json.skipIf ys.isEmpty (.ofList Ident.toJson ys) ↔ xs = ys := by
  have hlists := Json.skipIf_ofList_eq_iff (f := Ident.toJson) (g := id)
    fun x (_ : x ∈ xs) y (_ : y ∈ ys) => Ident.toJson_injective.eq_iff
  rwa [List.map_id, List.map_id] at hlists

theorem skipIf_sampleGroups_eq_iff {m m' : BTreeMap SampleId GroupId} :
    Json.skipIf m.isEmpty (.ofEntries Ident.value Ident.toJson m) =
      Json.skipIf m'.isEmpty (.ofEntries Ident.value Ident.toJson m') ↔ m = m' := by
  have hmaps := Json.skipIf_ofEntries_eq_iff (f := Ident.toJson) (g := id) Ident.value_injective
    fun x (_ : x ∈ Json.valuesOf m) y (_ : y ∈ Json.valuesOf m') =>
      Ident.toJson_injective.eq_iff
  have hid : ∀ m : BTreeMap SampleId GroupId, (m.map fun _ => id) = m :=
    fun _ => Std.ExtTreeMap.map_id
  rwa [hid, hid] at hmaps

namespace FoldAssignment

/-- The assignment with sorted samples. -/
def canonical (fold : FoldAssignment) : FoldAssignment :=
  { fold with
    trainSampleIds := sorted fold.trainSampleIds
    validationSampleIds := sorted fold.validationSampleIds }

structure SameUpToOrder (a b : FoldAssignment) : Prop where
  foldId : a.foldId = b.foldId
  trainSampleIds : a.trainSampleIds.Perm b.trainSampleIds
  validationSampleIds : a.validationSampleIds.Perm b.validationSampleIds
  metadata : sortedMap a.metadata = sortedMap b.metadata

theorem canonical_eq_iff {a b : FoldAssignment} :
    a.canonical.normalized = b.canonical.normalized ↔ a.SameUpToOrder b := by
  simp only [canonical, normalized, FoldAssignment.mk.injEq, sorted_eq_iff]
  constructor
  · rintro ⟨hid, htrain, hvalidation, hmetadata⟩
    exact ⟨hid, htrain, hvalidation, hmetadata⟩
  · rintro ⟨hid, htrain, hvalidation, hmetadata⟩
    exact ⟨hid, htrain, hvalidation, hmetadata⟩

end FoldAssignment

namespace FoldSet

/-- The fold set with sorted samples and folds. -/
def canonical (foldSet : FoldSet) : FoldSet :=
  { foldSet with
    sampleIds := sorted foldSet.sampleIds
    targetMissingSampleIds := sorted foldSet.targetMissingSampleIds
    folds := (sortOn (·.foldId) foldSet.folds).map FoldAssignment.canonical }

/-- What is printed and digested. The keys of all objects are sorted. -/
def canonicalJson (foldSet : FoldSet) : Json :=
  (removeEmptyFoldSetMaps foldSet.canonical.toJson).sortAllObjects

def jsonValues (foldSet : FoldSet) : List Json :=
  foldSet.folds.flatMap fun fold => Json.valuesOf fold.metadata

structure SameUpToOrder (a b : FoldSet) : Prop where
  id : a.id = b.id
  sampleIds : a.sampleIds.Perm b.sampleIds
  folds : ∃ folds : List FoldAssignment, folds.Perm a.folds ∧
    List.Forall₂ FoldAssignment.SameUpToOrder folds b.folds
  sampleGroups : a.sampleGroups = b.sampleGroups
  partitionMode : a.partitionMode = b.partitionMode
  trainExclusion : a.trainExclusion = b.trainExclusion
  targetMissingSampleIds : a.targetMissingSampleIds.Perm b.targetMissingSampleIds

/-- The sorted folds, as JSON with sorted keys. -/
theorem canonicalFolds_eq_iff {folds folds' : List FoldAssignment}
    (h : (folds.map (·.foldId)).Nodup) :
    Json.ofList (fun fold => fold.toJson.sortAllObjects)
        ((sortOn (·.foldId) folds).map FoldAssignment.canonical) =
      Json.ofList (fun fold => fold.toJson.sortAllObjects)
        ((sortOn (·.foldId) folds').map FoldAssignment.canonical) ↔
      ∃ paired : List FoldAssignment, paired.Perm folds ∧
        List.Forall₂ FoldAssignment.SameUpToOrder paired folds' := by
  rw [Json.ofList, Json.ofList, Json.array.injEq, List.map_map, List.map_map]
  refine Iff.trans (map_sortOn_eq_iff FoldAssignment.foldId FoldAssignment.foldId
    (fun fold => fold.canonical.toJson.sortAllObjects) (fun fold => fold.canonical.normalized)
    (fun _ => rfl) h fun x _ y _ => @FoldAssignment.sorted_toJson_eq_iff x.canonical y.canonical) ?_
  rw [map_perm_map_iff]
  simp only [FoldAssignment.canonical_eq_iff]

theorem canonicalJson_eq_iff {a b : FoldSet} (ha : (a.folds.map (·.foldId)).Nodup) :
    a.canonicalJson = b.canonicalJson ↔ a.SameUpToOrder b := by
  have hfolds := @canonicalFolds_eq_iff a.folds b.folds ha
  have hkeys : ∀ x y : SampleId, compare x.value y.value = compare x y := fun _ _ => rfl
  unfold canonicalJson
  rw [removeEmptyFoldSetMaps_toJson, removeEmptyFoldSetMaps_toJson]
  refine Iff.trans (Json.sortAllObjects_record_inj rfl (by simp)) ?_
  simp only [List.map_cons, List.map_nil, Json.sortedOption, Json.map_skipIf, Option.map_some,
    Json.sortAllObjects_ofList, Json.sortAllObjects_string, Json.sortAllObjects_toJson,
    Json.sortAllObjects_ofEntries hkeys, List.cons.injEq, Prod.mk.injEq, true_and, and_true,
    Option.some.injEq, Json.string.injEq, hfolds, Json.ofList_toJson_inj,
    skipIf_partitionMode_eq_iff, skipIf_trainExclusion_eq_iff, skipIf_sampleIds_eq_iff,
    skipIf_sampleGroups_eq_iff, sorted_eq_iff, canonical]
  constructor
  · rintro ⟨hid, hsamples, hfolds, hgroups, hmode, hexclusion, hmissing⟩
    exact ⟨hid, hsamples, hfolds, hgroups, hmode, hexclusion, hmissing⟩
  · rintro ⟨hid, hsamples, hfolds, hgroups, hmode, hexclusion, hmissing⟩
    exact ⟨hid, hsamples, hfolds, hgroups, hmode, hexclusion, hmissing⟩

theorem prints_canonicalJson {foldSet : FoldSet} (h : ∀ j ∈ foldSet.jsonValues, j.Prints) :
    foldSet.canonicalJson.Prints := by
  have hfolds : ∀ fold ∈ foldSet.canonical.folds, fold.toJson.Prints := by
    intro fold hfold
    obtain ⟨fold, hmem, rfl⟩ := List.mem_map.mp hfold
    have hvalues : ∀ j ∈ Json.valuesOf fold.metadata, j.Prints := fun j hj =>
      h j (List.mem_flatMap.mpr ⟨fold, (perm_sortOn _ _).mem_iff.mp hmem, hj⟩)
    simpa [FoldAssignment.toJson, FoldAssignment.canonical] using fun _ => hvalues
  rw [canonicalJson, removeEmptyFoldSetMaps_toJson]
  refine Json.prints_sortAllObjects ?_
  simpa [toJson] using hfolds

end FoldSet

/-- `fold_set_fingerprint`. -/
def foldSetFingerprint [ThirdParty] (foldSet : FoldSet) : Result String := do
  foldSet.validate
  pure foldSet.canonicalJson.fingerprint

/-! ## Relation tables -/

namespace SampleRelationTable

/-- The rows by observation, then by sample and by source. -/
def canonical (table : SampleRelationTable) : SampleRelationTable :=
  ⟨table.rows.insertionSort fun a b =>
    ((compare a.observationId b.observationId).then ((compare a.sampleId b.sampleId).then
      (compare a.sourceId b.sourceId))).isLE = true⟩

def canonicalJson (table : SampleRelationTable) : Json := table.canonical.toJson

def jsonValues (table : SampleRelationTable) : List Json :=
  table.rows.flatMap SampleRelation.jsonValues

structure SameUpToOrder (a b : SampleRelationTable) : Prop where
  rows : (a.rows.map SampleRelation.normalized).Perm (b.rows.map SampleRelation.normalized)

/-- The first criterion decides. -/
theorem canonical_eq {table : SampleRelationTable} (h : (table.rows.map (·.observationId)).Nodup) :
    table.canonical = ⟨sortOn (·.observationId) table.rows⟩ := by
  refine congrArg SampleRelationTable.mk (insertionSort_then h fun row => ?_)
  rw [Std.ReflOrd.compare_self, Std.ReflOrd.compare_self]
  rfl

theorem canonicalJson_eq_iff {a b : SampleRelationTable}
    (ha : (a.rows.map (·.observationId)).Nodup) (hb : (b.rows.map (·.observationId)).Nodup) :
    a.canonicalJson = b.canonicalJson ↔ a.SameUpToOrder b := by
  rw [canonicalJson, canonicalJson, canonical_eq ha, canonical_eq hb]
  refine Iff.trans (Json.record_inj rfl (by simp)) ?_
  have hrows := map_sortOn_eq_iff SampleRelation.observationId SampleRelation.observationId
    SampleRelation.toJson SampleRelation.normalized (fun _ => rfl) ha
    fun x _ y (_ : y ∈ b.rows) => SampleRelation.toJson_eq_iff
  simp only [List.cons.injEq, Prod.mk.injEq, true_and, and_true, Option.some.injEq, Json.ofList,
    Json.array.injEq, hrows]
  exact ⟨SameUpToOrder.mk, SameUpToOrder.rows⟩

theorem prints_canonicalJson {table : SampleRelationTable}
    (h : ∀ j ∈ table.jsonValues, j.Prints) :
    table.canonicalJson.Prints := by
  have hrows : ∀ row ∈ table.rows, row.toJson.Prints := fun row hrow =>
    row.prints_toJson fun j hj => h j (List.mem_flatMap.mpr ⟨row, hrow, hj⟩)
  simpa [canonicalJson, toJson, canonical] using hrows

end SampleRelationTable

/-- `sample_relation_fingerprint`. -/
def sampleRelationFingerprint [ThirdParty] (relations : SampleRelationTable) : Result String := do
  relations.validate
  pure relations.canonicalJson.fingerprint

/-! ## Dataset schemas -/

namespace DatasetSchema

/-- The schema with sorted samples, sources, groups and folds. -/
def canonical (schema : DatasetSchema) : DatasetSchema :=
  { schema with
    sampleIds := sorted schema.sampleIds
    sources := sortOn (·.id) schema.sources
    groups := sortOn (·.id) schema.groups
    folds := sortOn (·.id) schema.folds }

def canonicalJson (schema : DatasetSchema) : Json := schema.canonical.toJson

structure SameUpToOrder (a b : DatasetSchema) : Prop where
  datasetId : a.datasetId = b.datasetId
  sampleIds : a.sampleIds.Perm b.sampleIds
  sources : (a.sources.map SourceDescriptor.normalized).Perm (b.sources.map
    SourceDescriptor.normalized)
  targets : (a.targets.map fun _ => RepresentationSpec.normalized) =
    b.targets.map fun _ => RepresentationSpec.normalized
  metadata : (a.metadata.map fun _ => RepresentationSpec.normalized) =
    b.metadata.map fun _ => RepresentationSpec.normalized
  metadataSchema : a.metadataSchema.map MetadataSchema.normalized =
    b.metadataSchema.map MetadataSchema.normalized
  groups : (a.groups.map GroupSpec.normalized).Perm (b.groups.map GroupSpec.normalized)
  folds : (a.folds.map FoldSpec.normalized).Perm (b.folds.map FoldSpec.normalized)

theorem canonicalSources_eq_iff {a b : DatasetSchema} (ha : a.Accepted) (hb : b.Accepted) :
    Json.ofList SourceDescriptor.toJson (sortOn (·.id) a.sources) =
        Json.ofList SourceDescriptor.toJson (sortOn (·.id) b.sources) ↔
      (a.sources.map SourceDescriptor.normalized).Perm
        (b.sources.map SourceDescriptor.normalized) := by
  rw [Json.ofList, Json.ofList, Json.array.injEq]
  exact map_sortOn_eq_iff SourceDescriptor.id SourceDescriptor.id SourceDescriptor.toJson
    SourceDescriptor.normalized (fun _ => rfl) ha.sources
    fun x hx y hy => SourceDescriptor.toJson_eq_iff (ha.native x hx) (hb.native y hy)

theorem canonicalGroups_eq_iff {a b : DatasetSchema} (ha : a.Accepted) :
    Json.skipIf (sortOn (·.id) a.groups).isEmpty
          (Json.ofList GroupSpec.toJson (sortOn (·.id) a.groups)) =
        Json.skipIf (sortOn (·.id) b.groups).isEmpty
          (Json.ofList GroupSpec.toJson (sortOn (·.id) b.groups)) ↔
      (a.groups.map GroupSpec.normalized).Perm (b.groups.map GroupSpec.normalized) := by
  rw [Json.skipIf_ofList_eq_iff fun _ _ _ _ => GroupSpec.toJson_eq_iff]
  exact map_sortOn_eq_iff GroupSpec.id GroupSpec.id GroupSpec.normalized GroupSpec.normalized
    (fun _ => rfl) ha.groups fun _ _ _ _ => Iff.rfl

theorem canonicalFolds_eq_iff {a b : DatasetSchema} (ha : a.Accepted) :
    Json.skipIf (sortOn (·.id) a.folds).isEmpty
          (Json.ofList FoldSpec.toJson (sortOn (·.id) a.folds)) =
        Json.skipIf (sortOn (·.id) b.folds).isEmpty
          (Json.ofList FoldSpec.toJson (sortOn (·.id) b.folds)) ↔
      (a.folds.map FoldSpec.normalized).Perm (b.folds.map FoldSpec.normalized) := by
  rw [Json.skipIf_ofList_eq_iff fun _ _ _ _ => FoldSpec.toJson_eq_iff]
  exact map_sortOn_eq_iff FoldSpec.id FoldSpec.id FoldSpec.normalized FoldSpec.normalized
    (fun _ => rfl) ha.folds fun _ _ _ _ => Iff.rfl

theorem canonicalJson_eq_iff {a b : DatasetSchema} (ha : a.Accepted) (hb : b.Accepted) :
    a.canonicalJson = b.canonicalJson ↔ a.SameUpToOrder b := by
  have htargets := Json.ofEntries_eq_iff (f := RepresentationSpec.toJson)
    (g := RepresentationSpec.normalized) Ident.value_injective fun x hx y hy =>
      RepresentationSpec.toJson_eq_iff (List.forall_mem_map.mpr ha.targets x hx)
        (List.forall_mem_map.mpr hb.targets y hy)
  have hmetadata := Json.ofEntries_eq_iff (f := RepresentationSpec.toJson)
    (g := RepresentationSpec.normalized) Function.injective_id fun x hx y hy =>
      RepresentationSpec.toJson_eq_iff (List.forall_mem_map.mpr ha.metadata x hx)
        (List.forall_mem_map.mpr hb.metadata y hy)
  have hschema := Json.map_option_eq_iff (f := MetadataSchema.toJson)
    (g := MetadataSchema.normalized) fun x (_ : a.metadataSchema = some x) y
      (_ : b.metadataSchema = some y) => MetadataSchema.toJson_eq_iff
  refine Iff.trans (Json.record_inj rfl (by simp)) ?_
  simp only [List.cons.injEq, Prod.mk.injEq, true_and, and_true, Option.some.injEq,
    Json.string.injEq, Json.ofList_toJson_inj, sorted_eq_iff, canonicalSources_eq_iff ha hb,
    canonicalGroups_eq_iff ha, canonicalFolds_eq_iff ha, htargets, hmetadata, hschema, canonical]
  constructor
  · rintro ⟨hid, hsamples, hsources, htargets, hmetadata, hschema, hgroups, hfolds⟩
    exact ⟨hid, hsamples, hsources, htargets, hmetadata, hschema, hgroups, hfolds⟩
  · rintro ⟨hid, hsamples, hsources, htargets, hmetadata, hschema, hgroups, hfolds⟩
    exact ⟨hid, hsamples, hsources, htargets, hmetadata, hschema, hgroups, hfolds⟩

theorem prints_canonicalJson {schema : DatasetSchema} (h : ∀ j ∈ schema.jsonValues, j.Prints) :
    schema.canonicalJson.Prints := by
  refine schema.canonical.prints_toJson fun j hj => h j ?_
  simpa only [jsonValues, canonical, List.mem_append, List.mem_flatMap,
    (perm_sortOn _ _).mem_iff] using hj

end DatasetSchema

/-- `schema_fingerprint`. -/
def schemaFingerprint [ThirdParty] (schema : DatasetSchema) : Result String := do
  schema.validate
  pure schema.canonicalJson.fingerprint

/-! ## Relation sets -/

namespace CoordinatorRelation

@[simp] theorem unit_normalized (r : CoordinatorRelation) : r.normalized.unit = r.unit := rfl

/-- The object that is digested for a record. -/
def canonicalJson (r : CoordinatorRelation) : Json :=
  .object (("effective_unit_id", .string r.unit) :: r.jsonFields)

theorem canonicalJson_eq_iff {r r' : CoordinatorRelation} (hr : r.OwnOk) (hr' : r'.OwnOk) :
    r.canonicalJson = r'.canonicalJson ↔ r.normalized = r'.normalized := by
  rw [canonicalJson, canonicalJson, Json.object.injEq, List.cons.injEq,
    jsonFields_eq_iff (fun w hw => (hr.weight w hw).1) fun w hw => (hr'.weight w hw).1]
  refine and_iff_right_of_imp fun h => ?_
  rw [← unit_normalized, h, unit_normalized]

theorem prints_canonicalJson {r : CoordinatorRelation}
    (h : ∀ j ∈ Json.valuesOf r.metadata, j.Prints) : r.canonicalJson.Prints := by
  have hoptional : ∀ {skip : Bool} {key : String} {value : Json} {field : String × Json},
      value.Prints → field ∈ Json.fieldUnless skip key value → field.2.Prints := by
    intro skip key value field hvalue hfield
    cases skip with
    | true => cases hfield
    | false =>
      rw [List.mem_singleton.mp hfield]
      exact hvalue
  rw [canonicalJson, Json.prints_object, List.forall_mem_cons, jsonFields]
  refine ⟨trivial, ?_⟩
  rw [List.forall_mem_append, List.forall_mem_append, List.forall_mem_append]
  refine ⟨⟨⟨by simp, fun _ => hoptional trivial⟩,
    fun _ => hoptional (Json.prints_ofMap h)⟩,
    fun _ => hoptional (by simp)⟩

end CoordinatorRelation

namespace CoordinatorRelationSet

/-- The records by their effective units. -/
def digestedJson (set : CoordinatorRelationSet) : Json :=
  canonicalJson (set.records.map fun r => (r.unit, r))

def jsonValues (set : CoordinatorRelationSet) : List Json :=
  set.records.flatMap fun r => Json.valuesOf r.metadata

structure SameUpToOrder (a b : CoordinatorRelationSet) : Prop where
  records : a.normalized.Perm b.normalized

theorem Valid.fingerprint_eq [ThirdParty] {set : CoordinatorRelationSet} (h : set.Valid) :
    set.fingerprint = .ok set.digestedJson.fingerprint := by
  refine bind_eq_ok.mpr ⟨(), validate_eq_ok.mpr h,
    bind_eq_ok.mpr ⟨_, mapM_eq_ok.mpr ?_, rfl⟩⟩
  rw [List.forall₂_map_right_iff, List.forall₂_same]
  exact fun r hr => bind_eq_ok.mpr ⟨_, (h.own r hr).unit, rfl⟩

/-- The units decide. -/
theorem Valid.digestedJson_eq {set : CoordinatorRelationSet} (h : set.Valid) :
    set.digestedJson = .ofList CoordinatorRelation.canonicalJson
      (sortOn CoordinatorRelation.unit set.records) := by
  have hunits : ((set.records.map fun r => (r.unit, r)).map Prod.fst).Nodup := by
    rw [List.map_map]
    exact h.units
  have hsort : ((set.records.map fun r => (r.unit, r)).insertionSort fun a b => canonicalLe a b) =
      sortOn Prod.fst (set.records.map fun r => (r.unit, r)) := by
    refine insertionSort_then hunits fun a => ?_
    rw [Std.ReflOrd.compare_self, Std.ReflOrd.compare_self]
    rfl
  have hpairs : (sortOn CoordinatorRelation.unit set.records).map (fun r => (r.unit, r)) =
      sortOn Prod.fst (set.records.map fun r => (r.unit, r)) := by
    refine map_sortOn ?_ set.records
    exact fun _ => rfl
  unfold digestedJson canonicalJson
  rw [hsort, ← hpairs, Json.ofList, List.map_map]
  rfl

theorem digestedJson_eq_iff {a b : CoordinatorRelationSet} (ha : a.Valid) (hb : b.Valid) :
    a.digestedJson = b.digestedJson ↔ a.SameUpToOrder b := by
  rw [ha.digestedJson_eq, hb.digestedJson_eq, Json.ofList, Json.ofList, Json.array.injEq,
    map_sortOn_eq_iff CoordinatorRelation.unit CoordinatorRelation.unit
      CoordinatorRelation.canonicalJson CoordinatorRelation.normalized
      CoordinatorRelation.unit_normalized ha.units
      fun x hx y hy => CoordinatorRelation.canonicalJson_eq_iff (ha.own x hx) (hb.own y hy)]
  exact ⟨SameUpToOrder.mk, SameUpToOrder.records⟩

theorem prints_digestedJson {set : CoordinatorRelationSet} (hset : set.Valid)
    (h : ∀ j ∈ set.jsonValues, j.Prints) : set.digestedJson.Prints := by
  rw [hset.digestedJson_eq, Json.prints_ofList]
  intro r hr
  have hmem : r ∈ set.records := (perm_sortOn _ _).mem_iff.mp hr
  exact CoordinatorRelation.prints_canonicalJson
    fun j hj => h j (List.mem_flatMap.mpr ⟨r, hmem, hj⟩)

end CoordinatorRelationSet

/-! ## Identity -/

section Identity
variable [ThirdParty]

/-- A fingerprint that tells valid values apart exactly up to `Same`. The text is digested: two
values have one text when they are the same, and one fingerprint, unless two texts collide. -/
structure Identifies {α : Type} (validate : α → Result Unit)
    (fingerprint : α → Result String)
    (canonicalJson : α → Json) (jsonValues : α → List Json)
    (Same : α → α → Prop) : Prop where
  digest : ∀ a, validate a = .ok () → fingerprint a = .ok (canonicalJson a).fingerprint
  text : ∀ a b, validate a = .ok () → validate b = .ok () →
    (∀ j ∈ jsonValues a, j.Fits) → (∀ j ∈ jsonValues b, j.Fits) →
    ((canonicalJson a).compact = (canonicalJson b).compact ↔ Same a b)
  fingerprint : ∀ a b, validate a = .ok () → validate b = .ok () →
    (∀ j ∈ jsonValues a, j.Fits) → (∀ j ∈ jsonValues b, j.Fits) →
    DigestSeparates (bytes (canonicalJson a).compact) (bytes (canonicalJson b).compact) →
    (fingerprint a = fingerprint b ↔ Same a b)

/-- It is enough to look at the JSON that is printed. -/
theorem Identifies.of_json (htext : FloatText) {α : Type} {validate : α → Result Unit}
    {fingerprint : α → Result String} {canonicalJson : α → Json}
    {jsonValues : α → List Json}
    {Same : α → α → Prop}
    (hdigest : ∀ a, validate a = .ok () → fingerprint a = .ok (canonicalJson a).fingerprint)
    (hprints : ∀ a, validate a = .ok () → (∀ j ∈ jsonValues a, j.Prints) →
      (canonicalJson a).Prints)
    (hjson : ∀ a b, validate a = .ok () → validate b = .ok () →
      (canonicalJson a = canonicalJson b ↔ Same a b)) :
    Identifies validate fingerprint canonicalJson jsonValues Same := by
  have htexts : ∀ a b, validate a = .ok () → validate b = .ok () →
      (∀ j ∈ jsonValues a, j.Fits) → (∀ j ∈ jsonValues b, j.Fits) →
      ((canonicalJson a).compact = (canonicalJson b).compact ↔ Same a b) := by
    intro a b ha hb hfits hfits'
    rw [← hjson a b ha hb]
    constructor
    · exact Json.compact_inj htext (hprints a ha fun j hj => (hfits j hj).prints)
        (hprints b hb fun j hj => (hfits' j hj).prints)
    · exact congrArg Json.compact
  refine ⟨hdigest, htexts, fun a b ha hb hfits hfits' hseparates => ?_⟩
  rw [hdigest a ha, hdigest b hb, ← htexts a b ha hb hfits hfits']
  constructor
  · intro h
    exact bytes_injective (hseparates (Vector.toList_inj.mp (toHex_injective (Except.ok.inj h))))
  · intro h
    rw [Json.fingerprint, Json.fingerprint, h]

/-- The four fingerprints tell valid values apart exactly up to the order of their lists and the
order of the keys inside their JSON values. -/
theorem fingerprints_identify (htext : FloatText) :
    (∀ j k : Json, j.Fits → k.Fits →
      (j.sortAllObjects = k.sortAllObjects ↔ j.SameUpToKeys k)) ∧
    Identifies DatasetSchema.validate schemaFingerprint DatasetSchema.canonicalJson
      DatasetSchema.jsonValues DatasetSchema.SameUpToOrder ∧
    Identifies SampleRelationTable.validate sampleRelationFingerprint
      SampleRelationTable.canonicalJson SampleRelationTable.jsonValues
      SampleRelationTable.SameUpToOrder ∧
    Identifies FoldSet.validate foldSetFingerprint FoldSet.canonicalJson FoldSet.jsonValues
      FoldSet.SameUpToOrder ∧
    Identifies CoordinatorRelationSet.validate CoordinatorRelationSet.fingerprint
      CoordinatorRelationSet.digestedJson CoordinatorRelationSet.jsonValues
      CoordinatorRelationSet.SameUpToOrder := by
  refine ⟨fun j k hj _ => Json.sortAllObjects_eq_iff hj, ?_, ?_, ?_, ?_⟩
  · refine .of_json htext (fun a ha => bind_eq_ok.mpr ⟨(), ha, rfl⟩)
      (fun _ _ => DatasetSchema.prints_canonicalJson) fun a b ha hb => ?_
    exact DatasetSchema.canonicalJson_eq_iff (DatasetSchema.accepted_of_validate ha)
      (DatasetSchema.accepted_of_validate hb)
  · refine .of_json htext (fun a ha => bind_eq_ok.mpr ⟨(), ha, rfl⟩)
      (fun _ _ => SampleRelationTable.prints_canonicalJson) fun a b ha hb => ?_
    exact SampleRelationTable.canonicalJson_eq_iff
      (SampleRelationTable.valid_of_validate ha).observations_nodup
      (SampleRelationTable.valid_of_validate hb).observations_nodup
  · refine .of_json htext (fun a ha => bind_eq_ok.mpr ⟨(), ha, rfl⟩)
      (fun _ _ => FoldSet.prints_canonicalJson) fun a b ha _ => ?_
    exact FoldSet.canonicalJson_eq_iff (FoldSet.validate_eq_ok.mp ha).foldIds_nodup
  · refine .of_json htext
      (fun a ha => (CoordinatorRelationSet.validate_eq_ok.mp ha).fingerprint_eq)
      (fun a ha => CoordinatorRelationSet.prints_digestedJson
        (CoordinatorRelationSet.validate_eq_ok.mp ha)) fun a b ha hb => ?_
    exact CoordinatorRelationSet.digestedJson_eq_iff (CoordinatorRelationSet.validate_eq_ok.mp ha)
      (CoordinatorRelationSet.validate_eq_ok.mp hb)

end Identity

/-- Floats by their bits. -/
@[reducible] def bitsText : ThirdParty where
  sha256 _ := Vector.replicate 32 0
  formatF64 x := toString x.bits.toNat ++ ".0"
  filterError _ := "invalid type"
  alignmentError _ := "invalid type"

theorem floatText_bitsText : @FloatText bitsText := by
  let _ := bitsText
  have hlist : ∀ x : F64, (ThirdParty.formatF64 x).toList =
      (toString x.bits.toNat).toList ++ ['.', '0'] :=
    fun x => String.toList_append
  refine ⟨fun x y _ _ h => ?_, fun x _ c hc => ?_, fun x _ => ⟨'.', ?_, .inl rfl⟩⟩
  · have hchars := congrArg String.toList h
    rw [hlist, hlist] at hchars
    have hbits := Nat.repr_injective (String.toList_inj.mp (List.append_cancel_right hchars))
    cases x
    cases y
    exact congrArg F64.mk (UInt64.toNat_inj.mp hbits)
  · rw [hlist, List.mem_append] at hc
    rcases hc with hdigit | hfraction
    · rw [isNumberChar, digits_repr _ c hdigit]
      rfl
    · rcases List.mem_pair.mp hfraction with rfl | rfl <;> rfl
  · rw [hlist]
    simp

/-- The test fold set, with everything in another order. -/
def reorderedFoldSet : FoldSet :=
  { chainFoldSet with
    sampleIds := chainFoldSet.sampleIds.reverse
    folds := chainFoldSet.folds.reverse }

/-- The test fold set, without its folds' rule for the relations. -/
def looserFoldSet : FoldSet := { chainFoldSet with trainExclusion := .foldLocal }

/-- The order of samples and folds does not change the text, and another rule does. -/
theorem fingerprints_identify_chainFoldSet :
    letI := bitsText
    chainFoldSet.canonicalJson.compact = reorderedFoldSet.canonicalJson.compact ∧
      chainFoldSet.canonicalJson.compact ≠ looserFoldSet.canonicalJson.compact := by
  let _ := bitsText
  obtain ⟨-, -, -, hfolds, -⟩ := fingerprints_identify floatText_bitsText
  have hnone : ∀ foldSet : FoldSet, foldSet.jsonValues = [] →
      ∀ j ∈ foldSet.jsonValues, j.Fits := by
    intro foldSet hempty
    rw [hempty]
    exact List.forall_mem_nil _
  constructor
  · refine (hfolds.text chainFoldSet reorderedFoldSet (by decide +kernel) (by decide +kernel)
      (hnone _ (by decide +kernel)) (hnone _ (by decide +kernel))).mpr ?_
    have hsame : ∀ fold : FoldAssignment, fold.SameUpToOrder fold :=
      fun fold => ⟨rfl, .refl _, .refl _, rfl⟩
    exact ⟨rfl, (List.reverse_perm _).symm, ⟨_, List.reverse_perm _, List.forall₂_same.mpr
      fun fold _ => hsame fold⟩, rfl, rfl, rfl, .refl _⟩
  · intro h
    have hsame := (hfolds.text chainFoldSet looserFoldSet (by decide +kernel) (by decide +kernel)
      (hnone _ (by decide +kernel)) (hnone _ (by decide +kernel))).mp h
    exact absurd hsame.trainExclusion (by decide)

end DagMlData
