import DagMlData.JsonRecord
import DagMlData.Schema

/-!
# Schemas as JSON

The JSON of a dataset schema, with sorted keys inside of its JSON values. `normalized` sorts
these values and keeps the rest: it is what the JSON of a part tells about the part
(`toJson_eq_iff`, part by part).

`jsonValues` lists the JSON values that a part carries. When these print, so does the part.
-/

namespace DagMlData

open SortOn

/-! ## Names -/

def AxisKind.name : AxisKind → String
  | .sample => "sample"
  | .feature => "feature"
  | .processing => "processing"
  | .time => "time"
  | .height => "height"
  | .width => "width"
  | .channel => "channel"
  | .node => "node"
  | .edge => "edge"
  | .variant => "variant"
  | .token => "token"
  | .target => "target"
  | .wavelength => "wavelength"
  | .wavenumber => "wavenumber"
  | .frequency => "frequency"
  | .depth => "depth"

def CoordinateDType.name : CoordinateDType → String
  | .numeric => "numeric"
  | .categorical => "categorical"
  | .datetime => "datetime"

/-- `as_str`. -/
def SignalKind.name : SignalKind → String
  | .absorbance => "absorbance"
  | .reflectance => "reflectance"
  | .transmittance => "transmittance"
  | .logReflectance => "log_reflectance"
  | .preprocessed => "preprocessed"
  | .unknown => "unknown"

def SourceGranularity.name : SourceGranularity → String
  | .perSample => "per_sample"
  | .perSampleRepeated => "per_sample_repeated"
  | .perSampleSequence => "per_sample_sequence"
  | .perSampleSet => "per_sample_set"
  | .perGroup => "per_group"
  | .perTarget => "per_target"

def MetadataValueKind.name : MetadataValueKind → String
  | .string => "string"
  | .number => "number"
  | .integer => "integer"
  | .boolean => "boolean"
  | .date => "date"
  | .datetime => "datetime"
  | .categorical => "categorical"
  | .json => "json"

def GroupKind.name : GroupKind → String
  | .repetitionGroup => "repetition_group"
  | .subject => "subject"
  | .batch => "batch"
  | .split => "split"
  | .custom => "custom"

theorem AxisKind.name_injective : Function.Injective AxisKind.name := by
  intro a b h
  cases a <;> cases b <;> first | rfl | (exact absurd h (by decide))

theorem CoordinateDType.name_injective : Function.Injective CoordinateDType.name := by
  intro a b h
  cases a <;> cases b <;> first | rfl | (exact absurd h (by decide))

theorem SignalKind.name_injective : Function.Injective SignalKind.name := by
  intro a b h
  cases a <;> cases b <;> first | rfl | (exact absurd h (by decide))

theorem SourceGranularity.name_injective : Function.Injective SourceGranularity.name := by
  intro a b h
  cases a <;> cases b <;> first | rfl | (exact absurd h (by decide))

theorem MetadataValueKind.name_injective : Function.Injective MetadataValueKind.name := by
  intro a b h
  cases a <;> cases b <;> first | rfl | (exact absurd h (by decide))

theorem GroupKind.name_injective : Function.Injective GroupKind.name := by
  intro a b h
  cases a <;> cases b <;> first | rfl | (exact absurd h (by decide))

/-! ## Representations -/

namespace CoordinateValues

/-- An internally tagged enumeration: the tag comes first. -/
def toJson : CoordinateValues → Json
  | .explicit values =>
    .record [("kind", some (.string "explicit")),
      ("values", some (.ofList Json.sortAllObjects values))]
  | .regularGrid start step =>
    .record [("kind", some (.string "regular_grid")), ("start", some (.ofF64 start)),
      ("step", some (.ofF64 step))]

def normalized : CoordinateValues → CoordinateValues
  | .explicit values => .explicit (values.map Json.sortAllObjects)
  | .regularGrid start step => .regularGrid start step

end CoordinateValues

namespace CoordinateSpec

def toJson (spec : CoordinateSpec) : Json :=
  .record [("dtype", some (.string spec.dtype.name)), ("ordered", some (.bool spec.ordered)),
    ("values", some spec.values.toJson)]

def normalized (spec : CoordinateSpec) : CoordinateSpec :=
  { spec with values := spec.values.normalized }

end CoordinateSpec

namespace AxisSpec

def toJson (axis : AxisSpec) : Json :=
  .record [("name", some (.string axis.name)), ("kind", some (.string axis.kind.name)),
    ("unit", some (.ofOption .string axis.unit)), ("size", some (.ofOption .ofUsize axis.size)),
    ("variable", some (.bool axis.isVariable)),
    ("coordinate", axis.coordinate.map CoordinateSpec.toJson)]

def normalized (axis : AxisSpec) : AxisSpec :=
  { axis with coordinate := axis.coordinate.map CoordinateSpec.normalized }

end AxisSpec

def AxisSizeContract.toJson (contract : AxisSizeContract) : Json :=
  .record [("exact", contract.exactSize.map .ofUsize), ("min", contract.min.map .ofUsize),
    ("max", contract.max.map .ofUsize)]

def ShapeContract.toJson (contract : ShapeContract) : Json :=
  .record [("rank", contract.rank.map .ofUsize),
    ("axis_sizes", Json.skipIf contract.axisSizes.isEmpty
      (.ofEntries id AxisSizeContract.toJson contract.axisSizes)),
    ("allow_ragged", some (.bool contract.allowRagged))]

namespace RepresentationSpec

def toJson (representation : RepresentationSpec) : Json :=
  .record [("id", some representation.id.toJson), ("type_id", some representation.typeId.toJson),
    ("rank", some (.ofOption .ofUsize representation.rank)),
    ("axes", some (.ofList AxisSpec.toJson representation.axes)),
    ("container", some (.string representation.container)),
    ("dtype", some (.ofOption .string representation.dtype)),
    ("sparse", some (.bool representation.sparse)),
    ("ragged", some (.bool representation.ragged)),
    ("signal_type", representation.signalType.map fun signal => .string signal.name)]

def normalized (representation : RepresentationSpec) : RepresentationSpec :=
  { representation with axes := representation.axes.map AxisSpec.normalized }

end RepresentationSpec

/-! ## The parts of a schema -/

namespace SourceDescriptor

def toJson (source : SourceDescriptor) : Json :=
  .record [("id", some source.id.toJson), ("name", some (.string source.name)),
    ("type_id", some source.typeId.toJson), ("modality", some (.string source.modality)),
    ("native_representation", some source.nativeRepresentation.toJson),
    ("sample_key", some (.string source.sampleKey)),
    ("granularity", some (.string source.granularity.name)),
    ("schema", some (.ofMap source.schema)), ("tags", some (.ofMap source.tags)),
    ("shape_contract", source.shapeContract.map ShapeContract.toJson)]

def normalized (source : SourceDescriptor) : SourceDescriptor :=
  { source with
    nativeRepresentation := source.nativeRepresentation.normalized
    schema := sortedMap source.schema
    tags := sortedMap source.tags }

end SourceDescriptor

namespace MetadataFieldSpec

def toJson (field : MetadataFieldSpec) : Json :=
  .record [("kind", some (.string field.kind.name)), ("required", some (.bool field.required)),
    ("unit", field.unit.map .string),
    ("allowed_values", Json.skipIf field.allowedValues.isEmpty
      (.ofList Json.sortAllObjects field.allowedValues)),
    ("description", field.description.map .string)]

def normalized (field : MetadataFieldSpec) : MetadataFieldSpec :=
  { field with allowedValues := field.allowedValues.map Json.sortAllObjects }

end MetadataFieldSpec

namespace MetadataSchema

def toJson (schema : MetadataSchema) : Json :=
  .record [("fields", Json.skipIf schema.fields.isEmpty
    (.ofEntries id MetadataFieldSpec.toJson schema.fields))]

def normalized (schema : MetadataSchema) : MetadataSchema :=
  ⟨schema.fields.map fun _ => MetadataFieldSpec.normalized⟩

end MetadataSchema

namespace GroupSpec

def toJson (group : GroupSpec) : Json :=
  .record [("id", some group.id.toJson), ("kind", some (.string group.kind.name)),
    ("column", some (.string group.column)), ("source_id", group.sourceId.map Ident.toJson),
    ("strict", some (.bool group.strict)),
    ("metadata", Json.skipIf group.metadata.isEmpty (.ofMap group.metadata))]

def normalized (group : GroupSpec) : GroupSpec :=
    { group with metadata := sortedMap group.metadata }

end GroupSpec

namespace FoldSpec

def toJson (fold : FoldSpec) : Json :=
  .record [("id", some (.string fold.id)), ("group_id", fold.groupId.map Ident.toJson),
    ("split_column", fold.splitColumn.map .string),
    ("metadata", Json.skipIf fold.metadata.isEmpty (.ofMap fold.metadata))]

def normalized (fold : FoldSpec) : FoldSpec := { fold with metadata := sortedMap fold.metadata }

end FoldSpec

def DatasetSchema.toJson (schema : DatasetSchema) : Json :=
  .record [("dataset_id", some (.string schema.datasetId)),
    ("sample_ids", some (.ofList Ident.toJson schema.sampleIds)),
    ("sources", some (.ofList SourceDescriptor.toJson schema.sources)),
    ("targets", some (.ofEntries Ident.value RepresentationSpec.toJson schema.targets)),
    ("metadata", some (.ofEntries id RepresentationSpec.toJson schema.metadata)),
    ("metadata_schema", schema.metadataSchema.map MetadataSchema.toJson),
    ("groups", Json.skipIf schema.groups.isEmpty (.ofList GroupSpec.toJson schema.groups)),
    ("folds", Json.skipIf schema.folds.isEmpty (.ofList FoldSpec.toJson schema.folds))]

/-! ## What the JSON tells -/

theorem CoordinateValues.toJson_eq_iff {a b : CoordinateValues}
    (ha : ∀ start step, a = .regularGrid start step → start.isFinite = true ∧
      step.isFinite = true)
    (hb : ∀ start step, b = .regularGrid start step → start.isFinite = true ∧
      step.isFinite = true) :
    a.toJson = b.toJson ↔ a.normalized = b.normalized := by
  cases a with
  | explicit xs =>
    cases b with
    | explicit ys =>
      refine Iff.trans (Json.record_inj rfl (by simp)) ?_
      simp [normalized, Json.ofList]
    | regularGrid start step =>
      refine iff_of_false (fun h => ?_) (fun h => ?_)
      · simp [toJson, Json.record, Json.present] at h
      · cases h
  | regularGrid start step =>
    obtain ⟨hstart, hstep⟩ := ha start step rfl
    cases b with
    | explicit ys =>
      refine iff_of_false (fun h => ?_) (fun h => ?_)
      · simp [toJson, Json.record, Json.present] at h
      · cases h
    | regularGrid start' step' =>
      obtain ⟨hstart', hstep'⟩ := hb start' step' rfl
      refine Iff.trans (Json.record_inj rfl (by simp)) ?_
      simp [normalized, Json.ofF64, hstart, hstep, hstart', hstep']

theorem CoordinateSpec.toJson_eq_iff {a b : CoordinateSpec} (ha : a.FiniteGrid)
    (hb : b.FiniteGrid) : a.toJson = b.toJson ↔ a.normalized = b.normalized := by
  have hvalues := CoordinateValues.toJson_eq_iff ha hb
  refine Iff.trans (Json.record_inj rfl (by simp)) ?_
  simp [normalized, hvalues, CoordinateDType.name_injective.eq_iff]

theorem AxisSpec.toJson_eq_iff {a b : AxisSpec} (ha : a.FiniteGrid) (hb : b.FiniteGrid) :
    a.toJson = b.toJson ↔ a.normalized = b.normalized := by
  have hcoordinate := Json.map_option_eq_iff (f := CoordinateSpec.toJson)
    (g := CoordinateSpec.normalized) fun x hx y hy =>
      CoordinateSpec.toJson_eq_iff (ha x hx) (hb y hy)
  refine Iff.trans (Json.record_inj rfl (by simp)) ?_
  simp [normalized, hcoordinate, AxisKind.name_injective.eq_iff]

theorem RepresentationSpec.toJson_eq_iff {a b : RepresentationSpec} (ha : a.FiniteGrids)
    (hb : b.FiniteGrids) : a.toJson = b.toJson ↔ a.normalized = b.normalized := by
  have haxes := Json.ofList_eq_iff (f := AxisSpec.toJson) (g := AxisSpec.normalized)
    fun x hx y hy => AxisSpec.toJson_eq_iff (ha x hx) (hb y hy)
  have hsignal : Function.Injective fun signal : SignalKind => Json.string signal.name :=
    Json.string_injective.comp SignalKind.name_injective
  refine Iff.trans (Json.record_inj rfl (by simp)) ?_
  simp [normalized, haxes, (Option.map_injective hsignal).eq_iff]

theorem AxisSizeContract.toJson_injective : Function.Injective AxisSizeContract.toJson := by
  have hiff : ∀ a b : AxisSizeContract, a.toJson = b.toJson ↔ a = b := by
    rintro ⟨_, _, _⟩ ⟨_, _, _⟩
    refine Iff.trans (Json.record_inj rfl (by simp)) ?_
    simp [(Option.map_injective Json.ofUsize_injective).eq_iff]
  exact fun a b => (hiff a b).mp

theorem ShapeContract.toJson_injective : Function.Injective ShapeContract.toJson := by
  have hiff : ∀ a b : ShapeContract, a.toJson = b.toJson ↔ a = b := by
    rintro ⟨_, sizes, _⟩ ⟨_, sizes', _⟩
    have hsizes := Json.skipIf_ofEntries_eq_iff (f := AxisSizeContract.toJson) (g := id)
      Function.injective_id fun x (_ : x ∈ Json.valuesOf sizes) y
        (_ : y ∈ Json.valuesOf sizes') => AxisSizeContract.toJson_injective.eq_iff
    have hid : ∀ m : BTreeMap String AxisSizeContract, (m.map fun _ => id) = m :=
      fun _ => Std.ExtTreeMap.map_id
    rw [hid, hid] at hsizes
    refine Iff.trans (Json.record_inj rfl (by simp)) ?_
    simp [hsizes, (Option.map_injective Json.ofUsize_injective).eq_iff]
  exact fun a b => (hiff a b).mp

theorem SourceDescriptor.toJson_eq_iff {a b : SourceDescriptor}
    (ha : a.nativeRepresentation.FiniteGrids) (hb : b.nativeRepresentation.FiniteGrids) :
    a.toJson = b.toJson ↔ a.normalized = b.normalized := by
  have hnative := RepresentationSpec.toJson_eq_iff ha hb
  refine Iff.trans (Json.record_inj rfl (by simp)) ?_
  simp [normalized, sortedMap, hnative, SourceGranularity.name_injective.eq_iff,
    (Option.map_injective ShapeContract.toJson_injective).eq_iff]

theorem MetadataFieldSpec.toJson_eq_iff {a b : MetadataFieldSpec} :
    a.toJson = b.toJson ↔ a.normalized = b.normalized := by
  have hvalues := Json.skipIf_ofList_eq_iff (f := Json.sortAllObjects) (g := Json.sortAllObjects)
    fun x (_ : x ∈ a.allowedValues) y (_ : y ∈ b.allowedValues) => Iff.rfl
  refine Iff.trans (Json.record_inj rfl (by simp)) ?_
  simp [normalized, hvalues, MetadataValueKind.name_injective.eq_iff,
    (Option.map_injective Json.string_injective).eq_iff]

theorem MetadataSchema.toJson_eq_iff {a b : MetadataSchema} :
    a.toJson = b.toJson ↔ a.normalized = b.normalized := by
  have hfields := Json.skipIf_ofEntries_eq_iff (f := MetadataFieldSpec.toJson)
    (g := MetadataFieldSpec.normalized) Function.injective_id
    fun x (_ : x ∈ Json.valuesOf a.fields) y (_ : y ∈ Json.valuesOf b.fields) =>
      MetadataFieldSpec.toJson_eq_iff
  refine Iff.trans (Json.record_inj rfl (by simp)) ?_
  simp [normalized, hfields]

theorem GroupSpec.toJson_eq_iff {a b : GroupSpec} :
    a.toJson = b.toJson ↔ a.normalized = b.normalized := by
  refine Iff.trans (Json.record_inj rfl (by simp)) ?_
  simp [normalized, skipIf_ofMap_eq_iff, GroupKind.name_injective.eq_iff,
    (Option.map_injective Ident.toJson_injective).eq_iff]

theorem FoldSpec.toJson_eq_iff {a b : FoldSpec} :
    a.toJson = b.toJson ↔ a.normalized = b.normalized := by
  refine Iff.trans (Json.record_inj rfl (by simp)) ?_
  simp [normalized, skipIf_ofMap_eq_iff, (Option.map_injective Json.string_injective).eq_iff,
    (Option.map_injective Ident.toJson_injective).eq_iff]

/-! ## The JSON values of a schema -/

def CoordinateSpec.jsonValues (spec : CoordinateSpec) : List Json :=
  match spec.values with
  | .explicit values => values
  | .regularGrid _ _ => []

def RepresentationSpec.jsonValues (representation : RepresentationSpec) : List Json :=
  representation.axes.flatMap fun axis => axis.coordinate.toList.flatMap CoordinateSpec.jsonValues

def SourceDescriptor.jsonValues (source : SourceDescriptor) : List Json :=
  source.nativeRepresentation.jsonValues ++ Json.valuesOf source.schema ++ Json.valuesOf source.tags

def MetadataSchema.jsonValues (schema : MetadataSchema) : List Json :=
  (Json.valuesOf schema.fields).flatMap (·.allowedValues)

def DatasetSchema.jsonValues (schema : DatasetSchema) : List Json :=
  schema.sources.flatMap SourceDescriptor.jsonValues ++
    (Json.valuesOf schema.targets).flatMap RepresentationSpec.jsonValues ++
    (Json.valuesOf schema.metadata).flatMap RepresentationSpec.jsonValues ++
    schema.metadataSchema.toList.flatMap MetadataSchema.jsonValues ++
    schema.groups.flatMap (fun group => Json.valuesOf group.metadata) ++
    schema.folds.flatMap fun fold => Json.valuesOf fold.metadata

theorem CoordinateSpec.prints_toJson {spec : CoordinateSpec}
    (h : ∀ j ∈ spec.jsonValues, j.Prints) : spec.toJson.Prints := by
  obtain ⟨dtype, ordered, values⟩ := spec
  have hvalues : values.toJson.Prints := by
    cases values with
    | explicit values =>
      have hsorted : ∀ j ∈ values, j.sortAllObjects.Prints :=
        fun j hj => Json.prints_sortAllObjects (h j hj)
      simpa [CoordinateValues.toJson] using hsorted
    | regularGrid start step => simp [CoordinateValues.toJson]
  simp [toJson, hvalues]

theorem RepresentationSpec.prints_toJson {representation : RepresentationSpec}
    (h : ∀ j ∈ representation.jsonValues, j.Prints) : representation.toJson.Prints := by
  have haxes : ∀ axis ∈ representation.axes, axis.toJson.Prints := by
    intro axis haxis
    have hcoordinate : ∀ coordinate, axis.coordinate = some coordinate →
        coordinate.toJson.Prints := by
      intro coordinate hsome
      refine coordinate.prints_toJson fun j hj => h j ?_
      exact List.mem_flatMap.mpr ⟨axis, haxis, by simpa [hsome] using hj⟩
    simpa [AxisSpec.toJson] using hcoordinate
  simpa [toJson] using haxes

theorem SourceDescriptor.prints_toJson {source : SourceDescriptor}
    (h : ∀ j ∈ source.jsonValues, j.Prints) : source.toJson.Prints := by
  rw [jsonValues, List.forall_mem_append, List.forall_mem_append] at h
  obtain ⟨⟨hnative, hschema⟩, htags⟩ := h
  have hcontract : ∀ contract : ShapeContract, contract.toJson.Prints := by
    intro contract
    simp [ShapeContract.toJson, AxisSizeContract.toJson]
  simp [toJson, RepresentationSpec.prints_toJson hnative, Json.prints_ofMap hschema,
    Json.prints_ofMap htags, hcontract]

theorem MetadataSchema.prints_toJson {schema : MetadataSchema}
    (h : ∀ j ∈ schema.jsonValues, j.Prints) : schema.toJson.Prints := by
  have hfields : ∀ field ∈ Json.valuesOf schema.fields, field.toJson.Prints := by
    intro field hfield
    have hvalues : ∀ j ∈ field.allowedValues, j.sortAllObjects.Prints := by
      intro j hj
      exact Json.prints_sortAllObjects (h j (List.mem_flatMap.mpr ⟨field, hfield, hj⟩))
    simpa [MetadataFieldSpec.toJson] using fun _ => hvalues
  simpa [toJson] using fun _ => hfields

theorem GroupSpec.prints_toJson {group : GroupSpec}
    (h : ∀ j ∈ Json.valuesOf group.metadata, j.Prints) : group.toJson.Prints := by
  simp [toJson, Json.prints_ofMap h]

theorem FoldSpec.prints_toJson {fold : FoldSpec}
    (h : ∀ j ∈ Json.valuesOf fold.metadata, j.Prints) : fold.toJson.Prints := by
  simp [toJson, Json.prints_ofMap h]

theorem DatasetSchema.prints_toJson {schema : DatasetSchema}
    (h : ∀ j ∈ schema.jsonValues, j.Prints) : schema.toJson.Prints := by
  simp only [jsonValues, List.forall_mem_append, List.forall_mem_flatMap] at h
  obtain ⟨⟨⟨⟨⟨hsources, htargets⟩, hmetadata⟩, hschema⟩, hgroups⟩, hfolds⟩ := h
  have hsources' : ∀ source ∈ schema.sources, source.toJson.Prints :=
    fun source hsource => source.prints_toJson (hsources source hsource)
  have htargets' : ∀ r ∈ Json.valuesOf schema.targets, r.toJson.Prints :=
    fun r hr => r.prints_toJson (htargets r hr)
  have hmetadata' : ∀ r ∈ Json.valuesOf schema.metadata, r.toJson.Prints :=
    fun r hr => r.prints_toJson (hmetadata r hr)
  have hschema' : ∀ s, schema.metadataSchema = some s → s.toJson.Prints :=
    fun s hs => s.prints_toJson (hschema s (by simp [hs]))
  have hgroups' : ∀ group ∈ schema.groups, group.toJson.Prints :=
    fun group hgroup => group.prints_toJson (hgroups group hgroup)
  have hfolds' : ∀ fold ∈ schema.folds, fold.toJson.Prints :=
    fun fold hfold => fold.prints_toJson (hfolds fold hfold)
  simpa [toJson] using
    ⟨hsources', htargets', hmetadata', hschema', fun _ => hgroups', fun _ => hfolds'⟩

end DagMlData
