import DagMlData.ArrowExport
import DagMlData.RelationSetValid

/-!
# Identity relations in Arrow

`build_identity_relations_arrow`: seven columns of identities, and a column of JSON when a record
has more than they hold.

* `IdentityArrow.rows`, `IdentityArrow.rebuilt`: what a reader of the columnar layout sees.
* `identityArrow_lossless`: the records that a reader rebuilds are the exported ones.
-/

namespace DagMlData

open Guard RustText

/-! ## Building -/

inductive ChildArray
  | string (array : StringArray)
  | boolean (array : BoolArray)

structure FieldSchema where
  name : String
  format : String
  nullable : Bool

/-- The struct array with its schema. -/
structure IdentityArrow where
  length : Nat
  arrays : List ChildArray
  name : String
  schemas : List FieldSchema

namespace CoordinatorRelation

/-- The record has something that the seven columns do not hold. -/
def isRich (row : CoordinatorRelation) : Bool :=
  row.unitLevel != .observation || row.unitId.isSome || row.repId.isSome ||
    row.derivedUnitId.isSome || !row.componentObservationIds.isEmpty ||
    row.sampleInfluenceWeight.isSome || row.qualityFlag.isSome || row.excluded ||
    !row.metadata.isEmpty || !row.tags.isEmpty

/-- `serde_json::to_string` of the record. -/
def jsonText [ThirdParty] (row : CoordinatorRelation) : String :=
  (Json.object row.jsonFields).compact

end CoordinatorRelation

namespace CoordinatorRelationSet

variable (relations : CoordinatorRelationSet)

def isRich : Bool := relations.records.any (·.isRich)

/-- One column of the records. -/
def column {α : Type} (field : CoordinatorRelation → α) : List α := relations.records.map field

/-- `build_identity_relations_arrow`. -/
def buildIdentityRelationsArrow [ThirdParty] : Result IdentityArrow := do
  relations.validate
  let observationIds ← stringArray (relations.column fun r => some r.observationId.value)
  let sampleIds ← stringArray (relations.column fun r => some r.sampleId.value)
  let targetIds ← stringArray (relations.column fun r => r.targetId.map Ident.value)
  let groupIds ← stringArray (relations.column fun r => r.groupId.map Ident.value)
  let originSampleIds ← stringArray (relations.column fun r => r.originSampleId.map Ident.value)
  let sourceIds ← stringArray (relations.column fun r => r.sourceId.map Ident.value)
  let childArrays : List ChildArray :=
    [.string observationIds, .string sampleIds, .string targetIds, .string groupIds,
      .string originSampleIds, .string sourceIds,
      .boolean (boolArray (relations.column (·.isAugmented)))]
  let childSchemas : List FieldSchema :=
    [⟨"observation_id", "u", false⟩, ⟨"sample_id", "u", false⟩,
      ⟨"target_id", "u", true⟩,
      ⟨"group_id", "u", true⟩, ⟨"origin_sample_id", "u", true⟩,
        ⟨"source_id", "u", true⟩,
      ⟨"is_augmented", "b", false⟩]
  if relations.isRich then do
    let relationJson ← stringArray (relations.column fun r => some r.jsonText)
    pure ⟨relations.records.length, childArrays ++ [.string relationJson], "coordinator_identity",
      childSchemas ++ [⟨"relation_json", "u", false⟩]⟩
  else pure ⟨relations.records.length, childArrays, "coordinator_identity", childSchemas⟩

end CoordinatorRelationSet

/-! ## Reading -/

/-- What the seven columns hold of a record. -/
structure IdentityRow where
  observationId : Option String
  sampleId : Option String
  targetId : Option String
  groupId : Option String
  originSampleId : Option String
  sourceId : Option String
  isAugmented : Bool
deriving DecidableEq, Repr

/-- A text that is there has to be an identifier. -/
def optionalIdent (kind : IdKind) (text : Option String) : Option (Option (Ident kind)) :=
  match text with
  | none => some none
  | some value => (Ident.new kind value).toOption.map some

/-- The record of the seven columns, with the defaults of the constructor for the other fields. -/
def IdentityRow.rebuild (row : IdentityRow) : Option CoordinatorRelation := do
  let observationId ← (Ident.new .observation (← row.observationId)).toOption
  let sampleId ← (Ident.new .sample (← row.sampleId)).toOption
  let targetId ← optionalIdent .target row.targetId
  let groupId ← optionalIdent .group row.groupId
  let originSampleId ← optionalIdent .sample row.originSampleId
  let sourceId ← optionalIdent .source row.sourceId
  pure { CoordinatorRelation.new observationId sampleId with
    targetId := targetId
    groupId := groupId
    originSampleId := originSampleId
    sourceId := sourceId
    isAugmented := row.isAugmented }

namespace IdentityArrow

variable (arrow : IdentityArrow)

/-- The child array under a name of the schema. -/
def child (name : String) : Option ChildArray :=
  ((arrow.schemas.zip arrow.arrays).find? fun entry => entry.1.name == name).map Prod.snd

def textColumn (name : String) : Option (List (Option String)) :=
  match arrow.child name with
  | some (.string array) => array.decode
  | _ => none

def flagColumn (name : String) : Option (List Bool) :=
  match arrow.child name with
  | some (.boolean array) => some array.decode
  | _ => none

/-- The rows of the seven columns. -/
def rows : Option (List IdentityRow) := do
  let observationIds ← arrow.textColumn "observation_id"
  let sampleIds ← arrow.textColumn "sample_id"
  let targetIds ← arrow.textColumn "target_id"
  let groupIds ← arrow.textColumn "group_id"
  let originSampleIds ← arrow.textColumn "origin_sample_id"
  let sourceIds ← arrow.textColumn "source_id"
  let isAugmented ← arrow.flagColumn "is_augmented"
  pure ((List.range arrow.length).map fun i =>
    { observationId := observationIds.getD i none
      sampleId := sampleIds.getD i none
      targetId := targetIds.getD i none
      groupId := groupIds.getD i none
      originSampleId := originSampleIds.getD i none
      sourceId := sourceIds.getD i none
      isAugmented := isAugmented.getD i false })

def hasRelationJson : Bool := arrow.schemas.any fun field => field.name == "relation_json"

/-- The records that a reader rebuilds: from their JSON where there is any, else from the seven
columns. -/
def rebuilt (parse : String → Option CoordinatorRelation) : Option (List CoordinatorRelation) :=
  if arrow.hasRelationJson then do
    (← arrow.textColumn "relation_json").mapM fun text => text.bind parse
  else do
    (← arrow.rows).mapM IdentityRow.rebuild

end IdentityArrow

/-! ## One record -/

namespace CoordinatorRelation

/-- The fields of a record in the seven columns. -/
def identityRow (r : CoordinatorRelation) : IdentityRow where
  observationId := some r.observationId.value
  sampleId := some r.sampleId.value
  targetId := r.targetId.map Ident.value
  groupId := r.groupId.map Ident.value
  originSampleId := r.originSampleId.map Ident.value
  sourceId := r.sourceId.map Ident.value
  isAugmented := r.isAugmented

theorem optionalIdent_value {kind : IdKind} (id : Option (Ident kind)) :
    optionalIdent kind (id.map Ident.value) = some id := by
  cases id with
  | none => rfl
  | some id =>
    show (Ident.new kind id.value).toOption.map some = some (some id)
    rw [Ident.new_value]
    rfl

/-- A record that is not rich has its defaults wherever no column holds it. -/
theorem rebuild_identityRow {r : CoordinatorRelation} (h : r.isRich = false) :
    r.identityRow.rebuild = some r := by
  simp only [isRich, Bool.or_eq_false_iff, bne_eq_false_iff_eq, Option.isSome_eq_false_iff,
    Option.isNone_iff_eq_none, Bool.not_eq_false', List.isEmpty_iff, Std.ExtTreeMap.isEmpty_iff,
    and_assoc] at h
  obtain ⟨hlevel, hunit, hrep, hderived, hcomponents, hweight, hquality, hexcluded, hmetadata,
    htags⟩ := h
  cases r
  simp only at hlevel hunit hrep hderived hcomponents hweight hquality hexcluded hmetadata htags
  subst hlevel hunit hrep hderived hcomponents hweight hquality hexcluded hmetadata htags
  simp [IdentityRow.rebuild, identityRow, optionalIdent_value, CoordinatorRelation.new,
    Except.toOption]

end CoordinatorRelation

/-! ## The exported arrays -/

namespace CoordinatorRelationSet

variable [ThirdParty] (relations : CoordinatorRelationSet)

/-- The columns of text. -/
def textColumns : List (List (Option String)) :=
  [relations.column fun r => some r.observationId.value,
    relations.column fun r => some r.sampleId.value,
    relations.column fun r => r.targetId.map Ident.value,
    relations.column fun r => r.groupId.map Ident.value,
    relations.column fun r => r.originSampleId.map Ident.value,
    relations.column fun r => r.sourceId.map Ident.value] ++
  if relations.isRich then [relations.column fun r => some r.jsonText] else []

/-- The texts of every column fit in the offsets. -/
def FitsOffsets : Prop := ∀ column ∈ relations.textColumns, (payload column).length ≤ i32Max

/-- What a reader finds under the names of the schema. -/
structure Exported (arrow : IdentityArrow) : Prop where
  names : (arrow.schemas.map (·.name)).take 7 = ["observation_id", "sample_id", "target_id",
    "group_id", "origin_sample_id", "source_id", "is_augmented"]
  length : arrow.length = relations.records.length
  observationId : arrow.textColumn "observation_id" =
    some (relations.column fun r => some r.observationId.value)
  sampleId : arrow.textColumn "sample_id" = some (relations.column fun r => some r.sampleId.value)
  targetId : arrow.textColumn "target_id" =
    some (relations.column fun r => r.targetId.map Ident.value)
  groupId : arrow.textColumn "group_id" =
    some (relations.column fun r => r.groupId.map Ident.value)
  originSampleId : arrow.textColumn "origin_sample_id" =
    some (relations.column fun r => r.originSampleId.map Ident.value)
  sourceId : arrow.textColumn "source_id" =
    some (relations.column fun r => r.sourceId.map Ident.value)
  isAugmented : arrow.flagColumn "is_augmented" = some (relations.column (·.isAugmented))
  hasRelationJson : arrow.hasRelationJson = relations.isRich
  relationJson : relations.isRich = true →
    arrow.textColumn "relation_json" = some (relations.column fun r => some r.jsonText)

variable {relations}

theorem exists_exported (hvalid : relations.Valid) (hfits : relations.FitsOffsets) :
    ∃ arrow, relations.buildIdentityRelationsArrow = .ok arrow ∧ relations.Exported arrow := by
  have harray : ∀ column ∈ relations.textColumns, ∃ array, stringArray column = .ok array ∧
      array.decode = some column := by
    intro column hcolumn
    obtain ⟨array, harray, hholds⟩ := holds_stringArray (hfits column hcolumn)
    exact ⟨array, harray, hholds.decode⟩
  rw [textColumns, List.forall_mem_append] at harray
  simp only [List.forall_mem_cons] at harray
  obtain ⟨⟨⟨observationIds, ho, hodec⟩, ⟨sampleIds, hs, hsdec⟩,
    ⟨targetIds, ht, htdec⟩,
    ⟨groupIds, hg, hgdec⟩, ⟨originSampleIds, hor, hordec⟩,
      ⟨sourceIds, hsrc, hsrcdec⟩, -⟩,
    hjson⟩ := harray
  have hflags := decode_boolArray (relations.column (·.isAugmented))
  simp only [buildIdentityRelationsArrow, bind_eq_ok, exists_unit, validate_eq_ok, hvalid,
    true_and, ho, hs, ht, hg, hor, hsrc, Except.ok.injEq, exists_eq_left']
  cases hrich : relations.isRich with
  | false =>
    refine ⟨_, rfl, ⟨rfl, rfl, hodec, hsdec, htdec, hgdec, hordec, hsrcdec,
      congrArg some hflags, ?_, fun h => ?_⟩⟩
    · rw [hrich]
      rfl
    · rw [hrich] at h
      cases h
  | true =>
    rw [hrich] at hjson
    obtain ⟨relationJson, hj, hjdec⟩ := hjson _ (List.mem_singleton_self _)
    refine ⟨_, bind_eq_ok.mpr ⟨relationJson, hj, rfl⟩,
      ⟨rfl, rfl, hodec, hsdec, htdec, hgdec,
      hordec, hsrcdec, congrArg some hflags, hrich.symm ▸ rfl, fun _ => hjdec⟩⟩

omit [ThirdParty] in
theorem getD_column {α : Type} {field : CoordinatorRelation → α} {i : Nat}
    {r : CoordinatorRelation} (h : relations.records[i]? = some r) (d : α) :
    (relations.column field).getD i d = field r := by
  rw [column, List.getD_eq_getElem?_getD, List.getElem?_map, h]
  rfl

/-- The seven columns hold the fields of the records. -/
theorem Exported.rows_eq {arrow : IdentityArrow} (h : relations.Exported arrow) :
    arrow.rows = some (relations.column (·.identityRow)) := by
  have hlength : arrow.length = (relations.column (·.identityRow)).length := by
    rw [h.length, column, List.length_map]
  simp only [IdentityArrow.rows, h.observationId, h.sampleId, h.targetId, h.groupId,
    h.originSampleId, h.sourceId, h.isAugmented, Option.bind_eq_bind, Option.bind_some, hlength]
  refine congrArg some (map_range_eq fun i row hrow => ?_)
  rw [column, List.getElem?_map, Option.map_eq_some_iff] at hrow
  obtain ⟨r, hr, rfl⟩ := hrow
  simp only [getD_column hr]
  rfl

omit [ThirdParty] in
theorem mapM_column {β : Type} {field : CoordinatorRelation → β}
    {read : β → Option CoordinatorRelation}
    (h : ∀ r ∈ relations.records, read (field r) = some r) :
    (relations.column field).mapM read = some relations.records := by
  unfold column
  generalize relations.records = records at h ⊢
  induction records with
  | nil => rfl
  | cons r records ih =>
    rw [List.forall_mem_cons] at h
    rw [List.map_cons, List.mapM_cons, h.1, ih h.2]
    rfl

/-- From the columns, or from the JSON, the reader rebuilds the records. -/
theorem Exported.rebuilt_eq {arrow : IdentityArrow} (h : relations.Exported arrow)
    {parse : String → Option CoordinatorRelation}
    (hparse : ∀ r ∈ relations.records, parse r.jsonText = some r) :
    arrow.rebuilt parse = some relations.records := by
  unfold IdentityArrow.rebuilt
  rw [h.hasRelationJson]
  cases hrich : relations.isRich with
  | true =>
    rw [if_pos rfl, h.relationJson hrich]
    exact mapM_column hparse
  | false =>
    rw [if_neg Bool.false_ne_true, h.rows_eq]
    refine mapM_column fun r hr => CoordinatorRelation.rebuild_identityRow ?_
    rw [isRich, List.any_eq_false] at hrich
    exact Bool.not_eq_true _ ▸ hrich r hr

/-- The export of a valid set, whose texts fit in the offsets, loses nothing: a reader rebuilds
the records, and the seven columns hold their fields. The JSON of a record is taken to be read
back as that record. -/
theorem identityArrow_lossless (relations : CoordinatorRelationSet)
    (hvalid : relations.validate = .ok ()) (hfits : relations.FitsOffsets)
    (parse : String → Option CoordinatorRelation)
    (hparse : ∀ r ∈ relations.records, parse r.jsonText = some r) :
    ∃ arrow, relations.buildIdentityRelationsArrow = .ok arrow ∧
      arrow.rebuilt parse = some relations.records ∧
      arrow.rows = some (relations.column (·.identityRow)) ∧
      (arrow.schemas.map (·.name)).take 7 = ["observation_id", "sample_id", "target_id",
        "group_id", "origin_sample_id", "source_id", "is_augmented"] := by
  obtain ⟨arrow, harrow, hexported⟩ := exists_exported (validate_eq_ok.mp hvalid) hfits
  exact ⟨arrow, harrow, hexported.rebuilt_eq hparse, hexported.rows_eq, hexported.names⟩

/-- A repetition of a sample, which only the JSON names, in an augmented record. -/
def repeatedRecord : CoordinatorRelation :=
  { CoordinatorRelation.new (.lit "o1" rfl) (.lit "s1" rfl) with
    repId := some "first"
    originSampleId := some (.lit "s2" rfl)
    isAugmented := true }

omit [ThirdParty] in
theorem identityArrow_lossless_repeated :
    letI := ThirdParty.ofTable []
    ∃ arrow, buildIdentityRelationsArrow ⟨[repeatedRecord]⟩ = .ok arrow ∧
      (arrow.rebuilt fun text =>
        if text = repeatedRecord.jsonText then some repeatedRecord else none) =
          some [repeatedRecord] := by
  let _ := ThirdParty.ofTable []
  have hparse : ∀ r ∈ [repeatedRecord],
      (if r.jsonText = repeatedRecord.jsonText then some repeatedRecord else none) = some r := by
    intro r hr
    rw [List.mem_singleton.mp hr, if_pos rfl]
  have hfits : FitsOffsets ⟨[repeatedRecord]⟩ := by
    unfold FitsOffsets
    decide +kernel
  obtain ⟨arrow, harrow, hrebuilt, -⟩ := identityArrow_lossless ⟨[repeatedRecord]⟩
    (by decide +kernel) hfits
    (fun text => if text = repeatedRecord.jsonText then some repeatedRecord else none) hparse
  exact ⟨arrow, harrow, hrebuilt⟩

end CoordinatorRelationSet

end DagMlData
