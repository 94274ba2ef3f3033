import DagMlData.CohortSeparation
import DagMlData.ContentFingerprint
import DagMlData.JsonRecord

/-!
# Construction of a predict cohort

`from_relations` derives what the validator compares: the identities of the samples, the
fingerprint of the relations, and the fingerprint over both.

* `fromRelations_ok_iff`: when the constructor succeeds.
* `Valid`: what the validator accepts. A constructed cohort passes it.
* `sameContent_of_validate`: the fingerprint of a cohort fixes its content.
-/

namespace DagMlData

open Guard RustText

/-- `PredictCohort::from_relations`. -/
def PredictCohort.fromRelations [ThirdParty] (role : PredictCohortRole)
    (relations : CoordinatorRelationSet) (targetNames : List String)
    (dataContentFingerprint : String) (targetContentFingerprint : Option String) :
    Result PredictCohort := do
  let relationFingerprint ← relations.fingerprint
  let cohort : PredictCohort := {
    role := role
    physicalSampleIds := (BTreeSet.collect (relations.records.map (·.sampleId))).toList
    originSampleIds := (BTreeSet.collect (relations.records.map (·.originOrSample))).toList
    targetNames := targetNames
    relationFingerprint := relationFingerprint
    relations := relations
    dataContentFingerprint := dataContentFingerprint
    targetContentFingerprint := targetContentFingerprint
    cohortFingerprint := "" }
  let cohortFingerprint ← cohort.fingerprint
  pure { cohort with cohortFingerprint := cohortFingerprint }

/-! ## Sorted sets -/

/-- Every element is below the later ones. -/
def Ascending {α : Type} [Ord α] (xs : List α) : Prop := xs.Pairwise fun a b => compare a b = .lt

section Sets
variable {α : Type} [Ord α]

theorem Ascending.strictly {xs : List α} (h : Ascending xs) : strictlyAscending xs = true := by
  induction xs with
  | nil => rfl
  | cons a xs ih =>
    obtain ⟨hhead, htail⟩ := List.pairwise_cons.mp h
    cases xs with
    | nil => rfl
    | cons b xs =>
      rw [strictlyAscending, hhead b List.mem_cons_self, ih htail]
      rfl

variable [Std.TransOrd α]

theorem ascending_toList (s : BTreeSet α) : Ascending s.toList := Std.ExtTreeSet.ordered_toList

end Sets

/-! ## What the validator accepts -/

theorem utf8EncodeChar_hexDigit {n : Nat} (h : n < 16) :
    (String.utf8EncodeChar (hexDigit n)).length = 1 ∧
      (String.utf8EncodeChar (hexDigit n)).all isAsciiHexdigit = true := by
  have hall : ∀ i < 16, (String.utf8EncodeChar (hexDigit i)).length = 1 ∧
      (String.utf8EncodeChar (hexDigit i)).all isAsciiHexdigit = true := by
    decide
  exact hall n h

/-- A digest has the text of a fingerprint. -/
theorem toHex_isFingerprint (digest : Vector UInt8 32) : IsFingerprint (toHex digest.toList) := by
  have hbytes : bytes (toHex digest.toList) = digest.toList.flatMap fun b =>
      String.utf8EncodeChar (hexDigit (b.toNat / 16)) ++
        String.utf8EncodeChar (hexDigit (b.toNat % 16)) := by
    rw [bytes_eq_flatMap, toHex, String.toList_ofList, List.flatMap_assoc]
    simp
  have hdigits : ∀ b : UInt8, b.toNat / 16 < 16 ∧ b.toNat % 16 < 16 := by
    intro b
    have := b.toNat_lt
    omega
  constructor
  · have hlength : ∀ b : UInt8, (String.utf8EncodeChar (hexDigit (b.toNat / 16)) ++
        String.utf8EncodeChar (hexDigit (b.toNat % 16))).length = 2 := by
      intro b
      rw [List.length_append, (utf8EncodeChar_hexDigit (hdigits b).1).1,
        (utf8EncodeChar_hexDigit (hdigits b).2).1]
    rw [← length_bytes, hbytes, List.length_flatMap, List.map_congr_left fun b _ => hlength b,
      List.map_const', List.sum_replicate, Vector.length_toList]
    rfl
  · rw [hbytes, List.all_flatMap, List.all_eq_true]
    intro b _
    rw [List.all_append, (utf8EncodeChar_hexDigit (hdigits b).1).2,
      (utf8EncodeChar_hexDigit (hdigits b).2).2]
    rfl

namespace CoordinatorRelationSet

variable [ThirdParty]

/-- A valid set has a fingerprint. -/
theorem Valid.exists_fingerprint {set : CoordinatorRelationSet} (h : set.Valid) :
    ∃ fingerprint, set.fingerprint = .ok fingerprint := by
  have hunits : ∃ records, (set.records.mapM fun r => do
      pure ((← r.effectiveUnitId), r) : Result (List (String × CoordinatorRelation))) =
        .ok records := by
    obtain ⟨records, hrecords⟩ := exists_forall₂ fun r hr =>
      (⟨(r.unit, r), bind_eq_ok.mpr ⟨_, (h.own r hr).unit, rfl⟩⟩ :
        ∃ pair, (do pure ((← r.effectiveUnitId), r) :
          Result (String × CoordinatorRelation)) = .ok pair)
    exact ⟨records, mapM_eq_ok.mpr hrecords⟩
  obtain ⟨records, hrecords⟩ := hunits
  exact ⟨_, bind_eq_ok.mpr ⟨(), validate_eq_ok.mpr h,
    bind_eq_ok.mpr ⟨records, hrecords, rfl⟩⟩⟩

theorem valid_of_fingerprint {set : CoordinatorRelationSet} {fingerprint : String}
    (h : set.fingerprint = .ok fingerprint) : set.Valid := by
  obtain ⟨_, hvalid, -⟩ := bind_eq_ok.mp h
  exact validate_eq_ok.mp hvalid

omit [ThirdParty] in
/-- The records of a valid set, in another order. -/
theorem Valid.perm {set other : CoordinatorRelationSet} (h : set.Valid)
    (hperm : other.records.Perm set.records) : other.Valid := by
  refine h.of_subset (fun hnil => ?_) hperm.subperm fun r hr hcombo component hcomponent => ?_
  · rw [hnil] at hperm
    exact h.nonempty hperm.symm.eq_nil
  · obtain ⟨row, hrow, heq⟩ := h.components r (hperm.subset hr) hcombo component hcomponent
    exact ⟨row, hperm.symm.subset hrow, heq⟩

end CoordinatorRelationSet

namespace PredictCohort

variable [ThirdParty]

/-- The target names, the content fingerprints and the role fit together. -/
structure TargetsOk (role : PredictCohortRole) (targetNames : List String)
    (dataContentFingerprint : String) (targetContentFingerprint : Option String) : Prop where
  named : targetNames ≠ []
  notBlank : ∀ name ∈ targetNames, isBlank name = false
  distinct : targetNames.Nodup
  data : IsFingerprint dataContentFingerprint
  target : ∀ target, targetContentFingerprint = some target → IsFingerprint target
  role : role = .externalTest ↔ targetContentFingerprint.isSome = true

/-- The identities of the cohort are those of its records. -/
structure MembersOk (cohort : PredictCohort) : Prop where
  physicalSorted : strictlyAscending cohort.physicalSampleIds = true
  physicalNonempty : cohort.physicalSampleIds ≠ []
  originSorted : strictlyAscending cohort.originSampleIds = true
  originNonempty : cohort.originSampleIds ≠ []
  targets : TargetsOk cohort.role cohort.targetNames cohort.dataContentFingerprint
    cohort.targetContentFingerprint
  relations : cohort.relations.fingerprint = .ok cohort.relationFingerprint
  physical : BTreeSet.collect (cohort.relations.records.map (·.sampleId)) =
    BTreeSet.collect cohort.physicalSampleIds
  origin : BTreeSet.collect (cohort.relations.records.map (·.originOrSample)) =
    BTreeSet.collect cohort.originSampleIds

variable {cohort other : PredictCohort}

theorem validateMembers_eq_ok {u : Unit} :
    cohort.validateMembers = .ok u ↔ cohort.MembersOk := by
  have hrole : ((cohort.role == .externalTest) !=
    cohort.targetContentFingerprint.isSome) = false ↔
      (cohort.role = .externalTest ↔ cohort.targetContentFingerprint.isSome = true) := by
    rw [bne_eq_false_iff_eq, Bool.eq_iff_iff, beq_iff_eq]
  simp only [validateMembers, bind_eq_ok, exists_unit, forM_eq_ok, List.forall_mem_cons,
    rejectIf_eq_ok, whenSome_eq_ok, validateFingerprint_eq_ok, Bool.or_eq_false_iff,
    List.isEmpty_eq_false_iff, Bool.not_eq_false', hasRepeats_eq_false, List.any_eq_false,
    Bool.not_eq_true, decide_eq_false_iff_not, not_not, hrole, ne_eq]
  constructor
  · rintro ⟨⟨⟨hpne, hp⟩, ⟨hone, ho⟩, -⟩, ⟨⟨hnamed, hdistinct⟩, hblank⟩,
      hdata, htarget, hrole,
      -, fingerprint, hfingerprint, hsame, hphysical, horigin⟩
    rw [← bne_eq_false_iff_eq.mp hsame] at hfingerprint
    exact ⟨hp, hpne, ho, hone,
      ⟨hnamed, hblank, hdistinct, hdata, htarget, hrole⟩, hfingerprint,
      hphysical, horigin⟩
  · rintro ⟨hp, hpne, ho, hone,
      ⟨hnamed, hblank, hdistinct, hdata, htarget, hrole⟩, hfingerprint,
      hphysical, horigin⟩
    have hvalid : cohort.relations.validate = .ok () := CoordinatorRelationSet.validate_eq_ok.mpr
      (CoordinatorRelationSet.valid_of_fingerprint hfingerprint)
    exact ⟨⟨⟨hpne, hp⟩, ⟨hone, ho⟩, List.forall_mem_nil _⟩,
      ⟨⟨hnamed, hdistinct⟩, hblank⟩, hdata,
      htarget, hrole, hvalid, _, hfingerprint, bne_self_eq_false _, hphysical, horigin⟩

theorem fingerprint_eq_ok {fingerprint : String} :
    cohort.fingerprint = .ok fingerprint ↔
      cohort.MembersOk ∧ cohort.toJson.fingerprint = fingerprint := by
  simp only [PredictCohort.fingerprint, bind_eq_ok, exists_unit, validateMembers_eq_ok, pure_eq_ok]

/-- What the validator accepts. -/
theorem validate_eq_ok {u : Unit} : cohort.validate = .ok u ↔
    cohort.MembersOk ∧ cohort.cohortFingerprint = cohort.toJson.fingerprint := by
  simp only [validate, bind_eq_ok, exists_unit, validateFingerprint_eq_ok, fingerprint_eq_ok,
    rejectIf_eq_ok, bne_eq_false_iff_eq]
  constructor
  · rintro ⟨-, _, ⟨hmembers, rfl⟩, hsame⟩
    exact ⟨hmembers, hsame⟩
  · rintro ⟨hmembers, hsame⟩
    refine ⟨?_, _, ⟨hmembers, rfl⟩, hsame⟩
    rw [hsame]
    exact toHex_isFingerprint _

/-! ## The constructor -/

section Construction
variable {role : PredictCohortRole} {relations : CoordinatorRelationSet}
  {targetNames : List String} {dataContentFingerprint : String}
  {targetContentFingerprint : Option String}

/-- The cohort that the constructor makes. -/
def ofRelations (role : PredictCohortRole) (relations : CoordinatorRelationSet)
    (targetNames : List String) (dataContentFingerprint : String)
    (targetContentFingerprint : Option String) (relationFingerprint cohortFingerprint : String) :
    PredictCohort where
  role := role
  physicalSampleIds := (BTreeSet.collect (relations.records.map (·.sampleId))).toList
  originSampleIds := (BTreeSet.collect (relations.records.map (·.originOrSample))).toList
  targetNames := targetNames
  relationFingerprint := relationFingerprint
  relations := relations
  dataContentFingerprint := dataContentFingerprint
  targetContentFingerprint := targetContentFingerprint
  cohortFingerprint := cohortFingerprint

omit [ThirdParty] in
theorem toList_collect_ne_nil {xs : List SampleId} (h : xs ≠ []) :
    (BTreeSet.collect xs).toList ≠ [] := by
  obtain ⟨x, hx⟩ := List.exists_mem_of_ne_nil xs h
  refine List.ne_nil_of_mem (a := x) ?_
  rw [Std.ExtTreeSet.mem_toList, BTreeSet.mem_collect]
  exact hx

/-- What the constructor derives passes the check of the members. -/
theorem membersOk_ofRelations {relationFingerprint cohortFingerprint : String}
    (hrelations : relations.fingerprint = .ok relationFingerprint) :
    (ofRelations role relations targetNames dataContentFingerprint targetContentFingerprint
      relationFingerprint cohortFingerprint).MembersOk ↔
      TargetsOk role targetNames dataContentFingerprint targetContentFingerprint := by
  have hvalid := CoordinatorRelationSet.valid_of_fingerprint hrelations
  refine ⟨fun h => h.targets, fun h => ⟨?_, ?_, ?_, ?_, h, hrelations, ?_, ?_⟩⟩
  · exact (ascending_toList (BTreeSet.collect (relations.records.map (·.sampleId)))).strictly
  · exact toList_collect_ne_nil (by simpa using hvalid.nonempty)
  · exact (ascending_toList
      (BTreeSet.collect (relations.records.map (·.originOrSample)))).strictly
  · exact toList_collect_ne_nil (by simpa using hvalid.nonempty)
  · exact (BTreeSet.collect_toList _).symm
  · exact (BTreeSet.collect_toList _).symm

/-- The constructor makes the cohort of the relations, with the fingerprints that they have. -/
theorem fromRelations_eq_ok :
    fromRelations role relations targetNames dataContentFingerprint targetContentFingerprint =
      .ok cohort ↔
    TargetsOk role targetNames dataContentFingerprint targetContentFingerprint ∧
      ∃ relationFingerprint, relations.fingerprint = .ok relationFingerprint ∧
        cohort = ofRelations role relations targetNames dataContentFingerprint
          targetContentFingerprint relationFingerprint
          (ofRelations role relations targetNames dataContentFingerprint targetContentFingerprint
            relationFingerprint "").toJson.fingerprint := by
  simp only [fromRelations, bind_eq_ok, pure_eq_ok]
  constructor
  · rintro ⟨relationFingerprint, hrelations, cohortFingerprint, hcohort, rfl⟩
    obtain ⟨hmembers, rfl⟩ := fingerprint_eq_ok.mp hcohort
    exact ⟨hmembers.targets, relationFingerprint, hrelations, rfl⟩
  · rintro ⟨htargets, relationFingerprint, hrelations, rfl⟩
    exact ⟨relationFingerprint, hrelations, _,
      fingerprint_eq_ok.mpr ⟨(membersOk_ofRelations hrelations).mpr htargets, rfl⟩, rfl⟩

theorem exists_fromRelations :
    (∃ cohort, fromRelations role relations targetNames dataContentFingerprint
        targetContentFingerprint = .ok cohort) ↔
      relations.validate = .ok () ∧
        TargetsOk role targetNames dataContentFingerprint targetContentFingerprint := by
  constructor
  · rintro ⟨cohort, hcohort⟩
    obtain ⟨htargets, _, hrelations, -⟩ := fromRelations_eq_ok.mp hcohort
    have hvalid := CoordinatorRelationSet.valid_of_fingerprint hrelations
    exact ⟨CoordinatorRelationSet.validate_eq_ok.mpr hvalid, htargets⟩
  · rintro ⟨hvalid, htargets⟩
    obtain ⟨relationFingerprint, hrelations⟩ :=
      (CoordinatorRelationSet.validate_eq_ok.mp hvalid).exists_fingerprint
    exact ⟨_, fromRelations_eq_ok.mpr ⟨htargets, relationFingerprint, hrelations, rfl⟩⟩

/-- The constructed cohort passes the validator. -/
theorem fromRelations_validate (h : fromRelations role relations targetNames dataContentFingerprint
    targetContentFingerprint = .ok cohort) : cohort.validate = .ok () := by
  obtain ⟨htargets, relationFingerprint, hrelations, rfl⟩ := fromRelations_eq_ok.mp h
  exact validate_eq_ok.mpr ⟨(membersOk_ofRelations hrelations).mpr htargets, rfl⟩

theorem physicalSampleIds_of_fromRelations (h : fromRelations role relations targetNames
    dataContentFingerprint targetContentFingerprint = .ok cohort) :
    cohort.physicalSampleIds = (BTreeSet.collect (relations.records.map (·.sampleId))).toList := by
  obtain ⟨-, _, -, rfl⟩ := fromRelations_eq_ok.mp h
  rfl

theorem originSampleIds_of_fromRelations (h : fromRelations role relations targetNames
    dataContentFingerprint targetContentFingerprint = .ok cohort) :
    cohort.originSampleIds =
      (BTreeSet.collect (relations.records.map (·.originOrSample))).toList := by
  obtain ⟨-, _, -, rfl⟩ := fromRelations_eq_ok.mp h
  rfl

end Construction

end PredictCohort

/-! ## The content that a fingerprint fixes -/

namespace CoordinatorRelation

/-- The record with sorted keys inside its metadata. A value of the source is no other than that:
its objects are sorted maps. -/
def normalized (r : CoordinatorRelation) : CoordinatorRelation :=
  { r with metadata := r.metadata.map fun _ => Json.sortAllObjects }

theorem unitLevel_name_injective : Function.Injective CoordinatorEntityUnitLevel.name := by
  intro a b h
  cases a <;> cases b <;> first | rfl | (exact absurd h (by decide))

theorem weight_inj {a b : Option F64} (ha : ∀ w, a = some w → w.isFinite = true)
    (hb : ∀ w, b = some w → w.isFinite = true)
    (h : Json.ofOption Json.ofF64 a = Json.ofOption Json.ofF64 b) : a = b := by
  have hnumber : ∀ {x : F64}, x.isFinite = true → Json.ofF64 x ≠ .null := by
    intro x hx
    rw [Json.ofF64, if_pos hx]
    exact Json.noConfusion
  cases a with
  | none =>
    cases b with
    | none => rfl
    | some y => exact absurd h.symm (hnumber (hb y rfl))
  | some x =>
    cases b with
    | none => exact absurd h (hnumber (ha x rfl))
    | some y => rw [Json.ofF64_inj (ha x rfl) (hb y rfl) h]

theorem key_of_mem_fieldUnless {skip : Bool} {key k : String} {value : Json}
    (h : k ∈ (Json.fieldUnless skip key value).map Prod.fst) : k = key := by
  cases skip with
  | true => cases h
  | false => exact List.mem_singleton.mp h

/-- The optional fields of two records. -/
theorem optional_inj {r r' : CoordinatorRelation}
    (h : Json.fieldUnless (!r.excluded) "excluded" (.bool r.excluded) ++
        (Json.fieldUnless r.metadata.isEmpty "metadata" (.ofMap r.metadata) ++
          Json.fieldUnless r.tags.isEmpty "tags" (.ofList .string r.tags)) =
      Json.fieldUnless (!r'.excluded) "excluded" (.bool r'.excluded) ++
        (Json.fieldUnless r'.metadata.isEmpty "metadata" (.ofMap r'.metadata) ++
          Json.fieldUnless r'.tags.isEmpty "tags" (.ofList .string r'.tags))) :
    r.excluded = r'.excluded ∧ r.tags = r'.tags ∧
      (r.metadata.map fun _ => Json.sortAllObjects) =
        r'.metadata.map fun _ => Json.sortAllObjects := by
  have hlater : ∀ q : CoordinatorRelation, "excluded" ∉
      (Json.fieldUnless q.metadata.isEmpty "metadata" (.ofMap q.metadata) ++
        Json.fieldUnless q.tags.isEmpty "tags" (.ofList .string q.tags)).map Prod.fst := by
    intro q hmem
    rw [List.map_append, List.mem_append] at hmem
    rcases hmem with hmem | hmem
    · exact absurd (key_of_mem_fieldUnless hmem) (by decide)
    · exact absurd (key_of_mem_fieldUnless hmem) (by decide)
  have hlast : ∀ q : CoordinatorRelation, "metadata" ∉
      (Json.fieldUnless q.tags.isEmpty "tags" (.ofList .string q.tags)).map Prod.fst :=
    fun q hmem => absurd (key_of_mem_fieldUnless hmem) (by decide)
  obtain ⟨hexcluded, -, hrest⟩ := Json.fieldUnless_append (hlater r) (hlater r') h
  obtain ⟨hempty, hmetadata, htags⟩ := Json.fieldUnless_append (hlast r) (hlast r') hrest
  rw [← List.append_nil (Json.fieldUnless r.tags.isEmpty _ _),
    ← List.append_nil (Json.fieldUnless r'.tags.isEmpty _ _)] at htags
  obtain ⟨htagless, htags, -⟩ := Json.fieldUnless_append List.not_mem_nil List.not_mem_nil htags
  refine ⟨Bool.not_inj hexcluded, ?_, ?_⟩
  · cases hnil : r.tags.isEmpty with
    | true =>
      rw [hnil] at htagless
      rw [List.isEmpty_iff.mp hnil, List.isEmpty_iff.mp htagless.symm]
    | false => exact Json.ofList_injective Json.string_injective (htags hnil)
  · cases hnil : r.metadata.isEmpty with
    | true =>
      rw [hnil] at hempty
      rw [Std.ExtTreeMap.isEmpty_iff.mp hnil, Std.ExtTreeMap.isEmpty_iff.mp hempty.symm]
    | false => exact Json.ofMap_inj (hmetadata hnil)

/-- The fields of a record fix it, up to the order of the keys inside its metadata. -/
theorem normalized_eq_of_jsonFields {r r' : CoordinatorRelation}
    (hweight : ∀ w, r.sampleInfluenceWeight = some w → w.isFinite = true)
    (hweight' : ∀ w, r'.sampleInfluenceWeight = some w → w.isFinite = true)
    (h : r.jsonFields = r'.jsonFields) : r.normalized = r'.normalized := by
  simp only [jsonFields, List.append_assoc] at h
  obtain ⟨hfixed, hoptional⟩ := List.append_inj h rfl
  obtain ⟨hexcluded, htags, hmetadata⟩ := optional_inj hoptional
  simp only [List.cons.injEq, Prod.mk.injEq, true_and, and_true] at hfixed
  obtain ⟨hlevel, hunit, hobservation, hsample, hsource, hrep, htarget, hgroup, horigin, hderived,
    hcomponents, hw, hquality, haugmented⟩ := hfixed
  have htext := Json.ofOption_injective Json.string_injective fun _ => Json.noConfusion
  have hid : ∀ kind : IdKind, Function.Injective (Json.ofOption (@Ident.toJson kind)) :=
    fun _ => Json.ofOption_injective Ident.toJson_injective fun _ => Json.noConfusion
  have hsame := weight_inj hweight hweight' hw
  cases r
  cases r'
  simp only at *
  rw [normalized, normalized, CoordinatorRelation.mk.injEq]
  exact ⟨unitLevel_name_injective (Json.string.inj hlevel), htext hunit,
    Ident.toJson_injective hobservation, Ident.toJson_injective hsample, hid _ hsource, htext hrep,
    hid _ htarget, hid _ hgroup, hid _ horigin, htext hderived,
    Json.ofList_injective Ident.toJson_injective hcomponents, hsame, htext hquality,
    Json.bool.inj haugmented, hexcluded, hmetadata, htags⟩

/-- What is printed of a record is what the normalized record has. -/
theorem jsonFields_eq_of_normalized {r r' : CoordinatorRelation}
    (h : r.normalized = r'.normalized) : r.jsonFields = r'.jsonFields := by
  obtain ⟨level, unit, observation, sample, source, rep, target, group, origin,
    derived, components,
    weight, quality, augmented, excluded, metadata, tags⟩ := r
  obtain ⟨level', unit', observation', sample', source', rep', target', group', origin', derived',
    components', weight', quality', augmented', excluded', metadata', tags'⟩ := r'
  rw [normalized, normalized, CoordinatorRelation.mk.injEq] at h
  obtain ⟨rfl, rfl, rfl, rfl, rfl, rfl, rfl, rfl, rfl, rfl, rfl, rfl, rfl, rfl, rfl, hmetadata,
    rfl⟩ := h
  have hempty : metadata.isEmpty = metadata'.isEmpty := by
    have hlists := congrArg Std.ExtTreeMap.toList hmetadata
    rw [Std.ExtTreeMap.toList_map, Std.ExtTreeMap.toList_map] at hlists
    rw [← Std.ExtTreeMap.isEmpty_toList, ← Std.ExtTreeMap.isEmpty_toList,
      ← List.isEmpty_map (f := fun p => (p.1, Json.sortAllObjects p.2)), hlists, List.isEmpty_map]
  simp only [jsonFields, hempty, Json.ofMap_eq_iff.mpr hmetadata]

theorem jsonFields_eq_iff {r r' : CoordinatorRelation}
    (hweight : ∀ w, r.sampleInfluenceWeight = some w → w.isFinite = true)
    (hweight' : ∀ w, r'.sampleInfluenceWeight = some w → w.isFinite = true) :
    r.jsonFields = r'.jsonFields ↔ r.normalized = r'.normalized :=
  ⟨normalized_eq_of_jsonFields hweight hweight', jsonFields_eq_of_normalized⟩

end CoordinatorRelation

namespace CoordinatorRelationSet

variable {set set' : CoordinatorRelationSet}

/-- The records with sorted keys inside their metadata. -/
def normalized (set : CoordinatorRelationSet) : List CoordinatorRelation :=
  set.records.map CoordinatorRelation.normalized

theorem normalized_eq_of_toJson (hset : set.Valid) (hset' : set'.Valid)
    (h : set.toJson = set'.toJson) : set.normalized = set'.normalized := by
  simp only [toJson, Json.object.injEq, List.cons.injEq, Prod.mk.injEq, true_and, and_true,
    Json.ofList, Json.array.injEq] at h
  refine (SortOn.map_eq_map_congr fun r hr r' hr' => ?_).mp h
  rw [Json.object.injEq]
  exact CoordinatorRelation.jsonFields_eq_iff (fun w hw => ((hset.own r hr).weight w hw).1)
    fun w hw => ((hset'.own r' hr').weight w hw).1

end CoordinatorRelationSet

namespace PredictCohort

/-- The cohorts agree in every field but their own fingerprint. -/
structure SameContent (a b : PredictCohort) : Prop where
  role : a.role = b.role
  physicalSampleIds : a.physicalSampleIds = b.physicalSampleIds
  originSampleIds : a.originSampleIds = b.originSampleIds
  targetNames : a.targetNames = b.targetNames
  relationFingerprint : a.relationFingerprint = b.relationFingerprint
  relations : a.relations.normalized = b.relations.normalized
  dataContentFingerprint : a.dataContentFingerprint = b.dataContentFingerprint
  targetContentFingerprint : a.targetContentFingerprint = b.targetContentFingerprint

theorem role_name_injective : Function.Injective PredictCohortRole.name := by
  intro a b h
  cases a <;> cases b <;> first | rfl | (exact absurd h (by decide))

theorem sameContent_of_toJson {a b : PredictCohort} (ha : a.relations.Valid)
    (hb : b.relations.Valid) (h : a.toJson = b.toJson) : a.SameContent b := by
  simp only [toJson, Json.object.injEq, List.cons.injEq, Prod.mk.injEq, true_and, and_true] at h
  obtain ⟨hrole, hphysical, horigin, hnames, hrelation, hrelations, hdata, htarget⟩ := h
  have hids := Json.ofList_injective (@Ident.toJson_injective .sample)
  exact {
    role := role_name_injective (Json.string.inj hrole)
    physicalSampleIds := hids hphysical
    originSampleIds := hids horigin
    targetNames := Json.ofList_injective Json.string_injective hnames
    relationFingerprint := Json.string.inj hrelation
    relations := CoordinatorRelationSet.normalized_eq_of_toJson ha hb hrelations
    dataContentFingerprint := Json.string.inj hdata
    targetContentFingerprint :=
      Json.ofOption_injective Json.string_injective (fun _ => Json.noConfusion) htarget }

variable [ThirdParty]

/-- Printing and the digest do not map the two values to one fingerprint, unless they are equal. -/
structure FingerprintSeparates (a b : Json) : Prop where
  digest : DigestSeparates (bytes a.compact) (bytes b.compact)
  print : a.compact = b.compact → a = b

theorem FingerprintSeparates.eq {a b : Json} (h : FingerprintSeparates a b)
    (hfingerprint : a.fingerprint = b.fingerprint) : a = b :=
  h.print (bytes_injective (h.digest (Vector.toList_inj.mp (toHex_injective hfingerprint))))

/-- The fingerprint of a valid cohort fixes its content. -/
theorem sameContent_of_validate {a b : PredictCohort} (ha : a.validate = .ok ())
    (hb : b.validate = .ok ()) (hsame : b.cohortFingerprint = a.cohortFingerprint)
    (hseparates : FingerprintSeparates a.toJson b.toJson) : b.SameContent a := by
  obtain ⟨hmembers, hprint⟩ := validate_eq_ok.mp ha
  obtain ⟨hmembers', hprint'⟩ := validate_eq_ok.mp hb
  have hjson : a.toJson = b.toJson := hseparates.eq (by rw [← hprint, ← hprint', hsame])
  exact sameContent_of_toJson (CoordinatorRelationSet.valid_of_fingerprint hmembers'.relations)
    (CoordinatorRelationSet.valid_of_fingerprint hmembers.relations) hjson.symm

/-! ## The constructor and its validator -/

/-- The constructor succeeds on valid relations with targets that fit together, and on nothing
else. Its cohort is valid, with the sorted samples and origins of the records, in whatever order
they come. A valid cohort that is changed in a field, and keeps its fingerprint, is refused. -/
theorem predictCohort_identity :
    (∀ (role : PredictCohortRole) (relations : CoordinatorRelationSet) (targetNames : List String)
      (dataContentFingerprint : String) (targetContentFingerprint : Option String),
      ((∃ cohort, fromRelations role relations targetNames dataContentFingerprint
          targetContentFingerprint = .ok cohort) ↔
        relations.validate = .ok () ∧
          TargetsOk role targetNames dataContentFingerprint targetContentFingerprint) ∧
      ∀ cohort, fromRelations role relations targetNames dataContentFingerprint
          targetContentFingerprint = .ok cohort →
        cohort.validate = .ok () ∧
        (Ascending cohort.physicalSampleIds ∧ ∀ s, s ∈ cohort.physicalSampleIds ↔
          ∃ r ∈ relations.records, r.sampleId = s) ∧
        (Ascending cohort.originSampleIds ∧ ∀ s, s ∈ cohort.originSampleIds ↔
          ∃ r ∈ relations.records, r.originSampleId.getD r.sampleId = s) ∧
        ∀ reordered : CoordinatorRelationSet, reordered.records.Perm relations.records →
          ∃ cohort', fromRelations role reordered targetNames dataContentFingerprint
              targetContentFingerprint = .ok cohort' ∧
            cohort'.physicalSampleIds = cohort.physicalSampleIds ∧
            cohort'.originSampleIds = cohort.originSampleIds) ∧
    ∀ cohort changed : PredictCohort, cohort.validate = .ok () →
      changed.cohortFingerprint = cohort.cohortFingerprint → ¬ changed.SameContent cohort →
      FingerprintSeparates cohort.toJson changed.toJson → ∃ e, changed.validate = .error e := by
  refine ⟨fun role relations targetNames data target => ⟨exists_fromRelations, ?_⟩, ?_⟩
  · intro cohort hcohort
    refine ⟨fromRelations_validate hcohort, ?_, ?_, fun reordered hperm => ?_⟩
    · rw [physicalSampleIds_of_fromRelations hcohort]
      refine ⟨ascending_toList _, fun s => ?_⟩
      rw [Std.ExtTreeSet.mem_toList, BTreeSet.mem_collect, List.mem_map]
    · rw [originSampleIds_of_fromRelations hcohort]
      refine ⟨ascending_toList _, fun s => ?_⟩
      rw [Std.ExtTreeSet.mem_toList, BTreeSet.mem_collect, List.mem_map]
      rfl
    · obtain ⟨hvalid, htargets⟩ := exists_fromRelations.mp ⟨cohort, hcohort⟩
      have hreordered := (CoordinatorRelationSet.validate_eq_ok.mp hvalid).perm hperm
      obtain ⟨cohort', hcohort'⟩ := exists_fromRelations.mpr
        ⟨CoordinatorRelationSet.validate_eq_ok.mpr hreordered, htargets⟩
      refine ⟨cohort', hcohort', ?_, ?_⟩
      · rw [physicalSampleIds_of_fromRelations hcohort,
          physicalSampleIds_of_fromRelations hcohort',
          BTreeSet.collect_perm (hperm.map _)]
      · rw [originSampleIds_of_fromRelations hcohort, originSampleIds_of_fromRelations hcohort',
          BTreeSet.collect_perm (hperm.map _)]
  · intro cohort changed hcohort hfingerprint hchanged hseparates
    cases hresult : changed.validate with
    | error e => exact ⟨e, rfl⟩
    | ok u =>
      exact absurd (sameContent_of_validate hcohort hresult hfingerprint hseparates) hchanged

/-- The test cohort for other targets. -/
def retargetedCohort : PredictCohort := { testCohort with targetNames := ["z"] }

omit [ThirdParty] in
/-- The test cohort is constructed from its record, and refused for other targets. -/
theorem predictCohort_identity_testCohort :
    letI := testDigests
    (∃ cohort, fromRelations .externalTest ⟨[testRecord]⟩ ["y"] contentDigest
        (some contentDigest) = .ok cohort ∧ cohort.validate = .ok ()) ∧
      ∃ e, retargetedCohort.validate = .error e := by
  let _ := testDigests
  obtain ⟨hconstruct, hchange⟩ := predictCohort_identity
  constructor
  · obtain ⟨hiff, hspec⟩ := hconstruct .externalTest ⟨[testRecord]⟩ ["y"] contentDigest
      (some contentDigest)
    have hdigest : IsFingerprint contentDigest :=
      (@validateFingerprint_eq_ok "" _ ()).mp (by decide +kernel)
    have htargets : TargetsOk .externalTest ["y"] contentDigest (some contentDigest) := {
      named := List.cons_ne_nil _ _
      notBlank := fun name hname => by
        rw [List.mem_singleton.mp hname]
        decide
      distinct := List.nodup_singleton _
      data := hdigest
      target := fun target h => Option.some.inj h ▸ hdigest
      role := ⟨fun _ => rfl, fun _ => rfl⟩ }
    obtain ⟨cohort, hcohort⟩ := hiff.mpr ⟨by decide +kernel, htargets⟩
    exact ⟨cohort, hcohort, (hspec cohort hcohort).1⟩
  · have hvalid : testCohort.validate = .ok () :=
      (validateCohort_of_validate testEnvelope_valid rfl).1
    refine hchange testCohort retargetedCohort hvalid rfl (fun h => ?_) ⟨?_, ?_⟩
    · exact absurd h.targetNames (by decide)
    · exact fun h => absurd h (by decide +kernel)
    · exact fun h => absurd h (by decide +kernel)

end PredictCohort

end DagMlData
