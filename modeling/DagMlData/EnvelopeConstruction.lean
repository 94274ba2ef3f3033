import DagMlData.SampleTable
import DagMlData.CanonicalForms
import DagMlData.CohortConstruction
import DagMlData.ProviderSeparation
import DagMlData.PlannerCorrect

/-!
# Envelopes that are built from their parts

`CoordinatorDataPlanEnvelope::from_parts` builds an envelope from a schema, a plan and the relations
of samples, and refuses parts that name what the schema does not declare.

* `fromParts_accepts`: which parts it accepts, and that what it builds is valid. The validation at
  the end refuses nothing.
* `fromParts_custody`: whatever a provider over the envelope does, its views show records of
  declared samples and of what was augmented from them, with declared sources and targets.
-/

namespace DagMlData

open Guard RustText

/-! ## Construction -/

/-- Some source of the schema has the identifier. -/
def DatasetSchema.declaresSource (schema : DatasetSchema) (source : SourceId) : Bool :=
  schema.sources.any fun declared => declared.id == source

/-- The row whose observation an origin names. -/
def SampleRelationTable.originOf (table : SampleRelationTable) (row : SampleRelation) :
    Option SampleRelation :=
  row.originId.bind fun id => table.rows.find? fun base => base.observationId.value == id.value

/-- The loop body over the rows. -/
def SampleRelationTable.checkDeclared (table : SampleRelationTable) (schema : DatasetSchema)
    (row : SampleRelation) : Result Unit := do
  rejectIf (!schema.sampleIds.contains row.sampleId && !row.augmented)
    (.validation s!"relation references undeclared sample `{row.sampleId}`")
  rejectIf (row.sourceId.any (fun source => !schema.declaresSource source) ||
      row.targetId.any fun target => !schema.targets.contains target)
    (.validation "relation references undeclared source or target")
  rejectIf (row.augmented &&
      !(table.originOf row).any fun base => schema.sampleIds.contains base.sampleId)
    (.validation "augmented relation origin is outside the schema")

namespace CoordinatorDataPlanEnvelope

variable [ThirdParty]

/-- `from_parts`. -/
def fromParts (schema : DatasetSchema) (plan : DataPlan) (relations : Option SampleRelationTable) :
    Result CoordinatorDataPlanEnvelope := do
  schema.validate
  forM plan.steps fun step =>
    whenSome step.sourceId fun source =>
      rejectIf (!schema.declaresSource source)
        (.validation s!"plan references undeclared source `{source}`")
  whenSome relations fun table => do
    table.validate
    forM table.rows (table.checkDeclared schema)
  let schemaFingerprint ← DagMlData.schemaFingerprint schema
  let planFingerprint ← plan.fingerprint
  let relationFingerprint ← relations.mapM sampleRelationFingerprint
  let coordinatorRelations ← relations.mapM coordinatorRelationsFromSampleTable
  let envelope : CoordinatorDataPlanEnvelope :=
    { schemaVersion := 1
      schemaFingerprint := schemaFingerprint
      planFingerprint := planFingerprint
      relationFingerprint := relationFingerprint
      dataContentFingerprint := none
      targetContentFingerprint := none
      plan := plan
      coordinatorRelations := coordinatorRelations
      predictCohort := none }
  envelope.validate
  pure envelope

end CoordinatorDataPlanEnvelope

/-! ## Accepted parts -/

/-- What a schema declares of a row of the table. -/
structure SampleRelation.DeclaredIn (row : SampleRelation) (table : SampleRelationTable)
    (schema : DatasetSchema) : Prop where
  sample : row.augmented = false → row.sampleId ∈ schema.sampleIds
  origin : row.augmented = true → ∃ base, table.originOf row = some base ∧
    base.sampleId ∈ schema.sampleIds
  source : ∀ source, row.sourceId = some source → schema.declaresSource source = true
  target : ∀ target, row.targetId = some target → target ∈ schema.targets

/-- Parts that fit together. -/
structure PartsFit [ThirdParty] (schema : DatasetSchema) (plan : DataPlan)
    (relations : Option SampleRelationTable) : Prop where
  validSchema : schema.validate = .ok ()
  validPlan : plan.validate = .ok ()
  steps : ∀ step ∈ plan.steps, ∀ source, step.sourceId = some source →
    schema.declaresSource source = true
  rows : ∀ table, relations = some table → table.validate = .ok () ∧
    ∀ row ∈ table.rows, row.DeclaredIn table schema

theorem SampleRelationTable.checkDeclared_eq_ok {table : SampleRelationTable}
    {schema : DatasetSchema} {row : SampleRelation} :
    table.checkDeclared schema row = .ok () ↔ row.DeclaredIn table schema := by
  have hsample : (!schema.sampleIds.contains row.sampleId && !row.augmented) = false ↔
      (row.augmented = false → row.sampleId ∈ schema.sampleIds) := by
    cases row.augmented <;> simp
  have hsource : row.sourceId.any (fun source => !schema.declaresSource source) = false ↔
      ∀ source, row.sourceId = some source → schema.declaresSource source = true := by
    cases row.sourceId <;> simp
  have htarget : row.targetId.any (fun target => !schema.targets.contains target) = false ↔
      ∀ target, row.targetId = some target → target ∈ schema.targets := by
    cases row.targetId <;> simp
  have horigin : (row.augmented &&
      !(table.originOf row).any fun base => schema.sampleIds.contains base.sampleId) = false ↔
      (row.augmented = true → ∃ base, table.originOf row = some base ∧
        base.sampleId ∈ schema.sampleIds) := by
    cases row.augmented <;> cases table.originOf row <;> simp
  unfold checkDeclared
  simp only [bind_eq_ok, exists_unit, rejectIf_eq_ok, Bool.or_eq_false_iff, hsample, hsource,
    htarget, horigin]
  constructor
  · rintro ⟨h₁, ⟨h₂, h₃⟩, h₄⟩
    exact ⟨h₁, h₄, h₂, h₃⟩
  · exact fun h => ⟨h.sample, ⟨h.source, h.target⟩, h.origin⟩

namespace CoordinatorDataPlanEnvelope

variable [ThirdParty]

/-- What is built from the parts. -/
def ofParts (schema : DatasetSchema) (plan : DataPlan) (relations : Option SampleRelationTable)
    (coordinatorRelations : Option CoordinatorRelationSet) : CoordinatorDataPlanEnvelope where
  schemaVersion := 1
  schemaFingerprint := schema.canonicalJson.fingerprint
  planFingerprint := plan.toJson.fingerprint
  relationFingerprint := relations.map fun table => table.canonicalJson.fingerprint
  dataContentFingerprint := none
  targetContentFingerprint := none
  plan := plan
  coordinatorRelations := coordinatorRelations
  predictCohort := none

/-- The validation of the envelope at the end refuses nothing. -/
theorem validate_ofParts {schema : DatasetSchema} {plan : DataPlan}
    {relations : Option SampleRelationTable} {coordinatorRelations : Option CoordinatorRelationSet}
    (hplan : plan.validate = .ok ())
    (hrelations : ∀ set, coordinatorRelations = some set → set.validate = .ok ())
    (hsame : relations.isSome → coordinatorRelations.isSome) :
    (ofParts schema plan relations coordinatorRelations).validate = .ok () := by
  have hfingerprint : ∀ j : Json, IsFingerprint j.fingerprint := fun j => toHex_isFingerprint _
  unfold validate ofParts
  simp only [bind_eq_ok, exists_unit, rejectIf_eq_ok, whenSome_eq_ok, validateFingerprint_eq_ok]
  refine ⟨rfl, rfl, hfingerprint _, hfingerprint _, hplan, plan.toJson.fingerprint, ?_, ?_,
    hrelations, fun fingerprint h => ?_, fun _ h => ?_, fun _ h => ?_⟩
  · unfold DataPlan.fingerprint
    rw [hplan]
    rfl
  · exact bne_self_eq_false _
  · obtain ⟨table, htable, rfl⟩ := Option.map_eq_some_iff.mp h
    refine ⟨hfingerprint _, ?_⟩
    have hsome := hsame (by rw [htable]; rfl)
    rw [Option.isNone_eq_false_iff]
    exact hsome
  · cases h
  · cases h

omit [ThirdParty] in
theorem validate_of_converted {table : SampleRelationTable} {set : CoordinatorRelationSet}
    (h : coordinatorRelationsFromSampleTable table = .ok set) : set.validate = .ok () := by
  unfold coordinatorRelationsFromSampleTable at h
  simp only [bind_eq_ok, exists_unit, pure_eq_ok] at h
  obtain ⟨-, _, -, hvalid, rfl⟩ := h
  exact hvalid

theorem schemaFingerprint_eq_ok {schema : DatasetSchema} {fingerprint : String} :
    DagMlData.schemaFingerprint schema = .ok fingerprint ↔
      schema.validate = .ok () ∧ schema.canonicalJson.fingerprint = fingerprint := by
  simp only [DagMlData.schemaFingerprint, bind_eq_ok, exists_unit, pure_eq_ok]

theorem planFingerprint_eq_ok {plan : DataPlan} {fingerprint : String} :
    plan.fingerprint = .ok fingerprint ↔
      plan.validate = .ok () ∧ plan.toJson.fingerprint = fingerprint := by
  simp only [DataPlan.fingerprint, bind_eq_ok, exists_unit, pure_eq_ok]

theorem relationFingerprints_eq_ok {relations : Option SampleRelationTable}
    {fingerprint : Option String} :
    relations.mapM sampleRelationFingerprint = .ok fingerprint ↔
      (∀ table, relations = some table → table.validate = .ok ()) ∧
        (relations.map fun table => table.canonicalJson.fingerprint) = fingerprint := by
  cases relations with
  | none => simp [pure_eq_ok]
  | some table =>
    simp only [Option.mapM_some, sampleRelationFingerprint, map_eq_ok, bind_eq_ok, exists_unit,
      pure_eq_ok, Option.some.injEq, forall_eq', Option.map_some]
    constructor
    · rintro ⟨_, ⟨hvalid, rfl⟩, rfl⟩
      exact ⟨hvalid, rfl⟩
    · rintro ⟨hvalid, rfl⟩
      exact ⟨_, ⟨hvalid, rfl⟩, rfl⟩

omit [ThirdParty] in
/-- The relation sets that are converted are valid, one for a table. -/
theorem converted_eq_ok {relations : Option SampleRelationTable}
    {coordinatorRelations : Option CoordinatorRelationSet}
    (h : relations.mapM coordinatorRelationsFromSampleTable = .ok coordinatorRelations) :
    (∀ set, coordinatorRelations = some set → set.validate = .ok ()) ∧
      coordinatorRelations.isSome = relations.isSome := by
  cases relations with
  | none =>
    cases h
    exact ⟨fun _ h => (by cases h), rfl⟩
  | some table =>
    rw [Option.mapM_some, map_eq_ok] at h
    obtain ⟨set, hset, rfl⟩ := h
    refine ⟨fun _ h => ?_, rfl⟩
    cases h
    exact validate_of_converted hset

/-- The construction accepts exactly the parts that fit. -/
theorem fromParts_eq_ok {schema : DatasetSchema} {plan : DataPlan}
    {relations : Option SampleRelationTable} {envelope : CoordinatorDataPlanEnvelope} :
    fromParts schema plan relations = .ok envelope ↔ PartsFit schema plan relations ∧
      ∃ coordinatorRelations, relations.mapM coordinatorRelationsFromSampleTable =
          .ok coordinatorRelations ∧
        envelope = ofParts schema plan relations coordinatorRelations := by
  unfold fromParts
  simp only [bind_eq_ok, exists_unit, forM_eq_ok, whenSome_eq_ok, rejectIf_eq_ok, pure_eq_ok,
    SampleRelationTable.checkDeclared_eq_ok, Bool.not_eq_false', schemaFingerprint_eq_ok,
    planFingerprint_eq_ok, relationFingerprints_eq_ok]
  constructor
  · rintro ⟨hschema, hsteps, hrows, _, ⟨-, rfl⟩, _, ⟨hplan, rfl⟩, _, ⟨-, rfl⟩,
      coordinatorRelations, hconvert, -, rfl⟩
    exact ⟨⟨hschema, hplan, hsteps, hrows⟩, coordinatorRelations, hconvert, rfl⟩
  · rintro ⟨hfit, coordinatorRelations, hconvert, rfl⟩
    obtain ⟨hvalid, hsome⟩ := converted_eq_ok hconvert
    exact ⟨hfit.validSchema, hfit.steps, hfit.rows, _, ⟨hfit.validSchema, rfl⟩, _,
      ⟨hfit.validPlan, rfl⟩, _, ⟨fun table htable => (hfit.rows table htable).1, rfl⟩,
      coordinatorRelations, hconvert,
      validate_ofParts hfit.validPlan hvalid fun h => hsome.trans h, rfl⟩

/-- The construction succeeds exactly on parts that fit. The envelope is then valid, names the parts
by their fingerprints, and has a record for each row of the table. -/
theorem fromParts_accepts (schema : DatasetSchema) (plan : DataPlan)
    (relations : Option SampleRelationTable) :
    ((∃ envelope, fromParts schema plan relations = .ok envelope) ↔
      PartsFit schema plan relations) ∧
    ∀ envelope, fromParts schema plan relations = .ok envelope →
      envelope.validate = .ok () ∧ envelope.plan = plan ∧ envelope.predictCohort = none ∧
      DagMlData.schemaFingerprint schema = .ok envelope.schemaFingerprint ∧
      plan.fingerprint = .ok envelope.planFingerprint ∧
      relations.mapM sampleRelationFingerprint = .ok envelope.relationFingerprint ∧
      (relations = none → envelope.coordinatorRelations = none) ∧
      ∀ table, relations = some table →
        ∃ set, envelope.coordinatorRelations = some set ∧ table.ConvertsTo set := by
  -- The conversion cannot fail on a table that has passed its own check.
  have hconverts : ∀ table, relations = some table → table.validate = .ok () →
      ∃ set, coordinatorRelationsFromSampleTable table = .ok set ∧ table.ConvertsTo set :=
    fun table _ hvalid => exists_convertsTo (SampleRelationTable.validate_eq_ok.mp hvalid)
  refine ⟨⟨?_, fun hfit => ?_⟩, fun envelope henvelope => ?_⟩
  · rintro ⟨envelope, henvelope⟩
    exact (fromParts_eq_ok.mp henvelope).1
  · cases relations with
    | none => exact ⟨_, fromParts_eq_ok.mpr ⟨hfit, none, rfl, rfl⟩⟩
    | some table =>
      obtain ⟨set, hset, -⟩ := hconverts table rfl (hfit.rows table rfl).1
      refine ⟨_, fromParts_eq_ok.mpr ⟨hfit, some set, ?_, rfl⟩⟩
      rw [Option.mapM_some, hset]
      rfl
  · obtain ⟨hfit, coordinatorRelations, hconvert, rfl⟩ := fromParts_eq_ok.mp henvelope
    obtain ⟨hvalid, hsome⟩ := converted_eq_ok hconvert
    refine ⟨validate_ofParts hfit.validPlan hvalid fun h => hsome.trans h, rfl, rfl,
      schemaFingerprint_eq_ok.mpr ⟨hfit.validSchema, rfl⟩,
      planFingerprint_eq_ok.mpr ⟨hfit.validPlan, rfl⟩,
      relationFingerprints_eq_ok.mpr
        ⟨fun table htable => (hfit.rows table htable).1, rfl⟩, ?_, ?_⟩
    · rintro rfl
      show coordinatorRelations = none
      exact Option.not_isSome_iff_eq_none.mp (by rw [hsome]; exact Bool.false_ne_true)
    · rintro table rfl
      obtain ⟨set, hset, hconverted⟩ := hconverts table rfl (hfit.rows table rfl).1
      rw [Option.mapM_some, hset] at hconvert
      cases hconvert
      exact ⟨set, rfl, hconverted⟩

end CoordinatorDataPlanEnvelope

/-! ## Custody -/

/-- What a schema declares of a record. An augmented record stands for its origin. -/
structure CoordinatorRelation.DeclaredIn (record : CoordinatorRelation) (schema : DatasetSchema) :
    Prop where
  sample : record.originOrSample ∈ schema.sampleIds
  source : ∀ source, record.sourceId = some source → schema.declaresSource source = true
  target : ∀ target, record.targetId = some target → target ∈ schema.targets

/-- The first row of the observation is the only one. -/
theorem originOf_eq {table : SampleRelationTable} (h : table.Accepted) {row base : SampleRelation}
    {o : OriginId} (horigin : row.originId = some o) (hbase : base ∈ table.rows)
    (hsame : base.observationId.value = o.value) : table.originOf row = some base := by
  unfold SampleRelationTable.originOf
  rw [horigin]
  show table.rows.find? _ = some base
  cases hfind : table.rows.find? fun base => base.observationId.value == o.value with
  | none =>
    have hno := List.find?_eq_none.mp hfind base hbase
    exact absurd (beq_iff_eq.mpr hsame) hno
  | some first =>
    have hfirst : first.observationId.value = o.value :=
      beq_iff_eq.mp (List.find?_some
        (p := fun base : SampleRelation => base.observationId.value == o.value) hfind)
    have hid : first.observationId = base.observationId :=
      Ident.value_injective (hfirst.trans hsame.symm)
    rw [List.inj_on_of_nodup_map h.observations_nodup (List.mem_of_find?_eq_some hfind) hbase hid]

/-- The record of a declared row. -/
theorem SampleRelation.DeclaredIn.record {table : SampleRelationTable} (h : table.Accepted)
    {schema : DatasetSchema} {row : SampleRelation} (hrow : row ∈ table.rows)
    (hdeclared : row.DeclaredIn table schema) {record : CoordinatorRelation}
    (hcarries : row.Carries table record) : record.DeclaredIn schema := by
  refine ⟨?_, fun source hsource => hdeclared.source source (hcarries.source ▸ hsource),
    fun target htarget => hdeclared.target target (hcarries.target ▸ htarget)⟩
  unfold CoordinatorRelation.originOrSample
  have haugmented := (h.own row hrow).augmented
  cases horigin : row.originId with
  | none =>
    rw [hcarries.no_origin horigin, hcarries.sample]
    rw [horigin] at haugmented
    exact hdeclared.sample haugmented
  | some o =>
    rw [horigin] at haugmented
    obtain ⟨origin, hmem, hsame, hrecord⟩ := hcarries.origin o horigin
    obtain ⟨base, hbase, hsample⟩ := hdeclared.origin haugmented
    rw [originOf_eq h horigin hmem hsame] at hbase
    cases hbase
    rw [hrecord]
    exact hsample

section Custody

variable [ThirdParty] {provider : InMemoryProvider} {envelope : CoordinatorDataPlanEnvelope}
  {featureStore : NumericFeatureBufferStore} {ndTensorStore : NdTensorStore}

open CoordinatorHandleArena

/-- Without a cohort, the handles store records of the envelope. -/
theorem materializationScope_within {training : CoordinatorRelationSet}
    (htraining : envelope.coordinatorRelations = some training)
    (hcohort : envelope.predictCohort = none) {request : CoordinatorDataMaterializationRequest}
    {scope : Option CoordinatorRelationSet}
    (h : materializationScope envelope request = .ok scope) :
    ∃ rs, scope = some rs ∧ ∀ r ∈ rs.records, r ∈ training.records := by
  obtain ⟨relations, hrelations, -, hscope⟩ := materializationScope_eq_ok h
  refine hscope training ?_
  unfold materializationRelations at hrelations
  rw [hcohort, htraining] at hrelations
  cases hrequest : request.predictCohort with
  | some cohort =>
    simp only [hrequest, Option.filter_none, bind_eq_ok, require_eq_ok] at hrelations
    obtain ⟨_, -, _, hnone, -⟩ := hrelations
    cases hnone
  | none =>
    simp only [hrequest] at hrelations
    cases hphase : request.isPrediction with
    | true =>
      rw [hphase] at hrelations
      exact (pure_eq_ok.mp hrelations).symm
    | false =>
      rw [hphase] at hrelations
      exact (pure_eq_ok.mp hrelations).symm

omit [ThirdParty] in
/-- The calls of a provider materialize from its envelope. -/
theorem uses_onHandles {calls : List ProviderCall} {call : ArenaCall}
    (hmem : call ∈ calls.map (·.onHandles envelope)) : call.Uses envelope := by
  obtain ⟨providerCall, -, rfl⟩ := List.mem_map.mp hmem
  intro other request heq
  cases providerCall with
  | materialize _ =>
    cases heq
    rfl
  | makeView _ _ => cases heq
  | release _ => cases heq

/-- Without a cohort, views show records of the envelope. -/
theorem viewRelations_within (hbuilt : provider.BuiltFrom envelope featureStore ndTensorStore)
    {training : CoordinatorRelationSet} (htraining : envelope.coordinatorRelations = some training)
    (hcohort : envelope.predictCohort = none) (calls : List ProviderCall) {v : Nat}
    {relations : CoordinatorRelationSet}
    (hview : (provider.arenas.run envelope calls).handles.viewRelations[v]? = some relations) :
    ∀ r ∈ relations.records, r ∈ training.records := by
  obtain ⟨handles, hnew, harenas⟩ := hbuilt.exists_handles
  rw [ProviderArenas.run_handles, harenas] at hview
  have htracks : (watchedRun handles (calls.map (·.onHandles envelope))).2.Tracks
      (fun _ relations => ∀ r ∈ relations.records, r ∈ training.records)
      (handles.run (calls.map (·.onHandles envelope))) := by
    rw [← watchedRun_fst]
    refine Machine.run_preserves (fun s : CoordinatorHandleArena × Provenance =>
      s.2.Tracks (fun _ relations => ∀ r ∈ relations.records, r ∈ training.records) s.1) ?_ ?_
    · simp only [CoordinatorHandleArena.new, bind_eq_ok, pure_eq_ok] at hnew
      obtain ⟨-, -, rfl⟩ := hnew
      constructor <;> simp
    · intro s call hmem h
      exact h.step (fun _ _ => materializationScope_within htraining hcohort)
        (fun _ _ _ hall hsub r hr => hall r (hsub r hr)) (uses_onHandles hmem)
  obtain ⟨_, -, hall⟩ := htracks.views v relations hview
  exact hall

/-- Whatever a provider over an envelope from parts has done, a view shows only records that the
schema declares, and reads the rows of no other observations. -/
theorem fromParts_custody {schema : DatasetSchema} {plan : DataPlan} {table : SampleRelationTable}
    (hparts : CoordinatorDataPlanEnvelope.fromParts schema plan (some table) = .ok envelope)
    (hbuilt : provider.BuiltFrom envelope featureStore ndTensorStore) (calls : List ProviderCall)
    (v : Nat) :
    let arenas := provider.arenas.run envelope calls
    (∀ relations, arenas.handles.viewIdentity v = .ok relations →
      ∀ r ∈ relations.records, r.DeclaredIn schema) ∧
    ∀ o, (∃ id, arenas.ReadsFeatureRow v id o) ∨ (∃ id, arenas.ReadsTensorRow v id o) →
      ∃ row ∈ table.rows, row.observationId = o ∧ row.DeclaredIn table schema := by
  intro arenas
  obtain ⟨hfit, _, hconvert, rfl⟩ := CoordinatorDataPlanEnvelope.fromParts_eq_ok.mp hparts
  obtain ⟨hvalid, hdeclared⟩ := hfit.rows table rfl
  have haccepted := SampleRelationTable.validate_eq_ok.mp hvalid
  obtain ⟨set, hset, hconverts⟩ := exists_convertsTo haccepted
  rw [Option.mapM_some, hset] at hconvert
  cases hconvert
  -- A record of a view is that of a row.
  have hrow : ∀ relations, arenas.handles.viewRelations[v]? = some relations →
      ∀ r ∈ relations.records, ∃ row ∈ table.rows, row.Carries table r :=
    fun relations hrelations r hr => (hconverts.mem haccepted).mp
      (viewRelations_within hbuilt rfl rfl calls hrelations r hr)
  refine ⟨fun relations hrelations r hr => ?_, fun o ho => ?_⟩
  · obtain ⟨row, hmem, hcarries⟩ := hrow relations (require_eq_ok.mp hrelations) r hr
    exact (hdeclared row hmem).record haccepted hmem hcarries
  · have hrecords : ∃ relations, arenas.handles.viewRelations[v]? = some relations ∧
        relations.Records o := by
      rcases ho with ⟨id, ho⟩ | ⟨id, ho⟩
      · exact ho.records
      · exact ho.records (hbuilt.run_checked calls)
    obtain ⟨relations, hrelations, r, hr, rfl⟩ := hrecords
    obtain ⟨row, hmem, hcarries⟩ := hrow relations hrelations r hr
    exact ⟨row, hmem, hcarries.observation.symm, hdeclared row hmem⟩

end Custody

/-! ## A table with an augmented row -/

/-- A request for the data of an envelope, under its own fingerprints. -/
def ownRequest (envelope : CoordinatorDataPlanEnvelope) : CoordinatorDataMaterializationRequest :=
  { CoordinatorHandleArena.trainingRequest with
    schemaFingerprint := envelope.schemaFingerprint
    planFingerprint := envelope.planFingerprint
    relationFingerprint := envelope.relationFingerprint }

/-- The data of the envelope, and a view of all of it, which is handle 2. -/
def ownCalls (envelope : CoordinatorDataPlanEnvelope) : List ProviderCall :=
  [.materialize (ownRequest envelope), .makeView 1 CoordinatorHandleArena.plainView]

/-- The view shows the records of both rows, and the feature row of the augmented one is read. -/
theorem augmentedParts_custody : letI := ThirdParty.ofTable []
    ∃ (envelope : CoordinatorDataPlanEnvelope) (provider : InMemoryProvider)
      (relations : CoordinatorRelationSet),
      CoordinatorDataPlanEnvelope.fromParts hopSchema nirPlan (some augmentedTable) =
        .ok envelope ∧
      provider.BuiltFrom envelope sharedFeatureStore sharedTensorStore ∧
      let arenas := provider.arenas.run envelope (ownCalls envelope)
      arenas.handles.viewIdentity 2 = .ok relations ∧
      relations.records.map (·.observationId) = [.lit "o1" rfl, .lit "o2" rfl] ∧
      (∀ r ∈ relations.records, r.DeclaredIn hopSchema) ∧
      arenas.ReadsFeatureRow 2 "all" (.lit "o2" rfl) ∧
      ∃ row ∈ augmentedTable.rows, row.observationId = (.lit "o2" rfl) ∧
        row.DeclaredIn augmentedTable hopSchema := by
  let _ := ThirdParty.ofTable []
  have hrun : (CoordinatorDataPlanEnvelope.fromParts hopSchema nirPlan
      (some augmentedTable)).toOption.map (fun envelope =>
        let arenas := sharedProvider.arenas.run envelope (ownCalls envelope)
        ((arenas.handles.viewIdentity 2).toOption.map fun relations =>
            relations.records.map (·.observationId),
          (arenas.featureBlockFiltered 2 "all" none none).toOption.map (·.observationIds))) =
      some (some [.lit "o1" rfl, .lit "o2" rfl],
        some [.lit "o1" rfl, .lit "o2" rfl]) := by
    decide +kernel
  obtain ⟨envelope, hparts, hread⟩ := Option.map_eq_some_iff.mp hrun
  obtain ⟨hview, hblock⟩ := Prod.mk.inj hread
  obtain ⟨relations, hview, hrecords⟩ := Option.map_eq_some_iff.mp hview
  obtain ⟨block, hblock, hrows⟩ := Option.map_eq_some_iff.mp hblock
  replace hparts := toOption_eq_some.mp hparts
  obtain ⟨hfeatures, htensors, -⟩ := sharedProvider_built
  have hbuilt : InMemoryProvider.BuiltFrom { sharedProvider with envelope := envelope } envelope
      sharedFeatureStore sharedTensorStore := by
    obtain ⟨hfit, set, hconvert, rfl⟩ := CoordinatorDataPlanEnvelope.fromParts_eq_ok.mp hparts
    obtain ⟨hvalid, hsame⟩ := CoordinatorDataPlanEnvelope.converted_eq_ok hconvert
    refine ⟨hfeatures, htensors, bind_eq_ok.mpr ⟨(), ?_, rfl⟩⟩
    exact CoordinatorDataPlanEnvelope.validate_ofParts hfit.validPlan hvalid fun _ => hsame
  obtain ⟨hdeclared, hcustody⟩ := fromParts_custody hparts hbuilt (ownCalls envelope) 2
  have hreads : ProviderArenas.ReadsFeatureRow (sharedProvider.arenas.run envelope
      (ownCalls envelope)) 2 "all" (.lit "o2" rfl) :=
    ⟨none, none, block, toOption_eq_some.mp hblock, by rw [hrows]; decide⟩
  exact ⟨envelope, _, relations, hparts, hbuilt, toOption_eq_some.mp hview, hrecords,
    hdeclared relations (toOption_eq_some.mp hview), hreads,
      hcustody _ (.inl ⟨"all", hreads⟩)⟩

end DagMlData
