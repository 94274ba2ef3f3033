import DagMlData.Coordinator

/-!
# Predict cohorts and data-plan envelopes

A predict cohort is a set of relations that is kept apart for prediction, with its physical and
origin samples and its fingerprints. An envelope carries a data plan, the relations for training
and at most one cohort.
-/

namespace DagMlData

open Guard RustText

inductive PredictCohortRole
  | externalTest
  | inference
deriving DecidableEq, Repr

structure PredictCohort where
  role : PredictCohortRole
  physicalSampleIds : List SampleId
  originSampleIds : List SampleId
  targetNames : List String
  relationFingerprint : String
  relations : CoordinatorRelationSet
  dataContentFingerprint : String
  targetContentFingerprint : Option String
  cohortFingerprint : String

/-- Every element is below the next one. -/
def strictlyAscending {α : Type} [Ord α] : List α → Bool
  | a :: b :: rest => compare a b == .lt && strictlyAscending (b :: rest)
  | _ => true

/-- The sample that a record comes from: its origin sample, or its own. -/
def CoordinatorRelation.originOrSample (r : CoordinatorRelation) : SampleId :=
  r.originSampleId.getD r.sampleId

def PredictCohortRole.name : PredictCohortRole → String
  | .externalTest => "external_test"
  | .inference => "inference"

namespace PredictCohort

variable [ThirdParty] (cohort : PredictCohort)

def validateMembers : Result Unit := do
  forM [("physical", cohort.physicalSampleIds), ("origin", cohort.originSampleIds)] fun entry =>
    rejectIf (entry.2.isEmpty || !strictlyAscending entry.2)
      (.validation s!"predict cohort {entry.1} IDs must be nonempty, sorted and unique")
  rejectIf (cohort.targetNames.isEmpty || hasRepeats cohort.targetNames ||
      cohort.targetNames.any isBlank)
    (.validation "predict cohort target names must be nonempty and unique")
  validateFingerprint "predict cohort data content" cohort.dataContentFingerprint
  whenSome cohort.targetContentFingerprint (validateFingerprint "predict cohort target content")
  rejectIf ((cohort.role == .externalTest) != cohort.targetContentFingerprint.isSome)
    (.validation "external_test requires target content; inference forbids it")
  cohort.relations.validate
  let relationFingerprint ← cohort.relations.fingerprint
  rejectIf (cohort.relationFingerprint != relationFingerprint)
    (.validation "predict cohort relation fingerprint does not match relations")
  let samples := BTreeSet.collect (cohort.relations.records.map (·.sampleId))
  let origins := BTreeSet.collect (cohort.relations.records.map (·.originOrSample))
  rejectIf (decide (samples ≠ BTreeSet.collect cohort.physicalSampleIds) ||
      decide (origins ≠ BTreeSet.collect cohort.originSampleIds))
    (.validation "predict cohort IDs do not cover exactly its relations")

/-- The value that the fingerprint digests: everything but the fingerprint itself. -/
def toJson (cohort : PredictCohort) : Json :=
  .object
    [("role", .string cohort.role.name),
      ("physical_sample_ids", .ofList Ident.toJson cohort.physicalSampleIds),
      ("origin_sample_ids", .ofList Ident.toJson cohort.originSampleIds),
      ("target_names", .ofList .string cohort.targetNames),
      ("relation_fingerprint", .string cohort.relationFingerprint),
      ("relations", cohort.relations.toJson),
      ("data_content_fingerprint", .string cohort.dataContentFingerprint),
      ("target_content_fingerprint", .ofOption .string cohort.targetContentFingerprint)]

def fingerprint : Result String := do
  cohort.validateMembers
  pure cohort.toJson.fingerprint

def validate : Result Unit := do
  validateFingerprint "predict cohort" cohort.cohortFingerprint
  let actual ← cohort.fingerprint
  rejectIf (cohort.cohortFingerprint != actual)
    (.validation "predict cohort fingerprint does not match content")

/-- The samples that training relations name, as samples or as origins. -/
def trainingSamples (relations : CoordinatorRelationSet) : BTreeSet SampleId :=
  BTreeSet.collect (relations.records.flatMap fun r => r.sampleId :: r.originSampleId.toList)

def validateDisjoint (trainingRelations : CoordinatorRelationSet) : Result Unit := do
  cohort.validate
  trainingRelations.validate
  if cohort.role == .inference then pure ()
  else
    rejectIf ((cohort.physicalSampleIds ++ cohort.originSampleIds).any fun id =>
        (trainingSamples trainingRelations).contains id)
      (.validation "external_test cohort overlaps training physical/origin identities")

/-- The derived `PartialEq`. -/
instance : BEq PredictCohort where
  beq a b :=
    a.role == b.role && a.physicalSampleIds == b.physicalSampleIds &&
      a.originSampleIds == b.originSampleIds && a.targetNames == b.targetNames &&
      a.relationFingerprint == b.relationFingerprint && a.relations == b.relations &&
      a.dataContentFingerprint == b.dataContentFingerprint &&
      a.targetContentFingerprint == b.targetContentFingerprint &&
      a.cohortFingerprint == b.cohortFingerprint

end PredictCohort

/-! ## Envelopes -/

structure CoordinatorDataPlanEnvelope where
  schemaVersion : Nat
  schemaFingerprint : String
  planFingerprint : String
  relationFingerprint : Option String
  dataContentFingerprint : Option String
  targetContentFingerprint : Option String
  plan : DataPlan
  coordinatorRelations : Option CoordinatorRelationSet
  predictCohort : Option PredictCohort

namespace CoordinatorDataPlanEnvelope

variable [ThirdParty] (envelope : CoordinatorDataPlanEnvelope)

/-- The cohort is there when the schema version says so, and it is valid and, as an external
test, apart from the training relations. -/
def validateCohort : Result Unit :=
  match envelope.schemaVersion, envelope.predictCohort with
  | 1, some _ => .error (.validation "envelope V1 cannot carry predict_cohort")
  | 2, none => .error (.validation "envelope V2 requires predict_cohort")
  | _, some cohort => do
    cohort.validate
    if cohort.role == .externalTest then do
      let cv ← require envelope.coordinatorRelations
        (.validation "external_test requires coordinator_relations")
      cohort.validateDisjoint cv
    else pure ()
  | _, none => pure ()

def validate : Result Unit := do
  rejectIf (!(envelope.schemaVersion == 1 || envelope.schemaVersion == 2))
    (.validation (s!"coordinator data-plan envelope uses unsupported schema_version " ++
      s!"{envelope.schemaVersion}, expected 1"))
  envelope.validateCohort
  validateFingerprint "schema" envelope.schemaFingerprint
  validateFingerprint "plan" envelope.planFingerprint
  envelope.plan.validate
  let actualPlan ← envelope.plan.fingerprint
  rejectIf (actualPlan != envelope.planFingerprint)
    (.fingerprintMismatch "plan" envelope.planFingerprint actualPlan)
  whenSome envelope.coordinatorRelations CoordinatorRelationSet.validate
  whenSome envelope.relationFingerprint fun relationFingerprint => do
    validateFingerprint "relation" relationFingerprint
    rejectIf envelope.coordinatorRelations.isNone
      (.validation "relation_fingerprint requires coordinator_relations")
  whenSome envelope.dataContentFingerprint (validateFingerprint "data content")
  whenSome envelope.targetContentFingerprint (validateFingerprint "target content")

end CoordinatorDataPlanEnvelope

/-! ## An envelope with an external test -/

/-- A plan that materializes one source. -/
def nirPlan : DataPlan where
  id := "nir-to-tabular"
  steps :=
    [{ kind := .materialize, sourceId := some (.lit "nir" rfl), adapterId := none
       inputRepresentation := none, outputRepresentation := some (.lit "tabular" rfl)
       fitScope := .stateless, requiresUserChoice := false, metadata := ∅ }]
  outputRepresentation := .lit "tabular" rfl
  issues := []

def trainingRecord : CoordinatorRelation :=
  CoordinatorRelation.new (.lit "o1" rfl) (.lit "s1" rfl)

def testRecord : CoordinatorRelation :=
  CoordinatorRelation.new (.lit "o9" rfl) (.lit "s9" rfl)

/-- Some digest of content. -/
def contentDigest : String := String.ofList (List.replicate 64 '0')

def testCohort : PredictCohort where
  role := .externalTest
  physicalSampleIds := [.lit "s9" rfl]
  originSampleIds := [.lit "s9" rfl]
  targetNames := ["y"]
  relationFingerprint := "9e8beb4acefc111f60b03e36ce6c2059421e750324cdee1bd0ad42e0954a50a2"
  relations := ⟨[testRecord]⟩
  dataContentFingerprint := contentDigest
  targetContentFingerprint := some contentDigest
  cohortFingerprint := "b9c4b9853ec047f4431fc1202c4f77443fbb9554d30f80499bc0f0b83da50e42"

def testEnvelope : CoordinatorDataPlanEnvelope where
  schemaVersion := 2
  schemaFingerprint := contentDigest
  planFingerprint := "51f61c6983d01993a86efd5987d4d01d8febef8183fafe1a32410aa75f2b2272"
  relationFingerprint := none
  dataContentFingerprint := none
  targetContentFingerprint := none
  plan := nirPlan
  coordinatorRelations := some ⟨[trainingRecord]⟩
  predictCohort := some testCohort

/-- SHA-256 on the three texts that validating the envelope digests. -/
@[reducible] def testDigests : ThirdParty :=
  .ofTable
    [(@Json.compact (.ofTable []) nirPlan.toJson, testEnvelope.planFingerprint),
      (@Json.compact (.ofTable []) (CoordinatorRelationSet.canonicalJson [("o9", testRecord)]),
        testCohort.relationFingerprint),
      (@Json.compact (.ofTable []) testCohort.toJson, testCohort.cohortFingerprint)]

theorem testEnvelope_valid :
    @CoordinatorDataPlanEnvelope.validate testDigests testEnvelope = .ok () := by
  decide +kernel

end DagMlData
