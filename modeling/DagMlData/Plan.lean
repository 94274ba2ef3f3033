import DagMlData.Fingerprint
import DagMlData.Ids

/-!
# Data plans

A data plan is a list of steps that name their inputs and their output in their metadata.
`DataPlan.validate` walks over the steps and keeps the outputs that earlier steps have declared
(`PlanLoop`).
-/

namespace DagMlData

open Guard RustText

inductive FitScope
  | stateless
  | foldTrain
  | fullTrain
  | inferenceOnly
deriving DecidableEq, Repr

inductive DataPlanStepKind
  | materialize
  | adapt
  | align
  | join
  | collate
deriving DecidableEq, Repr

structure DataPlanStep where
  kind : DataPlanStepKind
  sourceId : Option SourceId
  adapterId : Option String
  inputRepresentation : Option RepresentationId
  outputRepresentation : Option RepresentationId
  fitScope : FitScope
  requiresUserChoice : Bool
  metadata : BTreeMap String Json

structure PlanIssue where
  code : String
  message : String
  choices : List String
deriving DecidableEq

structure DataPlan where
  id : String
  steps : List DataPlanStep
  outputRepresentation : RepresentationId
  issues : List PlanIssue

/-! ## Validation -/

/-- The outputs of the steps so far, with their representations, and the sources of those that
materialize steps declared. -/
structure PlanLoop where
  outputs : BTreeMap String (Option RepresentationId)
  sourceOutputs : BTreeMap String (Option SourceId)

namespace DataPlanStep

variable (step : DataPlanStep) (invalid : String → DataError)

/-- The names in `metadata.input` and `metadata.inputs`. -/
def inputs : Result (List String) := do
  let single ← match step.metadata["input"]? with
    | some value => do
      let name ← require value.asStr (invalid "input must be a string")
      pure [name]
    | none => pure []
  let several ← match step.metadata["inputs"]? with
    | some value => do
      let values ← require value.asArray (invalid "inputs must be an array")
      rejectIf values.isEmpty (invalid "inputs must not be empty")
      values.mapM fun v => require v.asStr (invalid "inputs must contain strings")
    | none => pure []
  pure (single ++ several)

/-- The name under which later steps refer to the output. -/
def output : Result (Option String) :=
  match step.metadata["output"]? with
  | some value => do
    let id ← require (value.asStr.filter fun id => !isBlank id)
      (invalid "output must be a nonempty string")
    pure (some id)
  | none =>
    if step.kind == .materialize then pure (step.sourceId.map fun id => s!"src:{id}")
    else pure none

/-- An input names an earlier output, of the representation that the step expects. -/
def checkInput (st : PlanLoop) (input : String) : Result Unit := do
  let representation ← require st.outputs[input]?
    (invalid s!"input `{input}` references no earlier output")
  whenSome representation fun actual =>
    whenSome step.inputRepresentation fun expected =>
      rejectIf (actual != expected)
        (invalid s!"input `{input}` representation `{actual}` does not match `{expected}`")

/-- An output is new, or the same source materialized again. -/
def checkOutput (st : PlanLoop) (output : String) : Result Unit :=
  whenSome st.outputs[output]? fun previous =>
    rejectIf (step.kind != .materialize || previous != step.outputRepresentation ||
        st.sourceOutputs[output]? != some step.sourceId)
      (invalid s!"duplicate output `{output}`")

end DataPlanStep

/-- The outputs after the step. -/
def PlanLoop.add (st : PlanLoop) (step : DataPlanStep) (output : Option String) : PlanLoop :=
  match output with
  | none => st
  | some output =>
    { outputs := st.outputs.insert output step.outputRepresentation
      sourceOutputs :=
        if step.kind == .materialize then st.sourceOutputs.insert output step.sourceId
        else st.sourceOutputs }

namespace DataPlan

/-- The error of the step with the index. -/
def invalid (plan : DataPlan) (idx : Nat) (message : String) : DataError :=
  .validation s!"data plan `{plan.id}` step {idx}: {message}"

/-- The loop body of `DataPlan::validate`. -/
def checkStep (plan : DataPlan) (st : PlanLoop) (entry : DataPlanStep × Nat) :
    Result PlanLoop := do
  let (step, idx) := entry
  rejectIf (step.kind == .materialize && step.sourceId.isNone)
    (.validation s!"data plan `{plan.id}` step {idx} materializes without source_id")
  rejectIf (step.kind == .adapt && step.adapterId.isNone)
    (.validation s!"data plan `{plan.id}` step {idx} adapts without adapter_id")
  rejectIf (step.adapterId.any isBlank) (plan.invalid idx "adapter_id must not be empty")
  let inputs ← step.inputs (plan.invalid idx)
  rejectIf (idx == 0 && step.kind != .materialize)
    (plan.invalid idx "must materialize a source before consuming data")
  forM inputs (step.checkInput (plan.invalid idx) st)
  let output ← step.output (plan.invalid idx)
  whenSome output (step.checkOutput (plan.invalid idx) st)
  pure (st.add step output)

def validate (plan : DataPlan) : Result Unit := do
  rejectIf (isBlank plan.id) (.validation "data plan id is empty")
  rejectIf plan.steps.isEmpty (.validation s!"data plan `{plan.id}` contains no steps")
  let _ ← plan.steps.zipIdx.foldlM plan.checkStep ⟨∅, ∅⟩
  whenSome (plan.steps.getLast?.bind (·.outputRepresentation)) fun output =>
    rejectIf (output != plan.outputRepresentation)
      (.validation
        s!"data plan `{plan.id}` output representation does not match its final step")

def requiresUserChoice (plan : DataPlan) : Bool :=
  plan.steps.any (·.requiresUserChoice) || !plan.issues.isEmpty

end DataPlan

/-! ## Fingerprint -/

def FitScope.name : FitScope → String
  | .stateless => "stateless"
  | .foldTrain => "fold_train"
  | .fullTrain => "full_train"
  | .inferenceOnly => "inference_only"

def DataPlanStepKind.name : DataPlanStepKind → String
  | .materialize => "materialize"
  | .adapt => "adapt"
  | .align => "align"
  | .join => "join"
  | .collate => "collate"

def Ident.toJson {kind : IdKind} (id : Ident kind) : Json := .string id.value

def DataPlanStep.toJson (step : DataPlanStep) : Json :=
  .object
    [("kind", .string step.kind.name),
      ("source_id", .ofOption Ident.toJson step.sourceId),
      ("adapter_id", .ofOption .string step.adapterId),
      ("input_representation", .ofOption Ident.toJson step.inputRepresentation),
      ("output_representation", .ofOption Ident.toJson step.outputRepresentation),
      ("fit_scope", .string step.fitScope.name),
      ("requires_user_choice", .bool step.requiresUserChoice),
      ("metadata", .ofMap step.metadata)]

def PlanIssue.toJson (issue : PlanIssue) : Json :=
  .object
    [("code", .string issue.code), ("message", .string issue.message),
      ("choices", .ofList .string issue.choices)]

def DataPlan.toJson (plan : DataPlan) : Json :=
  .object
    [("id", .string plan.id),
      ("steps", .ofList DataPlanStep.toJson plan.steps),
      ("output_representation", plan.outputRepresentation.toJson),
      ("issues", .ofList PlanIssue.toJson plan.issues)]

/-- `data_plan_fingerprint`. -/
def DataPlan.fingerprint [ThirdParty] (plan : DataPlan) : Result String := do
  plan.validate
  pure plan.toJson.fingerprint

end DagMlData
