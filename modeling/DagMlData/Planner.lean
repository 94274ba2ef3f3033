import DagMlData.AdapterSearch
import DagMlData.Alignment
import DagMlData.Lib.SortOn
import DagMlData.Schema

/-!
# The planner

`plan_model_input` of `planner.rs`: for every port of a model input it resolves the sources that
can be adapted to the port, and appends the steps that materialize, adapt, align and join them.

* `resolveSource`: the first accepted type and representation that a source can be adapted to.
* `resolvePort`: the sources of a port, brought to one type and representation when there are
  several.
* `buildPlan`: the plan before it is validated. `planModelInput`: the plan, validated.

`PlannerState` has the variables of the loop over the ports. The search for a path always returns
(`findPath_eq_some`), so the planner uses what it returns.
-/

namespace DagMlData

open Guard RustText SortOn

structure DataPlanRequest where
  id : String
  sourceIds : Option (List SourceId)
  planningPolicy : PlanningPolicy

/-- `validate_request`. -/
def DataPlanRequest.validate (request : DataPlanRequest) : Result Unit := do
  rejectIf (isBlank request.id) (.validation "data plan request id is empty")
  whenSome request.sourceIds fun sourceIds =>
    rejectRepeats
      (fun id => .validation s!"data plan request contains duplicate source `{id}`") sourceIds

/-- `candidate_sources`. -/
def candidateSources (schema : DatasetSchema) (request : DataPlanRequest) :
    Result (List SourceDescriptor) :=
  let sources := sortOn SourceDescriptor.id schema.sources
  match request.sourceIds with
  | some requested =>
    let byId := BTreeMap.collect (sources.map fun source => (source.id, source))
    requested.mapM fun id => require byId[id]?
      (.validation s!"data plan request references unknown source `{id}`")
  | none => pure sources

/-! ## Resolving a source -/

/-- The identifiers and the ranks of `builtin_representations`. -/
def builtinRepresentations : List (String × Nat) :=
  [("signal_1d", 2), ("signal_with_processings", 3), ("raman_signal", 2), ("ftir_signal", 2),
    ("tabular_numeric", 2), ("tabular_mixed", 2), ("feature_block_set", 3), ("series_mv", 3),
    ("climate_series_mv", 3), ("variant_matrix", 2), ("dosage_matrix", 2), ("rgb_image", 4),
    ("gray_image", 3), ("mc_image", 4), ("multispectral_image", 4), ("cube_hwb", 4),
    ("segmentation_mask", 3), ("roi_mask", 3), ("sample_metadata", 2), ("target_numeric", 1),
    ("target_categorical", 1), ("target_numeric_matrix", 2), ("target_categorical_matrix", 2),
    ("mass_spectrum", 2), ("text_raw", 1), ("text_token_ids", 2)]

structure ResolvedSource where
  source : SourceDescriptor
  targetRepresentation : RepresentationId
  path : AdapterPath
  issues : List PlanIssue

namespace SourceDescriptor

/-- The declared type of the source and its native representation. -/
def node (source : SourceDescriptor) : RepresentationNode :=
  ⟨source.typeId, source.nativeRepresentation.id⟩

/-- `known_rank`: the rank that a representation has for a source, if there is one. -/
def knownRank (source : SourceDescriptor) (target : RepresentationId) : Option Nat :=
  if target = source.nativeRepresentation.id then source.nativeRepresentation.rank
  else (builtinRepresentations.find? fun spec => spec.1 == target.value).map Prod.snd

end SourceDescriptor

/-- The port asks for a rank, and the representation has another one. -/
def rankMismatch (required actual : Option Nat) : Bool :=
  match required, actual with
  | some required, some actual => required != actual
  | _, _ => false

def unverifiedRank (port : InputPortSpec) (target : RepresentationId) : PlanIssue where
  code := "unverified_rank"
  message := s!"input port `{port.name}` requires rank {debugOption port.rank}, but " ++
    s!"representation `{target}` has no declared rank"
  choices := []

section Resolve
variable (registry : AdapterRegistry) (policy : PlanningPolicy)

/-- `find_path`, without the option. -/
def pathResolution (start goal : RepresentationNode) : PathResolution :=
  (findPath registry policy start goal).get (by
    obtain ⟨_, hfound, _⟩ := findPath_eq_some registry policy start goal
    rw [hfound]
    rfl)

/-- The path to use. Where several are equally good, all of them are reported as a choice, and
the first one is planned with. -/
def candidatePath (start goal : RepresentationNode) : Option AdapterPath :=
  let resolution := pathResolution registry policy start goal
  if resolution.requiresUserChoice then
    (pathResolution registry { policy with requireUserChoiceOnAmbiguity := false } start goal).path
  else resolution.path

/-- The body of the loops of `resolve_source`. -/
def resolveTarget (source : SourceDescriptor) (port : InputPortSpec)
    (target : RepresentationNode) : Option ResolvedSource :=
  let knownRank := source.knownRank target.representationId
  -- A known rank that differs skips the representation; an unknown one is reported below.
  if rankMismatch port.rank knownRank then none
  else (candidatePath registry policy source.node target).map fun path =>
    { source
      targetRepresentation := target.representationId
      path
      issues := (pathResolution registry policy source.node target).issues ++
        if port.rank.isSome && knownRank.isNone then [unverifiedRank port target.representationId]
        else [] }

/-- `resolve_source`. -/
def resolveSource (source : SourceDescriptor) (port : InputPortSpec) : Option ResolvedSource :=
  port.acceptedTypes.findSome? fun targetType =>
    port.acceptedRepresentations.findSome? fun targetRepresentation =>
      resolveTarget registry policy source port ⟨targetType, targetRepresentation⟩

/-- The loop `'targets`: the first type and representation that all sources can be adapted to. -/
def commonTarget (port : InputPortSpec) (eligible : List SourceDescriptor) :
    Option (List ResolvedSource) :=
  port.acceptedTypes.findSome? fun targetType =>
    port.acceptedRepresentations.findSome? fun representation =>
      let targetPort :=
        { port with acceptedTypes := [targetType], acceptedRepresentations := [representation] }
      eligible.mapM fun source => resolveSource registry policy source targetPort

/-- The sources of a port. -/
def resolvePort (candidates : List SourceDescriptor) (port : InputPortSpec) :
    Result (List ResolvedSource) :=
  let resolved := candidates.filterMap fun source => resolveSource registry policy source port
  if port.multiSource && 1 < resolved.length then
    require (commonTarget registry policy port (resolved.map (·.source)))
      (.validation (s!"model input port `{port.name}` has no common accepted representation for " ++
        "its sources"))
  else pure resolved

end Resolve

/-! ## Alignment -/

namespace AlignmentMode

def name : AlignmentMode → String
  | .inner => "inner"
  | .left => "left"
  | .outer => "outer"

def ofName (name : String) : Option AlignmentMode :=
  [AlignmentMode.inner, .left, .outer].find? fun mode => mode.name == name

/-- `serde_json::from_value`: a name, or an object whose only key is the name, with null. -/
def ofJson : Json → Option AlignmentMode
  | .string name => ofName name
  | .object [(name, .null)] => ofName name
  | _ => none

end AlignmentMode

/-- `alignment_mode_from_fusion`. -/
def alignmentModeFromFusion [ThirdParty] (value : Option Json) : Result AlignmentMode :=
  match value.bind (·.get "alignment") with
  | none => pure .inner
  | some mode =>
    require (AlignmentMode.ofJson mode)
      (.validation s!"invalid fusion alignment policy: {ThirdParty.alignmentError mode}")

/-! ## Steps -/

/-- `source_output_id`. -/
def sourceOutputId (source : SourceId) : String := s!"src:{source}"

def materializeStep (source : SourceDescriptor) : DataPlanStep where
  kind := .materialize
  sourceId := some source.id
  adapterId := none
  inputRepresentation := none
  outputRepresentation := some source.nativeRepresentation.id
  fitScope := .stateless
  requiresUserChoice := false
  metadata := BTreeMap.collect [("output", .string (sourceOutputId source.id))]

def adaptStep (source : SourceDescriptor) (adapter : AdapterSpec)
    (representation : RepresentationId) (input output : String) : DataPlanStep where
  kind := .adapt
  sourceId := some source.id
  adapterId := some adapter.id
  inputRepresentation := some representation
  outputRepresentation := some adapter.outputRepresentation
  fitScope := adapter.fitScope
  requiresUserChoice := false
  metadata := BTreeMap.collect
    [("adapter_version", .string adapter.version),
      ("adapter_params", .object adapter.params.toList), ("input", .string input),
      ("output", .string output)]

/-- An align step, with `alignment_metadata`. -/
def alignStep (representation : RepresentationId) (inputs : List String) (output : String)
    (mode : AlignmentMode) : DataPlanStep where
  kind := .align
  sourceId := none
  adapterId := none
  inputRepresentation := some representation
  outputRepresentation := some representation
  fitScope := .stateless
  requiresUserChoice := false
  metadata := BTreeMap.collect
    [("inputs", .array (inputs.map .string)), ("output", .string output),
      ("alignment", .string mode.name)]

def joinStep (representation : RepresentationId) (inputs : List String) (port : String) :
    DataPlanStep where
  kind := .join
  sourceId := none
  adapterId := none
  inputRepresentation := some representation
  outputRepresentation := some representation
  fitScope := .stateless
  requiresUserChoice := false
  metadata := BTreeMap.collect
    [("inputs", .array (inputs.map .string)), ("output", .string s!"port:{port}")]

/-! ## The loop over the ports -/

structure PlannerState where
  steps : List DataPlanStep
  issues : List PlanIssue
  outputRepresentation : Option RepresentationId
  adaptIdx : Nat
  alignIdx : Nat

namespace PlannerState

def start : PlannerState where
  steps := []
  issues := []
  outputRepresentation := none
  adaptIdx := 0
  alignIdx := 0

def push (st : PlannerState) (step : DataPlanStep) : PlannerState :=
  { st with steps := st.steps ++ [step] }

end PlannerState

/-- The state while a source is planned, with the current output. -/
structure SourceLoop where
  state : PlannerState
  output : String
  representation : RepresentationId

/-- The loop body over the adapters of a path. -/
def SourceLoop.addAdapter (source : SourceDescriptor) (loop : SourceLoop) (adapter : AdapterSpec) :
    SourceLoop :=
  let output := s!"step:adapt:{loop.state.adaptIdx}"
  { state :=
      { loop.state.push (adaptStep source adapter loop.representation loop.output output) with
        adaptIdx := loop.state.adaptIdx + 1 }
    output
    representation := adapter.outputRepresentation }

/-- The state while a port is planned, with the inputs of its join step so far. -/
structure PortLoop where
  state : PlannerState
  inputs : List String

/-- The loop body over the sources of a port. -/
def PortLoop.addSource (loop : PortLoop) (resolved : ResolvedSource) : PortLoop :=
  let state := { loop.state with issues := loop.state.issues ++ resolved.issues }
  let last := resolved.path.adapters.foldl (SourceLoop.addAdapter resolved.source)
    { state := state.push (materializeStep resolved.source)
      output := sourceOutputId resolved.source.id
      representation := resolved.source.nativeRepresentation.id }
  { state := last.state, inputs := loop.inputs ++ [last.output] }

section Plan
variable [ThirdParty]

/-- Several inputs are aligned, and the aligned output is joined. -/
def PortLoop.align (loop : PortLoop) (modelInput : ModelInputSpec)
    (representation : RepresentationId) : Result PortLoop :=
  if 1 < loop.inputs.length then do
    let output := s!"step:align:{loop.state.alignIdx}"
    let mode ← alignmentModeFromFusion modelInput.defaultFusion
    pure {
      state :=
        { loop.state.push (alignStep representation loop.inputs output mode) with
          alignIdx := loop.state.alignIdx + 1 }
      inputs := [output] }
  else pure loop

/-- The steps of a port whose sources are resolved, the first of them given. -/
def PlannerState.addPort (st : PlannerState) (modelInput : ModelInputSpec) (port : InputPortSpec)
    (first : ResolvedSource) (resolved : List ResolvedSource) : Result PlannerState := do
  let representation := first.targetRepresentation
  let loop ← (resolved.foldl PortLoop.addSource ⟨st, []⟩).align modelInput representation
  pure { loop.state.push (joinStep representation loop.inputs port.name) with
    outputRepresentation := some representation }

/-- The loop body over the ports. -/
def PlannerState.planPort (candidates : List SourceDescriptor) (modelInput : ModelInputSpec)
    (registry : AdapterRegistry) (policy : PlanningPolicy) (st : PlannerState)
    (port : InputPortSpec) : Result PlannerState := do
  let resolved ← resolvePort registry policy candidates port
  match resolved with
  | [] =>
    -- `continue`: an optional port leaves no step and no issue.
    if port.isOptional then pure st
    else .error (.validation
      s!"no source can satisfy required model input port `{port.name}`")
  | first :: rest => do
    rejectIf (!rest.isEmpty && !port.multiSource)
      (.validation (s!"model input port `{port.name}` accepts one source but " ++
        s!"{rest.length + 1} sources resolved"))
    st.addPort modelInput port first (first :: rest)

variable (schema : DatasetSchema) (modelInput : ModelInputSpec) (adapters : AdapterRegistry)
  (request : DataPlanRequest)

/-- The plan, before it is validated. -/
def buildPlan : Result DataPlan := do
  schema.validate
  modelInput.validate
  request.validate
  let candidates ← candidateSources schema request
  let st ← modelInput.ports.foldlM
    (PlannerState.planPort candidates modelInput adapters request.planningPolicy) .start
  let outputRepresentation ← require st.outputRepresentation
    (.validation "model input plan produced no outputs")
  pure { id := request.id, steps := st.steps, outputRepresentation, issues := st.issues }

/-- `plan_model_input`. -/
def planModelInput : Result DataPlan := do
  let plan ← buildPlan schema modelInput adapters request
  plan.validate
  pure plan

end Plan

end DagMlData
