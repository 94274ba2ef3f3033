import DagMlData.Plan

/-!
# Adapters and adapter paths

`adapter.rs`: the specifications of adapters and model inputs with their validators, the adapter
registry, and `findPath`, which searches the registry for the adapters that lead from one
representation to another.

The search pops the least state of a heap, stops when the popped state comes after the first
goal state, and pushes the states that one more adapter leads to. A score is kept for every node
and number of hops; a state that arrives there with a higher score is not pushed.

The loop of the source has no bound, so here it has fuel. The result is an option: it is absent
when the fuel runs out, or when the source would panic because an adapter of a found path is not
in the registry.
-/

namespace DagMlData

open Guard RustText

/-- `validate_name` of the adapter module. -/
def validateName (kind value : String) : Result Unit := do
  rejectIf (isBlank value) (.validation s!"{kind} name is empty")
  rejectIf (!(bytes value).all fun b =>
      isAsciiAlphanumeric b || b == 95 || b == 45 || b == 46 || b == 58 || b == 47)
    (.validation s!"{kind} `{value}` contains unsupported characters")

/-! ## Model inputs -/

structure InputPortSpec where
  name : String
  acceptedRepresentations : List RepresentationId
  acceptedTypes : List TypeId
  rank : Option Nat
  multiSource : Bool
  isOptional : Bool

def InputPortSpec.validate (port : InputPortSpec) : Result Unit := do
  validateName "input port" port.name
  rejectIf port.acceptedRepresentations.isEmpty
    (.validation s!"input port `{port.name}` accepts no representations")
  rejectIf port.acceptedTypes.isEmpty
    (.validation s!"input port `{port.name}` accepts no types")

structure ModelInputSpec where
  ports : List InputPortSpec
  defaultFusion : Option Json

def ModelInputSpec.validate (spec : ModelInputSpec) : Result Unit := do
  rejectIf spec.ports.isEmpty (.validation "model input spec contains no ports")
  checkPorts [] spec.ports
where
  /-- The loop over the ports, with the names that it has seen. -/
  checkPorts : List String → List InputPortSpec → Result Unit
    | _, [] => .ok ()
    | names, port :: ports => do
      port.validate
      rejectIf (names.contains port.name)
        (.validation s!"duplicate model input port `{port.name}`")
      checkPorts (port.name :: names) ports

/-! ## Adapters -/

structure AdapterSpec where
  id : String
  version : String
  inputType : TypeId
  inputRepresentation : RepresentationId
  outputType : TypeId
  outputRepresentation : RepresentationId
  cost : Nat
  lossy : Bool
  supervised : Bool
  stateful : Bool
  deterministic : Bool
  fitScope : FitScope
  params : BTreeMap String Json

structure RepresentationNode where
  typeId : TypeId
  representationId : RepresentationId
deriving DecidableEq

instance : Ord RepresentationNode :=
  ⟨compareLex (compareOn (·.typeId)) (compareOn (·.representationId))⟩

instance : Std.TransOrd RepresentationNode :=
  inferInstanceAs (Std.TransCmp (compareLex (compareOn _) (compareOn _)))

instance : Std.LawfulEqOrd RepresentationNode where
  compare_self {a} :=
    @Std.ReflCmp.compare_self _ (compareLex (compareOn _) (compareOn _)) inferInstance a
  eq_of_compare {a b} h := by
    obtain ⟨htype, hrepresentation⟩ := compareLex_eq_eq.mp h
    cases a
    cases b
    cases Std.LawfulEqOrd.eq_of_compare htype
    cases Std.LawfulEqOrd.eq_of_compare hrepresentation
    rfl

namespace AdapterSpec

variable (adapter : AdapterSpec)

def validate : Result Unit := do
  validateName "adapter" adapter.id
  validateName "adapter version" adapter.version
  rejectIf (!adapter.deterministic)
    (.validation s!"adapter `{adapter.id}` is not deterministic")
  rejectIf (adapter.stateful && adapter.fitScope == .stateless)
    (.validation s!"stateful adapter `{adapter.id}` cannot use stateless fit scope")

def source : RepresentationNode := ⟨adapter.inputType, adapter.inputRepresentation⟩

def target : RepresentationNode := ⟨adapter.outputType, adapter.outputRepresentation⟩

end AdapterSpec

structure PlanningPolicy where
  allowLossy : Bool
  allowStateful : Bool
  allowSupervised : Bool
  forbiddenAdapters : BTreeSet String
  preferredAdapters : BTreeSet String
  requireUserChoiceOnAmbiguity : Bool
  maxHops : Option Nat

/-- The policy of `Default`. -/
def PlanningPolicy.default : PlanningPolicy where
  allowLossy := false
  allowStateful := false
  allowSupervised := false
  forbiddenAdapters := ∅
  preferredAdapters := ∅
  requireUserChoiceOnAmbiguity := true
  maxHops := none

/-- The policy lets the adapter be used. -/
def PlanningPolicy.admits (policy : PlanningPolicy) (adapter : AdapterSpec) : Bool :=
  !policy.forbiddenAdapters.contains adapter.id && !(adapter.lossy && !policy.allowLossy) &&
    !(adapter.stateful && !policy.allowStateful) &&
    !(adapter.supervised && !policy.allowSupervised)

/-- The score of an adapter before it is converted to a `u64`. -/
def AdapterSpec.rawScore (adapter : AdapterSpec) (policy : PlanningPolicy) : Nat :=
  max adapter.cost 1 + (if adapter.lossy then 1000000 else 0) +
    (if adapter.stateful then 100000 else 0) + (if adapter.supervised then 100000 else 0) -
    (if policy.preferredAdapters.contains adapter.id then 1 else 0)

/-- `adapter_score`. -/
def adapterScore (adapter : AdapterSpec) (policy : PlanningPolicy) : Option Nat :=
  if adapter.rawScore policy < u64Size then some (adapter.rawScore policy) else none

/-! ## Registries -/

/-- A registry: every adapter is under its own id and passes its validator. -/
structure AdapterRegistry where
  adapters : BTreeMap String AdapterSpec
  keyed : ∀ (id : String) (adapter : AdapterSpec), adapters[id]? = some adapter →
    adapter.id = id
  valid : ∀ (id : String) (adapter : AdapterSpec), adapters[id]? = some adapter →
    adapter.validate = .ok ()

namespace AdapterRegistry

def empty : AdapterRegistry where
  adapters := ∅
  keyed := by simp
  valid := by simp

/-- The adapters in id order. -/
def specs (registry : AdapterRegistry) : List AdapterSpec :=
  registry.adapters.toList.map Prod.snd

def registerAdapter (registry : AdapterRegistry) (adapter : AdapterSpec) :
    Result AdapterRegistry :=
  match h : adapter.validate with
  | .error e => .error e
  | .ok () => do
    rejectIf (registry.adapters.contains adapter.id)
      (.validation s!"duplicate adapter id `{adapter.id}`")
    pure {
      adapters := registry.adapters.insert adapter.id adapter
      keyed := fun id a ha => by
        rw [Std.ExtTreeMap.getElem?_insert] at ha
        split at ha
        · next heq =>
          cases ha
          exact Std.LawfulEqOrd.eq_of_compare heq
        · exact registry.keyed id a ha
      valid := fun id a ha => by
        rw [Std.ExtTreeMap.getElem?_insert] at ha
        split at ha
        · cases ha
          exact h
        · exact registry.valid id a ha }

/-- `from_spec`. -/
def fromSpec (adapters : List AdapterSpec) : Result AdapterRegistry :=
  adapters.foldlM registerAdapter empty

end AdapterRegistry

structure AdapterPath where
  adapters : List AdapterSpec
  totalCost : Nat
  effectiveScore : Nat

structure PathResolution where
  path : Option AdapterPath
  requiresUserChoice : Bool
  issues : List PlanIssue

def PathResolution.resolved (path : AdapterPath) : PathResolution where
  path := some path
  requiresUserChoice := false
  issues := []

def PathResolution.unresolved (code message : String) (choices : List String) :
    PathResolution where
  path := none
  requiresUserChoice := !choices.isEmpty
  issues := [⟨code, message, choices⟩]

/-! ## The search -/

structure SearchState where
  score : Nat
  rawCost : Nat
  hops : Nat
  node : RepresentationNode
  adapterIds : List String
deriving DecidableEq

/-- The order of the heap, least first; the source compares the other way for its max-heap. -/
def SearchState.cmp (a b : SearchState) : Ordering :=
  compare a.score b.score |>.then (compare a.hops b.hops)
    |>.then (compare a.rawCost b.rawCost) |>.then (compare a.node b.node)
    |>.then (compare a.adapterIds b.adapterIds)

/-- `heap.pop()`: the least state, and the others. -/
def popLeast : List SearchState → Option (SearchState × List SearchState)
  | [] => none
  | state :: states =>
    match popLeast states with
    | none => some (state, [])
    | some (least, others) =>
      if least.cmp state = .lt then some (least, state :: others) else some (state, least :: others)

/-- A node and the number of hops to it. -/
structure Arrival where
  node : RepresentationNode
  hops : Nat
deriving DecidableEq

instance : Ord Arrival := ⟨compareLex (compareOn (·.node)) (compareOn (·.hops))⟩

instance : Std.TransOrd Arrival :=
  inferInstanceAs (Std.TransCmp (compareLex (compareOn _) (compareOn _)))

instance : Std.LawfulEqOrd Arrival where
  compare_self {a} :=
    @Std.ReflCmp.compare_self _ (compareLex (compareOn _) (compareOn _)) inferInstance a
  eq_of_compare {a b} h := by
    obtain ⟨hnode, hhops⟩ := compareLex_eq_eq.mp h
    cases a
    cases b
    cases Std.LawfulEqOrd.eq_of_compare hnode
    cases Std.LawfulEqOrd.eq_of_compare hhops
    rfl

/-- What the loop of `find_path` carries. -/
structure Search where
  heap : List SearchState
  bestSeen : BTreeMap Arrival Nat
  costOverflow : Bool
  bestGoal : Option (Nat × Nat × Nat)
  goalPaths : List (List String)

section FindPath

variable (registry : AdapterRegistry) (policy : PlanningPolicy)

/-- `edges.get(node)`: the admitted adapters that start at the node, in id order. -/
def edgesFrom (node : RepresentationNode) : List AdapterSpec :=
  (registry.specs.filter policy.admits).filter fun adapter => adapter.source = node

/-- Pushes the state that the adapter leads to, unless a lower score is known for its arrival. -/
def Search.pushArrival (search : Search) (state : SearchState) (adapter : AdapterSpec)
    (score rawCost : Nat) : Search :=
  let arrival : Arrival := ⟨adapter.target, state.hops + 1⟩
  if search.bestSeen[arrival]?.any fun best => score > best then search
  else { search with
    bestSeen := search.bestSeen.insert arrival score
    heap := ⟨score, rawCost, state.hops + 1, adapter.target,
      state.adapterIds ++ [adapter.id]⟩ ::
      search.heap }

/-- The body of the loop over the edges of a popped state. -/
def Search.relax (state : SearchState) (search : Search) (adapter : AdapterSpec) : Search :=
  if state.adapterIds.contains adapter.id then search
  else
    match (adapterScore adapter policy).bind (checkedAdd state.score ·) with
    | none => { search with costOverflow := true }
    | some score =>
      match checkedAdd state.rawCost adapter.cost with
      | none => { search with costOverflow := true }
      | some rawCost => search.pushArrival state adapter score rawCost

/-- `(score, hops) > (best_score, best_hops)`. -/
def SearchState.isAfter (state : SearchState) (best : Nat × Nat × Nat) : Bool :=
  best.1 < state.score || (best.1 == state.score && best.2.1 < state.hops)

/-- One round of the loop: it ends when the heap is empty or the popped state comes after the
best goal. -/
def Search.round (goal : RepresentationNode) (search : Search) : Option Search :=
  match popLeast search.heap with
  | none => none
  | some (state, heap) =>
    let search := { search with heap }
    if search.bestGoal.any state.isAfter then none
    else if state.node = goal then
      some { search with
        bestGoal := search.bestGoal <|> some (state.score, state.hops, state.rawCost)
        goalPaths := search.goalPaths ++ [state.adapterIds] }
    else if policy.maxHops.any (state.hops ≥ ·) then some search
    else some ((edgesFrom registry policy state.node).foldl (Search.relax policy state) search)

/-- The loop. -/
def Search.run (goal : RepresentationNode) : Nat → Search → Option Search
  | 0, _ => none
  | fuel + 1, search =>
    match search.round registry policy goal with
    | none => some search
    | some next => Search.run goal fuel next

/-- The search before its first round. -/
def Search.start (node : RepresentationNode) : Search where
  heap := [⟨0, 0, 0, node, []⟩]
  bestSeen := BTreeMap.collect [(⟨node, 0⟩, 0)]
  costOverflow := false
  bestGoal := none
  goalPaths := []

/-- `sum.checked_add(x)` over a list, from zero. -/
def checkedSum (terms : List (Option Nat)) : Option Nat :=
  terms.foldlM (fun sum term => term.bind (checkedAdd sum ·)) 0

/-- The path of the adapters with the given ids, with its checked totals. -/
def resolvePath (adapterIds : List String) : Option PathResolution := do
  let adapters ← adapterIds.mapM (registry.adapters[·]?)
  let totalCost := checkedSum (adapters.map fun adapter => some adapter.cost)
  let effectiveScore := checkedSum (adapters.map fun adapter => adapterScore adapter policy)
  match totalCost, effectiveScore with
  | some totalCost, some effectiveScore =>
    some (.resolved ⟨adapters, totalCost, effectiveScore⟩)
  | _, _ => some (.unresolved "cost_overflow" "adapter path cost exceeds u64" [])

/-- `path.join(" -> ")`. -/
def renderPath (adapterIds : List String) : String := " -> ".intercalate adapterIds

/-- What `find_path` makes of a finished search. `goal_paths` is sorted and repetitions are
removed. -/
def resolveSearch (start goal : RepresentationNode) (search : Search) : Option PathResolution :=
  match search.goalPaths.toFinset.sort (· ≤ ·) with
  | [] =>
    some (.unresolved (if search.costOverflow then "cost_overflow" else "no_path")
      (s!"no adapter path from `{start.typeId}/{start.representationId}` to " ++
        s!"`{goal.typeId}/{goal.representationId}`") [])
  | first :: rest =>
    if !rest.isEmpty && policy.requireUserChoiceOnAmbiguity then
      some (.unresolved "ambiguous_path" "multiple equivalent adapter paths require user choice"
        ((first :: rest).map renderPath))
    else resolvePath registry policy first

/-- `find_path` with the given fuel. -/
def findPathWithin (fuel : Nat) (start goal : RepresentationNode) : Option PathResolution :=
  if start = goal then some (.resolved ⟨[], 0, 0⟩)
  else do
    let search ← (Search.start start).run registry policy goal fuel
    resolveSearch registry policy start goal search

/-- A bound on the states that a search pops below a state with `n` adapters left to use. -/
def branching : Nat → Nat
  | 0 => 1
  | n + 1 => 1 + (n + 1) * branching n

/-- `find_path`. -/
def findPath (start goal : RepresentationNode) : Option PathResolution :=
  findPathWithin registry policy (branching registry.specs.length + 1) start goal

end FindPath

end DagMlData
