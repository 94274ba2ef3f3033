import DagMlData.BufferManifests
import DagMlData.FeatureCollation
import DagMlData.Lib.Refinement

/-!
# The typed provider

The calls of `InMemoryProvider` that its two facades make, with their replies: the C vtable and the
JSON facade. Most of them only read.

* `providerCall`: a call.
* `InMemoryProvider.Fresh.handedOut`: the handles that a machine over the provider hands out.
-/

namespace DagMlData

open Guard

/-- The part of the provider that does not change. -/
structure ProviderSetup where
  envelope : CoordinatorDataPlanEnvelope
  targetTables : BTreeMap TargetId CoordinatorTargetTable

/-- A call of the provider. A fusion reads each source under a lock of its own. `others` is what
other threads have called by then. -/
inductive TypedCall
  /-- A call that changes the arenas. -/
  | arena (call : ProviderCall)
  | viewIdentity (viewHandle : Nat)
  | targetBlock (viewHandle : Nat) (targetId : TargetId)
  | featureBlock (viewHandle : Nat) (featureSetId : String)
  | featureBlockF64 (viewHandle : Nat) (featureSetId : String)
  | featureFusionBlock (viewHandle : Nat) (selector : ProviderFeatureFusionSelector)
      (others : Nat → List ProviderCall)
  | featureCollationBlock (viewHandle : Nat) (selector : ProviderFeatureCollationRequest)
      (others : Nat → List ProviderCall)
  | featureBufferManifests
  | dataFeatureBufferBindings (dataHandle : Nat)

inductive TypedReply
  | arena (reply : ArenaReply)
  | relations (result : Result CoordinatorRelationSet)
  | target (result : Result CoordinatorTargetBlock)
  | features (result : Result CoordinatorFeatureBlock)
  | featuresF64 (result : Result CoordinatorFeatureBlockF64)
  | manifests (result : Result (List NumericFeatureBufferManifest))
  | bindings (result : Result (List NumericFeatureBufferBinding))

/-- The call of the arenas. -/
def TypedCall.arenaCall : TypedCall → Option ProviderCall
  | arena call => some call
  | _ => none

/-- The handle that a reply mints. -/
def TypedReply.minted : TypedReply → Option Nat
  | arena reply => CoordinatorHandleArena.minted reply
  | _ => none

section Calls
variable [ThirdParty] (setup : ProviderSetup)

/-- `target_block`. -/
def ProviderSetup.targetBlock (arenas : ProviderArenas) (viewHandle : Nat) (targetId : TargetId) :
    Result CoordinatorTargetBlock := do
  let targetTable ← require setup.targetTables[targetId]?
    (.validation s!"unknown target id `{targetId}`")
  arenas.handles.targetValues viewHandle targetTable

/-- The reply to a call, and the arenas after it. -/
def providerCall (arenas : ProviderArenas) : TypedCall → TypedReply × ProviderArenas
  | .arena call =>
    let (reply, arenas) := arenas.step setup.envelope call
    (.arena reply, arenas)
  | .viewIdentity viewHandle => (.relations (arenas.handles.viewIdentity viewHandle), arenas)
  | .targetBlock viewHandle targetId =>
    (.target (setup.targetBlock arenas viewHandle targetId), arenas)
  | .featureBlock viewHandle featureSetId =>
    (.features (arenas.featureBlock viewHandle featureSetId), arenas)
  | .featureBlockF64 viewHandle featureSetId =>
    (.featuresF64 (arenas.featureBlockF64 viewHandle featureSetId), arenas)
  | .featureFusionBlock viewHandle selector others =>
    (.features (ProviderArenas.featureFusionBlock
      (fun place => arenas.run setup.envelope (others place)) viewHandle selector), arenas)
  | .featureCollationBlock viewHandle selector others =>
    (.features (ProviderArenas.featureCollationBlock
      (fun place => arenas.run setup.envelope (others place)) viewHandle selector), arenas)
  | .featureBufferManifests => (.manifests arenas.featureBufferManifests, arenas)
  | .dataFeatureBufferBindings dataHandle =>
    (.bindings (arenas.dataFeatureBufferBindings dataHandle), arenas)

/-- A call that is not one of the arenas leaves them as they are, and mints nothing. -/
theorem providerCall_reads {arenas : ProviderArenas} {call : TypedCall}
    (h : call.arenaCall = none) :
    (providerCall setup arenas call).2 = arenas ∧
      (providerCall setup arenas call).1.minted = none := by
  cases call with
  | arena call => cases h
  | viewIdentity | targetBlock | featureBlock | featureBlockF64 | featureFusionBlock
  | featureCollationBlock | featureBufferManifests | dataFeatureBufferBindings =>
      exact ⟨rfl, rfl⟩

/-- The provider is its arenas, with calls that only read. -/
theorem providerCall_refines :
    Machine.Refines (providerCall setup) (ProviderArenas.step setup.envelope)
      (fun arenas arenas' => arenas = arenas') TypedCall.arenaCall
      (fun _ reply => some (.arena reply)) where
  skipped := by
    rintro arenas _ call rfl hnone
    exact (providerCall_reads setup hnone).1
  translated := by
    rintro arenas _ call call' rfl hsome
    cases call with
    | arena call =>
      cases hsome
      exact ⟨rfl, rfl⟩
    | viewIdentity | targetBlock | featureBlock | featureBlockF64 | featureFusionBlock
    | featureCollationBlock | featureBufferManifests | dataFeatureBufferBindings => cases hsome

end Calls

/-! ## The handles -/

section Handles
variable [ThirdParty]

/-- The provider answers as its handle arena does, all over a run. -/
theorem ProviderArenas.Consistent.replies {envelope : CoordinatorDataPlanEnvelope}
    {arenas : ProviderArenas} (h : arenas.Consistent) (calls : List ProviderCall)
    (hsize : arenas.handles.nextHandle + (arenas.mintedHandles envelope calls).length < u64Size) :
    Machine.replies (ProviderArenas.step envelope) arenas calls =
      Machine.replies CoordinatorHandleArena.step arenas.handles
        (calls.map (·.onHandles envelope)) := by
  induction calls generalizing arenas with
  | nil => rfl
  | cons call calls ih =>
    rw [ProviderArenas.mintedHandles, List.map_cons, CoordinatorHandleArena.mintedHandles,
      Machine.length_minted_cons] at hsize
    have hfirst : arenas.handles.nextHandle +
        (arenas.mintedHandles envelope [call]).length < u64Size :=
      lt_of_le_of_lt (Nat.add_le_add_left (Nat.le_add_right _ _) _) hsize
    have hcount : (arenas.step envelope call).2.handles.nextHandle =
        arenas.handles.nextHandle + (arenas.mintedHandles envelope [call]).length := by
      rw [arenas.step_handles]
      exact Machine.counter_step CoordinatorHandleArena.mintsFromCounter hfirst
    have hrest := ih (h.step call hfirst) (by
      rw [hcount, Nat.add_assoc, ProviderArenas.mintedHandles.eq_def _ (arenas.step _ _).2,
        arenas.step_handles]
      exact hsize)
    rw [Machine.replies, hrest, arenas.step_handles, List.map_cons, Machine.replies]
    have hspec : CallSpec envelope arenas call _ _ := h.callSpec call
    rw [hspec.answer]

/-- What a machine over a fresh provider hands out, as it puts handles: 1, 2 and so on. -/
theorem InMemoryProvider.Fresh.handedOut {provider : InMemoryProvider} (h : provider.Fresh)
    {targetTables : BTreeMap TargetId CoordinatorTargetTable} {σ ι ω α : Type}
    {step : σ → ι → ω × σ} {R : σ → ProviderArenas → Prop}
    {translate : ι → Option TypedCall}
    {wire : TypedCall → TypedReply → Option ω}
    (hrefines : Machine.Refines step
      (providerCall ⟨provider.envelope, targetTables⟩) R translate
      wire)
    {part : ω → Option α} {put : Nat → α}
    (hskipped : ∀ s i, translate i = none → part (step s i).1 = none)
    (hwire : ∀ call reply o, wire call reply = some o → part o = reply.minted.map put)
    {s : σ} (hs : R s provider.arenas) {calls : List ι}
    (hsize : (provider.arenas.mintedHandles provider.envelope
      ((calls.filterMap translate).filterMap TypedCall.arenaCall)).length < 2 ^ 64 - 1) :
    let handedOut := (Machine.replies step s calls).filterMap part
    handedOut = (List.range' 1 handedOut.length).map put ∧
      handedOut.length = (provider.arenas.mintedHandles provider.envelope
        ((calls.filterMap translate).filterMap TypedCall.arenaCall)).length := by
  intro handedOut
  have hstart : provider.arenas.handles.nextHandle = 1 := h.nextHandle
  have hroom : provider.arenas.handles.nextHandle + (provider.arenas.mintedHandles
      provider.envelope ((calls.filterMap translate).filterMap TypedCall.arenaCall)).length <
        u64Size := by
    rw [hstart, u64Size]
    omega
  have hreads : (Machine.replies
    (providerCall ⟨provider.envelope, targetTables⟩) provider.arenas
      (calls.filterMap translate)).filterMap TypedReply.minted =
        ((Machine.replies (ProviderArenas.step provider.envelope) provider.arenas
          ((calls.filterMap translate).filterMap TypedCall.arenaCall)).filterMap
            CoordinatorHandleArena.minted).map id := by
    refine (providerCall_refines ⟨provider.envelope, targetTables⟩).filterMap_replies
      (fun _ _ hnone => (providerCall_reads _ hnone).2) ?_ rfl _
    rintro _ reply _ ⟨⟩
    rw [Option.map_id]
    rfl
  have hminted : handedOut = (provider.arenas.mintedHandles provider.envelope
      ((calls.filterMap translate).filterMap TypedCall.arenaCall)).map put :=
    calc handedOut
        = ((Machine.replies (providerCall ⟨provider.envelope, targetTables⟩) provider.arenas
            (calls.filterMap translate)).filterMap TypedReply.minted).map put :=
          hrefines.filterMap_replies hskipped hwire hs calls
      _ = ((Machine.replies (ProviderArenas.step provider.envelope) provider.arenas
            ((calls.filterMap translate).filterMap TypedCall.arenaCall)).filterMap
              CoordinatorHandleArena.minted).map put := by
          rw [hreads, List.map_id]
      _ = (provider.arenas.mintedHandles provider.envelope
            ((calls.filterMap translate).filterMap TypedCall.arenaCall)).map put := by
          rw [h.consistent.replies _ hroom]
          rfl
  have hrange := (Machine.minted_eq_range CoordinatorHandleArena.mintsFromCounter hroom).1
  rw [hstart] at hrange
  rw [hminted, List.length_map]
  exact ⟨congrArg (List.map put) hrange, rfl⟩

/-- Fewer calls than handles do not exhaust the counter. -/
theorem length_mintedHandles_lt {envelope : CoordinatorDataPlanEnvelope} {arenas : ProviderArenas}
    {ι : Type} {translate : ι → Option TypedCall} {calls : List ι} {n : Nat}
    (h : calls.length < n) :
    (arenas.mintedHandles envelope
      ((calls.filterMap translate).filterMap TypedCall.arenaCall)).length < n := by
  refine lt_of_le_of_lt ((Machine.length_minted_le _ _).trans ?_) h
  rw [List.length_map]
  exact (List.length_filterMap_le _ _).trans (List.length_filterMap_le _ _)

end Handles

end DagMlData
