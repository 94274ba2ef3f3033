import DagMlData.ArrowTables
import DagMlData.ErrorTaxonomy
import DagMlData.ProviderBindings
import DagMlData.TensorCopy
import DagMlData.TypedProvider

/-!
# The provider behind its C vtable

The callbacks of the provider's vtable take JSON texts and pointers, answer with a status code and
write to out pointers. An error goes into the last error of the thread that called. Here the
threads of a process call in any order. The step of a call is the callback.

* `vtable_refines`: the process is the typed provider. A call whose arguments are read is that call
  of the provider, with its reply on the wire, and every other call changes nothing and is refused.
* `written_handles`: which handles the callers get to see over a run.
* `lastError_run`: the last error of a thread is the error of its last failing call.
-/

namespace DagMlData

open Guard RustText Unchecked BufferFile

inductive DagMlDataStatusCode
  | ok
  | invalidArgument
  | validationError
  | panic
deriving DecidableEq, Repr

/-- A call that fails: the status that it returns and the error that it records. -/
structure AbiFailure where
  status : DagMlDataStatusCode
  error : AbiError

/-- `serde_json` reads the requests of the vtable by the derived readers. Each yields a value or the
message of the refusal. -/
class RequestReader where
  materializationRequest : List UInt8 → Except String CoordinatorDataMaterializationRequest
  dataView : List UInt8 → Except String DataView
  fusionSelector : String → Except String ProviderFeatureFusionSelector

/-- The bytes of a view. Its contract is that they can be read. -/
def DagMlDataBytesView.bytes? (view : DagMlDataBytesView) : Option (List UInt8) :=
  view.ptr.map (·.take view.len)

/-- A refused argument. -/
def argumentFailure (status : DagMlDataStatusCode) (message : String) : AbiFailure :=
  ⟨status, .argument message⟩

/-- An error of the core. -/
def coreFailure (e : DataError) : AbiFailure := ⟨.validationError, .core (.data e)⟩

/-- A text that `serde_json` refuses. -/
def jsonFailure (detail : String) : AbiFailure :=
    ⟨.validationError, .core (.serialization detail)⟩

/-! ## The callbacks -/

/-- A call of the vtable. A flag is whether the pointer of that name is not null. -/
inductive VtableCall
  | materialize (userData outHandle : Bool) (requestJson : DagMlDataBytesView)
  | makeView (userData outView : Bool) (data : Nat) (selectorJson : DagMlDataBytesView)
  | viewIdentity (userData outArrows : Bool) (view : Nat)
  | targetArrow (userData outArrows : Bool) (view : Nat) (targetName : DagMlDataBytesView)
  /-- A fusion reads each source under a lock of its own. `others` is what the other threads have
  called by then. -/
  | featureArrow (userData outArrows : Bool) (view : Nat) (featureSetName : DagMlDataBytesView)
      (others : Nat → List ProviderCall)
  | release (userData : Bool) (handle : Nat)

/-- What a call leaves with its caller. -/
inductive VtableReply
  /-- The status, and what was written through the handle pointer, if anything. -/
  | handle (status : DagMlDataStatusCode) (written : Option Nat)
  /-- The status, and the exported pair. The out pointers are null without one. -/
  | arrow (status : DagMlDataStatusCode) (table : Option ArrowTable)
  /-- `release` returns nothing. -/
  | released
  /-- A panic in a callback aborts the process. -/
  | aborted

section Callbacks
variable [ThirdParty] [RequestReader] (setup : ProviderSetup) (arenas : ProviderArenas)

/-- `provider_materialize`. -/
def providerMaterialize (userData outHandle : Bool) (requestJson : DagMlDataBytesView) :
    VtableReply × Option AbiError × ProviderArenas :=
  match requestJson.bytes?, userData && outHandle with
  | some json, true =>
    match RequestReader.materializationRequest json with
    | .error detail => (.handle .validationError (some 0), some (jsonFailure detail).error, arenas)
    | .ok request =>
      match arenas.materialize setup.envelope request with
      | (.ok record, arenas) => (.handle .ok (some record.handle.handle), none, arenas)
      | (.error e, arenas) => (.handle .validationError (some 0),
          some (coreFailure e).error, arenas)
  | _, _ =>
    (.handle .invalidArgument none,
      some (.argument "provider materialize: user_data, out_handle or request json is null"),
        arenas)

/-- `provider_make_view`. -/
def providerMakeView (userData outView : Bool) (data : Nat) (selectorJson : DagMlDataBytesView) :
    VtableReply × Option AbiError × ProviderArenas :=
  match selectorJson.bytes?, userData && outView with
  | some json, true =>
    match RequestReader.dataView json with
    | .error detail => (.handle .validationError (some 0), some (jsonFailure detail).error, arenas)
    | .ok view =>
      match arenas.makeView data view with
      | (.ok record, arenas) => (.handle .ok (some record.handle.handle), none, arenas)
      | (.error e, arenas) => (.handle .validationError (some 0),
          some (coreFailure e).error, arenas)
  | _, _ =>
    (.handle .invalidArgument none,
      some (.argument "provider make_view: user_data, out_view or selector json is null"), arenas)

/-- A result of the core in a callback. -/
def inCallback {α : Type} (r : Result α) : Outcome AbiFailure α := lift (r.mapError coreFailure)

/-- An export in a callback. -/
def exportInCallback (r : Outcome DataError ArrowTable) : Outcome AbiFailure ArrowTable :=
  r.mapError fun
    | .refused e => .refused (coreFailure e)
    | .panicked => .panicked

/-- What an Arrow callback answers. -/
def arrowReply : Outcome AbiFailure ArrowTable → VtableReply × Option AbiError
  | .ok table => (.arrow .ok (some table), none)
  | .error (.refused failure) => (.arrow failure.status none, some failure.error)
  | .error .panicked => (.aborted, none)

/-- `provider_view_identity`. -/
def providerViewIdentity (userData outArrows : Bool) (view : Nat) :
    Outcome AbiFailure ArrowTable := do
  rejectIf (!(userData && outArrows)) (.refused (argumentFailure .invalidArgument
    "provider view_identity: user_data or arrow out pointers are null"))
  let relations ← inCallback (arenas.handles.viewIdentity view)
  let arrow ← inCallback relations.buildIdentityRelationsArrow
  pure arrow.asTable

/-- `provider_target_arrow`. -/
def providerTargetArrow (userData outArrows : Bool) (view : Nat)
    (targetName : DagMlDataBytesView) : Outcome AbiFailure ArrowTable := do
  let text ← require (if userData && outArrows then targetName.bytes? else none)
    (.refused (argumentFailure .invalidArgument
      "provider target_arrow: user_data, target_name or arrow out pointers are null"))
  let name ← require (fromUtf8 text) (.refused (argumentFailure .validationError
    "provider target_arrow: target_name is not valid UTF-8"))
  let targetId ← inCallback (Ident.new .target name)
  let target ← inCallback (setup.targetBlock arenas view targetId)
  inCallback target.buildTargetArrow

/-- `trim_start().starts_with('\x7b')`. -/
def startsWithBrace (text : String) : Bool :=
  (text.toList.dropWhile isWhitespace).head? == some '\x7b'

/-- `provider_feature_arrow`. -/
def providerFeatureArrow (userData outArrows : Bool) (view : Nat)
    (featureSetName : DagMlDataBytesView) (others : Nat → List ProviderCall) :
    Outcome AbiFailure ArrowTable := do
  let text ← require (if userData && outArrows then featureSetName.bytes? else none)
    (.refused (argumentFailure .invalidArgument
      "provider feature_arrow: user_data, feature_set_name or arrow out pointers are null"))
  let name ← require (fromUtf8 text) (.refused (argumentFailure .validationError
    "provider feature_arrow: feature_set_name is not valid UTF-8"))
  if startsWithBrace name then
    let selector ← lift ((RequestReader.fusionSelector name).mapError jsonFailure)
    let features ← inCallback (ProviderArenas.featureFusionBlock
      (fun place => arenas.run setup.envelope (others place)) view selector)
    exportInCallback features.buildFeatureArrow
  else do
    rejectIf (isBlank name) (.refused (argumentFailure .validationError
      "provider feature_arrow: feature_set_name is empty"))
    let features ← inCallback (arenas.featureBlock view name)
    exportInCallback features.buildFeatureArrow

/-- A call: the reply, the error that it records, and the arenas after it. -/
def vtableCall : VtableCall → VtableReply × Option AbiError × ProviderArenas
  | .materialize userData outHandle requestJson =>
    providerMaterialize setup arenas userData outHandle requestJson
  | .makeView userData outView data selectorJson =>
    providerMakeView arenas userData outView data selectorJson
  | .viewIdentity userData outArrows view =>
    let (reply, error) := arrowReply (providerViewIdentity arenas userData outArrows view)
    (reply, error, arenas)
  | .targetArrow userData outArrows view targetName =>
    let (reply, error) :=
      arrowReply (providerTargetArrow setup arenas userData outArrows view targetName)
    (reply, error, arenas)
  | .featureArrow userData outArrows view featureSetName others =>
    let (reply, error) :=
      arrowReply (providerFeatureArrow setup arenas userData outArrows view featureSetName others)
    (reply, error, arenas)
  | .release userData handle =>
    (.released, none, if userData then (arenas.release handle).2 else arenas)

end Callbacks

/-! ## The process -/

/-- What `LAST_ERROR` of a thread holds. -/
structure LastError where
  payload : String
  code : UInt32

structure AbiProcess where
  arenas : ProviderArenas
  lastError : Nat → Option LastError

/-- `store_last_error`. -/
def storeLastError [ThirdParty] (e : AbiError) : LastError := ⟨e.payload, e.errorCode⟩

/-- `dagmldata_last_error_code` on a thread. -/
def AbiProcess.lastErrorCode (process : AbiProcess) (thread : Nat) : UInt32 :=
  ((process.lastError thread).map (·.code)).getD 0

/-- `dagmldata_last_error_json` on a thread. -/
def AbiProcess.lastErrorJson (process : AbiProcess) (thread : Nat) : Option String :=
  (process.lastError thread).map (·.payload)

/-- A call by a thread. -/
structure ThreadCall where
  thread : Nat
  call : VtableCall

namespace AbiProcess

variable [ThirdParty] [RequestReader] (setup : ProviderSetup)

/-- A thread calls. The error of the call goes into the last error of that thread. -/
def step (process : AbiProcess) (threadCall : ThreadCall) : VtableReply × AbiProcess :=
  let (reply, error, arenas) := vtableCall setup process.arenas threadCall.call
  (reply,
    { arenas := arenas
      lastError := match error with
        | none => process.lastError
        | some e => Function.update process.lastError threadCall.thread (some (storeLastError e)) })

abbrev run (process : AbiProcess) (calls : List ThreadCall) : AbiProcess :=
  Machine.run (step setup) process calls

end AbiProcess

/-! ## The typed provider -/

/-- The call of the provider that a call of the vtable makes. -/
def VtableCall.typed [RequestReader] : VtableCall → Option TypedCall
  | .materialize userData outHandle requestJson =>
    match requestJson.bytes?, userData && outHandle with
    | some json, true =>
      (RequestReader.materializationRequest json).toOption.map fun request =>
        .arena (.materialize request)
    | _, _ => none
  | .makeView userData outView data selectorJson =>
    match selectorJson.bytes?, userData && outView with
    | some json, true =>
      (RequestReader.dataView json).toOption.map fun view => .arena (.makeView data view)
    | _, _ => none
  | .viewIdentity userData outArrows view =>
    if userData && outArrows then some (.viewIdentity view) else none
  | .targetArrow userData outArrows view targetName => do
    let text ← (if userData && outArrows then targetName.bytes? else none)
    let name ← fromUtf8 text
    let targetId ← (Ident.new .target name).toOption
    some (.targetBlock view targetId)
  | .featureArrow userData outArrows view featureSetName others => do
    let text ← (if userData && outArrows then featureSetName.bytes? else none)
    let name ← fromUtf8 text
    if startsWithBrace name then
      let selector ← (RequestReader.fusionSelector name).toOption
      some (.featureFusionBlock view selector others)
    else if isBlank name then none
    else some (.featureBlock view name)
  | .release userData handle => if userData then some (.arena (.release handle)) else none

/-- A reply of the provider on the wire. The vtable has no callback for the other replies. -/
def wire [ThirdParty] : TypedReply → Option VtableReply
  | .arena (.materialized (.ok record)) => some (.handle .ok (some record.handle.handle))
  | .arena (.materialized (.error _)) => some (.handle .validationError (some 0))
  | .arena (.viewed (.ok record)) => some (.handle .ok (some record.handle.handle))
  | .arena (.viewed (.error _)) => some (.handle .validationError (some 0))
  | .arena (.released _) => some .released
  | .relations result => some (arrowReply (do
    let relations ← inCallback result
    let arrow ← inCallback relations.buildIdentityRelationsArrow
    pure arrow.asTable)).1
  | .target result => some (arrowReply (do
    let target ← inCallback result
    inCallback target.buildTargetArrow)).1
  | .features result => some (arrowReply (do
    let features ← inCallback result
    exportInCallback features.buildFeatureArrow)).1
  | .featuresF64 _ | .manifests _ | .bindings _ => none

/-- The handle that a call hands out. -/
def VtableReply.handedOut : VtableReply → Option Nat
  | .handle .ok written => written
  | _ => none

/-- The call is refused: it hands out no handle and exports nothing. -/
def VtableReply.Refused : VtableReply → Prop
  | .handle status written => status ≠ .ok ∧ (written = none ∨ written = some 0)
  | .arrow status table => status ≠ .ok ∧ table = none
  | .released => True
  | .aborted => False

theorem VtableReply.Refused.handedOut {reply : VtableReply} (h : reply.Refused) :
    reply.handedOut = none := by
  cases reply with
  | handle status written =>
    cases status with
    | ok => exact absurd rfl h.1
    | invalidArgument | validationError | panic => rfl
  | arrow | released | aborted => rfl

theorem handedOut_arrowReply (x : Outcome AbiFailure ArrowTable) :
    (arrowReply x).1.handedOut = none := by
  rcases x with (_ | _) | _ <;> rfl

theorem handedOut_wire [ThirdParty] {reply : TypedReply} {reply' : VtableReply}
    (h : wire reply = some reply') : reply'.handedOut = reply.minted := by
  cases reply with
  | arena reply => rcases reply with (_ | _) | (_ | _) | _ <;> cases h <;> rfl
  | relations | target | features =>
    cases h
    exact handedOut_arrowReply _
  | featuresF64 | manifests | bindings => cases h

section Refinement
variable [ThirdParty] [RequestReader] (setup : ProviderSetup) (arenas : ProviderArenas)

/-- What a call does as the typed provider sees it: nothing, or one call of it. -/
def TypedAs (call : VtableCall) : Prop :=
  (call.typed = none ∧ (vtableCall setup arenas call).2.2 = arenas ∧
      (vtableCall setup arenas call).1.Refused) ∨
    ∃ typed, call.typed = some typed ∧
      (vtableCall setup arenas call).2.2 = (providerCall setup arenas typed).2 ∧
      some (vtableCall setup arenas call).1 = wire (providerCall setup arenas typed).1

theorem typedAs_materialize (userData outHandle : Bool) (requestJson : DagMlDataBytesView) :
    TypedAs setup arenas (.materialize userData outHandle requestJson) := by
  unfold TypedAs
  simp only [VtableCall.typed, vtableCall, providerMaterialize]
  split
  · next json _ _ =>
    cases RequestReader.materializationRequest json with
    | error detail => exact .inl ⟨rfl, rfl, by decide, .inr rfl⟩
    | ok request =>
      refine .inr ⟨.arena (.materialize request), rfl, ?_⟩
      simp only [providerCall, ProviderArenas.step]
      split
      · next h => rw [h]; exact ⟨rfl, rfl⟩
      · next h => rw [h]; exact ⟨rfl, rfl⟩
  · exact .inl ⟨rfl, rfl, by decide, .inl rfl⟩

theorem typedAs_makeView (userData outView : Bool) (data : Nat)
    (selectorJson : DagMlDataBytesView) :
    TypedAs setup arenas (.makeView userData outView data selectorJson) := by
  unfold TypedAs
  simp only [VtableCall.typed, vtableCall, providerMakeView]
  split
  · next json _ _ =>
    cases RequestReader.dataView json with
    | error detail => exact .inl ⟨rfl, rfl, by decide, .inr rfl⟩
    | ok view =>
      refine .inr ⟨.arena (.makeView data view), rfl, ?_⟩
      simp only [providerCall, ProviderArenas.step]
      split
      · next h => rw [h]; exact ⟨rfl, rfl⟩
      · next h => rw [h]; exact ⟨rfl, rfl⟩
  · exact .inl ⟨rfl, rfl, by decide, .inl rfl⟩

/-- What an Arrow callback does as the typed provider sees it: it refuses its arguments, or it
exports the reply to one call that reads. -/
def ReadsAs (typed : Option TypedCall) (x : Outcome AbiFailure ArrowTable) : Prop :=
  (typed = none ∧ ∃ failure, x = .error (.refused failure) ∧ failure.status ≠ .ok) ∨
    ∃ call, typed = some call ∧ (providerCall setup arenas call).2 = arenas ∧
      some (arrowReply x).1 = wire (providerCall setup arenas call).1

namespace ReadsAs

variable {setup arenas} {α : Type} {f : α → Option TypedCall}
  {g : α → Outcome AbiFailure ArrowTable}

omit [RequestReader] in
theorem require {o : Option α} {status : DagMlDataStatusCode} {message : String}
    (hstatus : status ≠ .ok) (h : ∀ a, ReadsAs setup arenas (f a) (g a)) :
    ReadsAs setup arenas (o >>= f)
      (Guard.require o (.refused (argumentFailure status message)) >>= g) := by
  cases o with
  | none => exact .inl ⟨rfl, _, rfl, hstatus⟩
  | some a => exact h a

omit [RequestReader] in
theorem lift {ε : Type} {r : Except ε α} {failure : ε → AbiFailure}
    (hstatus : ∀ e, (failure e).status ≠ .ok) (h : ∀ a, ReadsAs setup arenas (f a) (g a)) :
    ReadsAs setup arenas (r.toOption >>= f) (Unchecked.lift (r.mapError failure) >>= g) := by
  cases r with
  | error e => exact .inl ⟨rfl, _, rfl, hstatus e⟩
  | ok a => exact h a

theorem typedAs {call : VtableCall} {x : Outcome AbiFailure ArrowTable}
    (h : ReadsAs setup arenas call.typed x)
    (hcall : vtableCall setup arenas call = ((arrowReply x).1, (arrowReply x).2, arenas)) :
    TypedAs setup arenas call := by
  unfold TypedAs
  rw [hcall]
  rcases h with ⟨hnone, failure, rfl, hstatus⟩ | ⟨typed, hsome, harenas, hreply⟩
  · exact .inl ⟨hnone, rfl, hstatus, rfl⟩
  · exact .inr ⟨typed, hsome, harenas.symm, hreply⟩

end ReadsAs

theorem readsAs_viewIdentity (userData outArrows : Bool) (view : Nat) :
    ReadsAs setup arenas (VtableCall.viewIdentity userData outArrows view).typed
      (providerViewIdentity arenas userData outArrows view) := by
  unfold providerViewIdentity
  simp only [VtableCall.typed]
  cases userData && outArrows with
  | false => exact .inl ⟨rfl, _, rfl, by decide⟩
  | true => exact .inr ⟨.viewIdentity view, rfl, rfl, rfl⟩

theorem readsAs_targetArrow (userData outArrows : Bool) (view : Nat)
    (targetName : DagMlDataBytesView) :
    ReadsAs setup arenas (VtableCall.targetArrow userData outArrows view targetName).typed
      (providerTargetArrow setup arenas userData outArrows view targetName) := by
  unfold providerTargetArrow
  simp only [VtableCall.typed]
  refine .require (by decide) fun text => .require (by decide) fun name => ?_
  refine .lift (fun _ h => by cases h) fun targetId => ?_
  exact .inr ⟨.targetBlock view targetId, rfl, rfl, rfl⟩

theorem readsAs_featureArrow (userData outArrows : Bool) (view : Nat)
    (featureSetName : DagMlDataBytesView) (others : Nat → List ProviderCall) :
    ReadsAs setup arenas
      (VtableCall.featureArrow userData outArrows view featureSetName others).typed
      (providerFeatureArrow setup arenas userData outArrows view featureSetName others) := by
  unfold providerFeatureArrow
  simp only [VtableCall.typed]
  refine .require (by decide) fun text => .require (by decide) fun name => ?_
  split
  · refine .lift (fun _ h => by cases h) fun selector => ?_
    exact .inr ⟨.featureFusionBlock view selector others, rfl, rfl, rfl⟩
  · cases isBlank name with
    | true => exact .inl ⟨rfl, _, rfl, by decide⟩
    | false => exact .inr ⟨.featureBlock view name, rfl, rfl, rfl⟩

theorem typedAs (call : VtableCall) : TypedAs setup arenas call := by
  cases call with
  | materialize userData outHandle requestJson =>
    exact typedAs_materialize setup arenas userData outHandle requestJson
  | makeView userData outView data selectorJson =>
    exact typedAs_makeView setup arenas userData outView data selectorJson
  | viewIdentity userData outArrows view =>
    exact (readsAs_viewIdentity setup arenas userData outArrows view).typedAs rfl
  | targetArrow userData outArrows view targetName =>
    exact (readsAs_targetArrow setup arenas userData outArrows view targetName).typedAs rfl
  | featureArrow userData outArrows view featureSetName others =>
    exact (readsAs_featureArrow setup arenas userData outArrows view featureSetName others).typedAs
      rfl
  | release userData handle =>
    cases userData with
    | false => exact .inl ⟨rfl, rfl, trivial⟩
    | true => exact .inr ⟨.arena (.release handle), rfl, rfl, rfl⟩

/-- The typed call of a thread's call. -/
def ThreadCall.typed (threadCall : ThreadCall) : Option TypedCall := threadCall.call.typed

theorem AbiProcess.refines :
    Machine.Refines (AbiProcess.step setup) (providerCall setup)
      (fun process arenas => process.arenas = arenas) ThreadCall.typed (fun _ => wire) where
  skipped := by
    rintro process _ ⟨thread, call⟩ rfl hnone
    rcases typedAs setup process.arenas call with ⟨-, harenas, -⟩ | ⟨typed, hsome, -⟩
    · exact harenas
    · exact absurd (hnone.symm.trans hsome) nofun
  translated := by
    rintro process _ ⟨thread, call⟩ typed rfl hsome
    rcases typedAs setup process.arenas call with ⟨hnone, -⟩ | ⟨typed',
      hsome', harenas, hreply⟩
    · exact absurd (hnone.symm.trans hsome) nofun
    · obtain rfl := Option.some.inj (hsome.symm.trans hsome')
      exact ⟨harenas, hreply⟩

/-- A call that is no call of the typed provider is refused. -/
theorem AbiProcess.refused_of_untyped (process : AbiProcess) {threadCall : ThreadCall}
    (h : threadCall.typed = none) : (AbiProcess.step setup process threadCall).1.Refused := by
  rcases typedAs setup process.arenas threadCall.call with ⟨-, -, hrefused⟩ | ⟨_, hsome, -⟩
  · exact hrefused
  · cases h.symm.trans hsome

/-- The process is the typed provider: the calls whose arguments are read are calls of it, in the
order of the process, with its replies on the wire. The other calls are refused. -/
theorem vtable_refines (process : AbiProcess) (calls : List ThreadCall) :
    let typed := calls.filterMap ThreadCall.typed
    (process.run setup calls).arenas =
        Machine.run (providerCall setup) process.arenas typed ∧
      (Machine.translatedReplies (AbiProcess.step setup) ThreadCall.typed process calls).map some =
        (Machine.replies (providerCall setup) process.arenas typed).map wire ∧
      ∀ entry ∈ Machine.log (AbiProcess.step setup) process calls,
        entry.1.typed = none → entry.2.Refused := by
  intro typed
  obtain ⟨hrun, hreplies⟩ := (AbiProcess.refines setup).run (s := process) rfl calls
  refine ⟨hrun, ?_, ?_⟩
  · rw [hreplies, Machine.replies_eq_map_log, List.map_map]
    rfl
  · rintro ⟨threadCall, reply⟩ hmem hnone
    obtain ⟨pre, post, -, rfl⟩ := Machine.mem_log _ hmem
    exact AbiProcess.refused_of_untyped setup _ hnone

end Refinement

/-! ## Failures -/

/-- The status that a call returned. `release` returns none, and an aborted process does not
return. -/
def VtableReply.status : VtableReply → Option DagMlDataStatusCode
  | .handle status _ => some status
  | .arrow status _ => some status
  | .released => none
  | .aborted => none

/-- The call returned a status other than `Ok`. -/
def VtableReply.Failed (reply : VtableReply) : Prop :=
  ∃ status, reply.status = some status ∧ status ≠ .ok

/-- A reply and the error that goes with it: an error exactly when the call failed. An argument that
is refused is an error of the C ABI, and an error of the core is a validation error. -/
structure Reports (reply : VtableReply) (error : Option AbiError) : Prop where
  failed : reply.Failed ↔ error.isSome
  argument : reply.status = some .invalidArgument → ∃ message, error = some (.argument message)
  core : ∀ e, error = some (.core e) → reply.status = some .validationError

/-- A failure as the callbacks build it. -/
def AbiFailure.Proper (failure : AbiFailure) : Prop :=
  (∃ status message, failure = argumentFailure status message ∧ status ≠ .ok) ∨
    (∃ e, failure = coreFailure e) ∨ ∃ detail, failure = jsonFailure detail

theorem AbiFailure.Proper.reports {failure : AbiFailure} (h : failure.Proper)
    {reply : VtableReply} (hreply : reply.status = some failure.status) :
    Reports reply (some failure.error) := by
  have hfailed : failure.status ≠ .ok := by
    rcases h with ⟨status, message, rfl, hstatus⟩ | ⟨e, rfl⟩ | ⟨detail, rfl⟩
    · exact hstatus
    · nofun
    · nofun
  refine ⟨⟨fun _ => rfl, fun _ => ⟨_, hreply, hfailed⟩⟩,
    fun hargument => ?_, fun e he => ?_⟩
  · rw [hreply, Option.some.injEq] at hargument
    rcases h with ⟨status, message, rfl, -⟩ | ⟨e, rfl⟩ | ⟨detail, rfl⟩
    · exact ⟨message, rfl⟩
    · cases hargument
    · cases hargument
  · rw [hreply]
    rcases h with ⟨status, message, rfl, -⟩ | ⟨e, rfl⟩ | ⟨detail, rfl⟩
    · cases he
    · rfl
    · rfl

theorem reports_argument {reply : VtableReply} (h : reply.status = some .invalidArgument)
    (message : String) : Reports reply (some (.argument message)) := by
  have hproper : (argumentFailure .invalidArgument message).Proper :=
    .inl ⟨_, _, rfl, by decide⟩
  exact hproper.reports h

theorem reports_ok {reply : VtableReply} (h : reply.status = some .ok) : Reports reply none := by
  refine ⟨⟨?_, nofun⟩, fun hargument => ?_, nofun⟩
  · rintro ⟨status, hstatus, hne⟩
    exact absurd (Option.some.inj (hstatus.symm.trans h)) hne
  · rw [h] at hargument
    cases hargument

theorem reports_silent {reply : VtableReply} (h : reply.status = none) : Reports reply none := by
  refine ⟨⟨?_, nofun⟩, fun hargument => ?_, nofun⟩
  · rintro ⟨status, hstatus, -⟩
    rw [h] at hstatus
    cases hstatus
  · rw [h] at hargument
    cases hargument

/-- Every refusal of the outcome is proper. -/
def ProperOutcome {α : Type} (x : Outcome AbiFailure α) : Prop :=
  ∀ failure, x = .error (.refused failure) → failure.Proper

namespace ProperOutcome

variable {α β : Type}

theorem bind {x : Outcome AbiFailure α} {f : α → Outcome AbiFailure β} (hx : ProperOutcome x)
    (hf : ∀ a, ProperOutcome (f a)) : ProperOutcome (x >>= f) := by
  intro failure h
  rcases bind_eq_error.mp h with h | ⟨a, -, h⟩
  · exact hx failure h
  · exact hf a failure h

theorem pure (a : α) : ProperOutcome (pure a : Outcome AbiFailure α) := nofun

theorem argument {status : DagMlDataStatusCode} {message : String} (h : status ≠ .ok)
    (o : Option α) : ProperOutcome (require o (.refused (argumentFailure status message))) := by
  intro failure hrefused
  cases o with
  | none =>
    cases hrefused
    exact .inl ⟨status, message, rfl, h⟩
  | some a => cases hrefused

theorem rejected {status : DagMlDataStatusCode} {message : String} (h : status ≠ .ok)
    (bad : Bool) : ProperOutcome (rejectIf bad (.refused (argumentFailure status message))) := by
  intro failure hrefused
  cases bad with
  | true =>
    cases hrefused
    exact .inl ⟨status, message, rfl, h⟩
  | false => cases hrefused

theorem inCallback (r : Result α) : ProperOutcome (inCallback r) := by
  intro failure h
  cases r with
  | ok a => cases h
  | error e =>
    cases h
    exact .inr (.inl ⟨e, rfl⟩)

theorem json (r : Except String α) : ProperOutcome (lift (r.mapError jsonFailure)) := by
  intro failure h
  cases r with
  | ok a => cases h
  | error detail =>
    cases h
    exact .inr (.inr ⟨detail, rfl⟩)

theorem exportInCallback (r : Outcome DataError ArrowTable) :
    ProperOutcome (exportInCallback r) := by
  intro failure h
  rcases r with (e | _) | table
  · cases h
    exact .inr (.inl ⟨e, rfl⟩)
  · cases h
  · cases h

end ProperOutcome

theorem reports_arrowReply {x : Outcome AbiFailure ArrowTable} (h : ProperOutcome x) :
    Reports (arrowReply x).1 (arrowReply x).2 := by
  rcases x with (failure | _) | table
  · exact (h failure rfl).reports rfl
  · exact reports_silent rfl
  · exact reports_ok rfl

section Reporting
variable [ThirdParty] [RequestReader] (setup : ProviderSetup) (arenas : ProviderArenas)

theorem reports_materialize (userData outHandle : Bool) (requestJson : DagMlDataBytesView) :
    let result := providerMaterialize setup arenas userData outHandle requestJson
    Reports result.1 result.2.1 := by
  intro result
  have hjson (detail : String) : (jsonFailure detail).Proper := .inr (.inr ⟨detail, rfl⟩)
  have hcore (e : DataError) : (coreFailure e).Proper := .inr (.inl ⟨e, rfl⟩)
  simp only [result, providerMaterialize]
  split
  · split
    · exact (hjson _).reports rfl
    · split
      · exact reports_ok rfl
      · exact (hcore _).reports rfl
  · exact reports_argument rfl _

theorem reports_makeView (userData outView : Bool) (data : Nat)
    (selectorJson : DagMlDataBytesView) :
    let result := providerMakeView arenas userData outView data selectorJson
    Reports result.1 result.2.1 := by
  intro result
  have hjson (detail : String) : (jsonFailure detail).Proper := .inr (.inr ⟨detail, rfl⟩)
  have hcore (e : DataError) : (coreFailure e).Proper := .inr (.inl ⟨e, rfl⟩)
  simp only [result, providerMakeView]
  split
  · split
    · exact (hjson _).reports rfl
    · split
      · exact reports_ok rfl
      · exact (hcore _).reports rfl
  · exact reports_argument rfl _

omit [RequestReader] in
theorem proper_viewIdentity (userData outArrows : Bool) (view : Nat) :
    ProperOutcome (providerViewIdentity arenas userData outArrows view) := by
  unfold providerViewIdentity
  refine (ProperOutcome.rejected (by decide) _).bind fun _ => (ProperOutcome.inCallback _).bind
    fun relations => (ProperOutcome.inCallback _).bind fun arrow => .pure _

omit [ThirdParty] [RequestReader] in
theorem proper_targetArrow (userData outArrows : Bool) (view : Nat)
    (targetName : DagMlDataBytesView) :
    ProperOutcome (providerTargetArrow setup arenas userData outArrows view targetName) := by
  unfold providerTargetArrow
  refine (ProperOutcome.argument (by decide) _).bind fun text =>
    (ProperOutcome.argument (by decide) _).bind
    fun name => (ProperOutcome.inCallback _).bind fun targetId =>
      (ProperOutcome.inCallback _).bind fun target => .inCallback _

theorem proper_featureArrow (userData outArrows : Bool) (view : Nat)
    (featureSetName : DagMlDataBytesView) (others : Nat → List ProviderCall) :
    ProperOutcome
      (providerFeatureArrow setup arenas userData outArrows view featureSetName others) := by
  unfold providerFeatureArrow
  refine (ProperOutcome.argument (by decide) _).bind fun text =>
    (ProperOutcome.argument (by decide) _).bind
    fun name => ?_
  split
  · exact (ProperOutcome.json _).bind fun selector => (ProperOutcome.inCallback _).bind
      fun features => .exportInCallback _
  · exact (ProperOutcome.rejected (by decide) _).bind fun _ => (ProperOutcome.inCallback _).bind
      fun features => .exportInCallback _

/-- A call records an error exactly when it fails. -/
theorem vtableCall_reports (call : VtableCall) :
    Reports (vtableCall setup arenas call).1 (vtableCall setup arenas call).2.1 := by
  cases call with
  | materialize userData outHandle requestJson =>
    exact reports_materialize setup arenas userData outHandle requestJson
  | makeView userData outView data selectorJson =>
    exact reports_makeView arenas userData outView data selectorJson
  | viewIdentity userData outArrows view =>
    exact reports_arrowReply (proper_viewIdentity arenas userData outArrows view)
  | targetArrow userData outArrows view targetName =>
    exact reports_arrowReply (proper_targetArrow setup arenas userData outArrows view targetName)
  | featureArrow userData outArrows view featureSetName others =>
    exact reports_arrowReply
      (proper_featureArrow setup arenas userData outArrows view featureSetName others)
  | release userData handle => exact reports_silent rfl

end Reporting

/-! ## The last error -/

section LastErrors
variable [ThirdParty] [RequestReader] (setup : ProviderSetup)

namespace AbiProcess

/-- A process that has not called yet. -/
def start (arenas : ProviderArenas) : AbiProcess := ⟨arenas, fun _ => none⟩

/-- No call of the thread fails. -/
def Quiet (process : AbiProcess) (calls : List ThreadCall) (thread : Nat) : Prop :=
  ∀ pre threadCall post, calls = pre ++ threadCall :: post → threadCall.thread = thread →
    ¬ (AbiProcess.step setup (process.run setup pre) threadCall).1.Failed

/-- What a call writes into the last error of the thread. -/
def writes (thread : Nat) (process : AbiProcess) (threadCall : ThreadCall) :
    Option (Option LastError) :=
  if threadCall.thread = thread then
    (vtableCall setup process.arenas threadCall.call).2.1.map fun e => some (storeLastError e)
  else none

theorem lastError_step (thread : Nat) (process : AbiProcess) (threadCall : ThreadCall) :
    (AbiProcess.step setup process threadCall).2.lastError thread =
      (writes setup thread process threadCall).getD (process.lastError thread) := by
  unfold writes
  show (match (vtableCall setup process.arenas threadCall.call).2.1 with
    | none => process.lastError
    | some e => Function.update process.lastError threadCall.thread (some (storeLastError e)))
      thread = _
  cases (vtableCall setup process.arenas threadCall.call).2.1 with
  | none => split <;> rfl
  | some e =>
    split
    · next heq =>
      subst heq
      exact Function.update_self ..
    · next hne => exact Function.update_of_ne (Ne.symm hne) _ _

theorem writes_eq_none (thread : Nat) (process : AbiProcess) (threadCall : ThreadCall) :
    writes setup thread process threadCall = none ↔
      (threadCall.thread = thread →
        ¬ (AbiProcess.step setup process threadCall).1.Failed) := by
  have hreports := (vtableCall_reports setup process.arenas threadCall.call).failed
  unfold writes
  show _ ↔ (_ → ¬ (vtableCall setup process.arenas threadCall.call).1.Failed)
  rw [hreports]
  split
  · next heq => simp [heq]
  · next hne => simp [hne]

theorem silent_iff_quiet (process : AbiProcess) (calls : List ThreadCall) (thread : Nat) :
    Machine.Silent (AbiProcess.step setup) (writes setup thread) process calls ↔
      process.Quiet setup calls thread := by
  unfold Machine.Silent Quiet
  simp only [writes_eq_none]

end AbiProcess

/-- The last error of a thread over any run of any threads. It is there exactly when a call of the
thread failed. Then it is the error of the last one that did, and its code tells the kind. -/
theorem lastError_run (arenas : ProviderArenas) (calls : List ThreadCall) (thread : Nat) :
    let start := AbiProcess.start arenas
    let after := start.run setup calls
    (after.lastErrorCode thread = 0 ↔ start.Quiet setup calls thread) ∧
      (¬ start.Quiet setup calls thread → ∃ pre call post e,
        calls = pre ++ ⟨thread, call⟩ :: post ∧
        (vtableCall setup (start.run setup pre).arenas call).2.1 = some e ∧
        Reports (vtableCall setup (start.run setup pre).arenas call).1 (some e) ∧
        (start.run setup (pre ++ [⟨thread, call⟩])).Quiet setup post thread ∧
        after.lastErrorJson thread = some e.payload ∧
        ∀ other : AbiError, after.lastErrorCode thread = other.errorCode ↔
          e.SameKind other) := by
  intro start after
  have hlast := Machine.last_write (g := fun process : AbiProcess => process.lastError thread)
    (AbiProcess.lastError_step setup thread) start calls
  simp only [AbiProcess.silent_iff_quiet] at hlast
  rcases hlast with ⟨hquiet, hget⟩ | ⟨pre, ⟨caller, call⟩, post, written, heq,
    hwrites, hquiet, hget⟩
  · have hcode : after.lastErrorCode thread = 0 := by
      unfold AbiProcess.lastErrorCode
      rw [hget]
      rfl
    exact ⟨⟨fun _ => hquiet, fun _ => hcode⟩, fun hnot => absurd hquiet hnot⟩
  · have hfailing : ¬ start.Quiet setup calls thread := by
      rw [← AbiProcess.silent_iff_quiet]
      intro hsilent
      exact absurd ((hsilent pre _ post heq).symm.trans hwrites) nofun
    unfold AbiProcess.writes at hwrites
    split at hwrites
    · next hcaller =>
      obtain rfl : caller = thread := hcaller
      obtain ⟨e, he, rfl⟩ := Option.map_eq_some_iff.mp hwrites
      have hreports := vtableCall_reports setup (start.run setup pre).arenas call
      rw [he] at hreports
      have hcode : after.lastErrorCode caller = e.errorCode := by
        unfold AbiProcess.lastErrorCode
        rw [hget]
        rfl
      have hjson : after.lastErrorJson caller = some e.payload := by
        unfold AbiProcess.lastErrorJson
        rw [hget]
        rfl
      refine ⟨⟨fun hzero => absurd (hcode.symm.trans hzero) e.errorCode_ne_zero,
        fun hquiet => absurd hquiet hfailing⟩, fun _ =>
        ⟨pre, call, post, e, heq, he, hreports, hquiet, hjson, fun other => ?_⟩⟩
      rw [hcode, AbiError.sameKind_iff_code]
    · cases hwrites

end LastErrors

/-! ## The handles of the callers -/

section Handles
variable [ThirdParty]

variable [RequestReader]

/-- What a call writes through its handle pointer. -/
theorem vtableCall_written {setup : ProviderSetup} {arenas : ProviderArenas} {call : VtableCall}
    {status : DagMlDataStatusCode} {written : Option Nat}
    (h : (vtableCall setup arenas call).1 = .handle status written) :
    (status = .ok ∧ ∃ handle, written = some handle) ∨
      (status = .validationError ∧ written = some 0) ∨
      (status = .invalidArgument ∧ written = none) := by
  cases call with
  | materialize userData outHandle requestJson =>
    simp only [vtableCall, providerMaterialize] at h
    split at h
    · split at h
      · cases h
        exact .inr (.inl ⟨rfl, rfl⟩)
      · split at h
        · cases h
          exact .inl ⟨rfl, _, rfl⟩
        · cases h
          exact .inr (.inl ⟨rfl, rfl⟩)
    · cases h
      exact .inr (.inr ⟨rfl, rfl⟩)
  | makeView userData outView data selectorJson =>
    simp only [vtableCall, providerMakeView] at h
    split at h
    · split at h
      · cases h
        exact .inr (.inl ⟨rfl, rfl⟩)
      · split at h
        · cases h
          exact .inl ⟨rfl, _, rfl⟩
        · cases h
          exact .inr (.inl ⟨rfl, rfl⟩)
    · cases h
      exact .inr (.inr ⟨rfl, rfl⟩)
  | viewIdentity userData outArrows view =>
    rcases hx : providerViewIdentity arenas userData outArrows view with (_ | _) | _ <;>
      simp [vtableCall, hx, arrowReply] at h
  | targetArrow userData outArrows view targetName =>
    rcases hx : providerTargetArrow setup arenas userData outArrows view targetName
      with (_ | _) | _ <;> simp [vtableCall, hx, arrowReply] at h
  | featureArrow userData outArrows view featureSetName others =>
    rcases hx : providerFeatureArrow setup arenas userData outArrows view featureSetName others
      with (_ | _) | _ <;> simp [vtableCall, hx, arrowReply] at h
  | release userData handle => cases h

/-- The handles that the calls of all threads hand out are 1, 2 and so on, in the order of the
process, so no two calls hand out one handle. A validation error writes 0, which is no handle, and
a refused argument leaves the caller's handle as it was. -/
theorem written_handles {provider : InMemoryProvider} {envelope : CoordinatorDataPlanEnvelope}
    {featureStore : NumericFeatureBufferStore} {ndTensorStore : NdTensorStore}
    (hbuilt : provider.BuiltFrom envelope featureStore ndTensorStore)
    (targetTables : BTreeMap TargetId CoordinatorTargetTable) (calls : List ThreadCall)
    (hsize : (provider.arenas.mintedHandles envelope
      ((calls.filterMap ThreadCall.typed).filterMap TypedCall.arenaCall)).length < 2 ^ 64 - 1) :
    let replies := Machine.replies (AbiProcess.step ⟨envelope, targetTables⟩)
      (AbiProcess.start provider.arenas) calls
    let handedOut := replies.filterMap VtableReply.handedOut
    handedOut = List.range' 1 handedOut.length ∧ 0 ∉ handedOut ∧ handedOut.Nodup ∧
      ∀ status written, .handle status written ∈ replies →
        (status = .ok ∧ ∃ handle ∈ handedOut, written = some handle) ∨
          (status = .validationError ∧ written = some 0) ∨
          (status = .invalidArgument ∧ written = none) := by
  intro replies handedOut
  obtain ⟨hfresh, -, -, rfl, -⟩ := hbuilt.fresh
  have hskipped : ∀ (process : AbiProcess) (threadCall : ThreadCall), threadCall.typed = none →
      (AbiProcess.step ⟨provider.envelope, targetTables⟩ process threadCall).1.handedOut =
        none :=
    fun process _ hnone => (process.refused_of_untyped _ hnone).handedOut
  have hwire : ∀ (call : TypedCall) (reply : TypedReply) (reply' : VtableReply),
      wire reply = some reply' → reply'.handedOut = reply.minted.map id := by
    intro _ reply reply' hwire
    rw [handedOut_wire hwire, Option.map_id, id]
  have hrange : handedOut = List.range' 1 handedOut.length :=
    (hfresh.handedOut (AbiProcess.refines ⟨provider.envelope, targetTables⟩) hskipped hwire rfl
      hsize).1.trans (List.map_id _)
  refine ⟨hrange, ?_, ?_, fun status written hmem => ?_⟩
  · rw [hrange, List.mem_range'_1]
    omega
  · rw [hrange]
    exact List.nodup_range'
  · have hmem' := hmem
    simp only [replies, Machine.replies_eq_map_log, List.mem_map] at hmem'
    obtain ⟨⟨threadCall, reply⟩, hlog, rfl⟩ := hmem'
    obtain ⟨pre, post, -, hreply⟩ := Machine.mem_log _ hlog
    rcases vtableCall_written hreply with ⟨rfl, handle, rfl⟩ | herror | hargument
    · exact .inl ⟨rfl, handle, List.mem_filterMap.mpr ⟨_, hmem, rfl⟩, rfl⟩
    · exact .inr (.inl herror)
    · exact .inr (.inr hargument)

end Handles

/-- The training request, without the fields that have their defaults. -/
def trainingRequestText : String :=
  let request := CoordinatorHandleArena.trainingRequest
  @Json.compact (.ofTable []) (.object
    [("run_id", .string request.runId), ("node_id", .string request.nodeId),
      ("input_name", .string request.inputName), ("phase", .string request.phase),
      ("request_id", .string request.requestId),
      ("schema_fingerprint", .string request.schemaFingerprint),
      ("plan_fingerprint", .string request.planFingerprint),
      ("output_representation", .string request.outputRepresentation.value)])

/-- The view with all defaults: the empty object. -/
def plainViewText : String := "\x7b\x7d"

/-- A reader that knows one request and one view. -/
@[reducible] def sharedReader : RequestReader where
  materializationRequest json :=
    if json = bytes trainingRequestText then .ok CoordinatorHandleArena.trainingRequest
    else .error "expected value at line 1 column 1"
  dataView json :=
    if json = bytes plainViewText then .ok CoordinatorHandleArena.plainView
    else .error "expected value at line 1 column 1"
  fusionSelector _ := .error "expected value at line 1 column 1"

/-- One thread materializes, a second one makes a view of the handle, and a null pointer is
refused. -/
def sharedThreadCalls : List ThreadCall :=
  [⟨0, .materialize true true (.ofText trainingRequestText)⟩,
    ⟨1, .makeView true true 1 (.ofText plainViewText)⟩,
    ⟨1, .makeView true false 1 (.ofText plainViewText)⟩]

theorem sharedThreadCalls_handles :
    letI := sharedDigests
    letI := sharedReader
    let replies := Machine.replies (AbiProcess.step ⟨sharedEnvelope, ∅⟩)
      (AbiProcess.start sharedProvider.arenas) sharedThreadCalls
    let handedOut := replies.filterMap VtableReply.handedOut
    handedOut = List.range' 1 handedOut.length ∧ 0 ∉ handedOut ∧ handedOut.Nodup := by
  let _ := sharedDigests
  let _ := sharedReader
  obtain ⟨hrange, hzero, hnodup, -⟩ :=
    written_handles sharedProvider_built ∅ sharedThreadCalls
    (length_mintedHandles_lt (by decide))
  exact ⟨hrange, hzero, hnodup⟩

end DagMlData
