import DagMlData.FittedAdapter
import DagMlData.ProviderAbi
import DagMlData.Lib.Heap

/-!
# Stores that a provider borrows

A provider holds a pointer to a fitted-adapter store that the host owns. The pointer stands behind a
mutex of the provider, and the store has a mutex of its own. Threads of the host attach stores, use
them directly and through the provider, and destroy them.

A call is a sequence of steps of its thread (`step`), and the host begins calls by the rules in
`Permits`: it does not destroy a store that it uses, nor one that it has attached before it has
detached it again. `HostRun` are the interleavings. `StepIs` says what a step does.
-/

namespace DagMlData

open Guard

/-! ## Calls -/

abbrev ThreadId : Type := Nat

/-- A call on a store. A payload is what `serde_json` reads in it, and an id what `from_utf8`
does. -/
inductive StoreCall
  /-- `dagmldata_inmemory_fitted_adapter_store_register_json`. -/
  | registerJson (json : Except String FittedAdapterRef)
  /-- `dagmldata_inmemory_fitted_adapter_store_materialize_json`. -/
  | materializeJson (json : Except String FittedAdapterMaterializationRequest)
  /-- `dagmldata_inmemory_fitted_adapter_store_release`. -/
  | release (adapterId : Option String)

/-- A call of the host. A store is the pointer of its handle. -/
inductive HostCall
  /-- `dagmldata_inmemory_fitted_adapter_store_new`. -/
  | storeNew
  /-- `dagmldata_inmemory_fitted_adapter_store_destroy`. -/
  | storeDestroy (store : Option Nat)
  | storeCall (store : Option Nat) (call : StoreCall)
  /-- `dagmldata_inmemory_provider_attach_fitted_adapter_store`. -/
  | attach (store : Option Nat)
  /-- `dagmldata_inmemory_provider_materialize_fitted_adapter_json`. -/
  | providerMaterialize (json : Except String FittedAdapterMaterializationRequest)

inductive HostReply
  | failed (failure : AbiFailure)
  | created (store : Nat)
  | done
  /-- What the store has replied. -/
  | store (reply : FittedAdapterReply)

namespace HostReply

def status : HostReply → DagMlDataStatusCode
  | failed failure => failure.status
  | store (.registered (.error _)) => .validationError
  | store (.materialized (.error _)) => .validationError
  | _ => .ok

/-- What a store has replied, if one was asked. -/
def ofStore : HostReply → Option FittedAdapterReply
  | store reply => some reply
  | _ => none

/-- What is written through the out pointer of a store call. -/
def written : HostReply → Option Nat
  | store (.registered (.ok record)) => some record.handle
  | store (.materialized (.ok handle)) => some handle
  | store (.released found) => some found.toNat
  | _ => none

end HostReply

/-- What a call checks before it locks the store. -/
def FittedAdapterCall.check : FittedAdapterCall → Result Unit
  | .register fittedAdapter => fittedAdapter.validate
  | .release _ => .ok ()
  | .materialize request => request.validate

/-- The call of the store, when the arguments can be read. -/
def StoreCall.parsed : StoreCall → Except AbiFailure FittedAdapterCall
  | .registerJson (.ok fittedAdapter) => .ok (.register fittedAdapter)
  | .registerJson (.error detail) => .error (jsonFailure detail)
  | .materializeJson (.ok request) => .ok (.materialize request)
  | .materializeJson (.error detail) => .error (jsonFailure detail)
  | .release (some adapterId) => .ok (.release adapterId)
  | .release none =>
    .error (argumentFailure .invalidArgument "adapter_id is not valid UTF-8")

/-- The refusal of a null handle. -/
def StoreCall.nullFailure : StoreCall → AbiFailure
  | .release _ => argumentFailure .invalidArgument
      "fitted-adapter store or adapter_id pointer is null"
  | _ => argumentFailure .invalidArgument "store or json pointer is null"

/-! ## Threads -/

/-- What a call does under the lock of the provider. -/
inductive SlotUse
  | attach (store : Option Nat)
  | materialize (json : Except String FittedAdapterMaterializationRequest)

/-- Where a thread is. `guarded` is whether it holds the lock of the provider. -/
inductive Stage
  | idle
  | creating
  | destroying (store : Nat)
  | entering (store : Nat) (call : StoreCall)
  | checking (guarded : Bool) (store : Nat) (call : FittedAdapterCall)
  | locking (guarded : Bool) (store : Nat) (call : FittedAdapterCall)
  | inside (guarded : Bool) (store : Nat) (call : FittedAdapterCall)
  | unlocking (guarded : Bool) (store : Nat) (reply : HostReply)
  | lockingSlot (use : SlotUse)
  | inSlot (use : SlotUse)
  | unlockingSlot (reply : HostReply)
  | returning (reply : HostReply)

/-- After the store: the guard of the provider is dropped last. -/
def Stage.leave (guarded : Bool) (reply : HostReply) : Stage :=
  if guarded then .unlockingSlot reply else .returning reply

/-- Where a call starts. -/
def HostCall.start : HostCall → Stage
  | storeNew => .creating
  | storeDestroy none => .returning .done
  | storeDestroy (some store) => .destroying store
  | storeCall none call => .returning (.failed call.nullFailure)
  | storeCall (some store) call => .entering store call
  | attach store => .lockingSlot (.attach store)
  | providerMaterialize json => .lockingSlot (.materialize json)

/-- A store with its lock. -/
structure SharedStore where
  state : FittedAdapterStoreState
  lockedBy : Option ThreadId

/-- A call that a thread has made on a store. -/
structure StoreUse where
  thread : ThreadId
  store : Nat
  call : FittedAdapterCall
  reply : FittedAdapterReply

/-- The stores of the process, the pointer of the provider and the threads. -/
structure SharedProcess where
  stores : Heap SharedStore
  slot : Option Nat
  slotLockedBy : Option ThreadId
  stage : ThreadId → Stage
  /-- What happened to the stores, in the order in which it happened. -/
  uses : List StoreUse

namespace SharedProcess

def start : SharedProcess := ⟨Heap.empty, none, none, fun _ => .idle, []⟩

/-- What comes of a thread that goes on. -/
inductive Progress
  /-- It touches a store that is gone. -/
  | fault
  | blocked
  | next (process : SharedProcess)

variable (process : SharedProcess)

def goTo (thread : ThreadId) (stage : Stage) : SharedProcess :=
  { process with stage := Function.update process.stage thread stage }

def setStore (store : Nat) (shared : SharedStore) : SharedProcess :=
  { process with
    stores := { process.stores with
      cells := Function.update process.stores.cells store (some shared) } }

/-- Touches a store. -/
def withStore (store : Nat) (body : SharedStore → Progress) : Progress :=
  match process.stores.get store with
  | none => .fault
  | some shared => body shared

/-- A thread goes on by one step. -/
def step (thread : ThreadId) : Progress :=
  match process.stage thread with
  | .idle => .blocked
  | .creating =>
    let (store, stores) := process.stores.alloc (SharedStore.mk FittedAdapterStoreState.new none)
    .next ({ process with stores := stores }.goTo thread (.returning (.created store)))
  | .destroying store =>
    match process.stores.free store with
    | none => .fault
    | some stores => .next ({ process with stores := stores }.goTo thread (.returning .done))
  | .entering store call =>
    process.withStore store fun _ =>
      match call.parsed with
      | .error failure => .next (process.goTo thread (.returning (.failed failure)))
      | .ok call => .next (process.goTo thread (.checking false store call))
  | .checking guarded store call =>
    process.withStore store fun _ =>
      match call.check with
      | .error e => .next (process.goTo thread (.leave guarded (.failed (coreFailure e))))
      | .ok () => .next (process.goTo thread (.locking guarded store call))
  | .locking guarded store call =>
    process.withStore store fun shared =>
      if shared.lockedBy.isSome then .blocked
      else .next ((process.setStore store { shared with lockedBy := some thread }).goTo thread
        (.inside guarded store call))
  | .inside guarded store call =>
    process.withStore store fun shared =>
      let (reply, state) := shared.state.step call
      .next ({ process.setStore store { shared with state := state } with
        uses := process.uses ++ [StoreUse.mk thread store call reply] }.goTo thread
          (.unlocking guarded store (.store reply)))
  | .unlocking guarded store reply =>
    process.withStore store fun shared =>
      .next ((process.setStore store { shared with lockedBy := none }).goTo thread
        (.leave guarded reply))
  | .lockingSlot use =>
    if process.slotLockedBy.isSome then .blocked
    else .next ({ process with slotLockedBy := some thread }.goTo thread (.inSlot use))
  | .inSlot (.attach store) =>
    .next ({ process with slot := store }.goTo thread (.unlockingSlot .done))
  | .inSlot (.materialize json) =>
    match process.slot with
    | none =>
      .next (process.goTo thread (.unlockingSlot (.failed (argumentFailure .invalidArgument
        ("provider has no fitted-adapter store attached; call " ++
          "dagmldata_inmemory_provider_attach_fitted_adapter_store first")))))
    | some store =>
      process.withStore store fun _ =>
        match json with
        | .error detail =>
          .next (process.goTo thread (.unlockingSlot (.failed (jsonFailure detail))))
        | .ok request => .next (process.goTo thread (.checking true store (.materialize request)))
  | .unlockingSlot reply =>
    .next ({ process with slotLockedBy := none }.goTo thread (.returning reply))
  | .returning _ => .next (process.goTo thread .idle)

end SharedProcess

/-! ## What the host keeps to -/

/-- What the host knows from its calls. -/
structure HostLedger where
  /-- The call that a thread is in. -/
  calls : ThreadId → Option HostCall
  /-- How often stores had been used when the last call of a thread began. -/
  since : ThreadId → Nat
  /-- The stores that may be attached. -/
  attached : Set Nat
  /-- The store that a thread is attaching. -/
  attaching : ThreadId → Option Nat
  /-- The stores that are not attached any more when the attach call of a thread returns. -/
  clears : ThreadId → Set Nat

namespace HostLedger

def start : HostLedger := ⟨fun _ => none, fun _ => 0, ∅, fun _ => none, fun _ => ∅⟩

/-- A thread begins to attach a store or none. Its call will clear the attachment of every other
store that no thread is attaching. -/
def beginAttach (ledger : HostLedger) (thread : ThreadId) (store : Option Nat) : HostLedger where
  calls := ledger.calls
  since := ledger.since
  attached := ledger.attached ∪ { a | store = some a }
  attaching := Function.update ledger.attaching thread store
  clears := Function.update (fun other => ledger.clears other \ { a | store = some a }) thread
    { a ∈ ledger.attached | store ≠ some a ∧ ∀ other, ledger.attaching other ≠ some a }

/-- A thread begins a call, after so many uses. -/
def begin (ledger : HostLedger) (thread : ThreadId) (call : HostCall) (used : Nat) : HostLedger :=
  let ledger := { ledger with
    calls := Function.update ledger.calls thread (some call)
    since := Function.update ledger.since thread used }
  match call with
  | .attach store => ledger.beginAttach thread store
  | _ => ledger

/-- The call of a thread returns. -/
def finish (ledger : HostLedger) (thread : ThreadId) : HostLedger where
  calls := Function.update ledger.calls thread none
  since := ledger.since
  attached := ledger.attached \ ledger.clears thread
  attaching := Function.update ledger.attaching thread none
  clears := Function.update ledger.clears thread ∅

/-- A thread goes on from a stage. -/
def observe (ledger : HostLedger) (thread : ThreadId) : Stage → HostLedger
  | .returning _ => ledger.finish thread
  | _ => ledger

end HostLedger

namespace Stage

/-- The store that a direct call is on. -/
def direct : Stage → Option Nat
  | entering store _ => some store
  | checking guarded store _ => if guarded then none else some store
  | locking guarded store _ => if guarded then none else some store
  | inside guarded store _ => if guarded then none else some store
  | unlocking guarded store _ => if guarded then none else some store
  | _ => none

/-- The store that a call of the provider is on. -/
def borrowed : Stage → Option Nat
  | checking guarded store _ => if guarded then some store else none
  | locking guarded store _ => if guarded then some store else none
  | inside guarded store _ => if guarded then some store else none
  | unlocking guarded store _ => if guarded then some store else none
  | _ => none

def holdsSlot : Stage → Bool
  | inSlot _ => true
  | checking guarded _ _ => guarded
  | locking guarded _ _ => guarded
  | inside guarded _ _ => guarded
  | unlocking guarded _ _ => guarded
  | unlockingSlot _ => true
  | _ => false

def holdsStore : Stage → Option Nat
  | inside _ store _ => some store
  | unlocking _ store _ => some store
  | _ => none

/-- What the thread is going to write to the slot. -/
def pendingAttach : Stage → Option (Option Nat)
  | lockingSlot (.attach store) => some store
  | inSlot (.attach store) => some store
  | _ => none

def destroys : Stage → Option Nat
  | destroying store => some store
  | _ => none

/-- What a store has replied to the call. -/
def storeReply : Stage → Option FittedAdapterReply
  | unlocking _ _ reply => reply.ofStore
  | unlockingSlot reply => reply.ofStore
  | returning reply => reply.ofStore
  | _ => none

end Stage

/-- The call asks a store for this. -/
def HostCall.Asks : HostCall → Nat → FittedAdapterCall → Prop
  | storeCall target call, store, asked => target = some store ∧ call.parsed = .ok asked
  | providerMaterialize json, _, asked =>
    ∃ request, json = .ok request ∧ asked = .materialize request
  | _, _, _ => False

/-- A stage of the call. -/
def Stage.Serves (call : HostCall) : Stage → Prop
  | entering store asked => call = .storeCall (some store) asked
  | checking _ store asked => call.Asks store asked
  | locking _ store asked => call.Asks store asked
  | inside _ store asked => call.Asks store asked
  | lockingSlot (.materialize json) => call = .providerMaterialize json
  | inSlot (.materialize json) => call = .providerMaterialize json
  | _ => True

namespace SharedProcess

/-- The handle is one of a store, and the store is not being destroyed. -/
def Usable (process : SharedProcess) (store : Nat) : Prop :=
  (process.stores.get store).isSome ∧ ∀ thread, (process.stage thread).destroys ≠ some store

/-- The rules of the host for a call. -/
def Permits (process : SharedProcess) (ledger : HostLedger) : HostCall → Prop
  | .storeDestroy (some store) =>
    process.Usable store ∧ store ∉ ledger.attached ∧
      ∀ thread, (process.stage thread).direct ≠ some store
  | .storeCall (some store) _ => process.Usable store
  | .attach (some store) => process.Usable store
  | _ => True

/-- The runs in which the host keeps to its rules, with what it knows. -/
inductive HostRun : SharedProcess → HostLedger → Prop
  | start : HostRun SharedProcess.start HostLedger.start
  | begin {process : SharedProcess} {ledger : HostLedger} (thread : ThreadId) (call : HostCall) :
      HostRun process ledger → process.stage thread = .idle → process.Permits ledger call →
      HostRun (process.goTo thread call.start) (ledger.begin thread call process.uses.length)
  | step {process after : SharedProcess} {ledger : HostLedger} (thread : ThreadId) :
      HostRun process ledger → process.step thread = .next after →
      HostRun after (ledger.observe thread (process.stage thread))

/-! ## What a step does -/

/-- A move of a thread that changes nothing but its stage. It keeps what the thread holds, and
comes upon a store only through the slot. -/
structure Moves (process : SharedProcess) (old new : Stage) : Prop where
  busy : old ≠ .idle
  stays : ∀ reply, old ≠ .returning reply
  direct : new.direct = none ∨ new.direct = old.direct
  borrowed : ∀ store, new.borrowed = some store →
    old.borrowed = some store ∨ old.holdsSlot = true ∧ process.slot = some store
  holdsSlot : new.holdsSlot = old.holdsSlot
  holdsStore : new.holdsStore = old.holdsStore
  pendingAttach : new.pendingAttach = old.pendingAttach
  destroys : new.destroys = none
  storeReply : old.storeReply = none ∧ new.storeReply = none
  serves : ∀ call, old.Serves call → new.Serves call

/-- The call of the thread does not return yet. -/
theorem Moves.observe {process : SharedProcess} {old new : Stage} (h : process.Moves old new)
    (ledger : HostLedger) (thread : ThreadId) : ledger.observe thread old = ledger := by
  unfold HostLedger.observe
  split
  · exact absurd rfl (h.stays _)
  · rfl

/-- A step of a thread, by what it changes. -/
inductive StepIs (process : SharedProcess) (thread : ThreadId) : SharedProcess → Prop
  | creating : process.stage thread = .creating →
      StepIs process thread ({ process with
        stores := (process.stores.alloc (SharedStore.mk FittedAdapterStoreState.new none)).2 }.goTo
          thread (.returning (.created process.stores.next)))
  | destroying {store : Nat} {stores : Heap SharedStore} :
      process.stage thread = .destroying store → process.stores.free store = some stores →
      StepIs process thread ({ process with stores := stores }.goTo thread (.returning .done))
  | move {stage : Stage} : process.Moves (process.stage thread) stage →
      StepIs process thread (process.goTo thread stage)
  | locking {guarded : Bool} {store : Nat} {call : FittedAdapterCall} {shared : SharedStore} :
      process.stage thread = .locking guarded store call →
      process.stores.get store = some shared → shared.lockedBy = none →
      StepIs process thread ((process.setStore store { shared with lockedBy := some thread }).goTo
        thread (.inside guarded store call))
  | inside {guarded : Bool} {store : Nat} {call : FittedAdapterCall} {shared : SharedStore} :
      process.stage thread = .inside guarded store call →
      process.stores.get store = some shared →
      StepIs process thread
        ({ process.setStore store { shared with state := (shared.state.step call).2 } with
          uses := process.uses ++ [StoreUse.mk thread store call (shared.state.step call).1] }.goTo
            thread (.unlocking guarded store (.store (shared.state.step call).1)))
  | unlocking {guarded : Bool} {store : Nat} {reply : HostReply} {shared : SharedStore} :
      process.stage thread = .unlocking guarded store reply →
      process.stores.get store = some shared →
      StepIs process thread ((process.setStore store { shared with lockedBy := none }).goTo thread
        (.leave guarded reply))
  | lockingSlot {use : SlotUse} :
      process.stage thread = .lockingSlot use → process.slotLockedBy = none →
      StepIs process thread ({ process with slotLockedBy := some thread }.goTo thread (.inSlot use))
  | attach {store : Option Nat} :
      process.stage thread = .inSlot (.attach store) →
      StepIs process thread ({ process with slot := store }.goTo thread (.unlockingSlot .done))
  | unlockingSlot {reply : HostReply} :
      process.stage thread = .unlockingSlot reply →
      StepIs process thread ({ process with slotLockedBy := none }.goTo thread (.returning reply))
  | returning {reply : HostReply} :
      process.stage thread = .returning reply →
      StepIs process thread (process.goTo thread .idle)

variable {process after : SharedProcess} {thread : ThreadId}

theorem withStore_eq_next {store : Nat} {body : SharedStore → Progress} :
    process.withStore store body = .next after ↔
      ∃ shared, process.stores.get store = some shared ∧ body shared = .next after := by
  unfold withStore
  cases process.stores.get store with
  | none => simp
  | some shared => simp

/-- A move to a stage that claims no more. -/
theorem moves_quiet {old new : Stage} (hbusy : old ≠ .idle)
    (hstays : ∀ reply, old ≠ .returning reply)
    (hdirect : new.direct = none ∨ new.direct = old.direct)
    (hborrowed : new.borrowed = none ∨ new.borrowed = old.borrowed)
    (hsame : new.holdsSlot = old.holdsSlot ∧ new.holdsStore = old.holdsStore ∧
      new.pendingAttach = old.pendingAttach) (hdestroys : new.destroys = none)
    (hreply : old.storeReply = none ∧ new.storeReply = none)
    (hserves : ∀ call, old.Serves call → new.Serves call) :
    process.Moves old new where
  busy := hbusy
  stays := hstays
  direct := hdirect
  borrowed store hstore := by
    rcases hborrowed with h | h
    · rw [h] at hstore
      cases hstore
    · exact .inl (h ▸ hstore)
  holdsSlot := hsame.1
  holdsStore := hsame.2.1
  pendingAttach := hsame.2.2
  destroys := hdestroys
  storeReply := hreply
  serves := hserves

theorem stepIs_of_step (h : process.step thread = .next after) : process.StepIs thread after := by
  unfold step at h
  split at h <;> rename_i hstage
  · cases h
  · cases h
    exact .creating hstage
  · split at h
    · cases h
    · next hfree =>
      cases h
      exact .destroying hstage hfree
  · obtain ⟨shared, hget, h⟩ := withStore_eq_next.mp h
    split at h <;> cases h
    · refine .move ?_
      rw [hstage]
      exact moves_quiet (by simp) (by simp) (.inl rfl) (.inl rfl)
        ⟨rfl, rfl, rfl⟩ rfl ⟨rfl, rfl⟩
        fun _ _ => trivial
    · next hparsed =>
      refine .move ?_
      rw [hstage]
      refine moves_quiet (by simp) (by simp) (.inr rfl) (.inl rfl)
        ⟨rfl, rfl, rfl⟩ rfl ⟨rfl, rfl⟩ ?_
      rintro call rfl
      exact ⟨rfl, hparsed⟩
  · next guarded store call =>
    obtain ⟨shared, hget, h⟩ := withStore_eq_next.mp h
    split at h <;> cases h
    · refine .move ?_
      rw [hstage]
      cases guarded <;>
        exact moves_quiet (by simp) (by simp) (.inl rfl) (.inl rfl)
          ⟨rfl, rfl, rfl⟩ rfl ⟨rfl, rfl⟩
          fun _ _ => trivial
    · refine .move ?_
      rw [hstage]
      exact moves_quiet (by simp) (by simp) (.inr rfl) (.inr rfl)
        ⟨rfl, rfl, rfl⟩ rfl ⟨rfl, rfl⟩
        fun _ => id
  · obtain ⟨shared, hget, h⟩ := withStore_eq_next.mp h
    split at h
    · cases h
    · next hfree =>
      cases h
      exact .locking hstage hget (by simpa using hfree)
  · obtain ⟨shared, hget, h⟩ := withStore_eq_next.mp h
    cases h
    exact .inside hstage hget
  · obtain ⟨shared, hget, h⟩ := withStore_eq_next.mp h
    cases h
    exact .unlocking hstage hget
  · split at h
    · cases h
    · next hfree =>
      cases h
      exact .lockingSlot hstage (by simpa using hfree)
  · cases h
    exact .attach hstage
  · split at h
    · cases h
      refine .move ?_
      rw [hstage]
      exact moves_quiet (by simp) (by simp) (.inl rfl) (.inl rfl)
        ⟨rfl, rfl, rfl⟩ rfl ⟨rfl, rfl⟩
        fun _ _ => trivial
    · next store hslot =>
      obtain ⟨shared, hget, h⟩ := withStore_eq_next.mp h
      split at h <;> cases h
      · refine .move ?_
        rw [hstage]
        exact moves_quiet (by simp) (by simp) (.inl rfl) (.inl rfl)
          ⟨rfl, rfl, rfl⟩ rfl ⟨rfl, rfl⟩
          fun _ _ => trivial
      -- The guard is held, so the store is the attached one.
      · refine .move ?_
        rw [hstage]
        refine ⟨by simp, by simp, .inl rfl, ?_, rfl, rfl, rfl, rfl, ⟨rfl, rfl⟩, ?_⟩
        · intro _ hstore
          cases hstore
          exact .inr ⟨rfl, hslot⟩
        · rintro call rfl
          exact ⟨_, rfl, rfl⟩
  · cases h
    exact .unlockingSlot hstage
  · cases h
    exact .returning hstage

end SharedProcess

end DagMlData
