import DagMlData.AttachedStore

/-!
# Every interleaving on a store that a provider borrows

* `attachedStore`: in every interleaving no thread touches a store that is gone, the threads never
  block one another for good, and the stores reply as if one call came after the other.

What the host knows holds in the process (`Known`), the locks belong to the threads that are inside
(`Held`), and a store is what the calls on it have made of it (`Replayed`).
-/

namespace DagMlData

open Guard

namespace SharedProcess

variable {process after : SharedProcess} {thread : ThreadId}

/-! ## The invariant -/

/-- What the host knows is so. -/
structure Known (process : SharedProcess) (ledger : HostLedger) : Prop where
  slot : ∀ store, process.slot = some store → store ∈ ledger.attached
  pending : ∀ thread store, (process.stage thread).pendingAttach = some store →
    ledger.attaching thread = store
  attaching : ∀ thread store, ledger.attaching thread = some store → store ∈ ledger.attached
  /-- Nothing attaches a store again that an attach call clears. -/
  clears : ∀ thread other store, store ∈ ledger.clears thread →
    ledger.attaching other ≠ some store
  cleared : ∀ thread store, store ∈ ledger.clears thread →
    (process.stage thread).pendingAttach = none → process.slot ≠ some store
  attached : ∀ store ∈ ledger.attached, process.Usable store
  direct : ∀ thread store, (process.stage thread).direct = some store → process.Usable store

/-- Who holds what. -/
structure Held (process : SharedProcess) : Prop where
  slot : ∀ thread, (process.stage thread).holdsSlot = true ↔ process.slotLockedBy = some thread
  store : ∀ thread store shared, process.stores.get store = some shared →
    ((process.stage thread).holdsStore = some store ↔ shared.lockedBy = some thread)
  borrowed : ∀ thread store, (process.stage thread).borrowed = some store →
    process.slot = some store
  destroys : ∀ thread store, (process.stage thread).destroys = some store →
    (process.stores.get store).isSome
  destroyer : ∀ thread other store, (process.stage thread).destroys = some store →
    (process.stage other).destroys = some store → thread = other
  fresh : ∀ store, process.stores.next ≤ store → process.stores.get store = none

@[simp] theorem goTo_stage (process : SharedProcess) (thread other : ThreadId) (stage : Stage) :
    (process.goTo thread stage).stage other =
      if other = thread then stage else process.stage other := Function.update_apply ..

@[simp] theorem goTo_stores (process : SharedProcess) (thread : ThreadId) (stage : Stage) :
    (process.goTo thread stage).stores = process.stores := rfl

@[simp] theorem goTo_slot (process : SharedProcess) (thread : ThreadId) (stage : Stage) :
    (process.goTo thread stage).slot = process.slot := rfl

@[simp] theorem goTo_slotLockedBy (process : SharedProcess) (thread : ThreadId) (stage : Stage) :
    (process.goTo thread stage).slotLockedBy = process.slotLockedBy := rfl

@[simp] theorem get_setStore (process : SharedProcess) (store other : Nat) (shared : SharedStore) :
    (process.setStore store shared).stores.get other =
      if other = store then some shared else process.stores.get other := Function.update_apply ..

@[simp] theorem setStore_next (process : SharedProcess) (store : Nat) (shared : SharedStore) :
    (process.setStore store shared).stores.next = process.stores.next := rfl

@[simp] theorem setStore_stage (process : SharedProcess) (store : Nat) (shared : SharedStore) :
    (process.setStore store shared).stage = process.stage := rfl

@[simp] theorem setStore_slot (process : SharedProcess) (store : Nat) (shared : SharedStore) :
    (process.setStore store shared).slot = process.slot := rfl

@[simp] theorem setStore_slotLockedBy (process : SharedProcess) (store : Nat)
    (shared : SharedStore) : (process.setStore store shared).slotLockedBy = process.slotLockedBy :=
  rfl

theorem holdsSlot_of_borrowed {stage : Stage} {store : Nat} (h : stage.borrowed = some store) :
    stage.holdsSlot = true := by
  unfold Stage.borrowed at h
  split at h
  all_goals first
    | cases h
    | next guarded _ _ => cases guarded <;> first | rfl | cases h

theorem uses_of_holdsStore {stage : Stage} {store : Nat} (h : stage.holdsStore = some store) :
    stage.direct = some store ∨ stage.borrowed = some store := by
  unfold Stage.holdsStore at h
  split at h
  · next guarded _ _ => cases guarded <;> simpa [Stage.direct, Stage.borrowed] using h
  · next guarded _ _ => cases guarded <;> simpa [Stage.direct, Stage.borrowed] using h
  · cases h

/-- A store stays usable while nothing begins to destroy it. -/
theorem Usable.moved {store : Nat} (h : process.Usable store) {stage : Stage}
    (hstores : (after.stores.get store).isSome)
    (hstage : ∀ other, after.stage other = if other = thread then stage else process.stage other)
    (hdestroys : stage.destroys ≠ some store) : after.Usable store := by
  refine ⟨hstores, fun other => ?_⟩
  rw [hstage]
  split
  · exact hdestroys
  · exact h.2 other

/-- A thread goes to another stage, and the slot stays as it is. -/
theorem known_moved {ledger : HostLedger} (h : process.Known ledger) {stage : Stage}
    (hslot : after.slot = process.slot)
    (hstores : ∀ store, process.Usable store → (after.stores.get store).isSome)
    (hstage : ∀ other, after.stage other = if other = thread then stage else process.stage other)
    (hpending : stage.pendingAttach = (process.stage thread).pendingAttach)
    (hdestroys : ∀ store, stage.destroys = some store → store ∉ ledger.attached ∧
      ∀ other, other ≠ thread → (process.stage other).direct ≠ some store)
    (hdirect : ∀ store, stage.direct = some store →
      process.Usable store ∧ stage.destroys ≠ some store) : after.Known ledger where
  slot store hstore := h.slot store (hslot ▸ hstore)
  pending other store hother := by
    rw [hstage] at hother
    split at hother
    · next heq => exact h.pending other store (by rw [heq, ← hpending]; exact hother)
    · exact h.pending other store hother
  attaching := h.attaching
  clears := h.clears
  cleared other store hother hnone := by
    rw [hstage] at hnone
    rw [hslot]
    split at hnone
    · next heq => exact h.cleared other store hother (by rw [heq, ← hpending]; exact hnone)
    · exact h.cleared other store hother hnone
  attached store hstore :=
    have husable := h.attached store hstore
    husable.moved (hstores store husable) hstage fun hgone => (hdestroys store hgone).1 hstore
  direct other store hother := by
    rw [hstage] at hother
    split at hother
    · obtain ⟨husable, hnot⟩ := hdirect store hother
      exact husable.moved (hstores store husable) hstage hnot
    · next hne =>
      have husable := h.direct other store hother
      exact husable.moved (hstores store husable) hstage fun hgone =>
        (hdestroys store hgone).2 other hne hother

theorem known_beginAttach {ledger : HostLedger} (h : process.Known ledger) (thread : ThreadId)
    (store : Option Nat)
    (husable : ∀ a, store = some a → process.Usable a) :
    (process.goTo thread (.lockingSlot (.attach store))).Known
      (ledger.beginAttach thread store) := by
  have hstays : ∀ a, process.Usable a →
      (process.goTo thread (.lockingSlot (.attach store))).Usable a :=
    fun a ha => ha.moved ha.1 (goTo_stage process thread · _) nofun
  constructor
  all_goals simp only [goTo_stage, goTo_slot, HostLedger.beginAttach, Set.mem_union,
    Set.mem_ofPred_eq]
  · exact fun a ha => .inl (h.slot a ha)
  · intro other a ha
    rw [Function.update_apply]
    split at ha
    · next hother =>
      rw [if_pos hother]
      exact Option.some.inj ha
    · next hother =>
      rw [if_neg hother]
      exact h.pending other a ha
  · intro other a ha
    rw [Function.update_apply] at ha
    split at ha
    · exact .inr ha
    · exact .inl (h.attaching other a ha)
  · intro other third a ha hthird
    rw [Function.update_apply] at ha hthird
    split at ha <;> split at hthird
    · exact ha.2.1 hthird
    · exact ha.2.2 third hthird
    · exact ha.2 hthird
    · exact h.clears other third a ha.1 hthird
  · intro other a ha hnone
    rw [Function.update_apply] at ha
    split at ha
    · next hother =>
      rw [if_pos hother] at hnone
      cases hnone
    · next hother =>
      rw [if_neg hother] at hnone
      exact h.cleared other a ha.1 hnone
  · rintro a (ha | ha)
    · exact hstays a (h.attached a ha)
    · exact hstays a (husable a ha)
  · intro other a ha
    split at ha
    · cases ha
    · exact hstays a (h.direct other a ha)

theorem known_begin {ledger : HostLedger} (h : process.Known ledger) (thread : ThreadId)
    (call : HostCall) (hidle : process.stage thread = .idle)
    (hpermits : process.Permits ledger call) :
    (process.goTo thread call.start).Known
      (ledger.begin thread call process.uses.length) := by
  let begun : HostLedger := { ledger with
    calls := Function.update ledger.calls thread (some call)
    since := Function.update ledger.since thread process.uses.length }
  have hbegun : process.Known begun :=
    ⟨h.slot, h.pending, h.attaching, h.clears, h.cleared, h.attached, h.direct⟩
  by_cases hattach : ∃ store, call = .attach store
  · obtain ⟨store, rfl⟩ := hattach
    refine known_beginAttach hbegun thread store fun a ha => ?_
    subst ha
    exact hpermits
  have hledger : ledger.begin thread call process.uses.length = begun := by
    unfold HostLedger.begin
    split
    · next store => exact absurd ⟨store, rfl⟩ hattach
    · rfl
  have hpending : call.start.pendingAttach = (process.stage thread).pendingAttach := by
    rw [hidle]
    unfold HostCall.start
    split
    case h_6 store => exact absurd ⟨store, rfl⟩ hattach
    all_goals rfl
  rw [hledger]
  refine known_moved hbegun rfl (fun _ h => h.1) (goTo_stage process thread · _) hpending
    (fun a ha => ?_) fun a ha => ?_
  -- A call that destroys a store is permitted only when nothing is in the way.
  · unfold HostCall.start at ha
    split at ha <;> cases ha
    exact ⟨hpermits.2.1, fun other _ => hpermits.2.2 other⟩
  · unfold HostCall.start at ha ⊢
    split at ha <;> cases ha
    exact ⟨hpermits, nofun⟩

/-- The attach call of a thread writes the slot. -/
theorem known_attach {ledger : HostLedger} (h : process.Known ledger) {store : Option Nat}
    (hstage : process.stage thread = .inSlot (.attach store)) :
    ({ process with slot := store }.goTo thread (.unlockingSlot .done)).Known ledger := by
  have hattaching : ledger.attaching thread = store := h.pending thread store (by rw [hstage]; rfl)
  have hstays : ∀ a, process.Usable a →
      ({ process with slot := store }.goTo thread (.unlockingSlot .done)).Usable a :=
    fun a ha => ha.moved ha.1 (goTo_stage _ thread · _) nofun
  refine ⟨fun a ha => h.attaching thread a (hattaching.trans ha),
    fun other a ha => ?_, h.attaching,
    h.clears, fun other a ha _ hslot => h.clears other thread a ha (hattaching.trans hslot),
    fun a ha => hstays a (h.attached a ha), fun other a ha => ?_⟩
  all_goals
    rw [goTo_stage] at ha
    split at ha
  · cases ha
  · exact h.pending other a ha
  · cases ha
  · exact hstays a (h.direct other a ha)

/-- The call of a thread returns. -/
theorem known_finish {ledger : HostLedger} (h : process.Known ledger) {reply : HostReply}
    (hstage : process.stage thread = .returning reply) :
    (process.goTo thread .idle).Known (ledger.finish thread) := by
  have hnone : (process.stage thread).pendingAttach = none := by rw [hstage]; rfl
  have hstays : ∀ a, process.Usable a → (process.goTo thread .idle).Usable a :=
    fun a ha => ha.moved ha.1 (goTo_stage process thread · _) nofun
  constructor
  all_goals simp only [goTo_stage, goTo_slot, HostLedger.finish, Set.mem_sdiff]
  · exact fun a ha => ⟨h.slot a ha, fun hclears => h.cleared thread a hclears hnone ha⟩
  · intro other a ha
    rw [Function.update_apply]
    split at ha
    · cases ha
    · next hother =>
      rw [if_neg hother]
      exact h.pending other a ha
  · intro other a ha
    rw [Function.update_apply] at ha
    split at ha
    · cases ha
    · exact ⟨h.attaching other a ha, fun hclears => h.clears thread other a hclears ha⟩
  · intro other third a ha hthird
    rw [Function.update_apply] at ha hthird
    split at ha
    · cases ha
    · split at hthird
      · cases hthird
      · exact h.clears other third a ha hthird
  · intro other a ha hpending
    rw [Function.update_apply] at ha
    split at ha
    · cases ha
    · next hother =>
      rw [if_neg hother] at hpending
      exact h.cleared other a ha hpending
  · exact fun a ha => hstays a (h.attached a ha.1)
  · intro other a ha
    split at ha
    · cases ha
    · exact hstays a (h.direct other a ha)

theorem known_step {ledger : HostLedger} (h : process.Known ledger)
    (hstep : process.StepIs thread after) :
    after.Known (ledger.observe thread (process.stage thread)) := by
  cases hstep with
  | creating hstage =>
    rw [hstage]
    refine known_moved h rfl (fun a ha => ?_) (goTo_stage _ thread · _) (by rw [hstage]; rfl)
      (fun _ h => by cases h) fun _ h => by cases h
    rw [goTo_stores, Heap.get_alloc]
    split
    · rfl
    · exact ha.1
  | @destroying store stores hstage hfree =>
    rw [hstage]
    refine known_moved h rfl (fun a ha => ?_) (goTo_stage _ thread · _) (by rw [hstage]; rfl)
      (fun _ h => by cases h) fun _ h => by cases h
    -- The store that goes is the one that this thread destroys, so nobody may use it.
    obtain ⟨-, -, hget⟩ := Heap.free_eq_some hfree
    rw [goTo_stores, hget, if_neg]
    · exact ha.1
    · rintro rfl
      exact ha.2 thread (by rw [hstage]; rfl)
  -- A move changes the stage of the thread and nothing else.
  | @move stage hmoves =>
    rw [hmoves.observe]
    refine known_moved h rfl (fun _ h => h.1) (goTo_stage process thread · _) hmoves.pendingAttach
      (fun a ha => ?_) fun a ha => ?_
    · rw [hmoves.destroys] at ha
      cases ha
    · refine ⟨?_, by rw [hmoves.destroys]; exact nofun⟩
      rcases hmoves.direct with hdirect | hdirect
      · rw [hdirect] at ha
        cases ha
      · exact h.direct thread a (hdirect ▸ ha)
  -- Storing the lock keeps every store where it is.
  | locking hstage hget hfree =>
    rw [hstage]
    refine known_moved h rfl (fun a ha => ?_) (goTo_stage _ thread · _) (by rw [hstage]; rfl)
      (fun _ h => by cases h) fun a ha => ⟨h.direct thread a (by rw [hstage]; exact ha), nofun⟩
    rw [goTo_stores, get_setStore]
    split
    · rfl
    · exact ha.1
  | inside hstage hget =>
    rw [hstage]
    refine known_moved h rfl (fun a ha => ?_) (goTo_stage _ thread · _) (by rw [hstage]; rfl)
      (fun _ h => by cases h) fun a ha => ⟨h.direct thread a (by rw [hstage]; exact ha), nofun⟩
    show ((process.setStore _ _).stores.get a).isSome = true
    rw [get_setStore]
    split
    · rfl
    · exact ha.1
  | @unlocking guarded _ _ _ hstage hget =>
    rw [hstage]
    refine known_moved h rfl (fun a ha => ?_) (goTo_stage _ thread · _)
      (by rw [hstage]; cases guarded <;> rfl)
      (fun _ h => by cases guarded <;> cases h) fun _ h => by cases guarded <;> cases h
    rw [goTo_stores, get_setStore]
    split
    · rfl
    · exact ha.1
  | @lockingSlot use hstage hfree =>
    rw [hstage]
    exact known_moved h rfl (fun _ h => h.1) (goTo_stage _ thread · _)
      (by rw [hstage]; cases use <;> rfl) (fun _ h => by cases h) fun _ h => by cases h
  | attach hstage =>
    rw [hstage]
    exact known_attach h hstage
  | unlockingSlot hstage =>
    rw [hstage]
    exact known_moved h rfl (fun _ h => h.1) (goTo_stage _ thread · _) (by rw [hstage]; rfl)
      (fun _ h => by cases h) fun _ h => by cases h
  | returning hstage =>
    rw [hstage]
    exact known_finish h hstage

theorem held_begin {ledger : HostLedger} (h : process.Held) (thread : ThreadId)
    (call : HostCall) (hidle : process.stage thread = .idle)
    (hpermits : process.Permits ledger call) :
    (process.goTo thread call.start).Held := by
  obtain ⟨hslot, hstore, hborrowed, hdestroys, hdestroyer, hfresh⟩ := h
  have hidleSlot : process.slotLockedBy ≠ some thread := by
    rw [ne_eq, ← hslot, hidle]
    exact Bool.false_ne_true
  have hidleStore : ∀ store shared, process.stores.get store = some shared →
      shared.lockedBy ≠ some thread := by
    intro store shared hget
    rw [ne_eq, ← hstore thread store shared hget, hidle]
    exact nofun
  have hholdsSlot : call.start.holdsSlot = false := by
    unfold HostCall.start
    split <;> rfl
  have hholdsStore : call.start.holdsStore = none := by
    unfold HostCall.start
    split <;> rfl
  have hborrows : call.start.borrowed = none := by
    unfold HostCall.start
    split <;> rfl
  have hgone : ∀ store, call.start.destroys = some store → process.Usable store := by
    intro store hdestroy
    unfold HostCall.start at hdestroy
    split at hdestroy <;> cases hdestroy
    exact hpermits.1
  constructor
  all_goals simp only [goTo_stage, goTo_stores, goTo_slot, goTo_slotLockedBy]
  · grind
  · grind
  · grind
  · grind [Usable]
  · grind [Usable]
  · exact hfresh

theorem held_step {ledger : HostLedger} (h : process.Held) (hknown : process.Known ledger)
    (hstep : process.StepIs thread after) : after.Held := by
  obtain ⟨hslot, hstore, hborrowed, hdestroys, hdestroyer, hfresh⟩ := h
  -- What a thread uses is there, and is not the store that a thread destroys or that is new.
  have hborrowedUsable : ∀ other a, (process.stage other).borrowed = some a →
      process.Usable a :=
    fun other a hother => hknown.attached a (hknown.slot a (hborrowed other a hother))
  have hlive : ∀ other a, (process.stage other).holdsStore = some a → process.Usable a :=
    fun other a hother => (uses_of_holdsStore hother).elim (hknown.direct other a)
      (hborrowedUsable other a)
  -- Only one thread holds the slot.
  have hholder : ∀ other a, (process.stage other).borrowed = some a →
      process.slotLockedBy = some other :=
    fun other a hother => (hslot other).mp (holdsSlot_of_borrowed hother)
  cases hstep with
  | creating hstage =>
    constructor
    all_goals simp only [goTo_stage, goTo_stores, goTo_slot, goTo_slotLockedBy, Heap.get_alloc]
    all_goals grind [Stage.holdsSlot, Stage.holdsStore, Stage.borrowed, Stage.destroys, Usable,
      Heap.alloc]
  | @destroying store stores hstage hfree =>
    obtain ⟨hthere, hnext, hget⟩ := Heap.free_eq_some hfree
    constructor
    all_goals simp only [goTo_stage, goTo_stores, goTo_slot, goTo_slotLockedBy, hget, hnext]
    all_goals grind [Stage.holdsSlot, Stage.holdsStore, Stage.borrowed, Stage.destroys]
  | @move stage hmoves =>
    obtain ⟨-, -, -, hborrow, hholdsSlot, hholdsStore, -, hnone, -, -⟩ := hmoves
    constructor
    all_goals simp only [goTo_stage, goTo_stores, goTo_slot, goTo_slotLockedBy]
    all_goals grind
  | @locking guarded store call shared hstage hget hfree =>
    constructor
    all_goals simp only [goTo_stage, goTo_stores, goTo_slot, goTo_slotLockedBy, get_setStore,
      setStore_next, setStore_stage, setStore_slot, setStore_slotLockedBy]
    all_goals grind [Stage.holdsSlot, Stage.holdsStore, Stage.borrowed, Stage.destroys]
  | @inside guarded store call shared hstage hget =>
    constructor
    all_goals simp only [goTo_stage, goTo_stores, goTo_slot, goTo_slotLockedBy, get_setStore,
      setStore_next, setStore_stage, setStore_slot, setStore_slotLockedBy]
    all_goals grind [Stage.holdsSlot, Stage.holdsStore, Stage.borrowed, Stage.destroys]
  | @unlocking guarded store reply shared hstage hget =>
    constructor
    all_goals simp only [goTo_stage, goTo_stores, goTo_slot, goTo_slotLockedBy, get_setStore,
      setStore_next, setStore_stage, setStore_slot, setStore_slotLockedBy]
    all_goals grind [Stage.holdsSlot, Stage.holdsStore, Stage.borrowed, Stage.destroys, Stage.leave]
  | lockingSlot hstage hfree =>
    constructor
    all_goals simp only [goTo_stage, goTo_stores, goTo_slot, goTo_slotLockedBy]
    all_goals grind [Stage.holdsSlot, Stage.holdsStore, Stage.borrowed, Stage.destroys]
  | attach hstage =>
    constructor
    all_goals simp only [goTo_stage, goTo_stores, goTo_slot, goTo_slotLockedBy]
    all_goals grind [Stage.holdsSlot, Stage.holdsStore, Stage.borrowed, Stage.destroys]
  | unlockingSlot hstage =>
    constructor
    all_goals simp only [goTo_stage, goTo_stores, goTo_slot, goTo_slotLockedBy]
    all_goals grind [Stage.holdsSlot, Stage.holdsStore, Stage.borrowed, Stage.destroys]
  | returning hstage =>
    constructor
    all_goals simp only [goTo_stage, goTo_stores, goTo_slot, goTo_slotLockedBy]
    all_goals grind [Stage.holdsSlot, Stage.holdsStore, Stage.borrowed, Stage.destroys]

/-! ## No thread touches a store that is gone -/

theorem withStore_ne_fault {store : Nat} {body : SharedStore → Progress}
    (hthere : (process.stores.get store).isSome) (hbody : ∀ shared, body shared ≠ .fault) :
    process.withStore store body ≠ .fault := by
  obtain ⟨shared, hget⟩ := Option.isSome_iff_exists.mp hthere
  unfold withStore
  rw [hget]
  exact hbody shared

/-- The stores that threads use are there. -/
theorem there_of_stage {ledger : HostLedger} (h : process.Known ledger) (hheld : process.Held)
    {store : Nat} (huses : (process.stage thread).direct = some store ∨
      (process.stage thread).borrowed = some store) : (process.stores.get store).isSome := by
  rcases huses with hdirect | hborrowed
  · exact (h.direct thread store hdirect).1
  · exact (h.attached store (h.slot store (hheld.borrowed thread store hborrowed))).1

theorem Progress.blocked_ne_fault : Progress.blocked ≠ .fault := by
  intro h
  cases h

theorem Progress.next_ne_fault (after : SharedProcess) : Progress.next after ≠ .fault := by
  intro h
  cases h

theorem step_ne_fault {ledger : HostLedger} (h : process.Known ledger) (hheld : process.Held)
    (thread : ThreadId) : process.step thread ≠ .fault := by
  have hthere := @there_of_stage process thread ledger h hheld
  unfold step
  split <;> rename_i hstage
  · exact Progress.blocked_ne_fault
  · exact Progress.next_ne_fault _
  -- A store is destroyed once, by one thread.
  · next store =>
    have hlive := hheld.destroys thread store (by rw [hstage]; rfl)
    rw [Heap.free, if_pos hlive]
    exact Progress.next_ne_fault _
  -- A direct call finds its store.
  · refine withStore_ne_fault (hthere (.inl (by rw [hstage]; rfl))) fun shared => ?_
    split
    · exact Progress.next_ne_fault _
    · exact Progress.next_ne_fault _
  · next guarded store call =>
    refine withStore_ne_fault (hthere ?_) fun shared => ?_
    · rw [hstage]
      cases guarded
      · exact .inl rfl
      · exact .inr rfl
    · split
      · exact Progress.next_ne_fault _
      · exact Progress.next_ne_fault _
  · next guarded store call =>
    refine withStore_ne_fault (hthere ?_) fun shared => ?_
    · rw [hstage]
      cases guarded
      · exact .inl rfl
      · exact .inr rfl
    · split
      · exact Progress.blocked_ne_fault
      · exact Progress.next_ne_fault _
  -- Who holds the lock of a store uses the store.
  · refine withStore_ne_fault (hthere ?_) fun _ => Progress.next_ne_fault _
    exact uses_of_holdsStore (by rw [hstage]; rfl)
  · refine withStore_ne_fault (hthere ?_) fun _ => Progress.next_ne_fault _
    exact uses_of_holdsStore (by rw [hstage]; rfl)
  · split
    · exact Progress.blocked_ne_fault
    · exact Progress.next_ne_fault _
  · exact Progress.next_ne_fault _
  · split
    · exact Progress.next_ne_fault _
    -- The store in the slot is attached, and the host keeps attached stores.
    · next store hslot =>
      refine withStore_ne_fault (h.attached store (h.slot store hslot)).1 fun shared => ?_
      split
      · exact Progress.next_ne_fault _
      · exact Progress.next_ne_fault _
  · exact Progress.next_ne_fault _
  · exact Progress.next_ne_fault _

/-! ## The threads never block one another for good -/

theorem withStore_eq_blocked {store : Nat} {body : SharedStore → Progress} :
    process.withStore store body = .blocked ↔
      ∃ shared, process.stores.get store = some shared ∧ body shared = .blocked := by
  unfold withStore
  cases process.stores.get store with
  | none => simp
  | some shared => simp

/-- A thread that cannot go on is idle, or another one holds the lock that it is after. -/
theorem of_blocked (h : process.step thread = .blocked) :
    process.stage thread = .idle ∨
      (∃ guarded store call shared other, process.stage thread = .locking guarded store call ∧
        process.stores.get store = some shared ∧ shared.lockedBy = some other) ∨
      ∃ use other, process.stage thread = .lockingSlot use ∧
        process.slotLockedBy = some other := by
  unfold step at h
  split at h <;> rename_i hstage
  · exact .inl hstage
  · cases h
  · split at h <;> cases h
  · obtain ⟨shared, hget, h⟩ := withStore_eq_blocked.mp h
    split at h <;> cases h
  · obtain ⟨shared, hget, h⟩ := withStore_eq_blocked.mp h
    split at h <;> cases h
  · next guarded store call =>
    obtain ⟨shared, hget, h⟩ := withStore_eq_blocked.mp h
    split at h
    · next hlocked =>
      obtain ⟨other, hother⟩ := Option.isSome_iff_exists.mp hlocked
      exact .inr (.inl ⟨guarded, store, call, shared, other, hstage, hget, hother⟩)
    · cases h
  · obtain ⟨shared, hget, h⟩ := withStore_eq_blocked.mp h
    cases h
  · obtain ⟨shared, hget, h⟩ := withStore_eq_blocked.mp h
    cases h
  · next use =>
    split at h
    · next hlocked =>
      obtain ⟨other, hother⟩ := Option.isSome_iff_exists.mp hlocked
      exact .inr (.inr ⟨use, other, hstage, hother⟩)
    · cases h
  · cases h
  · split at h
    · cases h
    · obtain ⟨shared, hget, h⟩ := withStore_eq_blocked.mp h
      split at h <;> cases h
  · cases h
  · cases h

section Progress
variable {ledger : HostLedger} (h : process.Known ledger) (hheld : process.Held)
include h hheld

theorem next_of_not_blocked (hblocked : process.step thread ≠ .blocked) :
    ∃ after, process.step thread = .next after := by
  cases hstep : process.step thread with
  | fault => exact absurd hstep (step_ne_fault h hheld thread)
  | blocked => exact absurd hstep hblocked
  | next after => exact ⟨after, rfl⟩

/-- Who holds the lock of a store can go on. -/
theorem next_of_holdsStore {store : Nat} (hholds : (process.stage thread).holdsStore = some store) :
    ∃ after, process.step thread = .next after := by
  refine next_of_not_blocked h hheld fun hblocked => ?_
  rcases of_blocked hblocked with hstage | ⟨_, _, _, _, _, hstage, -⟩ | ⟨_, _, hstage, -⟩
  all_goals
    rw [hstage] at hholds
    cases hholds

/-- Who holds the lock of the provider can go on, or waits for one who can. -/
theorem next_of_holdsSlot (hholds : (process.stage thread).holdsSlot = true) :
    ∃ other after, process.step other = .next after := by
  by_cases hblocked : process.step thread = .blocked
  · rcases of_blocked hblocked with hstage | ⟨_, store, _, shared, other, -, hget, hother⟩ |
      ⟨_, _, hstage, -⟩
    · rw [hstage] at hholds
      cases hholds
    · exact ⟨other, next_of_holdsStore h hheld
        ((hheld.store other store shared hget).mpr hother)⟩
    · rw [hstage] at hholds
      cases hholds
  · exact ⟨thread, next_of_not_blocked h hheld hblocked⟩

/-- While a call is under way, some thread can go on: the lock of the provider is taken before that
of a store. -/
theorem exists_next (hbusy : process.stage thread ≠ .idle) :
    ∃ other after, process.step other = .next after := by
  by_cases hblocked : process.step thread = .blocked
  · rcases of_blocked hblocked with hstage | ⟨_, store, _, shared, other, -, hget, hother⟩ |
      ⟨_, other, -, hother⟩
    · exact absurd hstage hbusy
    · exact ⟨other, next_of_holdsStore h hheld
        ((hheld.store other store shared hget).mpr hother)⟩
    · exact next_of_holdsSlot h hheld ((hheld.slot other).mpr hother)
  · exact ⟨thread, next_of_not_blocked h hheld hblocked⟩

end Progress

/-! ## The uses of a store -/

/-- The calls on a store. -/
def callsOn (uses : List StoreUse) (store : Nat) : List FittedAdapterCall :=
  (uses.filter (·.store = store)).map (·.call)

theorem callsOn_concat (uses : List StoreUse) (use : StoreUse) (store : Nat) :
    callsOn (uses ++ [use]) store =
      callsOn uses store ++ if use.store = store then [use.call] else [] := by
  unfold callsOn
  rw [List.filter_append, List.map_append]
  by_cases hstore : use.store = store
  · simp [hstore]
  · simp [hstore]

/-- A reply is that of the store after the calls before. -/
def Sequential (uses : List StoreUse) : Prop :=
  ∀ before use since, uses = before ++ use :: since →
    ((FittedAdapterStoreState.new.run (callsOn before use.store)).step use.call).1 = use.reply

theorem Sequential.concat {uses : List StoreUse} (h : Sequential uses) {use : StoreUse}
    (huse : ((FittedAdapterStoreState.new.run (callsOn uses use.store)).step use.call).1 =
      use.reply) : Sequential (uses ++ [use]) := by
  intro before middle since hsplit
  rcases List.eq_nil_or_concat since with rfl | ⟨init, last, rfl⟩
  · obtain ⟨rfl, hlast⟩ := List.append_inj' hsplit rfl
    cases hlast
    exact huse
  · rw [List.concat_eq_append, ← List.cons_append, ← List.append_assoc] at hsplit
    exact h before middle init (List.append_inj' hsplit rfl).1

/-- The stores are what the calls on them have made of them. -/
structure Replayed (process : SharedProcess) : Prop where
  sequential : Sequential process.uses
  state : ∀ store shared, process.stores.get store = some shared →
    shared.state = FittedAdapterStoreState.new.run (callsOn process.uses store)
  fresh : ∀ store, process.stores.next ≤ store → callsOn process.uses store = []

theorem replayed_step (h : process.Replayed) (hheld : process.Held)
    (hstep : process.StepIs thread after) : after.Replayed := by
  cases hstep with
  | creating hstage =>
    refine ⟨h.sequential, fun store shared hget => ?_, fun store hnext => ?_⟩
    · rw [goTo_stores, Heap.get_alloc] at hget
      split at hget
      -- No call was ever made on the new store.
      · next heq =>
        cases hget
        show _ = FittedAdapterStoreState.new.run (callsOn process.uses store)
        rw [h.fresh store heq.ge]
        rfl
      · exact h.state store shared hget
    · exact h.fresh store ((Nat.le_succ _).trans hnext)
  | destroying hstage hfree =>
    obtain ⟨-, hnext, hget'⟩ := Heap.free_eq_some hfree
    refine ⟨h.sequential, fun store shared hget => ?_, fun store hle => ?_⟩
    · rw [goTo_stores, hget'] at hget
      split at hget
      · cases hget
      · exact h.state store shared hget
    · exact h.fresh store (hnext ▸ hle)
  | move => exact ⟨h.sequential, h.state, h.fresh⟩
  | locking hstage hget hfree =>
    refine ⟨h.sequential, fun store shared hthere => ?_, h.fresh⟩
    rw [goTo_stores, get_setStore] at hthere
    split at hthere
    · next heq =>
      subst heq
      cases hthere
      have hstate := h.state _ _ hget
      exact hstate
    · exact h.state store shared hthere
  | @inside guarded store call shared hstage hget =>
    have hstate := h.state store shared hget
    -- The call takes effect here, as the last one in the order of the uses.
    refine ⟨h.sequential.concat (by rw [← hstate]), fun other shared' hthere => ?_,
      fun other hnext => ?_⟩
    · show shared'.state = FittedAdapterStoreState.new.run (callsOn (process.uses ++ _) other)
      rw [callsOn_concat]
      rw [goTo_stores] at hthere
      replace hthere : (process.setStore store _).stores.get other = some shared' := hthere
      rw [get_setStore] at hthere
      split at hthere
      · next heq =>
        subst heq
        cases hthere
        rw [if_pos rfl, FittedAdapterStoreState.run, Machine.run_append]
        show (shared.state.step call).2 = _
        rw [hstate]
        rfl
      · next hne =>
        rw [if_neg (Ne.symm hne), List.append_nil]
        exact h.state other shared' hthere
    · show callsOn (process.uses ++ _) other = []
      rw [callsOn_concat, h.fresh other hnext, if_neg]
      · rfl
      · rintro rfl
        rw [hheld.fresh _ hnext] at hget
        cases hget
  | unlocking hstage hget =>
    refine ⟨h.sequential, fun store shared hthere => ?_, h.fresh⟩
    rw [goTo_stores, get_setStore] at hthere
    split at hthere
    · next heq =>
      subst heq
      cases hthere
      have hstate := h.state _ _ hget
      exact hstate
    · exact h.state store shared hthere
  | lockingSlot => exact ⟨h.sequential, h.state, h.fresh⟩
  | attach => exact ⟨h.sequential, h.state, h.fresh⟩
  | unlockingSlot => exact ⟨h.sequential, h.state, h.fresh⟩
  | returning => exact ⟨h.sequential, h.state, h.fresh⟩

/-! ## What the threads reply -/

/-- What a thread has done to the stores since its call began. -/
def usesInCall (process : SharedProcess) (ledger : HostLedger) (thread : ThreadId) :
    List StoreUse :=
  (process.uses.drop (ledger.since thread)).filter (·.thread = thread)

theorem usesInCall_append {ledger : HostLedger} {other : ThreadId}
    (hsince : ledger.since other ≤ process.uses.length) {uses : List StoreUse}
    (huses : after.uses = process.uses ++ uses) :
    after.usesInCall ledger other =
      process.usesInCall ledger other ++ uses.filter (·.thread = other) := by
  unfold usesInCall
  rw [huses, List.drop_append_of_le_length hsince, List.filter_append]

/-- What a call has to do with the uses in it, by what a store has replied: it has used no store
yet, or one store once, with what it asks for, and has the reply to that. -/
def Accounts (call : HostCall) (uses : List StoreUse) : Option FittedAdapterReply → Prop
  | none => uses = []
  | some reply => ∃ use, uses = [use] ∧ call.Asks use.store use.call ∧ use.reply = reply

/-- A thread is at a stage of its call, which accounts for its uses. -/
structure Served (process : SharedProcess) (ledger : HostLedger) : Prop where
  since : ∀ thread, ledger.since thread ≤ process.uses.length
  busy : ∀ thread, process.stage thread ≠ .idle →
    ∃ call, ledger.calls thread = some call ∧
    (process.stage thread).Serves call ∧
    Accounts call (process.usesInCall ledger thread) (process.stage thread).storeReply

theorem served_begin {ledger : HostLedger} (h : process.Served ledger) (thread : ThreadId)
    (call : HostCall) :
    (process.goTo thread call.start).Served (ledger.begin thread call process.uses.length) := by
  have hledger : (ledger.begin thread call process.uses.length).calls =
        Function.update ledger.calls thread (some call) ∧
      (ledger.begin thread call process.uses.length).since =
        Function.update ledger.since thread process.uses.length := by
    unfold HostLedger.begin
    split <;> exact ⟨rfl, rfl⟩
  obtain ⟨hcalls, hsince⟩ := hledger
  refine ⟨fun other => ?_, fun other hbusy => ?_⟩
  · rw [hsince, Function.update_apply]
    split
    · exact le_rfl
    · exact h.since other
  unfold usesInCall
  rw [hcalls, hsince, Function.update_apply, Function.update_apply]
  rw [goTo_stage] at hbusy ⊢
  split
  -- The uses before the call are not counted.
  · have hreply : call.start.storeReply = none := by
      unfold HostCall.start
      split <;> rfl
    refine ⟨call, rfl, ?_, ?_⟩
    · unfold HostCall.start
      split <;> first | rfl | trivial
    · rw [hreply]
      show List.filter _ (process.uses.drop process.uses.length) = []
      rw [List.drop_length]
      rfl
  · next hother =>
    rw [if_neg hother] at hbusy
    exact h.busy other hbusy

/-- A thread goes on and uses the stores in this way, and the other threads do nothing. -/
theorem served_moved {ledger after' : HostLedger} (h : process.Served ledger) {stage : Stage}
    {uses : List StoreUse}
    (hstage : ∀ other, after.stage other = if other = thread then stage else process.stage other)
    (hcalls : ∀ other, other ≠ thread → after'.calls other = ledger.calls other)
    (hsince : after'.since = ledger.since)
    (huses : after.uses = process.uses ++ uses) (hown : ∀ use ∈ uses, use.thread = thread)
    (hself : stage ≠ .idle → ∃ call, after'.calls thread = some call ∧ stage.Serves call ∧
      Accounts call (process.usesInCall ledger thread ++ uses) stage.storeReply) :
    after.Served after' := by
  have hcall : ∀ other, after.usesInCall after' other =
      process.usesInCall ledger other ++ uses.filter (·.thread = other) := by
    intro other
    unfold usesInCall
    rw [hsince]
    exact usesInCall_append (h.since other) huses
  refine ⟨fun other => ?_, fun other hbusy => ?_⟩
  · rw [hsince, huses, List.length_append]
    exact (h.since other).trans (Nat.le_add_right _ _)
  rw [hcall]
  rw [hstage] at hbusy ⊢
  by_cases hother : other = thread
  · subst hother
    rw [if_pos rfl] at hbusy ⊢
    rw [List.filter_eq_self.mpr fun use huse => decide_eq_true (hown use huse)]
    exact hself hbusy
  · rw [if_neg hother] at hbusy ⊢
    rw [List.filter_eq_nil_iff.mpr fun use huse heq =>
      hother ((of_decide_eq_true heq).symm.trans (hown use huse)), List.append_nil,
        hcalls other hother]
    exact h.busy other hbusy

/-- A thread goes on without a use. -/
theorem served_quiet {ledger after' : HostLedger} (h : process.Served ledger) {stage : Stage}
    (hstage : ∀ other, after.stage other = if other = thread then stage else process.stage other)
    (hcalls : ∀ other, other ≠ thread → after'.calls other = ledger.calls other)
    (hsince : after'.since = ledger.since) (huses : after.uses = process.uses)
    (hself : stage ≠ .idle → ∃ call, after'.calls thread = some call ∧ stage.Serves call ∧
      Accounts call (process.usesInCall ledger thread) stage.storeReply) :
    after.Served after' := by
  have hnone : after.uses = process.uses ++ [] := huses.trans (List.append_nil _).symm
  refine served_moved h hstage hcalls hsince hnone (fun _ h => absurd h List.not_mem_nil) ?_
  rw [List.append_nil]
  exact hself

theorem served_step {ledger : HostLedger} (h : process.Served ledger)
    (hstep : process.StepIs thread after) :
    after.Served (ledger.observe thread (process.stage thread)) := by
  -- The thread has its call, and what it has done for it.
  have hself := h.busy thread
  cases hstep with
  | creating hstage =>
    rw [hstage] at hself ⊢
    obtain ⟨call, hcall, -, huses⟩ := hself nofun
    exact served_quiet h (goTo_stage _ thread · _) (fun _ _ => rfl) rfl rfl fun _ =>
      ⟨call, hcall, trivial, huses⟩
  | destroying hstage =>
    rw [hstage] at hself ⊢
    obtain ⟨call, hcall, -, huses⟩ := hself nofun
    exact served_quiet h (goTo_stage _ thread · _) (fun _ _ => rfl) rfl rfl fun _ =>
      ⟨call, hcall, trivial, huses⟩
  | move hmoves =>
    rw [hmoves.observe]
    obtain ⟨call, hcall, hserves, huses⟩ := hself hmoves.busy
    rw [hmoves.storeReply.1, ← hmoves.storeReply.2] at huses
    exact served_quiet h (goTo_stage _ thread · _) (fun _ _ => rfl) rfl rfl fun _ =>
      ⟨call, hcall, hmoves.serves call hserves, huses⟩
  | locking hstage =>
    rw [hstage] at hself ⊢
    obtain ⟨call, hcall, hserves, huses⟩ := hself nofun
    exact served_quiet h (goTo_stage _ thread · _) (fun _ _ => rfl) rfl rfl fun _ =>
      ⟨call, hcall, hserves, huses⟩
  | @inside _ store asked shared hstage hget =>
    rw [hstage] at hself ⊢
    obtain ⟨call, hcall, hserves, huses⟩ := hself nofun
    -- There was no use in this call, and now there is this one.
    replace huses : process.usesInCall ledger thread = [] := huses
    let use := StoreUse.mk thread store asked (shared.state.step asked).1
    refine served_moved h (goTo_stage _ thread · _) (fun _ _ => rfl) rfl rfl
      (fun use huse => congrArg StoreUse.thread (List.mem_singleton.mp huse))
      fun _ => ⟨call, hcall, trivial, use, ?_, hserves, rfl⟩
    rw [huses, List.nil_append]
  | @unlocking guarded _ reply _ hstage =>
    rw [hstage] at hself ⊢
    obtain ⟨call, hcall, -, huses⟩ := hself nofun
    exact served_quiet h (goTo_stage _ thread · _) (fun _ _ => rfl) rfl rfl fun _ =>
      ⟨call, hcall, by cases guarded <;> trivial, by cases guarded <;> exact huses⟩
  | @lockingSlot use hstage =>
    rw [hstage] at hself ⊢
    obtain ⟨call, hcall, hserves, huses⟩ := hself nofun
    exact served_quiet h (goTo_stage _ thread · _) (fun _ _ => rfl) rfl rfl fun _ =>
      ⟨call, hcall, by cases use <;> exact hserves, huses⟩
  | attach hstage =>
    rw [hstage] at hself ⊢
    obtain ⟨call, hcall, -, huses⟩ := hself nofun
    exact served_quiet h (goTo_stage _ thread · _) (fun _ _ => rfl) rfl rfl fun _ =>
      ⟨call, hcall, trivial, huses⟩
  | unlockingSlot hstage =>
    rw [hstage] at hself ⊢
    obtain ⟨call, hcall, -, huses⟩ := hself nofun
    exact served_quiet h (goTo_stage _ thread · _) (fun _ _ => rfl) rfl rfl fun _ =>
      ⟨call, hcall, trivial, huses⟩
  | returning hstage =>
    rw [hstage]
    exact served_quiet h (goTo_stage _ thread · _)
      (fun other hother => Function.update_of_ne hother _ _) rfl rfl fun hbusy =>
        absurd rfl hbusy

/-! ## Every run -/

theorem known_start : SharedProcess.start.Known .start where
  slot _ h := by cases h
  pending _ _ h := by cases h
  attaching _ _ h := by cases h
  clears _ _ _ h := by cases h
  cleared _ _ h := by cases h
  attached _ h := by cases h
  direct _ _ h := by cases h

theorem held_start : SharedProcess.start.Held where
  slot _ := ⟨fun h => (by cases h), fun h => (by cases h)⟩
  store _ _ _ h := by cases h
  borrowed _ _ h := by cases h
  destroys _ _ h := by cases h
  destroyer _ _ _ h := by cases h
  fresh _ _ := rfl

theorem replayed_start : SharedProcess.start.Replayed where
  sequential before use since h := by cases before <;> cases h
  state _ _ h := by cases h
  fresh _ _ := rfl

theorem HostRun.invariant {ledger : HostLedger} (h : HostRun process ledger) :
    process.Known ledger ∧ process.Held ∧ process.Replayed ∧ process.Served ledger := by
  induction h with
  | start =>
    exact ⟨known_start, held_start, replayed_start, fun _ => le_rfl,
      fun thread hbusy => absurd rfl hbusy⟩
  | begin thread call _ hidle hpermits ih =>
    obtain ⟨hknown, hheld, hreplayed, hserved⟩ := ih
    exact ⟨known_begin hknown thread call hidle hpermits,
      held_begin hheld thread call hidle hpermits,
      ⟨hreplayed.sequential, hreplayed.state, hreplayed.fresh⟩,
        served_begin hserved thread call⟩
  | step thread _ hstep ih =>
    obtain ⟨hknown, hheld, hreplayed, hserved⟩ := ih
    have hstep := stepIs_of_step hstep
    exact ⟨known_step hknown hstep, held_step hheld hknown hstep,
      replayed_step hreplayed hheld hstep, served_step hserved hstep⟩

end SharedProcess

open SharedProcess in
/-- Threads of the host use stores, directly and through the provider, while the host keeps to its
rules. In every interleaving no thread touches a store that is gone, and while a call is under way,
some thread can go on. The stores reply as if one call came after the other, and they are what these
calls have made of them. A call that returns what a store replied has used a store once since it
began, with what it asks for, and this was the reply. Any other call has used none. -/
theorem attachedStore {process : SharedProcess} {ledger : HostLedger}
    (h : HostRun process ledger) :
    (∀ thread, process.step thread ≠ .fault) ∧
      (∀ thread, process.stage thread ≠ .idle →
        ∃ other after, process.step other = .next after) ∧
      Sequential process.uses ∧
      (∀ store shared, process.stores.get store = some shared →
        shared.state = FittedAdapterStoreState.new.run (callsOn process.uses store)) ∧
      ∀ thread reply, process.stage thread = .returning reply →
        ∃ call, ledger.calls thread = some call ∧
          Accounts call (process.usesInCall ledger thread) reply.ofStore := by
  obtain ⟨hknown, hheld, hreplayed, hserved⟩ := h.invariant
  refine ⟨step_ne_fault hknown hheld, fun thread hbusy => exists_next hknown hheld hbusy,
    hreplayed.sequential, hreplayed.state, fun thread reply hstage => ?_⟩
  obtain ⟨call, hcall, -, huses⟩ := hserved.busy thread (by rw [hstage]; exact nofun)
  rw [hstage] at huses
  exact ⟨call, hcall, huses⟩

/-- The call that registers an adapter in the first store. -/
def registerSnv : HostCall := .storeCall (some 0) (.registerJson (.ok (inlineAdapter "snv")))

/-- The call that asks the provider for the adapter. -/
def materializeSnv : HostCall := .providerMaterialize (.ok ⟨"snv", zeroFingerprint⟩)

open SharedProcess in
/-- One thread makes a store, attaches it and registers an adapter. It registers the adapter again,
and meanwhile another one asks the provider for it. Both calls have used the store once: the second
registration is refused, and the other thread is given the handle. -/
theorem attachedStore_borrowing : ∃ process ledger record e, HostRun process ledger ∧
    process.uses = [⟨0, 0, .register (inlineAdapter "snv"), .registered (.ok record)⟩,
      ⟨1, 0, .materialize ⟨"snv", zeroFingerprint⟩, .materialized (.ok 1)⟩,
      ⟨0, 0, .register (inlineAdapter "snv"), .registered (.error e)⟩] ∧
    process.stage 0 = .returning (.store (.registered (.error e))) ∧
    process.stage 1 = .returning (.store (.materialized (.ok 1))) ∧
    Sequential process.uses ∧
    ∀ thread reply, process.stage thread = .returning reply →
      ∃ call, ledger.calls thread = some call ∧
        Accounts call (process.usesInCall ledger thread) reply.ofStore := by
  have hmade := HostRun.start.begin 0 .storeNew rfl trivial |>.step 0 rfl |>.step 0 rfl
  have hattached := hmade.begin 0 (.attach (some 0)) rfl
    ⟨rfl, fun thread => by cases thread <;> exact fun h => by cases h⟩
    |>.step 0 rfl |>.step 0 rfl |>.step 0 rfl |>.step 0 rfl
  have hregistered := hattached.begin 0 registerSnv rfl
    ⟨rfl, fun thread => by cases thread <;> exact fun h => by cases h⟩
    |>.step 0 rfl |>.step 0 rfl |>.step 0 rfl |>.step 0 rfl |>.step 0 rfl |>.step 0 rfl
  -- The second thread comes first: it holds the lock of the store when the other one asks for it.
  have hborrowing := hregistered.begin 1 materializeSnv rfl trivial
    |>.step 1 rfl |>.step 1 rfl |>.step 1 rfl |>.step 1 rfl
  have hwaiting := hborrowing.begin 0 registerSnv rfl
    ⟨rfl, fun thread => by
      rcases thread with _ | _ | thread <;> exact fun h => by cases h⟩
    |>.step 0 rfl |>.step 0 rfl
  have hreplied := hwaiting.step 1 rfl |>.step 1 rfl |>.step 1 rfl
    |>.step 0 rfl |>.step 0 rfl |>.step 0 rfl
  obtain ⟨-, -, hsequential, -, haccounts⟩ := attachedStore hreplied
  exact ⟨_, _, _, _, hreplied, rfl, rfl, rfl, hsequential, haccounts⟩

end DagMlData
