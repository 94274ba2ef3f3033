import Mathlib

/-!
# Runs of a machine that answers calls

A machine is a function `step : σ → ι → ω × σ`: from a state and a call, the reply and the
next state. This module has what holds over whole runs of any such machine.

* `run`, `replies`, `log`: the state after a list of calls, the replies, and the calls paired
  with their replies.
* `run_preserves`: the induction rule. What every step keeps holds after every run.
* `minted_eq_range`: a machine that mints its ids from a counter mints consecutive ids, so it
  never mints one twice, however the run goes.
* `stays_while_live`: what a step keeps for an id that was already minted and is live in the
  next state, a run keeps for every id that is live at its end.
-/

namespace Machine

variable {σ ι ω α : Type} (step : σ → ι → ω × σ)

/-- The state after the calls. -/
def run : σ → List ι → σ
  | s, [] => s
  | s, i :: is => run (step s i).2 is

/-- The replies to the calls, in call order. -/
def replies : σ → List ι → List ω
  | _, [] => []
  | s, i :: is => (step s i).1 :: replies (step s i).2 is

/-- The calls with their replies, in call order. -/
def log : σ → List ι → List (ι × ω)
  | _, [] => []
  | s, i :: is => (i, (step s i).1) :: log (step s i).2 is

@[simp] theorem run_nil (s : σ) : run step s [] = s := rfl

@[simp] theorem run_cons (s : σ) (i : ι) (is : List ι) :
    run step s (i :: is) = run step (step s i).2 is := rfl

theorem run_append (s : σ) (is js : List ι) :
    run step s (is ++ js) = run step (run step s is) js := by
  induction is generalizing s with
  | nil => rfl
  | cons i is ih => exact ih (step s i).2

theorem log_append (s : σ) (is js : List ι) :
    log step s (is ++ js) = log step s is ++ log step (run step s is) js := by
  induction is generalizing s with
  | nil => rfl
  | cons i is ih => simp only [List.cons_append, log, run_cons, ih]

theorem replies_eq_map_log (s : σ) (is : List ι) :
    replies step s is = (log step s is).map Prod.snd := by
  induction is generalizing s with
  | nil => rfl
  | cons i is ih => simp only [replies, log, List.map_cons, ih]

/-- A call in the log was answered in the state that the calls before it lead to. -/
theorem mem_log {s : σ} {is : List ι} {i : ι} {o : ω} (h : (i, o) ∈ log step s is) :
    ∃ pre post, is = pre ++ i :: post ∧ (step (run step s pre) i).1 = o := by
  induction is generalizing s with
  | nil => simp [log] at h
  | cons j js ih =>
    rcases List.mem_cons.mp h with heq | hmem
    · obtain ⟨rfl, rfl⟩ := Prod.mk.injEq .. ▸ heq
      exact ⟨[], js, rfl, rfl⟩
    · obtain ⟨pre, post, rfl, ho⟩ := ih hmem
      exact ⟨j :: pre, post, rfl, ho⟩

variable {step}

/-- The induction rule for runs. The step may use that the call is one of the run's. -/
theorem run_preserves (Inv : σ → Prop) {s : σ} {is : List ι} (h0 : Inv s)
    (hstep : ∀ s i, i ∈ is → Inv s → Inv (step s i).2) : Inv (run step s is) := by
  induction is generalizing s with
  | nil => exact h0
  | cons i is ih =>
    exact ih (hstep s i List.mem_cons_self h0)
      (fun s j hj => hstep s j (List.mem_cons_of_mem _ hj))

/-- The induction rule for two runs of the same calls. -/
theorem run_relates {σ' ω' : Type} {step' : σ' → ι → ω' × σ'}
    (R : σ → σ' → Prop) {s : σ} {s' : σ'}
    {is : List ι} (h0 : R s s')
    (hstep : ∀ s s' i, i ∈ is → R s s' → R (step s i).2 (step' s' i).2) :
    R (run step s is) (run step' s' is) := by
  induction is generalizing s s' with
  | nil => exact h0
  | cons i is ih =>
    exact ih (hstep s s' i List.mem_cons_self h0)
      (fun s s' j hj => hstep s s' j (List.mem_cons_of_mem _ hj))

/-! ## Observers -/

/-- The machine with an observer that sees every call and its reply and does not interfere. -/
def watch {π : Type} (step : σ → ι → ω × σ) (see : π → ι → ω → π)
    (s : σ × π) (i : ι) :
    ω × (σ × π) :=
  ((step s.1 i).1, ((step s.1 i).2, see s.2 i (step s.1 i).1))

/-- Watching a machine does not change its run. -/
theorem run_watch_fst {π : Type} (see : π → ι → ω → π) (s : σ) (p : π) (is : List ι) :
    (run (watch step see) (s, p) is).1 = run step s is := by
  induction is generalizing s p with
  | nil => rfl
  | cons i is ih => exact ih (step s i).2 _

/-! ## Minted ids -/

section Minting

variable (counter : σ → Nat) (mint : ω → Option Nat) (size : Nat)

/-- One step mints nothing and leaves the counter, or mints the counter's value and increments
the counter, which wraps at `size`. -/
def MintsFromCounter (step : σ → ι → ω × σ) : Prop :=
  ∀ s i, (mint (step s i).1 = none ∧ counter (step s i).2 = counter s) ∨
    (mint (step s i).1 = some (counter s) ∧ counter (step s i).2 = (counter s + 1) % size)

/-- The ids that a run mints, in the order in which it mints them. -/
def minted (step : σ → ι → ω × σ) (s : σ) (is : List ι) : List Nat :=
  (replies step s is).filterMap mint

variable {counter mint size}

/-- As long as the counter does not wrap, a run mints consecutive ids. -/
theorem minted_eq_range (hm : MintsFromCounter counter mint size step) {s : σ} {is : List ι}
    (hsize : counter s + (minted mint step s is).length < size) :
    minted mint step s is = List.range' (counter s) (minted mint step s is).length ∧
      counter (run step s is) = counter s + (minted mint step s is).length := by
  induction is generalizing s with
  | nil => simp [minted, replies]
  | cons i is ih =>
    rcases hm s i with ⟨hnone, hc⟩ | ⟨hsome, hc⟩
    · have heq : minted mint step s (i :: is) = minted mint step (step s i).2 is := by
        simp [minted, replies, hnone]
      rw [heq] at hsize ⊢
      simpa [hc] using ih (s := (step s i).2) (by rw [hc]; exact hsize)
    · have heq : minted mint step s (i :: is) =
          counter s :: minted mint step (step s i).2 is := by
        simp [minted, replies, hsome]
      rw [heq, List.length_cons] at hsize
      have hc' : counter (step s i).2 = counter s + 1 := by
        rw [hc]; exact Nat.mod_eq_of_lt (by omega)
      obtain ⟨hrange, hcount⟩ := ih (s := (step s i).2) (by rw [hc']; omega)
      rw [hc'] at hrange hcount
      refine ⟨?_, ?_⟩
      · rw [heq, List.length_cons, List.range'_succ, ← hrange]
      · rw [heq, List.length_cons, run_cons, hcount]
        omega

/-- A call mints at most one id. -/
theorem length_minted_le (s : σ)
    (is : List ι) : (minted mint step s is).length ≤ is.length := by
  refine (List.length_filterMap_le _ _).trans ?_
  induction is generalizing s with
  | nil => exact le_rfl
  | cons i is ih => exact Nat.succ_le_succ (ih (step s i).2)

/-- No id is minted twice. -/
theorem minted_nodup (hm : MintsFromCounter counter mint size step) {s : σ} {is : List ι}
    (hsize : counter s + (minted mint step s is).length < size) :
    (minted mint step s is).Nodup := by
  rw [(minted_eq_range hm hsize).1]
  exact List.nodup_range'

/-- The ids minted before a point of the run count against the bound of the whole run. -/
theorem minted_append (s : σ) (is js : List ι) :
    minted mint step s (is ++ js) = minted mint step s is ++ minted mint step
      (run step s is) js := by
  simp only [minted, replies_eq_map_log, log_append, List.map_append, List.filterMap_append]

theorem length_minted_cons (s : σ) (i : ι) (is : List ι) :
    (minted mint step s (i :: is)).length =
      (minted mint step s [i]).length + (minted mint step (step s i).2 is).length := by
  rw [show i :: is = [i] ++ is from rfl, minted_append, List.length_append]
  rfl

theorem counter_step (hm : MintsFromCounter counter mint size step) {s : σ} {i : ι}
    (hsize : counter s + (minted mint step s [i]).length < size) :
    counter (step s i).2 = counter s + (minted mint step s [i]).length :=
  (minted_eq_range hm hsize).2

/-- The induction rule for runs in which the counter does not wrap. -/
theorem run_preserves_of_no_wrap (hm : MintsFromCounter counter mint size step)
    {Inv : σ → Prop}
    (hstep : ∀ s i, Inv s → counter s + (minted mint step s [i]).length < size →
      Inv (step s i).2)
    {s : σ} {is : List ι} (h0 : Inv s)
    (hsize : counter s + (minted mint step s is).length < size) : Inv (run step s is) := by
  induction is generalizing s with
  | nil => exact h0
  | cons i is ih =>
    rw [length_minted_cons] at hsize
    have hi : counter s + (minted mint step s [i]).length < size := by omega
    refine ih (hstep s i h0 hi) ?_
    rw [counter_step hm hi]
    omega

/-- What a step keeps for every id below the counter that is live after it, a run keeps for
every id below the counter that is live at its end: such an id was live all the time. -/
theorem stays_while_live (hm : MintsFromCounter counter mint size step)
    (live : σ → Nat → Prop) (val : σ → Nat → α) {Inv : σ → Prop}
    (hstep : ∀ s i, Inv s → counter s + (minted mint step s [i]).length < size →
      Inv (step s i).2)
    (hkeep : ∀ s i k, Inv s → k < counter s → live (step s i).2 k →
      live s k ∧ val (step s i).2 k = val s k)
    {s : σ} {is : List ι} {k : Nat} (hs : Inv s)
    (hsize : counter s + (minted mint step s is).length < size)
    (hk : k < counter s) (hl : live (run step s is) k) :
    live s k ∧ val (run step s is) k = val s k := by
  induction is generalizing s with
  | nil => exact ⟨hl, rfl⟩
  | cons i is ih =>
    rw [length_minted_cons] at hsize
    have hi : counter s + (minted mint step s [i]).length < size := by omega
    have hcount := counter_step hm hi
    obtain ⟨hl', hv'⟩ := ih (hstep s i hs hi) (by omega) (by omega) hl
    obtain ⟨hl'', hv''⟩ := hkeep s i k hs hk hl'
    exact ⟨hl'', hv'.trans hv''⟩

end Minting

end Machine
