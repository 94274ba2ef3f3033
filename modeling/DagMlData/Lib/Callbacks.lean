import DagMlData.Lib.Loading

/-!
# Sessions with a host

A function that calls back into its host is a session: it reads what has happened, adds the events
of its own calls, and ends with a value or an error. A host may answer by all that happened before.

* `forEach_cases`: a loop of sessions does all its rounds, or some rounds and then one that fails.
* `Keeps`: what holds of the events before a session holds after it, by a rule for every step.
* `Answered`: the answers in a list of events are those of the host.
-/

namespace Callbacks

open Loading

variable {ω ι ρ ε α β : Type}

/-- The answer to a request, after what happened before. -/
abbrev Host (ω ι ρ : Type) : Type := List ω → ι → ρ

/-- What happened before, in. The result and all that happened, out. -/
def Session (ω ε α : Type) : Type := List ω → Except ε α × List ω

namespace Session

def ret (a : α) : Session ω ε α := fun past => (.ok a, past)

def lift (r : Except ε α) : Session ω ε α := fun past => (r, past)

/-- Runs `x`, and `f` on its value when there is one. -/
def andThen (x : Session ω ε α) (f : α → Session ω ε β) : Session ω ε β := fun past =>
  match x past with
  | (.ok a, now) => f a now
  | (.error e, now) => (.error e, now)

instance : Monad (Session ω ε) where
  pure := ret
  bind := andThen

/-- An event. -/
def emit (event : ω) : Session ω ε Unit := fun past => (.ok (), past ++ [event])

/-- A call of the host, which is an event with its answer. -/
def ask (host : Host ω ι ρ) (event : ι → ρ → ω) (i : ι) : Session ω ε ρ := fun past =>
  (.ok (host past i), past ++ [event i (host past i)])

/-- Runs `x`, and `close` when `x` refused. The error is the one of `x`. -/
def orClose (close : Session ω (Stop ε) Unit) (x : Session ω (Stop ε) α) :
    Session ω (Stop ε) α := fun past =>
  match x past with
  | (.error (.refused e), now) => (.error (.refused e), (close now).2)
  | done => done

/-- The values of the sessions of the items, up to the first one that fails. -/
def forEach (body : α → Session ω ε β) : List α → Session ω ε (List β)
  | [] => ret []
  | a :: as => andThen (body a) fun b => andThen (forEach body as) fun bs => ret (b :: bs)

/-! ## Steps -/

variable {x : Session ω ε α} {f : α → Session ω ε β} {past now : List ω}

theorem bind_of_ok {a : α} (h : x past = (.ok a, now)) : (x >>= f) past = f a now := by
  show andThen x f past = _
  unfold andThen
  rw [h]

theorem bind_of_error {e : ε} (h : x past = (.error e, now)) :
    (x >>= f) past = (.error e, now) := by
  show andThen x f past = _
  unfold andThen
  rw [h]

theorem orClose_of_ok {x : Session ω (Stop ε) α} {close : Session ω (Stop ε) Unit} {a : α}
    (h : x past = (.ok a, now)) : orClose close x past = (.ok a, now) := by
  unfold orClose
  rw [h]

theorem orClose_of_refused {x : Session ω (Stop ε) α}
    {close : Session ω (Stop ε) Unit} {e : ε}
    (h : x past = (.error (.refused e), now)) :
    orClose close x past = (.error (.refused e), (close now).2) := by
  unfold orClose
  rw [h]

theorem lift_bind (r : Except ε α) (f : α → Except ε β) :
    (lift (r >>= f) : Session ω ε β) = lift r >>= fun a => lift (f a) := by
  cases r <;> rfl

/-! ## Loops -/

variable {body : α → Session ω ε β}

/-- The rounds of a loop that all end with a value. -/
inductive Rounds (body : α → Session ω ε β) : List ω → List α →
    List β → List ω → Prop
  | nil (past : List ω) : Rounds body past [] [] past
  | cons {past mid now : List ω} {a : α} {as : List α} {b : β} {bs : List β} :
      body a past = (.ok b, mid) → Rounds body mid as bs now →
      Rounds body past (a :: as) (b :: bs) now

/-- A loop does all its rounds, or some rounds and then one that fails. -/
theorem forEach_cases (body : α → Session ω ε β) (as : List α) (past : List ω) :
    (∃ bs now, forEach body as past = (.ok bs, now) ∧ Rounds body past as bs now) ∨
      ∃ done a rest bs mid e now, as = done ++ a :: rest ∧ Rounds body past done bs mid ∧
        body a mid = (.error e, now) ∧ forEach body as past = (.error e, now) := by
  induction as generalizing past with
  | nil => exact .inl ⟨[], past, rfl, .nil past⟩
  | cons a as ih =>
    unfold forEach
    cases hbody : body a past with
    | mk result mid =>
      cases result with
      | error e => exact .inr ⟨[], a, as, [], past, e, mid, rfl, .nil past, hbody,
          bind_of_error hbody⟩
      | ok b =>
        have hfirst := bind_of_ok (f := fun b => andThen (forEach body as) fun bs => ret (b :: bs))
          hbody
        rcases ih mid with ⟨bs, now, hloop, hrounds⟩ |
          ⟨done, a', rest, bs, mid', e, now, rfl, hrounds, hfailed, hloop⟩
        · refine .inl ⟨b :: bs, now, ?_, .cons hbody hrounds⟩
          exact hfirst.trans (bind_of_ok hloop)
        · refine .inr ⟨a :: done, a', rest, b :: bs, mid', e, now, rfl, .cons hbody hrounds,
            hfailed, ?_⟩
          exact hfirst.trans (bind_of_error hloop)

/-! ## Invariants of the events -/

/-- What holds of the events before the session holds after it. -/
def Keeps (P : List ω → Prop) (x : Session ω ε α) : Prop := ∀ past, P past → P (x past).2

variable {P : List ω → Prop}

theorem keeps_ret (a : α) : Keeps P (ret a : Session ω ε α) := fun _ h => h

theorem keeps_lift (r : Except ε α) : Keeps P (lift r : Session ω ε α) := fun _ h => h

theorem Keeps.bind (hx : Keeps P x) (hf : ∀ a, Keeps P (f a)) : Keeps P (x >>= f) := by
  intro past hpast
  have hmid := hx past hpast
  cases hrun : x past with
  | mk result mid =>
    rw [hrun] at hmid
    cases result with
    | ok a =>
      rw [bind_of_ok hrun]
      exact hf a mid hmid
    | error e =>
      rw [bind_of_error hrun]
      exact hmid

theorem Keeps.orClose {x : Session ω (Stop ε) α} {close : Session ω (Stop ε) Unit}
    (hx : Keeps P x) (hclose : Keeps P close) : Keeps P (orClose close x) := by
  intro past hpast
  have hnow := hx past hpast
  unfold Session.orClose
  split
  · next hrun =>
    rw [hrun] at hnow
    exact hclose _ hnow
  · exact hnow

theorem Keeps.forEach {body : α → Session ω ε β}
    (h : ∀ a, Keeps P (body a)) (as : List α) :
    Keeps P (forEach body as) := by
  induction as with
  | nil => exact keeps_ret []
  | cons a as ih => exact (h a).bind fun b => ih.bind fun bs => keeps_ret (b :: bs)

end Session

/-! ## Answers -/

/-- Every answer in the events is the host's, after what had happened by then. -/
def Answered (host : Host ω ι ρ) (event : ι → ρ → ω) (log : List ω) : Prop :=
  ∀ pre i r post, log = pre ++ event i r :: post → host pre i = r

section Answers
variable {host : Host ω ι ρ} {event : ι → ρ → ω}

theorem answered_nil : Answered host event [] := fun pre i r post h => absurd h (by simp)

theorem Answered.concat {log : List ω} (h : Answered host event log) {w : ω}
    (hlast : ∀ i r, w = event i r → host log i = r) : Answered host event (log ++ [w]) := by
  intro pre i r post heq
  rcases List.eq_nil_or_concat post with rfl | ⟨post, last, rfl⟩
  · obtain ⟨rfl, hw⟩ := List.append_inj' heq rfl
    exact hlast i r (List.head_eq_of_cons_eq hw)
  · rw [List.concat_eq_append, ← List.cons_append, ← List.append_assoc] at heq
    obtain ⟨rfl, -⟩ := List.append_inj' heq rfl
    exact h pre i r post rfl

/-- An event that is no answer. -/
theorem keeps_emit_answered {w : ω} (h : ∀ i r, w ≠ event i r) :
    Session.Keeps (ε := ε) (Answered host event) (Session.emit w) :=
  fun _ hpast => hpast.concat fun i r heq => absurd heq (h i r)

theorem keeps_ask (hinj : ∀ i r i' r', event i r = event i' r' → i = i' ∧ r = r') (i : ι) :
    Session.Keeps (ε := ε) (Answered host event) (Session.ask host event i) := by
  intro past hpast
  refine hpast.concat fun i' r' heq => ?_
  obtain ⟨rfl, rfl⟩ := hinj _ _ _ _ heq
  rfl

end Answers

end Callbacks
