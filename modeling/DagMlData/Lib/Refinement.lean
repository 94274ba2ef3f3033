import DagMlData.Lib.Machine

/-!
# Refinement of machines

A concrete machine refines an abstract one when every call of it is one call of the abstract
machine, or leaves the abstract state as it is.

* `Refines.run`: over a run, the replies to the translated calls are those of the abstract run.
* `last_write`: what a run leaves in a place that some steps write is what was written last.
-/

namespace Machine

variable {σ σ' ι ι' ω ω' α : Type} {step : σ → ι → ω × σ}
    {step' : σ' → ι' → ω' × σ'}

/-- The concrete machine does the translated calls as the abstract one does, and replies to each
what `wire` makes of the abstract reply. The other calls do nothing that the abstract machine
sees. -/
structure Refines (step : σ → ι → ω × σ)
    (step' : σ' → ι' → ω' × σ') (R : σ → σ' → Prop)
    (translate : ι → Option ι') (wire : ι' → ω' → Option ω) : Prop where
  skipped : ∀ s s' i, R s s' → translate i = none → R (step s i).2 s'
  translated : ∀ s s' i i', R s s' → translate i = some i' →
    R (step s i).2 (step' s' i').2 ∧ some (step s i).1 = wire i' (step' s' i').1

/-- The replies to the calls that the translation keeps. -/
def translatedReplies (step : σ → ι → ω × σ) (translate : ι → Option ι')
    (s : σ) (is : List ι) :
    List ω :=
  ((log step s is).filter fun entry => (translate entry.1).isSome).map Prod.snd

variable {R : σ → σ' → Prop} {translate : ι → Option ι'}
    {wire : ι' → ω' → Option ω}

theorem Refines.run (h : Refines step step' R translate wire) {s : σ} {s' : σ'} (hs : R s s')
    (is : List ι) :
    R (run step s is) (run step' s' (is.filterMap translate)) ∧
      (translatedReplies step translate s is).map some =
        (log step' s' (is.filterMap translate)).map fun entry => wire entry.1 entry.2 := by
  induction is generalizing s s' with
  | nil => exact ⟨hs, rfl⟩
  | cons i is ih =>
    unfold translatedReplies
    cases htranslate : translate i with
    | none =>
      obtain ⟨hrun, hreplies⟩ := ih (h.skipped s s' i hs htranslate)
      rw [List.filterMap_cons_none htranslate, log, List.filter_cons_of_neg (by simp [htranslate])]
      exact ⟨hrun, hreplies⟩
    | some i' =>
      obtain ⟨hnext, hreply⟩ := h.translated s s' i i' hs htranslate
      obtain ⟨hrun, hreplies⟩ := ih hnext
      rw [List.filterMap_cons_some htranslate, log, List.filter_cons_of_pos (by simp [htranslate])]
      refine ⟨hrun, ?_⟩
      rw [List.map_cons, List.map_cons, log, List.map_cons, ← hreply]
      exact congrArg _ hreplies

/-- What only the translated calls reply is a part of the abstract replies. -/
theorem Refines.filterMap_replies (h : Refines step step' R translate wire) {β γ : Type}
    {part : ω → Option β} {part' : ω' → Option γ} {put : γ → β}
    (hskipped : ∀ s i, translate i = none → part (step s i).1 = none)
    (hwire : ∀ i' o' o, wire i' o' = some o → part o = (part' o').map put) {s : σ} {s' : σ'}
    (hs : R s s') (is : List ι) :
    (replies step s is).filterMap part =
      ((replies step' s' (is.filterMap translate)).filterMap part').map put := by
  induction is generalizing s s' with
  | nil => rfl
  | cons i is ih =>
    rw [replies, List.filterMap_cons]
    cases htranslate : translate i with
    | none =>
      rw [List.filterMap_cons_none htranslate, hskipped s i htranslate]
      exact ih (h.skipped s s' i hs htranslate)
    | some i' =>
      obtain ⟨hnext, hreply⟩ := h.translated s s' i i' hs htranslate
      rw [List.filterMap_cons_some htranslate, hwire _ _ _ hreply.symm, ih hnext, replies,
        List.filterMap_cons]
      cases part' (step' s' i').1 with
      | none => rfl
      | some c => rfl

/-! ## The last write -/

/-- No call of the list writes, from the state on. -/
def Silent (step : σ → ι → ω × σ) (write : σ → ι → Option α) (s : σ)
    (is : List ι) : Prop :=
  ∀ pre i post, is = pre ++ i :: post → write (run step s pre) i = none

theorem silent_cons {write : σ → ι → Option α} {s : σ} {i : ι} {is : List ι} :
    Silent step write s (i :: is) ↔ write s i = none ∧ Silent step write (step s i).2 is := by
  constructor
  · intro h
    exact ⟨h [] i is rfl, fun pre j post heq => h (i :: pre) j post
      (by rw [heq, List.cons_append])⟩
  · rintro ⟨hfirst, hrest⟩ pre j post heq
    cases pre with
    | nil =>
      obtain ⟨rfl, -⟩ := List.cons.inj heq
      exact hfirst
    | cons k pre =>
      obtain ⟨rfl, htail⟩ := List.cons.inj heq
      exact hrest pre j post htail

/-- What a run leaves in a place: what was there, when no call writes, or what the last call that
writes wrote. -/
theorem last_write {g : σ → α} {write : σ → ι → Option α}
    (hstep : ∀ s i, g (step s i).2 = (write s i).getD (g s)) (s : σ) (is : List ι) :
    (Silent step write s is ∧ g (run step s is) = g s) ∨
      ∃ pre i post a, is = pre ++ i :: post ∧ write (run step s pre) i = some a ∧
        Silent step write (run step s (pre ++ [i])) post ∧ g (run step s is) = a := by
  induction is generalizing s with
  | nil => exact .inl ⟨fun pre i post h => absurd h (by simp), rfl⟩
  | cons i is ih =>
    rcases ih (step s i).2 with ⟨hsilent, hget⟩ | ⟨pre, j, post, a, rfl,
      hwrite, hsilent, hget⟩
    · rw [hstep] at hget
      cases hwrite : write s i with
      | none =>
        rw [hwrite] at hget
        exact .inl ⟨silent_cons.mpr ⟨hwrite, hsilent⟩, hget⟩
      | some a =>
        rw [hwrite] at hget
        exact .inr ⟨[], i, is, a, rfl, hwrite, hsilent, hget⟩
    · exact .inr ⟨i :: pre, j, post, a, rfl, hwrite, hsilent, hget⟩

end Machine
