import DagMlData.Adapter
import DagMlData.Lib.Walk

/-!
# Runs of the adapter search

A chain is a walk over the admitted adapters of a registry, from one node to another, within the
hop limit of the policy; adapters may repeat. Every state of the search is the state of a reached
chain: one that repeats no adapter and whose totals are below 2^64 (`Search.Sound`).

* `round_eq_some`, `round_eq_none`: what one round does, and when there is none.
* `expanded_foldl`: which longer chains the expansion of a state pushes, and what it records.
* `Search.Sound.run_eq_some`: the loop ends within the bound of `branching`, on every registry,
  and keeps what every round keeps.
* `findPath_eq_some`: the search returns, and a path that it names is a chain.
-/

namespace DagMlData

open Guard WeightedGraph

/-! ## Chains -/

section Chains

variable (registry : AdapterRegistry) (policy : PlanningPolicy)

/-- Adapters as edges between representation nodes, weighted by their scores. -/
def chainGraph (policy : PlanningPolicy) : WeightedGraph RepresentationNode AdapterSpec where
  src := AdapterSpec.source
  dst := AdapterSpec.target
  weight adapter := adapter.rawScore policy

/-- A registered adapter that the policy admits. -/
def Admitted (adapter : AdapterSpec) : Prop :=
  adapter ∈ registry.specs ∧ policy.admits adapter = true

/-- The adapters lead from one node to the other, within the hop limit. -/
def Chain (start goal : RepresentationNode) : List AdapterSpec → Prop :=
  (chainGraph policy).Route (Admitted registry policy) policy.maxHops start goal

/-- No chain has a lower total score, or the same score with fewer hops. -/
def LeastChain (start goal : RepresentationNode) : List AdapterSpec → Prop :=
  (chainGraph policy).Least (Admitted registry policy) policy.maxHops start goal

def totalCost (chain : List AdapterSpec) : Nat := (chain.map (·.cost)).sum

def totalScore (chain : List AdapterSpec) : Nat := (chain.map (·.rawScore policy)).sum

def chainIds (chain : List AdapterSpec) : List String := chain.map (·.id)

variable {registry} {policy}

theorem mem_specs {adapter : AdapterSpec} :
    adapter ∈ registry.specs ↔ registry.adapters[adapter.id]? = some adapter := by
  unfold AdapterRegistry.specs
  rw [List.mem_map]
  constructor
  · rintro ⟨⟨id, _⟩, hentry, rfl⟩
    have hget := Std.ExtTreeMap.mem_toList_iff_getElem?_eq_some.mp hentry
    have hid := registry.keyed _ _ hget
    subst hid
    exact hget
  · intro h
    exact ⟨(adapter.id, adapter), Std.ExtTreeMap.mem_toList_iff_getElem?_eq_some.mpr h, rfl⟩

theorem eq_of_id_eq {a b : AdapterSpec} (ha : a ∈ registry.specs) (hb : b ∈ registry.specs)
    (h : a.id = b.id) : a = b := by
  have ha' := mem_specs.mp ha
  rw [h, mem_specs.mp hb] at ha'
  exact (Option.some.inj ha').symm

theorem map_id_specs : registry.specs.map (·.id) = registry.adapters.keys := by
  unfold AdapterRegistry.specs
  rw [← Std.ExtTreeMap.map_fst_toList_eq_keys, List.map_map]
  refine List.map_congr_left fun entry hentry => ?_
  exact registry.keyed _ _ (Std.ExtTreeMap.mem_toList_iff_getElem?_eq_some.mp hentry)

theorem specs_nodup : registry.specs.Nodup :=
  List.Nodup.of_map _ (map_id_specs ▸ Std.ExtTreeMap.nodup_keys)

/-- Registered adapters are determined by their ids. -/
theorem chainIds_injOn {p q : List AdapterSpec} (hp : ∀ a ∈ p, a ∈ registry.specs)
    (hq : ∀ a ∈ q, a ∈ registry.specs) (h : chainIds p = chainIds q) : p = q := by
  induction p generalizing q with
  | nil => exact (List.map_eq_nil_iff.mp h.symm).symm
  | cons a p ih =>
    cases q with
    | nil => cases h
    | cons b q =>
      simp only [chainIds, List.map_cons, List.cons.injEq] at h
      rw [eq_of_id_eq (hp a List.mem_cons_self) (hq b List.mem_cons_self) h.1,
        ih (fun x hx => hp x (List.mem_cons_of_mem _ hx))
          (fun x hx => hq x (List.mem_cons_of_mem _ hx)) h.2]

/-- The sum over distinct registered adapters is at most the sum over all of them. -/
theorem sum_le_total {p : List AdapterSpec}
    (hp : ∀ a ∈ p, a ∈ registry.specs) (hnodup : p.Nodup)
    (f : AdapterSpec → Nat) : (p.map f).sum ≤ (registry.specs.map f).sum := by
  obtain ⟨p', hperm, hsub⟩ := List.subperm_of_subset hnodup hp
  rw [← (hperm.map f).sum_eq]
  exact (hsub.map f).sum_le_sum fun _ _ => Nat.zero_le _

theorem length_le_specs {p : List AdapterSpec} (hp : ∀ a ∈ p, a ∈ registry.specs)
    (hnodup : p.Nodup) : p.length ≤ registry.specs.length :=
  (List.subperm_of_subset hnodup hp).length_le

end Chains

/-! ## The heap -/

/-- Score first, hops second. -/
def SearchState.key (state : SearchState) : Nat ×ₗ Nat := toLex (state.score, state.hops)

theorem SearchState.key_le_iff {a b : SearchState} : a.key ≤ b.key ↔
    a.score < b.score ∨ a.score = b.score ∧ a.hops ≤ b.hops := by
  simp [key, Prod.Lex.toLex_le_toLex]

theorem SearchState.key_lt_iff {a b : SearchState} : a.key < b.key ↔
    a.score < b.score ∨ a.score = b.score ∧ a.hops < b.hops := by
  simp [key, Prod.Lex.toLex_lt_toLex]

instance : Std.TransCmp SearchState.cmp :=
  inferInstanceAs (Std.TransCmp (compareLex (compareLex (compareLex (compareLex
    (compareOn SearchState.score) (compareOn SearchState.hops)) (compareOn SearchState.rawCost))
    (compareOn SearchState.node)) (compareOn SearchState.adapterIds)))

theorem SearchState.cmp_eq_lt_of_key_lt {a b : SearchState} (h : a.key < b.key) :
    a.cmp b = .lt := by
  rcases key_lt_iff.mp h with hscore | ⟨hscore, hhops⟩
  · simp [cmp, Nat.compare_eq_lt.mpr hscore]
  · simp [cmp, hscore, Nat.compare_eq_lt.mpr hhops]

theorem SearchState.key_le_of_cmp_isLE {a b : SearchState} (h : (a.cmp b).isLE) :
    a.key ≤ b.key := by
  by_contra hnot
  have hgt := Std.OrientedCmp.gt_of_lt (cmp_eq_lt_of_key_lt (not_le.mp hnot))
  rw [hgt] at h
  cases h

theorem SearchState.cmp_eq_eq {a b : SearchState} : a.cmp b = .eq ↔ a = b := by
  constructor
  · intro h
    simp only [cmp, Ordering.then_eq_eq] at h
    obtain ⟨⟨⟨⟨hscore, hhops⟩, hcost⟩, hnode⟩, hids⟩ := h
    cases a
    cases b
    cases Std.LawfulEqOrd.eq_of_compare hscore
    cases Std.LawfulEqOrd.eq_of_compare hhops
    cases Std.LawfulEqOrd.eq_of_compare hcost
    cases Std.LawfulEqOrd.eq_of_compare hnode
    cases Std.LawfulEqOrd.eq_of_compare hids
    rfl
  · rintro rfl
    exact Std.ReflCmp.compare_self

theorem popLeast_eq_none {heap : List SearchState} : popLeast heap = none ↔ heap = [] := by
  cases heap with
  | nil => simp [popLeast]
  | cons state states =>
    simp only [popLeast, reduceCtorEq, iff_false]
    split
    · simp
    · split <;> simp

/-- The popped state comes before or with every state of the heap. -/
theorem popLeast_eq_some {heap others : List SearchState} {least : SearchState}
    (h : popLeast heap = some (least, others)) :
    heap.Perm (least :: others) ∧ ∀ state ∈ heap, (least.cmp state).isLE := by
  induction heap generalizing least others with
  | nil => cases h
  | cons state states ih =>
    rw [popLeast] at h
    split at h
    · next hnone =>
      cases h
      rw [popLeast_eq_none.mp hnone]
      refine ⟨List.Perm.refl _, fun s hs => ?_⟩
      rw [List.mem_singleton.mp hs, SearchState.cmp_eq_eq.mpr rfl]
      rfl
    · next least' others' hsome =>
      obtain ⟨hperm, hmin⟩ := ih hsome
      split at h
      · next hlt =>
        cases h
        refine ⟨(hperm.cons state).trans (List.Perm.swap _ _ _), fun s hs => ?_⟩
        rcases List.mem_cons.mp hs with rfl | hs
        · rw [hlt]
          rfl
        · exact hmin s hs
      · next hge =>
        cases h
        refine ⟨hperm.cons state, fun s hs => ?_⟩
        have hstate : (state.cmp least').isLE := by
          rw [show state.cmp least' = (least'.cmp state).swap from Std.OrientedCmp.eq_swap]
          cases hcmp : SearchState.cmp least' state with
          | lt => exact absurd hcmp hge
          | eq => rfl
          | gt => rfl
        rcases List.mem_cons.mp hs with rfl | hs
        · rw [SearchState.cmp_eq_eq.mpr rfl]
          rfl
        · exact Std.TransCmp.isLE_trans hstate (hmin s hs)

/-! ## States of chains -/

section States

variable (policy : PlanningPolicy) (start : RepresentationNode)

/-- The state that the search has for the adapters. -/
def stateOf (p : List AdapterSpec) : SearchState where
  score := totalScore policy p
  rawCost := totalCost p
  hops := p.length
  node := (chainGraph policy).endOf start p
  adapterIds := chainIds p

def arrivalOf (p : List AdapterSpec) : Arrival := ⟨(chainGraph policy).endOf start p, p.length⟩

/-- The totals are below 2^64. They only grow along a chain, so those of its prefixes are, too. -/
structure Fits (p : List AdapterSpec) : Prop where
  score : totalScore policy p < u64Size
  cost : totalCost p < u64Size

variable (registry : AdapterRegistry)

/-- Adapters that the search can have taken: a chain to its end that repeats no adapter and whose
totals fit. -/
structure Reached (p : List AdapterSpec) : Prop where
  chain : Chain registry policy start ((chainGraph policy).endOf start p) p
  nodup : p.Nodup
  fits : Fits policy p

/-- An adapter that the search can take next. -/
structure Follows (p : List AdapterSpec) (adapter : AdapterSpec) : Prop where
  source : adapter.source = (chainGraph policy).endOf start p
  admitted : Admitted registry policy adapter
  unused : adapter.id ∉ chainIds p
  hops : WithinHops policy.maxHops (p.length + 1)
  fits : Fits policy (p ++ [adapter])

variable {policy start registry} {p q : List AdapterSpec} {adapter : AdapterSpec}
  {goal : RepresentationNode}

theorem Reached.mem_specs (h : Reached policy start registry p) :
    ∀ a ∈ p, a ∈ registry.specs :=
  fun a ha => (h.chain.edges a ha).1

@[simp] theorem totalScore_append :
    totalScore policy (p ++ q) = totalScore policy p + totalScore policy q := by
  simp [totalScore]

@[simp] theorem totalScore_singleton : totalScore policy [adapter] = adapter.rawScore policy := by
  simp [totalScore]

@[simp] theorem totalCost_append : totalCost (p ++ q) = totalCost p + totalCost q := by
  simp [totalCost]

@[simp] theorem totalCost_singleton : totalCost [adapter] = adapter.cost := by
  simp [totalCost]

@[simp] theorem chainIds_append : chainIds (p ++ q) = chainIds p ++ chainIds q := by
  simp [chainIds]

@[simp] theorem chainIds_singleton : chainIds [adapter] = [adapter.id] := rfl

theorem key_stateOf : (stateOf policy start p).key = (chainGraph policy).key p := rfl

theorem arrivalOf_concat :
    arrivalOf policy start (p ++ [adapter]) = ⟨adapter.target, p.length + 1⟩ := by
  simp [arrivalOf, chainGraph]

theorem stateOf_concat : stateOf policy start (p ++ [adapter]) =
    ⟨totalScore policy p + adapter.rawScore policy, totalCost p + adapter.cost, p.length + 1,
      adapter.target, chainIds p ++ [adapter.id]⟩ := by
  simp [stateOf, chainGraph]

theorem Fits.of_append (h : Fits policy (p ++ q)) : Fits policy p := by
  obtain ⟨hscore, hcost⟩ := h
  rw [totalScore_append] at hscore
  rw [totalCost_append] at hcost
  exact ⟨by omega, by omega⟩

/-- The start itself. -/
theorem reached_nil : Reached policy start registry [] :=
  ⟨⟨rfl, by simp, fun _ _ => Nat.zero_le _⟩, List.nodup_nil,
    ⟨by simp [totalScore, u64Size], by simp [totalCost, u64Size]⟩⟩

/-- One more adapter. -/
theorem Reached.concat (h : Reached policy start registry p)
    (hnext : Follows policy start registry p adapter) :
    Reached policy start registry (p ++ [adapter]) := by
  refine ⟨⟨?_, fun a ha => ?_, by simpa using hnext.hops⟩, ?_, hnext.fits⟩
  · rw [endOf_concat]
    exact isWalk_append.mpr ⟨_, h.chain.walk, hnext.source, rfl⟩
  · rcases List.mem_append.mp ha with ha | ha
    · exact h.chain.edges a ha
    · rw [List.mem_singleton.mp ha]
      exact hnext.admitted
  · refine List.nodup_append.mpr ⟨h.nodup, List.nodup_singleton _, fun a ha b hb => ?_⟩
    rintro rfl
    rw [List.mem_singleton.mp hb] at ha
    exact hnext.unused (List.mem_map_of_mem ha)

/-- The adapters before the last one, and the last one. -/
theorem Reached.of_concat (h : Reached policy start registry (p ++ [adapter])) :
    Reached policy start registry p ∧ Follows policy start registry p adapter := by
  obtain ⟨v, hp, hsource, _⟩ := isWalk_append.mp h.chain.walk
  have hend : (chainGraph policy).endOf start p = v := hp.endOf_eq
  have hadmitted : ∀ a ∈ p, Admitted registry policy a :=
    fun a ha => h.chain.edges a (List.mem_append_left _ ha)
  have hlast := h.chain.edges adapter (by simp)
  refine ⟨⟨⟨by rwa [hend], hadmitted, h.chain.hops.mono (by simp)⟩,
    (List.nodup_append.mp h.nodup).1, h.fits.of_append⟩, ⟨hsource.trans hend.symm, hlast,
    fun hid => ?_, by simpa using h.chain.hops, h.fits⟩⟩
  obtain ⟨a, ha, hid⟩ := List.mem_map.mp hid
  rw [eq_of_id_eq (hadmitted a ha).1 hlast.1 hid] at ha
  exact (List.nodup_append.mp h.nodup).2.2 adapter ha adapter (List.mem_singleton.mpr rfl) rfl

theorem Reached.of_append (h : Reached policy start registry (p ++ q)) :
    Reached policy start registry p := by
  induction q using List.reverseRecOn with
  | nil => rwa [List.append_nil] at h
  | append_singleton q adapter ih =>
    rw [← List.append_assoc] at h
    exact ih h.of_concat.1

/-- Two reached chains with one state are one chain. -/
theorem eq_of_stateOf_eq (hp : Reached policy start registry p)
    (hq : Reached policy start registry q) (h : stateOf policy start p = stateOf policy start q) :
    p = q :=
  chainIds_injOn hp.mem_specs hq.mem_specs (congrArg SearchState.adapterIds h)

/-- A prefix comes before the whole. -/
theorem cmp_stateOf_append (hne : q ≠ []) :
    (stateOf policy start p).cmp (stateOf policy start (p ++ q)) = .lt := by
  refine SearchState.cmp_eq_lt_of_key_lt (SearchState.key_lt_iff.mpr ?_)
  have hlength := List.length_pos_iff.mpr hne
  simp only [stateOf, totalScore_append, List.length_append]
  omega

end States

/-! ## Expanding a state -/

section Expanding

variable {registry : AdapterRegistry} {policy : PlanningPolicy} {start goal : RepresentationNode}
  {p : List AdapterSpec} {search : Search} {adapter : AdapterSpec}

/-- The adapter was not used, and with it the totals still fit. -/
structure Usable (policy : PlanningPolicy) (p : List AdapterSpec) (adapter : AdapterSpec) :
    Prop where
  unused : adapter.id ∉ chainIds p
  fits : Fits policy (p ++ [adapter])

theorem relax_of_mem (h : adapter.id ∈ chainIds p) :
    Search.relax policy (stateOf policy start p) search adapter = search :=
  if_pos (List.contains_iff_mem.mpr h)

/-- A score that does not fit is found by one of the two checks, a cost by the last one. -/
theorem relax_of_not_fits (hunused : adapter.id ∉ chainIds p)
    (h : ¬Fits policy (p ++ [adapter])) :
    Search.relax policy (stateOf policy start p) search adapter =
      { search with costOverflow := true } := by
  unfold Search.relax
  rw [if_neg (by rw [List.contains_iff_mem]; exact hunused)]
  split
  · rfl
  · next score hscore =>
    obtain ⟨own, hown, hsum⟩ := Option.bind_eq_some_iff.mp hscore
    unfold adapterScore at hown
    split at hown
    · cases hown
      split
      · rfl
      · next cost hcost =>
        refine absurd ⟨?_, ?_⟩ h
        · rw [totalScore_append, totalScore_singleton]
          exact (checkedAdd_eq_some.mp hsum).1
        · rw [totalCost_append, totalCost_singleton]
          exact (checkedAdd_eq_some.mp hcost).1
    · cases hown

theorem relax_of_usable (h : Usable policy p adapter) :
    Search.relax policy (stateOf policy start p) search adapter =
      if (search.bestSeen[arrivalOf policy start (p ++ [adapter])]?).any
          (totalScore policy (p ++ [adapter]) > ·) then search
      else { search with
        bestSeen := search.bestSeen.insert (arrivalOf policy start (p ++ [adapter]))
          (totalScore policy (p ++ [adapter]))
        heap := stateOf policy start (p ++ [adapter]) :: search.heap } := by
  obtain ⟨hunused, hscore, hcost⟩ := h
  rw [totalScore_append, totalScore_singleton] at hscore
  rw [totalCost_append, totalCost_singleton] at hcost
  have hown : adapterScore adapter policy = some (adapter.rawScore policy) :=
    if_pos (by omega)
  have hscores : checkedAdd (stateOf policy start p).score (adapter.rawScore policy) =
      some (totalScore policy p + adapter.rawScore policy) :=
    checkedAdd_eq_some.mpr ⟨hscore, rfl⟩
  have hcosts : checkedAdd (stateOf policy start p).rawCost adapter.cost =
      some (totalCost p + adapter.cost) :=
    checkedAdd_eq_some.mpr ⟨hcost, rfl⟩
  unfold Search.relax
  rw [if_neg (by rw [List.contains_iff_mem]; exact hunused), hown, Option.bind_some, hscores,
    hcosts, arrivalOf_concat, stateOf_concat, totalScore_append, totalScore_singleton]
  rfl

/-- The adapter is taken: no lower score is recorded for the arrival, and no adapter before it in
id order arrives with a lower one. -/
structure Taken (policy : PlanningPolicy) (start : RepresentationNode) (p edges : List AdapterSpec)
    (bestSeen : BTreeMap Arrival Nat) (adapter : AdapterSpec) : Prop extends
    Usable policy p adapter where
  recorded : ∀ best, bestSeen[arrivalOf policy start (p ++ [adapter])]? = some best →
    totalScore policy (p ++ [adapter]) ≤ best
  siblings : ∀ e ∈ edges, Usable policy p e →
    e.target = adapter.target → e.id < adapter.id →
    totalScore policy (p ++ [adapter]) ≤ totalScore policy (p ++ [e])

/-- What the loop over the edges of a popped state does. -/
structure Expanded (policy : PlanningPolicy) (start : RepresentationNode)
    (p edges : List AdapterSpec) (before after : Search) : Prop where
  heap : ∃ kept : List AdapterSpec, kept.Sublist edges ∧
    (∀ e ∈ edges, e ∈ kept ↔ Taken policy start p edges before.bestSeen e) ∧
    after.heap = (kept.map fun e => stateOf policy start (p ++ [e])).reverse ++ before.heap
  recorded : ∀ (arrival : Arrival) (best : Nat), after.bestSeen[arrival]? = some best →
    before.bestSeen[arrival]? = some best ∨ ∃ e ∈ edges, Usable policy p e ∧
      arrivalOf policy start (p ++ [e]) = arrival ∧ totalScore policy (p ++ [e]) = best
  covered : ∀ e ∈ edges, Usable policy p e →
    ∃ best, after.bestSeen[arrivalOf policy start (p ++ [e])]? = some best ∧
      best ≤ totalScore policy (p ++ [e])
  lower : ∀ (arrival : Arrival) (best : Nat), before.bestSeen[arrival]? = some best →
    ∃ best', after.bestSeen[arrival]? = some best' ∧ best' ≤ best
  overflow : after.costOverflow = true → before.costOverflow = true ∨
    ∃ e ∈ edges, e.id ∉ chainIds p ∧ ¬Fits policy (p ++ [e])
  bestGoal : after.bestGoal = before.bestGoal
  goalPaths : after.goalPaths = before.goalPaths

/-- An adapter after all others in id order does not change which of these are taken. -/
theorem taken_concat {edges : List AdapterSpec} {bestSeen : BTreeMap Arrival Nat}
    {e : AdapterSpec} (hlast : ¬adapter.id < e.id) :
    Taken policy start p (edges ++ [adapter]) bestSeen e ↔
      Taken policy start p edges bestSeen e := by
  constructor
  · intro h
    exact ⟨h.toUsable, h.recorded, fun e' he' => h.siblings e' (List.mem_append_left _ he')⟩
  · intro h
    refine ⟨h.toUsable, h.recorded, fun e' he' husable htarget hlt => ?_⟩
    rcases List.mem_append.mp he' with he' | he'
    · exact h.siblings e' he' husable htarget hlt
    · rw [List.mem_singleton.mp he'] at hlt
      exact absurd hlt hlast

/-- An adapter that is not usable is passed over. -/
theorem Expanded.concat_of_not_usable {edges : List AdapterSpec} {mid after : Search}
    (h : Expanded policy start p edges search mid) (hsorted : ∀ e ∈ edges, e.id < adapter.id)
    (hnot : ¬Usable policy p adapter) (hheap : after.heap = mid.heap)
    (hbestSeen : after.bestSeen = mid.bestSeen) (hbestGoal : after.bestGoal = mid.bestGoal)
    (hgoalPaths : after.goalPaths = mid.goalPaths)
    (hoverflow : after.costOverflow = true → mid.costOverflow = true ∨
      adapter.id ∉ chainIds p ∧ ¬Fits policy (p ++ [adapter])) :
    Expanded policy start p (edges ++ [adapter]) search after := by
  obtain ⟨kept, hsub, hkept, hmid⟩ := h.heap
  refine ⟨⟨kept, hsub.trans (List.sublist_append_left _ _), fun e he => ?_, hheap.trans hmid⟩,
    fun arrival best hget => ?_, fun e he husable => ?_, fun arrival best hget => ?_,
    fun htrue => ?_, hbestGoal.trans h.bestGoal, hgoalPaths.trans h.goalPaths⟩
  · rcases List.mem_append.mp he with he | he
    · rw [hkept e he, taken_concat (hsorted e he).asymm]
    · rw [List.mem_singleton.mp he]
      refine ⟨fun hmem => ?_, fun htaken => absurd htaken.toUsable hnot⟩
      exact absurd (hsorted _ (hsub.subset hmem)) (lt_irrefl _)
  · rw [hbestSeen] at hget
    rcases h.recorded arrival best hget with hbefore | ⟨e, he, hrest⟩
    · exact Or.inl hbefore
    · exact Or.inr ⟨e, List.mem_append_left _ he, hrest⟩
  · rw [hbestSeen]
    rcases List.mem_append.mp he with he | he
    · exact h.covered e he husable
    · rw [List.mem_singleton.mp he] at husable
      exact absurd husable hnot
  · rw [hbestSeen]
    exact h.lower arrival best hget
  · rcases hoverflow htrue with hmid | ⟨hunused, hfits⟩
    · rcases h.overflow hmid with hbefore | ⟨e, he, hrest⟩
      · exact Or.inl hbefore
      · exact Or.inr ⟨e, List.mem_append_left _ he, hrest⟩
    · exact Or.inr ⟨adapter, by simp, hunused, hfits⟩

/-- A lower score is recorded for the arrival: the adapter is passed over. -/
theorem Expanded.concat_of_beaten {edges : List AdapterSpec} {mid : Search} {best : Nat}
    (h : Expanded policy start p edges search mid) (hsorted : ∀ e ∈ edges, e.id < adapter.id)
    (hget : mid.bestSeen[arrivalOf policy start (p ++ [adapter])]? = some best)
    (hlt : best < totalScore policy (p ++ [adapter])) :
    Expanded policy start p (edges ++ [adapter]) search mid := by
  obtain ⟨kept, hsub, hkept, hmid⟩ := h.heap
  refine ⟨⟨kept, hsub.trans (List.sublist_append_left _ _), fun e he => ?_, hmid⟩,
    fun arrival best hget => ?_, fun e he husable => ?_, h.lower, fun htrue => ?_, h.bestGoal,
    h.goalPaths⟩
  · rcases List.mem_append.mp he with he | he
    · rw [hkept e he, taken_concat (hsorted e he).asymm]
    · rw [List.mem_singleton.mp he]
      refine ⟨fun hmem => absurd (hsorted _ (hsub.subset hmem)) (lt_irrefl _), fun htaken => ?_⟩
      rcases h.recorded _ best hget with hbefore | ⟨e', he', husable', harrival, hscore⟩
      · have hle := htaken.recorded best hbefore
        omega
      · rw [arrivalOf_concat, arrivalOf_concat] at harrival
        have htarget : e'.target = adapter.target := congrArg Arrival.node harrival
        have hle := htaken.siblings e' (List.mem_append_left _ he') husable' htarget
          (hsorted e' he')
        omega
  · rcases h.recorded arrival best hget with hbefore | ⟨e, he, hrest⟩
    · exact Or.inl hbefore
    · exact Or.inr ⟨e, List.mem_append_left _ he, hrest⟩
  · rcases List.mem_append.mp he with he | he
    · exact h.covered e he husable
    · rw [List.mem_singleton.mp he]
      exact ⟨best, hget, hlt.le⟩
  · rcases h.overflow htrue with hbefore | ⟨e, he, hrest⟩
    · exact Or.inl hbefore
    · exact Or.inr ⟨e, List.mem_append_left _ he, hrest⟩

/-- No lower score is recorded: the state of the longer chain is pushed. -/
theorem Expanded.concat_of_pushed {edges : List AdapterSpec} {mid : Search}
    (h : Expanded policy start p edges search mid) (hsorted : ∀ e ∈ edges, e.id < adapter.id)
    (husable : Usable policy p adapter)
    (hbest : ∀ best, mid.bestSeen[arrivalOf policy start (p ++ [adapter])]? = some best →
      totalScore policy (p ++ [adapter]) ≤ best) :
    Expanded policy start p (edges ++ [adapter]) search { mid with
      bestSeen := mid.bestSeen.insert (arrivalOf policy start (p ++ [adapter]))
        (totalScore policy (p ++ [adapter]))
      heap := stateOf policy start (p ++ [adapter]) :: mid.heap } := by
  obtain ⟨kept, hsub, hkept, hmid⟩ := h.heap
  have htaken : Taken policy start p (edges ++ [adapter]) search.bestSeen adapter := by
    refine ⟨husable, fun best hget => ?_, fun e he husable' htarget hlt => ?_⟩
    · obtain ⟨best', hget', hle⟩ := h.lower _ best hget
      exact (hbest best' hget').trans hle
    · rcases List.mem_append.mp he with he | he
      · obtain ⟨best', hget', hle⟩ := h.covered e he husable'
        have harrival :
            arrivalOf policy start (p ++ [e]) = arrivalOf policy start (p ++ [adapter]) := by
          rw [arrivalOf_concat, arrivalOf_concat, htarget]
        rw [harrival] at hget'
        exact (hbest best' hget').trans hle
      · rw [List.mem_singleton.mp he] at hlt
        exact absurd hlt (lt_irrefl _)
  -- What the recorded score of an arrival is after the insertion.
  have hinsert : ∀ arrival : Arrival, (mid.bestSeen.insert
      (arrivalOf policy start (p ++ [adapter])) (totalScore policy (p ++ [adapter])))[arrival]? =
      if arrivalOf policy start (p ++ [adapter]) = arrival
        then some (totalScore policy (p ++ [adapter])) else mid.bestSeen[arrival]? := by
    intro arrival
    rw [Std.ExtTreeMap.getElem?_insert]
    simp only [Std.compare_eq_iff_eq]
  refine ⟨⟨kept ++ [adapter], hsub.append (List.Sublist.refl _), fun e he => ?_, ?_⟩,
    fun arrival best hget => ?_, fun e he husable' => ?_, fun arrival best hget => ?_,
    fun htrue => ?_, h.bestGoal, h.goalPaths⟩
  · rcases List.mem_append.mp he with he | he
    · rw [taken_concat (hsorted e he).asymm, ← hkept e he, List.mem_append, List.mem_singleton]
      refine or_iff_left fun heq => ?_
      rw [heq] at he
      exact absurd (hsorted _ he) (lt_irrefl _)
    · rw [List.mem_singleton.mp he]
      exact iff_of_true (by simp) htaken
  · show stateOf policy start (p ++ [adapter]) :: mid.heap = _
    rw [hmid]
    simp
  · rw [hinsert] at hget
    split at hget
    · next harrival =>
      exact Or.inr ⟨adapter, by simp, husable, harrival, Option.some.inj hget⟩
    · rcases h.recorded arrival best hget with hbefore | ⟨e, he, hrest⟩
      · exact Or.inl hbefore
      · exact Or.inr ⟨e, List.mem_append_left _ he, hrest⟩
  · rw [hinsert]
    split
    · next harrival =>
      refine ⟨_, rfl, ?_⟩
      rcases List.mem_append.mp he with he | he
      · obtain ⟨best', hget', hle⟩ := h.covered e he husable'
        exact (hbest best' (harrival ▸ hget')).trans hle
      · rw [List.mem_singleton.mp he]
    · next harrival =>
      rcases List.mem_append.mp he with he | he
      · exact h.covered e he husable'
      · rw [List.mem_singleton.mp he] at harrival
        exact absurd rfl harrival
  · obtain ⟨best', hget', hle⟩ := h.lower arrival best hget
    rw [hinsert]
    split
    · next harrival => exact ⟨_, rfl, (hbest best' (harrival ▸ hget')).trans hle⟩
    · exact ⟨best', hget', hle⟩
  · rcases h.overflow htrue with hbefore | ⟨e, he, hrest⟩
    · exact Or.inl hbefore
    · exact Or.inr ⟨e, List.mem_append_left _ he, hrest⟩

theorem expanded_foldl {edges : List AdapterSpec} (hsorted : edges.Pairwise (·.id < ·.id)) :
    Expanded policy start p edges search
      (edges.foldl (Search.relax policy (stateOf policy start p)) search) := by
  induction edges using List.reverseRecOn with
  | nil =>
    exact ⟨⟨[], List.Sublist.refl _, by simp, rfl⟩, fun _ _ h => Or.inl h, by simp,
      fun _ best h => ⟨best, h, le_rfl⟩, fun h => Or.inl h, rfl, rfl⟩
  | append_singleton edges adapter ih =>
    obtain ⟨hedges, _, hlast⟩ := List.pairwise_append.mp hsorted
    have hlast : ∀ e ∈ edges, e.id < adapter.id := fun e he => hlast e he adapter (by simp)
    have hih := ih hedges
    rw [List.foldl_append, List.foldl_cons, List.foldl_nil]
    generalize edges.foldl (Search.relax policy (stateOf policy start p)) search = mid at *
    by_cases hused : adapter.id ∈ chainIds p
    · rw [relax_of_mem hused]
      exact hih.concat_of_not_usable hlast (fun h => h.unused hused) rfl rfl rfl rfl Or.inl
    · by_cases hfits : Fits policy (p ++ [adapter])
      · rw [relax_of_usable ⟨hused, hfits⟩]
        split
        · next hbeaten =>
          obtain ⟨best, hget, hlt⟩ := Option.any_eq_true _ _ |>.mp hbeaten
          exact hih.concat_of_beaten hlast hget (of_decide_eq_true hlt)
        · next hbeaten =>
          refine hih.concat_of_pushed hlast ⟨hused, hfits⟩ fun best hget => ?_
          rw [hget, Option.any_some, decide_eq_true_iff] at hbeaten
          omega
      · rw [relax_of_not_fits hused hfits]
        exact hih.concat_of_not_usable hlast (fun h => hfits h.fits) rfl rfl rfl rfl
          fun _ => Or.inr ⟨hused, hfits⟩

end Expanding

/-! ## Rounds -/

section Rounds

variable {registry : AdapterRegistry} {policy : PlanningPolicy} {start goal : RepresentationNode}
  {search next : Search} {state : SearchState} {p : List AdapterSpec}

theorem SearchState.isAfter_iff {best : Nat × Nat × Nat} :
    state.isAfter best = true ↔ toLex (best.1, best.2.1) < state.key := by
  simp [isAfter, key, Prod.Lex.toLex_lt_toLex]

theorem mem_edgesFrom {node : RepresentationNode} {adapter : AdapterSpec} :
    adapter ∈ edgesFrom registry policy node ↔
      Admitted registry policy adapter ∧ adapter.source = node := by
  rw [edgesFrom, List.mem_filter, List.mem_filter, decide_eq_true_iff]
  rfl

theorem specs_sorted : registry.specs.Pairwise (·.id < ·.id) := by
  have hkeys := registry.adapters.ordered_keys
  rw [← map_id_specs, List.pairwise_map] at hkeys
  exact hkeys.imp compare_lt_iff_lt.mp

theorem edgesFrom_sorted {node : RepresentationNode} :
    (edgesFrom registry policy node).Pairwise (·.id < ·.id) :=
  (specs_sorted.filter _).filter _

/-- What one round does. -/
theorem round_eq_some (h : search.round registry policy goal = some next) :
    ∃ state others, popLeast search.heap = some (state, others) ∧
      (∀ best, search.bestGoal = some best → state.isAfter best = false) ∧
      ((state.node = goal ∧ next = { search with
          heap := others
          bestGoal := search.bestGoal <|> some (state.score, state.hops, state.rawCost)
          goalPaths := search.goalPaths ++ [state.adapterIds] }) ∨
        (state.node ≠ goal ∧ ¬WithinHops policy.maxHops (state.hops + 1) ∧
          next = { search with heap := others }) ∨
        (state.node ≠ goal ∧ WithinHops policy.maxHops (state.hops + 1) ∧
          next = (edgesFrom registry policy state.node).foldl (Search.relax policy state)
            { search with heap := others })) := by
  unfold Search.round at h
  split at h
  · cases h
  · next state others hpop =>
    refine ⟨state, others, hpop, ?_⟩
    simp only at h
    split at h
    · cases h
    · next hafter =>
      refine ⟨fun best hbest => ?_, ?_⟩
      · rw [hbest, Option.any_some, Bool.not_eq_true] at hafter
        exact hafter
      · split at h
        · next hgoal => exact Or.inl ⟨hgoal, (Option.some.inj h).symm⟩
        · next hgoal =>
          split at h
          · next hmax =>
            refine Or.inr (Or.inl ⟨hgoal, fun hwithin => ?_, (Option.some.inj h).symm⟩)
            cases hlimit : policy.maxHops with
            | none => rw [hlimit] at hmax; cases hmax
            | some m =>
              rw [hlimit, Option.any_some, decide_eq_true_iff] at hmax
              have := hwithin m hlimit
              omega
          · next hmax =>
            refine Or.inr (Or.inr ⟨hgoal, fun m hlimit => ?_, (Option.some.inj h).symm⟩)
            rw [hlimit, Option.any_some, decide_eq_true_iff] at hmax
            omega

/-- When the loop ends: the heap is empty, or what is left comes after the best goal. -/
theorem round_eq_none (h : search.round registry policy goal = none) :
    search.heap = [] ∨ ∃ best, search.bestGoal = some best ∧
      ∀ state ∈ search.heap, toLex (best.1, best.2.1) < state.key := by
  unfold Search.round at h
  split at h
  · next hpop => exact Or.inl (popLeast_eq_none.mp hpop)
  · next state others hpop =>
    simp only at h
    split at h
    · next hafter =>
      cases hbest : search.bestGoal with
      | none => rw [hbest] at hafter; cases hafter
      | some best =>
        rw [hbest, Option.any_some, SearchState.isAfter_iff] at hafter
        refine Or.inr ⟨best, rfl, fun s hs => lt_of_lt_of_le hafter ?_⟩
        exact SearchState.key_le_of_cmp_isLE ((popLeast_eq_some hpop).2 s hs)
    · split at h
      · cases h
      · split at h <;> cases h

/-! ## Reached states -/

variable (registry policy start goal) in
/-- Every state of the heap and every goal path belong to a reached chain, and so do the recorded
scores. -/
structure Search.Sound (search : Search) : Prop where
  heap : ∀ state ∈ search.heap,
    ∃ p, Reached policy start registry p ∧ stateOf policy start p = state
  bestSeen : ∀ (arrival : Arrival) (best : Nat), search.bestSeen[arrival]? = some best →
    ∃ p, Reached policy start registry p ∧ arrivalOf policy start p = arrival ∧
      totalScore policy p = best
  goalPaths : ∀ ids ∈ search.goalPaths, ∃ p, Reached policy start registry p ∧
    (chainGraph policy).endOf start p = goal ∧ chainIds p = ids
  found : search.bestGoal = none ↔ search.goalPaths = []

/-- The search before its first round. -/
theorem Search.sound_start : (Search.start start).Sound registry policy start goal where
  heap state hstate := by
    rw [Search.start, List.mem_singleton] at hstate
    exact ⟨[], reached_nil, hstate.symm⟩
  bestSeen arrival best hget := by
    have hmem := BTreeMap.mem_of_getElem?_collect hget
    rw [List.mem_singleton, Prod.mk.injEq] at hmem
    obtain ⟨rfl, rfl⟩ := hmem
    exact ⟨[], reached_nil, rfl, rfl⟩
  goalPaths ids hids := by cases hids
  found := iff_of_true rfl rfl

/-- The state popped by a round, with its chain. -/
structure Popped (registry : AdapterRegistry) (policy : PlanningPolicy)
    (start goal : RepresentationNode) (search : Search) (p : List AdapterSpec)
    (others : List SearchState) : Prop where
  perm : search.heap.Perm (stateOf policy start p :: others)
  least : ∀ state ∈ search.heap, ((stateOf policy start p).cmp state).isLE
  notAfter : ∀ best, search.bestGoal = some best → (stateOf policy start p).isAfter best = false
  reached : Reached policy start registry p

/-- What follows a round: the goal was reached, or no hop is left, or the state was expanded. -/
inductive Rounded (registry : AdapterRegistry) (policy : PlanningPolicy)
    (start goal : RepresentationNode) (search : Search) (p : List AdapterSpec)
    (others : List SearchState) : Search → Prop
  | goal : (chainGraph policy).endOf start p = goal →
      Rounded registry policy start goal search p others { search with
        heap := others
        bestGoal := search.bestGoal <|> some (totalScore policy p, p.length, totalCost p)
        goalPaths := search.goalPaths ++ [chainIds p] }
  | limit : (chainGraph policy).endOf start p ≠ goal →
      ¬WithinHops policy.maxHops (p.length + 1) →
      Rounded registry policy start goal search p others { search with heap := others }
  | expand (after : Search) : (chainGraph policy).endOf start p ≠ goal →
      WithinHops policy.maxHops (p.length + 1) →
      Expanded policy start p (edgesFrom registry policy ((chainGraph policy).endOf start p))
        { search with heap := others } after →
      Rounded registry policy start goal search p others after

/-- One round of a sound search. -/
theorem Search.Sound.rounded (hsound : search.Sound registry policy start goal)
    (h : search.round registry policy goal = some next) :
    ∃ p others, Popped registry policy start goal search p others ∧
      Rounded registry policy start goal search p others next := by
  obtain ⟨state, others, hpop, hafter, hcases⟩ := round_eq_some h
  obtain ⟨hperm, hmin⟩ := popLeast_eq_some hpop
  obtain ⟨p, hp, rfl⟩ := hsound.heap state (hperm.mem_iff.mpr List.mem_cons_self)
  refine ⟨p, others, ⟨hperm, hmin, hafter, hp⟩, ?_⟩
  rcases hcases with ⟨hgoal, rfl⟩ | ⟨hgoal, hmax, rfl⟩ | ⟨hgoal, hmax, rfl⟩
  · exact .goal hgoal
  · exact .limit hgoal hmax
  · exact .expand _ hgoal hmax (expanded_foldl edgesFrom_sorted)

/-- The heap after an expansion. -/
theorem Expanded.mem_heap {edges : List AdapterSpec} {before after : Search}
    (h : Expanded policy start p edges before after) :
    state ∈ after.heap ↔ (∃ e ∈ edges, Taken policy start p edges before.bestSeen e ∧
      stateOf policy start (p ++ [e]) = state) ∨ state ∈ before.heap := by
  obtain ⟨kept, hsub, hkept, hheap⟩ := h.heap
  rw [hheap, List.mem_append, List.mem_reverse, List.mem_map]
  refine or_congr_left ⟨?_, ?_⟩
  · rintro ⟨e, he, heq⟩
    exact ⟨e, hsub.subset he, (hkept e (hsub.subset he)).mp he, heq⟩
  · rintro ⟨e, he, htaken, heq⟩
    exact ⟨e, (hkept e he).mpr htaken, heq⟩

/-- Every round keeps a search sound. -/
theorem Search.Sound.round (hsound : search.Sound registry policy start goal)
    (h : search.round registry policy goal = some next) :
    next.Sound registry policy start goal := by
  obtain ⟨p, others, hpopped, hrounded⟩ := hsound.rounded h
  have hothers : ∀ s ∈ others, ∃ p, Reached policy start registry p ∧
      stateOf policy start p = s :=
    fun s hs => hsound.heap s (hpopped.perm.mem_iff.mpr (List.mem_cons_of_mem _ hs))
  cases hrounded with
  | goal hgoal =>
    refine ⟨hothers, hsound.bestSeen, fun ids hids => ?_, ?_⟩
    · rcases List.mem_append.mp hids with hids | hids
      · exact hsound.goalPaths ids hids
      · exact ⟨p, hpopped.reached, hgoal, (List.mem_singleton.mp hids).symm⟩
    · refine iff_of_false ?_ (by simp)
      cases search.bestGoal <;> exact Option.some_ne_none _
  | limit _ _ => exact ⟨hothers, hsound.bestSeen, hsound.goalPaths, hsound.found⟩
  | expand after _ hmax hexpanded =>
    have hchild : ∀ e ∈ edgesFrom registry policy ((chainGraph policy).endOf start p),
        Usable policy p e → Reached policy start registry (p ++ [e]) :=
      fun e he husable => hpopped.reached.concat
        ⟨(mem_edgesFrom.mp he).2, (mem_edgesFrom.mp he).1, husable.unused, hmax, husable.fits⟩
    refine ⟨fun s hs => ?_, fun arrival best hget => ?_, ?_, ?_⟩
    · rcases hexpanded.mem_heap.mp hs with ⟨e, he, htaken, rfl⟩ | hs
      · exact ⟨p ++ [e], hchild e he htaken.toUsable, rfl⟩
      · exact hothers s hs
    · rcases hexpanded.recorded arrival best hget with hbefore | ⟨e, he,
        husable, harrival, hscore⟩
      · exact hsound.bestSeen arrival best hbefore
      · exact ⟨p ++ [e], hchild e he husable, harrival, hscore⟩
    · rw [hexpanded.goalPaths]
      exact hsound.goalPaths
    · rw [hexpanded.bestGoal, hexpanded.goalPaths]
      exact hsound.found

/-! ## Termination -/

/-- A bound on the rounds that are left. -/
def Search.potential (registry : AdapterRegistry) (search : Search) : Nat :=
  (search.heap.map fun state => branching (registry.specs.length - state.hops)).sum

/-- Distinct adapters outside of a chain are at most as many as the chain leaves. -/
theorem Reached.length_le_left {kept : List AdapterSpec} (hp : Reached policy start registry p)
    (hkept : ∀ e ∈ kept, e ∈ registry.specs) (hnodup : kept.Nodup)
    (hnew : ∀ e ∈ kept, e.id ∉ chainIds p) :
      kept.length ≤ registry.specs.length - p.length := by
  have hall : (p ++ kept).length ≤ registry.specs.length := by
    refine length_le_specs (fun a ha => ?_) (List.nodup_append.mpr ⟨hp.nodup, hnodup, ?_⟩)
    · rcases List.mem_append.mp ha with ha | ha
      · exact hp.mem_specs a ha
      · exact hkept a ha
    · rintro a ha b hb rfl
      exact hnew a hb (List.mem_map_of_mem ha)
  rw [List.length_append] at hall
  omega

/-- The states that are pushed weigh less than the popped one. -/
theorem children_lt_branching {n hops k : Nat} (hk : k ≤ n - hops) :
    k * branching (n - (hops + 1)) < branching (n - hops) := by
  cases hleft : n - hops with
  | zero =>
    have hk0 : k = 0 := by omega
    rw [hk0, Nat.zero_mul]
    exact Nat.one_pos
  | succ m =>
    have hm : n - (hops + 1) = m := by omega
    rw [hm, branching]
    have hle : k * branching m ≤ (m + 1) * branching m := Nat.mul_le_mul_right _ (by omega)
    omega

/-- Every round uses some potential. -/
theorem Search.Sound.potential_lt (hsound : search.Sound registry policy start goal)
    (h : search.round registry policy goal = some next) :
    next.potential registry < search.potential registry := by
  obtain ⟨p, others, hpopped, hrounded⟩ := hsound.rounded h
  have hbefore : search.potential registry = branching (registry.specs.length - p.length) +
      (others.map fun state => branching (registry.specs.length - state.hops)).sum := by
    unfold Search.potential
    rw [(hpopped.perm.map _).sum_eq]
    rfl
  rw [hbefore]
  cases hrounded with
  | goal _ => exact Nat.lt_add_of_pos_left (branching_pos _)
  | limit _ _ => exact Nat.lt_add_of_pos_left (branching_pos _)
  | expand after _ _ hexpanded =>
    obtain ⟨kept, hsub, hkept, hheap⟩ := hexpanded.heap
    have hlength : kept.length ≤ registry.specs.length - p.length := by
      refine hpopped.reached.length_le_left
        (fun e he => (mem_edgesFrom.mp (hsub.subset he)).1.1) ?_ fun e he => ?_
      · exact hsub.nodup ((specs_nodup.filter _).filter _)
      · exact ((hkept e (hsub.subset he)).mp he).unused
    have hchildren : ((kept.map fun e => stateOf policy start (p ++ [e])).map fun state =>
        branching (registry.specs.length - state.hops)).sum =
        kept.length * branching (registry.specs.length - (p.length + 1)) := by
      rw [List.map_map, List.map_congr_left (g := fun _ =>
        branching (registry.specs.length - (p.length + 1))) fun e _ => by simp [stateOf],
        List.map_const', List.sum_replicate, smul_eq_mul]
    have hafter : next.potential registry =
        kept.length * branching (registry.specs.length - (p.length + 1)) +
          (others.map fun state => branching (registry.specs.length - state.hops)).sum := by
      unfold Search.potential
      rw [hheap, List.map_append, List.sum_append, List.map_reverse, List.sum_reverse, hchildren]
    rw [hafter]
    exact Nat.add_lt_add_right (children_lt_branching hlength) _
where
  branching_pos : ∀ n, 0 < branching n
    | 0 => Nat.one_pos
    | n + 1 => by
      rw [branching]
      omega

/-- With more fuel than potential the loop ends, and more fuel changes nothing. What every round
keeps holds at the end. -/
theorem Search.Sound.run_eq_some {I : Search → Prop}
    (hstep : ∀ s next : Search, s.Sound registry policy start goal → I s →
      s.round registry policy goal = some next → I next)
    (hsound : search.Sound registry policy start goal) (hI : I search) :
    ∃ final : Search, final.Sound registry policy start goal ∧ I final ∧
      final.round registry policy goal = none ∧
      ∀ fuel, search.potential registry < fuel →
        search.run registry policy goal fuel = some final := by
  induction hpotential : search.potential registry using Nat.strong_induction_on
    generalizing search with
  | _ potential ih =>
    cases hround : search.round registry policy goal with
    | none =>
      refine ⟨search, hsound, hI, hround, fun fuel hfuel => ?_⟩
      obtain ⟨fuel, rfl⟩ := Nat.exists_eq_succ_of_ne_zero (by omega : fuel ≠ 0)
      rw [Search.run, hround]
    | some next =>
      have hlt := hsound.potential_lt hround
      obtain ⟨final, hfinal, hIfinal, hend, hrun⟩ :=
        ih _ (hpotential ▸ hlt) (hsound.round hround) (hstep _ _ hsound hI hround) rfl
      refine ⟨final, hfinal, hIfinal, hend, fun fuel hfuel => ?_⟩
      obtain ⟨fuel, rfl⟩ := Nat.exists_eq_succ_of_ne_zero (by omega : fuel ≠ 0)
      rw [Search.run, hround]
      exact hrun fuel (by omega)

/-- The search between distinct nodes, whatever the fuel above the bound. -/
theorem findPathWithin_eq {I : Search → Prop}
    (hstep : ∀ s next : Search, s.Sound registry policy start goal → I s →
      s.round registry policy goal = some next → I next)
    (hI : I (Search.start start)) (hne : start ≠ goal) :
    ∃ final : Search, final.Sound registry policy start goal ∧ I final ∧
      final.round registry policy goal = none ∧
      ∀ fuel, branching registry.specs.length < fuel →
        findPathWithin registry policy fuel start goal =
          resolveSearch registry policy start goal final := by
  obtain ⟨final, hfinal, hIfinal, hend, hrun⟩ := Search.sound_start.run_eq_some hstep hI
  refine ⟨final, hfinal, hIfinal, hend, fun fuel hfuel => ?_⟩
  have hstart : (Search.start start).potential registry < fuel := by
    simpa [Search.potential, Search.start] using hfuel
  rw [findPathWithin, if_neg hne, hrun fuel hstart]
  rfl

/-! ## Resolving a path -/

/-- A sum that stays below the bound is found by checked additions. -/
theorem checkedSum_eq_some (l : List Nat) (h : l.sum < u64Size) :
    checkedSum (l.map some) = some l.sum := by
  induction l using List.reverseRecOn with
  | nil => rfl
  | append_singleton l n ih =>
    rw [List.sum_append, List.sum_singleton] at h ⊢
    unfold checkedSum at ih ⊢
    rw [List.map_append, List.foldlM_append, ih (by omega)]
    have hadd : checkedAdd l.sum n = some (l.sum + n) := checkedAdd_eq_some.mpr ⟨h, rfl⟩
    simp [hadd]

theorem mapM_eq_some {α β : Type} {f : α → Option β} {l : List α} {g : α → β}
    (h : ∀ a ∈ l, f a = some (g a)) : l.mapM f = some (l.map g) := by
  induction l with
  | nil => rfl
  | cons a l ih =>
    rw [List.mapM_cons, h a List.mem_cons_self, ih fun b hb => h b (List.mem_cons_of_mem _ hb)]
    rfl

/-- The resolution that names a chain as the path. -/
def resolvedChain (policy : PlanningPolicy) (chain : List AdapterSpec) : PathResolution :=
  .resolved ⟨chain, totalCost chain, totalScore policy chain⟩

/-- The adapters of a reached chain are found again by their ids. -/
theorem Reached.resolvePath_chainIds (h : Reached policy start registry p) :
    resolvePath registry policy (chainIds p) = some (resolvedChain policy p) := by
  have hadapters : (chainIds p).mapM (registry.adapters[·]?) = some p := by
    have hfound := mapM_eq_some (f := fun a : AdapterSpec => registry.adapters[a.id]?) (g := id)
      fun a ha => DagMlData.mem_specs.mp (h.mem_specs a ha)
    rw [List.map_id] at hfound
    rw [chainIds, List.mapM_map]
    exact hfound
  have hcosts : checkedSum (p.map fun adapter => some adapter.cost) = some (totalCost p) := by
    have hsum := checkedSum_eq_some _ h.fits.cost
    rwa [List.map_map] at hsum
  have hscores : checkedSum (p.map fun adapter => adapterScore adapter policy) =
      some (totalScore policy p) := by
    have hsum := checkedSum_eq_some _ h.fits.score
    rw [List.map_map] at hsum
    rw [List.map_congr_left fun a ha => ?_]
    · exact hsum
    · have hle : a.rawScore policy ≤ totalScore policy p :=
        List.single_le_sum (fun _ _ => Nat.zero_le _) _ (List.mem_map_of_mem ha)
      exact if_pos (lt_of_le_of_lt hle h.fits.score)
  unfold resolvePath
  rw [hadapters]
  simp only [Option.bind_eq_bind, Option.bind_some, hcosts, hscores]
  rfl

end Rounds

/-! ## What the search returns -/

section Returns

variable {registry : AdapterRegistry} {policy : PlanningPolicy} {start goal : RepresentationNode}
  {search : Search}

theorem Search.Sound.resolveSearch_eq_some (hsound : search.Sound registry policy start goal) :
    ∃ resolution, resolveSearch registry policy start goal search = some resolution ∧
      ∀ path, resolution.path = some path → Chain registry policy start goal path.adapters := by
  unfold resolveSearch
  split
  · refine ⟨_, rfl, fun path hpath => ?_⟩
    cases hpath
  · next first rest hsort =>
    split
    · refine ⟨_, rfl, fun path hpath => ?_⟩
      cases hpath
    · have hfirst : first ∈ search.goalPaths := by
        rw [← List.mem_toFinset, ← Finset.mem_sort (· ≤ ·), hsort]
        exact List.mem_cons_self
      obtain ⟨p, hp, hgoal, rfl⟩ := hsound.goalPaths first hfirst
      refine ⟨_, hp.resolvePath_chainIds, fun path hpath => ?_⟩
      obtain rfl := Option.some.inj hpath
      exact hgoal ▸ hp.chain

/-- The search returns on every registry, and a path that it names is a chain. -/
theorem findPath_eq_some (registry : AdapterRegistry) (policy : PlanningPolicy)
    (start goal : RepresentationNode) :
    ∃ resolution, findPath registry policy start goal = some resolution ∧
      ∀ path, resolution.path = some path → Chain registry policy start goal path.adapters := by
  by_cases heq : start = goal
  · subst heq
    refine ⟨.resolved ⟨[], 0, 0⟩, by simp [findPath, findPathWithin], fun path hpath => ?_⟩
    obtain rfl := Option.some.inj hpath
    exact (reached_nil : Reached policy start registry []).chain
  · obtain ⟨final, hfinal, -, -, hrun⟩ := @findPathWithin_eq registry policy start goal
      (fun _ => True) (fun _ _ _ _ _ => trivial) trivial heq
    obtain ⟨resolution, hresolve, hchain⟩ := hfinal.resolveSearch_eq_some
    exact ⟨resolution, (hrun _ (Nat.lt_succ_self _)).trans hresolve, hchain⟩

end Returns

end DagMlData
