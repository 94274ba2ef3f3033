import DagMlData.PathEnumeration

/-!
# Chains that fit and the pruning of the search

The search prunes a chain when a lower score was recorded for its end and its number of hops.
Scores alone are compared, so the chain that stays can have the greater raw cost: it can
overflow where the pruned one would have fitted.

`Survives` says which chains are not pruned, hop by hop and without the heap.
`findPath_finds_iff`: when some chain fits, the search names a path or a choice exactly when a
chain to the goal survives. `LeastChain.survives`: a least chain that fits always does.
-/

namespace DagMlData

open Guard WeightedGraph

section Pruning

variable (registry : AdapterRegistry) (policy : PlanningPolicy) (start goal : RepresentationNode)

/-- The chain with its last adapter is generated before the other one: the state of the chain
comes out of the heap earlier, or the adapter precedes among the edges of the same state. -/
def GeneratedBefore (p' : List AdapterSpec) (e' : AdapterSpec) (p : List AdapterSpec)
    (e : AdapterSpec) : Prop :=
  (stateOf policy start p').cmp (stateOf policy start p) = .lt ∨ p' = p ∧ e'.id < e.id

/-- A chain of `n` adapters that the pruning leaves. It extends one of `n - 1` adapters that does
not end at the goal, its totals fit, and no such extension that is generated before it arrives at
its end with a lower score. -/
def Survives : Nat → List AdapterSpec → Prop
  | 0, chain => chain = []
  | n + 1, chain => ∃ p e, chain = p ++ [e] ∧ Survives n p ∧
      (chainGraph policy).endOf start p ≠ goal ∧ Follows policy start registry p e ∧
      ∀ p' e', Survives n p' → (chainGraph policy).endOf start p' ≠ goal →
        Follows policy start registry p' e' → e'.target = e.target →
        GeneratedBefore policy start p' e' p e →
          totalScore policy (p ++ [e]) ≤ totalScore policy (p' ++ [e'])

/-- A chain of distinct admitted adapters between the nodes, within the hop limit, whose totals
fit at every step. -/
def FittingChain (chain : List AdapterSpec) : Prop :=
  Chain registry policy start goal chain ∧ chain.Nodup ∧
    ∀ p, p <+: chain → Fits policy p

/-- The search finds a path, or several to choose from. -/
def FindsPath : Prop :=
  ∃ resolution, findPath registry policy start goal = some resolution ∧
    ∀ issue ∈ resolution.issues, issue.code ≠ "cost_overflow" ∧ issue.code ≠ "no_path"

variable {registry policy start goal} {search next : Search} {p q chain : List AdapterSpec}
  {e : AdapterSpec} {n : Nat} {done : Set (List AdapterSpec)} {others : List SearchState}

/-! ## Surviving chains -/

theorem Survives.length_eq (h : Survives registry policy start goal n p) : p.length = n := by
  induction n generalizing p with
  | zero => exact congrArg List.length h
  | succ n ih =>
    obtain ⟨p', e, rfl, hp', _⟩ := h
    rw [List.length_append, ih hp']
    rfl

theorem Survives.reached (h : Survives registry policy start goal n p) :
    Reached policy start registry p := by
  induction n generalizing p with
  | zero =>
    cases h
    exact reached_nil
  | succ n ih =>
    obtain ⟨p', e, rfl, hp', _, hnext, _⟩ := h
    exact (ih hp').concat hnext

/-- The last extension of a surviving chain. -/
theorem Survives.of_concat (h : Survives registry policy start goal (p ++ [e]).length (p ++ [e])) :
    Survives registry policy start goal p.length p ∧
      (chainGraph policy).endOf start p ≠ goal ∧ Follows policy start registry p e ∧
      ∀ p' e', Survives registry policy start goal p.length p' →
        (chainGraph policy).endOf start p' ≠ goal →
        Follows policy start registry p' e' → e'.target = e.target →
        GeneratedBefore policy start p' e' p e →
          totalScore policy (p ++ [e]) ≤ totalScore policy (p' ++ [e']) := by
  rw [List.length_append] at h
  obtain ⟨p', e', heq, hrest⟩ := h
  obtain ⟨rfl, hlast⟩ := List.append_inj' heq rfl
  cases hlast
  exact hrest

theorem Survives.of_append (h : Survives registry policy start goal (p ++ q).length (p ++ q)) :
    Survives registry policy start goal p.length p := by
  induction q using List.reverseRecOn with
  | nil => rwa [List.append_nil] at h
  | append_singleton q e ih =>
    rw [← List.append_assoc] at h
    exact ih h.of_concat.1

/-! ## The invariant of the loop -/

variable (registry policy start goal) in
/-- What the search has done, with the set of the chains that were popped. -/
structure Search.Layered (done : Set (List AdapterSpec)) (search : Search) : Prop where
  heap : ∀ state ∈ search.heap, ∃ p, Survives registry policy start goal p.length p ∧
    stateOf policy start p = state ∧ ∀ p' e, p = p' ++ [e] → p' ∈ done
  nodup : search.heap.Nodup
  survives : ∀ p ∈ done, Survives registry policy start goal p.length p
  before : ∀ p ∈ done, ∀ state ∈ search.heap, (stateOf policy start p).cmp state = .lt
  pending : ∀ p, Survives registry policy start goal p.length p →
    p ∈ done ∨ ∃ q r, p = q ++ r ∧ stateOf policy start q ∈ search.heap
  covered : ∀ p ∈ done, ∀ e, (chainGraph policy).endOf start p ≠ goal →
    Follows policy start registry p e →
    ∃ best, search.bestSeen[arrivalOf policy start (p ++ [e])]? = some best ∧
      best ≤ totalScore policy (p ++ [e])
  recorded : ∀ (arrival : Arrival) (best : Nat), search.bestSeen[arrival]? = some best →
    arrival.hops = 0 ∨ ∃ p ∈ done, ∃ e, (chainGraph policy).endOf start p ≠ goal ∧
      Follows policy start registry p e ∧ arrivalOf policy start (p ++ [e]) = arrival ∧
      totalScore policy (p ++ [e]) = best
  goalPaths : ∀ ids, ids ∈ search.goalPaths ↔
    ∃ p ∈ done, (chainGraph policy).endOf start p = goal ∧ chainIds p = ids

theorem Search.layered_start : (Search.start start).Layered registry policy start goal ∅ where
  heap state hstate := by
    rw [Search.start, List.mem_singleton] at hstate
    exact ⟨[], rfl, hstate.symm, by simp⟩
  nodup := List.nodup_singleton _
  survives p hp := by cases hp
  before p hp := by cases hp
  pending p _ := Or.inr ⟨[], p, rfl, List.mem_singleton.mpr rfl⟩
  covered p hp := by cases hp
  recorded arrival best hget := by
    have hmem := BTreeMap.mem_of_getElem?_collect hget
    rw [List.mem_singleton, Prod.mk.injEq] at hmem
    exact Or.inl (congrArg Arrival.hops hmem.1)
  goalPaths ids := by simp [Search.start]

/-- The popped chain survives and was not popped before, and it comes before all other states. -/
theorem Search.Layered.popped (h : search.Layered registry policy start goal done)
    (hpopped : Popped registry policy start goal search p others) :
    Survives registry policy start goal p.length p ∧ p ∉ done ∧
      ∀ state ∈ others, (stateOf policy start p).cmp state = .lt := by
  have hmem : stateOf policy start p ∈ search.heap :=
    hpopped.perm.mem_iff.mpr List.mem_cons_self
  obtain ⟨p', hp', heq, _⟩ := h.heap _ hmem
  rw [eq_of_stateOf_eq hp'.reached hpopped.reached heq] at hp'
  refine ⟨hp', fun hdone => ?_, fun state hstate => ?_⟩
  · have hlt := h.before p hdone _ hmem
    rw [SearchState.cmp_eq_eq.mpr rfl] at hlt
    cases hlt
  · have hle := hpopped.least state (hpopped.perm.mem_iff.mpr (List.mem_cons_of_mem _ hstate))
    have hnodup := hpopped.perm.nodup_iff.mp h.nodup
    cases hcmp : (stateOf policy start p).cmp state with
    | lt => rfl
    | eq =>
      rw [SearchState.cmp_eq_eq.mp hcmp] at hnodup
      exact absurd hstate (List.nodup_cons.mp hnodup).1
    | gt =>
      rw [hcmp] at hle
      cases hle

/-- A surviving chain that comes before the popped one was popped. -/
theorem Search.Layered.mem_done (h : search.Layered registry policy start goal done)
    (hpopped : Popped registry policy start goal search p others)
    (hq : Survives registry policy start goal q.length q)
    (hlt : (stateOf policy start q).cmp (stateOf policy start p) = .lt) : q ∈ done := by
  rcases h.pending q hq with hdone | ⟨q', r, rfl, hmem⟩
  · exact hdone
  · have hle := hpopped.least _ hmem
    have hprefix : ((stateOf policy start q').cmp (stateOf policy start (q' ++ r))).isLE := by
      cases r with
      | nil =>
        rw [List.append_nil, SearchState.cmp_eq_eq.mpr rfl]
        rfl
      | cons e r =>
        rw [cmp_stateOf_append (List.cons_ne_nil _ _)]
        rfl
    have hback := Std.TransCmp.isLE_trans hle hprefix
    rw [Std.OrientedCmp.gt_of_lt hlt] at hback
    cases hback

/-- The taken edges of the popped state are those that make surviving chains. -/
theorem Search.Layered.taken_iff (h : search.Layered registry policy start goal done)
    (hpopped : Popped registry policy start goal search p others)
    (hgoal : (chainGraph policy).endOf start p ≠ goal)
    (hmax : WithinHops policy.maxHops (p.length + 1))
    (he : e ∈ edgesFrom registry policy ((chainGraph policy).endOf start p)) :
    Taken policy start p (edgesFrom registry policy ((chainGraph policy).endOf start p))
      search.bestSeen e ↔ Survives registry policy start goal (p ++ [e]).length (p ++ [e]) := by
  obtain ⟨hp, _, _⟩ := h.popped hpopped
  have hfollows : ∀ e' ∈ edgesFrom registry policy ((chainGraph policy).endOf start p),
      Usable policy p e' → Follows policy start registry p e' := fun e' he' husable =>
    ⟨(mem_edgesFrom.mp he').2, (mem_edgesFrom.mp he').1, husable.unused, hmax, husable.fits⟩
  constructor
  · intro htaken
    rw [List.length_append]
    refine ⟨p, e, rfl, hp, hgoal, hfollows e he htaken.toUsable,
      fun p' e' hp' hgoal' hnext' htarget hbefore => ?_⟩
    have hlength := hp'.length_eq
    rcases hbefore with hlt | ⟨rfl, hlt⟩
    · rw [← hlength] at hp'
      obtain ⟨best, hget, hle⟩ := h.covered p' (h.mem_done hpopped hp' hlt) e' hgoal' hnext'
      have harrival : arrivalOf policy start (p' ++ [e']) = arrivalOf policy start (p ++ [e]) := by
        rw [arrivalOf_concat, arrivalOf_concat, htarget, hlength]
      rw [harrival] at hget
      exact (htaken.recorded best hget).trans hle
    · exact htaken.siblings e' (mem_edgesFrom.mpr ⟨hnext'.admitted, hnext'.source⟩)
        ⟨hnext'.unused, hnext'.fits⟩ htarget hlt
  · intro hsurvives
    obtain ⟨_, _, hnext, hleast⟩ := hsurvives.of_concat
    refine ⟨⟨hnext.unused, hnext.fits⟩, fun best hget => ?_,
      fun e' he' husable htarget hlt => ?_⟩
    · rcases h.recorded _ best hget with hzero | ⟨p', hp', e', hgoal', hnext', harrival, rfl⟩
      · simp [arrivalOf] at hzero
      · rw [arrivalOf_concat, arrivalOf_concat, Arrival.mk.injEq] at harrival
        have hp'' := h.survives p' hp'
        rw [Nat.succ_injective harrival.2] at hp''
        exact hleast p' e' hp'' hgoal' hnext' harrival.1
          (Or.inl (h.before p' hp' _ (hpopped.perm.mem_iff.mpr List.mem_cons_self)))
    · exact hleast p e' hp hgoal (hfollows e' he' husable) htarget (Or.inr ⟨rfl, hlt⟩)

/-- What a round has to do to the search for the invariant to be kept. -/
theorem Search.Layered.of_popped (h : search.Layered registry policy start goal done)
    (hpopped : Popped registry policy start goal search p others)
    (hheap : ∀ state, state ∈ next.heap ↔
      (∃ e, Survives registry policy start goal (p ++ [e]).length (p ++ [e]) ∧
        stateOf policy start (p ++ [e]) = state) ∨ state ∈ others)
    (hnodup : next.heap.Nodup)
    (hcovered : ∀ e, (chainGraph policy).endOf start p ≠ goal →
      Follows policy start registry p e →
      ∃ best, next.bestSeen[arrivalOf policy start (p ++ [e])]? = some best ∧
        best ≤ totalScore policy (p ++ [e]))
    (hlower : ∀ (arrival : Arrival) (best : Nat), search.bestSeen[arrival]? = some best →
      ∃ best', next.bestSeen[arrival]? = some best' ∧ best' ≤ best)
    (hrecorded : ∀ (arrival : Arrival) (best : Nat), next.bestSeen[arrival]? = some best →
      search.bestSeen[arrival]? = some best ∨
        ∃ e, (chainGraph policy).endOf start p ≠ goal ∧
        Follows policy start registry p e ∧ arrivalOf policy start (p ++ [e]) = arrival ∧
        totalScore policy (p ++ [e]) = best)
    (hgoalPaths : ∀ ids, ids ∈ next.goalPaths ↔ ids ∈ search.goalPaths ∨
      (chainGraph policy).endOf start p = goal ∧ chainIds p = ids) :
    next.Layered registry policy start goal (insert p done) := by
  obtain ⟨hp, _, hothers⟩ := h.popped hpopped
  have hmem : ∀ state ∈ others, state ∈ search.heap :=
    fun state hstate => hpopped.perm.mem_iff.mpr (List.mem_cons_of_mem _ hstate)
  refine ⟨fun state hstate => ?_, hnodup, fun p' hp' => ?_, fun p' hp' state hstate => ?_,
    fun c hc => ?_, fun p' hp' e hgoal hnext => ?_, fun arrival best hget => ?_, fun ids => ?_⟩
  · rcases (hheap state).mp hstate with ⟨e, he, heq⟩ | hstate
    · refine ⟨p ++ [e], he, heq, fun p' e' hlast => ?_⟩
      rw [(List.append_inj' hlast rfl).1]
      exact Set.mem_insert _ _
    · obtain ⟨p', hp', heq, hparent⟩ := h.heap state (hmem state hstate)
      exact ⟨p', hp', heq, fun p'' e' hlast => Set.mem_insert_of_mem _ (hparent p'' e' hlast)⟩
  · rcases hp' with rfl | hp'
    · exact hp
    · exact h.survives p' hp'
  · rcases (hheap state).mp hstate with ⟨e, _, rfl⟩ | hstate
    · have hchild : (stateOf policy start p).cmp (stateOf policy start (p ++ [e])) = .lt :=
        cmp_stateOf_append (List.cons_ne_nil e [])
      rcases hp' with rfl | hp'
      · exact hchild
      · refine Std.TransCmp.lt_trans (h.before p' hp' _ ?_) hchild
        exact hpopped.perm.mem_iff.mpr List.mem_cons_self
    · rcases hp' with rfl | hp'
      · exact hothers state hstate
      · exact h.before p' hp' state (hmem state hstate)
  · rcases h.pending c hc with hdone | ⟨q, r, rfl, hq⟩
    · exact Or.inl (Set.mem_insert_of_mem _ hdone)
    · -- A chain that waited for `p` is `p` itself, or waits for a child of `p` now.
      rcases List.mem_cons.mp (hpopped.perm.mem_iff.mp hq) with heq | hq
      · have hqp := eq_of_stateOf_eq hc.of_append.reached hpopped.reached heq
        rw [hqp] at hc ⊢
        cases r with
        | nil =>
          rw [List.append_nil]
          exact Or.inl (Set.mem_insert _ _)
        | cons e r =>
          rw [← List.singleton_append, ← List.append_assoc] at hc ⊢
          exact Or.inr ⟨p ++ [e], r, rfl, (hheap _).mpr (Or.inl ⟨e, hc.of_append, rfl⟩)⟩
      · exact Or.inr ⟨q, r, rfl, (hheap _).mpr (Or.inr hq)⟩
  · rcases hp' with rfl | hp'
    · exact hcovered e hgoal hnext
    · obtain ⟨best, hget, hle⟩ := h.covered p' hp' e hgoal hnext
      obtain ⟨best', hget', hle'⟩ := hlower _ best hget
      exact ⟨best', hget', hle'.trans hle⟩
  · rcases hrecorded arrival best hget with hold | ⟨e, hrest⟩
    · rcases h.recorded arrival best hold with hzero | ⟨p', hp', hrest⟩
      · exact Or.inl hzero
      · exact Or.inr ⟨p', Set.mem_insert_of_mem _ hp', hrest⟩
    · exact Or.inr ⟨p, Set.mem_insert _ _, e, hrest⟩
  · rw [hgoalPaths, h.goalPaths]
    constructor
    · rintro (⟨p', hp', hrest⟩ | hrest)
      · exact ⟨p', Set.mem_insert_of_mem _ hp', hrest⟩
      · exact ⟨p, Set.mem_insert _ _, hrest⟩
    · rintro ⟨p', rfl | hp', hrest⟩
      · exact Or.inr hrest
      · exact Or.inl ⟨p', hp', hrest⟩

/-- The states pushed by an expansion are distinct, and none of them was in the heap. -/
theorem Search.Layered.nodup_expanded (h : search.Layered registry policy start goal done)
    (hpopped : Popped registry policy start goal search p others)
    (hmax : WithinHops policy.maxHops (p.length + 1))
    (hexpanded : Expanded policy start p
      (edgesFrom registry policy ((chainGraph policy).endOf start p))
      { search with heap := others } next) : next.heap.Nodup := by
  obtain ⟨_, hnew, _⟩ := h.popped hpopped
  obtain ⟨kept, hsub, hkept, hheap⟩ := hexpanded.heap
  have hreached : ∀ e ∈ kept, Reached policy start registry (p ++ [e]) := by
    intro e he
    have hmem := mem_edgesFrom.mp (hsub.subset he)
    have htaken := (hkept e (hsub.subset he)).mp he
    exact hpopped.reached.concat ⟨hmem.2, hmem.1, htaken.unused, hmax, htaken.fits⟩
  have hkeptNodup : kept.Nodup := hsub.nodup ((specs_nodup.filter _).filter _)
  rw [hheap]
  refine List.nodup_append.mpr ⟨List.nodup_reverse.mpr ?_,
    (List.nodup_cons.mp (hpopped.perm.nodup_iff.mp h.nodup)).2, fun a ha b hb hab => ?_⟩
  · refine hkeptNodup.map_on fun a ha b hb heq => ?_
    have hchain := eq_of_stateOf_eq (hreached a ha) (hreached b hb) heq
    exact List.singleton_injective (List.append_cancel_left hchain)
  · subst hab
    obtain ⟨e, he, rfl⟩ := List.mem_map.mp (List.mem_reverse.mp ha)
    obtain ⟨c, hc, heq, hparent⟩ :=
      h.heap _ (hpopped.perm.mem_iff.mpr (List.mem_cons_of_mem _ hb))
    have hchain := eq_of_stateOf_eq hc.reached (hreached e he) heq
    exact hnew (hparent p e hchain)

/-- Every round keeps the invariant, with the popped chain done. -/
theorem Search.Layered.round (hsound : search.Sound registry policy start goal)
    (h : search.Layered registry policy start goal done)
    (hround : search.round registry policy goal = some next) :
    ∃ done, next.Layered registry policy start goal done := by
  obtain ⟨p, others, hpopped, hrounded⟩ := hsound.rounded hround
  refine ⟨insert p done, ?_⟩
  have hothers := (List.nodup_cons.mp (hpopped.perm.nodup_iff.mp h.nodup)).2
  cases hrounded with
  | goal hgoal =>
    refine h.of_popped hpopped (fun state => ?_) hothers (fun _ hne => absurd hgoal hne)
      (fun _ best hget => ⟨best, hget, le_rfl⟩) (fun _ _ hget => Or.inl hget) fun ids => ?_
    · refine (or_iff_right ?_).symm
      rintro ⟨e, he, _⟩
      exact he.of_concat.2.1 hgoal
    · rw [List.mem_append, List.mem_singleton, eq_comm (a := ids)]
      exact or_congr_right ⟨fun heq => ⟨hgoal, heq⟩, And.right⟩
  | limit hgoal hmax =>
    refine h.of_popped hpopped (fun state => ?_) hothers (fun _ _ hnext => absurd hnext.hops hmax)
      (fun _ best hget => ⟨best, hget, le_rfl⟩) (fun _ _ hget => Or.inl hget) fun ids => ?_
    · refine (or_iff_right ?_).symm
      rintro ⟨e, he, _⟩
      exact hmax he.of_concat.2.2.1.hops
    · exact (or_iff_left fun hend => hgoal hend.1).symm
  | expand _ hgoal hmax hexpanded =>
    refine h.of_popped hpopped (fun state => ?_) (h.nodup_expanded hpopped hmax hexpanded)
      (fun e _ hnext => ?_) hexpanded.lower (fun arrival best hget => ?_) fun ids => ?_
    · rw [hexpanded.mem_heap]
      refine or_congr_left ⟨?_, ?_⟩
      · rintro ⟨e, he, htaken, heq⟩
        exact ⟨e, (h.taken_iff hpopped hgoal hmax he).mp htaken, heq⟩
      · rintro ⟨e, hsurvives, heq⟩
        have hnext := hsurvives.of_concat.2.2.1
        have he := mem_edgesFrom.mpr ⟨hnext.admitted, hnext.source⟩
        exact ⟨e, he, (h.taken_iff hpopped hgoal hmax he).mpr hsurvives, heq⟩
    · exact hexpanded.covered e (mem_edgesFrom.mpr ⟨hnext.admitted, hnext.source⟩)
        ⟨hnext.unused, hnext.fits⟩
    · rcases hexpanded.recorded arrival best hget with hold | ⟨e, he, husable, hrest⟩
      · exact Or.inl hold
      · have hmem := mem_edgesFrom.mp he
        exact Or.inr ⟨e, hgoal, ⟨hmem.2, hmem.1, husable.unused, hmax, husable.fits⟩, hrest⟩
    · rw [hexpanded.goalPaths]
      exact (or_iff_left fun hend => hgoal hend.1).symm

/-- When the loop has ended, a goal path was found exactly when a chain to the goal survives. -/
theorem Search.Layered.goalPaths_ne_nil (hsound : search.Sound registry policy start goal)
    (h : search.Layered registry policy start goal done)
    (hend : search.round registry policy goal = none) :
    search.goalPaths ≠ [] ↔ ∃ n chain, Survives registry policy start goal n chain ∧
      (chainGraph policy).endOf start chain = goal := by
  constructor
  · intro hne
    obtain ⟨ids, hids⟩ := List.exists_mem_of_ne_nil _ hne
    obtain ⟨p, hp, hgoal, _⟩ := (h.goalPaths ids).mp hids
    exact ⟨p.length, p, h.survives p hp, hgoal⟩
  · rintro ⟨n, chain, hchain, hgoal⟩ hnil
    have hheap : search.heap = [] := by
      rcases round_eq_none hend with hempty | ⟨best, hbest, _⟩
      · exact hempty
      · rw [hsound.found.mpr hnil] at hbest
        cases hbest
    rw [← hchain.length_eq] at hchain
    rcases h.pending chain hchain with hdone | ⟨q, r, _, hmem⟩
    · have hfound := (h.goalPaths _).mpr ⟨chain, hdone, hgoal, rfl⟩
      rw [hnil] at hfound
      cases hfound
    · rw [hheap] at hmem
      cases hmem

/-! ## What the search finds -/

/-- A search that has found nothing reports so. -/
theorem resolveSearch_of_nil (h : search.goalPaths = []) :
    ∃ resolution, resolveSearch registry policy start goal search = some resolution ∧
      ∃ issue ∈ resolution.issues, issue.code = "cost_overflow" ∨ issue.code = "no_path" := by
  unfold resolveSearch
  rw [h, List.toFinset_nil, Finset.sort_empty]
  refine ⟨_, rfl, ?_⟩
  cases search.costOverflow with
  | false => exact ⟨_, List.mem_singleton.mpr rfl, Or.inr rfl⟩
  | true => exact ⟨_, List.mem_singleton.mpr rfl, Or.inl rfl⟩

/-- A search that has found a path names it, or several to choose from. -/
theorem Search.Sound.resolveSearch_of_ne_nil (hsound : search.Sound registry policy start goal)
    (h : search.goalPaths ≠ []) :
    ∃ resolution, resolveSearch registry policy start goal search = some resolution ∧
      ∀ issue ∈ resolution.issues, issue.code ≠ "cost_overflow" ∧
        issue.code ≠ "no_path" := by
  unfold resolveSearch
  split
  · next hnil =>
    obtain ⟨ids, hids⟩ := List.exists_mem_of_ne_nil _ h
    have hmem := (Finset.mem_sort (· ≤ ·)).mpr (List.mem_toFinset.mpr hids)
    rw [hnil] at hmem
    cases hmem
  · next first rest hsort =>
    split
    · refine ⟨_, rfl, fun issue hissue => ?_⟩
      rw [List.mem_singleton.mp hissue]
      simp
    · have hfirst : first ∈ search.goalPaths := by
        rw [← List.mem_toFinset, ← Finset.mem_sort (· ≤ ·), hsort]
        exact List.mem_cons_self
      obtain ⟨p, hp, _, rfl⟩ := hsound.goalPaths first hfirst
      refine ⟨_, hp.resolvePath_chainIds, fun issue hissue => ?_⟩
      cases hissue

/-- The search finds a path, or several to choose from, exactly when a chain to the goal
survives. -/
theorem findsPath_iff_survives (hne : start ≠ goal) :
    FindsPath registry policy start goal ↔
      ∃ n chain, Survives registry policy start goal n chain ∧
        (chainGraph policy).endOf start chain = goal := by
  obtain ⟨final, hsound, ⟨done, hlayered⟩, hend, hrun⟩ := findPathWithin_eq
    (I := fun search => ∃ done, search.Layered registry policy start goal done)
    (fun _ _ hsound ⟨_, hlayered⟩ hround => hlayered.round hsound hround)
    ⟨∅, Search.layered_start⟩ hne
  have hfind : findPath registry policy start goal = _ := hrun _ (Nat.lt_succ_self _)
  rw [← hlayered.goalPaths_ne_nil hsound hend, FindsPath, hfind]
  constructor
  · rintro ⟨resolution, hresolve, hissues⟩ hnil
    obtain ⟨_, hresolve', issue, hissue, hcode⟩ :=
      @resolveSearch_of_nil registry policy start goal final hnil
    cases hresolve.symm.trans hresolve'
    rcases hcode with hcode | hcode
    · exact (hissues issue hissue).1 hcode
    · exact (hissues issue hissue).2 hcode
  · exact hsound.resolveSearch_of_ne_nil

/-- A surviving chain to the goal is one that fits. -/
theorem Survives.fittingChain (h : Survives registry policy start goal n chain)
    (hgoal : (chainGraph policy).endOf start chain = goal) :
    FittingChain registry policy start goal chain := by
  refine ⟨hgoal ▸ h.reached.chain, h.reached.nodup, fun p hp => ?_⟩
  obtain ⟨q, rfl⟩ := hp
  exact h.reached.fits.of_append

/-- Where some chain fits, the search finds a path, or several to choose from, exactly when a
chain to the goal survives. -/
theorem findPath_finds_iff (registry : AdapterRegistry) (policy : PlanningPolicy)
    (start goal : RepresentationNode) (hne : start ≠ goal) :
    ((∃ chain, FittingChain registry policy start goal chain) →
        FindsPath registry policy start goal) ↔
      ((∃ chain, FittingChain registry policy start goal chain) →
        ∃ n chain, Survives registry policy start goal n chain ∧
          (chainGraph policy).endOf start chain = goal) := by
  rw [findsPath_iff_survives hne]

theorem hopRegistry_finds_iff :
    ((∃ chain, FittingChain hopRegistry hopPolicy (tableNode "s" rfl) (tableNode "g" rfl)
          chain) →
        FindsPath hopRegistry hopPolicy (tableNode "s" rfl) (tableNode "g" rfl)) ↔
      ((∃ chain, FittingChain hopRegistry hopPolicy (tableNode "s" rfl) (tableNode "g" rfl)
          chain) →
        ∃ n chain, Survives hopRegistry hopPolicy (tableNode "s" rfl) (tableNode "g" rfl) n
            chain ∧
          (chainGraph hopPolicy).endOf (tableNode "s" rfl) chain = tableNode "g" rfl) :=
  findPath_finds_iff hopRegistry hopPolicy (tableNode "s" rfl) (tableNode "g" rfl) (by decide)

/-- A least chain survives when its totals fit: nothing that arrives earlier at one of its nodes
has a lower score. -/
theorem LeastChain.survives (h : LeastChain registry policy start goal chain)
    (hfits : Fits policy chain) :
    Survives registry policy start goal chain.length chain := by
  have hreached : Reached policy start registry chain :=
    ⟨by rw [h.walk.endOf_eq]; exact h.toRoute, h.nodup, hfits⟩
  have hprefix : ∀ p q, p ++ q = chain → Survives registry policy start goal p.length p := by
    intro p
    induction p using List.reverseRecOn with
    | nil => exact fun _ _ => rfl
    | append_singleton p e ih =>
      intro q hq
      subst hq
      have hp := ih (e :: q) (by simp)
      have hgoal : (chainGraph policy).endOf start p ≠ goal := by
        rw [List.append_assoc, List.singleton_append] at h
        exact h.ne_of_prefix
      rw [List.length_append]
      refine ⟨p, e, rfl, hp, hgoal, hreached.of_append.of_concat.2,
        fun p' e' hp' _ hnext' htarget _ => ?_⟩
      refine LeastChain.unbeaten_prefix h _ (hp'.reached.concat hnext') ?_
      rw [arrivalOf_concat, arrivalOf_concat, htarget, hp'.length_eq]
  exact hprefix chain [] (List.append_nil _)

end Pruning

/-! ## A pruned chain that fits -/

def exactAdapter : AdapterSpec :=
  plainAdapter "exact" (tableNode "s" rfl) (tableNode "b" rfl) 1000001

def lossyAdapter : AdapterSpec :=
  { plainAdapter "lossy" (tableNode "s" rfl) (tableNode "b" rfl) 0 with lossy := true }

def restAdapter : AdapterSpec :=
  plainAdapter "rest" (tableNode "b" rfl) (tableNode "g" rfl) 18446744073708551615

/-- Two preferred adapters, and a lossy one with the cost zero. -/
def pruningRegistry : AdapterRegistry :=
  (AdapterRegistry.fromSpec [exactAdapter, lossyAdapter, restAdapter]).toOption.getD .empty

def pruningPolicy : PlanningPolicy :=
  { PlanningPolicy.default with
    allowLossy := true
    preferredAdapters := BTreeSet.collect ["exact", "rest"] }

/-- The lossy adapter has the higher score, so the way over it is pruned; the other way costs one
more than a `u64` holds. -/
theorem pruningRegistry_overflows : tableNode "s" rfl ≠ tableNode "g" rfl ∧
    (∃ chain, FittingChain pruningRegistry pruningPolicy (tableNode "s" rfl)
      (tableNode "g" rfl) chain) ∧
      ¬FindsPath pruningRegistry pruningPolicy (tableNode "s" rfl) (tableNode "g" rfl) := by
  refine ⟨by decide, ?_, ?_⟩
  · have hlossy : lossyAdapter ∈ pruningRegistry.specs :=
      mem_specs.mpr (show pruningRegistry.adapters["lossy"]? = some lossyAdapter from rfl)
    have hrest : restAdapter ∈ pruningRegistry.specs :=
      mem_specs.mpr (show pruningRegistry.adapters["rest"]? = some restAdapter from rfl)
    have hfits : Fits pruningPolicy [lossyAdapter, restAdapter] :=
      ⟨by decide +kernel, by decide +kernel⟩
    refine ⟨[lossyAdapter, restAdapter],
      ⟨⟨rfl, rfl, rfl⟩, fun a ha => ?_, fun _ h => by cases h⟩, ?_,
      fun p hp => ?_⟩
    · rcases List.mem_cons.mp ha with rfl | ha
      · exact ⟨hlossy, by decide +kernel⟩
      · rw [List.mem_singleton.mp ha]
        exact ⟨hrest, by decide +kernel⟩
    · refine List.Nodup.of_map (·.id) ?_
      decide
    · obtain ⟨q, hq⟩ := hp
      exact Fits.of_append (q := q) (hq ▸ hfits)
  · rintro ⟨resolution, hfind, hissues⟩
    have hcodes : ((findPath pruningRegistry pruningPolicy (tableNode "s" rfl)
        (tableNode "g" rfl)).map fun r => r.issues.map (·.code)) = some ["cost_overflow"] := by
      decide +kernel
    rw [hfind, Option.map_some, Option.some.injEq] at hcodes
    have hmem : "cost_overflow" ∈ resolution.issues.map (·.code) := by
      rw [hcodes]
      exact List.mem_singleton.mpr rfl
    obtain ⟨issue, hissue, hcode⟩ := List.mem_map.mp hmem
    exact (hissues issue hissue).1 hcode

end DagMlData
