import DagMlData.AdapterSearch

/-!
# The adapter search finds the least chains

`findPath_agrees`: when the sums of all scores and of all costs fit, the search agrees with the
enumeration of all chains.

The invariant `Search.Inv` carries the proof. Every least chain is found, or some prefix of it
is in the heap (`pending`). A prefix of a least chain is never pruned, since a lower score for
the same arrival would make a chain that precedes the least one. The heap is popped in order, so
the first chain that reaches the goal is a least one, and the loop does not end while a least
chain is pending.
-/

namespace DagMlData

open Guard WeightedGraph

section Enumeration

variable {registry : AdapterRegistry} {policy : PlanningPolicy} {start goal : RepresentationNode}
  {search next : Search} {p q chain : List AdapterSpec} {adapter : AdapterSpec}

/-- The scores and the costs of all registered adapters can be summed. -/
structure SumsFit (registry : AdapterRegistry) (policy : PlanningPolicy) : Prop where
  scores : totalScore policy registry.specs < u64Size
  costs : totalCost registry.specs < u64Size

theorem SumsFit.fits (hfit : SumsFit registry policy) (hp : ∀ a ∈ p, a ∈ registry.specs)
    (hnodup : p.Nodup) : Fits policy p :=
  ⟨lt_of_le_of_lt (sum_le_total hp hnodup _) hfit.scores,
    lt_of_le_of_lt (sum_le_total hp hnodup _) hfit.costs⟩

/-! ## Prefixes of least chains -/

theorem LeastChain.mem_specs (h : LeastChain registry policy start goal chain) :
    ∀ a ∈ chain, a ∈ registry.specs :=
  fun a ha => (h.edges a ha).1

/-- A least chain repeats no adapter, so it is reached. -/
theorem LeastChain.reached (hfit : SumsFit registry policy)
    (h : LeastChain registry policy start goal chain) : Reached policy start registry chain := by
  refine ⟨?_, h.nodup, hfit.fits h.mem_specs h.nodup⟩
  rw [h.walk.endOf_eq]
  exact h.toRoute

/-- No reached chain arrives at the same node after as many hops with a lower score. -/
def Unbeaten (registry : AdapterRegistry) (policy : PlanningPolicy) (start : RepresentationNode)
    (p : List AdapterSpec) : Prop :=
  ∀ q, Reached policy start registry q → arrivalOf policy start q = arrivalOf policy start p →
    totalScore policy p ≤ totalScore policy q

/-- The prefixes of a least chain are unbeaten. -/
theorem LeastChain.unbeaten_prefix (h : LeastChain registry policy start goal (p ++ q)) :
    Unbeaten registry policy start p := by
  intro p' hp' harrival
  have hwalk := hp'.chain.walk
  rw [show (chainGraph policy).endOf start p' = (chainGraph policy).endOf start p from
    congrArg Arrival.node harrival] at hwalk
  exact h.weight_le_of_prefix hwalk hp'.chain.edges (congrArg Arrival.hops harrival)

/-- The next adapter of a least chain is taken. -/
theorem LeastChain.taken (hfit : SumsFit registry policy)
    (hsound : search.Sound registry policy start goal) (hp : Reached policy start registry p)
    (hmax : WithinHops policy.maxHops (p.length + 1))
    (h : LeastChain registry policy start goal (p ++ adapter :: q)) :
    adapter ∈ edgesFrom registry policy ((chainGraph policy).endOf start p) ∧
      Taken policy start p (edgesFrom registry policy ((chainGraph policy).endOf start p))
        search.bestSeen adapter := by
  have h' : LeastChain registry policy start goal ((p ++ [adapter]) ++ q) := by simpa using h
  have hunbeaten := LeastChain.unbeaten_prefix h'
  obtain ⟨_, hnext⟩ := (LeastChain.reached hfit h').of_append.of_concat
  refine ⟨mem_edgesFrom.mpr ⟨hnext.admitted, hnext.source⟩, ⟨hnext.unused, hnext.fits⟩,
    fun best hget => ?_, fun e he husable htarget _ => ?_⟩
  · obtain ⟨r, hr, harrival, hscore⟩ := hsound.bestSeen _ best hget
    exact hscore ▸ hunbeaten r hr harrival
  · obtain ⟨hadmitted, hsource⟩ := mem_edgesFrom.mp he
    refine hunbeaten _ (hp.concat ⟨hsource, hadmitted, husable.unused, hmax, husable.fits⟩) ?_
    rw [arrivalOf_concat, arrivalOf_concat, htarget]

/-! ## The invariant of the loop -/

variable (registry policy start goal) in
/-- The invariant of the search. -/
structure Search.Inv (search : Search) : Prop where
  costOverflow : search.costOverflow = false
  bestGoal : ∀ best, search.bestGoal = some best →
    ∃ m, LeastChain registry policy start goal m ∧
      (chainGraph policy).key m = toLex (best.1, best.2.1)
  goalPaths : ∀ ids ∈ search.goalPaths,
    ∃ m, LeastChain registry policy start goal m ∧ chainIds m = ids
  pending : ∀ m, LeastChain registry policy start goal m → chainIds m ∈ search.goalPaths ∨
    ∃ p q, m = p ++ q ∧ stateOf policy start p ∈ search.heap

theorem key_stateOf_le_append :
    (stateOf policy start p).key ≤ (chainGraph policy).key (p ++ q) := by
  rw [key_stateOf]
  exact key_le_append

/-- A popped state of the goal belongs to a least chain. -/
theorem Search.Inv.leastChain (hinv : search.Inv registry policy start goal)
    (hsound : search.Sound registry policy start goal) {others : List SearchState}
    (hpopped : Popped registry policy start goal search p others)
    (hgoal : (chainGraph policy).endOf start p = goal) :
    LeastChain registry policy start goal p := by
  have hchain : Chain registry policy start goal p := hgoal ▸ hpopped.reached.chain
  obtain ⟨m, hm⟩ := hchain.exists_least
  refine hchain.least_of_key_le hm ?_
  rw [show (chainGraph policy).key p = (stateOf policy start p).key from rfl]
  rcases hinv.pending m hm with hfound | ⟨p', q, rfl, hheap⟩
  · have hsome : search.bestGoal ≠ none := fun hnone =>
      List.ne_nil_of_mem hfound (hsound.found.mp hnone)
    obtain ⟨best, hbest⟩ := Option.ne_none_iff_exists'.mp hsome
    obtain ⟨m', hm', hkey⟩ := hinv.bestGoal best hbest
    have hnot := hpopped.notAfter best hbest
    rw [← Bool.not_eq_true, SearchState.isAfter_iff, not_lt, ← hkey, hm'.key_eq hm] at hnot
    exact hnot
  · exact le_trans (SearchState.key_le_of_cmp_isLE (hpopped.least _ hheap)) key_stateOf_le_append

/-- The invariant is kept by every round. -/
theorem Search.Inv.round (hfit : SumsFit registry policy)
    (hsound : search.Sound registry policy start goal)
    (hinv : search.Inv registry policy start goal)
    (h : search.round registry policy goal = some next) :
    next.Inv registry policy start goal := by
  obtain ⟨p, others, hpopped, hrounded⟩ := hsound.rounded h
  -- The least chains that are still pending, with the popped state set apart.
  have hpending : ∀ m, LeastChain registry policy start goal m →
    chainIds m ∈ search.goalPaths ∨
      (∃ q, m = p ++ q) ∨ ∃ p' q, m = p' ++ q ∧ stateOf policy start p' ∈ others := by
    intro m hm
    rcases hinv.pending m hm with hfound | ⟨p', q, rfl, hmem⟩
    · exact Or.inl hfound
    · rcases List.mem_cons.mp (hpopped.perm.mem_iff.mp hmem) with heq | hmem
      · have hp' := (LeastChain.reached hfit hm).of_append
        exact Or.inr (Or.inl ⟨q, by rw [eq_of_stateOf_eq hp' hpopped.reached heq]⟩)
      · exact Or.inr (Or.inr ⟨p', q, rfl, hmem⟩)
  cases hrounded with
  | goal hgoal =>
    -- The state is at the goal: its chain is a least one.
    have hleast := hinv.leastChain hsound hpopped hgoal
    refine ⟨hinv.costOverflow, fun best hbest => ?_, fun ids hids => ?_, fun m hm => ?_⟩
    · cases hold : search.bestGoal with
      | none =>
        rw [hold] at hbest
        cases hbest
        exact ⟨p, hleast, rfl⟩
      | some old =>
        rw [hold] at hbest
        exact hinv.bestGoal best (hold.trans hbest)
    · rcases List.mem_append.mp hids with hids | hids
      · exact hinv.goalPaths ids hids
      · exact ⟨p, hleast, (List.mem_singleton.mp hids).symm⟩
    · rcases hpending m hm with hfound | ⟨q, rfl⟩ | hrest
      · exact Or.inl (List.mem_append_left _ hfound)
      · cases q with
        | nil => exact Or.inl (by simp)
        | cons e q => exact absurd hgoal hm.ne_of_prefix
      · exact Or.inr hrest
  | limit hgoal hmax =>
    -- No hop is left: no least chain goes on from here.
    refine ⟨hinv.costOverflow, hinv.bestGoal, hinv.goalPaths, fun m hm => ?_⟩
    rcases hpending m hm with hfound | ⟨q, rfl⟩ | hrest
    · exact Or.inl hfound
    · cases q with
      | nil =>
        rw [List.append_nil] at hm
        exact absurd hm.walk.endOf_eq hgoal
      | cons e q => exact absurd (hm.hops.mono (by simp)) hmax
    · exact Or.inr hrest
  | expand after hgoal hmax hexpanded =>
    -- The state is expanded: the next prefix of a least chain is pushed.
    refine ⟨?_, by rw [hexpanded.bestGoal]; exact hinv.bestGoal,
      by rw [hexpanded.goalPaths]; exact hinv.goalPaths, fun m hm => ?_⟩
    · rw [← Bool.not_eq_true]
      intro htrue
      rcases hexpanded.overflow htrue with hbefore | ⟨e, he, hunused, hnot⟩
      · exact absurd (hinv.costOverflow.symm.trans hbefore) Bool.false_ne_true
      · refine hnot (hfit.fits (fun a ha => ?_) ?_)
        · rcases List.mem_append.mp ha with ha | ha
          · exact hpopped.reached.mem_specs a ha
          · exact List.mem_singleton.mp ha ▸ (mem_edgesFrom.mp he).1.1
        · refine List.nodup_append.mpr
            ⟨hpopped.reached.nodup, List.nodup_singleton _, fun a ha b hb => ?_⟩
          rintro rfl
          rw [List.mem_singleton.mp hb] at ha
          exact hunused (List.mem_map_of_mem ha)
    · rw [hexpanded.goalPaths]
      rcases hpending m hm with hfound | ⟨q, rfl⟩ | ⟨p', q, hm', hmem⟩
      · exact Or.inl hfound
      · cases q with
        | nil =>
          rw [List.append_nil] at hm
          exact absurd hm.walk.endOf_eq hgoal
        | cons e q =>
          obtain ⟨he, htaken⟩ := LeastChain.taken hfit hsound hpopped.reached hmax hm
          exact Or.inr ⟨p ++ [e], q, by simp,
            hexpanded.mem_heap.mpr (Or.inl ⟨e, he, htaken, rfl⟩)⟩
      · exact Or.inr ⟨p', q, hm', hexpanded.mem_heap.mpr (Or.inr hmem)⟩

/-- The invariant holds before the first round. -/
theorem Search.inv_start : (Search.start start).Inv registry policy start goal where
  costOverflow := rfl
  bestGoal best hbest := by cases hbest
  goalPaths ids hids := by cases hids
  pending m _ := Or.inr ⟨[], m, rfl, List.mem_singleton.mpr rfl⟩

/-- When the loop has ended, every least chain is found. -/
theorem Search.Inv.mem_goalPaths (hinv : search.Inv registry policy start goal)
    (hend : search.round registry policy goal = none) {ids : List String} :
    ids ∈ search.goalPaths ↔ ∃ m, LeastChain registry policy start goal m ∧
      chainIds m = ids := by
  refine ⟨hinv.goalPaths ids, ?_⟩
  rintro ⟨m, hm, rfl⟩
  rcases hinv.pending m hm with hfound | ⟨p, q, rfl, hmem⟩
  · exact hfound
  · rcases round_eq_none hend with hempty | ⟨best, hbest, hafter⟩
    · rw [hempty] at hmem
      cases hmem
    · obtain ⟨m', hm', hkey⟩ := hinv.bestGoal best hbest
      have hlt := lt_of_lt_of_le (hafter _ hmem) (key_stateOf_le_append (q := q))
      rw [← hkey, hm'.key_eq hm] at hlt
      exact absurd hlt (lt_irrefl _)

/-! ## What the search returns -/

variable (registry policy start goal) in
/-- What the enumeration of all chains says that the resolution has to be. -/
structure AgreesWithEnumeration (resolution : PathResolution) : Prop where
  noPath : (∃ issue ∈ resolution.issues, issue.code = "no_path") ↔
    ¬∃ chain, Chain registry policy start goal chain
  noChain : (¬∃ chain, Chain registry policy start goal chain) → resolution.path = none
  unique : ∀ chain, LeastChain registry policy start goal chain →
    (∀ other, LeastChain registry policy start goal other → other = chain) →
      resolution = resolvedChain policy chain
  choice : policy.requireUserChoiceOnAmbiguity = true →
    (∃ chain other, LeastChain registry policy start goal chain ∧
      LeastChain registry policy start goal other ∧ chain ≠ other) →
    ∃ chains : List (List AdapterSpec), chains.Nodup ∧
      (∀ chain, chain ∈ chains ↔ LeastChain registry policy start goal chain) ∧
      resolution = .unresolved "ambiguous_path"
        "multiple equivalent adapter paths require user choice"
        (chains.map fun chain => renderPath (chainIds chain))
  first : policy.requireUserChoiceOnAmbiguity = false →
    (∃ chain, Chain registry policy start goal chain) →
    ∃ chain, LeastChain registry policy start goal chain ∧
      (∀ other, LeastChain registry policy start goal other →
        chainIds chain ≤ chainIds other) ∧
      resolution = resolvedChain policy chain

/-- A list of images is the image of a list. -/
theorem exists_map_eq {α β : Type} {P : α → Prop} {f : α → β} {l : List β}
    (h : ∀ b ∈ l, ∃ a, P a ∧ f a = b) :
      ∃ as : List α, as.map f = l ∧ ∀ a ∈ as, P a := by
  induction l with
  | nil => exact ⟨[], rfl, by simp⟩
  | cons b l ih =>
    obtain ⟨as, hmap, has⟩ := ih fun b' hb' => h b' (List.mem_cons_of_mem _ hb')
    obtain ⟨a, ha, rfl⟩ := h b List.mem_cons_self
    refine ⟨a :: as, by rw [List.map_cons, hmap], fun a' ha' => ?_⟩
    rcases List.mem_cons.mp ha' with rfl | ha'
    · exact ha
    · exact has a' ha'

/-- Where there is a chain, there is a least one. -/
theorem exists_leastChain :
    (∃ chain, LeastChain registry policy start goal chain) ↔
      ∃ chain, Chain registry policy start goal chain :=
  ⟨fun ⟨chain, h⟩ => ⟨chain, h.toRoute⟩, fun ⟨_, h⟩ => h.exists_least⟩

/-- The sorted goal paths of a finished search are the ids of the least chains. -/
theorem Search.Inv.resolveSearch_agrees (hfit : SumsFit registry policy)
    (hinv : search.Inv registry policy start goal)
    (hend : search.round registry policy goal = none) :
    ∃ resolution, resolveSearch registry policy start goal search = some resolution ∧
      AgreesWithEnumeration registry policy start goal resolution := by
  have hmem : ∀ ids, ids ∈ search.goalPaths.toFinset.sort (· ≤ ·) ↔
      ∃ m, LeastChain registry policy start goal m ∧ chainIds m = ids := fun ids => by
    rw [Finset.mem_sort, List.mem_toFinset, hinv.mem_goalPaths hend]
  have hsorted := search.goalPaths.toFinset.pairwise_sort (· ≤ ·)
  have hnodup := search.goalPaths.toFinset.sort_nodup (· ≤ ·)
  obtain ⟨chains, hchains, hleast⟩ := exists_map_eq fun ids hids => (hmem ids).mp hids
  have hall : ∀ m, m ∈ chains ↔ LeastChain registry policy start goal m := by
    refine fun m => ⟨hleast m, fun hm => ?_⟩
    have hids := (hmem (chainIds m)).mpr ⟨m, hm, rfl⟩
    rw [← hchains] at hids
    obtain ⟨m', hm', heq⟩ := List.mem_map.mp hids
    rwa [← chainIds_injOn (hleast m' hm').mem_specs hm.mem_specs heq]
  rw [← hchains] at hsorted hnodup
  unfold resolveSearch
  rw [← hchains, hinv.costOverflow]
  cases chains with
  | nil =>
    have hnone : ¬∃ chain, Chain registry policy start goal chain := by
      rw [← exists_leastChain]
      rintro ⟨m, hm⟩
      exact List.not_mem_nil ((hall m).mpr hm)
    refine ⟨_, rfl, ⟨⟨fun _ => hnone, fun _ => ⟨_, List.mem_singleton.mpr rfl, rfl⟩⟩,
      fun _ => rfl, fun m hm _ => ?_, fun _ ⟨m, _, hm, _⟩ => ?_, fun _ h => absurd h hnone⟩⟩
    · exact absurd ⟨m, hm.toRoute⟩ hnone
    · exact absurd ⟨m, hm.toRoute⟩ hnone
  | cons m rest =>
    have hm := (hall m).mp List.mem_cons_self
    have hsome : ∃ chain, Chain registry policy start goal chain := ⟨m, hm.toRoute⟩
    have hfirst : ∀ other, LeastChain registry policy start goal other →
        chainIds m ≤ chainIds other := by
      intro other hother
      rcases List.mem_cons.mp ((hall other).mpr hother) with rfl | hrest
      · exact le_refl _
      · exact (List.pairwise_cons.mp hsorted).1 _ (List.mem_map_of_mem hrest)
    rw [List.map_cons]
    simp only
    split
    · next hambiguous =>
      rw [Bool.and_eq_true] at hambiguous
      obtain ⟨hrest, hchoice⟩ := hambiguous
      refine ⟨_, rfl, ⟨⟨?_, fun h => absurd hsome h⟩, fun h => absurd hsome h,
        fun c hc honly => ?_,
        fun _ _ => ⟨m :: rest, hnodup.of_map _, hall, by simp [Function.comp_def]⟩,
          fun h => ?_⟩⟩
      · rintro ⟨issue, hissue, hcode⟩
        rw [List.mem_singleton.mp hissue] at hcode
        simp at hcode
      · cases rest with
        | nil => simp at hrest
        | cons m' rest =>
          have hm' := (hall m').mp (by simp)
          have heq : chainIds m = chainIds m' := by rw [honly m hm, honly m' hm']
          simp [heq] at hnodup
      · rw [h] at hchoice
        cases hchoice
    · next hsingle =>
      refine ⟨_, (LeastChain.reached hfit hm).resolvePath_chainIds,
        ⟨⟨?_, fun h => absurd hsome h⟩,
        fun h => absurd hsome h, fun c hc honly => by rw [honly m hm], fun hchoice h => ?_,
        fun _ _ => ⟨m, hm, hfirst, rfl⟩⟩⟩
      · rintro ⟨issue, hissue, _⟩
        cases hissue
      · rw [hchoice, Bool.and_true, Bool.not_eq_true, Bool.not_eq_false', List.isEmpty_iff,
          List.map_eq_nil_iff] at hsingle
        subst hsingle
        obtain ⟨c, c', hc, hc', hne⟩ := h
        rw [List.mem_singleton.mp ((hall c).mpr hc), List.mem_singleton.mp ((hall c').mpr hc')]
          at hne
        exact absurd rfl hne

/-- From a node to itself the empty chain is the only least one. -/
theorem agrees_refl : AgreesWithEnumeration registry policy start start
    (.resolved ⟨[], 0, 0⟩) := by
  have hnil : LeastChain registry policy start start [] :=
    ⟨⟨rfl, by simp, fun _ _ => Nat.zero_le _⟩, fun q _ => key_le_append (p := []) (q := q)⟩
  have honly : ∀ m, LeastChain registry policy start start m → m = [] := by
    intro m hm
    have hle := hm.least [] hnil.toRoute
    rw [key_le_iff] at hle
    exact List.eq_nil_of_length_eq_zero (by simp at hle; simp [hle])
  have hsome : ∃ chain, Chain registry policy start start chain := ⟨[], hnil.toRoute⟩
  refine ⟨⟨?_, fun h => absurd hsome h⟩, fun h => absurd hsome h, fun c hc _ => ?_,
    fun _ ⟨c, c', hc, hc', hne⟩ => ?_, fun _ _ => ⟨[], hnil, fun m hm => ?_, rfl⟩⟩
  · rintro ⟨issue, hissue, _⟩
    cases hissue
  · rw [honly c hc]
    rfl
  · exact absurd ((honly c hc).trans (honly c' hc').symm) hne
  · rw [honly m hm]

/-- The search returns on every registry, with a bound on its rounds. What it returns agrees with
the enumeration of all chains when the sums of all scores and of all costs fit. -/
theorem findPath_agrees (registry : AdapterRegistry) (policy : PlanningPolicy)
    (start goal : RepresentationNode) :
    ∃ resolution, findPath registry policy start goal = some resolution ∧
      (∀ fuel, branching registry.specs.length < fuel →
        findPathWithin registry policy fuel start goal = some resolution) ∧
      (SumsFit registry policy →
        AgreesWithEnumeration registry policy start goal resolution) := by
  by_cases heq : start = goal
  · subst heq
    refine ⟨.resolved ⟨[], 0, 0⟩, ?_, fun fuel _ => ?_, fun _ => agrees_refl⟩
    · simp [findPath, findPathWithin]
    · simp [findPathWithin]
  · -- The invariant of the search needs the sums to fit, its end does not.
    obtain ⟨final, hsound, hfinal, hend, hrun⟩ := findPathWithin_eq
      (I := fun search => SumsFit registry policy → search.Inv registry policy start goal)
      (fun _ _ hsound hinv hround hfit => Search.Inv.round hfit hsound (hinv hfit) hround)
      (fun _ => Search.inv_start) heq
    obtain ⟨resolution, hresolve, -⟩ := hsound.resolveSearch_eq_some
    have hwithin : ∀ fuel, branching registry.specs.length < fuel →
        findPathWithin registry policy fuel start goal = some resolution :=
      fun fuel hfuel => (hrun fuel hfuel).trans hresolve
    refine ⟨resolution, hwithin _ (Nat.lt_succ_self _), hwithin, fun hfit => ?_⟩
    obtain ⟨resolution', hresolve', hagrees⟩ := (hfinal hfit).resolveSearch_agrees hfit hend
    cases hresolve.symm.trans hresolve'
    exact hagrees

end Enumeration

/-! ## A registry with a hop limit -/

def tableNode (representation : String)
    (h : true = (validateIdentifier representation).isOk) : RepresentationNode :=
  ⟨.lit "table" rfl, .lit representation h⟩

/-- An adapter of the default kind between two nodes. -/
def plainAdapter (id : String) (input output : RepresentationNode) (cost : Nat) : AdapterSpec where
  id
  version := "1"
  inputType := input.typeId
  inputRepresentation := input.representationId
  outputType := output.typeId
  outputRepresentation := output.representationId
  cost
  lossy := false
  supervised := false
  stateful := false
  deterministic := true
  fitScope := .stateless
  params := ∅

def hopRegistry : AdapterRegistry :=
  (AdapterRegistry.fromSpec [
    plainAdapter "cheap_sa" (tableNode "s" rfl) (tableNode "a" rfl) 1,
    plainAdapter "cheap_ab" (tableNode "a" rfl) (tableNode "b" rfl) 1,
    plainAdapter "cheap_bc" (tableNode "b" rfl) (tableNode "c" rfl) 1,
    plainAdapter "costly_sx" (tableNode "s" rfl) (tableNode "x" rfl) 10,
    plainAdapter "xc" (tableNode "x" rfl) (tableNode "c" rfl) 1,
    plainAdapter "cg" (tableNode "c" rfl) (tableNode "g" rfl) 1]).toOption.getD .empty

def hopPolicy : PlanningPolicy := { PlanningPolicy.default with maxHops := some 3 }

theorem hopRegistry_agrees : ∃ resolution,
    findPath hopRegistry hopPolicy (tableNode "s" rfl) (tableNode "g" rfl) = some resolution ∧
      AgreesWithEnumeration hopRegistry hopPolicy (tableNode "s" rfl) (tableNode "g" rfl)
        resolution := by
  have hfit : SumsFit hopRegistry hopPolicy := ⟨by decide +kernel, by decide +kernel⟩
  obtain ⟨resolution, hfound, _, hagrees⟩ :=
    findPath_agrees hopRegistry hopPolicy (tableNode "s" rfl) (tableNode "g" rfl)
  exact ⟨resolution, hfound, hagrees hfit⟩

/-- The cheap way to `c` has too many hops to go on. -/
example :
    ((findPath hopRegistry hopPolicy (tableNode "s" rfl) (tableNode "g" rfl)).bind (·.path)).map
      (fun path => chainIds path.adapters) = some ["costly_sx", "xc", "cg"] := by
  decide +kernel

end DagMlData
