import DagMlData.Planner

/-!
# What the planner resolves

The candidates of a request, the sources that are resolved for a port, and what is reported of
them. `resolvePort_eq_ok`: the sources of a port are candidates, and all of them lead to one type
and representation that the port accepts.
-/

namespace DagMlData

open Guard RustText SortOn

/-! ## Resolved sources -/

section Resolve
variable {registry : AdapterRegistry} {policy : PlanningPolicy} {source : SourceDescriptor}
  {candidates eligible : List SourceDescriptor} {port : InputPortSpec}
  {start goal target : RepresentationNode} {r : ResolvedSource} {resolved : List ResolvedSource}

theorem pathResolution_eq {resolution : PathResolution}
    (h : findPath registry policy start goal = some resolution) :
    pathResolution registry policy start goal = resolution := by
  unfold pathResolution
  rw [Option.get_of_eq_some _ h]

theorem pathResolution_chain {path : AdapterPath}
    (h : (pathResolution registry policy start goal).path = some path) :
    Chain registry policy start goal path.adapters := by
  obtain ⟨resolution, hfound, hchain⟩ := findPath_eq_some registry policy start goal
  rw [pathResolution_eq hfound] at h
  exact hchain path h

/-- With or without a choice, the path is a chain. -/
theorem candidatePath_chain {path : AdapterPath}
    (h : candidatePath registry policy start goal = some path) :
    Chain registry policy start goal path.adapters := by
  unfold candidatePath at h
  dsimp only at h
  split at h
  · -- The chain is of the same adapters, since the search does not look at the choice.
    have hchain := pathResolution_chain h
    exact hchain
  · exact pathResolution_chain h

/-- The paths that the search finds, which are equally good. -/
def bestPaths (registry : AdapterRegistry) (policy : PlanningPolicy)
    (start goal : RepresentationNode) : Finset (List String) :=
  if start = goal then ∅
  else
    ((Search.start start).run registry policy goal (branching registry.specs.length + 1)).elim ∅
      fun search => search.goalPaths.toFinset

def Ambiguous (registry : AdapterRegistry) (policy : PlanningPolicy)
    (start goal : RepresentationNode) : Prop :=
  1 < (bestPaths registry policy start goal).card

theorem findPath_eq_of_bestPaths {first : List String} {rest : List (List String)}
    (h : (bestPaths registry policy start goal).sort (· ≤ ·) = first :: rest) :
    findPath registry policy start goal =
      if !rest.isEmpty && policy.requireUserChoiceOnAmbiguity then
        some (.unresolved "ambiguous_path"
          "multiple equivalent adapter paths require user choice" ((first :: rest).map renderPath))
      else resolvePath registry policy first := by
  unfold bestPaths at h
  split at h
  · rw [Finset.sort_empty] at h
    cases h
  · next hne =>
    unfold findPath findPathWithin
    rw [if_neg hne]
    cases hrun : (Search.start start).run registry policy goal
        (branching registry.specs.length + 1) with
    | none =>
      rw [hrun, Option.elim_none, Finset.sort_empty] at h
      cases h
    | some search =>
      rw [hrun, Option.elim_some] at h
      show resolveSearch registry policy start goal search = _
      unfold resolveSearch
      rw [h]

/-- A path that is named comes without issues. -/
theorem resolvePath_eq_resolved {ids : List String} {resolution : PathResolution}
    {path : AdapterPath} (h : resolvePath registry policy ids = some resolution)
    (hpath : resolution.path = some path) : resolution = .resolved path := by
  unfold resolvePath at h
  obtain ⟨adapters, -, h⟩ := Option.bind_eq_some_iff.mp h
  dsimp only at h
  split at h
  · obtain rfl := Option.some.inj h
    obtain rfl := Option.some.inj hpath
    rfl
  · obtain rfl := Option.some.inj h
    cases hpath

/-- A policy that requires a choice gets all of the paths reported. -/
theorem Ambiguous.reported (h : Ambiguous registry policy start goal)
    (hpolicy : policy.requireUserChoiceOnAmbiguity = true) :
    ∃ issue ∈ (pathResolution registry policy start goal).issues,
      issue.code = "ambiguous_path" ∧
      ∀ path ∈ bestPaths registry policy start goal, renderPath path ∈ issue.choices := by
  unfold Ambiguous at h
  rw [← Finset.length_sort (· ≤ ·)] at h
  cases hbest : (bestPaths registry policy start goal).sort (· ≤ ·) with
  | nil =>
    rw [hbest] at h
    cases h
  | cons first rest =>
    have hrest : rest.isEmpty = false := by
      rw [hbest, List.length_cons] at h
      exact List.isEmpty_eq_false_iff.mpr (List.length_pos_iff.mp (Nat.lt_of_succ_lt_succ h))
    have hfound := findPath_eq_of_bestPaths hbest
    rw [hrest, hpolicy] at hfound
    rw [pathResolution_eq hfound]
    refine ⟨_, List.mem_singleton.mpr rfl, rfl, fun path hpath => List.mem_map_of_mem ?_⟩
    rw [← hbest]
    exact (Finset.mem_sort _).mpr hpath

/-- What the resolution of a source for a port and a target establishes. -/
structure ResolvedSource.ResolvedFor (registry : AdapterRegistry) (policy : PlanningPolicy)
    (source : SourceDescriptor) (port : InputPortSpec) (target : RepresentationNode)
    (r : ResolvedSource) : Prop where
  sameSource : r.source = source
  representation : r.targetRepresentation = target.representationId
  chain : Chain registry policy source.node target r.path.adapters
  reported : (pathResolution registry policy source.node target).issues ⊆ r.issues
  unverified : port.rank ≠ none → source.knownRank target.representationId = none →
    unverifiedRank port target.representationId ∈ r.issues

theorem resolveTarget_eq_some (h : resolveTarget registry policy source port target = some r) :
    r.ResolvedFor registry policy source port target := by
  unfold resolveTarget at h
  simp only at h
  split at h
  · cases h
  · obtain ⟨path, hpath, rfl⟩ := Option.map_eq_some_iff.mp h
    refine ⟨rfl, rfl, candidatePath_chain hpath, List.subset_append_left _ _,
      fun hrank hknown => ?_⟩
    refine List.mem_append_right _ ?_
    rw [hknown, Option.isSome_iff_ne_none.mpr hrank]
    exact List.mem_singleton.mpr rfl

/-- The port accepts the type and the representation. -/
def InputPortSpec.Accepts (port : InputPortSpec) (target : RepresentationNode) : Prop :=
  target.typeId ∈ port.acceptedTypes ∧ target.representationId ∈ port.acceptedRepresentations

theorem resolveSource_eq_some (h : resolveSource registry policy source port = some r) :
    ∃ target, port.Accepts target ∧ r.ResolvedFor registry policy source port target := by
  obtain ⟨targetType, htype, hrest⟩ := List.exists_of_findSome?_eq_some h
  obtain ⟨representation, hrepresentation, hresolve⟩ := List.exists_of_findSome?_eq_some hrest
  exact ⟨⟨targetType, representation⟩, ⟨htype, hrepresentation⟩,
    resolveTarget_eq_some hresolve⟩

theorem forall₂_of_mapM_eq_some {α β : Type} {f : α → Option β}
    {xs : List α} {ys : List β}
    (h : xs.mapM f = some ys) : List.Forall₂ (fun x y => f x = some y) xs ys := by
  induction xs generalizing ys with
  | nil =>
    cases h
    exact .nil
  | cons x xs ih =>
    simp only [List.mapM_cons, Option.bind_eq_bind, Option.bind_eq_some_iff, Option.pure_def,
      Option.some.injEq] at h
    obtain ⟨y, hy, ys, hys, rfl⟩ := h
    exact .cons hy (ih hys)

/-- All sources are resolved for one target. -/
theorem commonTarget_eq_some (h : commonTarget registry policy port eligible = some resolved) :
    ∃ target, port.Accepts target ∧ List.Forall₂ (fun source r =>
      ResolvedSource.ResolvedFor registry policy source port target r) eligible resolved := by
  obtain ⟨targetType, htype, hrest⟩ := List.exists_of_findSome?_eq_some h
  obtain ⟨representation, hrepresentation, hplans⟩ := List.exists_of_findSome?_eq_some hrest
  refine ⟨⟨targetType, representation⟩, ⟨htype, hrepresentation⟩, ?_⟩
  refine (forall₂_of_mapM_eq_some hplans).imp fun source r hr => ?_
  obtain ⟨target, ⟨htype', hrepresentation'⟩, hresolved⟩ := resolveSource_eq_some hr
  -- The port of the negotiation accepts nothing else.
  obtain ⟨_, _⟩ := target
  obtain rfl := List.mem_singleton.mp htype'
  obtain rfl := List.mem_singleton.mp hrepresentation'
  exact ⟨hresolved.sameSource, hresolved.representation, hresolved.chain, hresolved.reported,
    hresolved.unverified⟩

/-- What the resolution of a port establishes. -/
structure ResolvedPort (registry : AdapterRegistry) (policy : PlanningPolicy)
    (candidates : List SourceDescriptor) (port : InputPortSpec) (resolved : List ResolvedSource) :
    Prop where
  sources : (resolved.map (·.source)).Sublist candidates
  none : resolved = [] →
    ∀ source ∈ candidates, resolveSource registry policy source port = Option.none
  target : resolved ≠ [] → resolved.length = 1 ∨ port.multiSource = true →
    ∃ target, port.Accepts target ∧
      ∀ r ∈ resolved, r.ResolvedFor registry policy r.source port target

theorem map_source_filterMap (candidates : List SourceDescriptor) :
    ((candidates.filterMap fun source => resolveSource registry policy source port).map
      (·.source)).Sublist candidates := by
  induction candidates with
  | nil => exact .slnil
  | cons source candidates ih =>
    rw [List.filterMap_cons]
    cases hresolve : resolveSource registry policy source port with
    | none => exact ih.cons source
    | some r =>
      obtain ⟨_, -, hresolved⟩ := resolveSource_eq_some hresolve
      rw [List.map_cons, hresolved.sameSource]
      exact ih.cons_cons source

theorem resolvePort_eq_ok (h : resolvePort registry policy candidates port = .ok resolved) :
    ResolvedPort registry policy candidates port resolved := by
  unfold resolvePort at h
  simp only at h
  have hsublist := @map_source_filterMap registry policy port candidates
  split at h
  · next hmany =>
    rw [Bool.and_eq_true, decide_eq_true_eq, ← List.length_map (f := (·.source))] at hmany
    obtain ⟨target, haccepts, hresolved⟩ := commonTarget_eq_some (require_eq_ok.mp h)
    -- The negotiation resolves the same sources again, in the same order.
    have hsources : resolved.map (·.source) = (candidates.filterMap fun source =>
        resolveSource registry policy source port).map (·.source) := by
      rw [← List.forall₂_eq_eq_eq, List.forall₂_map_left_iff]
      exact hresolved.flip.imp fun _ _ hr => hr.sameSource
    refine ⟨hsources ▸ hsublist, fun hnil => ?_,
      fun _ _ => ⟨target, haccepts, fun r hr => ?_⟩⟩
    · rw [← hsources, hnil] at hmany
      cases hmany.2
    · obtain ⟨source, -, hr⟩ := exists_left_of_forall₂ hresolved hr
      exact hr.sameSource ▸ hr
  · next hfew =>
    obtain rfl := pure_eq_ok.mp h
    refine ⟨hsublist, fun hnil => List.filterMap_eq_nil_iff.mp hnil, fun hne hone => ?_⟩
    -- Without the negotiation there is at most one source, or the port takes no more than one.
    have hlength : (candidates.filterMap fun source =>
        resolveSource registry policy source port).length = 1 := by
      rcases hone with hone | hmulti
      · exact hone
      · rw [hmulti, Bool.true_and, decide_eq_true_eq] at hfew
        have := List.length_pos_iff.mpr hne
        omega
    obtain ⟨r, hr⟩ := List.length_eq_one_iff.mp hlength
    rw [hr]
    obtain ⟨source, -, hresolve⟩ := List.mem_filterMap.mp (hr ▸ List.mem_singleton.mpr rfl)
    obtain ⟨target, haccepts, hresolved⟩ := resolveSource_eq_some hresolve
    refine ⟨target, haccepts, fun other hother => ?_⟩
    rw [List.mem_singleton.mp hother]
    exact hresolved.sameSource ▸ hresolved

end Resolve

/-! ## Candidates -/

section Candidates
variable {schema : DatasetSchema} {request : DataPlanRequest} {candidates : List SourceDescriptor}

/-- The candidates are sources of the schema, each of them once. -/
theorem candidateSources_distinct (hschema : schema.Accepted) (hrequest : request.validate = .ok ())
    (h : candidateSources schema request = .ok candidates) :
    (candidates.map (·.id)).Nodup ∧ ∀ source ∈ candidates, source ∈ schema.sources := by
  unfold candidateSources at h
  dsimp only at h
  simp only [DataPlanRequest.validate, bind_eq_ok, exists_unit, whenSome_eq_ok,
    rejectRepeats_eq_ok] at hrequest
  cases hsome : request.sourceIds with
  | none =>
    rw [hsome] at h
    obtain rfl := pure_eq_ok.mp h
    have hperm := perm_sortOn SourceDescriptor.id schema.sources
    exact ⟨((hperm.map _).nodup_iff).mpr hschema.sources, fun _ => hperm.mem_iff.mp⟩
  | some requested =>
    rw [hsome] at h
    have hfound := mapM_eq_ok.mp h
    have hentry : ∀ {id : SourceId} {source : SourceDescriptor},
        (BTreeMap.collect ((sortOn SourceDescriptor.id schema.sources).map
          fun source => (source.id, source)))[id]? = some source →
        source ∈ schema.sources ∧ source.id = id := by
      intro id source hget
      obtain ⟨other, hother, heq⟩ := List.mem_map.mp (BTreeMap.mem_of_getElem?_collect hget)
      obtain ⟨rfl, rfl⟩ := Prod.mk.inj heq
      exact ⟨(perm_sortOn _ _).mem_iff.mp hother, rfl⟩
    constructor
    · have hids : candidates.map (·.id) = requested := by
        rw [← List.forall₂_eq_eq_eq, List.forall₂_map_left_iff]
        exact hfound.flip.imp fun _ _ hget => (hentry (require_eq_ok.mp hget)).2
      rw [hids]
      exact hrequest.2 requested hsome
    · intro source hsource
      obtain ⟨id, -, hget⟩ := exists_left_of_forall₂ hfound hsource
      exact (hentry (require_eq_ok.mp hget)).1

end Candidates

end DagMlData
