import DagMlData.PathEnumeration
import DagMlData.PlannerSources
import DagMlData.PlannerTraces

/-!
# The plans of the planner

`planModelInput_traces`: in a planned model input, every port has its sources traced back to the
steps that materialize them, through adapters that lead from the type and representation of the
source to those of the port; what has to be reported is in the plan; and the validator at the end
of the planner refuses nothing.

`planModelInput_ambiguous`: a policy that does not require a choice gets a plan that says nothing
of an ambiguity.
-/

namespace DagMlData

open Guard RustText

/-! ## The steps of a port -/

section Ports
variable [ThirdParty] {registry : AdapterRegistry} {policy : PlanningPolicy}
  {candidates : List SourceDescriptor} {modelInput : ModelInputSpec} {port : InputPortSpec}
  {done : List String} {target : RepresentationNode} {resolved rest : List ResolvedSource}
  {first : ResolvedSource} {loop loop' : PortLoop} {st st' : PlannerState}

/-- What comes out of the alignment: inputs of the representation, and an align step if there were
several. -/
structure PortLoop.Aligned (candidates : List SourceDescriptor) (done : List String)
    (representation : RepresentationId) (names : List String) (loop : PortLoop) : Prop where
  sound : loop.state.Sound candidates done
  nonempty : loop.inputs ≠ []
  produced : ∀ name ∈ loop.inputs, ∃ producer ∈ producers loop.state.steps name,
    producer.outputRepresentation = some representation
  inputs : names.length = 1 ∧ loop.inputs = names ∨
    1 < names.length ∧ ∃ align ∈ loop.state.steps, align.kind = .align ∧
      align.inputNames = names ∧
      align.inputRepresentation = some representation ∧
      align.outputRepresentation = some representation ∧
      ∃ output, align.outputName = some output ∧ loop.inputs = [output]

omit [ThirdParty] in
theorem PortLoop.Traced.produced (h : loop.Traced candidates done target resolved) :
    ∀ name ∈ loop.inputs, ∃ producer ∈ producers loop.state.steps name,
      producer.outputRepresentation = some target.representationId := by
  intro name hname
  obtain ⟨r, -, htraces⟩ := exists_right_of_forall₂ h.traces hname
  exact htraces.exists_producer

theorem PortLoop.Traced.align (h : loop.Traced candidates done target resolved)
    (hne : resolved ≠ []) (halign : loop.align modelInput target.representationId = .ok loop') :
    loop'.Aligned candidates done target.representationId loop.inputs ∧
      loop.state.Extends loop'.state := by
  have hlength := h.traces.length_eq
  have hpos := List.length_pos_iff.mpr hne
  have hinputs : loop.inputs ≠ [] := List.length_pos_iff.mp (hlength ▸ hpos)
  unfold PortLoop.align at halign
  split at halign
  · -- The align step reads all inputs, and what it writes is the only input of the join step.
    next hmany =>
    obtain ⟨mode, -, hloop⟩ := bind_eq_ok.mp halign
    obtain rfl := pure_eq_ok.mp hloop
    have hnamed := alignStep_named target.representationId mode loop.state.alignIdx hinputs
    have hmem := List.mem_append_right loop.state.steps (List.mem_singleton.mpr (rfl :
      alignStep target.representationId loop.inputs s!"step:align:{loop.state.alignIdx}" mode = _))
    refine ⟨⟨?_, List.cons_ne_nil _ _, fun name hname => ?_, .inr ⟨hmany, _, hmem, rfl,
      hnamed.inputNames_eq, rfl, rfl, _, hnamed.outputName_eq, rfl⟩⟩,
      List.subset_append_left _ _, List.Subset.refl _⟩
    · refine h.sound.append rfl (Nat.le_refl _) (Nat.le_succ _) (List.Subset.refl _) hnamed
        (Nat.lt_succ_self _) (hnamed.fits_reader h.sound.wired (fun hkind => ?_)
          (fun hkind => ?_) (fun id hid => ?_) hinputs h.produced
          (h.sound.producers_eq_nil fun _ => Nat.lt_irrefl _))
      · cases hkind
      · cases hkind
      · cases hid
    · rw [List.mem_singleton.mp hname]
      exact ⟨_, List.mem_filter.mpr ⟨hmem, decide_eq_true hnamed.outputName_eq⟩, rfl⟩
  · next hone =>
    obtain rfl := pure_eq_ok.mp halign
    refine ⟨⟨h.sound, hinputs, h.produced, .inl ⟨?_, rfl⟩⟩, .refl _⟩
    omega

/-- A port whose sources are resolved gets its steps. -/
theorem PlannerState.Sound.addPort (h : st.Sound candidates done)
    (hdistinct : (candidates.map (·.id)).Nodup)
    (hleads : ∀ r ∈ first :: rest, r.Leads candidates registry policy target)
    (hnew : port.name ∉ done)
    (hadd : st.addPort modelInput port first (first :: rest) = .ok st') :
    st'.Sound candidates (port.name :: done) ∧ st.Extends st' ∧
      (∃ names, List.Forall₂ (fun name r => Traces st'.steps r.source name r.path.adapters
          target.representationId) names (first :: rest) ∧
        Joined st'.steps port.name target.representationId names) ∧
      (∀ r ∈ first :: rest, r.issues ⊆ st'.issues) ∧
      ∃ join, st'.steps.getLast? = some join ∧
        join.outputRepresentation = st'.outputRepresentation := by
  unfold PlannerState.addPort at hadd
  dsimp only at hadd
  -- The planner takes the representation of the first source, which is that of all of them.
  rw [(hleads first List.mem_cons_self).representation] at hadd
  obtain ⟨aligned, halign, hst⟩ := bind_eq_ok.mp hadd
  obtain rfl := pure_eq_ok.mp hst
  have hstart : (⟨st, []⟩ : PortLoop).Traced candidates done target [] :=
    ⟨h, .nil, List.forall_mem_nil _⟩
  obtain ⟨htraced, hextends⟩ := hstart.foldl_addSource hdistinct hleads
  rw [List.nil_append] at htraced
  obtain ⟨haligned, hextends'⟩ := htraced.align (List.cons_ne_nil _ _) halign
  have hnamed := joinStep_named target.representationId port.name haligned.nonempty
  have hlast := List.subset_append_left aligned.state.steps
    [joinStep target.representationId aligned.inputs port.name]
  have hall := List.Subset.trans hextends'.steps hlast
  refine ⟨?_, ⟨List.Subset.trans hextends.steps hall, List.Subset.trans hextends.issues
    hextends'.issues⟩, ⟨_, htraced.traces.imp fun _ _ htraces => htraces.mono hall, ?_⟩,
    fun r hr => List.Subset.trans (htraced.issues r hr) hextends'.issues,
    _, List.getLast?_concat, rfl⟩
  · refine haligned.sound.append rfl (Nat.le_refl _) (Nat.le_refl _) (List.subset_cons_self _ _)
      hnamed List.mem_cons_self (hnamed.fits_reader haligned.sound.wired (fun hkind => ?_)
        (fun hkind => ?_) (fun id hid => ?_) haligned.nonempty haligned.produced
        (haligned.sound.producers_eq_nil fun _ => hnew))
    · cases hkind
    · cases hkind
    · cases hid
  · refine ⟨_, List.mem_append_right _ (List.mem_singleton.mpr rfl), rfl,
      hnamed.outputName_eq, rfl,
      rfl, ?_⟩
    rw [hnamed.inputNames_eq]
    rcases haligned.inputs with ⟨hone, hnames⟩ | ⟨hmany, align, hmem, hspec⟩
    · exact .inl ⟨hone, hnames⟩
    · exact .inr ⟨hmany, align, hlast hmem, hspec⟩

end Ports

/-! ## The run over the ports -/

/-- What the steps and the issues have for a port: the used sources, each traced back from one of
the joined names through adapters that lead to the target. -/
structure PortPlanned (candidates : List SourceDescriptor) (registry : AdapterRegistry)
    (policy : PlanningPolicy) (port : InputPortSpec) (steps : List DataPlanStep)
    (issues : List PlanIssue) (target : RepresentationNode) (used : List ResolvedSource)
    (names : List String) : Prop where
  accepts : port.Accepts target
  nonempty : used ≠ []
  single : port.multiSource = false → used.length = 1
  distinct : (used.map fun r => r.source.id).Nodup
  candidates : ∀ r ∈ used, r.source ∈ candidates
  chain : ∀ r ∈ used, Chain registry policy r.source.node target r.path.adapters
  traces : List.Forall₂ (fun name r => Traces steps r.source name r.path.adapters
    target.representationId) names used
  joined : Joined steps port.name target.representationId names
  ambiguous : policy.requireUserChoiceOnAmbiguity = true →
    ∀ r ∈ used, Ambiguous registry policy r.source.node target →
      ∃ issue ∈ issues, issue.code = "ambiguous_path" ∧
        ∀ path ∈ bestPaths registry policy r.source.node target,
          renderPath path ∈ issue.choices
  unverified : port.rank ≠ none →
    ∀ r ∈ used, r.source.knownRank target.representationId = none →
      unverifiedRank port target.representationId ∈ issues

/-- The port is optional, and no candidate can be adapted to it. -/
structure PortSkipped (candidates : List SourceDescriptor) (registry : AdapterRegistry)
    (policy : PlanningPolicy) (port : InputPortSpec) : Prop where
  isOptional : port.isOptional = true
  unresolved : ∀ source ∈ candidates, resolveSource registry policy source port = none

section Runs
variable {registry : AdapterRegistry} {policy : PlanningPolicy}
  {candidates : List SourceDescriptor} {port : InputPortSpec} {ports : List InputPortSpec}
  {done : List String} {target : RepresentationNode} {used : List ResolvedSource}
  {names : List String} {st st' : PlannerState}

theorem Joined.mono {steps steps' : List DataPlanStep} {representation : RepresentationId}
    {name : String} (h : Joined steps name representation names) (hsubset : steps ⊆ steps') :
    Joined steps' name representation names := by
  obtain ⟨join, hmem, hkind, hname, hinput, houtput,
    hone | ⟨hmany, align, halign, hspec⟩⟩ := h
  · exact ⟨join, hsubset hmem, hkind, hname, hinput, houtput, .inl hone⟩
  · exact ⟨join, hsubset hmem, hkind, hname, hinput, houtput,
      .inr ⟨hmany, align, hsubset halign, hspec⟩⟩

theorem PortPlanned.mono
    (h : PortPlanned candidates registry policy port st.steps st.issues target used names)
    (hextends : st.Extends st') :
    PortPlanned candidates registry policy port st'.steps st'.issues target used names where
  accepts := h.accepts
  nonempty := h.nonempty
  single := h.single
  distinct := h.distinct
  candidates := h.candidates
  chain := h.chain
  traces := h.traces.imp fun _ _ htraces => htraces.mono hextends.steps
  joined := h.joined.mono hextends.steps
  ambiguous := by
    intro hpolicy r hr hambiguous
    obtain ⟨issue, hissue, hspec⟩ := h.ambiguous hpolicy r hr hambiguous
    exact ⟨issue, hextends.issues hissue, hspec⟩
  unverified := fun hrank r hr hknown => hextends.issues (h.unverified hrank r hr hknown)

/-- The invariant of the loop over the ports. The names are those of the ports that are planned. -/
structure PortsRan (registry : AdapterRegistry) (policy : PlanningPolicy)
    (candidates : List SourceDescriptor) (ports : List InputPortSpec) (done : List String)
    (st : PlannerState) : Prop where
  sound : st.Sound candidates done
  named : done ⊆ ports.map (·.name)
  settled : ∀ port ∈ ports,
    port.name ∉ done ∧ PortSkipped candidates registry policy port ∨
      ∃ target used names,
        PortPlanned candidates registry policy port st.steps st.issues target used names
  output : ∀ representation, st.outputRepresentation = some representation →
    ∃ join, st.steps.getLast? = some join ∧ join.outputRepresentation = some representation

theorem portsRan_start : PortsRan registry policy candidates [] [] .start where
  sound := PlannerState.sound_start
  named := List.Subset.refl _
  settled := List.forall_mem_nil _
  output := fun _ houtput => by cases houtput

/-- A port without sources changes nothing. -/
theorem PortsRan.skip (h : PortsRan registry policy candidates ports done st)
    (hnew : port.name ∉ ports.map (·.name))
    (hskipped : PortSkipped candidates registry policy port) :
    PortsRan registry policy candidates (ports ++ [port]) done st where
  sound := h.sound
  named := by
    rw [List.map_append]
    exact List.subset_append_of_subset_left _ h.named
  settled := by
    intro other hother
    rcases List.mem_append.mp hother with hbefore | hlast
    · exact h.settled other hbefore
    · rw [List.mem_singleton.mp hlast]
      exact .inl ⟨fun hdone => hnew (h.named hdone), hskipped⟩
  output := h.output

variable [ThirdParty] {modelInput : ModelInputSpec}

theorem planPort_eq_ok
    (h : st.planPort candidates modelInput registry policy port = .ok st') :
    ∃ resolved, resolvePort registry policy candidates port = .ok resolved ∧
      (resolved = [] ∧ port.isOptional = true ∧ st' = st ∨
        ∃ first rest, resolved = first :: rest ∧ (port.multiSource = false → rest = []) ∧
          st.addPort modelInput port first (first :: rest) = .ok st') := by
  unfold PlannerState.planPort at h
  obtain ⟨resolved, hresolved, h⟩ := bind_eq_ok.mp h
  refine ⟨resolved, hresolved, ?_⟩
  cases resolved with
  | nil =>
    dsimp only at h
    split at h
    · next hoptional => exact .inl ⟨rfl, hoptional, (pure_eq_ok.mp h).symm⟩
    · cases h
  | cons first rest =>
    simp only [bind_eq_ok, exists_unit, rejectIf_eq_ok, Bool.and_eq_false_iff,
      Bool.not_eq_false'] at h
    obtain ⟨hsingle, hadd⟩ := h
    refine .inr ⟨first, rest, rfl, fun hmulti => ?_, hadd⟩
    rcases hsingle with hrest | hmany
    · exact List.isEmpty_iff.mp hrest
    · rw [hmulti] at hmany
      cases hmany

/-- One more port, with a name of its own. -/
theorem PortsRan.planPort (h : PortsRan registry policy candidates ports done st)
    (hdistinct : (candidates.map (·.id)).Nodup) (hnew : port.name ∉ ports.map (·.name))
    (hplan : st.planPort candidates modelInput registry policy port = .ok st') :
    ∃ done', PortsRan registry policy candidates (ports ++ [port]) done' st' := by
  obtain ⟨resolved, hresolve, hcases⟩ := planPort_eq_ok hplan
  have hport := resolvePort_eq_ok hresolve
  rcases hcases with ⟨rfl, hoptional, rfl⟩ | ⟨first, rest, rfl, hsingle, hadd⟩
  · exact ⟨done, h.skip hnew ⟨hoptional, hport.none rfl⟩⟩
  · -- One source has its own target, and several have been brought to one.
    have hone : (first :: rest).length = 1 ∨ port.multiSource = true := by
      cases hmulti : port.multiSource with
      | true => exact .inr rfl
      | false =>
        rw [hsingle hmulti]
        exact .inl rfl
    obtain ⟨target, haccepts, hresolved⟩ := hport.target (List.cons_ne_nil _ _) hone
    have hcandidates : ∀ r ∈ first :: rest, r.source ∈ candidates := fun r hr =>
      hport.sources.subset (List.mem_map_of_mem hr)
    obtain ⟨hsound, hextends, ⟨names, htraces, hjoined⟩, hissues, hlast⟩ :=
      h.sound.addPort hdistinct
        (fun r hr => ⟨hcandidates r hr, (hresolved r hr).chain,
          (hresolved r hr).representation⟩)
        (fun hdone => hnew (h.named hdone)) hadd
    have hplanned : PortPlanned candidates registry policy port st'.steps st'.issues target
        (first :: rest) names :=
      { accepts := haccepts
        nonempty := List.cons_ne_nil _ _
        single := fun hmulti => by
          rw [hsingle hmulti]
          rfl
        distinct := by
          have hsublist := hport.sources.map (·.id)
          rw [List.map_map] at hsublist
          exact hsublist.nodup hdistinct
        candidates := hcandidates
        chain := fun r hr => (hresolved r hr).chain
        traces := htraces
        joined := hjoined
        ambiguous := fun hpolicy r hr hambiguous => by
          obtain ⟨issue, hissue, hspec⟩ := hambiguous.reported hpolicy
          exact ⟨issue, hissues r hr ((hresolved r hr).reported hissue), hspec⟩
        unverified := fun hrank r hr hknown =>
          hissues r hr ((hresolved r hr).unverified hrank hknown) }
    refine ⟨port.name :: done, hsound, ?_, fun other hother => ?_,
      fun representation houtput => ?_⟩
    · rw [List.map_append]
      refine List.cons_subset.mpr ⟨?_, List.subset_append_of_subset_left _ h.named⟩
      exact List.mem_append_right _ (List.mem_singleton.mpr rfl)
    · rcases List.mem_append.mp hother with hbefore | hnow
      · rcases h.settled other hbefore with ⟨hskip, hskipped⟩ | ⟨target, used, names, hold⟩
        · refine .inl ⟨fun hdone => ?_, hskipped⟩
          -- The ports before have other names than this one.
          rcases List.mem_cons.mp hdone with hsame | hdone
          · exact hnew (hsame ▸ List.mem_map_of_mem hbefore)
          · exact hskip hdone
        · exact .inr ⟨target, used, names, hold.mono hextends⟩
      · rw [List.mem_singleton.mp hnow]
        exact .inr ⟨target, _, names, hplanned⟩
    · rw [← houtput]
      exact hlast

end Runs

/-! ## Plans -/

theorem checkPorts_eq_ok {names : List String} {ports : List InputPortSpec} {u : Unit} :
    ModelInputSpec.validate.checkPorts names ports = .ok u ↔
      (∀ port ∈ ports, port.validate = .ok ()) ∧ (ports.map (·.name)).Nodup ∧
        ∀ port ∈ ports, port.name ∉ names := by
  refine seenLoop_eq_ok (fun _ => rfl) fun names port ports => ?_
  simp only [ModelInputSpec.validate.checkPorts, bind_eq_ok, exists_unit, rejectIf_eq_ok,
    List.contains_eq_mem, decide_eq_false_iff_not]

/-- The ports of an accepted model input have distinct names. -/
theorem ModelInputSpec.names_nodup {spec : ModelInputSpec} (h : spec.validate = .ok ()) :
    (spec.ports.map (·.name)).Nodup := by
  simp only [ModelInputSpec.validate, bind_eq_ok, exists_unit, rejectIf_eq_ok] at h
  exact (checkPorts_eq_ok.mp h.2).2.1

section Plans
variable [ThirdParty] {schema : DatasetSchema} {modelInput : ModelInputSpec}
  {registry : AdapterRegistry} {policy : PlanningPolicy} {request : DataPlanRequest}
  {candidates : List SourceDescriptor} {st : PlannerState} {plan : DataPlan}

/-- The invariant holds after the loop over the ports. -/
theorem portsRan_of_foldlM (hdistinct : (candidates.map (·.id)).Nodup)
    (hnames : (modelInput.ports.map (·.name)).Nodup)
    (h : modelInput.ports.foldlM
      (PlannerState.planPort candidates modelInput registry policy) .start = .ok st) :
    ∃ done, PortsRan registry policy candidates modelInput.ports done st := by
  refine foldlM_ok_induction (P := fun ports st => (ports.map (·.name)).Nodup →
    ∃ done, PortsRan registry policy candidates ports done st)
      (fun _ => ⟨[], portsRan_start⟩) ?_ h
    hnames
  intro before st port st' ih hplan hnodup
  rw [List.map_append, List.map_singleton, List.nodup_append_comm, List.singleton_append,
    List.nodup_cons] at hnodup
  -- The name of the port is new, so the steps of the ports before keep their names for themselves.
  obtain ⟨done, hran⟩ := ih hnodup.2
  exact hran.planPort hdistinct hnodup.1 hplan

/-- The plan is what the loop over the ports has left. -/
theorem buildPlan_eq_ok (h : buildPlan schema modelInput registry request = .ok plan) :
    isBlank plan.id = false ∧ ∃ candidates done st,
      candidateSources schema request = .ok candidates ∧
      (∀ source ∈ candidates, source ∈ schema.sources) ∧
      PortsRan registry request.planningPolicy candidates modelInput.ports done st ∧
      plan.steps = st.steps ∧ plan.issues = st.issues ∧
      st.outputRepresentation = some plan.outputRepresentation := by
  simp only [buildPlan, bind_eq_ok, exists_unit, require_eq_ok, pure_eq_ok] at h
  obtain ⟨hschema, hmodel, hrequest, candidates, hcandidates, st, hloop,
    output, houtput, rfl⟩ := h
  obtain ⟨hdistinct, hsources⟩ := candidateSources_distinct
    (DatasetSchema.accepted_of_validate hschema) hrequest hcandidates
  obtain ⟨done, hran⟩ := portsRan_of_foldlM hdistinct (ModelInputSpec.names_nodup hmodel) hloop
  simp only [DataPlanRequest.validate, bind_eq_ok, exists_unit, rejectIf_eq_ok] at hrequest
  exact ⟨hrequest.1, candidates, done, st, hcandidates, hsources, hran, rfl, rfl, houtput⟩

variable (schema modelInput registry request)

/-- The planner, on every schema, model input, registry and request. The validator accepts the plan
that has been built. In a plan that is returned, every port either is optional, is resolved for no
candidate and has no step, or has one join step and its used sources are traced back from it. What
a step reads is the last output of its name before it, and outputs of one name are of one step, or
of one source in one representation. What is reported makes the plan require a choice. -/
theorem planModelInput_traces :
    (∀ plan, buildPlan schema modelInput registry request = .ok plan →
      plan.validate = .ok ()) ∧
    ∀ plan, planModelInput schema modelInput registry request = .ok plan →
      (∃ candidates, candidateSources schema request = .ok candidates ∧
        (∀ source ∈ candidates, source ∈ schema.sources) ∧
        ∀ port ∈ modelInput.ports,
          producers plan.steps s!"port:{port.name}" = [] ∧
            PortSkipped candidates registry request.planningPolicy port ∨
          ∃ target used names join, producers plan.steps s!"port:{port.name}" = [join] ∧
            PortPlanned candidates registry request.planningPolicy port plan.steps plan.issues
              target used names) ∧
      (∀ (j : Nat) step, plan.steps[j]? = some step → ∀ name ∈ step.inputNames,
        ∃ i producer, plan.ReadsLast j step name i producer) ∧
      (∀ name, ∀ p ∈ producers plan.steps name, ∀ q ∈ producers plan.steps name,
        p = q ∨ p.Rematerializes q) ∧
      (plan.issues ≠ [] → plan.requiresUserChoice = true) := by
  refine ⟨fun plan hbuild => ?_, fun plan hplan => ?_⟩
  · obtain ⟨hid, candidates, done, st, -, -, hran, hsteps, -, houtput⟩ :=
      buildPlan_eq_ok hbuild
    obtain ⟨join, hlast, hjoin⟩ := hran.output _ houtput
    have hne : plan.steps ≠ [] := by
      rw [hsteps]
      exact List.ne_nil_of_mem (List.mem_of_getLast? hlast)
    refine DataPlan.validate_of_wired hid hne (hsteps ▸ hran.sound.wired) fun step hstep => ?_
    rw [hsteps, hlast] at hstep
    exact Option.some.inj hstep ▸ hjoin
  · simp only [planModelInput, bind_eq_ok, exists_unit, pure_eq_ok] at hplan
    obtain ⟨_, hbuild, hvalid, rfl⟩ := hplan
    obtain ⟨-, candidates, done, st, hcandidates, hsources, hran, hsteps, hissues, -⟩ :=
      buildPlan_eq_ok hbuild
    have hwired := hran.sound.wired
    rw [hsteps, hissues]
    refine ⟨⟨candidates, hcandidates, hsources, fun port hport => ?_⟩,
      fun j step hstep name hname => ?_,
      fun name p hp q hq => hwired.eq_or_rematerializes hp hq, fun hreported => ?_⟩
    · rcases hran.settled port hport with ⟨hskip, hskipped⟩ | ⟨target,
        used, names, hplanned⟩
      · -- A step that writes the output of the port would have its name among the planned ones.
        exact .inl ⟨hran.sound.producers_eq_nil (o := .port port.name) fun _ => hskip, hskipped⟩
      · obtain ⟨join, hmem, hkind, hname, -⟩ := hplanned.joined
        have hproducer : join ∈ producers st.steps s!"port:{port.name}" :=
          List.mem_filter.mpr ⟨hmem, decide_eq_true hname⟩
        refine .inr ⟨target, used, names, join, ?_, hplanned⟩
        exact hwired.producers_eq_singleton hproducer (hkind ▸ by decide)
    · obtain ⟨_, hseen⟩ := PlanLoop.seen_of_validate hvalid
      exact DataPlan.readsLast_of_seen hseen (hsteps ▸ hstep) hname
    · unfold DataPlan.requiresUserChoice
      rw [hissues, List.isEmpty_eq_false_iff.mpr hreported]
      exact Bool.or_true _

end Plans

/-! ## Two planned requests -/

def rawNode : RepresentationNode := tableNode "s" rfl

def portNode : RepresentationNode := tableNode "g" rfl

/-- A source with samples and features. -/
def tableSource (id : SourceId) (node : RepresentationNode) : SourceDescriptor where
  id
  name := "table"
  typeId := node.typeId
  modality := "table"
  nativeRepresentation :=
    { id := node.representationId, typeId := node.typeId, rank := some 2
      axes := [
        { name := "sample", kind := .sample, unit := none, size := none, isVariable := true
          coordinate := none },
        { name := "feature", kind := .feature, unit := none, size := none, isVariable := true
          coordinate := none }]
      container := "ndarray", dtype := none, sparse := false, ragged := false, signalType := none }
  sampleKey := "sample"
  granularity := .perSample
  schema := ∅
  tags := ∅
  shapeContract := none

def tableSchema (sources : List SourceDescriptor) : DatasetSchema where
  datasetId := "d"
  sampleIds := [.lit "s1" rfl]
  sources
  targets := ∅
  metadata := ∅
  metadataSchema := none
  groups := []
  folds := []

/-- One port, which accepts one representation of tables. -/
def tablePort : InputPortSpec where
  name := "x"
  acceptedRepresentations := [.lit "g" rfl]
  acceptedTypes := [.lit "table" rfl]
  rank := none
  multiSource := true
  isOptional := false

def tableInput : ModelInputSpec where
  ports := [tablePort]
  defaultFusion := none

def tableRequest (policy : PlanningPolicy) : DataPlanRequest where
  id := "tables"
  sourceIds := none
  planningPolicy := policy

/-- A source in the representation of the port, and one that has to be adapted to it. -/
def hopSchema : DatasetSchema :=
  tableSchema [tableSource (.lit "soil" rfl) portNode,
    tableSource (.lit "nir" rfl) rawNode]

theorem planModelInput_traces_hop : letI := ThirdParty.ofTable []
    ∃ plan, planModelInput hopSchema tableInput hopRegistry
      (tableRequest hopPolicy) = .ok plan ∧
      ∃ join, producers plan.steps "port:x" = [join] := by
  let _ := ThirdParty.ofTable []
  have hplanned : (planModelInput hopSchema tableInput hopRegistry
      (tableRequest hopPolicy)).toOption.isSome = true := by
    decide +kernel
  obtain ⟨plan, hplan⟩ := Option.isSome_iff_exists.mp hplanned
  have hplan := toOption_eq_some.mp hplan
  refine ⟨plan, hplan, ?_⟩
  obtain ⟨⟨candidates, -, -, hports⟩, -⟩ :=
    (planModelInput_traces hopSchema tableInput hopRegistry (tableRequest hopPolicy)).2 plan hplan
  rcases hports tablePort List.mem_cons_self with ⟨-, hskipped⟩ | ⟨_, _, _, join, hjoin, -⟩
  · cases hskipped.isOptional
  · exact ⟨join, hjoin⟩

/-- The sources are planned in the order of their identifiers. -/
example : letI := ThirdParty.ofTable []
    (planModelInput hopSchema tableInput hopRegistry (tableRequest hopPolicy)).toOption.map
      (fun plan => plan.steps.map fun step => (step.kind.name, step.inputNames, step.outputName)) =
    some [
      ("materialize", [], some "src:nir"),
      ("adapt", ["src:nir"], some "step:adapt:0"),
      ("adapt", ["step:adapt:0"], some "step:adapt:1"),
      ("adapt", ["step:adapt:1"], some "step:adapt:2"),
      ("materialize", [], some "src:soil"),
      ("align", ["step:adapt:2", "src:soil"], some "step:align:0"),
      ("join", ["step:align:0"], some "port:x")] := by
  decide +kernel

/-! ## An ambiguity that is not reported -/

/-- Two adapters of equal cost. -/
def twinRegistry : AdapterRegistry :=
  (AdapterRegistry.fromSpec [
    plainAdapter "left" rawNode portNode 1,
    plainAdapter "right" rawNode portNode 1]).toOption.getD .empty

/-- A policy that does not require a choice. -/
def laxPolicy : PlanningPolicy :=
  { PlanningPolicy.default with requireUserChoiceOnAmbiguity := false }

theorem bestPaths_twin :
    (bestPaths twinRegistry laxPolicy rawNode portNode).sort (· ≤ ·) =
      [["left"], ["right"]] := by
  have hpaths : ((Search.start rawNode).run twinRegistry laxPolicy portNode
      (branching twinRegistry.specs.length + 1)).map (·.goalPaths) =
      some [["left"], ["right"]] := by
    decide +kernel
  obtain ⟨search, hrun, hgoal⟩ := Option.map_eq_some_iff.mp hpaths
  unfold bestPaths
  rw [if_neg (by decide), hrun, Option.elim_some, hgoal]
  exact (List.toFinset_sort (· ≤ ·) (by decide)).mpr (by decide)

/-- The first of the two paths. -/
def twinPath : AdapterPath :=
  ((resolvePath twinRegistry laxPolicy ["left"]).bind (·.path)).get (by decide +kernel)

def twinSource : SourceDescriptor := tableSource (.lit "nir" rfl) rawNode

def twinResolved : ResolvedSource where
  source := twinSource
  targetRepresentation := .lit "g" rfl
  path := twinPath
  issues := []

theorem pathResolution_twin :
    pathResolution twinRegistry laxPolicy rawNode portNode = .resolved twinPath := by
  have hpath : (resolvePath twinRegistry laxPolicy ["left"]).bind (·.path) = some twinPath :=
    (Option.some_get _).symm
  obtain ⟨resolution, hresolution, hpath⟩ := Option.bind_eq_some_iff.mp hpath
  rw [resolvePath_eq_resolved hresolution hpath] at hresolution
  exact pathResolution_eq ((findPath_eq_of_bestPaths bestPaths_twin).trans hresolution)

theorem resolveSource_twin :
    resolveSource twinRegistry laxPolicy twinSource tablePort = some twinResolved := by
  have htarget : resolveTarget twinRegistry laxPolicy twinSource tablePort portNode =
      some twinResolved := by
    have hlax : pathResolution twinRegistry laxPolicy twinSource.node portNode =
        .resolved twinPath :=
      pathResolution_twin
    unfold resolveTarget candidatePath
    rw [hlax]
    rfl
  unfold resolveSource
  show [(.lit "table" rfl : TypeId)].findSome? _ = _
  rw [List.findSome?_singleton]
  show [(.lit "g" rfl : RepresentationId)].findSome? _ = _
  rw [List.findSome?_singleton]
  exact htarget

theorem resolvePort_twin :
    resolvePort twinRegistry laxPolicy [twinSource] tablePort = .ok [twinResolved] := by
  have hresolved : [twinSource].filterMap (fun source =>
      resolveSource twinRegistry laxPolicy source tablePort) = [twinResolved] := by
    rw [List.filterMap_cons, resolveSource_twin]
    rfl
  unfold resolvePort
  rw [hresolved]
  rfl

/-- The policy does not require a choice. The plan uses the first of two equally good paths, and
says nothing of the second one. -/
theorem planModelInput_ambiguous : letI := ThirdParty.ofTable []
    ∃ plan, planModelInput (tableSchema [twinSource]) tableInput twinRegistry
        (tableRequest laxPolicy) = .ok plan ∧
      Ambiguous twinRegistry laxPolicy twinSource.node portNode ∧
      (∃ step ∈ plan.steps, step.kind = .adapt ∧ step.sourceId = some twinSource.id ∧
        step.adapterId = some "left") ∧
      plan.issues = [] ∧ plan.requiresUserChoice = false := by
  let _ := ThirdParty.ofTable []
  let planned (st : PlannerState) : DataPlan :=
    { id := "tables", steps := st.steps, outputRepresentation := .lit "g" rfl
      issues := st.issues }
  have hchecks : (PlannerState.start.addPort tableInput tablePort twinResolved
      [twinResolved]).toOption.map (fun st => (st.outputRepresentation, (planned st).validate,
        st.steps.any fun step => step.kind = .adapt ∧ step.sourceId = some twinSource.id ∧
          step.adapterId = some "left", st.issues, (planned st).requiresUserChoice)) =
      some (some (.lit "g" rfl), .ok (), true, [], false) := by
    decide +kernel
  obtain ⟨st, hst, hchecks⟩ := Option.map_eq_some_iff.mp hchecks
  simp only [Prod.mk.injEq] at hchecks
  obtain ⟨houtput, hvalid, hstep, hissues, hchoice⟩ := hchecks
  have hport : PlannerState.start.planPort [twinSource] tableInput twinRegistry laxPolicy
      tablePort = .ok st := by
    unfold PlannerState.planPort
    exact bind_eq_ok.mpr ⟨_, resolvePort_twin, toOption_eq_some.mp hst⟩
  have hbuild : buildPlan (tableSchema [twinSource]) tableInput twinRegistry
      (tableRequest laxPolicy) = .ok (planned st) := by
    unfold buildPlan
    refine bind_eq_ok.mpr ⟨(), by decide +kernel, bind_eq_ok.mpr ⟨(), by decide +kernel,
      bind_eq_ok.mpr ⟨(), by decide +kernel, bind_eq_ok.mpr ⟨[twinSource], rfl, ?_⟩⟩⟩⟩
    refine bind_eq_ok.mpr ⟨st, bind_eq_ok.mpr ⟨st, hport, rfl⟩, ?_⟩
    rw [houtput]
    rfl
  refine ⟨planned st, bind_eq_ok.mpr
    ⟨_, hbuild, bind_eq_ok.mpr ⟨(), hvalid, rfl⟩⟩, ?_, ?_,
    hissues, hchoice⟩
  · show 1 < (bestPaths twinRegistry laxPolicy rawNode portNode).card
    rw [← Finset.length_sort (· ≤ ·), bestPaths_twin]
    decide
  · obtain ⟨step, hmem, hspec⟩ := List.any_eq_true.mp hstep
    exact ⟨step, hmem, of_decide_eq_true hspec⟩

end DagMlData
