import DagMlData.PlannerWiring

/-!
# What the planner wires

The steps that the planner appends, from the materialized sources of a port to its join step.

* `Traces`: an output is traced back through adapt steps to the step that materializes a source.
* `PlannerState.Sound`: the invariant of the loops. The steps are wired, and the name of an output
  says which step of the planner wrote it.
-/

namespace DagMlData

open Guard RustText

/-! ## The names in the steps -/

section Steps
variable (source : SourceDescriptor) (adapter : AdapterSpec) (representation : RepresentationId)
  (input port : String) (mode : AlignmentMode) {inputs : List String}

theorem materializeStep_named :
    (materializeStep source).Named none [] (.source source.id) := by
  unfold materializeStep
  constructor <;> rw [BTreeMap.getElem?_collect_eq_lookup (by simp)] <;> rfl

theorem adaptStep_named (idx : Nat) :
    (adaptStep source adapter representation input s!"step:adapt:{idx}").Named (some input) []
      (.adapt idx) := by
  unfold adaptStep
  constructor <;> rw [BTreeMap.getElem?_collect_eq_lookup (by simp)] <;> rfl

theorem alignStep_named (idx : Nat) (h : inputs ≠ []) :
    (alignStep representation inputs s!"step:align:{idx}" mode).Named none inputs
      (.align idx) := by
  unfold alignStep
  constructor <;> rw [BTreeMap.getElem?_collect_eq_lookup (by simp)]
  · rfl
  · rw [if_neg h]
    rfl
  · rfl

theorem joinStep_named (h : inputs ≠ []) :
    (joinStep representation inputs port).Named none inputs (.port port) := by
  unfold joinStep
  constructor <;> rw [BTreeMap.getElem?_collect_eq_lookup (by simp)]
  · rfl
  · rw [if_neg h]
    rfl
  · rfl

end Steps

/-! ## Traces -/

/-- The output of the name is made of the source by the adapters, one adapt step for each, and has
the representation. Every step reads the output of the step before it, in its representation. -/
inductive Traces (steps : List DataPlanStep) (source : SourceDescriptor) :
    String → List AdapterSpec → RepresentationId → Prop
  | materialize {step : DataPlanStep} {name : String} :
    step ∈ steps → step.kind = .materialize → step.sourceId = some source.id →
    step.outputName = some name →
    step.outputRepresentation = some source.nativeRepresentation.id →
    Traces steps source name [] source.nativeRepresentation.id
  | adapt {step : DataPlanStep} {input name : String} {adapters : List AdapterSpec}
    {representation : RepresentationId} {adapter : AdapterSpec} :
    Traces steps source input adapters representation → step ∈ steps → step.kind = .adapt →
    step.sourceId = some source.id → step.adapterId = some adapter.id →
    step.inputNames = [input] → step.inputRepresentation = some representation →
    step.outputName = some name →
    step.outputRepresentation = some adapter.outputRepresentation →
    Traces steps source name (adapters ++ [adapter]) adapter.outputRepresentation

section Traces
variable {steps steps' : List DataPlanStep} {source : SourceDescriptor} {name : String}
  {adapters : List AdapterSpec} {representation : RepresentationId}

theorem Traces.mono (h : Traces steps source name adapters representation)
    (hsubset : steps ⊆ steps') : Traces steps' source name adapters representation := by
  induction h with
  | materialize hmem hkind hsource hname hrepresentation =>
    exact .materialize (hsubset hmem) hkind hsource hname hrepresentation
  | adapt _ hmem hkind hsource hadapter hinput hread hname hrepresentation ih =>
    exact .adapt ih (hsubset hmem) hkind hsource hadapter hinput hread hname hrepresentation

theorem Traces.exists_producer (h : Traces steps source name adapters representation) :
    ∃ producer ∈ producers steps name, producer.outputRepresentation = some representation := by
  cases h with
  | materialize hmem _ _ hname hrepresentation =>
    exact ⟨_, List.mem_filter.mpr ⟨hmem, decide_eq_true hname⟩, hrepresentation⟩
  | adapt _ hmem _ _ _ _ _ hname hrepresentation =>
    exact ⟨_, List.mem_filter.mpr ⟨hmem, decide_eq_true hname⟩, hrepresentation⟩

/-- The representation is the one that the adapters end in. -/
theorem Traces.representation_eq (h : Traces steps source name adapters representation)
    (policy : PlanningPolicy) :
    representation = ((chainGraph policy).endOf source.node adapters).representationId := by
  cases h with
  | materialize => rfl
  | adapt =>
    rw [WeightedGraph.endOf_concat]
    rfl

end Traces

/-! ## Fitting steps -/

section Fitting
variable {before : List DataPlanStep} {step : DataPlanStep} {single : Option String}
  {several : List String} {o : OutputId}

/-- What the steps of the planner have to meet. -/
theorem DataPlanStep.Named.fits (hnamed : step.Named single several o) (hbefore : Wired before)
    (hsource : step.kind = .materialize → step.sourceId ≠ none)
    (hadapter : step.kind = .adapt → step.adapterId ≠ none)
    (hblank : ∀ id, step.adapterId = some id → isBlank id = false)
    (hfirst : before = [] → step.kind = .materialize)
    (hreads : ∀ name ∈ single.toList ++ several, ∃ producer ∈ producers before name,
      producer.outputRepresentation = step.inputRepresentation)
    (hrepeats : ∀ producer ∈ producers before o.text, producer.Rematerializes step) :
    step.Fits before := by
  refine ⟨hsource, hadapter, hblank, fun invalid => ?_, fun invalid => ?_, hfirst,
    fun name hname => ?_, fun name hname => ?_⟩
  · rw [hnamed.inputs_eq, hnamed.inputNames_eq]
  · rw [hnamed.output_eq, hnamed.outputName_eq]
  · rw [hnamed.inputNames_eq] at hname
    obtain ⟨producer, hproducer, hsame⟩ := hreads name hname
    obtain ⟨last, hlast, hmem⟩ := exists_lastProducer hproducer
    refine ⟨last, hlast, fun actual expected hactual hexpected => ?_⟩
    -- The last producer is the given one, or materializes the same representation.
    have hagree : last.outputRepresentation = step.inputRepresentation := by
      rcases hbefore.eq_or_rematerializes hmem hproducer with rfl | hagain
      · exact hsame
      · exact hagain.outputRepresentation.trans hsame
    exact Option.some.inj (hactual.symm.trans (hagree.trans hexpected))
  · rw [hnamed.outputName_eq] at hname
    exact Option.some.inj hname ▸ hrepeats

/-- A step that reads what is there and writes what no step before it has written. -/
theorem DataPlanStep.Named.fits_reader (hnamed : step.Named single several o)
    (hbefore : Wired before) (hkind : step.kind ≠ .materialize)
    (hadapter : step.kind = .adapt → step.adapterId ≠ none)
    (hblank : ∀ id, step.adapterId = some id → isBlank id = false)
    (hsome : single.toList ++ several ≠ [])
    (hreads : ∀ name ∈ single.toList ++ several, ∃ producer ∈ producers before name,
      producer.outputRepresentation = step.inputRepresentation)
    (hnew : producers before o.text = []) : step.Fits before := by
  refine hnamed.fits hbefore (fun hmaterialize => absurd hmaterialize hkind) hadapter hblank
    (fun hempty => ?_) hreads fun producer hproducer => ?_
  · -- What it reads was written, so it is not the first step.
    obtain ⟨name, hname⟩ := List.exists_mem_of_ne_nil _ hsome
    obtain ⟨producer, hproducer, -⟩ := hreads name hname
    rw [hempty] at hproducer
    cases hproducer
  · rw [hnew] at hproducer
    cases hproducer

end Fitting

/-! ## Sound states -/

namespace PlannerState

/-- What the name of an output says of the step that wrote it. -/
def Declares (candidates : List SourceDescriptor) (done : List String) (st : PlannerState)
    (step : DataPlanStep) : OutputId → Prop
  | .source id => ∃ source ∈ candidates, source.id = id ∧ step = materializeStep source
  | .adapt idx => idx < st.adaptIdx
  | .align idx => idx < st.alignIdx
  | .port name => name ∈ done

structure Sound (candidates : List SourceDescriptor) (done : List String) (st : PlannerState) :
    Prop where
  wired : Wired st.steps
  named : ∀ step ∈ st.steps,
    ∃ o : OutputId, step.outputName = some o.text ∧ st.Declares candidates done step o

/-- What is there stays there. -/
structure Extends (st st' : PlannerState) : Prop where
  steps : st.steps ⊆ st'.steps
  issues : st.issues ⊆ st'.issues

theorem Extends.refl (st : PlannerState) : st.Extends st :=
  ⟨List.Subset.refl _, List.Subset.refl _⟩

variable {candidates : List SourceDescriptor} {done done' : List String}
  {st st' st'' : PlannerState} {step : DataPlanStep} {single : Option String}
  {several : List String} {o : OutputId}

theorem Extends.trans (h : st.Extends st') (h' : st'.Extends st'') : st.Extends st'' :=
  ⟨List.Subset.trans h.steps h'.steps, List.Subset.trans h.issues h'.issues⟩

theorem sound_start : start.Sound candidates [] :=
  ⟨.nil, List.forall_mem_nil _⟩

/-- The producers of a name are the steps that the name declares. -/
theorem Sound.declares (h : st.Sound candidates done) {producer : DataPlanStep}
    (hproducer : producer ∈ producers st.steps o.text) :
    st.Declares candidates done producer o := by
  obtain ⟨hmem, hname⟩ := List.mem_filter.mp hproducer
  obtain ⟨o', hname', hdeclares⟩ := h.named producer hmem
  have hsame : o' = o :=
    OutputId.text_injective (Option.some.inj (hname'.symm.trans (of_decide_eq_true hname)))
  exact hsame ▸ hdeclares

theorem Sound.producers_eq_nil (h : st.Sound candidates done)
    (hnew : ∀ step, ¬st.Declares candidates done step o) : producers st.steps o.text = [] :=
  List.eq_nil_iff_forall_not_mem.mpr fun producer hproducer => hnew producer (h.declares hproducer)

/-- One more step, which fits. -/
theorem Sound.append (h : st.Sound candidates done) (hsteps : st'.steps = st.steps ++ [step])
    (hadapt : st.adaptIdx ≤ st'.adaptIdx) (halign : st.alignIdx ≤ st'.alignIdx)
    (hdone : done ⊆ done') (hnamed : step.Named single several o)
    (hdeclares : st'.Declares candidates done' step o) (hfits : step.Fits st.steps) :
    st'.Sound candidates done' := by
  constructor
  · rw [hsteps]
    exact .concat h.wired hfits
  · intro other hother
    rw [hsteps, List.mem_append, List.mem_singleton] at hother
    rcases hother with hother | rfl
    · obtain ⟨o', hname, hold⟩ := h.named other hother
      refine ⟨o', hname, ?_⟩
      -- The counters and the ports only grow.
      cases o' with
      | source => exact hold
      | adapt => exact lt_of_lt_of_le hold hadapt
      | align => exact lt_of_lt_of_le hold halign
      | port => exact hdone hold
    · exact ⟨o, hnamed.outputName_eq, hdeclares⟩

variable {source : SourceDescriptor}

/-- A candidate is materialized, for the first time or again. -/
theorem Sound.materialize (h : st.Sound candidates done)
    (hdistinct : (candidates.map (·.id)).Nodup) (hsource : source ∈ candidates)
    (hsteps : st'.steps = st.steps ++ [materializeStep source])
    (hadapt : st'.adaptIdx = st.adaptIdx) (halign : st'.alignIdx = st.alignIdx) :
    st'.Sound candidates done := by
  have hnamed := materializeStep_named source
  refine h.append hsteps hadapt.ge halign.ge (List.Subset.refl _) hnamed
    ⟨source, hsource, rfl, rfl⟩
    (hnamed.fits h.wired (fun _ => Option.some_ne_none _) (fun hkind => ?_) (fun id hid => ?_)
      (fun _ => rfl) (List.forall_mem_nil _) fun producer hproducer => ?_)
  · cases hkind
  · cases hid
  · obtain ⟨other, hother, hid, rfl⟩ := h.declares hproducer
    obtain rfl : other = source := List.inj_on_of_nodup_map hdistinct hother hsource hid
    exact ⟨rfl, rfl, rfl, rfl⟩

end PlannerState

/-! ## One source -/

/-- A registered adapter has a name. -/
theorem AdapterRegistry.isBlank_id {registry : AdapterRegistry} {adapter : AdapterSpec}
    (h : adapter ∈ registry.specs) : isBlank adapter.id = false := by
  have hvalid := registry.valid adapter.id adapter (mem_specs.mp h)
  simp only [AdapterSpec.validate, validateName, bind_eq_ok, exists_unit, rejectIf_eq_ok] at hvalid
  exact hvalid.1.1

namespace SourceLoop

/-- The current output is the source after the adapters so far. -/
structure Traced (candidates : List SourceDescriptor) (done : List String)
    (source : SourceDescriptor) (adapters : List AdapterSpec) (loop : SourceLoop) : Prop where
  sound : loop.state.Sound candidates done
  traces : Traces loop.state.steps source loop.output adapters loop.representation

variable {candidates : List SourceDescriptor} {done : List String} {source : SourceDescriptor}
  {adapters rest : List AdapterSpec} {adapter : AdapterSpec} {loop : SourceLoop}

theorem Traced.addAdapter (h : loop.Traced candidates done source adapters)
    (hblank : isBlank adapter.id = false) :
    (loop.addAdapter source adapter).Traced candidates done source (adapters ++ [adapter]) ∧
      loop.state.Extends (loop.addAdapter source adapter).state := by
  have hnamed :=
    adaptStep_named source adapter loop.representation loop.output loop.state.adaptIdx
  have hsteps : loop.state.steps ⊆ (loop.addAdapter source adapter).state.steps :=
    List.subset_append_left _ _
  have hnew : producers loop.state.steps (OutputId.adapt loop.state.adaptIdx).text = [] :=
    h.sound.producers_eq_nil fun _ => Nat.lt_irrefl _
  refine ⟨⟨?_, ?_⟩, hsteps, List.Subset.refl _⟩
  · refine h.sound.append rfl (Nat.le_succ _) (Nat.le_refl _) (List.Subset.refl _) hnamed
      (Nat.lt_succ_self _) (hnamed.fits_reader h.sound.wired (fun hkind => ?_)
        (fun _ => Option.some_ne_none _) (fun id hid => ?_) (List.cons_ne_nil _ _)
        (fun name hname => ?_) hnew)
    · cases hkind
    · exact Option.some.inj hid ▸ hblank
    · rw [List.mem_singleton.mp hname]
      exact h.traces.exists_producer
  · exact .adapt (h.traces.mono hsteps) (List.mem_append_right _ (List.mem_singleton.mpr rfl)) rfl
      rfl rfl hnamed.inputNames_eq rfl hnamed.outputName_eq rfl

theorem Traced.foldl_addAdapter (h : loop.Traced candidates done source adapters)
    (hblank : ∀ adapter ∈ rest, isBlank adapter.id = false) :
    (rest.foldl (SourceLoop.addAdapter source) loop).Traced candidates done source
        (adapters ++ rest) ∧
      loop.state.Extends (rest.foldl (SourceLoop.addAdapter source) loop).state := by
  induction rest generalizing loop adapters with
  | nil =>
    rw [List.append_nil]
    exact ⟨h, .refl _⟩
  | cons adapter rest ih =>
    obtain ⟨hhead, htail⟩ := List.forall_mem_cons.mp hblank
    obtain ⟨hnext, hextends⟩ := h.addAdapter hhead
    obtain ⟨hlast, hextends'⟩ := ih hnext htail
    rw [List.append_assoc] at hlast
    exact ⟨hlast, hextends.trans hextends'⟩

end SourceLoop

/-! ## One port -/

/-- A candidate with adapters that lead to the target. -/
structure ResolvedSource.Leads (candidates : List SourceDescriptor) (registry : AdapterRegistry)
    (policy : PlanningPolicy) (target : RepresentationNode) (resolved : ResolvedSource) : Prop where
  candidate : resolved.source ∈ candidates
  chain : Chain registry policy resolved.source.node target resolved.path.adapters
  representation : resolved.targetRepresentation = target.representationId

/-- The outputs of the names are put together: the join step of the port reads the only one, or
what an align step makes of several. -/
def Joined (steps : List DataPlanStep) (port : String) (representation : RepresentationId)
    (names : List String) : Prop :=
  ∃ join ∈ steps, join.kind = .join ∧ join.outputName = some s!"port:{port}" ∧
    join.inputRepresentation = some representation ∧
    join.outputRepresentation = some representation ∧
    (names.length = 1 ∧ join.inputNames = names ∨
      1 < names.length ∧ ∃ align ∈ steps, align.kind = .align ∧ align.inputNames = names ∧
        align.inputRepresentation = some representation ∧
        align.outputRepresentation = some representation ∧
        ∃ output, align.outputName = some output ∧ join.inputNames = [output])

namespace PortLoop

/-- The inputs so far are the sources so far, each after its adapters. -/
structure Traced (candidates : List SourceDescriptor) (done : List String)
    (target : RepresentationNode) (resolved : List ResolvedSource) (loop : PortLoop) : Prop where
  sound : loop.state.Sound candidates done
  traces : List.Forall₂ (fun name r => Traces loop.state.steps r.source name r.path.adapters
    target.representationId) loop.inputs resolved
  issues : ∀ r ∈ resolved, r.issues ⊆ loop.state.issues

variable {candidates : List SourceDescriptor} {done : List String} {registry : AdapterRegistry}
  {policy : PlanningPolicy} {target : RepresentationNode} {resolved rest : List ResolvedSource}
  {r : ResolvedSource} {loop : PortLoop}

theorem Traced.addSource (h : loop.Traced candidates done target resolved)
    (hdistinct : (candidates.map (·.id)).Nodup) (hr : r.Leads candidates registry policy target) :
    (loop.addSource r).Traced candidates done target (resolved ++ [r]) ∧
      loop.state.Extends (loop.addSource r).state := by
  have hblank : ∀ adapter ∈ r.path.adapters, isBlank adapter.id = false :=
    fun adapter hmem => AdapterRegistry.isBlank_id (hr.chain.edges adapter hmem).1
  let first : SourceLoop :=
    { state := { loop.state with issues := loop.state.issues ++ r.issues }.push
        (materializeStep r.source)
      output := sourceOutputId r.source.id
      representation := r.source.nativeRepresentation.id }
  have hfirst : first.Traced candidates done r.source [] := by
    refine ⟨h.sound.materialize hdistinct hr.candidate rfl rfl rfl, ?_⟩
    exact .materialize (List.mem_append_right _ (List.mem_singleton.mpr rfl)) rfl rfl
      (materializeStep_named r.source).outputName_eq rfl
  obtain ⟨hlast, hextends⟩ := hfirst.foldl_addAdapter hblank
  have hbefore : loop.state.Extends first.state :=
    ⟨List.subset_append_left _ _, List.subset_append_left _ _⟩
  have hall := hbefore.trans hextends
  refine ⟨⟨hlast.sound, ?_, fun other hother => ?_⟩, hall⟩
  · -- The adapters lead to the target, so this is where the trace ends.
    have htrace := hlast.traces
    rw [htrace.representation_eq policy, List.nil_append, hr.chain.walk.endOf_eq] at htrace
    refine List.rel_append (h.traces.imp fun _ _ htraces => htraces.mono hall.steps) ?_
    exact .cons htrace .nil
  · rcases List.mem_append.mp hother with hold | hnew
    · exact List.Subset.trans (h.issues other hold) hall.issues
    · rw [List.mem_singleton.mp hnew]
      exact List.Subset.trans (List.subset_append_right _ _) hextends.issues

theorem Traced.foldl_addSource (h : loop.Traced candidates done target resolved)
    (hdistinct : (candidates.map (·.id)).Nodup)
    (hrest : ∀ r ∈ rest, r.Leads candidates registry policy target) :
    (rest.foldl PortLoop.addSource loop).Traced candidates done target (resolved ++ rest) ∧
      loop.state.Extends (rest.foldl PortLoop.addSource loop).state := by
  induction rest generalizing loop resolved with
  | nil =>
    rw [List.append_nil]
    exact ⟨h, .refl _⟩
  | cons r rest ih =>
    obtain ⟨hhead, htail⟩ := List.forall_mem_cons.mp hrest
    obtain ⟨hnext, hextends⟩ := h.addSource hdistinct hhead
    obtain ⟨hlast, hextends'⟩ := ih hnext htail
    rw [List.append_assoc] at hlast
    exact ⟨hlast, hextends.trans hextends'⟩

end PortLoop

end DagMlData
