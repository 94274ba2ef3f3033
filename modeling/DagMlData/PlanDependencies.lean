import DagMlData.Plan

/-!
# Dependencies between the steps of a plan

The steps of a plan name the outputs that they read. `DataPlan.validate_sound`: in an accepted plan
every named input is the output of an earlier step, of the representation that is asked for; a name
has several producers only where one source is materialized again; and so the plan can be run from
its first step to its last.
-/

namespace DagMlData

open Guard RustText

/-! ## Names -/

namespace DataPlanStep

/-- The names that the step reads. -/
def inputNames (step : DataPlanStep) : List String :=
  ((step.metadata["input"]?).bind Json.asStr).toList ++
    (((step.metadata["inputs"]?).bind Json.asArray).getD []).filterMap Json.asStr

/-- The name that the step writes. -/
def outputName (step : DataPlanStep) : Option String :=
  match step.metadata["output"]? with
  | some value => value.asStr
  | none => if step.kind == .materialize then step.sourceId.map fun id => s!"src:{id}" else none

variable {step : DataPlanStep} {invalid : String → DataError}

theorem filterMap_asStr {values : List Json} {names : List String} {e : DataError}
    (h : values.mapM (fun v => require v.asStr e) = .ok names) :
    values.filterMap Json.asStr = names := by
  rw [mapM_eq_ok] at h
  induction h with
  | nil => rfl
  | cons hname _ ih => rw [List.filterMap_cons, require_eq_ok.mp hname, ih]

theorem inputs_eq_ok {names : List String} (h : step.inputs invalid = .ok names) :
    step.inputNames = names := by
  unfold inputs at h
  unfold inputNames
  cases hinput : step.metadata["input"]? with
  | none =>
    cases hinputs : step.metadata["inputs"]? with
    | none =>
      simp only [hinput, hinputs, pure_bind, pure_eq_ok] at h
      exact h
    | some value =>
      simp only [hinput, hinputs, pure_bind, bind_eq_ok, require_eq_ok, exists_unit,
        pure_eq_ok] at h
      obtain ⟨values, hvalues, -, several, hseveral, rfl⟩ := h
      simp only [Option.bind_none, Option.bind_some, hvalues, Option.getD_some,
        filterMap_asStr hseveral, Option.toList_none]
  | some single =>
    cases hinputs : step.metadata["inputs"]? with
    | none =>
      simp only [hinput, hinputs, pure_bind, bind_eq_ok, require_eq_ok, pure_eq_ok] at h
      obtain ⟨name, hname, rfl⟩ := h
      simp [hname]
    | some value =>
      simp only [hinput, hinputs, pure_bind, bind_eq_ok, require_eq_ok, exists_unit,
        pure_eq_ok] at h
      obtain ⟨name, hname, values, hvalues, -, several, hseveral, rfl⟩ := h
      simp only [Option.bind_some, hname, hvalues, Option.getD_some, filterMap_asStr hseveral,
        Option.toList_some]

theorem output_eq_ok {output : Option String} (h : step.output invalid = .ok output) :
    step.outputName = output := by
  unfold DataPlanStep.output at h
  unfold outputName
  cases houtput : step.metadata["output"]? with
  | none =>
    simp only [houtput] at h ⊢
    split at h
    · next hkind => rw [if_pos hkind]; exact pure_eq_ok.mp h
    · next hkind => rw [if_neg hkind]; exact pure_eq_ok.mp h
  | some value =>
    simp only [houtput, bind_eq_ok, require_eq_ok, pure_eq_ok, Option.filter_eq_some_iff] at h ⊢
    obtain ⟨id, ⟨hid, -⟩, rfl⟩ := h
    exact hid

/-- The two steps materialize one source in one representation. -/
structure Rematerializes (step again : DataPlanStep) : Prop where
  first : step.kind = .materialize
  second : again.kind = .materialize
  sourceId : step.sourceId = again.sourceId
  outputRepresentation : step.outputRepresentation = again.outputRepresentation

end DataPlanStep

instance : Std.Symm DataPlanStep.Rematerializes :=
  ⟨fun _ _ h => ⟨h.second, h.first, h.sourceId.symm, h.outputRepresentation.symm⟩⟩

/-! ## Producers -/

/-- The steps that write the name. -/
def producers (steps : List DataPlanStep) (name : String) : List DataPlanStep :=
  steps.filter fun step => step.outputName = some name

/-- The last of them. -/
def lastProducer (steps : List DataPlanStep) (name : String) : Option DataPlanStep :=
  (producers steps name).getLast?

theorem producers_concat (steps : List DataPlanStep) (step : DataPlanStep) (name : String) :
    producers (steps ++ [step]) name =
      producers steps name ++ if step.outputName = some name then [step] else [] := by
  rw [producers, List.filter_append, producers, List.filter_singleton]
  by_cases hname : step.outputName = some name <;> simp [hname]

/-- The last producer is at some place, and none is after it. -/
theorem lastProducer_eq_some {steps : List DataPlanStep} {name : String} {producer : DataPlanStep}
    (h : lastProducer steps name = some producer) :
    ∃ i : Nat, steps[i]? = some producer ∧ producer.outputName = some name ∧
      ∀ (k : Nat) later, i < k → steps[k]? = some later → later.outputName ≠ some name := by
  induction steps using List.reverseRecOn with
  | nil => cases h
  | append_singleton steps step ih =>
    rw [lastProducer, producers_concat] at h
    by_cases hname : step.outputName = some name
    · rw [if_pos hname, List.getLast?_concat, Option.some.injEq] at h
      subst h
      refine ⟨steps.length, List.getElem?_concat_length, hname, fun k later hk hget => ?_⟩
      have hlt := (List.getElem?_eq_some_iff.mp hget).1
      rw [List.length_append, List.length_singleton] at hlt
      omega
    · rw [if_neg hname, List.append_nil] at h
      obtain ⟨i, hi, hproducer, hlast⟩ := ih h
      have hlt := (List.getElem?_eq_some_iff.mp hi).1
      refine ⟨i, by rw [List.getElem?_append_left hlt, hi], hproducer,
        fun k later hk hget => ?_⟩
      by_cases hklt : k < steps.length
      · exact hlast k later hk (by rwa [List.getElem?_append_left hklt] at hget)
      · rw [List.getElem?_append_right (not_lt.mp hklt), List.getElem?_singleton] at hget
        split at hget
        · cases hget
          exact hname
        · cases hget

/-! ## What the loop has seen -/

/-- The inputs of the step are outputs of the steps before it. -/
def DataPlanStep.ReadsFrom (step : DataPlanStep) (before : List DataPlanStep) : Prop :=
  ∀ name ∈ step.inputNames, ∃ producer, lastProducer before name = some producer ∧
    ∀ actual expected, producer.outputRepresentation = some actual →
      step.inputRepresentation = some expected → actual = expected

/-- What the loop has established of the steps that it has accepted. -/
structure PlanLoop.Seen (steps : List DataPlanStep) (st : PlanLoop) : Prop where
  outputs : ∀ name : String,
    st.outputs[name]? = (lastProducer steps name).map (·.outputRepresentation)
  sources : ∀ name : String, st.sourceOutputs[name]? =
    ((producers steps name).filter (·.kind == .materialize)).getLast?.map (·.sourceId)
  repeats : ∀ name, (producers steps name).Pairwise DataPlanStep.Rematerializes
  reads : ∀ (j : Nat) step, steps[j]? = some step → step.ReadsFrom (steps.take j)

/-- What the loop body checks of the step. -/
structure DataPlanStep.Checked (st : PlanLoop) (step : DataPlanStep) : Prop where
  inputs : ∀ name ∈ step.inputNames, ∃ representation : Option RepresentationId,
    st.outputs[name]? = some representation ∧
      ∀ actual expected, representation = some actual →
      step.inputRepresentation = some expected → actual = expected
  output : ∀ name previous, step.outputName = some name → st.outputs[name]? = some previous →
    step.kind = .materialize ∧ previous = step.outputRepresentation ∧
      st.sourceOutputs[name]? = some step.sourceId

theorem DataPlan.checkStep_eq_ok {plan : DataPlan} {st st' : PlanLoop}
    {entry : DataPlanStep × Nat} (h : plan.checkStep st entry = .ok st') :
    entry.1.Checked st ∧ st' = st.add entry.1 entry.1.outputName := by
  simp only [checkStep, bind_eq_ok, exists_unit, rejectIf_eq_ok, forM_eq_ok, pure_eq_ok] at h
  obtain ⟨-, -, -, names, hnames, -, hinputs, output, houtput, hcheck, rfl⟩ := h
  obtain rfl := DataPlanStep.inputs_eq_ok hnames
  obtain rfl := DataPlanStep.output_eq_ok houtput
  refine ⟨⟨fun name hname => ?_, fun name previous hout hprevious => ?_⟩, rfl⟩
  · have hinput := hinputs name hname
    simp only [DataPlanStep.checkInput, bind_eq_ok, require_eq_ok, whenSome_eq_ok, rejectIf_eq_ok,
      bne_eq_false_iff_eq] at hinput
    obtain ⟨representation, hget, hsame⟩ := hinput
    exact ⟨representation, hget, fun actual expected hactual hexpected =>
      hsame actual hactual expected hexpected⟩
  · have hduplicate := whenSome_eq_ok.mp hcheck name hout
    simp only [DataPlanStep.checkOutput, whenSome_eq_ok, rejectIf_eq_ok, Bool.or_eq_false_iff,
      bne_eq_false_iff_eq] at hduplicate
    obtain ⟨⟨hkind, hrepresentation⟩, hsource⟩ := hduplicate previous hprevious
    exact ⟨hkind, hrepresentation, hsource⟩

/-- Producers of one name are one step, or materialize the same. -/
theorem PlanLoop.Seen.eq_or_rematerializes {steps : List DataPlanStep} {st : PlanLoop}
    (h : PlanLoop.Seen steps st) {name : String} {p q : DataPlanStep}
    (hp : p ∈ producers steps name) (hq : q ∈ producers steps name) :
    p = q ∨ p.Rematerializes q := by
  by_cases hpq : p = q
  · exact .inl hpq
  · exact .inr ((h.repeats name).forall hp hq hpq)

/-- A step that writes a name again materializes what every producer of the name materializes. -/
theorem PlanLoop.Seen.rematerializes {steps : List DataPlanStep} {st : PlanLoop}
    {step : DataPlanStep} (h : PlanLoop.Seen steps st) (hstep : step.Checked st) {name : String}
    (hname : step.outputName = some name) {p : DataPlanStep} (hp : p ∈ producers steps name) :
    p.Rematerializes step := by
  obtain ⟨last, hlast⟩ : ∃ last, lastProducer steps name = some last :=
    Option.isSome_iff_exists.mp (List.getLast?_isSome.mpr (List.ne_nil_of_mem hp))
  have hget : st.outputs[name]? = some last.outputRepresentation := by
    rw [h.outputs, hlast, Option.map_some]
  obtain ⟨hkind, hrepresentation, hsource⟩ := hstep.output name _ hname hget
  -- The name has a source, so one of its producers materializes that source.
  rw [h.sources, Option.map_eq_some_iff] at hsource
  obtain ⟨q, hq, hsource⟩ := hsource
  have hqmem := List.mem_of_getLast? hq
  rw [List.mem_filter, beq_iff_eq] at hqmem
  have hsource' : p.kind = .materialize ∧ p.sourceId = q.sourceId := by
    rcases h.eq_or_rematerializes hp hqmem.1 with rfl | hpq
    · exact ⟨hqmem.2, rfl⟩
    · exact ⟨hpq.first, hpq.sourceId⟩
  have hrepresentation' : p.outputRepresentation = last.outputRepresentation := by
    rcases h.eq_or_rematerializes hp (List.mem_of_getLast? hlast) with rfl | hplast
    · rfl
    · exact hplast.outputRepresentation
  exact ⟨hsource'.1, hkind, hsource'.2.trans hsource, hrepresentation'.trans hrepresentation⟩

theorem PlanLoop.Seen.add {steps : List DataPlanStep} {st : PlanLoop} {step : DataPlanStep}
    (h : PlanLoop.Seen steps st) (hstep : step.Checked st) :
    PlanLoop.Seen (steps ++ [step]) (st.add step step.outputName) where
  outputs name := by
    rw [lastProducer, producers_concat]
    cases hout : step.outputName with
    | none => simpa [PlanLoop.add, lastProducer] using h.outputs name
    | some output =>
      by_cases hsame : output = name
      · subst hsame
        simp [PlanLoop.add]
      · simp only [PlanLoop.add, Option.some.injEq, hsame, if_false, List.append_nil]
        rw [BTreeMap.getElem?_insert_of_ne hsame]
        exact h.outputs name
  sources name := by
    rw [producers_concat]
    cases hout : step.outputName with
    | none => simpa [PlanLoop.add] using h.sources name
    | some output =>
      by_cases hsame : output = name
      · subst hsame
        by_cases hkind : step.kind = .materialize
        · simp [PlanLoop.add, hkind]
        · simpa [PlanLoop.add, hkind] using h.sources output
      · simp only [PlanLoop.add, Option.some.injEq, hsame, if_false, List.append_nil]
        split
        · rw [BTreeMap.getElem?_insert_of_ne hsame]
          exact h.sources name
        · exact h.sources name
  repeats name := by
    rw [producers_concat]
    by_cases hname : step.outputName = some name
    · rw [if_pos hname, List.pairwise_append]
      refine ⟨h.repeats name, List.pairwise_singleton _ _, fun p hp q hq => ?_⟩
      rw [List.mem_singleton.mp hq]
      exact h.rematerializes hstep hname hp
    · rw [if_neg hname, List.append_nil]
      exact h.repeats name
  reads j other hget := by
    by_cases hlt : j < steps.length
    · rw [List.getElem?_append_left hlt] at hget
      rw [List.take_append_of_le_length hlt.le]
      exact h.reads j other hget
    · obtain rfl : j = steps.length := by
        have hle := (List.getElem?_eq_some_iff.mp hget).1
        rw [List.length_append, List.length_singleton] at hle
        omega
      rw [List.getElem?_concat_length, Option.some.injEq] at hget
      subst hget
      rw [List.take_left]
      intro name hname
      obtain ⟨representation, hrepresentation, hsame⟩ := hstep.inputs name hname
      rw [h.outputs, Option.map_eq_some_iff] at hrepresentation
      obtain ⟨producer, hproducer, rfl⟩ := hrepresentation
      exact ⟨producer, hproducer, hsame⟩

theorem PlanLoop.seen_of_validate {plan : DataPlan} (h : plan.validate = .ok ()) :
    ∃ st, PlanLoop.Seen plan.steps st := by
  simp only [DataPlan.validate, bind_eq_ok, exists_unit] at h
  obtain ⟨-, -, st, hloop, -⟩ := h
  have hseen : PlanLoop.Seen (plan.steps.zipIdx.map (·.1)) st := by
    refine foldlM_ok_induction
      (P := fun (entries : List (DataPlanStep × Nat)) st => PlanLoop.Seen (entries.map (·.1)) st)
      ?_ ?_ hloop
    · constructor <;> simp [lastProducer, producers]
    · intro pre st entry st' hpre hstep
      obtain ⟨hchecked, rfl⟩ := DataPlan.checkStep_eq_ok hstep
      rw [List.map_append]
      exact hpre.add hchecked
  rw [List.zipIdx_map_fst] at hseen
  exact ⟨st, hseen⟩

/-! ## Running a plan -/

section Run

variable {α : Type} (content : DataPlanStep → List α → α)

/-- The inputs and the output of every step so far, and the contents of the names. -/
structure PlanRun (α : Type) where
  made : List (List α × α)
  written : String → Option α

/-- A step reads its names, and writes its own. It fails at a name without content. -/
def PlanRun.step (st : PlanRun α) (step : DataPlanStep) : Except String (PlanRun α) := do
  let inputs ← step.inputNames.mapM fun name => require (st.written name) name
  let output := content step inputs
  pure ⟨st.made ++ [(inputs, output)], fun name =>
    if step.outputName = some name then some output else st.written name⟩

/-- The steps in their order, where `content` is what a step makes of its inputs. -/
def DataPlan.run (plan : DataPlan) : Except String (List (List α × α)) := do
  let final ← plan.steps.foldlM (PlanRun.step content) ⟨[], fun _ => none⟩
  pure final.made

/-- The step at the place has read what every earlier producer of the name has written. -/
structure ReadAt (steps : List DataPlanStep) (made : List (List α × α)) (j : Nat)
    (step : DataPlanStep) (inputs : List α) : Prop where
  output : made[j]? = some (inputs, content step inputs)
  inputs : List.Forall₂ (fun name value => ∀ i < j, ∀ p, steps[i]? = some p →
    p.outputName = some name → (made[i]?).map (·.2) = some value) step.inputNames inputs

/-- What a run has made of the steps. -/
structure PlanRun.Ran (steps : List DataPlanStep) (st : PlanRun α) : Prop where
  length : st.made.length = steps.length
  read : ∀ (j : Nat) step, steps[j]? = some step →
    ∃ inputs, ReadAt content steps st.made j step inputs
  written : ∀ (i : Nat) p name, steps[i]? = some p → p.outputName = some name →
    ∃ value, (st.made[i]?).map (·.2) = some value ∧ st.written name = some value

variable {content}

/-- An index of a list with one more element is one of the list, or the last. -/
theorem getElem?_concat_cases {β : Type} {xs : List β} {x y : β} {i : Nat}
    (h : (xs ++ [x])[i]? = some y) : (i < xs.length ∧ xs[i]? = some y) ∨
      (i = xs.length ∧ y = x) := by
  by_cases hlt : i < xs.length
  · rw [List.getElem?_append_left hlt] at h
    exact .inl ⟨hlt, h⟩
  · rw [List.getElem?_append_right (not_lt.mp hlt), List.getElem?_singleton] at h
    split at h
    · next hzero =>
      cases h
      exact .inr ⟨by omega, rfl⟩
    · cases h

theorem ReadAt.append {steps : List DataPlanStep} {made : List (List α × α)} {j : Nat}
    {step last : DataPlanStep} {inputs : List α} (h : ReadAt content steps made j step inputs)
    (hlength : made.length = steps.length) (hlt : j ≤ steps.length) (entry : List α × α) :
    List.Forall₂ (fun name value => ∀ i < j, ∀ p, (steps ++ [last])[i]? = some p →
      p.outputName = some name → ((made ++ [entry])[i]?).map (·.2) = some value)
      step.inputNames inputs := by
  refine h.inputs.imp fun name value hvalue i hij p hget hname => ?_
  have hi := hij.trans_le hlt
  rw [List.getElem?_append_left hi] at hget
  rw [List.getElem?_append_left (hlength ▸ hi)]
  exact hvalue i hij p hget hname

/-- What a step adds to a run. -/
theorem PlanRun.Ran.step {steps : List DataPlanStep} {st : PlanRun α} {step : DataPlanStep}
    (h : PlanRun.Ran content steps st) (hreads : step.ReadsFrom steps)
    (hcontent : ∀ p q : DataPlanStep, p.Rematerializes q →
      ∀ inputs inputs', content p inputs = content q inputs')
    (hrepeats : ∀ (i : Nat) p name, steps[i]? = some p → p.outputName = some name →
      step.outputName = some name → p.Rematerializes step) :
    ∃ st', st.step content step = .ok st' ∧ PlanRun.Ran content (steps ++ [step]) st' := by
  obtain ⟨inputs, hinputs⟩ : ∃ inputs, List.Forall₂ (fun name value =>
      st.written name = some value) step.inputNames inputs := by
    refine exists_forall₂ fun name hname => ?_
    obtain ⟨producer, hproducer, -⟩ := hreads name hname
    obtain ⟨i, hi, houtput, -⟩ := lastProducer_eq_some hproducer
    obtain ⟨value, -, hvalue⟩ := h.written i producer name hi houtput
    exact ⟨value, hvalue⟩
  have hread : step.inputNames.mapM (fun name => require (st.written name) name) = .ok inputs :=
    mapM_eq_ok.mpr (hinputs.imp fun name value hvalue => require_eq_ok.mpr hvalue)
  refine ⟨⟨st.made ++ [(inputs, content step inputs)], fun name =>
    if step.outputName = some name then some (content step inputs) else st.written name⟩, ?_,
      ?_⟩
  · rw [PlanRun.step, hread]
    rfl
  have hlast : (st.made ++ [(inputs, content step inputs)])[steps.length]? =
      some (inputs, content step inputs) := by
    rw [← h.length]
    exact List.getElem?_concat_length
  refine ⟨by simp [h.length], fun j other hget => ?_, fun i p name hget hname => ?_⟩
  · rcases getElem?_concat_cases hget with ⟨hlt, hget⟩ | ⟨rfl, rfl⟩
    · obtain ⟨ins, hreadAt⟩ := h.read j other hget
      refine ⟨ins, ?_, hreadAt.append h.length hlt.le _⟩
      rw [List.getElem?_append_left (h.length ▸ hlt), hreadAt.output]
    · refine ⟨inputs, hlast, hinputs.imp fun name value hvalue i hi p hget hname => ?_⟩
      rw [List.getElem?_append_left hi] at hget
      rw [List.getElem?_append_left (h.length ▸ hi)]
      obtain ⟨value', hmade, hwritten⟩ := h.written i p name hget hname
      rw [hmade, ← hwritten, hvalue]
  · rcases getElem?_concat_cases hget with ⟨hlt, hget⟩ | ⟨rfl, rfl⟩
    · simp only [List.getElem?_append_left (h.length ▸ hlt)]
      by_cases hsame : step.outputName = some name
      · obtain ⟨ins, hreadAt⟩ := h.read i p hget
        refine ⟨content step inputs, ?_, if_pos hsame⟩
        rw [hreadAt.output, Option.map_some,
          hcontent p step (hrepeats i p name hget hname hsame) ins inputs]
      · simp only [if_neg hsame]
        exact h.written i p name hget hname
    · exact ⟨content p inputs, by simp only [hlast, Option.map_some], if_pos hname⟩

end Run

/-! ## Accepted plans -/

namespace DataPlan

/-- The step at the one place reads a name that the step at the other place is the first to
write. -/
def DependsOn (plan : DataPlan) (j i : Nat) : Prop :=
  ∃ step producer name, plan.steps[j]? = some step ∧ plan.steps[i]? = some producer ∧
    name ∈ step.inputNames ∧ producer.outputName = some name ∧
    ∀ k < i, ∀ earlier, plan.steps[k]? = some earlier → earlier.outputName ≠ some name

/-- The input is the output of the step at the place, and of none between that step and the
reader. -/
structure ReadsLast (plan : DataPlan) (j : Nat) (step : DataPlanStep) (name : String) (i : Nat)
    (producer : DataPlanStep) : Prop where
  earlier : i < j
  place : plan.steps[i]? = some producer
  output : producer.outputName = some name
  last : ∀ k, i < k → k < j → ∀ later, plan.steps[k]? = some later →
    later.outputName ≠ some name
  representation : ∀ actual expected, producer.outputRepresentation = some actual →
    step.inputRepresentation = some expected → actual = expected

variable {plan : DataPlan}

theorem readsLast_of_seen {st : PlanLoop} (h : PlanLoop.Seen plan.steps st) {j : Nat}
    {step : DataPlanStep} (hstep : plan.steps[j]? = some step) {name : String}
    (hname : name ∈ step.inputNames) : ∃ i producer, plan.ReadsLast j step name i producer := by
  obtain ⟨producer, hproducer, hsame⟩ := h.reads j step hstep name hname
  obtain ⟨i, hi, houtput, hlast⟩ := lastProducer_eq_some hproducer
  have hlt : i < j := by
    have hbound := (List.getElem?_eq_some_iff.mp hi).1
    rw [List.length_take] at hbound
    exact hbound.trans_le (Nat.min_le_left j _)
  have htake : ∀ k < j, (plan.steps.take j)[k]? = plan.steps[k]? := fun k hk =>
    List.getElem?_take_of_lt hk
  refine ⟨i, producer, hlt, htake i hlt ▸ hi, houtput, fun k hik hkj later hget => ?_, hsame⟩
  exact hlast k later hik (by rw [htake k hkj, hget])

theorem rematerializes_of_seen {st : PlanLoop} {steps : List DataPlanStep}
    (h : PlanLoop.Seen steps st) {i j : Nat} (hij : i ≠ j) {p q : DataPlanStep}
    (hp : steps[i]? = some p) (hq : steps[j]? = some q) {name : String}
    (hpname : p.outputName = some name) (hqname : q.outputName = some name) :
    p.Rematerializes q := by
  have hpairs := List.pairwise_filter.mp (h.repeats name)
  have hordered : ∀ {i j : Nat} {p q : DataPlanStep}, i < j → steps[i]? = some p →
      steps[j]? = some q → p.outputName = some name → q.outputName = some name →
      p.Rematerializes q := by
    intro i j p q hlt hp hq hpname hqname
    obtain ⟨hi, rfl⟩ := List.getElem?_eq_some_iff.mp hp
    obtain ⟨hj, rfl⟩ := List.getElem?_eq_some_iff.mp hq
    exact List.pairwise_iff_getElem.mp hpairs i j hi hj hlt (decide_eq_true hpname)
      (decide_eq_true hqname)
  rcases Nat.lt_or_gt_of_ne hij with hlt | hgt
  · exact hordered hlt hp hq hpname hqname
  · exact Std.Symm.symm _ _ (hordered hgt hq hp hqname hpname)

/-- A dependency points backwards: the first producer of a name is not after the last one. -/
theorem lt_of_dependsOn {st : PlanLoop} (h : PlanLoop.Seen plan.steps st) {j i : Nat}
    (hdepends : plan.DependsOn j i) : i < j := by
  obtain ⟨step, producer, name, hstep, hproducer, hname, houtput, hfirst⟩ := hdepends
  obtain ⟨k, last, hlast⟩ := readsLast_of_seen h hstep hname
  by_contra hle
  exact hfirst k (hlast.earlier.trans_le (not_lt.mp hle)) last hlast.place hlast.output

/-- The steps run one after the other, and none of them reads a name that is not written. -/
theorem run_of_seen {α : Type} {content : DataPlanStep → List α → α} {st : PlanLoop}
    (h : PlanLoop.Seen plan.steps st)
    (hcontent : ∀ p q : DataPlanStep, p.Rematerializes q →
      ∀ inputs inputs', content p inputs = content q inputs') :
    ∃ final, plan.steps.foldlM (PlanRun.step content) ⟨[], fun _ => none⟩ = .ok final ∧
      PlanRun.Ran content plan.steps final := by
  have hprefix : ∀ n ≤ plan.steps.length, ∃ final,
      (plan.steps.take n).foldlM (PlanRun.step content) ⟨[], fun _ => none⟩ = .ok final ∧
        PlanRun.Ran content (plan.steps.take n) final := by
    intro n
    induction n with
    | zero =>
      intro _
      exact ⟨_, rfl, ⟨rfl, fun j step hget => by simp at hget,
        fun i p name hget => by simp at hget⟩⟩
    | succ n ih =>
      intro hn
      obtain ⟨final, hfinal, hran⟩ := ih (Nat.le_of_succ_le hn)
      have hstep : plan.steps[n]? = some plan.steps[n] := List.getElem?_eq_getElem hn
      have hrepeats : ∀ (i : Nat) p name, (plan.steps.take n)[i]? = some p →
          p.outputName = some name → plan.steps[n].outputName = some name →
          p.Rematerializes plan.steps[n] := by
        intro i p name hget hp hname
        obtain ⟨hlt, -⟩ := List.getElem?_eq_some_iff.mp hget
        rw [List.length_take] at hlt
        have hi : i < n := hlt.trans_le (Nat.min_le_left n _)
        rw [List.getElem?_take_of_lt hi] at hget
        exact rematerializes_of_seen h hi.ne hget hstep hp hname
      obtain ⟨final', hfinal', hran'⟩ :=
        hran.step (h.reads n plan.steps[n] hstep) hcontent hrepeats
      rw [List.take_succ_eq_append_getElem hn]
      refine ⟨final', ?_, hran'⟩
      rw [List.foldlM_append]
      refine bind_eq_ok.mpr ⟨final, hfinal, ?_⟩
      exact bind_eq_ok.mpr ⟨final', hfinal', rfl⟩
  have hall := hprefix plan.steps.length le_rfl
  rwa [List.take_length] at hall

/-- What `validate` establishes of the dependencies between the steps. Every input of a step is the
output of an earlier step, and the last step that wrote it has the representation that is asked
for. Steps that write one name materialize one source in one representation. The dependencies have
no cycle. The steps can be run in their order, and where materializing a source in a representation
has one result, each reads the same from every earlier producer of a name. -/
theorem validate_sound (h : plan.validate = .ok ()) :
    (∀ (j : Nat) step, plan.steps[j]? = some step → ∀ name ∈ step.inputNames,
      ∃ i producer, plan.ReadsLast j step name i producer) ∧
    (∀ (i j : Nat) p q name, i ≠ j → plan.steps[i]? = some p → plan.steps[j]? = some q →
      p.outputName = some name → q.outputName = some name → p.Rematerializes q) ∧
    (∀ j, ¬ Relation.TransGen plan.DependsOn j j) ∧
    ∀ (α : Type) (content : DataPlanStep → List α → α),
      (∀ p q : DataPlanStep, p.Rematerializes q →
        ∀ inputs inputs', content p inputs = content q inputs') →
      ∃ made, plan.run content = .ok made ∧ ∀ (j : Nat) step, plan.steps[j]? = some step →
        ∃ inputs, ReadAt content plan.steps made j step inputs := by
  obtain ⟨st, hseen⟩ := PlanLoop.seen_of_validate h
  refine ⟨fun j step hstep name hname => readsLast_of_seen hseen hstep hname,
    fun i j p q name hij hp hq hpname hqname =>
      rematerializes_of_seen hseen hij hp hq hpname hqname, fun j hcycle => ?_,
    fun α content hcontent => ?_⟩
  · have hback : ∀ {j i}, Relation.TransGen plan.DependsOn j i → i < j := by
      intro j i hpath
      induction hpath with
      | single hdepends => exact lt_of_dependsOn hseen hdepends
      | tail _ hdepends ih => exact (lt_of_dependsOn hseen hdepends).trans ih
    exact lt_irrefl j (hback hcycle)
  · obtain ⟨final, hfinal, hran⟩ := run_of_seen hseen hcontent
    exact ⟨final.made, bind_eq_ok.mpr ⟨final, hfinal, rfl⟩, hran.read⟩

/-- Two ports of one source: it is materialized, adapted, and materialized again. -/
def twoPortPlan : DataPlan :=
  let table : RepresentationId := .lit "tabular" rfl
  let load : DataPlanStep :=
    { kind := .materialize, sourceId := some (.lit "nir" rfl), adapterId := none
      inputRepresentation := none, outputRepresentation := some table
      fitScope := .stateless, requiresUserChoice := false, metadata := ∅ }
  let adapt : DataPlanStep :=
    { load with
      kind := .adapt
      sourceId := none
      adapterId := some "scale"
      inputRepresentation := some table
      metadata := BTreeMap.collect
        [("input", .string "src:nir"), ("output", .string "scaled")] }
  { id := "two-ports", steps := [load, adapt, load], outputRepresentation := table, issues := [] }

/-- The three steps run, and the second one reads what the first one has made. -/
theorem twoPortPlan_runs :
    ∃ made, twoPortPlan.run (fun step (_ : List String) => s!"{step.kind.name}") = .ok made ∧
      ¬ Relation.TransGen twoPortPlan.DependsOn 1 1 := by
  have hvalid : twoPortPlan.validate = .ok () := by decide +kernel
  obtain ⟨-, -, hacyclic, hrun⟩ := validate_sound hvalid
  obtain ⟨made, hmade, -⟩ :=
    hrun String (fun step _ => s!"{step.kind.name}") fun p q hpq _ _ => by
    simp only [hpq.first, hpq.second]
  exact ⟨made, hmade, hacyclic 1⟩

end DataPlan

end DagMlData
