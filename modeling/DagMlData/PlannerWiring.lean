import DagMlData.Planner
import DagMlData.PlanDependencies

/-!
# Wired steps

A list of steps is wired when every step fits those before it: what it reads was written, in the
representation that it asks for, and what it writes is new, or a source that is materialized
again. `DataPlan.validate_of_wired`: a plan of wired steps is valid.

`OutputId` has what the planner names an output after. Different ones have different names.
-/

namespace DagMlData

open Guard RustText

/-! ## Names of outputs -/

/-- What the planner names an output after. -/
inductive OutputId
  | source (id : SourceId)
  | adapt (idx : Nat)
  | align (idx : Nat)
  | port (name : String)

namespace OutputId

def text : OutputId → String
  | .source id => sourceOutputId id
  | .adapt idx => s!"step:adapt:{idx}"
  | .align idx => s!"step:align:{idx}"
  | .port name => s!"port:{name}"

/-- The characters of the prefix, and of the rest. -/
def chars : OutputId → List Char
  | .source id => 's' :: 'r' :: 'c' :: ':' :: id.value.toList
  | .adapt idx => 's' :: 't' :: 'e' :: 'p' :: ':' :: 'a' :: 'd' :: 'a' :: 'p' :: 't' :: ':' ::
    idx.repr.toList
  | .align idx => 's' :: 't' :: 'e' :: 'p' :: ':' :: 'a' :: 'l' :: 'i' :: 'g' :: 'n' :: ':' ::
    idx.repr.toList
  | .port name => 'p' :: 'o' :: 'r' :: 't' :: ':' :: name.toList

theorem toList_text (o : OutputId) : o.text.toList = o.chars := by
  cases o <;> exact String.toList_append

/-- The prefix tells the kind of the output, and the rest tells which one it is. -/
theorem text_injective : Function.Injective text := by
  intro a b h
  have hchars : a.chars = b.chars := by rw [← toList_text, h, toList_text]
  cases a with
  | source id =>
    cases b <;> simp [chars] at hchars
    rw [Ident.ext_value (String.toList_inj.mp hchars)]
  | adapt idx =>
    cases b <;> simp [chars] at hchars
    rw [Nat.repr_injective (congrArg String.ofList hchars)]
  | align idx =>
    cases b <;> simp [chars] at hchars
    rw [Nat.repr_injective (congrArg String.ofList hchars)]
  | port name =>
    cases b <;> simp [chars] at hchars
    rw [String.toList_inj.mp hchars]

theorem isBlank_text (o : OutputId) : isBlank o.text = false := by
  rw [isBlank, toList_text]
  cases o <;> rfl

end OutputId

/-! ## The steps of the planner -/

/-- The names in the metadata of a step. -/
structure DataPlanStep.Named (step : DataPlanStep) (single : Option String)
    (several : List String) (output : OutputId) : Prop where
  input : step.metadata["input"]? = single.map Json.string
  inputs : step.metadata["inputs"]? =
    if several = [] then none else some (.array (several.map Json.string))
  output : step.metadata["output"]? = some (.string output.text)

namespace DataPlanStep.Named

variable {step : DataPlanStep} {single : Option String} {several : List String}
  {output : OutputId}

theorem mapM_asStr (xs : List String) {e : DataError} :
    xs.mapM ((fun v => require v.asStr e) ∘ Json.string) = (.ok xs : Result (List String)) := by
  rw [mapM_eq_ok, List.forall₂_same]
  exact fun _ _ => rfl

theorem inputs_eq (h : step.Named single several output) {e : String → DataError} :
    step.inputs e = .ok (single.toList ++ several) := by
  unfold DataPlanStep.inputs
  rw [h.input, h.inputs]
  cases several with
  | nil => cases single <;> rfl
  | cons x xs =>
    rw [if_neg (List.cons_ne_nil x xs)]
    cases single with
    | none => simp [mapM_asStr]
    | some name => simp [mapM_asStr]

theorem output_eq (h : step.Named single several output) {e : String → DataError} :
    step.output e = .ok (some output.text) := by
  unfold DataPlanStep.output
  rw [h.output]
  simp [OutputId.isBlank_text]

theorem inputNames_eq (h : step.Named single several output) :
    step.inputNames = single.toList ++ several :=
  inputs_eq_ok (h.inputs_eq (e := fun _ => .validation ""))

theorem outputName_eq (h : step.Named single several output) :
    step.outputName = some output.text :=
  output_eq_ok (h.output_eq (e := fun _ => .validation ""))

end DataPlanStep.Named

/-! ## Wired steps -/

/-- The step can come after the steps: `DataPlan::validate` has nothing against it. -/
structure DataPlanStep.Fits (before : List DataPlanStep) (step : DataPlanStep) : Prop where
  sourceId : step.kind = .materialize → step.sourceId ≠ none
  adapterId : step.kind = .adapt → step.adapterId ≠ none
  notBlank : ∀ id, step.adapterId = some id → isBlank id = false
  inputs : ∀ invalid, step.inputs invalid = .ok step.inputNames
  output : ∀ invalid, step.output invalid = .ok step.outputName
  first : before = [] → step.kind = .materialize
  reads : step.ReadsFrom before
  repeats : ∀ name, step.outputName = some name →
    ∀ producer ∈ producers before name, producer.Rematerializes step

inductive Wired : List DataPlanStep → Prop
  | nil : Wired []
  | concat {steps : List DataPlanStep} {step : DataPlanStep} :
    Wired steps → step.Fits steps → Wired (steps ++ [step])

section Wiring
variable {steps : List DataPlanStep} {step producer : DataPlanStep} {st : PlanLoop}
  {plan : DataPlan} {name : String}

theorem exists_lastProducer (h : producer ∈ producers steps name) :
    ∃ last, lastProducer steps name = some last ∧ last ∈ producers steps name := by
  obtain ⟨last, hlast⟩ := Option.isSome_iff_exists.mp
    (List.getLast?_isSome.mpr (List.ne_nil_of_mem h))
  exact ⟨last, hlast, List.mem_of_getLast? hlast⟩

/-- A step that fits passes the checks of the loop that has seen the steps before. -/
theorem DataPlanStep.Fits.checked (h : step.Fits steps) (hseen : PlanLoop.Seen steps st) :
    step.Checked st := by
  refine ⟨fun name hname => ?_, fun name previous hname hprevious => ?_⟩
  · obtain ⟨producer, hproducer, hsame⟩ := h.reads name hname
    exact ⟨_, by rw [hseen.outputs, hproducer, Option.map_some], hsame⟩
  · rw [hseen.outputs, Option.map_eq_some_iff] at hprevious
    obtain ⟨last, hlast, rfl⟩ := hprevious
    have hagain := h.repeats name hname
    have hmem := List.mem_of_getLast? hlast
    -- All producers of the name materialize, so the last of them declared its source.
    have hall : (producers steps name).filter (·.kind == .materialize) = producers steps name :=
      List.filter_eq_self.mpr fun p hp => beq_iff_eq.mpr (hagain p hp).first
    refine ⟨(hagain last hmem).second, (hagain last hmem).outputRepresentation, ?_⟩
    rw [hseen.sources, hall, show (producers steps name).getLast? = some last from hlast,
      Option.map_some, (hagain last hmem).sourceId]

theorem DataPlanStep.Fits.checkStep (h : step.Fits steps) (hseen : PlanLoop.Seen steps st)
    {idx : Nat} (hidx : idx = 0 → steps = []) :
    plan.checkStep st (step, idx) = .ok (st.add step step.outputName) := by
  have hchecked := h.checked hseen
  simp only [DataPlan.checkStep, bind_eq_ok, exists_unit, rejectIf_eq_ok, forM_eq_ok, pure_eq_ok,
    Bool.and_eq_false_iff, beq_eq_false_iff_ne, bne_eq_false_iff_eq, Option.isNone_eq_false_iff,
    Option.isSome_iff_ne_none, Option.any_eq_false, whenSome_eq_ok]
  refine ⟨?_, ?_, h.notBlank, _, h.inputs _, ?_, fun name hname => ?_, _, h.output _,
    fun name hname => ?_, rfl⟩
  · exact or_iff_not_imp_left.mpr fun hkind => h.sourceId (not_not.mp hkind)
  · exact or_iff_not_imp_left.mpr fun hkind => h.adapterId (not_not.mp hkind)
  · exact or_iff_not_imp_left.mpr fun hzero => h.first (hidx (not_not.mp hzero))
  · obtain ⟨representation, hget, hsame⟩ := hchecked.inputs name hname
    simp only [DataPlanStep.checkInput, bind_eq_ok, require_eq_ok, whenSome_eq_ok, rejectIf_eq_ok,
      bne_eq_false_iff_eq]
    exact ⟨representation, hget, fun actual hactual expected hexpected =>
      hsame actual expected hactual hexpected⟩
  · simp only [DataPlanStep.checkOutput, whenSome_eq_ok, rejectIf_eq_ok, Bool.or_eq_false_iff,
      bne_eq_false_iff_eq]
    intro previous hprevious
    obtain ⟨hkind, hrepresentation, hsource⟩ := hchecked.output name previous hname hprevious
    exact ⟨⟨hkind, hrepresentation⟩, hsource⟩

/-- The loop of the validator accepts wired steps. -/
theorem Wired.foldlM_checkStep (h : Wired steps) (plan : DataPlan) :
    ∃ st, steps.zipIdx.foldlM plan.checkStep ⟨∅, ∅⟩ = .ok st ∧
      PlanLoop.Seen steps st := by
  induction h with
  | nil => exact ⟨_, rfl, by constructor <;> simp [lastProducer, producers]⟩
  | @concat steps step _ hfits ih =>
    obtain ⟨st, hloop, hseen⟩ := ih
    refine ⟨_, ?_, hseen.add (hfits.checked hseen)⟩
    have hidx : steps.length = 0 → steps = [] := List.eq_nil_of_length_eq_zero
    rw [List.zipIdx_append, List.foldlM_append]
    refine bind_eq_ok.mpr ⟨st, hloop, ?_⟩
    rw [List.zipIdx_singleton, List.foldlM_cons, Nat.zero_add]
    exact bind_eq_ok.mpr ⟨_, hfits.checkStep hseen hidx, rfl⟩

/-- Wired steps make a valid plan. -/
theorem DataPlan.validate_of_wired (hid : isBlank plan.id = false) (hsteps : plan.steps ≠ [])
    (hwired : Wired plan.steps) (hlast : ∀ step, plan.steps.getLast? = some step →
      step.outputRepresentation = some plan.outputRepresentation) : plan.validate = .ok () := by
  obtain ⟨st, hloop, -⟩ := hwired.foldlM_checkStep plan
  simp only [DataPlan.validate, bind_eq_ok, exists_unit, rejectIf_eq_ok, whenSome_eq_ok,
    List.isEmpty_eq_false_iff, bne_eq_false_iff_eq]
  refine ⟨hid, hsteps, st, hloop, fun output houtput => ?_⟩
  obtain ⟨step, hstep, hrepresentation⟩ := Option.bind_eq_some_iff.mp houtput
  exact Option.some.inj (hrepresentation.symm.trans (hlast step hstep))

/-- Producers of one name are one step, or materialize the same. -/
theorem Wired.eq_or_rematerializes (h : Wired steps) {p q : DataPlanStep}
    (hp : p ∈ producers steps name) (hq : q ∈ producers steps name) :
    p = q ∨ p.Rematerializes q := by
  obtain ⟨_, _, hseen⟩ := h.foldlM_checkStep ⟨"", [], .lit "table" rfl, []⟩
  exact hseen.eq_or_rematerializes hp hq

/-- Only what materializes a source is there twice. -/
theorem Wired.producers_eq_singleton (h : Wired steps) {p : DataPlanStep}
    (hp : p ∈ producers steps name) (hkind : p.kind ≠ .materialize) :
    producers steps name = [p] := by
  induction h with
  | nil => cases hp
  | @concat steps step _ hfits ih =>
    rw [producers_concat] at hp ⊢
    split at hp
    · next hname =>
      rw [if_pos hname]
      rcases List.mem_append.mp hp with hbefore | hlast
      · exact absurd (hfits.repeats name hname p hbefore).first hkind
      · obtain rfl := List.mem_singleton.mp hlast
        have hnone : producers steps name = [] :=
          List.eq_nil_iff_forall_not_mem.mpr fun q hq =>
            hkind (hfits.repeats name hname q hq).second
        rw [hnone, List.nil_append]
    · next hname =>
      rw [List.append_nil] at hp
      rw [if_neg hname, List.append_nil, ih hp]

end Wiring

end DagMlData
