import DagMlData.HandleRuns

/-!
# The external test stays apart from training

A run of the arena with one envelope is watched by `Provenance`, which keeps for every handle the
request that it was materialized from, or that its parent was. `cohort_separated`: a handle of a
training request has no sample of the external test, and a handle of the other requests has only
records of the cohort.
-/

namespace DagMlData

open Guard RustText CoordinatorHandleArena

/-! ## What an envelope with an external test guarantees -/

/-- The record names no physical or origin sample of the cohort. -/
structure CoordinatorRelation.ApartFrom (r : CoordinatorRelation) (cohort : PredictCohort) :
    Prop where
  sample : r.sampleId ∉ cohort.physicalSampleIds ∧ r.sampleId ∉ cohort.originSampleIds
  origin : ∀ s, r.originSampleId = some s →
    s ∉ cohort.physicalSampleIds ∧ s ∉ cohort.originSampleIds

/-- A request for training data: without the cohort, and not in a prediction phase. -/
def CoordinatorDataMaterializationRequest.IsTraining
    (request : CoordinatorDataMaterializationRequest) : Prop :=
  request.predictCohort = none ∧ request.isPrediction = false

variable [ThirdParty]

theorem apartFrom_of_validateDisjoint {cohort : PredictCohort} {training : CoordinatorRelationSet}
    (h : cohort.validateDisjoint training = .ok ()) (hrole : cohort.role = .externalTest) :
    ∀ r ∈ training.records, r.ApartFrom cohort := by
  have hrole' : (cohort.role == .inference) = false := by rw [hrole]; rfl
  simp only [PredictCohort.validateDisjoint, bind_eq_ok, exists_unit, hrole', Bool.false_eq_true,
    if_false, rejectIf_eq_ok, List.any_eq_false, List.mem_append, PredictCohort.trainingSamples,
    BTreeSet.contains_collect, decide_eq_true_eq, List.mem_flatMap, List.mem_cons,
    Option.mem_toList, not_exists, not_and] at h
  intro r hr
  have hno : ∀ s, s ∈ cohort.physicalSampleIds ∨ s ∈ cohort.originSampleIds →
      ¬ (s = r.sampleId ∨ r.originSampleId = some s) := fun s hs => h.2.2 s hs r hr
  exact ⟨⟨fun hp => hno _ (Or.inl hp) (Or.inl rfl), fun ho => hno _ (Or.inr ho) (Or.inl rfl)⟩,
    fun s hs => ⟨fun hp => hno _ (Or.inl hp) (Or.inr hs),
      fun ho => hno _ (Or.inr ho) (Or.inr hs)⟩⟩

/-- The cohort of a valid envelope is valid, and apart from the training relations when it is an
external test. -/
theorem validateCohort_of_validate {envelope : CoordinatorDataPlanEnvelope} {cohort : PredictCohort}
    (henv : envelope.validate = .ok ()) (hcohort : envelope.predictCohort = some cohort) :
    cohort.validate = .ok () ∧ (cohort.role = .externalTest → ∃ training,
      envelope.coordinatorRelations = some training ∧
        cohort.validateDisjoint training = .ok ()) := by
  simp only [CoordinatorDataPlanEnvelope.validate, bind_eq_ok, exists_unit] at henv
  have hc := henv.2.1
  unfold CoordinatorDataPlanEnvelope.validateCohort at hc
  rw [hcohort] at hc
  split at hc
  · cases hc
  · next h => cases h
  · next heq _ =>
    cases heq
    simp only [bind_eq_ok, exists_unit] at hc
    refine ⟨hc.1, fun hrole => ?_⟩
    have hrole' : (cohort.role == .externalTest) = true := by rw [hrole]; rfl
    simp only [hrole', if_true, bind_eq_ok, require_eq_ok] at hc
    exact hc.2
  · next heq _ => cases heq

/-- A valid envelope with an external test has training relations, apart from the test. -/
theorem trainingRelations_apart {envelope : CoordinatorDataPlanEnvelope} {cohort : PredictCohort}
    (henv : envelope.validate = .ok ()) (hcohort : envelope.predictCohort = some cohort)
    (hrole : cohort.role = .externalTest) :
    ∃ training, envelope.coordinatorRelations = some training ∧
      ∀ r ∈ training.records, r.ApartFrom cohort := by
  obtain ⟨cv, hcv, hdisjoint⟩ := (validateCohort_of_validate henv hcohort).2 hrole
  exact ⟨cv, hcv, apartFrom_of_validateDisjoint hdisjoint hrole⟩

/-! ## What a request reads -/

omit [ThirdParty] in
theorem mem_of_scopedRelations {request : CoordinatorDataMaterializationRequest}
    {relations selected : CoordinatorRelationSet}
    (h : scopedRelationsForMaterialization request relations = .ok selected) :
    ∀ r ∈ selected.records, r ∈ relations.records := by
  unfold scopedRelationsForMaterialization at h
  simp only [bind_eq_ok, exists_unit] at h
  obtain ⟨-, h⟩ := h
  split at h
  · cases pure_eq_ok.mp h
    exact fun r hr => hr
  · simp only [bind_eq_ok, exists_unit, pure_eq_ok] at h
    obtain ⟨-, -, rfl⟩ := h
    exact fun r hr => List.mem_of_mem_filter hr

/-- The scope of an accepted request comes from the relations that the request may read. -/
theorem materializationScope_eq_ok {envelope : CoordinatorDataPlanEnvelope}
    {request : CoordinatorDataMaterializationRequest} {scope : Option CoordinatorRelationSet}
    (h : materializationScope envelope request = .ok scope) :
    ∃ relations, materializationRelations envelope request = .ok relations ∧
      (relations = none → scope = none) ∧
      ∀ readable, relations = some readable →
        ∃ rs, scope = some rs ∧ ∀ r ∈ rs.records, r ∈ readable.records := by
  simp only [materializationScope, bind_eq_ok, exists_unit] at h
  obtain ⟨-, -, -, relations, hrel, h⟩ := h
  refine ⟨relations, hrel, ?_, ?_⟩
  · rintro rfl
    exact (pure_eq_ok.mp h).symm
  · rintro readable rfl
    obtain ⟨rs, hrs, rfl⟩ := map_eq_ok.mp h
    exact ⟨rs, rfl, mem_of_scopedRelations hrs⟩

theorem materializationRelations_training {envelope : CoordinatorDataPlanEnvelope}
    {request : CoordinatorDataMaterializationRequest} (h : request.IsTraining) :
    materializationRelations envelope request = .ok envelope.coordinatorRelations := by
  simp [materializationRelations, h.1, h.2, pure, Except.pure]

theorem materializationRelations_cohort {envelope : CoordinatorDataPlanEnvelope}
    {cohort : PredictCohort} (hcohort : envelope.predictCohort = some cohort)
    {request : CoordinatorDataMaterializationRequest} (h : ¬ request.IsTraining)
    {relations : Option CoordinatorRelationSet}
    (hrel : materializationRelations envelope request = .ok relations) :
    relations = some cohort.relations := by
  unfold materializationRelations at hrel
  cases hreq : request.predictCohort with
  | some asked =>
    simp only [hreq, hcohort, bind_eq_ok, exists_unit, require_eq_ok, pure_eq_ok,
      Option.filter_eq_some_iff, Option.some.injEq] at hrel
    obtain ⟨-, authority, ⟨rfl, -⟩, -, rfl⟩ := hrel
    rfl
  | none =>
    have hpred : request.isPrediction = true := by
      by_contra hno
      exact h ⟨hreq, by simpa using hno⟩
    simp only [hreq, hpred, hcohort, pure_eq_ok] at hrel
    exact hrel.symm

/-- The records of the relations are those that the request may see of the cohort: none of its
samples in training, and nothing else outside of it. -/
structure CoordinatorDataMaterializationRequest.Allows
    (request : CoordinatorDataMaterializationRequest) (cohort : PredictCohort)
    (relations : CoordinatorRelationSet) : Prop where
  training : request.IsTraining → ∀ r ∈ relations.records, r.ApartFrom cohort
  cohort : ¬ request.IsTraining → ∀ r ∈ relations.records, r ∈ cohort.relations.records

/-- The records of the relations are among those that the request reads: the training relations of
the envelope, or else those of the cohort. -/
def CoordinatorDataMaterializationRequest.Reads
    (request : CoordinatorDataMaterializationRequest) (training : CoordinatorRelationSet)
    (cohort : PredictCohort) (relations : CoordinatorRelationSet) : Prop :=
  ∀ r ∈ relations.records, (request.IsTraining → r ∈ training.records) ∧
    (¬ request.IsTraining → r ∈ cohort.relations.records)

/-- Every accepted request stores relations, and only those that it reads. -/
theorem materializationScope_reads {envelope : CoordinatorDataPlanEnvelope}
    {training : CoordinatorRelationSet} {cohort : PredictCohort}
    (htraining : envelope.coordinatorRelations = some training)
    (hcohort : envelope.predictCohort = some cohort)
    {request : CoordinatorDataMaterializationRequest} {scope : Option CoordinatorRelationSet}
    (h : materializationScope envelope request = .ok scope) :
    ∃ rs, scope = some rs ∧ request.Reads training cohort rs := by
  obtain ⟨relations, hrel, -, hscope⟩ := materializationScope_eq_ok h
  by_cases ht : request.IsTraining
  · rw [materializationRelations_training ht, htraining] at hrel
    cases hrel
    obtain ⟨rs, rfl, hsub⟩ := hscope training rfl
    exact ⟨rs, rfl, fun r hr => ⟨fun _ => hsub r hr, fun hn => absurd ht hn⟩⟩
  · have hrel' := materializationRelations_cohort hcohort ht hrel
    obtain ⟨rs, rfl, hsub⟩ := hscope _ hrel'
    exact ⟨rs, rfl, fun r hr => ⟨fun hy => absurd hy ht, fun _ => hsub r hr⟩⟩

omit [ThirdParty] in
/-- What a request reads is what it may see, when the training relations are apart. -/
theorem CoordinatorDataMaterializationRequest.Reads.allows
    {request : CoordinatorDataMaterializationRequest} {training : CoordinatorRelationSet}
    {cohort : PredictCohort} {relations : CoordinatorRelationSet}
    (h : request.Reads training cohort relations)
    (hapart : ∀ r ∈ training.records, r.ApartFrom cohort) : request.Allows cohort relations :=
  ⟨fun ht r hr => hapart r ((h r hr).1 ht), fun ht r hr => (h r hr).2 ht⟩

/-- The phases in which a request may carry the cohort. -/
def CoordinatorDataMaterializationRequest.MayCarry
    (request : CoordinatorDataMaterializationRequest) (cohort : PredictCohort) : Prop :=
  request.isPrediction = true ∨ (cohort.role = .externalTest ∧ request.isCompanion = true)

/-- A request with a cohort that is not that of the envelope, or in a phase in which it may not
carry it, is refused. -/
theorem materializationScope_refuses {envelope : CoordinatorDataPlanEnvelope}
    {request : CoordinatorDataMaterializationRequest} {cohort : PredictCohort}
    (hreq : request.predictCohort = some cohort)
    (hbad : envelope.predictCohort.any (· == cohort) = false ∨ ¬ request.MayCarry cohort) :
    ∃ e, materializationScope envelope request = .error e := by
  cases h : materializationScope envelope request with
  | error e => exact ⟨e, rfl⟩
  | ok scope =>
    exfalso
    obtain ⟨relations, hrel, -, -⟩ := materializationScope_eq_ok h
    simp only [materializationRelations, hreq, bind_eq_ok, exists_unit, require_eq_ok,
      Option.filter_eq_some_iff, rejectIf_eq_ok, Bool.not_eq_false', Bool.or_eq_true,
      Bool.and_eq_true, beq_iff_eq] at hrel
    obtain ⟨-, authority, ⟨hauth, heq⟩, hphase, -⟩ := hrel
    rcases hbad with hdiff | hphase'
    · simp [hauth, heq] at hdiff
    · exact hphase' (hphase.imp id And.symm)

/-! ## Runs -/

/-- For every handle, the request that it comes from: its own, or that of its parent. -/
structure Provenance where
  data : BTreeMap Nat CoordinatorDataMaterializationRequest
  views : BTreeMap Nat CoordinatorDataMaterializationRequest

omit [ThirdParty] in
/-- What the observer learns from a call and its reply. -/
def Provenance.see (p : Provenance) : ArenaCall → ArenaReply → Provenance
  | .materialize _ request, .materialized (.ok record) =>
    { p with data := p.data.insert record.handle.handle request }
  | .makeView dataHandle _, .viewed (.ok record) =>
    match p.data[dataHandle]? with
    | some request => { p with views := p.views.insert record.handle.handle request }
    | none => p
  | _, _ => p

/-- The arena and its provenance after the calls. -/
def watchedRun (arena : CoordinatorHandleArena) (calls : List ArenaCall) :
    CoordinatorHandleArena × Provenance :=
  Machine.run (Machine.watch step Provenance.see) (arena, ⟨∅, ∅⟩) calls

theorem watchedRun_fst (arena : CoordinatorHandleArena) (calls : List ArenaCall) :
    (watchedRun arena calls).1 = arena.run calls :=
  Machine.run_watch_fst ..

/-- The call materializes from no other envelope. -/
def ArenaCall.Uses (envelope : CoordinatorDataPlanEnvelope) (call : ArenaCall) : Prop :=
  ∀ other request, call = .materialize other request → other = envelope

/-- Every handle has a request, and stores what the request may see of the cohort. -/
structure Provenance.Explains (p : Provenance) (cohort : PredictCohort)
    (arena : CoordinatorHandleArena) : Prop where
  data : ∀ (h : Nat) (relations : CoordinatorRelationSet),
    arena.dataRelations[h]? = some relations →
    ∃ request, p.data[h]? = some request ∧ request.Allows cohort relations
  views : ∀ (v : Nat) (relations : CoordinatorRelationSet),
    arena.viewRelations[v]? = some relations →
    ∃ request, p.views[v]? = some request ∧ request.Allows cohort relations

/-- Every handle has a request, and its relations are such as the request stores. -/
structure Provenance.Tracks (p : Provenance)
    (Stores : CoordinatorDataMaterializationRequest → CoordinatorRelationSet → Prop)
    (arena : CoordinatorHandleArena) : Prop where
  data : ∀ (h : Nat) (relations : CoordinatorRelationSet),
    arena.dataRelations[h]? = some relations →
    ∃ request, p.data[h]? = some request ∧ Stores request relations
  views : ∀ (v : Nat) (relations : CoordinatorRelationSet),
    arena.viewRelations[v]? = some relations →
    ∃ request, p.views[v]? = some request ∧ Stores request relations

section Tracking

variable {Stores : CoordinatorDataMaterializationRequest → CoordinatorRelationSet → Prop}

omit [ThirdParty] in
theorem Provenance.Tracks.mono {p : Provenance}
    {arena after : CoordinatorHandleArena} (h : p.Tracks Stores arena)
    (hdata : ∀ (k : Nat) (relations : CoordinatorRelationSet),
      after.dataRelations[k]? = some relations → arena.dataRelations[k]? = some relations)
    (hviews : ∀ (v : Nat) (relations : CoordinatorRelationSet),
      after.viewRelations[v]? = some relations → arena.viewRelations[v]? = some relations) :
    p.Tracks Stores after :=
  ⟨fun k relations hk => h.data k relations (hdata k relations hk),
    fun v relations hv => h.views v relations (hviews v relations hv)⟩

omit [ThirdParty] in
/-- An entry that is left after erasing was there before. -/
theorem getElem?_of_erase {α : Type} {m : BTreeMap Nat α} {n k : Nat} {a : α}
    (h : (m.erase n)[k]? = some a) : m[k]? = some a := by
  have hne : n ≠ k := by
    rintro rfl
    simp at h
  rwa [BTreeMap.getElem?_erase_of_ne hne] at h

omit [ThirdParty] in
theorem getElem?_of_eraseAll {α : Type} {m : BTreeMap Nat α} {keys : List Nat} {k : Nat} {a : α}
    (h : (m.eraseAll keys)[k]? = some a) : m[k]? = some a := by
  rw [BTreeMap.getElem?_eraseAll] at h
  split at h
  · cases h
  · exact h

/-- Every step keeps the provenance: a new handle stores what its request does, and a view has fewer
records than its parent. -/
theorem Provenance.Tracks.step {envelope : CoordinatorDataPlanEnvelope}
    (hstores : ∀ request scope, materializationScope envelope request = .ok scope →
      ∃ rs, scope = some rs ∧ Stores request rs)
    (hmono : ∀ request relations fewer, Stores request relations →
      (∀ r ∈ CoordinatorRelationSet.records fewer,
        r ∈ CoordinatorRelationSet.records relations) →
      Stores request fewer)
    {p : Provenance} {arena : CoordinatorHandleArena} (h : p.Tracks Stores arena) {call : ArenaCall}
    (hcall : call.Uses envelope) :
    (p.see call (arena.step call).1).Tracks Stores (arena.step call).2 := by
  have hs := step_spec arena call
  generalize (arena.step call).1 = reply at hs
  generalize (arena.step call).2 = after at hs
  cases hs with
  | notMaterialized _ => exact h
  | @materialized other request scope record hscope hrecord =>
    cases hcall other request rfl
    obtain ⟨relations, rfl, hallow⟩ := hstores request scope hscope
    refine ⟨fun k rs hk => ?_, h.views⟩
    simp only [insertData, getElem?_insert_eq] at hk
    simp only [Provenance.see, getElem?_insert_eq]
    split at hk
    · next heq =>
      cases hk
      exact ⟨request, if_pos heq, hallow⟩
    · next hne =>
      rw [if_neg hne]
      exact h.data k rs hk
  | notViewed => exact h
  | @viewed dataHandle view parent relations selected record hv hp hr hs hrecord =>
    obtain ⟨request, hreq, hallow⟩ := h.data dataHandle relations hr
    obtain ⟨-, -, rfl⟩ := (viewSelection_eq_ok hv).mp hs
    refine ⟨?_, fun v rs hk => ?_⟩
    · simp only [Provenance.see, hreq]
      exact h.data
    · rw [getElem?_viewRelations_insertView] at hk
      simp only [Provenance.see, hreq, getElem?_insert_eq]
      split at hk
      · next heq =>
        cases hk
        exact ⟨request, if_pos heq,
          hmono request relations _ hallow fun r hr => (mem_of_mem_selectedRecords hr).1⟩
      · next hne =>
        rw [if_neg hne]
        exact h.views v rs hk
  | releasedView _ => exact h.mono (fun _ _ hk => hk) fun _ _ hk => getElem?_of_erase hk
  | releasedData _ _ =>
    rw [foldl_eraseView]
    exact h.mono (fun _ _ hk => getElem?_of_erase hk) fun _ _ hk => getElem?_of_eraseAll hk
  | releasedNothing _ _ => exact h

end Tracking

/-- In every run with one envelope that has a cohort, every handle stores only what the request that
it comes from reads. -/
theorem watchedRun_tracks {envelope : CoordinatorDataPlanEnvelope}
    {training : CoordinatorRelationSet} {cohort : PredictCohort}
    (htraining : envelope.coordinatorRelations = some training)
    (hcohort : envelope.predictCohort = some cohort) {owner : String}
    {arena : CoordinatorHandleArena} (hnew : CoordinatorHandleArena.new owner = .ok arena)
    {calls : List ArenaCall} (hcalls : ∀ call ∈ calls, call.Uses envelope) :
    (watchedRun arena calls).2.Tracks (fun request => request.Reads training cohort)
      (arena.run calls) := by
  rw [← watchedRun_fst]
  refine Machine.run_preserves (fun s : CoordinatorHandleArena × Provenance =>
    s.2.Tracks (fun request => request.Reads training cohort) s.1) ?_ ?_
  · simp only [CoordinatorHandleArena.new, bind_eq_ok, pure_eq_ok] at hnew
    obtain ⟨-, -, rfl⟩ := hnew
    constructor <;> simp
  · intro s call hmem h
    have hstores : ∀ request scope, materializationScope envelope request = .ok scope → _ :=
      fun request scope => materializationScope_reads htraining hcohort
    refine h.step hstores ?_ (hcalls call hmem)
    · exact fun request relations fewer hreads hsub r hr => hreads r (hsub r hr)

/-- In every run with one envelope that has an external test: every handle stores what the
request that it comes from may see of the cohort, which for training is nothing and else nothing
but the cohort; and a request with another cohort, or with one in a phase that may not carry it,
is refused and changes nothing. -/
theorem cohort_separated {envelope : CoordinatorDataPlanEnvelope} {cohort : PredictCohort}
    (henv : envelope.validate = .ok ()) (hcohort : envelope.predictCohort = some cohort)
    (hrole : cohort.role = .externalTest) {owner : String} {arena : CoordinatorHandleArena}
    (hnew : CoordinatorHandleArena.new owner = .ok arena) {calls : List ArenaCall}
    (hcalls : ∀ call ∈ calls, call.Uses envelope) :
    (watchedRun arena calls).2.Explains cohort (arena.run calls) ∧
      ∀ request carried, request.predictCohort = some carried →
        envelope.predictCohort.any (· == carried) = false ∨ ¬ request.MayCarry carried →
        ∃ e, (arena.run calls).step (.materialize envelope request) =
          (.materialized (.error e), arena.run calls) := by
  constructor
  · obtain ⟨training, htraining, hapart⟩ := trainingRelations_apart henv hcohort hrole
    have htracks := watchedRun_tracks htraining hcohort hnew hcalls
    refine ⟨fun k relations hk => ?_, fun v relations hv => ?_⟩
    · obtain ⟨request, hrequest, hreads⟩ := htracks.data k relations hk
      exact ⟨request, hrequest, hreads.allows hapart⟩
    · obtain ⟨request, hrequest, hreads⟩ := htracks.views v relations hv
      exact ⟨request, hrequest, hreads.allows hapart⟩
  · intro request carried hreq hbad
    obtain ⟨e, he⟩ := materializationScope_refuses hreq hbad
    refine ⟨e, ?_⟩
    simp only [CoordinatorHandleArena.step, materialize, exec_ofResult_bind, he]

omit [ThirdParty] in
theorem testEnvelope_separated :
    letI := testDigests
    storedObservations (emptyArena.run shortRun).viewRelations = [(4, ["o1"]), (6, ["o9"])] ∧
      (watchedRun emptyArena shortRun).2.Explains testCohort (emptyArena.run shortRun) := by
  refine ⟨shortRun_stores.2, (@cohort_separated testDigests testEnvelope testCohort
    testEnvelope_valid rfl rfl "controller" emptyArena rfl shortRun ?_).1⟩
  simp [shortRun, ArenaCall.Uses]

end DagMlData
