import DagMlData.Alignment

/-!
# The plans that are built

`build_sample_alignment_plan` on sources that pass its checks: when it fails, which samples it
aligns and in which order, and that its own validator accepts what it builds.

* `buildSampleAlignmentPlan_aligns`: all of it, for every list of sources that is not empty.
-/

namespace DagMlData

open Guard RustText

/-! ## First occurrences -/

section FirstSeen
variable {α : Type} [DecidableEq α] {seen xs : List α}

theorem nodup_firstSeen : (firstSeen seen xs).Nodup := by
  induction xs generalizing seen with
  | nil => exact List.nodup_nil
  | cons x xs ih =>
    rw [firstSeen]
    split
    · exact ih
    · refine List.nodup_cons.mpr ⟨fun hmem => ?_, ih⟩
      exact (mem_firstSeen.mp hmem).2 List.mem_cons_self

/-- Elements come in the order of their first places. -/
theorem pairwise_firstSeen : (firstSeen seen xs).Pairwise fun a b => xs.idxOf a < xs.idxOf b := by
  induction xs generalizing seen with
  | nil => exact List.Pairwise.nil
  | cons x xs ih =>
    have hlater : ∀ {seen}, x ∈ seen → (firstSeen seen xs).Pairwise
        fun a b => (x :: xs).idxOf a < (x :: xs).idxOf b := by
      intro seen hx
      refine ih.imp_of_mem fun ha hb hlt => ?_
      have hne : ∀ {c}, c ∈ firstSeen seen xs → x ≠ c := fun hc heq =>
        (mem_firstSeen.mp hc).2 (heq ▸ hx)
      rw [List.idxOf_cons_ne _ (hne ha), List.idxOf_cons_ne _ (hne hb)]
      exact Nat.succ_lt_succ hlt
    rw [firstSeen]
    split
    · next hx => exact hlater (List.contains_iff_mem.mp hx)
    · refine List.pairwise_cons.mpr ⟨fun b hb => ?_, hlater List.mem_cons_self⟩
      have hne : x ≠ b := fun heq => (mem_firstSeen.mp hb).2 (heq ▸ List.mem_cons_self)
      rw [List.idxOf_cons_self, List.idxOf_cons_ne _ hne]
      exact Nat.succ_pos _

/-- New elements without repeats are kept as they are. -/
theorem prefix_firstSeen_append (hnodup : xs.Nodup)
    (hnew : ∀ x ∈ xs, x ∉ seen) (ys : List α) :
    xs <+: firstSeen seen (xs ++ ys) := by
  induction xs generalizing seen with
  | nil => exact List.nil_prefix
  | cons x xs ih =>
    obtain ⟨hx, hrest⟩ := List.nodup_cons.mp hnodup
    have hcontains : ¬ seen.contains x = true := fun h =>
      hnew x List.mem_cons_self (List.contains_iff_mem.mp h)
    rw [List.cons_append, firstSeen, if_neg hcontains]
    refine List.prefix_cons_inj x |>.mpr (ih hrest fun y hy hmem => ?_)
    rcases List.mem_cons.mp hmem with rfl | hmem
    · exact hx hy
    · exact hnew y (List.mem_cons_of_mem x hy) hmem

end FirstSeen

/-! ## The samples of a plan -/

variable {sources : List SourceSampleSet} {mode : AlignmentMode}

/-- The sources that pass the checks: distinct, none of them empty or with a repeated sample. -/
structure SoundSources (sources : List SourceSampleSet) : Prop where
  sourcesNodup : (sources.map (·.sourceId)).Nodup
  observed : ∀ source ∈ sources, source.sampleIds ≠ []
  samplesNodup : ∀ source ∈ sources, source.sampleIds.Nodup

theorem mem_alignedSamples_inner {first : SourceSampleSet} {rest : List SourceSampleSet}
    {s : SampleId} : s ∈ alignedSamples (first :: rest) .inner ↔
      ∀ source ∈ first :: rest, s ∈ source.sampleIds := by
  simp only [alignedSamples, List.head?_cons, Option.map_some, Option.getD_some, List.mem_filter,
    List.all_eq_true, List.contains_iff_mem]
  exact ⟨fun h => h.2, fun h => ⟨h first List.mem_cons_self, h⟩⟩

theorem mem_alignedSamples_outer {s : SampleId} :
    s ∈ alignedSamples sources .outer ↔ ∃ source ∈ sources, s ∈ source.sampleIds := by
  rw [alignedSamples, mem_firstSeen, List.mem_flatMap]
  exact ⟨fun h => h.1, fun h => ⟨h, List.not_mem_nil⟩⟩

theorem SoundSources.nodup_alignedSamples (h : SoundSources sources) :
    (alignedSamples sources mode).Nodup := by
  have hfirst : ((sources.head?.map (·.sampleIds)).getD []).Nodup := by
    cases hhead : sources.head? with
    | none => exact List.nodup_nil
    | some first => exact h.samplesNodup first (List.mem_of_mem_head? hhead)
  cases mode with
  | inner => exact hfirst.filter _
  | left => exact hfirst
  | outer => exact nodup_firstSeen

/-- Only the inner mode can leave nothing to align. -/
theorem SoundSources.alignedSamples_eq_nil (h : SoundSources sources) (hne : sources ≠ []) :
    alignedSamples sources mode = [] ↔
      mode = .inner ∧ ¬ ∃ s, ∀ source ∈ sources, s ∈ source.sampleIds := by
  obtain ⟨first, rest, rfl⟩ := List.exists_cons_of_ne_nil hne
  obtain ⟨s, hs⟩ := List.exists_mem_of_ne_nil _ (h.observed first List.mem_cons_self)
  cases mode with
  | inner =>
    rw [List.eq_nil_iff_forall_not_mem, not_exists]
    simp only [mem_alignedSamples_inner, true_and]
  | left =>
    refine ⟨fun hnil => ?_, nofun⟩
    exact absurd hnil (h.observed first List.mem_cons_self)
  | outer =>
    refine ⟨fun hnil => ?_, nofun⟩
    have hmem : s ∈ alignedSamples (first :: rest) .outer :=
      mem_alignedSamples_outer.mpr ⟨first, List.mem_cons_self, hs⟩
    rw [hnil] at hmem
    cases hmem

/-! ## The validator on a built plan -/

theorem presentAt_builtPlan {source : SourceSampleSet} {samples : List SampleId} {idx : Nat}
    {s : SampleId} (hs : samples[idx]? = some s) :
    (PresenceMask.mk samples source.sourceId
      (samples.map fun sampleId => source.sampleIds.contains sampleId)).presentAt idx =
        source.sampleIds.contains s := by
  rw [PresenceMask.presentAt, List.getD_eq_getElem?_getD, List.getElem?_map, hs]
  rfl

/-- The validator accepts every plan that is built of some samples. -/
theorem SoundSources.valid_builtPlan (h : SoundSources sources) (hne : sources ≠ [])
    (haligned : alignedSamples sources mode ≠ []) : (builtPlan sources mode).Valid where
  aligned := haligned
  samplesNodup := h.nodup_alignedSamples
  masked := by
    rw [builtPlan, Ne, List.map_eq_nil_iff]
    exact hne
  masks := by
    intro mask hmask
    obtain ⟨source, -, rfl⟩ := List.mem_map.mp hmask
    exact ⟨rfl, List.length_map _⟩
  sourcesNodup := by
    rw [builtPlan, List.map_map]
    exact h.sourcesNodup
  present := by
    intro idx hidx
    obtain ⟨first, rest, rfl⟩ := List.exists_cons_of_ne_nil hne
    obtain ⟨s, hget⟩ : ∃ s, (alignedSamples (first :: rest) mode)[idx]? = some s :=
      ⟨_, List.getElem?_eq_getElem hidx⟩
    have hmem := List.mem_of_getElem? hget
    -- A sample is aligned because some source has it, in the mode's own sense.
    have hany : (∃ source ∈ first :: rest, s ∈ source.sampleIds) →
        (builtPlan (first :: rest) mode).masks.any (·.presentAt idx) = true := by
      rintro ⟨source, hsource, hs⟩
      refine List.any_eq_true.mpr ⟨_, List.mem_map_of_mem hsource, ?_⟩
      rw [presentAt_builtPlan hget]
      exact List.contains_iff_mem.mpr hs
    cases mode with
    | inner =>
      rw [mem_alignedSamples_inner] at hmem
      refine ⟨hany ⟨first, List.mem_cons_self, hmem first List.mem_cons_self⟩, ?_⟩
      refine List.all_eq_true.mpr fun mask hmask => ?_
      obtain ⟨source, hsource, rfl⟩ := List.mem_map.mp hmask
      rw [presentAt_builtPlan hget]
      exact List.contains_iff_mem.mpr (hmem source hsource)
    | left =>
      refine ⟨hany ⟨first, List.mem_cons_self, hmem⟩, ?_⟩
      show PresenceMask.presentAt _ idx = true
      rw [presentAt_builtPlan hget]
      exact List.contains_iff_mem.mpr hmem
    | outer =>
      have hpresent := hany (mem_alignedSamples_outer.mp hmem)
      exact ⟨hpresent, hpresent⟩

theorem SoundSources.buildSampleAlignmentPlan_eq_ok (h : SoundSources sources)
    (hne : sources ≠ []) {plan : SampleAlignmentPlan} :
    buildSampleAlignmentPlan sources ⟨mode⟩ = .ok plan ↔
      alignedSamples sources mode ≠ [] ∧ plan = builtPlan sources mode := by
  simp only [buildSampleAlignmentPlan, bind_eq_ok, exists_unit, rejectIf_eq_ok, pure_eq_ok,
    checkSources_eq_ok, List.isEmpty_eq_false_iff]
  constructor
  · rintro ⟨-, -, haligned, -, rfl⟩
    exact ⟨haligned, rfl⟩
  · rintro ⟨haligned, rfl⟩
    refine ⟨hne, ⟨fun source hsource => ⟨h.observed source hsource,
      h.samplesNodup source hsource⟩,
      h.sourcesNodup, fun _ _ => List.not_mem_nil⟩, haligned, ?_, rfl⟩
    exact SampleAlignmentPlan.validate_eq_ok.mpr (h.valid_builtPlan hne haligned)

/-! ## All of it -/

/-- The mask says which of the aligned samples the source has. -/
structure MasksSource (samples : List SampleId) (source : SourceSampleSet) (mask : PresenceMask) :
    Prop where
  sourceId : mask.sourceId = source.sourceId
  sampleIds : mask.sampleIds = samples
  length : mask.present.length = samples.length
  present : ∀ (idx : Nat) (s : SampleId), samples[idx]? = some s →
    (mask.presentAt idx = true ↔ s ∈ source.sampleIds)

/-- The samples of the mode, in its order. -/
def Ordered (sources : List SourceSampleSet) (samples : List SampleId) : AlignmentMode → Prop
  | .inner => ∃ first, sources.head? = some first ∧ samples.Sublist first.sampleIds ∧
      ∀ s, s ∈ samples ↔ ∀ source ∈ sources, s ∈ source.sampleIds
  | .left => ∃ first, sources.head? = some first ∧ samples = first.sampleIds
  | .outer => (∀ s, s ∈ samples ↔ ∃ source ∈ sources, s ∈ source.sampleIds) ∧
      samples.Pairwise fun a b => (sources.flatMap (·.sampleIds)).idxOf a <
        (sources.flatMap (·.sampleIds)).idxOf b

/-- What the builder does on the sources, in every mode. -/
structure Aligns (sources : List SourceSampleSet) : Prop where
  fails : ∀ mode, (∃ e, buildSampleAlignmentPlan sources ⟨mode⟩ = .error e) ↔
    mode = .inner ∧ ¬ ∃ s, ∀ source ∈ sources, s ∈ source.sampleIds
  built : ∀ mode plan, buildSampleAlignmentPlan sources ⟨mode⟩ = .ok plan →
    plan.mode = mode ∧ plan.sampleIds.Nodup ∧ Ordered sources plan.sampleIds mode ∧
      List.Forall₂ (MasksSource plan.sampleIds) sources plan.masks
  /-- The closing validation does not reject. -/
  accepted : ∀ mode, alignedSamples sources mode ≠ [] →
    (builtPlan sources mode).validate = .ok ()
  nested : ∃ left outer, buildSampleAlignmentPlan sources ⟨.left⟩ = .ok left ∧
    buildSampleAlignmentPlan sources ⟨.outer⟩ = .ok outer ∧
      left.sampleIds <+: outer.sampleIds ∧
    ∀ inner, buildSampleAlignmentPlan sources ⟨.inner⟩ = .ok inner →
      inner.sampleIds.Sublist left.sampleIds

theorem SoundSources.ordered (h : SoundSources sources) (hne : sources ≠ []) :
    Ordered sources (alignedSamples sources mode) mode := by
  obtain ⟨first, rest, rfl⟩ := List.exists_cons_of_ne_nil hne
  cases mode with
  | inner => exact ⟨first, rfl, List.filter_sublist, fun s => mem_alignedSamples_inner⟩
  | left => exact ⟨first, rfl, rfl⟩
  | outer => exact ⟨fun s => mem_alignedSamples_outer, pairwise_firstSeen⟩

theorem masksSource_builtPlan :
    List.Forall₂ (MasksSource (builtPlan sources mode).sampleIds) sources
      (builtPlan sources mode).masks := by
  rw [builtPlan, List.forall₂_map_right_iff, List.forall₂_same]
  intro source _
  refine ⟨rfl, rfl, List.length_map _, fun idx s hs => ?_⟩
  rw [presentAt_builtPlan hs, List.contains_iff_mem]

theorem SoundSources.exists_error (h : SoundSources sources) (hne : sources ≠ []) :
    (∃ e, buildSampleAlignmentPlan sources ⟨mode⟩ = .error e) ↔
      alignedSamples sources mode = [] := by
  cases hbuild : buildSampleAlignmentPlan sources ⟨mode⟩ with
  | error e =>
    refine ⟨fun _ => ?_, fun _ => ⟨e, rfl⟩⟩
    by_contra haligned
    have hok := (h.buildSampleAlignmentPlan_eq_ok hne).mpr ⟨haligned, rfl⟩
    cases hbuild.symm.trans hok
  | ok plan =>
    refine ⟨nofun, fun hnil => ?_⟩
    exact absurd hnil ((h.buildSampleAlignmentPlan_eq_ok hne).mp hbuild).1

/-- What the builder does on sound sources, of which there is at least one. -/
theorem buildSampleAlignmentPlan_aligns (h : SoundSources sources) (hne : sources ≠ []) :
    Aligns sources := by
  have hbuilds : ∀ {mode}, alignedSamples sources mode ≠ [] →
      buildSampleAlignmentPlan sources ⟨mode⟩ = .ok (builtPlan sources mode) :=
    fun haligned => (h.buildSampleAlignmentPlan_eq_ok hne).mpr ⟨haligned, rfl⟩
  have hsome : ∀ {mode}, mode ≠ .inner → alignedSamples sources mode ≠ [] :=
    fun hmode hnil => hmode ((h.alignedSamples_eq_nil hne).mp hnil).1
  refine ⟨fun mode => ?_, fun mode plan hplan => ?_, fun mode haligned => ?_, ?_⟩
  · rw [h.exists_error hne, h.alignedSamples_eq_nil hne]
  · obtain ⟨-, rfl⟩ := (h.buildSampleAlignmentPlan_eq_ok hne).mp hplan
    exact ⟨rfl, h.nodup_alignedSamples, h.ordered hne, masksSource_builtPlan⟩
  · exact SampleAlignmentPlan.validate_eq_ok.mpr (h.valid_builtPlan hne haligned)
  · refine ⟨_, _, hbuilds (hsome nofun), hbuilds (hsome nofun), ?_, fun inner hinner => ?_⟩
    · obtain ⟨first, rest, rfl⟩ := List.exists_cons_of_ne_nil hne
      exact prefix_firstSeen_append (h.samplesNodup first List.mem_cons_self)
        (fun _ _ => List.not_mem_nil) _
    · obtain ⟨-, rfl⟩ := (h.buildSampleAlignmentPlan_eq_ok hne).mp hinner
      exact List.filter_sublist

/-- Two sources that share one sample. -/
def sharingSources : List SourceSampleSet :=
  [⟨.lit "nir" rfl, [.lit "s1" rfl, .lit "s2" rfl]⟩,
    ⟨.lit "raman" rfl, [.lit "s3" rfl, .lit "s2" rfl]⟩]

theorem sharingSources_aligns : Aligns sharingSources :=
  buildSampleAlignmentPlan_aligns ⟨by decide, by decide, by decide⟩ (by decide)

/-- Without a source every mode fails, also the outer one. -/
theorem no_sources_fail : ¬ ∀ sources : List SourceSampleSet, SoundSources sources →
    ∀ mode, (∃ e, buildSampleAlignmentPlan sources ⟨mode⟩ = .error e) →
      mode = .inner ∧ ¬ ∃ s, ∀ source ∈ sources, s ∈ source.sampleIds := by
  intro hfails
  have hsound : SoundSources [] := ⟨List.nodup_nil, nofun, nofun⟩
  exact absurd (hfails [] hsound .outer ⟨_, rfl⟩).1 nofun

end DagMlData
