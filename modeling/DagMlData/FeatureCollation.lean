import DagMlData.ArrowTables
import DagMlData.Collation
import DagMlData.ProviderFusion

/-!
# Collation of feature blocks

`collate_feature_block`: a block of named features becomes a tensor. `feature_collation_block`
finds the block of a request, a feature set of the view or a fusion of several.

* `featureCollation_window`: the features of a block have names, so its rows are never padded. A
  policy can only cut all of them, with their names, to one window of columns.
* `provider_collation`: without a policy the tensor has the values of the typed projection where
  there is one, and it has a validity mask where there is none.
-/

namespace DagMlData

open Guard RustText

/-! ## The functions -/

/-- `validate_feature_block_shape`. -/
def validateFeatureBlockShape (block : CoordinatorFeatureBlock) : Result Unit := do
  rejectIf (isBlank block.featureSetId) (.validation "feature block feature_set_id is empty")
  rejectIf block.featureNames.isEmpty
    (.validation s!"feature block `{block.featureSetId}` contains no features")
  rejectIf (block.observationIds.length != block.sampleIds.length ||
      block.sampleIds.length != block.values.length)
    (.validation s!"feature block `{block.featureSetId}` row identity/value lengths differ")
  forM (block.observationIds.zip block.values) fun (observationId, row) =>
    rejectIf (row.length != block.featureNames.length)
      (.validation (s!"feature block `{block.featureSetId}` row `{observationId}` has " ++
        s!"{row.length} values for {block.featureNames.length} features"))

/-- One value of a block, with the observation and the feature for the error. -/
def numericBlockValue (block : CoordinatorFeatureBlock) (observationId : ObservationId)
    (featureName : String) : Json → Result (Option F64)
  | .null => .ok none
  | .number number => .ok (some number.asF64)
  | _ => .error (.validation (s!"feature block `{block.featureSetId}` row `{observationId}` " ++
      s!"feature `{featureName}` must be numeric or null for collation"))

/-- `numeric_input_from_feature_block`. The checked shape keeps the places in range. -/
def numericInputFromFeatureBlock (block : CoordinatorFeatureBlock) :
    Result NumericCollationInputBlock := do
  validateFeatureBlockShape block
  let rows ← (block.observationIds.zip block.values).mapM fun row =>
    (block.featureNames.zip row.2).mapM fun value =>
      numericBlockValue block row.1 value.1 value.2
  pure {
    blockId := block.featureSetId
    representationId := block.representationId
    observationIds := block.observationIds
    sampleIds := block.sampleIds
    rows := rows
    featureNames := some block.featureNames }

/-- `collate_feature_block`. -/
def collateFeatureBlock [CollationAllocator] (block : CoordinatorFeatureBlock)
    (policy : CollationPolicy) : Result NumericTensorBlock := do
  let input ← numericInputFromFeatureBlock block
  collateNumericBlock input policy

structure ProviderFeatureCollationRequest where
  featureSetId : Option String
  fusion : Option ProviderFeatureFusionSelector
  policy : CollationPolicy := {}

/-- `feature_collation_block`. A fusion takes the lock once for every source. -/
def ProviderArenas.featureCollationBlock [ThirdParty] (arenasAt : Nat → ProviderArenas)
    (viewHandle : Nat) (selector : ProviderFeatureCollationRequest) :
    Result CoordinatorFeatureBlock :=
  match selector.featureSetId, selector.fusion with
  | some featureSetId, none => do
    rejectIf (isBlank featureSetId)
      (.validation "feature collation selector feature_set_id is empty")
    (arenasAt 0).featureBlock viewHandle featureSetId
  | none, some fusion => featureFusionBlock arenasAt viewHandle fusion
  | some _, some _ => .error (.validation
      "feature collation selector must not specify both feature_set_id and fusion")
  | none, none => .error (.validation
      "feature collation selector requires feature_set_id or fusion")

/-! ## The input of a block -/

/-- What `validate_feature_block_shape` accepts. -/
structure CoordinatorFeatureBlock.Shaped (block : CoordinatorFeatureBlock) : Prop where
  featureSetId : isBlank block.featureSetId = false
  named : block.featureNames ≠ []
  sampleIds : block.observationIds.length = block.sampleIds.length
  rect : block.Rectangular

/-- A loop over items with labels that only the errors name. -/
theorem mapM_zip_eq_ok {ε α β γ : Type} {f : α × β → Except ε γ}
    {g : β → γ} {p : β → Prop}
    {xs : List α} {ys : List β} {zs : List γ} (hlength : ys.length ≤ xs.length)
    (h : ∀ x, ∀ y ∈ ys, ∀ z, f (x, y) = .ok z ↔ p y ∧ g y = z) :
    (xs.zip ys).mapM f = .ok zs ↔ (∀ y ∈ ys, p y) ∧ ys.map g = zs := by
  have hsnd : (xs.zip ys).map Prod.snd = ys := List.map_snd_zip hlength
  have hitems : (∀ entry ∈ xs.zip ys, p entry.2) ↔ ∀ y ∈ ys, p y := by
    rw [← List.forall_mem_map (f := Prod.snd) (P := p), hsnd]
  have hresults : (xs.zip ys).map (fun entry => g entry.2) = ys.map g := by
    conv_rhs => rw [← hsnd, List.map_map]
    rfl
  rw [mapM_eq_ok_map fun entry hentry z => h entry.1 entry.2 (List.of_mem_zip hentry).2 z, hitems,
    hresults]

variable {block : CoordinatorFeatureBlock}

theorem validateFeatureBlockShape_eq_ok :
    validateFeatureBlockShape block = .ok () ↔ block.Shaped := by
  simp only [validateFeatureBlockShape, bind_eq_ok, rejectIf_eq_ok, forM_eq_ok, exists_unit,
    Bool.or_eq_false_iff, bne_eq_false_iff_eq, List.isEmpty_eq_false_iff]
  constructor
  · rintro ⟨hid, hnamed, ⟨hsamples, hvalues⟩, hrows⟩
    refine ⟨hid, hnamed, hsamples, (hsamples.trans hvalues).symm, fun row hrow => ?_⟩
    obtain ⟨i, hi⟩ := List.getElem?_of_mem hrow
    have hlt : i < block.observationIds.length :=
      (hsamples.trans hvalues) ▸ (List.getElem?_eq_some_iff.mp hi).1
    have hentry : (block.observationIds.zip block.values)[i]? =
        some (block.observationIds[i], row) :=
      List.getElem?_zip_eq_some.mpr ⟨List.getElem?_eq_getElem hlt, hi⟩
    exact hrows _ (List.mem_of_getElem? hentry)
  · rintro ⟨hid, hnamed, hsamples, hrect⟩
    exact ⟨hid, hnamed, ⟨hsamples, hsamples.symm.trans hrect.rows.symm⟩,
      fun entry hentry => hrect.values _ (List.of_mem_zip hentry).2⟩

/-- The input of a block of numbers. -/
def CoordinatorFeatureBlock.asInput (block : CoordinatorFeatureBlock) :
    NumericCollationInputBlock where
  blockId := block.featureSetId
  representationId := block.representationId
  observationIds := block.observationIds
  sampleIds := block.sampleIds
  rows := block.values.map (List.map cellValue)
  featureNames := some block.featureNames

theorem numericBlockValue_eq_ok {observationId : ObservationId} {featureName : String}
    {value : Json} {cell : Option F64} :
    numericBlockValue block observationId featureName value = .ok cell ↔
      value.IsNumeric ∧ cellValue value = cell := by
  cases value <;> simp [numericBlockValue, Json.IsNumeric, cellValue]

theorem numericInputFromFeatureBlock_eq_ok {input : NumericCollationInputBlock} :
    numericInputFromFeatureBlock block = .ok input ↔
      block.Shaped ∧ (∀ row ∈ block.values, ∀ value ∈ row, value.IsNumeric) ∧
        block.asInput = input := by
  simp only [numericInputFromFeatureBlock, bind_eq_ok, exists_unit,
    validateFeatureBlockShape_eq_ok, pure_eq_ok]
  refine and_congr_right fun hshaped => ?_
  have hrows : ∀ rows, ((block.observationIds.zip block.values).mapM fun row =>
      (block.featureNames.zip row.2).mapM fun value =>
        numericBlockValue block row.1 value.1 value.2) = .ok rows ↔
      (∀ row ∈ block.values, ∀ value ∈ row, value.IsNumeric) ∧
        block.values.map (List.map cellValue) = rows := fun rows =>
    mapM_zip_eq_ok hshaped.rect.rows.le fun observationId row hrow cells =>
      mapM_zip_eq_ok (hshaped.rect.values row hrow).le fun featureName value _ cell =>
        numericBlockValue_eq_ok
  simp only [hrows]
  constructor
  · rintro ⟨_, ⟨hnumeric, rfl⟩, rfl⟩
    exact ⟨hnumeric, rfl⟩
  · rintro ⟨hnumeric, rfl⟩
    exact ⟨_, ⟨hnumeric, rfl⟩, rfl⟩

/-! ## Windows of columns -/

/-- Consecutive columns. -/
def columnWindow {α : Type} (start len : Nat) (items : List α) : List α :=
    (items.drop start).take len

theorem length_columnWindow {α : Type} {start len : Nat} {items : List α}
    (h : start + len ≤ items.length) : (columnWindow start len items).length = len := by
  rw [columnWindow, List.length_take, List.length_drop]
  omega

/-- The tensor of a window of the columns of a block. -/
structure CollatesWindow (block : CoordinatorFeatureBlock) (policy : CollationPolicy)
    (tensor : NumericTensorBlock) (start len : Nat) : Prop where
  inside : start + len ≤ block.featureNames.length
  length : policy.maxLength = some len ∨
    policy.maxLength = none ∧ start = 0 ∧ len = block.featureNames.length
  featureNames : tensor.featureNames = some (columnWindow start len block.featureNames)
  observationIds : tensor.observationIds = block.observationIds
  sampleIds : tensor.sampleIds = block.sampleIds
  shape : tensor.shape = [block.values.length, len]
  values : tensor.values = block.values.flatMap fun row =>
    (columnWindow start len row).map fun value => (cellValue value).getD policy.padValue
  presence : tensor.presenceMask =
    if policy.emitMask then some (List.replicate (block.values.length * len) true) else none
  validity : tensor.validityMask =
    let valid := block.values.flatMap fun row =>
      (columnWindow start len row).map fun value => !value.isNull
    if valid.all id then none else some valid

/-- A collated block is of numbers, and its tensor is the one of its numbers. -/
theorem collates_of_collateFeatureBlock [CollationAllocator] {policy : CollationPolicy}
    {tensor : NumericTensorBlock} (h : collateFeatureBlock block policy = .ok tensor) :
    block.Shaped ∧ (∀ row ∈ block.values, ∀ value ∈ row, value.IsNumeric) ∧
      ∃ len placed, Collates block.asInput policy tensor len placed := by
  obtain ⟨input, hinput, hcollate⟩ := bind_eq_ok.mp h
  obtain ⟨hshaped, hnumeric, rfl⟩ := numericInputFromFeatureBlock_eq_ok.mp hinput
  obtain ⟨len, _, placed, hrun⟩ := exists_collationRun hcollate
  exact ⟨hshaped, hnumeric, len, placed, hrun.collates⟩

/-- The rows of a block have names, so a policy that is accepted cuts all of them to one window of
columns, and pads none. -/
theorem Collates.exists_window {policy : CollationPolicy} {tensor : NumericTensorBlock} {len : Nat}
    {placed : List Positions} (hshaped : block.Shaped)
    (hnumeric : ∀ row ∈ block.values, ∀ value ∈ row, value.IsNumeric)
    (hcollates : Collates block.asInput policy tensor len placed) :
    ∃ start, CollatesWindow block policy tensor start len := by
  obtain ⟨start, hinside, hnames, hrows⟩ := hcollates.named block.featureNames rfl
  have hplaced : placed = block.values.map fun row =>
      (columnWindow start len row).map fun value => some (cellValue value) := by
    have hwindows : List.Forall₂ (fun row positions => positions =
        ((row.drop start).take len).map some) (block.values.map (List.map cellValue)) placed :=
      hrows.imp fun row positions hrow => hrow.2
    rw [List.forall₂_map_left_iff] at hwindows
    clear hrows hcollates hshaped hnumeric
    -- By induction on the rows. The other facts are about all of them.
    generalize block.values = values at hwindows ⊢
    induction hwindows with
    | nil => rfl
    | cons hrow _ ih =>
      rw [List.map_cons, ← ih, hrow, ← List.map_drop, ← List.map_take, List.map_map]
      rfl
  have hlength : ∀ row ∈ block.values, (columnWindow start len row).length = len :=
    fun row hrow => length_columnWindow (by rw [hshaped.rect.values row hrow]; exact hinside)
  -- The values and the masks are all read off the placed cells.
  have hflatten : ∀ {β : Type} (f : Option (Option F64) → β), placed.flatten.map f =
      block.values.flatMap fun row => (columnWindow start len row).map fun value =>
        f (some (cellValue value)) := by
    intro β f
    rw [hplaced, ← List.flatMap_def, List.map_flatMap]
    simp only [List.map_map, Function.comp_def]
  have hvalid : (placed.flatten.map hasValue) = block.values.flatMap fun row =>
      (columnWindow start len row).map fun value => !value.isNull := by
    rw [hflatten]
    refine List.flatMap_congr fun row hrow => List.map_congr_left fun value hvalue => ?_
    exact CoordinatorMultiTargetBlock.isSome_cellValue
      (hnumeric row hrow value (List.mem_of_mem_drop (List.mem_of_mem_take hvalue)))
  have htarget : policy.maxLength = some len ∨
      policy.maxLength = none ∧ start = 0 ∧ len = block.featureNames.length := by
    refine hcollates.target.imp_right fun ⟨hnone, _, row, hrow, hlen⟩ => ?_
    obtain ⟨values, hvalues, rfl⟩ := List.mem_map.mp hrow
    rw [List.length_map, hshaped.rect.values values hvalues] at hlen
    exact ⟨hnone, by omega, hlen.symm⟩
  refine ⟨start, hinside, htarget, hnames, hcollates.observationIds.1, hcollates.sampleIds.1,
    ?_, ?_, ?_, ?_⟩
  · rw [hcollates.shape]
    exact congrArg (fun rows => [rows, len]) (List.length_map _)
  · rw [hcollates.values, hflatten]
    rfl
  · rw [hcollates.presence, hflatten]
    have hall : (block.values.flatMap fun row => (columnWindow start len row).map fun value =>
        (some (cellValue value)).isSome) = List.replicate (block.values.length * len) true := by
      clear hplaced hflatten hvalid hrows hcollates hshaped hnumeric
      generalize block.values = values at hlength ⊢
      induction values with
      | nil => rw [List.length_nil, Nat.zero_mul]; rfl
      | cons row values ih =>
        rw [List.forall_mem_cons] at hlength
        rw [List.flatMap_cons, ih hlength.2, List.length_cons, Nat.succ_mul, Nat.add_comm,
          List.replicate_add]
        have hrow : (columnWindow start len row).map (fun _ => true) = List.replicate len true := by
          rw [List.map_const', hlength.1]
        exact congrArg (· ++ _) hrow
    rw [hall]
  · rw [hcollates.validity, ← hvalid]
    show _ = if (placed.flatten.map hasValue).all id then none else _
    rw [List.all_map]
    rfl

theorem featureCollation_window [CollationAllocator] {policy : CollationPolicy}
    {tensor : NumericTensorBlock} (h : collateFeatureBlock block policy = .ok tensor) :
    ∃ start len, CollatesWindow block policy tensor start len := by
  obtain ⟨hshaped, hnumeric, len, placed, hcollates⟩ := collates_of_collateFeatureBlock h
  obtain ⟨start, hwindow⟩ := hcollates.exists_window hshaped hnumeric
  exact ⟨start, len, hwindow⟩

/-- Three named columns, one with a null. -/
def namedBlock : CoordinatorFeatureBlock where
  featureSetId := "named"
  representationId := .lit "tabular" rfl
  featureNames := ["a", "b", "c"]
  observationIds := [.lit "o1" rfl, .lit "o2" rfl]
  sampleIds := [.lit "s1" rfl, .lit "s2" rfl]
  values := [[.number (.int 1), .null, .number (.int 3)],
    [.number (.int 4), .number (.int 5), .number (.int 6)]]

theorem namedBlock_window :
    letI := roomyAllocator
    ∃ tensor start len, collateFeatureBlock namedBlock centeredPolicy = .ok tensor ∧
      tensor.validityMask = some [true, false, true, true] ∧
      CollatesWindow namedBlock centeredPolicy tensor start len := by
  let _ := roomyAllocator
  have haccepted : ((collateFeatureBlock namedBlock centeredPolicy).map
      NumericTensorBlock.validityMask).toOption = some (some [true, false, true, true]) := by
    decide +kernel
  cases h : collateFeatureBlock namedBlock centeredPolicy with
  | error e => rw [h] at haccepted; cases haccepted
  | ok tensor =>
    rw [h] at haccepted
    obtain ⟨start, len, hwindow⟩ := featureCollation_window h
    exact ⟨tensor, start, len, rfl, Option.some.inj haccepted, hwindow⟩

/-! ## The default policy -/

theorem checkCollationRows_eq_ok {blockId : String} {seen : List ObservationId}
    {rows : List (ObservationId × List (Option F64))} :
    checkCollationRows blockId seen rows = .ok () ↔
      (∀ row ∈ rows, row.2 ≠ [] ∧ ∀ value, some value ∈ row.2 →
        value.isFinite = true) ∧
        (rows.map Prod.fst).Nodup ∧ ∀ row ∈ rows, row.1 ∉ seen := by
  refine seenLoop_eq_ok (fun _ => rfl) fun seen entry rows => ?_
  simp only [checkCollationRows, bind_eq_ok, rejectIf_eq_ok, forM_eq_ok, exists_unit,
    List.contains_eq_mem, decide_eq_false_iff_not, List.isEmpty_eq_false_iff, List.mem_filterMap,
    id, exists_eq_right, Bool.not_eq_false']
  constructor
  · rintro ⟨hseen, hne, hfinite, hrest⟩
    exact ⟨⟨hne, hfinite⟩, hseen, hrest⟩
  · rintro ⟨⟨hne, hfinite⟩, hseen, hrest⟩
    exact ⟨hseen, hne, hfinite, hrest⟩

section Collate
variable [CollationAllocator]

/-- A row of the target length is taken as it is. -/
theorem projectRow_of_length {row : List (Option F64)} {rowIdx targetLen : Nat}
    {policy : CollationPolicy} (h : row.length = targetLen) :
    projectRow row rowIdx targetLen policy = .ok ⟨row, List.replicate targetLen true⟩ := by
  unfold projectRow truncatedRow
  rw [if_neg (by omega)]
  show (if row.length = targetLen then _ else _) = _
  rw [if_pos h]
  rfl

theorem exists_foldlM_collateRow {targetLen : Nat} {policy : CollationPolicy}
    {entries : List (List (Option F64) × Nat)}
    (h : ∀ entry ∈ entries, entry.1.length = targetLen) (st : CollationLoop) :
    ∃ st', entries.foldlM (collateRow targetLen policy) st = .ok st' := by
  induction entries generalizing st with
  | nil => exact ⟨st, rfl⟩
  | cons entry entries ih =>
    rw [List.forall_mem_cons] at h
    obtain ⟨st', hrest⟩ := ih h.2 _
    refine ⟨st', ?_⟩
    rw [List.foldlM_cons, collateRow, projectRow_of_length h.1]
    exact hrest

/-- What the default policy needs of a block. -/
structure CoordinatorFeatureBlock.Collatable (block : CoordinatorFeatureBlock) : Prop where
  shaped : block.Shaped
  rows : block.values ≠ []
  names : ∀ name ∈ block.featureNames, isBlank name = false
  namesNodup : block.featureNames.Nodup
  observationsNodup : block.observationIds.Nodup
  numeric : ∀ row ∈ block.values, ∀ value ∈ row, value.IsNumeric ∧ value.Fits

omit [CollationAllocator] in
theorem finite_of_cellValue {value : Json} {x : F64} (hfits : value.Fits)
    (h : cellValue value = some x) : x.isFinite = true := by
  cases value with
  | number n =>
    cases h
    exact JsonNumber.Fits.isFinite_asF64 hfits
  | null | bool | string | array | object => cases h

/-- The default policy collates the whole block when the memory suffices. -/
theorem collateFeatureBlock_default (h : block.Collatable)
    (hsize : block.values.length * block.featureNames.length < 2 ^ 64)
    (hgrants : ∀ reservation, CollationAllocator.grants reservation
      (block.values.length * block.featureNames.length) = true) :
    ∃ tensor, collateFeatureBlock block {} = .ok tensor := by
  have hrows : ∀ row ∈ block.asInput.rows, row.length = block.featureNames.length := by
    refine List.forall_mem_map.mpr fun row hrow => ?_
    rw [List.length_map, h.shaped.rect.values row hrow]
  have hlength : block.asInput.rows.length = block.values.length := List.length_map _
  have hne : 0 < block.featureNames.length := List.length_pos_iff.mpr h.shaped.named
  have hinput : validateNumericInputBlock block.asInput = .ok () := by
    simp only [validateNumericInputBlock, bind_eq_ok, exists_unit, rejectIf_eq_ok,
      Bool.or_eq_false_iff, bne_eq_false_iff_eq, List.isEmpty_eq_false_iff,
      checkCollationRows_eq_ok, whenSome_eq_ok, rejectRepeats_eq_ok, List.any_eq_false,
      Bool.not_eq_true, List.not_mem_nil, not_false_eq_true, implies_true, and_true]
    refine ⟨h.shaped.featureSetId, ?_, ⟨h.shaped.sampleIds, ?_⟩, ⟨?_, ?_⟩, ?_⟩
    · rw [← List.length_pos_iff]
      exact h.shaped.rect.rows ▸ List.length_pos_iff.mpr h.rows
    · rw [hlength, h.shaped.rect.rows, h.shaped.sampleIds]
      rfl
    · intro entry hentry
      obtain ⟨row, hrow, hcells⟩ := List.mem_map.mp (List.of_mem_zip hentry).2
      rw [← hcells]
      refine ⟨?_, fun x hx => ?_⟩
      · rw [← List.length_pos_iff, List.length_map, h.shaped.rect.values row hrow]
        exact hne
      · obtain ⟨value, hvalue, hcell⟩ := List.mem_map.mp hx
        exact finite_of_cellValue (h.numeric row hrow value hvalue).2 hcell
    · rw [List.map_fst_zip (by rw [hlength, h.shaped.rect.rows]; exact Nat.le_refl _)]
      exact h.observationsNodup
    · rintro _ ⟨⟩
      exact ⟨h.shaped.named, h.names, h.namesNodup⟩
  -- All rows have one length, so nothing is cut or padded.
  have hlengths : ∀ len ∈ block.asInput.rows.map List.length, len = block.featureNames.length :=
    List.forall_mem_map.mpr hrows
  have htarget : targetLength block.asInput {} = .ok block.featureNames.length := by
    have hmax : (block.asInput.rows.map List.length).max? = some block.featureNames.length := by
      rw [List.max?_eq_some_iff]
      refine ⟨?_, fun len hlen => (hlengths len hlen).le⟩
      obtain ⟨row, hrow⟩ := List.exists_mem_of_ne_nil _ h.rows
      refine List.mem_map.mpr ⟨_, List.mem_map_of_mem hrow, ?_⟩
      rw [List.length_map, h.shaped.rect.values row hrow]
    simp only [targetLength, Option.getD_none, hmax, Option.getD_some, bind_eq_ok, exists_unit,
      rejectIf_eq_ok, pure_eq_ok, and_true, beq_eq_false_iff_ne, Bool.and_eq_false_iff,
      List.any_eq_false, decide_eq_true_eq]
    exact ⟨hne.ne', .inr fun row hrow => (hrows row hrow).le.not_gt,
      .inr fun row hrow => (hrows row hrow).ge.not_gt⟩
  have hnames : validateFeatureNamesForCollation block.asInput {} block.featureNames.length =
      .ok () := by
    simp only [validateFeatureNamesForCollation, whenSome_eq_ok, bind_eq_ok, exists_unit,
      rejectIf_eq_ok, List.any_eq_false, bne_iff_ne, ne_eq, not_not]
    rintro _ ⟨⟩
    exact ⟨hrows, by simp, by simp⟩
  have hloop : ∃ st, block.asInput.rows.zipIdx.foldlM
      (collateRow block.featureNames.length {}) ⟨[], [], [], false⟩ = .ok st :=
    exists_foldlM_collateRow (fun entry hentry => hrows _ (List.fst_mem_of_mem_zipIdx hentry)) _
  obtain ⟨st, hloop⟩ := hloop
  have hreserve : ∀ reservation, reserveCollation reservation
      (block.values.length * block.featureNames.length) = .ok () := fun reservation => by
    rw [reserveCollation, hgrants]
    rfl
  have hcells : checkedMul block.values.length block.featureNames.length =
      some (block.values.length * block.featureNames.length) :=
        checkedMul_eq_some.mpr ⟨hsize, rfl⟩
  have hprojected : projectedFeatureNames block.asInput.featureNames block.featureNames.length {} =
      .ok _ := projectedFeatureNames_eq (Nat.le_refl _)
  obtain ⟨tensor, htensor⟩ : ∃ tensor, collateNumericBlock block.asInput {} = .ok tensor := by
    rw [collateNumericBlock, hinput, validateCollationPolicy_default, htarget]
    simp only [bind_eq_ok, exists_unit, Except.ok.injEq, exists_eq_left', true_and, hnames, hlength,
      hcells, require_eq_ok, Option.some.injEq, hreserve, hloop, hprojected, pure_eq_ok]
    exact ⟨_, rfl⟩
  exact ⟨tensor, bind_eq_ok.mpr ⟨block.asInput, numericInputFromFeatureBlock_eq_ok.mpr
    ⟨h.shaped, fun row hrow value hvalue => (h.numeric row hrow value hvalue).1, rfl⟩,
      htensor⟩⟩

end Collate

/-! ## The provider -/

/-- The names of a selection of distinct columns are names of the buffer, and distinct. -/
theorem Picks.names {names : List String} (hnodup : names.Nodup) {columns : Option (List String)}
    {indices : List Nat} (h : Picks names columns indices)
    (hcolumns : ∀ columns', columns = some columns' → columns'.Nodup) :
    (indices.map fun i => names.getD i "").Nodup ∧
      ∀ name ∈ indices.map fun i => names.getD i "", name ∈ names := by
  constructor
  · obtain ⟨-, hpicks⟩ := h
    cases columns with
    | none =>
      rw [hpicks]
      rw [map_range_eq fun i name hname => by rw [List.getD_eq_getElem?_getD, hname]; rfl]
      exact hnodup
    | some columns =>
      have hnames : (indices.map fun i => names.getD i "") = columns := by
        have hforall : List.Forall₂ (fun column i => names[i]? = some column) columns indices :=
          hpicks
        clear hpicks hcolumns
        induction hforall with
        | nil => rfl
        | cons hcolumn _ ih =>
          rw [List.map_cons, ih, List.getD_eq_getElem?_getD, hcolumn]
          rfl
      rw [hnames]
      exact hcolumns columns rfl
  · refine List.forall_mem_map.mpr fun i hi => ?_
    have hlt := h.lt_length i hi
    rw [List.getD_eq_getElem _ _ hlt]
    exact List.getElem_mem hlt

namespace NumericFeatureBuffer

/-- What a buffer projects of valid relations can be collated. -/
theorem collatable_of_projectRelations {buffer : NumericFeatureBuffer} (hfinite : buffer.Finite)
    {relations : CoordinatorRelationSet} {columns : Option (List String)}
    {block : CoordinatorFeatureBlock}
    (h : buffer.projectRelations relations none columns = .ok block) : block.Collatable := by
  obtain ⟨hvalid, selected, hselected, hprojects⟩ := projectRelations_eq_ok.mp h
  obtain ⟨hshaped, hcolumns, hpicks⟩ := selectedIndices_eq_ok.mp hselected
  have hrecords : (relations.records.filter (·.inScope none)) = relations.records := by
    rw [List.filter_eq_self]
    exact fun _ _ => rfl
  rw [hrecords] at hprojects
  have hrect := hprojects.rectangular
  obtain ⟨hnodup, hmem⟩ := hpicks.names hshaped.namesNodup hcolumns
  rw [← hprojects.featureNames] at hnodup hmem
  have hnamed : block.featureNames ≠ [] := by
    rw [hprojects.featureNames, ne_eq, List.map_eq_nil_iff]
    exact hpicks.1
  refine ⟨⟨hprojects.featureSetId ▸ hshaped.featureSetId, hnamed, ?_, hrect⟩, ?_,
    fun name hname => hshaped.names name (hmem name hname), hnodup, ?_, ?_⟩
  · rw [hprojects.observationIds, hprojects.sampleIds, List.length_map, List.length_map]
  · rw [← List.length_pos_iff, ← hprojects.values.length_eq]
    exact List.length_pos_iff.mpr hvalid.nonempty
  · rw [hprojects.observationIds]
    exact hvalid.observations
  · intro row hrow value hvalue
    rcases hprojects.value_cases hfinite hrow hvalue with rfl | ⟨x, rfl, hx⟩
    · exact ⟨.inl rfl, trivial⟩
    · exact ⟨.inr ⟨_, rfl⟩, hx⟩

end NumericFeatureBuffer

section Provider
variable [ThirdParty] [CollationAllocator]

/-- In every state that a provider of constructed buffers reaches, the default policy collates each
block that the provider serves, when the memory suffices. The tensor has the values of the typed
projection, which exists exactly when there is no validity mask, and zero for each null else. -/
theorem provider_collation {provider : InMemoryProvider} {envelope : CoordinatorDataPlanEnvelope}
    {featureStore : NumericFeatureBufferStore} {ndTensorStore : NdTensorStore}
    (hbuilt : provider.BuiltFrom envelope featureStore ndTensorStore)
    (hconstructed : ∀ (id : String) (buffer : NumericFeatureBuffer),
      featureStore.buffers[id]? = some buffer → buffer.Constructed)
    (calls : List ProviderCall) (viewHandle : Nat) (featureSetId : String)
    (block : CoordinatorFeatureBlock)
    (hblock : (provider.arenas.run envelope calls).featureBlock viewHandle featureSetId = .ok block)
    (hsize : block.values.length * block.featureNames.length < 2 ^ 64)
    (hgrants : ∀ reservation, CollationAllocator.grants reservation
      (block.values.length * block.featureNames.length) = true) :
    let arenas := provider.arenas.run envelope calls
    ProviderArenas.featureCollationBlock (fun _ => arenas) viewHandle
      ⟨some featureSetId, none, {}⟩ = .ok block ∧
    ∃ tensor, collateFeatureBlock block {} = .ok tensor ∧
      tensor.shape = [block.values.length, block.featureNames.length] ∧
      tensor.featureNames = some block.featureNames ∧
      tensor.observationIds = block.observationIds ∧ tensor.sampleIds = block.sampleIds ∧
      tensor.values = block.values.flatten.map (fun value => (cellValue value).getD .zero) ∧
      ((∃ typed, arenas.featureBlockF64 viewHandle featureSetId = .ok typed) ↔
        tensor.validityMask = none) ∧
      ∀ typed, arenas.featureBlockF64 viewHandle featureSetId = .ok typed →
        tensor.values = typed.values := by
  intro arenas
  obtain ⟨hfresh, hitems, -⟩ := hbuilt.fresh
  obtain ⟨buffer, relations, columns, hbuffer, hprojected⟩ :=
    ProviderArenas.exists_projectRelations hblock
  rw [ProviderArenas.items_run, hitems] at hbuffer
  have hfinite := (hconstructed _ buffer hbuffer).finite
  have hcollatable := NumericFeatureBuffer.collatable_of_projectRelations hfinite hprojected
  have halike := hbuilt.projectsAlike hconstructed calls viewHandle featureSetId
  have hid : isBlank featureSetId = false := by
    obtain ⟨hshaped, hkey⟩ := hfresh.features _ buffer (hitems ▸ hbuffer)
    exact hkey ▸ hshaped.featureSetId
  obtain ⟨tensor, htensor⟩ := collateFeatureBlock_default hcollatable hsize hgrants
  obtain ⟨hshaped, hnumeric, _, _, hcollates⟩ := collates_of_collateFeatureBlock htensor
  obtain ⟨start, hwindow⟩ := hcollates.exists_window hshaped hnumeric
  -- The default policy has no maximal length, so the window is the whole row.
  obtain ⟨-, rfl, rfl⟩ := hwindow.length.resolve_left nofun
  have hrow : ∀ row ∈ block.values, columnWindow 0 block.featureNames.length row = row := by
    intro row hrow
    rw [columnWindow, List.drop_zero, ← hcollatable.shaped.rect.values row hrow, List.take_length]
  have hvalues : tensor.values = block.values.flatten.map
      fun value => (cellValue value).getD .zero := by
    rw [hwindow.values, List.map_flatten, ← List.flatMap_def]
    refine List.flatMap_congr fun row hmem => ?_
    rw [hrow row hmem]
  refine ⟨?_, tensor, htensor, hwindow.shape, ?_, hwindow.observationIds,
    hwindow.sampleIds, hvalues,
    ?_, ?_⟩
  · show (rejectIf (isBlank featureSetId) _ >>= fun _ => _) = _
    rw [hid]
    exact hblock
  · rw [hwindow.featureNames, columnWindow, List.drop_zero, List.take_length]
  · have hall : (block.values.flatMap fun row => (columnWindow 0 block.featureNames.length row).map
        fun value => !value.isNull).all id = true ↔
          ∀ row ∈ block.values, Json.null ∉ row := by
      rw [List.all_eq_true]
      constructor
      · intro hvalid row hmem hnull
        refine absurd (hvalid (!Json.null.isNull) (List.mem_flatMap.mpr ⟨row, hmem, ?_⟩))
          Bool.false_ne_true
        rw [hrow row hmem]
        exact List.mem_map_of_mem hnull
      · intro hnull flag hflag
        obtain ⟨row, hmem, hflag⟩ := List.mem_flatMap.mp hflag
        obtain ⟨value, hvalue, rfl⟩ := List.mem_map.mp hflag
        rw [hrow row hmem] at hvalue
        cases value with
        | null => exact absurd hvalue (hnull row hmem)
        | bool | number | string | array | object => rfl
    -- The typed projection refuses a null, and a null is what needs a mask.
    rw [halike.succeeds, hblock, hwindow.validity]
    simp only [Except.ok.injEq, exists_eq_left', ← hall]
    split
    · next h => exact ⟨fun _ => rfl, fun _ => h⟩
    · next h => exact ⟨fun h' => absurd h' h, nofun⟩
  · intro typed htyped
    have hflat := (halike.alike block typed hblock htyped).values
    rw [hvalues, ← hflat, List.map_map]
    exact List.map_id _

omit [ThirdParty] [CollationAllocator] in
theorem sharedViewed_collation :
    letI := roomyAllocator
    ∃ block tensor, @ProviderArenas.featureBlock sharedDigests sharedViewed 2 "all" =
      .ok block ∧
      collateFeatureBlock block {} = .ok tensor ∧
      tensor.values = block.values.flatten.map fun value => (cellValue value).getD .zero := by
  let _ := sharedDigests
  let _ := roomyAllocator
  obtain ⟨block, hblock, -, -, hsize⟩ := sharedViewed_block
  obtain ⟨-, tensor, htensor, -, -, -, -, hvalues, -⟩ := provider_collation sharedProvider_built
    sharedFeatureStore_constructed sharedViewedRun 2 "all" block hblock hsize (fun _ => rfl)
  exact ⟨block, tensor, hblock, htensor, hvalues⟩

end Provider

end DagMlData
