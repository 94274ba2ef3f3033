import DagMlData.FeatureTable

/-!
# Collation

`collate_numeric_block` brings rows of different lengths to one length and puts them into a tensor
with a presence mask (which positions are cells of a row) and a validity mask (which of them have
a value). Longer rows are cut, shorter rows are padded, each on the side that the policy names.

* `collateNumericBlock`: the function. A cell that is null is `none`.
* `Placement`: where the cells of one row end up.
* `collateNumericBlock_collates`: values, masks and names are all read off one placement.
-/

namespace DagMlData

open Guard RustText

inductive CollationPadding
  | none
  | right
  | left
  | center
deriving DecidableEq, Repr

/-- The field defaults are those of the source. -/
structure CollationPolicy where
  padding : CollationPadding := .none
  truncate : Bool := false
  batchContainer : Option String := Option.none
  emitMask : Bool := true
  maxLength : Option Nat := Option.none
  padValue : F64 := .zero

structure NumericCollationInputBlock where
  blockId : String
  representationId : RepresentationId
  observationIds : List ObservationId
  sampleIds : List SampleId
  rows : List (List (Option F64))
  featureNames : Option (List String)

structure NumericTensorBlock where
  blockId : String
  representationId : RepresentationId
  batchContainer : String
  observationIds : List ObservationId
  sampleIds : List SampleId
  shape : List Nat
  values : List F64
  presenceMask : Option (List Bool)
  validityMask : Option (List Bool)
  featureNames : Option (List String)

/-- What a vector of a run is reserved for. -/
inductive CollationReservation
  | values
  | presence
  | validity
  | rowValues (row : Nat)
  | rowPresence (row : Nat)

/-- Which reservations of a run the allocator grants, and how the error of a refused one prints. -/
class CollationAllocator where
  grants : CollationReservation → Nat → Bool
  reserveError : Nat → String

/-! ## Checks -/

/-- The loop over the rows, with the observations that it has seen. -/
def checkCollationRows (blockId : String) :
    List ObservationId → List (ObservationId × List (Option F64)) → Result Unit
  | _, [] => .ok ()
  | seen, (observationId, row) :: rows => do
    rejectIf (seen.contains observationId)
      (.validation (s!"collation input block `{blockId}` contains duplicate observation " ++
        s!"`{observationId}`"))
    rejectIf row.isEmpty
      (.validation s!"collation input block `{blockId}` row `{observationId}` is empty")
    forM (row.filterMap id) fun value => rejectIf (!value.isFinite)
      (.validation (s!"collation input block `{blockId}` row `{observationId}` contains a " ++
        "non-finite value"))
    checkCollationRows blockId (observationId :: seen) rows

/-- `validate_numeric_input_block`. -/
def validateNumericInputBlock (block : NumericCollationInputBlock) : Result Unit := do
  rejectIf (isBlank block.blockId) (.validation "collation input block_id is empty")
  rejectIf block.observationIds.isEmpty
    (.validation s!"collation input block `{block.blockId}` contains no rows")
  rejectIf (block.observationIds.length != block.sampleIds.length ||
      block.sampleIds.length != block.rows.length)
    (.validation (s!"collation input block `{block.blockId}` row identity/value lengths " ++
      "differ"))
  checkCollationRows block.blockId [] (block.observationIds.zip block.rows)
  whenSome block.featureNames fun featureNames => do
    rejectIf featureNames.isEmpty
      (.validation s!"collation input block `{block.blockId}` has empty feature_names")
    rejectIf (featureNames.any isBlank)
      (.validation s!"collation input block `{block.blockId}` has an empty feature name")
    rejectRepeats (fun name => .validation
      s!"collation input block `{block.blockId}` has duplicate feature `{name}`") featureNames

/-- `validate_collation_policy`. -/
def validateCollationPolicy (policy : CollationPolicy) : Result Unit := do
  rejectIf (policy.maxLength == some 0)
    (.validation "collation max_length must be greater than zero")
  whenSome policy.batchContainer fun container =>
    rejectIf (isBlank container) (.validation "collation batch_container must not be empty")
  rejectIf (!policy.padValue.isFinite) (.validation "collation pad_value must be finite")

/-- The defaults of a policy pass its own checks. -/
theorem validateCollationPolicy_default : validateCollationPolicy {} = .ok () := rfl

/-- `target_length`. -/
def targetLength (block : NumericCollationInputBlock) (policy : CollationPolicy) : Result Nat := do
  let maxObserved := ((block.rows.map List.length).max?).getD 0
  let target := policy.maxLength.getD maxObserved
  rejectIf (target == 0)
    (.validation s!"collation input block `{block.blockId}` produced an empty target length")
  rejectIf (!policy.truncate && block.rows.any fun row => decide (row.length > target))
    (.validation (s!"collation input block `{block.blockId}` has rows longer than max_length " ++
      "without truncate"))
  rejectIf (policy.padding == .none && block.rows.any fun row => decide (row.length < target))
    (.validation s!"collation input block `{block.blockId}` has ragged rows but padding is none")
  pure target

/-- `validate_feature_names_for_collation`. -/
def validateFeatureNamesForCollation (block : NumericCollationInputBlock)
    (policy : CollationPolicy) (targetLen : Nat) : Result Unit :=
  whenSome block.featureNames fun featureNames => do
    rejectIf (block.rows.any fun row => row.length != featureNames.length)
      (.validation (s!"collation input block `{block.blockId}` named features require " ++
        "rectangular rows"))
    rejectIf (decide (targetLen > featureNames.length))
      (.validation s!"collation input block `{block.blockId}` cannot pad named feature rows")
    rejectIf (decide (targetLen < featureNames.length) && !policy.truncate)
      (.validation (s!"collation input block `{block.blockId}` feature names require truncation " ++
        "for max_length"))

/-! ## Rows -/

/-- `truncate_start`. -/
def truncateStart (rowLen targetLen : Nat) : CollationPadding → Nat
  | .left => rowLen - targetLen
  | .center => (rowLen - targetLen) / 2
  | .none | .right => 0

section Collate
variable [CollationAllocator]

/-- `reserve_collation`. -/
def reserveCollation (reservation : CollationReservation) (len : Nat) : Result Unit :=
  rejectIf (!CollationAllocator.grants reservation len)
    (.validation s!"collation allocation failed: {CollationAllocator.reserveError len}")

structure ProjectedRow where
  values : List (Option F64)
  presence : List Bool

/-- The padding positions before and after a row. -/
def padding (missing : Nat) : CollationPadding → Nat × Nat
  | .none | .right => (0, missing)
  | .left => (missing, 0)
  | .center => (missing / 2, missing - missing / 2)

/-- The `truncated` of `project_row`. -/
def truncatedRow (row : List (Option F64)) (targetLen : Nat) (policy : CollationPolicy) :
    Result (List (Option F64)) :=
  if row.length > targetLen then do
    rejectIf (!policy.truncate)
      (.validation "collation row is longer than target length without truncate")
    let start := truncateStart row.length targetLen policy.padding
    pure ((row.drop start).take targetLen)
  else pure row

/-- `project_row`. -/
def projectRow (row : List (Option F64)) (rowIdx targetLen : Nat) (policy : CollationPolicy) :
    Result ProjectedRow := do
  let truncated ← truncatedRow row targetLen policy
  if truncated.length = targetLen then
    pure { values := truncated, presence := List.replicate targetLen true }
  else do
    rejectIf (policy.padding == .none)
      (.validation "collation row is shorter than target length but padding is none")
    let missing := targetLen - truncated.length
    let (leftPad, rightPad) := padding missing policy.padding
    reserveCollation (.rowValues rowIdx) targetLen
    reserveCollation (.rowPresence rowIdx) targetLen
    pure {
      values := List.replicate leftPad Option.none ++ truncated ++
        List.replicate rightPad Option.none
      presence := List.replicate leftPad false ++
        List.replicate (targetLen - leftPad - rightPad) true ++ List.replicate rightPad false }

/-- `projected_feature_names`. -/
def projectedFeatureNames (featureNames : Option (List String)) (targetLen : Nat)
    (policy : CollationPolicy) : Result (Option (List String)) :=
  match featureNames with
  | Option.none => pure Option.none
  | some featureNames =>
    if targetLen = featureNames.length then pure (some featureNames)
    else do
      rejectIf (decide (targetLen > featureNames.length))
        (.validation "named feature collation cannot add padded feature names")
      let start := truncateStart featureNames.length targetLen policy.padding
      pure (some ((featureNames.drop start).take targetLen))

/-- The vectors that the loop over the rows extends. -/
structure CollationLoop where
  values : List F64
  presence : List Bool
  validity : List Bool
  hasInvalid : Bool

/-- The loop body: one row and its place. -/
def collateRow (targetLen : Nat) (policy : CollationPolicy) (st : CollationLoop)
    (entry : List (Option F64) × Nat) : Result CollationLoop := do
  let projected ← projectRow entry.1 entry.2 targetLen policy
  let valid := (projected.values.zip projected.presence).map fun (value, present) =>
    present && value.isSome
  pure {
    values := st.values ++ projected.values.map fun value => value.getD policy.padValue
    presence := st.presence ++ projected.presence
    validity := st.validity ++ valid
    hasInvalid := st.hasInvalid || valid.any (!·) }

/-- `collate_numeric_block`. -/
def collateNumericBlock (block : NumericCollationInputBlock) (policy : CollationPolicy) :
    Result NumericTensorBlock := do
  validateNumericInputBlock block
  validateCollationPolicy policy
  let targetLen ← targetLength block policy
  validateFeatureNamesForCollation block policy targetLen
  let batch := block.rows.length
  let cells ← require (checkedMul batch targetLen)
    (.validation "collation dimensions exceed addressable capacity")
  reserveCollation .values cells
  reserveCollation .presence cells
  reserveCollation .validity cells
  let st ← block.rows.zipIdx.foldlM (collateRow targetLen policy) ⟨[], [], [], false⟩
  let featureNames ← projectedFeatureNames block.featureNames targetLen policy
  pure {
    blockId := block.blockId
    representationId := block.representationId
    batchContainer := policy.batchContainer.getD "ndarray"
    observationIds := block.observationIds
    sampleIds := block.sampleIds
    shape := [batch, targetLen]
    values := st.values
    presenceMask := if policy.emitMask then some st.presence else Option.none
    validityMask := if st.hasInvalid then some st.validity else Option.none
    featureNames := featureNames }

end Collate

/-! ## Where the cells end up -/

/-- The positions of one row in the tensor: padding, or a cell of the row. -/
abbrev Positions := List (Option (Option F64))

/-- A longer row gives consecutive cells from the start that the padding names. -/
def Truncated (side : CollationPadding) (targetLen : Nat) (row : List (Option F64))
    (positions : Positions) : Prop :=
  ∃ start, start + targetLen ≤ row.length ∧
    (match side with
      | .none | .right => start = 0
      | .left => start + targetLen = row.length
      | .center => start = (row.length - targetLen) / 2) ∧
    positions = ((row.drop start).take targetLen).map some

/-- Another row gives all its cells, with padding on the sides that the policy names. -/
def Padded (side : CollationPadding) (targetLen : Nat) (row : List (Option F64))
    (positions : Positions) : Prop :=
  ∃ before after, before + row.length + after = targetLen ∧
    (match side with
      | .none => before = 0 ∧ after = 0
      | .right => before = 0
      | .left => after = 0
      | .center => before = (targetLen - row.length) / 2) ∧
    positions = List.replicate before none ++ row.map some ++ List.replicate after none

/-- Where the cells of a row are. -/
structure Placement (side : CollationPadding) (targetLen : Nat) (row : List (Option F64))
    (positions : Positions) : Prop where
  longer : targetLen < row.length → Truncated side targetLen row positions
  shorter : row.length ≤ targetLen → Padded side targetLen row positions

variable {side : CollationPadding} {targetLen : Nat} {row : List (Option F64)}
  {positions : Positions}

/-- The position has a value. -/
def hasValue (position : Option (Option F64)) : Bool := position.join.isSome

theorem Placement.length (h : Placement side targetLen row positions) :
    positions.length = targetLen := by
  rcases Nat.lt_or_ge targetLen row.length with hlong | hshort
  · obtain ⟨start, hstart, -, rfl⟩ := h.longer hlong
    rw [List.length_map, List.length_take, List.length_drop]
    omega
  · obtain ⟨before, after, hlength, -, rfl⟩ := h.shorter hshort
    rw [List.length_append, List.length_append, List.length_replicate, List.length_replicate,
      List.length_map]
    exact hlength

theorem truncateStart_le (rowLen targetLen : Nat) (side : CollationPadding) :
    truncateStart rowLen targetLen side ≤ rowLen - targetLen := by
  cases side with
  | none => exact Nat.zero_le _
  | right => exact Nat.zero_le _
  | left => exact le_rfl
  | center => exact Nat.div_le_self _ _

/-- A row that is long enough is cut to the window of `truncate_start`. -/
theorem Placement.window (h : Placement side targetLen row positions)
    (hlong : targetLen ≤ row.length) :
    positions = ((row.drop (truncateStart row.length targetLen side)).take targetLen).map some := by
  rcases hlong.lt_or_eq with hlt | rfl
  · obtain ⟨start, hstart, hside, rfl⟩ := h.longer hlt
    have heq : start = truncateStart row.length targetLen side := by
      cases side with
      | none => exact hside
      | right => exact hside
      | left => exact Nat.eq_sub_of_add_eq hside
      | center => exact hside
    rw [heq]
  · obtain ⟨before, after, hlength, -, rfl⟩ := h.shorter le_rfl
    have hbefore : before = 0 := by omega
    have hafter : after = 0 := by omega
    have hstart : truncateStart row.length row.length side = 0 :=
      Nat.le_zero.mp ((truncateStart_le _ _ _).trans (Nat.sub_self _).le)
    rw [hbefore, hafter, hstart, List.drop_zero, List.take_length]
    simp

/-- The positions of a padded row. -/
theorem padded_padding (hrow : row.length < targetLen) (hside : side ≠ .none) :
    Padded side targetLen row
      (List.replicate (padding (targetLen - row.length) side).1 none ++ row.map some ++
        List.replicate (padding (targetLen - row.length) side).2 none) := by
  refine ⟨_, _, ?_, ?_, rfl⟩
  · cases side with
    | none => exact absurd rfl hside
    | right => simp only [padding]; omega
    | left => simp only [padding]; omega
    | center => simp only [padding]; omega
  · cases side with
    | none => exact absurd rfl hside
    | right => rfl
    | left => rfl
    | center => rfl

/-- The window of a longer row. -/
theorem truncated_truncateStart (hrow : targetLen < row.length) :
    Truncated side targetLen row
      (((row.drop (truncateStart row.length targetLen side)).take targetLen).map some) := by
  have hle := truncateStart_le row.length targetLen side
  refine ⟨truncateStart row.length targetLen side, by omega, ?_, rfl⟩
  cases side with
  | none => rfl
  | right => rfl
  | left => exact Nat.sub_add_cancel hrow.le
  | center => rfl

theorem join_map_some {α : Type} (cells : List (Option α)) :
    (cells.map some).map Option.join = cells := by
  rw [List.map_map]
  exact List.map_id _

theorem isSome_map_some {α : Type} (cells : List α) :
    (cells.map some).map Option.isSome = List.replicate cells.length true := by
  rw [List.map_map]
  exact List.map_const' ..

/-- What the loop has after some rows: the positions of each row, read in three ways. -/
structure LoopPlaces (targetLen : Nat) (policy : CollationPolicy) (rows : List (List (Option F64)))
    (st : CollationLoop) (placed : List Positions) : Prop where
  aligned : List.Forall₂ (Placement policy.padding targetLen) rows placed
  values : st.values = placed.flatten.map fun position => position.join.getD policy.padValue
  presence : st.presence = placed.flatten.map Option.isSome
  validity : st.validity = placed.flatten.map hasValue
  hasInvalid : st.hasInvalid = placed.flatten.any fun position => !hasValue position

theorem validity_of_positions (positions : Positions) :
    (((positions.map Option.join).zip (positions.map Option.isSome)).map
      fun (value, present) => present && value.isSome) = positions.map hasValue := by
  rw [List.zip_map', List.map_map]
  refine List.map_congr_left fun position _ => ?_
  cases position with
  | none => rfl
  | some cell => rfl

section Rows
variable [CollationAllocator] {policy : CollationPolicy} {rowIdx : Nat} {projected : ProjectedRow}

/-- A projected row reads its values and its presence off one placement. -/
theorem projectRow_places (h : projectRow row rowIdx targetLen policy = .ok projected) :
    ∃ positions, Placement policy.padding targetLen row positions ∧
      projected.values = positions.map Option.join ∧
      projected.presence = positions.map Option.isSome := by
  unfold projectRow at h
  rw [bind_eq_ok] at h
  obtain ⟨truncated, htruncated, h⟩ := h
  unfold truncatedRow at htruncated
  rcases lt_trichotomy targetLen row.length with hlong | hequal | hshort
  · rw [if_pos hlong, bind_eq_ok] at htruncated
    obtain ⟨_, -, htruncated⟩ := htruncated
    cases pure_eq_ok.mp htruncated
    have hwindow : Truncated policy.padding targetLen row _ := truncated_truncateStart hlong
    have hplaced : Placement policy.padding targetLen row _ :=
      ⟨fun _ => hwindow, fun hle => absurd hlong (not_lt.mpr hle)⟩
    have hlength := hplaced.length
    rw [List.length_map] at hlength
    rw [if_pos hlength] at h
    cases pure_eq_ok.mp h
    refine ⟨_, hplaced, (join_map_some _).symm, ?_⟩
    rw [isSome_map_some, hlength]
  · rw [if_neg hequal.not_lt] at htruncated
    cases pure_eq_ok.mp htruncated
    rw [if_pos hequal.symm] at h
    cases pure_eq_ok.mp h
    refine ⟨row.map some, ⟨fun hlt => absurd hequal hlt.ne, fun _ => ⟨0, 0, ?_, ?_, ?_⟩⟩,
      (join_map_some _).symm, ?_⟩
    · rw [Nat.zero_add, Nat.add_zero, hequal]
    · rw [hequal, Nat.sub_self]
      cases policy.padding <;> first | rfl | exact ⟨rfl, rfl⟩
    · simp
    · rw [isSome_map_some, hequal]
  · rw [if_neg hshort.not_gt] at htruncated
    cases pure_eq_ok.mp htruncated
    rw [if_neg hshort.ne, bind_eq_ok] at h
    obtain ⟨_, hside, h⟩ := h
    rw [rejectIf_eq_ok, beq_eq_false_iff_ne] at hside
    simp only [bind_eq_ok, exists_unit, pure_eq_ok] at h
    obtain ⟨-, -, rfl⟩ := h
    have hpadded : Padded _ targetLen row _ := padded_padding hshort hside
    have hplaced : Placement policy.padding targetLen row _ :=
      ⟨fun hlt => absurd hlt hshort.not_gt, fun _ => hpadded⟩
    have hlength := hplaced.length
    refine ⟨_, hplaced, ?_, ?_⟩
    · rw [List.map_append, List.map_append, join_map_some, List.map_replicate, List.map_replicate]
      rfl
    · rw [List.map_append, List.map_append, isSome_map_some, List.map_replicate,
        List.map_replicate]
      rw [List.length_append, List.length_append, List.length_replicate, List.length_replicate,
        List.length_map] at hlength
      have hrow : targetLen - (padding (targetLen - row.length) policy.padding).1 -
          (padding (targetLen - row.length) policy.padding).2 = row.length := by omega
      show _ ++ List.replicate (targetLen - _ - _) true ++ _ = _
      rw [hrow]
      rfl

theorem LoopPlaces.collateRow {rows : List (List (Option F64))} {st st' : CollationLoop}
    {placed : List Positions} {entry : List (Option F64) × Nat}
    (h : LoopPlaces targetLen policy rows st placed)
    (hstep : collateRow targetLen policy st entry = .ok st') :
    ∃ positions, LoopPlaces targetLen policy (rows ++ [entry.1]) st' (placed ++ [positions]) := by
  simp only [DagMlData.collateRow, bind_eq_ok, pure_eq_ok] at hstep
  obtain ⟨projected, hprojected, rfl⟩ := hstep
  obtain ⟨positions, hplaced, hvalues, hpresence⟩ := projectRow_places hprojected
  have hvalid := validity_of_positions positions
  rw [← hvalues, ← hpresence] at hvalid
  have hflatten : (placed ++ [positions]).flatten = placed.flatten ++ positions := by
    rw [List.flatten_append, List.flatten_singleton]
  refine ⟨positions, ?_, ?_, ?_, ?_, ?_⟩
  · exact List.rel_append h.aligned (.cons hplaced .nil)
  · rw [hflatten, List.map_append, ← h.values, hvalues, List.map_map]
    rfl
  · rw [hflatten, List.map_append, ← h.presence, hpresence]
  · rw [hflatten, List.map_append, ← h.validity, ← hvalid]
  · rw [hflatten, List.any_append, ← h.hasInvalid]
    show (st.hasInvalid || List.any _ _) = (st.hasInvalid || List.any _ _)
    rw [hvalid, List.any_map]
    rfl

theorem foldlM_collateRow {rows : List (List (Option F64))} {st : CollationLoop}
    (h : rows.zipIdx.foldlM (DagMlData.collateRow targetLen policy)
      ⟨[], [], [], false⟩ = .ok st) :
    ∃ placed, LoopPlaces targetLen policy rows st placed := by
  have hloop := foldlM_ok_induction
    (P := fun entries st => ∃ placed,
      LoopPlaces targetLen policy (entries.map Prod.fst) st placed)
    ⟨[], .nil, rfl, rfl, rfl, rfl⟩ (fun entries st entry st' ⟨placed, ih⟩ hstep => by
      obtain ⟨positions, hplaces⟩ := ih.collateRow hstep
      rw [List.map_append, List.map_singleton]
      exact ⟨_, hplaces⟩) h
  rwa [List.zipIdx_map_fst] at hloop

end Rows

/-! ## The tensor -/

/-- The length that the policy names, or that of the longest row. -/
def IsTarget (policy : CollationPolicy) (rows : List (List (Option F64)))
    (targetLen : Nat) : Prop :=
  policy.maxLength = some targetLen ∨
    policy.maxLength = none ∧ (∀ row ∈ rows, row.length ≤ targetLen) ∧
      ∃ row ∈ rows, row.length = targetLen

/-- The tensor of a block: its values, masks and names are read off one placement of the rows. -/
structure Collates (block : NumericCollationInputBlock) (policy : CollationPolicy)
    (tensor : NumericTensorBlock) (targetLen : Nat) (placed : List Positions) : Prop where
  target : IsTarget policy block.rows targetLen
  aligned : List.Forall₂ (Placement policy.padding targetLen) block.rows placed
  observationIds : tensor.observationIds = block.observationIds ∧
    block.observationIds.length = block.rows.length
  sampleIds : tensor.sampleIds = block.sampleIds ∧ block.sampleIds.length = block.rows.length
  shape : tensor.shape = [block.rows.length, targetLen]
  length : tensor.values.length = block.rows.length * targetLen
  maskLength : ∀ mask, tensor.presenceMask = some mask ∨ tensor.validityMask = some mask →
    mask.length = block.rows.length * targetLen
  values : tensor.values = placed.flatten.map fun position => position.join.getD policy.padValue
  presence : tensor.presenceMask =
    if policy.emitMask then some (placed.flatten.map Option.isSome) else none
  validity : tensor.validityMask =
    if placed.flatten.all hasValue then none else some (placed.flatten.map hasValue)
  unnamed : block.featureNames = none → tensor.featureNames = none
  /-- Names and cells are cut to the same window. -/
  named : ∀ names, block.featureNames = some names →
    ∃ start, start + targetLen ≤ names.length ∧
    tensor.featureNames = some ((names.drop start).take targetLen) ∧
    List.Forall₂ (fun row positions => row.length = names.length ∧
      positions = ((row.drop start).take targetLen).map some) block.rows placed

theorem targetLength_isTarget {block : NumericCollationInputBlock} {policy : CollationPolicy}
    (hrows : block.rows ≠ []) (h : targetLength block policy = .ok targetLen) :
    IsTarget policy block.rows targetLen := by
  simp only [targetLength, bind_eq_ok, exists_unit, pure_eq_ok] at h
  obtain ⟨-, -, -, rfl⟩ := h
  cases hmax : policy.maxLength with
  | some len => exact .inl hmax
  | none =>
    refine .inr ⟨hmax, ?_⟩
    rw [Option.getD_none]
    cases hlongest : (block.rows.map List.length).max? with
    | none =>
      rw [List.max?_eq_none_iff, List.map_eq_nil_iff] at hlongest
      exact absurd hlongest hrows
    | some len =>
      rw [List.max?_eq_some_iff] at hlongest
      obtain ⟨hmem, hle⟩ := hlongest
      exact ⟨fun row hrow => hle _ (List.mem_map_of_mem hrow), List.mem_map.mp hmem⟩

theorem validateFeatureNamesForCollation_eq_ok {block : NumericCollationInputBlock}
    {policy : CollationPolicy} {names : List String} (hnames : block.featureNames = some names)
    (h : validateFeatureNamesForCollation block policy targetLen = .ok ()) :
    (∀ row ∈ block.rows, row.length = names.length) ∧ targetLen ≤ names.length := by
  simp only [validateFeatureNamesForCollation, whenSome_eq_ok, bind_eq_ok, exists_unit,
    rejectIf_eq_ok, List.any_eq_false, bne_iff_ne, ne_eq, not_not, decide_eq_false_iff_not,
    not_lt, gt_iff_lt] at h
  obtain ⟨hrows, hle, -⟩ := h names hnames
  exact ⟨hrows, hle⟩

/-- The names are cut to the window of `truncate_start`. -/
theorem projectedFeatureNames_eq {policy : CollationPolicy} {names : List String}
    (hle : targetLen ≤ names.length) :
    projectedFeatureNames (some names) targetLen policy =
      .ok (some ((names.drop (truncateStart names.length targetLen policy.padding)).take
        targetLen)) := by
  unfold projectedFeatureNames
  rcases hle.lt_or_eq with hlt | rfl
  · simp only [if_neg hlt.ne]
    rw [rejectIf, if_neg (by rw [decide_eq_true_eq]; exact hle.not_gt)]
    rfl
  · have hstart : truncateStart names.length names.length policy.padding = 0 :=
      Nat.le_zero.mp ((truncateStart_le _ _ _).trans (Nat.sub_self _).le)
    rw [hstart, List.drop_zero, List.take_length]
    simp only [if_pos]
    rfl

theorem length_flatten_placed {rows : List (List (Option F64))} {placed : List Positions}
    (h : List.Forall₂ (Placement side targetLen) rows placed) :
    placed.flatten.length = rows.length * targetLen := by
  induction h with
  | nil => exact (Nat.zero_mul _).symm
  | cons hrow _ ih =>
    rw [List.flatten_cons, List.length_append, hrow.length, ih, List.length_cons, Nat.succ_mul,
      Nat.add_comm]

/-- A call that is accepted: what it has checked, and where its loop has placed the cells. -/
structure CollationRun (block : NumericCollationInputBlock) (policy : CollationPolicy)
    (tensor : NumericTensorBlock) (targetLen : Nat) (st : CollationLoop)
    (placed : List Positions) : Prop where
  rows : block.rows ≠ []
  observations : block.observationIds.length = block.rows.length
  samples : block.sampleIds.length = block.rows.length
  target : targetLength block policy = .ok targetLen
  names : validateFeatureNamesForCollation block policy targetLen = .ok ()
  places : LoopPlaces targetLen policy block.rows st placed
  projected : projectedFeatureNames block.featureNames targetLen policy = .ok tensor.featureNames
  observationIds : tensor.observationIds = block.observationIds
  sampleIds : tensor.sampleIds = block.sampleIds
  shape : tensor.shape = [block.rows.length, targetLen]
  values : tensor.values = st.values
  presence : tensor.presenceMask = if policy.emitMask then some st.presence else none
  validity : tensor.validityMask = if st.hasInvalid then some st.validity else none

theorem exists_collationRun [CollationAllocator] {block : NumericCollationInputBlock}
    {policy : CollationPolicy} {tensor : NumericTensorBlock}
    (h : collateNumericBlock block policy = .ok tensor) :
    ∃ targetLen st placed, CollationRun block policy tensor targetLen st placed := by
  simp only [collateNumericBlock, bind_eq_ok, exists_unit, pure_eq_ok] at h
  obtain ⟨hblock, -, targetLen, htarget, hnames, _, -, -, -, -, st, hloop, names, hprojected,
    rfl⟩ := h
  simp only [validateNumericInputBlock, bind_eq_ok, exists_unit, rejectIf_eq_ok,
    Bool.or_eq_false_iff, bne_eq_false_iff_eq, List.isEmpty_eq_false_iff] at hblock
  obtain ⟨-, hobserved, ⟨hsamples, hrows⟩, -, -⟩ := hblock
  have hne : block.rows ≠ [] := by
    rw [← List.length_pos_iff] at hobserved ⊢
    rwa [← hrows, ← hsamples]
  obtain ⟨placed, hplaces⟩ := foldlM_collateRow hloop
  exact ⟨targetLen, st, placed, hne, hsamples.trans hrows, hrows, htarget, hnames, hplaces,
    hprojected, rfl, rfl, rfl, rfl, rfl, rfl⟩

theorem CollationRun.collates {block : NumericCollationInputBlock} {policy : CollationPolicy}
    {tensor : NumericTensorBlock} {targetLen : Nat} {st : CollationLoop} {placed : List Positions}
    (h : CollationRun block policy tensor targetLen st placed) :
    Collates block policy tensor targetLen placed where
  target := targetLength_isTarget h.rows h.target
  aligned := h.places.aligned
  observationIds := ⟨h.observationIds, h.observations⟩
  sampleIds := ⟨h.sampleIds, h.samples⟩
  shape := h.shape
  length := by
    rw [h.values, h.places.values, List.length_map, length_flatten_placed h.places.aligned]
  maskLength := by
    rintro mask (hmask | hmask)
    · rw [h.presence] at hmask
      obtain ⟨-, heq⟩ := Option.ite_none_right_eq_some.mp hmask
      cases heq
      rw [h.places.presence, List.length_map, length_flatten_placed h.places.aligned]
    · rw [h.validity] at hmask
      obtain ⟨-, heq⟩ := Option.ite_none_right_eq_some.mp hmask
      cases heq
      rw [h.places.validity, List.length_map, length_flatten_placed h.places.aligned]
  values := h.values.trans h.places.values
  presence := by rw [h.presence, h.places.presence]
  validity := by
    rw [h.validity, h.places.hasInvalid, h.places.validity, ← List.not_all_eq_any_not]
    cases placed.flatten.all hasValue <;> rfl
  unnamed hnone := by
    have hprojected := h.projected
    rw [hnone] at hprojected
    exact (pure_eq_ok.mp hprojected).symm
  named names hsome := by
    obtain ⟨hrect, hle⟩ := validateFeatureNamesForCollation_eq_ok hsome h.names
    have hprojected := h.projected
    rw [hsome, projectedFeatureNames_eq hle] at hprojected
    have hstart := truncateStart_le names.length targetLen policy.padding
    refine ⟨truncateStart names.length targetLen policy.padding, by omega,
      (Except.ok.inj hprojected).symm, ?_⟩
    refine ((List.forall₂_and_left _ _).mpr ⟨hrect, h.places.aligned⟩).imp ?_
    rintro row positions ⟨hrow, hplaced⟩
    refine ⟨hrow, ?_⟩
    rw [← hrow]
    exact hplaced.window (hrow ▸ hle)

theorem collateNumericBlock_collates [CollationAllocator] {block : NumericCollationInputBlock}
    {policy : CollationPolicy} {tensor : NumericTensorBlock}
    (h : collateNumericBlock block policy = .ok tensor) :
    ∃ targetLen placed, Collates block policy tensor targetLen placed := by
  obtain ⟨targetLen, _, placed, hrun⟩ := exists_collationRun h
  exact ⟨targetLen, placed, hrun.collates⟩

/-- One row that is cut and one that is padded. -/
def raggedBlock : NumericCollationInputBlock where
  blockId := "ragged"
  representationId := .lit "series" rfl
  observationIds := [.lit "o1" rfl, .lit "o2" rfl]
  sampleIds := [.lit "s1" rfl, .lit "s2" rfl]
  rows := [[some (F64.ofInt 1), none, some (F64.ofInt 3), some (F64.ofInt 4)], [some (F64.ofInt 5)]]
  featureNames := none

def centeredPolicy : CollationPolicy where
  padding := .center
  truncate := true
  maxLength := some 2

/-- A machine with enough memory. -/
@[reducible] def roomyAllocator : CollationAllocator where
  grants _ _ := true
  reserveError _ := "memory allocation failed"

theorem raggedBlock_collates : ∃ tensor targetLen placed,
    tensor.values = [.zero, F64.ofInt 3, F64.ofInt 5, .zero] ∧
      Collates raggedBlock centeredPolicy tensor targetLen placed := by
  have haccepted : ((@collateNumericBlock roomyAllocator raggedBlock centeredPolicy).map
      NumericTensorBlock.values).toOption = some [.zero, F64.ofInt 3, F64.ofInt 5, .zero] := by
    decide
  cases h : @collateNumericBlock roomyAllocator raggedBlock centeredPolicy with
  | error e => rw [h] at haccepted; cases haccepted
  | ok tensor =>
    rw [h] at haccepted
    obtain ⟨targetLen, placed, hcollates⟩ :=
      @collateNumericBlock_collates roomyAllocator _ _ _ h
    exact ⟨tensor, targetLen, placed, Option.some.inj haccepted, hcollates⟩

end DagMlData
