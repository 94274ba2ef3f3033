import DagMlData.JsonEq
import DagMlData.ProviderProjections

/-!
# The typed projection

`project_relations_f64` gathers the rows of a buffer straight into floats, for callers that do not
want a JSON value for every cell. It refuses masked cells: a float has no null.

* `NumericFeatureBuffer.Constructed`: the buffers that the constructors of the source make. None
  has a cell that is not finite, so null is a masked cell and nothing else.
* `typed_projections`: the typed projection is the plain one, of blocks without a null.
-/

namespace DagMlData

open Guard RustText CoordinatorHandleArena

structure CoordinatorFeatureBlockF64 where
  featureSetId : String
  representationId : RepresentationId
  featureNames : List String
  observationIds : List ObservationId
  sampleIds : List SampleId
  values : List F64

/-- `NumericFeatureBuffer::project_relations_f64`. -/
def NumericFeatureBuffer.projectRelationsF64 (buffer : NumericFeatureBuffer)
    (relations : CoordinatorRelationSet) (sourceId : Option SourceId)
    (columns : Option (List String)) : Result CoordinatorFeatureBlockF64 := do
  relations.validate
  let selected ← buffer.selectedIndices columns
  let records := relations.records.filter (·.inScope sourceId)
  let values ← records.mapM fun r => do
    let rowIdx ← require buffer.rowIndexByObservation[r.observationId]?
      (.validation (s!"feature table `{buffer.featureSetId}` has no row for observation " ++
        s!"`{r.observationId}`"))
    selected.mapM fun featureIdx => require (buffer.cell featureIdx rowIdx)
      (.validation (s!"feature table `{buffer.featureSetId}` observation `{r.observationId}` " ++
        "feature `" ++ buffer.featureNames.getD featureIdx "" ++
        "` is masked; the typed f64 projection requires fully numeric values"))
  pure {
    featureSetId := buffer.featureSetId
    representationId := buffer.representationId
    featureNames := selected.map fun featureIdx => buffer.featureNames.getD featureIdx ""
    observationIds := records.map (·.observationId)
    sampleIds := records.map (·.sampleId)
    values := values.flatten }

/-- `NumericFeatureBufferArena::project_bound_relations_f64`. -/
def NumericFeatureBufferArena.projectBoundRelationsF64 [ThirdParty]
    (arena : NumericFeatureBufferArena) (dataHandle : Nat) (featureSetId : String)
    (relations : CoordinatorRelationSet) (sourceId : Option SourceId)
    (columns : Option (List String)) : Result CoordinatorFeatureBlockF64 := do
  arena.validateBoundSources NumericFeatureBuffer.bindable dataHandle
    featureSetId relations sourceId
  let buffer ← require arena.items[featureSetId]?
    (.validation s!"unknown feature buffer `{featureSetId}`")
  buffer.projectRelationsF64 relations sourceId columns

/-- `feature_block_f64`. -/
def ProviderArenas.featureBlockF64 [ThirdParty] (arenas : ProviderArenas) (viewHandle : Nat)
    (featureSetId : String) : Result CoordinatorFeatureBlockF64 := do
  let (viewRecord, parentRecord, relations) ← arenas.viewScope viewHandle
  arenas.features.projectBoundRelationsF64 parentRecord.handle.handle featureSetId relations none
    viewRecord.view.columns

/-! ## Row-major matrices -/

structure NumericFeatureMatrixF64 where
  featureSetId : String
  representationId : RepresentationId
  featureNames : List String
  observationIds : List ObservationId
  values : List F64
  validityMask : Option (List Bool)

namespace NumericFeatureMatrixF64

variable (matrix : NumericFeatureMatrixF64)

/-- Whether the value at the place counts: there is no mask, or the mask has it. -/
def isValidAt (idx : Nat) : Bool :=
  (matrix.validityMask.map fun mask => mask.getD idx false).getD true

def validate : Result Unit := do
  validateFeatureShape matrix.featureSetId matrix.featureNames matrix.observationIds
  let expectedValues := matrix.featureNames.length * matrix.observationIds.length
  rejectIf (matrix.values.length != expectedValues)
    (.validation (s!"f64 feature matrix `{matrix.featureSetId}` has " ++
      s!"{matrix.values.length} values " ++
      s!"for {matrix.observationIds.length} observations x {matrix.featureNames.length} features"))
  whenSome matrix.validityMask fun validityMask =>
    rejectIf (validityMask.length != expectedValues)
      (.validation (s!"f64 feature matrix `{matrix.featureSetId}` validity_mask has " ++
        s!"{validityMask.length} values for {matrix.observationIds.length} observations x " ++
        s!"{matrix.featureNames.length} features"))
  forM matrix.values.zipIdx fun (value, idx) =>
    rejectIf (matrix.isValidAt idx && !value.isFinite)
      (.validation s!"f64 feature matrix `{matrix.featureSetId}` value {idx} is not finite")

/-- The cell at a place of the row-major values. -/
def cellAt (flatIdx : Nat) : Option F64 :=
  if matrix.isValidAt flatIdx then some (matrix.values.getD flatIdx .zero) else none

end NumericFeatureMatrixF64

namespace NumericFeatureBuffer

/-- `from_f64_matrix`. -/
def fromF64Matrix (matrix : NumericFeatureMatrixF64) : Result NumericFeatureBuffer := do
  matrix.validate
  let rowCount := matrix.observationIds.length
  let featureCount := matrix.featureNames.length
  let columns := (List.range rowCount).foldl (fun columns rowIdx =>
    pushCells columns ((List.range featureCount).map fun featureIdx =>
      matrix.cellAt (rowIdx * featureCount + featureIdx))) (List.replicate featureCount [])
  pure {
    featureSetId := matrix.featureSetId
    representationId := matrix.representationId
    featureNames := matrix.featureNames
    observationIds := matrix.observationIds
    columns := columns
    rowIndexByObservation := rowIndex matrix.observationIds }

/-- The buffers that the constructors make. The descriptors are public and may be edited after
that; the storage and its index are not. -/
inductive Constructed : NumericFeatureBuffer → Prop
  | table {table : CoordinatorFeatureTable} {buffer : NumericFeatureBuffer} :
      (∀ row ∈ table.rows, ∀ value ∈ row.values, value.Fits) →
      fromFeatureTable table = .ok buffer → Constructed buffer
  | matrix {matrix : NumericFeatureMatrixF64} {buffer : NumericFeatureBuffer} :
      fromF64Matrix matrix = .ok buffer → Constructed buffer
  | columnMatrix {matrix : NumericFeatureMatrixF64Columnar} {buffer : NumericFeatureBuffer} :
      fromF64ColumnMatrix matrix = .ok buffer → Constructed buffer
  | edited {buffer edited : NumericFeatureBuffer} : Constructed buffer →
      edited.columns = buffer.columns →
      edited.rowIndexByObservation = buffer.rowIndexByObservation → Constructed edited

/-! ## Finite cells -/

/-- The cells of the columns are finite. -/
def FiniteCells (columns : List (List (Option F64))) : Prop :=
  ∀ column ∈ columns, ∀ x : F64, some x ∈ column → x.isFinite = true

theorem FiniteCells.replicate (n : Nat) : FiniteCells (List.replicate n []) := by
  intro column hcolumn x hx
  rw [List.eq_of_mem_replicate hcolumn] at hx
  cases hx

theorem FiniteCells.pushCells {columns : List (List (Option F64))} (h : FiniteCells columns)
    {cells : List (Option F64)} (hcells : ∀ x : F64, some x ∈ cells → x.isFinite = true) :
    FiniteCells (pushCells columns cells) := by
  induction columns generalizing cells with
  | nil => exact h
  | cons column columns ih =>
    cases cells with
    | nil => exact h
    | cons cell cells =>
      obtain ⟨hcolumn, hcolumns⟩ := List.forall_mem_cons.mp h
      refine List.forall_mem_cons.mpr ⟨fun x hx => ?_, ih hcolumns fun x hx =>
        hcells x (List.mem_cons_of_mem cell hx)⟩
      rcases List.mem_append.mp hx with hx | hx
      · exact hcolumn x hx
      · exact hcells x (List.mem_singleton.mp hx ▸ List.mem_cons_self)

theorem fromF64Matrix_finite {matrix : NumericFeatureMatrixF64} {buffer : NumericFeatureBuffer}
    (h : fromF64Matrix matrix = .ok buffer) : buffer.Finite := by
  simp only [fromF64Matrix, bind_eq_ok, exists_unit, pure_eq_ok] at h
  obtain ⟨hvalid, rfl⟩ := h
  simp only [NumericFeatureMatrixF64.validate, bind_eq_ok, exists_unit, forM_eq_ok, rejectIf_eq_ok,
    Bool.and_eq_false_iff, Bool.not_eq_false'] at hvalid
  obtain ⟨-, -, -, hfinite⟩ := hvalid
  have hcell : ∀ flatIdx x, matrix.cellAt flatIdx = some x → x.isFinite = true := by
    intro flatIdx x hx
    unfold NumericFeatureMatrixF64.cellAt at hx
    split at hx
    · next hcounts =>
      cases hx
      rcases Nat.lt_or_ge flatIdx matrix.values.length with hlt | hge
      · rw [List.getD_eq_getElem _ _ hlt]
        have hmem : (matrix.values[flatIdx], flatIdx) ∈ matrix.values.zipIdx :=
          List.mk_mem_zipIdx_iff_getElem?.mpr (List.getElem?_eq_getElem hlt)
        rcases hfinite _ hmem with hmasked | hvalue
        · rw [hmasked] at hcounts
          cases hcounts
        · exact hvalue
      · rw [List.getD_eq_default _ _ hge]
        exact F64.isFinite_zero
    · cases hx
  show FiniteCells (List.foldl _ _ _)
  refine List.foldlRecOn _ _ (FiniteCells.replicate _) fun columns hcolumns rowIdx _ => ?_
  refine hcolumns.pushCells fun x hx => ?_
  obtain ⟨featureIdx, -, heq⟩ := List.mem_map.mp hx
  exact hcell _ x heq

theorem numericFeatureValue_finite {featureSetId name : String} {observationId : ObservationId}
    {value : Json} (hfits : value.Fits) {x : F64}
    (h : numericFeatureValue featureSetId observationId name value = .ok (some x)) :
    x.isFinite = true := by
  cases value with
  | number n =>
    cases h
    exact JsonNumber.Fits.isFinite_asF64 hfits
  | _ => cases h

theorem addTableRow_finite {table : CoordinatorFeatureTable} {st st' : FromTableLoop}
    {entry : CoordinatorFeatureRow × Nat} (hfits : ∀ value ∈ entry.1.values, value.Fits)
    (h : addTableRow table st entry = .ok st') (hst : FiniteCells st.columns) :
    FiniteCells st'.columns := by
  simp only [addTableRow, bind_eq_ok, exists_unit, pure_eq_ok] at h
  obtain ⟨-, cells, hcells, rfl⟩ := h
  refine hst.pushCells fun x hx => ?_
  obtain ⟨value, hvalue, hcell⟩ := exists_left_of_forall₂ (mapM_eq_ok.mp hcells) hx
  exact numericFeatureValue_finite (hfits _ (List.fst_mem_of_mem_zipIdx hvalue)) hcell

theorem fromFeatureTable_finite {table : CoordinatorFeatureTable} {buffer : NumericFeatureBuffer}
    (hfits : ∀ row ∈ table.rows, ∀ value ∈ row.values, value.Fits)
    (h : fromFeatureTable table = .ok buffer) : buffer.Finite := by
  simp only [fromFeatureTable, bind_eq_ok, exists_unit, pure_eq_ok] at h
  obtain ⟨-, st, hloop, rfl⟩ := h
  have hrows := foldlM_ok_induction
    (P := fun seen st => (∀ entry ∈ seen, entry.1 ∈ table.rows) → FiniteCells st.columns)
    (fun _ => FiniteCells.replicate _) (fun seen st entry st' ih hstep hseen =>
      addTableRow_finite (hfits _ (hseen entry
        (List.mem_append_right _ (List.mem_singleton_self _))))
        hstep (ih fun other hother => hseen other (List.mem_append_left _ hother))) hloop
  exact hrows fun entry hentry => List.fst_mem_of_mem_zipIdx hentry

theorem fromF64ColumnMatrix_finite {matrix : NumericFeatureMatrixF64Columnar}
    {buffer : NumericFeatureBuffer} (h : fromF64ColumnMatrix matrix = .ok buffer) :
    buffer.Finite :=
  (fromF64ColumnMatrix_shaped h).2

theorem Constructed.finite {buffer : NumericFeatureBuffer} (h : buffer.Constructed) :
    buffer.Finite := by
  induction h with
  | table hfits h => exact fromFeatureTable_finite hfits h
  | matrix h => exact fromF64Matrix_finite h
  | columnMatrix h => exact fromF64ColumnMatrix_finite h
  | edited _ hcolumns _ ih =>
    unfold Finite
    rw [hcolumns]
    exact ih

theorem Finite.isFinite_cell {buffer : NumericFeatureBuffer} (h : buffer.Finite)
    {featureIdx rowIdx : Nat}
    {x : F64} (hcell : buffer.cell featureIdx rowIdx = some x) : x.isFinite = true := by
  unfold cell at hcell
  rcases Nat.lt_or_ge featureIdx buffer.columns.length with hlt | hge
  · rw [List.getD_eq_getElem _ _ hlt] at hcell
    rcases Nat.lt_or_ge rowIdx buffer.columns[featureIdx].length with hrow | hrow
    · rw [List.getD_eq_getElem _ _ hrow] at hcell
      exact h _ (List.getElem_mem hlt) x (hcell ▸ List.getElem_mem hrow)
    · rw [List.getD_eq_default _ _ hrow] at hcell
      cases hcell
  · rw [List.getD_eq_default _ _ hge] at hcell
    cases hcell

end NumericFeatureBuffer

/-! ## The two projections -/

/-- A float as the plain projection prints it. -/
def floatJson (x : F64) : Json := .number (.float x)

theorem floatJson_injective : Function.Injective floatJson := by
  rintro x y ⟨⟩
  rfl

/-- The typed block has the ids and names of the plain one, and its rows one after the other. -/
structure CoordinatorFeatureBlock.Flattens (block : CoordinatorFeatureBlock)
    (typed : CoordinatorFeatureBlockF64) : Prop where
  featureSetId : typed.featureSetId = block.featureSetId
  representationId : typed.representationId = block.representationId
  featureNames : typed.featureNames = block.featureNames
  observationIds : typed.observationIds = block.observationIds
  sampleIds : typed.sampleIds = block.sampleIds
  values : typed.values.map floatJson = block.values.flatten

/-- The typed projection succeeds where the plain one does without a null, and flattens it. -/
structure ProjectsAlike (plain : Result CoordinatorFeatureBlock)
    (typed : Result CoordinatorFeatureBlockF64) : Prop where
  succeeds : (∃ block, typed = .ok block) ↔
    ∃ block, plain = .ok block ∧ ∀ row ∈ block.values, Json.null ∉ row
  alike : ∀ block typedBlock, plain = .ok block → typed = .ok typedBlock →
    block.Flattens typedBlock

namespace NumericFeatureBuffer

variable {buffer : NumericFeatureBuffer}

/-- A cell prints as a float exactly when it holds it, and as null when it is masked. -/
theorem Finite.cellJson_eq (h : buffer.Finite) {featureIdx rowIdx : Nat} {x : F64} :
    cellJson (buffer.cell featureIdx rowIdx) = floatJson x ↔
      buffer.cell featureIdx rowIdx = some x := by
  cases hcell : buffer.cell featureIdx rowIdx with
  | none => exact ⟨nofun, nofun⟩
  | some y =>
    have hfinite := h.isFinite_cell hcell
    show Json.ofF64 y = floatJson x ↔ _
    rw [Json.ofF64, if_pos hfinite, Option.some.injEq]
    exact ⟨fun heq => floatJson_injective heq, fun heq => heq ▸ rfl⟩

theorem Finite.cellJson_cases (h : buffer.Finite) (featureIdx rowIdx : Nat) :
    cellJson (buffer.cell featureIdx rowIdx) = .null ∨
      ∃ x, cellJson (buffer.cell featureIdx rowIdx) = floatJson x := by
  cases hcell : buffer.cell featureIdx rowIdx with
  | none => exact .inl rfl
  | some x =>
    rw [← hcell]
    exact .inr ⟨x, h.cellJson_eq.mpr hcell⟩

/-- The typed row of a record is its plain row without nulls. -/
theorem Finite.mapM_cell (h : buffer.Finite) {selected : List Nat} {rowIdx : Nat}
    {error : Nat → DataError} {row : List F64} :
    (selected.mapM fun featureIdx => require (buffer.cell featureIdx rowIdx) (error featureIdx)) =
        .ok row ↔
      (selected.map fun featureIdx => cellJson (buffer.cell featureIdx rowIdx)) =
        row.map floatJson := by
  rw [mapM_eq_ok, ← List.forall₂_eq_eq_eq, List.forall₂_map_left_iff,
    List.forall₂_map_right_iff]
  simp only [require_eq_ok, h.cellJson_eq]

/-- A typed run is a plain run whose rows are floats. -/
theorem Finite.projectRelationsF64_eq_ok (h : buffer.Finite) {relations : CoordinatorRelationSet}
    {sourceId : Option SourceId} {columns : Option (List String)}
    {typed : CoordinatorFeatureBlockF64} :
    buffer.projectRelationsF64 relations sourceId columns = .ok typed ↔
      ∃ rows : List (List F64), typed.values = rows.flatten ∧
        buffer.projectRelations relations sourceId columns = .ok {
          featureSetId := typed.featureSetId
          representationId := typed.representationId
          featureNames := typed.featureNames
          observationIds := typed.observationIds
          sampleIds := typed.sampleIds
          values := rows.map (List.map floatJson) } := by
  simp only [projectRelationsF64, projectRelations, bind_eq_ok, exists_unit, mapM_eq_ok,
    require_eq_ok, pure_eq_ok, h.mapM_cell, CoordinatorFeatureBlock.mk.injEq]
  constructor
  · rintro ⟨hvalid, selected, hselected, rows, hrows, rfl⟩
    refine ⟨rows, rfl, hvalid, selected, hselected, _, ?_, rfl, rfl, rfl, rfl, rfl, rfl⟩
    rw [List.forall₂_map_right_iff]
    exact hrows
  · rintro ⟨rows, hflat, hvalid, selected, hselected, _, hrows, hid, hrep, hnames, hobservations,
      hsamples, rfl⟩
    rw [List.forall₂_map_right_iff] at hrows
    refine ⟨hvalid, selected, hselected, rows, hrows, ?_⟩
    cases typed
    simp only at hid hrep hnames hobservations hsamples hflat
    rw [hid, hrep, hnames, hobservations, hsamples, hflat]

theorem Finite.projectsAlike (h : buffer.Finite) (relations : CoordinatorRelationSet)
    (sourceId : Option SourceId) (columns : Option (List String)) :
    ProjectsAlike (buffer.projectRelations relations sourceId columns)
      (buffer.projectRelationsF64 relations sourceId columns) where
  succeeds := by
    constructor
    · rintro ⟨typed, htyped⟩
      obtain ⟨rows, -, hplain⟩ := h.projectRelationsF64_eq_ok.mp htyped
      refine ⟨_, hplain, fun row hrow hnull => ?_⟩
      obtain ⟨floats, -, rfl⟩ := List.mem_map.mp hrow
      obtain ⟨x, -, hx⟩ := List.mem_map.mp hnull
      cases hx
    · rintro ⟨block, hplain, hnull⟩
      obtain ⟨hvalid, selected, hselected, hprojects⟩ := projectRelations_eq_ok.mp hplain
      have hfloats : ∀ row ∈ block.values, ∃ floats : List F64,
        floats.map floatJson = row := by
        intro row hrow
        obtain ⟨r, -, rowIdx, -, rfl⟩ := exists_left_of_forall₂ hprojects.values hrow
        have hrange : (selected.map fun featureIdx => cellJson (buffer.cell featureIdx rowIdx)) ∈
            Set.range (List.map floatJson) := by
          rw [Set.range_list_map]
          intro cell hcell
          obtain ⟨featureIdx, -, rfl⟩ := List.mem_map.mp hcell
          rcases h.cellJson_cases featureIdx rowIdx with heq | ⟨x, heq⟩
          · exact absurd (heq ▸ hcell) (hnull _ hrow)
          · exact ⟨x, heq.symm⟩
        exact hrange
      have hrows : block.values ∈ Set.range (List.map (List.map floatJson)) := by
        rw [Set.range_list_map]
        exact fun row hrow => hfloats row hrow
      obtain ⟨rows, hrows⟩ := hrows
      exact ⟨⟨_, _, _, _, _, _⟩, h.projectRelationsF64_eq_ok.mpr ⟨rows, rfl, by
        rw [hrows]
        exact hplain⟩⟩
  alike := by
    intro block typed hplain htyped
    obtain ⟨rows, hflat, hrun⟩ := h.projectRelationsF64_eq_ok.mp htyped
    cases hplain.symm.trans hrun
    exact ⟨rfl, rfl, rfl, rfl, rfl, by rw [hflat, List.map_flatten]⟩

end NumericFeatureBuffer

/-! ## The provider -/

namespace ProjectsAlike

/-- Steps that both projections share can only fail for both. -/
theorem bind {α : Type} {x : Result α} {plain : α → Result CoordinatorFeatureBlock}
    {typed : α → Result CoordinatorFeatureBlockF64}
    (h : ∀ a, x = .ok a → ProjectsAlike (plain a) (typed a)) :
    ProjectsAlike (x >>= plain) (x >>= typed) := by
  cases x with
  | error e => exact ⟨⟨nofun, nofun⟩, nofun⟩
  | ok a => exact h a rfl

end ProjectsAlike

theorem BindingArena.items_bindDataHandle {ι β : Type} {kind : Bindable ι β}
    {arena bound : BindingArena ι β} {dataHandle : Nat} {relations : CoordinatorRelationSet}
    {representationId : RepresentationId}
    (h : arena.bindDataHandle kind dataHandle relations representationId = .ok bound) :
    bound.items = arena.items := by
  simp only [bindDataHandle, bind_eq_ok, pure_eq_ok] at h
  obtain ⟨_, -, rfl⟩ := h
  rfl

section Provider
variable [ThirdParty] {envelope : CoordinatorDataPlanEnvelope}

theorem NumericFeatureBufferArena.projectsAlike {arena : NumericFeatureBufferArena}
    (h : ∀ (id : String) (buffer : NumericFeatureBuffer), arena.items[id]? = some buffer →
      buffer.Finite) (dataHandle : Nat) (featureSetId : String)
    (relations : CoordinatorRelationSet) (sourceId : Option SourceId)
    (columns : Option (List String)) :
    ProjectsAlike
      (arena.projectBoundRelations dataHandle featureSetId relations sourceId columns)
      (arena.projectBoundRelationsF64 dataHandle featureSetId relations sourceId columns) := by
  refine ProjectsAlike.bind fun _ _ => ProjectsAlike.bind fun buffer hbuffer => ?_
  exact (h _ buffer (require_eq_ok.mp hbuffer)).projectsAlike relations sourceId columns

theorem ProviderArenas.projectsAlike {arenas : ProviderArenas}
    (h : ∀ (id : String) (buffer : NumericFeatureBuffer),
      arenas.features.items[id]? = some buffer →
      buffer.Finite) (viewHandle : Nat) (featureSetId : String) :
    ProjectsAlike (arenas.featureBlock viewHandle featureSetId)
      (arenas.featureBlockF64 viewHandle featureSetId) := by
  refine ProjectsAlike.bind fun scope _ => ?_
  exact NumericFeatureBufferArena.projectsAlike h _ _ _ _ _

theorem ProviderArenas.items_bind (arenas : ProviderArenas) (record : CoordinatorDataHandleRecord)
    (relations : CoordinatorRelationSet) :
    (arenas.bind record relations).2.features.items = arenas.features.items := by
  unfold bind
  split
  · rfl
  · next h =>
    simp only
    split
    · exact BindingArena.items_bindDataHandle h
    · exact BindingArena.items_bindDataHandle h

/-- No call changes the buffers. -/
theorem ProviderArenas.items_step (arenas : ProviderArenas) (call : ProviderCall) :
    (arenas.step envelope call).2.features.items = arenas.features.items := by
  cases call with
  | materialize request =>
    simp only [step, materialize]
    split
    · rfl
    · split
      · rfl
      · split
        · next h => rw [← show _ = _ from congrArg (·.2.features.items) h, items_bind]
        · next h => rw [← show _ = _ from congrArg (·.2.features.items) h, items_bind]
  | makeView dataHandle view => rfl
  | release handle => rfl

theorem ProviderArenas.items_run (arenas : ProviderArenas) (calls : List ProviderCall) :
    (arenas.run envelope calls).features.items = arenas.features.items := by
  induction calls generalizing arenas with
  | nil => rfl
  | cons call calls ih =>
    show ((arenas.step envelope call).2.run envelope calls).features.items = _
    rw [ih, items_step]

/-- Typed and plain projections agree in every state that a provider of constructed buffers
reaches. -/
theorem InMemoryProvider.BuiltFrom.projectsAlike {provider : InMemoryProvider}
    {featureStore : NumericFeatureBufferStore} {ndTensorStore : NdTensorStore}
    (hbuilt : provider.BuiltFrom envelope featureStore ndTensorStore)
    (hconstructed : ∀ (id : String) (buffer : NumericFeatureBuffer),
      featureStore.buffers[id]? = some buffer → buffer.Constructed)
    (calls : List ProviderCall) (viewHandle : Nat) (featureSetId : String) :
    ProjectsAlike ((provider.arenas.run envelope calls).featureBlock viewHandle featureSetId)
      ((provider.arenas.run envelope calls).featureBlockF64 viewHandle featureSetId) := by
  obtain ⟨-, hitems, -⟩ := hbuilt.fresh
  refine ProviderArenas.projectsAlike (fun id buffer hget => ?_) viewHandle featureSetId
  rw [ProviderArenas.items_run, hitems] at hget
  exact (hconstructed id buffer hget).finite

/-- Typed and plain projections agree, on every constructed buffer and in every state that a
provider of constructed buffers reaches. -/
theorem typed_projections :
    (∀ buffer : NumericFeatureBuffer, buffer.Constructed →
      ∀ relations sourceId columns,
        ProjectsAlike (buffer.projectRelations relations sourceId columns)
          (buffer.projectRelationsF64 relations sourceId columns)) ∧
    ∀ (provider : InMemoryProvider) (envelope : CoordinatorDataPlanEnvelope)
      (featureStore : NumericFeatureBufferStore) (ndTensorStore : NdTensorStore),
      provider.BuiltFrom envelope featureStore ndTensorStore →
      (∀ (id : String) (buffer : NumericFeatureBuffer),
        featureStore.buffers[id]? = some buffer →
        buffer.Constructed) →
      ∀ (calls : List ProviderCall) (viewHandle : Nat) (featureSetId : String),
        ProjectsAlike ((provider.arenas.run envelope calls).featureBlock viewHandle featureSetId)
          ((provider.arenas.run envelope calls).featureBlockF64 viewHandle featureSetId) := by
  refine ⟨fun buffer hbuffer relations sourceId columns =>
    hbuffer.finite.projectsAlike relations sourceId columns, ?_⟩
  intro provider envelope featureStore ndTensorStore hbuilt hconstructed calls viewHandle
    featureSetId
  obtain ⟨-, hitems, -⟩ := hbuilt.fresh
  refine ProviderArenas.projectsAlike (fun id buffer hget => ?_) viewHandle featureSetId
  rw [ProviderArenas.items_run, hitems] at hget
  exact (hconstructed id buffer hget).finite

end Provider

/-- The buffer of one column is the buffer of a matrix. -/
theorem oneColumn_constructed {featureSetId : String} {observationIds : List ObservationId}
    {cells : List F64}
    (h : NumericFeatureMatrixF64Columnar.validate
      ⟨featureSetId, .lit "tabular" rfl, ["a"], observationIds,
        [cells], none⟩ = .ok ()) :
    (oneColumn featureSetId observationIds cells).Constructed := by
  refine .columnMatrix (NumericFeatureBuffer.fromF64ColumnMatrix_eq_ok.mpr
    ⟨NumericFeatureMatrixF64Columnar.validate_eq_ok.mp h, ?_⟩)
  rw [oneColumn, ← maskColumn_none]
  rfl

theorem sharedViewed_projects_alike :
    ProjectsAlike (@ProviderArenas.featureBlock sharedDigests sharedViewed 2 "all")
      (@ProviderArenas.featureBlockF64 sharedDigests sharedViewed 2 "all") := by
  let _ := sharedDigests
  have hconstructed : ∀ (id : String) (buffer : NumericFeatureBuffer),
      sharedFeatureStore.buffers[id]? = some buffer → buffer.Constructed := by
    intro id buffer hget
    have hmem := sharedFeatureStore_buffer.mp hget
    simp only [List.mem_cons, Prod.mk.injEq, List.not_mem_nil, or_false] at hmem
    rcases hmem with ⟨-, rfl⟩ | ⟨-, rfl⟩
    · exact oneColumn_constructed (by decide)
    · exact oneColumn_constructed (by decide)
  exact typed_projections.2 sharedProvider sharedEnvelope sharedFeatureStore sharedTensorStore
    sharedProvider_built hconstructed sharedViewedRun 2 "all"

end DagMlData
