import DagMlData.ArrowTables
import DagMlData.Lib.Release

/-!
# The memory of Arrow exports

An exported table is a pair of C structs, `ArrowArray` and `ArrowSchema`, on the heap. Each has a
child for every column, private data that owns its buffers or texts, and a `release` callback. The
consumer calls the callbacks, moves structs to places of its own as the interface allows, and gives
the two roots back with `dagmldata_arrow_array_free` and `dagmldata_arrow_schema_free`.

* `readTable`: the table that a consumer reads through the pointers.
* `arrowMemory`: in any order of what consumers do, nothing is freed twice or used after it was
  freed or taken for a struct of the other kind, nothing is lost, and a table is read as it was
  built until something is done to it.
-/

namespace DagMlData

open Guard RustText Release

/-! ## The structs of a table -/

/-- `ArrowArray` and `ArrowSchema`. -/
inductive ArrowKind
  | array
  | schema
deriving DecidableEq, Repr

inductive ArrowCallback
  | releaseStringArray
  | releaseBoolArray
  | releaseF64Array
  | releaseStructArray
  | releaseSchema
deriving DecidableEq, Repr

/-- The fields that a callback leaves as they are. -/
inductive ArrowHeader
  | array (length nullCount nBuffers nChildren : Nat)
  | schema (flags nChildren : Nat)
deriving DecidableEq, Repr

/-- The private data. The texts of a schema are C strings. -/
inductive ArrowPrivate
  | stringArray (validity : Option (List UInt8)) (offsets : List Nat) (values : List UInt8)
  | boolArray (values : List UInt8)
  | f64Array (validity : Option (List UInt8)) (values : List F64)
  | structArray
  | schema (format name : List UInt8)
deriving DecidableEq, Repr

abbrev ArrowSpec : Type := Spec ArrowCallback ArrowHeader ArrowPrivate

abbrev ArrowHeap : Type := Heap (Cell ArrowCallback ArrowHeader ArrowPrivate)

abbrev ArrowConsumer : Type := Consumer ArrowKind ArrowCallback ArrowHeader ArrowPrivate

def ArrowHeader.kind : ArrowHeader → ArrowKind
  | array .. => .array
  | schema .. => .schema

/-- The type of the parameter of a callback, and of the children that it frees. -/
def ArrowCallback.takes : ArrowCallback → ArrowKind
  | releaseSchema => .schema
  | _ => .array

/-- The type to which a callback casts the private data. The data of a column has no children. -/
def arrowCasts : ArrowCallback → ArrowPrivate → Nat → Bool
  | .releaseStringArray, .stringArray .., children => children == 0
  | .releaseBoolArray, .boolArray .., children => children == 0
  | .releaseF64Array, .f64Array .., children => children == 0
  | .releaseStructArray, .structArray, _ => true
  | .releaseSchema, .schema .., _ => true
  | _, _, _ => false

def arrowLayout : Layout ArrowKind ArrowCallback ArrowHeader ArrowPrivate where
  kind := ArrowHeader.kind
  takes := ArrowCallback.takes
  casts := arrowCasts

/-- A root and its columns. -/
def arrowDepth : Nat := 2

/-- `CString::new` of a text without nul. -/
def cString (text : String) : List UInt8 := bytes text ++ [0]

def ArrowColumn.spec : ArrowColumn → ArrowSpec
  | string array => .mk .releaseStringArray (.array array.length array.nullCount 3 0)
      (.stringArray array.validity array.offsets array.values) []
  | boolean array => .mk .releaseBoolArray (.array array.length array.nullCount 2 0)
      (.boolArray array.values) []
  | f64 array => .mk .releaseF64Array (.array array.length array.nullCount 2 0)
      (.f64Array array.validity array.values) []

/-- Bit 1 of the flags is for nullable. -/
def FieldSchema.spec (field : FieldSchema) (children : List ArrowSpec) : ArrowSpec :=
  .mk .releaseSchema (.schema (if field.nullable then 2 else 0) children.length)
    (.schema (cString field.format) (cString field.name)) children

namespace ArrowTable

variable (table : ArrowTable)

/-- `struct_array` of the columns. -/
def arraySpec : ArrowSpec :=
  .mk .releaseStructArray (.array table.length 0 1 table.columns.length) .structArray
    (table.columns.map ArrowColumn.spec)

/-- `struct_schema` of the fields. -/
def schemaSpec : ArrowSpec :=
  FieldSchema.spec ⟨table.name, "+s", false⟩ (table.fields.map fun field => field.spec [])

end ArrowTable

/-! ## Giving them back -/

/-- `dagmldata_arrow_array_free`. -/
def dagmldataArrowArrayFree (heap : ArrowHeap) (array : Option Nat) : Option ArrowHeap :=
  match array with
  | none => some heap
  | some array => dropBox arrowLayout arrowDepth .array heap array

/-- `dagmldata_arrow_schema_free`. -/
def dagmldataArrowSchemaFree (heap : ArrowHeap) (schema : Option Nat) : Option ArrowHeap :=
  match schema with
  | none => some heap
  | some schema => dropBox arrowLayout arrowDepth .schema heap schema

/-- Gives a struct back with the function for its pointer. -/
def giveBack (heap : ArrowHeap) (root : ArrowKind × Nat) : Option ArrowHeap :=
  match root with
  | (.array, array) => dagmldataArrowArrayFree heap (some array)
  | (.schema, schema) => dagmldataArrowSchemaFree heap (some schema)

/-! ## Reading -/

/-- `CStr::from_ptr`, as a text. -/
def readCString (raw : List UInt8) : Option String :=
  BufferFile.fromUtf8 (raw.takeWhile (· != 0))

def readColumn : ArrowSpec → Option ArrowColumn
  | .mk _ (.array length nullCount _ _) (.stringArray validity offsets values) _ =>
    some (.string ⟨length, nullCount, validity, offsets, values⟩)
  | .mk _ (.array length nullCount _ _) (.boolArray values) _ =>
    some (.boolean ⟨length, nullCount, values⟩)
  | .mk _ (.array length nullCount _ _) (.f64Array validity values) _ =>
    some (.f64 ⟨length, nullCount, validity, values⟩)
  | _ => none

def readField : ArrowSpec → Option FieldSchema
  | .mk _ (.schema flags _) (.schema format name) _ => do
    pure ⟨← readCString name, ← readCString format, decide (flags = 2)⟩
  | _ => none

/-- The table of the two structs. -/
def readStructs : ArrowSpec → ArrowSpec → Option ArrowTable
  | .mk _ (.array length _ _ _) _ columns, .mk _ _ (.schema _ name) fields => do
    pure ⟨length, ← columns.mapM readColumn, ← readCString name, ← fields.mapM readField⟩
  | _, _ => none

/-- The table that a consumer reads at two addresses. -/
def readTable (heap : ArrowHeap) (array schema : Nat) : Option ArrowTable := do
  readStructs (← read arrowDepth heap array) (← read arrowDepth heap schema)

/-! ## The tables of the builders -/

/-- The texts of the schema have no nul. -/
structure ArrowTable.NulFree (table : ArrowTable) : Prop where
  name : 0 ∉ bytes table.name
  fields : ∀ field ∈ table.fields, 0 ∉ bytes field.format ∧ 0 ∉ bytes field.name

/-- A table that one of the exports builds. -/
inductive ArrowTable.Built [ThirdParty] : ArrowTable → Prop
  | features {features : CoordinatorFeatureBlock} {table : ArrowTable} :
      features.buildFeatureArrow = .ok table → Built table
  | target {target : CoordinatorTargetBlock} {table : ArrowTable} :
      target.buildTargetArrow = .ok table → Built table
  | targets {targets : CoordinatorMultiTargetBlock} {table : ArrowTable} :
      targets.buildMultiTargetArrow = .ok table → Built table
  | identity {relations : CoordinatorRelationSet} {arrow : IdentityArrow} :
      relations.buildIdentityRelationsArrow = .ok arrow → Built arrow.asTable

theorem nulFree_of_mapM {ε α : Type}
    {f : α → Except ε (ArrowColumn × FieldSchema)} {xs : List α}
    {columns : List (ArrowColumn × FieldSchema)} (h : xs.mapM f = .ok columns)
    (hf : ∀ x column, f x = .ok column → 0 ∉ bytes column.2.format ∧
      0 ∉ bytes column.2.name) :
    ∀ field ∈ columns.map Prod.snd, 0 ∉ bytes field.format ∧ 0 ∉ bytes field.name := by
  rw [List.forall_mem_map]
  intro column hcolumn
  obtain ⟨x, -, hx⟩ := exists_left_of_forall₂ (mapM_eq_ok.mp h) hcolumn
  exact hf x column hx

/-- A field that is made has no nul. -/
theorem nulFree_fieldSchema {name format : String} {nullable : Bool} {field : FieldSchema}
    (h : fieldSchema name format nullable = .ok field) :
    0 ∉ bytes field.format ∧ 0 ∉ bytes field.name := by
  obtain ⟨hnul, rfl⟩ := fieldSchema_eq_ok.mp h
  exact hnul

theorem ArrowTable.Built.nulFree [ThirdParty] {table : ArrowTable} (h : table.Built) :
    table.NulFree := by
  cases h with
  | @features features table h =>
    simp only [CoordinatorFeatureBlock.buildFeatureArrow, bind_eq_ok, Unchecked.lift_eq_ok,
      pure_eq_ok] at h
    obtain ⟨_, -, _, -, _, hobservation, _, hsample, columns, hcolumns, root, hroot, rfl⟩ := h
    refine ⟨(nulFree_fieldSchema hroot).2, ?_⟩
    rw [List.forall_mem_cons, List.forall_mem_cons]
    refine ⟨nulFree_fieldSchema hobservation, nulFree_fieldSchema hsample,
      nulFree_of_mapM hcolumns fun feature column hcolumn => ?_⟩
    simp only [CoordinatorFeatureBlock.arrowColumn, bind_eq_ok, Unchecked.lift_eq_ok, pure_eq_ok]
      at hcolumn
    obtain ⟨_, -, field, hfield, rfl⟩ := hcolumn
    exact nulFree_fieldSchema hfield
  | @target target table h =>
    simp only [CoordinatorTargetBlock.buildTargetArrow, bind_eq_ok, pure_eq_ok] at h
    obtain ⟨_, -, _, -, _, -, _, hsample, _, htarget, _, hvalue, root, hroot, rfl⟩ := h
    refine ⟨(nulFree_fieldSchema hroot).2, ?_⟩
    simp only [List.forall_mem_cons, List.not_mem_nil, false_implies, implies_true, and_true]
    exact ⟨nulFree_fieldSchema hsample, nulFree_fieldSchema htarget, nulFree_fieldSchema hvalue⟩
  | @targets targets table h =>
    simp only [CoordinatorMultiTargetBlock.buildMultiTargetArrow, bind_eq_ok, pure_eq_ok] at h
    obtain ⟨_, -, _, -, _, hsample, columns, hcolumns, root, hroot, rfl⟩ := h
    refine ⟨(nulFree_fieldSchema hroot).2, ?_⟩
    rw [List.forall_mem_cons]
    refine ⟨nulFree_fieldSchema hsample,
      nulFree_of_mapM hcolumns fun target column hcolumn => ?_⟩
    simp only [CoordinatorMultiTargetBlock.arrowColumn, bind_eq_ok, pure_eq_ok] at hcolumn
    obtain ⟨_, -, _, -, _, -, _, -, field, hfield, rfl⟩ := hcolumn
    exact nulFree_fieldSchema hfield
  | @identity relations arrow h =>
    simp only [CoordinatorRelationSet.buildIdentityRelationsArrow, bind_eq_ok] at h
    obtain ⟨_, -, _, -, _, -, _, -, _, -, _, -, _, -, h⟩ := h
    split at h
    · obtain ⟨_, -, harrow⟩ := bind_eq_ok.mp h
      cases harrow
      constructor <;> dsimp only [IdentityArrow.asTable] <;> decide
    · cases h
      constructor <;> dsimp only [IdentityArrow.asTable] <;> decide

/-! ## What a consumer reads -/

/-- A C string is read up to its nul. -/
theorem readCString_cString {text : String} (h : 0 ∉ bytes text) :
    readCString (cString text) = some text := by
  have htake : (cString text).takeWhile (· != 0) = bytes text := by
    rw [cString, List.takeWhile_append_of_pos]
    · rw [List.takeWhile_cons_of_neg (by simp), List.append_nil]
    · intro byte hbyte
      rw [bne_iff_ne]
      rintro rfl
      exact h hbyte
  rw [readCString, htake]
  exact BufferFile.fromUtf8_eq_some.mpr rfl

theorem readColumn_spec (column : ArrowColumn) : readColumn column.spec = some column := by
  cases column <;> rfl

theorem readField_spec {field : FieldSchema}
    (h : 0 ∉ bytes field.format ∧ 0 ∉ bytes field.name)
    (children : List ArrowSpec) : readField (field.spec children) = some field := by
  obtain ⟨name, format, nullable⟩ := field
  rw [FieldSchema.spec, readField, readCString_cString h.1, readCString_cString h.2]
  cases nullable <;> rfl

theorem readStructs_spec {table : ArrowTable} (h : table.NulFree) :
    readStructs table.arraySpec table.schemaSpec = some table := by
  have hcolumns : (table.columns.map ArrowColumn.spec).mapM readColumn = some table.columns :=
    mapM_map_eq_some_self fun column _ => readColumn_spec column
  have hfields : (table.fields.map fun field => field.spec []).mapM readField = some table.fields :=
    mapM_map_eq_some_self fun field hfield => readField_spec (h.fields field hfield) []
  rw [ArrowTable.arraySpec, ArrowTable.schemaSpec, FieldSchema.spec]
  simp only [readStructs, hcolumns, hfields, readCString_cString h.name, Option.bind_eq_bind,
    Option.bind_some]
  rfl

/-! ## The structs fit their callbacks -/

theorem specs_leaves {kind : ArrowKind} {specs : List ArrowSpec}
    (h : ∀ spec ∈ specs, spec.depth = 1 ∧ spec.header.kind = kind ∧
      spec.Typed arrowLayout) :
    specsDepth specs ≤ 1 ∧ SpecsTyped arrowLayout kind specs := by
  induction specs with
  | nil => exact ⟨Nat.zero_le 1, trivial⟩
  | cons spec specs ih =>
    rw [List.forall_mem_cons] at h
    obtain ⟨hdepth, htyped⟩ := ih h.2
    rw [specsDepth, SpecsTyped]
    exact ⟨max_le h.1.1.le hdepth, h.1.2.1, h.1.2.2, htyped⟩

theorem ArrowColumn.spec_leaf (column : ArrowColumn) : column.spec.depth = 1 ∧
    column.spec.header.kind = .array ∧ column.spec.Typed arrowLayout := by
  cases column <;> exact ⟨rfl, rfl, rfl, rfl, trivial⟩

theorem ArrowTable.arraySpec_typed (table : ArrowTable) :
    table.arraySpec.depth ≤ arrowDepth ∧ table.arraySpec.Typed arrowLayout := by
  obtain ⟨hdepth, htyped⟩ := specs_leaves (List.forall_mem_map.mpr fun column _ =>
    ArrowColumn.spec_leaf column : ∀ spec ∈ table.columns.map ArrowColumn.spec, _)
  rw [arraySpec, Spec.depth, Spec.Typed]
  exact ⟨Nat.succ_le_succ hdepth, rfl, rfl, htyped⟩

theorem ArrowTable.schemaSpec_typed (table : ArrowTable) :
    table.schemaSpec.depth ≤ arrowDepth ∧ table.schemaSpec.Typed arrowLayout := by
  obtain ⟨hdepth, htyped⟩ := specs_leaves (List.forall_mem_map.mpr fun field _ =>
    ⟨rfl, rfl, rfl, rfl, trivial⟩ : ∀ spec ∈ table.fields.map fun field => field.spec [],
      spec.depth = 1 ∧ spec.header.kind = .schema ∧ spec.Typed arrowLayout)
  rw [schemaSpec, FieldSchema.spec, Spec.depth, Spec.Typed]
  exact ⟨Nat.succ_le_succ hdepth, rfl, rfl, htyped⟩

/-! ## Runs of consumers -/

/-- Every struct that the consumer takes is a root of some table. -/
def TakesTables (actions : List (Action ArrowCallback ArrowHeader ArrowPrivate)) : Prop :=
  ∀ spec, .take spec ∈ actions →
    ∃ table : ArrowTable, spec = table.arraySpec ∨ spec = table.schemaSpec

theorem TakesTables.typed {actions : List (Action ArrowCallback ArrowHeader ArrowPrivate)}
    (h : TakesTables actions) (spec : ArrowSpec) (htake : .take spec ∈ actions) :
    spec.depth ≤ arrowDepth ∧ spec.Typed arrowLayout := by
  obtain ⟨table, rfl | rfl⟩ := h spec htake
  · exact table.arraySpec_typed
  · exact table.schemaSpec_typed

theorem takesTables_schema (table : ArrowTable) : TakesTables [.take table.schemaSpec] := by
  intro spec hspec
  rw [List.mem_singleton, Action.take.injEq] at hspec
  exact ⟨table, .inr hspec⟩

/-- To give back all that a consumer holds is to free each struct as one of its kind. -/
theorem giveBack_eq (c : ArrowConsumer) :
    c.roots.foldlM giveBack c.heap = c.freeAll arrowLayout arrowDepth := by
  have heq : giveBack = fun heap root => dropBox arrowLayout arrowDepth root.1 heap root.2 := by
    funext heap root
    obtain ⟨_ | _, addr⟩ := root <;> rfl
  rw [heq]
  rfl

end DagMlData
