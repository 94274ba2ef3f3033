import DagMlData.Error
import DagMlData.Fingerprint

/-!
# The error taxonomy

Every error has a category and a code, once as names for the descriptor and once as the two halves
of a number. The C ABI adds one code of its own, for arguments that never reach the core.

* `sameKind_iff_names`, `sameKind_iff_code`: the two forms tell the same errors apart, which are the
  variants of the enumeration.
* `errorCode_ne`: no error has the code that means no error, or that of the C ABI.
-/

namespace DagMlData

/-- `DataError` in the source: the errors of the modelled functions, and the variants that only
other code returns. -/
inductive CoreError
  | data (e : DataError)
  | incompatibleReducer (reducer task : String)
  | signalTypeMismatch (expected actual : String)
  | serialization (detail : String)
deriving DecidableEq, Repr

structure DataErrorDescriptor where
  category : String
  code : String
  severity : String
  message : String
  remediationHint : String
  context : BTreeMap String Json

/-- `DataErrorDescriptor` as JSON: the fields in the order of the struct. -/
def DataErrorDescriptor.toJson (descriptor : DataErrorDescriptor) : Json :=
  .object
    [("category", .string descriptor.category),
      ("code", .string descriptor.code),
      ("severity", .string descriptor.severity),
      ("message", .string descriptor.message),
      ("remediation_hint", .string descriptor.remediationHint),
      ("context", .object descriptor.context.toList)]

namespace CoreError

/-- `to_string`. -/
def message : CoreError → String
  | .data (.invalidIdentifier value reason) => s!"invalid identifier `{value}`: {reason}"
  | .data (.validation detail) => s!"data contract validation failed: {detail}"
  | .data (.fingerprintMismatch kind expected actual) =>
    s!"{kind} fingerprint mismatch: expected {expected}, actual {actual}"
  | .data (.unknownHandle kind handle) => s!"unknown {kind} handle `{handle}`"
  | .data (.relationBoundaryViolation kind detail) =>
    s!"relation boundary violation ({kind}): {detail}"
  | .incompatibleReducer reducer task =>
    s!"aggregation reducer `{reducer}` is incompatible with a {task} task"
  | .signalTypeMismatch expected actual =>
    s!"signal type mismatch: expected {expected}, actual {actual}"
  | .serialization detail => s!"serialization error: {detail}"

/-- `taxonomy_parts`: the category, the code and the severity. -/
def taxonomyParts : CoreError → String × String × String
  | .data (.invalidIdentifier ..) => ("validation", "invalid_identifier", "error")
  | .data (.validation ..) => ("data", "data_contract_validation", "error")
  | .data (.fingerprintMismatch ..) => ("compatibility", "fingerprint_mismatch", "error")
  | .data (.unknownHandle ..) => ("runtime", "unknown_handle", "error")
  | .data (.relationBoundaryViolation ..) => ("data", "relation_boundary_violation", "error")
  | .incompatibleReducer .. => ("data", "incompatible_reducer", "error")
  | .signalTypeMismatch .. => ("compatibility", "signal_type_mismatch", "error")
  | .serialization .. => ("compatibility", "serialization_error", "error")

def category (e : CoreError) : String := e.taxonomyParts.1

def code (e : CoreError) : String := e.taxonomyParts.2.1

def severity (e : CoreError) : String := e.taxonomyParts.2.2

/-- `numeric_taxonomy`: the ids of the category and of the code in it. -/
def numericTaxonomy : CoreError → UInt16 × UInt16
  | .data (.invalidIdentifier ..) => (0, 1)
  | .data (.validation ..) => (2, 1)
  | .data (.relationBoundaryViolation ..) => (2, 2)
  | .incompatibleReducer .. => (2, 3)
  | .data (.unknownHandle ..) => (1, 1)
  | .data (.fingerprintMismatch ..) => (8, 2)
  | .signalTypeMismatch .. => (8, 3)
  | .serialization .. => (8, 1)

/-- The category in the high half, the code in the low half. -/
def packCode (ids : UInt16 × UInt16) : UInt32 := (ids.1.toUInt32 <<< 16) ||| ids.2.toUInt32

/-- `error_code`. -/
def errorCode (e : CoreError) : UInt32 := packCode e.numericTaxonomy

/-- `remediation_hint`. -/
def remediationHint : CoreError → String
  | .data (.invalidIdentifier ..) =>
    "Use a non-empty stable identifier that matches the dag-ml-data identifier grammar."
  | .data (.validation ..) =>
    "Fix the data contract inputs, schema, handles or coordinator request before retrying."
  | .data (.fingerprintMismatch ..) =>
    "Recompute the fingerprint from the current schema, plan, relations or fitted-adapter " ++
      "parameters, or replay against the contract version that produced it."
  | .data (.unknownHandle ..) =>
    "Use a live handle returned by materialize/make_view; released or never-issued handles " ++
      "cannot be reused."
  | .data (.relationBoundaryViolation ..) =>
    "Keep every repetition group and augmentation origin within a single fold; the supplied " ++
      "fold set leaks across the train/validation boundary."
  | .incompatibleReducer .. =>
    "The `vote` reducer aggregates classification predictions only; use a numeric reducer " ++
      "(mean, weighted_mean, median, robust_mean, exclude_outliers) or a custom reducer for a " ++
      "regression task."
  | .signalTypeMismatch .. =>
    "Convert the data to the expected signal type (e.g. convert_to_absorbance) before " ++
      "materialize or predict; a trained pipeline must be applied to the signal type it recorded."
  | .serialization .. =>
    "Check that the JSON payload matches the supported dag-ml-data contract version."

/-- `context`. -/
def context : CoreError → BTreeMap String Json
  | .data (.invalidIdentifier value reason) =>
    .collect [("value", .string value), ("reason", .string reason)]
  | .data (.validation detail) => .collect [("detail", .string detail)]
  | .data (.fingerprintMismatch kind expected actual) =>
    .collect [("kind", .string kind), ("expected", .string expected), ("actual", .string actual)]
  | .data (.unknownHandle kind handle) =>
    .collect [("kind", .string kind), ("handle", .number (.int handle))]
  | .data (.relationBoundaryViolation kind detail) =>
    .collect [("kind", .string kind), ("detail", .string detail)]
  | .incompatibleReducer reducer task =>
    .collect [("reducer", .string reducer), ("task", .string task)]
  | .signalTypeMismatch expected actual =>
    .collect [("expected", .string expected), ("actual", .string actual)]
  | .serialization detail => .collect [("detail", .string detail)]

/-- `descriptor`. -/
def descriptor (e : CoreError) : DataErrorDescriptor where
  category := e.category
  code := e.code
  severity := e.severity
  message := e.message
  remediationHint := e.remediationHint
  context := e.context

/-- `descriptor_json`. Texts and integers always print. -/
def descriptorJson [ThirdParty] (e : CoreError) : String := e.descriptor.toJson.compact

/-! ## The two forms of the taxonomy -/

/-- The errors are of one variant of the enumeration. -/
def SameKind : CoreError → CoreError → Prop
  | .data (.invalidIdentifier ..), .data (.invalidIdentifier ..) => True
  | .data (.validation ..), .data (.validation ..) => True
  | .data (.fingerprintMismatch ..), .data (.fingerprintMismatch ..) => True
  | .data (.unknownHandle ..), .data (.unknownHandle ..) => True
  | .data (.relationBoundaryViolation ..), .data (.relationBoundaryViolation ..) => True
  | .incompatibleReducer .., .incompatibleReducer .. => True
  | .signalTypeMismatch .., .signalTypeMismatch .. => True
  | .serialization .., .serialization .. => True
  | _, _ => False

theorem sameKind_iff_names (e f : CoreError) :
    e.SameKind f ↔ e.category = f.category ∧ e.code = f.code := by
  rcases e with (_ | _ | _ | _ | _) | _ | _ | _ <;>
    rcases f with (_ | _ | _ | _ | _) | _ | _ | _ <;>
    simp [SameKind, category, code, taxonomyParts]

theorem toNat_packCode (ids : UInt16 × UInt16) :
    (packCode ids).toNat = ids.1.toNat * 2 ^ 16 + ids.2.toNat := by
  have hlow := ids.2.toNat_lt
  have hhigh := ids.1.toNat_lt
  unfold packCode
  simp only [UInt32.toNat_or, UInt32.toNat_shiftLeft, UInt16.toNat_toUInt32]
  show ids.1.toNat <<< 16 % 2 ^ 32 ||| ids.2.toNat = _
  rw [Nat.mod_eq_of_lt (by rw [Nat.shiftLeft_eq]; omega),
    ← Nat.shiftLeft_add_eq_or_of_lt hlow, Nat.shiftLeft_eq]

theorem packCode_inj {ids others : UInt16 × UInt16} :
    packCode ids = packCode others ↔ ids = others := by
  refine ⟨fun h => ?_, fun h => h ▸ rfl⟩
  have hnat := congrArg UInt32.toNat h
  rw [toNat_packCode, toNat_packCode] at hnat
  have hlow := ids.2.toNat_lt
  have hlow' := others.2.toNat_lt
  exact Prod.ext (UInt16.toNat_inj.mp (by omega)) (UInt16.toNat_inj.mp (by omega))

theorem sameKind_iff_code (e f : CoreError) : e.SameKind f ↔ e.errorCode = f.errorCode := by
  unfold errorCode
  rw [packCode_inj]
  rcases e with (_ | _ | _ | _ | _) | _ | _ | _ <;>
    rcases f with (_ | _ | _ | _ | _) | _ | _ | _ <;>
    simp [SameKind, numericTaxonomy]

/-- No error has the code that means no error, or that of the C ABI. -/
theorem errorCode_ne (e : CoreError) : e.errorCode ≠ 0 ∧ e.errorCode ≠ 0x0000FFFF := by
  have hzero : (0 : UInt32) = packCode (0, 0) := rfl
  have hargument : (0x0000FFFF : UInt32) = packCode (0, 0xFFFF) := rfl
  unfold errorCode
  rw [hzero, hargument, ne_eq, ne_eq, packCode_inj, packCode_inj]
  rcases e with (_ | _ | _ | _ | _) | _ | _ | _ <;> simp [numericTaxonomy]

end CoreError

/-! ## The errors of the C ABI -/

/-- What a call of the C ABI reports: an argument that it refuses itself, or an error of the
core. -/
inductive AbiError
  | argument (message : String)
  | core (e : CoreError)
deriving DecidableEq, Repr

/-- `C_ABI_ARGUMENT_ERROR_CODE`. -/
def cAbiArgumentErrorCode : UInt32 := 0x0000FFFF

/-- `c_abi_argument_descriptor`: an object of `json!`, whose keys are sorted. -/
def cAbiArgumentDescriptor [ThirdParty] (message : String) : String :=
  Json.compact <| .object
    [("category", .string "validation"),
      ("code", .string "c_abi_argument"),
      ("context", .object [("detail", .string message)]),
      ("message", .string message),
      ("remediation_hint",
        .string "Pass valid, non-null arguments that satisfy the C ABI contract."),
      ("severity", .string "error")]

namespace AbiError

def errorCode : AbiError → UInt32
  | .argument _ => cAbiArgumentErrorCode
  | .core e => e.errorCode

/-- The text that is stored and handed out for the error. -/
def payload [ThirdParty] : AbiError → String
  | .argument message => cAbiArgumentDescriptor message
  | .core e => e.descriptorJson

/-- Both are refused by the C ABI, or both are of one variant. -/
def SameKind : AbiError → AbiError → Prop
  | .argument _, .argument _ => True
  | .core e, .core f => e.SameKind f
  | _, _ => False

end AbiError

namespace AbiError

theorem errorCode_ne_zero (e : AbiError) : e.errorCode ≠ 0 := by
  cases e with
  | argument message => simp [errorCode, cAbiArgumentErrorCode]
  | core e => exact e.errorCode_ne.1

/-- The code tells what kind of error it is. -/
theorem sameKind_iff_code (e f : AbiError) : e.SameKind f ↔ e.errorCode = f.errorCode := by
  cases e with
  | argument message =>
    cases f with
    | argument _ => simp [SameKind, errorCode]
    | core f => simpa [SameKind, errorCode, cAbiArgumentErrorCode] using f.errorCode_ne.2.symm
  | core e =>
    cases f with
    | argument _ => simpa [SameKind, errorCode, cAbiArgumentErrorCode] using e.errorCode_ne.2
    | core f => exact e.sameKind_iff_code f

end AbiError

end DagMlData
