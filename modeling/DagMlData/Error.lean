import DagMlData.Lib.Guard
import DagMlData.Lib.RustText

/-!
# Errors and shared text checks

`DataError` is the crate's error type with the data that its variants carry, and `Result` is
the result type that every fallible function returns. The checks on text that several modules
of the source repeat are here too.
-/

namespace DagMlData

open Guard RustText

/-- The error variants that the modelled functions return, with their payloads. -/
inductive DataError
  | invalidIdentifier (value reason : String)
  | validation (detail : String)
  | fingerprintMismatch (kind expected actual : String)
  | unknownHandle (kind : String) (handle : Nat)
  | relationBoundaryViolation (kind detail : String)
deriving DecidableEq, Repr

abbrev Result := Except DataError

/-- `usize` and `u64` hold the numbers below this bound. -/
def u64Size : Nat := 2 ^ 64

/-- `checked_mul` on `usize`. -/
def checkedMul (a b : Nat) : Option Nat := if a * b < u64Size then some (a * b) else none

/-- `checked_add` on `u64` and `usize`. -/
def checkedAdd (a b : Nat) : Option Nat := if a + b < u64Size then some (a + b) else none

theorem checkedMul_eq_some {a b c : Nat} :
    checkedMul a b = some c ↔ a * b < u64Size ∧ a * b = c := by
  simp [checkedMul]

theorem checkedAdd_eq_some {a b c : Nat} :
    checkedAdd a b = some c ↔ a + b < u64Size ∧ a + b = c := by
  simp [checkedAdd]

/-- `validate_non_empty` of the handle module. -/
def validateNonEmpty (label value : String) : Result Unit :=
  rejectIf (isBlank value) (.validation s!"{label} must not be empty")

@[simp] theorem validateNonEmpty_eq_ok {label value : String} {u : Unit} :
    validateNonEmpty label value = .ok u ↔ isBlank value = false :=
  rejectIf_eq_ok

/-- `validate_fingerprint` of the coordinator module. -/
def validateFingerprint (label value : String) : Result Unit :=
  rejectIf (value.utf8ByteSize != 64 || !(bytes value).all isAsciiHexdigit)
    (.validation s!"{label} fingerprint must be a 64-character hex digest")

/-- A 64-character hex digest. -/
def IsFingerprint (value : String) : Prop :=
  value.utf8ByteSize = 64 ∧ (bytes value).all isAsciiHexdigit = true

@[simp] theorem validateFingerprint_eq_ok {label value : String} {u : Unit} :
    validateFingerprint label value = .ok u ↔ IsFingerprint value := by
  simp [validateFingerprint, IsFingerprint]

/-- A check on an optional field: absent passes. -/
def whenSome {α : Type} (o : Option α) (check : α → Result Unit) : Result Unit :=
  match o with
  | some a => check a
  | none => .ok ()

@[simp] theorem whenSome_eq_ok {α : Type} {o : Option α} {check : α → Result Unit} {u : Unit} :
    whenSome o check = .ok u ↔ ∀ a, o = some a → check a = .ok () := by
  cases o <;> simp [whenSome]

@[simp] theorem whenSome_error_eq_ok {α : Type} {o : Option α} {e : α → DataError} {u : Unit} :
    (whenSome o fun a => .error (e a)) = .ok u ↔ o = none := by
  cases o <;> simp [whenSome]

end DagMlData
