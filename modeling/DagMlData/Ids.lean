import DagMlData.Error

/-!
# Identifiers

The macro `define_id` of the source makes nine identifier types with one body. Here they are
one type `Ident` with the kind as a parameter: a value carries the proof that it passed
`validate_identifier`, so an invalid identifier cannot be built. Identifiers are ordered by
their text, as the derived `Ord` of the source orders them.
-/

namespace DagMlData

open Guard RustText

/-- The bytes that an identifier may have. -/
def isIdentifierByte (b : UInt8) : Bool :=
  isAsciiAlphanumeric b || b == 95 || b == 45 || b == 46

/-- `validate_identifier`. -/
def validateIdentifier (value : String) : Result Unit := do
  rejectIf (value.utf8ByteSize == 0) (.invalidIdentifier value "identifier is empty")
  rejectIf (value.utf8ByteSize > 128)
    (.invalidIdentifier value "identifier is longer than 128 bytes")
  rejectIf (!(bytes value).all isIdentifierByte)
    (.invalidIdentifier value "identifier contains unsupported characters")

inductive IdKind
  | sample
  | source
  | representation
  | type
  | observation
  | target
  | group
  | origin
  | repetition
deriving DecidableEq, Repr

/-- An identifier of the given kind. -/
structure Ident (kind : IdKind) where
  value : String
  valid : validateIdentifier value = .ok ()

abbrev SampleId := Ident .sample
abbrev SourceId := Ident .source
abbrev RepresentationId := Ident .representation
abbrev TypeId := Ident .type
abbrev ObservationId := Ident .observation
abbrev TargetId := Ident .target
abbrev GroupId := Ident .group
abbrev OriginId := Ident .origin
abbrev RepetitionId := Ident .repetition

/-- The constructor `new` of every identifier type. -/
def Ident.new (kind : IdKind) (value : String) : Result (Ident kind) :=
  match h : validateIdentifier value with
  | .ok () => .ok ⟨value, h⟩
  | .error e => .error e

variable {kind : IdKind}

theorem validateIdentifier_of_isOk {value : String}
    (h : true = (validateIdentifier value).isOk) : validateIdentifier value = .ok () := by
  cases hvalue : validateIdentifier value with
  | error e => rw [hvalue] at h; cases h
  | ok u => rfl

/-- An identifier that is written out. -/
abbrev Ident.lit (value : String) (h : true = (validateIdentifier value).isOk) : Ident kind :=
  ⟨value, validateIdentifier_of_isOk h⟩

theorem Ident.ext_value {a b : Ident kind} (h : a.value = b.value) : a = b := by
  cases a
  cases b
  cases h
  rfl

theorem Ident.value_injective : Function.Injective (Ident.value : Ident kind → String) :=
  fun _ _ => Ident.ext_value

instance : DecidableEq (Ident kind) := fun a b =>
  decidable_of_iff (a.value = b.value) ⟨Ident.ext_value, fun h => h ▸ rfl⟩

instance : LawfulBEq (Ident kind) := inferInstance

instance : Ord (Ident kind) := ⟨fun a b => compare a.value b.value⟩

instance : Std.TransOrd (Ident kind) where
  eq_swap {a b} := @Std.OrientedCmp.eq_swap String compare _ a.value b.value
  isLE_trans {a b c} := @Std.TransCmp.isLE_trans String compare _ a.value b.value c.value

instance : Std.LawfulEqOrd (Ident kind) where
  compare_self {a} := @Std.ReflCmp.compare_self String compare _ a.value
  eq_of_compare h := Ident.ext_value (Std.LawfulEqOrd.eq_of_compare h)

instance : ToString (Ident kind) := ⟨Ident.value⟩

@[simp] theorem Ident.new_value (a : Ident kind) : Ident.new kind a.value = .ok a := by
  unfold Ident.new
  split
  · rfl
  · next h => rw [a.valid] at h; cases h

theorem Ident.new_eq_ok {value : String} {a : Ident kind} :
    Ident.new kind value = .ok a ↔ a.value = value := by
  constructor
  · intro h
    unfold Ident.new at h
    split at h
    · cases h; rfl
    · cases h
  · rintro rfl
    exact Ident.new_value a

theorem validateIdentifier_eq_ok {value : String} {u : Unit} :
    validateIdentifier value = .ok u ↔
      0 < value.utf8ByteSize ∧ value.utf8ByteSize ≤ 128 ∧
        (bytes value).all isIdentifierByte = true := by
  simp [validateIdentifier, Nat.pos_iff_ne_zero]

end DagMlData
