import Mathlib

/-!
# Text and floats as Rust has them

The parts of the Rust standard library that validators use on text and on `f64`.

* `isBlank`: `s.trim().is_empty()`, where `trim` removes Unicode `White_Space`.
* `isControl`, `isAsciiAlphanumeric`, `isAsciiHexdigit`: the `char` and `u8` predicates.
* `eqIgnoreAsciiCase`: `str::eq_ignore_ascii_case`.
* `leBytes`, `leValue`: `to_le_bytes` and `from_le_bytes` of the unsigned integers.
* `F64`: an `f64` as its 64 bits, with the predicates and the comparison that IEEE 754 gives.
* `F64.ofInt`: the nearest float of an integer, as a cast gives it.
-/

namespace RustText

/-- `char::is_whitespace`: the Unicode property `White_Space`. -/
def isWhitespace (c : Char) : Bool :=
  let n := c.toNat
  (9 ≤ n && n ≤ 13) || n == 0x20 || n == 0x85 || n == 0xA0 || n == 0x1680 ||
    (0x2000 ≤ n && n ≤ 0x200A) || n == 0x2028 || n == 0x2029 || n == 0x202F || n == 0x205F ||
    n == 0x3000

/-- `s.trim().is_empty()`. -/
def isBlank (s : String) : Bool := s.toList.all isWhitespace

/-- `char::is_control`: the Unicode category `Cc`. -/
def isControl (c : Char) : Bool :=
  let n := c.toNat
  n < 0x20 || (0x7F ≤ n && n ≤ 0x9F)

/-- The bytes of a string, as `str::bytes` gives them. -/
def bytes (s : String) : List UInt8 := s.toUTF8.data.toList

/-- `u8::is_ascii_alphanumeric`. -/
def isAsciiAlphanumeric (b : UInt8) : Bool :=
  (48 ≤ b && b ≤ 57) || (65 ≤ b && b ≤ 90) || (97 ≤ b && b ≤ 122)

/-- `u8::is_ascii_hexdigit`. -/
def isAsciiHexdigit (b : UInt8) : Bool :=
  (48 ≤ b && b ≤ 57) || (65 ≤ b && b ≤ 70) || (97 ≤ b && b ≤ 102)

/-- `u8::to_ascii_lowercase`. -/
def toAsciiLowercase (b : UInt8) : UInt8 :=
  if 65 ≤ b && b ≤ 90 then b + 32 else b

/-- `str::eq_ignore_ascii_case`. -/
def eqIgnoreAsciiCase (s t : String) : Bool :=
  (bytes s).map toAsciiLowercase == (bytes t).map toAsciiLowercase

@[simp] theorem eqIgnoreAsciiCase_self (s : String) : eqIgnoreAsciiCase s s = true := by
  simp [eqIgnoreAsciiCase]

theorem bytes_append (s t : String) : bytes (s ++ t) = bytes s ++ bytes t := by
  simp [bytes, String.toUTF8]

theorem length_bytes (s : String) : (bytes s).length = s.utf8ByteSize := by
  rfl

theorem bytes_injective : Function.Injective bytes := by
  intro s t h
  apply String.toByteArray_inj.mp
  apply ByteArray.ext
  exact Array.toList_inj.mp h

theorem bytes_eq_flatMap (s : String) : bytes s = s.toList.flatMap String.utf8EncodeChar := by
  rw [bytes, String.toUTF8, ← String.utf8Encode_toList]
  simp [List.utf8Encode]

/-! ## Little-endian numbers -/

/-- The `k` least significant bytes of `n`, least first. -/
def leBytes : Nat → Nat → List UInt8
  | 0, _ => []
  | k + 1, n => UInt8.ofNat (n % 256) :: leBytes k (n / 256)

/-- The number with the given bytes, least first. -/
def leValue : List UInt8 → Nat
  | [] => 0
  | b :: bs => b.toNat + 256 * leValue bs

@[simp] theorem length_leBytes (k n : Nat) : (leBytes k n).length = k := by
  induction k generalizing n with
  | zero => rfl
  | succ k ih => simp [leBytes, ih]

theorem leValue_leBytes {k n : Nat} (h : n < 256 ^ k) : leValue (leBytes k n) = n := by
  induction k generalizing n with
  | zero => simp [leBytes, leValue] at h ⊢; omega
  | succ k ih =>
    have hq : n / 256 < 256 ^ k := by
      rw [pow_succ'] at h
      exact Nat.div_lt_of_lt_mul h
    have hb : (UInt8.ofNat (n % 256)).toNat = n % 256 := by
      rw [UInt8.toNat_ofNat']
      omega
    rw [leBytes, leValue, ih hq, hb]
    omega

theorem leValue_lt (bs : List UInt8) : leValue bs < 256 ^ bs.length := by
  induction bs with
  | nil => simp [leValue]
  | cons b bs ih =>
    have hb : b.toNat < 256 := b.toNat_lt
    rw [leValue, List.length_cons, pow_succ']
    omega

theorem leBytes_leValue (bs : List UInt8) : leBytes bs.length (leValue bs) = bs := by
  induction bs with
  | nil => rfl
  | cons b bs ih =>
    have hb : b.toNat < 256 := b.toNat_lt
    have hdiv : (b.toNat + 256 * leValue bs) / 256 = leValue bs := by omega
    have hmod : (b.toNat + 256 * leValue bs) % 256 = b.toNat := by omega
    rw [leValue, List.length_cons, leBytes, hdiv, hmod, ih, UInt8.ofNat_toNat]

end RustText

/-- An `f64`, as its bits. -/
structure F64 where
  bits : UInt64
deriving DecidableEq, Repr

namespace F64

/-- The biased exponent. -/
def exponent (x : F64) : Nat := x.bits.toNat / 2 ^ 52 % 2 ^ 11

def mantissa (x : F64) : Nat := x.bits.toNat % 2 ^ 52

def isNegative (x : F64) : Bool := 2 ^ 63 ≤ x.bits.toNat

/-- `f64::is_finite`. -/
def isFinite (x : F64) : Bool := x.exponent != 2047

/-- `f64::is_nan`. -/
def isNan (x : F64) : Bool := x.exponent == 2047 && x.mantissa != 0

/-- The value is `0.0` or `-0.0`. -/
def isZero (x : F64) : Bool := x.exponent == 0 && x.mantissa == 0

/-- `x <= 0.0`. -/
def leZero (x : F64) : Bool := !x.isNan && (x.isNegative || x.isZero)

/-- `x == y` on floats: no NaN equals anything, and the two zeros are equal. -/
def eq (x y : F64) : Bool :=
  !x.isNan && !y.isNan && (x == y || (x.isZero && y.isZero))

/-- The place of a float among the floats: its magnitude, with its sign. -/
def signedMagnitude (x : F64) : Int :=
  if x.isNegative then 2 ^ 63 - (x.bits.toNat : Int) else x.bits.toNat

/-- `f64::partial_cmp`. -/
def partialCmp (x y : F64) : Option Ordering :=
  if x.isNan || y.isNan then none else some (compare x.signedMagnitude y.signedMagnitude)

/-- The literal `0.0`. -/
def zero : F64 := ⟨0⟩

@[simp] theorem isFinite_zero : isFinite zero = true := by decide

/-- `f64::to_le_bytes`. -/
def toLeBytes (x : F64) : List UInt8 := RustText.leBytes 8 x.bits.toNat

/-- `f64::from_le_bytes`. -/
def fromLeBytes (raw : List UInt8) : F64 := ⟨UInt64.ofNat (RustText.leValue raw)⟩

@[simp] theorem length_toLeBytes (x : F64) : x.toLeBytes.length = 8 := by
  simp [toLeBytes]

@[simp] theorem fromLeBytes_toLeBytes (x : F64) : fromLeBytes x.toLeBytes = x := by
  have hlt : x.bits.toNat < 256 ^ 8 := x.bits.toNat_lt
  rw [fromLeBytes, toLeBytes, RustText.leValue_leBytes hlt, UInt64.ofNat_toNat]

theorem toLeBytes_fromLeBytes {raw : List UInt8} (h : raw.length = 8) :
    (fromLeBytes raw).toLeBytes = raw := by
  have hlt : RustText.leValue raw < 2 ^ 64 := by
    have hbound := RustText.leValue_lt raw
    rw [h] at hbound
    exact hbound
  have hbits : (UInt64.ofNat (RustText.leValue raw)).toNat = RustText.leValue raw :=
    UInt64.toNat_ofNat_of_lt hlt
  rw [fromLeBytes, toLeBytes, hbits, ← h, RustText.leBytes_leValue]

/-! ## Integers as floats -/

/-- `n / 2 ^ shift` to the nearest, and to the even one of two that are as near. -/
def roundShift (n shift : Nat) : Nat :=
  let quotient := n / 2 ^ shift
  let rest := 2 * (n % 2 ^ shift)
  if 2 ^ shift < rest || (rest == 2 ^ shift && quotient % 2 == 1) then quotient + 1 else quotient

/-- The bits of the float that is nearest to `n`. A mantissa that rounds up to `2 ^ 53` carries
into the exponent. -/
def natBits (n : Nat) : Nat :=
  if n = 0 then 0
  else
    let e := n.log2
    let mantissa := if e ≤ 52 then n * 2 ^ (52 - e) else roundShift n (e - 52)
    (e + 1022) * 2 ^ 52 + mantissa

/-- `n as f64` for the integers that fit in 64 bits. -/
def ofInt (n : Int) : F64 :=
  ⟨UInt64.ofNat (natBits n.natAbs + if n < 0 then 2 ^ 63 else 0)⟩

example : (ofInt (2 ^ 53 + 3)).bits = 0x4340000000000002 := by decide +kernel

theorem roundShift_le {n shift : Nat} : roundShift n shift ≤ n / 2 ^ shift + 1 := by
  unfold roundShift
  simp only
  split <;> omega

theorem natBits_lt {n : Nat} (h : n < 2 ^ 64) : natBits n < 2047 * 2 ^ 52 := by
  unfold natBits
  split
  · decide
  · next hne =>
    have he : n.log2 ≤ 63 := by
      have := (Nat.log2_lt hne).mpr h
      omega
    have hn : n < 2 ^ (n.log2 + 1) := Nat.lt_log2_self
    have hm : (if n.log2 ≤ 52 then n * 2 ^ (52 - n.log2) else roundShift n (n.log2 - 52)) ≤
        2 ^ 53 := by
      split
      · next hsmall =>
        calc n * 2 ^ (52 - n.log2) ≤ 2 ^ (n.log2 + 1) * 2 ^ (52 - n.log2) :=
              Nat.mul_le_mul_right _ hn.le
          _ = 2 ^ 53 := by rw [← pow_add]; congr 1; omega
      · next hlarge =>
        have hq : n / 2 ^ (n.log2 - 52) < 2 ^ 53 := by
          rw [Nat.div_lt_iff_lt_mul (by positivity), ← pow_add]
          exact lt_of_lt_of_eq hn (by congr 1; omega)
        exact le_trans roundShift_le hq
    calc (n.log2 + 1022) * 2 ^ 52 + _ ≤ (63 + 1022) * 2 ^ 52 + 2 ^ 53 :=
          Nat.add_le_add (Nat.mul_le_mul_right _ (by omega)) hm
      _ < 2047 * 2 ^ 52 := by decide

theorem isFinite_ofInt {n : Int} (h : n.natAbs < 2 ^ 64) : (ofInt n).isFinite = true := by
  have hbits := natBits_lt h
  have hexp : (ofInt n).exponent ≠ 2047 := by
    unfold ofInt exponent
    generalize hk : (natBits n.natAbs + if n < 0 then 2 ^ 63 else 0) = k
    have hsize : k < 2 ^ 64 := by split at hk <;> omega
    have hto : (UInt64.ofNat k).toNat = k := UInt64.toNat_ofNat_of_lt hsize
    simp only [hto]
    split at hk <;> omega
  simpa [isFinite] using hexp

end F64
