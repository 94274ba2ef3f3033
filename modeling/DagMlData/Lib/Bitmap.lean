import Mathlib

/-!
# Bitmaps

Bits in bytes, the lowest bit of a byte first: bit `i` is bit `i % 8` of byte `i / 8`. Bits after
the last byte are off.
-/

namespace Bitmap

variable {bitmap : List UInt8} {idx i : Nat}

def bitAt (bitmap : List UInt8) (i : Nat) : Bool :=
  (bitmap.getD (i / 8) 0).toNat.testBit (i % 8)

/-- The bitmap with zero bytes up to the length. -/
def growTo (bitmap : List UInt8) (length : Nat) : List UInt8 :=
  bitmap ++ List.replicate (length - bitmap.length) 0

/-- The bitmap with one bit set, in a byte that it has. -/
def orBit (bitmap : List UInt8) (idx : Nat) : List UInt8 :=
  bitmap.modify (idx / 8) fun byte => byte ||| (1 <<< UInt8.ofNat (idx % 8))

@[simp] theorem length_growTo (length : Nat) :
    (growTo bitmap length).length = max bitmap.length length := by
  rw [growTo, List.length_append, List.length_replicate]
  omega

@[simp] theorem length_orBit : (orBit bitmap idx).length = bitmap.length :=
  List.length_modify ..

theorem bitAt_growTo (length : Nat) : bitAt (growTo bitmap length) i = bitAt bitmap i := by
  have hbyte : (growTo bitmap length).getD (i / 8) 0 = bitmap.getD (i / 8) 0 := by
    rw [growTo, List.getD_eq_getElem?_getD, List.getD_eq_getElem?_getD, List.getElem?_append]
    split
    · rfl
    · next h =>
      rw [List.getElem?_eq_none (Nat.le_of_not_lt h), List.getElem?_replicate]
      split <;> rfl
  rw [bitAt, hbyte, bitAt]

theorem testBit_shift : ∀ k < 8, ∀ j < 8,
    ((1 : UInt8) <<< UInt8.ofNat k).toNat.testBit j = decide (k = j) := by
  decide

theorem getD_orBit (h : idx / 8 < bitmap.length) (byte : Nat) :
    (orBit bitmap idx).getD byte 0 =
      if idx / 8 = byte then bitmap.getD byte 0 ||| (1 <<< UInt8.ofNat (idx % 8))
      else bitmap.getD byte 0 := by
  rw [orBit, List.getD_eq_getElem?_getD, List.getElem?_modify, List.getD_eq_getElem?_getD]
  split
  · next heq =>
    rw [← heq, List.getElem?_eq_getElem h]
    rfl
  · cases bitmap[byte]? <;> rfl

theorem bitAt_orBit (h : idx / 8 < bitmap.length) :
    bitAt (orBit bitmap idx) i = (decide (idx = i) || bitAt bitmap i) := by
  rw [bitAt, getD_orBit h, bitAt]
  by_cases hbyte : idx / 8 = i / 8
  · have hsame : decide (idx % 8 = i % 8) = decide (idx = i) := by
      rw [decide_eq_decide]
      omega
    rw [if_pos hbyte, UInt8.toNat_or, Nat.testBit_or, Bool.or_comm,
      testBit_shift _ (Nat.mod_lt _ (by decide)) _ (Nat.mod_lt _ (by decide)), hsame]
  · have hne : idx ≠ i := fun heq => hbyte (by rw [heq])
    rw [if_neg hbyte, decide_eq_false hne, Bool.false_or]

/-- Bits beyond the last byte are off. -/
theorem bitAt_eq_false (h : 8 * bitmap.length ≤ i) : bitAt bitmap i = false := by
  rw [bitAt, List.getD_eq_default _ _ (by omega)]
  exact Nat.zero_testBit _

end Bitmap
