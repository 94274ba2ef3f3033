import Mathlib

/-!
# Decimal texts of unsigned integers

`Decimal.parse` reads an unsigned integer of bounded size from a text, as `str::parse` does: an
optional plus sign, then digits, the value below the bound.

* `parse_eq_some`: the texts that are read as a number.
* `parse_repr`: the printed number is read back.
* `parse_eq_some_iff_zeros`: the other spellings of a number put a plus sign and zeros before it.
-/

namespace Decimal

/-- Every character is a digit. -/
def Digits (cs : List Char) : Prop := ∀ c ∈ cs, c.isDigit = true

/-- The digits after a number that was read already. -/
def parseDigits (bound : Nat) : Nat → List Char → Option Nat
  | n, [] => some n
  | n, c :: cs =>
    let next := 10 * n + (c.toNat - '0'.toNat)
    if c.isDigit && decide (next < bound) then parseDigits bound next cs else none

/-- Reads a number below the bound. -/
def parse (bound : Nat) (text : String) : Option Nat :=
  match text.toList with
  | [] => none
  | ['+'] => none
  | '+' :: digits => parseDigits bound 0 digits
  | digits => parseDigits bound 0 digits

/-! ## Values -/

theorem le_ofDigitChars (n : Nat) (cs : List Char) : n ≤ Nat.ofDigitChars 10 cs n := by
  rw [Nat.ofDigitChars_eq_ofDigitChars_zero]
  have hpos : 0 < 10 ^ cs.length := by positivity
  have hle : n ≤ 10 ^ cs.length * n := Nat.le_mul_of_pos_left n hpos
  omega

/-- The digits are read up to a value below the bound. -/
theorem parseDigits_eq_some {bound n m : Nat} (hn : n < bound) {cs : List Char} :
    parseDigits bound n cs = some m ↔ Digits cs ∧
      Nat.ofDigitChars 10 cs n = m ∧ m < bound := by
  induction cs generalizing n with
  | nil =>
    simp only [parseDigits, Option.some.injEq, Nat.ofDigitChars_nil, Digits, List.not_mem_nil,
      false_implies, implies_true, true_and]
    exact ⟨fun h => ⟨h, h ▸ hn⟩, fun h => h.1⟩
  | cons c cs ih =>
    rw [parseDigits, Nat.ofDigitChars_cons]
    simp only [Digits, List.forall_mem_cons]
    constructor
    · intro h
      split at h
      · next hboth =>
        obtain ⟨hdigit, hlt⟩ := Bool.and_eq_true_iff.mp hboth
        obtain ⟨hdigits, hvalue, hbound⟩ := (ih (of_decide_eq_true hlt)).mp h
        exact ⟨⟨hdigit, hdigits⟩, hvalue, hbound⟩
      · cases h
    · rintro ⟨⟨hdigit, hdigits⟩, hvalue, hbound⟩
      -- The numbers on the way are below the value.
      have hlt : 10 * n + (c.toNat - '0'.toNat) < bound :=
        (hvalue ▸ le_ofDigitChars _ cs).trans_lt hbound
      rw [if_pos (Bool.and_eq_true_iff.mpr ⟨hdigit, decide_eq_true hlt⟩)]
      exact (ih hlt).mpr ⟨hdigits, hvalue, hbound⟩

/-- The spellings of a number: digits with its value, after a plus sign or not. -/
theorem parse_eq_some {bound n : Nat} (hpos : 0 < bound) {text : String} :
    parse bound text = some n ↔ n < bound ∧ ∃ digits, digits ≠ [] ∧ Digits digits ∧
      Nat.ofDigitChars 10 digits 0 = n ∧
        (text.toList = digits ∨ text.toList = '+' :: digits) := by
  unfold parse
  -- Without a digit there is no number, and a plus sign is no digit.
  have hplus : ∀ digits, ¬Digits ('+' :: digits) := fun digits h =>
    absurd (h '+' List.mem_cons_self) (by decide)
  split
  · next hnil => simp +contextual [hnil]
  · next hsign =>
    rw [hsign]
    constructor
    · exact fun h => by cases h
    · rintro ⟨-, digits, hne, hdigits, -, rfl | heq⟩
      · exact absurd hdigits (hplus [])
      · cases heq
        exact absurd rfl hne
  · next digits hne hsign =>
    rw [parseDigits_eq_some hpos, hsign]
    constructor
    · rintro ⟨hdigits, hvalue, hlt⟩
      exact ⟨hlt, digits, hne, hdigits, hvalue, .inr rfl⟩
    · rintro ⟨hlt, digits', -, hdigits, hvalue, rfl | heq⟩
      · exact absurd hdigits (hplus digits)
      · cases heq
        exact ⟨hdigits, hvalue, hlt⟩
  · next hnil _ hsign =>
    rw [parseDigits_eq_some hpos]
    constructor
    · rintro ⟨hdigits, hvalue, hlt⟩
      exact ⟨hlt, _, hnil, hdigits, hvalue, .inl rfl⟩
    · rintro ⟨hlt, digits, -, hdigits, hvalue, heq | heq⟩
      · exact heq ▸ ⟨hdigits, hvalue, hlt⟩
      · exact absurd heq (hsign digits)

theorem digits_repr (n : Nat) : Digits n.repr.toList := by
  rw [Nat.toList_repr]
  exact fun c hc => Nat.isDigit_of_mem_toDigits (by decide) (by decide) hc

/-- The printed number is read back. -/
theorem parse_repr {bound n : Nat} (h : n < bound) : parse bound n.repr = some n := by
  refine (parse_eq_some (Nat.zero_lt_of_lt h)).mpr
    ⟨h, n.repr.toList, ?_, digits_repr n, ?_, .inl rfl⟩
  · rw [Nat.toList_repr]
    exact Nat.toDigits_ne_nil
  · rw [Nat.toList_repr]
    exact Nat.ofDigitChars_ten_toDigits

/-! ## Other spellings -/

theorem isDigit_toNat {c : Char} (h : c.isDigit = true) : 48 ≤ c.toNat ∧ c.toNat < 58 := by
  simp only [Char.isDigit, Bool.and_eq_true, decide_eq_true_eq, ge_iff_le,
    UInt32.le_iff_toNat_le] at h
  exact ⟨h.1, Nat.lt_succ_of_le h.2⟩

theorem ofDigitChars_lt {cs : List Char} (h : Digits cs) :
    Nat.ofDigitChars 10 cs 0 < 10 ^ cs.length := by
  induction cs with
  | nil => simp
  | cons c cs ih =>
    obtain ⟨hdigit, hdigits⟩ := List.forall_mem_cons.mp h
    have hc := isDigit_toNat hdigit
    have hrest := ih hdigits
    have hle : 10 ^ cs.length * (c.toNat - '0'.toNat) ≤ 10 ^ cs.length * 9 :=
      Nat.mul_le_mul_left _ (by simp only [Char.reduceToNat]; omega)
    rw [Nat.ofDigitChars_cons, Nat.ofDigitChars_eq_ofDigitChars_zero, List.length_cons, pow_succ,
      Nat.mul_zero, Nat.zero_add]
    omega

/-- Digits of the same length with the same value are the same. -/
theorem digits_inj {cs ds : List Char} (hcs : Digits cs) (hds : Digits ds)
    (hlength : cs.length = ds.length)
    (hvalue : Nat.ofDigitChars 10 cs 0 = Nat.ofDigitChars 10 ds 0) : cs = ds := by
  induction cs generalizing ds with
  | nil => exact (List.eq_nil_of_length_eq_zero hlength.symm).symm
  | cons c cs ih =>
    cases ds with
    | nil => cases hlength
    | cons d ds =>
      have hlen := Nat.succ.inj hlength
      obtain ⟨hc, hcs⟩ := List.forall_mem_cons.mp hcs
      obtain ⟨hd, hds⟩ := List.forall_mem_cons.mp hds
      simp only [Nat.ofDigitChars_cons, Nat.mul_zero, Nat.zero_add] at hvalue
      rw [Nat.ofDigitChars_eq_ofDigitChars_zero, Nat.ofDigitChars_eq_ofDigitChars_zero (l := ds),
        ← hlen] at hvalue
      -- The first digit is the quotient, and the others are the remainder.
      have hfirst : c.toNat - '0'.toNat = d.toNat - '0'.toNat := by
        have hlt := ofDigitChars_lt hcs
        have hlt' := ofDigitChars_lt hds
        rw [← hlen] at hlt'
        have hdiv := congrArg (· / 10 ^ cs.length) hvalue
        simpa only [Nat.mul_add_div (Nat.pow_pos (by decide : 0 < 10)), Nat.div_eq_of_lt hlt,
          Nat.div_eq_of_lt hlt', Nat.add_zero] using hdiv
      have hchar : c = d := by
        have hc' := isDigit_toNat hc
        have hd' := isDigit_toNat hd
        simp only [Char.reduceToNat] at hfirst
        exact Char.toNat_inj.mp (by omega)
      rw [hfirst, Nat.add_left_cancel_iff] at hvalue
      rw [hchar, ih hcs hds hlen hvalue]

/-- The digits of a value are its printed digits after some zeros. -/
theorem digits_eq {n : Nat} {cs : List Char} (hne : cs ≠ []) (hcs : Digits cs)
    (hvalue : Nat.ofDigitChars 10 cs 0 = n) :
      ∃ k, cs = List.replicate k '0' ++ n.repr.toList := by
  have hlength : n.repr.toList.length ≤ cs.length := by
    rw [Nat.toList_repr, Nat.length_toDigits_le_iff (by decide) (List.length_pos_iff.mpr hne),
      ← hvalue]
    exact ofDigitChars_lt hcs
  refine ⟨cs.length - n.repr.toList.length, digits_inj hcs ?_ ?_ ?_⟩
  · intro c hc
    rcases List.mem_append.mp hc with hzero | hdigit
    · rw [List.eq_of_mem_replicate hzero]
      rfl
    · exact digits_repr n c hdigit
  · rw [List.length_append, List.length_replicate]
    omega
  · rw [hvalue, Nat.ofDigitChars_append, Nat.ofDigitChars_replicate_zero, Nat.mul_zero,
      Nat.toList_repr, Nat.ofDigitChars_ten_toDigits]

/-- Every spelling of a number is the printed number, with zeros and a plus sign before it. -/
theorem parse_eq_some_iff_zeros {bound n : Nat} (hpos : 0 < bound) {text : String} :
    parse bound text = some n ↔ n < bound ∧
      ∃ k, text.toList = List.replicate k '0' ++ n.repr.toList ∨
      text.toList = '+' :: (List.replicate k '0' ++ n.repr.toList) := by
  rw [parse_eq_some hpos]
  constructor
  · rintro ⟨hlt, digits, hne, hdigits, hvalue, htext⟩
    obtain ⟨k, hk⟩ := digits_eq hne hdigits hvalue
    exact ⟨hlt, k, hk ▸ htext⟩
  · rintro ⟨hlt, k, htext⟩
    refine ⟨hlt, List.replicate k '0' ++ n.repr.toList, ?_, fun c hc => ?_, ?_, htext⟩
    · rw [Nat.toList_repr]
      simp
    · rcases List.mem_append.mp hc with hzero | hdigit
      · rw [List.eq_of_mem_replicate hzero]
        rfl
      · exact digits_repr n c hdigit
    · rw [Nat.ofDigitChars_append, Nat.ofDigitChars_replicate_zero, Nat.mul_zero,
        Nat.toList_repr, Nat.ofDigitChars_ten_toDigits]

end Decimal
