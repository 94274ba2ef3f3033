import Mathlib

/-!
# Gregorian timestamps

Dates and times of day as calendars write them, and the seconds that they stand for.

* `Timestamp`: a valid date of the years 0 to 9999 with a time of day.
* `Timestamp.instant`: the seconds since the start of the year 0.
* `Timestamp.text`: the bytes of `YYYY-MM-DDThh:mm:ssZ`.
* `Timestamp.compare_text`: the order of the texts is the order in time.

The order lemmas are about numbers in positions of any size (`compare_mul_add`) and about texts of
equal length (`compare_append`).
-/

namespace Calendar

/-! ## Order by position -/

/-- A key that the numbers follow is compared first. -/
theorem compare_eq_then {key key' n n' : Nat} {rest : Ordering} (hlt : key < key' → n < n')
    (hgt : key' < key → n' < n) (heq : key = key' → compare n n' = rest) :
    compare n n' = (compare key key').then rest := by
  rcases Nat.lt_trichotomy key key' with h | h | h
  · rw [Nat.compare_eq_lt.mpr h, Nat.compare_eq_lt.mpr (hlt h), Ordering.lt_then]
  · rw [Nat.compare_eq_eq.mpr h, Ordering.eq_then, heq h]
  · rw [Nat.compare_eq_gt.mpr h, Nat.compare_eq_gt.mpr (hgt h), Ordering.gt_then]

theorem compare_add_left (k m n : Nat) : compare (k + m) (k + n) = compare m n := by
  show compareOfLessAndEq (k + m) (k + n) = compareOfLessAndEq m n
  simp only [compareOfLessAndEq, Nat.add_lt_add_iff_left, Nat.add_left_cancel_iff]

theorem mul_add_lt {high high' low low' size : Nat} (h : low < size) (hlt : high < high') :
    high * size + low < high' * size + low' := by
  have hnext : (high + 1) * size ≤ high' * size := Nat.mul_le_mul_right size hlt
  rw [Nat.succ_mul] at hnext
  omega

/-- Numbers with a high and a low part are ordered by the high part first. -/
theorem compare_mul_add {high high' low low' size : Nat} (h : low < size) (h' : low' < size) :
    compare (high * size + low) (high' * size + low') =
      (compare high high').then (compare low low') :=
  compare_eq_then (mul_add_lt h) (mul_add_lt h') fun heq => by rw [heq, compare_add_left]

/-- Texts that start with parts of equal length are ordered by these first. -/
theorem compare_append {xs xs' ys ys' : List UInt8} (h : xs.length = xs'.length) :
    compare (xs ++ ys) (xs' ++ ys') = (compare xs xs').then (compare ys ys') := by
  induction xs generalizing xs' with
  | nil =>
    rw [List.length_nil, eq_comm, List.length_eq_zero_iff] at h
    subst h
    rfl
  | cons x xs ih =>
    cases xs' with
    | nil => cases h
    | cons x' xs' =>
      rw [List.cons_append, List.cons_append, List.compare_cons_cons, List.compare_cons_cons,
        ih (Nat.succ.inj h), Ordering.then_assoc]

theorem compare_toNat (a b : UInt8) : compare a b = compare a.toNat b.toNat := by
  show compareOfLessAndEq a b = compareOfLessAndEq a.toNat b.toNat
  simp only [compareOfLessAndEq, UInt8.lt_iff_toNat_lt, UInt8.toNat_inj]

/-! ## Decimal numbers -/

/-- The last `width` decimal digits of a number, in ASCII. -/
def digits : Nat → Nat → List UInt8
  | 0, _ => []
  | width + 1, n => digits width (n / 10) ++ [UInt8.ofNat (48 + n % 10)]

@[simp] theorem length_digits (width n : Nat) : (digits width n).length = width := by
  induction width generalizing n with
  | zero => rfl
  | succ width ih => rw [digits, List.length_append, ih, List.length_singleton]

def isDigit (b : UInt8) : Bool := 48 ≤ b && b ≤ 57

theorem toNat_digit {n : Nat} (h : n < 10) : (UInt8.ofNat (48 + n)).toNat = 48 + n := by
  rw [UInt8.toNat_ofNat']
  omega

theorem isDigit_iff {b : UInt8} : isDigit b = true ↔ 48 ≤ b.toNat ∧ b.toNat ≤ 57 := by
  simp [isDigit, UInt8.le_iff_toNat_le]

theorem isDigit_of_mem_digits {width n : Nat} {b : UInt8} (h : b ∈ digits width n) :
    isDigit b = true := by
  induction width generalizing n with
  | zero => cases h
  | succ width ih =>
    rw [digits, List.mem_append, List.mem_singleton] at h
    rcases h with h | rfl
    · exact ih h
    · rw [isDigit_iff, toNat_digit (Nat.mod_lt n (by decide))]
      omega

/-- The number that decimal digits write. -/
def decimal (raw : List UInt8) : Nat := raw.foldl (fun n b => 10 * n + (b.toNat - 48)) 0

theorem decimal_concat (raw : List UInt8) (b : UInt8) :
    decimal (raw ++ [b]) = 10 * decimal raw + (b.toNat - 48) := by
  rw [decimal, List.foldl_append]
  rfl

theorem decimal_digits {width n : Nat} (h : n < 10 ^ width) : decimal (digits width n) = n := by
  induction width generalizing n with
  | zero =>
    rw [pow_zero, Nat.lt_one_iff] at h
    rw [h]
    rfl
  | succ width ih =>
    have hhigh : n / 10 < 10 ^ width := Nat.div_lt_of_lt_mul (by rwa [← pow_succ'])
    rw [digits, decimal_concat, ih hhigh, toNat_digit (Nat.mod_lt n (by decide))]
    omega

theorem digits_decimal {raw : List UInt8} (h : ∀ b ∈ raw, isDigit b = true) :
    digits raw.length (decimal raw) = raw := by
  induction raw using List.reverseRecOn with
  | nil => rfl
  | append_singleton raw b ih =>
    obtain ⟨hlow, hhigh⟩ := isDigit_iff.mp (h b (List.mem_append_right _ List.mem_cons_self))
    have hb : UInt8.ofNat (48 + (b.toNat - 48)) = b := by
      rw [Nat.add_sub_cancel' hlow, UInt8.ofNat_toNat]
    rw [List.length_append, List.length_singleton, digits, decimal_concat,
      show (10 * decimal raw + (b.toNat - 48)) / 10 = decimal raw by omega,
      show (10 * decimal raw + (b.toNat - 48)) % 10 = b.toNat - 48 by omega, hb,
      ih fun c hc => h c (List.mem_append_left _ hc)]

theorem digits_decimal_of_length {raw : List UInt8} {width : Nat} (hlength : raw.length = width)
    (h : ∀ b ∈ raw, isDigit b = true) : digits width (decimal raw) = raw :=
  hlength ▸ digits_decimal h

theorem decimal_lt {raw : List UInt8} (h : ∀ b ∈ raw, isDigit b = true) :
    decimal raw < 10 ^ raw.length := by
  induction raw using List.reverseRecOn with
  | nil => exact Nat.one_pos
  | append_singleton raw b ih =>
    obtain ⟨-, hhigh⟩ := isDigit_iff.mp (h b (List.mem_append_right _ List.mem_cons_self))
    have hraw := ih fun c hc => h c (List.mem_append_left _ hc)
    rw [decimal_concat, List.length_append, List.length_singleton, pow_succ]
    omega

/-- Numbers of one width are ordered as their digits. -/
theorem compare_digits {width m n : Nat} (hm : m < 10 ^ width) (hn : n < 10 ^ width) :
    compare (digits width m) (digits width n) = compare m n := by
  induction width generalizing m n with
  | zero =>
    rw [pow_zero, Nat.lt_one_iff] at hm hn
    rw [hm, hn]
    rfl
  | succ width ih =>
    have hm' : m / 10 < 10 ^ width := Nat.div_lt_of_lt_mul (by rwa [← pow_succ'])
    have hn' : n / 10 < 10 ^ width := Nat.div_lt_of_lt_mul (by rwa [← pow_succ'])
    have hlast : compare [UInt8.ofNat (48 + m % 10)] [UInt8.ofNat (48 + n % 10)] =
        compare (m % 10) (n % 10) := by
      rw [List.compare_cons_cons, List.compare_nil_nil, Ordering.then_eq, compare_toNat,
        toNat_digit (Nat.mod_lt m (by decide)), toNat_digit (Nat.mod_lt n (by decide)),
        compare_add_left]
    have hparts : compare (m / 10 * 10 + m % 10) (n / 10 * 10 + n % 10) =
        (compare (m / 10) (n / 10)).then (compare (m % 10) (n % 10)) :=
      compare_mul_add (Nat.mod_lt m (by decide)) (Nat.mod_lt n (by decide))
    rw [Nat.div_add_mod' m 10, Nat.div_add_mod' n 10] at hparts
    rw [digits, digits, compare_append (by rw [length_digits, length_digits]), ih hm' hn', hlast,
      hparts]

/-- A number before a separator is compared first. -/
theorem compare_part {width m n : Nat} {separator : UInt8} {rest rest' : List UInt8}
    (hm : m < 10 ^ width) (hn : n < 10 ^ width) :
    compare (digits width m ++ separator :: rest) (digits width n ++ separator :: rest') =
      (compare m n).then (compare rest rest') := by
  rw [compare_append (by rw [length_digits, length_digits]), compare_digits hm hn,
    List.compare_cons_cons, show compare separator separator = .eq from Std.ReflCmp.compare_self,
    Ordering.eq_then]

/-! ## Dates -/

def isLeap (year : Nat) : Bool := year % 4 == 0 && (year % 100 != 0 || year % 400 == 0)

/-- The days of a month, from 1 on. -/
def monthLength (year : Nat) : Nat → Nat
  | 1 => 31
  | 2 => if isLeap year then 29 else 28
  | 3 => 31
  | 4 => 30
  | 5 => 31
  | 6 => 30
  | 7 => 31
  | 8 => 31
  | 9 => 30
  | 10 => 31
  | 11 => 30
  | 12 => 31
  | _ => 0

def yearLength (year : Nat) : Nat := if isLeap year then 366 else 365

theorem monthLength_le (year month : Nat) : monthLength year month ≤ 31 := by
  unfold monthLength
  split
  any_goals split
  all_goals decide

/-- The days of the years before a year. -/
def daysBeforeYear : Nat → Nat
  | 0 => 0
  | year + 1 => daysBeforeYear year + yearLength year

/-- The days of the months of the year before a month. -/
def daysBeforeMonth (year : Nat) : Nat → Nat
  | 0 => 0
  | month + 1 => daysBeforeMonth year month + monthLength year month

theorem daysBeforeYear_mono {year year' : Nat} (h : year < year') :
    daysBeforeYear year + yearLength year ≤ daysBeforeYear year' := by
  induction h with
  | refl => exact le_rfl
  | step _ ih => exact ih.trans (Nat.le_add_right _ _)

theorem daysBeforeMonth_mono (year : Nat) {month month' : Nat} (h : month < month') :
    daysBeforeMonth year month + monthLength year month ≤ daysBeforeMonth year month' := by
  induction h with
  | refl => exact le_rfl
  | step _ ih => exact ih.trans (Nat.le_add_right _ _)

/-- The months make up the year. -/
theorem daysBeforeMonth_end (year : Nat) : daysBeforeMonth year 13 = yearLength year := by
  unfold yearLength
  cases h : isLeap year <;> simp [daysBeforeMonth, monthLength, h]

/-- A date of the years 0 to 9999 with a time of day. -/
structure Timestamp where
  year : Nat
  month : Nat
  day : Nat
  hour : Nat
  minute : Nat
  second : Nat
  year_le : year ≤ 9999
  month_pos : 1 ≤ month
  month_le : month ≤ 12
  day_pos : 1 ≤ day
  day_le : day ≤ monthLength year month
  hour_le : hour ≤ 23
  minute_le : minute ≤ 59
  second_le : second ≤ 59

namespace Timestamp

variable (t u : Timestamp)

/-- The days since the start of the year 0. -/
def dayNumber : Nat := daysBeforeYear t.year + daysBeforeMonth t.year t.month + (t.day - 1)

/-- The seconds since the start of the year 0. -/
def instant : Nat := ((t.dayNumber * 24 + t.hour) * 60 + t.minute) * 60 + t.second

/-- `YYYY-MM-DDThh:mm:ssZ`. -/
def text : List UInt8 :=
  digits 4 t.year ++ 45 :: (digits 2 t.month ++ 45 :: (digits 2 t.day ++ 84 ::
    (digits 2 t.hour ++ 58 :: (digits 2 t.minute ++ 58 :: (digits 2 t.second ++ [90])))))

/-- The order of the fields, from the year down. -/
def compareFields : Ordering :=
  (compare t.year u.year).then ((compare t.month u.month).then ((compare t.day u.day).then
    ((compare t.hour u.hour).then ((compare t.minute u.minute).then (compare t.second u.second)))))

/-- A date is before the end of its month, and of its year. -/
theorem dayNumber_lt :
    t.dayNumber < daysBeforeYear t.year + daysBeforeMonth t.year (t.month + 1) ∧
      t.dayNumber < daysBeforeYear t.year + yearLength t.year := by
  have hday : t.dayNumber < daysBeforeYear t.year + daysBeforeMonth t.year (t.month + 1) := by
    have hpos := t.day_pos
    have hle := t.day_le
    rw [dayNumber, daysBeforeMonth]
    omega
  have hmonth : daysBeforeMonth t.year (t.month + 1) ≤ daysBeforeMonth t.year 13 := by
    rcases Nat.lt_or_ge t.month 12 with hlt | hge
    · have := daysBeforeMonth_mono t.year (show t.month + 1 < 13 by omega)
      omega
    · rw [show t.month = 12 from le_antisymm t.month_le hge]
  rw [daysBeforeMonth_end] at hmonth
  exact ⟨hday, by omega⟩

theorem year_lt (h : t.year < u.year) : t.dayNumber < u.dayNumber :=
  calc t.dayNumber < daysBeforeYear t.year + yearLength t.year := t.dayNumber_lt.2
    _ ≤ daysBeforeYear u.year := daysBeforeYear_mono h
    _ ≤ u.dayNumber := by rw [dayNumber, Nat.add_assoc]; exact Nat.le_add_right _ _

theorem month_lt (hyear : t.year = u.year) (h : t.month < u.month) :
    t.dayNumber < u.dayNumber :=
  calc t.dayNumber < daysBeforeYear t.year + daysBeforeMonth t.year (t.month + 1) :=
        t.dayNumber_lt.1
    _ ≤ daysBeforeYear u.year + daysBeforeMonth u.year u.month := by
      rw [hyear]
      exact Nat.add_le_add_left (daysBeforeMonth_mono _ h) _
    _ ≤ u.dayNumber := Nat.le_add_right _ _

theorem compare_dayNumber : compare t.dayNumber u.dayNumber =
    (compare t.year u.year).then ((compare t.month u.month).then (compare t.day u.day)) := by
  refine compare_eq_then (year_lt t u) (year_lt u t) fun hyear => ?_
  refine compare_eq_then (month_lt t u hyear) (month_lt u t hyear.symm) fun hmonth => ?_
  have htpos := t.day_pos
  have hupos := u.day_pos
  have hdays : compare t.day u.day = compare (1 + (t.day - 1)) (1 + (u.day - 1)) := by
    rw [Nat.add_sub_cancel' htpos, Nat.add_sub_cancel' hupos]
  rw [hdays, compare_add_left, dayNumber, dayNumber, hyear, hmonth, compare_add_left]

/-- Time order is the order of the fields. -/
theorem compare_instant : compare t.instant u.instant = t.compareFields u := by
  have hht := t.hour_le
  have hhu := u.hour_le
  have hmt := t.minute_le
  have hmu := u.minute_le
  have hst := t.second_le
  have hsu := u.second_le
  rw [instant, instant, compare_mul_add (by omega) (by omega),
    compare_mul_add (by omega) (by omega), compare_mul_add (by omega) (by omega), compare_dayNumber]
  simp only [compareFields, Ordering.then_assoc]

/-- Text order is the order of the fields. -/
theorem compare_text_fields : compare t.text u.text = t.compareFields u := by
  have hyt := t.year_le
  have hyu := u.year_le
  have hmt := t.month_le
  have hmu := u.month_le
  have hdt := t.day_le.trans (monthLength_le t.year t.month)
  have hdu := u.day_le.trans (monthLength_le u.year u.month)
  have hht := t.hour_le
  have hhu := u.hour_le
  have hnt := t.minute_le
  have hnu := u.minute_le
  have hst := t.second_le
  have hsu := u.second_le
  rw [text, text, compare_part (by omega) (by omega), compare_part (by omega) (by omega),
    compare_part (by omega) (by omega), compare_part (by omega) (by omega),
    compare_part (by omega) (by omega), compare_part (by omega) (by omega), List.compare_nil_nil,
    Ordering.then_eq, compareFields]

/-- Text order is time order. -/
theorem compare_text : compare t.text u.text = compare t.instant u.instant := by
  rw [compare_text_fields, compare_instant]

end Timestamp

end Calendar
