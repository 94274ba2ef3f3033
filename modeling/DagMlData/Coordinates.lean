import DagMlData.Fingerprint
import DagMlData.Lib.Calendar

/-!
# Axis coordinates

`CoordinateSpec` and its checks: the coordinates of an axis as a list of values or as a regular
grid, numbers, labels or points in time.

* `isRfc3339UtcSeconds_iff`: the byte parser accepts exactly the texts of timestamps.
* `requireStrictlyMonotonic_eq_ok`: the check of neighbours is a statement about all pairs.
* `coordinateSpec_datetime_monotonic`: the points in time of an ordered coordinate are in strict
  order of time, up or down.
-/

namespace DagMlData

open Calendar Guard RustText

/-! ## Timestamps -/

/-- One step of `u32::from_str`. -/
def parseDigit (n : Nat) (b : UInt8) : Option Nat :=
  if isDigit b && decide (n * 10 + (b.toNat - 48) < 2 ^ 32) then
    some (n * 10 + (b.toNat - 48))
  else none

/-- `str::parse::<u32>`. -/
def parseU32 (raw : List UInt8) : Option Nat :=
  match raw with
  | [] => none
  | b :: rest =>
    -- A plus sign may stand before the digits.
    if b = 43 then
      if rest.isEmpty then none else rest.foldlM parseDigit 0
    else (b :: rest).foldlM parseDigit 0

/-- `days_in_month` of the parser, for the months from 1 to 12. -/
def daysInMonth (leap : Bool) : Nat → Nat
  | 1 | 3 | 5 | 7 | 8 | 10 | 12 => 31
  | 4 | 6 | 9 | 11 => 30
  | 2 => if leap then 29 else 28
  | _ => 0

/-- `field` of the parser. -/
def timestampField (raw : List UInt8) (start stop : Nat) : Nat :=
  (parseU32 (raw.extract start stop)).getD (2 ^ 32 - 1)

/-- `is_rfc3339_utc_seconds`. -/
def isRfc3339UtcSeconds (value : String) : Bool :=
  let raw := bytes value
  if raw.length != 20 then false
  else if [0, 1, 2, 3, 5, 6, 8, 9, 11, 12, 14, 15, 17, 18].any fun position =>
      !isDigit (raw.getD position 0) then false
  else if raw.getD 4 0 != '-'.toUInt8 || raw.getD 7 0 != '-'.toUInt8 ||
      raw.getD 10 0 != 'T'.toUInt8 || raw.getD 13 0 != ':'.toUInt8 ||
      raw.getD 16 0 != ':'.toUInt8 || raw.getD 19 0 != 'Z'.toUInt8 then false
  else
    let year := timestampField raw 0 4
    let month := timestampField raw 5 7
    let day := timestampField raw 8 10
    let hour := timestampField raw 11 13
    let minute := timestampField raw 14 16
    let second := timestampField raw 17 19
    if !(1 ≤ month && month ≤ 12) || decide (23 < hour) || decide (59 < minute) ||
        decide (59 < second) then false
    else
      let leap := year % 4 == 0 && (year % 100 != 0 || year % 400 == 0)
      1 ≤ day && day ≤ daysInMonth leap month

/-- `str::cmp`. -/
def compareStr (left right : String) : Ordering := compare (bytes left) (bytes right)

example : isRfc3339UtcSeconds "2024-02-29T23:59:59Z" = true := by decide +kernel

example : isRfc3339UtcSeconds "2023-02-29T00:00:00Z" = false := by decide +kernel

/-- A number of digits is read as the number that they write. -/
theorem foldlM_parseDigit {raw : List UInt8} (h : ∀ b ∈ raw, isDigit b = true)
    (hlength : raw.length ≤ 9) : raw.foldlM parseDigit 0 = some (decimal raw) := by
  induction raw using List.reverseRecOn with
  | nil => rfl
  | append_singleton raw b ih =>
    have hlt : decimal (raw ++ [b]) < 10 ^ 9 :=
      (decimal_lt h).trans_le (Nat.pow_le_pow_right (by decide) hlength)
    have hraw : raw.foldlM parseDigit 0 = some (decimal raw) := by
      rw [List.length_append] at hlength
      exact ih (fun c hc => h c (List.mem_append_left _ hc)) (by omega)
    rw [decimal_concat] at hlt ⊢
    rw [List.foldlM_append, hraw]
    have hb := h b (List.mem_append_right _ List.mem_cons_self)
    have hstep : parseDigit (decimal raw) b = some (10 * decimal raw + (b.toNat - 48)) := by
      have hbound : decide (10 * decimal raw + (b.toNat - 48) < 2 ^ 32) = true :=
        decide_eq_true (hlt.trans (by decide))
      rw [parseDigit, Nat.mul_comm, hb, hbound]
      rfl
    simp [hstep]

theorem parseU32_eq {raw : List UInt8} (h : ∀ b ∈ raw, isDigit b = true)
    (hpos : 1 ≤ raw.length)
    (hlength : raw.length ≤ 9) : parseU32 raw = some (decimal raw) := by
  cases raw with
  | nil => cases hpos
  | cons b rest =>
    have hplus : b ≠ 43 := by
      intro heq
      have hb := h b List.mem_cons_self
      rw [heq] at hb
      cases hb
    show (if b = 43 then _ else (b :: rest).foldlM parseDigit 0) = _
    rw [if_neg hplus]
    exact foldlM_parseDigit h hlength

/-- Six numbers with the separators of a timestamp between them. -/
structure TimestampForm (raw year month day hour minute second : List UInt8) : Prop where
  raw_eq : raw = year ++ 45 :: (month ++ 45 :: (day ++ 84 :: (hour ++ 58 :: (minute ++ 58 ::
    (second ++ [90])))))
  year_length : year.length = 4
  month_length : month.length = 2
  day_length : day.length = 2
  hour_length : hour.length = 2
  minute_length : minute.length = 2
  second_length : second.length = 2
  year_digits : ∀ b ∈ year, isDigit b = true
  month_digits : ∀ b ∈ month, isDigit b = true
  day_digits : ∀ b ∈ day, isDigit b = true
  hour_digits : ∀ b ∈ hour, isDigit b = true
  minute_digits : ∀ b ∈ minute, isDigit b = true
  second_digits : ∀ b ∈ second, isDigit b = true

/-- The checks of the length, of the digits and of the separators. -/
def hasTimestampForm (raw : List UInt8) : Prop :=
  raw.length = 20 ∧
  (∀ position ∈ [0, 1, 2, 3, 5, 6, 8, 9, 11, 12, 14, 15, 17, 18],
    isDigit (raw.getD position 0) = true) ∧
  raw.getD 4 0 = 45 ∧ raw.getD 7 0 = 45 ∧ raw.getD 10 0 = 84 ∧ raw.getD 13 0 = 58 ∧
  raw.getD 16 0 = 58 ∧ raw.getD 19 0 = 90

theorem hasTimestampForm_iff {raw : List UInt8} : hasTimestampForm raw ↔
    ∃ year month day hour minute second, TimestampForm raw year month day hour minute second := by
  constructor
  · rintro ⟨hlength, hdigits, h4, h7, h10, h13, h16, h19⟩
    match raw, hlength with
    | [y0, y1, y2, y3, c4, m0, m1, c7, d0, d1, c10, h0, h1, c13, i0, i1, c16, s0, s1, c19], _ =>
      simp at hdigits h4 h7 h10 h13 h16 h19
      refine ⟨[y0, y1, y2, y3], [m0, m1], [d0, d1], [h0, h1], [i0, i1], [s0, s1], ?_⟩
      constructor <;> simp [*]
  · rintro ⟨year, month, day, hour, minute, second, hform⟩
    obtain ⟨hraw, hy, hm, hd, hh, hi, hs, hyear, hmonth, hday, hhour, hminute, hsecond⟩ := hform
    obtain ⟨y0, y1, y2, y3, rfl⟩ := List.length_eq_four.mp hy
    obtain ⟨m0, m1, rfl⟩ := List.length_eq_two.mp hm
    obtain ⟨d0, d1, rfl⟩ := List.length_eq_two.mp hd
    obtain ⟨h0, h1, rfl⟩ := List.length_eq_two.mp hh
    obtain ⟨i0, i1, rfl⟩ := List.length_eq_two.mp hi
    obtain ⟨s0, s1, rfl⟩ := List.length_eq_two.mp hs
    simp at hyear hmonth hday hhour hminute hsecond
    simp [hasTimestampForm, *]

/-- The parser reads the six numbers. -/
theorem TimestampForm.fields {raw year month day hour minute second : List UInt8}
    (h : TimestampForm raw year month day hour minute second) :
    timestampField raw 0 4 = decimal year ∧ timestampField raw 5 7 = decimal month ∧
      timestampField raw 8 10 = decimal day ∧ timestampField raw 11 13 = decimal hour ∧
      timestampField raw 14 16 = decimal minute ∧ timestampField raw 17 19 = decimal second := by
  have hfield : ∀ {start stop : Nat} {part : List UInt8}, raw.extract start stop = part →
      (∀ b ∈ part, isDigit b = true) → 1 ≤ part.length → part.length ≤ 9 →
      timestampField raw start stop = decimal part := by
    rintro start stop part rfl hdigits hpos hle
    rw [timestampField, parseU32_eq hdigits hpos hle, Option.getD_some]
  obtain ⟨hraw, hy, hm, hd, hh, hi, hs, hyear, hmonth, hday, hhour, hminute, hsecond⟩ := h
  obtain ⟨y0, y1, y2, y3, rfl⟩ := List.length_eq_four.mp hy
  obtain ⟨m0, m1, rfl⟩ := List.length_eq_two.mp hm
  obtain ⟨d0, d1, rfl⟩ := List.length_eq_two.mp hd
  obtain ⟨h0, h1, rfl⟩ := List.length_eq_two.mp hh
  obtain ⟨i0, i1, rfl⟩ := List.length_eq_two.mp hi
  obtain ⟨s0, s1, rfl⟩ := List.length_eq_two.mp hs
  subst hraw
  exact ⟨hfield rfl hyear (by simp) (by simp), hfield rfl hmonth (by simp) (by simp),
    hfield rfl hday (by simp) (by simp), hfield rfl hhour (by simp) (by simp),
    hfield rfl hminute (by simp) (by simp), hfield rfl hsecond (by simp) (by simp)⟩

theorem daysInMonth_eq {year month : Nat} :
    daysInMonth (isLeap year) month = monthLength year month := by
  match month with
  | 0 | 1 | 2 | 3 | 4 | 5 | 6 | 7 | 8 | 9 | 10 | 11 | 12 => rfl
  | _ + 13 => rfl

theorem isRfc3339UtcSeconds_iff_checks {value : String} : isRfc3339UtcSeconds value = true ↔
    hasTimestampForm (bytes value) ∧
      (1 ≤ timestampField (bytes value) 5 7 ∧ timestampField (bytes value) 5 7 ≤ 12) ∧
      timestampField (bytes value) 11 13 ≤ 23 ∧ timestampField (bytes value) 14 16 ≤ 59 ∧
      timestampField (bytes value) 17 19 ≤ 59 ∧ 1 ≤ timestampField (bytes value) 8 10 ∧
      timestampField (bytes value) 8 10 ≤
        monthLength (timestampField (bytes value) 0 4) (timestampField (bytes value) 5 7) := by
  unfold isRfc3339UtcSeconds hasTimestampForm
  rw [← daysInMonth_eq]
  have hdash : '-'.toUInt8 = 45 := rfl
  have hT : 'T'.toUInt8 = 84 := rfl
  have hcolon : ':'.toUInt8 = 58 := rfl
  have hZ : 'Z'.toUInt8 = 90 := rfl
  simp only [isLeap, hdash, hT, hcolon, hZ, Bool.if_false_left, Bool.and_eq_true, Bool.not_eq_true',
    Bool.or_eq_false_iff, decide_eq_false_iff_not, Bool.not_eq_false', decide_eq_true_eq,
    Bool.not_eq_true, bne_eq_false_iff_eq, List.any_eq_false, Bool.not_eq_false, Nat.not_lt,
    and_assoc]

theorem timestampForm_text (t : Timestamp) : TimestampForm t.text (digits 4 t.year)
    (digits 2 t.month) (digits 2 t.day) (digits 2 t.hour) (digits 2 t.minute)
    (digits 2 t.second) where
  raw_eq := rfl
  year_length := length_digits 4 t.year
  month_length := length_digits 2 t.month
  day_length := length_digits 2 t.day
  hour_length := length_digits 2 t.hour
  minute_length := length_digits 2 t.minute
  second_length := length_digits 2 t.second
  year_digits _ := isDigit_of_mem_digits
  month_digits _ := isDigit_of_mem_digits
  day_digits _ := isDigit_of_mem_digits
  hour_digits _ := isDigit_of_mem_digits
  minute_digits _ := isDigit_of_mem_digits
  second_digits _ := isDigit_of_mem_digits

/-- The parser accepts exactly the texts of the valid dates with a time of day. -/
theorem isRfc3339UtcSeconds_iff {value : String} :
    isRfc3339UtcSeconds value = true ↔ ∃ t : Timestamp, bytes value = t.text := by
  rw [isRfc3339UtcSeconds_iff_checks, hasTimestampForm_iff]
  constructor
  · rintro ⟨⟨year, month, day, hour, minute, second, hform⟩, hchecks⟩
    obtain ⟨hyear, hmonth, hday, hhour, hminute, hsecond⟩ := hform.fields
    rw [hyear, hmonth, hday, hhour, hminute, hsecond] at hchecks
    obtain ⟨⟨hmonth1, hmonth12⟩, hhour23, hminute59, hsecond59, hday1, hdayle⟩ := hchecks
    have hyear9999 : decimal year < 10 ^ 4 := hform.year_length ▸ decimal_lt hform.year_digits
    refine ⟨⟨decimal year, decimal month, decimal day, decimal hour, decimal minute,
      decimal second, by omega, hmonth1, hmonth12, hday1, hdayle, hhour23, hminute59,
      hsecond59⟩, ?_⟩
    rw [Timestamp.text, hform.raw_eq, digits_decimal_of_length hform.year_length hform.year_digits,
      digits_decimal_of_length hform.month_length hform.month_digits,
      digits_decimal_of_length hform.day_length hform.day_digits,
      digits_decimal_of_length hform.hour_length hform.hour_digits,
      digits_decimal_of_length hform.minute_length hform.minute_digits,
      digits_decimal_of_length hform.second_length hform.second_digits]
  · rintro ⟨t, ht⟩
    rw [ht]
    refine ⟨⟨_, _, _, _, _, _, timestampForm_text t⟩, ?_⟩
    obtain ⟨hyear, hmonth, hday, hhour, hminute, hsecond⟩ := (timestampForm_text t).fields
    have hmonthle := t.month_le
    have hdayle := t.day_le.trans (monthLength_le t.year t.month)
    have hyearle := t.year_le
    have hhourle := t.hour_le
    have hminutele := t.minute_le
    have hsecondle := t.second_le
    rw [hyear, hmonth, hday, hhour, hminute, hsecond, decimal_digits (by omega),
      decimal_digits (by omega), decimal_digits (by omega), decimal_digits (by omega),
      decimal_digits (by omega), decimal_digits (by omega)]
    exact ⟨⟨t.month_pos, hmonthle⟩, hhourle, hminutele, hsecondle, t.day_pos, t.day_le⟩

/-! ## Order -/

/-- `require_strictly_monotonic`. -/
def requireStrictlyMonotonic {α : Type} (axisName : String) (values : List α)
    (compare : α → α → Option Ordering) : Result Unit :=
  match values with
  | value0 :: value1 :: _ => do
    let first ← require (compare value1 value0)
      (.validation s!"axis `{axisName}` ordered coordinates are not comparable")
    rejectIf (first == .eq)
      (.validation s!"axis `{axisName}` ordered coordinates must be strictly monotonic")
    (values.zip values.tail).forM fun window => do
      let ordering ← require (compare window.2 window.1)
        (.validation s!"axis `{axisName}` ordered coordinates are not comparable")
      rejectIf (ordering != first)
        (.validation s!"axis `{axisName}` ordered coordinates must be strictly monotonic")
  | _ => .ok ()

section Monotonic

variable {α : Type} {cmp : α → α → Ordering} [Std.TransCmp cmp] {axisName : String}

omit [Std.TransCmp cmp] in
theorem forall_windows_iff {direction : Ordering} {xs : List α} :
    (∀ window ∈ xs.zip xs.tail, cmp window.2 window.1 = direction) ↔
      xs.IsChain fun left right => cmp right left = direction := by
  induction xs with
  | nil => simp
  | cons x xs ih =>
    cases xs with
    | nil => simp
    | cons y ys =>
      rw [List.isChain_cons_cons, ← ih]
      simp

omit [Std.TransCmp cmp] in
/-- The neighbours of an accepted list are in the direction of the first two. -/
theorem requireStrictlyMonotonic_cons {x y : α} {xs : List α} :
    requireStrictlyMonotonic axisName (x :: y :: xs) (fun left right => some (cmp left right)) =
        .ok () ↔
      cmp y x ≠ .eq ∧ (x :: y :: xs).IsChain fun left right => cmp right left = cmp y x := by
  rw [← forall_windows_iff]
  simp [requireStrictlyMonotonic, require]

/-- Neighbours in one direction are all pairs in that direction. -/
theorem isChain_iff_pairwise {direction : Ordering} (h : direction ≠ .eq) {xs : List α} :
    xs.IsChain (fun left right => cmp right left = direction) ↔
      xs.Pairwise fun left right => cmp left right = direction.swap := by
  have hswap : (fun left right => cmp right left = direction) =
      fun left right => cmp left right = direction.swap := by
    funext left right
    have heq : cmp right left = (cmp left right).swap := Std.OrientedCmp.eq_swap
    rw [heq, Ordering.swap_eq_iff_eq_swap]
  have htrans : IsTrans α fun left right => cmp left right = direction.swap := by
    constructor
    cases direction with
    | eq => exact absurd rfl h
    | lt => exact fun _ _ _ => Std.TransCmp.gt_trans
    | gt => exact fun _ _ _ => Std.TransCmp.lt_trans
  rw [hswap, List.isChain_iff_pairwise]

/-- The check of neighbours accepts the lists whose pairs are all in order, up or down. -/
theorem requireStrictlyMonotonic_eq_ok {values : List α} :
    requireStrictlyMonotonic axisName values (fun left right => some (cmp left right)) = .ok () ↔
      (values.Pairwise fun left right => cmp left right = .lt) ∨
        values.Pairwise fun left right => cmp left right = .gt := by
  match values with
  | [] => simp [requireStrictlyMonotonic]
  | [_] => simp [requireStrictlyMonotonic]
  | x :: y :: xs =>
    rw [requireStrictlyMonotonic_cons]
    constructor
    · rintro ⟨hne, hchain⟩
      rw [isChain_iff_pairwise hne] at hchain
      cases hfirst : cmp y x with
      | eq => exact absurd hfirst hne
      | lt =>
        rw [hfirst] at hchain
        exact .inr hchain
      | gt =>
        rw [hfirst] at hchain
        exact .inl hchain
    · have hpair : ∀ {direction : Ordering}, direction ≠ .eq →
          ((x :: y :: xs).Pairwise fun left right => cmp left right = direction.swap) →
          cmp y x ≠ .eq ∧ (x :: y :: xs).IsChain fun left right =>
            cmp right left = cmp y x := by
        intro direction hne hpairs
        have hchain := (isChain_iff_pairwise hne).mpr hpairs
        have hfirst := (List.isChain_cons_cons.mp hchain).1
        rw [hfirst]
        exact ⟨hne, hchain⟩
      rintro (hup | hdown)
      · exact hpair (show Ordering.gt ≠ .eq by decide) hup
      · exact hpair (show Ordering.lt ≠ .eq by decide) hdown

end Monotonic

/-! ## Coordinates -/

inductive CoordinateDType
  | numeric
  | categorical
  | datetime
deriving DecidableEq, Repr

inductive CoordinateValues
  | explicit (values : List Json)
  | regularGrid (start step : F64)
deriving Repr

structure CoordinateSpec where
  dtype : CoordinateDType
  ordered : Bool
  values : CoordinateValues
deriving Repr

namespace CoordinateSpec

variable [ThirdParty]

/-- `Value::as_f64`. -/
def asF64 : Json → Option F64
  | .number n => some n.asF64
  | _ => none

def validateExplicit (spec : CoordinateSpec) (axisName : String) (values : List Json) :
    Result Unit :=
  match spec.dtype with
  | .numeric => do
    let numbers ← values.mapM fun value =>
      require ((asF64 value).filter F64.isFinite) (.validation
        s!"axis `{axisName}` numeric coordinate `{value.compact}` is not a finite number")
    if spec.ordered then
      requireStrictlyMonotonic axisName numbers F64.partialCmp
  | .categorical => do
    let _ ← values.foldlM (fun (seen : List String) value => do
      let label ← require (value.asStr.filter fun label => !label.isEmpty) (.validation
        s!"axis `{axisName}` categorical coordinate `{value.compact}` is not a non-empty string")
      rejectIf (seen.contains label) (.validation
        s!"axis `{axisName}` categorical coordinate `{label}` is duplicated")
      pure (label :: seen)) []
    pure ()
  | .datetime => do
    let stamps ← values.mapM fun value => do
      let stamp ← require value.asStr (.validation
        s!"axis `{axisName}` datetime coordinate `{value.compact}` is not a string")
      rejectIf (!isRfc3339UtcSeconds stamp) (.validation
        (s!"axis `{axisName}` datetime coordinate `{stamp}` is not canonical RFC 3339 UTC " ++
          "seconds (YYYY-MM-DDThh:mm:ssZ)"))
      pure stamp
    if spec.ordered then
      requireStrictlyMonotonic axisName stamps fun left right => some (compareStr left right)

def validate (spec : CoordinateSpec) (axisName : String) (size : Option Nat) (isVariable : Bool) :
    Result Unit := do
  rejectIf isVariable (.validation s!"axis `{axisName}` cannot carry coordinates while variable")
  match spec.values with
  | .explicit values => do
    rejectIf values.isEmpty (.validation s!"axis `{axisName}` has empty explicit coordinates")
    match size with
    | some size => rejectIf (values.length != size) (.validation
        s!"axis `{axisName}` has {values.length} coordinates for size {size}")
    | none => pure ()
    spec.validateExplicit axisName values
  | .regularGrid start step => do
    rejectIf (spec.dtype != .numeric) (.validation
      s!"axis `{axisName}` regular-grid coordinates require numeric dtype")
    rejectIf size.isNone (.validation
      s!"axis `{axisName}` regular-grid coordinates require a known axis size")
    rejectIf (!start.isFinite || !step.isFinite) (.validation
      s!"axis `{axisName}` regular-grid start/step must be finite")
    rejectIf (step.eq F64.zero) (.validation
      s!"axis `{axisName}` regular-grid step must be non-zero")
    rejectIf (!spec.ordered) (.validation
      (s!"axis `{axisName}` regular-grid coordinates are inherently ordered; " ++
        "set ordered=true"))

/-- The strings that a coordinate in time holds, all of them timestamps. -/
theorem validateExplicit_datetime {spec : CoordinateSpec} {axisName : String}
    {values : List Json} (hdtype : spec.dtype = .datetime) :
    spec.validateExplicit axisName values = .ok () ↔
      ∃ stamps, values = stamps.map .string ∧
        (∀ s ∈ stamps, isRfc3339UtcSeconds s = true) ∧
        (spec.ordered = true → requireStrictlyMonotonic axisName stamps
          (fun left right => some (compareStr left right)) = .ok ()) := by
  unfold validateExplicit
  rw [hdtype]
  simp only [bind_eq_ok, mapM_eq_ok, require_eq_ok, rejectIf_eq_ok, exists_unit, pure_eq_ok,
    Json.asStr_eq_some, Bool.not_eq_false']
  constructor
  · rintro ⟨stamps, hstamps, horder⟩
    refine ⟨stamps, ?_, ?_, ?_⟩
    · rw [← List.forall₂_eq_eq_eq, List.forall₂_map_right_iff]
      refine hstamps.imp ?_
      rintro value stamp ⟨_, rfl, _, rfl⟩
      rfl
    · intro stamp hmem
      obtain ⟨value, _, _, _, hform, rfl⟩ := exists_left_of_forall₂ hstamps hmem
      exact hform
    · intro hordered
      rwa [if_pos hordered] at horder
  · rintro ⟨stamps, rfl, hform, horder⟩
    refine ⟨stamps, ?_, ?_⟩
    · rw [List.forall₂_map_left_iff, List.forall₂_same]
      exact fun stamp hmem => ⟨stamp, rfl, hform stamp hmem, rfl⟩
    · split
      · exact horder ‹_›
      · rfl

theorem validate_explicit {spec : CoordinateSpec} {axisName : String} {size : Option Nat}
    {isVariable : Bool} {values : List Json} (hvalues : spec.values = .explicit values)
    (h : spec.validate axisName size isVariable = .ok ()) :
    spec.validateExplicit axisName values = .ok () := by
  unfold validate at h
  rw [hvalues] at h
  obtain ⟨_, -, h⟩ := bind_eq_ok.mp h
  obtain ⟨_, -, h⟩ := bind_eq_ok.mp h
  cases size with
  | none => exact h
  | some size =>
    obtain ⟨_, -, h⟩ := bind_eq_ok.mp h
    exact h

end CoordinateSpec

instance : Std.TransCmp compareStr where
  eq_swap {left right} := Std.OrientedOrd.eq_swap (a := bytes left) (b := bytes right)
  isLE_trans {left middle right} := Std.TransOrd.isLE_trans (a := bytes left) (b := bytes middle)
    (c := bytes right)

/-- Strings that are timestamps are in the order of their texts and of their times. -/
theorem compareStr_timestamps {left right : String} {t u : Timestamp} (hleft : bytes left = t.text)
    (hright : bytes right = u.text) : compareStr left right = compare t.instant u.instant := by
  rw [compareStr, hleft, hright, Timestamp.compare_text]

/-- The order of the pairs of texts is the order of the pairs of times. -/
theorem pairwise_timestamps {stamps : List String} {times : List Timestamp}
    (h : stamps.map bytes = times.map Timestamp.text) {direction : Ordering} :
    (stamps.Pairwise fun left right => compareStr left right = direction) ↔
      times.Pairwise fun t u => compare t.instant u.instant = direction :=
  calc (stamps.Pairwise fun left right => compareStr left right = direction)
      ↔ (stamps.map bytes).Pairwise fun left right => compare left right = direction := by
        rw [List.pairwise_map]
        rfl
    _ ↔ (times.map Timestamp.text).Pairwise fun left right => compare left right = direction := by
        rw [h]
    _ ↔ times.Pairwise fun t u => compare t.text u.text = direction := List.pairwise_map
    _ ↔ times.Pairwise fun t u => compare t.instant u.instant = direction := by
        simp only [Timestamp.compare_text]

theorem exists_timestamps {stamps : List String}
    (h : ∀ stamp ∈ stamps, isRfc3339UtcSeconds stamp = true) :
    ∃ times : List Timestamp, stamps.map bytes = times.map Timestamp.text := by
  obtain ⟨times, htimes⟩ := exists_forall₂ fun stamp hmem =>
    isRfc3339UtcSeconds_iff.mp (h stamp hmem)
  refine ⟨times, ?_⟩
  rwa [← List.forall₂_eq_eq_eq, List.forall₂_map_left_iff, List.forall₂_map_right_iff]

/-- The parser accepts the texts of timestamps, the order of these is the order in time, the
check of neighbours is about all pairs, and so an ordered coordinate in time goes one way. -/
theorem coordinateSpec_datetime_monotonic [ThirdParty] :
    (∀ value, isRfc3339UtcSeconds value = true ↔ ∃ t : Timestamp, bytes value = t.text) ∧
    (∀ (left right : String) (t u : Timestamp), bytes left = t.text → bytes right = u.text →
      compareStr left right = compare t.instant u.instant) ∧
    (∀ {α : Type} (cmp : α → α → Ordering) [Std.TransCmp cmp] (axisName : String)
      (values : List α),
      requireStrictlyMonotonic axisName values (fun left right => some (cmp left right)) =
          .ok () ↔
        (values.Pairwise fun left right => cmp left right = .lt) ∨
          values.Pairwise fun left right => cmp left right = .gt) ∧
    ∀ (spec : CoordinateSpec) (axisName : String) (size : Option Nat)
      (isVariable : Bool) (values : List Json), spec.dtype = .datetime → spec.ordered = true →
      spec.values = .explicit values → spec.validate axisName size isVariable = .ok () →
      ∃ (stamps : List String) (times : List Timestamp), values = stamps.map .string ∧
        stamps.map bytes = times.map Timestamp.text ∧
        ((times.Pairwise fun t u => t.instant < u.instant) ∨
          times.Pairwise fun t u => u.instant < t.instant) := by
  refine ⟨fun value => isRfc3339UtcSeconds_iff, fun left right t u => compareStr_timestamps,
    fun cmp _ axisName values => requireStrictlyMonotonic_eq_ok, ?_⟩
  intro spec axisName size isVariable values hdtype hordered hvalues hvalid
  obtain ⟨stamps, hstamps, hform, horder⟩ :=
    (CoordinateSpec.validateExplicit_datetime hdtype).mp
    (CoordinateSpec.validate_explicit hvalues hvalid)
  obtain ⟨times, htimes⟩ := exists_timestamps hform
  refine ⟨stamps, times, hstamps, htimes, ?_⟩
  rw [requireStrictlyMonotonic_eq_ok, pairwise_timestamps htimes, pairwise_timestamps htimes]
    at horder
  simpa only [Nat.compare_eq_lt, Nat.compare_eq_gt] using horder hordered

/-- Two points in time, the later one first. -/
def downwardTimes : List Json := [.string "2024-03-01T00:00:00Z", .string "2024-02-29T23:59:59Z"]

theorem coordinateSpec_datetime_monotonic_downward :
    ∃ (stamps : List String) (times : List Timestamp), downwardTimes = stamps.map .string ∧
      stamps.map bytes = times.map Timestamp.text ∧
      ((times.Pairwise fun t u => t.instant < u.instant) ∨
        times.Pairwise fun t u => u.instant < t.instant) :=
  (@coordinateSpec_datetime_monotonic (.ofTable [])).2.2.2
    ⟨.datetime, true, .explicit downwardTimes⟩ "time" (some 2) false downwardTimes rfl rfl rfl
    (by decide +kernel)

end DagMlData
