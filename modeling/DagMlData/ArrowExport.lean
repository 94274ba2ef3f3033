import DagMlData.BufferWire
import DagMlData.Lib.Bitmap

/-!
# Arrow arrays

The builders of the Arrow C data interface: `string_array`, `f64_array` and `bool_array`, with
their validity bitmaps and offsets. An array that has no null has no validity bitmap.

* `StringArray.decode`, `F64Array.decode`, `BoolArray.decode`: what a reader of the columnar
  layout sees.
* `arrowArrays_spec`: a reader sees what was written.
-/

namespace DagMlData

open Bitmap Guard RustText

/-! ## Building -/

/-- `set_bitmap`. -/
def setBitmap (bitmap : List UInt8) (idx : Nat) (value : Bool) : List UInt8 :=
  let byteIdx := idx / 8
  let bitmap := if bitmap.length ≤ byteIdx then growTo bitmap (byteIdx + 1) else bitmap
  if value then orBit bitmap idx else bitmap

structure StringArray where
  length : Nat
  nullCount : Nat
  validity : Option (List UInt8)
  offsets : List Nat
  values : List UInt8
deriving DecidableEq, Repr

structure F64Array where
  length : Nat
  nullCount : Nat
  validity : Option (List UInt8)
  values : List F64
deriving DecidableEq, Repr

structure BoolArray where
  length : Nat
  nullCount : Nat
  values : List UInt8
deriving DecidableEq, Repr

/-- `i32::MAX`. -/
def i32Max : Nat := 2 ^ 31 - 1

/-- What the loop of `string_array` has built. -/
structure StringLoop where
  validity : List UInt8
  offsets : List Nat
  data : List UInt8
  nullCount : Nat

/-- The loop body of `string_array`. -/
def StringLoop.step (st : StringLoop) (entry : Option String × Nat) : Result StringLoop := do
  let st : StringLoop := match entry.1 with
    | some value =>
      { st with
        validity := setBitmap st.validity entry.2 true
        data := st.data ++ bytes value }
    | none =>
      { st with
        validity := setBitmap st.validity entry.2 false
        nullCount := st.nullCount + 1 }
  rejectIf (decide (i32Max < st.data.length))
    (.validation "identity Arrow UTF-8 payload exceeds i32 offsets")
  pure { st with offsets := st.offsets ++ [st.data.length] }

/-- `string_array`. -/
def stringArray (values : List (Option String)) : Result StringArray := do
  let st ← values.zipIdx.foldlM StringLoop.step ⟨[], [0], [], 0⟩
  pure {
    length := values.length
    nullCount := st.nullCount
    validity := if 0 < st.nullCount then some st.validity else none
    offsets := st.offsets
    values := st.data }

/-- What the loop of `f64_array` has built. -/
structure F64Loop where
  validity : List UInt8
  data : List F64
  nullCount : Nat

/-- The loop body of `f64_array`. -/
def F64Loop.step (st : F64Loop) (entry : Option F64 × Nat) : F64Loop :=
  match entry.1 with
  | some value =>
    { st with
      validity := setBitmap st.validity entry.2 true
      data := st.data ++ [value] }
  | none =>
    { validity := setBitmap st.validity entry.2 false
      data := st.data ++ [.zero]
      nullCount := st.nullCount + 1 }

/-- `f64_array`. -/
def f64Array (values : List (Option F64)) : F64Array :=
  let st := values.zipIdx.foldl F64Loop.step ⟨[], [], 0⟩
  { length := values.length
    nullCount := st.nullCount
    validity := if 0 < st.nullCount then some st.validity else none
    values := st.data }

/-- `bool_array`. -/
def boolArray (values : List Bool) : BoolArray where
  length := values.length
  nullCount := 0
  values := values.zipIdx.foldl (fun bitmap entry => setBitmap bitmap entry.2 entry.1) []

/-! ## Reading -/

/-- Whether the value counts: there is no validity bitmap, or its bit is set. -/
def isValidBit (validity : Option (List UInt8)) (i : Nat) : Bool :=
  (validity.map fun bitmap => bitAt bitmap i).getD true

/-- The values of a string array, when they are UTF-8. -/
def StringArray.decode (array : StringArray) : Option (List (Option String)) :=
  (List.range array.length).mapM fun i =>
    if isValidBit array.validity i then
      (BufferFile.fromUtf8 (array.values.extract (array.offsets.getD i 0)
        (array.offsets.getD (i + 1) 0))).map some
    else some none

def F64Array.decode (array : F64Array) : List (Option F64) :=
  (List.range array.length).map fun i =>
    if isValidBit array.validity i then some (array.values.getD i .zero) else none

def BoolArray.decode (array : BoolArray) : List Bool :=
  (List.range array.length).map (bitAt array.values)

/-! ## Bitmaps of flags -/

/-- The bitmap has the byte of the bit, and the bit when it is on. -/
theorem setBitmap_eq (bitmap : List UInt8) (idx : Nat) (value : Bool) :
    setBitmap bitmap idx value =
      if value then orBit (growTo bitmap (idx / 8 + 1)) idx else growTo bitmap (idx / 8 + 1) := by
  have hgrow : (if bitmap.length ≤ idx / 8 then growTo bitmap (idx / 8 + 1) else bitmap) =
      growTo bitmap (idx / 8 + 1) := by
    split
    · rfl
    · next h => rw [growTo, Nat.sub_eq_zero_of_le (by omega), List.replicate_zero, List.append_nil]
  rw [← hgrow]
  rfl

@[simp] theorem length_setBitmap {bitmap : List UInt8} {idx : Nat} {value : Bool} :
    (setBitmap bitmap idx value).length = max bitmap.length (idx / 8 + 1) := by
  rw [setBitmap_eq]
  cases value <;> simp

theorem bitAt_setBitmap {bitmap : List UInt8} {idx i : Nat} {value : Bool} :
    bitAt (setBitmap bitmap idx value) i = (value && decide (idx = i) || bitAt bitmap i) := by
  have hlt : idx / 8 < (growTo bitmap (idx / 8 + 1)).length := by
    rw [length_growTo]
    omega
  rw [setBitmap_eq]
  cases value with
  | false => simp [bitAt_growTo]
  | true => simp [bitAt_orBit hlt, bitAt_growTo]

/-- The bitmap that a loop over flags builds. -/
def packFlags (flags : List Bool) : List UInt8 :=
  flags.zipIdx.foldl (fun bitmap entry => setBitmap bitmap entry.2 entry.1) []

theorem packFlags_append (flags : List Bool) (flag : Bool) :
    packFlags (flags ++ [flag]) = setBitmap (packFlags flags) flags.length flag := by
  rw [packFlags, List.zipIdx_append, List.foldl_append, packFlags]
  simp

/-- One byte for every eight flags begun. -/
theorem length_packFlags (flags : List Bool) :
    (packFlags flags).length = (flags.length + 7) / 8 := by
  induction flags using List.reverseRecOn with
  | nil => rfl
  | append_singleton flags flag ih =>
    rw [packFlags_append, length_setBitmap, ih, List.length_append, List.length_singleton]
    omega

/-- Bit `i` is flag `i`. -/
theorem bitAt_packFlags (flags : List Bool) (i : Nat) :
    bitAt (packFlags flags) i = flags.getD i false := by
  induction flags using List.reverseRecOn with
  | nil => exact bitAt_eq_false (Nat.zero_le _)
  | append_singleton flags flag ih =>
    rw [packFlags_append, bitAt_setBitmap, ih, List.getD_eq_getElem?_getD,
      List.getD_eq_getElem?_getD, List.getElem?_append]
    split
    · next hlt =>
      rw [decide_eq_false (by omega), Bool.and_false, Bool.false_or]
    · next hge =>
      rw [List.getElem?_eq_none (Nat.le_of_not_lt hge), Option.getD_none, Bool.or_false]
      by_cases heq : flags.length = i
      · simp [heq]
      · rw [decide_eq_false heq, Bool.and_false, List.getElem?_eq_none, Option.getD_none]
        rw [List.length_singleton]
        omega

/-! ## What the builders build -/

section Strings
variable (values : List (Option String))

/-- The bytes of the texts, one after the other. -/
def payload (values : List (Option String)) : List UInt8 :=
  values.flatMap fun value => (value.map bytes).getD []

/-- The end of the texts before each entry, and of all. -/
def payloadOffsets (values : List (Option String)) : List Nat :=
  (List.range (values.length + 1)).map fun k => (payload (values.take k)).length

/-- The state of the loop after the values. -/
def stringLoop (values : List (Option String)) : StringLoop where
  validity := packFlags (values.map Option.isSome)
  offsets := payloadOffsets values
  data := payload values
  nullCount := values.countP Option.isNone

theorem payload_append (values' : List (Option String)) :
    payload (values ++ values') = payload values ++ payload values' :=
  List.flatMap_append

theorem payloadOffsets_append (value : Option String) :
    payloadOffsets (values ++ [value]) =
      payloadOffsets values ++ [(payload (values ++ [value])).length] := by
  have hlast : (values ++ [value]).take (values.length + 1) = values ++ [value] :=
    List.take_of_length_le (by rw [List.length_append, List.length_singleton])
  rw [payloadOffsets, List.length_append, List.length_singleton, List.range_succ, List.map_append,
    List.map_singleton, hlast, payloadOffsets]
  refine congrArg (· ++ _) (List.map_congr_left fun k hk => ?_)
  rw [List.take_append_of_le_length (Nat.le_of_lt_succ (List.mem_range.mp hk))]

/-- What `string_array` returns when the texts do not fit. -/
def payloadError : DataError :=
  .validation "identity Arrow UTF-8 payload exceeds i32 offsets"

theorem step_stringLoop (value : Option String) :
    (stringLoop values).step (value, values.length) =
      if (payload (values ++ [value])).length ≤ i32Max then .ok (stringLoop (values ++ [value]))
      else .error payloadError := by
  have hflags : packFlags ((values ++ [value]).map Option.isSome) =
      setBitmap (packFlags (values.map Option.isSome)) values.length value.isSome := by
    rw [List.map_append, List.map_singleton, packFlags_append, List.length_map]
  have hnulls : (values ++ [value]).countP Option.isNone =
      values.countP Option.isNone + [value].countP Option.isNone := List.countP_append
  have hdata : payload (values ++ [value]) = payload values ++ (value.map bytes).getD [] := by
    rw [payload_append]
    exact congrArg _ (List.append_nil _)
  have hnext : stringLoop (values ++ [value]) =
      { validity := setBitmap (packFlags (values.map Option.isSome)) values.length value.isSome
        offsets := payloadOffsets values ++ [(payload (values ++ [value])).length]
        data := payload (values ++ [value])
        nullCount := values.countP Option.isNone + [value].countP Option.isNone } := by
    rw [stringLoop, hflags, payloadOffsets_append, hnulls]
  have hreject : ∀ {st : StringLoop} {data : List UInt8},
      (rejectIf (decide (i32Max < data.length)) payloadError >>= fun _ => pure st) =
        if data.length ≤ i32Max then .ok st else .error payloadError := by
    intro st data
    by_cases hle : data.length ≤ i32Max
    · rw [if_pos hle, rejectIf, if_neg (by simpa using hle)]
      rfl
    · rw [if_neg hle, rejectIf, if_pos (by simpa using hle)]
      rfl
  rw [hnext]
  cases value with
  | none =>
    rw [Option.map_none, Option.getD_none, List.append_nil] at hdata
    rw [hdata]
    exact hreject
  | some text =>
    rw [Option.map_some, Option.getD_some] at hdata
    rw [hdata]
    exact hreject

/-- The loop accepts texts that fit together. -/
theorem foldlM_stringLoop :
    values.zipIdx.foldlM StringLoop.step ⟨[], [0], [], 0⟩ =
      if (payload values).length ≤ i32Max then .ok (stringLoop values)
      else .error payloadError := by
  induction values using List.reverseRecOn with
  | nil => rfl
  | append_singleton values value ih =>
    rw [List.zipIdx_append, List.foldlM_append, ih, List.zipIdx_singleton, Nat.zero_add]
    by_cases hle : (payload values).length ≤ i32Max
    · rw [if_pos hle]
      show ((stringLoop values).step (value, values.length) >>= pure) = _
      rw [step_stringLoop, bind_pure]
    · have hgt : ¬ (payload (values ++ [value])).length ≤ i32Max := by
        rw [payload_append, List.length_append]
        omega
      rw [if_neg hle, if_neg hgt]
      rfl

/-- A payload is cut into the texts by the offsets. -/
theorem extract_payload {i : Nat} {value : Option String} (h : values[i]? = some value) :
    (payload values).extract ((payloadOffsets values).getD i 0)
      ((payloadOffsets values).getD (i + 1) 0) = (value.map bytes).getD [] := by
  obtain ⟨hlt, rfl⟩ := List.getElem?_eq_some_iff.mp h
  have hoffset : ∀ k ≤ values.length,
      (payloadOffsets values).getD k 0 = (payload (values.take k)).length := by
    intro k hk
    rw [payloadOffsets, List.getD_eq_getElem?_getD, List.getElem?_map,
      List.getElem?_range (Nat.lt_succ_of_le hk)]
    rfl
  have hnext : payload (values.take (i + 1)) =
      payload (values.take i) ++ (values[i].map bytes).getD [] := by
    rw [List.take_succ_eq_append_getElem hlt, payload_append]
    exact congrArg _ (List.append_nil _)
  have hpayload : payload values = payload (values.take i) ++
      ((values[i].map bytes).getD [] ++ payload (values.drop (i + 1))) := by
    rw [← List.append_assoc, ← hnext, ← payload_append, List.take_append_drop]
  rw [hoffset i hlt.le, hoffset (i + 1) hlt, hnext, List.length_append, hpayload,
    List.extract_eq_take_drop, List.drop_left, Nat.add_sub_cancel_left, List.take_left]

end Strings

/-! ## What a reader sees -/

/-- The validity of an array with the values. -/
def validityOf {α : Type} (values : List (Option α)) : Option (List UInt8) :=
  if 0 < values.countP Option.isNone then some (packFlags (values.map Option.isSome)) else none

/-- `string_array` fails when the texts do not fit, and builds their array else. -/
theorem stringArray_eq (values : List (Option String)) : stringArray values =
    if (payload values).length ≤ i32Max then
      .ok ⟨values.length, values.countP Option.isNone, validityOf values, payloadOffsets values,
        payload values⟩
    else .error payloadError := by
  rw [stringArray, foldlM_stringLoop]
  split <;> rfl

theorem isValidBit_validityOf {α : Type} {values : List (Option α)} {i : Nat} {value : Option α}
    (h : values[i]? = some value) : isValidBit (validityOf values) i = value.isSome := by
  unfold validityOf
  split
  · show bitAt _ i = _
    rw [bitAt_packFlags, List.getD_eq_getElem?_getD, List.getElem?_map, h]
    rfl
  · next hnone =>
    have hpresent := List.countP_eq_zero.mp (Nat.eq_zero_of_not_pos hnone) value
      (List.mem_of_getElem? h)
    cases value with
    | none => exact absurd rfl hpresent
    | some => rfl

theorem mapM_range_eq_some {α : Type} {f : Nat → Option α} {xs : List α}
    (h : ∀ i x, xs[i]? = some x → f i = some x) : (List.range xs.length).mapM f = some xs := by
  induction xs using List.reverseRecOn with
  | nil => rfl
  | append_singleton xs x ih =>
    have hxs : (List.range xs.length).mapM f = some xs := by
      refine ih fun i y hy => h i y ?_
      rw [List.getElem?_append_left (List.getElem?_eq_some_iff.mp hy).1, hy]
    have hx : f xs.length = some x := h _ _ List.getElem?_concat_length
    rw [List.length_append, List.length_singleton, List.range_succ, List.mapM_append, hxs]
    simp [hx]

theorem map_range_eq {α : Type} {f : Nat → α} {xs : List α}
    (h : ∀ i x, xs[i]? = some x → f i = x) : (List.range xs.length).map f = xs := by
  refine List.ext_getElem (by simp) fun i _ hi => ?_
  rw [List.getElem_map, List.getElem_range]
  exact h i _ (List.getElem?_eq_getElem hi)

/-- A bitmap that is present has a byte for every eight entries begun. -/
theorem length_validityOf {α : Type} {values : List (Option α)} {bitmap : List UInt8}
    (h : validityOf values = some bitmap) : bitmap.length = (values.length + 7) / 8 := by
  unfold validityOf at h
  split at h
  · cases h
    rw [length_packFlags, List.length_map]
  · cases h

theorem decode_stringArray {values : List (Option String)} {array : StringArray}
    (h : stringArray values = .ok array) : array.decode = some values := by
  rw [stringArray_eq] at h
  split at h
  · cases h
    refine mapM_range_eq_some fun i value hvalue => ?_
    show (if isValidBit (validityOf values) i then _ else _) = _
    rw [isValidBit_validityOf hvalue, extract_payload values hvalue]
    cases value with
    | none => rfl
    | some text =>
      show (BufferFile.fromUtf8 (bytes text)).map some = some (some text)
      rw [BufferFile.fromUtf8_eq_some.mpr rfl]
      rfl
  · cases h

/-! ## Floats and booleans -/

/-- The floats of the buffer: zero where there is none. -/
theorem f64Array_eq (values : List (Option F64)) : f64Array values =
    ⟨values.length, values.countP Option.isNone, validityOf values,
      values.map (·.getD .zero)⟩ := by
  have hloop : values.zipIdx.foldl F64Loop.step ⟨[], [], 0⟩ =
      ⟨packFlags (values.map Option.isSome), values.map (·.getD .zero),
        values.countP Option.isNone⟩ := by
    induction values using List.reverseRecOn with
    | nil => rfl
    | append_singleton values value ih =>
      rw [List.zipIdx_append, List.foldl_append, ih, List.zipIdx_singleton, Nat.zero_add,
        List.map_append, List.map_append, List.countP_append, List.map_singleton,
        List.map_singleton, packFlags_append, List.length_map]
      cases value with
      | none => rfl
      | some value => rfl
  rw [f64Array, hloop]
  rfl

theorem decode_f64Array (values : List (Option F64)) : (f64Array values).decode = values := by
  rw [f64Array_eq]
  refine map_range_eq fun i value h => ?_
  show (if isValidBit (validityOf values) i then _ else _) = _
  rw [isValidBit_validityOf h, List.getD_eq_getElem?_getD, List.getElem?_map, h]
  cases value with
  | none => rfl
  | some value => rfl

theorem decode_boolArray (values : List Bool) : (boolArray values).decode = values := by
  refine map_range_eq fun i value h => ?_
  show bitAt (packFlags values) i = value
  rw [bitAt_packFlags, List.getD_eq_getElem?_getD, h]
  rfl

/-! ## The arrays -/

/-- The array holds the texts, in the columnar layout. -/
structure StringArray.Holds (array : StringArray) (values : List (Option String)) : Prop where
  decode : array.decode = some values
  null_count : array.nullCount = values.countP Option.isNone
  offsets_length : array.offsets.length = values.length + 1
  offsets_sorted : array.offsets.Pairwise (· ≤ ·)
  offsets_first : array.offsets.head? = some 0
  offsets_last : array.offsets.getLast? = some array.values.length
  bitmap_length : ∀ bitmap, array.validity = some bitmap →
    (values.length + 7) / 8 ≤ bitmap.length

theorem length_payload_mono (values : List (Option String)) {k l : Nat} (h : k ≤ l) :
    (payload (values.take k)).length ≤ (payload (values.take l)).length := by
  obtain ⟨rest, hrest⟩ := List.take_prefix_take_left h (l := values)
  rw [← hrest, payload_append, List.length_append]
  exact Nat.le_add_right _ _

theorem holds_stringArray {values : List (Option String)}
    (h : (payload values).length ≤ i32Max) :
    ∃ array, stringArray values = .ok array ∧ array.Holds values := by
  have harray : stringArray values = .ok ⟨values.length, values.countP Option.isNone,
      validityOf values, payloadOffsets values, payload values⟩ := by
    rw [stringArray_eq, if_pos h]
  refine ⟨_, harray, decode_stringArray harray, rfl, ?_, ?_, ?_, ?_, ?_⟩
  · simp [payloadOffsets]
  · exact List.pairwise_map.mpr (List.pairwise_lt_range.imp fun hlt =>
      length_payload_mono values hlt.le)
  · simp [payloadOffsets, List.range_succ_eq_map, payload]
  · simp [payloadOffsets, List.range_succ]
  · exact fun bitmap hbitmap => (length_validityOf hbitmap).ge

end DagMlData
