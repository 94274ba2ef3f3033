import Mathlib

/-!
# Row-major positions

An index vector of an array has one index for each axis. In row-major order the last axis runs
fastest: `position` is the place of an index vector in that order and `coords` the index vector at
a place. With a stride for each axis, `offset` is the distance from the first element.
-/

namespace RowMajor

/-- One index for each axis, below its size. -/
abbrev Inside (idx shape : List Nat) : Prop := List.Forall₂ (· < ·) idx shape

/-- The place of an index vector. -/
def position : List Nat → List Nat → Nat
  | _ :: shape, i :: idx => i * shape.prod + position shape idx
  | _, _ => 0

/-- The index vector at a place. -/
def coords : List Nat → Nat → List Nat
  | [], _ => []
  | dim :: shape, flat => flat / shape.prod % dim :: coords shape flat

def offset (strides idx : List Nat) : Nat := (List.zipWith (· * ·) idx strides).sum

/-- The strides of the row-major order itself, for elements of the given size. -/
def strides : List Nat → Nat → List Nat
  | [], _ => []
  | _ :: shape, size => size * shape.prod :: strides shape size

variable {shape idx : List Nat}

@[simp] theorem offset_cons (stride i : Nat) (strides idx : List Nat) :
    offset (stride :: strides) (i :: idx) = i * stride + offset strides idx := by
  simp [offset]

@[simp] theorem length_strides (shape : List Nat) (size : Nat) :
    (strides shape size).length = shape.length := by
  induction shape with
  | nil => rfl
  | cons _ shape ih => simp [strides, ih]

/-! ## Places and index vectors -/

theorem prod_pos (h : 0 ∉ shape) : 0 < shape.prod :=
  List.prod_pos fun _ hdim => Nat.pos_of_ne_zero fun hzero => h (hzero ▸ hdim)

theorem position_lt (h : Inside idx shape) : position shape idx < shape.prod := by
  induction h with
  | nil => exact Nat.one_pos
  | @cons i dim idx shape hi _ ih =>
    rw [position, List.prod_cons]
    calc i * shape.prod + position shape idx
        < i * shape.prod + shape.prod := Nat.add_lt_add_left ih _
      _ = (i + 1) * shape.prod := by rw [Nat.succ_mul]
      _ ≤ dim * shape.prod := Nat.mul_le_mul_right _ hi

theorem coords_inside (h : 0 ∉ shape) (flat : Nat) : Inside (coords shape flat) shape := by
  induction shape with
  | nil => exact .nil
  | cons dim shape ih =>
    rw [List.mem_cons, not_or] at h
    exact .cons (Nat.mod_lt _ (Nat.pos_of_ne_zero fun hzero => h.1 hzero.symm)) (ih h.2)

/-- The index vector of a place repeats with the size of the array. -/
theorem coords_add {flat whole : Nat} (h : shape.prod ∣ whole) :
    coords shape (whole + flat) = coords shape flat := by
  induction shape with
  | nil => rfl
  | cons dim shape ih =>
    rw [List.prod_cons] at h
    obtain ⟨times, rfl⟩ := h
    rw [coords, coords, ih (Dvd.dvd.mul_right (Dvd.intro_left dim rfl) times)]
    rcases Nat.eq_zero_or_pos shape.prod with hzero | hpos
    · rw [hzero, Nat.div_zero, Nat.div_zero]
    · have hwhole : dim * shape.prod * times = shape.prod * (dim * times) := by ring
      rw [hwhole, Nat.mul_add_div hpos, Nat.mul_add_mod]

theorem coords_position (h : Inside idx shape) : coords shape (position shape idx) = idx := by
  induction h with
  | nil => rfl
  | @cons i dim idx shape hi hrest ih =>
    have hlt := position_lt hrest
    have hpos : 0 < shape.prod := (Nat.zero_le _).trans_lt hlt
    rw [position, coords, coords_add (Dvd.intro_left i rfl), ih, Nat.mul_comm,
      Nat.mul_add_div hpos, Nat.div_eq_of_lt hlt, Nat.add_zero, Nat.mod_eq_of_lt hi]

theorem position_coords (shape : List Nat) (flat : Nat) :
    position shape (coords shape flat) = flat % shape.prod := by
  induction shape with
  | nil => rw [List.prod_nil, Nat.mod_one, coords, position.eq_def]
  | cons dim shape ih =>
    rw [coords, position, ih, List.prod_cons, Nat.mul_comm dim, Nat.mod_mul, Nat.add_comm,
      Nat.mul_comm shape.prod]

/-! ## Offsets -/

/-- No element is farther than the last one. -/
theorem offset_le_last (h : Inside idx shape) (strides : List Nat) :
    offset strides idx ≤ offset strides (shape.map (· - 1)) := by
  induction h generalizing strides with
  | nil => simp [offset]
  | @cons i dim idx shape hi _ ih =>
    cases strides with
    | nil => simp [offset]
    | cons stride strides =>
      rw [List.map_cons, offset_cons, offset_cons]
      exact Nat.add_le_add (Nat.mul_le_mul_right _ (Nat.le_sub_one_of_lt hi)) (ih strides)

/-- The strides of the row-major order lead to the place in that order. -/
theorem offset_strides (size : Nat) (h : idx.length = shape.length) :
    offset (strides shape size) idx = position shape idx * size := by
  induction shape generalizing idx with
  | nil => rw [position.eq_def, strides, offset, List.zipWith_nil_right, List.sum_nil, Nat.zero_mul]
  | cons dim shape ih =>
    cases idx with
    | nil => cases h
    | cons i idx =>
      rw [strides, offset_cons, position, ih (Nat.succ.inj h), Nat.add_mul]
      ring

theorem strides_pos (h : 0 ∉ shape) {size stride : Nat} (hsize : 0 < size)
    (hstride : stride ∈ strides shape size) : 0 < stride := by
  induction shape with
  | nil => cases hstride
  | cons dim shape ih =>
    rw [List.mem_cons, not_or] at h
    rcases List.mem_cons.mp hstride with rfl | hrest
    · exact Nat.mul_pos hsize (prod_pos h.2)
    · exact ih h.2 hrest

theorem position_last (h : 0 ∉ shape) : position shape (shape.map (· - 1)) + 1 = shape.prod := by
  induction shape with
  | nil => rfl
  | cons dim shape ih =>
    rw [List.mem_cons, not_or] at h
    rw [List.map_cons, position, Nat.add_assoc, ih h.2, List.prod_cons, ← Nat.succ_mul,
      Nat.succ_eq_add_one, Nat.sub_add_cancel (Nat.pos_of_ne_zero fun hzero => h.1 hzero.symm)]

/-! ## Elements -/

/-- The element at a place of a list of elements of one size. -/
def element {α : Type} (data : List α) (size place : Nat) : List α :=
  (data.drop (place * size)).take size

theorem element_flatten {α : Type} {size : Nat} {chunks : List (List α)}
    (hsize : ∀ chunk ∈ chunks, chunk.length = size) {place : Nat} {chunk : List α}
    (hget : chunks[place]? = some chunk) : element chunks.flatten size place = chunk := by
  induction chunks generalizing place with
  | nil => cases hget
  | cons first chunks ih =>
    have hfirst : first.length = size := hsize first List.mem_cons_self
    cases place with
    | zero =>
      cases hget
      rw [element, Nat.zero_mul, List.drop_zero, List.flatten_cons, ← hfirst, List.take_left]
    | succ place =>
      have hdrop : (place + 1) * size = first.length + place * size := by
        rw [hfirst, Nat.succ_mul, Nat.add_comm]
      rw [element, hdrop, List.flatten_cons, List.drop_append]
      rw [List.drop_of_length_le (Nat.le_add_right _ _), List.nil_append, Nat.add_sub_cancel_left]
      exact ih (fun chunk hmem => hsize chunk (List.mem_cons_of_mem _ hmem)) hget

/-- A list of elements of one size is its elements, one after the other. -/
theorem flatten_elements {α : Type} {size count : Nat} {data : List α}
    (h : data.length = count * size) :
    ((List.range count).map (element data size)).flatten = data := by
  induction count generalizing data with
  | zero =>
    rw [Nat.zero_mul] at h
    rw [List.eq_nil_of_length_eq_zero h]
    rfl
  | succ count ih =>
    have hrest : (data.drop size).length = count * size := by
      rw [List.length_drop, h, Nat.succ_mul, Nat.add_sub_cancel]
    have helement : ∀ place, element data size (place + 1) = element
      (data.drop size) size place := by
      intro place
      rw [element, element, List.drop_drop, Nat.succ_mul, Nat.add_comm]
    have hmap : (List.range count).map (element data size ∘ Nat.succ) =
        (List.range count).map (element (data.drop size) size) :=
      List.map_congr_left fun place _ => helement place
    rw [List.range_succ_eq_map, List.map_cons, List.map_map, List.flatten_cons, hmap, ih hrest,
      element, Nat.zero_mul, List.drop_zero, List.take_append_drop]

end RowMajor
