import DagMlData.Fingerprint
import DagMlData.JsonEq
import DagMlData.Lib.SortOn

/-!
# The order of keys

`Json.SameUpToKeys` is equality of values up to the order of the keys of their objects, at any
depth. Values with sorted objects are equal exactly when it holds (`sortAllObjects_eq_iff`).
-/

namespace DagMlData

namespace Json

open SortOn

mutual

/-- The values are equal up to the order of the keys of objects. -/
inductive SameUpToKeys : Json → Json → Prop
  | null : SameUpToKeys .null .null
  | bool (b : Bool) : SameUpToKeys (.bool b) (.bool b)
  | number (n : JsonNumber) : SameUpToKeys (.number n) (.number n)
  | string (s : String) : SameUpToKeys (.string s) (.string s)
  | array {xs ys : List Json} : SameItems xs ys → SameUpToKeys (.array xs) (.array ys)
  | object {fs gs : List (String × Json)} : SameFields fs gs →
      SameUpToKeys (.object fs) (.object gs)

inductive SameItems : List Json → List Json → Prop
  | nil : SameItems [] []
  | cons {x y : Json} {xs ys : List Json} : SameUpToKeys x y → SameItems xs ys →
      SameItems (x :: xs) (y :: ys)

/-- The first field of the one object is some field of the other. -/
inductive SameFields : List (String × Json) → List (String × Json) → Prop
  | nil : SameFields [] []
  | cons {key : String} {v w : Json} {fs gs hs : List (String × Json)} : SameUpToKeys v w →
      SameFields fs (gs ++ hs) → SameFields ((key, v) :: fs) (gs ++ (key, w) :: hs)

end

/-! ## Sorted objects -/

theorem sortItems_eq_map (xs : List Json) : sortItems xs = xs.map sortAllObjects := by
  induction xs with
  | nil => rfl
  | cons x xs ih => rw [sortItems, ih, List.map_cons]

/-- The field with sorted objects in its value. -/
def sortedField (field : String × Json) : String × Json := (field.1, sortAllObjects field.2)

theorem sortFields_eq_map (fs : List (String × Json)) : sortFields fs = fs.map sortedField := by
  induction fs with
  | nil => rfl
  | cons f fs ih => rw [sortFields, ih, List.map_cons, sortedField]

theorem sortAllObjects_object (fs : List (String × Json)) :
    sortAllObjects (.object fs) = .object (sortOn Prod.fst (fs.map sortedField)) := by
  have hsame := List.map_insertionSort (fun a b : String × Json => compare a.1 b.1 ≠ .gt)
    (fun a b => (compare a.1 b.1).isLE = true) id (fs.map sortedField) fun a _ b _ => by
      rw [id, id]
      cases compare a.1 b.1 <;> simp
  rw [List.map_id, List.map_id] at hsame
  rw [sortAllObjects, sortFields_eq_map, hsame, sortOn]

theorem sortAllObjects_array (xs : List Json) :
    sortAllObjects (.array xs) = .array (xs.map sortAllObjects) := by
  rw [sortAllObjects, sortItems_eq_map]

theorem map_fst_sortedField (fs : List (String × Json)) :
    (fs.map sortedField).map Prod.fst = fs.map Prod.fst := by
  rw [List.map_map]
  rfl

/-- Objects with sorted keys are equal when their fields are, in some order. -/
theorem sortAllObjects_object_inj {fs gs : List (String × Json)} (h : (fs.map Prod.fst).Nodup) :
    sortAllObjects (.object fs) = sortAllObjects (.object gs) ↔
      (fs.map sortedField).Perm (gs.map sortedField) := by
  rw [sortAllObjects_object, sortAllObjects_object, Json.object.injEq]
  constructor
  · intro heq
    exact (perm_sortOn Prod.fst _).symm.trans (heq ▸ perm_sortOn Prod.fst _)
  · intro hperm
    refine sortOn_congr hperm ?_
    rwa [map_fst_sortedField]

mutual

theorem sortAllObjects_eq : ∀ {j k : Json}, j.SameUpToKeys k → j.Fits →
    j.sortAllObjects = k.sortAllObjects
  | .null, _, h, _ => by
    cases h
    rfl
  | .bool _, _, h, _ => by
    cases h
    rfl
  | .number _, _, h, _ => by
    cases h
    rfl
  | .string _, _, h, _ => by
    cases h
    rfl
  | .array xs, _, h, hfits => by
    cases h with
    | array hitems =>
      rw [Fits] at hfits
      rw [sortAllObjects_array, sortAllObjects_array, sortedItems_eq hitems hfits]
  | .object fs, _, h, hfits => by
    cases h with
    | object hfields =>
      rw [Fits] at hfits
      exact (sortAllObjects_object_inj hfits.1).mpr (sortedFields_perm hfields hfits.2)

theorem sortedItems_eq : ∀ {xs ys : List Json}, SameItems xs ys → FitsItems xs →
    xs.map sortAllObjects = ys.map sortAllObjects
  | [], _, h, _ => by
    cases h
    rfl
  | x :: xs, _, h, hfits => by
    cases h with
    | cons hvalue hitems =>
      rw [FitsItems] at hfits
      rw [List.map_cons, List.map_cons, sortAllObjects_eq hvalue hfits.1,
        sortedItems_eq hitems hfits.2]

theorem sortedFields_perm : ∀ {fs gs : List (String × Json)}, SameFields fs gs →
    FitsFields fs →
    (fs.map sortedField).Perm (gs.map sortedField)
  | [], _, h, _ => by
    cases h
    exact .nil
  | (key, v) :: fs, _, h, hfits => by
    cases h with
    | cons hvalue hfields =>
      rw [FitsFields] at hfits
      have hperm := sortedFields_perm hfields hfits.2
      rw [List.map_append] at hperm
      rw [List.map_append, List.map_cons, List.map_cons, sortedField, sortedField,
        sortAllObjects_eq hvalue hfits.1]
      exact (hperm.cons _).trans List.perm_middle.symm

end

mutual

theorem sameUpToKeys_of_sort : ∀ {j k : Json}, j.sortAllObjects = k.sortAllObjects →
    j.SameUpToKeys k
  | .null, k, h => by
    cases k <;> simp only [sortAllObjects, reduceCtorEq] at h
    exact .null
  | .bool b, k, h => by
    cases k <;> simp only [sortAllObjects, reduceCtorEq, Json.bool.injEq] at h
    exact h ▸ .bool b
  | .number n, k, h => by
    cases k <;> simp only [sortAllObjects, reduceCtorEq, Json.number.injEq] at h
    exact h ▸ .number n
  | .string s, k, h => by
    cases k <;> simp only [sortAllObjects, reduceCtorEq, Json.string.injEq] at h
    exact h ▸ .string s
  | .array xs, k, h => by
    rw [sortAllObjects_array] at h
    cases k with
    | array ys =>
      rw [sortAllObjects_array] at h
      exact .array (sameItems_of_sort (Json.array.inj h))
    | null | bool | number | string | object => simp only [sortAllObjects, reduceCtorEq] at h
  | .object fs, k, h => by
    rw [sortAllObjects_object] at h
    cases k with
    | object gs =>
      rw [sortAllObjects_object] at h
      refine .object (sameFields_of_sort ?_)
      exact (perm_sortOn Prod.fst _).symm.trans (Json.object.inj h ▸ perm_sortOn Prod.fst _)
    | null | bool | number | string | array => simp only [sortAllObjects, reduceCtorEq] at h

theorem sameItems_of_sort : ∀ {xs ys : List Json},
    xs.map sortAllObjects = ys.map sortAllObjects → SameItems xs ys
  | [], ys, h => by
    rw [List.map_eq_nil_iff.mp h.symm]
    exact .nil
  | x :: xs, ys, h => by
    cases ys with
    | nil => cases h
    | cons y ys =>
      obtain ⟨hvalue, hitems⟩ := List.cons.inj h
      exact .cons (sameUpToKeys_of_sort hvalue) (sameItems_of_sort hitems)

theorem sameFields_of_sort : ∀ {fs gs : List (String × Json)},
    (fs.map sortedField).Perm (gs.map sortedField) → SameFields fs gs
  | [], gs, h => by
    rw [List.map_eq_nil_iff.mp h.nil_eq.symm]
    exact .nil
  | (key, v) :: fs, gs, h => by
    obtain ⟨⟨key', w⟩, hmem, heq⟩ := List.mem_map.mp (h.subset List.mem_cons_self)
    obtain ⟨before, after, rfl⟩ := List.append_of_mem hmem
    rw [List.map_append, List.map_cons, List.map_cons, heq] at h
    obtain ⟨hkey, hvalue⟩ := Prod.mk.inj heq
    cases hkey
    refine .cons (sameUpToKeys_of_sort hvalue.symm) (sameFields_of_sort ?_)
    rw [List.map_append]
    exact (h.trans List.perm_middle).cons_inv

end

/-- Sorting the objects identifies the values that differ in the order of keys, and no others. -/
theorem sortAllObjects_eq_iff {j k : Json} (h : j.Fits) :
    j.sortAllObjects = k.sortAllObjects ↔ j.SameUpToKeys k :=
  ⟨sameUpToKeys_of_sort, fun hsame => sortAllObjects_eq hsame h⟩

end Json

end DagMlData
