import DagMlData.JsonKeys
import DagMlData.JsonText
import DagMlData.Plan

/-!
# Structures as JSON

A structure is printed as a record: a list of keys that its type fixes, each with a value or left
out.

* `record_inj`: records are equal when every field is.
* `sortAllObjects_record_inj`: the same of records with sorted keys.
-/

namespace DagMlData

open SortOn

namespace Json

/-- The fields that are not left out. -/
def present (fields : List (String × Option Json)) : List (String × Json) :=
  fields.filterMap fun field => field.2.map fun value => (field.1, value)

/-- A structure as an object. -/
def record (fields : List (String × Option Json)) : Json := .object (present fields)

/-- A `usize`. -/
def ofUsize (n : Nat) : Json := .number (.int n)

/-- The value of a field that is left out when `skip` holds. -/
def skipIf (skip : Bool) (value : Json) : Option Json := if skip then none else some value

theorem present_cons_some (key : String) (value : Json) (fields : List (String × Option Json)) :
    present ((key, some value) :: fields) = (key, value) :: present fields := rfl

theorem mem_present {fields : List (String × Option Json)} {key : String} {value : Json} :
    (key, value) ∈ present fields ↔ (key, some value) ∈ fields := by
  simp only [present, List.mem_filterMap, Option.map_eq_some_iff, Prod.mk.injEq]
  constructor
  · rintro ⟨⟨_, _⟩, hmem, _, rfl, rfl, rfl⟩
    exact hmem
  · exact fun hmem => ⟨_, hmem, _, rfl, rfl, rfl⟩

theorem key_of_mem_present {fields : List (String × Option Json)} {field : String × Json}
    (h : field ∈ present fields) : field.1 ∈ fields.map Prod.fst :=
  List.mem_map.mpr ⟨_, mem_present.mp h, rfl⟩

theorem present_keys_nodup {fields : List (String × Option Json)}
    (h : (fields.map Prod.fst).Nodup) : ((present fields).map Prod.fst).Nodup := by
  induction fields with
  | nil => exact .nil
  | cons field fields ih =>
    obtain ⟨key, value⟩ := field
    obtain ⟨hnew, hrest⟩ := List.nodup_cons.mp h
    cases value with
    | none => exact ih hrest
    | some value =>
      refine List.nodup_cons.mpr ⟨fun hmem => ?_, ih hrest⟩
      obtain ⟨other, hother, hkey⟩ := List.mem_map.mp hmem
      exact hnew (hkey ▸ key_of_mem_present hother)

/-- The fields that are there tell the values under every key. -/
theorem eq_of_present_perm {fs gs : List (String × Option Json)}
    (hkeys : fs.map Prod.fst = gs.map Prod.fst) (hnodup : (fs.map Prod.fst).Nodup)
    (h : (present fs).Perm (present gs)) : fs = gs := by
  induction fs generalizing gs with
  | nil => exact (List.map_eq_nil_iff.mp hkeys.symm).symm
  | cons f fs ih =>
    cases gs with
    | nil => cases hkeys
    | cons g gs =>
      obtain ⟨key, v⟩ := f
      obtain ⟨key', w⟩ := g
      obtain ⟨(hkey : key = key'), htail⟩ := List.cons.inj hkeys
      obtain ⟨(hnew : key ∉ fs.map Prod.fst), hdistinct⟩ := List.nodup_cons.mp hnodup
      have hnew' : key ∉ gs.map Prod.fst := htail ▸ hnew
      subst hkey
      cases v with
      | none =>
        cases w with
        | none => rw [ih htail hdistinct h]
        | some w =>
          have hmem : (key, w) ∈ present fs := h.symm.subset List.mem_cons_self
          exact absurd (key_of_mem_present hmem) hnew
      | some v =>
        cases w with
        | none =>
          have hmem : (key, v) ∈ present gs := h.subset List.mem_cons_self
          exact absurd (key_of_mem_present hmem) hnew'
        | some w =>
          rw [present_cons_some, present_cons_some] at h
          have hvw : v = w := by
            rcases List.mem_cons.mp (h.subset List.mem_cons_self) with heq | hmem
            · exact (Prod.mk.inj heq).2
            · exact absurd (key_of_mem_present hmem) hnew'
          subst hvw
          rw [ih htail hdistinct h.cons_inv]

/-- Records of one type are equal when every field is. -/
theorem record_inj {fs gs : List (String × Option Json)}
    (hkeys : fs.map Prod.fst = gs.map Prod.fst) (hnodup : (fs.map Prod.fst).Nodup) :
    record fs = record gs ↔ fs = gs := by
  constructor
  · intro h
    exact eq_of_present_perm hkeys hnodup (.of_eq (Json.object.inj h))
  · intro h
    rw [h]

/-- The field with sorted objects in its value. -/
def sortedOption (field : String × Option Json) : String × Option Json :=
  (field.1, field.2.map sortAllObjects)

theorem map_sortedField_present (fs : List (String × Option Json)) :
    (present fs).map sortedField = present (fs.map sortedOption) := by
  induction fs with
  | nil => rfl
  | cons f fs ih =>
    obtain ⟨key, value⟩ := f
    cases value with
    | none => exact ih
    | some value => exact congrArg (_ :: ·) ih

theorem map_fst_sortedOption (fs : List (String × Option Json)) :
    (fs.map sortedOption).map Prod.fst = fs.map Prod.fst := by
  rw [List.map_map]
  rfl

/-- Sorting the keys of records of one type keeps them apart. -/
theorem sortAllObjects_record_inj {fs gs : List (String × Option Json)}
    (hkeys : fs.map Prod.fst = gs.map Prod.fst) (hnodup : (fs.map Prod.fst).Nodup) :
    sortAllObjects (record fs) = sortAllObjects (record gs) ↔
      fs.map sortedOption = gs.map sortedOption := by
  rw [record, record, sortAllObjects_object_inj (present_keys_nodup hnodup),
    map_sortedField_present, map_sortedField_present]
  constructor
  · intro hperm
    refine eq_of_present_perm ?_ ?_ hperm
    · rwa [map_fst_sortedOption, map_fst_sortedOption]
    · rwa [map_fst_sortedOption]
  · intro h
    rw [h]

/-! ## The values of fields -/

theorem skipIf_eq_iff {skip skip' : Bool} {value value' : Json}
    (hskip : value = value' → skip = skip')
    (hvalue : skip = true → skip' = true → value = value') :
    skipIf skip value = skipIf skip' value' ↔ value = value' := by
  cases skip with
  | true =>
    cases skip' with
    | true => exact iff_of_true rfl (hvalue rfl rfl)
    | false =>
      refine iff_of_false (Option.some_ne_none _).symm fun h => ?_
      cases hskip h
  | false =>
    cases skip' with
    | true =>
      refine iff_of_false (Option.some_ne_none _) fun h => ?_
      cases hskip h
    | false => exact Option.some_inj

section Codes
variable {α β : Type} {f : α → Json} {g : α → β}

theorem map_option_eq_iff {o o' : Option α}
    (h : ∀ a, o = some a → ∀ b, o' = some b → (f a = f b ↔ g a = g b)) :
    o.map f = o'.map f ↔ o.map g = o'.map g := by
  cases o with
  | none =>
    cases o' with
    | none => exact iff_of_true rfl rfl
    | some b => exact iff_of_false (Option.some_ne_none _).symm (Option.some_ne_none _).symm
  | some a =>
    cases o' with
    | none => exact iff_of_false (Option.some_ne_none _) (Option.some_ne_none _)
    | some b => exact Option.some_inj.trans ((h a rfl b rfl).trans Option.some_inj.symm)

theorem ofList_eq_iff {xs ys : List α} (h : ∀ x ∈ xs, ∀ y ∈ ys, f x = f y ↔ g x = g y) :
    ofList f xs = ofList f ys ↔ xs.map g = ys.map g :=
  Json.array.injEq _ _ ▸ map_eq_map_congr h

/-- A list that is left out when it is empty. -/
theorem skipIf_ofList_eq_iff {xs ys : List α}
    (h : ∀ x ∈ xs, ∀ y ∈ ys, f x = f y ↔ g x = g y) :
    skipIf xs.isEmpty (ofList f xs) = skipIf ys.isEmpty (ofList f ys) ↔ xs.map g = ys.map g := by
  rw [skipIf_eq_iff, ofList_eq_iff h]
  · intro heq
    rw [← List.isEmpty_map (f := f), Json.array.inj heq, List.isEmpty_map]
  · intro hxs hys
    rw [List.isEmpty_iff.mp hxs, List.isEmpty_iff.mp hys]

end Codes

/-! ## Maps -/

section Maps
variable {κ α β : Type} [Ord κ] [Std.TransOrd κ] {key : κ → String}
  {f : α → Json} {g : α → β}

/-- A map as an object, in key order. -/
def ofEntries (key : κ → String) (f : α → Json) (m : BTreeMap κ α) : Json :=
  .object (m.toList.map fun p => (key p.1, f p.2))

/-- The values of a map. -/
def valuesOf (m : BTreeMap κ α) : List α := m.toList.map Prod.snd

theorem ofEntries_eq_iff (hkey : Function.Injective key) {m m' : BTreeMap κ α}
    (h : ∀ x ∈ valuesOf m, ∀ y ∈ valuesOf m', f x = f y ↔ g x = g y) :
    ofEntries key f m = ofEntries key f m' ↔ (m.map fun _ => g) = m'.map fun _ => g := by
  rw [← Std.ExtTreeMap.toList_inj, Std.ExtTreeMap.toList_map,
    Std.ExtTreeMap.toList_map, ofEntries,
    ofEntries, Json.object.injEq]
  refine map_eq_map_congr fun p hp q hq => ?_
  rw [Prod.mk.injEq, Prod.mk.injEq, hkey.eq_iff,
    h p.2 (List.mem_map_of_mem hp) q.2 (List.mem_map_of_mem hq)]

theorem skipIf_ofEntries_eq_iff (hkey : Function.Injective key) {m m' : BTreeMap κ α}
    (h : ∀ x ∈ valuesOf m, ∀ y ∈ valuesOf m', f x = f y ↔ g x = g y) :
    skipIf m.isEmpty (ofEntries key f m) = skipIf m'.isEmpty (ofEntries key f m') ↔
      (m.map fun _ => g) = m'.map fun _ => g := by
  rw [skipIf_eq_iff, ofEntries_eq_iff hkey h]
  · intro heq
    rw [← Std.ExtTreeMap.isEmpty_toList, ← List.isEmpty_map (f := fun p => (key p.1, f p.2)),
      Json.object.inj heq, List.isEmpty_map, Std.ExtTreeMap.isEmpty_toList]
  · intro hm hm'
    rw [Std.ExtTreeMap.isEmpty_iff.mp hm, Std.ExtTreeMap.isEmpty_iff.mp hm']

theorem sortAllObjects_ofList (xs : List α) :
    sortAllObjects (ofList f xs) = ofList (fun x => sortAllObjects (f x)) xs := by
  rw [ofList, sortAllObjects_array, List.map_map]
  rfl

/-- An object in the order of its keys stays in this order. -/
theorem sortAllObjects_ofEntries (hkey : ∀ a b, compare (key a) (key b) = compare a b)
    (m : BTreeMap κ α) :
    sortAllObjects (ofEntries key f m) = ofEntries key (fun x => sortAllObjects (f x)) m := by
  rw [ofEntries, sortAllObjects_object, List.map_map, ofEntries]
  refine congrArg Json.object (List.Pairwise.insertionSort_eq ?_)
  rw [List.pairwise_map]
  refine Std.ExtTreeMap.ordered_keys_toList.imp fun {p q} hlt => ?_
  show (compare (key p.1) (key q.1)).isLE = true
  rw [hkey, hlt]
  rfl

/-- JSON values in a map. -/
theorem sortAllObjects_ofEntries_id (m : BTreeMap String Json) :
    sortAllObjects (ofEntries id id m) = ofMap m :=
  sortAllObjects_ofEntries (fun _ _ => rfl) m

@[simp] theorem sortAllObjects_string (s : String) : sortAllObjects (.string s) = .string s := rfl

@[simp] theorem sortAllObjects_toJson {kind : IdKind} (a : Ident kind) :
    sortAllObjects a.toJson = a.toJson := rfl

theorem map_skipIf {value : Json} {skip : Bool} :
    (skipIf skip value).map sortAllObjects = skipIf skip (sortAllObjects value) := by
  cases skip <;> rfl

end Maps

/-! ## Injective codes -/

theorem ofOption_injective {α : Type} {f : α → Json} (hf : Function.Injective f)
    (hnull : ∀ a, f a ≠ .null) : Function.Injective (ofOption f) := by
  intro a b h
  cases a with
  | none =>
    cases b with
    | none => rfl
    | some y => exact absurd h.symm (hnull y)
  | some x =>
    cases b with
    | none => exact absurd h (hnull x)
    | some y => rw [hf h]

theorem ofList_injective {α : Type} {f : α → Json} (hf : Function.Injective f) :
    Function.Injective (ofList f) :=
  fun _ _ h => List.map_injective_iff.mpr hf (Json.array.inj h)

theorem string_injective : Function.Injective Json.string := fun _ _ => Json.string.inj

/-- Numbers of finite floats. -/
theorem ofF64_inj {x y : F64} (hx : x.isFinite = true) (hy : y.isFinite = true)
    (h : ofF64 x = ofF64 y) : x = y := by
  rw [ofF64, ofF64, if_pos hx, if_pos hy] at h
  exact JsonNumber.float.inj (Json.number.inj h)

/-- A map is printed up to the order of the keys inside its values. -/
theorem ofMap_inj {m m' : BTreeMap String Json} (h : ofMap m = ofMap m') :
    m.map (fun _ => sortAllObjects) = m'.map fun _ => sortAllObjects := by
  refine Std.ExtTreeMap.toList_inj.mp ?_
  rw [Std.ExtTreeMap.toList_map, Std.ExtTreeMap.toList_map]
  exact Json.object.inj h

/-- Optional fields of one key, before fields that do not have it. -/
theorem fieldUnless_append {skip skip' : Bool} {key : String} {value value' : Json}
    {rest rest' : List (String × Json)} (hrest : key ∉ rest.map Prod.fst)
    (hrest' : key ∉ rest'.map Prod.fst)
    (h : fieldUnless skip key value ++ rest = fieldUnless skip' key value' ++ rest') :
    skip = skip' ∧ (skip = false → value = value') ∧ rest = rest' := by
  cases skip with
  | true =>
    cases skip' with
    | true => exact ⟨rfl, nofun, h⟩
    | false =>
      rw [show rest = (key, value') :: rest' from h] at hrest
      exact absurd List.mem_cons_self hrest
  | false =>
    cases skip' with
    | true =>
      rw [← show (key, value) :: rest = rest' from h] at hrest'
      exact absurd List.mem_cons_self hrest'
    | false =>
      obtain ⟨hhead, htail⟩ := List.cons.inj h
      exact ⟨rfl, fun _ => (Prod.mk.inj hhead).2, htail⟩

end Json

theorem Ident.toJson_injective {kind : IdKind} :
    Function.Injective (Ident.toJson : Ident kind → Json) :=
  fun _ _ h => Ident.ext_value (Json.string.inj h)

namespace Json

theorem ofUsize_injective : Function.Injective ofUsize := by
  intro m n h
  exact Int.ofNat.inj (JsonNumber.int.inj (Json.number.inj h))

@[simp] theorem ofOption_string_inj {a b : Option String} :
    ofOption .string a = ofOption .string b ↔ a = b :=
  (ofOption_injective string_injective fun _ => Json.noConfusion).eq_iff

@[simp] theorem ofOption_ofUsize_inj {a b : Option Nat} :
    ofOption ofUsize a = ofOption ofUsize b ↔ a = b :=
  (ofOption_injective ofUsize_injective fun _ => Json.noConfusion).eq_iff

@[simp] theorem ofOption_toJson_inj {kind : IdKind} {a b : Option (Ident kind)} :
    ofOption Ident.toJson a = ofOption Ident.toJson b ↔ a = b :=
  (ofOption_injective Ident.toJson_injective fun _ => Json.noConfusion).eq_iff

@[simp] theorem ofList_string_inj {xs ys : List String} :
    ofList .string xs = ofList .string ys ↔ xs = ys :=
  (ofList_injective string_injective).eq_iff

@[simp] theorem ofList_toJson_inj {kind : IdKind} {xs ys : List (Ident kind)} :
    ofList Ident.toJson xs = ofList Ident.toJson ys ↔ xs = ys :=
  (ofList_injective Ident.toJson_injective).eq_iff

@[simp] theorem toJson_inj {kind : IdKind} {a b : Ident kind} : a.toJson = b.toJson ↔ a = b :=
  Ident.toJson_injective.eq_iff

@[simp] theorem ofMap_eq_iff {m m' : BTreeMap String Json} :
    ofMap m = ofMap m' ↔ (m.map fun _ => sortAllObjects) = m'.map fun _ => sortAllObjects :=
  ofEntries_eq_iff Function.injective_id fun _ _ _ _ => Iff.rfl

/-! ## Printing -/

mutual

theorem Fits.prints : ∀ {j : Json}, j.Fits → j.Prints
  | .null, _ => trivial
  | .bool _, _ => trivial
  | .number n, h => by
    cases n with
    | int n => trivial
    | float x => exact h
  | .string _, _ => trivial
  | .array items, h => by
    rw [Fits] at h
    rw [Prints]
    exact printsItems_of_fits h
  | .object fields, h => by
    rw [Fits] at h
    rw [Prints]
    exact printsFields_of_fits h.2

theorem printsItems_of_fits : ∀ {items : List Json}, FitsItems items → PrintsItems items
  | [], _ => trivial
  | _ :: _, h => by
    rw [FitsItems] at h
    exact ⟨h.1.prints, printsItems_of_fits h.2⟩

theorem printsFields_of_fits : ∀ {fields : List (String × Json)}, FitsFields fields →
    PrintsFields fields
  | [], _ => trivial
  | (_, _) :: _, h => by
    rw [FitsFields] at h
    exact ⟨h.1.prints, printsFields_of_fits h.2⟩

end

@[simp] theorem prints_null : Prints .null := trivial

@[simp] theorem prints_bool (b : Bool) : Prints (.bool b) := trivial

@[simp] theorem prints_string (s : String) : Prints (.string s) := trivial

@[simp] theorem prints_int (n : Int) : Prints (.number (.int n)) := trivial

@[simp] theorem prints_ofUsize (n : Nat) : Prints (ofUsize n) := trivial

@[simp] theorem prints_toJson {kind : IdKind} (a : Ident kind) : a.toJson.Prints := trivial

@[simp] theorem prints_ofF64 (x : F64) : Prints (ofF64 x) := by
  rw [ofF64]
  split
  · assumption
  · trivial

@[simp] theorem prints_array {items : List Json} :
    Prints (.array items) ↔ ∀ item ∈ items, item.Prints := by
  rw [Prints, printsItems_iff]

@[simp] theorem prints_object {fields : List (String × Json)} :
    Prints (.object fields) ↔ ∀ field ∈ fields, field.2.Prints := by
  rw [Prints, printsFields_iff]

mutual

theorem prints_sortAllObjects : ∀ {j : Json}, j.Prints → j.sortAllObjects.Prints
  | .null, _ => trivial
  | .bool _, _ => trivial
  | .number _, h => h
  | .string _, _ => trivial
  | .array items, h => by
    rw [Prints] at h
    rw [sortAllObjects_array, prints_array]
    exact prints_sortItems h
  | .object fields, h => by
    rw [Prints] at h
    rw [sortAllObjects_object, prints_object]
    intro field hfield
    exact prints_sortFields h field ((perm_sortOn Prod.fst _).mem_iff.mp hfield)

theorem prints_sortItems : ∀ {items : List Json}, PrintsItems items →
    ∀ item ∈ items.map sortAllObjects, item.Prints
  | [], _ => List.forall_mem_nil _
  | _ :: _, h =>
    List.forall_mem_cons.mpr ⟨prints_sortAllObjects h.1, prints_sortItems h.2⟩

theorem prints_sortFields : ∀ {fields : List (String × Json)}, PrintsFields fields →
    ∀ field ∈ fields.map sortedField, field.2.Prints
  | [], _ => List.forall_mem_nil _
  | (_, _) :: _, h =>
    List.forall_mem_cons.mpr ⟨prints_sortAllObjects h.1, prints_sortFields h.2⟩

end

@[simp] theorem prints_record {fields : List (String × Option Json)} :
    (record fields).Prints ↔ ∀ field ∈ fields, ∀ value, field.2 = some value →
      value.Prints := by
  rw [record, prints_object]
  constructor
  · rintro h ⟨key, _⟩ hfield value rfl
    exact h (key, value) (mem_present.mpr hfield)
  · rintro h ⟨key, value⟩ hfield
    exact h _ (mem_present.mp hfield) value rfl

@[simp] theorem skipIf_eq_some {skip : Bool} {value value' : Json} :
    skipIf skip value = some value' ↔ skip = false ∧ value = value' := by
  cases skip <;> simp [skipIf]

@[simp] theorem prints_ofOption {α : Type} {f : α → Json} {o : Option α} :
    (ofOption f o).Prints ↔ ∀ a, o = some a → (f a).Prints := by
  cases o <;> simp [ofOption]

@[simp] theorem prints_ofList {α : Type} {f : α → Json} {xs : List α} :
    (ofList f xs).Prints ↔ ∀ x ∈ xs, (f x).Prints := by
  simp [ofList]

@[simp] theorem prints_ofEntries {κ α : Type} [Ord κ] [Std.TransOrd κ] {key : κ → String}
    {f : α → Json} {m : BTreeMap κ α} : (ofEntries key f m).Prints ↔
      ∀ x ∈ valuesOf m, (f x).Prints := by
  simp only [ofEntries, prints_object, valuesOf, List.forall_mem_map]

/-- The values of a map, printed with sorted keys. -/
theorem prints_ofMap {m : BTreeMap String Json} (h : ∀ j ∈ valuesOf m, j.Prints) :
    (ofMap m).Prints := by
  show (ofEntries id sortAllObjects m).Prints
  rw [prints_ofEntries]
  exact fun j hj => prints_sortAllObjects (h j hj)

end Json

/-! ## Maps of JSON values -/

/-- The map with sorted keys inside of its values. -/
def sortedMap (m : BTreeMap String Json) : BTreeMap String Json :=
    m.map fun _ => Json.sortAllObjects

theorem skipIf_ofMap_eq_iff {m m' : BTreeMap String Json} :
    Json.skipIf m.isEmpty (.ofMap m) = Json.skipIf m'.isEmpty (.ofMap m') ↔
      sortedMap m = sortedMap m' :=
  Json.skipIf_ofEntries_eq_iff Function.injective_id fun _ _ _ _ => Iff.rfl

end DagMlData
