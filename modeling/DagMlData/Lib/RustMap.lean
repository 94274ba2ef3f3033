import Mathlib

/-!
# Ordered maps and sets

`BTreeMap` and `BTreeSet` are the extensional tree map and tree set of the standard library,
ordered by `compare`. Two of them are equal when they have the same entries, so a statement
that a map did not change is an equation.

* `BTreeMap.collect`: a map collected from an iterator; a later entry replaces an earlier one.
* `BTreeMap.group`: a map of lists, filled by `entry(key).or_default().push(value)`.
* `BTreeSet.collect`: a set collected from an iterator.
* `BTreeSet.differenceNext`, `BTreeSet.intersectionNext`: the least element of a difference or
  of an intersection, as `a.difference(&b).next()` gives it.
-/

abbrev BTreeMap (α β : Type) [Ord α] : Type := Std.ExtTreeMap α β compare

abbrev BTreeSet (α : Type) [Ord α] : Type := Std.ExtTreeSet α compare

namespace BTreeMap

variable {α β : Type} [Ord α] [Std.TransOrd α] [Std.LawfulEqOrd α]

/-- A map collected from an iterator over entries. -/
def collect (l : List (α × β)) : BTreeMap α β :=
  l.foldl (fun m p => m.insert p.1 p.2) ∅

omit [Std.LawfulEqOrd α] in
theorem collect_append_single (l : List (α × β)) (p : α × β) :
    collect (l ++ [p]) = (collect l).insert p.1 p.2 := by
  simp [collect]

omit [Std.LawfulEqOrd α] in
@[simp] theorem collect_nil : collect ([] : List (α × β)) = ∅ := rfl

/-- An entry of the collected map is one of the collected entries. -/
theorem mem_of_getElem?_collect {l : List (α × β)} {k : α} {v : β}
    (h : (collect l)[k]? = some v) : (k, v) ∈ l := by
  induction l using List.reverseRecOn with
  | nil => simp [collect] at h
  | append_singleton l p ih =>
    rw [collect_append_single, Std.ExtTreeMap.getElem?_insert] at h
    split at h
    · next heq =>
      have hk := Std.LawfulEqOrd.eq_of_compare heq
      cases h
      subst hk
      simp
    · exact List.mem_append_left _ (ih h)

/-- Every collected key has an entry, the last one collected for it. -/
theorem exists_getElem?_collect {l : List (α × β)} {k : α} {v : β} (h : (k, v) ∈ l) :
    ∃ w, (collect l)[k]? = some w := by
  induction l using List.reverseRecOn with
  | nil => cases h
  | append_singleton l p ih =>
    rw [collect_append_single, Std.ExtTreeMap.getElem?_insert]
    split
    · exact ⟨_, rfl⟩
    · next hne =>
      rcases List.mem_append.mp h with hl | hp
      · exact ih hl
      · rw [List.mem_singleton] at hp
        subst hp
        exact absurd Std.ReflCmp.compare_self hne

/-- With distinct keys, the collected map has exactly the collected entries. -/
theorem getElem?_collect_of_nodup {l : List (α × β)} (hnd : (l.map Prod.fst).Nodup) {k : α}
    {v : β} : (collect l)[k]? = some v ↔ (k, v) ∈ l := by
  refine ⟨mem_of_getElem?_collect, fun h => ?_⟩
  obtain ⟨w, hw⟩ := exists_getElem?_collect h
  have hmem := mem_of_getElem?_collect hw
  have heq : (k, w) = (k, v) := List.inj_on_of_nodup_map hnd hmem h rfl
  have hwv : w = v := congrArg Prod.snd heq
  rw [hw, hwv]

/-- With distinct keys, the collected map has the first entry of the list under a key. -/
theorem getElem?_collect_eq_lookup [BEq α] [LawfulBEq α] {l : List (α × β)}
    (hnd : (l.map Prod.fst).Nodup) (k : α) : (collect l)[k]? = l.lookup k := by
  cases hlookup : l.lookup k with
  | some v =>
    obtain ⟨before, after, rfl, -⟩ := List.lookup_eq_some_iff.mp hlookup
    exact (getElem?_collect_of_nodup hnd).mpr (List.mem_append_right _ List.mem_cons_self)
  | none =>
    rw [List.lookup_eq_none_iff] at hlookup
    cases hget : (collect l)[k]? with
    | none => rfl
    | some v =>
      have hne := hlookup (k, v) (mem_of_getElem?_collect hget)
      rw [bne_self_eq_false] at hne
      cases hne

theorem mem_collect {l : List (α × β)} {k : α} : k ∈ collect l ↔ k ∈ l.map Prod.fst := by
  rw [Std.ExtTreeMap.mem_iff_isSome_getElem?, Option.isSome_iff_exists, List.mem_map]
  constructor
  · rintro ⟨v, hv⟩
    exact ⟨(k, v), mem_of_getElem?_collect hv, rfl⟩
  · rintro ⟨⟨_, v⟩, hp, rfl⟩
    exact exists_getElem?_collect hp

theorem getElem?_insert_of_ne {m : BTreeMap α β} {k a : α} {v : β} (h : k ≠ a) :
    (m.insert k v)[a]? = m[a]? := by
  simp [Std.ExtTreeMap.getElem?_insert, h]

/-- The second value under a key replaces the first. -/
theorem insert_insert {m : BTreeMap α β} {k : α} {v v' : β} :
    (m.insert k v).insert k v' = m.insert k v' := by
  refine Std.ExtTreeMap.ext_getElem? fun a => ?_
  simp only [Std.ExtTreeMap.getElem?_insert]
  split <;> rfl

/-- A new key that is removed again leaves no trace. -/
theorem erase_insert {m : BTreeMap α β} {k : α} {v : β}
    (h : k ∉ m) : (m.insert k v).erase k = m := by
  refine Std.ExtTreeMap.ext_getElem? fun a => ?_
  rw [Std.ExtTreeMap.getElem?_erase, Std.ExtTreeMap.getElem?_insert]
  split
  · next heq =>
    rw [Std.LawfulEqOrd.eq_of_compare heq] at h
    exact (Std.ExtTreeMap.getElem?_eq_none h).symm
  · rfl

theorem getElem?_erase_of_ne {m : BTreeMap α β} {k a : α} (h : k ≠ a) :
    (m.erase k)[a]? = m[a]? := by
  simp [Std.ExtTreeMap.getElem?_erase, h]

/-- Removes the keys, one after the other. -/
def eraseAll (m : BTreeMap α β) (keys : List α) : BTreeMap α β := keys.foldl (·.erase ·) m

theorem getElem?_eraseAll [DecidableEq α] {m : BTreeMap α β} {keys : List α} {k : α} :
    (eraseAll m keys)[k]? = if k ∈ keys then none else m[k]? := by
  induction keys generalizing m with
  | nil => simp [eraseAll]
  | cons a keys ih =>
    rw [eraseAll, List.foldl_cons, ← eraseAll, ih]
    by_cases hka : a = k
    · simp [hka]
    · simp [getElem?_erase_of_ne hka, List.mem_cons, Ne.symm hka]

omit [Std.LawfulEqOrd α] in
theorem mem_iff_exists_getElem? {m : BTreeMap α β}
    {k : α} : k ∈ m ↔ ∃ v, m[k]? = some v := by
  rw [Std.ExtTreeMap.mem_iff_isSome_getElem?, Option.isSome_iff_exists]

omit [Std.LawfulEqOrd α] in
theorem mem_congr {m m' : BTreeMap α β} {k : α} (h : m[k]? = m'[k]?) : k ∈ m ↔ k ∈ m' := by
  rw [mem_iff_exists_getElem?, mem_iff_exists_getElem?, h]

theorem mem_eraseAll [DecidableEq α] {m : BTreeMap α β} {keys : List α} {k : α} :
    k ∈ eraseAll m keys ↔ k ∉ keys ∧ k ∈ m := by
  rw [mem_iff_exists_getElem?, getElem?_eraseAll, mem_iff_exists_getElem?]
  by_cases h : k ∈ keys <;> simp [h]

/-- With distinct keys, the collected map has as many entries as were collected. -/
theorem size_collect {l : List (α × β)} (hnd : (l.map Prod.fst).Nodup) :
    (collect l).size = l.length := by
  induction l using List.reverseRecOn with
  | nil => simp
  | append_singleton l p ih =>
    rw [List.map_append, List.nodup_append] at hnd
    have hp : p.1 ∉ collect l := by
      rw [mem_collect]
      exact fun h => hnd.2.2 p.1 h p.1 (by simp) rfl
    rw [collect_append_single, Std.ExtTreeMap.size_insert,
      if_neg (Std.ExtTreeMap.contains_iff_mem.not.mpr hp), ih hnd.1,
      List.length_append, List.length_singleton]

theorem getElem?_collect_zipIdx {l : List α} (hnd : l.Nodup) {k : α} {i : Nat} :
    (collect l.zipIdx)[k]? = some i ↔ l[i]? = some k := by
  have hkeys : (l.zipIdx.map Prod.fst).Nodup := by rwa [List.zipIdx_map_fst]
  rw [getElem?_collect_of_nodup hkeys, List.mk_mem_zipIdx_iff_getElem?]

/-- A map that has every element of `l` at its own position, and no other entry, is the index
of `l`. -/
theorem eq_collect_zipIdx_iff {m : BTreeMap α Nat} {l : List α} :
    (m.size = l.length ∧ ∀ (i : Nat) (k : α), l[i]? = some k → m[k]? = some i) ↔
      l.Nodup ∧ m = collect l.zipIdx := by
  constructor
  · rintro ⟨hsize, hat⟩
    have hnd : l.Nodup := by
      rw [List.nodup_iff_getElem?_ne_getElem?]
      intro i j hij hj heq
      have hget : l[j]? = some l[j] := List.getElem?_eq_getElem hj
      have h := hat i l[j] (heq.trans hget)
      rw [hat j l[j] hget] at h
      cases h
      exact lt_irrefl _ hij
    have hsub : l ⊆ m.keys := by
      intro k hk
      obtain ⟨i, hi⟩ := List.getElem?_of_mem hk
      rw [Std.ExtTreeMap.mem_keys, mem_iff_exists_getElem?]
      exact ⟨i, hat i k hi⟩
    have hperm : l.Perm m.keys := by
      refine (List.subperm_of_subset hnd hsub).perm_of_length_le ?_
      rw [Std.ExtTreeMap.length_keys, hsize]
    refine ⟨hnd, Std.ExtTreeMap.ext_getElem? fun k => ?_⟩
    by_cases hk : k ∈ l
    · obtain ⟨i, hi⟩ := List.getElem?_of_mem hk
      rw [hat i k hi, (getElem?_collect_zipIdx hnd).mpr hi]
    · have hm : k ∉ m := fun h => hk (hperm.mem_iff.mpr (Std.ExtTreeMap.mem_keys.mpr h))
      have hc : k ∉ collect l.zipIdx := by
        rw [mem_collect, List.zipIdx_map_fst]
        exact hk
      rw [Std.ExtTreeMap.getElem?_eq_none hm, Std.ExtTreeMap.getElem?_eq_none hc]
  · rintro ⟨hnd, rfl⟩
    refine ⟨?_, fun i k hik => (getElem?_collect_zipIdx hnd).mpr hik⟩
    rw [size_collect (by rwa [List.zipIdx_map_fst]), List.length_zipIdx]

/-- A map is what its entries collect. -/
theorem collect_toList (m : BTreeMap α β) : collect m.toList = m := by
  refine Std.ExtTreeMap.ext_getElem? fun k => Option.ext fun v => ?_
  have hnd : (m.toList.map Prod.fst).Nodup := by
    rw [Std.ExtTreeMap.map_fst_toList_eq_keys]
    exact Std.ExtTreeMap.nodup_keys
  rw [getElem?_collect_of_nodup hnd, Std.ExtTreeMap.mem_toList_iff_getElem?_eq_some]

/-- What ascending entries collect lists them. -/
theorem toList_collect {l : List (α × β)} (h : l.Pairwise fun a b => compare a.1 b.1 = .lt) :
    (collect l).toList = l := by
  have hirrefl : ∀ {p q : α × β}, compare p.1 q.1 = .lt → p.1 ≠ q.1 := by
    intro p q hlt heq
    rw [heq, Std.ReflOrd.compare_self] at hlt
    cases hlt
  have hnodup : (l.map Prod.fst).Nodup := by
    rw [List.Nodup, List.pairwise_map]
    exact h.imp hirrefl
  have hperm : (collect l).toList.Perm l := by
    refine (List.perm_ext_iff_of_nodup ?_ ?_).mpr fun ⟨k, v⟩ => ?_
    · exact Std.ExtTreeMap.ordered_keys_toList.imp fun hlt heq => hirrefl hlt (congrArg _ heq)
    · exact h.imp fun hlt heq => hirrefl hlt (congrArg _ heq)
    · rw [Std.ExtTreeMap.mem_toList_iff_getElem?_eq_some, getElem?_collect_of_nodup hnodup]
  refine hperm.eq_of_pairwise (fun p q _ _ hlt hgt => ?_) Std.ExtTreeMap.ordered_keys_toList h
  rw [Std.OrientedOrd.eq_swap, hgt] at hlt
  cases hlt

/-- The values of every key in their order: `entry(key).or_default().push(value)` for all
entries. -/
def group (l : List (α × β)) : BTreeMap α (List β) :=
  l.foldl (fun m p => m.insert p.1 ((m[p.1]?).getD [] ++ [p.2])) ∅

/-- The group of a key, when it has one, has exactly its values. -/
theorem getElem?_group [DecidableEq α] (l : List (α × β)) (k : α) :
    (group l)[k]? = if (l.filter (·.1 = k)).isEmpty then none
      else some ((l.filter (·.1 = k)).map (·.2)) := by
  induction l using List.reverseRecOn with
  | nil => simp [group]
  | append_singleton l p ih =>
    have hstep : group (l ++ [p]) =
        (group l).insert p.1 (((group l)[p.1]?).getD [] ++ [p.2]) := by
      rw [group, List.foldl_append]
      rfl
    rw [hstep, List.filter_append]
    by_cases hk : p.1 = k
    · subst hk
      rw [Std.ExtTreeMap.getElem?_insert_self, ih]
      cases l.filter (·.1 = p.1) with
      | nil => simp
      | cons q qs => simp
    · have hnone : [p].filter (·.1 = k) = [] := by simp [hk]
      rw [getElem?_insert_of_ne hk, ih, hnone, List.append_nil]

end BTreeMap

namespace BTreeSet

variable {α : Type} [Ord α] [Std.TransOrd α]

/-- A set collected from an iterator. -/
def collect (l : List α) : BTreeSet α := Std.ExtTreeSet.ofList l compare

@[simp] theorem mem_collect [DecidableEq α] [Std.LawfulEqOrd α] {l : List α} {x : α} :
    x ∈ collect l ↔ x ∈ l := by
  simp [collect]

@[simp] theorem contains_collect [DecidableEq α] [Std.LawfulEqOrd α] {l : List α} {x : α} :
    (collect l).contains x = decide (x ∈ l) := by
  rw [Bool.eq_iff_iff, Std.ExtTreeSet.contains_iff_mem, mem_collect, decide_eq_true_iff]

@[simp] theorem contains_eq_false {s : BTreeSet α} {x : α} :
    s.contains x = false ↔ x ∉ s := by
  rw [← Bool.not_eq_true, Std.ExtTreeSet.contains_iff_mem]

/-- `a.difference(&b).next()`: the least element of `a` that is not in `b`. -/
def differenceNext (a b : BTreeSet α) : Option α := a.toList.find? fun x => !b.contains x

/-- `a.intersection(&b).next()`: the least element of `a` that is also in `b`. -/
def intersectionNext (a b : BTreeSet α) : Option α := a.toList.find? fun x => b.contains x

variable [Std.LawfulEqOrd α]

theorem mem_insert_iff {s : BTreeSet α} {a x : α} : x ∈ s.insert a ↔ x = a ∨ x ∈ s := by
  rw [Std.ExtTreeSet.mem_insert, Std.LawfulEqOrd.compare_eq_iff_eq, eq_comm]

/-- A set is collected from its own elements. -/
theorem collect_toList [DecidableEq α] (s : BTreeSet α) : collect s.toList = s := by
  refine Std.ExtTreeSet.ext_mem fun x => ?_
  rw [mem_collect]
  exact Std.ExtTreeSet.mem_toList

theorem collect_perm [DecidableEq α] {xs ys : List α} (h : xs.Perm ys) :
    collect xs = collect ys := by
  refine Std.ExtTreeSet.ext_mem fun x => ?_
  rw [mem_collect, mem_collect, h.mem_iff]

theorem intersectionNext_eq_none {a b : BTreeSet α} :
    intersectionNext a b = none ↔ ∀ x ∈ a, x ∉ b := by
  simp [intersectionNext]

end BTreeSet
