import Mathlib

/-!
# Sorting by a key

The order of a list by a key of its elements. With distinct keys the sorted list depends only on
the elements (`sortOn_congr`), not on the order that they came in.
-/

namespace SortOn

variable {α κ : Type} [Ord κ] [Std.TransOrd κ] [Std.LawfulEqOrd κ] {key : α → κ}

/-- A stable sort by a key. -/
def sortOn (key : α → κ) (xs : List α) : List α :=
  xs.insertionSort fun a b => (compare (key a) (key b)).isLE

omit [Std.TransOrd κ] [Std.LawfulEqOrd κ] in
theorem perm_sortOn (key : α → κ) (xs : List α) : (sortOn key xs).Perm xs :=
  List.perm_insertionSort _ xs

omit [Std.LawfulEqOrd κ] in
theorem pairwise_isLE_sortOn (key : α → κ) (xs : List α) :
    (sortOn key xs).Pairwise fun a b => (compare (key a) (key b)).isLE = true := by
  have : Std.Total fun a b : α => (compare (key a) (key b)).isLE = true := by
    refine ⟨fun a b => ?_⟩
    rw [show compare (key b) (key a) = (compare (key a) (key b)).swap from Std.OrientedOrd.eq_swap]
    cases compare (key a) (key b) <;> simp
  have : IsTrans α fun a b => (compare (key a) (key b)).isLE = true :=
    ⟨fun _ _ _ => Std.TransCmp.isLE_trans⟩
  exact List.pairwise_insertionSort _ xs

/-- Distinct keys come in strict order. -/
theorem pairwise_sortOn {xs : List α} (h : (xs.map key).Nodup) :
    (sortOn key xs).Pairwise fun a b => compare (key a) (key b) = .lt := by
  have hnodup : (sortOn key xs).Pairwise fun a b => key a ≠ key b :=
    List.pairwise_map.mp (((perm_sortOn key xs).map key).nodup_iff.mpr h)
  refine ((pairwise_isLE_sortOn key xs).and hnodup).imp fun {a b} ⟨hle, hne⟩ => ?_
  cases hcompare : compare (key a) (key b) with
  | lt => rfl
  | eq => exact absurd (Std.LawfulEqOrd.eq_of_compare hcompare) hne
  | gt =>
    rw [hcompare] at hle
    cases hle

omit [Std.TransOrd κ] [Std.LawfulEqOrd κ] in
/-- What holds element by element still does after the sort, for a permutation. -/
theorem exists_forall₂_sortOn {β : Type} {R : β → α → Prop} {xs : List β} {ys : List α}
    (h : List.Forall₂ R xs ys) (key : α → κ) :
    ∃ xs' : List β, xs'.Perm xs ∧ List.Forall₂ R xs' (sortOn key ys) := by
  obtain ⟨xs', hsorted, hperm⟩ := List.perm_comp_forall₂ (perm_sortOn key ys) h.flip
  exact ⟨xs', hperm, hsorted.flip⟩

/-- Lists in strict order with the same elements are equal. -/
theorem eq_of_pairwise_lt {xs ys : List α}
    (hxs : xs.Pairwise fun a b => compare (key a) (key b) = .lt)
    (hys : ys.Pairwise fun a b => compare (key a) (key b) = .lt)
    (hmem : ∀ a, a ∈ xs ↔ a ∈ ys) : xs = ys := by
  have hirrefl : ∀ {a b : α}, compare (key a) (key b) = .lt → a ≠ b := by
    rintro a _ hlt rfl
    rw [Std.ReflOrd.compare_self] at hlt
    cases hlt
  have hperm : xs.Perm ys :=
    (List.perm_ext_iff_of_nodup (hxs.imp hirrefl) (hys.imp hirrefl)).mpr hmem
  refine hperm.eq_of_pairwise ?_ hxs hys
  intro a b _ _ hab hba
  have hswap : compare (key a) (key b) = (compare (key b) (key a)).swap := Std.OrientedOrd.eq_swap
  rw [hab, hba] at hswap
  cases hswap

/-- With distinct keys the sorted list does not depend on the order before. -/
theorem sortOn_congr {xs ys : List α} (hperm : xs.Perm ys) (h : (xs.map key).Nodup) :
    sortOn key xs = sortOn key ys := by
  refine eq_of_pairwise_lt (pairwise_sortOn h)
    (pairwise_sortOn ((hperm.map key).nodup_iff.mp h)) fun a => ?_
  rw [(perm_sortOn key xs).mem_iff, (perm_sortOn key ys).mem_iff, hperm.mem_iff]

omit [Std.TransOrd κ] in
/-- Distinct keys decide the order: a second criterion is never asked. -/
theorem insertionSort_then {xs : List α} (h : (xs.map key).Nodup) {tie : α → α → Ordering}
    (htie : ∀ a, tie a a = .eq) :
    (xs.insertionSort fun a b => ((compare (key a) (key b)).then (tie a b)).isLE = true) =
      sortOn key xs := by
  have hsame := List.map_insertionSort
    (fun a b => ((compare (key a) (key b)).then (tie a b)).isLE = true)
    (fun a b => (compare (key a) (key b)).isLE = true) id xs fun a ha b hb => ?_
  · rwa [List.map_id, List.map_id] at hsame
  · simp only [id]
    cases hcompare : compare (key a) (key b) with
    | lt => rfl
    | gt => rfl
    | eq =>
      have hab : a = b :=
        List.inj_on_of_nodup_map h ha hb (Std.LawfulEqOrd.eq_of_compare hcompare)
      rw [hab, htie]
      rfl

/-- Functions that tell the same elements apart tell the same lists apart. -/
theorem map_eq_map_congr {β γ : Type} {f : α → β} {g : α → γ} {xs ys : List α}
    (h : ∀ x ∈ xs, ∀ y ∈ ys, f x = f y ↔ g x = g y) : xs.map f = ys.map f ↔
      xs.map g = ys.map g := by
  rw [← List.forall₂_eq_eq_eq, ← List.forall₂_eq_eq_eq, List.forall₂_map_left_iff,
    List.forall₂_map_left_iff, List.forall₂_map_right_iff, List.forall₂_map_right_iff,
    List.forall₂_iff_get, List.forall₂_iff_get]
  refine and_congr_right fun _ => forall_congr' fun i => forall_congr' fun hi =>
    forall_congr' fun hi' => ?_
  exact h _ (List.get_mem _ _) _ (List.get_mem _ _)

omit [Std.TransOrd κ] [Std.LawfulEqOrd κ] in
/-- The sort reads the key only. -/
theorem map_sortOn {β : Type} {key' : β → κ} {g : α → β} (hkey : ∀ a, key' (g a) = key a)
    (xs : List α) : (sortOn key xs).map g = sortOn key' (xs.map g) :=
  List.map_insertionSort _ _ g xs fun a _ b _ => by rw [hkey, hkey]

/-- The codes of sorted lists: with distinct keys they are equal when the lists have the same
elements, as far as the codes tell. -/
theorem map_sortOn_eq_iff {β γ : Type} (key : α → κ) (key' : γ → κ)
    (f : α → β) (g : α → γ)
    (hkey : ∀ a, key' (g a) = key a) {xs ys : List α} (hxs : (xs.map key).Nodup)
    (hfg : ∀ x ∈ xs, ∀ y ∈ ys, f x = f y ↔ g x = g y) :
    (sortOn key xs).map f = (sortOn key ys).map f ↔ (xs.map g).Perm (ys.map g) := by
  have hmem : ∀ x ∈ sortOn key xs, ∀ y ∈ sortOn key ys, f x = f y ↔ g x = g y := by
    intro x hx y hy
    exact hfg x ((perm_sortOn key xs).mem_iff.mp hx) y ((perm_sortOn key ys).mem_iff.mp hy)
  have hnodup : ((xs.map g).map key').Nodup := by
    rw [List.map_map, show key' ∘ g = key from funext hkey]
    exact hxs
  rw [map_eq_map_congr hmem, map_sortOn hkey, map_sortOn hkey]
  constructor
  · intro h
    exact (perm_sortOn key' _).symm.trans (h ▸ perm_sortOn key' _)
  · exact fun h => sortOn_congr h hnodup

/-- A list sorted by its elements themselves. -/
def sorted (xs : List κ) : List κ := sortOn id xs

/-- Sorted lists are equal when they have the same elements, as often each. -/
theorem sorted_eq_iff {xs ys : List κ} : sorted xs = sorted ys ↔ xs.Perm ys := by
  unfold sorted
  constructor
  · intro h
    exact (perm_sortOn id xs).symm.trans (h ▸ perm_sortOn id ys)
  · intro h
    refine (((perm_sortOn id xs).trans h).trans (perm_sortOn id ys).symm).eq_of_pairwise ?_
      (pairwise_isLE_sortOn id xs) (pairwise_isLE_sortOn id ys)
    intro a b _ _ hab hba
    exact Std.LawfulEqOrd.eq_of_compare (Std.OrientedCmp.isLE_antisymm hab hba)

/-- The codes of the elements agree when the elements do, paired up in some order. -/
theorem map_perm_map_iff {β : Type} {g : α → β} {xs ys : List α} :
    (xs.map g).Perm (ys.map g) ↔ ∃ zs : List α, zs.Perm xs ∧
      List.Forall₂ (g · = g ·) zs ys := by
  constructor
  · intro h
    have hpairs : List.Forall₂ (fun (b : β) (x : α) => b = g x) (xs.map g) xs := by
      rw [List.forall₂_map_left_iff, List.forall₂_same]
      exact fun _ _ => rfl
    obtain ⟨zs, hzs, hperm⟩ := List.perm_comp_forall₂ h.symm hpairs
    refine ⟨zs, hperm, ?_⟩
    rw [List.forall₂_map_left_iff] at hzs
    exact hzs.flip.imp fun _ _ => Eq.symm
  · rintro ⟨zs, hperm, hzs⟩
    have heq : zs.map g = ys.map g := by
      rw [← List.forall₂_eq_eq_eq, List.forall₂_map_left_iff, List.forall₂_map_right_iff]
      exact hzs
    exact heq ▸ (hperm.map g).symm

end SortOn
