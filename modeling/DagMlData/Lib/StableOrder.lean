import Mathlib

/-!
# Stable orders by position

A list is sorted by the position of a key in a list of keys, and entries with one key stay in
their own order. The sort has the index of an entry as its second criterion, so that it is a
total order. `insertionSort_eq_flatMap` says what comes out: for each key in turn, the entries
with that key.
-/

namespace StableOrder

variable {α κ : Type} {key : α → κ} {pos : κ → Nat}

/-- By position of the key, then by index. -/
def Precedes (key : α → κ) (pos : κ → Nat) (a b : α × Nat) : Prop :=
  pos (key a.1) < pos (key b.1) ∨ (pos (key a.1) = pos (key b.1) ∧ a.2 < b.2)

theorem Precedes.ne {a b : α × Nat} (h : Precedes key pos a b) : a ≠ b := by
  rintro rfl
  rcases h with h | ⟨-, h⟩
  · exact lt_irrefl _ h
  · exact lt_irrefl _ h

variable [DecidableEq κ]

/-- The entries with the keys, key by key. -/
def byKey (key : α → κ) (keys : List κ) (entries : List (α × Nat)) : List (α × Nat) :=
  keys.flatMap fun k => entries.filter fun e => key e.1 = k

theorem mem_byKey {keys : List κ} {entries : List (α × Nat)}
    (hkeys : ∀ e ∈ entries, key e.1 ∈ keys) {e : α × Nat} :
    e ∈ byKey key keys entries ↔ e ∈ entries := by
  simp only [byKey, List.mem_flatMap, List.mem_filter, decide_eq_true_eq]
  constructor
  · rintro ⟨k, -, he, -⟩
    exact he
  · exact fun he => ⟨key e.1, hkeys e he, he, rfl⟩

theorem pairwise_byKey {keys : List κ} (hpos : keys.Pairwise fun k l => pos k < pos l)
    {entries : List (α × Nat)} (hidx : entries.Pairwise fun a b => a.2 < b.2) :
    (byKey key keys entries).Pairwise (Precedes key pos) := by
  rw [byKey, List.pairwise_flatMap]
  constructor
  · intro k _
    refine (hidx.filter _).imp_of_mem fun {a b} ha hb hab => Or.inr ⟨?_, hab⟩
    simp only [List.mem_filter, decide_eq_true_eq] at ha hb
    rw [ha.2, hb.2]
  · refine hpos.imp fun {k l} hkl a ha b hb => Or.inl ?_
    simp only [List.mem_filter, decide_eq_true_eq] at ha hb
    rw [ha.2, hb.2]
    exact hkl

/-- Sorting by a test that is this order, or equality of the two criteria, puts the entries in
order key by key. -/
theorem insertionSort_eq_flatMap (key : α → κ)
    (le : α × Nat → α × Nat → Bool) {keys : List κ}
    (hpos : keys.Pairwise fun k l => pos k < pos l)
    {entries : List (α × Nat)} (hidx : entries.Pairwise fun a b => a.2 < b.2)
    (hkeys : ∀ e ∈ entries, key e.1 ∈ keys)
    (hle : ∀ a b, le a b = true ↔
      Precedes key pos a b ∨ (pos (key a.1) = pos (key b.1) ∧ a.2 = b.2)) :
    (entries.insertionSort fun a b => le a b) = byKey key keys entries := by
  have hsorted : (byKey key keys entries).Pairwise (Precedes key pos) := pairwise_byKey hpos hidx
  have hnodup : entries.Nodup := hidx.imp fun {a b} h hab => by simp [hab] at h
  have hperm : (entries.insertionSort fun a b => le a b).Perm (byKey key keys entries) := by
    refine (List.perm_insertionSort _ entries).trans ?_
    refine (List.perm_ext_iff_of_nodup hnodup (hsorted.imp Precedes.ne)).mpr fun e => ?_
    exact (mem_byKey hkeys).symm
  have : Std.Total (fun a b : α × Nat => le a b = true) := by
    refine ⟨fun a b => ?_⟩
    simp only [hle, Precedes]
    omega
  have : IsTrans (α × Nat) (fun a b => le a b = true) := by
    refine ⟨fun a b c => ?_⟩
    simp only [hle, Precedes]
    omega
  refine hperm.eq_of_pairwise ?_ (List.pairwise_insertionSort _ entries)
    (hsorted.imp fun h => (hle _ _).mpr (Or.inl h))
  intro a b ha hb hab hba
  have ha' : a ∈ entries := (List.perm_insertionSort _ entries).mem_iff.mp ha
  have hb' : b ∈ entries := (mem_byKey hkeys).mp hb
  have hidx' : a.2 = b.2 := by
    rw [hle] at hab hba
    simp only [Precedes] at hab hba
    omega
  have hsnd : (entries.map Prod.snd).Nodup :=
    List.pairwise_map.mpr (hidx.imp fun h => Nat.ne_of_lt h)
  exact List.inj_on_of_nodup_map hsnd ha' hb' hidx'

/-- The entries of an enumeration, filtered, have increasing indices. -/
theorem pairwise_filter_zipIdx (xs : List α) (p : α × Nat → Bool) (n : Nat) :
    ((xs.zipIdx n).filter p).Pairwise fun a b => a.2 < b.2 := by
  refine List.Pairwise.filter _ ?_
  induction xs generalizing n with
  | nil => simp
  | cons x xs ih =>
    rw [List.zipIdx_cons, List.pairwise_cons]
    refine ⟨fun e he => ?_, ih (n + 1)⟩
    have := List.le_snd_of_mem_zipIdx he
    exact this

theorem map_fst_filter_zipIdx (xs : List α) (p : α → Bool) (n : Nat) :
    ((xs.zipIdx n).filter fun e => p e.1).map Prod.fst = xs.filter p := by
  induction xs generalizing n with
  | nil => rfl
  | cons x xs ih =>
    rw [List.zipIdx_cons, List.filter_cons, List.filter_cons]
    split <;> simp [ih]

theorem map_fst_byKey (keys : List κ) (xs : List α) (p : α → Bool) :
    (byKey key keys (xs.zipIdx.filter fun e => p e.1)).map Prod.fst =
      keys.flatMap fun k => (xs.filter p).filter fun x => key x = k := by
  simp only [byKey, List.map_flatMap]
  refine List.flatMap_congr fun k _ => ?_
  rw [List.filter_filter, List.filter_filter]
  exact map_fst_filter_zipIdx xs (fun x => decide (key x = k) && p x) 0

end StableOrder
