import Mathlib

/-!
# Chains of a partial function

`follow next n a` is what `n` links of a partial function lead to. A chain ends when it comes to an
element without a link. In a list that has the links of its elements, every chain ends exactly when
the list can be put in an order in which no element comes before what it is linked to.
-/

namespace Chain

variable {α : Type} (next : α → Option α)

/-- What the links lead to from `a`. -/
def follow : Nat → α → Option α
  | 0, a => some a
  | n + 1, a => (next a).bind (follow n)

/-- The chain from `a` is finite. -/
def Ends (a : α) : Prop := ∃ n, follow next n a = none

/-- The chain from `a` comes to no element twice. -/
def NeverReturns (a : α) : Prop :=
  ∀ i j b, follow next i a = some b → follow next j a = some b → i = j

/-- No element comes before what it is linked to. -/
def TargetsFirst (order : List α) : Prop := order.Pairwise fun a b => next a ≠ some b

variable {next} {a b : α}

theorem follow_add (m n : Nat) :
    follow next (m + n) a = (follow next m a).bind (follow next n) := by
  induction m generalizing a with
  | zero => rw [Nat.zero_add]; rfl
  | succ m ih =>
    rw [Nat.succ_add]
    show (next a).bind (follow next (m + n)) = ((next a).bind (follow next m)).bind (follow next n)
    cases next a with
    | none => rfl
    | some b => exact ih

theorem follow_none_of_le {m n : Nat} (h : follow next m a = none) (hle : m ≤ n) :
    follow next n a = none := by
  obtain ⟨d, rfl⟩ := Nat.exists_eq_add_of_le hle
  rw [follow_add, h]
  rfl

/-- A link that leads back can be followed over and over. -/
theorem follow_mul {d : Nat} (h : follow next d a = some a) (k : Nat) :
    follow next (k * d) a = some a := by
  induction k with
  | zero => rw [Nat.zero_mul]; rfl
  | succ k ih => rw [Nat.succ_mul, follow_add, ih]; exact h

theorem Ends.neverReturns (h : Ends next a) : NeverReturns next a := by
  have hshort : ∀ i d b, follow next i a = some b →
    follow next (i + d) a = some b → d = 0 := by
    intro i d b hi hd
    by_contra hpos
    obtain ⟨n, hn⟩ := h
    rw [follow_add, hi] at hd
    have hround : follow next (i + n * d) a = some b := by
      rw [follow_add, hi]
      exact follow_mul hd n
    have hle : n ≤ i + n * d :=
      Nat.le_add_left_of_le (Nat.le_mul_of_pos_right n (Nat.pos_of_ne_zero hpos))
    rw [follow_none_of_le hn hle] at hround
    cases hround
  intro i j b hi hj
  rcases Nat.le_total i j with hle | hle
  · obtain ⟨d, rfl⟩ := Nat.exists_eq_add_of_le hle
    rw [hshort i d b hi hj, Nat.add_zero]
  · obtain ⟨d, rfl⟩ := Nat.exists_eq_add_of_le hle
    rw [hshort j d b hj hi, Nat.add_zero]

theorem ends_of_next_eq_none (h : next a = none) : Ends next a := ⟨1, by simp [follow, h]⟩

theorem ends_iff_of_next_eq_some (h : next a = some b) : Ends next a ↔ Ends next b := by
  constructor
  · rintro ⟨n, hn⟩
    cases n with
    | zero => cases hn
    | succ n => exact ⟨n, by rw [← hn, follow, h]; rfl⟩
  · rintro ⟨n, hn⟩
    exact ⟨n + 1, by rw [follow, h]; exact hn⟩

/-- A chain that ends has a last element. -/
theorem Ends.exists_last (h : Ends next a) :
    ∃ n last, follow next n a = some last ∧ next last = none := by
  obtain ⟨n, hn⟩ := h
  induction n generalizing a with
  | zero => cases hn
  | succ n ih =>
    cases hnext : next a with
    | none => exact ⟨0, a, rfl, hnext⟩
    | some b =>
      rw [follow, hnext] at hn
      obtain ⟨m, last, hlast, hnone⟩ := ih hn
      exact ⟨m + 1, last, by rw [follow, hnext]; exact hlast, hnone⟩

theorem ends_of_last {n : Nat} {last : α} (hlast : follow next n a = some last)
    (hnone : next last = none) : Ends next a := by
  refine ⟨n + 1, ?_⟩
  rw [follow_add, hlast]
  simp [follow, hnone]

/-! ## Orders -/

open Classical in
/-- The number of links until the chain is at its end. -/
noncomputable def depth (next : α → Option α) (a : α) : Nat :=
  if h : Ends next a then Nat.find h else 0

theorem depth_lt (h : Ends next a) (hnext : next a = some b) : depth next b < depth next a := by
  classical
  have hb := (ends_iff_of_next_eq_some hnext).mp h
  have hlast := Nat.find_spec h
  rw [depth, dif_pos hb, depth, dif_pos h]
  generalize Nat.find h = n at hlast
  cases n with
  | zero => cases hlast
  | succ n =>
    rw [follow, hnext] at hlast
    exact Nat.lt_succ_of_le (Nat.find_min' hb hlast)

theorem exists_order {rows : List α} (h : ∀ a ∈ rows, Ends next a) :
    ∃ order, order.Perm rows ∧ TargetsFirst next order := by
  refine ⟨rows.mergeSort fun a b => depth next a ≤ depth next b, List.mergeSort_perm _ _, ?_⟩
  have hsorted := @List.pairwise_mergeSort _ (fun a b => decide (depth next a ≤ depth next b))
    (fun a b c hab hbc => by simp only [decide_eq_true_eq] at *; exact hab.trans hbc)
    (fun a b => by simp only [Bool.or_eq_true, decide_eq_true_eq]; exact Nat.le_total _ _) rows
  refine hsorted.imp_of_mem fun {a b} ha _ hab hnext => ?_
  rw [decide_eq_true_eq] at hab
  exact absurd (depth_lt (h a (List.mem_mergeSort.mp ha)) hnext) (not_lt.mpr hab)

/-- In such an order every chain goes backwards, so it ends. -/
theorem ends_of_order {order : List α} (horder : TargetsFirst next order)
    (hmem : ∀ a ∈ order, ∀ b, next a = some b → b ∈ order)
    (hself : ∀ a ∈ order, next a ≠ some a) : ∀ a ∈ order, Ends next a := by
  have hplace : ∀ (i : Nat) (hi : i < order.length), Ends next order[i] := by
    intro i
    induction i using Nat.strong_induction_on with
    | _ i ih =>
      intro hi
      cases hnext : next order[i] with
      | none => exact ends_of_next_eq_none hnext
      | some b =>
        obtain ⟨j, hj, rfl⟩ := List.mem_iff_getElem.mp (hmem _ (List.getElem_mem hi) b hnext)
        rcases Nat.lt_trichotomy i j with hlt | rfl | hgt
        · exact absurd hnext (List.pairwise_iff_getElem.mp horder i j hi hj hlt)
        · exact absurd hnext (hself _ (List.getElem_mem hi))
        · exact (ends_iff_of_next_eq_some hnext).mpr (ih j hgt hj)
  intro a ha
  obtain ⟨i, hi, rfl⟩ := List.mem_iff_getElem.mp ha
  exact hplace i hi

/-- Every chain ends exactly when there is an order in which every target comes first. -/
theorem ends_iff_exists_order {rows : List α}
    (hmem : ∀ a ∈ rows, ∀ b, next a = some b → b ∈ rows)
    (hself : ∀ a ∈ rows, next a ≠ some a) :
    (∀ a ∈ rows, Ends next a) ↔ ∃ order, order.Perm rows ∧ TargetsFirst next order := by
  refine ⟨exists_order, fun ⟨order, hperm, horder⟩ a ha => ?_⟩
  refine ends_of_order horder (fun b hb c hc => ?_) (fun b hb => hself b (hperm.mem_iff.mp hb)) a
    (hperm.mem_iff.mpr ha)
  exact hperm.mem_iff.mpr (hmem b (hperm.mem_iff.mp hb) c hc)

end Chain
