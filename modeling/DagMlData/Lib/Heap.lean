import Mathlib

/-!
# Heaps

A heap has cells under addresses. An access to an address that is not allocated has no meaning: it
is a fault, and the result is `none`.

`h.Is l` says what is allocated: exactly the cells of the list `l`, under distinct addresses. What
an operation does to a cell is stated with the other cells as the rest of the list, so a statement
about a part of the heap says that the other parts stay as they are.
-/

/-- The allocated cells. Addresses from `next` on were never allocated. -/
structure Heap (α : Type) where
  cells : Nat → Option α
  next : Nat

namespace Heap

variable {α : Type}

def empty : Heap α := ⟨fun _ => none, 0⟩

def get (h : Heap α) (a : Nat) : Option α := h.cells a

/-- A new cell, with its address. -/
def alloc (h : Heap α) (c : α) : Nat × Heap α :=
  (h.next, ⟨Function.update h.cells h.next (some c), h.next + 1⟩)

/-- Writes a cell that is allocated. -/
def set (h : Heap α) (a : Nat) (c : α) : Option (Heap α) :=
  if (h.get a).isSome then some ⟨Function.update h.cells a (some c), h.next⟩ else none

/-- Frees a cell that is allocated. -/
def free (h : Heap α) (a : Nat) : Option (Heap α) :=
  if (h.get a).isSome then some ⟨Function.update h.cells a none, h.next⟩ else none

theorem get_alloc (h : Heap α) (c : α) (a : Nat) :
    (h.alloc c).2.get a = if a = h.next then some c else h.get a := Function.update_apply ..

/-- What can be freed is allocated, and is not afterwards. -/
theorem free_eq_some {h h' : Heap α} {a : Nat} (hfree : h.free a = some h') :
    (h.get a).isSome ∧ h'.next = h.next ∧
      ∀ b, h'.get b = if b = a then none else h.get b := by
  unfold free at hfree
  split at hfree
  · next hsome =>
    cases hfree
    exact ⟨hsome, rfl, fun b => Function.update_apply ..⟩
  · cases hfree

/-- The allocated cells are the listed ones. -/
structure Is (h : Heap α) (l : List (Nat × α)) : Prop where
  distinct : (l.map Prod.fst).Nodup
  get_iff : ∀ a c, h.get a = some c ↔ (a, c) ∈ l
  below : ∀ a ∈ l.map Prod.fst, a < h.next

theorem is_empty : (empty : Heap α).Is [] where
  distinct := List.nodup_nil
  get_iff a c := by simp [get, empty]
  below a ha := by cases ha

namespace Is

variable {h : Heap α} {l l' : List (Nat × α)} {a : Nat} {c d : α}

theorem perm (his : h.Is l) (hperm : l.Perm l') : h.Is l' where
  distinct := (hperm.map Prod.fst).nodup_iff.mp his.distinct
  get_iff a c := (his.get_iff a c).trans hperm.mem_iff
  below a ha := his.below a ((hperm.map Prod.fst).mem_iff.mpr ha)

theorem get (his : h.Is ((a, c) :: l)) : h.get a = some c :=
  (his.get_iff a c).mpr List.mem_cons_self

theorem get_of_mem (his : h.Is l) (hmem : (a, c) ∈ l) : h.get a = some c :=
  (his.get_iff a c).mpr hmem

/-- An address of the rest is not the first one. -/
theorem ne_of_mem (his : h.Is ((a, c) :: l)) {b : Nat} (hb : (b, d) ∈ l) : b ≠ a := by
  rintro rfl
  exact (List.nodup_cons.mp his.distinct).1 (List.mem_map.mpr ⟨_, hb, rfl⟩)

theorem alloc (his : h.Is l) (c : α) : (h.alloc c).2.Is (((h.alloc c).1, c) :: l) where
  distinct := by
    refine List.nodup_cons.mpr ⟨fun hmem => ?_, his.distinct⟩
    exact Nat.lt_irrefl _ (his.below _ hmem)
  get_iff b d := by
    by_cases hb : b = h.next
    · subst hb
      have hfresh : (h.next, d) ∉ l := fun hmem =>
        Nat.lt_irrefl _ (his.below _ (List.mem_map.mpr ⟨_, hmem, rfl⟩))
      simp [Heap.alloc, Heap.get, hfresh, eq_comm]
    · simp [Heap.alloc, Heap.get, hb, ← his.get_iff]
  below b hb := by
    rcases List.mem_cons.mp hb with rfl | hb
    · exact Nat.lt_succ_self _
    · exact Nat.lt_succ_of_lt (his.below b hb)

theorem set (his : h.Is ((a, c) :: l)) (d : α) :
    ∃ h', h.set a d = some h' ∧ h'.Is ((a, d) :: l) := by
  refine ⟨⟨Function.update h.cells a (some d), h.next⟩, ?_, his.distinct, ?_, his.below⟩
  · rw [Heap.set, his.get, Option.isSome_some, if_pos rfl]
  intro b e
  by_cases hb : b = a
  · subst hb
    have hrest : (b, e) ∉ l := fun hmem => his.ne_of_mem hmem rfl
    simp [Heap.get, hrest, eq_comm]
  · have hold : (b, e) ∈ (a, c) :: l ↔ (b, e) ∈ (a, d) :: l := by simp [hb]
    rw [← hold, ← his.get_iff]
    simp [Heap.get, hb]

theorem free (his : h.Is ((a, c) :: l)) : ∃ h', h.free a = some h' ∧ h'.Is l := by
  refine ⟨⟨Function.update h.cells a none, h.next⟩, ?_,
    (List.nodup_cons.mp his.distinct).2, ?_,
    fun b hb => his.below b (List.mem_cons_of_mem _ hb)⟩
  · rw [Heap.free, his.get, Option.isSome_some, if_pos rfl]
  intro b e
  by_cases hb : b = a
  · subst hb
    have hrest : (b, e) ∉ l := fun hmem => his.ne_of_mem hmem rfl
    simp [Heap.get, hrest]
  · have hold : (b, e) ∈ (a, c) :: l ↔ (b, e) ∈ l := by simp [hb]
    rw [← hold, ← his.get_iff]
    simp [Heap.get, hb]

end Is

end Heap
