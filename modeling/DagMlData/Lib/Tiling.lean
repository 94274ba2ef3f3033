import Mathlib

/-!
# Spans that tile a range

Spans of a list that follow each other without a gap. A concatenation of parts whose lengths are
those of the spans has the parts as its slices.
-/

namespace Tiling

structure Span where
  start : Nat
  count : Nat

/-- Partners of partners are partners. -/
theorem forall₂_comp {α β γ : Type} {R : α → β → Prop}
    {S : β → γ → Prop} {T : α → γ → Prop}
    (hcomp : ∀ x y z, R x y → S y z → T x z) {xs : List α} {ys : List β} {zs : List γ}
    (hR : List.Forall₂ R xs ys) (hS : List.Forall₂ S ys zs) : List.Forall₂ T xs zs := by
  induction hR generalizing zs with
  | nil =>
    cases hS
    exact .nil
  | cons hxy _ ih =>
    cases hS with
    | cons hyz hrest => exact .cons (hcomp _ _ _ hxy hyz) (ih hrest)

/-- The spans follow each other from `start` to `stop`. -/
def Tiles : Nat → List Span → Nat → Prop
  | start, [], stop => start = stop
  | start, span :: spans, stop =>
    span.start = start ∧ 0 < span.count ∧ Tiles (start + span.count) spans stop

/-- The part of the list in the span. -/
def Span.slice {α : Type} (span : Span) (l : List α) : List α :=
    (l.drop span.start).take span.count

/-- The place is in the span. -/
def Span.Covers (span : Span) (place : Nat) : Prop :=
  span.start ≤ place ∧ place < span.start + span.count

variable {α : Type} {start stop : Nat} {spans : List Span}

theorem Tiles.start_le (h : Tiles start spans stop) : start ≤ stop := by
  induction spans generalizing start with
  | nil => exact h.le
  | cons span spans ih => exact (Nat.le_add_right start span.count).trans (ih h.2.2)

/-- Every span is between the ends. -/
theorem Tiles.le_start (h : Tiles start spans stop) {span : Span} (hspan : span ∈ spans) :
    start ≤ span.start := by
  induction spans generalizing start with
  | nil => cases hspan
  | cons first spans ih =>
    obtain ⟨hstart, -, hrest⟩ := h
    rcases List.mem_cons.mp hspan with rfl | hmem
    · exact hstart.ge
    · exact (Nat.le_add_right start first.count).trans (ih hrest hmem)

/-- Every place is in exactly one of the spans. -/
theorem Tiles.existsUnique (h : Tiles start spans stop) {place : Nat} (hstart : start ≤ place)
    (hstop : place < stop) :
    ∃! i : Nat, ∃ span, spans[i]? = some span ∧ span.Covers place := by
  induction spans generalizing start with
  | nil =>
    cases h
    exact absurd hstop (not_lt.mpr hstart)
  | cons first spans ih =>
    obtain ⟨hfirst, -, hrest⟩ := h
    by_cases hplace : place < start + first.count
    · refine ⟨0, ⟨first, rfl, by rw [Span.Covers, hfirst]; exact ⟨hstart, hplace⟩⟩, ?_⟩
      rintro (_ | i) ⟨span, hget, hcovers⟩
      · rfl
      · have hle := hrest.le_start (List.mem_of_getElem? hget)
        exact absurd (hle.trans hcovers.1) (not_le.mpr hplace)
    · obtain ⟨i, hi, hunique⟩ := ih hrest (not_lt.mp hplace)
      refine ⟨i + 1, hi, ?_⟩
      rintro (_ | j) ⟨span, hget, hcovers⟩
      · cases hget
        rw [Span.Covers, hfirst] at hcovers
        exact absurd hcovers.2 hplace
      · rw [hunique j ⟨span, hget, hcovers⟩]

/-- The end is the start and the lengths of the parts. -/
theorem Tiles.stop_eq (h : Tiles start spans stop) {parts : List (List α)}
    (hparts : List.Forall₂ (fun span part => part.length = span.count) spans parts) :
    stop = start + parts.flatten.length := by
  induction hparts generalizing start with
  | nil => exact h.symm
  | @cons span part spans parts hlength _ ih =>
    rw [ih h.2.2, List.flatten_cons, List.length_append, hlength, Nat.add_assoc]

/-- The parts are the slices of their concatenation. -/
theorem Tiles.slice_flatten (h : Tiles start spans stop) {parts : List (List α)}
    (hparts : List.Forall₂ (fun span part => part.length = span.count) spans parts)
    (before : List α) (hbefore : before.length = start) :
    List.Forall₂ (fun span part => span.slice (before ++ parts.flatten) = part) spans parts := by
  induction hparts generalizing start before with
  | nil => exact .nil
  | @cons span part spans parts hlength _ ih =>
    obtain ⟨hstart, -, hrest⟩ := h
    refine .cons ?_ ?_
    · rw [Span.slice, hstart, ← hbefore, List.drop_left, ← hlength, List.flatten_cons,
        List.take_left]
    · rw [List.flatten_cons, ← List.append_assoc]
      exact ih hrest (before ++ part) (by rw [List.length_append, hbefore, hlength])

end Tiling
