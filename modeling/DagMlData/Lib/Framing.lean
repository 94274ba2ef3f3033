import Mathlib

/-!
# Self-delimiting encodings

An encoding into lists is self-delimiting on a set of values when what follows the encoded value
never matters for where it ends: two encodings, each with a rest behind it, are the same list only
when the values and the rests are the same. Such encodings can be put one after the other and the
whole still determines its parts.

* `SelfDelimiting.append_iff`: the rule that splits an equation of two such lists.
* `SelfDelimiting.of_length`: an injective encoding of one length.
* `SelfDelimiting.flatMap`, `SelfDelimiting.row`: as many values one after the other.
* `SelfDelimiting.counted`: any number of values behind their count.
* `SelfDelimiting.sized`: a payload behind its length.
-/

/-- The end of an encoded value that has `P` does not depend on what follows it. -/
def SelfDelimiting {α β : Type} (P : α → Prop) (encode : α → List β) : Prop :=
  ∀ ⦃a b : α⦄, P a → P b → ∀ ⦃s t : List β⦄,
    encode a ++ s = encode b ++ t → a = b ∧ s = t

namespace SelfDelimiting

variable {α β γ : Type} {P : α → Prop} {encode : α → List β}

theorem append_iff (h : SelfDelimiting P encode) {a b : α} (ha : P a) (hb : P b)
    {s t : List β} : encode a ++ s = encode b ++ t ↔ a = b ∧ s = t :=
  ⟨fun heq => h ha hb heq, fun ⟨hab, hst⟩ => by rw [hab, hst]⟩

/-- At the end of the list there is no rest to compare. -/
theorem eq_iff (h : SelfDelimiting P encode) {a b : α} (ha : P a) (hb : P b) :
    encode a = encode b ↔ a = b := by
  have happ := h.append_iff (s := []) (t := []) ha hb
  simpa using happ

theorem of_length {n : Nat} (hlength : ∀ a, P a → (encode a).length = n)
    (hinj : ∀ a b, P a → P b → encode a = encode b → a = b) : SelfDelimiting P encode := by
  intro a b ha hb s t heq
  have hlen : (encode a).length = (encode b).length := by rw [hlength a ha, hlength b hb]
  obtain ⟨hab, hst⟩ := List.append_inj heq hlen
  exact ⟨hinj a b ha hb hab, hst⟩

/-- As many values on both sides, one after the other. -/
theorem flatMap (h : SelfDelimiting P encode) {xs ys : List α} (hlength : xs.length = ys.length)
    (hxs : ∀ x ∈ xs, P x) (hys : ∀ y ∈ ys, P y) {s t : List β} :
    xs.flatMap encode ++ s = ys.flatMap encode ++ t ↔ xs = ys ∧ s = t := by
  induction xs generalizing ys with
  | nil =>
    cases List.length_eq_zero_iff.mp hlength.symm
    simp
  | cons x xs ih =>
    cases ys with
    | nil => cases hlength
    | cons y ys =>
      rw [List.forall_mem_cons] at hxs hys
      rw [List.flatMap_cons, List.flatMap_cons, List.append_assoc, List.append_assoc,
        h.append_iff hxs.1 hys.1, ih (Nat.succ.inj hlength) hxs.2 hys.2, List.cons.injEq,
        and_assoc]

/-- Lists of one length, one value after the other. -/
theorem row (h : SelfDelimiting P encode) (n : Nat) :
    SelfDelimiting (fun xs : List α => xs.length = n ∧ ∀ x ∈ xs, P x)
      (·.flatMap encode) := by
  intro xs ys hxs hys s t heq
  exact (h.flatMap (hxs.1.trans hys.1.symm) hxs.2 hys.2).mp heq

/-- Any number of values, behind their number. -/
theorem counted {count : Nat → List β} {Q : Nat → Prop} (hcount : SelfDelimiting Q count)
    (h : SelfDelimiting P encode) :
    SelfDelimiting (fun xs : List α => Q xs.length ∧ ∀ x ∈ xs, P x)
      fun xs => count xs.length ++ xs.flatMap encode := by
  intro xs ys hxs hys s t heq
  simp only [List.append_assoc] at heq
  obtain ⟨hlength, hrest⟩ := hcount hxs.1 hys.1 heq
  exact (h.flatMap hlength hxs.2 hys.2).mp hrest

/-- A payload behind its length. -/
theorem sized {count : Nat → List β} {Q : Nat → Prop} (hcount : SelfDelimiting Q count)
    {payload : α → List β} (hinj : Function.Injective payload) :
    SelfDelimiting (fun a : α => Q (payload a).length)
      fun a => count (payload a).length ++ payload a := by
  intro a b ha hb s t heq
  simp only [List.append_assoc] at heq
  obtain ⟨hlength, hrest⟩ := hcount ha hb heq
  obtain ⟨hpayload, hst⟩ := List.append_inj hrest hlength
  exact ⟨hinj hpayload, hst⟩

end SelfDelimiting
