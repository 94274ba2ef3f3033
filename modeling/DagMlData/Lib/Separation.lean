import Mathlib

/-!
# Separation of two sets under links and inherited labels

Elements are linked in two ways: by a chain of links of a relation `D`, followed in either
direction, or by a common label, where an element has its own labels and inherits those of the
elements it derives from (`D s o`: `s` derives from `o`).

`T` and `V` are disjoint sets of elements. A check that looks at single links and own labels
only sees pairs. `separated_iff` says what it misses: chains whose inner elements are all
outside of `T` and `V` (`Bridge`), and labels that are imported from such elements (`Imports`).
-/

namespace Separation

variable {α γ : Type}

/-- A chain of at least two steps of `R` whose inner elements all satisfy `Out`. -/
inductive Bridge (R : α → α → Prop) (Out : α → Prop) : α → α → Prop
  | last {a m b : α} : R a m → Out m → R m b → Bridge R Out a b
  | cons {a m b : α} : R a m → Out m → Bridge R Out m b → Bridge R Out a b

/-- A link in either direction. -/
def Either (D : α → α → Prop) (a b : α) : Prop := D a b ∨ D b a

/-- The labels of an element: its own and those of the elements it derives from. -/
inductive Inherits (D : α → α → Prop) (Own : α → γ → Prop) : α → γ → Prop
  | own {s : α} {g : γ} : Own s g → Inherits D Own s g
  | from {s o : α} {g : γ} : D s o → Inherits D Own o g → Inherits D Own s g

/-- The labels of an element that come to it through elements that satisfy `Out`. -/
inductive InheritsThrough (D : α → α → Prop) (Own : α → γ → Prop) (Out : α → Prop) :
    α → γ → Prop
  | own {s : α} {g : γ} : Own s g → InheritsThrough D Own Out s g
  | from {s o : α} {g : γ} :
      D s o → Out o → InheritsThrough D Own Out o g → InheritsThrough D Own Out s g

/-- The element imports the label: it derives from an element that satisfies `Out`, and the
label comes to that one through such elements. -/
def Imports (D : α → α → Prop) (Own : α → γ → Prop) (Out : α → Prop)
    (s : α) (g : γ) : Prop :=
  ∃ o, D s o ∧ Out o ∧ InheritsThrough D Own Out o g

/-- Two elements are linked: by a chain, or by a label that both have. -/
def Linked (D : α → α → Prop) (Own : α → γ → Prop) (a b : α) : Prop :=
  Relation.ReflTransGen (Either D) a b ∨ ∃ g, Inherits D Own a g ∧ Inherits D Own b g

theorem Bridge.reach {R : α → α → Prop} {Out : α → Prop} {a b : α}
    (h : Bridge R Out a b) :
    Relation.ReflTransGen R a b := by
  induction h with
  | last h₁ _ h₂ => exact (Relation.ReflTransGen.single h₁).tail h₂
  | cons h₁ _ _ ih => exact ih.head h₁

theorem InheritsThrough.inherits {D : α → α → Prop}
    {Own : α → γ → Prop} {Out : α → Prop}
    {s : α} {g : γ} (h : InheritsThrough D Own Out s g) : Inherits D Own s g := by
  induction h with
  | own h => exact .own h
  | «from» hd _ _ ih => exact .from hd ih

theorem inheritsThrough_iff {D : α → α → Prop} {Own : α → γ → Prop}
    {Out : α → Prop} {s : α}
    {g : γ} : InheritsThrough D Own Out s g ↔ Own s g ∨ Imports D Own Out s g := by
  constructor
  · intro h
    cases h with
    | own h => exact Or.inl h
    | «from» hd hout h => exact Or.inr ⟨_, hd, hout, h⟩
  · rintro (h | ⟨o, hd, hout, h⟩)
    · exact .own h
    · exact .from hd hout h

theorem Imports.inherits {D : α → α → Prop} {Own : α → γ → Prop}
    {Out : α → Prop} {s : α}
    {g : γ} (h : Imports D Own Out s g) : Inherits D Own s g :=
  (inheritsThrough_iff.mpr (Or.inr h)).inherits

/-! ## Where a chain crosses -/

/-- The elements outside of both sets. -/
def Outside (T V : α → Prop) (x : α) : Prop := ¬ T x ∧ ¬ V x

/-- The element crosses to `V` in one step or over a bridge. -/
def Crosses (R : α → α → Prop) (T V : α → Prop) (a : α) : Prop :=
  ∃ b, V b ∧ (R a b ∨ Bridge R (Outside T V) a b)

/-- A chain that ends in `V` starts in `V`, or its start crosses, or some element of `T`
does. The induction is on the chain from its end. -/
theorem chain_cases {R : α → α → Prop} {T V : α → Prop} {a b : α}
    (h : Relation.ReflTransGen R a b) (hb : V b) :
    V a ∨ Crosses R T V a ∨ ∃ a', T a' ∧ Crosses R T V a' := by
  induction h using Relation.ReflTransGen.head_induction_on with
  | refl => exact Or.inl hb
  | @head x y hxy _ ih =>
    rcases ih with hv | hcross | hT
    · exact Or.inr (Or.inl ⟨y, hv, Or.inl hxy⟩)
    · by_cases hVy : V y
      · exact Or.inr (Or.inl ⟨y, hVy, Or.inl hxy⟩)
      by_cases hTy : T y
      · exact Or.inr (Or.inr ⟨y, hTy, hcross⟩)
      obtain ⟨c, hc, hyc | hbridge⟩ := hcross
      · exact Or.inr (Or.inl ⟨c, hc, Or.inr (.last hxy ⟨hTy, hVy⟩ hyc)⟩)
      · exact Or.inr (Or.inl ⟨c, hc, Or.inr (.cons hxy ⟨hTy, hVy⟩ hbridge)⟩)
    · exact Or.inr (Or.inr hT)

theorem exists_crossing {R : α → α → Prop} {T V : α → Prop} {a b : α}
    (hd : ∀ x, T x → ¬ V x) (h : Relation.ReflTransGen R a b) (ha : T a) (hb : V b) :
    ∃ a', T a' ∧ Crosses R T V a' := by
  rcases chain_cases (T := T) h hb with hv | hcross | hT
  · exact absurd hv (hd a ha)
  · exact ⟨a, ha, hcross⟩
  · exact hT

/-- An inherited label comes, through elements that satisfy `Out`, from the element itself or
from an ancestor that does not satisfy `Out`. -/
theorem Inherits.through {D : α → α → Prop} {Own : α → γ → Prop} {s : α} {g : γ}
    (h : Inherits D Own s g) (Out : α → Prop) :
    ∃ s', Relation.ReflTransGen D s s' ∧ (s' = s ∨ ¬ Out s') ∧
      InheritsThrough D Own Out s' g := by
  induction h with
  | own h => exact ⟨_, .refl, Or.inl rfl, .own h⟩
  | @«from» s o g hd _ ih =>
    obtain ⟨o', hreach, ho', hthrough⟩ := ih
    by_cases hout : Out o'
    · have hoo : o' = o := ho'.resolve_right (fun hn => hn hout)
      subst hoo
      exact ⟨s, .refl, Or.inl rfl, .from hd hout hthrough⟩
    · exact ⟨o', hreach.head hd, Or.inr hout, hthrough⟩

theorem reach_either {D : α → α → Prop} {a b : α} (h : Relation.ReflTransGen D a b) :
    Relation.ReflTransGen (Either D) a b := by
  induction h with
  | refl => exact .refl
  | tail _ hd ih => exact ih.tail (Or.inl hd)

theorem reach_either_symm {D : α → α → Prop} {a b : α}
    (h : Relation.ReflTransGen (Either D) a b) : Relation.ReflTransGen (Either D) b a := by
  induction h with
  | refl => exact .refl
  | tail _ hd ih => exact ih.head hd.symm

/-- No link between the two sets goes through the elements outside: no bridge leads from one to
the other, and no label that an element of one set imports is own or imported on the other. -/
structure NoOutsideLink (D : α → α → Prop) (Own : α → γ → Prop)
    (T V : α → Prop) : Prop where
  no_bridge : ∀ a b, T a → V b → ¬ Bridge (Either D) (Outside T V) a b
  no_import : ∀ a b g, T a → V b → Imports D Own (Outside T V) a g →
    ¬ Imports D Own (Outside T V) b g
  no_import_left : ∀ a b g, T a → V b → Imports D Own (Outside T V) a g → ¬ Own b g
  no_import_right : ∀ a b g, T a → V b → Imports D Own (Outside T V) b g → ¬ Own a g

/-- Two disjoint sets without a direct link and without a common own label between them are
separated exactly when no link goes through the elements outside. -/
theorem separated_iff {D : α → α → Prop} {Own : α → γ → Prop} {T V : α → Prop}
    (hd : ∀ x, T x → ¬ V x) (hlink : ∀ a b, T a → V b → ¬ Either D a b)
    (hown : ∀ a b g, T a → V b → Own a g → ¬ Own b g) :
    (∀ a b, T a → V b → ¬ Linked D Own a b) ↔ NoOutsideLink D Own T V := by
  constructor
  · intro h
    have hlabel : ∀ a b g, T a → V b → Inherits D Own a g → ¬ Inherits D Own b g :=
      fun a b g ha hb hga hgb => h a b ha hb (Or.inr ⟨g, hga, hgb⟩)
    exact
      { no_bridge := fun a b ha hb hbr => h a b ha hb (Or.inl hbr.reach)
        no_import := fun a b g ha hb hga hgb => hlabel a b g ha hb hga.inherits hgb.inherits
        no_import_left := fun a b g ha hb hga hgb => hlabel a b g ha hb hga.inherits (.own hgb)
        no_import_right := fun a b g ha hb hgb hga => hlabel a b g ha hb (.own hga) hgb.inherits }
  intro hno
  have hchain : ∀ a b, T a → V b → ¬ Relation.ReflTransGen (Either D) a b := by
    intro a b ha hb h
    obtain ⟨a', ha', b', hb', hstep | hbr⟩ := exists_crossing hd h ha hb
    · exact hlink a' b' ha' hb' hstep
    · exact hno.no_bridge a' b' ha' hb' hbr
  rintro a b ha hb (h | ⟨g, hga, hgb⟩)
  · exact hchain a b ha hb h
  · -- Follow both derivations up to the last element inside `T` or `V`.
    obtain ⟨a', hra, ha', hta⟩ := hga.through (Outside T V)
    obtain ⟨b', hrb, hb', htb⟩ := hgb.through (Outside T V)
    have hTa' : T a' := by
      rcases ha' with rfl | hin
      · exact ha
      · by_contra hT
        exact hin ⟨hT, fun hV => hchain a a' ha hV (reach_either hra)⟩
    have hVb' : V b' := by
      rcases hb' with rfl | hin
      · exact hb
      · by_contra hV
        exact hin ⟨fun hT => hchain b' b hT hb (reach_either_symm (reach_either hrb)), hV⟩
    rcases inheritsThrough_iff.mp hta with hoa | hia
    · rcases inheritsThrough_iff.mp htb with hob | hib
      · exact hown a' b' g hTa' hVb' hoa hob
      · exact hno.no_import_right a' b' g hTa' hVb' hib hoa
    · rcases inheritsThrough_iff.mp htb with hob | hib
      · exact hno.no_import_left a' b' g hTa' hVb' hia hob
      · exact hno.no_import a' b' g hTa' hVb' hia hib

end Separation
