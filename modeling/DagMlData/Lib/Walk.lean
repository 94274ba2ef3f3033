import Mathlib

/-!
# Least walks in a weighted graph

Walks in a directed graph with weighted edges and parallel edges, as lists of edges. A walk may
visit a node and use an edge any number of times. Walks are compared by total weight first and by
length second (`WeightedGraph.key`). Edges of weight zero are allowed, so a longer walk can have the
same weight, but never the same key as a walk that it extends.

* `WeightedGraph.IsWalk`: consecutive edges fit. `WeightedGraph.Route`: a walk over allowed edges
  within a hop limit. `WeightedGraph.Least`: a route that no other route precedes.
* `Least.nodup`: a least route repeats no edge.
* `Least.ne_of_prefix`: it meets its target at its end only.
* `Least.weight_le_of_prefix`: every prefix of it is of least weight among the walks of the same
  length to the same node.
-/

structure WeightedGraph (V E : Type) where
  src : E → V
  dst : E → V
  weight : E → Nat

namespace WeightedGraph

variable {V E : Type} (G : WeightedGraph V E)

/-- The edges lead from `a` to `b`. -/
def IsWalk (a b : V) : List E → Prop
  | [] => a = b
  | e :: p => G.src e = a ∧ IsWalk (G.dst e) b p

/-- Where the edges lead to from `a`. -/
def endOf (a : V) (p : List E) : V := p.foldl (fun _ e => G.dst e) a

def weightOf (p : List E) : Nat := (p.map G.weight).sum

/-- Total weight first, number of edges second. -/
def key (p : List E) : Nat ×ₗ Nat := toLex (G.weightOf p, p.length)

variable {G} {a b v : V} {p q r : List E} {e : E}

@[simp] theorem isWalk_nil : G.IsWalk a b [] ↔ a = b := Iff.rfl

@[simp] theorem isWalk_cons : G.IsWalk a b (e :: p) ↔ G.src e = a ∧ G.IsWalk (G.dst e) b p :=
  Iff.rfl

@[simp] theorem endOf_nil : G.endOf a [] = a := rfl

@[simp] theorem endOf_concat : G.endOf a (p ++ [e]) = G.dst e := by
  simp [endOf]

@[simp] theorem weightOf_nil : G.weightOf [] = 0 := rfl

@[simp] theorem weightOf_append : G.weightOf (p ++ q) = G.weightOf p + G.weightOf q := by
  simp [weightOf]

@[simp] theorem weightOf_singleton : G.weightOf [e] = G.weight e := by
  simp [weightOf]

theorem isWalk_append : G.IsWalk a b (p ++ q) ↔ ∃ v, G.IsWalk a v p ∧ G.IsWalk v b q := by
  induction p generalizing a with
  | nil => simp
  | cons e p ih =>
    rw [List.cons_append, isWalk_cons, ih]
    constructor
    · rintro ⟨hsrc, v, hp, hq⟩
      exact ⟨v, ⟨hsrc, hp⟩, hq⟩
    · rintro ⟨v, ⟨hsrc, hp⟩, hq⟩
      exact ⟨hsrc, v, hp, hq⟩

theorem IsWalk.endOf_eq (h : G.IsWalk a b p) : G.endOf a p = b := by
  induction p generalizing a with
  | nil => exact h
  | cons e p ih =>
    show G.endOf (G.dst e) p = b
    exact ih h.2

theorem key_lt_iff : G.key p < G.key q ↔
    G.weightOf p < G.weightOf q ∨ G.weightOf p = G.weightOf q ∧ p.length < q.length := by
  simp [key, Prod.Lex.toLex_lt_toLex]

theorem key_le_iff : G.key p ≤ G.key q ↔
    G.weightOf p < G.weightOf q ∨ G.weightOf p = G.weightOf q ∧ p.length ≤ q.length := by
  simp [key, Prod.Lex.toLex_le_toLex]

/-- A prefix never comes after the whole. -/
theorem key_le_append : G.key p ≤ G.key (p ++ q) := by
  rw [key_le_iff, weightOf_append, List.length_append]
  omega

/-! ## Routes -/

section Routes

variable (G) (allowed : E → Prop) (limit : Option Nat)

/-- At most as many edges as the limit says. -/
def WithinHops (limit : Option Nat) (n : Nat) : Prop := ∀ m, limit = some m → n ≤ m

/-- A walk over allowed edges within the hop limit. -/
structure Route (a b : V) (p : List E) : Prop where
  walk : G.IsWalk a b p
  edges : ∀ e ∈ p, allowed e
  hops : WithinHops limit p.length

/-- A route that comes before or with every other route between the same nodes. -/
structure Least (a b : V) (p : List E) : Prop extends G.Route allowed limit a b p where
  least : ∀ q, G.Route allowed limit a b q → G.key p ≤ G.key q

variable {G} {allowed} {limit}

theorem WithinHops.mono {m n : Nat} (h : WithinHops limit n) (hle : m ≤ n) :
    WithinHops limit m :=
  fun k hk => le_trans hle (h k hk)

/-- Where there is a route, there is a least one. -/
theorem Route.exists_least (h : G.Route allowed limit a b p) :
    ∃ q, G.Least allowed limit a b q := by
  let keys : Set (Nat ×ₗ Nat) := {k | ∃ q, G.Route allowed limit a b q ∧ G.key q = k}
  have hne : keys.Nonempty := ⟨G.key p, p, h, rfl⟩
  obtain ⟨q, hq, hkey⟩ := WellFounded.min_mem wellFounded_lt keys hne
  refine ⟨q, hq, fun r hr => ?_⟩
  have hr' : G.key r ∈ keys := ⟨r, hr, rfl⟩
  rw [hkey]
  exact not_lt.mp (WellFounded.not_lt_min wellFounded_lt keys hr')

/-- Two least routes have the same key. -/
theorem Least.key_eq (hp : G.Least allowed limit a b p) (hq : G.Least allowed limit a b q) :
    G.key p = G.key q :=
  le_antisymm (hp.least q hq.toRoute) (hq.least p hp.toRoute)

/-- A route with the key of a least route is least. -/
theorem Route.least_of_key_le (hq : G.Route allowed limit a b q)
    (hp : G.Least allowed limit a b p) (hle : G.key q ≤ G.key p) : G.Least allowed limit a b q :=
  ⟨hq, fun r hr => le_trans hle (hp.least r hr)⟩

/-- A piece of a least route may be exchanged for another one between the same nodes that is not
longer; the piece does not come after it. -/
theorem Least.exchange (h : G.Least allowed limit a b (p ++ q ++ r)) {u : V}
    (hp : G.IsWalk a u p) (hr : G.IsWalk v b r) {q' : List E} (hq' : G.IsWalk u v q')
    (hallowed : ∀ e ∈ q', allowed e) (hlength : q'.length ≤ q.length) :
    G.key q ≤ G.key q' := by
  have hroute : G.Route allowed limit a b (p ++ q' ++ r) := by
    refine ⟨?_, fun e he => ?_, h.hops.mono (by simp; omega)⟩
    · exact isWalk_append.mpr ⟨v, isWalk_append.mpr ⟨u, hp, hq'⟩, hr⟩
    · rcases List.mem_append.mp he with he | he
      · rcases List.mem_append.mp he with he | he
        · exact h.edges e (List.mem_append_left _ (List.mem_append_left _ he))
        · exact hallowed e he
      · exact h.edges e (List.mem_append_right _ he)
  have hle := h.least _ hroute
  rw [key_le_iff] at hle ⊢
  simp only [weightOf_append, List.length_append] at hle
  omega

/-- Every prefix of a least route is of least weight among the allowed walks of its length to its
end. -/
theorem Least.weight_le_of_prefix (h : G.Least allowed limit a b (p ++ q)) {p' : List E}
    (hp' : G.IsWalk a (G.endOf a p) p') (hallowed : ∀ e ∈ p', allowed e)
    (hlength : p'.length = p.length) : G.weightOf p ≤ G.weightOf p' := by
  obtain ⟨v, hp, hq⟩ := isWalk_append.mp h.walk
  have hv : G.endOf a p = v := hp.endOf_eq
  rw [hv] at hp'
  have h' : G.Least allowed limit a b ([] ++ p ++ q) := h
  have hle := h'.exchange rfl hq hp' hallowed (le_of_eq hlength)
  rw [key_le_iff] at hle
  omega

/-- A least route meets its target at its end only. -/
theorem Least.ne_of_prefix (h : G.Least allowed limit a b (p ++ e :: q)) : G.endOf a p ≠ b := by
  intro hend
  obtain ⟨v, hp, _⟩ := isWalk_append.mp h.walk
  have hroute : G.Route allowed limit a b p := by
    refine ⟨hend ▸ hp.endOf_eq.symm ▸ hp, fun e' he' => ?_, h.hops.mono (by simp)⟩
    exact h.edges e' (List.mem_append_left _ he')
  have hle := h.least p hroute
  rw [key_le_iff, weightOf_append, List.length_append, List.length_cons] at hle
  omega

/-- A least route repeats no edge: what lies between two uses could be cut out. -/
theorem Least.nodup (h : G.Least allowed limit a b p) : p.Nodup := by
  refine nodup_of_splits fun x e y hp he => ?_
  obtain ⟨y₁, y₂, rfl⟩ := List.append_of_mem he
  subst hp
  have h' : G.Least allowed limit a b (x ++ e :: y₁ ++ e :: y₂) := by simpa using h
  obtain ⟨u, hx, hrest⟩ := isWalk_append.mp (by simpa using h'.walk)
  rw [← List.cons_append] at hrest
  obtain ⟨v, hloop, hlast⟩ := isWalk_append.mp hrest
  have huv : G.IsWalk u v [] := hloop.1.symm.trans hlast.1
  have hle := h'.exchange hx hlast huv (fun _ he => nomatch he) (Nat.zero_le _)
  rw [key_le_iff, weightOf_nil, List.length_nil, List.length_cons] at hle
  omega
where
  nodup_of_splits {l : List E} (h : ∀ x e y, l = x ++ e :: y → e ∉ y) : l.Nodup := by
    induction l with
    | nil => exact List.nodup_nil
    | cons d l ih =>
      refine List.nodup_cons.mpr ⟨h [] d l rfl, ih fun x e y hl => ?_⟩
      exact h (d :: x) e y (by rw [hl]; rfl)

end Routes

end WeightedGraph
