import DagMlData.Lib.Heap

/-!
# Values that are handed out

A library that hands out values on the heap says how a value is stored, how it is read through what
the receiver gets, and how it is given back. `Export` has the three functions, and `Lawful` says
that they fit: a stored value owns cells of its own, is read as it was, and is given back whole.

* `plain`, `pair`, `either`, `Slices.boxed`, `Slices.array`: exports of plain values, of two values,
  of one of two, of slices and of values in a slice.
* `run_is`: a receiver that takes values and gives them back in any order has no fault, and holds
  what a list would hold.
* `Holds.read`, `Holds.giveBackAll`: what it holds can be read at any time, and when it has given
  everything back, the heap is as it was.
-/

namespace Owned

variable {γ τ α α' β β' ρ ρ' : Type}

/-- How values of `α` are handed out as `ρ`. A reader sees a `β`. -/
structure Export (γ α ρ β : Type) where
  store : α → Heap γ → ρ × Heap γ
  free : ρ → Heap γ → Option (Heap γ)
  read : ρ → Heap γ → Option β
  meaning : α → β

namespace Export

/-- The cells belong to what was handed out: with them it is read and given back. -/
structure Owns (E : Export γ α ρ β) (r : ρ) (b : β) (own : List (Nat × γ)) : Prop where
  read : ∀ h rest, Heap.Is h (own ++ rest) → E.read r h = some b
  free : ∀ h rest, Heap.Is h (own ++ rest) → ∃ h', E.free r h = some h' ∧ h'.Is rest

/-- A stored value owns cells of its own, and is read as it is meant. -/
def Lawful (E : Export γ α ρ β) : Prop :=
  ∀ a h rest, Heap.Is h rest → ∃ own,
    E.Owns (E.store a h).1 (E.meaning a) own ∧ (E.store a h).2.Is (own ++ rest)

/-! ## Values that are converted first -/

def comap (E : Export γ α ρ β) (f : α' → α) : Export γ α' ρ β where
  store a := E.store (f a)
  free := E.free
  read := E.read
  meaning a := E.meaning (f a)

theorem Lawful.comap {E : Export γ α ρ β} (h : E.Lawful)
    (f : α' → α) : (E.comap f).Lawful :=
  fun a heap rest his =>
    have ⟨own, howns, hcells⟩ := h (f a) heap rest his
    ⟨own, ⟨howns.read, howns.free⟩, hcells⟩

/-! ## Values in a struct -/

/-- An export that has the same cells, with what is handed out and what is read in another form. -/
theorem Lawful.transport {E : Export γ α ρ β} (h : E.Lawful)
    {E' : Export γ α' ρ' β'} (f : α' → α)
    (g : ρ → ρ') (k : β → β')
    (hstore : ∀ a heap, E'.store a heap = (g (E.store (f a) heap).1, (E.store (f a) heap).2))
    (hfree : ∀ r heap, E'.free (g r) heap = E.free r heap)
    (hread : ∀ r heap, E'.read (g r) heap = (E.read r heap).map k)
    (hmeaning : ∀ a, E'.meaning a = k (E.meaning (f a))) : E'.Lawful := by
  intro a heap rest his
  obtain ⟨own, howns, hcells⟩ := h (f a) heap rest his
  rw [hstore, hmeaning]
  refine ⟨own, ⟨fun h rest his => ?_, fun h rest his => ?_⟩, hcells⟩
  · rw [hread, howns.read h rest his]
    rfl
  · rw [hfree]
    exact howns.free h rest his

/-! ## Plain values -/

/-- A value that is handed out as it is. -/
def plain (γ α : Type) : Export γ α α α where
  store a h := (a, h)
  free _ h := some h
  read a _ := some a
  meaning := id

theorem plain_lawful : (plain γ α).Lawful := fun _ _ _ his =>
  ⟨[], ⟨fun _ _ _ => rfl, fun h _ his => ⟨h, rfl, his⟩⟩, his⟩

/-! ## Two values -/

def pair (E : Export γ α ρ β) (F : Export γ α' ρ' β') : Export γ (α × α')
    (ρ × ρ') (β × β') where
  store a h :=
    let (r, h) := E.store a.1 h
    let (s, h) := F.store a.2 h
    ((r, s), h)
  free r h := do
    let h ← E.free r.1 h
    F.free r.2 h
  read r h := do
    let b ← E.read r.1 h
    let b' ← F.read r.2 h
    pure (b, b')
  meaning a := (E.meaning a.1, F.meaning a.2)

/-- Reading one after the other. -/
theorem map_pair_read {δ : Type} (E : Export γ α ρ β)
    (F : Export γ α' ρ' β') (k : β × β' → δ)
    (r : ρ × ρ') (h : Heap γ) :
    ((E.pair F).read r h).map k =
      (E.read r.1 h).bind fun b => (F.read r.2 h).map fun b' => k (b, b') := by
  show (do let b ← E.read r.1 h; let b' ← F.read r.2 h; pure (b, b')).map k = _
  cases E.read r.1 h with
  | none => rfl
  | some b => cases F.read r.2 h <;> rfl

theorem Owns.pair {E : Export γ α ρ β} {F : Export γ α' ρ' β'} {r : ρ}
    {s : ρ'} {b : β} {b' : β'}
    {own own' : List (Nat × γ)} (hE : E.Owns r b own) (hF : F.Owns s b' own') :
    (E.pair F).Owns (r, s) (b, b') (own' ++ own) where
  read h rest his := by
    have hswap : (own' ++ own ++ rest).Perm (own ++ (own' ++ rest)) := by
      rw [← List.append_assoc]
      exact List.perm_append_comm.append_right rest
    have hsecond : own' ++ own ++ rest = own' ++ (own ++ rest) := List.append_assoc ..
    show (do let b ← E.read r h; let b' ← F.read s h; pure (b, b')) = _
    rw [hE.read h _ (his.perm hswap), hF.read h _ (hsecond ▸ his)]
    rfl
  free h rest his := by
    have hswap : (own' ++ own ++ rest).Perm (own ++ (own' ++ rest)) := by
      rw [← List.append_assoc]
      exact List.perm_append_comm.append_right rest
    obtain ⟨h₁, hfree₁, his₁⟩ := hE.free h _ (his.perm hswap)
    obtain ⟨h₂, hfree₂, his₂⟩ := hF.free h₁ _ his₁
    refine ⟨h₂, ?_, his₂⟩
    show (do let h ← E.free r h; F.free s h) = _
    rw [hfree₁]
    exact hfree₂

theorem Lawful.pair {E : Export γ α ρ β} {F : Export γ α' ρ' β'} (hE : E.Lawful)
    (hF : F.Lawful) : (E.pair F).Lawful := by
  rintro ⟨a, a'⟩ h rest his
  obtain ⟨own, howns, his₁⟩ := hE a h rest his
  obtain ⟨own', howns', his₂⟩ := hF a' (E.store a h).2 _ his₁
  refine ⟨own' ++ own, howns.pair howns', ?_⟩
  rw [List.append_assoc]
  exact his₂

/-! ## One of two values -/

def either (E : Export γ α ρ β) (F : Export γ α' ρ' β') : Export γ (α ⊕ α')
    (ρ ⊕ ρ') (β ⊕ β') where
  store
    | .inl a, h => let (r, h) := E.store a h; (.inl r, h)
    | .inr a, h => let (s, h) := F.store a h; (.inr s, h)
  free
    | .inl r, h => E.free r h
    | .inr s, h => F.free s h
  read
    | .inl r, h => (E.read r h).map .inl
    | .inr s, h => (F.read s h).map .inr
  meaning
    | .inl a => .inl (E.meaning a)
    | .inr a => .inr (F.meaning a)

theorem Lawful.either {E : Export γ α ρ β} {F : Export γ α' ρ' β'} (hE : E.Lawful)
    (hF : F.Lawful) : (E.either F).Lawful := by
  rintro (a | a) h rest his
  · obtain ⟨own, howns, hcells⟩ := hE a h rest his
    exact ⟨own, ⟨fun h rest his => congrArg (Option.map Sum.inl) (howns.read h rest his),
      howns.free⟩, hcells⟩
  · obtain ⟨own, howns, hcells⟩ := hF a h rest his
    exact ⟨own, ⟨fun h rest his => congrArg (Option.map Sum.inr) (howns.read h rest his),
      howns.free⟩, hcells⟩

end Export

/-! ## Slices -/

/-- The cells that hold slices of a type. -/
structure Slices (γ τ : Type) where
  cell : List τ → γ
  items : γ → Option (List τ)
  items_cell : ∀ xs, items (cell xs) = some xs

/-- A pointer to items, with their number. -/
structure CSlice where
  ptr : Option Nat
  len : Nat
deriving DecidableEq

namespace Slices

variable (S : Slices γ τ)

/-- The slice at an address. -/
def load (h : Heap γ) (a : Nat) : Option (List τ) := (h.get a).bind S.items

/-- A boxed slice. No items have no box. -/
def boxed : Export γ (List τ) CSlice (List τ) where
  store xs h :=
    if xs.isEmpty then (⟨none, 0⟩, h)
    else
      let (a, h) := h.alloc (S.cell xs)
      (⟨some a, xs.length⟩, h)
  free s h :=
    match s.ptr with
    | none => some h
    | some a => do
      -- The box is freed with the layout of its number of items.
      let xs ← S.load h a
      if xs.length = s.len then h.free a else none
  read s h :=
    match s.ptr with
    | none => some []
    | some a => do
      let xs ← S.load h a
      if s.len ≤ xs.length then some (xs.take s.len) else none
  meaning := id

theorem load_of_is {h : Heap γ} {a : Nat} {xs : List τ} {rest : List (Nat × γ)}
    (his : h.Is ((a, S.cell xs) :: rest)) : S.load h a = some xs := by
  unfold load
  rw [his.get]
  exact S.items_cell xs

theorem boxed_owns_nil : S.boxed.Owns ⟨none, 0⟩ [] [] where
  read _ _ _ := rfl
  free h _ his := ⟨h, rfl, his⟩

theorem boxed_owns (a : Nat) (xs : List τ) :
    S.boxed.Owns ⟨some a, xs.length⟩ xs [(a, S.cell xs)] where
  read h rest his := by
    show (do let xs ← S.load h a; _) = _
    rw [S.load_of_is his]
    simp
  free h rest his := by
    obtain ⟨h', hfree, his'⟩ := Heap.Is.free his
    refine ⟨h', ?_, his'⟩
    show (do let xs ← S.load h a; _) = _
    rw [S.load_of_is his]
    simpa using hfree

theorem boxed_lawful : S.boxed.Lawful := by
  intro xs h rest his
  cases xs with
  | nil => exact ⟨[], S.boxed_owns_nil, his⟩
  | cons x xs => exact ⟨[((h.alloc (S.cell (x :: xs))).1, S.cell (x :: xs))], S.boxed_owns _ _,
      his.alloc _⟩

/-! ## Values in a slice -/

/-- Stores the values one after the other. -/
def storeAll (E : Export γ α ρ β) : List α → Heap γ → List ρ × Heap γ
  | [], h => ([], h)
  | a :: as, h =>
    let (r, h) := E.store a h
    let (rs, h) := storeAll E as h
    (r :: rs, h)

variable (S : Slices γ ρ)

/-- A boxed slice of what is handed out for the items. Each item is read from the slice and given
back, and the box last. -/
def array (E : Export γ α ρ β) : Export γ (List α) CSlice (List β) where
  store as h :=
    let (rs, h) := storeAll E as h
    S.boxed.store rs h
  free s h :=
    match s.ptr with
    | none => some h
    | some a => do
      let h ← (List.range s.len).foldlM (fun h idx => do
        let rs ← S.load h a
        let r ← rs[idx]?
        E.free r h) h
      S.boxed.free s h
  read s h := do
    let rs ← S.boxed.read s h
    rs.mapM fun r => E.read r h
  meaning as := as.map E.meaning

end Slices

/-! ## What several values own -/

/-- The cells of values that are handed out one after the other. -/
inductive OwnsAll (E : Export γ α ρ β) : List ρ → List β → List (Nat × γ) → Prop
  | nil : OwnsAll E [] [] []
  | cons {r : ρ} {b : β} {own : List (Nat × γ)} {rs : List ρ} {bs : List β}
      {owns : List (Nat × γ)} :
      E.Owns r b own → OwnsAll E rs bs owns → OwnsAll E (r :: rs) (b :: bs) (own ++ owns)

namespace OwnsAll

variable {E : Export γ α ρ β} {rs : List ρ} {bs : List β} {owns : List (Nat × γ)}

theorem concat (h : OwnsAll E rs bs owns) {r : ρ} {b : β} {own : List (Nat × γ)}
    (howns : E.Owns r b own) : OwnsAll E (rs ++ [r]) (bs ++ [b]) (owns ++ own) := by
  induction h with
  | nil =>
    have h := cons howns nil
    rw [List.append_nil] at h
    exact h
  | cons hfirst _ ih =>
    rw [List.append_assoc]
    exact cons hfirst ih

/-- All the values can be read. -/
theorem read (h : OwnsAll E rs bs owns) {heap : Heap γ} {rest : List (Nat × γ)}
    (his : heap.Is (owns ++ rest)) : rs.mapM (fun r => E.read r heap) = some bs := by
  induction h generalizing rest with
  | nil => rfl
  | @cons r b own rs bs owns hfirst _ ih =>
    have hswap : (own ++ owns ++ rest).Perm (owns ++ (own ++ rest)) := by
      rw [← List.append_assoc]
      exact List.perm_append_comm.append_right rest
    rw [List.mapM_cons, hfirst.read heap _ (List.append_assoc own owns rest ▸ his),
      ih (his.perm hswap)]
    rfl

theorem length_eq (h : OwnsAll E rs bs owns) : rs.length = bs.length := by
  induction h with
  | nil => rfl
  | cons _ _ ih => exact congrArg Nat.succ ih

/-- One of the values with its cells, and the others with theirs. -/
theorem extract (h : OwnsAll E rs bs owns) {i : Nat} {r : ρ} (hr : rs[i]? = some r) :
    ∃ b own others, bs[i]? = some b ∧ E.Owns r b own ∧ owns.Perm (own ++ others) ∧
      OwnsAll E (rs.eraseIdx i) (bs.eraseIdx i) others := by
  induction h generalizing i with
  | nil => cases hr
  | @cons first b own rs bs owns hfirst hrest ih =>
    cases i with
    | zero =>
      obtain rfl := Option.some.inj hr
      exact ⟨b, own, owns, rfl, hfirst, .refl _, hrest⟩
    | succ i =>
      obtain ⟨b', own', others, hb, howns, hperm, hothers⟩ := ih hr
      refine ⟨b', own', own ++ others, hb, howns, ?_, cons hfirst hothers⟩
      refine (hperm.append_left own).trans ?_
      rw [← List.append_assoc, ← List.append_assoc]
      exact List.perm_append_comm.append_right others

/-- Storing the values one after the other. -/
theorem storeAll (hE : E.Lawful) (as : List α) (h : Heap γ) {rest : List (Nat × γ)}
    (his : h.Is rest) :
    ∃ owns, OwnsAll E (Slices.storeAll E as h).1 (as.map E.meaning) owns ∧
      (Slices.storeAll E as h).2.Is (owns ++ rest) := by
  induction as generalizing h rest with
  | nil => exact ⟨[], nil, his⟩
  | cons a as ih =>
    obtain ⟨own, howns, his₁⟩ := hE a h rest his
    obtain ⟨owns, hall, his₂⟩ := ih (E.store a h).2 his₁
    refine ⟨own ++ owns, cons howns hall, his₂.perm ?_⟩
    rw [← List.append_assoc]
    exact List.perm_append_comm.append_right rest

end OwnsAll

namespace Slices

variable (S : Slices γ ρ) {E : Export γ α ρ β}

/-- The loop gives back the items from a place on, and leaves the slice as it is. -/
theorem freeItems {a : Nat} {bs : List β} {owns : List (Nat × γ)} {items : List ρ}
    (hall : OwnsAll E items bs owns) (before : List ρ) (h : Heap γ) {rest : List (Nat × γ)}
    (his : h.Is ((a, S.cell (before ++ items)) :: (owns ++ rest))) :
    ∃ h', (List.range' before.length items.length).foldlM (fun h idx => do
        let rs ← S.load h a
        let r ← rs[idx]?
        E.free r h) h = some h' ∧
      h'.Is ((a, S.cell (before ++ items)) :: rest) := by
  induction hall generalizing before h with
  | nil => exact ⟨h, rfl, his⟩
  | @cons r b own rs bs owns hfirst _ ih =>
    have hperm : ((a, S.cell (before ++ r :: rs)) :: (own ++ owns ++ rest)).Perm
        (own ++ ((a, S.cell (before ++ r :: rs)) :: (owns ++ rest))) := by
      rw [List.append_assoc]
      exact List.perm_middle.symm
    obtain ⟨h₁, hfree, his₁⟩ := hfirst.free h _ (his.perm hperm)
    have hsplit : before ++ r :: rs = (before ++ [r]) ++ rs := by simp
    obtain ⟨h₂, hloop, his₂⟩ := ih (before ++ [r]) h₁ (hsplit ▸ his₁)
    rw [List.length_append, List.length_singleton] at hloop
    refine ⟨h₂, ?_, hsplit ▸ his₂⟩
    rw [List.length_cons, List.range'_succ, List.foldlM_cons]
    have hitem : (before ++ r :: rs)[before.length]? = some r := by simp
    have hstep : (do
        let rs ← S.load h a
        let r ← rs[before.length]?
        E.free r h) = some h₁ := by
      rw [S.load_of_is his]
      show (do let r ← (before ++ r :: rs)[before.length]?; E.free r h) = _
      rw [hitem]
      exact hfree
    rw [hstep]
    exact hloop

/-- A slice of items owns its box and what the items own. -/
theorem array_owns {a : Nat} {rs : List ρ} {bs : List β} {owns : List (Nat × γ)}
    (hall : OwnsAll E rs bs owns) :
    (S.array E).Owns ⟨some a, rs.length⟩ bs ((a, S.cell rs) :: owns) where
  read h rest his := by
    show (do let rs ← S.boxed.read ⟨some a, rs.length⟩ h; rs.mapM fun r => E.read r h) = _
    rw [(S.boxed_owns a rs).read h (owns ++ rest) his]
    have hperm : ((a, S.cell rs) :: owns ++ rest).Perm (owns ++ ((a, S.cell rs) :: rest)) :=
      List.perm_middle.symm
    exact hall.read (his.perm hperm)
  free h rest his := by
    obtain ⟨h₁, hloop, his₁⟩ := S.freeItems hall [] h his
    obtain ⟨h₂, hfree, his₂⟩ := (S.boxed_owns a rs).free h₁ rest his₁
    refine ⟨h₂, ?_, his₂⟩
    show ((List.range rs.length).foldlM _ h >>= S.boxed.free ⟨some a, rs.length⟩) = _
    rw [List.range_eq_range']
    refine Eq.trans ?_ hfree
    exact congrArg (· >>= S.boxed.free ⟨some a, rs.length⟩) hloop

theorem array_owns_nil : (S.array E).Owns ⟨none, 0⟩ [] [] where
  read _ _ _ := rfl
  free h _ his := ⟨h, rfl, his⟩

theorem array_lawful (hE : E.Lawful) : (S.array E).Lawful := by
  intro as h rest his
  obtain ⟨owns, hall, his₁⟩ := OwnsAll.storeAll hE as h his
  show ∃ own, (S.array E).Owns (S.boxed.store (storeAll E as h).1 (storeAll E as h).2).1
      (as.map E.meaning) own ∧
    (S.boxed.store (storeAll E as h).1 (storeAll E as h).2).2.Is (own ++ rest)
  generalize (storeAll E as h).1 = rs at hall
  generalize (storeAll E as h).2 = h₁ at his₁
  generalize as.map E.meaning = bs at hall
  cases hall with
  | nil => exact ⟨[], S.array_owns_nil, his₁⟩
  | cons hfirst hrest =>
    exact ⟨_, S.array_owns (.cons hfirst hrest), his₁.alloc _⟩

end Slices

/-! ## Receivers -/

/-- What a receiver does: it takes a value, or it gives back the one at a place. -/
inductive Action (α : Type)
  | take (a : α)
  | giveBack (place : Nat)

/-- The heap, and what the receiver holds. -/
structure Receiver (γ ρ : Type) where
  heap : Heap γ
  held : List ρ

namespace Receiver

variable (E : Export γ α ρ β)

/-- An action. There is nothing to give back at a place where the receiver holds nothing. -/
def step (c : Receiver γ ρ) : Action α → Option (Receiver γ ρ)
  | .take a =>
    let (r, h) := E.store a c.heap
    some ⟨h, c.held ++ [r]⟩
  | .giveBack place =>
    match c.held[place]? with
    | none => some c
    | some r => do
      let h ← E.free r c.heap
      pure ⟨h, c.held.eraseIdx place⟩

def run (c : Receiver γ ρ) (actions : List (Action α)) : Option (Receiver γ ρ) :=
  actions.foldlM (step E) c

/-- The same action on a list of values. -/
def after (bs : List β) : Action α → List β
  | .take a => bs ++ [E.meaning a]
  | .giveBack place => bs.eraseIdx place

/-- The receiver holds these values, next to the other cells. -/
def Holds (c : Receiver γ ρ) (bs : List β) (rest : List (Nat × γ)) : Prop :=
  ∃ owns, OwnsAll E c.held bs owns ∧ c.heap.Is (owns ++ rest)

variable {E} {c : Receiver γ ρ} {bs : List β} {rest : List (Nat × γ)}

/-- All that it holds can be read. -/
theorem Holds.read (h : Holds E c bs rest) : c.held.mapM (fun r => E.read r c.heap) = some bs := by
  obtain ⟨owns, hall, his⟩ := h
  exact hall.read his

theorem step_is (hE : E.Lawful) (h : Holds E c bs rest) (action : Action α) :
    ∃ c', step E c action = some c' ∧ Holds E c' (after E bs action) rest := by
  obtain ⟨owns, hall, his⟩ := h
  cases action with
  | take a =>
    obtain ⟨own, howns, his'⟩ := hE a c.heap _ his
    refine ⟨_, rfl, owns ++ own, hall.concat howns, his'.perm ?_⟩
    rw [← List.append_assoc]
    exact List.perm_append_comm.append_right rest
  | giveBack place =>
    unfold step after
    simp only
    cases hr : c.held[place]? with
    | none =>
      refine ⟨c, rfl, owns, ?_, his⟩
      have hlength : bs.length = c.held.length := hall.length_eq.symm
      rw [List.eraseIdx_of_length_le (hlength.trans_le (List.getElem?_eq_none_iff.mp hr))]
      exact hall
    | some r =>
      obtain ⟨b, own, others, -, howns, hperm, hothers⟩ := hall.extract hr
      have hcells : (owns ++ rest).Perm (own ++ (others ++ rest)) := by
        rw [← List.append_assoc]
        exact hperm.append_right rest
      obtain ⟨h', hfree, his'⟩ := howns.free c.heap _ (his.perm hcells)
      refine ⟨⟨h', c.held.eraseIdx place⟩, ?_, others, hothers, his'⟩
      show (do let h ← E.free r c.heap; pure (Receiver.mk h _)) = _
      rw [hfree]
      rfl

/-- A receiver never runs into a fault, and holds what a list would hold. -/
theorem run_is (hE : E.Lawful) (h : Holds E c bs rest) (actions : List (Action α)) :
    ∃ c', run E c actions = some c' ∧ Holds E c' (actions.foldl (after E) bs) rest := by
  induction actions generalizing c bs with
  | nil => exact ⟨c, rfl, h⟩
  | cons action actions ih =>
    obtain ⟨c₁, hstep, h₁⟩ := step_is hE h action
    obtain ⟨c₂, hrun, h₂⟩ := ih h₁
    refine ⟨c₂, ?_, h₂⟩
    unfold run at hrun ⊢
    rw [List.foldlM_cons, hstep]
    exact hrun

/-- Gives back all that the receiver holds, the first one first. -/
def giveBackAll (E : Export γ α ρ β) (c : Receiver γ ρ) : Option (Receiver γ ρ) :=
  run E c (List.replicate c.held.length (.giveBack 0))

theorem after_replicate (n : Nat) (bs : List β) :
    (List.replicate n (Action.giveBack 0)).foldl (after E) bs = bs.drop n := by
  induction n generalizing bs with
  | zero => rfl
  | succ n ih =>
    rw [List.replicate_succ, List.foldl_cons, ih]
    cases bs with
    | nil => exact List.drop_nil
    | cons b bs => rfl

/-- When everything is given back, the heap has the other cells and nothing else. -/
theorem Holds.giveBackAll (hE : E.Lawful) (h : Holds E c bs rest) :
    ∃ c', Receiver.giveBackAll E c = some c' ∧ c'.held = [] ∧ c'.heap.Is rest := by
  have hlength : bs.length = c.held.length := by
    obtain ⟨owns, hall, -⟩ := h
    exact hall.length_eq.symm
  obtain ⟨c', hrun, howns⟩ := run_is hE h (List.replicate c.held.length (.giveBack 0))
  rw [after_replicate, List.drop_eq_nil_of_le hlength.le] at howns
  obtain ⟨owns, hall, his⟩ := howns
  refine ⟨c', hrun, ?_⟩
  generalize c'.held = held at hall ⊢
  cases hall with
  | nil => exact ⟨rfl, his⟩

end Receiver

end Owned
