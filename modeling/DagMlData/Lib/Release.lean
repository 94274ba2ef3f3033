import DagMlData.Lib.Heap

/-!
# Structs with a release callback

The ownership rules of a C interface that hands out trees of structs. A struct has a callback that
releases it, a pointer to data of its producer, and pointers into that data. The data owns the
children, which are structs on the heap. A struct without callback is released.

* `Layout`: the kinds of structs, and what a callback takes a struct and its data for.
* `release`, `dropBox`: the callback, and what frees a struct with all that it owns.
* `Tree`: what a struct owns. `Tree.cells`: its cells.
* `release_is`, `dropBox_is`: each frees what it owns and touches nothing else.
* `follow`, `Action`, `Consumer.step`: a consumer that follows the pointers that it can reach.
* `run_is`: no run of it has a fault, and what is allocated is what it still owns.
* `Shows.run`, `Shows.read`: a struct that no action is on is read as it was made.
-/

namespace Release

variable {ι κ δ π : Type}

/-- What the code takes memory for. A struct is of a kind, which its header tells. -/
structure Layout (ι κ δ π : Type) where
  kind : δ → ι
  /-- The kind of the struct that a callback is called on. Its children are of this kind too. -/
  takes : κ → ι
  /-- The private data of the type that a callback casts it to, by its number of children. -/
  casts : κ → π → Nat → Bool

structure CStruct (κ δ : Type) where
  release : Option κ
  header : δ
  privateData : Option Nat
  /-- The pointers into the private data. -/
  pointers : Option Nat

inductive Cell (κ δ π : Type)
  | struct (s : CStruct κ δ)
  | payload (data : π) (children : List (Option Nat))

def readStruct (h : Heap (Cell κ δ π)) (a : Nat) : Option (CStruct κ δ) :=
  match h.get a with
  | some (.struct s) => some s
  | _ => none

def readPrivate (h : Heap (Cell κ δ π)) (a : Nat) : Option (π × List (Option Nat)) :=
  match h.get a with
  | some (.payload data children) => some (data, children)
  | _ => none

section
variable [DecidableEq ι]

/-- Reads a struct through a pointer to structs of a kind. -/
def readAs (layout : Layout ι κ δ π) (kind : ι) (h : Heap (Cell κ δ π)) (a : Nat) :
    Option (CStruct κ δ) := do
  let s ← readStruct h a
  if layout.kind s.header = kind then some s else none

/-- Calls the callback of a struct when it has one, and frees the struct. The pointer is to structs
of a kind. -/
def dropWith (layout : Layout ι κ δ π)
    (callback : Heap (Cell κ δ π) → Nat → Option (Heap (Cell κ δ π))) (kind : ι)
    (h : Heap (Cell κ δ π)) (a : Nat) : Option (Heap (Cell κ δ π)) := do
  let s ← readAs layout kind h a
  let h ← if s.release.isSome then callback h a else some h
  h.free a

/-- Frees the children that are there. -/
def dropChildren (layout : Layout ι κ δ π)
    (callback : Heap (Cell κ δ π) → Nat → Option (Heap (Cell κ δ π))) (kind : ι)
    (h : Heap (Cell κ δ π)) (children : List (Option Nat)) : Option (Heap (Cell κ δ π)) :=
  children.foldlM (fun h child => (child.map (dropWith layout callback kind h)).getD (some h)) h

/-- The callback of the struct at an address. The struct has to be of the kind that the callback
takes, and the private data of the type that it casts them to. The callback of a child is one level
deeper. -/
def release (layout : Layout ι κ δ π) :
    Nat → Heap (Cell κ δ π) → Nat → Option (Heap (Cell κ δ π))
  | 0, _, _ => none
  | depth + 1, h, a => do
    let s ← readStruct h a
    match s.release with
    | none => some h
    | some callback => do
      let s ← readAs layout (layout.takes callback) h a
      let h ← h.set a (.struct { s with release := none })
      let h ← match s.privateData with
        | none => some h
        | some p => do
          let (data, children) ← readPrivate h p
          let _ ← if layout.casts callback data children.length then some () else none
          let h ← dropChildren layout (release layout depth) (layout.takes callback) h children
          h.free p
      h.set a (.struct { s with release := none, privateData := none, pointers := none })

/-- Frees the struct of a kind at an address with all that it owns. -/
def dropBox (layout : Layout ι κ δ π) (depth : Nat) (kind : ι) (h : Heap (Cell κ δ π))
    (a : Nat) : Option (Heap (Cell κ δ π)) :=
  dropWith layout (release layout depth) kind h a

end

/-! ## What a struct owns -/

inductive Tree (κ δ π : Type)
  | released (addr : Nat) (header : δ) (privateData pointers : Option Nat)
  | live (addr privateAddr : Nat) (callback : κ) (header : δ) (data : π)
      (children : List (Tree κ δ π))

namespace Tree

def addr : Tree κ δ π → Nat
  | released a _ _ _ => a
  | live a _ _ _ _ _ => a

def header : Tree κ δ π → δ
  | released _ header _ _ => header
  | live _ _ _ header _ _ => header

def childPointers (children : List (Tree κ δ π)) : List (Option Nat) :=
  children.map fun child => some child.addr

@[simp] theorem length_childPointers (children : List (Tree κ δ π)) :
    (childPointers children).length = children.length := List.length_map ..

mutual

/-- The cells of a struct and of all that it owns. -/
def cells : Tree κ δ π → List (Nat × Cell κ δ π)
  | released a header p q => [(a, .struct ⟨none, header, p, q⟩)]
  | live a p callback header data children =>
    (a, .struct ⟨some callback, header, some p, some p⟩) ::
      (p, .payload data (childPointers children)) :: cellsList children

def cellsList : List (Tree κ δ π) → List (Nat × Cell κ δ π)
  | [] => []
  | t :: ts => cells t ++ cellsList ts

end

mutual

/-- The levels of callbacks. -/
def depth : Tree κ δ π → Nat
  | released .. => 1
  | live _ _ _ _ _ children => depthList children + 1

def depthList : List (Tree κ δ π) → Nat
  | [] => 0
  | t :: ts => max (depth t) (depthList ts)

end

mutual

/-- Every callback gets a struct of its kind and private data of its own type, and the children are
of the kind of the struct. -/
def Typed (layout : Layout ι κ δ π) : Tree κ δ π → Prop
  | released .. => True
  | live _ _ callback header data children => layout.kind header = layout.takes callback ∧
    layout.casts callback data children.length = true ∧
    TypedList layout (layout.kind header) children

def TypedList (layout : Layout ι κ δ π) (kind : ι) : List (Tree κ δ π) → Prop
  | [] => True
  | t :: ts => layout.kind t.header = kind ∧ Typed layout t ∧ TypedList layout kind ts

end

/-- The struct after its callback. -/
def afterRelease : Tree κ δ π → Tree κ δ π
  | released a header p q => released a header p q
  | live a _ _ header _ _ => released a header none none

@[simp] theorem addr_live (a p : Nat) (callback : κ) (header : δ) (data : π)
    (children : List (Tree κ δ π)) : (live a p callback header data children).addr = a := rfl

@[simp] theorem addr_released (a : Nat) (header : δ) (p q : Option Nat) :
    (released a header p q : Tree κ δ π).addr = a := rfl

@[simp] theorem header_live (a p : Nat) (callback : κ) (header : δ) (data : π)
    (children : List (Tree κ δ π)) :
      (live a p callback header data children).header = header := rfl

@[simp] theorem header_released (a : Nat) (header : δ) (p q : Option Nat) :
    (released a header p q : Tree κ δ π).header = header := rfl

@[simp] theorem addr_afterRelease (t : Tree κ δ π) : t.afterRelease.addr = t.addr := by
  cases t <;> rfl

theorem cells_released (a : Nat) (header : δ) (p q : Option Nat) :
    (released a header p q : Tree κ δ π).cells = [(a, .struct ⟨none, header, p, q⟩)] := by
  rw [cells]

theorem cells_live (a p : Nat) (callback : κ) (header : δ) (data : π)
    (children : List (Tree κ δ π)) :
    (live a p callback header data children).cells =
      (a, .struct ⟨some callback, header, some p, some p⟩) ::
        (p, .payload data (childPointers children)) :: cellsList children := by
  rw [cells]

theorem cellsList_append (ts us : List (Tree κ δ π)) :
    cellsList (ts ++ us) = cellsList ts ++ cellsList us := by
  induction ts with
  | nil => simp [cellsList]
  | cons t ts ih => rw [List.cons_append, cellsList, ih, cellsList, List.append_assoc]

end Tree

/-! ## Releasing -/

section
variable [DecidableEq ι] {layout : Layout ι κ δ π} {h : Heap (Cell κ δ π)}
  {l : List (Nat × Cell κ δ π)}

omit [DecidableEq ι] in
theorem readStruct_eq {a : Nat} {s : CStruct κ δ} (h' : h.get a = some (.struct s)) :
    readStruct h a = some s := by
  rw [readStruct, h']

theorem readAs_eq {kind : ι} {a : Nat} {s : CStruct κ δ} (h' : h.get a = some (.struct s))
    (hkind : layout.kind s.header = kind) : readAs layout kind h a = some s := by
  rw [readAs, readStruct_eq h', Option.bind_eq_bind, Option.bind_some, if_pos hkind]

omit [DecidableEq ι] in
theorem readPrivate_eq {a : Nat} {data : π} {children : List (Option Nat)}
    (h' : h.get a = some (.payload data children)) : readPrivate h a = some (data, children) := by
  rw [readPrivate, h']

/-- What the callback of a tree does, as far as it is known for a depth. -/
def Releases (layout : Layout ι κ δ π) (depth : Nat) (t : Tree κ δ π) : Prop :=
  ∀ (h : Heap (Cell κ δ π)) (l : List (Nat × Cell κ δ π)), h.Is (t.cells ++ l) →
    ∃ h', release layout depth h t.addr = some h' ∧ h'.Is (t.afterRelease.cells ++ l)

/-- Freeing a struct frees its cells. -/
theorem dropWith_is {depth : Nat} {kind : ι} {t : Tree κ δ π}
    (hkind : layout.kind t.header = kind) (hrelease : Releases layout depth t)
    (his : h.Is (t.cells ++ l)) :
    ∃ h', dropWith layout (release layout depth) kind h t.addr = some h' ∧ h'.Is l := by
  cases t with
  | released a header p q =>
    rw [Tree.cells_released] at his
    obtain ⟨h', hfree, his'⟩ := his.free
    refine ⟨h', ?_, his'⟩
    simp only [dropWith, Tree.addr, readAs_eq his.get hkind, Option.bind_eq_bind, Option.bind_some,
      Option.isSome_none, Bool.false_eq_true, if_false, hfree]
  | live a p callback header data children =>
    obtain ⟨h₁, hreleased, his₁⟩ := hrelease h l his
    rw [Tree.afterRelease, Tree.cells_released] at his₁
    obtain ⟨h', hfree, his'⟩ := his₁.free
    refine ⟨h', ?_, his'⟩
    rw [Tree.cells_live] at his
    rw [Tree.addr] at hreleased
    simp only [dropWith, Tree.addr, readAs_eq his.get hkind, Option.bind_eq_bind, Option.bind_some,
      Option.isSome_some, if_true, hreleased, hfree]

/-- Freeing children, one after another. -/
theorem dropChildren_is {depth : Nat} {kind : ι} {ts : List (Tree κ δ π)}
    (hkind : ∀ t ∈ ts, layout.kind t.header = kind)
    (hrelease : ∀ t ∈ ts, Releases layout depth t) (his : h.Is (Tree.cellsList ts ++ l)) :
    ∃ h', dropChildren layout (release layout depth) kind h (Tree.childPointers ts) = some h' ∧
      h'.Is l := by
  induction ts generalizing h with
  | nil => exact ⟨h, rfl, his⟩
  | cons t ts ih =>
    rw [List.forall_mem_cons] at hkind hrelease
    rw [Tree.cellsList, List.append_assoc] at his
    obtain ⟨h₁, hdrop, his₁⟩ := dropWith_is hkind.1 hrelease.1 his
    obtain ⟨h', hrest, his'⟩ := ih hkind.2 hrelease.2 his₁
    refine ⟨h', ?_, his'⟩
    rw [dropChildren, Tree.childPointers, List.map_cons, List.foldlM_cons, Option.map_some,
      Option.getD_some, hdrop]
    exact hrest

omit [DecidableEq ι] in
theorem Tree.typedList_iff {kind : ι} {ts : List (Tree κ δ π)} :
    Tree.TypedList layout kind ts ↔
      ∀ t ∈ ts, layout.kind t.header = kind ∧ t.Typed layout := by
  induction ts with
  | nil => simp [Tree.TypedList]
  | cons t ts ih => rw [Tree.TypedList, ih, List.forall_mem_cons, and_assoc]

mutual

/-- The callback of a tree frees what the struct owns and leaves the struct. -/
theorem release_is : ∀ {t : Tree κ δ π} {depth : Nat}, t.depth ≤ depth → t.Typed layout →
    Releases layout depth t
  | .released a header p q, depth, hdepth, _ => by
    intro h l his
    obtain ⟨n, rfl⟩ : ∃ n, depth = n + 1 :=
      ⟨depth - 1, by rw [Tree.depth] at hdepth; omega⟩
    refine ⟨h, ?_, his⟩
    rw [Tree.cells_released] at his
    simp only [release, Tree.addr, readStruct_eq his.get, Option.bind_eq_bind, Option.bind_some]
  | .live a p callback header data children, depth, hdepth, htyped => by
    intro h l his
    rw [Tree.depth] at hdepth
    rw [Tree.Typed] at htyped
    obtain ⟨htakes, hcasts, hchildren⟩ := htyped
    obtain ⟨n, rfl⟩ : ∃ n, depth = n + 1 := ⟨depth - 1, by omega⟩
    have hlist : ∀ t ∈ children, Releases layout n t := releases_list (by omega) hchildren
    have hkinds : ∀ t ∈ children, layout.kind t.header = layout.takes callback :=
      fun t ht => ((Tree.typedList_iff.mp hchildren) t ht).1.trans htakes
    rw [Tree.cells_live, List.cons_append, List.cons_append] at his
    -- the callback is cleared first, then the private data is taken
    obtain ⟨h₁, hset₁, his₁⟩ := his.set (.struct ⟨none, header, some p, some p⟩)
    have hprivate : readPrivate h₁ p = some (data, Tree.childPointers children) :=
      readPrivate_eq (his₁.get_of_mem (by simp))
    have hperm : h₁.Is (Tree.cellsList children ++
      ((p, .payload data (Tree.childPointers children)) ::
        (a, .struct ⟨none, header, some p, some p⟩) :: l)) := his₁.perm (by
      refine (List.Perm.swap ..).trans ?_
      refine List.Perm.trans ?_ List.perm_middle.symm
      exact List.Perm.cons _ List.perm_middle.symm)
    obtain ⟨h₂, hdropped, his₂⟩ := dropChildren_is hkinds hlist hperm
    obtain ⟨h₃, hfree, his₃⟩ := his₂.free
    obtain ⟨h', hset, his'⟩ := his₃.set (.struct ⟨none, header, none, none⟩)
    refine ⟨h', ?_, by rw [Tree.afterRelease, Tree.cells_released]; exact his'⟩
    simp only [release, Tree.addr, readStruct_eq his.get, readAs_eq his.get htakes,
      Option.bind_eq_bind, Option.bind_some, hset₁, hprivate, Tree.length_childPointers, hcasts,
      if_true, hdropped, hfree, hset]

theorem releases_list : ∀ {kind : ι} {ts : List (Tree κ δ π)} {depth : Nat},
    Tree.depthList ts ≤ depth → Tree.TypedList layout kind ts →
      ∀ t ∈ ts, Releases layout depth t
  | _, [], _, _, _ => fun t ht => absurd ht List.not_mem_nil
  | _, t :: ts, depth, hdepth, htyped => by
    rw [Tree.depthList] at hdepth
    rw [Tree.TypedList] at htyped
    exact List.forall_mem_cons.mpr
      ⟨release_is (by omega) htyped.2.1, releases_list (by omega) htyped.2.2⟩

end

/-- Freeing a struct frees all that it owns. -/
theorem dropBox_is {depth : Nat} {kind : ι} {t : Tree κ δ π}
    (hkind : layout.kind t.header = kind)
    (hdepth : t.depth ≤ depth) (htyped : t.Typed layout) (his : h.Is (t.cells ++ l)) :
    ∃ h', dropBox layout depth kind h t.addr = some h' ∧ h'.Is l :=
  dropWith_is hkind (release_is hdepth htyped) his

end

section
variable {layout : Layout ι κ δ π}

/-! ## Making structs -/

/-- A struct with its children, before it has a place on the heap. -/
inductive Spec (κ δ π : Type)
  | mk (callback : κ) (header : δ) (data : π) (children : List (Spec κ δ π))

def Spec.header : Spec κ δ π → δ
  | .mk _ header _ _ => header

mutual

/-- The levels of a struct that is made. -/
def Spec.depth : Spec κ δ π → Nat
  | .mk _ _ _ children => specsDepth children + 1

def specsDepth : List (Spec κ δ π) → Nat
  | [] => 0
  | spec :: specs => max spec.depth (specsDepth specs)

end

mutual

def Spec.Typed (layout : Layout ι κ δ π) : Spec κ δ π → Prop
  | .mk callback header data children => layout.kind header = layout.takes callback ∧
    layout.casts callback data children.length = true ∧
    SpecsTyped layout (layout.kind header) children

def SpecsTyped (layout : Layout ι κ δ π) (kind : ι) : List (Spec κ δ π) → Prop
  | [] => True
  | spec :: specs => layout.kind spec.header = kind ∧ spec.Typed layout ∧
    SpecsTyped layout kind specs

end

mutual

/-- Puts the children on the heap, then the private data that owns them, then the struct. -/
def box (h : Heap (Cell κ δ π)) : Spec κ δ π → Nat × Heap (Cell κ δ π)
  | .mk callback header data children =>
    let made := boxList h children
    let placed := made.2.alloc (.payload data (made.1.map some))
    placed.2.alloc (.struct ⟨some callback, header, some placed.1, some placed.1⟩)

def boxList (h : Heap (Cell κ δ π)) : List (Spec κ δ π) → List Nat × Heap (Cell κ δ π)
  | [] => ([], h)
  | spec :: specs =>
    let made := box h spec
    let rest := boxList made.2 specs
    (made.1 :: rest.1, rest.2)

end

/-- What a reader sees that follows the pointers of a struct. -/
def read : Nat → Heap (Cell κ δ π) → Nat → Option (Spec κ δ π)
  | 0, _, _ => none
  | depth + 1, h, a => do
    let s ← readStruct h a
    let callback ← s.release
    let p ← s.pointers
    let (data, children) ← readPrivate h p
    let children ← children.mapM fun child => child.bind (read depth h)
    some (.mk callback s.header data children)

mutual

/-- The tree has the struct that was made. -/
def Tree.Shows : Tree κ δ π → Spec κ δ π → Prop
  | .released .., _ => False
  | .live _ _ callback header data children, .mk callback' header' data' children' =>
    callback = callback' ∧ header = header' ∧ data = data' ∧ ShowsList children children'

def ShowsList : List (Tree κ δ π) → List (Spec κ δ π) → Prop
  | [], [] => True
  | t :: ts, spec :: specs => t.Shows spec ∧ ShowsList ts specs
  | [], _ :: _ => False
  | _ :: _, [] => False

end

mutual

/-- A struct that is made owns new cells. -/
theorem box_is :
    ∀ (spec : Spec κ δ π) (h : Heap (Cell κ δ π)) (l : List (Nat × Cell κ δ π)),
    h.Is l → ∃ t : Tree κ δ π, t.addr = (box h spec).1 ∧ t.Shows spec ∧
      (box h spec).2.Is (t.cells ++ l)
  | .mk callback header data children, h, l, his => by
    obtain ⟨ts, haddrs, hshows, his₁⟩ := boxList_is children h l his
    rw [box]
    generalize boxList h children = made at haddrs his₁ ⊢
    let p := (made.2.alloc (.payload data (made.1.map some))).1
    have his₂ := (his₁.alloc (.payload data (made.1.map some))).alloc
      (.struct ⟨some callback, header, some p, some p⟩)
    refine ⟨.live _ p callback header data ts, rfl, ?_, ?_⟩
    · rw [Tree.Shows]
      exact ⟨rfl, rfl, rfl, hshows⟩
    · have hpointers : Tree.childPointers ts = made.1.map some := by
        rw [← haddrs, Tree.childPointers, List.map_map]
        rfl
      rw [Tree.cells_live, hpointers]
      exact his₂

theorem boxList_is : ∀ (specs : List (Spec κ δ π)) (h : Heap (Cell κ δ π))
    (l : List (Nat × Cell κ δ π)), h.Is l →
    ∃ ts : List (Tree κ δ π), ts.map Tree.addr = (boxList h specs).1 ∧ ShowsList ts specs ∧
      (boxList h specs).2.Is (Tree.cellsList ts ++ l)
  | [], h, l, his =>
    ⟨[], by rw [boxList]; rfl, by rw [ShowsList]; trivial, by rw [boxList]; exact his⟩
  | spec :: specs, h, l, his => by
    obtain ⟨t, haddr, hshows, his₁⟩ := box_is spec h l his
    obtain ⟨ts, haddrs, hshowsRest, his₂⟩ := boxList_is specs _ _ his₁
    refine ⟨t :: ts, ?_, ?_, ?_⟩
    · rw [boxList, List.map_cons, haddr, haddrs]
    · rw [ShowsList]
      exact ⟨hshows, hshowsRest⟩
    · rw [boxList, Tree.cellsList, List.append_assoc]
      exact his₂.perm (List.perm_append_comm_assoc ..)

end

mutual

theorem Tree.Shows.depth_eq : ∀ {t : Tree κ δ π} {spec : Spec κ δ π}, t.Shows spec →
    t.depth = spec.depth
  | .released .., _, hshows => absurd hshows (by rw [Tree.Shows]; exact id)
  | .live _ _ _ _ _ ts, .mk _ _ _ specs, hshows => by
    rw [Tree.Shows] at hshows
    rw [Tree.depth, Spec.depth, ShowsList.depth_eq hshows.2.2.2]

theorem ShowsList.depth_eq : ∀ {ts : List (Tree κ δ π)} {specs : List (Spec κ δ π)},
    ShowsList ts specs → Tree.depthList ts = specsDepth specs
  | [], [], _ => by rw [Tree.depthList, specsDepth]
  | t :: ts, spec :: specs, hshows => by
    rw [ShowsList] at hshows
    rw [Tree.depthList, specsDepth, Tree.Shows.depth_eq hshows.1, ShowsList.depth_eq hshows.2]
  | [], _ :: _, hshows => absurd hshows (by rw [ShowsList]; exact id)
  | _ :: _, [], hshows => absurd hshows (by rw [ShowsList]; exact id)

end

theorem ShowsList.length_eq : ∀ {ts : List (Tree κ δ π)} {specs : List (Spec κ δ π)},
    ShowsList ts specs → ts.length = specs.length
  | [], [], _ => rfl
  | t :: ts, spec :: specs, hshows => by
    rw [ShowsList] at hshows
    rw [List.length_cons, List.length_cons, ShowsList.length_eq hshows.2]
  | [], _ :: _, hshows => absurd hshows (by rw [ShowsList]; exact id)
  | _ :: _, [], hshows => absurd hshows (by rw [ShowsList]; exact id)

theorem Tree.Shows.header_eq {t : Tree κ δ π} {spec : Spec κ δ π} (h : t.Shows spec) :
    t.header = spec.header := by
  cases t with
  | released => rw [Tree.Shows] at h; exact h.elim
  | live =>
    cases spec
    rw [Tree.Shows] at h
    exact h.2.1

mutual

theorem Tree.Shows.typed : ∀ {t : Tree κ δ π} {spec : Spec κ δ π}, t.Shows spec →
    spec.Typed layout → t.Typed layout
  | .released .., _, hshows, _ => absurd hshows (by rw [Tree.Shows]; exact id)
  | .live _ _ _ _ _ ts, .mk _ _ _ specs, hshows, htyped => by
    rw [Tree.Shows] at hshows
    obtain ⟨rfl, rfl, rfl, hchildren⟩ := hshows
    rw [Spec.Typed] at htyped
    rw [Tree.Typed, ShowsList.length_eq hchildren]
    exact ⟨htyped.1, htyped.2.1, ShowsList.typed hchildren htyped.2.2⟩

theorem ShowsList.typed :
    ∀ {kind : ι} {ts : List (Tree κ δ π)} {specs : List (Spec κ δ π)},
    ShowsList ts specs → SpecsTyped layout kind specs → Tree.TypedList layout kind ts
  | _, [], [], _, _ => by rw [Tree.TypedList]; trivial
  | _, t :: ts, spec :: specs, hshows, htyped => by
    rw [ShowsList] at hshows
    rw [SpecsTyped] at htyped
    rw [Tree.TypedList, hshows.1.header_eq]
    exact ⟨htyped.1, Tree.Shows.typed hshows.1 htyped.2.1, ShowsList.typed hshows.2 htyped.2.2⟩
  | _, [], _ :: _, hshows, _ => absurd hshows (by rw [ShowsList]; exact id)
  | _, _ :: _, [], hshows, _ => absurd hshows (by rw [ShowsList]; exact id)

end

mutual

/-- A reader sees the struct that was made. -/
theorem read_is :
    ∀ {t : Tree κ δ π} {spec : Spec κ δ π} {depth : Nat} {h : Heap (Cell κ δ π)}
    {l : List (Nat × Cell κ δ π)}, t.Shows spec → t.depth ≤ depth →
      h.Is (t.cells ++ l) →
    read depth h t.addr = some spec
  | .released .., _, _, _, _, hshows, _, _ => absurd hshows (by rw [Tree.Shows]; exact id)
  | .live a p callback header data ts, .mk _ _ _ specs, depth, h, l, hshows, hdepth, his => by
    rw [Tree.Shows] at hshows
    obtain ⟨rfl, rfl, rfl, hchildren⟩ := hshows
    rw [Tree.depth] at hdepth
    obtain ⟨n, rfl⟩ : ∃ n, depth = n + 1 := ⟨depth - 1, by omega⟩
    rw [Tree.cells_live] at his
    have hprivate : readPrivate h p = some (data, Tree.childPointers ts) :=
      readPrivate_eq (his.get_of_mem (by simp))
    have hrest : h.Is (Tree.cellsList ts ++
      ((a, .struct ⟨some callback, header, some p, some p⟩) ::
        (p, .payload data (Tree.childPointers ts)) :: l)) := his.perm (by
      refine List.Perm.trans ?_ List.perm_middle.symm
      exact List.Perm.cons _ List.perm_middle.symm)
    have hread : (Tree.childPointers ts).mapM (fun child => child.bind (read n h)) = some specs :=
      readList_is hchildren (by omega) hrest
    simp only [read, Tree.addr, readStruct_eq his.get, Option.bind_eq_bind, Option.bind_some,
      hprivate, hread]

theorem readList_is : ∀ {ts : List (Tree κ δ π)} {specs : List (Spec κ δ π)} {depth : Nat}
    {h : Heap (Cell κ δ π)} {l : List (Nat × Cell κ δ π)}, ShowsList ts specs →
    Tree.depthList ts ≤ depth → h.Is (Tree.cellsList ts ++ l) →
    (Tree.childPointers ts).mapM (fun child => child.bind (read depth h)) = some specs
  | [], [], _, _, _, _, _, _ => rfl
  | t :: ts, spec :: specs, depth, h, l, hshows, hdepth, his => by
    rw [ShowsList] at hshows
    rw [Tree.depthList] at hdepth
    rw [Tree.cellsList, List.append_assoc] at his
    have hhead : read depth h t.addr = some spec := read_is hshows.1 (by omega) his
    have htail := readList_is (l := t.cells ++ l) hshows.2
      (show Tree.depthList ts ≤ depth by omega)
      (his.perm (List.perm_append_comm_assoc ..))
    rw [Tree.childPointers] at htail
    rw [Tree.childPointers, List.map_cons, List.mapM_cons, Option.bind_some, hhead, htail]
    rfl
  | [], _ :: _, _, _, _, hshows, _, _ => absurd hshows (by rw [ShowsList]; exact id)
  | _ :: _, [], _, _, _, hshows, _, _ => absurd hshows (by rw [ShowsList]; exact id)

end

end

/-! ## Consumers -/

/-- Follows child pointers from a struct. The consumer follows none of a released struct. -/
def follow (h : Heap (Cell κ δ π)) : List Nat → Nat → Option (Option Nat)
  | [], a => some (some a)
  | i :: path, a => do
    let s ← readStruct h a
    match s.release, s.pointers with
    | some _, some p => do
      let (_, children) ← readPrivate h p
      match children[i]? with
      | some (some child) => follow h path child
      | _ => some none
    | _, _ => some none

/-- What a consumer does with the structs that it holds, which it counts from 0. -/
inductive Action (κ δ π : Type)
  /-- Has the producer make a struct. -/
  | take (spec : Spec κ δ π)
  /-- Calls the callback of a struct, or of one that a path of child pointers leads to. -/
  | release (root : Nat) (path : List Nat)
  /-- Copies such a struct to a place of its own and clears the callback of the old one. -/
  | move (root : Nat) (path : List Nat)
  /-- Frees a struct that it holds, after its callback. -/
  | free (root : Nat)

def Action.root : Action κ δ π → Option Nat
  | .take _ => none
  | .release root _ | .move root _ | .free root => some root

/-- The heap and the structs that the consumer holds, each by a pointer to structs of a kind. -/
structure Consumer (ι κ δ π : Type) where
  heap : Heap (Cell κ δ π)
  roots : List (ι × Nat)

/-- A pointer to the struct of a tree. -/
def Tree.root (layout : Layout ι κ δ π) (t : Tree κ δ π) : ι × Nat :=
  (layout.kind t.header, t.addr)

namespace Consumer

variable [DecidableEq ι] (layout : Layout ι κ δ π) (depth : Nat) (c : Consumer ι κ δ π)

/-- Does something with the struct at the end of a path when it has a callback. The pointers to
children are to structs of the kind of the root. -/
def withLive (root : Nat) (path : List Nat)
    (f : ι → Nat → CStruct κ δ → Option (Consumer ι κ δ π)) :
      Option (Consumer ι κ δ π) :=
  match c.roots[root]? with
  | none => some c
  | some (kind, a) => do
    match ← follow c.heap path a with
    | none => some c
    | some a => do
      let s ← readAs layout kind c.heap a
      if s.release.isSome then f kind a s else some c

def step : Action κ δ π → Option (Consumer ι κ δ π)
  | .take spec =>
    let made := box c.heap spec
    some ⟨made.2, c.roots ++ [(layout.kind spec.header, made.1)]⟩
  | .release root path => c.withLive layout root path fun _ a _ => do
    let heap ← Release.release layout depth c.heap a
    some ⟨heap, c.roots⟩
  | .move root path => c.withLive layout root path fun kind a s => do
    let copy := c.heap.alloc (.struct s)
    let heap ← copy.2.set a (.struct { s with release := none })
    some ⟨heap, c.roots ++ [(kind, copy.1)]⟩
  | .free root =>
    match c.roots[root]? with
    | none => some c
    | some (kind, a) => do
      let heap ← dropBox layout depth kind c.heap a
      some ⟨heap, c.roots.eraseIdx root⟩

/-- The state after the actions, or nothing after a fault. -/
def run (actions : List (Action κ δ π)) : Option (Consumer ι κ δ π) :=
  actions.foldlM (step layout depth) c

/-- The consumer holds the structs of the trees. What is allocated is what they own, and the cells
of `l`. -/
structure Holds (ts : List (Tree κ δ π)) (l : List (Nat × Cell κ δ π)) : Prop where
  roots : c.roots = ts.map (Tree.root layout)
  is : c.heap.Is (Tree.cellsList ts ++ l)
  trees : ∀ t ∈ ts, t.depth ≤ depth ∧ t.Typed layout

/-- The struct at an address that the consumer holds is still the one that was made. -/
def Shows (a : Nat) (spec : Spec κ δ π) (l : List (Nat × Cell κ δ π)) : Prop :=
  ∃ (ts : List (Tree κ δ π)) (t : Tree κ δ π), c.Holds layout depth ts l ∧
    t ∈ ts ∧ t.addr = a ∧
    t.Shows spec

/-- The action is on the struct at an address, or on what it owns. -/
def ActsOn (action : Action κ δ π) (a : Nat) : Prop :=
  ∃ root kind, action.root = some root ∧ c.roots[root]? = some (kind, a)

/-- No action of the run is on the struct at an address. -/
def Spares (a : Nat) : Consumer ι κ δ π → List (Action κ δ π) → Prop
  | _, [] => True
  | c, action :: actions => ¬ c.ActsOn action a ∧
    ∀ c', c.step layout depth action = some c' → Spares a c' actions

end Consumer

namespace Tree

/-- The struct at the end of a path. -/
def at? : List Nat → Tree κ δ π → Option (Tree κ δ π)
  | [], t => some t
  | i :: path, live _ _ _ _ _ ts =>
    match ts[i]? with
    | some t => at? path t
    | none => none
  | _ :: _, released .. => none

end Tree

section
variable {layout : Layout ι κ δ π} {h : Heap (Cell κ δ π)} {l : List (Nat × Cell κ δ π)}

/-- The cells of one tree of a list, and the rest. -/
theorem cellsList_perm_of_getElem? {ts : List (Tree κ δ π)} {i : Nat} {t : Tree κ δ π}
    (ht : ts[i]? = some t) :
    (Tree.cellsList ts).Perm (t.cells ++ Tree.cellsList (ts.eraseIdx i)) := by
  induction ts generalizing i with
  | nil => cases ht
  | cons u us ih =>
    cases i with
    | zero =>
      cases ht
      rw [Tree.cellsList, List.eraseIdx_cons_zero]
    | succ i =>
      rw [Tree.cellsList, List.eraseIdx_cons_succ, Tree.cellsList]
      exact ((ih ht).append_left u.cells).trans (List.perm_append_comm_assoc ..)

theorem cellsList_perm_set {ts : List (Tree κ δ π)} {i : Nat} {t : Tree κ δ π}
    (hi : i < ts.length) :
    (Tree.cellsList (ts.set i t)).Perm (t.cells ++ Tree.cellsList (ts.eraseIdx i)) := by
  have hget : (ts.set i t)[i]? = some t := by simp [hi]
  refine (cellsList_perm_of_getElem? hget).trans ?_
  rw [List.eraseIdx_set_eq]

theorem Tree.depthList_le_iff {ts : List (Tree κ δ π)} {n : Nat} :
    Tree.depthList ts ≤ n ↔ ∀ t ∈ ts, t.depth ≤ n := by
  induction ts with
  | nil => simp [Tree.depthList]
  | cons t ts ih => rw [Tree.depthList, max_le_iff, ih, List.forall_mem_cons]

/-- What fits in place of a struct: it is of the same kind at the same address, and not larger. -/
structure Fits (layout : Layout ι κ δ π) (t' t : Tree κ δ π) : Prop where
  addr : t'.addr = t.addr
  kind : layout.kind t'.header = layout.kind t.header
  depth : t'.depth ≤ t.depth
  typed : t.Typed layout → t'.Typed layout

/-- The struct at the end of a path owns its own cells, and it can be replaced by one that fits. -/
theorem Tree.focus (layout : Layout ι κ δ π) {path : List Nat} :
    ∀ {t s : Tree κ δ π}, t.at? path = some s →
      ∃ rest, t.cells.Perm (s.cells ++ rest) ∧ s.depth ≤ t.depth ∧
      (t.Typed layout → layout.kind s.header = layout.kind t.header ∧ s.Typed layout) ∧
      ∀ s' : Tree κ δ π, Fits layout s' s →
        ∃ t', Fits layout t' t ∧ t'.cells.Perm (s'.cells ++ rest) := by
  induction path with
  | nil =>
    intro t s hs
    cases hs
    refine ⟨[], by rw [List.append_nil], Nat.le_refl _, fun h => ⟨rfl, h⟩,
      fun s' hfits => ⟨s', hfits, ?_⟩⟩
    rw [List.append_nil]
  | cons i path ih =>
    intro t s hs
    cases t with
    | released a header p q => cases hs
    | live a p callback header data ts =>
      rw [Tree.at?] at hs
      cases hu : ts[i]? with
      | none => rw [hu] at hs; cases hs
      | some u =>
        rw [hu] at hs
        obtain ⟨rest, hcells, hdepth, htyped, hreplace⟩ := ih hs
        obtain ⟨hi, hget⟩ := List.getElem?_eq_some_iff.mp hu
        have hmem : u ∈ ts := hget ▸ List.getElem_mem hi
        have hle : ∀ v ∈ ts, v.depth ≤ depthList ts := depthList_le_iff.mp (Nat.le_refl _)
        -- Apart from the struct at the end there are the two cells of this one, and its other
        -- children.
        refine ⟨(a, .struct ⟨some callback, header, some p, some p⟩) ::
          (p, .payload data (childPointers ts)) :: (rest ++ cellsList (ts.eraseIdx i)),
          ?_, ?_, ?_, ?_⟩
        · rw [cells_live]
          have hlist : (cellsList ts).Perm (s.cells ++ (rest ++ cellsList (ts.eraseIdx i))) := by
            rw [← List.append_assoc]
            exact (cellsList_perm_of_getElem? hu).trans (hcells.append_right _)
          refine ((hlist.cons _).cons _).trans ?_
          exact (List.perm_middle.symm.cons _).trans List.perm_middle.symm
        · rw [depth]
          have := hle u hmem
          omega
        · intro hall
          rw [Typed] at hall
          obtain ⟨hkind, hall⟩ := typedList_iff.mp hall.2.2 u hmem
          exact ⟨(htyped hall).1.trans hkind, (htyped hall).2⟩
        · intro s' hfits
          obtain ⟨u', hu', hcells'⟩ := hreplace s' hfits
          -- The payload of this struct need not change, since the new child is at the same address.
          have hpointers : childPointers (ts.set i u') = childPointers ts := by
            rw [childPointers, childPointers, List.map_set, hu'.addr, ← hget]
            exact List.map_set.symm.trans (congrArg _ (List.set_getElem_self hi))
          refine ⟨.live a p callback header data (ts.set i u'), ⟨rfl, rfl, ?_, ?_⟩, ?_⟩
          · rw [depth, depth]
            refine Nat.succ_le_succ (depthList_le_iff.mpr fun v hv => ?_)
            rcases List.mem_or_eq_of_mem_set hv with hv | rfl
            · exact hle v hv
            · exact hu'.depth.trans (hle u hmem)
          · rw [Typed, Typed, List.length_set]
            refine And.imp_right (And.imp_right fun hall => typedList_iff.mpr fun v hv => ?_)
            rcases List.mem_or_eq_of_mem_set hv with hv | rfl
            · exact typedList_iff.mp hall v hv
            · obtain ⟨hkind, hutyped⟩ := typedList_iff.mp hall u hmem
              exact ⟨hu'.kind.trans hkind, hu'.typed hutyped⟩
          · rw [cells_live, hpointers]
            have hlist : (cellsList (ts.set i u')).Perm
                (s'.cells ++ (rest ++ cellsList (ts.eraseIdx i))) := by
              rw [← List.append_assoc]
              exact (cellsList_perm_set hi).trans (hcells'.append_right _)
            refine ((hlist.cons _).cons _).trans ?_
            exact (List.perm_middle.symm.cons _).trans List.perm_middle.symm

/-- The pointers lead to the struct at the end of the path. -/
theorem follow_is {path : List Nat} : ∀ {t : Tree κ δ π} {l : List (Nat × Cell κ δ π)},
    h.Is (t.cells ++ l) → follow h path t.addr = some ((t.at? path).map Tree.addr) := by
  induction path with
  | nil => intro t l _; rfl
  | cons i path ih =>
    intro t l his
    cases t with
    | released a header p q =>
      rw [Tree.cells_released] at his
      simp only [follow, Tree.addr_released, readStruct_eq his.get, Option.bind_eq_bind,
        Option.bind_some, Tree.at?, Option.map_none]
    | live a p callback header data ts =>
      rw [Tree.cells_live] at his
      have hprivate : readPrivate h p = some (data, Tree.childPointers ts) :=
        readPrivate_eq (his.get_of_mem (by simp))
      cases hu : ts[i]? with
      | none =>
        simp [follow, readStruct_eq his.get, hprivate, Tree.at?, hu, Tree.childPointers]
      | some u =>
        have hlist : h.Is (u.cells ++ (Tree.cellsList (ts.eraseIdx i) ++
            ((a, .struct ⟨some callback, header, some p, some p⟩) ::
              (p, .payload data (Tree.childPointers ts)) :: l))) := his.perm (by
          rw [← List.append_assoc]
          refine List.Perm.trans ?_ ((cellsList_perm_of_getElem? hu).append_right _)
          refine List.Perm.trans ?_ List.perm_middle.symm
          exact List.Perm.cons _ List.perm_middle.symm)
        simp [follow, readStruct_eq his.get, hprivate, Tree.at?, hu, Tree.childPointers, ih hlist]

namespace Consumer

variable [DecidableEq ι] {depth : Nat} {c : Consumer ι κ δ π} {ts : List (Tree κ δ π)}

/-- A struct that the consumer can reach from a root: it owns its cells, and when it is replaced by
one that fits and further structs are taken from it, the consumer holds the other structs as
before. -/
structure Focus (layout : Layout ι κ δ π) (depth : Nat) (c : Consumer ι κ δ π)
    (ts : List (Tree κ δ π)) (root : Nat) (l : List (Nat × Cell κ δ π)) (s : Tree κ δ π)
    (rest : List (Nat × Cell κ δ π)) : Prop where
  is : c.heap.Is (s.cells ++ rest)
  kind : (c.roots[root]?).map Prod.fst = some (layout.kind s.header)
  depth_le : s.depth ≤ depth
  typed : s.Typed layout
  replace : ∀ (heap : Heap (Cell κ δ π)) (s' : Tree κ δ π) (extra : List (Tree κ δ π)),
    Fits layout s' s → (∀ t ∈ extra, t.depth ≤ depth ∧ t.Typed layout) →
    heap.Is (s'.cells ++ (Tree.cellsList extra ++ rest)) →
    ∃ ts', Holds layout depth ⟨heap, c.roots ++ extra.map (Tree.root layout)⟩ ts' l ∧
      ∀ t ∈ ts.eraseIdx root, t ∈ ts'

omit [DecidableEq ι] in
theorem Holds.focus (hholds : c.Holds layout depth ts l) {root : Nat} {path : List Nat}
    {t s : Tree κ δ π} (ht : ts[root]? = some t) (hs : t.at? path = some s) :
    ∃ rest, Focus layout depth c ts root l s rest := by
  obtain ⟨hlt, hget⟩ := List.getElem?_eq_some_iff.mp ht
  obtain ⟨hdepth, htyped⟩ := hholds.trees t (hget ▸ List.getElem_mem hlt)
  obtain ⟨rest, hcells, hsdepth, hstyped, hreplace⟩ := Tree.focus layout hs
  obtain ⟨hkind, hstyped⟩ := hstyped htyped
  refine ⟨rest ++ (Tree.cellsList (ts.eraseIdx root) ++ l), ?_, ?_, hsdepth.trans hdepth,
    hstyped, ?_⟩
  · refine hholds.is.perm ?_
    rw [← List.append_assoc, ← List.append_assoc]
    exact (((cellsList_perm_of_getElem? ht).trans (hcells.append_right _)).append_right l)
  · rw [hholds.roots, List.getElem?_map, ht, hkind]
    rfl
  · intro heap s' extra hfits hextra hheap
    obtain ⟨t', hfits', hcells'⟩ := hreplace s' hfits
    have hroot : t'.root layout = t.root layout := Prod.ext hfits'.kind hfits'.addr
    refine ⟨ts.set root t' ++ extra, ⟨?_, hheap.perm ?_, ?_⟩, fun u hu => ?_⟩
    · rw [hholds.roots, List.map_append, List.map_set, hroot, ← hget]
      exact congrArg (· ++ extra.map (Tree.root layout))
        ((congrArg _ (List.set_getElem_self hlt)).symm.trans List.map_set)
    · rw [Tree.cellsList_append]
      have hset : (Tree.cellsList (ts.set root t')).Perm
          (s'.cells ++ (rest ++ Tree.cellsList (ts.eraseIdx root))) := by
        rw [← List.append_assoc]
        exact (cellsList_perm_set hlt).trans (hcells'.append_right _)
      refine List.Perm.trans ?_ ((hset.append_right (Tree.cellsList extra)).append_right l).symm
      simp only [List.append_assoc]
      refine List.Perm.append_left s'.cells ?_
      refine (List.perm_append_comm_assoc ..).trans (List.Perm.append_left rest ?_)
      exact List.perm_append_comm_assoc ..
    · intro u hu
      rcases List.mem_append.mp hu with hu | hu
      · rcases List.mem_or_eq_of_mem_set hu with hu | rfl
        · exact hholds.trees u hu
        · exact ⟨hfits'.depth.trans hdepth, hfits'.typed htyped⟩
      · exact hextra u hu
    · rw [← List.eraseIdx_set_eq (a := t')] at hu
      exact List.mem_append_left extra (List.mem_of_mem_eraseIdx hu)

/-- Either there is no struct with a callback at the end of the path, or the consumer acts on a
live one. -/
theorem withLive_cases (hholds : c.Holds layout depth ts l) (root : Nat) (path : List Nat)
    (f : ι → Nat → CStruct κ δ → Option (Consumer ι κ δ π)) :
    c.withLive layout root path f = some c ∨ ∃ a p callback header data children rest,
      Focus layout depth c ts root l (Tree.live a p callback header data children) rest ∧
      c.withLive layout root path f =
        f (layout.kind header) a ⟨some callback, header, some p, some p⟩ := by
  have hroot : c.roots[root]? = ts[root]?.map (Tree.root layout) := by
    rw [hholds.roots, List.getElem?_map]
  unfold withLive
  rw [hroot]
  cases ht : ts[root]? with
  | none => exact .inl rfl
  | some t =>
    have hfollow : follow c.heap path t.addr = some ((t.at? path).map Tree.addr) :=
      follow_is (hholds.is.perm (by
        rw [← List.append_assoc]
        exact (cellsList_perm_of_getElem? ht).append_right l))
    simp only [Option.map_some, Tree.root, hfollow, Option.bind_eq_bind, Option.bind_some]
    cases hs : t.at? path with
    | none => exact .inl rfl
    | some s =>
      obtain ⟨rest, hfocus⟩ := hholds.focus ht hs
      have his' := hfocus.is
      have hkind : layout.kind s.header = layout.kind t.header := by
        have hkind := hfocus.kind
        rw [hroot, ht] at hkind
        exact (Option.some.inj hkind).symm
      cases s with
      | released a header p q =>
        rw [Tree.cells_released] at his'
        simp only [Option.map_some, Tree.addr_released, readAs_eq his'.get hkind, Option.bind_some]
        exact .inl rfl
      | live a p callback header data children =>
        rw [Tree.cells_live] at his'
        refine .inr ⟨a, p, callback, header, data, children, rest, hfocus, ?_⟩
        simp only [Option.map_some, Tree.addr_live, readAs_eq his'.get hkind, Option.bind_some]
        exact congrArg (fun kind => f kind a _) hkind.symm

omit [DecidableEq ι] in
theorem fits_released (a p : Nat) (callback : κ) (header : δ) (data : π)
    (children : List (Tree κ δ π)) (q r : Option Nat) :
    Fits layout (Tree.released a header q r) (Tree.live a p callback header data children) where
  addr := rfl
  kind := rfl
  depth := by
    rw [Tree.depth, Tree.depth]
    exact Nat.le_add_left 1 _
  typed _ := by
    rw [Tree.Typed]
    trivial

omit [DecidableEq ι] in
/-- A tree that is not at the root of an action is one of the others. -/
theorem Holds.mem_eraseIdx (hholds : c.Holds layout depth ts l)
    {action : Action κ δ π} {root : Nat}
    (hroot : action.root = some root) {t : Tree κ δ π} (ht : t ∈ ts)
    (hspares : ¬ c.ActsOn action t.addr) : t ∈ ts.eraseIdx root := by
  obtain ⟨i, hi⟩ := List.getElem?_of_mem ht
  rw [List.mem_eraseIdx_iff_getElem?]
  refine ⟨i, ?_, hi⟩
  rintro rfl
  refine hspares ⟨i, layout.kind t.header, hroot, ?_⟩
  rw [hholds.roots, List.getElem?_map, hi]
  rfl

/-- An action has no fault, and the consumer holds the structs as before that it is not on. -/
theorem step_is (hholds : c.Holds layout depth ts l) (action : Action κ δ π)
    (htake : ∀ spec, action = .take spec → spec.depth ≤ depth ∧ spec.Typed layout) :
    ∃ c' ts', c.step layout depth action = some c' ∧ c'.Holds layout depth ts' l ∧
      ∀ t ∈ ts, ¬ c.ActsOn action t.addr → t ∈ ts' := by
  cases action with
  | take spec =>
    obtain ⟨t, haddr, hshows, his'⟩ := box_is spec c.heap _ hholds.is
    obtain ⟨hdepth, htyped⟩ := htake spec rfl
    refine ⟨_, ts ++ [t], rfl, ⟨?_, ?_, ?_⟩, fun u hu _ => List.mem_append_left [t] hu⟩
    · rw [List.map_append, hholds.roots, List.map_singleton, Tree.root, haddr, hshows.header_eq]
    · rw [Tree.cellsList_append, Tree.cellsList, Tree.cellsList,
        List.append_nil, List.append_assoc]
      exact his'.perm (List.perm_append_comm_assoc ..)
    · intro u hu
      rcases List.mem_append.mp hu with hu | hu
      · exact hholds.trees u hu
      · rw [List.mem_singleton.mp hu, hshows.depth_eq]
        exact ⟨hdepth, hshows.typed htyped⟩
  | release root path =>
    rcases withLive_cases hholds root path fun _ a _ => do
      let heap ← Release.release layout depth c.heap a
      some ⟨heap, c.roots⟩ with hnone | ⟨a, p, callback, header, data, children,
        rest, hfocus, hlive⟩
    · exact ⟨c, ts, hnone, hholds, fun u hu _ => hu⟩
    · obtain ⟨heap, hrelease, his⟩ :=
        release_is hfocus.depth_le hfocus.typed c.heap rest hfocus.is
      rw [Tree.addr_live] at hrelease
      obtain ⟨ts', hafter, hkept⟩ := hfocus.replace heap _ [] (fits_released ..) (by simp) his
      rw [List.map_nil, List.append_nil] at hafter
      refine ⟨⟨heap, c.roots⟩, ts', ?_, hafter,
        fun u hu hspares => hkept u (hholds.mem_eraseIdx rfl hu hspares)⟩
      rw [step, hlive, hrelease]
      rfl
  | move root path =>
    rcases withLive_cases hholds root path fun kind a s => do
      let copy := c.heap.alloc (.struct s)
      let heap ← copy.2.set a (.struct { s with release := none })
      some ⟨heap, c.roots ++ [(kind, copy.1)]⟩ with
      hnone | ⟨a, p, callback, header, data, children, rest, hfocus, hlive⟩
    · exact ⟨c, ts, hnone, hholds, fun u hu _ => hu⟩
    · have his := hfocus.is
      rw [Tree.cells_live] at his
      have hcopied := his.alloc (.struct ⟨some callback, header, some p, some p⟩)
      obtain ⟨heap, hset, his'⟩ := (hcopied.perm (List.Perm.swap ..)).set
        (.struct ⟨none, header, some p, some p⟩)
      -- The copy takes over the payload and the children. The struct it was made from is released.
      let copy := Tree.live (c.heap.alloc (.struct ⟨some callback, header, some p, some p⟩)).1 p
        callback header data children
      obtain ⟨ts', hafter, hkept⟩ := hfocus.replace heap (.released a header (some p) (some p))
        [copy] (fits_released ..) (by
          intro u hu
          rw [List.mem_singleton.mp hu]
          exact ⟨hfocus.depth_le, hfocus.typed⟩) (by
          rw [Tree.cells_released, Tree.cellsList, Tree.cellsList, List.append_nil, Tree.cells_live]
          exact his')
      refine ⟨_, ts', ?_, hafter,
        fun u hu hspares => hkept u (hholds.mem_eraseIdx rfl hu hspares)⟩
      rw [step, hlive]
      simp only [hset, Option.bind_eq_bind, Option.bind_some]
      rfl
  | free root =>
    cases ht : ts[root]? with
    | none =>
      refine ⟨c, ts, ?_, hholds, fun u hu _ => hu⟩
      simp [step, hholds.roots, ht]
    | some t =>
      obtain ⟨hlt, hget⟩ := List.getElem?_eq_some_iff.mp ht
      obtain ⟨hdepth, htyped⟩ := hholds.trees t (hget ▸ List.getElem_mem hlt)
      have his : c.heap.Is (t.cells ++ (Tree.cellsList (ts.eraseIdx root) ++ l)) :=
        hholds.is.perm (by
          rw [← List.append_assoc]
          exact (cellsList_perm_of_getElem? ht).append_right l)
      obtain ⟨heap, hdrop, his'⟩ :=
        dropBox_is (rfl : layout.kind t.header = _) hdepth htyped his
      refine ⟨⟨heap, c.roots.eraseIdx root⟩, ts.eraseIdx root, ?_, ⟨?_, his', ?_⟩,
        fun u hu hspares => hholds.mem_eraseIdx rfl hu hspares⟩
      · simp [step, hholds.roots, ht, Tree.root, hdrop]
      · rw [hholds.roots, List.eraseIdx_map]
      · exact fun u hu => hholds.trees u (List.mem_of_mem_eraseIdx hu)

/-- No run has a fault, and after it what is allocated is what the consumer still holds. A struct
that the run spares is still there. -/
theorem run_is {actions : List (Action κ δ π)} (hholds : c.Holds layout depth ts l)
    (htake : ∀ spec, .take spec ∈ actions → spec.depth ≤ depth ∧ spec.Typed layout) :
    ∃ c' ts', c.run layout depth actions = some c' ∧ c'.Holds layout depth ts' l ∧
      ∀ t ∈ ts, Spares layout depth t.addr c actions → t ∈ ts' := by
  induction actions generalizing c ts with
  | nil => exact ⟨c, ts, rfl, hholds, fun t ht _ => ht⟩
  | cons action actions ih =>
    obtain ⟨c₁, ts₁, hstep, hholds₁, hkept₁⟩ := step_is hholds action
      fun spec hspec => htake spec (hspec ▸ List.mem_cons_self)
    obtain ⟨c', ts', hrun, hholds', hkept'⟩ :=
      ih hholds₁ fun spec hspec => htake spec (List.mem_cons_of_mem _ hspec)
    refine ⟨c', ts', ?_, hholds', fun t ht hspares => ?_⟩
    · rw [run, List.foldlM_cons, hstep]
      exact hrun
    · exact hkept' t (hkept₁ t ht hspares.1) (hspares.2 c₁ hstep)

/-- To take a struct spares the others. -/
theorem spares_take (a : Nat) (spec : Spec κ δ π) : Spares layout depth a c [.take spec] := by
  refine ⟨?_, fun _ _ => trivial⟩
  rintro ⟨root, kind, hroot, -⟩
  cases hroot

/-- A struct is shown as soon as it is taken. -/
theorem shows_take (hholds : c.Holds layout depth ts l) {spec : Spec κ δ π}
    (hspec : spec.depth ≤ depth ∧ spec.Typed layout) :
    ∃ c' a, c.step layout depth (.take spec) = some c' ∧
      c'.roots = c.roots ++ [(layout.kind spec.header, a)] ∧
      c'.Shows layout depth a spec l := by
  obtain ⟨t, haddr, hshows, his'⟩ := box_is spec c.heap _ hholds.is
  refine ⟨_, t.addr, rfl, ?_, ts ++ [t], t, ⟨?_, ?_, ?_⟩, by simp, rfl, hshows⟩
  · rw [haddr]
  · rw [List.map_append, hholds.roots, List.map_singleton, Tree.root, haddr, hshows.header_eq]
  · rw [Tree.cellsList_append, Tree.cellsList, Tree.cellsList, List.append_nil, List.append_assoc]
    exact his'.perm (List.perm_append_comm_assoc ..)
  · intro u hu
    rcases List.mem_append.mp hu with hu | hu
    · exact hholds.trees u hu
    · rw [List.mem_singleton.mp hu, hshows.depth_eq]
      exact ⟨hspec.1, hshows.typed hspec.2⟩

/-- A struct that is spared is shown after the run. -/
theorem Shows.run {a : Nat} {spec : Spec κ δ π} {actions : List (Action κ δ π)}
    (hshows : c.Shows layout depth a spec l)
    (htake : ∀ spec, .take spec ∈ actions → spec.depth ≤ depth ∧ spec.Typed layout)
    (hspares : Spares layout depth a c actions) :
    ∃ c', c.run layout depth actions = some c' ∧ c'.Shows layout depth a spec l := by
  obtain ⟨ts, t, hholds, ht, rfl, hspec⟩ := hshows
  obtain ⟨c', ts', hrun, hholds', hkept⟩ := run_is hholds htake
  exact ⟨c', hrun, ts', t, hholds', hkept t ht hspares, rfl, hspec⟩

omit [DecidableEq ι] in
/-- A reader sees a struct that is shown. -/
theorem Shows.read {a : Nat} {spec : Spec κ δ π} (hshows : c.Shows layout depth a spec l) :
    read depth c.heap a = some spec := by
  obtain ⟨ts, t, hholds, ht, rfl, hspec⟩ := hshows
  obtain ⟨i, hi⟩ := List.getElem?_of_mem ht
  refine read_is (l := Tree.cellsList (ts.eraseIdx i) ++ l) hspec (hholds.trees t ht).1
    (hholds.is.perm ?_)
  rw [← List.append_assoc]
  exact (cellsList_perm_of_getElem? hi).append_right l

/-- Frees all that the consumer holds, each struct as one of the kind of its pointer. -/
def freeAll (layout : Layout ι κ δ π) (depth : Nat) (c : Consumer ι κ δ π) :
    Option (Heap (Cell κ δ π)) :=
  c.roots.foldlM (fun heap root => dropBox layout depth root.1 heap root.2) c.heap

/-- After that nothing is left of what was taken. -/
theorem Holds.freeAll_is (hholds : c.Holds layout depth ts l) :
    ∃ heap, c.freeAll layout depth = some heap ∧ heap.Is l := by
  obtain ⟨hroots, his, htrees⟩ := hholds
  unfold freeAll
  rw [hroots]
  generalize c.heap = heap at his
  clear hroots
  induction ts generalizing heap with
  | nil => exact ⟨heap, rfl, his⟩
  | cons t ts ih =>
    rw [List.forall_mem_cons] at htrees
    rw [Tree.cellsList, List.append_assoc] at his
    obtain ⟨heap₁, hdrop, his₁⟩ :=
      dropBox_is (rfl : layout.kind t.header = _) htrees.1.1 htrees.1.2 his
    obtain ⟨heap', hrest, his'⟩ := ih htrees.2 heap₁ his₁
    refine ⟨heap', ?_, his'⟩
    rw [List.map_cons, List.foldlM_cons, Tree.root, hdrop]
    exact hrest

end Consumer

end

end Release
