import Mathlib

/-!
# Guarded checks

A validator is a sequence of guards, each of which rejects the whole input with its own
error. This module has the guards as functions into `Except ε`, and for each the condition
under which it accepts:

* `rejectIf`: one guard. `require`: an optional value that has to be there.
* `rejectRepeats`: the loop that inserts into a set and stops at the first repeated element.
  `seenLoop_eq_ok` is the rule for loops that check the elements as well.
* `List.forM`, `List.mapM`: a guard, or a fallible function, on every element of a list.

The `..._eq_ok` lemmas are simp lemmas. They turn `validate x = .ok ()` into the conjunction
of the conditions that `validate` checks.
-/

namespace Guard

variable {ε α β : Type}

/-- The guard `if bad { return Err(e) }`. -/
def rejectIf (bad : Bool) (e : ε) : Except ε Unit :=
  if bad then .error e else .ok ()

@[simp] theorem rejectIf_eq_ok {bad : Bool} {e : ε} {u : Unit} :
    rejectIf bad e = .ok u ↔ bad = false := by
  cases bad <;> simp [rejectIf]

/-- The value of an option, or the error `e` when there is none. -/
def require (o : Option α) (e : ε) : Except ε α :=
  match o with
  | some a => .ok a
  | none => .error e

@[simp] theorem require_eq_ok {o : Option α} {e : ε} {a : α} :
    require o e = .ok a ↔ o = some a := by
  cases o <;> simp [require]

@[simp] theorem bind_eq_ok {x : Except ε α} {f : α → Except ε β} {b : β} :
    (x >>= f) = .ok b ↔ ∃ a, x = .ok a ∧ f a = .ok b := by
  cases x with
  | error e => simp [bind, Except.bind]
  | ok a => simp [bind, Except.bind]

@[simp] theorem pure_eq_ok {a b : α} : (pure a : Except ε α) = .ok b ↔ a = b := by
  simp [pure, Except.pure]

@[simp] theorem map_eq_ok {x : Except ε α} {f : α → β} {b : β} :
    (f <$> x) = .ok b ↔ ∃ a, x = .ok a ∧ f a = b := by
  cases x <;> simp [Functor.map, Except.map]

theorem ite_eq_ok {c : Prop} [Decidable c] {x y : Except ε α} {a : α} :
    (if c then x else y) = .ok a ↔ (c ∧ x = .ok a) ∨ (¬ c ∧ y = .ok a) := by
  by_cases h : c <;> simp [h]

/-- Every failed run of `x >>= f` comes from one of the two. -/
theorem bind_eq_error {x : Except ε α} {f : α → Except ε β} {e : ε} :
    (x >>= f) = .error e ↔ x = .error e ∨ ∃ a, x = .ok a ∧ f a = .error e := by
  cases x with
  | error e' => simp [bind, Except.bind]
  | ok a => simp [bind, Except.bind]

theorem exists_ok {x : Except ε α} (h : x.isOk = true) : ∃ a, x = .ok a := by
  cases x with
  | error e => cases h
  | ok a => exact ⟨a, rfl⟩

theorem exists_error {x : Except ε α} (h : x.isOk = false) : ∃ e, x = .error e := by
  cases x with
  | error e => exact ⟨e, rfl⟩
  | ok a => cases h

theorem toOption_eq_some {x : Except ε α} {a : α} : x.toOption = some a ↔ x = .ok a := by
  cases x <;> simp [Except.toOption]

/-- A check passes or fails with an error: nothing else. -/
theorem ok_or_error (x : Except ε Unit) : x = .ok () ∨ ∃ e, x = .error e := by
  cases x with
  | error e => exact Or.inr ⟨e, rfl⟩
  | ok u => exact Or.inl rfl

theorem bind_congr_ok {x : Except ε α} {f g : α → Except ε β}
    (h : ∀ a, x = .ok a → f a = g a) :
    (x >>= f) = x >>= g := by
  cases x with
  | error e => rfl
  | ok a => exact h a rfl

/-! ## Guards on lists -/

/-- A check has one result to return, so an existential over it is a plain equation. -/
@[simp] theorem exists_unit {p : Unit → Prop} : (∃ u, p u) ↔ p () :=
  ⟨fun ⟨(), h⟩ => h, fun h => ⟨(), h⟩⟩

/-- The check `f` passes on every element. -/
@[simp] theorem forM_eq_ok {f : α → Except ε Unit} {xs : List α} {u : Unit} :
    forM xs f = .ok u ↔ ∀ x ∈ xs, f x = .ok () := by
  induction xs with
  | nil => simp
  | cons x xs ih => rw [List.forM_cons]; simp [ih]

theorem mapM_congr {f g : α → Except ε β} {xs : List α} (h : ∀ x ∈ xs, f x = g x) :
    xs.mapM f = xs.mapM g := by
  induction xs with
  | nil => rfl
  | cons x xs ih =>
    rw [List.mapM_cons, List.mapM_cons, h x List.mem_cons_self,
      ih fun y hy => h y (List.mem_cons_of_mem x hy)]

/-- `List.mapM` succeeds exactly with the list of the element results. -/
theorem mapM_eq_ok {f : α → Except ε β} {xs : List α} {ys : List β} :
    xs.mapM f = .ok ys ↔ List.Forall₂ (fun x y => f x = .ok y) xs ys := by
  induction xs generalizing ys with
  | nil => simp [pure, Except.pure, eq_comm]
  | cons x xs ih =>
    simp only [List.mapM_cons, bind_eq_ok, pure_eq_ok, ih]
    constructor
    · rintro ⟨y, hy, ys', hys, rfl⟩
      exact List.Forall₂.cons hy hys
    · intro h
      cases h with
      | cons hy hys => exact ⟨_, hy, _, hys, rfl⟩

/-- The results are those of a total function, when its guard holds of every element. -/
theorem mapM_eq_ok_map {f : α → Except ε β} {g : α → β} {p : α → Prop}
    {xs : List α} {ys : List β}
    (h : ∀ x ∈ xs, ∀ y, f x = .ok y ↔ p x ∧ g x = y) :
    xs.mapM f = .ok ys ↔ (∀ x ∈ xs, p x) ∧ xs.map g = ys := by
  rw [mapM_eq_ok]
  induction xs generalizing ys with
  | nil => simp [eq_comm]
  | cons x xs ih =>
    rw [List.forall_mem_cons] at h
    simp only [List.forall₂_cons_left_iff, List.forall_mem_cons, List.map_cons]
    constructor
    · rintro ⟨y, ys, hy, hys, rfl⟩
      obtain ⟨hx, rfl⟩ := (h.1 y).mp hy
      obtain ⟨hxs, rfl⟩ := (ih h.2).mp hys
      exact ⟨⟨hx, hxs⟩, rfl⟩
    · rintro ⟨⟨hx, hxs⟩, rfl⟩
      exact ⟨_, _, (h.1 _).mpr ⟨hx, rfl⟩, (ih h.2).mpr ⟨hxs, rfl⟩, rfl⟩

theorem forall₂_concat_left {R : α → β → Prop} {xs : List α} {x : α} {ys : List β}
    (h : List.Forall₂ R (xs ++ [x]) ys) :
    ∃ init last, List.Forall₂ R xs init ∧ R x last ∧ ys = init ++ [last] := by
  rw [← List.forall₂_reverse_iff, List.reverse_append, List.reverse_singleton] at h
  obtain ⟨last, init, hlast, hinit, hys⟩ := List.forall₂_cons_left_iff.mp h
  refine ⟨init.reverse, last, ?_, hlast, ?_⟩
  · rwa [← List.forall₂_reverse_iff, List.reverse_reverse]
  · rw [← List.reverse_cons, ← hys, List.reverse_reverse]

/-- Every element on the right has a partner on the left. -/
theorem exists_left_of_forall₂ {R : α → β → Prop} {xs : List α} {ys : List β}
    (h : List.Forall₂ R xs ys) {y : β} (hy : y ∈ ys) : ∃ x ∈ xs, R x y := by
  induction h with
  | nil => cases hy
  | @cons x y' xs ys hxy _ ih =>
    rcases List.mem_cons.mp hy with rfl | hmem
    · exact ⟨x, List.mem_cons_self, hxy⟩
    · obtain ⟨x', hx', hR⟩ := ih hmem
      exact ⟨x', List.mem_cons_of_mem _ hx', hR⟩

/-- Every element on the left has a partner on the right. -/
theorem exists_right_of_forall₂ {R : α → β → Prop} {xs : List α} {ys : List β}
    (h : List.Forall₂ R xs ys) {x : α} (hx : x ∈ xs) : ∃ y ∈ ys, R x y := by
  obtain ⟨y, hy, hR⟩ := exists_left_of_forall₂ h.flip hx
  exact ⟨y, hy, hR⟩

/-- Where every element has a partner, the partners make a list. -/
theorem exists_forall₂ {R : α → β → Prop} {xs : List α} (h : ∀ x ∈ xs, ∃ y, R x y) :
    ∃ ys, List.Forall₂ R xs ys := by
  induction xs with
  | nil => exact ⟨[], .nil⟩
  | cons x xs ih =>
    obtain ⟨y, hy⟩ := h x List.mem_cons_self
    obtain ⟨ys, hys⟩ := ih fun x' hx' => h x' (List.mem_cons_of_mem _ hx')
    exact ⟨y :: ys, .cons hy hys⟩

theorem forall₂_congr_left {R S : α → β → Prop} {xs : List α} {ys : List β}
    (h : ∀ x ∈ xs, ∀ y, R x y ↔ S x y) : List.Forall₂ R xs ys ↔
      List.Forall₂ S xs ys := by
  induction xs generalizing ys with
  | nil => simp
  | cons x xs ih =>
    simp only [List.forall₂_cons_left_iff, h x List.mem_cons_self,
      ih fun y hy => h y (List.mem_cons_of_mem x hy)]

theorem nodup_map_of_forall₂ {γ : Type} {R : α → β → Prop} {f : β → γ} {xs : List α}
    {ys : List β} (h : List.Forall₂ R xs ys) (hnodup : xs.Nodup)
    (hinj : ∀ x ∈ xs, ∀ x' ∈ xs, ∀ y y', R x y → R x' y' → f y = f y' → x = x') :
    (ys.map f).Nodup := by
  induction h with
  | nil => exact List.nodup_nil
  | @cons x y xs ys hxy hrest ih =>
    obtain ⟨hnew, hnodup⟩ := List.nodup_cons.mp hnodup
    refine List.nodup_cons.mpr ⟨fun hmem => ?_, ih hnodup fun a ha b hb =>
      hinj a (List.mem_cons_of_mem x ha) b (List.mem_cons_of_mem x hb)⟩
    obtain ⟨y', hy', heq⟩ := List.mem_map.mp hmem
    obtain ⟨x', hx', hR⟩ := exists_left_of_forall₂ hrest hy'
    have hsame := hinj x List.mem_cons_self x' (List.mem_cons_of_mem x hx') y y' hxy hR heq.symm
    exact hnew (hsame ▸ hx')

/-- Distinct partners come from distinct elements. -/
theorem eq_of_forall₂_nodup {γ : Type} {R : α → β → Prop} {f : β → γ} {xs : List α}
    {ys : List β} (h : List.Forall₂ R xs ys) (hnodup : (ys.map f).Nodup)
    {x x' : α} (hx : x ∈ xs)
    (hx' : x' ∈ xs) (hsame : ∀ y y', R x y → R x' y' → f y = f y') : x = x' := by
  obtain ⟨i, hi, rfl⟩ := List.mem_iff_getElem.mp hx
  obtain ⟨j, hj, rfl⟩ := List.mem_iff_getElem.mp hx'
  have hlength := h.length_eq
  have hRi := List.forall₂_iff_get.mp h |>.2 i hi (hlength ▸ hi)
  have hRj := List.forall₂_iff_get.mp h |>.2 j hj (hlength ▸ hj)
  have heq := hsame _ _ hRi hRj
  have hij : i = j := by
    have hi' : i < (ys.map f).length := by rw [List.length_map]; exact hlength ▸ hi
    have hj' : j < (ys.map f).length := by rw [List.length_map]; exact hlength ▸ hj
    have hget : (ys.map f)[i] = (ys.map f)[j] := by simpa using heq
    exact hnodup.getElem_inj_iff.mp hget
  subst hij
  rfl

/-- Where the partner of an element is the image of another partner, so are the lists. -/
theorem forall₂_image {γ : Type} {R : α → γ → Prop}
    {S : α → β → Prop} {f : β → γ}
    (h : ∀ x z, R x z ↔ ∃ y, S x y ∧ z = f y) {xs : List α} {zs : List γ} :
    List.Forall₂ R xs zs ↔ ∃ ys, List.Forall₂ S xs ys ∧ zs = ys.map f := by
  induction xs generalizing zs with
  | nil =>
    simp only [List.forall₂_nil_left_iff, exists_eq_left, List.map_nil]
  | cons x xs ih =>
    simp only [List.forall₂_cons_left_iff, h, ih]
    constructor
    · rintro ⟨_, _, ⟨y, hy, rfl⟩, ⟨ys, hys, rfl⟩, rfl⟩
      exact ⟨y :: ys, ⟨y, ys, hy, hys, rfl⟩, rfl⟩
    · rintro ⟨_, ⟨y, ys, hy, hys, rfl⟩, rfl⟩
      exact ⟨f y, ys.map f, ⟨y, hy, rfl⟩, ⟨ys, hys, rfl⟩, rfl⟩

theorem forall₂_append_left {R : α → β → Prop} {xs ys : List α} {zs : List β} :
    List.Forall₂ R (xs ++ ys) zs ↔
      ∃ us vs, List.Forall₂ R xs us ∧ List.Forall₂ R ys vs ∧ zs = us ++ vs := by
  induction xs generalizing zs with
  | nil => simp
  | cons x xs ih =>
    rw [List.cons_append, List.forall₂_cons_left_iff]
    simp only [ih]
    constructor
    · rintro ⟨u, _, hu, ⟨us, vs, hus, hvs, rfl⟩, rfl⟩
      exact ⟨u :: us, vs, .cons hu hus, hvs, rfl⟩
    · rintro ⟨_, vs, hall, hvs, rfl⟩
      obtain ⟨u, us, hu, hus, rfl⟩ := List.forall₂_cons_left_iff.mp hall
      exact ⟨u, us ++ vs, hu, ⟨us, vs, hus, hvs, rfl⟩, rfl⟩

/-- Nested loops, whose results are put together: one result for every pair of elements. -/
theorem mapM_mapM_eq_ok {γ : Type} {f : α → List β}
    {g : α → β → Except ε γ} {xs : List α}
    {rows : List γ} :
    (∃ groups, xs.mapM (fun x => (f x).mapM (g x)) = .ok groups ∧ rows = groups.flatten) ↔
      List.Forall₂ (fun p r => g p.1 p.2 = .ok r) (xs.flatMap fun x => (f x).map (Prod.mk x))
        rows := by
  simp only [mapM_eq_ok]
  induction xs generalizing rows with
  | nil => simp
  | cons x xs ih =>
    rw [List.flatMap_cons, forall₂_append_left]
    simp only [← ih, List.forall₂_map_left_iff, List.forall₂_cons_left_iff]
    constructor
    · rintro ⟨_, ⟨us, groups, hus, hgroups, rfl⟩, rfl⟩
      exact ⟨us, groups.flatten, hus, ⟨groups, hgroups, rfl⟩, rfl⟩
    · rintro ⟨us, _, hus, ⟨groups, hgroups, rfl⟩, rfl⟩
      exact ⟨us :: groups, ⟨us, groups, hus, hgroups, rfl⟩, rfl⟩

/-- The induction rule for a loop that carries a state: what holds at the start, and what an
accepted element adds, holds of the accepted list and the final state. -/
theorem foldlM_ok_induction {f : β → α → Except ε β} {P : List α → β → Prop} {b0 : β}
    (h0 : P [] b0) (hstep : ∀ pre b x b', P pre b → f b x = .ok b' → P (pre ++ [x]) b')
    {xs : List α} {b : β} (h : xs.foldlM f b0 = .ok b) : P xs b := by
  induction xs using List.reverseRecOn generalizing b with
  | nil =>
    simp only [List.foldlM_nil, pure_eq_ok] at h
    exact h ▸ h0
  | append_singleton pre x ih =>
    rw [List.foldlM_append] at h
    obtain ⟨b', hpre, hx⟩ := bind_eq_ok.mp h
    simp only [List.foldlM_cons, List.foldlM_nil, bind_eq_ok, pure_eq_ok] at hx
    obtain ⟨b'', hx, rfl⟩ := hx
    exact hstep pre b' x b'' (ih hpre) hx

/-- In an accepted loop, every element was accepted in some state. -/
theorem foldlM_ok_mem {f : β → α → Except ε β} {xs : List α} {b b' : β}
    (h : xs.foldlM f b = .ok b') {x : α} (hx : x ∈ xs) : ∃ c c', f c x = .ok c' := by
  induction xs generalizing b with
  | nil => cases hx
  | cons y ys ih =>
    rw [List.foldlM_cons] at h
    obtain ⟨c, hy, hys⟩ := bind_eq_ok.mp h
    rcases List.mem_cons.mp hx with rfl | hmem
    · exact ⟨b, c, hy⟩
    · exact ih hys hmem

/-- A loop over chunks, whose state is that of the elements read so far, reads the elements of all
chunks, however they are cut. -/
theorem foldlM_chunks_eq_ok {σ γ : Type} {f : σ → γ → Except ε σ}
    {elements : γ → List α}
    {R : α → β → Prop} {state : List β → σ} {chunks : List γ}
    (hstep : ∀ chunk ∈ chunks, ∀ prior s, f (state prior) chunk = .ok s ↔
      ∃ read, List.Forall₂ R (elements chunk) read ∧ s = state (prior ++ read))
    (prior : List β) {s : σ} :
    chunks.foldlM f (state prior) = .ok s ↔
      ∃ read, List.Forall₂ R (chunks.flatMap elements) read ∧ s = state (prior ++ read) := by
  induction chunks generalizing prior with
  | nil =>
    simp only [List.foldlM_nil, pure_eq_ok, List.flatMap_nil, List.forall₂_nil_left_iff,
      exists_eq_left, List.append_nil]
    exact eq_comm
  | cons chunk chunks ih =>
    have hrest := ih fun chunk' h => hstep chunk' (List.mem_cons_of_mem _ h)
    simp only [List.foldlM_cons, bind_eq_ok, List.flatMap_cons, forall₂_append_left,
      hstep chunk List.mem_cons_self]
    constructor
    · rintro ⟨_, ⟨read, hread, rfl⟩, hfold⟩
      obtain ⟨more, hmore, rfl⟩ := (hrest _).mp hfold
      exact ⟨_, ⟨read, more, hread, hmore, rfl⟩, by rw [List.append_assoc]⟩
    · rintro ⟨_, ⟨read, more, hread, hmore, rfl⟩, rfl⟩
      exact ⟨_, ⟨read, hread, rfl⟩,
        (hrest _).mpr ⟨more, hmore, by rw [List.append_assoc]⟩⟩

/-- The rule for a loop that carries the keys seen so far, refuses a key that is among them and
checks every element: it accepts the lists of distinct new keys whose elements pass the check. -/
theorem seenLoop_eq_ok {κ : Type} {loop : List κ → List α → Except ε Unit} {key : α → κ}
    {P : α → Prop} (hnil : ∀ seen, loop seen [] = .ok ())
    (hcons : ∀ seen x xs, loop seen (x :: xs) = .ok () ↔
      P x ∧ key x ∉ seen ∧ loop (key x :: seen) xs = .ok ())
    {seen : List κ} {xs : List α} {u : Unit} :
    loop seen xs = .ok u ↔
      (∀ x ∈ xs, P x) ∧ (xs.map key).Nodup ∧ ∀ x ∈ xs, key x ∉ seen := by
  cases u
  induction xs generalizing seen with
  | nil => simp [hnil]
  | cons x xs ih =>
    simp only [hcons, ih, List.map_cons, List.nodup_cons, List.mem_map, List.mem_cons, not_or,
      not_exists, not_and, forall_eq_or_imp]
    constructor
    · rintro ⟨hx, hseen, hxs, hnodup, hrest⟩
      exact ⟨⟨hx, hxs⟩, ⟨fun y hy => (hrest y hy).1, hnodup⟩, hseen,
        fun y hy => (hrest y hy).2⟩
    · rintro ⟨⟨hx, hxs⟩, ⟨hnew, hnodup⟩, hseen, hrest⟩
      exact ⟨hx, hseen, hxs, hnodup, fun y hy => ⟨hnew y hy, hrest y hy⟩⟩

/-- The loop `for x in xs { if !seen.insert(x) { return Err(e x) } }`. -/
def rejectRepeatsFrom [DecidableEq α] (e : α → ε) : List α → List α → Except ε Unit
  | _, [] => .ok ()
  | seen, x :: xs =>
    if x ∈ seen then .error (e x) else rejectRepeatsFrom e (x :: seen) xs

/-- Accepts the lists without a repeated element; the error is about the first repetition. -/
def rejectRepeats [DecidableEq α] (e : α → ε) (xs : List α) : Except ε Unit :=
  rejectRepeatsFrom e [] xs

theorem rejectRepeatsFrom_eq_ok [DecidableEq α] {e : α → ε} {xs seen : List α} {u : Unit} :
    rejectRepeatsFrom e seen xs = .ok u ↔ xs.Nodup ∧ ∀ x ∈ xs, x ∉ seen := by
  have hloop : rejectRepeatsFrom e seen xs = .ok u ↔
      (∀ x ∈ xs, True) ∧ (xs.map id).Nodup ∧ ∀ x ∈ xs, id x ∉ seen := by
    refine seenLoop_eq_ok (fun _ => rfl) fun seen x xs => ?_
    rw [rejectRepeatsFrom, ite_eq_ok, id]
    simp
  simpa using hloop

@[simp] theorem rejectRepeats_eq_ok [DecidableEq α] {e : α → ε} {xs : List α} {u : Unit} :
    rejectRepeats e xs = .ok u ↔ xs.Nodup := by
  simp [rejectRepeats, rejectRepeatsFrom_eq_ok]

/-- The test `set(xs).len() != xs.len()`. -/
def hasRepeats [DecidableEq α] (xs : List α) : Bool :=
  xs.toFinset.card != xs.length

@[simp] theorem hasRepeats_eq_false [DecidableEq α] {xs : List α} :
    hasRepeats xs = false ↔ xs.Nodup := by
  simp only [hasRepeats, bne_eq_false_iff_eq]
  constructor
  · intro h
    exact Multiset.coe_nodup.mp (Multiset.dedup_eq_self.mp (by
      refine Multiset.eq_of_le_of_card_le (Multiset.dedup_le _) ?_
      exact le_of_eq h.symm))
  · exact List.toFinset_card_of_nodup

end Guard
