import DagMlData.Lib.Guard
import DagMlData.Lib.Loading

/-!
# Steps that are not checked

A function that checks its input and refuses it can still go wrong in a step that it does not
check: an operation on sizes that overflows, a slice that is out of range, a capacity that no
vector can have. Here such a step panics. For every step there is the condition under which it
yields a value and the one under which it panics.
-/

namespace Unchecked

open Guard Loading

variable {ε α β : Type}

/-- A run that ends with a value, a refusal or a panic. -/
abbrev Outcome (ε α : Type) : Type := Except (Stop ε) α

/-- A step that cannot panic. -/
def lift (x : Except ε α) : Outcome ε α := x.mapError .refused

/-- A step that panics when the condition fails. -/
def assume (fine : Bool) : Outcome ε Unit := rejectIf (!fine) .panicked

/-- A size that has to be below `limit`. -/
def sized (limit n : Nat) : Outcome ε Nat := do
  assume (decide (n < limit))
  pure n

def sub (a b : Nat) : Outcome ε Nat := do
  assume (decide (b ≤ a))
  pure (a - b)

def mod (a b : Nat) : Outcome ε Nat := do
  assume (decide (0 < b))
  pure (a % b)

def div (a b : Nat) : Outcome ε Nat := do
  assume (decide (0 < b))
  pure (a / b)

/-- `data[start..stop]`. -/
def slice (data : List α) (start stop : Nat) : Outcome ε (List α) := do
  assume (decide (start ≤ stop ∧ stop ≤ data.length))
  pure ((data.drop start).take (stop - start))

/-- `slice::from_raw_parts`: `len` items of `size` bytes where `readable` can be read. It has no
meaning when they cannot be read or are more bytes than `most`. -/
def fromRawParts (most size : Nat) (readable : List α) (len : Nat) : Outcome ε (List α) := do
  assume (decide (len ≤ readable.length ∧ len * size ≤ most))
  pure (readable.take len)

/-! ## Values -/

@[simp] theorem lift_eq_ok {x : Except ε α} {a : α} : lift x = .ok a ↔ x = .ok a := by
  cases x <;> simp [lift, Except.mapError]

@[simp] theorem assume_eq_ok {fine : Bool} {u : Unit} :
    (assume fine : Outcome ε Unit) = .ok u ↔ fine = true := by
  simp [assume]

@[simp] theorem sized_eq_ok {limit n m : Nat} :
    (sized limit n : Outcome ε Nat) = .ok m ↔ n < limit ∧ n = m := by
  simp [sized]

@[simp] theorem sub_eq_ok {a b c : Nat} :
    (sub a b : Outcome ε Nat) = .ok c ↔ b ≤ a ∧ a - b = c := by
  simp [sub]

@[simp] theorem mod_eq_ok {a b c : Nat} :
    (mod a b : Outcome ε Nat) = .ok c ↔ 0 < b ∧ a % b = c := by
  simp [mod]

@[simp] theorem div_eq_ok {a b c : Nat} :
    (div a b : Outcome ε Nat) = .ok c ↔ 0 < b ∧ a / b = c := by
  simp [div]

@[simp] theorem slice_eq_ok {data part : List α} {start stop : Nat} :
    (slice data start stop : Outcome ε (List α)) = .ok part ↔
      (start ≤ stop ∧ stop ≤ data.length) ∧
        (data.drop start).take (stop - start) = part := by
  simp [slice]

@[simp] theorem fromRawParts_eq_ok {most size len : Nat} {readable items : List α} :
    (fromRawParts most size readable len : Outcome ε (List α)) = .ok items ↔
      (len ≤ readable.length ∧ len * size ≤ most) ∧ readable.take len = items := by
  simp [fromRawParts]

/-! ## Panics -/

/-- The run ends with a panic. -/
def Panics (x : Outcome ε α) : Prop := x = .error .panicked

instance (x : Outcome ε α) : Decidable (Panics x) :=
  match x with
  | .ok _ => isFalse nofun
  | .error (.refused _) => isFalse nofun
  | .error .panicked => isTrue rfl

@[simp] theorem not_panics_ok {a : α} : ¬ Panics (.ok a : Outcome ε α) := nofun

@[simp] theorem not_panics_pure {a : α} : ¬ Panics (pure a : Outcome ε α) := nofun

@[simp] theorem not_panics_lift {x : Except ε α} : ¬ Panics (lift x) := by
  cases x <;> nofun

@[simp] theorem not_panics_rejectIf {bad : Bool} {e : ε} :
    ¬ Panics (rejectIf bad (.refused e) : Outcome ε Unit) := by
  cases bad <;> nofun

@[simp] theorem not_panics_require {o : Option α} {e : ε} :
    ¬ Panics (require o (.refused e) : Outcome ε α) := by
  cases o <;> nofun

@[simp] theorem panics_assume {fine : Bool} :
    Panics (assume fine : Outcome ε Unit) ↔ fine = false := by
  cases fine <;> simp [Panics, assume, rejectIf]

/-- A run panics where one of its parts does. -/
@[simp] theorem panics_bind {x : Outcome ε α} {f : α → Outcome ε β} :
    Panics (x >>= f) ↔ Panics x ∨ ∃ a, x = .ok a ∧ Panics (f a) :=
  bind_eq_error

@[simp] theorem panics_map {x : Outcome ε α} {f : α → β} : Panics (f <$> x) ↔ Panics x := by
  rcases x with (_ | _) | _ <;> simp [Panics, Functor.map, Except.map]

@[simp] theorem panics_fromRawParts {most size len : Nat} {readable : List α} :
    Panics (fromRawParts most size readable len : Outcome ε (List α)) ↔
      ¬ (len ≤ readable.length ∧ len * size ≤ most) := by
  simp [fromRawParts]

/-- A loop that panics does so at one of its items. -/
theorem exists_panics_of_mapM {f : α → Outcome ε β} {xs : List α} (h : Panics (xs.mapM f)) :
    ∃ x ∈ xs, Panics (f x) := by
  induction xs with
  | nil => exact absurd h not_panics_pure
  | cons x xs ih =>
    rw [List.mapM_cons, panics_bind] at h
    rcases h with hx | ⟨b, -, hrest⟩
    · exact ⟨x, List.mem_cons_self, hx⟩
    · rw [panics_bind] at hrest
      rcases hrest with hrest | ⟨bs, -, hpure⟩
      · obtain ⟨y, hy, hpanics⟩ := ih hrest
        exact ⟨y, List.mem_cons_of_mem x hy, hpanics⟩
      · exact absurd hpure not_panics_pure

end Unchecked
