import Mathlib

/-!
# Loading from untrusted bytes

A loader reads a value out of a byte string. It can refuse the input, and on a real machine it
can also go wrong: a slice can be out of range, a size computation can overflow, an input can
make it reserve far more memory than the input is long. So a loader here is a computation that

* ends with a value, with a refusal, or with a panic, and
* keeps a trace of every size it computed and of every vector capacity it reserved.

Sizes are computed exactly. The trace says which bound they stay under, in whatever way the
machine would treat an overflow.

Contents:

* `Loader` and its operations `add`, `sub`, `slice`, `byteAt`, `reserve`.
* `Safe`: no panic, a bounded trace, and a postcondition. `Returns`: the loader yields a value.
* `Span`: where a chunk of bytes lies. `Decodes`, `Consumes`: a reader takes every chunk of a
  wire form, and takes nothing but such chunks. `readMany`: a counted sequence of reads.
-/

namespace Loading

/-! ## Loaders -/

/-- How a run ends without a value. -/
inductive Stop (ε : Type)
  | refused (e : ε)
  | panicked

/-- The capacities that a run reserved and the sizes that it computed, last first. -/
structure Trace where
  reserved : List Nat
  computed : List Nat

def Trace.empty : Trace := ⟨[], []⟩

/-- Bounds on what a trace may have. -/
structure Limits where
  reserved : Nat
  computed : Nat

structure Trace.Within (t : Trace) (l : Limits) : Prop where
  reserved : ∀ n ∈ t.reserved, n ≤ l.reserved
  computed : ∀ n ∈ t.computed, n ≤ l.computed

theorem Trace.empty_within (l : Limits) : Trace.empty.Within l :=
  ⟨by simp [Trace.empty], by simp [Trace.empty]⟩

/-- A computation that leaves a trace and ends with a value or without one. -/
def Loader (ε α : Type) : Type := Trace → Except (Stop ε) α × Trace

variable {ε α β : Type}

namespace Loader

def ret (a : α) : Loader ε α := fun t => (.ok a, t)

/-- Runs `x`, and `f` on its value when there is one. The trace is kept either way. -/
def andThen (x : Loader ε α) (f : α → Loader ε β) : Loader ε β := fun t =>
  match x t with
  | (.ok a, t') => f a t'
  | (.error stop, t') => (.error stop, t')

instance : Monad (Loader ε) where
  pure := ret
  bind := andThen

def refuse (e : ε) : Loader ε α := fun t => (.error (.refused e), t)

def panic : Loader ε α := fun t => (.error .panicked, t)

/-- A computation that reads no bytes. -/
def lift (r : Except ε α) : Loader ε α :=
  match r with
  | .ok a => ret a
  | .error e => refuse e

/-- Notes a computed size. -/
def compute (n : Nat) : Loader ε Nat := fun t =>
  (.ok n, { t with computed := n :: t.computed })

/-- `a + b` on sizes. -/
def add (a b : Nat) : Loader ε Nat := compute (a + b)

/-- `a * b` on sizes. -/
def mul (a b : Nat) : Loader ε Nat := compute (a * b)

/-- `a - b` on sizes. -/
def sub (a b : Nat) : Loader ε Nat := if b ≤ a then compute (a - b) else panic

/-- `bytes[lo..hi]`. -/
def slice (bytes : List UInt8) (lo hi : Nat) : Loader ε (List UInt8) :=
  if lo ≤ hi ∧ hi ≤ bytes.length then ret ((bytes.drop lo).take (hi - lo)) else panic

/-- `bytes[i]`. -/
def byteAt (bytes : List UInt8) (i : Nat) : Loader ε UInt8 :=
  match bytes[i]? with
  | some b => ret b
  | none => panic

/-- A reservation that the allocator may refuse. It can depend on what was reserved before. -/
def reserve (grants : List Nat → Nat → Bool) (e : ε) (n : Nat) : Loader ε Unit := fun t =>
  (if grants t.reserved n then .ok () else .error (.refused e),
    { t with reserved := n :: t.reserved })

/-- A reservation that is not checked. -/
def reserveAll (ns : List Nat) : Loader ε Unit := fun t =>
  (.ok (), { t with reserved := ns ++ t.reserved })

end Loader

open Loader

/-! ## Safety -/

section Safety

variable {l : Limits} {post : α → Prop} {x : Loader ε α}

/-- `x` does not panic, keeps the trace within the limits, and its values meet `post`. -/
def Safe (l : Limits) (x : Loader ε α) (post : α → Prop) : Prop :=
  ∀ t : Trace, t.Within l →
    (x t).2.Within l ∧ (x t).1 ≠ .error .panicked ∧ ∀ a, (x t).1 = .ok a → post a

theorem Safe.weaken {post' : α → Prop} (h : Safe l x post) (hpost : ∀ a, post a → post' a) :
    Safe l x post' := by
  intro t ht
  obtain ⟨hwithin, hpanic, hvalue⟩ := h t ht
  exact ⟨hwithin, hpanic, fun a ha => hpost a (hvalue a ha)⟩

theorem safe_pure {a : α} (h : post a) : Safe l (Pure.pure a : Loader ε α) post := by
  intro t ht
  refine ⟨ht, nofun, fun a' ha => ?_⟩
  cases ha
  exact h

theorem safe_refuse {e : ε} : Safe l (refuse e) post := by
  intro t ht
  exact ⟨ht, nofun, nofun⟩

/-- The bind rule: what `x` promises is what `f` may rely on. -/
theorem Safe.bind {f : α → Loader ε β} {mid : α → Prop} {post : β → Prop}
    (hx : Safe l x mid) (hf : ∀ a, mid a → Safe l (f a) post) : Safe l (x >>= f) post := by
  intro t ht
  obtain ⟨hwithin, hpanic, hvalue⟩ := hx t ht
  show (Loader.andThen x f t).2.Within l ∧ (Loader.andThen x f t).1 ≠ .error .panicked ∧
    ∀ b, (Loader.andThen x f t).1 = .ok b → post b
  unfold Loader.andThen
  split
  · next a t' h =>
    rw [h] at hwithin hvalue
    exact hf a (hvalue a rfl) t' hwithin
  · next stop t' h =>
    rw [h] at hwithin hpanic
    exact ⟨hwithin, fun hp => hpanic (by cases hp; rfl), nofun⟩

/-- `if c { return Err(e) }`: what follows runs when `c` fails. -/
theorem safe_guard {c : Prop} [Decidable c] {e : ε} (h : ¬c → Safe l x post) :
    Safe l (if c then refuse e else x) post := by
  by_cases hc : c
  · rw [if_pos hc]
    exact safe_refuse
  · rw [if_neg hc]
    exact h hc

theorem safe_lift {r : Except ε α} (h : ∀ a, r = .ok a → post a) : Safe l (lift r) post := by
  cases r with
  | ok a => exact safe_pure (h a rfl)
  | error e => exact safe_refuse

theorem safe_compute {n : Nat} (h : n ≤ l.computed) :
    Safe l (compute n : Loader ε Nat) fun m => m = n := by
  intro t ht
  refine ⟨⟨ht.reserved, ?_⟩, nofun, fun a ha => ?_⟩
  · intro m hm
    rcases List.mem_cons.mp hm with rfl | hm
    · exact h
    · exact ht.computed m hm
  · cases ha
    rfl

theorem safe_add {a b : Nat} (h : a + b ≤ l.computed) :
    Safe l (add a b : Loader ε Nat) fun m => m = a + b :=
  safe_compute h

theorem safe_mul {a b : Nat} (h : a * b ≤ l.computed) :
    Safe l (mul a b : Loader ε Nat) fun m => m = a * b :=
  safe_compute h

theorem safe_sub {a b : Nat} (hle : b ≤ a) (h : a ≤ l.computed) :
    Safe l (sub a b : Loader ε Nat) fun m => m = a - b := by
  unfold sub
  rw [if_pos hle]
  exact safe_compute (le_trans (Nat.sub_le a b) h)

theorem safe_slice {bytes : List UInt8} {lo hi : Nat} (hlo : lo ≤ hi)
    (hhi : hi ≤ bytes.length) :
    Safe l (slice bytes lo hi : Loader ε (List UInt8)) fun raw =>
      raw = (bytes.drop lo).take (hi - lo) := by
  unfold slice
  rw [if_pos ⟨hlo, hhi⟩]
  exact safe_pure rfl

theorem safe_byteAt {bytes : List UInt8} {i : Nat} (h : i < bytes.length) :
    Safe l (byteAt bytes i : Loader ε UInt8) fun b => bytes[i]? = some b := by
  unfold byteAt
  rw [List.getElem?_eq_getElem h]
  exact safe_pure rfl

theorem safe_reserve {grants : List Nat → Nat → Bool} {e : ε} {n : Nat}
    (h : n ≤ l.reserved) :
    Safe l (reserve grants e n) fun _ => True := by
  intro t ht
  refine ⟨⟨?_, ht.computed⟩, ?_, fun _ _ => trivial⟩
  · intro m hm
    rcases List.mem_cons.mp hm with rfl | hm
    · exact h
    · exact ht.reserved m hm
  · unfold reserve
    split <;> simp

theorem safe_reserveAll {ns : List Nat} (h : ∀ n ∈ ns, n ≤ l.reserved) :
    Safe l (reserveAll ns : Loader ε Unit) fun _ => True := by
  intro t ht
  refine ⟨⟨?_, ht.computed⟩, nofun, fun _ _ => trivial⟩
  intro m hm
  rcases List.mem_append.mp hm with hm | hm
  · exact h m hm
  · exact ht.reserved m hm

end Safety

/-! ## Returned values -/

section Returned

/-- `x` ends with the value `a`, after whatever was computed and reserved before. -/
def Returns (x : Loader ε α) (a : α) : Prop := ∀ t, (x t).1 = .ok a

theorem returns_pure (a : α) : Returns (Pure.pure a : Loader ε α) a := fun _ => rfl

theorem Returns.bind {x : Loader ε α} {f : α → Loader ε β} {a : α}
    {b : β} (hx : Returns x a)
    (hf : Returns (f a) b) : Returns (x >>= f) b := by
  intro t
  show (Loader.andThen x f t).1 = .ok b
  unfold Loader.andThen
  have h := hx t
  split
  · next a' t' heq =>
    rw [heq] at h
    cases h
    exact hf t'
  · next stop t' heq =>
    rw [heq] at h
    cases h

theorem returns_guard {c : Prop} [Decidable c] {e : ε} {x : Loader ε α} {a : α} (hc : ¬c)
    (h : Returns x a) : Returns (if c then refuse e else x) a := by
  rw [if_neg hc]
  exact h

theorem returns_lift {r : Except ε α} {a : α} (h : r = .ok a) : Returns (lift r) a := by
  cases h
  exact returns_pure a

theorem returns_compute (n : Nat) : Returns (compute n : Loader ε Nat) n := fun _ => rfl

theorem returns_add (a b : Nat) : Returns (add a b : Loader ε Nat) (a + b) := fun _ => rfl

theorem returns_mul (a b : Nat) : Returns (mul a b : Loader ε Nat) (a * b) := fun _ => rfl

theorem returns_sub {a b : Nat} (h : b ≤ a) : Returns (sub a b : Loader ε Nat) (a - b) := by
  unfold sub
  rw [if_pos h]
  exact returns_compute _

theorem returns_slice {bytes : List UInt8} {lo hi : Nat} (hlo : lo ≤ hi)
    (hhi : hi ≤ bytes.length)
    {raw : List UInt8} (hraw : (bytes.drop lo).take (hi - lo) = raw) :
    Returns (slice bytes lo hi : Loader ε (List UInt8)) raw := by
  unfold slice
  rw [if_pos ⟨hlo, hhi⟩, hraw]
  exact returns_pure raw

theorem returns_reserve {grants : List Nat → Nat → Bool} {e : ε} {n : Nat}
    (h : ∀ history n, grants history n = true) : Returns (reserve grants e n) () := by
  intro t
  simp [reserve, h]

theorem returns_reserveAll (ns : List Nat) : Returns (reserveAll ns : Loader ε Unit) () :=
  fun _ => rfl

end Returned

/-! ## Fallible loops -/

instance : LawfulMonad (Loader ε) := LawfulMonad.mk' (Loader ε)
  (fun x => by
    funext t
    show Loader.andThen x _ t = x t
    unfold Loader.andThen
    split <;> simp_all [Loader.ret, Function.comp])
  (fun _ _ => rfl)
  (fun x f g => by
    funext t
    show Loader.andThen (Loader.andThen x f) g t = Loader.andThen x
      (fun a => Loader.andThen (f a) g) t
    unfold Loader.andThen
    cases h : x t with
    | mk r t' => cases r <;> rfl)

/-- Each element meets its own postcondition. -/
theorem safe_mapM {l : Limits} {f : α → Loader ε β} {R : α → β → Prop} {xs : List α}
    (h : ∀ x ∈ xs, Safe l (f x) (R x)) : Safe l (xs.mapM f) (List.Forall₂ R xs) := by
  induction xs with
  | nil =>
    rw [List.mapM_nil]
    exact safe_pure List.Forall₂.nil
  | cons x xs ih =>
    rw [List.mapM_cons]
    refine Safe.bind (h x List.mem_cons_self) fun y hy => ?_
    refine Safe.bind (ih fun x' hx' => h x' (List.mem_cons_of_mem _ hx')) fun ys hys => ?_
    exact safe_pure (List.Forall₂.cons hy hys)

theorem returns_mapM {f : α → Loader ε β} {xs : List α} {ys : List β}
    (h : List.Forall₂ (fun x y => Returns (f x) y) xs ys) : Returns (xs.mapM f) ys := by
  induction h with
  | nil =>
    rw [List.mapM_nil]
    exact returns_pure []
  | cons hx _ ih =>
    rw [List.mapM_cons]
    exact Returns.bind hx (Returns.bind ih (returns_pure _))

/-! ## Chunks and wire forms -/

/-- The chunk lies at `cursor` and ends at or before `limit`. -/
structure Span (bytes : List UInt8) (limit cursor : Nat) (chunk : List UInt8) : Prop where
  prefixed : chunk <+: bytes.drop cursor
  inside : cursor + chunk.length ≤ limit

section Spans

variable {bytes : List UInt8} {limit cursor : Nat} {chunk a b : List UInt8}

theorem Span.nil (h : cursor ≤ limit) : Span bytes limit cursor [] :=
  ⟨List.nil_prefix, h⟩

theorem Span.start_le (h : Span bytes limit cursor chunk) : cursor ≤ limit :=
  le_trans (Nat.le_add_right _ _) h.inside

/-- Two chunks that follow each other are one chunk. -/
theorem span_append : Span bytes limit cursor (a ++ b) ↔
    Span bytes limit cursor a ∧ Span bytes limit (cursor + a.length) b := by
  constructor
  · rintro ⟨⟨rest, hrest⟩, hinside⟩
    rw [List.length_append] at hinside
    have hdrop : bytes.drop (cursor + a.length) = b ++ rest := by
      rw [← List.drop_drop, ← hrest, List.append_assoc, List.drop_left]
    refine ⟨⟨⟨b ++ rest, by rw [← hrest, List.append_assoc]⟩, by omega⟩,
      ⟨⟨rest, hdrop.symm⟩, ?_⟩⟩
    omega
  · rintro ⟨⟨⟨rest, hrest⟩, _⟩, ⟨⟨rest', hrest'⟩, hinside⟩⟩
    refine ⟨⟨rest', ?_⟩, by rw [List.length_append]; omega⟩
    rw [← List.drop_drop, ← hrest, List.drop_left] at hrest'
    rw [List.append_assoc, hrest', hrest]

/-- The slice at a chunk is the chunk. -/
theorem Span.take_eq (h : Span bytes limit cursor chunk) :
    (bytes.drop cursor).take chunk.length = chunk :=
  List.prefix_iff_eq_take.mp h.prefixed |>.symm

/-- Any slice of the payload is a chunk. -/
theorem span_slice {n : Nat} (hlimit : limit ≤ bytes.length) (h : cursor + n ≤ limit) :
    Span bytes limit cursor ((bytes.drop cursor).take n) ∧
      ((bytes.drop cursor).take n).length = n := by
  have hlen : ((bytes.drop cursor).take n).length = n := by
    rw [List.length_take, List.length_drop]
    omega
  exact ⟨⟨List.take_prefix _ _, by rw [hlen]; exact h⟩, hlen⟩

/-- Chunks of one length that lie at every multiple of it are one chunk. -/
theorem span_flatten {k : Nat} {chunks : List (List UInt8)} (hlen : ∀ c ∈ chunks, c.length = k)
    (hcursor : cursor ≤ limit) :
    Span bytes limit cursor chunks.flatten ↔
      ∀ i c, chunks[i]? = some c → Span bytes limit (cursor + i * k) c := by
  induction chunks generalizing cursor with
  | nil => simp [Span.nil hcursor]
  | cons d chunks ih =>
    have hd : d.length = k := hlen d List.mem_cons_self
    have hrest : ∀ c ∈ chunks, c.length = k := fun c hc => hlen c (List.mem_cons_of_mem _ hc)
    rw [List.flatten_cons, span_append, hd]
    constructor
    · rintro ⟨hfirst, htail⟩ i c hc
      cases i with
      | zero =>
        cases hc
        rw [Nat.zero_mul, Nat.add_zero]
        exact hfirst
      | succ i =>
        have h := (ih hrest htail.start_le).mp htail i c hc
        rwa [Nat.succ_mul, Nat.add_comm (i * k) k, ← Nat.add_assoc]
    · intro h
      have hfirst : Span bytes limit cursor d := by
        have h0 := h 0 d rfl
        rwa [Nat.zero_mul, Nat.add_zero] at h0
      have hnext : cursor + k ≤ limit := hd ▸ hfirst.inside
      refine ⟨hfirst, (ih hrest hnext).mpr fun i c hc => ?_⟩
      have hi := h (i + 1) c hc
      rwa [Nat.succ_mul, Nat.add_comm (i * k) k, ← Nat.add_assoc] at hi

/-- The slice of the next `n` bytes. -/
theorem safe_sliceNext (hlimit : limit ≤ bytes.length) {l : Limits} {n : Nat}
    (h : cursor + n ≤ limit) :
    Safe (l) (Loader.slice bytes cursor (cursor + n) : Loader ε _)
      fun raw => Span bytes limit cursor raw ∧ raw.length = n := by
  refine (safe_slice (Nat.le_add_right _ _) (le_trans h hlimit)).weaken fun raw hraw => ?_
  rw [hraw, Nat.add_sub_cancel_left]
  exact span_slice hlimit h

theorem returns_sliceNext (hlimit : limit ≤ bytes.length)
    (h : Span bytes limit cursor chunk) :
    Returns (Loader.slice bytes cursor (cursor + chunk.length) : Loader ε _) chunk := by
  unfold Loader.slice
  rw [if_pos ⟨Nat.le_add_right _ _, le_trans h.inside hlimit⟩,
    Nat.add_sub_cancel_left, h.take_eq]
  exact returns_pure chunk

theorem span_singleton_iff {b : UInt8} :
    Span bytes limit cursor [b] ↔ bytes[cursor]? = some b ∧ cursor + 1 ≤ limit := by
  constructor
  · rintro ⟨⟨rest, hrest⟩, hinside⟩
    refine ⟨?_, hinside⟩
    rw [← List.head?_drop, ← hrest]
    rfl
  · rintro ⟨hget, hinside⟩
    obtain ⟨hlt, hb⟩ := List.getElem?_eq_some_iff.mp hget
    refine ⟨⟨bytes.drop (cursor + 1), ?_⟩, hinside⟩
    rw [List.drop_eq_getElem_cons hlt, hb]
    rfl

theorem returns_byteNext {b : UInt8} (h : Span bytes limit cursor [b]) :
    Returns (Loader.byteAt bytes cursor : Loader ε UInt8) b := by
  unfold Loader.byteAt
  rw [(span_singleton_iff.mp h).1]
  exact returns_pure b

theorem safe_byteNext {l : Limits} (hlimit : limit ≤ bytes.length) (h : cursor + 1 ≤ limit) :
    Safe (l) (Loader.byteAt bytes cursor : Loader ε UInt8) fun b =>
      Span bytes limit cursor [b] :=
  (safe_byteAt (by omega)).weaken fun _ hb => span_singleton_iff.mpr ⟨hb, h⟩

end Spans

/-- A reader at a cursor: the value and the next cursor. -/
abbrev Reader (ε α : Type) : Type := Nat → Loader ε (α × Nat)

section Readers

variable {bytes : List UInt8} {limit : Nat} {l : Limits} {read : Reader ε α}
  {wire : α → List UInt8 → Prop}

/-- Wherever a wire form of `a` lies, the reader takes it and returns `a`. -/
def Decodes (bytes : List UInt8) (limit : Nat) (read : Reader ε α)
    (wire : α → List UInt8 → Prop) : Prop :=
  ∀ a chunk cursor, wire a chunk → Span bytes limit cursor chunk →
    Returns (read cursor) (a, cursor + chunk.length)

/-- The reader took a wire form of the value and no other byte. -/
def Took (bytes : List UInt8) (limit cursor : Nat) (wire : α → List UInt8 → Prop)
    (r : α × Nat) : Prop :=
  ∃ chunk, wire r.1 chunk ∧ Span bytes limit cursor chunk ∧ r.2 = cursor + chunk.length

theorem took_iff {cursor next : Nat} {a : α} : Took bytes limit cursor wire (a, next) ↔
    ∃ chunk, wire a chunk ∧ Span bytes limit cursor chunk ∧ next = cursor + chunk.length :=
  Iff.rfl

/-- From every cursor the reader is safe, and takes a wire form of the value it returns. -/
def Consumes (l : Limits) (bytes : List UInt8) (limit : Nat) (read : Reader ε α)
    (wire : α → List UInt8 → Prop) : Prop :=
  ∀ cursor, cursor ≤ limit → Safe l (read cursor) (Took bytes limit cursor wire)

/-- `for _ in 0..n { items.push(read(&mut cursor)?) }`. -/
def readMany (read : Reader ε α) : Nat → Reader ε (List α)
  | 0, cursor => pure ([], cursor)
  | n + 1, cursor => do
    let (item, next) ← read cursor
    let (items, last) ← readMany read n next
    pure (item :: items, last)

/-- The wire forms of the items, one after the other. -/
def WireAll (wire : α → List UInt8 → Prop) (items : List α) (chunk : List UInt8) : Prop :=
  ∃ chunks, List.Forall₂ wire items chunks ∧ chunk = chunks.flatten

/-- Items of at least `k` bytes each. -/
theorem WireAll.le_length {items : List α}
    {chunk : List UInt8} (h : WireAll wire items chunk) {k : Nat}
    (hk : ∀ item ∈ items, ∀ c, wire item c → k ≤ c.length) :
      items.length * k ≤ chunk.length := by
  obtain ⟨chunks, hall, rfl⟩ := h
  induction hall with
  | nil => simp
  | @cons item c items chunks hitem _ ih =>
    have hc := hk item List.mem_cons_self c hitem
    have hrest := ih fun i hi => hk i (List.mem_cons_of_mem _ hi)
    rw [List.length_cons, List.flatten_cons, List.length_append, Nat.succ_mul]
    omega

theorem WireAll.imp {wire' : α → List UInt8 → Prop} {items : List α}
    {chunk : List UInt8} (h : WireAll wire items chunk)
    (himp : ∀ item ∈ items, ∀ c, wire item c → wire' item c) :
      WireAll wire' items chunk := by
  obtain ⟨chunks, hall, rfl⟩ := h
  refine ⟨chunks, ?_, rfl⟩
  induction hall with
  | nil => exact List.Forall₂.nil
  | @cons item c items chunks hitem _ ih =>
    exact List.Forall₂.cons (himp item List.mem_cons_self c hitem)
      (ih fun i hi => himp i (List.mem_cons_of_mem _ hi))

theorem wireAll_of_forall {items : List α}
    {form : α → List UInt8} (h : ∀ item ∈ items, wire item (form item)) :
    WireAll wire items (items.flatMap form) := by
  refine ⟨items.map form, ?_, List.flatMap_def⟩
  rw [List.forall₂_map_right_iff, List.forall₂_same]
  exact h

theorem exists_wireAll {items : List α} (h : ∀ item ∈ items, ∃ c, wire item c) :
    ∃ chunk, WireAll wire items chunk := by
  induction items with
  | nil => exact ⟨[], [], List.Forall₂.nil, rfl⟩
  | cons item items ih =>
    obtain ⟨c, hc⟩ := h item List.mem_cons_self
    obtain ⟨_, chunks, hall, rfl⟩ := ih fun i hi => h i (List.mem_cons_of_mem _ hi)
    exact ⟨_, c :: chunks, List.Forall₂.cons hc hall, rfl⟩

theorem WireAll.exists_of_mem {items : List α} {chunk : List UInt8}
    (h : WireAll wire items chunk) {item : α} (hitem : item ∈ items) :
    ∃ c, wire item c ∧ c.length ≤ chunk.length := by
  obtain ⟨chunks, hall, rfl⟩ := h
  induction hall with
  | nil => cases hitem
  | @cons i c items chunks hi _ ih =>
    rw [List.flatten_cons, List.length_append]
    rcases List.mem_cons.mp hitem with rfl | hmem
    · exact ⟨c, hi, Nat.le_add_right _ _⟩
    · obtain ⟨c', hc', hle⟩ := ih hmem
      exact ⟨c', hc', le_trans hle (Nat.le_add_left _ _)⟩

theorem Took.le {cursor : Nat} {r : α × Nat} (h : Took bytes limit cursor wire r) :
    r.2 ≤ limit := by
  obtain ⟨chunk, _, hspan, hr⟩ := h
  rw [hr]
  exact hspan.inside

theorem decodes_readMany (h : Decodes bytes limit read wire) (items : List α)
    (chunk : List UInt8) (cursor : Nat) (hwire : WireAll wire items chunk)
    (hspan : Span bytes limit cursor chunk) :
    Returns (readMany read items.length cursor) (items, cursor + chunk.length) := by
  obtain ⟨chunks, hall, rfl⟩ := hwire
  induction hall generalizing cursor with
  | nil => exact returns_pure _
  | @cons item c items chunks hitem _ ih =>
    rw [List.flatten_cons] at hspan ⊢
    obtain ⟨hfirst, hrest⟩ := span_append.mp hspan
    rw [List.length_append, ← Nat.add_assoc]
    exact Returns.bind (h item c cursor hitem hfirst)
      (Returns.bind (ih (cursor + c.length) hrest) (returns_pure _))

theorem consumes_readMany (h : Consumes l bytes limit read wire) (n cursor : Nat)
    (hcursor : cursor ≤ limit) :
    Safe l (readMany read n cursor) fun r =>
      Took bytes limit cursor (WireAll wire) r ∧ r.1.length = n := by
  induction n generalizing cursor with
  | zero =>
    refine safe_pure ⟨⟨[], ⟨[], List.Forall₂.nil, rfl⟩, Span.nil hcursor, rfl⟩, rfl⟩
  | succ n ih =>
    refine Safe.bind (h cursor hcursor) fun r hr => ?_
    obtain ⟨item, next⟩ := r
    refine Safe.bind (ih next hr.le) fun rest hrest => ?_
    obtain ⟨items, last⟩ := rest
    obtain ⟨chunk, hwire, hspan, rfl⟩ := hr
    obtain ⟨⟨tail, ⟨chunks, hall, rfl⟩, htail, rfl⟩, hn⟩ := hrest
    refine safe_pure ⟨⟨chunk ++ chunks.flatten, ⟨chunk :: chunks, ?_, rfl⟩, ?_, ?_⟩, ?_⟩
    · exact List.Forall₂.cons hwire hall
    · exact span_append.mpr ⟨hspan, htail⟩
    · rw [List.length_append, Nat.add_assoc]
    · rw [List.length_cons, hn]

/-! ### Loops over fixed-size items -/

section FixedSize

variable {cursor k n : Nat} {items : List α} {form : α → List UInt8}
    {item : Nat → Loader ε α}

/-- Items of `k` bytes each lie at the multiples of `k`. -/
theorem span_flatMap (hk : ∀ a, (form a).length = k) (hcursor : cursor ≤ limit) :
    Span bytes limit cursor (items.flatMap form) ↔
      ∀ (i : Nat) (a : α), items[i]? = some a →
        Span bytes limit (cursor + i * k) (form a) := by
  have hlen : ∀ c ∈ items.map form, c.length = k := by
    intro c hc
    obtain ⟨a, _, rfl⟩ := List.mem_map.mp hc
    exact hk a
  rw [List.flatMap_def, span_flatten hlen hcursor]
  simp only [List.getElem?_map, Option.map_eq_some_iff]
  constructor
  · intro h i a ha
    exact h i (form a) ⟨a, ha, rfl⟩
  · rintro h i _ ⟨a, ha, rfl⟩
    exact h i a ha

variable (bytes form) in
/-- The loop that reads the item `i` at `cursor + i * k`. -/
theorem safe_rangeLoop (hk : ∀ a, (form a).length = k) (hcursor : cursor ≤ limit)
    (h : ∀ i, i < n → Safe l (item i) fun a => Span bytes limit (cursor + i * k) (form a)) :
    Safe l ((List.range n).mapM item) fun items =>
      items.length = n ∧ Span bytes limit cursor (items.flatMap form) := by
  refine (safe_mapM fun i hi => h i (List.mem_range.mp hi)).weaken fun items hall => ?_
  have hlength : items.length = n := by rw [← hall.length_eq, List.length_range]
  refine ⟨hlength, (span_flatMap hk hcursor).mpr fun i a ha => ?_⟩
  obtain ⟨hi, rfl⟩ := List.getElem?_eq_some_iff.mp ha
  have hget := hall.get (by rw [List.length_range]; omega) hi
  rwa [List.get_eq_getElem, List.getElem_range, List.get_eq_getElem] at hget

variable (form) in
theorem returns_rangeLoop (hk : ∀ a, (form a).length = k)
    (hspan : Span bytes limit cursor (items.flatMap form))
    (h : ∀ (i : Nat) (a : α), Span bytes limit (cursor + i * k) (form a) →
      Returns (item i) a) :
    Returns ((List.range items.length).mapM item) items := by
  refine returns_mapM (List.forall₂_iff_get.mpr ⟨List.length_range, fun i _ hi => ?_⟩)
  rw [List.get_eq_getElem, List.getElem_range, List.get_eq_getElem]
  exact h i items[i] ((span_flatMap hk hspan.start_le).mp hspan i _ (List.getElem?_eq_getElem hi))

end FixedSize

end Readers

end Loading
