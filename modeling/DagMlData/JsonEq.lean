import DagMlData.Json

/-!
# Equality of JSON values

`Json.eq` is transitive. It is reflexive on the values that a `serde_json::Value` can be:
`Json.Fits`.
-/

namespace DagMlData

theorem JsonNumber.eq_trans {a b c : JsonNumber} (hab : a.eq b = true) (hbc : b.eq c = true) :
    a.eq c = true := by
  cases a <;> cases b <;> cases c <;>
    simp only [JsonNumber.eq, F64.eq, Bool.false_eq_true, beq_iff_eq, Bool.and_eq_true,
      Bool.not_eq_true', Bool.or_eq_true] at hab hbc ⊢
  · exact hab.trans hbc
  · obtain ⟨⟨hx, -⟩, hxy⟩ := hab
    obtain ⟨⟨-, hz⟩, hyz⟩ := hbc
    refine ⟨⟨hx, hz⟩, ?_⟩
    rcases hxy with rfl | ⟨hx, hy⟩
    · exact hyz
    · rcases hyz with rfl | ⟨-, hz⟩
      · exact .inr ⟨hx, hy⟩
      · exact .inr ⟨hx, hz⟩

theorem JsonNumber.Fits.eq_self {n : JsonNumber} (h : n.Fits) : n.eq n = true := by
  cases n with
  | int n => simp [JsonNumber.eq]
  | float x =>
    have hfinite : x.isFinite = true := h
    simp only [F64.isFinite, bne_iff_ne, ne_eq] at hfinite
    simp [JsonNumber.eq, F64.eq, F64.isNan, hfinite]

namespace Json

/-- An equal value is found again under the same key. -/
theorem lookup_of_eqFields {gs hs : List (String × Json)} {k : String} {w : Json}
    (h : eqFields gs hs = true) (hget : gs.lookup k = some w) :
    ∃ u, hs.lookup k = some u ∧ eq w u = true := by
  induction gs with
  | nil => cases hget
  | cons g gs ih =>
    obtain ⟨key, value⟩ := g
    rw [eqFields, Bool.and_eq_true] at h
    rw [List.lookup_cons] at hget
    by_cases hkey : k == key
    · rw [hkey] at hget
      cases hget
      rw [beq_iff_eq.mp hkey]
      cases hlookup : hs.lookup key with
      | none => rw [hlookup] at h; exact absurd h.1 (by simp)
      | some u => rw [hlookup] at h; exact ⟨u, rfl, h.1⟩
    · rw [Bool.eq_false_of_not_eq_true hkey] at hget
      exact ih h.2 hget

mutual

theorem eq_trans : ∀ {a b c : Json}, eq a b = true → eq b c = true → eq a c = true
  | .null, b, c, hab, hbc => by
    cases b <;> simp only [eq, Bool.false_eq_true] at hab
    exact hbc
  | .bool x, b, c, hab, hbc => by
    cases b <;> simp only [eq, Bool.false_eq_true, beq_iff_eq] at hab
    subst hab
    exact hbc
  | .number m, b, c, hab, hbc => by
    cases b <;> simp only [eq, Bool.false_eq_true] at hab
    cases c <;> simp only [eq, Bool.false_eq_true] at hbc
    exact JsonNumber.eq_trans hab hbc
  | .string s, b, c, hab, hbc => by
    cases b <;> simp only [eq, Bool.false_eq_true, beq_iff_eq] at hab
    subst hab
    exact hbc
  | .array xs, b, c, hab, hbc => by
    cases b <;> simp only [eq, Bool.false_eq_true] at hab
    cases c <;> simp only [eq, Bool.false_eq_true] at hbc
    exact eqItems_trans hab hbc
  | .object fs, b, c, hab, hbc => by
    cases b <;> simp only [eq, Bool.false_eq_true, Bool.and_eq_true, beq_iff_eq] at hab
    cases c <;> simp only [eq, Bool.false_eq_true, Bool.and_eq_true, beq_iff_eq] at hbc
    simp only [eq, Bool.and_eq_true, beq_iff_eq]
    exact ⟨hab.1.trans hbc.1, eqFields_trans hab.2 hbc.2⟩

theorem eqItems_trans : ∀ {xs ys zs : List Json}, eqItems xs ys = true →
    eqItems ys zs = true →
    eqItems xs zs = true
  | [], ys, zs, hab, hbc => by
    cases ys <;> simp only [eqItems, Bool.false_eq_true] at hab
    exact hbc
  | x :: xs, ys, zs, hab, hbc => by
    cases ys <;> simp only [eqItems, Bool.false_eq_true, Bool.and_eq_true] at hab
    cases zs <;> simp only [eqItems, Bool.false_eq_true, Bool.and_eq_true] at hbc
    simp only [eqItems, Bool.and_eq_true]
    exact ⟨eq_trans hab.1 hbc.1, eqItems_trans hab.2 hbc.2⟩

theorem eqFields_trans : ∀ {fs gs hs : List (String × Json)}, eqFields fs gs = true →
    eqFields gs hs = true → eqFields fs hs = true
  | [], _, _, _, _ => rfl
  | (k, v) :: fs, gs, hs, hab, hbc => by
    rw [eqFields, Bool.and_eq_true] at hab ⊢
    refine ⟨?_, eqFields_trans hab.2 hbc⟩
    cases hget : gs.lookup k with
    | none => rw [hget] at hab; exact absurd hab.1 (by simp)
    | some w =>
      rw [hget] at hab
      obtain ⟨u, hu, hwu⟩ := lookup_of_eqFields hbc hget
      rw [hu]
      exact eq_trans hab.1 hwu

end

/-! ## The values of `serde_json` -/

mutual

/-- What a `serde_json::Value` holds: numbers that fit, and no key of an object twice. -/
def Fits : Json → Prop
  | .number n => n.Fits
  | .array items => FitsItems items
  | .object fields => (fields.map Prod.fst).Nodup ∧ FitsFields fields
  | _ => True

def FitsItems : List Json → Prop
  | [] => True
  | item :: items => Fits item ∧ FitsItems items

def FitsFields : List (String × Json) → Prop
  | [] => True
  | (_, value) :: fields => Fits value ∧ FitsFields fields

end

/-- A field is found by its key. -/
theorem lookup_of_mem {fields : List (String × Json)} (hnodup : (fields.map Prod.fst).Nodup)
    {k : String} {v : Json} (h : (k, v) ∈ fields) : fields.lookup k = some v := by
  induction fields with
  | nil => cases h
  | cons f fields ih =>
    obtain ⟨key, value⟩ := f
    obtain ⟨hnew, hnodup⟩ := List.nodup_cons.mp hnodup
    rw [List.lookup_cons]
    rcases List.mem_cons.mp h with heq | hmem
    · cases heq
      rw [beq_self_eq_true]
    · have hne : (k == key) = false := by
        rw [beq_eq_false_iff_ne]
        rintro rfl
        exact hnew (List.mem_map.mpr ⟨_, hmem, rfl⟩)
      rw [hne]
      exact ih hnodup hmem

mutual

theorem Fits.eq_self : ∀ {j : Json}, j.Fits → eq j j = true
  | .null, _ => rfl
  | .bool b, _ => by simp [eq]
  | .number n, h => by
    rw [Fits] at h
    exact h.eq_self
  | .string s, _ => by simp [eq]
  | .array items, h => by
    rw [Fits] at h
    exact eqItems_self h
  | .object fields, h => by
    rw [Fits] at h
    simp only [eq, beq_self_eq_true, Bool.true_and]
    exact eqFields_self h.2 fun k v hmem => lookup_of_mem h.1 hmem

theorem eqItems_self : ∀ {items : List Json}, FitsItems items → eqItems items items = true
  | [], _ => rfl
  | item :: items, h => by
    rw [FitsItems] at h
    rw [eqItems, Bool.and_eq_true]
    exact ⟨Fits.eq_self h.1, eqItems_self h.2⟩

theorem eqFields_self : ∀ {fields all : List (String × Json)}, FitsFields fields →
    (∀ k v, (k, v) ∈ fields → all.lookup k = some v) → eqFields fields all = true
  | [], _, _, _ => rfl
  | (k, v) :: fields, all, h, hget => by
    rw [FitsFields] at h
    rw [eqFields, hget k v List.mem_cons_self, Bool.and_eq_true]
    exact ⟨Fits.eq_self h.1,
      eqFields_self h.2 fun k v hmem => hget k v (List.mem_cons_of_mem _ hmem)⟩

end

end Json

end DagMlData
