import DagMlData.FoldLeakage
import DagMlData.Lib.Chain

/-!
# Chains of origins

`SampleRelationTable.validate` refuses a row that is its own origin, and nothing longer: two
augmented rows can be each other's origin. `origins_end_iff` says of which accepted tables the
origins of every augmented row end.
-/

namespace DagMlData

open Guard Chain

/-- The row that is the origin of the row. -/
def SampleRelationTable.originRow (table : SampleRelationTable) (row : SampleRelation) :
    Option SampleRelation :=
  row.originId.bind fun originId =>
    table.rows.find? fun origin => origin.observationId.value == originId.value

/-- Following origin links from the row comes to no row twice, and to one that is not augmented. -/
def SampleRelationTable.OriginsEnd (table : SampleRelationTable) (row : SampleRelation) : Prop :=
  NeverReturns table.originRow row ∧
    ∃ n last, follow table.originRow n row = some last ∧ last.augmented = false

/-- The rows can be listed so that every row comes after its origin. -/
def SampleRelationTable.OriginsFirst (table : SampleRelationTable) : Prop :=
  ∃ order : List SampleRelation, order.Perm table.rows ∧ TargetsFirst table.originRow order

namespace SampleRelationTable

variable {table : SampleRelationTable} {row : SampleRelation}

theorem originRow_mem {origin : SampleRelation} (h : table.originRow row = some origin) :
    origin ∈ table.rows := by
  obtain ⟨originId, -, hfind⟩ := Option.bind_eq_some_iff.mp h
  exact List.mem_of_find?_eq_some hfind

/-- In a valid table the rows without an origin are those that are not augmented. -/
theorem Valid.originRow_eq_none (h : table.Valid) (hrow : row ∈ table.rows) :
    table.originRow row = none ↔ row.augmented = false := by
  rw [h.augmented_iff_origin row hrow]
  cases ho : row.originId with
  | none => simp [originRow, ho]
  | some originId =>
    obtain ⟨origin, horigin, heq⟩ := h.origin_present row hrow originId ho
    simp only [originRow, ho, Option.bind_some, Option.isSome_some, Bool.true_eq_false, iff_false,
      List.find?_eq_none]
    exact fun hnone => hnone origin horigin (by simp [heq])

theorem Valid.originRow_ne_self (h : table.Valid) (hrow : row ∈ table.rows) :
    table.originRow row ≠ some row := by
  intro hself
  obtain ⟨originId, ho, hfind⟩ := Option.bind_eq_some_iff.mp hself
  have hsame := List.find?_some hfind
  exact h.not_own_origin row hrow originId ho (beq_iff_eq.mp hsame).symm

theorem follow_mem (hrow : row ∈ table.rows) {n : Nat} {last : SampleRelation}
    (h : follow table.originRow n row = some last) : last ∈ table.rows := by
  induction n generalizing row with
  | zero => cases h; exact hrow
  | succ n ih =>
    obtain ⟨origin, horigin, hrest⟩ := Option.bind_eq_some_iff.mp h
    exact ih (originRow_mem horigin) hrest

theorem Valid.originsEnd_iff (h : table.Valid) (hrow : row ∈ table.rows) :
    table.OriginsEnd row ↔ Ends table.originRow row := by
  constructor
  · rintro ⟨-, n, last, hlast, hplain⟩
    exact ends_of_last hlast ((h.originRow_eq_none (follow_mem hrow hlast)).mpr hplain)
  · intro hends
    obtain ⟨n, last, hlast, hnone⟩ := hends.exists_last
    exact ⟨hends.neverReturns, n, last, hlast,
      (h.originRow_eq_none (follow_mem hrow hlast)).mp hnone⟩

/-- In an accepted table the origins of every augmented row end exactly when the rows can be listed
so that every row comes after its origin. -/
theorem origins_end_iff (h : table.validate = .ok ()) :
    (∀ row ∈ table.rows, row.augmented = true → table.OriginsEnd row) ↔
      table.OriginsFirst := by
  have hvalid := valid_of_validate h
  rw [OriginsFirst, ← ends_iff_exists_order (fun _ _ _ => originRow_mem)
    fun _ hrow => hvalid.originRow_ne_self hrow]
  refine forall₂_congr fun row hrow => ?_
  rw [hvalid.originsEnd_iff hrow]
  cases haugmented : row.augmented with
  | true => exact ⟨fun hends => hends rfl, fun hends _ => hends⟩
  | false =>
    have hends := ends_of_next_eq_none ((hvalid.originRow_eq_none hrow).mpr haugmented)
    exact ⟨fun _ => hends, fun _ _ => hends⟩

/-- Where no origin is augmented itself, every row can come after its origin. -/
theorem Valid.originsFirst_of_plain_origins (h : table.Valid)
    (hplain : ∀ row ∈ table.rows, ∀ origin, table.originRow row = some origin →
      origin.augmented = false) : table.OriginsFirst := by
  refine exists_order fun row hrow => ?_
  cases horigin : table.originRow row with
  | none => exact ends_of_next_eq_none horigin
  | some origin =>
    refine (ends_iff_of_next_eq_some horigin).mpr (ends_of_next_eq_none ?_)
    exact (h.originRow_eq_none (originRow_mem horigin)).mpr (hplain row hrow origin horigin)

end SampleRelationTable

theorem chainRelations_origins_end :
    (∀ row ∈ chainRelations.rows, row.augmented = true → chainRelations.OriginsEnd row) ↔
      chainRelations.OriginsFirst :=
  SampleRelationTable.origins_end_iff (by decide +kernel)

/-- Two augmented rows, each the origin of the other. -/
def mutualRelations : SampleRelationTable where
  rows :=
    [lineageRow (.lit "A" rfl) (.lit "oA" rfl) (some (.lit "oB" rfl)),
      lineageRow (.lit "B" rfl) (.lit "oB" rfl) (some (.lit "oA" rfl))]

/-- The table is accepted, and the origins of its rows never end. -/
theorem mutualRelations_never_end :
    mutualRelations.validate = .ok () ∧
      ¬ ∀ row ∈ mutualRelations.rows, row.augmented = true →
        mutualRelations.OriginsEnd row := by
  refine ⟨by decide +kernel, fun h => ?_⟩
  obtain ⟨hnever, -⟩ := h _ List.mem_cons_self rfl
  exact absurd (hnever 0 2 _ rfl rfl) (by decide)

end DagMlData
