import DagMlData.TargetValues

/-!
# Values of a target table

`validate_values` accepts the tables whose values have one width and one kind. The source compares
the width of each value with the width of the first one, the kinds through a flag for the whole
table, and the items of a vector with its first item. `Homogeneous` speaks of all rows and all
scalars at once.

* `validateValues_eq_ok`: the values of an accepted table have one shape.
* `validateValues_accepts_iff`: this is a homogeneous table, and an offending row or scalar is
  refused wherever it stands.
-/

namespace DagMlData

open Guard RustText

/-! ## What a value holds -/

/-- The scalars of a target value: the items of a vector, or the value itself. -/
def targetScalars : Json → List Json
  | .array items => items
  | value => [value]

/-- The length of a vector, nothing for a scalar. -/
def targetWidth : Json → Option Nat
  | .array items => some items.length
  | _ => none

namespace Json

def IsNumber (j : Json) : Prop := ∃ n, j = .number n

/-- A string that is not blank. -/
def IsLabel (j : Json) : Prop := ∃ label, j = .string label ∧ isBlank label = false

end Json

namespace CoordinatorTargetTable

/-- Every value is a scalar or every value is a vector of one length, and the scalars are numbers
or they are labels. -/
structure Homogeneous (table : CoordinatorTargetTable) : Prop where
  width : (∀ entry ∈ table.values, ∀ items, entry.value ≠ .array items) ∨
    ∃ width, width ≠ 0 ∧ ∀ entry ∈ table.values,
      ∃ items, entry.value = .array items ∧ items.length = width
  kind : (∀ entry ∈ table.values, ∀ scalar ∈ targetScalars entry.value, scalar.IsNumber) ∨
    ∀ entry ∈ table.values, ∀ scalar ∈ targetScalars entry.value, scalar.IsLabel

end CoordinatorTargetTable

/-! ## Shapes -/

/-- The scalars of a kind. -/
def TargetValueKind.Holds : TargetValueKind → Json → Prop
  | .number, scalar => scalar.IsNumber
  | .label, scalar => scalar.IsLabel

theorem targetScalarKind_eq_ok {scalar : Json} {kind : TargetValueKind} :
    targetScalarKind scalar = .ok kind ↔ kind.Holds scalar := by
  cases scalar with
  | number n => cases kind <;> simp [targetScalarKind, TargetValueKind.Holds, Json.IsNumber,
      Json.IsLabel]
  | string label =>
    cases hblank : isBlank label <;> cases kind <;>
      simp [targetScalarKind, TargetValueKind.Holds, Json.IsNumber, Json.IsLabel, hblank]
  | null | bool | array | object =>
    cases kind <;> simp [targetScalarKind, TargetValueKind.Holds, Json.IsNumber, Json.IsLabel]

/-- A vector has a shape when it has an item and all items are of the kind of the first one. -/
theorem targetValueShape_array_eq_ok {items : List Json} {shape : TargetValueShape} :
    targetValueShape (.array items) = .ok shape ↔
      items ≠ [] ∧ shape.width = some items.length ∧
        ∀ item ∈ items, shape.kind.Holds item := by
  cases items with
  | nil => simp [targetValueShape]
  | cons first items =>
    obtain ⟨kind, width⟩ := shape
    simp only [targetValueShape, bind_eq_ok, forM_eq_ok, exists_unit, rejectIf_eq_ok, pure_eq_ok,
      targetScalarKind_eq_ok, bne_eq_false_iff_eq, TargetValueShape.mk.injEq,
      List.forall_mem_cons, List.length_cons]
    constructor
    · rintro ⟨_, hfirst, hitems, rfl, rfl⟩
      refine ⟨List.cons_ne_nil _ _, rfl, hfirst, fun item hitem => ?_⟩
      obtain ⟨_, hkind, rfl⟩ := hitems item hitem
      exact hkind
    · rintro ⟨-, rfl, hfirst, hitems⟩
      exact ⟨kind, hfirst, fun item hitem => ⟨kind, hitems item hitem, rfl⟩, rfl, rfl⟩

/-- What it takes for a value to have the shape. -/
theorem targetValueShape_eq_ok {value : Json} {shape : TargetValueShape} :
    targetValueShape value = .ok shape ↔
      shape.width = targetWidth value ∧ targetWidth value ≠ some 0 ∧
        ∀ scalar ∈ targetScalars value, shape.kind.Holds scalar := by
  obtain ⟨kind, width⟩ := shape
  cases value with
  | array items =>
    have hlength : some items.length ≠ some 0 ↔ items ≠ [] := by
      rw [ne_eq, Option.some.injEq, List.length_eq_zero_iff]
    rw [targetValueShape_array_eq_ok, targetWidth, targetScalars, hlength]
    exact and_left_comm
  | null | bool | number | string | object =>
    simp only [targetValueShape, bind_eq_ok, pure_eq_ok, targetScalarKind_eq_ok, targetWidth,
      targetScalars, TargetValueShape.mk.injEq, List.forall_mem_singleton, ne_eq, reduceCtorEq,
      not_false_eq_true, true_and]
    constructor
    · rintro ⟨_, hkind, rfl, rfl⟩
      exact ⟨rfl, hkind⟩
    · rintro ⟨rfl, hkind⟩
      exact ⟨kind, hkind, rfl, rfl⟩

namespace CoordinatorTargetTable

variable {table : CoordinatorTargetTable}

theorem validateShape_eq_ok {numeric : Bool} {first entry : CoordinatorTargetValue}
    {firstShape shape : TargetValueShape} {u : Unit} :
    table.validateShape numeric first firstShape entry shape = .ok u ↔
      (numeric = true → shape.kind = .number) ∧ shape.width = firstShape.width := by
  obtain ⟨kind, width⟩ := shape
  cases numeric <;> cases kind <;> simp [validateShape]

theorem mapError_eq_ok {entry : CoordinatorTargetValue} {shape : TargetValueShape} :
    (targetValueShape entry.value).mapError (table.valueError entry) = .ok shape ↔
      targetValueShape entry.value = .ok shape := by
  cases targetValueShape entry.value with
  | ok => simp [Except.mapError]
  | error => simp [Except.mapError]

/-- The kind that the flag of the table stands for. -/
def flagKind (numeric : Bool) : TargetValueKind := if numeric then .number else .label

/-- A list of shapes passes the flag and the width of the first shape when all are one shape. -/
theorem shapes_eq {shapes : List TargetValueShape} {width : Option Nat}
    (h : ∀ shape ∈ shapes, ((shapes.any fun shape => shape.kind == .number) = true →
      shape.kind = .number) ∧ shape.width = width) {shape : TargetValueShape}
    (hshape : shape ∈ shapes) :
    shape = ⟨flagKind (shapes.any fun shape => shape.kind == .number), width⟩ := by
  obtain ⟨hkind, hwidth⟩ := h shape hshape
  obtain ⟨kind, shapeWidth⟩ := shape
  cases hwidth
  cases hnumeric : shapes.any fun shape => shape.kind == .number with
  | true =>
    have hnumber : kind = .number := hkind hnumeric
    rw [hnumber]
    rfl
  | false =>
    have hlabel := List.any_eq_false.mp hnumeric _ hshape
    cases kind with
    | label => rfl
    | number => exact absurd rfl hlabel

/-- The values of an accepted table have one shape. -/
theorem validateValues_eq_ok : table.validateValues = .ok () ↔
    table.validate = .ok () ∧
      ∃ shape, ∀ entry ∈ table.values, targetValueShape entry.value = .ok shape := by
  unfold validateValues
  rw [bind_eq_ok, exists_unit]
  refine and_congr_right fun hvalid => ?_
  obtain ⟨first, rest, hvalues⟩ := List.exists_cons_of_ne_nil (validate_eq_ok.mp hvalid).1
  simp only [bind_eq_ok, mapM_eq_ok, mapError_eq_ok]
  constructor
  · rintro ⟨shapes, hshapes, hchecks⟩
    rw [hvalues] at hshapes hchecks ⊢
    cases hshapes with
    | @cons _ firstShape _ shapes hfirst hrest =>
      have hall : List.Forall₂ (fun entry shape => targetValueShape entry.value = .ok shape)
          (first :: rest) (firstShape :: shapes) := .cons hfirst hrest
      have hpairs := forM_eq_ok.mp hchecks
      have hflag : ∀ shape ∈ firstShape :: shapes,
          (((firstShape :: shapes).any fun shape => shape.kind == .number) = true →
            shape.kind = .number) ∧ shape.width = firstShape.width := by
        intro shape hshape
        rw [← List.map_snd_zip (Nat.le_of_eq hall.length_eq.symm), List.mem_map] at hshape
        obtain ⟨pair, hpair, rfl⟩ := hshape
        exact validateShape_eq_ok.mp (hpairs pair hpair)
      refine ⟨⟨flagKind ((firstShape :: shapes).any fun shape => shape.kind == .number),
        firstShape.width⟩, fun entry hentry => ?_⟩
      obtain ⟨shape, hmem, hshape⟩ := exists_right_of_forall₂ hall hentry
      rw [hshape, shapes_eq hflag hmem]
  · rintro ⟨shape, hshape⟩
    refine ⟨table.values.map fun _ => shape, ?_, ?_⟩
    · rw [List.forall₂_map_right_iff, List.forall₂_same]
      exact hshape
    · rw [hvalues]
      refine forM_eq_ok.mpr fun pair hpair => ?_
      obtain ⟨_, -, hpairShape⟩ := List.mem_map.mp (List.of_mem_zip hpair).2
      rw [validateShape_eq_ok, ← hpairShape]
      refine ⟨fun hnumeric => ?_, rfl⟩
      obtain ⟨other, hother, hnumber⟩ := List.any_eq_true.mp hnumeric
      obtain ⟨_, -, rfl⟩ := List.mem_map.mp hother
      exact beq_iff_eq.mp hnumber

/-- A shape that all values have, said by their widths and their scalars. -/
theorem homogeneous_iff (hne : table.values ≠ []) : table.Homogeneous ↔
    ∃ shape, ∀ entry ∈ table.values, targetValueShape entry.value = .ok shape := by
  simp only [targetValueShape_eq_ok]
  constructor
  · rintro ⟨hwidth, hkind⟩
    -- The width is one for all entries, and the kind does not depend on it.
    have hsame : ∃ width, ∀ entry ∈ table.values,
        width = targetWidth entry.value ∧ targetWidth entry.value ≠ some 0 := by
      rcases hwidth with hscalar | ⟨width, hpositive, hvector⟩
      · refine ⟨none, fun entry hentry => ?_⟩
        have hnone : targetWidth entry.value = none := by
          cases hvalue : entry.value with
          | array items => exact absurd hvalue (hscalar entry hentry items)
          | null | bool | number | string | object => rfl
        exact ⟨hnone.symm, by simp [hnone]⟩
      · refine ⟨some width, fun entry hentry => ?_⟩
        obtain ⟨items, hitems, rfl⟩ := hvector entry hentry
        rw [hitems]
        exact ⟨rfl, fun hzero => hpositive (Option.some.inj hzero)⟩
    obtain ⟨width, hwidth⟩ := hsame
    rcases hkind with hnumber | hlabel
    · exact ⟨⟨.number, width⟩, fun entry hentry =>
        ⟨(hwidth entry hentry).1, (hwidth entry hentry).2, hnumber entry hentry⟩⟩
    · exact ⟨⟨.label, width⟩, fun entry hentry =>
        ⟨(hwidth entry hentry).1, (hwidth entry hentry).2, hlabel entry hentry⟩⟩
  · rintro ⟨⟨kind, width⟩, hshape⟩
    constructor
    · cases width with
      | none =>
        refine .inl fun entry hentry items hvalue => ?_
        obtain ⟨hwidth, -⟩ := hshape entry hentry
        rw [hvalue] at hwidth
        cases hwidth
      | some width =>
        refine .inr ⟨width, ?_, fun entry hentry => ?_⟩
        · obtain ⟨entry, hentry⟩ := List.exists_mem_of_ne_nil _ hne
          obtain ⟨hwidth, hpositive, -⟩ := hshape entry hentry
          rintro rfl
          exact hpositive hwidth.symm
        · obtain ⟨hwidth, -⟩ := hshape entry hentry
          cases hvalue : entry.value with
          | array items =>
            rw [hvalue] at hwidth
            exact ⟨items, rfl, (Option.some.inj hwidth).symm⟩
          | null | bool | number | string | object =>
            rw [hvalue] at hwidth
            cases hwidth
    · cases kind with
      | number => exact .inl fun entry hentry => (hshape entry hentry).2.2
      | label => exact .inr fun entry hentry => (hshape entry hentry).2.2

/-! ## Offending rows -/

namespace Homogeneous

variable {entry other : CoordinatorTargetValue} {scalar : Json}

theorem number_or_label (h : table.Homogeneous) (hentry : entry ∈ table.values)
    (hscalar : scalar ∈ targetScalars entry.value) : scalar.IsNumber ∨ scalar.IsLabel :=
  h.kind.imp (fun hall => hall entry hentry scalar hscalar)
    fun hall => hall entry hentry scalar hscalar

theorem not_mixed (h : table.Homogeneous) (hentry : entry ∈ table.values)
    (hother : other ∈ table.values) {n : JsonNumber} {s : String}
    (hnumber : .number n ∈ targetScalars entry.value)
    (hstring : .string s ∈ targetScalars other.value) : False := by
  rcases h.kind with hnumbers | hlabels
  · obtain ⟨_, hcontra⟩ := hnumbers other hother _ hstring
    cases hcontra
  · obtain ⟨_, hcontra, -⟩ := hlabels entry hentry _ hnumber
    cases hcontra

theorem targetWidth_eq (h : table.Homogeneous) (hentry : entry ∈ table.values)
    (hother : other ∈ table.values) : targetWidth entry.value = targetWidth other.value := by
  obtain ⟨shape, hshape⟩ := (homogeneous_iff (List.ne_nil_of_mem hentry)).mp h
  rw [← (targetValueShape_eq_ok.mp (hshape entry hentry)).1,
    ← (targetValueShape_eq_ok.mp (hshape other hother)).1]

end Homogeneous

/-- The tables that serve a single target: there is a row, no sample occurs twice, and the values
are homogeneous. A scalar of another kind than number or label, a number beside a string and two
rows of different widths are refused, in whatever rows and at whatever places. -/
theorem validateValues_accepts_iff (table : CoordinatorTargetTable) :
    (table.validateValues = .ok () ↔
      table.values ≠ [] ∧ (table.values.map (·.sampleId)).Nodup ∧ table.Homogeneous) ∧
    (∀ entry ∈ table.values, ∀ scalar ∈ targetScalars entry.value,
      ¬ (scalar.IsNumber ∨ scalar.IsLabel) → ∃ e, table.validateValues = .error e) ∧
    (∀ entry ∈ table.values, ∀ other ∈ table.values, ∀ (n : JsonNumber) (s : String),
      .number n ∈ targetScalars entry.value → .string s ∈ targetScalars other.value →
        ∃ e, table.validateValues = .error e) ∧
    ∀ entry ∈ table.values, ∀ other ∈ table.values,
      targetWidth entry.value ≠ targetWidth other.value →
        ∃ e, table.validateValues = .error e := by
  have haccepts : table.validateValues = .ok () ↔
      table.values ≠ [] ∧ (table.values.map (·.sampleId)).Nodup ∧ table.Homogeneous := by
    rw [validateValues_eq_ok, validate_eq_ok, and_assoc]
    exact and_congr_right fun hne => and_congr_right fun _ => (homogeneous_iff hne).symm
  have hrefuses : ¬ table.Homogeneous → ∃ e, table.validateValues = .error e := by
    intro hnot
    rcases ok_or_error table.validateValues with hok | herror
    · exact absurd (haccepts.mp hok).2.2 hnot
    · exact herror
  refine ⟨haccepts, ?_, ?_, ?_⟩
  · exact fun entry hentry scalar hscalar hnot =>
      hrefuses fun h => hnot (h.number_or_label hentry hscalar)
  · exact fun entry hentry other hother n s hnumber hstring =>
      hrefuses fun h => h.not_mixed hentry hother hnumber hstring
  · exact fun entry hentry other hother hne =>
      hrefuses fun h => hne (h.targetWidth_eq hentry hother)

/-- Two rows of two numbers, with the last one as given. -/
def matrixTable (last : Json) : CoordinatorTargetTable :=
  ⟨.lit "A" rfl, [⟨.lit "s1" rfl,
    .array [.number (.int 1), .number (.int 2)]⟩,
    ⟨.lit "s9" rfl, .array [.number (.int 3), last]⟩]⟩

/-- A null is refused in the last place of the last row. -/
theorem validateValues_accepts_iff_matrix :
    ∃ e, (matrixTable .null).validateValues = .error e := by
  refine (validateValues_accepts_iff (matrixTable .null)).2.1 _
    (List.mem_cons_of_mem _ List.mem_cons_self) .null
    (List.mem_cons_of_mem _ List.mem_cons_self) ?_
  rintro (⟨_, hnumber⟩ | ⟨_, hlabel, -⟩)
  · cases hnumber
  · cases hlabel

end CoordinatorTargetTable

end DagMlData
