import DagMlData.Lib.Tiling
import DagMlData.TensorCopy

/-!
# Panics at the C ABI

Whether `borrowed_tensor_view_to_input` always returns on a view whose pointers are readable. All
sizes, spans and offsets are checked before the unchecked arithmetic reaches them, so only a vector
that is not granted can stop it. The capacity of the strided copy is not checked: with overlapping
strides a few bytes describe more elements than any vector can have, or than there is memory for.

* `borrowedTensorViewToInput_safe_iff`: the function returns exactly when every vector that it asks
  for (`Requests`) is granted.
-/

namespace DagMlData

open Guard RustText Unchecked BufferFile

/-! ## Panics -/

/-- The `len` items of `size` bytes that a view declares behind a pointer can be read. No object
of a program has more than `isize::MAX` bytes. -/
def Pointer.Readable {α : Type} (ptr : Pointer α) (size len : Nat) : Prop :=
  ∀ readable, ptr = some readable → len ≤ readable.length ∧ len * size ≤ isizeMax

/-- The views behind a pointer can be read, and the bytes of each of them. -/
def Pointer.ReadableViews (ptr : Pointer DagMlDataBytesView) (len : Nat) : Prop :=
  ptr.Readable 16 len ∧
    ∀ readable, ptr = some readable →
      ∀ view ∈ readable.take len, view.ptr.Readable 1 view.len

/-- Every pointer of the view is readable for the length that the view declares. -/
structure DagMlDataBorrowedTensorView.Readable (view : DagMlDataBorrowedTensorView) : Prop where
  tensorId : view.tensorId.ptr.Readable 1 view.tensorId.len
  representationId : view.representationId.ptr.Readable 1 view.representationId.len
  container : view.container.ptr.Readable 1 view.container.len
  data : ∀ data, view.data = some data → view.dataLen ≤ data.length
  shape : view.shape.Readable 8 view.rank
  stridesBytes : view.stridesBytes.Readable 8 view.rank
  observationIds : view.observationIds.ReadableViews view.idsLen
  sampleIds : view.sampleIds.ReadableViews view.idsLen
  rowPresenceMask : view.rowPresenceMask.Readable 1 view.rowPresenceLen

theorem not_panics_readSlice {α : Type} {size len : Nat} {readable : List α}
    (h : len ≤ readable.length ∧ len * size ≤ isizeMax) :
      ¬ Panics (readSlice size readable len) :=
  fun hpanics => panics_fromRawParts.mp hpanics h

@[simp] theorem panics_reserveBytes [TensorAllocator] {count : Nat} :
    Panics (reserveBytes count) ↔ ¬ Granted count := by
  simp [reserveBytes]

theorem not_panics_refusal {α : Type} {o : Option α} {detail : String} :
    ¬ Panics (require o (refusal detail)) :=
  not_panics_require

theorem not_panics_rejectIf_refusal {bad : Bool} {detail : String} :
    ¬ Panics (rejectIf bad (refusal detail)) :=
  not_panics_rejectIf

section Strings
variable [Machine]

theorem not_panics_bytesViewToString {view : DagMlDataBytesView} {label : String}
    (h : view.ptr.Readable 1 view.len) : ¬ Panics (bytesViewToString view label) := by
  simp only [bytesViewToString, panics_bind, not_panics_refusal, false_or, not_exists, not_and,
    require_eq_ok]
  rintro readable hptr (hpanics | ⟨raw, -, hpanics⟩)
  · exact not_panics_readSlice (h readable hptr) hpanics
  · exact hpanics

theorem not_panics_bytesViewArrayToStrings {ptr : Pointer DagMlDataBytesView} {len : Nat}
    {label : String} (h : ptr.ReadableViews len) :
    ¬ Panics (bytesViewArrayToStrings ptr len label) := by
  unfold bytesViewArrayToStrings
  cases ptr with
  | none => simp [refusal]
  | some readable =>
    simp only [panics_bind]
    rintro (hpanics | ⟨views, hviews, hpanics⟩)
    · exact not_panics_readSlice (h.1 readable rfl) hpanics
    · rw [readSlice, fromRawParts_eq_ok] at hviews
      obtain ⟨-, rfl⟩ := hviews
      obtain ⟨⟨view, idx⟩, hmem, hpanics⟩ := exists_panics_of_mapM hpanics
      have hview := h.2 readable rfl view (List.fst_mem_of_mem_zipIdx hmem)
      exact not_panics_bytesViewToString hview hpanics

theorem not_panics_borrowedSampleIds {view : DagMlDataBorrowedTensorView} {label : String}
    (h : view.Readable) : ¬ Panics (borrowedSampleIds view label) := by
  unfold borrowedSampleIds
  cases hids : view.sampleIds with
  | none => exact not_panics_pure
  | some ids =>
    have hstrings : ¬ Panics (bytesViewArrayToStrings (some ids) view.idsLen
        s!"{label} sample_ids") := not_panics_bytesViewArrayToStrings (hids ▸ h.sampleIds)
    simp only [panics_bind, hstrings, not_panics_lift, not_panics_pure, and_false, exists_const,
      or_self, not_false_eq_true]

end Strings

/-- The presence mask asks for a vector once its length has been checked. -/
theorem borrowedRowPresence_panics [TensorAllocator] {view : DagMlDataBorrowedTensorView}
    {label : String} {rowCount : Nat} (h : view.Readable) :
    Panics (borrowedRowPresence view label rowCount) ↔
      view.rowPresenceMask ≠ none ∧ view.rowPresenceLen = rowCount ∧ ¬ Granted rowCount := by
  unfold borrowedRowPresence
  cases hmask : view.rowPresenceMask with
  | none =>
    simp only [panics_bind, not_panics_rejectIf_refusal, not_panics_pure, and_false, exists_const,
      or_self, ne_eq, not_true_eq_false, false_and]
  | some mask =>
    have hreadable := h.rowPresenceMask mask hmask
    have hflags : ∀ bytes : List UInt8, ¬ Panics (bytes.mapM fun byte => do
        rejectIf (decide (byte > 1))
          (refusal s!"{label} row presence mask contains a byte that is not 0 or 1")
        pure (byte == 1)) := by
      intro bytes hpanics
      obtain ⟨byte, -, hpanics⟩ := exists_panics_of_mapM hpanics
      rcases panics_bind.mp hpanics with hrefused | ⟨_, -, hpure⟩
      · exact not_panics_rejectIf_refusal hrefused
      · exact not_panics_pure hpure
    simp only [panics_bind, not_panics_rejectIf_refusal, not_panics_readSlice hreadable, false_or,
      panics_reserveBytes, hflags, not_panics_pure, and_false, exists_false, or_false, exists_unit,
      rejectIf_eq_ok, bne_eq_false_iff_eq, ne_eq, reduceCtorEq, not_false_eq_true, true_and]
    refine and_congr_right fun hlength => ?_
    have hread : readSlice 1 mask view.rowPresenceLen = .ok (mask.take view.rowPresenceLen) :=
      fromRawParts_eq_ok.mpr ⟨hreadable, rfl⟩
    rw [hread]
    have htake : (mask.take view.rowPresenceLen).length = rowCount := by
      rw [List.length_take, min_eq_left hreadable.1, hlength]
    constructor
    · rintro ⟨_, ⟨⟩, hrefused⟩
      exact htake ▸ hrefused
    · intro hrefused
      exact ⟨_, rfl, htake.symm ▸ hrefused⟩

/-! ## The payload -/

section Payload
variable [TensorAllocator] {view : DagMlDataBorrowedTensorView} {label : String} {shape : List Nat}

/-- The gather asks for the strides and, once they keep within the data, for the copy. -/
theorem gatherStridedTensor_panics {data : List UInt8} {stridesBytes : List Int}
    {elementSize canonicalBytes : Nat} (hshape : 0 ∉ shape) (hrank : shape.length = view.rank)
    (hwords : Granted (view.rank * 8)) (hdata : view.dataLen ≤ data.length)
    (hstrides : view.rank ≤ stridesBytes.length) :
    Panics (gatherStridedTensor view data stridesBytes label shape elementSize shape.prod
        canonicalBytes) ↔
      Spans view.dataLen shape (stridesBytes.take view.rank) elementSize ∧
        ¬ Granted canonicalBytes := by
  have hlength : shape.length = ((stridesBytes.take view.rank).map Int.toNat).length := by
    rw [List.length_map, List.length_take, min_eq_left hstrides, hrank]
  simp only [gatherStridedTensor, panics_bind,
    not_panics_readSlice ⟨hstrides, hwords.1⟩, false_or,
    panics_reserveBytes, hwords, not_true_eq_false, not_panics_positiveStrides,
    not_panics_foldlM_addSpan hshape, not_panics_refusal, not_panics_rejectIf_refusal,
    not_panics_lift, not_panics_pure, and_false, exists_false, or_false, exists_unit]
  constructor
  · rintro ⟨_, hread, -, strides, hstridesEq, offset, hoffset, maxByte, hmaxByte, hwithin,
      haddressable, hpanics⟩
    rw [readSlice, fromRawParts_eq_ok] at hread
    obtain ⟨-, rfl⟩ := hread
    obtain ⟨hpositive, rfl⟩ := positiveStrides_eq_ok.mp hstridesEq
    rw [foldlM_addSpan hshape (by decide), Nat.zero_add] at hoffset
    obtain ⟨-, rfl⟩ := hoffset
    rw [require_eq_ok, checkedAdd_eq_some] at hmaxByte
    obtain ⟨-, rfl⟩ := hmaxByte
    rw [rejectIf_eq_ok, decide_eq_false_iff_not, not_lt] at hwithin
    rw [lift_eq_ok, ensureAddressable, rejectIf_eq_ok, decide_eq_false_iff_not, not_lt]
      at haddressable
    refine ⟨⟨hpositive, hwithin, haddressable⟩, ?_⟩
    have hread := hwithin.trans hdata
    rcases hpanics with hpanics | ⟨part, hpart, hreserve | ⟨-, hpanics⟩⟩
    · exact absurd hpanics
        (not_panics_readSlice ⟨hread, (Nat.mul_one _).le.trans haddressable⟩)
    · exact hreserve
    · rw [readSlice, fromRawParts_eq_ok] at hpart
      obtain ⟨-, rfl⟩ := hpart
      have hloop := mapM_elementBytes hshape hlength hread haddressable (List.range shape.prod)
      exact absurd (hloop ▸ hpanics) not_panics_ok
  · rintro ⟨⟨hpositive, hwithin, haddressable⟩, hcanonical⟩
    have hlt := haddressable.trans_lt isizeMax_lt
    refine ⟨_, fromRawParts_eq_ok.mpr ⟨⟨hstrides, hwords.1⟩, rfl⟩,
      reserveBytes_eq_ok.mpr hwords, _,
      positiveStrides_eq_ok.mpr ⟨hpositive, rfl⟩, _,
      (foldlM_addSpan hshape (by decide)).mpr ⟨?_, rfl⟩, _,
      require_eq_ok.mpr (checkedAdd_eq_some.mpr ⟨?_, rfl⟩), ?_, ?_, Or.inr ⟨_,
        fromRawParts_eq_ok.mpr ⟨⟨?_, ?_⟩, rfl⟩, Or.inl hcanonical⟩⟩
    · rw [Nat.zero_add]
      exact (Nat.le_add_right _ _).trans_lt hlt
    · rw [Nat.zero_add]
      exact hlt
    · rw [Nat.zero_add, rejectIf_eq_ok, decide_eq_false_iff_not, not_lt]
      exact hwithin
    · rw [Nat.zero_add, lift_eq_ok, ensureAddressable, rejectIf_eq_ok, decide_eq_false_iff_not,
        not_lt]
      exact haddressable
    · rw [Nat.zero_add]
      exact hwithin.trans hdata
    · rw [Nat.zero_add, Nat.mul_one]
      exact haddressable

/-- The view has a payload that the function starts to copy. Only the contiguous copy is checked to
be a size that a vector can have. -/
structure DagMlDataBorrowedTensorView.Payload (view : DagMlDataBorrowedTensorView)
    (shape : List Nat) (elementSize : Nat) : Prop where
  data : view.data ≠ none
  declares : view.Declares shape elementSize
  addressable : view.stridesBytes = none → shape.prod * elementSize ≤ isizeMax

theorem borrowedPayload_panics {dtype : NdTensorDType} (h : view.Readable) (hshape : 0 ∉ shape)
    (hrank : shape.length = view.rank) (hwords : Granted (view.rank * 8)) :
    Panics (borrowedPayload view label shape dtype shape.prod
        (shape.prod * dtype.elementSize)) ↔
      view.Payload shape dtype.elementSize ∧ ¬ Granted (shape.prod * dtype.elementSize) := by
  have hpayload : view.Payload shape dtype.elementSize ↔ view.data ≠ none ∧
      view.Declares shape dtype.elementSize ∧
        (view.stridesBytes = none → shape.prod * dtype.elementSize ≤ isizeMax) :=
    ⟨fun h => ⟨h.data, h.declares, h.addressable⟩, fun h => ⟨h.1, h.2.1, h.2.2⟩⟩
  rw [hpayload]
  unfold borrowedPayload DagMlDataBorrowedTensorView.Declares
  cases hdata : view.data with
  | none => simp [panics_bind, not_panics_refusal]
  | some data =>
    have hread := h.data data hdata
    simp only [panics_bind, not_panics_refusal, false_or, require_eq_ok, Option.some.injEq,
      exists_eq_left', ne_eq, reduceCtorEq, not_false_eq_true, true_and]
    cases hstrides : view.stridesBytes with
    | none =>
      simp only [panics_bind, not_panics_rejectIf_refusal, not_panics_lift, not_panics_pure,
        false_or, and_false, exists_false, or_false, exists_unit, rejectIf_eq_ok,
        bne_eq_false_iff_eq, lift_eq_ok, ensureAddressable, decide_eq_false_iff_not, not_lt,
        gt_iff_lt, panics_reserveBytes, forall_const, and_assoc]
      refine and_congr_right fun hlength => and_congr_right fun hsmall => ?_
      have hbytes := hlength ▸ hread
      have hslice : ¬ Panics (readSlice 1 data (shape.prod * dtype.elementSize)) :=
        not_panics_readSlice ⟨hbytes, (Nat.mul_one _).le.trans hsmall⟩
      have hok : readSlice 1 data (shape.prod * dtype.elementSize) = .ok _ :=
        fromRawParts_eq_ok.mpr ⟨⟨hbytes, (Nat.mul_one _).le.trans hsmall⟩, rfl⟩
      exact ⟨fun hpanics => (hpanics.resolve_left hslice).choose_spec.2,
        fun hrefused => .inr ⟨_, hok, hrefused⟩⟩
    | some strides =>
      have hlength := (h.stridesBytes strides hstrides).1
      rw [gatherStridedTensor_panics hshape hrank hwords hread hlength]
      simp [hlength]

/-- A payload that is granted is copied. -/
theorem DagMlDataBorrowedTensorView.Payload.exists_bytes {dtype : NdTensorDType}
    (h : view.Payload shape dtype.elementSize) (hview : view.Readable) (hshape : 0 ∉ shape)
    (hrank : shape.length = view.rank) (hwords : Granted (view.rank * 8))
    (hgranted : Granted (shape.prod * dtype.elementSize)) :
    ∃ bytes, borrowedPayload view label shape dtype shape.prod (shape.prod * dtype.elementSize) =
      .ok bytes := by
  obtain ⟨data, hdata⟩ := Option.ne_none_iff_exists'.mp h.data
  exact ⟨_, (borrowedPayload_eq_ok hshape hrank hwords).mpr ⟨data, hdata, h.declares,
    (h.declares.addressed_le hshape).trans (hview.data data hdata), hgranted, rfl⟩⟩

end Payload

/-! ## The requests -/

/-- The text of a byte view. -/
def DagMlDataBytesView.text (view : DagMlDataBytesView) : Option String :=
  view.ptr.bind fun readable => fromUtf8 (readable.take view.len)

/-- The views behind a pointer are identifiers. -/
def Pointer.Names (ptr : Pointer DagMlDataBytesView) (kind : IdKind) (len : Nat) : Prop :=
  ∃ readable, ptr = some readable ∧ ∃ ids : List (Ident kind),
    List.Forall₂ (fun view id => view.text = some id.value) (readable.take len) ids

/-- The view passes the checks before the copy of its shape. -/
structure ReachesShape (view : DagMlDataBorrowedTensorView) (dtype : NdTensorDType)
    (shape : List Nat) : Prop where
  abi : view.abiVersion = borrowedTensorViewAbiVersion
  tensorId : view.tensorId.text ≠ none
  representationId : ∃ id : RepresentationId, view.representationId.text = some id.value
  container : view.container.text ≠ none
  dtypeCode : NdTensorDType.fromCode view.dtype = .ok dtype
  rank : view.rank ≠ 0 ∧ view.rank ≤ ndTensorMaxRank
  readShape : view.shape.map (List.take view.rank) = some shape

/-- The view passes the checks before its payload. -/
structure ReachesPayload (view : DagMlDataBorrowedTensorView) (dtype : NdTensorDType)
    (shape : List Nat) : Prop extends ReachesShape view dtype shape where
  positive : 0 ∉ shape
  rowCount : shape[0]? = some view.idsLen
  observationIds : view.observationIds.Names .observation view.idsLen
  sampleIds : view.sampleIds = none ∨ view.sampleIds.Names .sample view.idsLen
  fits : shape.prod * dtype.elementSize < u64Size

/-- The vectors that the function asks for on a view, when none before is refused: the bytes of the
shape and as many of the strides, of the payload, and of the presence mask. -/
inductive Requests (view : DagMlDataBorrowedTensorView) : Nat → Prop
  | words {dtype : NdTensorDType} {shape : List Nat} :
      ReachesShape view dtype shape → Requests view (view.rank * 8)
  | payload {dtype : NdTensorDType} {shape : List Nat} :
      ReachesPayload view dtype shape → view.Payload shape dtype.elementSize →
      Requests view (shape.prod * dtype.elementSize)
  | rowPresence {dtype : NdTensorDType} {shape : List Nat} :
      ReachesPayload view dtype shape → view.Payload shape dtype.elementSize →
      view.rowPresenceMask ≠ none → view.rowPresenceLen = view.idsLen →
      Requests view view.idsLen

theorem ReachesShape.length_shape {view : DagMlDataBorrowedTensorView} {dtype : NdTensorDType}
    {shape : List Nat} (hreaches : ReachesShape view dtype shape) (h : view.Readable) :
    shape.length = view.rank := by
  obtain ⟨readable, hreadable, rfl⟩ := Option.map_eq_some_iff.mp hreaches.readShape
  rw [List.length_take, min_eq_left (h.shape readable hreadable).1]

theorem Requests.reachesShape {view : DagMlDataBorrowedTensorView} {count : Nat}
    (h : Requests view count) : ∃ dtype shape, ReachesShape view dtype shape := by
  cases h with
  | words hreaches => exact ⟨_, _, hreaches⟩
  | payload hreaches _ => exact ⟨_, _, hreaches.toReachesShape⟩
  | rowPresence hreaches _ _ _ => exact ⟨_, _, hreaches.toReachesShape⟩

theorem idsLen_ne_zero {shape : List Nat} {idsLen : Nat} (hpositive : 0 ∉ shape)
    (hfirst : shape[0]? = some idsLen) : idsLen ≠ 0 := by
  rintro rfl
  exact hpositive (List.mem_of_getElem? hfirst)

section Panics
variable [Machine] {view : DagMlDataBorrowedTensorView} {index : Nat} {label : String}

theorem bytesViewToString_eq_ok {view : DagMlDataBytesView} (h : view.ptr.Readable 1 view.len)
    {value : String} : bytesViewToString view label = .ok value ↔ view.text = some value := by
  simp only [bytesViewToString, bind_eq_ok, require_eq_ok, readSlice, fromRawParts_eq_ok,
    DagMlDataBytesView.text, Option.bind_eq_some_iff]
  refine exists_congr fun readable => and_congr_right fun hptr => ?_
  constructor
  · rintro ⟨_, ⟨-, rfl⟩, hvalue⟩
    exact hvalue
  · intro hvalue
    exact ⟨_, ⟨h readable hptr, rfl⟩, hvalue⟩

theorem bytesViewArrayToStrings_eq_ok {readable : List DagMlDataBytesView} {len : Nat}
    (h : Pointer.ReadableViews (some readable) len) {values : List String} :
    bytesViewArrayToStrings (some readable) len label = .ok values ↔
      List.Forall₂ (fun view value => view.text = some value) (readable.take len) values := by
  simp only [bytesViewArrayToStrings, bind_eq_ok, readSlice, fromRawParts_eq_ok,
    h.1 readable rfl, and_self, true_and, exists_eq_left', mapM_eq_ok]
  have hfst : (readable.take len).zipIdx.map Prod.fst = readable.take len := List.zipIdx_map_fst ..
  conv_rhs => rw [← hfst, List.forall₂_map_left_iff]
  refine forall₂_congr_left fun pair hpair value => ?_
  exact bytesViewToString_eq_ok (h.2 readable rfl pair.1 (List.fst_mem_of_mem_zipIdx hpair))

/-- The ids are read exactly when the views are identifiers. -/
theorem exists_ids {ptr : Pointer DagMlDataBytesView} {len : Nat} (h : ptr.ReadableViews len)
    (hlen : len ≠ 0) {kind : IdKind} :
    (∃ values, bytesViewArrayToStrings ptr len label = .ok values ∧
      ∃ ids, values.mapM (Ident.new kind) = .ok ids) ↔ ptr.Names kind len := by
  cases ptr with
  | none =>
    simp [bytesViewArrayToStrings, Pointer.Names, hlen]
  | some readable =>
    simp only [bytesViewArrayToStrings_eq_ok h, Pointer.Names, Option.some.injEq, exists_eq_left',
      mapM_eq_ok, Ident.new_eq_ok]
    constructor
    · rintro ⟨values, hvalues, ids, hids⟩
      refine ⟨ids, Tiling.forall₂_comp (fun view value id hview hid => ?_) hvalues hids⟩
      rw [hview, hid]
    · rintro ⟨ids, hids⟩
      refine ⟨ids.map Ident.value, List.forall₂_map_right_iff.mpr hids, ids, ?_⟩
      rw [List.forall₂_map_left_iff, List.forall₂_same]
      exact fun _ _ => rfl

theorem exists_sampleIds (h : view.Readable) (hlen : view.idsLen ≠ 0) :
    (∃ ids, borrowedSampleIds view label = .ok ids) ↔
      view.sampleIds = none ∨ view.sampleIds.Names .sample view.idsLen := by
  unfold borrowedSampleIds
  cases hids : view.sampleIds with
  | none => exact ⟨fun _ => Or.inl rfl, fun _ => ⟨none, rfl⟩⟩
  | some ids =>
    rw [← exists_ids (hids ▸ h.sampleIds) hlen]
    simp only [bind_eq_ok, lift_eq_ok, pure_eq_ok, reduceCtorEq, false_or]
    constructor
    · rintro ⟨_, values, hvalues, sampleIds, hsampleIds, -⟩
      exact ⟨values, hvalues, sampleIds, hsampleIds⟩
    · rintro ⟨values, hvalues, sampleIds, hsampleIds⟩
      exact ⟨_, values, hvalues, sampleIds, hsampleIds, rfl⟩

variable [TensorAllocator]

/-- Up to the payload only the copy of the shape can stop the function. -/
theorem borrowedTensorViewToInput_panics (h : view.Readable) :
    Panics (borrowedTensorViewToInput view index) ↔
      ∃ dtype shape, ReachesShape view dtype shape ∧ (¬ Granted (view.rank * 8) ∨
        Granted (view.rank * 8) ∧ ReachesPayload view dtype shape ∧
          (Panics (borrowedPayload view (viewLabel index) shape dtype shape.prod
              (shape.prod * dtype.elementSize)) ∨
            (∃ bytes, borrowedPayload view (viewLabel index) shape dtype shape.prod
              (shape.prod * dtype.elementSize) = .ok bytes) ∧
            Panics (borrowedRowPresence view (viewLabel index) view.idsLen))) := by
  simp only [borrowedTensorViewToInput, panics_bind, not_panics_rejectIf_refusal,
    not_panics_bytesViewToString h.tensorId, not_panics_bytesViewToString h.representationId,
    not_panics_bytesViewToString h.container, not_panics_refusal, not_panics_lift,
    not_panics_bytesViewArrayToStrings h.observationIds, not_panics_borrowedSampleIds h,
    not_panics_pure, panics_reserveBytes, reserveBytes_eq_ok, false_or, and_false,
    exists_false, or_false, exists_unit, lift_eq_ok, bytesViewToString_eq_ok h.tensorId,
    bytesViewToString_eq_ok h.representationId, bytesViewToString_eq_ok h.container,
    require_eq_ok, checkedMul_eq_some, rejectIf_eq_ok, bne_eq_false_iff_eq, Bool.or_eq_false_iff,
    beq_eq_false_iff_ne, decide_eq_false_iff_not, not_lt, gt_iff_lt, List.contains_eq_mem,
    Ident.new_eq_ok]
  constructor
  · rintro ⟨habi, tensorId, htensorId, _, hrepresentation, id, rfl, container, hcontainer, dtype,
      hdtype, hrank, readable, hreadable, hpanics | ⟨shape, hshape, hrest⟩⟩
    · exact absurd hpanics (not_panics_readSlice (h.shape readable hreadable))
    rw [readSlice, fromRawParts_eq_ok] at hshape
    obtain ⟨⟨hlength, -⟩, rfl⟩ := hshape
    have hreaches : ReachesShape view dtype (readable.take view.rank) :=
      { abi := habi, tensorId := Option.ne_none_iff_exists'.mpr ⟨_, htensorId⟩
        representationId := ⟨id, hrepresentation⟩
        container := Option.ne_none_iff_exists'.mpr ⟨_, hcontainer⟩
        dtypeCode := hdtype, rank := hrank, readShape := by rw [hreadable]; rfl }
    refine ⟨dtype, _, hreaches, hrest.imp_right ?_⟩
    -- What is left is the payload, read once everything before it has been accepted.
    rintro ⟨hwords, hpositive, hfirst | ⟨_, hfirst, rfl, values, hvalues, ids, hids, sampleIds,
      hsamples, total, htotal, _, ⟨hfits, rfl⟩, hpanics⟩⟩
    · have hrankEq : (readable.take view.rank).length = view.rank := by
        rw [List.length_take, min_eq_left hlength]
      have hget : (readable.take view.rank)[0]? = some _ :=
        List.getElem?_eq_getElem (hrankEq.symm ▸ Nat.pos_of_ne_zero hrank.1)
      exact absurd (hget ▸ hfirst) not_panics_ok
    · obtain ⟨-, rfl⟩ := (checkedProduct_eq_ok hpositive).mp htotal
      have hidsLen := idsLen_ne_zero hpositive hfirst
      have hobservations := (exists_ids h.observationIds hidsLen).mp
        ⟨values, hvalues, ids, hids⟩
      have hsampleIds := (exists_sampleIds h hidsLen).mp ⟨sampleIds, hsamples⟩
      refine ⟨hwords, ⟨hreaches, hpositive, hfirst, hobservations, hsampleIds, hfits⟩, ?_⟩
      exact hpanics.imp_right exists_and_right.mp
  · rintro ⟨dtype, shape, hreaches, hrest⟩
    obtain ⟨tensorId, htensorId⟩ := Option.ne_none_iff_exists'.mp hreaches.tensorId
    obtain ⟨id, hid⟩ := hreaches.representationId
    obtain ⟨container, hcontainer⟩ := Option.ne_none_iff_exists'.mp hreaches.container
    obtain ⟨readable, hreadable, hshape⟩ := Option.map_eq_some_iff.mp hreaches.readShape
    refine ⟨hreaches.abi, tensorId, htensorId, _, hid, id, rfl, container, hcontainer, dtype,
      hreaches.dtypeCode, hreaches.rank, readable, hreadable, Or.inr ⟨shape,
        fromRawParts_eq_ok.mpr ⟨h.shape readable hreadable, hshape⟩, hrest.imp_right ?_⟩⟩
    rintro ⟨hwords, hpayload, hpanics⟩
    have hidsLen := idsLen_ne_zero hpayload.positive hpayload.rowCount
    obtain ⟨values, hvalues, ids, hids⟩ := (exists_ids h.observationIds hidsLen).mpr
      hpayload.observationIds
    obtain ⟨sampleIds, hsamples⟩ := (exists_sampleIds h hidsLen).mpr hpayload.sampleIds
    have hprod := (Nat.le_mul_of_pos_right _ dtype.elementSize_pos).trans_lt hpayload.fits
    exact ⟨hwords, hpayload.positive, Or.inr ⟨_, hpayload.rowCount, rfl, values, hvalues, ids,
      hids, sampleIds, hsamples, shape.prod, (checkedProduct_eq_ok hpayload.positive).mpr
        ⟨hprod, rfl⟩, _, ⟨hpayload.fits, rfl⟩,
          hpanics.imp_right exists_and_right.mpr⟩⟩

end Panics

/-! ## Two views -/

theorem DagMlDataBytesView.readable_ofText {text : String} (h : (bytes text).length ≤ isizeMax) :
    (DagMlDataBytesView.ofText text).ptr.Readable 1 (DagMlDataBytesView.ofText text).len := by
  rintro _ ⟨⟩
  exact ⟨le_rfl, (Nat.mul_one _).le.trans h⟩

theorem testView_readable {data : List UInt8} {shape : List Nat} {strides : List Int}
    {ids : List String} (hstrides : shape.length ≤ strides.length)
    (hrank : shape.length * 8 ≤ isizeMax) (hids : ids.length * 16 ≤ isizeMax)
    (htexts : ∀ text ∈ ids, (bytes text).length ≤ isizeMax) :
    (testView data shape strides ids).Readable where
  tensorId := DagMlDataBytesView.readable_ofText (by decide)
  representationId := DagMlDataBytesView.readable_ofText (by decide)
  container := DagMlDataBytesView.readable_ofText (by decide)
  data := by
    rintro _ ⟨⟩
    exact le_rfl
  shape := by
    rintro _ ⟨⟩
    exact ⟨le_rfl, hrank⟩
  stridesBytes := by
    rintro _ ⟨⟩
    exact ⟨hstrides, hrank⟩
  observationIds := by
    refine ⟨?_, ?_⟩
    · rintro _ ⟨⟩
      exact ⟨(List.length_map _).ge, hids⟩
    · rintro _ ⟨⟩ view hview
      obtain ⟨text, htext, rfl⟩ := List.mem_map.mp (List.mem_of_mem_take hview)
      exact DagMlDataBytesView.readable_ofText (htexts text htext)
  sampleIds := ⟨nofun, nofun⟩
  rowPresenceMask := nofun

/-- `2 ^ 63` elements in 274 bytes. -/
def overlappingView : DagMlDataBorrowedTensorView :=
  testView (List.replicate 274 0) (1 :: (List.replicate 12 16 ++ List.replicate 3 32))
    (List.replicate 16 1) ["r1"]

end DagMlData
