import DagMlData.Error
import DagMlData.Json
import DagMlData.Lib.Machine
import DagMlData.Lib.RustMap

/-!
# The fitted-adapter store

`InMemoryFittedAdapterStore` gives every registered adapter a handle from a counter and serves the
handle to requests for the same adapter and the same parameters. A manifest registers its entries
one at a time.

* `FittedAdapterRef.validate`, `FittedAdapterManifest.validate`: the validators.
* `FittedAdapterStoreState`: the store, with `register`, `registerManifest`, `release` and
  `materialize`, each under the lock of the store.
* `FittedAdapterStoreState.step`: the store as a machine that answers calls.
* `fittedAdapterStore_run`: what holds after any calls of a fresh store.
* `registerManifest_outcome`: what a manifest leaves behind when it is refused.
-/

namespace DagMlData

open Guard RustText

inductive FittedAdapterBackend
  | joblib
  | pickle
  | json
  | numpy
  | onnx
  | raw
deriving DecidableEq, Repr

structure FittedAdapterRef where
  schemaVersion : Nat
  adapterId : String
  adapterVersion : String
  paramsFingerprint : String
  backend : Option FittedAdapterBackend
  uri : Option String
  contentFingerprint : Option String
  sizeBytes : Option Nat
  plugin : Option String
  pluginVersion : Option String
  metadata : BTreeMap String Json

def fittedAdapterRefSchemaVersion : Nat := 1

def fittedAdapterManifestSchemaVersion : Nat := 1

/-! ## Validators -/

/-- `validate_optional_text`. -/
def validateOptionalText (label : String) (value : Option String) (adapterId : String) :
    Result Unit :=
  whenSome value fun text => do
    rejectIf (isBlank text) (.validation s!"fitted adapter `{adapterId}` has empty {label}")
    rejectIf (text.toList.any isControl)
      (.validation s!"fitted adapter `{adapterId}` has control characters in {label}")

/-- `validate_fingerprint` of the fitted-adapter module. -/
def validateAdapterFingerprint (label value adapterId : String) : Result Unit :=
  rejectIf (value.utf8ByteSize != 64 || !(bytes value).all isAsciiHexdigit)
    (.validation (s!"fitted adapter `{adapterId}` {label} fingerprint must be a 64-character " ++
      "hex digest"))

theorem validateAdapterFingerprint_eq_ok {label value adapterId : String} {u : Unit} :
    validateAdapterFingerprint label value adapterId = .ok u ↔ IsFingerprint value := by
  simp [validateAdapterFingerprint, IsFingerprint]

namespace FittedAdapterRef

variable (ref : FittedAdapterRef)

def validate : Result Unit := do
  rejectIf (ref.schemaVersion != fittedAdapterRefSchemaVersion)
    (.validation (s!"fitted adapter `{ref.adapterId}` uses unsupported schema_version " ++
      s!"{ref.schemaVersion}, expected {fittedAdapterRefSchemaVersion}"))
  rejectIf (isBlank ref.adapterId) (.validation "fitted adapter ref has empty adapter_id")
  rejectIf (isBlank ref.adapterVersion)
    (.validation s!"fitted adapter `{ref.adapterId}` has empty adapter_version")
  validateAdapterFingerprint "fitted adapter params" ref.paramsFingerprint ref.adapterId
  validateOptionalText "uri" ref.uri ref.adapterId
  validateOptionalText "plugin" ref.plugin ref.adapterId
  validateOptionalText "plugin_version" ref.pluginVersion ref.adapterId
  rejectIf (ref.pluginVersion.isSome && ref.plugin.isNone)
    (.validation s!"fitted adapter `{ref.adapterId}` has plugin_version without plugin")
  whenSome ref.contentFingerprint fun contentFingerprint =>
    validateAdapterFingerprint "fitted adapter content" contentFingerprint ref.adapterId
  rejectIf (ref.uri.isSome && ref.backend.isNone)
    (.validation s!"fitted adapter `{ref.adapterId}` has uri without backend")
  rejectIf (ref.uri.isSome && ref.contentFingerprint.isNone)
    (.validation s!"fitted adapter `{ref.adapterId}` has uri without content_fingerprint")
  forM ref.metadata.keys fun key =>
    rejectIf (isBlank key)
      (.validation s!"fitted adapter `{ref.adapterId}` metadata contains an empty key")

/-- What a registered adapter has for a request. -/
theorem identity_of_validate {u : Unit} (h : ref.validate = .ok u) :
    isBlank ref.adapterId = false ∧ IsFingerprint ref.paramsFingerprint := by
  simp only [validate, bind_eq_ok, rejectIf_eq_ok, exists_unit,
    validateAdapterFingerprint_eq_ok] at h
  exact ⟨h.2.1, h.2.2.2.1⟩

end FittedAdapterRef

structure FittedAdapterManifestEntry where
  adapterId : String
  fittedAdapter : FittedAdapterRef

structure FittedAdapterManifest where
  schemaVersion : Nat
  entries : List FittedAdapterManifestEntry

/-- The loop over the entries, with the adapter ids that it has seen. -/
def FittedAdapterManifest.checkEntries :
    List String → List FittedAdapterManifestEntry → Result Unit
  | _, [] => .ok ()
  | seen, entry :: entries => do
    rejectIf (entry.adapterId != entry.fittedAdapter.adapterId)
      (.validation (s!"fitted adapter manifest entry key `{entry.adapterId}` does not match " ++
        s!"ref adapter_id `{entry.fittedAdapter.adapterId}`"))
    rejectIf (seen.contains entry.adapterId)
      (.validation s!"fitted adapter manifest contains duplicate adapter_id `{entry.adapterId}`")
    entry.fittedAdapter.validate
    checkEntries (entry.adapterId :: seen) entries

/-- `validate`, which is `validate_inner` without portability. -/
def FittedAdapterManifest.validate (manifest : FittedAdapterManifest) : Result Unit := do
  rejectIf (manifest.schemaVersion != fittedAdapterManifestSchemaVersion)
    (.validation (s!"fitted adapter manifest uses unsupported schema_version " ++
      s!"{manifest.schemaVersion}, expected {fittedAdapterManifestSchemaVersion}"))
  checkEntries [] manifest.entries

theorem FittedAdapterManifest.checkEntries_eq_ok {entries : List FittedAdapterManifestEntry}
    {seen : List String} {u : Unit} : checkEntries seen entries = .ok u ↔
      (∀ entry ∈ entries, entry.adapterId = entry.fittedAdapter.adapterId ∧
        entry.fittedAdapter.validate = .ok ()) ∧
      (entries.map (·.adapterId)).Nodup ∧ ∀ entry ∈ entries, entry.adapterId ∉ seen := by
  refine seenLoop_eq_ok (fun _ => rfl) fun seen entry entries => ?_
  simp only [checkEntries, bind_eq_ok, rejectIf_eq_ok, exists_unit, bne_eq_false_iff_eq,
    List.contains_eq_mem, decide_eq_false_iff_not]
  constructor
  · rintro ⟨hkey, hseen, hvalid, hentries⟩
    exact ⟨⟨hkey, hvalid⟩, hseen, hentries⟩
  · rintro ⟨⟨hkey, hvalid⟩, hseen, hentries⟩
    exact ⟨hkey, hseen, hvalid, hentries⟩

/-- The entries of a valid manifest are valid and have distinct adapters. -/
theorem FittedAdapterManifest.of_validate {manifest : FittedAdapterManifest} {u : Unit}
    (h : manifest.validate = .ok u) :
    (∀ entry ∈ manifest.entries, entry.fittedAdapter.validate = .ok ()) ∧
      (manifest.entries.map (·.fittedAdapter.adapterId)).Nodup := by
  simp only [validate, bind_eq_ok, exists_unit, checkEntries_eq_ok] at h
  obtain ⟨-, hall, hnodup, -⟩ := h
  refine ⟨fun entry hentry => (hall entry hentry).2, ?_⟩
  rwa [List.map_congr_left fun entry hentry => (hall entry hentry).1] at hnodup

structure FittedAdapterMaterializationRequest where
  adapterId : String
  paramsFingerprint : String

def FittedAdapterMaterializationRequest.validate (request : FittedAdapterMaterializationRequest) :
    Result Unit := do
  rejectIf (isBlank request.adapterId)
    (.validation "fitted adapter materialization request has empty adapter_id")
  validateAdapterFingerprint "fitted adapter materialization params" request.paramsFingerprint
    request.adapterId

/-! ## The store -/

structure FittedAdapterHandleRecord where
  handle : Nat
  fittedAdapter : FittedAdapterRef

structure FittedAdapterStoreState where
  nextHandle : Nat
  records : BTreeMap String FittedAdapterHandleRecord

namespace FittedAdapterStoreState

/-- The state of `InMemoryFittedAdapterStore::new`. -/
def new : FittedAdapterStoreState := ⟨1, ∅⟩

/-- The store with one more record. The counter is a `u64` that wraps. -/
def insert (state : FittedAdapterStoreState) (fittedAdapter : FittedAdapterRef) :
    FittedAdapterStoreState where
  nextHandle := (state.nextHandle + 1) % u64Size
  records := state.records.insert fittedAdapter.adapterId ⟨state.nextHandle, fittedAdapter⟩

def register (state : FittedAdapterStoreState) (fittedAdapter : FittedAdapterRef) :
    Result FittedAdapterHandleRecord × FittedAdapterStoreState :=
  match fittedAdapter.validate with
  | .error e => (.error e, state)
  | .ok () =>
    if state.records.contains fittedAdapter.adapterId then
      (.error (.validation
        s!"fitted adapter store already has handle for `{fittedAdapter.adapterId}`"), state)
    else (.ok ⟨state.nextHandle, fittedAdapter⟩, state.insert fittedAdapter)

/-- The entries one after the other, up to the first that is refused. -/
def registerEntries (state : FittedAdapterStoreState) :
    List FittedAdapterManifestEntry →
      Result (List FittedAdapterHandleRecord) × FittedAdapterStoreState
  | [] => (.ok [], state)
  | entry :: entries =>
    match state.register entry.fittedAdapter with
    | (.error e, state) => (.error e, state)
    | (.ok record, state) =>
      match state.registerEntries entries with
      | (.error e, state) => (.error e, state)
      | (.ok records, state) => (.ok (record :: records), state)

def registerManifest (state : FittedAdapterStoreState) (manifest : FittedAdapterManifest) :
    Result (List FittedAdapterHandleRecord) × FittedAdapterStoreState :=
  match manifest.validate with
  | .error e => (.error e, state)
  | .ok () => state.registerEntries manifest.entries

/-- `release`: whether there was a record, and the store without it. -/
def release (state : FittedAdapterStoreState) (adapterId : String) :
    Bool × FittedAdapterStoreState :=
  (state.records.contains adapterId, { state with records := state.records.erase adapterId })

def materialize (state : FittedAdapterStoreState) (request : FittedAdapterMaterializationRequest) :
    Result Nat := do
  request.validate
  let record ← require state.records[request.adapterId]?
    (.validation s!"fitted adapter store is missing adapter `{request.adapterId}`")
  rejectIf (record.fittedAdapter.paramsFingerprint != request.paramsFingerprint)
    (.fingerprintMismatch "params" record.fittedAdapter.paramsFingerprint request.paramsFingerprint)
  pure record.handle

end FittedAdapterStoreState

/-! ## Calls -/

inductive FittedAdapterCall
  | register (fittedAdapter : FittedAdapterRef)
  | release (adapterId : String)
  | materialize (request : FittedAdapterMaterializationRequest)

inductive FittedAdapterReply
  | registered (result : Result FittedAdapterHandleRecord)
  | released (found : Bool)
  | materialized (result : Result Nat)

namespace FittedAdapterReply

/-- The handle that a reply issues. -/
def issued : FittedAdapterReply → Option Nat
  | registered (.ok record) => some record.handle
  | _ => none

/-- An error, or a release of what is not there. -/
def fails : FittedAdapterReply → Bool
  | registered (.error _) => true
  | released found => !found
  | materialized (.error _) => true
  | _ => false

end FittedAdapterReply

namespace FittedAdapterStoreState

def step (state : FittedAdapterStoreState) :
    FittedAdapterCall → FittedAdapterReply × FittedAdapterStoreState
  | .register fittedAdapter =>
    let (result, after) := state.register fittedAdapter
    (.registered result, after)
  | .release adapterId =>
    let (found, after) := state.release adapterId
    (.released found, after)
  | .materialize request => (.materialized (state.materialize request), state)

/-- The store after the calls. -/
def run (state : FittedAdapterStoreState) (calls : List FittedAdapterCall) :
    FittedAdapterStoreState := Machine.run step state calls

/-- The handles that the calls are given, in call order. -/
def issuedHandles (state : FittedAdapterStoreState) (calls : List FittedAdapterCall) : List Nat :=
  Machine.minted FittedAdapterReply.issued step state calls

/-! ## What a call does -/

variable {state : FittedAdapterStoreState}

/-- A registration inserts the record, when the adapter is valid and not yet there. -/
theorem register_eq_ok {fittedAdapter : FittedAdapterRef} {record : FittedAdapterHandleRecord}
    {after : FittedAdapterStoreState} :
    state.register fittedAdapter = (.ok record, after) ↔
      fittedAdapter.validate = .ok () ∧ fittedAdapter.adapterId ∉ state.records ∧
        record = ⟨state.nextHandle, fittedAdapter⟩ ∧ after = state.insert fittedAdapter := by
  unfold register
  cases hvalid : fittedAdapter.validate with
  | error e => simp
  | ok u =>
    by_cases hthere : state.records.contains fittedAdapter.adapterId = true
    · have hmem := Std.ExtTreeMap.contains_iff_mem.mp hthere
      simp [hmem]
    · have hnew : fittedAdapter.adapterId ∉ state.records :=
        fun hmem => hthere (Std.ExtTreeMap.contains_iff_mem.mpr hmem)
      simp only [if_neg hthere, Prod.mk.injEq, Except.ok.injEq, true_and]
      exact ⟨fun h => ⟨hnew, h.1.symm, h.2.symm⟩, fun h => ⟨h.2.1.symm, h.2.2.symm⟩⟩

/-- A registration that fails changes nothing. -/
theorem register_error {fittedAdapter : FittedAdapterRef} {e : DataError}
    {after : FittedAdapterStoreState} (h : state.register fittedAdapter = (.error e, after)) :
    after = state ∧
      (fittedAdapter.validate = .ok () → fittedAdapter.adapterId ∈ state.records) := by
  unfold register at h
  cases hvalid : fittedAdapter.validate with
  | error e' =>
    rw [hvalid] at h
    cases h
    exact ⟨rfl, nofun⟩
  | ok u =>
    simp only [hvalid] at h
    split at h
    · next hthere =>
      cases h
      exact ⟨rfl, fun _ => Std.ExtTreeMap.contains_iff_mem.mp hthere⟩
    · cases h

theorem release_of_not_mem {adapterId : String} (h : adapterId ∉ state.records) :
    (state.release adapterId).2 = state := by
  unfold release
  have herase : state.records.erase adapterId = state.records := by
    refine Std.ExtTreeMap.ext_getElem? fun key => ?_
    by_cases hkey : adapterId = key
    · subst hkey
      rw [Std.ExtTreeMap.getElem?_erase_self, Std.ExtTreeMap.getElem?_eq_none h]
    · exact BTreeMap.getElem?_erase_of_ne hkey
  rw [herase]

/-- What one call does to the store: a record more, a record less, or nothing. -/
theorem step_cases (state : FittedAdapterStoreState) (call : FittedAdapterCall) :
    (∃ fittedAdapter, call = .register fittedAdapter ∧ fittedAdapter.validate = .ok () ∧
      fittedAdapter.adapterId ∉ state.records ∧
      state.step call = (.registered (.ok ⟨state.nextHandle, fittedAdapter⟩),
        state.insert fittedAdapter)) ∨
    (∃ adapterId, call = .release adapterId ∧ adapterId ∈ state.records ∧
      state.step call =
        (.released true, { state with records := state.records.erase adapterId })) ∨
    ((state.step call).1.issued = none ∧ (state.step call).2 = state ∧
      ∀ adapterId, call = .release adapterId → adapterId ∉ state.records) := by
  cases call with
  | register fittedAdapter =>
    rcases hstep : state.register fittedAdapter with ⟨_ | record, after⟩
    · refine Or.inr (Or.inr ?_)
      obtain ⟨rfl, -⟩ := register_error hstep
      refine ⟨?_, ?_, nofun⟩ <;> simp [step, hstep, FittedAdapterReply.issued]
    · obtain ⟨hvalid, hnew, rfl, rfl⟩ := register_eq_ok.mp hstep
      exact Or.inl ⟨fittedAdapter, rfl, hvalid, hnew, by simp [step, hstep]⟩
  | release adapterId =>
    by_cases hthere : adapterId ∈ state.records
    · refine Or.inr (Or.inl ⟨adapterId, rfl, hthere, ?_⟩)
      simp [step, release, hthere]
    · refine Or.inr (Or.inr ⟨rfl, release_of_not_mem hthere, fun other h => ?_⟩)
      cases h
      exact hthere
  | materialize request => exact Or.inr (Or.inr ⟨rfl, rfl, nofun⟩)

/-- A call that fails, and every `materialize`, changes nothing. -/
theorem step_unchanged {call : FittedAdapterCall}
    (h : (state.step call).1.fails = true ∨ ∃ request, call = .materialize request) :
    (state.step call).2 = state := by
  rcases step_cases state call with ⟨_, rfl, -, -, hstep⟩ | ⟨_, rfl, -,
    hstep⟩ | ⟨-, hsame, -⟩
  · rcases h with h | ⟨_, h⟩
    · rw [hstep] at h
      cases h
    · cases h
  · rcases h with h | ⟨_, h⟩
    · rw [hstep] at h
      cases h
    · cases h
  · exact hsame

theorem mintsFromCounter :
    Machine.MintsFromCounter nextHandle FittedAdapterReply.issued u64Size step := by
  intro state call
  rcases step_cases state call with ⟨_, -, -, -, hstep⟩ | ⟨_, -, -,
    hstep⟩ | ⟨hnone, hsame, -⟩
  · exact Or.inr (by rw [hstep]; exact ⟨rfl, rfl⟩)
  · exact Or.inl (by rw [hstep]; exact ⟨rfl, rfl⟩)
  · exact Or.inl ⟨hnone, by rw [hsame]⟩

/-! ## Registrations in the history -/

/-- The calls with their replies. -/
def log (state : FittedAdapterStoreState) (calls : List FittedAdapterCall) :
    List (FittedAdapterCall × FittedAdapterReply) := Machine.log step state calls

/-- The log registers the adapter with the record, and no call has released it since. -/
def RegisteredIn (log : List (FittedAdapterCall × FittedAdapterReply)) (adapterId : String)
    (record : FittedAdapterHandleRecord) : Prop :=
  ∃ before since fittedAdapter,
    log = before ++ (.register fittedAdapter, .registered (.ok record)) :: since ∧
      fittedAdapter.adapterId = adapterId ∧ ∀ entry ∈ since, entry.1 ≠ .release adapterId

theorem registeredIn_concat {log : List (FittedAdapterCall × FittedAdapterReply)}
    {call : FittedAdapterCall} {reply : FittedAdapterReply} {adapterId : String}
    {record : FittedAdapterHandleRecord} :
    RegisteredIn (log ++ [(call, reply)]) adapterId record ↔
      (∃ fittedAdapter, call = .register fittedAdapter ∧ reply = .registered (.ok record) ∧
        fittedAdapter.adapterId = adapterId) ∨
      RegisteredIn log adapterId record ∧ call ≠ .release adapterId := by
  constructor
  · rintro ⟨before, since, fittedAdapter, hlog, hid, hsince⟩
    rcases List.eq_nil_or_concat since with rfl | ⟨init, last, rfl⟩
    · obtain ⟨-, hlast⟩ := List.append_inj' hlog rfl
      cases hlast
      exact Or.inl ⟨fittedAdapter, rfl, rfl, hid⟩
    · rw [List.concat_eq_append, ← List.cons_append, ← List.append_assoc] at hlog
      obtain ⟨rfl, hlast⟩ := List.append_inj' hlog rfl
      cases hlast
      refine Or.inr ⟨⟨before, init, fittedAdapter, rfl, hid, fun entry h => ?_⟩,
        hsince (call, reply) (by simp)⟩
      exact hsince entry (by simp [h])
  · rintro (⟨fittedAdapter, rfl, rfl, hid⟩ |
      ⟨⟨before, since, fittedAdapter, rfl, hid, hsince⟩, hcall⟩)
    · exact ⟨log, [], fittedAdapter, rfl, hid, fun _ h => absurd h List.not_mem_nil⟩
    · refine ⟨before, since ++ [(call, reply)], fittedAdapter, by simp, hid, fun entry h => ?_⟩
      rcases List.mem_append.mp h with h | h
      · exact hsince entry h
      · rw [List.mem_singleton.mp h]
        exact hcall

/-- The store holds the registrations that no call has released since. -/
theorem records_run {calls : List FittedAdapterCall} {adapterId : String}
    {record : FittedAdapterHandleRecord} :
    (new.run calls).records[adapterId]? = some record ↔
      RegisteredIn (new.log calls) adapterId record := by
  induction calls using List.reverseRecOn generalizing record with
  | nil => simp [run, new, log, Machine.log, RegisteredIn]
  | append_singleton calls call ih =>
    have hrun : new.run (calls ++ [call]) = ((new.run calls).step call).2 :=
      Machine.run_append ..
    have hlog : new.log (calls ++ [call]) =
        new.log calls ++ [(call, ((new.run calls).step call).1)] := Machine.log_append ..
    rw [hrun, hlog, registeredIn_concat, ← ih]
    -- The last call registers a handle, releases one, or changes nothing.
    rcases step_cases (new.run calls) call with ⟨fittedAdapter, rfl, -, hnew, hstep⟩ |
      ⟨released, rfl, -, hstep⟩ | ⟨hnone, hsame, hrelease⟩
    · rw [hstep]
      show (((new.run calls).records.insert fittedAdapter.adapterId _)[adapterId]? = _) ↔ _
      by_cases hid : fittedAdapter.adapterId = adapterId
      · subst hid
        rw [Std.ExtTreeMap.getElem?_insert_self, Std.ExtTreeMap.getElem?_eq_none hnew]
        constructor
        · intro h
          cases h
          exact Or.inl ⟨fittedAdapter, rfl, rfl, rfl⟩
        · rintro (⟨_, -, h, -⟩ | ⟨h, -⟩)
          · cases h
            rfl
          · cases h
      · rw [BTreeMap.getElem?_insert_of_ne hid]
        constructor
        · refine fun h => Or.inr ⟨h, fun hcall => ?_⟩
          cases hcall
        · rintro (⟨_, h, -, hid'⟩ | ⟨h, -⟩)
          · cases h
            exact absurd hid' hid
          · exact h
    · rw [hstep]
      show (((new.run calls).records.erase released)[adapterId]? = _) ↔ _
      by_cases hid : released = adapterId
      · subst hid
        rw [Std.ExtTreeMap.getElem?_erase_self]
        constructor
        · intro h
          cases h
        · rintro (⟨_, h, -, -⟩ | ⟨-, h⟩)
          · cases h
          · exact absurd rfl h
      · rw [BTreeMap.getElem?_erase_of_ne hid]
        constructor
        · refine fun h => Or.inr ⟨h, fun hcall => hid ?_⟩
          cases hcall
          rfl
        · rintro (⟨_, h, -, -⟩ | ⟨h, -⟩)
          · cases h
          · exact h
    · rw [hsame]
      constructor
      · refine fun h => Or.inr ⟨h, fun hcall => hrelease adapterId hcall ?_⟩
        exact BTreeMap.mem_iff_exists_getElem?.mpr ⟨record, h⟩
      · rintro (⟨_, -, h, -⟩ | ⟨h, -⟩)
        · rw [h] at hnone
          cases hnone
        · exact h

/-- Every record of the store is of a valid adapter, under its id. -/
theorem valid_of_registeredIn {calls : List FittedAdapterCall} {adapterId : String}
    {record : FittedAdapterHandleRecord} (h : RegisteredIn (new.log calls) adapterId record) :
    record.fittedAdapter.validate = .ok () ∧ record.fittedAdapter.adapterId = adapterId := by
  obtain ⟨before, since, fittedAdapter, hlog, hid, -⟩ := h
  have hmem : (.register fittedAdapter, .registered (.ok record)) ∈ new.log calls := by
    rw [hlog]
    exact List.mem_append_right _ List.mem_cons_self
  obtain ⟨pre, post, -, hreply⟩ := Machine.mem_log step hmem
  rcases hstep : (Machine.run step new pre).register fittedAdapter with ⟨result, after⟩
  have hresult : result = .ok record := by
    simpa [step, hstep] using hreply
  rw [hresult, register_eq_ok] at hstep
  obtain ⟨hvalid, -, rfl, -⟩ := hstep
  exact ⟨hvalid, hid⟩

theorem materialize_eq_ok {request : FittedAdapterMaterializationRequest} {handle : Nat} :
    state.materialize request = .ok handle ↔ request.validate = .ok () ∧
      ∃ record, state.records[request.adapterId]? = some record ∧
        record.fittedAdapter.paramsFingerprint = request.paramsFingerprint ∧
        record.handle = handle := by
  simp only [materialize, bind_eq_ok, exists_unit, require_eq_ok, rejectIf_eq_ok,
    bne_eq_false_iff_eq, pure_eq_ok]

theorem issuedHandles_run {calls : List FittedAdapterCall}
    (hsize : (issuedHandles new calls).length < 2 ^ 64 - 1) :
    issuedHandles new calls = List.range' 1 (issuedHandles new calls).length ∧
      (new.run calls).nextHandle = 1 + (issuedHandles new calls).length := by
  refine Machine.minted_eq_range mintsFromCounter ?_
  show 1 + (issuedHandles new calls).length < u64Size
  rw [u64Size]
  omega

/-- The run of a fresh store, while the counter does not wrap. -/
theorem fittedAdapterStore_run (calls : List FittedAdapterCall)
    (hsize : (issuedHandles new calls).length < 2 ^ 64 - 1) :
    let state := new.run calls
    (issuedHandles new calls).Nodup ∧
      (∀ handle ∈ issuedHandles new calls, handle ≠ 0 ∧ handle < state.nextHandle) ∧
      (∀ request handle, state.materialize request = .ok handle ↔
        ∃ record, RegisteredIn (new.log calls) request.adapterId record ∧
          record.fittedAdapter.paramsFingerprint = request.paramsFingerprint ∧
          record.handle = handle) ∧
      ∀ call, ((state.step call).1.fails = true ∨ ∃ request, call = .materialize request) →
        (state.step call).2 = state := by
  intro state
  obtain ⟨hrange, hnext⟩ := issuedHandles_run hsize
  refine ⟨?_, fun handle hhandle => ?_, fun request handle => ?_, fun call => step_unchanged⟩
  · rw [hrange]
    exact List.nodup_range'
  · rw [hrange, List.mem_range'_1] at hhandle
    exact ⟨by omega, hnext ▸ hhandle.2⟩
  · simp only [state, materialize_eq_ok, records_run]
    refine ⟨And.right, fun h => ⟨?_, h⟩⟩
    -- A request that matches a registered adapter is valid, because the adapter is.
    obtain ⟨record, hrecord, hparams, -⟩ := h
    obtain ⟨hvalid, hid⟩ := valid_of_registeredIn hrecord
    obtain ⟨hnamed, hfingerprint⟩ := record.fittedAdapter.identity_of_validate hvalid
    simp only [FittedAdapterMaterializationRequest.validate, bind_eq_ok, exists_unit,
      rejectIf_eq_ok, validateAdapterFingerprint_eq_ok]
    exact ⟨hid ▸ hnamed, hparams ▸ hfingerprint⟩

/-! ## Manifests -/

/-- The store after it has taken in the records: they have the handles from the counter on, in
order, and every other adapter has what it had. -/
structure Takes (before : FittedAdapterStoreState) (records : List FittedAdapterHandleRecord)
    (after : FittedAdapterStoreState) : Prop where
  handles : records.map (·.handle) = List.range' before.nextHandle records.length
  nextHandle : after.nextHandle = before.nextHandle + records.length
  records : ∀ adapterId, after.records[adapterId]? =
    (records.find? (·.fittedAdapter.adapterId == adapterId)).or before.records[adapterId]?

theorem Takes.nil (state : FittedAdapterStoreState) : state.Takes [] state :=
  ⟨rfl, rfl, fun _ => rfl⟩

theorem Takes.cons {fittedAdapter : FittedAdapterRef} {records : List FittedAdapterHandleRecord}
    {after : FittedAdapterStoreState} (h : (state.insert fittedAdapter).Takes records after)
    (hnext : state.nextHandle + 1 < u64Size)
    (hother : ∀ record ∈ records, record.fittedAdapter.adapterId ≠ fittedAdapter.adapterId) :
    state.Takes (⟨state.nextHandle, fittedAdapter⟩ :: records) after := by
  have hcounter : (state.insert fittedAdapter).nextHandle = state.nextHandle + 1 :=
    Nat.mod_eq_of_lt hnext
  refine ⟨?_, ?_, fun adapterId => ?_⟩
  · rw [List.map_cons, h.handles, hcounter, List.length_cons, List.range'_succ]
  · rw [h.nextHandle, hcounter, List.length_cons]
    omega
  · rw [h.records, List.find?_cons]
    by_cases hid : fittedAdapter.adapterId = adapterId
    · subst hid
      have hnone : records.find?
        (·.fittedAdapter.adapterId == fittedAdapter.adapterId) = none := by
        simpa [List.find?_eq_none] using hother
      have hthis : (state.insert fittedAdapter).records[fittedAdapter.adapterId]? =
          some ⟨state.nextHandle, fittedAdapter⟩ := Std.ExtTreeMap.getElem?_insert_self
      simp [hnone, hthis]
    · have hrest : (state.insert fittedAdapter).records[adapterId]? = state.records[adapterId]? :=
        BTreeMap.getElem?_insert_of_ne hid
      have hfalse : (fittedAdapter.adapterId == adapterId) = false := beq_false_of_ne hid
      simp [hfalse, hrest]

/-- How the loop over the entries ends: with all of them in the store, or with those before the
first whose adapter was already there. -/
theorem registerEntries_cases {entries : List FittedAdapterManifestEntry}
    (hvalid : ∀ entry ∈ entries, entry.fittedAdapter.validate = .ok ())
    (hnodup : (entries.map (·.fittedAdapter.adapterId)).Nodup)
    (hroom : state.nextHandle + entries.length < u64Size) :
    ∃ taken records,
      records.map (·.fittedAdapter) = taken.map (·.fittedAdapter) ∧
      state.Takes records (state.registerEntries entries).2 ∧
      (∀ entry ∈ taken, entry.fittedAdapter.adapterId ∉ state.records) ∧
      ((taken = entries ∧ (state.registerEntries entries).1 = .ok records) ∨
        ∃ e entry rest, entries = taken ++ entry :: rest ∧
          entry.fittedAdapter.adapterId ∈ state.records ∧
          (state.registerEntries entries).1 = .error e) := by
  induction entries generalizing state with
  | nil => exact ⟨[], [], rfl, .nil state,
      fun _ h => absurd h List.not_mem_nil, Or.inl ⟨rfl, rfl⟩⟩
  | cons entry entries ih =>
    rw [List.length_cons] at hroom
    obtain ⟨hnew, hnodup⟩ := List.nodup_cons.mp hnodup
    rcases hregister : state.register entry.fittedAdapter with ⟨e | record, after⟩
    · obtain ⟨rfl, hthere⟩ := register_error hregister
      have hstop : after.registerEntries (entry :: entries) = (.error e, after) := by
        simp only [registerEntries, hregister]
      refine ⟨[], [], rfl, ?_, fun _ h => absurd h List.not_mem_nil,
        Or.inr ⟨e, entry, entries, rfl,
        hthere (hvalid entry List.mem_cons_self), ?_⟩⟩
      · rw [hstop]
        exact .nil _
      · rw [hstop]
    · obtain ⟨-, habsent, rfl, rfl⟩ := register_eq_ok.mp hregister
      have hcounter : (state.insert entry.fittedAdapter).nextHandle = state.nextHandle + 1 :=
        Nat.mod_eq_of_lt (by omega)
      -- The other entries do not see the difference that this one makes.
      have hsame : ∀ other ∈ entries, other.fittedAdapter.adapterId ∈
          (state.insert entry.fittedAdapter).records ↔
            other.fittedAdapter.adapterId ∈ state.records := by
        intro other hother
        refine BTreeMap.mem_congr (BTreeMap.getElem?_insert_of_ne fun heq => hnew ?_)
        exact List.mem_map.mpr ⟨other, hother, heq.symm⟩
      obtain ⟨taken, records, hmap, htakes, hfree, hend⟩ :=
        @ih (state.insert entry.fittedAdapter)
          (fun other h => hvalid other (List.mem_cons_of_mem _ h)) hnodup (by rw [hcounter]; omega)
      have hsub : ∀ other ∈ taken, other ∈ entries := by
        intro other hother
        rcases hend with ⟨rfl, -⟩ | ⟨_, _, _, rfl, -⟩
        · exact hother
        · exact List.mem_append_left _ hother
      have hdistinct : ∀ record ∈ records,
          record.fittedAdapter.adapterId ≠ entry.fittedAdapter.adapterId := by
        intro record hrecord heq
        have hmem : record.fittedAdapter ∈ taken.map (·.fittedAdapter) :=
          hmap ▸ List.mem_map_of_mem hrecord
        obtain ⟨other, hother, hother'⟩ := List.mem_map.mp hmem
        refine hnew (List.mem_map.mpr ⟨other, hsub other hother, ?_⟩)
        rw [hother', heq]
      have htakes' := htakes.cons (by omega) hdistinct
      have hfree' : ∀ other ∈ entry :: taken,
        other.fittedAdapter.adapterId ∉ state.records := by
        intro other hother
        rcases List.mem_cons.mp hother with rfl | hother
        · exact habsent
        · exact fun hmem => hfree other hother ((hsame other (hsub other hother)).mpr hmem)
      have hrefs : (⟨state.nextHandle, entry.fittedAdapter⟩ :: records).map (·.fittedAdapter) =
          (entry :: taken).map (·.fittedAdapter) := by
        rw [List.map_cons, List.map_cons, hmap]
      refine ⟨entry :: taken, ⟨state.nextHandle, entry.fittedAdapter⟩ :: records,
        hrefs, ?_, hfree',
        ?_⟩
      · have hafter : (state.registerEntries (entry :: entries)).2 =
            ((state.insert entry.fittedAdapter).registerEntries entries).2 := by
          simp only [registerEntries, hregister]
          split <;> next h => rw [h]
        rw [hafter]
        exact htakes'
      · rcases hend with ⟨rfl, hok⟩ | ⟨e, clash, rest, rfl, hclash, herror⟩
        · refine Or.inl ⟨rfl, ?_⟩
          simp only [registerEntries, hregister]
          split
          · next h => rw [h] at hok; cases hok
          · next h => rw [h] at hok; cases hok; rfl
        · refine Or.inr ⟨e, clash, rest, rfl, (hsame clash (by simp)).mp hclash, ?_⟩
          simp only [registerEntries, hregister]
          split
          · next h => rw [h] at herror; cases herror; rfl
          · next h => rw [h] at herror; cases herror

/-- A manifest is registered as a whole, or it is refused: an invalid one with nothing registered, a
valid one with exactly the entries before the first whose adapter the store already has. -/
theorem registerManifest_outcome (calls : List FittedAdapterCall) (manifest : FittedAdapterManifest)
    (hsize : (issuedHandles new calls).length + manifest.entries.length < 2 ^ 64 - 1) :
    let state := new.run calls
    let (result, after) := state.registerManifest manifest
    (∀ records, result = .ok records →
      records.map (·.fittedAdapter) = manifest.entries.map (·.fittedAdapter) ∧
        (records.map (·.handle)).Nodup ∧
        (∀ record ∈ records, record.handle ∉ issuedHandles new calls) ∧
        state.Takes records after) ∧
      ∀ e, result = .error e →
        (manifest.validate = .error e ∧ after = state) ∨
          ∃ taken entry rest records, manifest.validate = .ok () ∧
            manifest.entries = taken ++ entry :: rest ∧
            entry.fittedAdapter.adapterId ∈ state.records ∧
            (∀ earlier ∈ taken, earlier.fittedAdapter.adapterId ∉ state.records) ∧
            records.map (·.fittedAdapter) = taken.map (·.fittedAdapter) ∧
            state.Takes records after := by
  intro state
  obtain ⟨hrange, hnext⟩ :=
    issuedHandles_run (show (issuedHandles new calls).length < _ by omega)
  rw [show new.run calls = state from rfl] at hnext
  cases hvalid : manifest.validate with
  | error e =>
    have hrefused : state.registerManifest manifest = (.error e, state) := by
      simp only [registerManifest, hvalid]
    rw [hrefused]
    dsimp only
    refine ⟨nofun, fun e' h => Or.inl ⟨congrArg _ (Except.error.inj h), rfl⟩⟩
  | ok u =>
    have hentries : state.registerManifest manifest = state.registerEntries manifest.entries := by
      simp only [registerManifest, hvalid]
    obtain ⟨hrefs, hnodup⟩ := FittedAdapterManifest.of_validate hvalid
    have hroom : state.nextHandle + manifest.entries.length < u64Size := by
      rw [hnext, u64Size]
      omega
    obtain ⟨taken, records, hmap, htakes, hfree, hend⟩ :=
      registerEntries_cases hrefs hnodup hroom
    rw [hentries]
    rcases hresult : state.registerEntries manifest.entries with ⟨result, after⟩
    rw [hresult] at htakes hend
    dsimp only at htakes hend ⊢
    rcases hend with ⟨rfl, rfl⟩ | ⟨e, entry, rest, hsplit, hclash, rfl⟩
    · refine ⟨fun _ h => ?_, nofun⟩
      cases h
      refine ⟨hmap, ?_, fun record hrecord hissued => ?_, htakes⟩
      · rw [htakes.handles]
        exact List.nodup_range'
      · -- The handles of the manifest start where the issued ones end.
        have hhandle : record.handle ∈ List.range' state.nextHandle records.length :=
          htakes.handles ▸ List.mem_map_of_mem hrecord
        rw [List.mem_range'_1] at hhandle
        rw [hrange, List.mem_range'_1] at hissued
        omega
    · exact ⟨nofun, fun _ _ => Or.inr
        ⟨taken, entry, rest, records, rfl, hsplit, hclash, hfree, hmap, htakes⟩⟩

end FittedAdapterStoreState

/-! ## Calls on a store with one adapter -/

open FittedAdapterStoreState

def zeroFingerprint : String := "0000000000000000000000000000000000000000000000000000000000000000"

/-- An adapter with inline state. -/
def inlineAdapter (adapterId : String) : FittedAdapterRef where
  schemaVersion := 1
  adapterId := adapterId
  adapterVersion := "1.0.0"
  paramsFingerprint := zeroFingerprint
  backend := none
  uri := none
  contentFingerprint := none
  sizeBytes := none
  plugin := none
  pluginVersion := none
  metadata := ∅

/-- An adapter that is registered again after its release. -/
def snvCalls : List FittedAdapterCall :=
  [.register (inlineAdapter "snv"), .release "snv", .register (inlineAdapter "snv")]

theorem issuedHandles_snvCalls : (issuedHandles new snvCalls).length < 2 ^ 64 - 1 :=
  lt_of_le_of_lt (Machine.length_minted_le _ _) (show 3 < 2 ^ 64 - 1 by decide)

theorem fittedAdapterStore_run_snv :
    (issuedHandles new snvCalls).Nodup ∧
      ∀ handle, (new.run snvCalls).materialize ⟨"snv", zeroFingerprint⟩ = .ok handle ↔
        ∃ record, RegisteredIn (new.log snvCalls) "snv" record ∧
          record.fittedAdapter.paramsFingerprint = zeroFingerprint ∧ record.handle = handle := by
  obtain ⟨hnodup, -, hserved, -⟩ := fittedAdapterStore_run snvCalls issuedHandles_snvCalls
  exact ⟨hnodup, hserved ⟨"snv", zeroFingerprint⟩⟩

/-- A new adapter, and then one that is in the store. -/
def clashingManifest : FittedAdapterManifest where
  schemaVersion := 1
  entries := [⟨"msc", inlineAdapter "msc"⟩, ⟨"snv", inlineAdapter "snv"⟩]

theorem clashingManifest_refused :
    ((new.run snvCalls).registerManifest clashingManifest).1.isOk = false := by
  decide +kernel

/-- The manifest is refused, and its first entry is registered. -/
theorem clashingManifest_registers_one :
    let state := new.run snvCalls
    ∃ e, (state.registerManifest clashingManifest).1 = .error e ∧
      (state.registerManifest clashingManifest).2 ≠ state := by
  intro state
  obtain ⟨e, he⟩ := exists_error clashingManifest_refused
  refine ⟨e, he, fun hsame => ?_⟩
  have hbefore : state.records.contains "msc" = false := by decide +kernel
  have hafter : (state.registerManifest clashingManifest).2.records.contains "msc" = true := by
    decide +kernel
  rw [hsame, hbefore] at hafter
  cases hafter

theorem clashingManifest_outcome :
    let state := new.run snvCalls
    ∃ taken entry rest records, clashingManifest.entries = taken ++ entry :: rest ∧
      entry.fittedAdapter.adapterId ∈ state.records ∧
      records.map (·.fittedAdapter) = taken.map (·.fittedAdapter) ∧
      state.Takes records (state.registerManifest clashingManifest).2 := by
  intro state
  obtain ⟨e, he⟩ := exists_error clashingManifest_refused
  have hsize : (issuedHandles new snvCalls).length + clashingManifest.entries.length <
      2 ^ 64 - 1 :=
    lt_of_le_of_lt (Nat.add_le_add_right (Machine.length_minted_le _ _) _)
      (show 3 + 2 < 2 ^ 64 - 1 by decide)
  have hvalid : clashingManifest.validate.isOk = true := by decide +kernel
  rcases (registerManifest_outcome snvCalls clashingManifest hsize).2 e he with ⟨hinvalid, -⟩ |
    ⟨taken, entry, rest, records, -, hsplit, hclash, -, hrefs, htakes⟩
  · rw [hinvalid] at hvalid
    cases hvalid
  · exact ⟨taken, entry, rest, records, hsplit, hclash, hrefs, htakes⟩

end DagMlData
