import DagMlData.Lib.RustText

/-!
# JSON values

`serde_json::Value` as the contracts carry it: in metadata, in selectors and in feature rows.
The fields of an object are a list of key and value pairs, with no key twice.

`Json.eq` is the `PartialEq` of the source's dependency. It differs from equality in Lean on
floats, where `0.0` equals `-0.0`, and on the order of the keys of an object.
-/

namespace DagMlData

/-- A JSON number: an integer that fits in `u64` or `i64`, or a finite float. -/
inductive JsonNumber
  | int (n : Int)
  | float (x : F64)
deriving DecidableEq, Repr

def JsonNumber.eq : JsonNumber → JsonNumber → Bool
  | .int m, .int n => m == n
  | .float x, .float y => x.eq y
  | _, _ => false

namespace JsonNumber

/-- `Number::as_f64`. -/
def asF64 : JsonNumber → F64
  | .int n => F64.ofInt n
  | .float x => x

/-- What a `serde_json::Number` holds: an integer of 64 bits, or a finite float. -/
def Fits : JsonNumber → Prop
  | .int n => -2 ^ 63 ≤ n ∧ n < 2 ^ 64
  | .float x => x.isFinite = true

theorem Fits.isFinite_asF64 {n : JsonNumber} (h : n.Fits) : n.asF64.isFinite = true := by
  cases n with
  | int n =>
    obtain ⟨hlow, hhigh⟩ := h
    exact F64.isFinite_ofInt (by omega)
  | float x => exact h

end JsonNumber

inductive Json
  | null
  | bool (b : Bool)
  | number (n : JsonNumber)
  | string (s : String)
  | array (items : List Json)
  | object (fields : List (String × Json))
deriving Repr

namespace Json

mutual

def eq : Json → Json → Bool
  | .null, .null => true
  | .bool a, .bool b => a == b
  | .number m, .number n => m.eq n
  | .string s, .string t => s == t
  | .array xs, .array ys => eqItems xs ys
  | .object fs, .object gs => fs.length == gs.length && eqFields fs gs
  | _, _ => false

def eqItems : List Json → List Json → Bool
  | [], [] => true
  | x :: xs, y :: ys => eq x y && eqItems xs ys
  | _, _ => false

/-- Every field of the first object has an equal value in the second. -/
def eqFields : List (String × Json) → List (String × Json) → Bool
  | [], _ => true
  | (k, v) :: fs, gs =>
    (match gs.lookup k with
      | some w => eq v w
      | none => false) && eqFields fs gs

end

instance : BEq Json := ⟨Json.eq⟩

/-- `Value::as_str`. -/
def asStr : Json → Option String
  | .string s => some s
  | _ => none

/-- `Value::as_array`. -/
def asArray : Json → Option (List Json)
  | .array items => some items
  | _ => none

def isNull : Json → Bool
  | .null => true
  | _ => false

/-- `Value::get` with a key: the field of an object, nothing for the other values. -/
def get (j : Json) (key : String) : Option Json :=
  match j with
  | .object fields => fields.lookup key
  | _ => none

/-- `Value::from(f64)`: a float that is not finite has no JSON number and becomes null. -/
def ofF64 (x : F64) : Json := if x.isFinite then .number (.float x) else .null

@[simp] theorem asStr_string (s : String) : asStr (.string s) = some s := rfl

@[simp] theorem asArray_array (xs : List Json) : asArray (.array xs) = some xs := rfl

theorem asStr_eq_some {j : Json} {s : String} : j.asStr = some s ↔ j = .string s := by
  cases j <;> simp [asStr]

end Json

end DagMlData
