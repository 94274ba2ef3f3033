import DagMlData.Error
import DagMlData.Json
import DagMlData.Lib.RustMap

/-!
# Canonical JSON and fingerprints

`typedFingerprint` of the source: the value as JSON, with the fields of a structure in declared
order and the keys of every nested object sorted, printed in the compact form and digested.

`ThirdParty` has what comes from outside of the repository: the SHA-256 digest, the shortest
decimal form of a float, and the texts of deserialization errors. What a theorem assumes about
them is a hypothesis of it.
-/

namespace DagMlData

open RustText

/-- Code of third-party packages that the source calls. -/
class ThirdParty where
  /-- `Sha256::digest`. -/
  sha256 : List UInt8 → Vector UInt8 32
  /-- How `serde_json` prints a finite float. -/
  formatF64 : F64 → String
  /-- The message of `serde_json::from_value` when it refuses a native branch filter. -/
  filterError : Json → String
  /-- The message of `serde_json::from_value` when it refuses an alignment mode. -/
  alignmentError : Json → String

/-- The hexadecimal digit of a value below 16. -/
def hexDigit (n : Nat) : Char := Char.ofNat (if n < 10 then 48 + n else 87 + n)

/-- `to_hex`. -/
def toHex (bytes : List UInt8) : String :=
  String.ofList (bytes.flatMap fun b => [hexDigit (b.toNat / 16), hexDigit (b.toNat % 16)])

/-- The value of a hexadecimal digit. -/
def hexValue (c : Char) : Nat := if c.toNat < 58 then c.toNat - 48 else c.toNat - 87

/-- The digest whose hexadecimal form is given. -/
def digestOfHex (hex : String) : Vector UInt8 32 :=
  Vector.ofFn fun i => UInt8.ofNat
    (16 * hexValue (hex.toList.getD (2 * i) '0') + hexValue (hex.toList.getD (2 * i + 1) '0'))

/-- Third-party code as far as it is known from a table of digests of texts. -/
@[reducible] def ThirdParty.ofTable (digests : List (String × String)) : ThirdParty where
  sha256 input :=
    digestOfHex (((digests.find? fun entry => bytes entry.1 == input).map Prod.snd).getD "")
  formatF64 _ := "0.0"
  filterError _ := "invalid type"
  alignmentError _ := "invalid type"

/-! ## The compact form -/

/-- A character inside of a JSON string. -/
def escapeChar (c : Char) : List Char :=
  match c with
  | '"' => ['\\', '"']
  | '\\' => ['\\', '\\']
  | '\n' => ['\\', 'n']
  | '\r' => ['\\', 'r']
  | '\t' => ['\\', 't']
  | c =>
    if c.toNat = 8 then ['\\', 'b']
    else if c.toNat = 12 then ['\\', 'f']
    else if c.toNat < 32 then
      ['\\', 'u', '0', '0', hexDigit (c.toNat / 16), hexDigit (c.toNat % 16)]
    else [c]

def quote (s : String) : String := "\"" ++ String.ofList (s.toList.flatMap escapeChar) ++ "\""

namespace Json

section Printing
variable [ThirdParty]

def printNumber : JsonNumber → String
  | .int n => toString n
  | .float x => ThirdParty.formatF64 x

mutual

/-- `serde_json::to_vec`, as text. -/
def compact : Json → String
  | .null => "null"
  | .bool b => if b then "true" else "false"
  | .number n => printNumber n
  | .string s => quote s
  | .array items => "[" ++ compactItems items ++ "]"
  | .object fields => "\x7b" ++ compactFields fields ++ "\x7d"

def compactItems : List Json → String
  | [] => ""
  | [x] => compact x
  | x :: xs => compact x ++ "," ++ compactItems xs

def compactFields : List (String × Json) → String
  | [] => ""
  | [(k, v)] => quote k ++ ":" ++ compact v
  | (k, v) :: fs => quote k ++ ":" ++ compact v ++ "," ++ compactFields fs

end

/-- The digest of the canonical form of a value whose nested objects are sorted. -/
def fingerprint (j : Json) : String := toHex (ThirdParty.sha256 (bytes j.compact)).toList

end Printing

mutual

/-- `Value::sort_all_objects`. -/
def sortAllObjects : Json → Json
  | .array items => .array (sortItems items)
  | .object fields =>
    .object ((sortFields fields).insertionSort fun a b => compare a.1 b.1 ≠ .gt)
  | j => j

def sortItems : List Json → List Json
  | [] => []
  | x :: xs => sortAllObjects x :: sortItems xs

def sortFields : List (String × Json) → List (String × Json)
  | [] => []
  | (k, v) :: fs => (k, sortAllObjects v) :: sortFields fs

end

/-! ## Building values -/

/-- An optional field: `null` when it is absent. -/
def ofOption {α : Type} (f : α → Json) (o : Option α) : Json := (o.map f).getD .null

def ofList {α : Type} (f : α → Json) (xs : List α) : Json := .array (xs.map f)

/-- A map of values, in key order. -/
def ofMap (m : BTreeMap String Json) : Json :=
  .object (m.toList.map fun p => (p.1, sortAllObjects p.2))

/-- A field that is left out when `skip` holds. -/
def fieldUnless (skip : Bool) (key : String) (value : Json) : List (String × Json) :=
  if skip then [] else [(key, value)]

end Json

end DagMlData
