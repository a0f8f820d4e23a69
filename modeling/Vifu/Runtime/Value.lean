import Mathlib.Data.Nat.Notation

/-!
# JSON values and machine integers

`Value` is the tree `serde_json::Value` that requests, session state and manifests carry.
Unsigned 64-bit counters are natural numbers; the operations that saturate at the width
are spelled out here.
-/

namespace Vifu.Runtime

/-- The largest `u64`. -/
def u64Max : ℕ := 18446744073709551615

def saturatingAdd (left right : ℕ) : ℕ := min (left + right) u64Max

/-- A JSON number: `u64`, a negative `i64`, or the bits of a finite `f64`. -/
inductive Number where
  | posInt (value : ℕ)
  | negInt (value : Int)
  | float (bits : UInt64)
  deriving DecidableEq, Repr

/-- A JSON value.  The fields of an object stand in key order. -/
inductive Value where
  | null
  | bool (value : Bool)
  | number (value : Number)
  | string (value : String)
  | array (values : List Value)
  | object (fields : List (String × Value))
  deriving Repr

namespace Value

mutual

def decEq : (left right : Value) → Decidable (left = right)
  | .null, .null => isTrue rfl
  | .bool left, .bool right => decidable_of_iff (left = right) (by simp)
  | .number left, .number right => decidable_of_iff (left = right) (by simp)
  | .string left, .string right => decidable_of_iff (left = right) (by simp)
  | .array left, .array right =>
    have := decEqList left right
    decidable_of_iff (left = right) (by simp)
  | .object left, .object right =>
    have := decEqFields left right
    decidable_of_iff (left = right) (by simp)
  | .null, .bool _ | .null, .number _ | .null, .string _ | .null, .array _ | .null, .object _
  | .bool _, .null | .bool _, .number _ | .bool _, .string _ | .bool _, .array _ | .bool _, .object _
  | .number _, .null | .number _, .bool _ | .number _, .string _ | .number _, .array _
  | .number _, .object _
  | .string _, .null | .string _, .bool _ | .string _, .number _ | .string _, .array _
  | .string _, .object _
  | .array _, .null | .array _, .bool _ | .array _, .number _ | .array _, .string _
  | .array _, .object _
  | .object _, .null | .object _, .bool _ | .object _, .number _ | .object _, .string _
  | .object _, .array _ => isFalse nofun

def decEqList : (left right : List Value) → Decidable (left = right)
  | [], [] => isTrue rfl
  | [], _ :: _ | _ :: _, [] => isFalse nofun
  | left :: lefts, right :: rights =>
    have := decEq left right
    have := decEqList lefts rights
    decidable_of_iff (left = right ∧ lefts = rights) (by simp)

def decEqFields : (left right : List (String × Value)) → Decidable (left = right)
  | [], [] => isTrue rfl
  | [], _ :: _ | _ :: _, [] => isFalse nofun
  | (leftKey, left) :: lefts, (rightKey, right) :: rights =>
    have := decEq left right
    have := decEqFields lefts rights
    decidable_of_iff (leftKey = rightKey ∧ left = right ∧ lefts = rights) (by simp [and_assoc])

end

instance : DecidableEq Value := decEq

end Value

instance : Inhabited Value := ⟨.null⟩

/-- `Value::Object(Default::default())`. -/
def Value.emptyObject : Value := .object []

/-! ## JSON texts -/

/-- `serde_json::to_vec` and `from_slice` at one type, which come from outside the repository. -/
structure JsonCodec (α : Type) where
  toVec : α → Except String (List UInt8)
  fromSlice : List UInt8 → Except String α

def JsonCodec.RoundTrips {α : Type} (codec : JsonCodec α) (value : α) : Prop :=
  ∃ text, codec.toVec value = .ok text ∧ codec.fromSlice text = .ok value

end Vifu.Runtime
