import Vifu.Runtime.FrameCodec
import Vifu.Sdk.JsValue

/-!
# Gateway frames of the scripts

The frames of `packages/protocol/src/frame.ts`, checked by hand on whatever value they come as, and how they agree with
the frames of the runtime.  A text of either codec is read by the other as the same frame, but for the frames whose
texts the runtime still sends and the scripts find too large.
-/

namespace Vifu.Sdk

open Foundation Vifu.Runtime

def maxGatewayFrameBytes : ℕ := 16777216

inductive FrameError where
  | typeError (message : String)
  | rangeError (message : String)
  deriving DecidableEq

/-! ## Sizes -/

def codeUnits (character : Char) : List ℕ :=
  if character.toNat < 0x10000 then [character.toNat]
  else [0xd800 + (character.toNat - 0x10000) / 0x400, 0xdc00 + (character.toNat - 0x10000) % 0x400]

def isSurrogatePair (code next : ℕ) : Bool := 0xd800 ≤ code && code ≤ 0xdbff && 0xdc00 ≤ next && next ≤ 0xdfff

def unitBytes (code : ℕ) : ℕ := if code < 0x80 then 1 else if code < 0x800 then 2 else 3

def unitsByteLength : List ℕ → ℕ
  | [] => 0
  | [code] => unitBytes code
  | code :: next :: units =>
    if isSurrogatePair code next then 4 + unitsByteLength units else unitBytes code + unitsByteLength (next :: units)

def utf8ByteLength (value : String) : ℕ := unitsByteLength (value.toList.flatMap codeUnits)

theorem unitsByteLength_unit {code : ℕ} (single : code < 0xd800 ∨ 0xdfff < code) (units : List ℕ) :
    unitsByteLength (code :: units) = unitBytes code + unitsByteLength units := by
  cases units with
  | nil => rfl
  | cons next units =>
    have noPair : isSurrogatePair code next = false := by
      simp only [isSurrogatePair, Bool.and_eq_false_iff, decide_eq_false_iff_not]
      omega
    rw [unitsByteLength, noPair]
    rfl

theorem utf8Size_eq (character : Char) :
    character.utf8Size = if character.toNat < 0x80 then 1 else if character.toNat < 0x800 then 2
      else if character.toNat < 0x10000 then 3 else 4 := by
  have bounds : (character.val ≤ 0x7f ↔ character.toNat < 0x80) ∧ (character.val ≤ 0x7ff ↔ character.toNat < 0x800) ∧
      (character.val ≤ 0xffff ↔ character.toNat < 0x10000) := by
    simp only [UInt32.le_iff_toNat_le, Char.toNat_val, UInt32.reduceToNat]
    omega
  have size : character.utf8Size =
      if character.val ≤ 0x7f then 1 else if character.val ≤ 0x7ff then 2 else if character.val ≤ 0xffff then 3 else 4 := rfl
  simp only [size, bounds.1, bounds.2.1, bounds.2.2]

theorem unitsByteLength_codeUnits (character : Char) (units : List ℕ) :
    unitsByteLength (codeUnits character ++ units) = character.utf8Size + unitsByteLength units := by
  have valid : character.toNat < 0xd800 ∨ 0xdfff < character.toNat ∧ character.toNat < 0x110000 := character.valid
  rw [codeUnits, utf8Size_eq]
  by_cases short : character.toNat < 0x10000
  · have single : character.toNat < 0xd800 ∨ 0xdfff < character.toNat := valid.imp_right And.left
    rw [if_pos short, List.singleton_append, unitsByteLength_unit single, unitBytes]
    simp [short]
  · have pair : isSurrogatePair (0xd800 + (character.toNat - 0x10000) / 0x400)
        (0xdc00 + (character.toNat - 0x10000) % 0x400) = true := by
      simp only [isSurrogatePair, Bool.and_eq_true, decide_eq_true_eq]
      omega
    have long : ¬character.toNat < 0x80 ∧ ¬character.toNat < 0x800 := by omega
    rw [if_neg short, List.cons_append, List.singleton_append, unitsByteLength, pair]
    simp [short, long]

theorem utf8ByteLength_eq (value : String) : utf8ByteLength value = value.utf8ByteSize := by
  rw [utf8ByteLength, utf8ByteSize_eq]
  induction value.toList with
  | nil => rfl
  | cons character characters ih =>
    rw [List.flatMap_cons, unitsByteLength_codeUnits, String.utf8Len_cons]
    omega

/-! ## Guards -/

def isRecord : JsValue → Bool
  | .object _ => true
  | .undefined | .null | .bool _ | .number _ | .string _ | .array _ => false

def hasOnlyKeys (value : JsValue) (allowedKeys : List String) : Bool := value.keys.all fun key => allowedKeys.contains key

def isText (text : String) : JsValue → Bool
  | .string value => value == text
  | .undefined | .null | .bool _ | .number _ | .array _ | .object _ => false

def isNonEmptyString : JsValue → Bool
  | .string value => value != ""
  | .undefined | .null | .bool _ | .number _ | .array _ | .object _ => false

def isBoolean : JsValue → Bool
  | .bool _ => true
  | .undefined | .null | .number _ | .string _ | .array _ | .object _ => false

/-- `Number.isInteger` of the `f64` with the given bits: its last digit counts a multiple of one. -/
def floatIsInteger (bits : UInt64) : Bool :=
  let exponent := bits.toNat / 2 ^ 52 % 2 ^ 11
  let mantissa := bits.toNat % 2 ^ 52 + if exponent = 0 then 0 else 2 ^ 52
  exponent < 2047 && (1075 ≤ exponent || mantissa % 2 ^ (1075 - max exponent 1) == 0)

def isNonNegativeInteger : JsValue → Bool
  | .number (.posInt _) => true
  | .number (.negInt value) => 0 ≤ value
  -- The sign bit is not set, or the value is the negative zero.
  | .number (.float bits) => floatIsInteger bits && bits.toNat ≤ 2 ^ 63
  | .undefined | .null | .bool _ | .string _ | .array _ | .object _ => false

def isOptional (guard : JsValue → Bool) : JsValue → Bool
  | .undefined => true
  | value => guard value

def isErrorShape (value : JsValue) : Bool :=
  isRecord value && hasOnlyKeys value ["code", "message", "details", "retryable", "retryAfterMs"] &&
    isNonEmptyString (value.property "code") && isNonEmptyString (value.property "message") &&
    isOptional isBoolean (value.property "retryable") && isOptional isNonNegativeInteger (value.property "retryAfterMs")

def isStateVersion (value : JsValue) : Bool :=
  isRecord value && hasOnlyKeys value ["presence", "health"] && isNonNegativeInteger (value.property "presence") &&
    isNonNegativeInteger (value.property "health")

def isRequestFrame (value : JsValue) : Bool :=
  isRecord value && hasOnlyKeys value ["type", "id", "method", "params"] && isText "req" (value.property "type") &&
    isNonEmptyString (value.property "id") && isNonEmptyString (value.property "method")

def isResponseFrame (value : JsValue) : Bool :=
  isRecord value && hasOnlyKeys value ["type", "id", "ok", "payload", "error"] && isText "res" (value.property "type") &&
    isNonEmptyString (value.property "id") && isBoolean (value.property "ok") &&
    isOptional isErrorShape (value.property "error")

def isEventFrame (value : JsValue) : Bool :=
  isRecord value && hasOnlyKeys value ["type", "event", "payload", "seq", "stateVersion"] &&
    isText "event" (value.property "type") && isNonEmptyString (value.property "event") &&
    isOptional isNonNegativeInteger (value.property "seq") && isOptional isStateVersion (value.property "stateVersion")

def isGatewayFrame (value : JsValue) : Bool := isRequestFrame value || isResponseFrame value || isEventFrame value

def encodeGatewayFrame (floats : FloatText) (frame : JsValue) : Except FrameError String := do
  ensure (isGatewayFrame frame = true) (.typeError "invalid gateway frame")
  let encoded ← okOr (.typeError "encoded is undefined") (frame.stringify floats)
  ensure (utf8ByteLength encoded ≤ maxGatewayFrameBytes) (.rangeError "gateway frame is too large")
  return encoded

def decodeGatewayFrame (reader : JsonReader) (source : String) : Except FrameError JsValue := do
  ensure (source ≠ "") (.typeError "gateway frame is empty")
  ensure (utf8ByteLength source ≤ maxGatewayFrameBytes) (.rangeError "gateway frame is too large")
  let value ← okOr (.typeError "invalid gateway frame") (JsValue.parse reader source)
  ensure (isGatewayFrame value = true) (.typeError "invalid gateway frame")
  return value

theorem encodeGatewayFrame_ok {floats : FloatText} {frame : JsValue} {encoded : String} :
    encodeGatewayFrame floats frame = .ok encoded ↔
      isGatewayFrame frame = true ∧ frame.stringify floats = some encoded ∧ encoded.utf8ByteSize ≤ maxGatewayFrameBytes := by
  simp only [encodeGatewayFrame, bind_ok, ensure_ok, exists_const, okOr_ok, pure_ok, utf8ByteLength_eq]
  constructor
  · rintro ⟨guarded, text, writes, fits, rfl⟩
    exact ⟨guarded, writes, fits⟩
  · rintro ⟨guarded, writes, fits⟩
    exact ⟨guarded, encoded, writes, fits, rfl⟩

theorem decodeGatewayFrame_ok {reader : JsonReader} {source : String} {value : JsValue} :
    decodeGatewayFrame reader source = .ok value ↔
      source ≠ "" ∧ source.utf8ByteSize ≤ maxGatewayFrameBytes ∧ JsValue.parse reader source = some value ∧
        isGatewayFrame value = true := by
  simp only [decodeGatewayFrame, bind_ok, ensure_ok, exists_const, okOr_ok, pure_ok, utf8ByteLength_eq]
  constructor
  · rintro ⟨nonEmpty, fits, parsed, parses, guarded, rfl⟩
    exact ⟨nonEmpty, fits, parses, guarded⟩
  · rintro ⟨nonEmpty, fits, parses, guarded⟩
    exact ⟨nonEmpty, fits, value, parses, guarded, rfl⟩

variable {names : List String}

theorem recordEntries_normalized {fields : List (String × Value)}
    (isFields : recordEntries names (.object fields) = some fields) :
    ∃ entries, (Value.object fields).normalized = .object entries ∧ recordEntries names (.object entries) = some entries ∧
      ∀ key, getField key entries = (getField key fields).map Value.normalized := by
  obtain ⟨-, distinct, known⟩ := recordEntries_fields isFields
  have present : Distinct (normalizedFields fields) := by
    rw [normalizedFields_eq, distinct_map]
    exact distinct
  refine ⟨sortFields (normalizedFields fields), rfl, ?_, ?_⟩
  · rw [recordEntries, if_pos]
    refine ⟨(sorted_sortFields _).distinct, ?_⟩
    intro field mem
    rw [mem_sortFields present, normalizedFields_eq, List.mem_map] at mem
    obtain ⟨source, isSource, rfl⟩ := mem
    exact known source isSource
  · intro key
    rw [getField_sortFields present, normalizedFields_eq, getField_map]

theorem record_toJson {value : JsValue} (wellFormed : value.WellFormed)
    (isObject : isRecord value = true) (known : hasOnlyKeys value names = true) :
    ∃ fields, value.toJson = some (.object fields) ∧ recordEntries names (.object fields) = some fields ∧
      ∀ key, getField key fields = (value.property key).toJson := by
  cases value with
  | object properties =>
    refine ⟨JsValue.propertiesToJson properties, rfl, ?_, JsValue.getField_propertiesToJson wellFormed.distinct⟩
    have keys := JsValue.propertiesToJson_keys properties
    rw [recordEntries, if_pos]
    refine ⟨wellFormed.distinct.sublist keys, ?_⟩
    intro field mem
    rw [hasOnlyKeys, List.all_eq_true] at known
    exact List.contains_iff_mem.mp (known _ (keys.subset (List.mem_map_of_mem mem)))
  | undefined | null | bool | number | string | array => cases isObject

theorem record_ofJson {entries : List (String × Value)}
    (isRecordOf : recordEntries names (.object entries) = some entries) :
    isRecord (.ofJson (.object entries)) = true ∧ hasOnlyKeys (.ofJson (.object entries)) names = true := by
  obtain ⟨-, -, known⟩ := recordEntries_fields isRecordOf
  refine ⟨rfl, ?_⟩
  rw [hasOnlyKeys, JsValue.ofJson, JsValue.keys, JsValue.propertiesOfJson_keys, List.all_eq_true]
  intro key mem
  obtain ⟨field, isField, rfl⟩ := List.mem_map.mp mem
  exact List.contains_iff_mem.mpr (known field isField)

end Vifu.Sdk
