import Vifu.Runtime.FloatVectors
import Vifu.Runtime.Json

/-!
# The responses of providers

What an OpenAI compatible server or a local model answers is checked before the runtime passes it on.  Each check
returns the metadata that the stage of the check reports.
-/

namespace Vifu.Runtime

open Foundation

namespace Value

def asObject : Value → Option (List (String × Value))
  | .object fields => some fields
  | .null | .bool _ | .number _ | .string _ | .array _ => none

/-- `Value::as_f64` of a finite number.  An integer always has one. -/
def isFiniteNumber : Value → Bool
  | .number (.float bits) => decide (bits.toNat / 2 ^ 52 % 2 ^ 11 ≠ 2047)
  | .number (.posInt _) | .number (.negInt _) => true
  | .null | .bool _ | .string _ | .array _ | .object _ => false

end Value

def asBytes (text : String) : List UInt8 := text.toUTF8.data.toList

/-- `Value::Null | Value::String(_) | Value::Array(_)`. -/
def isChatContent : Value → Bool
  | .null | .string _ | .array _ => true
  | .bool _ | .number _ | .object _ => false

def isFunctionCall : Value → Bool
  | .null | .object _ => true
  | .bool _ | .number _ | .string _ | .array _ => false

def validateOpenaiChatResponse (response : Value) : Except String Value := do
  let choices ← okOr "chat response has no choices"
    (((response.get? "choices").bind Value.asArray).filter fun choices => !choices.isEmpty)
  let message ← okOr "chat response first choice has no assistant message"
    ((choices.head?.bind fun choice => choice.get? "message").bind Value.asObject)
  ensure (∀ role ∈ getField "role" message, role.asStr = some "assistant")
    "chat response first message is not from the assistant"
  let content := getField "content" message
  ensure (∀ value ∈ content, isChatContent value = true) "chat response assistant content has an invalid type"
  let toolCalls := getField "tool_calls" message
  ensure (∀ calls ∈ toolCalls, calls.asArray ≠ none) "chat response assistant tool_calls is not an array"
  let functionCall := getField "function_call" message
  ensure (∀ call ∈ functionCall, isFunctionCall call = true) "chat response assistant function_call is not an object"
  ensure (¬(content = none ∧ toolCalls = none ∧ functionCall = none))
    "chat response assistant message has no content or tool calls"
  return .object [("choices", .number (.posInt choices.length)), ("kind", .string "chat"),
    ("toolCalls", .number (.posInt ((toolCalls.bind Value.asArray).elim 0 List.length)))]

def embeddingRow (index : ℕ) (row : Value) : Except String (ℕ × String) := do
  let embedding ← okOr ("embedding row " ++ toString index ++ " has no vector") (row.get? "embedding")
  match embedding with
  | .array values => do
    ensure (values ≠ [] ∧ values.all Value.isFiniteNumber = true)
      ("embedding row " ++ toString index ++ " has an invalid numeric vector")
    return (values.length, "float")
  | .string encoded => do
    let dimensions ← (decodeBase64Float32Dimensions (asBytes encoded)).mapError fun message =>
      "embedding row " ++ toString index ++ " " ++ message
    return (dimensions, "base64")
  | .null | .bool _ | .number _ | .object _ =>
    .error ("embedding row " ++ toString index ++ " has an invalid vector type")

/-- The loop over the rows, with the dimension and the encoding of the rows before. -/
def embeddingRows (index : ℕ) (expected : Option (ℕ × String)) : List Value → Except String (Option (ℕ × String))
  | [] => .ok expected
  | row :: rows => do
    let (rowDimensions, rowEncoding) ← embeddingRow index row
    match expected with
    | none => embeddingRows (index + 1) (some (rowDimensions, rowEncoding)) rows
    | some (dimensions, encoding) => do
      ensure (dimensions = rowDimensions) ("embedding row " ++ toString index ++ " changed dimension from " ++
        toString dimensions ++ " to " ++ toString rowDimensions)
      ensure (encoding = rowEncoding) ("embedding row " ++ toString index ++ " changed encoding from " ++ encoding ++
        " to " ++ rowEncoding)
      embeddingRows (index + 1) (some (dimensions, encoding)) rows

def dataRows (response : Value) : Option (List Value) := (response.get? "data").bind Value.asArray

def validateOpenaiEmbeddingResponse (response : Value) : Except String Value := do
  let rows ← okOr "embedding response has no data rows" ((dataRows response).filter fun rows => !rows.isEmpty)
  let found ← embeddingRows 0 none rows
  return .object [("dimensions", found.elim .null fun found => .number (.posInt found.1)),
    ("encoding", found.elim .null fun found => .string found.2), ("kind", .string "embedding"),
    ("rows", .number (.posInt rows.length))]

def validateTranscriptionResponse (response : Value) : Except String Value := do
  let text ← okOr "transcription response text is missing or is not a string"
    ((response.get? "text").bind Value.asStr)
  return .object [("characters", .number (.posInt text.length)), ("kind", .string "transcription")]

theorem forall_of_embeddingRows {rows : List Value} {index : ℕ} {expected found : Option (ℕ × String)}
    (accepted : embeddingRows index expected rows = .ok found) : (∀ shape ∈ expected, found = some shape) ∧
      ∀ position row, rows[position]? = some row → ∃ shape, found = some shape ∧
        embeddingRow (index + position) row = .ok shape := by
  induction rows generalizing index expected with
  | nil =>
    simp only [embeddingRows, Except.ok.injEq] at accepted
    exact ⟨fun shape isShape => accepted ▸ isShape, by simp⟩
  | cons row rows ih =>
    obtain ⟨⟨dimensions, encoding⟩, counted, accepted⟩ := bind_ok.mp accepted
    have first : found = some (dimensions, encoding) ∧ (∀ shape ∈ expected, found = some shape) ∧
        embeddingRows (index + 1) found rows = .ok found := by
      cases expected with
      | none =>
        have same := (ih accepted).1 _ rfl
        exact ⟨same, by simp, same ▸ accepted⟩
      | some shape =>
        obtain ⟨sameDimension, accepted⟩ := check_bind_ok.mp accepted
        obtain ⟨sameEncoding, accepted⟩ := check_bind_ok.mp accepted
        have same := (ih accepted).1 _ rfl
        have shapes : shape = (dimensions, encoding) := Prod.ext (ensure_ok.mp sameDimension) (ensure_ok.mp sameEncoding)
        refine ⟨same.trans (congrArg some shapes), fun other isOther => ?_, same ▸ accepted⟩
        exact isOther ▸ same
    refine ⟨first.2.1, fun position element isElement => ?_⟩
    cases position with
    | zero =>
      rw [List.getElem?_cons_zero, Option.some.injEq] at isElement
      exact ⟨_, first.1, isElement ▸ counted⟩
    | succ position =>
      obtain ⟨shape, same, later⟩ := (ih first.2.2).2 position element isElement
      exact ⟨shape, same, by rw [← later, Nat.add_right_comm, Nat.add_assoc]⟩

end Vifu.Runtime
