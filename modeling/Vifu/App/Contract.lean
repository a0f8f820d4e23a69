import Vifu.Runtime.Identifier
import Vifu.Runtime.ProviderResponses

/-!
# The contract of the benchmark

A candidate of a benchmark answers a request that has a baseline answer, and it is excluded when its answer breaks the
contract of the capability.  The runtime has checked the baseline answer by its own rules, which are laxer in two
places: a message that only has a function call, and the alphabet and the padding of embeddings in base64.
-/

namespace Vifu.App

open Foundation
open Vifu.Runtime (Value getField trim asBytes dataRows decodeFloats decodeFloatChunks embeddingRow embeddingRows
  forall_of_embeddingRows missingPadding isChatContent validateOpenaiChatResponse validateOpenaiEmbeddingResponse
  validateTranscriptionResponse)

/-- `Value::pointer`, whose only index here is the first one. -/
def pointer : List String → Value → Option Value
  | [], value => some value
  | token :: tokens, .object fields => (getField token fields).bind (pointer tokens)
  | token :: tokens, .array values => if token = "0" then values.head?.bind (pointer tokens) else none
  | _ :: _, .null | _ :: _, .bool _ | _ :: _, .number _ | _ :: _, .string _ => none

def jsonKind : Value → ℕ
  | .null => 0
  | .bool _ => 1
  | .number _ => 2
  | .string _ => 3
  | .array _ => 4
  | .object _ => 5

/-! ## Structured output -/

def hasKind (kind : String) (value : Value) : Bool :=
  match kind with
  | "object" => jsonKind value == 5
  | "array" => jsonKind value == 4
  | "string" => jsonKind value == 3
  | "number" => value.isFiniteNumber
  | "integer" =>
    match value with
    | .number (.posInt _) | .number (.negInt _) => true
    | _ => false
  | "boolean" => jsonKind value == 1
  | "null" => jsonKind value == 0
  | _ => true

/-- The checks of `validate_simple_json_schema` on the value itself. -/
def validateShape (schema : Value) (path : String) (value : Value) : Except String Unit := do
  ensure (∀ allowed ∈ (schema.get? "enum").bind Value.asArray, value ∈ allowed)
    ("chat structured output violates enum at " ++ path)
  ensure (∀ kind ∈ (schema.get? "type").bind Value.asStr, hasKind kind value = true)
    ("chat structured output has the wrong type at " ++ path)

mutual

/-- The properties of an object are visited in the order of their keys, which both objects share. -/
def validateSimpleJsonSchema (schema : Value) (path : String) : Value → Except String Unit
  | .object fields => do
    validateShape schema path (.object fields)
    (((schema.get? "required").bind Value.asArray).getD []).forM fun required =>
      ensure (∀ name ∈ required.asStr, getField name fields ≠ none)
        ("chat structured output is missing required field " ++ path ++ "." ++ required.asStr.getD "")
    validateProperties (((schema.get? "properties").bind Value.asObject).getD []) path fields
  | .array values => do
    validateShape schema path (.array values)
    match schema.get? "items" with
    | some itemSchema => validateItems itemSchema path 0 values
    | none => return ()
  | .null => validateShape schema path .null
  | .bool value => validateShape schema path (.bool value)
  | .number value => validateShape schema path (.number value)
  | .string value => validateShape schema path (.string value)

def validateProperties (properties : List (String × Value)) (path : String) :
    List (String × Value) → Except String Unit
  | [] => .ok ()
  | (name, property) :: fields => do
    match getField name properties with
    | some propertySchema => validateSimpleJsonSchema propertySchema (path ++ "." ++ name) property
    | none => return ()
    validateProperties properties path fields

def validateItems (itemSchema : Value) (path : String) (index : ℕ) : List Value → Except String Unit
  | [] => .ok ()
  | item :: items => do
    validateSimpleJsonSchema itemSchema (path ++ "[" ++ toString index ++ "]") item
    validateItems itemSchema path (index + 1) items

end

/-- `fromStr` is `serde_json::from_str` at `Value`. -/
def validateChatResponseFormat (fromStr : String → Option Value) (responseFormat : Value) (content : String)
    (candidate : Value) : Except String Unit := do
  let formatType := ((responseFormat.get? "type").bind Value.asStr).getD ""
  if formatType = "json_object" ∨ formatType = "json_schema" then do
    let parsed ← okOr "chat output does not satisfy the requested JSON response format"
      (candidate.get? "structured" <|> fromStr content)
    match pointer ["json_schema", "schema"] responseFormat <|> pointer ["jsonSchema", "schema"] responseFormat <|>
        responseFormat.get? "schema" with
    | some schema => if formatType = "json_schema" then validateSimpleJsonSchema schema "$" parsed else return ()
    | none => return ()
  else return ()

def partText (part : Value) : Option String :=
  part.asStr <|> (part.get? "text").bind Value.asStr <|> (pointer ["text", "value"] part).bind Value.asStr

def chatTextContent (response : Value) : Option String := do
  let content ← pointer ["choices", "0", "message", "content"] response <|> response.get? "text"
  match content with
  | .string text => some text
  | .array parts => some (String.join (parts.filterMap partText))
  | .null => some ""
  | .bool _ | .number _ | .object _ => none

def chatToolCalls (response : Value) : Option (List Value) :=
  (pointer ["choices", "0", "message", "tool_calls"] response).bind Value.asArray

def validateChat (fromStr : String → Option Value) (request baseline candidate : Value) : Except String Unit := do
  ensure (¬((∃ content ∈ chatTextContent baseline, trim content ≠ "") ∧
      ∀ content ∈ chatTextContent candidate, trim content = ""))
    "chat output is missing assistant text required by the successful baseline"
  ensure (¬((∃ calls ∈ chatToolCalls baseline, calls ≠ []) ∧ ∀ calls ∈ chatToolCalls candidate, calls = []))
    "chat output is missing tool calls required by the successful baseline"
  ensure (¬(chatTextContent candidate = none ∧ chatToolCalls candidate = none ∧ candidate.get? "structured" = none))
    "chat output has no compatible assistant content or tool calls"
  ensure (¬(baseline.get? "structured" ≠ none ∧ candidate.get? "structured" = none))
    "chat output is missing the requested structured value"
  match request.get? "response_format" <|> request.get? "responseFormat" with
  | some responseFormat =>
    validateChatResponseFormat fromStr responseFormat ((chatTextContent candidate).getD "") candidate
  | none => return ()

/-! ## Embeddings -/

/-- `base64_value` of the benchmark, which only reads the standard alphabet. -/
def base64Value (byte : UInt8) : Except String UInt8 :=
  if ascii 'A' ≤ byte ∧ byte ≤ ascii 'Z' then .ok (byte - ascii 'A')
  else if ascii 'a' ≤ byte ∧ byte ≤ ascii 'z' then .ok (byte - ascii 'a' + 26)
  else if ascii '0' ≤ byte ∧ byte ≤ ascii '9' then .ok (byte - ascii '0' + 52)
  else if byte = ascii '+' then .ok 62
  else if byte = ascii '/' then .ok 63
  else .error "has invalid base64 characters"

def decodeBase64Float32Dimensions (encoded : List UInt8) : Except String ℕ := do
  ensure (encoded ≠ [] ∧ encoded.length % 4 = 0) "has invalid base64 float32 data"
  decodeFloats base64Value false encoded

def embeddingInputRows (request : Value) : Option ℕ :=
  match request.get? "input" with
  | some (.string _) => some 1
  | some (.array (.number _ :: _)) => some 1
  | some (.array values) => some values.length
  | _ => none

def contractRow (requestedEncoding : Option String) (index : ℕ) (row : Value) : Except String ℕ := do
  let embedding ← okOr ("embedding row " ++ toString index ++ " has no vector") (row.get? "embedding")
  match embedding with
  | .array values => do
    ensure (requestedEncoding ≠ some "base64") ("embedding row " ++ toString index ++ " is not base64 encoded")
    ensure (values ≠ [] ∧ values.all Value.isFiniteNumber = true)
      ("embedding row " ++ toString index ++ " has an invalid float vector")
    return values.length
  | .string encoded => do
    ensure (requestedEncoding ≠ some "float") ("embedding row " ++ toString index ++ " is not a float array")
    (decodeBase64Float32Dimensions (asBytes encoded)).mapError fun error =>
      "embedding row " ++ toString index ++ " " ++ error
  | .null | .bool _ | .number _ | .object _ =>
    .error ("embedding row " ++ toString index ++ " has an invalid vector type")

def contractRows (requestedEncoding : Option String) (index : ℕ) (expected : Option ℕ) :
    List Value → Except String (Option ℕ)
  | [] => .ok expected
  | row :: rows => do
    let rowDimensions ← contractRow requestedEncoding index row
    match expected with
    | none => contractRows requestedEncoding (index + 1) (some rowDimensions) rows
    | some dimensions => do
      ensure (dimensions = rowDimensions) ("embedding row " ++ toString index ++ " changed dimension from " ++
        toString dimensions ++ " to " ++ toString rowDimensions)
      contractRows requestedEncoding (index + 1) (some dimensions) rows

def embeddingDimensions (value : Value) (expectedRows : ℕ) (requestedEncoding : Option String) : Except String ℕ := do
  let rows ← okOr "embedding output has no data rows" (dataRows value)
  ensure (rows.length = expectedRows)
    ("embedding output returned " ++ toString rows.length ++ " rows for " ++ toString expectedRows ++ " inputs")
  let dimensions ← contractRows requestedEncoding 0 none rows
  okOr "embedding output has no usable vector" dimensions

def requestedEncoding (request : Value) : Option String :=
  (request.get? "encoding_format" <|> request.get? "encodingFormat").bind Value.asStr

def validateEmbedding (request baseline candidate : Value) : Except String Unit := do
  let expectedRows := (embeddingInputRows request <|> (dataRows baseline).map List.length).getD 1
  let baselineDimensions ← embeddingDimensions baseline expectedRows none
  let candidateDimensions ← embeddingDimensions candidate expectedRows (requestedEncoding request)
  ensure (baselineDimensions = candidateDimensions)
    ("embedding dimension changed from " ++ toString baselineDimensions ++ " to " ++ toString candidateDimensions)

def validateTranscription (baseline candidate : Value) : Except String Unit := do
  let candidateText ← okOr "transcription output text is missing or is not a string"
    ((candidate.get? "text").bind Value.asStr)
  ensure (¬((∃ text ∈ (baseline.get? "text").bind Value.asStr, trim text ≠ "") ∧ trim candidateText = ""))
    "transcription output is empty but the successful baseline contains speech"

def validateContract (fromStr : String → Option Value) (capability : String) (request baseline candidate : Value) :
    Except String Unit :=
  match capability with
  | "chat" => validateChat fromStr request baseline candidate
  | "embedding" => validateEmbedding request baseline candidate
  | "transcription" => validateTranscription baseline candidate
  | _ => ensure (jsonKind baseline = jsonKind candidate) "candidate output changed the top-level JSON type"

/-! ## Texts of base64 -/

def IsStandardText (encoded : List UInt8) : Prop :=
  encoded.length % 4 = 0 ∧ ∀ byte ∈ encoded, byte ≠ ascii '-' ∧ byte ≠ ascii '_'

theorem base64Value_ok {byte value : UInt8} :
    base64Value byte = .ok value ↔ Runtime.base64Value byte = .ok value ∧ byte ≠ ascii '-' ∧ byte ≠ ascii '_' := by
  have dash : base64Value (ascii '-') = .error "has invalid base64 characters" := by decide
  have underscore : base64Value (ascii '_') = .error "has invalid base64 characters" := by decide
  by_cases plain : byte = ascii '-' ∨ byte = ascii '_'
  · cases plain with
    | inl isDash => simp [isDash, dash]
    | inr isUnderscore => simp [isUnderscore, underscore]
  · simp only [not_or] at plain
    simp [base64Value, Runtime.base64Value, plain]

theorem decodeFloatChunks_standard : ∀ {bytes decoded : List UInt8},
    decodeFloatChunks Runtime.base64Value true bytes = .ok decoded →
    (∀ byte ∈ bytes, byte ≠ ascii '-' ∧ byte ≠ ascii '_') → decodeFloatChunks base64Value false bytes = .ok decoded
  | [], _, accepted, _ | [_], _, accepted, _ | [_, _], _, accepted, _ | [_, _, _], _, accepted, _ => accepted
  | first :: second :: third :: fourth :: rest, decoded, accepted, plain => by
    simp only [List.forall_mem_cons] at plain
    obtain ⟨plainFirst, plainSecond, plainThird, plainFourth, plainRest⟩ := plain
    obtain ⟨padded, accepted⟩ := check_bind_ok.mp accepted
    obtain ⟨a, readA, accepted⟩ := bind_ok.mp accepted
    obtain ⟨b, readB, accepted⟩ := bind_ok.mp accepted
    obtain ⟨c, readC, accepted⟩ := bind_ok.mp accepted
    obtain ⟨d, readD, accepted⟩ := bind_ok.mp accepted
    obtain ⟨_, accepted⟩ := check_bind_ok.mp accepted
    obtain ⟨later, readRest, same⟩ := bind_ok.mp accepted
    have readC : (if 2 ≤ ([fourth, third, second, first].takeWhile (· == ascii '=')).length then .ok 0
        else base64Value third) = Except.ok c := by
      split at readC
      next short => rw [if_pos short, readC]
      next full => rw [if_neg full, base64Value_ok.mpr ⟨readC, plainThird⟩]
    have readD : (if 1 ≤ ([fourth, third, second, first].takeWhile (· == ascii '=')).length then .ok 0
        else base64Value fourth) = Except.ok d := by
      split at readD
      next short => rw [if_pos short, readD]
      next full => rw [if_neg full, base64Value_ok.mpr ⟨readD, plainFourth⟩]
    refine check_bind_ok.mpr ⟨padded, bind_ok.mpr ⟨a, base64Value_ok.mpr ⟨readA, plainFirst⟩, ?_⟩⟩
    refine bind_ok.mpr ⟨b, base64Value_ok.mpr ⟨readB, plainSecond⟩, bind_ok.mpr ⟨c, readC, bind_ok.mpr ⟨d, readD, ?_⟩⟩⟩
    exact check_bind_ok.mpr ⟨ensure_ok.mpr (by simp), bind_ok.mpr ⟨later, decodeFloatChunks_standard readRest plainRest, same⟩⟩

theorem standard_of_decodeFloatChunks : ∀ {bytes decoded : List UInt8},
    decodeFloatChunks base64Value false bytes = .ok decoded → bytes.length % 4 = 0 →
    ∀ byte ∈ bytes, byte ≠ ascii '-' ∧ byte ≠ ascii '_'
  | [], _, _, _ => by simp
  | [_], _, _, whole | [_, _], _, _, whole | [_, _, _], _, _, whole => by simp at whole
  | first :: second :: third :: fourth :: rest, decoded, accepted, whole => by
    obtain ⟨_, accepted⟩ := check_bind_ok.mp accepted
    obtain ⟨a, readA, accepted⟩ := bind_ok.mp accepted
    obtain ⟨b, readB, accepted⟩ := bind_ok.mp accepted
    obtain ⟨c, readC, accepted⟩ := bind_ok.mp accepted
    obtain ⟨d, readD, accepted⟩ := bind_ok.mp accepted
    obtain ⟨_, accepted⟩ := check_bind_ok.mp accepted
    obtain ⟨later, readRest, _⟩ := bind_ok.mp accepted
    have following := standard_of_decodeFloatChunks readRest (by simp only [List.length_cons] at whole; omega)
    have padding : ascii '=' ≠ ascii '-' ∧ ascii '=' ≠ ascii '_' := by decide
    have plainFourth : fourth ≠ ascii '-' ∧ fourth ≠ ascii '_' := by
      split at readD
      next short =>
        by_cases isPadding : fourth = ascii '='
        · exact isPadding ▸ padding
        · simp [isPadding] at short
      next => exact (base64Value_ok.mp readD).2
    have plainThird : third ≠ ascii '-' ∧ third ≠ ascii '_' := by
      split at readC
      next short =>
        by_cases isPadding : third = ascii '='
        · exact isPadding ▸ padding
        · by_cases last : fourth = ascii '=' <;> simp [isPadding, last] at short
      next => exact (base64Value_ok.mp readC).2
    simp only [List.forall_mem_cons]
    exact ⟨(base64Value_ok.mp readA).2, (base64Value_ok.mp readB).2, plainThird, plainFourth, following⟩

theorem decode_iff {encoded : List UInt8} {count : ℕ}
    (accepted : Runtime.decodeBase64Float32Dimensions encoded = .ok count) (result : ℕ) :
    decodeBase64Float32Dimensions encoded = .ok result ↔ result = count ∧ IsStandardText encoded := by
  obtain ⟨checked, accepted⟩ := check_bind_ok.mp accepted
  have filled := (ensure_ok.mp checked).1
  obtain ⟨decoded, read, counted⟩ := bind_ok.mp accepted
  rw [decodeBase64Float32Dimensions, check_bind_ok, ensure_ok, decodeFloats, bind_ok]
  constructor
  · rintro ⟨⟨_, whole⟩, other, readStandard, countedStandard⟩
    have plain := standard_of_decodeFloatChunks readStandard whole
    have padded : missingPadding encoded.length = [] := by simp [missingPadding, whole]
    rw [padded, List.append_nil] at read
    rw [decodeFloatChunks_standard read plain, Except.ok.injEq] at readStandard
    rw [readStandard, countedStandard, Except.ok.injEq] at counted
    exact ⟨counted, whole, plain⟩
  · rintro ⟨rfl, whole, plain⟩
    have padded : missingPadding encoded.length = [] := by simp [missingPadding, whole]
    rw [padded, List.append_nil] at read
    exact ⟨⟨filled, whole⟩, decoded, decodeFloatChunks_standard read plain, counted⟩

/-! ## Rows -/

def StandardRow (row : Value) : Prop :=
  ∀ encoded, row.get? "embedding" = some (.string encoded) → IsStandardText (asBytes encoded)

structure InEncoding (requested : Option String) (row : Value) : Prop where
  base64 : requested = some "base64" → ∃ encoded, row.get? "embedding" = some (.string encoded)
  float : requested = some "float" → ∃ values, row.get? "embedding" = some (.array values)

theorem inEncoding_none (row : Value) : InEncoding none row := ⟨(by cases ·), (by cases ·)⟩

theorem mapError_eq_ok {result : Except String ℕ} {change : String → String} {value : ℕ} :
    result.mapError change = .ok value ↔ result = .ok value := by
  cases result <;> simp [Except.mapError]

variable {requested : Option String} {request response metadata : Value} {dimensions : ℕ} {rows : List Value}
  {response metadata : Value}

theorem contractRow_iff {index : ℕ} {row : Value} {encoding : String}
    (accepted : embeddingRow index row = .ok (dimensions, encoding))
    (inEncoding : InEncoding requested row) (position result : ℕ) :
    contractRow requested position row = .ok result ↔ result = dimensions ∧ StandardRow row := by
  obtain ⟨embedding, found, accepted⟩ := bind_ok.mp accepted
  rw [okOr_ok] at found
  cases embedding with
  | array values =>
    obtain ⟨valid, same⟩ := check_bind_ok.mp accepted
    rw [pure_ok, Prod.mk.injEq] at same
    have notBase64 : requested ≠ some "base64" := by
      intro isBase64
      obtain ⟨encoded, isText⟩ := inEncoding.base64 isBase64
      rw [found] at isText
      cases isText
    have standard : StandardRow row := by
      intro encoded isText
      rw [found] at isText
      cases isText
    rw [contractRow, found]
    simp only [okOr, ok_bind, ensure_ok.mp valid, notBase64, ensure, same.1, standard, pure_ok,
      ne_eq, not_false_eq_true, and_self, and_true, if_true]
    exact eq_comm
  | string encoded =>
    obtain ⟨count, counted, same⟩ := bind_ok.mp accepted
    rw [mapError_eq_ok] at counted
    rw [pure_ok, Prod.mk.injEq] at same
    have notFloat : requested ≠ some "float" := by
      intro isFloat
      obtain ⟨values, isArray⟩ := inEncoding.float isFloat
      rw [found] at isArray
      cases isArray
    have standard : StandardRow row ↔ IsStandardText (asBytes encoded) := by
      simp [StandardRow, found]
    rw [contractRow, found]
    simp [okOr, ok_bind, notFloat, ensure, mapError_eq_ok, decode_iff counted, standard, same.1]
  | null => cases accepted
  | bool value => cases accepted
  | number value => cases accepted
  | object fields => cases accepted

theorem contractRows_iff
    (counted : ∀ row ∈ rows, ∀ position result, contractRow requested position row = .ok result ↔
      result = dimensions ∧ StandardRow row)
    (index : ℕ) {expected : Option ℕ} (same : ∀ earlier ∈ expected, earlier = dimensions) (found : Option ℕ) :
    contractRows requested index expected rows = .ok found ↔
      (∀ row ∈ rows, StandardRow row) ∧ found = if rows = [] then expected else some dimensions := by
  induction rows generalizing index expected with
  | nil => simp [contractRows, eq_comm]
  | cons row rows ih =>
    rw [List.forall_mem_cons] at counted
    have later : contractRows requested (index + 1) (some dimensions) rows = .ok found ↔ _ :=
      ih counted.2 (index + 1) (by simp)
    have following : (if rows = [] then some dimensions else some dimensions) = some dimensions := by split <;> rfl
    rw [following] at later
    simp only [contractRows, bind_ok, counted.1, List.forall_mem_cons, reduceCtorEq, if_false]
    cases expected with
    | none =>
      constructor
      · rintro ⟨count, ⟨rfl, standard⟩, accepted⟩
        exact ⟨⟨standard, (later.mp accepted).1⟩, (later.mp accepted).2⟩
      · rintro ⟨⟨standard, others⟩, isFound⟩
        exact ⟨dimensions, ⟨rfl, standard⟩, later.mpr ⟨others, isFound⟩⟩
    | some earlier =>
      have isEarlier := same earlier rfl
      subst isEarlier
      constructor
      · rintro ⟨count, ⟨rfl, standard⟩, accepted⟩
        have rest := later.mp (check_bind_ok.mp accepted).2
        exact ⟨⟨standard, rest.1⟩, rest.2⟩
      · rintro ⟨⟨standard, others⟩, isFound⟩
        exact ⟨earlier, ⟨rfl, standard⟩, check_bind_ok.mpr ⟨ensure_ok.mpr rfl, later.mpr ⟨others, isFound⟩⟩⟩

/-! ## Responses that meet their own contract -/

theorem message_of_accepted (accepted : validateOpenaiChatResponse response = .ok metadata) :
    ∃ message : List (String × Value),
      (∀ key, pointer ["choices", "0", "message", key] response = getField key message) ∧
      (∀ content ∈ getField "content" message, isChatContent content = true) ∧
      (∀ calls ∈ getField "tool_calls" message, calls.asArray ≠ none) := by
  rw [validateOpenaiChatResponse] at accepted
  obtain ⟨choices, hasChoices, accepted⟩ := bind_ok.mp accepted
  obtain ⟨message, hasMessage, accepted⟩ := bind_ok.mp accepted
  obtain ⟨_, accepted⟩ := check_bind_ok.mp accepted
  obtain ⟨contents, accepted⟩ := check_bind_ok.mp accepted
  obtain ⟨calls, _⟩ := check_bind_ok.mp accepted
  simp only [okOr_ok, Option.filter_eq_some_iff, Option.bind_eq_some_iff] at hasChoices hasMessage
  obtain ⟨⟨list, isList, isArray⟩, _⟩ := hasChoices
  obtain ⟨object, ⟨first, isFirst, isMessage⟩, isObject⟩ := hasMessage
  refine ⟨message, fun key => ?_, ensure_ok.mp contents, ensure_ok.mp calls⟩
  have here : object = .object message := by
    cases object <;> simp_all [Value.asObject]
  have there : list = .array choices := by
    cases list <;> simp_all [Value.asArray]
  subst here there
  cases response with
  | object fields =>
    cases first with
    | object choice =>
      simp only [Value.get?] at isList isMessage
      simp only [pointer, isList, isFirst, isMessage, Option.bind_some, if_true]
      cases getField key message <;> rfl
    | null | bool value | number value | string value | array values => cases isMessage
  | null | bool value | number value | string value | array values => cases isList

theorem chatTextContent_eq_none {response : Value} : chatTextContent response = none ↔
      ∀ content, (pointer ["choices", "0", "message", "content"] response <|> response.get? "text") = some content →
        isChatContent content = false := by
  rw [chatTextContent]
  cases pointer ["choices", "0", "message", "content"] response <|> response.get? "text" with
  | none => simp
  | some content => cases content <;> simp [isChatContent]

def ChatCompatible (response : Value) : Prop :=
  pointer ["choices", "0", "message", "content"] response ≠ none ∨
    pointer ["choices", "0", "message", "tool_calls"] response ≠ none ∨
    (∃ text, response.get? "text" = some text ∧ isChatContent text = true) ∨ response.get? "structured" ≠ none

theorem validateChat_self {fromStr : String → Option Value}
    (plain : (request.get? "response_format" <|> request.get? "responseFormat") = none)
    (accepted : validateOpenaiChatResponse response = .ok metadata) :
    validateChat fromStr request response response = .ok () ↔ ChatCompatible response := by
  obtain ⟨message, points, contents, calls⟩ := message_of_accepted accepted
  have text : ¬((∃ content ∈ chatTextContent response, trim content ≠ "") ∧
      ∀ content ∈ chatTextContent response, trim content = "") := by
    rintro ⟨⟨content, mem, some⟩, all⟩
    exact some (all content mem)
  have tools : ¬((∃ calls ∈ chatToolCalls response, calls ≠ []) ∧ ∀ calls ∈ chatToolCalls response, calls = []) := by
    rintro ⟨⟨calls, mem, some⟩, all⟩
    exact some (all calls mem)
  have structured : ¬(response.get? "structured" ≠ none ∧ response.get? "structured" = none) := fun both => both.1 both.2
  have noCalls : chatToolCalls response = none ↔ getField "tool_calls" message = none := by
    rw [chatToolCalls, points]
    cases listed : getField "tool_calls" message with
    | none => simp
    | some value => simpa using calls value listed
  have noText : chatTextContent response = none ↔ getField "content" message = none ∧
      ∀ text, response.get? "text" = some text → isChatContent text = false := by
    rw [chatTextContent_eq_none, points]
    cases given : getField "content" message with
    | none => simp
    | some value => simp [contents value given]
  simp only [validateChat, check_bind_ok, ensure_ok, plain, text, tools, structured, not_false_eq_true, true_and,
    noText, noCalls, pure_ok, and_true, ChatCompatible, points]
  cases getField "content" message <;> cases getField "tool_calls" message <;> cases response.get? "text" <;>
    cases response.get? "structured" <;> simp

/-- What the claim about embeddings asks of a response: a row for each input, in the requested encoding. -/
structure Answers (request response : Value) : Prop where
  rows : ∀ rows, dataRows response = some rows → ∀ count, embeddingInputRows request = some count → rows.length = count
  encoding : ∀ rows, dataRows response = some rows → ∀ row ∈ rows, InEncoding (requestedEncoding request) row

def EmbeddingCompatible (response : Value) : Prop :=
  ∀ rows, dataRows response = some rows → ∀ row ∈ rows, StandardRow row

theorem embeddingDimensions_iff {response : Value} (listed : dataRows response = some rows) (filled : rows ≠ [])
    (counted : ∀ row ∈ rows, ∀ position result, contractRow requested position row = .ok result ↔
      result = dimensions ∧ StandardRow row) (result : ℕ) :
    embeddingDimensions response rows.length requested = .ok result ↔
      (∀ row ∈ rows, StandardRow row) ∧ result = dimensions := by
  have looped (found : Option ℕ) := contractRows_iff counted 0 (by simp : ∀ earlier ∈ (none : Option ℕ), _) found
  have given : okOr "embedding output has no data rows" (some rows) = .ok rows := rfl
  rw [embeddingDimensions, listed, given, ok_bind, check_bind_ok, bind_ok]
  simp only [ensure_ok, looped, filled, if_false, okOr_ok, true_and]
  constructor
  · rintro ⟨found, ⟨standard, rfl⟩, same⟩
    exact ⟨standard, (Option.some.inj same).symm⟩
  · rintro ⟨standard, rfl⟩
    exact ⟨_, ⟨standard, rfl⟩, rfl⟩

theorem validateEmbedding_self
    (accepted : validateOpenaiEmbeddingResponse response = .ok metadata) (answers : Answers request response) :
    validateEmbedding request response response = .ok () ↔ EmbeddingCompatible response := by
  obtain ⟨rows, hasRows, accepted⟩ := bind_ok.mp accepted
  obtain ⟨found, shaped, _⟩ := bind_ok.mp accepted
  simp only [okOr_ok, Option.filter_eq_some_iff] at hasRows
  obtain ⟨listed, some⟩ := hasRows
  have filled : rows ≠ [] := by simpa using some
  have rowsShaped := (forall_of_embeddingRows shaped).2
  obtain ⟨first, others, rfl⟩ := List.exists_cons_of_ne_nil filled
  obtain ⟨⟨dimensions, encoding⟩, isFound, _⟩ := rowsShaped 0 first rfl
  have counted (requested : Option String) (inEncoding : ∀ row ∈ first :: others, InEncoding requested row) :
      ∀ row ∈ first :: others, ∀ position result, contractRow requested position row = .ok result ↔
        result = dimensions ∧ StandardRow row := by
    intro row mem position result
    obtain ⟨index, isRow⟩ := List.getElem?_of_mem mem
    obtain ⟨shape, same, isShaped⟩ := rowsShaped index row isRow
    rw [isFound, Option.some.injEq] at same
    exact contractRow_iff (same ▸ isShaped) (inEncoding row mem) position result
  have expectedRows : (embeddingInputRows request <|> (dataRows response).map List.length).getD 1 =
      (first :: others).length := by
    cases inputs : embeddingInputRows request with
    | none => simp [listed]
    | some count => simpa using (answers.rows _ listed count inputs).symm
  have compatible : EmbeddingCompatible response ↔ ∀ row ∈ first :: others, StandardRow row := by
    simp [EmbeddingCompatible, listed]
  have baseline := embeddingDimensions_iff listed filled (counted none fun row _ => inEncoding_none row)
  have candidate := embeddingDimensions_iff listed filled (counted _ (answers.encoding _ listed))
  rw [validateEmbedding, expectedRows, compatible]
  simp only [bind_ok, baseline, candidate, ensure_ok]
  constructor
  · rintro ⟨_, ⟨standard, _⟩, _⟩
    exact standard
  · intro standard
    exact ⟨dimensions, ⟨standard, rfl⟩, dimensions, ⟨standard, rfl⟩, rfl⟩

theorem validateTranscription_self (accepted : validateTranscriptionResponse response = .ok metadata) :
    validateTranscription response response = .ok () := by
  obtain ⟨text, isText, _⟩ := bind_ok.mp accepted
  rw [okOr_ok] at isText
  rw [validateTranscription, isText]
  refine bind_ok.mpr ⟨text, rfl, ensure_ok.mpr ?_⟩
  rintro ⟨⟨other, same, filled⟩, empty⟩
  rw [Option.mem_def, Option.some.injEq] at same
  exact filled (same ▸ empty)

/-! ## The capabilities -/

inductive CheckedCapability where
  | chat
  | embedding
  | transcription
  deriving DecidableEq

namespace CheckedCapability

def name : CheckedCapability → String
  | .chat => "chat"
  | .embedding => "embedding"
  | .transcription => "transcription"

def validate : CheckedCapability → Value → Except String Value
  | .chat => validateOpenaiChatResponse
  | .embedding => validateOpenaiEmbeddingResponse
  | .transcription => validateTranscriptionResponse

/-- The responses that meet their own contract. -/
def Compatible : CheckedCapability → Value → Prop
  | .chat => ChatCompatible
  | .embedding => EmbeddingCompatible
  | .transcription => fun _ => True

end CheckedCapability

/-- A response that the runtime accepts and that answers the request meets its own contract unless its message only has
    a function call, or one of its texts is unpadded or in the URL-safe alphabet. -/
theorem validateContract_self (fromStr : String → Option Value) (capability : CheckedCapability)
    {request response metadata : Value}
    (plain : (request.get? "response_format" <|> request.get? "responseFormat") = none)
    (accepted : capability.validate response = .ok metadata)
    (answers : capability = .embedding → Answers request response) :
    validateContract fromStr capability.name request response response = .ok () ↔ capability.Compatible response := by
  cases capability with
  | chat => exact validateChat_self plain accepted
  | embedding => exact validateEmbedding_self accepted (answers rfl)
  | transcription => exact iff_of_true (validateTranscription_self accepted) trivial

def oneChoice (message : List (String × Value)) : Value :=
  .object [("choices", .array [.object [("message", .object message)]])]

theorem validateContract_self_greeting :
    ∃ metadata, validateOpenaiChatResponse (oneChoice [("content", .string "Hello")]) = .ok metadata ∧
      (validateContract (fun _ => none) "chat" .emptyObject (oneChoice [("content", .string "Hello")])
          (oneChoice [("content", .string "Hello")]) = .ok () ↔
        ChatCompatible (oneChoice [("content", .string "Hello")])) :=
  ⟨_, rfl, validateContract_self (fun _ => none) .chat rfl rfl fun isEmbedding => by cases isEmbedding⟩

/-- A message that only calls a function, and a vector of the float 1.0 without its padding. -/
theorem accepted_responses_excluded : (∃ response metadata, validateOpenaiChatResponse response = .ok metadata ∧
      validateContract (fun _ => none) "chat" .emptyObject response response ≠ .ok ()) ∧
    ∃ response metadata, validateOpenaiEmbeddingResponse response = .ok metadata ∧
      Answers (.object [("input", .string "Hello")]) response ∧
      validateContract (fun _ => none) "embedding" (.object [("input", .string "Hello")]) response response ≠ .ok () := by
  refine ⟨⟨oneChoice [("function_call", .object [("name", .string "move")])], _, rfl, by decide⟩,
    .object [("data", .array [.object [("embedding", .string "AACAPw")]])], _, rfl, ⟨?_, ?_⟩, by decide⟩
  · rintro rows listed count inputs
    cases listed
    cases inputs
    rfl
  · rintro rows _ row _
    exact inEncoding_none row

end Vifu.App
