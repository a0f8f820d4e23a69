import Vifu.Foundation.Fallible
import Vifu.Runtime.Records

/-!
# Protocol frames

The frames of `vifu-runtime/src/protocol.rs`, which embedded hosts and gateways share, and the texts
they are sent as.  A frame is one of three records, told apart by their fields alone.  The parser of
JSON texts comes from outside the repository; it gives the tree of a text as it stands there.
-/

namespace Vifu.Runtime

open Foundation

def maxProtocolFrameBytes : ℕ := 17825792

structure ErrorShape where
  code : String
  message : String
  details : Option Value
  retryable : Option Bool
  retryAfterMs : Option ℕ
  deriving DecidableEq

structure StateVersion where
  presence : ℕ
  health : ℕ
  deriving DecidableEq

structure RequestFrame where
  id : String
  method : String
  params : Option Value
  deriving DecidableEq

structure ResponseFrame where
  id : String
  ok : Bool
  payload : Option Value
  error : Option ErrorShape
  deriving DecidableEq

structure Protocol.EventFrame where
  event : String
  payload : Option Value
  seq : Option ℕ
  stateVersion : Option StateVersion
  deriving DecidableEq

inductive ProtocolFrame where
  | request (request : RequestFrame)
  | response (response : ResponseFrame)
  | event (event : Protocol.EventFrame)
  deriving DecidableEq

def ErrorShape.fields (error : ErrorShape) : List (String × Option Value) :=
  [("code", some (.string error.code)), ("message", some (.string error.message)), ("details", error.details),
    ("retryable", error.retryable.map .bool), ("retryAfterMs", error.retryAfterMs.map u64)]

def StateVersion.fields (version : StateVersion) : List (String × Option Value) :=
  [("presence", some (u64 version.presence)), ("health", some (u64 version.health))]

def RequestFrame.fields (request : RequestFrame) : List (String × Option Value) :=
  [("type", some (.string "req")), ("id", some (.string request.id)), ("method", some (.string request.method)),
    ("params", request.params)]

def ResponseFrame.fields (response : ResponseFrame) : List (String × Option Value) :=
  [("type", some (.string "res")), ("id", some (.string response.id)), ("ok", some (.bool response.ok)),
    ("payload", response.payload),
    ("error", response.error.map fun error => .object (presentFields error.fields))]

def Protocol.EventFrame.fields (event : Protocol.EventFrame) : List (String × Option Value) :=
  [("type", some (.string "event")), ("event", some (.string event.event)), ("payload", event.payload),
    ("seq", event.seq.map u64),
    ("stateVersion", event.stateVersion.map fun version => .object (presentFields version.fields))]

/-- The tree of the text that `serde_json::to_string` writes, with the fields in the order of the record. -/
def ProtocolFrame.content : ProtocolFrame → Value
  | .request frame => .object (presentFields frame.fields)
  | .response frame => .object (presentFields frame.fields)
  | .event frame => .object (presentFields frame.fields)

/-- `optional_json_value`: null is a value. -/
def optionalJsonValue (key : String) (entries : List (String × Value)) : Option (Option Value) :=
  optionalField key entries fun value => some value.normalized

/-- `optional_non_null`, which reads the value as JSON first. -/
def optionalNonNull {α : Type} (key : String) (entries : List (String × Value)) (read : Value → Option α) :
    Option (Option α) :=
  optionalField key entries fun value => if value = .null then none else read value.normalized

def ErrorShape.ofValue (value : Value) : Option ErrorShape := do
  let entries ← recordEntries ["code", "message", "details", "retryable", "retryAfterMs"] value
  let code ← requiredField "code" entries Value.asString
  let message ← requiredField "message" entries Value.asString
  let details ← optionalJsonValue "details" entries
  let retryable ← optionalNonNull "retryable" entries Value.asBool
  let retryAfterMs ← optionalNonNull "retryAfterMs" entries Value.asU64
  return ⟨code, message, details, retryable, retryAfterMs⟩

def StateVersion.ofValue (value : Value) : Option StateVersion := do
  let entries ← recordEntries ["presence", "health"] value
  let presence ← requiredField "presence" entries Value.asU64
  let health ← requiredField "health" entries Value.asU64
  return ⟨presence, health⟩

def RequestFrame.ofContent (content : Value) : Option RequestFrame := do
  let entries ← recordEntries ["type", "id", "method", "params"] content
  let _ ← requiredField "type" entries (unitVariant "req")
  let id ← requiredField "id" entries Value.asString
  let method ← requiredField "method" entries Value.asString
  let params ← optionalJsonValue "params" entries
  return ⟨id, method, params⟩

def ResponseFrame.ofContent (content : Value) : Option ResponseFrame := do
  let entries ← recordEntries ["type", "id", "ok", "payload", "error"] content
  let _ ← requiredField "type" entries (unitVariant "res")
  let id ← requiredField "id" entries Value.asString
  let ok ← requiredField "ok" entries Value.asBool
  let payload ← optionalJsonValue "payload" entries
  let error ← optionalNonNull "error" entries ErrorShape.ofValue
  return ⟨id, ok, payload, error⟩

def Protocol.EventFrame.ofContent (content : Value) : Option Protocol.EventFrame := do
  let entries ← recordEntries ["type", "event", "payload", "seq", "stateVersion"] content
  let _ ← requiredField "type" entries (unitVariant "event")
  let event ← requiredField "event" entries Value.asString
  let payload ← optionalJsonValue "payload" entries
  let seq ← optionalNonNull "seq" entries Value.asU64
  let stateVersion ← optionalNonNull "stateVersion" entries StateVersion.ofValue
  return ⟨event, payload, seq, stateVersion⟩

/-- The untagged enum: the first of the three records that can be read. -/
def ProtocolFrame.ofContent (content : Value) : Option ProtocolFrame :=
  (RequestFrame.ofContent content).map .request <|> (ResponseFrame.ofContent content).map .response <|>
    (Protocol.EventFrame.ofContent content).map .event

def validateNonEmpty (name value : String) : Except String Unit := ensure (value ≠ "") (name ++ " must not be empty")

def validateErrorShape (error : ErrorShape) : Except String Unit := do
  validateNonEmpty "error code" error.code
  validateNonEmpty "error message" error.message

def validateProtocolFrame : ProtocolFrame → Except String Unit
  | .request request => do
    validateNonEmpty "request id" request.id
    validateNonEmpty "request method" request.method
  | .response response => do
    validateNonEmpty "response id" response.id
    response.error.toList.forM validateErrorShape
  | .event event => validateNonEmpty "event name" event.event

/-- The tree of a JSON text: fields stand as in the text, also those with the same key. -/
structure JsonReader where
  content : String → Option Value

/-- The text of the tree reads back as the tree. -/
def JsonReader.RoundTrips (reader : JsonReader) (floats : FloatText) (content : Value) : Prop :=
  reader.content (content.text floats) = some content

def encodeProtocolFrame (floats : FloatText) (frame : ProtocolFrame) : Except String String := do
  validateProtocolFrame frame
  let encoded := frame.content.text floats
  ensure (encoded.utf8ByteSize ≤ maxProtocolFrameBytes) "protocol frame is too large"
  return encoded

def decodeProtocolFrame (reader : JsonReader) (source : String) : Except String ProtocolFrame := do
  ensure (source ≠ "") "protocol frame is empty"
  ensure (source.utf8ByteSize ≤ maxProtocolFrameBytes) "protocol frame is too large"
  match (reader.content source).bind ProtocolFrame.ofContent with
  | none => .error "invalid protocol frame"
  | some frame => do
    validateProtocolFrame frame
    return frame

end Vifu.Runtime
