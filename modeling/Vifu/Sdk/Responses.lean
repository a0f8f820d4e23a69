import Vifu.Gateway.Wire
import Vifu.Sdk.GatewayHost
import Vifu.Sdk.JsValue

/-!
# The two ways to a script's agent

An endpoint of the TypeScript SDK is invoked by the runtime in WASM, which calls the handler itself, or by the
native gateway host, which sends the request to the script as a line and gets the answer as another one.  Both
hand a provider response to a runtime; this module follows the request and the response on both ways.
-/

namespace Vifu.Sdk

open Foundation Vifu.Runtime
open Vifu.Gateway (looseEntries taggedContent)

/-- The JSON of both languages: what the parsers read, and how the two writers print the numbers that are no
integers. -/
structure SdkJson where
  reader : JsonReader
  floats : FloatText
  scriptFloats : FloatText

/-- `serde_json::from_str` to a value. -/
def SdkJson.read (json : SdkJson) (source : String) : Option Value := (json.reader.content source).map Value.normalized

/-- The text that the runtime writes for a value reads back. -/
def SdkJson.Reads (json : SdkJson) (value : Value) : Prop := json.read (value.text json.floats) = some value

instance (json : SdkJson) (value : Value) : Decidable (json.Reads value) := inferInstanceAs (Decidable (_ = _))

structure ProviderRequest where
  projectId : String
  endpoint : String
  sessionId : String
  agent : AgentDefinition
  capability : String
  data : InvocationData
  metadata : Value
  snapshot : RuntimeSnapshot
  deriving DecidableEq

def invocationDataJson : InvocationData → Value
  | .json value => value
  | .binary bytes => recordValue [("_vifuBinary", some (.bool true)),
      ("bytes", some (.array (bytes.map fun byte => u64 byte.toNat)))]

/-- `provider_request_json`, with the values that it gets for the parts which carry JSON. -/
def requestJson (request : ProviderRequest) (agentMetadata input metadata state : Value) : Value :=
  recordValue [("appId", some (.string request.projectId)), ("endpoint", some (.string request.endpoint)),
    ("sessionId", some (.string request.sessionId)),
    ("agent", some (recordValue [("id", some (.string request.agent.id)), ("name", some (.string request.agent.name)),
      ("provider", some (.string request.agent.provider)),
      ("capabilities", some (.array (request.agent.capabilities.map .string))), ("metadata", some agentMetadata)])),
    ("capability", some (.string request.capability)), ("input", some input), ("metadata", some metadata),
    ("state", some state), ("stateRevision", some (u64 request.snapshot.revision))]

/-- `provider_request_json` in WASM. -/
def wasmRequestJson (request : ProviderRequest) : Value :=
  requestJson request request.agent.metadata (invocationDataJson request.data) request.metadata request.snapshot.state

def parseJsonOrNull (json : SdkJson) (source : String) : Value := (json.read source).getD .null

/-- `invocation_data_json` of the host, to which JSON data comes as a text. -/
def bridgeDataJson (json : SdkJson) : InvocationData → Value
  | .json value => parseJsonOrNull json (value.text json.floats)
  | .binary bytes => invocationDataJson (.binary bytes)

/-- `provider_request_json` of the host: the request comes with its JSON as texts. -/
def bridgeRequestJson (json : SdkJson) (request : ProviderRequest) : Value :=
  requestJson request (parseJsonOrNull json (request.agent.metadata.text json.floats)) (bridgeDataJson json request.data)
    (parseJsonOrNull json (request.metadata.text json.floats))
    (parseJsonOrNull json (request.snapshot.state.text json.floats))

def invokeMessage (id : String) (request : Value) : Value :=
  recordValue [("type", some (.string "invoke")), ("id", some (.string id)), ("request", some request)]

/-- The type `JsonValue`. -/
def JsValue.IsJson (value : JsValue) : Prop := ∃ json, JsValue.ofJson json = value

def JsValue.IsOptionalJson (value : JsValue) : Prop := value = .undefined ∨ value.IsJson

structure AgentReturn where
  value : JsValue
  wellFormed : value.WellFormed
  typed : value.IsJson ∨ ((value.property "output").IsJson ∧ (value.property "metadata").IsOptionalJson ∧
    (value.property "state").IsOptionalJson)

/-- `"output" in value`, of an object that is no array. -/
def isAgentResponse : JsValue → Bool
  | .object properties => (properties.map Prod.fst).contains "output"
  | .undefined | .null | .bool _ | .number _ | .string _ | .array _ => false

/-- The response that both ways make of what a handler returned. -/
def agentResponse (value : JsValue) : JsValue :=
  if isAgentResponse value then value else .object [("output", value)]

/-- `ProviderResponse::json`. -/
def jsonResponse (data : Value) : ProviderResponse := { data := .json data, metadata := .emptyObject, state := none }

def providerResponse : Value → ProviderResponse
  | .object fields =>
    match getField "output" fields with
    | none => jsonResponse (.object fields)
    | some output =>
      { data := .json output
        metadata := (getField "metadata" fields).getD .emptyObject
        state := getField "state" fields }
  | value => jsonResponse value

/-- `JavaScriptProvider::invoke_with_events`, up to what it hands to the runtime. -/
def localResponse (json : SdkJson) (handler : JsValue → AgentReturn) (request : ProviderRequest) :
    Option ProviderResponse := do
  let request ← JsValue.parse json.reader ((wasmRequestJson request).text json.floats)
  let text ← (agentResponse (handler request).value).stringify json.scriptFloats
  let value ← json.read text
  return providerResponse value

/-! ## The way through the gateway host -/

/-- `left ?? right`. -/
def coalesceNullish (left right : JsValue) : JsValue :=
  match left with
  | .undefined | .null => right
  | _ => left

/-- The result message of `handleInvocation`. -/
def resultMessage (id : String) (response : JsValue) : JsValue :=
  .object [("type", .string "result"), ("id", .string id), ("ok", .bool true), ("output", response.property "output"),
    ("metadata", coalesceNullish (response.property "metadata") (.object [])), ("state", response.property "state")]

/-- The trace events are tagged records that ignore unknown fields. -/
def BridgeTraceEvent.ofValue (value : Value) : Option BridgeTraceEvent := do
  let (tag, content) ← taggedContent value
  if tag = "activity" then return .activity
  else if tag = "outputDelta" then
    let entries ← looseEntries ["value"] content
    let value ← requiredField "value" entries some
    return .outputDelta value
  else if tag = "stageStarted" then
    let entries ← looseEntries ["stage", "metadata"] content
    let stage ← requiredField "stage" entries Value.asString
    let metadata ← requiredField "metadata" entries some
    return .stageStarted stage metadata
  else if tag = "stageCompleted" then
    let entries ← looseEntries ["stage", "elapsedMs", "metadata"] content
    let stage ← requiredField "stage" entries Value.asString
    let elapsedMs ← requiredField "elapsedMs" entries Value.asU64
    let metadata ← requiredField "metadata" entries some
    return .stageCompleted stage elapsedMs metadata
  else if tag = "stageFailed" then
    let entries ← looseEntries ["stage", "elapsedMs", "error", "metadata"] content
    let stage ← requiredField "stage" entries Value.asString
    let elapsedMs ← requiredField "elapsedMs" entries Value.asU64
    let error ← requiredField "error" entries Value.asString
    let metadata ← requiredField "metadata" entries some
    return .stageFailed stage elapsedMs error metadata
  else none

/-- A message of the parent.  A field of type `Option<Value>` is empty when it is null. -/
def BridgeMessage.ofValue (value : Value) : Option BridgeMessage := do
  let (tag, content) ← taggedContent value
  if tag = "trace" then
    let entries ← recordEntries ["id", "event"] content
    let id ← requiredField "id" entries Value.asString
    let event ← requiredField "event" entries BridgeTraceEvent.ofValue
    return .trace id event
  else if tag = "result" then
    let entries ← recordEntries ["id", "ok", "output", "metadata", "state", "error"] content
    let id ← requiredField "id" entries Value.asString
    let ok ← requiredField "ok" entries Value.asBool
    let output ← optionField "output" entries some
    let metadata ← optionField "metadata" entries some
    let state ← optionField "state" entries some
    let error ← optionField "error" entries Value.asString
    return .result id { ok, output, metadata, state, error }
  else none

/-- What `Bridge::invoke` makes of a result: the three JSON texts of a `VifuProviderResponse`. -/
def BridgeResult.response (json : SdkJson) (result : BridgeResult) : Except String (String × String × Option String) :=
  if result.ok then
    .ok ((result.output.getD .null).text json.floats, (result.metadata.getD .emptyObject).text json.floats,
      result.state.map fun state => state.text json.floats)
  else .error (result.error.getD "the TypeScript provider failed")

/-- `provider_response_from_ffi`. -/
def responseFromFfi (json : SdkJson) (output metadata : String) (state : Option String) : Option ProviderResponse := do
  let data ← json.read output
  let metadata ← json.read metadata
  match state with
  | none => return { data := .json data, metadata, state := none }
  | some state => do
    let state ← json.read state
    return { data := .json data, metadata, state := some state }

def deliveredResponse (json : SdkJson) : BridgeMessage → Option ProviderResponse
  | .trace .. => none
  | .result _ result =>
    match result.response json with
    | .ok (output, metadata, state) => responseFromFfi json output metadata state
    | .error _ => none

/-- An invocation under the given id, up to what it hands to the runtime. -/
def gatewayResponse (json : SdkJson) (id : String) (handler : JsValue → AgentReturn) (request : ProviderRequest) :
    Option ProviderResponse := do
  let message ← JsValue.parse json.reader ((invokeMessage id (bridgeRequestJson json request)).text json.floats)
  let response := agentResponse (handler (message.property "request")).value
  let line ← (resultMessage id response).stringify json.scriptFloats
  let value ← json.read line
  let message ← BridgeMessage.ofValue value
  deliveredResponse json message

end Vifu.Sdk
