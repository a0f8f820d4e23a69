import Vifu.Gateway.Wire
import Vifu.Runtime.Bridge.Machine
import Vifu.Runtime.FrameCodec

/-!
# Frames of the runtime bridge

What the bridge reads from the requests of a host and writes into the frames that go back: the JSON
of the records, the responses, and how many bytes the two kinds of frames take that carry data of
unbounded size.
-/

namespace Vifu.Runtime

open Foundation
open Vifu.Gateway (looseEntries defaultField readList)

def InvocationData.fields : InvocationData → List (String × Option Value)
  | .json value => [("format", some (.string "json")), ("value", some value)]
  | .binary bytes =>
    [("format", some (.string "binary")), ("value", some (.array (bytes.map fun byte => u64 byte.toNat)))]

def RuntimeSnapshot.fields (snapshot : RuntimeSnapshot) : List (String × Option Value) :=
  [("revision", some (u64 snapshot.revision)), ("state", some snapshot.state)]

def InvocationTraceEvent.fields (event : InvocationTraceEvent) : List (String × Option Value) :=
  [("name", some (.string event.name)), ("status", some (.string event.status)),
    ("durationMs", some (u64 event.durationMs)), ("attributes", some event.attributes)]

def InvocationOutput.fields (output : InvocationOutput) : List (String × Option Value) :=
  [("invocationId", some (.string output.invocationId)), ("projectId", some (.string output.projectId)),
    ("endpoint", some (.string output.endpoint)), ("sessionId", some (.string output.sessionId)),
    ("agent", some (.string output.agent)), ("provider", some (.string output.provider)),
    ("capability", some (.string output.capability)), ("data", some (recordValue output.data.fields)),
    ("metadata", some output.metadata), ("snapshot", some (recordValue output.snapshot.fields)),
    ("trace", some (.array (output.trace.map fun event => recordValue event.fields)))]

def InvocationEventKind.name : InvocationEventKind → String
  | .started => "started"
  | .outputDelta => "outputDelta"
  | .completed => "completed"
  | .failed => "failed"
  | .cancelled => "cancelled"

def InvocationEvent.fields (event : InvocationEvent) : List (String × Option Value) :=
  [("sequence", some (u64 event.sequence)), ("kind", some (.string event.kind.name)),
    ("data", event.data.map fun data => recordValue data.fields), ("error", event.error.map .string)]

def RuntimeBridgeInvocationEvent.fields (event : RuntimeBridgeInvocationEvent) : List (String × Option Value) :=
  [("handle", some (.string event.handle)), ("event", some (recordValue event.event.fields)),
    ("output", event.output.map fun output => recordValue output.fields)]

/-- The protocol frame of an event; `serde_json::to_value` has turned its payload into a value. -/
def EventFrame.toProtocol (frame : EventFrame) : ProtocolFrame :=
  .event { event := frame.event, payload := some (recordValue frame.payload.fields), seq := none, stateVersion := none }

/-- `u8::deserialize`. -/
def asU8 (value : Value) : Option UInt8 :=
  (value.asU64.filter fun number => decide (number ≤ 255)).map UInt8.ofNat

/-- An adjacently tagged enum: the tag and its content may come in any order. -/
def InvocationData.ofValue (value : Value) : Option InvocationData := do
  let entries ← looseEntries ["format", "value"] value
  let format ← getField "format" entries
  let content ← getField "value" entries
  if unitVariant "json" format = some () then return .json content
  else if unitVariant "binary" format = some () then (readList asU8 content).map .binary
  else none

/-- Unknown fields are ignored, and all but the endpoint may be left out. -/
def InvocationInput.ofValue (value : Value) : Option InvocationInput := do
  let entries ← looseEntries ["endpoint", "sessionId", "data", "metadata"] value
  let endpoint ← requiredField "endpoint" entries Value.asString
  let sessionId ← defaultField "sessionId" entries Value.asString "default"
  let data ← defaultField "data" entries InvocationData.ofValue (.json .null)
  let metadata ← defaultField "metadata" entries some .null
  return { endpoint, sessionId, data, metadata }

/-- `RuntimeBridgeHelloParams` and `RuntimeBridgeCancelParams`: one text under one name. -/
def textParams (name : String) (value : Value) : Option String := do
  let entries ← recordEntries [name] value
  requiredField name entries Value.asString

/-- `decode_params`; what `serde_json` says about parameters that it cannot read is given. -/
def decodeParams {α : Type} (complaint : Value → String) (read : Value → Option α) (request : RequestFrame) :
    Except String α := do
  let params ← okOr "request params are required" request.params
  okOr (complaint params) (read params)

def successResponse (id : String) (payload : List (String × Option Value)) : ResponseFrame :=
  { id, ok := true, payload := some (recordValue payload), error := none }

def errorResponse (id code message : String) (details : Option Value) : ResponseFrame :=
  { id, ok := false, payload := none, error := some ⟨code, message, details, none, none⟩ }

def invalidParamsResponse (id error : String) : ResponseFrame :=
  errorResponse id "invalid_params" "runtime bridge request parameters are invalid"
    (some (.object [("reason", .string error)]))

def runtimeErrorResponse (id : String) (error : RuntimeError) : ResponseFrame :=
  errorResponse id "runtime_error" error.publicMessage none

def handleResponse (id : String) (handle : InvocationHandle) : ResponseFrame :=
  successResponse id [("handle", some (.string handle))]

def runtimeBridgeProtocolVersion : String := "vifu.runtime-bridge/1"

def handleHello (projectId : String) (complaint : Value → String) (request : RequestFrame) : ResponseFrame :=
  match decodeParams complaint (textParams "protocol") request with
  | .error error => invalidParamsResponse request.id error
  | .ok version =>
    if version ≠ runtimeBridgeProtocolVersion then
      errorResponse request.id "protocol_mismatch" "runtime bridge protocol is not supported"
        (some (.object [("supported", .string runtimeBridgeProtocolVersion)]))
    else
      successResponse request.id
        [("protocol", some (.string runtimeBridgeProtocolVersion)), ("projectId", some (.string projectId))]

theorem handleHello_id (projectId : String) (complaint : Value → String) (request : RequestFrame) :
    (handleHello projectId complaint request).id = request.id := by
  unfold handleHello
  split
  · rfl
  · split <;> rfl

/-! ## Sizes -/

theorem encodedSize_recordValue (floats : FloatText) {fields : List (String × Option Value)}
    (distinct : (fields.map Prod.fst).Nodup) :
    (recordValue fields).encodedSize floats = (Value.object (presentFields fields)).encodedSize floats :=
  encodedSize_sortFields floats (distinct.sublist (presentFields_keys fields))

def handleResponseBytes (id : String) (handle : InvocationHandle) : ℕ :=
  (quoted id).utf8ByteSize + (quoted handle).utf8ByteSize + 52

theorem handleResponse_size (floats : FloatText) (id : String) (handle : InvocationHandle) :
    (ProtocolFrame.response (handleResponse id handle)).content.encodedSize floats = handleResponseBytes id handle := by
  have payload : (recordValue [("handle", some (.string handle))]).encodedSize floats =
      (quoted handle).utf8ByteSize + 11 := by
    rw [encodedSize_recordValue floats (by simp), Value.encodedSize_object]
    have key : (quoted "handle").utf8ByteSize = 8 := by decide
    simp only [presentFields, List.filterMap_cons, List.filterMap_nil, Option.map_some, List.map_cons, List.map_nil,
      List.sum_cons, List.sum_nil, Value.fieldSize, Value.encodedSize, Value.text, key]
    omega
  rw [ProtocolFrame.content, Value.encodedSize_object]
  have keys : (quoted "type").utf8ByteSize = 6 ∧ (quoted "id").utf8ByteSize = 4 ∧ (quoted "ok").utf8ByteSize = 4 ∧
      (quoted "payload").utf8ByteSize = 9 := by decide
  have values : (Value.string "res").encodedSize floats = 5 ∧ (Value.bool true).encodedSize floats = 4 ∧
      (Value.string id).encodedSize floats = (quoted id).utf8ByteSize := ⟨rfl, rfl, rfl⟩
  simp only [handleResponse, successResponse, ResponseFrame.fields, presentFields, List.filterMap_cons,
    List.filterMap_nil, Option.map_some, Option.map_none, List.map_cons, List.map_nil, List.sum_cons, List.sum_nil,
    Value.fieldSize, payload, keys, values, handleResponseBytes]
  omega

def eventFrameBytes (floats : FloatText) (handle : String) (output : Option InvocationOutput) (event : InvocationEvent) :
    ℕ :=
  (quoted (invocationEventName event.kind)).utf8ByteSize + (quoted handle).utf8ByteSize +
    (recordValue event.fields).encodedSize floats + 56 +
    match event.kind, output with
    | .completed, some output => (recordValue output.fields).encodedSize floats + 10
    | _, _ => 0

theorem eventFrame_size (floats : FloatText) (handle : String) (output : Option InvocationOutput)
    (event : InvocationEvent) : (eventFrame handle output event).toProtocol.content.encodedSize floats =
      eventFrameBytes floats handle output event := by
  have payload (carried : Option InvocationOutput) :
      (recordValue (RuntimeBridgeInvocationEvent.fields ⟨handle, event, carried⟩)).encodedSize floats =
        (quoted handle).utf8ByteSize + (recordValue event.fields).encodedSize floats + 20 +
          (carried.elim 0 fun output => (recordValue output.fields).encodedSize floats + 10) := by
    rw [encodedSize_recordValue floats (by simp [RuntimeBridgeInvocationEvent.fields]), Value.encodedSize_object]
    have keys : (quoted "handle").utf8ByteSize = 8 ∧ (quoted "event").utf8ByteSize = 7 ∧
        (quoted "output").utf8ByteSize = 8 ∧ (Value.string handle).encodedSize floats = (quoted handle).utf8ByteSize :=
      ⟨by decide, by decide, by decide, rfl⟩
    cases carried with
    | none =>
      simp only [RuntimeBridgeInvocationEvent.fields, presentFields, List.filterMap_cons, List.filterMap_nil,
        Option.map_some, Option.map_none, List.map_cons, List.map_nil, List.sum_cons, List.sum_nil, Value.fieldSize,
        keys, Option.elim_none]
      omega
    | some output =>
      simp only [RuntimeBridgeInvocationEvent.fields, presentFields, List.filterMap_cons, List.filterMap_nil,
        Option.map_some, List.map_cons, List.map_nil, List.sum_cons, List.sum_nil, Value.fieldSize, keys,
        Option.elim_some]
      omega
  rw [EventFrame.toProtocol, ProtocolFrame.content, Value.encodedSize_object]
  have keys : (quoted "type").utf8ByteSize = 6 ∧ (quoted "event").utf8ByteSize = 7 ∧
      (quoted "payload").utf8ByteSize = 9 ∧ (Value.string "event").encodedSize floats = 7 ∧
      (Value.string (invocationEventName event.kind)).encodedSize floats =
        (quoted (invocationEventName event.kind)).utf8ByteSize :=
    ⟨by decide, by decide, by decide, rfl, rfl⟩
  simp only [eventFrame, Protocol.EventFrame.fields, presentFields, List.filterMap_cons, List.filterMap_nil,
    Option.map_some, Option.map_none, List.map_cons, List.map_nil, List.sum_cons, List.sum_nil, Value.fieldSize, payload,
    keys, eventFrameBytes]
  cases event.kind <;> cases output <;> simp <;> omega

theorem encodeProtocolFrame_fits {floats : FloatText} {frame : ProtocolFrame} (valid : validateProtocolFrame frame = .ok ()) :
    (∃ text, encodeProtocolFrame floats frame = .ok text) ↔
      frame.content.encodedSize floats ≤ maxProtocolFrameBytes := by
  simp [encodeProtocolFrame_ok, valid]

theorem eventFrame_valid (handle : String) (output : Option InvocationOutput) (event : InvocationEvent) :
    validateProtocolFrame (eventFrame handle output event).toProtocol = .ok () := by
  cases kind : event.kind <;>
    simp [EventFrame.toProtocol, eventFrame, validateProtocolFrame, validateNonEmpty, invocationEventName, kind]

theorem handleResponse_valid {id : String} (named : id ≠ "") (handle : InvocationHandle) :
    validateProtocolFrame (.response (handleResponse id handle)) = .ok () := by
  simp [validateProtocolFrame, validateNonEmpty, handleResponse, successResponse, named]

end Vifu.Runtime
