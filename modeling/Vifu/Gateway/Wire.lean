import Vifu.Runtime.Frame
import Vifu.Gateway.Command

/-!
# Gateway commands as frames

The tables of `to_gateway_frame` and `from_gateway_frame`.  A command is flattened into the
parameters, payload or error details of a frame, which are records; each record is written by its
list of fields and read by the function of its name.
-/

namespace Vifu.Gateway

open Foundation
open Vifu.Runtime hiding validateIdentifier

/-- `u32::deserialize`. -/
def asU32 (value : Value) : Option ℕ := value.asU64.filter fun number => decide (number ≤ 4294967295)

/-- `Vec::deserialize`. -/
def readList {α : Type} (read : Value → Option α) : Value → Option (List α)
  | .array values => values.mapM read
  | .null | .bool _ | .number _ | .string _ | .object _ => none

def readEnum {α : Type} (variants : List α) (name : α → String) (value : Value) : Option α :=
  variants.find? fun variant => (unitVariant (name variant) value).isSome

def looseEntries (names : List String) : Value → Option (List (String × Value))
  | .object fields =>
    let known := fields.filter fun field => decide (field.1 ∈ names)
    if (known.map Prod.fst).Nodup then some known else none
  | .array values => if values.length ≤ names.length then some (names.zip values) else none
  | .null | .bool _ | .number _ | .string _ => none

/-- The tag of an internally tagged enum, and what is left for its variant. -/
def taggedContent : Value → Option (String × Value)
  | .object fields => do
    let tag ← (getField "type" fields).bind Value.asString
    return (tag, .object (fields.filter fun field => field.1 != "type"))
  | .array (tag :: values) => tag.asString.map fun tag => (tag, .array values)
  | .array [] | .null | .bool _ | .number _ | .string _ => none

def defaultField {α : Type} (key : String) (entries : List (String × Value)) (read : Value → Option α) (default : α) :
    Option α :=
  (optionalField key entries read).map fun value => value.getD default

def providerStages : List ProviderStage :=
  [.queue, .load, .tokenize, .prefill, .firstToken, .decode, .validate]

def stageName : ProviderStage → String
  | .queue => "queue"
  | .load => "load"
  | .tokenize => "tokenize"
  | .prefill => "prefill"
  | .firstToken => "firstToken"
  | .decode => "decode"
  | .validate => "validate"

def TraceStageStatus.name : TraceStageStatus → String
  | .started => "started"
  | .completed => "completed"
  | .failed => "failed"

def TraceDeliveryStatus.name : TraceDeliveryStatus → String
  | .delivered => "delivered"
  | .failed => "failed"

def RuntimeTelemetryTerminalStatus.name : RuntimeTelemetryTerminalStatus → String
  | .completed => "completed"
  | .cancelled => "cancelled"
  | .error => "error"

def ApplicationFeedbackEvent.name : ApplicationFeedbackEvent → String
  | .outputAccepted => "OUTPUT_ACCEPTED"
  | .actionApplied => "ACTION_APPLIED"
  | .framePresented => "FRAME_PRESENTED"

def ApplicationFeedbackOutcome.name : ApplicationFeedbackOutcome → String
  | .pass => "pass"
  | .fail => "fail"
  | .unknown => "unknown"
  | .notApplicable => "notApplicable"

/-! ## Records that are written -/

def Uuid.value (id : Uuid) : Value := .string id.text

def AgentDescriptor.fields (agent : AgentDescriptor) : List (String × Option Value) :=
  [("id", some (.string agent.id)), ("name", some (.string agent.name)), ("metadata", some agent.metadata)]

def GatewayMachineProof.fields (machine : GatewayMachineProof) : List (String × Option Value) :=
  [("id", some (.string machine.id)), ("publicKey", some (.string machine.publicKey)),
    ("signature", some (.string machine.signature)), ("signedAt", some (u64 machine.signedAt))]

def GatewayHelloAuth.fields (auth : GatewayHelloAuth) : List (String × Option Value) :=
  [("deviceToken", auth.deviceToken.map .string)]

def GatewayWelcomeAuth.fields (auth : GatewayWelcomeAuth) : List (String × Option Value) :=
  [("deviceToken", some (.string auth.deviceToken)), ("generation", some (u64 auth.generation)),
    ("expiresAt", some (.string auth.expiresAt))]

def Hello.fields (hello : Hello) : List (String × Option Value) :=
  [("protocol", some (.string hello.protocol)), ("resumeSessionId", hello.resumeSessionId.map Uuid.value),
    ("agents", some (.array (hello.agents.map fun agent => recordValue agent.fields))),
    ("metadata", some hello.metadata), ("machine", some (recordValue hello.machine.fields)),
    ("auth", some (recordValue hello.auth.fields)), ("followup", hello.followup.map .string)]

def Welcome.fields (welcome : Welcome) : List (String × Option Value) :=
  [("gatewayId", some (.string welcome.gatewayId)), ("connectionId", some welcome.connectionId.value),
    ("sessionId", some welcome.sessionId.value), ("heartbeatIntervalMs", some (u64 welcome.heartbeatIntervalMs)),
    ("resumed", some (.bool welcome.resumed)), ("auth", welcome.auth.map fun auth => recordValue auth.fields)]

def PairingRequired.fields (pairing : PairingRequired) : List (String × Option Value) :=
  [("requestId", some pairing.requestId.value), ("authUrl", some (.string pairing.authUrl)),
    ("retryable", some (.bool pairing.retryable)),
    ("recommendedNextStep", some (.string pairing.recommendedNextStep)),
    ("retryAfterMs", some (u64 pairing.retryAfterMs))]

def Invoke.fields (invoke : Invoke) : List (String × Option Value) :=
  [("channelId", some (u64 invoke.channelId)), ("endpointId", some invoke.endpointId.value),
    ("profileId", some invoke.profileId.value), ("bindingId", some invoke.bindingId.value),
    ("agentId", some (.string invoke.agentId)), ("binding", some invoke.binding), ("input", some invoke.input),
    ("timeoutMs", some (u64 invoke.timeoutMs))]

def ApplicationFeedback.fields (feedback : ApplicationFeedback) : List (String × Option Value) :=
  [("event", some (.string feedback.event.name)), ("outcome", some (.string feedback.outcome.name)),
    ("message", feedback.message.map .string), ("path", feedback.path.map .string)]

def FeedbackReport.fields (report : FeedbackReport) : List (String × Option Value) :=
  [("requestId", some report.requestId.value), ("observationId", some report.observationId.value),
    ("startOffsetMs", some (u64 report.startOffsetMs)), ("endOffsetMs", some (u64 report.endOffsetMs)),
    ("feedback", some (recordValue report.feedback.fields))]

def StageTelemetry.fields (stage : StageTelemetry) : List (String × Option Value) :=
  [("observation_id", some stage.observationId.value), ("stage", some (.string (stageName stage.stage))),
    ("status", some (.string stage.status.name)), ("start_offset_ms", some (u64 stage.startOffsetMs)),
    ("end_offset_ms", stage.endOffsetMs.map u64), ("elapsed_ms", stage.elapsedMs.map u64),
    ("request_elapsed_ms", stage.requestElapsedMs.map u64), ("input_tokens", stage.inputTokens.map u64),
    ("output_tokens", stage.outputTokens.map u64), ("resident", stage.resident.map .bool),
    ("error", stage.error.map .string)]

def DeliveryTelemetry.fields (delivery : DeliveryTelemetry) : List (String × Option Value) :=
  [("observation_id", some delivery.observationId.value), ("status", some (.string delivery.status.name)),
    ("start_offset_ms", some (u64 delivery.startOffsetMs)), ("end_offset_ms", some (u64 delivery.endOffsetMs)),
    ("elapsed_ms", some (u64 delivery.elapsedMs)), ("error", delivery.error.map .string)]

def TraceTelemetry.variant : TraceTelemetry → String × List (String × Option Value)
  | .invocationStarted providerKey capability model =>
    ("invocationStarted", [("provider_key", some (.string providerKey)), ("capability", some (.string capability)),
      ("model", model.map .string)])
  | .providerStage report => ("providerStage", report.fields)
  | .delivery report => ("delivery", report.fields)

def TraceTelemetry.value (telemetry : TraceTelemetry) : Value :=
  recordValue (("type", some (.string telemetry.variant.1)) :: telemetry.variant.2)

def TraceIoSummary.fields (summary : TraceIoSummary) : List (String × Option Value) :=
  [("value", some summary.value), ("truncated", some (.bool summary.truncated))]

def RuntimeHostMetrics.fields (metrics : RuntimeHostMetrics) : List (String × Option Value) :=
  [("processRssBytes", metrics.processRssBytes.map u64), ("totalMemoryBytes", metrics.totalMemoryBytes.map u64)]

def RuntimeTelemetryTerminal.fields (terminal : RuntimeTelemetryTerminal) : List (String × Option Value) :=
  [("status", some (.string terminal.status.name)), ("durationMs", some (u64 terminal.durationMs)),
    ("endedAtMs", some (u64 terminal.endedAtMs)), ("error", terminal.error.map .string)]

def RuntimeTelemetryBatch.fields (batch : RuntimeTelemetryBatch) : List (String × Option Value) :=
  [("deploymentId", some batch.deploymentId.value), ("traceId", some (.string batch.traceId)),
    ("invocationId", some (.string batch.invocationId)), ("projectId", some (.string batch.projectId)),
    ("endpoint", some (.string batch.endpoint)), ("agentId", some (.string batch.agentId)),
    ("startedAtMs", some (u64 batch.startedAtMs)), ("events", some (.array (batch.events.map TraceTelemetry.value))),
    ("droppedEvents", some (u64 batch.droppedEvents)),
    ("rootInputSummary", batch.rootInputSummary.map fun summary => recordValue summary.fields),
    ("rootOutputSummary", batch.rootOutputSummary.map fun summary => recordValue summary.fields),
    ("hostMetrics", batch.hostMetrics.map fun metrics => recordValue metrics.fields),
    ("terminal", batch.terminal.map fun terminal => recordValue terminal.fields)]

/-! ## Records that are read -/

section

variable (uuids : UuidParser)

def readUuid (value : Value) : Option Uuid := value.asString.bind uuids.parse

def AgentDescriptor.ofValue (value : Value) : Option AgentDescriptor := do
  let entries ← looseEntries ["id", "name", "metadata"] value
  let id ← requiredField "id" entries Value.asString
  let name ← requiredField "name" entries Value.asString
  let metadata ← defaultField "metadata" entries some .null
  return ⟨id, name, metadata⟩

def GatewayMachineProof.ofValue (value : Value) : Option GatewayMachineProof := do
  let entries ← recordEntries ["id", "publicKey", "signature", "signedAt"] value
  let id ← requiredField "id" entries Value.asString
  let publicKey ← requiredField "publicKey" entries Value.asString
  let signature ← requiredField "signature" entries Value.asString
  let signedAt ← requiredField "signedAt" entries Value.asU64
  return ⟨id, publicKey, signature, signedAt⟩

def GatewayHelloAuth.ofValue (value : Value) : Option GatewayHelloAuth := do
  let entries ← recordEntries ["deviceToken"] value
  let deviceToken ← optionField "deviceToken" entries Value.asString
  return ⟨deviceToken⟩

def GatewayWelcomeAuth.ofValue (value : Value) : Option GatewayWelcomeAuth := do
  let entries ← recordEntries ["deviceToken", "generation", "expiresAt"] value
  let deviceToken ← requiredField "deviceToken" entries Value.asString
  let generation ← requiredField "generation" entries Value.asU64
  let expiresAt ← requiredField "expiresAt" entries Value.asString
  return ⟨deviceToken, generation, expiresAt⟩

def Hello.ofValue (value : Value) : Option Hello := do
  let entries ← recordEntries
    ["protocol", "resumeSessionId", "agents", "metadata", "machine", "auth", "followup"] value
  let protocol ← requiredField "protocol" entries Value.asString
  let resumeSessionId ← optionField "resumeSessionId" entries (readUuid uuids)
  let agents ← requiredField "agents" entries (readList AgentDescriptor.ofValue)
  let metadata ← defaultField "metadata" entries some .null
  let machine ← requiredField "machine" entries GatewayMachineProof.ofValue
  let auth ← defaultField "auth" entries GatewayHelloAuth.ofValue ⟨none⟩
  let followup ← optionField "followup" entries Value.asString
  return ⟨protocol, resumeSessionId, agents, metadata, machine, auth, followup⟩

def Welcome.ofValue (value : Value) : Option Welcome := do
  let entries ← recordEntries
    ["gatewayId", "connectionId", "sessionId", "heartbeatIntervalMs", "resumed", "auth"] value
  let gatewayId ← requiredField "gatewayId" entries Value.asString
  let connectionId ← requiredField "connectionId" entries (readUuid uuids)
  let sessionId ← requiredField "sessionId" entries (readUuid uuids)
  let heartbeatIntervalMs ← requiredField "heartbeatIntervalMs" entries Value.asU64
  let resumed ← requiredField "resumed" entries Value.asBool
  let auth ← optionField "auth" entries GatewayWelcomeAuth.ofValue
  return ⟨gatewayId, connectionId, sessionId, heartbeatIntervalMs, resumed, auth⟩

def PairingRequired.ofValue (value : Value) : Option PairingRequired := do
  let entries ← recordEntries ["requestId", "authUrl", "retryable", "recommendedNextStep", "retryAfterMs"] value
  let requestId ← requiredField "requestId" entries (readUuid uuids)
  let authUrl ← requiredField "authUrl" entries Value.asString
  let retryable ← requiredField "retryable" entries Value.asBool
  let recommendedNextStep ← requiredField "recommendedNextStep" entries Value.asString
  let retryAfterMs ← requiredField "retryAfterMs" entries Value.asU64
  return ⟨requestId, authUrl, retryable, recommendedNextStep, retryAfterMs⟩

def Invoke.ofValue (value : Value) : Option Invoke := do
  let entries ← recordEntries
    ["channelId", "endpointId", "profileId", "bindingId", "agentId", "binding", "input", "timeoutMs"] value
  let channelId ← requiredField "channelId" entries Value.asU64
  let endpointId ← requiredField "endpointId" entries (readUuid uuids)
  let profileId ← requiredField "profileId" entries (readUuid uuids)
  let bindingId ← requiredField "bindingId" entries (readUuid uuids)
  let agentId ← requiredField "agentId" entries Value.asString
  let binding ← requiredField "binding" entries some
  let input ← requiredField "input" entries some
  let timeoutMs ← requiredField "timeoutMs" entries Value.asU64
  return ⟨channelId, endpointId, profileId, bindingId, agentId, binding, input, timeoutMs⟩

def ApplicationFeedback.ofValue (value : Value) : Option ApplicationFeedback := do
  let entries ← recordEntries ["event", "outcome", "message", "path"] value
  let event ← requiredField "event" entries
    (readEnum [.outputAccepted, .actionApplied, .framePresented] ApplicationFeedbackEvent.name)
  let outcome ← requiredField "outcome" entries
    (readEnum [.pass, .fail, .unknown, .notApplicable] ApplicationFeedbackOutcome.name)
  let message ← optionField "message" entries Value.asString
  let path ← optionField "path" entries Value.asString
  return ⟨event, outcome, message, path⟩

def FeedbackReport.ofValue (value : Value) : Option FeedbackReport := do
  let entries ← recordEntries ["requestId", "observationId", "startOffsetMs", "endOffsetMs", "feedback"] value
  let requestId ← requiredField "requestId" entries (readUuid uuids)
  let observationId ← requiredField "observationId" entries (readUuid uuids)
  let startOffsetMs ← requiredField "startOffsetMs" entries Value.asU64
  let endOffsetMs ← requiredField "endOffsetMs" entries Value.asU64
  let feedback ← requiredField "feedback" entries ApplicationFeedback.ofValue
  return ⟨requestId, observationId, startOffsetMs, endOffsetMs, feedback⟩

def StageTelemetry.ofValue (value : Value) : Option StageTelemetry := do
  let entries ← recordEntries
    ["observation_id", "stage", "status", "start_offset_ms", "end_offset_ms", "elapsed_ms", "request_elapsed_ms",
      "input_tokens", "output_tokens", "resident", "error"] value
  let observationId ← requiredField "observation_id" entries (readUuid uuids)
  let stage ← requiredField "stage" entries (readEnum providerStages stageName)
  let status ← requiredField "status" entries (readEnum [.started, .completed, .failed] TraceStageStatus.name)
  let startOffsetMs ← requiredField "start_offset_ms" entries Value.asU64
  let endOffsetMs ← optionField "end_offset_ms" entries Value.asU64
  let elapsedMs ← optionField "elapsed_ms" entries Value.asU64
  let requestElapsedMs ← optionField "request_elapsed_ms" entries Value.asU64
  let inputTokens ← optionField "input_tokens" entries Value.asU64
  let outputTokens ← optionField "output_tokens" entries Value.asU64
  let resident ← optionField "resident" entries Value.asBool
  let error ← optionField "error" entries Value.asString
  return ⟨observationId, stage, status, startOffsetMs, endOffsetMs, elapsedMs, requestElapsedMs, inputTokens,
    outputTokens, resident, error⟩

def DeliveryTelemetry.ofValue (value : Value) : Option DeliveryTelemetry := do
  let entries ← recordEntries
    ["observation_id", "status", "start_offset_ms", "end_offset_ms", "elapsed_ms", "error"] value
  let observationId ← requiredField "observation_id" entries (readUuid uuids)
  let status ← requiredField "status" entries (readEnum [.delivered, .failed] TraceDeliveryStatus.name)
  let startOffsetMs ← requiredField "start_offset_ms" entries Value.asU64
  let endOffsetMs ← requiredField "end_offset_ms" entries Value.asU64
  let elapsedMs ← requiredField "elapsed_ms" entries Value.asU64
  let error ← optionField "error" entries Value.asString
  return ⟨observationId, status, startOffsetMs, endOffsetMs, elapsedMs, error⟩

def readInvocationStarted (value : Value) : Option TraceTelemetry := do
  let entries ← recordEntries ["provider_key", "capability", "model"] value
  let providerKey ← requiredField "provider_key" entries Value.asString
  let capability ← requiredField "capability" entries Value.asString
  let model ← optionField "model" entries Value.asString
  return .invocationStarted providerKey capability model

def TraceTelemetry.ofValue (value : Value) : Option TraceTelemetry := do
  let (tag, content) ← taggedContent value
  if tag = "invocationStarted" then readInvocationStarted content
  else if tag = "providerStage" then (StageTelemetry.ofValue uuids content).map .providerStage
  else if tag = "delivery" then (DeliveryTelemetry.ofValue uuids content).map .delivery
  else none

def TraceIoSummary.ofValue (value : Value) : Option TraceIoSummary := do
  let entries ← recordEntries ["value", "truncated"] value
  let summary ← requiredField "value" entries some
  let truncated ← requiredField "truncated" entries Value.asBool
  return ⟨summary, truncated⟩

def RuntimeHostMetrics.ofValue (value : Value) : Option RuntimeHostMetrics := do
  let entries ← recordEntries ["processRssBytes", "totalMemoryBytes"] value
  let processRssBytes ← optionField "processRssBytes" entries Value.asU64
  let totalMemoryBytes ← optionField "totalMemoryBytes" entries Value.asU64
  return ⟨processRssBytes, totalMemoryBytes⟩

def RuntimeTelemetryTerminal.ofValue (value : Value) : Option RuntimeTelemetryTerminal := do
  let entries ← recordEntries ["status", "durationMs", "endedAtMs", "error"] value
  let status ← requiredField "status" entries
    (readEnum [.completed, .cancelled, .error] RuntimeTelemetryTerminalStatus.name)
  let durationMs ← requiredField "durationMs" entries Value.asU64
  let endedAtMs ← requiredField "endedAtMs" entries Value.asU64
  let error ← optionField "error" entries Value.asString
  return ⟨status, durationMs, endedAtMs, error⟩

def RuntimeTelemetryBatch.ofValue (value : Value) : Option RuntimeTelemetryBatch := do
  let entries ← recordEntries
    ["deploymentId", "traceId", "invocationId", "projectId", "endpoint", "agentId", "startedAtMs", "events",
      "droppedEvents", "rootInputSummary", "rootOutputSummary", "hostMetrics", "terminal"] value
  let deploymentId ← requiredField "deploymentId" entries (readUuid uuids)
  let traceId ← requiredField "traceId" entries Value.asString
  let invocationId ← requiredField "invocationId" entries Value.asString
  let projectId ← requiredField "projectId" entries Value.asString
  let endpoint ← requiredField "endpoint" entries Value.asString
  let agentId ← requiredField "agentId" entries Value.asString
  let startedAtMs ← requiredField "startedAtMs" entries Value.asU64
  let events ← defaultField "events" entries (readList (TraceTelemetry.ofValue uuids)) []
  let droppedEvents ← defaultField "droppedEvents" entries asU32 0
  let rootInputSummary ← optionField "rootInputSummary" entries TraceIoSummary.ofValue
  let rootOutputSummary ← optionField "rootOutputSummary" entries TraceIoSummary.ofValue
  let hostMetrics ← optionField "hostMetrics" entries RuntimeHostMetrics.ofValue
  let terminal ← optionField "terminal" entries RuntimeTelemetryTerminal.ofValue
  return ⟨deploymentId, traceId, invocationId, projectId, endpoint, agentId, startedAtMs, events, droppedEvents,
    rootInputSummary, rootOutputSummary, hostMetrics, terminal⟩

/-! ## Payloads of single fields -/

def challengeFields (nonce : String) (timestamp : ℕ) (audience : String) : List (String × Option Value) :=
  [("nonce", some (.string nonce)), ("timestamp", some (u64 timestamp)), ("audience", some (.string audience))]

def readChallenge (value : Value) : Option AgentGatewayCommand := do
  let entries ← recordEntries ["nonce", "timestamp", "audience"] value
  let nonce ← requiredField "nonce" entries Value.asString
  let timestamp ← requiredField "timestamp" entries Value.asU64
  let audience ← requiredField "audience" entries Value.asString
  return .challenge nonce timestamp audience

def resultFields (channelId : ℕ) (output : Value) : List (String × Option Value) :=
  [("channelId", some (u64 channelId)), ("output", some output)]

def readResult (requestId : Uuid) (value : Value) : Option AgentGatewayCommand := do
  let entries ← recordEntries ["channelId", "output"] value
  let channelId ← requiredField "channelId" entries Value.asU64
  let output ← requiredField "output" entries some
  return .result requestId channelId output

/-- `json!({ "channelId": channel_id })`. -/
def errorDetailsFields (channelId : ℕ) : List (String × Option Value) := [("channelId", some (u64 channelId))]

def readErrorDetails (value : Value) : Option ℕ := do
  let entries ← recordEntries ["channelId"] value
  requiredField "channelId" entries Value.asU64

/-- `CancelPayload` and `InvocationActivityPayload`. -/
def channelFields (requestId : Uuid) (channelId : ℕ) : List (String × Option Value) :=
  [("requestId", some requestId.value), ("channelId", some (u64 channelId))]

def readChannel (build : Uuid → ℕ → AgentGatewayCommand) (value : Value) : Option AgentGatewayCommand := do
  let entries ← recordEntries ["requestId", "channelId"] value
  let requestId ← requiredField "requestId" entries (readUuid uuids)
  let channelId ← requiredField "channelId" entries Value.asU64
  return build requestId channelId

def heartbeatFields (sessionId : Uuid) : List (String × Option Value) := [("sessionId", some sessionId.value)]

def readHeartbeat (build : Uuid → AgentGatewayCommand) (value : Value) : Option AgentGatewayCommand := do
  let entries ← recordEntries ["sessionId"] value
  let sessionId ← requiredField "sessionId" entries (readUuid uuids)
  return build sessionId

def errorEventFields (code message : String) : List (String × Option Value) :=
  [("code", some (.string code)), ("message", some (.string message))]

def readErrorEvent (value : Value) : Option AgentGatewayCommand := do
  let entries ← recordEntries ["code", "message"] value
  let code ← requiredField "code" entries Value.asString
  let message ← requiredField "message" entries Value.asString
  return .error none none code message

def configChangedFields (deploymentIds : List Uuid) : List (String × Option Value) :=
  [("deploymentIds", some (.array (deploymentIds.map Uuid.value)))]

def readConfigChanged (value : Value) : Option AgentGatewayCommand := do
  let entries ← recordEntries ["deploymentIds"] value
  let deploymentIds ← requiredField "deploymentIds" entries (readList (readUuid uuids))
  return .runtimeConfigChanged deploymentIds

def readEmpty (command : AgentGatewayCommand) (value : Value) : Option AgentGatewayCommand :=
  (recordEntries [] value).map fun _ => command

/-! ## Frames -/

/-- `AGENT_GATEWAY_HELLO_METHOD` and `AGENT_GATEWAY_HELLO_REQUEST_ID`. -/
def agentGatewayHello : String := "gateway.hello"
def agentGatewayChallengeEvent : String := "gateway.challenge"
def agentGatewayPairingRequiredEvent : String := "gateway.pairingRequired"
def agentGatewayInvokeMethod : String := "agent.invoke"
def agentGatewayCancelEvent : String := "agent.cancel"
def invocationActivityReadyEvent : String := "agent.invocationActivity.ready"
def invocationActivityEvent : String := "agent.invocationActivity"
def agentGatewayHeartbeatEvent : String := "gateway.heartbeat"
def agentGatewayHeartbeatAckEvent : String := "gateway.heartbeatAck"
def agentGatewayErrorEvent : String := "gateway.error"
def runtimeConfigChangedEvent : String := "runtime.config.changed"
def runtimeMonitoringReadyEvent : String := "runtime.monitoring.ready"
def runtimeHostMetricsReadyEvent : String := "runtime.hostMetrics.ready"
def runtimeTelemetryEvent : String := "runtime.telemetry"
def applicationFeedbackEvent : String := "trace.applicationFeedback"

def requestFrame (id method : String) (fields : List (String × Option Value)) : ProtocolFrame :=
  .request ⟨id, method, some (recordValue fields)⟩

def responseFrame (id : String) (fields : List (String × Option Value)) : ProtocolFrame :=
  .response ⟨id, true, some (recordValue fields), none⟩

def eventFrame (event : String) (fields : List (String × Option Value)) : ProtocolFrame :=
  .event ⟨event, some (recordValue fields), none, none⟩

/-- The table of `to_gateway_frame`. -/
def commandFrame : AgentGatewayCommand → Except String ProtocolFrame
  | .challenge nonce timestamp audience =>
    .ok (eventFrame agentGatewayChallengeEvent (challengeFields nonce timestamp audience))
  | .hello hello => .ok (requestFrame agentGatewayHello agentGatewayHello hello.fields)
  | .welcome welcome => .ok (responseFrame agentGatewayHello welcome.fields)
  | .pairingRequired pairing => .ok (eventFrame agentGatewayPairingRequiredEvent pairing.fields)
  | .invoke requestId invoke => .ok (requestFrame requestId.text agentGatewayInvokeMethod invoke.fields)
  | .result requestId channelId output => .ok (responseFrame requestId.text (resultFields channelId output))
  | .error (some requestId) (some channelId) code message =>
    .ok (.response ⟨requestId.text, false, none,
      some ⟨code, message, some (recordValue (errorDetailsFields channelId)), none, none⟩⟩)
  | .error none none code message => .ok (eventFrame agentGatewayErrorEvent (errorEventFields code message))
  | .error (some _) none _ _ | .error none (some _) _ _ =>
    .error "request and channel ids must be provided together"
  | .cancel requestId channelId => .ok (eventFrame agentGatewayCancelEvent (channelFields requestId channelId))
  | .invocationActivityReady => .ok (eventFrame invocationActivityReadyEvent [])
  | .invocationActivity requestId channelId =>
    .ok (eventFrame invocationActivityEvent (channelFields requestId channelId))
  | .heartbeat sessionId => .ok (eventFrame agentGatewayHeartbeatEvent (heartbeatFields sessionId))
  | .heartbeatAck sessionId => .ok (eventFrame agentGatewayHeartbeatAckEvent (heartbeatFields sessionId))
  | .runtimeConfigChanged deploymentIds =>
    .ok (eventFrame runtimeConfigChangedEvent (configChangedFields deploymentIds))
  | .runtimeMonitoringReady => .ok (eventFrame runtimeMonitoringReadyEvent [])
  | .runtimeHostMetricsReady => .ok (eventFrame runtimeHostMetricsReadyEvent [])
  | .runtimeTelemetry batch => .ok (eventFrame runtimeTelemetryEvent batch.fields)
  | .applicationFeedback report => .ok (eventFrame applicationFeedbackEvent report.fields)

def toGatewayFrame (floats : FloatText) (parser : JsonParser) (command : AgentGatewayCommand) :
    Except String ProtocolFrame := do
  validateCommand floats parser command
  commandFrame command

def decodeRequired {α : Type} (value : Option Value) (name : String) (read : Value → Option α) : Except String α :=
  match value with
  | none => .error (name ++ " is required")
  | some value =>
    match read value with
    | none => .error ("invalid " ++ name)
    | some result => .ok result

def parseUuid (name value : String) : Except String Uuid :=
  match uuids.parse value with
  | none => .error ("invalid " ++ name)
  | some id => .ok id

def fromRequestFrame (request : RequestFrame) : Except String AgentGatewayCommand :=
  if request.method = agentGatewayHello then do
    let params ← decodeRequired request.params "gateway.hello params" (Hello.ofValue uuids)
    return .hello params
  else if request.method = agentGatewayInvokeMethod then do
    let requestId ← parseUuid uuids "request id" request.id
    let params ← decodeRequired request.params "agent.invoke params" (Invoke.ofValue uuids)
    return .invoke requestId params
  else .error ("unsupported agent gateway request method: " ++ request.method)

def fromResponseFrame (response : ResponseFrame) : Except String AgentGatewayCommand :=
  if response.id = agentGatewayHello then
    if response.ok then do
      let payload ← decodeRequired response.payload "gateway.hello payload" (Welcome.ofValue uuids)
      return .welcome payload
    else
      match response.error with
      | none => .error "gateway.hello error is required"
      | some error => .ok (.error none none error.code error.message)
  else do
    let requestId ← parseUuid uuids "request id" response.id
    if response.ok then decodeRequired response.payload "agent.invoke payload" (readResult requestId)
    else
      match response.error with
      | none => .error "response error is required"
      | some error => do
        let channelId ← decodeRequired error.details "agent.invoke error details" readErrorDetails
        return .error (some requestId) (some channelId) error.code error.message

def eventReaders : List (String × (Value → Option AgentGatewayCommand)) :=
  [(agentGatewayChallengeEvent, readChallenge),
    (agentGatewayPairingRequiredEvent, fun value => (PairingRequired.ofValue uuids value).map .pairingRequired),
    (agentGatewayCancelEvent, readChannel uuids .cancel),
    (invocationActivityReadyEvent, readEmpty .invocationActivityReady),
    (invocationActivityEvent, readChannel uuids .invocationActivity),
    (agentGatewayHeartbeatEvent, readHeartbeat uuids .heartbeat),
    (agentGatewayHeartbeatAckEvent, readHeartbeat uuids .heartbeatAck),
    (agentGatewayErrorEvent, readErrorEvent),
    (runtimeConfigChangedEvent, readConfigChanged uuids),
    (runtimeMonitoringReadyEvent, readEmpty .runtimeMonitoringReady),
    (runtimeHostMetricsReadyEvent, readEmpty .runtimeHostMetricsReady),
    (runtimeTelemetryEvent, fun value => (RuntimeTelemetryBatch.ofValue uuids value).map .runtimeTelemetry),
    (applicationFeedbackEvent, fun value => (FeedbackReport.ofValue uuids value).map .applicationFeedback)]

def fromEventFrame (event : Protocol.EventFrame) : Except String AgentGatewayCommand :=
  match (eventReaders uuids).lookup event.event with
  | none => .error ("unsupported agent gateway event: " ++ event.event)
  | some read => decodeRequired event.payload (event.event ++ " payload") read

def fromGatewayFrame (floats : FloatText) (parser : JsonParser) (frame : ProtocolFrame) :
    Except String AgentGatewayCommand := do
  let command ← match frame with
    | .request request => fromRequestFrame uuids request
    | .response response => fromResponseFrame uuids response
    | .event event => fromEventFrame uuids event
  validateCommand floats parser command
  return command

/-- The encoder and the decoder of the gateway call a protocol frame a gateway frame. -/
def gatewayError (error : String) : String := error.replace "protocol frame" "gateway frame"

def encode (floats : FloatText) (frame : ProtocolFrame) : Except String String :=
  (encodeProtocolFrame floats frame).mapError gatewayError

def decode (reader : JsonReader) (source : String) : Except String ProtocolFrame :=
  (decodeProtocolFrame reader source).mapError gatewayError

/-- `encode_command` of the relay, the part of `send_command` before the socket. -/
def encodeCommand (floats : FloatText) (parser : JsonParser) (message : AgentGatewayCommand) : Except String String := do
  let frame ← toGatewayFrame floats parser message
  encode floats frame

end

end Vifu.Gateway
