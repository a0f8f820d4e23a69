import Vifu.Runtime.Manifest
import Vifu.Server.Traces.Telemetry

/-!
# Two ways to the server

The trace of an embedded invocation reaches the server as batches of telemetry while it runs and as a record that
is uploaded afterwards.  Both store a trace and its root span under ids that are derived from the gateway and the
id of the trace, and complete them.
-/

namespace Vifu.Server

open Foundation
open Vifu.Gateway
open Vifu.Runtime hiding validateIdentifier maxTraceDurationMs

abbrev Sha256 := List UInt8 → List UInt8

def textBytes (text : String) : List UInt8 := text.toUTF8.data.toList

/-- `Uuid::from_bytes`. -/
def uuidOfBytes (byte : ℕ → UInt8) : Uuid :=
  uuidOfDigits fun place =>
    let index := place - ([8, 13, 18, 23].filter fun hyphen => hyphen < place).length
    if index % 2 = 0 then (byte (index / 2)).toNat / 16 else (byte (index / 2)).toNat % 16

def runtimeTraceUuid (sha256 : Sha256) (kind gatewayId traceId : String) : Uuid :=
  let digest := sha256 (textBytes "vifu-runtime-trace-v1" ++ [0] ++ textBytes kind ++ [0] ++ textBytes gatewayId ++ [0] ++
    textBytes traceId)
  uuidOfBytes fun index =>
    let byte := digest.getD index 0
    if index = 6 then byte &&& 0x0f ||| 0x50 else if index = 8 then byte &&& 0x3f ||| 0x80 else byte

def hashBytes : ℕ := 12
def maxIdentifierLen : ℕ := 128

/-- `{byte:02x}`. -/
def hexByte (byte : UInt8) : List Char := [hexDigit (byte.toNat / 16), hexDigit (byte.toNat % 16)]

def scopedProviderKey (sha256 : Sha256) (gatewayId runtimeProviderKey : String) : String :=
  let suffix := ((sha256 (textBytes gatewayId ++ [0] ++ textBytes runtimeProviderKey)).take hashBytes).flatMap hexByte
  .ofList (runtimeProviderKey.toList.take (maxIdentifierLen - 2 - suffix.length) ++ ['-', '-'] ++ suffix)

structure TraceDeployment where
  id : Uuid
  traceMode : TraceMode
  project : Except ApiError (Uuid × String)
  releaseManifest : Option Value

def runtimeTraceAgentMetadata (manifest : Value) (agentId : String) : Option Value := do
  let agents ← manifest.get? "agents"
  let agents ← agents.asArray
  let agent ← agents.find? fun agent => (agent.get? "id").bind Value.asStr == some agentId
  agent.get? "metadata"

def runtimeTraceProfileIdentity (uuids : UuidParser) (manifest : Value) (agentId : String) : Option (Uuid × Uuid) := do
  let metadata ← runtimeTraceAgentMetadata manifest agentId
  let profile ← metadata.get? "agentProfile"
  let id ← ((← profile.get? "id").asStr).bind uuids.parse
  let versionId ← ((← profile.get? "versionId").asStr).bind uuids.parse
  return (id, versionId)

def runtimeTraceProviderName (manifest : Value) (agentId : String) : Option String := do
  let metadata ← runtimeTraceAgentMetadata manifest agentId
  let name ← (← metadata.get? "providerName").asStr
  if trim name = "" then none else some (trim name)

def maxSigned : ℕ := 9223372036854775807

/-- `from_timestamp_millis` after the conversion of the number. -/
def timestampOfMillis (fromTimestampMillis : ℕ → Option DateTime) (millis : ℕ) : Option DateTime :=
  if millis ≤ maxSigned then fromTimestampMillis millis else none

def textOrNull : Option String → Value
  | none => .null
  | some text => .string text

def createRootSpan (clock : Clock) (requestId : Uuid) (span : NewTraceSpan) (inserted : Bool) : Effect Storage ApiError Unit :=
  if inserted then statement fun tables => (tables.createTraceSpanWithId clock requestId span).map fun next => ((), next)
  else pure ()

def storeRuntimeTrace (clock : Clock) (trace : NewUploadedRuntimeTrace) (span : NewTraceSpan) : Effect Storage ApiError Unit := do
  let inserted ← statement fun tables => tables.createUploadedRuntimeTrace trace
  createRootSpan clock trace.requestId span inserted

def completeRuntimeTrace (clock : Clock) (requestId : Uuid) (status : String) (durationMs : ℕ) (error : Option String) :
    Effect Storage ApiError Unit := do
  execute fun tables => tables.completeTraceSpan clock requestId status durationMs none error
  execute fun tables => tables.completeTrace clock requestId status durationMs none error

/-! ## Live telemetry -/

inductive RuntimeTelemetryPersistError where
  | invalid (message : String)
  | storage (error : ApiError)
  deriving DecidableEq

section

variable (sha256 : Sha256) (uuids : UuidParser) (fromTimestampMillis : ℕ → Option DateTime) (clock : Clock)
  (gatewayId : String)

def scopeEvent : TraceTelemetry → TraceTelemetry
  | .invocationStarted providerKey capability model =>
    .invocationStarted (scopedProviderKey sha256 gatewayId providerKey) capability model
  | .providerStage stage => .providerStage stage
  | .delivery delivery => .delivery delivery

def persistBatchForGateway (floats : FloatText) (parser : JsonParser) (requestId : Uuid) (batch : TraceTelemetryBatch) :
    Effect Storage ApiError Unit :=
  persistBatch floats parser clock requestId { batch with events := batch.events.map (scopeEvent sha256 gatewayId) }

def startedIdentity : TraceTelemetry → Option (String × String)
  | .invocationStarted providerKey capability _ => some (providerKey, capability)
  | .providerStage _ => none
  | .delivery _ => none

def liveRequest (deploymentId : Uuid) (batch : RuntimeTelemetryBatch) (runtimeProviderKey providerName : Option String) : Value :=
  .object
    [("agent", .string batch.agentId),
      ("deploymentId", .string deploymentId.text),
      ("endpoint", .string batch.endpoint),
      ("gatewayId", .string gatewayId),
      ("invocationId", .string batch.invocationId),
      ("providerName", textOrNull providerName),
      ("runtimeProviderKey", textOrNull runtimeProviderKey),
      ("source", .string "embedded-runtime-live"),
      ("traceId", .string batch.traceId)]

def liveTrace (sessionId : Uuid) (deployment : TraceDeployment) (projectId : Uuid) (createdAt : DateTime)
    (batch : RuntimeTelemetryBatch) : NewUploadedRuntimeTrace :=
  let identity := batch.events.findSome? startedIdentity
  let profile := deployment.releaseManifest.bind fun manifest => runtimeTraceProfileIdentity uuids manifest batch.agentId
  let providerName := deployment.releaseManifest.bind fun manifest => runtimeTraceProviderName manifest batch.agentId
  { id := runtimeTraceUuid sha256 "trace" gatewayId batch.traceId
    requestId := runtimeTraceUuid sha256 "request" gatewayId batch.traceId
    projectId
    gatewaySessionId := some sessionId
    profileId := profile.map Prod.fst
    profileVersionId := profile.map Prod.snd
    operation := "runtime.invoke"
    providerKey := identity.map fun identity => scopedProviderKey sha256 gatewayId identity.1
    capabilityKind := identity.map Prod.snd
    status := "pending"
    latencyMs := 0
    request := liveRequest gatewayId batch.deploymentId batch (identity.map Prod.fst) providerName
    createdAt }

def liveSpan (deployment : TraceDeployment) (trace : NewUploadedRuntimeTrace) : NewTraceSpan where
  traceId := trace.id
  parentSpanId := none
  name := "runtime.invoke"
  kind := "embedded_runtime"
  observationType := .generation
  providerKey := trace.providerKey
  capabilityKind := trace.capabilityKind
  model := none
  modelParameters := none
  inputSummary := some trace.request
  attributes := .object [("deploymentId", .string deployment.id.text), ("live", .bool true)]

def persistLiveEvents (floats : FloatText) (parser : JsonParser) (requestId : Uuid) (batch : RuntimeTelemetryBatch) :
    Effect Storage ApiError Unit :=
  if batch.events ≠ [] ∨ batch.rootInputSummary.isSome ∨ batch.rootOutputSummary.isSome then
    persistBatchForGateway sha256 clock gatewayId floats parser requestId
      { events := batch.events
        droppedEvents := batch.droppedEvents
        rootInputSummary := batch.rootInputSummary
        rootOutputSummary := batch.rootOutputSummary }
  else pure ()

def terminalStatus : RuntimeTelemetryTerminalStatus → String
  | .completed => "completed"
  | .cancelled => "cancelled"
  | .error => "error"

def persistTerminal (requestId : Uuid) : Option RuntimeTelemetryTerminal → Effect Storage RuntimeTelemetryPersistError Unit
  | none => pure ()
  | some terminal => do
    Effect.lift (ensure (terminal.durationMs ≤ maxSigned) (.invalid "runtime telemetry duration is invalid"))
    Effect.mapError .storage
      (completeRuntimeTrace clock requestId (terminalStatus terminal.status) terminal.durationMs terminal.error)

/-- Live telemetry of a deployment that stores traces. -/
def persistAssigned (floats : FloatText) (parser : JsonParser) (sessionId : Uuid) (deployment : TraceDeployment)
    (batch : RuntimeTelemetryBatch) : Effect Storage RuntimeTelemetryPersistError Unit := do
  let project ← Effect.lift (deployment.project.mapError .storage)
  Effect.lift (ensure (project.2 = batch.projectId) (.invalid "runtime telemetry project does not match its deployment"))
  let createdAt ← Effect.lift
    (okOr (.invalid "runtime telemetry timestamp is invalid") (timestampOfMillis fromTimestampMillis batch.startedAtMs))
  let trace := liveTrace sha256 uuids gatewayId sessionId deployment project.1 createdAt batch
  Effect.mapError .storage (storeRuntimeTrace clock trace (liveSpan deployment trace))
  Effect.mapError .storage (persistLiveEvents sha256 clock gatewayId floats parser trace.requestId batch)
  persistTerminal clock trace.requestId batch.terminal

def persistRuntimeTelemetry (floats : FloatText) (parser : JsonParser) (sessionId : Uuid)
    (assigned : Except ApiError (Option TraceDeployment)) (batch : RuntimeTelemetryBatch) :
    Effect Storage RuntimeTelemetryPersistError Bool := do
  let found ← Effect.lift (assigned.mapError .storage)
  let deployment ← Effect.lift
    (okOr (.invalid "runtime telemetry deployment is not assigned to this Gateway") found)
  if deployment.traceMode = .off then return false
  else do
    persistAssigned sha256 uuids fromTimestampMillis clock gatewayId floats parser sessionId deployment batch
    return true

/-! ## Uploaded records -/

def uploadRequest (deploymentId : Uuid) (trace : RuntimeTraceRecord) (providerName : Option String) : Value :=
  .object
    [("agent", textOrNull trace.agent),
      ("deploymentId", .string deploymentId.text),
      ("endpoint", .string trace.endpoint),
      ("gatewayId", .string gatewayId),
      ("invocationId", .string trace.invocationId),
      ("providerName", textOrNull providerName),
      ("source", .string "embedded-runtime"),
      ("traceId", .string trace.id)]

def uploadedTrace (sessionId : Option Uuid) (deployment : TraceDeployment) (projectId : Uuid) (createdAt : DateTime)
    (trace : RuntimeTraceRecord) : NewUploadedRuntimeTrace :=
  let ofAgent := fun (α : Type) (read : Value → String → Option α) =>
    trace.agent.bind fun agentId => deployment.releaseManifest.bind fun manifest => read manifest agentId
  let profile := ofAgent _ (runtimeTraceProfileIdentity uuids)
  { id := runtimeTraceUuid sha256 "trace" gatewayId trace.id
    requestId := runtimeTraceUuid sha256 "request" gatewayId trace.id
    projectId
    gatewaySessionId := sessionId
    profileId := profile.map Prod.fst
    profileVersionId := profile.map Prod.snd
    operation := "runtime.invoke"
    providerKey := trace.provider
    capabilityKind := trace.capability
    status := trace.status
    latencyMs := trace.durationMs
    request := uploadRequest gatewayId deployment.id trace (ofAgent _ runtimeTraceProviderName)
    createdAt }

def uploadedSpan (deployment : TraceDeployment) (trace : NewUploadedRuntimeTrace) : NewTraceSpan where
  traceId := trace.id
  parentSpanId := none
  name := "runtime.invoke"
  kind := "embedded_runtime"
  observationType := .generation
  providerKey := trace.providerKey
  capabilityKind := trace.capabilityKind
  model := none
  modelParameters := none
  inputSummary := some trace.request
  attributes := .object [("deploymentId", .string deployment.id.text)]

def uploadRuntimeTrace (sessionId : Option Uuid) (deployment : TraceDeployment) (project : Uuid × String)
    (trace : RuntimeTraceRecord) : Effect Storage ApiError Unit := do
  Effect.lift (trace.validate.mapError fun error => .invalid error.display)
  Effect.lift (ensure (trace.projectId = project.2) .forbidden)
  let createdAt ← Effect.lift
    (okOr (.invalid "runtime trace timestamp is invalid") (timestampOfMillis fromTimestampMillis trace.createdAtMs))
  Effect.lift (ensure (trace.durationMs ≤ maxSigned) (.invalid "runtime trace duration is invalid"))
  let uploaded := uploadedTrace sha256 uuids gatewayId sessionId deployment project.1 createdAt trace
  storeRuntimeTrace clock uploaded (uploadedSpan deployment uploaded)
  completeRuntimeTrace clock uploaded.requestId trace.status trace.durationMs none

/-- `upload_agent_gateway_runtime_traces`, which answers with the ids of the traces. -/
def uploadAgentGatewayRuntimeTraces (sessionId : Option Uuid) (assigned : Except ApiError (Option TraceDeployment))
    (traces : List RuntimeTraceRecord) : Effect Storage ApiError (List String) := do
  Effect.lift (ensure (traces ≠ [] ∧ traces.length ≤ 100)
    (.invalid "runtime trace batches must contain between 1 and 100 records"))
  let found ← Effect.lift assigned
  let deployment ← Effect.lift (okOr .forbidden found)
  Effect.lift (ensure (deployment.traceMode ≠ .off) .forbidden)
  let project ← Effect.lift deployment.project
  Effect.each (uploadRuntimeTrace sha256 uuids fromTimestampMillis clock gatewayId sessionId deployment project) traces
  return traces.map (·.id)

end

end Vifu.Server
