import Vifu.Gateway.Trace.Telemetry

/-!
# Gateway commands

The commands that a gateway and its server exchange, and `validate_command`, which both sides apply
to every command that they send or receive.
-/

namespace Vifu.Gateway

open Foundation
open Vifu.Runtime hiding validateIdentifier

def version : String := "vifu.agent-gateway/1"

def maxAgents : ℕ := 256
def maxInvocationBodyBytes : ℕ := 16777216

structure AgentDescriptor where
  id : String
  name : String
  metadata : Value
  deriving DecidableEq

structure GatewayMachineProof where
  id : String
  publicKey : String
  signature : String
  signedAt : ℕ
  deriving DecidableEq

structure GatewayHelloAuth where
  deviceToken : Option String
  deriving DecidableEq

structure GatewayWelcomeAuth where
  deviceToken : String
  generation : ℕ
  expiresAt : String
  deriving DecidableEq

inductive ApplicationFeedbackEvent where
  | outputAccepted | actionApplied | framePresented
  deriving DecidableEq

inductive ApplicationFeedbackOutcome where
  | pass | fail | unknown | notApplicable
  deriving DecidableEq

structure ApplicationFeedback where
  event : ApplicationFeedbackEvent
  outcome : ApplicationFeedbackOutcome
  message : Option String
  path : Option String
  deriving DecidableEq

/-- `HelloParams`. -/
structure Hello where
  protocol : String
  resumeSessionId : Option Uuid
  agents : List AgentDescriptor
  metadata : Value
  machine : GatewayMachineProof
  auth : GatewayHelloAuth
  followup : Option String
  deriving DecidableEq

/-- `WelcomePayload`. -/
structure Welcome where
  gatewayId : String
  connectionId : Uuid
  sessionId : Uuid
  heartbeatIntervalMs : ℕ
  resumed : Bool
  auth : Option GatewayWelcomeAuth
  deriving DecidableEq

/-- `PairingRequiredPayload`. -/
structure PairingRequired where
  requestId : Uuid
  authUrl : String
  retryable : Bool
  recommendedNextStep : String
  retryAfterMs : ℕ
  deriving DecidableEq

/-- `InvokeParams`. -/
structure Invoke where
  channelId : ℕ
  endpointId : Uuid
  profileId : Uuid
  bindingId : Uuid
  agentId : String
  binding : Value
  input : Value
  timeoutMs : ℕ
  deriving DecidableEq

/-- `ApplicationFeedbackPayload`. -/
structure FeedbackReport where
  requestId : Uuid
  observationId : Uuid
  startOffsetMs : ℕ
  endOffsetMs : ℕ
  feedback : ApplicationFeedback
  deriving DecidableEq

inductive AgentGatewayCommand where
  | challenge (nonce : String) (timestamp : ℕ) (audience : String)
  | hello (hello : Hello)
  | welcome (welcome : Welcome)
  | pairingRequired (pairing : PairingRequired)
  | invoke (requestId : Uuid) (invoke : Invoke)
  | result (requestId : Uuid) (channelId : ℕ) (output : Value)
  | error (requestId : Option Uuid) (channelId : Option ℕ) (code message : String)
  | cancel (requestId : Uuid) (channelId : ℕ)
  | invocationActivityReady
  | invocationActivity (requestId : Uuid) (channelId : ℕ)
  | heartbeat (sessionId : Uuid)
  | heartbeatAck (sessionId : Uuid)
  | runtimeConfigChanged (deploymentIds : List Uuid)
  | runtimeMonitoringReady
  | runtimeHostMetricsReady
  | runtimeTelemetry (batch : RuntimeTelemetryBatch)
  | applicationFeedback (report : FeedbackReport)
  deriving DecidableEq

/-! ## Checks -/

def validateAgent (floats : FloatText) (agent : AgentDescriptor) : Except String Unit := do
  validateIdentifier "agent id" agent.id
  validateText "agent name" agent.name 1 128
  validateJson floats "agent metadata" agent.metadata 65536

def validateHello (floats : FloatText) (hello : Hello) : Except String Unit := do
  ensure (hello.protocol = version) ("unsupported agent gateway protocol: " ++ hello.protocol)
  ensure (hello.agents.length ≤ maxAgents) "too many agent gateway agents"
  hello.agents.forM (validateAgent floats)
  validateJson floats "agent gateway metadata" hello.metadata 65536
  validateIdentifier "Gateway machine id" hello.machine.id
  validateToken "Gateway machine public key" hello.machine.publicKey 32 256
  validateToken "Gateway machine signature" hello.machine.signature 32 256
  ensure (hello.machine.signedAt ≠ 0) "Gateway machine signature timestamp is required"
  hello.auth.deviceToken.toList.forM fun token => validateToken "Gateway device token" token 48 256
  hello.followup.toList.forM fun followup => validateToken "Gateway follow-up" followup 16 512

def validateWelcomeAuth (auth : GatewayWelcomeAuth) : Except String Unit := do
  validateToken "Gateway device token" auth.deviceToken 48 256
  ensure (auth.generation ≠ 0 ∧ auth.expiresAt ≠ "" ∧ auth.expiresAt.utf8ByteSize ≤ 64)
    "invalid Gateway authorization update"

def validateWelcome (welcome : Welcome) : Except String Unit := do
  validateIdentifier "agent gateway id" welcome.gatewayId
  ensure (1000 ≤ welcome.heartbeatIntervalMs ∧ welcome.heartbeatIntervalMs ≤ 60000) "invalid heartbeat interval"
  welcome.auth.toList.forM validateWelcomeAuth

def validatePairingRequired (pairing : PairingRequired) : Except String Unit := do
  validateText "Gateway authorization URL" pairing.authUrl 1 2048
  validateToken "Gateway pairing next step" pairing.recommendedNextStep 3 64
  ensure (250 ≤ pairing.retryAfterMs ∧ pairing.retryAfterMs ≤ 60000) "invalid Gateway pairing retry interval"

def validateInvoke (floats : FloatText) (invoke : Invoke) : Except String Unit := do
  validateChannel invoke.channelId
  validateIdentifier "agent id" invoke.agentId
  validateJson floats "binding" invoke.binding 65536
  validateJson floats "input" invoke.input maxInvocationBodyBytes
  ensure (500 ≤ invoke.timeoutMs ∧ invoke.timeoutMs ≤ 120000) "invalid request timeout"

def validateError (requestId : Option Uuid) (channelId : Option ℕ) (code message : String) : Except String Unit := do
  ensure (requestId.isSome = channelId.isSome) "request and channel ids must be provided together"
  channelId.toList.forM validateChannel
  validateCode code
  validateText "error message" message 1 2048

def validateConfigChanged (deploymentIds : List Uuid) : Except String Unit := do
  ensure (deploymentIds ≠ [] ∧ deploymentIds.length ≤ 256) "runtime configuration notification must name deployments"
  ensure deploymentIds.Nodup "runtime configuration notification contains duplicates"

def validateFeedback (report : FeedbackReport) : Except String Unit := do
  ensure (report.startOffsetMs ≤ report.endOffsetMs ∧ report.endOffsetMs ≤ maxTraceDurationMs)
    "application feedback offsets are out of range"
  validateOptionalText "application feedback message" report.feedback.message 1 512
  validateOptionalText "application feedback path" report.feedback.path 1 512

def validateCommand (floats : FloatText) (parser : JsonParser) : AgentGatewayCommand → Except String Unit
  | .challenge nonce timestamp audience => do
    validateToken "challenge nonce" nonce 32 256
    ensure (timestamp ≠ 0) "challenge timestamp is required"
    validateText "challenge audience" audience 1 512
  | .hello hello => validateHello floats hello
  | .welcome welcome => validateWelcome welcome
  | .pairingRequired pairing => validatePairingRequired pairing
  | .invoke _ invoke => validateInvoke floats invoke
  | .result _ channelId output => do
    validateChannel channelId
    validateJson floats "output" output maxInvocationBodyBytes
  | .error requestId channelId code message => validateError requestId channelId code message
  | .cancel _ channelId | .invocationActivity _ channelId => validateChannel channelId
  | .invocationActivityReady | .heartbeat _ | .heartbeatAck _ => .ok ()
  | .runtimeConfigChanged deploymentIds => validateConfigChanged deploymentIds
  | .runtimeMonitoringReady | .runtimeHostMetricsReady => .ok ()
  | .runtimeTelemetry batch => validateRuntimeTelemetryBatch floats parser batch
  | .applicationFeedback report => validateFeedback report

/-! ## Commands that pass -/

structure ValidAgent (floats : FloatText) (agent : AgentDescriptor) : Prop where
  id : Identifier agent.id
  name : Text 1 128 agent.name
  metadata : agent.metadata.encodedSize floats ≤ 65536

structure ValidHello (floats : FloatText) (hello : Hello) : Prop where
  protocol : hello.protocol = version
  few : hello.agents.length ≤ maxAgents
  agents : ∀ agent ∈ hello.agents, ValidAgent floats agent
  metadata : hello.metadata.encodedSize floats ≤ 65536
  machineId : Identifier hello.machine.id
  publicKey : Token 32 256 hello.machine.publicKey
  signature : Token 32 256 hello.machine.signature
  signedAt : hello.machine.signedAt ≠ 0
  deviceToken : ∀ token ∈ hello.auth.deviceToken, Token 48 256 token
  followup : ∀ followup ∈ hello.followup, Token 16 512 followup

structure ValidWelcome (welcome : Welcome) : Prop where
  gatewayId : Identifier welcome.gatewayId
  heartbeat : 1000 ≤ welcome.heartbeatIntervalMs ∧ welcome.heartbeatIntervalMs ≤ 60000
  auth : ∀ auth ∈ welcome.auth, Token 48 256 auth.deviceToken ∧
    auth.generation ≠ 0 ∧ auth.expiresAt ≠ "" ∧ auth.expiresAt.utf8ByteSize ≤ 64

structure ValidInvoke (floats : FloatText) (invoke : Invoke) : Prop where
  channelId : invoke.channelId ≠ 0
  agentId : Identifier invoke.agentId
  binding : invoke.binding.encodedSize floats ≤ 65536
  input : invoke.input.encodedSize floats ≤ maxInvocationBodyBytes
  timeout : 500 ≤ invoke.timeoutMs ∧ invoke.timeoutMs ≤ 120000

/-- The commands that `validate_command` accepts. -/
def ValidCommand (floats : FloatText) (parser : JsonParser) : AgentGatewayCommand → Prop
  | .challenge nonce timestamp audience => Token 32 256 nonce ∧ timestamp ≠ 0 ∧ Text 1 512 audience
  | .hello hello => ValidHello floats hello
  | .welcome welcome => ValidWelcome welcome
  | .pairingRequired pairing =>
    Text 1 2048 pairing.authUrl ∧ Token 3 64 pairing.recommendedNextStep ∧
      250 ≤ pairing.retryAfterMs ∧ pairing.retryAfterMs ≤ 60000
  | .invoke _ invoke => ValidInvoke floats invoke
  | .result _ channelId output => channelId ≠ 0 ∧ output.encodedSize floats ≤ maxInvocationBodyBytes
  | .error requestId channelId code message =>
    requestId.isSome = channelId.isSome ∧ (∀ id ∈ channelId, id ≠ 0) ∧ ErrorCode code ∧ Text 1 2048 message
  | .cancel _ channelId | .invocationActivity _ channelId => channelId ≠ 0
  | .runtimeConfigChanged deploymentIds =>
    (deploymentIds ≠ [] ∧ deploymentIds.length ≤ 256) ∧ deploymentIds.Nodup
  | .runtimeTelemetry batch => ValidRuntimeTelemetry floats parser batch
  | .applicationFeedback report =>
    (report.startOffsetMs ≤ report.endOffsetMs ∧ report.endOffsetMs ≤ maxTraceDurationMs) ∧
      OptionalText report.feedback.message 1 512 ∧ OptionalText report.feedback.path 1 512
  | .invocationActivityReady | .heartbeat _ | .heartbeatAck _ | .runtimeMonitoringReady
  | .runtimeHostMetricsReady => True

section

variable {floats : FloatText} {parser : JsonParser} {result : Unit}

theorem validateHello_ok {hello : Hello} :
    validateHello floats hello = .ok result ↔ ValidHello floats hello := by
  simp only [validateHello, validateAgent, check_bind_ok, ensure_ok, forM_ok, validateIdentifier_ok, validateText_ok,
    validateJson_ok, validateToken_ok, Option.mem_toList]
  constructor
  · rintro ⟨protocol, few, agents, metadata, machineId, publicKey, signature, signedAt, deviceToken, followup⟩
    exact ⟨protocol, few, fun agent mem => ⟨(agents agent mem).1, (agents agent mem).2.1,
      (agents agent mem).2.2⟩, metadata, machineId, publicKey, signature, signedAt, deviceToken, followup⟩
  · intro valid
    exact ⟨valid.protocol, valid.few, fun agent mem => ⟨(valid.agents agent mem).id,
      (valid.agents agent mem).name, (valid.agents agent mem).metadata⟩, valid.metadata, valid.machineId,
      valid.publicKey, valid.signature, valid.signedAt, valid.deviceToken, valid.followup⟩

theorem validateWelcome_ok {welcome : Welcome} :
    validateWelcome welcome = .ok result ↔ ValidWelcome welcome := by
  simp only [validateWelcome, validateWelcomeAuth, check_bind_ok, ensure_ok, forM_ok, validateIdentifier_ok,
    validateToken_ok, Option.mem_toList]
  constructor
  · rintro ⟨gatewayId, heartbeat, auth⟩
    exact ⟨gatewayId, heartbeat, auth⟩
  · intro valid
    exact ⟨valid.gatewayId, valid.heartbeat, valid.auth⟩

theorem validateInvoke_ok {invoke : Invoke} :
    validateInvoke floats invoke = .ok result ↔ ValidInvoke floats invoke := by
  simp only [validateInvoke, check_bind_ok, ensure_ok, validateIdentifier_ok, validateJson_ok, validateChannel_ok]
  constructor
  · rintro ⟨channelId, agentId, binding, input, timeout⟩
    exact ⟨channelId, agentId, binding, input, timeout⟩
  · intro valid
    exact ⟨valid.channelId, valid.agentId, valid.binding, valid.input, valid.timeout⟩

theorem validateCommand_ok {command : AgentGatewayCommand} :
    validateCommand floats parser command = .ok result ↔ ValidCommand floats parser command := by
  cases command with
  | hello hello => exact validateHello_ok
  | welcome welcome => exact validateWelcome_ok
  | invoke requestId invoke => exact validateInvoke_ok
  | runtimeTelemetry batch => exact validateRuntimeTelemetryBatch_ok
  | error requestId channelId code message =>
    simp only [validateCommand, ValidCommand, validateError, check_bind_ok, ensure_ok, forM_ok, validateChannel_ok,
      validateCode_ok, validateText_ok, Option.mem_toList, Option.mem_def]
  | _ => simp [validateCommand, ValidCommand, validatePairingRequired, validateConfigChanged, validateFeedback,
      validateOptionalText_ok]

end

end Vifu.Gateway
