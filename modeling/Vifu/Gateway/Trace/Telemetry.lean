import Vifu.Gateway.Trace.Canonical

/-!
# Trace telemetry

What a gateway reports of an invocation while it runs, and the checks that the receiver makes.  The
lemmas say which reports pass.
-/

namespace Vifu.Gateway

open Foundation
open Vifu.Runtime hiding validateIdentifier

def maxTraceDurationMs : ℕ := 86400000
def maxTraceTokenCount : ℕ := 1000000000
def maxTraceTelemetryEvents : ℕ := 32
def maxTraceDroppedEvents : ℕ := 10000

inductive TraceStageStatus where
  | started | completed | failed
  deriving DecidableEq

inductive TraceDeliveryStatus where
  | delivered | failed
  deriving DecidableEq

/-- `TraceTelemetry::ProviderStage`. -/
structure StageTelemetry where
  observationId : Uuid
  stage : ProviderStage
  status : TraceStageStatus
  startOffsetMs : ℕ
  endOffsetMs : Option ℕ
  elapsedMs : Option ℕ
  requestElapsedMs : Option ℕ
  inputTokens : Option ℕ
  outputTokens : Option ℕ
  resident : Option Bool
  error : Option String
  deriving DecidableEq

/-- `TraceTelemetry::Delivery`. -/
structure DeliveryTelemetry where
  observationId : Uuid
  status : TraceDeliveryStatus
  startOffsetMs : ℕ
  endOffsetMs : ℕ
  elapsedMs : ℕ
  error : Option String
  deriving DecidableEq

inductive TraceTelemetry where
  | invocationStarted (providerKey capability : String) (model : Option String)
  | providerStage (stage : StageTelemetry)
  | delivery (delivery : DeliveryTelemetry)
  deriving DecidableEq

structure TraceTelemetryBatch where
  events : List TraceTelemetry
  droppedEvents : ℕ
  rootInputSummary : Option TraceIoSummary
  rootOutputSummary : Option TraceIoSummary
  deriving DecidableEq

inductive RuntimeTelemetryTerminalStatus where
  | completed | cancelled | error
  deriving DecidableEq

structure RuntimeTelemetryTerminal where
  status : RuntimeTelemetryTerminalStatus
  durationMs : ℕ
  endedAtMs : ℕ
  error : Option String
  deriving DecidableEq

structure RuntimeHostMetrics where
  processRssBytes : Option ℕ
  totalMemoryBytes : Option ℕ
  deriving DecidableEq

structure RuntimeTelemetryBatch where
  deploymentId : Uuid
  traceId : String
  invocationId : String
  projectId : String
  endpoint : String
  agentId : String
  startedAtMs : ℕ
  events : List TraceTelemetry
  droppedEvents : ℕ
  rootInputSummary : Option TraceIoSummary
  rootOutputSummary : Option TraceIoSummary
  hostMetrics : Option RuntimeHostMetrics
  terminal : Option RuntimeTelemetryTerminal
  deriving DecidableEq

/-! ## Checks -/

def validateOptionalText (name : String) (value : Option String) (least most : ℕ) : Except String Unit :=
  value.toList.forM fun text => validateText name text least most

def validateOptionalRange (name : String) (value : Option ℕ) (most : ℕ) : Except String Unit :=
  ensure (∀ number ∈ value, number ≤ most) (name ++ " is out of range")

def validateStageEnd (stage : StageTelemetry) : Except String Unit :=
  match stage.status, stage.endOffsetMs with
  | .started, none => .ok ()
  | .started, some _ => .error "started trace stage cannot have an end offset"
  | .completed, some endOffsetMs | .failed, some endOffsetMs =>
    ensure (stage.startOffsetMs ≤ endOffsetMs ∧ endOffsetMs ≤ maxTraceDurationMs)
      "trace stage endOffsetMs is out of range"
  | .completed, none | .failed, none => .error "completed trace stage requires an end offset"

def validateStageTelemetry (stage : StageTelemetry) : Except String Unit := do
  ensure (stage.status = .started → stage.elapsedMs = none) "started trace stage cannot have elapsed time"
  ensure (stage.status ≠ .started → stage.elapsedMs ≠ none) "completed trace stage requires elapsed time"
  ensure (stage.status = .failed → stage.error ≠ none) "failed trace stage requires an error"
  validateOptionalText "trace stage error" stage.error 1 512
  ensure (stage.startOffsetMs ≤ maxTraceDurationMs) "trace stage startOffsetMs is out of range"
  validateStageEnd stage
  validateOptionalRange "trace stage elapsedMs" stage.elapsedMs maxTraceDurationMs
  validateOptionalRange "trace stage requestElapsedMs" stage.requestElapsedMs maxTraceDurationMs
  validateOptionalRange "trace stage inputTokens" stage.inputTokens maxTraceTokenCount
  validateOptionalRange "trace stage outputTokens" stage.outputTokens maxTraceTokenCount

def validateDeliveryTelemetry (delivery : DeliveryTelemetry) : Except String Unit := do
  ensure (delivery.startOffsetMs ≤ delivery.endOffsetMs ∧ delivery.endOffsetMs ≤ maxTraceDurationMs)
    "trace delivery offsets are out of range"
  ensure (delivery.elapsedMs ≤ maxTraceDurationMs) "trace delivery elapsedMs is out of range"
  ensure (delivery.status = .failed → delivery.error ≠ none) "failed trace delivery requires an error"
  validateOptionalText "trace delivery error" delivery.error 1 512

def validateTraceTelemetry : TraceTelemetry → Except String Unit
  | .invocationStarted providerKey capability model => do
    validateIdentifier "trace provider key" providerKey
    validateIdentifier "trace capability" capability
    validateOptionalText "trace model" model 1 512
  | .providerStage stage => validateStageTelemetry stage
  | .delivery delivery => validateDeliveryTelemetry delivery

def validateTraceTelemetryBatch (floats : FloatText) (parser : JsonParser) (batch : TraceTelemetryBatch) :
    Except String Unit := do
  ensure (¬(batch.events = [] ∧ batch.rootInputSummary = none ∧ batch.rootOutputSummary = none) ∧
    batch.events.length ≤ maxTraceTelemetryEvents) "trace telemetry batch size is out of range"
  ensure (batch.droppedEvents ≤ maxTraceDroppedEvents) "trace telemetry dropped event count is out of range"
  batch.events.forM validateTraceTelemetry
  validateTraceIoSummaries floats parser batch.rootInputSummary batch.rootOutputSummary

def validateTerminal (startedAtMs : ℕ) (terminal : RuntimeTelemetryTerminal) : Except String Unit := do
  ensure (terminal.durationMs ≤ maxTraceDurationMs ∧ startedAtMs ≤ terminal.endedAtMs)
    "runtime telemetry terminal timing is out of range"
  validateOptionalText "runtime telemetry error" terminal.error 1 512

def validateRuntimeTelemetryBatch (floats : FloatText) (parser : JsonParser) (batch : RuntimeTelemetryBatch) :
    Except String Unit := do
  validateIdentifier "runtime trace id" batch.traceId
  validateIdentifier "runtime invocation id" batch.invocationId
  validateIdentifier "runtime project id" batch.projectId
  validateIdentifier "runtime endpoint" batch.endpoint
  validateIdentifier "runtime agent id" batch.agentId
  ensure (batch.startedAtMs ≠ 0) "runtime telemetry start time is required"
  ensure (batch.events ≠ [] ∨ batch.terminal ≠ none)
    "runtime telemetry must include events or a terminal outcome"
  ensure (batch.events.length ≤ maxTraceTelemetryEvents) "runtime telemetry batch size is out of range"
  ensure (batch.droppedEvents ≤ maxTraceDroppedEvents) "runtime telemetry dropped event count is out of range"
  batch.events.forM validateTraceTelemetry
  validateTraceIoSummaries floats parser batch.rootInputSummary batch.rootOutputSummary
  batch.terminal.toList.forM (validateTerminal batch.startedAtMs)

/-! ## Reports that pass -/

def OptionalText (value : Option String) (least most : ℕ) : Prop := ∀ text ∈ value, Text least most text

variable {result : Unit} {stage : StageTelemetry} {name : String}

theorem validateOptionalText_ok {value : Option String} {least most : ℕ} :
    validateOptionalText name value least most = .ok result ↔ OptionalText value least most := by
  rw [validateOptionalText, forM_ok]
  simp [OptionalText]

theorem validateOptionalRange_ok {value : Option ℕ} {most : ℕ} :
    validateOptionalRange name value most = .ok result ↔ ∀ number ∈ value, number ≤ most := ensure_ok

def StageEnd (stage : StageTelemetry) : Prop :=
  match stage.status, stage.endOffsetMs with
  | .started, none => True
  | .completed, some endOffsetMs | .failed, some endOffsetMs =>
    stage.startOffsetMs ≤ endOffsetMs ∧ endOffsetMs ≤ maxTraceDurationMs
  | .started, some _ | .completed, none | .failed, none => False

structure ValidStage (stage : StageTelemetry) : Prop where
  noElapsed : stage.status = .started → stage.elapsedMs = none
  someElapsed : stage.status ≠ .started → stage.elapsedMs ≠ none
  someError : stage.status = .failed → stage.error ≠ none
  errorText : OptionalText stage.error 1 512
  startOffset : stage.startOffsetMs ≤ maxTraceDurationMs
  endOffset : StageEnd stage
  elapsed : ∀ elapsedMs ∈ stage.elapsedMs, elapsedMs ≤ maxTraceDurationMs
  requestElapsed : ∀ elapsedMs ∈ stage.requestElapsedMs, elapsedMs ≤ maxTraceDurationMs
  inputTokens : ∀ tokens ∈ stage.inputTokens, tokens ≤ maxTraceTokenCount
  outputTokens : ∀ tokens ∈ stage.outputTokens, tokens ≤ maxTraceTokenCount

structure ValidDelivery (delivery : DeliveryTelemetry) : Prop where
  offsets : delivery.startOffsetMs ≤ delivery.endOffsetMs ∧ delivery.endOffsetMs ≤ maxTraceDurationMs
  elapsed : delivery.elapsedMs ≤ maxTraceDurationMs
  someError : delivery.status = .failed → delivery.error ≠ none
  errorText : OptionalText delivery.error 1 512

def ValidTelemetry : TraceTelemetry → Prop
  | .invocationStarted providerKey capability model =>
    Identifier providerKey ∧ Identifier capability ∧ OptionalText model 1 512
  | .providerStage stage => ValidStage stage
  | .delivery delivery => ValidDelivery delivery

theorem validateStageEnd_ok : validateStageEnd stage = .ok result ↔ StageEnd stage := by
  cases isStatus : stage.status <;> cases isEnd : stage.endOffsetMs <;>
    simp [validateStageEnd, StageEnd, isStatus, isEnd]

theorem validateStageTelemetry_ok : validateStageTelemetry stage = .ok result ↔ ValidStage stage := by
  simp only [validateStageTelemetry, check_bind_ok, ensure_ok, validateOptionalText_ok, validateOptionalRange_ok,
    validateStageEnd_ok]
  constructor
  · rintro ⟨noElapsed, someElapsed, someError, errorText, startOffset, endOffset, elapsed, requestElapsed,
      inputTokens, outputTokens⟩
    exact ⟨noElapsed, someElapsed, someError, errorText, startOffset, endOffset, elapsed, requestElapsed,
      inputTokens, outputTokens⟩
  · intro valid
    exact ⟨valid.noElapsed, valid.someElapsed, valid.someError, valid.errorText, valid.startOffset,
      valid.endOffset, valid.elapsed, valid.requestElapsed, valid.inputTokens, valid.outputTokens⟩

theorem validateTraceTelemetry_ok {telemetry : TraceTelemetry} :
    validateTraceTelemetry telemetry = .ok result ↔ ValidTelemetry telemetry := by
  cases telemetry with
  | invocationStarted providerKey capability model =>
    simp only [validateTraceTelemetry, check_bind_ok, validateIdentifier_ok, validateOptionalText_ok, ValidTelemetry]
  | providerStage stage => exact validateStageTelemetry_ok
  | delivery delivery =>
    simp only [validateTraceTelemetry, validateDeliveryTelemetry, check_bind_ok, ensure_ok, validateOptionalText_ok,
      ValidTelemetry]
    constructor
    · rintro ⟨offsets, elapsed, someError, errorText⟩
      exact ⟨offsets, elapsed, someError, errorText⟩
    · intro valid
      exact ⟨valid.offsets, valid.elapsed, valid.someError, valid.errorText⟩

section

variable {floats : FloatText} {parser : JsonParser}

theorem validateTraceIoSummaries_ok {input output : Option TraceIoSummary} :
    validateTraceIoSummaries floats parser input output = .ok result ↔
      validateTraceIoSummary floats parser "root input summary" input = .ok () ∧
        validateTraceIoSummary floats parser "root output summary" output = .ok () := by
  rw [validateTraceIoSummaries, check_bind_ok]

theorem validateTraceTelemetryBatch_ok {batch : TraceTelemetryBatch} :
    validateTraceTelemetryBatch floats parser batch = .ok result ↔
      (¬(batch.events = [] ∧ batch.rootInputSummary = none ∧ batch.rootOutputSummary = none) ∧
        batch.events.length ≤ maxTraceTelemetryEvents) ∧
      batch.droppedEvents ≤ maxTraceDroppedEvents ∧ (∀ event ∈ batch.events, ValidTelemetry event) ∧
      validateTraceIoSummaries floats parser batch.rootInputSummary batch.rootOutputSummary = .ok () := by
  simp only [validateTraceTelemetryBatch, check_bind_ok, ensure_ok, forM_ok, validateTraceTelemetry_ok]

structure ValidRuntimeTelemetry (floats : FloatText) (parser : JsonParser) (batch : RuntimeTelemetryBatch) : Prop where
  traceId : Identifier batch.traceId
  invocationId : Identifier batch.invocationId
  projectId : Identifier batch.projectId
  endpoint : Identifier batch.endpoint
  agentId : Identifier batch.agentId
  started : batch.startedAtMs ≠ 0
  content : batch.events ≠ [] ∨ batch.terminal ≠ none
  few : batch.events.length ≤ maxTraceTelemetryEvents
  dropped : batch.droppedEvents ≤ maxTraceDroppedEvents
  events : ∀ event ∈ batch.events, ValidTelemetry event
  summaries : validateTraceIoSummaries floats parser batch.rootInputSummary batch.rootOutputSummary = .ok ()
  terminal : ∀ terminal ∈ batch.terminal,
    (terminal.durationMs ≤ maxTraceDurationMs ∧ batch.startedAtMs ≤ terminal.endedAtMs) ∧
      OptionalText terminal.error 1 512

theorem validateRuntimeTelemetryBatch_ok {batch : RuntimeTelemetryBatch} :
    validateRuntimeTelemetryBatch floats parser batch = .ok result ↔ ValidRuntimeTelemetry floats parser batch := by
  simp only [validateRuntimeTelemetryBatch, check_bind_ok, ensure_ok, forM_ok, validateTraceTelemetry_ok,
    validateIdentifier_ok, validateTerminal, validateOptionalText_ok, Option.mem_toList]
  constructor
  · rintro ⟨traceId, invocationId, projectId, endpoint, agentId, started, content, few, dropped, events, summaries,
      terminal⟩
    exact ⟨traceId, invocationId, projectId, endpoint, agentId, started, content, few, dropped, events, summaries,
      terminal⟩
  · intro valid
    exact ⟨valid.traceId, valid.invocationId, valid.projectId, valid.endpoint, valid.agentId, valid.started,
      valid.content, valid.few, valid.dropped, valid.events, valid.summaries, valid.terminal⟩

end

end Vifu.Gateway
