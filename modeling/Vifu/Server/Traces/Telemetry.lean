import Vifu.Foundation.Effects
import Vifu.Server.Traces.Tables

/-!
# Telemetry into spans

`persist_batch` writes a batch of telemetry as a sequence of statements, each on its own: when one fails, or the
storage goes away between two, what was written by then stays.
-/

namespace Vifu.Server

open Foundation
open Vifu.Gateway
open Vifu.Runtime hiding validateIdentifier

/-- The tables, and how many more statements go through; without a number all do. -/
structure Storage where
  tables : TraceTables
  left : Option ℕ
  deriving DecidableEq

def statement {α : Type} (run : TraceTables → Except ApiError (α × TraceTables)) : Effect Storage ApiError α :=
  fun storage =>
    if storage.left = some 0 then (.error .database, storage)
    else
      match run storage.tables with
      | .ok (value, tables) => (.ok value, ⟨tables, storage.left.map Nat.pred⟩)
      | .error error => (.error error, ⟨storage.tables, storage.left.map Nat.pred⟩)

def execute (run : TraceTables → TraceTables) : Effect Storage ApiError Unit := statement fun tables => .ok ((), run tables)

/-! ## Observations of stages and deliveries -/

def maxTelemetryDurationMs : ℕ := 86400000
def maxTelemetryTokenCount : ℕ := 1000000000

def boundedDuration (name : String) (value : ℕ) : Except ApiError ℕ := do
  ensure (value ≤ maxTelemetryDurationMs) (.invalid (name ++ " exceeds the supported telemetry window"))
  return value

def boundedTokens (name : String) (value : ℕ) : Except ApiError ℕ := do
  ensure (value ≤ maxTelemetryTokenCount) (.invalid (name ++ " is out of range"))
  return value

/-- `map` and `transpose` of a check. -/
def boundedOption (bounded : String → ℕ → Except ApiError ℕ) (name : String) : Option ℕ → Except ApiError (Option ℕ)
  | none => .ok none
  | some value => (bounded name value).map some

def stageName : ProviderStage → String
  | .queue => "Queue"
  | .load => "Load"
  | .tokenize => "Tokenize"
  | .prefill => "Prefill"
  | .firstToken => "First token"
  | .decode => "Decode"
  | .validate => "Validate"

def errorMarkers : List String :=
  ["authorization", "bearer ", "api key", "api_key", "apikey", "access token", "access_token", "secret", "token=",
    "token:", "password", "credential", "cookie", "session=", "session:"]

def safeErrorMessage (error : String) : String :=
  if errorMarkers.any fun marker => decide (marker.toList <:+: (toAsciiLowercase error).toList) then
    "Provider failed; sensitive details were redacted"
  else .ofList ((error.toList.take 240).map fun character => if isControl character then ' ' else character)

def numberOrNull : Option ℕ → Value
  | none => .null
  | some number => .number (.posInt number)

def stageAttributes (stage : StageTelemetry) : Value :=
  .object
    [("endOffsetMs", numberOrNull stage.endOffsetMs),
      ("inputTokens", numberOrNull stage.inputTokens),
      ("outputTokens", numberOrNull stage.outputTokens),
      ("requestElapsedMs", numberOrNull stage.requestElapsedMs),
      ("resident", (stage.resident.map Value.bool).getD .null),
      ("source", .string "agentGateway"),
      ("stage", .string (stageName stage.stage)),
      ("startOffsetMs", .number (.posInt stage.startOffsetMs))]

def deliveryAttributes (delivery : DeliveryTelemetry) : Value :=
  .object
    [("deliveryStatus", .string (match delivery.status with | .delivered => "delivered" | .failed => "failed")),
      ("endOffsetMs", .number (.posInt delivery.endOffsetMs)),
      ("source", .string "agentGateway"),
      ("startOffsetMs", .number (.posInt delivery.startOffsetMs))]

def stageObservation (stage : StageTelemetry) (target : RuntimeTraceTarget) : RuntimeTraceObservation where
  id := stage.observationId
  traceId := target.traceId
  parentSpanId := target.parentSpanId
  name := stageName stage.stage
  kind := "provider_stage"
  observationType := .span
  providerKey := target.providerKey
  capabilityKind := target.capabilityKind
  model := target.model
  status :=
    match stage.status with
    | .started => "pending"
    | .completed => "completed"
    | .failed => "failed"
  durationMs := stage.elapsedMs
  attributes := stageAttributes stage
  error := stage.error.map safeErrorMessage

def deliveryObservation (delivery : DeliveryTelemetry) (target : RuntimeTraceTarget) : RuntimeTraceObservation where
  id := delivery.observationId
  traceId := target.traceId
  parentSpanId := target.parentSpanId
  name := "Deliver"
  kind := "delivery"
  observationType := .span
  providerKey := target.providerKey
  capabilityKind := target.capabilityKind
  model := target.model
  status :=
    match delivery.status with
    | .delivered => "completed"
    | .failed => "failed"
  durationMs := some delivery.elapsedMs
  attributes := deliveryAttributes delivery
  error := delivery.error.map safeErrorMessage

def uuidOfDigits (digit : ℕ → ℕ) : Uuid where
  text := .ofList ((List.range 36).map fun place => if place ∈ [8, 13, 18, 23] then '-' else hexDigit (digit place))
  canonical := by
    have isDigit : ∀ number, ((hexDigit number).isDigit || "abcdef".toList.contains (hexDigit number)) = true := by
      intro number
      by_cases small : number < 16
      · revert number
        decide
      · have missing : "0123456789abcdef".toList[number]? = none := List.getElem?_eq_none (not_lt.mp small)
        rw [hexDigit, List.getD_eq_getElem?_getD, missing]
        decide
    constructor
    · simp
    · rw [List.all_eq_true]
      intro place member
      rw [List.mem_zipIdx_iff_getElem?, String.toList_ofList, List.getElem?_map, Option.map_eq_some_iff] at member
      obtain ⟨index, isIndex, isCharacter⟩ := member
      obtain ⟨small, same⟩ := List.getElem?_eq_some_iff.mp isIndex
      rw [List.getElem_range] at same
      subst same
      rw [← isCharacter, uuidCharacter]
      split
      · simp
      · exact isDigit _

def hexValue (character : Char) : ℕ := "0123456789abcdef".toList.idxOf character

def gapMask : String := "6f627365-7276-6174-696f-6e2d67617021"

def telemetryGapObservationId (requestId : Uuid) : Uuid :=
  uuidOfDigits fun place => hexValue (requestId.text.toList.getD place '0') ^^^ hexValue (gapMask.toList.getD place '0')

def gapObservation (requestId : Uuid) (droppedEvents : ℕ) (target : RuntimeTraceTarget) : RuntimeTraceObservation where
  id := telemetryGapObservationId requestId
  traceId := target.traceId
  parentSpanId := target.parentSpanId
  name := "Telemetry dropped"
  kind := "telemetry_gap"
  observationType := .event
  providerKey := target.providerKey
  capabilityKind := target.capabilityKind
  model := target.model
  status := "failed"
  durationMs := some 0
  attributes := .object [("droppedEvents", .number (.posInt droppedEvents)), ("source", .string "agentGateway")]
  error := some "Agent Gateway omitted bounded telemetry observations"

/-! ## Persisting -/

def storeObservation (clock : Clock) (describe : RuntimeTraceTarget → RuntimeTraceObservation) :
    Option RuntimeTraceTarget → Effect Storage ApiError Unit
  | none => pure ()
  | some target => statement fun tables =>
    (tables.upsertRuntimeTraceObservation clock (describe target)).map fun next => ((), next)

def persistObservation (clock : Clock) (requestId : Uuid) (describe : RuntimeTraceTarget → RuntimeTraceObservation) :
    Effect Storage ApiError Unit := do
  let target ← statement fun tables => .ok (tables.getRuntimeTraceTarget requestId, tables)
  storeObservation clock describe target

def checkStage (stage : StageTelemetry) : Except ApiError Unit := do
  let startOffsetMs ← boundedDuration "stage startOffsetMs" stage.startOffsetMs
  let endOffsetMs ← boundedOption boundedDuration "stage endOffsetMs" stage.endOffsetMs
  ensure (∀ offset ∈ endOffsetMs, startOffsetMs ≤ offset) (.invalid "stage endOffsetMs precedes startOffsetMs")
  let _ ← boundedOption boundedDuration "stage elapsedMs" stage.elapsedMs
  let _ ← boundedOption boundedDuration "stage requestElapsedMs" stage.requestElapsedMs
  let _ ← boundedOption boundedTokens "stage inputTokens" stage.inputTokens
  let _ ← boundedOption boundedTokens "stage outputTokens" stage.outputTokens
  return ()

def checkDelivery (delivery : DeliveryTelemetry) : Except ApiError Unit := do
  let startOffsetMs ← boundedDuration "delivery startOffsetMs" delivery.startOffsetMs
  let endOffsetMs ← boundedDuration "delivery endOffsetMs" delivery.endOffsetMs
  ensure (startOffsetMs ≤ endOffsetMs) (.invalid "delivery endOffsetMs precedes startOffsetMs")
  let _ ← boundedDuration "delivery elapsedMs" delivery.elapsedMs
  return ()

def completionStart (stage : StageTelemetry) : Option ℕ := if stage.stage = .firstToken then stage.requestElapsedMs else none

def mergeStage (requestId : Uuid) (stage : StageTelemetry) : Effect Storage ApiError Unit :=
  if stage.status = .started then pure ()
  else execute fun tables =>
    tables.mergeTraceRuntimeGeneration requestId (completionStart stage) stage.inputTokens stage.outputTokens

def persist (clock : Clock) (requestId : Uuid) : TraceTelemetry → Effect Storage ApiError Unit
  | .invocationStarted providerKey capability model =>
    execute fun tables => tables.updateTraceRuntimeIdentity requestId providerKey capability model
  | .providerStage stage => do
    Effect.lift (checkStage stage)
    mergeStage requestId stage
    persistObservation clock requestId (stageObservation stage)
  | .delivery delivery => do
    Effect.lift (checkDelivery delivery)
    persistObservation clock requestId (deliveryObservation delivery)

def summaryColumns (summary : TraceIoSummary) : Value × Bool := (summary.value, summary.effectiveTruncated)

def persistSummaries (requestId : Uuid) (input output : Option TraceIoSummary) : Effect Storage ApiError Unit :=
  if input.isNone ∧ output.isNone then pure ()
  else execute fun tables =>
    tables.updateTraceRuntimeIoSummaries requestId (input.map summaryColumns) (output.map summaryColumns)

def persistGap (clock : Clock) (requestId : Uuid) (droppedEvents : ℕ) : Effect Storage ApiError Unit :=
  if droppedEvents = 0 then pure ()
  else persistObservation clock requestId (gapObservation requestId droppedEvents)

def persistBatch (floats : FloatText) (parser : JsonParser) (clock : Clock) (requestId : Uuid) (batch : TraceTelemetryBatch) :
    Effect Storage ApiError Unit := do
  Effect.lift ((validateTraceTelemetryBatch floats parser batch).mapError ApiError.invalid)
  Effect.each (persist clock requestId) batch.events
  persistSummaries requestId batch.rootInputSummary batch.rootOutputSummary
  persistGap clock requestId batch.droppedEvents

end Vifu.Server
