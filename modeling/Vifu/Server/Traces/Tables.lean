import Mathlib.Data.List.Sort
import Vifu.Gateway.Trace.Telemetry
import Vifu.Server.Database.Tables
import Vifu.Server.Traces.Timestamps

/-!
# The tables of traces

The rows of `endpoint_traces` and `trace_spans`, what is redacted before it is stored, and the statements of the
database layer that write them.  A JSON column holds the value that its text is read as.  The root span of a
trace is its first span without a parent.
-/

namespace Vifu.Server

open Foundation
open Vifu.Gateway
open Vifu.Runtime hiding validateIdentifier

def maxRedactionDepth : ℕ := 32
def maxTraceTextChars : ℕ := 512

def sensitiveTextMarkers : List String :=
  ["authorization:", "authorization=", "api_key=", "api-key=", "apikey=", "access_token=", "access token:", "token=",
    "token:", "secret=", "secret:", "password=", "password:", "credential=", "credential:", "cookie=", "cookie:",
    "session=", "session:", "vifu_pk_", "vifu_gw_"]

def containsSensitiveTraceText (value : String) : Bool :=
  (["data:", "bearer ", "basic "].any fun start => decide (start.toList <+: normalizedText value)) ||
    sensitiveTextMarkers.any fun marker => decide (marker.toList <:+: normalizedText value)

def redactTraceText (value : String) : String :=
  if containsSensitiveTraceText value then "[REDACTED sensitive trace error]"
  else .ofList ((value.toList.filter fun character => !isControl character || character == '\n' || character == '\t').take
    maxTraceTextChars)

mutual

/-- `redact`, with the depth that is left instead of the depth that is reached. -/
def redact (left : ℕ) (value : Value) : Value :=
  match left, value with
  | 0, _ => .string "[REDACTED deep value]"
  | left + 1, .object fields => .object (redactFields left fields)
  | left + 1, .array values => .array (redactItems left values)
  | _ + 1, .string text =>
    if containsSensitiveTraceText text then .string "[REDACTED sensitive value]" else .string text
  | _ + 1, .null => .null
  | _ + 1, .bool value => .bool value
  | _ + 1, .number value => .number value

def redactItems (left : ℕ) : List Value → List Value
  | [] => []
  | value :: values => redact left value :: redactItems left values

def redactFields (left : ℕ) : List (String × Value) → List (String × Value)
  | [] => []
  | (key, value) :: fields =>
    (key, if traceSensitiveKey key then .string "[REDACTED]" else redact left value) :: redactFields left fields

end

def redactTraceValue (value : Value) : Value := redact maxRedactionDepth value

/-- `json_set(value, '$.key', number)`. -/
def jsonSet (key : String) (number : ℕ) : Value → Value
  | .object fields => .object (insertField key (.number (.posInt number)) fields)
  | value => value

def fieldsOf : Value → List (String × Value)
  | .object fields => fields
  | _ => []

mutual

def jsonPatch (target : Value) : Value → Value
  | .object fields => .object (patchFields (fieldsOf target) fields)
  | .null => .null
  | .bool value => .bool value
  | .number value => .number value
  | .string text => .string text
  | .array values => .array values

def patchFields (target : List (String × Value)) : List (String × Value) → List (String × Value)
  | [] => target
  | (key, value) :: fields =>
    if value = .null then patchFields (target.filter fun field => field.1 ≠ key) fields
    else patchFields (insertField key (jsonPatch ((getField key target).getD .null) value) target) fields

end

/-- `json_extract(value, …) = 1`, which holds of `true` as well. -/
def isOne : Value → Bool
  | .bool value => value
  | .number value => value == .posInt 1 || value == .float 0x3FF0000000000000
  | _ => false

/-! ## Rows -/

structure EndpointTrace where
  id : Uuid
  requestId : Uuid
  endpointId : Option Uuid
  projectId : Option Uuid
  gatewaySessionId : Option Uuid
  profileId : Option Uuid
  profileVersionId : Option Uuid
  operation : String
  providerKey : Option String
  capabilityKind : Option String
  selectionKey : Option String
  status : String
  latencyMs : Option ℕ
  request : Value
  response : Option Value
  error : Option String
  createdAt : Timestamp
  completedAt : Option Timestamp
  deriving DecidableEq

/-- The primary key and `UNIQUE (request_id)`. -/
instance : Keyed EndpointTrace where
  Key := Uuid × Uuid
  key row := (row.id, row.requestId)
  conflicts first second := first.1 == second.1 || first.2 == second.2
  symmetric first second := by grind
  reflexive key := by simp

inductive ObservationType where
  | span | generation | event
  deriving DecidableEq

structure TraceSpan where
  id : Uuid
  traceId : Uuid
  parentSpanId : Option Uuid
  name : String
  kind : String
  observationType : ObservationType
  status : String
  providerKey : Option String
  capabilityKind : Option String
  model : Option String
  modelParameters : Option Value
  completionStartMs : Option ℕ
  usage : Option Value
  durationMs : Option ℕ
  inputSummary : Option Value
  outputSummary : Option Value
  attributes : Value
  error : Option String
  createdAt : Timestamp
  completedAt : Option Timestamp
  deriving DecidableEq

instance : Keyed TraceSpan := .primary fun row => row.id

/-- The columns that decide which span is the root of a trace. -/
structure SpanPlace where
  id : Uuid
  traceId : Uuid
  parentSpanId : Option Uuid
  createdAt : List Char
  deriving DecidableEq

def TraceSpan.place (span : TraceSpan) : SpanPlace where
  id := span.id
  traceId := span.traceId
  parentSpanId := span.parentSpanId
  createdAt := span.createdAt.text

namespace SpanPlace

def isRootOf (traceId : Uuid) (span : SpanPlace) : Bool := span.traceId == traceId && span.parentSpanId.isNone

/-- `ORDER BY created_at ASC, id ASC`. -/
def Earlier (first second : SpanPlace) : Prop :=
  first.createdAt < second.createdAt ∨
    first.createdAt = second.createdAt ∧ ¬second.id.text.toList < first.id.text.toList

instance : DecidableRel Earlier := fun _ _ => inferInstanceAs (Decidable (_ ∨ _))

end SpanPlace

structure TraceTables where
  endpointTraces : Rows EndpointTrace
  traceSpans : Rows TraceSpan
  deriving DecidableEq

/-! ## What is written -/

structure NewTrace where
  requestId : Uuid
  endpointId : Option Uuid
  projectId : Option Uuid
  gatewaySessionId : Option Uuid
  profileId : Option Uuid
  profileVersionId : Option Uuid
  operation : String
  providerKey : Option String
  capabilityKind : Option String
  selectionKey : Option String
  request : Value
  deriving DecidableEq

structure NewUploadedRuntimeTrace where
  id : Uuid
  requestId : Uuid
  projectId : Uuid
  gatewaySessionId : Option Uuid
  profileId : Option Uuid
  profileVersionId : Option Uuid
  operation : String
  providerKey : Option String
  capabilityKind : Option String
  status : String
  latencyMs : ℕ
  request : Value
  createdAt : DateTime
  deriving DecidableEq

structure NewTraceSpan where
  traceId : Uuid
  parentSpanId : Option Uuid
  name : String
  kind : String
  observationType : ObservationType
  providerKey : Option String
  capabilityKind : Option String
  model : Option String
  modelParameters : Option Value
  inputSummary : Option Value
  attributes : Value
  deriving DecidableEq

@[ext]
structure RuntimeTraceObservation where
  id : Uuid
  traceId : Uuid
  parentSpanId : Option Uuid
  name : String
  kind : String
  observationType : ObservationType
  providerKey : Option String
  capabilityKind : Option String
  model : Option String
  status : String
  durationMs : Option ℕ
  attributes : Value
  error : Option String
  deriving DecidableEq

structure RuntimeTraceTarget where
  traceId : Uuid
  parentSpanId : Option Uuid
  providerKey : Option String
  capabilityKind : Option String
  model : Option String
  deriving DecidableEq

/-- The row that `create_trace` inserts. -/
def NewTrace.row (trace : NewTrace) (clock : Clock) (id : Uuid) : EndpointTrace where
  id := id
  requestId := trace.requestId
  endpointId := trace.endpointId
  projectId := trace.projectId
  gatewaySessionId := trace.gatewaySessionId
  profileId := trace.profileId
  profileVersionId := trace.profileVersionId
  operation := trace.operation
  providerKey := trace.providerKey
  capabilityKind := trace.capabilityKind
  selectionKey := trace.selectionKey
  status := "pending"
  latencyMs := none
  request := redactTraceValue trace.request
  response := none
  error := none
  createdAt := .now clock
  completedAt := none

/-- The row that `create_uploaded_runtime_trace` inserts. -/
def NewUploadedRuntimeTrace.row (trace : NewUploadedRuntimeTrace) : EndpointTrace where
  id := trace.id
  requestId := trace.requestId
  endpointId := none
  projectId := some trace.projectId
  gatewaySessionId := trace.gatewaySessionId
  profileId := trace.profileId
  profileVersionId := trace.profileVersionId
  operation := trace.operation
  providerKey := trace.providerKey
  capabilityKind := trace.capabilityKind
  selectionKey := none
  status := trace.status
  latencyMs := some trace.latencyMs
  request := redactTraceValue trace.request
  response := none
  error := none
  createdAt := .bound trace.createdAt
  completedAt := if trace.status = "pending" then none else some (.bound trace.createdAt)

/-- The row that `create_trace_span_with_id` inserts. -/
def NewTraceSpan.row (span : NewTraceSpan) (clock : Clock) (id : Uuid) : TraceSpan where
  id := id
  traceId := span.traceId
  parentSpanId := span.parentSpanId
  name := span.name
  kind := span.kind
  observationType := span.observationType
  status := "pending"
  providerKey := span.providerKey
  capabilityKind := span.capabilityKind
  model := span.model
  modelParameters := span.modelParameters.map redactTraceValue
  completionStartMs := none
  usage := none
  durationMs := none
  inputSummary := span.inputSummary.map redactTraceValue
  outputSummary := none
  attributes := redactTraceValue span.attributes
  error := none
  createdAt := .now clock
  completedAt := none

def completion (status : String) (clock : Clock) : Option Timestamp := if status = "pending" then none else some (.now clock)

namespace RuntimeTraceObservation

def row (observation : RuntimeTraceObservation) (clock : Clock) : TraceSpan where
  id := observation.id
  traceId := observation.traceId
  parentSpanId := observation.parentSpanId
  name := observation.name
  kind := observation.kind
  observationType := observation.observationType
  status := observation.status
  providerKey := observation.providerKey
  capabilityKind := observation.capabilityKind
  model := observation.model
  modelParameters := none
  completionStartMs := none
  usage := none
  durationMs := observation.durationMs
  inputSummary := none
  outputSummary := none
  attributes := redactTraceValue observation.attributes
  error := observation.error.map redactTraceText
  createdAt := .now clock
  completedAt := completion observation.status clock

/-- The columns that a later observation with the same id replaces. -/
def replace (observation : RuntimeTraceObservation) (clock : Clock) (span : TraceSpan) : TraceSpan :=
  { span with
    status := observation.status
    providerKey := observation.providerKey
    capabilityKind := observation.capabilityKind
    model := observation.model
    durationMs := observation.durationMs
    attributes := redactTraceValue observation.attributes
    error := observation.error.map redactTraceText
    completedAt := completion observation.status clock }

/-- The condition of `ON CONFLICT (id) DO UPDATE`. -/
def matchesSpan (observation : RuntimeTraceObservation) (span : TraceSpan) : Bool :=
  span.traceId == observation.traceId && span.parentSpanId == observation.parentSpanId &&
    span.name == observation.name && span.kind == observation.kind && span.observationType == observation.observationType

end RuntimeTraceObservation

/-! ## Statements -/

namespace TraceTables

def empty : TraceTables := { endpointTraces := .empty, traceSpans := .empty }

variable (tables : TraceTables)

def traceOf (requestId : Uuid) : Option EndpointTrace := tables.endpointTraces.find? fun row => row.requestId == requestId

def spanOf (id : Uuid) : Option TraceSpan := tables.traceSpans.find? fun row => row.id == id

def createTrace (clock : Clock) (id : Uuid) (trace : NewTrace) : Except ApiError TraceTables := do
  ensure (trace.endpointId.isSome ∨ trace.projectId.isSome) .database
  let rows ← okOr alreadyExists (tables.endpointTraces.insert? (trace.row clock id))
  return { tables with endpointTraces := rows }

def createUploadedRuntimeTrace (trace : NewUploadedRuntimeTrace) : Except ApiError (Bool × TraceTables) :=
  if (tables.traceOf trace.requestId).isSome then .ok (false, tables)
  else (okOr .database (tables.endpointTraces.insert? trace.row)).map fun rows =>
    (true, { tables with endpointTraces := rows })

def refersTo (traceId : Uuid) (parentSpanId : Option Uuid) : Prop :=
  (∃ trace ∈ tables.endpointTraces, trace.id = traceId) ∧
    ∀ parent ∈ parentSpanId, ∃ span ∈ tables.traceSpans, span.id = parent

instance (traceId : Uuid) (parentSpanId : Option Uuid) : Decidable (tables.refersTo traceId parentSpanId) :=
  inferInstanceAs (Decidable (_ ∧ _))

def createTraceSpanWithId (clock : Clock) (id : Uuid) (span : NewTraceSpan) : Except ApiError TraceTables := do
  ensure (tables.refersTo span.traceId span.parentSpanId) .database
  let rows ← okOr .database (tables.traceSpans.insert? (span.row clock id))
  return { tables with traceSpans := rows }

def observationConflict : ApiError := .invalid "trace observation ID conflicts with an existing observation"

/-- `UPDATE trace_spans SET … WHERE id = …`. -/
def updateSpan (id : Uuid) (change : TraceSpan → TraceSpan) (keeps : ∀ span, (change span).id = span.id) : TraceTables :=
  { tables with traceSpans := tables.traceSpans.update (fun row => row.id == id) change keeps }

def upsertRuntimeTraceObservation (clock : Clock) (observation : RuntimeTraceObservation) : Except ApiError TraceTables :=
  match tables.spanOf observation.id with
  | none => do
    ensure (tables.refersTo observation.traceId observation.parentSpanId) .database
    let rows ← okOr .database (tables.traceSpans.insert? (observation.row clock))
    return { tables with traceSpans := rows }
  | some span => do
    ensure (observation.matchesSpan span = true) observationConflict
    return tables.updateSpan observation.id (observation.replace clock) fun _ => rfl

def rootId (traceId : Uuid) : Option Uuid :=
  ((((tables.traceSpans.rows.map TraceSpan.place).filter (SpanPlace.isRootOf traceId)).insertionSort
    SpanPlace.Earlier).head?).map SpanPlace.id

def requestRootId (requestId : Uuid) : Option Uuid := (tables.traceOf requestId).bind fun trace => tables.rootId trace.id

/-- `UPDATE trace_spans SET … WHERE id = (SELECT span.id …)`. -/
def updateRoot (requestId : Uuid) (change : TraceSpan → TraceSpan) (keeps : ∀ span, (change span).id = span.id) : TraceTables :=
  match tables.requestRootId requestId with
  | none => tables
  | some id => tables.updateSpan id change keeps

def getRuntimeTraceTarget (requestId : Uuid) : Option RuntimeTraceTarget :=
  (tables.traceOf requestId).map fun trace =>
    let root := (tables.rootId trace.id).bind tables.spanOf
    { traceId := trace.id
      parentSpanId := root.map (·.id)
      providerKey := (root.bind (·.providerKey)).or trace.providerKey
      capabilityKind := (root.bind (·.capabilityKind)).or trace.capabilityKind
      model := root.bind (·.model) }

/-- `UPDATE endpoint_traces SET … WHERE request_id = …`. -/
def updateTrace (requestId : Uuid) (change : EndpointTrace → EndpointTrace)
    (keeps : ∀ trace, Keyed.key (change trace) = Keyed.key trace) : TraceTables :=
  { tables with endpointTraces := tables.endpointTraces.update (fun row => row.requestId == requestId) change keeps }

def updateTraceRuntimeIdentity (requestId : Uuid) (providerKey capabilityKind : String) (model : Option String) : TraceTables :=
  (tables.updateTrace requestId
      (fun trace => { trace with providerKey := some providerKey, capabilityKind := some capabilityKind })
      fun _ => rfl).updateRoot requestId
    (fun span => { span with
      providerKey := some providerKey
      capabilityKind := some capabilityKind
      model := model.or span.model })
    fun _ => rfl

/-- The `CASE` on the token counts. -/
def mergedUsage (inputTokens outputTokens : Option ℕ) (usage : Option Value) : Option Value :=
  match inputTokens, outputTokens with
  | none, none => usage
  | some input, some output =>
    some (jsonSet "outputTokens" output (jsonSet "inputTokens" input (usage.getD .emptyObject)))
  | some input, none => some (jsonSet "inputTokens" input (usage.getD .emptyObject))
  | none, some output => some (jsonSet "outputTokens" output (usage.getD .emptyObject))

def mergeTraceRuntimeGeneration (requestId : Uuid) (completionStartMs inputTokens outputTokens : Option ℕ) : TraceTables :=
  tables.updateRoot requestId
    (fun span => { span with
      completionStartMs := completionStartMs.or span.completionStartMs
      usage := mergedUsage inputTokens outputTokens span.usage })
    fun _ => rfl

def ioMarker (canonical truncated : String) (summary : Option (Value × Bool)) : List (String × Value) :=
  match summary with
  | none => []
  | some (_, isTruncated) => [(canonical, .bool true), (truncated, .bool isTruncated)]

def traceIoMarker (input output : Option (Value × Bool)) : Value :=
  .object [("_vifuTraceIo",
    .object (ioMarker "inputCanonical" "inputTruncated" input ++ ioMarker "outputCanonical" "outputTruncated" output))]

def updateTraceRuntimeIoSummaries (requestId : Uuid) (input output : Option (Value × Bool)) : TraceTables :=
  tables.updateRoot requestId
    (fun span => { span with
      inputSummary := (input.map Prod.fst).or span.inputSummary
      outputSummary := (output.map Prod.fst).or span.outputSummary
      attributes := jsonPatch span.attributes (traceIoMarker input output) })
    fun _ => rfl

/-- `json_extract(attributes, '$._vifuTraceIo.outputCanonical') = 1`. -/
def outputIsCanonical (attributes : Value) : Bool :=
  ((attributes.get? "_vifuTraceIo").bind fun marker => marker.get? "outputCanonical").any isOne

def completeTraceSpan (clock : Clock) (id : Uuid) (status : String) (durationMs : ℕ) (outputSummary : Option Value)
    (error : Option String) : TraceTables :=
  tables.updateSpan id
    (fun span => { span with
      status
      durationMs := some durationMs
      outputSummary := if outputIsCanonical span.attributes then span.outputSummary else outputSummary.map redactTraceValue
      error := error.map redactTraceText
      completedAt := some (.now clock) })
    fun _ => rfl

def completeTrace (clock : Clock) (requestId : Uuid) (status : String) (latencyMs : ℕ) (response : Option Value)
    (error : Option String) : TraceTables :=
  tables.updateTrace requestId
    (fun trace => { trace with
      status
      latencyMs := some latencyMs
      response := response.map redactTraceValue
      error := error.map redactTraceText
      completedAt := some (.now clock) })
    fun _ => rfl

end TraceTables

end Vifu.Server
