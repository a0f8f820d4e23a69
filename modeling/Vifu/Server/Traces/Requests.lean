import Vifu.Foundation.Awaits
import Vifu.Server.Api.Errors
import Vifu.Server.Profiles.Routes
import Vifu.Server.Traces.Tables

/-!
# The traces of requests

A request to an agent creates a trace with a root span, waits for the provider, and completes both.  Each of these is
a statement of its own, and between any two of them the request can be dropped.

The handlers are given what they have computed before they create the trace, and what the provider has answered.
-/

namespace Vifu.Server

open Foundation
open Vifu.Gateway
open Vifu.Runtime hiding validateIdentifier

/-- What a handler makes of a reply: the summary for the span, the response for the trace, and what the provider says
of the generation. -/
structure Reply where
  summary : Value
  response : Value
  completionStartMs : Option ℕ
  usage : Option Value

/-- The statements and the invocation that a handler waits for. -/
inductive RequestStep where
  | createTrace
  | createSpan
  | invoke
  | updateGeneration
  | completeSpan
  | completeTrace
  deriving DecidableEq

structure TracedRequest where
  traceId : Uuid
  trace : NewTrace
  span : NewTraceSpan
  ofTrace : span.traceId = traceId
  isRoot : span.parentSpanId = none
  owned : trace.endpointId.isSome ∨ trace.projectId.isSome
  /-- What is written of a generation before the span is completed, if anything. -/
  generation : Reply → Option (Option ℕ × Option Value)
  errorStatus : RequestError → String
  fails : ∀ error, errorStatus error ≠ "pending" ∧ errorStatus error ≠ "completed"

def TraceTables.updateTraceGeneration (tables : TraceTables) (id : Uuid) (completionStartMs : Option ℕ)
    (usage : Option Value) : TraceTables :=
  tables.updateSpan id
    (fun span => { span with
      completionStartMs := completionStartMs.or span.completionStartMs
      usage := usage.or span.usage })
    fun _ => rfl

namespace TracedRequest

variable (request : TracedRequest)

def requestId : Uuid := request.trace.requestId

/-- A statement of the database layer, which may fail by itself. -/
def statement (step : RequestStep) (run : TraceTables → Except ApiError TraceTables) :
    Awaiting RequestStep TraceTables RequestError Unit :=
  Awaiting.change step (.api .database) fun tables => (run tables).mapError .api

structure Times where
  clock : RequestStep → Clock
  elapsed : RequestStep → ℕ

/-- `persist_trace`, which only warns when it fails. -/
def persistTrace (times : Times) (status : String) (response : Option Value) (error : Option String) :
    Awaiting RequestStep TraceTables RequestError Unit :=
  Awaiting.attempt (statement .completeTrace fun tables =>
    .ok (tables.completeTrace (times.clock .completeTrace) request.requestId status (times.elapsed .completeTrace) response
      error))

def recordGeneration (reply : Reply) : Awaiting RequestStep TraceTables RequestError Unit :=
  match request.generation reply with
  | none => pure ()
  | some (completionStartMs, usage) =>
    statement .updateGeneration fun tables =>
      .ok (tables.updateTraceGeneration request.requestId completionStartMs usage)

def complete (times : Times) : Except RequestError Reply → Awaiting RequestStep TraceTables RequestError Reply
  | .ok reply => do
    request.recordGeneration reply
    statement .completeSpan fun tables =>
      .ok (tables.completeTraceSpan (times.clock .completeSpan) request.requestId "completed" (times.elapsed .completeSpan)
        (some reply.summary) none)
    request.persistTrace times "completed" (some reply.response) none
    return reply
  | .error error => do
    statement .completeSpan fun tables =>
      .ok (tables.completeTraceSpan (times.clock .completeSpan) request.requestId "failed" (times.elapsed .completeSpan) none
        (some error.text))
    request.persistTrace times (request.errorStatus error) none (some error.text)
    Awaiting.finish (.error error)

/-- A handler from the creation of the trace on, given the answer of the provider. -/
def run (times : Times) (answer : Except RequestError Reply) : Awaiting RequestStep TraceTables RequestError Reply := do
  statement .createTrace fun tables => tables.createTrace (times.clock .createTrace) request.traceId request.trace
  statement .createSpan fun tables =>
    tables.createTraceSpanWithId (times.clock .createSpan) request.requestId request.span
  let result ← Awaiting.answer .invoke answer
  request.complete times result

end TracedRequest

/-! ## The handlers -/

/-- What every handler knows when it creates its trace. -/
structure Arrival where
  requestId : Uuid
  traceId : Uuid
  projectId : Uuid
  route : ProfileRoute
  gatewaySessionId : Option Uuid
  selectionKey : Option String
  /-- What the trace stores of the request. -/
  request : Value
  inputSummary : Value

namespace Arrival

variable (arrival : Arrival)

def safeKeys : List String :=
  ["backend", "contextSize", "dimensions", "gpuLayers", "maxTokens", "max_tokens", "model", "quantization",
    "responseFormat", "response_format", "temperature", "topP", "top_p", "voice"]

def isScalar : Value → Bool
  | .bool _ | .number _ | .string _ => true
  | .null | .array _ | .object _ => false

def traceModelParameters (config : Value) : Value :=
  .object (safeKeys.filterMap fun key => ((config.get? key).filter isScalar).map fun value => (key, value))

def newTrace (operation : String) (gatewaySessionId : Option Uuid) (capabilityKind : String) : NewTrace where
  requestId := arrival.requestId
  endpointId := none
  projectId := some arrival.projectId
  gatewaySessionId := gatewaySessionId
  profileId := some arrival.route.profileId
  profileVersionId := some arrival.route.profileVersionId
  operation := operation
  providerKey := some arrival.route.providerKey
  capabilityKind := some capabilityKind
  selectionKey := arrival.selectionKey
  request := arrival.request

def newSpan (name capabilityKind : String) (attributes : Value) : NewTraceSpan where
  traceId := arrival.traceId
  parentSpanId := none
  name := name
  kind := "provider"
  observationType := .generation
  providerKey := some arrival.route.providerKey
  capabilityKind := some capabilityKind
  model := arrival.route.resourceId.or (some arrival.route.profileSlug)
  modelParameters := some (traceModelParameters arrival.route.capabilityConfig)
  inputSummary := some arrival.inputSummary
  attributes := attributes

def routeAttributes : Value :=
  .object [("capabilityId", .string arrival.route.capabilityId.text),
    ("profileId", .string arrival.route.profileId.text),
    ("profileVersionId", .string arrival.route.profileVersionId.text), ("version", u64 arrival.route.versionNumber)]

theorem traceStatus_fails (error : RequestError) : error.traceStatus ≠ "pending" ∧ error.traceStatus ≠ "completed" := by
  cases error <;> simp [RequestError.traceStatus]

def createProfileChatCompletion : TracedRequest where
  traceId := arrival.traceId
  trace := arrival.newTrace "chat.completions" arrival.gatewaySessionId arrival.route.capabilityKind
  span := arrival.newSpan "agent.invoke" "chat" arrival.routeAttributes
  ofTrace := rfl
  isRoot := rfl
  owned := .inr rfl
  generation reply := some (reply.completionStartMs, reply.usage)
  errorStatus := RequestError.traceStatus
  fails := traceStatus_fails

def createProjectEmbeddings : TracedRequest where
  traceId := arrival.traceId
  trace := arrival.newTrace "embeddings" arrival.gatewaySessionId "embedding"
  span := arrival.newSpan "embedding.create" "embedding" arrival.routeAttributes
  ofTrace := rfl
  isRoot := rfl
  owned := .inr rfl
  generation reply := some (none, reply.usage)
  errorStatus := RequestError.traceStatus
  fails := traceStatus_fails

/-- Speech is not sent through a gateway, and nothing is written of a generation. -/
def createProjectSpeech (voiceId : String) : TracedRequest where
  traceId := arrival.traceId
  trace := arrival.newTrace "audio.speech" none "speech"
  span := arrival.newSpan "speech.synthesize" "speech" (.object [("voiceId", .string voiceId)])
  ofTrace := rfl
  isRoot := rfl
  owned := .inr rfl
  generation _ := none
  errorStatus := RequestError.traceStatus
  fails := traceStatus_fails

def createProjectTranscription : TracedRequest where
  traceId := arrival.traceId
  trace := arrival.newTrace "audio.transcriptions" none "transcription"
  span := arrival.newSpan "audio.transcribe" "transcription" (.object [])
  ofTrace := rfl
  isRoot := rfl
  owned := .inr rfl
  generation _ := none
  errorStatus _ := "failed"
  fails _ := ⟨by decide, by decide⟩

inductive Handler where
  | chat
  | embeddings
  | speech (voiceId : String)
  | transcription

def traced : Handler → TracedRequest
  | .chat => arrival.createProfileChatCompletion
  | .embeddings => arrival.createProjectEmbeddings
  | .speech voiceId => arrival.createProjectSpeech voiceId
  | .transcription => arrival.createProjectTranscription

end Arrival

/-! ## What a request leaves -/

/-- The trace with this id is not pending, and neither is its root span; they agree on success. -/
def TraceTables.Settled (tables : TraceTables) (traceId : Uuid) : Prop :=
  ∀ trace ∈ tables.endpointTraces, trace.id = traceId → trace.status ≠ "pending" ∧
    ∀ rootId, tables.rootId traceId = some rootId → ∀ span ∈ tables.traceSpans, span.id = rootId →
      span.status ≠ "pending" ∧ (trace.status = "completed" ↔ span.status = "completed")

/-- Ids that were drawn for a request are not in use. -/
structure TraceTables.Unused (tables : TraceTables) (requestId traceId : Uuid) : Prop where
  traces : ∀ trace ∈ tables.endpointTraces, trace.id ≠ traceId ∧ trace.requestId ≠ requestId
  spans : ∀ span ∈ tables.traceSpans, span.id ≠ requestId ∧ span.traceId ≠ traceId

/-- The trace is not created, or every statement after that goes through and the request waits for the provider. -/
def TracedRequest.Uninterrupted (request : TracedRequest) (answer : Except RequestError Reply)
    (fates : RequestStep → Fate) : Prop :=
  fates .createTrace ∈ [.fails, .dropped false] ∨
    fates .createTrace = .done ∧ fates .createSpan = .done ∧ fates .invoke ∈ [.done, .fails] ∧
      (∀ reply, answer = .ok reply → (request.generation reply).isSome → fates .updateGeneration = .done) ∧
      fates .completeSpan = .done ∧ fates .completeTrace ∈ [.done, .dropped true]

variable {error : Option String} {status : String} {response : Option Value}

namespace TraceTables

structure Holds (tables : TraceTables) (requestId traceId : Uuid) (trace span : Option String) : Prop where
  traces : ∀ row ∈ tables.endpointTraces, row.requestId = requestId ↔ row.id = traceId
  trace : ∀ status, trace = some status ↔ ∃ row ∈ tables.endpointTraces, row.id = traceId ∧ row.status = status
  spans : ∀ row ∈ tables.traceSpans, row.traceId = traceId → row.id = requestId
  span : ∀ status, span = some status ↔ ∃ row ∈ tables.traceSpans, row.id = requestId ∧ row.status = status

variable {tables next : TraceTables} {requestId traceId : Uuid} {trace span : Option String}
  {change : TraceSpan → TraceSpan} {keeps : ∀ row, (change row).id = row.id}

theorem Unused.holds (unused : tables.Unused requestId traceId) : tables.Holds requestId traceId none none where
  traces row mem := iff_of_false (unused.traces row mem).2 (unused.traces row mem).1
  trace status := by
    refine iff_of_false (by simp) ?_
    rintro ⟨row, mem, isTrace, _⟩
    exact (unused.traces row mem).1 isTrace
  spans row mem ofTrace := absurd ofTrace (unused.spans row mem).2
  span status := by
    refine iff_of_false (by simp) ?_
    rintro ⟨row, mem, isSpan, _⟩
    exact (unused.spans row mem).1 isSpan

theorem Holds.rootId (holds : tables.Holds requestId traceId trace span) {rootId : Uuid}
    (isRoot : tables.rootId traceId = some rootId) : rootId = requestId := by
  obtain ⟨place, isFirst, rfl⟩ := Option.map_eq_some_iff.mp isRoot
  have mem := (List.mem_insertionSort _).mp (List.mem_of_head? isFirst)
  obtain ⟨isPlace, ofTrace⟩ := List.mem_filter.mp mem
  obtain ⟨row, stored, rfl⟩ := List.mem_map.mp isPlace
  simp only [SpanPlace.isRootOf, Bool.and_eq_true, beq_iff_eq] at ofTrace
  exact holds.spans row stored ofTrace.1

theorem Holds.settled (holds : tables.Holds requestId traceId trace span)
    (settles : ∀ status ∈ trace, status ≠ "pending" ∧ ∀ spanStatus ∈ span, spanStatus ≠ "pending" ∧
      (status = "completed" ↔ spanStatus = "completed")) : tables.Settled traceId := by
  intro row mem isTrace
  have settled := settles row.status ((holds.trace row.status).mpr ⟨row, mem, isTrace, rfl⟩)
  refine ⟨settled.1, ?_⟩
  intro rootId isRoot spanRow memberSpan isSpan
  rw [holds.rootId isRoot] at isSpan
  exact settled.2 spanRow.status ((holds.span spanRow.status).mpr ⟨spanRow, memberSpan, isSpan, rfl⟩)

theorem Holds.not_settled (holds : tables.Holds requestId traceId (some "pending") span) : ¬tables.Settled traceId := by
  intro settled
  obtain ⟨row, mem, isTrace, isPending⟩ := (holds.trace "pending").mp rfl
  exact (settled row mem isTrace).1 isPending

/-! ## What a statement leaves -/

theorem Holds.createTrace (holds : tables.Holds requestId traceId none none) (clock : Clock) (created : NewTrace)
    (sameRequest : created.requestId = requestId) (owned : created.endpointId.isSome ∨ created.projectId.isSome) :
    ∃ next, tables.createTrace clock traceId created = .ok next ∧ next.Holds requestId traceId (some "pending") none := by
  have free : ∀ row ∈ tables.endpointTraces, clash row (created.row clock traceId) = false := by
    intro row mem
    have notTrace : row.id ≠ traceId := by
      intro isTrace
      have found := (holds.trace row.status).mpr ⟨row, mem, isTrace, rfl⟩
      cases found
    have notRequest : row.requestId ≠ requestId := fun isRequest =>
      notTrace ((holds.traces row mem).mp isRequest)
    simp [clash, Keyed.conflicts, Keyed.key, NewTrace.row, notTrace, sameRequest, notRequest]
  obtain ⟨rows, inserted⟩ := Option.isSome_iff_exists.mp (Rows.insert?_isSome.mpr free)
  refine ⟨{ tables with endpointTraces := rows }, ?_, ?_⟩
  · exact check_bind_ok.mpr ⟨ensure_ok.mpr owned, bind_ok.mpr ⟨rows, okOr_ok.mpr inserted, rfl⟩⟩
  · constructor
    · intro row mem
      rcases (Rows.mem_insert? inserted).mp mem with before | rfl
      · exact holds.traces row before
      · simp [NewTrace.row, sameRequest]
    · intro status
      constructor
      · intro isPending
        cases isPending
        exact ⟨_, (Rows.mem_insert? inserted).mpr (.inr rfl), rfl, rfl⟩
      · rintro ⟨row, mem, isTrace, isStatus⟩
        rcases (Rows.mem_insert? inserted).mp mem with before | rfl
        · cases (holds.trace status).mpr ⟨row, before, isTrace, isStatus⟩
        · exact congrArg some isStatus
    · exact holds.spans
    · exact holds.span

theorem Holds.createSpan (holds : tables.Holds requestId traceId (some "pending") none) (clock : Clock)
    {created : NewTraceSpan} (ofTrace : created.traceId = traceId) (isRoot : created.parentSpanId = none) :
    ∃ next, tables.createTraceSpanWithId clock requestId created = .ok next ∧
      next.Holds requestId traceId (some "pending") (some "pending") := by
  have free : ∀ row ∈ tables.traceSpans, clash row (created.row clock requestId) = false := by
    intro row mem
    have notSpan : row.id ≠ requestId := by
      intro isSpan
      have found := (holds.span row.status).mpr ⟨row, mem, isSpan, rfl⟩
      cases found
    simp [clash, Keyed.conflicts, Keyed.key, NewTraceSpan.row, notSpan]
  obtain ⟨rows, inserted⟩ := Option.isSome_iff_exists.mp (Rows.insert?_isSome.mpr free)
  refine ⟨{ tables with traceSpans := rows }, ?_, ?_⟩
  · obtain ⟨row, mem, isTrace, _⟩ := (holds.trace "pending").mp rfl
    have refersTo : tables.refersTo created.traceId created.parentSpanId :=
      ⟨⟨row, mem, isTrace.trans ofTrace.symm⟩, by simp [isRoot]⟩
    exact check_bind_ok.mpr ⟨ensure_ok.mpr refersTo, bind_ok.mpr ⟨rows, okOr_ok.mpr inserted, rfl⟩⟩
  · constructor
    · exact holds.traces
    · exact holds.trace
    · intro row mem ofThis
      rcases (Rows.mem_insert? inserted).mp mem with before | rfl
      · exact holds.spans row before ofThis
      · rfl
    · intro status
      constructor
      · intro isPending
        cases isPending
        exact ⟨_, (Rows.mem_insert? inserted).mpr (.inr rfl), rfl, rfl⟩
      · rintro ⟨row, mem, isSpan, isStatus⟩
        rcases (Rows.mem_insert? inserted).mp mem with before | rfl
        · cases (holds.span status).mpr ⟨row, before, isSpan, isStatus⟩
        · exact congrArg some isStatus

theorem mem_updateSpan {id : Uuid} {row : TraceSpan} : row ∈ (tables.updateSpan id change keeps).traceSpans ↔
      ∃ before ∈ tables.traceSpans, Rows.updated (fun row => row.id == id) change before = row := by
  rw [TraceTables.updateSpan, Rows.mem_update]

theorem mem_updateTrace {change : EndpointTrace → EndpointTrace} {keeps : ∀ row, Keyed.key (change row) = Keyed.key row}
    {row : EndpointTrace} : row ∈ (tables.updateTrace requestId change keeps).endpointTraces ↔
      ∃ before ∈ tables.endpointTraces, Rows.updated (fun row => row.requestId == requestId) change before = row := by
  rw [TraceTables.updateTrace, Rows.mem_update]

theorem Holds.updateSpan (holds : tables.Holds requestId traceId trace (some "pending"))
    (sets : ∀ row : TraceSpan, row.status = "pending" → (change row).status = status) :
    (tables.updateSpan requestId change keeps).Holds requestId traceId trace (some status) where
  traces := holds.traces
  trace := holds.trace
  spans row mem ofTrace := by
    obtain ⟨before, stored, rfl⟩ := mem_updateSpan.mp mem
    by_cases named : (before.id == requestId) = true
    · rw [Rows.updated, if_pos named, keeps]
      exact eq_of_beq named
    · rw [Rows.updated, if_neg named] at ofTrace ⊢
      exact holds.spans before stored ofTrace
  span other := by
    rw [Option.some.injEq]
    constructor
    · rintro rfl
      obtain ⟨row, mem, isSpan, isPending⟩ := (holds.span "pending").mp rfl
      exact ⟨change row, mem_updateSpan.mpr ⟨row, mem, if_pos (beq_iff_eq.mpr isSpan)⟩, (keeps row).trans isSpan,
        sets row isPending⟩
    · rintro ⟨row, mem, isSpan, rfl⟩
      obtain ⟨before, stored, isRow⟩ := mem_updateSpan.mp mem
      by_cases named : (before.id == requestId) = true
      · rw [Rows.updated, if_pos named] at isRow
        have found := (holds.span before.status).mpr ⟨before, stored, eq_of_beq named, rfl⟩
        rw [← isRow, sets before (Option.some.inj found).symm]
      · rw [Rows.updated, if_neg named] at isRow
        subst isRow
        exact absurd (beq_iff_eq.mpr isSpan) named

theorem Holds.completeTrace (holds : tables.Holds requestId traceId (some "pending") span) {clock : Clock}
    {latencyMs : ℕ} :
    (tables.completeTrace clock requestId status latencyMs response error).Holds requestId traceId (some status) span where
  traces row mem := by
    obtain ⟨before, stored, rfl⟩ := mem_updateTrace.mp mem
    rw [Rows.updated]
    split <;> exact holds.traces before stored
  trace other := by
    rw [Option.some.injEq]
    constructor
    · rintro rfl
      obtain ⟨row, mem, isTrace, _⟩ := (holds.trace "pending").mp rfl
      have isRequest := (holds.traces row mem).mpr isTrace
      exact ⟨_, mem_updateTrace.mpr ⟨row, mem, if_pos (beq_iff_eq.mpr isRequest)⟩, isTrace, rfl⟩
    · rintro ⟨row, mem, isTrace, rfl⟩
      obtain ⟨before, stored, isRow⟩ := mem_updateTrace.mp mem
      by_cases named : (before.requestId == requestId) = true
      · rw [Rows.updated, if_pos named] at isRow
        rw [← isRow]
      · rw [Rows.updated, if_neg named] at isRow
        subst isRow
        exact absurd (beq_iff_eq.mpr ((holds.traces before stored).mpr isTrace)) named
  spans := holds.spans
  span := holds.span

end TraceTables

/-! ## Whole requests -/

namespace TracedRequest

open TraceTables

variable {request : TracedRequest} {times : Times} {fates : RequestStep → Fate} {tables after : TraceTables}
  {next : Unit → Awaiting RequestStep TraceTables RequestError Reply} {result : Except RequestError Reply}
  {step : RequestStep}

theorem statement_bind {run : TraceTables → Except ApiError TraceTables} (succeeds : run tables = .ok after) :
    ((statement step run >>= next) fates tables).2 =
      match fates step with
      | .done => (next () fates after).2
      | .fails => tables
      | .dropped applied => if applied then after else tables := by
  have goesThrough : (run tables).mapError RequestError.api = .ok after := by rw [succeeds]; rfl
  exact Awaiting.change_bind goesThrough

theorem update_bind {change : TraceTables → TraceTables} :
    ((statement step (fun tables => .ok (change tables)) >>= next) fates tables).2 =
      match fates step with
      | .done => (next () fates (change tables)).2
      | .fails => tables
      | .dropped applied => if applied then change tables else tables :=
  statement_bind rfl

theorem persistTrace_bind :
    ((request.persistTrace times status response error >>= fun _ => Awaiting.finish result) fates tables).2 =
      if fates .completeTrace ∈ [.done, .dropped true] then
        tables.completeTrace (times.clock .completeTrace) request.requestId status (times.elapsed .completeTrace) response
          error
      else tables := by
  cases isFate : fates .completeTrace with
  | done | fails | dropped =>
    simp only [bind, persistTrace, Awaiting.attempt, statement, Awaiting.change, Awaiting.await, Awaiting.finish, isFate,
      Except.mapError, Except.map]
    grind

theorem settled_close {spanStatus status : String} {durationMs : ℕ} {summary response : Option Value}
    (holds : tables.Holds request.requestId request.traceId (some "pending") (some "pending"))
    (settles : status ≠ "pending" ∧ spanStatus ≠ "pending" ∧ (status = "completed" ↔ spanStatus = "completed")) :
    ((statement .completeSpan (fun tables =>
        .ok (tables.completeTraceSpan (times.clock .completeSpan) request.requestId spanStatus durationMs summary error))
      >>= fun _ => request.persistTrace times status response error >>= fun _ => Awaiting.finish result)
        fates tables).2.Settled request.traceId ↔
      fates .completeSpan = .done ∧ fates .completeTrace ∈ [.done, .dropped true] := by
  rw [update_bind]
  have completed : (tables.completeTraceSpan (times.clock .completeSpan) request.requestId spanStatus durationMs summary
      error).Holds request.requestId request.traceId (some "pending") (some spanStatus) :=
    holds.updateSpan fun _ _ => rfl
  cases isFate : fates .completeSpan with
  | done =>
    simp only [true_and]
    rw [persistTrace_bind]
    split
    next goesThrough =>
      refine iff_of_true (completed.completeTrace.settled ?_) goesThrough
      simpa using settles
    next notThrough => exact iff_of_false completed.not_settled notThrough
  | fails => simp [holds.not_settled]
  | dropped applied => cases applied <;> simp [holds.not_settled, completed.not_settled]

variable {answer : Except RequestError Reply}

theorem settled_complete (holds : tables.Holds request.requestId request.traceId (some "pending") (some "pending")) :
    ((request.complete times answer) fates tables).2.Settled request.traceId ↔
      (∀ reply, answer = .ok reply → (request.generation reply).isSome → fates .updateGeneration = .done) ∧
        fates .completeSpan = .done ∧ fates .completeTrace ∈ [.done, .dropped true] := by
  cases answer with
  | error error =>
    obtain ⟨notPending, notCompleted⟩ := request.fails error
    refine (settled_close holds ⟨notPending, by decide, iff_of_false notCompleted (by decide)⟩).trans ?_
    simp
  | ok reply =>
    have closes : ∀ tables : TraceTables,
        tables.Holds request.requestId request.traceId (some "pending") (some "pending") →
        (((statement .completeSpan (fun tables =>
            .ok (tables.completeTraceSpan (times.clock .completeSpan) request.requestId "completed"
              (times.elapsed .completeSpan) (some reply.summary) none))
          >>= fun _ => request.persistTrace times "completed" (some reply.response) none
          >>= fun _ => Awaiting.finish (.ok reply)) fates tables).2.Settled request.traceId ↔
        fates .completeSpan = .done ∧ fates .completeTrace ∈ [.done, .dropped true]) := by
      intro tables holds
      exact settled_close holds ⟨by decide, by decide, Iff.rfl⟩
    have completes : ∀ tables : TraceTables, (request.complete times (.ok reply)) fates tables =
        (request.recordGeneration reply >>= fun _ => statement .completeSpan (fun tables =>
            .ok (tables.completeTraceSpan (times.clock .completeSpan) request.requestId "completed"
              (times.elapsed .completeSpan) (some reply.summary) none))
          >>= fun _ => request.persistTrace times "completed" (some reply.response) none
          >>= fun _ => Awaiting.finish (.ok reply)) fates tables := fun _ => rfl
    rw [completes]
    cases generation : request.generation reply with
    | none =>
      simp only [recordGeneration, generation]
      refine (closes tables holds).trans ?_
      simp [generation]
    | some written =>
      obtain ⟨completionStartMs, usage⟩ := written
      simp only [recordGeneration, generation]
      rw [update_bind]
      have recorded : (tables.updateTraceGeneration request.requestId completionStartMs usage).Holds request.requestId
          request.traceId (some "pending") (some "pending") := holds.updateSpan fun _ isPending => isPending
      cases isFate : fates .updateGeneration with
      | done =>
        refine (closes _ recorded).trans ?_
        simp
      | fails => simp [holds.not_settled, generation]
      | dropped applied =>
        cases applied <;> simp [holds.not_settled, recorded.not_settled, generation]

theorem settled_invoke (holds : tables.Holds request.requestId request.traceId (some "pending") (some "pending")) :
    ((Awaiting.answer .invoke answer >>= fun result => request.complete times result) fates tables).2.Settled
        request.traceId ↔
      fates .invoke ∈ [.done, .fails] ∧
        (∀ reply, answer = .ok reply → (request.generation reply).isSome → fates .updateGeneration = .done) ∧
        fates .completeSpan = .done ∧ fates .completeTrace ∈ [.done, .dropped true] := by
  cases isFate : fates .invoke with
  | done | fails =>
    have answered : Awaiting.answer (ε := RequestError) .invoke answer fates tables = (.returned (.ok answer), tables) := by
      simp [Awaiting.answer, isFate]
    rw [Awaiting.bind_of_ok answered, settled_complete holds]
    simp
  | dropped applied =>
    have dropped : Awaiting.answer (ε := RequestError) .invoke answer fates tables = (.dropped, tables) := by
      simp [Awaiting.answer, isFate]
    rw [Awaiting.bind_of_dropped dropped]
    simp [holds.not_settled]

/-- A request leaves its trace and its root span completed, both with success or both without, exactly when the trace
is not created or every later statement goes through while the request waits for each. -/
theorem settles_iff (unused : tables.Unused request.requestId request.traceId) :
    ((request.run times answer) fates tables).2.Settled request.traceId ↔ request.Uninterrupted answer fates := by
  obtain ⟨created, creates, holdsTrace⟩ :=
    unused.holds.createTrace (times.clock .createTrace) request.trace rfl request.owned
  obtain ⟨rooted, roots, holdsSpan⟩ :=
    holdsTrace.createSpan (times.clock .createSpan) request.ofTrace request.isRoot
  have nothing : tables.Settled request.traceId := unused.holds.settled (by simp)
  rw [run, statement_bind creates, Uninterrupted]
  cases traceFate : fates .createTrace with
  | fails => simp [nothing]
  | dropped applied => cases applied <;> simp [nothing, holdsTrace.not_settled]
  | done =>
    rw [statement_bind roots]
    cases spanFate : fates .createSpan with
    | fails => simp [holdsTrace.not_settled]
    | dropped applied => cases applied <;> simp [holdsTrace.not_settled, holdsSpan.not_settled]
    | done =>
      rw [settled_invoke holdsSpan]
      simp

end TracedRequest

def greeterRoute : ProfileRoute where
  profileId := ⟨"0190f2c4-7b1e-7c3a-9d52-1f6a0e8b4e13", by decide⟩
  profileSlug := "greeter"
  profileName := "Greeter"
  profileVersionId := ⟨"0190f2c4-7b1e-7c3a-9d52-1f6a0e8b4e14", by decide⟩
  versionNumber := 1
  capabilityId := ⟨"0190f2c4-7b1e-7c3a-9d52-1f6a0e8b4e15", by decide⟩
  capabilityKind := "chat"
  providerType := "openclaw"
  providerKey := "town"
  resourceId := some "greeter"
  capabilityConfig := .object []
  persona := .object []
  runtime := .object []
  presentation := .object []
  source := .object []

def greeting : Arrival where
  requestId := ⟨"0190f2c4-7b1e-7c3a-9d52-1f6a0e8b4e16", by decide⟩
  traceId := ⟨"0190f2c4-7b1e-7c3a-9d52-1f6a0e8b4e17", by decide⟩
  projectId := ⟨"0190f2c4-7b1e-7c3a-9d52-1f6a0e8b4e18", by decide⟩
  route := greeterRoute
  gatewaySessionId := none
  selectionKey := none
  request := .object [("model", .string "greeter")]
  inputSummary := .object [("messageCount", u64 1)]

def greetingTimes : TracedRequest.Times := ⟨fun _ => townClock, fun _ => 5⟩

def noTraces : TraceTables := ⟨.empty, .empty⟩

theorem noTraces_unused (requestId traceId : Uuid) : noTraces.Unused requestId traceId where
  traces _ mem := absurd mem Rows.notMem_empty
  spans _ mem := absurd mem Rows.notMem_empty

def greetingReply : Reply := ⟨.object [], .object [], none, none⟩

def clientLeaves : RequestStep → Fate
  | .invoke => .dropped false
  | _ => .done

end Vifu.Server
