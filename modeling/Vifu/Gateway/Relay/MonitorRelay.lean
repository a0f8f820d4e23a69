import Vifu.Runtime.Core.Monitor
import Vifu.Gateway.Command
import Vifu.Gateway.Relay.Recorder

/-!
# Telemetry commands of the relay

The relay keeps a record of every invocation of an embedded runtime that is under way
(`EmbeddedMonitorTrace`), and sends a command for each report of the runtime and for each record that
has not been heard of for too long.
-/

namespace Vifu.Gateway

open Foundation
open Vifu.Runtime hiding validateIdentifier

abbrev ProviderModels := HashMap (String × String) String

/-- `EMBEDDED_TRACE_RETENTION`, in milliseconds. -/
def embeddedTraceRetentionMs : ℕ := 150000

structure EmbeddedMonitorTrace where
  deploymentId : Uuid
  traceId : String
  invocationId : String
  projectId : String
  endpoint : String
  agentId : String
  startedAtMs : ℕ
  lastEventAt : ℕ
  stageObservations : HashMap ProviderStage Uuid
  rootInputSummary : Option TraceIoSummary
  rootOutputSummary : Option TraceIoSummary

/-- The batch of a trace, and the trace without the summaries that have gone into it. -/
def EmbeddedMonitorTrace.batch (trace : EmbeddedMonitorTrace) (events : List TraceTelemetry) (droppedEvents : ℕ)
    (hostMetrics : Option RuntimeHostMetrics) (terminal : Option RuntimeTelemetryTerminal) :
    RuntimeTelemetryBatch × EmbeddedMonitorTrace :=
  ({ deploymentId := trace.deploymentId, traceId := trace.traceId, invocationId := trace.invocationId,
     projectId := trace.projectId, endpoint := trace.endpoint, agentId := trace.agentId,
     startedAtMs := trace.startedAtMs, events, droppedEvents, rootInputSummary := trace.rootInputSummary,
     rootOutputSummary := trace.rootOutputSummary, hostMetrics, terminal },
    { trace with rootInputSummary := none, rootOutputSummary := none })

/-- What the relay gets from outside while it handles a report: the monotonic clock in milliseconds, a
fresh id and the figures of the host. -/
structure Moment where
  instant : ℕ
  id : Uuid
  hostMetrics : Option RuntimeHostMetrics

/-- What the relay and the observers share, and the traces of the connection. -/
structure MonitorRelay where
  deployment : Option (Uuid × String)
  droppedEvents : ℕ
  traces : HashMap String EmbeddedMonitorTrace

namespace MonitorRelay

variable (relay : MonitorRelay)

/-- `take_dropped_events`: the number that is reported. -/
def takeDroppedEvents : ℕ := min relay.droppedEvents maxTraceDroppedEvents

/-! ## Reports -/

def startedTrace (start : MonitorStart) (deploymentId : Uuid) (projectId : String) (instant : ℕ) :
    EmbeddedMonitorTrace where
  deploymentId := deploymentId
  traceId := start.traceId
  invocationId := start.invocationId
  projectId := projectId
  endpoint := start.endpoint
  agentId := start.agentId
  startedAtMs := start.startedAtMs
  lastEventAt := instant
  stageObservations := ∅
  rootInputSummary := none
  rootOutputSummary := none

def stageStatus : RuntimeMonitorStageStatus → TraceStageStatus
  | .started => .started
  | .completed => .completed
  | .failed => .failed

def embeddedStage (stage : MonitorStage) (observationId : Uuid) : StageTelemetry where
  observationId := observationId
  stage := stage.stage
  status := stageStatus stage.status
  startOffsetMs := stage.requestElapsedMs - stage.elapsedMs.getD 0
  endOffsetMs :=
    match stage.status with
    | .started => none
    | .completed | .failed => some stage.requestElapsedMs
  elapsedMs := stage.elapsedMs
  requestElapsedMs := some stage.requestElapsedMs
  inputTokens := stage.inputTokens
  outputTokens := stage.outputTokens
  resident := stage.resident
  error := stage.error.map safeObserverError

def embeddedTerminal (ending : MonitorEnd) : RuntimeTelemetryTerminal where
  status :=
    match ending.status with
    | .completed => .completed
    | .cancelled => .cancelled
    | .error => .error
  durationMs := ending.durationMs
  endedAtMs := ending.endedAtMs
  error := ending.error.map safeObserverError

/-- `stage_observations.entry(stage).or_insert_with(Uuid::new_v4)`. -/
def observationOf (trace : EmbeddedMonitorTrace) (stage : ProviderStage) (id : Uuid) : Uuid :=
  (trace.stageObservations.lookup stage).getD id

def staged (trace : EmbeddedMonitorTrace) (stage : ProviderStage) (moment : Moment) : EmbeddedMonitorTrace :=
  { trace with
    lastEventAt := moment.instant
    stageObservations := trace.stageObservations.insert stage (observationOf trace stage moment.id) }

def embeddedRuntimeTelemetryCommand (models : Option ProviderModels) (moment : Moment) :
    RuntimeMonitorEvent → Option AgentGatewayCommand × MonitorRelay
  | .invocationStarted start =>
    match relay.deployment with
    | none => (none, relay)
    | some (deploymentId, projectId) =>
      let model := models.bind fun models => models.lookup (start.providerId, start.capability)
      let (batch, trace) := (startedTrace start deploymentId projectId moment.instant).batch
        [.invocationStarted start.providerId start.capability model] relay.takeDroppedEvents moment.hostMetrics none
      (some (.runtimeTelemetry batch),
        { relay with droppedEvents := 0, traces := relay.traces.insert start.traceId trace })
  | .providerStage stage =>
    match relay.traces.lookup stage.traceId with
    | none => (none, relay)
    | some trace =>
      let (batch, trace) := (staged trace stage.stage moment).batch
        [.providerStage (embeddedStage stage (observationOf trace stage.stage moment.id))] relay.takeDroppedEvents
        moment.hostMetrics none
      (some (.runtimeTelemetry batch),
        { relay with droppedEvents := 0, traces := relay.traces.insert stage.traceId trace })
  | .invocationFinished ending =>
    match relay.traces.lookup ending.traceId with
    | none => (none, relay)
    | some trace =>
      let (batch, _) := trace.batch [] relay.takeDroppedEvents moment.hostMetrics (some (embeddedTerminal ending))
      (some (.runtimeTelemetry batch), { relay with droppedEvents := 0, traces := relay.traces.erase ending.traceId })

def recordEmbeddedRuntimeIo (traceId : String) (instant : ℕ) (input output : Option TraceIoSummary) : MonitorRelay :=
  match relay.traces.lookup traceId with
  | none => relay
  | some trace =>
    { relay with
      traces := relay.traces.insert traceId
        { trace with
          lastEventAt := instant
          rootInputSummary := input <|> trace.rootInputSummary
          rootOutputSummary := output <|> trace.rootOutputSummary } }

/-- The traces that have not been heard of for too long. -/
def expired (instant : ℕ) : List (Sigma fun _ : String => EmbeddedMonitorTrace) :=
  relay.traces.entries.filter fun entry => embeddedTraceRetentionMs ≤ instant - entry.2.lastEventAt

/-- The outcome that is reported of a trace in place of its own. -/
def expiredTerminal (endedAtMs : ℕ) (trace : EmbeddedMonitorTrace) : RuntimeTelemetryTerminal where
  status := .error
  durationMs := endedAtMs - trace.startedAtMs
  endedAtMs := endedAtMs
  error := some "embedded telemetry ended without a terminal event"

/-- The commands for expired traces.  The first reports the dropped events. -/
def expiredCommands (endedAtMs : ℕ) (hostMetrics : Option RuntimeHostMetrics) :
    ℕ → List (Sigma fun _ : String => EmbeddedMonitorTrace) → List AgentGatewayCommand
  | _, [] => []
  | droppedEvents, entry :: entries =>
    .runtimeTelemetry (entry.2.batch [] droppedEvents hostMetrics (some (expiredTerminal endedAtMs entry.2))).1 ::
      expiredCommands endedAtMs hostMetrics 0 entries

/-- The relay also looks at the wall clock, which may fail, when a trace has expired. -/
def expireEmbeddedRuntimeTraces (moment : Moment) (unixTimeMs : Except String ℕ) :
    Except String (List AgentGatewayCommand) × MonitorRelay :=
  match relay.expired moment.instant with
  | [] => (.ok [], relay)
  | expired =>
    match unixTimeMs with
    | .error error => (.error error, relay)
    | .ok endedAtMs =>
      (.ok (expiredCommands endedAtMs moment.hostMetrics relay.takeDroppedEvents expired),
        { relay with
          droppedEvents := 0
          traces := expired.foldl (fun traces entry => traces.erase entry.1) relay.traces })

end MonitorRelay

theorem identifier_iff {value : String} (portable : PortableIdentifier value) :
    Identifier value ↔ 3 ≤ value.utf8ByteSize := by
  obtain ⟨-, small, characters⟩ := portable
  simp [Identifier, small, characters]

/-- Texts of at most so many bytes, all of them portable. -/
def PortableText (size : ℕ) (text : String) : Prop :=
  text.utf8ByteSize ≤ size ∧ text.toList.all isPortable = true

instance decidablePortableText (size : ℕ) (text : String) : Decidable (PortableText size text) :=
  inferInstanceAs (Decidable (_ ∧ _))

theorem PortableText.append {left right : String} {first second : ℕ} (leftFits : PortableText first left)
    (rightFits : PortableText second right) : PortableText (first + second) (left ++ right) := by
  constructor
  · rw [String.utf8ByteSize_append]
    exact Nat.add_le_add leftFits.1 rightFits.1
  · rw [String.toList_append, List.all_append, leftFits.2, rightFits.2]
    rfl

theorem portableText_toString {number : ℕ} (small : number ≤ u64Max) : PortableText 20 (toString number) := by
  constructor
  · exact (printable_toString small).1
  · rw [List.all_eq_true]
    intro character mem
    simp [isPortable, Char.isAlphanum, isDigit_of_mem_toString mem]

theorem reportOf_identifiers {trace handle : String} {createdAtMs : ℕ} (report : ReportOf trace handle createdAtMs) :
    Identifier trace ∧ Identifier handle := by
  obtain ⟨rfl, ⟨id, small, rfl⟩, stamped⟩ := report
  have invocation : PortableText 11 "invocation-" := by decide +kernel
  have label : PortableText 6 "trace-" := by decide +kernel
  have dash : PortableText 1 "-" := by decide +kernel
  have handleFits := invocation.append (portableText_toString small)
  have traceFits := ((label.append (portableText_toString stamped)).append dash).append handleFits
  constructor
  · refine ⟨?_, traceFits.1.trans (by decide), traceFits.2⟩
    have start : "trace-".utf8ByteSize = 6 := rfl
    simp only [traceId, String.utf8ByteSize_append, start]
    omega
  · refine ⟨?_, handleFits.1.trans (by decide), handleFits.2⟩
    have start : "invocation-".utf8ByteSize = 11 := rfl
    simp only [invocationId, String.utf8ByteSize_append, start]
    omega

/-! ## Reports that pass -/

def ErrorFits (error : Option String) : Prop := ∀ text ∈ error, ShortError text

instance decidableErrorFits (error : Option String) : Decidable (ErrorFits error) :=
  inferInstanceAs (Decidable (∀ text ∈ error, ShortError text))

theorem optionalText_error {error : Option String} :
    OptionalText (error.map safeObserverError) 1 512 ↔ ErrorFits error := by
  cases error <;> simp [OptionalText, ErrorFits, safeObserverError_text]

namespace MonitorRelay

/-- The names of an invocation have three bytes, its model is a text, and the clock does not stand at
the epoch. -/
structure StartFits (models : Option ProviderModels) (projectSlug : String) (start : MonitorStart) : Prop where
  projectSlug : Identifier projectSlug
  endpoint : 3 ≤ start.endpoint.utf8ByteSize
  agentId : 3 ≤ start.agentId.utf8ByteSize
  providerId : 3 ≤ start.providerId.utf8ByteSize
  capability : 3 ≤ start.capability.utf8ByteSize
  startedAtMs : start.startedAtMs ≠ 0
  model : OptionalText (models.bind fun models => models.lookup (start.providerId, start.capability)) 1 512

structure StageFits (stage : MonitorStage) : Prop where
  requestElapsed : stage.requestElapsedMs ≤ maxTraceDurationMs
  elapsed : ∀ elapsedMs ∈ stage.elapsedMs, elapsedMs ≤ maxTraceDurationMs
  inputTokens : ∀ tokens ∈ stage.inputTokens, tokens ≤ maxTraceTokenCount
  outputTokens : ∀ tokens ∈ stage.outputTokens, tokens ≤ maxTraceTokenCount
  error : ErrorFits stage.error

/-- The report of a runtime is in range, or the relay drops it. -/
def EventFits (models : Option ProviderModels) (relay : MonitorRelay) : RuntimeMonitorEvent → Prop
  | .invocationStarted start => ∀ target ∈ relay.deployment, StartFits models target.2 start
  | .providerStage stage => stage.traceId ∈ relay.traces → StageFits stage
  | .invocationFinished ending =>
    ending.traceId ∈ relay.traces → ending.durationMs ≤ maxTraceDurationMs ∧ ErrorFits ending.error

/-- The expired traces began at most a day before the wall clock. -/
def ExpiryFits (relay : MonitorRelay) (instant : ℕ) : Except String ℕ → Prop
  | .error _ => True
  | .ok endedAtMs => ∀ entry ∈ relay.expired instant,
    entry.2.startedAtMs ≤ endedAtMs ∧ endedAtMs - entry.2.startedAtMs ≤ maxTraceDurationMs

instance decidableStartFits (models : Option ProviderModels) (projectSlug : String) (start : MonitorStart) :
    Decidable (StartFits models projectSlug start) :=
  decidable_of_iff
    (Identifier projectSlug ∧ 3 ≤ start.endpoint.utf8ByteSize ∧ 3 ≤ start.agentId.utf8ByteSize ∧
      3 ≤ start.providerId.utf8ByteSize ∧ 3 ≤ start.capability.utf8ByteSize ∧ start.startedAtMs ≠ 0 ∧
      ∀ text ∈ models.bind fun models => models.lookup (start.providerId, start.capability), Text 1 512 text)
    ⟨fun ⟨slug, endpoint, agent, provider, capability, started, model⟩ =>
      ⟨slug, endpoint, agent, provider, capability, started, model⟩,
      fun fits => ⟨fits.projectSlug, fits.endpoint, fits.agentId, fits.providerId, fits.capability, fits.startedAtMs,
        fits.model⟩⟩

instance decidableStageFits (stage : MonitorStage) : Decidable (StageFits stage) :=
  decidable_of_iff
    (stage.requestElapsedMs ≤ maxTraceDurationMs ∧ (∀ elapsedMs ∈ stage.elapsedMs, elapsedMs ≤ maxTraceDurationMs) ∧
      (∀ tokens ∈ stage.inputTokens, tokens ≤ maxTraceTokenCount) ∧
      (∀ tokens ∈ stage.outputTokens, tokens ≤ maxTraceTokenCount) ∧ ∀ text ∈ stage.error, ShortError text)
    ⟨fun ⟨request, elapsed, input, output, error⟩ => ⟨request, elapsed, input, output, error⟩,
      fun fits => ⟨fits.requestElapsed, fits.elapsed, fits.inputTokens, fits.outputTokens, fits.error⟩⟩

instance decidableEventFits (models : Option ProviderModels) (relay : MonitorRelay) :
    ∀ event, Decidable (relay.EventFits models event)
  | .invocationStarted start =>
    inferInstanceAs (Decidable (∀ target ∈ relay.deployment, StartFits models target.2 start))
  | .providerStage stage =>
    inferInstanceAs (Decidable (stage.traceId ∈ relay.traces → StageFits stage))
  | .invocationFinished ending =>
    inferInstanceAs (Decidable (ending.traceId ∈ relay.traces →
      ending.durationMs ≤ maxTraceDurationMs ∧ ErrorFits ending.error))

instance decidableExpiryFits (relay : MonitorRelay) (instant : ℕ) :
    ∀ unixTimeMs, Decidable (relay.ExpiryFits instant unixTimeMs)
  | .error _ => .isTrue trivial
  | .ok endedAtMs => inferInstanceAs (Decidable (∀ entry ∈ relay.expired instant,
      entry.2.startedAtMs ≤ endedAtMs ∧ endedAtMs - entry.2.startedAtMs ≤ maxTraceDurationMs))

variable {trace : EmbeddedMonitorTrace} {hostMetrics : Option RuntimeHostMetrics}

section

variable {floats : FloatText} {parser : JsonParser} {models : Option ProviderModels} {relay : MonitorRelay}
  {moment : Moment} {entries : List (Sigma fun _ : String => EmbeddedMonitorTrace)} {droppedEvents : ℕ}
  {terminal : Option RuntimeTelemetryTerminal} {events : List TraceTelemetry} {unixTimeMs : Except String ℕ}
  {event : RuntimeMonitorEvent} {instant : ℕ} {start : MonitorStart} {key : String}

/-- A trace whose batches pass but for what is put into them. -/
structure SoundTrace (floats : FloatText) (parser : JsonParser) (trace : EmbeddedMonitorTrace) : Prop where
  report : ReportOf trace.traceId trace.invocationId trace.startedAtMs
  projectId : Identifier trace.projectId
  endpoint : Identifier trace.endpoint
  agentId : Identifier trace.agentId
  started : trace.startedAtMs ≠ 0
  summaries : validateTraceIoSummaries floats parser trace.rootInputSummary trace.rootOutputSummary = .ok ()

def Sound (floats : FloatText) (parser : JsonParser) (relay : MonitorRelay) : Prop :=
  ∀ key trace, relay.traces.lookup key = some trace → trace.traceId = key ∧ SoundTrace floats parser trace

theorem takeDroppedEvents_le (relay : MonitorRelay) : relay.takeDroppedEvents ≤ maxTraceDroppedEvents :=
  Nat.min_le_right _ _

section

variable (sound : SoundTrace floats parser trace)
include sound

theorem SoundTrace.batch_valid (content : events ≠ [] ∨ terminal ≠ none) (few : events.length ≤ 1)
    (dropped : droppedEvents ≤ maxTraceDroppedEvents) :
    ValidRuntimeTelemetry floats parser (trace.batch events droppedEvents hostMetrics terminal).1 ↔
      (∀ event ∈ events, ValidTelemetry event) ∧ ∀ ending ∈ terminal,
        (ending.durationMs ≤ maxTraceDurationMs ∧ trace.startedAtMs ≤ ending.endedAtMs) ∧
          OptionalText ending.error 1 512 := by
  obtain ⟨traceIdentifier, invocationIdentifier⟩ := reportOf_identifiers sound.report
  constructor
  · intro valid
    exact ⟨valid.events, valid.terminal⟩
  · intro parts
    exact ⟨traceIdentifier, invocationIdentifier, sound.projectId, sound.endpoint, sound.agentId, sound.started, content,
      few.trans (by decide), dropped, parts.1, sound.summaries, parts.2⟩

theorem SoundTrace.batch_rest :
    SoundTrace floats parser (trace.batch events droppedEvents hostMetrics terminal).2 :=
  ⟨sound.report, sound.projectId, sound.endpoint, sound.agentId, sound.started, validateTraceIoSummaries_ok.mpr ⟨rfl, rfl⟩⟩

theorem SoundTrace.staged {stage : ProviderStage} : SoundTrace floats parser (staged trace stage moment) :=
  ⟨sound.report, sound.projectId, sound.endpoint, sound.agentId, sound.started, sound.summaries⟩

end

theorem sound_insert (sound : relay.Sound floats parser)
    (isKey : trace.traceId = key) (isSound : SoundTrace floats parser trace) :
    ∀ other found, (relay.traces.insert key trace).lookup other = some found →
      found.traceId = other ∧ SoundTrace floats parser found := by
  intro other found isFound
  rw [lookup_insert] at isFound
  split at isFound
  · next same =>
    cases isFound
    exact ⟨isKey.trans same.symm, isSound⟩
  · exact sound other found isFound

/-! ## One report -/

theorem embeddedStage_valid {stage : MonitorStage} (genuine : (RuntimeMonitorEvent.providerStage stage).Genuine)
    (observationId : Uuid) : ValidStage (embeddedStage stage observationId) ↔ StageFits stage := by
  obtain ⟨noElapsed, someElapsed, someError⟩ := genuine
  constructor
  · intro valid
    exact ⟨valid.requestElapsed _ rfl, valid.elapsed, valid.inputTokens, valid.outputTokens,
      optionalText_error.mp valid.errorText⟩
  · intro fits
    have start : stage.requestElapsedMs - stage.elapsedMs.getD 0 ≤ maxTraceDurationMs :=
      (Nat.sub_le _ _).trans fits.requestElapsed
    constructor
    · intro isStarted
      apply noElapsed
      cases isStatus : stage.status <;> simp [embeddedStage, stageStatus, isStatus] at isStarted ⊢
    · intro isEnded
      apply someElapsed
      intro isStarted
      simp [embeddedStage, stageStatus, isStarted] at isEnded
    · intro isFailed
      have failed : stage.status = .failed := by
        cases isStatus : stage.status <;> simp [embeddedStage, stageStatus, isStatus] at isFailed ⊢
      simpa [embeddedStage] using someError failed
    · exact optionalText_error.mpr fits.error
    · exact start
    · cases isStatus : stage.status <;>
        simp [embeddedStage, StageEnd, stageStatus, isStatus, fits.requestElapsed]
    · exact fits.elapsed
    · rintro elapsedMs ⟨⟩
      exact fits.requestElapsed
    · exact fits.inputTokens
    · exact fits.outputTokens

theorem startedTrace_valid (genuine : (RuntimeMonitorEvent.invocationStarted start).Genuine)
    (deploymentId : Uuid) (projectSlug : String) (instant : ℕ) (hostMetrics : Option RuntimeHostMetrics)
    (dropped : droppedEvents ≤ maxTraceDroppedEvents) :
    ValidRuntimeTelemetry floats parser ((startedTrace start deploymentId projectSlug instant).batch
        [.invocationStarted start.providerId start.capability
          (models.bind fun models => models.lookup (start.providerId, start.capability))]
        droppedEvents hostMetrics none).1 ↔
      StartFits models projectSlug start := by
  obtain ⟨report, endpoint, agentId, providerId, capability⟩ := genuine
  obtain ⟨traceIdentifier, invocationIdentifier⟩ := reportOf_identifiers report
  constructor
  · intro valid
    obtain ⟨isProvider, isCapability, model⟩ := valid.events _ (List.mem_singleton_self _)
    exact ⟨valid.projectId, (identifier_iff endpoint).mp valid.endpoint, (identifier_iff agentId).mp valid.agentId,
      (identifier_iff providerId).mp isProvider, (identifier_iff capability).mp isCapability, valid.started, model⟩
  · intro fits
    refine ⟨traceIdentifier, invocationIdentifier, fits.projectSlug, (identifier_iff endpoint).mpr fits.endpoint,
      (identifier_iff agentId).mpr fits.agentId, fits.startedAtMs, .inl (List.cons_ne_nil _ _), ?_, dropped, ?_,
      validateTraceIoSummaries_ok.mpr ⟨rfl, rfl⟩, nofun⟩
    · exact (Nat.le_of_ble_eq_true rfl : 1 ≤ maxTraceTelemetryEvents)
    · intro event mem
      rw [List.mem_singleton.mp mem]
      exact ⟨(identifier_iff providerId).mpr fits.providerId, (identifier_iff capability).mpr fits.capability, fits.model⟩

theorem startedTrace_sound (genuine : (RuntimeMonitorEvent.invocationStarted start).Genuine)
    {deploymentId : Uuid} {projectSlug : String} (fits : StartFits models projectSlug start) :
    SoundTrace floats parser (startedTrace start deploymentId projectSlug instant) :=
  ⟨genuine.1, fits.projectSlug, (identifier_iff genuine.2.1).mpr fits.endpoint,
    (identifier_iff genuine.2.2.1).mpr fits.agentId, fits.startedAtMs, validateTraceIoSummaries_ok.mpr ⟨rfl, rfl⟩⟩

theorem ended_after (sound : SoundTrace floats parser trace) {ending : MonitorEnd}
    (genuine : (RuntimeMonitorEvent.invocationFinished ending).Genuine) (isTrace : trace.traceId = ending.traceId) :
    trace.startedAtMs ≤ ending.endedAtMs := by
  obtain ⟨createdAtMs, report, ended⟩ := genuine
  have created : trace.startedAtMs = createdAtMs := by
    apply traceId_created
    rw [← sound.report.isTrace, ← report.isTrace, isTrace]
  have stamped := report.stamped
  rw [ended, saturatingAdd]
  omega

theorem telemetryCommand_valid (sound : relay.Sound floats parser) (genuine : event.Genuine) :
    (∀ command ∈ (relay.embeddedRuntimeTelemetryCommand models moment event).1, ValidCommand floats parser command) ↔
      relay.EventFits models event := by
  have dropped := relay.takeDroppedEvents_le
  cases event with
  | invocationStarted start =>
    cases isTarget : relay.deployment with
    | none => simp [embeddedRuntimeTelemetryCommand, EventFits, isTarget]
    | some target =>
      simp only [embeddedRuntimeTelemetryCommand, EventFits, isTarget, Option.mem_def, Option.some.injEq, forall_eq']
      exact startedTrace_valid genuine target.1 target.2 moment.instant moment.hostMetrics dropped
  | providerStage stage =>
    cases stored : relay.traces.lookup stage.traceId with
    | none => simp [embeddedRuntimeTelemetryCommand, EventFits, stored, ← AList.lookup_isSome]
    | some trace =>
      obtain ⟨-, soundTrace⟩ := sound _ _ stored
      have present : stage.traceId ∈ relay.traces := AList.lookup_isSome.mp (by rw [stored]; rfl)
      simp only [embeddedRuntimeTelemetryCommand, EventFits, stored, present, Option.mem_def, Option.some.injEq,
        forall_eq', true_imp_iff]
      show ValidRuntimeTelemetry floats parser _ ↔ _
      rw [soundTrace.staged.batch_valid (by simp) (by simp) dropped]
      simp [ValidTelemetry, embeddedStage_valid genuine]
  | invocationFinished ending =>
    cases stored : relay.traces.lookup ending.traceId with
    | none => simp [embeddedRuntimeTelemetryCommand, EventFits, stored, ← AList.lookup_isSome]
    | some trace =>
      obtain ⟨isTrace, soundTrace⟩ := sound _ _ stored
      have present : ending.traceId ∈ relay.traces := AList.lookup_isSome.mp (by rw [stored]; rfl)
      have after := ended_after soundTrace genuine isTrace
      simp only [embeddedRuntimeTelemetryCommand, EventFits, stored, present, Option.mem_def, Option.some.injEq,
        forall_eq', true_imp_iff]
      show ValidRuntimeTelemetry floats parser _ ↔ _
      rw [soundTrace.batch_valid (by simp) (by simp) dropped]
      simp [embeddedTerminal, after, optionalText_error]

theorem Sound.telemetryCommand (sound : relay.Sound floats parser)
    (genuine : event.Genuine) (fits : relay.EventFits models event) :
    Sound floats parser (relay.embeddedRuntimeTelemetryCommand models moment event).2 := by
  cases event with
  | invocationStarted start =>
    cases isTarget : relay.deployment with
    | none => simpa only [embeddedRuntimeTelemetryCommand, isTarget] using sound
    | some target =>
      simp only [embeddedRuntimeTelemetryCommand, isTarget]
      exact sound_insert sound rfl (startedTrace_sound genuine (fits target isTarget)).batch_rest
  | providerStage stage =>
    cases stored : relay.traces.lookup stage.traceId with
    | none => simpa only [embeddedRuntimeTelemetryCommand, stored] using sound
    | some trace =>
      obtain ⟨isTrace, soundTrace⟩ := sound _ _ stored
      simp only [embeddedRuntimeTelemetryCommand, stored]
      exact sound_insert sound isTrace soundTrace.staged.batch_rest
  | invocationFinished ending =>
    cases stored : relay.traces.lookup ending.traceId with
    | none => simpa only [embeddedRuntimeTelemetryCommand, stored] using sound
    | some trace =>
      simp only [embeddedRuntimeTelemetryCommand, stored]
      intro key found isFound
      rw [lookup_erase] at isFound
      split at isFound
      · cases isFound
      · exact sound key found isFound

/-! ## Summaries and expiry -/

def SummaryFits (floats : FloatText) (parser : JsonParser) (summary : TraceIoSummary) : Prop :=
  ∃ value : Value, value.WellFormed ∧ SettledSummary floats parser value ∧
    summary = canonicalTraceIoSummary floats parser value

theorem SummaryFits.accepted {summary : TraceIoSummary} (fits : SummaryFits floats parser summary)
    (lawful : parser.Lawful) (name : String) : validateTraceIoSummary floats parser name (some summary) = .ok () := by
  obtain ⟨value, wellFormed, settled, rfl⟩ := fits
  have held : ∀ part ∈ some value, part.WellFormed := by simpa using wellFormed
  have each : ∀ part ∈ some value, SettledSummary floats parser part := by simpa using settled
  exact (settledSummary_iff lawful held).mpr each

theorem Sound.recordIo (sound : relay.Sound floats parser) (lawful : parser.Lawful) {traceId : String}
    {input output : Option TraceIoSummary}
    (inputFits : traceId ∈ relay.traces → ∀ summary ∈ input, SummaryFits floats parser summary)
    (outputFits : traceId ∈ relay.traces → ∀ summary ∈ output, SummaryFits floats parser summary) :
    Sound floats parser (relay.recordEmbeddedRuntimeIo traceId instant input output) := by
  rw [recordEmbeddedRuntimeIo]
  cases stored : relay.traces.lookup traceId with
  | none => exact sound
  | some trace =>
    have present : traceId ∈ relay.traces := AList.lookup_isSome.mp (by rw [stored]; rfl)
    obtain ⟨isTrace, soundTrace⟩ := sound _ _ stored
    obtain ⟨oldInput, oldOutput⟩ := validateTraceIoSummaries_ok.mp soundTrace.summaries
    apply sound_insert sound
    · exact isTrace
    · refine ⟨soundTrace.report, soundTrace.projectId, soundTrace.endpoint, soundTrace.agentId, soundTrace.started,
        validateTraceIoSummaries_ok.mpr ⟨?_, ?_⟩⟩
      · cases input with
        | none => exact oldInput
        | some summary => exact (inputFits present summary rfl).accepted lawful _
      · cases output with
        | none => exact oldOutput
        | some summary => exact (outputFits present summary rfl).accepted lawful _

theorem expiredCommands_valid {endedAtMs : ℕ} (dropped : droppedEvents ≤ maxTraceDroppedEvents)
    (sound : ∀ entry ∈ entries, SoundTrace floats parser entry.2) :
    (∀ command ∈ expiredCommands endedAtMs hostMetrics droppedEvents entries, ValidCommand floats parser command) ↔
      ∀ entry ∈ entries, entry.2.startedAtMs ≤ endedAtMs ∧ endedAtMs - entry.2.startedAtMs ≤ maxTraceDurationMs := by
  have ended : OptionalText (some "embedded telemetry ended without a terminal event") 1 512 := by
    rintro text ⟨⟩
    decide
  induction entries generalizing droppedEvents with
  | nil => simp [expiredCommands]
  | cons entry entries ih =>
    rw [List.forall_mem_cons] at sound
    rw [expiredCommands, List.forall_mem_cons, List.forall_mem_cons]
    apply and_congr
    · show ValidRuntimeTelemetry floats parser _ ↔ _
      rw [sound.1.batch_valid (by simp) (by simp) dropped]
      simp [expiredTerminal, ended, and_comm]
    · exact ih (Nat.zero_le _) sound.2

theorem Sound.expired (sound : relay.Sound floats parser) :
    ∀ entry ∈ relay.expired instant, SoundTrace floats parser entry.2 := by
  intro entry mem
  exact (sound entry.1 entry.2 (AList.mem_lookup_iff.mpr (List.mem_of_mem_filter mem))).2

theorem expire_valid (sound : relay.Sound floats parser) :
    (∀ command ∈ ((relay.expireEmbeddedRuntimeTraces moment unixTimeMs).1.toOption).getD [],
        ValidCommand floats parser command) ↔ relay.ExpiryFits moment.instant unixTimeMs := by
  have soundExpired : ∀ entry ∈ relay.expired moment.instant, SoundTrace floats parser entry.2 := sound.expired
  rw [expireEmbeddedRuntimeTraces]
  cases isExpired : relay.expired moment.instant with
  | nil => cases unixTimeMs <;> simp [Except.toOption, ExpiryFits, isExpired]
  | cons entry entries =>
    rw [isExpired] at soundExpired
    cases unixTimeMs with
    | error error => simp [Except.toOption, ExpiryFits]
    | ok endedAtMs =>
      simp only [Except.toOption, Option.getD_some, expiredCommands_valid relay.takeDroppedEvents_le soundExpired,
        ExpiryFits, isExpired]

theorem lookup_eraseAll {traces : HashMap String EmbeddedMonitorTrace}
    (stored : (entries.foldl (fun traces entry => traces.erase entry.1) traces).lookup key = some trace) :
    traces.lookup key = some trace := by
  induction entries generalizing traces with
  | nil => exact stored
  | cons entry entries ih =>
    have rest := ih stored
    rw [lookup_erase] at rest
    split at rest
    · cases rest
    · exact rest

theorem Sound.expire (sound : relay.Sound floats parser) :
    Sound floats parser (relay.expireEmbeddedRuntimeTraces moment unixTimeMs).2 := by
  rw [expireEmbeddedRuntimeTraces]
  split
  · exact sound
  · split
    · exact sound
    · intro key trace stored
      exact sound key trace (lookup_eraseAll stored)

end

end MonitorRelay

end Vifu.Gateway
