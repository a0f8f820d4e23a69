import Vifu.Runtime.Records
import Vifu.Gateway.Trace.Telemetry
import Vifu.Gateway.Relay.Errors

/-!
# The telemetry of one invocation

`InvocationTelemetry` records what the provider of an invocation reports, at most 32 events of it,
and `safe_trace_telemetry` turns a provider event into such a report.  The recorder bounds the number
of events, the receiver also the numbers and texts in them: the last section says when a batch passes.
-/

namespace Vifu.Gateway

open Foundation
open Vifu.Runtime hiding validateIdentifier

/-! ## The recorder -/

structure ActiveProviderObservation where
  stage : ProviderStage
  id : Uuid
  startOffsetMs : ℕ
  deriving DecidableEq

structure InvocationTelemetry where
  events : List TraceTelemetry
  active : List ActiveProviderObservation
  droppedEvents : ℕ
  rootInputSummary : Option TraceIoSummary
  rootOutputSummary : Option TraceIoSummary
  isSealed : Bool
  deriving DecidableEq

def isStartedStage (observation : Option Uuid) : TraceTelemetry → Bool
  | .providerStage report => report.status == .started && observation.all fun id => report.observationId == id
  | .invocationStarted _ _ _ | .delivery _ => false

def TraceTelemetry.observation : TraceTelemetry → Option Uuid
  | .providerStage report => some report.observationId
  | .delivery report => some report.observationId
  | .invocationStarted _ _ _ => none

namespace InvocationTelemetry

def new (providerKey capability : String) (model : Option String) : InvocationTelemetry :=
  { events := [.invocationStarted providerKey capability model], active := [], droppedEvents := 0,
    rootInputSummary := none, rootOutputSummary := none, isSealed := false }

def setRootInputSummary (recorder : InvocationTelemetry) (summary : TraceIoSummary) : InvocationTelemetry :=
  if recorder.isSealed then recorder else { recorder with rootInputSummary := some summary }

def setRootOutputSummary (recorder : InvocationTelemetry) (summary : TraceIoSummary) : InvocationTelemetry :=
  if recorder.isSealed then recorder else { recorder with rootOutputSummary := some summary }

def dropOne (recorder : InvocationTelemetry) : InvocationTelemetry :=
  { recorder with droppedEvents := min (recorder.droppedEvents + 1) maxTraceDroppedEvents }

def push (recorder : InvocationTelemetry) (event : TraceTelemetry) : InvocationTelemetry :=
  if recorder.isSealed then recorder
  else if recorder.events.length < maxTraceTelemetryEvents then
    { recorder with events := recorder.events ++ [event] }
  else recorder.dropOne

/-- The event that gives way to the end of an observation: its own start, or else any start. -/
def replacement (recorder : InvocationTelemetry) (event : TraceTelemetry) : ℕ :=
  ((event.observation.bind fun id => recorder.events.findIdx? (isStartedStage (some id))) <|>
    recorder.events.findIdx? (isStartedStage none)).getD (min 1 (recorder.events.length - 1))

def pushTerminal (recorder : InvocationTelemetry) (event : TraceTelemetry) : InvocationTelemetry :=
  if recorder.events.length < maxTraceTelemetryEvents then
    { recorder with events := recorder.events ++ [event] }
  else dropOne { recorder with events := recorder.events.set (recorder.replacement event) event }

def failedStage (endOffsetMs : ℕ) (error : Option String) (observation : ActiveProviderObservation) :
    TraceTelemetry :=
  .providerStage
    { observationId := observation.id, stage := observation.stage, status := .failed,
      startOffsetMs := observation.startOffsetMs,
      endOffsetMs := some (max endOffsetMs observation.startOffsetMs),
      elapsedMs := some (endOffsetMs - observation.startOffsetMs), requestElapsedMs := none, inputTokens := none,
      outputTokens := none, resident := none, error := error.map safeObserverError }

def failActive (recorder : InvocationTelemetry) (endOffsetMs : ℕ) (error : Option String) :
    List TraceTelemetry × InvocationTelemetry :=
  let telemetry := recorder.active.map (failedStage endOffsetMs error)
  (telemetry, telemetry.foldl pushTerminal { recorder with active := [] })

def finish (recorder : InvocationTelemetry) : TraceTelemetryBatch × InvocationTelemetry :=
  ({ events := recorder.events, droppedEvents := recorder.droppedEvents,
     rootInputSummary := recorder.rootInputSummary, rootOutputSummary := recorder.rootOutputSummary },
    { recorder with
      events := [], active := [], rootInputSummary := none, rootOutputSummary := none, isSealed := true })

end InvocationTelemetry

structure StageEvent where
  stage : ProviderStage
  status : TraceStageStatus
  elapsedMs : Option ℕ
  metadata : Value
  error : Option String

def stageEvent : ProviderEvent → Option StageEvent
  | .activity | .outputDelta _ => none
  | .stageStarted stage metadata => some ⟨stage, .started, none, metadata, none⟩
  | .stageCompleted stage elapsedMs metadata => some ⟨stage, .completed, some elapsedMs, metadata, none⟩
  | .stageFailed stage elapsedMs error metadata =>
    some ⟨stage, .failed, some elapsedMs, metadata, some (safeObserverError error)⟩

/-- `metadata.get(key).and_then(read)`. -/
def metadataField {α : Type} (key : String) (read : Value → Option α) : Value → Option α
  | .object fields => (getField key fields).bind read
  | .null | .bool _ | .number _ | .string _ | .array _ => none

/-- The observation of a stage event, where it starts, and the observations that are active then.
The given id is the one of `Uuid::new_v4`. -/
def observeStage (active : List ActiveProviderObservation) (event : StageEvent) (offsetMs : ℕ) (id : Uuid) :
    Uuid × ℕ × List ActiveProviderObservation :=
  match active.find? (fun observation => observation.stage == event.stage) with
  | some observation =>
    (observation.id, observation.startOffsetMs,
      if event.status = .started then active else active.eraseP fun observation => observation.stage == event.stage)
  | none =>
    if event.status = .started then (id, offsetMs, active ++ [⟨event.stage, id, offsetMs⟩])
    else (id, offsetMs - event.elapsedMs.getD 0, active)

def stageTelemetry (event : StageEvent) (offsetMs : ℕ) (observation : Uuid) (startOffsetMs : ℕ) : StageTelemetry where
  observationId := observation
  stage := event.stage
  status := event.status
  startOffsetMs := startOffsetMs
  endOffsetMs := if event.status = .started then none else some (max offsetMs startOffsetMs)
  elapsedMs := event.elapsedMs
  requestElapsedMs := if event.stage = .firstToken ∧ event.status = .completed then some offsetMs else none
  inputTokens := metadataField "inputTokens" Value.asU64 event.metadata
  outputTokens := metadataField "outputTokens" Value.asU64 event.metadata
  resident := metadataField "resident" Value.asBool event.metadata
  error := event.error

def safeTraceTelemetry (event : ProviderEvent) (requestElapsedMs : ℕ) (id : Uuid) (recorder : InvocationTelemetry) :
    Option TraceTelemetry × InvocationTelemetry :=
  if recorder.isSealed then (none, recorder)
  else
    match stageEvent event with
    | none => (none, recorder)
    | some event =>
      let (observation, startOffsetMs, active) := observeStage recorder.active event requestElapsedMs id
      let telemetry := .providerStage (stageTelemetry event requestElapsedMs observation startOffsetMs)
      (some telemetry, { recorder with active := active }.push telemetry)

structure ProviderReport where
  event : ProviderEvent
  requestElapsedMs : ℕ
  id : Uuid

def record (recorder : InvocationTelemetry) (report : ProviderReport) : InvocationTelemetry :=
  (safeTraceTelemetry report.event report.requestElapsedMs report.id recorder).2

inductive RecordingEnd where
  | finished
  | failed (endOffsetMs : ℕ) (error : String)

def RecordingEnd.apply (ending : RecordingEnd) (recorder : InvocationTelemetry) : InvocationTelemetry :=
  match ending with
  | .finished => recorder
  | .failed endOffsetMs error => (recorder.failActive endOffsetMs (some error)).2

structure Recording where
  providerKey : String
  capability : String
  model : Option String
  input : Option Value
  reports : List ProviderReport
  output : Option Value
  ending : RecordingEnd

section

variable (floats : FloatText) (parser : JsonParser)

def Recording.opened (recording : Recording) : InvocationTelemetry :=
  let recorder := InvocationTelemetry.new recording.providerKey recording.capability recording.model
  match recording.input with
  | none => recorder
  | some input => recorder.setRootInputSummary (canonicalTraceIoSummary floats parser input)

def Recording.recorded (recording : Recording) : InvocationTelemetry :=
  let recorder := recording.reports.foldl record (recording.opened floats parser)
  match recording.output with
  | none => recorder
  | some output => recorder.setRootOutputSummary (canonicalTraceIoSummary floats parser output)

def Recording.batch (recording : Recording) : TraceTelemetryBatch :=
  (recording.ending.apply (recording.recorded floats parser)).finish.1

end

/-! ## Reports that pass -/

def TokensFit (metadata : Value) : Prop :=
  (∀ tokens ∈ metadataField "inputTokens" Value.asU64 metadata, tokens ≤ maxTraceTokenCount) ∧
    ∀ tokens ∈ metadataField "outputTokens" Value.asU64 metadata, tokens ≤ maxTraceTokenCount

/-- The numbers and the error of an event are in range.  A stage that is started again is reported
with its first start. -/
def EventFits (active : List ActiveProviderObservation) (offsetMs : ℕ) : ProviderEvent → Prop
  | .activity | .outputDelta _ => True
  | .stageStarted stage metadata =>
    TokensFit metadata ∧ ((∀ observation ∈ active, observation.stage ≠ stage) → offsetMs ≤ maxTraceDurationMs)
  | .stageCompleted _ elapsedMs metadata =>
    TokensFit metadata ∧ offsetMs ≤ maxTraceDurationMs ∧ elapsedMs ≤ maxTraceDurationMs
  | .stageFailed _ elapsedMs error metadata =>
    TokensFit metadata ∧ offsetMs ≤ maxTraceDurationMs ∧ elapsedMs ≤ maxTraceDurationMs ∧ ShortError error

def ReportFits (recorder : InvocationTelemetry) (report : ProviderReport) : Prop :=
  recorder.events.length < maxTraceTelemetryEvents → EventFits recorder.active report.requestElapsedMs report.event

def ReportsFit : InvocationTelemetry → List ProviderReport → Prop
  | _, [] => True
  | recorder, report :: reports => ReportFits recorder report ∧ ReportsFit (record recorder report) reports

/-- The stages that are cut short have times and an error in range. -/
def RecordingEnd.Fits (ending : RecordingEnd) (recorder : InvocationTelemetry) : Prop :=
  match ending with
  | .finished => True
  | .failed endOffsetMs error =>
    recorder.active ≠ [] → endOffsetMs ≤ maxTraceDurationMs ∧ ShortError error ∧
      ∀ observation ∈ recorder.active, observation.startOffsetMs ≤ maxTraceDurationMs

theorem stageTelemetry_valid {event : ProviderEvent} {stage : StageEvent} (isStage : stageEvent event = some stage)
    (offsetMs : ℕ) (observation : Uuid) (startOffsetMs : ℕ) :
    ValidStage (stageTelemetry stage offsetMs observation startOffsetMs) ↔
      TokensFit stage.metadata ∧ startOffsetMs ≤ maxTraceDurationMs ∧
        (stage.status ≠ .started → offsetMs ≤ maxTraceDurationMs) ∧
        (∀ elapsedMs ∈ stage.elapsedMs, elapsedMs ≤ maxTraceDurationMs) ∧ OptionalText stage.error 1 512 := by
  constructor
  · intro valid
    refine ⟨⟨valid.inputTokens, valid.outputTokens⟩, valid.startOffset, ?_, valid.elapsed, valid.errorText⟩
    intro ended
    have endOffset := valid.endOffset
    cases isStatus : stage.status <;> simp_all [StageEnd, stageTelemetry]
  · rintro ⟨tokens, start, offset, elapsed, error⟩
    have firstToken : stage.stage = .firstToken ∧ stage.status = .completed → offsetMs ≤ maxTraceDurationMs :=
      fun both => offset (by simp [both.2])
    constructor
    · cases event <;> cases isStage <;> simp [stageTelemetry]
    · cases event <;> cases isStage <;> simp [stageTelemetry]
    · cases event <;> cases isStage <;> simp [stageTelemetry]
    · exact error
    · exact start
    · cases event <;> cases isStage <;> simp_all [stageTelemetry, StageEnd]
    · exact elapsed
    · simp only [stageTelemetry, Option.mem_def, Option.ite_none_right_eq_some, Option.some.injEq]
      rintro elapsedMs ⟨both, rfl⟩
      exact firstToken both
    · exact tokens.1
    · exact tokens.2

/-! ## Observations -/

variable {observation : ActiveProviderObservation}

section

variable {active : List ActiveProviderObservation} {stage : StageEvent} {offsetMs : ℕ} {id : Uuid}

theorem observeStage_active
    (isActive : active.find? (fun observation => observation.stage == stage.stage) = some observation) :
    observeStage active stage offsetMs id =
      (observation.id, observation.startOffsetMs,
        if stage.status = .started then active
        else active.eraseP fun observation => observation.stage == stage.stage) := by
  simp only [observeStage, isActive]

theorem observeStage_new (isNew : ∀ observation ∈ active, observation.stage ≠ stage.stage) :
    observeStage active stage offsetMs id =
      if stage.status = .started then (id, offsetMs, active ++ [⟨stage.stage, id, offsetMs⟩])
      else (id, offsetMs - stage.elapsedMs.getD 0, active) := by
  have notFound : active.find? (fun observation => observation.stage == stage.stage) = none := by
    rw [List.find?_eq_none]
    intro observation mem
    simpa using isNew observation mem
  simp only [observeStage, notFound]

theorem active_or_new (active : List ActiveProviderObservation) (stage : StageEvent) :
    (∃ observation ∈ active, active.find? (fun observation => observation.stage == stage.stage) = some observation ∧
      observation.stage = stage.stage) ∨ ∀ observation ∈ active, observation.stage ≠ stage.stage := by
  cases isFound : active.find? (fun observation => observation.stage == stage.stage) with
  | none =>
    rw [List.find?_eq_none] at isFound
    right
    intro observation mem
    simpa using isFound observation mem
  | some observation =>
    have same := List.find?_some isFound
    exact Or.inl ⟨observation, List.mem_of_find?_eq_some isFound, rfl, by simpa using same⟩

/-- Where all observations start in range, the report of an event passes exactly when the event fits. -/
theorem observed_valid_iff (id : Uuid) {event : ProviderEvent} (isStage : stageEvent event = some stage)
    (starts : ∀ observation ∈ active, observation.startOffsetMs ≤ maxTraceDurationMs) :
    ValidStage (stageTelemetry stage offsetMs (observeStage active stage offsetMs id).1
        (observeStage active stage offsetMs id).2.1) ↔ EventFits active offsetMs event := by
  rw [stageTelemetry_valid isStage]
  obtain ⟨observation, mem, isActive, same⟩ | isNew := active_or_new active stage
  · have start := starts observation mem
    rw [observeStage_active isActive]
    cases event with
    | activity | outputDelta data => cases isStage
    | stageStarted name metadata =>
      cases isStage
      have known : ¬∀ observation ∈ active, observation.stage ≠ name := fun isNew => isNew observation mem same
      simp [EventFits, start, known, OptionalText]
    | stageCompleted name elapsedMs metadata =>
      cases isStage
      simp [EventFits, start, OptionalText]
    | stageFailed name elapsedMs error metadata =>
      cases isStage
      simp [EventFits, start, OptionalText, safeObserverError_text]
  · rw [observeStage_new isNew]
    cases event with
    | activity | outputDelta data => cases isStage
    | stageStarted name metadata =>
      cases isStage
      have isNewName : ∀ observation ∈ active, observation.stage ≠ name := isNew
      simp [EventFits, OptionalText]
      exact fun _ => Or.inl isNewName
    | stageCompleted name elapsedMs metadata =>
      cases isStage
      simp [EventFits, OptionalText]
      omega
    | stageFailed name elapsedMs error metadata =>
      cases isStage
      simp [EventFits, OptionalText, safeObserverError_text]
      omega

theorem mem_observeStage (mem : observation ∈ (observeStage active stage offsetMs id).2.2) : observation ∈ active ∨
      observation.startOffsetMs = (observeStage active stage offsetMs id).2.1 := by
  obtain ⟨known, isMember, isActive, same⟩ | isNew := active_or_new active stage
  · rw [observeStage_active isActive] at mem
    left
    split at mem
    · exact mem
    · exact List.mem_of_mem_eraseP mem
  · rw [observeStage_new isNew] at mem ⊢
    split at mem
    · next started =>
      rw [if_pos started]
      rw [List.mem_append, List.mem_singleton] at mem
      exact mem.imp_right fun isLast => by rw [isLast]
    · exact Or.inl mem

end

/-! ## The recorder along a run -/

/-- The bounds on a batch that do not depend on what is in its events. -/
structure Bounded (recorder : InvocationTelemetry) : Prop where
  nonEmpty : recorder.events ≠ []
  few : recorder.events.length ≤ maxTraceTelemetryEvents
  dropped : recorder.droppedEvents ≤ maxTraceDroppedEvents

/-- What an open recorder is sent is accepted as long as this holds of it. -/
structure Sound (recorder : InvocationTelemetry) : Prop extends Bounded recorder where
  isOpen : recorder.isSealed = false
  events : ∀ event ∈ recorder.events, ValidTelemetry event
  /-- An observation that has been kept starts in range; later ones need not. -/
  starts : recorder.events.length < maxTraceTelemetryEvents →
    ∀ observation ∈ recorder.active, observation.startOffsetMs ≤ maxTraceDurationMs

theorem record_cases (recorder : InvocationTelemetry) (report : ProviderReport) (isOpen : recorder.isSealed = false) :
    (stageEvent report.event = none ∧ record recorder report = recorder) ∨
      ∃ stage, stageEvent report.event = some stage ∧
        let observed := observeStage recorder.active stage report.requestElapsedMs report.id
        record recorder report = { recorder with active := observed.2.2 }.push
          (.providerStage (stageTelemetry stage report.requestElapsedMs observed.1 observed.2.1)) := by
  cases isStage : stageEvent report.event with
  | none => exact Or.inl ⟨rfl, by simp [record, safeTraceTelemetry, isOpen, isStage]⟩
  | some stage => exact Or.inr ⟨stage, rfl, by simp [record, safeTraceTelemetry, isOpen, isStage]⟩

variable {recorder : InvocationTelemetry}

theorem push_room {event : TraceTelemetry} (isOpen : recorder.isSealed = false)
    (room : recorder.events.length < maxTraceTelemetryEvents) :
    recorder.push event = { recorder with events := recorder.events ++ [event] } := by
  simp [InvocationTelemetry.push, isOpen, room]

theorem push_full {event : TraceTelemetry} (isOpen : recorder.isSealed = false)
    (full : ¬recorder.events.length < maxTraceTelemetryEvents) : recorder.push event = recorder.dropOne := by
  simp [InvocationTelemetry.push, isOpen, full]

theorem Bounded.push (bounded : Bounded recorder) (event : TraceTelemetry) : Bounded (recorder.push event) := by
  rw [InvocationTelemetry.push]
  split
  · exact bounded
  · split
    · next room =>
      refine ⟨by simp, ?_, bounded.dropped⟩
      rw [List.length_append]
      exact room
    · exact ⟨bounded.nonEmpty, bounded.few, Nat.min_le_right _ _⟩

theorem Bounded.record (bounded : Bounded recorder) (report : ProviderReport)
    (isOpen : recorder.isSealed = false) : Bounded (record recorder report) := by
  obtain ⟨-, same⟩ | ⟨stage, -, changed⟩ := record_cases recorder report isOpen
  · rw [same]
    exact bounded
  · rw [changed]
    apply Bounded.push
    exact ⟨bounded.nonEmpty, bounded.few, bounded.dropped⟩

variable {report : ProviderReport}

theorem Sound.record (sound : Sound recorder)
    (fits : ReportFits recorder report) : Sound (record recorder report) := by
  have bounded := sound.toBounded.record report sound.isOpen
  obtain ⟨-, same⟩ | ⟨stage, isStage, changed⟩ := record_cases recorder report sound.isOpen
  · rw [same]
    exact sound
  · rw [changed] at bounded ⊢
    by_cases room : recorder.events.length < maxTraceTelemetryEvents
    · have starts := sound.starts room
      have valid := (observed_valid_iff report.id isStage starts).mpr (fits room)
      rw [push_room (by exact sound.isOpen) (by exact room)] at bounded ⊢
      refine ⟨bounded, sound.isOpen, ?_, ?_⟩
      · intro event mem
        rw [List.mem_append, List.mem_singleton] at mem
        cases mem with
        | inl isOld => exact sound.events event isOld
        | inr isNew =>
          rw [isNew]
          exact valid
      · intro _ observation mem
        cases mem_observeStage mem with
        | inl isOld => exact starts observation isOld
        | inr isNew =>
          rw [isNew]
          exact valid.startOffset
    · rw [push_full (by exact sound.isOpen) (by exact room)] at bounded ⊢
      refine ⟨bounded, sound.isOpen, sound.events, ?_⟩
      intro isRoom
      exact absurd isRoom room

theorem mem_record (isOpen : recorder.isSealed = false)
    {event : TraceTelemetry} (mem : event ∈ recorder.events) : event ∈ (record recorder report).events := by
  obtain ⟨-, same⟩ | ⟨stage, -, changed⟩ := record_cases recorder report isOpen
  · rw [same]
    exact mem
  · rw [changed]
    by_cases room : recorder.events.length < maxTraceTelemetryEvents
    · rw [push_room (by exact isOpen) (by exact room)]
      exact List.mem_append_left _ mem
    · rw [push_full (by exact isOpen) (by exact room)]
      exact mem

theorem record_open (isOpen : recorder.isSealed = false) : (record recorder report).isSealed = false := by
  obtain ⟨-, same⟩ | ⟨stage, -, changed⟩ := record_cases recorder report isOpen
  · rw [same]
    exact isOpen
  · rw [changed]
    by_cases room : recorder.events.length < maxTraceTelemetryEvents
    · rw [push_room (by exact isOpen) (by exact room)]
      exact isOpen
    · rw [push_full (by exact isOpen) (by exact room)]
      exact isOpen

theorem Sound.refused (sound : Sound recorder)
    (large : ¬ReportFits recorder report) : ∃ event ∈ (Gateway.record recorder report).events, ¬ValidTelemetry event := by
  rw [ReportFits, Classical.not_imp] at large
  obtain ⟨room, large⟩ := large
  obtain ⟨isNone, -⟩ | ⟨stage, isStage, changed⟩ := record_cases recorder report sound.isOpen
  · exfalso
    apply large
    cases isEvent : report.event with
    | activity | outputDelta data => exact trivial
    | stageStarted stage metadata | stageCompleted stage elapsedMs metadata | stageFailed stage elapsedMs error metadata =>
      rw [isEvent] at isNone
      cases isNone
  · rw [changed, push_room (by exact sound.isOpen) (by exact room)]
    refine ⟨_, List.mem_append_right _ List.mem_cons_self, ?_⟩
    intro valid
    exact large ((observed_valid_iff report.id isStage (sound.starts room)).mp valid)

variable {reports : List ProviderReport} {telemetry : List TraceTelemetry} {ending : RecordingEnd}

theorem mem_recordAll
    (isOpen : recorder.isSealed = false) {event : TraceTelemetry} (mem : event ∈ recorder.events) :
    event ∈ (reports.foldl record recorder).events := by
  induction reports generalizing recorder with
  | nil => exact mem
  | cons report reports ih =>
    exact ih (record_open isOpen) (mem_record isOpen mem)

theorem Bounded.recordAll (bounded : Bounded recorder)
    (isOpen : recorder.isSealed = false) : Bounded (reports.foldl Gateway.record recorder) := by
  induction reports generalizing recorder with
  | nil => exact bounded
  | cons report reports ih =>
    exact ih (bounded.record report isOpen) (record_open isOpen)

theorem Sound.recordAll (sound : Sound recorder)
    (fits : ReportsFit recorder reports) : Sound (reports.foldl Gateway.record recorder) := by
  induction reports generalizing recorder with
  | nil => exact sound
  | cons report reports ih => exact ih (sound.record fits.1) fits.2

theorem Sound.fits_of_valid (sound : Sound recorder)
    (valid : ∀ event ∈ (reports.foldl Gateway.record recorder).events, ValidTelemetry event) :
    ReportsFit recorder reports := by
  induction reports generalizing recorder with
  | nil => exact trivial
  | cons report reports ih =>
    by_cases fits : ReportFits recorder report
    · exact ⟨fits, ih (sound.record fits) valid⟩
    · obtain ⟨event, mem, refused⟩ := sound.refused fits
      exact absurd (valid event (mem_recordAll (record_open sound.isOpen) mem)) refused

/-! ## The end of a recording -/

theorem failedStage_valid {endOffsetMs : ℕ} {error : String} :
    ValidTelemetry (InvocationTelemetry.failedStage endOffsetMs (some error) observation) ↔
      endOffsetMs ≤ maxTraceDurationMs ∧ ShortError error ∧ observation.startOffsetMs ≤ maxTraceDurationMs := by
  constructor
  · intro valid
    have isValid : ValidStage _ := valid
    have endOffset := isValid.endOffset.2
    exact ⟨(Nat.le_max_left _ _).trans endOffset, safeObserverError_text.mp (isValid.errorText _ rfl),
      isValid.startOffset⟩
  · rintro ⟨endOffset, short, start⟩
    have error : OptionalText (some (safeObserverError error)) 1 512 := by
      simpa [OptionalText] using safeObserverError_text.mpr short
    have absent : ∀ {α : Type} {Holds : α → Prop} (value : α), none = some value → Holds value := by
      intro _ _ _ isSome
      cases isSome
    refine ⟨by simp, by simp, by simp, error, start, ⟨Nat.le_max_right _ _, by omega⟩, ?_, absent, absent, absent⟩
    intro elapsedMs isElapsed
    cases isElapsed
    omega

theorem Bounded.pushTerminal (bounded : Bounded recorder) (event : TraceTelemetry) :
    Bounded (recorder.pushTerminal event) ∧
      ∀ kept ∈ (recorder.pushTerminal event).events, kept ∈ recorder.events ∨ kept = event := by
  rw [InvocationTelemetry.pushTerminal]
  split
  · next room =>
    refine ⟨⟨by simp, ?_, bounded.dropped⟩, by simp⟩
    rw [List.length_append]
    exact room
  · refine ⟨⟨?_, ?_, Nat.min_le_right _ _⟩, fun kept mem => List.mem_or_eq_of_mem_set mem⟩
    · simpa [InvocationTelemetry.dropOne] using bounded.nonEmpty
    · simpa [InvocationTelemetry.dropOne] using bounded.few

theorem Bounded.pushAll (bounded : Bounded recorder) :
    Bounded (telemetry.foldl InvocationTelemetry.pushTerminal recorder) ∧
      ∀ kept ∈ (telemetry.foldl InvocationTelemetry.pushTerminal recorder).events,
        kept ∈ recorder.events ∨ kept ∈ telemetry := by
  induction telemetry generalizing recorder with
  | nil => exact ⟨bounded, fun kept mem => Or.inl mem⟩
  | cons event telemetry ih =>
    obtain ⟨next, first⟩ := bounded.pushTerminal event
    obtain ⟨last, rest⟩ := ih next
    refine ⟨last, ?_⟩
    intro kept mem
    cases rest kept mem with
    | inl isEarlier =>
      cases first kept isEarlier with
      | inl isOld => exact Or.inl isOld
      | inr isFirst => exact Or.inr (List.mem_cons.mpr (Or.inl isFirst))
    | inr isLater => exact Or.inr (List.mem_cons_of_mem _ isLater)

theorem pushAll_room (room : recorder.events.length + telemetry.length ≤ maxTraceTelemetryEvents) :
    (telemetry.foldl InvocationTelemetry.pushTerminal recorder).events = recorder.events ++ telemetry := by
  induction telemetry generalizing recorder with
  | nil => simp
  | cons event telemetry ih =>
    rw [List.length_cons] at room
    have isRoom : recorder.events.length < maxTraceTelemetryEvents := by omega
    have first : (recorder.pushTerminal event).events = recorder.events ++ [event] := by
      simp [InvocationTelemetry.pushTerminal, isRoom]
    rw [List.foldl_cons, ih, first, List.append_assoc, List.singleton_append]
    rw [first, List.length_append, List.length_singleton]
    omega

@[simp] theorem pushTerminal_summaries (recorder : InvocationTelemetry) (event : TraceTelemetry) :
    (recorder.pushTerminal event).rootInputSummary = recorder.rootInputSummary ∧
      (recorder.pushTerminal event).rootOutputSummary = recorder.rootOutputSummary := by
  rw [InvocationTelemetry.pushTerminal]
  split <;> exact ⟨rfl, rfl⟩

theorem pushAll_summaries :
    (telemetry.foldl InvocationTelemetry.pushTerminal recorder).rootInputSummary = recorder.rootInputSummary ∧
      (telemetry.foldl InvocationTelemetry.pushTerminal recorder).rootOutputSummary = recorder.rootOutputSummary := by
  induction telemetry generalizing recorder with
  | nil => exact ⟨rfl, rfl⟩
  | cons event telemetry ih =>
    rw [List.foldl_cons, ih.1, ih.2]
    exact pushTerminal_summaries recorder event

def RecordingEnd.Room (ending : RecordingEnd) (recorder : InvocationTelemetry) : Prop :=
  match ending with
  | .finished => True
  | .failed _ _ => recorder.events.length + recorder.active.length ≤ maxTraceTelemetryEvents

theorem RecordingEnd.apply_summaries (ending : RecordingEnd) (recorder : InvocationTelemetry) :
    (ending.apply recorder).rootInputSummary = recorder.rootInputSummary ∧
      (ending.apply recorder).rootOutputSummary = recorder.rootOutputSummary := by
  cases ending with
  | finished => exact ⟨rfl, rfl⟩
  | failed endOffsetMs error => exact pushAll_summaries

theorem RecordingEnd.apply_bounded (ending : RecordingEnd)
    (bounded : Bounded recorder) : Bounded (ending.apply recorder) := by
  cases ending with
  | finished => exact bounded
  | failed endOffsetMs error =>
    have cleared : Bounded { recorder with active := [] } := ⟨bounded.nonEmpty, bounded.few, bounded.dropped⟩
    exact cleared.pushAll.1

theorem RecordingEnd.apply_valid (bounded : Bounded recorder)
    (valid : ∀ event ∈ recorder.events, ValidTelemetry event) (fits : ending.Fits recorder) :
    ∀ event ∈ (ending.apply recorder).events, ValidTelemetry event := by
  cases ending with
  | finished => exact valid
  | failed endOffsetMs error =>
    have cleared : Bounded { recorder with active := [] } := ⟨bounded.nonEmpty, bounded.few, bounded.dropped⟩
    intro event mem
    cases cleared.pushAll.2 event mem with
    | inl isOld => exact valid event isOld
    | inr isEnd =>
      obtain ⟨observation, isActive, rfl⟩ := List.mem_map.mp isEnd
      obtain ⟨endOffset, short, starts⟩ := fits (List.ne_nil_of_mem isActive)
      exact failedStage_valid.mpr ⟨endOffset, short, starts observation isActive⟩

theorem RecordingEnd.fits_of_valid
    (room : ending.Room recorder) (valid : ∀ event ∈ (ending.apply recorder).events, ValidTelemetry event) :
    (∀ event ∈ recorder.events, ValidTelemetry event) ∧ ending.Fits recorder := by
  cases ending with
  | finished => exact ⟨valid, trivial⟩
  | failed endOffsetMs error =>
    have events : (RecordingEnd.apply (.failed endOffsetMs error) recorder).events =
        recorder.events ++ recorder.active.map (InvocationTelemetry.failedStage endOffsetMs (some error)) := by
      apply pushAll_room
      rw [List.length_map]
      exact room
    rw [events] at valid
    refine ⟨fun event mem => valid event (List.mem_append_left _ mem), ?_⟩
    intro someActive
    have ends : ∀ observation ∈ recorder.active, endOffsetMs ≤ maxTraceDurationMs ∧ ShortError error ∧
        observation.startOffsetMs ≤ maxTraceDurationMs :=
      fun observation isActive =>
        failedStage_valid.mp (valid _ (List.mem_append_right _ (List.mem_map_of_mem isActive)))
    obtain ⟨observation, isActive⟩ := List.exists_mem_of_ne_nil _ someActive
    exact ⟨(ends observation isActive).1, (ends observation isActive).2.1,
      fun other isOther => (ends other isOther).2.2⟩

/-! ## Batches -/

def SettledSummary (floats : FloatText) (parser : JsonParser) (value : Value) : Prop :=
  Oversized floats parser value ∨
    (∀ depth keyHint part, Reached parser 0 none value depth keyHint part → Settles parser depth keyHint part) ∧
    ((∃ depth keyHint part, Reached parser 0 none value depth keyHint part ∧ Reduces parser depth keyHint part) ∨
      ∀ depth keyHint part, Reached parser 0 none value depth keyHint part → ¬Marks parser keyHint part)

section

variable {floats : FloatText} {parser : JsonParser}

theorem settledSummary_iff {name : String} (lawful : parser.Lawful) {value : Option Value}
    (held : ∀ part ∈ value, part.WellFormed) :
    validateTraceIoSummary floats parser name (value.map (canonicalTraceIoSummary floats parser)) = .ok () ↔
      ∀ part ∈ value, SettledSummary floats parser part := by
  cases value with
  | none => simp [validateTraceIoSummary]
  | some value => simp [summary_accepted_iff lawful (held value rfl), SettledSummary]

variable (floats parser)

/-- Everything that an invocation is recorded from is in range. -/
structure Recording.Fits (recording : Recording) : Prop where
  model : OptionalText recording.model 1 512
  reports : ReportsFit (recording.opened floats parser) recording.reports
  ending : recording.ending.Fits (recording.recorded floats parser)
  input : ∀ value ∈ recording.input, SettledSummary floats parser value
  output : ∀ value ∈ recording.output, SettledSummary floats parser value

variable {floats parser} {recording : Recording}

theorem opened_eq (recording : Recording) : recording.opened floats parser =
      { InvocationTelemetry.new recording.providerKey recording.capability recording.model with
        rootInputSummary := recording.input.map (canonicalTraceIoSummary floats parser) } := by
  rw [Recording.opened]
  cases recording.input <;> rfl

theorem record_summaries (report : ProviderReport) (isOpen : recorder.isSealed = false) :
    (record recorder report).rootInputSummary = recorder.rootInputSummary ∧
      (record recorder report).rootOutputSummary = recorder.rootOutputSummary := by
  obtain ⟨-, same⟩ | ⟨stage, -, changed⟩ := record_cases recorder report isOpen
  · rw [same]
    exact ⟨rfl, rfl⟩
  · rw [changed, InvocationTelemetry.push]
    split
    · exact ⟨rfl, rfl⟩
    · split <;> exact ⟨rfl, rfl⟩

theorem recordAll_kept (reports : List ProviderReport) (isOpen : recorder.isSealed = false) :
    (reports.foldl record recorder).isSealed = false ∧
      (reports.foldl record recorder).rootInputSummary = recorder.rootInputSummary ∧
      (reports.foldl record recorder).rootOutputSummary = recorder.rootOutputSummary := by
  induction reports generalizing recorder with
  | nil => exact ⟨isOpen, rfl, rfl⟩
  | cons report reports ih =>
    have kept := record_summaries report isOpen
    have stillOpen : (record recorder report).isSealed = false := record_open isOpen
    have rest := ih stillOpen
    exact ⟨rest.1, rest.2.1.trans kept.1, rest.2.2.trans kept.2⟩

theorem recorded_eq (recording : Recording) : recording.recorded floats parser =
      { recording.reports.foldl record (recording.opened floats parser) with
        rootInputSummary := recording.input.map (canonicalTraceIoSummary floats parser)
        rootOutputSummary := recording.output.map (canonicalTraceIoSummary floats parser) } := by
  have isOpen : (recording.opened floats parser).isSealed = false := by
    rw [opened_eq]
    rfl
  have firstInput : (recording.opened floats parser).rootInputSummary =
      recording.input.map (canonicalTraceIoSummary floats parser) := by rw [opened_eq]
  have firstOutput : (recording.opened floats parser).rootOutputSummary = none := by
    rw [opened_eq]
    rfl
  obtain ⟨stillOpen, input, output⟩ := recordAll_kept recording.reports isOpen
  rw [firstInput] at input
  rw [firstOutput] at output
  rw [Recording.recorded]
  generalize recording.reports.foldl record (recording.opened floats parser) = recorder at stillOpen input output
  cases recording.output with
  | none =>
    dsimp only [Option.map_none]
    rw [← input, ← output]
  | some value =>
    simp only [InvocationTelemetry.setRootOutputSummary, stillOpen, Bool.false_eq_true, if_false, Option.map_some]
    rw [← input]

theorem opened_bounded (recording : Recording) : Bounded (recording.opened floats parser) := by
  rw [opened_eq]
  exact ⟨List.cons_ne_nil _ _, (Nat.le_of_ble_eq_true rfl : 1 ≤ maxTraceTelemetryEvents), Nat.zero_le _⟩

theorem opened_open (recording : Recording) : (recording.opened floats parser).isSealed = false := by
  rw [opened_eq]
  rfl

theorem opened_sound
    (started : ValidTelemetry (.invocationStarted recording.providerKey recording.capability recording.model)) :
    Sound (recording.opened floats parser) := by
  refine ⟨opened_bounded recording, opened_open recording, ?_, ?_⟩
  · rw [opened_eq]
    intro event mem
    rw [List.mem_singleton.mp mem]
    exact started
  · rw [opened_eq]
    exact fun _ => nofun

theorem recorded_bounded (recording : Recording) : Bounded (recording.recorded floats parser) := by
  have bounded : Bounded (recording.reports.foldl record (recording.opened floats parser)) :=
    (opened_bounded recording).recordAll (opened_open recording)
  rw [recorded_eq]
  exact ⟨bounded.nonEmpty, bounded.few, bounded.dropped⟩

theorem batch_ok_iff (lawful : parser.Lawful) (heldInput : ∀ value ∈ recording.input, value.WellFormed)
    (heldOutput : ∀ value ∈ recording.output, value.WellFormed) :
    validateTraceTelemetryBatch floats parser (recording.batch floats parser) = .ok () ↔
      (∀ event ∈ (recording.ending.apply (recording.recorded floats parser)).events, ValidTelemetry event) ∧
        (∀ value ∈ recording.input, SettledSummary floats parser value) ∧
        ∀ value ∈ recording.output, SettledSummary floats parser value := by
  have ended : Bounded (recording.ending.apply (recording.recorded floats parser)) :=
    recording.ending.apply_bounded (recorded_bounded recording)
  obtain ⟨input, output⟩ := recording.ending.apply_summaries (recording.recorded floats parser)
  rw [recorded_eq] at input output
  dsimp only at input output
  rw [← recorded_eq] at input output
  rw [validateTraceTelemetryBatch_ok, validateTraceIoSummaries_ok]
  simp only [Recording.batch, InvocationTelemetry.finish, input, output, settledSummary_iff lawful heldInput,
    settledSummary_iff lawful heldOutput]
  constructor
  · intro passes
    exact passes.2.2
  · intro fits
    exact ⟨⟨fun empty => ended.nonEmpty empty.1, ended.few⟩, ended.dropped, fits⟩

end

/-- A batch passes when everything that it is recorded from is in range, and, unless an event gave way
to the end of a stage, only then. -/
theorem telemetry_batch_accepted (floats : FloatText) (parser : JsonParser) (recording : Recording)
    (lawful : parser.Lawful) (providerKey : Identifier recording.providerKey)
    (capability : Identifier recording.capability) (heldInput : ∀ value ∈ recording.input, value.WellFormed)
    (heldOutput : ∀ value ∈ recording.output, value.WellFormed) : (recording.Fits floats parser →
      validateTraceTelemetryBatch floats parser (recording.batch floats parser) = .ok ()) ∧
    (recording.ending.Room (recording.recorded floats parser) →
      validateTraceTelemetryBatch floats parser (recording.batch floats parser) = .ok () →
      recording.Fits floats parser) := by
  rw [batch_ok_iff lawful heldInput heldOutput]
  constructor
  · intro fits
    have sound := (opened_sound ⟨providerKey, capability, fits.model⟩).recordAll fits.reports
    have valid : ∀ event ∈ (recording.recorded floats parser).events, ValidTelemetry event := by
      rw [recorded_eq]
      exact sound.events
    exact ⟨RecordingEnd.apply_valid (recorded_bounded recording) valid fits.ending, fits.input, fits.output⟩
  · intro room passes
    obtain ⟨valid, input, output⟩ := passes
    obtain ⟨recordedValid, ending⟩ := RecordingEnd.fits_of_valid room valid
    rw [recorded_eq] at recordedValid
    have started : ValidTelemetry
        (.invocationStarted recording.providerKey recording.capability recording.model) := by
      apply recordedValid
      apply mem_recordAll (opened_open recording)
      rw [opened_eq]
      exact List.mem_singleton_self _
    exact ⟨started.2.2, (opened_sound started).fits_of_valid recordedValid, ending, input, output⟩

/-- A chat that fails with the given error while the answer is decoded. -/
def failedChat (error : String) : Recording where
  providerKey := "local-llama"
  capability := "chat"
  model := some "llama-3"
  input := some (.string "hello")
  reports :=
    [⟨.stageCompleted .prefill 20 (.object [("inputTokens", u64 12)]), 25,
        ⟨"0190f2c4-7b1e-7c3a-9d52-1f6a0e8b4c41", by decide⟩⟩,
      ⟨.stageStarted .decode (.object [("resident", .bool true)]), 25,
        ⟨"0190f2c4-7b1e-7c3a-9d52-1f6a0e8b4c42", by decide⟩⟩]
  output := none
  ending := .failed 40 error

theorem telemetry_batch_accepted_failed_chat :
    ((failedChat "the model stopped").Fits (fun _ => "0.5") emptyObjectParser →
      validateTraceTelemetryBatch (fun _ => "0.5") emptyObjectParser
        ((failedChat "the model stopped").batch (fun _ => "0.5") emptyObjectParser) = .ok ()) ∧
    ((failedChat "the model stopped").ending.Room
        ((failedChat "the model stopped").recorded (fun _ => "0.5") emptyObjectParser) →
      validateTraceTelemetryBatch (fun _ => "0.5") emptyObjectParser
        ((failedChat "the model stopped").batch (fun _ => "0.5") emptyObjectParser) = .ok () →
      (failedChat "the model stopped").Fits (fun _ => "0.5") emptyObjectParser) ∧
    validateTraceTelemetryBatch (fun _ => "0.5") emptyObjectParser
      ((failedChat "the model stopped").batch (fun _ => "0.5") emptyObjectParser) = .ok () := by
  have accepted := telemetry_batch_accepted (fun _ => "0.5") emptyObjectParser (failedChat "the model stopped")
    emptyObjectParser_lawful (by decide) (by decide) (by simp [failedChat]; decide) nofun
  exact ⟨accepted.1, accepted.2, by decide +kernel⟩

theorem utf8Len_replicate (count : ℕ) (character : Char) :
    String.utf8Len (List.replicate count character) = count * character.utf8Size := by
  induction count with
  | zero => simp
  | succ count ih =>
    rw [List.replicate_succ, String.utf8Len_cons, ih, Nat.succ_mul]

def accents (count : ℕ) : String := .ofList (List.replicate count 'é')

theorem accents_not_short {count : ℕ} (few : count ≤ 512) (many : 256 < count) : ¬ShortError (accents count) := by
  have same : visibleCharacter 'é' = 'é' := by decide
  have solid : isWhitespace 'é' = false := by decide
  have small : Char.toLower 'é' = 'é' := by decide
  have shown : shownError (accents count) = accents count := by
    rw [shownError, accents, String.toList_ofList, List.take_replicate, List.map_replicate, same, Nat.min_eq_right few]
  have plain : sensitiveError (accents count) = false := by
    rw [sensitiveError, List.any_eq_false]
    intro marker mem
    rw [decide_eq_true_eq, toAsciiLowercase, accents, String.toList_ofList, String.toList_ofList, List.map_replicate,
      small]
    intro inside
    -- every marker has a letter that is no accent
    have other : (safeErrorMarkers.all fun marker => marker.toList.any fun character => character != 'é') = true := by
      decide
    simp only [List.all_eq_true, List.any_eq_true, bne_iff_ne] at other
    obtain ⟨character, isLetter, different⟩ := other marker mem
    exact different (List.eq_of_mem_replicate (inside.subset isLetter))
  have kept : trim (accents count) = accents count := by
    simp [trim, accents, solid]
  have bytes : (accents count).utf8ByteSize = count * 2 := by
    rw [accents, String.utf8ByteSize_ofList, utf8Len_replicate]
    rfl
  have nonEmpty : accents count ≠ "" := by
    intro isEmpty
    rw [isEmpty, String.utf8ByteSize_empty] at bytes
    omega
  rw [ShortError, shown, plain, kept]
  simp only [Bool.false_eq_true, nonEmpty, false_or]
  omega

/-- An error of 512 characters is sent in full, also where it has more bytes than the receiver takes. -/
theorem long_error_refused : validateTraceTelemetryBatch (fun _ => "0.5") emptyObjectParser
      ((failedChat (accents 512)).batch (fun _ => "0.5") emptyObjectParser) ≠ .ok () := by
  intro passes
  have held : ∀ value ∈ (failedChat (accents 512)).input, value.WellFormed := by
    simp [failedChat]
    decide
  rw [batch_ok_iff emptyObjectParser_lawful held (by simp [failedChat])] at passes
  have room : (failedChat (accents 512)).ending.Room
      ((failedChat (accents 512)).recorded (fun _ => "0.5") emptyObjectParser) := by
    show List.length _ + List.length _ ≤ maxTraceTelemetryEvents
    decide +kernel
  obtain ⟨-, fits⟩ := RecordingEnd.fits_of_valid room passes.1
  exact accents_not_short (by decide) (by decide) (fits (by decide +kernel)).2.1

end Vifu.Gateway
