import Vifu.Gateway.WireCodec
import Vifu.Gateway.Relay.MonitorRelay

/-!
# Telemetry of an embedded runtime

The observers of an embedded runtime put its reports into a bounded channel, and the relay takes them
out.  The machine below runs the runtime, the channel and the relay together.
-/

namespace Vifu.Gateway

open Foundation
open Vifu.Runtime hiding validateIdentifier

/-! ## The runtime and its relay -/

inductive EmbeddedRuntimeMonitorEvent where
  | lifecycle (event : RuntimeMonitorEvent)
  | rootInput (traceId : String) (summary : TraceIoSummary)
  | rootOutput (traceId : String) (summary : TraceIoSummary)

/-- The installed observers, and the channel to the relay.  All commands that the relay has built are
kept for the statements of results. -/
structure MonitoredRuntime (σ : Type) extends MonitorRelay where
  core : CoreState σ
  observesLifecycle : Bool
  observesIo : Bool
  queue : List EmbeddedRuntimeMonitorEvent
  commands : List AgentGatewayCommand

inductive MonitorAction where
  /-- An action of the runtime, with the time since the provider was called. -/
  | run (action : CoreAction) (requestElapsedMs : ℕ) (full : EmbeddedRuntimeMonitorEvent → Bool)
  /-- An event of a provider that has returned. -/
  | report (handle : InvocationHandle) (event : ProviderEvent) (requestElapsedMs : ℕ)
    (full : EmbeddedRuntimeMonitorEvent → Bool)
  | observe (lifecycle io : Bool)
  | setDeployment (deploymentId : Uuid) (projectSlug : String)
  | connect
  | receive (moment : Moment)
  | expire (moment : Moment) (unixTimeMs : Except String ℕ)

namespace MonitoredRuntime

variable {σ : Type} (floats : FloatText) (parser : JsonParser) (models : Option ProviderModels)

/-- What an installed observer puts into the channel for a report. -/
def monitorEvent (state : MonitoredRuntime σ) : MonitorReport → Option EmbeddedRuntimeMonitorEvent
  | .lifecycle event => if state.observesLifecycle then some (.lifecycle event) else none
  | .io (.invocationInput traceId _ summary) =>
    if state.observesIo then some (.rootInput traceId (canonicalTraceIoSummary floats parser summary.value)) else none
  | .io (.invocationOutput traceId _ summary) =>
    if state.observesIo then some (.rootOutput traceId (canonicalTraceIoSummary floats parser summary.value)) else none

/-- `try_send_embedded_monitor_event`, of the events that do not find the channel full. -/
def trySend (full : EmbeddedRuntimeMonitorEvent → Bool) (state : MonitoredRuntime σ)
    (event : EmbeddedRuntimeMonitorEvent) : MonitoredRuntime σ :=
  if full event then { state with droppedEvents := min (state.droppedEvents + 1) 4294967295 }
  else { state with queue := state.queue ++ [event] }

def notify (full : EmbeddedRuntimeMonitorEvent → Bool) (state : MonitoredRuntime σ) (reports : List MonitorReport) :
    MonitoredRuntime σ :=
  (reports.filterMap (state.monitorEvent floats parser)).foldl (trySend full) state

/-- The relay handles an event that it has taken out of the channel. -/
def handle (moment : Moment) (state : MonitoredRuntime σ) :
    EmbeddedRuntimeMonitorEvent → List AgentGatewayCommand × MonitorRelay
  | .lifecycle event =>
    let (command, relay) := state.embeddedRuntimeTelemetryCommand models moment event
    (command.toList, relay)
  | .rootInput traceId summary => ([], state.recordEmbeddedRuntimeIo traceId moment.instant (some summary) none)
  | .rootOutput traceId summary => ([], state.recordEmbeddedRuntimeIo traceId moment.instant none (some summary))

def built (state : MonitoredRuntime σ) : MonitorAction → List AgentGatewayCommand
  | .receive moment =>
    match state.queue with
    | [] => []
    | event :: _ => (state.handle models moment event).1
  | .expire moment unixTimeMs => ((state.expireEmbeddedRuntimeTraces moment unixTimeMs).1.toOption).getD []
  | .run _ _ _ | .report _ _ _ _ | .observe _ _ | .setDeployment _ _ | .connect => []

def step (host : RuntimeHost σ) (state : MonitoredRuntime σ) (action : MonitorAction) : Option (MonitoredRuntime σ) :=
  match action with
  | .run coreAction requestElapsedMs full =>
    (state.core.step host coreAction).map fun core =>
      { state with core }.notify floats parser full (state.core.reports floats requestElapsedMs coreAction)
  | .report handle event requestElapsedMs full =>
    match state.core.calls.lookup handle with
    | none => none
    | some invocation =>
      if invocation.phase.provided then
        some (state.notify floats parser full
          ((stageReport handle invocation.createdAtMs requestElapsedMs event).map fun stage =>
            .lifecycle (.providerStage stage)).toList)
      else none
  | .observe lifecycle io => some { state with observesLifecycle := lifecycle, observesIo := io }
  | .setDeployment deploymentId projectSlug => some { state with deployment := some (deploymentId, projectSlug) }
  -- a connection starts without traces
  | .connect => some { state with traces := ∅ }
  | .receive moment =>
    match state.queue with
    | [] => none
    | event :: queue =>
      some { state with
        toMonitorRelay := (state.handle models moment event).2
        queue
        commands := state.commands ++ state.built models action }
  | .expire moment unixTimeMs =>
    some { state with
      toMonitorRelay := (state.expireEmbeddedRuntimeTraces moment unixTimeMs).2
      commands := state.commands ++ state.built models action }

/-- An opened runtime before the gateway has been started. -/
def unmonitored (core : CoreState σ) : MonitoredRuntime σ where
  deployment := none
  droppedEvents := 0
  traces := ∅
  core := core
  observesLifecycle := false
  observesIo := false
  queue := []
  commands := []

def machine (host : RuntimeHost σ) (projectId : String) (initial : σ) : Machine (MonitoredRuntime σ) MonitorAction where
  start state := ∃ core, RuntimeCore.new projectId = .ok core ∧ state = unmonitored (.opened core initial)
  step state action := state.step floats parser models host action

end MonitoredRuntime

/-! ## Runs -/

variable {action : MonitorAction}

namespace MonitoredRuntime

variable {σ : Type} {floats : FloatText} {parser : JsonParser} {models : Option ProviderModels} {host : RuntimeHost σ}
  {state next : MonitoredRuntime σ}

/-- The first event of the channel is in range, if it is a report. -/
def ReceivedFits (models : Option ProviderModels) (relay : MonitorRelay) : List EmbeddedRuntimeMonitorEvent → Prop
  | .lifecycle event :: _ => relay.EventFits models event
  | .rootInput _ _ :: _ | .rootOutput _ _ :: _ | [] => True

/-- The report that the relay takes out, or the traces that it ends, are in range. -/
def CommandsFit (models : Option ProviderModels) (state : MonitoredRuntime σ) : MonitorAction → Prop
  | .receive _ => ReceivedFits models state.toMonitorRelay state.queue
  | .expire moment unixTimeMs => state.ExpiryFits moment.instant unixTimeMs
  | .run _ _ _ | .report _ _ _ _ | .observe _ _ | .setDeployment _ _ | .connect => True

instance decidableReceivedFits (models : Option ProviderModels) (relay : MonitorRelay) :
    ∀ queue, Decidable (ReceivedFits models relay queue)
  | .lifecycle event :: _ => inferInstanceAs (Decidable (relay.EventFits models event))
  | .rootInput _ _ :: _ | .rootOutput _ _ :: _ | [] => .isTrue trivial

instance decidableCommandsFit (models : Option ProviderModels) (state : MonitoredRuntime σ) :
    ∀ action, Decidable (CommandsFit models state action)
  | .receive _ =>
    inferInstanceAs (Decidable (ReceivedFits models state.toMonitorRelay state.queue))
  | .expire moment unixTimeMs => inferInstanceAs (Decidable (state.ExpiryFits moment.instant unixTimeMs))
  | .run _ _ _ | .report _ _ _ _ | .observe _ _ | .setDeployment _ _ | .connect => .isTrue trivial

/-- The summary that the relay takes out is one that passes, or the relay drops it. -/
def SummariesFit (floats : FloatText) (parser : JsonParser) (state : MonitoredRuntime σ) : MonitorAction → Prop
  | .receive _ =>
    match state.queue with
    | .rootInput traceId summary :: _ | .rootOutput traceId summary :: _ =>
      traceId ∈ state.traces → MonitorRelay.SummaryFits floats parser summary
    | .lifecycle _ :: _ | [] => True
  | .expire _ _ | .run _ _ _ | .report _ _ _ _ | .observe _ _ | .setDeployment _ _ | .connect => True

def Fits (floats : FloatText) (parser : JsonParser) (models : Option ProviderModels) (state : MonitoredRuntime σ)
    (action : MonitorAction) : Prop :=
  CommandsFit models state action ∧ SummariesFit floats parser state action

def GenuineEvent : EmbeddedRuntimeMonitorEvent → Prop
  | .lifecycle event => event.Genuine
  | .rootInput _ _ | .rootOutput _ _ => True

/-- What holds in a run whose steps fit. -/
structure Telemetering (floats : FloatText) (parser : JsonParser) (state : MonitoredRuntime σ) : Prop where
  reporting : state.core.Reporting
  queue : ∀ event ∈ state.queue, GenuineEvent event
  sound : state.Sound floats parser
  commands : ∀ command ∈ state.commands, ValidCommand floats parser command

variable {event : EmbeddedRuntimeMonitorEvent}

theorem monitorEvent_genuine {report : MonitorReport} (genuine : report.Genuine)
    (isEvent : state.monitorEvent floats parser report = some event) : GenuineEvent event := by
  cases report with
  | lifecycle lifecycle =>
    rw [monitorEvent] at isEvent
    split at isEvent
    · cases isEvent
      exact genuine
    · cases isEvent
  | io io =>
    cases io <;>
    · rw [monitorEvent] at isEvent
      split at isEvent
      · cases isEvent
        trivial
      · cases isEvent

variable {full : EmbeddedRuntimeMonitorEvent → Bool}

section

variable (telemetering : Telemetering floats parser state)
include telemetering

theorem Telemetering.trySend
    (genuine : GenuineEvent event) : Telemetering floats parser (state.trySend full event) := by
  rw [MonitoredRuntime.trySend]
  split
  · exact ⟨telemetering.reporting, telemetering.queue, telemetering.sound, telemetering.commands⟩
  · refine ⟨telemetering.reporting, ?_, telemetering.sound, telemetering.commands⟩
    intro other mem
    rcases List.mem_append.mp mem with earlier | isNew
    · exact telemetering.queue other earlier
    · rw [List.mem_singleton.mp isNew]
      exact genuine

theorem Telemetering.sendAll {events : List EmbeddedRuntimeMonitorEvent}
    (genuine : ∀ event ∈ events, GenuineEvent event) :
    Telemetering floats parser (events.foldl (MonitoredRuntime.trySend full) state) := by
  induction events generalizing state with
  | nil => exact telemetering
  | cons event events ih =>
    rw [List.forall_mem_cons] at genuine
    exact ih (telemetering.trySend genuine.1) genuine.2

theorem Telemetering.notify {reports : List MonitorReport} (genuine : ∀ report ∈ reports, report.Genuine) :
    Telemetering floats parser (state.notify floats parser full reports) := by
  apply telemetering.sendAll
  intro event mem
  obtain ⟨report, isReport, isEvent⟩ := List.mem_filterMap.mp mem
  exact monitorEvent_genuine (genuine report isReport) isEvent

theorem Telemetering.built_valid (action : MonitorAction) :
    (∀ command ∈ state.built models action, ValidCommand floats parser command) ↔ CommandsFit models state action := by
  cases action with
  | receive moment =>
    have genuine := telemetering.queue
    cases isQueue : state.queue with
    | nil => simp [built, CommandsFit, ReceivedFits, isQueue]
    | cons event queue =>
      rw [isQueue, List.forall_mem_cons] at genuine
      cases event with
      | lifecycle event =>
        simp only [built, CommandsFit, ReceivedFits, isQueue, handle, Option.mem_toList]
        exact MonitorRelay.telemetryCommand_valid telemetering.sound genuine.1
      | rootInput traceId summary | rootOutput traceId summary => simp [built, CommandsFit, ReceivedFits, isQueue, handle]
  | expire moment unixTimeMs => exact MonitorRelay.expire_valid telemetering.sound
  | run | report | observe | setDeployment | connect => simp [built, CommandsFit]

theorem Telemetering.handle_sound (lawful : parser.Lawful)
    {moment : Moment} {queue : List EmbeddedRuntimeMonitorEvent}
    (isQueue : state.queue = event :: queue) (fits : Fits floats parser models state (.receive moment)) :
    (state.handle models moment event).2.Sound floats parser := by
  obtain ⟨commands, summaries⟩ := fits
  have genuine : GenuineEvent event := telemetering.queue event (by simp [isQueue])
  simp only [CommandsFit, ReceivedFits, isQueue] at commands
  simp only [SummariesFit, isQueue] at summaries
  cases event with
  | lifecycle event => exact telemetering.sound.telemetryCommand genuine commands
  | rootInput traceId summary =>
    apply telemetering.sound.recordIo lawful
    · rintro present _ ⟨⟩
      exact summaries present
    · exact fun _ => nofun
  | rootOutput traceId summary =>
    apply telemetering.sound.recordIo lawful
    · exact fun _ => nofun
    · rintro present _ ⟨⟩
      exact summaries present

theorem Telemetering.step (lawful : parser.Lawful) (fits : Fits floats parser models state action)
    (stepped : state.step floats parser models host action = some next) : Telemetering floats parser next := by
  have valid : ∀ command ∈ state.commands ++ state.built models action, ValidCommand floats parser command := by
    intro command mem
    rcases List.mem_append.mp mem with earlier | isNew
    · exact telemetering.commands command earlier
    · exact (telemetering.built_valid action).mpr fits.1 command isNew
  cases action with
  | run coreAction requestElapsedMs full =>
    obtain ⟨core, coreStepped, rfl⟩ := Option.map_eq_some_iff.mp stepped
    have moved : Telemetering floats parser { state with core } :=
      ⟨telemetering.reporting.step coreStepped, telemetering.queue, telemetering.sound, telemetering.commands⟩
    exact moved.notify telemetering.reporting.genuine
  | report handle event requestElapsedMs full =>
    simp only [MonitoredRuntime.step] at stepped
    split at stepped
    · cases stepped
    · split at stepped
      · cases stepped
        apply telemetering.notify
        intro report mem
        rw [Option.mem_toList, Option.map_eq_some_iff] at mem
        obtain ⟨stage, reported, rfl⟩ := mem
        exact stageReport_genuine reported
      · cases stepped
  | observe lifecycle io | setDeployment deploymentId projectSlug =>
    cases stepped
    exact ⟨telemetering.reporting, telemetering.queue, telemetering.sound, telemetering.commands⟩
  | connect =>
    cases stepped
    refine ⟨telemetering.reporting, telemetering.queue, ?_, telemetering.commands⟩
    intro key trace stored
    cases stored
  | receive moment =>
    simp only [MonitoredRuntime.step] at stepped
    split at stepped
    · cases stepped
    · next event queue isQueue =>
      cases stepped
      refine ⟨telemetering.reporting, ?_, telemetering.handle_sound lawful isQueue fits, valid⟩
      intro other mem
      exact telemetering.queue other (by simp [isQueue, mem])
  | expire moment unixTimeMs =>
    cases stepped
    exact ⟨telemetering.reporting, telemetering.queue, telemetering.sound.expire, valid⟩

end

theorem telemetering (lawful : parser.Lawful) {projectId : String} {initial : σ}
    (reachable : (machine floats parser models host projectId initial).Reachable (Fits floats parser models) state) :
    Telemetering floats parser state := by
  apply reachable.invariant
  · rintro _ ⟨core, accepted, rfl⟩
    refine ⟨CoreState.reporting_opened host accepted, ?_, ?_, ?_⟩
    · intro event mem
      cases mem
    · intro key trace stored
      cases stored
    · intro command mem
      cases mem
  · intro _ _ _ telemetering fits stepped
    exact telemetering.step lawful fits stepped

end MonitoredRuntime

/-- A run whose steps fit builds only commands that pass and can be written; and in a state that such
a run reaches, the commands of the next step pass exactly when the step fits. -/
theorem embedded_telemetry_accepted {σ : Type} (floats : FloatText) (parser : JsonParser)
    (models : Option ProviderModels) (host : RuntimeHost σ) (projectId : String) (initial : σ) (lawful : parser.Lawful) :
    ∀ state, (MonitoredRuntime.machine floats parser models host projectId initial).Reachable
        (MonitoredRuntime.Fits floats parser models) state →
      (∀ command ∈ state.commands, validateCommand floats parser command = .ok () ∧
        (command.Held → ∃ encoded, encodeCommand floats parser command = .ok encoded)) ∧
      ∀ action, (∀ command ∈ state.built models action, validateCommand floats parser command = .ok ()) ↔
        MonitoredRuntime.CommandsFit models state action := by
  intro state reachable
  have telemetering := MonitoredRuntime.telemetering lawful reachable
  constructor
  · intro command member
    have passes : validateCommand floats parser command = .ok () :=
      validateCommand_ok.mpr (telemetering.commands command member)
    exact ⟨passes, fun held => (encodeCommand_iff held).mpr passes⟩
  · intro action
    simp only [validateCommand_ok]
    exact telemetering.built_valid action

/-! ## A chat with a monitor -/

def Unsummarized {σ : Type} (state : MonitoredRuntime σ) : Prop :=
  state.queue.all (fun event => match event with
    | .lifecycle _ => true
    | .rootInput _ _ | .rootOutput _ _ => false) = true

instance decidableUnsummarized {σ : Type} (state : MonitoredRuntime σ) : Decidable (Unsummarized state) :=
  inferInstanceAs (Decidable (_ = true))

theorem fits_of_unsummarized {σ : Type} {floats : FloatText} {parser : JsonParser} {models : Option ProviderModels}
    {state : MonitoredRuntime σ} (commands : MonitoredRuntime.CommandsFit models state action)
    (unsummarized : Unsummarized state) : MonitoredRuntime.Fits floats parser models state action := by
  refine ⟨commands, ?_⟩
  cases action with
  | receive moment =>
    rw [Unsummarized] at unsummarized
    rw [MonitoredRuntime.SummariesFit]
    split <;> simp_all
  | run | report | observe | setDeployment | connect | expire => trivial

def chatMoment : Moment := { instant := 0, id := exampleId, hostMetrics := none }

def chatActions (agentId : String) : List CoreAction :=
  List.append
    [.define (.registerProvider "models" ⟨fun capability => capability == "chat"⟩),
      .define (.registerAgent
        { id := agentId, name := "Guide", provider := "models", capabilities := ["chat"], metadata := .null }),
      .define (.registerEndpoint { name := "town-guide", agent := agentId, capability := "chat", timeoutMs := 30000 }),
      .createToken, .invoke townInput ⟨0⟩]
    (List.map (.run (invocationId 1))
      [.begin 1700000000000, .acquire, .resolve, .check, .read, .load, .cache, .emit (.stageCompleted .prefill 20 .null),
        .provide (.responded townResponse), .recheck, .save, .insert, .finish 40, .trace 40])

def chatSchedule (agentId : String) (reports : ℕ) : List MonitorAction :=
  List.flatten
    [[.observe true false, .setDeployment exampleId "town-project"],
      (chatActions agentId).map fun action => .run action 25 fun _ => false,
      List.replicate reports (.receive chatMoment)]

def chatMachine : Machine (MonitoredRuntime MemoryRuntimeStore) MonitorAction :=
  MonitoredRuntime.machine (fun _ => "0.5") emptyObjectParser none townHost "town" .empty

theorem chatMachine_starts : chatMachine.start (MonitoredRuntime.unmonitored townRuntime) :=
  ⟨_, RuntimeCore.new_ok.mpr ⟨by decide +kernel, rfl⟩, rfl⟩

theorem embedded_telemetry_accepted_chat :
    ∃ state, (chatMachine.Reachable (MonitoredRuntime.Fits (fun _ => "0.5") emptyObjectParser none) state ∧
        state.commands.length = 3) ∧
      ∀ command ∈ state.commands, validateCommand (fun _ => "0.5") emptyObjectParser command = .ok () := by
  obtain ⟨state, reachable, some⟩ := Machine.reachable_of_execute chatMachine
    (fun state action => MonitoredRuntime.CommandsFit none state action ∧ Unsummarized state) chatMachine_starts
    (chatSchedule "guide" 3) (fun state => decide (state.commands.length = 3)) (by decide +kernel)
  have fits : chatMachine.Reachable (MonitoredRuntime.Fits (fun _ => "0.5") emptyObjectParser none) state :=
    reachable.weaken fun _ _ fits => fits_of_unsummarized fits.1 fits.2
  have accepted := embedded_telemetry_accepted (fun _ => "0.5") emptyObjectParser none townHost "town" .empty
    emptyObjectParser_lawful state fits
  exact ⟨state, ⟨fits, of_decide_eq_true some⟩, fun command member => (accepted.1 command member).1⟩

/-- The runtime takes an agent whose identifier has two bytes, and the receiver does not. -/
theorem short_agent_refused : ∃ state, chatMachine.Reachable Machine.always state ∧
      ∃ command ∈ state.commands, validateCommand (fun _ => "0.5") emptyObjectParser command ≠ .ok () := by
  obtain ⟨state, reachable, some⟩ := Machine.reachable_of_execute chatMachine Machine.always chatMachine_starts
    (chatSchedule "ai" 1) (fun state => decide (∃ command ∈ state.commands,
      validateCommand (fun _ => "0.5") emptyObjectParser command ≠ .ok ())) (by decide +kernel)
  exact ⟨state, reachable, of_decide_eq_true some⟩

end Vifu.Gateway
