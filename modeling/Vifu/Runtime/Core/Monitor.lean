import Vifu.Runtime.Records
import Vifu.Runtime.Core.Traces

/-!
# What the runtime reports to a monitor

`invoke` reports its start, the stages of its provider and its end to the observers that a host has
installed.  A report goes by an identifier that the runtime makes from the wall clock and the handle
(`traceId`), and its names have been accepted by the registry.
-/

namespace Vifu.Runtime

open Foundation

def maxRuntimeMonitorIoBytes : ℕ := 131072

inductive RuntimeMonitorStatus where
  | completed | cancelled | error
  deriving DecidableEq

inductive RuntimeMonitorStageStatus where
  | started | completed | failed
  deriving DecidableEq

/-- `RuntimeMonitorEvent::InvocationStarted`. -/
structure MonitorStart where
  traceId : String
  invocationId : String
  projectId : String
  endpoint : String
  agentId : String
  providerId : String
  capability : String
  startedAtMs : ℕ
  deriving DecidableEq

/-- `RuntimeMonitorEvent::ProviderStage`. -/
structure MonitorStage where
  traceId : String
  invocationId : String
  stage : ProviderStage
  status : RuntimeMonitorStageStatus
  elapsedMs : Option ℕ
  requestElapsedMs : ℕ
  inputTokens : Option ℕ
  outputTokens : Option ℕ
  resident : Option Bool
  error : Option String
  deriving DecidableEq

/-- `RuntimeMonitorEvent::InvocationFinished`. -/
structure MonitorEnd where
  traceId : String
  invocationId : String
  status : RuntimeMonitorStatus
  durationMs : ℕ
  endedAtMs : ℕ
  error : Option String
  deriving DecidableEq

inductive RuntimeMonitorEvent where
  | invocationStarted (start : MonitorStart)
  | providerStage (stage : MonitorStage)
  | invocationFinished (ending : MonitorEnd)
  deriving DecidableEq

structure RuntimeMonitorIoSummary where
  value : Value
  truncated : Bool
  deriving DecidableEq

inductive RuntimeMonitorIoEvent where
  | invocationInput (traceId invocationId : String) (summary : RuntimeMonitorIoSummary)
  | invocationOutput (traceId invocationId : String) (summary : RuntimeMonitorIoSummary)
  deriving DecidableEq

inductive MonitorReport where
  | lifecycle (event : RuntimeMonitorEvent)
  | io (event : RuntimeMonitorIoEvent)

/-! ## Reports of an invocation -/

/-- `format!("trace-{created_at_ms}-{invocation_id}")`. -/
def traceId (createdAtMs : ℕ) (handle : InvocationHandle) : String := "trace-" ++ toString createdAtMs ++ "-" ++ handle

def monitorValueShape : Value → String
  | .null => "null"
  | .bool _ => "boolean"
  | .number _ => "number"
  | .string _ => "string"
  | .array _ => "array"
  | .object _ => "object"

def runtimeMonitorIoSummary (floats : FloatText) : InvocationData → RuntimeMonitorIoSummary
  | .binary bytes =>
    { value := .object [("_vifuBinary", .bool true), ("bytes", u64 bytes.length)], truncated := true }
  | .json value =>
    if value.encodedSize floats ≤ maxRuntimeMonitorIoBytes then { value, truncated := false }
    else
      { value := .object [("summary", .string (monitorValueShape value)), ("truncated", .bool true)]
        truncated := true }

/-- `metadata.get(key).and_then(read)`. -/
def monitorField {α : Type} (key : String) (read : Value → Option α) : Value → Option α
  | .object fields => (getField key fields).bind read
  | .null | .bool _ | .number _ | .string _ | .array _ => none

def stageReport (handle : InvocationHandle) (createdAtMs requestElapsedMs : ℕ) (event : ProviderEvent) :
    Option MonitorStage :=
  let report (stage : ProviderStage) (status : RuntimeMonitorStageStatus) (elapsedMs : Option ℕ) (metadata : Value)
      (error : Option String) : MonitorStage :=
    { traceId := traceId createdAtMs handle
      invocationId := handle
      stage, status, elapsedMs
      requestElapsedMs := milliseconds requestElapsedMs
      inputTokens := monitorField "inputTokens" Value.asU64 metadata
      outputTokens := monitorField "outputTokens" Value.asU64 metadata
      resident := monitorField "resident" Value.asBool metadata
      error }
  match event with
  | .activity | .outputDelta _ => none
  | .stageStarted stage metadata => some (report stage .started none metadata none)
  | .stageCompleted stage elapsedMs metadata => some (report stage .completed (some elapsedMs) metadata none)
  | .stageFailed stage elapsedMs error metadata => some (report stage .failed (some elapsedMs) metadata (some error))

def endReport (handle : InvocationHandle) (createdAtMs elapsedMs : ℕ) (result : Except RuntimeError InvocationOutput) :
    MonitorEnd where
  traceId := traceId createdAtMs handle
  invocationId := handle
  status :=
    match result with
    | .ok _ => .completed
    | .error .cancelled => .cancelled
    | .error _ => .error
  durationMs := milliseconds elapsedMs
  endedAtMs := saturatingAdd createdAtMs (milliseconds elapsedMs)
  error :=
    match result with
    | .ok _ => none
    | .error error => some error.publicMessage

namespace CoreState

variable {σ : Type}

def startReport (state : CoreState σ) (handle : InvocationHandle) (invocation : Invocation) (route : Route) :
    MonitorStart where
  traceId := traceId invocation.createdAtMs handle
  invocationId := handle
  projectId := state.projectId
  endpoint := route.endpoint.name
  agentId := route.agent.id
  providerId := route.agent.provider
  capability := route.endpoint.capability
  startedAtMs := invocation.createdAtMs

/-- What a section of an invocation reports.  The given time is the one since the provider was called. -/
def sectionReports (floats : FloatText) (state : CoreState σ) (handle : InvocationHandle) (invocation : Invocation)
    (requestElapsedMs : ℕ) (piece : InvocationSection) : List MonitorReport :=
  let id := traceId invocation.createdAtMs handle
  match piece, invocation.phase with
  | .check, .checking route =>
    if invocation.cancellation ∈ state.cancelled then []
    else
      [.lifecycle (.invocationStarted (state.startReport handle invocation route)),
        .io (.invocationInput id handle (runtimeMonitorIoSummary floats invocation.input.data))]
  | .emit event, .running _ _ =>
    ((stageReport handle invocation.createdAtMs requestElapsedMs event).map fun stage =>
      .lifecycle (.providerStage stage)).toList
  | .trace elapsedMs, .returned result =>
    ((result.toOption.map fun output =>
        .io (.invocationOutput id handle (runtimeMonitorIoSummary floats output.data))).toList) ++
      [.lifecycle (.invocationFinished (endReport handle invocation.createdAtMs elapsedMs result))]
  | _, _ => []

def reports (floats : FloatText) (state : CoreState σ) (requestElapsedMs : ℕ) : CoreAction → List MonitorReport
  | .run handle piece =>
    match state.calls.lookup handle with
    | none => []
    | some invocation => state.sectionReports floats handle invocation requestElapsedMs piece
  | _ => []

end CoreState

/-- The call of the provider is over, after which events may still come from a sink that it has kept. -/
def InvocationPhase.provided : InvocationPhase → Bool
  | .starting | .entering | .resolving | .checking _ | .reading _ | .loading _ | .caching _ _ | .running _ _ => false
  | .responded _ _ _ | .saving _ _ _ | .saved _ _ _ | .cached _ _ _ | .returned _ | .traced _ | .ended _
  | .dropped => true

theorem traceId_created {first second : ℕ} {left right : InvocationHandle}
    (same : traceId first left = traceId second right) : first = second := by
  have texts := congrArg String.toList same
  have dash : "-".toList = ['-'] := rfl
  simp only [traceId, String.toList_append, List.append_assoc, List.append_cancel_left_eq, dash, List.singleton_append]
    at texts
  have digits : ∀ (number : ℕ) (rest : List Char),
      ((toString number).toList ++ '-' :: rest).takeWhile Char.isDigit = (toString number).toList := by
    intro number rest
    rw [List.takeWhile_append_of_pos fun character mem => isDigit_of_mem_toString mem]
    simp [Char.isDigit]
  have sameDigits := congrArg (List.takeWhile Char.isDigit) texts
  rw [digits, digits] at sameDigits
  exact Nat.repr_injective (String.toList_injective sameDigits)

/-! ## Reports as the runtime makes them -/

/-- A report of an invocation that started at the given time. -/
structure ReportOf (traceIdentifier handle : String) (createdAtMs : ℕ) : Prop where
  isTrace : traceIdentifier = traceId createdAtMs handle
  issued : ∃ id ≤ u64Max, handle = invocationId id
  stamped : createdAtMs ≤ u64Max

/-- The fields of an event as the runtime gives them. -/
def RuntimeMonitorEvent.Genuine : RuntimeMonitorEvent → Prop
  | .invocationStarted start =>
    ReportOf start.traceId start.invocationId start.startedAtMs ∧ PortableIdentifier start.endpoint ∧
      PortableIdentifier start.agentId ∧ PortableIdentifier start.providerId ∧ PortableIdentifier start.capability
  | .providerStage stage =>
    (stage.status = .started → stage.elapsedMs = none) ∧ (stage.status ≠ .started → stage.elapsedMs ≠ none) ∧
      (stage.status = .failed → stage.error ≠ none)
  | .invocationFinished ending =>
    ∃ createdAtMs, ReportOf ending.traceId ending.invocationId createdAtMs ∧
      ending.endedAtMs = saturatingAdd createdAtMs ending.durationMs

def MonitorReport.Genuine : MonitorReport → Prop
  | .lifecycle event => event.Genuine
  | .io _ => True

theorem stageReport_genuine {handle : InvocationHandle} {createdAtMs requestElapsedMs : ℕ} {event : ProviderEvent}
    {stage : MonitorStage} (reported : stageReport handle createdAtMs requestElapsedMs event = some stage) :
    (RuntimeMonitorEvent.providerStage stage).Genuine := by
  cases event <;> cases reported <;> simp [RuntimeMonitorEvent.Genuine]

namespace RuntimeCore

variable {core next : RuntimeCore}

def EndpointsNamed (registry : RuntimeRegistry) : Prop :=
  ∀ name endpoint, registry.endpoints.lookup name = some endpoint → PortableIdentifier endpoint.name

theorem define_endpointsNamed {codec : ManifestCodec} {operation : DefinitionOperation}
    (succeeds : core.define codec operation = .ok next) (named : EndpointsNamed core.registry) :
    EndpointsNamed next.registry := by
  cases operation with
  | registerProvider name provider =>
    obtain ⟨-, same⟩ := check_bind_ok.mp succeeds
    cases same
    exact named
  | unregisterProvider name | unregisterAgent name =>
    obtain ⟨_, removed, rfl⟩ := map_ok.mp succeeds
    obtain ⟨-, same⟩ := check_bind_ok.mp removed
    cases same
    exact named
  | unregisterEndpoint name =>
    obtain ⟨_, removed, rfl⟩ := map_ok.mp succeeds
    obtain ⟨-, same⟩ := check_bind_ok.mp removed
    cases same
    intro other endpoint stored
    rw [lookup_erase] at stored
    split at stored
    · cases stored
    · exact named other endpoint stored
  | registerAgent agent =>
    obtain ⟨-, -, capabilities, rfl⟩ := registerAgent_ok succeeds
    exact named
  | registerEndpoint endpoint =>
    have portable : PortableIdentifier endpoint.name := validateIdentifier_ok.mp (check_bind_ok.mp succeeds).1
    obtain ⟨capability, -, rfl⟩ := registerEndpoint_ok succeeds
    intro other found stored
    rw [lookup_insert] at stored
    split at stored
    · cases stored
      exact portable
    · exact named other found stored
  | applyManifest manifest =>
    obtain ⟨valid, -, -, rfl⟩ := applyManifest_ok.mp succeeds
    intro name endpoint stored
    exact (valid.endpoints endpoint (mem_of_lookup_collect stored).1).name

end RuntimeCore

theorem resolve_endpoint {registry : RuntimeRegistry} {name : String} {endpoint : EndpointDefinition}
    {agent : AgentDefinition} {provider : AgentProvider}
    (resolved : registry.resolve name = .ok (endpoint, agent, provider)) :
    registry.endpoints.lookup name = some endpoint := by
  unfold RuntimeRegistry.resolve at resolved
  split at resolved
  next => cases resolved
  next found isEndpoint =>
    have same : found = endpoint := by
      split at resolved
      next => cases resolved
      next =>
        split at resolved
        next => cases resolved
        next =>
          split at resolved
          next => cases resolved
          next =>
            cases resolved
            rfl
    rw [isEndpoint, same]

namespace CoreState

variable {σ : Type} {host : RuntimeHost σ} {state next : CoreState σ} {handle : InvocationHandle}
  {invocation : Invocation} {piece : InvocationSection} {action : CoreAction}

/-- The endpoints of the registry, and the one that an invocation is about to report, go by portable
    names. -/
structure EndpointsNamed (state : CoreState σ) : Prop where
  registry : RuntimeCore.EndpointsNamed state.registry
  routes : ∀ handle invocation, state.calls.lookup handle = some invocation →
    ∀ route, invocation.phase = .checking route → PortableIdentifier route.endpoint.name

theorem SectionStep.checking (step : SectionStep host state handle invocation piece next)
    (registry : RuntimeCore.EndpointsNamed state.registry) :
    ∃ changed, next.calls = state.calls.insert handle changed ∧
      ∀ route, changed.phase = .checking route → PortableIdentifier route.endpoint.name := by
  cases step with
  | resolve endpoint agent provider _ resolved =>
    refine ⟨_, rfl, ?_⟩
    rintro route ⟨⟩
    exact registry _ _ (resolve_endpoint resolved)
  | begin | reject =>
    rw [announce_eq]
    exact ⟨_, rfl, nofun⟩
  | leave _ phase _ left =>
    refine ⟨_, rfl, ?_⟩
    rcases left with rfl | rfl <;> exact nofun
  | trace =>
    rw [enqueueTrace_eq]
    exact ⟨_, rfl, nofun⟩
  | publish =>
    rw [report_eq]
    exact ⟨_, rfl, nofun⟩
  | acquire | check | read | miss | load | cache | emit | respond | idle | recheck | save | insert | finish | fail
  | failWritten | drop => exact ⟨_, rfl, nofun⟩

theorem EndpointsNamed.start (named : EndpointsNamed state) {input : InvocationInput} {cancellation : CancellationToken}
    {background : Bool} :
    ∀ other found, (state.calls.insert handle (.start input cancellation background)).lookup other = some found →
      ∀ route, found.phase = .checking route → PortableIdentifier route.endpoint.name := by
  intro other found isFound
  rw [lookup_insert] at isFound
  split at isFound
  · cases isFound
    exact nofun
  · exact named.routes other found isFound

theorem EndpointsNamed.step (named : EndpointsNamed state)
    (stepped : CoreStep host state action next) : EndpointsNamed next := by
  cases stepped with
  | run handle invocation piece _ stored ran =>
    obtain ⟨changed, calls, isNamed⟩ := ran.checking named.registry
    refine ⟨ran.frame.1 ▸ named.registry, fun other found isFound => ?_⟩
    rw [calls, lookup_insert] at isFound
    split at isFound
    · cases isFound
      exact isNamed
    · exact named.routes other found isFound
  | define operation core defined =>
    exact ⟨RuntimeCore.define_endpointsNamed defined named.registry, named.routes⟩
  | start | invoke => exact ⟨named.registry, named.start⟩
  | stay | refuse | createToken | cancelToken | takeInvocation | drainEvents | cancelInvocation | flag
  | publishCancelled | restoreSnapshot | restoreSession | restoreFail | replaceSessions | restorePoisoned
  | acknowledgeTraces => exact ⟨named.registry, named.routes⟩

/-! ## What a runtime reports -/

structure Reporting (state : CoreState σ) : Prop where
  recordable : Recordable state
  grounded : Grounded state
  endpoints : EndpointsNamed state

theorem reporting_opened (host : RuntimeHost σ) {projectId : String} {initial : σ} {core : RuntimeCore}
    (accepted : RuntimeCore.new projectId = .ok core) : Reporting (opened core initial) := by
  have starts : (machine host projectId initial).start (opened core initial) := ⟨core, accepted, rfl⟩
  have reachable : (machine host projectId initial).Reachable Machine.always (opened core initial) :=
    ⟨_, starts, .refl⟩
  refine ⟨recordable reachable, grounded reachable, ?_⟩
  obtain ⟨-, rfl⟩ := RuntimeCore.new_ok.mp accepted
  constructor <;> intro _ _ stored <;> simp [opened, RuntimeRegistry.empty] at stored

theorem Reporting.step (reporting : Reporting state)
    (stepped : state.step host action = some next) : Reporting next := by
  have stepped := step_step stepped
  exact ⟨reporting.recordable.step stepped, reporting.grounded.step stepped, reporting.endpoints.step stepped⟩

theorem Reporting.reportOf (reporting : Reporting state) (stored : state.calls.lookup handle = some invocation) :
    ReportOf (traceId invocation.createdAtMs handle) handle invocation.createdAtMs := by
  obtain ⟨id, below, isHandle⟩ := reporting.grounded.issued handle (AList.lookup_isSome.mp (by rw [stored]; rfl))
  have small : id ≤ u64Max := Nat.le_of_lt_succ (Nat.lt_of_lt_of_le below reporting.recordable.counted)
  exact ⟨rfl, ⟨id, small, isHandle⟩, (reporting.recordable.calls handle invocation stored).2⟩

theorem Reporting.genuine {floats : FloatText} {requestElapsedMs : ℕ} (reporting : Reporting state) :
    ∀ report ∈ state.reports floats requestElapsedMs action, report.Genuine := by
  intro report mem
  cases action with
  | run handle piece =>
    cases stored : state.calls.lookup handle with
    | none => simp [reports, stored] at mem
    | some invocation =>
      simp only [reports, stored] at mem
      have reportOf := reporting.reportOf stored
      unfold sectionReports at mem
      split at mem
      next route checking =>
        split at mem
        next => cases mem
        next =>
          have named := (reporting.recordable.calls handle invocation stored).1
          rw [checking] at named
          have endpoint := reporting.endpoints.routes handle invocation stored route checking
          simp only [List.mem_cons, List.not_mem_nil, or_false] at mem
          rcases mem with rfl | rfl
          · exact ⟨reportOf, endpoint, named.agent, named.provider, named.capability⟩
          · trivial
      next event _ _ running =>
        rw [Option.mem_toList, Option.map_eq_some_iff] at mem
        obtain ⟨stage, reported, rfl⟩ := mem
        exact stageReport_genuine reported
      next elapsedMs result returned =>
        rw [List.mem_append, List.mem_singleton, Option.mem_toList, Option.map_eq_some_iff] at mem
        rcases mem with ⟨output, -, rfl⟩ | rfl
        · trivial
        · exact ⟨_, reportOf, rfl⟩
      next => cases mem
  | _ => cases mem

end CoreState

end Vifu.Runtime
