import Vifu.Foundation.Machine
import Vifu.Runtime.Invocation.Registry
import Vifu.Runtime.Registry
import Vifu.Runtime.Store.Memory

/-!
# The runtime core

The calls of `VifuRuntime` and the invocation workers share one `RuntimeCore`: the definitions,
the store, the cache of sessions, the session locks and the invocation registry.  Each of these
has a lock of its own, so that other calls can run between any two sections of `invoke`,
`restore_snapshot` or `cancel_invocation`.  The machine below has one action for each section.
-/

namespace Vifu.Runtime

open Foundation

/-- `u64::try_from` of a number of milliseconds, with `u64::MAX` in place of an error. -/
def milliseconds (elapsed : ℕ) : ℕ := min elapsed u64Max

def snapshotVersion : ℕ := 1

structure PortableProjectSnapshot where
  version : ℕ
  projectId : String
  sessions : HashMap String RuntimeSnapshot

/-- What the host and other packages supply: the store, and the JSON of snapshots and manifests. -/
structure RuntimeHost (σ : Type) where
  store : RuntimeStore σ
  snapshots : JsonCodec PortableProjectSnapshot
  manifests : ManifestCodec

/-! ## Invocations -/

/-- What the registry resolves the endpoint of an invocation to. -/
structure Route where
  endpoint : EndpointDefinition
  agent : AgentDefinition
  deriving DecidableEq

/-- How far `invoke` has come.  The session lock is held from `resolving` to `cached`. -/
inductive InvocationPhase where
  | starting
  | entering
  | resolving
  | checking (route : Route)
  | reading (route : Route)
  | loading (route : Route)
  | caching (route : Route) (snapshot : RuntimeSnapshot)
  | running (route : Route) (snapshot : RuntimeSnapshot)
  | responded (route : Route) (snapshot : RuntimeSnapshot) (response : ProviderResponse)
  | saving (route : Route) (snapshot : RuntimeSnapshot) (response : ProviderResponse)
  | saved (route : Route) (next : RuntimeSnapshot) (response : ProviderResponse)
  | cached (route : Route) (next : RuntimeSnapshot) (response : ProviderResponse)
  | returned (result : Except RuntimeError InvocationOutput)
  | traced (result : Except RuntimeError InvocationOutput)
  | ended (result : Except RuntimeError InvocationOutput)
  | dropped
  deriving DecidableEq

/-- One call of `invoke`, in the background or awaited by the host. -/
structure Invocation where
  input : InvocationInput
  cancellation : CancellationToken
  background : Bool
  createdAtMs : ℕ
  providerTrace : List InvocationTraceEvent
  phase : InvocationPhase
  deriving DecidableEq

inductive ProviderOutcome where
  | responded (response : ProviderResponse)
  | failed (error : RuntimeError)
  | cancelled
  | idle

/-- The sections of `invoke`, with what each gets from outside: the wall clock, an elapsed time,
    an event of the provider or its outcome.  `poisoned` is any section whose lock another thread
    has poisoned, and `drop` drops the future where it waits. -/
inductive InvocationSection where
  | begin (unixTimeMs : ℕ)
  | acquire
  | resolve
  | check
  | read
  | load
  | cache
  | emit (event : ProviderEvent)
  | provide (outcome : ProviderOutcome)
  | recheck
  | save
  | insert
  | finish (elapsedMs : ℕ)
  | trace (elapsedMs : ℕ)
  | publish
  | poisoned
  | drop

/-- How far a `restore_snapshot` has come: which sessions of the snapshot it has saved. -/
inductive RestoreCall where
  | saving (sessions : HashMap String RuntimeSnapshot) (saved : List String)
  | returned

/-- How far a `cancel_invocation` has come. -/
inductive CancelCall where
  | flagging (handle : InvocationHandle) (cancellation : CancellationToken)
  | publishing (handle : InvocationHandle)
  | returned
  deriving DecidableEq

/-- What has happened to the sessions and the results of invocations, for the statements of
    results only. -/
inductive Occurrence where
  | loaded (handle : InvocationHandle) (session : String)
  | saved (handle : InvocationHandle) (session : String) (snapshot : RuntimeSnapshot)
  | succeeded (handle : InvocationHandle) (session : String)
  | restored (session : String) (snapshot : RuntimeSnapshot)
  | restoreReturned (sessions : List String)
  | published (handle : InvocationHandle) (status : InvocationStatus)
  deriving DecidableEq

structure CoreState (σ : Type) extends RuntimeCore where
  store : σ
  sessions : HashMap String RuntimeSnapshot
  /-- The session locks that are held, and by which invocation. -/
  sessionLocks : HashMap String InvocationHandle
  invocations : InvocationRegistry
  nextInvocation : ℕ
  /-- The number of cancellation tokens created, and those that are cancelled. -/
  tokens : ℕ
  cancelled : List CancellationToken
  calls : HashMap InvocationHandle Invocation
  restores : List RestoreCall
  cancels : List CancelCall
  /-- The last occurrence first. -/
  history : List Occurrence

inductive CoreAction where
  | define (operation : DefinitionOperation)
  | createToken
  | cancelToken (cancellation : CancellationToken)
  | startInvoke (input : InvocationInput) (queueFull : Bool)
  | invoke (input : InvocationInput) (cancellation : CancellationToken)
  | run (handle : InvocationHandle) (piece : InvocationSection)
  | takeInvocation (handle : InvocationHandle)
  | drainEvents (handle : InvocationHandle)
  | cancelInvocation (handle : InvocationHandle)
  | flag (call : ℕ)
  | publishCancelled (call : ℕ)
  | exportSnapshot
  | restoreSnapshot (bytes : List UInt8)
  | restoreSession (call : ℕ) (session : String)
  | replaceSessions (call : ℕ)
  | restorePoisoned (call : ℕ)
  | acknowledgeTraces (traceIds : List String)

/-- `format!("invocation-{id}")`. -/
def invocationId (id : ℕ) : InvocationHandle := "invocation-" ++ toString id

/-! ## The parts of an invocation -/

def providerStageName : ProviderStage → String
  | .queue => "queue"
  | .load => "load"
  | .tokenize => "tokenize"
  | .prefill => "prefill"
  | .firstToken => "first_token"
  | .decode => "decode"
  | .validate => "validate"

/-- The event that the provider's event leaves in the trace of the output. -/
def stageTrace : ProviderEvent → Option InvocationTraceEvent
  | .stageCompleted stage elapsedMs metadata =>
    some { name := providerStageName stage, status := "completed", durationMs := elapsedMs, attributes := metadata }
  | .stageFailed stage elapsedMs _ metadata =>
    some { name := providerStageName stage, status := "failed", durationMs := elapsedMs, attributes := metadata }
  | .activity | .outputDelta _ | .stageStarted _ _ => none

namespace Invocation

variable (invocation : Invocation)

def session : String := invocation.input.sessionId

def start (input : InvocationInput) (cancellation : CancellationToken) (background : Bool) : Invocation where
  input := input
  cancellation := cancellation
  background := background
  createdAtMs := 0
  providerTrace := []
  phase := .starting

def validate : Except RuntimeError Unit := do
  validateIdentifier "endpoint" invocation.input.endpoint
  validateIdentifier "session" invocation.input.sessionId

/-- The wall clock when `invoke` begins. -/
def stamp (unixTimeMs : ℕ) : Invocation := { invocation with createdAtMs := milliseconds unixTimeMs }

def emit (event : ProviderEvent) : Invocation :=
  { invocation with providerTrace := invocation.providerTrace ++ (stageTrace event).toList }

def nextSnapshot (snapshot : RuntimeSnapshot) (response : ProviderResponse) : RuntimeSnapshot where
  revision := saturatingAdd snapshot.revision 1
  state := response.state.getD snapshot.state

end Invocation

def traceStatus : Except RuntimeError InvocationOutput → String
  | .ok _ => "completed"
  | .error .cancelled => "cancelled"
  | .error _ => "error"

def resultStatus : Except RuntimeError InvocationOutput → InvocationStatus
  | .ok _ => .completed
  | .error .cancelled => .cancelled
  | .error _ => .failed

def resultError : Except RuntimeError InvocationOutput → Option String
  | .ok _ | .error .cancelled => none
  | .error error => some error.publicMessage

namespace CoreState

variable {σ : Type}

def opened (core : RuntimeCore) (store : σ) : CoreState σ where
  toRuntimeCore := core
  store := store
  sessions := ∅
  sessionLocks := ∅
  invocations := .empty
  nextInvocation := 1
  tokens := 0
  cancelled := []
  calls := ∅
  restores := []
  cancels := []
  history := []

variable (state : CoreState σ)

/-! ## Sections of `invoke` -/

def enter (handle : InvocationHandle) (invocation : Invocation) (phase : InvocationPhase) : CoreState σ :=
  { state with calls := state.calls.insert handle { invocation with phase } }

def release (session : String) : CoreState σ := { state with sessionLocks := state.sessionLocks.erase session }

/-- `invoke_provider` returns. -/
def conclude (handle : InvocationHandle) (invocation : Invocation) (result : Except RuntimeError InvocationOutput) :
    CoreState σ :=
  (state.release invocation.session).enter handle invocation (.returned result)

def record (occurrence : Occurrence) : CoreState σ := { state with history := occurrence :: state.history }

def pendingInvocation (handle : InvocationHandle) : Bool :=
  (state.invocations.entries.lookup handle).any fun entry => !entry.terminal

def updatePoll (handle : InvocationHandle) (status : InvocationStatus) (output : Option InvocationOutput)
    (error : Option String) : CoreState σ :=
  { state with
    invocations := state.invocations.update handle status output error
    history :=
      if state.pendingInvocation handle = true ∧ isTerminalStatus status = true then
        .published handle status :: state.history
      else
        state.history }

/-- The worker of a background invocation reports that it runs. -/
def announce (handle : InvocationHandle) (invocation : Invocation) : CoreState σ :=
  if invocation.background then state.updatePoll handle .running none none else state

def report (handle : InvocationHandle) (invocation : Invocation) (result : Except RuntimeError InvocationOutput) :
    CoreState σ :=
  if invocation.background then
    state.updatePoll handle (resultStatus result) result.toOption (resultError result)
  else
    state

/-- An error of `enqueue_trace` is ignored. -/
def enqueueTrace (host : RuntimeHost σ) (trace : RuntimeTraceRecord) : CoreState σ :=
  match host.store.enqueueTrace state.store trace with
  | .ok store => { state with store }
  | .error _ => state

/-- The record that `invoke` enqueues. -/
def traceRecord (handle : InvocationHandle) (invocation : Invocation) (result : Except RuntimeError InvocationOutput)
    (elapsedMs : ℕ) : RuntimeTraceRecord where
  id := "trace-" ++ toString invocation.createdAtMs ++ "-" ++ handle
  projectId := state.projectId
  invocationId := handle
  endpoint := invocation.input.endpoint
  agent := result.toOption.map (·.agent)
  provider := result.toOption.map (·.provider)
  capability := result.toOption.map (·.capability)
  status := traceStatus result
  durationMs := milliseconds elapsedMs
  createdAtMs := invocation.createdAtMs

def output (handle : InvocationHandle) (invocation : Invocation) (route : Route) (next : RuntimeSnapshot)
    (response : ProviderResponse) (elapsedMs : ℕ) : InvocationOutput where
  invocationId := handle
  projectId := state.projectId
  endpoint := route.endpoint.name
  sessionId := invocation.input.sessionId
  agent := route.agent.id
  provider := route.agent.provider
  capability := route.endpoint.capability
  data := response.data
  metadata := response.metadata
  snapshot := next
  trace := invocation.providerTrace ++
    [{ name := "provider.invoke"
       status := "completed"
       durationMs := milliseconds elapsedMs
       attributes := .object [("endpoint", .string invocation.input.endpoint)] }]

def runSection (host : RuntimeHost σ) (handle : InvocationHandle) (invocation : Invocation)
    (piece : InvocationSection) : Option (CoreState σ) :=
  let session := invocation.session
  match piece, invocation.phase with
  | .begin unixTimeMs, .starting =>
    let state := state.announce handle invocation
    match invocation.validate with
    | .error error => some (state.enter handle (invocation.stamp unixTimeMs) (.returned (.error error)))
    | .ok () => some (state.enter handle (invocation.stamp unixTimeMs) .entering)
  | .acquire, .entering =>
    match state.sessionLocks.lookup session with
    | some _ => none
    | none =>
      some ({ state with sessionLocks := state.sessionLocks.insert session handle }.enter handle invocation .resolving)
  | .resolve, .resolving =>
    match state.registry.resolve invocation.input.endpoint with
    | .error error => some (state.conclude handle invocation (.error error))
    | .ok (endpoint, agent, _) => some (state.enter handle invocation (.checking { endpoint, agent }))
  | .check, .checking route =>
    if invocation.cancellation ∈ state.cancelled then some (state.conclude handle invocation (.error .cancelled))
    else some (state.enter handle invocation (.reading route))
  | .read, .reading route =>
    match state.sessions.lookup session with
    | some snapshot => some ((state.record (.loaded handle session)).enter handle invocation (.running route snapshot))
    | none => some (state.enter handle invocation (.loading route))
  | .load, .loading route =>
    match host.store.load state.store state.projectId session with
    | .error error => some (state.conclude handle invocation (.error error))
    | .ok found =>
      some ((state.record (.loaded handle session)).enter handle invocation (.caching route (found.getD .default)))
  | .cache, .caching route snapshot =>
    some ({ state with sessions := state.sessions.insert session snapshot }.enter handle invocation
      (.running route snapshot))
  | .emit event, .running route snapshot =>
    some ({ state with invocations := state.invocations.pushProviderEvent handle event }.enter handle
      (invocation.emit event) (.running route snapshot))
  | .provide outcome, .running route snapshot =>
    match outcome with
    | .responded response => some (state.enter handle invocation (.responded route snapshot response))
    | .failed error => some (state.conclude handle invocation (.error error))
    | .cancelled =>
      if invocation.cancellation ∈ state.cancelled then some (state.conclude handle invocation (.error .cancelled))
      else none
    | .idle =>
      -- the idle deadline cancels the provider
      some ({ state with cancelled := invocation.cancellation :: state.cancelled }.conclude handle invocation
        (.error (.timeout route.endpoint.timeoutMs)))
  | .recheck, .responded route snapshot response =>
    if invocation.cancellation ∈ state.cancelled then some (state.conclude handle invocation (.error .cancelled))
    else some (state.enter handle invocation (.saving route snapshot response))
  | .save, .saving route snapshot response =>
    let next := Invocation.nextSnapshot snapshot response
    match host.store.save state.store state.projectId session next with
    | .error error => some (state.conclude handle invocation (.error error))
    | .ok store =>
      some (({ state with store }.record (.saved handle session next)).enter handle invocation
        (.saved route next response))
  | .insert, .saved route next response =>
    some ({ state with sessions := state.sessions.insert session next }.enter handle invocation
      (.cached route next response))
  | .finish elapsedMs, .cached route next response =>
    some ((state.record (.succeeded handle session)).conclude handle invocation
      (.ok (state.output handle invocation route next response elapsedMs)))
  | .trace elapsedMs, .returned result =>
    some ((state.enqueueTrace host (state.traceRecord handle invocation result elapsedMs)).enter handle invocation
      (.traced result))
  | .publish, .traced result => some ((state.report handle invocation result).enter handle invocation (.ended result))
  | .poisoned, .entering => some (state.enter handle invocation (.returned (.error .internal)))
  | .poisoned, .resolving | .poisoned, .reading _ | .poisoned, .caching _ _ | .poisoned, .saved _ _ _
  | .poisoned, .cached _ _ _ => some (state.conclude handle invocation (.error .internal))
  | .drop, .entering => some (state.enter handle invocation .dropped)
  | .drop, .running _ _ => some ((state.release session).enter handle invocation .dropped)
  | _, _ => none

/-! ## Other calls -/

/-- `start_invoke`.  When the worker's queue is full, the entry is removed again. -/
def startInvoke (input : InvocationInput) (queueFull : Bool) : CoreState σ :=
  let handle := invocationId state.nextInvocation
  let invocation := Invocation.start input ⟨state.tokens⟩ true
  match invocation.validate with
  | .error _ => state
  | .ok () =>
    let state := { state with nextInvocation := state.nextInvocation + 1, tokens := state.tokens + 1 }
    match state.invocations.insert handle invocation.cancellation with
    | .error _ => state
    | .ok invocations =>
      if queueFull then { state with invocations := invocations.remove handle }
      else { state with invocations, calls := state.calls.insert handle invocation }

/-- `invoke_with_cancellation`. -/
def invoke (input : InvocationInput) (cancellation : CancellationToken) : CoreState σ :=
  { state with
    nextInvocation := state.nextInvocation + 1
    calls := state.calls.insert (invocationId state.nextInvocation) (Invocation.start input cancellation false) }

/-- The first section of `cancel_invocation`, which gets the token. -/
def cancelInvocation (handle : InvocationHandle) : CoreState σ :=
  match state.invocations.entries.lookup handle with
  | none => state
  | some entry => { state with cancels := state.cancels ++ [.flagging handle entry.cancellation] }

/-- The part of `restore_snapshot` before its loop. -/
def restoreSnapshot (host : RuntimeHost σ) (bytes : List UInt8) : CoreState σ :=
  match host.snapshots.fromSlice bytes with
  | .error _ => state
  | .ok snapshot =>
    if snapshot.version ≠ snapshotVersion ∨ snapshot.projectId ≠ state.projectId then state
    else { state with restores := state.restores ++ [.saving snapshot.sessions []] }

/-- One round of the loop.  The sessions of a snapshot come in any order. -/
def restoreSession (host : RuntimeHost σ) (call : ℕ) (session : String) : Option (CoreState σ) :=
  match state.restores[call]? with
  | some (.saving sessions saved) =>
    match sessions.lookup session with
    | none => none
    | some snapshot =>
      if session ∈ saved then none
      else
        let result := do
          validateIdentifier "session" session
          host.store.save state.store state.projectId session snapshot
        match result with
        | .error _ => some { state with restores := state.restores.set call .returned }
        | .ok store =>
          some ({ state with store, restores := state.restores.set call (.saving sessions (session :: saved)) }.record
            (.restored session snapshot))
  | _ => none

def replaceSessions (call : ℕ) : Option (CoreState σ) :=
  match state.restores[call]? with
  | some (.saving sessions saved) =>
    if ∀ session ∈ sessions.keys, session ∈ saved then
      some ({ state with sessions, restores := state.restores.set call .returned }.record (.restoreReturned sessions.keys))
    else none
  | _ => none

/-- As `replaceSessions`, with the lock of the cache poisoned. -/
def restorePoisoned (call : ℕ) : Option (CoreState σ) :=
  match state.restores[call]? with
  | some (.saving sessions saved) =>
    if ∀ session ∈ sessions.keys, session ∈ saved then
      some { state with restores := state.restores.set call .returned }
    else none
  | _ => none

/-- The snapshot that `export_snapshot` serializes. -/
def portableSnapshot : PortableProjectSnapshot where
  version := snapshotVersion
  projectId := state.projectId
  sessions := state.sessions

def exportSnapshot (host : RuntimeHost σ) : Except RuntimeError (List UInt8) :=
  match host.snapshots.toVec state.portableSnapshot with
  | .ok bytes => .ok bytes
  | .error message => .error (.snapshot message)

/-- `load_snapshot`, up to what it leaves in the cache. -/
def loadSnapshot (host : RuntimeHost σ) (session : String) : Except RuntimeError RuntimeSnapshot :=
  match state.sessions.lookup session with
  | some snapshot => .ok snapshot
  | none => (host.store.load state.store state.projectId session).map (·.getD .default)

/-- One section of one call.  A call that fails without an effect leaves the state as it is. -/
def step (host : RuntimeHost σ) : CoreAction → Option (CoreState σ)
  | .define operation =>
    match state.toRuntimeCore.define host.manifests operation with
    | .ok core => some { state with toRuntimeCore := core }
    | .error _ => some state
  | .createToken => some { state with tokens := state.tokens + 1 }
  | .cancelToken cancellation =>
    if cancellation.id < state.tokens then some { state with cancelled := cancellation :: state.cancelled } else none
  | .startInvoke input queueFull =>
    -- the counter has 64 bits, and no process issues as many ids
    if state.nextInvocation ≤ u64Max then some (state.startInvoke input queueFull) else none
  | .invoke input cancellation =>
    if state.nextInvocation ≤ u64Max ∧ cancellation.id < state.tokens then some (state.invoke input cancellation)
    else none
  | .run handle piece =>
    (state.calls.lookup handle).bind fun invocation => state.runSection host handle invocation piece
  | .takeInvocation handle => some { state with invocations := (state.invocations.take handle).2 }
  | .drainEvents handle => some { state with invocations := (state.invocations.drainEvents handle).2 }
  | .cancelInvocation handle => some (state.cancelInvocation handle)
  | .flag call =>
    match state.cancels[call]? with
    | some (.flagging handle cancellation) =>
      some { state with
        cancelled := cancellation :: state.cancelled
        cancels := state.cancels.set call (.publishing handle) }
    | _ => none
  | .publishCancelled call =>
    match state.cancels[call]? with
    | some (.publishing handle) =>
      some ({ state with cancels := state.cancels.set call .returned }.updatePoll handle .cancelled none none)
    | _ => none
  | .exportSnapshot => some state
  | .restoreSnapshot bytes => some (state.restoreSnapshot host bytes)
  | .restoreSession call session => state.restoreSession host call session
  | .replaceSessions call => state.replaceSessions call
  | .restorePoisoned call => state.restorePoisoned call
  | .acknowledgeTraces traceIds =>
    match host.store.acknowledgeTraces state.store traceIds with
    | .ok store => some { state with store }
    | .error _ => some state

/-- The runs of a runtime for `projectId` that was opened on a store. -/
def machine (host : RuntimeHost σ) (projectId : String) (initial : σ) : Machine (CoreState σ) CoreAction where
  start state := ∃ core, RuntimeCore.new projectId = .ok core ∧ state = opened core initial
  step state action := state.step host action

end CoreState

/-! ## A runtime for one town -/

def townSnapshot (revision : ℕ) : PortableProjectSnapshot where
  version := 1
  projectId := "town"
  sessions := (∅ : HashMap String RuntimeSnapshot).insert "default" { revision, state := .emptyObject }

def townSnapshotJson (revision : ℕ) : String :=
  "\x7b\"version\":1,\"projectId\":\"town\",\"sessions\":\x7b\"default\":\x7b\"revision\":" ++
  toString revision ++ ",\"state\":\x7b\x7d\x7d\x7d\x7d"

def townEmptySnapshot : PortableProjectSnapshot where
  version := 1
  projectId := "town"
  sessions := ∅

def townEmptyJson : String := "\x7b\"version\":1,\"projectId\":\"town\",\"sessions\":\x7b\x7d\x7d"

def townTexts : List (PortableProjectSnapshot × String) :=
  [(townEmptySnapshot, townEmptyJson), (townSnapshot 1, townSnapshotJson 1), (townSnapshot 5, townSnapshotJson 5)]

def townSnapshots : JsonCodec PortableProjectSnapshot where
  toVec snapshot :=
    match townTexts.find? (fun known => known.1.sessions.entries = snapshot.sessions.entries) with
    | some (_, text) => .ok text.toUTF8.data.toList
    | none => .error "unknown snapshot"
  fromSlice bytes :=
    match townTexts.find? (fun known => known.2.toUTF8.data.toList = bytes) with
    | some (snapshot, _) => .ok snapshot
    | none => .error "unknown text"

def townHost : RuntimeHost MemoryRuntimeStore where
  store := MemoryRuntimeStore.runtimeStore (guideCodec "chat")
  snapshots := townSnapshots
  manifests := guideCodec "chat"

def townRuntime : CoreState MemoryRuntimeStore :=
  .opened { projectId := "town", registry := .empty, manifest := none } .empty

theorem townRuntime_starts : (CoreState.machine townHost "town" .empty).start townRuntime :=
  ⟨_, RuntimeCore.new_ok.mpr ⟨by decide +kernel, rfl⟩, rfl⟩

def townInput : InvocationInput where
  endpoint := "town-guide"
  sessionId := "default"
  data := .json (.string "Where is the north gate?")
  metadata := .null

def townResponse : ProviderResponse where
  data := .json (.string "Past the market.")
  metadata := .null
  state := none

def townSettings : List CoreAction :=
  [.define (.registerProvider "models" ⟨fun capability => capability == "chat"⟩),
    .define (.applyManifest (guideManifest "chat")), .createToken]

/-- The sections of an invocation up to the response of its provider, with an empty cache. -/
def untilResponse (id : ℕ) : List CoreAction :=
  [.begin 1700000000000, .acquire, .resolve, .check, .read, .load, .cache, .provide (.responded townResponse)].map
    (.run (invocationId id))

end Vifu.Runtime
