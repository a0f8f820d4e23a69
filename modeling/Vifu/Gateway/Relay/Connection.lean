import Vifu.Foundation.Machine
import Vifu.Gateway.WireCodec
import Vifu.Gateway.Relay.Errors

/-!
# A connection of the relay

`run_connection` answers the invocations of the server.  Each runs as a task of its own, and the loop of
the connection writes what the tasks have queued, cancels tasks and takes finished ones out of its map.
The machine below has one action for each event of the loop and for each step of a task between two
points where it waits.  An aborted task takes no further step.
-/

namespace Vifu.Gateway

open Foundation
open Vifu.Runtime hiding validateIdentifier

def maxConcurrentCalls : ℕ := 64
def outboundQueueCapacity : ℕ := 128
def maxConcurrentRejectionDeliveries : ℕ := 64

inductive GatewayInvocationTerminal where
  | delivered | providerFailed | timedOut | deliveryFailed | preflightFailed
  deriving DecidableEq

inductive GatewayProviderErrorKind where
  | failed | timedOut
  deriving DecidableEq

structure GatewayProviderError where
  kind : GatewayProviderErrorKind
  message : String
  deriving DecidableEq

abbrev ProviderResult := Except GatewayProviderError Value

/-! ## Tasks -/

/-- What `finish` is called with. -/
structure PendingReply where
  command : AgentGatewayCommand
  terminal : GatewayInvocationTerminal
  error : Option String
  deriving DecidableEq

/-- How far the task of an invocation has come. -/
inductive CallPhase where
  /-- The provider has been called. -/
  | calling
  /-- The reply waits for a place in the queue. -/
  | replying (reply : PendingReply)
  /-- The reply is in the queue. -/
  | awaiting (reply : PendingReply)
  /-- The reply has been written, or lost. -/
  | reporting (reply : PendingReply) (delivered : Bool)
  /-- The telemetry is uploaded. -/
  | uploading
  | finished
  | aborted
  deriving DecidableEq

/-- Why an invocation has its task: a provider serves it, there is none, there are too many calls, or
there are also too many rejections and it has no task at all. -/
inductive CallKind where
  | serving | unavailable | rejecting | shed
  deriving DecidableEq

inductive Observation where
  | started
  | finished (terminal : GatewayInvocationTerminal) (error : Option String)
  | cancelled
  deriving DecidableEq

/-- One invocation, with what was observed of it and the replies that were written, in their order. -/
structure Call where
  requestId : Uuid
  channelId : ℕ
  kind : CallKind
  activityEnabled : Bool
  cancelled : Bool
  phase : CallPhase
  observed : List Observation
  replies : List AgentGatewayCommand
  deriving DecidableEq

/-- An `OutboundCommand` and the invocation that it belongs to. -/
structure Outbound where
  command : AgentGatewayCommand
  call : ℕ
  tracked : Bool
  deriving DecidableEq

def agentGatewayError (requestId : Uuid) (channelId : ℕ) (code message : String) : AgentGatewayCommand :=
  .error (some requestId) (some channelId) code (sanitizeError message)

def AgentGatewayCommand.isReply : AgentGatewayCommand → Bool
  | .result _ _ _ | .error _ _ _ _ => true
  | _ => false

def providerReply (requestId : Uuid) (channelId : ℕ) : ProviderResult → PendingReply
  | .ok output => { command := .result requestId channelId output, terminal := .delivered, error := none }
  | .error error =>
    { command := agentGatewayError requestId channelId "PROVIDER_ERROR" error.message
      terminal :=
        match error.kind with
        | .failed => .providerFailed
        | .timedOut => .timedOut
      error := some (safeObserverError error.message) }

/-- The reply of an invocation that fails before a provider is called. -/
def preflightReply (requestId : Uuid) (channelId : ℕ) (code error : String) : PendingReply where
  command := agentGatewayError requestId channelId code error
  terminal := .preflightFailed
  error := some error

def backpressureReply (requestId : Uuid) (channelId : ℕ) : PendingReply :=
  preflightReply requestId channelId "BACKPRESSURE" "The agent gateway has reached its concurrent call limit."

def unavailableReply (requestId : Uuid) (channelId : ℕ) : PendingReply :=
  preflightReply requestId channelId "PROVIDER_NOT_AVAILABLE"
    "The requested provider is not connected to this Agent Gateway."

/-- `finish` reports a result that was lost as a failed delivery. -/
def PendingReply.observation (reply : PendingReply) (delivered : Bool) : Observation :=
  if reply.terminal = .delivered ∧ delivered = false then
    .finished .deliveryFailed (some "Agent Gateway result could not be delivered")
  else .finished reply.terminal reply.error

/-- `JoinHandle::is_finished`. -/
def CallPhase.over : CallPhase → Bool
  | .finished | .aborted => true
  | .calling | .replying _ | .awaiting _ | .reporting _ _ | .uploading => false

/-- A task that waits for its message goes on when it learns whether it was written. -/
def CallPhase.resolve (tracked written : Bool) : CallPhase → CallPhase
  | .awaiting reply => if tracked then .reporting reply written else .awaiting reply
  | phase => phase

theorem CallPhase.resolve_cases (tracked written : Bool) (phase : CallPhase) :
    (∃ reply, tracked = true ∧ phase = .awaiting reply ∧ phase.resolve tracked written = .reporting reply written) ∨
      (tracked = true → ∀ reply, phase ≠ .awaiting reply) ∧ phase.resolve tracked written = phase := by
  cases phase with
  | awaiting reply =>
    cases tracked with
    | true => exact .inl ⟨reply, rfl, rfl, rfl⟩
    | false =>
      refine .inr ⟨?_, rfl⟩
      intro isTracked
      cases isTracked
  | calling | replying | reporting | uploading | finished | aborted =>
    refine .inr ⟨?_, rfl⟩
    intro _ reply awaiting
    cases awaiting

namespace Call

/-- The permit of an invocation is dropped before its telemetry is uploaded. -/
def holdsPermit (call : Call) : Bool :=
  match call.kind, call.phase with
  | .serving, .calling | .serving, .replying _ | .serving, .awaiting _ | .serving, .reporting _ _
  | .unavailable, .calling | .unavailable, .replying _ | .unavailable, .awaiting _ | .unavailable, .reporting _ _ => true
  | _, _ => false

def holdsSlot (call : Call) : Bool := call.kind == .rejecting && !call.phase.over

def abort (call : Call) : Call := if call.phase.over then call else { call with phase := .aborted }

def observe (call : Call) (observation : Observation) : Call := { call with observed := call.observed ++ [observation] }

def complete (result : ProviderResult) (call : Call) : Option Call :=
  match call.phase with
  | .calling =>
    if call.cancelled then none
    else some { call with phase := .replying (providerReply call.requestId call.channelId result) }
  | _ => none

/-- `finish_cancelled`. -/
def stop (call : Call) : Option Call :=
  match call.phase with
  | .calling => if call.cancelled then some { call with phase := .uploading } else none
  | _ => none

def report (call : Call) : Option Call :=
  match call.phase with
  | .reporting reply delivered => some { call.observe (reply.observation delivered) with phase := .uploading }
  | _ => none

def finish (call : Call) : Option Call :=
  match call.phase with
  | .uploading => some { call with phase := .finished }
  | _ => none

/-- The task learns whether a message of it was written. -/
def resolve (message : Outbound) (written : Bool) (call : Call) : Call :=
  { call with
    phase := call.phase.resolve message.tracked written
    replies := if written && message.command.isReply then call.replies ++ [message.command] else call.replies }

end Call

/-! ## The connection -/

inductive Outcome where
  | shutdown | disconnected | failed
  deriving DecidableEq

/-- Between the end of the loop and the return, the loop's `break` waits for the cancelled tasks. -/
inductive Stage where
  | connecting
  | looping
  | closing (outcome : Outcome)
  | returned (outcome : Outcome)
  deriving DecidableEq

/-- All invocations that were started, and the state of the loop.  The map holds their places. -/
structure Connection where
  stage : Stage
  all : List Call
  calls : HashMap Uuid ℕ
  queue : List Outbound
  activityReady : Bool

/-- What the loop gets from outside while it handles a command: the wall clock, whether the provider is
connected, and whether the socket takes an answer. -/
structure Arrival where
  unixTimeMs : Except String ℕ
  provider : Bool
  sent : Bool

/-- The events of the loop.  A telemetry event or an expiry sends commands of its own. -/
inductive LoopEvent where
  | shutdown
  | expiry (sent : Bool)
  | outbound (sent : Bool)
  | telemetry (sent : Bool)
  | incoming (received : Except String AgentGatewayCommand) (arrival : Arrival)

inductive ConnectionAction where
  | accept
  | refuse
  | loop (event : LoopEvent)
  | activity (call : ℕ)
  | complete (call : ℕ) (result : ProviderResult)
  | stop (call : ℕ)
  | enqueue (call : ℕ)
  | undelivered (call : ℕ)
  | report (call : ℕ)
  | finish (call : ℕ)
  | close

namespace Connection

def new : Connection where
  stage := .connecting
  all := []
  calls := ∅
  queue := []
  activityReady := false

variable (state : Connection)

def permits : ℕ := state.all.countP Call.holdsPermit

def slots : ℕ := state.all.countP Call.holdsSlot

/-- `try_send`, which gives a message up when the queue is full. -/
def trySend (message : Outbound) : Connection :=
  if state.queue.length < outboundQueueCapacity then { state with queue := state.queue ++ [message] } else state

def spawn (call : Call) : Connection :=
  { state with all := state.all ++ [call], calls := state.calls.insert call.requestId state.all.length }

def startedCall (requestId : Uuid) (channelId : ℕ) (kind : CallKind) (phase : CallPhase) : Call where
  requestId := requestId
  channelId := channelId
  kind := kind
  activityEnabled := state.activityReady
  cancelled := false
  phase := phase
  observed := [.started]
  replies := []

def accepted (requestId : Uuid) (channelId : ℕ) (provider : Bool) : Call :=
  if state.permits < maxConcurrentCalls then
    if provider then state.startedCall requestId channelId .serving .calling
    else state.startedCall requestId channelId .unavailable (.replying (unavailableReply requestId channelId))
  else state.startedCall requestId channelId .rejecting (.replying (backpressureReply requestId channelId))

def admits : Bool := state.permits < maxConcurrentCalls || state.slots < maxConcurrentRejectionDeliveries

/-- `finish_shed`. -/
def shed (requestId : Uuid) (channelId : ℕ) : Connection :=
  let reply := backpressureReply requestId channelId
  { state with
    all := state.all ++ [(state.startedCall requestId channelId .shed .finished).observe (reply.observation true)]
  }.trySend { command := reply.command, call := state.all.length, tracked := false }

def invoke (requestId : Uuid) (channelId : ℕ) (provider : Bool) : Connection :=
  match state.calls.lookup requestId with
  | some call =>
    state.trySend
      { command := .error (some requestId) (some channelId) "DUPLICATE_REQUEST" "The request id is already running."
        call, tracked := false }
  | none =>
    if state.admits then state.spawn (state.accepted requestId channelId provider)
    else state.shed requestId channelId

/-- A call with a provider is asked to stop, another one is aborted and taken out of the map. -/
def cancel (requestId : Uuid) : Connection :=
  match state.calls.lookup requestId with
  | none => state
  | some index =>
    match state.all[index]? with
    | none => state
    | some call =>
      if call.kind = .serving then
        if call.cancelled then state
        else { state with all := state.all.set index { call.observe .cancelled with cancelled := true } }
      else
        { state with
          all := state.all.set index (call.abort.observe .cancelled)
          calls := state.calls.erase requestId }

/-! ## Events of the loop -/

section

variable (floats : FloatText) (parser : JsonParser) (sessionId : Uuid)

/-- `send_command` succeeds. -/
def writes (command : AgentGatewayCommand) (sent : Bool) : Bool :=
  sent && (encodeCommand floats parser command).isOk

def commandEnds (arrival : Arrival) : AgentGatewayCommand → Option Outcome
  | .invoke requestId _ =>
    -- the wall clock is read for a new invocation only
    match state.calls.lookup requestId, arrival.unixTimeMs with
    | none, .error _ => some .failed
    | _, _ => none
  | .heartbeat received =>
    if received = sessionId ∧ writes floats parser (.heartbeatAck sessionId) arrival.sent = true then none else some .failed
  | .error none _ code _ => if code = "SESSION_REPLACED" ∨ code = "CREDENTIAL_REVOKED" then some .disconnected else some .failed
  | .cancel _ _ | .applicationFeedback _ | .runtimeConfigChanged _ | .runtimeMonitoringReady | .runtimeHostMetricsReady
  | .invocationActivityReady => none
  | .challenge _ _ _ | .hello _ | .welcome _ | .pairingRequired _ | .result _ _ _ | .error (some _) _ _ _
  | .invocationActivity _ _ | .heartbeatAck _ | .runtimeTelemetry _ => some .failed

def ends : LoopEvent → Option Outcome
  | .shutdown => some .shutdown
  | .expiry sent | .telemetry sent => if sent then none else some .failed
  | .outbound sent =>
    match state.queue with
    | [] => none
    | message :: _ => if writes floats parser message.command sent then none else some .failed
  | .incoming (.error message) _ => if message = "server disconnected" then some .disconnected else some .failed
  | .incoming (.ok command) arrival => state.commandEnds floats parser sessionId arrival command

/-- What the loop does with a command that does not end the connection. -/
def handleCommand (arrival : Arrival) : AgentGatewayCommand → Connection
  | .invoke requestId invoke => state.invoke requestId invoke.channelId arrival.provider
  | .cancel requestId _ => state.cancel requestId
  | .invocationActivityReady => { state with activityReady := true }
  | _ => state

/-- What the loop does before it goes on or ends. -/
def handle (event : LoopEvent) : Connection :=
  match event with
  | .outbound sent =>
    match state.queue with
    | [] => state
    | message :: queue =>
      { state with all := state.all.modify message.call (Call.resolve message (writes floats parser message.command sent)), queue }
  | .incoming (.ok command) arrival =>
    match state.commandEnds floats parser sessionId arrival command with
    | none => state.handleCommand arrival command
    | some _ => state
  | .shutdown | .expiry _ | .telemetry _ | .incoming (.error _) _ => state

/-- The event can occur: the queue has a message, and a command was checked when it was decoded. -/
def enabled : LoopEvent → Bool
  | .outbound _ => !state.queue.isEmpty
  | .incoming (.ok command) _ => (validateCommand floats parser command).isOk
  | .shutdown | .expiry _ | .telemetry _ | .incoming (.error _) _ => true

end

def isFinished (index : ℕ) : Bool := state.all[index]?.all fun call => call.phase.over

/-- `reap_finished`. -/
def reap : Connection := { state with calls := retain (fun _ index => !state.isFinished index) state.calls }

def active : List ℕ := state.calls.entries.map Sigma.snd

/-- The loop ends with `break`: tasks with a provider are cancelled, the others aborted. -/
def stopCalls : List Call :=
  state.all.mapIdx fun index call =>
    if index ∈ state.active then if call.kind = .serving then { call with cancelled := true } else call.abort
    else call

def abortCalls : List Call :=
  state.all.mapIdx fun index call => if index ∈ state.active then call.abort else call

/-- An error returns at once, which drops the handles and the queue. -/
def leave : Outcome → Connection
  | .failed => { state with stage := .returned .failed, calls := ∅, queue := [] }
  | outcome => { state with stage := .closing outcome, all := state.stopCalls }

def withCall (index : ℕ) (change : Call → Option Call) : Option Connection :=
  state.all[index]?.bind fun call => (change call).map fun changed => { state with all := state.all.set index changed }

def receives : Bool :=
  match state.stage with
  | .returned _ => false
  | .connecting | .looping | .closing _ => true

/-- The event sink of an invocation reports activity.  It may do so rarely. -/
def activity (index : ℕ) : Option Connection :=
  match state.all[index]? with
  | none => none
  | some call =>
    if call.kind = .serving ∧ call.cancelled = false ∧ call.activityEnabled = true ∧ state.receives = true then
      some (state.trySend
        { command := .invocationActivity call.requestId call.channelId, call := index, tracked := false })
    else none

/-- A reply goes into the queue, or is lost when there is no receiver any more. -/
def enqueue (index : ℕ) : Option Connection :=
  match state.all[index]? with
  | none => none
  | some call =>
    match call.phase with
    | .replying reply =>
      if state.receives then
        if state.queue.length < outboundQueueCapacity then
          some { state with
            all := state.all.set index { call with phase := .awaiting reply }
            queue := state.queue ++ [{ command := reply.command, call := index, tracked := true }] }
        else none
      else some { state with all := state.all.set index { call with phase := .reporting reply false } }
    | _ => none

def undelivered (call : Call) : Option Call :=
  match call.phase with
  | .awaiting reply => some { call with phase := .reporting reply false }
  | _ => none

def step (floats : FloatText) (parser : JsonParser) (sessionId : Uuid) : ConnectionAction → Option Connection
  | .accept => if state.stage = .connecting then some { state with stage := .looping } else none
  | .refuse => if state.stage = .connecting then some { state with stage := .returned .failed } else none
  | .loop event =>
    if state.stage = .looping ∧ state.enabled floats parser event = true then
      let handled := state.handle floats parser sessionId event
      match state.ends floats parser sessionId event with
      | none => some handled.reap
      | some outcome => some (handled.leave outcome)
    else none
  | .activity call => state.activity call
  | .complete call result => state.withCall call (Call.complete result)
  | .stop call => state.withCall call Call.stop
  | .enqueue call => state.enqueue call
  | .undelivered call => if state.receives then none else state.withCall call undelivered
  | .report call => state.withCall call Call.report
  | .finish call => state.withCall call Call.finish
  | .close =>
    match state.stage with
    | .closing outcome => some { state with stage := .returned outcome, all := state.abortCalls, calls := ∅, queue := [] }
    | .connecting | .looping | .returned _ => none

end Connection

/-- The runs of `run_connection` for the session of the welcome. -/
def connectionMachine (floats : FloatText) (parser : JsonParser) (sessionId : Uuid) :
    Machine Connection ConnectionAction where
  start state := state = .new
  step state action := state.step floats parser sessionId action

/-! ## What a step can do -/

namespace Connection

variable {floats : FloatText} {parser : JsonParser} {sessionId : Uuid} {state next : Connection} {index : ℕ}

/-- What the loop does with an event before it goes on or ends. -/
inductive Handled (floats : FloatText) (parser : JsonParser) (state : Connection) : LoopEvent → Connection → Prop where
  | idle (event : LoopEvent) : Handled floats parser state event state
  | written (message : Outbound) (queue : List Outbound) (sent : Bool) (isQueue : state.queue = message :: queue) :
    Handled floats parser state (.outbound sent)
      { state with
        all := state.all.modify message.call (Call.resolve message (writes floats parser message.command sent))
        queue }
  | duplicate (requestId : Uuid) (invoke : Invoke) (arrival : Arrival) (index : ℕ)
    (running : state.calls.lookup requestId = some index) :
    Handled floats parser state (.incoming (.ok (.invoke requestId invoke)) arrival)
      (state.trySend
        { command := .error (some requestId) (some invoke.channelId) "DUPLICATE_REQUEST"
            "The request id is already running."
          call := index, tracked := false })
  | spawned (requestId : Uuid) (invoke : Invoke) (arrival : Arrival) (fresh : state.calls.lookup requestId = none)
    (admitted : state.admits = true) :
    Handled floats parser state (.incoming (.ok (.invoke requestId invoke)) arrival)
      (state.spawn (state.accepted requestId invoke.channelId arrival.provider))
  | shed (requestId : Uuid) (invoke : Invoke) (arrival : Arrival) (fresh : state.calls.lookup requestId = none)
    (refused : state.admits = false) :
    Handled floats parser state (.incoming (.ok (.invoke requestId invoke)) arrival)
      (state.shed requestId invoke.channelId)
  | cancelled (requestId : Uuid) (channelId : ℕ) (arrival : Arrival) (index : ℕ) (call : Call)
    (running : state.calls.lookup requestId = some index) (stored : state.all[index]? = some call)
    (serving : call.kind = .serving) (live : call.cancelled = false) :
    Handled floats parser state (.incoming (.ok (.cancel requestId channelId)) arrival)
      { state with all := state.all.set index { call.observe .cancelled with cancelled := true } }
  | aborted (requestId : Uuid) (channelId : ℕ) (arrival : Arrival) (index : ℕ) (call : Call)
    (running : state.calls.lookup requestId = some index) (stored : state.all[index]? = some call)
    (serving : call.kind ≠ .serving) :
    Handled floats parser state (.incoming (.ok (.cancel requestId channelId)) arrival)
      { state with
        all := state.all.set index (call.abort.observe .cancelled)
        calls := state.calls.erase requestId }
  | ready (arrival : Arrival) :
    Handled floats parser state (.incoming (.ok .invocationActivityReady) arrival) { state with activityReady := true }

theorem accepted_cases (requestId : Uuid) (channelId : ℕ) (provider : Bool) :
    ∃ kind phase, state.accepted requestId channelId provider = state.startedCall requestId channelId kind phase ∧
      (kind = .serving ∧ phase = .calling ∨
        (kind = .unavailable ∧ phase = .replying (unavailableReply requestId channelId)) ∨
        (kind = .rejecting ∧ phase = .replying (backpressureReply requestId channelId))) := by
  rw [accepted]
  split
  · split
    · exact ⟨_, _, rfl, .inl ⟨rfl, rfl⟩⟩
    · exact ⟨_, _, rfl, .inr (.inl ⟨rfl, rfl⟩)⟩
  · exact ⟨_, _, rfl, .inr (.inr ⟨rfl, rfl⟩)⟩

theorem handled_cancel (requestId : Uuid) (channelId : ℕ) (arrival : Arrival) :
    Handled floats parser state (.incoming (.ok (.cancel requestId channelId)) arrival) (state.cancel requestId) := by
  cases running : state.calls.lookup requestId with
  | none =>
    simp only [cancel, running]
    exact .idle _
  | some index =>
    cases stored : state.all[index]? with
    | none =>
      simp only [cancel, running, stored]
      exact .idle _
    | some call =>
      simp only [cancel, running, stored]
      split
      · next serving =>
        split
        · exact .idle _
        · next live => exact .cancelled requestId channelId arrival index call running stored serving (by simpa using live)
      · next serving => exact .aborted requestId channelId arrival index call running stored serving

theorem handled_invoke (requestId : Uuid) (invoke : Invoke) (arrival : Arrival) :
    Handled floats parser state (.incoming (.ok (.invoke requestId invoke)) arrival)
      (state.invoke requestId invoke.channelId arrival.provider) := by
  cases running : state.calls.lookup requestId with
  | some index =>
    simp only [Connection.invoke, running]
    exact .duplicate requestId invoke arrival index running
  | none =>
    simp only [Connection.invoke, running]
    split
    · next admitted => exact .spawned requestId invoke arrival running admitted
    · next refused => exact .shed requestId invoke arrival running (by simpa using refused)

theorem handle_handled (event : LoopEvent) :
    Handled floats parser state event (state.handle floats parser sessionId event) := by
  cases event with
  | outbound sent =>
    cases isQueue : state.queue with
    | nil =>
      simp only [handle, isQueue]
      exact .idle _
    | cons message queue =>
      simp only [handle, isQueue]
      exact .written message queue sent isQueue
  | incoming received arrival =>
    cases received with
    | error message => exact .idle _
    | ok command =>
      cases isEnd : state.commandEnds floats parser sessionId arrival command with
      | some outcome =>
        simp only [handle, isEnd]
        exact .idle _
      | none =>
        simp only [handle, isEnd]
        cases command with
        | invoke requestId invoke => exact handled_invoke requestId invoke arrival
        | cancel requestId channelId => exact handled_cancel requestId channelId arrival
        | invocationActivityReady => exact .ready arrival
        | _ => exact .idle _
  | shutdown | expiry | telemetry => exact .idle _

/-- What the loop does with an event before it ends: a message that is not written is lost. -/
inductive Left (state : Connection) : LoopEvent → Outcome → Connection → Prop where
  | idle (event : LoopEvent) (outcome : Outcome) : Left state event outcome state
  | lost (message : Outbound) (queue : List Outbound) (sent : Bool) (isQueue : state.queue = message :: queue) :
    Left state (.outbound sent) .failed { state with all := state.all.modify message.call (Call.resolve message false), queue }

theorem handle_left {event : LoopEvent} {outcome : Outcome} (ends : state.ends floats parser sessionId event = some outcome) :
    Left state event outcome (state.handle floats parser sessionId event) := by
  cases event with
  | outbound sent =>
    cases isQueue : state.queue with
    | nil => simp [Connection.ends, isQueue] at ends
    | cons message queue =>
      simp only [Connection.ends, isQueue, Option.ite_none_left_eq_some, Bool.not_eq_true, Option.some.injEq] at ends
      obtain ⟨unwritten, rfl⟩ := ends
      simp only [handle, isQueue, unwritten]
      exact .lost message queue sent isQueue
  | incoming received arrival =>
    cases received with
    | error message => exact .idle _ _
    | ok command =>
      have isEnd : state.commandEnds floats parser sessionId arrival command = some outcome := ends
      simp only [handle, isEnd]
      exact .idle _ _
  | shutdown | expiry | telemetry => exact .idle _ _

inductive TaskStep (state : Connection) : ConnectionAction → Connection → Prop where
  | activity (index : ℕ) (call : Call) (stored : state.all[index]? = some call) :
    TaskStep state (.activity index) (state.trySend
      { command := .invocationActivity call.requestId call.channelId, call := index, tracked := false })
  | complete (index : ℕ) (call : Call) (result : ProviderResult) (stored : state.all[index]? = some call)
    (calling : call.phase = .calling) (live : call.cancelled = false) :
    TaskStep state (.complete index result) { state with
      all := state.all.set index { call with phase := .replying (providerReply call.requestId call.channelId result) } }
  | stop (index : ℕ) (call : Call) (stored : state.all[index]? = some call) (calling : call.phase = .calling)
    (isCancelled : call.cancelled = true) :
    TaskStep state (.stop index) { state with all := state.all.set index { call with phase := .uploading } }
  | enqueue (index : ℕ) (call : Call) (reply : PendingReply) (stored : state.all[index]? = some call)
    (replying : call.phase = .replying reply) (receives : state.receives = true) :
    TaskStep state (.enqueue index) { state with
      all := state.all.set index { call with phase := .awaiting reply }
      queue := state.queue ++ [{ command := reply.command, call := index, tracked := true }] }
  | lose (action : ConnectionAction) (index : ℕ) (call : Call) (reply : PendingReply)
    (stored : state.all[index]? = some call) (pending : call.phase = .replying reply ∨ call.phase = .awaiting reply)
    (gone : state.receives = false) :
    TaskStep state action { state with all := state.all.set index { call with phase := .reporting reply false } }
  | report (index : ℕ) (call : Call) (reply : PendingReply) (delivered : Bool) (stored : state.all[index]? = some call)
    (reporting : call.phase = .reporting reply delivered) :
    TaskStep state (.report index) { state with
      all := state.all.set index { call.observe (reply.observation delivered) with phase := .uploading } }
  | finish (index : ℕ) (call : Call) (stored : state.all[index]? = some call) (uploading : call.phase = .uploading) :
    TaskStep state (.finish index) { state with all := state.all.set index { call with phase := .finished } }

inductive Step (floats : FloatText) (parser : JsonParser) (sessionId : Uuid) (state : Connection) :
    ConnectionAction → Connection → Prop where
  | accept (connecting : state.stage = .connecting) :
    Step floats parser sessionId state .accept { state with stage := .looping }
  | refuse (connecting : state.stage = .connecting) :
    Step floats parser sessionId state .refuse { state with stage := .returned .failed }
  | goOn (event : LoopEvent) (handled : Connection) (looping : state.stage = .looping)
    (enabled : state.enabled floats parser event = true) (effect : Handled floats parser state event handled)
    (goesOn : state.ends floats parser sessionId event = none) :
    Step floats parser sessionId state (.loop event) handled.reap
  | leave (event : LoopEvent) (handled : Connection) (outcome : Outcome) (looping : state.stage = .looping)
    (enabled : state.enabled floats parser event = true) (effect : Left state event outcome handled)
    (ends : state.ends floats parser sessionId event = some outcome) :
    Step floats parser sessionId state (.loop event) (handled.leave outcome)
  | task (action : ConnectionAction) (target : Connection) (taken : TaskStep state action target) :
    Step floats parser sessionId state action target
  | close (outcome : Outcome) (closing : state.stage = .closing outcome) :
    Step floats parser sessionId state .close
      { state with stage := .returned outcome, all := state.abortCalls, calls := ∅, queue := [] }

theorem withCall_some {change : Call → Option Call} (taken : state.withCall index change = some next) :
    ∃ call changed, state.all[index]? = some call ∧ change call = some changed ∧
      next = { state with all := state.all.set index changed } := by
  obtain ⟨call, stored, rest⟩ := Option.bind_eq_some_iff.mp taken
  obtain ⟨changed, isChanged, same⟩ := Option.map_eq_some_iff.mp rest
  exact ⟨call, changed, stored, isChanged, same.symm⟩

theorem activity_task (taken : state.activity index = some next) : TaskStep state (.activity index) next := by
  rw [activity] at taken
  split at taken
  · cases taken
  · next call stored =>
    split at taken
    · cases taken
      exact .activity index call stored
    · cases taken

theorem enqueue_task (taken : state.enqueue index = some next) : TaskStep state (.enqueue index) next := by
  rw [enqueue] at taken
  split at taken
  · cases taken
  · next call stored =>
    split at taken
    · next reply replying =>
      split at taken
      · next receives =>
        split at taken
        · cases taken
          exact .enqueue index call reply stored replying receives
        · cases taken
      · next gone =>
        cases taken
        exact .lose _ index call reply stored (.inl replying) (by simpa using gone)
    · cases taken

theorem step_step {action : ConnectionAction} (stepped : state.step floats parser sessionId action = some next) :
    Step floats parser sessionId state action next := by
  cases action with
  | accept =>
    simp only [step, Option.ite_none_right_eq_some, Option.some.injEq] at stepped
    obtain ⟨connecting, rfl⟩ := stepped
    exact .accept connecting
  | refuse =>
    simp only [step, Option.ite_none_right_eq_some, Option.some.injEq] at stepped
    obtain ⟨connecting, rfl⟩ := stepped
    exact .refuse connecting
  | loop event =>
    simp only [step, Option.ite_none_right_eq_some] at stepped
    obtain ⟨⟨looping, enabled⟩, rest⟩ := stepped
    split at rest
    · next goesOn =>
      cases rest
      exact .goOn event _ looping enabled (handle_handled event) goesOn
    · next outcome ends =>
      cases rest
      exact .leave event _ outcome looping enabled (handle_left ends) ends
  | activity index => exact .task _ _ (activity_task stepped)
  | complete index result =>
    obtain ⟨call, changed, stored, isChanged, rfl⟩ := withCall_some stepped
    simp only [Call.complete] at isChanged
    split at isChanged
    · next calling =>
      split at isChanged
      · cases isChanged
      · next live =>
        cases isChanged
        exact .task _ _ (.complete index call result stored calling (by simpa using live))
    · cases isChanged
  | stop index =>
    obtain ⟨call, changed, stored, isChanged, rfl⟩ := withCall_some stepped
    simp only [Call.stop] at isChanged
    split at isChanged
    · next calling =>
      split at isChanged
      · next isCancelled =>
        cases isChanged
        exact .task _ _ (.stop index call stored calling isCancelled)
      · cases isChanged
    · cases isChanged
  | enqueue index => exact .task _ _ (enqueue_task stepped)
  | undelivered index =>
    simp only [step] at stepped
    split at stepped
    · cases stepped
    · next gone =>
      obtain ⟨call, changed, stored, isChanged, rfl⟩ := withCall_some stepped
      simp only [undelivered] at isChanged
      split at isChanged
      · next reply awaiting =>
        cases isChanged
        exact .task _ _ (.lose _ index call reply stored (.inr awaiting) (by simpa using gone))
      · cases isChanged
  | report index =>
    obtain ⟨call, changed, stored, isChanged, rfl⟩ := withCall_some stepped
    simp only [Call.report] at isChanged
    split at isChanged
    · next reply delivered reporting =>
      cases isChanged
      exact .task _ _ (.report index call reply delivered stored reporting)
    · cases isChanged
  | finish index =>
    obtain ⟨call, changed, stored, isChanged, rfl⟩ := withCall_some stepped
    simp only [Call.finish] at isChanged
    split at isChanged
    · next uploading =>
      cases isChanged
      exact .task _ _ (.finish index call stored uploading)
    · cases isChanged
  | close =>
    simp only [step] at stepped
    split at stepped
    · next outcome closing =>
      cases stepped
      exact .close outcome closing
    all_goals cases stepped

end Connection

def otherId : Uuid := ⟨"0190f2c4-7b1e-7c3a-9d52-1f6a0e8b4c38", by decide⟩

def townInvoke : Invoke where
  channelId := 7
  endpointId := exampleId
  profileId := exampleId
  bindingId := exampleId
  agentId := "town-guide"
  binding := .null
  input := .string "Where is the harbour?"
  timeoutMs := 30000

/-- The provider of the town is connected, and the socket takes what is written. -/
def townArrival : Arrival := { unixTimeMs := .ok 1700000000000, provider := true, sent := true }

def townReceives (command : AgentGatewayCommand) : ConnectionAction := .loop (.incoming (.ok command) townArrival)

def townConnection : Machine Connection ConnectionAction :=
  connectionMachine (fun _ => "0.5") emptyObjectParser exampleId

end Vifu.Gateway
