import Mathlib.Data.List.Sort
import Vifu.Foundation.Machine
import Vifu.Runtime.Invocation.Registry

/-!
# The runtime bridge

`RuntimeBridge::drain_events` visits the active invocations one after the other.  For each
it locks the registry to drain the queued events, again to poll the invocation, and a third
time to take an invocation that has ended.  The machine below has one action for each of
these sections, so that worker threads can run between any two of them, and any number of
`drain_events` calls can be in progress at once.
-/

namespace Vifu.Runtime

open Foundation

structure RuntimeBridgeInvocationEvent where
  handle : String
  event : InvocationEvent
  output : Option InvocationOutput
  deriving DecidableEq

structure EventFrame where
  event : String
  payload : RuntimeBridgeInvocationEvent
  deriving DecidableEq

def invocationEventName : InvocationEventKind → String
  | .started => "runtime.invocation.started"
  | .outputDelta => "runtime.invocation.outputDelta"
  | .completed => "runtime.invocation.completed"
  | .failed => "runtime.invocation.failed"
  | .cancelled => "runtime.invocation.cancelled"

def eventFrame (handle : String) (output : Option InvocationOutput) (event : InvocationEvent) :
    EventFrame :=
  { event := invocationEventName event.kind
    payload := { handle, event, output := if event.kind = .completed then output else none } }

/-- The section that a call runs next for the first of its handles. -/
inductive DrainPhase where
  | drain
  | poll (events : List InvocationEvent)
  | take
  deriving DecidableEq

structure DrainCall where
  /-- The handles not yet done with, read from `active_invocations` when the call began. -/
  handles : List String
  phase : DrainPhase
  frames : List EventFrame
  completed : List String
  deriving DecidableEq

namespace DrainCall

def start (handles : List String) : DrainCall :=
  { handles, phase := .drain, frames := [], completed := [] }

def advance (call : DrainCall) : DrainCall := { call with handles := call.handles.tail, phase := .drain }

/-- Goes on to the next handle, having seen the end of this one. -/
def complete (call : DrainCall) (handle : String) : DrainCall :=
  { call.advance with completed := call.completed ++ [handle] }

/-- The next section of a call on the registry.  An error ends the call: the frames it has
    collected are dropped. -/
def runSection (call : DrainCall) (handle : String) (registry : InvocationRegistry) :
    Except RuntimeError DrainCall × InvocationRegistry :=
  match call.phase with
  | .drain =>
    match registry.drainEvents handle with
    | (.ok events, registry) => (.ok { call with phase := .poll events }, registry)
    | (.error (.invocationNotFound _), registry) => (.ok (call.complete handle), registry)
    | (.error error, registry) => (.error error, registry)
  | .poll events =>
    match registry.poll handle with
    | .error error => (.error error, registry)
    | .ok poll =>
      let call := { call with frames := call.frames ++ events.map (eventFrame handle poll.output) }
      if isTerminalStatus poll.status then
        (.ok { call with phase := .take }, registry)
      else
        (.ok call.advance, registry)
  | .take =>
    match registry.take handle with
    | (.error error, registry) => (.error error, registry)
    | (.ok _, registry) => (.ok (call.complete handle), registry)

def framed (call : DrainCall) (handle : String) : List InvocationEvent :=
  (call.frames.filter (·.payload.handle = handle)).map (·.payload.event)

end DrainCall

/-- What an invocation's queue has been given, and whether the queue ever discarded an
    event because it held 256 already. -/
structure EventLog where
  recorded : List InvocationEvent
  overflowed : Bool

namespace EventLog

def empty : EventLog := { recorded := [], overflowed := false }

/-- Follows `pushEvent`. -/
def record (log : EventLog) (entry : InvocationEntry) (kind : InvocationEventKind)
    (data : Option InvocationData) (error : Option String) : EventLog :=
  match entry.coalesced kind data with
  | some merged => { log with recorded := log.recorded.dropLast ++ [merged] }
  | none =>
    { recorded := log.recorded ++ [entry.nextEvent kind data error]
      overflowed := log.overflowed || decide (maxRetainedInvocationEvents ≤ entry.events.length) }

/-- Follows `InvocationEntry.announce`. -/
def announce (log : EventLog) (entry : InvocationEntry) : EventLog :=
  match entry.statusEvent with
  | some (kind, data, error) => log.record entry kind data error
  | none => log

/-- Follows `InvocationRegistry.update`. -/
def update (log : EventLog) (registry : InvocationRegistry) (handle : InvocationHandle)
    (status : InvocationStatus) (output : Option InvocationOutput) (error : Option String) : EventLog :=
  match registry.entries.lookup handle with
  | none => log
  | some entry => if entry.terminal then log else log.announce (entry.setPoll status output error)

/-- Follows `InvocationRegistry.pushProviderEvent`. -/
def providerEvent (log : EventLog) (registry : InvocationRegistry) (handle : InvocationHandle)
    (event : ProviderEvent) : EventLog :=
  match registry.entries.lookup handle, event with
  | some entry, .outputDelta data =>
    if entry.poll.status = .running then log.record entry .outputDelta (some data) none else log
  | _, _ => log

end EventLog

/-! ## The machine -/

structure BridgeState where
  registry : InvocationRegistry
  /-- `active_invocations`, in order. -/
  activeInvocations : List String
  /-- Started by `handle_invoke`, which has yet to insert the handle. -/
  starting : List String
  /-- The `drain_events` calls in progress. -/
  calls : HashMap ℕ DrainCall
  /-- The rest is history: the handles issued, the events each queue was given, those drained
      from it, those returned to callers, and the handles removed from `activeInvocations`. -/
  issued : List String
  logs : String → EventLog
  drained : String → List InvocationEvent
  returned : String → List InvocationEvent
  removed : List String

namespace BridgeState

def initial : BridgeState where
  registry := .empty
  activeInvocations := []
  starting := []
  calls := ∅
  issued := []
  logs := fun _ => .empty
  drained := fun _ => []
  returned := fun _ => []
  removed := []

end BridgeState

inductive BridgeAction where
  /-- `start_invoke`, within `handle_invoke`. -/
  | startInvoke (handle : InvocationHandle) (cancellation : CancellationToken)
  /-- `handle_invoke` inserts the handle. -/
  | activate (handle : InvocationHandle)
  | update (handle : InvocationHandle) (status : InvocationStatus)
      (output : Option InvocationOutput) (error : Option String)
  | pushProviderEvent (handle : InvocationHandle) (event : ProviderEvent)
  /-- `drain_events` copies the active handles. -/
  | beginDrain (id : ℕ)
  /-- `drain_events` runs its next section on the registry. -/
  | drainSection (id : ℕ)
  /-- `drain_events` removes the completed handles and returns its frames. -/
  | finishDrain (id : ℕ)

namespace BridgeState

/-- What a section on the registry leaves: the call goes on, or ends with an error. -/
def afterSection (state : BridgeState) (id : ℕ) (call : DrainCall) (handle : String) : BridgeState :=
  let (result, registry) := call.runSection handle state.registry
  let drained : String → List InvocationEvent :=
    match call.phase, state.registry.drainEvents handle with
    | .drain, (.ok events, _) => Function.update state.drained handle (state.drained handle ++ events)
    | _, _ => state.drained
  match result with
  | .ok next => { state with registry, drained, calls := state.calls.insert id next }
  | .error _ => { state with registry, drained, calls := state.calls.erase id }

def step (state : BridgeState) : BridgeAction → Option BridgeState
  | .startInvoke handle cancellation =>
    if handle ∈ state.issued then
      none
    else
      match state.registry.insert handle cancellation with
      | .ok registry =>
        some { state with
          registry
          starting := handle :: state.starting
          issued := handle :: state.issued }
      | .error _ => some state
  | .activate handle =>
    if handle ∈ state.starting then
      some { state with
        starting := state.starting.erase handle
        activeInvocations :=
          if handle ∈ state.activeInvocations then state.activeInvocations
          else state.activeInvocations.orderedInsert (· ≤ ·) handle }
    else
      none
  | .update handle status output error =>
    some { state with
      registry := state.registry.update handle status output error
      logs := Function.update state.logs handle
        ((state.logs handle).update state.registry handle status output error) }
  | .pushProviderEvent handle event =>
    some { state with
      registry := state.registry.pushProviderEvent handle event
      logs := Function.update state.logs handle
        ((state.logs handle).providerEvent state.registry handle event) }
  | .beginDrain id =>
    match state.calls.lookup id with
    | some _ => none
    | none =>
      some { state with calls := state.calls.insert id (.start state.activeInvocations) }
  | .drainSection id =>
    match state.calls.lookup id with
    | some call =>
      match call.handles with
      | handle :: _ => some (state.afterSection id call handle)
      | [] => none
    | none => none
  | .finishDrain id =>
    match state.calls.lookup id with
    | some call =>
      if call.handles = [] then
        some { state with
          activeInvocations := state.activeInvocations.filter (· ∉ call.completed)
          calls := state.calls.erase id
          returned := fun handle => state.returned handle ++ call.framed handle
          removed := state.removed ++ state.activeInvocations.filter (· ∈ call.completed) }
      else
        none
    | none => none

/-- Bridges with worker threads and any number of `drain_events` calls, in every order. -/
def machine : Machine BridgeState BridgeAction where
  start state := state = initial
  step := step

end BridgeState

end Vifu.Runtime
