import Mathlib.Data.Finset.Basic
import Vifu.Foundation.Machine
import Vifu.Runtime.Identifier

/-!
# The native gateway host

`vifu-sdk-gateway` runs a gateway whose agents live in the parent process.  An invocation registers a
channel in the pending map, writes an invoke message, and waits on the channel; the main loop reads the
lines of the parent and sends each message to the channel of its invocation.  The machine below has one
action for each section on the pending map and for each operation on a channel.
-/

namespace Vifu.Sdk

open Foundation Vifu.Runtime

inductive BridgeTraceEvent where
  | activity
  | outputDelta (value : Value)
  | stageStarted (stage : String) (metadata : Value)
  | stageCompleted (stage : String) (elapsedMs : ℕ) (metadata : Value)
  | stageFailed (stage : String) (elapsedMs : ℕ) (error : String) (metadata : Value)
  deriving DecidableEq

/-- The fields of a result message but its id. -/
structure BridgeResult where
  ok : Bool
  output : Option Value
  metadata : Option Value
  state : Option Value
  error : Option String
  deriving DecidableEq

inductive BridgeMessage where
  | trace (id : String) (event : BridgeTraceEvent)
  | result (id : String) (result : BridgeResult)
  deriving DecidableEq

namespace BridgeMessage

def id : BridgeMessage → String
  | .trace id _ | .result id _ => id

def isResult : BridgeMessage → Bool
  | .trace .. => false
  | .result .. => true

end BridgeMessage

def providerStage (stage : String) : Except String ProviderStage :=
  let name := String.ofList ((toAsciiLowercase (trim stage)).toList.map fun character =>
    if character = '-' then '_' else character)
  if name = "queue" then .ok .queue
  else if name = "load" then .ok .load
  else if name = "tokenize" then .ok .tokenize
  else if name = "prefill" then .ok .prefill
  else if name = "first_token" then .ok .firstToken
  else if name = "decode" then .ok .decode
  else if name = "validate" then .ok .validate
  else .error "the TypeScript provider reported an invalid stage"

/-- What `apply_trace_event` reports to the runtime.  Values that are written as JSON read back. -/
def applyTraceEvent : BridgeTraceEvent → Except String ProviderEvent
  | .activity => .ok .activity
  | .outputDelta value => .ok (.outputDelta (.json value))
  | .stageStarted stage metadata => do
    let stage ← providerStage stage
    return .stageStarted stage metadata
  | .stageCompleted stage elapsedMs metadata => do
    let stage ← providerStage stage
    return .stageCompleted stage elapsedMs metadata
  | .stageFailed stage elapsedMs error metadata => do
    let stage ← providerStage stage
    return .stageFailed stage elapsedMs error metadata

/-- How an invocation ends: with an error of its own, or with the result of a message. -/
inductive BridgeOutcome where
  | failed (error : String)
  | answered (source : String) (result : BridgeResult)
  deriving DecidableEq

/-- How far `Bridge::invoke` has come. -/
inductive BridgePhase where
  | registering
  | sending
  | unregistering (error : String)
  | checking
  | receiving
  | applying (event : BridgeTraceEvent)
  | returned (outcome : BridgeOutcome)
  deriving DecidableEq

structure BridgeInvocation where
  phase : BridgePhase
  cancelled : Bool
  /-- The messages in the channel; its receiver lives until the invocation returns. -/
  inbox : List BridgeMessage
  emitted : List ProviderEvent
  deriving DecidableEq

namespace BridgeInvocation

def start : BridgeInvocation := { phase := .registering, cancelled := false, inbox := [], emitted := [] }

def enter (invocation : BridgeInvocation) (phase : BridgePhase) : BridgeInvocation := { invocation with phase }

def fail (invocation : BridgeInvocation) (error : String) : BridgeInvocation :=
  invocation.enter (.returned (.failed error))

end BridgeInvocation

/-- The sections of `Bridge::invoke`.  The invoke message can be written or not, and the receiver gives
up when its time is over or no sender is left. -/
inductive BridgePiece where
  | register
  | sent
  | unsent (error : String)
  | unregister
  | check
  | receive
  | expire
  | apply
  deriving DecidableEq

/-! ## The main loop -/

inductive HostLine where
  | message (message : BridgeMessage)
  | stop
  deriving DecidableEq

/-- Why `run` ends. -/
inductive HostEnd where
  | stopped
  | endOfInput
  | readFailed (error : String)
  | failed (error : String)
  deriving DecidableEq

/-- How far the loop of `run`, and in it `deliver_result`, has come. -/
inductive ReaderPhase where
  | reading
  | finding (message : BridgeMessage)
  | delivering (message : BridgeMessage)
  | removing (id : String)
  | ended (reason : HostEnd)
  deriving DecidableEq

structure HostState where
  sequence : ℕ
  invocations : HashMap String BridgeInvocation
  /-- The keys of the pending map; the sender under a key belongs to the channel of the invocation. -/
  pending : Finset String
  reader : ReaderPhase
  /-- The lines that the parent has written and the host has not read. -/
  lines : List HostLine
  closed : Bool
  /-- The invocations that the parent knows of, and those it has given a result. -/
  asked : Finset String
  answered : Finset String
  /-- The invocations whose result was sent to their channel, for the statements of results only. -/
  delivered : Finset String

inductive HostAction where
  /-- The runtime invokes an agent. -/
  | invoke
  | cancel (id : String)
  | run (id : String) (piece : BridgePiece)
  | parentTrace (id : String) (event : BridgeTraceEvent)
  | parentResult (id : String) (result : BridgeResult)
  | parentStop
  | parentClose
  | read
  | readFails (error : String)
  | find
  | deliver
  | remove
  deriving DecidableEq

def bridgeId (sequence : ℕ) : String := "bridge-" ++ toString sequence

namespace HostState

def initial : HostState where
  sequence := 1
  invocations := ∅
  pending := ∅
  reader := .reading
  lines := []
  closed := false
  asked := ∅
  answered := ∅
  delivered := ∅

variable (state : HostState)

def put (id : String) (invocation : BridgeInvocation) : HostState :=
  { state with invocations := state.invocations.insert id invocation }

def runPiece (id : String) (invocation : BridgeInvocation) : BridgePiece → Option HostState
  | .register =>
    if invocation.phase = .registering then
      some ({ state with pending := insert id state.pending }.put id (invocation.enter .sending))
    else none
  | .sent =>
    if invocation.phase = .sending then
      some ({ state with asked := insert id state.asked }.put id (invocation.enter .checking))
    else none
  | .unsent error =>
    if invocation.phase = .sending then some (state.put id (invocation.enter (.unregistering error))) else none
  | .unregister =>
    match invocation.phase with
    | .unregistering error => some ({ state with pending := state.pending.erase id }.put id (invocation.fail error))
    | _ => none
  | .check =>
    if invocation.phase = .checking then
      if invocation.cancelled then
        -- the entry stays in the pending map
        some (state.put id (invocation.fail "the TypeScript provider invocation was cancelled"))
      else some (state.put id (invocation.enter .receiving))
    else none
  | .receive =>
    match invocation.phase, invocation.inbox with
    | .receiving, .trace _ event :: inbox => some (state.put id { invocation with phase := .applying event, inbox })
    | .receiving, .result source result :: inbox =>
      some (state.put id { invocation with phase := .returned (.answered source result), inbox })
    | _, _ => none
  | .expire =>
    if invocation.phase = .receiving ∧ invocation.inbox = [] then
      some (state.put id (invocation.enter (.unregistering "the TypeScript provider did not return a result")))
    else none
  | .apply =>
    match invocation.phase with
    | .applying event =>
      match applyTraceEvent event with
      | .ok event => some (state.put id { invocation with phase := .checking, emitted := invocation.emitted ++ [event] })
      -- here too the entry stays
      | .error error => some (state.put id (invocation.fail error))
    | _ => none

/-- `run` takes the next line. -/
def readLine : Option HostState :=
  match state.lines with
  | .message message :: lines => some { state with reader := .finding message, lines }
  | .stop :: lines => some { state with reader := .ended .stopped, lines }
  | [] => if state.closed then some { state with reader := .ended .endOfInput } else none

/-- `deliver_result` looks for the sender of a message. -/
def findSender (message : BridgeMessage) : HostState :=
  if message.id ∈ state.pending then { state with reader := .delivering message }
  else { state with reader := .ended (.failed "the TypeScript provider result is no longer pending") }

/-- `deliver_result` sends the message, which fails when the receiver is gone. -/
def deliverMessage (message : BridgeMessage) : HostState :=
  let failed := { state with reader := .ended (.failed "the TypeScript provider invocation already stopped") }
  match state.invocations.lookup message.id with
  | none => failed
  | some invocation =>
    match invocation.phase with
    | .returned _ => failed
    | _ =>
      let state := state.put message.id { invocation with inbox := invocation.inbox ++ [message] }
      if message.isResult then
        { state with reader := .removing message.id, delivered := insert message.id state.delivered }
      else { state with reader := .reading }

def step (state : HostState) : HostAction → Option HostState
  | .invoke => some ({ state with sequence := state.sequence + 1 }.put (bridgeId state.sequence) .start)
  | .cancel id => (state.invocations.lookup id).map fun invocation => state.put id { invocation with cancelled := true }
  | .run id piece => (state.invocations.lookup id).bind fun invocation => state.runPiece id invocation piece
  | .parentTrace id event =>
    if id ∈ state.asked ∧ state.closed = false then
      some { state with lines := state.lines ++ [.message (.trace id event)] }
    else none
  | .parentResult id result =>
    if id ∈ state.asked ∧ id ∉ state.answered ∧ state.closed = false then
      some { state with
        lines := state.lines ++ [.message (.result id result)]
        answered := insert id state.answered }
    else none
  | .parentStop => if state.closed then none else some { state with lines := state.lines ++ [.stop] }
  | .parentClose => some { state with closed := true }
  | .read => if state.reader = .reading then state.readLine else none
  | .readFails error =>
    if state.reader = .reading then some { state with reader := .ended (.readFailed error) } else none
  | .find =>
    match state.reader with
    | .finding message => some (state.findSender message)
    | _ => none
  | .deliver =>
    match state.reader with
    | .delivering message => some (state.deliverMessage message)
    | _ => none
  | .remove =>
    match state.reader with
    | .removing id => some { state with pending := state.pending.erase id, reader := .reading }
    | _ => none

/-- Hosts with any number of invocations, and a parent that answers each of them at any later time. -/
def machine : Machine HostState HostAction where
  start state := state = initial
  step := step

end HostState

end Vifu.Sdk
