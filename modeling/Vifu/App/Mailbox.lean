import Vifu.Foundation.Machine
import Vifu.Gateway.Checks

/-!
# The mailbox of runtime events

Senders push events into a queue under a lock, and count what they drop there in an atomic.  The receiver reads the
queue, the count and the number of senders one after the other.  A send takes the lock once; what it decides
there depends on the queue alone, and between its decision and the release of the lock the receiver may read
the count.

An event has the fields that the mailbox reads.
-/

namespace Vifu.App

open Foundation
open Vifu.Gateway

inductive RuntimeEvent where
  | healthChanged
  | agentsRegistered
  | gatewayEnrolled (enrollmentId : Uuid)
  | backendsChanged
  | loadedModelsChanged
  | identityChanged
  | monitorEventsDropped (droppedEvents : ℕ)
  | projectProfilesRegistered
  | invocationStarted (invocationId : Uuid)
  | invocationMetadata (invocationId : Uuid)
  | stageChanged (invocationId observationId : Uuid)
  | ioCaptured (invocationId : Uuid) (hasInput : Bool)
  | ioDropped (invocationId : Uuid)
  | runtimeHostMetrics (invocationId : Uuid)
  | applicationFeedback (invocationId observationId : Uuid)
  | invocationFinished (invocationId : Uuid)
  | invocationCancelled (invocationId : Uuid)
  deriving DecidableEq

inductive RuntimeEventKey where
  | global (kind : ℕ)
  | enrollment (id : Uuid)
  | invocation (id : Uuid) (kind : ℕ)
  | observation (invocationId observationId : Uuid)
  deriving DecidableEq

def eventCoalescingKey : RuntimeEvent → RuntimeEventKey
  | .healthChanged => .global 0
  | .agentsRegistered => .global 1
  | .gatewayEnrolled enrollmentId => .enrollment enrollmentId
  | .backendsChanged => .global 3
  | .loadedModelsChanged => .global 4
  | .identityChanged => .global 5
  | .monitorEventsDropped _ => .global 6
  | .projectProfilesRegistered => .global 7
  | .invocationStarted invocationId => .invocation invocationId 0
  | .invocationMetadata invocationId => .invocation invocationId 1
  | .stageChanged invocationId observationId => .observation invocationId observationId
  | .ioCaptured invocationId hasInput => .invocation invocationId (if hasInput then 2 else 3)
  | .ioDropped invocationId => .invocation invocationId 4
  | .runtimeHostMetrics invocationId => .invocation invocationId 5
  | .applicationFeedback invocationId observationId => .observation invocationId observationId
  | .invocationFinished invocationId => .invocation invocationId 8
  | .invocationCancelled invocationId => .invocation invocationId 9

def eventIsPriority : RuntimeEvent → Bool
  | .stageChanged _ _ | .ioCaptured _ _ => false
  | _ => true

def eventRequiresDelivery : RuntimeEvent → Bool
  | .invocationStarted _ | .ioCaptured _ _ | .ioDropped _ | .invocationFinished _ | .invocationCancelled _ => true
  | _ => false

/-- An event in the queue.  The ticket is the number of the send that brought it, the place that of the lock section
whose event first stood there. -/
structure Entry where
  ticket : ℕ
  place : ℕ
  event : RuntimeEvent
  deriving DecidableEq

/-- What a send still has to do with the lock held. -/
inductive Section where
  | push
  | countAndPush
  | countAndReturn (accepted : Bool)
  deriving DecidableEq

inductive Decision where
  | append
  | replace (index : ℕ)
  | evict (index : ℕ)
  | refuse (accepted : Bool)
  deriving DecidableEq

/-- `send`, from the lock on. -/
def decision (capacity : ℕ) (queue : List Entry) (event : RuntimeEvent) : Decision :=
  if queue.length ≠ capacity then .append
  else
    match queue.findIdx? fun queued => eventCoalescingKey queued.event == eventCoalescingKey event with
    | some index => .replace index
    | none =>
      if eventRequiresDelivery event then
        match queue.findIdx? fun queued => !eventRequiresDelivery queued.event with
        | some index => .evict index
        | none => .refuse false
      else if eventIsPriority event then
        match queue.findIdx? fun queued => !eventRequiresDelivery queued.event with
        | some index => .evict index
        | none => .refuse true
      else .refuse true

/-! ## Senders and the receiver -/

inductive SendPhase where
  | entering
  | holding (step : Section)
  | returned (accepted : Bool)
  deriving DecidableEq

structure Send where
  handle : ℕ
  event : RuntimeEvent
  turn : ℕ
  phase : SendPhase
  deriving DecidableEq

namespace Send

def isHolding (send : Send) : Bool :=
  match send.phase with
  | .holding _ => true
  | _ => false

def isActive (send : Send) : Bool :=
  match send.phase with
  | .returned _ => false
  | _ => true

end Send

/-- Where the receiver stands: before a step of `recv` or of `try_recv`, or outside both. -/
inductive ReceiverPhase where
  | idle
  | recvSwap
  | recvPop
  | recvCount
  | awaiting
  | tryPop
  | trySwap
  | tryCount
  deriving DecidableEq

/-- The mailbox, its handles by their numbers, the sends by their tickets, and what has become of their events. -/
structure Mailbox where
  capacity : ℕ
  queue : List Entry
  droppedEvents : ℕ
  receiverAlive : Bool
  handles : List Bool
  sends : List Send
  receiver : ReceiverPhase
  turns : ℕ
  received : List Entry
  replaced : List (ℕ × ℕ)
  lost : List ℕ
  reported : ℕ
  closed : Bool
  deriving DecidableEq

namespace Mailbox

/-- `runtime_event_channel_with_capacity`. -/
def open? (capacity : ℕ) : Mailbox where
  capacity := max capacity 1
  queue := []
  droppedEvents := 0
  receiverAlive := true
  handles := [true]
  sends := []
  receiver := .idle
  turns := 0
  received := []
  replaced := []
  lost := []
  reported := 0
  closed := false

variable (state : Mailbox)

def senders : ℕ := state.handles.countP id

def locked : Bool := state.sends.any Send.isHolding

/-- The load of `receiver_alive`. -/
def beginSend (handle : ℕ) (event : RuntimeEvent) : Mailbox :=
  { state with
    sends := state.sends ++
      [{ handle, event, turn := 0, phase := if state.receiverAlive then .entering else .returned false }] }

/-- The lock section up to the first step that the receiver can see, or to its end. -/
def enter (ticket : ℕ) (send : Send) : Mailbox :=
  let entered := { send with turn := state.turns }
  match decision state.capacity state.queue send.event with
  | .append =>
    { state with
      turns := state.turns + 1
      sends := state.sends.set ticket { entered with phase := .holding .push } }
  | .replace index =>
    { state with
      turns := state.turns + 1
      queue := state.queue.modify index fun queued => { queued with ticket, event := send.event }
      replaced := state.replaced ++ ((state.queue[index]?).map fun queued => (queued.ticket, ticket)).toList
      sends := state.sends.set ticket { entered with phase := .returned true } }
  | .evict index =>
    { state with
      turns := state.turns + 1
      queue := state.queue.eraseIdx index
      lost := state.lost ++ ((state.queue[index]?).map Entry.ticket).toList
      sends := state.sends.set ticket { entered with phase := .holding .countAndPush } }
  | .refuse accepted =>
    { state with
      turns := state.turns + 1
      lost := state.lost ++ [ticket]
      sends := state.sends.set ticket { entered with phase := .holding (.countAndReturn accepted) } }

/-- `fetch_add` on the drops. -/
def count (ticket : ℕ) (send : Send) (next : SendPhase) : Mailbox :=
  { state with
    droppedEvents := state.droppedEvents + 1
    sends := state.sends.set ticket { send with phase := next } }

def push (ticket : ℕ) (send : Send) : Mailbox :=
  { state with
    queue := state.queue ++ [{ ticket, place := send.turn, event := send.event }]
    sends := state.sends.set ticket { send with phase := .returned true } }

def advanceSend (ticket : ℕ) (send : Send) : Option Mailbox :=
  match send.phase with
  | .entering => if state.locked then none else some (state.enter ticket send)
  | .holding .countAndPush => some (state.count ticket send (.holding .push))
  | .holding (.countAndReturn accepted) => some (state.count ticket send (.returned accepted))
  | .holding .push => some (state.push ticket send)
  | .returned _ => none

/-- `take_overflow_event`. -/
def swap (next : ReceiverPhase) : Mailbox :=
  { state with
    droppedEvents := 0
    reported := state.reported + state.droppedEvents
    receiver := if 0 < state.droppedEvents then .idle else next }

/-- `pop_front`. -/
def pop (next : ReceiverPhase) : Mailbox :=
  match state.queue with
  | [] => { state with receiver := next }
  | entry :: queue =>
    { state with
      queue
      received := state.received ++ [entry]
      receiver := .idle }

def countSenders (next : ReceiverPhase) : Mailbox :=
  if state.senders = 0 then { state with closed := true, receiver := .idle } else { state with receiver := next }

def advanceReceiver : Option Mailbox :=
  match state.receiver with
  | .idle | .awaiting => none
  | .recvSwap => some (state.swap .recvPop)
  | .recvPop => if state.locked then none else some (state.pop .recvCount)
  | .recvCount => some (state.countSenders .awaiting)
  | .tryPop => if state.locked then none else some (state.pop .trySwap)
  | .trySwap => some (state.swap .tryCount)
  | .tryCount => some (state.countSenders .idle)

inductive Action where
  | clone (handle : ℕ)
  | dropSender (handle : ℕ)
  | send (handle : ℕ) (event : RuntimeEvent)
  | advanceSend (ticket : ℕ)
  | recv
  | tryRecv
  | advanceReceiver
  | wake
  | cancelRecv
  | dropReceiver
  deriving DecidableEq

def borrowed (handle : ℕ) : Bool := state.sends.any fun send => send.isActive && send.handle == handle

/-- The receiver starts something when it stands in a phase. -/
def goOn (source target : ReceiverPhase) : Option Mailbox :=
  if state.receiver = source ∧ state.receiverAlive = true then some { state with receiver := target } else none

def step : Action → Option Mailbox
  | .clone handle =>
    if state.handles[handle]? = some true then some { state with handles := state.handles ++ [true] } else none
  | .dropSender handle =>
    if state.handles[handle]? = some true ∧ state.borrowed handle = false then
      some { state with handles := state.handles.set handle false }
    else none
  | .send handle event =>
    if state.handles[handle]? = some true then some (state.beginSend handle event) else none
  | .advanceSend ticket => (state.sends[ticket]?).bind (state.advanceSend ticket)
  | .recv => state.goOn .idle .recvSwap
  | .tryRecv => state.goOn .idle .tryPop
  | .advanceReceiver => state.advanceReceiver
  | .wake => state.goOn .awaiting .recvSwap
  | .cancelRecv => state.goOn .awaiting .idle
  | .dropReceiver =>
    if state.receiver = .idle then some { state with receiverAlive := false } else none

end Mailbox

def mailboxMachine : Machine Mailbox Mailbox.Action where
  start state := ∃ capacity, state = Mailbox.open? capacity
  step := Mailbox.step

end Vifu.App
