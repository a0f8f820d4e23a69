import Vifu.Foundation.Machine
import Vifu.Foundation.Tasks
import Vifu.Gateway.Command

/-!
# The relay hub of the server

The hub keeps the current connection of every gateway and the calls that wait for a reply, under one
lock.  Callers, sockets and the tasks that clean up after a dropped caller meet in short sections under
that lock; what they do between these sections, such as placing a command in the queue of a connection,
is a step of its own.
-/

namespace Vifu.Server

open Foundation
open Vifu.Runtime hiding validateIdentifier
open Vifu.Gateway

structure AgentGatewayConnection where
  connectionId : Uuid
  sessionId : Uuid
  /-- The place of its channel among the channels. -/
  sender : ℕ
  applicationFeedbackSupported : Bool
  invocationActivitySupported : Bool
  deriving DecidableEq

/-- Whether `notify_application_feedback` may find the connection. -/
def AgentGatewayConnection.acceptsFeedback (connection : AgentGatewayConnection) (sessionId : Uuid) : Bool :=
  connection.sessionId == sessionId && connection.applicationFeedbackSupported

structure PendingCall where
  connectionId : Uuid
  channelId : ℕ
  /-- The place of the call that the reply goes to. -/
  sender : ℕ
  activity : ℕ
  deriving DecidableEq

inductive RelayCallError where
  | agentGatewayUnavailable
  | backpressure
  | timeout
  | cancelled
  | agentGateway (message : String)
  deriving DecidableEq

structure RelayState where
  connections : AList fun _ : String => AgentGatewayConnection
  pending : AList fun _ : Uuid => PendingCall
  nextChannelId : ℕ

structure EndpointRoute where
  endpointId : Uuid
  profileId : Uuid
  bindingId : Uuid
  gatewayId : String
  agentId : String
  bindingConfig : Value
  deriving DecidableEq

/-! ## Sections under the lock -/

namespace RelayState

def new : RelayState where
  connections := ∅
  pending := ∅
  nextChannelId := 1

variable (state : RelayState)

/-- `next_channel_id`. -/
def takeChannelId : ℕ × RelayState :=
  let channelId := max state.nextChannelId 1
  (channelId, { state with nextChannelId := max ((channelId + 1) % (u64Max + 1)) 1 })

def register (gatewayId : String) (connection : AgentGatewayConnection) : RelayState × Option AgentGatewayConnection :=
  ({ state with connections := state.connections.insert gatewayId connection }, state.connections.lookup gatewayId)

def isCurrent (gatewayId : String) (connectionId : Uuid) : Bool :=
  (state.connections.lookup gatewayId).any fun connection => connection.connectionId == connectionId

/-- The calls of the connection leave the map, and the connection too when it is the current one. -/
def unregister (gatewayId : String) (connectionId : Uuid) : RelayState × Bool × List PendingCall :=
  let removedCurrent := state.isCurrent gatewayId connectionId
  ({ state with
      connections := if removedCurrent then state.connections.erase gatewayId else state.connections
      pending := retain (fun _ pending => pending.connectionId != connectionId) state.pending },
    removedCurrent,
    (state.pending.entries.map fun entry => entry.2).filter fun pending => pending.connectionId == connectionId)

/-- The section of `invoke_with_provider_events`. -/
def openCall (gatewayId : String) (requestId : Uuid) (sender : ℕ) : Option (AgentGatewayConnection × ℕ × RelayState) :=
  (state.connections.lookup gatewayId).map fun connection =>
    let (channelId, state) := state.takeChannelId
    (connection, channelId,
      { state with
        pending := state.pending.insert requestId
          { connectionId := connection.connectionId, channelId, sender, activity := 0 } })

def isPending (connectionId requestId : Uuid) (channelId : ℕ) : Bool :=
  (state.pending.lookup requestId).any fun pending =>
    pending.connectionId == connectionId && pending.channelId == channelId

def removePending (requestId : Uuid) : RelayState := { state with pending := state.pending.erase requestId }

/-- The section of `complete`. -/
def complete (connectionId requestId : Uuid) (channelId : ℕ) : RelayState × Option PendingCall :=
  if state.isPending connectionId requestId channelId then
    (state.removePending requestId, state.pending.lookup requestId)
  else
    (state, none)

def recordInvocationActivity (connectionId requestId : Uuid) (channelId : ℕ) : RelayState × Bool :=
  match state.pending.lookup requestId with
  | none => (state, false)
  | some pending =>
    if pending.connectionId ≠ connectionId ∨ pending.channelId ≠ channelId then (state, false)
    else
      ({ state with pending := state.pending.insert requestId { pending with activity := saturatingAdd pending.activity 1 } },
        true)

end RelayState

/-- The bounded channel of a connection, with all that was ever placed in it and the sends that wait for room. -/
structure CommandChannel where
  gatewayId : String
  connectionId : Uuid
  queue : List AgentGatewayCommand
  sent : List AgentGatewayCommand
  delayed : List AgentGatewayCommand
  receiving : Bool
  deriving DecidableEq

inductive TrySendError where
  | full
  | closed
  deriving DecidableEq

/-- What a caller returns whose message was refused. -/
def TrySendError.callError : TrySendError → RelayCallError
  | .full => .backpressure
  | .closed => .agentGatewayUnavailable

namespace CommandChannel

def new (gatewayId : String) (connectionId : Uuid) : CommandChannel where
  gatewayId := gatewayId
  connectionId := connectionId
  queue := []
  sent := []
  delayed := []
  receiving := true

variable (capacity : ℕ) (channel : CommandChannel)

def push (command : AgentGatewayCommand) : CommandChannel :=
  { channel with queue := channel.queue ++ [command], sent := channel.sent ++ [command] }

/-- Sends that wait for room may have places reserved. -/
def trySend (reserved : ℕ) (command : AgentGatewayCommand) : Except TrySendError CommandChannel :=
  if channel.receiving = false then .error .closed
  else if capacity ≤ channel.queue.length + reserved then .error .full
  else .ok (channel.push command)

def queueInvocationCancel (reserved : ℕ) (requestId : Uuid) (channelId : ℕ) : CommandChannel :=
  match channel.trySend capacity reserved (.cancel requestId channelId) with
  | .ok sent => sent
  | .error .closed => channel
  | .error .full => { channel with delayed := channel.delayed ++ [.cancel requestId channelId] }

end CommandChannel

/-! ## Callers -/

inductive CallPhase where
  /-- The entry is made, the message is not sent. -/
  | sending
  /-- The message was refused; the entry has to go. -/
  | refusing (error : TrySendError)
  | waiting
  /-- `abort` has disarmed the guard and waits for the lock. -/
  | aborting (error : RelayCallError)
  | cancelling (error : RelayCallError)
  /-- The task that the armed guard spawned waits for the lock. -/
  | dropping
  | dropCancelling
  | dropCancelled
  | returned (result : Except RelayCallError Value)
  /-- Dropped without an armed guard. -/
  | gone
  deriving DecidableEq

structure RelayCall where
  route : EndpointRoute
  requestId : Uuid
  input : Value
  timeoutMs : ℕ
  connection : AgentGatewayConnection
  channelId : ℕ
  response : Option (Except RelayCallError Value)
  phase : CallPhase
  deriving DecidableEq

namespace RelayCall

variable (call : RelayCall)

def message : AgentGatewayCommand :=
  .invoke call.requestId
    { channelId := call.channelId
      endpointId := call.route.endpointId
      profileId := call.route.profileId
      bindingId := call.route.bindingId
      agentId := call.route.agentId
      binding := call.route.bindingConfig
      input := call.input
      timeoutMs := min call.timeoutMs u64Max }

def cancel : AgentGatewayCommand := .cancel call.requestId call.channelId

/-- Whether the caller still holds the receiver of its response. -/
def listens : Bool :=
  match call.phase with
  | .sending | .refusing _ | .waiting | .aborting _ | .cancelling _ => true
  | .dropping | .dropCancelling | .dropCancelled | .returned _ | .gone => false

end RelayCall

/-- A response that was taken out of the map and is being sent. -/
structure Delivery where
  sender : ℕ
  result : Except RelayCallError Value
  deriving DecidableEq

inductive HubEvent where
  | completed (connectionId requestId : Uuid) (channelId : ℕ) (result : Except String Value)
  | unregistered (connectionId : Uuid)
  /-- There was no connection for the call. -/
  | refused (requestId : Uuid)
  | resolved (call : ℕ) (result : Except RelayCallError Value)
  deriving DecidableEq

/-! ## The machine -/

structure RelayHub where
  inner : RelayState
  channels : List CommandChannel
  calls : List RelayCall
  deliveries : List Delivery
  /-- Commands that tasks are about to place in a channel. -/
  notices : List (ℕ × AgentGatewayCommand)
  history : List HubEvent

inductive HubAction where
  | register (gatewayId : String) (connectionId sessionId : Uuid) (feedback activity : Bool)
  | unregister (gatewayId : String) (connectionId : Uuid)
  | disconnect (gatewayId code : String)
  | notifyRuntimeConfig (gatewayId : String) (deploymentIds : List Uuid)
  | notifyApplicationFeedback (gatewayId : String) (sessionId : Uuid) (report : FeedbackReport)
  | post (notice reserved : ℕ)
  | receive (channel : ℕ)
  | sendDelayed (channel delayed : ℕ)
  | close (channel : ℕ)
  | invoke (route : EndpointRoute) (requestId : Uuid) (input : Value) (timeoutMs : ℕ)
  | send (call reserved : ℕ)
  | respond (call : ℕ)
  | activityClosed (call : ℕ)
  | giveUp (call : ℕ) (timedOut : Bool)
  | drop (call : ℕ)
  | removePending (call : ℕ)
  | queueCancel (call reserved : ℕ)
  | complete (connectionId requestId : Uuid) (channelId : ℕ) (result : Except String Value)
  | deliver (delivery : ℕ)
  | recordInvocationActivity (connectionId requestId : Uuid) (channelId : ℕ)

def HubAction.takes : HubAction → Bool
  | .receive _ | .close _ => true
  | .register .. | .unregister .. | .disconnect .. | .notifyRuntimeConfig .. | .notifyApplicationFeedback .. | .post .. |
    .sendDelayed .. | .invoke .. | .send .. | .respond .. | .activityClosed .. | .giveUp .. | .drop .. |
    .removePending .. | .queueCancel .. | .complete .. | .deliver .. | .recordInvocationActivity .. => false

/-- What the callers of `complete` pass on. -/
def replyResult (result : Except String Value) : Except RelayCallError Value :=
  result.mapError .agentGateway

def sessionReplaced : AgentGatewayCommand :=
  .error none none "SESSION_REPLACED" "A newer connection replaced this agent gateway session."

def credentialError (code : String) : AgentGatewayCommand :=
  .error none none code "The agent gateway credential is no longer active."

namespace RelayHub

def new : RelayHub where
  inner := .new
  channels := []
  calls := []
  deliveries := []
  notices := []
  history := []

variable (queueCapacity : ℕ) (state : RelayHub)

def setCall (index : ℕ) (call : RelayCall) : RelayHub := { state with calls := state.calls.set index call }

def setChannel (index : ℕ) (channel : CommandChannel) : RelayHub :=
  { state with channels := state.channels.set index channel }

/-- Whether nothing is left that could send a response to the call. -/
def abandoned (index : ℕ) (call : RelayCall) : Bool :=
  (state.inner.pending.lookup call.requestId).all (fun pending => pending.sender != index) &&
    state.deliveries.all fun delivery => delivery.sender != index

def resolve (index : ℕ) (call : RelayCall) (result : Except RelayCallError Value) : RelayHub :=
  { state.setCall index { call with phase := .returned result } with
    history := state.history ++ [.resolved index result] }

/-- A task that looks the connection up is about to place a command in its channel. -/
def notify (gatewayId : String) (command : AgentGatewayCommand) : RelayHub :=
  match state.inner.connections.lookup gatewayId with
  | none => state
  | some connection => { state with notices := state.notices ++ [(connection.sender, command)] }

def register (gatewayId : String) (connectionId sessionId : Uuid) (feedback activity : Bool) : RelayHub :=
  let connection : AgentGatewayConnection :=
    { connectionId, sessionId, sender := state.channels.length, applicationFeedbackSupported := feedback,
      invocationActivitySupported := activity }
  let (inner, replaced) := state.inner.register gatewayId connection
  { state with
    inner
    channels := state.channels ++ [.new gatewayId connectionId]
    notices := state.notices ++ replaced.toList.map fun replaced => (replaced.sender, sessionReplaced) }

def unregister (gatewayId : String) (connectionId : Uuid) : RelayHub :=
  let (inner, _, removed) := state.inner.unregister gatewayId connectionId
  { state with
    inner
    deliveries := state.deliveries ++ removed.map fun pending =>
      { sender := pending.sender, result := .error .agentGatewayUnavailable }
    history := state.history ++ [.unregistered connectionId] }

def invoke (route : EndpointRoute) (requestId : Uuid) (input : Value) (timeoutMs : ℕ) : RelayHub :=
  match state.inner.openCall route.gatewayId requestId state.calls.length with
  | none => { state with history := state.history ++ [.refused requestId] }
  | some (connection, channelId, inner) =>
    { state with
      inner
      calls := state.calls ++
        [{ route, requestId, input, timeoutMs, connection, channelId, response := none, phase := .sending }] }

def complete (connectionId requestId : Uuid) (channelId : ℕ) (result : Except String Value) : RelayHub :=
  let (inner, pending) := state.inner.complete connectionId requestId channelId
  { state with
    inner
    deliveries := state.deliveries ++ pending.toList.map fun pending =>
      { sender := pending.sender, result := replyResult result }
    history := state.history ++ [.completed connectionId requestId channelId result] }

def step (state : RelayHub) : HubAction → Option RelayHub
  | .register gatewayId connectionId sessionId feedback activity =>
    -- every socket draws an id of its own
    if connectionId ∈ state.channels.map CommandChannel.connectionId then none
    else some (state.register gatewayId connectionId sessionId feedback activity)
  | .unregister gatewayId connectionId =>
    -- only sockets that have registered unregister
    if state.channels.any fun channel => channel.connectionId == connectionId && channel.gatewayId == gatewayId then
      some (state.unregister gatewayId connectionId)
    else none
  | .disconnect gatewayId code => some (state.notify gatewayId (credentialError code))
  | .notifyRuntimeConfig gatewayId deploymentIds => some (state.notify gatewayId (.runtimeConfigChanged deploymentIds))
  | .notifyApplicationFeedback gatewayId sessionId report =>
    -- a map has no order, so any connection of the session may be found
    if (state.inner.connections.lookup gatewayId).any fun connection => connection.acceptsFeedback sessionId then
      some (state.notify gatewayId (.applicationFeedback report))
    else none
  | .post notice reserved => do
    let (sender, command) ← state.notices[notice]?
    let channel ← state.channels[sender]?
    let posted := { state with notices := state.notices.eraseIdx notice }
    if reserved ≤ channel.delayed.length then
      match channel.trySend queueCapacity reserved command with
      | .ok channel => some (posted.setChannel sender channel)
      | .error _ => some posted
    else none
  | .receive index => do
    let channel ← state.channels[index]?
    match channel.receiving, channel.queue with
    | true, _ :: queue => some (state.setChannel index { channel with queue })
    | _, _ => none
  | .sendDelayed index delayed => do
    let channel ← state.channels[index]?
    let command ← channel.delayed[delayed]?
    let left := { channel with delayed := channel.delayed.eraseIdx delayed }
    if channel.receiving = false then some (state.setChannel index left)
    else if channel.queue.length < queueCapacity then some (state.setChannel index (left.push command))
    else none
  | .close index => do
    let channel ← state.channels[index]?
    some (state.setChannel index { channel with receiving := false, queue := [] })
  | .invoke route requestId input timeoutMs => some (state.invoke route requestId input timeoutMs)
  | .send index reserved => do
    let call ← state.calls[index]?
    let channel ← state.channels[call.connection.sender]?
    if call.phase = .sending ∧ reserved ≤ channel.delayed.length then
      match channel.trySend queueCapacity reserved call.message with
      | .ok channel =>
        some ((state.setChannel call.connection.sender channel).setCall index { call with phase := .waiting })
      | .error error => some (state.setCall index { call with phase := .refusing error })
    else none
  | .respond index => do
    let call ← state.calls[index]?
    if call.phase = .waiting then
      match call.response with
      | some result => some (state.resolve index call result)
      -- the sender is gone without a response
      | none => if state.abandoned index call then some (state.resolve index call (.error .agentGatewayUnavailable)) else none
    else none
  | .activityClosed index => do
    let call ← state.calls[index]?
    if call.phase = .waiting ∧ call.connection.invocationActivitySupported = true ∧ state.abandoned index call = true then
      some (state.setCall index { call with phase := .aborting .agentGatewayUnavailable })
    else none
  | .giveUp index timedOut => do
    let call ← state.calls[index]?
    if call.phase = .waiting then
      some (state.setCall index { call with phase := .aborting (if timedOut then .timeout else .cancelled) })
    else none
  | .drop index => do
    let call ← state.calls[index]?
    match call.phase with
    | .waiting => some (state.setCall index { call with phase := .dropping })
    | .refusing _ | .aborting _ => some (state.setCall index { call with phase := .gone })
    -- no caller is dropped between two awaits
    | .sending | .cancelling _ | .dropping | .dropCancelling | .dropCancelled | .returned _ | .gone => none
  | .removePending index => do
    let call ← state.calls[index]?
    let removed := { state with inner := state.inner.removePending call.requestId }
    match call.phase with
    | .refusing error => some (removed.resolve index call (.error error.callError))
    | .aborting error => some (removed.setCall index { call with phase := .cancelling error })
    | .dropping => some (removed.setCall index { call with phase := .dropCancelling })
    | .sending | .waiting | .cancelling _ | .dropCancelling | .dropCancelled | .returned _ | .gone => none
  | .queueCancel index reserved => do
    let call ← state.calls[index]?
    let channel ← state.channels[call.connection.sender]?
    let cancelled := state.setChannel call.connection.sender
      (channel.queueInvocationCancel queueCapacity reserved call.requestId call.channelId)
    if reserved ≤ channel.delayed.length then
      match call.phase with
      | .cancelling error => some (cancelled.resolve index call (.error error))
      | .dropCancelling => some (cancelled.setCall index { call with phase := .dropCancelled })
      | .sending | .refusing _ | .waiting | .aborting _ | .dropping | .dropCancelled | .returned _ | .gone => none
    else none
  | .complete connectionId requestId channelId result => some (state.complete connectionId requestId channelId result)
  | .deliver index => do
    let delivery ← state.deliveries[index]?
    let call ← state.calls[delivery.sender]?
    let delivered := { state with deliveries := state.deliveries.eraseIdx index }
    if call.listens then some (delivered.setCall delivery.sender { call with response := some delivery.result })
    else some delivered
  | .recordInvocationActivity connectionId requestId channelId =>
    some { state with inner := (state.inner.recordInvocationActivity connectionId requestId channelId).1 }

end RelayHub

def hubMachine (queueCapacity : ℕ) : Machine RelayHub HubAction where
  start state := state = .new
  step := RelayHub.step queueCapacity

end Vifu.Server
