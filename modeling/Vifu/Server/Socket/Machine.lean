import Vifu.Server.Relay.Entries
import Vifu.Server.Socket.Sessions

/-!
# The sockets of the server

Every gateway that connects is served by a task of its own.  From the moment it opens the session of its
gateway until it returns, the task writes to the sessions, to the relay hub and to the monitor in separate
steps, between which the tasks of other sockets, the callers and the API handlers take theirs.
-/

namespace Vifu.Server

open Foundation
open Vifu.Runtime hiding validateIdentifier
open Vifu.Gateway

structure GatewayFeatures where
  applicationFeedback : Bool
  embeddedMonitoring : Bool
  runtimeHostMetrics : Bool
  invocationActivity : Bool
  deriving DecidableEq

/-- Where `run_socket` stands after it has opened the session. -/
inductive SocketPhase where
  | reconciling
  | registering
  | welcoming
  | publishing
  /-- The commands that are left to send before the loop. -/
  | readying (left : List AgentGatewayCommand)
  | looping
  | sending (command : AgentGatewayCommand)
  | acknowledging
  /-- The loop has ended. -/
  | leaving
  | closing
  | retiring
  | returned
  deriving DecidableEq

structure Socket where
  gatewayId : String
  sessionId : Uuid
  agents : List AgentDescriptor
  features : GatewayFeatures
  /-- What was registered for the socket. -/
  connection : Option AgentGatewayConnection
  /-- The commands that the loop has taken from the channel and sent. -/
  written : List AgentGatewayCommand
  published : Bool
  unregistered : Bool
  closed : Bool
  retired : Bool
  phase : SocketPhase
  deriving DecidableEq

def disconnects : AgentGatewayCommand → Bool
  | .error _ _ code _ => code == "SESSION_REPLACED" || code == "CREDENTIAL_REVOKED"
  | .challenge .. | .hello .. | .welcome .. | .pairingRequired .. | .invoke .. | .result .. | .cancel .. |
    .invocationActivityReady | .invocationActivity .. | .heartbeat .. | .heartbeatAck .. | .runtimeConfigChanged .. |
    .runtimeMonitoringReady | .runtimeHostMetricsReady | .runtimeTelemetry .. | .applicationFeedback .. => false

namespace Socket

def new (gatewayId : String) (sessionId : Uuid) (agents : List AgentDescriptor) (features : GatewayFeatures) : Socket where
  gatewayId := gatewayId
  sessionId := sessionId
  agents := agents
  features := features
  connection := none
  written := []
  published := false
  unregistered := false
  closed := false
  retired := false
  phase := .reconciling

variable (socket : Socket)

def readyCommands : List AgentGatewayCommand :=
  (if socket.features.embeddedMonitoring then [.runtimeMonitoringReady] else []) ++
    (if socket.features.runtimeHostMetrics then [.runtimeHostMetricsReady] else []) ++
    if socket.features.invocationActivity then [.invocationActivityReady] else []

def connectionOf (connectionId : Uuid) (sender : ℕ) : AgentGatewayConnection where
  connectionId := connectionId
  sessionId := socket.sessionId
  sender := sender
  applicationFeedbackSupported := socket.features.applicationFeedback
  invocationActivitySupported := socket.features.invocationActivity

end Socket

structure AppState where
  relay : RelayHub
  sessions : SessionTable
  /-- The gateways that the monitor lists. -/
  monitor : AList fun _ : String => List AgentDescriptor
  /-- In the order in which they opened their sessions. -/
  sockets : List Socket

inductive ServerAction where
  | openSession (gatewayId : String) (agents : List AgentDescriptor) (features : GatewayFeatures)
    (resumeSessionId : Option Uuid) (sessionId : Uuid)
  | reconcile (socket : ℕ) (reconciled : Bool)
  | register (socket : ℕ) (connectionId : Uuid)
  | welcome (socket : ℕ) (sent : Bool)
  | publishConnected (socket : ℕ)
  | ready (socket : ℕ) (sent : Bool)
  | enterLoop (socket : ℕ)
  | receive (socket : ℕ)
  | send (socket : ℕ) (sent : Bool)
  | completeReply (socket : ℕ) (requestId : Uuid) (channelId : ℕ) (result : Except String Value)
  | recordActivity (socket : ℕ) (requestId : Uuid) (channelId : ℕ)
  | touch (socket : ℕ) (persisted acknowledged : Bool)
  | acknowledge (socket : ℕ) (sent : Bool)
  | leave (socket : ℕ)
  | unregister (socket : ℕ)
  | close (socket : ℕ) (persisted : Bool)
  | publishDisconnected (socket : ℕ)
  /-- A caller, an API handler or a task that cleans up after a caller. -/
  | relay (action : HubAction)

def HubAction.isOfSocket : HubAction → Bool
  | .register .. | .unregister .. | .receive .. | .close .. | .complete .. | .recordInvocationActivity .. => true
  | .disconnect .. | .notifyRuntimeConfig .. | .notifyApplicationFeedback .. | .post .. | .sendDelayed .. | .invoke .. |
    .send .. | .respond .. | .activityClosed .. | .giveUp .. | .drop .. | .removePending .. | .queueCancel .. |
    .deliver .. => false

/-- `run_socket` returns, and the receiver of its channel is dropped. -/
def RelayHub.dropReceiver (queueCapacity : ℕ) (relay : RelayHub) (socket : Socket) : Option RelayHub :=
  match socket.connection with
  | none => some relay
  | some connection => relay.step queueCapacity (.close connection.sender)

namespace AppState

def started : AppState where
  relay := .new
  sessions := .empty
  monitor := ∅
  sockets := []

variable (queueCapacity : ℕ) (server : AppState)

def setSocket (index : ℕ) (socket : Socket) : AppState := { server with sockets := server.sockets.set index socket }

def finish (index : ℕ) (socket : Socket) : Option AppState := do
  let relay ← server.relay.dropReceiver queueCapacity socket
  some { server.setSocket index { socket with phase := .returned } with relay }

def step (server : AppState) : ServerAction → Option AppState
  | .openSession gatewayId agents features resumeSessionId sessionId =>
    -- a new session draws an id of its own
    if fresh : sessionId ∉ server.sessions.rows.map AgentGatewaySession.sessionId then
      let opened := server.sessions.openSession gatewayId resumeSessionId sessionId fresh
      some { server with
        sessions := opened.1
        sockets := server.sockets ++ [.new gatewayId opened.2.1 agents features] }
    else none
  | .reconcile index reconciled => do
    let socket ← server.sockets[index]?
    if socket.phase = .reconciling then
      if reconciled then some (server.setSocket index { socket with phase := .registering })
      else server.finish queueCapacity index socket
    else none
  | .register index connectionId => do
    let socket ← server.sockets[index]?
    if socket.phase = .registering then do
      let connection := socket.connectionOf connectionId server.relay.channels.length
      let relay ← server.relay.step queueCapacity (.register socket.gatewayId connectionId socket.sessionId
        socket.features.applicationFeedback socket.features.invocationActivity)
      some { server.setSocket index { socket with connection := some connection, phase := .welcoming } with relay }
    else none
  | .welcome index sent => do
    let socket ← server.sockets[index]?
    if socket.phase = .welcoming then
      if sent then some (server.setSocket index { socket with phase := .publishing })
      else server.finish queueCapacity index socket
    else none
  | .publishConnected index => do
    let socket ← server.sockets[index]?
    if socket.phase = .publishing then
      some { server.setSocket index { socket with published := true, phase := .readying socket.readyCommands } with
        monitor := server.monitor.insert socket.gatewayId socket.agents }
    else none
  | .ready index sent => do
    let socket ← server.sockets[index]?
    match socket.phase with
    | .readying (_ :: left) =>
      if sent then some (server.setSocket index { socket with phase := .readying left })
      else server.finish queueCapacity index socket
    | _ => none
  | .enterLoop index => do
    let socket ← server.sockets[index]?
    if socket.phase = .readying [] then some (server.setSocket index { socket with phase := .looping }) else none
  | .receive index => do
    let socket ← server.sockets[index]?
    let connection ← socket.connection
    let channel ← server.relay.channels[connection.sender]?
    let command ← channel.queue.head?
    if socket.phase = .looping then do
      let relay ← server.relay.step queueCapacity (.receive connection.sender)
      some { server.setSocket index { socket with phase := .sending command } with relay }
    else none
  | .send index sent => do
    let socket ← server.sockets[index]?
    match socket.phase with
    | .sending command =>
      if sent then
        some (server.setSocket index
          { socket with
            written := socket.written ++ [command]
            phase := if disconnects command then .leaving else .looping })
      else some (server.setSocket index { socket with phase := .leaving })
    | _ => none
  | .completeReply index requestId channelId result => do
    let socket ← server.sockets[index]?
    let connection ← socket.connection
    if socket.phase = .looping then do
      let relay ← server.relay.step queueCapacity (.complete connection.connectionId requestId channelId result)
      some { server with relay }
    else none
  | .recordActivity index requestId channelId => do
    let socket ← server.sockets[index]?
    let connection ← socket.connection
    if socket.phase = .looping ∧ socket.features.invocationActivity = true then do
      let relay ← server.relay.step queueCapacity (.recordInvocationActivity connection.connectionId requestId channelId)
      some { server with relay }
    else none
  | .touch index persisted acknowledged => do
    let socket ← server.sockets[index]?
    if socket.phase = .looping then
      -- that it cannot be written is only logged
      let sessions := if persisted then (server.sessions.touchSession socket.sessionId).getD server.sessions
        else server.sessions
      some { server.setSocket index { socket with phase := if acknowledged then .acknowledging else .looping } with sessions }
    else none
  | .acknowledge index sent => do
    let socket ← server.sockets[index]?
    if socket.phase = .acknowledging then
      if sent then some (server.setSocket index { socket with phase := .looping })
      else server.finish queueCapacity index socket
    else none
  | .leave index => do
    let socket ← server.sockets[index]?
    if socket.phase = .looping then some (server.setSocket index { socket with phase := .leaving }) else none
  | .unregister index => do
    let socket ← server.sockets[index]?
    let connection ← socket.connection
    if socket.phase = .leaving then do
      let removedCurrent := server.relay.inner.isCurrent socket.gatewayId connection.connectionId
      let relay ← server.relay.step queueCapacity (.unregister socket.gatewayId connection.connectionId)
      let left := { socket with unregistered := true, phase := .closing }
      if removedCurrent then some { server.setSocket index left with relay }
      else ({ server with relay } : AppState).finish queueCapacity index left
    else none
  | .close index persisted => do
    let socket ← server.sockets[index]?
    if socket.phase = .closing then
      -- that it cannot be written is only logged
      let sessions := if persisted then server.sessions.closeSession socket.sessionId else server.sessions
      some { server.setSocket index { socket with closed := persisted, phase := .retiring } with sessions }
    else none
  | .publishDisconnected index => do
    let socket ← server.sockets[index]?
    if socket.phase = .retiring then
      ({ server with monitor := server.monitor.erase socket.gatewayId } : AppState).finish queueCapacity index
        { socket with retired := true }
    else none
  | .relay action => do
    if action.isOfSocket then none
    else
      let relay ← server.relay.step queueCapacity action
      some { server with relay }

end AppState

/-- The server after its start, which disconnects the sessions of earlier runs. -/
def serverMachine (queueCapacity : ℕ) : Machine AppState ServerAction where
  start server := server.relay = .new ∧ server.monitor = ∅ ∧ server.sockets = [] ∧
    ∀ row ∈ server.sessions.rows, row.connected = false
  step := AppState.step queueCapacity

theorem started_start (queueCapacity : ℕ) : (serverMachine queueCapacity).start .started :=
  ⟨rfl, rfl, rfl, by simp [AppState.started, SessionTable.empty]⟩

end Vifu.Server
