import Vifu.Server.Socket.Machine

/-!
# What a step of a socket does

The steps of the server with their guards, and what they leave of the relay hub.
-/

namespace Vifu.Server

open Foundation
open Vifu.Runtime hiding validateIdentifier
open Vifu.Gateway

/-! ## What a step does -/

namespace AppState

/-- Steps that change nothing but the phase of a socket. -/
inductive Turns (index : ℕ) : ServerAction → SocketPhase → SocketPhase → Prop where
  | reconcile : Turns index (.reconcile index true) .reconciling .registering
  | welcome : Turns index (.welcome index true) .welcoming .publishing
  | ready (command : AgentGatewayCommand) (left : List AgentGatewayCommand) :
    Turns index (.ready index true) (.readying (command :: left)) (.readying left)
  | enterLoop : Turns index (.enterLoop index) (.readying []) .looping
  | send (command : AgentGatewayCommand) : Turns index (.send index false) (.sending command) .leaving
  | acknowledge : Turns index (.acknowledge index true) .acknowledging .looping
  | leave : Turns index (.leave index) .looping .leaving

/-- Steps in which a socket returns because it cannot go on. -/
inductive Fails (index : ℕ) : ServerAction → SocketPhase → Prop where
  | reconcile : Fails index (.reconcile index false) .reconciling
  | welcome : Fails index (.welcome index false) .welcoming
  | ready (command : AgentGatewayCommand) (left : List AgentGatewayCommand) :
    Fails index (.ready index false) (.readying (command :: left))
  | acknowledge : Fails index (.acknowledge index false) .acknowledging

/-- Steps of the hub that leave the sockets alone. -/
inductive Relays : ServerAction → HubAction → Prop where
  | reply (index : ℕ) (requestId : Uuid) (channelId : ℕ) (result : Except String Value) (connectionId : Uuid) :
    Relays (.completeReply index requestId channelId result) (.complete connectionId requestId channelId result)
  | activity (index : ℕ) (requestId : Uuid) (channelId : ℕ) (connectionId : Uuid) :
    Relays (.recordActivity index requestId channelId) (.recordInvocationActivity connectionId requestId channelId)
  | other (action : HubAction) (isOther : action.isOfSocket = false) : Relays (.relay action) action

inductive Steps (queueCapacity : ℕ) (server : AppState) : ServerAction → AppState → Prop where
  | openSession (gatewayId : String) (agents : List AgentDescriptor) (features : GatewayFeatures)
    (resumeSessionId : Option Uuid) (sessionId : Uuid)
    (fresh : sessionId ∉ server.sessions.rows.map AgentGatewaySession.sessionId) :
    Steps queueCapacity server (.openSession gatewayId agents features resumeSessionId sessionId)
      { server with
        sessions := (server.sessions.openSession gatewayId resumeSessionId sessionId fresh).1
        sockets := server.sockets ++
          [.new gatewayId (server.sessions.openSession gatewayId resumeSessionId sessionId fresh).2.1 agents features] }
  | turn (action : ServerAction) (index : ℕ) (socket : Socket) (phase : SocketPhase)
    (stored : server.sockets[index]? = some socket) (turns : Turns index action socket.phase phase) :
    Steps queueCapacity server action (server.setSocket index { socket with phase })
  | fail (action : ServerAction) (index : ℕ) (socket : Socket) (relay : RelayHub)
    (stored : server.sockets[index]? = some socket) (fails : Fails index action socket.phase)
    (dropped : server.relay.dropReceiver queueCapacity socket = some relay) :
    Steps queueCapacity server action { server.setSocket index { socket with phase := .returned } with relay }
  | register (index : ℕ) (connectionId : Uuid) (socket : Socket) (stored : server.sockets[index]? = some socket)
    (registering : socket.phase = .registering)
    (unused : connectionId ∉ server.relay.channels.map CommandChannel.connectionId) :
    Steps queueCapacity server (.register index connectionId)
      { server.setSocket index
          { socket with
            connection := some (socket.connectionOf connectionId server.relay.channels.length)
            phase := .welcoming } with
        relay := server.relay.register socket.gatewayId connectionId socket.sessionId socket.features.applicationFeedback
          socket.features.invocationActivity }
  | publishConnected (index : ℕ) (socket : Socket) (stored : server.sockets[index]? = some socket)
    (publishing : socket.phase = .publishing) :
    Steps queueCapacity server (.publishConnected index)
      { server.setSocket index { socket with published := true, phase := .readying socket.readyCommands } with
        monitor := server.monitor.insert socket.gatewayId socket.agents }
  | receive (index : ℕ) (socket : Socket) (connection : AgentGatewayConnection) (channel : CommandChannel)
    (command : AgentGatewayCommand) (queue : List AgentGatewayCommand) (stored : server.sockets[index]? = some socket)
    (looping : socket.phase = .looping) (isConnection : socket.connection = some connection)
    (found : server.relay.channels[connection.sender]? = some channel) (queued : channel.queue = command :: queue)
    (receiving : channel.receiving = true) :
    Steps queueCapacity server (.receive index)
      { server.setSocket index { socket with phase := .sending command } with
        relay := server.relay.setChannel connection.sender { channel with queue } }
  | send (index : ℕ) (socket : Socket) (command : AgentGatewayCommand) (stored : server.sockets[index]? = some socket)
    (sending : socket.phase = .sending command) :
    Steps queueCapacity server (.send index true)
      (server.setSocket index
        { socket with
          written := socket.written ++ [command]
          phase := if disconnects command then .leaving else .looping })
  | relay (action : ServerAction) (hubAction : HubAction) (relay : RelayHub) (relays : Relays action hubAction)
    (stepped : server.relay.step queueCapacity hubAction = some relay) :
    Steps queueCapacity server action { server with relay }
  | touch (index : ℕ) (persisted acknowledged : Bool) (socket : Socket) (stored : server.sockets[index]? = some socket)
    (looping : socket.phase = .looping) :
    Steps queueCapacity server (.touch index persisted acknowledged)
      { server.setSocket index { socket with phase := if acknowledged then .acknowledging else .looping } with
        sessions := if persisted then (server.sessions.touchSession socket.sessionId).getD server.sessions
          else server.sessions }
  | unregister (index : ℕ) (socket : Socket) (connection : AgentGatewayConnection)
    (stored : server.sockets[index]? = some socket) (leaving : socket.phase = .leaving)
    (isConnection : socket.connection = some connection)
    (current : server.relay.inner.isCurrent socket.gatewayId connection.connectionId = true)
    (known : server.relay.step queueCapacity (.unregister socket.gatewayId connection.connectionId) =
      some (server.relay.unregister socket.gatewayId connection.connectionId)) :
    Steps queueCapacity server (.unregister index)
      { server.setSocket index { socket with unregistered := true, phase := .closing } with
        relay := server.relay.unregister socket.gatewayId connection.connectionId }
  | replaced (index : ℕ) (socket : Socket) (connection : AgentGatewayConnection) (relay : RelayHub)
    (stored : server.sockets[index]? = some socket) (leaving : socket.phase = .leaving)
    (isConnection : socket.connection = some connection)
    (current : server.relay.inner.isCurrent socket.gatewayId connection.connectionId = false)
    (known : server.relay.step queueCapacity (.unregister socket.gatewayId connection.connectionId) =
      some (server.relay.unregister socket.gatewayId connection.connectionId))
    (dropped : (server.relay.unregister socket.gatewayId connection.connectionId).dropReceiver queueCapacity socket =
      some relay) :
    Steps queueCapacity server (.unregister index)
      { server.setSocket index { socket with unregistered := true, phase := .returned } with relay }
  | close (index : ℕ) (persisted : Bool) (socket : Socket) (stored : server.sockets[index]? = some socket)
    (closing : socket.phase = .closing) :
    Steps queueCapacity server (.close index persisted)
      { server.setSocket index { socket with closed := persisted, phase := .retiring } with
        sessions := if persisted then server.sessions.closeSession socket.sessionId else server.sessions }
  | publishDisconnected (index : ℕ) (socket : Socket) (relay : RelayHub) (stored : server.sockets[index]? = some socket)
    (retiring : socket.phase = .retiring) (dropped : server.relay.dropReceiver queueCapacity socket = some relay) :
    Steps queueCapacity server (.publishDisconnected index)
      { server.setSocket index { socket with retired := true, phase := .returned } with
        relay
        monitor := server.monitor.erase socket.gatewayId }

variable {queueCapacity : ℕ} {server next : AppState} {socket : Socket} {action : ServerAction} {index : ℕ}
  {phase : SocketPhase}

theorem finish_eq (finished : server.finish queueCapacity index socket = some next) :
    ∃ relay, server.relay.dropReceiver queueCapacity socket = some relay ∧
      next = { server.setSocket index { socket with phase := .returned } with relay } := by
  obtain ⟨relay, dropped, finished⟩ := Option.bind_eq_some_iff.mp finished
  cases finished
  exact ⟨relay, dropped, rfl⟩

theorem guarded {α : Type} {rest : Socket → Option α} {result : α}
    (stepped : (server.sockets[index]?.bind fun socket => if socket.phase = phase then rest socket else none) =
      some result) :
    ∃ socket, server.sockets[index]? = some socket ∧ socket.phase = phase ∧ rest socket = some result := by
  obtain ⟨socket, stored, stepped⟩ := Option.bind_eq_some_iff.mp stepped
  obtain ⟨isPhase, stepped⟩ := Option.ite_none_right_eq_some.mp stepped
  exact ⟨socket, stored, isPhase, stepped⟩

theorem turn_or_fail {action : Bool → ServerAction} {succeeds : Bool}
    (stored : server.sockets[index]? = some socket) (turns : Turns index (action true) socket.phase phase)
    (fails : Fails index (action false) socket.phase)
    (stepped : (if succeeds then some (server.setSocket index { socket with phase })
      else server.finish queueCapacity index socket) = some next) :
    Steps queueCapacity server (action succeeds) next := by
  cases succeeds with
  | true =>
    cases stepped
    exact .turn _ index socket phase stored turns
  | false =>
    obtain ⟨relay, dropped, rfl⟩ := finish_eq stepped
    exact .fail _ index socket relay stored fails dropped

theorem steps_of_step (stepped : server.step queueCapacity action = some next) :
    Steps queueCapacity server action next := by
  cases action with
  | openSession gatewayId agents features resumeSessionId sessionId =>
    simp only [step] at stepped
    split at stepped
    next fresh =>
      cases stepped
      exact .openSession gatewayId agents features resumeSessionId sessionId fresh
    next => cases stepped
  | reconcile index reconciled =>
    obtain ⟨socket, stored, phase, stepped⟩ := guarded stepped
    exact turn_or_fail stored (phase ▸ .reconcile) (phase ▸ .reconcile) stepped
  | register index connectionId =>
    obtain ⟨socket, stored, phase, stepped⟩ := guarded stepped
    obtain ⟨relay, registered, stepped⟩ := Option.bind_eq_some_iff.mp stepped
    cases stepped
    simp only [RelayHub.step] at registered
    split at registered
    next => cases registered
    next unused =>
      cases registered
      exact .register index connectionId socket stored phase unused
  | welcome index sent =>
    obtain ⟨socket, stored, phase, stepped⟩ := guarded stepped
    exact turn_or_fail stored (phase ▸ .welcome) (phase ▸ .welcome) stepped
  | publishConnected index =>
    obtain ⟨socket, stored, phase, stepped⟩ := guarded stepped
    cases stepped
    exact .publishConnected index socket stored phase
  | ready index sent =>
    obtain ⟨socket, stored, stepped⟩ := Option.bind_eq_some_iff.mp stepped
    split at stepped
    next command left phase =>
      exact turn_or_fail stored (phase ▸ .ready command left) (phase ▸ .ready command left) stepped
    next => cases stepped
  | enterLoop index =>
    obtain ⟨socket, stored, phase, stepped⟩ := guarded stepped
    cases stepped
    exact .turn _ index socket _ stored (phase ▸ .enterLoop)
  | receive index =>
    obtain ⟨socket, stored, stepped⟩ := Option.bind_eq_some_iff.mp stepped
    obtain ⟨connection, isConnection, stepped⟩ := Option.bind_eq_some_iff.mp stepped
    obtain ⟨channel, found, stepped⟩ := Option.bind_eq_some_iff.mp stepped
    obtain ⟨command, isHead, stepped⟩ := Option.bind_eq_some_iff.mp stepped
    obtain ⟨phase, stepped⟩ := Option.ite_none_right_eq_some.mp stepped
    obtain ⟨relay, received, stepped⟩ := Option.bind_eq_some_iff.mp stepped
    cases stepped
    obtain ⟨other, isOther, received⟩ := Option.bind_eq_some_iff.mp received
    rw [found, Option.some.injEq] at isOther
    subst isOther
    split at received
    next head queue receiving queued =>
      cases received
      rw [queued, List.head?_cons, Option.some.injEq] at isHead
      subst isHead
      exact .receive index socket connection channel head queue stored phase isConnection found queued receiving
    next => cases received
  | send index sent =>
    obtain ⟨socket, stored, stepped⟩ := Option.bind_eq_some_iff.mp stepped
    split at stepped
    next command phase =>
      cases sent with
      | true =>
        cases stepped
        exact .send index socket command stored phase
      | false =>
        cases stepped
        exact .turn _ index socket _ stored (phase ▸ .send command)
    next => cases stepped
  | completeReply index requestId channelId result =>
    obtain ⟨socket, stored, stepped⟩ := Option.bind_eq_some_iff.mp stepped
    obtain ⟨connection, isConnection, stepped⟩ := Option.bind_eq_some_iff.mp stepped
    obtain ⟨-, stepped⟩ := Option.ite_none_right_eq_some.mp stepped
    obtain ⟨relay, completed, stepped⟩ := Option.bind_eq_some_iff.mp stepped
    cases stepped
    exact .relay _ _ relay (.reply index requestId channelId result connection.connectionId) completed
  | recordActivity index requestId channelId =>
    obtain ⟨socket, stored, stepped⟩ := Option.bind_eq_some_iff.mp stepped
    obtain ⟨connection, isConnection, stepped⟩ := Option.bind_eq_some_iff.mp stepped
    obtain ⟨-, stepped⟩ := Option.ite_none_right_eq_some.mp stepped
    obtain ⟨relay, recorded, stepped⟩ := Option.bind_eq_some_iff.mp stepped
    cases stepped
    exact .relay _ _ relay (.activity index requestId channelId connection.connectionId) recorded
  | touch index persisted acknowledged =>
    obtain ⟨socket, stored, phase, stepped⟩ := guarded stepped
    cases stepped
    exact .touch index persisted acknowledged socket stored phase
  | acknowledge index sent =>
    obtain ⟨socket, stored, phase, stepped⟩ := guarded stepped
    exact turn_or_fail stored (phase ▸ .acknowledge) (phase ▸ .acknowledge) stepped
  | leave index =>
    obtain ⟨socket, stored, phase, stepped⟩ := guarded stepped
    cases stepped
    exact .turn _ index socket _ stored (phase ▸ .leave)
  | unregister index =>
    obtain ⟨socket, stored, stepped⟩ := Option.bind_eq_some_iff.mp stepped
    obtain ⟨connection, isConnection, stepped⟩ := Option.bind_eq_some_iff.mp stepped
    obtain ⟨phase, stepped⟩ := Option.ite_none_right_eq_some.mp stepped
    obtain ⟨relay, known, stepped⟩ := Option.bind_eq_some_iff.mp stepped
    obtain rfl : relay = server.relay.unregister socket.gatewayId connection.connectionId := by
      exact (Option.some.inj (Option.ite_none_right_eq_some.mp known).2).symm
    split at stepped
    next current =>
      cases stepped
      exact .unregister index socket connection stored phase isConnection current known
    next replaced =>
      obtain ⟨relay, dropped, rfl⟩ := finish_eq stepped
      rw [Bool.not_eq_true] at replaced
      exact .replaced index socket connection relay stored phase isConnection replaced known dropped
  | close index persisted =>
    obtain ⟨socket, stored, phase, stepped⟩ := guarded stepped
    cases stepped
    exact .close index persisted socket stored phase
  | publishDisconnected index =>
    obtain ⟨socket, stored, phase, stepped⟩ := guarded stepped
    obtain ⟨relay, dropped, rfl⟩ := finish_eq stepped
    exact .publishDisconnected index socket relay stored phase dropped
  | relay action =>
    simp only [step] at stepped
    split at stepped
    next => cases stepped
    next isOther =>
      obtain ⟨relay, relayed, stepped⟩ := Option.bind_eq_some_iff.mp stepped
      cases stepped
      exact .relay _ action relay (.other action (by simpa using isOther)) relayed

/-- The steps of the hub that one step of the server makes. -/
abbrev RelayRuns (queueCapacity : ℕ) : RelayHub → RelayHub → Prop := (hubMachine queueCapacity).RunsTo Machine.always

theorem dropReceiver_runs {relay after : RelayHub}
    (dropped : relay.dropReceiver queueCapacity socket = some after) : RelayRuns queueCapacity relay after := by
  rw [RelayHub.dropReceiver] at dropped
  split at dropped
  next =>
    cases dropped
    exact .refl
  next connection _ => exact .single ⟨.close connection.sender, trivial, dropped⟩

theorem Steps.relayRuns (steps : Steps queueCapacity server action next) :
    RelayRuns queueCapacity server.relay next.relay := by
  cases steps with
  | openSession | turn | publishConnected | send | touch | close => exact .refl
  | fail action index socket relay stored fails dropped => exact dropReceiver_runs dropped
  | register index connectionId socket stored registering unused =>
    exact .single ⟨.register socket.gatewayId connectionId socket.sessionId socket.features.applicationFeedback
      socket.features.invocationActivity, trivial, if_neg unused⟩
  | receive index socket connection channel command queue stored looping isConnection found queued receiving =>
    refine .single ⟨.receive connection.sender, trivial, ?_⟩
    show server.relay.step queueCapacity (.receive connection.sender) = _
    simp [RelayHub.step, found, queued, receiving]
  | relay action hubAction relay relays stepped => exact .single ⟨hubAction, trivial, stepped⟩
  | unregister index socket connection stored leaving isConnection current known =>
    exact .single ⟨.unregister socket.gatewayId connection.connectionId, trivial, known⟩
  | replaced index socket connection relay stored leaving isConnection current known dropped =>
    exact .head ⟨.unregister socket.gatewayId connection.connectionId, trivial, known⟩ (dropReceiver_runs dropped)
  | publishDisconnected index socket relay stored retiring dropped => exact dropReceiver_runs dropped

theorem relay_invariant {Holds : RelayHub → Prop} (initially : Holds .new)
    (kept : ∀ state action next, Holds state → RelayHub.step queueCapacity state action = some next → Holds next)
    {admits : AppState → ServerAction → Prop} (reachable : (serverMachine queueCapacity).Reachable admits server) :
    Holds server.relay := by
  show (fun server : AppState => Holds server.relay) server
  apply reachable.invariant
  · intro start isStart
    rw [isStart.1]
    exact initially
  · intro server action next holds _ stepped
    refine (steps_of_step stepped).relayRuns.preserves ?_ holds
    exact fun state action next holds _ stepped => kept state action next holds stepped

end AppState

end Vifu.Server
