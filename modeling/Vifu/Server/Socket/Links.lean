import Vifu.Server.Socket.Steps

/-!
# Sockets and their channels

Every socket that has registered owns a channel of the hub, which no other socket takes commands from, and
what the other steps of the hub do to that channel is to add commands to its queue.
-/

namespace Vifu.Server

open Foundation
open Vifu.Runtime hiding validateIdentifier
open Vifu.Gateway

/-! ## What the hub keeps -/

variable {index : ℕ} {ids : String × Uuid} {event : HubEvent} {place : ℕ}

namespace RelayHub

variable {careful takes : Prop} {queueCapacity : ℕ} {state next : RelayHub}

theorem Move.remembers (move : Move careful takes queueCapacity state next)
    (mem : event ∈ state.history) : event ∈ next.history := by
  cases move with
  | invoke route requestId input timeoutMs connection found =>
    rw [invoke_eq found]
    exact mem
  | register | notices | channel | sent | turn | remove | dropCancel | leak | lost | deliver | discard | activity =>
    exact mem
  | unregister | refused | answered | unanswered | removeRefused | cancel | complete =>
    exact List.mem_append_left _ mem

theorem Move.channelIds (move : Move careful takes queueCapacity state next)
    (found : (state.channels.map CommandChannel.ids)[place]? = some ids) :
    (next.channels.map CommandChannel.ids)[place]? = some ids := by
  obtain ⟨gatewayId, connectionId, sessionId, feedback, activity, -, rfl⟩ | ⟨gatewayId, channel, -, -, rfl⟩ | ⟨-, same, -⟩ :=
    move.frame
  · show ((state.channels ++ [CommandChannel.new gatewayId connectionId]).map CommandChannel.ids)[place]? = _
    rw [List.map_append, List.getElem?_append_left (List.getElem?_eq_some_iff.mp found).1]
    exact found
  · exact found
  · rw [same]
    exact found

def Appends (state next : RelayHub) : Prop :=
  ∀ (place : ℕ) (channel : CommandChannel), state.channels[place]? = some channel →
    ∃ later, next.channels[place]? = some later ∧ channel.queue <+: later.queue

theorem Appends.of_same (same : next.channels = state.channels) : state.Appends next := by
  intro place channel stored
  exact ⟨channel, by rw [same]; exact stored, List.prefix_rfl⟩

theorem Appends.set {before after : CommandChannel} (stored : state.channels[index]? = some before)
    (same : next.channels = state.channels.set index after) (appends : before.queue <+: after.queue) : state.Appends next := by
  intro place channel found
  rw [same]
  by_cases isIndex : place = index
  · subst isIndex
    rw [stored, Option.some.injEq] at found
    subst found
    exact ⟨after, List.getElem?_set_self (List.getElem?_eq_some_iff.mp stored).1, appends⟩
  · exact ⟨channel, (List.getElem?_set_ne (Ne.symm isIndex)).trans found, List.prefix_rfl⟩

theorem queueInvocationCancel_appends (reserved : ℕ) (channel : CommandChannel) (requestId : Uuid) (channelId : ℕ) :
    channel.queue <+: (channel.queueInvocationCancel queueCapacity reserved requestId channelId).queue := by
  rw [CommandChannel.queueInvocationCancel]
  split
  next sent sends =>
    rw [(CommandChannel.trySend_ok.mp sends).2]
    exact List.prefix_append _ _
  next => exact List.prefix_rfl
  next => exact List.prefix_rfl

theorem Move.appends (move : Move careful False queueCapacity state next) : state.Appends next := by
  cases move with
  | register gatewayId connectionId sessionId feedback activity =>
    intro place channel stored
    refine ⟨channel, ?_, List.prefix_rfl⟩
    exact (List.getElem?_append_left (List.getElem?_eq_some_iff.mp stored).1).trans stored
  | channel index before after notices stored moves =>
    refine .set stored rfl ?_
    cases moves with
    | push command | delayed place command => exact List.prefix_append _ _
    | receive queue taken | close taken => exact taken.elim
  | sent index call channel stored found => exact .set found rfl (List.prefix_append _ _)
  | cancel index reserved call channel error stored found => exact .set found rfl (queueInvocationCancel_appends ..)
  | dropCancel index reserved call channel stored found => exact .set found rfl (queueInvocationCancel_appends ..)
  | lost index place channel stored => exact .set stored rfl List.prefix_rfl
  | invoke route requestId input timeoutMs connection found =>
    rw [invoke_eq found]
    exact .of_same rfl
  | unregister | notices | refused | turn | answered | unanswered | removeRefused | remove | leak | complete | deliver |
    discard | activity => exact .of_same rfl

section

variable {action : HubAction} (stepped : state.step queueCapacity action = some next)
include stepped

theorem calls_length : (∃ route requestId input timeoutMs, action = .invoke route requestId input timeoutMs) ∨
      next.calls.length = state.calls.length := by
  cases action with
  | invoke route requestId input timeoutMs => exact .inl ⟨route, requestId, input, timeoutMs, rfl⟩
  | disconnect | notifyRuntimeConfig =>
    right
    simp only [step, notify] at stepped
    grind
  | register | unregister | notifyApplicationFeedback | post | receive | sendDelayed | close | send | respond |
    activityClosed | giveUp | drop | removePending | queueCancel | complete | deliver | recordInvocationActivity =>
    right
    simp only [step, Option.bind_eq_bind, Option.bind_eq_some_iff] at stepped
    grind [setCall, setChannel, resolve, register, unregister, complete, notify]

theorem connections_of_step : (∃ gatewayId connectionId sessionId feedback activity,
      action = .register gatewayId connectionId sessionId feedback activity) ∨
    (∃ gatewayId connectionId, action = .unregister gatewayId connectionId) ∨
    next.inner.connections = state.inner.connections := by
  cases action with
  | register gatewayId connectionId sessionId feedback activity => exact .inl ⟨_, _, _, _, _, rfl⟩
  | unregister gatewayId connectionId => exact .inr (.inl ⟨_, _, rfl⟩)
  | invoke route requestId input timeoutMs =>
    cases stepped
    right
    right
    cases found : state.inner.connections.lookup route.gatewayId with
    | none => simp [invoke, RelayState.openCall, found]
    | some connection =>
      rw [invoke_eq found]
      rfl
  | disconnect | notifyRuntimeConfig =>
    right
    right
    simp only [step, notify] at stepped
    grind
  | notifyApplicationFeedback | post | receive | sendDelayed | close | send | respond | activityClosed | giveUp | drop |
    removePending | queueCancel | complete | deliver | recordInvocationActivity =>
    right
    right
    simp only [step, Option.bind_eq_bind, Option.bind_eq_some_iff] at stepped
    grind [setCall, setChannel, resolve, complete, notify, RelayState.complete, RelayState.removePending,
      RelayState.recordInvocationActivity]

theorem calls_of_step : (∃ route requestId input timeoutMs, action = .invoke route requestId input timeoutMs) ∨
      next.calls.map RelayCall.ids = state.calls.map RelayCall.ids := by
  have move : Move False True queueCapacity state next := move_of_step False.elim (fun _ => trivial) stepped
  obtain ⟨route, requestId, input, timeoutMs, connection, found, -, -, rfl⟩ | ⟨-, same, -⟩ := move.kept
  · obtain isInvoke | length := calls_length stepped
    · exact .inl isInvoke
    · rw [invoke_eq found, List.length_append, List.length_singleton] at length
      omega
  · exact .inr same

end

end RelayHub

/-! ## What the sockets keep -/

namespace AppState

variable {queueCapacity : ℕ} {server next : AppState} {socket changed : Socket} {action : ServerAction}

section

variable {state after : RelayHub}

theorem RelayRuns.remembers (runs : RelayRuns queueCapacity state after)
    (mem : event ∈ state.history) : event ∈ after.history := by
  show (fun state : RelayHub => event ∈ state.history) after
  apply runs.preserves
  · intro state action next mem _ stepped
    have move : RelayHub.Move False True queueCapacity state next :=
      RelayHub.move_of_step False.elim (fun _ => trivial) stepped
    exact move.remembers mem
  · exact mem

theorem RelayRuns.channelIds (runs : RelayRuns queueCapacity state after)
    (found : (state.channels.map CommandChannel.ids)[place]? = some ids) :
    (after.channels.map CommandChannel.ids)[place]? = some ids := by
  show (fun state : RelayHub => (state.channels.map CommandChannel.ids)[place]? = some ids) after
  apply runs.preserves
  · intro state action next found _ stepped
    have move : RelayHub.Move False True queueCapacity state next :=
      RelayHub.move_of_step False.elim (fun _ => trivial) stepped
    exact move.channelIds found
  · exact found

end

structure Linked (server : AppState) : Prop where
  registered : ∀ (index : ℕ) (socket : Socket) connection, server.sockets[index]? = some socket →
    socket.connection = some connection → socket.phase ≠ .reconciling ∧ socket.phase ≠ .registering
  channels : ∀ (index : ℕ) (socket : Socket) connection, server.sockets[index]? = some socket →
    socket.connection = some connection →
    (server.relay.channels.map CommandChannel.ids)[connection.sender]? = some (socket.gatewayId, connection.connectionId)
  distinct : ∀ (index other : ℕ) (socket another : Socket) connection otherConnection,
    server.sockets[index]? = some socket → server.sockets[other]? = some another →
    socket.connection = some connection → another.connection = some otherConnection →
    connection.sender = otherConnection.sender → index = other

def KeepsChannels (state after : RelayHub) : Prop :=
  ∀ (place : ℕ) (ids : String × Uuid), (state.channels.map CommandChannel.ids)[place]? = some ids →
    (after.channels.map CommandChannel.ids)[place]? = some ids

theorem linked_started {start : AppState} (isStart : (serverMachine queueCapacity).start start) : start.Linked := by
  have none (index : ℕ) (socket : Socket) : start.sockets[index]? ≠ some socket := by
    rw [isStart.2.2.1]
    simp
  exact ⟨fun index socket _ stored => absurd stored (none index socket),
    fun index socket _ stored => absurd stored (none index socket),
    fun index _ socket _ _ _ stored => absurd stored (none index socket)⟩

theorem Linked.openSession (linked : server.Linked) {socket : Socket} (sockets : next.sockets = server.sockets ++ [socket])
    (relay : next.relay = server.relay) (unregistered : socket.connection = none) : next.Linked := by
  have earlier : ∀ {index : ℕ} {other : Socket} {connection : AgentGatewayConnection}, next.sockets[index]? = some other →
      other.connection = some connection → server.sockets[index]? = some other := by
    intro index other connection stored isConnection
    rw [sockets] at stored
    obtain isEarlier | ⟨-, rfl⟩ := getElem?_append_cases stored
    · exact isEarlier
    · rw [unregistered] at isConnection
      cases isConnection
  refine ⟨?_, ?_, ?_⟩
  · intro index other connection stored isConnection
    exact linked.registered index other connection (earlier stored isConnection) isConnection
  · intro index other connection stored isConnection
    rw [relay]
    exact linked.channels index other connection (earlier stored isConnection) isConnection
  · intro index other first second connection otherConnection stored isStored isFirst isSecond
    exact linked.distinct index other first second connection otherConnection (earlier stored isFirst)
      (earlier isStored isSecond) isFirst isSecond

theorem Linked.set (linked : server.Linked)
    (stored : server.sockets[index]? = some socket) (sockets : next.sockets = server.sockets.set index changed)
    (gateway : changed.gatewayId = socket.gatewayId) (connection : changed.connection = socket.connection)
    (registered : socket.connection ≠ none → changed.phase ≠ .reconciling ∧ changed.phase ≠ .registering)
    (keeps : KeepsChannels server.relay next.relay) : next.Linked := by
  -- every socket has the gateway and the connection that it had
  have earlier : ∀ {place : ℕ} {other : Socket}, next.sockets[place]? = some other →
      ∃ before, server.sockets[place]? = some before ∧ other.gatewayId = before.gatewayId ∧
        other.connection = before.connection := by
    intro place other found
    rw [sockets] at found
    obtain ⟨rfl, rfl⟩ | ⟨-, isEarlier⟩ := getElem?_set_cases found
    · exact ⟨socket, stored, gateway, connection⟩
    · exact ⟨other, isEarlier, rfl, rfl⟩
  refine ⟨?_, ?_, ?_⟩
  · intro place other isConnection found isOf
    rw [sockets] at found
    obtain ⟨rfl, rfl⟩ | ⟨-, isEarlier⟩ := getElem?_set_cases found
    · exact registered (by rw [← connection, isOf]; simp)
    · exact linked.registered place other isConnection isEarlier isOf
  · intro place other isConnection found isOf
    obtain ⟨before, isBefore, sameGateway, sameConnection⟩ := earlier found
    rw [sameGateway]
    exact keeps _ _ (linked.channels place before isConnection isBefore (sameConnection ▸ isOf))
  · intro place otherPlace first second isConnection otherConnection found isFound isFirst isSecond
    obtain ⟨before, isBefore, -, same⟩ := earlier found
    obtain ⟨another, isAnother, -, isSame⟩ := earlier isFound
    exact linked.distinct place otherPlace before another isConnection otherConnection isBefore isAnother
      (same ▸ isFirst) (isSame ▸ isSecond)

theorem Linked.register (linked : server.Linked) {connectionId : Uuid}
    (stored : server.sockets[index]? = some socket) (sockets : next.sockets = server.sockets.set index changed)
    (gateway : changed.gatewayId = socket.gatewayId)
    (connection : changed.connection = some (socket.connectionOf connectionId server.relay.channels.length))
    (welcoming : changed.phase = .welcoming)
    (channels : next.relay.channels = server.relay.channels ++ [.new socket.gatewayId connectionId]) : next.Linked := by
  have keeps : KeepsChannels server.relay next.relay := by
    intro place ids found
    rw [channels, List.map_append, List.getElem?_append_left (List.getElem?_eq_some_iff.mp found).1]
    exact found
  have below : ∀ {place : ℕ} {other : Socket} {isConnection : AgentGatewayConnection},
      server.sockets[place]? = some other → other.connection = some isConnection →
      isConnection.sender < server.relay.channels.length := by
    intro place other isConnection found isOf
    simpa using (List.getElem?_eq_some_iff.mp (linked.channels place other isConnection found isOf)).1
  have cases : ∀ {place : ℕ} {other : Socket} {isConnection : AgentGatewayConnection}, next.sockets[place]? = some other →
      other.connection = some isConnection →
      (place = index ∧ other = changed ∧ isConnection = socket.connectionOf connectionId server.relay.channels.length) ∨
        server.sockets[place]? = some other := by
    intro place other isConnection found isOf
    rw [sockets] at found
    obtain ⟨rfl, rfl⟩ | ⟨-, isEarlier⟩ := getElem?_set_cases found
    · rw [connection, Option.some.injEq] at isOf
      exact .inl ⟨rfl, rfl, isOf.symm⟩
    · exact .inr isEarlier
  refine ⟨?_, ?_, ?_⟩
  · intro place other isConnection found isOf
    obtain ⟨-, rfl, -⟩ | isEarlier := cases found isOf
    · simp [welcoming]
    · exact linked.registered place other isConnection isEarlier isOf
  · intro place other isConnection found isOf
    obtain ⟨-, rfl, rfl⟩ | isEarlier := cases found isOf
    · rw [channels, gateway]
      simp [Socket.connectionOf, CommandChannel.ids, CommandChannel.new]
    · exact keeps _ _ (linked.channels place other isConnection isEarlier isOf)
  · intro place otherPlace first second isConnection otherConnection found isFound isFirst isSecond same
    obtain ⟨rfl, -, rfl⟩ | isEarlier := cases found isFirst
    · obtain ⟨rfl, -, -⟩ | alsoEarlier := cases isFound isSecond
      · rfl
      · exact absurd same (Nat.ne_of_gt (below alsoEarlier isSecond))
    · obtain ⟨rfl, -, rfl⟩ | alsoEarlier := cases isFound isSecond
      · exact absurd same (Nat.ne_of_lt (below isEarlier isFirst))
      · exact linked.distinct place otherPlace first second isConnection otherConnection isEarlier alsoEarlier isFirst
          isSecond same

theorem Turns.registered {before after : SocketPhase} (turns : Turns index action before after)
    (registered : before ≠ .reconciling ∧ before ≠ .registering) : after ≠ .reconciling ∧ after ≠ .registering := by
  cases turns with
  | reconcile => exact absurd rfl registered.1
  | welcome | ready | enterLoop | send | acknowledge | leave => simp

theorem Linked.step (linked : server.Linked) (steps : Steps queueCapacity server action next) :
    next.Linked := by
  have keeps : KeepsChannels server.relay next.relay := fun _ _ found => steps.relayRuns.channelIds found
  cases steps with
  | openSession => exact linked.openSession rfl rfl rfl
  | turn action index socket phase stored turns =>
    refine linked.set stored rfl rfl rfl (fun isSome => ?_) keeps
    obtain ⟨connection, isConnection⟩ := Option.ne_none_iff_exists'.mp isSome
    exact turns.registered (linked.registered index socket connection stored isConnection)
  | register index connectionId socket stored => exact linked.register stored rfl rfl rfl rfl rfl
  | fail action index socket relay stored | publishDisconnected index socket relay stored =>
    exact linked.set stored rfl rfl rfl (fun _ => by simp) keeps
  | publishConnected index socket stored => exact linked.set stored rfl rfl rfl (fun _ => by simp) keeps
  | receive index socket connection channel command queue stored =>
    exact linked.set stored rfl rfl rfl (fun _ => by simp) keeps
  | send index socket command stored =>
    refine linked.set stored rfl rfl rfl (fun _ => ?_) keeps
    split <;> simp
  | touch index persisted acknowledged socket stored =>
    refine linked.set stored rfl rfl rfl (fun _ => ?_) keeps
    split <;> simp
  | unregister index socket connection stored => exact linked.set stored rfl rfl rfl (fun _ => by simp) keeps
  | replaced index socket connection relay stored => exact linked.set stored rfl rfl rfl (fun _ => by simp) keeps
  | close index persisted socket stored => exact linked.set stored rfl rfl rfl (fun _ => by simp) keeps
  | relay action hubAction relay relays stepped =>
    refine ⟨linked.registered, ?_, linked.distinct⟩
    intro index socket connection stored isConnection
    exact keeps _ _ (linked.channels index socket connection stored isConnection)

theorem Linked.apart (linked : server.Linked) (registered : server.relay.Registered) {index other : ℕ} {socket another : Socket}
    {connection otherConnection : AgentGatewayConnection} (stored : server.sockets[index]? = some socket)
    (isOther : server.sockets[other]? = some another) (isConnection : socket.connection = some connection)
    (isOtherConnection : another.connection = some otherConnection)
    (same : connection.connectionId = otherConnection.connectionId) : index = other := by
  have first := linked.channels index socket connection stored isConnection
  have second := linked.channels other another otherConnection isOther isOtherConnection
  have distinct := registered.distinct
  rw [RelayHub.connectionIds_eq] at distinct
  have idOf {sender : ℕ} {gatewayId : String} {connectionId : Uuid}
      (found : (server.relay.channels.map CommandChannel.ids)[sender]? = some (gatewayId, connectionId)) :
      ((server.relay.channels.map CommandChannel.ids).map Prod.snd)[sender]? = some connectionId := by
    rw [List.getElem?_map, found]
    rfl
  have sameSender : connection.sender = otherConnection.sender := by
    apply (List.getElem?_inj (by simpa using (List.getElem?_eq_some_iff.mp first).1) distinct).mp
    rw [idOf first, idOf second, same]
  exact linked.distinct index other socket another connection otherConnection stored isOther isConnection isOtherConnection
    sameSender

theorem linked_of_reachable {admits : AppState → ServerAction → Prop}
    (reachable : (serverMachine queueCapacity).Reachable admits server) : server.Linked := by
  apply reachable.invariant
  · exact fun start isStart => linked_started isStart
  · exact fun server action next linked _ stepped => linked.step (steps_of_step stepped)

end AppState

end Vifu.Server
