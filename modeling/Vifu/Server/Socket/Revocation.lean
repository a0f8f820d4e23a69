import Vifu.Server.Relay.Delivery
import Vifu.Server.Socket.Links

/-!
# Revoked gateways

A revocation asks the hub to disconnect the gateway.  All that the hub does is to place an error in the queue
of its connection, if there is room: the connection stays in the map until its socket has taken the error out
of the queue, and only if the code of the error is one that the socket knows.
-/

namespace Vifu.Server

open Foundation
open Vifu.Runtime hiding validateIdentifier
open Vifu.Gateway

/-- The command that the loop has taken from the channel and is about to send. -/
def Socket.held (socket : Socket) : List AgentGatewayCommand :=
  match socket.phase with
  | .sending command => [command]
  | .reconciling | .registering | .welcoming | .publishing | .readying _ | .looping | .acknowledging | .leaving | .closing |
    .retiring | .returned => []

/-- Whether the socket has come to the end of its loop. -/
def Socket.hasLeft (socket : Socket) : Bool :=
  match socket.phase with
  | .leaving | .closing | .retiring | .returned => true
  | .reconciling | .registering | .welcoming | .publishing | .readying _ | .looping | .sending _ | .acknowledging => false

variable {socket : Socket}

namespace AppState

/-! ## What has to hold -/

/-- What has become of a socket that had commands ahead: those it has sent are the first of them, and unless its
loop is over, one that ends the loop is among the others, which are first in its queue. -/
def Ends (ahead : List AgentGatewayCommand) (relay : RelayHub) (sender : ℕ) (earlier later : Socket) : Prop :=
  ∃ sent rest, later.written = earlier.written ++ sent ∧ ahead = sent ++ rest ∧
    (later.hasLeft = true ∨ ∃ channel, relay.channels[sender]? = some channel ∧
      rest <+: later.held ++ channel.queue ∧ ∃ command ∈ rest, disconnects command = true)

/-- The gateway gets no more work: since the revocation no call was started that is sent to one of its connections from
before, and the sockets of these connections have sent no more than was in their queues. -/
structure Stopped (gatewayId : String) (old : ℕ) (revoked final : AppState) : Prop where
  invokes : ∀ (place : ℕ) (call : RelayCall), revoked.relay.calls.length ≤ place → final.relay.calls[place]? = some call →
    ∀ channel, final.relay.channels[call.connection.sender]? = some channel → channel.gatewayId = gatewayId →
      old ≤ call.connection.sender
  loops : ∀ (index : ℕ) (socket : Socket) connection channel, revoked.sockets[index]? = some socket →
    socket.gatewayId = gatewayId → socket.connection = some connection → connection.sender < old →
    revoked.relay.channels[connection.sender]? = some channel →
    ∃ later, final.sockets[index]? = some later ∧
      Ends (socket.held ++ channel.queue) final.relay connection.sender socket later

/-- Whether a command that ends the loop is ahead of the socket. -/
def Awaits (relay : RelayHub) (socket : Socket) : Prop :=
  ∃ connection channel command, socket.connection = some connection ∧ relay.channels[connection.sender]? = some channel ∧
    command ∈ socket.held ++ channel.queue ∧ disconnects command = true

/-- Whether the command can be placed in the queue of the socket, and ends its loop. -/
def Hears (queueCapacity reserved : ℕ) (relay : RelayHub) (command : AgentGatewayCommand) (sender : ℕ) (socket : Socket) : Prop :=
  ∃ connection channel, socket.connection = some connection ∧ connection.sender = sender ∧
    relay.channels[sender]? = some channel ∧ channel.receiving = true ∧
    channel.queue.length + reserved < queueCapacity ∧ disconnects command = true

/-- Whether the socket serves one of the first connections of the hub, which is of the gateway. -/
def Serves (gatewayId : String) (old : ℕ) (socket : Socket) : Prop :=
  socket.gatewayId = gatewayId ∧ ∃ connection, socket.connection = some connection ∧ connection.sender < old

/-- `disconnect` is called for the gateway and returns, and every socket that serves it is told to end its loop. -/
inductive Revokes (queueCapacity : ℕ) (gatewayId code : String) (server : AppState) : AppState → Prop where
  | missing (absent : server.relay.inner.connections.lookup gatewayId = none)
    (told : ∀ socket ∈ server.sockets, Serves gatewayId server.relay.channels.length socket →
      socket.hasLeft = true ∨ Awaits server.relay socket) :
    Revokes queueCapacity gatewayId code server server
  | found (connection : AgentGatewayConnection) (noticed posting revoked : AppState) (notice reserved : ℕ)
    (current : server.relay.inner.connections.lookup gatewayId = some connection)
    (looked : server.step queueCapacity (.relay (.disconnect gatewayId code)) = some noticed)
    (run : (serverMachine queueCapacity).RunsTo Machine.always noticed posting)
    (isNotice : posting.relay.notices[notice]? = some (connection.sender, credentialError code))
    (posts : posting.step queueCapacity (.relay (.post notice reserved)) = some revoked)
    (told : ∀ socket ∈ posting.sockets, Serves gatewayId server.relay.channels.length socket →
      socket.hasLeft = true ∨ Awaits posting.relay socket ∨
        Hears queueCapacity reserved posting.relay (credentialError code) connection.sender socket) :
    Revokes queueCapacity gatewayId code server revoked

/-- No call is started that finds a connection of the gateway from before. -/
def Spares (gatewayId : String) (old : ℕ) (server : AppState) : ServerAction → Prop
  | .relay (.invoke route _ _ _) => route.gatewayId = gatewayId →
      ∀ connection, server.relay.inner.connections.lookup gatewayId = some connection → old ≤ connection.sender
  | _ => True

variable {queueCapacity : ℕ} {server next : AppState}

/-! ## Calls -/

variable {relay after : RelayHub}

theorem dropReceiver_calls (dropped : relay.dropReceiver queueCapacity socket = some after) :
    after.calls.map RelayCall.ids = relay.calls.map RelayCall.ids := by
  rw [RelayHub.dropReceiver] at dropped
  split at dropped
  next =>
    cases dropped
    rfl
  next =>
    obtain ⟨_, _, _, _, isInvoke⟩ | same := RelayHub.calls_of_step dropped
    · cases isInvoke
    · exact same

variable {action : ServerAction}

theorem Steps.calls (steps : Steps queueCapacity server action next) :
    (∃ route requestId input timeoutMs, action = .relay (.invoke route requestId input timeoutMs) ∧
      next.relay = server.relay.invoke route requestId input timeoutMs) ∨
    next.relay.calls.map RelayCall.ids = server.relay.calls.map RelayCall.ids := by
  cases steps with
  | openSession | turn | register | publishConnected | receive | send | touch | unregister | close => exact .inr rfl
  | fail action index socket relay stored fails dropped => exact .inr (dropReceiver_calls dropped)
  | replaced index socket connection relay stored leaving isConnection current known dropped =>
    right
    exact (dropReceiver_calls dropped : relay.calls.map RelayCall.ids = _)
  | publishDisconnected index socket relay stored retiring dropped => exact .inr (dropReceiver_calls dropped)
  | relay action hubAction relay relays stepped =>
    obtain ⟨route, requestId, input, timeoutMs, rfl⟩ | same := RelayHub.calls_of_step stepped
    · cases relays
      cases stepped
      exact .inl ⟨route, requestId, input, timeoutMs, rfl, rfl⟩
    · exact .inr same

/-- Calls from some place on are not for the first connections of the gateway. -/
def Idle (gatewayId : String) (old calls : ℕ) (relay : RelayHub) : Prop :=
  ∀ (place : ℕ) (call : RelayCall), calls ≤ place → relay.calls[place]? = some call →
    ∀ connectionId, (relay.channels.map CommandChannel.ids)[call.connection.sender]? = some (gatewayId, connectionId) →
      old ≤ call.connection.sender

theorem Idle.step {gatewayId : String} {old calls : ℕ} (idle : Idle gatewayId old calls server.relay)
    (registered : server.relay.Registered) (spares : Spares gatewayId old server action)
    (steps : Steps queueCapacity server action next) : Idle gatewayId old calls next.relay := by
  -- a call that was there keeps its channel
  have earlier : ∀ {place : ℕ} {call : RelayCall}, calls ≤ place → server.relay.calls[place]? = some call →
      ∀ connectionId, (next.relay.channels.map CommandChannel.ids)[call.connection.sender]? = some (gatewayId, connectionId) →
        old ≤ call.connection.sender := by
    intro place call later stored connectionId isChannel
    obtain ⟨other, known⟩ := registered.calls place call stored
    rw [steps.relayRuns.channelIds known, Option.some.injEq, Prod.mk.injEq] at isChannel
    rw [isChannel.1] at known
    exact idle place call later stored _ known
  obtain ⟨route, requestId, input, timeoutMs, rfl, invoked⟩ | same := steps.calls
  · intro place call later stored connectionId isChannel
    cases found : server.relay.inner.connections.lookup route.gatewayId with
    | none =>
      refine earlier later ?_ connectionId isChannel
      simpa [invoked, RelayHub.invoke, RelayState.openCall, found] using stored
    | some connection =>
      rw [invoked, RelayHub.invoke_eq found] at stored isChannel
      obtain isEarlier | ⟨-, rfl⟩ := getElem?_append_cases stored
      · exact idle place call later isEarlier connectionId isChannel
      · have own := (registered.connections route.gatewayId connection found).2
        rw [own, Option.some.injEq, Prod.mk.injEq] at isChannel
        exact spares isChannel.1 connection (isChannel.1 ▸ found)
  · intro place call later stored connectionId isChannel
    obtain ⟨before, isBefore, ids⟩ := RelayHub.ids_eq same stored
    have connection : call.connection = before.connection := congrArg (fun ids => ids.2.2) ids
    rw [connection] at isChannel ⊢
    exact earlier later isBefore connectionId isChannel

/-! ## Commands ahead -/

/-- The socket at a place serves a connection, and has sent the first of the commands that were ahead of it. -/
def Draining (ahead : List AgentGatewayCommand) (index : ℕ) (connection : AgentGatewayConnection) (earlier : Socket)
    (server : AppState) : Prop :=
  ∃ later, server.sockets[index]? = some later ∧ later.connection = some connection ∧
    Ends ahead server.relay connection.sender earlier later

variable {ahead : List AgentGatewayCommand} {index : ℕ} {connection : AgentGatewayConnection} {earlier : Socket}
  {later changed : Socket} {sender : ℕ}

theorem Ends.appends (ends : Ends ahead relay sender earlier later) (written : changed.written = later.written)
    (left : later.hasLeft = true → changed.hasLeft = true)
    (queued : changed.hasLeft = true ∨ changed.held = later.held ∧ ∀ channel, relay.channels[sender]? = some channel →
      ∃ grown, after.channels[sender]? = some grown ∧ channel.queue <+: grown.queue) :
    Ends ahead after sender earlier changed := by
  obtain ⟨sent, rest, isWritten, split, stands⟩ := ends
  refine ⟨sent, rest, written.trans isWritten, split, ?_⟩
  obtain hasLeft | ⟨held, grows⟩ := queued
  · exact .inl hasLeft
  · cases stands with
    | inl hasLeft => exact .inl (left hasLeft)
    | inr waits =>
      obtain ⟨channel, found, isPrefix, ending⟩ := waits
      obtain ⟨grown, isGrown, more⟩ := grows channel found
      refine .inr ⟨grown, isGrown, ?_, ending⟩
      rw [held]
      exact isPrefix.trans ((List.prefix_append_right_inj _).mpr more)

theorem Draining.others (draining : Draining ahead index connection earlier server)
    (sockets : next.sockets[index]? = server.sockets[index]?)
    (appends : ∀ channel, server.relay.channels[connection.sender]? = some channel →
      ∃ grown, next.relay.channels[connection.sender]? = some grown ∧ channel.queue <+: grown.queue) :
    Draining ahead index connection earlier next := by
  obtain ⟨later, stored, isConnection, ends⟩ := draining
  exact ⟨later, sockets.trans stored, isConnection, ends.appends rfl id (.inr ⟨rfl, appends⟩)⟩

theorem Draining.own (draining : Draining ahead index connection earlier server) {socket changed : Socket}
    (stored : server.sockets[index]? = some socket) (sockets : next.sockets = server.sockets.set index changed)
    (isSame : changed.connection = socket.connection)
    (ends : ∀ later, later = socket → Ends ahead server.relay connection.sender earlier later →
      Ends ahead next.relay connection.sender earlier changed) : Draining ahead index connection earlier next := by
  obtain ⟨later, isLater, isConnection, before⟩ := draining
  rw [stored, Option.some.injEq] at isLater
  subst isLater
  refine ⟨changed, ?_, isSame.trans isConnection, ends _ rfl before⟩
  rw [sockets]
  exact List.getElem?_set_self (List.getElem?_eq_some_iff.mp stored).1

theorem dropReceiver_elsewhere (dropped : relay.dropReceiver queueCapacity socket = some after)
    (apart : ∀ connection, socket.connection = some connection → connection.sender ≠ sender) :
    after.channels[sender]? = relay.channels[sender]? := by
  rw [RelayHub.dropReceiver] at dropped
  split at dropped
  next =>
    cases dropped
    rfl
  next connection isConnection =>
    obtain ⟨channel, found, dropped⟩ := Option.bind_eq_some_iff.mp dropped
    cases dropped
    exact List.getElem?_set_ne (apart connection isConnection)

theorem Relays.appends {hubAction : HubAction}
    (relays : Relays action hubAction) (stepped : relay.step queueCapacity hubAction = some after) : relay.Appends after := by
  have keeps : hubAction.takes = true → False := by
    cases relays with
    | reply | activity => simp [HubAction.takes]
    | other action isOther => cases hubAction <;> simp_all [HubAction.takes, HubAction.isOfSocket]
  have move : RelayHub.Move False False queueCapacity relay after := RelayHub.move_of_step False.elim keeps stepped
  exact move.appends

theorem Turns.held {place : ℕ} {before phase : SocketPhase} (turns : Turns place action before phase)
    (socket : Socket) (isBefore : socket.phase = before) : socket.hasLeft = false ∧
      (Socket.hasLeft { socket with phase } = true ∨ Socket.held { socket with phase } = socket.held) := by
  cases turns <;> simp [Socket.hasLeft, Socket.held, isBefore]

variable {command : AgentGatewayCommand} {channel : CommandChannel} {gatewayId code : String} {revoked : AppState}

theorem Ends.receive {queue : List AgentGatewayCommand} (ends : Ends ahead relay sender earlier later)
    (looping : later.phase = .looping) (written : changed.written = later.written) (sending : changed.phase = .sending command)
    (found : relay.channels[sender]? = some channel) (queued : channel.queue = command :: queue)
    (received : after.channels[sender]? = some { channel with queue }) : Ends ahead after sender earlier changed := by
  obtain ⟨sent, rest, isWritten, split, stands⟩ := ends
  refine ⟨sent, rest, written.trans isWritten, split, .inr ?_⟩
  cases stands with
  | inl hasLeft => simp [Socket.hasLeft, looping] at hasLeft
  | inr waits =>
    obtain ⟨other, isOther, isPrefix, ending⟩ := waits
    rw [found, Option.some.injEq] at isOther
    subst isOther
    refine ⟨_, received, ?_, ending⟩
    simpa [Socket.held, looping, sending, queued] using isPrefix

theorem Ends.send {relay : RelayHub}
    (ends : Ends ahead relay sender earlier later) (sending : later.phase = .sending command)
    (written : changed.written = later.written ++ [command])
    (phase : changed.phase = if disconnects command then .leaving else .looping) : Ends ahead relay sender earlier changed := by
  obtain ⟨sent, rest, isWritten, split, stands⟩ := ends
  cases stands with
  | inl hasLeft => simp [Socket.hasLeft, sending] at hasLeft
  | inr waits =>
    obtain ⟨channel, found, isPrefix, ending⟩ := waits
    rw [Socket.held, sending] at isPrefix
    cases rest with
    | nil =>
      obtain ⟨other, mem, -⟩ := ending
      cases mem
    | cons head rest =>
      obtain ⟨rfl, isPrefix⟩ := List.cons_prefix_cons.mp isPrefix
      refine ⟨sent ++ [head], rest, by rw [written, isWritten, List.append_assoc], by rw [split]; simp, ?_⟩
      by_cases last : disconnects head = true
      · left
        simp [Socket.hasLeft, phase, last]
      · right
        refine ⟨channel, found, ?_, ?_⟩
        · simpa [Socket.held, phase, last] using isPrefix
        · obtain ⟨other, mem, disconnecting⟩ := ending
          refine ⟨other, (List.mem_cons.mp mem).resolve_left ?_, disconnecting⟩
          intro same
          exact last (same ▸ disconnecting)

theorem Draining.step (draining : Draining ahead index connection earlier server)
    (linked : server.Linked) (steps : Steps queueCapacity server action next) :
    Draining ahead index connection earlier next := by
  have rests {relay : RelayHub} (same : relay.channels[connection.sender]? = server.relay.channels[connection.sender]?) :
      ∀ channel, server.relay.channels[connection.sender]? = some channel →
        ∃ grown, relay.channels[connection.sender]? = some grown ∧ channel.queue <+: grown.queue :=
    fun channel found => ⟨channel, same.trans found, List.prefix_rfl⟩
  -- another socket leaves this one and its channel alone
  have other {place : ℕ} {changed : Socket} (different : place ≠ index)
      (sockets : next.sockets = server.sockets.set place changed)
      (channels : next.relay.channels[connection.sender]? = server.relay.channels[connection.sender]?) :
      Draining ahead index connection earlier next := by
    refine draining.others ?_ (rests channels)
    rw [sockets]
    exact List.getElem?_set_ne different
  have apart {place : ℕ} {socket : Socket} (different : place ≠ index) (stored : server.sockets[place]? = some socket) :
      ∀ isConnection, socket.connection = some isConnection → isConnection.sender ≠ connection.sender := by
    intro isConnection isOf same
    obtain ⟨later, isLater, isOurs, -⟩ := draining
    exact different (linked.distinct place index socket later isConnection connection stored isLater isOf isOurs same)
  -- a socket that leaves has nothing ahead any more
  have leaves {place : ℕ} {socket changed : Socket} (stored : server.sockets[place]? = some socket)
      (sockets : next.sockets = server.sockets.set place changed) (isSame : changed.connection = socket.connection)
      (written : changed.written = socket.written) (hasLeft : changed.hasLeft = true)
      (channels : place ≠ index → next.relay.channels[connection.sender]? = server.relay.channels[connection.sender]?) :
      Draining ahead index connection earlier next := by
    by_cases same : place = index
    · subst same
      refine draining.own stored sockets isSame ?_
      rintro later rfl ends
      exact ends.appends written (fun _ => hasLeft) (.inl hasLeft)
    · exact other same sockets (channels same)
  cases steps with
  | openSession =>
    obtain ⟨later, stored, -⟩ := id draining
    exact draining.others (List.getElem?_append_left (List.getElem?_eq_some_iff.mp stored).1) (rests rfl)
  | turn action place socket phase stored turns =>
    by_cases same : place = index
    · subst same
      refine draining.own stored rfl rfl ?_
      rintro later rfl ends
      obtain ⟨inside, goesOn⟩ := turns.held later rfl
      refine ends.appends rfl (fun hasLeft => ?_) (goesOn.imp_right fun held => ⟨held, rests rfl⟩)
      rw [inside] at hasLeft
      cases hasLeft
    · exact other same rfl rfl
  | fail action place socket relay stored fails dropped =>
    exact leaves stored rfl rfl rfl rfl fun different => dropReceiver_elsewhere dropped (apart different stored)
  | register place connectionId socket stored registering =>
    by_cases same : place = index
    · subst same
      obtain ⟨later, isLater, isConnection, -⟩ := draining
      rw [stored, Option.some.injEq] at isLater
      subst isLater
      exact absurd registering (linked.registered place socket connection stored isConnection).2
    · obtain ⟨later, isLater, isConnection, -⟩ := id draining
      refine draining.others (List.getElem?_set_ne same) fun channel found => ⟨channel, ?_, List.prefix_rfl⟩
      exact (List.getElem?_append_left (List.getElem?_eq_some_iff.mp found).1).trans found
  | publishConnected place socket stored publishing =>
    by_cases same : place = index
    · subst same
      refine draining.own stored rfl rfl ?_
      rintro later rfl ends
      refine ends.appends rfl (fun hasLeft => ?_) (.inr ⟨?_, rests rfl⟩)
      · simp [Socket.hasLeft, publishing] at hasLeft
      · simp [Socket.held, publishing]
    · exact other same rfl rfl
  | receive place socket isConnection channel command queue stored looping isOf found queued receiving =>
    by_cases same : place = index
    · subst same
      obtain ⟨later, isLater, isOurs, -⟩ := id draining
      rw [stored, Option.some.injEq] at isLater
      subst isLater
      rw [isOf, Option.some.injEq] at isOurs
      subst isOurs
      refine draining.own stored rfl rfl ?_
      rintro later rfl ends
      refine ends.receive looping rfl rfl found queued ?_
      exact List.getElem?_set_self (List.getElem?_eq_some_iff.mp found).1
    · exact other same rfl (List.getElem?_set_ne (apart same stored isConnection isOf))
  | send place socket command stored sending =>
    by_cases same : place = index
    · subst same
      refine draining.own stored rfl rfl ?_
      rintro later rfl ends
      exact ends.send sending rfl rfl
    · exact other same rfl rfl
  | relay action hubAction relay relays stepped =>
    exact draining.others rfl fun channel found => relays.appends stepped connection.sender channel found
  | touch place persisted acknowledged socket stored looping =>
    by_cases same : place = index
    · subst same
      refine draining.own stored rfl rfl ?_
      rintro later rfl ends
      refine ends.appends rfl (fun hasLeft => ?_) (.inr ⟨?_, rests rfl⟩)
      · simp [Socket.hasLeft, looping] at hasLeft
      · cases acknowledged <;> simp [Socket.held, looping]
    · exact other same rfl rfl
  | unregister place socket isConnection stored => exact leaves stored rfl rfl rfl rfl fun _ => rfl
  | replaced place socket isConnection relay stored leaving isOf current known dropped =>
    have channels := fun different => dropReceiver_elsewhere dropped (apart different stored)
    exact leaves stored rfl rfl rfl rfl channels
  | close place persisted socket stored => exact leaves stored rfl rfl rfl rfl fun _ => rfl
  | publishDisconnected place socket relay stored retiring dropped =>
    exact leaves stored rfl rfl rfl rfl fun different => dropReceiver_elsewhere dropped (apart different stored)

/-! ## The revocation -/

theorem post_pushes {notice reserved sender : ℕ}
    (isNotice : relay.notices[notice]? = some (sender, command)) (found : relay.channels[sender]? = some channel)
    (receiving : channel.receiving = true) (room : channel.queue.length + reserved < queueCapacity)
    (posted : relay.step queueCapacity (.post notice reserved) = some after) :
    after.channels[sender]? = some (channel.push command) := by
  obtain ⟨⟨place, isCommand⟩, isPlace, posted⟩ := Option.bind_eq_some_iff.mp posted
  rw [isNotice, Option.some.injEq] at isPlace
  obtain ⟨rfl, rfl⟩ := isPlace
  obtain ⟨other, isOther, posted⟩ := Option.bind_eq_some_iff.mp posted
  rw [found, Option.some.injEq] at isOther
  subst isOther
  obtain ⟨-, posted⟩ := Option.ite_none_right_eq_some.mp posted
  rw [CommandChannel.trySend_ok.mpr ⟨⟨receiving, room⟩, rfl⟩] at posted
  cases posted
  exact List.getElem?_set_self (List.getElem?_eq_some_iff.mp found).1

theorem Awaits.appends (awaits : Awaits relay socket) (appends : relay.Appends after) :
    Awaits after socket := by
  obtain ⟨connection, channel, command, isConnection, found, mem, disconnecting⟩ := awaits
  obtain ⟨grown, isGrown, more⟩ := appends connection.sender channel found
  refine ⟨connection, grown, command, isConnection, isGrown, ?_, disconnecting⟩
  exact ((List.prefix_append_right_inj _).mpr more).subset mem

theorem Revokes.awaits (revokes : Revokes queueCapacity gatewayId code server revoked) :
    ∀ socket ∈ revoked.sockets, Serves gatewayId server.relay.channels.length socket →
      socket.hasLeft = true ∨ Awaits revoked.relay socket := by
  cases revokes with
  | missing absent told => exact told
  | found connection noticed posting revoked notice reserved current looked run isNotice posts told =>
    obtain ⟨relay, posted, isRevoked⟩ := Option.bind_eq_some_iff.mp posts
    cases isRevoked
    intro socket mem serves
    obtain hasLeft | awaits | hears := told socket mem serves
    · exact .inl hasLeft
    · exact .inr (awaits.appends ((Relays.other (.post notice reserved) rfl).appends posted))
    · obtain ⟨isConnection, channel, isOf, isSender, found, receiving, room, disconnecting⟩ := hears
      have pushed := post_pushes isNotice found receiving room posted
      refine .inr ⟨isConnection, _, _, isOf, isSender ▸ pushed, ?_, disconnecting⟩
      simp [CommandChannel.push]

theorem Revokes.reachable (revokes : Revokes queueCapacity gatewayId code server revoked)
    (reachable : (serverMachine queueCapacity).Reachable Machine.always server) :
    (serverMachine queueCapacity).Reachable Machine.always revoked := by
  cases revokes with
  | missing => exact reachable
  | found connection noticed posting revoked notice reserved current looked run isNotice posts =>
    apply reachable.trans
    refine .head ⟨.relay (.disconnect gatewayId code), trivial, looked⟩ ?_
    exact run.tail ⟨.relay (.post notice reserved), trivial, posts⟩

end AppState

/-- Once `disconnect` has told the sockets of a gateway to end their loops, and while no call finds a connection of the
gateway from before, the gateway gets no more work. -/
theorem revoked_gateway_stops {queueCapacity : ℕ} {gatewayId code : String} {server revoked final : AppState}
    (reachable : (serverMachine queueCapacity).Reachable Machine.always server)
    (revokes : AppState.Revokes queueCapacity gatewayId code server revoked)
    (run : (serverMachine queueCapacity).RunsTo (AppState.Spares gatewayId server.relay.channels.length) revoked final) :
    AppState.Stopped gatewayId server.relay.channels.length revoked final := by
  have revokedReachable := revokes.reachable reachable
  have registered : revoked.relay.Registered := AppState.relay_invariant RelayHub.registered_new
    (fun _ _ _ registered stepped => registered.step stepped) revokedReachable
  constructor
  · have idle : final.relay.Registered ∧ AppState.Idle gatewayId server.relay.channels.length revoked.relay.calls.length final.relay := by
      show (fun state : AppState => state.relay.Registered ∧
        AppState.Idle gatewayId server.relay.channels.length revoked.relay.calls.length state.relay) final
      apply run.preserves
      · intro state action next holds spares stepped
        have steps := AppState.steps_of_step stepped
        refine ⟨steps.relayRuns.preserves ?_ holds.1, holds.2.step holds.1 spares steps⟩
        exact fun _ _ _ registered _ stepped => registered.step stepped
      · refine ⟨registered, ?_⟩
        intro place call later stored
        rw [List.getElem?_eq_none later] at stored
        cases stored
    intro place call later stored channel found gateway
    apply idle.2 place call later stored channel.connectionId
    rw [List.getElem?_map, found, ← gateway]
    rfl
  · intro index socket connection channel stored gateway isConnection old found
    have draining : final.Linked ∧ AppState.Draining (socket.held ++ channel.queue) index connection socket final := by
      show (fun state : AppState => state.Linked ∧
        AppState.Draining (socket.held ++ channel.queue) index connection socket state) final
      apply run.preserves
      · intro state action next holds _ stepped
        have steps := AppState.steps_of_step stepped
        exact ⟨holds.1.step steps, holds.2.step holds.1 steps⟩
      · refine ⟨AppState.linked_of_reachable revokedReachable, socket, stored, isConnection, [], _,
          (List.append_nil _).symm, rfl, ?_⟩
        refine (revokes.awaits socket (List.mem_of_getElem? stored) ⟨gateway, connection, isConnection, old⟩).imp_right ?_
        rintro ⟨other, isChannel, command, isOther, isFound, member, disconnecting⟩
        rw [isConnection, Option.some.injEq] at isOther
        subst isOther
        rw [found, Option.some.injEq] at isFound
        subst isFound
        exact ⟨channel, found, List.prefix_rfl, command, member, disconnecting⟩
    obtain ⟨later, isLater, -, ends⟩ := draining.2
    exact ⟨later, isLater, ends⟩

/-! ## A revocation that gets lost -/

instance decidableSpares (gatewayId : String) (old : ℕ) (server : AppState) :
    ∀ action, Decidable (AppState.Spares gatewayId old server action)
  | .relay (.invoke route _ _ _) => inferInstanceAs (Decidable (route.gatewayId = gatewayId →
      ∀ connection, server.relay.inner.connections.lookup gatewayId = some connection → old ≤ connection.sender))
  | .relay (.register ..) | .relay (.unregister ..) | .relay (.disconnect ..) | .relay (.notifyRuntimeConfig ..) |
    .relay (.notifyApplicationFeedback ..) | .relay (.post ..) | .relay (.receive _) | .relay (.sendDelayed ..) |
    .relay (.close _) | .relay (.send ..) | .relay (.respond _) | .relay (.activityClosed _) | .relay (.giveUp ..) |
    .relay (.drop _) | .relay (.removePending _) | .relay (.queueCancel ..) | .relay (.complete ..) | .relay (.deliver _) |
    .relay (.recordInvocationActivity ..) => .isTrue trivial
  | .openSession .. | .reconcile .. | .register .. | .welcome .. | .publishConnected _ | .ready .. | .enterLoop _ |
    .receive _ | .send .. | .completeReply .. | .recordActivity .. | .touch .. | .acknowledge .. | .leave _ | .unregister _ |
    .close .. | .publishDisconnected _ => .isTrue trivial

def serveTown : List ServerAction :=
  [.openSession "town" [] ⟨false, false, false, false⟩ none townSession, .reconcile 0 true, .register 0 townSocket,
    .welcome 0 true, .publishConnected 0, .enterLoop 0]

def roomFor (queueCapacity : ℕ) (server : AppState) : Bool :=
  server.sockets.all fun socket : Socket => socket.connection.any fun connection : AgentGatewayConnection =>
    connection.sender == 0 && server.relay.channels[0]?.any fun channel : CommandChannel =>
      channel.receiving && decide (channel.queue.length + 0 < queueCapacity)

theorem hears_of_roomFor {queueCapacity : ℕ} {server : AppState}
    (room : roomFor queueCapacity server = true) (mem : socket ∈ server.sockets) (ends : disconnects command = true) :
    AppState.Hears queueCapacity 0 server.relay command 0 socket := by
  obtain ⟨connection, isConnection, room⟩ := (Option.any_eq_true _ _).mp (List.all_eq_true.mp room socket mem)
  obtain ⟨sender, room⟩ := (Bool.and_eq_true _ _).mp room
  obtain ⟨channel, found, room⟩ := (Option.any_eq_true _ _).mp room
  obtain ⟨receiving, room⟩ := (Bool.and_eq_true _ _).mp room
  exact ⟨connection, channel, isConnection, beq_iff_eq.mp sender, found, receiving, of_decide_eq_true room, ends⟩

/-- The socket of a revoked gateway sends the error and leaves, and the next call finds no connection. -/
theorem revoked_gateway_stops_town :
    ∃ revoked final : AppState, (∃ socket : Socket, final.sockets[0]? = some socket ∧ socket.phase = .closing ∧
      socket.written = [credentialError "CREDENTIAL_REVOKED"]) ∧ AppState.Stopped "town" 1 revoked final := by
  obtain ⟨server, reachable, passes⟩ := Machine.reachable_of_execute (serverMachine 16) Machine.always (started_start 16)
    serveTown (fun server : AppState => decide (server.relay.channels.length = 1) &&
      (server.relay.inner.connections.lookup "town").any fun connection : AgentGatewayConnection => decide (connection.sender = 0) &&
        (server.step 16 (.relay (.disconnect "town" "CREDENTIAL_REVOKED"))).any fun posting : AppState =>
          roomFor 16 posting && decide (posting.relay.notices[0]? = some (0, credentialError "CREDENTIAL_REVOKED")) &&
            (posting.step 16 (.relay (.post 0 0))).any fun revoked : AppState =>
              ((serverMachine 16).execute (AppState.Spares "town" 1) revoked
                [.receive 0, .send 0 true, .unregister 0, .relay (.invoke townRoute firstRequest .null 30000)]).any
                fun final : AppState => final.sockets[0]?.any fun socket : Socket =>
                  decide (socket.phase = .closing ∧ socket.written = [credentialError "CREDENTIAL_REVOKED"]))
    (by decide +kernel)
  obtain ⟨length, passes⟩ := (Bool.and_eq_true _ _).mp passes
  have one : server.relay.channels.length = 1 := of_decide_eq_true length
  obtain ⟨connection, current, passes⟩ := (Option.any_eq_true _ _).mp passes
  obtain ⟨isFirst, passes⟩ := (Bool.and_eq_true _ _).mp passes
  have sender : connection.sender = 0 := of_decide_eq_true isFirst
  obtain ⟨posting, looked, passes⟩ := (Option.any_eq_true _ _).mp passes
  obtain ⟨ready, passes⟩ := (Bool.and_eq_true _ _).mp passes
  obtain ⟨room, noticed⟩ := (Bool.and_eq_true _ _).mp ready
  have isNotice : posting.relay.notices[0]? = some (connection.sender, credentialError "CREDENTIAL_REVOKED") := by
    rw [sender]
    exact of_decide_eq_true noticed
  obtain ⟨revoked, posts, passes⟩ := (Option.any_eq_true _ _).mp passes
  obtain ⟨final, executed, passes⟩ := (Option.any_eq_true _ _).mp passes
  obtain ⟨socket, stored, passes⟩ := (Option.any_eq_true _ _).mp passes
  obtain ⟨phase, written⟩ := of_decide_eq_true passes
  refine ⟨revoked, final, ⟨socket, stored, phase, written⟩, ?_⟩
  rw [← one]
  refine revoked_gateway_stops reachable (.found connection posting posting revoked 0 0 current looked .refl isNotice posts
    fun socket member _ => .inr (.inr ?_)) (one ▸ Machine.execute_runsTo executed)
  rw [sender]
  exact hears_of_roomFor room member rfl

/-- The queue of the connection is full when its gateway is revoked: the error gets lost, the loop goes on, and the next
call is queued for the revoked gateway. -/
theorem full_queue_hides_revocation :
    ∃ server noticed revoked final : AppState, (serverMachine 1).Reachable Machine.always server ∧
      (server.step 1 (.relay (.disconnect "town" "CREDENTIAL_REVOKED")) = some noticed ∧
        noticed.step 1 (.relay (.post 0 0)) = some revoked) ∧
      (serverMachine 1).RunsTo Machine.always revoked final ∧
      (∃ socket channel call, final.sockets[0]? = some socket ∧ socket.phase = .looping ∧ socket.written ≠ [] ∧
        final.relay.channels[0]? = some channel ∧ final.relay.calls[1]? = some call ∧ call.message ∈ channel.queue) ∧
      ¬AppState.Stopped "town" server.relay.channels.length revoked final := by
  obtain ⟨server, reachable, passes⟩ := Machine.reachable_of_execute (serverMachine 1) Machine.always (started_start 1)
    (serveTown ++ (askGuide firstRequest 0).map .relay) (fun server : AppState => decide (server.relay.channels.length = 1) &&
      (server.step 1 (.relay (.disconnect "town" "CREDENTIAL_REVOKED"))).any fun noticed : AppState =>
        (noticed.step 1 (.relay (.post 0 0))).any fun revoked : AppState => decide (revoked.relay.calls.length = 1) &&
          ((serverMachine 1).execute Machine.always revoked
            ([.receive 0, .send 0 true] ++ (askGuide secondRequest 1).map .relay)).any fun final : AppState =>
            final.sockets[0]?.any fun socket : Socket => final.relay.channels[0]?.any fun channel : CommandChannel =>
              final.relay.calls[1]?.any fun call : RelayCall =>
                decide ((socket.phase = .looping ∧ socket.written ≠ []) ∧ call.message ∈ channel.queue ∧
                  channel.gatewayId = "town" ∧ call.connection.sender = 0))
    (by decide +kernel)
  obtain ⟨length, passes⟩ := (Bool.and_eq_true _ _).mp passes
  have one : server.relay.channels.length = 1 := of_decide_eq_true length
  obtain ⟨noticed, looked, passes⟩ := (Option.any_eq_true _ _).mp passes
  obtain ⟨revoked, posts, passes⟩ := (Option.any_eq_true _ _).mp passes
  obtain ⟨calls, passes⟩ := (Bool.and_eq_true _ _).mp passes
  obtain ⟨final, executed, passes⟩ := (Option.any_eq_true _ _).mp passes
  obtain ⟨socket, stored, passes⟩ := (Option.any_eq_true _ _).mp passes
  obtain ⟨channel, found, passes⟩ := (Option.any_eq_true _ _).mp passes
  obtain ⟨call, isCall, passes⟩ := (Option.any_eq_true _ _).mp passes
  obtain ⟨⟨phase, written⟩, queued, gateway, sender⟩ := of_decide_eq_true passes
  refine ⟨server, noticed, revoked, final, reachable, ⟨looked, posts⟩, Machine.execute_runsTo executed,
    ⟨socket, channel, call, stored, phase, written, found, isCall, queued⟩, ?_⟩
  intro stopped
  have later : revoked.relay.calls.length ≤ 1 := (of_decide_eq_true calls : _ = 1).le
  have isOld := stopped.invokes 1 call later isCall channel (sender ▸ found) gateway
  omega

end Vifu.Server
