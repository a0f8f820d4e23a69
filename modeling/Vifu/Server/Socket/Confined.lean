import Vifu.Server.Socket.Revocation

/-!
# What a gateway is asked

The channel of a socket carries no invocation but those that were routed to the gateway of the socket, in whatever
order callers, sockets and cleanup tasks take their steps.
-/

namespace Vifu.Server

open Foundation
open Vifu.Runtime hiding validateIdentifier
open Vifu.Gateway

def invokes : AgentGatewayCommand → Bool
  | .invoke .. => true
  | _ => false

/-- What a call asks, of which gateway, and over which channel. -/
def RelayCall.origin (call : RelayCall) : AgentGatewayCommand × String × ℕ :=
  (call.message, call.route.gatewayId, call.connection.sender)

namespace RelayHub

variable {queueCapacity : ℕ} {state next : RelayHub} {action : HubAction} {command : AgentGatewayCommand} {place : ℕ}

/-- The command was placed in the channel, or is about to be. -/
def Carries (state : RelayHub) (place : ℕ) (command : AgentGatewayCommand) : Prop :=
  (∃ channel, state.channels[place]? = some channel ∧
      (command ∈ channel.queue ∨ command ∈ channel.sent ∨ command ∈ channel.delayed)) ∨
    (place, command) ∈ state.notices

theorem carries_of_step (stepped : state.step queueCapacity action = some next) (isInvoke : invokes command = true)
    (carries : next.Carries place command) :
    state.Carries place command ∨ ∃ call ∈ state.calls, call.message = command ∧ call.connection.sender = place := by
  cases action with
  | register | disconnect | notifyRuntimeConfig | notifyApplicationFeedback =>
    simp only [step] at stepped
    grind [Carries, register, notify, sessionReplaced, credentialError, invokes, CommandChannel.new]
  | post | receive | sendDelayed | close | send | queueCancel =>
    simp only [step, Option.bind_eq_bind, Option.bind_eq_some_iff] at stepped
    grind [Carries, setCall, setChannel, resolve, invokes, CommandChannel.queueInvocationCancel, CommandChannel.trySend,
      CommandChannel.push, List.mem_of_mem_eraseIdx]
  | unregister | invoke | respond | activityClosed | giveUp | drop | removePending | complete | deliver
  | recordInvocationActivity =>
    simp only [step, Option.bind_eq_bind, Option.bind_eq_some_iff] at stepped
    grind [Carries, setCall, resolve, unregister, invoke, complete]

theorem Move.origins {careful takes : Prop} (move : Move careful takes queueCapacity state next) :
    next.calls.map RelayCall.origin = state.calls.map RelayCall.origin ∨
      ∃ call, next.calls = state.calls ++ [call] ∧ next.channels = state.channels ∧
        state.inner.connections.lookup call.route.gatewayId = some call.connection := by
  cases move with
  | invoke route requestId input timeoutMs connection found =>
    rw [invoke_eq found]
    exact .inr ⟨_, rfl, rfl, found⟩
  | register | unregister | notices | channel | refused | lost | complete | discard | activity => exact .inl rfl
  | leak _ _ stored | unanswered _ _ stored | sent _ _ _ stored | turn _ _ _ stored | answered _ _ _ stored
  | removeRefused _ _ _ stored | remove _ _ _ stored | dropCancel _ _ _ _ stored | cancel _ _ _ _ _ stored
  | deliver _ _ _ _ stored => exact .inl (map_set_same stored rfl)

/-- The calls go over channels of the gateways they are routed to, and the channels carry no invocations but theirs. -/
structure Confined (state : RelayHub) : Prop where
  registered : state.Registered
  routed : ∀ origin ∈ state.calls.map RelayCall.origin,
    ∃ connectionId, (state.channels.map CommandChannel.ids)[origin.2.2]? = some (origin.2.1, connectionId)
  opened : ∀ place command, invokes command = true → state.Carries place command →
    ∃ gatewayId, (command, gatewayId, place) ∈ state.calls.map RelayCall.origin

theorem Confined.step (confined : state.Confined) (stepped : state.step queueCapacity action = some next) :
    next.Confined := by
  have move : Move False True queueCapacity state next := move_of_step False.elim (fun _ => trivial) stepped
  have keeps : ∀ origin ∈ state.calls.map RelayCall.origin, origin ∈ next.calls.map RelayCall.origin := by
    obtain same | ⟨call, calls, -⟩ := move.origins
    · simp [same]
    · simp +contextual [calls]
  refine ⟨confined.registered.step stepped, ?_, ?_⟩
  · intro origin isOrigin
    obtain same | ⟨call, calls, channels, found⟩ := move.origins
    · obtain ⟨connectionId, isChannel⟩ := confined.routed origin (same ▸ isOrigin)
      exact ⟨connectionId, move.channelIds isChannel⟩
    · rw [calls, List.map_append, List.mem_append, List.map_singleton, List.mem_singleton] at isOrigin
      rw [channels]
      obtain earlier | rfl := isOrigin
      · exact confined.routed origin earlier
      · exact ⟨_, (confined.registered.connections _ _ found).2⟩
  · intro place command isInvoke carries
    obtain earlier | ⟨call, isCall, rfl, rfl⟩ := carries_of_step stepped isInvoke carries
    · obtain ⟨gatewayId, isOrigin⟩ := confined.opened place command isInvoke earlier
      exact ⟨gatewayId, keeps _ isOrigin⟩
    · exact ⟨call.route.gatewayId, keeps _ (List.mem_map_of_mem isCall)⟩

end RelayHub

/-- Every invocation that waits for a socket, or was ever placed in its channel, is that of a call that was routed to
the gateway of the socket. -/
theorem invocations_confined {queueCapacity : ℕ} {server : AppState}
    (reachable : (serverMachine queueCapacity).Reachable Machine.always server) {socket : Socket}
    (member : socket ∈ server.sockets) {connection : AgentGatewayConnection}
    (isConnection : socket.connection = some connection) {channel : CommandChannel}
    (found : server.relay.channels[connection.sender]? = some channel) {requestId : Uuid} {payload : Invoke}
    (carried : .invoke requestId payload ∈ channel.queue ++ channel.sent) :
    ∃ call ∈ server.relay.calls, call.message = .invoke requestId payload ∧ call.route.gatewayId = socket.gatewayId := by
  have confined : server.relay.Confined := by
    refine AppState.relay_invariant ⟨RelayHub.registered_new, ?_, ?_⟩ (fun _ _ _ => RelayHub.Confined.step) reachable
    all_goals simp [RelayHub.new, RelayHub.Carries]
  have placed : server.relay.Carries connection.sender (.invoke requestId payload) :=
    .inl ⟨channel, found, by grind⟩
  obtain ⟨gatewayId, isOrigin⟩ := confined.opened connection.sender _ rfl placed
  obtain ⟨connectionId, isRouted⟩ := confined.routed _ isOrigin
  obtain ⟨index, stored⟩ := List.mem_iff_getElem?.mp member
  have isChannel := (AppState.linked_of_reachable reachable).channels index socket connection stored isConnection
  rw [isChannel, Option.some.injEq, Prod.mk.injEq] at isRouted
  obtain ⟨call, isCall, same⟩ := List.mem_map.mp isOrigin
  refine ⟨call, isCall, congrArg Prod.fst same, ?_⟩
  rw [isRouted.1]
  exact congrArg (fun origin => origin.2.1) same

/-- A call to the town that waits in the channel of its socket. -/
theorem invocations_confined_town : ∃ server : AppState, ∃ socket ∈ server.sockets, socket.gatewayId = "town" ∧
    ∃ call ∈ server.relay.calls, call.requestId = firstRequest ∧ call.route.gatewayId = socket.gatewayId := by
  obtain ⟨server, reachable, passes⟩ := Machine.reachable_of_execute (serverMachine 16) Machine.always (started_start 16)
    (serveTown ++ (askGuide firstRequest 0).map .relay) (fun server : AppState => server.sockets.any fun socket =>
      decide (socket.gatewayId = "town") && socket.connection.any fun connection =>
        server.relay.channels[connection.sender]?.any fun channel => channel.queue.any fun command =>
          match command with
          | .invoke requestId _ => decide (requestId = firstRequest)
          | _ => false) (by decide +kernel)
  obtain ⟨socket, member, passes⟩ := List.any_eq_true.mp passes
  obtain ⟨ofTown, passes⟩ := (Bool.and_eq_true _ _).mp passes
  obtain ⟨connection, isConnection, passes⟩ := (Option.any_eq_true _ _).mp passes
  obtain ⟨channel, found, passes⟩ := (Option.any_eq_true _ _).mp passes
  obtain ⟨command, queued, passes⟩ := List.any_eq_true.mp passes
  split at passes
  next requestId payload =>
    obtain ⟨call, isCall, message, route⟩ := invocations_confined reachable member isConnection found
      (List.mem_append_left _ queued)
    rw [RelayCall.message, AgentGatewayCommand.invoke.injEq] at message
    exact ⟨server, socket, member, of_decide_eq_true ofTown, call, isCall, message.1.trans (of_decide_eq_true passes), route⟩
  next => cases passes

end Vifu.Server
