import Vifu.Server.Relay.Delivery
import Vifu.Server.Socket.Links

/-!
# What a socket leaves behind

A socket that was registered and has returned should have left nothing in the relay hub, and its session
should be closed.  The errors that `run_socket` returns between the two skip the cleanup at its end.
-/

namespace Vifu.Server

open Foundation
open Vifu.Runtime hiding validateIdentifier
open Vifu.Gateway

/-- What a socket that is registered has done before it comes to its phase. -/
structure Socket.Progress (socket : Socket) (relay : RelayHub) (connection : AgentGatewayConnection) : Prop where
  unregistered : socket.phase = .closing ∨ socket.phase = .retiring → .unregistered connection.connectionId ∈ relay.history
  closed : socket.phase = .retiring → socket.closed = true

variable {connection : AgentGatewayConnection} {socket : Socket}

theorem Socket.Progress.mono {relay after : RelayHub}
    (progress : socket.Progress relay connection) (grows : ∀ event ∈ relay.history, event ∈ after.history) :
    socket.Progress after connection :=
  ⟨fun ending => grows _ (progress.unregistered ending), progress.closed⟩

theorem Socket.Progress.of_phase (relay : RelayHub) (connection : AgentGatewayConnection)
    (ending : socket.phase ≠ .closing ∧ socket.phase ≠ .retiring) : socket.Progress relay connection := by
  constructor
  · intro isEnding
    exact isEnding.elim (fun closing => absurd closing ending.1) fun retiring => absurd retiring ending.2
  · exact fun retiring => absurd retiring ending.2

namespace AppState

variable {queueCapacity : ℕ} {server next : AppState} {action : ServerAction} {index : ℕ}

def Resumed (server : AppState) (index : ℕ) (sessionId : Uuid) : Prop :=
  ∃ later ∈ server.sockets.drop (index + 1), later.sessionId = sessionId

/-- Whether the session is no longer one that the socket has to close. -/
def Released (server : AppState) (index : ℕ) (socket : Socket) : Prop :=
  ¬server.sessions.Connected socket.gatewayId socket.sessionId ∨ server.Resumed index socket.sessionId

/-- Whether the socket is about to close its session, or need not. -/
def Settles (server : AppState) (index : ℕ) (socket : Socket) : Prop :=
  (∀ connection, socket.connection = some connection →
    server.relay.inner.isCurrent socket.gatewayId connection.connectionId = true) ∨ server.Released index socket

/-- Nothing fails between the registration of a socket and its cleanup, and a socket that was replaced has no
session to close. -/
def Tidy (server : AppState) : ServerAction → Prop
  | .welcome _ sent | .ready _ sent | .acknowledge _ sent => sent = true
  | .close _ persisted => persisted = true
  | .unregister index => ∀ socket, server.sockets[index]? = some socket → server.Settles index socket
  | _ => True

/-- Nothing is left of the connection of the socket, and its session is closed. -/
structure Cleaned (server : AppState) (index : ℕ) (socket : Socket) (connection : AgentGatewayConnection) : Prop where
  unregistered : .unregistered connection.connectionId ∈ server.relay.history
  connections : ∀ gatewayId other, server.relay.inner.connections.lookup gatewayId = some other →
    other.connectionId ≠ connection.connectionId
  pending : ∀ requestId pending, server.relay.inner.pending.lookup requestId = some pending →
    pending.connectionId ≠ connection.connectionId
  /-- A caller that still waits has its response, or learns that there is none. -/
  failed : ∀ (place : ℕ) (call : RelayCall), server.relay.calls[place]? = some call →
    call.connection.connectionId = connection.connectionId → call.response = none →
    (∀ delivery ∈ server.relay.deliveries, delivery.sender ≠ place) → server.relay.abandoned place call = true
  session : socket.closed = true ∨ server.Released index socket

/-! ## What the sockets have done -/

def Progress (server : AppState) : Prop :=
  ∀ socket ∈ server.sockets, ∀ connection, socket.connection = some connection → socket.Progress server.relay connection

theorem Progress.set (progress : server.Progress) {changed : Socket}
    (sockets : next.sockets = server.sockets.set index changed)
    (grows : ∀ event ∈ server.relay.history, event ∈ next.relay.history)
    (own : ∀ connection, changed.connection = some connection → changed.Progress next.relay connection) :
    next.Progress := by
  rw [Progress, sockets]
  apply forall_mem_set
  · intro socket mem connection isConnection
    exact (progress socket mem connection isConnection).mono grows
  · exact own

theorem Turns.continues {before after : SocketPhase}
    (turns : Turns index action before after) : (after ≠ .closing ∧ after ≠ .retiring) ∧ after ≠ .returned := by
  cases turns <;> simp

theorem Progress.step (progress : server.Progress) (tidy : server.Tidy action)
    (steps : Steps queueCapacity server action next) : next.Progress := by
  have grows : ∀ event ∈ server.relay.history, event ∈ next.relay.history := fun _ mem => steps.relayRuns.remembers mem
  cases steps with
  | openSession gatewayId agents features resumeSessionId sessionId fresh =>
    intro socket mem
    cases List.mem_append.mp mem with
    | inl earlier => exact progress socket earlier
    | inr isNew =>
      intro connection isConnection
      rw [List.mem_singleton.mp isNew] at isConnection
      cases isConnection
  | turn action index socket phase stored turns =>
    exact progress.set rfl grows fun connection _ => .of_phase _ connection turns.continues.1
  | fail action index socket relay stored | publishDisconnected index socket relay stored =>
    exact progress.set rfl grows fun connection _ => .of_phase _ connection (by simp)
  | register | publishConnected | receive | replaced =>
    exact progress.set rfl grows fun connection _ => .of_phase _ connection (by simp)
  | send | touch =>
    refine progress.set rfl grows fun connection _ => .of_phase _ connection ?_
    split <;> simp
  | relay action hubAction relay relays stepped =>
    intro socket mem connection isConnection
    exact (progress socket mem connection isConnection).mono grows
  | unregister index socket connection stored leaving isConnection =>
    refine progress.set rfl grows fun other isOther => ⟨fun _ => ?_, by simp⟩
    rw [isConnection, Option.some.injEq] at isOther
    subst isOther
    exact List.mem_append_right _ (List.mem_singleton.mpr rfl)
  | close index persisted socket stored closing =>
    refine progress.set rfl grows fun connection isConnection => ⟨fun _ => ?_, fun _ => tidy⟩
    exact (progress socket (List.mem_of_getElem? stored) connection isConnection).unregistered (.inl closing)

theorem progress_of_reachable (reachable : (serverMachine queueCapacity).Reachable Tidy server) : server.Progress := by
  apply reachable.invariant
  · intro start isStart socket mem
    rw [isStart.2.2.1] at mem
    cases mem
  · intro server action next progress tidy stepped
    exact progress.step tidy (steps_of_step stepped)

/-! ## The cleanup -/

theorem cleaned_of_unregistered
    (registered : server.relay.Registered) (unregistered : .unregistered connection.connectionId ∈ server.relay.history)
    (session : socket.closed = true ∨ server.Released index socket) : server.Cleaned index socket connection := by
  refine ⟨unregistered, ?_, ?_, ?_, session⟩
  · intro gatewayId other found same
    exact (registered.connections gatewayId other found).1 (same ▸ unregistered)
  · intro requestId pending found same
    exact (registered.pending requestId pending found).1 (same ▸ unregistered)
  · intro place call stored isOf _ apart
    rw [RelayHub.abandoned, Bool.and_eq_true, Option.all_eq_true, List.all_eq_true]
    constructor
    · intro pending found
      obtain ⟨isOpen, other, isOther, connection⟩ := registered.pending call.requestId pending found
      apply bne_iff_ne.mpr
      intro isSender
      rw [isSender, stored, Option.some.injEq] at isOther
      subst isOther
      rw [← connection, isOf] at isOpen
      exact isOpen unregistered
    · exact fun delivery mem => bne_iff_ne.mpr (apart delivery mem)

theorem Fails.reconciling {before : SocketPhase} (fails : Fails index action before)
    (tidy : server.Tidy action) : before = .reconciling := by
  cases fails with
  | reconcile => rfl
  | welcome | ready | acknowledge => cases tidy

theorem Released.set {socket changed : Socket} (released : server.Released index socket)
    (sockets : next.sockets = server.sockets.set index changed) (sessions : next.sessions = server.sessions)
    (gateway : changed.gatewayId = socket.gatewayId) (session : changed.sessionId = socket.sessionId) :
    next.Released index changed := by
  rw [Released, Resumed, sockets, sessions, gateway, session, List.drop_set_of_lt (Nat.lt_succ_self index)]
  exact released

end AppState

/-- A registered socket whose sends succeed until its loop ends leaves nothing behind when it returns. -/
theorem returned_sockets_cleaned {queueCapacity : ℕ} {server next : AppState} {action : ServerAction} {index : ℕ}
    {before after : Socket} {connection : AgentGatewayConnection}
    (reachable : (serverMachine queueCapacity).Reachable AppState.Tidy server) (tidy : server.Tidy action)
    (stepped : server.step queueCapacity action = some next) (stored : server.sockets[index]? = some before)
    (running : before.phase ≠ .returned) (found : next.sockets[index]? = some after) (returned : after.phase = .returned)
    (isConnection : after.connection = some connection) : next.Cleaned index after connection := by
  have progress := AppState.progress_of_reachable reachable
  have reached : (serverMachine queueCapacity).Reachable AppState.Tidy next := reachable.next tidy stepped
  have registered : next.relay.Registered :=
    AppState.relay_invariant RelayHub.registered_new (fun _ _ _ registered stepped => registered.step stepped) reached
  -- the step is one of the socket itself
  have own : ∀ {place : ℕ} {changed : Socket}, (server.sockets.set place changed)[index]? = some after →
      index = place ∧ after = changed := by
    intro place changed found
    obtain same | ⟨-, earlier⟩ := getElem?_set_cases found
    · exact same
    · rw [stored, Option.some.injEq] at earlier
      subst earlier
      exact absurd returned running
  have unmoved {sockets : List Socket} (same : next.sockets = sockets) (isSame : sockets[index]? = some before) : False := by
    rw [same, isSame, Option.some.injEq] at found
    subst found
    exact running returned
  have steps := AppState.steps_of_step stepped
  cases steps with
  | openSession =>
    exact (unmoved rfl ((List.getElem?_append_left (List.getElem?_eq_some_iff.mp stored).1).trans stored)).elim
  | relay => exact (unmoved rfl stored).elim
  | turn action place socket phase isSocket turns =>
    obtain ⟨-, rfl⟩ := own found
    exact absurd returned turns.continues.2
  | register | publishConnected | receive | unregister | close =>
    obtain ⟨-, rfl⟩ := own found
    cases returned
  | send | touch =>
    obtain ⟨-, rfl⟩ := own found
    split at returned <;> cases returned
  | fail action place socket relay isSocket fails dropped =>
    obtain ⟨-, rfl⟩ := own found
    have linked := AppState.linked_of_reachable reachable
    exact absurd (fails.reconciling tidy) (linked.registered place socket connection isSocket isConnection).1
  | replaced place socket other relay isSocket leaving isOther current known dropped =>
    obtain ⟨rfl, rfl⟩ := own found
    rw [isOther, Option.some.injEq] at isConnection
    subst isConnection
    apply AppState.cleaned_of_unregistered registered
    · exact (AppState.dropReceiver_runs dropped).remembers (List.mem_append_right _ (List.mem_singleton.mpr rfl))
    · obtain isCurrent | released := tidy socket isSocket
      · rw [isCurrent other isOther] at current
        cases current
      · exact .inr (released.set rfl rfl rfl rfl)
  | publishDisconnected place socket relay isSocket retiring dropped =>
    obtain ⟨rfl, rfl⟩ := own found
    have done := progress socket (List.mem_of_getElem? isSocket) connection isConnection
    apply AppState.cleaned_of_unregistered registered
    · exact (AppState.dropReceiver_runs dropped).remembers (done.unregistered (.inr retiring))
    · exact .inl (done.closed retiring)

/-! ## A gateway that does not receive its welcome -/

namespace AppState

instance decidableResumed (server : AppState) (index : ℕ) (sessionId : Uuid) : Decidable (server.Resumed index sessionId) :=
  List.decidableBEx _ (server.sockets.drop (index + 1))

instance decidableReleased (server : AppState) (index : ℕ) (socket : Socket) : Decidable (server.Released index socket) :=
  instDecidableOr

instance decidableSettles (server : AppState) (index : ℕ) : DecidablePred (server.Settles index) :=
  fun socket => @instDecidableOr _ _ (decidableForallSome socket.connection) (decidableReleased server index socket)

instance decidableTidy (server : AppState) : ∀ action, Decidable (server.Tidy action)
  | .welcome _ sent | .ready _ sent | .acknowledge _ sent => inferInstanceAs (Decidable (sent = true))
  | .close _ persisted => inferInstanceAs (Decidable (persisted = true))
  | .unregister index => decidableForallSome server.sockets[index]?
  | .openSession .. | .reconcile .. | .register .. | .publishConnected _ | .enterLoop _ | .receive _ | .send .. |
    .completeReply .. | .recordActivity .. | .touch .. | .leave _ | .publishDisconnected _ | .relay _ => .isTrue trivial

end AppState

/-- A gateway without any feature is connected and asked by a caller. -/
def connectTown (resumeSessionId : Option Uuid) : List ServerAction :=
  [.openSession "town" [] ⟨false, false, false, false⟩ resumeSessionId townSession, .reconcile 0 true,
    .register 0 townSocket] ++ (askGuide firstRequest 0).map .relay

/-- The caller learns that the gateway is unavailable when its socket returns. -/
theorem returned_sockets_cleaned_town :
    ∃ (server : AppState) (socket : Socket) (connection : AgentGatewayConnection),
      (server.sockets[0]? = some socket ∧ socket.phase = .returned ∧
      server.relay.calls.length = 1) ∧ server.Cleaned 0 socket connection := by
  obtain ⟨server, reachable, passes⟩ := Machine.reachable_of_execute (serverMachine 16) AppState.Tidy (started_start 16)
    (connectTown none ++ [.welcome 0 true, .publishConnected 0, .enterLoop 0, .receive 0, .send 0 true, .leave 0,
      .unregister 0, .close 0 true])
    (fun server : AppState => server.sockets[0]?.any fun before : Socket => decide (before.phase ≠ .returned) &&
      (server.step 16 (.publishDisconnected 0)).any fun next : AppState => decide (next.relay.calls.length = 1) &&
        next.sockets[0]?.any fun after : Socket => decide (after.phase = .returned) && after.connection.isSome)
    (by decide +kernel)
  obtain ⟨before, stored, passes⟩ := (Option.any_eq_true _ _).mp passes
  obtain ⟨running, passes⟩ := (Bool.and_eq_true _ _).mp passes
  obtain ⟨next, stepped, passes⟩ := (Option.any_eq_true _ _).mp passes
  obtain ⟨calls, passes⟩ := (Bool.and_eq_true _ _).mp passes
  obtain ⟨after, found, passes⟩ := (Option.any_eq_true _ _).mp passes
  obtain ⟨returned, passes⟩ := (Bool.and_eq_true _ _).mp passes
  obtain ⟨connection, isConnection⟩ := Option.isSome_iff_exists.mp passes
  have isReturned : after.phase = .returned := of_decide_eq_true returned
  exact ⟨next, after, connection, ⟨found, isReturned, of_decide_eq_true calls⟩,
    returned_sockets_cleaned reachable (by trivial) stepped stored (of_decide_eq_true running) found isReturned isConnection⟩

/-- A socket that cannot send its welcome returns, while its connection stays registered, its call pending and its
session connected. -/
theorem failed_welcome_leaks : ∃ server socket connection, (serverMachine 16).Reachable Machine.always server ∧
      (server.sockets[0]? = some socket ∧ socket.phase = .returned ∧ socket.connection = some connection) ∧
      (server.relay.inner.isCurrent "town" connection.connectionId = true ∧
        server.relay.inner.pending.lookup firstRequest ≠ none ∧ server.sessions.Connected "town" socket.sessionId) ∧
      ¬server.Cleaned 0 socket connection := by
  obtain ⟨server, reachable, passes⟩ := Machine.reachable_of_execute (serverMachine 16) Machine.always (started_start 16)
    (connectTown none ++ [.welcome 0 false])
    (fun server : AppState => server.sockets[0]?.any fun socket : Socket =>
      socket.connection.any fun connection : AgentGatewayConnection => decide (socket.phase = .returned ∧
        server.relay.inner.isCurrent "town" connection.connectionId = true ∧
        server.relay.inner.pending.lookup firstRequest ≠ none ∧ server.sessions.Connected "town" socket.sessionId))
    (by decide +kernel)
  obtain ⟨socket, stored, passes⟩ := (Option.any_eq_true _ _).mp passes
  obtain ⟨connection, isConnection, passes⟩ := (Option.any_eq_true _ _).mp passes
  obtain ⟨returned, current, waiting, connected⟩ := of_decide_eq_true passes
  refine ⟨server, socket, connection, reachable, ⟨stored, returned, isConnection⟩, ⟨current, waiting, connected⟩, ?_⟩
  intro cleaned
  obtain ⟨other, found, same⟩ := (Option.any_eq_true _ _).mp current
  exact cleaned.connections "town" other found (beq_iff_eq.mp same)

end Vifu.Server
