import Vifu.Server.Socket.Revocation

/-!
# Who is connected

The relay hub, the monitor and the table of sessions each say whether a gateway is connected.  A socket
changes them one after the other, and while two sockets of one gateway do so at the same time, the last one
to be opened has to have the last word in each of them.
-/

namespace Vifu.Server

open Foundation
open Vifu.Runtime hiding validateIdentifier
open Vifu.Gateway

/-! ## The newest socket of a gateway -/

def newestOf (gatewayId : String) : List Socket → Option Socket
  | [] => none
  | socket :: sockets => (newestOf gatewayId sockets).or (if socket.gatewayId = gatewayId then some socket else none)

section

variable {gatewayId : String} {sockets : List Socket} {socket changed : Socket} {index : ℕ}

theorem newestOf_append (socket : Socket) : newestOf gatewayId (sockets ++ [socket]) =
      if socket.gatewayId = gatewayId then some socket else newestOf gatewayId sockets := by
  induction sockets with
  | nil => simp [newestOf]
  | cons head sockets ih =>
    rw [List.cons_append, newestOf, ih, newestOf]
    split <;> simp

theorem newestOf_none : newestOf gatewayId sockets = none ↔ ∀ socket ∈ sockets, socket.gatewayId ≠ gatewayId := by
  induction sockets with
  | nil => simp [newestOf]
  | cons head sockets ih =>
    rw [newestOf, Option.or_eq_none_iff, ih, and_comm]
    simp

theorem newestOf_set (stored : sockets[index]? = some socket) (gateway : changed.gatewayId = socket.gatewayId) :
    (socket.gatewayId = gatewayId ∧ newestOf gatewayId (sockets.drop (index + 1)) = none ∧
      newestOf gatewayId sockets = some socket ∧ newestOf gatewayId (sockets.set index changed) = some changed) ∨
    ((socket.gatewayId = gatewayId → newestOf gatewayId (sockets.drop (index + 1)) ≠ none) ∧
      newestOf gatewayId (sockets.set index changed) = newestOf gatewayId sockets) := by
  induction sockets generalizing index with
  | nil => cases stored
  | cons head sockets ih =>
    cases index with
    | zero =>
      cases stored
      simp only [List.drop_succ_cons, List.drop_zero, List.set_cons_zero, newestOf, gateway]
      by_cases same : socket.gatewayId = gatewayId
      · cases newestOf gatewayId sockets <;> simp [same]
      · simp [same]
    | succ index =>
      simp only [List.drop_succ_cons, List.set_cons_succ, newestOf]
      obtain ⟨same, newest, isNewest, afterwards⟩ | ⟨older, afterwards⟩ := ih stored
      · exact .inl ⟨same, newest, by rw [isNewest]; rfl, by rw [afterwards]; rfl⟩
      · exact .inr ⟨older, by rw [afterwards]⟩

theorem newestOf_some (newest : newestOf gatewayId sockets = some socket) :
    ∃ place : ℕ, sockets[place]? = some socket ∧ socket.gatewayId = gatewayId ∧
      newestOf gatewayId (sockets.drop (place + 1)) = none := by
  induction sockets with
  | nil => cases newest
  | cons head sockets ih =>
    rw [newestOf] at newest
    cases rest : newestOf gatewayId sockets with
    | some other =>
      rw [rest, Option.some_or] at newest
      obtain ⟨place, stored, gateway, last⟩ := ih (newest ▸ rest)
      exact ⟨place + 1, stored, gateway, last⟩
    | none =>
      rw [rest] at newest
      obtain ⟨same, ⟨⟩⟩ := Option.ite_none_right_eq_some.mp newest
      exact ⟨0, rfl, same, rest⟩

end

namespace Socket

variable (socket : Socket)

/-- Whether the socket is in its loop or has returned, so that it is neither about to become connected nor about to
become disconnected. -/
def isSettled : Bool :=
  match socket.phase with
  | .readying _ | .looping | .sending _ | .acknowledging | .leaving | .returned => true
  | .reconciling | .registering | .welcoming | .publishing | .closing | .retiring => false

/-- What the newest socket of a gateway has done when it is in its phase. -/
def Flags : Prop :=
  match socket.phase with
  | .reconciling | .registering => socket.connection = none ∧ socket.published = false ∧ socket.unregistered = false ∧
      socket.closed = false ∧ socket.retired = false
  | .welcoming | .publishing => socket.connection ≠ none ∧ socket.published = false ∧ socket.unregistered = false ∧
      socket.closed = false ∧ socket.retired = false
  | .readying _ | .looping | .sending _ | .acknowledging | .leaving => socket.connection ≠ none ∧ socket.published = true ∧
      socket.unregistered = false ∧ socket.closed = false ∧ socket.retired = false
  | .closing => socket.connection ≠ none ∧ socket.published = true ∧ socket.unregistered = true ∧ socket.closed = false ∧
      socket.retired = false
  | .retiring => socket.connection ≠ none ∧ socket.published = true ∧ socket.unregistered = true ∧ socket.closed = true ∧
      socket.retired = false
  | .returned => socket.connection ≠ none ∧ socket.published = true ∧
      ((socket.unregistered = false ∧ socket.closed = false ∧ socket.retired = false) ∨
        (socket.unregistered = true ∧ socket.closed = true ∧ socket.retired = true))

end Socket

namespace AppState

def IsNewest (server : AppState) (index : ℕ) (socket : Socket) : Prop :=
  newestOf socket.gatewayId (server.sockets.drop (index + 1)) = none

/-- Whether the newest socket of the gateway allows a step that an older one takes. -/
def Allows (server : AppState) (gatewayId : String) (allows : Socket → Prop) : Prop :=
  ∀ newest, newestOf gatewayId server.sockets = some newest → allows newest

/-- Whether the socket is the newest of its gateway, or the newest one allows its step. -/
def InTurn (server : AppState) (index : ℕ) (allows : Socket → Prop) : Prop :=
  ∀ socket, server.sockets[index]? = some socket →
    server.IsNewest index socket ∨ server.Allows socket.gatewayId allows

/-- No socket does after a newer one what the newer one has done before, and the newest one succeeds. -/
def Ordered (server : AppState) : ServerAction → Prop
  | .reconcile index succeeds | .welcome index succeeds => succeeds = true ∨
      ∀ socket, server.sockets[index]? = some socket → ¬server.IsNewest index socket
  | .register index _ => server.InTurn index fun newest => newest.connection = none
  | .publishConnected index => server.InTurn index fun newest => newest.retired = false
  | .touch index persisted _ => persisted = true → server.InTurn index fun newest => newest.closed = false
  | .close index persisted => ∀ socket, server.sockets[index]? = some socket →
      (server.IsNewest index socket ∧ persisted = true) ∨
      (¬server.IsNewest index socket ∧ (persisted = true → server.Allows socket.gatewayId fun newest =>
        newest.sessionId ≠ socket.sessionId ∨ newest.closed = true))
  | .publishDisconnected index => server.InTurn index fun newest => newest.published = false ∨ newest.retired = true
  | _ => True

/-- The three views of the presence of a gateway agree. -/
structure Consistent (server : AppState) (gatewayId : String) : Prop where
  monitor : (server.relay.inner.connections.lookup gatewayId).isSome ↔ (server.monitor.lookup gatewayId).isSome
  sessions : (server.relay.inner.connections.lookup gatewayId).isSome ↔
    ∃! sessionId, server.sessions.Connected gatewayId sessionId
  own : ∀ connection, server.relay.inner.connections.lookup gatewayId = some connection →
    server.sessions.Connected gatewayId connection.sessionId

variable {queueCapacity : ℕ} {server next : AppState} {gatewayId : String} {sessionId otherId : Uuid}
  {otherGateway : String} {table : SessionTable}

/-! ## Sessions of sockets -/

def Owned (server : AppState) : Prop :=
  ∀ socket ∈ server.sockets, server.sessions.BelongsTo socket.gatewayId socket.sessionId

def KeepsSessions (server next : AppState) : Prop :=
  ∀ gatewayId sessionId, server.sessions.BelongsTo gatewayId sessionId → next.sessions.BelongsTo gatewayId sessionId

theorem touch_belongs
    (owned : table.BelongsTo gatewayId sessionId) (belongs : table.BelongsTo otherGateway otherId) :
    ((table.touchSession sessionId).getD table).BelongsTo otherGateway otherId := by
  obtain ⟨-, -, -, refused⟩ | ⟨free, touched⟩ := SessionTable.touchSession_cases owned
  · rw [refused]
    exact belongs
  · rw [touched]
    exact (SessionTable.connect_belongs free).mpr belongs

theorem touch_connected (owned : table.BelongsTo gatewayId sessionId)
    (apart : otherGateway = gatewayId → ∃ connected, table.Connected gatewayId connected) :
    ((table.touchSession sessionId).getD table).Connected otherGateway otherId ↔ table.Connected otherGateway otherId := by
  obtain ⟨-, -, -, refused⟩ | ⟨free, touched⟩ := SessionTable.touchSession_cases owned
  · rw [refused]
    exact Iff.rfl
  · rw [touched, Option.getD_some, SessionTable.connect_connected, or_iff_left_iff_imp]
    rintro ⟨rfl, rfl, -⟩
    obtain ⟨connected, row, mem, id, gateway, status⟩ := apart rfl
    exact ⟨row, mem, free row mem gateway status, gateway, status⟩

variable {index : ℕ} {socket changed : Socket}

theorem Owned.set (owned : server.Owned)
    (stored : server.sockets[index]? = some socket) (sockets : next.sockets = server.sockets.set index changed)
    (gateway : changed.gatewayId = socket.gatewayId) (session : changed.sessionId = socket.sessionId)
    (keeps : server.KeepsSessions next) : next.Owned := by
  rw [Owned, sockets]
  apply forall_mem_set
  · exact fun other mem => keeps _ _ (owned other mem)
  · rw [gateway, session]
    exact keeps _ _ (owned socket (List.mem_of_getElem? stored))

variable {action : ServerAction}

theorem Owned.step (owned : server.Owned) (steps : Steps queueCapacity server action next) : next.Owned := by
  have same : ∀ {next : AppState}, next.sessions = server.sessions → server.KeepsSessions next := by
    intro next sessions gatewayId sessionId belongs
    rw [sessions]
    exact belongs
  cases steps with
  | openSession gatewayId agents features resumeSessionId sessionId fresh =>
    intro socket mem
    cases List.mem_append.mp mem with
    | inl earlier => exact (owned socket earlier).openSession resumeSessionId fresh
    | inr isNew =>
      rw [List.mem_singleton.mp isNew]
      exact SessionTable.openSession_belongs resumeSessionId fresh
  | turn action index socket phase stored => exact owned.set stored rfl rfl rfl (same rfl)
  | fail action index socket relay stored => exact owned.set stored rfl rfl rfl (same rfl)
  | register index connectionId socket stored => exact owned.set stored rfl rfl rfl (same rfl)
  | publishConnected index socket stored => exact owned.set stored rfl rfl rfl (same rfl)
  | receive index socket connection channel command queue stored => exact owned.set stored rfl rfl rfl (same rfl)
  | send index socket command stored => exact owned.set stored rfl rfl rfl (same rfl)
  | relay => exact owned
  | touch index persisted acknowledged socket stored =>
    refine owned.set stored rfl rfl rfl ?_
    intro otherGateway otherId belongs
    dsimp only
    split
    next => exact touch_belongs (owned socket (List.mem_of_getElem? stored)) belongs
    next => exact belongs
  | unregister index socket connection stored => exact owned.set stored rfl rfl rfl (same rfl)
  | replaced index socket connection relay stored => exact owned.set stored rfl rfl rfl (same rfl)
  | close index persisted socket stored =>
    refine owned.set stored rfl rfl rfl ?_
    intro otherGateway otherId belongs
    split
    next => exact (SessionTable.disconnect_belongs _).mpr belongs
    next => exact belongs
  | publishDisconnected index socket relay stored => exact owned.set stored rfl rfl rfl (same rfl)

/-! ## The newest socket has the last word -/

structure Shows (server : AppState) (gatewayId : String) (newest : Socket) : Prop where
  flags : newest.Flags
  registered : ∀ connection, newest.connection = some connection → newest.unregistered = false →
    server.relay.inner.connections.lookup gatewayId = some connection ∧ connection.sessionId = newest.sessionId
  unregistered : newest.unregistered = true → server.relay.inner.connections.lookup gatewayId = none
  sessions : ∀ sessionId, server.sessions.Connected gatewayId sessionId ↔ newest.closed = false ∧ sessionId = newest.sessionId
  published : newest.published = true → newest.retired = false → (server.monitor.lookup gatewayId).isSome
  retired : newest.retired = true → server.monitor.lookup gatewayId = none

/-- A gateway that no socket was opened for is not connected. -/
structure Unseen (server : AppState) (gatewayId : String) : Prop where
  connections : server.relay.inner.connections.lookup gatewayId = none
  monitor : server.monitor.lookup gatewayId = none
  sessions : ∀ sessionId, ¬server.sessions.Connected gatewayId sessionId

structure Views (server : AppState) (gatewayId : String) : Prop where
  unseen : newestOf gatewayId server.sockets = none → server.Unseen gatewayId
  shows : ∀ newest, newestOf gatewayId server.sockets = some newest → server.Shows gatewayId newest

structure SameViews (server next : AppState) (gatewayId : String) : Prop where
  connections : next.relay.inner.connections.lookup gatewayId = server.relay.inner.connections.lookup gatewayId
  monitor : next.monitor.lookup gatewayId = server.monitor.lookup gatewayId
  sessions : ∀ sessionId, next.sessions.Connected gatewayId sessionId ↔ server.sessions.Connected gatewayId sessionId

theorem Shows.same {newest changed : Socket} (shows : server.Shows gatewayId newest) (same : server.SameViews next gatewayId)
    (flags : changed.Flags) (connection : changed.connection = newest.connection) (session : changed.sessionId = newest.sessionId)
    (done : changed.published = newest.published ∧ changed.unregistered = newest.unregistered ∧
      changed.closed = newest.closed ∧ changed.retired = newest.retired) : next.Shows gatewayId changed := by
  obtain ⟨published, unregistered, closed, retired⟩ := done
  refine ⟨flags, ?_, ?_, ?_, ?_, ?_⟩
  · rw [connection, unregistered, session, same.connections]
    exact shows.registered
  · rw [unregistered, same.connections]
    exact shows.unregistered
  · intro sessionId
    rw [closed, session, same.sessions]
    exact shows.sessions sessionId
  · rw [published, retired, same.monitor]
    exact shows.published
  · rw [retired, same.monitor]
    exact shows.retired

theorem Unseen.same (unseen : server.Unseen gatewayId) (same : server.SameViews next gatewayId) : next.Unseen gatewayId :=
  ⟨same.connections.trans unseen.connections, same.monitor.trans unseen.monitor,
    fun sessionId connected => unseen.sessions sessionId ((same.sessions sessionId).mp connected)⟩

/-- A step of one socket: the newest one changes the views to what it has then done, and an older one does not. -/
theorem Views.set (views : server.Views gatewayId)
    (stored : server.sockets[index]? = some socket) (sockets : next.sockets = server.sockets.set index changed)
    (gateway : changed.gatewayId = socket.gatewayId)
    (away : socket.gatewayId ≠ gatewayId → server.SameViews next gatewayId)
    (own : socket.gatewayId = gatewayId → server.IsNewest index socket → server.Shows gatewayId socket →
      next.Shows gatewayId changed)
    (older : socket.gatewayId = gatewayId → ¬server.IsNewest index socket → ∀ newest,
      newestOf gatewayId server.sockets = some newest → server.Shows gatewayId newest → next.Shows gatewayId newest) :
    next.Views gatewayId := by
  by_cases same : socket.gatewayId = gatewayId
  · obtain ⟨-, isNewest, before, after⟩ | ⟨notNewest, after⟩ := newestOf_set stored gateway
    · constructor
      · intro unseen
        rw [sockets, after] at unseen
        cases unseen
      · intro newest found
        rw [sockets, after, Option.some.injEq] at found
        subst found
        exact own same (by rw [IsNewest, same]; exact isNewest) (views.shows socket before)
    · constructor
      · intro unseen
        rw [sockets, after] at unseen
        exact absurd same (newestOf_none.mp unseen socket (List.mem_of_getElem? stored))
      · intro newest found
        rw [sockets, after] at found
        refine older same ?_ newest found (views.shows newest found)
        rw [IsNewest, same]
        exact notNewest same
  · have unchanged : newestOf gatewayId next.sockets = newestOf gatewayId server.sockets := by
      rw [sockets]
      obtain ⟨isSame, -⟩ | ⟨-, after⟩ := newestOf_set stored gateway
      · exact absurd isSame same
      · exact after
    constructor
    · intro unseen
      rw [unchanged] at unseen
      exact (views.unseen unseen).same (away same)
    · intro newest found
      rw [unchanged] at found
      have shows := views.shows newest found
      exact shows.same (away same) shows.flags rfl rfl ⟨rfl, rfl, rfl, rfl⟩

/-! ## What the steps do to the views -/

theorem SameViews.of_same (connections : next.relay.inner.connections = server.relay.inner.connections)
    (monitor : next.monitor = server.monitor) (sessions : next.sessions = server.sessions) : server.SameViews next gatewayId := by
  refine ⟨by rw [connections], by rw [monitor], fun sessionId => ?_⟩
  rw [sessions]

variable {relay after : RelayHub}

theorem dropReceiver_connections
    (dropped : relay.dropReceiver queueCapacity socket = some after) : after.inner.connections = relay.inner.connections := by
  rw [RelayHub.dropReceiver] at dropped
  split at dropped
  next =>
    cases dropped
    rfl
  next =>
    obtain ⟨_, _, _, _, _, isRegister⟩ | ⟨_, _, isUnregister⟩ | same := RelayHub.connections_of_step dropped
    · cases isRegister
    · cases isUnregister
    · exact same

theorem Relays.connections {hubAction : HubAction}
    (relays : Relays action hubAction) (stepped : relay.step queueCapacity hubAction = some after) :
    after.inner.connections = relay.inner.connections := by
  obtain ⟨_, _, _, _, _, rfl⟩ | ⟨_, _, rfl⟩ | same := RelayHub.connections_of_step stepped
  · cases relays with
    | other action isOther => cases isOther
  · cases relays with
    | other action isOther => cases isOther
  · exact same

theorem Turns.flags {before phase : SocketPhase} (turns : Turns index action before phase)
    (isBefore : socket.phase = before) (flags : socket.Flags) : Socket.Flags { socket with phase } := by
  cases turns <;> simpa [Socket.Flags, isBefore] using flags

theorem Fails.flags {before : SocketPhase} (fails : Fails index action before)
    (stored : server.sockets[index]? = some socket) (isBefore : socket.phase = before)
    (ordered : server.Ordered action) (newest : server.IsNewest index socket) (flags : socket.Flags) :
    Socket.Flags { socket with phase := .returned } := by
  have excluded (succeeds : false = true ∨ ∀ socket, server.sockets[index]? = some socket → ¬server.IsNewest index socket) : False := by
    cases succeeds with
    | inl impossible => cases impossible
    | inr old => exact old socket stored newest
  cases fails with
  | reconcile | welcome => exact (excluded ordered).elim
  | ready | acknowledge =>
    simp only [Socket.Flags, isBefore] at flags ⊢
    exact ⟨flags.1, flags.2.1, .inl flags.2.2⟩

theorem InTurn.allows {socket newest : Socket} {allows : Socket → Prop} (inTurn : server.InTurn index allows)
    (stored : server.sockets[index]? = some socket) (old : ¬server.IsNewest index socket)
    (found : newestOf gatewayId server.sockets = some newest) (gateway : socket.gatewayId = gatewayId) : allows newest :=
  (inTurn socket stored).resolve_left old newest (gateway ▸ found)

theorem flags_registered (flags : socket.Flags) (unregistered : socket.connection = none) :
    socket.unregistered = false ∧ socket.published = false ∧ socket.closed = false ∧ socket.retired = false := by
  cases phase : socket.phase <;> simp_all [Socket.Flags]

section

variable (views : server.Views gatewayId) {connection : AgentGatewayConnection} {relay : RelayHub}
include views

theorem Views.openSession {isOpened : String} {agents : List AgentDescriptor}
    {features : GatewayFeatures} {resumeSessionId : Option Uuid} {sessionId : Uuid}
    (fresh : sessionId ∉ server.sessions.rows.map AgentGatewaySession.sessionId) (relay : next.relay = server.relay)
    (monitor : next.monitor = server.monitor)
    (sessions : next.sessions = (server.sessions.openSession isOpened resumeSessionId sessionId fresh).1)
    (sockets : next.sockets = server.sockets ++
      [.new isOpened (server.sessions.openSession isOpened resumeSessionId sessionId fresh).2.1 agents features]) :
    next.Views gatewayId := by
  have newest : newestOf gatewayId next.sockets =
      if isOpened = gatewayId then
        some (.new isOpened (server.sessions.openSession isOpened resumeSessionId sessionId fresh).2.1 agents features)
      else newestOf gatewayId server.sockets := by
    rw [sockets]
    exact newestOf_append _
  by_cases same : isOpened = gatewayId
  · subst same
    rw [if_pos rfl] at newest
    constructor
    · intro unseen
      rw [newest] at unseen
      cases unseen
    · intro socket found
      rw [newest, Option.some.injEq] at found
      subst found
      refine ⟨by simp [Socket.Flags, Socket.new], ?_, ?_, ?_, ?_, ?_⟩
      · intro connection isConnection
        cases isConnection
      · intro unregistered
        cases unregistered
      · intro otherId
        rw [sessions, SessionTable.openSession_connected]
        simp [Socket.new]
      · intro published
        cases published
      · intro retired
        cases retired
  · rw [if_neg same] at newest
    have unchanged : server.SameViews next gatewayId := by
      refine ⟨by rw [relay], by rw [monitor], fun otherId => ?_⟩
      rw [sessions, SessionTable.openSession_connected]
      simp [Ne.symm same]
    constructor
    · intro unseen
      rw [newest] at unseen
      exact (views.unseen unseen).same unchanged
    · intro socket found
      rw [newest] at found
      have shows := views.shows socket found
      exact shows.same unchanged shows.flags rfl rfl ⟨rfl, rfl, rfl, rfl⟩

section

variable (stored : server.sockets[index]? = some socket)
include stored

theorem Views.turn (sockets : next.sockets = server.sockets.set index changed)
    (gateway : changed.gatewayId = socket.gatewayId) (connection : changed.connection = socket.connection)
    (session : changed.sessionId = socket.sessionId)
    (done : changed.published = socket.published ∧ changed.unregistered = socket.unregistered ∧
      changed.closed = socket.closed ∧ changed.retired = socket.retired)
    (flags : server.IsNewest index socket → socket.Flags → changed.Flags)
    (same : server.SameViews next gatewayId) : next.Views gatewayId := by
  refine views.set stored sockets gateway (fun _ => same) ?_ ?_
  · intro _ isNewest shows
    exact shows.same same (flags isNewest shows.flags) connection session done
  · intro _ _ newest _ shows
    exact shows.same same shows.flags rfl rfl ⟨rfl, rfl, rfl, rfl⟩

theorem Views.register {connectionId : Uuid} (registering : socket.phase = .registering)
    (ordered : server.Ordered (.register index connectionId)) : ({ server.setSocket index
        { socket with
          connection := some (socket.connectionOf connectionId server.relay.channels.length)
          phase := .welcoming } with
      relay := server.relay.register socket.gatewayId connectionId socket.sessionId socket.features.applicationFeedback
        socket.features.invocationActivity } : AppState).Views gatewayId := by
  refine views.set stored rfl rfl ?_ ?_ ?_
  · intro different
    refine ⟨?_, rfl, fun _ => Iff.rfl⟩
    exact AList.lookup_insert_ne (Ne.symm different)
  · rintro rfl - shows
    have flags := shows.flags
    simp only [Socket.Flags, registering] at flags
    refine ⟨by simpa [Socket.Flags] using flags.2, ?_, ?_, shows.sessions, shows.published, shows.retired⟩
    · intro connection isConnection _
      cases isConnection
      exact ⟨AList.lookup_insert _, rfl⟩
    · intro unregistered
      rw [flags.2.2.1] at unregistered
      cases unregistered
  · rintro rfl old newest found shows
    have unregistered := ordered.allows stored old found rfl
    have unused := (flags_registered shows.flags unregistered).1
    refine ⟨shows.flags, ?_, ?_, shows.sessions, shows.published, shows.retired⟩
    · intro connection isConnection
      rw [unregistered] at isConnection
      cases isConnection
    · intro isUnregistered
      rw [unused] at isUnregistered
      cases isUnregistered

theorem Views.publishConnected (publishing : socket.phase = .publishing)
    (ordered : server.Ordered (.publishConnected index)) :
    ({ server.setSocket index { socket with published := true, phase := .readying socket.readyCommands } with
      monitor := server.monitor.insert socket.gatewayId socket.agents } : AppState).Views gatewayId := by
  refine views.set stored rfl rfl ?_ ?_ ?_
  · intro different
    refine ⟨rfl, ?_, fun _ => Iff.rfl⟩
    exact AList.lookup_insert_ne (Ne.symm different)
  · rintro rfl - shows
    have flags := shows.flags
    simp only [Socket.Flags, publishing] at flags
    refine ⟨?_, shows.registered, shows.unregistered, shows.sessions, ?_, ?_⟩
    · simpa [Socket.Flags] using ⟨flags.1, flags.2.2⟩
    · intro _ _
      simp
    · intro retired
      rw [flags.2.2.2.2] at retired
      cases retired
  · rintro rfl old newest found shows
    have notRetired := ordered.allows stored old found rfl
    refine ⟨shows.flags, shows.registered, shows.unregistered, shows.sessions, ?_, ?_⟩
    · intro _ _
      simp
    · intro retired
      rw [notRetired] at retired
      cases retired

end

theorem Views.touch (owned : server.Owned) {persisted acknowledged : Bool}
    (stored : server.sockets[index]? = some socket) (looping : socket.phase = .looping)
    (ordered : server.Ordered (.touch index persisted acknowledged)) :
    ({ server.setSocket index { socket with phase := if acknowledged then .acknowledging else .looping } with
      sessions := if persisted then (server.sessions.touchSession socket.sessionId).getD server.sessions
        else server.sessions } : AppState).Views gatewayId := by
  have belongs := owned socket (List.mem_of_getElem? stored)
  have flags : socket.Flags → Socket.Flags { socket with phase := if acknowledged then .acknowledging else .looping } := by
    intro flags
    cases acknowledged <;> simpa [Socket.Flags, looping] using flags
  cases persisted with
  | false => exact views.turn stored rfl rfl rfl rfl ⟨rfl, rfl, rfl, rfl⟩ (fun _ => flags) (.of_same rfl rfl rfl)
  | true =>
    have same (apart : gatewayId = socket.gatewayId → ∃ connected, server.sessions.Connected socket.gatewayId connected) :
        server.SameViews { server.setSocket index { socket with phase := if acknowledged then .acknowledging else .looping } with
          sessions := (server.sessions.touchSession socket.sessionId).getD server.sessions } gatewayId :=
      ⟨rfl, rfl, fun sessionId => touch_connected belongs apart⟩
    refine views.set stored rfl rfl ?_ ?_ ?_
    · exact fun different => same fun isSame => absurd isSame.symm different
    · rintro rfl - shows
      have isOpen := shows.flags
      simp only [Socket.Flags, looping] at isOpen
      refine shows.same (same fun _ => ⟨socket.sessionId, ?_⟩) (flags shows.flags) rfl rfl ⟨rfl, rfl, rfl, rfl⟩
      exact (shows.sessions _).mpr ⟨isOpen.2.2.2.1, rfl⟩
    · rintro rfl old newest found shows
      have isOpen := (ordered rfl).allows stored old found rfl
      refine shows.same (same fun _ => ⟨newest.sessionId, ?_⟩) shows.flags rfl rfl ⟨rfl, rfl, rfl, rfl⟩
      exact (shows.sessions _).mpr ⟨isOpen, rfl⟩

theorem Views.unregister (registered : server.relay.Registered) (linked : server.Linked)
    (stored : server.sockets[index]? = some socket)
    (leaving : socket.phase = .leaving) (isConnection : socket.connection = some connection)
    (current : server.relay.inner.isCurrent socket.gatewayId connection.connectionId = true) :
    ({ server.setSocket index { socket with unregistered := true, phase := .closing } with
      relay := server.relay.unregister socket.gatewayId connection.connectionId } : AppState).Views gatewayId := by
  have erased : (server.relay.unregister socket.gatewayId connection.connectionId).inner.connections =
      server.relay.inner.connections.erase socket.gatewayId := by
    simp [RelayHub.unregister, RelayState.unregister, current]
  refine views.set stored rfl rfl ?_ ?_ ?_
  · intro different
    refine ⟨?_, rfl, fun _ => Iff.rfl⟩
    rw [erased]
    exact AList.lookup_erase_ne (Ne.symm different)
  · rintro rfl - shows
    have flags := shows.flags
    simp only [Socket.Flags, leaving] at flags
    refine ⟨?_, ?_, ?_, shows.sessions, shows.published, shows.retired⟩
    · simpa [Socket.Flags] using ⟨flags.1, flags.2.1, flags.2.2.2⟩
    · intro _ _ unregistered
      cases unregistered
    · intro _
      rw [erased]
      exact AList.lookup_erase _ _
  · rintro rfl old newest found shows
    obtain ⟨other, isOther, sameId⟩ := (Option.any_eq_true _ _).mp current
    obtain ⟨place, isNewest, gateway, last⟩ := newestOf_some found
    have apart : place ≠ index := by
      rintro rfl
      exact old last
    refine ⟨shows.flags, ?_, ?_, shows.sessions, shows.published, shows.retired⟩
    · intro isLater isLaterConnection unregistered
      have stays := (shows.registered isLater isLaterConnection unregistered).1
      rw [isOther, Option.some.injEq] at stays
      subst stays
      have same := linked.apart registered isNewest stored isLaterConnection isConnection (beq_iff_eq.mp sameId)
      exact absurd same apart
    · intro unregistered
      rw [shows.unregistered unregistered] at isOther
      cases isOther

theorem Views.replaced (stored : server.sockets[index]? = some socket) (leaving : socket.phase = .leaving)
    (isConnection : socket.connection = some connection)
    (current : server.relay.inner.isCurrent socket.gatewayId connection.connectionId = false)
    (dropped : (server.relay.unregister socket.gatewayId connection.connectionId).dropReceiver queueCapacity socket = some relay) :
    ({ server.setSocket index { socket with unregistered := true, phase := .returned } with relay } : AppState).Views
      gatewayId := by
  have unchanged : relay.inner.connections = server.relay.inner.connections := by
    rw [dropReceiver_connections dropped]
    simp [RelayHub.unregister, RelayState.unregister, current]
  refine views.set stored rfl rfl (fun _ => .of_same unchanged rfl rfl) ?_ ?_
  · rintro rfl - shows
    have flags := shows.flags
    simp only [Socket.Flags, leaving] at flags
    have stays := (shows.registered connection isConnection flags.2.2.1).1
    simp [RelayState.isCurrent, stays] at current
  · intro _ _ newest _ shows
    exact shows.same (.of_same unchanged rfl rfl) shows.flags rfl rfl ⟨rfl, rfl, rfl, rfl⟩

theorem Views.close (owned : server.Owned) {persisted : Bool}
    (stored : server.sockets[index]? = some socket) (closing : socket.phase = .closing)
    (ordered : server.Ordered (.close index persisted)) :
    ({ server.setSocket index { socket with closed := persisted, phase := .retiring } with
      sessions := if persisted then server.sessions.closeSession socket.sessionId else server.sessions } : AppState).Views
      gatewayId := by
  have belongs := owned socket (List.mem_of_getElem? stored)
  refine views.set stored rfl rfl ?_ ?_ ?_
  · intro different
    refine ⟨rfl, rfl, fun sessionId => ?_⟩
    split
    next =>
      rw [SessionTable.closeSession_connected, and_iff_left_iff_imp]
      rintro connected rfl
      exact different (belongs.unique connected.belongs)
    next => exact Iff.rfl
  · rintro rfl isNewest shows
    obtain ⟨-, rfl⟩ | ⟨old, -⟩ := ordered socket stored
    · have flags := shows.flags
      simp only [Socket.Flags, closing] at flags
      refine ⟨?_, shows.registered, shows.unregistered, ?_, shows.published, shows.retired⟩
      · simpa [Socket.Flags] using ⟨flags.1, flags.2.1, flags.2.2.1, flags.2.2.2.2⟩
      · intro sessionId
        simp only [if_true, Bool.true_eq_false, false_and, iff_false]
        rw [SessionTable.closeSession_connected, shows.sessions]
        exact fun isOpen => isOpen.2 isOpen.1.2
    · exact absurd isNewest old
  · rintro rfl old newest found shows
    refine ⟨shows.flags, shows.registered, shows.unregistered, ?_, shows.published, shows.retired⟩
    obtain ⟨isNewest, -⟩ | ⟨-, allowed⟩ := ordered socket stored
    · exact absurd isNewest old
    · intro sessionId
      cases persisted with
      | false => exact shows.sessions sessionId
      | true =>
        simp only [if_true]
        rw [SessionTable.closeSession_connected, shows.sessions, and_iff_left_iff_imp]
        rintro ⟨isOpen, rfl⟩
        obtain different | closed := allowed rfl newest found
        · exact different
        · rw [isOpen] at closed
          cases closed

theorem Views.publishDisconnected
    (stored : server.sockets[index]? = some socket) (retiring : socket.phase = .retiring)
    (dropped : server.relay.dropReceiver queueCapacity socket = some relay)
    (ordered : server.Ordered (.publishDisconnected index)) :
    ({ server.setSocket index { socket with retired := true, phase := .returned } with
      relay
      monitor := server.monitor.erase socket.gatewayId } : AppState).Views gatewayId := by
  have unchanged := dropReceiver_connections dropped
  refine views.set stored rfl rfl ?_ ?_ ?_
  · intro different
    refine ⟨by rw [unchanged], ?_, fun _ => Iff.rfl⟩
    exact AList.lookup_erase_ne (Ne.symm different)
  · rintro rfl - shows
    have flags := shows.flags
    simp only [Socket.Flags, retiring] at flags
    refine ⟨?_, ?_, ?_, shows.sessions, ?_, ?_⟩
    · simpa [Socket.Flags] using ⟨flags.1, flags.2.1, flags.2.2.1, flags.2.2.2.1⟩
    · rw [unchanged]
      exact shows.registered
    · rw [unchanged]
      exact shows.unregistered
    · intro _ retired
      cases retired
    · intro _
      exact AList.lookup_erase _ _
  · rintro rfl old newest found shows
    have allowed := ordered.allows stored old found rfl
    refine ⟨shows.flags, ?_, ?_, shows.sessions, ?_, ?_⟩
    · rw [unchanged]
      exact shows.registered
    · rw [unchanged]
      exact shows.unregistered
    · intro published notRetired
      rw [published, notRetired] at allowed
      cases allowed with
      | inl impossible => cases impossible
      | inr impossible => cases impossible
    · intro _
      exact AList.lookup_erase _ _

theorem Views.step (owned : server.Owned)
    (registered : server.relay.Registered) (linked : server.Linked) (ordered : server.Ordered action)
    (steps : Steps queueCapacity server action next) : next.Views gatewayId := by
  cases steps with
  | openSession isOpened agents features resumeSessionId sessionId fresh => exact views.openSession fresh rfl rfl rfl rfl
  | turn action index socket phase stored turns =>
    exact views.turn stored rfl rfl rfl rfl ⟨rfl, rfl, rfl, rfl⟩ (fun _ => turns.flags rfl) (.of_same rfl rfl rfl)
  | fail action index socket relay stored fails dropped =>
    exact views.turn stored rfl rfl rfl rfl ⟨rfl, rfl, rfl, rfl⟩ (fails.flags stored rfl ordered)
      (.of_same (dropReceiver_connections dropped) rfl rfl)
  | register index connectionId socket stored registering unused => exact views.register stored registering ordered
  | publishConnected index socket stored publishing => exact views.publishConnected stored publishing ordered
  | receive index socket connection channel command queue stored looping =>
    refine views.turn stored rfl rfl rfl rfl ⟨rfl, rfl, rfl, rfl⟩ ?_ (.of_same rfl rfl rfl)
    intro _ flags
    simpa [Socket.Flags, looping] using flags
  | send index socket command stored sending =>
    refine views.turn stored rfl rfl rfl rfl ⟨rfl, rfl, rfl, rfl⟩ ?_ (.of_same rfl rfl rfl)
    intro _ flags
    cases ends : disconnects command <;> simpa [Socket.Flags, sending, ends] using flags
  | relay action hubAction relay relays stepped =>
    have same : server.SameViews { server with relay } gatewayId := .of_same (relays.connections stepped) rfl rfl
    constructor
    · exact fun unseen => (views.unseen unseen).same same
    · intro newest found
      have shows := views.shows newest found
      exact shows.same same shows.flags rfl rfl ⟨rfl, rfl, rfl, rfl⟩
  | touch index persisted acknowledged socket stored looping => exact views.touch owned stored looping ordered
  | unregister index socket connection stored leaving isConnection current =>
    exact views.unregister registered linked stored leaving isConnection current
  | replaced index socket connection relay stored leaving isConnection current known dropped =>
    exact views.replaced stored leaving isConnection current dropped
  | close index persisted socket stored closing => exact views.close owned stored closing ordered
  | publishDisconnected index socket relay stored retiring dropped =>
    exact views.publishDisconnected stored retiring dropped ordered

end

/-! ## Settled sockets -/

theorem Shows.consistent {newest : Socket} (shows : server.Shows gatewayId newest) (settled : newest.isSettled = true) :
    server.Consistent gatewayId := by
  -- the newest socket is connected, or it has returned after its loop
  have either : (∃ connection, newest.connection = some connection ∧ newest.unregistered = false ∧ newest.published = true ∧
      newest.closed = false ∧ newest.retired = false) ∨
      (newest.unregistered = true ∧ newest.closed = true ∧ newest.retired = true) := by
    have flags := shows.flags
    cases found : newest.connection <;> cases phase : newest.phase <;> simp_all [Socket.Flags, Socket.isSettled]
  obtain ⟨connection, isConnection, unregistered, published, closed, retired⟩ | ⟨unregistered, closed, retired⟩ := either
  · obtain ⟨current, session⟩ := shows.registered connection isConnection unregistered
    refine ⟨?_, ?_, ?_⟩
    · simp [current, shows.published published retired]
    · simp [current, shows.sessions, closed]
    · intro other isOther
      rw [current, Option.some.injEq] at isOther
      subst isOther
      exact (shows.sessions _).mpr ⟨closed, session⟩
  · have gone := shows.unregistered unregistered
    refine ⟨?_, ?_, ?_⟩
    · simp [gone, shows.retired retired]
    · simp [gone, shows.sessions, closed]
    · intro other isOther
      rw [gone] at isOther
      cases isOther

theorem Unseen.consistent (unseen : server.Unseen gatewayId) : server.Consistent gatewayId := by
  refine ⟨?_, ?_, ?_⟩
  · simp [unseen.connections, unseen.monitor]
  · simp [unseen.connections, ExistsUnique, unseen.sessions]
  · intro connection found
    rw [unseen.connections] at found
    cases found

theorem views_started {start : AppState} (isStart : (serverMachine queueCapacity).start start) : start.Views gatewayId := by
  obtain ⟨relay, monitor, sockets, idle⟩ := isStart
  constructor
  · intro _
    refine ⟨by rw [relay]; rfl, by rw [monitor]; rfl, ?_⟩
    rintro sessionId ⟨row, mem, -, -, connected⟩
    rw [idle row mem] at connected
    cases connected
  · intro newest found
    rw [sockets] at found
    cases found

end AppState

/-- While the newest socket of each gateway has the last word, the hub, the monitor and the sessions agree on a gateway
whose sockets are all in their loops or have returned. -/
theorem presence_consistent {queueCapacity : ℕ} {server : AppState} {gatewayId : String}
    (reachable : (serverMachine queueCapacity).Reachable AppState.Ordered server)
    (settled : ∀ socket ∈ server.sockets, socket.gatewayId = gatewayId → socket.isSettled = true) : server.Consistent gatewayId := by
  have kept : server.Views gatewayId ∧ server.Owned ∧ server.relay.Registered ∧ server.Linked := by
    show (fun server : AppState =>
      server.Views gatewayId ∧ server.Owned ∧ server.relay.Registered ∧ server.Linked) server
    apply reachable.invariant
    · intro start isStart
      refine ⟨AppState.views_started isStart, ?_, ?_, AppState.linked_started isStart⟩
      · intro socket member
        rw [isStart.2.2.1] at member
        cases member
      · rw [isStart.1]
        exact RelayHub.registered_new
    · intro server action next holds ordered stepped
      obtain ⟨views, owned, registered, linked⟩ := holds
      have steps := AppState.steps_of_step stepped
      refine ⟨views.step owned registered linked ordered steps, owned.step steps, ?_, linked.step steps⟩
      exact steps.relayRuns.preserves (fun _ _ _ registered _ stepped => registered.step stepped) registered
  cases found : newestOf gatewayId server.sockets with
  | none => exact (kept.1.unseen found).consistent
  | some newest =>
    obtain ⟨place, stored, gateway, -⟩ := newestOf_some found
    exact (kept.1.shows newest found).consistent (settled newest (List.mem_of_getElem? stored) gateway)

/-! ## A gateway that reconnects -/

namespace AppState

instance decidableIsNewest (server : AppState) (index : ℕ) : DecidablePred (server.IsNewest index) :=
  fun socket => inferInstanceAs (Decidable (newestOf socket.gatewayId (server.sockets.drop (index + 1)) = none))

instance decidableAllows (server : AppState) (gatewayId : String) (allows : Socket → Prop) [DecidablePred allows] :
    Decidable (server.Allows gatewayId allows) :=
  decidableForallSome (newestOf gatewayId server.sockets)

instance decidableInTurn (server : AppState) (index : ℕ) (allows : Socket → Prop) [DecidablePred allows] :
    Decidable (server.InTurn index allows) :=
  decidableForallSome server.sockets[index]?

instance decidableOrdered (server : AppState) : ∀ action, Decidable (server.Ordered action)
  | .reconcile index _ | .welcome index _ => @instDecidableOr _ _ _ (decidableForallSome server.sockets[index]?)
  | .register index _ => decidableInTurn server index fun newest => newest.connection = none
  | .publishConnected index => decidableInTurn server index fun newest => newest.retired = false
  | .touch index persisted _ => inferInstanceAs (Decidable (persisted = true →
      server.InTurn index fun newest => newest.closed = false))
  | .close index _ => decidableForallSome server.sockets[index]?
  | .publishDisconnected index => decidableInTurn server index fun newest => newest.published = false ∨ newest.retired = true
  | .openSession .. | .ready .. | .enterLoop _ | .receive _ | .send .. | .completeReply .. | .recordActivity .. |
    .acknowledge .. | .leave _ | .unregister _ | .relay _ => .isTrue trivial

end AppState

def nextSocket : Uuid := ⟨"0190f2c4-7b1e-7c3a-9d52-1f6a0e8b4d05", by decide⟩
def nextSession : Uuid := ⟨"0190f2c4-7b1e-7c3a-9d52-1f6a0e8b4d06", by decide⟩

def resumeSecond : List ServerAction :=
  [.openSession "town" [] ⟨false, false, false, false⟩ (some townSession) nextSession, .reconcile 1 true]

def registerSecond : List ServerAction :=
  [.register 1 nextSocket, .welcome 1 true, .publishConnected 1, .enterLoop 1]

/-- The second socket replaces the first. -/
theorem presence_consistent_town :
    ∃ server : AppState, (server.sockets.map Socket.phase = [.returned, .looping] ∧
      (server.monitor.lookup "town").isSome = true) ∧ server.Consistent "town" := by
  obtain ⟨server, reachable, passes⟩ := Machine.reachable_of_execute (serverMachine 16) AppState.Ordered (started_start 16)
    (serveTown ++ resumeSecond ++ registerSecond ++ [.relay (.post 0 0), .receive 0, .send 0 true, .unregister 0])
    (fun server : AppState => decide ((server.sockets.map Socket.phase = [.returned, .looping] ∧
      (server.monitor.lookup "town").isSome = true) ∧ server.sockets.all Socket.isSettled = true)) (by decide +kernel)
  obtain ⟨shown, settled⟩ := of_decide_eq_true passes
  exact ⟨server, shown, presence_consistent reachable fun socket member _ => List.all_eq_true.mp settled socket member⟩

/-- The first socket closes the session that the second one has resumed, and tells the monitor that the gateway is
disconnected, after the second one has registered. -/
theorem resumed_session_closed : ∃ server : AppState, (serverMachine 16).Reachable Machine.always server ∧
      (∀ socket ∈ server.sockets, socket.isSettled = true) ∧
      ((server.relay.inner.connections.lookup "town").isSome = true ∧ server.monitor.lookup "town" = none ∧
        ¬server.sessions.Connected "town" townSession) ∧
      ¬server.Consistent "town" := by
  obtain ⟨server, reachable, passes⟩ := Machine.reachable_of_execute (serverMachine 16) Machine.always (started_start 16)
    (serveTown ++ [.leave 0] ++ resumeSecond ++ [.unregister 0] ++ registerSecond ++ [.close 0 true, .publishDisconnected 0])
    (fun server : AppState => decide (server.sockets.all Socket.isSettled = true ∧
      (server.relay.inner.connections.lookup "town").isSome = true ∧ (server.monitor.lookup "town").isNone = true ∧
        ¬server.sessions.Connected "town" townSession)) (by decide +kernel)
  obtain ⟨settled, connected, unlisted, closed⟩ := of_decide_eq_true passes
  have isNone := Option.isNone_iff_eq_none.mp unlisted
  refine ⟨server, reachable, List.all_eq_true.mp settled, ⟨connected, isNone, closed⟩, ?_⟩
  intro consistent
  have listed := consistent.monitor.mp connected
  rw [isNone] at listed
  cases listed

end Vifu.Server
