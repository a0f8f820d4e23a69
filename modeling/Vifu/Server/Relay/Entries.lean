import Vifu.Server.Relay.Steps

/-!
# Entries of the map of pending calls

Channel ids are drawn in turn, every entry belongs to a connection that is still in use, and a caller that
relies on a response has an entry, a response under way or a response that has arrived.
-/

namespace Vifu.Server

open Foundation
open Vifu.Runtime hiding validateIdentifier
open Vifu.Gateway

/-! ## Channel ids -/

def RelayCall.ids (call : RelayCall) : Uuid × ℕ × AgentGatewayConnection := (call.requestId, call.channelId, call.connection)

variable {call : RelayCall} {connection : AgentGatewayConnection} {pending other : PendingCall}
  {requestId otherId : Uuid} {route : EndpointRoute} {requestId : Uuid}

namespace RelayHub

variable {careful takes : Prop} {queueCapacity : ℕ} {state next : RelayHub} {calls others : List RelayCall}

theorem invoke_eq
    (found : state.inner.connections.lookup route.gatewayId = some connection) (requestId : Uuid) (input : Value)
    (timeoutMs : ℕ) : state.invoke route requestId input timeoutMs =
      { state with
        inner := { state.inner.takeChannelId.2 with
          pending := state.inner.pending.insert requestId
            { connectionId := connection.connectionId, channelId := state.inner.takeChannelId.1,
              sender := state.calls.length, activity := 0 } }
        calls := state.calls ++
          [{ route, requestId, input, timeoutMs, connection, channelId := state.inner.takeChannelId.1, response := none,
             phase := .sending }] } := by
  simp only [invoke, RelayState.openCall, found, Option.map_some]
  rfl

theorem Move.kept (move : Move careful takes queueCapacity state next) :
    (∃ route requestId input timeoutMs connection,
      state.inner.connections.lookup route.gatewayId = some connection ∧
      (careful → requestId ∉ state.calls.map RelayCall.requestId) ∧
      (careful → ∀ requestId pending, state.inner.pending.lookup requestId = some pending →
        state.calls.length < pending.sender + u64Max) ∧
      next = state.invoke route requestId input timeoutMs) ∨
    (next.inner.nextChannelId = state.inner.nextChannelId ∧
      next.calls.map RelayCall.ids = state.calls.map RelayCall.ids ∧ state.inner.Shrinks next.inner) := by
  cases move with
  | invoke route requestId input timeoutMs connection found fresh recent =>
    exact .inl ⟨route, requestId, input, timeoutMs, connection, found, fresh, recent, rfl⟩
  | register gatewayId connectionId sessionId feedback activity => exact .inr ⟨rfl, rfl, .of_same rfl⟩
  | unregister gatewayId connectionId =>
    exact .inr ⟨rfl, rfl, RelayState.unregister_shrinks gatewayId connectionId⟩
  | notices | channel | refused | discard | lost => exact .inr ⟨rfl, rfl, .of_same rfl⟩
  | leak index call stored => exact .inr ⟨rfl, map_set_same stored rfl, .of_same rfl⟩
  | sent index call channel stored => exact .inr ⟨rfl, map_set_same stored rfl, .of_same rfl⟩
  | turn index call phase stored => exact .inr ⟨rfl, map_set_same stored rfl, .of_same rfl⟩
  | answered index call result stored => exact .inr ⟨rfl, map_set_same stored rfl, .of_same rfl⟩
  | unanswered index call stored => exact .inr ⟨rfl, map_set_same stored rfl, .of_same rfl⟩
  | removeRefused index call error stored =>
    exact .inr ⟨rfl, map_set_same stored rfl, RelayState.removePending_shrinks call.requestId⟩
  | remove index call phase stored =>
    exact .inr ⟨rfl, map_set_same stored rfl, RelayState.removePending_shrinks call.requestId⟩
  | cancel index reserved call channel error stored => exact .inr ⟨rfl, map_set_same stored rfl, .of_same rfl⟩
  | dropCancel index reserved call channel stored => exact .inr ⟨rfl, map_set_same stored rfl, .of_same rfl⟩
  | complete connectionId requestId channelId result =>
    exact .inr ⟨RelayState.complete_nextChannelId .., rfl, RelayState.complete_shrinks connectionId requestId channelId⟩
  | deliver index delivery call stored found => exact .inr ⟨rfl, map_set_same found rfl, .of_same rfl⟩
  | activity connectionId requestId channelId =>
    exact .inr ⟨RelayState.activity_nextChannelId .., rfl, RelayState.activity_shrinks connectionId requestId channelId⟩

structure Numbered (state : RelayHub) : Prop where
  next : state.inner.nextChannelId = state.calls.length % u64Max + 1
  channelIds : ∀ (index : ℕ) (call : RelayCall), state.calls[index]? = some call → call.channelId = index % u64Max + 1
  requests : (state.calls.map RelayCall.requestId).Nodup
  recent : ∀ requestId pending, state.inner.pending.lookup requestId = some pending →
    pending.sender < state.calls.length ∧ state.calls.length ≤ pending.sender + u64Max

theorem requests_eq (same : others.map RelayCall.ids = calls.map RelayCall.ids) :
    others.map RelayCall.requestId = calls.map RelayCall.requestId := by
  have parts := congrArg (List.map Prod.fst) same
  simpa [Function.comp_def, RelayCall.ids] using parts

variable {index : ℕ}

theorem ids_eq (same : others.map RelayCall.ids = calls.map RelayCall.ids)
    (found : others[index]? = some call) :
    ∃ earlier, calls[index]? = some earlier ∧ call.ids = earlier.ids := by
  have atIndex := congrArg (fun ids => ids[index]?) same
  simp only [List.getElem?_map, found, Option.map_some] at atIndex
  obtain ⟨earlier, stored, isSame⟩ := Option.map_eq_some_iff.mp atIndex.symm
  exact ⟨earlier, stored, isSame.symm⟩

theorem Numbered.move (numbered : state.Numbered) (move : Move True takes queueCapacity state next) : next.Numbered := by
  obtain ⟨route, requestId, input, timeoutMs, connection, found, fresh, recent, rfl⟩ | ⟨counter, ids, shrinks⟩ := move.kept
  · replace fresh := fresh trivial
    replace recent := recent trivial
    rw [invoke_eq found, RelayState.takeChannelId_eq numbered.next]
    refine ⟨by simp, ?_, ?_, ?_⟩
    · intro index call stored
      obtain earlier | ⟨rfl, rfl⟩ := getElem?_append_cases stored
      · exact numbered.channelIds index call earlier
      · rfl
    · simp only [List.map_append, List.map_cons, List.map_nil]
      rw [List.nodup_append]
      refine ⟨numbered.requests, List.nodup_singleton _, ?_⟩
      intro earlier mem other isOther
      rw [List.mem_singleton] at isOther
      rw [isOther]
      exact fun same => fresh (same ▸ mem)
    · intro otherId pending stored
      simp only [lookup_insert] at stored
      simp only [List.length_append, List.length_singleton]
      split at stored
      next =>
        cases stored
        have positive : 0 < u64Max := by decide
        dsimp only
        omega
      next =>
        have before := numbered.recent otherId pending stored
        have room := recent otherId pending stored
        omega
  · have length : next.calls.length = state.calls.length := by simpa using congrArg List.length ids
    refine ⟨by rw [counter, length, numbered.next], ?_, by rw [requests_eq ids]; exact numbered.requests, ?_⟩
    · intro index call stored
      obtain ⟨earlier, isEarlier, same⟩ := ids_eq ids stored
      have channel : call.channelId = earlier.channelId := congrArg (fun ids => ids.2.1) same
      rw [channel]
      exact numbered.channelIds index earlier isEarlier
    · intro requestId pending stored
      obtain ⟨earlier, isEarlier, sender, -⟩ := shrinks requestId pending stored
      rw [length, sender]
      exact numbered.recent requestId earlier isEarlier

theorem numbered_new : new.Numbered := by
  refine ⟨rfl, ?_, List.nodup_nil, ?_⟩
  · intro index call stored
    cases stored
  · intro requestId pending stored
    cases stored

theorem Numbered.unique (numbered : state.Numbered) {index other : ℕ} {call another : RelayCall}
    (stored : state.calls[index]? = some call) (found : state.calls[other]? = some another)
    (same : call.requestId = another.requestId) : index = other := by
  have inside : index < (state.calls.map RelayCall.requestId).length := by
    rw [List.length_map]
    exact (List.getElem?_eq_some_iff.mp stored).1
  apply (List.getElem?_inj inside numbered.requests).mp
  simp [stored, found, same]

theorem Numbered.sender_eq (numbered : state.Numbered)
    (found : state.inner.pending.lookup requestId = some pending)
    (isOther : state.inner.pending.lookup otherId = some other)
    (same : pending.sender % u64Max = other.sender % u64Max) : pending.sender = other.sender := by
  have first := numbered.recent requestId pending found
  have second := numbered.recent otherId other isOther
  have near : ∀ {least most : ℕ}, most % u64Max = least % u64Max → most - least < u64Max → most - least = 0 := by
    intro least most isSame close
    rw [← Nat.mod_eq_of_lt close]
    exact Nat.sub_mod_eq_zero_of_mod_eq isSame
  have up := near same.symm (by omega)
  have down := near same (by omega)
  omega

end RelayHub

/-! ## Connections and their channels -/

def CommandChannel.ids (channel : CommandChannel) : String × Uuid := (channel.gatewayId, channel.connectionId)

theorem CommandChannel.Moves.ids {takes : Prop} {channel after : CommandChannel} (moves : channel.Moves takes after) : after.ids = channel.ids := by
  cases moves <;> rfl

@[simp] theorem CommandChannel.queueInvocationCancel_ids (capacity reserved : ℕ) (channel : CommandChannel)
    (requestId : Uuid) (channelId : ℕ) :
    (channel.queueInvocationCancel capacity reserved requestId channelId).ids = channel.ids := by
  rw [CommandChannel.queueInvocationCancel]
  split
  next sent sends =>
    rw [(CommandChannel.trySend_ok.mp sends).2]
    rfl
  · rfl
  · rfl

namespace RelayHub

variable {careful takes : Prop} {queueCapacity : ℕ} {state next : RelayHub}

/-- Whether an event tells that a connection was unregistered is all that the connections depend on. -/
def Unregisters (state next : RelayHub) : Prop :=
  ∀ connectionId, .unregistered connectionId ∈ next.history → .unregistered connectionId ∈ state.history

theorem unregisters_append {events : List HubEvent} (others : ∀ connectionId, .unregistered connectionId ∉ events)
    (connectionId : Uuid) (mem : .unregistered connectionId ∈ state.history ++ events) :
    .unregistered connectionId ∈ state.history := by
  cases List.mem_append.mp mem with
  | inl earlier => exact earlier
  | inr now => exact absurd now (others connectionId)

theorem Move.frame (move : Move careful takes queueCapacity state next) :
    (∃ gatewayId connectionId sessionId feedback activity,
      connectionId ∉ state.channels.map CommandChannel.connectionId ∧
      next = state.register gatewayId connectionId sessionId feedback activity) ∨
    (∃ gatewayId channel, channel ∈ state.channels ∧ channel.gatewayId = gatewayId ∧
      next = state.unregister gatewayId channel.connectionId) ∨
    (next.inner.connections = state.inner.connections ∧
      next.channels.map CommandChannel.ids = state.channels.map CommandChannel.ids ∧ state.Unregisters next) := by
  cases move with
  | register gatewayId connectionId sessionId feedback activity fresh =>
    exact .inl ⟨gatewayId, connectionId, sessionId, feedback, activity, fresh, rfl⟩
  | unregister gatewayId connectionId channel mem connection gateway =>
    subst connection
    exact .inr (.inl ⟨gatewayId, channel, mem, gateway, rfl⟩)
  | invoke route requestId input timeoutMs connection found =>
    rw [invoke_eq found]
    exact .inr (.inr ⟨rfl, rfl, fun _ => id⟩)
  | channel index before after notices stored moves =>
    exact .inr (.inr ⟨rfl, map_set_same stored moves.ids, fun _ => id⟩)
  | sent index call channel stored found => exact .inr (.inr ⟨rfl, map_set_same found rfl, fun _ => id⟩)
  | refused | answered | unanswered | removeRefused =>
    exact .inr (.inr ⟨rfl, rfl, unregisters_append (by simp)⟩)
  | cancel index reserved call channel error stored found =>
    exact .inr (.inr ⟨rfl, map_set_same found (by simp), unregisters_append (by simp)⟩)
  | dropCancel index reserved call channel stored found =>
    exact .inr (.inr ⟨rfl, map_set_same found (by simp), fun _ => id⟩)
  | complete connectionId requestId channelId result =>
    refine .inr (.inr ⟨?_, rfl, unregisters_append (by simp)⟩)
    show (state.inner.complete connectionId requestId channelId).1.connections = _
    cases state.inner.complete_cases connectionId requestId channelId with
    | inl same => rw [same]
    | inr taken =>
      obtain ⟨pending, -, -, -, same⟩ := taken
      rw [same]
      rfl
  | activity connectionId requestId channelId =>
    refine .inr (.inr ⟨?_, rfl, fun _ => id⟩)
    show (state.inner.recordInvocationActivity connectionId requestId channelId).1.connections = _
    rw [RelayState.recordInvocationActivity]
    split
    · rfl
    · split <;> rfl
  | lost index place channel stored => exact .inr (.inr ⟨rfl, map_set_same stored rfl, fun _ => id⟩)
  | notices | turn | remove | deliver | discard | leak => exact .inr (.inr ⟨rfl, rfl, fun _ => id⟩)

/-- Every connection has the channel its sender leads to, and is not unregistered while it is in use. -/
structure Registered (state : RelayHub) : Prop where
  connections : ∀ gatewayId connection, state.inner.connections.lookup gatewayId = some connection →
    .unregistered connection.connectionId ∉ state.history ∧
      (state.channels.map CommandChannel.ids)[connection.sender]? = some (gatewayId, connection.connectionId)
  calls : ∀ (index : ℕ) (call : RelayCall), state.calls[index]? = some call →
    ∃ gatewayId, (state.channels.map CommandChannel.ids)[call.connection.sender]? = some (gatewayId, call.connection.connectionId)
  pending : ∀ requestId pending, state.inner.pending.lookup requestId = some pending →
    .unregistered pending.connectionId ∉ state.history ∧
      ∃ call, state.calls[pending.sender]? = some call ∧ call.connection.connectionId = pending.connectionId
  closed : ∀ connectionId, .unregistered connectionId ∈ state.history →
    ∃ gatewayId, (gatewayId, connectionId) ∈ state.channels.map CommandChannel.ids
  distinct : (state.channels.map CommandChannel.connectionId).Nodup

theorem connectionIds_eq (channels : List CommandChannel) :
    channels.map CommandChannel.connectionId = (channels.map CommandChannel.ids).map Prod.snd := by
  simp [Function.comp_def, CommandChannel.ids]

theorem Registered.move (registered : state.Registered) (move : Move careful takes queueCapacity state next) : next.Registered := by
  obtain ⟨gatewayId, connectionId, sessionId, feedback, activity, fresh, rfl⟩ |
    ⟨gatewayId, channel, mem, rfl, rfl⟩ | ⟨connections, channels, history⟩ := move.frame
  · have grows : ∀ (place : ℕ) (ids : String × Uuid), (state.channels.map CommandChannel.ids)[place]? = some ids →
        ((state.channels ++ [CommandChannel.new gatewayId connectionId]).map CommandChannel.ids)[place]? = some ids := by
      intro place ids found
      rw [List.map_append, List.getElem?_append_left (List.getElem?_eq_some_iff.mp found).1]
      exact found
    refine ⟨?_, ?_, registered.pending, ?_, ?_⟩
    · intro otherGateway connection found
      simp only [register, RelayState.register, lookup_insert] at found
      split at found
      next same =>
        cases found
        subst same
        constructor
        · intro closed
          obtain ⟨otherGateway, known⟩ := registered.closed connectionId closed
          apply fresh
          rw [connectionIds_eq]
          exact List.mem_map_of_mem known
        · simp [register, CommandChannel.ids, CommandChannel.new]
      next =>
        obtain ⟨isOpen, stored⟩ := registered.connections otherGateway connection found
        exact ⟨isOpen, grows _ _ stored⟩
    · intro index call stored
      obtain ⟨otherGateway, known⟩ := registered.calls index call stored
      exact ⟨otherGateway, grows _ _ known⟩
    · intro otherId closed
      obtain ⟨otherGateway, known⟩ := registered.closed otherId closed
      refine ⟨otherGateway, ?_⟩
      simp only [register, List.map_append]
      exact List.mem_append_left _ known
    · simp only [register, List.map_append, List.map_cons, List.map_nil]
      rw [List.nodup_append]
      refine ⟨registered.distinct, List.nodup_singleton _, ?_⟩
      intro earlier isEarlier other isOther same
      rw [List.mem_singleton] at isOther
      exact fresh (by simpa [same, isOther, CommandChannel.new] using isEarlier)
  · have inChannels : (channel.gatewayId, channel.connectionId) ∈ state.channels.map CommandChannel.ids :=
      List.mem_map_of_mem (f := CommandChannel.ids) mem
    refine ⟨?_, registered.calls, ?_, ?_, registered.distinct⟩
    · intro otherGateway connection found
      obtain ⟨stored, apart⟩ := RelayState.unregister_connections found
      obtain ⟨isOpen, isChannel⟩ := registered.connections otherGateway connection stored
      refine ⟨?_, isChannel⟩
      intro closed
      cases List.mem_append.mp closed with
      | inl earlier => exact isOpen earlier
      | inr now =>
        rw [List.mem_singleton, HubEvent.unregistered.injEq] at now
        -- no two channels have one connection id
        have distinct := registered.distinct
        rw [connectionIds_eq] at distinct
        have same := List.inj_on_of_nodup_map distinct (List.mem_of_getElem? isChannel) inChannels now
        exact apart (congrArg Prod.fst same) now
    · intro requestId pending found
      obtain ⟨stored, different⟩ := RelayState.unregister_lookup.mp found
      refine ⟨?_, (registered.pending requestId pending stored).2⟩
      intro closed
      cases List.mem_append.mp closed with
      | inl earlier => exact (registered.pending requestId pending stored).1 earlier
      | inr now =>
        rw [List.mem_singleton, HubEvent.unregistered.injEq] at now
        exact different now
    · intro connectionId closed
      cases List.mem_append.mp closed with
      | inl earlier => exact registered.closed connectionId earlier
      | inr now =>
        rw [List.mem_singleton, HubEvent.unregistered.injEq] at now
        rw [now]
        exact ⟨channel.gatewayId, inChannels⟩
  · refine ⟨?_, ?_, ?_, ?_, ?_⟩
    · intro gatewayId connection found
      rw [connections] at found
      rw [channels]
      obtain ⟨isOpen, stored⟩ := registered.connections gatewayId connection found
      exact ⟨fun closed => isOpen (history _ closed), stored⟩
    · intro index call stored
      rw [channels]
      obtain ⟨route, requestId, input, timeoutMs, connection, found, -, -, rfl⟩ | ⟨-, ids, -⟩ := move.kept
      · rw [invoke_eq found] at stored
        obtain earlier | ⟨-, rfl⟩ := getElem?_append_cases stored
        · exact registered.calls index call earlier
        · exact ⟨route.gatewayId, (registered.connections route.gatewayId connection found).2⟩
      · obtain ⟨earlier, isEarlier, same⟩ := ids_eq ids stored
        have connection : call.connection = earlier.connection := congrArg (fun ids => ids.2.2) same
        rw [connection]
        exact registered.calls index earlier isEarlier
    · intro requestId pending found
      obtain ⟨route, freshId, input, timeoutMs, connection, isConnection, -, -, rfl⟩ | ⟨-, ids, shrinks⟩ := move.kept
      · rw [invoke_eq isConnection] at found ⊢
        simp only [lookup_insert] at found
        split at found
        next =>
          cases found
          exact ⟨fun closed => (registered.connections route.gatewayId connection isConnection).1 closed, _,
            List.getElem?_concat_length, rfl⟩
        next =>
          obtain ⟨isOpen, call, stored, same⟩ := registered.pending requestId pending found
          refine ⟨isOpen, call, ?_, same⟩
          exact (List.getElem?_append_left (List.getElem?_eq_some_iff.mp stored).1).trans stored
      · obtain ⟨earlier, isEarlier, sender, same, -⟩ := shrinks requestId pending found
        obtain ⟨isOpen, call, stored, isConnection⟩ := registered.pending requestId earlier isEarlier
        rw [same, sender]
        refine ⟨fun closed => isOpen (history _ closed), ?_⟩
        obtain ⟨later, isLater, kept⟩ := ids_eq ids.symm stored
        have connection : call.connection = later.connection := congrArg (fun ids => ids.2.2) kept
        exact ⟨later, isLater, connection ▸ isConnection⟩
    · intro connectionId closed
      rw [channels]
      exact registered.closed connectionId (history connectionId closed)
    · rw [connectionIds_eq, channels, ← connectionIds_eq]
      exact registered.distinct

theorem registered_new : new.Registered := by
  refine ⟨?_, ?_, ?_, ?_, List.nodup_nil⟩
  · intro gatewayId connection found
    cases found
  · intro index call stored
    cases stored
  · intro requestId pending found
    cases found
  · intro connectionId closed
    cases closed

theorem Registered.step {action : HubAction} (registered : state.Registered)
    (stepped : state.step queueCapacity action = some next) : next.Registered := by
  have move : Move False True queueCapacity state next := move_of_step False.elim (fun _ => trivial) stepped
  exact registered.move move

end RelayHub

/-! ## Entries, responses and the callers they are for -/

/-- Whether the entry of the call is made and the task that is to take it back has yet to do so. -/
def RelayCall.unsettled (call : RelayCall) : Bool :=
  match call.phase with
  | .sending | .refusing _ | .aborting _ | .dropping => true
  | .waiting | .cancelling _ | .dropCancelling | .dropCancelled | .returned _ | .gone => false

/-- An entry of the map is for the call that its sender leads to. -/
structure PendingCall.IsFor (pending : PendingCall) (requestId : Uuid) (call : RelayCall) : Prop where
  request : call.requestId = requestId
  connection : call.connection.connectionId = pending.connectionId
  channel : call.channelId = pending.channelId

/-- A response is a reply to the call, or says that the gateway is unavailable. -/
def RelayCall.Warranted (call : RelayCall) (history : List HubEvent) (result : Except RelayCallError Value) : Prop :=
  (∃ reply, result = replyResult reply ∧
    .completed call.connection.connectionId call.requestId call.channelId reply ∈ history) ∨
  result = .error .agentGatewayUnavailable

def RelayCall.Holds (call : RelayCall) : Prop := call.phase = .waiting ∨ call.unsettled = true

def RelayCall.Relies (call : RelayCall) : Prop := call.phase = .sending ∨ call.phase = .waiting

theorem RelayCall.Warranted.mono {call other : RelayCall} {history later : List HubEvent}
    {result : Except RelayCallError Value} (warranted : call.Warranted history result) (ids : other.ids = call.ids)
    (grows : ∀ event ∈ history, event ∈ later) : other.Warranted later result := by
  simp only [RelayCall.ids, Prod.mk.injEq] at ids
  obtain ⟨requestId, channelId, connection⟩ := ids
  cases warranted with
  | inl replied =>
    obtain ⟨reply, isReply, completed⟩ := replied
    rw [← requestId, ← channelId, ← connection] at completed
    exact .inl ⟨reply, isReply, grows _ completed⟩
  | inr unavailable => exact .inr unavailable

theorem PendingCall.IsFor.of_ids {pending : PendingCall} {call other : RelayCall}
    (isFor : pending.IsFor requestId call) (ids : other.ids = call.ids) : pending.IsFor requestId other := by
  simp only [RelayCall.ids, Prod.mk.injEq] at ids
  refine ⟨ids.1.trans isFor.request, ?_, ids.2.1.trans isFor.channel⟩
  rw [ids.2.2]
  exact isFor.connection

namespace RelayHub

variable {careful takes : Prop} {queueCapacity : ℕ} {state next : RelayHub} {before phase : CallPhase}

/-- Each entry, each response under way and each response that has arrived is for one call, and a caller that
relies on a response has one of them. -/
structure Entered (state : RelayHub) : Prop where
  entry : ∀ requestId pending, state.inner.pending.lookup requestId = some pending →
    ∃ call, state.calls[pending.sender]? = some call ∧ pending.IsFor requestId call ∧ call.response = none ∧ call.Holds ∧
      ∀ delivery ∈ state.deliveries, delivery.sender ≠ pending.sender
  waiting : ∀ (index : ℕ) (call : RelayCall), state.calls[index]? = some call → call.Relies → call.response = none →
    (∀ delivery ∈ state.deliveries, delivery.sender ≠ index) →
    ∃ pending, state.inner.pending.lookup call.requestId = some pending ∧ pending.sender = index
  delivery : ∀ delivery ∈ state.deliveries, ∃ call, state.calls[delivery.sender]? = some call ∧ call.response = none ∧
    call.Warranted state.history delivery.result
  single : (state.deliveries.map Delivery.sender).Nodup
  response : ∀ (index : ℕ) (call : RelayCall) result, state.calls[index]? = some call → call.response = some result →
    call.Warranted state.history result

section

variable (entered : state.Entered) {delivery : Delivery} {call changed : RelayCall}
include entered

theorem Entered.of_same (calls : next.calls = state.calls)
    (deliveries : next.deliveries = state.deliveries) (history : ∀ event ∈ state.history, event ∈ next.history)
    (shrinks : state.inner.Shrinks next.inner)
    (kept : ∀ requestId pending, state.inner.pending.lookup requestId = some pending →
      ∃ later, next.inner.pending.lookup requestId = some later ∧ later.sender = pending.sender) : next.Entered := by
  refine ⟨?_, ?_, ?_, by rw [deliveries]; exact entered.single, ?_⟩
  · intro requestId pending found
    obtain ⟨earlier, isEarlier, sender, connection, channel⟩ := shrinks requestId pending found
    obtain ⟨call, stored, isFor, unanswered, holds, apart⟩ := entered.entry requestId earlier isEarlier
    rw [calls, deliveries, sender]
    exact ⟨call, stored, ⟨isFor.request, isFor.connection.trans connection.symm, isFor.channel.trans channel.symm⟩,
      unanswered, holds, apart⟩
  · intro index call stored relies unanswered apart
    rw [calls] at stored
    rw [deliveries] at apart
    obtain ⟨pending, found, same⟩ := entered.waiting index call stored relies unanswered apart
    obtain ⟨later, isLater, sender⟩ := kept call.requestId pending found
    exact ⟨later, isLater, sender.trans same⟩
  · intro delivery mem
    rw [deliveries] at mem
    obtain ⟨call, stored, unanswered, warranted⟩ := entered.delivery delivery mem
    rw [calls]
    exact ⟨call, stored, unanswered, warranted.mono rfl history⟩
  · intro index call result stored response
    rw [calls] at stored
    exact (entered.response index call result stored response).mono rfl history

theorem Entered.set
    (stored : state.calls[index]? = some call) (calls : next.calls = state.calls.set index changed) (ids : changed.ids = call.ids)
    (response : changed.response = call.response) (deliveries : next.deliveries = state.deliveries)
    (history : ∀ event ∈ state.history, event ∈ next.history)
    (shrinks : ∀ requestId pending, next.inner.pending.lookup requestId = some pending →
      state.inner.pending.lookup requestId = some pending ∧ (pending.sender = index → changed.Holds))
    (kept : ∀ requestId pending, state.inner.pending.lookup requestId = some pending →
      pending.sender ≠ index ∨ changed.Relies → next.inner.pending.lookup requestId = some pending)
    (still : changed.Relies → call.Relies) : next.Entered := by
  have inside := (List.getElem?_eq_some_iff.mp stored).1
  have atIndex : next.calls[index]? = some changed := by
    rw [calls]
    exact List.getElem?_set_self inside
  have elsewhere : ∀ other, other ≠ index → next.calls[other]? = state.calls[other]? := by
    intro other different
    rw [calls]
    exact List.getElem?_set_ne (Ne.symm different)
  have requestId : changed.requestId = call.requestId := congrArg Prod.fst ids
  refine ⟨?_, ?_, ?_, by rw [deliveries]; exact entered.single, ?_⟩
  · intro requestId pending found
    obtain ⟨earlier, holdsHere⟩ := shrinks requestId pending found
    obtain ⟨other, isOther, isFor, unanswered, holds, apart⟩ := entered.entry requestId pending earlier
    rw [deliveries]
    by_cases same : pending.sender = index
    · rw [same, stored, Option.some.injEq] at isOther
      subst isOther
      rw [same]
      exact ⟨changed, atIndex, isFor.of_ids ids, response.trans unanswered, holdsHere same, same ▸ apart⟩
    · exact ⟨other, (elsewhere _ same).trans isOther, isFor, unanswered, holds, apart⟩
  · intro other another found relies unanswered apart
    rw [deliveries] at apart
    by_cases same : other = index
    · subst same
      rw [atIndex, Option.some.injEq] at found
      subst found
      obtain ⟨pending, isPending, sender⟩ :=
        entered.waiting other call stored (still relies) (response.symm.trans unanswered) apart
      rw [requestId]
      exact ⟨pending, kept _ _ isPending (.inr relies), sender⟩
    · rw [elsewhere other same] at found
      obtain ⟨pending, isPending, sender⟩ := entered.waiting other another found relies unanswered apart
      exact ⟨pending, kept _ _ isPending (.inl (sender ▸ same)), sender⟩
  · intro delivery mem
    rw [deliveries] at mem
    obtain ⟨other, isOther, unanswered, warranted⟩ := entered.delivery delivery mem
    by_cases same : delivery.sender = index
    · rw [same, stored, Option.some.injEq] at isOther
      subst isOther
      rw [same]
      exact ⟨changed, atIndex, response.trans unanswered, warranted.mono ids history⟩
    · exact ⟨other, (elsewhere _ same).trans isOther, unanswered, warranted.mono rfl history⟩
  · intro other another result found isResponse
    by_cases same : other = index
    · subst same
      rw [atIndex, Option.some.injEq] at found
      subst found
      exact (entered.response other call result stored (response ▸ isResponse)).mono ids history
    · rw [elsewhere other same] at found
      exact (entered.response other another result found isResponse).mono rfl history

theorem Entered.sole (found : state.inner.pending.lookup requestId = some pending)
    (isOther : state.inner.pending.lookup otherId = some other) (same : pending.sender = other.sender) :
    requestId = otherId ∧ pending.connectionId = other.connectionId := by
  obtain ⟨call, stored, isFor, -⟩ := entered.entry requestId pending found
  obtain ⟨another, isAnother, isForOther, -⟩ := entered.entry otherId other isOther
  rw [same, isAnother, Option.some.injEq] at stored
  subst stored
  exact ⟨isFor.request.symm.trans isForOther.request, isFor.connection.symm.trans isForOther.connection⟩

theorem Entered.unregister (gatewayId : String) (connectionId : Uuid) :
    (state.unregister gatewayId connectionId).Entered := by
  have history : ∀ event ∈ state.history, event ∈ (state.unregister gatewayId connectionId).history :=
    fun _ mem => List.mem_append_left _ mem
  have failed : ∀ delivery ∈ (state.unregister gatewayId connectionId).deliveries, delivery ∈ state.deliveries ∨
      ∃ requestId pending, state.inner.pending.lookup requestId = some pending ∧ pending.connectionId = connectionId ∧
        delivery = { sender := pending.sender, result := .error .agentGatewayUnavailable } := by
    intro delivery mem
    cases List.mem_append.mp mem with
    | inl earlier => exact .inl earlier
    | inr now =>
      obtain ⟨pending, isRemoved, rfl⟩ := List.mem_map.mp now
      obtain ⟨same, requestId, found⟩ := (RelayState.mem_unregister gatewayId).mp isRemoved
      exact .inr ⟨requestId, pending, found, same, rfl⟩
  refine ⟨?_, ?_, ?_, ?_, ?_⟩
  · intro requestId pending found
    obtain ⟨stored, different⟩ := RelayState.unregister_lookup.mp found
    obtain ⟨call, isCall, isFor, unanswered, holds, apart⟩ := entered.entry requestId pending stored
    refine ⟨call, isCall, isFor, unanswered, holds, ?_⟩
    intro delivery mem
    obtain earlier | ⟨otherId, other, isOther, same, rfl⟩ := failed delivery mem
    · exact apart delivery earlier
    · intro isSame
      exact different ((entered.sole isOther stored isSame).2.symm.trans same)
  · intro index call stored relies unanswered apart
    have before : ∀ delivery ∈ state.deliveries, delivery.sender ≠ index :=
      fun delivery mem => apart delivery (List.mem_append_left _ mem)
    obtain ⟨pending, found, sender⟩ := entered.waiting index call stored relies unanswered before
    refine ⟨pending, RelayState.unregister_lookup.mpr ⟨found, ?_⟩, sender⟩
    intro same
    apply apart { sender := pending.sender, result := .error .agentGatewayUnavailable } _ sender
    have isRemoved : pending ∈ (state.inner.unregister gatewayId connectionId).2.2 :=
      (RelayState.mem_unregister gatewayId).mpr ⟨same, call.requestId, found⟩
    exact List.mem_append_right _ (List.mem_map.mpr ⟨pending, isRemoved, rfl⟩)
  · intro delivery mem
    obtain earlier | ⟨requestId, pending, found, -, rfl⟩ := failed delivery mem
    · obtain ⟨call, stored, unanswered, warranted⟩ := entered.delivery delivery earlier
      exact ⟨call, stored, unanswered, warranted.mono rfl history⟩
    · obtain ⟨call, stored, -, unanswered, -⟩ := entered.entry requestId pending found
      exact ⟨call, stored, unanswered, .inr rfl⟩
  · have distinct : (state.inner.pending.entries.map fun entry => entry.2.sender).Nodup := by
      refine List.Nodup.map_on ?_ state.inner.pending.nodupKeys.nodup
      rintro ⟨requestId, pending⟩ mem ⟨otherId, other⟩ isOther same
      have found := AList.mem_lookup_iff.mpr mem
      have isFound := AList.mem_lookup_iff.mpr isOther
      have sameId := (entered.sole found isFound same).1
      subst sameId
      rw [found, Option.mem_some_iff] at isFound
      rw [isFound]
    have removed : ((state.inner.unregister gatewayId connectionId).2.2.map PendingCall.sender).Nodup := by
      have part : ((state.inner.unregister gatewayId connectionId).2.2.map PendingCall.sender).Sublist
          ((state.inner.pending.entries.map fun entry => entry.2).map PendingCall.sender) :=
        List.filter_sublist.map _
      rw [List.map_map] at part
      exact part.nodup distinct
    simp only [RelayHub.unregister, List.map_append, List.map_map, Function.comp_def]
    rw [List.nodup_append]
    refine ⟨entered.single, removed, ?_⟩
    intro sender isEarlier other isNow same
    obtain ⟨delivery, mem, rfl⟩ := List.mem_map.mp isEarlier
    obtain ⟨pending, isRemoved, rfl⟩ := List.mem_map.mp isNow
    obtain ⟨-, requestId, found⟩ := (RelayState.mem_unregister gatewayId).mp isRemoved
    obtain ⟨-, -, -, -, -, apart⟩ := entered.entry requestId pending found
    exact apart delivery mem same
  · intro index call result stored response
    exact (entered.response index call result stored response).mono rfl history

theorem Entered.invoke (found : state.inner.connections.lookup route.gatewayId = some connection)
    (fresh : requestId ∉ state.calls.map RelayCall.requestId) (input : Value) (timeoutMs : ℕ) :
    (state.invoke route requestId input timeoutMs).Entered := by
  rw [invoke_eq found]
  have grows : ∀ {index : ℕ} {call : RelayCall} (fresh : RelayCall), state.calls[index]? = some call →
      (state.calls ++ [fresh])[index]? = some call := by
    intro index call fresh stored
    rw [List.getElem?_append_left (List.getElem?_eq_some_iff.mp stored).1]
    exact stored
  have older : ∀ delivery ∈ state.deliveries, delivery.sender ≠ state.calls.length := by
    intro delivery mem
    obtain ⟨call, stored, -⟩ := entered.delivery delivery mem
    exact (List.getElem?_eq_some_iff.mp stored).1.ne
  refine ⟨?_, ?_, ?_, entered.single, ?_⟩
  · intro otherId pending isPending
    simp only [lookup_insert] at isPending
    split at isPending
    next same =>
      cases isPending
      subst same
      exact ⟨_, List.getElem?_concat_length, ⟨rfl, rfl, rfl⟩, rfl, .inr rfl, older⟩
    next =>
      obtain ⟨call, stored, others⟩ := entered.entry otherId pending isPending
      exact ⟨call, grows _ stored, others⟩
  · intro index call stored relies unanswered apart
    simp only [lookup_insert]
    obtain earlier | ⟨rfl, rfl⟩ := getElem?_append_cases stored
    · obtain ⟨pending, isPending, sender⟩ := entered.waiting index call earlier relies unanswered apart
      have different : call.requestId ≠ requestId :=
        fun same => fresh (same ▸ List.mem_map_of_mem (List.mem_of_getElem? earlier))
      rw [if_neg different]
      exact ⟨pending, isPending, sender⟩
    · rw [if_pos rfl]
      exact ⟨_, rfl, rfl⟩
  · intro delivery mem
    obtain ⟨call, stored, unanswered, warranted⟩ := entered.delivery delivery mem
    exact ⟨call, grows _ stored, unanswered, warranted⟩
  · intro index call result stored response
    obtain earlier | ⟨rfl, rfl⟩ := getElem?_append_cases stored
    · exact entered.response index call result earlier response
    · cases response

theorem Entered.complete (connectionId requestId : Uuid) (channelId : ℕ)
    (result : Except String Value) : (state.complete connectionId requestId channelId result).Entered := by
  have history : ∀ event ∈ state.history, event ∈ (state.complete connectionId requestId channelId result).history :=
    fun _ mem => List.mem_append_left _ mem
  have completed : .completed connectionId requestId channelId result ∈
      (state.complete connectionId requestId channelId result).history := List.mem_append_right _ (by simp)
  obtain same | ⟨pending, isPending, connection, channel, same⟩ :=
    state.inner.complete_cases connectionId requestId channelId
  · refine entered.of_same rfl ?_ history (RelayState.complete_shrinks connectionId requestId channelId) ?_
    · simp [RelayHub.complete, same]
    · intro otherId other found
      exact ⟨other, by simpa [RelayHub.complete, same] using found, rfl⟩
  · have inner : (state.complete connectionId requestId channelId result).inner = state.inner.removePending requestId :=
      congrArg Prod.fst same
    have deliveries : (state.complete connectionId requestId channelId result).deliveries =
        state.deliveries ++ [{ sender := pending.sender, result := replyResult result }] := by
      simp [RelayHub.complete, same]
    obtain ⟨call, stored, isFor, unanswered, -, apart⟩ := entered.entry requestId pending isPending
    refine ⟨?_, ?_, ?_, ?_, ?_⟩
    · intro otherId other found
      rw [inner] at found
      obtain ⟨different, isOther⟩ := RelayState.removePending_lookup.mp found
      obtain ⟨another, isAnother, isForOther, free, holds, apartOther⟩ := entered.entry otherId other isOther
      refine ⟨another, isAnother, isForOther, free, holds, ?_⟩
      rw [deliveries]
      intro delivery mem
      cases List.mem_append.mp mem with
      | inl earlier => exact apartOther delivery earlier
      | inr now =>
        rw [List.mem_singleton] at now
        rw [now]
        exact fun isSame => different (entered.sole isPending isOther isSame).1.symm
    · intro index another isAnother relies free apartOther
      rw [deliveries] at apartOther
      obtain ⟨other, isOther, sender⟩ := entered.waiting index another isAnother relies free
        fun delivery mem => apartOther delivery (List.mem_append_left _ mem)
      refine ⟨other, ?_, sender⟩
      rw [inner, RelayState.removePending_lookup]
      refine ⟨?_, isOther⟩
      intro isSame
      rw [isSame, isPending, Option.some.injEq] at isOther
      apply apartOther { sender := pending.sender, result := replyResult result } (by simp)
      rw [isOther]
      exact sender
    · intro delivery mem
      rw [deliveries] at mem
      cases List.mem_append.mp mem with
      | inl earlier =>
        obtain ⟨another, isAnother, free, warranted⟩ := entered.delivery delivery earlier
        exact ⟨another, isAnother, free, warranted.mono rfl history⟩
      | inr now =>
        rw [List.mem_singleton] at now
        subst now
        refine ⟨call, stored, unanswered, .inl ⟨result, rfl, ?_⟩⟩
        rw [isFor.connection, isFor.request, isFor.channel, connection, channel]
        exact completed
    · rw [deliveries, List.map_append, List.nodup_append]
      refine ⟨entered.single, List.nodup_singleton _, ?_⟩
      intro sender isEarlier other isNow isSame
      obtain ⟨delivery, mem, rfl⟩ := List.mem_map.mp isEarlier
      rw [List.map_singleton, List.mem_singleton] at isNow
      exact apart delivery mem (isSame.trans isNow)
    · intro index another found isAnother response
      exact (entered.response index another found isAnother response).mono rfl history

theorem Entered.others (stored : state.deliveries[index]? = some delivery) :
    (∀ other ∈ state.deliveries.eraseIdx index, other ∈ state.deliveries ∧ other.sender ≠ delivery.sender) ∧
    (∀ other ∈ state.deliveries, other = delivery ∨ other ∈ state.deliveries.eraseIdx index) ∧
    ((state.deliveries.eraseIdx index).map Delivery.sender).Nodup := by
  have isPerm := perm_eraseIdx stored
  have single := (isPerm.map Delivery.sender).nodup_iff.mp entered.single
  rw [List.map_cons, List.nodup_cons] at single
  refine ⟨?_, ?_, single.2⟩
  · intro other mem
    refine ⟨isPerm.mem_iff.mpr (List.mem_cons_of_mem _ mem), ?_⟩
    exact fun same => single.1 (same ▸ List.mem_map_of_mem mem)
  · intro other mem
    exact List.mem_cons.mp (isPerm.mem_iff.mp mem)

theorem Entered.deliver
    (stored : state.deliveries[index]? = some delivery) (found : state.calls[delivery.sender]? = some call) :
    ({ state with deliveries := state.deliveries.eraseIdx index }.setCall delivery.sender
      { call with response := some delivery.result }).Entered := by
  obtain ⟨kept, split, single⟩ := entered.others stored
  have mem := List.mem_of_getElem? stored
  obtain ⟨answered, isAnswered, -, warranted⟩ := entered.delivery delivery mem
  rw [found, Option.some.injEq] at isAnswered
  subst isAnswered
  have elsewhere : ∀ {other : ℕ} (changed : RelayCall), other ≠ delivery.sender →
      (state.calls.set delivery.sender changed)[other]? = state.calls[other]? :=
    fun _ different => List.getElem?_set_ne (Ne.symm different)
  refine ⟨?_, ?_, ?_, single, ?_⟩
  · intro requestId pending isPending
    obtain ⟨another, isAnother, isFor, unanswered, holds, apart⟩ := entered.entry requestId pending isPending
    refine ⟨another, ?_, isFor, unanswered, holds, fun other isOther => apart other (kept other isOther).1⟩
    exact (elsewhere _ (Ne.symm (apart delivery mem))).trans isAnother
  · intro other another isAnother relies unanswered apart
    obtain ⟨rfl, rfl⟩ | ⟨different, isEarlier⟩ := getElem?_set_cases isAnother
    · cases unanswered
    · apply entered.waiting other another isEarlier relies unanswered
      intro earlier isMember
      cases split earlier isMember with
      | inl same =>
        rw [same]
        exact Ne.symm different
      | inr left => exact apart earlier left
  · intro other isOther
    obtain ⟨isMember, different⟩ := kept other isOther
    obtain ⟨another, isAnother, unanswered, isWarranted⟩ := entered.delivery other isMember
    exact ⟨another, (elsewhere _ different).trans isAnother, unanswered, isWarranted⟩
  · intro other another result isAnother response
    obtain ⟨rfl, rfl⟩ | ⟨-, isEarlier⟩ := getElem?_set_cases isAnother
    · cases response
      exact warranted.mono rfl fun _ => id
    · exact entered.response other another result isEarlier response

theorem Entered.discard
    (stored : state.deliveries[index]? = some delivery) (found : state.calls[delivery.sender]? = some call)
    (deaf : call.listens = false) : { state with deliveries := state.deliveries.eraseIdx index }.Entered := by
  obtain ⟨kept, split, single⟩ := entered.others stored
  refine ⟨?_, ?_, fun other isOther => entered.delivery other (kept other isOther).1, single, entered.response⟩
  · intro requestId pending isPending
    obtain ⟨another, isAnother, isFor, unanswered, holds, apart⟩ := entered.entry requestId pending isPending
    exact ⟨another, isAnother, isFor, unanswered, holds, fun other isOther => apart other (kept other isOther).1⟩
  · intro other another isAnother relies unanswered apart
    apply entered.waiting other another isAnother relies unanswered
    intro earlier isMember
    cases split earlier isMember with
    | inl same =>
      rw [same]
      rintro rfl
      rw [found, Option.some.injEq] at isAnother
      subst isAnother
      cases relies with
      | inl sending => simp [RelayCall.listens, sending] at deaf
      | inr waiting => simp [RelayCall.listens, waiting] at deaf
    | inr left => exact apart earlier left

theorem Entered.leave
    (stored : state.calls[index]? = some call) (calls : next.calls = state.calls.set index changed) (ids : changed.ids = call.ids)
    (response : changed.response = call.response) (deliveries : next.deliveries = state.deliveries)
    (history : ∀ event ∈ state.history, event ∈ next.history) (gone : ¬changed.Relies)
    (absent : ∀ requestId pending, state.inner.pending.lookup requestId = some pending → pending.sender ≠ index)
    (same : next.inner = state.inner) : next.Entered := by
  apply entered.set stored calls ids response deliveries history
  · intro requestId pending found
    rw [same] at found
    exact ⟨found, fun isSender => absurd isSender (absent requestId pending found)⟩
  · intro requestId pending found _
    rw [same]
    exact found
  · exact fun relies => absurd relies gone

theorem Entered.remove (numbered : state.Numbered)
    (stored : state.calls[index]? = some call) (calls : next.calls = state.calls.set index changed) (ids : changed.ids = call.ids)
    (response : changed.response = call.response) (deliveries : next.deliveries = state.deliveries)
    (history : ∀ event ∈ state.history, event ∈ next.history) (gone : ¬changed.Relies)
    (same : next.inner = state.inner.removePending call.requestId) : next.Entered := by
  -- the entry under the request id of a call is the entry of that call
  have own : ∀ requestId pending, state.inner.pending.lookup requestId = some pending →
      (pending.sender = index ↔ requestId = call.requestId) := by
    intro requestId pending found
    obtain ⟨other, isOther, isFor, -⟩ := entered.entry requestId pending found
    constructor
    · intro isSender
      rw [isSender, stored, Option.some.injEq] at isOther
      rw [isOther]
      exact isFor.request.symm
    · exact fun isRequest => numbered.unique isOther stored (isFor.request.trans isRequest)
  apply entered.set stored calls ids response deliveries history
  · intro requestId pending found
    rw [same, RelayState.removePending_lookup] at found
    exact ⟨found.2, fun isSender => absurd ((own requestId pending found.2).mp isSender) found.1⟩
  · intro requestId pending found apart
    rw [same, RelayState.removePending_lookup]
    exact ⟨fun isRequest => apart.elim (fun isOther => isOther ((own requestId pending found).mpr isRequest)) gone, found⟩
  · exact fun relies => absurd relies gone

end

theorem Turns.keeps (turns : Turns before phase) (call : RelayCall) :
    RelayCall.unsettled { call with phase } = true ∧ ¬RelayCall.Relies { call with phase } := by
  cases turns <;> simp [RelayCall.unsettled, RelayCall.Relies]

theorem Removes.leaves (removes : Removes before phase) (call : RelayCall) :
    ¬RelayCall.Relies { call with phase } := by
  cases removes <;> simp [RelayCall.Relies]

theorem Entered.move (entered : state.Entered) (numbered : state.Numbered) (move : Move True takes queueCapacity state next) :
    next.Entered := by
  -- the entry of a call tells what the call does
  have entryOf : ∀ {index : ℕ} {call : RelayCall}, state.calls[index]? = some call → ∀ requestId pending,
      state.inner.pending.lookup requestId = some pending → pending.sender = index →
      requestId = call.requestId ∧ call.response = none ∧ call.Holds := by
    intro index call stored requestId pending found sender
    obtain ⟨other, isOther, isFor, unanswered, holds, -⟩ := entered.entry requestId pending found
    rw [sender, stored, Option.some.injEq] at isOther
    subst isOther
    exact ⟨isFor.request.symm, unanswered, holds⟩
  have same : ∀ requestId pending, state.inner.pending.lookup requestId = some pending →
      ∃ later, state.inner.pending.lookup requestId = some later ∧ later.sender = pending.sender :=
    fun _ pending found => ⟨pending, found, rfl⟩
  have grows (events : List HubEvent) : ∀ event ∈ state.history, event ∈ state.history ++ events :=
    fun _ mem => List.mem_append_left _ mem
  cases move with
  | register | notices | channel => exact entered.of_same rfl rfl (fun _ => id) (.of_same rfl) same
  | refused => exact entered.of_same rfl rfl (grows _) (.of_same rfl) same
  | unregister gatewayId connectionId => exact entered.unregister gatewayId connectionId
  | invoke route requestId input timeoutMs connection found fresh => exact entered.invoke found (fresh trivial) input timeoutMs
  | leak index call stored careless | lost index place channel stored careless => exact absurd trivial careless
  | sent index call channel stored found sending =>
    refine entered.set stored rfl rfl rfl rfl (fun _ => id) (fun _ _ found => ⟨found, fun _ => .inl rfl⟩)
      (fun _ _ found _ => found) fun _ => .inl sending
  | turn index call phase stored turns =>
    refine entered.set stored rfl rfl rfl rfl (fun _ => id) (fun _ _ found => ⟨found, fun _ => .inr ?_⟩)
      (fun _ _ found _ => found) ?_
    · exact (turns.keeps call).1
    · exact fun relies => absurd relies (turns.keeps call).2
  | answered index call result stored waiting response =>
    refine entered.leave stored rfl rfl rfl rfl (grows _) (by simp [RelayCall.Relies]) ?_ rfl
    intro requestId pending found sender
    rw [(entryOf stored requestId pending found sender).2.1] at response
    cases response
  | unanswered index call stored waiting abandoned =>
    refine entered.leave stored rfl rfl rfl rfl (grows _) (by simp [RelayCall.Relies]) ?_ rfl
    intro requestId pending found sender
    rw [(entryOf stored requestId pending found sender).1] at found
    simp [RelayHub.abandoned, found, sender] at abandoned
  | removeRefused index call error stored refusing =>
    exact entered.remove numbered stored rfl rfl rfl rfl (grows _) (by simp [RelayCall.Relies]) rfl
  | remove index call phase stored removes =>
    exact entered.remove numbered stored rfl rfl rfl rfl (fun _ => id) (removes.leaves call) rfl
  | cancel index reserved call channel error stored found cancelling =>
    refine entered.leave stored rfl rfl rfl rfl (grows _) (by simp [RelayCall.Relies]) ?_ rfl
    intro requestId pending isPending sender
    have holds := (entryOf stored requestId pending isPending sender).2.2
    simp [RelayCall.Holds, RelayCall.unsettled, cancelling] at holds
  | dropCancel index reserved call channel stored found cancelling =>
    refine entered.leave stored rfl rfl rfl rfl (fun _ => id) (by simp [RelayCall.Relies]) ?_ rfl
    intro requestId pending isPending sender
    have holds := (entryOf stored requestId pending isPending sender).2.2
    simp [RelayCall.Holds, RelayCall.unsettled, cancelling] at holds
  | complete connectionId requestId channelId result => exact entered.complete connectionId requestId channelId result
  | deliver index delivery call stored found => exact entered.deliver stored found
  | discard index delivery call stored found deaf => exact entered.discard stored found deaf
  | activity connectionId requestId channelId =>
    refine entered.of_same rfl rfl (fun _ => id) (RelayState.activity_shrinks connectionId requestId channelId) ?_
    intro otherId pending found
    obtain ⟨activity, later⟩ := RelayState.lookup_activity connectionId requestId channelId found
    exact ⟨_, later, rfl⟩

theorem entered_new : new.Entered := by
  refine ⟨?_, ?_, ?_, List.nodup_nil, ?_⟩
  · intro requestId pending found
    cases found
  · intro index call stored
    cases stored
  · intro delivery mem
    cases mem
  · intro index call result stored
    cases stored

end RelayHub

end Vifu.Server
