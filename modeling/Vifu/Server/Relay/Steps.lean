import Vifu.Server.Relay.Hub

/-!
# What a step of the hub does

The conditions on steps under which the hub keeps its promises, and the steps of the hub grouped by what
they change, each with its guards.
-/

namespace Vifu.Server

open Foundation
open Vifu.Runtime hiding validateIdentifier
open Vifu.Gateway

namespace RelayHub

def Distinct (state : RelayHub) : HubAction → Prop
  | .invoke _ requestId _ _ => requestId ∉ state.calls.map RelayCall.requestId
  | _ => True

/-- No caller is dropped while it waits for the lock to remove its entry. -/
def Patient (state : RelayHub) : HubAction → Prop
  | .drop index => ∀ call, state.calls[index]? = some call → call.phase = .waiting
  | _ => True

/-- No call stays pending while all channel ids are drawn once more. -/
def Prompt (state : RelayHub) : HubAction → Prop
  | .invoke _ _ _ _ => ∀ requestId pending, state.inner.pending.lookup requestId = some pending →
      state.calls.length < pending.sender + u64Max
  | _ => True

/-- No call is taken back from a connection whose queue is closed. -/
def Received (state : RelayHub) : HubAction → Prop
  | .queueCancel index _ => ∀ call, state.calls[index]? = some call →
      ∀ channel, state.channels[call.connection.sender]? = some channel → channel.receiving = true
  | .sendDelayed index _ => ∀ channel, state.channels[index]? = some channel → channel.receiving = true
  | _ => True

def Orderly (state : RelayHub) (action : HubAction) : Prop :=
  state.Distinct action ∧ state.Patient action ∧ state.Prompt action ∧ state.Received action

/-! ## What a step does -/

inductive Turns : CallPhase → CallPhase → Prop where
  | refuse (error : TrySendError) : Turns .sending (.refusing error)
  | timeout : Turns .waiting (.aborting .timeout)
  | cancelled : Turns .waiting (.aborting .cancelled)
  | silent : Turns .waiting (.aborting .agentGatewayUnavailable)
  | drop : Turns .waiting .dropping

/-- What a caller does once its entry is removed. -/
inductive Removes : CallPhase → CallPhase → Prop where
  | abort (error : RelayCallError) : Removes (.aborting error) (.cancelling error)
  | drop : Removes .dropping .dropCancelling

end RelayHub

/-- What happens to a channel without a call being sent or taken back; `takes` tells whether commands may leave it. -/
inductive CommandChannel.Moves (takes : Prop) (channel : CommandChannel) : CommandChannel → Prop where
  | push (command : AgentGatewayCommand) : Moves takes channel (channel.push command)
  | delayed (place : ℕ) (command : AgentGatewayCommand) (stored : channel.delayed[place]? = some command) :
    Moves takes channel ({ channel with delayed := channel.delayed.eraseIdx place }.push command)
  | receive (queue : List AgentGatewayCommand) (taken : takes) : Moves takes channel { channel with queue }
  | close (taken : takes) : Moves takes channel { channel with receiving := false, queue := [] }

theorem CommandChannel.trySend_ok {capacity reserved : ℕ} {channel after : CommandChannel} {command : AgentGatewayCommand} :
    channel.trySend capacity reserved command = .ok after ↔
      (channel.receiving = true ∧ channel.queue.length + reserved < capacity) ∧ after = channel.push command := by
  rw [CommandChannel.trySend]
  split
  next closed => simp [closed]
  next isOpen =>
    split
    next full =>
      simp only [reduceCtorEq, false_iff]
      omega
    next room =>
      simp only [Except.ok.injEq, Bool.not_eq_false] at isOpen ⊢
      simp only [isOpen, true_and, not_le.mp room]
      exact eq_comm

namespace RelayHub

/-- The steps of the hub, grouped by what they change.  `careful` tells whether they meet the conditions. -/
inductive Move (careful takes : Prop) (queueCapacity : ℕ) (state : RelayHub) : RelayHub → Prop where
  | register (gatewayId : String) (connectionId sessionId : Uuid) (feedback activity : Bool)
    (fresh : connectionId ∉ state.channels.map CommandChannel.connectionId) :
    Move careful takes queueCapacity state (state.register gatewayId connectionId sessionId feedback activity)
  | unregister (gatewayId : String) (connectionId : Uuid) (channel : CommandChannel) (member : channel ∈ state.channels)
    (connection : channel.connectionId = connectionId) (gateway : channel.gatewayId = gatewayId) :
    Move careful takes queueCapacity state (state.unregister gatewayId connectionId)
  | notices (notices : List (ℕ × AgentGatewayCommand)) : Move careful takes queueCapacity state { state with notices }
  | channel (index : ℕ) (before after : CommandChannel) (notices : List (ℕ × AgentGatewayCommand))
    (stored : state.channels[index]? = some before) (moves : before.Moves takes after) :
    Move careful takes queueCapacity state { state.setChannel index after with notices }
  | refused (requestId : Uuid) : Move careful takes queueCapacity state { state with history := state.history ++ [.refused requestId] }
  | invoke (route : EndpointRoute) (requestId : Uuid) (input : Value) (timeoutMs : ℕ) (connection : AgentGatewayConnection)
    (found : state.inner.connections.lookup route.gatewayId = some connection)
    (fresh : careful → requestId ∉ state.calls.map RelayCall.requestId)
    (recent : careful → ∀ requestId pending, state.inner.pending.lookup requestId = some pending →
      state.calls.length < pending.sender + u64Max) :
    Move careful takes queueCapacity state (state.invoke route requestId input timeoutMs)
  | sent (index : ℕ) (call : RelayCall) (channel : CommandChannel) (stored : state.calls[index]? = some call)
    (found : state.channels[call.connection.sender]? = some channel) (sending : call.phase = .sending) :
    Move careful takes queueCapacity state
      ((state.setChannel call.connection.sender (channel.push call.message)).setCall index { call with phase := .waiting })
  | turn (index : ℕ) (call : RelayCall) (phase : CallPhase) (stored : state.calls[index]? = some call)
    (turns : Turns call.phase phase) : Move careful takes queueCapacity state (state.setCall index { call with phase })
  | answered (index : ℕ) (call : RelayCall) (result : Except RelayCallError Value) (stored : state.calls[index]? = some call)
    (waiting : call.phase = .waiting) (response : call.response = some result) :
    Move careful takes queueCapacity state (state.resolve index call result)
  | unanswered (index : ℕ) (call : RelayCall) (stored : state.calls[index]? = some call) (waiting : call.phase = .waiting)
    (abandoned : state.abandoned index call = true) :
    Move careful takes queueCapacity state (state.resolve index call (.error .agentGatewayUnavailable))
  | removeRefused (index : ℕ) (call : RelayCall) (error : TrySendError) (stored : state.calls[index]? = some call)
    (refusing : call.phase = .refusing error) :
    Move careful takes queueCapacity state
      ({ state with inner := state.inner.removePending call.requestId }.resolve index call (.error error.callError))
  | remove (index : ℕ) (call : RelayCall) (phase : CallPhase) (stored : state.calls[index]? = some call)
    (removes : Removes call.phase phase) :
    Move careful takes queueCapacity state
      ({ state with inner := state.inner.removePending call.requestId }.setCall index { call with phase })
  | cancel (index reserved : ℕ) (call : RelayCall) (channel : CommandChannel) (error : RelayCallError)
    (stored : state.calls[index]? = some call) (found : state.channels[call.connection.sender]? = some channel)
    (cancelling : call.phase = .cancelling error) (isOpen : careful → channel.receiving = true) :
    Move careful takes queueCapacity state
      ((state.setChannel call.connection.sender
        (channel.queueInvocationCancel queueCapacity reserved call.requestId call.channelId)).resolve index call (.error error))
  | dropCancel (index reserved : ℕ) (call : RelayCall) (channel : CommandChannel) (stored : state.calls[index]? = some call)
    (found : state.channels[call.connection.sender]? = some channel) (cancelling : call.phase = .dropCancelling)
    (isOpen : careful → channel.receiving = true) :
    Move careful takes queueCapacity state
      ((state.setChannel call.connection.sender
        (channel.queueInvocationCancel queueCapacity reserved call.requestId call.channelId)).setCall index
          { call with phase := .dropCancelled })
  | leak (index : ℕ) (call : RelayCall) (stored : state.calls[index]? = some call) (careless : ¬careful) :
    Move careful takes queueCapacity state (state.setCall index { call with phase := .gone })
  | lost (index place : ℕ) (channel : CommandChannel) (stored : state.channels[index]? = some channel)
    (careless : ¬careful) :
    Move careful takes queueCapacity state
      (state.setChannel index { channel with delayed := channel.delayed.eraseIdx place })
  | complete (connectionId requestId : Uuid) (channelId : ℕ) (result : Except String Value) :
    Move careful takes queueCapacity state (state.complete connectionId requestId channelId result)
  | deliver (index : ℕ) (delivery : Delivery) (call : RelayCall) (stored : state.deliveries[index]? = some delivery)
    (found : state.calls[delivery.sender]? = some call) (listens : call.listens = true) :
    Move careful takes queueCapacity state
      ({ state with deliveries := state.deliveries.eraseIdx index }.setCall delivery.sender
        { call with response := some delivery.result })
  | discard (index : ℕ) (delivery : Delivery) (call : RelayCall) (stored : state.deliveries[index]? = some delivery)
    (found : state.calls[delivery.sender]? = some call) (deaf : call.listens = false) :
    Move careful takes queueCapacity state { state with deliveries := state.deliveries.eraseIdx index }
  | activity (connectionId requestId : Uuid) (channelId : ℕ) :
    Move careful takes queueCapacity state
      { state with inner := (state.inner.recordInvocationActivity connectionId requestId channelId).1 }

variable {careful takes : Prop} {queueCapacity : ℕ} {state next : RelayHub}

theorem notify_move (gatewayId : String) (command : AgentGatewayCommand) :
    Move careful takes queueCapacity state (state.notify gatewayId command) := by
  rw [notify]
  split
  · exact .notices state.notices
  · exact .notices _

theorem move_of_step {action : HubAction} (orderly : careful → state.Orderly action) (taken : action.takes = true → takes)
    (stepped : state.step queueCapacity action = some next) : Move careful takes queueCapacity state next := by
  cases action with
  | register gatewayId connectionId sessionId feedback activity =>
    simp only [step] at stepped
    split at stepped
    next => cases stepped
    next fresh =>
      cases stepped
      exact .register gatewayId connectionId sessionId feedback activity fresh
  | unregister gatewayId connectionId =>
    simp only [step] at stepped
    obtain ⟨known, ⟨⟩⟩ := Option.ite_none_right_eq_some.mp stepped
    obtain ⟨channel, mem, same⟩ := List.any_eq_true.mp known
    simp only [Bool.and_eq_true, beq_iff_eq] at same
    exact .unregister gatewayId connectionId channel mem same.1 same.2
  | disconnect gatewayId code =>
    cases stepped
    exact notify_move gatewayId _
  | notifyRuntimeConfig gatewayId deploymentIds =>
    cases stepped
    exact notify_move gatewayId _
  | notifyApplicationFeedback gatewayId sessionId report =>
    simp only [step] at stepped
    obtain ⟨-, ⟨⟩⟩ := Option.ite_none_right_eq_some.mp stepped
    exact notify_move gatewayId _
  | post notice reserved =>
    obtain ⟨⟨sender, command⟩, -, stepped⟩ := Option.bind_eq_some_iff.mp stepped
    obtain ⟨channel, found, stepped⟩ := Option.bind_eq_some_iff.mp stepped
    obtain ⟨-, stepped⟩ := Option.ite_none_right_eq_some.mp stepped
    split at stepped
    next after sends =>
      cases stepped
      rw [(channel.trySend_ok.mp sends).2]
      exact .channel sender channel _ _ found (.push command)
    next =>
      cases stepped
      exact .notices _
  | receive index =>
    obtain ⟨channel, found, stepped⟩ := Option.bind_eq_some_iff.mp stepped
    split at stepped
    next queue _ _ =>
      cases stepped
      exact .channel index channel _ state.notices found (.receive _ (taken rfl))
    next => cases stepped
  | sendDelayed index delayed =>
    obtain ⟨channel, found, stepped⟩ := Option.bind_eq_some_iff.mp stepped
    obtain ⟨command, waits, stepped⟩ := Option.bind_eq_some_iff.mp stepped
    split at stepped
    next closed =>
      cases stepped
      refine .lost index delayed channel found ?_
      intro isCareful
      rw [(orderly isCareful).2.2.2 channel found] at closed
      cases closed
    next =>
      obtain ⟨-, ⟨⟩⟩ := Option.ite_none_right_eq_some.mp stepped
      exact .channel index channel _ state.notices found (.delayed delayed command waits)
  | close index =>
    obtain ⟨channel, found, stepped⟩ := Option.bind_eq_some_iff.mp stepped
    cases stepped
    exact .channel index channel _ state.notices found (.close (taken rfl))
  | invoke route requestId input timeoutMs =>
    cases stepped
    cases found : state.inner.connections.lookup route.gatewayId with
    | none =>
      have refuses : state.invoke route requestId input timeoutMs =
          { state with history := state.history ++ [.refused requestId] } := by
        simp [invoke, RelayState.openCall, found]
      rw [refuses]
      exact .refused requestId
    | some connection =>
      exact .invoke route requestId input timeoutMs connection found (fun isCareful => (orderly isCareful).1)
        fun isCareful => (orderly isCareful).2.2.1
  | send index reserved =>
    obtain ⟨call, stored, stepped⟩ := Option.bind_eq_some_iff.mp stepped
    obtain ⟨channel, found, stepped⟩ := Option.bind_eq_some_iff.mp stepped
    obtain ⟨sends, stepped⟩ := Option.ite_none_right_eq_some.mp stepped
    split at stepped
    next after sent =>
      cases stepped
      rw [(channel.trySend_ok.mp sent).2]
      exact .sent index call channel stored found sends.1
    next error refused =>
      cases stepped
      exact .turn index call _ stored (sends.1 ▸ .refuse error)
  | respond index =>
    obtain ⟨call, stored, stepped⟩ := Option.bind_eq_some_iff.mp stepped
    obtain ⟨waiting, stepped⟩ := Option.ite_none_right_eq_some.mp stepped
    split at stepped
    next result response =>
      cases stepped
      exact .answered index call result stored waiting response
    next =>
      obtain ⟨abandoned, ⟨⟩⟩ := Option.ite_none_right_eq_some.mp stepped
      exact .unanswered index call stored waiting abandoned
  | activityClosed index =>
    obtain ⟨call, stored, stepped⟩ := Option.bind_eq_some_iff.mp stepped
    obtain ⟨closes, ⟨⟩⟩ := Option.ite_none_right_eq_some.mp stepped
    exact .turn index call _ stored (closes.1 ▸ .silent)
  | giveUp index timedOut =>
    obtain ⟨call, stored, stepped⟩ := Option.bind_eq_some_iff.mp stepped
    obtain ⟨waiting, ⟨⟩⟩ := Option.ite_none_right_eq_some.mp stepped
    cases timedOut with
    | true => exact .turn index call _ stored (waiting ▸ .timeout)
    | false => exact .turn index call _ stored (waiting ▸ .cancelled)
  | drop index =>
    obtain ⟨call, stored, stepped⟩ := Option.bind_eq_some_iff.mp stepped
    split at stepped
    next waiting =>
      cases stepped
      exact .turn index call _ stored (waiting ▸ .drop)
    next error refusing =>
      cases stepped
      refine .leak index call stored fun isCareful => ?_
      have waiting := (orderly isCareful).2.1 call stored
      rw [refusing] at waiting
      cases waiting
    next error aborting =>
      cases stepped
      refine .leak index call stored fun isCareful => ?_
      have waiting := (orderly isCareful).2.1 call stored
      rw [aborting] at waiting
      cases waiting
    all_goals cases stepped
  | removePending index =>
    obtain ⟨call, stored, stepped⟩ := Option.bind_eq_some_iff.mp stepped
    split at stepped
    next error refusing =>
      cases stepped
      exact .removeRefused index call error stored refusing
    next error aborting =>
      cases stepped
      exact .remove index call _ stored (aborting ▸ .abort error)
    next dropping =>
      cases stepped
      exact .remove index call _ stored (dropping ▸ .drop)
    all_goals cases stepped
  | queueCancel index reserved =>
    obtain ⟨call, stored, stepped⟩ := Option.bind_eq_some_iff.mp stepped
    obtain ⟨channel, found, stepped⟩ := Option.bind_eq_some_iff.mp stepped
    have isOpen := fun isCareful => (orderly isCareful).2.2.2 call stored channel found
    obtain ⟨-, stepped⟩ := Option.ite_none_right_eq_some.mp stepped
    split at stepped
    next error cancelling =>
      cases stepped
      exact .cancel index reserved call channel error stored found cancelling isOpen
    next cancelling =>
      cases stepped
      exact .dropCancel index reserved call channel stored found cancelling isOpen
    all_goals cases stepped
  | complete connectionId requestId channelId result =>
    cases stepped
    exact .complete connectionId requestId channelId result
  | deliver index =>
    obtain ⟨delivery, stored, stepped⟩ := Option.bind_eq_some_iff.mp stepped
    obtain ⟨call, found, stepped⟩ := Option.bind_eq_some_iff.mp stepped
    split at stepped
    next listens =>
      cases stepped
      exact .deliver index delivery call stored found listens
    next deaf =>
      cases stepped
      exact .discard index delivery call stored found (by simpa using deaf)
  | recordInvocationActivity connectionId requestId channelId =>
    cases stepped
    exact .activity connectionId requestId channelId

end RelayHub

/-! ## The entries that are left -/

namespace RelayState

/-- Entries only go; those that stay are for the same calls. -/
def Shrinks (state next : RelayState) : Prop :=
  ∀ requestId pending, next.pending.lookup requestId = some pending →
    ∃ earlier, state.pending.lookup requestId = some earlier ∧ pending.sender = earlier.sender ∧
      pending.connectionId = earlier.connectionId ∧ pending.channelId = earlier.channelId

variable {state : RelayState}

theorem Shrinks.of_same {next : RelayState} (same : next.pending = state.pending) : state.Shrinks next := by
  intro requestId pending found
  rw [same] at found
  exact ⟨pending, found, rfl, rfl, rfl⟩

variable {pending : PendingCall}

theorem removePending_lookup {requestId otherId : Uuid} :
    (state.removePending requestId).pending.lookup otherId = some pending ↔
      otherId ≠ requestId ∧ state.pending.lookup otherId = some pending := by
  rw [removePending, lookup_erase]
  split
  next same => simp [same]
  next different => simp [different]

theorem unregister_lookup {gatewayId : String} {connectionId requestId : Uuid} :
    (state.unregister gatewayId connectionId).1.pending.lookup requestId = some pending ↔
      state.pending.lookup requestId = some pending ∧ pending.connectionId ≠ connectionId := by
  rw [unregister, lookup_retain]
  simp

theorem unregister_connections {gatewayId otherGateway : String} {connectionId : Uuid} {connection : AgentGatewayConnection}
    (found : (state.unregister gatewayId connectionId).1.connections.lookup otherGateway = some connection) :
    state.connections.lookup otherGateway = some connection ∧
      (otherGateway = gatewayId → connection.connectionId ≠ connectionId) := by
  simp only [unregister] at found
  split at found
  next =>
    rw [lookup_erase] at found
    split at found
    next => cases found
    next different => exact ⟨found, fun same => absurd same different⟩
  next notCurrent =>
    refine ⟨found, fun same isSame => notCurrent ?_⟩
    subst same
    simp [isCurrent, found, isSame]

theorem mem_unregister (gatewayId : String) {connectionId : Uuid} :
    pending ∈ (state.unregister gatewayId connectionId).2.2 ↔
      pending.connectionId = connectionId ∧ ∃ requestId, state.pending.lookup requestId = some pending := by
  have entry (requestId : Uuid) : state.pending.lookup requestId = some pending ↔ ⟨requestId, pending⟩ ∈ state.pending.entries :=
    AList.mem_lookup_iff
  simp only [unregister, List.mem_filter, List.mem_map, beq_iff_eq, entry]
  constructor
  · rintro ⟨⟨⟨requestId, _⟩, mem, rfl⟩, same⟩
    exact ⟨same, requestId, mem⟩
  · rintro ⟨same, requestId, mem⟩
    exact ⟨⟨⟨requestId, pending⟩, mem, rfl⟩, same⟩

theorem complete_cases (state : RelayState) (connectionId requestId : Uuid) (channelId : ℕ) :
    state.complete connectionId requestId channelId = (state, none) ∨
      ∃ pending, state.pending.lookup requestId = some pending ∧ pending.connectionId = connectionId ∧
        pending.channelId = channelId ∧
        state.complete connectionId requestId channelId = (state.removePending requestId, some pending) := by
  rw [complete]
  split
  next isPending =>
    obtain ⟨pending, found, same⟩ := (Option.any_eq_true _ _).mp isPending
    simp only [Bool.and_eq_true, beq_iff_eq] at same
    exact .inr ⟨pending, found, same.1, same.2, by rw [found]⟩
  next => exact .inl rfl

theorem activity_lookup {connectionId requestId otherId : Uuid} {channelId : ℕ}
    (found : (state.recordInvocationActivity connectionId requestId channelId).1.pending.lookup otherId = some pending) :
    ∃ activity, state.pending.lookup otherId = some { pending with activity } := by
  rw [recordInvocationActivity] at found
  split at found
  next => exact ⟨pending.activity, found⟩
  next earlier isEarlier =>
    split at found
    next => exact ⟨pending.activity, found⟩
    next =>
      rw [lookup_insert] at found
      split at found
      next same =>
        cases found
        exact ⟨earlier.activity, same ▸ isEarlier⟩
      next => exact ⟨pending.activity, found⟩

theorem lookup_activity (connectionId requestId : Uuid) (channelId : ℕ) {otherId : Uuid}
    (found : state.pending.lookup otherId = some pending) :
    ∃ activity, (state.recordInvocationActivity connectionId requestId channelId).1.pending.lookup otherId =
      some { pending with activity } := by
  rw [recordInvocationActivity]
  split
  next => exact ⟨pending.activity, found⟩
  next earlier isEarlier =>
    split
    next => exact ⟨pending.activity, found⟩
    next =>
      rw [lookup_insert]
      split
      next same =>
        rw [same, isEarlier, Option.some.injEq] at found
        exact ⟨saturatingAdd pending.activity 1, by rw [found]⟩
      next => exact ⟨pending.activity, found⟩

theorem removePending_shrinks (requestId : Uuid) : state.Shrinks (state.removePending requestId) := by
  intro otherId pending found
  exact ⟨pending, (removePending_lookup.mp found).2, rfl, rfl, rfl⟩

theorem unregister_shrinks (gatewayId : String) (connectionId : Uuid) :
    state.Shrinks (state.unregister gatewayId connectionId).1 := by
  intro requestId pending found
  exact ⟨pending, (unregister_lookup.mp found).1, rfl, rfl, rfl⟩

section

variable (connectionId requestId : Uuid) (channelId : ℕ)
include connectionId requestId channelId

theorem complete_shrinks : state.Shrinks (state.complete connectionId requestId channelId).1 := by
  cases state.complete_cases connectionId requestId channelId with
  | inl same =>
    rw [same]
    exact .of_same rfl
  | inr taken =>
    obtain ⟨pending, -, -, -, same⟩ := taken
    rw [same]
    exact removePending_shrinks requestId

theorem activity_shrinks :
    state.Shrinks (state.recordInvocationActivity connectionId requestId channelId).1 := by
  intro otherId pending found
  obtain ⟨activity, earlier⟩ := activity_lookup found
  exact ⟨_, earlier, rfl, rfl, rfl⟩

@[simp] theorem complete_nextChannelId :
    (state.complete connectionId requestId channelId).1.nextChannelId = state.nextChannelId := by
  cases state.complete_cases connectionId requestId channelId with
  | inl same => rw [same]
  | inr taken =>
    obtain ⟨pending, -, -, -, same⟩ := taken
    rw [same]
    rfl

@[simp] theorem activity_nextChannelId :
    (state.recordInvocationActivity connectionId requestId channelId).1.nextChannelId = state.nextChannelId := by
  rw [recordInvocationActivity]
  split
  · rfl
  · split <;> rfl

end

theorem takeChannelId_eq {drawn : ℕ} (counted : state.nextChannelId = drawn % u64Max + 1) :
    state.takeChannelId = (drawn % u64Max + 1, { state with nextChannelId := (drawn + 1) % u64Max + 1 }) := by
  have below : drawn % u64Max < u64Max := Nat.mod_lt _ (by decide)
  have advanced : max ((drawn % u64Max + 1 + 1) % (u64Max + 1)) 1 = (drawn + 1) % u64Max + 1 := by
    rw [← Nat.mod_add_mod drawn u64Max 1]
    by_cases last : drawn % u64Max + 1 = u64Max
    · rw [last, Nat.mod_self]
      rfl
    · have room : drawn % u64Max + 1 < u64Max := by omega
      rw [Nat.mod_eq_of_lt room, Nat.mod_eq_of_lt (Nat.succ_lt_succ room)]
      omega
  have first : max state.nextChannelId 1 = drawn % u64Max + 1 := by omega
  rw [takeChannelId, first, advanced]

end RelayState

end Vifu.Server
