import Vifu.Server.Relay.Entries

/-!
# Replies and their callers

What the hub keeps up between its map of pending calls, the callers and the queues of the connections,
in every interleaving of their steps: a reply goes to the caller it is for, every caller returns once,
and a call that is given up is taken back after it was sent.
-/

namespace Vifu.Server

open Foundation
open Vifu.Runtime hiding validateIdentifier
open Vifu.Gateway

/-- The command that takes a call back is placed after the call, or waits for room after it. -/
def CommandChannel.TakesBack (channel : CommandChannel) (call : RelayCall) : Prop :=
  (call.message ∈ channel.sent ∧ call.cancel ∈ channel.delayed) ∨
    ∃ before after, channel.sent = before ++ call.cancel :: after ∧ call.message ∈ before

namespace RelayCall

variable (call : RelayCall)

/-- Whether the caller has been given up by a timeout, by a cancellation or by a drop. -/
def givenUp : Bool :=
  match call.phase with
  | .returned (.error .timeout) | .returned (.error .cancelled) | .dropCancelled => true
  | .sending | .refusing _ | .waiting | .aborting _ | .cancelling _ | .dropping | .dropCancelling | .returned _ |
    .gone => false

def results : List (Except RelayCallError Value) :=
  match call.phase with
  | .returned result => [result]
  | .sending | .refusing _ | .waiting | .aborting _ | .cancelling _ | .dropping | .dropCancelling | .dropCancelled |
    .gone => []

end RelayCall

def HubEvent.result (index : ℕ) : HubEvent → Option (Except RelayCallError Value)
  | .resolved call result => if call = index then some result else none
  | .completed _ _ _ _ | .unregistered _ | .refused _ => none

def RelayHub.resultsOf (state : RelayHub) (index : ℕ) : List (Except RelayCallError Value) :=
  state.history.filterMap (HubEvent.result index)

/-- Replies reach the right callers. -/
structure RelayHub.Delivers (state : RelayHub) : Prop where
  /-- A reply that a caller returns came for its connection, request and channel. -/
  matched : ∀ index reply, .resolved index (replyResult reply) ∈ state.history →
    ∃ call, state.calls[index]? = some call ∧
      .completed call.connection.connectionId call.requestId call.channelId reply ∈ state.history
  /-- A caller that has returned has done so once. -/
  once : ∀ index, state.resultsOf index = (state.calls[index]?.map RelayCall.results).getD []
  /-- An entry is for a caller that waits, or whose task is about to remove the entry. -/
  entry : ∀ requestId pending, state.inner.pending.lookup requestId = some pending →
    ∃ call, state.calls[pending.sender]? = some call ∧ pending.IsFor requestId call ∧
      (call.phase = .waiting ∨ call.unsettled = true)
  /-- A caller that waits has an entry until a response is under way. -/
  waiting : ∀ index call, state.calls[index]? = some call → call.phase = .waiting →
    ((∃ pending, state.inner.pending.lookup call.requestId = some pending ∧ pending.sender = index) ↔
      call.response = none ∧ ∀ delivery ∈ state.deliveries, delivery.sender ≠ index)
  unregistered : ∀ connectionId, .unregistered connectionId ∈ state.history →
    ∀ requestId pending, state.inner.pending.lookup requestId = some pending → pending.connectionId ≠ connectionId
  channelIds : ∀ requestId otherId pending other, state.inner.pending.lookup requestId = some pending →
    state.inner.pending.lookup otherId = some other → pending.channelId = other.channelId → requestId = otherId
  takenBack : ∀ (index : ℕ) (call : RelayCall), state.calls[index]? = some call → call.givenUp = true →
    ∃ channel : CommandChannel, state.channels[call.connection.sender]? = some channel ∧
      channel.connectionId = call.connection.connectionId ∧ channel.TakesBack call

/-! ## What callers return -/

def CallPhase.error? : CallPhase → Option RelayCallError
  | .aborting error | .cancelling error => some error
  | .sending | .refusing _ | .waiting | .dropping | .dropCancelling | .dropCancelled | .returned _ | .gone => none

/-- Replies are told apart from the errors of the hub. -/
def RelayCallError.IsOwn (error : RelayCallError) : Prop := ∀ message, error ≠ .agentGateway message

theorem TrySendError.callError_own (error : TrySendError) : error.callError.IsOwn := by
  cases error <;> simp [TrySendError.callError, RelayCallError.IsOwn]

theorem replyResult_injective : Function.Injective replyResult := by
  intro reply other same
  cases reply <;> cases other <;> simp_all [replyResult, Except.mapError]

theorem RelayCallError.IsOwn.not_reply {error : RelayCallError} (own : error.IsOwn) (reply : Except String Value) :
    replyResult reply ≠ .error error := by
  cases reply with
  | error message => simpa [replyResult, Except.mapError] using (own message).symm
  | ok output => simp [replyResult, Except.mapError]

variable {call : RelayCall} {index : ℕ}

namespace RelayHub

variable {takes : Prop} {queueCapacity : ℕ} {state next : RelayHub} {before phase : CallPhase}
  {events : List HubEvent}

theorem Turns.own (turns : Turns before phase) (error : RelayCallError)
    (isError : phase.error? = some error) : error.IsOwn := by
  cases turns <;> cases isError <;> exact fun _ => by simp

theorem Removes.error (removes : Removes before phase) (error : RelayCallError)
    (isError : phase.error? = some error) : before.error? = some error := by
  cases removes with
  | abort => exact isError
  | drop => cases isError

/-- What callers have returned is in the history, once for each of them. -/
structure Returned (state : RelayHub) : Prop where
  results : ∀ index, state.resultsOf index = (state.calls[index]?.map RelayCall.results).getD []
  replied : ∀ (index : ℕ) (call : RelayCall) reply, state.calls[index]? = some call →
    call.phase = .returned (replyResult reply) →
    .completed call.connection.connectionId call.requestId call.channelId reply ∈ state.history
  errors : ∀ (index : ℕ) (call : RelayCall) error, state.calls[index]? = some call → call.phase.error? = some error →
    error.IsOwn

theorem Returned.of_same (returned : state.Returned) (calls : next.calls = state.calls)
    (history : next.history = state.history ++ events) (silent : ∀ index, events.filterMap (HubEvent.result index) = []) :
    next.Returned := by
  refine ⟨?_, ?_, ?_⟩
  · intro index
    rw [resultsOf, history, List.filterMap_append, silent, List.append_nil, calls]
    exact returned.results index
  · intro index call reply stored isReturned
    rw [calls] at stored
    rw [history]
    exact List.mem_append_left _ (returned.replied index call reply stored isReturned)
  · intro index call error stored isError
    rw [calls] at stored
    exact returned.errors index call error stored isError

theorem Returned.set (returned : state.Returned) {call changed : RelayCall}
    (stored : state.calls[index]? = some call) (calls : next.calls = state.calls.set index changed)
    (history : next.history = state.history ++ events)
    (results : changed.results = call.results ++ events.filterMap (HubEvent.result index))
    (silent : ∀ other, other ≠ index → events.filterMap (HubEvent.result other) = [])
    (replied : ∀ reply, changed.phase = .returned (replyResult reply) →
      .completed changed.connection.connectionId changed.requestId changed.channelId reply ∈ state.history)
    (errors : ∀ error, changed.phase.error? = some error → error.IsOwn) : next.Returned := by
  have inside := (List.getElem?_eq_some_iff.mp stored).1
  refine ⟨?_, ?_, ?_⟩
  · intro other
    have before := returned.results other
    rw [resultsOf, history, List.filterMap_append, calls]
    rw [resultsOf] at before
    by_cases same : other = index
    · subst same
      rw [before, stored, List.getElem?_set_self inside]
      exact results.symm
    · rw [before, silent other same, List.append_nil, List.getElem?_set_ne (Ne.symm same)]
  · intro other another reply found isReturned
    rw [calls] at found
    rw [history]
    apply List.mem_append_left
    obtain ⟨rfl, rfl⟩ | ⟨-, earlier⟩ := getElem?_set_cases found
    · exact replied reply isReturned
    · exact returned.replied other another reply earlier isReturned
  · intro other another error found isError
    rw [calls] at found
    obtain ⟨rfl, rfl⟩ | ⟨-, earlier⟩ := getElem?_set_cases found
    · exact errors error isError
    · exact returned.errors other another error earlier isError

variable {result : Except RelayCallError Value}

theorem Returned.resolve (returned : state.Returned)
    (stored : state.calls[index]? = some call) (calls : next.calls = state.calls.set index { call with phase := .returned result })
    (history : next.history = state.history ++ [.resolved index result]) (running : call.results = [])
    (replied : ∀ reply, result = replyResult reply →
      .completed call.connection.connectionId call.requestId call.channelId reply ∈ state.history) : next.Returned := by
  apply returned.set stored calls history
  · rw [running]
    simp [RelayCall.results, HubEvent.result]
  · intro other different
    simp [HubEvent.result, Ne.symm different]
  · intro reply isReturned
    exact replied reply (CallPhase.returned.inj isReturned)
  · intro error isError
    cases isError

theorem Turns.running (turns : Turns before phase) (call : RelayCall) (isBefore : call.phase = before) :
    call.results = [] ∧ RelayCall.results { call with phase } = [] := by
  cases turns <;> simp [RelayCall.results, isBefore]

theorem Removes.running (removes : Removes before phase) (call : RelayCall)
    (isBefore : call.phase = before) : call.results = [] ∧ RelayCall.results { call with phase } = [] := by
  cases removes <;> simp [RelayCall.results, isBefore]

theorem Turns.not_returned (turns : Turns before phase) (result : Except RelayCallError Value) :
    phase ≠ .returned result := by
  cases turns <;> simp

theorem Removes.not_returned (removes : Removes before phase)
    (result : Except RelayCallError Value) : phase ≠ .returned result := by
  cases removes <;> simp

theorem Returned.move (returned : state.Returned) (entered : state.Entered) (move : Move True takes queueCapacity state next) :
    next.Returned := by
  have none : state.history = state.history ++ [] := (List.append_nil _).symm
  have own : ∀ {index : ℕ} {call : RelayCall} {error : RelayCallError}, state.calls[index]? = some call →
      call.phase.error? = some error → ∀ reply, .error error = replyResult reply →
      .completed call.connection.connectionId call.requestId call.channelId reply ∈ state.history :=
    fun stored isError reply same => absurd same.symm ((returned.errors _ _ _ stored isError).not_reply reply)
  cases move with
  | register | notices | channel | discard | activity => exact returned.of_same rfl none fun _ => rfl
  | unregister | refused | complete => exact returned.of_same rfl rfl fun _ => rfl
  | invoke route requestId input timeoutMs connection found =>
    rw [invoke_eq found]
    refine ⟨?_, ?_, ?_⟩
    · intro index
      refine (returned.results index).trans ?_
      by_cases inside : index < state.calls.length
      · rw [List.getElem?_append_left inside]
      · rw [List.getElem?_eq_none (by omega), List.getElem?_append_right (by omega), List.getElem?_singleton]
        split <;> rfl
    · intro index call reply stored isReturned
      obtain earlier | ⟨-, rfl⟩ := getElem?_append_cases stored
      · exact returned.replied index call reply earlier isReturned
      · cases isReturned
    · intro index call error stored isError
      obtain earlier | ⟨-, rfl⟩ := getElem?_append_cases stored
      · exact returned.errors index call error earlier isError
      · cases isError
  | leak index call stored careless | lost index place channel stored careless => exact absurd trivial careless
  | sent index call channel stored found sending =>
    refine returned.set stored rfl none ?_ (fun _ _ => rfl) (fun _ isReturned => by cases isReturned)
      fun _ isError => by cases isError
    simp [RelayCall.results, sending]
  | turn index call phase stored turns =>
    obtain ⟨running, stillRunning⟩ := turns.running call rfl
    refine returned.set stored rfl none ?_ (fun _ _ => rfl) (fun _ isReturned => absurd isReturned (turns.not_returned _))
      turns.own
    rw [running, stillRunning]
    rfl
  | answered index call result stored waiting response =>
    refine returned.resolve stored rfl rfl (by simp [RelayCall.results, waiting]) ?_
    intro reply same
    obtain ⟨other, isOther, completed⟩ | unavailable := entered.response index call result stored response
    · rw [replyResult_injective (same.symm.trans isOther)]
      exact completed
    · have apart : RelayCallError.agentGatewayUnavailable.IsOwn := fun _ => by simp
      exact absurd (same.symm.trans unavailable) (apart.not_reply reply)
  | unanswered index call stored waiting =>
    refine returned.resolve stored rfl rfl (by simp [RelayCall.results, waiting]) ?_
    have apart : RelayCallError.agentGatewayUnavailable.IsOwn := fun _ => by simp
    exact fun reply same => absurd same.symm (apart.not_reply reply)
  | removeRefused index call error stored refusing =>
    refine returned.resolve stored rfl rfl (by simp [RelayCall.results, refusing]) ?_
    exact fun reply same => absurd same.symm (error.callError_own.not_reply reply)
  | remove index call phase stored removes =>
    obtain ⟨running, stillRunning⟩ := removes.running call rfl
    refine returned.set stored rfl none ?_ (fun _ _ => rfl) (fun _ isReturned => absurd isReturned (removes.not_returned _))
      fun error isError => returned.errors index call error stored (removes.error error isError)
    rw [running, stillRunning]
    rfl
  | cancel index reserved call channel error stored found cancelling =>
    exact returned.resolve stored rfl rfl (by simp [RelayCall.results, cancelling])
      (own stored (by rw [cancelling]; rfl))
  | dropCancel index reserved call channel stored found cancelling =>
    refine returned.set stored rfl none ?_ (fun _ _ => rfl) (fun _ isReturned => by cases isReturned)
      fun _ isError => by cases isError
    simp [RelayCall.results, cancelling]
  | deliver index delivery call stored found =>
    exact returned.set found rfl none (List.append_nil _).symm (fun _ _ => rfl)
      (fun reply isReturned => returned.replied delivery.sender call reply found isReturned)
      fun error isError => returned.errors delivery.sender call error found isError

theorem returned_new : new.Returned := by
  refine ⟨fun _ => rfl, ?_, ?_⟩
  · intro index call reply stored
    cases stored
  · intro index call error stored
    cases stored

end RelayHub

/-! ## Calls that are taken back -/

structure CommandChannel.Grows (channel after : CommandChannel) : Prop where
  sent : ∀ command ∈ channel.sent, command ∈ after.sent
  takesBack : ∀ call, channel.TakesBack call → after.TakesBack call

namespace CommandChannel

variable {takes : Prop} {channel after : CommandChannel}

theorem Grows.refl (channel : CommandChannel) : channel.Grows channel := ⟨fun _ => id, fun _ => id⟩

theorem takesBack_append {sent more : List AgentGatewayCommand}
    (follows : ∃ before after, sent = before ++ call.cancel :: after ∧ call.message ∈ before) :
    ∃ before after, sent ++ more = before ++ call.cancel :: after ∧ call.message ∈ before := by
  obtain ⟨before, after, rfl, isBefore⟩ := follows
  exact ⟨before, after ++ more, by simp, isBefore⟩

theorem push_grows (channel : CommandChannel) (command : AgentGatewayCommand) : channel.Grows (channel.push command) := by
  refine ⟨fun _ mem => List.mem_append_left _ mem, ?_⟩
  intro call takesBack
  obtain ⟨sent, waits⟩ | follows := takesBack
  · exact .inl ⟨List.mem_append_left _ sent, waits⟩
  · exact .inr (takesBack_append follows)

theorem Moves.grows (moves : channel.Moves takes after) : channel.Grows after := by
  cases moves with
  | push command => exact push_grows channel command
  | receive queue => exact ⟨fun _ => id, fun _ => id⟩
  | delayed place command stored =>
    refine ⟨fun _ mem => List.mem_append_left _ mem, ?_⟩
    intro call takesBack
    obtain ⟨sent, waits⟩ | follows := takesBack
    · cases List.mem_cons.mp ((perm_eraseIdx stored).mem_iff.mp waits) with
      | inl same => exact .inr ⟨channel.sent, [], by rw [same]; rfl, sent⟩
      | inr left => exact .inl ⟨List.mem_append_left _ sent, left⟩
    · exact .inr (takesBack_append follows)
  | close => exact ⟨fun _ => id, fun _ => id⟩

theorem queueInvocationCancel_takesBack (sent : call.message ∈ channel.sent)
    (isOpen : channel.receiving = true) (capacity reserved : ℕ) :
    (channel.queueInvocationCancel capacity reserved call.requestId call.channelId).TakesBack call := by
  rw [queueInvocationCancel]
  split
  next after sends =>
    rw [(trySend_ok.mp sends).2]
    exact .inr ⟨channel.sent, [], rfl, sent⟩
  next isClosed =>
    rw [trySend, isOpen, if_neg (by simp)] at isClosed
    split at isClosed <;> cases isClosed
  next => exact .inl ⟨sent, List.mem_append_right _ (List.mem_singleton_self _)⟩

theorem queueInvocationCancel_grows (capacity reserved : ℕ) (requestId : Uuid) (channelId : ℕ) :
    channel.Grows (channel.queueInvocationCancel capacity reserved requestId channelId) := by
  rw [queueInvocationCancel]
  split
  next after sends =>
    rw [(trySend_ok.mp sends).2]
    exact push_grows _ _
  · exact .refl channel
  next =>
    refine ⟨fun _ => id, ?_⟩
    intro call takesBack
    obtain ⟨sent, waits⟩ | follows := takesBack
    · exact .inl ⟨sent, List.mem_append_left _ waits⟩
    · exact .inr follows

end CommandChannel

theorem RelayCall.Warranted.not_givenUp {history : List HubEvent}
    (warranted : call.Warranted history result) : RelayCall.givenUp { call with phase := .returned result } = false := by
  obtain ⟨reply, rfl, -⟩ | rfl := warranted
  · cases reply <;> rfl
  · rfl

/-- Whether the message of the call was sent and the call was not given up yet. -/
def RelayCall.posted (call : RelayCall) : Bool :=
  match call.phase with
  | .waiting | .aborting _ | .cancelling _ | .dropping | .dropCancelling => true
  | .sending | .refusing _ | .dropCancelled | .returned _ | .gone => false

namespace RelayHub

variable {takes : Prop} {queueCapacity : ℕ} {state next : RelayHub}

def ChannelsGrow (state next : RelayHub) : Prop :=
  ∀ (index : ℕ) (channel : CommandChannel), state.channels[index]? = some channel →
    ∃ after, next.channels[index]? = some after ∧ channel.Grows after

theorem channelsGrow_set {channel after : CommandChannel} (grows : channel.Grows after)
    (stored : state.channels[index]? = some channel) (channels : next.channels = state.channels.set index after) :
    state.ChannelsGrow next := by
  intro other another found
  rw [channels]
  by_cases same : other = index
  · subst same
    rw [stored, Option.some.injEq] at found
    subst found
    exact ⟨after, List.getElem?_set_self (List.getElem?_eq_some_iff.mp stored).1, grows⟩
  · exact ⟨another, (List.getElem?_set_ne (Ne.symm same)).trans found, .refl another⟩

structure Queued (state : RelayHub) : Prop where
  sent : ∀ (index : ℕ) (call : RelayCall), state.calls[index]? = some call → call.posted = true →
    ∃ channel, state.channels[call.connection.sender]? = some channel ∧ call.message ∈ channel.sent
  takenBack : ∀ (index : ℕ) (call : RelayCall), state.calls[index]? = some call → call.givenUp = true →
    ∃ channel, state.channels[call.connection.sender]? = some channel ∧ channel.TakesBack call

theorem Queued.of_same (queued : state.Queued) (calls : next.calls = state.calls) (grows : state.ChannelsGrow next) :
    next.Queued := by
  constructor
  · intro index call stored posted
    rw [calls] at stored
    obtain ⟨channel, found, sent⟩ := queued.sent index call stored posted
    obtain ⟨after, isAfter, kept⟩ := grows _ channel found
    exact ⟨after, isAfter, kept.sent _ sent⟩
  · intro index call stored givenUp
    rw [calls] at stored
    obtain ⟨channel, found, takesBack⟩ := queued.takenBack index call stored givenUp
    obtain ⟨after, isAfter, kept⟩ := grows _ channel found
    exact ⟨after, isAfter, kept.takesBack _ takesBack⟩

theorem Queued.set (queued : state.Queued) {changed : RelayCall}
    (calls : next.calls = state.calls.set index changed) (grows : state.ChannelsGrow next)
    (posted : changed.posted = true →
      ∃ channel, next.channels[changed.connection.sender]? = some channel ∧ changed.message ∈ channel.sent)
    (givenUp : changed.givenUp = true →
      ∃ channel, next.channels[changed.connection.sender]? = some channel ∧ channel.TakesBack changed) : next.Queued := by
  constructor
  · intro other another found isPosted
    rw [calls] at found
    obtain ⟨rfl, rfl⟩ | ⟨-, earlier⟩ := getElem?_set_cases found
    · exact posted isPosted
    · obtain ⟨channel, isChannel, sent⟩ := queued.sent other another earlier isPosted
      obtain ⟨after, isAfter, kept⟩ := grows _ channel isChannel
      exact ⟨after, isAfter, kept.sent _ sent⟩
  · intro other another found isGivenUp
    rw [calls] at found
    obtain ⟨rfl, rfl⟩ | ⟨-, earlier⟩ := getElem?_set_cases found
    · exact givenUp isGivenUp
    · obtain ⟨channel, isChannel, takesBack⟩ := queued.takenBack other another earlier isGivenUp
      obtain ⟨after, isAfter, kept⟩ := grows _ channel isChannel
      exact ⟨after, isAfter, kept.takesBack _ takesBack⟩

theorem channelsGrow_refl (same : next.channels = state.channels) : state.ChannelsGrow next := by
  intro index channel found
  rw [same]
  exact ⟨channel, found, .refl channel⟩

theorem Turns.posted (turns : Turns before phase) (call : RelayCall) (isBefore : call.phase = before) :
    (RelayCall.posted { call with phase } = true → call.posted = true) ∧ RelayCall.givenUp { call with phase } = false := by
  cases turns <;> simp [RelayCall.posted, RelayCall.givenUp, isBefore]

theorem Removes.posted (removes : Removes before phase) (call : RelayCall) (isBefore : call.phase = before) :
    (RelayCall.posted { call with phase } = true → call.posted = true) ∧ RelayCall.givenUp { call with phase } = false := by
  cases removes <;> simp [RelayCall.posted, RelayCall.givenUp, isBefore]

theorem Queued.move (queued : state.Queued) (entered : state.Entered) (move : Move True takes queueCapacity state next) :
    next.Queued := by
  cases move with
  | register gatewayId connectionId sessionId feedback activity =>
    refine queued.of_same rfl fun index channel found => ⟨channel, ?_, .refl channel⟩
    rw [register, List.getElem?_append_left (List.getElem?_eq_some_iff.mp found).1]
    exact found
  | unregister | notices | refused | complete | discard | activity =>
    exact queued.of_same rfl (channelsGrow_refl rfl)
  | channel index before after notices stored moves => exact queued.of_same rfl (channelsGrow_set moves.grows stored rfl)
  | invoke route requestId input timeoutMs connection found =>
    rw [invoke_eq found]
    constructor
    · intro index call stored posted
      obtain earlier | ⟨-, rfl⟩ := getElem?_append_cases stored
      · exact queued.sent index call earlier posted
      · cases posted
    · intro index call stored givenUp
      obtain earlier | ⟨-, rfl⟩ := getElem?_append_cases stored
      · exact queued.takenBack index call earlier givenUp
      · cases givenUp
  | leak index call stored careless | lost index place channel stored careless => exact absurd trivial careless
  | sent index call channel stored found sending =>
    have grows : channel.Grows (channel.push call.message) := CommandChannel.push_grows _ _
    refine queued.set rfl (channelsGrow_set grows found rfl) ?_ fun givenUp => by cases givenUp
    intro _
    refine ⟨_, List.getElem?_set_self (List.getElem?_eq_some_iff.mp found).1, ?_⟩
    exact List.mem_append_right _ (List.mem_singleton_self _)
  | turn index call phase stored turns =>
    obtain ⟨posted, notGivenUp⟩ := turns.posted call rfl
    refine queued.set rfl (channelsGrow_refl rfl) (fun isPosted => queued.sent index call stored (posted isPosted)) ?_
    intro givenUp
    rw [notGivenUp] at givenUp
    cases givenUp
  | answered index call result stored waiting response =>
    refine queued.set rfl (channelsGrow_refl rfl) (fun isPosted => by cases isPosted) ?_
    intro givenUp
    rw [RelayCall.Warranted.not_givenUp (entered.response index call result stored response)] at givenUp
    cases givenUp
  | unanswered index call stored waiting =>
    exact queued.set rfl (channelsGrow_refl rfl) (fun isPosted => by cases isPosted) fun givenUp => by cases givenUp
  | removeRefused index call error stored refusing =>
    refine queued.set rfl (channelsGrow_refl rfl) (fun isPosted => by cases isPosted) ?_
    intro givenUp
    cases error <;> cases givenUp
  | remove index call phase stored removes =>
    obtain ⟨posted, notGivenUp⟩ := removes.posted call rfl
    refine queued.set rfl (channelsGrow_refl rfl) (fun isPosted => queued.sent index call stored (posted isPosted)) ?_
    intro givenUp
    rw [notGivenUp] at givenUp
    cases givenUp
  | cancel index reserved call channel error stored found cancelling isOpen =>
    refine queued.set rfl (channelsGrow_set (channel.queueInvocationCancel_grows _ _ _ _) found rfl)
      (fun isPosted => by cases isPosted) ?_
    intro _
    obtain ⟨same, isSame, sent⟩ := queued.sent index call stored (by simp [RelayCall.posted, cancelling])
    rw [found, Option.some.injEq] at isSame
    subst isSame
    refine ⟨_, List.getElem?_set_self (List.getElem?_eq_some_iff.mp found).1, ?_⟩
    exact CommandChannel.queueInvocationCancel_takesBack sent (isOpen trivial) queueCapacity reserved
  | dropCancel index reserved call channel stored found cancelling isOpen =>
    refine queued.set rfl (channelsGrow_set (channel.queueInvocationCancel_grows _ _ _ _) found rfl)
      (fun isPosted => by cases isPosted) ?_
    intro _
    obtain ⟨same, isSame, sent⟩ := queued.sent index call stored (by simp [RelayCall.posted, cancelling])
    rw [found, Option.some.injEq] at isSame
    subst isSame
    refine ⟨_, List.getElem?_set_self (List.getElem?_eq_some_iff.mp found).1, ?_⟩
    exact CommandChannel.queueInvocationCancel_takesBack sent (isOpen trivial) queueCapacity reserved
  | deliver index delivery call stored found =>
    exact queued.set rfl (channelsGrow_refl rfl) (fun isPosted => queued.sent delivery.sender call found isPosted)
      fun givenUp => queued.takenBack delivery.sender call found givenUp

theorem queued_new : new.Queued := by
  constructor <;> intro index call stored <;> cases stored

end RelayHub

/-! ## Every run -/

namespace RelayHub

structure Sound (state : RelayHub) : Prop where
  numbered : state.Numbered
  registered : state.Registered
  entered : state.Entered
  returned : state.Returned
  queued : state.Queued

theorem sound_of_reachable {queueCapacity : ℕ} {state : RelayHub}
    (reachable : (hubMachine queueCapacity).Reachable Orderly state) : state.Sound := by
  apply reachable.invariant
  · rintro _ rfl
    exact ⟨numbered_new, registered_new, entered_new, returned_new, queued_new⟩
  · intro state action next sound orderly stepped
    have move : Move True True queueCapacity state next := move_of_step (fun _ => orderly) (fun _ => trivial) stepped
    exact ⟨sound.numbered.move move, sound.registered.move move, sound.entered.move sound.numbered move,
      sound.returned.move sound.entered move, sound.queued.move sound.entered move⟩

variable {state : RelayHub}

theorem Returned.phase (returned : state.Returned) (resolved : .resolved index result ∈ state.history) :
    ∃ call, state.calls[index]? = some call ∧ call.phase = .returned result := by
  have isResult : result ∈ state.resultsOf index := by
    rw [resultsOf, List.mem_filterMap]
    exact ⟨_, resolved, by simp [HubEvent.result]⟩
  rw [returned.results index] at isResult
  cases stored : state.calls[index]? with
  | none => simp [stored] at isResult
  | some call =>
    refine ⟨call, rfl, ?_⟩
    cases isPhase : call.phase <;> simp [stored, RelayCall.results, isPhase] at isResult
    rw [isResult]

theorem Sound.delivers (sound : state.Sound) : state.Delivers := by
  refine ⟨?_, sound.returned.results, ?_, ?_, ?_, ?_, ?_⟩
  · intro index reply resolved
    obtain ⟨call, stored, isReturned⟩ := sound.returned.phase resolved
    exact ⟨call, stored, sound.returned.replied index call reply stored isReturned⟩
  · intro requestId pending found
    obtain ⟨call, stored, isFor, -, holds, -⟩ := sound.entered.entry requestId pending found
    exact ⟨call, stored, isFor, holds⟩
  · intro index call stored waiting
    constructor
    · rintro ⟨pending, found, rfl⟩
      obtain ⟨other, isOther, -, unanswered, -, apart⟩ := sound.entered.entry call.requestId pending found
      rw [stored, Option.some.injEq] at isOther
      subst isOther
      exact ⟨unanswered, apart⟩
    · exact fun free => sound.entered.waiting index call stored (.inr waiting) free.1 free.2
  · intro connectionId closed requestId pending found same
    rw [← same] at closed
    exact (sound.registered.pending requestId pending found).1 closed
  · intro requestId otherId pending other found isOther same
    obtain ⟨call, stored, isFor, -⟩ := sound.entered.entry requestId pending found
    obtain ⟨another, isAnother, isForOther, -⟩ := sound.entered.entry otherId other isOther
    have first := sound.numbered.channelIds pending.sender call stored
    have second := sound.numbered.channelIds other.sender another isAnother
    rw [isFor.channel] at first
    rw [isForOther.channel] at second
    have sender := sound.numbered.sender_eq found isOther (by omega)
    exact (sound.entered.sole found isOther sender).1
  · intro index call stored givenUp
    obtain ⟨channel, found, takesBack⟩ := sound.queued.takenBack index call stored givenUp
    obtain ⟨gatewayId, isIds⟩ := sound.registered.calls index call stored
    rw [List.getElem?_map, found, Option.map_some, Option.some.injEq] at isIds
    exact ⟨channel, found, congrArg Prod.snd isIds, takesBack⟩

end RelayHub

/-- In every run in which request ids are distinct, no caller is dropped while it waits to remove its entry, no call
stays pending while all channel ids are drawn again, and no call is taken back from a closed queue, replies reach the
right callers. -/
theorem replies_delivered {queueCapacity : ℕ} {state : RelayHub}
    (reachable : (hubMachine queueCapacity).Reachable RelayHub.Orderly state) : state.Delivers :=
  (RelayHub.sound_of_reachable reachable).delivers

/-! ## A call that times out -/

namespace RelayHub

instance decidableDistinct (state : RelayHub) : ∀ action, Decidable (state.Distinct action)
  | .invoke _ requestId _ _ => inferInstanceAs (Decidable (requestId ∉ state.calls.map RelayCall.requestId))
  | .register .. | .unregister .. | .disconnect .. | .notifyRuntimeConfig .. | .notifyApplicationFeedback .. | .post .. |
    .receive .. | .sendDelayed .. | .close .. | .send .. | .respond .. | .activityClosed .. | .giveUp .. | .drop .. |
    .removePending .. | .queueCancel .. | .complete .. | .deliver .. | .recordInvocationActivity .. => .isTrue trivial

instance decidablePatient (state : RelayHub) : ∀ action, Decidable (state.Patient action)
  | .drop index => decidableForallSome state.calls[index]?
  | .register .. | .unregister .. | .disconnect .. | .notifyRuntimeConfig .. | .notifyApplicationFeedback .. | .post .. |
    .receive .. | .sendDelayed .. | .close .. | .invoke .. | .send .. | .respond .. | .activityClosed .. | .giveUp .. |
    .removePending .. | .queueCancel .. | .complete .. | .deliver .. | .recordInvocationActivity .. => .isTrue trivial

instance decidablePrompt (state : RelayHub) : ∀ action, Decidable (state.Prompt action)
  | .invoke .. => decidableForallLookup state.inner.pending
  | .register .. | .unregister .. | .disconnect .. | .notifyRuntimeConfig .. | .notifyApplicationFeedback .. | .post .. |
    .receive .. | .sendDelayed .. | .close .. | .send .. | .respond .. | .activityClosed .. | .giveUp .. | .drop .. |
    .removePending .. | .queueCancel .. | .complete .. | .deliver .. | .recordInvocationActivity .. => .isTrue trivial

instance decidableReceived (state : RelayHub) : ∀ action, Decidable (state.Received action)
  | .queueCancel index _ => decidableForallSome state.calls[index]?
  | .sendDelayed index _ => decidableForallSome state.channels[index]?
  | .register .. | .unregister .. | .disconnect .. | .notifyRuntimeConfig .. | .notifyApplicationFeedback .. | .post .. |
    .receive .. | .close .. | .invoke .. | .send .. | .respond .. | .activityClosed .. | .giveUp .. | .drop .. |
    .removePending .. | .complete .. | .deliver .. | .recordInvocationActivity .. => .isTrue trivial

instance decidableOrderly (state : RelayHub) (action : HubAction) : Decidable (state.Orderly action) :=
  instDecidableAnd

end RelayHub

def townSocket : Uuid := ⟨"0190f2c4-7b1e-7c3a-9d52-1f6a0e8b4d01", by decide⟩
def townSession : Uuid := ⟨"0190f2c4-7b1e-7c3a-9d52-1f6a0e8b4d02", by decide⟩
def firstRequest : Uuid := ⟨"0190f2c4-7b1e-7c3a-9d52-1f6a0e8b4d03", by decide⟩
def secondRequest : Uuid := ⟨"0190f2c4-7b1e-7c3a-9d52-1f6a0e8b4d04", by decide⟩

def townRoute : EndpointRoute where
  endpointId := townSession
  profileId := townSession
  bindingId := townSession
  gatewayId := "town"
  agentId := "guide"
  bindingConfig := .object []

def askGuide (requestId : Uuid) (call : ℕ) : List HubAction :=
  [.invoke townRoute requestId (.string "Where is the inn?") 30000, .send call 0]

/-- The first of two calls is answered, the second one times out. -/
theorem replies_delivered_town :
    ∃ state : RelayHub, (state.resultsOf 0 = [.ok (.string "At the end of the road.")] ∧ state.resultsOf 1 = [.error .timeout]) ∧ state.Delivers := by
  obtain ⟨state, reachable, results⟩ := Machine.reachable_of_execute (hubMachine 16) RelayHub.Orderly rfl
    ([.register "town" townSocket townSession false false] ++ askGuide firstRequest 0 ++ askGuide secondRequest 1 ++
      [.complete townSocket firstRequest 1 (.ok (.string "At the end of the road.")), .deliver 0, .respond 0,
        .giveUp 1 true, .removePending 1, .queueCancel 1 0])
    (fun state : RelayHub => decide (state.resultsOf 0 = [.ok (.string "At the end of the road.")] ∧
      state.resultsOf 1 = [.error .timeout])) (by decide +kernel)
  exact ⟨state, of_decide_eq_true results, replies_delivered reachable⟩

/-- A caller that is dropped while it waits to remove its entry leaves the entry behind, and its call is not taken
back. -/
theorem dropped_abort_leaks : ∃ state, (hubMachine 16).Reachable RelayHub.Distinct state ∧
      (∃ pending call, state.inner.pending.lookup firstRequest = some pending ∧
        state.calls[pending.sender]? = some call ∧ call.phase = .gone ∧
        ∀ channel ∈ state.channels, call.cancel ∉ channel.sent ∧ call.cancel ∉ channel.delayed) ∧
      ¬state.Delivers := by
  obtain ⟨state, reachable, leaks⟩ := Machine.reachable_of_execute (hubMachine 16) RelayHub.Distinct rfl
    ([.register "town" townSocket townSession false false] ++ askGuide firstRequest 0 ++ [.giveUp 0 true, .drop 0])
    (fun state : RelayHub => (state.inner.pending.lookup firstRequest).any fun pending : PendingCall =>
      state.calls[pending.sender]?.any fun call : RelayCall => decide (call.phase = .gone ∧
        ∀ channel ∈ state.channels, call.cancel ∉ channel.sent ∧ call.cancel ∉ channel.delayed)) (by decide +kernel)
  obtain ⟨pending, found, leaks⟩ := (Option.any_eq_true _ _).mp leaks
  obtain ⟨call, stored, leaks⟩ := (Option.any_eq_true _ _).mp leaks
  obtain ⟨isGone, missing⟩ := of_decide_eq_true leaks
  refine ⟨state, reachable, ⟨pending, call, found, stored, isGone, missing⟩, ?_⟩
  intro delivers
  obtain ⟨other, isOther, -, holds⟩ := delivers.entry firstRequest pending found
  rw [stored, Option.some.injEq] at isOther
  subst isOther
  simp [RelayCall.unsettled, isGone] at holds

end Vifu.Server
