import Vifu.Gateway.Relay.Shutdown

/-!
# The one end of an invocation

A task reports the end of its invocation, and the loop reports a cancellation.  An invocation may have
both ends, or none, when the loop cancels a task that is already past its provider, or when the
connection ends before the task does.
-/

namespace Vifu.Gateway

open Foundation
open Vifu.Runtime hiding validateIdentifier

variable {floats : FloatText} {parser : JsonParser} {sessionId : Uuid} {index : ℕ}

/-! ## Orderly runs -/

namespace Call

/-- A cancellation is the only end that the call can have from here. -/
def endsCancelled (call : Call) : Bool :=
  match call.kind, call.phase with
  | .serving, .calling => true
  | .serving, _ => call.cancelled
  | _, .replying _ => true
  | _, _ => false

def endsAlone (outcome : Outcome) (call : Call) : Bool :=
  match call.phase with
  | .calling => call.cancelled
  | .replying _ | .awaiting _ => false
  | .reporting _ _ => outcome == .failed || call.kind == .serving
  | .uploading | .finished | .aborted => true

def isReporting (call : Call) : Bool :=
  match call.phase with
  | .reporting _ _ => true
  | _ => false

end Call

namespace Connection

variable (state : Connection)

/-- An invocation gets its own reply only, and a cancellation comes before the provider returns. -/
def Ordinary : LoopEvent → Prop
  | .incoming (.ok (.invoke requestId _)) _ =>
    if (state.calls.lookup requestId).isSome then outboundQueueCapacity ≤ state.queue.length
    else state.admits = true ∨ state.queue.length < outboundQueueCapacity
  | .incoming (.ok (.cancel requestId _)) _ =>
    ∀ index, state.calls.lookup requestId = some index →
      ∀ call, state.all[index]? = some call → call.endsCancelled = true
  | _ => True

/-- The connection ends while no call has its end before it. -/
def EndsAlone (outcome : Outcome) : Prop :=
  (∀ call ∈ state.all, call.endsAlone outcome = true) ∧ ∀ message ∈ state.queue, message.command.isReply = false

end Connection

def Orderly (floats : FloatText) (parser : JsonParser) (sessionId : Uuid) (state : Connection) :
    ConnectionAction → Prop
  | .loop event => state.Ordinary event ∧
      ∀ outcome, state.ends floats parser sessionId event = some outcome → state.EndsAlone outcome
  | .close => ∀ call ∈ state.all, call.isReporting = false
  | .accept | .refuse | .activity _ | .complete _ _ | .stop _ | .enqueue _ | .undelivered _ | .report _
  | .finish _ => True

namespace Connection

instance decidableOrdinary (state : Connection) : ∀ event, Decidable (state.Ordinary event)
  | .incoming (.ok (.invoke _ _)) _ => inferInstanceAs (Decidable (ite _ _ _))
  | .incoming (.ok (.cancel _ _)) _ => inferInstanceAs (Decidable (∀ index, _ = some index → ∀ call, _ = some call → _))
  | .shutdown | .expiry _ | .outbound _ | .telemetry _ | .incoming (.error _) _ => .isTrue trivial
  | .incoming (.ok (.challenge _ _ _)) _ | .incoming (.ok (.hello _)) _ | .incoming (.ok (.welcome _)) _
  | .incoming (.ok (.pairingRequired _)) _ | .incoming (.ok (.result _ _ _)) _ | .incoming (.ok (.error _ _ _ _)) _
  | .incoming (.ok .invocationActivityReady) _ | .incoming (.ok (.invocationActivity _ _)) _
  | .incoming (.ok (.heartbeat _)) _ | .incoming (.ok (.heartbeatAck _)) _ | .incoming (.ok (.runtimeConfigChanged _)) _
  | .incoming (.ok .runtimeMonitoringReady) _ | .incoming (.ok .runtimeHostMetricsReady) _
  | .incoming (.ok (.runtimeTelemetry _)) _ | .incoming (.ok (.applicationFeedback _)) _ => .isTrue trivial

instance decidableEndsAlone (state : Connection) (outcome : Outcome) : Decidable (state.EndsAlone outcome) :=
  inferInstanceAs (Decidable (_ ∧ _))

end Connection

instance decidableOrderly (floats : FloatText) (parser : JsonParser) (sessionId : Uuid) (state : Connection) :
    ∀ action, Decidable (Orderly floats parser sessionId state action)
  | .loop event => inferInstanceAs (Decidable (state.Ordinary event ∧ ∀ outcome, _ = some outcome → _))
  | .close => inferInstanceAs (Decidable (∀ call ∈ state.all, call.isReporting = false))
  | .accept | .refuse | .activity _ | .complete _ _ | .stop _ | .enqueue _ | .undelivered _ | .report _
  | .finish _ => .isTrue trivial

/-- The end that was observed of a call goes with its replies, those in the queue included. -/
def Settled (call : Call) (replies : List Outbound) : Prop :=
  (∃ terminal error, call.observed = [.started, .finished terminal error] ∧
    call.replies.length + replies.length = 1) ∨
  (call.observed = [.started, .cancelled] ∧ call.replies = [] ∧ replies = [])

/-- What was observed of a call and what replies it has, by how far its task has come. -/
def Ledger (call : Call) (replies : List Outbound) : Prop :=
  match call.phase with
  | .calling =>
    call.observed = (if call.cancelled then [.started, .cancelled] else [.started]) ∧ call.replies = [] ∧ replies = []
  | .replying reply =>
    reply.command.isReply = true ∧ call.observed = [.started] ∧ call.replies = [] ∧ replies = []
  | .awaiting _ =>
    call.observed = [.started] ∧ call.replies = [] ∧ ∃ message, message.tracked = true ∧ replies = [message]
  | .reporting _ _ => call.observed = [.started] ∧ call.replies.length = 1 ∧ replies = []
  | .uploading | .finished | .aborted => Settled call replies

namespace Connection

def repliesOf (state : Connection) (index : ℕ) : List Outbound :=
  state.queue.filter fun message => message.call == index && message.command.isReply

/-- The ledger of every call is right.  After the loop no reply is left to be made or written. -/
structure Accounted (state : Connection) : Prop where
  ledger : ∀ index call, state.all[index]? = some call → Ledger call (state.repliesOf index)
  tracked : ∀ message ∈ state.queue, message.tracked = true → message.command.isReply = true
  inside : ∀ message ∈ state.queue, message.call < state.all.length
  ended : state.stage ≠ .connecting → state.stage ≠ .looping → (∀ call ∈ state.all, call.endsAlone .failed = true) ∧
    ∀ message ∈ state.queue, message.command.isReply = false

variable {message : Outbound}

section

variable {state next : Connection}

theorem repliesOf_nil (outside : ∀ message ∈ state.queue, message.call < state.all.length)
    (fresh : state.all.length ≤ index) : state.repliesOf index = [] := by
  rw [repliesOf, List.filter_eq_nil_iff]
  intro message mem
  have inside := outside message mem
  simp only [Bool.and_eq_true, beq_iff_eq, not_and]
  omega

theorem repliesOf_none (none : ∀ message ∈ state.queue, message.command.isReply = false) :
    state.repliesOf index = [] := by
  rw [repliesOf, List.filter_eq_nil_iff]
  intro message mem
  simp [none message mem]

end

end Connection

/-! ## Calls -/

section

variable {call : Call} {replies : List Outbound}

theorem PendingReply.observation_finished (reply : PendingReply) (delivered : Bool) :
    ∃ terminal error, reply.observation delivered = .finished terminal error := by
  rw [PendingReply.observation]
  split
  · exact ⟨_, _, rfl⟩
  · exact ⟨_, _, rfl⟩

theorem Call.resolve_plain (written : Bool) (untracked : message.tracked = false)
    (plain : message.command.isReply = false) : call.resolve message written = call := by
  have same : call.phase.resolve message.tracked written = call.phase := by
    cases isPhase : call.phase <;> simp [CallPhase.resolve, untracked]
  simp only [Call.resolve, same, plain, Bool.and_false, Bool.false_eq_true, if_false]

theorem Ledger.resolve (ledger : Ledger call (message :: replies))
    (isReply : message.command.isReply = true) : Ledger (call.resolve message true) replies := by
  simp only [Ledger, Call.resolve, isReply, Bool.and_self, if_true]
  cases isPhase : call.phase with
  | calling | replying | reporting =>
    simp [Ledger, isPhase] at ledger
  | awaiting reply =>
    simp only [Ledger, isPhase] at ledger
    obtain ⟨observed, written, other, isTracked, same⟩ := ledger
    cases same
    simp [CallPhase.resolve, isTracked, observed, written]
  | uploading | finished | aborted =>
    simp only [Ledger, isPhase, Settled] at ledger
    cases ledger with
    | inl finishes =>
      obtain ⟨terminal, error, observed, total⟩ := finishes
      refine .inl ⟨terminal, error, observed, ?_⟩
      simp only [List.length_cons, List.length_append, List.length_nil] at total ⊢
      omega
    | inr cancelled =>
      obtain ⟨-, -, none⟩ := cancelled
      cases none

theorem Ledger.abort (ledger : Ledger call replies) (ends : call.endsAlone .failed = true)
    (reported : call.isReporting = false) : Ledger call.abort replies := by
  rw [Call.abort]
  split
  · exact ledger
  · cases isPhase : call.phase with
    | calling =>
      have isCancelled : call.cancelled = true := by simpa [Call.endsAlone, isPhase] using ends
      simp only [Ledger, isPhase, isCancelled, if_true] at ledger
      exact .inr ledger
    | replying reply => simp [Call.endsAlone, isPhase] at ends
    | awaiting reply => simp [Call.endsAlone, isPhase] at ends
    | reporting reply delivered => simp [Call.isReporting, isPhase] at reported
    | uploading | finished | aborted =>
      simp only [Ledger, isPhase] at ledger
      exact ledger

end

/-! ## Steps -/

namespace Connection

variable {state next : Connection}

theorem repliesOf_of_queue (queue : next.queue = state.queue) (index : ℕ) :
    next.repliesOf index = state.repliesOf index := by rw [repliesOf, repliesOf, queue]

theorem Accounted.set (accounted : Accounted state) {call changed : Call}
    (stored : state.all[index]? = some call) (stage : next.stage = state.stage)
    (all : next.all = state.all.set index changed) (queue : next.queue = state.queue)
    (ledger : Ledger call (state.repliesOf index) → Ledger changed (state.repliesOf index))
    (ends : call.endsAlone .failed = true → changed.endsAlone .failed = true) : Accounted next := by
  refine ⟨?_, ?_, ?_, ?_⟩
  · intro other found isFound
    rw [repliesOf_of_queue queue]
    rw [all, List.getElem?_set] at isFound
    split at isFound
    · next same =>
      subst same
      split at isFound
      · cases isFound
        exact ledger (accounted.ledger index call stored)
      · cases isFound
    · exact accounted.ledger other found isFound
  · rw [queue]
    exact accounted.tracked
  · rw [queue, all, List.length_set]
    exact accounted.inside
  · rw [stage, queue, all]
    intro notConnecting notLooping
    obtain ⟨alone, none⟩ := accounted.ended notConnecting notLooping
    refine ⟨?_, none⟩
    intro other mem
    cases List.mem_or_eq_of_mem_set mem with
    | inl earlier => exact alone other earlier
    | inr same =>
      rw [same]
      exact ends (alone call (List.mem_of_getElem? stored))

theorem Accounted.of_same (accounted : Accounted state) (stage : next.stage = state.stage) (all : next.all = state.all)
    (queue : next.queue = state.queue) : Accounted next := by
  refine ⟨?_, ?_, ?_, ?_⟩
  · intro index
    rw [repliesOf_of_queue queue, all]
    exact accounted.ledger index
  · rw [queue]
    exact accounted.tracked
  · rw [queue, all]
    exact accounted.inside
  · rw [stage, all, queue]
    exact accounted.ended

theorem Accounted.trySend (accounted : Accounted state) (inside : message.call < state.all.length)
    (plain : message.command.isReply = false) (untracked : message.tracked = false) :
    Accounted (state.trySend message) := by
  rw [Connection.trySend]
  split
  · have queued {Holds : Outbound → Prop} (before : ∀ other ∈ state.queue, Holds other) (added : Holds message) :
        ∀ other ∈ state.queue ++ [message], Holds other := by
      intro other mem
      rw [List.mem_append, List.mem_singleton] at mem
      cases mem with
      | inl earlier => exact before other earlier
      | inr same =>
        rw [same]
        exact added
    refine ⟨?_, ?_, ?_, ?_⟩
    · intro index call stored
      have same : state.repliesOf index = (state.queue ++ [message]).filter
          (fun message => message.call == index && message.command.isReply) := by simp [repliesOf, plain]
      rw [repliesOf, ← same]
      exact accounted.ledger index call stored
    · apply queued accounted.tracked
      intro isTracked
      rw [untracked] at isTracked
      cases isTracked
    · exact queued accounted.inside inside
    · intro notConnecting notLooping
      obtain ⟨alone, none⟩ := accounted.ended notConnecting notLooping
      exact ⟨alone, queued none plain⟩
  · exact accounted

variable {call : Call} {outcome : Outcome} {action : ConnectionAction} {event : LoopEvent}

section

variable (accounted : Accounted state)
include accounted

theorem Accounted.append {added : List Outbound}
    (looping : next.stage = .looping) (all : next.all = state.all ++ [call]) (queue : next.queue = state.queue ++ added)
    (own : ∀ message ∈ added, message.call = state.all.length ∧ message.tracked = false ∧
      message.command.isReply = true) (ledger : Ledger call added) : Accounted next := by
  refine ⟨?_, ?_, ?_, ?_⟩
  · intro index found isFound
    have parts : next.repliesOf index = state.repliesOf index ++
        added.filter (fun message => message.call == index && message.command.isReply) := by
      rw [repliesOf, queue, List.filter_append, repliesOf]
    rw [parts]
    rw [all, List.getElem?_append] at isFound
    split at isFound
    · next inside =>
      have others : added.filter (fun message => message.call == index && message.command.isReply) = [] := by
        rw [List.filter_eq_nil_iff]
        intro message mem
        have place := (own message mem).1
        simp only [Bool.and_eq_true, beq_iff_eq, not_and]
        omega
      rw [others, List.append_nil]
      exact accounted.ledger index found isFound
    · next outside =>
      rw [List.getElem?_singleton] at isFound
      split at isFound
      · next isLast =>
        cases isFound
        have place : index = state.all.length := by omega
        have mine : added.filter (fun message => message.call == index && message.command.isReply) = added := by
          rw [List.filter_eq_self]
          intro message mem
          simp [place, own message mem]
        rw [mine, repliesOf_nil accounted.inside (by omega)]
        exact ledger
      · cases isFound
  · intro message mem
    rw [queue, List.mem_append] at mem
    cases mem with
    | inl earlier => exact accounted.tracked message earlier
    | inr fresh =>
      intro _
      exact (own message fresh).2.2
  · intro message mem
    rw [all, List.length_append, List.length_singleton]
    rw [queue, List.mem_append] at mem
    cases mem with
    | inl earlier =>
      have inside := accounted.inside message earlier
      omega
    | inr fresh =>
      have place := (own message fresh).1
      omega
  · intro _ notLooping
    exact absurd looping notLooping

theorem Accounted.untracked (mem : message ∈ state.queue)
    (plain : message.command.isReply = false) : message.tracked = false := by
  by_contra isTracked
  rw [accounted.tracked message mem (by simpa using isTracked)] at plain
  cases plain

theorem Accounted.written (looping : state.stage = .looping)
    {queue : List Outbound} (isQueue : state.queue = message :: queue) :
    Accounted { state with all := state.all.modify message.call (Call.resolve message true), queue } := by
  have isFirst : message ∈ state.queue := by
    rw [isQueue]
    exact List.mem_cons_self
  refine ⟨?_, ?_, ?_, ?_⟩
  · intro index found isFound
    have place : (state.all.modify message.call (Call.resolve message true))[index]? = some found := isFound
    rw [List.getElem?_modify] at place
    obtain ⟨call, stored, rfl⟩ := Option.map_eq_some_iff.mp place
    have ledger := accounted.ledger index call stored
    rw [repliesOf, isQueue, List.filter_cons] at ledger
    split
    · next isCall =>
      cases isReply : message.command.isReply with
      | true =>
        simp only [isCall, BEq.rfl, isReply, Bool.and_self, if_true] at ledger
        exact ledger.resolve isReply
      | false =>
        simp only [isReply, Bool.and_false, Bool.false_eq_true, if_false] at ledger
        rw [Call.resolve_plain true (accounted.untracked isFirst isReply) isReply]
        exact ledger
    · next other =>
      simp only [beq_eq_false_iff_ne.mpr other, Bool.false_and, Bool.false_eq_true, if_false] at ledger
      exact ledger
  · intro other mem
    exact accounted.tracked other (by simp [isQueue, mem])
  · intro other mem
    rw [List.length_modify]
    exact accounted.inside other (by simp [isQueue, mem])
  · intro _ notLooping
    exact absurd looping notLooping

theorem Accounted.handled (looping : state.stage = .looping)
    {handled : Connection} (effect : Handled floats parser state event handled) (ordinary : state.Ordinary event)
    (goesOn : state.ends floats parser sessionId event = none) : Accounted handled := by
  cases effect with
  | idle => exact accounted
  | written message queue sent isQueue =>
    have written : writes floats parser message.command sent = true := by
      by_contra unwritten
      simp [Connection.ends, isQueue, unwritten] at goesOn
    rw [written]
    exact accounted.written looping isQueue
  | duplicate requestId invoke arrival index running =>
    have full : outboundQueueCapacity ≤ state.queue.length := by simpa [Ordinary, running] using ordinary
    rw [Connection.trySend, if_neg (by omega)]
    exact accounted
  | spawned requestId invoke arrival fresh admitted =>
    obtain ⟨kind, phase, same, isCase⟩ := state.accepted_cases requestId invoke.channelId arrival.provider
    rw [same]
    refine accounted.append looping rfl (List.append_nil _).symm ?_ ?_
    · intro message mem
      cases mem
    rcases isCase with ⟨rfl, rfl⟩ | ⟨rfl, rfl⟩ | ⟨rfl, rfl⟩
    · exact ⟨rfl, rfl, rfl⟩
    · exact ⟨rfl, rfl, rfl, rfl⟩
    · exact ⟨rfl, rfl, rfl, rfl⟩
  | shed requestId invoke arrival fresh refused =>
    have room : state.queue.length < outboundQueueCapacity := by simpa [Ordinary, fresh, refused] using ordinary
    simp only [Connection.shed, Connection.trySend, room, if_true]
    refine accounted.append looping rfl rfl ?_ ?_
    · intro message mem
      rw [List.mem_singleton.mp mem]
      exact ⟨rfl, rfl, rfl⟩
    · exact .inl ⟨_, _, rfl, rfl⟩
  | cancelled requestId channelId arrival index call running stored serving live =>
    have ends := ordinary index running call stored
    have calling : call.phase = .calling := by
      cases isPhase : call.phase <;> simp [Call.endsCancelled, serving, isPhase, live] at ends ⊢
    refine accounted.set stored rfl rfl rfl ?_ ?_
    · intro ledger
      simp only [Ledger, calling, live] at ledger
      simp [Ledger, Call.observe, calling, ledger]
    · intro alone
      simp [Call.endsAlone, calling, live] at alone
  | aborted requestId channelId arrival index call running stored serving =>
    have ends := ordinary index running call stored
    have replying : ∃ reply, call.phase = .replying reply := by
      cases isKind : call.kind <;> cases isPhase : call.phase <;>
        simp [Call.endsCancelled, isKind, isPhase] at ends serving ⊢
    obtain ⟨reply, isPhase⟩ := replying
    refine accounted.set stored rfl rfl rfl ?_ ?_
    · intro ledger
      simp only [Ledger, isPhase] at ledger
      simp [Ledger, Settled, Call.abort, Call.observe, CallPhase.over, isPhase, ledger]
    · intro alone
      simp [Call.endsAlone, isPhase] at alone
  | ready => exact accounted.of_same rfl rfl rfl

end

theorem providerReply_isReply (requestId : Uuid) (channelId : ℕ) (result : ProviderResult) :
    (providerReply requestId channelId result).command.isReply = true := by
  cases result <;> rfl

section

variable (accounted : Accounted state)
include accounted

theorem Accounted.receives (mem : call ∈ state.all)
    (waits : call.endsAlone .failed = false) : state.stage = .connecting ∨ state.stage = .looping := by
  by_contra neither
  rw [not_or] at neither
  rw [(accounted.ended neither.1 neither.2).1 call mem] at waits
  cases waits

theorem Accounted.enqueue {reply : PendingReply}
    (stored : state.all[index]? = some call) (replying : call.phase = .replying reply) : Accounted { state with
      all := state.all.set index { call with phase := .awaiting reply }
      queue := state.queue ++ [{ command := reply.command, call := index, tracked := true }] } := by
  have inside : index < state.all.length := (List.getElem?_eq_some_iff.mp stored).1
  have ledger := accounted.ledger index call stored
  simp only [Ledger, replying] at ledger
  obtain ⟨isReply, observed, written, none⟩ := ledger
  let queued : Outbound := { command := reply.command, call := index, tracked := true }
  have parts (other : ℕ) : (state.queue ++ [queued]).filter
      (fun message => message.call == other && message.command.isReply) =
        state.repliesOf other ++ if index = other then [queued] else [] := by
    simp only [List.filter_append, repliesOf, List.filter_cons, queued, isReply, Bool.and_true, beq_iff_eq,
      List.filter_nil]
  refine ⟨?_, ?_, ?_, ?_⟩
  · intro other found isFound
    rw [repliesOf, parts]
    rw [List.getElem?_set] at isFound
    split at isFound
    · next same =>
      subst same
      cases isFound
      simp only [if_true, none, List.nil_append]
      exact ⟨observed, written, _, rfl, rfl⟩
    · next different =>
      simp only [different, if_false, List.append_nil]
      exact accounted.ledger other found isFound
  · intro message mem
    rw [List.mem_append, List.mem_singleton] at mem
    cases mem with
    | inl earlier => exact accounted.tracked message earlier
    | inr same =>
      rw [same]
      exact fun _ => isReply
  · intro message mem
    rw [List.length_set]
    rw [List.mem_append, List.mem_singleton] at mem
    cases mem with
    | inl earlier => exact accounted.inside message earlier
    | inr same =>
      rw [same]
      exact inside
  · intro notConnecting notLooping
    have waits : call.endsAlone .failed = false := by simp [Call.endsAlone, replying]
    cases accounted.receives (List.mem_of_getElem? stored) waits with
    | inl connecting => exact absurd connecting notConnecting
    | inr looping => exact absurd looping notLooping

theorem Accounted.task (taken : TaskStep state action next) : Accounted next := by
  cases taken with
  | activity index call stored =>
    exact accounted.trySend (List.getElem?_eq_some_iff.mp stored).1 rfl rfl
  | complete index call result stored calling live =>
    refine accounted.set stored rfl rfl rfl ?_ ?_
    · intro ledger
      simp only [Ledger, calling, live, Bool.false_eq_true, if_false] at ledger
      exact ⟨providerReply_isReply _ _ result, ledger⟩
    · intro alone
      simp [Call.endsAlone, calling, live] at alone
  | stop index call stored calling isCancelled =>
    refine accounted.set stored rfl rfl rfl ?_ fun _ => rfl
    intro ledger
    simp only [Ledger, calling, isCancelled, if_true] at ledger
    exact .inr ledger
  | enqueue index call reply stored replying receives => exact accounted.enqueue stored replying
  | lose _ index call reply stored pending gone =>
    have waits : call.endsAlone .failed = false := by
      cases pending with
      | inl replying => simp [Call.endsAlone, replying]
      | inr awaiting => simp [Call.endsAlone, awaiting]
    -- a reply is lost only after the return, when no call waits
    cases accounted.receives (List.mem_of_getElem? stored) waits with
    | inl stage | inr stage => simp [Connection.receives, stage] at gone
  | report index call reply delivered stored reporting =>
    refine accounted.set stored rfl rfl rfl ?_ fun _ => rfl
    intro ledger
    simp only [Ledger, reporting] at ledger
    obtain ⟨observed, written, none⟩ := ledger
    obtain ⟨terminal, error, finishes⟩ := PendingReply.observation_finished reply delivered
    refine .inl ⟨terminal, error, ?_, ?_⟩
    · simp [Call.observe, observed, finishes]
    · simp [Call.observe, written, none]
  | finish index call stored uploading =>
    refine accounted.set stored rfl rfl rfl ?_ fun _ => rfl
    intro ledger
    simp only [Ledger, uploading] at ledger
    exact ledger

theorem Accounted.leave
    (all : ∀ (index : ℕ) changed, next.all[index]? = some changed → ∃ call, state.all[index]? = some call ∧
      (Ledger call [] → Ledger changed [] ∧ changed.endsAlone .failed = true))
    (length : next.all.length = state.all.length) (none : ∀ message ∈ state.queue, message.command.isReply = false)
    (queue : ∀ message ∈ next.queue, message ∈ state.queue) : Accounted next := by
  have noneNext : ∀ message ∈ next.queue, message.command.isReply = false := by
    intro message mem
    exact none message (queue message mem)
  have changes {index : ℕ} {changed : Call} (isFound : next.all[index]? = some changed) :
      Ledger changed [] ∧ changed.endsAlone .failed = true := by
    obtain ⟨call, stored, change⟩ := all index changed isFound
    have ledger := accounted.ledger index call stored
    rw [repliesOf_none none] at ledger
    exact change ledger
  refine ⟨?_, ?_, ?_, ?_⟩
  · intro index changed isFound
    rw [repliesOf_none noneNext]
    exact (changes isFound).1
  · intro message mem
    exact accounted.tracked message (queue message mem)
  · intro message mem
    rw [length]
    exact accounted.inside message (queue message mem)
  · intro _ _
    refine ⟨?_, noneNext⟩
    intro changed mem
    obtain ⟨index, isFound⟩ := List.mem_iff_getElem?.mp mem
    exact (changes isFound).2

theorem Accounted.left
    (effect : Left state event outcome next) (alone : state.EndsAlone outcome) : Accounted next ∧ next.EndsAlone outcome := by
  cases effect with
  | idle => exact ⟨accounted, alone⟩
  | lost message queue sent isQueue =>
    have isFirst : message ∈ state.queue := by
      rw [isQueue]
      exact List.mem_cons_self
    have plain := alone.2 message isFirst
    have same : Call.resolve message false = id := by
      funext call
      exact Call.resolve_plain false (accounted.untracked isFirst plain) plain
    have isAll : state.all.modify message.call (Call.resolve message false) = state.all := by
      rw [same, List.modify_id]
    have rest : ∀ other ∈ queue, other ∈ state.queue := by
      intro other mem
      rw [isQueue]
      exact List.mem_cons_of_mem _ mem
    rw [isAll]
    refine ⟨⟨?_, ?_, ?_, ?_⟩, alone.1, fun other mem => alone.2 other (rest other mem)⟩
    · intro index call stored
      rw [repliesOf_none fun other mem => alone.2 other (rest other mem), ← repliesOf_none alone.2]
      exact accounted.ledger index call stored
    · exact fun other mem => accounted.tracked other (rest other mem)
    · exact fun other mem => accounted.inside other (rest other mem)
    · intro notConnecting notLooping
      obtain ⟨ends, none⟩ := accounted.ended notConnecting notLooping
      exact ⟨ends, fun other mem => none other (rest other mem)⟩

end

theorem endsAlone_failed (alone : call.endsAlone outcome = true) : call.endsAlone .failed = true := by
  cases isPhase : call.phase <;> simp [Call.endsAlone, isPhase] at alone ⊢
  exact alone

theorem endsAlone_abort (call : Call) (outcome : Outcome) : call.abort.endsAlone outcome = true := by
  rw [Call.abort]
  split
  · next isOver => cases isPhase : call.phase <;> simp [CallPhase.over, isPhase] at isOver <;> simp [Call.endsAlone, isPhase]
  · rfl

theorem Accounted.stopCalls (accounted : Accounted state) (normal : outcome ≠ .failed)
    (alone : state.EndsAlone outcome) :
    Accounted { state with stage := .closing outcome, all := state.stopCalls } := by
  refine accounted.leave ?_ ?_ alone.2 fun _ => id
  · intro index changed isFound
    have place : state.stopCalls[index]? = some changed := isFound
    rw [Connection.stopCalls, List.getElem?_mapIdx] at place
    obtain ⟨call, stored, rfl⟩ := Option.map_eq_some_iff.mp place
    have ends := alone.1 call (List.mem_of_getElem? stored)
    refine ⟨call, stored, ?_⟩
    intro ledger
    split
    · split
      · cases isPhase : call.phase <;> simp_all [Ledger, Call.endsAlone, Settled]
      · next serving =>
        have reported : call.isReporting = false := by
          cases isPhase : call.phase <;> simp_all [Call.endsAlone, Call.isReporting]
        exact ⟨ledger.abort (endsAlone_failed ends) reported, endsAlone_abort call .failed⟩
    · exact ⟨ledger, endsAlone_failed ends⟩
  · simp [Connection.stopCalls]

theorem Accounted.close (accounted : Accounted state) (closing : state.stage = .closing outcome)
    (reported : ∀ call ∈ state.all, call.isReporting = false) :
    Accounted { state with stage := .returned outcome, all := state.abortCalls, calls := ∅, queue := [] } := by
  obtain ⟨alone, none⟩ := accounted.ended (by simp [closing]) (by simp [closing])
  refine accounted.leave ?_ ?_ none ?_
  · intro index changed isFound
    have place : state.abortCalls[index]? = some changed := isFound
    rw [abortCalls, List.getElem?_mapIdx] at place
    obtain ⟨call, stored, rfl⟩ := Option.map_eq_some_iff.mp place
    have mem := List.mem_of_getElem? stored
    refine ⟨call, stored, ?_⟩
    intro ledger
    split
    · exact ⟨ledger.abort (alone call mem) (reported call mem), endsAlone_abort call .failed⟩
    · exact ⟨ledger, alone call mem⟩
  · simp [abortCalls]
  · intro message mem
    cases mem

theorem Accounted.step (accounted : Accounted state) (tracked : Tracked state)
    (taken : Step floats parser sessionId state action next) (orderly : Orderly floats parser sessionId state action) :
    Accounted next := by
  cases taken with
  | accept connecting =>
    refine ⟨accounted.ledger, accounted.tracked, accounted.inside, ?_⟩
    intro _ notLooping
    exact absurd rfl notLooping
  | refuse connecting =>
    have isEmpty := tracked.connecting connecting
    refine accounted.leave ?_ rfl ?_ fun _ => id
    · intro index call stored
      have isFound : state.all[index]? = some call := stored
      rw [isEmpty] at isFound
      cases isFound
    · intro message mem
      have inside := accounted.inside message mem
      simp [isEmpty] at inside
  | goOn event handled looping enabled effect goesOn =>
    have after := accounted.handled looping effect orderly.1 goesOn
    exact after.of_same rfl rfl rfl
  | leave event handled outcome looping enabled effect ends =>
    have alone := orderly.2 outcome ends
    obtain ⟨after, aloneAfter⟩ := accounted.left effect alone
    cases outcome with
    | failed =>
      refine after.leave ?_ rfl aloneAfter.2 ?_
      · intro index call stored
        exact ⟨call, stored, fun ledger => ⟨ledger, aloneAfter.1 call (List.mem_of_getElem? stored)⟩⟩
      · intro message mem
        cases mem
    | shutdown | disconnected => exact after.stopCalls (by decide) aloneAfter
  | task action target taken => exact accounted.task taken
  | close outcome closing => exact accounted.close closing orderly

theorem Accounted.new : Accounted new := by
  refine ⟨?_, ?_, ?_, ?_⟩
  · intro index call stored
    cases stored
  · intro message mem
    cases mem
  · intro message mem
    cases mem
  · intro notConnecting
    exact absurd rfl notConnecting

theorem accounted (reachable : (connectionMachine floats parser sessionId).Reachable
    (Orderly floats parser sessionId) state) : Tracked state ∧ Accounted state := by
  apply reachable.invariant
  · rintro _ rfl
    exact ⟨.new, .new⟩
  · intro _ _ _ holds orderly stepped
    exact ⟨holds.1.step (step_step stepped), holds.2.step holds.1 (step_step stepped) orderly⟩

end Connection

theorem Ledger.observed {replies : List Outbound} (ledger : Ledger call replies) :
    call.observed = [.started] ∨ (∃ terminal error, call.observed = [.started, .finished terminal error]) ∨
      (call.observed = [.started, .cancelled] ∧ call.replies = []) := by
  cases isPhase : call.phase with
  | calling =>
    simp only [Ledger, isPhase] at ledger
    cases isCancelled : call.cancelled <;> simp_all
  | replying reply =>
    simp only [Ledger, isPhase] at ledger
    exact .inl ledger.2.1
  | awaiting reply | reporting reply delivered =>
    simp only [Ledger, isPhase] at ledger
    exact .inl ledger.1
  | uploading | finished | aborted =>
    simp only [Ledger, isPhase] at ledger
    rcases ledger with ⟨terminal, error, observed, -⟩ | ⟨observed, none, -⟩
    · exact .inr (.inl ⟨terminal, error, observed⟩)
    · exact .inr (.inr ⟨observed, none⟩)

theorem Ledger.replies {replies : List Outbound} (ledger : Ledger call replies) : call.replies.length ≤ 1 := by
  cases isPhase : call.phase <;> simp only [Ledger, isPhase] at ledger
  case calling | awaiting => simp [ledger.2.1]
  case replying => simp [ledger.2.2.1]
  case reporting => exact ledger.2.1.le
  all_goals
    rcases ledger with ⟨_, _, -, total⟩ | ⟨-, none, -⟩
    · omega
    · simp [none]

theorem Ledger.settled {replies : List Outbound} (ledger : Ledger call replies)
    (isOver : call.phase.over = true) : Settled call replies := by
  cases isPhase : call.phase with
  | finished | aborted =>
    simp only [Ledger, isPhase] at ledger
    exact ledger
  | _ => simp [CallPhase.over, isPhase] at isOver

/-- In every state of an orderly run, what was observed of an invocation is its start and at most one
end, and at most one reply of it was written.  When its task is over and no reply of it is in the queue,
it has its one end: it finished with one reply, or it was cancelled without one. -/
theorem one_end_per_invocation (floats : FloatText) (parser : JsonParser) (sessionId : Uuid) :
    ∀ state, (connectionMachine floats parser sessionId).Reachable (Orderly floats parser sessionId) state →
      ∀ (index : ℕ) call, state.all[index]? = some call →
        (call.observed = [.started] ∨ (∃ terminal error, call.observed = [.started, .finished terminal error]) ∨
          (call.observed = [.started, .cancelled] ∧ call.replies = [])) ∧
        call.replies.length ≤ 1 ∧
        (call.phase.over = true → (∀ message ∈ state.queue, message.call = index → message.command.isReply = false) →
          (∃ terminal error, call.observed = [.started, .finished terminal error] ∧ call.replies.length = 1) ∨
          (call.observed = [.started, .cancelled] ∧ call.replies = [])) := by
  intro state reachable index call stored
  have ledger := (Connection.accounted reachable).2.ledger index call stored
  refine ⟨ledger.observed, ledger.replies, ?_⟩
  intro isOver written
  have none : state.repliesOf index = [] := by
    rw [Connection.repliesOf, List.filter_eq_nil_iff]
    intro message member
    simp only [Bool.and_eq_true, beq_iff_eq, not_and]
    intro isCall
    simp [written message member isCall]
  rcases ledger.settled isOver with ⟨terminal, error, observed, total⟩ | ⟨observed, unanswered, -⟩
  · refine .inl ⟨terminal, error, observed, ?_⟩
    rw [none] at total
    exact total
  · exact .inr ⟨observed, unanswered⟩

/-- A chat whose task is over. -/
theorem one_end_per_invocation_chat :
    ∃ state, townConnection.Reachable (Orderly (fun _ => "0.5") emptyObjectParser exampleId) state ∧
      ∃ call, state.all[0]? = some call ∧ ((∃ terminal error, call.observed = [.started, .finished terminal error] ∧
        call.replies.length = 1) ∨ (call.observed = [.started, .cancelled] ∧ call.replies = [])) := by
  obtain ⟨state, reachable, finishes⟩ := Machine.reachable_of_execute townConnection
    (Orderly (fun _ => "0.5") emptyObjectParser exampleId) rfl
    [.accept, townReceives (.invoke exampleId townInvoke), .complete 0 (.ok (.string "At the end of the road.")),
      .enqueue 0, .loop (.outbound true), .report 0, .finish 0]
    (fun state => decide (state.queue = [] ∧ (state.all[0]?.any fun call => call.phase.over) = true)) (by decide +kernel)
  obtain ⟨isEmpty, isOver⟩ := of_decide_eq_true finishes
  obtain ⟨call, stored, isOver⟩ := (Option.any_eq_true _ _).mp isOver
  have ends := (one_end_per_invocation (fun _ => "0.5") emptyObjectParser exampleId state reachable 0 call stored).2.2
  refine ⟨state, reachable, call, stored, ends isOver ?_⟩
  intro message member
  rw [isEmpty] at member
  cases member

/-- The server cancels an invocation whose result it has been sent. -/
theorem late_cancellation_observed :
    ∃ state, townConnection.Reachable Machine.always state ∧ ∃ call ∈ state.all,
      call.observed = [.started, .finished .delivered none, .cancelled] ∧ call.replies.length = 1 := by
  obtain ⟨state, reachable, ends⟩ := Machine.reachable_of_execute townConnection Machine.always rfl
    [.accept, townReceives (.invoke exampleId townInvoke), .complete 0 (.ok (.string "At the end of the road.")),
      .enqueue 0, .loop (.outbound true), .report 0, townReceives (.cancel exampleId 7)]
    (fun state => decide (∃ call ∈ state.all,
      call.observed = [.started, .finished .delivered none, .cancelled] ∧ call.replies.length = 1)) (by decide +kernel)
  exact ⟨state, reachable, of_decide_eq_true ends⟩

end Vifu.Gateway
