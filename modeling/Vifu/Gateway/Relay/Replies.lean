import Vifu.Gateway.Relay.Connection

/-!
# Replies that take the connection down

A task builds its reply, and the loop checks it when it writes it.  Every text of an error is cut to
size when the reply is built.  An output is not, so that one that is too large ends the loop.
-/

namespace Vifu.Gateway

open Foundation
open Vifu.Runtime hiding validateIdentifier

variable {floats : FloatText} {parser : JsonParser} {sessionId : Uuid} {message : Outbound} {queue : List Outbound}
  {channelId : ℕ} {Allowed : ConnectionAction → Prop} {result : ProviderResult} {index : ℕ} {call : Call}
  {code : String}

def OutcomeFits (floats : FloatText) : ProviderResult → Prop
  | .ok output => output.encodedSize floats ≤ maxInvocationBodyBytes
  | .error _ => True

instance decidableOutcomeFits (floats : FloatText) : ∀ result, Decidable (OutcomeFits floats result)
  | .ok output => inferInstanceAs (Decidable (output.encodedSize floats ≤ maxInvocationBodyBytes))
  | .error _ => .isTrue trivial

def Addressed (channelId : ℕ) : Prop := channelId ≠ 0 ∧ channelId ≤ u64Max

theorem agentGatewayError_valid (requestId : Uuid) (message : String)
    (named : channelId ≠ 0) (isCode : ErrorCode code) :
    ValidCommand floats parser (agentGatewayError requestId channelId code message) := by
  refine ⟨rfl, ?_, isCode, sanitizeError_text message⟩
  intro id mem
  cases mem
  exact named

theorem providerReply_valid (requestId : Uuid) (named : channelId ≠ 0) (result : ProviderResult) :
    ValidCommand floats parser (providerReply requestId channelId result).command ↔ OutcomeFits floats result := by
  cases result with
  | ok output =>
    constructor
    · intro valid
      exact valid.2
    · intro fits
      exact ⟨named, fits⟩
  | error error =>
    have valid : ValidCommand floats parser (providerReply requestId channelId (.error error)).command :=
      agentGatewayError_valid requestId error.message named (by decide)
    simp only [valid, OutcomeFits]

/-! ## What the queue carries -/

/-- The values that come in are held as the program holds them. -/
def LoopEvent.Held : LoopEvent → Prop
  | .incoming (.ok command) _ => command.Held
  | .shutdown | .expiry _ | .outbound _ | .telemetry _ | .incoming (.error _) _ => True

def ConnectionAction.Held : ConnectionAction → Prop
  | .loop event => event.Held
  | .complete _ (.ok output) => output.WellFormed
  | .accept | .refuse | .activity _ | .complete _ (.error _) | .stop _ | .enqueue _ | .undelivered _ | .report _
  | .finish _ | .close => True

namespace Connection

variable {Writes : AgentGatewayCommand → Prop} {state next : Connection}

/-- Every call has a channel, and what its task or the queue holds satisfies `Writes`. -/
structure Carries (Writes : AgentGatewayCommand → Prop) (state : Connection) : Prop where
  addressed : ∀ call ∈ state.all, Addressed call.channelId
  pending : ∀ call ∈ state.all, ∀ reply, call.phase = .replying reply → Writes reply.command
  queue : ∀ message ∈ state.queue, Writes message.command

/-- The commands that the relay makes of texts of its own. -/
structure Admits (Writes : AgentGatewayCommand → Prop) : Prop where
  activity : ∀ requestId channelId, Addressed channelId → Writes (.invocationActivity requestId channelId)
  error : ∀ requestId channelId code message, Addressed channelId → ErrorCode code → Text 1 2048 message →
    Writes (.error (some requestId) (some channelId) code message)

theorem Carries.new : Carries Writes new := by
  constructor <;> intro _ mem <;> cases mem

theorem Carries.trySend (carries : Carries Writes state) (writes : Writes message.command) :
    Carries Writes (state.trySend message) := by
  rw [Connection.trySend]
  split
  · refine ⟨carries.addressed, carries.pending, ?_⟩
    intro other mem
    cases List.mem_append.mp mem with
    | inl queued => exact carries.queue other queued
    | inr added =>
      rw [List.mem_singleton.mp added]
      exact writes
  · exact carries

/-- A call keeps its channel, and has a reply only if it had it before or the reply may be written. -/
structure Revises (Writes : AgentGatewayCommand → Prop) (call changed : Call) : Prop where
  channelId : changed.channelId = call.channelId
  reply : ∀ reply, changed.phase = .replying reply → call.phase = .replying reply ∨ Writes reply.command

theorem Revises.refl (call : Call) : Revises Writes call call := ⟨rfl, fun _ => .inl⟩

theorem Revises.abort (call : Call) : Revises Writes call call.abort := by
  rw [Call.abort]
  split
  · exact .refl call
  · refine ⟨rfl, ?_⟩
    intro reply replying
    cases replying

theorem Revises.resolve (message : Outbound) (written : Bool) (call : Call) :
    Revises Writes call (call.resolve message written) := by
  refine ⟨rfl, ?_⟩
  intro reply replying
  simp only [Call.resolve] at replying
  rcases call.phase.resolve_cases message.tracked written with ⟨_, _, _, reporting⟩ | ⟨_, same⟩
  · rw [reporting] at replying
    cases replying
  · rw [same] at replying
    exact .inl replying

section

variable (carries : Carries Writes state)
include carries

theorem Carries.revise (all : ∀ changed ∈ next.all, ∃ call ∈ state.all, Revises Writes call changed)
    (queue : ∀ message ∈ next.queue, message ∈ state.queue) : Carries Writes next := by
  refine ⟨?_, ?_, fun message mem => carries.queue message (queue message mem)⟩
  · intro changed mem
    obtain ⟨call, earlier, revises⟩ := all changed mem
    rw [revises.channelId]
    exact carries.addressed call earlier
  · intro changed mem reply replying
    obtain ⟨call, earlier, revises⟩ := all changed mem
    cases revises.reply reply replying with
    | inl before => exact carries.pending call earlier reply before
    | inr writes => exact writes

theorem Carries.set {call changed : Call}
    (stored : state.all[index]? = some call) (all : next.all = state.all.set index changed)
    (queue : next.queue = state.queue) (revises : Revises Writes call changed) : Carries Writes next := by
  apply carries.revise
  · intro other mem
    rw [all] at mem
    cases List.mem_or_eq_of_mem_set mem with
    | inl earlier => exact ⟨other, earlier, .refl other⟩
    | inr same =>
      rw [same]
      exact ⟨call, List.mem_of_getElem? stored, revises⟩
  · intro message mem
    rwa [queue] at mem

theorem Carries.stopCalls (queue : ∀ message ∈ next.queue, message ∈ state.queue)
    (all : next.all = state.stopCalls) : Carries Writes next := by
  apply carries.revise _ queue
  intro changed mem
  rw [all, Connection.stopCalls, List.mem_mapIdx] at mem
  obtain ⟨index, inside, rfl⟩ := mem
  refine ⟨_, List.getElem_mem inside, ?_⟩
  split
  · split
    · exact ⟨rfl, fun _ => .inl⟩
    · exact .abort _
  · exact .refl _

theorem Carries.append (all : next.all = state.all ++ [call])
    (queue : next.queue = state.queue) (addressed : Addressed call.channelId)
    (pending : ∀ reply, call.phase = .replying reply → Writes reply.command) : Carries Writes next := by
  refine ⟨?_, ?_, ?_⟩
  · intro other mem
    rw [all, List.mem_append, List.mem_singleton] at mem
    cases mem with
    | inl earlier => exact carries.addressed other earlier
    | inr fresh =>
      rw [fresh]
      exact addressed
  · intro other mem
    rw [all, List.mem_append, List.mem_singleton] at mem
    cases mem with
    | inl earlier => exact carries.pending other earlier
    | inr fresh =>
      rw [fresh]
      exact pending
  · intro message mem
    rw [queue] at mem
    exact carries.queue message mem

end

theorem Admits.preflightReply (admits : Admits Writes) (requestId : Uuid) (error : String)
    (addressed : Addressed channelId) (isCode : ErrorCode code) :
    Writes (preflightReply requestId channelId code error).command :=
  admits.error _ _ _ _ addressed isCode (sanitizeError_text error)

/-! ## Steps -/

theorem addressed_of_enabled {requestId : Uuid} {invoke : Invoke} {arrival : Arrival}
    (enabled : state.enabled floats parser (.incoming (.ok (.invoke requestId invoke)) arrival) = true)
    (held : LoopEvent.Held (.incoming (.ok (.invoke requestId invoke)) arrival)) : Addressed invoke.channelId := by
  rw [Connection.enabled, isOk_iff] at enabled
  obtain ⟨result, passes⟩ := enabled
  have valid := validateCommand_ok.mp passes
  exact ⟨valid.channelId, held.1⟩

section

variable (carries : Carries Writes state) {action : ConnectionAction}
include carries

theorem Carries.resolve (isQueue : state.queue = message :: queue) (written : Bool) :
    Carries Writes { state with all := state.all.modify message.call (Call.resolve message written), queue } := by
  apply carries.revise
  · intro changed mem
    obtain ⟨index, stored⟩ := List.mem_iff_getElem?.mp mem
    rw [List.getElem?_modify] at stored
    obtain ⟨call, earlier, rfl⟩ := Option.map_eq_some_iff.mp stored
    refine ⟨call, List.mem_of_getElem? earlier, ?_⟩
    split
    · exact .resolve message written call
    · exact .refl call
  · intro other mem
    simp only [isQueue, List.mem_cons]
    exact .inr mem

theorem Carries.handled (admits : Admits Writes) {event : LoopEvent}
    {handled : Connection} (effect : Handled floats parser state event handled)
    (enabled : state.enabled floats parser event = true) (held : event.Held) : Carries Writes handled := by
  cases effect with
  | idle => exact carries
  | written message queue sent isQueue => exact carries.resolve isQueue _
  | duplicate requestId invoke arrival index running =>
    have addressed := addressed_of_enabled enabled held
    exact carries.trySend (admits.error _ _ _ _ addressed (by decide) (by decide))
  | spawned requestId invoke arrival fresh admitted =>
    have addressed := addressed_of_enabled enabled held
    obtain ⟨kind, phase, same, isCase⟩ := state.accepted_cases requestId invoke.channelId arrival.provider
    rw [same]
    refine carries.append rfl rfl addressed ?_
    intro reply replying
    have isPhase : phase = .replying reply := replying
    rcases isCase with ⟨-, rfl⟩ | ⟨-, rfl⟩ | ⟨-, rfl⟩
    · cases isPhase
    · cases isPhase
      exact admits.preflightReply _ _ addressed (by decide)
    · cases isPhase
      exact admits.preflightReply _ _ addressed (by decide)
  | shed requestId invoke arrival fresh refused =>
    have addressed := addressed_of_enabled enabled held
    apply Carries.trySend
    · refine carries.append rfl rfl addressed ?_
      intro reply replying
      cases replying
    · exact admits.preflightReply _ _ addressed (by decide)
  | cancelled requestId channelId arrival index call running stored serving live =>
    exact carries.set stored rfl rfl ⟨rfl, fun _ => .inl⟩
  | aborted requestId channelId arrival index call running stored serving =>
    have revises : Revises Writes call call.abort := .abort call
    exact carries.set stored rfl rfl ⟨revises.channelId, revises.reply⟩
  | ready arrival => exact ⟨carries.addressed, carries.pending, carries.queue⟩

theorem Carries.task (admits : Admits Writes) (taken : TaskStep state action next)
    (completed : ∀ index result call, action = .complete index result → call ∈ state.all →
      Writes (providerReply call.requestId call.channelId result).command) : Carries Writes next := by
  cases taken with
  | activity index call stored =>
    exact carries.trySend (admits.activity _ _ (carries.addressed call (List.mem_of_getElem? stored)))
  | complete index call result stored calling live =>
    refine carries.set stored rfl rfl ⟨rfl, ?_⟩
    intro reply replying
    cases replying
    exact .inr (completed index result call rfl (List.mem_of_getElem? stored))
  | enqueue index call reply stored replying receives =>
    have writes := carries.pending call (List.mem_of_getElem? stored) reply replying
    have revised : Carries Writes { state with all := state.all.set index { call with phase := .awaiting reply } } := by
      refine carries.set stored rfl rfl ⟨rfl, ?_⟩
      intro other isReplying
      cases isReplying
    refine ⟨revised.addressed, revised.pending, ?_⟩
    intro message mem
    rw [List.mem_append, List.mem_singleton] at mem
    cases mem with
    | inl queued => exact carries.queue message queued
    | inr added =>
      rw [added]
      exact writes
  | stop index call stored | finish index call stored | report index call _ _ stored | lose _ index call _ stored =>
    refine carries.set stored rfl rfl ⟨rfl, ?_⟩
    intro other isReplying
    cases isReplying

theorem Carries.step (admits : Admits Writes)
    (taken : Step floats parser sessionId state action next) (held : action.Held)
    (completed : ∀ index result call, action = .complete index result → call ∈ state.all →
      Writes (providerReply call.requestId call.channelId result).command) : Carries Writes next := by
  cases taken with
  | accept | refuse => exact ⟨carries.addressed, carries.pending, carries.queue⟩
  | goOn event handled looping enabled effect goesOn =>
    have after := carries.handled admits effect enabled held
    exact ⟨after.addressed, after.pending, after.queue⟩
  | leave event handled outcome looping enabled effect ends =>
    have after : Carries Writes handled := by
      cases effect with
      | idle => exact carries
      | lost message queue sent isQueue => exact carries.resolve isQueue false
    cases outcome with
    | failed =>
      refine ⟨after.addressed, after.pending, ?_⟩
      intro message mem
      cases mem
    | shutdown | disconnected => exact after.stopCalls (fun _ => id) rfl
  | task action target taken => exact carries.task admits taken completed
  | close outcome closing =>
    apply carries.revise
    · intro changed mem
      rw [abortCalls, List.mem_mapIdx] at mem
      obtain ⟨index, inside, rfl⟩ := mem
      refine ⟨_, List.getElem_mem inside, ?_⟩
      split
      · exact .abort _
      · exact .refl _
    · intro message mem
      cases mem

end

theorem held_error (requestId : Uuid) (channelId : ℕ) (code message : String) (addressed : Addressed channelId)
    (_ : ErrorCode code) (_ : Text 1 2048 message) :
    (AgentGatewayCommand.error (some requestId) (some channelId) code message).Held := by
  intro id mem
  cases mem
  exact addressed.2

def Writable (floats : FloatText) (parser : JsonParser) (command : AgentGatewayCommand) : Prop :=
  ValidCommand floats parser command ∧ command.Held

theorem writable_admits : Admits (Writable floats parser) where
  activity _ _ addressed := ⟨addressed.1, addressed.2⟩
  error requestId channelId code message addressed isCode isText := by
    refine ⟨⟨rfl, ?_, isCode, isText⟩, held_error requestId channelId code message addressed isCode isText⟩
    intro id mem
    cases mem
    exact addressed.1

theorem providerReply_held (requestId : Uuid) (addressed : Addressed channelId)
    (held : ConnectionAction.Held (.complete index result)) :
    (providerReply requestId channelId result).command.Held := by
  cases result with
  | ok output => exact ⟨addressed.2, held⟩
  | error error => exact held_error requestId channelId _ _ addressed (by decide) (sanitizeError_text error.message)

end Connection

/-! ## Runs -/

def ValuesHeld (_ : Connection) (action : ConnectionAction) : Prop := action.Held

/-- No provider returns an output that is too large. -/
def OutcomesFit (floats : FloatText) (_ : Connection) : ConnectionAction → Prop
  | .complete _ result => OutcomeFits floats result
  | .accept | .refuse | .loop _ | .activity _ | .stop _ | .enqueue _ | .undelivered _ | .report _ | .finish _
  | .close => True

def RepliesFit (floats : FloatText) (state : Connection) (action : ConnectionAction) : Prop :=
  ValuesHeld state action ∧ OutcomesFit floats state action

namespace Connection

variable {state : Connection}

theorem addressed (reachable : (connectionMachine floats parser sessionId).Reachable ValuesHeld state) :
    ∀ call ∈ state.all, Addressed call.channelId := by
  have carries : Carries (fun _ => True) state := by
    apply reachable.invariant
    · rintro _ rfl
      exact .new
    · intro _ _ _ carries held stepped
      exact carries.step ⟨fun _ _ _ => trivial, fun _ _ _ _ _ _ _ => trivial⟩ (step_step stepped) held
        fun _ _ _ _ _ => trivial
  exact carries.addressed

theorem writable (reachable : (connectionMachine floats parser sessionId).Reachable (RepliesFit floats) state) :
    Carries (Writable floats parser) state := by
  apply reachable.invariant
  · rintro _ rfl
    exact .new
  · intro _ action _ carries fits stepped
    apply carries.step writable_admits (step_step stepped) fits.1
    rintro index result call rfl mem
    have addressed := carries.addressed call mem
    exact ⟨(providerReply_valid _ addressed.1 _).mpr fits.2, providerReply_held _ addressed fits.1⟩

theorem held (reachable : (connectionMachine floats parser sessionId).Reachable ValuesHeld state) :
    Carries AgentGatewayCommand.Held state := by
  apply reachable.invariant
  · rintro _ rfl
    exact .new
  · intro _ action _ carries held stepped
    apply carries.step ⟨fun _ _ addressed => addressed.2, held_error⟩ (step_step stepped) held
    rintro index result call rfl mem
    exact providerReply_held _ (carries.addressed call mem) held

theorem outbound_goes_on (isQueue : state.queue = message :: queue)
    (held : message.command.Held) : state.ends floats parser sessionId (.outbound true) = none ↔
      validateCommand floats parser message.command = .ok () := by
  rw [← encodeCommand_iff held, ← isOk_iff]
  simp only [ends, isQueue, writes, Bool.true_and, ite_eq_left_iff, reduceCtorEq, imp_false, not_not]

theorem outbound_step (looping : state.stage = .looping) (isQueue : state.queue = message :: queue)
    (goesOn : state.ends floats parser sessionId (.outbound true) = none) :
    ∃ next, (connectionMachine floats parser sessionId).step state (.loop (.outbound true)) = some next ∧
      next.stage = .looping ∧ ∀ index, index ≠ message.call → next.all[index]? = state.all[index]? := by
  have enabled : state.enabled floats parser (.outbound true) = true := by simp [Connection.enabled, isQueue]
  refine ⟨(state.handle floats parser sessionId (.outbound true)).reap, ?_, ?_, ?_⟩
  · show state.step floats parser sessionId (.loop (.outbound true)) = _
    simp only [step, looping, enabled, and_self, if_true, goesOn]
  · simpa only [handle, isQueue, reap] using looping
  · intro index other
    simp only [handle, isQueue, reap, List.getElem?_modify, if_neg other.symm]
    exact id_map _

theorem answer_queued (looping : state.stage = .looping) (room : state.queue.length < outboundQueueCapacity)
    (stored : state.all[index]? = some call) (calling : call.phase = .calling) (live : call.cancelled = false)
    (completed : Allowed (.complete index result)) (queued : Allowed (.enqueue index)) :
    ∃ next, (connectionMachine floats parser sessionId).RunsTo (fun _ action => Allowed action) state next ∧
      next.stage = .looping ∧ (∀ other, other ≠ index → next.all[other]? = state.all[other]?) ∧
      next.queue = state.queue ++
        [{ command := (providerReply call.requestId call.channelId result).command, call := index, tracked := true }] := by
  let reply := providerReply call.requestId call.channelId result
  let replying : Connection := { state with all := state.all.set index { call with phase := .replying reply } }
  let awaiting : Connection := { replying with
    all := replying.all.set index { call with phase := .awaiting reply }
    queue := state.queue ++ [{ command := reply.command, call := index, tracked := true }] }
  have inside : index < state.all.length := (List.getElem?_eq_some_iff.mp stored).1
  have first : (connectionMachine floats parser sessionId).step state (.complete index result) = some replying := by
    simp [connectionMachine, step, withCall, stored, Call.complete, calling, live, replying, reply]
  have second : (connectionMachine floats parser sessionId).step replying (.enqueue index) = some awaiting := by
    simp [connectionMachine, step, Connection.enqueue, Connection.receives, replying, awaiting, inside, looping, room]
  have start : (connectionMachine floats parser sessionId).RunsTo (fun _ action => Allowed action) state replying :=
    .single ⟨_, completed, first⟩
  refine ⟨awaiting, start.tail ⟨_, queued, second⟩, looping, ?_, rfl⟩
  intro other different
  simp only [awaiting, replying, List.getElem?_set_ne different.symm]

end Connection

/-- In every state the reply of a call passes exactly when the outcome fits, and writing a message goes
wrong exactly when the message is refused.  While all outcomes fit, no message is refused: a write that
the socket takes leaves the loop running and the other calls as they are. -/
theorem replies_accepted (floats : FloatText) (parser : JsonParser) (sessionId : Uuid) :
    (∀ state, (connectionMachine floats parser sessionId).Reachable ValuesHeld state →
      (∀ call ∈ state.all, ∀ result, validateCommand floats parser
        (providerReply call.requestId call.channelId result).command = .ok () ↔ OutcomeFits floats result) ∧
      ∀ message queue, state.queue = message :: queue →
        (state.ends floats parser sessionId (.outbound true) = none ↔
          validateCommand floats parser message.command = .ok ())) ∧
    ∀ state, (connectionMachine floats parser sessionId).Reachable (RepliesFit floats) state →
      (∀ message ∈ state.queue, validateCommand floats parser message.command = .ok ()) ∧
      ∀ message queue, state.stage = .looping → state.queue = message :: queue →
        ∃ next, (connectionMachine floats parser sessionId).step state (.loop (.outbound true)) = some next ∧
          next.stage = .looping ∧ ∀ index, index ≠ message.call → next.all[index]? = state.all[index]? := by
  constructor
  · intro state reachable
    constructor
    · intro call member result
      have named := (Connection.addressed reachable call member).1
      rw [validateCommand_ok]
      exact providerReply_valid call.requestId named result
    · intro message queue isQueue
      have held := (Connection.held reachable).queue message (by simp [isQueue])
      exact Connection.outbound_goes_on isQueue held
  · intro state reachable
    have carries := Connection.writable reachable
    constructor
    · intro message member
      exact validateCommand_ok.mpr (carries.queue message member).1
    · intro message queue looping isQueue
      have writable := carries.queue message (by simp [isQueue])
      have goesOn : state.ends floats parser sessionId (.outbound true) = none :=
        (Connection.outbound_goes_on isQueue writable.2).mpr (validateCommand_ok.mpr writable.1)
      exact Connection.outbound_step looping isQueue goesOn

/-! ## A chat, and an output that is too large -/

def townInvocations : List ConnectionAction :=
  [.accept, townReceives (.invoke exampleId townInvoke), townReceives (.invoke otherId townInvoke)]

theorem townInvocations_held : ∀ action ∈ townInvocations, action.Held := by
  have held : ∀ requestId, ConnectionAction.Held (townReceives (.invoke requestId townInvoke)) := by
    intro requestId
    exact ⟨by decide, by simp [townInvoke, Value.WellFormed], by simp [townInvoke]; decide⟩
  intro action mem
  simp only [townInvocations, List.mem_cons, List.not_mem_nil, or_false] at mem
  rcases mem with rfl | rfl | rfl
  · trivial
  · exact held exampleId
  · exact held otherId

theorem townInvocations_execute : (townConnection.execute Machine.always .new townInvocations).any (fun state =>
    decide (state.stage = .looping ∧ state.queue = [] ∧ (∃ call ∈ state.all[0]?, call.phase = .calling ∧
      call.cancelled = false ∧ call.requestId = exampleId ∧ call.channelId = 7) ∧
      ∃ call ∈ state.all[1]?, call.phase = .calling)) = true := by decide +kernel

theorem townInvocations_answered (output : Value)
    (invoked : ∀ action ∈ townInvocations, Allowed action) (completed : Allowed (.complete 0 (.ok output)))
    (queued : Allowed (.enqueue 0)) :
    ∃ state, townConnection.Reachable (fun _ action => Allowed action) state ∧ state.stage = .looping ∧
      (∃ call ∈ state.all[1]?, call.phase = .calling) ∧
      state.queue = [{ command := .result exampleId 7 output, call := 0, tracked := true }] := by
  have executes := townInvocations_execute
  cases executed : townConnection.execute Machine.always .new townInvocations with
  | none => simp [executed] at executes
  | some state =>
    simp only [executed, Option.any_some, decide_eq_true_eq] at executes
    obtain ⟨looping, isQueue, ⟨call, stored, calling, live, isId, isChannel⟩, active⟩ := executes
    have reachable : townConnection.Reachable (fun _ action => Allowed action) state :=
      ⟨.new, rfl, Machine.execute_runsTo_of_forall executed invoked⟩
    have room : state.queue.length < outboundQueueCapacity := by simp [isQueue, outboundQueueCapacity]
    obtain ⟨next, run, loops, others, inQueue⟩ :=
      Connection.answer_queued looping room stored calling live completed queued
    rw [isQueue, isId, isChannel] at inQueue
    rw [← others 1 (by decide)] at active
    exact ⟨next, reachable.trans run, loops, active, inQueue⟩

/-- The reply of a chat is written. -/
theorem replies_accepted_chat : ∃ state, townConnection.Reachable (RepliesFit fun _ => "0.5") state ∧
      ∃ next, townConnection.step state (.loop (.outbound true)) = some next ∧ next.stage = .looping := by
  have invoked : ∀ action ∈ townInvocations, RepliesFit (fun _ => "0.5") .new action := by
    intro action member
    refine ⟨townInvocations_held action member, ?_⟩
    simp only [townInvocations, List.mem_cons, List.not_mem_nil, or_false] at member
    rcases member with rfl | rfl | rfl <;> trivial
  have small : OutcomeFits (fun _ => "0.5") (.ok (.string "At the end of the road.")) := by decide
  have completed : RepliesFit (fun _ => "0.5") .new (.complete 0 (.ok (.string "At the end of the road."))) :=
    ⟨Value.wellFormed_string.mpr (by decide), small⟩
  obtain ⟨state, reachable, looping, -, isQueue⟩ := townInvocations_answered _ invoked completed ⟨trivial, trivial⟩
  have accepted := replies_accepted (fun _ => "0.5") emptyObjectParser exampleId
  obtain ⟨next, steps, goesOn, -⟩ := (accepted.2 state reachable).2 _ _ looping isQueue
  exact ⟨state, reachable, next, steps, goesOn⟩

theorem nulls_size (floats : FloatText) (count : ℕ) :
    (Value.array (List.replicate count .null)).encodedSize floats = count * 5 - 1 + 2 := by
  rw [Value.encodedSize_array, List.map_replicate, List.sum_replicate_nat]
  rfl

theorem nulls_wellFormed (count : ℕ) : (Value.array (List.replicate count .null)).WellFormed := by
  rw [Value.wellFormed_array]
  intro value mem
  rw [List.eq_of_mem_replicate mem]
  trivial

theorem exists_large_output : ∃ output : Value, output.WellFormed ∧ ¬ OutcomeFits (fun _ => "0.5") (.ok output) := by
  have large : ∀ count, 4000000 ≤ count → ¬ OutcomeFits (fun _ => "0.5") (.ok (.array (List.replicate count .null))) := by
    intro count many
    rw [OutcomeFits, nulls_size, maxInvocationBodyBytes]
    omega
  exact ⟨_, nulls_wellFormed 4000000, large 4000000 (le_refl _)⟩

/-- Such an output is returned for one of two invocations.  The reply is refused when it is written, which
ends the connection while the other invocation runs. -/
theorem large_output_disconnects :
    ∃ state, townConnection.Reachable ValuesHeld state ∧ (∃ call ∈ state.all[1]?, call.phase = .calling) ∧
      (∃ message ∈ state.queue, validateCommand (fun _ => "0.5") emptyObjectParser message.command ≠ .ok ()) ∧
      state.ends (fun _ => "0.5") emptyObjectParser exampleId (.outbound true) ≠ none := by
  obtain ⟨output, wellFormed, large⟩ := exists_large_output
  have completed : ConnectionAction.Held (.complete 0 (.ok output)) := wellFormed
  obtain ⟨state, reachable, looping, active, isQueue⟩ :=
    townInvocations_answered output townInvocations_held completed trivial
  have refused : validateCommand (fun _ => "0.5") emptyObjectParser (.result exampleId 7 output) ≠ .ok () := by
    rw [ne_eq, validateCommand_ok]
    intro valid
    exact large valid.2
  have queued : { command := .result exampleId 7 output, call := 0, tracked := true } ∈ state.queue := by
    rw [isQueue]
    exact List.mem_cons_self
  have held := (Connection.held reachable).queue _ queued
  refine ⟨state, reachable, active, ⟨_, queued, refused⟩, ?_⟩
  rw [ne_eq, Connection.outbound_goes_on isQueue held]
  exact refused

end Vifu.Gateway
