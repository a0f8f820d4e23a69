import Vifu.Gateway.Relay.Connection

/-!
# Calls that outlive their connection

The loop stops its calls where it ends with `break`.  An error returns from the function instead, past
the end of the loop, and leaves them running.
-/

namespace Vifu.Gateway

open Foundation
open Vifu.Runtime hiding validateIdentifier

variable {floats : FloatText} {parser : JsonParser} {sessionId : Uuid} {call changed : Call} {call : Call}

/-! ## Stopped calls -/

/-- The call was told to stop or has no task any more, and gave its permit and its slot back. -/
def Stopped (call : Call) : Prop :=
  (call.cancelled = true ∨ call.phase.over = true) ∧ call.holdsPermit = false ∧ call.holdsSlot = false

instance decidableStopped (call : Call) : Decidable (Stopped call) := inferInstanceAs (Decidable (_ ∧ _))

namespace Call

theorem stopped_of_over (isOver : call.phase.over = true) : Stopped call := by
  refine ⟨.inr isOver, ?_, by simp [holdsSlot, isOver]⟩
  cases isPhase : call.phase with
  | finished | aborted => simp [holdsPermit, isPhase]
  | _ => simp [isPhase, CallPhase.over] at isOver

theorem over_abort (call : Call) : call.abort.phase.over = true := by
  rw [abort]
  split
  · assumption
  · rfl

theorem over_resolve (message : Outbound) (written : Bool) (call : Call) :
    (call.resolve message written).phase.over = call.phase.over := by
  simp only [resolve]
  rcases call.phase.resolve_cases message.tracked written with ⟨reply, _, awaiting, reporting⟩ | ⟨_, same⟩
  · rw [reporting, awaiting]
    rfl
  · rw [same]

theorem stopped_resolve (message : Outbound) (written : Bool) (call : Call) :
    Stopped (call.resolve message written) ↔ Stopped call := by
  have permit : (call.resolve message written).holdsPermit = call.holdsPermit := by
    simp only [resolve, holdsPermit]
    rcases call.phase.resolve_cases message.tracked written with ⟨reply, _, awaiting, reporting⟩ | ⟨_, same⟩
    · rw [reporting, awaiting]
      cases call.kind <;> rfl
    · rw [same]
  have slot : (call.resolve message written).holdsSlot = call.holdsSlot := by
    rw [holdsSlot, over_resolve]
    rfl
  rw [Stopped, over_resolve, permit, slot]
  rfl

theorem stopped_advance (stopped : Stopped call) (running : call.phase.over = false)
    (kind : changed.kind = call.kind) (cancelled : changed.cancelled = call.cancelled)
    (permit : changed.holdsPermit = true → call.holdsPermit = true) : Stopped changed := by
  obtain ⟨told, noPermit, noSlot⟩ := stopped
  have isCancelled : call.cancelled = true := told.resolve_right (by simp [running])
  refine ⟨.inl (cancelled.trans isCancelled), ?_, ?_⟩
  · by_contra holds
    rw [permit (by simpa using holds)] at noPermit
    cases noPermit
  · have notRejecting : call.kind ≠ .rejecting := by
      intro rejecting
      simp [holdsSlot, rejecting, running] at noSlot
    simp [holdsSlot, kind, notRejecting]

end Call

namespace Connection

variable {state next : Connection} {index : ℕ}

/-- While there is a loop, every call that is not over is in its map, and the calls that the loop leaves
behind were told to stop. -/
structure Tracked (state : Connection) : Prop where
  active : state.receives = true → ∀ index call, state.all[index]? = some call → call.phase.over = false →
    ∃ requestId, state.calls.lookup requestId = some index
  closing : ∀ outcome, state.stage = .closing outcome → ∀ call ∈ state.all,
    call.cancelled = true ∨ call.phase.over = true
  connecting : state.stage = .connecting → state.all = []

theorem mem_active : index ∈ state.active ↔ ∃ requestId, state.calls.lookup requestId = some index := by
  rw [active, List.mem_map]
  constructor
  · rintro ⟨entry, mem, rfl⟩
    exact ⟨entry.1, AList.mem_lookup_iff.mpr mem⟩
  · rintro ⟨requestId, stored⟩
    exact ⟨⟨requestId, index⟩, AList.mem_lookup_iff.mp stored, rfl⟩

theorem receives_of_stage (stage : next.stage = state.stage) : next.receives = state.receives := by
  rw [receives, receives, stage]

theorem Tracked.change (tracked : Tracked state)
    (stored : state.all[index]? = some call) (stage : next.stage = state.stage)
    (all : next.all = state.all.set index changed)
    (kept : ∀ requestId other, state.calls.lookup requestId = some other →
      (other = index → changed.phase.over = false) → next.calls.lookup requestId = some other)
    (isOver : call.phase.over = true → changed.phase.over = true)
    (cancelled : call.cancelled = true → changed.cancelled = true) : Tracked next := by
  refine ⟨?_, ?_, ?_⟩
  · intro isOpen other found isFound running
    rw [receives_of_stage stage] at isOpen
    rw [all, List.getElem?_set] at isFound
    split at isFound
    · next same =>
      subst same
      split at isFound
      · cases isFound
        have runningBefore : call.phase.over = false := by
          by_contra ended
          rw [isOver (by simpa using ended)] at running
          cases running
        obtain ⟨requestId, inMap⟩ := tracked.active isOpen index call stored runningBefore
        exact ⟨requestId, kept requestId index inMap fun _ => running⟩
      · cases isFound
    · next different =>
      obtain ⟨requestId, inMap⟩ := tracked.active isOpen other found isFound running
      exact ⟨requestId, kept requestId other inMap fun same => absurd same.symm different⟩
  · intro outcome closing other mem
    rw [stage] at closing
    rw [all] at mem
    cases List.mem_or_eq_of_mem_set mem with
    | inl earlier => exact tracked.closing outcome closing other earlier
    | inr same =>
      rw [same]
      exact (tracked.closing outcome closing call (List.mem_of_getElem? stored)).imp cancelled isOver
  · intro connecting
    rw [all, tracked.connecting (stage ▸ connecting)]
    rfl

theorem Tracked.set (tracked : Tracked state) (stored : state.all[index]? = some call)
    (stage : next.stage = state.stage) (calls : next.calls = state.calls) (all : next.all = state.all.set index changed)
    (isOver : call.phase.over = true → changed.phase.over = true)
    (cancelled : call.cancelled = true → changed.cancelled = true) : Tracked next := by
  refine tracked.change stored stage all ?_ isOver cancelled
  intro requestId other inMap _
  rwa [calls]

theorem Tracked.append (tracked : Tracked state) (looping : state.stage = .looping)
    (stage : next.stage = .looping) (all : next.all = state.all ++ [call])
    (kept : ∀ requestId index, state.calls.lookup requestId = some index → next.calls.lookup requestId = some index)
    (fresh : call.phase.over = false → ∃ requestId, next.calls.lookup requestId = some state.all.length) :
    Tracked next := by
  refine ⟨?_, ?_, ?_⟩
  · intro _ index found isFound running
    rw [all, List.getElem?_append] at isFound
    split at isFound
    · obtain ⟨requestId, stored⟩ := tracked.active (by simp [receives, looping]) index found isFound running
      exact ⟨requestId, kept requestId index stored⟩
    · next outside =>
      rw [List.getElem?_singleton] at isFound
      split at isFound
      · next isLast =>
        cases isFound
        have same : index = state.all.length := by omega
        rw [same]
        exact fresh running
      · cases isFound
  · intro outcome closing
    rw [stage] at closing
    cases closing
  · intro connecting
    rw [stage] at connecting
    cases connecting

theorem Tracked.of_same (tracked : Tracked state) (stage : next.stage = state.stage) (all : next.all = state.all)
    (calls : next.calls = state.calls) : Tracked next := by
  refine ⟨?_, ?_, ?_⟩
  · rw [receives_of_stage stage, all, calls]
    exact tracked.active
  · rw [stage, all]
    exact tracked.closing
  · rw [stage, all]
    exact tracked.connecting

theorem trySend_same (message : Outbound) : (state.trySend message).stage = state.stage ∧
    (state.trySend message).all = state.all ∧ (state.trySend message).calls = state.calls := by
  rw [trySend]
  split <;> exact ⟨rfl, rfl, rfl⟩

theorem Tracked.trySend (tracked : Tracked state) (message : Outbound) : Tracked (state.trySend message) :=
  tracked.of_same (trySend_same message).1 (trySend_same message).2.1 (trySend_same message).2.2

theorem Tracked.resolve (tracked : Tracked state) {message : Outbound} {written : Bool} (stage : next.stage = state.stage)
    (all : next.all = state.all.modify message.call (Call.resolve message written)) (calls : next.calls = state.calls) :
    Tracked next := by
  have found {index : ℕ} {call : Call} (isFound : next.all[index]? = some call) :
      ∃ before, state.all[index]? = some before ∧ call.phase.over = before.phase.over ∧
        call.cancelled = before.cancelled := by
    rw [all, List.getElem?_modify] at isFound
    obtain ⟨before, stored, rfl⟩ := Option.map_eq_some_iff.mp isFound
    refine ⟨before, stored, ?_⟩
    split
    · exact ⟨Call.over_resolve message written before, rfl⟩
    · exact ⟨rfl, rfl⟩
  refine ⟨?_, ?_, ?_⟩
  · intro isOpen index call isFound running
    rw [receives_of_stage stage] at isOpen
    obtain ⟨before, stored, isOver, -⟩ := found isFound
    rw [calls]
    exact tracked.active isOpen index before stored (isOver ▸ running)
  · intro outcome closing call mem
    obtain ⟨index, isFound⟩ := List.mem_iff_getElem?.mp mem
    obtain ⟨before, stored, isOver, cancelled⟩ := found isFound
    rw [isOver, cancelled]
    exact tracked.closing outcome (stage ▸ closing) before (List.mem_of_getElem? stored)
  · intro connecting
    rw [all, tracked.connecting (stage ▸ connecting), List.modify_nil]

variable {event : LoopEvent}

theorem Tracked.handled (tracked : Tracked state) (looping : state.stage = .looping)
    {handled : Connection} (effect : Handled floats parser state event handled) : Tracked handled := by
  cases effect with
  | idle => exact tracked
  | written message queue sent isQueue => exact tracked.resolve rfl rfl rfl
  | duplicate => exact tracked.trySend _
  | spawned requestId invoke arrival fresh admitted =>
    obtain ⟨kind, phase, same, -⟩ := state.accepted_cases requestId invoke.channelId arrival.provider
    rw [same]
    have stage : (state.spawn (state.startedCall requestId invoke.channelId kind phase)).stage = .looping := looping
    refine tracked.append looping stage rfl ?_ ?_
    · intro other index stored
      simp only [spawn, startedCall, lookup_insert]
      split
      · next isNew =>
        rw [isNew, fresh] at stored
        cases stored
      · exact stored
    · intro _
      exact ⟨requestId, AList.lookup_insert _⟩
  | shed requestId invoke arrival fresh refused =>
    apply Tracked.trySend
    refine tracked.append looping ?_ rfl (fun _ _ => id) ?_
    · exact looping
    · intro running
      cases running
  | cancelled requestId channelId arrival index call running stored serving live =>
    exact tracked.set stored rfl rfl rfl id (fun _ => rfl)
  | aborted requestId channelId arrival index call running stored serving =>
    refine tracked.change stored rfl rfl ?_ (fun _ => call.over_abort) ?_
    · intro other place inMap notOver
      -- an entry that is erased is the entry of this call
      have different : other ≠ requestId := by
        rintro rfl
        rw [running] at inMap
        cases inMap
        have isOver := notOver rfl
        rw [show (call.abort.observe .cancelled).phase.over = true from call.over_abort] at isOver
        cases isOver
      simp only [lookup_erase, different, if_false]
      exact inMap
    · rw [Call.observe, Call.abort]
      split <;> exact id
  | ready => exact tracked.of_same rfl rfl rfl

variable {action : ConnectionAction} {outcome : Outcome}

theorem Tracked.task (tracked : Tracked state) (taken : TaskStep state action next) : Tracked next := by
  cases taken with
  | activity => exact tracked.trySend _
  | complete index call result stored calling | enqueue index call reply stored calling
  | stop index call stored calling | report index call reply delivered stored calling
  | finish index call stored calling =>
    refine tracked.set stored rfl rfl rfl ?_ id
    intro isOver
    rw [calling] at isOver
    cases isOver
  | lose _ index call reply stored pending =>
    refine tracked.set stored rfl rfl rfl ?_ id
    intro isOver
    cases pending with
    | inl replying =>
      rw [replying] at isOver
      cases isOver
    | inr awaiting =>
      rw [awaiting] at isOver
      cases isOver

theorem Tracked.reap (tracked : Tracked state) : Tracked state.reap := by
  refine ⟨?_, tracked.closing, tracked.connecting⟩
  intro isOpen index call stored running
  obtain ⟨requestId, inMap⟩ := tracked.active isOpen index call stored running
  refine ⟨requestId, lookup_retain.mpr ⟨inMap, ?_⟩⟩
  have isFound : state.all[index]? = some call := stored
  simp [isFinished, isFound, running]

theorem stopCalls_getElem? (isFound : state.stopCalls[index]? = some call) :
    ∃ before, state.all[index]? = some before ∧ (before.phase.over = true → call.phase.over = true) ∧
      (index ∈ state.active → call.cancelled = true ∨ call.phase.over = true) := by
  rw [stopCalls, List.getElem?_mapIdx] at isFound
  obtain ⟨before, stored, rfl⟩ := Option.map_eq_some_iff.mp isFound
  refine ⟨before, stored, ?_⟩
  split
  · split
    · exact ⟨id, fun _ => .inl rfl⟩
    · exact ⟨fun _ => before.over_abort, fun _ => .inr before.over_abort⟩
  · next absent => exact ⟨id, fun mem => absurd mem absent⟩

theorem Tracked.stopCalls (tracked : Tracked state) (looping : state.stage = .looping) (outcome : Outcome) :
    Tracked { state with stage := .closing outcome, all := state.stopCalls } := by
  have isOpen : state.receives = true := by simp [receives, looping]
  refine ⟨?_, ?_, nofun⟩
  · intro _ index call isFound running
    obtain ⟨before, stored, isOver, -⟩ := stopCalls_getElem? isFound
    apply tracked.active isOpen index before stored
    by_contra ended
    rw [isOver (by simpa using ended)] at running
    cases running
  · intro _ _ call mem
    obtain ⟨index, isFound⟩ := List.mem_iff_getElem?.mp mem
    obtain ⟨before, stored, isOver, stops⟩ := stopCalls_getElem? isFound
    cases wasOver : before.phase.over with
    | true => exact .inr (isOver wasOver)
    | false => exact stops (mem_active.mpr (tracked.active isOpen index before stored wasOver))

theorem Tracked.left (tracked : Tracked state) (effect : Left state event outcome next) : Tracked next := by
  cases effect with
  | idle => exact tracked
  | lost message queue sent isQueue => exact tracked.resolve rfl rfl rfl

theorem Left.stage (effect : Left state event outcome next) : next.stage = state.stage := by
  cases effect <;> rfl

theorem Handled.stage (effect : Handled floats parser state event next) : next.stage = state.stage := by
  cases effect with
  | duplicate => exact (trySend_same _).1
  | shed => exact (trySend_same _).1
  | _ => rfl

theorem TaskStep.stage (taken : TaskStep state action next) : next.stage = state.stage := by
  cases taken with
  | activity => exact (trySend_same _).1
  | _ => rfl

theorem Tracked.returned (stage : next.stage = .returned outcome) : Tracked next := by
  refine ⟨?_, ?_, ?_⟩
  · intro isOpen
    simp [receives, stage] at isOpen
  · intro _ closing
    rw [stage] at closing
    cases closing
  · intro connecting
    rw [stage] at connecting
    cases connecting

theorem Tracked.step (tracked : Tracked state)
    (taken : Step floats parser sessionId state action next) : Tracked next := by
  cases taken with
  | accept connecting =>
    refine ⟨?_, nofun, nofun⟩
    intro _ index call stored
    rw [tracked.connecting connecting] at stored
    cases stored
  | refuse connecting => exact .returned rfl
  | goOn event handled looping enabled effect goesOn => exact (tracked.handled looping effect).reap
  | leave event handled outcome looping enabled effect ends =>
    cases outcome with
    | failed => exact .returned rfl
    | shutdown | disconnected => exact (tracked.left effect).stopCalls (effect.stage.trans looping) _
  | task action target taken => exact tracked.task taken
  | close outcome closing => exact .returned rfl

theorem Tracked.new : Tracked new := by
  refine ⟨?_, nofun, fun _ => rfl⟩
  intro _ index call stored
  cases stored

theorem tracked {admits : Connection → ConnectionAction → Prop}
    (reachable : (connectionMachine floats parser sessionId).Reachable admits state) : Tracked state := by
  apply reachable.invariant
  · rintro _ rfl
    exact .new
  · intro _ _ _ tracked _ stepped
    exact tracked.step (step_step stepped)

/-! ## Returns -/

theorem stopped_left (effect : Left state event outcome next) :
    (∀ call ∈ next.all, Stopped call) ↔ ∀ call ∈ state.all, Stopped call := by
  cases effect with
  | idle => exact Iff.rfl
  | lost message queue sent isQueue =>
    have place (index : ℕ) : (∀ call, (state.all.modify message.call (Call.resolve message false))[index]? = some call →
        Stopped call) ↔ ∀ call, state.all[index]? = some call → Stopped call := by
      rw [List.getElem?_modify]
      cases stored : state.all[index]? with
      | none => simp
      | some call =>
        split
        · simp [Call.stopped_resolve]
        · simp
    simp only [List.mem_iff_getElem?, forall_exists_index]
    rw [forall_comm]
    conv_rhs => rw [forall_comm]
    exact forall_congr' place

theorem Tracked.stopped_abortCalls (tracked : Tracked state) (isOpen : state.receives = true) :
    ∀ call ∈ state.abortCalls, Stopped call := by
  intro call mem
  rw [abortCalls, List.mem_mapIdx] at mem
  obtain ⟨index, inside, rfl⟩ := mem
  apply Call.stopped_of_over
  split
  · exact Call.over_abort _
  · next absent =>
    by_contra running
    apply absent
    apply mem_active.mpr
    exact tracked.active isOpen index _ (List.getElem?_eq_getElem inside) (by simpa using running)

theorem Tracked.stopped_return (tracked : Tracked state)
    (taken : Step floats parser sessionId state action next) (isOpen : state.receives = true)
    (returns : next.receives = false) : (∀ call ∈ next.all, Stopped call) ↔
      (∃ outcome, state.stage = .closing outcome) ∨ ∀ call ∈ state.all, Stopped call := by
  cases taken with
  | accept => cases returns
  | refuse connecting => simp [tracked.connecting connecting]
  | goOn event handled looping enabled effect goesOn =>
    have stage : handled.reap.stage = .looping := effect.stage.trans looping
    simp [receives, stage] at returns
  | leave event handled outcome looping enabled effect ends =>
    cases outcome with
    | failed =>
      have notClosing : ¬ ∃ outcome, state.stage = .closing outcome := by simp [looping]
      rw [or_iff_right notClosing]
      have same : (∀ call ∈ handled.all, Stopped call) ↔ ∀ call ∈ state.all, Stopped call := stopped_left effect
      exact same
    | shutdown | disconnected => cases returns
  | task action target taken =>
    rw [receives_of_stage taken.stage, isOpen] at returns
    cases returns
  | close outcome closing =>
    have stopped : ∀ call ∈ state.abortCalls, Stopped call := tracked.stopped_abortCalls isOpen
    exact iff_of_true stopped (.inl ⟨outcome, closing⟩)

theorem stopped_step (taken : Step floats parser sessionId state action next)
    (returned : state.receives = false) (stopped : ∀ call ∈ state.all, Stopped call) : ∀ call ∈ next.all, Stopped call := by
  have isTask : TaskStep state action next := by
    cases taken with
    | task action target taken => exact taken
    | accept stage | refuse stage | goOn _ _ stage | leave _ _ _ stage | close _ stage =>
      simp [receives, stage] at returned
  have advance {index : ℕ} {call changed : Call} {all : List Call} (stored : state.all[index]? = some call)
      (isAll : all = state.all.set index changed) (running : call.phase.over = false) (kind : changed.kind = call.kind) (cancelled : changed.cancelled = call.cancelled)
      (permit : changed.holdsPermit = true → call.holdsPermit = true) :
      ∀ other ∈ all, Stopped other := by
    intro other mem
    rw [isAll] at mem
    cases List.mem_or_eq_of_mem_set mem with
    | inl earlier => exact stopped other earlier
    | inr same =>
      rw [same]
      exact Call.stopped_advance (stopped call (List.mem_of_getElem? stored)) running kind cancelled permit
  cases isTask with
  | activity =>
    rw [(trySend_same _).2.1]
    exact stopped
  | complete index call result stored calling | enqueue index call reply stored calling =>
    refine advance stored rfl (by rw [calling]; rfl) rfl rfl ?_
    cases isKind : call.kind <;> simp [Call.holdsPermit, calling, isKind]
  | stop index call stored calling | report index call reply delivered stored calling
  | finish index call stored calling =>
    refine advance stored rfl (by rw [calling]; rfl) rfl rfl ?_
    cases isKind : call.kind <;> simp [Call.holdsPermit, Call.observe, isKind]
  | lose _ index call reply stored pending =>
    cases pending with
    | inl waits | inr waits =>
      refine advance stored rfl (by rw [waits]; rfl) rfl rfl ?_
      cases isKind : call.kind <;> simp [Call.holdsPermit, waits, isKind]

end Connection

/-- No error ends the loop while a call runs. -/
def CleanReturns (floats : FloatText) (parser : JsonParser) (sessionId : Uuid) (state : Connection) :
    ConnectionAction → Prop
  | .loop event => state.ends floats parser sessionId event = some .failed → ∀ call ∈ state.all, Stopped call
  | .accept | .refuse | .activity _ | .complete _ _ | .stop _ | .enqueue _ | .undelivered _ | .report _ | .finish _
  | .close => True

namespace Connection

variable {state next : Connection}

theorem stopped_returned (reachable : (connectionMachine floats parser sessionId).Reachable
    (CleanReturns floats parser sessionId) state) :
    Tracked state ∧ (state.receives = false → ∀ call ∈ state.all, Stopped call) := by
  apply reachable.invariant
  · rintro start rfl
    exact ⟨.new, nofun⟩
  · rintro before action after ⟨isTracked, stopped⟩ clean stepped
    have taken := step_step stepped
    refine ⟨isTracked.step taken, ?_⟩
    intro returned
    cases isOpen : before.receives with
    | false => exact stopped_step taken isOpen (stopped isOpen)
    | true =>
      apply (isTracked.stopped_return taken isOpen returned).mpr
      cases taken with
      | accept => cases returned
      | refuse connecting => exact .inr (by simp [isTracked.connecting connecting])
      | goOn event handled looping enabled effect goesOn =>
        have stage : handled.reap.stage = .looping := effect.stage.trans looping
        simp [receives, stage] at returned
      | leave event handled outcome looping enabled effect ends =>
        cases outcome with
        | failed => exact .inr (clean ends)
        | shutdown | disconnected => cases returned
      | task action target taken =>
        rw [receives_of_stage taken.stage, isOpen] at returned
        cases returned
      | close outcome closing => exact .inl ⟨outcome, closing⟩

end Connection

/-- When the connection returns, all calls are stopped exactly when the loop has waited for them or they
were stopped before.  In a run in which no error ends the loop while a call runs, they are stopped in every
state after the return, and told to stop in every state before it in which the loop has ended. -/
theorem calls_stopped_at_return (floats : FloatText) (parser : JsonParser) (sessionId : Uuid) :
    (∀ state action next, (connectionMachine floats parser sessionId).Reachable Machine.always state →
      (connectionMachine floats parser sessionId).step state action = some next →
      state.receives = true → next.receives = false →
      ((∀ call ∈ next.all, Stopped call) ↔
        (∃ outcome, state.stage = .closing outcome) ∨ ∀ call ∈ state.all, Stopped call)) ∧
    ∀ state, (connectionMachine floats parser sessionId).Reachable (CleanReturns floats parser sessionId) state →
      (state.receives = false → ∀ call ∈ state.all, Stopped call) ∧
      ∀ outcome, state.stage = .closing outcome → ∀ call ∈ state.all, call.cancelled = true ∨ call.phase.over = true := by
  constructor
  · intro state action next reachable stepped isOpen returns
    exact (Connection.tracked reachable).stopped_return (Connection.step_step stepped) isOpen returns
  · intro state reachable
    obtain ⟨tracked, stopped⟩ := Connection.stopped_returned reachable
    exact ⟨stopped, tracked.closing⟩

instance decidableCleanReturns (floats : FloatText) (parser : JsonParser) (sessionId : Uuid) (state : Connection) :
    ∀ action, Decidable (CleanReturns floats parser sessionId state action)
  | .loop event => inferInstanceAs (Decidable (state.ends floats parser sessionId event = some .failed → _))
  | .accept | .refuse | .activity _ | .complete _ _ | .stop _ | .enqueue _ | .undelivered _ | .report _ | .finish _
  | .close => .isTrue trivial

/-- The gateway is shut down while a provider works. -/
theorem calls_stopped_at_return_chat :
    ∃ state, townConnection.Reachable (CleanReturns (fun _ => "0.5") emptyObjectParser exampleId) state ∧
      state.receives = false ∧ state.all ≠ [] ∧ ∀ call ∈ state.all, Stopped call := by
  obtain ⟨state, reachable, returned⟩ := Machine.reachable_of_execute townConnection
    (CleanReturns (fun _ => "0.5") emptyObjectParser exampleId) rfl
    [.accept, townReceives (.invoke exampleId townInvoke), .loop .shutdown, .stop 0, .close]
    (fun state => decide (state.receives = false ∧ state.all ≠ [])) (by decide +kernel)
  have isReturned := of_decide_eq_true returned
  have stopped := (calls_stopped_at_return (fun _ => "0.5") emptyObjectParser exampleId).2 state reachable
  exact ⟨state, reachable, isReturned.1, isReturned.2, stopped.1 isReturned.1⟩

/-- The socket breaks while a provider works, and its call goes on without a connection. -/
theorem broken_socket_leaves_call :
    ∃ state, townConnection.Reachable Machine.always state ∧ state.receives = false ∧ ∃ call ∈ state.all,
      call.phase = .calling ∧ call.cancelled = false ∧ call.holdsPermit = true := by
  obtain ⟨state, reachable, leaves⟩ := Machine.reachable_of_execute townConnection Machine.always rfl
    [.accept, townReceives (.invoke exampleId townInvoke),
      .loop (.incoming (.error "Connection reset without closing handshake") townArrival)]
    (fun state => decide (state.receives = false ∧ ∃ call ∈ state.all,
      call.phase = .calling ∧ call.cancelled = false ∧ call.holdsPermit = true)) (by decide +kernel)
  exact ⟨state, reachable, of_decide_eq_true leaves⟩

end Vifu.Gateway
