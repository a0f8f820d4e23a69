import Vifu.Runtime.Bridge.EventLog

/-!
# The invariant of the bridge

The events of a handle go from the log of its queue, which holds what was drained and what is
still queued (`Queued`), to the callers, who have what was drained except for what one call
has yet to return (`Carried`).  This module states the condition on the steps of a run under
which the invariant survives, and shows that the steps of workers keep it.
-/

namespace Vifu.Runtime

open Foundation

namespace DrainCall

/-- The section that a call which has drained the handle runs on it next. -/
def visit (call : DrainCall) (handle : String) : Option DrainPhase :=
  if call.handles.head? = some handle ∧ call.phase ≠ .drain then some call.phase else none

def held (call : DrainCall) (handle : String) : List InvocationEvent :=
  call.framed handle ++
    match call.visit handle with
    | some (.poll events) => events
    | _ => []

/-- The call has drained the handle, and has sections to run on it or frames of it to return. -/
def Holds (call : DrainCall) (handle : String) : Prop :=
  call.visit handle ≠ none ∨ call.framed handle ≠ []

instance (call : DrainCall) (handle : String) : Decidable (call.Holds handle) :=
  inferInstanceAs (Decidable (_ ∨ _))

variable {handle : String} {call next : DrainCall}

theorem held_of_not_holds {call : DrainCall} (free : ¬ call.Holds handle) : call.held handle = [] := by
  simp only [Holds, not_or, not_not] at free
  simp [held, free]

/-- A section on one handle is no section on another. -/
structure Agree (call next : DrainCall) (handle : String) : Prop where
  visit : next.visit handle = call.visit handle
  framed : next.framed handle = call.framed handle

theorem Agree.held (agree : Agree call next handle) : next.held handle = call.held handle := by
  simp only [DrainCall.held, agree.visit, agree.framed]

theorem Agree.holds (agree : Agree call next handle) : next.Holds handle ↔ call.Holds handle := by
  simp only [Holds, agree.visit, agree.framed]

end DrainCall

def Ends (registry : InvocationRegistry) (handle : InvocationHandle) (status : InvocationStatus) : Prop :=
  isTerminalStatus status = true ∧
    (registry.entries.lookup handle).any (fun entry => !entry.terminal) = true

instance (registry : InvocationRegistry) (handle : InvocationHandle) (status : InvocationStatus) :
    Decidable (Ends registry handle status) := inferInstanceAs (Decidable (_ ∧ _))

def Retains (state : BridgeState) : BridgeAction → Prop
  | .update handle status _ _ =>
    Ends state.registry handle status → state.registry.terminalOrder.length < maxRetainedInvocations
  | _ => True

/-- No invocation ends while a call has drained it and not yet polled it, and no call drains
    an invocation that another call holds. -/
def Undisturbed (state : BridgeState) : BridgeAction → Prop
  | .update handle status _ _ =>
    Ends state.registry handle status → ∀ id call, state.calls.lookup id = some call →
      call.visit handle = none
  | .drainSection id => ∀ call ∈ state.calls.lookup id, call.phase = .drain →
      ∀ handle ∈ call.handles.head?, ∀ other holder, state.calls.lookup other = some holder →
        other ≠ id → ¬ holder.Holds handle
  | _ => True

def Guarded (state : BridgeState) (action : BridgeAction) : Prop :=
  Retains state action ∧ Undisturbed state action

instance decidableRetains : ∀ state action, Decidable (Retains state action) := by
  intro state action
  unfold Retains
  cases action <;> infer_instance

instance decidableUndisturbed : ∀ state action, Decidable (Undisturbed state action) := by
  intro state action
  unfold Undisturbed
  cases action <;> infer_instance

instance decidableGuarded : ∀ state action, Decidable (Guarded state action) :=
  fun _ _ => inferInstanceAs (Decidable (_ ∧ _))

/-- What the queue of a handle was given is what was drained from it and what is in it, and
    the end was recorded just when the registry no longer runs the invocation. -/
structure Queued (state : BridgeState) (handle : String) : Prop where
  accounted : Accounted (state.logs handle).recorded (state.logs handle).overflowed
    (state.drained handle ++ ((state.registry.entries.lookup handle).map (·.events)).getD [])
  running : ∀ entry, state.registry.entries.lookup handle = some entry → entry.terminal = false →
    Unfinished (state.logs handle).recorded
  ended : handle ∈ state.issued →
    (∀ entry, state.registry.entries.lookup handle = some entry → entry.terminal = true) →
    Finished (state.logs handle).recorded
  fresh : handle ∉ state.issued → state.registry.entries.lookup handle = none ∧
    (state.logs handle).recorded = []

structure Carried (state : BridgeState) (handle : String) : Prop where
  single : ∀ id call other holder, state.calls.lookup id = some call →
    state.calls.lookup other = some holder → call.Holds handle → holder.Holds handle → id = other
  carried : ∀ id call, state.calls.lookup id = some call → call.Holds handle →
    state.drained handle = state.returned handle ++ call.held handle
  settled : (∀ id call, state.calls.lookup id = some call → ¬ call.Holds handle) →
    state.drained handle = state.returned handle

structure Visited (state : BridgeState) (handle : String) : Prop where
  polling : ∀ id call events, state.calls.lookup id = some call →
    call.visit handle = some (.poll events) →
    ∃ entry, state.registry.entries.lookup handle = some entry ∧
      (entry.terminal = true → entry.events = [])
  taking : ∀ id call, state.calls.lookup id = some call → call.visit handle = some .take →
    ∃ entry, state.registry.entries.lookup handle = some entry ∧ entry.terminal = true ∧
      entry.events = []

structure Departed (state : BridgeState) (handle : String) : Prop where
  known : (handle ∈ state.activeInvocations ∨ handle ∈ state.starting ∨
    ∃ id call, state.calls.lookup id = some call ∧ handle ∈ call.handles) → handle ∈ state.issued
  completed : ∀ id call, state.calls.lookup id = some call → handle ∈ call.completed →
    handle ∈ state.issued ∧ state.registry.entries.lookup handle = none ∧
      ∀ other holder, state.calls.lookup other = some holder → holder.Holds handle → other = id
  removed : handle ∈ state.removed →
    handle ∈ state.issued ∧ state.registry.entries.lookup handle = none ∧
      ∀ id call, state.calls.lookup id = some call → ¬ call.Holds handle

structure Bridged (state : BridgeState) (handle : String) : Prop
    extends Queued state handle, Carried state handle, Visited state handle, Departed state handle

variable {state next : BridgeState} {registry : InvocationRegistry} {status : InvocationStatus}

theorem Bridged.complete (bridged : Bridged state handle)
    (removed : handle ∈ state.removed) : Complete (state.logs handle) (state.returned handle) := by
  obtain ⟨issued, gone, free⟩ := bridged.removed removed
  refine .of_accounted ?_ (bridged.ended issued (by simp [gone]))
  rw [← bridged.settled free]
  simpa [gone] using bridged.accounted

/-! ## Steps that leave a handle alone -/

/-- Nothing changes for the handle: calls that hold it stay as they are, and other calls may
    begin, move on, find that it is gone, and end. -/
structure Untouched (state next : BridgeState) (handle : String) : Prop where
  entry : next.registry.entries.lookup handle = state.registry.entries.lookup handle
  log : next.logs handle = state.logs handle
  drained : next.drained handle = state.drained handle
  returned : next.returned handle = state.returned handle
  issued : handle ∈ next.issued ↔ handle ∈ state.issued
  removed : handle ∈ next.removed → handle ∈ state.removed
  known : (handle ∈ next.activeInvocations ∨ handle ∈ next.starting ∨
    ∃ id call, next.calls.lookup id = some call ∧ handle ∈ call.handles) → handle ∈ state.issued
  forward : ∀ id call, state.calls.lookup id = some call → call.Holds handle →
    ∃ after, next.calls.lookup id = some after ∧ call.Agree after handle
  backward : ∀ id after, next.calls.lookup id = some after → after.Holds handle →
    ∃ call, state.calls.lookup id = some call ∧ call.Agree after handle
  completed : ∀ id after, next.calls.lookup id = some after → handle ∈ after.completed →
    (∃ call, state.calls.lookup id = some call ∧ handle ∈ call.completed) ∨
    handle ∈ state.issued ∧ state.registry.entries.lookup handle = none ∧
      ∀ other holder, state.calls.lookup other = some holder → holder.Holds handle → other = id

theorem Bridged.untouched (bridged : Bridged state handle)
    (same : Untouched state next handle) : Bridged next handle := by
  have free : (∀ id call, next.calls.lookup id = some call → ¬ call.Holds handle) →
      ∀ id call, state.calls.lookup id = some call → ¬ call.Holds handle := by
    intro none id call running holds
    obtain ⟨after, runs, agree⟩ := same.forward id call running holds
    exact none id after runs (agree.holds.mpr holds)
  have visits : ∀ {call : DrainCall} {phase}, call.visit handle = some phase → call.Holds handle :=
    fun visiting => .inl (by simp [visiting])
  refine { accounted := ?_, running := ?_, ended := ?_, fresh := ?_, single := ?_, carried := ?_,
           settled := ?_, polling := ?_, taking := ?_, known := ?_, completed := ?_, removed := ?_ }
  · rw [same.entry, same.log, same.drained]
    exact bridged.accounted
  · rw [same.entry, same.log]
    exact bridged.running
  · rw [same.entry, same.log, same.issued]
    exact bridged.ended
  · rw [same.entry, same.log, same.issued]
    exact bridged.fresh
  · intro id after other holder runs otherRuns holds otherHolds
    obtain ⟨call, running, agree⟩ := same.backward id after runs holds
    obtain ⟨call', running', agree'⟩ := same.backward other holder otherRuns otherHolds
    exact bridged.single id call other call' running running' (agree.holds.mp holds) (agree'.holds.mp otherHolds)
  · intro id after runs holds
    obtain ⟨call, running, agree⟩ := same.backward id after runs holds
    rw [same.drained, same.returned, agree.held]
    exact bridged.carried id call running (agree.holds.mp holds)
  · intro none
    rw [same.drained, same.returned]
    exact bridged.settled (free none)
  · intro id after events runs visiting
    obtain ⟨call, running, agree⟩ := same.backward id after runs (visits visiting)
    rw [same.entry]
    exact bridged.polling id call events running (agree.visit ▸ visiting)
  · intro id after runs visiting
    obtain ⟨call, running, agree⟩ := same.backward id after runs (visits visiting)
    rw [same.entry]
    exact bridged.taking id call running (agree.visit ▸ visiting)
  · rw [same.issued]
    exact same.known
  · intro id after runs completed
    obtain ⟨issued, gone, alone⟩ : handle ∈ state.issued ∧ _ ∧ _ := by
      rcases same.completed id after runs completed with ⟨call, running, before⟩ | departed
      · exact bridged.completed id call running before
      · exact departed
    refine ⟨same.issued.mpr issued, same.entry.trans gone, fun other holder otherRuns holds => ?_⟩
    obtain ⟨call', running', agree'⟩ := same.backward other holder otherRuns holds
    exact alone other call' running' (agree'.holds.mp holds)
  · intro removed
    obtain ⟨issued, gone, alone⟩ := bridged.removed (same.removed removed)
    refine ⟨same.issued.mpr issued, same.entry.trans gone, fun id after runs holds => ?_⟩
    obtain ⟨call, running, agree⟩ := same.backward id after runs holds
    exact alone id call running (agree.holds.mp holds)

theorem DrainCall.Agree.refl (call : DrainCall) (handle : String) : call.Agree call handle :=
  ⟨rfl, rfl⟩

theorem Bridged.sameCalls (bridged : Bridged state handle)
    (entry : next.registry.entries.lookup handle = state.registry.entries.lookup handle)
    (log : next.logs handle = state.logs handle) (drained : next.drained = state.drained)
    (returned : next.returned = state.returned) (issued : handle ∈ next.issued ↔ handle ∈ state.issued)
    (removed : next.removed = state.removed) (calls : next.calls = state.calls)
    (known : handle ∈ next.activeInvocations ∨ handle ∈ next.starting → handle ∈ state.issued) :
    Bridged next handle := by
  refine bridged.untouched
    { entry, log, issued, drained := by rw [drained], returned := by rw [returned],
      removed := by simp [removed], known := ?_, forward := ?_, backward := ?_, completed := ?_ }
  · rw [calls]
    rintro (active | starting | visited)
    · exact known (.inl active)
    · exact known (.inr starting)
    · exact bridged.known (.inr (.inr visited))
  · intro id call running _
    exact ⟨call, by rwa [calls], .refl call handle⟩
  · intro id call running _
    exact ⟨call, by rwa [← calls], .refl call handle⟩
  · intro id call running completed
    exact .inl ⟨call, by rwa [← calls], completed⟩

/-! ## Worker steps -/

theorem Bridged.worker (bridged : ∀ handle, Bridged state handle)
    {entry after : InvocationEntry} {log : EventLog}
    (stored : state.registry.entries.lookup handle = some entry) (live : entry.terminal = false)
    (entries : registry.entries = state.registry.entries.insert handle after)
    (follows : ∀ read, Accounted (state.logs handle).recorded (state.logs handle).overflowed (read ++ entry.events) →
      Accounted log.recorded log.overflowed (read ++ after.events))
    (unfinished : after.terminal = false → Unfinished (state.logs handle).recorded → Unfinished log.recorded)
    (finished : after.terminal = true → Unfinished (state.logs handle).recorded → Finished log.recorded)
    (unvisited : after.terminal = true → ∀ id call, state.calls.lookup id = some call → call.visit handle = none)
    (other : String) :
    Bridged { state with registry, logs := Function.update state.logs handle log } other := by
  by_cases isHandle : other = handle
  · subst isHandle
    have own := bridged other
    have running := own.running entry stored live
    have lookup : registry.entries.lookup other = some after := by rw [entries, AList.lookup_insert]
    refine { accounted := ?_, running := ?_, ended := ?_, fresh := ?_, single := own.single,
             carried := own.carried, settled := own.settled, polling := ?_, taking := ?_,
             known := own.known, completed := ?_, removed := ?_ }
    · have accounted := own.accounted
      rw [stored] at accounted
      simpa [lookup] using follows _ accounted
    · intro found isFound live
      rw [lookup, Option.some.injEq] at isFound
      subst isFound
      simpa using unfinished live running
    · intro _ ended
      simpa using finished (ended after lookup) running
    · intro unissued
      simp [(own.fresh unissued).1] at stored
    · intro id call events runs visiting
      refine ⟨after, lookup, fun ends => ?_⟩
      simp [unvisited ends id call runs] at visiting
    · intro id call runs visiting
      obtain ⟨found, isFound, ended, _⟩ := own.taking id call runs visiting
      rw [stored, Option.some.injEq] at isFound
      rw [← isFound, live] at ended
      cases ended
    · intro id call runs completed
      simp [(own.completed id call runs completed).2.1] at stored
    · intro removed
      simp [(own.removed removed).2.1] at stored
  · refine (bridged other).sameCalls ?_ ?_ rfl rfl .rfl rfl rfl ?_
    · simp only [entries]
      exact AList.lookup_insert_ne isHandle
    · exact Function.update_of_ne isHandle _ _
    · rintro (active | starting)
      · exact (bridged other).known (.inl active)
      · exact (bridged other).known (.inr (.inl starting))

theorem update_retaining {handle : InvocationHandle} (output : Option InvocationOutput) (error : Option String)
    (retains : Ends registry handle status → registry.terminalOrder.length < maxRetainedInvocations)
    {entry : InvocationEntry} (stored : registry.entries.lookup handle = some entry)
    (live : entry.terminal = false) : (registry.update handle status output error).entries =
      registry.entries.insert handle (entry.setPoll status output error).announce := by
  rcases InvocationRegistry.update_cases registry handle status output error with
    ⟨_, ended⟩ | ⟨found, isFound, _, ⟨_, updated⟩ | ⟨ends, updated⟩⟩
  · rw [ended entry stored] at live
    cases live
  · rw [stored, Option.some.injEq] at isFound
    rw [updated, isFound]
  · rw [stored, Option.some.injEq] at isFound
    have bounded := retains ⟨ends, by simp [stored, live]⟩
    rw [updated, isFound, InvocationRegistry.evictOldTerminalEntries,
      InvocationRegistry.evictOldest_of_length_le _ (by simpa using Nat.succ_le_of_lt bounded)]

section

variable (bridged : ∀ handle, Bridged state handle)
include bridged

theorem Bridged.update {output : Option InvocationOutput} {error : Option String}
    (guarded : Guarded state (.update handle status output error)) (other : String) : Bridged { state with
      registry := state.registry.update handle status output error
      logs := Function.update state.logs handle
        ((state.logs handle).update state.registry handle status output error) } other := by
  obtain ⟨retains, undisturbed⟩ := guarded
  have unchanged : state.registry.update handle status output error = state.registry →
      (state.logs handle).update state.registry handle status output error = state.logs handle →
      Bridged { state with
        registry := state.registry.update handle status output error
        logs := Function.update state.logs handle
          ((state.logs handle).update state.registry handle status output error) } other := by
    intro same sameLog
    rw [same, sameLog, Function.update_eq_self]
    exact bridged other
  cases stored : state.registry.entries.lookup handle with
  | none => exact unchanged (by simp [InvocationRegistry.update, stored]) (by simp [EventLog.update, stored])
  | some entry =>
    cases live : entry.terminal with
    | true =>
      exact unchanged (by simp [InvocationRegistry.update, stored, live])
        (by simp [EventLog.update, stored, live])
    | false =>
      have log : (state.logs handle).update state.registry handle status output error =
          (state.logs handle).announce (entry.setPoll status output error) := by
        simp [EventLog.update, stored, live]
      rw [log]
      refine .worker bridged stored live (update_retaining output error retains stored live) ?_ ?_ ?_ ?_ other
      · intro read accounted
        exact EventLog.announce_accounted accounted
      · intro running
        exact EventLog.announce_unfinished (by simpa [InvocationEntry.terminal] using running)
      · intro ends
        exact EventLog.announce_finished (by simpa [InvocationEntry.terminal] using ends)
      · intro ends
        exact undisturbed ⟨by simpa using ends, by simp [stored, live]⟩

theorem Bridged.pushProviderEvent (handle : String) (event : ProviderEvent) (other : String) :
    Bridged { state with
      registry := state.registry.pushProviderEvent handle event
      logs := Function.update state.logs handle
        ((state.logs handle).providerEvent state.registry handle event) } other := by
  have unchanged : state.registry.pushProviderEvent handle event = state.registry →
      (state.logs handle).providerEvent state.registry handle event = state.logs handle →
      Bridged { state with
        registry := state.registry.pushProviderEvent handle event
        logs := Function.update state.logs handle
          ((state.logs handle).providerEvent state.registry handle event) } other := by
    intro same sameLog
    rw [same, sameLog, Function.update_eq_self]
    exact bridged other
  cases stored : state.registry.entries.lookup handle with
  | none =>
    exact unchanged (by simp [InvocationRegistry.pushProviderEvent, stored])
      (by simp [EventLog.providerEvent, stored])
  | some entry =>
    by_cases running : entry.poll.status = .running
    · have live : entry.terminal = false := by simp [InvocationEntry.terminal, running, isTerminalStatus]
      cases event with
      | outputDelta data =>
        have log : (state.logs handle).providerEvent state.registry handle (.outputDelta data) =
            (state.logs handle).record entry .outputDelta (some data) none := by
          simp [EventLog.providerEvent, stored, running]
        rw [log]
        refine .worker bridged stored live
          (by simp [InvocationRegistry.pushProviderEvent, stored, running]; rfl) ?_ ?_ ?_ ?_ other
        · intro read accounted
          exact EventLog.record_accounted _ _ _ accounted
        · intro _ unfinished
          exact EventLog.record_unfinished rfl _ _ unfinished
        all_goals
          intro ends
          simp [live] at ends
      | activity | stageStarted _ _ | stageCompleted _ _ _ | stageFailed _ _ _ _ =>
        exact unchanged (by simp [InvocationRegistry.pushProviderEvent, stored])
          (by simp [EventLog.providerEvent, stored])
    · refine unchanged (by simp [InvocationRegistry.pushProviderEvent, stored, running]) ?_
      cases event <;> simp [EventLog.providerEvent, stored, running]

theorem Bridged.startInvoke {cancellation : CancellationToken}
    (unissued : handle ∉ state.issued) (inserted : state.registry.insert handle cancellation = .ok registry)
    (other : String) : Bridged { state with
      registry
      starting := handle :: state.starting
      issued := handle :: state.issued } other := by
  unfold InvocationRegistry.insert at inserted
  split at inserted
  next => contradiction
  next =>
    cases inserted
    by_cases isHandle : other = handle
    · subst isHandle
      have own := bridged other
      obtain ⟨absent, blank⟩ := own.fresh unissued
      refine { accounted := ?_, running := ?_, ended := ?_, fresh := ?_, single := own.single,
               carried := own.carried, settled := own.settled, polling := ?_, taking := ?_,
               known := ?_, completed := ?_, removed := ?_ }
      · have accounted := own.accounted
        rw [absent] at accounted
        simpa using accounted
      · intro _ _ _
        simp [Unfinished, blank]
      · intro _ ended
        have impossible := ended _ (AList.lookup_insert _)
        cases impossible
      · intro fresh
        exact absurd List.mem_cons_self fresh
      · intro id call events runs visiting
        obtain ⟨entry, stored, _⟩ := own.polling id call events runs visiting
        simp [absent] at stored
      · intro id call runs visiting
        obtain ⟨entry, stored, _⟩ := own.taking id call runs visiting
        simp [absent] at stored
      · intro _
        exact List.mem_cons_self
      · intro id call runs completed
        exact absurd (own.completed id call runs completed).1 unissued
      · intro removed
        exact absurd (own.removed removed).1 unissued
    · refine (bridged other).sameCalls (AList.lookup_insert_ne isHandle) rfl rfl rfl ?_ rfl rfl ?_
      · simp [isHandle]
      · rintro (active | starting)
        · exact (bridged other).known (.inl active)
        · exact (bridged other).known (.inr (.inl (List.mem_of_ne_of_mem isHandle starting)))

theorem Bridged.activate (started : handle ∈ state.starting) (other : String) : Bridged { state with
      starting := state.starting.erase handle
      activeInvocations :=
        if handle ∈ state.activeInvocations then state.activeInvocations
        else state.activeInvocations.orderedInsert (· ≤ ·) handle } other := by
  refine (bridged other).sameCalls rfl rfl rfl rfl .rfl rfl rfl ?_
  rintro (active | starting)
  · by_cases isHandle : other = handle
    · subst isHandle
      exact (bridged other).known (.inr (.inl started))
    · refine (bridged other).known (.inl ?_)
      split at active
      · exact active
      · exact ((List.mem_orderedInsert _).mp active).resolve_left isHandle
  · exact (bridged other).known (.inr (.inl (List.mem_of_mem_erase starting)))

end

end Vifu.Runtime
