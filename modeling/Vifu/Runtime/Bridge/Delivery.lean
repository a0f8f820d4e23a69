import Vifu.Runtime.Bridge.Invariant

/-!
# Delivery of invocation events through the bridge

Between the section that drains a handle and the one that polls it, a worker can record the terminal
event, which goes with the entry when it is taken (`lost_terminal_event`).  This window, and two calls
that drain one handle at the same time, are the only ways to lose an event.
-/

namespace Vifu.Runtime

open Foundation

/-! ## Drain steps -/

variable {call : DrainCall} {current handle : String}

namespace DrainCall

theorem visit_of_drain (between : call.phase = .drain) (handle : String) : call.visit handle = none := by
  simp [visit, between]

theorem visit_of_ne (head : call.handles.head? = some current)
    (other : handle ≠ current) : call.visit handle = none := by
  simp [visit, head, Ne.symm other]

theorem framed_of_ne (call : DrainCall) (other : handle ≠ current)
    (events : List InvocationEvent) (output : Option InvocationOutput) :
    framed { call with frames := call.frames ++ events.map (eventFrame current output) } handle =
      call.framed handle := by
  have none : (events.map (eventFrame current output)).filter (·.payload.handle = handle) = [] := by
    simp [eventFrame, Ne.symm other]
  simp only [framed, List.filter_append, none, List.append_nil]

theorem framed_self (call : DrainCall) (current : String) (events : List InvocationEvent)
    (output : Option InvocationOutput) :
    framed { call with frames := call.frames ++ events.map (eventFrame current output) } current =
      call.framed current ++ events := by
  have all : (events.map (eventFrame current output)).filter (·.payload.handle = current) =
      events.map (eventFrame current output) := by
    simp [eventFrame]
  simp only [framed, List.filter_append, all, List.map_append, List.map_map]
  congr 1
  simp [Function.comp_def, eventFrame]

end DrainCall

variable {state : BridgeState} {drained : String → List InvocationEvent} {registry : InvocationRegistry} {id : ℕ}
  {call after : DrainCall} {handle : String}

theorem Bridged.beginDrain (bridged : ∀ handle, Bridged state handle)
    (unused : state.calls.lookup id = none) (handle : String) :
    Bridged { state with calls := state.calls.insert id (.start state.activeInvocations) } handle := by
  have idle : ¬ (DrainCall.start state.activeInvocations).Holds handle := by
    simp [DrainCall.Holds, DrainCall.start, DrainCall.visit, DrainCall.framed]
  refine (bridged handle).untouched
    { entry := rfl, log := rfl, drained := rfl, returned := rfl, issued := .rfl, removed := (·),
      known := ?_, forward := ?_, backward := ?_, completed := ?_ }
  · rintro (active | starting | ⟨other, call, runs, visits⟩)
    · exact (bridged handle).known (.inl active)
    · exact (bridged handle).known (.inr (.inl starting))
    · by_cases isNew : other = id
      · subst isNew
        rw [AList.lookup_insert, Option.some.injEq] at runs
        subst runs
        exact (bridged handle).known (.inl visits)
      · rw [AList.lookup_insert_ne isNew] at runs
        exact (bridged handle).known (.inr (.inr ⟨other, call, runs, visits⟩))
  · intro other call runs _
    have isOld : other ≠ id := by
      rintro rfl
      rw [unused] at runs
      cases runs
    exact ⟨call, by rwa [AList.lookup_insert_ne isOld], .refl call handle⟩
  · intro other call runs holds
    by_cases isNew : other = id
    · subst isNew
      rw [AList.lookup_insert, Option.some.injEq] at runs
      subst runs
      exact absurd holds idle
    · rw [AList.lookup_insert_ne isNew] at runs
      exact ⟨call, runs, .refl call handle⟩
  · intro other call runs completed
    by_cases isNew : other = id
    · subst isNew
      rw [AList.lookup_insert, Option.some.injEq] at runs
      subst runs
      cases completed
    · rw [AList.lookup_insert_ne isNew] at runs
      exact .inl ⟨call, runs, completed⟩

theorem Bridged.besideSection (bridged : Bridged state handle) (running : state.calls.lookup id = some call)
    (entry : registry.entries.lookup handle = state.registry.entries.lookup handle)
    (sameDrained : drained handle = state.drained handle) (agree : call.Agree after handle)
    (fewer : ∀ visited ∈ after.handles, visited ∈ call.handles)
    (completed : handle ∈ after.completed → handle ∈ call.completed ∨
      handle ∈ state.issued ∧ state.registry.entries.lookup handle = none ∧
        ∀ other holder, state.calls.lookup other = some holder → holder.Holds handle → other = id) :
    Bridged { state with registry, drained, calls := state.calls.insert id after } handle := by
  refine bridged.untouched
    { entry, log := rfl, drained := sameDrained, returned := rfl, issued := .rfl, removed := (·),
      known := ?_, forward := ?_, backward := ?_, completed := ?_ }
  · rintro (active | starting | ⟨other, found, runs, visits⟩)
    · exact bridged.known (.inl active)
    · exact bridged.known (.inr (.inl starting))
    · by_cases isCall : other = id
      · subst isCall
        rw [AList.lookup_insert, Option.some.injEq] at runs
        subst runs
        exact bridged.known (.inr (.inr ⟨other, call, running, fewer handle visits⟩))
      · rw [AList.lookup_insert_ne isCall] at runs
        exact bridged.known (.inr (.inr ⟨other, found, runs, visits⟩))
  · intro other found runs _
    by_cases isCall : other = id
    · subst isCall
      rw [running, Option.some.injEq] at runs
      subst runs
      exact ⟨after, AList.lookup_insert _, agree⟩
    · exact ⟨found, by rwa [AList.lookup_insert_ne isCall], .refl found handle⟩
  · intro other found runs _
    by_cases isCall : other = id
    · subst isCall
      rw [AList.lookup_insert, Option.some.injEq] at runs
      subst runs
      exact ⟨call, running, agree⟩
    · rw [AList.lookup_insert_ne isCall] at runs
      exact ⟨found, runs, .refl found handle⟩
  · intro other found runs isCompleted
    by_cases isCall : other = id
    · subst isCall
      rw [AList.lookup_insert, Option.some.injEq] at runs
      subst runs
      exact (completed isCompleted).imp_left fun before => ⟨call, running, before⟩
    · rw [AList.lookup_insert_ne isCall] at runs
      exact .inl ⟨found, runs, isCompleted⟩

variable {entry : InvocationEntry}

theorem Bridged.ownSection (bridged : Bridged state handle) (running : state.calls.lookup id = some call)
    (visits : handle ∈ call.handles) (stored : state.registry.entries.lookup handle = some entry)
    (alone : ∀ other holder, state.calls.lookup other = some holder → holder.Holds handle → other = id)
    (queued : Queued { state with registry, drained } handle)
    (carried : drained handle = state.returned handle ++ after.held handle)
    (polling : ∀ events, after.visit handle = some (.poll events) →
      ∃ entry, registry.entries.lookup handle = some entry ∧ (entry.terminal = true → entry.events = []))
    (taking : after.visit handle = some .take → ∃ entry, registry.entries.lookup handle = some entry ∧
      entry.terminal = true ∧ entry.events = [])
    (gone : handle ∈ after.completed → registry.entries.lookup handle = none) :
    Bridged { state with registry, drained, calls := state.calls.insert id after } handle := by
  have issued : handle ∈ state.issued := bridged.known (.inr (.inr ⟨id, call, running, visits⟩))
  -- the calls that hold the handle after the section
  have holders : ∀ other holder, (state.calls.insert id after).lookup other = some holder →
      holder.Holds handle → other = id ∧ holder = after := by
    intro other holder runs holds
    by_cases isCall : other = id
    · subst isCall
      rw [AList.lookup_insert, Option.some.injEq] at runs
      exact ⟨rfl, runs.symm⟩
    · rw [AList.lookup_insert_ne isCall] at runs
      exact absurd (alone other holder runs holds) isCall
  have visiting : ∀ other holder phase, (state.calls.insert id after).lookup other = some holder →
      holder.visit handle = some phase → holder = after :=
    fun other holder phase runs visits => (holders other holder runs (.inl (by simp [visits]))).2
  refine { accounted := queued.accounted, running := queued.running, ended := queued.ended,
           fresh := queued.fresh, single := ?_, carried := ?_, settled := ?_, polling := ?_,
           taking := ?_, known := fun _ => issued, completed := ?_, removed := ?_ }
  · intro first _ second _ firstRuns secondRuns firstHolds secondHolds
    rw [(holders _ _ firstRuns firstHolds).1, (holders _ _ secondRuns secondHolds).1]
  · intro other holder runs holds
    rw [(holders other holder runs holds).2]
    exact carried
  · intro none
    have free := none id after (AList.lookup_insert _)
    simpa [DrainCall.held_of_not_holds free] using carried
  · intro other holder events runs visits
    rw [visiting other holder _ runs visits] at visits
    exact polling events visits
  · intro other holder runs visits
    rw [visiting other holder _ runs visits] at visits
    exact taking visits
  · intro other found runs completed
    by_cases isCall : other = id
    · subst isCall
      rw [AList.lookup_insert, Option.some.injEq] at runs
      subst runs
      exact ⟨issued, gone completed, fun other holder runs holds => (holders other holder runs holds).1⟩
    · rw [AList.lookup_insert_ne isCall] at runs
      simp [(bridged.completed other found runs completed).2.1] at stored
  · intro removed
    simp [(bridged.removed removed).2.1] at stored

/-! ## The three sections -/

section Sections

variable {rest : List String}
  {events : List InvocationEvent}

theorem afterSection_gone (drains : call.phase = .drain)
    (absent : state.registry.entries.lookup current = none) : state.afterSection id call current =
      { state with calls := state.calls.insert id (call.complete current) } := by
  simp [BridgeState.afterSection, DrainCall.runSection, drains, InvocationRegistry.drainEvents, absent]

theorem afterSection_drain (drains : call.phase = .drain)
    (stored : state.registry.entries.lookup current = some entry) : state.afterSection id call current =
      { state with
        registry.entries := state.registry.entries.insert current { entry with events := [] }
        drained := Function.update state.drained current (state.drained current ++ entry.events)
        calls := state.calls.insert id { call with phase := .poll entry.events } } := by
  simp [BridgeState.afterSection, DrainCall.runSection, drains, InvocationRegistry.drainEvents_of_lookup stored]

theorem afterSection_poll (polls : call.phase = .poll events)
    (stored : state.registry.entries.lookup current = some entry) : state.afterSection id call current =
      let framed := { call with frames := call.frames ++ events.map (eventFrame current entry.poll.output) }
      { state with
        calls := state.calls.insert id
          (if entry.terminal then { framed with phase := .take } else framed.advance) } := by
  cases ended : isTerminalStatus entry.poll.status <;>
    simp [BridgeState.afterSection, DrainCall.runSection, polls, InvocationRegistry.poll, stored,
      InvocationEntry.terminal, ended]

theorem afterSection_take (takes : call.phase = .take)
    (stored : state.registry.entries.lookup current = some entry) (ended : entry.terminal = true) :
    state.afterSection id call current =
      { state with
        registry := state.registry.remove current
        calls := state.calls.insert id (call.complete current) } := by
  simp [BridgeState.afterSection, DrainCall.runSection, takes, InvocationRegistry.take_of_lookup stored, ended]

variable (bridged : ∀ handle, Bridged state handle) (running : state.calls.lookup id = some call)
  (visits : call.handles = current :: rest)

include visits in
theorem advance_fewer : ∀ visited ∈ call.advance.handles, visited ∈ call.handles := by
  simp only [DrainCall.advance, visits, List.tail_cons]
  exact fun visited later => List.mem_cons_of_mem current later

include bridged running visits in
theorem Bridged.drainPhase (drains : call.phase = .drain)
    (alone : ∀ other holder, state.calls.lookup other = some holder → other ≠ id → ¬ holder.Holds current)
    (handle : String) : Bridged (state.afterSection id call current) handle := by
  have head : call.handles.head? = some current := by rw [visits]; rfl
  have member : current ∈ call.handles := by rw [visits]; exact List.mem_cons_self
  have alone' : ∀ other holder, state.calls.lookup other = some holder → holder.Holds current → other = id :=
    fun other holder runs holds => by_contra fun differs => alone other holder runs differs holds
  have between := call.visit_of_drain drains
  cases stored : state.registry.entries.lookup current with
  | none =>
    rw [afterSection_gone drains stored]
    refine (bridged handle).besideSection running rfl rfl ⟨?_, rfl⟩ (advance_fewer visits) ?_
    · rw [between]
      exact DrainCall.visit_of_drain rfl handle
    · intro completed
      rcases List.mem_append.mp completed with before | isCurrent
      · exact .inl before
      · rw [List.mem_singleton] at isCurrent
        subst isCurrent
        exact .inr ⟨(bridged handle).known (.inr (.inr ⟨id, call, running, member⟩)), stored, alone'⟩
  | some entry =>
    rw [afterSection_drain drains stored]
    by_cases isCurrent : handle = current
    · subst isCurrent
      have own := bridged handle
      have held : DrainCall.held { call with phase := .poll entry.events } handle =
          call.held handle ++ entry.events := by
        simp [DrainCall.held, DrainCall.visit, DrainCall.framed, head, drains]
      have issued : handle ∈ state.issued := own.known (.inr (.inr ⟨id, call, running, member⟩))
      refine own.ownSection running member stored alone'
        { accounted := ?_, running := ?_, ended := ?_, fresh := ?_ } ?_ ?_ ?_ ?_
      · have accounted := own.accounted
        rw [stored] at accounted
        simpa using accounted
      · intro found isFound live
        rw [AList.lookup_insert, Option.some.injEq] at isFound
        subst isFound
        exact own.running entry stored live
      · intro _ ended
        refine own.ended issued fun found isFound => ?_
        rw [stored, Option.some.injEq] at isFound
        subst isFound
        exact ended { entry with events := [] } (AList.lookup_insert _)
      · intro unissued
        exact absurd issued unissued
      · have carried : state.drained handle = state.returned handle ++ call.held handle := by
          by_cases holds : call.Holds handle
          · exact own.carried id call running holds
          · rw [DrainCall.held_of_not_holds holds, List.append_nil]
            refine own.settled fun other holder runs otherHolds => ?_
            have isCall := alone' other holder runs otherHolds
            subst isCall
            rw [running, Option.some.injEq] at runs
            subst runs
            exact holds otherHolds
        rw [Function.update_self, held, carried, List.append_assoc]
      · intro events polls
        exact ⟨_, AList.lookup_insert _, fun _ => rfl⟩
      · intro takes
        simp [DrainCall.visit] at takes
      · intro completed
        simp [(own.completed id call running completed).2.1] at stored
    · refine (bridged handle).besideSection running ?_ ?_ ⟨?_, rfl⟩ (fun _ visited => visited) .inl
      · exact AList.lookup_insert_ne isCurrent
      · exact Function.update_of_ne isCurrent _ _
      · rw [between]
        exact DrainCall.visit_of_ne head isCurrent

include bridged running visits in
theorem Bridged.pollPhase (polls : call.phase = .poll events)
    (handle : String) : Bridged (state.afterSection id call current) handle := by
  have head : call.handles.head? = some current := by rw [visits]; rfl
  have member : current ∈ call.handles := by rw [visits]; exact List.mem_cons_self
  have visit : call.visit current = some (.poll events) := by simp [DrainCall.visit, head, polls]
  have holds : call.Holds current := .inl (by simp [visit])
  obtain ⟨entry, stored, quiet⟩ := (bridged current).polling id call events running visit
  rw [afterSection_poll polls stored]
  by_cases isCurrent : handle = current
  · subst isCurrent
    have own := bridged handle
    have held : call.held handle = call.framed handle ++ events := by simp [DrainCall.held, visit]
    have carried := own.carried id call running holds
    rw [held] at carried
    refine own.ownSection running member stored
      (fun other holder runs otherHolds => own.single other holder id call runs running otherHolds holds)
      { own.toQueued with } ?_ ?_ ?_ ?_
    · rw [carried]
      cases ended : entry.terminal with
      | true =>
        simp only [↓reduceIte, DrainCall.held, DrainCall.visit, head, List.append_right_inj]
        simp only [ne_eq, reduceCtorEq, not_false_eq_true, and_self, ↓reduceIte, List.append_nil]
        exact (call.framed_self handle events entry.poll.output).symm
      | false =>
        rw [DrainCall.held, DrainCall.visit_of_drain rfl, List.append_nil]
        exact congrArg _ (call.framed_self handle events entry.poll.output).symm
    · intro later isPolling
      cases ended : entry.terminal <;> simp [ended, DrainCall.visit, DrainCall.advance] at isPolling
    · intro isTaking
      cases ended : entry.terminal with
      | true => exact ⟨entry, stored, ended, quiet ended⟩
      | false => simp [ended, DrainCall.visit, DrainCall.advance] at isTaking
    · intro completed
      refine (own.completed id call running ?_).2.1
      cases ended : entry.terminal <;> simpa [ended, DrainCall.advance] using completed
  · have framed := call.framed_of_ne isCurrent events entry.poll.output
    refine (bridged handle).besideSection running rfl rfl ⟨?_, ?_⟩ ?_ ?_
    · rw [DrainCall.visit_of_ne head isCurrent]
      cases entry.terminal with
      | true => exact DrainCall.visit_of_ne head isCurrent
      | false => exact DrainCall.visit_of_drain rfl handle
    · rw [← framed]
      cases entry.terminal <;> rfl
    · cases entry.terminal with
      | true => exact fun _ visited => visited
      | false => exact advance_fewer visits
    · intro completed
      cases ended : entry.terminal <;> simp [ended, DrainCall.advance] at completed <;> exact .inl completed

include bridged running visits in
theorem Bridged.takePhase (takes : call.phase = .take) (handle : String) :
    Bridged (state.afterSection id call current) handle := by
  have head : call.handles.head? = some current := by rw [visits]; rfl
  have member : current ∈ call.handles := by rw [visits]; exact List.mem_cons_self
  have visit : call.visit current = some .take := by simp [DrainCall.visit, head, takes]
  have holds : call.Holds current := .inl (by simp [visit])
  obtain ⟨entry, stored, ended, quiet⟩ := (bridged current).taking id call running visit
  rw [afterSection_take takes stored ended]
  by_cases isCurrent : handle = current
  · subst isCurrent
    have own := bridged handle
    have gone : (state.registry.remove handle).entries.lookup handle = none := AList.lookup_erase _ _
    have issued : handle ∈ state.issued := own.known (.inr (.inr ⟨id, call, running, member⟩))
    refine own.ownSection running member stored
      (fun other holder runs otherHolds => own.single other holder id call runs running otherHolds holds)
      { accounted := ?_, running := ?_, ended := ?_, fresh := ?_ } ?_ ?_ ?_ (fun _ => gone)
    · have accounted := own.accounted
      rw [stored] at accounted
      simpa [gone, quiet] using accounted
    · simp [gone]
    · intro _ _
      refine own.ended issued fun found isFound => ?_
      rw [stored, Option.some.injEq] at isFound
      rwa [← isFound]
    · intro unissued
      exact absurd issued unissued
    · rw [own.carried id call running holds, DrainCall.held, visit, DrainCall.held,
        DrainCall.visit_of_drain rfl]
      rfl
    · intro events polls
      rw [DrainCall.visit_of_drain rfl] at polls
      cases polls
    · intro isTaking
      rw [DrainCall.visit_of_drain rfl] at isTaking
      cases isTaking
  · refine (bridged handle).besideSection running ?_ rfl ⟨?_, rfl⟩ (advance_fewer visits) ?_
    · exact AList.lookup_erase_ne isCurrent
    · rw [DrainCall.visit_of_ne head isCurrent]
      exact DrainCall.visit_of_drain rfl handle
    · intro completed
      exact .inl ((List.mem_append.mp completed).resolve_right (by simpa using isCurrent))

end Sections

/-! ## Ending a call -/

theorem Bridged.finishDrain (bridged : ∀ handle, Bridged state handle)
    (running : state.calls.lookup id = some call) (visitedAll : call.handles = []) (handle : String) :
    Bridged { state with
      activeInvocations := state.activeInvocations.filter (· ∉ call.completed)
      calls := state.calls.erase id
      returned := fun handle => state.returned handle ++ call.framed handle
      removed := state.removed ++ state.activeInvocations.filter (· ∈ call.completed) } handle := by
  have own := bridged handle
  have held : call.held handle = call.framed handle := by simp [DrainCall.held, DrainCall.visit, visitedAll]
  have others : ∀ {other found}, (state.calls.erase id).lookup other = some found →
      other ≠ id ∧ state.calls.lookup other = some found := by
    intro other found runs
    by_cases isCall : other = id
    · subst isCall
      simp [AList.lookup_erase] at runs
    · exact ⟨isCall, by rwa [AList.lookup_erase_ne isCall] at runs⟩
  -- the returned frames settle the handle, or the call held nothing of it
  have returned : call.Holds handle → state.drained handle = state.returned handle ++ call.framed handle := by
    intro holds
    rw [← held]
    exact own.carried id call running holds
  have nothing : ¬ call.Holds handle → call.framed handle = [] := by
    intro free
    rw [← held]
    exact DrainCall.held_of_not_holds free
  refine { accounted := own.accounted, running := own.running, ended := own.ended, fresh := own.fresh,
           single := ?_, carried := ?_, settled := ?_, polling := ?_, taking := ?_, known := ?_,
           completed := ?_, removed := ?_ }
  · intro first firstCall second secondCall firstRuns secondRuns
    exact own.single first firstCall second secondCall (others firstRuns).2 (others secondRuns).2
  · intro other found runs holds
    have free : ¬ call.Holds handle := fun callHolds =>
      (others runs).1 (own.single other found id call (others runs).2 running holds callHolds)
    simp only [nothing free, List.append_nil]
    exact own.carried other found (others runs).2 holds
  · intro none
    by_cases holds : call.Holds handle
    · exact returned holds
    · simp only [nothing holds, List.append_nil]
      refine own.settled fun other found runs otherHolds => ?_
      by_cases isCall : other = id
      · subst isCall
        rw [running, Option.some.injEq] at runs
        exact holds (runs ▸ otherHolds)
      · exact none other found (by rwa [AList.lookup_erase_ne isCall]) otherHolds
  · intro other found events runs
    exact own.polling other found events (others runs).2
  · intro other found runs
    exact own.taking other found (others runs).2
  · rintro (active | starting | ⟨other, found, runs, visits⟩)
    · exact own.known (.inl (List.mem_filter.mp active).1)
    · exact own.known (.inr (.inl starting))
    · exact own.known (.inr (.inr ⟨other, found, (others runs).2, visits⟩))
  · intro other found runs completed
    obtain ⟨issued, gone, alone⟩ := own.completed other found (others runs).2 completed
    exact ⟨issued, gone, fun third holder thirdRuns => alone third holder (others thirdRuns).2⟩
  · intro removed
    rcases List.mem_append.mp removed with before | completed
    · obtain ⟨issued, gone, free⟩ := own.removed before
      exact ⟨issued, gone, fun other found runs => free other found (others runs).2⟩
    · obtain ⟨issued, gone, alone⟩ := own.completed id call running (by simpa using (List.mem_filter.mp completed).2)
      exact ⟨issued, gone, fun other found runs holds =>
        (others runs).1 (alone other found (others runs).2 holds)⟩

/-! ## Main results -/

theorem Bridged.initial (handle : String) : Bridged .initial handle where
  accounted := .nil
  running _ stored := nomatch stored
  ended issued := nomatch issued
  fresh _ := ⟨rfl, rfl⟩
  single _ _ _ _ runs := nomatch runs
  carried _ _ runs := nomatch runs
  settled _ := rfl
  polling _ _ _ runs := nomatch runs
  taking _ _ runs := nomatch runs
  known := by rintro (active | starting | ⟨_, _, runs, _⟩) <;> contradiction
  completed _ _ runs := nomatch runs
  removed removed := nomatch removed

theorem Bridged.step {state next : BridgeState} {action : BridgeAction}
    (bridged : ∀ handle, Bridged state handle) (guarded : Guarded state action)
    (stepped : state.step action = some next) : ∀ handle, Bridged next handle := by
  cases action with
  | startInvoke handle cancellation =>
    simp only [BridgeState.step] at stepped
    split at stepped
    · contradiction
    next unissued =>
      split at stepped
      next registry inserted =>
        cases stepped
        exact .startInvoke bridged unissued inserted
      next =>
        cases stepped
        exact bridged
  | activate handle =>
    simp only [BridgeState.step] at stepped
    split at stepped
    next started =>
      cases stepped
      exact .activate bridged started
    · contradiction
  | update handle status output error =>
    cases stepped
    exact .update bridged guarded
  | pushProviderEvent handle event =>
    cases stepped
    exact .pushProviderEvent bridged handle event
  | beginDrain id =>
    simp only [BridgeState.step] at stepped
    split at stepped
    · contradiction
    next unused =>
      cases stepped
      exact .beginDrain bridged unused
  | drainSection id =>
    simp only [BridgeState.step] at stepped
    split at stepped
    next call running =>
      split at stepped
      next current rest visits =>
        cases stepped
        cases phase : call.phase with
        | drain =>
          refine .drainPhase bridged running visits phase ?_
          exact guarded.2 call running phase current (by simp [visits])
        | poll events => exact .pollPhase bridged running visits phase
        | take => exact .takePhase bridged running visits phase
      next => contradiction
    next => contradiction
  | finishDrain id =>
    simp only [BridgeState.step] at stepped
    split at stepped
    next call running =>
      split at stepped
      next visitedAll =>
        cases stepped
        exact .finishDrain bridged running visitedAll
      next => contradiction
    next => contradiction

/-- In every run that retains at most 256 finished invocations, ends no invocation between a
    drain and its poll, and drains no handle that another call holds: when a handle has been
    removed from the active invocations, the events recorded for it had been returned. -/
theorem drained_events_delivered (state : BridgeState) (reachable : BridgeState.machine.Reachable Guarded state) :
    Delivered state := by
  have bridged : ∀ handle, Bridged state handle := reachable.invariant
    (by rintro _ rfl; exact Bridged.initial)
    (fun _ _ _ holds guarded stepped => Bridged.step holds guarded stepped)
  exact fun handle removed => (bridged handle).complete removed

def drainStarted : List BridgeAction :=
  [.startInvoke "invocation-1" ⟨0⟩, .activate "invocation-1", .update "invocation-1" .running none none,
    .beginDrain 0, .drainSection 0]

def drainToEnd : List BridgeAction := [.drainSection 0, .drainSection 0, .finishDrain 0]

/-- Started and completed between two calls: both events are returned. -/
theorem drained_events_delivered_run :
    ∃ state, (BridgeState.machine.Reachable Guarded state ∧ "invocation-1" ∈ state.removed ∧
      (state.returned "invocation-1").map (·.kind) = [.started, .completed]) ∧ Delivered state := by
  obtain ⟨state, reachable, passes⟩ := Machine.reachable_of_execute BridgeState.machine Guarded rfl
    (drainStarted ++ [.drainSection 0, .finishDrain 0,
      .update "invocation-1" .completed none none, .beginDrain 0, .drainSection 0] ++ drainToEnd)
    (fun state => decide ("invocation-1" ∈ state.removed ∧
      (state.returned "invocation-1").map (·.kind) = [.started, .completed]))
    (by decide +kernel)
  exact ⟨state, ⟨reachable, of_decide_eq_true passes⟩, drained_events_delivered state reachable⟩

/-- The worker completes between the drain and the poll: the call takes the entry, and the
    completed event with it, although the queue held two events at most. -/
theorem lost_terminal_event :
    ∃ state, BridgeState.machine.Reachable Retains state ∧ "invocation-1" ∈ state.removed ∧
      (state.logs "invocation-1").overflowed = false ∧
      ((state.logs "invocation-1").recorded).map (·.kind) = [.started, .completed] ∧
      (state.returned "invocation-1").map (·.kind) = [.started] ∧ ¬ Delivered state := by
  obtain ⟨state, reachable, passes⟩ := Machine.reachable_of_execute BridgeState.machine Retains rfl
    (drainStarted ++ [.update "invocation-1" .completed none none] ++ drainToEnd)
    (fun state => decide ("invocation-1" ∈ state.removed ∧
      (state.logs "invocation-1").overflowed = false ∧
      ((state.logs "invocation-1").recorded).map (·.kind) = [.started, .completed] ∧
      (state.returned "invocation-1").map (·.kind) = [.started]))
    (by decide +kernel)
  obtain ⟨removed, intact, recorded, returned⟩ := of_decide_eq_true passes
  refine ⟨state, reachable, removed, intact, recorded, returned, fun delivered => ?_⟩
  have same := (delivered _ removed).accounted.complete intact
  rw [same, recorded] at returned
  contradiction

end Vifu.Runtime
