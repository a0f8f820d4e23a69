import Vifu.Runtime.Bridge.Frames
import Vifu.Runtime.Core.Sessions

/-!
# Effects that providers ask for

`execute_effects_with_limit` goes through a list of effects: it awaits an invocation for each `agent.invoke` and hands
the others back to the host.  The payload of an effect is read when its turn comes, after the invocations of the
effects before it.
-/

namespace Vifu.Runtime

open Foundation

structure EffectRequest where
  id : String
  kind : String
  payload : Value

structure EffectResult where
  effectId : String
  succeeded : Bool
  output : Value

structure EffectExecution where
  results : List EffectResult
  unhandled : List EffectRequest

def EffectRequest.Invokes (effect : EffectRequest) : Prop := effect.kind = "agent.invoke"

instance : DecidablePred EffectRequest.Invokes := fun effect => inferInstanceAs (Decidable (effect.kind = _))

def effectResult (effect : EffectRequest) : Except RuntimeError InvocationOutput → EffectResult
  | .ok output => { effectId := effect.id, succeeded := true, output := recordValue output.fields }
  | .error error =>
    { effectId := effect.id, succeeded := false, output := .object [("error", .string error.publicMessage)] }

def EffectRequest.Malformed (effect : EffectRequest) : Prop :=
  effect.Invokes ∧ InvocationInput.ofValue effect.payload = none

namespace CoreState

variable {σ : Type}

/-- `invoke(..).await`: the actions of the schedule, of this call and of all others, happen until it ends. -/
def awaitInvoke (state : CoreState σ) (host : RuntimeHost σ) (input : InvocationInput) (schedule : List CoreAction) :
    Option (Except RuntimeError InvocationOutput × CoreState σ) := do
  let created ← state.step host .createToken
  let started ← created.step host (.invoke input ⟨state.tokens⟩)
  let next ← (machine host state.projectId state.store).execute Machine.always started schedule
  match (← next.calls.lookup (invocationId state.nextInvocation)).phase with
  | .ended result => some (result, next)
  | _ => none

/-- The loop of `execute_effects_with_limit`.  There is one schedule for each invocation, and `complaint` is what
    `serde_json` says about a payload that it cannot read. -/
def executeLoop (state : CoreState σ) (host : RuntimeHost σ) (complaint : Value → String) :
    List EffectRequest → List (List CoreAction) → EffectExecution → Option (Except RuntimeError EffectExecution × CoreState σ)
  | [], _, execution => some (.ok execution, state)
  | effect :: effects, schedules, execution =>
    if effect.Invokes then
      match InvocationInput.ofValue effect.payload, schedules with
      | none, _ => some (.error (.invalidDefinition (complaint effect.payload)), state)
      | some _, [] => none
      | some input, schedule :: schedules =>
        match state.awaitInvoke host input schedule with
        | none => none
        | some (result, next) =>
          next.executeLoop host complaint effects schedules
            { execution with results := execution.results ++ [effectResult effect result] }
    else
      state.executeLoop host complaint effects schedules
        { execution with unhandled := execution.unhandled ++ [effect] }

/-- `execute_effects_with_limit`, if every invocation ends in its schedule. -/
def executeEffects (state : CoreState σ) (host : RuntimeHost σ) (complaint : Value → String) (limit : ℕ)
    (effects : List EffectRequest) (schedules : List (List CoreAction)) :
    Option (Except RuntimeError EffectExecution × CoreState σ) :=
  if limit < effects.length then some (.error (.effectLimitExceeded limit), state)
  else state.executeLoop host complaint effects schedules ⟨[], []⟩

variable {host : RuntimeHost σ} {state next : CoreState σ}

theorem CoreStep.nextInvocation {action : CoreAction} (stepped : CoreStep host state action next) :
    state.nextInvocation ≤ next.nextInvocation := by
  cases stepped with
  | run _ _ _ _ _ ran => exact ran.frame.2.1.ge
  | refuse | start | invoke => exact Nat.le_succ _
  | stay | define | createToken | cancelToken | takeInvocation | drainEvents | cancelInvocation | flag
  | publishCancelled | restoreSnapshot | restoreSession | restoreFail | replaceSessions | restorePoisoned
  | acknowledgeTraces => exact Nat.le_refl _

theorem awaitInvoke_counts {input : InvocationInput} {schedule : List CoreAction}
    {result : Except RuntimeError InvocationOutput}
    (ends : state.awaitInvoke host input schedule = some (result, next)) : state.nextInvocation < next.nextInvocation := by
  simp only [awaitInvoke, Option.bind_eq_bind, Option.bind_eq_some_iff] at ends
  obtain ⟨created, creates, started, starts, final, executed, call, _, isFinal⟩ := ends
  have counted : started.nextInvocation = state.nextInvocation + 1 := by
    cases creates
    simp only [step] at starts
    split at starts
    · cases starts
      rfl
    · cases starts
  have later : started.nextInvocation ≤ final.nextInvocation := by
    have grows : ∀ (reached : CoreState σ) (action : CoreAction) (after : CoreState σ),
        started.nextInvocation ≤ reached.nextInvocation → Machine.always reached action →
          (machine host state.projectId state.store).step reached action = some after →
            started.nextInvocation ≤ after.nextInvocation :=
      fun _ _ _ grown _ stepped => Nat.le_trans grown (CoreStep.nextInvocation (step_step stepped))
    exact (Machine.execute_runsTo executed).preserves grows (Nat.le_refl _)
  have same : final = next := by
    split at isFinal
    · cases isFinal
      rfl
    · cases isFinal
  subst same
  omega

/-! ## What the loop has done when it ends -/

variable {complaint : Value → String} {effects : List EffectRequest} {schedules : List (List CoreAction)}
  {execution : EffectExecution}

theorem executeLoop_cons {effect : EffectRequest} {outcome : Except RuntimeError EffectExecution × CoreState σ}
    (ends : state.executeLoop host complaint (effect :: effects) schedules execution = some outcome) :
    (¬effect.Invokes ∧ state.executeLoop host complaint effects schedules
        { execution with unhandled := execution.unhandled ++ [effect] } = some outcome) ∨
      (effect.Malformed ∧ outcome = (.error (.invalidDefinition (complaint effect.payload)), state)) ∨
        ∃ (result : Except RuntimeError InvocationOutput) (middle : CoreState σ) (later : List (List CoreAction)),
          effect.Invokes ∧ ¬effect.Malformed ∧ state.nextInvocation < middle.nextInvocation ∧
          middle.executeLoop host complaint effects later
            { execution with results := execution.results ++ [effectResult effect result] } = some outcome := by
  rw [executeLoop.eq_def] at ends
  dsimp only at ends
  split at ends
  next invokes =>
    split at ends
    next unreadable =>
      cases ends
      exact .inr (.inl ⟨⟨invokes, unreadable⟩, rfl⟩)
    next => cases ends
    next input schedule later readable =>
      split at ends
      next => cases ends
      next result middle awaited =>
        refine .inr (.inr ⟨result, middle, later, invokes, ?_, awaitInvoke_counts awaited, ends⟩)
        intro ⟨_, unreadable⟩
        cases readable.symm.trans unreadable
  next skips => exact .inl ⟨skips, ends⟩

theorem executeLoop_ok {final : EffectExecution}
    (ends : state.executeLoop host complaint effects schedules execution = some (.ok final, next)) :
    final.results.map EffectResult.effectId =
        execution.results.map EffectResult.effectId ++ (effects.filter (·.Invokes)).map EffectRequest.id ∧
      final.unhandled = execution.unhandled ++ effects.filter (¬·.Invokes) ∧
        ∀ effect ∈ effects, ¬effect.Malformed := by
  induction effects generalizing state schedules execution with
  | nil =>
    cases ends
    simp
  | cons effect effects ih =>
    rw [List.forall_mem_cons]
    rcases executeLoop_cons ends with ⟨skips, rest⟩ | ⟨_, impossible⟩ | ⟨result, middle, later, invokes, readable, _, rest⟩
    · obtain ⟨results, unhandled, readable⟩ := ih rest
      refine ⟨?_, ?_, fun malformed => skips malformed.1, readable⟩
      · simp [results, skips]
      · simp [unhandled, skips]
    · cases impossible
    · obtain ⟨results, unhandled, others⟩ := ih rest
      refine ⟨?_, ?_, readable, others⟩
      · have named : (effectResult effect result).effectId = effect.id := by cases result <;> rfl
        simp [results, invokes, named]
      · simp [unhandled, invokes]

theorem executeLoop_error {error : RuntimeError}
    (ends : state.executeLoop host complaint effects schedules execution = some (.error error, next)) :
    ∃ before effect after, effects = before ++ effect :: after ∧ effect.Malformed ∧
      (∀ earlier ∈ before, ¬earlier.Malformed) ∧
        (next = state ∧ (∀ earlier ∈ before, ¬earlier.Invokes) ∨
          state.nextInvocation < next.nextInvocation ∧ ∃ earlier ∈ before, earlier.Invokes) := by
  induction effects generalizing state schedules execution with
  | nil => cases ends
  | cons effect effects ih =>
    rcases executeLoop_cons ends with ⟨skips, rest⟩ | ⟨malformed, same⟩ | ⟨result, middle, later, invokes, readable, counts, rest⟩
    · obtain ⟨before, refused, after, rfl, malformed, others, done⟩ := ih rest
      refine ⟨effect :: before, refused, after, rfl, malformed, ?_, ?_⟩
      · exact List.forall_mem_cons.mpr ⟨fun isMalformed => skips isMalformed.1, others⟩
      · simpa [skips] using done
    · cases same
      exact ⟨[], effect, effects, rfl, malformed, by simp, .inl ⟨rfl, by simp⟩⟩
    · obtain ⟨before, refused, after, rfl, malformed, others, done⟩ := ih rest
      refine ⟨effect :: before, refused, after, rfl, malformed, List.forall_mem_cons.mpr ⟨readable, others⟩, .inr ?_⟩
      refine ⟨?_, effect, List.mem_cons_self, invokes⟩
      rcases done with ⟨rfl, _⟩ | ⟨grows, _⟩
      · exact counts
      · exact Nat.lt_trans counts grows

/-! ## All or nothing -/

/-- An error leaves the runtime as it was; otherwise each effect has a result or is handed back, in their order. -/
structure AllOrNothing (effects : List EffectRequest) (state : CoreState σ)
    (outcome : Except RuntimeError EffectExecution × CoreState σ) : Prop where
  failed : ∀ error, outcome.1 = .error error → outcome.2 = state
  executed : ∀ execution, outcome.1 = .ok execution →
    execution.results.map EffectResult.effectId = (effects.filter (·.Invokes)).map EffectRequest.id ∧
      execution.unhandled = effects.filter (¬·.Invokes)

/-- The list is too long, or no invocation comes before the first malformed effect. -/
def RefusedFirst (limit : ℕ) (effects : List EffectRequest) : Prop :=
  limit < effects.length ∨ ∀ before effect after, effects = before ++ effect :: after → effect.Malformed →
    (∀ earlier ∈ before, ¬earlier.Malformed) → ∀ earlier ∈ before, ¬earlier.Invokes

theorem first_malformed {before others after rest : List EffectRequest} {effect other : EffectRequest}
    (same : before ++ effect :: after = others ++ other :: rest) (malformed : effect.Malformed)
    (isMalformed : other.Malformed) (earlier : ∀ effect ∈ before, ¬effect.Malformed)
    (isEarlier : ∀ effect ∈ others, ¬effect.Malformed) : before = others := by
  rcases List.append_eq_append_iff.mp same with ⟨between, rfl, parts⟩ | ⟨between, rfl, parts⟩
  · cases between with
    | nil => simp
    | cons first between =>
      cases parts
      exact absurd malformed (isEarlier effect (by simp))
  · cases between with
    | nil => simp
    | cons first between =>
      cases parts
      exact absurd isMalformed (earlier other (by simp))

/-- Effects are executed all or not at all just when the list is refused before its first invocation, or is not
    refused. -/
theorem effects_all_or_nothing_iff (host : RuntimeHost σ) (complaint : Value → String) (limit : ℕ)
    (effects : List EffectRequest) (schedules : List (List CoreAction)) (state : CoreState σ)
    (outcome : Except RuntimeError EffectExecution × CoreState σ)
    (ends : state.executeEffects host complaint limit effects schedules = some outcome) :
    AllOrNothing effects state outcome ↔ RefusedFirst limit effects := by
  unfold executeEffects at ends
  split at ends
  next long =>
    cases ends
    exact iff_of_true ⟨fun _ _ => rfl, fun _ impossible => by cases impossible⟩ (.inl long)
  next short =>
    obtain ⟨result, next⟩ := outcome
    cases result with
    | ok execution =>
      obtain ⟨results, unhandled, readable⟩ := executeLoop_ok ends
      refine iff_of_true ⟨fun _ impossible => (by cases impossible), fun isOutcome same => ?_⟩ (.inr ?_)
      · cases same
        exact ⟨results, unhandled⟩
      · rintro before effect after rfl malformed
        exact absurd malformed (readable effect (by simp))
    | error error =>
      obtain ⟨before, effect, after, rfl, malformed, others, done⟩ := executeLoop_error ends
      constructor
      · intro nothing
        have unchanged : next = state := nothing.failed error rfl
        refine .inr fun earlier other rest same isMalformed isEarlier => ?_
        rw [← first_malformed same malformed isMalformed others isEarlier]
        rcases done with ⟨_, none⟩ | ⟨grows, _⟩
        · exact none
        · rw [unchanged] at grows
          exact absurd grows (Nat.lt_irrefl _)
      · intro refused
        have none := refused.resolve_left short before effect after rfl malformed others
        refine ⟨fun _ _ => ?_, fun _ impossible => by cases impossible⟩
        rcases done with ⟨same, _⟩ | ⟨_, earlier, member, invokes⟩
        · exact same
        · exact absurd invokes (none earlier member)

def guidedTown : CoreState MemoryRuntimeStore :=
  ((machine townHost "town" .empty).execute Machine.always townRuntime townSettings).getD townRuntime

def greeting : EffectRequest where
  id := "agent-effect"
  kind := "agent.invoke"
  payload := .object [("endpoint", .string "town-guide"), ("sessionId", .string "default")]

def animation : EffectRequest where
  id := "host-effect"
  kind := "game.play_animation"
  payload := .object [("name", .string "wave")]

def slip : EffectRequest where
  id := "late-effect"
  kind := "agent.invoke"
  payload := .null

def nullComplaint : Value → String := fun _ => "invalid type: null, expected struct InvocationInput"

theorem effects_all_or_nothing_greeting :
    ∃ outcome, guidedTown.executeEffects townHost nullComplaint 64 [greeting, animation]
        [untilResponse 1 ++ afterResponse 1] = some outcome ∧
      (AllOrNothing [greeting, animation] guidedTown outcome ↔ RefusedFirst 64 [greeting, animation]) := by
  have isSome : (guidedTown.executeEffects townHost nullComplaint 64 [greeting, animation]
      [untilResponse 1 ++ afterResponse 1]).isSome = true := by decide +kernel
  obtain ⟨outcome, ends⟩ := Option.isSome_iff_exists.mp isSome
  exact ⟨outcome, ends, effects_all_or_nothing_iff townHost nullComplaint 64 [greeting, animation]
    [untilResponse 1 ++ afterResponse 1] guidedTown outcome ends⟩

/-- The second effect is refused after the first has changed its session. -/
theorem late_refusal_keeps_session :
    ¬∀ (limit : ℕ) (effects : List EffectRequest) (schedules : List (List CoreAction))
        (state : CoreState MemoryRuntimeStore) (outcome : Except RuntimeError EffectExecution × CoreState MemoryRuntimeStore),
      state.executeEffects townHost nullComplaint limit effects schedules = some outcome →
        AllOrNothing effects state outcome := by
  intro atomic
  have passes : (guidedTown.executeEffects townHost nullComplaint 64 [greeting, slip]
      [untilResponse 1 ++ afterResponse 1]).any (fun outcome =>
        !outcome.1.isOk && (outcome.2.sessions.lookup "default").isSome) = true := by decide +kernel
  obtain ⟨outcome, ends, changed⟩ := (Option.any_eq_true _ _).mp passes
  rw [Bool.and_eq_true] at changed
  have nothing := atomic _ _ _ _ _ ends
  cases result : outcome.1 with
  | ok execution =>
    rw [result] at changed
    cases changed.1
  | error error =>
    have loaded := changed.2
    rw [nothing.failed error result] at loaded
    have absent : (guidedTown.sessions.lookup "default").isSome = false := by decide +kernel
    cases absent.symm.trans loaded

end CoreState

end Vifu.Runtime
