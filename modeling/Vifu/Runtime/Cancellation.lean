import Mathlib.Data.List.Count
import Vifu.Foundation.Machine

/-!
# The cancellation token

`cancel()` swaps the flag and, if it was the first to set it, calls `notify_waiters`.
`cancelled()` tests the flag and, if it is not set, creates a `Notified` future and awaits it.
`notify_waiters` wakes the futures that exist at that moment and no later one: a waiter that has
tested the flag but not yet created its future parks for ever.
-/

namespace Vifu.Runtime

open Foundation

/-- Where a call of `cancelled()` stands. -/
inductive WaiterPhase where
  /-- It found the flag unset, and is about to create its future. -/
  | tested
  /-- It awaits its future, which `notify_waiters` may have woken. -/
  | parked (woken : Bool)
  | returned
  /-- The future of the call was dropped by its `select!`. -/
  | dropped
  deriving DecidableEq, Repr

/-- Where a call of `cancel()` stands. -/
inductive CancelPhase where
  /-- It was the first to set the flag, and is about to call `notify_waiters`. -/
  | notifying
  | returned
  deriving DecidableEq, Repr

/-- The state that the clones of a token share, and the calls made on them. -/
structure CancellationState where
  cancelled : Bool
  waiters : List WaiterPhase
  cancels : List CancelPhase
  deriving DecidableEq, Repr

inductive CancellationAction where
  /-- A new call of `cancelled()` tests the flag. -/
  | test
  /-- A waiter creates and enables its `Notified` future. -/
  | notified (waiter : ℕ)
  /-- A waiter whose future was woken returns. -/
  | wake (waiter : ℕ)
  | drop (waiter : ℕ)
  /-- A new call of `cancel()` swaps the flag. -/
  | swap
  | notifyWaiters (cancel : ℕ)
  deriving DecidableEq, Repr

/-- `notify_waiters` as one waiter sees it. -/
def WaiterPhase.notify : WaiterPhase → WaiterPhase
  | .parked _ => .parked true
  | phase => phase

namespace CancellationState

/-- `CancellationState::default()`. -/
def initial : CancellationState := { cancelled := false, waiters := [], cancels := [] }

def step (state : CancellationState) : CancellationAction → Option CancellationState
  | .test =>
    some { state with waiters := state.waiters ++ [if state.cancelled then .returned else .tested] }
  | .notified waiter =>
    match state.waiters[waiter]? with
    | some .tested => some { state with waiters := state.waiters.set waiter (.parked false) }
    | _ => none
  | .wake waiter =>
    match state.waiters[waiter]? with
    | some (.parked true) => some { state with waiters := state.waiters.set waiter .returned }
    | _ => none
  | .drop waiter =>
    match state.waiters[waiter]? with
    | some .tested | some (.parked _) => some { state with waiters := state.waiters.set waiter .dropped }
    | _ => none
  | .swap =>
    some { state with
      cancelled := true
      cancels := state.cancels ++ [if state.cancelled then .returned else .notifying] }
  | .notifyWaiters cancel =>
    match state.cancels[cancel]? with
    | some .notifying =>
      some { state with
        waiters := state.waiters.map (·.notify)
        cancels := state.cancels.set cancel .returned }
    | _ => none

def machine : Machine CancellationState CancellationAction where
  start state := state = initial
  step := step

/-- Once `cancel()` has set the flag and finished, no waiter is parked with no wake pending. -/
def Woken (state : CancellationState) : Prop :=
  state.cancelled = true → .notifying ∉ state.cancels → .parked false ∉ state.waiters

instance decidableWoken (state : CancellationState) : Decidable (Woken state) :=
  inferInstanceAs (Decidable (_ → _ → _))

/-- `notify_waiters` is called when no waiter stands between its test and its future. -/
def Attended (state : CancellationState) : CancellationAction → Prop
  | .notifyWaiters _ => .tested ∉ state.waiters
  | _ => True

instance decidableAttended : ∀ state action, Decidable (Attended state action) := by
  intro state action
  unfold Attended
  cases action <;> infer_instance

/-! ## What a step can do -/

/-- One call of `cancel()` at most is to notify, and none before the flag is set. -/
structure SingleNotifier (state : CancellationState) : Prop where
  unset : state.cancelled = false → state.cancels = []
  single : state.cancels.count .notifying ≤ 1

/-- Once `cancel()` has finished, every waiter has a wake pending or needs none. -/
def Settled (state : CancellationState) : Prop :=
  state.cancelled = true → .notifying ∉ state.cancels →
    ∀ phase ∈ state.waiters, phase ≠ .tested ∧ phase ≠ .parked false

theorem Settled.woken {state : CancellationState} (settled : Settled state) : Woken state := by
  intro cancelled finished parked
  exact (settled cancelled finished _ parked).2 rfl

variable {state next : CancellationState} {action : CancellationAction}

/-- The steps of waiters leave the flag and the calls of `cancel()` alone, and put no waiter
    between its test and its future once the flag is set. -/
theorem waiter_step (stepped : state.step action = some next) :
    (next.cancelled = state.cancelled ∧ next.cancels = state.cancels ∧
      (state.cancelled = true → (.tested ∉ state.waiters) → ∀ phase ∈ next.waiters,
        phase ∈ state.waiters ∨ phase = .returned ∨ phase = .dropped)) ∨ (action = .swap ∧ next = { state with
      cancelled := true
      cancels := state.cancels ++ [if state.cancelled then .returned else .notifying] }) ∨
    ∃ cancel, action = .notifyWaiters cancel ∧ state.cancels[cancel]? = some .notifying ∧
      next = { state with
        waiters := state.waiters.map (·.notify)
        cancels := state.cancels.set cancel .returned } := by
  -- a step of one waiter replaces its phase
  have replaced : ∀ waiter replacement, (replacement = .returned ∨ replacement = .dropped) →
      ∀ phase ∈ state.waiters.set waiter replacement,
        phase ∈ state.waiters ∨ phase = .returned ∨ phase = .dropped := by
    intro waiter replacement ends phase mem
    rcases List.mem_or_eq_of_mem_set mem with earlier | isNew
    · exact .inl earlier
    · rw [isNew]
      exact .inr ends
  cases action with
  | test =>
    cases stepped
    refine .inl ⟨rfl, rfl, fun cancelled _ phase mem => ?_⟩
    rw [cancelled] at mem
    rcases List.mem_append.mp mem with earlier | isNew
    · exact .inl earlier
    · exact .inr (.inl (List.mem_singleton.mp isNew))
  | notified waiter =>
    simp only [step] at stepped
    split at stepped
    next tested =>
      cases stepped
      refine .inl ⟨rfl, rfl, fun _ untested => ?_⟩
      exact absurd (List.mem_of_getElem? tested) untested
    next => contradiction
  | wake waiter =>
    simp only [step] at stepped
    split at stepped
    next =>
      cases stepped
      exact .inl ⟨rfl, rfl, fun _ _ => replaced waiter _ (.inl rfl)⟩
    next => contradiction
  | drop waiter =>
    simp only [step] at stepped
    split at stepped
    next =>
      cases stepped
      exact .inl ⟨rfl, rfl, fun _ _ => replaced waiter _ (.inr rfl)⟩
    next =>
      cases stepped
      exact .inl ⟨rfl, rfl, fun _ _ => replaced waiter _ (.inr rfl)⟩
    next => contradiction
  | swap =>
    cases stepped
    exact .inr (.inl ⟨rfl, rfl⟩)
  | notifyWaiters cancel =>
    simp only [step] at stepped
    split at stepped
    next notifying =>
      cases stepped
      exact .inr (.inr ⟨cancel, rfl, notifying, rfl⟩)
    next => contradiction

theorem notified_count {cancels : List CancelPhase} {cancel : ℕ}
    (notifying : cancels[cancel]? = some .notifying) :
    (cancels.set cancel .returned).count .notifying = cancels.count .notifying - 1 := by
  obtain ⟨inRange, isNotifying⟩ := List.getElem?_eq_some_iff.mp notifying
  rw [List.count_set inRange, isNotifying]
  simp

theorem SingleNotifier.step
    (single : SingleNotifier state) (stepped : state.step action = some next) : SingleNotifier next := by
  rcases waiter_step stepped with ⟨flag, cancels, _⟩ | ⟨_, rfl⟩ | ⟨cancel, _, notifying, rfl⟩
  · constructor
    · rw [flag, cancels]
      exact single.unset
    · rw [cancels]
      exact single.single
  · refine ⟨nofun, ?_⟩
    show (state.cancels ++ _).count _ ≤ 1
    cases flag : state.cancelled with
    | false => simp [single.unset flag]
    | true => simpa using single.single
  · refine ⟨fun unset => ?_, ?_⟩
    · have none := single.unset unset
      simp [none] at notifying
    · show (state.cancels.set cancel .returned).count .notifying ≤ 1
      rw [notified_count notifying]
      exact Nat.le_trans (Nat.sub_le _ _) single.single

theorem Settled.step (settled : Settled state) (attended : Attended state action)
    (stepped : state.step action = some next) : Settled next := by
  intro cancelled finished phase mem
  rcases waiter_step stepped with ⟨flag, cancels, phases⟩ | ⟨_, rfl⟩ | ⟨cancel, rfl, notifying, rfl⟩
  · rw [flag] at cancelled
    rw [cancels] at finished
    have before := settled cancelled finished
    have untested : .tested ∉ state.waiters := fun tested => (before _ tested).1 rfl
    rcases phases cancelled untested phase mem with earlier | rfl | rfl
    · exact before phase earlier
    · simp
    · simp
  · cases flag : state.cancelled with
    | false => simp [flag] at finished
    | true =>
      refine settled flag (fun notifying => finished ?_) phase mem
      exact List.mem_append_left _ notifying
  · -- the step that wakes: a parked waiter is woken, and none is between test and future
    obtain ⟨earlier, isWaiter, rfl⟩ := List.mem_map.mp mem
    have untested : earlier ≠ .tested := fun tested => attended (tested ▸ isWaiter)
    cases earlier <;> simp_all [WaiterPhase.notify]

/-! ## Main results -/

theorem missed_wakeup (single : SingleNotifier state) (missed : ¬ Attended state action)
    (stepped : state.step action = some next) :
    ∃ later, machine.RunsTo Machine.always next later ∧ ¬ Woken later := by
  cases action with
  | test | notified _ | wake _ | drop _ | swap => exact absurd trivial missed
  | notifyWaiters cancel =>
    simp only [CancellationState.step] at stepped
    split at stepped
    next notifying =>
      cases stepped
      have cancelled : state.cancelled = true := by
        cases flag : state.cancelled with
        | false =>
          have none := single.unset flag
          simp [none] at notifying
        | true => rfl
      have finished : .notifying ∉ state.cancels.set cancel .returned := by
        rw [← List.count_eq_zero, notified_count notifying]
        have bound := single.single
        omega
      simp only [Attended, Decidable.not_not] at missed
      obtain ⟨waiter, isTested⟩ := List.mem_iff_getElem?.mp missed
      have tested : (state.waiters.map (·.notify))[waiter]? = some .tested := by
        simp [List.getElem?_map, isTested, WaiterPhase.notify]
      refine ⟨{ state with
        waiters := (state.waiters.map (·.notify)).set waiter (.parked false)
        cancels := state.cancels.set cancel .returned }, .single ⟨.notified waiter, trivial, ?_⟩, ?_⟩
      · simp [machine, CancellationState.step, tested]
      · intro woken
        refine woken cancelled finished (List.mem_iff_getElem?.mpr ⟨waiter, ?_⟩)
        obtain ⟨inRange, _⟩ := List.getElem?_eq_some_iff.mp isTested
        simp [inRange]
    next => contradiction

/-- In every run that calls `notify_waiters` only when no waiter stands between its test and its
    future, no wake-up is lost; and any other call of `notify_waiters` may lose one. -/
theorem cancelled_wakes (state : CancellationState) : (machine.Reachable Attended state → Woken state) ∧
      (machine.Reachable Machine.always state → ∀ action next, ¬ Attended state action →
        state.step action = some next → ∃ later, machine.RunsTo Machine.always next later ∧ ¬ Woken later) := by
  constructor
  · intro reachable
    apply Settled.woken
    apply reachable.invariant
    · rintro _ rfl cancelled
      cases cancelled
    · intro _ _ _ settled attended stepped
      exact settled.step attended stepped
  · intro reachable action next missed stepped
    have single : SingleNotifier state := by
      apply reachable.invariant
      · rintro _ rfl
        exact ⟨fun _ => rfl, Nat.zero_le _⟩
      · intro _ _ _ single _ stepped
        exact single.step stepped
    exact missed_wakeup single missed stepped

/-- Two waiters, one of which finds the flag set: the parked one has its wake pending. -/
theorem cancelled_wakes_run :
    ∃ state, (machine.Reachable Attended state ∧ state.cancelled = true ∧ state.cancels = [.returned] ∧
      state.waiters = [.parked true, .returned]) ∧ Woken state := by
  obtain ⟨state, reachable, passes⟩ := Machine.reachable_of_execute machine Attended rfl
    [.test, .notified 0, .swap, .test, .notifyWaiters 0]
    (fun state => decide (state.cancelled = true ∧ state.cancels = [.returned] ∧
      state.waiters = [.parked true, .returned]))
    (by decide)
  exact ⟨state, ⟨reachable, of_decide_eq_true passes⟩, (cancelled_wakes state).1 reachable⟩

/-- The waiter tests the flag, `cancel()` sets it and notifies, and only then does the waiter
    create its future. -/
theorem lost_wakeup : ∃ state, machine.Reachable Machine.always state ∧ state.cancelled = true ∧
      state.cancels = [.returned] ∧ state.waiters = [.parked false] ∧ ¬ Woken state := by
  obtain ⟨state, reachable, passes⟩ := Machine.reachable_of_execute machine Machine.always rfl
    [.test, .swap, .notifyWaiters 0, .notified 0]
    (fun state => decide (state.cancelled = true ∧ state.cancels = [.returned] ∧
      state.waiters = [.parked false] ∧ ¬ Woken state))
    (by decide)
  exact ⟨state, reachable, of_decide_eq_true passes⟩

end CancellationState

end Vifu.Runtime
