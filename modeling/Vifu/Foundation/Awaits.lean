import Vifu.Foundation.Fallible

/-!
# Tasks that wait

A task waits for one step after the other.  A step that it waits for goes through, or fails from outside, or the task
is dropped while it waits, before or after the step has taken effect.  A task that is dropped does not return.
-/

namespace Foundation

/-- What becomes of a task while it waits for a step. -/
inductive Fate where
  | done
  | fails
  | dropped (applied : Bool)
  deriving DecidableEq

inductive Ending (ε α : Type) where
  | returned (result : Except ε α)
  | dropped

/-- A task over a state, given what becomes of it at each of its steps. -/
def Awaiting (ι σ ε α : Type) : Type := (ι → Fate) → σ → Ending ε α × σ

namespace Awaiting

variable {ι σ ε α β : Type}

instance : Monad (Awaiting ι σ ε) where
  pure value := fun _ state => (.returned (.ok value), state)
  bind first next := fun fates state =>
    match first fates state with
    | (.returned (.ok value), after) => next value fates after
    | (.returned (.error error), after) => (.returned (.error error), after)
    | (.dropped, after) => (.dropped, after)

/-- Waits for a statement.  A statement that does not succeed leaves the state alone. -/
def await (step : ι) (failure : ε) (run : σ → Except ε (α × σ)) : Awaiting ι σ ε α := fun fates state =>
  match fates step, run state with
  | .done, .ok (value, next) => (.returned (.ok value), next)
  | .done, .error error => (.returned (.error error), state)
  | .fails, _ => (.returned (.error failure), state)
  | .dropped true, .ok (_, next) => (.dropped, next)
  | .dropped _, _ => (.dropped, state)

def change (step : ι) (failure : ε) (run : σ → Except ε σ) : Awaiting ι σ ε Unit :=
  await step failure fun state => (run state).map fun next => ((), next)

def answer (step : ι) (result : α) : Awaiting ι σ ε α := fun fates state =>
  match fates step with
  | .dropped _ => (.dropped, state)
  | .done | .fails => (.returned (.ok result), state)

def attempt (task : Awaiting ι σ ε α) : Awaiting ι σ ε Unit := fun fates state =>
  match task fates state with
  | (.returned _, after) => (.returned (.ok ()), after)
  | (.dropped, after) => (.dropped, after)

def finish (result : Except ε α) : Awaiting ι σ ε α := fun _ state => (.returned result, state)

/-! ## How a sequence goes on -/

section

variable {first : Awaiting ι σ ε α} {next : α → Awaiting ι σ ε β} {fates : ι → Fate} {state after : σ}

theorem bind_of_ok {value : α} (succeeds : first fates state = (.returned (.ok value), after)) :
    (first >>= next) fates state = next value fates after := by
  show (match first fates state with
    | (.returned (.ok value), after) => next value fates after
    | (.returned (.error error), after) => (.returned (.error error), after)
    | (.dropped, after) => (.dropped, after)) = _
  rw [succeeds]

theorem bind_of_error {error : ε} (fails : first fates state = (.returned (.error error), after)) :
    (first >>= next) fates state = (.returned (.error error), after) := by
  show (match first fates state with
    | (.returned (.ok value), after) => next value fates after
    | (.returned (.error error), after) => (.returned (.error error), after)
    | (.dropped, after) => (.dropped, after)) = _
  rw [fails]

theorem bind_of_dropped (dropped : first fates state = (.dropped, after)) :
    (first >>= next) fates state = (.dropped, after) := by
  show (match first fates state with
    | (.returned (.ok value), after) => next value fates after
    | (.returned (.error error), after) => (.returned (.error error), after)
    | (.dropped, after) => (.dropped, after)) = _
  rw [dropped]

end

/-- A statement that can only fail from outside is followed by the rest exactly when the task gets through it; otherwise
the state is the one before it or the one after it. -/
theorem change_bind {step : ι} {failure : ε} {run : σ → Except ε σ} {next : Unit → Awaiting ι σ ε β} {fates : ι → Fate}
    {state after : σ} (succeeds : run state = .ok after) : ((change step failure run >>= next) fates state).2 =
      match fates step with
      | .done => (next () fates after).2
      | .fails => state
      | .dropped applied => if applied then after else state := by
  cases isFate : fates step with
  | done =>
    have goesThrough : change step failure run fates state = (.returned (.ok ()), after) := by
      simp [change, await, isFate, succeeds, Except.map]
    rw [bind_of_ok goesThrough]
  | fails =>
    have fails : change step failure run fates state = (.returned (.error failure), state) := by
      simp [change, await, isFate]
    rw [bind_of_error fails]
  | dropped applied =>
    have dropped : change step failure run fates state = (.dropped, if applied then after else state) := by
      cases applied <;> simp [change, await, isFate, succeeds, Except.map]
    rw [bind_of_dropped dropped]

end Awaiting

end Foundation
