import Vifu.Foundation.Fallible

/-!
# Programs that fail halfway

A program over a state returns a value or fails, and what it has changed by then stays changed.  Its steps read
the state or are transactions: a transaction that fails leaves the state alone.  The rules say what a sequence
has done when it succeeds.
-/

namespace Foundation

def Effect (σ ε α : Type) : Type := σ → Except ε α × σ

namespace Effect

variable {σ ε δ α β : Type}

instance : Monad (Effect σ ε) where
  pure value := fun state => (.ok value, state)
  bind first next := fun state =>
    match first state with
    | (.ok value, after) => next value after
    | (.error error, after) => (.error error, after)

def ask (read : σ → Except ε α) : Effect σ ε α := fun state => (read state, state)

def lift (result : Except ε α) : Effect σ ε α := ask fun _ => result

def transact (run : σ → Except ε (α × σ)) : Effect σ ε α := fun state =>
  match run state with
  | .ok (value, next) => (.ok value, next)
  | .error error => (.error error, state)

def change (run : σ → Except ε σ) : Effect σ ε Unit := transact fun state => (run state).map fun next => ((), next)

def mapError (rename : ε → δ) (program : Effect σ ε α) : Effect σ δ α := fun state =>
  ((program state).1.mapError rename, (program state).2)

/-- A loop without a result, which ends at the first failure. -/
def each (body : α → Effect σ ε Unit) : List α → Effect σ ε Unit
  | [] => pure ()
  | element :: elements => do
    body element
    each body elements

/-! ## What a program has done when it succeeds -/

section

variable {state final : σ} {value : α} {next : α → Effect σ ε β} {first : Effect σ ε α}

theorem bind_returns {result : β} : (first >>= next) state = (.ok result, final) ↔
      ∃ value middle, first state = (.ok value, middle) ∧ next value middle = (.ok result, final) := by
  show (match first state with | (.ok value, after) => next value after | (.error error, after) => _) = _ ↔ _
  cases isFirst : first state with
  | mk outcome after =>
    cases outcome with
    | error error => simp
    | ok value =>
      constructor
      · intro succeeds
        exact ⟨value, after, rfl, succeeds⟩
      · intro split
        obtain ⟨other, middle, same, succeeds⟩ := split
        cases same
        exact succeeds

theorem bind_of_ok (succeeds : first state = (.ok value, final)) :
    (first >>= next) state = next value final := by
  show (match first state with | (.ok value, after) => next value after | (.error error, after) => _) = _
  rw [succeeds]

theorem bind_of_error {error : ε} (fails : first state = (.error error, final)) :
    (first >>= next) state = (.error error, final) := by
  show (match first state with | (.ok value, after) => next value after | (.error error, after) => _) = _
  rw [fails]

theorem bind_assoc {γ : Type} (first : Effect σ ε α) (next : α → Effect σ ε β) (last : β → Effect σ ε γ) :
    first >>= next >>= last = first >>= fun value => next value >>= last := by
  funext state
  cases isFirst : first state with
  | mk outcome after =>
    cases outcome with
    | ok value =>
      rw [bind_of_ok isFirst]
      cases isNext : next value after with
      | mk outcome final =>
        have both : (first >>= next) state = (outcome, final) := (bind_of_ok isFirst).trans isNext
        cases outcome with
        | ok result => rw [bind_of_ok both, bind_of_ok isNext]
        | error error => rw [bind_of_error both, bind_of_error isNext]
    | error error => rw [bind_of_error (bind_of_error isFirst), bind_of_error isFirst]

@[simp] theorem ask_returns {read : σ → Except ε α} :
    ask read state = (.ok value, final) ↔ read state = .ok value ∧ state = final := by
  rw [ask, Prod.mk.injEq]

@[simp] theorem lift_returns {result : Except ε α} :
    (lift result : Effect σ ε α) state = (.ok value, final) ↔ result = .ok value ∧ state = final := ask_returns

@[simp] theorem transact_returns {run : σ → Except ε (α × σ)} :
    transact run state = (.ok value, final) ↔ run state = .ok (value, final) := by
  rw [transact]
  cases run state with
  | error error => simp
  | ok result => simp [Prod.ext_iff]

@[simp] theorem change_returns {run : σ → Except ε σ} {result : Unit} :
    change run state = (.ok result, final) ↔ run state = .ok final := by
  rw [change, transact_returns, map_ok]
  simp

end

end Effect

end Foundation
