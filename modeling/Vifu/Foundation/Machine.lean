import Mathlib.Logic.Relation

/-!
# Machines and their runs

A machine has a set of initial states and a partial step for every action.  What an
interleaving of several threads can do is a run of such a machine: one action per step,
in any order.  `admits` restricts the actions of a run to those allowed in the state they
are taken in, so that one machine serves both for "every run" and for "every run whose
steps all meet a condition".
-/

namespace Foundation

/-- Initial states and the partial effect of each action. -/
structure Machine (σ α : Type*) where
  start : σ → Prop
  step : σ → α → Option σ

namespace Machine

variable {σ α : Type*} {machine : Machine σ α} {admits : σ → α → Prop}

def Moves (machine : Machine σ α) (admits : σ → α → Prop) (state next : σ) : Prop :=
  ∃ action, admits state action ∧ machine.step state action = some next

def RunsTo (machine : Machine σ α) (admits : σ → α → Prop) : σ → σ → Prop :=
  Relation.ReflTransGen (machine.Moves admits)

def Reachable (machine : Machine σ α) (admits : σ → α → Prop) (state : σ) : Prop :=
  ∃ initial, machine.start initial ∧ machine.RunsTo admits initial state

def always : σ → α → Prop := fun _ _ => True

instance : ∀ (state : σ) (action : α), Decidable (always state action) :=
  fun _ _ => .isTrue trivial

theorem RunsTo.preserves {Holds : σ → Prop} (kept : ∀ state action next, Holds state → admits state action →
      machine.step state action = some next → Holds next)
    {state final : σ} (run : machine.RunsTo admits state final) (holds : Holds state) : Holds final := by
  induction run with
  | refl => exact holds
  | tail _ move ih =>
    obtain ⟨action, admitted, stepped⟩ := move
    exact kept _ action _ ih admitted stepped

theorem Reachable.invariant {Holds : σ → Prop} (initially : ∀ state, machine.start state → Holds state)
    (kept : ∀ state action next, Holds state → admits state action →
      machine.step state action = some next → Holds next)
    {state : σ} (reachable : machine.Reachable admits state) : Holds state := by
  obtain ⟨initial, starts, run⟩ := reachable
  exact run.preserves kept (initially initial starts)

theorem Reachable.trans {state final : σ} (reachable : machine.Reachable admits state)
    (run : machine.RunsTo admits state final) : machine.Reachable admits final := by
  obtain ⟨initial, starts, earlier⟩ := reachable
  exact ⟨initial, starts, earlier.trans run⟩

theorem Reachable.next {state final : σ} {action : α} (reachable : machine.Reachable admits state)
    (admitted : admits state action) (stepped : machine.step state action = some final) :
    machine.Reachable admits final :=
  reachable.trans (.single ⟨action, admitted, stepped⟩)

theorem RunsTo.weaken {permits : σ → α → Prop}
    (weaker : ∀ state action, admits state action → permits state action)
    {state final : σ} (run : machine.RunsTo admits state final) : machine.RunsTo permits state final := by
  refine Relation.ReflTransGen.mono ?_ _ _ run
  intro source target move
  obtain ⟨action, admitted, stepped⟩ := move
  exact ⟨action, weaker source action admitted, stepped⟩

theorem Reachable.weaken {permits : σ → α → Prop}
    (weaker : ∀ state action, admits state action → permits state action)
    {state : σ} (reachable : machine.Reachable admits state) : machine.Reachable permits state := by
  obtain ⟨initial, starts, run⟩ := reachable
  exact ⟨initial, starts, run.weaken weaker⟩

/-! ## Replaying a schedule -/

/-- Takes the actions of a schedule in order, and stops at one that is not admitted. -/
def execute (machine : Machine σ α) (admits : σ → α → Prop)
    [∀ state action, Decidable (admits state action)] (state : σ) : List α → Option σ
  | [] => some state
  | action :: actions =>
    if admits state action then
      (machine.step state action).bind fun next => machine.execute admits next actions
    else
      none

variable [∀ state action, Decidable (admits state action)]

theorem execute_cons {action : α} {actions : List α} {state next : σ} (admitted : admits state action)
    (stepped : machine.step state action = some next) :
    machine.execute admits state (action :: actions) = machine.execute admits next actions := by
  rw [execute, if_pos admitted, stepped]
  rfl

theorem execute_runsTo {actions : List α} {state final : σ}
    (executed : machine.execute admits state actions = some final) : machine.RunsTo admits state final := by
  induction actions generalizing state with
  | nil =>
    simp only [execute, Option.some.injEq] at executed
    subst executed
    exact .refl
  | cons action actions ih =>
    simp only [execute] at executed
    split at executed
    next admitted =>
      obtain ⟨next, stepped, rest⟩ := Option.bind_eq_some_iff.mp executed
      exact .head ⟨action, admitted, stepped⟩ (ih rest)
    next => contradiction

theorem execute_runsTo_of_forall {Allowed : α → Prop} {actions : List α} {state final : σ}
    (executed : machine.execute always state actions = some final) (allowed : ∀ action ∈ actions, Allowed action) :
    machine.RunsTo (fun _ action => Allowed action) state final := by
  induction actions generalizing state with
  | nil =>
    simp only [execute, Option.some.injEq] at executed
    subst executed
    exact .refl
  | cons action actions ih =>
    rw [List.forall_mem_cons] at allowed
    obtain ⟨next, stepped, rest⟩ := Option.bind_eq_some_iff.mp executed
    exact .head ⟨action, allowed.1, stepped⟩ (ih rest allowed.2)

theorem runsTo_of_execute (machine : Machine σ α) (admits : σ → α → Prop)
    [∀ state action, Decidable (admits state action)] (initial : σ) (actions : List α) (check : σ → Bool)
    (passes : (machine.execute admits initial actions).any check = true) :
    ∃ state, machine.RunsTo admits initial state ∧ check state = true := by
  cases executed : machine.execute admits initial actions with
  | none => simp [executed] at passes
  | some state =>
    simp only [executed, Option.any_some] at passes
    exact ⟨state, execute_runsTo executed, passes⟩

theorem reachable_of_execute (machine : Machine σ α) (admits : σ → α → Prop)
    [∀ state action, Decidable (admits state action)] {initial : σ} (starts : machine.start initial)
    (actions : List α) (check : σ → Bool) (passes : (machine.execute admits initial actions).any check = true) :
    ∃ state, machine.Reachable admits state ∧ check state = true := by
  obtain ⟨state, run, checked⟩ := machine.runsTo_of_execute admits initial actions check passes
  exact ⟨state, ⟨initial, starts, run⟩, checked⟩

end Machine

end Foundation
