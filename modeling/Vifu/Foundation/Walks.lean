import Mathlib.Data.List.Basic

/-!
# Walks that stop at the first failure

A loop over a list changes a state in each round and returns when a round fails.  What the rounds before have done is
kept: the loop leaves the state that the elements before the failing one lead to.
-/

namespace Foundation

variable {ε α σ : Type} {round : σ → α → Except ε σ} {state next : σ} {before after elements : List α} {element : α}
  {error : ε}

def walk (round : σ → α → Except ε σ) (state : σ) : List α → Except ε Unit × σ
  | [] => (.ok (), state)
  | element :: elements =>
    match round state element with
    | .error error => (.error error, state)
    | .ok next => walk round next elements

theorem walk_cons (goes : round state element = .ok next) :
    walk round state (element :: elements) = walk round next elements := by
  rw [walk, goes]

section

variable (done : walk round state before = (.ok (), next))
include done

theorem walk_append : walk round state (before ++ after) = walk round next after := by
  induction before generalizing state with
  | nil =>
    cases done
    rfl
  | cons element before ih =>
    rw [walk] at done
    split at done
    · cases done
    next middle goes =>
      rw [List.cons_append, walk_cons goes]
      exact ih done

theorem walk_stops (fails : round next element = .error error) :
    walk round state (before ++ element :: after) = (.error error, next) := by
  rw [walk_append done, walk, fails]

theorem walk_from (fails : ∀ element ∈ after.head?, ∃ error, round next element = .error error) :
    after = [] ∧ walk round state (before ++ after) = (.ok (), next) ∨
      ∃ error, walk round state (before ++ after) = (.error error, next) := by
  cases after with
  | nil =>
    rw [List.append_nil]
    exact .inl ⟨rfl, done⟩
  | cons element after =>
    obtain ⟨error, failing⟩ := fails element rfl
    exact .inr ⟨error, walk_stops done failing⟩

end

theorem walk_error (stopped : walk round state elements = (.error error, next)) :
    ∃ before element after, elements = before ++ element :: after ∧ walk round state before = (.ok (), next) ∧
      round next element = .error error := by
  induction elements generalizing state with
  | nil => cases stopped
  | cons element elements ih =>
    rw [walk] at stopped
    split at stopped
    next failure fails =>
      cases stopped
      exact ⟨[], element, elements, rfl, rfl, fails⟩
    next middle goes =>
      obtain ⟨before, failing, after, rfl, done, fails⟩ := ih stopped
      refine ⟨element :: before, failing, after, rfl, ?_, fails⟩
      rw [walk_cons goes]
      exact done

end Foundation
