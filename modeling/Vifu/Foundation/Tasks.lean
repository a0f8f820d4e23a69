import Mathlib.Algebra.GroupWithZero.Nat
import Mathlib.Data.List.Perm.Basic
import Mathlib.Data.List.Flatten

/-!
# Tasks that take steps

The tasks of a system are a list in which a step of one task replaces its entry.  What is counted or
collected over all tasks then changes by what that task adds and takes away.
-/

namespace Foundation

variable {α β : Type*} {tasks : List α} {index : ℕ} {task : α} {next other : α} {place : ℕ} {next : α}

section

variable (stored : tasks[index]? = some task)
include stored

theorem perm_eraseIdx : tasks.Perm (task :: tasks.eraseIdx index) := by
  obtain ⟨inside, isTask⟩ := List.getElem?_eq_some_iff.mp stored
  rw [← isTask]
  exact (List.getElem_cons_eraseIdx_perm inside).symm

theorem exists_perm_set :
    ∃ rest, tasks.Perm (task :: rest) ∧ ∀ next, (tasks.set index next).Perm (next :: rest) := by
  obtain ⟨inside, isTask⟩ := List.getElem?_eq_some_iff.mp stored
  refine ⟨tasks.eraseIdx index, perm_eraseIdx stored, ?_⟩
  · intro next
    have insideSet : index < (tasks.set index next).length := by rwa [List.length_set]
    have others := (List.getElem_cons_eraseIdx_perm insideSet).symm
    rwa [List.getElem_set_self, List.eraseIdx_set_eq] at others

theorem countP_set (p : α → Bool) (next : α) :
    (tasks.set index next).countP p + (if p task then 1 else 0) = tasks.countP p + if p next then 1 else 0 := by
  obtain ⟨rest, before, after⟩ := exists_perm_set stored
  rw [before.countP_eq, (after next).countP_eq, List.countP_cons, List.countP_cons]
  omega

theorem sum_map_set (f : α → ℕ) (next : α) :
    ((tasks.set index next).map f).sum + f task = (tasks.map f).sum + f next := by
  obtain ⟨rest, before, after⟩ := exists_perm_set stored
  rw [(before.map f).sum_nat, ((after next).map f).sum_nat, List.map_cons, List.map_cons, List.sum_cons, List.sum_cons]
  omega

theorem flatMap_set (f : α → List β) (next : α) :
    ∃ rest, (tasks.flatMap f).Perm (f task ++ rest) ∧ ((tasks.set index next).flatMap f).Perm (f next ++ rest) := by
  obtain ⟨rest, before, after⟩ := exists_perm_set stored
  exact ⟨rest.flatMap f, before.flatMap_right f, (after next).flatMap_right f⟩

end

theorem count_flatMap_set [DecidableEq β] (stored : tasks[index]? = some task) (f : α → List β) (next : α) (value : β) :
    ((tasks.set index next).flatMap f).count value + (f task).count value =
      (tasks.flatMap f).count value + (f next).count value := by
  obtain ⟨rest, before, after⟩ := flatMap_set stored f next
  rw [before.count_eq, after.count_eq, List.count_append, List.count_append]
  omega

theorem forall_mem_set {Holds : α → Prop} (holds : ∀ other ∈ tasks, Holds other) (keeps : Holds next) :
    ∀ other ∈ tasks.set index next, Holds other := by
  intro other mem
  cases List.mem_or_eq_of_mem_set mem with
  | inl earlier => exact holds other earlier
  | inr same =>
    rw [same]
    exact keeps

theorem mem_set_of_mem (stored : tasks[index]? = some task) {other : α} (mem : other ∈ tasks) (next : α) :
    other = task ∨ other ∈ tasks.set index next := by
  obtain ⟨rest, before, after⟩ := exists_perm_set stored
  cases List.mem_cons.mp (before.mem_iff.mp mem) with
  | inl same => exact .inl same
  | inr others => exact .inr ((after next).mem_iff.mpr (List.mem_cons_of_mem _ others))

theorem getElem?_set_cases (found : (tasks.set index next)[place]? = some other) :
    (place = index ∧ other = next) ∨ (place ≠ index ∧ tasks[place]? = some other) := by
  by_cases same : place = index
  · subst same
    have inside : place < (tasks.set place next).length := (List.getElem?_eq_some_iff.mp found).1
    rw [List.length_set] at inside
    rw [List.getElem?_set_self inside, Option.some.injEq] at found
    exact .inl ⟨rfl, found.symm⟩
  · rw [List.getElem?_set_ne (Ne.symm same)] at found
    exact .inr ⟨same, found⟩

theorem getElem?_append_cases (found : (tasks ++ [next])[place]? = some other) :
    tasks[place]? = some other ∨ (place = tasks.length ∧ other = next) := by
  rw [List.getElem?_append] at found
  split at found
  next => exact .inl found
  next outside =>
    rw [List.getElem?_singleton] at found
    split at found
    next same => exact .inr ⟨by omega, (Option.some.inj found).symm⟩
    next => cases found

theorem map_set_same (stored : tasks[index]? = some task) {part : α → β} (same : part next = part task) :
    (tasks.set index next).map part = tasks.map part := by
  obtain ⟨inside, isTask⟩ := List.getElem?_eq_some_iff.mp stored
  rw [List.map_set, same, ← List.map_set, ← isTask, List.set_getElem_self]

theorem next_mem_set (stored : tasks[index]? = some task) (next : α) : next ∈ tasks.set index next :=
  List.mem_set (List.getElem?_eq_some_iff.mp stored).1 next

end Foundation
