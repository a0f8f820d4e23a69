import Mathlib.Data.Finset.Erase
import Mathlib.Data.Finset.Insert
import Vifu.Foundation.Effects

/-!
# Programs that report stages

A program appends marks to a log: a stage begins, or it ends with an outcome.  The log is bracketed when the marks of
each stage are a beginning and one end, over and over.  The rules follow the set of the stages that are open through a
program, for the exit with a value and the exit with an error.
-/

namespace Foundation

inductive Mark (κ ο : Type) where
  | began (stage : κ)
  | ended (stage : κ) (outcome : ο)
  deriving DecidableEq

variable {κ ο ε α β : Type} {log : List (Mark κ ο)} {stage : κ}

section

variable [DecidableEq κ]

def Mark.of (stage : κ) : Mark κ ο → Option Bool
  | .began other => if other = stage then some true else none
  | .ended other _ => if other = stage then some false else none

/-- A beginning and an end, over and over. -/
inductive Paired : List Bool → Prop where
  | nil : Paired []
  | pair {rest : List Bool} (others : Paired rest) : Paired (true :: false :: rest)

def Bracketed (log : List (Mark κ ο)) : Prop := ∀ stage, Paired (log.filterMap (Mark.of stage))

def Open (opened : Finset κ) (log : List (Mark κ ο)) : Prop :=
  ∀ stage, ∃ earlier, Paired earlier ∧
    log.filterMap (Mark.of stage) = earlier ++ if stage ∈ opened then [true] else []

theorem Paired.append {first second : List Bool} (isFirst : Paired first) (isSecond : Paired second) :
    Paired (first ++ second) := by
  induction isFirst with
  | nil => exact isSecond
  | pair others ih => exact .pair ih

theorem Paired.not_open {earlier : List Bool} (isEarlier : Paired earlier) : ¬Paired (earlier ++ [true]) := by
  induction isEarlier with
  | nil => intro paired; cases paired
  | pair others ih =>
    intro paired
    cases paired with
    | pair rest => exact ih rest

theorem open_nil : Open ∅ ([] : List (Mark κ ο)) := fun _ => ⟨[], .nil, by simp⟩

section

variable {opened : Finset κ} (isOpen : Open opened log)
include isOpen

theorem Open.bracketed_iff : Bracketed log ↔ opened = ∅ := by
  constructor
  · intro bracketed
    by_contra notEmpty
    obtain ⟨stage, isOpened⟩ := Finset.nonempty_iff_ne_empty.mpr notEmpty
    obtain ⟨earlier, paired, marks⟩ := isOpen stage
    have all := bracketed stage
    rw [marks, if_pos isOpened] at all
    exact paired.not_open all
  · intro isEmpty stage
    subst isEmpty
    obtain ⟨earlier, paired, marks⟩ := isOpen stage
    rw [marks, if_neg (Finset.notMem_empty stage), List.append_nil]
    exact paired

theorem Open.began (closed : stage ∉ opened) : Open (insert stage opened) (log ++ [.began stage]) := by
  intro other
  obtain ⟨earlier, paired, marks⟩ := isOpen other
  refine ⟨earlier, paired, ?_⟩
  rw [List.filterMap_append, marks]
  by_cases same : other = stage
  · subst same
    simp [Mark.of, closed]
  · simp [Mark.of, same, Ne.symm same]

theorem Open.ended
    (isOpened : stage ∈ opened) (outcome : ο) : Open (opened.erase stage) (log ++ [.ended stage outcome]) := by
  intro other
  obtain ⟨earlier, paired, marks⟩ := isOpen other
  by_cases same : other = stage
  · subst same
    refine ⟨earlier ++ [true, false], paired.append (.pair .nil), ?_⟩
    rw [List.filterMap_append, marks]
    simp [Mark.of, isOpened]
  · refine ⟨earlier, paired, ?_⟩
    rw [List.filterMap_append, marks]
    simp [Mark.of, same, Ne.symm same]

end

end

/-! ## Programs -/

abbrev Reports (κ ο ε α : Type) := Effect (List (Mark κ ο)) ε α

def report (mark : Mark κ ο) : Reports κ ο ε Unit := fun log => (.ok (), log ++ [mark])

theorem report_bind {mark : Mark κ ο} {next : Unit → Reports κ ο ε α} :
    (report mark >>= next) log = next () (log ++ [mark]) := rfl

theorem lift_ensure_bind {condition : Prop} [Decidable condition] {error : ε} {next : Unit → Reports κ ο ε α} :
    (Effect.lift (ensure condition error) >>= next) log = if condition then next () log else (.error error, log) := by
  by_cases holds : condition
  · rw [ensure, if_pos holds, if_pos holds]
    rfl
  · rw [ensure, if_neg holds, if_neg holds]
    rfl

def fail (error : ε) : Reports κ ο ε α := Effect.lift (.error error)

/-- Runs a program to its end and hands its result over as a value. -/
def attempt (program : Reports κ ο ε α) : Reports κ ο ε (Except ε α) := fun log =>
  (.ok (program log).1, (program log).2)

/-- The stages that are open after a program, for each of its exits. -/
def Passes [DecidableEq κ] (opened : Finset κ) (program : Reports κ ο ε α) (returned : α → Finset κ) (failed : Finset κ) :
    Prop :=
  ∀ log, Open opened log →
    match program log with
    | (.ok value, after) => Open (returned value) after
    | (.error _, after) => Open failed after

def Closed [DecidableEq κ] (program : Reports κ ο ε α) : Prop := Passes ∅ program (fun _ => ∅) ∅

variable [DecidableEq κ] {opened failed : Finset κ} {middle : α → Finset κ} {returned : β → Finset κ}

theorem passes_pure (value : α) : Passes opened (pure value : Reports κ ο ε α) (fun _ => opened) failed :=
  fun _ isOpen => isOpen

theorem passes_fail (error : ε) : Passes opened (fail error : Reports κ ο ε α) middle opened := fun _ isOpen => isOpen

theorem passes_lift (result : Except ε α) :
    Passes opened (Effect.lift result : Reports κ ο ε α) (fun _ => opened) opened := by
  intro log isOpen
  cases result <;> exact isOpen

theorem passes_began (closed : stage ∉ opened) :
    Passes opened (report (.began stage) : Reports κ ο ε Unit) (fun _ => insert stage opened) failed :=
  fun _ isOpen => isOpen.began closed

theorem passes_ended (isOpened : stage ∈ opened) (outcome : ο) :
    Passes opened (report (.ended stage outcome) : Reports κ ο ε Unit) (fun _ => opened.erase stage) failed :=
  fun _ isOpen => isOpen.ended isOpened outcome

theorem passes_bind {first : Reports κ ο ε α} {next : α → Reports κ ο ε β} (passes : Passes opened first middle failed)
    (nextPasses : ∀ value, Passes (middle value) (next value) returned failed) :
    Passes opened (first >>= next) returned failed := by
  intro log isOpen
  have reached := passes log isOpen
  cases ran : first log with
  | mk outcome after =>
    rw [ran] at reached
    cases outcome with
    | ok value =>
      rw [Effect.bind_of_ok ran]
      exact nextPasses value after reached
    | error error =>
      rw [Effect.bind_of_error ran]
      exact reached

variable {program : Reports κ ο ε α}

theorem Closed.attempt (closed : Closed program) : Closed (Foundation.attempt program) := by
  intro log isOpen
  have reached := closed log isOpen
  rw [Foundation.attempt]
  cases ran : program log with
  | mk outcome after =>
    rw [ran] at reached
    cases outcome <;> exact reached

theorem Closed.mapError {δ : Type} (closed : Closed program) (rename : ε → δ) :
    Closed (Effect.mapError rename program : Reports κ ο δ α) := by
  intro log isOpen
  have reached := closed log isOpen
  rw [Effect.mapError]
  cases ran : program log with
  | mk outcome after =>
    rw [ran] at reached
    cases outcome <;> exact reached

theorem Closed.bracketed_after (closed : Closed program) (isOpen : Open ∅ log) : Bracketed (program log).2 := by
  have reached := closed log isOpen
  cases ran : program log with
  | mk outcome after =>
    rw [ran] at reached
    cases outcome <;> exact (Open.bracketed_iff reached).mpr rfl

theorem Closed.bracketed (closed : Closed program) : Bracketed (program []).2 :=
  closed.bracketed_after open_nil

end Foundation
