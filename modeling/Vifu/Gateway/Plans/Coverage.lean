import Mathlib.Data.Finset.Card
import Mathlib.Data.List.ProdSigma
import Vifu.Foundation.Fallible

/-!
# What a benchmark covered

`coverage` counts the configured models, the pairs of an agent and a model that have a result, and the models that
passed, and a comparison upload checks these counts before the server takes it.
-/

namespace Vifu.Gateway.Plans

open Foundation

def maxComparisonModels : ℕ := 512

structure AgentCase where
  agentId : String
  capability : String
  currentProviderKey : String
  deriving DecidableEq

structure MetricRange where
  median : ℕ
  min : ℕ
  max : ℕ
  samples : ℕ
  deriving DecidableEq

inductive ExclusionReason where
  | capabilityMismatch | unavailable | loadFailure | insufficientMemory | contractFailure
  deriving DecidableEq

inductive CandidateOutcome where
  | passed (totalLatencyMs : MetricRange) (rssDeltaBytes : Option ℕ)
  | excluded (reason : ExclusionReason) (message : Option String)
  deriving DecidableEq

structure CandidateEvaluation where
  agentId : String
  providerKey : String
  outcome : CandidateOutcome
  deriving DecidableEq

structure PassedMetrics where
  providerKey : String
  totalLatencyMs : MetricRange
  rssDeltaBytes : Option ℕ
  deriving DecidableEq

def CandidateEvaluation.passed (evaluation : CandidateEvaluation) : Option PassedMetrics :=
  match evaluation.outcome with
  | .passed totalLatencyMs rssDeltaBytes => some ⟨evaluation.providerKey, totalLatencyMs, rssDeltaBytes⟩
  | .excluded _ _ => none

structure OptimizationCoverage where
  configuredModels : ℕ
  testedModels : ℕ
  passedModels : ℕ
  expectedPairs : ℕ
  evaluatedPairs : ℕ
  passedPairs : ℕ
  missing : List (String × String)
  deriving DecidableEq

section

variable (keys : List String) (cases : List AgentCase) (evaluations : List CandidateEvaluation)

def expected : Finset (String × String) :=
  (cases.flatMap fun case => keys.map fun provider => (case.agentId, provider)).toFinset

def evaluated : Finset (String × String) :=
  ((evaluations.filter fun evaluation =>
    (evaluation.agentId, evaluation.providerKey) ∈ expected keys cases).map fun evaluation =>
      (evaluation.agentId, evaluation.providerKey)).toFinset

def passedPairs : Finset (String × String) :=
  (((evaluations.filter fun evaluation => evaluation.passed.isSome).map fun evaluation =>
    (evaluation.agentId, evaluation.providerKey)).filter (· ∈ expected keys cases)).toFinset

def missing : List (String × String) :=
  cases.flatMap fun case => (keys.filter fun provider =>
    (case.agentId, provider) ∉ evaluated keys cases evaluations).map fun provider => (case.agentId, provider)

def tested (provider : String) : Bool :=
  cases.all fun case => (case.agentId, provider) ∈ evaluated keys cases evaluations

def passes (provider : String) : Bool :=
  decide (∃ pair ∈ passedPairs keys cases evaluations, pair.2 = provider)

def coverage : OptimizationCoverage where
  configuredModels := keys.length
  testedModels := keys.countP (tested keys cases evaluations)
  passedModels := keys.countP (passes keys cases evaluations)
  expectedPairs := (expected keys cases).card
  evaluatedPairs := (evaluated keys cases evaluations).card
  passedPairs := (passedPairs keys cases evaluations).card
  missing := missing keys cases evaluations

end

/-- What `RuntimeComparisonUpload::validate` checks of the counts. -/
def validateModelCounts (configuredModels testedModels passedModels : ℕ) : Except String Unit :=
  ensure (¬(maxComparisonModels < configuredModels ∨ configuredModels < testedModels ∨ testedModels < passedModels))
    "comparison model coverage is invalid"

/-! ## The counts -/

section

variable {keys : List String} {cases : List AgentCase} {evaluations : List CandidateEvaluation}
  {pair : String × String}

theorem mem_expected : pair ∈ expected keys cases ↔
      pair.1 ∈ cases.map (·.agentId) ∧ pair.2 ∈ keys := by
  simp [expected]
  grind

theorem evaluated_subset : evaluated keys cases evaluations ⊆ expected keys cases := by
  intro pair isEvaluated
  simp only [evaluated, List.mem_toFinset, List.mem_map, List.mem_filter, decide_eq_true_eq] at isEvaluated
  obtain ⟨evaluation, ⟨_, isExpected⟩, rfl⟩ := isEvaluated
  exact isExpected

theorem mem_missing : pair ∈ missing keys cases evaluations ↔
      pair ∈ expected keys cases ∧ pair ∉ evaluated keys cases evaluations := by
  rw [mem_expected]
  simp [missing]
  grind

theorem nodup_missing (distinctKeys : keys.Nodup) (distinctCases : (cases.map (·.agentId)).Nodup) :
    (missing keys cases evaluations).Nodup := by
  rw [missing, List.nodup_flatMap]
  refine ⟨fun case _ => (distinctKeys.filter _).map fun _ _ same => (Prod.mk.injEq .. ▸ same).2, ?_⟩
  refine (List.pairwise_map.mp distinctCases).imp fun {first second} apart => ?_
  intro pair fromFirst fromSecond
  simp only [List.mem_map] at fromFirst fromSecond
  obtain ⟨_, _, rfl⟩ := fromFirst
  obtain ⟨_, _, same⟩ := fromSecond
  exact apart (congrArg Prod.fst same).symm

theorem evaluated_add_missing (distinctKeys : keys.Nodup) (distinctCases : (cases.map (·.agentId)).Nodup) :
    (evaluated keys cases evaluations).card + (missing keys cases evaluations).length =
      (expected keys cases).card := by
  have rest : (missing keys cases evaluations).toFinset =
      expected keys cases \ evaluated keys cases evaluations := by
    ext pair
    rw [List.mem_toFinset, mem_missing, Finset.mem_sdiff]
  rw [← List.toFinset_card_of_nodup (nodup_missing distinctKeys distinctCases), rest]
  have counted := Finset.card_sdiff_add_card_eq_card (@evaluated_subset keys cases evaluations)
  omega

end

theorem countP_le_countP_iff {α : Type*} (first second : α → Bool) (list : List α) :
    list.countP first ≤ list.countP second ↔
      (list.countP fun item => first item && !second item) ≤ list.countP fun item => second item && !first item := by
  have split (left right : α → Bool) : list.countP left =
      (list.countP fun item => left item && right item) + list.countP fun item => left item && !right item := by
    induction list with
    | nil => rfl
    | cons item rest ih =>
      simp only [List.countP_cons, ih]
      cases left item <;> cases right item <;> simp only [Bool.and_self, Bool.and_false, Bool.and_true, Bool.not_true,
        Bool.not_false, if_true, Bool.false_eq_true, if_false] <;> omega
  have shared : (list.countP fun item => first item && second item) = list.countP fun item => second item && first item := by
    simp only [Bool.and_comm]
  rw [split first second, split second first]
  omega

/-- The models that passed a case while another case has no result are at most the models that were tested in every
case and passed none. -/
def UntestedPasses (keys : List String) (cases : List AgentCase)
    (evaluations : List CandidateEvaluation) : Prop :=
  (keys.countP fun provider => passes keys cases evaluations provider &&
      !tested keys cases evaluations provider) ≤
    keys.countP fun provider => tested keys cases evaluations provider &&
      !passes keys cases evaluations provider

theorem untestedPasses_of_complete {keys : List String} {cases : List AgentCase}
    {evaluations : List CandidateEvaluation} (complete : missing keys cases evaluations = []) :
    UntestedPasses keys cases evaluations := by
  have everyTested : ∀ provider ∈ keys, tested keys cases evaluations provider = true := by
    intro provider isConfigured
    simp only [tested, List.all_eq_true, decide_eq_true_eq]
    intro case isCase
    by_contra absent
    have isMissing := mem_missing.mpr ⟨mem_expected.mpr ⟨List.mem_map_of_mem isCase, isConfigured⟩, absent⟩
    simp [complete] at isMissing
  have noneUntested : (keys.countP fun provider => passes keys cases evaluations provider &&
      !tested keys cases evaluations provider) = 0 := by
    refine List.countP_eq_zero.mpr fun provider isConfigured => ?_
    simp [everyTested provider isConfigured]
  rw [UntestedPasses, noneUntested]
  exact Nat.zero_le _

end Vifu.Gateway.Plans
