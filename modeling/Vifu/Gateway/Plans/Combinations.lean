import Mathlib.Data.Finmap
import Mathlib.Data.List.MinMax
import Mathlib.Data.List.Sort
import Mathlib.Data.Prod.Lex
import Mathlib.Data.String.Basic
import Std.Data.String.ToNat
import Vifu.Foundation.Table
import Vifu.Gateway.Plans.Coverage
import Vifu.Runtime.Value

/-!
# Plans of route combinations

`generateCombinations` turns the passing evaluations into at most eight combinations of routes.  A combination of the
fastest candidates is listed only when every agent has one, but the substitutions start from it in any case.
-/

namespace Vifu.Gateway.Plans

open Foundation
open Vifu.Runtime (u64Max saturatingAdd)

def maxCombinations : ℕ := 8
def maxSubstitutionCombinations : ℕ := 4

abbrev Routes := AList fun _ : String => String

inductive CombinationKind where
  | current | fastestLocal | lowestMemory | sharedModel | substitution
  deriving DecidableEq

structure RouteCombination where
  id : String
  label : String
  kind : CombinationKind
  explanation : String
  routes : Routes

def collectRoutes (cases : List AgentCase) (choice : AgentCase → Option String) : Routes :=
  cases.foldl (fun routes case =>
    match choice case with
    | some provider => routes.insert case.agentId provider
    | none => routes) ∅

def candidateLatencyOrder (candidate : PassedMetrics) : ℕ := candidate.totalLatencyMs.median

def candidateMemoryOrder (candidate : PassedMetrics) : ℕ ×ₗ ℕ :=
  toLex (candidate.rssDeltaBytes.getD u64Max, candidate.totalLatencyMs.median)

def keepFaster (evaluation : PassedMetrics) : List PassedMetrics → List PassedMetrics
  | [] => [evaluation]
  | existing :: rest =>
    if existing.providerKey = evaluation.providerKey then
      (if candidateLatencyOrder evaluation < candidateLatencyOrder existing then evaluation else existing) :: rest
    else existing :: keepFaster evaluation rest

abbrev PassedByAgent := AList fun _ : String => List PassedMetrics

def passedByAgent (evaluations : List CandidateEvaluation) : PassedByAgent :=
  evaluations.foldl (fun byAgent evaluation =>
    match evaluation.passed with
    | some metrics => byAgent.insert evaluation.agentId
        (keepFaster metrics ((byAgent.lookup evaluation.agentId).getD []))
    | none => byAgent) ∅

def PassedByAgent.candidates (byAgent : PassedByAgent) (agentId : String) : List PassedMetrics :=
  (byAgent.lookup agentId).getD []

/-- `min_by` answers the first of the least candidates. -/
def selectRoutes {O : Type} [LinearOrder O] (cases : List AgentCase) (byAgent : PassedByAgent)
    (order : PassedMetrics → O) : Routes :=
  collectRoutes cases fun case => ((byAgent.candidates case.agentId).argmin order).map (·.providerKey)

def evaluationFor (byAgent : PassedByAgent) (agentId providerKey : String) : Option PassedMetrics :=
  (byAgent.candidates agentId).find? fun evaluation => evaluation.providerKey = providerKey

def providerCoverage (byAgent : PassedByAgent) : AList fun _ : String => ℕ × ℕ :=
  (byAgent.entries.flatMap (·.2)).foldl (fun coverage candidate =>
    let entry := (coverage.lookup candidate.providerKey).getD (0, 0)
    coverage.insert candidate.providerKey (entry.1 + 1, saturatingAdd entry.2 candidate.totalLatencyMs.median)) ∅

def sharedRoutes (cases : List AgentCase) (byAgent : PassedByAgent) : Option Routes := do
  let shared ← (providerCoverage byAgent).entries.argmax fun entry =>
    toLex (entry.2.1, toLex (OrderDual.toDual entry.2.2, OrderDual.toDual entry.1))
  let fastest := selectRoutes cases byAgent candidateLatencyOrder
  let routes := collectRoutes cases fun case =>
    if (evaluationFor byAgent case.agentId shared.1).isSome then some shared.1 else fastest.lookup case.agentId
  if routes.entries.length = cases.length then some routes else none

/-! ## The plan -/

def pushUnique (combinations : List RouteCombination) (candidate : RouteCombination) : List RouteCombination :=
  if combinations.length < maxCombinations ∧
      ¬∃ existing ∈ combinations, existing.routes.toFinmap = candidate.routes.toFinmap then
    combinations ++ [candidate]
  else combinations

section

variable (descending : List (String × ℕ) → List (String × ℕ)) (cases : List AgentCase) (byAgent : PassedByAgent)

def fastestRoutes : Routes := selectRoutes cases byAgent candidateLatencyOrder

/-- `descending` is `sort_unstable_by_key` with the latencies reversed, and what it does with equal latencies is open. -/
def slowestAgents : List (String × ℕ) :=
  (descending ((fastestRoutes cases byAgent).entries.filterMap fun entry =>
    (evaluationFor byAgent entry.1 entry.2).map fun evaluation => (entry.1, evaluation.totalLatencyMs.median))).take
      maxSubstitutionCombinations

def alternatives (agentId : String) : List PassedMetrics :=
  (byAgent.candidates agentId).insertionSort fun left right => candidateLatencyOrder left ≤ candidateLatencyOrder right

def substitution (index : ℕ) (agentId : String) (second : PassedMetrics) : RouteCombination where
  id := "alternative-" ++ toString (index + 1)
  label := "alternative-" ++ toString (index + 1)
  kind := .substitution
  explanation := "Second-fastest passing candidate for slow agent " ++ agentId
  routes := (fastestRoutes cases byAgent).insert agentId second.providerKey

def substitute : ℕ → List (String × ℕ) → List RouteCombination → List RouteCombination
  | _, [], combinations => combinations
  | index, (agentId, _) :: rest, combinations =>
    match (alternatives byAgent agentId)[1]? with
    | none => substitute (index + 1) rest combinations
    | some second =>
      let pushed := pushUnique combinations (substitution cases byAgent index agentId second)
      if pushed.length = maxCombinations then pushed else substitute (index + 1) rest pushed

def currentCombination : RouteCombination where
  id := "current"
  label := "current"
  kind := .current
  explanation := "Current session routes"
  routes := collectRoutes cases fun case => some case.currentProviderKey

def fastestCombination : RouteCombination where
  id := "fastest-local"
  label := "fastest-local"
  kind := .fastestLocal
  explanation := "Fastest passing configured candidate for every agent"
  routes := fastestRoutes cases byAgent

def lowestMemoryCombination : RouteCombination where
  id := "lowest-memory"
  label := "lowest-memory"
  kind := .lowestMemory
  explanation := "Lowest observed Vifu OS-process RSS delta among passing candidates"
  routes := selectRoutes cases byAgent candidateMemoryOrder

def sharedCombination (shared : Routes) : RouteCombination where
  id := "shared-model"
  label := "shared-model"
  kind := .sharedModel
  explanation := "Reuses the passing provider that covers the most agents"
  routes := shared

def pushComplete (combinations : List RouteCombination) (candidate : RouteCombination) : List RouteCombination :=
  if candidate.routes.entries.length = cases.length then pushUnique combinations candidate else combinations

def selectedCombinations : List RouteCombination :=
  let combinations := pushUnique [] (currentCombination cases)
  let combinations := pushComplete cases combinations (fastestCombination cases byAgent)
  let combinations := pushComplete cases combinations (lowestMemoryCombination cases byAgent)
  match sharedRoutes cases byAgent with
  | some shared => pushUnique combinations (sharedCombination shared)
  | none => combinations

def generateCombinations (evaluations : List CandidateEvaluation) : List RouteCombination :=
  let byAgent := passedByAgent evaluations
  substitute cases byAgent 0 (slowestAgents descending cases byAgent) (selectedCombinations cases byAgent)

end

/-- The check of `RuntimeComparisonUpload::validate` on the routes of the runs, which compares the keys in their order. -/
def validateRunRoutes : List Routes → Except String Unit
  | [] => .ok ()
  | first :: rest => ensure (∀ routes ∈ rest, routes.toFinmap.keys = first.toFinmap.keys)
      "comparison runs must cover the same routes"

/-! ## The candidates of an agent -/

structure Indexed (passing candidates : List PassedMetrics) : Prop where
  passed : ∀ candidate ∈ candidates, candidate ∈ passing
  providers : (candidates.map (·.providerKey)).Nodup
  fastest : ∀ metrics ∈ passing, ∃ candidate ∈ candidates, candidate.providerKey = metrics.providerKey ∧
    candidateLatencyOrder candidate ≤ candidateLatencyOrder metrics

theorem mem_keepFaster {evaluation candidate : PassedMetrics} {candidates : List PassedMetrics}
    (kept : candidate ∈ keepFaster evaluation candidates) : candidate = evaluation ∨ candidate ∈ candidates := by
  induction candidates with
  | nil => simpa [keepFaster] using kept
  | cons existing rest ih =>
    rw [keepFaster] at kept
    split at kept
    · split at kept <;> simp at kept ⊢ <;> tauto
    · simp at kept ⊢
      tauto

theorem providers_keepFaster (evaluation : PassedMetrics) (candidates : List PassedMetrics) :
    (keepFaster evaluation candidates).map (·.providerKey) =
      if evaluation.providerKey ∈ candidates.map (·.providerKey) then candidates.map (·.providerKey)
      else candidates.map (·.providerKey) ++ [evaluation.providerKey] := by
  induction candidates with
  | nil => simp [keepFaster]
  | cons existing rest ih =>
    rw [keepFaster]
    by_cases same : existing.providerKey = evaluation.providerKey
    · rw [if_pos same, List.map_cons, List.map_cons, same]
      simp only [List.mem_cons_self, if_true]
      split
      · rfl
      · rw [same]
    · rw [if_neg same, List.map_cons, ih]
      simp only [List.map_cons, List.mem_cons, Ne.symm same, false_or]
      split <;> simp

theorem fastest_keepFaster {evaluation metrics : PassedMetrics} {candidates : List PassedMetrics}
    (considered : metrics = evaluation ∨ metrics ∈ candidates) :
    ∃ candidate ∈ keepFaster evaluation candidates, candidate.providerKey = metrics.providerKey ∧
      candidateLatencyOrder candidate ≤ candidateLatencyOrder metrics := by
  induction candidates with
  | nil => exact ⟨evaluation, by simp [keepFaster], by simp_all⟩
  | cons existing rest ih =>
    rw [keepFaster]
    by_cases same : existing.providerKey = evaluation.providerKey
    · rw [if_pos same]
      obtain rfl | isFirst | later : metrics = evaluation ∨ metrics = existing ∨ metrics ∈ rest := by simpa using considered
      · refine ⟨_, List.mem_cons_self, ?_⟩
        split
        · simp
        · exact ⟨same, by omega⟩
      · refine ⟨_, List.mem_cons_self, ?_⟩
        rw [isFirst]
        split
        · exact ⟨same.symm, by omega⟩
        · simp
      · exact ⟨metrics, List.mem_cons_of_mem _ later, rfl, le_rfl⟩
    · rw [if_neg same]
      by_cases isFirst : metrics = existing
      · exact ⟨existing, List.mem_cons_self, by simp [isFirst]⟩
      · obtain ⟨candidate, kept, found⟩ := ih (by simpa [isFirst] using considered)
        exact ⟨candidate, List.mem_cons_of_mem _ kept, found⟩

def passingOf (evaluations : List CandidateEvaluation) (agentId : String) : List PassedMetrics :=
  evaluations.filterMap fun evaluation => if evaluation.agentId = agentId then evaluation.passed else none

theorem indexed_candidates (evaluations : List CandidateEvaluation) (agentId : String) :
    Indexed (passingOf evaluations agentId) ((passedByAgent evaluations).candidates agentId) := by
  induction evaluations using List.reverseRecOn with
  | nil => exact ⟨by simp [passedByAgent, PassedByAgent.candidates], by simp [passedByAgent, PassedByAgent.candidates],
      by simp [passingOf]⟩
  | append_singleton earlier evaluation ih =>
    have step : passingOf (earlier ++ [evaluation]) agentId = passingOf earlier agentId ++
        (if evaluation.agentId = agentId then evaluation.passed else none).toList := by
      simp [passingOf, List.filterMap_append, List.filterMap_cons]
      split <;> simp_all
    rw [passedByAgent, List.foldl_append, List.foldl_cons, List.foldl_nil, step]
    cases isPassed : evaluation.passed with
    | none => simpa [isPassed, passedByAgent] using ih
    | some metrics =>
      by_cases same : evaluation.agentId = agentId
      · subst same
        obtain ⟨passed, providers, fastest⟩ := ih
        simp only [if_true, Option.toList_some, PassedByAgent.candidates, lookup_insert, Option.getD_some]
        change Indexed _ (keepFaster metrics ((passedByAgent earlier).candidates evaluation.agentId))
        refine ⟨fun candidate kept => ?_, ?_, fun other considered => ?_⟩
        · have := mem_keepFaster kept
          grind
        · rw [providers_keepFaster]
          split
          · exact providers
          next absent => exact List.nodup_append.mpr ⟨providers, by simp, by grind⟩
        · cases List.mem_append.mp considered with
          | inl before =>
            obtain ⟨candidate, kept, sameProvider, faster⟩ := fastest other before
            obtain ⟨final, isKept, isSame, isFaster⟩ := @fastest_keepFaster metrics candidate _ (Or.inr kept)
            exact ⟨final, isKept, isSame.trans sameProvider, isFaster.trans faster⟩
          | inr latest => exact fastest_keepFaster (Or.inl (by simpa using latest))
      · simp only [if_neg same, Option.toList_none, List.append_nil, PassedByAgent.candidates, lookup_insert,
          if_neg (Ne.symm same)]
        exact ih

def Indexes (evaluations : List CandidateEvaluation) (byAgent : PassedByAgent) : Prop :=
  ∀ agentId, Indexed (passingOf evaluations agentId) (byAgent.candidates agentId)

/-! ## The routes -/

section

variable {cases : List AgentCase} {choice : AgentCase → Option String}

section

variable (distinct : (cases.map (·.agentId)).Nodup)
include distinct

theorem lookup_collectRoutes {agentId provider : String} :
    (collectRoutes cases choice).lookup agentId = some provider ↔
      ∃ case ∈ cases, case.agentId = agentId ∧ choice case = some provider := by
  induction cases using List.reverseRecOn with
  | nil => simp [collectRoutes]
  | append_singleton earlier case ih =>
    rw [List.map_append, List.nodup_append] at distinct
    have ih := ih distinct.1
    rw [collectRoutes, List.foldl_append, List.foldl_cons]
    change (match choice case with
      | some provider => (collectRoutes earlier choice).insert case.agentId provider
      | none => collectRoutes earlier choice).lookup agentId = _ ↔ _
    cases chosen : choice case with
    | none => grind
    | some own =>
      have apart : ∀ other ∈ earlier, other.agentId ≠ case.agentId := fun other isCase =>
        distinct.2.2 _ (List.mem_map_of_mem isCase) _ (by simp)
      rw [lookup_insert]
      split
      next isLatest => grind
      next => grind

theorem length_collectRoutes :
    (collectRoutes cases choice).entries.length = cases.countP fun case => (choice case).isSome := by
  induction cases using List.reverseRecOn with
  | nil => rfl
  | append_singleton earlier case ih =>
    rw [List.map_append, List.nodup_append] at distinct
    have absent : case.agentId ∉ collectRoutes earlier choice := by
      rw [← AList.lookup_eq_none]
      by_contra present
      obtain ⟨provider, found⟩ := Option.ne_none_iff_exists'.mp present
      obtain ⟨other, isCase, same, _⟩ := (lookup_collectRoutes distinct.1).mp found
      exact distinct.2.2 _ (List.mem_map_of_mem isCase) _ (by simp) same
    rw [collectRoutes, List.foldl_append, List.foldl_cons, List.foldl_nil, List.countP_append,
      ← ih distinct.1]
    cases chosen : choice case with
    | none => simp [chosen, collectRoutes]
    | some own =>
      change ((collectRoutes earlier choice).insert case.agentId own).entries.length = _
      rw [AList.entries_insert_of_notMem absent]
      simp [chosen]

theorem collectRoutes_complete :
    (collectRoutes cases choice).entries.length = cases.length ↔ ∀ case ∈ cases, (choice case).isSome := by
  rw [length_collectRoutes distinct, List.countP_eq_length]

end

end

/-! ## What every combination keeps -/

def Passes (evaluations : List CandidateEvaluation) (agentId providerKey : String) : Prop :=
  ∃ evaluation ∈ evaluations, evaluation.agentId = agentId ∧ evaluation.providerKey = providerKey ∧ evaluation.passed.isSome

structure Explained (cases : List AgentCase) (evaluations : List CandidateEvaluation) (byAgent : PassedByAgent)
    (combination : RouteCombination) : Prop where
  passed : combination.kind ≠ .current → ∀ agentId provider, combination.routes.lookup agentId = some provider →
    Passes evaluations agentId provider
  fastest : combination.kind = .fastestLocal → ∀ agentId provider, combination.routes.lookup agentId = some provider →
    ∃ candidate ∈ byAgent.candidates agentId, candidate.providerKey = provider ∧
      ∀ metrics ∈ passingOf evaluations agentId, candidateLatencyOrder candidate ≤ candidateLatencyOrder metrics
  lowestMemory : combination.kind = .lowestMemory → ∀ agentId provider, combination.routes.lookup agentId = some provider →
    ∃ candidate ∈ byAgent.candidates agentId, candidate.providerKey = provider ∧
      ∀ other ∈ byAgent.candidates agentId, candidateMemoryOrder candidate ≤ candidateMemoryOrder other
  substitution : combination.kind = .substitution → ∃ agentId ∈ cases.map (·.agentId),
    combination.routes.lookup agentId ≠ (fastestRoutes cases byAgent).lookup agentId ∧
      ∀ other ≠ agentId, combination.routes.lookup other = (fastestRoutes cases byAgent).lookup other

theorem head_alternatives (byAgent : PassedByAgent) (agentId : String) :
    (alternatives byAgent agentId).head? = (byAgent.candidates agentId).argmin candidateLatencyOrder := by
  rw [alternatives]
  induction byAgent.candidates agentId with
  | nil => rfl
  | cons first rest ih =>
    rw [List.argmin_cons, ← ih, List.insertionSort_cons]
    cases rest.insertionSort fun left right => candidateLatencyOrder left ≤ candidateLatencyOrder right with
    | nil => rfl
    | cons least others =>
      simp only [List.orderedInsert_cons, List.head?_cons]
      split
      next smaller => simp [Nat.not_lt.mpr smaller]
      next larger => simp [Nat.not_le.mp larger]

def Covers (cases : List AgentCase) (combination : RouteCombination) : Prop :=
  ∀ agentId, agentId ∈ combination.routes ↔ agentId ∈ cases.map (·.agentId)

variable {agent : String × ℕ}

section

variable {cases : List AgentCase} {evaluations : List CandidateEvaluation} {byAgent : PassedByAgent}
  {agentId provider : String} {second : PassedMetrics}

section

variable (indexes : Indexes evaluations byAgent)
include indexes

theorem candidates_ne_nil : byAgent.candidates agentId ≠ [] ↔ passingOf evaluations agentId ≠ [] := by
  constructor
  · intro some isEmpty
    obtain ⟨candidate, isCandidate⟩ := List.exists_mem_of_ne_nil _ some
    simpa [isEmpty] using (indexes agentId).passed candidate isCandidate
  · intro some isEmpty
    obtain ⟨metrics, isPassing⟩ := List.exists_mem_of_ne_nil _ some
    obtain ⟨candidate, isCandidate, _⟩ := (indexes agentId).fastest metrics isPassing
    simp [isEmpty] at isCandidate

theorem passed_of_candidate {candidate : PassedMetrics} (isCandidate : candidate ∈ byAgent.candidates agentId) :
    Passes evaluations agentId candidate.providerKey := by
  have isPassing := (indexes agentId).passed candidate isCandidate
  obtain ⟨evaluation, isEvaluation, own⟩ := List.mem_filterMap.mp isPassing
  obtain ⟨same, own⟩ := Option.ite_none_right_eq_some.mp own
  refine ⟨evaluation, isEvaluation, same, ?_, by simp [own]⟩
  rw [CandidateEvaluation.passed] at own
  split at own
  · rw [← Option.some.inj own]
  · cases own

theorem second_apart (isSecond : (alternatives byAgent agentId)[1]? = some second) :
    second ∈ byAgent.candidates agentId ∧
      ∃ first ∈ (byAgent.candidates agentId).argmin candidateLatencyOrder, first.providerKey ≠ second.providerKey := by
  have sorted : (alternatives byAgent agentId).Perm (byAgent.candidates agentId) := List.perm_insertionSort _ _
  have apart := (sorted.map (·.providerKey)).nodup_iff.mpr (indexes agentId).providers
  refine ⟨sorted.subset (List.mem_of_getElem? isSecond), ?_⟩
  rw [← head_alternatives]
  cases ordered : alternatives byAgent agentId with
  | nil => simp [ordered] at isSecond
  | cons first rest =>
    refine ⟨first, rfl, ?_⟩
    rw [ordered, List.map_cons, List.nodup_cons] at apart
    rw [ordered] at isSecond
    exact fun same => apart.1 (same ▸ List.mem_map_of_mem (List.mem_of_getElem? isSecond))

end

variable {O : Type} [LinearOrder O] {order : PassedMetrics → O} (distinct : (cases.map (·.agentId)).Nodup)
include distinct

theorem lookup_selectRoutes : (selectRoutes cases byAgent order).lookup agentId = some provider ↔
    agentId ∈ cases.map (·.agentId) ∧ ∃ candidate ∈ (byAgent.candidates agentId).argmin order,
      candidate.providerKey = provider := by
  rw [selectRoutes, lookup_collectRoutes distinct]
  simp only [List.mem_map, Option.map_eq_some_iff, Option.mem_def]
  grind

theorem covers_of_complete {choice : AgentCase → Option String}
    (complete : (collectRoutes cases choice).entries.length = cases.length) :
    agentId ∈ collectRoutes cases choice ↔ agentId ∈ cases.map (·.agentId) := by
  rw [collectRoutes_complete distinct] at complete
  rw [← AList.lookup_isSome, Option.isSome_iff_exists]
  simp only [lookup_collectRoutes distinct, List.mem_map]
  refine ⟨fun ⟨provider, case, isCase, same, _⟩ => ⟨case, isCase, same⟩, fun ⟨case, isCase, same⟩ => ?_⟩
  obtain ⟨provider, chosen⟩ := Option.isSome_iff_exists.mp (complete case isCase)
  exact ⟨provider, case, isCase, same, chosen⟩

variable (indexes : Indexes evaluations byAgent)
include indexes

theorem selectRoutes_complete (order : PassedMetrics → O) :
    (selectRoutes cases byAgent order).entries.length = cases.length ↔
      ∀ case ∈ cases, passingOf evaluations case.agentId ≠ [] := by
  rw [selectRoutes, collectRoutes_complete distinct]
  refine forall₂_congr fun case _ => ?_
  rw [Option.isSome_map, ← Option.ne_none_iff_isSome, ne_eq, List.argmin_eq_none, ← candidates_ne_nil indexes]

theorem passed_selectRoutes (chosen : (selectRoutes cases byAgent order).lookup agentId = some provider) :
    Passes evaluations agentId provider := by
  obtain ⟨_, candidate, least, rfl⟩ := (lookup_selectRoutes distinct).mp chosen
  exact passed_of_candidate indexes (List.argmin_mem least)

theorem sharedRoutes_spec {shared : Routes} (isShared : sharedRoutes cases byAgent = some shared) :
    Covers cases (sharedCombination shared) ∧
      (∀ agentId provider, shared.lookup agentId = some provider → Passes evaluations agentId provider) ∧
      ∀ case ∈ cases, passingOf evaluations case.agentId ≠ [] := by
  obtain ⟨provider, _, isShared⟩ := Option.bind_eq_some_iff.mp isShared
  dsimp only at isShared
  obtain ⟨complete, ⟨⟩⟩ := Option.ite_none_right_eq_some.mp isShared
  have chosen : ∀ (case : AgentCase) own, (if (evaluationFor byAgent case.agentId provider.1).isSome then some provider.1
        else (selectRoutes cases byAgent candidateLatencyOrder).lookup case.agentId) = some own →
      ∃ candidate ∈ byAgent.candidates case.agentId, candidate.providerKey = own := by
    intro case own isOwn
    split at isOwn
    next found =>
      obtain ⟨candidate, isFound⟩ := Option.isSome_iff_exists.mp found
      have same : candidate.providerKey = provider.1 := by simpa using List.find?_some isFound
      exact ⟨candidate, List.mem_of_find?_eq_some isFound, same.trans (Option.some.inj isOwn)⟩
    next =>
      obtain ⟨_, candidate, least, same⟩ := (lookup_selectRoutes distinct).mp isOwn
      exact ⟨candidate, List.argmin_mem least, same⟩
  refine ⟨fun agentId => covers_of_complete distinct complete, fun agentId own isOwn => ?_, fun case isCase => ?_⟩
  · obtain ⟨case, _, rfl, picked⟩ := (lookup_collectRoutes distinct).mp isOwn
    obtain ⟨candidate, isCandidate, rfl⟩ := chosen case own picked
    exact passed_of_candidate indexes isCandidate
  · obtain ⟨own, isOwn⟩ := Option.isSome_iff_exists.mp ((collectRoutes_complete distinct).mp complete case isCase)
    obtain ⟨candidate, isCandidate, _⟩ := chosen case own isOwn
    exact (candidates_ne_nil indexes).mp (List.ne_nil_of_mem isCandidate)

theorem explained_fastest : Explained cases evaluations byAgent (fastestCombination cases byAgent) := by
  refine ⟨fun _ agentId provider chosen => passed_selectRoutes distinct indexes chosen,
    fun _ agentId provider chosen => ?_, fun isKind => (by cases isKind), fun isKind => (by cases isKind)⟩
  obtain ⟨_, candidate, least, same⟩ := (lookup_selectRoutes distinct).mp chosen
  refine ⟨candidate, List.argmin_mem least, same, fun metrics isPassing => ?_⟩
  -- the evaluation may be another one of the same provider, which the index left out because it was slower
  obtain ⟨kept, isKept, _, faster⟩ := (indexes agentId).fastest metrics isPassing
  exact (List.le_of_mem_argmin isKept least).trans faster

theorem explained_lowestMemory : Explained cases evaluations byAgent (lowestMemoryCombination cases byAgent) := by
  refine ⟨fun _ agentId provider chosen => passed_selectRoutes distinct indexes chosen, fun isKind => (by cases isKind),
    fun _ agentId provider chosen => ?_, fun isKind => (by cases isKind)⟩
  obtain ⟨_, candidate, least, same⟩ := (lookup_selectRoutes distinct).mp chosen
  exact ⟨candidate, List.argmin_mem least, same, fun other isCandidate => List.le_of_mem_argmin isCandidate least⟩

theorem explained_substitution (isAgent : agentId ∈ cases.map (·.agentId))
    (isSecond : (alternatives byAgent agentId)[1]? = some second) (index : ℕ) :
    Explained cases evaluations byAgent (substitution cases byAgent index agentId second) := by
  obtain ⟨isCandidate, first, least, apart⟩ := second_apart indexes isSecond
  refine ⟨fun _ other provider chosen => ?_, fun isKind => (by cases isKind), fun isKind => (by cases isKind),
    fun _ => ⟨agentId, isAgent, ?_, fun other isOther => ?_⟩⟩
  · rw [substitution, lookup_insert] at chosen
    split at chosen
    next same =>
      cases chosen
      rw [same]
      exact passed_of_candidate indexes isCandidate
    next => exact passed_selectRoutes distinct indexes chosen
  · have isFirst : (fastestRoutes cases byAgent).lookup agentId = some first.providerKey :=
      (lookup_selectRoutes distinct).mpr ⟨isAgent, first, least, rfl⟩
    rw [substitution, lookup_insert, if_pos rfl, isFirst]
    exact fun same => apart (Option.some.inj same).symm
  · rw [substitution, lookup_insert, if_neg isOther]

omit indexes

/-- What `sort_unstable_by_key` promises. -/
def SortsDescending (descending : List (String × ℕ) → List (String × ℕ)) : Prop :=
  ∀ items, (descending items).Perm items ∧ (descending items).Pairwise fun first second => second.2 ≤ first.2

theorem mem_of_slowest {descending : List (String × ℕ) → List (String × ℕ)}
    (sorts : SortsDescending descending) (isSlow : agent ∈ slowestAgents descending cases byAgent) :
    agent.1 ∈ cases.map (·.agentId) := by
  obtain ⟨entry, isEntry, found⟩ := List.mem_filterMap.mp ((sorts _).1.subset (List.mem_of_mem_take isSlow))
  obtain ⟨_, _, rfl⟩ := Option.map_eq_some_iff.mp found
  exact ((lookup_selectRoutes distinct).mp (AList.mem_lookup_iff.mpr isEntry)).1

end

/-! ## The plan -/

structure Planned (Holds : RouteCombination → Prop) (used : List String) (plan : List RouteCombination) : Prop where
  bounded : plan.length ≤ maxCombinations
  named : ∀ combination ∈ plan, combination.id ∈ used
  ids : (plan.map (·.id)).Nodup
  routes : plan.Pairwise fun first second => first.routes.toFinmap ≠ second.routes.toFinmap
  holds : ∀ combination ∈ plan, Holds combination

variable {agents : List (String × ℕ)} {cases : List AgentCase}

section

variable {Holds : RouteCombination → Prop} {used : List String} {plan : List RouteCombination}
  {candidate : RouteCombination} {byAgent : PassedByAgent} {index : ℕ}

theorem Planned.skip (planned : Planned Holds used plan) (id : String) : Planned Holds (id :: used) plan :=
  { planned with named := fun combination isListed => List.mem_cons_of_mem _ (planned.named combination isListed) }

theorem Planned.pushUnique (planned : Planned Holds used plan) (candidate : RouteCombination) (fresh : candidate.id ∉ used)
    (holds : Holds candidate) : Planned Holds (candidate.id :: used) (pushUnique plan candidate) := by
  rw [Plans.pushUnique]
  split
  next room =>
    obtain ⟨bounded, named, ids, routes, others⟩ := planned
    have apart : ∀ combination ∈ plan, combination.id ≠ candidate.id := fun combination isListed same =>
      fresh (same ▸ named combination isListed)
    refine ⟨by simpa [Nat.succ_le_iff] using room.1, ?_, ?_, ?_, ?_⟩
    · grind
    · rw [List.map_append, List.nodup_append]
      exact ⟨ids, by simp, by simpa using apart⟩
    · rw [List.pairwise_append]
      exact ⟨routes, by simp, by simpa using fun combination isListed same => room.2 ⟨combination, isListed, same⟩⟩
    · grind
  next => exact planned.skip candidate.id

theorem Planned.pushComplete (planned : Planned Holds used plan) (candidate : RouteCombination)
    (fresh : candidate.id ∉ used) (holds : candidate.routes.entries.length = cases.length → Holds candidate) :
    Planned Holds (candidate.id :: used) (pushComplete cases plan candidate) := by
  rw [Plans.pushComplete]
  split
  next complete => exact planned.pushUnique candidate fresh (holds complete)
  next => exact planned.skip candidate.id

theorem alternative_inj {first second : ℕ}
    (same : "alternative-" ++ toString (first + 1) = "alternative-" ++ toString (second + 1)) : first = second := by
  have texts := congrArg String.toList same
  rw [String.toList_append, String.toList_append] at texts
  have numbers : first + 1 = second + 1 :=
    Nat.repr_injective (String.toList_injective (List.append_cancel_left texts))
  omega

theorem Planned.substitute
    (planned : Planned Holds used plan) (fresh : ∀ later ≥ index, "alternative-" ++ toString (later + 1) ∉ used)
    (holds : ∀ later, ∀ agent ∈ agents, ∀ second, (alternatives byAgent agent.1)[1]? = some second →
      Holds (substitution cases byAgent later agent.1 second)) :
    ∃ names, Planned Holds names (substitute cases byAgent index agents plan) := by
  induction agents generalizing index used plan with
  | nil => exact ⟨used, planned⟩
  | cons agent rest ih =>
    have later := fun later agent isLater => holds later agent (List.mem_cons_of_mem _ isLater)
    rw [Plans.substitute]
    split
    next => exact ih planned (fun other after => fresh other (by omega)) later
    next second isSecond =>
      have pushed := planned.pushUnique (Plans.substitution cases byAgent index agent.1 second) (fresh index le_rfl)
        (holds index agent List.mem_cons_self second isSecond)
      dsimp only
      split
      · exact ⟨_, pushed⟩
      · refine ih pushed (fun other after used => ?_) later
        cases List.mem_cons.mp used with
        | inl same => exact absurd (alternative_inj same) (by omega)
        | inr earlier => exact fresh other (by omega) earlier

theorem planned (current : Holds (currentCombination cases))
    (fastest : (fastestRoutes cases byAgent).entries.length = cases.length → Holds (fastestCombination cases byAgent))
    (lowestMemory : (selectRoutes cases byAgent candidateMemoryOrder).entries.length = cases.length →
      Holds (lowestMemoryCombination cases byAgent))
    (shared : ∀ routes, sharedRoutes cases byAgent = some routes → Holds (sharedCombination routes))
    (substitution : ∀ index, ∀ agent ∈ agents, ∀ second, (alternatives byAgent agent.1)[1]? = some second →
      Holds (substitution cases byAgent index agent.1 second)) :
    ∃ names, Planned Holds names (substitute cases byAgent 0 agents (selectedCombinations cases byAgent)) := by
  have start : Planned Holds [] [] := ⟨Nat.zero_le _, by simp, by simp, .nil, by simp⟩
  have selected := ((start.pushUnique (currentCombination cases) (by simp) current).pushComplete
    (fastestCombination cases byAgent) (by simp [currentCombination, fastestCombination]) fastest).pushComplete
    (lowestMemoryCombination cases byAgent)
    (by simp [currentCombination, fastestCombination, lowestMemoryCombination]) lowestMemory
  have unnumbered : ∀ later, "alternative-" ++ toString (later + 1) ∉
      ["shared-model", "lowest-memory", "fastest-local", "current"] := by
    intro later used
    have opens : ("alternative-" ++ toString (later + 1)).toList.take 2 = ['a', 'l'] := by
      rw [String.toList_append]
      rfl
    simp only [List.mem_cons, List.not_mem_nil, or_false] at used
    obtain same | same | same | same := used <;> exact absurd (same ▸ opens) (by decide)
  have listed : Planned Holds ["shared-model", "lowest-memory", "fastest-local", "current"]
      (selectedCombinations cases byAgent) := by
    rw [selectedCombinations]
    cases isShared : sharedRoutes cases byAgent with
    | none => exact selected.skip "shared-model"
    | some routes =>
      exact selected.pushUnique (sharedCombination routes)
        (by simp [currentCombination, fastestCombination, lowestMemoryCombination, sharedCombination]) (shared routes isShared)
  exact listed.substitute (fun later _ => unnumbered later) substitution

theorem mem_substitute (isListed : candidate ∈ plan) :
    candidate ∈ substitute cases byAgent index agents plan := by
  induction agents generalizing index plan with
  | nil => exact isListed
  | cons agent rest ih =>
    have kept (other : RouteCombination) : candidate ∈ pushUnique plan other := by
      rw [pushUnique]
      split <;> simp [isListed]
    rw [substitute]
    split
    · exact ih isListed
    · dsimp only
      split
      · exact kept _
      · exact ih (kept _)

theorem substituted (lists : ∃ agent ∈ agents, ∃ second, (alternatives byAgent agent.1)[1]? = some second)
    (apart : ∀ later agent second, (alternatives byAgent agent)[1]? = some second →
      candidate.routes.toFinmap ≠ (substitution cases byAgent later agent second).routes.toFinmap) :
    ∃ later agent second, (alternatives byAgent agent)[1]? = some second ∧
      substitution cases byAgent later agent second ∈ substitute cases byAgent index agents [candidate] := by
  induction agents generalizing index with
  | nil => simp at lists
  | cons agent rest ih =>
    rw [substitute]
    split
    next lacks => exact ih (by simpa [lacks] using lists)
    next second isSecond =>
      refine ⟨index, agent.1, second, isSecond, ?_⟩
      have pushed : pushUnique [candidate] (substitution cases byAgent index agent.1 second) =
          [candidate, substitution cases byAgent index agent.1 second] :=
        if_pos ⟨by simp [maxCombinations], by simpa using apart index agent.1 second isSecond⟩
      rw [pushed]
      exact mem_substitute (by simp)

end

structure SoundPlan (cases : List AgentCase) (evaluations : List CandidateEvaluation) (plan : List RouteCombination) : Prop where
  bounded : plan.length ≤ maxCombinations
  ids : (plan.map (·.id)).Nodup
  routes : plan.Pairwise fun first second => first.routes.toFinmap ≠ second.routes.toFinmap
  covers : ∀ combination ∈ plan, Covers cases combination
  explained : ∀ combination ∈ plan, Explained cases evaluations (passedByAgent evaluations) combination
  accepted : validateRunRoutes (plan.map (·.routes)) = .ok ()

theorem validateRunRoutes_of_covers {plan : List RouteCombination}
    (covers : ∀ combination ∈ plan, Covers cases combination) : validateRunRoutes (plan.map (·.routes)) = .ok () := by
  cases plan with
  | nil => rfl
  | cons first rest =>
    simp only [List.map_cons, validateRunRoutes, ensure_ok, List.forall_mem_map]
    intro combination isLater
    ext agentId
    exact (covers combination (List.mem_cons_of_mem _ isLater) agentId).trans (covers first List.mem_cons_self agentId).symm

theorem uncovered {evaluations : List CandidateEvaluation} {byAgent : PassedByAgent}
    (distinct : (cases.map (·.agentId)).Nodup) (indexes : Indexes evaluations byAgent) {case : AgentCase}
    (isCase : case ∈ cases) (unpassed : passingOf evaluations case.agentId = [])
    (isSlow : agent ∈ agents) (two : 2 ≤ (byAgent.candidates agent.1).length) :
    ∃ combination ∈ substitute cases byAgent 0 agents (selectedCombinations cases byAgent),
      case.agentId ∉ combination.routes := by
  have incomplete : ¬∀ case ∈ cases, passingOf evaluations case.agentId ≠ [] := fun passing => passing case isCase unpassed
  have noCandidate : byAgent.candidates case.agentId = [] := not_ne_iff.mp fun some => (candidates_ne_nil indexes).mp some unpassed
  -- only the current routes are listed before the substitutions
  have selected : selectedCombinations cases byAgent = [currentCombination cases] := by
    have pushed : pushUnique [] (currentCombination cases) = [currentCombination cases] := if_pos (by simp [maxCombinations])
    have skipped (combination : RouteCombination) (isPartial : combination.routes.entries.length ≠ cases.length) :
        pushComplete cases [currentCombination cases] combination = [currentCombination cases] := if_neg isPartial
    rw [selectedCombinations, pushed, skipped _ ((selectRoutes_complete distinct indexes _).not.mpr incomplete),
      skipped _ ((selectRoutes_complete distinct indexes _).not.mpr incomplete)]
    cases isShared : sharedRoutes cases byAgent with
    | none => rfl
    | some shared => exact absurd unpassed ((sharedRoutes_spec distinct indexes isShared).2.2 case isCase)
  have lacks : ∀ later agent second, (alternatives byAgent agent)[1]? = some second →
      case.agentId ∉ (substitution cases byAgent later agent second).routes := by
    intro later other second isSecond covered
    rw [substitution, AList.mem_insert] at covered
    cases covered with
    | inl same => simpa [← same, noCandidate] using (second_apart indexes isSecond).1
    | inr routed =>
      obtain ⟨provider, found⟩ := Option.isSome_iff_exists.mp (AList.lookup_isSome.mpr routed)
      obtain ⟨_, candidate, least, _⟩ := (lookup_selectRoutes distinct).mp found
      simp [noCandidate] at least
  have currentCase : case.agentId ∈ (currentCombination cases).routes :=
    (covers_of_complete distinct ((collectRoutes_complete distinct).mpr fun _ _ => rfl)).mpr (List.mem_map_of_mem isCase)
  have lengths : (alternatives byAgent agent.1).length = (byAgent.candidates agent.1).length := List.length_insertionSort _ _
  rw [selected]
  obtain ⟨later, other, second, isSecond, isListed⟩ := substituted
    ⟨agent, isSlow, _, List.getElem?_eq_getElem (by omega : 1 < (alternatives byAgent agent.1).length)⟩
    fun later other second isSecond same => lacks later other second isSecond
      ((congrArg (case.agentId ∈ ·) same).mp currentCase)
  exact ⟨_, isListed, lacks later other second isSecond⟩

/-- The plan is sound when every agent has a passing evaluation, or when none of the slowest agents has passing
evaluations of two providers. -/
theorem generateCombinations_sound (descending : List (String × ℕ) → List (String × ℕ)) (sorts : SortsDescending descending)
    (cases : List AgentCase) (distinct : (cases.map (·.agentId)).Nodup) (evaluations : List CandidateEvaluation) :
    SoundPlan cases evaluations (generateCombinations descending cases evaluations) ↔
      (∀ case ∈ cases, passingOf evaluations case.agentId ≠ []) ∨
        ∀ agent ∈ slowestAgents descending cases (passedByAgent evaluations),
          ((passedByAgent evaluations).candidates agent.1).length < 2 := by
  have indexes : Indexes evaluations (passedByAgent evaluations) := indexed_candidates evaluations
  constructor
  · intro sound
    by_contra partly
    simp only [not_or, not_forall, exists_prop, not_not, not_lt] at partly
    obtain ⟨⟨case, isCase, unpassed⟩, agent, isSlow, two⟩ := partly
    obtain ⟨combination, isListed, lacks⟩ := uncovered distinct indexes isCase unpassed isSlow two
    exact lacks ((sound.covers combination isListed case.agentId).mpr (List.mem_map_of_mem isCase))
  · intro condition
    have plans : ∃ names, Planned (fun combination => Explained cases evaluations (passedByAgent evaluations) combination ∧
        Covers cases combination) names (generateCombinations descending cases evaluations) := planned
      ⟨⟨fun other => absurd rfl other, fun isKind => (by cases isKind), fun isKind => (by cases isKind),
        fun isKind => (by cases isKind)⟩, fun _ => covers_of_complete distinct ((collectRoutes_complete distinct).mpr fun _ _ => rfl)⟩
      (fun complete => ⟨explained_fastest distinct indexes, fun _ => covers_of_complete distinct complete⟩)
      (fun complete => ⟨explained_lowestMemory distinct indexes, fun _ => covers_of_complete distinct complete⟩)
      (fun routes isShared =>
        have spec := sharedRoutes_spec distinct indexes isShared
        ⟨⟨fun _ => spec.2.1, fun isKind => (by cases isKind), fun isKind => (by cases isKind),
          fun isKind => (by cases isKind)⟩, spec.1⟩)
      (fun index agent isSlow second isSecond => by
        have isAgent := mem_of_slowest distinct sorts isSlow
        refine ⟨explained_substitution distinct indexes isAgent isSecond index, fun other => ?_⟩
        cases condition with
        | inl passing =>
          have covers : other ∈ fastestRoutes cases (passedByAgent evaluations) ↔ other ∈ cases.map (·.agentId) :=
            covers_of_complete distinct ((selectRoutes_complete distinct indexes _).mpr passing)
          rw [substitution, AList.mem_insert, covers]
          exact ⟨fun found => found.elim (fun same => same ▸ isAgent) id, Or.inr⟩
        | inr few =>
          have single := few agent isSlow
          have lengths := List.length_insertionSort (fun left right => candidateLatencyOrder left ≤ candidateLatencyOrder right)
            ((passedByAgent evaluations).candidates agent.1)
          have inside := (List.getElem?_eq_some_iff.mp isSecond).1
          rw [alternatives] at inside
          omega)
    obtain ⟨names, plan⟩ := plans
    have covers := fun combination isListed => (plan.holds combination isListed).2
    exact ⟨plan.bounded, plan.ids, plan.routes, covers, fun combination isListed => (plan.holds combination isListed).1,
      validateRunRoutes_of_covers covers⟩

def agentCases : List AgentCase := [⟨"planner", "chat", "large"⟩, ⟨"memory", "chat", "large"⟩]

def passedIn (agentId providerKey : String) (milliseconds : ℕ) : CandidateEvaluation :=
  ⟨agentId, providerKey, .passed ⟨milliseconds, milliseconds, milliseconds, 3⟩ none⟩

def sortDescending (items : List (String × ℕ)) : List (String × ℕ) :=
  items.insertionSort fun first second => second.2 ≤ first.2

theorem sortDescending_sorts : SortsDescending sortDescending := fun items =>
  ⟨List.perm_insertionSort _ _,
    haveI : Std.Total fun first second : String × ℕ => second.2 ≤ first.2 := ⟨fun first second => Nat.le_total second.2 first.2⟩
    haveI : IsTrans (String × ℕ) fun first second => second.2 ≤ first.2 := ⟨fun _ _ _ lower upper => upper.trans lower⟩
    List.pairwise_insertionSort _ items⟩

theorem generateCombinations_sound_pair :
    SoundPlan agentCases [passedIn "planner" "small" 40, passedIn "memory" "tiny" 45]
      (generateCombinations sortDescending agentCases [passedIn "planner" "small" 40, passedIn "memory" "tiny" 45]) :=
  (generateCombinations_sound sortDescending sortDescending_sorts agentCases (by decide)
    [passedIn "planner" "small" 40, passedIn "memory" "tiny" 45]).mpr (Or.inl (by decide))

theorem partial_plan_refused :
    ¬SoundPlan agentCases [passedIn "planner" "small" 40, passedIn "planner" "shared" 30]
      (generateCombinations sortDescending agentCases [passedIn "planner" "small" 40, passedIn "planner" "shared" 30]) :=
  fun sound => absurd sound.accepted (by decide)

end Vifu.Gateway.Plans
