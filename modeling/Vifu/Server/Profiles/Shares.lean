import Mathlib.Algebra.Order.Group.Int
import Mathlib.Algebra.Order.Group.Unbundled.Abs
import Vifu.Foundation.Periods
import Vifu.Server.Profiles.Routing
import Vifu.Server.Profiles.Selection

/-!
# The shares of a rollout

A digest selects a version by its first sixteen bits, reduced modulo the ten thousand basis points of a rollout.  The
prefixes are no multiple of the basis points: those below 5536 are hit seven times and the others six times.  So a
version gets the share that its weight stands for just where one version has nearly the whole weight.
-/

namespace Vifu.Server

open Foundation
open Vifu.Gateway

def digestPrefix (digest : List UInt8) : ℕ := (digest.getD 0 0).toNat * 256 + (digest.getD 1 0).toNat

def versionAt (rollout : List AgentProfileRollout) (digits : ℕ) : Option Uuid :=
  (pickAllocation (digits % 10000 : ℕ) 0 rollout).or (rollout.getLast?.map AgentProfileRollout.profileVersionId)

def share (rollout : List AgentProfileRollout) (versionId : Uuid) : ℕ :=
  Nat.count (fun digits => versionAt rollout digits = some versionId) 65536

/-- Every prefix selects a version of the rollout, and the share of each is within 8 of what its weight stands for. -/
structure FairShares (tables : ProfileTables) (profileId : Uuid) (allocations : List (Uuid × ℤ)) : Prop where
  selects : ∀ digits < 65536, ∃ versionId ∈ allocations.map Prod.fst,
    versionAt (tables.listProfileRollout profileId) digits = some versionId ∧
      ∀ (sha256 : Sha256) (selectionKey : Option String),
        digestPrefix (sha256 (uuidBytes profileId ++ textBytes (selectionKey.getD "anonymous"))) = digits →
          tables.selectProfileVersion sha256 profileId selectionKey = .ok versionId
  fair : ∀ allocation ∈ allocations,
    |10000 * (share (tables.listProfileRollout profileId) allocation.1 : ℤ) - 65536 * allocation.2| < 80000

/-! ## Walking the weights -/

section

variable {rows before after : List AgentProfileRollout} {row : AgentProfileRollout} {bucket cursor : ℤ}

def weight : List AgentProfileRollout → ℤ
  | [] => 0
  | row :: rows => row.weightBps + weight rows

theorem weight_cons (row : AgentProfileRollout) (rows : List AgentProfileRollout) :
    weight (row :: rows) = row.weightBps + weight rows := rfl

theorem weight_append (before after : List AgentProfileRollout) :
    weight (before ++ after) = weight before + weight after := by
  induction before with
  | nil => simp [weight]
  | cons row before ih =>
    rw [List.cons_append, weight_cons, weight_cons]
    omega

theorem weight_perm {others : List AgentProfileRollout} (same : rows.Perm others) : weight rows = weight others := by
  induction same with
  | nil => rfl
  | cons row _ ih => rw [weight_cons, weight_cons, ih]
  | swap first second rows =>
    simp only [weight_cons]
    omega
  | trans _ _ first second => exact first.trans second

theorem weight_map (now : ℕ) (profileId : Uuid) (allocations : List (Uuid × ℤ)) :
    weight (allocations.map (rolloutRow now profileId)) = (allocations.map Prod.snd).sum := by
  induction allocations with
  | nil => rfl
  | cons allocation allocations ih =>
    rw [List.map_cons, List.map_cons, weight_cons, ih]
    rfl

theorem weight_nonneg (positive : ∀ row ∈ rows, 0 < row.weightBps) : 0 ≤ weight rows := by
  induction rows with
  | nil => exact le_rfl
  | cons row rows ih =>
    rw [List.forall_mem_cons] at positive
    have rest := ih positive.2
    rw [weight_cons]
    omega

theorem pickAllocation_mem {versionId : Uuid} (picked : pickAllocation bucket cursor rows = some versionId) :
    versionId ∈ rows.map AgentProfileRollout.profileVersionId := by
  induction rows generalizing cursor with
  | nil => cases picked
  | cons row rows ih =>
    rw [pickAllocation] at picked
    split at picked
    · cases picked
      exact List.mem_cons_self
    · exact List.mem_cons_of_mem _ (ih picked)

theorem pickAllocation_isSome (reached : cursor ≤ bucket) (within : bucket < cursor + weight rows) :
    ∃ versionId, pickAllocation bucket cursor rows = some versionId := by
  induction rows generalizing cursor with
  | nil =>
    have none : weight [] = 0 := rfl
    omega
  | cons row rows ih =>
    rw [pickAllocation]
    split
    · exact ⟨_, rfl⟩
    · rw [weight_cons] at within
      apply ih
      · omega
      · omega

theorem pickAllocation_iff (positive : ∀ other ∈ before ++ row :: after, 0 < other.weightBps)
    (distinct : ((before ++ row :: after).map AgentProfileRollout.profileVersionId).Nodup) (reached : cursor ≤ bucket) :
    pickAllocation bucket cursor (before ++ row :: after) = some row.profileVersionId ↔
      cursor + weight before ≤ bucket ∧ bucket < cursor + weight before + row.weightBps := by
  induction before generalizing cursor with
  | nil =>
    have start : weight [] = 0 := rfl
    rw [List.nil_append, pickAllocation]
    split
    next within =>
      simp only [true_iff]
      omega
    next beyond =>
      rw [List.nil_append, List.map_cons, List.nodup_cons] at distinct
      constructor
      · intro picked
        exact absurd (pickAllocation_mem picked) distinct.1
      · omega
  | cons first before ih =>
    rw [List.cons_append, List.map_cons, List.nodup_cons] at distinct
    rw [List.cons_append, List.forall_mem_cons] at positive
    have earlier : 0 ≤ weight before :=
      weight_nonneg fun row mem => positive.2 row (List.mem_append_left _ mem)
    rw [List.cons_append, pickAllocation, weight_cons]
    split
    next within =>
      have differs : first.profileVersionId ≠ row.profileVersionId := by
        intro same
        apply distinct.1
        simp [same]
      simp only [Option.some.injEq, differs, false_iff]
      omega
    next beyond =>
      rw [ih positive.2 distinct.2 (by omega)]
      omega

end

/-! ## Rollouts with the whole weight -/

/-- What the check of a rollout establishes about its rows, in the order in which they are walked. -/
structure Whole (rows : List AgentProfileRollout) : Prop where
  positive : ∀ row ∈ rows, 0 < row.weightBps
  distinct : (rows.map AgentProfileRollout.profileVersionId).Nodup
  total : weight rows = 10000
  descending : rows.Pairwise fun first second => second.weightBps ≤ first.weightBps
  few : rows.length ≤ 10

section

variable {rows before after : List AgentProfileRollout} {row : AgentProfileRollout}

theorem Whole.versionAt (whole : Whole rows) (digits : ℕ) :
    ∃ versionId ∈ rows.map AgentProfileRollout.profileVersionId,
      pickAllocation (digits % 10000 : ℕ) 0 rows = some versionId ∧ versionAt rows digits = some versionId := by
  have within : ((digits % 10000 : ℕ) : ℤ) < 0 + weight rows := by
    rw [whole.total]
    omega
  obtain ⟨versionId, picked⟩ := pickAllocation_isSome (Int.natCast_nonneg _) within
  refine ⟨versionId, pickAllocation_mem picked, picked, ?_⟩
  rw [Server.versionAt, picked]
  rfl

theorem Whole.share (whole : Whole (before ++ row :: after)) :
    (share (before ++ row :: after) row.profileVersionId : ℤ) =
      6 * row.weightBps + (min (weight before + row.weightBps) 5536 - min (weight before) 5536) := by
  have positive := whole.positive
  have total := whole.total
  have isPositive := positive row (by simp)
  have start : 0 ≤ weight before := weight_nonneg fun row mem => positive row (List.mem_append_left _ mem)
  have rest : 0 ≤ weight after := weight_nonneg fun row mem =>
    positive row (List.mem_append_right _ (List.mem_cons_of_mem _ mem))
  rw [weight_append, weight_cons] at total
  obtain ⟨first, isFirst⟩ := Int.eq_ofNat_of_zero_le start
  obtain ⟨length, isLength⟩ := Int.eq_ofNat_of_zero_le isPositive.le
  have counts : Server.share (before ++ row :: after) row.profileVersionId =
      Nat.count (fun digits => first ≤ digits % 10000 ∧ digits % 10000 < first + length) 65536 := by
    apply count_congr
    intro digits _
    obtain ⟨versionId, _, picked, selected⟩ := whole.versionAt digits
    rw [selected, ← picked, pickAllocation_iff positive whole.distinct (Int.natCast_nonneg _), isLength]
    omega
  have periods : 65536 = 6 * 10000 + 5536 := by omega
  rw [counts, periods, count_mod (fun bucket => first ≤ bucket ∧ bucket < first + length) (by omega), count_interval,
    count_interval, isFirst, isLength]
  omega

theorem weight_le (bound : ℤ) (most : ∀ row ∈ rows, row.weightBps ≤ bound) : weight rows ≤ rows.length * bound := by
  induction rows with
  | nil => simp [weight]
  | cons row rows ih =>
    rw [List.forall_mem_cons] at most
    have others := ih most.2
    rw [weight_cons, List.length_cons, Nat.cast_succ, add_one_mul]
    omega

theorem Whole.fair_iff (whole : Whole rows) :
    (∀ row ∈ rows, |10000 * (Server.share rows row.profileVersionId : ℤ) - 65536 * row.weightBps| < 80000) ↔
      ∃ row ∈ rows, 9986 ≤ row.weightBps := by
  obtain ⟨first, others, rfl⟩ : ∃ first others, rows = first :: others := by
    apply List.exists_cons_of_ne_nil
    rintro rfl
    have total := whole.total
    simp [weight] at total
  have descending := whole.descending
  rw [List.pairwise_cons] at descending
  constructor
  · intro fair
    refine ⟨first, List.mem_cons_self, ?_⟩
    have large : weight (first :: others) ≤ (first :: others).length * first.weightBps := by
      apply weight_le
      rw [List.forall_mem_cons]
      exact ⟨le_rfl, descending.1⟩
    have few := whole.few
    have firstFair := fair first List.mem_cons_self
    have firstShare : (Server.share ([] ++ first :: others) first.profileVersionId : ℤ) =
        6 * first.weightBps + (min (weight [] + first.weightBps) 5536 - min (weight []) 5536) := Whole.share whole
    have start : weight [] = 0 := rfl
    rw [List.nil_append] at firstShare
    rw [firstShare, abs_lt] at firstFair
    have scaled : ((first :: others).length : ℤ) * first.weightBps ≤ 10 * first.weightBps :=
      Int.mul_le_mul_of_nonneg_right (by omega) (whole.positive first List.mem_cons_self).le
    rw [whole.total] at large
    omega
  · rintro ⟨heavy, isHeavy, large⟩
    have firstLarge : 9986 ≤ first.weightBps := by
      rcases List.mem_cons.mp isHeavy with rfl | later
      · exact large
      · exact large.trans (descending.1 heavy later)
    intro row mem
    obtain ⟨before, after, parts⟩ := List.append_of_mem mem
    have rowShare := Whole.share (parts ▸ whole)
    have rest : 0 ≤ weight after := weight_nonneg fun other isOther =>
      whole.positive other (by rw [parts]; exact List.mem_append_right _ (List.mem_cons_of_mem _ isOther))
    have parted := whole.total
    rw [parts, weight_append, weight_cons] at parted
    rw [parts, rowShare, abs_lt]
    -- the row is the first one, or the first one leaves at most 14 for it
    cases before with
    | nil =>
      have start : weight [] = 0 := rfl
      have isFirst := (List.cons.inj parts).1
      rw [isFirst] at firstLarge
      omega
    | cons head before =>
      have isFirst := (List.cons.inj parts).1
      have between : 0 ≤ weight before := weight_nonneg fun other isOther =>
        whole.positive other (by rw [parts]; exact List.mem_append_left _ (List.mem_cons_of_mem _ isOther))
      rw [isFirst] at firstLarge
      rw [weight_cons] at parted ⊢
      omega

end

/-! ## Rollouts that were set -/

section

variable {tables next : ProfileTables} {now : ℕ} {profileId activeVersionId : Uuid} {allocations : List (Uuid × ℤ)}

instance : Std.Total AgentProfileRollout.Precedes where
  total first second := by
    unfold AgentProfileRollout.Precedes
    omega

instance : IsTrans AgentProfileRollout AgentProfileRollout.Precedes where
  trans first second third := by
    unfold AgentProfileRollout.Precedes
    omega

theorem rolloutTotal_distinct {seen : List Uuid} {start total : ℤ}
    (added : rolloutTotal seen start allocations = .ok total) :
    (allocations.map Prod.fst).Nodup ∧ ∀ versionId ∈ seen, versionId ∉ allocations.map Prod.fst := by
  induction allocations generalizing seen start with
  | nil => simp
  | cons allocation allocations ih =>
    obtain ⟨accepted, rest⟩ := check_bind_ok.mp added
    obtain ⟨_, rest⟩ := check_bind_ok.mp rest
    rw [ensure_ok] at accepted
    obtain ⟨distinct, unseen⟩ := ih rest
    rw [List.map_cons, List.nodup_cons]
    refine ⟨⟨unseen _ List.mem_cons_self, distinct⟩, ?_⟩
    intro versionId isSeen isAllocated
    rcases List.mem_cons.mp isAllocated with rfl | later
    · exact accepted.2 isSeen
    · exact unseen _ (List.mem_cons_of_mem _ isSeen) later

theorem rolloutOf_written (writes : tables.writeProfileRollout now profileId allocations activeVersionId = .ok next) :
    next.rolloutOf profileId = allocations.map (rolloutRow now profileId) := by
  obtain ⟨written, inserts, rest⟩ := bind_ok.mp writes
  obtain ⟨_, same⟩ := check_bind_ok.mp rest
  cases same
  obtain ⟨⟨rows, rfl, appended⟩, _⟩ := insertRollouts_ok inserts
  have rewritten := rolloutOf_rewritten appended profileId
  rw [if_pos rfl] at rewritten
  exact rewritten

theorem whole_written {asked : ProfileTables}
    (checked : asked.checkProfileRollout profileId allocations = .ok activeVersionId)
    (writes : tables.writeProfileRollout now profileId allocations activeVersionId = .ok next) :
    Whole (next.listProfileRollout profileId) ∧
      (next.listProfileRollout profileId).Perm (allocations.map (rolloutRow now profileId)) := by
  obtain ⟨positive, total, _⟩ := checkProfileRollout_ok checked
  obtain ⟨few, rest⟩ := check_bind_ok.mp checked
  obtain ⟨_, adds, _⟩ := bind_ok.mp rest
  rw [ensure_ok] at few
  have same : (next.listProfileRollout profileId).Perm (allocations.map (rolloutRow now profileId)) := by
    rw [ProfileTables.listProfileRollout, rolloutOf_written writes]
    exact List.perm_insertionSort _ _
  refine ⟨⟨?_, ?_, ?_, ?_, ?_⟩, same⟩
  · intro row mem
    obtain ⟨allocation, isAllocated, rfl⟩ := List.mem_map.mp (same.mem_iff.mp mem)
    exact positive allocation isAllocated
  · rw [(same.map _).nodup_iff, List.map_map]
    exact (rolloutTotal_distinct adds).1
  · rw [weight_perm same, weight_map]
    exact total
  · have sorted : (next.listProfileRollout profileId).Pairwise AgentProfileRollout.Precedes :=
      List.pairwise_insertionSort _ _
    apply sorted.imp
    intro first second precedes
    unfold AgentProfileRollout.Precedes at precedes
    omega
  · rw [same.length_eq, List.length_map]
    exact few.2

theorem fairShares_iff (whole : Whole (next.listProfileRollout profileId))
    (same : (next.listProfileRollout profileId).Perm (allocations.map (rolloutRow now profileId))) :
    FairShares next profileId allocations ↔ ∃ allocation ∈ allocations, 9986 ≤ allocation.2 := by
  have rows (p : AgentProfileRollout → Prop) : (∃ row ∈ next.listProfileRollout profileId, p row) ↔
      ∃ allocation ∈ allocations, p (rolloutRow now profileId allocation) := by
    simp only [same.mem_iff, List.mem_map, exists_exists_and_eq_and]
  have every (p : AgentProfileRollout → Prop) : (∀ row ∈ next.listProfileRollout profileId, p row) ↔
      ∀ allocation ∈ allocations, p (rolloutRow now profileId allocation) := by
    simp only [same.mem_iff, List.forall_mem_map]
  have fair := whole.fair_iff
  rw [rows, every] at fair
  refine Iff.trans ?_ fair
  constructor
  · exact FairShares.fair
  · intro fairRows
    refine ⟨?_, fairRows⟩
    intro digits _
    obtain ⟨versionId, isVersion, picked, selected⟩ := whole.versionAt digits
    refine ⟨versionId, ?_, selected, ?_⟩
    · rw [(same.map _).mem_iff, List.map_map] at isVersion
      exact isVersion
    · intro sha256 selectionKey begins
      have stored : next.listProfileRollout profileId ≠ [] := by
        intro none
        rw [none] at isVersion
        cases isVersion
      have bucket : rolloutBucket sha256 profileId selectionKey = ((digits % 10000 : ℕ) : ℤ) := by
        rw [← begins]
        rfl
      rw [ProfileTables.selectProfileVersion, if_neg stored, bucket, picked]
      rfl

/-- A rollout that was checked and written honours its weights if and only if one of its versions has at least 9986
    of the 10000 basis points. -/
theorem rollout_shares_iff (asked tables next : ProfileTables) (now : ℕ) (profileId activeVersionId : Uuid)
    (allocations : List (Uuid × ℤ)) (checked : asked.checkProfileRollout profileId allocations = .ok activeVersionId)
    (writes : tables.writeProfileRollout now profileId allocations activeVersionId = .ok next) :
    FairShares next profileId allocations ↔ ∃ allocation ∈ allocations, 9986 ≤ allocation.2 := by
  obtain ⟨whole, same⟩ := whole_written checked writes
  exact fairShares_iff whole same

end

def townGuideRollout (weights : List (Uuid × ℤ)) : Except ApiError (ProfileTables × ProfileTables × Uuid) := do
  let empty : ProfileTables := ⟨.empty, .empty, .empty, .empty, .empty, .empty⟩
  let (_, created) ← empty.createProfile townGuide townGuideProject "guide" "Guide" none
  let (_, one) ← created.createProfileVersion 1 townGuide townGuideFirst (fun _ => townGuide) townGuideVersion
  let (_, two) ← one.createProfileVersion 2 townGuide townGuideSecond (fun _ => townGuide) townGuideVersion
  let activeVersionId ← two.checkProfileRollout townGuide weights
  let written ← two.writeProfileRollout 3 townGuide weights activeVersionId
  return (two, written, activeVersionId)

theorem townGuideRollout_ok {weights : List (Uuid × ℤ)} (succeeds : (townGuideRollout weights).toOption.isSome = true) :
    ∃ (tables next : ProfileTables) (activeVersionId : Uuid),
      tables.checkProfileRollout townGuide weights = .ok activeVersionId ∧
      tables.writeProfileRollout 3 townGuide weights activeVersionId = .ok next := by
  cases rolled : townGuideRollout weights with
  | error error =>
    rw [rolled] at succeeds
    cases succeeds
  | ok result =>
    obtain ⟨created, _, rest⟩ := bind_ok.mp rolled
    obtain ⟨one, _, rest⟩ := bind_ok.mp rest
    obtain ⟨two, _, rest⟩ := bind_ok.mp rest
    obtain ⟨activeVersionId, checked, rest⟩ := bind_ok.mp rest
    obtain ⟨written, writes, _⟩ := bind_ok.mp rest
    exact ⟨two.2, written, activeVersionId, checked, writes⟩

/-- A trial of ten basis points beside a version with the rest. -/
theorem rollout_shares_trial : ∃ next, FairShares next townGuide [(townGuideFirst, 9990), (townGuideSecond, 10)] := by
  obtain ⟨tables, next, activeVersionId, checked, writes⟩ :=
    @townGuideRollout_ok [(townGuideFirst, 9990), (townGuideSecond, 10)] (by decide +kernel)
  refine ⟨next, (rollout_shares_iff tables tables next 3 townGuide activeVersionId _ checked writes).mpr ?_⟩
  exact ⟨(townGuideFirst, 9990), List.mem_cons_self, by decide⟩

/-- Of two versions with half of the weight each, the first one gets 35000 of the prefixes. -/
theorem even_rollout_uneven : ¬∀ (tables next : ProfileTables) (now : ℕ) (profileId activeVersionId : Uuid)
    (allocations : List (Uuid × ℤ)), tables.checkProfileRollout profileId allocations = .ok activeVersionId →
      tables.writeProfileRollout now profileId allocations activeVersionId = .ok next →
        FairShares next profileId allocations := by
  intro fair
  obtain ⟨tables, next, activeVersionId, checked, writes⟩ :=
    @townGuideRollout_ok [(townGuideFirst, 5000), (townGuideSecond, 5000)] (by decide +kernel)
  obtain ⟨whole, same⟩ := whole_written checked writes
  obtain ⟨allocation, member, large⟩ := (fairShares_iff whole same).mp (fair _ _ _ _ _ _ checked writes)
  have even : ∀ allocation ∈ [(townGuideFirst, (5000 : ℤ)), (townGuideSecond, 5000)], allocation.2 = 5000 := by
    decide
  rw [even allocation member] at large
  omega

end Vifu.Server
