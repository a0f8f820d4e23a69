import Vifu.Server.Profiles.Rollouts

/-!
# Rollouts and archived versions

The functions that rewrite a rollout or archive a version, interleaved: what each asks and what it writes later are
steps of their own.  A rollout keeps its weights in every run; that it names no archived version needs what was
asked to hold still when it is written.
-/

namespace Vifu.Server

open Foundation
open Vifu.Gateway

def Live (tables : ProfileTables) (profileId versionId : Uuid) : Prop :=
  ∃ version ∈ tables.agentProfileVersions, version.id = versionId ∧ version.profileId = profileId ∧
    version.archivedAt = none

def Weighed (rollout : List AgentProfileRollout) (activeVersionId : Option Uuid) : Prop :=
  rollout = [] ∧ activeVersionId = none ∨
    (∀ row ∈ rollout, 0 < row.weightBps) ∧ (rollout.map AgentProfileRollout.weightBps).sum = 10000 ∧
      ∃ row ∈ rollout, activeVersionId = some row.profileVersionId

structure Routed (tables : ProfileTables) : Prop where
  weighed : ∀ profile ∈ tables.agentProfiles, Weighed (tables.rolloutOf profile.id) profile.activeVersionId
  live : ∀ row ∈ tables.agentProfileRollouts, Live tables row.profileId row.profileVersionId

/-- With the foreign key from the versions to the profiles. -/
structure RoutedSound (tables : ProfileTables) : Prop extends Routed tables where
  owned : ∀ version ∈ tables.agentProfileVersions, ∃ profile ∈ tables.agentProfiles, profile.id = version.profileId

/-- What the check of a rollout leaves for its transaction. -/
structure Allocated (allocations : List (Uuid × ℤ)) (activeVersionId : Uuid) : Prop where
  positive : ∀ allocation ∈ allocations, 0 < allocation.2
  total : (allocations.map Prod.snd).sum = 10000
  active : activeVersionId ∈ allocations.map Prod.fst

/-! ## What the check of a rollout finds -/

variable {allocations : List (Uuid × ℤ)} {tables : ProfileTables} {versionId : Uuid} {α : Type}

theorem rolloutTotal_ok {seen : List Uuid} {start total : ℤ}
    (added : rolloutTotal seen start allocations = .ok total) :
    total = start + (allocations.map Prod.snd).sum ∧ ∀ allocation ∈ allocations, 0 < allocation.2 := by
  induction allocations generalizing seen start with
  | nil =>
    cases added
    simp
  | cons allocation allocations ih =>
    obtain ⟨accepted, rest⟩ := check_bind_ok.mp added
    obtain ⟨_, rest⟩ := check_bind_ok.mp rest
    rw [ensure_ok] at accepted
    obtain ⟨sums, positive⟩ := ih rest
    refine ⟨?_, ?_⟩
    · rw [sums, List.map_cons, List.sum_cons]
      omega
    · rw [List.forall_mem_cons]
      exact ⟨accepted.1, positive⟩

theorem heaviest_mem (found : heaviest allocations = some versionId) :
    versionId ∈ allocations.map Prod.fst := by
  have fromList : ∀ (rest : List (Uuid × ℤ)) (best : Option (Uuid × ℤ)) (allocation : Uuid × ℤ),
      rest.foldl heavier best = some allocation → allocation ∈ rest ∨ best = some allocation := by
    intro rest
    induction rest with
    | nil => exact fun best allocation same => .inr same
    | cons head rest ih =>
      intro best allocation same
      cases ih _ allocation same with
      | inl later => exact .inl (List.mem_cons_of_mem _ later)
      | inr kept =>
        -- the step takes the head or keeps the best so far
        cases best with
        | none =>
          cases kept
          exact .inl List.mem_cons_self
        | some found =>
          by_cases heavy : found.2 ≤ head.2
          · rw [heavier, if_pos heavy] at kept
            cases kept
            exact .inl List.mem_cons_self
          · rw [heavier, if_neg heavy] at kept
            exact .inr kept
  obtain ⟨allocation, isHeaviest, same⟩ := Option.map_eq_some_iff.mp found
  rw [← same]
  exact List.mem_map_of_mem ((fromList allocations none allocation isHeaviest).resolve_right (by simp))

theorem checkProfileRollout_ok {profileId activeVersionId : Uuid}
    (checked : tables.checkProfileRollout profileId allocations = .ok activeVersionId) :
    Allocated allocations activeVersionId := by
  obtain ⟨_, rest⟩ := check_bind_ok.mp checked
  obtain ⟨total, adds, rest⟩ := bind_ok.mp rest
  obtain ⟨isWhole, rest⟩ := check_bind_ok.mp rest
  obtain ⟨_, rest⟩ := check_bind_ok.mp rest
  obtain ⟨_, found⟩ := check_bind_ok.mp rest
  obtain ⟨sums, positive⟩ := rolloutTotal_ok adds
  rw [ensure_ok] at isWhole
  rw [okOr_ok] at found
  exact ⟨positive, by omega, heaviest_mem found⟩

/-! ## What the statements write -/

def rolloutRow (now : ℕ) (profileId : Uuid) (allocation : Uuid × ℤ) : AgentProfileRollout :=
  ⟨profileId, allocation.1, allocation.2, now⟩

section

variable {next : ProfileTables} {now : ℕ} {profileId : Uuid}
  {input : NewProjectRuntimeRelease} {rows : Rows AgentProfileRollout} {named : AgentProfile → Bool}
  {drawn : ℕ → Uuid} {version : ℕ}

theorem insertRollouts_ok (inserted : allocations.foldlM (ProfileTables.insertRollout now profileId) tables = .ok next) :
    (∃ rows, next = { tables with agentProfileRollouts := rows } ∧
      rows.rows = tables.agentProfileRollouts.rows ++ allocations.map (rolloutRow now profileId)) ∧
    ∀ allocation ∈ allocations, tables.hasVersion profileId allocation.1 = true := by
  induction allocations generalizing tables with
  | nil =>
    cases inserted
    exact ⟨⟨_, rfl, by simp⟩, by simp⟩
  | cons allocation allocations ih =>
    rw [List.foldlM_cons, bind_ok] at inserted
    obtain ⟨first, inserts, rest⟩ := inserted
    obtain ⟨rows, isRows, checks⟩ := bind_ok.mp inserts
    obtain ⟨accepted, same⟩ := check_bind_ok.mp checks
    cases same
    rw [okOr_ok] at isRows
    rw [ensure_ok] at accepted
    obtain ⟨⟨others, isNext, appended⟩, named⟩ := ih rest
    refine ⟨⟨others, isNext, ?_⟩, ?_⟩
    · rw [appended, Rows.rows_of_insert? isRows, List.map_cons, List.append_assoc, List.singleton_append]
      rfl
    · rw [List.forall_mem_cons]
      exact ⟨accepted.2.2, named⟩

theorem rolloutOf_eq (tables : ProfileTables) (profileId : Uuid) :
    tables.rolloutOf profileId = tables.agentProfileRollouts.rows.filter fun row => row.profileId == profileId := rfl

theorem rolloutOf_rewritten
    (rewritten : rows.rows = (tables.clearRollout profileId).agentProfileRollouts.rows ++
      allocations.map (rolloutRow now profileId)) (other : Uuid) :
    { tables with agentProfileRollouts := rows }.rolloutOf other =
      if other = profileId then allocations.map (rolloutRow now profileId) else tables.rolloutOf other := by
  rw [rolloutOf_eq, rewritten, List.filter_append, ProfileTables.clearRollout, Rows.delete, List.filter_filter]
  split
  next same =>
    have cleared : (tables.agentProfileRollouts.rows.filter fun row =>
        (row.profileId == other) && !(row.profileId == profileId)) = [] := by
      rw [List.filter_eq_nil_iff]
      intro row _
      simp [same]
    rw [cleared, List.nil_append, List.filter_eq_self]
    intro row mem
    obtain ⟨allocation, _, rfl⟩ := List.mem_map.mp mem
    simp [rolloutRow, same]
  next different =>
    have others : (allocations.map (rolloutRow now profileId)).filter (fun row => row.profileId == other) = [] := by
      rw [List.filter_eq_nil_iff]
      intro row mem
      obtain ⟨allocation, _, rfl⟩ := List.mem_map.mp mem
      simpa [rolloutRow] using fun same => different same.symm
    rw [others, List.append_nil]
    apply List.filter_congr
    intro row _
    by_cases same : row.profileId = other
    · simp [same, different]
    · simp [same]

theorem mem_activate {profile : AgentProfile} :
    profile ∈ (tables.activate named versionId).agentProfiles ↔ ∃ earlier ∈ tables.agentProfiles,
      Rows.updated named (fun row => { row with activeVersionId := some versionId }) earlier = profile := by
  rw [ProfileTables.activate, Rows.mem_update]

theorem RoutedSound.rewrite (sound : RoutedSound tables) (allocated : Allocated allocations versionId)
    (names : ∀ profile ∈ tables.agentProfiles, named profile = true ↔ profile.id = profileId)
    (rewritten : rows.rows = (tables.clearRollout profileId).agentProfileRollouts.rows ++
      allocations.map (rolloutRow now profileId))
    (live : ∀ allocation ∈ allocations, Live tables profileId allocation.1) :
    RoutedSound ({ tables with agentProfileRollouts := rows }.activate named versionId) := by
  have rolloutOf := rolloutOf_rewritten rewritten
  have stored (row : AgentProfileRollout) : row ∈ rows ↔ row ∈ tables.agentProfileRollouts ∧ row.profileId ≠ profileId ∨
      ∃ allocation ∈ allocations, rolloutRow now profileId allocation = row := by
    rw [← Rows.mem_rows, rewritten, List.mem_append, Rows.mem_rows, ProfileTables.clearRollout, Rows.mem_delete,
      List.mem_map, beq_eq_false_iff_ne]
  refine ⟨⟨?_, ?_⟩, ?_⟩
  · intro profile mem
    obtain ⟨earlier, isStored, rfl⟩ := mem_activate.mp mem
    show Weighed ({ tables with agentProfileRollouts := rows }.rolloutOf _) _
    rw [Rows.updated]
    split
    next isNamed =>
      have same := (names earlier isStored).mp isNamed
      rw [rolloutOf, if_pos same]
      right
      refine ⟨?_, ?_, ?_⟩
      · rw [List.forall_mem_map]
        exact allocated.positive
      · rw [List.map_map]
        exact allocated.total
      · obtain ⟨allocation, isAllocated, isActive⟩ := List.mem_map.mp allocated.active
        exact ⟨_, List.mem_map_of_mem isAllocated, by rw [← isActive]; rfl⟩
    next isOther =>
      have different : earlier.id ≠ profileId := fun same => isOther ((names earlier isStored).mpr same)
      rw [rolloutOf, if_neg different]
      exact sound.weighed earlier isStored
  · intro row mem
    cases (stored row).mp mem with
    | inl kept => exact sound.live row kept.1
    | inr isNew =>
      obtain ⟨allocation, isAllocated, rfl⟩ := isNew
      exact live allocation isAllocated
  · intro version mem
    obtain ⟨profile, isStored, same⟩ := sound.owned version mem
    refine ⟨_, mem_activate.mpr ⟨profile, isStored, rfl⟩, ?_⟩
    rw [Rows.updated]
    split
    · exact same
    · exact same

theorem hasVersion_iff : tables.hasVersion profileId versionId = true ↔
    ∃ version ∈ tables.agentProfileVersions, version.id = versionId ∧ version.profileId = profileId := by
  simp only [ProfileTables.hasVersion, Rows.any_eq_true, Bool.and_eq_true, beq_iff_eq]

theorem profile_unique {first second : AgentProfile} (mem : first ∈ tables.agentProfiles)
    (stored : second ∈ tables.agentProfiles) (same : first.id = second.id) : first = second :=
  Rows.unique mem stored (by simp [clash, Keyed.conflicts, Keyed.key, same])

/-! ## What each function keeps -/

theorem RoutedSound.createProfile {id projectId : Uuid} {slug name : String} {description : Option String}
    {created : AgentProfile} (sound : RoutedSound tables)
    (creates : tables.createProfile id projectId slug name description = .ok (created, next)) : RoutedSound next := by
  obtain ⟨rows, inserts, same⟩ := bind_ok.mp creates
  cases same
  rw [okOr_ok] at inserts
  have stored (profile : AgentProfile) : profile ∈ rows ↔ profile ∈ tables.agentProfiles ∨ profile = _ :=
    Rows.mem_insert? inserts
  have free := Rows.insert?_isSome.mp (show _ = true by rw [inserts]; rfl)
  refine ⟨⟨?_, sound.live⟩, ?_⟩
  · intro profile mem
    cases (stored profile).mp mem with
    | inl isStored => exact sound.weighed profile isStored
    | inr isNew =>
      rw [isNew]
      refine .inl ⟨?_, rfl⟩
      rw [rolloutOf_eq, List.filter_eq_nil_iff]
      intro row isRow named
      obtain ⟨version, isVersion, _, isOf, _⟩ := sound.live row isRow
      obtain ⟨owner, isOwner, owns⟩ := sound.owned version isVersion
      have taken := free owner isOwner
      simp [clash, Keyed.conflicts, Keyed.key, owns, isOf, named] at taken
  · intro version mem
    obtain ⟨profile, isStored, same⟩ := sound.owned version mem
    exact ⟨profile, (stored profile).mpr (.inl isStored), same⟩

theorem RoutedSound.frame (sound : RoutedSound tables) (profiles : next.agentProfiles = tables.agentProfiles)
    (versions : next.agentProfileVersions = tables.agentProfileVersions)
    (rollouts : next.agentProfileRollouts = tables.agentProfileRollouts) : RoutedSound next := by
  obtain ⟨⟨weighed, live⟩, owned⟩ := sound
  refine ⟨⟨?_, ?_⟩, ?_⟩
  · simpa only [profiles, rolloutOf_eq, rollouts] using weighed
  · simpa only [rollouts, Live, versions] using live
  · simpa only [versions, profiles] using owned

theorem insertCapabilities_ok {places : List (ProfileCapabilityDraft × ℕ)}
    (inserted : places.foldlM (ProfileTables.insertCapability now versionId drawn) tables = .ok next) :
    ∃ rows, next = { tables with agentProfileCapabilities := rows } := by
  induction places generalizing tables with
  | nil =>
    cases inserted
    exact ⟨_, rfl⟩
  | cons place places ih =>
    rw [List.foldlM_cons, bind_ok] at inserted
    obtain ⟨first, inserts, rest⟩ := inserted
    obtain ⟨rows, _, checks⟩ := bind_ok.mp inserts
    obtain ⟨_, same⟩ := check_bind_ok.mp checks
    cases same
    obtain ⟨others, rfl⟩ := ih rest
    exact ⟨others, rfl⟩

theorem RoutedSound.createVersion {input : NewProfileVersion} {created : AgentProfileVersion}
    (sound : RoutedSound tables)
    (creates : tables.createProfileVersion now profileId versionId drawn input = .ok (created, next)) :
    RoutedSound next := by
  obtain ⟨profile, found, rest⟩ := bind_ok.mp creates
  obtain ⟨versions, inserts, rest⟩ := bind_ok.mp rest
  obtain ⟨filled, fills, rest⟩ := bind_ok.mp rest
  obtain ⟨activated, activates, same⟩ := bind_ok.mp rest
  cases same
  rw [okOr_ok] at found inserts
  obtain ⟨isProfile, named⟩ := Rows.mem_of_find? found
  rw [beq_iff_eq] at named
  obtain ⟨capabilities, rfl⟩ := insertCapabilities_ok fills
  have stored (version : AgentProfileVersion) : version ∈ versions ↔
      version ∈ tables.agentProfileVersions ∨ version = _ := Rows.mem_insert? inserts
  generalize isFilled : ({ tables with
    agentProfileVersions := versions, agentProfileCapabilities := capabilities } : ProfileTables) = filled at activates
  have soundFilled : RoutedSound filled := by
    rw [← isFilled]
    refine ⟨⟨sound.weighed, ?_⟩, ?_⟩
    · intro row mem
      obtain ⟨version, isStored, facts⟩ := sound.live row mem
      exact ⟨version, (stored version).mpr (.inl isStored), facts⟩
    · intro version mem
      cases (stored version).mp mem with
      | inl isStored => exact sound.owned version isStored
      | inr isNew => exact ⟨profile, isProfile, by rw [isNew, named]⟩
  rw [ProfileTables.activateFirst] at activates
  split at activates
  next unset =>
    have inserted : [(versionId, (10000 : ℤ))].foldlM (ProfileTables.insertRollout now profile.id)
        (filled.activate (fun row => row.id == profile.id) versionId) = .ok next := by
      rw [List.foldlM_cons, activates]
      rfl
    obtain ⟨⟨rows, isNext, appended⟩, _⟩ := insertRollouts_ok inserted
    -- The profile had no rollout that would have to be cleared.
    have isEmpty : filled.rolloutOf profile.id = [] := by
      have mem : profile ∈ filled.agentProfiles := by
        rw [← isFilled]
        exact isProfile
      cases soundFilled.weighed profile mem with
      | inl none => exact none.1
      | inr some =>
        obtain ⟨row, _, active⟩ := some.2.2
        rw [unset] at active
        contradiction
    have cleared : (filled.clearRollout profile.id).agentProfileRollouts.rows = filled.agentProfileRollouts.rows := by
      rw [rolloutOf_eq, List.filter_eq_nil_iff] at isEmpty
      rw [ProfileTables.clearRollout, Rows.delete, List.filter_eq_self]
      intro row mem
      simpa using isEmpty row mem
    have whole : Allocated [(versionId, 10000)] versionId := ⟨by simp, rfl, by simp⟩
    have written : RoutedSound (({ filled with agentProfileRollouts := rows } : ProfileTables).activate
        (fun row => row.id == profile.id) versionId) := soundFilled.rewrite whole
      (fun other _ => beq_iff_eq) (by rw [cleared]; exact appended) (by
        intro allocation mem
        rw [List.mem_singleton] at mem
        rw [← isFilled, mem]
        exact ⟨_, (stored _).mpr (.inr rfl), rfl, named.symm, rfl⟩)
    rw [isNext]
    exact written
  next =>
    cases activates
    exact soundFilled

theorem RoutedSound.writeRollout (sound : RoutedSound tables) (allocated : Allocated allocations versionId)
    (live : ∀ allocation ∈ allocations, ∀ version ∈ tables.agentProfileVersions, version.id = allocation.1 →
      version.profileId = profileId → version.archivedAt = none)
    (writes : tables.writeProfileRollout now profileId allocations versionId = .ok next) : RoutedSound next := by
  obtain ⟨written, inserts, rest⟩ := bind_ok.mp writes
  obtain ⟨_, same⟩ := check_bind_ok.mp rest
  cases same
  obtain ⟨⟨rows, rfl, appended⟩, named⟩ := insertRollouts_ok inserts
  exact sound.rewrite allocated (fun _ _ => beq_iff_eq) appended (by
    intro allocation mem
    obtain ⟨version, stored, isVersion, isOf⟩ := hasVersion_iff.mp (named allocation mem)
    exact ⟨version, stored, isVersion, isOf, live allocation mem version stored isVersion isOf⟩)

theorem RoutedSound.writeArchive (sound : RoutedSound tables)
    (unused : ∀ row ∈ tables.agentProfileRollouts, row.profileId = profileId → row.profileVersionId ≠ versionId) :
    RoutedSound (tables.writeArchive now profileId versionId) := by
  have stored (version : AgentProfileVersion) : version ∈ (tables.writeArchive now profileId versionId).agentProfileVersions ↔
      ∃ earlier ∈ tables.agentProfileVersions, Rows.updated (fun row => row.id == versionId && row.profileId == profileId)
        (fun row => { row with archivedAt := row.archivedAt <|> some now }) earlier = version := by
    rw [ProfileTables.writeArchive, Rows.mem_update]
  refine ⟨⟨sound.weighed, ?_⟩, ?_⟩
  · intro row mem
    obtain ⟨version, isStored, isVersion, isOf, isLive⟩ := sound.live row mem
    refine ⟨version, (stored version).mpr ⟨version, isStored, if_neg ?_⟩, isVersion, isOf, isLive⟩
    intro archived
    simp only [Bool.and_eq_true, beq_iff_eq] at archived
    exact unused row mem (isOf.symm.trans archived.2) (isVersion.symm.trans archived.1)
  · intro version mem
    obtain ⟨earlier, isStored, rfl⟩ := (stored version).mp mem
    obtain ⟨profile, isProfile, same⟩ := sound.owned earlier isStored
    refine ⟨profile, isProfile, same.trans ?_⟩
    rw [Rows.updated]
    split
    · rfl
    · rfl

theorem storeRelease_ok (stores : tables.storeRelease input = .ok (version, next)) :
    ∃ rows, next = { tables with projectRuntimeReleases := rows } := by
  rw [ProfileTables.storeRelease] at stores
  split at stores
  next =>
    cases stores
    exact ⟨_, rfl⟩
  next =>
    obtain ⟨rows, _, same⟩ := map_ok.mp stores
    cases same
    exact ⟨rows, rfl⟩

/-- A profile that can be made live, and a primary deployment to release it in. -/
def Activatable (tables : ProfileTables) (profileId deploymentId projectId : Uuid) : Prop :=
  (∃ profile ∈ tables.agentProfiles, profile.id = profileId ∧ profile.archivedAt = none) ∧
    ∃ deployment ∈ tables.runtimeDeployments, deployment.id = deploymentId ∧ deployment.projectId = projectId ∧
      deployment.isPrimary = true

theorem exists_of_count {ρ : Type} [Keyed ρ] {rows : Rows ρ} {p : ρ → Bool} (counted : rows.count p = 1) :
    ∃ row ∈ rows, p row = true := by
  have positive : 0 < rows.count p := by omega
  exact List.countP_pos_iff.mp positive

theorem RoutedSound.activateRelease {deploymentId : Uuid} (sound : RoutedSound tables)
    (live : Activatable tables profileId deploymentId input.projectId → ∀ version ∈ tables.agentProfileVersions,
      version.id = versionId → version.profileId = profileId → version.archivedAt = none)
    (activates : tables.activateProfileRuntimeRelease now profileId versionId deploymentId input = .ok (version, next)) :
    RoutedSound next := by
  obtain ⟨⟨storedVersion, stored⟩, stores, rest⟩ := bind_ok.mp activates
  obtain ⟨written, writes, rest⟩ := bind_ok.mp rest
  obtain ⟨counted, same⟩ := check_bind_ok.mp rest
  cases same
  rw [ensure_ok] at counted
  obtain ⟨releases, rfl⟩ := storeRelease_ok stores
  have inserted : [(versionId, (10000 : ℤ))].foldlM (ProfileTables.insertRollout now profileId)
      (({ tables with projectRuntimeReleases := releases } : ProfileTables).clearRollout profileId) = .ok written := by
    rw [List.foldlM_cons, writes]
    rfl
  obtain ⟨⟨rows, rfl, appended⟩, named⟩ := insertRollouts_ok inserted
  obtain ⟨profile, isProfile, isLive⟩ := exists_of_count counted.1
  obtain ⟨deployment, isDeployment, isPrimary⟩ := exists_of_count counted.2
  simp only [Bool.and_eq_true, beq_iff_eq, Option.isNone_iff_eq_none] at isLive isPrimary
  have activatable : Activatable tables profileId deploymentId input.projectId :=
    ⟨⟨profile, isProfile, isLive⟩, deployment, isDeployment, isPrimary.1.1, isPrimary.1.2, isPrimary.2⟩
  have whole : Allocated [(versionId, 10000)] versionId := ⟨by simp, rfl, by simp⟩
  have rewritten : RoutedSound (({ tables with agentProfileRollouts := rows } : ProfileTables).activate
      (fun row => row.id == profileId && row.archivedAt.isNone) versionId) := sound.rewrite whole (by
      intro other isOther
      simp only [Bool.and_eq_true, beq_iff_eq, Option.isNone_iff_eq_none, and_iff_left_iff_imp]
      intro same
      rw [profile_unique isOther isProfile (same.trans isLive.1.symm)]
      exact isLive.2) appended (by
      intro allocation mem
      obtain ⟨version, isVersion, sameVersion, isOf⟩ := hasVersion_iff.mp (named allocation mem)
      rw [List.mem_singleton] at mem
      rw [mem] at sameVersion ⊢
      exact ⟨version, isVersion, sameVersion, isOf, live activatable version isVersion sameVersion isOf⟩)
  exact rewritten.frame rfl rfl rfl

end

/-! ## Every interleaving -/

/-- What was asked before a write that is still to come. -/
inductive PendingWrite where
  | rollout (profileId : Uuid) (allocations : List (Uuid × ℤ)) (activeVersionId : Uuid)
  | archive (profileId versionId : Uuid)
  deriving DecidableEq

structure RolloutState where
  tables : ProfileTables
  pending : List PendingWrite

inductive RolloutAction where
  | createProfile (id projectId : Uuid) (slug name : String) (description : Option String)
  | createVersion (now : ℕ) (profileId versionId : Uuid) (drawn : ℕ → Uuid) (input : NewProfileVersion)
  | checkRollout (profileId : Uuid) (allocations : List (Uuid × ℤ))
  | checkArchive (profileId versionId : Uuid)
  | write (now index : ℕ)
  | activate (now : ℕ) (profileId versionId deploymentId : Uuid) (release : NewProjectRuntimeRelease)

/-- What a transaction leaves: its own tables, or the ones before when it fails. -/
def ProfileTables.commit {α : Type} (tables : ProfileTables) : Except ApiError (α × ProfileTables) → ProfileTables
  | .ok (_, next) => next
  | .error _ => tables

namespace RolloutState

def checked {α : Type} (state : RolloutState) (outcome : Except ApiError α) (write : α → PendingWrite) : RolloutState :=
  match outcome with
  | .ok result => { state with pending := state.pending ++ [write result] }
  | .error _ => state

def perform (now : ℕ) (tables : ProfileTables) : PendingWrite → ProfileTables
  | .rollout profileId allocations activeVersionId =>
    tables.commit ((tables.writeProfileRollout now profileId allocations activeVersionId).map fun next => ((), next))
  | .archive profileId versionId => tables.writeArchive now profileId versionId

def next (state : RolloutState) : RolloutAction → Option RolloutState
  | .createProfile id projectId slug name description =>
    some { state with tables := state.tables.commit (state.tables.createProfile id projectId slug name description) }
  | .createVersion now profileId versionId drawn input =>
    some { state with tables := state.tables.commit (state.tables.createProfileVersion now profileId versionId drawn input) }
  | .checkRollout profileId allocations =>
    some (state.checked (state.tables.checkProfileRollout profileId allocations) (.rollout profileId allocations))
  | .checkArchive profileId versionId =>
    some (state.checked (state.tables.checkArchive profileId versionId) fun _ => .archive profileId versionId)
  | .write now index =>
    (state.pending[index]?).map fun pending =>
      { tables := perform now state.tables pending, pending := state.pending.eraseIdx index }
  | .activate now profileId versionId deploymentId release =>
    some { state with
      tables := state.tables.commit
        (state.tables.activateProfileRuntimeRelease now profileId versionId deploymentId release) }

end RolloutState

def rolloutMachine : Machine RolloutState RolloutAction where
  start state := state.pending = [] ∧ state.tables.agentProfiles = .empty ∧ state.tables.agentProfileVersions = .empty ∧
    state.tables.agentProfileRollouts = .empty
  step := RolloutState.next

def PendingWrite.Holds (tables : ProfileTables) : PendingWrite → Prop
  | .rollout profileId allocations _ => ∀ allocation ∈ allocations, ∀ version ∈ tables.agentProfileVersions,
      version.id = allocation.1 → version.profileId = profileId → version.archivedAt = none
  | .archive profileId versionId => ∀ row ∈ tables.agentProfileRollouts, row.profileId = profileId →
      row.profileVersionId ≠ versionId

/-- A write finds what was asked before it, and no archived version is made live. -/
def KeepsLive (state : RolloutState) : RolloutAction → Prop
  | .write _ index => ∀ pending, state.pending[index]? = some pending → pending.Holds state.tables
  | .activate _ profileId versionId deploymentId release => Activatable state.tables profileId deploymentId release.projectId →
      ∀ version ∈ state.tables.agentProfileVersions, version.id = versionId → version.profileId = profileId →
        version.archivedAt = none
  | _ => True

def PendingWrite.Checked : PendingWrite → Prop
  | .rollout _ allocations activeVersionId => Allocated allocations activeVersionId
  | .archive _ _ => True

structure RolloutState.Sound (state : RolloutState) : Prop where
  routed : RoutedSound state.tables
  checked : ∀ pending ∈ state.pending, pending.Checked

theorem RoutedSound.commit {outcome : Except ApiError (α × ProfileTables)}
    (sound : RoutedSound tables) (kept : ∀ result next, outcome = .ok (result, next) → RoutedSound next) :
    RoutedSound (tables.commit outcome) := by
  cases succeeds : outcome with
  | error error => exact sound
  | ok result => exact kept result.1 result.2 succeeds

theorem RolloutState.Sound.afterCheck {state : RolloutState} {outcome : Except ApiError α} {write : α → PendingWrite}
    (sound : state.Sound) (passes : ∀ result, outcome = .ok result → (write result).Checked) :
    (state.checked outcome write).Sound := by
  rw [RolloutState.checked.eq_def]
  split
  next result =>
    refine ⟨sound.routed, ?_⟩
    intro pending mem
    cases List.mem_append.mp mem with
    | inl earlier => exact sound.checked pending earlier
    | inr isNew =>
      rw [List.mem_singleton.mp isNew]
      exact passes result rfl
  next => exact sound

theorem RoutedSound.perform {pending : PendingWrite} (sound : RoutedSound tables) (now : ℕ)
    (checked : pending.Checked) (holds : pending.Holds tables) : RoutedSound (RolloutState.perform now tables pending) := by
  cases pending with
  | rollout profileId allocations activeVersionId =>
    apply sound.commit
    intro result next succeeds
    obtain ⟨written, writes, same⟩ := map_ok.mp succeeds
    cases same
    exact sound.writeRollout checked holds writes
  | archive profileId versionId => exact sound.writeArchive holds

theorem RolloutState.Sound.next {state next : RolloutState} {action : RolloutAction} (sound : state.Sound)
    (keeps : KeepsLive state action) (stepped : state.next action = some next) : next.Sound := by
  cases action with
  | createProfile id projectId slug name description =>
    cases stepped
    exact ⟨sound.routed.commit fun _ _ => sound.routed.createProfile, sound.checked⟩
  | createVersion now profileId versionId drawn input =>
    cases stepped
    exact ⟨sound.routed.commit fun _ _ => sound.routed.createVersion, sound.checked⟩
  | checkRollout profileId allocations =>
    cases stepped
    exact sound.afterCheck fun _ => checkProfileRollout_ok
  | checkArchive profileId versionId =>
    cases stepped
    exact sound.afterCheck fun _ _ => trivial
  | write now index =>
    obtain ⟨pending, found, same⟩ := Option.map_eq_some_iff.mp stepped
    cases same
    refine ⟨sound.routed.perform now (sound.checked pending (List.mem_of_getElem? found)) (keeps pending found), ?_⟩
    intro other mem
    exact sound.checked other (List.mem_of_mem_eraseIdx mem)
  | activate now profileId versionId deploymentId release =>
    cases stepped
    exact ⟨sound.routed.commit fun _ _ => sound.routed.activateRelease keeps, sound.checked⟩

/-- In every run in which the writes find what was asked before them, the rollouts are complete and live. -/
theorem rollouts_stay_live (state : RolloutState) (reachable : rolloutMachine.Reachable KeepsLive state) :
    Routed state.tables := by
  have sound : state.Sound := by
    apply reachable.invariant
    · intro initial starts
      obtain ⟨idle, profiles, versions, rollouts⟩ := starts
      refine ⟨⟨⟨?_, ?_⟩, ?_⟩, ?_⟩
      all_goals simp [profiles, versions, rollouts, idle]
    · intro before action after sound keeps stepped
      exact sound.next keeps stepped
  exact sound.routed.toRouted

instance decidableHolds (tables : ProfileTables) : ∀ pending : PendingWrite, Decidable (pending.Holds tables)
  | .rollout _ _ _ => inferInstanceAs (Decidable (∀ allocation ∈ _, ∀ version ∈ tables.agentProfileVersions, _))
  | .archive _ _ => inferInstanceAs (Decidable (∀ row ∈ tables.agentProfileRollouts, _))

instance decidableActivatable (tables : ProfileTables) (profileId deploymentId projectId : Uuid) :
    Decidable (Activatable tables profileId deploymentId projectId) :=
  inferInstanceAs (Decidable ((∃ profile ∈ tables.agentProfiles, _) ∧ ∃ deployment ∈ tables.runtimeDeployments, _))

instance decidableKeepsLive (state : RolloutState) : ∀ action, Decidable (KeepsLive state action)
  | .write _ _ => inferInstanceAs (Decidable (∀ _, _ → _))
  | .activate _ _ _ _ _ => inferInstanceAs (Decidable (_ → ∀ version ∈ state.tables.agentProfileVersions, _))
  | .createProfile _ _ _ _ _ | .createVersion _ _ _ _ _ | .checkRollout _ _ | .checkArchive _ _ => .isTrue trivial

def townGuide : Uuid := ⟨"0190f2c4-7b1e-7c3a-9d52-1f6a0e8b4e06", by decide⟩
def townGuideFirst : Uuid := ⟨"0190f2c4-7b1e-7c3a-9d52-1f6a0e8b4e07", by decide⟩
def townGuideSecond : Uuid := ⟨"0190f2c4-7b1e-7c3a-9d52-1f6a0e8b4e08", by decide⟩
def townGuideProject : Uuid := ⟨"0190f2c4-7b1e-7c3a-9d52-1f6a0e8b4e09", by decide⟩

def townGuideVersion : NewProfileVersion :=
  ⟨.emptyObject, .emptyObject, .emptyObject, .emptyObject, []⟩

def townGuideStart : RolloutState := ⟨⟨.empty, .empty, .empty, .empty, .empty, .empty⟩, []⟩

theorem townGuideStart_starts : rolloutMachine.start townGuideStart := ⟨rfl, rfl, rfl, rfl⟩

def createGuide : List RolloutAction :=
  [.createProfile townGuide townGuideProject "guide" "Guide" none,
    .createVersion 1 townGuide townGuideFirst (fun _ => townGuide) townGuideVersion,
    .createVersion 2 townGuide townGuideSecond (fun _ => townGuide) townGuideVersion]

theorem rollouts_stay_live_town : ∃ state : RolloutState, Routed state.tables ∧ (state.tables.rolloutOf townGuide).length = 2 := by
  obtain ⟨state, reachable, checked⟩ := Machine.reachable_of_execute rolloutMachine KeepsLive townGuideStart_starts
    (createGuide ++ [.checkRollout townGuide [(townGuideFirst, 6000), (townGuideSecond, 4000)], .write 3 0])
    (fun state => (state.tables.rolloutOf townGuide).length == 2) (by decide +kernel)
  exact ⟨state, rollouts_stay_live state reachable, beq_iff_eq.mp checked⟩

/-- A version is archived between the check of a rollout that names it and its transaction. -/
theorem archived_version_in_rollout :
    ¬∀ state, rolloutMachine.Reachable Machine.always state → state.pending = [] → Routed state.tables := by
  intro routed
  obtain ⟨state, reachable, checked⟩ := Machine.reachable_of_execute rolloutMachine Machine.always townGuideStart_starts
    (createGuide ++ [.checkRollout townGuide [(townGuideSecond, 10000)], .checkArchive townGuide townGuideSecond,
      .write 3 1, .write 4 0])
    (fun state => state.pending.isEmpty &&
      state.tables.agentProfileRollouts.any (fun row => row.profileVersionId == townGuideSecond) &&
        !state.tables.agentProfileVersions.any fun row => row.id == townGuideSecond && row.archivedAt.isNone)
    (by decide +kernel)
  simp only [Bool.and_eq_true, Bool.not_eq_true'] at checked
  obtain ⟨⟨idle, named⟩, archived⟩ := checked
  obtain ⟨row, member, isSecond⟩ := Rows.any_eq_true.mp named
  obtain ⟨version, stored, isVersion, _, isLive⟩ := (routed state reachable (List.isEmpty_iff.mp idle)).live row member
  have dead := Rows.any_eq_false.mp archived version stored
  simp [isVersion, isSecond, isLive] at dead

end Vifu.Server
