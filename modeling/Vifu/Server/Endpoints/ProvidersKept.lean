import Vifu.Server.Endpoints.Archived
import Vifu.Server.Endpoints.Providers

/-!
# Versions in use have their providers

The provider of a version is checked when the version is created, and on removal the active versions are looked at.  A
version of a rollout has its providers in every run whose steps look at the rollout: a version comes into use with its
providers, and no provider is removed that one in use names.
-/

namespace Vifu.Server

open Foundation
open Vifu.Gateway
open Vifu.Runtime (Value FloatText)

namespace AgentTables

variable (tables : AgentTables)

def Provided (profile : AgentProfile) (versionId : Uuid) : Prop :=
  ∀ projectId ∈ profile.projectId, ∀ capability ∈ tables.agentProfileCapabilities,
    capability.profileVersionId = versionId →
      tables.projectProviderIsAssigned projectId capability.providerKey = true

def RolloutProvided (profile : AgentProfile) : Prop :=
  ∀ row ∈ tables.agentProfileRollouts, row.profileId = profile.id → tables.Provided profile row.profileVersionId

def InUseProvided : Prop :=
  ∀ profile ∈ tables.agentProfiles, profile.archivedAt = none → tables.RolloutProvided profile

/-- The foreign keys to versions and profiles. -/
structure References : Prop where
  rollouts : ∀ row ∈ tables.agentProfileRollouts, ∃ version ∈ tables.agentProfileVersions, version.id = row.profileVersionId
  profiles : ∀ row ∈ tables.agentProfileRollouts, ∃ profile ∈ tables.agentProfiles, profile.id = row.profileId
  capabilities : ∀ capability ∈ tables.agentProfileCapabilities,
    ∃ version ∈ tables.agentProfileVersions, version.id = capability.profileVersionId
  versions : ∀ version ∈ tables.agentProfileVersions, ∃ profile ∈ tables.agentProfiles, profile.id = version.profileId

/-- A step brings only versions into use that have their providers, and removes no provider that is in use. -/
def StepProvided : ProviderCall → Prop
  | .creating profileId version =>
    ∀ profile ∈ tables.agentProfiles, profile.id = profileId → profile.archivedAt = none →
      profile.activeVersionId = none → ∀ projectId ∈ profile.projectId, ∀ draft ∈ version.capabilities,
        tables.projectProviderIsAssigned projectId draft.providerKey = true
  | .writingRollout profileId allocations _ =>
    ∀ profile ∈ tables.agentProfiles, profile.id = profileId → profile.archivedAt = none →
      ∀ allocation ∈ allocations, tables.Provided profile allocation.1
  | .restoring projectId profileId =>
    ∀ profile ∈ tables.agentProfiles, profile.id = profileId → profile.projectId = some projectId →
      tables.RolloutProvided profile
  | .deleting projectId providerKey =>
    ∀ profile ∈ tables.agentProfiles, profile.archivedAt = none → profile.projectId = some projectId →
      ∀ row ∈ tables.agentProfileRollouts, row.profileId = profile.id → ∀ capability ∈ tables.agentProfileCapabilities,
        capability.profileVersionId = row.profileVersionId → capability.providerKey ≠ providerKey
  | .finding _ _ _ | .checking _ _ _ _ | .settingRollout _ _ | .archiving _ _ | .unassigning _ _ | .finished _ => True

end AgentTables

def ProviderState.KeepsProvided (state : ProviderState) : ProviderState.Action → Prop
  | .next index _ _ => ∀ call ∈ state.calls[index]?, state.tables.StepProvided call
  | _ => True

def providerMachine (floats : FloatText) : Machine ProviderState ProviderState.Action where
  start state := state.tables.InUseProvided ∧ state.tables.References ∧ state.calls = []
  step state := state.step floats

/-! ## What the transactions write -/

section

variable {tables next : AgentTables} {before after : ProfileTables} {now : ℕ} {profileId versionId : Uuid}
  {named : AgentProfile → Bool} {profile other : AgentProfile} {input : NewProfileVersion} {floats : FloatText}
  {drawn : ℕ → Uuid} {profile : AgentProfile}

theorem mem_insertCapabilities {places : List (ProfileCapabilityDraft × ℕ)}
    (inserted : places.foldlM (ProfileTables.insertCapability now versionId drawn) before = .ok after)
    {capability : AgentProfileCapability} (mem : capability ∈ after.agentProfileCapabilities) :
    capability ∈ before.agentProfileCapabilities ∨
      capability.profileVersionId = versionId ∧ ∃ place ∈ places, capability.providerKey = place.1.providerKey := by
  induction places generalizing before with
  | nil =>
    cases inserted
    exact .inl mem
  | cons place places ih =>
    rw [List.foldlM_cons, bind_ok] at inserted
    obtain ⟨first, inserts, rest⟩ := inserted
    obtain ⟨rows, isRows, checks⟩ := bind_ok.mp inserts
    obtain ⟨_, same⟩ := check_bind_ok.mp checks
    cases same
    cases ih rest with
    | inl earlier =>
      cases (Rows.mem_insert? (okOr_ok.mp isRows)).mp earlier with
      | inl old => exact .inl old
      | inr isNew =>
        subst isNew
        exact .inr ⟨rfl, place, List.mem_cons_self, rfl⟩
    | inr later =>
      obtain ⟨isVersion, other, isPlace, sameKey⟩ := later
      exact .inr ⟨isVersion, other, List.mem_cons_of_mem _ isPlace, sameKey⟩

/-- What the creation of a version leaves: the rest of the profiles as it was, a new version with its capabilities, and
the new version in the rollout of a profile that had no version. -/
structure CreatesVersion (before after : ProfileTables) (profileId versionId : Uuid) (input : NewProfileVersion) : Prop where
  profiles : ∀ profile ∈ after.agentProfiles, ∃ earlier ∈ before.agentProfiles, earlier.id = profile.id ∧
    earlier.projectId = profile.projectId ∧ earlier.archivedAt = profile.archivedAt
  present : ∀ profile ∈ before.agentProfiles, ∃ later ∈ after.agentProfiles, later.id = profile.id
  versions : ∀ version ∈ before.agentProfileVersions, version ∈ after.agentProfileVersions ∧ version.id ≠ versionId
  stored : ∃ version ∈ after.agentProfileVersions, version.id = versionId
  owned : ∃ profile ∈ before.agentProfiles, profile.id = profileId
  owners : ∀ version ∈ after.agentProfileVersions, version ∈ before.agentProfileVersions ∨ version.profileId = profileId
  capabilities : ∀ capability ∈ after.agentProfileCapabilities, capability ∈ before.agentProfileCapabilities ∨
    capability.profileVersionId = versionId ∧ ∃ draft ∈ input.capabilities, capability.providerKey = draft.providerKey
  rollouts : ∀ row ∈ after.agentProfileRollouts, row ∈ before.agentProfileRollouts ∨
    row.profileId = profileId ∧ row.profileVersionId = versionId ∧
      ∃ profile ∈ before.agentProfiles, profile.id = profileId ∧ profile.activeVersionId = none

theorem mem_activated
    (mem : profile ∈ (before.activate named versionId).agentProfiles) : ∃ earlier ∈ before.agentProfiles,
      earlier.id = profile.id ∧ earlier.projectId = profile.projectId ∧ earlier.archivedAt = profile.archivedAt := by
  obtain ⟨earlier, stored, rfl⟩ := mem_activate.mp mem
  refine ⟨earlier, stored, ?_⟩
  rw [Rows.updated]
  split
  · exact ⟨rfl, rfl, rfl⟩
  · exact ⟨rfl, rfl, rfl⟩

theorem activated_mem (mem : profile ∈ before.agentProfiles) :
    ∃ later ∈ (before.activate named versionId).agentProfiles, later.id = profile.id := by
  refine ⟨_, mem_activate.mpr ⟨profile, mem, rfl⟩, ?_⟩
  rw [Rows.updated]
  split
  · rfl
  · rfl

theorem createsVersion {created : AgentProfileVersion}
    (creates : before.createProfileVersion now profileId versionId drawn input = .ok (created, after)) :
    CreatesVersion before after profileId versionId input := by
  obtain ⟨profile, found, rest⟩ := bind_ok.mp creates
  obtain ⟨versions, inserts, rest⟩ := bind_ok.mp rest
  obtain ⟨filled, fills, rest⟩ := bind_ok.mp rest
  obtain ⟨activated, activates, same⟩ := bind_ok.mp rest
  cases same
  obtain ⟨isProfile, named⟩ := Rows.mem_of_find? (okOr_ok.mp found)
  rw [beq_iff_eq] at named
  rw [okOr_ok] at inserts
  have capabilities : ∀ capability ∈ filled.agentProfileCapabilities, capability ∈ before.agentProfileCapabilities ∨
      capability.profileVersionId = versionId ∧ ∃ draft ∈ input.capabilities, capability.providerKey = draft.providerKey := by
    intro capability mem
    cases mem_insertCapabilities fills mem with
    | inl old => exact .inl old
    | inr isNew =>
      obtain ⟨isVersion, place, isPlace, sameKey⟩ := isNew
      exact .inr ⟨isVersion, place.1, List.fst_mem_of_mem_zipIdx isPlace, sameKey⟩
  obtain ⟨rows, rfl⟩ := insertCapabilities_ok fills
  have versionsKept : ∀ version ∈ before.agentProfileVersions, version ∈ versions ∧ version.id ≠ versionId := by
    intro version mem
    have free := Rows.insert?_isSome.mp (by rw [inserts]; rfl) version mem
    refine ⟨(Rows.mem_insert? inserts).mpr (.inl mem), ?_⟩
    intro same
    simp [clash, Keyed.conflicts, Keyed.key, same] at free
  have stored : ∃ version ∈ versions, version.id = versionId := ⟨_, (Rows.mem_insert? inserts).mpr (.inr rfl), rfl⟩
  have owners : ∀ version ∈ versions, version ∈ before.agentProfileVersions ∨ version.profileId = profileId := by
    intro version mem
    cases (Rows.mem_insert? inserts).mp mem with
    | inl old => exact .inl old
    | inr isNew =>
      subst isNew
      exact .inr rfl
  have owned : ∃ profile ∈ before.agentProfiles, profile.id = profileId := ⟨profile, isProfile, named⟩
  rw [ProfileTables.activateFirst] at activates
  split at activates
  next unset =>
    obtain ⟨rollouts, isRollouts, checks⟩ := bind_ok.mp activates
    obtain ⟨_, same⟩ := check_bind_ok.mp checks
    cases same
    refine ⟨fun _ => mem_activated, fun _ => activated_mem, versionsKept, stored, owned, owners, capabilities, ?_⟩
    intro row mem
    cases (Rows.mem_insert? (okOr_ok.mp isRollouts)).mp mem with
    | inl old => exact .inl old
    | inr isNew =>
      subst isNew
      exact .inr ⟨named, rfl, profile, isProfile, named, unset⟩
  next =>
    cases activates
    exact ⟨fun profile mem => ⟨profile, mem, rfl, rfl, rfl⟩, fun profile mem => ⟨profile, mem, rfl⟩,
      versionsKept, stored, owned, owners, capabilities, fun _ => .inl⟩

/-! ## The invariant -/

structure AgentTables.Supplied (tables : AgentTables) : Prop where
  inUse : tables.InUseProvided
  references : tables.References

theorem AgentTables.Provided.later {versionId : Uuid}
    (provided : tables.Provided profile versionId) (sameProject : profile.projectId = other.projectId)
    (connections : next.providerConnections = tables.providerConnections)
    (capabilities : ∀ capability ∈ next.agentProfileCapabilities, capability.profileVersionId = versionId →
      capability ∈ tables.agentProfileCapabilities) : next.Provided other versionId := by
  intro projectId isProject capability mem isVersion
  rw [projectProviderIsAssigned, connections]
  exact provided projectId (sameProject ▸ isProject) capability (capabilities capability mem isVersion) isVersion

theorem AgentTables.Supplied.createVersion (supplied : tables.Supplied)
    (provided : tables.StepProvided (.creating profileId input))
    (creates : CreatesVersion tables.toProfileTables after profileId versionId input) :
    Supplied { tables with toProfileTables := after } := by
  have old {id : Uuid} (isOld : ∃ version ∈ tables.agentProfileVersions, version.id = id) : id ≠ versionId := by
    obtain ⟨version, mem, rfl⟩ := isOld
    exact (creates.versions version mem).2
  refine ⟨?_, ?_, ?_, ?_, ?_⟩
  · intro profile mem live row rowMember ofProfile
    obtain ⟨earlier, isEarlier, sameId, sameProject, sameArchived⟩ := creates.profiles profile mem
    cases creates.rollouts row rowMember with
    | inl isOld =>
      have before := supplied.inUse earlier isEarlier (sameArchived.trans live) row isOld (ofProfile.trans sameId.symm)
      refine before.later sameProject rfl ?_
      intro capability capabilityMember isVersion
      cases creates.capabilities capability capabilityMember with
      | inl isOldCapability => exact isOldCapability
      | inr isNew => exact absurd (isVersion.symm.trans isNew.1) (old (supplied.references.rollouts row isOld))
    | inr isNew =>
      obtain ⟨isProfile, isVersion, unset, isUnset, sameProfile, noVersion⟩ := isNew
      intro projectId isProject capability capabilityMember ofVersion
      cases creates.capabilities capability capabilityMember with
      | inl isOldCapability =>
        exact absurd (ofVersion.trans isVersion) (old (supplied.references.capabilities capability isOldCapability))
      | inr isNewCapability =>
        obtain ⟨-, draft, isDraft, sameKey⟩ := isNewCapability
        have same : unset = earlier :=
          profile_unique isUnset isEarlier (sameProfile.trans (isProfile.symm.trans (ofProfile.trans sameId.symm)))
        subst same
        rw [sameKey]
        exact provided unset isUnset sameProfile (sameArchived.trans live) noVersion projectId (sameProject ▸ isProject)
          draft isDraft
  · intro row mem
    cases creates.rollouts row mem with
    | inl isOld =>
      obtain ⟨version, stored, isVersion⟩ := supplied.references.rollouts row isOld
      exact ⟨version, (creates.versions version stored).1, isVersion⟩
    | inr isNew =>
      rw [isNew.2.1]
      exact creates.stored
  · intro row mem
    cases creates.rollouts row mem with
    | inl isOld =>
      obtain ⟨profile, stored, isProfile⟩ := supplied.references.profiles row isOld
      obtain ⟨later, isLater, same⟩ := creates.present profile stored
      exact ⟨later, isLater, same.trans isProfile⟩
    | inr isNew =>
      obtain ⟨isProfile, -, unset, isUnset, same, -⟩ := isNew
      obtain ⟨later, isLater, sameLater⟩ := creates.present unset isUnset
      exact ⟨later, isLater, sameLater.trans (same.trans isProfile.symm)⟩
  · intro capability mem
    cases creates.capabilities capability mem with
    | inl isOld =>
      obtain ⟨version, stored, isVersion⟩ := supplied.references.capabilities capability isOld
      exact ⟨version, (creates.versions version stored).1, isVersion⟩
    | inr isNew =>
      rw [isNew.1]
      exact creates.stored
  · intro version mem
    have isPresent : ∃ profile ∈ tables.agentProfiles, profile.id = version.profileId := by
      cases creates.owners version mem with
      | inl isOld => exact supplied.references.versions version isOld
      | inr isNew =>
        rw [isNew]
        exact creates.owned
    obtain ⟨profile, stored, isProfile⟩ := isPresent
    obtain ⟨later, isLater, same⟩ := creates.present profile stored
    exact ⟨later, isLater, same.trans isProfile⟩

theorem AgentTables.Supplied.writeRollout (supplied : tables.Supplied) {allocations : List (Uuid × ℤ)}
    (provided : tables.StepProvided (.writingRollout profileId allocations versionId))
    (writes : tables.writeProfileRollout now profileId allocations versionId = .ok after) :
    Supplied { tables with toProfileTables := after } := by
  obtain ⟨written, inserts, rest⟩ := bind_ok.mp writes
  obtain ⟨_, same⟩ := check_bind_ok.mp rest
  cases same
  obtain ⟨⟨rows, rfl, appended⟩, named⟩ := insertRollouts_ok inserts
  have isRow {row : AgentProfileRollout} (mem : row ∈ rows) :
      row ∈ tables.agentProfileRollouts ∨ row.profileId = profileId ∧ ∃ allocation ∈ allocations,
        row.profileVersionId = allocation.1 := by
    rw [← Rows.mem_rows, appended, List.mem_append] at mem
    cases mem with
    | inl cleared => exact .inl (Rows.mem_delete.mp cleared).1
    | inr isNew =>
      obtain ⟨allocation, isAllocation, rfl⟩ := List.mem_map.mp isNew
      exact .inr ⟨rfl, allocation, isAllocation, rfl⟩
  have isStillThere {id : Uuid} (isPresent : ∃ profile ∈ tables.agentProfiles, profile.id = id) :
      ∃ profile ∈ (({ tables.toProfileTables with agentProfileRollouts := rows } : ProfileTables).activate
        (fun row => row.id == profileId) versionId).agentProfiles, profile.id = id := by
    obtain ⟨profile, stored, isProfile⟩ := isPresent
    have isStored : profile ∈ ({ tables.toProfileTables with agentProfileRollouts := rows } : ProfileTables).agentProfiles :=
      stored
    obtain ⟨later, isLater, same⟩ := activated_mem isStored
    exact ⟨later, isLater, same.trans isProfile⟩
  refine ⟨?_, ?_, ?_, supplied.references.capabilities, ?_⟩
  · intro profile mem live row rowMember ofProfile
    obtain ⟨earlier, isEarlier, sameId, sameProject, sameArchived⟩ := mem_activated mem
    have unarchived : earlier.archivedAt = none := sameArchived.trans live
    have isProvided : tables.Provided earlier row.profileVersionId := by
      cases isRow rowMember with
      | inl isOld => exact supplied.inUse earlier isEarlier unarchived row isOld (ofProfile.trans sameId.symm)
      | inr isNew =>
        obtain ⟨isProfile, allocation, isAllocation, isVersion⟩ := isNew
        rw [isVersion]
        exact provided earlier isEarlier (sameId.trans (ofProfile.symm.trans isProfile)) unarchived allocation isAllocation
    exact isProvided.later sameProject rfl fun _ isCapability _ => isCapability
  · intro row mem
    cases isRow mem with
    | inl isOld => exact supplied.references.rollouts row isOld
    | inr isNew =>
      obtain ⟨-, allocation, isAllocation, isVersion⟩ := isNew
      obtain ⟨version, stored, sameId, -⟩ := hasVersion_iff.mp (named allocation isAllocation)
      exact ⟨version, stored, sameId.trans isVersion.symm⟩
  · intro row mem
    apply isStillThere
    cases isRow mem with
    | inl isOld => exact supplied.references.profiles row isOld
    | inr isNew =>
      obtain ⟨isProfile, allocation, isAllocation, -⟩ := isNew
      obtain ⟨version, stored, -, isOf⟩ := hasVersion_iff.mp (named allocation isAllocation)
      obtain ⟨profile, isStored, same⟩ := supplied.references.versions version stored
      exact ⟨profile, isStored, same.trans (isOf.trans isProfile.symm)⟩
  · intro version mem
    exact isStillThere (supplied.references.versions version mem)

theorem AgentTables.RolloutProvided.of_same (provided : tables.RolloutProvided profile)
    (sameId : profile.id = other.id) (sameProject : profile.projectId = other.projectId) :
    tables.RolloutProvided other := by
  intro row mem ofProfile
  exact (provided row mem (ofProfile.trans sameId.symm)).later sameProject rfl fun _ isCapability _ => isCapability

section

variable (supplied : tables.Supplied) {projectId : Uuid}
include supplied

theorem AgentTables.Supplied.frame (versions : next.agentProfileVersions = tables.agentProfileVersions)
    (capabilities : next.agentProfileCapabilities = tables.agentProfileCapabilities)
    (rollouts : next.agentProfileRollouts = tables.agentProfileRollouts)
    (connections : next.providerConnections = tables.providerConnections)
    (provided : ∀ profile ∈ next.agentProfiles, profile.archivedAt = none → tables.RolloutProvided profile)
    (present : ∀ profile ∈ tables.agentProfiles, ∃ later ∈ next.agentProfiles, later.id = profile.id) : next.Supplied := by
  have stillThere {id : Uuid} (isPresent : ∃ profile ∈ tables.agentProfiles, profile.id = id) :
      ∃ profile ∈ next.agentProfiles, profile.id = id := by
    obtain ⟨profile, stored, rfl⟩ := isPresent
    exact present profile stored
  refine ⟨?_, ?_, ?_, ?_, ?_⟩
  · intro profile mem live row rowMember ofProfile
    rw [rollouts] at rowMember
    refine (provided profile mem live row rowMember ofProfile).later rfl connections ?_
    intro capability isCapability _
    rw [← capabilities]
    exact isCapability
  · rw [rollouts, versions]
    exact supplied.references.rollouts
  · rw [rollouts]
    exact fun row mem => stillThere (supplied.references.profiles row mem)
  · rw [capabilities, versions]
    exact supplied.references.capabilities
  · rw [versions]
    exact fun version mem => stillThere (supplied.references.versions version mem)

theorem AgentTables.Supplied.update {change : AgentProfile → AgentProfile}
    (profiles : next.agentProfiles.rows = tables.agentProfiles.rows.map (Rows.updated named change))
    (keeps : ∀ row, Keyed.key (change row) = Keyed.key row)
    (provided : ∀ profile ∈ tables.agentProfiles, (Rows.updated named change profile).archivedAt = none →
      tables.RolloutProvided profile) (versions : next.agentProfileVersions = tables.agentProfileVersions)
    (capabilities : next.agentProfileCapabilities = tables.agentProfileCapabilities)
    (rollouts : next.agentProfileRollouts = tables.agentProfileRollouts)
    (connections : next.providerConnections = tables.providerConnections) : next.Supplied := by
  have sameKey (profile : AgentProfile) : (Rows.updated named change profile).id = profile.id ∧
      (Rows.updated named change profile).projectId = profile.projectId := by
    have same := Rows.key_updated (p := named) keeps profile
    exact ⟨congrArg Prod.fst same, congrArg (fun key : Uuid × Option Uuid × String => key.2.1) same⟩
  apply supplied.frame versions capabilities rollouts connections
  · intro profile mem live
    rw [← Rows.mem_rows, profiles] at mem
    obtain ⟨earlier, stored, rfl⟩ := List.mem_map.mp mem
    exact (provided earlier stored live).of_same (sameKey earlier).1.symm (sameKey earlier).2.symm
  · intro profile mem
    refine ⟨Rows.updated named change profile, ?_, (sameKey profile).1⟩
    rw [← Rows.mem_rows, profiles]
    exact List.mem_map_of_mem mem

theorem AgentTables.Supplied.archive
    (archives : tables.archiveProjectProfile now projectId profileId = .ok next) : next.Supplied := by
  simp only [archiveProjectProfile, bind_ok, pure_ok] at archives
  obtain ⟨_, _, rfl⟩ := archives
  refine supplied.update rfl (fun _ => rfl) ?_ rfl rfl rfl rfl
  intro profile mem live
  apply supplied.inUse profile mem
  rw [Rows.updated] at live
  split at live
  · simp at live
  · exact live

theorem AgentTables.Supplied.restore (provided : tables.StepProvided (.restoring projectId profileId))
    (restores : tables.restoreProjectProfile projectId profileId = .ok next) : next.Supplied := by
  simp only [restoreProjectProfile, bind_ok, pure_ok] at restores
  obtain ⟨_, _, rfl⟩ := restores
  refine supplied.update rfl (fun _ => rfl) ?_ rfl rfl rfl rfl
  intro profile mem live
  rw [Rows.updated] at live
  split at live
  next named =>
    simp only [Bool.and_eq_true, beq_iff_eq] at named
    exact provided profile mem named.1.1 named.1.2
  · exact supplied.inUse profile mem live

theorem AgentTables.Supplied.createProfile {id projectId : Uuid} {slug name : String}
    {description : Option String} {created : AgentProfile}
    (creates : tables.createProfile id projectId slug name description = .ok (created, after)) :
    Supplied { tables with toProfileTables := after } := by
  obtain ⟨rows, inserts, same⟩ := bind_ok.mp creates
  cases same
  rw [okOr_ok] at inserts
  refine supplied.frame rfl rfl rfl rfl ?_ ?_
  · intro profile mem live
    cases (Rows.mem_insert? inserts).mp mem with
    | inl earlier => exact supplied.inUse profile earlier live
    | inr isNew =>
      subst isNew
      intro row rowMember ofProfile
      obtain ⟨owner, stored, isOwner⟩ := supplied.references.profiles row rowMember
      have free := Rows.insert?_isSome.mp (by rw [inserts]; rfl) owner stored
      simp [clash, Keyed.conflicts, Keyed.key, isOwner.trans ofProfile] at free
  · intro profile mem
    exact ⟨profile, (Rows.mem_insert? inserts).mpr (.inl mem), rfl⟩

theorem AgentTables.Supplied.delete {providerKey : String}
    (provided : tables.StepProvided (.deleting projectId providerKey))
    (deletes : tables.deleteProvider projectId providerKey = .ok next) : next.Supplied := by
  simp only [deleteProvider, bind_ok, pure_ok] at deletes
  obtain ⟨_, _, rfl⟩ := deletes
  refine ⟨?_, supplied.references.rollouts, supplied.references.profiles, supplied.references.capabilities,
    supplied.references.versions⟩
  intro profile mem live row rowMember ofProfile other isProject capability isCapability isVersion
  have assigned := supplied.inUse profile mem live row rowMember ofProfile other isProject capability isCapability
    isVersion
  obtain ⟨connection, stored, passes⟩ := Rows.any_eq_true.mp assigned
  refine Rows.any_eq_true.mpr ⟨connection, Rows.mem_delete.mpr ⟨stored, ?_⟩, passes⟩
  simp only [Bool.and_eq_true, beq_iff_eq] at passes
  by_cases sameProject : other = projectId
  · subst sameProject
    have differs := provided profile mem live isProject row rowMember ofProfile capability isCapability isVersion
    simp [passes, differs]
  · simp [passes, sameProject]

end

/-! ## Steps -/

theorem AgentTables.Supplied.finish (supplied : tables.Supplied) {result : Except ApiError AgentTables}
    (succeeds : ∀ next, result = .ok next → next.Supplied) : (tables.finish result).1.Supplied := by
  cases result with
  | error => exact supplied
  | ok next => exact succeeds next rfl

theorem AgentTables.Supplied.withProfiles (supplied : tables.Supplied) {α : Type}
    {result : Except ApiError (α × ProfileTables)}
    (succeeds : ∀ value after, result = .ok (value, after) → Supplied { tables with toProfileTables := after }) :
    (tables.finish (tables.withProfiles result)).1.Supplied := by
  apply supplied.finish
  intro next written
  obtain ⟨⟨value, after⟩, isResult, rfl⟩ := map_ok.mp written
  exact succeeds value after isResult

theorem AgentTables.Supplied.advance {choice : ℕ} {draws : ProviderDraws} {call : ProviderCall}
    {result : AgentTables × ProviderCall} (supplied : tables.Supplied) (provided : tables.StepProvided call)
    (advances : tables.advance floats choice draws call = some result) : result.1.Supplied := by
  cases call with
  | finding | settingRollout | unassigning =>
    cases advances
    exact supplied
  | checking projectId target version keys =>
    cases keys with
    | nil =>
      cases advances
      cases target with
      | stored id => exact supplied
      | created id slug name description =>
        simp only [createTarget]
        split
        next profile after creates => exact supplied.createProfile creates
        next => exact supplied
    | cons key keys =>
      obtain ⟨chosen, _, rfl⟩ := Option.map_eq_some_iff.mp advances
      exact supplied
  | creating profileId version =>
    cases advances
    exact supplied.withProfiles fun created after creates => supplied.createVersion provided (createsVersion creates)
  | writingRollout profileId allocations activeVersionId =>
    cases advances
    apply supplied.withProfiles
    intro _ after written
    obtain ⟨rollout, writes, same⟩ := map_ok.mp written
    cases same
    exact supplied.writeRollout provided writes
  | archiving projectId profileId =>
    cases advances
    exact supplied.finish fun next archives => supplied.archive archives
  | restoring projectId profileId =>
    cases advances
    exact supplied.finish fun next restores => supplied.restore provided restores
  | deleting projectId providerKey =>
    cases advances
    exact supplied.finish fun next deletes => supplied.delete provided deletes
  | finished => cases advances

theorem ProviderState.step_supplied {state after : ProviderState} {action : ProviderState.Action}
    (supplied : state.tables.Supplied) (keeps : state.KeepsProvided action)
    (steps : state.step floats action = some after) : after.tables.Supplied := by
  cases action with
  | createProfile | createVersion | setRollout | archive | restore | unassign =>
    cases steps
    exact supplied
  | next index choice draws =>
    obtain ⟨result, advances, rfl⟩ := Option.map_eq_some_iff.mp steps
    obtain ⟨call, stored, advances⟩ := Option.bind_eq_some_iff.mp advances
    exact supplied.advance (keeps call stored) advances
  | fail index =>
    obtain ⟨_, _, rfl⟩ := Option.map_eq_some_iff.mp steps
    exact supplied

end

/-- In every run whose steps look at the rollout, the versions in use have their providers when no call is in
progress. -/
theorem versions_keep_providers {floats : FloatText} {state : ProviderState}
    (reachable : (providerMachine floats).Reachable ProviderState.KeepsProvided state) :
    (∀ call ∈ state.calls, call.isFinished = true) → state.tables.InUseProvided := by
  have supplied : state.tables.Supplied := by
    apply reachable.invariant
    · rintro state ⟨inUse, references, -⟩
      exact ⟨inUse, references⟩
    · intro state action next supplied keeps steps
      exact ProviderState.step_supplied supplied keeps steps
  exact fun _ => supplied.inUse

/-! ## A provider that is removed in time, and one that the second version of a rollout needs -/

instance (tables : AgentTables) (profile : AgentProfile) (versionId : Uuid) : Decidable (tables.Provided profile versionId) :=
  inferInstanceAs (Decidable (∀ projectId ∈ profile.projectId, ∀ capability ∈ tables.agentProfileCapabilities, _ → _ = true))

instance (tables : AgentTables) (profile : AgentProfile) : Decidable (tables.RolloutProvided profile) :=
  inferInstanceAs (Decidable (∀ row ∈ tables.agentProfileRollouts, _ = _ → tables.Provided profile _))

instance (tables : AgentTables) : Decidable tables.InUseProvided :=
  inferInstanceAs (Decidable (∀ profile ∈ tables.agentProfiles, _ = _ → tables.RolloutProvided profile))

instance (tables : AgentTables) (call : ProviderCall) : Decidable (tables.StepProvided call) := by
  cases call <;> unfold AgentTables.StepProvided <;> infer_instance

instance (state : ProviderState) (action : ProviderState.Action) : Decidable (state.KeepsProvided action) := by
  cases action <;> unfold ProviderState.KeepsProvided <;> infer_instance

def innFirst : Uuid := ⟨"0190f2c4-7b1e-7c3a-9d52-1f6a0e8b4e33", by decide⟩

def innSecond : Uuid := ⟨"0190f2c4-7b1e-7c3a-9d52-1f6a0e8b4e34", by decide⟩

def innProviders : AgentTables where
  agentProfiles := .empty
  agentProfileVersions := .empty
  agentProfileCapabilities := .empty
  agentProfileRollouts := .empty
  projectRuntimeReleases := .empty
  runtimeDeployments := .empty
  projects := .singleton ⟨innProject, "app", none, "inn", "Inn", none, "gateway-1", true, 0⟩
  agentBindings := .empty
  projectBindings := .empty
  agentEndpoints := .empty
  providerConnections :=
    ⟨[⟨innFirst, innProject, "alpha", .object [], .registry, "alpha"⟩,
      ⟨innSecond, innProject, "beta", .object [], .registry, "beta"⟩], by decide⟩

def innState : ProviderState := ⟨innProviders, []⟩

theorem innState_starts (floats : FloatText) : (providerMachine floats).start innState := by
  refine ⟨?_, ⟨?_, ?_, ?_, ?_⟩, rfl⟩
  all_goals
    intro row mem
    exact absurd mem Rows.notMem_empty

def chatVersion (providerKey : String) : NewProfileVersion :=
  ⟨.object [], .object [], .object [], .object [],
    [⟨"chat", "custom", providerKey, none, .object [], .object [], .object []⟩]⟩

def drawing (id : Uuid) : ProviderDraws := ⟨id, fun _ => id, 0⟩

def innVersions : List ProviderState.Action :=
  List.flatten [
    [.createProfile innProject innKeeper "inn-keeper" "Inn keeper" none (chatVersion "alpha")],
    List.replicate 3 (.next 0 0 (drawing innFirst)),
    [.createVersion innProject innKeeper (chatVersion "beta")],
    List.replicate 4 (.next 1 0 (drawing innSecond))]

/-- The first version alone is in use when the second provider is removed. -/
theorem versions_keep_providers_inn :
    ∃ state, (providerMachine fun _ => "0.5").Reachable ProviderState.KeepsProvided state ∧
      state.tables.InUseProvided ∧ (state.tables.rolloutOf innKeeper).length = 1 ∧
        state.tables.projectProviderIsAssigned innProject "beta" = false := by
  obtain ⟨state, reachable, passes⟩ := (providerMachine fun _ => "0.5").reachable_of_execute
    ProviderState.KeepsProvided (innState_starts _)
    (List.flatten [innVersions, [.unassign innProject "beta"], List.replicate 2 (.next 2 0 (drawing innSecond))])
    (fun state => decide ((∀ call ∈ state.calls, call.isFinished = true) ∧ (state.tables.rolloutOf innKeeper).length = 1 ∧
      state.tables.projectProviderIsAssigned innProject "beta" = false)) (by decide +kernel)
  obtain ⟨idle, facts⟩ := of_decide_eq_true passes
  exact ⟨state, reachable, versions_keep_providers reachable idle, facts⟩

/-- Of the two versions of a rollout only the active one is looked at when a provider is removed. -/
theorem rollout_loses_provider :
    ¬∀ (floats : FloatText) (state : ProviderState), (providerMachine floats).Reachable Machine.always state →
      (∀ call ∈ state.calls, call.isFinished = true) → state.tables.InUseProvided := by
  intro promised
  obtain ⟨state, reachable, passes⟩ := (providerMachine fun _ => "0.5").reachable_of_execute Machine.always
    (innState_starts _)
    (List.flatten [innVersions, [.setRollout innKeeper [(innFirst, 4000), (innSecond, 6000)]],
      List.replicate 2 (.next 2 0 (drawing innFirst)), [.unassign innProject "alpha"],
      List.replicate 2 (.next 3 0 (drawing innFirst))])
    (fun state => decide ((∀ call ∈ state.calls, call.isFinished = true) ∧ ¬state.tables.InUseProvided))
    (by decide +kernel)
  obtain ⟨idle, dangling⟩ := of_decide_eq_true passes
  exact dangling (promised _ state reachable idle)

end Vifu.Server
