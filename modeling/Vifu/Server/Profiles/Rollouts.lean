import Mathlib.Algebra.Ring.Int.Defs
import Vifu.Foundation.Machine
import Vifu.Server.Profiles.Tables

/-!
# Rollouts of profile versions

The functions of the database layer that write the rollout of a profile or archive its versions.  Two of them ask
their questions before the statement or the transaction that writes: these are two functions here.
-/

namespace Vifu.Server

open Foundation
open Vifu.Gateway
open Vifu.Runtime (Value)

/-- The largest `i32`. -/
def i32Max : ℤ := 2147483647

structure ProfileCapabilityDraft where
  kind : String
  providerType : String
  providerKey : String
  resourceId : Option String
  config : Value
  inputSchema : Value
  outputSchema : Value
  deriving DecidableEq

structure NewProfileVersion where
  persona : Value
  runtime : Value
  presentation : Value
  source : Value
  capabilities : List ProfileCapabilityDraft

structure NewProjectRuntimeRelease where
  id : Uuid
  projectId : Uuid
  version : ℕ
  contentHash : String
  manifest : Value
  createdBy : Option String

def NewProjectRuntimeRelease.row (release : NewProjectRuntimeRelease) : ProjectRuntimeRelease :=
  ⟨release.id, release.projectId, release.version, release.contentHash, release.manifest, release.createdBy⟩

/-- `CHECK (kind IN (…))`. -/
def isCapabilityKind (kind : String) : Bool :=
  ["chat", "embedding", "speech", "transcription", "realtime", "tool"].contains kind

/-- The weights of a rollout: distinct versions with positive weights, added as `i32`. -/
def rolloutTotal (seen : List Uuid) (total : ℤ) : List (Uuid × ℤ) → Except ApiError ℤ
  | [] => .ok total
  | (versionId, weight) :: allocations => do
    ensure (0 < weight ∧ versionId ∉ seen)
      (.invalid "rollout versions must be unique and have a positive weight")
    ensure (total + weight ≤ i32Max) (.invalid "rollout weights are invalid")
    rolloutTotal (versionId :: seen) (total + weight) allocations

def heavier (found : Option (Uuid × ℤ)) (allocation : Uuid × ℤ) : Option (Uuid × ℤ) :=
  match found with
  | none => some allocation
  | some best => if best.2 ≤ allocation.2 then some allocation else some best

/-- `max_by_key` of the weights, which returns the last of several. -/
def heaviest (allocations : List (Uuid × ℤ)) : Option Uuid := (allocations.foldl heavier none).map Prod.fst

/-- A version whose source is an OpenClaw agent that is not declared unmanaged. -/
def AgentProfileVersion.sourceManaged (version : AgentProfileVersion) : Bool :=
  (version.source.get? "type").bind Value.asStr == some "openclaw" &&
    ((version.source.get? "managed").bind Value.asBool).getD true

namespace ProfileTables

/-- A foreign key to `agent_profile_versions(id, profile_id)`. -/
def hasVersion (tables : ProfileTables) (profileId versionId : Uuid) : Bool :=
  tables.agentProfileVersions.any fun row => row.id == versionId && row.profileId == profileId

def rolloutOf (tables : ProfileTables) (profileId : Uuid) : List AgentProfileRollout :=
  tables.agentProfileRollouts.filter fun row => row.profileId == profileId

/-- Inserts a row of a rollout, whose weight is checked between 1 and 10000. -/
def insertRollout (now : ℕ) (profileId : Uuid) (tables : ProfileTables) (allocation : Uuid × ℤ) :
    Except ApiError ProfileTables := do
  let rows ← okOr .database (tables.agentProfileRollouts.insert? ⟨profileId, allocation.1, allocation.2, now⟩)
  ensure (1 ≤ allocation.2 ∧ allocation.2 ≤ 10000 ∧ tables.hasVersion profileId allocation.1 = true) .database
  return { tables with agentProfileRollouts := rows }

def clearRollout (tables : ProfileTables) (profileId : Uuid) : ProfileTables :=
  { tables with
    agentProfileRollouts := tables.agentProfileRollouts.delete fun row => row.profileId == profileId }

/-- `UPDATE agent_profiles SET active_version_id = …` of the rows that `named` takes. -/
def activate (tables : ProfileTables) (named : AgentProfile → Bool) (versionId : Uuid) : ProfileTables :=
  { tables with
    agentProfiles := tables.agentProfiles.update named (fun row => { row with activeVersionId := some versionId })
      fun _ => rfl }

def createProfile (tables : ProfileTables) (id projectId : Uuid) (slug name : String) (description : Option String) :
    Except ApiError (AgentProfile × ProfileTables) := do
  let created : AgentProfile := ⟨id, some projectId, slug, name, description, none, none⟩
  let rows ← okOr alreadyExists (tables.agentProfiles.insert? created)
  return (created, { tables with agentProfiles := rows })

/-- `COALESCE(MAX(version_number), 0) + 1`. -/
def nextVersionNumber (tables : ProfileTables) (profileId : Uuid) : ℕ :=
  ((tables.agentProfileVersions.filter fun row => row.profileId == profileId).map AgentProfileVersion.versionNumber).foldr
    max 0 + 1

/-- `drawn` are the ids of the capabilities, by their places. -/
def insertCapability (now : ℕ) (versionId : Uuid) (drawn : ℕ → Uuid) (tables : ProfileTables)
    (place : ProfileCapabilityDraft × ℕ) : Except ApiError ProfileTables := do
  let draft := place.1
  let rows ← okOr alreadyExists (tables.agentProfileCapabilities.insert?
    ⟨drawn place.2, versionId, draft.kind, draft.providerType, draft.providerKey, draft.resourceId, draft.config,
      draft.inputSchema, draft.outputSchema, now⟩)
  ensure (isCapabilityKind draft.kind = true) .database
  return { tables with agentProfileCapabilities := rows }

/-- The first version of a profile becomes the active one, with the whole rollout. -/
def activateFirst (now : ℕ) (profile : AgentProfile) (versionId : Uuid) (tables : ProfileTables) :
    Except ApiError ProfileTables :=
  if profile.activeVersionId = none then
    (tables.activate (fun row => row.id == profile.id) versionId).insertRollout now profile.id (versionId, 10000)
  else .ok tables

def createProfileVersion (tables : ProfileTables) (now : ℕ) (profileId versionId : Uuid) (drawn : ℕ → Uuid)
    (input : NewProfileVersion) : Except ApiError (AgentProfileVersion × ProfileTables) := do
  let profile ← okOr .notFound (tables.agentProfiles.find? fun row => row.id == profileId)
  let version : AgentProfileVersion :=
    ⟨versionId, profileId, tables.nextVersionNumber profileId, input.persona, input.runtime, input.presentation,
      input.source, none⟩
  let versions ← okOr alreadyExists (tables.agentProfileVersions.insert? version)
  let filled ← input.capabilities.zipIdx.foldlM (insertCapability now versionId drawn)
    { tables with agentProfileVersions := versions }
  let activated ← activateFirst now profile versionId filled
  return (version, activated)

/-- What `set_profile_rollout` asks before its transaction; the version that it will make active. -/
def checkProfileRollout (tables : ProfileTables) (profileId : Uuid) (allocations : List (Uuid × ℤ)) :
    Except ApiError Uuid := do
  ensure (allocations ≠ [] ∧ allocations.length ≤ 10) (.invalid "a rollout requires between 1 and 10 versions")
  let total ← rolloutTotal [] 0 allocations
  ensure (total = 10000) (.invalid "rollout weights must total 10000 basis points")
  let versions := tables.agentProfileVersions.filter fun row =>
    row.profileId == profileId && (allocations.map Prod.fst).contains row.id && row.archivedAt.isNone
  ensure (versions.length = allocations.length) (.invalid "rollout versions must be active versions of this profile")
  ensure (versions.any AgentProfileVersion.sourceManaged = true → allocations.length = 1)
    (.conflict "source-managed OpenClaw profiles support one active version at a time")
  okOr .database (heaviest allocations)

/-- The transaction of `set_profile_rollout`. -/
def writeProfileRollout (tables : ProfileTables) (now : ℕ) (profileId : Uuid) (allocations : List (Uuid × ℤ))
    (activeVersionId : Uuid) : Except ApiError ProfileTables := do
  let written ← allocations.foldlM (insertRollout now profileId) (tables.clearRollout profileId)
  ensure ((∃ row ∈ written.agentProfiles, row.id = profileId) → written.hasVersion profileId activeVersionId = true) .database
  return written.activate (fun row => row.id == profileId) activeVersionId

/-- What `archive_profile_version` asks before its statement. -/
def checkArchive (tables : ProfileTables) (profileId versionId : Uuid) : Except ApiError Unit :=
  ensure ((tables.agentProfileRollouts.any fun row => row.profileId == profileId && row.profileVersionId == versionId) = false)
    (.conflict "an active rollout version cannot be archived")

/-- The statement of `archive_profile_version`. -/
def writeArchive (tables : ProfileTables) (now : ℕ) (profileId versionId : Uuid) : ProfileTables :=
  { tables with
    agentProfileVersions := tables.agentProfileVersions.update (fun row => row.id == versionId && row.profileId == profileId)
      (fun row => { row with archivedAt := row.archivedAt <|> some now }) fun _ => rfl }

/-- `ON CONFLICT(project_id, content_hash) DO NOTHING`, and the version that is stored for the content. -/
def storeRelease (tables : ProfileTables) (release : NewProjectRuntimeRelease) : Except ApiError (ℕ × ProfileTables) :=
  match tables.projectRuntimeReleases.find? fun row =>
      row.projectId == release.projectId && row.contentHash == release.contentHash with
  | some stored => .ok (stored.version, tables)
  | none =>
    (okOr alreadyExists (tables.projectRuntimeReleases.insert? release.row)).map fun rows =>
      (release.version, { tables with projectRuntimeReleases := rows })

/-- `UPDATE runtime_deployments SET active_release_version = …` of the rows that `named` takes. -/
def release (tables : ProfileTables) (named : ReleasedDeployment → Bool) (version : ℕ) : ProfileTables :=
  { tables with
    runtimeDeployments := tables.runtimeDeployments.update named (fun row => { row with activeReleaseVersion := some version })
      fun _ => rfl }

/-- One transaction.  Nothing here asks whether the version is archived. -/
def activateProfileRuntimeRelease (tables : ProfileTables) (now : ℕ) (profileId versionId deploymentId : Uuid)
    (input : NewProjectRuntimeRelease) : Except ApiError (ℕ × ProfileTables) := do
  let (version, stored) ← tables.storeRelease input
  let written ← (stored.clearRollout profileId).insertRollout now profileId (versionId, 10000)
  let isLive (row : AgentProfile) := row.id == profileId && row.archivedAt.isNone
  let isPrimary (row : ReleasedDeployment) := row.id == deploymentId && row.projectId == input.projectId && row.isPrimary
  let released := (written.activate isLive versionId).release isPrimary version
  ensure (written.agentProfiles.count isLive = 1 ∧ written.runtimeDeployments.count isPrimary = 1)
    (.conflict "profile and primary deployment could not be activated together")
  return (version, released)

end ProfileTables

end Vifu.Server
