import Vifu.Server.Database.Tables

/-!
# The tables of profiles and releases

The rows of the agent profiles with their versions, capabilities and rollouts, and of the releases of a
project, with the unique constraints of the schema.
-/

namespace Vifu.Server

open Foundation
open Vifu.Gateway
open Vifu.Runtime (Value)

structure AgentProfile where
  id : Uuid
  projectId : Option Uuid
  slug : String
  name : String
  description : Option String
  activeVersionId : Option Uuid
  archivedAt : Option ℕ
  deriving DecidableEq

/-- The primary key and `UNIQUE (project_id, slug)`, under which null projects differ. -/
instance : Keyed AgentProfile where
  Key := Uuid × Option Uuid × String
  key row := (row.id, row.projectId, row.slug)
  conflicts first second := first.1 == second.1 ||
    first.2.1.isSome && first.2.1 == second.2.1 && first.2.2 == second.2.2
  symmetric first second := by grind
  reflexive key := by simp

structure AgentProfileVersion where
  id : Uuid
  profileId : Uuid
  versionNumber : ℕ
  persona : Value
  runtime : Value
  presentation : Value
  source : Value
  archivedAt : Option ℕ
  deriving DecidableEq

instance : Keyed AgentProfileVersion where
  Key := Uuid × Uuid × ℕ
  key row := (row.id, row.profileId, row.versionNumber)
  conflicts first second := first.1 == second.1 || first.2.1 == second.2.1 && first.2.2 == second.2.2
  symmetric first second := by grind
  reflexive key := by simp

structure AgentProfileCapability where
  id : Uuid
  profileVersionId : Uuid
  kind : String
  providerType : String
  providerKey : String
  resourceId : Option String
  config : Value
  inputSchema : Value
  outputSchema : Value
  createdAt : ℕ
  deriving DecidableEq

instance : Keyed AgentProfileCapability := .primary fun row => row.id

structure AgentProfileRollout where
  profileId : Uuid
  profileVersionId : Uuid
  weightBps : ℤ
  createdAt : ℕ
  deriving DecidableEq

instance : Keyed AgentProfileRollout := .primary fun row => (row.profileId, row.profileVersionId)

/-- `manifest` is the JSON of the project settings. -/
structure ProjectRuntimeRelease where
  id : Uuid
  projectId : Uuid
  version : ℕ
  contentHash : String
  manifest : Value
  createdBy : Option String
  deriving DecidableEq

/-- The primary key, `UNIQUE (project_id, version)` and `UNIQUE (project_id, content_hash)`. -/
instance : Keyed ProjectRuntimeRelease where
  Key := Uuid × Uuid × ℕ × String
  key row := (row.id, row.projectId, row.version, row.contentHash)
  conflicts first second := first.1 == second.1 ||
    first.2.1 == second.2.1 && (first.2.2.1 == second.2.2.1 || first.2.2.2 == second.2.2.2)
  symmetric first second := by grind
  reflexive key := by simp

structure ReleasedDeployment extends RuntimeDeployment where
  activeReleaseVersion : Option ℕ
  deriving DecidableEq

instance : Keyed ReleasedDeployment where
  Key := Keyed.Key RuntimeDeployment
  key row := Keyed.key row.toRuntimeDeployment
  conflicts := Keyed.conflicts (ρ := RuntimeDeployment)
  symmetric := Keyed.symmetric (ρ := RuntimeDeployment)
  reflexive := Keyed.reflexive (ρ := RuntimeDeployment)

structure ProfileTables where
  agentProfiles : Rows AgentProfile
  agentProfileVersions : Rows AgentProfileVersion
  agentProfileCapabilities : Rows AgentProfileCapability
  agentProfileRollouts : Rows AgentProfileRollout
  projectRuntimeReleases : Rows ProjectRuntimeRelease
  runtimeDeployments : Rows ReleasedDeployment
  deriving DecidableEq

end Vifu.Server
