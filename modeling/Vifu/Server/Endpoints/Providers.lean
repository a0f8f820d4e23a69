import Vifu.Server.Endpoints.Edits

/-!
# Versions and the providers they name

Calls that bring versions of profiles into use, and the one that takes a provider out of a project.  A version names
its providers by their keys; each query and each transaction of a call is a step of its own, and the steps of all
calls interleave.
-/

namespace Vifu.Server

open Foundation
open Vifu.Gateway
open Vifu.Runtime (Value FloatText trim)

inductive VersionTarget where
  | created (id : Uuid) (slug name : String) (description : Option String)
  | stored (id : Uuid)

inductive ProviderCall where
  /-- The profile of a new version is looked up. -/
  | finding (projectId profileId : Uuid) (version : NewProfileVersion)
  /-- Some of the providers of a new version are not checked yet. -/
  | checking (projectId : Uuid) (target : VersionTarget) (version : NewProfileVersion) (keys : List String)
  /-- A new profile has no version yet, and an old one lacks the new version. -/
  | creating (profileId : Uuid) (version : NewProfileVersion)
  | settingRollout (profileId : Uuid) (allocations : List (Uuid × ℤ))
  | writingRollout (profileId : Uuid) (allocations : List (Uuid × ℤ)) (activeVersionId : Uuid)
  | archiving (projectId profileId : Uuid)
  | restoring (projectId profileId : Uuid)
  | unassigning (projectId : Uuid) (providerKey : String)
  | deleting (projectId : Uuid) (providerKey : String)
  | finished (result : Except ApiError Unit)

def ProviderCall.isFinished : ProviderCall → Bool
  | .finished _ => true
  | _ => false

structure ProviderDraws where
  versionId : Uuid
  capabilityIds : ℕ → Uuid
  now : ℕ

/-- The keys that `validate_project_profile_providers` collects. -/
def NewProfileVersion.providerKeys (version : NewProfileVersion) : List String :=
  let source := (((version.source.get? "providerKey").bind Value.asStr).map trim).filter fun key => !key.isEmpty
  (version.capabilities.map ProfileCapabilityDraft.providerKey ++ source.toList).dedup

namespace AgentTables

variable (tables : AgentTables)

def projectProviderIsAssigned (projectId : Uuid) (providerKey : String) : Bool :=
  tables.providerConnections.any fun row => row.projectId == projectId && row.providerKey == providerKey

def getProjectProfile (projectId profileId : Uuid) : Except ApiError AgentProfile :=
  okOr .notFound (tables.agentProfiles.find? fun row => row.id == profileId && row.isLiveIn projectId)

/-- The question that `unassign_project_provider` asks: it looks at active versions. -/
def isReferenced (floats : FloatText) (projectId : Uuid) (providerKey : String) : Bool :=
  tables.usesProvider floats projectId providerKey

def deleteProvider (projectId : Uuid) (providerKey : String) : Except ApiError AgentTables := do
  ensure (tables.projectProviderIsAssigned projectId providerKey = true) .notFound
  return { tables with providerConnections := tables.providerConnections.delete fun row =>
    row.projectId == projectId && row.providerKey == providerKey }

def withProfiles {α : Type} (result : Except ApiError (α × ProfileTables)) : Except ApiError AgentTables :=
  result.map fun written => { tables with toProfileTables := written.2 }

def finish (result : Except ApiError AgentTables) : AgentTables × ProviderCall :=
  match result with
  | .ok next => (next, .finished (.ok ()))
  | .error error => (tables, .finished (.error error))

def proceed {α : Type} (result : Except ApiError α) (next : α → ProviderCall) : AgentTables × ProviderCall :=
  (tables, match result with
    | .ok value => next value
    | .error error => .finished (.error error))

def createTarget (projectId : Uuid) (version : NewProfileVersion) : VersionTarget → AgentTables × ProviderCall
  | .stored id => (tables, .creating id version)
  | .created id slug name description =>
    match tables.createProfile id projectId slug name description with
    | .ok (_, next) => ({ tables with toProfileTables := next }, .creating id version)
    | .error error => (tables, .finished (.error error))

/-- The next query or transaction of a call.  The keys of a version are checked in any order: `choice` is the place of
the next one. -/
def advance (floats : FloatText) (choice : ℕ) (draws : ProviderDraws) : ProviderCall → Option (AgentTables × ProviderCall)
  | .finding projectId profileId version =>
    some (tables.proceed (tables.getProjectProfile projectId profileId) fun _ =>
      .checking projectId (.stored profileId) version version.providerKeys)
  | .checking projectId target version [] => some (tables.createTarget projectId version target)
  | .checking projectId target version keys =>
    (keys[choice]?).map fun key => tables.proceed
      (ensure (tables.projectProviderIsAssigned projectId key = true)
        (.conflict ("provider " ++ key ++ " is not assigned to this project")))
      fun _ => .checking projectId target version (keys.eraseIdx choice)
  | .creating profileId version =>
    some (tables.finish (tables.withProfiles
      (tables.createProfileVersion draws.now profileId draws.versionId draws.capabilityIds version)))
  | .settingRollout profileId allocations =>
    some (tables.proceed (tables.checkProfileRollout profileId allocations) (.writingRollout profileId allocations))
  | .writingRollout profileId allocations activeVersionId =>
    some (tables.finish (tables.withProfiles
      ((tables.writeProfileRollout draws.now profileId allocations activeVersionId).map fun next => ((), next))))
  | .archiving projectId profileId => some (tables.finish (tables.archiveProjectProfile draws.now projectId profileId))
  | .restoring projectId profileId => some (tables.finish (tables.restoreProjectProfile projectId profileId))
  | .unassigning projectId providerKey =>
    some (tables.proceed (ensure (tables.isReferenced floats projectId providerKey = false)
      (.conflict "Remove or move the agents using this provider before disconnecting it from the project."))
      fun _ => .deleting projectId providerKey)
  | .deleting projectId providerKey => some (tables.finish (tables.deleteProvider projectId providerKey))
  | .finished _ => none

end AgentTables

/-! ## Runs -/

structure ProviderState where
  tables : AgentTables
  calls : List ProviderCall

namespace ProviderState

variable (state : ProviderState)

inductive Action where
  | createProfile (projectId id : Uuid) (slug name : String) (description : Option String) (version : NewProfileVersion)
  | createVersion (projectId profileId : Uuid) (version : NewProfileVersion)
  | setRollout (profileId : Uuid) (allocations : List (Uuid × ℤ))
  | archive (projectId profileId : Uuid)
  | restore (projectId profileId : Uuid)
  | unassign (projectId : Uuid) (providerKey : String)
  /-- A call takes its next step. -/
  | next (call choice : ℕ) (draws : ProviderDraws)
  /-- A query of a call fails. -/
  | fail (call : ℕ)

def begin (call : ProviderCall) : ProviderState := { state with calls := state.calls ++ [call] }

def step (floats : FloatText) : Action → Option ProviderState
  | .createProfile projectId id slug name description version =>
    some (state.begin (.checking projectId (.created id slug name description) version version.providerKeys))
  | .createVersion projectId profileId version => some (state.begin (.finding projectId profileId version))
  | .setRollout profileId allocations => some (state.begin (.settingRollout profileId allocations))
  | .archive projectId profileId => some (state.begin (.archiving projectId profileId))
  | .restore projectId profileId => some (state.begin (.restoring projectId profileId))
  | .unassign projectId providerKey => some (state.begin (.unassigning projectId providerKey))
  | .next index choice draws =>
    ((state.calls[index]?).bind (state.tables.advance floats choice draws)).map fun (tables, call) =>
      ⟨tables, state.calls.set index call⟩
  | .fail index => ((state.calls[index]?).filter fun call => !call.isFinished).map fun _ =>
      { state with calls := state.calls.set index (.finished (.error .database)) }

end ProviderState

end Vifu.Server
