import Vifu.Server.Database.Distributions

/-!
# Projects and their deployments

The functions of the database layer that create and change projects, their deployments and the gateways
assigned to them.  A project names one gateway of its own, `gateway_id`, next to the assignments.
-/

namespace Vifu.Server

open Foundation
open Vifu.Gateway

structure NewProject where
  id : Uuid
  ownerUserId : Option String
  slug : String
  name : String
  description : Option String
  gatewayId : String
  bindingIds : List Uuid

/-- The ids that `create_project` draws. -/
structure FreshProjectIds where
  appId : String
  deploymentId : Uuid
  distributionId : Uuid

structure ProjectPatch where
  slug : Option String
  name : Option String
  descriptionChanged : Bool
  description : Option String
  gatewayId : Option String
  enabled : Option Bool
  bindingIds : Option (List Uuid)

structure ProjectWithBindings where
  project : Project
  bindingIds : List Uuid
  deriving DecidableEq

/-- The columns that `update_project` sets. -/
def ProjectPatch.apply (patch : ProjectPatch) (row : Project) : Project :=
  { row with
    slug := patch.slug.getD row.slug
    name := patch.name.getD row.name
    description := if patch.descriptionChanged then patch.description else row.description
    gatewayId := patch.gatewayId.getD row.gatewayId
    enabled := patch.enabled.getD row.enabled }

structure NewRuntimeDeployment where
  id : Uuid
  projectId : Uuid
  name : String
  isPrimary : Bool
  configSyncEnabled : Bool
  traceMode : TraceMode
  remoteInvocationEnabled : Bool

namespace Database

def validateProjectBindings (database : Database) (bindingIds : List Uuid) : Except ApiError Unit := do
  ensure (bindingIds.length ≤ 256) (.invalid "a project supports at most 256 bindings")
  ensure (bindingIds = [] ∨ database.agentBindings.count (fun row => bindingIds.contains row.id) = bindingIds.length)
    (.invalid "project bindings must exist")

/-- `INSERT INTO project_bindings` for one binding. -/
def insertProjectBinding (projectId : Uuid) (database : Database) (bindingId : Uuid) : Except ApiError Database := do
  let rows ← okOr .database (database.projectBindings.insert? ⟨projectId, bindingId⟩)
  ensure (database.agentBindings.any (fun row => row.id == bindingId) = true) .database
  return { database with projectBindings := rows }

def projectBindingIds (database : Database) (projectId : Uuid) : List Uuid :=
  (database.projectBindings.filter fun row => row.projectId == projectId).map ProjectBinding.bindingId

def getProject (database : Database) (id : Uuid) : Except ApiError ProjectWithBindings :=
  (okOr .notFound (database.projects.find? fun row => row.id == id)).map fun project =>
    ⟨project, database.projectBindingIds project.id⟩

def assignNamed (database : Database) (now : ℕ) (deploymentId : Uuid) (gatewayId : String) :
    Except ApiError (Rows RuntimeDeploymentGateway) :=
  if gatewayId = "" then .ok database.runtimeDeploymentGateways
  else okOr .database (database.runtimeDeploymentGateways.insert? ⟨deploymentId, gatewayId, now⟩)

def createProject (database : Database) (now : ℕ) (fresh : FreshProjectIds) (project : NewProject) :
    Except ApiError (ProjectWithBindings × Database) := do
  database.validateProjectBindings project.bindingIds
  let created : Project :=
    ⟨project.id, fresh.appId, project.ownerUserId, project.slug, project.name, project.description, project.gatewayId,
      true, now⟩
  let projects ← okOr alreadyExists (database.projects.insert? created)
  let deployments ← okOr .database (database.runtimeDeployments.insert?
    ⟨fresh.deploymentId, project.id, "development", true, true, .summary, false, now⟩)
  let distributions ← okOr .database (database.runtimeDistributions.insert?
    ⟨fresh.distributionId, project.id, fresh.deploymentId, "App registration", fresh.appId, .active, 1000, by decide, none⟩)
  let assignments ← database.assignNamed now fresh.deploymentId project.gatewayId
  let inserted := { database with
    projects, runtimeDeployments := deployments, runtimeDistributions := distributions
    runtimeDeploymentGateways := assignments }
  let bound ← project.bindingIds.foldlM (insertProjectBinding project.id) inserted
  return (⟨created, project.bindingIds⟩, bound)

def patchedBindings (current : ProjectWithBindings) (patch : ProjectPatch) : List Uuid :=
  match patch.bindingIds with
  | some bindingIds => bindingIds
  | none => if patch.gatewayId.isSome then current.bindingIds else []

def replaceBindings (database : Database) (id : Uuid) (current : ProjectWithBindings) :
    Option (List Uuid) → Except ApiError (List Uuid × Database)
  | some bindingIds => do
    let cleared := { database with projectBindings := database.projectBindings.delete fun row => row.projectId == id }
    let bound ← bindingIds.foldlM (insertProjectBinding id) cleared
    return (bindingIds, bound)
  | none => .ok (current.bindingIds, database)

def reassignPrimary (database : Database) (now : ℕ) (id : Uuid) (current : String) :
    Option String → Except ApiError Database
  | some gatewayId =>
    match database.runtimeDeployments.find? fun row => row.projectId == id && row.isPrimary with
    | some deployment => (database.dropAssignment deployment.id current).assignGateway now deployment.id gatewayId
    | none => .ok database
  | none => .ok database

def updateProject (database : Database) (now : ℕ) (id : Uuid) (patch : ProjectPatch) :
    Except ApiError (ProjectWithBindings × Database) := do
  let current ← database.getProject id
  database.validateProjectBindings (patchedBindings current patch)
  let projects ← okOr alreadyExists (database.projects.update? (fun row => row.id == id) patch.apply)
  let (bindingIds, bound) ← { database with projects }.replaceBindings id current patch.bindingIds
  let reassigned ← bound.reassignPrimary now id current.project.gatewayId patch.gatewayId
  return (⟨patch.apply current.project, bindingIds⟩, reassigned)

def createRuntimeDeployment (database : Database) (now : ℕ) (input : NewRuntimeDeployment) :
    Except ApiError (RuntimeDeployment × Database) := do
  let deployment : RuntimeDeployment :=
    ⟨input.id, input.projectId, input.name, input.isPrimary, input.configSyncEnabled, input.traceMode,
      input.remoteInvocationEnabled, now⟩
  let rows ← okOr alreadyExists (database.runtimeDeployments.insert? deployment)
  ensure (database.projects.any (fun row => row.id == input.projectId) = true) missingReference
  return (deployment, { database with runtimeDeployments := rows })

def getRuntimeDeployment (database : Database) (projectId : Uuid) (name : String) : Except ApiError RuntimeDeployment :=
  okOr .notFound (database.runtimeDeployments.find? fun row => row.projectId == projectId && row.name == name)

def promoteRuntimeDeployment (database : Database) (projectId : Uuid) (name : String) :
    Except ApiError (RuntimeDeployment × Database) := do
  let deployment ← database.getRuntimeDeployment projectId name
  let cleared ← okOr .database (database.runtimeDeployments.update? (fun row => row.projectId == projectId)
    fun row => { row with isPrimary := false })
  let promoted ← okOr .database (cleared.update? (fun row => row.id == deployment.id)
    fun row => { row with isPrimary := true })
  let switched := { database with runtimeDeployments := promoted }
  -- Without an assigned gateway the project keeps the one that it names.
  let named := match earliestGateway (switched.runtimeDeploymentGateways.filter fun row =>
      row.deploymentId == deployment.id) with
    | some gatewayId => switched.setProjectGateway projectId gatewayId
    | none => switched
  return ({ deployment with isPrimary := true }, named)

def dropDeployment (database : Database) (deploymentId : Uuid) : Database :=
  { database with
    runtimeDeployments := database.runtimeDeployments.delete fun row => row.id == deploymentId
    runtimeDeploymentGateways := database.runtimeDeploymentGateways.delete fun row => row.deploymentId == deploymentId
    runtimeDistributions := database.runtimeDistributions.delete fun row => row.deploymentId == deploymentId
    runtimeDistributionGateways := database.runtimeDistributionGateways.delete fun row =>
      database.runtimeDistributions.any fun distribution =>
        distribution.id == row.distributionId && distribution.deploymentId == deploymentId
    agentGatewayEnrollments := database.agentGatewayEnrollments.delete fun row => row.deploymentId == deploymentId }

def deleteRuntimeDeployment (database : Database) (projectId : Uuid) (name : String) : Except ApiError (Unit × Database) :=
  match database.runtimeDeployments.find? fun row => row.projectId == projectId && row.name == name && !row.isPrimary with
  | some deployment => .ok ((), database.dropDeployment deployment.id)
  | none => do
    let deployment ← database.getRuntimeDeployment projectId name
    ensure (deployment.isPrimary = false) (.conflict "the primary runtime deployment cannot be deleted")
    .error .notFound

def assignRuntimeDeploymentGateway (database : Database) (now : ℕ) (projectId deploymentId : Uuid) (gatewayId : String) :
    Except ApiError (Unit × Database) := do
  let isPrimary ← okOr .notFound (database.isPrimary? projectId deploymentId)
  let moved ← database.moveGateway now projectId deploymentId gatewayId
  return ((), moved.nameProjectGateway projectId gatewayId isPrimary)

def createRuntimeDeploymentEnrollment (database : Database) (now : ℕ) (id projectId : Uuid) (deployment ownerUserId : String)
    (tokenHash : Hash) (expiresAt : ℕ) : Except ApiError (Unit × Database) := do
  let found ← database.getRuntimeDeployment projectId deployment
  let created ← database.createAgentGatewayEnrollment now id projectId found.id ownerUserId tokenHash expiresAt
  return ((), created)

end Database

end Vifu.Server
