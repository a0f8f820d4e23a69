import Vifu.Server.Api.Access
import Vifu.Server.Database.Authorizations

/-!
# The project handlers

The handlers of the API that create and change projects and assign gateways to their deployments.  Each looks
the project up, asks whether the caller may write it, checks its texts and calls the database layer.
-/

namespace Vifu.Server

open Foundation
open Vifu.Gateway

structure CreateProject where
  slug : Option String
  name : String
  description : Option String

structure UpdateProject where
  slug : Option String
  name : Option String
  description : Option String
  gatewayId : Option String
  enabled : Option Bool
  bindingIds : Option (List Uuid)

/-- The patch that `update_project` reads from its request. -/
def UpdateProject.patch (input : UpdateProject) : Except ApiError ProjectPatch := do
  let slug ← checked validateExplicitSlug input.slug
  let name ← checked (fun value => requiredText "name" value 128) input.name
  let (descriptionChanged, description) ← patchText "description" input.description 4096
  let gatewayId ← checked (requiredIdentifier "agent gateway id") input.gatewayId
  return ⟨slug, name, descriptionChanged, description, gatewayId, input.enabled, input.bindingIds⟩

namespace Database

def getProjectBySlug (database : Database) (slug : String) : Except ApiError ProjectWithBindings :=
  (okOr .notFound (database.projects.find? fun row => row.slug == slug)).map fun project =>
    ⟨project, database.projectBindingIds project.id⟩

def getAgentGatewayAuthorization (database : Database) (gatewayId : String) : Except ApiError AgentGatewayAuthorization :=
  okOr .notFound (database.agentGatewayAuthorizations.find? fun row => row.gatewayId == gatewayId)

end Database

/-- What a handler draws and reads besides its request: fresh ids and the clock. -/
structure Draws where
  projectId : Uuid
  fresh : FreshProjectIds
  slugSuffix : String
  otherSuffix : String
  now : ℕ

namespace Api

def createProject (draws : Draws) (identity : Identity) (input : CreateProject) (database : Database) :
    Except ApiError (ProjectWithBindings × Database) := do
  requireOperation identity .projectWrite
  let ownerUserId := match identity with
    | .deploymentAdmin => none
    | .actingUser subject _ _ => some subject
  let name ← requiredText "name" input.name 128
  let slug ← projectSlug input.slug name draws.slugSuffix draws.otherSuffix
  let description ← optionalText "description" input.description 4096
  database.createProject draws.now draws.fresh
    { id := draws.projectId, ownerUserId, slug, name, description, gatewayId := "", bindingIds := [] }

/-- Nothing here asks who owns the gateway of the patch. -/
def updateProject (draws : Draws) (identity : Identity) (id : Uuid) (input : UpdateProject) (database : Database) :
    Except ApiError (ProjectWithBindings × Database) := do
  let current ← database.getProject id
  requireProjectOperation identity .projectWrite current.project.ownerUserId
  let patch ← input.patch
  database.updateProject draws.now id patch

def authorizedProjectBySlug (identity : Identity) (operation : Operation) (slug : String) (database : Database) :
    Except ApiError ProjectWithBindings := do
  let project ← database.getProjectBySlug slug
  requireProjectOperation identity operation project.project.ownerUserId
  return project

def authorizeGatewayOwner (identity : Identity) (gatewayId : String) (database : Database) : Except ApiError Unit := do
  let authorization ← database.getAgentGatewayAuthorization gatewayId
  ensure (authorization.status = .active) .forbidden
  match identity with
  | .deploymentAdmin => .ok ()
  | .actingUser subject _ _ => ensure (authorization.ownerUserId = some subject) .forbidden

/-- The deployment that both assignment handlers look up before they ask for the owner of the gateway. -/
def ownedDeployment (identity : Identity) (slug deployment gatewayId : String) (database : Database) :
    Except ApiError (Uuid × Uuid) := do
  let project ← authorizedProjectBySlug identity .projectWrite slug database
  let name ← validateExplicitSlug deployment
  let found ← database.getRuntimeDeployment project.project.id name
  authorizeGatewayOwner identity gatewayId database
  return (project.project.id, found.id)

def assignRuntimeDeploymentAgentGateway (draws : Draws) (identity : Identity) (slug deployment gatewayId : String)
    (database : Database) : Except ApiError (Unit × Database) := do
  let (projectId, deploymentId) ← ownedDeployment identity slug deployment gatewayId database
  database.assignRuntimeDeploymentGateway draws.now projectId deploymentId gatewayId

def unassignRuntimeDeploymentAgentGateway (identity : Identity) (slug deployment gatewayId : String)
    (database : Database) : Except ApiError (Unit × Database) := do
  let (projectId, deploymentId) ← ownedDeployment identity slug deployment gatewayId database
  database.unassignRuntimeDeploymentGateway projectId deploymentId gatewayId

def promoteProjectRuntimeDeployment (identity : Identity) (slug deployment : String) (database : Database) :
    Except ApiError (RuntimeDeployment × Database) := do
  let project ← authorizedProjectBySlug identity .projectWrite slug database
  let name ← validateExplicitSlug deployment
  database.promoteRuntimeDeployment project.project.id name

end Api

end Vifu.Server
