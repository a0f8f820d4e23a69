import Vifu.Server.Database.Enrollments

/-!
# Runtime distributions

A distribution lets machines register themselves for a deployment, up to a limit.  The SQLite and Postgres
functions are the same but for the registration of a machine, which is written out for both.
-/

namespace Vifu.Server

open Foundation
open Vifu.Gateway

structure NewRuntimeDistribution where
  id : Uuid
  projectId : Uuid
  deploymentId : Uuid
  name : String
  publicId : String
  maxGateways : ℤ

structure RuntimeDistributionGatewayAssignment where
  gatewayId : String
  ownerUserId : Option String
  deriving DecidableEq

/-- `status = 'revoked'`, `revoked_at = COALESCE(revoked_at, now)`. -/
def RuntimeDistribution.revoke (now : ℕ) (row : RuntimeDistribution) : RuntimeDistribution :=
  { row with status := .revoked, revokedAt := row.revokedAt <|> some now }

namespace Database

def createRuntimeDistribution (database : Database) (input : NewRuntimeDistribution) :
    Except ApiError (RuntimeDistribution × Database) :=
  if positive : 0 < input.maxGateways then do
    let distribution : RuntimeDistribution :=
      ⟨input.id, input.projectId, input.deploymentId, input.name, input.publicId, .active, input.maxGateways, positive, none⟩
    let rows ← okOr alreadyExists (database.runtimeDistributions.insert? distribution)
    ensure ((database.projects.any fun row => row.id == input.projectId) = true ∧
      database.hasDeployment input.deploymentId = true) missingReference
    return (distribution, { database with runtimeDistributions := rows })
  else .error .database

def revokeRuntimeDistribution (database : Database) (now : ℕ) (projectId distributionId : Uuid) :
    Except ApiError (RuntimeDistribution × Database) :=
  let named (row : RuntimeDistribution) := row.id == distributionId && row.projectId == projectId
  (okOr .notFound (database.runtimeDistributions.find? named)).map fun row =>
    (row.revoke now, { database with
      runtimeDistributions := database.runtimeDistributions.update named (RuntimeDistribution.revoke now) fun _ => rfl })

def unassignRuntimeDeploymentGateway (database : Database) (projectId deploymentId : Uuid) (gatewayId : String) :
    Except ApiError (Unit × Database) :=
  if database.deploymentOf projectId deploymentId = true ∧ database.assigned deploymentId gatewayId = true then
    .ok ((), database.dropAssignment deploymentId gatewayId)
  else .error .notFound

def activeDistribution (database : Database) (publicId : String) : Option (RuntimeDistribution × Project) := do
  let distribution ← database.runtimeDistributions.find? fun row => row.publicId == publicId && row.status == .active
  let project ← database.projects.find? fun row => row.id == distribution.projectId
  return (distribution, project)

def registrationOf (database : Database) (distributionId : Uuid) (machineId : String) :
    Option RuntimeDistributionGateway :=
  database.runtimeDistributionGateways.find? fun row => row.distributionId == distributionId && row.machineId == machineId

/-- `SELECT COUNT(*)` of the machines registered for a distribution. -/
def registered (database : Database) (distributionId : Uuid) : ℕ :=
  database.runtimeDistributionGateways.count fun row => row.distributionId == distributionId

def deviceLimitReached : ApiError := .conflict "runtime distribution device limit reached"

/-- `INSERT … SELECT … WHERE count < max ON CONFLICT(distribution_id, machine_id) DO NOTHING`: the conflict target
is looked at before the other unique constraint. -/
def registerMachine (database : Database) (distribution : RuntimeDistribution) (machineId gatewayId : String) :
    Except ApiError Database :=
  if (database.registered distribution.id : ℤ) < distribution.maxGateways ∧
      (database.registrationOf distribution.id machineId).isNone then
    (okOr alreadyExists (database.runtimeDistributionGateways.insert? ⟨distribution.id, machineId, gatewayId⟩)).map
      fun rows => { database with runtimeDistributionGateways := rows }
  else .ok database

namespace Sqlite

def authorizeRuntimeDistributionGateway (database : Database) (now : ℕ) (publicId machineId suggestedGatewayId : String) :
    Except ApiError (RuntimeDistributionGatewayAssignment × Database) := do
  let (distribution, project) ← okOr .unauthorized (database.activeDistribution publicId)
  let registered ← database.registerMachine distribution machineId suggestedGatewayId
  let registration ← okOr deviceLimitReached (registered.registrationOf distribution.id machineId)
  -- The assignment is made for a machine that was known as well.
  let assigned ← registered.assignGateway now distribution.deploymentId registration.gatewayId
  return (⟨registration.gatewayId, project.ownerUserId⟩, assigned)

end Sqlite

namespace Postgres

def authorizeRuntimeDistributionGateway (database : Database) (now : ℕ) (publicId machineId suggestedGatewayId : String) :
    Except ApiError (RuntimeDistributionGatewayAssignment × Database) := do
  let (distribution, project) ← okOr .unauthorized (database.activeDistribution publicId)
  match database.registrationOf distribution.id machineId with
  -- A known machine returns before the assignment.
  | some registration => return (⟨registration.gatewayId, project.ownerUserId⟩, database)
  | none =>
    ensure ((database.registered distribution.id : ℤ) < distribution.maxGateways) deviceLimitReached
    let rows ← okOr alreadyExists
      (database.runtimeDistributionGateways.insert? ⟨distribution.id, machineId, suggestedGatewayId⟩)
    let assigned ← { database with runtimeDistributionGateways := rows }.assignGateway now distribution.deploymentId
      suggestedGatewayId
    return (⟨suggestedGatewayId, project.ownerUserId⟩, assigned)

end Postgres

end Database

end Vifu.Server
