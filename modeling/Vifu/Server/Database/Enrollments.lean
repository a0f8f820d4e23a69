import Vifu.Server.Database.Tables

/-!
# Enrollments and credentials

The functions of the database layer that create, consume and revoke enrollment tokens.  Each is one
transaction: an error leaves the database as it was.  `now` is the clock of the statements, `checked` is
`Utc::now()` when the row is checked after it was read.
-/

namespace Vifu.Server

open Foundation
open Vifu.Gateway

inductive AgentGatewayRegistration where
  | registered
  | existing
  deriving DecidableEq

/-- The rows that the claiming `UPDATE` takes. -/
def AgentGatewayEnrollment.claimable (now : ℕ) (tokenHash : Hash) (row : AgentGatewayEnrollment) : Bool :=
  row.tokenHash == tokenHash && row.consumedAt.isNone && row.revokedAt.isNone && decide (now < row.expiresAt)

/-- The rows that a machine enrollment accepts: unclaimed ones, and the gateway's own until it expires. -/
def AgentGatewayEnrollment.accepts (now checked : ℕ) (tokenHash : Hash) (gatewayId : String)
    (row : AgentGatewayEnrollment) : Prop :=
  row.claimable now tokenHash = true ∨
    row.tokenHash = tokenHash ∧ row.gatewayId = some gatewayId ∧ row.consumedAt ≠ none ∧ row.revokedAt = none ∧
      checked < row.expiresAt

/-- The columns that the claiming `UPDATE` sets. -/
def AgentGatewayEnrollment.claim (now : ℕ) (gatewayId : String) (row : AgentGatewayEnrollment) : AgentGatewayEnrollment :=
  { row with gatewayId := some gatewayId, consumedAt := some now }

/-- The columns that a new credential of the gateway sets. -/
def AgentGatewayCredential.replace (credentialPrefix : String) (credentialHash : Hash) (row : AgentGatewayCredential) :
    AgentGatewayCredential :=
  { row with credentialPrefix, credentialHash, revokedAt := none, lastUsedAt := none }

/-- `revoked_at = COALESCE(revoked_at, now)`. -/
def AgentGatewayCredential.revoke (now : ℕ) (row : AgentGatewayCredential) : AgentGatewayCredential :=
  { row with revokedAt := row.revokedAt <|> some now }

namespace Database

/-- Claims an unconsumed enrollment, else reads the stored one, which makes the call a retry. -/
def presentEnrollment (database : Database) (now : ℕ) (tokenHash : Hash) (gatewayId : String) :
    Except ApiError (AgentGatewayEnrollment × Bool × Database) :=
  match database.agentGatewayEnrollments.find? (AgentGatewayEnrollment.claimable now tokenHash) with
  | some enrollment =>
    .ok (enrollment.claim now gatewayId, false,
      { database with
        agentGatewayEnrollments := database.agentGatewayEnrollments.update
          (AgentGatewayEnrollment.claimable now tokenHash) (AgentGatewayEnrollment.claim now gatewayId) fun _ => rfl })
  | none =>
    (okOr .unauthorized (database.agentGatewayEnrollments.find? fun row => row.tokenHash == tokenHash)).map
      fun enrollment => (enrollment, true, database)

/-- Takes the gateway out of the project's other deployments and assigns it to this one. -/
def moveGateway (database : Database) (now : ℕ) (projectId deploymentId : Uuid) (gatewayId : String) :
    Except ApiError Database :=
  (database.leaveOthers projectId deploymentId gatewayId).assignGateway now deploymentId gatewayId

def nameProjectGateway (database : Database) (projectId : Uuid) (gatewayId : String) (isPrimary : Bool) : Database :=
  if isPrimary then database.setProjectGateway projectId gatewayId
  else database.setProjectGateway projectId (database.primaryGateway projectId)

def registerEnrolled (database : Database) (ownerUserId gatewayId credentialPrefix : String) (credentialHash : Hash) :
    Except ApiError (AgentGatewayRegistration × Database) :=
  match database.agentGatewayCredentials.find? fun row => row.gatewayId == gatewayId with
  | none =>
    (okOr alreadyExists (database.agentGatewayCredentials.insert?
      ⟨gatewayId, some ownerUserId, credentialPrefix, credentialHash, none, none⟩)).map
        fun rows => (.registered, { database with agentGatewayCredentials := rows })
  | some existing =>
    if existing.ownerUserId ≠ some ownerUserId then .error (.conflict "agent gateway id is already registered")
    else if existing.revokedAt = none ∧ existing.credentialHash = credentialHash then .ok (.existing, database)
    else
      (okOr .database (database.agentGatewayCredentials.update? (fun row => row.gatewayId == gatewayId)
        (AgentGatewayCredential.replace credentialPrefix credentialHash))).map
          fun rows => (.registered, { database with agentGatewayCredentials := rows })

/-- Assigns an enrolled gateway; `Forbidden` when the deployment is not one of the project. -/
def assignEnrolled (database : Database) (now : ℕ) (projectId deploymentId : Uuid) (gatewayId : String) :
    Except ApiError Database := do
  let moved ← database.moveGateway now projectId deploymentId gatewayId
  let isPrimary ← okOr .forbidden (moved.isPrimary? projectId deploymentId)
  return moved.nameProjectGateway projectId gatewayId isPrimary

def consumeAgentGatewayEnrollment (database : Database) (now checked : ℕ) (tokenHash : Hash)
    (gatewayId credentialPrefix : String) (credentialHash : Hash) :
    Except ApiError (AgentGatewayRegistration × Database) := do
  let (enrollment, isIdempotentRetry, claimed) ← database.presentEnrollment now tokenHash gatewayId
  ensure (enrollment.revokedAt = none ∧ checked < enrollment.expiresAt) .unauthorized
  ensure (isIdempotentRetry = true → enrollment.consumedAt ≠ none ∧ enrollment.gatewayId = some gatewayId) .unauthorized
  let (registration, registered) ←
    claimed.registerEnrolled enrollment.ownerUserId gatewayId credentialPrefix credentialHash
  let assigned ← registered.assignEnrolled now enrollment.projectId enrollment.deploymentId gatewayId
  return (if isIdempotentRetry then .existing else registration, assigned)

structure AgentGatewayEnrollmentAssignment where
  enrollmentId : Uuid
  projectId : Uuid
  deploymentId : Uuid
  ownerUserId : String
  deriving DecidableEq

def consumeAgentGatewayMachineEnrollment (database : Database) (now checked : ℕ) (tokenHash : Hash)
    (gatewayId : String) : Except ApiError (AgentGatewayEnrollmentAssignment × Database) := do
  let (enrollment, isRetry, claimed) ← database.presentEnrollment now tokenHash gatewayId
  ensure (isRetry = true → enrollment.gatewayId = some gatewayId ∧ enrollment.consumedAt ≠ none ∧
    enrollment.revokedAt = none ∧ checked < enrollment.expiresAt) .unauthorized
  let moved ← claimed.moveGateway now enrollment.projectId enrollment.deploymentId gatewayId
  -- Only a primary deployment names its gateway here; the gateway that left one is not looked for.
  let named :=
    if moved.isPrimary? enrollment.projectId enrollment.deploymentId = some true then
      moved.setProjectGateway enrollment.projectId gatewayId
    else moved
  return (⟨enrollment.id, enrollment.projectId, enrollment.deploymentId, enrollment.ownerUserId⟩, named)

/-- Revokes the unconsumed enrollments of the deployment and stores the new one. -/
def createAgentGatewayEnrollment (database : Database) (now : ℕ) (id projectId deploymentId : Uuid)
    (ownerUserId : String) (tokenHash : Hash) (expiresAt : ℕ) : Except ApiError Database := do
  let revoked := database.agentGatewayEnrollments.update
    (fun row => row.deploymentId == deploymentId && row.consumedAt.isNone && row.revokedAt.isNone)
    (fun row => { row with revokedAt := some now }) fun _ => rfl
  let rows ← okOr alreadyExists (revoked.insert?
    ⟨id, projectId, deploymentId, ownerUserId, tokenHash, expiresAt, none, none, none⟩)
  ensure ((database.projects.any fun row => row.id == projectId) = true ∧
    database.hasDeployment deploymentId = true) missingReference
  return { database with agentGatewayEnrollments := rows }

structure RevokedAgentGatewayEnrollment where
  gatewayId : Option String
  revokeGateway : Bool
  deriving DecidableEq

def dropAssignment (database : Database) (deploymentId : Uuid) (gatewayId : String) : Database :=
  { database with
    runtimeDeploymentGateways := database.runtimeDeploymentGateways.delete fun row =>
      row.deploymentId == deploymentId && row.gatewayId == gatewayId }

def revokeAgentGatewayEnrollment (database : Database) (now : ℕ) (enrollmentId : Uuid) :
    Except ApiError (RevokedAgentGatewayEnrollment × Database) := do
  let enrollment ← okOr .notFound (database.agentGatewayEnrollments.find? fun row => row.id == enrollmentId)
  let revoked := { database with
    agentGatewayEnrollments := database.agentGatewayEnrollments.update (fun row => row.id == enrollmentId)
      (fun row => { row with revokedAt := row.revokedAt <|> some now }) fun _ => rfl }
  match enrollment.gatewayId with
  | none => return (⟨none, false⟩, revoked)
  | some gatewayId =>
    let dropped := revoked.dropAssignment enrollment.deploymentId gatewayId
    -- The project is renamed only where it still names this gateway.
    let named := { dropped with
      projects := dropped.projects.update
        (fun row => row.id == enrollment.projectId && row.gatewayId == gatewayId)
        (fun row => { row with gatewayId := dropped.primaryGateway enrollment.projectId }) fun _ => rfl }
    return (⟨some gatewayId, named.runtimeDeploymentGateways.count (fun row => row.gatewayId == gatewayId) == 0⟩, named)

def revokeAgentGatewayCredential (database : Database) (now : ℕ) (gatewayId : String) :
    Except ApiError (AgentGatewayCredential × Database) :=
  (okOr .notFound (database.agentGatewayCredentials.find? fun row => row.gatewayId == gatewayId)).map fun row =>
    (row.revoke now, { database with
      agentGatewayCredentials := database.agentGatewayCredentials.update (fun row => row.gatewayId == gatewayId)
        (AgentGatewayCredential.revoke now) fun _ => rfl })

end Database

end Vifu.Server
