import Mathlib.Data.List.MinMax
import Vifu.Foundation.Rows
import Vifu.Gateway.Checks

/-!
# The tables of the server

The rows of the tables that enrol and assign gateways, with the unique constraints of the schema, and the
statements that several functions of the database layer repeat.  Times are numbers on one clock, hashes are
byte strings.  A `CHECK` that ties two columns together is a type that cannot hold anything else.
-/

namespace Vifu.Server

open Foundation
open Vifu.Gateway

inductive ApiError where
  | unauthorized
  | forbidden
  | invalid (message : String)
  | notFound
  | conflict (message : String)
  | database
  deriving DecidableEq

/-- `Display` of an error. -/
def ApiError.text : ApiError → String
  | unauthorized => "authentication required"
  | forbidden => "forbidden"
  | invalid message => message
  | notFound => "resource not found"
  | conflict message => message
  | database => "database request failed"

/-- `map_database_error` of a unique violation. -/
def alreadyExists : ApiError := .conflict "resource already exists"

/-- `map_database_error` of a foreign key violation. -/
def missingReference : ApiError := .invalid "referenced resource does not exist"

abbrev Hash := List UInt8

/-! ## Projects and deployments -/

structure Project where
  id : Uuid
  appId : String
  ownerUserId : Option String
  slug : String
  name : String
  description : Option String
  gatewayId : String
  enabled : Bool
  createdAt : ℕ
  deriving DecidableEq

instance : Keyed Project where
  Key := Uuid × String × String
  key row := (row.id, row.appId, row.slug)
  conflicts first second := first.1 == second.1 || first.2.1 == second.2.1 || first.2.2 == second.2.2
  symmetric first second := by grind
  reflexive key := by simp

inductive TraceMode where
  | off
  | summary
  | full
  deriving DecidableEq

structure RuntimeDeployment where
  id : Uuid
  projectId : Uuid
  name : String
  isPrimary : Bool
  configSyncEnabled : Bool
  traceMode : TraceMode
  remoteInvocationEnabled : Bool
  createdAt : ℕ
  deriving DecidableEq

/-- The primary key, `UNIQUE (project_id, name)` and `runtime_deployments_one_primary_idx`. -/
instance : Keyed RuntimeDeployment where
  Key := Uuid × Uuid × String × Bool
  key row := (row.id, row.projectId, row.name, row.isPrimary)
  conflicts first second := first.1 == second.1 ||
    first.2.1 == second.2.1 && (first.2.2.1 == second.2.2.1 || first.2.2.2 && second.2.2.2)
  symmetric first second := by grind
  reflexive key := by simp

structure RuntimeDeploymentGateway where
  deploymentId : Uuid
  gatewayId : String
  createdAt : ℕ
  deriving DecidableEq

instance : Keyed RuntimeDeploymentGateway where
  Key := Uuid × String
  key row := (row.deploymentId, row.gatewayId)
  conflicts first second := first == second
  symmetric first second := by grind
  reflexive key := by simp

structure AgentBinding where
  id : Uuid
  deriving DecidableEq

instance : Keyed AgentBinding where
  Key := Uuid
  key row := row.id
  conflicts first second := first == second
  symmetric first second := by grind
  reflexive key := by simp

structure ProjectBinding where
  projectId : Uuid
  bindingId : Uuid
  deriving DecidableEq

instance : Keyed ProjectBinding where
  Key := Uuid × Uuid
  key row := (row.projectId, row.bindingId)
  conflicts first second := first == second
  symmetric first second := by grind
  reflexive key := by simp

inductive DistributionStatus where
  | active
  | revoked
  deriving DecidableEq

structure RuntimeDistribution where
  id : Uuid
  projectId : Uuid
  deploymentId : Uuid
  name : String
  publicId : String
  status : DistributionStatus
  maxGateways : ℤ
  /-- `CHECK (max_gateways > 0)`. -/
  positive : 0 < maxGateways
  revokedAt : Option ℕ
  deriving DecidableEq

instance : Keyed RuntimeDistribution where
  Key := Uuid × String
  key row := (row.id, row.publicId)
  conflicts first second := first.1 == second.1 || first.2 == second.2
  symmetric first second := by grind
  reflexive key := by simp

structure RuntimeDistributionGateway where
  distributionId : Uuid
  machineId : String
  gatewayId : String
  deriving DecidableEq

/-- The primary key and `gateway_id TEXT NOT NULL UNIQUE`. -/
instance : Keyed RuntimeDistributionGateway where
  Key := (Uuid × String) × String
  key row := ((row.distributionId, row.machineId), row.gatewayId)
  conflicts first second := first.1 == second.1 || first.2 == second.2
  symmetric first second := by grind
  reflexive key := by simp

structure AgentGatewayEnrollment where
  id : Uuid
  projectId : Uuid
  deploymentId : Uuid
  ownerUserId : String
  tokenHash : Hash
  expiresAt : ℕ
  gatewayId : Option String
  consumedAt : Option ℕ
  revokedAt : Option ℕ
  deriving DecidableEq

instance : Keyed AgentGatewayEnrollment where
  Key := Uuid × Hash
  key row := (row.id, row.tokenHash)
  conflicts first second := first.1 == second.1 || first.2 == second.2
  symmetric first second := by grind
  reflexive key := by simp

structure AgentGatewayCredential where
  gatewayId : String
  ownerUserId : Option String
  credentialPrefix : String
  credentialHash : Hash
  lastUsedAt : Option ℕ
  revokedAt : Option ℕ
  deriving DecidableEq

instance : Keyed AgentGatewayCredential where
  Key := String × Hash
  key row := (row.gatewayId, row.credentialHash)
  conflicts first second := first.1 == second.1 || first.2 == second.2
  symmetric first second := by grind
  reflexive key := by simp

/-! ## Machine authorizations and pairings -/

structure AgentGatewayMachine where
  machineId : String
  publicKey : String
  deriving DecidableEq

instance : Keyed AgentGatewayMachine where
  Key := String × String
  key row := (row.machineId, row.publicKey)
  conflicts first second := first.1 == second.1 || first.2 == second.2
  symmetric first second := by grind
  reflexive key := by simp

/-- `CHECK ((status = 'revoked') = (revoked_at IS NOT NULL))`. -/
inductive AuthorizationStatus where
  | active
  | revoked (revokedAt : ℕ)
  deriving DecidableEq

structure AgentGatewayAuthorization where
  gatewayId : String
  machineId : String
  ownerUserId : Option String
  status : AuthorizationStatus
  tokenPrefix : String
  tokenHash : Hash
  tokenGeneration : ℕ
  tokenExpiresAt : ℕ
  /-- The previous token and when it expires: both columns are null or neither is. -/
  previousToken : Option (Hash × ℕ)
  lastUsedAt : Option ℕ
  deriving DecidableEq

instance : Keyed AgentGatewayAuthorization where
  Key := String × String × Hash × Option Hash
  key row := (row.gatewayId, row.machineId, row.tokenHash, row.previousToken.map Prod.fst)
  conflicts first second := first.1 == second.1 || first.2.1 == second.2.1 || first.2.2.1 == second.2.2.1 ||
    first.2.2.2.isSome && first.2.2.2 == second.2.2.2
  symmetric first second := by grind
  reflexive key := by simp

/-- `CHECK ((status = 'pending') = (resolved_at IS NULL))`. -/
inductive PairingStatus where
  | pending
  | approved (resolvedAt : ℕ)
  | consumed (resolvedAt : ℕ)
  | rejected (resolvedAt : ℕ)
  | expired (resolvedAt : ℕ)
  deriving DecidableEq

structure AgentGatewayPairingRequest where
  id : Uuid
  machineId : String
  status : PairingStatus
  ownerUserId : Option String
  expiresAt : ℕ
  createdAt : ℕ
  deriving DecidableEq

/-- The primary key and `agent_gateway_pairing_requests_pending_machine_idx`. -/
instance : Keyed AgentGatewayPairingRequest where
  Key := Uuid × String × Bool
  key row := (row.id, row.machineId, row.status == .pending)
  conflicts first second := first.1 == second.1 || first.2.1 == second.2.1 && first.2.2 && second.2.2
  symmetric first second := by grind
  reflexive key := by simp

/-! ## The database -/

@[ext]
structure Database where
  projects : Rows Project
  runtimeDeployments : Rows RuntimeDeployment
  runtimeDeploymentGateways : Rows RuntimeDeploymentGateway
  agentBindings : Rows AgentBinding
  projectBindings : Rows ProjectBinding
  runtimeDistributions : Rows RuntimeDistribution
  runtimeDistributionGateways : Rows RuntimeDistributionGateway
  agentGatewayEnrollments : Rows AgentGatewayEnrollment
  agentGatewayCredentials : Rows AgentGatewayCredential
  agentGatewayMachines : Rows AgentGatewayMachine
  agentGatewayAuthorizations : Rows AgentGatewayAuthorization
  agentGatewayPairingRequests : Rows AgentGatewayPairingRequest
  deriving DecidableEq

namespace Database

/-- What a transaction leaves: its own database, or the one before when it fails. -/
def commit {α : Type} (database : Database) : Except ApiError (α × Database) → Database
  | .ok (_, next) => next
  | .error _ => database

def empty : Database where
  projects := .empty
  runtimeDeployments := .empty
  runtimeDeploymentGateways := .empty
  agentBindings := .empty
  projectBindings := .empty
  runtimeDistributions := .empty
  runtimeDistributionGateways := .empty
  agentGatewayEnrollments := .empty
  agentGatewayCredentials := .empty
  agentGatewayMachines := .empty
  agentGatewayAuthorizations := .empty
  agentGatewayPairingRequests := .empty

/-- A foreign key to `runtime_deployments(id)`. -/
def hasDeployment (database : Database) (deploymentId : Uuid) : Bool :=
  database.runtimeDeployments.any fun row => row.id == deploymentId

def assigned (database : Database) (deploymentId : Uuid) (gatewayId : String) : Bool :=
  database.runtimeDeploymentGateways.any fun row => row.deploymentId == deploymentId && row.gatewayId == gatewayId

/-- `INSERT INTO runtime_deployment_gateways … ON CONFLICT DO NOTHING`. -/
def assignGateway (database : Database) (now : ℕ) (deploymentId : Uuid) (gatewayId : String) :
    Except ApiError Database :=
  if database.assigned deploymentId gatewayId then .ok database
  else if database.hasDeployment deploymentId then
    .ok { database with
      runtimeDeploymentGateways := database.runtimeDeploymentGateways.insertNew ⟨deploymentId, gatewayId, now⟩ }
  else .error .database

/-- `id IN (SELECT id FROM runtime_deployments WHERE project_id = …)`. -/
def deploymentOf (database : Database) (projectId deploymentId : Uuid) : Bool :=
  database.runtimeDeployments.any fun row => row.id == deploymentId && row.projectId == projectId

def leaveOthers (database : Database) (projectId deploymentId : Uuid) (gatewayId : String) : Database :=
  { database with
    runtimeDeploymentGateways := database.runtimeDeploymentGateways.delete fun row =>
      row.gatewayId == gatewayId && row.deploymentId != deploymentId && database.deploymentOf projectId row.deploymentId }

/-- `SELECT gateway_id … ORDER BY created_at ASC LIMIT 1`. -/
def earliestGateway (rows : List RuntimeDeploymentGateway) : Option String :=
  (rows.argmin RuntimeDeploymentGateway.createdAt).map RuntimeDeploymentGateway.gatewayId

/-- `is_primary` of a deployment of the project. -/
def isPrimary? (database : Database) (projectId deploymentId : Uuid) : Option Bool :=
  (database.runtimeDeployments.find? fun row => row.id == deploymentId && row.projectId == projectId).map
    RuntimeDeployment.isPrimary

def primaryGateway (database : Database) (projectId : Uuid) : String :=
  (earliestGateway (database.runtimeDeploymentGateways.filter fun row =>
    database.runtimeDeployments.any fun deployment =>
      deployment.id == row.deploymentId && deployment.projectId == projectId && deployment.isPrimary)).getD ""

/-- `UPDATE projects SET gateway_id = … WHERE id = …`. -/
def setProjectGateway (database : Database) (projectId : Uuid) (gatewayId : String) : Database :=
  { database with
    projects := database.projects.update (fun row => row.id == projectId) (fun row => { row with gatewayId }) fun _ => rfl }

/-! ### What the statements change -/

section

variable {database next : Database} {now : ℕ} {projectId deploymentId other : Uuid} {gatewayId gateway : String}

theorem assigned_iff : database.assigned deploymentId gatewayId = true ↔
    ∃ row ∈ database.runtimeDeploymentGateways, row.deploymentId = deploymentId ∧ row.gatewayId = gatewayId := by
  simp only [assigned, Rows.any_eq_true, Bool.and_eq_true, beq_iff_eq]

theorem hasDeployment_iff : database.hasDeployment deploymentId = true ↔
    ∃ row ∈ database.runtimeDeployments, row.id = deploymentId := by
  simp only [hasDeployment, Rows.any_eq_true, beq_iff_eq]

theorem deploymentOf_iff : database.deploymentOf projectId deploymentId = true ↔
    ∃ row ∈ database.runtimeDeployments, row.id = deploymentId ∧ row.projectId = projectId := by
  simp only [deploymentOf, Rows.any_eq_true, Bool.and_eq_true, beq_iff_eq]

theorem clash_assignment {first second : RuntimeDeploymentGateway} : clash first second = true ↔
    first.deploymentId = second.deploymentId ∧ first.gatewayId = second.gatewayId := by
  simp [clash, Keyed.conflicts, Keyed.key]

theorem assignGateway_ok (inserted : database.assignGateway now deploymentId gatewayId = .ok next) :
    (∃ rows, next = { database with runtimeDeploymentGateways := rows }) ∧
      ∀ other gateway, next.assigned other gateway = true ↔
        database.assigned other gateway = true ∨ other = deploymentId ∧ gateway = gatewayId := by
  rw [assignGateway] at inserted
  split at inserted
  next present =>
    cases inserted
    refine ⟨⟨_, rfl⟩, ?_⟩
    intro other gateway
    rw [iff_self_or]
    rintro ⟨rfl, rfl⟩
    exact present
  next absent =>
    split at inserted
    next =>
      cases inserted
      refine ⟨⟨_, rfl⟩, ?_⟩
      intro other gateway
      have free : ∀ stored ∈ database.runtimeDeploymentGateways,
          clash stored ⟨deploymentId, gatewayId, now⟩ = false := by
        intro stored mem
        rw [← Bool.not_eq_true, clash_assignment]
        exact fun same => absent (assigned_iff.mpr ⟨stored, mem, same⟩)
      simp only [assigned_iff, Rows.mem_insertNew_of_free free, or_and_right, exists_or, exists_eq_left]
      rw [eq_comm (a := deploymentId), eq_comm (a := gatewayId)]
    next => contradiction

theorem assignGateway_isOk (stored : database.hasDeployment deploymentId = true) :
    ∃ next, database.assignGateway now deploymentId gatewayId = .ok next := by
  rw [assignGateway]
  split
  · exact ⟨_, rfl⟩
  · exact ⟨_, rfl⟩

theorem assignGateway_of_assigned (present : database.assigned deploymentId gatewayId = true) :
    database.assignGateway now deploymentId gatewayId = .ok database := by
  rw [assignGateway, if_pos present]

theorem leaveOthers_assigned : (database.leaveOthers projectId deploymentId gatewayId).assigned other gateway = true ↔
    database.assigned other gateway = true ∧
      ¬(gateway = gatewayId ∧ other ≠ deploymentId ∧ database.deploymentOf projectId other = true) := by
  simp only [assigned_iff, leaveOthers, Rows.mem_delete]
  grind

theorem mem_setProjectGateway {project : Project} :
    project ∈ (database.setProjectGateway projectId gatewayId).projects ↔
      ∃ row ∈ database.projects, project = if row.id = projectId then { row with gatewayId } else row := by
  simp only [setProjectGateway, Rows.mem_update, Rows.updated, beq_iff_eq]
  grind

theorem earliestGateway_mem {rows : List RuntimeDeploymentGateway} (found : earliestGateway rows = some gatewayId) :
    ∃ row ∈ rows, row.gatewayId = gatewayId := by
  obtain ⟨row, isFirst, isGateway⟩ := Option.map_eq_some_iff.mp found
  exact ⟨row, List.argmin_mem isFirst, isGateway⟩

theorem primaryGateway_assigned (named : database.primaryGateway projectId ≠ "") :
    ∃ deployment ∈ database.runtimeDeployments, deployment.projectId = projectId ∧ deployment.isPrimary = true ∧
      database.assigned deployment.id (database.primaryGateway projectId) = true := by
  rw [primaryGateway] at named ⊢
  cases found : earliestGateway (database.runtimeDeploymentGateways.filter fun row =>
    database.runtimeDeployments.any fun deployment =>
      deployment.id == row.deploymentId && deployment.projectId == projectId && deployment.isPrimary) with
  | none => simp [found] at named
  | some gateway =>
    obtain ⟨row, mem, isGateway⟩ := earliestGateway_mem found
    rw [Rows.mem_filter, Rows.any_eq_true] at mem
    obtain ⟨stored, deployment, hasDeployment, passes⟩ := mem
    simp only [Bool.and_eq_true, beq_iff_eq] at passes
    refine ⟨deployment, hasDeployment, passes.1.2, passes.2, ?_⟩
    rw [assigned_iff]
    exact ⟨row, stored, passes.1.1.symm, isGateway⟩

end

end Database

end Vifu.Server
