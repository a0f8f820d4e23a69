import Vifu.Foundation.Machine
import Vifu.Server.Database.Deployments

/-!
# Guest projects

A project that a gateway bootstraps has no owner until somebody claims it with the token of the gateway.  The claim
takes over what the guest had at the gateways of the project; a guest that nobody claims in time is deleted with its
project.
-/

namespace Vifu.Server

open Foundation
open Vifu.Gateway

/-- `CHECK ((claimed_by IS NULL) = (claimed_at IS NULL))`: a claim is a user and a time. -/
structure GuestProject where
  projectId : Uuid
  gatewayId : String
  claimTokenHash : Hash
  expiresAt : ℕ
  claim : Option (String × ℕ)
  deriving DecidableEq

/-- The primary key and the unique gateway and token. -/
instance : Keyed GuestProject where
  Key := Uuid × String × Hash
  key row := (row.projectId, row.gatewayId, row.claimTokenHash)
  conflicts first second := first.1 == second.1 || first.2.1 == second.2.1 || first.2.2 == second.2.2
  symmetric first second := by grind
  reflexive key := by simp

def GuestProject.claimedBy (guest : GuestProject) : Option String := guest.claim.map Prod.fst

structure NewGuestProject where
  projectId : Uuid
  gatewayId : String
  claimTokenHash : Hash
  expiresAt : ℕ

def guestOwner (projectId : Uuid) : String := "guest:" ++ projectId.text

structure GuestDatabase extends Database where
  guestProjects : Rows GuestProject

namespace Database

variable (database : Database)

def gatewayOf (projectId : Uuid) (gatewayId : String) : Bool :=
  database.runtimeDeploymentGateways.any fun row =>
    row.gatewayId == gatewayId && database.deploymentOf projectId row.deploymentId

/-- An authorization without an owner or with the guest as its owner, at a gateway of the project. -/
def guestAuthorization (projectId : Uuid) (row : AgentGatewayAuthorization) : Bool :=
  (row.ownerUserId == none || row.ownerUserId == some (guestOwner projectId)) && database.gatewayOf projectId row.gatewayId

/-- `UPDATE projects SET owner_user_id = … WHERE id = … AND owner_user_id IS NULL`. -/
def takeOver (projectId : Uuid) (ownerUserId : String) : Database :=
  { database with
    projects := database.projects.update (fun row => row.id == projectId && row.ownerUserId == none)
      (fun row => { row with ownerUserId := some ownerUserId }) fun _ => rfl }

/-- `SET owner_user_id = …`. -/
def giveAuthorization (ownerUserId : String) (row : AgentGatewayAuthorization) : AgentGatewayAuthorization :=
  { row with ownerUserId := some ownerUserId }

/-- What the guest had at the gateways of the project becomes the user's. -/
def handOver (projectId : Uuid) (ownerUserId : String) : Database :=
  { database with
    agentGatewayAuthorizations := database.agentGatewayAuthorizations.update (database.guestAuthorization projectId)
      (giveAuthorization ownerUserId) fun _ => rfl
    agentGatewayCredentials := database.agentGatewayCredentials.update
      (fun row => row.ownerUserId == some (guestOwner projectId) && database.gatewayOf projectId row.gatewayId)
      (fun row => { row with ownerUserId := some ownerUserId }) fun _ => rfl
    agentGatewayEnrollments := database.agentGatewayEnrollments.update
      (fun row => row.projectId == projectId && row.ownerUserId == guestOwner projectId)
      (fun row => { row with ownerUserId := ownerUserId }) fun _ => rfl }

def dropProjects (dropped : Uuid → Bool) : Database :=
  let deployed := fun deploymentId => database.runtimeDeployments.any fun row =>
    row.id == deploymentId && dropped row.projectId
  { database with
    projects := database.projects.delete fun row => dropped row.id
    runtimeDeployments := database.runtimeDeployments.delete fun row => dropped row.projectId
    runtimeDeploymentGateways := database.runtimeDeploymentGateways.delete fun row => deployed row.deploymentId
    projectBindings := database.projectBindings.delete fun row => dropped row.projectId
    runtimeDistributions := database.runtimeDistributions.delete fun row =>
      dropped row.projectId || deployed row.deploymentId
    runtimeDistributionGateways := database.runtimeDistributionGateways.delete fun row =>
      database.runtimeDistributions.any fun distribution =>
        distribution.id == row.distributionId && (dropped distribution.projectId || deployed distribution.deploymentId)
    agentGatewayEnrollments := database.agentGatewayEnrollments.delete fun row =>
      dropped row.projectId || deployed row.deploymentId }

end Database

namespace GuestDatabase

variable (database : GuestDatabase)

def createGuestProject (input : NewGuestProject) : Except ApiError GuestDatabase := do
  let rows ← okOr alreadyExists (database.guestProjects.insert?
    ⟨input.projectId, input.gatewayId, input.claimTokenHash, input.expiresAt, none⟩)
  ensure (database.projects.any (fun row => row.id == input.projectId) = true) missingReference
  return { database with guestProjects := rows }

def promoteGuestProject (projectId : Uuid) : GuestDatabase :=
  if database.guestProjects.any fun row => row.projectId == projectId then
    { database with
      guestProjects := database.guestProjects.delete fun row => row.projectId == projectId
      projects := database.projects.update (fun row => row.id == projectId)
        (fun row => { row with name := if row.name = "Guest app" then "Local app" else row.name }) fun _ => rfl }
  else database

def hasExpired (now : ℕ) (projectId : Uuid) : Bool :=
  database.guestProjects.any fun row => row.projectId == projectId && row.claim.isNone && decide (row.expiresAt ≤ now)

def pruneExpiredGuestProjects (now : ℕ) : GuestDatabase where
  toDatabase := database.dropProjects (database.hasExpired now)
  guestProjects := database.guestProjects.delete fun row => database.hasExpired now row.projectId

/-- `UPDATE guest_projects SET claimed_by = …, claimed_at = …`. -/
def setClaim (now : ℕ) (claimable : GuestProject → Bool) (ownerUserId : String) : Rows GuestProject :=
  database.guestProjects.update claimable (fun row => { row with claim := some (ownerUserId, now) }) fun _ => rfl

/-- The transaction of `claim_guest_project`. -/
def claimGuestProject (now : ℕ) (claimTokenHash : Hash) (ownerUserId : String) :
    Except ApiError (Uuid × GuestDatabase) :=
  let claimable := fun row : GuestProject =>
    row.claimTokenHash == claimTokenHash && row.claim.isNone && decide (now < row.expiresAt)
  match database.guestProjects.find? claimable with
  | some guest => do
    ensure (database.projects.any (fun row => row.id == guest.projectId && row.ownerUserId == none) = true)
      (.conflict "guest project already has an owner")
    return (guest.projectId, ⟨(database.takeOver guest.projectId ownerUserId).handOver guest.projectId ownerUserId,
      database.setClaim now claimable ownerUserId⟩)
  | none => do
    let guest ← okOr .unauthorized (database.guestProjects.find? fun row => row.claimTokenHash == claimTokenHash)
    ensure (guest.claimedBy = some ownerUserId) .unauthorized
    return (guest.projectId, ⟨database.handOver guest.projectId ownerUserId, database.guestProjects⟩)

end GuestDatabase

/-! ## Runs -/

inductive GuestCall where
  | create (input : NewGuestProject)
  | claim (claimTokenHash : Hash) (ownerUserId : String)
  | promote (projectId : Uuid)
  | prune

/-- A query that fails: one of the transaction, or the query for the project after the commit. -/
inductive GuestFault where
  | transaction
  | read
  deriving DecidableEq

/-- What a call has left: a claim that returned the project, or the database before and after a call that returned an
error. -/
inductive GuestEntry where
  | claimed (claimTokenHash : Hash) (ownerUserId : String) (projectId : Uuid)
  | failed (before after : GuestDatabase)

structure GuestState where
  database : GuestDatabase
  log : List GuestEntry

namespace GuestState

variable (state : GuestState)

structure Action where
  call : GuestCall
  now : ℕ
  fault : Option GuestFault

/-- A call whose transaction is rolled back. -/
def fail : GuestState := { state with log := state.log ++ [.failed state.database state.database] }

def write (next : GuestDatabase) : GuestState := { state with database := next }

/-- `get_project` after the commit of a claim. -/
def answer (claimTokenHash : Hash) (ownerUserId : String) (projectId : Uuid) (next : GuestDatabase)
    (fault : Option GuestFault) : GuestState where
  database := next
  log := state.log ++ [if fault ≠ some .read ∧ (next.getProject projectId).isOk then
    .claimed claimTokenHash ownerUserId projectId else .failed state.database next]

def orFail (result : Except ApiError GuestState) : GuestState := (result.toOption).getD state.fail

def step (action : Action) : Option GuestState :=
  if action.fault = some .transaction then some state.fail
  else match action.call with
  | .create input => some (state.orFail ((state.database.createGuestProject input).map state.write))
  | .claim claimTokenHash ownerUserId =>
    some (state.orFail ((state.database.claimGuestProject action.now claimTokenHash ownerUserId).map fun claimed =>
      state.answer claimTokenHash ownerUserId claimed.1 claimed.2 action.fault))
  | .promote projectId => some (state.write (state.database.promoteGuestProject projectId))
  | .prune => some (state.write (state.database.pruneExpiredGuestProjects action.now))

end GuestState

def guestMachine : Machine GuestState GuestState.Action where
  start state := state.database.guestProjects.rows = [] ∧ state.log = []
  step := GuestState.step

end Vifu.Server
