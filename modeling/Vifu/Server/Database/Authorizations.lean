import Vifu.Server.Database.Deployments

/-!
# Machine authorizations

The functions of the database layer that create, claim, rotate, authenticate and revoke the authorization of
a machine.  Each is one transaction.
-/

namespace Vifu.Server

open Foundation
open Vifu.Gateway

structure NewAgentGatewayAuthorization where
  gatewayId : String
  machineId : String
  ownerUserId : Option String
  tokenPrefix : String
  tokenHash : Hash
  tokenExpiresAt : ℕ

/-- Ten minutes, for which a token that was replaced is still accepted. -/
def previousTokenMillis : ℕ := 10 * 60 * 1000

namespace AgentGatewayAuthorization

def rotate (now : ℕ) (tokenPrefix : String) (tokenHash : Hash) (tokenExpiresAt : ℕ) (row : AgentGatewayAuthorization) :
    AgentGatewayAuthorization :=
  { row with
    previousToken := if row.status = .active then
        some (row.tokenHash, min row.tokenExpiresAt (now + previousTokenMillis))
      else none
    tokenPrefix, tokenHash, tokenExpiresAt
    tokenGeneration := row.tokenGeneration + 1
    status := .active }

/-- `status = 'active'` and the current or the previous token, unexpired. -/
def authenticates (now : ℕ) (tokenHash : Hash) (row : AgentGatewayAuthorization) : Bool :=
  row.status == .active && (row.tokenHash == tokenHash && decide (now < row.tokenExpiresAt) ||
    row.previousToken.any fun previous => previous.1 == tokenHash && decide (now < previous.2))

/-- `COALESCE(revoked_at, now)`. -/
def revokedStatus (now : ℕ) : AuthorizationStatus → AuthorizationStatus
  | .active => .revoked now
  | .revoked revokedAt => .revoked revokedAt

def revoke (now : ℕ) (row : AgentGatewayAuthorization) : AgentGatewayAuthorization :=
  { row with status := revokedStatus now row.status, previousToken := none }

end AgentGatewayAuthorization

namespace Database

def createAgentGatewayAuthorization (database : Database) (input : NewAgentGatewayAuthorization) :
    Except ApiError (AgentGatewayAuthorization × Database) := do
  let created : AgentGatewayAuthorization :=
    ⟨input.gatewayId, input.machineId, input.ownerUserId, .active, input.tokenPrefix, input.tokenHash, 1,
      input.tokenExpiresAt, none, none⟩
  let rows ← okOr alreadyExists (database.agentGatewayAuthorizations.insert? created)
  ensure (database.agentGatewayMachines.any (fun row => row.machineId == input.machineId) = true) missingReference
  return (created, { database with agentGatewayAuthorizations := rows })

/-- Nothing here asks for the status that the row has by now. -/
def rotateAgentGatewayAuthorization (database : Database) (now : ℕ) (gatewayId tokenPrefix : String) (tokenHash : Hash)
    (tokenExpiresAt : ℕ) : Except ApiError (AgentGatewayAuthorization × Database) := do
  let rotate := AgentGatewayAuthorization.rotate now tokenPrefix tokenHash tokenExpiresAt
  let row ← okOr .notFound (database.agentGatewayAuthorizations.find? fun row => row.gatewayId == gatewayId)
  let rows ← okOr .database (database.agentGatewayAuthorizations.update? (fun row => row.gatewayId == gatewayId) rotate)
  return (rotate row, { database with agentGatewayAuthorizations := rows })

def claimAgentGatewayAuthorizationOwner (database : Database) (gatewayId ownerUserId : String) :
    Except ApiError (AgentGatewayAuthorization × Database) :=
  let claimable (row : AgentGatewayAuthorization) :=
    row.gatewayId == gatewayId && (row.ownerUserId.isNone || row.ownerUserId == some ownerUserId)
  let claim (row : AgentGatewayAuthorization) := { row with ownerUserId := some ownerUserId }
  (okOr (.conflict "Gateway is already owned by another account")
    (database.agentGatewayAuthorizations.find? claimable)).map fun row =>
      (claim row, { database with
        agentGatewayAuthorizations := database.agentGatewayAuthorizations.update claimable claim fun _ => rfl })

def authenticateAgentGatewayDeviceToken (database : Database) (now : ℕ) (tokenHash : Hash) :
    Except ApiError (String × Database) :=
  (okOr .forbidden (database.agentGatewayAuthorizations.find?
    (AgentGatewayAuthorization.authenticates now tokenHash))).map fun row =>
      (row.gatewayId, { database with
        agentGatewayAuthorizations := database.agentGatewayAuthorizations.update
          (AgentGatewayAuthorization.authenticates now tokenHash)
          (fun row => { row with lastUsedAt := some now }) fun _ => rfl })

def revokeAgentGatewayAuthorization (database : Database) (now : ℕ) (gatewayId : String) :
    Except ApiError (AgentGatewayAuthorization × Database) := do
  let row ← okOr .notFound (database.agentGatewayAuthorizations.find? fun row => row.gatewayId == gatewayId)
  let rows ← okOr .database (database.agentGatewayAuthorizations.update? (fun row => row.gatewayId == gatewayId)
    (AgentGatewayAuthorization.revoke now))
  return (row.revoke now, { database with agentGatewayAuthorizations := rows })

end Database

end Vifu.Server
