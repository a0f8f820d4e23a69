import Vifu.Server.Database.Authorizations
import Vifu.Server.Database.Consistency
import Vifu.Server.Guests.Projects

/-!
# Revoked authorizations

Whatever else is created, claimed, handed over, authenticated and revoked, a revoked authorization accepts no token
until a rotation revives it.
-/

namespace Vifu.Server

open Foundation
open Vifu.Gateway

/-- What writes the table of authorizations; a claim of a guest project hands them over. -/
inductive AuthorizationCall where
  | create (input : NewAgentGatewayAuthorization)
  | rotate (now : ℕ) (gatewayId tokenPrefix : String) (tokenHash : Hash) (tokenExpiresAt : ℕ)
  | claim (gatewayId ownerUserId : String)
  | handOver (projectId : Uuid) (ownerUserId : String)
  | authenticate (now : ℕ) (tokenHash : Hash)
  | revoke (now : ℕ) (gatewayId : String)

def AuthorizationCall.after (database : Database) : AuthorizationCall → Database
  | create input => database.commit (database.createAgentGatewayAuthorization input)
  | rotate now gatewayId tokenPrefix tokenHash tokenExpiresAt =>
    database.commit (database.rotateAgentGatewayAuthorization now gatewayId tokenPrefix tokenHash tokenExpiresAt)
  | claim gatewayId ownerUserId => database.commit (database.claimAgentGatewayAuthorizationOwner gatewayId ownerUserId)
  | handOver projectId ownerUserId => database.handOver projectId ownerUserId
  | authenticate now tokenHash => database.commit (database.authenticateAgentGatewayDeviceToken now tokenHash)
  | revoke now gatewayId => database.commit (database.revokeAgentGatewayAuthorization now gatewayId)

def AuthorizationCall.rotates (gatewayId : String) : AuthorizationCall → Bool
  | rotate _ rotated _ _ _ => rotated == gatewayId
  | create _ | claim _ _ | handOver _ _ | authenticate _ _ | revoke _ _ => false

def authorizationMachine : Machine Database AuthorizationCall where
  start _ := True
  step database call := some (call.after database)

def Revoked (gatewayId : String) (database : Database) : Prop :=
  ∃ row ∈ database.agentGatewayAuthorizations, row.gatewayId = gatewayId ∧ row.status ≠ .active

variable {database next : Database} {gatewayId : String}

theorem revoke_inactive (row : AgentGatewayAuthorization) (now : ℕ) : (row.revoke now).status ≠ .active := by
  cases status : row.status <;> simp [AgentGatewayAuthorization.revoke, AgentGatewayAuthorization.revokedStatus, status]

theorem Revoked.after (revoked : Revoked gatewayId database) (call : AuthorizationCall)
    (other : call.rotates gatewayId = false) : Revoked gatewayId (call.after database) := by
  cases call with
  | create input =>
    refine commit_keeps revoked fun _ next succeeds => ?_
    simp only [Database.createAgentGatewayAuthorization, bind_ok, okOr_ok, pure_ok] at succeeds
    obtain ⟨rows, inserted, _, _, ⟨⟩⟩ := succeeds
    exact revoked.imp fun row known => ⟨(Rows.mem_insert? inserted).mpr (.inl known.1), known.2⟩
  | rotate now rotated =>
    refine commit_keeps revoked fun _ next succeeds => ?_
    simp only [Database.rotateAgentGatewayAuthorization, bind_ok, okOr_ok, pure_ok] at succeeds
    obtain ⟨row, _, rows, changed, ⟨⟩⟩ := succeeds
    refine Rows.exists_updated revoked (Rows.rows_of_update? changed) fun row _ isRotated known => ?_
    have same : row.gatewayId = rotated := beq_iff_eq.mp isRotated
    rw [AuthorizationCall.rotates, ← known.1, same, beq_self_eq_true] at other
    contradiction
  | claim owned =>
    refine commit_keeps revoked fun _ next succeeds => ?_
    simp only [Database.claimAgentGatewayAuthorizationOwner, map_ok, okOr_ok] at succeeds
    obtain ⟨row, _, ⟨⟩⟩ := succeeds
    exact Rows.exists_updated revoked rfl fun _ _ _ known => known
  | handOver => exact Rows.exists_updated revoked rfl fun _ _ _ known => known
  | authenticate now tokenHash =>
    refine commit_keeps revoked fun _ next succeeds => ?_
    simp only [Database.authenticateAgentGatewayDeviceToken, map_ok, okOr_ok] at succeeds
    obtain ⟨row, _, ⟨⟩⟩ := succeeds
    exact Rows.exists_updated revoked rfl fun _ _ _ known => known
  | revoke now other =>
    refine commit_keeps revoked fun _ next succeeds => ?_
    simp only [Database.revokeAgentGatewayAuthorization, bind_ok, okOr_ok, pure_ok] at succeeds
    obtain ⟨row, _, rows, changed, ⟨⟩⟩ := succeeds
    exact Rows.exists_updated revoked (Rows.rows_of_update? changed) fun row _ _ known => ⟨known.1, revoke_inactive row now⟩

theorem revoked_of_revoke {now : ℕ} {row : AgentGatewayAuthorization}
    (revokes : database.revokeAgentGatewayAuthorization now gatewayId = .ok (row, next)) : Revoked gatewayId next := by
  simp only [Database.revokeAgentGatewayAuthorization, bind_ok, okOr_ok, pure_ok] at revokes
  obtain ⟨row, found, rows, changed, ⟨⟩⟩ := revokes
  obtain ⟨mem, named⟩ := Rows.mem_of_find? found
  exact ⟨row.revoke now, (Rows.mem_update? changed).mpr ⟨row, mem, if_pos named⟩, beq_iff_eq.mp named,
    revoke_inactive row now⟩

/-- Once an authorization is revoked, no call accepts a token for its gateway until a rotation revives it. -/
theorem revoked_tokens_refused {database revoked final : Database} {now : ℕ} {gatewayId : String}
    {row : AgentGatewayAuthorization} (revokes : database.revokeAgentGatewayAuthorization now gatewayId = .ok (row, revoked))
    (run : authorizationMachine.RunsTo (fun _ call => call.rotates gatewayId = false) revoked final) (later : ℕ)
    (tokenHash : Hash) (next : Database) : final.authenticateAgentGatewayDeviceToken later tokenHash ≠ .ok (gatewayId, next) := by
  have stays : Revoked gatewayId final := by
    refine run.preserves (fun _ call _ revoked other stepped => ?_) (revoked_of_revoke revokes)
    cases stepped
    exact revoked.after call other
  intro accepts
  simp only [Database.authenticateAgentGatewayDeviceToken, map_ok, okOr_ok] at accepts
  obtain ⟨active, found, same⟩ := accepts
  obtain ⟨mem, passes⟩ := Rows.mem_of_find? found
  obtain ⟨row, stored, isGateway, inactive⟩ := stays
  have isRow : row = active := Rows.unique stored mem (by
    simp [clash, Keyed.conflicts, Keyed.key, isGateway, (Prod.mk.inj same).1])
  simp [AgentGatewayAuthorization.authenticates, ← isRow, inactive] at passes

def authorizedTown : Database :=
  { Database.empty with
    agentGatewayMachines := .singleton ⟨"vifu_machine_town", "key-town"⟩
    agentGatewayAuthorizations := .singleton
      ⟨"gateway-town", "vifu_machine_town", none, .active, "vifu_gw_town", [1], 1, 100, some ([2], 90), none⟩ }

def revokedTown : Database := (AuthorizationCall.revoke 50 "gateway-town").after authorizedTown

/-- A user claims the revoked gateway, and neither its token nor the one before passes. -/
theorem revoked_tokens_refused_town :
    (authorizedTown.authenticateAgentGatewayDeviceToken 50 [2]).map Prod.fst = .ok "gateway-town" ∧
    ∀ tokenHash next, ((AuthorizationCall.claim "gateway-town" "user-123").after
      revokedTown).authenticateAgentGatewayDeviceToken 60 tokenHash ≠ .ok ("gateway-town", next) := by
  have revokes : ∃ row, authorizedTown.revokeAgentGatewayAuthorization 50 "gateway-town" = .ok (row, revokedTown) :=
    ⟨_, rfl⟩
  obtain ⟨row, revokes⟩ := revokes
  exact ⟨rfl, revoked_tokens_refused revokes (.single ⟨_, rfl, rfl⟩) 60⟩

end Vifu.Server
