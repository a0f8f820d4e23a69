import Vifu.Server.Database.Enrollments

/-!
# Presenting an enrollment token again

A gateway whose first response was lost presents its enrollment token a second time.  The retry is meant
to find everything in place; what it does to the stored credential is stated over any sequence of
presentations and revocations.
-/

namespace Vifu.Server

open Foundation
open Vifu.Gateway

/-- The arguments of `consume_agent_gateway_enrollment`, with the clocks of the call. -/
structure Presentation where
  now : ℕ
  checked : ℕ
  tokenHash : Hash
  gatewayId : String
  credentialPrefix : String
  credentialHash : Hash

def Presentation.consume (presentation : Presentation) (database : Database) :
    Except ApiError (AgentGatewayRegistration × Database) :=
  database.consumeAgentGatewayEnrollment presentation.now presentation.checked presentation.tokenHash
    presentation.gatewayId presentation.credentialPrefix presentation.credentialHash

inductive EnrollmentCall where
  | consume (presentation : Presentation)
  | revokeCredential (now : ℕ) (gatewayId : String)

def EnrollmentCall.after (database : Database) : EnrollmentCall → Database
  | consume presentation => database.commit (presentation.consume database)
  | revokeCredential now gatewayId => database.commit (database.revokeAgentGatewayCredential now gatewayId)

def afterCalls (database : Database) (calls : List EnrollmentCall) : Database :=
  calls.foldl EnrollmentCall.after database

/-! ## What a presentation does -/

namespace Database

variable {database next : Database} {now checked : ℕ} {tokenHash credentialHash : Hash}
  {projectId deploymentId : Uuid} {gatewayId ownerUserId credentialPrefix : String}

theorem moveGateway_ok (moved : database.moveGateway now projectId deploymentId gatewayId = .ok next) :
    ∃ rows, next = { database with runtimeDeploymentGateways := rows } := by
  obtain ⟨⟨rows, same⟩, _⟩ := assignGateway_ok moved
  exact ⟨rows, same⟩

theorem assignEnrolled_ok (assigned : database.assignEnrolled now projectId deploymentId gatewayId = .ok next) :
    (database.isPrimary? projectId deploymentId).isSome = true ∧
      ∃ assignments projects, next =
        { database with runtimeDeploymentGateways := assignments, projects := projects } := by
  obtain ⟨moved, isMoved, rest⟩ := bind_ok.mp assigned
  obtain ⟨isPrimary, found, named⟩ := bind_ok.mp rest
  obtain ⟨rows, rfl⟩ := moveGateway_ok isMoved
  rw [okOr_ok] at found
  rw [pure_ok] at named
  refine ⟨?_, ?_⟩
  · rw [show database.isPrimary? projectId deploymentId = some isPrimary from found]
    rfl
  · rw [← named, nameProjectGateway]
    split
    · exact ⟨_, _, rfl⟩
    · exact ⟨_, _, rfl⟩

theorem assignEnrolled_isOk (stored : (database.isPrimary? projectId deploymentId).isSome = true) :
    ∃ next, database.assignEnrolled now projectId deploymentId gatewayId = .ok next := by
  obtain ⟨isPrimary, found⟩ := Option.isSome_iff_exists.mp stored
  obtain ⟨deployment, isDeployment, _⟩ := Option.map_eq_some_iff.mp found
  obtain ⟨mem, passes⟩ := Rows.mem_of_find? isDeployment
  simp only [Bool.and_eq_true, beq_iff_eq] at passes
  have hasDeployment : (database.leaveOthers projectId deploymentId gatewayId).hasDeployment deploymentId = true :=
    hasDeployment_iff.mpr ⟨deployment, mem, passes.1⟩
  obtain ⟨moved, isMoved⟩ : ∃ moved, database.moveGateway now projectId deploymentId gatewayId = .ok moved :=
    assignGateway_isOk hasDeployment
  obtain ⟨rows, same⟩ := moveGateway_ok isMoved
  refine ⟨moved.nameProjectGateway projectId gatewayId isPrimary, bind_ok.mpr ⟨moved, isMoved, ?_⟩⟩
  have sameFound : moved.isPrimary? projectId deploymentId = some isPrimary := by
    rw [same]
    exact found
  rw [sameFound]
  rfl

variable {registration : AgentGatewayRegistration}

theorem registerEnrolled_ok
    (registered : database.registerEnrolled ownerUserId gatewayId credentialPrefix credentialHash =
      .ok (registration, next)) : ∃ rows, next = { database with agentGatewayCredentials := rows } := by
  rw [registerEnrolled] at registered
  split at registered
  next =>
    obtain ⟨rows, _, same⟩ := map_ok.mp registered
    cases same
    exact ⟨rows, rfl⟩
  next =>
    split at registered
    next => contradiction
    next =>
      split at registered
      next =>
        cases registered
        exact ⟨_, rfl⟩
      next =>
        obtain ⟨rows, _, same⟩ := map_ok.mp registered
        cases same
        exact ⟨rows, rfl⟩

theorem consumeAgentGatewayEnrollment_ok :
    database.consumeAgentGatewayEnrollment now checked tokenHash gatewayId credentialPrefix credentialHash =
      .ok (registration, next) ↔ ∃ enrollment isRetry claimed result registered,
      database.presentEnrollment now tokenHash gatewayId = .ok (enrollment, isRetry, claimed) ∧
      (enrollment.revokedAt = none ∧ checked < enrollment.expiresAt) ∧
      (isRetry = true → enrollment.consumedAt ≠ none ∧ enrollment.gatewayId = some gatewayId) ∧
      claimed.registerEnrolled enrollment.ownerUserId gatewayId credentialPrefix credentialHash =
        .ok (result, registered) ∧
      registered.assignEnrolled now enrollment.projectId enrollment.deploymentId gatewayId = .ok next ∧
      registration = if isRetry then .existing else result := by
  simp only [consumeAgentGatewayEnrollment, bind_ok, ensure_ok, pure_ok, Prod.exists, Prod.mk.injEq]
  grind

theorem presentEnrollment_ok {enrollment : AgentGatewayEnrollment} {isRetry : Bool} {claimed : Database}
    (presented : database.presentEnrollment now tokenHash gatewayId = .ok (enrollment, isRetry, claimed)) :
    (∃ rows, claimed = { database with agentGatewayEnrollments := rows }) ∧
      enrollment ∈ claimed.agentGatewayEnrollments ∧ enrollment.tokenHash = tokenHash ∧
      (isRetry = false → enrollment.consumedAt ≠ none ∧ enrollment.gatewayId = some gatewayId) ∧
      (isRetry = true → claimed = database) ∧
      ∀ row ∈ database.agentGatewayEnrollments, row.consumedAt ≠ none → row ∈ claimed.agentGatewayEnrollments := by
  rw [presentEnrollment] at presented
  split at presented
  next stored found =>
    cases presented
    obtain ⟨mem, passes⟩ := Rows.mem_of_find? found
    have hashed : stored.tokenHash = tokenHash := by
      simp only [AgentGatewayEnrollment.claimable, Bool.and_eq_true, beq_iff_eq] at passes
      exact passes.1.1.1
    refine ⟨⟨_, rfl⟩, ?_, hashed, fun _ => ⟨Option.some_ne_none _, rfl⟩, nofun, ?_⟩
    · dsimp only
      exact Rows.set_mem_update mem passes
    · intro row isStored consumed
      dsimp only
      -- A consumed row is not one that the claim takes.
      apply Rows.mem_update_of_not isStored
      simp [AgentGatewayEnrollment.claimable, consumed]
  next =>
    obtain ⟨stored, found, same⟩ := map_ok.mp presented
    cases same
    rw [okOr_ok] at found
    obtain ⟨mem, hashed⟩ := Rows.mem_of_find? found
    exact ⟨⟨_, rfl⟩, mem, beq_iff_eq.mp hashed, nofun, fun _ => rfl, fun _ isStored _ => isStored⟩

theorem findCredential {gateway : String} {credential : AgentGatewayCredential} :
    (database.agentGatewayCredentials.find? fun row => row.gatewayId == gateway) = some credential ↔
      credential ∈ database.agentGatewayCredentials ∧ credential.gatewayId = gateway := by
  rw [Rows.find?_eq_some, beq_iff_eq]
  intro other named alike
  simp only [beq_iff_eq] at named alike
  simp [clash, Keyed.conflicts, Keyed.key, named, alike]

theorem registerEnrolled_keeps
    (registered : database.registerEnrolled ownerUserId gatewayId credentialPrefix credentialHash =
      .ok (registration, next)) :
    (∃ row ∈ next.agentGatewayCredentials, row.gatewayId = gatewayId ∧ row.ownerUserId = some ownerUserId) ∧
      ∀ row ∈ database.agentGatewayCredentials, ∃ later ∈ next.agentGatewayCredentials,
        later.gatewayId = row.gatewayId ∧ later.ownerUserId = row.ownerUserId := by
  rw [registerEnrolled] at registered
  split at registered
  next =>
    obtain ⟨rows, inserted, same⟩ := map_ok.mp registered
    cases same
    rw [okOr_ok] at inserted
    have stored (row) : row ∈ rows ↔ _ := Rows.mem_insert? inserted
    exact ⟨⟨_, (stored _).mpr (.inr rfl), rfl, rfl⟩, fun row mem => ⟨row, (stored _).mpr (.inl mem), rfl, rfl⟩⟩
  next existing found =>
    obtain ⟨mem, isGateway⟩ := findCredential.mp found
    split at registered
    next => contradiction
    next owned =>
      rw [not_not] at owned
      split at registered
      next =>
        cases registered
        exact ⟨⟨existing, mem, isGateway, owned⟩, fun row stored => ⟨row, stored, rfl, rfl⟩⟩
      next =>
        obtain ⟨rows, changed, same⟩ := map_ok.mp registered
        cases same
        rw [okOr_ok] at changed
        have keeps (row) (stored : row ∈ database.agentGatewayCredentials) :
            ∃ later ∈ rows, later.gatewayId = row.gatewayId ∧ later.ownerUserId = row.ownerUserId := by
          refine ⟨_, (Rows.mem_update? changed).mpr ⟨row, stored, rfl⟩, ?_⟩
          rw [Rows.updated]
          split
          · exact ⟨rfl, rfl⟩
          · exact ⟨rfl, rfl⟩
        obtain ⟨later, stored, sameGateway, sameOwner⟩ := keeps existing mem
        exact ⟨⟨later, stored, sameGateway.trans isGateway, sameOwner.trans owned⟩, keeps⟩

theorem revokeAgentGatewayCredential_ok {revoked : AgentGatewayCredential}
    (succeeds : database.revokeAgentGatewayCredential now gatewayId = .ok (revoked, next)) :
    ∃ rows, next = { database with agentGatewayCredentials := rows } ∧
      ∀ row ∈ database.agentGatewayCredentials, ∃ later ∈ rows,
        later.gatewayId = row.gatewayId ∧ later.ownerUserId = row.ownerUserId := by
  obtain ⟨row, _, same⟩ := map_ok.mp succeeds
  cases same
  refine ⟨_, rfl, ?_⟩
  intro row mem
  by_cases named : (row.gatewayId == gatewayId) = true
  · exact ⟨row.revoke now, Rows.set_mem_update mem named, rfl, rfl⟩
  · exact ⟨row, Rows.mem_update_of_not mem named, rfl, rfl⟩

end Database

/-! ## The token of a gateway -/

/-- The row of a token that was consumed for a gateway, with the gateway's credential of the same owner. -/
structure Bound (database : Database) (tokenHash : Hash) (gatewayId : String) (enrollment : AgentGatewayEnrollment)
    (credential : AgentGatewayCredential) : Prop where
  stored : enrollment ∈ database.agentGatewayEnrollments
  presents : enrollment.tokenHash = tokenHash
  enrolls : enrollment.gatewayId = some gatewayId
  consumed : enrollment.consumedAt ≠ none
  unrevoked : enrollment.revokedAt = none
  deployed : (database.isPrimary? enrollment.projectId enrollment.deploymentId).isSome = true
  registered : credential ∈ database.agentGatewayCredentials
  identifies : credential.gatewayId = gatewayId
  owned : credential.ownerUserId = some enrollment.ownerUserId

variable {database next : Database} {tokenHash : Hash} {gatewayId : String} {enrollment : AgentGatewayEnrollment}
  {credential : AgentGatewayCredential} {presentation : Presentation} {registration : AgentGatewayRegistration}

theorem Presentation.consume_ok : presentation.consume database = .ok (registration, next) ↔
    ∃ enrollment isRetry claimed result registered,
      database.presentEnrollment presentation.now presentation.tokenHash presentation.gatewayId =
        .ok (enrollment, isRetry, claimed) ∧
      (enrollment.revokedAt = none ∧ presentation.checked < enrollment.expiresAt) ∧
      (isRetry = true → enrollment.consumedAt ≠ none ∧ enrollment.gatewayId = some presentation.gatewayId) ∧
      claimed.registerEnrolled enrollment.ownerUserId presentation.gatewayId presentation.credentialPrefix
        presentation.credentialHash = .ok (result, registered) ∧
      registered.assignEnrolled presentation.now enrollment.projectId enrollment.deploymentId presentation.gatewayId =
        .ok next ∧ registration = if isRetry then .existing else result :=
  Database.consumeAgentGatewayEnrollment_ok

theorem bound_of_consume (consumed : presentation.consume database = .ok (registration, next)) :
    ∃ enrollment credential, Bound next presentation.tokenHash presentation.gatewayId enrollment credential := by
  obtain ⟨enrollment, isRetry, claimed, result, registered, presented, passes, replays, registers, assigns, _⟩ :=
    Presentation.consume_ok.mp consumed
  obtain ⟨_, stored, hashed, fresh, _, _⟩ := Database.presentEnrollment_ok presented
  obtain ⟨⟨credential, hasCredential, isGateway, isOwned⟩, _⟩ := Database.registerEnrolled_keeps registers
  obtain ⟨credentials, rfl⟩ := Database.registerEnrolled_ok registers
  obtain ⟨deployed, assignments, projects, rfl⟩ := Database.assignEnrolled_ok assigns
  have enrolled : enrollment.consumedAt ≠ none ∧ enrollment.gatewayId = some presentation.gatewayId := by
    cases isRetry with
    | true => exact replays rfl
    | false => exact fresh rfl
  exact ⟨enrollment, credential,
    { stored
      presents := hashed
      enrolls := enrolled.2
      consumed := enrolled.1
      unrevoked := passes.1
      deployed
      registered := hasCredential
      identifies := isGateway
      owned := isOwned }⟩

section

variable (bound : Bound database tokenHash gatewayId enrollment credential)
include bound

theorem Bound.after (call : EnrollmentCall) :
    ∃ credential, Bound (call.after database) tokenHash gatewayId enrollment credential := by
  cases call with
  | consume presentation =>
    rw [EnrollmentCall.after]
    cases consumed : presentation.consume database with
    | error error => exact ⟨credential, bound⟩
    | ok result =>
      obtain ⟨registration, next⟩ := result
      obtain ⟨other, isRetry, claimed, result, registered, presented, _, _, registers, assigns, _⟩ :=
        Presentation.consume_ok.mp consumed
      obtain ⟨⟨enrollments, rfl⟩, _, _, _, _, remain⟩ := Database.presentEnrollment_ok presented
      obtain ⟨_, keeps⟩ := Database.registerEnrolled_keeps registers
      obtain ⟨later, hasLater, sameGateway, sameOwner⟩ := keeps credential bound.registered
      obtain ⟨credentials, rfl⟩ := Database.registerEnrolled_ok registers
      obtain ⟨_, assignments, projects, rfl⟩ := Database.assignEnrolled_ok assigns
      exact ⟨later,
        { bound with
          stored := remain enrollment bound.stored bound.consumed
          deployed := bound.deployed
          registered := hasLater
          identifies := sameGateway.trans bound.identifies
          owned := sameOwner.trans bound.owned }⟩
  | revokeCredential now gateway =>
    rw [EnrollmentCall.after]
    cases revoked : database.revokeAgentGatewayCredential now gateway with
    | error error => exact ⟨credential, bound⟩
    | ok result =>
      obtain ⟨row, next⟩ := result
      obtain ⟨rows, rfl, keeps⟩ := Database.revokeAgentGatewayCredential_ok revoked
      obtain ⟨later, hasLater, sameGateway, sameOwner⟩ := keeps credential bound.registered
      exact ⟨later,
        { bound with
          stored := bound.stored
          deployed := bound.deployed
          registered := hasLater
          identifies := sameGateway.trans bound.identifies
          owned := sameOwner.trans bound.owned }⟩

theorem Bound.afterCalls (calls : List EnrollmentCall) :
    ∃ credential, Bound (afterCalls database calls) tokenHash gatewayId enrollment credential := by
  induction calls generalizing database credential with
  | nil => exact ⟨credential, bound⟩
  | cons call calls ih =>
    obtain ⟨later, stillBound⟩ := bound.after call
    exact ih stillBound

theorem Bound.present (now : ℕ) (gateway : String) :
    database.presentEnrollment now tokenHash gateway = .ok (enrollment, true, database) := by
  have only : ∀ row ∈ database.agentGatewayEnrollments, row.tokenHash = tokenHash → row = enrollment := by
    intro row mem presents
    apply Rows.unique mem bound.stored
    simp [clash, Keyed.conflicts, Keyed.key, presents, bound.presents]
  have unclaimed : database.agentGatewayEnrollments.find? (AgentGatewayEnrollment.claimable now tokenHash) = none := by
    rw [Rows.find?_eq_none]
    intro row mem
    by_cases presents : row.tokenHash = tokenHash
    · rw [only row mem presents]
      simp [AgentGatewayEnrollment.claimable, bound.consumed]
    · simp [AgentGatewayEnrollment.claimable, presents]
  have found : (database.agentGatewayEnrollments.find? fun row => row.tokenHash == tokenHash) = some enrollment := by
    rw [Rows.find?_eq_some]
    · exact ⟨bound.stored, by simp [bound.presents]⟩
    · intro other presents alike
      simp only [beq_iff_eq] at presents alike
      simp [clash, Keyed.conflicts, Keyed.key, presents, alike]
  rw [Database.presentEnrollment, unclaimed]
  simp only [found]
  rfl

end

theorem Bound.consume_ok (bound : Bound database presentation.tokenHash gatewayId enrollment credential) :
    presentation.consume database = .ok (registration, next) ↔
      presentation.gatewayId = gatewayId ∧ presentation.checked < enrollment.expiresAt ∧ registration = .existing ∧
        ∃ result registered,
          database.registerEnrolled enrollment.ownerUserId presentation.gatewayId presentation.credentialPrefix
            presentation.credentialHash = .ok (result, registered) ∧
          registered.assignEnrolled presentation.now enrollment.projectId enrollment.deploymentId
            presentation.gatewayId = .ok next := by
  rw [Presentation.consume_ok]
  constructor
  · rintro ⟨other, isRetry, claimed, result, registered, presented, passes, replays, registers, assigns, same⟩
    rw [bound.present] at presented
    cases presented
    have enrolls := (replays rfl).2
    rw [bound.enrolls, Option.some.injEq] at enrolls
    exact ⟨enrolls.symm, passes.2, same, result, registered, registers, assigns⟩
  · rintro ⟨sameGateway, unexpired, same, result, registered, registers, assigns⟩
    refine ⟨enrollment, true, database, result, registered, bound.present _ _, ⟨bound.unrevoked, unexpired⟩, ?_,
      registers, assigns, same⟩
    intro _
    rw [sameGateway]
    exact ⟨bound.consumed, bound.enrolls⟩

/-! ## What a retry does to the credential -/

def HeldElsewhere (database : Database) (gatewayId : String) (credentialHash : Hash) : Prop :=
  ∃ row ∈ database.agentGatewayCredentials, row.gatewayId ≠ gatewayId ∧ row.credentialHash = credentialHash

def Holds (database : Database) (gatewayId : String) (credentialHash : Hash) : Prop :=
  ∃ row ∈ database.agentGatewayCredentials,
    row.gatewayId = gatewayId ∧ row.credentialHash = credentialHash ∧ row.revokedAt = none

section

variable {credentialPrefix ownerUserId : String} {credentialHash : Hash}

theorem clash_credential {first second : AgentGatewayCredential} : clash first second = true ↔
    first.gatewayId = second.gatewayId ∨ first.credentialHash = second.credentialHash := by
  simp [clash, Keyed.conflicts, Keyed.key]

theorem replace_isSome (registered : credential ∈ database.agentGatewayCredentials) (identifies : credential.gatewayId = gatewayId) :
    (database.agentGatewayCredentials.update? (fun row => row.gatewayId == gatewayId)
      (AgentGatewayCredential.replace credentialPrefix credentialHash)).isSome = true ↔ ¬HeldElsewhere database gatewayId credentialHash := by
  rw [Rows.update?_isSome]
  constructor
  · rintro free ⟨row, mem, elsewhere, same⟩
    have different : credential ≠ row := fun alike => elsewhere (alike ▸ identifies)
    have apart := free credential registered row mem different
    rw [Rows.updated, Rows.updated, if_pos (by simp [identifies]), if_neg (by simp [elsewhere])] at apart
    have clashes := clash_credential.mpr (.inr (show (credential.replace credentialPrefix credentialHash).credentialHash =
      row.credentialHash from same.symm))
    rw [apart] at clashes
    contradiction
  · intro free first mem second stored different
    have apart : ¬(first.gatewayId = second.gatewayId ∨ first.credentialHash = second.credentialHash) := by
      rw [← clash_credential]
      exact fun clashes => different (Rows.unique mem stored clashes)
    rw [← Bool.not_eq_true, clash_credential, Rows.updated, Rows.updated]
    simp only [HeldElsewhere, not_exists, not_and] at free
    -- At most one of the two rows is the gateway's, and the other does not hold the new credential.
    have firstFree := free first mem
    have secondFree := free second stored
    grind [AgentGatewayCredential.replace]

theorem Bound.register_settled (bound : Bound database tokenHash gatewayId enrollment credential)
    (settled : credential.revokedAt = none ∧ credential.credentialHash = credentialHash) :
    database.registerEnrolled enrollment.ownerUserId gatewayId credentialPrefix credentialHash =
      .ok (.existing, database) := by
  have found := Database.findCredential.mpr ⟨bound.registered, bound.identifies⟩
  rw [Database.registerEnrolled, found]
  simp only [bound.owned, ne_eq, not_true_eq_false, if_false, settled.1, settled.2, and_self, if_true]

theorem Bound.register_unsettled (bound : Bound database tokenHash gatewayId enrollment credential)
    (unsettled : ¬(credential.revokedAt = none ∧ credential.credentialHash = credentialHash)) :
    (¬HeldElsewhere database gatewayId credentialHash ∧ ∃ result registered,
      database.registerEnrolled enrollment.ownerUserId gatewayId credentialPrefix credentialHash =
        .ok (result, registered) ∧ registered.agentGatewayCredentials ≠ database.agentGatewayCredentials) ∨
    HeldElsewhere database gatewayId credentialHash ∧
      database.registerEnrolled enrollment.ownerUserId gatewayId credentialPrefix credentialHash = .error .database := by
  have found := Database.findCredential.mpr ⟨bound.registered, bound.identifies⟩
  rw [Database.registerEnrolled, found]
  simp only [bound.owned, ne_eq, not_true_eq_false, if_false, unsettled]
  have replaceable : (database.agentGatewayCredentials.update? (fun row => row.gatewayId == gatewayId)
      (AgentGatewayCredential.replace credentialPrefix credentialHash)).isSome = true ↔
        ¬HeldElsewhere database gatewayId credentialHash := replace_isSome bound.registered bound.identifies
  cases changed : database.agentGatewayCredentials.update? (fun row => row.gatewayId == gatewayId)
      (AgentGatewayCredential.replace credentialPrefix credentialHash) with
  | none =>
    right
    rw [changed] at replaceable
    exact ⟨by simpa using replaceable, rfl⟩
  | some rows =>
    left
    rw [changed] at replaceable
    refine ⟨replaceable.mp rfl, _, _, rfl, ?_⟩
    intro same
    -- The gateway's row is the replaced one, so it was in place already.
    have replacedStored : credential.replace credentialPrefix credentialHash ∈ database.agentGatewayCredentials := by
      rw [← same]
      exact (Rows.mem_update? changed).mpr ⟨credential, bound.registered, if_pos (by simp [bound.identifies])⟩
    have alike := Rows.unique bound.registered replacedStored (clash_credential.mpr (.inl rfl))
    apply unsettled
    rw [alike]
    exact ⟨rfl, rfl⟩

theorem Bound.consume_of_register {result : AgentGatewayRegistration} {registered : Database}
    (bound : Bound database presentation.tokenHash presentation.gatewayId enrollment credential)
    (unexpired : presentation.checked < enrollment.expiresAt)
    (registers : database.registerEnrolled enrollment.ownerUserId presentation.gatewayId presentation.credentialPrefix
      presentation.credentialHash = .ok (result, registered)) :
    ∃ next, presentation.consume database = .ok (.existing, next) ∧
      next.agentGatewayCredentials = registered.agentGatewayCredentials := by
  obtain ⟨rows, same⟩ := Database.registerEnrolled_ok registers
  have deployed : (registered.isPrimary? enrollment.projectId enrollment.deploymentId).isSome = true := by
    rw [same]
    exact bound.deployed
  obtain ⟨next, assigns⟩ : ∃ next, registered.assignEnrolled presentation.now enrollment.projectId
    enrollment.deploymentId presentation.gatewayId = .ok next := Database.assignEnrolled_isOk deployed
  refine ⟨next, bound.consume_ok.mpr ⟨rfl, unexpired, rfl, result, registered, registers, assigns⟩, ?_⟩
  obtain ⟨_, assignments, projects, rfl⟩ := Database.assignEnrolled_ok assigns
  rfl

end

/-! ## Single use -/

/-- What is expected of a presentation after one that succeeded: it fails or repeats it exactly, and the
credentials stay as they are. -/
def SingleUse (first later : Presentation) (database : Database) : Prop :=
  (∀ registration next, later.consume database = .ok (registration, next) →
    later.gatewayId = first.gatewayId ∧ later.credentialHash = first.credentialHash) ∧
  (database.commit (later.consume database)).agentGatewayCredentials = database.agentGatewayCredentials

/-- The presentation is for another gateway, comes too late, brings another gateway's credential, or repeats the
first one while its credential is in place. -/
def Repeats (first later : Presentation) (database : Database) : Prop :=
  later.gatewayId ≠ first.gatewayId ∨
  (∀ row ∈ database.agentGatewayEnrollments, row.tokenHash = later.tokenHash → row.expiresAt ≤ later.checked) ∨
  HeldElsewhere database later.gatewayId later.credentialHash ∨
  later.credentialHash = first.credentialHash ∧ Holds database later.gatewayId later.credentialHash

theorem single_of_refused {first later : Presentation}
    (refused : ∀ registration next, later.consume database ≠ .ok (registration, next)) :
    SingleUse first later database := by
  refine ⟨fun registration next succeeds => (refused registration next succeeds).elim, ?_⟩
  cases outcome : later.consume database with
  | error error => rfl
  | ok result => exact (refused result.1 result.2 outcome).elim

/-- After a presentation that succeeded and any calls, the same token is of single use exactly for the
presentations that repeat the first one. -/
theorem enrollment_single_use (database consumed : Database) (first later : Presentation)
    (registration : AgentGatewayRegistration) (calls : List EnrollmentCall)
    (succeeds : first.consume database = .ok (registration, consumed)) (sameToken : later.tokenHash = first.tokenHash) :
    SingleUse first later (afterCalls consumed calls) ↔ Repeats first later (afterCalls consumed calls) := by
  obtain ⟨enrollment, initial, boundFirst⟩ := bound_of_consume succeeds
  obtain ⟨credential, bound⟩ := boundFirst.afterCalls calls
  generalize afterCalls consumed calls = before at bound ⊢
  rw [← sameToken] at bound
  have deadline : (∀ row ∈ before.agentGatewayEnrollments, row.tokenHash = later.tokenHash →
      row.expiresAt ≤ later.checked) ↔ ¬later.checked < enrollment.expiresAt := by
    rw [not_lt]
    constructor
    · intro expired
      exact expired enrollment bound.stored bound.presents
    · intro expired row member presents
      have same : row = enrollment :=
        Rows.unique member bound.stored (by simp [clash, Keyed.conflicts, Keyed.key, presents, bound.presents])
      rw [same]
      exact expired
  have holds : Holds before first.gatewayId later.credentialHash ↔
      credential.revokedAt = none ∧ credential.credentialHash = later.credentialHash := by
    constructor
    · rintro ⟨row, member, isGateway, hashed, unrevoked⟩
      have same : row = credential :=
        Rows.unique member bound.registered (clash_credential.mpr (.inl (isGateway.trans bound.identifies.symm)))
      rw [← same]
      exact ⟨unrevoked, hashed⟩
    · intro settled
      exact ⟨credential, bound.registered, bound.identifies, settled.2, settled.1⟩
  rw [Repeats, deadline]
  by_cases admitted : later.gatewayId = first.gatewayId ∧ later.checked < enrollment.expiresAt
  · -- The retry gets as far as the credential.
    obtain ⟨sameGateway, unexpired⟩ := admitted
    rw [← sameGateway] at bound holds
    by_cases settled : credential.revokedAt = none ∧ credential.credentialHash = later.credentialHash
    · obtain ⟨next, succeeds, kept⟩ := bound.consume_of_register unexpired (bound.register_settled settled)
      have free : ¬HeldElsewhere before later.gatewayId later.credentialHash := by
        rintro ⟨row, member, elsewhere, hashed⟩
        have same : row = credential :=
          Rows.unique member bound.registered (clash_credential.mpr (.inr (hashed.trans settled.2.symm)))
        exact elsewhere (same ▸ bound.identifies)
      have single : SingleUse first later before ↔ later.credentialHash = first.credentialHash := by
        simp [SingleUse, succeeds, Database.commit, kept, sameGateway]
      have inPlace := holds.mpr settled
      tauto
    · cases bound.register_unsettled settled with
      | inl replaced =>
        obtain ⟨free, result, registered, registers, changed⟩ := replaced
        obtain ⟨next, succeeds, stored⟩ := bound.consume_of_register unexpired registers
        have notSingle : ¬SingleUse first later before := by
          intro single
          have kept := single.2
          rw [succeeds, Database.commit, stored] at kept
          exact changed kept
        tauto
      | inr held =>
        obtain ⟨heldElsewhere, fails⟩ := held
        apply iff_of_true _ (.inr (.inr (.inl heldElsewhere)))
        apply single_of_refused
        intro registration next succeeds
        obtain ⟨_, _, _, result, registered, registers, _⟩ := bound.consume_ok.mp succeeds
        rw [fails] at registers
        contradiction
  · -- The token check refuses it.
    have single : SingleUse first later before := by
      apply single_of_refused
      intro registration next succeeds
      obtain ⟨sameGateway, unexpired, _⟩ := bound.consume_ok.mp succeeds
      exact admitted ⟨sameGateway, unexpired⟩
    apply iff_of_true single
    by_cases sameGateway : later.gatewayId = first.gatewayId
    · exact .inr (.inl fun unexpired => admitted ⟨sameGateway, unexpired⟩)
    · exact .inl sameGateway

def townProject : Uuid := ⟨"0190f2c4-7b1e-7c3a-9d52-1f6a0e8b4e01", by decide⟩

def townDeployment : Uuid := ⟨"0190f2c4-7b1e-7c3a-9d52-1f6a0e8b4e02", by decide⟩

def townEnrollment : Uuid := ⟨"0190f2c4-7b1e-7c3a-9d52-1f6a0e8b4e03", by decide⟩

def enrollingTown : Database where
  __ := Database.empty
  projects := .singleton
    ⟨townProject, "vifu_app_town", some "user-123", "remote-project", "Remote project", none, "", true, 0⟩
  runtimeDeployments := .singleton ⟨townDeployment, townProject, "development", true, true, .summary, false, 0⟩
  agentGatewayEnrollments := .singleton
    ⟨townEnrollment, townProject, townDeployment, "user-123", [1], 300, none, none, none⟩

def townPresentation : Presentation where
  now := 1
  checked := 1
  tokenHash := [1]
  gatewayId := "gateway-remote"
  credentialPrefix := "vifu_gw_remote"
  credentialHash := [2]

def enrolledTown : Database := enrollingTown.commit (townPresentation.consume enrollingTown)

theorem enrollment_single_use_town : townPresentation.consume enrollingTown = .ok (.registered, enrolledTown) ∧
    SingleUse townPresentation townPresentation (afterCalls enrolledTown []) := by
  have presented : townPresentation.consume enrollingTown = .ok (.registered, enrolledTown) := by decide +kernel
  have repeats : Repeats townPresentation townPresentation (afterCalls enrolledTown []) := by
    refine .inr (.inr (.inr ⟨rfl, ?_⟩))
    unfold Holds
    decide +kernel
  exact ⟨presented, (enrollment_single_use _ _ _ _ _ [] presented rfl).mpr repeats⟩

/-- The exact retry revives a credential that was revoked in between. -/
theorem retry_revives_credential : ¬∀ (database consumed : Database) (first later : Presentation)
    (registration : AgentGatewayRegistration) (calls : List EnrollmentCall),
    first.consume database = .ok (registration, consumed) → later.tokenHash = first.tokenHash →
      SingleUse first later (afterCalls consumed calls) := by
  intro single
  have presented : townPresentation.consume enrollingTown = .ok (.registered, enrolledTown) := by decide +kernel
  have kept := (single _ _ _ townPresentation _ [.revokeCredential 2 "gateway-remote"] presented rfl).2
  revert kept
  decide +kernel

end Vifu.Server
