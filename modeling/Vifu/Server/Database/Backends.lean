import Vifu.Foundation.Lockstep
import Vifu.Server.Database.Distributions
import Vifu.Server.Database.SingleUse

/-!
# The two backends on distributions

The same calls are given to the SQLite and to the Postgres functions.  They agree while a machine that
registers again is still assigned, and neither registers more machines than a distribution allows.
-/

namespace Vifu.Server

open Foundation
open Vifu.Gateway

inductive Backend where
  | sqlite
  | postgres

def Backend.authorize : Backend → Database → ℕ → String → String → String →
    Except ApiError (RuntimeDistributionGatewayAssignment × Database)
  | sqlite => Database.Sqlite.authorizeRuntimeDistributionGateway
  | postgres => Database.Postgres.authorizeRuntimeDistributionGateway

inductive DistributionCall where
  | create (input : NewRuntimeDistribution)
  | authorize (now : ℕ) (publicId machineId suggestedGatewayId : String)
  | unassign (projectId deploymentId : Uuid) (gatewayId : String)
  | revoke (now : ℕ) (projectId distributionId : Uuid)

inductive DistributionAnswer where
  | distribution (row : RuntimeDistribution)
  | assignment (assignment : RuntimeDistributionGatewayAssignment)
  | unassigned
  deriving DecidableEq

def answer {α : Type} (database : Database) (wrap : α → DistributionAnswer) (outcome : Except ApiError (α × Database)) :
    Except ApiError DistributionAnswer × Database :=
  (outcome.map fun result => wrap result.1, database.commit outcome)

def Backend.perform (backend : Backend) (database : Database) : DistributionCall → Except ApiError DistributionAnswer × Database
  | .create input => answer database .distribution (database.createRuntimeDistribution input)
  | .authorize now publicId machineId suggestedGatewayId =>
    answer database .assignment (backend.authorize database now publicId machineId suggestedGatewayId)
  | .unassign projectId deploymentId gatewayId =>
    answer database (fun _ => .unassigned) (database.unassignRuntimeDeploymentGateway projectId deploymentId gatewayId)
  | .revoke now projectId distributionId =>
    answer database .distribution (database.revokeRuntimeDistribution now projectId distributionId)

/-- The answer to a call together with the database that a reader finds after it. -/
def Backend.serve (backend : Backend) (database : Database) (call : DistributionCall) :
    (Except ApiError DistributionAnswer × Database) × Database :=
  let performed := backend.perform database call
  (performed, performed.2)

def SameOutcome (first second : Except ApiError DistributionAnswer × Database) : Prop :=
  first.1.toOption = second.1.toOption ∧
    ∀ deploymentId gatewayId, first.2.assigned deploymentId gatewayId = second.2.assigned deploymentId gatewayId

/-- A machine that is registered already has its gateway assigned to the distribution's deployment. -/
def StillAssigned (database : Database) : DistributionCall → Prop
  | .authorize _ publicId machineId _ =>
    ∀ found, database.activeDistribution publicId = some found →
      ∀ registration, database.registrationOf found.1.id machineId = some registration →
        database.assigned found.1.deploymentId registration.gatewayId = true
  | _ => True

/-! ## One registration on both backends -/

variable {rows : Rows RuntimeDistributionGateway} {row : RuntimeDistributionGateway} {call : DistributionCall}
  {database : Database}

section

variable {now : ℕ} {publicId machineId suggestedGatewayId gatewayId : String}
  {distribution : RuntimeDistribution} {project : Project} {registration : RuntimeDistributionGateway}

section

variable (active : database.activeDistribution publicId = some (distribution, project))
  (known : database.registrationOf distribution.id machineId = some registration)
include active known

theorem sqlite_known :
    Database.Sqlite.authorizeRuntimeDistributionGateway database now publicId machineId suggestedGatewayId =
      (database.assignGateway now distribution.deploymentId registration.gatewayId).map fun assigned =>
        (⟨registration.gatewayId, project.ownerUserId⟩, assigned) := by
  have unchanged : database.registerMachine distribution machineId suggestedGatewayId = .ok database := by
    rw [Database.registerMachine]
    simp [known]
  simp only [Database.Sqlite.authorizeRuntimeDistributionGateway, active, okOr]
  show (database.registerMachine distribution machineId suggestedGatewayId >>= _) = _
  rw [unchanged]
  show (okOr _ (database.registrationOf distribution.id machineId) >>= _) = _
  rw [known]
  show (database.assignGateway now distribution.deploymentId registration.gatewayId >>= _) = _
  cases database.assignGateway now distribution.deploymentId registration.gatewayId with
  | error error => rfl
  | ok assigned => rfl

theorem postgres_known :
    Database.Postgres.authorizeRuntimeDistributionGateway database now publicId machineId suggestedGatewayId =
      .ok (⟨registration.gatewayId, project.ownerUserId⟩, database) := by
  simp only [Database.Postgres.authorizeRuntimeDistributionGateway, active, okOr, ok_bind, known]
  rfl

end

theorem clash_registration {first second : RuntimeDistributionGateway} : clash first second = true ↔
    (first.distributionId = second.distributionId ∧ first.machineId = second.machineId) ∨
      first.gatewayId = second.gatewayId := by
  simp [clash, Keyed.conflicts, Keyed.key]

theorem registrationOf_inserted (inserted : database.runtimeDistributionGateways.insert? row = some rows) :
    { database with runtimeDistributionGateways := rows }.registrationOf row.distributionId row.machineId = some row := by
  rw [Database.registrationOf, Rows.find?_eq_some]
  · exact ⟨(Rows.mem_insert? inserted).mpr (.inr rfl), by simp⟩
  · intro other _ alike
    simp only [Bool.and_eq_true, beq_iff_eq] at alike
    exact clash_registration.mpr (.inl ⟨alike.1.symm, alike.2.symm⟩)

theorem backends_agree_unknown (active : database.activeDistribution publicId = some (distribution, project))
    (unknown : database.registrationOf distribution.id machineId = none) :
    Database.Sqlite.authorizeRuntimeDistributionGateway database now publicId machineId suggestedGatewayId =
      Database.Postgres.authorizeRuntimeDistributionGateway database now publicId machineId suggestedGatewayId := by
  simp only [Database.Sqlite.authorizeRuntimeDistributionGateway, Database.Postgres.authorizeRuntimeDistributionGateway,
    active, okOr, ok_bind, Database.registerMachine, unknown]
  by_cases room : (database.registered distribution.id : ℤ) < distribution.maxGateways
  · rw [if_pos ⟨room, rfl⟩, ensure, if_pos room]
    cases inserted : database.runtimeDistributionGateways.insert? ⟨distribution.id, machineId, suggestedGatewayId⟩ with
    | none => rfl
    | some rows =>
      simp only [Except.map, ok_bind, registrationOf_inserted inserted]
  · rw [if_neg (fun admitted => room admitted.1), ensure, if_neg room]
    simp only [ok_bind, unknown]
    rfl

theorem backends_agree_inactive (inactive : database.activeDistribution publicId = none) :
    Database.Sqlite.authorizeRuntimeDistributionGateway database now publicId machineId suggestedGatewayId =
      Database.Postgres.authorizeRuntimeDistributionGateway database now publicId machineId suggestedGatewayId := by
  simp only [Database.Sqlite.authorizeRuntimeDistributionGateway, Database.Postgres.authorizeRuntimeDistributionGateway,
    inactive, okOr]
  rfl

end

theorem perform_same (still : StillAssigned database call) :
    Backend.sqlite.perform database call = Backend.postgres.perform database call := by
  cases call with
  | authorize now publicId machineId suggestedGatewayId =>
    suffices same : Backend.sqlite.authorize database now publicId machineId suggestedGatewayId =
        Backend.postgres.authorize database now publicId machineId suggestedGatewayId by
      rw [Backend.perform, Backend.perform, same]
    simp only [Backend.authorize]
    cases active : database.activeDistribution publicId with
    | none => exact backends_agree_inactive active
    | some found =>
      obtain ⟨distribution, project⟩ := found
      cases known : database.registrationOf distribution.id machineId with
      | none => exact backends_agree_unknown active known
      | some registration =>
        have present := still _ active _ known
        rw [sqlite_known active known, postgres_known active known, Database.assignGateway_of_assigned present]
        rfl
  | create input => rfl
  | unassign projectId deploymentId gatewayId => rfl
  | revoke now projectId distributionId => rfl

theorem still_of_sameOutcome
    (same : SameOutcome (Backend.sqlite.perform database call) (Backend.postgres.perform database call)) :
    StillAssigned database call := by
  cases call with
  | authorize now publicId machineId suggestedGatewayId =>
    intro found active registration known
    by_contra absent
    rw [Backend.perform, Backend.perform, Backend.authorize, Backend.authorize, sqlite_known active known,
      postgres_known active known] at same
    cases assigns : database.assignGateway now found.1.deploymentId registration.gatewayId with
    | error error =>
      rw [assigns] at same
      have impossible := same.1
      simp [answer, Except.map, Except.toOption] at impossible
    | ok next =>
      rw [assigns] at same
      have assigned : next.assigned found.1.deploymentId registration.gatewayId = true :=
        ((Database.assignGateway_ok assigns).2 _ _).mpr (.inr ⟨rfl, rfl⟩)
      have alike : next.assigned found.1.deploymentId registration.gatewayId =
        database.assigned found.1.deploymentId registration.gatewayId := same.2 _ _
      exact absent (alike ▸ assigned)
  | create input => trivial
  | unassign projectId deploymentId gatewayId => trivial
  | revoke now projectId distributionId => trivial

theorem sameOutcome_iff (database : Database) (call : DistributionCall) :
    SameOutcome (Backend.sqlite.perform database call) (Backend.postgres.perform database call) ↔
      StillAssigned database call := by
  constructor
  · exact still_of_sameOutcome
  · intro still
    rw [perform_same still]
    exact ⟨rfl, fun _ _ => rfl⟩

/-! ## The limit of a distribution -/

/-- Registrations belong to distributions, and no distribution has more than it allows. -/
structure WithinLimits (database : Database) : Prop where
  belong : ∀ row ∈ database.runtimeDistributionGateways, ∃ distribution ∈ database.runtimeDistributions,
    distribution.id = row.distributionId
  limited : ∀ distribution ∈ database.runtimeDistributions,
    (database.registered distribution.id : ℤ) ≤ distribution.maxGateways

section

variable {next : Database} {now : ℕ} {publicId machineId gatewayId : String}
  {distribution : RuntimeDistribution} {assignment : RuntimeDistributionGatewayAssignment}

theorem registered_insert
    (inserted : database.runtimeDistributionGateways.insert? row = some rows) (distributionId : Uuid) :
    { database with runtimeDistributionGateways := rows }.registered distributionId =
      database.registered distributionId + if row.distributionId = distributionId then 1 else 0 := by
  simp [Database.registered, Rows.count, Rows.rows_of_insert? inserted, List.countP_append, List.countP_cons]

theorem WithinLimits.insert (within : WithinLimits database) (stored : distribution ∈ database.runtimeDistributions)
    (room : (database.registered distribution.id : ℤ) < distribution.maxGateways)
    (inserted : database.runtimeDistributionGateways.insert? ⟨distribution.id, machineId, gatewayId⟩ = some rows) :
    WithinLimits { database with runtimeDistributionGateways := rows } where
  belong := by
    intro row mem
    cases (Rows.mem_insert? inserted).mp mem with
    | inl earlier => exact within.belong row earlier
    | inr isNew => exact ⟨distribution, stored, by rw [isNew]⟩
  limited := by
    intro other mem
    rw [registered_insert inserted]
    split
    next same =>
      have isOther : distribution = other :=
        Rows.unique stored mem (by simpa [clash, Keyed.conflicts, Keyed.key] using .inl same)
      rw [← isOther]
      omega
    next =>
      have limited := within.limited other mem
      omega

theorem WithinLimits.assign (within : WithinLimits database) {deploymentId : Uuid}
    (assigned : database.assignGateway now deploymentId gatewayId = .ok next) : WithinLimits next := by
  obtain ⟨⟨rows, rfl⟩, _⟩ := Database.assignGateway_ok assigned
  exact ⟨within.belong, within.limited⟩

theorem mem_of_activeDistribution {found : RuntimeDistribution × Project}
    (active : database.activeDistribution publicId = some found) : found.1 ∈ database.runtimeDistributions := by
  obtain ⟨distribution, isDistribution, rest⟩ := Option.bind_eq_some_iff.mp active
  obtain ⟨project, _, same⟩ := Option.bind_eq_some_iff.mp rest
  cases same
  exact (Rows.mem_of_find? isDistribution).1

section

variable (within : WithinLimits database)
include within

theorem WithinLimits.registerMachine (stored : distribution ∈ database.runtimeDistributions)
    (registers : database.registerMachine distribution machineId gatewayId = .ok next) : WithinLimits next := by
  rw [Database.registerMachine] at registers
  split at registers
  next admitted =>
    obtain ⟨rows, inserted, rfl⟩ := map_ok.mp registers
    rw [okOr_ok] at inserted
    exact within.insert stored admitted.1 inserted
  next =>
    cases registers
    exact within

theorem WithinLimits.sqlite
    (authorized : Database.Sqlite.authorizeRuntimeDistributionGateway database now publicId machineId gatewayId =
      .ok (assignment, next)) : WithinLimits next := by
  obtain ⟨found, active, rest⟩ := bind_ok.mp authorized
  obtain ⟨registered, registers, rest⟩ := bind_ok.mp rest
  obtain ⟨registration, _, rest⟩ := bind_ok.mp rest
  obtain ⟨assigned, assigns, same⟩ := bind_ok.mp rest
  cases same
  rw [okOr_ok] at active
  exact (within.registerMachine (mem_of_activeDistribution active) registers).assign assigns

theorem WithinLimits.postgres
    (authorized : Database.Postgres.authorizeRuntimeDistributionGateway database now publicId machineId gatewayId =
      .ok (assignment, next)) : WithinLimits next := by
  obtain ⟨found, active, rest⟩ := bind_ok.mp authorized
  dsimp only at rest
  split at rest
  next =>
    cases rest
    exact within
  next =>
    obtain ⟨room, rest⟩ := check_bind_ok.mp rest
    obtain ⟨rows, inserted, rest⟩ := bind_ok.mp rest
    obtain ⟨assigned, assigns, same⟩ := bind_ok.mp rest
    cases same
    rw [okOr_ok] at active inserted
    exact (within.insert (mem_of_activeDistribution active) (ensure_ok.mp room) inserted).assign assigns

theorem WithinLimits.create {input : NewRuntimeDistribution} {created : RuntimeDistribution}
    (creates : database.createRuntimeDistribution input = .ok (created, next)) : WithinLimits next := by
  rw [Database.createRuntimeDistribution] at creates
  split at creates
  next positive =>
    obtain ⟨rows, inserted, rest⟩ := bind_ok.mp creates
    obtain ⟨_, same⟩ := check_bind_ok.mp rest
    cases same
    rw [okOr_ok] at inserted
    have stored (row : RuntimeDistribution) : row ∈ rows ↔ _ := Rows.mem_insert? inserted
    refine ⟨?_, ?_⟩
    · intro row mem
      obtain ⟨distribution, isStored, same⟩ := within.belong row mem
      exact ⟨distribution, (stored distribution).mpr (.inl isStored), same⟩
    · intro distribution mem
      cases (stored distribution).mp mem with
      | inl earlier => exact within.limited distribution earlier
      | inr isNew =>
        -- No machine can be registered for a distribution that was not there.
        have free := Rows.insert?_isSome.mp (by rw [inserted]; rfl)
        have none : database.registered input.id = 0 := by
          rw [Database.registered, Rows.count, List.countP_eq_zero]
          intro row isStored same
          obtain ⟨other, isOther, belongs⟩ := within.belong row isStored
          have apart := free other isOther
          simp [clash, Keyed.conflicts, Keyed.key, belongs, same] at apart
        rw [isNew]
        show (database.registered input.id : ℤ) ≤ input.maxGateways
        rw [none]
        exact positive.le
  next => contradiction

theorem WithinLimits.unassign {projectId deploymentId : Uuid}
    (unassigns : database.unassignRuntimeDeploymentGateway projectId deploymentId gatewayId = .ok ((), next)) :
    WithinLimits next := by
  rw [Database.unassignRuntimeDeploymentGateway] at unassigns
  split at unassigns
  next =>
    cases unassigns
    exact ⟨within.belong, within.limited⟩
  next => contradiction

theorem WithinLimits.revoke {projectId distributionId : Uuid} {revoked : RuntimeDistribution}
    (revokes : database.revokeRuntimeDistribution now projectId distributionId = .ok (revoked, next)) :
    WithinLimits next := by
  obtain ⟨row, _, same⟩ := map_ok.mp revokes
  cases same
  refine ⟨?_, ?_⟩
  · intro registration mem
    obtain ⟨distribution, stored, same⟩ := within.belong registration mem
    by_cases named : (distribution.id == distributionId && distribution.projectId == projectId) = true
    · refine ⟨distribution.revoke now, ?_, same⟩
      dsimp only
      exact Rows.set_mem_update stored named
    · refine ⟨distribution, ?_, same⟩
      dsimp only
      exact Rows.mem_update_of_not stored named
  · intro distribution mem
    dsimp only at mem
    obtain ⟨earlier, stored, same⟩ := Rows.mem_update.mp mem
    have limited := within.limited earlier stored
    rw [← same, Rows.updated]
    split
    · exact limited
    · exact limited

theorem WithinLimits.perform (backend : Backend) (call : DistributionCall) :
    WithinLimits (backend.perform database call).2 := by
  cases call with
  | create input =>
    show WithinLimits (database.commit (database.createRuntimeDistribution input))
    cases outcome : database.createRuntimeDistribution input with
    | error error => exact within
    | ok result => exact within.create outcome
  | authorize now publicId machineId suggestedGatewayId =>
    show WithinLimits (database.commit (backend.authorize database now publicId machineId suggestedGatewayId))
    cases outcome : backend.authorize database now publicId machineId suggestedGatewayId with
    | error error => exact within
    | ok result =>
      cases backend with
      | sqlite => exact within.sqlite outcome
      | postgres => exact within.postgres outcome
  | unassign projectId deploymentId gatewayId =>
    show WithinLimits (database.commit (database.unassignRuntimeDeploymentGateway projectId deploymentId gatewayId))
    cases outcome : database.unassignRuntimeDeploymentGateway projectId deploymentId gatewayId with
    | error error => exact within
    | ok result => exact within.unassign outcome
  | revoke now projectId distributionId =>
    show WithinLimits (database.commit (database.revokeRuntimeDistribution now projectId distributionId))
    cases outcome : database.revokeRuntimeDistribution now projectId distributionId with
    | error error => exact within
    | ok result => exact within.revoke outcome

end

end

/-- On every sequence of calls both backends keep the limits, and they give the same outcomes exactly when each
registered machine that registers again is still assigned. -/
theorem backends_agree (database : Database) (calls : List DistributionCall) :
    (WithinLimits database → ∀ backend : Backend, ∀ reply ∈ replies backend.serve database calls, WithinLimits reply.2) ∧
      (List.Forall₂ SameOutcome (replies Backend.sqlite.serve database calls)
          (replies Backend.postgres.serve database calls) ↔
        Admitted Backend.sqlite.serve StillAssigned database calls) := by
  constructor
  · intro within backend
    have kept (state : Database) (call : DistributionCall) (within : WithinLimits state) :
        WithinLimits (backend.serve state call).1.2 ∧ WithinLimits (backend.serve state call).2 :=
      ⟨within.perform backend call, within.perform backend call⟩
    exact forall_replies kept within
  · apply replies_agree_iff
    · exact sameOutcome_iff
    · intro state call still
      have same := congrArg Prod.snd (perform_same still)
      exact same

def townDistribution : Uuid := ⟨"0190f2c4-7b1e-7c3a-9d52-1f6a0e8b4e04", by decide⟩

/-- A project whose primary deployment has a distribution for two machines. -/
def distributingTown : Database where
  __ := enrollingTown
  runtimeDistributions := .singleton
    ⟨townDistribution, townProject, townDeployment, "App registration", "vifu_app_town", .active, 2, by decide, none⟩

/-- Two machines register, the first one twice, and a third finds no room. -/
def registrations : List DistributionCall :=
  [.authorize 1 "vifu_app_town" "machine-one" "gateway-one", .authorize 2 "vifu_app_town" "machine-two" "gateway-two",
    .authorize 3 "vifu_app_town" "machine-one" "gateway-three", .authorize 4 "vifu_app_town" "machine-three" "gateway-three"]

theorem distributingTown_within : WithinLimits distributingTown where
  belong := by decide +kernel
  limited := by decide +kernel

instance (database : Database) : ∀ call, Decidable (StillAssigned database call)
  | .authorize _ _ _ _ => inferInstanceAs (Decidable (∀ _, _ → ∀ _, _ → _))
  | .create _ => .isTrue trivial
  | .unassign _ _ _ => .isTrue trivial
  | .revoke _ _ _ => .isTrue trivial

theorem backends_agree_town :
    (∀ reply ∈ replies Backend.sqlite.serve distributingTown registrations, WithinLimits reply.2) ∧
      List.Forall₂ SameOutcome (replies Backend.sqlite.serve distributingTown registrations)
        (replies Backend.postgres.serve distributingTown registrations) := by
  obtain ⟨limits, agree⟩ := backends_agree distributingTown registrations
  exact ⟨limits distributingTown_within .sqlite, agree.mpr (by decide +kernel)⟩

/-- After its gateway was unassigned, a known machine is assigned again by SQLite and not by Postgres. -/
theorem backends_differ_after_unassign : ¬∀ (database : Database) (calls : List DistributionCall),
    WithinLimits database → List.Forall₂ SameOutcome (replies Backend.sqlite.serve database calls)
      (replies Backend.postgres.serve database calls) := by
  intro agree
  have outcomes := agree distributingTown
    [.authorize 1 "vifu_app_town" "machine-one" "gateway-one", .unassign townProject townDeployment "gateway-one",
      .authorize 2 "vifu_app_town" "machine-one" "gateway-one"] distributingTown_within
  simp only [replies, List.forall₂_cons] at outcomes
  have assigned := outcomes.2.2.1.2 townDeployment "gateway-one"
  revert assigned
  decide +kernel

end Vifu.Server
