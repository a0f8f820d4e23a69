import Vifu.Foundation.Machine
import Vifu.Server.Database.Deployments
import Vifu.Server.Database.Backends

/-!
# Assignments stay consistent

A project has one primary deployment, a gateway belongs to at most one deployment of a project, and the
gateway that the project names is one of its primary deployment.  Some functions write the assignments,
some the project's own column and some both; the lemmas say what each part of a function keeps.
-/

namespace Vifu.Server

open Foundation
open Vifu.Gateway

def Names (database : Database) (project : Project) : Prop :=
  project.gatewayId = "" ∨ ∃ deployment ∈ database.runtimeDeployments, deployment.projectId = project.id ∧
    deployment.isPrimary = true ∧ database.assigned deployment.id project.gatewayId = true

structure Consistent (database : Database) : Prop where
  onePrimary : ∀ project ∈ database.projects, ∃! deployment, deployment ∈ database.runtimeDeployments ∧
    deployment.projectId = project.id ∧ deployment.isPrimary = true
  oneDeployment : ∀ first ∈ database.runtimeDeployments, ∀ second ∈ database.runtimeDeployments,
    first.projectId = second.projectId → ∀ gatewayId, database.assigned first.id gatewayId = true →
      database.assigned second.id gatewayId = true → first = second
  named : ∀ project ∈ database.projects, Names database project

/-- The same with the foreign keys, but for the gateway that one project names. -/
structure SoundBut (spared : Option Uuid) (database : Database) : Prop where
  primary : ∀ project ∈ database.projects, ∃ deployment ∈ database.runtimeDeployments,
    deployment.projectId = project.id ∧ deployment.isPrimary = true
  oneDeployment : ∀ first ∈ database.runtimeDeployments, ∀ second ∈ database.runtimeDeployments,
    first.projectId = second.projectId → ∀ gatewayId, database.assigned first.id gatewayId = true →
      database.assigned second.id gatewayId = true → first = second
  named : ∀ project ∈ database.projects, some project.id ≠ spared → Names database project
  owned : ∀ deployment ∈ database.runtimeDeployments, ∃ project ∈ database.projects, project.id = deployment.projectId
  placed : ∀ deploymentId gatewayId, database.assigned deploymentId gatewayId = true →
    database.hasDeployment deploymentId = true
  enrolled : ∀ enrollment ∈ database.agentGatewayEnrollments,
    database.deploymentOf enrollment.projectId enrollment.deploymentId = true

abbrev Sound : Database → Prop := SoundBut none

variable {isPrimary : Bool} {p : Project → Bool}

section

variable {database next : Database} {first second deployment : RuntimeDeployment} {spared : Option Uuid}
  {projectId deploymentId : Uuid} {gatewayId : String} {now : ℕ}

theorem clash_deployment : clash first second = true ↔ first.id = second.id ∨
    first.projectId = second.projectId ∧
      (first.name = second.name ∨ first.isPrimary = true ∧ second.isPrimary = true) := by
  simp [clash, Keyed.conflicts, Keyed.key]

theorem deployment_unique (mem : first ∈ database.runtimeDeployments) (stored : second ∈ database.runtimeDeployments)
    (same : first.id = second.id) : first = second :=
  Rows.unique mem stored (clash_deployment.mpr (.inl same))

theorem primary_unique (mem : first ∈ database.runtimeDeployments) (stored : second ∈ database.runtimeDeployments)
    (same : first.projectId = second.projectId) (isPrimary : first.isPrimary = true) (alsoPrimary : second.isPrimary = true) :
    first = second :=
  Rows.unique mem stored (clash_deployment.mpr (.inr ⟨same, .inr ⟨isPrimary, alsoPrimary⟩⟩))

theorem projectId_of_deploymentOf (isOf : database.deploymentOf projectId deploymentId = true)
    (stored : deployment ∈ database.runtimeDeployments) (same : deployment.id = deploymentId) :
    deployment.projectId = projectId := by
  obtain ⟨row, mem, isRow, isProject⟩ := Database.deploymentOf_iff.mp isOf
  rw [deployment_unique stored mem (same.trans isRow.symm)]
  exact isProject

theorem isPrimary?_eq_some : database.isPrimary? projectId deploymentId = some isPrimary ↔
    ∃ row ∈ database.runtimeDeployments, row.id = deploymentId ∧ row.projectId = projectId ∧ row.isPrimary = isPrimary := by
  rw [Database.isPrimary?, Option.map_eq_some_iff]
  apply exists_congr
  intro row
  have keyed : ∀ other : RuntimeDeployment, (row.id == deploymentId && row.projectId == projectId) = true →
      (other.id == deploymentId && other.projectId == projectId) = true → clash row other = true := by
    intro other named alike
    simp only [Bool.and_eq_true, beq_iff_eq] at named alike
    exact clash_deployment.mpr (.inl (named.1.trans alike.1.symm))
  rw [Rows.find?_eq_some keyed, Bool.and_eq_true, beq_iff_eq, beq_iff_eq]
  tauto

/-! ## What each part keeps -/

theorem SoundBut.spare (sound : Sound database) (projectId : Uuid) : SoundBut (some projectId) database :=
  { sound with named := fun project mem _ => sound.named project mem (Option.some_ne_none _) }

theorem SoundBut.close (sound : SoundBut (some projectId) database)
    (names : ∀ project ∈ database.projects, project.id = projectId → Names database project) : Sound database := by
  refine { sound with named := ?_ }
  intro project mem _
  by_cases spared : project.id = projectId
  · exact names project mem spared
  · exact sound.named project mem (by simpa using spared)

theorem Sound.consistent (sound : Sound database) : Consistent database where
  onePrimary := by
    intro project mem
    obtain ⟨deployment, stored, isOf, isPrimary⟩ := sound.primary project mem
    refine ⟨deployment, ⟨stored, isOf, isPrimary⟩, ?_⟩
    rintro other ⟨isOther, alsoOf, alsoPrimary⟩
    exact primary_unique isOther stored (alsoOf.trans isOf.symm) alsoPrimary isPrimary
  oneDeployment := sound.oneDeployment
  named := fun project mem => sound.named project mem (Option.some_ne_none _)

theorem SoundBut.reassign (sound : SoundBut spared database) (deployments : next.runtimeDeployments = database.runtimeDeployments)
    (projects : next.projects = database.projects) (enrolled : ∀ enrollment ∈ next.agentGatewayEnrollments,
      database.deploymentOf enrollment.projectId enrollment.deploymentId = true)
    (placed : ∀ deploymentId gatewayId, next.assigned deploymentId gatewayId = true →
      database.hasDeployment deploymentId = true)
    (others : ∀ deployment ∈ database.runtimeDeployments, some deployment.projectId ≠ spared → ∀ gatewayId,
      database.assigned deployment.id gatewayId = true → next.assigned deployment.id gatewayId = true)
    (oneDeployment : ∀ first ∈ database.runtimeDeployments, ∀ second ∈ database.runtimeDeployments,
      first.projectId = second.projectId → ∀ gatewayId, next.assigned first.id gatewayId = true →
        next.assigned second.id gatewayId = true → first = second) : SoundBut spared next where
  primary := by
    rw [deployments, projects]
    exact sound.primary
  oneDeployment := by
    rw [deployments]
    exact oneDeployment
  named := by
    intro project mem different
    rw [projects] at mem
    cases sound.named project mem different with
    | inl unnamed => exact .inl unnamed
    | inr names =>
      obtain ⟨deployment, stored, isOf, isPrimary, assigned⟩ := names
      refine .inr ⟨deployment, deployments ▸ stored, isOf, isPrimary, ?_⟩
      exact others deployment stored (isOf ▸ different) _ assigned
  owned := by
    rw [deployments, projects]
    exact sound.owned
  placed := by
    intro deploymentId gatewayId assigned
    rw [Database.hasDeployment, deployments]
    exact placed deploymentId gatewayId assigned
  enrolled := by
    intro enrollment mem
    rw [Database.deploymentOf, deployments]
    exact enrolled enrollment mem

theorem SoundBut.move (sound : SoundBut (some projectId) database) (isOf : database.deploymentOf projectId deploymentId = true)
    (moved : database.moveGateway now projectId deploymentId gatewayId = .ok next) : SoundBut (some projectId) next := by
  obtain ⟨rows, same⟩ := Database.moveGateway_ok moved
  have assigned := (Database.assignGateway_ok moved).2
  simp only [Database.leaveOthers_assigned] at assigned
  have isProject (deployment) (stored : deployment ∈ database.runtimeDeployments) :
      deployment.projectId = projectId → database.deploymentOf projectId deployment.id = true := by
    intro isProject
    exact Database.deploymentOf_iff.mpr ⟨deployment, stored, rfl, isProject⟩
  apply sound.reassign
  · rw [same]
  · rw [same]
  · rw [same]
    exact sound.enrolled
  · intro other gateway present
    cases (assigned other gateway).mp present with
    | inl earlier => exact sound.placed other gateway earlier.1
    | inr moves =>
      obtain ⟨row, mem, isRow, _⟩ := Database.deploymentOf_iff.mp isOf
      exact Database.hasDeployment_iff.mpr ⟨row, mem, isRow.trans moves.1.symm⟩
  · intro deployment stored different gateway earlier
    refine (assigned _ _).mpr (.inl ⟨earlier, ?_⟩)
    rintro ⟨_, _, elsewhere⟩
    rw [projectId_of_deploymentOf elsewhere stored rfl] at different
    exact different rfl
  · intro first mem second stored sameProject gateway firstAssigned secondAssigned
    -- Either neither is the deployment that the gateway moves to, or the other one has been left.
    have firstCases := (assigned _ _).mp firstAssigned
    have secondCases := (assigned _ _).mp secondAssigned
    have earlier := sound.oneDeployment first mem second stored sameProject gateway
    have unique (deployment) (isStored : deployment ∈ database.runtimeDeployments) (isId : deployment.id = deploymentId) :
        deployment.projectId = projectId := projectId_of_deploymentOf isOf isStored isId
    have sameRow := deployment_unique mem stored
    grind

theorem SoundBut.assign (sound : SoundBut spared database)
    (free : ∀ deployment ∈ database.runtimeDeployments, deployment.id = deploymentId →
      ∀ other ∈ database.runtimeDeployments, other.projectId = deployment.projectId → other.id ≠ deploymentId →
        database.assigned other.id gatewayId = false)
    (assigns : database.assignGateway now deploymentId gatewayId = .ok next) : SoundBut spared next := by
  obtain ⟨⟨rows, same⟩, assigned⟩ := Database.assignGateway_ok assigns
  apply sound.reassign
  · rw [same]
  · rw [same]
  · rw [same]
    exact sound.enrolled
  · intro other gateway present
    cases (assigned other gateway).mp present with
    | inl earlier => exact sound.placed other gateway earlier
    | inr isNew =>
      rw [Database.assignGateway] at assigns
      split at assigns
      next stored => exact isNew.1 ▸ sound.placed _ _ stored
      next =>
        split at assigns
        next stored => exact isNew.1 ▸ stored
        next => contradiction
  · intro deployment stored different gateway earlier
    exact (assigned _ _).mpr (.inl earlier)
  · intro first mem second stored sameProject gateway firstAssigned secondAssigned
    have firstCases := (assigned _ _).mp firstAssigned
    have secondCases := (assigned _ _).mp secondAssigned
    have earlier := sound.oneDeployment first mem second stored sameProject gateway
    have sameRow := deployment_unique mem stored
    have firstFree := free first mem
    have secondFree := free second stored
    grind

theorem dropAssignment_assigned {other : Uuid} {gateway : String} :
    (database.dropAssignment deploymentId gatewayId).assigned other gateway = true ↔
      database.assigned other gateway = true ∧ ¬(other = deploymentId ∧ gateway = gatewayId) := by
  simp only [Database.assigned_iff, Database.dropAssignment, Rows.mem_delete]
  grind

section

variable (sound : SoundBut (some projectId) database)
include sound

theorem SoundBut.drop (isOf : database.deploymentOf projectId deploymentId = true) (gatewayId : String) :
    SoundBut (some projectId) (database.dropAssignment deploymentId gatewayId) := by
  apply sound.reassign
  · rfl
  · rfl
  · exact sound.enrolled
  · intro other gateway present
    exact sound.placed other gateway (dropAssignment_assigned.mp present).1
  · intro deployment stored different gateway earlier
    refine dropAssignment_assigned.mpr ⟨earlier, ?_⟩
    rintro ⟨same, _⟩
    rw [projectId_of_deploymentOf isOf stored same] at different
    exact different rfl
  · intro first mem second stored sameProject gateway firstAssigned secondAssigned
    exact sound.oneDeployment first mem second stored sameProject gateway
      (dropAssignment_assigned.mp firstAssigned).1 (dropAssignment_assigned.mp secondAssigned).1

theorem SoundBut.patch {rows : Rows Project}
    {f : Project → Project} (stored : ∀ project, project ∈ rows ↔ ∃ row ∈ database.projects, Rows.updated p f row = project)
    (isProject : ∀ row, p row = true → row.id = projectId) (sameId : ∀ row, (f row).id = row.id) :
    SoundBut (some projectId) { database with projects := rows } := by
  have updatedId (row : Project) : (Rows.updated p f row).id = row.id := by
    rw [Rows.updated]
    split
    · exact sameId row
    · rfl
  refine ⟨?_, sound.oneDeployment, ?_, ?_, sound.placed, sound.enrolled⟩
  · intro project mem
    obtain ⟨earlier, isStored, rfl⟩ := (stored project).mp mem
    rw [updatedId]
    exact sound.primary earlier isStored
  · intro project mem different
    obtain ⟨earlier, isStored, rfl⟩ := (stored project).mp mem
    rw [updatedId] at different
    have unchanged : Rows.updated p f earlier = earlier := if_neg fun passes => different (by rw [isProject _ passes])
    rw [unchanged]
    exact sound.named earlier isStored different
  · intro deployment isStored
    obtain ⟨earlier, mem, isOwner⟩ := sound.owned deployment isStored
    exact ⟨_, (stored _).mpr ⟨earlier, mem, rfl⟩, (updatedId earlier).trans isOwner⟩

theorem SoundBut.name
    (names : gatewayId = "" ∨ ∃ deployment ∈ database.runtimeDeployments, deployment.projectId = projectId ∧
      deployment.isPrimary = true ∧ database.assigned deployment.id gatewayId = true) :
    Sound (database.setProjectGateway projectId gatewayId) := by
  have patched : SoundBut (some projectId) (database.setProjectGateway projectId gatewayId) :=
    sound.patch (fun _ => Rows.mem_update) (fun _ => beq_iff_eq.mp) fun _ => rfl
  apply patched.close
  intro project mem isProject
  obtain ⟨row, stored, rfl⟩ := Database.mem_setProjectGateway.mp mem
  split at isProject
  next same =>
    rw [if_pos same]
    rw [← same] at names
    exact names
  next different => exact (different isProject).elim

end

theorem primaryGateway_names (database : Database) (projectId : Uuid) : database.primaryGateway projectId = "" ∨ ∃ deployment ∈ database.runtimeDeployments,
    deployment.projectId = projectId ∧ deployment.isPrimary = true ∧
      database.assigned deployment.id (database.primaryGateway projectId) = true := by
  by_cases unnamed : database.primaryGateway projectId = ""
  · exact .inl unnamed
  · exact .inr (Database.primaryGateway_assigned unnamed)

theorem SoundBut.rename (sound : SoundBut (some projectId) database)
    (others : ∀ project ∈ database.projects, project.id = projectId → project.gatewayId ≠ gatewayId →
      Names database project) : Sound { database with
      projects := database.projects.update (fun row => row.id == projectId && row.gatewayId == gatewayId)
        (fun row => { row with gatewayId := database.primaryGateway projectId }) fun _ => rfl } := by
  have patched : SoundBut (some projectId) { database with
      projects := database.projects.update (fun row => row.id == projectId && row.gatewayId == gatewayId)
        (fun row => { row with gatewayId := database.primaryGateway projectId }) fun _ => rfl } := by
    apply sound.patch (fun _ => Rows.mem_update)
    · intro row named
      exact beq_iff_eq.mp ((Bool.and_eq_true _ _).mp named).1
    · intro row
      rfl
  apply patched.close
  intro project mem isProject
  dsimp only at mem
  obtain ⟨row, stored, rfl⟩ := Rows.mem_update.mp mem
  rw [Rows.updated] at isProject ⊢
  split at isProject
  next same =>
    rw [if_pos same]
    have names := primaryGateway_names database projectId
    rw [← isProject] at names ⊢
    exact names
  next different =>
    rw [if_neg different]
    apply others row stored isProject
    intro same
    exact different (by simp [isProject, same])

end

/-! ## What each function keeps -/

section

variable {database next : Database} {deployment : RuntimeDeployment} {spared : Option Uuid}
  {projectId deploymentId : Uuid} {gatewayId : String} {now : ℕ}
  {assignment : Database.AgentGatewayEnrollmentAssignment} {tokenHash : Hash}
  {publicId machineId suggestedGatewayId : String} {name : String} {promoted : RuntimeDeployment} {checked : ℕ}
  {patch : ProjectPatch} {id : Uuid}

theorem SoundBut.enroll (sound : SoundBut spared database) {rows : Rows AgentGatewayEnrollment}
    (enrolled : ∀ enrollment ∈ rows, database.deploymentOf enrollment.projectId enrollment.deploymentId = true) :
    SoundBut spared { database with agentGatewayEnrollments := rows } :=
  { sound with
    primary := sound.primary
    oneDeployment := sound.oneDeployment
    named := sound.named
    owned := sound.owned
    placed := sound.placed
    enrolled }

theorem SoundBut.nameProject (sound : SoundBut (some projectId) database)
    (found : database.isPrimary? projectId deploymentId = some isPrimary)
    (assigned : database.assigned deploymentId gatewayId = true) :
    Sound (database.nameProjectGateway projectId gatewayId isPrimary) := by
  rw [Database.nameProjectGateway]
  split
  next primary =>
    rw [primary] at found
    obtain ⟨deployment, stored, isId, isOf, isPrimary⟩ := isPrimary?_eq_some.mp found
    exact sound.name (.inr ⟨deployment, stored, isOf, isPrimary, isId ▸ assigned⟩)
  next =>
    exact sound.name (primaryGateway_names database projectId)

theorem deploymentOf_of_isPrimary? (found : database.isPrimary? projectId deploymentId = some isPrimary) :
    database.deploymentOf projectId deploymentId = true := by
  obtain ⟨deployment, stored, isId, isOf, _⟩ := isPrimary?_eq_some.mp found
  exact Database.deploymentOf_iff.mpr ⟨deployment, stored, isId, isOf⟩

theorem assigned_of_moveGateway (moved : database.moveGateway now projectId deploymentId gatewayId = .ok next) :
    next.assigned deploymentId gatewayId = true :=
  ((Database.assignGateway_ok moved).2 _ _).mpr (.inr ⟨rfl, rfl⟩)

theorem isPrimary?_of_moveGateway (moved : database.moveGateway now projectId deploymentId gatewayId = .ok next)
    (project other : Uuid) : next.isPrimary? project other = database.isPrimary? project other := by
  obtain ⟨rows, rfl⟩ := Database.moveGateway_ok moved
  rfl

theorem Sound.assignGateway (sound : Sound database)
    (assigns : database.assignRuntimeDeploymentGateway now projectId deploymentId gatewayId = .ok ((), next)) : Sound next := by
  obtain ⟨isPrimary, found, rest⟩ := bind_ok.mp assigns
  obtain ⟨moved, moves, same⟩ := bind_ok.mp rest
  cases same
  rw [okOr_ok] at found
  have soundMoved := (sound.spare projectId).move (deploymentOf_of_isPrimary? found) moves
  exact soundMoved.nameProject ((isPrimary?_of_moveGateway moves _ _).trans found) (assigned_of_moveGateway moves)

theorem Sound.unassign (sound : Sound database)
    (careful : database.isPrimary? projectId deploymentId = some true → ∀ project ∈ database.projects,
      project.id = projectId → gatewayId = "" ∨ project.gatewayId ≠ gatewayId)
    (unassigns : database.unassignRuntimeDeploymentGateway projectId deploymentId gatewayId = .ok ((), next)) :
    Sound next := by
  rw [Database.unassignRuntimeDeploymentGateway] at unassigns
  split at unassigns
  next accepted =>
    cases unassigns
    refine ((sound.spare projectId).drop accepted.1 gatewayId).close ?_
    intro project mem isProject
    cases sound.named project mem (Option.some_ne_none _) with
    | inl unnamed => exact .inl unnamed
    | inr names =>
      obtain ⟨deployment, stored, isOf, isPrimary, assigned⟩ := names
      by_cases dropped : deployment.id = deploymentId ∧ project.gatewayId = gatewayId
      · -- This is the gateway of the primary deployment that the project names.
        have found : database.isPrimary? projectId deploymentId = some true :=
          isPrimary?_eq_some.mpr ⟨deployment, stored, dropped.1, isOf.trans isProject, isPrimary⟩
        cases careful found project mem isProject with
        | inl empty => exact .inl (dropped.2.trans empty)
        | inr different => exact (different dropped.2).elim
      · exact .inr ⟨deployment, stored, isOf, isPrimary, dropAssignment_assigned.mpr ⟨assigned, dropped⟩⟩
  next => contradiction

/-! ### Enrollments -/

theorem presentEnrollment_enrolled {enrollment : AgentGatewayEnrollment} {isRetry : Bool}
    (sound : SoundBut spared database)
    (presented : database.presentEnrollment now tokenHash gatewayId = .ok (enrollment, isRetry, next)) :
    SoundBut spared next ∧ next.deploymentOf enrollment.projectId enrollment.deploymentId = true := by
  have claimed : ∃ rows, next = { database with agentGatewayEnrollments := rows } ∧
      ∀ row ∈ rows, database.deploymentOf row.projectId row.deploymentId = true := by
    rw [Database.presentEnrollment] at presented
    split at presented
    next =>
      cases presented
      refine ⟨_, rfl, ?_⟩
      intro row mem
      obtain ⟨earlier, stored, rfl⟩ := Rows.mem_update.mp mem
      rw [Rows.updated]
      split
      · exact sound.enrolled earlier stored
      · exact sound.enrolled earlier stored
    next =>
      obtain ⟨_, _, same⟩ := map_ok.mp presented
      cases same
      exact ⟨_, rfl, sound.enrolled⟩
  obtain ⟨rows, rfl, enrolled⟩ := claimed
  have stored := (Database.presentEnrollment_ok presented).2.1
  exact ⟨sound.enroll enrolled, enrolled enrollment stored⟩

theorem Sound.consumeEnrollment {tokenHash credentialHash : Hash} {credentialPrefix : String}
    {registration : AgentGatewayRegistration} (sound : Sound database)
    (consumes : database.consumeAgentGatewayEnrollment now checked tokenHash gatewayId credentialPrefix credentialHash =
      .ok (registration, next)) : Sound next := by
  obtain ⟨enrollment, isRetry, claimed, result, registered, presented, _, _, registers, assigns, _⟩ :=
    Database.consumeAgentGatewayEnrollment_ok.mp consumes
  obtain ⟨soundClaimed, isOf⟩ := presentEnrollment_enrolled sound presented
  obtain ⟨credentials, rfl⟩ := Database.registerEnrolled_ok registers
  have soundRegistered : Sound { claimed with agentGatewayCredentials := credentials } :=
    ⟨soundClaimed.primary, soundClaimed.oneDeployment, soundClaimed.named, soundClaimed.owned, soundClaimed.placed,
      soundClaimed.enrolled⟩
  obtain ⟨moved, moves, rest⟩ := bind_ok.mp assigns
  obtain ⟨isPrimary, found, same⟩ := bind_ok.mp rest
  cases same
  rw [okOr_ok] at found
  exact ((soundRegistered.spare _).move isOf moves).nameProject found (assigned_of_moveGateway moves)

theorem consumeMachine_ok
    (consumes : database.consumeAgentGatewayMachineEnrollment now checked tokenHash gatewayId = .ok (assignment, next)) :
    ∃ stored ∈ database.agentGatewayEnrollments, stored.accepts now checked tokenHash gatewayId ∧
      ∃ enrollment isRetry claimed moved, database.presentEnrollment now tokenHash gatewayId =
          .ok (enrollment, isRetry, claimed) ∧
        enrollment.projectId = stored.projectId ∧ enrollment.deploymentId = stored.deploymentId ∧
        claimed.moveGateway now stored.projectId stored.deploymentId gatewayId = .ok moved ∧
        next = if moved.isPrimary? stored.projectId stored.deploymentId = some true then
          moved.setProjectGateway stored.projectId gatewayId else moved := by
  obtain ⟨presented, isPresented, rest⟩ := bind_ok.mp consumes
  obtain ⟨enrollment, isRetry, claimed⟩ := presented
  obtain ⟨passes, rest⟩ := check_bind_ok.mp rest
  obtain ⟨moved, moves, same⟩ := bind_ok.mp rest
  cases same
  rw [ensure_ok] at passes
  have presents := isPresented
  rw [Database.presentEnrollment] at isPresented
  split at isPresented
  next stored found =>
    cases isPresented
    obtain ⟨mem, claimable⟩ := Rows.mem_of_find? found
    exact ⟨stored, mem, .inl claimable, _, _, _, moved, presents, rfl, rfl, moves, rfl⟩
  next =>
    obtain ⟨stored, found, same⟩ := map_ok.mp isPresented
    cases same
    rw [okOr_ok] at found
    obtain ⟨mem, hashed⟩ := Rows.mem_of_find? found
    exact ⟨enrollment, mem, .inr ⟨beq_iff_eq.mp hashed, passes rfl⟩, _, _, _, moved, presents, rfl, rfl, moves, rfl⟩

theorem Sound.consumeMachine (sound : Sound database)
    (careful : ∀ enrollment ∈ database.agentGatewayEnrollments, enrollment.accepts now checked tokenHash gatewayId →
      database.isPrimary? enrollment.projectId enrollment.deploymentId = some true ∨
        ∀ project ∈ database.projects, project.id = enrollment.projectId → gatewayId = "" ∨ project.gatewayId ≠ gatewayId)
    (consumes : database.consumeAgentGatewayMachineEnrollment now checked tokenHash gatewayId = .ok (assignment, next)) :
    Sound next := by
  obtain ⟨stored, mem, accepted, enrollment, isRetry, claimed, moved, presented, sameProject, sameDeployment, moves, rfl⟩ :=
    consumeMachine_ok consumes
  obtain ⟨soundClaimed, isOf⟩ := presentEnrollment_enrolled sound presented
  rw [sameProject, sameDeployment] at isOf
  have soundMoved := (soundClaimed.spare stored.projectId).move isOf moves
  obtain ⟨enrollments, rfl⟩ := (Database.presentEnrollment_ok presented).1
  have assigned := (Database.assignGateway_ok moves).2
  simp only [Database.leaveOthers_assigned] at assigned
  split
  next primary =>
    obtain ⟨deployment, isStored, isId, isProject, isPrimary⟩ := isPrimary?_eq_some.mp primary
    exact soundMoved.name (.inr ⟨deployment, isStored, isProject, isPrimary, isId ▸ assigned_of_moveGateway moves⟩)
  next secondary =>
    obtain ⟨rows, rfl⟩ := Database.moveGateway_ok moves
    apply soundMoved.close
    intro project isProject ofProject
    cases careful stored mem accepted with
    | inl primary => exact (secondary primary).elim
    | inr spares =>
      cases sound.named project isProject (Option.some_ne_none _) with
      | inl unnamed => exact .inl unnamed
      | inr names =>
        obtain ⟨deployment, isStored, ofOwner, isPrimary, present⟩ := names
        cases spares project isProject ofProject with
        | inl empty =>
          by_cases same : project.gatewayId = gatewayId
          · exact .inl (same.trans empty)
          · exact .inr ⟨deployment, isStored, ofOwner, isPrimary, (assigned _ _).mpr (.inl ⟨present, fun left => same left.1⟩)⟩
        | inr different =>
          exact .inr ⟨deployment, isStored, ofOwner, isPrimary,
            (assigned _ _).mpr (.inl ⟨present, fun left => different left.1⟩)⟩

theorem Sound.revokeEnrollment {enrollmentId : Uuid} {revoked : Database.RevokedAgentGatewayEnrollment}
    (sound : Sound database)
    (revokes : database.revokeAgentGatewayEnrollment now enrollmentId = .ok (revoked, next)) : Sound next := by
  obtain ⟨enrollment, found, rest⟩ := bind_ok.mp revokes
  rw [okOr_ok] at found
  have isOf := sound.enrolled enrollment (Rows.mem_of_find? found).1
  have soundRevoked : Sound { database with
      agentGatewayEnrollments := database.agentGatewayEnrollments.update (fun row => row.id == enrollmentId)
        (fun row => { row with revokedAt := row.revokedAt <|> some now }) fun _ => rfl } := by
    apply sound.enroll
    intro row mem
    obtain ⟨earlier, stored, rfl⟩ := Rows.mem_update.mp mem
    rw [Rows.updated]
    split
    · exact sound.enrolled earlier stored
    · exact sound.enrolled earlier stored
  split at rest
  next =>
    cases rest
    exact soundRevoked
  next gatewayId _ =>
    cases rest
    have dropped := (soundRevoked.spare enrollment.projectId).drop isOf gatewayId
    apply dropped.rename
    intro project mem isProject different
    cases sound.named project mem (Option.some_ne_none _) with
    | inl unnamed => exact .inl unnamed
    | inr names =>
      obtain ⟨deployment, stored, ofOwner, isPrimary, assigned⟩ := names
      exact .inr ⟨deployment, stored, ofOwner, isPrimary,
        dropAssignment_assigned.mpr ⟨assigned, fun dropped => different dropped.2⟩⟩

theorem Sound.createEnrollment {name ownerUserId : String} {expiresAt : ℕ} (sound : Sound database)
    (creates : database.createRuntimeDeploymentEnrollment now id projectId name ownerUserId tokenHash expiresAt =
      .ok ((), next)) : Sound next := by
  obtain ⟨deployment, found, rest⟩ := bind_ok.mp creates
  obtain ⟨created, inserts, same⟩ := bind_ok.mp rest
  cases same
  obtain ⟨rows, inserted, rest⟩ := bind_ok.mp inserts
  obtain ⟨_, same⟩ := check_bind_ok.mp rest
  cases same
  rw [okOr_ok] at inserted
  rw [Database.getRuntimeDeployment, okOr_ok] at found
  obtain ⟨stored, named⟩ := Rows.mem_of_find? found
  simp only [Bool.and_eq_true, beq_iff_eq] at named
  apply sound.enroll
  intro row mem
  cases (Rows.mem_insert? inserted).mp mem with
  | inl earlier =>
    obtain ⟨revoked, isRevoked, rfl⟩ := Rows.mem_update.mp earlier
    rw [Rows.updated]
    split
    · exact sound.enrolled revoked isRevoked
    · exact sound.enrolled revoked isRevoked
  | inr isNew =>
    rw [isNew]
    exact Database.deploymentOf_iff.mpr ⟨deployment, stored, rfl, named.1⟩

/-! ### Distributions -/

def gatewayFor (database : Database) (distribution : RuntimeDistribution) (machineId suggestedGatewayId : String) : String :=
  ((database.registrationOf distribution.id machineId).map RuntimeDistributionGateway.gatewayId).getD suggestedGatewayId

def Registrable (database : Database) (distribution : RuntimeDistribution) (machineId suggestedGatewayId : String) : Prop :=
  (database.registrationOf distribution.id machineId).isSome = true ∨
    (database.registered distribution.id : ℤ) < distribution.maxGateways ∧
      ∀ row ∈ database.runtimeDistributionGateways, row.gatewayId ≠ suggestedGatewayId

theorem sqlite_authorize_ok {assignment : RuntimeDistributionGatewayAssignment}
    (authorizes : Database.Sqlite.authorizeRuntimeDistributionGateway database now publicId machineId suggestedGatewayId =
      .ok (assignment, next)) : ∃ found, database.activeDistribution publicId = some found ∧
      Registrable database found.1 machineId suggestedGatewayId ∧
      ∃ registrations, { database with runtimeDistributionGateways := registrations }.assignGateway now
        found.1.deploymentId (gatewayFor database found.1 machineId suggestedGatewayId) = .ok next := by
  obtain ⟨found, active, rest⟩ := bind_ok.mp authorizes
  obtain ⟨registered, registers, rest⟩ := bind_ok.mp rest
  obtain ⟨registration, known, rest⟩ := bind_ok.mp rest
  obtain ⟨assigned, assigns, same⟩ := bind_ok.mp rest
  cases same
  rw [okOr_ok] at active known
  refine ⟨found, active, ?_⟩
  rw [Database.registerMachine] at registers
  split at registers
  next admitted =>
    obtain ⟨rows, inserted, rfl⟩ := map_ok.mp registers
    rw [okOr_ok] at inserted
    rw [registrationOf_inserted inserted, Option.some.injEq] at known
    have unknown : database.registrationOf found.1.id machineId = none := Option.isNone_iff_eq_none.mp admitted.2
    refine ⟨.inr ⟨admitted.1, ?_⟩, rows, ?_⟩
    · intro row mem same
      have free := Rows.insert?_isSome.mp (by rw [inserted]; rfl) row mem
      rw [← Bool.not_eq_true, clash_registration] at free
      exact free (.inr same)
    · rw [← known] at assigns
      rw [gatewayFor, unknown]
      exact assigns
  next =>
    cases registers
    refine ⟨.inl (by rw [known]; rfl), database.runtimeDistributionGateways, ?_⟩
    rw [gatewayFor, known]
    exact assigns

theorem Sound.authorize {assignment : RuntimeDistributionGatewayAssignment} (sound : Sound database)
    (careful : ∀ found, database.activeDistribution publicId = some found →
      Registrable database found.1 machineId suggestedGatewayId →
      ∀ deployment ∈ database.runtimeDeployments, deployment.id = found.1.deploymentId →
      ∀ other ∈ database.runtimeDeployments, other.projectId = deployment.projectId → other.id ≠ found.1.deploymentId →
        database.assigned other.id (gatewayFor database found.1 machineId suggestedGatewayId) = false)
    (authorizes : Database.Sqlite.authorizeRuntimeDistributionGateway database now publicId machineId suggestedGatewayId =
      .ok (assignment, next)) : Sound next := by
  obtain ⟨found, active, registrable, registrations, assigns⟩ := sqlite_authorize_ok authorizes
  have soundRegistered : Sound { database with runtimeDistributionGateways := registrations } :=
    ⟨sound.primary, sound.oneDeployment, sound.named, sound.owned, sound.placed, sound.enrolled⟩
  exact soundRegistered.assign (careful found active registrable) assigns

theorem Sound.createDistribution {input : NewRuntimeDistribution} {created : RuntimeDistribution} (sound : Sound database)
    (creates : database.createRuntimeDistribution input = .ok (created, next)) : Sound next := by
  rw [Database.createRuntimeDistribution] at creates
  split at creates
  next =>
    obtain ⟨rows, inserted, rest⟩ := bind_ok.mp creates
    obtain ⟨_, same⟩ := check_bind_ok.mp rest
    cases same
    exact ⟨sound.primary, sound.oneDeployment, sound.named, sound.owned, sound.placed, sound.enrolled⟩
  next => contradiction

/-! ### Deployments -/

theorem Sound.createDeployment {input : NewRuntimeDeployment} {created : RuntimeDeployment} (sound : Sound database)
    (creates : database.createRuntimeDeployment now input = .ok (created, next)) : Sound next := by
  obtain ⟨rows, inserted, rest⟩ := bind_ok.mp creates
  obtain ⟨hasProject, same⟩ := check_bind_ok.mp rest
  cases same
  rw [okOr_ok] at inserted
  rw [ensure_ok, Rows.any_eq_true] at hasProject
  have stored (row : RuntimeDeployment) : row ∈ rows ↔ _ := Rows.mem_insert? inserted
  have free := Rows.insert?_isSome.mp (by rw [inserted]; rfl)
  have unassigned (gateway : String) : database.assigned input.id gateway ≠ true := by
    intro present
    obtain ⟨row, mem, same⟩ := Database.hasDeployment_iff.mp (sound.placed _ _ present)
    have apart := free row mem
    rw [← Bool.not_eq_true, clash_deployment] at apart
    exact apart (.inl same)
  refine ⟨?_, ?_, ?_, ?_, ?_, ?_⟩
  · intro project mem
    obtain ⟨deployment, isStored, isPrimary⟩ := sound.primary project mem
    exact ⟨deployment, (stored _).mpr (.inl isStored), isPrimary⟩
  · intro first mem second isStored sameProject gateway firstAssigned secondAssigned
    cases (stored first).mp mem with
    | inr isNew =>
      rw [isNew] at firstAssigned
      exact (unassigned gateway firstAssigned).elim
    | inl isFirst =>
      cases (stored second).mp isStored with
      | inr isNew =>
        rw [isNew] at secondAssigned
        exact (unassigned gateway secondAssigned).elim
      | inl isSecond =>
        exact sound.oneDeployment first isFirst second isSecond sameProject gateway firstAssigned secondAssigned
  · intro project mem different
    cases sound.named project mem different with
    | inl unnamed => exact .inl unnamed
    | inr names =>
      obtain ⟨deployment, isStored, facts⟩ := names
      exact .inr ⟨deployment, (stored _).mpr (.inl isStored), facts⟩
  · intro deployment mem
    cases (stored deployment).mp mem with
    | inl isStored => exact sound.owned deployment isStored
    | inr isNew =>
      obtain ⟨project, isProject, same⟩ := hasProject
      rw [isNew]
      exact ⟨project, isProject, beq_iff_eq.mp same⟩
  · intro deploymentId gateway present
    obtain ⟨row, mem, same⟩ := Database.hasDeployment_iff.mp (sound.placed _ _ present)
    exact Database.hasDeployment_iff.mpr ⟨row, (stored _).mpr (.inl mem), same⟩
  · intro enrollment mem
    obtain ⟨row, isStored, facts⟩ := Database.deploymentOf_iff.mp (sound.enrolled enrollment mem)
    exact Database.deploymentOf_iff.mpr ⟨row, (stored _).mpr (.inl isStored), facts⟩

theorem Sound.deleteDeployment (sound : Sound database)
    (deletes : database.deleteRuntimeDeployment projectId name = .ok ((), next)) : Sound next := by
  rw [Database.deleteRuntimeDeployment] at deletes
  split at deletes
  next dropped found =>
    cases deletes
    obtain ⟨isDropped, named⟩ := Rows.mem_of_find? found
    simp only [Bool.and_eq_true, Bool.not_eq_true'] at named
    have stored (row : RuntimeDeployment) : row ∈ (database.dropDeployment dropped.id).runtimeDeployments ↔
        row ∈ database.runtimeDeployments ∧ row.id ≠ dropped.id := by
      rw [Database.dropDeployment, Rows.mem_delete, beq_eq_false_iff_ne]
    have assigned (other : Uuid) (gateway : String) : (database.dropDeployment dropped.id).assigned other gateway = true ↔
        database.assigned other gateway = true ∧ other ≠ dropped.id := by
      simp only [Database.assigned_iff, Database.dropDeployment, Rows.mem_delete, beq_eq_false_iff_ne]
      grind
    -- A primary deployment is not the one that goes.
    have remains (deployment : RuntimeDeployment) (mem : deployment ∈ database.runtimeDeployments)
        (isPrimary : deployment.isPrimary = true) : deployment.id ≠ dropped.id := by
      intro same
      rw [deployment_unique mem isDropped same, named.2] at isPrimary
      contradiction
    refine ⟨?_, ?_, ?_, ?_, ?_, ?_⟩
    · intro project mem
      obtain ⟨deployment, isStored, isOf, isPrimary⟩ := sound.primary project mem
      exact ⟨deployment, (stored _).mpr ⟨isStored, remains _ isStored isPrimary⟩, isOf, isPrimary⟩
    · intro first mem second isStored sameProject gateway firstAssigned secondAssigned
      exact sound.oneDeployment first ((stored _).mp mem).1 second ((stored _).mp isStored).1 sameProject gateway
        ((assigned _ _).mp firstAssigned).1 ((assigned _ _).mp secondAssigned).1
    · intro project mem different
      cases sound.named project mem different with
      | inl unnamed => exact .inl unnamed
      | inr names =>
        obtain ⟨deployment, isStored, isOf, isPrimary, present⟩ := names
        have stays := remains deployment isStored isPrimary
        exact .inr ⟨deployment, (stored _).mpr ⟨isStored, stays⟩, isOf, isPrimary, (assigned _ _).mpr ⟨present, stays⟩⟩
    · intro deployment mem
      exact sound.owned deployment ((stored _).mp mem).1
    · intro other gateway present
      obtain ⟨earlier, stays⟩ := (assigned _ _).mp present
      obtain ⟨row, mem, same⟩ := Database.hasDeployment_iff.mp (sound.placed _ _ earlier)
      exact Database.hasDeployment_iff.mpr ⟨row, (stored _).mpr ⟨mem, same ▸ stays⟩, same⟩
    · intro enrollment mem
      rw [Database.dropDeployment, Rows.mem_delete, beq_eq_false_iff_ne] at mem
      obtain ⟨row, isStored, same, isOf⟩ := Database.deploymentOf_iff.mp (sound.enrolled enrollment mem.1)
      exact Database.deploymentOf_iff.mpr ⟨row, (stored _).mpr ⟨isStored, same ▸ mem.2⟩, same, isOf⟩
  next =>
    obtain ⟨deployment, _, rest⟩ := bind_ok.mp deletes
    obtain ⟨_, same⟩ := check_bind_ok.mp rest
    contradiction

def promotedRow (projectId promoted : Uuid) (row : RuntimeDeployment) : RuntimeDeployment :=
  { row with isPrimary := if row.id = promoted then true else if row.projectId = projectId then false else row.isPrimary }

theorem promote_ok (promotes : database.promoteRuntimeDeployment projectId name = .ok (promoted, next)) :
    ∃ deployment ∈ database.runtimeDeployments, deployment.projectId = projectId ∧ deployment.name = name ∧
      ∃ rows : Rows RuntimeDeployment,
        (∀ row, row ∈ rows ↔ ∃ earlier ∈ database.runtimeDeployments, promotedRow projectId deployment.id earlier = row) ∧
        ((∃ gatewayId, database.assigned deployment.id gatewayId = true ∧
            next = { database with runtimeDeployments := rows }.setProjectGateway projectId gatewayId) ∨
          (∀ gatewayId, database.assigned deployment.id gatewayId = false) ∧
            next = { database with runtimeDeployments := rows }) := by
  obtain ⟨deployment, found, rest⟩ := bind_ok.mp promotes
  obtain ⟨cleared, clears, rest⟩ := bind_ok.mp rest
  obtain ⟨rows, sets, same⟩ := bind_ok.mp rest
  rw [Database.getRuntimeDeployment, okOr_ok] at found
  rw [okOr_ok] at clears sets
  obtain ⟨stored, named⟩ := Rows.mem_of_find? found
  simp only [Bool.and_eq_true, beq_iff_eq] at named
  refine ⟨deployment, stored, named.1, named.2, rows, ?_, ?_⟩
  · intro row
    simp only [Rows.mem_update? sets, Rows.mem_update? clears, exists_exists_and_eq_and]
    apply exists_congr
    intro earlier
    apply and_congr_right
    intro _
    have alike : Rows.updated (fun row => row.id == deployment.id) (fun row => { row with isPrimary := true })
        (Rows.updated (fun row => row.projectId == projectId) (fun row => { row with isPrimary := false }) earlier) =
          promotedRow projectId deployment.id earlier := by
      cases earlier with
      | mk id project =>
        by_cases isPromoted : id = deployment.id <;> by_cases isOf : project = projectId <;>
          simp [Rows.updated, promotedRow, isPromoted, isOf]
    rw [alike]
  · rw [pure_ok] at same
    have isNext := congrArg Prod.snd same
    split at isNext
    next gatewayId isFirst =>
      left
      obtain ⟨row, mem, isGateway⟩ := Database.earliestGateway_mem isFirst
      rw [Rows.mem_filter, beq_iff_eq] at mem
      exact ⟨gatewayId, Database.assigned_iff.mpr ⟨row, mem.1, mem.2, isGateway⟩, isNext.symm⟩
    next noGateway =>
      right
      refine ⟨?_, isNext.symm⟩
      intro gatewayId
      rw [Database.earliestGateway, Option.map_eq_none_iff, List.argmin_eq_none, List.eq_nil_iff_forall_not_mem] at noGateway
      rw [← Bool.not_eq_true, Database.assigned_iff]
      rintro ⟨row, mem, isDeployment, _⟩
      exact noGateway row (Rows.mem_filter.mpr ⟨mem, beq_iff_eq.mpr isDeployment⟩)

theorem Sound.promote (sound : Sound database)
    (careful : ∀ deployment ∈ database.runtimeDeployments, deployment.projectId = projectId → deployment.name = name →
      deployment.isPrimary = true ∨ (∃ row ∈ database.runtimeDeploymentGateways, row.deploymentId = deployment.id) ∨
        ∀ project ∈ database.projects, project.id = projectId → project.gatewayId = "")
    (promotes : database.promoteRuntimeDeployment projectId name = .ok (promoted, next)) : Sound next := by
  obtain ⟨deployment, isStored, isOf, isNamed, rows, stored, outcome⟩ := promote_ok promotes
  have promotedStored : promotedRow projectId deployment.id deployment ∈ rows := (stored _).mpr ⟨deployment, isStored, rfl⟩
  have promotedPrimary : (promotedRow projectId deployment.id deployment).isPrimary = true := by simp [promotedRow]
  -- The primary deployment of another project stays primary.
  have others (row : RuntimeDeployment) (mem : row ∈ database.runtimeDeployments) (different : row.projectId ≠ projectId)
      (isPrimary : row.isPrimary = true) : promotedRow projectId deployment.id row ∈ rows ∧
        (promotedRow projectId deployment.id row).isPrimary = true :=
    ⟨(stored _).mpr ⟨row, mem, rfl⟩, by simp [promotedRow, isPrimary, different]⟩
  have switched : SoundBut (some projectId) { database with runtimeDeployments := rows } := by
    refine ⟨?_, ?_, ?_, ?_, ?_, ?_⟩
    · intro project mem
      by_cases same : project.id = projectId
      · exact ⟨_, promotedStored, isOf.trans same.symm, promotedPrimary⟩
      · obtain ⟨row, isRow, ofProject, isPrimary⟩ := sound.primary project mem
        have stays := others row isRow (ofProject ▸ same) isPrimary
        exact ⟨_, stays.1, ofProject, stays.2⟩
    · intro first mem second isSecond sameProject gateway firstAssigned secondAssigned
      obtain ⟨earlier, isEarlier, rfl⟩ := (stored _).mp mem
      obtain ⟨later, isLater, rfl⟩ := (stored _).mp isSecond
      rw [sound.oneDeployment earlier isEarlier later isLater sameProject gateway firstAssigned secondAssigned]
    · intro project mem different
      cases sound.named project mem (Option.some_ne_none _) with
      | inl unnamed => exact .inl unnamed
      | inr names =>
        obtain ⟨row, isRow, ofProject, isPrimary, assigned⟩ := names
        have stays := others row isRow (ofProject ▸ fun same => different (by rw [same])) isPrimary
        exact .inr ⟨_, stays.1, ofProject, stays.2, assigned⟩
    · intro row mem
      obtain ⟨earlier, isEarlier, rfl⟩ := (stored _).mp mem
      exact sound.owned earlier isEarlier
    · intro other gateway present
      obtain ⟨row, mem, same⟩ := Database.hasDeployment_iff.mp (sound.placed _ _ present)
      exact Database.hasDeployment_iff.mpr ⟨_, (stored _).mpr ⟨row, mem, rfl⟩, same⟩
    · intro enrollment mem
      obtain ⟨row, isRow, facts⟩ := Database.deploymentOf_iff.mp (sound.enrolled enrollment mem)
      exact Database.deploymentOf_iff.mpr ⟨_, (stored _).mpr ⟨row, isRow, rfl⟩, facts⟩
  cases outcome with
  | inl renamed =>
    obtain ⟨gatewayId, assigned, rfl⟩ := renamed
    exact switched.name (.inr ⟨_, promotedStored, isOf, promotedPrimary, assigned⟩)
  | inr kept =>
    obtain ⟨unassigned, rfl⟩ := kept
    apply switched.close
    intro project mem isProject
    cases careful deployment isStored isOf isNamed with
    | inl isPrimary =>
      cases sound.named project mem (Option.some_ne_none _) with
      | inl unnamed => exact .inl unnamed
      | inr names =>
        -- It was primary before, and the project names none of its gateways.
        obtain ⟨row, isRow, ofProject, alsoPrimary, assigned⟩ := names
        have same := primary_unique isRow isStored (ofProject.trans (isProject.trans isOf.symm)) alsoPrimary isPrimary
        rw [same, unassigned] at assigned
        contradiction
    | inr spares =>
      cases spares with
      | inl hasGateway =>
        obtain ⟨row, isRow, same⟩ := hasGateway
        have assigned := Database.assigned_iff.mpr ⟨row, isRow, same, rfl⟩
        rw [unassigned] at assigned
        contradiction
      | inr unnamed => exact .inl (unnamed project mem isProject)

/-! ### Projects -/

theorem insertProjectBindings_ok {bindingIds : List Uuid}
    (inserted : bindingIds.foldlM (Database.insertProjectBinding projectId) database = .ok next) :
    ∃ rows, next = { database with projectBindings := rows } := by
  induction bindingIds generalizing database with
  | nil =>
    cases inserted
    exact ⟨_, rfl⟩
  | cons bindingId bindingIds ih =>
    rw [List.foldlM_cons, bind_ok] at inserted
    obtain ⟨first, inserts, rest⟩ := inserted
    obtain ⟨rows, _, checks⟩ := bind_ok.mp inserts
    obtain ⟨_, same⟩ := check_bind_ok.mp checks
    cases same
    obtain ⟨others, rfl⟩ := ih rest
    exact ⟨others, rfl⟩

theorem SoundBut.bind (sound : SoundBut spared database) (rows : Rows ProjectBinding) :
    SoundBut spared { database with projectBindings := rows } :=
  ⟨sound.primary, sound.oneDeployment, sound.named, sound.owned, sound.placed, sound.enrolled⟩

theorem Sound.createProject {fresh : FreshProjectIds} {input : NewProject} {created : ProjectWithBindings}
    (sound : Sound database) (creates : database.createProject now fresh input = .ok (created, next)) : Sound next := by
  obtain ⟨_, rest⟩ := check_bind_ok.mp creates
  obtain ⟨projects, insertsProject, rest⟩ := bind_ok.mp rest
  obtain ⟨deployments, insertsDeployment, rest⟩ := bind_ok.mp rest
  obtain ⟨distributions, _, rest⟩ := bind_ok.mp rest
  obtain ⟨assignments, assigns, rest⟩ := bind_ok.mp rest
  obtain ⟨bound, binds, same⟩ := bind_ok.mp rest
  cases same
  rw [okOr_ok] at insertsProject insertsDeployment
  have isProject (row : Project) : row ∈ projects ↔ _ := Rows.mem_insert? insertsProject
  have isDeployment (row : RuntimeDeployment) : row ∈ deployments ↔ _ := Rows.mem_insert? insertsDeployment
  have freeDeployment := Rows.insert?_isSome.mp (show _ = true by rw [insertsDeployment]; rfl)
  have freeProject := Rows.insert?_isSome.mp (show _ = true by rw [insertsProject]; rfl)
  -- Nothing refers to the new project or to its deployment.
  have notOld (row : RuntimeDeployment) (mem : row ∈ database.runtimeDeployments) :
      row.id ≠ fresh.deploymentId ∧ row.projectId ≠ input.id := by
    constructor
    · intro same
      have apart := freeDeployment row mem
      rw [← Bool.not_eq_true, clash_deployment] at apart
      exact apart (.inl same)
    · intro same
      obtain ⟨project, isStored, isOwner⟩ := sound.owned row mem
      have apart := freeProject project isStored
      simp [clash, Keyed.conflicts, Keyed.key, isOwner, same] at apart
  have unassigned (gateway : String) : database.assigned fresh.deploymentId gateway ≠ true := by
    intro present
    obtain ⟨row, mem, same⟩ := Database.hasDeployment_iff.mp (sound.placed _ _ present)
    exact (notOld row mem).1 same
  generalize isInserted : ({ database with
    projects, runtimeDeployments := deployments, runtimeDistributions := distributions
    runtimeDeploymentGateways := assignments } : Database) = inserted at binds
  have assigned (other : Uuid) (gateway : String) : inserted.assigned other gateway = true ↔
      database.assigned other gateway = true ∨
        other = fresh.deploymentId ∧ gateway = input.gatewayId ∧ input.gatewayId ≠ "" := by
    rw [← isInserted]
    rw [Database.assignNamed] at assigns
    split at assigns
    next unnamed =>
      cases assigns
      show database.assigned other gateway = true ↔ _
      rw [iff_self_or]
      rintro ⟨_, _, named⟩
      exact (named unnamed).elim
    next named =>
      rw [okOr_ok] at assigns
      simp only [Database.assigned_iff, Rows.mem_insert? assigns, or_and_right, exists_or, exists_eq_left]
      rw [eq_comm (a := fresh.deploymentId), eq_comm (a := input.gatewayId)]
      simp only [ne_eq, named, not_false_eq_true, and_true]
  have isPrimaryNew := (isDeployment _).mpr (.inr rfl)
  obtain ⟨rows, rfl⟩ := insertProjectBindings_ok binds
  apply SoundBut.bind
  subst isInserted
  refine ⟨?_, ?_, ?_, ?_, ?_, ?_⟩
  · intro project mem
    cases (isProject project).mp mem with
    | inl isStored =>
      obtain ⟨deployment, isOld, isPrimary⟩ := sound.primary project isStored
      exact ⟨deployment, (isDeployment _).mpr (.inl isOld), isPrimary⟩
    | inr isNew =>
      rw [isNew]
      exact ⟨_, isPrimaryNew, rfl, rfl⟩
  · intro first mem second isSecond sameProject gateway firstAssigned secondAssigned
    have firstCases := (assigned _ _).mp firstAssigned
    have secondCases := (assigned _ _).mp secondAssigned
    cases (isDeployment first).mp mem with
    | inl isFirst =>
      have firstOld := notOld first isFirst
      cases (isDeployment second).mp isSecond with
      | inl isOld =>
        have secondOld := notOld second isOld
        have earlier := sound.oneDeployment first isFirst second isOld sameProject gateway
        tauto
      | inr isNew =>
        rw [isNew] at sameProject
        exact (firstOld.2 sameProject).elim
    | inr isNew =>
      cases (isDeployment second).mp isSecond with
      | inl isOld =>
        rw [isNew] at sameProject
        exact ((notOld second isOld).2 sameProject.symm).elim
      | inr alsoNew => rw [isNew, alsoNew]
  · intro project mem _
    cases (isProject project).mp mem with
    | inl isStored =>
      cases sound.named project isStored (Option.some_ne_none _) with
      | inl unnamed => exact .inl unnamed
      | inr names =>
        obtain ⟨deployment, isOld, isOf, isPrimary, present⟩ := names
        exact .inr ⟨deployment, (isDeployment _).mpr (.inl isOld), isOf, isPrimary, (assigned _ _).mpr (.inl present)⟩
    | inr isNew =>
      rw [isNew]
      by_cases unnamed : input.gatewayId = ""
      · exact .inl unnamed
      · exact .inr ⟨_, isPrimaryNew, rfl, rfl, (assigned _ _).mpr (.inr ⟨rfl, rfl, unnamed⟩)⟩
  · intro deployment mem
    cases (isDeployment deployment).mp mem with
    | inl isOld =>
      obtain ⟨project, isStored, isOwner⟩ := sound.owned deployment isOld
      exact ⟨project, (isProject _).mpr (.inl isStored), isOwner⟩
    | inr isNew =>
      rw [isNew]
      exact ⟨_, (isProject _).mpr (.inr rfl), rfl⟩
  · intro other gateway present
    cases (assigned other gateway).mp present with
    | inl earlier =>
      obtain ⟨row, isOld, same⟩ := Database.hasDeployment_iff.mp (sound.placed _ _ earlier)
      exact Database.hasDeployment_iff.mpr ⟨row, (isDeployment _).mpr (.inl isOld), same⟩
    | inr isNew => exact Database.hasDeployment_iff.mpr ⟨_, isPrimaryNew, isNew.1.symm⟩
  · intro enrollment mem
    obtain ⟨row, isOld, facts⟩ := Database.deploymentOf_iff.mp (sound.enrolled enrollment mem)
    exact Database.deploymentOf_iff.mpr ⟨row, (isDeployment _).mpr (.inl isOld), facts⟩

theorem ProjectPatch.updatedId (row : Project) : (Rows.updated p patch.apply row).id = row.id := by
  rw [Rows.updated]
  split
  · rfl
  · rfl

def AcceptsPatch (database : Database) (id : Uuid) (patch : ProjectPatch) : Prop :=
  ∃ current, database.getProject id = .ok current ∧
    database.validateProjectBindings (Database.patchedBindings current patch) = .ok () ∧
    (database.projects.update? (fun row => row.id == id) patch.apply).isSome = true

theorem Sound.updateProject {updated : ProjectWithBindings} (sound : Sound database)
    (careful : ∀ gatewayId, patch.gatewayId = some gatewayId → AcceptsPatch database id patch →
      ∀ deployment ∈ database.runtimeDeployments, deployment.projectId = id → deployment.isPrimary = false →
        database.assigned deployment.id gatewayId = false)
    (updates : database.updateProject now id patch = .ok (updated, next)) : Sound next := by
  obtain ⟨current, isCurrent, rest⟩ := bind_ok.mp updates
  obtain ⟨validated, rest⟩ := check_bind_ok.mp rest
  obtain ⟨projects, patches, rest⟩ := bind_ok.mp rest
  obtain ⟨⟨bindingIds, bound⟩, binds, rest⟩ := bind_ok.mp rest
  obtain ⟨reassigned, reassigns, same⟩ := bind_ok.mp rest
  cases same
  rw [okOr_ok] at patches
  have accepted : AcceptsPatch database id patch := ⟨current, isCurrent, validated, by rw [patches]; rfl⟩
  have patched : SoundBut (some id) { database with projects } :=
    (sound.spare id).patch (fun _ => Rows.mem_update? patches) (fun _ => beq_iff_eq.mp) fun _ => rfl
  have bindings : ∃ rows, bound = { database with projects, projectBindings := rows } := by
    rw [Database.replaceBindings.eq_def] at binds
    split at binds
    next =>
      obtain ⟨inserted, inserts, same⟩ := bind_ok.mp binds
      cases same
      obtain ⟨rows, rfl⟩ := insertProjectBindings_ok inserts
      exact ⟨rows, rfl⟩
    next =>
      cases binds
      exact ⟨_, rfl⟩
  obtain ⟨rows, rfl⟩ := bindings
  have soundBound := patched.bind rows
  -- The project of the patch names the patch's gateway.
  have isPatched (project : Project) (mem : project ∈ projects) (isProject : project.id = id) :
      ∃ row ∈ database.projects, row.id = id ∧ project.gatewayId = patch.gatewayId.getD row.gatewayId := by
    obtain ⟨row, stored, rfl⟩ := (Rows.mem_update? patches).mp mem
    rw [ProjectPatch.updatedId] at isProject
    refine ⟨row, stored, isProject, ?_⟩
    rw [Rows.updated, if_pos (by simpa using isProject)]
    rfl
  cases named : patch.gatewayId with
  | none =>
    rw [named] at reassigns
    cases reassigns
    apply soundBound.close
    intro project mem isProject
    obtain ⟨row, stored, isRow, same⟩ := isPatched project mem isProject
    have names := sound.named row stored (Option.some_ne_none _)
    rw [named] at same
    rw [Names, same, isProject, ← isRow]
    exact names
  | some gatewayId =>
    rw [named, Database.reassignPrimary] at reassigns
    split at reassigns
    next primary found =>
      obtain ⟨stored, isPrimary⟩ := Rows.mem_of_find? found
      simp only [Bool.and_eq_true, beq_iff_eq] at isPrimary
      have isOf := Database.deploymentOf_iff.mpr ⟨primary, stored, rfl, isPrimary.1⟩
      have dropped := soundBound.drop isOf current.project.gatewayId
      have assigned := (Database.assignGateway_ok reassigns).2
      -- The other deployments of the project are not primary.
      have soundNext : SoundBut (some id) next := by
        refine dropped.assign ?_ reassigns
        intro deployment isStored same other isOther sameProject different
        have isProject := deployment_unique isStored stored same
        have secondary : other.isPrimary = false := by
          rw [← Bool.not_eq_true]
          intro alsoPrimary
          rw [primary_unique isOther stored (sameProject.trans (isProject ▸ rfl)) alsoPrimary isPrimary.2] at different
          exact different rfl
        have free := careful gatewayId named accepted other isOther
          (sameProject.trans (isProject ▸ isPrimary.1)) secondary
        rw [← Bool.not_eq_true, dropAssignment_assigned]
        rintro ⟨present, _⟩
        have earlier : database.assigned other.id gatewayId = true := present
        rw [free] at earlier
        contradiction
      obtain ⟨assignments, rfl⟩ := (Database.assignGateway_ok reassigns).1
      apply soundNext.close
      intro project mem isProject
      obtain ⟨row, _, _, same⟩ := isPatched project mem isProject
      rw [named] at same
      refine .inr ⟨primary, stored, isPrimary.1.trans isProject.symm, isPrimary.2, ?_⟩
      rw [same]
      exact (assigned _ _).mpr (.inr ⟨rfl, rfl⟩)
    next missing =>
      cases reassigns
      apply soundBound.close
      intro project mem isProject
      obtain ⟨row, isStored, isRow, _⟩ := isPatched project mem isProject
      obtain ⟨deployment, stored, isOf, isPrimary⟩ := sound.primary row isStored
      have absent := Rows.find?_eq_none.mp missing deployment stored
      simp [isOf, isRow, isPrimary] at absent

end

/-! ## Every sequence of calls -/

inductive DeploymentCall where
  | createProject (now : ℕ) (fresh : FreshProjectIds) (input : NewProject)
  | updateProject (now : ℕ) (id : Uuid) (patch : ProjectPatch)
  | createDeployment (now : ℕ) (input : NewRuntimeDeployment)
  | promote (projectId : Uuid) (name : String)
  | deleteDeployment (projectId : Uuid) (name : String)
  | assign (now : ℕ) (projectId deploymentId : Uuid) (gatewayId : String)
  | unassign (projectId deploymentId : Uuid) (gatewayId : String)
  | createDistribution (input : NewRuntimeDistribution)
  | authorize (now : ℕ) (publicId machineId suggestedGatewayId : String)
  | createEnrollment (now : ℕ) (id projectId : Uuid) (deployment ownerUserId : String) (tokenHash : Hash) (expiresAt : ℕ)
  | consumeEnrollment (now checked : ℕ) (tokenHash : Hash) (gatewayId credentialPrefix : String) (credentialHash : Hash)
  | consumeMachineEnrollment (now checked : ℕ) (tokenHash : Hash) (gatewayId : String)
  | revokeEnrollment (now : ℕ) (enrollmentId : Uuid)

def DeploymentCall.after (database : Database) : DeploymentCall → Database
  | createProject now fresh input => database.commit (database.createProject now fresh input)
  | updateProject now id patch => database.commit (database.updateProject now id patch)
  | createDeployment now input => database.commit (database.createRuntimeDeployment now input)
  | promote projectId name => database.commit (database.promoteRuntimeDeployment projectId name)
  | deleteDeployment projectId name => database.commit (database.deleteRuntimeDeployment projectId name)
  | assign now projectId deploymentId gatewayId =>
    database.commit (database.assignRuntimeDeploymentGateway now projectId deploymentId gatewayId)
  | unassign projectId deploymentId gatewayId =>
    database.commit (database.unassignRuntimeDeploymentGateway projectId deploymentId gatewayId)
  | createDistribution input => database.commit (database.createRuntimeDistribution input)
  | authorize now publicId machineId suggestedGatewayId =>
    database.commit (Database.Sqlite.authorizeRuntimeDistributionGateway database now publicId machineId suggestedGatewayId)
  | createEnrollment now id projectId deployment ownerUserId tokenHash expiresAt =>
    database.commit (database.createRuntimeDeploymentEnrollment now id projectId deployment ownerUserId tokenHash expiresAt)
  | consumeEnrollment now checked tokenHash gatewayId credentialPrefix credentialHash =>
    database.commit
      (database.consumeAgentGatewayEnrollment now checked tokenHash gatewayId credentialPrefix credentialHash)
  | consumeMachineEnrollment now checked tokenHash gatewayId =>
    database.commit (database.consumeAgentGatewayMachineEnrollment now checked tokenHash gatewayId)
  | revokeEnrollment now enrollmentId => database.commit (database.revokeAgentGatewayEnrollment now enrollmentId)

def deploymentMachine : Machine Database DeploymentCall where
  start database := ∃ agentBindings, database = { Database.empty with agentBindings }
  step database call := some (call.after database)

/-- The calls that keep the assignments and the gateway that a project names together. -/
def Careful (database : Database) : DeploymentCall → Prop
  -- A project is not given a gateway of one of its other deployments.
  | .updateProject _ id patch => ∀ gatewayId, patch.gatewayId = some gatewayId → AcceptsPatch database id patch →
      ∀ deployment ∈ database.runtimeDeployments, deployment.projectId = id → deployment.isPrimary = false →
        database.assigned deployment.id gatewayId = false
  -- A deployment without gateways is not promoted in a project that names one.
  | .promote projectId name => ∀ deployment ∈ database.runtimeDeployments, deployment.projectId = projectId →
      deployment.name = name → deployment.isPrimary = true ∨
        (∃ row ∈ database.runtimeDeploymentGateways, row.deploymentId = deployment.id) ∨
          ∀ project ∈ database.projects, project.id = projectId → project.gatewayId = ""
  -- The gateway that a project names is not taken from its primary deployment.
  | .unassign projectId deploymentId gatewayId => database.isPrimary? projectId deploymentId = some true →
      ∀ project ∈ database.projects, project.id = projectId → gatewayId = "" ∨ project.gatewayId ≠ gatewayId
  -- A machine does not register a gateway of another deployment of the project.
  | .authorize _ publicId machineId suggestedGatewayId => ∀ found, database.activeDistribution publicId = some found →
      Registrable database found.1 machineId suggestedGatewayId →
      ∀ deployment ∈ database.runtimeDeployments, deployment.id = found.1.deploymentId →
      ∀ other ∈ database.runtimeDeployments, other.projectId = deployment.projectId → other.id ≠ found.1.deploymentId →
        database.assigned other.id (gatewayFor database found.1 machineId suggestedGatewayId) = false
  -- The gateway that a project names is not enrolled for another deployment of the project.
  | .consumeMachineEnrollment now checked tokenHash gatewayId =>
      ∀ enrollment ∈ database.agentGatewayEnrollments, enrollment.accepts now checked tokenHash gatewayId →
        database.isPrimary? enrollment.projectId enrollment.deploymentId = some true ∨
          ∀ project ∈ database.projects, project.id = enrollment.projectId →
            gatewayId = "" ∨ project.gatewayId ≠ gatewayId
  | _ => True

instance decidableAccepts (now checked : ℕ) (tokenHash : Hash) (gatewayId : String) (row : AgentGatewayEnrollment) :
    Decidable (row.accepts now checked tokenHash gatewayId) :=
  inferInstanceAs (Decidable (_ ∨ _))

instance decidableRegistrable (database : Database) (distribution : RuntimeDistribution)
    (machineId suggestedGatewayId : String) : Decidable (Registrable database distribution machineId suggestedGatewayId) :=
  inferInstanceAs (Decidable (_ ∨ _))

instance decidableAcceptsPatch (database : Database) (id : Uuid) (patch : ProjectPatch) :
    Decidable (AcceptsPatch database id patch) :=
  match found : database.getProject id with
  | .error _ => .isFalse (by simp [AcceptsPatch, found])
  | .ok current =>
    decidable_of_iff (database.validateProjectBindings (Database.patchedBindings current patch) = .ok () ∧
        (database.projects.update? (fun row => row.id == id) patch.apply).isSome = true)
      (by simp [AcceptsPatch, found])

instance decidableCareful (database : Database) : ∀ call, Decidable (Careful database call)
  | .updateProject _ _ _ => inferInstanceAs (Decidable (∀ _, _ → _))
  | .promote _ _ => inferInstanceAs (Decidable (∀ row ∈ database.runtimeDeployments, _))
  | .unassign _ _ _ => inferInstanceAs (Decidable (_ → _))
  | .authorize _ _ _ _ => inferInstanceAs (Decidable (∀ _, _ → _))
  | .consumeMachineEnrollment _ _ _ _ => inferInstanceAs (Decidable (∀ row ∈ database.agentGatewayEnrollments, _))
  | .createProject _ _ _ | .createDeployment _ _ | .deleteDeployment _ _ | .assign _ _ _ _ | .createDistribution _
  | .createEnrollment _ _ _ _ _ _ _ | .consumeEnrollment _ _ _ _ _ _ | .revokeEnrollment _ _ => .isTrue trivial

variable {database : Database}

theorem commit_keeps {α : Type} {Holds : Database → Prop} {outcome : Except ApiError (α × Database)}
    (holds : Holds database) (kept : ∀ result next, outcome = .ok (result, next) → Holds next) :
    Holds (database.commit outcome) := by
  cases succeeds : outcome with
  | error error => exact holds
  | ok result => exact kept result.1 result.2 succeeds

theorem Sound.after {call : DeploymentCall} (sound : Sound database) (careful : Careful database call) :
    Sound (call.after database) := by
  cases call with
  | createProject now fresh input => exact commit_keeps sound fun _ _ => sound.createProject
  | updateProject now id patch => exact commit_keeps sound fun _ _ => sound.updateProject careful
  | createDeployment now input => exact commit_keeps sound fun _ _ => sound.createDeployment
  | promote projectId name => exact commit_keeps sound fun _ _ => sound.promote careful
  | deleteDeployment projectId name => exact commit_keeps sound fun _ _ => sound.deleteDeployment
  | assign now projectId deploymentId gatewayId => exact commit_keeps sound fun _ _ => sound.assignGateway
  | unassign projectId deploymentId gatewayId => exact commit_keeps sound fun _ _ => sound.unassign careful
  | createDistribution input => exact commit_keeps sound fun _ _ => sound.createDistribution
  | authorize now publicId machineId suggestedGatewayId => exact commit_keeps sound fun _ _ => sound.authorize careful
  | createEnrollment now id projectId deployment ownerUserId tokenHash expiresAt =>
    exact commit_keeps sound fun _ _ => sound.createEnrollment
  | consumeEnrollment now checked tokenHash gatewayId credentialPrefix credentialHash =>
    exact commit_keeps sound fun _ _ => sound.consumeEnrollment
  | consumeMachineEnrollment now checked tokenHash gatewayId =>
    exact commit_keeps sound fun _ _ => sound.consumeMachine careful
  | revokeEnrollment now enrollmentId => exact commit_keeps sound fun _ _ => sound.revokeEnrollment

theorem sound_of_reachable (reachable : deploymentMachine.Reachable Careful database) : Sound database := by
  apply reachable.invariant
  · rintro _ ⟨agentBindings, rfl⟩
    refine ⟨?_, ?_, ?_, ?_, ?_, ?_⟩
    all_goals simp [Database.empty, Database.assigned_iff]
  · intro state call next sound careful stepped
    cases stepped
    exact sound.after careful

/-- In every run of careful calls the deployments and their gateways stay consistent. -/
theorem deployments_consistent (database : Database) (reachable : deploymentMachine.Reachable Careful database) :
    Consistent database :=
  (sound_of_reachable reachable).consistent

def townApp : NewProject where
  id := townProject
  ownerUserId := some "user-123"
  slug := "remote-project"
  name := "Remote project"
  description := none
  gatewayId := "gateway-one"
  bindingIds := []

def townFresh : FreshProjectIds := ⟨"vifu_app_town", townDeployment, townDistribution⟩

def townStaging : Uuid := ⟨"0190f2c4-7b1e-7c3a-9d52-1f6a0e8b4e05", by decide⟩

/-- The project gets a second deployment with a gateway, which becomes the primary one. -/
def promoteStaging : List DeploymentCall :=
  [.createProject 1 townFresh townApp, .createDeployment 2 ⟨townStaging, townProject, "staging", false, true, .summary, false⟩,
    .assign 3 townProject townStaging "gateway-two", .promote townProject "staging"]

theorem deploymentMachine_starts : deploymentMachine.start Database.empty := ⟨.empty, rfl⟩

theorem deployments_consistent_town : ∃ database, Consistent database ∧
    (∃ project ∈ database.projects, project.gatewayId = "gateway-two") := by
  obtain ⟨database, reachable, checked⟩ := Machine.reachable_of_execute deploymentMachine Careful deploymentMachine_starts
    promoteStaging (fun database => database.projects.any fun project => project.gatewayId == "gateway-two")
    (by decide +kernel)
  obtain ⟨project, member, named⟩ := Rows.any_eq_true.mp checked
  exact ⟨database, deployments_consistent database reachable, project, member, beq_iff_eq.mp named⟩

/-- After its gateway is unassigned, the project still names it. -/
theorem unassigned_gateway_named :
    ¬∀ database, deploymentMachine.Reachable Machine.always database → Consistent database := by
  intro consistent
  obtain ⟨database, reachable, checked⟩ := Machine.reachable_of_execute deploymentMachine Machine.always
    deploymentMachine_starts [.createProject 1 townFresh townApp, .unassign townProject townDeployment "gateway-one"]
    (fun database => database.projects.any (fun project => project.gatewayId == "gateway-one") &&
      database.runtimeDeploymentGateways.rows.isEmpty) (by decide +kernel)
  obtain ⟨named, unassigned⟩ := (Bool.and_eq_true _ _).mp checked
  obtain ⟨project, member, isNamed⟩ := Rows.any_eq_true.mp named
  rw [beq_iff_eq] at isNamed
  cases (consistent database reachable).named project member with
  | inl unnamed =>
    rw [isNamed] at unnamed
    contradiction
  | inr names =>
    obtain ⟨deployment, _, _, _, assigned⟩ := names
    obtain ⟨row, isRow, _⟩ := Database.assigned_iff.mp assigned
    rw [← Rows.mem_rows, List.isEmpty_iff.mp unassigned] at isRow
    contradiction

end Vifu.Server
