import Mathlib.Data.Finset.Card
import Vifu.Server.Api.Projects
import Vifu.Server.Database.Consistency

/-!
# Who puts a gateway to work

The calls of acting users that write the gateways of a project.  The handlers that assign and unassign a gateway
ask for its owner, the handler that updates a project does not: the effect of each is compared with the gateways
that the caller owns.
-/

namespace Vifu.Server

open Foundation
open Vifu.Gateway

def Owns (database : Database) (subject gatewayId : String) : Prop :=
  ∃ row ∈ database.agentGatewayAuthorizations, row.gatewayId = gatewayId ∧ row.ownerUserId = some subject

instance decidableOwns (database : Database) (subject gatewayId : String) : Decidable (Owns database subject gatewayId) :=
  inferInstanceAs (Decidable (∃ row ∈ database.agentGatewayAuthorizations, _))

def Serves (database : Database) (projectId : Uuid) (gatewayId : String) : Prop :=
  ∃ deployment ∈ database.runtimeDeployments, deployment.projectId = projectId ∧
    database.assigned deployment.id gatewayId = true

/-- What a call of the user added: assignments of the user's own gateways, and projects that name one of these or a
gateway that served them before. -/
structure AddsOwn (subject : String) (database next : Database) : Prop where
  attached : ∀ deploymentId gatewayId, next.assigned deploymentId gatewayId = true →
    database.assigned deploymentId gatewayId = true ∨ Owns database subject gatewayId
  named : ∀ project ∈ next.projects, project.gatewayId = "" ∨
    (∃ row ∈ database.projects, row.id = project.id ∧ row.gatewayId = project.gatewayId) ∨
    Serves database project.id project.gatewayId ∨ Owns database subject project.gatewayId

variable {current : ProjectWithBindings} {patch : ProjectPatch}

section

variable {database next : Database} {subject gatewayId : String} {projectId deploymentId : Uuid} {now : ℕ}
  {bindingIds : List Uuid} {id : Uuid}

theorem AddsOwn.refl (subject : String) (database : Database) : AddsOwn subject database database where
  attached _ _ present := .inl present
  named project mem := .inr (.inl ⟨project, mem, rfl, rfl⟩)

/-! ## What the functions of the database layer add -/

theorem AddsOwn.name (adds : AddsOwn subject database next)
    (names : gatewayId = "" ∨ Serves database projectId gatewayId ∨ Owns database subject gatewayId) :
    AddsOwn subject database (next.setProjectGateway projectId gatewayId) where
  attached := adds.attached
  named := by
    intro project mem
    obtain ⟨row, stored, rfl⟩ := Database.mem_setProjectGateway.mp mem
    split
    next same =>
      rw [← same] at names
      cases names with
      | inl empty => exact .inl empty
      | inr isNamed => exact .inr (.inr isNamed)
    next => exact adds.named row stored

theorem AddsOwn.move (owns : Owns database subject gatewayId)
    (moves : database.moveGateway now projectId deploymentId gatewayId = .ok next) : AddsOwn subject database next := by
  have assigned := (Database.assignGateway_ok moves).2
  simp only [Database.leaveOthers_assigned] at assigned
  obtain ⟨rows, same⟩ := Database.moveGateway_ok moves
  refine ⟨?_, ?_⟩
  · intro other gateway present
    cases (assigned other gateway).mp present with
    | inl earlier => exact .inl earlier.1
    | inr isMoved =>
      rw [isMoved.2]
      exact .inr owns
  · intro project mem
    rw [same] at mem
    exact .inr (.inl ⟨project, mem, rfl, rfl⟩)

theorem AddsOwn.assign (owns : Owns database subject gatewayId)
    (assigns : database.assignRuntimeDeploymentGateway now projectId deploymentId gatewayId = .ok ((), next)) :
    AddsOwn subject database next := by
  obtain ⟨isPrimary, _, rest⟩ := bind_ok.mp assigns
  obtain ⟨moved, moves, same⟩ := bind_ok.mp rest
  cases same
  have adds := AddsOwn.move owns moves
  rw [Database.nameProjectGateway]
  split
  next => exact adds.name (.inr (.inr owns))
  next =>
    apply adds.name
    by_cases unnamed : moved.primaryGateway projectId = ""
    · exact .inl unnamed
    · -- The first gateway of the primary deployment was there before, or is the one that moved.
      obtain ⟨deployment, stored, isOf, _, assigned⟩ := Database.primaryGateway_assigned unnamed
      obtain ⟨rows, isMoved⟩ := Database.moveGateway_ok moves
      right
      cases adds.attached _ _ assigned with
      | inl earlier =>
        rw [isMoved] at stored
        exact .inl ⟨deployment, stored, isOf, earlier⟩
      | inr isOwn => exact .inr isOwn

theorem AddsOwn.unassign
    (unassigns : database.unassignRuntimeDeploymentGateway projectId deploymentId gatewayId = .ok ((), next)) :
    AddsOwn subject database next := by
  rw [Database.unassignRuntimeDeploymentGateway] at unassigns
  split at unassigns
  next =>
    cases unassigns
    refine ⟨?_, ?_⟩
    · intro other gateway present
      exact .inl (dropAssignment_assigned.mp present).1
    · intro project mem
      exact .inr (.inl ⟨project, mem, rfl, rfl⟩)
  next => contradiction

theorem AddsOwn.promote {name : String} {promoted : RuntimeDeployment}
    (promotes : database.promoteRuntimeDeployment projectId name = .ok (promoted, next)) :
    AddsOwn subject database next := by
  obtain ⟨deployment, stored, isOf, _, rows, _, outcome⟩ := promote_ok promotes
  have switched : AddsOwn subject database { database with runtimeDeployments := rows } :=
    ⟨fun _ _ present => .inl present, fun project mem => .inr (.inl ⟨project, mem, rfl, rfl⟩)⟩
  cases outcome with
  | inl renamed =>
    obtain ⟨gateway, assigned, rfl⟩ := renamed
    exact switched.name (.inr (.inl ⟨deployment, stored, isOf, assigned⟩))
  | inr kept =>
    rw [kept.2]
    exact switched

theorem AddsOwn.createProject {fresh : FreshProjectIds} {input : NewProject} {created : ProjectWithBindings}
    (unnamed : input.gatewayId = "") (creates : database.createProject now fresh input = .ok (created, next)) :
    AddsOwn subject database next := by
  obtain ⟨_, rest⟩ := check_bind_ok.mp creates
  obtain ⟨projects, insertsProject, rest⟩ := bind_ok.mp rest
  obtain ⟨deployments, _, rest⟩ := bind_ok.mp rest
  obtain ⟨distributions, _, rest⟩ := bind_ok.mp rest
  obtain ⟨assignments, assigns, rest⟩ := bind_ok.mp rest
  obtain ⟨bound, binds, same⟩ := bind_ok.mp rest
  cases same
  rw [okOr_ok] at insertsProject
  rw [Database.assignNamed, if_pos unnamed] at assigns
  cases assigns
  obtain ⟨rows, rfl⟩ := insertProjectBindings_ok binds
  refine ⟨?_, ?_⟩
  · intro other gateway present
    exact .inl present
  · intro project mem
    cases (Rows.mem_insert? insertsProject).mp mem with
    | inl stored => exact .inr (.inl ⟨project, stored, rfl, rfl⟩)
    | inr isNew =>
      rw [isNew]
      exact .inl unnamed

/-! ## What an update of a project changes -/

theorem validated_bindings (validated : database.validateProjectBindings bindingIds = .ok ()) :
    bindingIds.Nodup ∧ ∀ bindingId ∈ bindingIds, database.agentBindings.any (fun row => row.id == bindingId) = true := by
  obtain ⟨_, counted⟩ := check_bind_ok.mp validated
  rw [ensure_ok] at counted
  cases counted with
  | inl isEmpty => simp [isEmpty]
  | inr counted =>
    -- As many different ids are stored as are given.
    let stored := (database.agentBindings.filter fun row => bindingIds.contains row.id).map AgentBinding.id
    have size : stored.length = bindingIds.length := by
      rw [List.length_map, ← counted, Rows.filter, Rows.count, List.countP_eq_length_filter]
    have different : stored.Nodup := by
      apply List.Pairwise.map (R := fun first second : AgentBinding => clash first second = false)
      · intro first second free same
        simp [clash, Keyed.conflicts, Keyed.key, same] at free
      · exact database.agentBindings.apart.sublist List.filter_sublist
    have given : stored.toFinset ⊆ bindingIds.toFinset := by
      intro id mem
      obtain ⟨row, isRow, rfl⟩ := List.mem_map.mp (List.mem_toFinset.mp mem)
      simpa using (Rows.mem_filter.mp isRow).2
    have enough : bindingIds.toFinset.card ≤ stored.toFinset.card := by
      rw [List.toFinset_card_of_nodup different, size]
      exact bindingIds.toFinset_card_le
    have same := Finset.eq_of_subset_of_card_le given enough
    constructor
    · rw [← Multiset.coe_nodup, ← Multiset.toFinset_card_eq_card_iff_nodup]
      show bindingIds.toFinset.card = bindingIds.length
      rw [← same, List.toFinset_card_of_nodup different, size]
    · intro bindingId mem
      rw [← List.mem_toFinset, ← same, List.mem_toFinset] at mem
      obtain ⟨row, isRow, isId⟩ := List.mem_map.mp mem
      exact Rows.any_eq_true.mpr ⟨row, (Rows.mem_filter.mp isRow).1, beq_iff_eq.mpr isId⟩

theorem insertProjectBindings_isOk (different : bindingIds.Nodup)
    (exist : ∀ bindingId ∈ bindingIds, database.agentBindings.any (fun row => row.id == bindingId) = true)
    (free : ∀ row ∈ database.projectBindings, row.projectId = projectId → row.bindingId ∉ bindingIds) :
    ∃ inserted, bindingIds.foldlM (Database.insertProjectBinding projectId) database = .ok inserted := by
  induction bindingIds generalizing database with
  | nil => exact ⟨database, rfl⟩
  | cons bindingId bindingIds ih =>
    rw [List.nodup_cons] at different
    rw [List.forall_mem_cons] at exist
    have isFree : (database.projectBindings.insert? ⟨projectId, bindingId⟩).isSome = true := by
      rw [Rows.insert?_isSome]
      intro row stored
      have apart := free row stored
      simp only [clash, Keyed.conflicts, Keyed.key, beq_eq_false_iff_ne, ne_eq, Prod.mk.injEq]
      rintro ⟨isProject, isBinding⟩
      exact apart isProject (isBinding ▸ List.mem_cons_self)
    obtain ⟨rows, inserts⟩ := Option.isSome_iff_exists.mp isFree
    have first : database.insertProjectBinding projectId bindingId = .ok { database with projectBindings := rows } := by
      rw [Database.insertProjectBinding, inserts]
      exact check_bind_ok.mpr ⟨ensure_ok.mpr exist.1, rfl⟩
    have rest : ∃ inserted, bindingIds.foldlM (Database.insertProjectBinding projectId)
        { database with projectBindings := rows } = .ok inserted := ih different.2 exist.2 (by
      intro row mem isProject
      cases (Rows.mem_insert? inserts).mp mem with
      | inl stored => exact fun later => free row stored isProject (List.mem_cons_of_mem _ later)
      | inr isNew =>
        rw [isNew]
        exact different.1)
    obtain ⟨inserted, rest⟩ := rest
    exact ⟨inserted, by rw [List.foldlM_cons, first]; exact rest⟩

theorem replaceBindings_ok {replaced : Option (List Uuid)}
    (binds : database.replaceBindings id current replaced = .ok (bindingIds, next)) :
    ∃ rows, next = { database with projectBindings := rows } := by
  rw [Database.replaceBindings.eq_def] at binds
  split at binds
  next =>
    obtain ⟨inserted, inserts, same⟩ := bind_ok.mp binds
    cases same
    obtain ⟨rows, rfl⟩ := insertProjectBindings_ok inserts
    exact ⟨rows, rfl⟩
  next =>
    cases binds
    exact ⟨_, rfl⟩

structure Updated (id : Uuid) (patch : ProjectPatch) (database next : Database) : Prop where
  projects : ∀ project, project ∈ next.projects ↔
    ∃ row ∈ database.projects, Rows.updated (fun row => row.id == id) patch.apply row = project
  attached : ∀ other gateway, next.assigned other gateway = true → database.assigned other gateway = true ∨
    patch.gatewayId = some gateway ∧ ∃ deployment ∈ database.runtimeDeployments, deployment.projectId = id ∧
      deployment.isPrimary = true ∧ other = deployment.id
  placed : ∀ gateway, patch.gatewayId = some gateway → ∀ deployment ∈ database.runtimeDeployments,
    deployment.projectId = id → deployment.isPrimary = true → next.assigned deployment.id gateway = true

section

variable {id : Uuid} {updated : ProjectWithBindings}
  (updates : database.updateProject now id patch = .ok (updated, next))
include updates

theorem updateProject_updated : Updated id patch database next := by
  obtain ⟨current, _, rest⟩ := bind_ok.mp updates
  obtain ⟨_, rest⟩ := check_bind_ok.mp rest
  obtain ⟨projects, patches, rest⟩ := bind_ok.mp rest
  obtain ⟨⟨bindingIds, bound⟩, binds, rest⟩ := bind_ok.mp rest
  obtain ⟨reassigned, reassigns, same⟩ := bind_ok.mp rest
  cases same
  rw [okOr_ok] at patches
  obtain ⟨rows, rfl⟩ := replaceBindings_ok binds
  have isPatched (project : Project) : project ∈ projects ↔
      ∃ row ∈ database.projects, Rows.updated _ _ row = project := Rows.mem_update? patches
  cases given : patch.gatewayId with
  | none =>
    rw [given] at reassigns
    cases reassigns
    exact ⟨isPatched, fun _ _ present => .inl present, by simp [given]⟩
  | some gatewayId =>
    rw [given, Database.reassignPrimary] at reassigns
    split at reassigns
    next primary found =>
      obtain ⟨stored, named⟩ := Rows.mem_of_find? found
      simp only [Bool.and_eq_true, beq_iff_eq] at named
      obtain ⟨⟨assignments, isNext⟩, assigned⟩ := Database.assignGateway_ok reassigns
      refine ⟨?_, ?_, ?_⟩
      · rw [isNext]
        exact isPatched
      · intro other gateway present
        cases (assigned other gateway).mp present with
        | inl earlier => exact .inl (dropAssignment_assigned.mp earlier).1
        | inr isNew => exact .inr ⟨by rw [given, isNew.2], primary, stored, named.1, named.2, isNew.1⟩
      · intro gateway isGiven deployment isStored isOf isPrimary
        rw [given, Option.some.injEq] at isGiven
        rw [primary_unique isStored stored (isOf.trans named.1.symm) isPrimary named.2, ← isGiven]
        exact (assigned _ _).mpr (.inr ⟨rfl, rfl⟩)
    next missing =>
      cases reassigns
      refine ⟨isPatched, fun _ _ present => .inl present, ?_⟩
      intro gateway _ deployment stored isOf isPrimary
      have absent := Rows.find?_eq_none.mp missing deployment stored
      simp [isOf, isPrimary] at absent

theorem accepts_of_updateProject : AcceptsPatch database id patch := by
  obtain ⟨current, isCurrent, rest⟩ := bind_ok.mp updates
  obtain ⟨validated, rest⟩ := check_bind_ok.mp rest
  obtain ⟨projects, patches, _⟩ := bind_ok.mp rest
  rw [okOr_ok] at patches
  exact ⟨current, isCurrent, validated, by rw [patches]; rfl⟩

end

theorem updateProject_isOk (accepts : AcceptsPatch database id patch) :
    ∃ result, database.updateProject now id patch = .ok result := by
  obtain ⟨current, isCurrent, validated, isFree⟩ := accepts
  obtain ⟨projects, patches⟩ := Option.isSome_iff_exists.mp isFree
  have binds : ∃ bound, { database with projects }.replaceBindings id current patch.bindingIds = .ok bound := by
    cases given : patch.bindingIds with
    | none => exact ⟨_, rfl⟩
    | some bindingIds =>
      rw [Database.patchedBindings, given] at validated
      obtain ⟨different, exist⟩ := validated_bindings validated
      have cleared : ∃ inserted, bindingIds.foldlM (Database.insertProjectBinding id)
          { database with
            projects
            projectBindings := database.projectBindings.delete fun row => row.projectId == id } = .ok inserted :=
        insertProjectBindings_isOk different exist (by
          intro row mem isProject
          rw [Rows.mem_delete, isProject] at mem
          simp at mem)
      obtain ⟨inserted, inserts⟩ := cleared
      exact ⟨_, bind_ok.mpr ⟨inserted, inserts, rfl⟩⟩
  obtain ⟨⟨bindingIds, bound⟩, binds⟩ := binds
  have reassigns : ∃ reassigned, bound.reassignPrimary now id current.project.gatewayId patch.gatewayId = .ok reassigned := by
    rw [Database.reassignPrimary.eq_def]
    split
    next =>
      split
      next primary found =>
        apply Database.assignGateway_isOk
        exact Database.hasDeployment_iff.mpr ⟨primary, (Rows.mem_of_find? found).1, rfl⟩
      next => exact ⟨_, rfl⟩
    next => exact ⟨_, rfl⟩
  obtain ⟨reassigned, reassigns⟩ := reassigns
  refine ⟨(⟨patch.apply current.project, bindingIds⟩, reassigned), ?_⟩
  refine bind_ok.mpr ⟨current, isCurrent, check_bind_ok.mpr ⟨validated, bind_ok.mpr ⟨projects, ?_, ?_⟩⟩⟩
  · rw [patches]
    rfl
  · exact bind_ok.mpr ⟨_, binds, bind_ok.mpr ⟨reassigned, reassigns, rfl⟩⟩

end

/-! ## Every sequence of calls -/

inductive ProjectRequest where
  | create (input : CreateProject)
  | update (id : Uuid) (input : UpdateProject)
  | assign (slug deployment gatewayId : String)
  | unassign (slug deployment gatewayId : String)
  | promote (slug deployment : String)

structure UserCall where
  subject : String
  issuer : String
  operations : List Operation
  draws : Draws
  request : ProjectRequest

namespace UserCall

def identity (call : UserCall) : Identity := .actingUser call.subject call.issuer call.operations

def handle (call : UserCall) (database : Database) : Except ApiError (Unit × Database) :=
  match call.request with
  | .create input => (Api.createProject call.draws call.identity input database).map fun created => ((), created.2)
  | .update id input => (Api.updateProject call.draws call.identity id input database).map fun updated => ((), updated.2)
  | .assign slug deployment gatewayId =>
    Api.assignRuntimeDeploymentAgentGateway call.draws call.identity slug deployment gatewayId database
  | .unassign slug deployment gatewayId =>
    Api.unassignRuntimeDeploymentAgentGateway call.identity slug deployment gatewayId database
  | .promote slug deployment =>
    (Api.promoteProjectRuntimeDeployment call.identity slug deployment database).map fun promoted => ((), promoted.2)

def after (database : Database) (call : UserCall) : Database := database.commit (call.handle database)

def serve (database : Database) (call : UserCall) : Except ApiError Unit × Database :=
  ((call.handle database).map Prod.fst, call.after database)

/-- A project that is updated with a gateway is given the caller's own, or one that served it already and is assigned
to its primary deployment. -/
def UsesOwn (database : Database) (call : UserCall) : Prop :=
  match call.request with
  | .update id input => ∀ current patch gatewayId, database.getProject id = .ok current →
      requireProjectOperation call.identity .projectWrite current.project.ownerUserId = .ok () →
      input.patch = .ok patch → patch.gatewayId = some gatewayId → AcceptsPatch database id patch →
        Owns database call.subject gatewayId ∨
          (∀ deployment ∈ database.runtimeDeployments, deployment.projectId = id → deployment.isPrimary = true →
            database.assigned deployment.id gatewayId = true) ∧
          (current.project.gatewayId = gatewayId ∨ Serves database id gatewayId)
  | _ => True

def Adds (database : Database) (call : UserCall) : Prop := AddsOwn call.subject database (call.after database)

section

variable {database : Database} {call : UserCall} {id : Uuid} {input : UpdateProject} {next : Database}

theorem after_of_ok (succeeds : call.handle database = .ok ((), next)) : after database call = next := by
  rw [after, succeeds]
  rfl

theorem adds_of_error {error : ApiError} (fails : call.handle database = .error error) : Adds database call := by
  rw [Adds, after, fails]
  exact AddsOwn.refl _ _

theorem handle_update (isUpdate : call.request = .update id input)
    (succeeds : call.handle database = .ok ((), next)) :
    ∃ current patch updated, database.getProject id = .ok current ∧
      requireProjectOperation call.identity .projectWrite current.project.ownerUserId = .ok () ∧
      input.patch = .ok patch ∧ database.updateProject call.draws.now id patch = .ok (updated, next) := by
  rw [handle, isUpdate] at succeeds
  obtain ⟨updated, updates, same⟩ := map_ok.mp succeeds
  obtain ⟨current, isCurrent, rest⟩ := bind_ok.mp updates
  obtain ⟨allowed, rest⟩ := check_bind_ok.mp rest
  obtain ⟨patch, reads, changes⟩ := bind_ok.mp rest
  cases same
  exact ⟨current, patch, updated.1, isCurrent, allowed, reads, changes⟩

theorem current_mem (isCurrent : database.getProject id = .ok current) :
    current.project ∈ database.projects ∧ current.project.id = id := by
  obtain ⟨project, found, same⟩ := map_ok.mp isCurrent
  rw [okOr_ok] at found
  obtain ⟨stored, named⟩ := Rows.mem_of_find? found
  rw [← same]
  exact ⟨stored, beq_iff_eq.mp named⟩

theorem project_unique {first second : Project} (stored : first ∈ database.projects) (mem : second ∈ database.projects)
    (same : first.id = second.id) : first = second :=
  Rows.unique stored mem (by simp [clash, Keyed.conflicts, Keyed.key, same])

theorem patch_gateway {gatewayId : String} (reads : input.patch = .ok patch)
    (given : patch.gatewayId = some gatewayId) : gatewayId ≠ "" := by
  obtain ⟨slug, _, rest⟩ := bind_ok.mp reads
  obtain ⟨name, _, rest⟩ := bind_ok.mp rest
  obtain ⟨description, _, rest⟩ := bind_ok.mp rest
  obtain ⟨gateway, checks, same⟩ := bind_ok.mp rest
  cases same
  dsimp only at given
  rw [given] at checks
  cases isInput : input.gatewayId with
  | none => simp [isInput, checked] at checks
  | some value =>
    rw [isInput, checked] at checks
    obtain ⟨read, required, isRead⟩ := map_ok.mp checks
    rw [Option.some.injEq] at isRead
    rw [← isRead]
    exact ne_empty_of_requiredIdentifier required

theorem usesOwn_of_adds (isUpdate : call.request = .update id input) (adds : Adds database call) : UsesOwn database call := by
  rw [UsesOwn, isUpdate]
  intro current patch gatewayId isCurrent allowed reads given accepts
  obtain ⟨⟨updated, next⟩, updates⟩ : ∃ result, database.updateProject call.draws.now id patch = .ok result :=
    updateProject_isOk accepts
  have succeeds : call.handle database = .ok ((), next) := by
    rw [handle, isUpdate]
    exact map_ok.mpr ⟨_, bind_ok.mpr ⟨current, isCurrent, check_bind_ok.mpr ⟨allowed, bind_ok.mpr ⟨patch, reads, updates⟩⟩⟩, rfl⟩
  rw [Adds, after_of_ok succeeds] at adds
  have changed := updateProject_updated updates
  obtain ⟨stored, isProject⟩ := current_mem isCurrent
  by_cases owns : Owns database call.subject gatewayId
  · exact .inl owns
  · refine .inr ⟨?_, ?_⟩
    · intro deployment mem isOf isPrimary
      exact (adds.attached _ _ (changed.placed gatewayId given deployment mem isOf isPrimary)).resolve_right owns
    · have isNamed := adds.named (patch.apply current.project) ((changed.projects _).mpr
        ⟨current.project, stored, if_pos (beq_iff_eq.mpr isProject)⟩)
      have names : (patch.apply current.project).gatewayId = gatewayId := by
        rw [ProjectPatch.apply, given]
        rfl
      have same : (patch.apply current.project).id = id := isProject
      rw [names, same] at isNamed
      obtain unnamed | earlier | serves | isOwn := isNamed
      · exact (patch_gateway reads given unnamed).elim
      · obtain ⟨row, mem, isRow, keeps⟩ := earlier
        rw [project_unique stored mem (isProject.trans isRow.symm)]
        exact .inl keeps
      · exact .inr serves
      · exact (owns isOwn).elim

theorem adds_of_usesOwn (isUpdate : call.request = .update id input) (uses : UsesOwn database call) : Adds database call := by
  cases outcome : call.handle database with
  | error error => exact adds_of_error outcome
  | ok result =>
    obtain ⟨current, patch, updated, isCurrent, allowed, reads, updates⟩ := handle_update isUpdate outcome
    rw [UsesOwn, isUpdate] at uses
    rw [Adds, after_of_ok outcome]
    have changed := updateProject_updated updates
    have accepts := accepts_of_updateProject updates
    obtain ⟨stored, isProject⟩ := current_mem isCurrent
    refine ⟨?_, ?_⟩
    · intro other gateway present
      cases changed.attached other gateway present with
      | inl earlier => exact .inl earlier
      | inr isNew =>
        obtain ⟨given, deployment, mem, isOf, isPrimary, same⟩ := isNew
        cases uses current patch gateway isCurrent allowed reads given accepts with
        | inl owns => exact .inr owns
        | inr isPlaced =>
          rw [same]
          exact .inl (isPlaced.1 deployment mem isOf isPrimary)
    · intro project mem
      obtain ⟨row, isRow, rfl⟩ := (changed.projects project).mp mem
      rw [Rows.updated]
      split
      next named =>
        rw [beq_iff_eq] at named
        rw [project_unique isRow stored (named.trans isProject.symm)]
        cases given : patch.gatewayId with
        | none => exact .inr (.inl ⟨current.project, stored, rfl, by simp [ProjectPatch.apply, given]⟩)
        | some gatewayId =>
          have names : (patch.apply current.project).gatewayId = gatewayId := by
            rw [ProjectPatch.apply, given]
            rfl
          have same : (patch.apply current.project).id = id := isProject
          rw [names, same]
          obtain owns | ⟨_, keeps | serves⟩ := uses current patch gatewayId isCurrent allowed reads given accepts
          · exact .inr (.inr (.inr owns))
          · exact .inr (.inl ⟨current.project, stored, isProject, keeps⟩)
          · exact .inr (.inr (.inl serves))
      next => exact .inr (.inl ⟨row, isRow, rfl, rfl⟩)

theorem owns_of_ownedDeployment {slug deployment gatewayId : String} {ids : Uuid × Uuid}
    (passes : Api.ownedDeployment call.identity slug deployment gatewayId database = .ok ids) :
    Owns database call.subject gatewayId := by
  obtain ⟨project, _, rest⟩ := bind_ok.mp passes
  obtain ⟨name, _, rest⟩ := bind_ok.mp rest
  obtain ⟨found, _, rest⟩ := bind_ok.mp rest
  obtain ⟨authorized, _⟩ := check_bind_ok.mp rest
  obtain ⟨authorization, reads, rest⟩ := bind_ok.mp authorized
  obtain ⟨_, owner⟩ := check_bind_ok.mp rest
  rw [Database.getAgentGatewayAuthorization, okOr_ok] at reads
  obtain ⟨stored, named⟩ := Rows.mem_of_find? reads
  exact ⟨authorization, stored, beq_iff_eq.mp named, ensure_ok.mp owner⟩

theorem adds_unless_update (isOther : ∀ id input, call.request ≠ .update id input) : Adds database call := by
  cases outcome : call.handle database with
  | error error => exact adds_of_error outcome
  | ok result =>
    rw [Adds, after_of_ok outcome]
    rw [handle] at outcome
    cases isRequest : call.request with
    | create input =>
      rw [isRequest] at outcome
      obtain ⟨created, creates, same⟩ := map_ok.mp outcome
      cases same
      obtain ⟨_, rest⟩ := check_bind_ok.mp creates
      obtain ⟨name, _, rest⟩ := bind_ok.mp rest
      obtain ⟨slug, _, rest⟩ := bind_ok.mp rest
      obtain ⟨description, _, inserts⟩ := bind_ok.mp rest
      exact AddsOwn.createProject rfl inserts
    | update id input => exact (isOther id input isRequest).elim
    | assign slug deployment gatewayId =>
      rw [isRequest] at outcome
      obtain ⟨ids, passes, assigns⟩ := bind_ok.mp outcome
      exact AddsOwn.assign (owns_of_ownedDeployment passes) assigns
    | unassign slug deployment gatewayId =>
      rw [isRequest] at outcome
      obtain ⟨ids, _, unassigns⟩ := bind_ok.mp outcome
      exact AddsOwn.unassign unassigns
    | promote slug deployment =>
      rw [isRequest] at outcome
      obtain ⟨promoted, promotes, same⟩ := map_ok.mp outcome
      cases same
      obtain ⟨project, _, rest⟩ := bind_ok.mp promotes
      obtain ⟨name, _, switches⟩ := bind_ok.mp rest
      exact AddsOwn.promote switches

theorem adds_iff (database : Database) (call : UserCall) : Adds database call ↔ UsesOwn database call := by
  cases isRequest : call.request with
  | update id input => exact ⟨usesOwn_of_adds isRequest, adds_of_usesOwn isRequest⟩
  | create _ | assign _ _ _ | unassign _ _ _ | promote _ _ =>
    have isOther : ∀ id input, call.request ≠ .update id input := by simp [isRequest]
    exact iff_of_true (adds_unless_update isOther) (by simp [UsesOwn, isRequest])

end

end UserCall

/-- In a sequence of calls every one adds only gateways of its caller exactly when no project is updated with another
gateway. -/
theorem gateways_put_to_work_by_owners (database : Database) (calls : List UserCall) :
    Admitted UserCall.serve UserCall.Adds database calls ↔ Admitted UserCall.serve UserCall.UsesOwn database calls :=
  admitted_congr UserCall.adds_iff calls database

def ownedTown : Database :=
  { Database.empty with
    agentGatewayMachines := .singleton ⟨"vifu_machine_town", "key-town"⟩
    agentGatewayAuthorizations := .singleton
      ⟨"gateway-two", "vifu_machine_town", some "user-123", .active, "vifu_gw_town", [1], 1, 100, none, none⟩ }

def townDraws : Draws := ⟨townProject, townFresh, "0190f2c4", "7b1e7c3a", 1⟩

def takeGateway : List UserCall :=
  [⟨"user-456", "town", [.projectWrite], townDraws, .create ⟨some "remote-project", "Remote project", none⟩⟩,
    ⟨"user-456", "town", [.projectWrite], townDraws,
      .update townProject ⟨none, none, none, some "gateway-two", none, none⟩⟩]

theorem gateway_taken_by_another_user :
    ¬∀ database calls, Admitted UserCall.serve UserCall.Adds database calls := by
  intro adds
  obtain ⟨_, ⟨attached, _⟩, _⟩ := adds ownedTown takeGateway
  cases attached townDeployment "gateway-two" (by decide +kernel) with
  | inl earlier => exact absurd earlier (by decide +kernel)
  | inr owns => exact absurd owns (by decide +kernel)

end Vifu.Server
