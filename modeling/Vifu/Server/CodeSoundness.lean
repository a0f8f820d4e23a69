import Vifu.Server.CodeReleases

/-!
# Soundness of code releases

A release moves along its states, and a deployment names releases of its own: an active one that is ready, and a
pending one that has not failed.  An `update` to `failed` takes the release off its deployment even when it has come
too late to fail it, and then says that nothing was changed.
-/

namespace Vifu.Server

open Foundation
open Vifu.Gateway

/-! ## What is asked of the tables -/

inductive CodeReleaseStatus.Moves : CodeReleaseStatus → CodeReleaseStatus → Prop where
  | stay (status : CodeReleaseStatus) : Moves status status
  | build : Moves .uploading .building
  | finish : Moves .building .ready
  | failUpload : Moves .uploading .failed
  | failBuild : Moves .building .failed

namespace CodeTables

def Names (tables : CodeTables) (releaseId : String) (deploymentId : Uuid) (Holds : CodeRelease → Prop) : Prop :=
  ∃ release ∈ tables.projectCodeReleases, release.releaseId = releaseId ∧ release.deploymentId = deploymentId ∧
    Holds release

def ActiveReady (tables : CodeTables) : Prop :=
  ∀ row ∈ tables.projectCodeDeploymentState, ∀ releaseId, row.activeReleaseId = some releaseId →
    tables.Names releaseId row.deploymentId fun release => release.status = .ready

def Pending (tables : CodeTables) (Holds : CodeRelease → Prop) : Prop :=
  ∀ row ∈ tables.projectCodeDeploymentState, ∀ releaseId, row.pendingReleaseId = some releaseId →
    tables.Names releaseId row.deploymentId Holds

/-- Releases stay, and their states move on. -/
def Later (tables next : CodeTables) : Prop :=
  ∀ release ∈ tables.projectCodeReleases, next.Names release.releaseId release.deploymentId fun later =>
    release.status.Moves later.status

def Begins (tables next : CodeTables) : Prop :=
  ∀ later ∈ next.projectCodeReleases, later.status = .uploading ∨ ∃ release ∈ tables.projectCodeReleases,
    release.releaseId = later.releaseId

end CodeTables

/-- The second write of a failure, if one is next, goes through after the first one has found the release, and finds
nothing that waits for the release otherwise. -/
def CodePhase.ClearsInTime (tables : CodeTables) (requested : String) (fails : Bool) : CodePhase → Prop
  | .clearing current updated =>
    if updated.isSome then fails = false
    else fails = true ∨ tables.projectCodeDeploymentState.any
      (CodeTables.waitsFor current.deploymentId requested) = false
  | _ => True

instance (tables : CodeTables) (requested : String) (fails : Bool) :
    ∀ phase : CodePhase, Decidable (phase.ClearsInTime tables requested fails)
  | .clearing _ _ => inferInstanceAs (Decidable (ite _ _ _))
  | .reading | .writing _ | .returned _ => .isTrue trivial

namespace CodeState

def isQuiet (state : CodeState) : Bool :=
  state.handlers.all fun handler => match handler.phase with
    | .returned _ => true
    | _ => false

structure Sound (state : CodeState) : Prop where
  active : state.isQuiet = true → state.tables.ActiveReady
  pending : state.isQuiet = true → state.tables.Pending fun release => release.status ≠ .failed
  moves : ∀ action next, state.step action = some next →
    state.tables.Later next.tables ∧ state.tables.Begins next.tables
  unchanged : ∀ handler ∈ state.handlers, ∀ error, handler.phase = .returned (.error error) → handler.changed = false

/-- A failure that was written is taken off its deployment, and one that came too late finds the release no longer
pending. -/
def FailsInTime (state : CodeState) : Action → Prop
  | .run index fails => ∀ handler, state.handlers[index]? = some handler →
    handler.phase.ClearsInTime state.tables handler.request.releaseId fails
  | _ => True

instance : ∀ (state : CodeState) (action : Action), Decidable (state.FailsInTime action)
  | _, .arrive _ _ _ => .isTrue trivial
  | state, .run index fails =>
    inferInstanceAs (Decidable (∀ handler, state.handlers[index]? = some handler →
      handler.phase.ClearsInTime state.tables handler.request.releaseId fails))

end CodeState

/-! ## What a statement leaves -/

namespace CodeTables

variable {tables next : CodeTables} {releaseId : String} {deploymentId : Uuid}
  {Holds Shows : CodeRelease → Prop}

theorem Later.refl (tables : CodeTables) : tables.Later tables :=
  fun release mem => ⟨release, mem, rfl, rfl, .stay _⟩

theorem Begins.refl (tables : CodeTables) : tables.Begins tables :=
  fun release mem => .inr ⟨release, mem, rfl⟩

theorem Names.imp (names : tables.Names releaseId deploymentId Holds)
    (implies : ∀ release, Holds release → Shows release) : tables.Names releaseId deploymentId Shows := by
  obtain ⟨release, mem, isRelease, isDeployment, holds⟩ := names
  exact ⟨release, mem, isRelease, isDeployment, implies release holds⟩

theorem Names.later (names : tables.Names releaseId deploymentId Holds) (isLater : tables.Later next)
    (stays : ∀ release later : CodeRelease, release.status.Moves later.status → Holds release → Shows later) :
    next.Names releaseId deploymentId Shows := by
  obtain ⟨release, mem, rfl, rfl, holds⟩ := names
  exact (isLater release mem).imp fun later moves => stays release later moves holds

theorem ready_stays (release later : CodeRelease) (moves : release.status.Moves later.status)
    (ready : release.status = .ready) : later.status = .ready := by
  rw [ready] at moves
  generalize isStatus : later.status = status at moves
  cases moves
  rfl

theorem eq_of_releaseId {release other : CodeRelease} (mem : release ∈ tables.projectCodeReleases)
    (stored : other ∈ tables.projectCodeReleases) (same : release.releaseId = other.releaseId) : release = other :=
  Rows.unique mem stored (beq_iff_eq.mpr same)

variable {projectId : Uuid} {among : List CodeReleaseStatus} {change : CodeRelease → CodeRelease}
  {keeps : ∀ row, (change row).releaseId = row.releaseId}

theorem mem_updateRelease {row : CodeRelease} :
    row ∈ (tables.updateRelease projectId releaseId among change keeps).2.projectCodeReleases ↔
      ∃ release ∈ tables.projectCodeReleases, Rows.updated (isAmong projectId releaseId among) change release = row := by
  rw [updateRelease, Rows.mem_update]

theorem updateRelease_later (sameDeployment : ∀ row, (change row).deploymentId = row.deploymentId)
    (moves : ∀ row : CodeRelease, row.status ∈ among → row.status.Moves (change row).status) :
    tables.Later (tables.updateRelease projectId releaseId among change keeps).2 := by
  intro release mem
  refine ⟨Rows.updated (isAmong projectId releaseId among) change release,
    mem_updateRelease.mpr ⟨release, mem, rfl⟩, ?_⟩
  rw [Rows.updated]
  split
  next named =>
    refine ⟨keeps release, sameDeployment release, moves release ?_⟩
    simp only [isAmong, Bool.and_eq_true, List.contains_iff_mem] at named
    exact named.2
  next => exact ⟨rfl, rfl, .stay _⟩

theorem updateRelease_begins : tables.Begins (tables.updateRelease projectId releaseId among change keeps).2 := by
  intro later mem
  obtain ⟨release, stored, isLater⟩ := mem_updateRelease.mp mem
  refine .inr ⟨release, stored, ?_⟩
  rw [← isLater, Rows.updated]
  split
  next => exact (keeps release).symm
  next => rfl

theorem updateRelease_of_none
    (missing : (tables.updateRelease projectId releaseId among change keeps).1 = none) :
    (tables.updateRelease projectId releaseId among change keeps).2 = tables := by
  have none := Rows.find?_eq_none.mp (Option.map_eq_none_iff.mp missing)
  simp only [updateRelease, Rows.update_of_forall_not none]

theorem ActiveReady.later (active : tables.ActiveReady) (isLater : tables.Later next)
    (same : next.projectCodeDeploymentState = tables.projectCodeDeploymentState) : next.ActiveReady := by
  intro row mem activeId isActive
  rw [same] at mem
  exact (active row mem activeId isActive).later isLater ready_stays

theorem updateRelease_pending (pending : tables.Pending Holds)
    (sameDeployment : ∀ row, (change row).deploymentId = row.deploymentId)
    (stays : ∀ release ∈ tables.projectCodeReleases, Holds release →
      Shows (Rows.updated (isAmong projectId releaseId among) change release)) :
    (tables.updateRelease projectId releaseId among change keeps).2.Pending Shows := by
  intro row mem pendingId isPending
  obtain ⟨release, stored, rfl, isDeployment, holds⟩ := pending row mem pendingId isPending
  refine ⟨_, mem_updateRelease.mpr ⟨release, stored, rfl⟩, ?_, ?_, stays release stored holds⟩
  · rw [Rows.updated]
    split
    next => exact keeps release
    next => rfl
  · rw [Rows.updated]
    split
    next => exact (sameDeployment release).trans isDeployment
    next => exact isDeployment

variable {row stored : CodeDeploymentState} {set : CodeDeploymentState → CodeDeploymentState}
  {stays : ∀ row, (set row).deploymentId = row.deploymentId}

theorem mem_upsertState (mem : stored ∈ (tables.upsertState row set stays).projectCodeDeploymentState) :
    stored = row ∨ (∃ before ∈ tables.projectCodeDeploymentState, before.deploymentId = row.deploymentId ∧
      stored = set before) ∨ stored ∈ tables.projectCodeDeploymentState := by
  rw [upsertState] at mem
  cases inserted : tables.projectCodeDeploymentState.insert? row with
  | some rows =>
    simp only [inserted, Option.getD_some] at mem
    rcases (Rows.mem_insert? inserted).mp mem with before | isRow
    · exact .inr (.inr before)
    · exact .inl isRow
  | none =>
    simp only [inserted, Option.getD_none] at mem
    obtain ⟨before, memberBefore, isStored⟩ := Rows.mem_update.mp mem
    rw [Rows.updated] at isStored
    split at isStored
    next named => exact .inr (.inl ⟨before, memberBefore, eq_of_beq named, isStored.symm⟩)
    next => exact .inr (.inr (isStored ▸ memberBefore))

theorem mem_updateState :
    stored ∈ (tables.updateState deploymentId releaseId set stays).projectCodeDeploymentState ↔
      ∃ before ∈ tables.projectCodeDeploymentState, Rows.updated (waitsFor deploymentId releaseId) set before = stored := by
  rw [updateState, Rows.mem_update]

theorem waitsFor_iff {before : CodeDeploymentState} : waitsFor deploymentId releaseId before = true ↔
      before.deploymentId = deploymentId ∧ before.pendingReleaseId = some releaseId := by
  rw [waitsFor, Bool.and_eq_true, beq_iff_eq, beq_iff_eq]

end CodeTables

/-! ## What a handler knows -/

def CodeWrite.Known (tables : CodeTables) (requested : String) : CodeWrite → Prop
  | .insert row => row.status = .uploading
  | .building _ | .ready _ _ _ => True
  | .failed current _ => tables.Names requested current.deploymentId fun _ => True
  | .activate release | .activateIfPending release =>
    tables.Names requested release.deploymentId fun stored => stored.status = .ready

def CodePhase.Known (tables : CodeTables) (requested : String) (changed : Bool) : CodePhase → Prop
  | .reading => changed = false
  | .writing write => changed = false ∧ write.Known tables requested
  | .clearing current updated =>
    (updated = none → changed = false) ∧ tables.Names requested current.deploymentId fun _ => True
  | .returned (.error _) => changed = false
  | .returned (.ok _) => True

variable {releaseId : String} {phase : CodePhase}

section

variable {tables next : CodeTables} {requested : String} {changed : Bool} {projectId : Uuid} {write : CodeWrite}

theorem CodeWrite.Known.later (known : write.Known tables requested) (isLater : tables.Later next) :
    write.Known next requested := by
  cases write with
  | insert row => exact known
  | building | ready => trivial
  | failed current failure => exact CodeTables.Names.later known isLater fun _ _ _ _ => trivial
  | activate release | activateIfPending release => exact CodeTables.Names.later known isLater CodeTables.ready_stays

theorem CodePhase.Known.later (known : phase.Known tables requested changed)
    (isLater : tables.Later next) : phase.Known next requested changed := by
  cases phase with
  | reading => exact known
  | writing write => exact ⟨known.1, known.2.later isLater⟩
  | clearing current updated => exact ⟨known.1, known.2.later isLater fun _ _ _ _ => trivial⟩
  | returned result => cases result <;> exact known

theorem known_of_getOwned {release : CodeRelease} (owned : tables.getOwned projectId releaseId = .ok release) :
    tables.Names releaseId release.deploymentId fun stored => stored = release := by
  obtain ⟨mem, named⟩ := Rows.mem_of_find? (okOr_ok.mp owned)
  simp only [Bool.and_eq_true, beq_iff_eq] at named
  exact ⟨release, mem, named.2, rfl, rfl⟩

theorem known_of_read {deployments : List (Uuid × Uuid)} {request : CodeRequest}
    (read : request.read deployments tables projectId = .ok write) : write.Known tables request.releaseId := by
  cases request with
  | create input =>
    simp only [CodeRequest.read, check_bind_ok, ensure_ok, pure_ok] at read
    rw [← read.2]
    rfl
  | update releaseId input =>
    obtain ⟨current, owned, decided⟩ := bind_ok.mp read
    have names := known_of_getOwned owned
    simp only [UpdateCodeRelease.decide] at decided
    split at decided
    next =>
      obtain ⟨buildRef, _, isWrite⟩ := bind_ok.mp decided
      rw [← pure_ok.mp isWrite]
      trivial
    next =>
      split at decided
      next =>
        obtain ⟨digest, _, decided⟩ := bind_ok.mp decided
        obtain ⟨service, _, decided⟩ := bind_ok.mp decided
        obtain ⟨revision, _, decided⟩ := bind_ok.mp decided
        rw [check_bind_ok, pure_ok] at decided
        rw [← decided.2]
        trivial
      next =>
        split at decided
        next =>
          cases decided
          exact names.imp fun _ _ => trivial
        next => cases decided
  | activate releaseId =>
    obtain ⟨release, owned, checked⟩ := bind_ok.mp read
    simp only [check_bind_ok, ensure_ok, pure_ok] at checked
    rw [← checked.2]
    exact (known_of_getOwned owned).imp fun stored same => same ▸ checked.1.1
  | activateIfPending releaseId =>
    obtain ⟨release, owned, checked⟩ := bind_ok.mp read
    simp only [check_bind_ok, ensure_ok, pure_ok] at checked
    rw [← checked.2]
    exact (known_of_getOwned owned).imp fun stored same => same ▸ checked.1

end

/-! ## Writes -/

namespace CodeTables

variable {tables : CodeTables} {requested : String} {projectId : Uuid} {write : CodeWrite} {current : CodeRelease}
  {excuse later : String → Uuid → Prop}

theorem write_later : tables.Later (tables.write projectId requested write).2 := by
  cases write with
  | insert row =>
    cases inserted : tables.projectCodeReleases.insert? row with
    | none =>
      simp only [CodeTables.write, inserted]
      exact .refl tables
    | some rows =>
      simp only [CodeTables.write, inserted]
      intro release mem
      exact ⟨release, (Rows.mem_insert? inserted).mpr (.inl mem), rfl, rfl, .stay _⟩
  | building buildRef =>
    refine updateRelease_later (fun _ => rfl) ?_
    intro row among
    rw [List.mem_singleton] at among
    exact among ▸ .build
  | ready digest service revision =>
    refine updateRelease_later (fun _ => rfl) ?_
    intro row among
    rw [List.mem_singleton] at among
    exact among ▸ .finish
  | failed current failure =>
    refine updateRelease_later (fun _ => rfl) ?_
    intro row among
    rw [List.mem_cons, List.mem_singleton] at among
    rcases among with uploading | building
    · exact uploading ▸ .failUpload
    · exact building ▸ .failBuild
  | activate release => exact .refl tables
  | activateIfPending release => exact .refl tables

theorem write_begins (known : write.Known tables requested) :
    tables.Begins (tables.write projectId requested write).2 := by
  cases write with
  | insert row =>
    cases inserted : tables.projectCodeReleases.insert? row with
    | none =>
      simp only [CodeTables.write, inserted]
      exact .refl tables
    | some rows =>
      simp only [CodeTables.write, inserted]
      intro later mem
      rcases (Rows.mem_insert? inserted).mp mem with before | rfl
      · exact .inr ⟨later, before, rfl⟩
      · exact .inl known
  | building | ready | failed => exact updateRelease_begins
  | activate | activateIfPending => exact .refl tables

theorem write_active (known : write.Known tables requested) (active : tables.ActiveReady) :
    (tables.write projectId requested write).2.ActiveReady := by
  have later : tables.Later (tables.write projectId requested write).2 := write_later
  cases write with
  | insert row =>
    cases inserted : tables.projectCodeReleases.insert? row with
    | none =>
      simp only [CodeTables.write, inserted]
      exact active
    | some rows =>
      simp only [CodeTables.write, inserted] at later ⊢
      intro stored mem activeId isActive
      rcases mem_upsertState mem with rfl | ⟨before, memberBefore, _, rfl⟩ | before
      · cases isActive
      · exact (active before memberBefore activeId isActive).later later ready_stays
      · exact (active stored before activeId isActive).later later ready_stays
  | building | ready | failed => exact active.later later rfl
  | activate release =>
    intro stored mem activeId isActive
    rcases mem_upsertState mem with rfl | ⟨before, memberBefore, isDeployment, rfl⟩ | before
    · cases isActive
      exact known
    · cases isActive
      exact isDeployment ▸ known
    · exact active stored before activeId isActive
  | activateIfPending release =>
    intro stored mem activeId isActive
    obtain ⟨before, memberBefore, isStored⟩ := mem_updateState.mp mem
    rw [Rows.updated] at isStored
    split at isStored
    next waits =>
      subst isStored
      cases isActive
      rw [show before.deploymentId = _ from (waitsFor_iff.mp waits).1]
      exact known
    next =>
      subst isStored
      exact active before memberBefore activeId isActive

def Excused (excuse : String → Uuid → Prop) (release : CodeRelease) : Prop :=
  release.status ≠ .failed ∨ excuse release.releaseId release.deploymentId

theorem write_pending (known : write.Known tables requested)
    (pending : tables.Pending (Excused excuse)) (grows : ∀ releaseId deploymentId, excuse releaseId deploymentId →
      later releaseId deploymentId)
    (clears : ∀ current updated, (tables.write projectId requested write).1 = .clearing current (some updated) →
      later requested current.deploymentId) :
    (tables.write projectId requested write).2.Pending (Excused later) := by
  have weaker : ∀ release, Excused excuse release → Excused later release :=
    fun release excused => excused.imp_right (grows _ _)
  cases write with
  | insert row =>
    cases inserted : tables.projectCodeReleases.insert? row with
    | none =>
      simp only [CodeTables.write, inserted]
      intro stored mem pendingId isPending
      exact (pending stored mem pendingId isPending).imp weaker
    | some rows =>
      have fresh : row ∈ rows := (Rows.mem_insert? inserted).mpr (.inr rfl)
      have isNew : Excused later row := .inl (by rw [show row.status = _ from known]; simp)
      simp only [CodeTables.write, inserted]
      intro stored mem pendingId isPending
      rcases mem_upsertState mem with rfl | ⟨before, memberBefore, isDeployment, rfl⟩ | before
      · cases isPending
        exact ⟨row, fresh, rfl, rfl, isNew⟩
      · cases isPending
        exact ⟨row, fresh, rfl, isDeployment.symm, isNew⟩
      · obtain ⟨release, memberRelease, isRelease, isDeployment, excused⟩ := pending stored before pendingId isPending
        exact ⟨release, (Rows.mem_insert? inserted).mpr (.inl memberRelease), isRelease, isDeployment,
          weaker release excused⟩
  | building buildRef =>
    refine updateRelease_pending pending (fun _ => rfl) ?_
    intro release _ excused
    rw [Rows.updated]
    split
    next => exact .inl (by simp)
    next => exact weaker release excused
  | ready digest service revision =>
    refine updateRelease_pending pending (fun _ => rfl) ?_
    intro release _ excused
    rw [Rows.updated]
    split
    next => exact .inl (by simp)
    next => exact weaker release excused
  | failed current failure =>
    refine updateRelease_pending pending (fun _ => rfl) ?_
    intro release mem excused
    rw [Rows.updated]
    split
    next among =>
      -- This is the release that the handler has read.
      obtain ⟨stored, memberStored, isStored, isDeployment, _⟩ := known
      have isRelease : release.releaseId = requested := by
        simp only [isAmong, Bool.and_eq_true, beq_iff_eq] at among
        exact among.1.2
      have same := eq_of_releaseId mem memberStored (isRelease.trans isStored.symm)
      obtain ⟨found, isFound⟩ := Option.isSome_iff_exists.mp (Rows.find?_isSome.mpr ⟨release, mem, among⟩)
      refine .inr ?_
      show later release.releaseId release.deploymentId
      rw [isRelease, same, isDeployment]
      exact clears current { found with status := .failed, failureMessage := some failure }
        (by simp [CodeTables.write, updateRelease, isFound])
    next => exact weaker release excused
  | activate release =>
    intro stored mem pendingId isPending
    rcases mem_upsertState mem with rfl | ⟨before, _, _, rfl⟩ | before
    · cases isPending
    · cases isPending
    · exact (pending stored before pendingId isPending).imp weaker
  | activateIfPending release =>
    intro stored mem pendingId isPending
    obtain ⟨before, memberBefore, isStored⟩ := mem_updateState.mp mem
    rw [Rows.updated] at isStored
    split at isStored
    next =>
      subst isStored
      cases isPending
    next =>
      subst isStored
      exact (pending before memberBefore pendingId isPending).imp weaker

theorem clear_pending
    (known : tables.Names requested current.deploymentId fun _ => True) (pending : tables.Pending (Excused excuse))
    (grows : ∀ releaseId deploymentId, excuse releaseId deploymentId → releaseId ≠ requested →
      later releaseId deploymentId) : (tables.clear current requested).Pending (Excused later) := by
  intro stored mem pendingId isPending
  obtain ⟨before, memberBefore, isStored⟩ := mem_updateState.mp mem
  rw [Rows.updated] at isStored
  split at isStored
  next =>
    subst isStored
    cases isPending
  next notWaits =>
    subst isStored
    obtain ⟨release, memberRelease, isRelease, isDeployment, excused⟩ := pending before memberBefore pendingId isPending
    refine ⟨release, memberRelease, isRelease, isDeployment, excused.imp_right fun excused => ?_⟩
    refine grows _ _ excused ?_
    intro isRequested
    -- The requested release has one deployment, and that one no longer waits for it.
    obtain ⟨known, memberKnown, isKnown, knownDeployment, _⟩ := known
    have same := eq_of_releaseId memberRelease memberKnown (isRequested.trans isKnown.symm)
    refine notWaits (waitsFor_iff.mpr ⟨?_, ?_⟩)
    · rw [← isDeployment, same, knownDeployment]
    · rw [isPending, ← isRelease, isRequested]

theorem clear_active (active : tables.ActiveReady) : (tables.clear current requested).ActiveReady := by
  intro stored mem activeId isActive
  obtain ⟨before, memberBefore, isStored⟩ := mem_updateState.mp mem
  rw [Rows.updated] at isStored
  split at isStored
  next =>
    subst isStored
    exact active before memberBefore activeId isActive
  next =>
    subst isStored
    exact active before memberBefore activeId isActive

theorem clear_of_none
    (none : tables.projectCodeDeploymentState.any (waitsFor current.deploymentId requested) = false) :
    tables.clear current requested = tables := by
  simp only [clear, updateState, Rows.update_of_forall_not (Rows.any_eq_false.mp none)]

theorem known_updateReply {requested : String} {changed : Bool} {updated : Option CodeRelease} {next : CodeTables}
    (unchanged : updated = none → changed = false) : (updateReply updated).Known next requested changed := by
  cases updated with
  | none => exact unchanged rfl
  | some release => trivial

theorem write_known (known : write.Known tables requested) :
    (tables.write projectId requested write).1.Known (tables.write projectId requested write).2 requested
      (decide ((tables.write projectId requested write).2 ≠ tables)) := by
  cases write with
  | insert row =>
    cases inserted : tables.projectCodeReleases.insert? row with
    | none => simp [CodeTables.write, inserted, CodePhase.Known]
    | some rows => simp [CodeTables.write, inserted, CodePhase.Known]
  | building | ready =>
    refine known_updateReply ?_
    intro missing
    exact decide_eq_false fun changes => changes (updateRelease_of_none missing)
  | failed current failure =>
    refine ⟨?_, CodeTables.Names.later known write_later fun _ _ _ _ => trivial⟩
    intro missing
    exact decide_eq_false fun changes => changes (updateRelease_of_none missing)
  | activate | activateIfPending => trivial

end CodeTables

/-! ## Runs -/

namespace CodeState

variable {state next : CodeState} {action : Action}

/-- A handler is going to take a failed release off its deployment. -/
def IsCleared (handlers : List CodeHandler) (releaseId : String) (deploymentId : Uuid) : Prop :=
  ∃ handler ∈ handlers, ∃ current updated, handler.phase = .clearing current (some updated) ∧
    current.deploymentId = deploymentId ∧ handler.request.releaseId = releaseId

/-- The invariant of every run in which failures come in time. -/
structure Kept (state : CodeState) : Prop where
  active : state.tables.ActiveReady
  pending : state.tables.Pending (CodeTables.Excused (IsCleared state.handlers))
  known : ∀ handler ∈ state.handlers, handler.phase.Known state.tables handler.request.releaseId handler.changed

theorem step_cases (stepped : state.step action = some next) :
    (∃ projectId isAdmin request, action = .arrive projectId isAdmin request ∧
      next = { state with
        handlers := state.handlers ++
          [⟨projectId, request,
            match request.check isAdmin with
            | .ok _ => .reading
            | .error error => .returned (.error error), false⟩] }) ∨
    ∃ index fails handler advanced, action = .run index fails ∧ state.handlers[index]? = some handler ∧
      state.advance handler = some advanced ∧
      next = state.setHandler index handler (if fails then (.returned (.error .database), state.tables) else advanced) := by
  cases action with
  | arrive projectId isAdmin request =>
    cases stepped
    exact .inl ⟨projectId, isAdmin, request, rfl, rfl⟩
  | run index fails =>
    obtain ⟨handler, found, stepped⟩ := Option.bind_eq_some_iff.mp stepped
    obtain ⟨advanced, isAdvanced, rfl⟩ := Option.map_eq_some_iff.mp stepped
    exact .inr ⟨index, fails, handler, advanced, rfl, found, isAdvanced, rfl⟩

variable {handler : CodeHandler} {advanced : CodePhase × CodeTables} {index : ℕ} {handlers : List CodeHandler}
  {deploymentId : Uuid}

theorem isCleared_append (isCleared : IsCleared handlers releaseId deploymentId) :
    IsCleared (handlers ++ [handler]) releaseId deploymentId := by
  obtain ⟨clearing, mem, clears⟩ := isCleared
  exact ⟨clearing, List.mem_append_left _ mem, clears⟩

theorem isCleared_set {handler new : CodeHandler}
    (found : handlers[index]? = some handler) (isCleared : IsCleared handlers releaseId deploymentId) :
    IsCleared (handlers.set index new) releaseId deploymentId ∨
      ∃ current updated, handler.phase = .clearing current (some updated) ∧ current.deploymentId = deploymentId ∧
        handler.request.releaseId = releaseId := by
  obtain ⟨clearing, mem, clears⟩ := isCleared
  obtain ⟨place, atPlace⟩ := List.mem_iff_getElem?.mp mem
  by_cases same : index = place
  · subst same
    rw [found] at atPlace
    cases atPlace
    exact .inr clears
  · refine .inl ⟨clearing, List.mem_iff_getElem?.mpr ⟨place, ?_⟩, clears⟩
    rw [List.getElem?_set_ne same, atPlace]

theorem Kept.goOn (kept : Kept state) (later : state.tables.Later advanced.2) (active : advanced.2.ActiveReady)
    (pending : advanced.2.Pending (CodeTables.Excused (IsCleared (state.setHandler index handler advanced).handlers)))
    (known : advanced.1.Known advanced.2 handler.request.releaseId
      (handler.changed || decide (advanced.2 ≠ state.tables))) : Kept (state.setHandler index handler advanced) where
  active := active
  pending := pending
  known other mem := by
    rcases List.mem_or_eq_of_mem_set mem with before | rfl
    · exact (kept.known other before).later later
    · exact known

theorem Kept.stay (kept : Kept state) (found : state.handlers[index]? = some handler)
    (clearsNothing : ∀ current updated, handler.phase ≠ .clearing current (some updated))
    (known : phase.Known state.tables handler.request.releaseId handler.changed) :
    Kept (state.setHandler index handler (phase, state.tables)) := by
  refine kept.goOn (.refl _) kept.active ?_ (by simpa using known)
  intro row mem pendingId isPending
  refine (kept.pending row mem pendingId isPending).imp fun release excused => excused.imp_right fun isCleared => ?_
  rcases isCleared_set found isCleared with isCleared | ⟨current, updated, clearing, _⟩
  · exact isCleared
  · exact absurd clearing (clearsNothing current updated)

theorem kept_run {fails : Bool} (kept : Kept state)
    (inTime : state.FailsInTime (.run index fails)) (found : state.handlers[index]? = some handler)
    (isAdvanced : state.advance handler = some advanced) : Kept (state.setHandler index handler
      (if fails then (.returned (.error .database), state.tables) else advanced)) := by
  have known := kept.known handler (List.mem_of_getElem? found)
  have clearsInTime := inTime handler found
  cases phase : handler.phase with
  | returned result => simp [advance, phase] at isAdvanced
  | reading =>
    rw [phase] at known
    have clearsNothing : ∀ current updated, handler.phase ≠ .clearing current (some updated) := by simp [phase]
    cases fails with
    | true => exact kept.stay found clearsNothing known
    | false =>
      simp only [advance, phase] at isAdvanced
      cases read : handler.request.read state.deployments state.tables handler.projectId with
      | ok write =>
        simp only [read, Option.some.injEq] at isAdvanced
        subst isAdvanced
        exact kept.stay found clearsNothing ⟨known, known_of_read read⟩
      | error error =>
        simp only [read, Option.some.injEq] at isAdvanced
        subst isAdvanced
        exact kept.stay found clearsNothing known
  | writing write =>
    rw [phase] at known
    have clearsNothing : ∀ current updated, handler.phase ≠ .clearing current (some updated) := by simp [phase]
    cases fails with
    | true => exact kept.stay found clearsNothing known.1
    | false =>
      simp only [advance, phase, Option.some.injEq] at isAdvanced
      subst isAdvanced
      refine kept.goOn CodeTables.write_later (CodeTables.write_active known.2 kept.active) ?_ ?_
      · refine CodeTables.write_pending known.2 kept.pending ?_ ?_
        · intro releaseId deploymentId isCleared
          rcases isCleared_set found isCleared with isCleared | ⟨current, updated, clearing, _⟩
          · exact isCleared
          · exact absurd clearing (clearsNothing current updated)
        · -- The handler itself is going to clear what it has failed.
          intro current updated clearing
          exact ⟨_, List.mem_of_getElem? (List.getElem?_set_self (List.getElem?_eq_some_iff.mp found).1), current, updated,
            clearing, rfl, rfl⟩
      · rw [known.1, Bool.false_or]
        exact CodeTables.write_known known.2
  | clearing current updated =>
    rw [phase] at known
    rw [phase] at clearsInTime
    cases fails with
    | true =>
      cases updated with
      | some release => simp [CodePhase.ClearsInTime] at clearsInTime
      | none => exact kept.stay found (by simp [phase]) (known.1 rfl)
    | false =>
      simp only [advance, phase, Option.some.injEq] at isAdvanced
      subst isAdvanced
      refine kept.goOn (.refl _) (CodeTables.clear_active kept.active) ?_ ?_
      · refine CodeTables.clear_pending known.2 kept.pending ?_
        intro releaseId deploymentId isCleared isOther
        rcases isCleared_set found isCleared with isCleared | ⟨_, _, _, _, isRequested⟩
        · exact isCleared
        · exact absurd isRequested.symm isOther
      · refine CodeTables.known_updateReply ?_
        intro isNone
        subst isNone
        rw [known.1 rfl, CodeTables.clear_of_none (by simpa [CodePhase.ClearsInTime] using clearsInTime)]
        simp

theorem kept_step (inTime : state.FailsInTime action) (stepped : state.step action = some next) (kept : Kept state) :
    Kept next := by
  rcases step_cases stepped with ⟨projectId, isAdmin, request, rfl, rfl⟩ |
    ⟨index, fails, handler, advanced, rfl, found, isAdvanced, rfl⟩
  · constructor
    · exact kept.active
    · intro row mem pendingId isPending
      exact (kept.pending row mem pendingId isPending).imp fun release excused =>
        excused.imp_right isCleared_append
    · intro handler mem
      rcases List.mem_append.mp mem with before | isNew
      · exact kept.known handler before
      · rw [List.mem_singleton] at isNew
        subst isNew
        cases request.check isAdmin <;> rfl
  · exact kept_run kept inTime found isAdvanced

theorem moves_step (known : ∀ handler ∈ state.handlers,
      handler.phase.Known state.tables handler.request.releaseId handler.changed)
    (stepped : state.step action = some next) :
    state.tables.Later next.tables ∧ state.tables.Begins next.tables := by
  rcases step_cases stepped with ⟨_, _, _, rfl, rfl⟩ | ⟨index, fails, handler, advanced, rfl, found, isAdvanced, rfl⟩
  · exact ⟨.refl _, .refl _⟩
  · cases fails with
    | true => exact ⟨.refl _, .refl _⟩
    | false =>
      have knows := known handler (List.mem_of_getElem? found)
      cases phase : handler.phase with
      | returned result => simp [advance, phase] at isAdvanced
      | reading =>
        simp only [advance, phase] at isAdvanced
        split at isAdvanced <;> cases isAdvanced <;> exact ⟨.refl _, .refl _⟩
      | writing write =>
        rw [phase] at knows
        simp only [advance, phase, Option.some.injEq] at isAdvanced
        subst isAdvanced
        exact ⟨CodeTables.write_later, CodeTables.write_begins knows.2⟩
      | clearing current updated =>
        simp only [advance, phase, Option.some.injEq] at isAdvanced
        subst isAdvanced
        exact ⟨.refl _, .refl _⟩

end CodeState

open CodeState

/-- As long as failures come in time, the state machine of code releases is sound. -/
theorem code_releases_sound {state : CodeState} (reachable : codeMachine.Reachable FailsInTime state) :
    state.Sound := by
  have kept : state.Kept := by
    apply reachable.invariant
    · rintro state ⟨isEmpty, idle⟩
      refine ⟨?_, ?_, by simp [idle]⟩
      · intro row member
        rw [isEmpty] at member
        exact absurd member Rows.notMem_empty
      · intro row member
        rw [isEmpty] at member
        exact absurd member Rows.notMem_empty
    · intro state action next kept inTime stepped
      exact kept_step inTime stepped kept
  constructor
  · exact fun _ => kept.active
  · intro quiet row member pendingId isPending
    refine (kept.pending row member pendingId isPending).imp fun release excused => ?_
    rcases excused with notFailed | ⟨handler, isHandler, current, updated, clearing, _⟩
    · exact notFailed
    · have returned := List.all_eq_true.mp quiet handler isHandler
      simp [clearing] at returned
  · intro action next stepped
    exact moves_step kept.known stepped
  · intro handler member error returned
    have known := kept.known handler member
    rw [returned] at known
    exact known

def hostedAppId : Uuid := ⟨"0190f2c4-7b1e-7c3a-9d52-1f6a0e8b4e10", by decide⟩

def hostedDeploymentId : Uuid := ⟨"0190f2c4-7b1e-7c3a-9d52-1f6a0e8b4e11", by decide⟩

def hostedRelease : CreateCodeRelease where
  releaseId := "rel_0190f2c47b1e7c3a9d521f6a0e8b4e12"
  deploymentId := hostedDeploymentId
  pythonVersion := "3.12"
  dependencyStrategy := "none"
  integration := "vifu"
  httpTarget := none
  httpInterface := none
  sourceKey := "town.tar"
  sourceSha256 := "0f"
  sourceCrc32c := "0f"
  sourceSizeBytes := 1
  sourceBytes := 1
  fileCount := 1

def buildingUpdate : UpdateCodeRelease := ⟨"building", some "build-1", none, none, none, none⟩

def readyUpdate : UpdateCodeRelease where
  status := "ready"
  buildRef := none
  artifactDigest := some "sha256:0123456789abcdef0123456789abcdef0123456789abcdef0123456789abcdef"
  serviceOrigin := some "https://town.example"
  revisionOrigin := some "https://town-1.example"
  failureMessage := none

def failedUpdate : UpdateCodeRelease := ⟨"failed", none, none, none, none, none⟩

def hostedStart : CodeState := ⟨[(hostedDeploymentId, hostedAppId)], ⟨.empty, .empty⟩, []⟩

def builds : List CodeState.Action :=
  [.arrive hostedAppId true (.create hostedRelease), .run 0 false, .run 0 false,
    .arrive hostedAppId true (.update hostedRelease.releaseId buildingUpdate), .run 1 false, .run 1 false]

theorem code_releases_sound_failed :
    ∃ state, codeMachine.Reachable FailsInTime state ∧ state.Sound ∧ state.isQuiet = true ∧
      (∃ release ∈ state.tables.projectCodeReleases, release.status = .failed) ∧
      ∃ row ∈ state.tables.projectCodeDeploymentState, row.pendingReleaseId = none := by
  obtain ⟨state, reachable, checked⟩ := codeMachine.reachable_of_execute FailsInTime
    (show codeMachine.start hostedStart from ⟨rfl, rfl⟩)
    (builds ++ [.arrive hostedAppId true (.update hostedRelease.releaseId failedUpdate), .run 2 false, .run 2 false,
      .run 2 false])
    (fun state => decide (state.isQuiet = true ∧
      (∃ release ∈ state.tables.projectCodeReleases, release.status = .failed) ∧
      ∃ row ∈ state.tables.projectCodeDeploymentState, row.pendingReleaseId = none)) (by decide +kernel)
  obtain ⟨quiet, failed, cleared⟩ := of_decide_eq_true checked
  exact ⟨state, reachable, code_releases_sound reachable, quiet, failed, cleared⟩

/-- A failure is reported for a release that gets ready in the meantime. -/
def failsLate : List CodeState.Action :=
  List.append builds
    [.arrive hostedAppId true (.update hostedRelease.releaseId failedUpdate),
      .arrive hostedAppId true (.update hostedRelease.releaseId readyUpdate),
      .run 2 false, .run 3 false, .run 3 false, .run 2 false, .run 2 false]

theorem late_failure_changes_deployment :
    ¬ ∀ state, codeMachine.Reachable Machine.always state → state.Sound := by
  intro sound
  obtain ⟨state, reachable, checked⟩ := codeMachine.reachable_of_execute Machine.always
    (show codeMachine.start hostedStart from ⟨rfl, rfl⟩) failsLate
    (fun state => decide (∃ handler ∈ state.handlers, handler.changed = true ∧
      handler.phase = .returned (.error (.conflict "CodeRelease changed concurrently")))) (by decide +kernel)
  obtain ⟨handler, member, changed, returned⟩ := of_decide_eq_true checked
  have unchanged := (sound state reachable).unchanged handler member _ returned
  rw [changed] at unchanged
  cases unchanged

end Vifu.Server
