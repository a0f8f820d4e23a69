import Vifu.Foundation.Machine
import Vifu.Server.Database.Tables

/-!
# Code releases of hosted Apps

The handlers `create`, `update`, `activate` and `activate_if_pending` read a release or a deployment in one statement
and write in the statements after it.  Any number of them run at a time, and any statement may fail.  Only `create`
has a transaction; an `update` to `failed` writes the release and then takes it off its deployment.

The authorization of a request is over before its first statement.
-/

namespace Vifu.Server

open Foundation
open Vifu.Gateway

inductive CodeReleaseStatus where
  | uploading
  | building
  | ready
  | failed
  deriving DecidableEq

structure CodeRelease where
  releaseId : String
  projectId : Uuid
  deploymentId : Uuid
  status : CodeReleaseStatus
  pythonVersion : String
  dependencyStrategy : String
  integration : String
  httpTarget : Option String
  httpInterface : Option String
  sourceKey : String
  sourceSha256 : String
  sourceCrc32c : String
  sourceSizeBytes : ℤ
  sourceBytes : ℤ
  fileCount : ℤ
  buildRef : Option String
  artifactDigest : Option String
  serviceOrigin : Option String
  revisionOrigin : Option String
  failureMessage : Option String
  deriving DecidableEq

instance : Keyed CodeRelease := Keyed.primary fun row => row.releaseId

structure CodeDeploymentState where
  deploymentId : Uuid
  activeReleaseId : Option String
  pendingReleaseId : Option String
  deriving DecidableEq

instance : Keyed CodeDeploymentState := Keyed.primary fun row => row.deploymentId

structure CodeTables where
  projectCodeReleases : Rows CodeRelease
  projectCodeDeploymentState : Rows CodeDeploymentState
  deriving DecidableEq

/-! ## Requests -/

structure CreateCodeRelease where
  releaseId : String
  deploymentId : Uuid
  pythonVersion : String
  dependencyStrategy : String
  integration : String
  httpTarget : Option String
  httpInterface : Option String
  sourceKey : String
  sourceSha256 : String
  sourceCrc32c : String
  sourceSizeBytes : ℤ
  sourceBytes : ℤ
  fileCount : ℤ
  deriving DecidableEq

structure UpdateCodeRelease where
  status : String
  buildRef : Option String
  artifactDigest : Option String
  serviceOrigin : Option String
  revisionOrigin : Option String
  failureMessage : Option String
  deriving DecidableEq

inductive CodeRequest where
  | create (input : CreateCodeRelease)
  | update (releaseId : String) (input : UpdateCodeRelease)
  | activate (releaseId : String)
  | activateIfPending (releaseId : String)
  deriving DecidableEq

def isAsciiHexdigit (character : Char) : Bool :=
  character.isDigit || "abcdef".toList.contains character || "ABCDEF".toList.contains character

def validateReleaseId (value : String) : Except ApiError Unit :=
  ensure (value.utf8ByteSize = 36 ∧ "rel_".toList <+: value.toList ∧ (value.toList.drop 4).all isAsciiHexdigit = true)
    (.invalid "releaseId is invalid")

def validateCreate (input : CreateCodeRelease) : Except ApiError Unit := do
  validateReleaseId input.releaseId
  ensure (input.pythonVersion ∈ ["3.10", "3.11", "3.12", "3.13", "3.14"]) (.invalid "pythonVersion is invalid")
  ensure (input.dependencyStrategy ∈ ["none", "uv.lock", "pyproject.toml", "requirements.txt"])
    (.invalid "dependencyStrategy is invalid")
  ensure (input.integration ∈ ["vifu", "web"]) (.invalid "integration is invalid")
  ensure
    (¬(input.integration = "web" ∧
        (input.httpTarget = none ∨ input.httpInterface ∉ [some "asgi", some "wsgi"]) ∨
      input.integration = "vifu" ∧ (input.httpTarget ≠ none ∨ input.httpInterface ≠ none)))
    (.invalid "HTTP entrypoint does not match App integration")
  ensure (0 < input.sourceSizeBytes ∧ 0 < input.sourceBytes ∧ 0 < input.fileCount)
    (.invalid "source metadata is invalid")

/-- The row that `create` inserts. -/
def CreateCodeRelease.row (input : CreateCodeRelease) (projectId : Uuid) : CodeRelease where
  releaseId := input.releaseId
  projectId := projectId
  deploymentId := input.deploymentId
  status := .uploading
  pythonVersion := input.pythonVersion
  dependencyStrategy := input.dependencyStrategy
  integration := input.integration
  httpTarget := input.httpTarget
  httpInterface := input.httpInterface
  sourceKey := input.sourceKey
  sourceSha256 := input.sourceSha256
  sourceCrc32c := input.sourceCrc32c
  sourceSizeBytes := input.sourceSizeBytes
  sourceBytes := input.sourceBytes
  fileCount := input.fileCount
  buildRef := none
  artifactDigest := none
  serviceOrigin := none
  revisionOrigin := none
  failureMessage := none

/-! ## Statements -/

inductive CodeWrite where
  | insert (row : CodeRelease)
  | building (buildRef : String)
  | ready (digest service revision : String)
  | failed (current : CodeRelease) (failure : String)
  | activate (release : CodeRelease)
  | activateIfPending (release : CodeRelease)
  deriving DecidableEq

inductive CodeReply where
  | release (release : CodeRelease)
  | active (release : CodeRelease) (active : Bool)
  deriving DecidableEq

/-- Where a handler stands: before its read, before its first write, between the two writes of a failure, or
returned. -/
inductive CodePhase where
  | reading
  | writing (write : CodeWrite)
  | clearing (current : CodeRelease) (updated : Option CodeRelease)
  | returned (result : Except ApiError CodeReply)
  deriving DecidableEq

namespace CodeTables

variable (tables : CodeTables)

def getOwned (projectId : Uuid) (releaseId : String) : Except ApiError CodeRelease :=
  okOr .notFound (tables.projectCodeReleases.find? fun row => row.projectId == projectId && row.releaseId == releaseId)

/-- `WHERE project_id = … AND release_id = … AND status IN …`. -/
def isAmong (projectId : Uuid) (releaseId : String) (among : List CodeReleaseStatus) (row : CodeRelease) : Bool :=
  row.projectId == projectId && row.releaseId == releaseId && among.contains row.status

/-- `UPDATE project_code_releases … RETURNING *`. -/
def updateRelease (projectId : Uuid) (releaseId : String) (among : List CodeReleaseStatus)
    (change : CodeRelease → CodeRelease) (keeps : ∀ row, (change row).releaseId = row.releaseId) :
    Option CodeRelease × CodeTables :=
  ((tables.projectCodeReleases.find? (isAmong projectId releaseId among)).map change,
    { tables with
      projectCodeReleases := tables.projectCodeReleases.update (isAmong projectId releaseId among) change keeps })

/-- `INSERT INTO project_code_deployment_state … ON CONFLICT (deployment_id) DO UPDATE SET …`. -/
def upsertState (row : CodeDeploymentState) (change : CodeDeploymentState → CodeDeploymentState)
    (keeps : ∀ row, (change row).deploymentId = row.deploymentId) : CodeTables :=
  { tables with
    projectCodeDeploymentState :=
      (tables.projectCodeDeploymentState.insert? row).getD
        (tables.projectCodeDeploymentState.update (fun stored => stored.deploymentId == row.deploymentId) change keeps) }

def waitsFor (deploymentId : Uuid) (releaseId : String) (row : CodeDeploymentState) : Bool :=
  row.deploymentId == deploymentId && row.pendingReleaseId == some releaseId

/-- `UPDATE project_code_deployment_state … WHERE deployment_id = … AND pending_release_id = …`. -/
def updateState (deploymentId : Uuid) (releaseId : String) (change : CodeDeploymentState → CodeDeploymentState)
    (keeps : ∀ row, (change row).deploymentId = row.deploymentId) : CodeTables :=
  { tables with
    projectCodeDeploymentState := tables.projectCodeDeploymentState.update (waitsFor deploymentId releaseId) change keeps }

end CodeTables

/-! ## Handlers -/

/-- What `update` decides on the release that it has read. -/
def UpdateCodeRelease.decide (input : UpdateCodeRelease) (current : CodeRelease) : Except ApiError CodeWrite :=
  if input.status = "building" ∧ current.status = .uploading then do
    let buildRef ← okOr (.invalid "buildRef is required") input.buildRef
    return .building buildRef
  else if input.status = "ready" ∧ current.status = .building then do
    let digest ← okOr (.invalid "artifactDigest is required") input.artifactDigest
    let service ← okOr (.invalid "serviceOrigin is required") input.serviceOrigin
    let revision ← okOr (.invalid "revisionOrigin is required") input.revisionOrigin
    ensure ("sha256:".toList <+: digest.toList ∧ digest.utf8ByteSize = 71 ∧ "https://".toList <+: service.toList ∧
      "https://".toList <+: revision.toList) (.invalid "ready artifact metadata is invalid")
    return .ready digest service revision
  else if input.status = "failed" ∧ (current.status = .uploading ∨ current.status = .building) then
    return .failed current (input.failureMessage.getD "Build failed")
  else .error (.conflict "Invalid CodeRelease transition")

structure CodeHandler where
  projectId : Uuid
  request : CodeRequest
  phase : CodePhase
  /-- One of its statements has changed a table. -/
  changed : Bool
  deriving DecidableEq

namespace CodeRequest

def check (isAdmin : Bool) : CodeRequest → Except ApiError Unit
  | .create input => validateCreate input
  | .activate releaseId => validateReleaseId releaseId
  | .update releaseId _ | .activateIfPending releaseId => do
    ensure (isAdmin = true) .forbidden
    validateReleaseId releaseId

def read (deployments : List (Uuid × Uuid)) (tables : CodeTables) (projectId : Uuid) :
    CodeRequest → Except ApiError CodeWrite
  | .create input => do
    ensure ((input.deploymentId, projectId) ∈ deployments) .notFound
    return .insert (input.row projectId)
  | .update releaseId input => do
    let current ← tables.getOwned projectId releaseId
    input.decide current
  | .activate releaseId => do
    let release ← tables.getOwned projectId releaseId
    ensure (release.status = .ready ∧ release.serviceOrigin.isSome ∧ release.revisionOrigin.isSome)
      (.conflict "Only a ready CodeRelease can be activated")
    return .activate release
  | .activateIfPending releaseId => do
    let release ← tables.getOwned projectId releaseId
    ensure (release.status = .ready) (.conflict "CodeRelease is not ready")
    return .activateIfPending release

def releaseId : CodeRequest → String
  | .create input => input.releaseId
  | .update releaseId _ | .activate releaseId | .activateIfPending releaseId => releaseId

end CodeRequest

def updateReply (updated : Option CodeRelease) : CodePhase :=
  .returned ((okOr (.conflict "CodeRelease changed concurrently") updated).map .release)

/-- The transaction of `create`, or the single statement of the other writes. -/
def CodeTables.write (tables : CodeTables) (projectId : Uuid) (releaseId : String) : CodeWrite → CodePhase × CodeTables
  | .insert row =>
    match tables.projectCodeReleases.insert? row with
    | none => (.returned (.error alreadyExists), tables)
    | some rows =>
      (.returned (.ok (.release row)),
        ({ tables with projectCodeReleases := rows }).upsertState ⟨row.deploymentId, none, some row.releaseId⟩
          (fun stored => { stored with pendingReleaseId := some row.releaseId }) fun _ => rfl)
  | .building buildRef =>
    let (updated, tables) := tables.updateRelease projectId releaseId [.uploading]
      (fun row => { row with status := .building, buildRef := some buildRef }) fun _ => rfl
    (updateReply updated, tables)
  | .ready digest service revision =>
    let (updated, tables) := tables.updateRelease projectId releaseId [.building]
      (fun row => { row with
        status := .ready
        artifactDigest := some digest
        serviceOrigin := some service
        revisionOrigin := some revision }) fun _ => rfl
    (updateReply updated, tables)
  | .failed current failure =>
    let (updated, tables) := tables.updateRelease projectId releaseId [.uploading, .building]
      (fun row => { row with status := .failed, failureMessage := some failure }) fun _ => rfl
    (.clearing current updated, tables)
  | .activate release =>
    (.returned (.ok (.active release true)),
      tables.upsertState ⟨release.deploymentId, some releaseId, none⟩
        (fun stored => { stored with activeReleaseId := some releaseId, pendingReleaseId := none }) fun _ => rfl)
  | .activateIfPending release =>
    (.returned (.ok (.active release
        (tables.projectCodeDeploymentState.any (CodeTables.waitsFor release.deploymentId releaseId)))),
      tables.updateState release.deploymentId releaseId
        (fun stored => { stored with activeReleaseId := some releaseId, pendingReleaseId := none }) fun _ => rfl)

def CodeTables.clear (tables : CodeTables) (current : CodeRelease) (releaseId : String) : CodeTables :=
  tables.updateState current.deploymentId releaseId (fun stored => { stored with pendingReleaseId := none }) fun _ => rfl

structure CodeState where
  /-- The deployments with their projects. -/
  deployments : List (Uuid × Uuid)
  tables : CodeTables
  handlers : List CodeHandler
  deriving DecidableEq

namespace CodeState

inductive Action where
  | arrive (projectId : Uuid) (isAdmin : Bool) (request : CodeRequest)
  | run (index : ℕ) (fails : Bool)
  deriving DecidableEq

variable (state : CodeState)

/-- A handler goes to its next statement, past one that leaves these tables. -/
def setHandler (index : ℕ) (handler : CodeHandler) (next : CodePhase × CodeTables) : CodeState :=
  { state with
    tables := next.2
    handlers := state.handlers.set index
      { handler with
        phase := next.1
        changed := handler.changed || decide (next.2 ≠ state.tables) } }

def advance (handler : CodeHandler) : Option (CodePhase × CodeTables) :=
  match handler.phase with
  | .reading =>
    match handler.request.read state.deployments state.tables handler.projectId with
    | .ok write => some (.writing write, state.tables)
    | .error error => some (.returned (.error error), state.tables)
  | .writing write => some (state.tables.write handler.projectId handler.request.releaseId write)
  | .clearing current updated => some (updateReply updated, state.tables.clear current handler.request.releaseId)
  | .returned _ => none

def step : Action → Option CodeState
  | .arrive projectId isAdmin request =>
    some { state with
      handlers := state.handlers ++
        [⟨projectId, request,
          match request.check isAdmin with
          | .ok _ => .reading
          | .error error => .returned (.error error), false⟩] }
  | .run index fails =>
    (state.handlers[index]?).bind fun handler =>
      (state.advance handler).map fun next =>
        state.setHandler index handler (if fails then (.returned (.error .database), state.tables) else next)

end CodeState

def codeMachine : Machine CodeState CodeState.Action where
  start state := state.tables = ⟨.empty, .empty⟩ ∧ state.handlers = []
  step := CodeState.step

end Vifu.Server
