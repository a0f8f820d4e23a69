import Mathlib.Data.List.Dedup
import Vifu.Foundation.Tasks
import Vifu.Server.Api.Access
import Vifu.Server.Profiles.Selection

/-!
# Edits of an API key

Updates, revocations and lookups of one API key as `api.rs` and `db/sqlite.rs` run them: the queries and transactions
of all calls interleave.  An update reads the key, and writes back what it does not change; a lookup reads the row of
the key and its selected profiles in two queries.
-/

namespace Vifu.Server

open Foundation
open Vifu.Gateway

/-! ## Records -/

inductive EndpointPermission where
  | none
  | access
  deriving DecidableEq

inductive ResourcePermission where
  | none
  | read
  | write
  deriving DecidableEq

structure ApiKeyPermissions where
  chatCompletions : EndpointPermission
  embeddings : EndpointPermission
  speech : EndpointPermission
  transcriptions : EndpointPermission
  realtime : EndpointPermission
  runtime : EndpointPermission
  agents : ResourcePermission
  project : ResourcePermission
  deriving DecidableEq

deriving instance DecidableEq for ApiKeyAgentScope

inductive ScopeMode where
  | all
  | selected
  deriving DecidableEq

def ApiKeyAgentScope.mode : ApiKeyAgentScope → ScopeMode
  | .all => .all
  | .selected _ => .selected

def ApiKeyAgentScope.profileIds : ApiKeyAgentScope → List Uuid
  | .all => []
  | .selected profileIds => profileIds

/-- The row of the key, without its columns that never change. -/
structure ApiKeyRow where
  projectId : Uuid
  name : String
  scopeMode : ScopeMode
  permissions : ApiKeyPermissions
  revokedAt : Option ℕ
  deriving DecidableEq

structure ApiKeyRecord where
  projectId : Uuid
  name : String
  agentScope : ApiKeyAgentScope
  permissions : ApiKeyPermissions
  revokedAt : Option ℕ
  deriving DecidableEq

def ApiKeyRow.intoRecord (row : ApiKeyRow) (profileIds : List Uuid) : Except RequestError ApiKeyRecord := do
  let agentScope ← match row.scopeMode with
    | .all => if profileIds = [] then .ok ApiKeyAgentScope.all else .error RequestError.internal
    | .selected => .ok (.selected profileIds)
  return ⟨row.projectId, row.name, agentScope, row.permissions, row.revokedAt⟩

/-- The row of the key, and its rows of `api_key_profile_scopes` in the order of the profiles. -/
structure KeyTables where
  key : ApiKeyRow
  profileIds : List Uuid
  deriving DecidableEq

namespace KeyTables

variable (tables : KeyTables)

def record : Except RequestError ApiKeyRecord := tables.key.intoRecord tables.profileIds

def Has (scope : ApiKeyAgentScope) : Prop :=
  tables.key.scopeMode = scope.mode ∧ tables.profileIds = scope.profileIds

instance (scope : ApiKeyAgentScope) : Decidable (tables.Has scope) := inferInstanceAs (Decidable (_ ∧ _))

end KeyTables

/-! ## Updates -/

structure UpdateApiKey where
  projectId : Option Uuid
  name : Option String
  agentScope : Option ApiKeyAgentScope
  permissions : Option ApiKeyPermissions

/-- An update whose fields were checked. -/
structure ApiKeyPatch where
  projectId : Option Uuid
  name : Option String
  agentScope : Option ApiKeyAgentScope
  permissions : Option ApiKeyPermissions

def normalizeApiKeyAgentScope : ApiKeyAgentScope → Except ApiError ApiKeyAgentScope
  | .all => .ok .all
  | .selected profileIds => do
    let profileIds := (profileIds.insertionSort fun first second => first.text ≤ second.text).dedup
    ensure (profileIds ≠ [] ∧ profileIds.length ≤ 256)
      (.invalid "selected profile access requires between 1 and 256 profiles")
    return .selected profileIds

/-- The checks of `update_api_key_record` before it looks for the project. -/
def UpdateApiKey.check (input : UpdateApiKey) (requiredProjectId : Option Uuid) (current : ApiKeyRecord) :
    Except ApiError Unit := do
  ensure (∀ projectId ∈ requiredProjectId, current.projectId = projectId) .notFound
  ensure (current.revokedAt = none) (.conflict "revoked API keys cannot be edited")
  ensure (input.projectId.isSome ∨ input.name.isSome ∨ input.agentScope.isSome ∨ input.permissions.isSome)
    (.invalid "at least one API key field is required")
  ensure (∀ projectId ∈ input.projectId, ∀ required ∈ requiredProjectId, projectId = required)
    (.invalid "an API key cannot be moved through a project-scoped route")

/-- The checks of `update_api_key_record` after that. -/
def UpdateApiKey.patch (input : UpdateApiKey) (current : ApiKeyRecord) : Except ApiError ApiKeyPatch := do
  ensure ((∃ projectId ∈ input.projectId, projectId ≠ current.projectId) → input.agentScope.isSome)
    (.invalid "agentScope is required when moving an API key to another project")
  let agentScope ← input.agentScope.mapM normalizeApiKeyAgentScope
  let name ← input.name.mapM fun name => requiredText "name" name 128
  return ⟨input.projectId, name, agentScope, input.permissions⟩

/-- What the transaction of `update_api_key` leaves. -/
def ApiKeyPatch.apply (patch : ApiKeyPatch) (projectId : Uuid) (agentScope : ApiKeyAgentScope) (tables : KeyTables) :
    KeyTables where
  key := { tables.key with
    projectId, scopeMode := agentScope.mode
    name := patch.name.getD tables.key.name
    permissions := patch.permissions.getD tables.key.permissions }
  profileIds := agentScope.profileIds

/-- The check of `validate_api_key_agent_scope` before its query. -/
def checkScopeSize (scope : ApiKeyAgentScope) : Except ApiError Unit :=
  match scope with
  | .all => .ok ()
  | .selected profileIds =>
    ensure (profileIds ≠ [] ∧ profileIds.length ≤ 256)
      (.invalid "selected agent access requires between 1 and 256 agents")

inductive UpdatePhase where
  | started
  | readRow (row : ApiKeyRow)
  | findingProject (current : ApiKeyRecord)
  | patched (patch : ApiKeyPatch)
  | patchedRow (patch : ApiKeyPatch) (row : ApiKeyRow)
  | validating (patch : ApiKeyPatch) (projectId : Uuid) (agentScope : ApiKeyAgentScope)
  | writing (patch : ApiKeyPatch) (projectId : Uuid) (agentScope : ApiKeyAgentScope)
  | written
  | writtenRow (row : ApiKeyRow)
  | returned (result : Except RequestError ApiKeyRecord)

/-- The checks of `update_api_key` on the record that it has read. -/
def ApiKeyPatch.merged (patch : ApiKeyPatch) (current : ApiKeyRecord) : Except RequestError UpdatePhase := do
  ensure (current.revokedAt = none) (.api (.conflict "revoked API keys cannot be edited"))
  let projectId := patch.projectId.getD current.projectId
  let agentScope := patch.agentScope.getD current.agentScope
  (checkScopeSize agentScope).mapError .api
  match agentScope with
  | .all => return .writing patch projectId .all
  | .selected profileIds => return .validating patch projectId (.selected profileIds)

structure UpdateCall where
  requiredProjectId : Option Uuid
  input : UpdateApiKey
  phase : UpdatePhase

inductive RevokePhase where
  | started
  | revoked
  | revokedRow (row : ApiKeyRow)
  | returned (result : Except RequestError ApiKeyRecord)

/-- What a lookup has done, and the moment of its query for the row. -/
inductive LookupPhase where
  | started
  | readRow (row : ApiKeyRow) (moment : ℕ)
  | returned (result : Except RequestError ApiKeyRecord) (moment : ℕ)

/-- A lookup of the key by its hash, and the moment it started. -/
structure LookupCall where
  since : ℕ
  phase : LookupPhase

inductive KeyCall where
  | update (call : UpdateCall)
  | revoke (phase : RevokePhase)
  | lookup (call : LookupCall)

/-- A step of a call: what the call becomes, the tables after its transaction, and the edit that this makes. -/
structure Turn where
  call : KeyCall
  tables : Option KeyTables
  edit : Option ApiKeyPatch

namespace UpdateCall

variable (call : UpdateCall) (tables : KeyTables)

def advance (phase : UpdatePhase) : Turn := ⟨.update { call with phase }, none, none⟩

def advanceWith {α : Type} (result : Except RequestError α) (phase : α → UpdatePhase) : Turn :=
  call.advance (match result with
    | .ok value => phase value
    | .error error => .returned (.error error))

def checked (current : ApiKeyRecord) : Except RequestError UpdatePhase := do
  (call.input.check call.requiredProjectId current).mapError .api
  if call.input.projectId.isSome then return .findingProject current
  else return .patched (← (call.input.patch current).mapError .api)

/-- The next query or transaction of an update.  The answer tells whether the project is found, the selected profiles
are counted in the project, or the references of the transaction hold. -/
def next (answer : Bool) : Option Turn :=
  match call.phase with
  | .started => some (call.advance (.readRow tables.key))
  | .readRow row =>
    some (call.advanceWith (row.intoRecord tables.profileIds >>= call.checked) id)
  | .findingProject current =>
    some (call.advanceWith (do
      ensure (answer = true) (.api .notFound)
      (call.input.patch current).mapError .api) .patched)
  | .patched patch => some (call.advance (.patchedRow patch tables.key))
  | .patchedRow patch row =>
    some (call.advanceWith (row.intoRecord tables.profileIds >>= patch.merged) id)
  | .validating patch projectId agentScope =>
    some (call.advanceWith (ensure (answer = true) (RequestError.api
      (.invalid "selected profiles must belong to the API key project"))) fun _ => .writing patch projectId agentScope)
  | .writing patch projectId agentScope =>
    if tables.key.revokedAt ≠ none then
      some (call.advance (.returned (.error (.api (.conflict "only active API keys can be edited")))))
    else if answer = true then
      some { call.advance .written with tables := some (patch.apply projectId agentScope tables), edit := some patch }
    else some (call.advance (.returned (.error (.api missingReference))))
  | .written => some (call.advance (.writtenRow tables.key))
  | .writtenRow row => some (call.advance (.returned (row.intoRecord tables.profileIds)))
  | .returned _ => none

end UpdateCall

def RevokePhase.next (tables : KeyTables) (now : ℕ) : RevokePhase → Option Turn
  | .started =>
    some ⟨.revoke .revoked, some { tables with key := { tables.key with revokedAt := some (tables.key.revokedAt.getD now) } }, none⟩
  | .revoked => some ⟨.revoke (.revokedRow tables.key), none, none⟩
  | .revokedRow row => some ⟨.revoke (.returned (row.intoRecord tables.profileIds)), none, none⟩
  | .returned _ => none

/-- The next query of `active_api_key_by_hash`, given the moment. -/
def LookupCall.next (tables : KeyTables) (moment : ℕ) (call : LookupCall) : Option Turn :=
  match call.phase with
  | .started =>
    if tables.key.revokedAt = none then some ⟨.lookup { call with phase := .readRow tables.key moment }, none, none⟩
    else some ⟨.lookup { call with phase := .returned (.error (.api .forbidden)) moment }, none, none⟩
  | .readRow row _ => some ⟨.lookup { call with phase := .returned (row.intoRecord tables.profileIds) moment }, none, none⟩
  | .returned _ _ => none

/-! ## Runs -/

/-- The tables, all that was committed before, the edits that were committed, and the calls. -/
structure KeyState where
  tables : KeyTables
  past : List KeyTables
  edits : List (ℕ × ApiKeyPatch)
  calls : List KeyCall

namespace KeyState

variable (state : KeyState)

def history : List KeyTables := state.past ++ [state.tables]

def moment : ℕ := state.past.length

inductive Action where
  | update (requiredProjectId : Option Uuid) (input : UpdateApiKey)
  | revoke
  | lookup
  /-- A call takes its next step. -/
  | next (call : ℕ) (answer : Bool) (now : ℕ)
  /-- A query of a call fails. -/
  | fail (call : ℕ)

def turn (answer : Bool) (now : ℕ) : KeyCall → Option Turn
  | .update call => call.next state.tables answer
  | .revoke phase => phase.next state.tables now
  | .lookup call => call.next state.tables state.moment

def after (index : ℕ) (turn : Turn) : KeyState where
  tables := turn.tables.getD state.tables
  past := if turn.tables.isSome then state.history else state.past
  edits := state.edits ++ (turn.edit.map fun patch => (index, patch)).toList
  calls := state.calls.set index turn.call

def failed (error : RequestError) (moment : ℕ) : KeyCall → Option KeyCall
  | .update ⟨_, _, .returned _⟩ | .revoke (.returned _) | .lookup ⟨_, .returned _ _⟩ => none
  | .update call => some (.update { call with phase := .returned (.error error) })
  | .revoke _ => some (.revoke (.returned (.error error)))
  | .lookup call => some (.lookup { call with phase := .returned (.error error) moment })

def step : Action → Option KeyState
  | .update requiredProjectId input =>
    some { state with calls := state.calls ++ [.update ⟨requiredProjectId, input, .started⟩] }
  | .revoke => some { state with calls := state.calls ++ [.revoke .started] }
  | .lookup => some { state with calls := state.calls ++ [.lookup ⟨state.moment, .started⟩] }
  | .next index answer now => (state.calls[index]?).bind fun call => (state.turn answer now call).map (state.after index)
  | .fail index =>
    ((state.calls[index]?).bind (failed (.api .database) state.moment)).map fun call =>
      { state with calls := state.calls.set index call }

end KeyState

def keyMachine : Machine KeyState KeyState.Action where
  start state := state.past = [] ∧ state.edits = [] ∧ state.calls = []
  step := KeyState.step

end Vifu.Server
