import Vifu.Runtime.Frame
import Vifu.Server.Keys.Edits

/-!
# Realtime sessions

Sessions that a key opens, and the sockets that are connected with their tokens.  The key is checked when a session is
created; a connection looks only at the row of the session, and a socket only at the session it was connected with.
-/

namespace Vifu.Server

open Foundation
open Vifu.Gateway
open Vifu.Runtime (JsonReader Value trim)

inductive ProfileEndpointPermission where
  | embeddings
  | speech
  | transcriptions
  | realtime
  deriving DecidableEq

def ApiKeyPermissions.allowed (permissions : ApiKeyPermissions) : ProfileEndpointPermission → Bool
  | .embeddings => permissions.embeddings == .access
  | .speech => permissions.speech == .access
  | .transcriptions => permissions.transcriptions == .access
  | .realtime => permissions.realtime == .access

/-- Who makes a request: the admin, or a key with its record. -/
inductive KeyAuthority where
  | admin
  | key (id : Uuid) (record : ApiKeyRecord)

namespace KeyAuthority

def apiKeyId : KeyAuthority → Option Uuid
  | .admin => none
  | .key id _ => some id

def assertEndpointPermission (projectId : Uuid) (permission : ProfileEndpointPermission) :
    KeyAuthority → Except RequestError Unit
  | .admin => .ok ()
  | .key _ record => do
    ensure (record.projectId = projectId) .agentAccessDenied
    ensure (record.permissions.allowed permission = true) .endpointAccessDenied

def hide : KeyAuthority → ApiError → RequestError
  | .key _ _, .notFound => .agentAccessDenied
  | _, error => .api error

def assertScope (profileId : Uuid) : KeyAuthority → Except RequestError Unit
  | .admin => .ok ()
  | .key _ record => ensure (record.agentScope.allows profileId = true) .agentAccessDenied

end KeyAuthority

/-! ## Sessions and sockets -/

structure RealtimeSession where
  id : Uuid
  projectId : Uuid
  profileId : Uuid
  apiKeyId : Option Uuid
  tokenHash : Hash
  expiresAt : ℕ

structure RealtimeSocket where
  session : RealtimeSession
  messages : List Value
  audioBuffer : List UInt8
  running : Bool

inductive SocketMessage where
  | text (text : String)
  | other
  | close
  | failed

/-- What is outside of the server: parsers, hashes, and the ids that are texts of themselves. -/
structure RealtimeLibraries where
  reader : JsonReader
  decodeBase64 : String → Option (List UInt8)
  hashApiKey : String → Hash
  sha256 : Sha256
  uuids : UuidParser
  lawful : uuids.Lawful

/-- What a socket finds while it handles an event: the profiles, whether the trace is created, what the provider
answers, and whether the answer can be sent. -/
structure SocketAnswers where
  tables : ProfileTables
  traced : Bool
  result : Except RequestError String
  sent : Bool

structure RealtimeInvocation where
  permission : ProfileEndpointPermission
  profileId : Uuid

def maxAudioBytes : ℕ := 26214400

def chatMessage (role content : String) : Value := .object [("content", .string content), ("role", .string role)]

def realtimeItemMessage (item : Option Value) : Option Value := do
  let item ← item
  let role ← (item.get? "role").bind Value.asStr
  let content ← (item.get? "content").bind Value.asArray
  let text ← content.findSome? fun part => ((part.get? "text").or (part.get? "transcript")).bind Value.asStr
  if trim text = "" then none else some (chatMessage role (trim text))

namespace RealtimeSocket

variable (libraries : RealtimeLibraries) (answers : SocketAnswers) (socket : RealtimeSocket)

def route (kind : String) : Except ApiError ProfileRoute :=
  answers.tables.resolveProfileRoute libraries.sha256 libraries.uuids socket.session.projectId
    socket.session.profileId.text kind (some socket.session.id.text) none

def append (encoded : Option String) : RealtimeSocket :=
  match encoded.bind libraries.decodeBase64 with
  | some chunk =>
    if socket.audioBuffer.length + chunk.length ≤ maxAudioBytes then
      { socket with audioBuffer := socket.audioBuffer ++ chunk }
    else socket
  | none => socket

/-- `input_audio_buffer.commit`. -/
def commit : RealtimeSocket × Option RealtimeInvocation :=
  if socket.audioBuffer = [] then (socket, none)
  else match socket.route libraries answers "transcription" with
    | .error _ => (socket, none)
    | .ok route =>
      ({ socket with
        audioBuffer := []
        messages := socket.messages ++ (answers.result.toOption.map (chatMessage "user")).toList },
        some ⟨.transcriptions, route.profileId⟩)

/-- `response.create`. -/
def respond : RealtimeSocket × Option RealtimeInvocation :=
  if socket.messages = [] then (socket, none)
  else match socket.route libraries answers "realtime" with
    | .error _ => (socket, none)
    | .ok route =>
      if answers.traced = false then (socket, none)
      else match answers.result with
        | .error _ => (socket, some ⟨.realtime, route.profileId⟩)
        | .ok text =>
          ({ socket with messages := socket.messages ++ [chatMessage "assistant" text], running := answers.sent },
            some ⟨.realtime, route.profileId⟩)

def handle (event : Value) : RealtimeSocket × Option RealtimeInvocation :=
  match (event.get? "type").bind Value.asStr with
  | some "conversation.item.create" =>
    ({ socket with messages := socket.messages ++ (realtimeItemMessage (event.get? "item")).toList }, none)
  | some "input_audio_buffer.append" => (socket.append libraries ((event.get? "audio").bind Value.asStr), none)
  | some "input_audio_buffer.clear" => ({ socket with audioBuffer := [] }, none)
  | some "input_audio_buffer.commit" => socket.commit libraries answers
  | some "response.create" => socket.respond libraries answers
  -- Updates and cancellations of a response are only answered, and so is an event of another type.
  | _ => (socket, none)

/-- A turn of `run_realtime_socket`. -/
def receive : SocketMessage → RealtimeSocket × Option RealtimeInvocation
  | .close | .failed => ({ socket with running := false }, none)
  | .other => (socket, none)
  | .text text =>
    match (libraries.reader.content text).map Value.normalized with
    | some (.object fields) => socket.handle libraries answers (.object fields)
    | _ => (socket, none)

end RealtimeSocket

/-! ## Runs -/

/-- What happened: a key was revoked, a connection accepted for a session, or a profile invoked by a socket of one,
with the key of the session at that moment. -/
inductive RealtimeEntry where
  | revoked (keyId : Uuid)
  | accepted (session : RealtimeSession)
  | invoked (session : RealtimeSession) (invocation : RealtimeInvocation) (key : Option KeyTables)

structure RealtimeState where
  keys : AList fun _ : Uuid => KeyTables
  sessions : List RealtimeSession
  sockets : List RealtimeSocket
  log : List RealtimeEntry

structure RealtimeSessionRequest where
  model : String
  user : Option String
  expiresInSeconds : Option ℤ

structure SessionDraws where
  id : Uuid
  token : String

/-- Whether the queries of an update find the project, count the profiles and keep the references. -/
structure UpdateAnswers where
  found : Bool
  counted : Bool
  held : Bool

/-- `update_api_key_record` as a whole. -/
def UpdateApiKey.run (input : UpdateApiKey) (requiredProjectId : Option Uuid) (answers : UpdateAnswers)
    (tables : KeyTables) : Except RequestError KeyTables := do
  let current ← tables.record
  (input.check requiredProjectId current).mapError .api
  ensure (input.projectId.isSome → answers.found = true) (.api .notFound)
  let patch ← (input.patch current).mapError .api
  let projectId := patch.projectId.getD current.projectId
  let agentScope := patch.agentScope.getD current.agentScope
  (checkScopeSize agentScope).mapError .api
  ensure (agentScope ≠ .all → answers.counted = true)
    (.api (.invalid "selected profiles must belong to the API key project"))
  ensure (tables.key.revokedAt = none) (.api (.conflict "only active API keys can be edited"))
  ensure (answers.held = true) (.api missingReference)
  return patch.apply projectId agentScope tables

def KeyTables.revoke (tables : KeyTables) (now : ℕ) : KeyTables :=
  { tables with key := { tables.key with revokedAt := some (tables.key.revokedAt.getD now) } }

namespace RealtimeState

variable (libraries : RealtimeLibraries) (state : RealtimeState)

/-- `active_api_key_by_hash`, for a request with a key. -/
def authority : Option Uuid → Except RequestError KeyAuthority
  | none => .ok .admin
  | some id => do
    let tables ← okOr (.api .forbidden) ((state.keys.lookup id).filter fun tables => tables.key.revokedAt.isNone)
    return .key id (← tables.record)

def lifetime (expiresInSeconds : Option ℤ) : ℕ := (max 60 (min 3600 (expiresInSeconds.getD 300))).toNat

def createRealtimeSession (credential : Option Uuid) (project : Option Uuid) (tables : ProfileTables)
    (request : RealtimeSessionRequest) (draws : SessionDraws) (now : ℕ) : Except RequestError RealtimeState := do
  let model ← (requiredText "model" request.model 128).mapError .api
  let authority ← state.authority credential
  let projectId ← okOr (.api .notFound) project
  authority.assertEndpointPermission projectId .realtime
  let route ← (tables.resolveProfileRoute libraries.sha256 libraries.uuids projectId model "realtime" request.user
    none).mapError authority.hide
  authority.assertScope route.profileId
  let created : RealtimeSession :=
    ⟨draws.id, projectId, route.profileId, authority.apiKeyId, libraries.hashApiKey draws.token,
      now + 1000 * lifetime request.expiresInSeconds⟩
  let sessions := state.sessions.filter fun session => decide (now < session.expiresAt)
  ensure (∀ session ∈ sessions, session.id ≠ created.id ∧ session.tokenHash ≠ created.tokenHash) (.api alreadyExists)
  return { state with sessions := sessions ++ [created] }

def activeRealtimeSessionByHash (projectId : Uuid) (tokenHash : Hash) (now : ℕ) : Except RequestError RealtimeSession :=
  okOr (.api .unauthorized) (state.sessions.find? fun session =>
    session.projectId == projectId && session.tokenHash == tokenHash && decide (now < session.expiresAt))

def connectRealtime (project : Option Uuid) (token : String) (greeted : Bool) (now : ℕ) :
    Except RequestError RealtimeState := do
  let projectId ← okOr (.api .notFound) project
  let session ← state.activeRealtimeSessionByHash projectId (libraries.hashApiKey token) now
  return { state with
    sockets := state.sockets ++ [⟨session, [], [], greeted⟩]
    log := state.log ++ [.accepted session] }

def keyOf (session : RealtimeSession) : Option KeyTables := session.apiKeyId.bind state.keys.lookup

def receive (index : ℕ) (message : SocketMessage) (answers : SocketAnswers) : Option RealtimeState :=
  ((state.sockets[index]?).filter RealtimeSocket.running).map fun socket =>
    let (next, invocation) := socket.receive libraries answers message
    { state with
      sockets := state.sockets.set index next
      log := state.log ++ (invocation.map fun invocation =>
        .invoked socket.session invocation (state.keyOf socket.session)).toList }

inductive Action where
  | create (credential project : Option Uuid) (tables : ProfileTables) (request : RealtimeSessionRequest)
    (draws : SessionDraws) (now : ℕ)
  | connect (project : Option Uuid) (token : String) (greeted : Bool) (now : ℕ)
  | receive (socket : ℕ) (message : SocketMessage) (answers : SocketAnswers)
  | update (keyId : Uuid) (requiredProjectId : Option Uuid) (input : UpdateApiKey) (answers : UpdateAnswers)
  | revoke (keyId : Uuid) (now : ℕ)

def orSame (result : Except RequestError RealtimeState) : RealtimeState := (result.toOption).getD state

def step : Action → Option RealtimeState
  | .create credential project tables request draws now =>
    some (state.orSame (state.createRealtimeSession libraries credential project tables request draws now))
  | .connect project token greeted now => some (state.orSame (state.connectRealtime libraries project token greeted now))
  | .receive index message answers => state.receive libraries index message answers
  | .update keyId requiredProjectId input answers =>
    some (state.orSame (do
      let tables ← okOr (.api .notFound) (state.keys.lookup keyId)
      let next ← input.run requiredProjectId answers tables
      return { state with keys := state.keys.insert keyId next }))
  | .revoke keyId now =>
    some (state.orSame (do
      let tables ← okOr (.api .notFound) (state.keys.lookup keyId)
      return { state with keys := state.keys.insert keyId (tables.revoke now), log := state.log ++ [.revoked keyId] }))

end RealtimeState

def realtimeMachine (libraries : RealtimeLibraries) : Machine RealtimeState RealtimeState.Action where
  start state := state.sessions = [] ∧ state.sockets = [] ∧ state.log = []
  step := RealtimeState.step libraries

end Vifu.Server
