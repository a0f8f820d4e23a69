import Vifu.Gateway.WireCodec
import Vifu.Server.Keys.EditsKept
import Vifu.Server.Keys.Realtime

/-!
# Realtime sessions that follow their key

A connection does not look at the key of its session, and a socket neither at the key nor at what it allows.  A run in
which every connection finds the key active, and in which whatever a socket invokes is still allowed, has no connection
and no invocation after the key is revoked, and none that the key does not allow.
-/

namespace Vifu.Server

open Foundation
open Vifu.Gateway
open Vifu.Runtime (Value)

def RealtimeEntry.session : RealtimeEntry → Option RealtimeSession
  | .revoked _ => none
  | .accepted session | .invoked session _ _ => some session

def RealtimeEntry.MayFollow (earlier later : RealtimeEntry) : Prop :=
  ∀ keyId session, earlier = .revoked keyId → later.session = some session → session.apiKeyId ≠ some keyId

def KeyTables.Allows (tables : KeyTables) (permission : ProfileEndpointPermission) (profileId : Uuid) : Prop :=
  ∃ record, tables.record = .ok record ∧ record.permissions.allowed permission = true ∧
    record.agentScope.allows profileId = true

namespace RealtimeState

variable (state : RealtimeState)

/-- Nothing is accepted or invoked for a session after its key was revoked. -/
def RevokedSilent : Prop := state.log.Pairwise RealtimeEntry.MayFollow

def InvokedAllowed : Prop :=
  ∀ session invocation tables, .invoked session invocation (some tables) ∈ state.log → tables.key.revokedAt = none →
    tables.Allows invocation.permission invocation.profileId

end RealtimeState

def SocketMessage.eventType (reader : Runtime.JsonReader) : SocketMessage → Option String
  | .text source =>
    match (reader.content source).map Value.normalized with
    | some (.object fields) => ((Value.object fields).get? "type").bind Value.asStr
    | _ => none
  | _ => none

/-- What a message asks the socket to invoke: audio is committed, or there is something to answer, and the profile has
a route for it. -/
def RealtimeSocket.asks (libraries : RealtimeLibraries) (answers : SocketAnswers) (socket : RealtimeSocket)
    (message : SocketMessage) : Option ProfileEndpointPermission :=
  match message.eventType libraries.reader with
  | some "input_audio_buffer.commit" =>
    if socket.audioBuffer ≠ [] ∧ (socket.route libraries answers "transcription").isOk then some .transcriptions
    else none
  | some "response.create" =>
    if socket.messages ≠ [] ∧ (socket.route libraries answers "realtime").isOk ∧ answers.traced = true then
      some .realtime
    else none
  | _ => none

/-- A connection finds the key of its session active, and a message asks only for what the key of the session allows
for its profile. -/
def RealtimeState.Follows (libraries : RealtimeLibraries) (state : RealtimeState) : RealtimeState.Action → Prop
  | .connect project token _ now =>
    ∀ projectId ∈ project,
      ∀ session ∈ (state.activeRealtimeSessionByHash projectId (libraries.hashApiKey token) now).toOption,
        ∀ tables ∈ state.keyOf session, tables.key.revokedAt = none
  | .receive index message answers =>
    ∀ socket ∈ (state.sockets[index]?).filter RealtimeSocket.running,
      ∀ permission ∈ socket.asks libraries answers message, ∀ tables ∈ state.keyOf socket.session,
        tables.key.revokedAt = none ∧ tables.Allows permission socket.session.profileId
  | .create _ _ _ _ _ _ | .update _ _ _ _ | .revoke _ _ => True

/-! ## What a socket invokes -/

variable {route : ProfileRoute} {kind : String}

theorem ProfileTables.resolveProfileRoute_profileId {tables : ProfileTables} {sha256 : Sha256} {uuids : UuidParser}
    {projectId profileId : Uuid} {key : Option String} {versionId : Option Uuid} (lawful : uuids.Lawful)
    (resolves : tables.resolveProfileRoute sha256 uuids projectId profileId.text kind key versionId = .ok route) :
    route.profileId = profileId := by
  simp only [resolveProfileRoute, bind_ok, okOr_ok, pure_ok] at resolves
  obtain ⟨profile, named, _, -, _, -, _, -, rfl⟩ := resolves
  rw [namedProfile, lawful profileId] at named
  have found := List.find?_some named
  simp only [Bool.and_eq_true, beq_iff_eq] at found
  exact found.1

variable {message : SocketMessage}

namespace RealtimeSocket

variable {libraries : RealtimeLibraries} {answers : SocketAnswers} {socket : RealtimeSocket}
  {invocation : RealtimeInvocation}

theorem route_profileId (routed : socket.route libraries answers kind = .ok route) :
    route.profileId = socket.session.profileId :=
  ProfileTables.resolveProfileRoute_profileId libraries.lawful routed

theorem commit_invokes (invokes : (socket.commit libraries answers).2 = some invocation) :
    socket.audioBuffer ≠ [] ∧ (socket.route libraries answers "transcription").isOk ∧
      invocation = ⟨.transcriptions, socket.session.profileId⟩ := by
  unfold commit at invokes
  split at invokes
  · cases invokes
  next filled =>
    split at invokes
    · cases invokes
    next route routed =>
      cases invokes
      rw [route_profileId routed, routed]
      exact ⟨filled, rfl, rfl⟩

theorem respond_invokes (invokes : (socket.respond libraries answers).2 = some invocation) :
    socket.messages ≠ [] ∧ (socket.route libraries answers "realtime").isOk ∧ answers.traced = true ∧
      invocation = ⟨.realtime, socket.session.profileId⟩ := by
  unfold respond at invokes
  split at invokes
  · cases invokes
  next filled =>
    split at invokes
    · cases invokes
    next route routed =>
      split at invokes
      · cases invokes
      next traced =>
        have isInvocation : invocation = ⟨.realtime, route.profileId⟩ := by
          split at invokes
          all_goals cases invokes
          all_goals rfl
        rw [isInvocation, route_profileId routed, routed]
        exact ⟨filled, rfl, by simpa using traced, rfl⟩

theorem receive_invokes (invokes : (socket.receive libraries answers message).2 = some invocation) :
    socket.asks libraries answers message = some invocation.permission ∧
      invocation.profileId = socket.session.profileId := by
  cases message with
  | close | failed | other => cases invokes
  | text text =>
    simp only [receive] at invokes
    split at invokes
    next fields isObject =>
      simp only [asks, SocketMessage.eventType, isObject]
      unfold handle at invokes
      split at invokes
      · cases invokes
      · cases invokes
      · cases invokes
      next isCommit =>
        obtain ⟨filled, routed, rfl⟩ := commit_invokes invokes
        rw [isCommit]
        exact ⟨if_pos ⟨filled, routed⟩, rfl⟩
      next isCreate =>
        obtain ⟨filled, routed, traced, rfl⟩ := respond_invokes invokes
        rw [isCreate]
        exact ⟨if_pos ⟨filled, routed, traced⟩, rfl⟩
      · cases invokes
    · cases invokes

end RealtimeSocket

/-! ## The invariant -/

def RealtimeState.RevokedStays (state : RealtimeState) : Prop :=
  ∀ keyId, .revoked keyId ∈ state.log →
    ∃ tables, state.keys.lookup keyId = some tables ∧ tables.key.revokedAt ≠ none

structure RealtimeState.Kept (state : RealtimeState) : Prop where
  stays : state.RevokedStays
  silent : state.RevokedSilent
  allowed : state.InvokedAllowed

theorem UpdateApiKey.run_active {input : UpdateApiKey} {requiredProjectId : Option Uuid} {answers : UpdateAnswers}
    {tables next : KeyTables} (runs : input.run requiredProjectId answers tables = .ok next) :
    tables.key.revokedAt = none := by
  simp only [run, bind_ok, ensure_ok] at runs
  obtain ⟨_, _, _, _, _, _, _, _, _, _, _, _, _, active, _⟩ := runs
  exact active

namespace RealtimeState

variable {libraries : RealtimeLibraries} {state : RealtimeState} {next : RealtimeState}

section

variable (kept : state.Kept) {keyId : Uuid} {now : ℕ}
include kept

theorem Kept.entry {entry : RealtimeEntry} {session : RealtimeSession}
    (keys : next.keys = state.keys) (log : next.log = state.log ++ [entry])
    (isSession : entry.session = some session) (active : ∀ tables ∈ state.keyOf session, tables.key.revokedAt = none)
    (allowed : ∀ invocation tables, entry = .invoked session invocation (some tables) →
      tables.Allows invocation.permission invocation.profileId) : next.Kept := by
  refine ⟨?_, ?_, ?_⟩
  · intro keyId mem
    rw [log] at mem
    rw [keys]
    cases List.mem_append.mp mem with
    | inl earlier => exact kept.stays keyId earlier
    | inr last =>
      cases List.mem_singleton.mp last
      cases isSession
  · rw [RevokedSilent, log]
    refine List.pairwise_append.mpr ⟨kept.silent, List.pairwise_singleton _ _, ?_⟩
    intro earlier mem last isLast keyId other isRevoked isOther ofKey
    rw [List.mem_singleton.mp isLast, isSession, Option.some.injEq] at isOther
    subst isOther
    subst isRevoked
    obtain ⟨tables, stored, revoked⟩ := kept.stays keyId mem
    apply revoked
    apply active tables
    rw [keyOf, ofKey]
    exact stored
  · intro other invocation tables mem active
    rw [log] at mem
    cases List.mem_append.mp mem with
    | inl earlier => exact kept.allowed other invocation tables earlier active
    | inr last =>
      have isEntry := List.mem_singleton.mp last
      rw [← isEntry] at isSession
      cases isSession
      exact allowed invocation tables isEntry.symm

theorem Kept.quiet (keys : next.keys = state.keys) (log : next.log = state.log) : next.Kept := by
  refine ⟨?_, ?_, ?_⟩
  · rw [RevokedStays, keys, log]
    exact kept.stays
  · rw [RevokedSilent, log]
    exact kept.silent
  · rw [InvokedAllowed, log]
    exact kept.allowed

theorem Kept.connect {project : Option Uuid} {token : String} {greeted : Bool}
    (follows : state.Follows libraries (.connect project token greeted now))
    (connects : state.connectRealtime libraries project token greeted now = .ok next) : next.Kept := by
  simp only [connectRealtime, bind_ok, okOr_ok, pure_ok] at connects
  obtain ⟨projectId, isProject, session, found, rfl⟩ := connects
  refine kept.entry rfl rfl rfl ?_ ?_
  · exact follows projectId isProject session (by rw [found]; rfl)
  · intro invocation tables isInvoked
    cases isInvoked

theorem Kept.receive {index : ℕ} {answers : SocketAnswers}
    (follows : state.Follows libraries (.receive index message answers))
    (receives : state.receive libraries index message answers = some next) : next.Kept := by
  obtain ⟨socket, found, rfl⟩ := Option.map_eq_some_iff.mp receives
  have follows := follows socket found
  cases invokes : (socket.receive libraries answers message).2 with
  | none =>
    simp only [invokes, Option.map_none, Option.toList_none, List.append_nil]
    exact kept.quiet rfl rfl
  | some invocation =>
    obtain ⟨asks, isProfile⟩ := RealtimeSocket.receive_invokes invokes
    have checked := follows invocation.permission asks
    simp only [invokes, Option.map_some, Option.toList_some]
    refine kept.entry rfl rfl rfl ?_ ?_
    · exact fun tables isKey => (checked tables isKey).1
    · intro other tables isInvoked
      injection isInvoked with _ sameInvocation sameKey
      rw [← sameInvocation, isProfile]
      exact (checked tables sameKey).2

theorem Kept.update {tables next : KeyTables}
    (found : state.keys.lookup keyId = some tables) (active : tables.key.revokedAt = none) :
    Kept { state with keys := state.keys.insert keyId next } := by
  refine ⟨?_, kept.silent, kept.allowed⟩
  intro other mem
  obtain ⟨others, stored, revoked⟩ := kept.stays other mem
  -- The key that is edited is active, so it is none of the revoked ones.
  have apart : other ≠ keyId := by
    rintro rfl
    rw [found, Option.some.injEq] at stored
    exact revoked (stored ▸ active)
  exact ⟨others, (AList.lookup_insert_ne apart).trans stored, revoked⟩

theorem Kept.revoke {tables : KeyTables} : Kept { state with
      keys := state.keys.insert keyId (tables.revoke now), log := state.log ++ [.revoked keyId] } := by
  refine ⟨?_, ?_, ?_⟩
  · intro other mem
    by_cases same : other = keyId
    · subst same
      exact ⟨tables.revoke now, AList.lookup_insert _, by simp [KeyTables.revoke]⟩
    · have earlier : .revoked other ∈ state.log := by
        cases List.mem_append.mp mem with
        | inl earlier => exact earlier
        | inr last =>
          cases List.mem_singleton.mp last
          exact absurd rfl same
      obtain ⟨others, stored, revoked⟩ := kept.stays other earlier
      exact ⟨others, (AList.lookup_insert_ne same).trans stored, revoked⟩
  · refine List.pairwise_append.mpr ⟨kept.silent, List.pairwise_singleton _ _, ?_⟩
    intro earlier _ last isLast other session _ isSession
    rw [List.mem_singleton.mp isLast] at isSession
    cases isSession
  · intro session invocation others mem active
    cases List.mem_append.mp mem with
    | inl earlier => exact kept.allowed session invocation others earlier active
    | inr last => cases List.mem_singleton.mp last

theorem Kept.orSame {result : Except RequestError RealtimeState}
    (succeeds : ∀ next, result = .ok next → next.Kept) : (state.orSame result).Kept := by
  cases result with
  | error => exact kept
  | ok next => exact succeeds next rfl

theorem Kept.step {action : Action} (follows : state.Follows libraries action)
    (steps : state.step libraries action = some next) : next.Kept := by
  cases action with
  | create credential project tables request draws now =>
    cases steps
    apply kept.orSame
    intro next creates
    simp only [createRealtimeSession, bind_ok, pure_ok] at creates
    obtain ⟨_, _, _, _, _, _, _, _, _, _, _, _, _, _, rfl⟩ := creates
    exact kept.quiet rfl rfl
  | connect project token greeted now =>
    cases steps
    apply kept.orSame
    intro next connects
    exact kept.connect follows connects
  | receive index message answers => exact kept.receive follows steps
  | update keyId requiredProjectId input answers =>
    cases steps
    apply kept.orSame
    intro next updates
    simp only [bind_ok, okOr_ok, pure_ok] at updates
    obtain ⟨tables, found, edited, runs, rfl⟩ := updates
    exact kept.update found (UpdateApiKey.run_active runs)
  | revoke keyId now =>
    cases steps
    apply kept.orSame
    intro next revokes
    simp only [bind_ok, okOr_ok, pure_ok] at revokes
    obtain ⟨tables, found, rfl⟩ := revokes
    exact kept.revoke

end

end RealtimeState

/-- In every run whose connections and messages meet the condition, sessions follow their keys. -/
theorem realtime_follows_key {libraries : RealtimeLibraries} {state : RealtimeState}
    (reachable : (realtimeMachine libraries).Reachable (RealtimeState.Follows libraries) state) :
    state.RevokedSilent ∧ state.InvokedAllowed := by
  have kept : state.Kept := by
    apply reachable.invariant
    · rintro state ⟨-, -, noLog⟩
      refine ⟨?_, ?_, ?_⟩
      · simp [RealtimeState.RevokedStays, noLog]
      · simp [RealtimeState.RevokedSilent, noLog]
      · simp [RealtimeState.InvokedAllowed, noLog]
    · intro state action next kept follows steps
      exact kept.step follows steps
  exact ⟨kept.silent, kept.allowed⟩

/-! ## A transcription, and a connection after the revocation -/

instance (tables : KeyTables) (permission : ProfileEndpointPermission) (profileId : Uuid) :
    Decidable (tables.Allows permission profileId) :=
  match isRecord : tables.record with
  | .ok record =>
    decidable_of_iff (record.permissions.allowed permission = true ∧ record.agentScope.allows profileId = true)
      (by simp [KeyTables.Allows, isRecord])
  | .error _ => .isFalse (by simp [KeyTables.Allows, isRecord])

instance (libraries : RealtimeLibraries) (state : RealtimeState) (action : RealtimeState.Action) :
    Decidable (state.Follows libraries action) := by
  cases action <;> unfold RealtimeState.Follows <;> infer_instance

def RealtimeEntry.isRevoked : RealtimeEntry → Option Uuid
  | .revoked keyId => some keyId
  | _ => none

def realtimeVersion : Uuid := ⟨"0190f2c4-7b1e-7c3a-9d52-1f6a0e8b4e21", by decide⟩

def realtimeCapability : Uuid := ⟨"0190f2c4-7b1e-7c3a-9d52-1f6a0e8b4e22", by decide⟩

def transcriptionCapability : Uuid := ⟨"0190f2c4-7b1e-7c3a-9d52-1f6a0e8b4e23", by decide⟩

def realtimeKey : Uuid := ⟨"0190f2c4-7b1e-7c3a-9d52-1f6a0e8b4e24", by decide⟩

def realtimeSession : Uuid := ⟨"0190f2c4-7b1e-7c3a-9d52-1f6a0e8b4e25", by decide⟩

def voiceTables : ProfileTables where
  agentProfiles := .singleton ⟨keyProfile, some keyProject, "voice", "Voice", none, some realtimeVersion, none⟩
  agentProfileVersions :=
    .singleton ⟨realtimeVersion, keyProfile, 1, .object [], .object [], .object [], .object [], none⟩
  agentProfileCapabilities :=
    ⟨[⟨realtimeCapability, realtimeVersion, "realtime", "openai", "openai", none, .object [], .object [], .object [], 0⟩,
      ⟨transcriptionCapability, realtimeVersion, "transcription", "openai", "openai", none, .object [], .object [],
        .object [], 0⟩], by decide⟩
  agentProfileRollouts := .empty
  projectRuntimeReleases := .empty
  runtimeDeployments := .empty

def appendText : String := "\x7b\"type\":\"input_audio_buffer.append\",\"audio\":\"UklGRg==\"\x7d"

def commitText : String := "\x7b\"type\":\"input_audio_buffer.commit\"\x7d"

/-- A reader that knows two events, and four bytes of audio. -/
def voiceLibraries : RealtimeLibraries where
  reader := ⟨fun text =>
    if text = appendText then
      some (.object [("type", .string "input_audio_buffer.append"), ("audio", .string "UklGRg==")])
    else if text = commitText then some (.object [("type", .string "input_audio_buffer.commit")])
    else none⟩
  decodeBase64 text := if text = "UklGRg==" then some [82, 73, 70, 70] else none
  hashApiKey := textBytes
  sha256 bytes := bytes
  uuids := hyphenatedUuids
  lawful := hyphenatedUuids_lawful

def voicePermissions : ApiKeyPermissions := ⟨.none, .none, .none, .access, .access, .none, .none, .none⟩

def voiceState : RealtimeState where
  keys := (∅ : AList fun _ : Uuid => KeyTables).insert realtimeKey
    ⟨⟨keyProject, "Voice key", .all, voicePermissions, none⟩, []⟩
  sessions := []
  sockets := []
  log := []

def createVoice : RealtimeState.Action :=
  .create (some realtimeKey) (some keyProject) voiceTables ⟨"voice", none, none⟩ ⟨realtimeSession, "token"⟩ 0

def voiceAnswers : SocketAnswers := ⟨voiceTables, true, .ok "hello", true⟩

/-- Audio is transcribed before the key is revoked. -/
theorem realtime_follows_key_transcribed :
    ∃ state, (realtimeMachine voiceLibraries).Reachable (RealtimeState.Follows voiceLibraries) state ∧
      (state.RevokedSilent ∧ state.InvokedAllowed) ∧ state.log.length = 3 ∧
      state.log.filterMap RealtimeEntry.isRevoked = [realtimeKey] := by
  obtain ⟨state, reachable, passes⟩ := (realtimeMachine voiceLibraries).reachable_of_execute
    (RealtimeState.Follows voiceLibraries)
    (show (realtimeMachine voiceLibraries).start voiceState from ⟨rfl, rfl, rfl⟩)
    [createVoice, .connect (some keyProject) "token" true 1, .receive 0 (.text appendText) voiceAnswers,
      .receive 0 (.text commitText) voiceAnswers, .revoke realtimeKey 2]
    (fun state => decide (state.log.length = 3 ∧ state.log.filterMap RealtimeEntry.isRevoked = [realtimeKey]))
    (by decide +kernel)
  exact ⟨state, reachable, realtime_follows_key reachable, of_decide_eq_true passes⟩

/-- The token of a session still connects after the key of the session is revoked. -/
theorem realtime_connects_after_revocation : ¬∀ (libraries : RealtimeLibraries) (state : RealtimeState),
      (realtimeMachine libraries).Reachable Machine.always state → state.RevokedSilent ∧ state.InvokedAllowed := by
  intro promised
  obtain ⟨state, reachable, passes⟩ := (realtimeMachine voiceLibraries).reachable_of_execute Machine.always
    (show (realtimeMachine voiceLibraries).start voiceState from ⟨rfl, rfl, rfl⟩)
    [createVoice, .revoke realtimeKey 1, .connect (some keyProject) "token" true 2]
    (fun state => decide (state.log.map RealtimeEntry.isRevoked = [some realtimeKey, none] ∧
      state.log.map (fun entry => entry.session.bind RealtimeSession.apiKeyId) = [none, some realtimeKey]))
    (by decide +kernel)
  obtain ⟨revoked, sessions⟩ := of_decide_eq_true passes
  have silent := (promised voiceLibraries state reachable).1
  rw [RealtimeState.RevokedSilent] at silent
  match isLog : state.log with
  | [first, second] =>
    rw [isLog] at revoked sessions silent
    simp only [List.map_cons, List.map_nil, List.cons.injEq, and_true] at revoked sessions
    have isFirst : first = .revoked realtimeKey := by
      cases first with
      | revoked keyId => exact congrArg _ (Option.some.inj revoked.1)
      | accepted | invoked => cases revoked.1
    obtain ⟨session, isSession, ofKey⟩ := Option.bind_eq_some_iff.mp sessions.2
    exact List.rel_of_pairwise_cons silent (List.mem_singleton.mpr rfl) realtimeKey session isFirst isSession ofKey
  | [] | [_] | _ :: _ :: _ :: _ => simp [isLog] at revoked

end Vifu.Server
