import Vifu.Gateway.WireRecords

/-!
# The session store of the gateway

A session is saved as one record of the host state, with its secrets or without them.  It is loaded with the secrets
that the caller supplies, and an authorization without its device token is dropped.
-/

namespace Vifu.Gateway

open Foundation
open Vifu.Runtime hiding validateIdentifier

structure MachineIdentity where
  machineId : String
  publicKey : String
  privateKeyPkcs8 : String
  deriving DecidableEq

/-- What `base64`, `ring` and `sha2` do with byte strings. -/
structure KeyPackages where
  Bytes : Type
  decode : String → Option Bytes
  encode : Bytes → String
  publicKey : Bytes → Option Bytes
  hexDigest : Bytes → String

section

variable (keys : KeyPackages)

def machineIdForPublicKey (publicKey : keys.Bytes) : String := "machine-" ++ keys.hexDigest publicKey

def MachineIdentity.fromPkcs8 (pkcs8 : keys.Bytes) : Except String MachineIdentity := do
  let publicKey ← okOr "Gateway machine private key is invalid" (keys.publicKey pkcs8)
  return ⟨machineIdForPublicKey keys publicKey, keys.encode publicKey, keys.encode pkcs8⟩

def MachineIdentity.fromEncodedPrivateKey (privateKeyPkcs8 : String) : Except String MachineIdentity := do
  let bytes ← okOr "Gateway machine private key is invalid" (keys.decode (trim privateKeyPkcs8))
  fromPkcs8 keys bytes

def MachineIdentity.validate (identity : MachineIdentity) : Except String Unit := do
  let rebuilt ← fromEncodedPrivateKey keys identity.privateKeyPkcs8
  ensure (rebuilt.machineId = identity.machineId ∧ rebuilt.publicKey = identity.publicKey)
    "Gateway machine identity does not match its private key"

end

structure PairingSummary where
  requestId : Uuid
  authUrl : String
  deriving DecidableEq

structure GuestProjectSummary where
  projectId : Uuid
  appId : String
  projectSlug : String
  deploymentId : Uuid
  deployment : String
  endpointPath : String
  apiKey : String
  claimToken : String
  expiresAt : String
  deriving DecidableEq

structure SessionSummary where
  identity : MachineIdentity
  gatewayId : Option String
  deviceToken : Option String
  tokenGeneration : Option ℕ
  tokenExpiresAt : Option String
  resumeSessionId : Option Uuid
  pendingAppId : Option String
  createdAtUnix : ℕ
  guestProject : Option GuestProjectSummary
  pairing : Option PairingSummary
  deriving DecidableEq

/-! ## Checks of a session -/

def validateAppId (value label : String) : Except String Unit := do
  let suffix ← okOr ("invalid " ++ label) ("vifu_app_".toList.isPrefixOf? value.toList)
  ensure ((String.ofList suffix).utf8ByteSize = 64 ∧ suffix.all ("0123456789abcdefABCDEF".toList.contains ·) = true)
    ("invalid " ++ label)

def isSecret (secret : List Char) : Bool :=
  secret.all fun character => character.isAlphanum || character == '-' || character == '_'

def validatePrefixedSecret (name value mark : String) : Except String Unit := do
  let secret ← okOr ("invalid " ++ name) (mark.toList.isPrefixOf? value.toList)
  ensure (value.utf8ByteSize ≤ 256 ∧ 48 ≤ (String.ofList secret).utf8ByteSize ∧ isSecret secret = true)
    ("invalid " ++ name)

def validateDeviceToken (value : String) : Except String Unit := do
  let secret ← okOr "Gateway Device Token must start with vifu_gw_" ("vifu_gw_".toList.isPrefixOf? value.toList)
  ensure ((48 ≤ value.utf8ByteSize ∧ value.utf8ByteSize ≤ 256) ∧ isSecret secret = true) "invalid Gateway Device Token"

/-- The texts that are not too long and have no control characters. -/
def isPlain (most : ℕ) (value : String) : Bool :=
  value.utf8ByteSize ≤ most && value.toList.all (!isControl ·)

def validateGuestProject (guest : GuestProjectSummary) : Except String Unit := do
  if guest.appId ≠ "" then validateAppId guest.appId "guest App ID"
  validateIdentifier "guest app slug" guest.projectSlug
  validateIdentifier "guest deployment" guest.deployment
  ensure (guest.endpointPath.toList.head? = some '/' ∧ isPlain 256 guest.endpointPath = true)
    "invalid guest App endpoint path"
  validatePrefixedSecret "guest API key" guest.apiKey "vifu_pk_"
  validatePrefixedSecret "guest claim token" guest.claimToken "vifu_gc_"
  ensure (guest.expiresAt ≠ "" ∧ isPlain 64 guest.expiresAt = true) "invalid guest expiration"

namespace SessionSummary

variable (session : SessionSummary)

/-- The device token of a session and what it came with. -/
def validateAuthorization : Except String Unit :=
  match session.deviceToken with
  | some deviceToken => do
    validateDeviceToken deviceToken
    ensure (session.gatewayId.isSome = session.tokenGeneration.isSome)
      "Device Token is missing Gateway authorization metadata"
  | none =>
    ensure (session.tokenGeneration = none ∧ session.tokenExpiresAt = none)
      "Gateway authorization metadata is missing its Device Token"

def validate (keys : KeyPackages) : Except String Unit := do
  session.identity.validate keys
  session.gatewayId.forM (validateIdentifier "Agent Gateway id")
  session.validateAuthorization
  ensure (session.tokenGeneration ≠ some 0) "Gateway token generation must be greater than zero"
  session.pendingAppId.forM (validateAppId · "pending App ID")
  ensure (session.createdAtUnix ≠ 0) "created_at_unix must be greater than zero"
  session.guestProject.forM validateGuestProject
  session.pairing.forM fun pairing =>
    ensure (pairing.authUrl ≠ "" ∧ isPlain 2048 pairing.authUrl = true) "Gateway authorization URL is invalid"

/-- The session as far as it is authorized: without a device token, it has no gateway to resume. -/
def authorized : SessionSummary :=
  match session.deviceToken with
  | some _ => session
  | none => { session with gatewayId := none, resumeSessionId := none }

end SessionSummary

/-! ## The stored record -/

structure StoredGatewaySession where
  version : ℕ
  identity : Option MachineIdentity
  gatewayId : Option String
  deviceToken : Option String
  tokenGeneration : Option ℕ
  tokenExpiresAt : Option String
  resumeSessionId : Option Uuid
  pendingAppId : Option String
  createdAtUnix : ℕ
  guestProject : Option GuestProjectSummary
  pairing : Option PairingSummary

def MachineIdentity.fields (identity : MachineIdentity) : List (String × Option Value) :=
  [("machineId", some (.string identity.machineId)), ("publicKey", some (.string identity.publicKey)),
    ("privateKeyPkcs8", some (.string identity.privateKeyPkcs8))]

def PairingSummary.fields (pairing : PairingSummary) : List (String × Option Value) :=
  [("requestId", some pairing.requestId.value), ("authUrl", some (.string pairing.authUrl))]

def GuestProjectSummary.fields (guest : GuestProjectSummary) : List (String × Option Value) :=
  [("id", some guest.projectId.value), ("appId", some (.string guest.appId)),
    ("appSlug", some (.string guest.projectSlug)), ("deploymentId", some guest.deploymentId.value),
    ("deployment", some (.string guest.deployment)), ("endpointPath", some (.string guest.endpointPath)),
    ("apiKey", some (.string guest.apiKey)), ("claimToken", some (.string guest.claimToken)),
    ("expiresAt", some (.string guest.expiresAt))]

def StoredGatewaySession.fields (stored : StoredGatewaySession) : List (String × Option Value) :=
  [("version", some (u64 stored.version)), ("identity", stored.identity.map (recordValue ·.fields)),
    ("gatewayId", stored.gatewayId.map .string), ("deviceToken", stored.deviceToken.map .string),
    ("tokenGeneration", stored.tokenGeneration.map u64), ("tokenExpiresAt", stored.tokenExpiresAt.map .string),
    ("resumeSessionId", stored.resumeSessionId.map Uuid.value), ("pendingAppId", stored.pendingAppId.map .string),
    ("createdAtUnix", some (u64 stored.createdAtUnix)), ("guestApp", stored.guestProject.map (recordValue ·.fields)),
    ("pairing", stored.pairing.map (recordValue ·.fields))]

/-- Fields that are read under another name as well. -/
def renameFields (aliases : List (String × String)) : Value → Value
  | .object fields => .object (fields.map fun field => ((aliases.lookup field.1).getD field.1, field.2))
  | value => value

def MachineIdentity.ofValue (value : Value) : Option MachineIdentity := do
  let entries ← recordEntries ["machineId", "publicKey", "privateKeyPkcs8"] value
  let machineId ← requiredField "machineId" entries Value.asString
  let publicKey ← requiredField "publicKey" entries Value.asString
  let privateKeyPkcs8 ← requiredField "privateKeyPkcs8" entries Value.asString
  return ⟨machineId, publicKey, privateKeyPkcs8⟩

section

variable (uuids : UuidParser)

def PairingSummary.ofValue (value : Value) : Option PairingSummary := do
  let entries ← recordEntries ["requestId", "authUrl"] value
  let requestId ← requiredField "requestId" entries (readUuid uuids)
  let authUrl ← requiredField "authUrl" entries Value.asString
  return ⟨requestId, authUrl⟩

def GuestProjectSummary.names : List String :=
  ["id", "appId", "appSlug", "deploymentId", "deployment", "endpointPath", "apiKey", "claimToken", "expiresAt"]

def GuestProjectSummary.ofValue (value : Value) : Option GuestProjectSummary := do
  let entries ← recordEntries names (renameFields [("projectId", "id"), ("projectSlug", "appSlug")] value)
  let projectId ← requiredField "id" entries (readUuid uuids)
  let appId ← defaultField "appId" entries Value.asString ""
  let projectSlug ← requiredField "appSlug" entries Value.asString
  let deploymentId ← requiredField "deploymentId" entries (readUuid uuids)
  let deployment ← requiredField "deployment" entries Value.asString
  let endpointPath ← requiredField "endpointPath" entries Value.asString
  let apiKey ← requiredField "apiKey" entries Value.asString
  let claimToken ← requiredField "claimToken" entries Value.asString
  let expiresAt ← requiredField "expiresAt" entries Value.asString
  return ⟨projectId, appId, projectSlug, deploymentId, deployment, endpointPath, apiKey, claimToken, expiresAt⟩

def StoredGatewaySession.names : List String :=
  ["version", "identity", "gatewayId", "deviceToken", "tokenGeneration", "tokenExpiresAt", "resumeSessionId",
    "pendingAppId", "createdAtUnix", "guestApp", "pairing"]

def StoredGatewaySession.ofValue (value : Value) : Option StoredGatewaySession := do
  let entries ← recordEntries names (renameFields [("guestProject", "guestApp")] value)
  let version ← requiredField "version" entries asU32
  let identity ← optionField "identity" entries MachineIdentity.ofValue
  let gatewayId ← optionField "gatewayId" entries Value.asString
  let deviceToken ← optionField "deviceToken" entries Value.asString
  let tokenGeneration ← optionField "tokenGeneration" entries Value.asU64
  let tokenExpiresAt ← optionField "tokenExpiresAt" entries Value.asString
  let resumeSessionId ← optionField "resumeSessionId" entries (readUuid uuids)
  let pendingAppId ← optionField "pendingAppId" entries Value.asString
  let createdAtUnix ← requiredField "createdAtUnix" entries Value.asU64
  let guestProject ← optionField "guestApp" entries (GuestProjectSummary.ofValue uuids)
  let pairing ← optionField "pairing" entries (PairingSummary.ofValue uuids)
  return ⟨version, identity, gatewayId, deviceToken, tokenGeneration, tokenExpiresAt, resumeSessionId, pendingAppId,
    createdAtUnix, guestProject, pairing⟩

end

/-! ## Saving and loading -/

def sessionNamespace : String := "agent-gateway-session"

def sessionSchemaVersion : ℕ := 2

inductive GatewaySecretStorage where
  | persisted
  | external
  deriving DecidableEq

/-- `save_host_state` and `load_host_state`; the JSON text of a row is kept by its value. -/
structure HostStates (σ : Type) where
  load : σ → String → String → Except RuntimeError (Option Value)
  save : σ → String → String → Value → Except RuntimeError σ

def HostStates.ReturnsLastWritten {σ : Type} (states : HostStates σ) : Prop :=
  ∀ {state next : σ} {name key : String} {value : Value},
    states.save state name key value = .ok next → states.load next name key = .ok (some value)

def validateHostStateKey (value label : String) : Except RuntimeError Unit :=
  ensure (value ≠ "" ∧ isPlain 512 value = true) (.store ("invalid host state " ++ label))

/-- The table `runtime_host_state`. -/
def sqliteHostStates (floats : FloatText) : HostStates (HashMap (String × String) Value) where
  load rows name key := do
    validateHostStateKey name "namespace"
    validateHostStateKey key "state key"
    return rows.lookup (name, key)
  save rows name key value := do
    validateHostStateKey name "namespace"
    validateHostStateKey key "state key"
    ensure (value.encodedSize floats ≤ 65536) (.store "host state is too large")
    return rows.insert (name, key) value

theorem sqliteHostStates_returns (floats : FloatText) : (sqliteHostStates floats).ReturnsLastWritten := by
  intro rows next name key value written
  simp only [sqliteHostStates, check_bind_ok, pure_ok] at written ⊢
  obtain ⟨isName, isKey, -, rfl⟩ := written
  exact ⟨isName, isKey, AList.lookup_insert _⟩

def SessionSummary.stored (session : SessionSummary) (storage : GatewaySecretStorage) : StoredGatewaySession where
  version := sessionSchemaVersion
  identity := if storage = .persisted then some session.identity else none
  gatewayId := session.gatewayId
  deviceToken := if storage = .persisted then session.deviceToken else none
  tokenGeneration := session.tokenGeneration
  tokenExpiresAt := session.tokenExpiresAt
  resumeSessionId := session.resumeSessionId
  pendingAppId := session.pendingAppId
  createdAtUnix := session.createdAtUnix
  guestProject := session.guestProject
  pairing := session.pairing

namespace StoredGatewaySession

variable (stored : StoredGatewaySession)

def chosenIdentity : Option MachineIdentity → Except String MachineIdentity
  | some external =>
    if stored.identity.any (· != external) then
      .error "stored Gateway session does not match the supplied Machine identity"
    else .ok external
  | none => okOr "stored Gateway session requires an external Machine identity" stored.identity

def chosenDeviceToken : Option String → Except String (Option String)
  | some external =>
    if stored.deviceToken.any (· != external) then
      .error "stored Gateway session does not match the supplied Device Token"
    else .ok (some external)
  | none => .ok stored.deviceToken

/-- What is read for one device token, and only with it. -/
def session (identity : MachineIdentity) (deviceToken : Option String) : SessionSummary where
  identity := identity
  gatewayId := deviceToken.bind fun _ => stored.gatewayId
  deviceToken := deviceToken
  tokenGeneration := deviceToken.bind fun _ => stored.tokenGeneration
  tokenExpiresAt := deviceToken.bind fun _ => stored.tokenExpiresAt
  resumeSessionId := deviceToken.bind fun _ => stored.resumeSessionId
  pendingAppId := stored.pendingAppId
  createdAtUnix := stored.createdAtUnix
  guestProject := stored.guestProject
  pairing := stored.pairing

end StoredGatewaySession

section

variable {σ : Type} (keys : KeyPackages) (uuids : UuidParser) (states : HostStates σ) (complaint : Value → String)

def GatewaySessionPersistence.save (state : σ) (stateKey : String) (storage : GatewaySecretStorage) (session : SessionSummary) :
    Except String σ := do
  session.validate keys
  (states.save state sessionNamespace stateKey (recordValue (session.stored storage).fields)).mapError
    RuntimeError.display

/-- `complaint` is what `serde_json::from_value` says of a value that it does not read. -/
def GatewaySessionStore.load (state : σ) (stateKey : String) (externalIdentity : Option MachineIdentity)
    (externalDeviceToken : Option String) : Except String (Option SessionSummary) := do
  match ← (states.load state sessionNamespace stateKey).mapError RuntimeError.display with
  | none => return none
  | some value =>
    let stored ← okOr ("stored Agent Gateway session is invalid: " ++ complaint value)
      (StoredGatewaySession.ofValue uuids value)
    if stored.version ≠ sessionSchemaVersion then
      return none
    else
      let identity ← stored.chosenIdentity externalIdentity
      let deviceToken ← stored.chosenDeviceToken externalDeviceToken
      let session := stored.session identity deviceToken
      session.validate keys
      return some session

/-- Whatever was saved before, a session that is saved with its secrets is loaded as it is. -/
def RoundTrips : Prop :=
  ∀ (session : SessionSummary) (state next : σ) (stateKey : String), session.validate keys = .ok () →
    GatewaySessionPersistence.save keys states state stateKey .persisted session = .ok next →
      GatewaySessionStore.load keys uuids states complaint next stateKey none none = .ok (some session)

end

/-! ## What is read back -/

theorem entries_renamed (aliases : List (String × String)) (names : List String)
    (fields : List (String × Option Value)) (known : fields.map Prod.fst = names) (distinct : names.Nodup)
    (unaliased : ∀ name ∈ names, aliases.lookup name = none) :
    ∃ entries, recordEntries names (renameFields aliases (recordValue fields)) = some entries ∧
      ∀ key, getField key entries = (fields.lookup key).join := by
  have keys := presentFields_keys fields
  rw [known] at keys
  have same : renameFields aliases (recordValue fields) = recordValue fields := by
    have unchanged : ∀ field ∈ sortFields (presentFields fields),
        ((aliases.lookup field.1).getD field.1, field.2) = id field := by
      intro field member
      have isName := keys.subset (List.mem_map_of_mem ((mem_sortFields (distinct.sublist keys)).mp member))
      rw [unaliased _ isName]
      rfl
    rw [recordValue, renameFields, List.map_congr_left unchanged, List.map_id]
  rw [same]
  exact entries_recordValue names fields known distinct

theorem MachineIdentity.ofValue_recordValue (identity : MachineIdentity) :
    MachineIdentity.ofValue (recordValue identity.fields) = some identity := by
  obtain ⟨entries, isRecord, found⟩ := entries_recordValue ["machineId", "publicKey", "privateKeyPkcs8"]
    identity.fields rfl (by decide)
  rw [MachineIdentity.ofValue, isRecord]
  simp only [requiredField, found, Option.bind_eq_bind, Option.bind_some]
  simp [MachineIdentity.fields, List.lookup_cons]

section

variable {uuids : UuidParser} (lawful : uuids.Lawful)
include lawful

theorem PairingSummary.ofValue_recordValue (pairing : PairingSummary) :
    PairingSummary.ofValue uuids (recordValue pairing.fields) = some pairing := by
  obtain ⟨entries, isRecord, found⟩ := entries_recordValue ["requestId", "authUrl"] pairing.fields rfl (by decide)
  rw [PairingSummary.ofValue, isRecord]
  simp only [requiredField, found, Option.bind_eq_bind, Option.bind_some]
  simp [PairingSummary.fields, List.lookup_cons, lawful]

theorem GuestProjectSummary.ofValue_recordValue (guest : GuestProjectSummary) :
    GuestProjectSummary.ofValue uuids (recordValue guest.fields) = some guest := by
  obtain ⟨entries, isRecord, found⟩ := entries_renamed [("projectId", "id"), ("projectSlug", "appSlug")]
    names guest.fields rfl (by decide) (by decide)
  rw [GuestProjectSummary.ofValue, isRecord]
  simp only [requiredField, defaultField, optionalField, found, Option.bind_eq_bind, Option.bind_some]
  simp [GuestProjectSummary.fields, List.lookup_cons, lawful, readOptional]

theorem StoredGatewaySession.ofValue_recordValue (stored : StoredGatewaySession) (small : stored.version ≤ 4294967295) :
    StoredGatewaySession.ofValue uuids (recordValue stored.fields) = some stored := by
  obtain ⟨entries, isRecord, found⟩ := entries_renamed [("guestProject", "guestApp")] names stored.fields rfl
    (by decide) (by decide)
  rw [StoredGatewaySession.ofValue, isRecord]
  simp only [requiredField, optionField, found, Option.bind_eq_bind, Option.bind_some]
  simp [StoredGatewaySession.fields, List.lookup_cons, lawful, asU32_u64 small,
    readNullable_record MachineIdentity.ofValue_recordValue,
    readNullable_record (GuestProjectSummary.ofValue_recordValue lawful),
    readNullable_record (PairingSummary.ofValue_recordValue lawful)]

end

/-! ## Saved sessions -/

theorem SessionSummary.validate_authorized {keys : KeyPackages} {session : SessionSummary}
    (accepted : session.validate keys = .ok ()) :
    session.authorized.validate keys = .ok () ∧
      (session.stored .persisted).session session.identity session.deviceToken = session.authorized := by
  obtain ⟨identity, gatewayId, deviceToken, tokenGeneration, tokenExpiresAt, resumeSessionId, pendingAppId,
    createdAtUnix, guestProject, pairing⟩ := session
  cases deviceToken with
  | some deviceToken => exact ⟨accepted, rfl⟩
  | none =>
    simp only [validate, check_bind_ok] at accepted
    obtain ⟨isMachine, -, unauthorized, rest⟩ := accepted
    have noMetadata := unauthorized
    simp only [validateAuthorization, ensure_ok] at noMetadata
    obtain ⟨rfl, rfl⟩ := noMetadata
    refine ⟨?_, rfl⟩
    simp only [validate, check_bind_ok]
    exact ⟨isMachine, rfl, unauthorized, rest⟩

/-- What is loaded without secrets of the caller is the session as far as it is authorized. -/
theorem load_save {σ : Type} (keys : KeyPackages) (complaint : Value → String) {uuids : UuidParser}
    {states : HostStates σ} (lawful : uuids.Lawful) (backend : states.ReturnsLastWritten) {state next : σ}
    {stateKey : String} {session : SessionSummary} (accepted : session.validate keys = .ok ())
    (written : states.save state sessionNamespace stateKey (recordValue (session.stored .persisted).fields) = .ok next) :
    GatewaySessionPersistence.save keys states state stateKey .persisted session = .ok next ∧
      GatewaySessionStore.load keys uuids states complaint next stateKey none none = .ok (some session.authorized) := by
  obtain ⟨stillAccepted, isAuthorized⟩ := SessionSummary.validate_authorized accepted
  constructor
  · rw [GatewaySessionPersistence.save, accepted, written]
    rfl
  · have read := StoredGatewaySession.ofValue_recordValue lawful (session.stored .persisted) (Nat.le_of_ble_eq_true rfl)
    have chosen : (session.stored .persisted).chosenIdentity none = .ok session.identity := rfl
    have token : (session.stored .persisted).chosenDeviceToken none = .ok session.deviceToken := rfl
    rw [GatewaySessionStore.load, backend written]
    simp only [Except.mapError, ok_bind, read, okOr, chosen, token, isAuthorized, stillAccepted]
    rfl

/-- The machine identity that belongs to a key, as the packages derive it. -/
def pairedMachine : MachineIdentity where
  machineId := "machine-21fe31dfa154a261626bf854046fd2271b7bed4b6abe45aa58877ef47f9721b9"
  publicKey := "11qYAYKxCrfVS_7TyWQHOg7hcvPapiMlrwIaaPcHURo"
  privateKeyPkcs8 :=
    "MFECAQEwBQYDK2VwBCIEIJ1hsZ3v_VpguoRK9JLsLMREScVpezJpGXA7rAMcrn9ggSEA11qYAYKxCrfVS_7TyWQHOg7hcvPapiMlrwIaaPcHURo"

/-- The packages on this key, whose byte strings are named by their encodings. -/
def pairedKeys : KeyPackages where
  Bytes := String
  decode text := if text = pairedMachine.privateKeyPkcs8 then some text else none
  encode := id
  publicKey bytes := if bytes = pairedMachine.privateKeyPkcs8 then some pairedMachine.publicKey else none
  hexDigest _ := "21fe31dfa154a261626bf854046fd2271b7bed4b6abe45aa58877ef47f9721b9"

def canonicalUuids : UuidParser where
  parse text :=
    if canonical : text.length = 36 ∧ text.toList.zipIdx.all (fun place => uuidCharacter place.2 place.1) = true then
      some ⟨text, canonical⟩
    else none

theorem canonicalUuids_lawful : canonicalUuids.Lawful := fun id => dif_pos id.canonical

def tokenless : SessionSummary where
  identity := pairedMachine
  gatewayId := some "gateway-test"
  deviceToken := none
  tokenGeneration := none
  tokenExpiresAt := none
  resumeSessionId := none
  pendingAppId := none
  createdAtUnix := 42
  guestProject := none
  pairing := none

def halfFloats : FloatText := fun _ => "0.5"

theorem tokenless_accepted : tokenless.validate pairedKeys = .ok () := by decide +kernel

/-- The row of the session in a table that had none. -/
def tokenlessRow : HashMap (String × String) Value :=
  AList.insert (sessionNamespace, "cloud") (recordValue (tokenless.stored .persisted).fields) ∅

theorem tokenless_written :
    (sqliteHostStates halfFloats).save ∅ sessionNamespace "cloud" (recordValue (tokenless.stored .persisted).fields) =
      .ok tokenlessRow := by
  have fits : (recordValue (tokenless.stored .persisted).fields).encodedSize halfFloats ≤ 65536 := by decide +kernel
  simp only [sqliteHostStates, check_bind_ok, ensure_ok, pure_ok, validateHostStateKey]
  exact ⟨by decide, by decide, fits, rfl⟩

theorem load_save_tokenless :
    GatewaySessionPersistence.save pairedKeys (sqliteHostStates halfFloats) ∅ "cloud" .persisted tokenless =
        .ok tokenlessRow ∧
      GatewaySessionStore.load pairedKeys canonicalUuids (sqliteHostStates halfFloats) (fun _ => "missing field")
        tokenlessRow "cloud" none none = .ok (some tokenless.authorized) :=
  load_save pairedKeys _ canonicalUuids_lawful (sqliteHostStates_returns _) tokenless_accepted tokenless_written

/-- A gateway id that is kept without its device token is saved and not loaded. -/
theorem gateway_without_token_dropped :
    ¬RoundTrips pairedKeys canonicalUuids (sqliteHostStates halfFloats) fun _ => "missing field" := by
  intro roundTrips
  have saved : GatewaySessionPersistence.save pairedKeys (sqliteHostStates halfFloats) ∅ "cloud" .persisted tokenless =
      .ok tokenlessRow := by
    rw [GatewaySessionPersistence.save, tokenless_accepted, tokenless_written]
    rfl
  have loaded := roundTrips tokenless ∅ tokenlessRow "cloud" tokenless_accepted saved
  revert loaded
  decide +kernel

end Vifu.Gateway
