import Vifu.Runtime.Identifier

/-!
# Runtime manifests, releases and trace records

The portable records of a project and their validation.  JSON and SHA-256 come from outside
the repository: `ManifestCodec` stands for `serde_json` at the type of manifests and for the
digest of its output.  Each check comes with a lemma that says exactly what it accepts.
-/

namespace Vifu.Runtime

open Foundation

def runtimeManifestSchemaVersion : ℕ := 1
def maxProviders : ℕ := 64
def maxAgents : ℕ := 1024
def maxEndpoints : ℕ := 2048
def maxManifestBytes : ℕ := 4 * 1024 * 1024
def maxEndpointTimeoutMs : ℕ := 15 * 60 * 1000

def sensitiveKeys : List String :=
  ["apikey", "authorization", "credential", "password", "privatekey", "secret", "token"]

/-- A logical provider required by a release.  Its resources stand in key order. -/
structure ProviderRequirement where
  id : String
  providerType : String
  capabilities : List String
  settings : Value
  resources : List (String × String)
  deriving DecidableEq, Repr

structure RuntimeManifest where
  schemaVersion : ℕ
  projectId : String
  providers : List ProviderRequirement
  agents : List AgentDefinition
  endpoints : List EndpointDefinition
  metadata : Value
  deriving DecidableEq, Repr

structure ManifestCodec extends JsonCodec RuntimeManifest where
  digest : List UInt8 → List UInt8

def duplicate (kind id : String) : RuntimeError := .invalidDefinition ("duplicate " ++ kind ++ " " ++ id)

def validateCount (kind : String) (count maximum : ℕ) : Except RuntimeError Unit :=
  ensure (count ≤ maximum) (.invalidDefinition ("runtime manifest contains too many " ++ kind))

def validateCapabilities (capabilities : List String) : Except RuntimeError Unit := do
  ensure (capabilities ≠ []) (.invalidDefinition "at least one capability is required")
  capabilities.forM (validatePortableIdentifier "capability")

/-- A text that starts with `/`, `file://` or a drive letter with a path. -/
def isAbsoluteOrFilePath (value : String) : Bool :=
  match value.toList with
  | '/' :: _ => true
  | 'f' :: 'i' :: 'l' :: 'e' :: ':' :: '/' :: '/' :: _ => true
  | drive :: ':' :: separator :: _ => drive.isAlpha && (separator == '/' || separator == '\\')
  | _ => false

def validateResourceReference (reference : String) : Except RuntimeError Unit := do
  ensure (reference ≠ "" ∧ reference.utf8ByteSize ≤ 512)
    (.invalidDefinition "resource reference must be between 1 and 512 bytes")
  ensure (isAbsoluteOrFilePath reference = false)
    (.invalidDefinition "runtime manifests cannot contain filesystem paths")

/-- The ASCII letters and digits of a key, in lower case. -/
def normalizedKey (key : String) : String :=
  .ofList ((key.toList.filter Char.isAlphanum).map Char.toLower)

mutual

/-- No field of the value is named like a credential, and no text in it is a path. -/
def validatePortableValue (path : String) : Value → Except RuntimeError Unit
  | .object fields => validatePortableFields path fields
  | .array values => validatePortableValues path values
  | .string value =>
    ensure (isAbsoluteOrFilePath value = false)
      (.invalidDefinition ("runtime manifest " ++ path ++ " contains a filesystem path"))
  | .null | .bool _ | .number _ => .ok ()

def validatePortableValues (path : String) : List Value → Except RuntimeError Unit
  | [] => .ok ()
  | value :: values => do
    validatePortableValue path value
    validatePortableValues path values

def validatePortableFields (path : String) : List (String × Value) → Except RuntimeError Unit
  | [] => .ok ()
  | (key, value) :: fields => do
    ensure (normalizedKey key ∉ sensitiveKeys)
      (.invalidDefinition ("runtime manifest " ++ path ++ " contains a credential field"))
    validatePortableValue path value
    validatePortableFields path fields

end

def validatePortableProviderValue (value : Value) (path : String) : Except RuntimeError Unit :=
  validatePortableValue ("provider " ++ path) value

/-! ## Validation of a manifest -/

def validateResource (resource : String × String) : Except RuntimeError Unit := do
  validatePortableIdentifier "resource" resource.1
  validateResourceReference resource.2

/-- One round of the loop over providers, which collects their ids. -/
def validateProvider (providerIds : List String) (provider : ProviderRequirement) :
    Except RuntimeError (List String) := do
  validatePortableIdentifier "provider" provider.id
  validatePortableIdentifier "provider type" provider.providerType
  ensure (provider.id ∉ providerIds) (duplicate "provider" provider.id)
  validateCapabilities provider.capabilities
  validatePortableProviderValue provider.settings "settings"
  provider.resources.forM validateResource
  return provider.id :: providerIds

def validateAgent (providerIds agentIds : List String) (agent : AgentDefinition) :
    Except RuntimeError (List String) := do
  validatePortableIdentifier "agent" agent.id
  validatePortableIdentifier "provider" agent.provider
  ensure (trim agent.name ≠ "") (.invalidDefinition "agent name is required")
  ensure (agent.provider ∈ providerIds) (.providerNotFound agent.provider)
  ensure (agent.id ∉ agentIds) (duplicate "agent" agent.id)
  validateCapabilities agent.capabilities
  validatePortableValue "agent metadata" agent.metadata
  return agent.id :: agentIds

def validateRoute (agents : List AgentDefinition) (endpoint : EndpointDefinition) :
    Except RuntimeError Unit :=
  match agents.find? (·.id = endpoint.agent) with
  | none => .error (.agentNotFound endpoint.agent)
  | some agent =>
    ensure (endpoint.capability ∈ agent.capabilities)
      (.capabilityUnavailable agent.provider endpoint.capability)

def validateEndpoint (agents : List AgentDefinition) (agentIds endpointNames : List String)
    (endpoint : EndpointDefinition) : Except RuntimeError (List String) := do
  validatePortableIdentifier "endpoint" endpoint.name
  validatePortableIdentifier "agent" endpoint.agent
  validatePortableIdentifier "capability" endpoint.capability
  ensure (endpoint.agent ∈ agentIds) (.agentNotFound endpoint.agent)
  ensure (endpoint.name ∉ endpointNames) (duplicate "endpoint" endpoint.name)
  ensure (1 ≤ endpoint.timeoutMs ∧ endpoint.timeoutMs ≤ maxEndpointTimeoutMs)
    (.invalidDefinition ("endpoint timeout must be between 1 and " ++ toString maxEndpointTimeoutMs ++
      " milliseconds"))
  validateRoute agents endpoint
  return endpoint.name :: endpointNames

namespace RuntimeManifest

variable (codec : ManifestCodec)

def new (projectId : String) : RuntimeManifest where
  schemaVersion := runtimeManifestSchemaVersion
  projectId := projectId
  providers := []
  agents := []
  endpoints := []
  metadata := .emptyObject

def toUncheckedJson (manifest : RuntimeManifest) : Except RuntimeError (List UInt8) :=
  match codec.toVec manifest with
  | .ok bytes => .ok bytes
  | .error message => .error (.snapshot message)

def validate (manifest : RuntimeManifest) : Except RuntimeError Unit := do
  ensure (manifest.schemaVersion = runtimeManifestSchemaVersion)
    (.invalidDefinition ("unsupported runtime manifest schema version " ++ toString manifest.schemaVersion))
  validatePortableIdentifier "project" manifest.projectId
  validateCount "providers" manifest.providers.length maxProviders
  validateCount "agents" manifest.agents.length maxAgents
  validateCount "endpoints" manifest.endpoints.length maxEndpoints
  let providerIds ← manifest.providers.foldlM validateProvider []
  let agentIds ← manifest.agents.foldlM (validateAgent providerIds) []
  let _ ← manifest.endpoints.foldlM (validateEndpoint manifest.agents agentIds) []
  validatePortableValue "manifest metadata" manifest.metadata
  let bytes ← manifest.toUncheckedJson codec
  ensure (bytes.length ≤ maxManifestBytes) (.invalidDefinition "runtime manifest is too large")

def fromJson (bytes : List UInt8) : Except RuntimeError RuntimeManifest := do
  ensure (bytes.length ≤ maxManifestBytes) (.invalidDefinition "runtime manifest is too large")
  match codec.fromSlice bytes with
  | .error message => .error (.invalidDefinition message)
  | .ok manifest =>
    manifest.validate codec
    return manifest

def toJson (manifest : RuntimeManifest) : Except RuntimeError (List UInt8) := do
  manifest.validate codec
  manifest.toUncheckedJson codec

end RuntimeManifest

def hexByte (byte : UInt8) : List Char := [Nat.digitChar (byte.toNat / 16), Nat.digitChar (byte.toNat % 16)]

def RuntimeManifest.contentHash (codec : ManifestCodec) (manifest : RuntimeManifest) :
    Except RuntimeError String := do
  let bytes ← manifest.toJson codec
  return "sha256:" ++ .ofList ((codec.digest bytes).flatMap hexByte)

/-! ## Releases and trace records -/

/-- One immutable, content-addressed release of a project. -/
structure RuntimeRelease where
  version : ℕ
  contentHash : String
  manifest : RuntimeManifest
  deriving DecidableEq, Repr

namespace RuntimeRelease

def new (codec : ManifestCodec) (version : ℕ) (manifest : RuntimeManifest) :
    Except RuntimeError RuntimeRelease := do
  ensure (version ≠ 0) (.invalidDefinition "runtime release version must be greater than zero")
  manifest.validate codec
  let contentHash ← manifest.contentHash codec
  return { version, contentHash, manifest }

def validate (codec : ManifestCodec) (release : RuntimeRelease) : Except RuntimeError Unit := do
  ensure (release.version ≠ 0) (.invalidDefinition "runtime release version must be greater than zero")
  release.manifest.validate codec
  let contentHash ← release.manifest.contentHash codec
  ensure (release.contentHash = contentHash)
    (.invalidDefinition "runtime release content hash does not match its manifest")

end RuntimeRelease

/-- Invocation metadata that waits to be uploaded. -/
structure RuntimeTraceRecord where
  id : String
  projectId : String
  invocationId : String
  endpoint : String
  agent : Option String
  provider : Option String
  capability : Option String
  status : String
  durationMs : ℕ
  createdAtMs : ℕ
  deriving DecidableEq, Repr

def maxTraceDurationMs : ℕ := 24 * 60 * 60 * 1000

variable {result : Unit} {manifest : RuntimeManifest} {codec : ManifestCodec}

namespace RuntimeTraceRecord

def validateOptional (field : String × Option String) : Except RuntimeError Unit :=
  match field.2 with
  | some value => validatePortableIdentifier field.1 value
  | none => .ok ()

def validate (record : RuntimeTraceRecord) : Except RuntimeError Unit := do
  validateTraceIdentifier "trace" record.id
  validatePortableIdentifier "project" record.projectId
  validateTraceIdentifier "invocation" record.invocationId
  validatePortableIdentifier "endpoint" record.endpoint
  List.forM [("agent", record.agent), ("provider", record.provider), ("capability", record.capability)]
    validateOptional
  ensure (record.status ∈ ["completed", "cancelled", "error"])
    (.invalidDefinition "runtime trace status is invalid")
  ensure (record.durationMs ≤ maxTraceDurationMs) (.invalidDefinition "runtime trace duration is invalid")
  ensure (record.createdAtMs ≠ 0) (.invalidDefinition "runtime trace timestamp is invalid")

/-- The records that `validate` accepts. -/
structure Valid (record : RuntimeTraceRecord) : Prop where
  id : TraceIdentifier record.id
  projectId : PortableIdentifier record.projectId
  invocationId : TraceIdentifier record.invocationId
  endpoint : PortableIdentifier record.endpoint
  agent : ∀ value ∈ record.agent, PortableIdentifier value
  provider : ∀ value ∈ record.provider, PortableIdentifier value
  capability : ∀ value ∈ record.capability, PortableIdentifier value
  status : record.status ∈ ["completed", "cancelled", "error"]
  durationMs : record.durationMs ≤ maxTraceDurationMs
  createdAtMs : record.createdAtMs ≠ 0

theorem validateOptional_ok {kind : String} {value : Option String} :
    validateOptional (kind, value) = .ok result ↔ ∀ text ∈ value, PortableIdentifier text := by
  cases value with
  | none => simp [validateOptional]
  | some text => simp [validateOptional]

theorem validate_ok {record : RuntimeTraceRecord} : record.validate = .ok result ↔ record.Valid := by
  simp only [validate, check_bind_ok, validateTraceIdentifier_ok, validatePortableIdentifier_ok, forM_ok,
    List.forall_mem_cons, validateOptional_ok, ensure_ok]
  constructor
  · rintro ⟨id, projectId, invocationId, endpoint, ⟨agent, provider, capability, _⟩, status, duration, created⟩
    exact ⟨id, projectId, invocationId, endpoint, agent, provider, capability, status, duration, created⟩
  · intro valid
    exact ⟨valid.id, valid.projectId, valid.invocationId, valid.endpoint,
      ⟨valid.agent, valid.provider, valid.capability, by simp⟩, valid.status, valid.durationMs, valid.createdAtMs⟩

end RuntimeTraceRecord

/-! ## What validation accepts -/

/-- Capabilities that `validate_capabilities` accepts. -/
def ValidCapabilities (capabilities : List String) : Prop :=
  capabilities ≠ [] ∧ ∀ capability ∈ capabilities, PortableIdentifier capability

theorem validateCapabilities_ok {capabilities : List String} :
    validateCapabilities capabilities = .ok result ↔ ValidCapabilities capabilities := by
  simp only [validateCapabilities, check_bind_ok, ensure_ok, forM_ok, validatePortableIdentifier_ok,
    ValidCapabilities]

structure ProviderRequirement.Valid (provider : ProviderRequirement) : Prop where
  id : PortableIdentifier provider.id
  providerType : PortableIdentifier provider.providerType
  capabilities : ValidCapabilities provider.capabilities
  settings : validatePortableProviderValue provider.settings "settings" = .ok ()
  resources : ∀ resource ∈ provider.resources, validateResource resource = .ok ()

theorem validateProvider_ok (providerIds : List String) (provider : ProviderRequirement) (result : List String) :
    validateProvider providerIds provider = .ok result ↔
      result = provider.id :: providerIds ∧ provider.id ∉ providerIds ∧ provider.Valid := by
  simp only [validateProvider, check_bind_ok, validatePortableIdentifier_ok, ensure_ok, validateCapabilities_ok,
    forM_ok, pure_ok]
  constructor
  · rintro ⟨id, providerType, fresh, capabilities, settings, resources, same⟩
    exact ⟨same.symm, fresh, id, providerType, capabilities, settings, resources⟩
  · rintro ⟨same, fresh, valid⟩
    exact ⟨valid.id, valid.providerType, fresh, valid.capabilities, valid.settings, valid.resources, same.symm⟩

structure AgentDefinition.Valid (providerIds : List String) (agent : AgentDefinition) : Prop where
  id : PortableIdentifier agent.id
  provider : PortableIdentifier agent.provider
  name : trim agent.name ≠ ""
  known : agent.provider ∈ providerIds
  capabilities : ValidCapabilities agent.capabilities
  metadata : validatePortableValue "agent metadata" agent.metadata = .ok ()

theorem validateAgent_ok (providerIds agentIds : List String) (agent : AgentDefinition) (result : List String) :
    validateAgent providerIds agentIds agent = .ok result ↔
      result = agent.id :: agentIds ∧ agent.id ∉ agentIds ∧ agent.Valid providerIds := by
  simp only [validateAgent, check_bind_ok, validatePortableIdentifier_ok, ensure_ok, validateCapabilities_ok,
    pure_ok]
  constructor
  · rintro ⟨id, provider, name, known, fresh, capabilities, metadata, same⟩
    exact ⟨same.symm, fresh, id, provider, name, known, capabilities, metadata⟩
  · rintro ⟨same, fresh, valid⟩
    exact ⟨valid.id, valid.provider, valid.name, valid.known, fresh, valid.capabilities, valid.metadata, same.symm⟩

structure EndpointDefinition.Valid (agents : List AgentDefinition) (agentIds : List String)
    (endpoint : EndpointDefinition) : Prop where
  name : PortableIdentifier endpoint.name
  agent : PortableIdentifier endpoint.agent
  capability : PortableIdentifier endpoint.capability
  known : endpoint.agent ∈ agentIds
  timeout : 1 ≤ endpoint.timeoutMs ∧ endpoint.timeoutMs ≤ maxEndpointTimeoutMs
  route : validateRoute agents endpoint = .ok ()

theorem validateEndpoint_ok (agents : List AgentDefinition) (agentIds endpointNames : List String)
    (endpoint : EndpointDefinition) (result : List String) :
    validateEndpoint agents agentIds endpointNames endpoint = .ok result ↔
      result = endpoint.name :: endpointNames ∧ endpoint.name ∉ endpointNames ∧
        endpoint.Valid agents agentIds := by
  simp only [validateEndpoint, check_bind_ok, validatePortableIdentifier_ok, ensure_ok, pure_ok]
  constructor
  · rintro ⟨name, agent, capability, known, fresh, timeout, route, same⟩
    exact ⟨same.symm, fresh, name, agent, capability, known, timeout, route⟩
  · rintro ⟨same, fresh, valid⟩
    exact ⟨valid.name, valid.agent, valid.capability, valid.known, fresh, valid.timeout, valid.route, same.symm⟩

/-- The manifests that `validate` accepts. -/
structure RuntimeManifest.Valid (codec : ManifestCodec) (manifest : RuntimeManifest) : Prop where
  schemaVersion : manifest.schemaVersion = runtimeManifestSchemaVersion
  projectId : PortableIdentifier manifest.projectId
  counts : manifest.providers.length ≤ maxProviders ∧ manifest.agents.length ≤ maxAgents ∧
    manifest.endpoints.length ≤ maxEndpoints
  distinctProviders : (manifest.providers.map (·.id)).Nodup
  providers : ∀ provider ∈ manifest.providers, provider.Valid
  distinctAgents : (manifest.agents.map (·.id)).Nodup
  agents : ∀ agent ∈ manifest.agents, agent.Valid (manifest.providers.map (·.id)).reverse
  distinctEndpoints : (manifest.endpoints.map (·.name)).Nodup
  endpoints : ∀ endpoint ∈ manifest.endpoints,
    endpoint.Valid manifest.agents (manifest.agents.map (·.id)).reverse
  metadata : validatePortableValue "manifest metadata" manifest.metadata = .ok ()
  size : ∃ bytes, codec.toVec manifest = .ok bytes ∧ bytes.length ≤ maxManifestBytes

theorem toUncheckedJson_ok {bytes : List UInt8} :
    manifest.toUncheckedJson codec = .ok bytes ↔ codec.toVec manifest = .ok bytes := by
  unfold RuntimeManifest.toUncheckedJson
  cases codec.toVec manifest <;> simp

theorem RuntimeManifest.validate_ok : manifest.validate codec = .ok result ↔ manifest.Valid codec := by
  simp only [validate, bind_ok, Unique.exists_iff, PUnit.default_eq_unit, ensure_ok,
    validatePortableIdentifier_ok, validateCount, scan_ok validateProvider_ok, toUncheckedJson_ok]
  constructor
  · rintro ⟨schemaVersion, projectId, providerCount, agentCount, endpointCount, _,
      ⟨rfl, distinctProviders, _, providers⟩, _, agentScan, _, endpointScan, metadata, size⟩
    obtain ⟨rfl, distinctAgents, _, agents⟩ := (scan_ok (validateAgent_ok _)).mp agentScan
    obtain ⟨_, distinctEndpoints, _, endpoints⟩ := (scan_ok (validateEndpoint_ok _ _)).mp endpointScan
    simp only [List.append_nil] at agents endpoints
    exact ⟨schemaVersion, projectId, ⟨providerCount, agentCount, endpointCount⟩, distinctProviders, providers,
      distinctAgents, agents, distinctEndpoints, endpoints, metadata, size⟩
  · intro valid
    refine ⟨valid.schemaVersion, valid.projectId, valid.counts.1, valid.counts.2.1, valid.counts.2.2, _,
      ⟨rfl, valid.distinctProviders, by simp, valid.providers⟩, _,
      (scan_ok (validateAgent_ok _)).mpr ⟨rfl, valid.distinctAgents, by simp, ?_⟩, _,
      (scan_ok (validateEndpoint_ok _ _)).mpr ⟨rfl, valid.distinctEndpoints, by simp, ?_⟩,
      valid.metadata, valid.size⟩
    · simpa using valid.agents
    · simpa using valid.endpoints

theorem validateRoute_ok {agents : List AgentDefinition} {endpoint : EndpointDefinition} :
    validateRoute agents endpoint = .ok result ↔
      ∃ agent, agents.find? (·.id = endpoint.agent) = some agent ∧ endpoint.capability ∈ agent.capabilities := by
  unfold validateRoute
  cases agents.find? (·.id = endpoint.agent) with
  | none => simp
  | some agent => simp

def ManifestCodec.single (manifest : RuntimeManifest) (json : String) (digest : List UInt8) : ManifestCodec where
  toVec other := if other = manifest then .ok json.toUTF8.data.toList else .error "unknown manifest"
  fromSlice bytes := if bytes = json.toUTF8.data.toList then .ok manifest else .error "unknown text"
  digest _ := digest

theorem ManifestCodec.single_roundTrips (manifest : RuntimeManifest) (json : String) (digest : List UInt8) :
    (ManifestCodec.single manifest json digest).RoundTrips manifest :=
  ⟨json.toUTF8.data.toList, if_pos rfl, if_pos rfl⟩

/-- A manifest whose provider is required to support `chat`, and whose agent and endpoint use
    `capability`. -/
def guideManifest (capability : String) : RuntimeManifest where
  schemaVersion := 1
  projectId := "town"
  providers := [
    { id := "models", providerType := "http", capabilities := ["chat"], settings := .emptyObject
      resources := [] }]
  agents := [
    { id := "guide", name := "Guide", provider := "models", capabilities := [capability]
      metadata := .emptyObject }]
  endpoints := [{ name := "town-guide", agent := "guide", capability, timeoutMs := 30000 }]
  metadata := .emptyObject

def guideJson (capability : String) : String :=
  "\x7b\"schemaVersion\":1,\"projectId\":\"town\",\"providers\":[\x7b\"id\":\"models\"," ++
  "\"providerType\":\"http\",\"capabilities\":[\"chat\"],\"settings\":\x7b\x7d,\"resources\":\x7b\x7d\x7d]," ++
  "\"agents\":[\x7b\"id\":\"guide\",\"name\":\"Guide\",\"provider\":\"models\",\"capabilities\":[\"" ++
  capability ++ "\"],\"metadata\":\x7b\x7d\x7d],\"endpoints\":[\x7b\"name\":\"town-guide\"," ++
  "\"agent\":\"guide\",\"capability\":\"" ++ capability ++ "\",\"timeoutMs\":30000\x7d],\"metadata\":\x7b\x7d\x7d"

/-- The SHA-256 digest of `guideJson "chat"`. -/
def guideDigest : List UInt8 :=
  [88, 255, 119, 43, 3, 238, 177, 28, 74, 185, 170, 140, 252, 101, 173, 42,
    153, 195, 12, 62, 63, 110, 220, 65, 226, 253, 31, 138, 71, 95, 112, 219]

def guideCodec (capability : String) : ManifestCodec :=
  .single (guideManifest capability) (guideJson capability) guideDigest

end Vifu.Runtime
