import Vifu.Runtime.Registry
import Vifu.Server.Api.Access
import Vifu.Server.Endpoints.Routes
import Vifu.Server.Settings.Compile

/-!
# Provider edits and provider reports

The provider connections of one project are written from two sides: users edit them, and each gateway that connects
writes what it reports.  Only an edit goes on into a release of the project.
-/

namespace Vifu.Server

open Foundation
open Vifu.Gateway (Uuid AgentDescriptor Identifier)
open Vifu.Runtime

/-- A row of `provider_connections`, which has its provider key beside it. -/
structure StoredConnection where
  sourceKind : SourceKind
  sourceKey : String
  name : String
  providerType : String
  config : Value
  status : String
  deriving DecidableEq

structure SettingsRelease where
  version : ℕ
  contentHash : String
  manifest : RuntimeManifest
  deriving DecidableEq

/-- `UNIQUE (project_id, version)` and `UNIQUE (project_id, content_hash)`. -/
instance : Keyed SettingsRelease where
  Key := ℕ × String
  key row := (row.version, row.contentHash)
  conflicts first second := first.1 == second.1 || first.2 == second.2
  symmetric first second := by grind
  reflexive key := by simp

structure ProjectConfiguration where
  gatewayId : String
  connections : HashMap String StoredConnection
  releases : Rows SettingsRelease
  deployments : Rows ReleasedDeployment

structure CustomProvider where
  providerKey : String
  providerType : String
  config : Value

/-- `available_provider_for_source`, by the gateway and the key of the source. -/
abbrev Catalogue := String → String → Except ApiError CustomProvider

def mergeJsonObjects : Value → Value → Except ApiError Value
  | .object base, .object overrides =>
    .ok (.object (overrides.foldl (fun merged field => insertField field.1 field.2 merged) base))
  | _, _ => .error (.invalid "provider config must be an object")

def connectionGatewayId (config : Value) : Option String :=
  (((config.get? "gatewayId").bind Value.asStr).map trim).filter fun id => !id.isEmpty

/-- `effective_provider_connection`: the source fills in what the connection leaves out. -/
def effectiveConnection (catalogue : Catalogue) (gatewayId : String) (row : String × StoredConnection) :
    Except ApiError EffectiveConnection :=
  let (providerKey, connection) := row
  let own : EffectiveConnection := ⟨providerKey, connection.providerType, connection.config⟩
  match connection.sourceKind with
  | .registry => .ok own
  | .custom =>
    match catalogue ((connectionGatewayId connection.config).getD gatewayId) connection.sourceKey with
    | .error .notFound => .ok own
    | .error error => .error error
    | .ok source => do
      let config ← mergeJsonObjects source.config connection.config
      return ⟨providerKey, source.providerType, config⟩

namespace ProjectConfiguration

variable (project : ProjectConfiguration)

def upsertConnection (providerKey : String) (connection : StoredConnection) : ProjectConfiguration :=
  { project with connections := project.connections.insert providerKey connection }

/-- `effective_project_provider_connections`. -/
def effectiveConnections (catalogue : Catalogue) : Except ApiError (List EffectiveConnection) :=
  (project.connections.entries.map fun entry => (entry.1, entry.2)).mapM
    (effectiveConnection catalogue project.gatewayId)

def primary : Option ReleasedDeployment := project.deployments.find? fun row => row.isPrimary

def getRelease (version : ℕ) : Except ApiError SettingsRelease :=
  okOr .notFound (project.releases.find? fun row => row.version == version)

def latestVersion : Option ℕ := (project.releases.rows.map SettingsRelease.version).max?

/-- The transaction of `activate_runtime_configuration_release`. -/
def activateConfigurationRelease (deploymentId : Uuid) (release : SettingsRelease) :
    Except ApiError ProjectConfiguration := do
  let releases ← okOr alreadyExists (project.releases.insert? release)
  let isSynced := fun row : ReleasedDeployment => row.id == deploymentId && row.isPrimary && row.configSyncEnabled
  ensure (project.deployments.count isSynced = 1)
    (.conflict "primary deployment must enable runtime configuration sync")
  return { project with
    releases
    deployments := project.deployments.update isSynced
      (fun row => { row with activeReleaseVersion := some release.version }) fun _ => rfl }

end ProjectConfiguration

/-! ## Into the release -/

def configureManifest (codec : ManifestCodec) (manifest : RuntimeManifest) (providerKey : String) (config : Value) :
    Except ApiError (Option RuntimeManifest) :=
  let key := runtimeProviderKey config providerKey
  match manifest.providers.find? fun provider => provider.id == key with
  | none => .ok none
  | some provider => do
    let changed ← applyRuntimeProviderConfiguration codec provider config
    let generation ← runtimeProviderGeneration changed.settings
    return some { manifest with
      providers := replaceFirst ProviderRequirement.id changed manifest.providers
      agents := manifest.agents.map fun agent =>
        if agent.provider = key then { agent with metadata := .object (withGeneration generation (agentMetadata agent)) }
        else agent }

/-- The profiles whose agents are compiled again: their agent is in the release and chats through the connection. -/
def LiveProfile.chatsThrough (profile : LiveProfile) (manifest : RuntimeManifest) (providerKey : String) : Bool :=
  (manifest.agents.any fun agent => agent.id == profile.resourceId) &&
    profile.capabilities.any fun capability => capability.kind == "chat" && capability.providerKey == providerKey

def compileProfiles (codec : ManifestCodec) (providerKey : String) (connections : List EffectiveConnection)
    (manifest : RuntimeManifest) (profiles : List LiveProfile) : Except ApiError RuntimeManifest :=
  profiles.foldlM (fun manifest profile =>
    if profile.chatsThrough manifest providerKey then
      compileProfileRuntimeManifest codec manifest profile connections
    else .ok manifest) manifest

/-- What the handlers read besides the configuration: the providers that gateways report, the profiles of the project,
and how the reconciliation of the provider's agents ends. -/
structure UpdateContext where
  catalogue : Catalogue
  profiles : List LiveProfile
  reconciled : Except ApiError Unit

/-- The manifest that `sync_runtime_provider_configuration` releases, with the deployment and the active release. -/
def syncedManifest (codec : ManifestCodec) (context : UpdateContext) (providerKey : String) (config : Value)
    (project : ProjectConfiguration) : Except ApiError (Option (ReleasedDeployment × SettingsRelease × RuntimeManifest)) :=
  match project.primary with
  | none => .ok none
  | some primary =>
    if primary.configSyncEnabled = false then .ok none
    else match primary.activeReleaseVersion with
      | none => .ok none
      | some activeVersion => do
        let active ← project.getRelease activeVersion
        match ← configureManifest codec active.manifest providerKey config with
        | none => return none
        | some manifest =>
          let connections ← project.effectiveConnections context.catalogue
          let compiled ← compileProfiles codec providerKey connections manifest context.profiles
          return some (primary, active, compiled)

def releaseManifest (codec : ManifestCodec) (primary : ReleasedDeployment) (active : SettingsRelease)
    (manifest : RuntimeManifest) (project : ProjectConfiguration) : Except ApiError ProjectConfiguration := do
  let contentHash ← (manifest.contentHash codec).mapError fun error => .invalid error.display
  if contentHash = active.contentHash then return project
  else do
    let nextVersion := (project.latestVersion.map fun version => version + 1).getD 1
    let release ← (RuntimeRelease.new codec nextVersion manifest).mapError fun error => .invalid error.display
    project.activateConfigurationRelease primary.id ⟨nextVersion, release.contentHash, release.manifest⟩

/-- `sync_runtime_provider_configuration`. -/
def syncConfiguration (codec : ManifestCodec) (context : UpdateContext) (providerKey : String) (config : Value)
    (project : ProjectConfiguration) : Except ApiError ProjectConfiguration := do
  match ← syncedManifest codec context providerKey config project with
  | none => return project
  | some (primary, active, manifest) => releaseManifest codec primary active manifest project

/-! ## Edits -/

/-- The fields of `UpdateProjectProvider` that a provider of a gateway takes. -/
structure UpdateProjectProvider where
  name : Option String
  config : Option Value

/-- `prepare_project_provider_assignment`, which returns the name that is stored. -/
def preparedName (providerKey name providerType : String) : Except ApiError String := do
  let key ← requiredIdentifier "provider key" providerKey
  let _ ← requiredIdentifier "provider type" providerType
  let name ← optionalText "provider name" (some name) 128
  return name.getD key

def updatedConfig (current : Value) : Option Value → Except ApiError Value
  | some config => mergeJsonObjects current config
  | none => .ok current

def checkConfig (codec : ManifestCodec) (providerKey : String) (config : Value) : Except ApiError Unit := do
  let providerType := ((config.get? "runtimeProviderType").bind Value.asStr).getD "vifu-runtime"
  let _ ← applyRuntimeProviderConfiguration codec ⟨providerKey, providerType, ["chat"], .object [], []⟩ config
  return ()

def normalizedSourceKey (catalogue : Catalogue) (gatewayId : String) (current : StoredConnection) :
    Except ApiError String :=
  match catalogue ((connectionGatewayId current.config).getD gatewayId) current.sourceKey with
  | .ok provider => .ok provider.providerKey
  | .error .notFound => .ok current.sourceKey
  | .error error => .error error

def editedConnection (codec : ManifestCodec) (catalogue : Catalogue) (gatewayId providerKey : String)
    (current : StoredConnection) (input : UpdateProjectProvider) : Except ApiError StoredConnection := do
  let name ← preparedName providerKey (input.name.getD current.name) current.providerType
  let config ← updatedConfig current.config input.config
  checkConfig codec providerKey config
  let sourceKey ← normalizedSourceKey catalogue gatewayId current
  return { current with sourceKey, name, config, status := "configured" }

/-- `refresh_project_provider` of a connection with a custom source. -/
def refreshProjectProvider (context : UpdateContext) (providerKey : String) (connection : StoredConnection) :
    Effect ProjectConfiguration ApiError Unit := do
  let status ← Effect.ask fun project =>
    match context.catalogue ((connectionGatewayId connection.config).getD project.gatewayId) connection.sourceKey with
    | .ok _ => .ok "online"
    | .error .notFound => .ok "offline"
    | .error error => .error error
  let updated := { connection with status }
  Effect.change fun project => .ok (project.upsertConnection providerKey updated)
  let _ ← Effect.ask fun project => effectiveConnection context.catalogue project.gatewayId (providerKey, updated)
  Effect.lift context.reconciled

/-- `update_project_provider`, for a connection of the kind `custom` and the type `vifu-runtime`. -/
def updateRuntimeProvider (codec : ManifestCodec) (context : UpdateContext) (providerKey : String)
    (current : StoredConnection) (input : UpdateProjectProvider) : Effect ProjectConfiguration ApiError Unit := do
  let connection ← Effect.ask fun project =>
    editedConnection codec context.catalogue project.gatewayId providerKey current input
  Effect.change fun project => .ok (project.upsertConnection providerKey connection)
  let effective ← Effect.ask fun project =>
    effectiveConnection context.catalogue project.gatewayId (providerKey, connection)
  Effect.change (syncConfiguration codec context providerKey effective.config)
  refreshProjectProvider context providerKey connection

/-! ## Reports -/

def firstText (keys : List String) (value : Value) : Option String := (keys.findSome? value.get?).bind Value.asStr

def isIdentifier (value : String) : Bool := decide (Identifier value)

/-- `capabilities.sort()` and `dedup()`. -/
def sortedCapabilities (capabilities : List String) : List String :=
  ((capabilities.filter isIdentifier).insertionSort (· ≤ ·)).dedup

def reportedConfig (gatewayId runtimeProviderKey runtimeProviderType : String) (capabilities : List String)
    (settings : Value) (resources : List (String × String)) : Value :=
  .object [("capabilities", .array (capabilities.map Value.string)), ("gatewayId", .string gatewayId),
    ("resources", .object (resources.map fun resource => (resource.1, .string resource.2))),
    ("runtimeProviderKey", .string runtimeProviderKey), ("runtimeProviderType", .string runtimeProviderType),
    ("settings", settings), ("source", .string "agent-gateway")]

def declaredProviderConfig (provider : Value) (gatewayId runtimeProviderKey : String) : Value :=
  let providerType := (((provider.get? "localProviderType").bind Value.asStr).map trim).filter isIdentifier
  let settings := ((provider.get? "settings").map redactTraceValue).filter fun value => (value matches .object _)
  let resources := ((provider.get? "resources").map redactTraceValue).bind readResources
  let capabilities := (((provider.get? "capabilities").bind Value.asArray).getD []).filterMap Value.asStr
  reportedConfig gatewayId runtimeProviderKey (providerType.getD "vifu-runtime") (sortedCapabilities capabilities)
    (settings.getD (.object [])) (resources.getD [])

/-- `serde_json::from_value::<Vec<String>>`. -/
def readTexts (value : Value) : Option (List String) := value.asArray.bind fun items => items.mapM Value.asStr

def discoveredProviderConfig (codec : ManifestCodec) (agent : AgentDescriptor)
    (gatewayId runtimeProviderKey providerType : String) : Value :=
  let runtimeProviderType := (((agent.metadata.get? "localProviderType").bind Value.asStr).filter isIdentifier).getD providerType
  let settings := ((agent.metadata.get? "providerSettings").filter fun value => (value matches .object _)).getD (.object [])
  let resources := ((agent.metadata.get? "providerResources").bind readResources).getD []
  let reported := (((agent.metadata.get? "providerCapabilities").or (agent.metadata.get? "capabilities")).bind readTexts).getD []
  let sorted := sortedCapabilities reported
  let capabilities := if sorted = [] then ["chat"] else sorted
  let requirement : ProviderRequirement := ⟨runtimeProviderKey, runtimeProviderType, capabilities, settings, resources⟩
  match { RuntimeManifest.new "provider-discovery" with providers := [requirement] }.validate codec with
  | .ok _ => reportedConfig gatewayId runtimeProviderKey runtimeProviderType capabilities settings resources
  | .error _ => reportedConfig gatewayId runtimeProviderKey runtimeProviderType capabilities (.object []) []

def isProviderName (name : String) : Bool := !name.isEmpty && name.length ≤ 128 && !name.toList.any isControl

/-- One round of `reconcile_project_declared_providers`, for a project of the gateway. -/
def declareProvider (sha256 : Sha256) (gatewayId : String) (provider : Value) (project : ProjectConfiguration) :
    ProjectConfiguration :=
  match ((firstText ["id", "key", "providerKey"] provider).map trim).filter isIdentifier with
  | none => project
  | some runtimeProviderKey =>
    if (firstText ["type", "providerType"] provider).getD "vifu-runtime" ≠ "vifu-runtime" then project
    else
      let name := (((provider.get? "name").bind Value.asStr).map trim).filter isProviderName
      project.upsertConnection (scopedProviderKey sha256 gatewayId runtimeProviderKey)
        { sourceKind := .custom
          sourceKey := runtimeProviderKey
          name := name.getD runtimeProviderKey
          providerType := "vifu-runtime"
          config := declaredProviderConfig provider gatewayId runtimeProviderKey
          status := "online" }

/-- The connection that `archive_legacy_discovered_provider` deletes, if no live profile uses it. -/
def isLegacyConnection (runtimeProviderKey : String) (connection : StoredConnection) : Bool :=
  connection.sourceKind == .custom && connection.sourceKey == runtimeProviderKey &&
    (connection.config.get? "source").bind Value.asStr == some "agent-gateway"

def clearLegacy (runtimeProviderKey : String) (unused : Bool) (project : ProjectConfiguration) : ProjectConfiguration :=
  if unused && (project.connections.lookup runtimeProviderKey).any (isLegacyConnection runtimeProviderKey) then
    { project with connections := project.connections.erase runtimeProviderKey }
  else project

/-- One round of `reconcile_project_agents` over an agent and a project, as far as it writes connections.  `unused` says
whether a legacy profile was archived and no other one uses the provider. -/
def discoverProvider (codec : ManifestCodec) (sha256 : Sha256) (gatewayId : String) (unused : Bool)
    (agent : AgentDescriptor) (project : ProjectConfiguration) : ProjectConfiguration :=
  match ((agent.metadata.get? "providerKey").bind Value.asStr).filter isIdentifier with
  | none => project
  | some runtimeProviderKey =>
    let reportedType := ((agent.metadata.get? "providerType").bind Value.asStr).getD "openclaw"
    let providerType := if isIdentifier reportedType then reportedType else "gateway"
    let name := ((agent.metadata.get? "providerName").bind Value.asStr).filter fun name => !(trim name).isEmpty
    (clearLegacy runtimeProviderKey unused project).upsertConnection (scopedProviderKey sha256 gatewayId runtimeProviderKey)
      { sourceKind := .custom
        sourceKey := runtimeProviderKey
        name := name.getD agent.name
        providerType
        config := discoveredProviderConfig codec agent gatewayId runtimeProviderKey providerType
        status := "online" }

end Vifu.Server
