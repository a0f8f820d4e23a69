import Vifu.Server.Endpoints.Routes

/-!
# Edits of endpoints and profiles

The functions of the database layer that edit endpoints, archive and restore profiles, and refresh the binding of a
discovered agent.  Three functions archive a profile: one disables its endpoints, and one takes it out of its project.
-/

namespace Vifu.Server

open Foundation
open Vifu.Gateway
open Vifu.Runtime (Value FloatText insertField trim)

structure NewEndpoint where
  id : Uuid
  slug : String
  name : String
  profileId : Uuid
  bindingId : Uuid
  enabled : Bool
  requestTimeoutMs : ℤ

structure EndpointPatch where
  slug : Option String
  name : Option String
  profileId : Option Uuid
  bindingId : Option Uuid
  enabled : Option Bool
  requestTimeoutMs : Option ℤ

def EndpointPatch.apply (patch : EndpointPatch) (row : AgentEndpoint) : AgentEndpoint :=
  { row with
    slug := patch.slug.getD row.slug
    name := patch.name.getD row.name
    profileId := patch.profileId.getD row.profileId
    bindingId := patch.bindingId.getD row.bindingId
    enabled := patch.enabled.getD row.enabled
    requestTimeoutMs := patch.requestTimeoutMs.getD row.requestTimeoutMs }

/-- `CHECK (request_timeout_ms BETWEEN 500 AND 120000)`. -/
def AgentEndpoint.inTime (endpoint : AgentEndpoint) : Prop :=
  500 ≤ endpoint.requestTimeoutMs ∧ endpoint.requestTimeoutMs ≤ 120000

instance (endpoint : AgentEndpoint) : Decidable endpoint.inTime := inferInstanceAs (Decidable (_ ∧ _))

namespace AgentTables

variable (tables : AgentTables)

def getEndpoint (id : Uuid) : Except ApiError AgentEndpoint :=
  okOr .notFound (tables.agentEndpoints.find? fun row => row.id == id)

def ensureBindingProfile (profileId bindingId : Uuid) : Except ApiError Unit :=
  ensure (tables.agentBindings.any (fun row => row.id == bindingId && row.profileId == profileId) = true)
    (.invalid "binding must belong to the endpoint profile")

def createEndpoint (now : ℕ) (input : NewEndpoint) : Except ApiError AgentTables := do
  tables.ensureBindingProfile input.profileId input.bindingId
  let created : AgentEndpoint :=
    ⟨input.id, input.slug, input.name, input.profileId, input.bindingId, input.enabled, input.requestTimeoutMs, now⟩
  let rows ← okOr alreadyExists (tables.agentEndpoints.insert? created)
  ensure created.inTime .database
  ensure (tables.agentProfiles.any (fun row => row.id == input.profileId) = true) missingReference
  return { tables with agentEndpoints := rows }

def updateEndpoint (id : Uuid) (patch : EndpointPatch) : Except ApiError AgentTables := do
  let current ← tables.getEndpoint id
  let profileId := patch.profileId.getD current.profileId
  tables.ensureBindingProfile profileId (patch.bindingId.getD current.bindingId)
  let rows ← okOr alreadyExists (tables.agentEndpoints.update? (fun row => row.id == id) patch.apply)
  ensure (patch.apply current).inTime .database
  ensure (tables.agentProfiles.any (fun row => row.id == profileId) = true) missingReference
  return { tables with agentEndpoints := rows }

/-! ## Archiving -/

/-- `SET archived_at = COALESCE(archived_at, now)`. -/
def archive (now : ℕ) (named : AgentProfile → Bool) : Rows AgentProfile :=
  tables.agentProfiles.update named (fun row => { row with archivedAt := row.archivedAt <|> some now }) fun _ => rfl

def deleteProfile (now : ℕ) (id : Uuid) : Except ApiError AgentTables := do
  ensure (tables.agentProfiles.any (fun row => row.id == id) = true) .notFound
  return { tables with agentProfiles := tables.archive now fun row => row.id == id }

def bindingOf (profileId bindingId : Uuid) : Bool :=
  tables.agentBindings.any fun row => row.id == bindingId && row.profileId == profileId

def archiveProjectProfile (now : ℕ) (projectId profileId : Uuid) : Except ApiError AgentTables := do
  let isProfile := fun row : AgentProfile => row.id == profileId && row.projectId == some projectId
  ensure (tables.agentProfiles.any isProfile = true) .notFound
  return { tables with
    agentProfiles := tables.archive now isProfile
    agentEndpoints := tables.agentEndpoints.update (fun row => row.profileId == profileId)
      (fun row => { row with enabled := false }) fun _ => rfl
    projectBindings := tables.projectBindings.delete fun row =>
      row.projectId == projectId && tables.bindingOf profileId row.bindingId }

def isDiscoveredBy (floats : FloatText) (providerKey : String) (profile : AgentProfile) : Bool :=
  (tables.agentBindings.any fun binding => binding.profileId == profile.id && binding.hasProviderKey floats providerKey &&
    (cellAt floats "source" binding.config).isDiscovery) &&
  tables.agentProfileVersions.any fun version => profile.activeVersionId == some version.id && isOneAt "managed" version.source

def isLegacyBinding (floats : FloatText) (projectId : Uuid) (providerKey : String) (bindingId : Uuid) : Bool :=
  tables.agentBindings.any fun binding => binding.id == bindingId && binding.hasProviderKey floats providerKey &&
    (cellAt floats "source" binding.config).isDiscovery &&
    tables.agentProfiles.any fun profile => profile.id == binding.profileId && profile.projectId == some projectId &&
      profile.archivedAt.isSome && tables.agentProfileVersions.any fun version =>
        profile.activeVersionId == some version.id && isOneAt "managed" version.source

def usesProvider (floats : FloatText) (projectId : Uuid) (providerKey : String) : Bool :=
  tables.agentProfiles.any fun profile => profile.projectId == some projectId && profile.archivedAt.isNone &&
    tables.agentProfileVersions.any fun version => profile.activeVersionId == some version.id &&
      (cellAt floats "providerKey" version.source == .text providerKey ||
        tables.agentProfileCapabilities.any fun capability =>
          capability.profileVersionId == version.id && capability.providerKey == providerKey)

/-- A profile that `archive_legacy_discovered_provider` archives. -/
def isLegacy (floats : FloatText) (projectId : Uuid) (providerKey : String) (profile : AgentProfile) : Bool :=
  profile.isLiveIn projectId && tables.isDiscoveredBy floats providerKey profile

def archiveLegacyDiscoveredProvider (floats : FloatText) (now : ℕ) (projectId : Uuid) (providerKey : String) :
    AgentTables :=
  if tables.agentProfiles.any (tables.isLegacy floats projectId providerKey) then
    let archived := { tables with agentProfiles := tables.archive now (tables.isLegacy floats projectId providerKey) }
    { archived with
      projectBindings := archived.projectBindings.delete fun row =>
        row.projectId == projectId && archived.isLegacyBinding floats projectId providerKey row.bindingId
      providerConnections := archived.providerConnections.delete fun row =>
        row.projectId == projectId && row.providerKey == providerKey && row.sourceKind == .custom &&
          row.sourceKey == providerKey && cellAt floats "source" row.config == .text "agent-gateway" &&
          !archived.usesProvider floats projectId providerKey }
  else tables

/-- `INSERT INTO project_bindings SELECT … FROM agent_bindings … ON CONFLICT DO NOTHING`. -/
def bindAll (projectId profileId : Uuid) : Rows ProjectBinding :=
  (tables.agentBindings.filter fun row => row.profileId == profileId).foldl
    (fun rows binding => rows.insertNew ⟨projectId, binding.id⟩) tables.projectBindings

def restoreProjectProfile (projectId profileId : Uuid) : Except ApiError AgentTables := do
  let isArchived := fun row : AgentProfile =>
    row.id == profileId && row.projectId == some projectId && row.archivedAt.isSome
  ensure (tables.agentProfiles.any isArchived = true) .notFound
  return { tables with
    agentProfiles := tables.agentProfiles.update isArchived (fun row => { row with archivedAt := none }) fun _ => rfl
    projectBindings := tables.bindAll projectId profileId }

def assignProjectBinding (projectId bindingId : Uuid) : Except ApiError AgentTables := do
  ensure (tables.projects.any (fun row => row.id == projectId) = true ∧
    tables.agentBindings.any (fun row => row.id == bindingId) = true) .database
  return { tables with projectBindings := tables.projectBindings.insertNew ⟨projectId, bindingId⟩ }

/-! ## The refresh of a discovered binding -/

/-- `json_set(config, '$.agentName', name)`, which changes objects only. -/
def setAgentName (name : String) : Value → Value
  | .object fields => .object (insertField "agentName" (.string name) fields)
  | config => config

def refreshDiscoveredBindingRecord (bindingId : Uuid) (gatewayId agentName : String) : Except ApiError AgentTables := do
  let rows ← okOr .database (tables.agentBindings.update? (fun row => row.id == bindingId)
    fun row => { row with gatewayId, config := setAgentName agentName row.config })
  return { tables with agentBindings := rows }

end AgentTables

def promptOf (persona : Value) : Option String :=
  (((persona.get? "systemPrompt").bind Value.asStr).map trim).filter fun prompt => !prompt.isEmpty

def setGateway (gatewayId : String) (value : Value) : Except ApiError Value :=
  if (value.get? "gatewayId").bind Value.asStr = some gatewayId then .ok value
  else match value with
    | .object fields => .ok (.object (insertField "gatewayId" (.string gatewayId) fields))
    | _ => .error .database

def takeDiscovered (discovered : List (String × Value)) (active : List (String × Value)) (key : String) :
    List (String × Value) :=
  match Runtime.getField key discovered with
  | some value => if Runtime.getField key active = some value then active else insertField key value active
  | none => active.filter fun field => field.1 != key

def mergedRuntime (discovered : Option Value) (active : Value) : Value :=
  match active, discovered with
  | .object fields, some (.object found) =>
    .object (["implementation", "providerBindings"].foldl (takeDiscovered found) fields)
  | _, _ => active

def mergedPersona (discovered : Option Value) (active : Value) : Value :=
  match discovered with
  | some found => if promptOf active = none ∧ promptOf found ≠ none then found else active
  | none => active

structure DiscoveredAgent where
  bindingId : Uuid
  gatewayId : String
  agentName : String
  persona : Option Value
  runtime : Option Value

structure RefreshDraws where
  versionId : Uuid
  capabilityIds : ℕ → Uuid

namespace AgentTables

variable (tables : AgentTables)

def getBinding (id : Uuid) : Except ApiError ProfileBinding :=
  okOr .notFound (tables.agentBindings.find? fun row => row.id == id)

/-- Whether the version is managed for the resource that the binding names. -/
def managedSourceMatches (binding : ProfileBinding) (providerKey : String) (version : AgentProfileVersion) : Prop :=
  ((version.source.get? "managed").bind Value.asBool).getD false = true ∧
    (version.source.get? "providerKey").bind Value.asStr = some providerKey ∧
    (version.source.get? "resourceId").bind Value.asStr = some binding.agentId

instance (binding : ProfileBinding) (providerKey : String) (version : AgentProfileVersion) :
    Decidable (managedSourceMatches binding providerKey version) := inferInstanceAs (Decidable (_ ∧ _))

def refreshedCapability (binding : ProfileBinding) (providerKey gatewayId : String) (capability : AgentProfileCapability) :
    Except ApiError ProfileCapabilityDraft := do
  let config ← if capability.providerKey = providerKey ∧ capability.resourceId = some binding.agentId then
      setGateway gatewayId capability.config
    else .ok capability.config
  return ⟨capability.kind, capability.providerType, capability.providerKey, capability.resourceId, config,
    capability.inputSchema, capability.outputSchema⟩

def storedCapability (capability : AgentProfileCapability) : ProfileCapabilityDraft :=
  ⟨capability.kind, capability.providerType, capability.providerKey, capability.resourceId, capability.config,
    capability.inputSchema, capability.outputSchema⟩

/-- The profile and the version that a refresh publishes, if it changes anything. -/
def refreshedVersion (agent : DiscoveredAgent) : Except ApiError (Option (Uuid × NewProfileVersion)) := do
  let binding ← tables.getBinding agent.bindingId
  let isDiscovery := (((binding.config.get? "source").bind Value.asStr).map
    fun source => decide ("-discovery".toList <:+ source.toList)).getD false
  if isDiscovery = false then return none
  let profile ← tables.getProfile binding.profileId
  match profile.activeVersionId with
  | none => return none
  | some versionId => do
    let version ← tables.getProfileVersion profile.id versionId
    let providerKey := ((binding.config.get? "providerKey").bind Value.asStr).getD binding.provider
    if ¬managedSourceMatches binding providerKey version then return none
    let source ← setGateway agent.gatewayId version.source
    let persona := mergedPersona agent.persona version.persona
    let runtime := mergedRuntime agent.runtime version.runtime
    let stored := tables.listProfileCapabilities versionId
    let capabilities ← stored.mapM (refreshedCapability binding providerKey agent.gatewayId)
    if source = version.source ∧ persona = version.persona ∧ runtime = version.runtime ∧
        capabilities = stored.map storedCapability then
      return none
    return some (profile.id, ⟨persona, runtime, version.presentation, source, capabilities⟩)

/-- A new version of a profile, and then its rollout: each commits on its own. -/
def publish (now : ℕ) (draws : RefreshDraws) (profileId : Uuid) (version : NewProfileVersion) : AgentTables :=
  match tables.createProfileVersion now profileId draws.versionId draws.capabilityIds version with
  | .error _ => tables
  | .ok (created, next) =>
    let allocations := [(created.id, 10000)]
    match next.checkProfileRollout profileId allocations >>= next.writeProfileRollout now profileId allocations with
    | .error _ => { tables with toProfileTables := next }
    | .ok written => { tables with toProfileTables := written }

def refreshDiscoveredBinding (now : ℕ) (draws : RefreshDraws) (agent : DiscoveredAgent) : AgentTables :=
  match tables.refreshDiscoveredBindingRecord agent.bindingId agent.gatewayId agent.agentName with
  | .error _ => tables
  | .ok renamed =>
    match renamed.refreshedVersion agent with
    | .ok (some (profileId, version)) => renamed.publish now draws profileId version
    | _ => renamed

end AgentTables

namespace AgentTables

variable (tables : AgentTables)

inductive Action where
  | createEndpoint (now : ℕ) (input : NewEndpoint)
  | updateEndpoint (id : Uuid) (patch : EndpointPatch)
  | archiveProjectProfile (now : ℕ) (projectId profileId : Uuid)
  | deleteProfile (now : ℕ) (id : Uuid)
  | archiveLegacyDiscoveredProvider (now : ℕ) (projectId : Uuid) (providerKey : String)
  | restoreProjectProfile (projectId profileId : Uuid)
  | assignProjectBinding (projectId bindingId : Uuid)
  | refreshDiscoveredBinding (now : ℕ) (draws : RefreshDraws) (agent : DiscoveredAgent)

/-- A call that fails leaves the tables as they are. -/
def orSame (result : Except ApiError AgentTables) : AgentTables := result.toOption.getD tables

def step (floats : FloatText) : Action → Option AgentTables
  | .createEndpoint now input => some (tables.orSame (tables.createEndpoint now input))
  | .updateEndpoint id patch => some (tables.orSame (tables.updateEndpoint id patch))
  | .archiveProjectProfile now projectId profileId =>
    some (tables.orSame (tables.archiveProjectProfile now projectId profileId))
  | .deleteProfile now id => some (tables.orSame (tables.deleteProfile now id))
  | .archiveLegacyDiscoveredProvider now projectId providerKey =>
    some (tables.archiveLegacyDiscoveredProvider floats now projectId providerKey)
  | .restoreProjectProfile projectId profileId => some (tables.orSame (tables.restoreProjectProfile projectId profileId))
  | .assignProjectBinding projectId bindingId => some (tables.orSame (tables.assignProjectBinding projectId bindingId))
  | .refreshDiscoveredBinding now draws agent => some (tables.refreshDiscoveredBinding now draws agent)

end AgentTables

end Vifu.Server
