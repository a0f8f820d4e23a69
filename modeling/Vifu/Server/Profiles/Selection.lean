import Vifu.Server.Api.Errors
import Vifu.Server.Profiles.Rollouts
import Vifu.Server.Profiles.Routes
import Vifu.Server.Traces.Ingestion

/-!
# The route of a request

The name in a request selects a profile, the rollout of it and the key of the user select a version, and the version
has the capability that is asked for.  The list of models asks the same functions for a user without a key.
-/

namespace Vifu.Server

open Foundation
open Vifu.Gateway
open Vifu.Runtime (Value trim)

/-- `Uuid::as_bytes`. -/
def uuidBytes (id : Uuid) : List UInt8 :=
  let digits := id.text.toList.filter fun character => character != '-'
  (List.range 16).map fun index =>
    .ofNat (hexValue (digits.getD (2 * index) '0') * 16 + hexValue (digits.getD (2 * index + 1) '0'))

def rolloutBucket (sha256 : Sha256) (profileId : Uuid) (selectionKey : Option String) : ℤ :=
  let digest := sha256 (uuidBytes profileId ++ textBytes (selectionKey.getD "anonymous"))
  (((digest.getD 0 0).toNat * 256 + (digest.getD 1 0).toNat) % 10000 : ℕ)

/-- The allocation that a bucket falls into, after the weights that have been passed. -/
def pickAllocation (bucket cursor : ℤ) : List AgentProfileRollout → Option Uuid
  | [] => none
  | allocation :: allocations =>
    if bucket < cursor + allocation.weightBps then some allocation.profileVersionId
    else pickAllocation bucket (cursor + allocation.weightBps) allocations

/-- `ORDER BY weight_bps DESC, created_at ASC`. -/
def AgentProfileRollout.Precedes (first second : AgentProfileRollout) : Prop :=
  second.weightBps < first.weightBps ∨ first.weightBps = second.weightBps ∧ first.createdAt ≤ second.createdAt

instance : DecidableRel AgentProfileRollout.Precedes := fun _ _ => inferInstanceAs (Decidable (_ ∨ _))

structure PublicAgent where
  id : Uuid
  slug : String
  name : String
  description : Option String
  version : ℕ
  capabilities : List String
  presentation : Value
  deriving DecidableEq

def AgentProfile.isLiveIn (profile : AgentProfile) (projectId : Uuid) : Bool :=
  profile.projectId == some projectId && profile.archivedAt.isNone

/-- `profile_gateway_id`.  An id in the configuration hides the one in the source, whatever its type. -/
def ProfileRoute.gatewayId (route : ProfileRoute) : Option String :=
  ((((route.capabilityConfig.get? "gatewayId").or (route.source.get? "gatewayId")).bind Value.asStr).map trim).filter
    fun text => !text.isEmpty

namespace ProfileTables

variable (tables : ProfileTables)

def getProfile (id : Uuid) : Except ApiError AgentProfile :=
  okOr .notFound (tables.agentProfiles.find? fun row => row.id == id)

def getProfileVersion (profileId versionId : Uuid) : Except ApiError AgentProfileVersion :=
  okOr .notFound (tables.agentProfileVersions.find? fun row => row.id == versionId && row.profileId == profileId)

def listProjectProfiles (projectId : Uuid) : List AgentProfile :=
  tables.agentProfiles.filter fun row => row.isLiveIn projectId

def listProfileCapabilities (versionId : Uuid) : List AgentProfileCapability :=
  (tables.agentProfileCapabilities.filter fun row => row.profileVersionId == versionId).insertionSort
    fun first second => first.createdAt ≤ second.createdAt

def listProfileRollout (profileId : Uuid) : List AgentProfileRollout :=
  (tables.rolloutOf profileId).insertionSort AgentProfileRollout.Precedes

def selectProfileVersion (sha256 : Sha256) (profileId : Uuid) (selectionKey : Option String) : Except ApiError Uuid :=
  let rollout := tables.listProfileRollout profileId
  if rollout = [] then do
    let profile ← tables.getProfile profileId
    okOr .notFound profile.activeVersionId
  else
    okOr .notFound ((pickAllocation (rolloutBucket sha256 profileId selectionKey) 0 rollout).or
      (rollout.getLast?.map AgentProfileRollout.profileVersionId))

/-- The profile that a name stands for: a name that reads as an id is one. -/
def namedProfile (uuids : UuidParser) (projectId : Uuid) (model : String) : Option AgentProfile :=
  match uuids.parse model with
  | some profileId => tables.agentProfiles.find? fun row => row.id == profileId && row.isLiveIn projectId
  | none => tables.agentProfiles.find? fun row => row.slug == model && row.isLiveIn projectId

def chosenVersion (sha256 : Sha256) (profileId : Uuid) (selectionKey : Option String) :
    Option Uuid → Except ApiError Uuid
  | some versionId => do
    let _ ← tables.getProfileVersion profileId versionId
    return versionId
  | none => tables.selectProfileVersion sha256 profileId selectionKey

def liveVersion (profileId versionId : Uuid) : Option AgentProfileVersion :=
  tables.agentProfileVersions.find? fun row =>
    row.id == versionId && row.profileId == profileId && row.archivedAt.isNone

def capabilityOf (versionId : Uuid) (kind : String) : Option AgentProfileCapability :=
  (tables.listProfileCapabilities versionId).find? fun row => row.kind == kind

end ProfileTables

def profileRoute (profile : AgentProfile) (version : AgentProfileVersion) (capability : AgentProfileCapability) :
    ProfileRoute where
  profileId := profile.id
  profileSlug := profile.slug
  profileName := profile.name
  profileVersionId := version.id
  versionNumber := version.versionNumber
  capabilityId := capability.id
  capabilityKind := capability.kind
  providerType := capability.providerType
  providerKey := capability.providerKey
  resourceId := capability.resourceId
  capabilityConfig := capability.config
  persona := version.persona
  runtime := version.runtime
  presentation := version.presentation
  source := version.source

namespace ProfileTables

variable (tables : ProfileTables)

def resolveProfileRoute (sha256 : Sha256) (uuids : UuidParser) (projectId : Uuid) (model capabilityKind : String)
    (selectionKey : Option String) (versionId : Option Uuid) : Except ApiError ProfileRoute := do
  let profile ← okOr .notFound (tables.namedProfile uuids projectId model)
  let chosen ← tables.chosenVersion sha256 profile.id selectionKey versionId
  let version ← okOr .notFound (tables.liveVersion profile.id chosen)
  let capability ← okOr .notFound (tables.capabilityOf version.id capabilityKind)
  return profileRoute profile version capability

def agentOf (profile : AgentProfile) (version : AgentProfileVersion) : PublicAgent where
  id := profile.id
  slug := profile.slug
  name := profile.name
  description := profile.description
  version := version.versionNumber
  capabilities := ((tables.listProfileCapabilities version.id).map AgentProfileCapability.kind).dedup
  presentation := version.presentation

def publicAgent (profile : AgentProfile) : Except ApiError (Option PublicAgent) :=
  match profile.activeVersionId with
  | none => .ok none
  | some versionId => do
    let version ← tables.getProfileVersion profile.id versionId
    return some (tables.agentOf profile version)

def listPublicAgents (projectId : Uuid) (allowedProfileIds : Option (List Uuid)) : Except ApiError (List PublicAgent) := do
  let profiles := (tables.listProjectProfiles projectId).filter fun profile =>
    !allowedProfileIds.any fun ids => !ids.contains profile.id
  let agents ← profiles.mapM tables.publicAgent
  return (agents.filterMap id).insertionSort fun first second => first.slug ≤ second.slug

end ProfileTables

/-! ## Requests to the agents of a project -/

/-- The tables that a request reads.  Each active version is one of its profile, as the schema demands. -/
structure ProjectTables extends ProfileTables where
  runtimeDeploymentGateways : Rows RuntimeDeploymentGateway
  activeKnown : ∀ profile ∈ agentProfiles, ∀ versionId ∈ profile.activeVersionId,
    toProfileTables.hasVersion profile.id versionId = true

/-- `resolve_runtime_provider` with what it is configured with: the provider of a project under a key. -/
structure ResolvedRuntimeProvider where
  providerType : String
  baseUrl : String
  token : Option String
  config : Value

inductive ApiKeyAgentScope where
  | all
  | selected (profileIds : List Uuid)

def ApiKeyAgentScope.allows (profileId : Uuid) : ApiKeyAgentScope → Bool
  | .all => true
  | .selected profileIds => profileIds.contains profileId

structure ApiKey where
  projectId : Uuid
  chatCompletions : Bool
  agentScope : ApiKeyAgentScope

inductive ApiRequestAuthority where
  | admin
  | key (key : ApiKey)

namespace ApiRequestAuthority

/-- What a key has to be for both the list of models and a chat completion. -/
def check (projectId : Uuid) : ApiRequestAuthority → Except RequestError Unit
  | .admin => .ok ()
  | .key apiKey => do
    ensure (apiKey.projectId = projectId) .agentAccessDenied
    ensure (apiKey.chatCompletions = true) .endpointAccessDenied

def allowedProfileIds : ApiRequestAuthority → Option (List Uuid)
  | .admin => none
  | .key apiKey => match apiKey.agentScope with
    | .all => none
    | .selected profileIds => some profileIds

/-- A key does not learn of agents that do not exist. -/
def hide : ApiRequestAuthority → ApiError → RequestError
  | .key _, .notFound => .agentAccessDenied
  | _, error => .api error

def allows (profileId : Uuid) : ApiRequestAuthority → Bool
  | .admin => true
  | .key apiKey => apiKey.agentScope.allows profileId

end ApiRequestAuthority

inductive ChatTarget where
  | gateway (gatewayId agentId : String) (bindingConfig : Value)
  | http (provider : ResolvedRuntimeProvider) (model : String)

def gatewayBindingConfig (capabilityConfig : Value) (providerKey capability : String) (persona : Value)
    (profileName profileSlug : String) : Except ApiError Value :=
  match capabilityConfig with
  | .object fields =>
    let runtimeProviderKey := ((capabilityConfig.get? "runtimeProviderKey").bind Value.asStr).getD providerKey
    let bound := [("providerKey", .string runtimeProviderKey), ("capability", .string capability), ("persona", persona),
      ("profileName", .string profileName), ("profileSlug", .string profileSlug)]
    .ok (.object (bound.foldl (fun fields field => Vifu.Runtime.insertField field.1 field.2 fields) fields))
  | _ => .error (.invalid "Gateway capability config must be an object")

def missingGatewayId : ApiError := .invalid "Gateway capability is missing gatewayId"
def missingResourceId : ApiError := .invalid "Gateway capability is missing resourceId"
def missingProviderModel : ApiError := .invalid "chat capability is missing a provider model"

namespace ProjectTables

variable (tables : ProjectTables)

def runtimeDeploymentAllowsRemoteInvocation (projectId : Uuid) (gatewayId : String) : Bool :=
  tables.runtimeDeployments.any fun deployment =>
    deployment.projectId == projectId && deployment.remoteInvocationEnabled &&
      tables.runtimeDeploymentGateways.any fun assignment =>
        assignment.deploymentId == deployment.id && assignment.gatewayId == gatewayId

/-- Whether a listed agent whose route is found is shown.  Only gateways of the runtime are asked for. -/
def isInvocable (projectId : Uuid) (route : ProfileRoute) : Bool :=
  if route.providerType = "vifu-runtime" then
    route.gatewayId.any fun gatewayId => tables.runtimeDeploymentAllowsRemoteInvocation projectId gatewayId
  else true

/-- An agent whose route is not found is left out, any other error ends the list. -/
def invocableAgent (sha256 : Sha256) (uuids : UuidParser) (projectId : Uuid) (agent : PublicAgent) :
    Except ApiError (Option PublicAgent) :=
  if agent.capabilities.contains "chat" then
    match tables.resolveProfileRoute sha256 uuids projectId agent.slug "chat" none none with
    | .ok route => .ok (if tables.isInvocable projectId route then some agent else none)
    | .error .notFound => .ok none
    | .error error => .error error
  else .ok none

def listInvocablePublicChatAgents (sha256 : Sha256) (uuids : UuidParser) (projectId : Uuid)
    (allowedProfileIds : Option (List Uuid)) : Except ApiError (List PublicAgent) := do
  let agents ← tables.listPublicAgents projectId allowedProfileIds
  let invocable ← agents.mapM (tables.invocableAgent sha256 uuids projectId)
  return invocable.filterMap id

def selectionKey (request : Value) : Option String :=
  (((request.get? "user").bind Value.asStr).map trim).filter fun text => !text.isEmpty

/-- `create_profile_chat_completion` until it has its route. -/
def chatRoute (sha256 : Sha256) (uuids : UuidParser) (authority : ApiRequestAuthority) (projectId : Uuid)
    (request : Value) (model : Option String) : Except RequestError ProfileRoute := do
  let model ← okOr .modelRequired model
  authority.check projectId
  let route ← (tables.resolveProfileRoute sha256 uuids projectId model "chat" (selectionKey request) none).mapError
    authority.hide
  ensure (authority.allows route.profileId = true) .agentAccessDenied
  return route

def gatewayTarget (projectId : Uuid) (route : ProfileRoute) : Except RequestError ChatTarget := do
  let gatewayId ← okOr (.api missingGatewayId) route.gatewayId
  ensure (route.providerType = "vifu-runtime" → tables.runtimeDeploymentAllowsRemoteInvocation projectId gatewayId = true)
    .agentDeploymentUnavailable
  let agentId ← okOr (.api missingResourceId) route.resourceId
  let bindingConfig ← (gatewayBindingConfig route.capabilityConfig route.providerKey "chat" route.persona route.profileName
    route.profileSlug).mapError .api
  return .gateway gatewayId agentId bindingConfig

def httpTarget (provider : ResolvedRuntimeProvider) (route : ProfileRoute) : Except RequestError ChatTarget := do
  ensure (provider.providerType = "openai-compatible")
    (.api (.invalid "profile capability does not match its configured provider"))
  let model ← okOr (.api missingProviderModel) route.resourceId
  return .http provider model

/-- `invoke_profile_chat` until it has its provider. -/
def chatTarget (resolveRuntimeProvider : String → Except RequestError ResolvedRuntimeProvider) (projectId : Uuid)
    (route : ProfileRoute) : Except RequestError ChatTarget :=
  if route.providerType = "openclaw" ∨ route.providerType = "vifu-runtime" then tables.gatewayTarget projectId route
  else if route.providerType = "openai-compatible" then do
    let provider ← resolveRuntimeProvider route.providerKey
    httpTarget provider route
  else .error (.api (.invalid ("provider type " ++ route.providerType ++ " does not support chat")))

def createProfileChatCompletion (sha256 : Sha256) (uuids : UuidParser)
    (resolveRuntimeProvider : String → Except RequestError ResolvedRuntimeProvider) (authority : ApiRequestAuthority)
    (projectId : Uuid) (request : Value) (model : Option String) : Except RequestError ChatTarget := do
  let route ← tables.chatRoute sha256 uuids authority projectId request model
  tables.chatTarget resolveRuntimeProvider projectId route

end ProjectTables

end Vifu.Server
