import Vifu.Runtime.Manifest
import Vifu.Runtime.Records
import Vifu.Server.Traces.Tables

/-!
# Compiling provider settings into a release

A release lists providers and agents.  The configuration of a provider connection goes into the provider that it
names, and the live profiles that chat through the connection are compiled into their agents again.
-/

namespace Vifu.Server

open Foundation
open Vifu.Gateway (Uuid)
open Vifu.Runtime

/-- `iter_mut().find(…)`: puts `changed` in the place of the first element with its key. -/
def replaceFirst {α : Type} (key : α → String) (changed : α) : List α → List α
  | [] => []
  | first :: rest => if key first = key changed then changed :: rest else first :: replaceFirst key changed rest

theorem find?_replaceFirst {α : Type} {key : α → String} {changed found : α} {elements : List α}
    (present : elements.find? (fun element => key element == key changed) = some found) :
    (replaceFirst key changed elements).find? (fun element => key element == key changed) = some changed := by
  induction elements with
  | nil => cases present
  | cons first rest ih =>
    rw [replaceFirst]
    split
    next same => simp
    next differs =>
      rw [List.find?_cons_of_neg (by simpa using differs)] at present ⊢
      exact ih present

/-- `(0.0..=most).contains(&value.as_f64())`, given the largest integer and the bits of the bound.  The bits of
floats that are not negative stand in their order; the one negative float in the range is `-0.0`. -/
def isUpTo (largest : ℕ) (largestBits : UInt64) : Number → Bool
  | .posInt value => value ≤ largest
  | .negInt _ => false
  | .float bits => bits ≤ largestBits || bits == 0x8000000000000000

/-- `value > 0.0`. -/
def isPositive : Number → Bool
  | .posInt value => 0 < value
  | .negInt _ => false
  | .float bits => bits ≠ 0 && bits < 0x8000000000000000

def checkMaxTokens (value : Value) : Except ApiError Unit := do
  let maxTokens ← okOr (.invalid "runtime.generation.maxTokens must be an integer") value.asU64
  ensure (1 ≤ maxTokens ∧ maxTokens ≤ 32768) (.invalid "runtime.generation.maxTokens must be between 1 and 32768")

def checkFraction (key : String) (inRange : Number → Bool) (value : Value) : Except ApiError Unit :=
  match value with
  | .number number => ensure (inRange number = true) (.invalid s!"runtime.generation.{key} is out of range")
  | .null | .bool _ | .string _ | .array _ | .object _ =>
    .error (.invalid s!"runtime.generation.{key} must be a number")

def checkGiven (key : String) (check : Value → Except ApiError Unit) (settings : List (String × Value)) :
    Except ApiError Unit :=
  match getField key settings with
  | none => .ok ()
  | some value => check value

def validateSafeGenerationSettings : Value → Except ApiError Unit
  | .object settings => do
    ensure (settings.all (fun field => ["maxTokens", "temperature", "topP"].contains field.1) = true)
      (.invalid "runtime.generation supports maxTokens, temperature, and topP")
    checkGiven "maxTokens" checkMaxTokens settings
    checkGiven "temperature" (checkFraction "temperature" (isUpTo 2 0x4000000000000000)) settings
    checkGiven "topP" (checkFraction "topP" fun number => isUpTo 1 0x3FF0000000000000 number && isPositive number) settings
  | .null | .bool _ | .number _ | .string _ | .array _ => .error (.invalid "runtime.generation must be an object")

def runtimeProviderGeneration (settings : Value) : Except ApiError (Option Value) :=
  match settings.get? "generation" with
  | none => .ok none
  | some generation => do
    validateSafeGenerationSettings generation
    return some generation

/-! ## Providers -/

/-- `serde_json::from_value::<BTreeMap<String, String>>`. -/
def readResources : Value → Option (List (String × String))
  | .object fields => fields.mapM fun field => field.2.asStr.map fun reference => (field.1, reference)
  | .null | .bool _ | .number _ | .string _ | .array _ => none

/-- `validate` with its error as an API error. -/
def validateSettings (codec : ManifestCodec) (manifest : RuntimeManifest) : Except ApiError Unit :=
  (manifest.validate codec).mapError fun error => .invalid error.display

def takeSettings (config : List (String × Value)) (provider : ProviderRequirement) : Except ApiError ProviderRequirement :=
  match getField "settings" config with
  | none => .ok provider
  | some (.object settings) => .ok { provider with settings := .object settings }
  | some _ => .error (.invalid "runtime provider settings must be an object")

def takeResources (config : List (String × Value)) (provider : ProviderRequirement) : Except ApiError ProviderRequirement :=
  match getField "resources" config with
  | none => .ok provider
  | some resources => do
    let resources ← okOr (.invalid "runtime provider resources must map names to portable references")
      (readResources resources)
    return { provider with resources }

def checkProviderType (config : List (String × Value)) (provider : ProviderRequirement) : Except ApiError Unit :=
  match (getField "runtimeProviderType" config).bind Value.asStr with
  | none => .ok ()
  | some providerType => ensure (providerType = provider.providerType)
      (.conflict s!"provider {provider.id} is installed as {provider.providerType}, not {providerType}")

def applyRuntimeProviderConfiguration (codec : ManifestCodec) (provider : ProviderRequirement) :
    Value → Except ApiError ProviderRequirement
  | .object config => do
    checkProviderType config provider
    let withSettings ← takeSettings config provider
    let changed ← takeResources config withSettings
    validateSettings codec { RuntimeManifest.new "runtime-provider-validation" with providers := [changed] }
    return changed
  | .null | .bool _ | .number _ | .string _ | .array _ => .error (.invalid "runtime provider config must be an object")

/-- What a configuration says of the settings and the resources of a provider. -/
structure Carries (config : Value) (provider : ProviderRequirement) : Prop where
  settings : ∀ settings, config.get? "settings" = some settings → provider.settings = settings
  resources : ∀ resources, config.get? "resources" = some resources → readResources resources = some provider.resources

variable {provider changed : ProviderRequirement} {config : List (String × Value)}

theorem takeSettings_ok (taken : takeSettings config provider = .ok changed) :
    changed.id = provider.id ∧ ∀ settings, getField "settings" config = some settings → changed.settings = settings := by
  unfold takeSettings at taken
  split at taken
  next absent =>
    cases taken
    simp [absent]
  next settings given =>
    cases taken
    simp [given]
  · cases taken

theorem takeResources_ok (taken : takeResources config provider = .ok changed) :
    changed.id = provider.id ∧ changed.settings = provider.settings ∧
      ∀ resources, getField "resources" config = some resources → readResources resources = some changed.resources := by
  unfold takeResources at taken
  split at taken
  next absent =>
    cases taken
    simp [absent]
  next value given =>
    obtain ⟨resources, isRead, same⟩ := bind_ok.mp taken
    rw [pure_ok] at same
    subst same
    rw [okOr_ok] at isRead
    simp [given, isRead]

theorem carries_of_apply {codec : ManifestCodec} {config : Value}
    (applied : applyRuntimeProviderConfiguration codec provider config = .ok changed) :
    changed.id = provider.id ∧ Carries config changed := by
  unfold applyRuntimeProviderConfiguration at applied
  split at applied
  next fields =>
    obtain ⟨-, taken⟩ := check_bind_ok.mp applied
    obtain ⟨withSettings, tookSettings, taken⟩ := bind_ok.mp taken
    obtain ⟨all, tookResources, validated⟩ := bind_ok.mp taken
    obtain ⟨-, same⟩ := check_bind_ok.mp validated
    rw [pure_ok] at same
    subst same
    obtain ⟨idOfSettings, settings⟩ := takeSettings_ok tookSettings
    obtain ⟨idOfResources, keptSettings, resources⟩ := takeResources_ok tookResources
    refine ⟨idOfResources.trans idOfSettings, ?_, resources⟩
    intro value given
    rw [keptSettings]
    exact settings value given
  all_goals cases applied

/-! ## Agents -/

/-- `runtime_agent_metadata`. -/
def agentMetadata (agent : AgentDefinition) : List (String × Value) := fieldsOf agent.metadata

def withGeneration (generation : Option Value) (metadata : List (String × Value)) : List (String × Value) :=
  match generation with
  | some generation => insertField "generation" generation metadata
  | none => metadata.filter fun field => field.1 ≠ "generation"

structure LiveCapability where
  kind : String
  providerKey : String
  deriving DecidableEq

/-- A profile with its active version.  `validate_profile_version_input` refuses a kind that is repeated. -/
structure LiveProfile where
  id : Uuid
  slug : String
  versionId : Uuid
  versionNumber : ℕ
  contentHash : String
  persona : Value
  runtime : Value
  source : Value
  capabilities : List LiveCapability
  distinct : (capabilities.map LiveCapability.kind).Nodup

def LiveProfile.resourceId (profile : LiveProfile) : String :=
  ((((profile.source.get? "resourceId").bind Value.asStr).map trim).filter fun id => !id.isEmpty).getD profile.slug

structure EffectiveConnection where
  providerKey : String
  providerType : String
  config : Value

/-- `runtimeProviderKey`, or the key of the connection. -/
def runtimeProviderKey (config : Value) (providerKey : String) : String :=
  ((config.get? "runtimeProviderKey").bind Value.asStr).getD providerKey

/-- Only connections of the type `vifu-runtime` configure a provider. -/
def applyConnection (codec : ManifestCodec) (provider : ProviderRequirement) (connection : Option EffectiveConnection) :
    Except ApiError ProviderRequirement :=
  match connection.filter fun connection => connection.providerType == "vifu-runtime" with
  | some connection => applyRuntimeProviderConfiguration codec provider connection.config
  | none => .ok provider

/-- What a chat capability makes of the providers: these, the provider of the agent, and its generation settings. -/
def compileChat (codec : ManifestCodec) (providers : List ProviderRequirement) (providerKey : String)
    (connection : Option EffectiveConnection) :
    Except ApiError (List ProviderRequirement × String × Option Value) := do
  let key := (connection.map fun connection => runtimeProviderKey connection.config providerKey).getD providerKey
  let provider ← okOr (.conflict s!"provider {key} is not installed in the active runtime release")
    (providers.find? fun provider => provider.id == key)
  let changed ← applyConnection codec provider connection
  let generation ← runtimeProviderGeneration changed.settings
  return (replaceFirst ProviderRequirement.id changed providers, key, generation)

def compileCapabilities (codec : ManifestCodec) (manifest : RuntimeManifest) (agent : AgentDefinition)
    (profile : LiveProfile) (connections : List EffectiveConnection) :
    Except ApiError (List ProviderRequirement × String × Option Value) :=
  match profile.capabilities.find? fun capability => capability.kind == "chat" with
  | none => .ok (manifest.providers, agent.provider, none)
  | some chat => compileChat codec manifest.providers chat.providerKey
      (connections.find? fun connection => connection.providerKey == chat.providerKey)

/-- The settings of the version come before those of the provider. -/
def compileGeneration (profile : LiveProfile) (ofProvider : Option Value) : Except ApiError (Option Value) :=
  match profile.runtime.get? "generation" with
  | none => .ok ofProvider
  | some generation => do
    validateSafeGenerationSettings generation
    return some generation

def compileProfileRuntimeManifest (codec : ManifestCodec) (manifest : RuntimeManifest) (profile : LiveProfile)
    (connections : List EffectiveConnection) : Except ApiError RuntimeManifest := do
  let agent ← okOr (.conflict s!"profile source agent {profile.resourceId} is not present in the active runtime release")
    (manifest.agents.find? fun agent => agent.id == profile.resourceId)
  let (providers, providerOfAgent, generationOfProvider) ← compileCapabilities codec manifest agent profile connections
  let generation ← compileGeneration profile generationOfProvider
  let metadata := insertField "persona" profile.persona (agentMetadata agent)
  let agentProfile := Value.object [("contentHash", .string profile.contentHash), ("id", .string profile.id.text),
    ("versionId", .string profile.versionId.text), ("versionNumber", u64 profile.versionNumber)]
  let compiled := { agent with
    provider := providerOfAgent
    metadata := .object (insertField "agentProfile" agentProfile (withGeneration generation metadata)) }
  let next := { manifest with providers, agents := replaceFirst AgentDefinition.id compiled manifest.agents }
  validateSettings codec next
  return next

end Vifu.Server
