import Mathlib.Data.List.Destutter
import Mathlib.Data.List.Sort
import Mathlib.Data.String.Basic
import Vifu.Foundation.Table
import Vifu.Runtime.Manifest

/-!
# The registry of definitions

`RuntimeCore` keeps the registered providers, agents and endpoints, and the manifest that was
applied last.  Definitions come in one by one or with a manifest; an invocation resolves its
endpoint to an agent and a provider.
-/

namespace Vifu.Runtime

open Foundation

structure AgentProvider where
  supports : String → Bool

structure RuntimeRegistry where
  providers : HashMap String AgentProvider
  agents : HashMap String AgentDefinition
  endpoints : HashMap String EndpointDefinition

/-- The fields of `RuntimeCore` that hold definitions. -/
structure RuntimeCore where
  projectId : String
  registry : RuntimeRegistry
  manifest : Option RuntimeManifest

/-- `collect` of pairs into a map: a later pair replaces an earlier one with its key. -/
def collect {V : Type} (key : V → String) (values : List V) : HashMap String V :=
  values.foldl (fun table value => table.insert (key value) value) ∅

namespace RuntimeRegistry

/-- `RuntimeRegistry::default()`. -/
def empty : RuntimeRegistry := { providers := ∅, agents := ∅, endpoints := ∅ }

/-- The resolution step of `invoke_provider`. -/
def resolve (registry : RuntimeRegistry) (endpointName : String) :
    Except RuntimeError (EndpointDefinition × AgentDefinition × AgentProvider) :=
  match registry.endpoints.lookup endpointName with
  | none => .error (.endpointNotFound endpointName)
  | some endpoint =>
    match registry.agents.lookup endpoint.agent with
    | none => .error (.agentNotFound endpoint.agent)
    | some agent =>
      match registry.providers.lookup agent.provider with
      | none => .error (.providerNotFound agent.provider)
      | some provider =>
        if endpoint.capability ∉ agent.capabilities ∨ provider.supports endpoint.capability = false then
          .error (.capabilityUnavailable agent.provider endpoint.capability)
        else
          .ok (endpoint, agent, provider)

end RuntimeRegistry

inductive DefinitionOperation where
  | registerProvider (name : String) (provider : AgentProvider)
  | unregisterProvider (name : String)
  | registerAgent (agent : AgentDefinition)
  | unregisterAgent (id : String)
  | registerEndpoint (endpoint : EndpointDefinition)
  | unregisterEndpoint (name : String)
  | applyManifest (manifest : RuntimeManifest)

namespace RuntimeCore

/-- `VifuRuntime::with_store`. -/
def new (projectId : String) : Except RuntimeError RuntimeCore := do
  validateIdentifier "project" projectId
  return { projectId, registry := .empty, manifest := none }

def registerProvider (core : RuntimeCore) (name : String) (provider : AgentProvider) :
    Except RuntimeError RuntimeCore := do
  validateIdentifier "provider" name
  return { core with registry.providers := core.registry.providers.insert name provider }

def unregisterProvider (core : RuntimeCore) (name : String) : Except RuntimeError (Bool × RuntimeCore) := do
  validateIdentifier "provider" name
  return ((core.registry.providers.lookup name).isSome,
    { core with registry.providers := core.registry.providers.erase name })

def unregisterAgent (core : RuntimeCore) (id : String) : Except RuntimeError (Bool × RuntimeCore) := do
  validateIdentifier "agent" id
  return ((core.registry.agents.lookup id).isSome,
    { core with registry.agents := core.registry.agents.erase id })

def unregisterEndpoint (core : RuntimeCore) (name : String) : Except RuntimeError (Bool × RuntimeCore) := do
  validateIdentifier "endpoint" name
  return ((core.registry.endpoints.lookup name).isSome,
    { core with registry.endpoints := core.registry.endpoints.erase name })

def normalizedCapability (capability : String) : String := toAsciiLowercase (trim capability)

def registerAgent (core : RuntimeCore) (agent : AgentDefinition) : Except RuntimeError RuntimeCore := do
  validateIdentifier "agent" agent.id
  validateIdentifier "provider" agent.provider
  ensure (trim agent.name ≠ "" ∧ agent.capabilities ≠ [])
    (.invalidDefinition "agent name and at least one capability are required")
  let capabilities := agent.capabilities.map normalizedCapability
  capabilities.forM (validateIdentifier "capability")
  ensure (agent.provider ∈ core.registry.providers) (.providerNotFound agent.provider)
  let capabilities := (capabilities.insertionSort (· ≤ ·)).destutter (· ≠ ·)
  return { core with
    registry.agents := core.registry.agents.insert agent.id { agent with capabilities } }

def registerEndpoint (core : RuntimeCore) (endpoint : EndpointDefinition) : Except RuntimeError RuntimeCore := do
  validateIdentifier "endpoint" endpoint.name
  validateIdentifier "agent" endpoint.agent
  let capability := normalizedCapability endpoint.capability
  validateIdentifier "capability" capability
  ensure (1 ≤ endpoint.timeoutMs ∧ endpoint.timeoutMs ≤ maxEndpointTimeoutMs)
    (.invalidDefinition ("endpoint timeout must be between 1 and " ++ toString maxEndpointTimeoutMs ++ " ms"))
  match core.registry.agents.lookup endpoint.agent with
  | none => .error (.agentNotFound endpoint.agent)
  | some agent =>
    ensure (capability ∈ agent.capabilities) (.capabilityUnavailable agent.provider capability)
    return { core with
      registry.endpoints := core.registry.endpoints.insert endpoint.name { endpoint with capability } }

def checkRequirement (providers : HashMap String AgentProvider) (requirement : ProviderRequirement) :
    Except RuntimeError Unit :=
  match providers.lookup requirement.id with
  | none => .error (.providerNotFound requirement.id)
  | some provider =>
    requirement.capabilities.forM fun capability =>
      ensure (provider.supports capability = true) (.capabilityUnavailable requirement.id capability)

def applyManifest (codec : ManifestCodec) (core : RuntimeCore) (manifest : RuntimeManifest) :
    Except RuntimeError RuntimeCore := do
  manifest.validate codec
  ensure (manifest.projectId = core.projectId)
    (.invalidDefinition "project settings belong to another project")
  manifest.providers.forM (checkRequirement core.registry.providers)
  return { core with
    registry.agents := collect (·.id) manifest.agents
    registry.endpoints := collect (·.name) manifest.endpoints
    manifest := some manifest }

def define (codec : ManifestCodec) (core : RuntimeCore) :
    DefinitionOperation → Except RuntimeError RuntimeCore
  | .registerProvider name provider => core.registerProvider name provider
  | .unregisterProvider name => (core.unregisterProvider name).map (·.2)
  | .registerAgent agent => core.registerAgent agent
  | .unregisterAgent id => (core.unregisterAgent id).map (·.2)
  | .registerEndpoint endpoint => core.registerEndpoint endpoint
  | .unregisterEndpoint name => (core.unregisterEndpoint name).map (·.2)
  | .applyManifest manifest => core.applyManifest codec manifest

end RuntimeCore

/-! ## What the operations leave -/

variable {key : V → String} {values : List V} {name : String} {value : V} {V : Type}

theorem lookup_collect (distinct : (values.map key).Nodup)
    (mem : value ∈ values) : (collect key values).lookup (key value) = some value := by
  -- what the loop holds after a prefix: the last value under each key
  have fold : ∀ (values : List V) (table : HashMap String V), (values.map key).Nodup → ∀ value,
      value ∈ values ∨ ((∀ other ∈ values, key other ≠ key value) ∧ table.lookup (key value) = some value) →
      (values.foldl (fun table value => table.insert (key value) value) table).lookup (key value) = some value := by
    intro values
    induction values with
    | nil =>
      intro table _ value source
      simpa using source
    | cons head tail ih =>
      intro table distinct value source
      rw [List.map_cons, List.nodup_cons] at distinct
      apply ih (table.insert (key head) head) distinct.2
      rcases source with mem | ⟨absent, stored⟩
      · rcases List.mem_cons.mp mem with rfl | later
        · refine .inr ⟨fun other isOther same => ?_, AList.lookup_insert _⟩
          exact distinct.1 (same ▸ List.mem_map_of_mem isOther)
        · exact .inl later
      · rw [List.forall_mem_cons] at absent
        exact .inr ⟨absent.2, by rwa [AList.lookup_insert_ne (Ne.symm absent.1)]⟩
  exact fold values ∅ distinct value (.inl mem)

theorem mem_of_lookup_collect
    (stored : (collect key values).lookup name = some value) : value ∈ values ∧ key value = name := by
  have fold : ∀ (values : List V) (table : HashMap String V),
      (values.foldl (fun table value => table.insert (key value) value) table).lookup name = some value →
      (value ∈ values ∧ key value = name) ∨ table.lookup name = some value := by
    intro values
    induction values with
    | nil => exact fun table stored => .inr stored
    | cons head tail ih =>
      intro table stored
      rcases ih _ stored with ⟨mem, isKey⟩ | inserted
      · exact .inl ⟨List.mem_cons_of_mem _ mem, isKey⟩
      · by_cases isHead : name = key head
        · subst isHead
          rw [AList.lookup_insert, Option.some.injEq] at inserted
          exact .inl (inserted ▸ ⟨List.mem_cons_self, rfl⟩)
        · rw [AList.lookup_insert_ne isHead] at inserted
          exact .inr inserted
  exact (fold values ∅ stored).resolve_right (by simp)

theorem checkRequirement_ok {providers : HashMap String AgentProvider} {requirement : ProviderRequirement}
    {result : Unit} : RuntimeCore.checkRequirement providers requirement = .ok result ↔
      ∃ provider, providers.lookup requirement.id = some provider ∧
        ∀ capability ∈ requirement.capabilities, provider.supports capability = true := by
  unfold RuntimeCore.checkRequirement
  cases providers.lookup requirement.id with
  | none => simp
  | some provider => simp only [forM_ok, ensure_ok, Option.some.injEq, exists_eq_left']

variable {codec : ManifestCodec} {manifest : RuntimeManifest}

theorem applyManifest_ok {core applied : RuntimeCore} : core.applyManifest codec manifest = .ok applied ↔
      manifest.Valid codec ∧ manifest.projectId = core.projectId ∧
      (∀ requirement ∈ manifest.providers, ∃ provider,
        core.registry.providers.lookup requirement.id = some provider ∧
          ∀ capability ∈ requirement.capabilities, provider.supports capability = true) ∧
      applied = { core with
        registry.agents := collect (·.id) manifest.agents
        registry.endpoints := collect (·.name) manifest.endpoints
        manifest := some manifest } := by
  simp only [RuntimeCore.applyManifest, check_bind_ok, RuntimeManifest.validate_ok, ensure_ok, forM_ok,
    checkRequirement_ok, pure_ok, @eq_comm _ _ applied]

variable {endpoint : EndpointDefinition} {agent : AgentDefinition}

namespace RuntimeCore

variable {core next : RuntimeCore}

theorem new_ok {projectId : String} : RuntimeCore.new projectId = .ok core ↔
      PortableIdentifier projectId ∧ core = { projectId, registry := .empty, manifest := none } := by
  simp only [new, check_bind_ok, validateIdentifier_ok, pure_ok, @eq_comm _ _ core]

theorem registerAgent_ok (succeeds : core.registerAgent agent = .ok next) :
    PortableIdentifier agent.id ∧ PortableIdentifier agent.provider ∧ ∃ capabilities,
      next = { core with registry.agents := core.registry.agents.insert agent.id { agent with capabilities } } := by
  simp only [registerAgent, check_bind_ok, validateIdentifier_ok, pure_ok] at succeeds
  obtain ⟨id, provider, _, _, _, rfl⟩ := succeeds
  exact ⟨id, provider, _, rfl⟩

theorem registerEndpoint_ok (succeeds : core.registerEndpoint endpoint = .ok next) :
    ∃ capability, PortableIdentifier capability ∧ next = { core with
      registry.endpoints := core.registry.endpoints.insert endpoint.name { endpoint with capability } } := by
  simp only [registerEndpoint, check_bind_ok, validateIdentifier_ok] at succeeds
  obtain ⟨_, _, capability, _, rest⟩ := succeeds
  split at rest
  next => cases rest
  next =>
    obtain ⟨_, same⟩ := check_bind_ok.mp rest
    cases same
    exact ⟨_, capability, rfl⟩

structure WellNamed (registry : RuntimeRegistry) : Prop where
  agents : ∀ name agent, registry.agents.lookup name = some agent →
    PortableIdentifier agent.id ∧ PortableIdentifier agent.provider
  endpoints : ∀ name endpoint, registry.endpoints.lookup name = some endpoint →
    PortableIdentifier endpoint.capability

theorem define_ok {operation : DefinitionOperation} (succeeds : core.define codec operation = .ok next) :
    next.projectId = core.projectId ∧ (WellNamed core.registry → WellNamed next.registry) := by
  cases operation with
  | registerProvider name provider =>
    obtain ⟨_, same⟩ := check_bind_ok.mp succeeds
    cases same
    exact ⟨rfl, fun named => ⟨named.agents, named.endpoints⟩⟩
  | unregisterProvider name =>
    obtain ⟨_, removed, rfl⟩ := map_ok.mp succeeds
    obtain ⟨_, same⟩ := check_bind_ok.mp removed
    cases same
    exact ⟨rfl, fun named => ⟨named.agents, named.endpoints⟩⟩
  | unregisterAgent id =>
    obtain ⟨_, removed, rfl⟩ := map_ok.mp succeeds
    obtain ⟨_, same⟩ := check_bind_ok.mp removed
    cases same
    refine ⟨rfl, fun named => ⟨fun name agent stored => ?_, named.endpoints⟩⟩
    rw [lookup_erase] at stored
    split at stored
    · cases stored
    · exact named.agents name agent stored
  | unregisterEndpoint name =>
    obtain ⟨_, removed, rfl⟩ := map_ok.mp succeeds
    obtain ⟨_, same⟩ := check_bind_ok.mp removed
    cases same
    refine ⟨rfl, fun named => ⟨named.agents, fun other endpoint stored => ?_⟩⟩
    rw [lookup_erase] at stored
    split at stored
    · cases stored
    · exact named.endpoints other endpoint stored
  | registerAgent agent =>
    obtain ⟨id, provider, capabilities, rfl⟩ := registerAgent_ok succeeds
    refine ⟨rfl, fun named => ⟨fun name found stored => ?_, named.endpoints⟩⟩
    rw [lookup_insert] at stored
    split at stored
    · cases stored
      exact ⟨id, provider⟩
    · exact named.agents name found stored
  | registerEndpoint endpoint =>
    obtain ⟨capability, portable, rfl⟩ := registerEndpoint_ok succeeds
    refine ⟨rfl, fun named => ⟨named.agents, fun name found stored => ?_⟩⟩
    rw [lookup_insert] at stored
    split at stored
    · cases stored
      exact portable
    · exact named.endpoints name found stored
  | applyManifest manifest =>
    obtain ⟨valid, _, _, rfl⟩ := applyManifest_ok.mp succeeds
    refine ⟨rfl, fun _ => ⟨fun name agent stored => ?_, fun name endpoint stored => ?_⟩⟩
    · have accepted := valid.agents agent (mem_of_lookup_collect stored).1
      exact ⟨accepted.id, accepted.provider⟩
    · exact (valid.endpoints endpoint (mem_of_lookup_collect stored).1).capability

end RuntimeCore

/-! ## An accepted manifest and its routes -/

namespace RuntimeManifest

/-- Every endpoint resolves to itself, an agent and a provider: none of the four errors of the
    resolution step can occur. -/
def Routes (registry : RuntimeRegistry) (manifest : RuntimeManifest) : Prop :=
  ∀ endpoint ∈ manifest.endpoints, ∃ agent provider,
    registry.resolve endpoint.name = .ok (endpoint, agent, provider)

def Supported (providers : HashMap String AgentProvider) (manifest : RuntimeManifest) : Prop :=
  ∀ endpoint ∈ manifest.endpoints, ∀ agent ∈ manifest.agents, agent.id = endpoint.agent →
    ∀ provider, providers.lookup agent.provider = some provider →
      provider.supports endpoint.capability = true

theorem Valid.agent_of_endpoint (valid : manifest.Valid codec) (mem : endpoint ∈ manifest.endpoints) :
    ∃ agent ∈ manifest.agents, agent.id = endpoint.agent ∧ endpoint.capability ∈ agent.capabilities ∧
      agent.provider ∈ manifest.providers.map (·.id) := by
  obtain ⟨agent, found, capable⟩ := validateRoute_ok.mp (valid.endpoints endpoint mem).route
  have isAgent := List.mem_of_find?_eq_some found
  refine ⟨agent, isAgent, by simpa using List.find?_some found, capable, ?_⟩
  exact List.mem_reverse.mp (valid.agents agent isAgent).known

end RuntimeManifest

theorem resolve_of_lookup {registry : RuntimeRegistry} {provider : AgentProvider}
    (isEndpoint : registry.endpoints.lookup name = some endpoint)
    (isAgent : registry.agents.lookup endpoint.agent = some agent)
    (isProvider : registry.providers.lookup agent.provider = some provider)
    (capable : endpoint.capability ∈ agent.capabilities) : registry.resolve name =
      if provider.supports endpoint.capability = true then .ok (endpoint, agent, provider)
      else .error (.capabilityUnavailable agent.provider endpoint.capability) := by
  cases supported : provider.supports endpoint.capability <;>
    simp [RuntimeRegistry.resolve, isEndpoint, isAgent, isProvider, capable, supported]

/-- Once a manifest has been applied, its endpoints all resolve if and only if each endpoint's
    capability is supported by the provider registered for its agent. -/
theorem applied_manifest_routes (codec : ManifestCodec) (core applied : RuntimeCore)
    (manifest : RuntimeManifest) (accepted : core.applyManifest codec manifest = .ok applied) :
    manifest.Routes applied.registry ↔ manifest.Supported core.registry.providers := by
  obtain ⟨valid, _, registered, rfl⟩ := applyManifest_ok.mp accepted
  -- every endpoint finds its agent and its provider; what is left to decide is the support
  have resolves : ∀ endpoint ∈ manifest.endpoints, ∃ agent ∈ manifest.agents, agent.id = endpoint.agent ∧
      ∃ provider, core.registry.providers.lookup agent.provider = some provider ∧
        RuntimeRegistry.resolve ⟨core.registry.providers, collect (·.id) manifest.agents,
            collect (·.name) manifest.endpoints⟩ endpoint.name =
          if provider.supports endpoint.capability = true then .ok (endpoint, agent, provider)
          else .error (.capabilityUnavailable agent.provider endpoint.capability) := by
    intro endpoint member
    obtain ⟨agent, isAgent, route, capable, required⟩ := valid.agent_of_endpoint member
    obtain ⟨requirement, isRequirement, isProvider⟩ := List.mem_map.mp required
    obtain ⟨provider, stored, _⟩ := registered requirement isRequirement
    rw [isProvider] at stored
    refine ⟨agent, isAgent, route, provider, stored, ?_⟩
    apply resolve_of_lookup
    · exact lookup_collect valid.distinctEndpoints member
    · rw [← route]
      exact lookup_collect valid.distinctAgents isAgent
    · exact stored
    · exact capable
  constructor
  · intro routes endpoint member agent isAgent route provider stored
    obtain ⟨found, isFound, sameRoute, served, servedBy, resolution⟩ := resolves endpoint member
    have sameAgent : agent = found :=
      List.inj_on_of_nodup_map valid.distinctAgents isAgent isFound (route.trans sameRoute.symm)
    subst sameAgent
    rw [stored, Option.some.injEq] at servedBy
    subst servedBy
    obtain ⟨_, _, resolved⟩ := routes endpoint member
    by_contra unsupported
    rw [resolution, if_neg unsupported] at resolved
    contradiction
  · intro supported endpoint member
    obtain ⟨agent, isAgent, route, provider, stored, resolution⟩ := resolves endpoint member
    rw [if_pos (supported endpoint member agent isAgent route provider stored)] at resolution
    exact ⟨agent, provider, resolution⟩

/-- A runtime in which the provider `models` is registered, which supports `chat` alone. -/
def townCore : RuntimeCore where
  projectId := "town"
  registry := { RuntimeRegistry.empty with
    providers := (∅ : HashMap String AgentProvider).insert "models" ⟨fun capability => capability == "chat"⟩ }
  manifest := none

/-- The runtime once `guideManifest` has been applied. -/
def guideCore (capability : String) : RuntimeCore where
  projectId := "town"
  registry := { townCore.registry with
    agents := collect (·.id) (guideManifest capability).agents
    endpoints := collect (·.name) (guideManifest capability).endpoints }
  manifest := some (guideManifest capability)

theorem guideManifest_applied {capability : String}
    (valid : (guideManifest capability).validate (guideCodec capability) = .ok ()) :
    townCore.applyManifest (guideCodec capability) (guideManifest capability) = .ok (guideCore capability) := by
  refine applyManifest_ok.mpr ⟨RuntimeManifest.validate_ok.mp valid, rfl, ?_, rfl⟩
  intro requirement isRequirement
  rw [List.mem_singleton.mp isRequirement]
  exact ⟨_, AList.lookup_insert _, by simp⟩

/-- With `chat` in all three places, the endpoint resolves. -/
theorem applied_manifest_routes_chat :
    townCore.applyManifest (guideCodec "chat") (guideManifest "chat") = .ok (guideCore "chat") ∧
      (guideManifest "chat").Routes (guideCore "chat").registry := by
  have accepted := @guideManifest_applied "chat" (by decide +kernel)
  refine ⟨accepted, (applied_manifest_routes _ townCore _ _ accepted).mpr ?_⟩
  intro endpoint isEndpoint agent isAgent _ provider stored
  rw [List.mem_singleton.mp isAgent] at stored
  rw [List.mem_singleton.mp isEndpoint, ← Option.some.inj stored]
  rfl

/-- The agent and the endpoint use `speech`, which is not among the capabilities required of the
    provider: the manifest is accepted, and its endpoint does not resolve. -/
theorem accepted_manifest_unroutable :
    ∃ applied, townCore.applyManifest (guideCodec "speech") (guideManifest "speech") = .ok applied ∧
      applied.registry.resolve "town-guide" = .error (.capabilityUnavailable "models" "speech") := by
  exact ⟨_, guideManifest_applied (by decide +kernel), rfl⟩

end Vifu.Runtime
