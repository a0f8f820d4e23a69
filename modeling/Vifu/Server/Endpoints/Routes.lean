import Vifu.Server.Profiles.Selection
import Vifu.Server.Relay.Hub

/-!
# Endpoints and their routes

An endpoint names a profile and one of its bindings to the agent of a gateway.  Three queries lead to endpoints: by the
endpoint alone, by an endpoint of a project, and by a model of a project.
-/

namespace Vifu.Server

open Foundation
open Vifu.Gateway
open Vifu.Runtime (Value FloatText)

/-! ## Rows -/

structure ProfileBinding extends AgentBinding where
  profileId : Uuid
  provider : String
  gatewayId : String
  agentId : String
  config : Value
  deriving DecidableEq

/-- The primary key and `UNIQUE (profile_id, gateway_id, agent_id)`. -/
instance : Keyed ProfileBinding where
  Key := Uuid × Uuid × String × String
  key row := (row.id, row.profileId, row.gatewayId, row.agentId)
  conflicts first second := first.1 == second.1 || first.2 == second.2
  symmetric first second := by grind
  reflexive key := by simp

structure AgentEndpoint where
  id : Uuid
  slug : String
  name : String
  profileId : Uuid
  bindingId : Uuid
  enabled : Bool
  requestTimeoutMs : ℤ
  createdAt : ℕ
  deriving DecidableEq

instance : Keyed AgentEndpoint where
  Key := String × Uuid
  key row := (row.slug, row.id)
  conflicts first second := first.1 == second.1 || first.2 == second.2
  symmetric first second := by grind
  reflexive key := by simp

inductive SourceKind where
  | registry
  | custom
  deriving DecidableEq

structure ProviderConnection where
  id : Uuid
  projectId : Uuid
  providerKey : String
  config : Value
  sourceKind : SourceKind
  sourceKey : String
  deriving DecidableEq

/-- The primary key and `UNIQUE (project_id, provider_key)`. -/
instance : Keyed ProviderConnection where
  Key := Uuid × Uuid × String
  key row := (row.id, row.projectId, row.providerKey)
  conflicts first second := first.1 == second.1 || first.2 == second.2
  symmetric first second := by grind
  reflexive key := by simp

structure AgentTables extends ProfileTables where
  projects : Rows Project
  agentBindings : Rows ProfileBinding
  projectBindings : Rows ProjectBinding
  agentEndpoints : Rows AgentEndpoint
  providerConnections : Rows ProviderConnection

inductive SqlCell where
  | null
  | text (text : String)
  | number
  deriving DecidableEq

/-- `config->>'key'`: an object or an array is its text. -/
def cellAt (floats : FloatText) (key : String) (config : Value) : SqlCell :=
  match config.get? key with
  | none | some .null => .null
  | some (.string text) => .text text
  | some (.bool _) | some (.number _) => .number
  | some (.array items) => .text ((Value.array items).text floats)
  | some (.object fields) => .text ((Value.object fields).text floats)

/-- `json_extract(source, '$.key') = 1`. -/
def isOneAt (key : String) (source : Value) : Bool :=
  match source.get? key with
  | some (.bool value) => value
  | some (.number (.posInt value)) => value == 1
  | some (.number (.float bits)) => bits == 0x3FF0000000000000
  | _ => false

/-- `cell LIKE '%-discovery'`, which does not look at the case. -/
def SqlCell.isDiscovery : SqlCell → Bool
  | .text source => decide ("-discovery".toList <:+ source.toList.map Char.toLower)
  | .null | .number => false

/-- `COALESCE(NULLIF(config->>'providerKey', ''), provider) = key`. -/
def ProfileBinding.hasProviderKey (floats : FloatText) (key : String) (binding : ProfileBinding) : Bool :=
  match cellAt floats "providerKey" binding.config with
  | .null => binding.provider == key
  | .text text => if text = "" then binding.provider == key else text == key
  | .number => false

/-! ## Routes -/

/-- The route of an endpoint, with the columns that an invocation does not need. -/
structure EndpointRouteRow extends EndpointRoute where
  endpointSlug : String
  endpointName : String
  requestTimeoutMs : ℤ
  deriving DecidableEq

namespace AgentTables

variable (tables : AgentTables)

def joined (endpoint : AgentEndpoint) : Option (AgentProfile × ProfileBinding) := do
  let profile ← tables.agentProfiles.find? fun row => row.id == endpoint.profileId
  let binding ← tables.agentBindings.find? fun row => row.id == endpoint.bindingId
  return (profile, binding)

def endpointRoute (endpoint : AgentEndpoint) (profile : AgentProfile) (binding : ProfileBinding) : EndpointRouteRow where
  endpointId := endpoint.id
  endpointSlug := endpoint.slug
  endpointName := endpoint.name
  requestTimeoutMs := endpoint.requestTimeoutMs
  profileId := profile.id
  bindingId := binding.id
  gatewayId := binding.gatewayId
  agentId := binding.agentId
  bindingConfig := binding.config

def enabledRoutes (passes : AgentEndpoint → AgentProfile → ProfileBinding → Bool) : List (AgentEndpoint × EndpointRouteRow) :=
  (tables.agentEndpoints.filter AgentEndpoint.enabled).filterMap fun endpoint =>
    (tables.joined endpoint).bind fun (profile, binding) =>
      if passes endpoint profile binding then some (endpoint, endpointRoute endpoint profile binding) else none

def boundIn (isProject : Project → Bool) (binding : ProfileBinding) : Bool :=
  tables.projectBindings.any fun row =>
    row.bindingId == binding.id && tables.projects.any fun project =>
      project.id == row.projectId && project.enabled && isProject project

/-- A text that reads as an id names an endpoint by its id, any other by its slug. -/
def isNamed (uuids : UuidParser) (idOrSlug : String) (endpoint : AgentEndpoint) : Bool :=
  match uuids.parse idOrSlug with
  | some id => endpoint.id == id
  | none => endpoint.slug == idOrSlug

def resolveEndpointRoute (uuids : UuidParser) (idOrSlug : String) : Except ApiError EndpointRouteRow :=
  okOr .notFound ((tables.enabledRoutes fun endpoint _ _ => isNamed uuids idOrSlug endpoint).head?.map Prod.snd)

def resolveProjectEndpointRoute (uuids : UuidParser) (projectSlug idOrSlug : String) : Except ApiError EndpointRouteRow :=
  okOr .notFound ((tables.enabledRoutes fun endpoint _ binding =>
    tables.boundIn (fun project => project.slug == projectSlug) binding && isNamed uuids idOrSlug endpoint).head?.map
      Prod.snd)

/-- What of the joined rows a model names: the order of the routes goes by this first. -/
def modelRank (endpointId : Option Uuid) (model : String) (endpoint : AgentEndpoint) (profile : AgentProfile)
    (binding : ProfileBinding) : Option ℕ :=
  if endpoint.slug = model then some 0
  else if endpointId = some endpoint.id then some 1
  else if profile.slug = model then some 2
  else if binding.agentId = model then some 3
  else none

def rankedRoutes (uuids : UuidParser) (projectId : Uuid) (model : String) (rank : ℕ) :
    List (AgentEndpoint × EndpointRouteRow) :=
  (tables.enabledRoutes fun endpoint profile binding =>
    tables.boundIn (fun project => project.id == projectId) binding &&
      modelRank (uuids.parse model) model endpoint profile binding == some rank).insertionSort
    fun first second => first.1.createdAt ≤ second.1.createdAt

def resolveProjectModelRoute (uuids : UuidParser) (projectId : Uuid) (model : String) : Except ApiError EndpointRouteRow :=
  okOr .notFound ((((List.range 4).flatMap (tables.rankedRoutes uuids projectId model)).head?).map Prod.snd)

end AgentTables

namespace AgentTables

variable {tables : AgentTables} {uuids : UuidParser} {route : EndpointRouteRow}

def Leads (tables : AgentTables) (route : EndpointRouteRow) : Prop :=
  ∃ endpoint ∈ tables.agentEndpoints, endpoint.enabled = true ∧ route.profileId = endpoint.profileId ∧
    ∃ profile ∈ tables.agentProfiles, profile.id = endpoint.profileId

theorem leads_of_enabledRoutes {passes : AgentEndpoint → AgentProfile → ProfileBinding → Bool} {endpoint : AgentEndpoint}
    (mem : (endpoint, route) ∈ tables.enabledRoutes passes) : tables.Leads route := by
  obtain ⟨stored, filtered, isRoute⟩ := List.mem_filterMap.mp mem
  obtain ⟨isStored, enabled⟩ := Rows.mem_filter.mp filtered
  obtain ⟨⟨profile, binding⟩, joins, chosen⟩ := Option.bind_eq_some_iff.mp isRoute
  dsimp only at chosen
  split at chosen
  · cases chosen
    simp only [joined, Option.bind_eq_bind, Option.bind_eq_some_iff, Option.pure_def, Option.some.injEq, Prod.mk.injEq]
      at joins
    obtain ⟨profile, found, binding, _, rfl, rfl⟩ := joins
    obtain ⟨isProfile, sameId⟩ := Rows.mem_of_find? found
    rw [beq_iff_eq] at sameId
    exact ⟨endpoint, isStored, enabled, sameId, profile, isProfile, sameId⟩
  · cases chosen

theorem leads_of_head {routes : List (AgentEndpoint × EndpointRouteRow)} (found : routes.head?.map Prod.snd = some route)
    (leads : ∀ named ∈ routes, tables.Leads named.2) : tables.Leads route := by
  obtain ⟨first, isFirst, rfl⟩ := Option.map_eq_some_iff.mp found
  exact leads first (List.mem_of_head? isFirst)

theorem leads_of_resolveEndpointRoute {idOrSlug : String}
    (resolves : tables.resolveEndpointRoute uuids idOrSlug = .ok route) : tables.Leads route :=
  leads_of_head (okOr_ok.mp resolves) fun _ mem => leads_of_enabledRoutes mem

theorem leads_of_resolveProjectEndpointRoute {projectSlug idOrSlug : String}
    (resolves : tables.resolveProjectEndpointRoute uuids projectSlug idOrSlug = .ok route) : tables.Leads route :=
  leads_of_head (okOr_ok.mp resolves) fun _ mem => leads_of_enabledRoutes mem

theorem leads_of_resolveProjectModelRoute {projectId : Uuid} {model : String}
    (resolves : tables.resolveProjectModelRoute uuids projectId model = .ok route) : tables.Leads route := by
  apply leads_of_head (okOr_ok.mp resolves)
  intro named mem
  obtain ⟨rank, _, ranked⟩ := List.mem_flatMap.mp mem
  exact leads_of_enabledRoutes ((List.mem_insertionSort _).mp ranked)

end AgentTables

end Vifu.Server
