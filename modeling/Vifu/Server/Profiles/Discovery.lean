import Mathlib.Data.List.Dedup
import Vifu.Server.Profiles.Routing
import Vifu.Server.Profiles.Selection

/-!
# The list of models

What the list of models shows and what a chat completion reaches, in terms of the rows: the list asks for the active
version of a profile and for the version of a user without a key, a chat completion for the version of its user.
-/

namespace Vifu.Server

open Foundation
open Vifu.Gateway
open Vifu.Runtime (Value)

namespace ProfileTables

variable (tables : ProfileTables)

def selectedVersion (sha256 : Sha256) (profileId : Uuid) (selectionKey : Option String) : Option Uuid :=
  let rollout := tables.listProfileRollout profileId
  if rollout = [] then (tables.agentProfiles.find? fun row => row.id == profileId).bind AgentProfile.activeVersionId
  else
    (pickAllocation (rolloutBucket sha256 profileId selectionKey) 0 rollout).or
      (rollout.getLast?.map AgentProfileRollout.profileVersionId)

def chatRouteOf (sha256 : Sha256) (profile : AgentProfile) (selectionKey : Option String) : Option ProfileRoute := do
  let versionId ← tables.selectedVersion sha256 profile.id selectionKey
  let version ← tables.liveVersion profile.id versionId
  let capability ← tables.capabilityOf version.id "chat"
  return profileRoute profile version capability

variable {tables} {sha256 : Sha256} {uuids : UuidParser} {projectId profileId versionId : Uuid} {model : String}
  {key : Option String}

theorem selectProfileVersion_eq :
    tables.selectProfileVersion sha256 profileId key = okOr .notFound (tables.selectedVersion sha256 profileId key) := by
  by_cases fresh : tables.listProfileRollout profileId = []
  · simp only [selectProfileVersion, selectedVersion, if_pos fresh]
    exact okOr_bind
  · simp only [selectProfileVersion, selectedVersion, if_neg fresh]

theorem resolveProfileRoute_eq : tables.resolveProfileRoute sha256 uuids projectId model "chat" key none =
      okOr .notFound ((tables.namedProfile uuids projectId model).bind fun profile =>
        tables.chatRouteOf sha256 profile key) := by
  unfold resolveProfileRoute
  rw [← okOr_bind]
  congr 1
  funext profile
  simp only [chosenVersion, selectProfileVersion_eq, chatRouteOf]
  rw [show (pure : ProfileRoute → Except ApiError ProfileRoute) = fun route => okOr .notFound (some route) from rfl]
  simp only [okOr_bind]
  rfl

variable {profile : AgentProfile}

theorem chatRouteOf_profileId {route : ProfileRoute}
    (found : tables.chatRouteOf sha256 profile key = some route) : route.profileId = profile.id := by
  simp only [chatRouteOf, Option.bind_eq_bind, Option.bind_eq_some_iff] at found
  obtain ⟨_, _, _, _, _, _, isRoute⟩ := found
  cases isRoute
  rfl

def Listable (tables : ProfileTables) (projectId : Uuid) (allowedProfileIds : Option (List Uuid)) (profile : AgentProfile) :
    Prop :=
  profile ∈ tables.agentProfiles ∧ profile.isLiveIn projectId = true ∧ ∀ ids ∈ allowedProfileIds, profile.id ∈ ids

def OffersChat (tables : ProfileTables) (versionId : Uuid) : Prop :=
  ∃ capability ∈ tables.agentProfileCapabilities, capability.profileVersionId = versionId ∧ capability.kind = "chat"

theorem mem_listed {allowedProfileIds : Option (List Uuid)} :
    profile ∈ ((tables.listProjectProfiles projectId).filter fun profile =>
      !allowedProfileIds.any fun ids => !ids.contains profile.id) ↔ tables.Listable projectId allowedProfileIds profile := by
  rw [List.mem_filter, listProjectProfiles, Rows.mem_filter, Listable, and_assoc]
  cases allowedProfileIds <;> simp

end ProfileTables

namespace ProjectTables

open ProfileTables

variable {tables : ProjectTables} {sha256 : Sha256} {uuids : UuidParser} {projectId : Uuid}
  {allowedProfileIds : Option (List Uuid)}

theorem publicAgent_of_active (mem : profile ∈ tables.agentProfiles) {versionId : Uuid}
    (isActive : profile.activeVersionId = some versionId) :
    ∃ agent : PublicAgent, tables.publicAgent profile = .ok (some agent) ∧ agent.slug = profile.slug ∧
      (agent.capabilities.contains "chat" = true ↔ tables.OffersChat versionId) := by
  have known := tables.activeKnown profile mem versionId isActive
  obtain ⟨version, found⟩ := Option.isSome_iff_exists.mp (Rows.find?_isSome.mpr (Rows.any_eq_true.mp known))
  have isVersion := (Rows.mem_of_find? found).2
  rw [Bool.and_eq_true, beq_iff_eq] at isVersion
  have gets : tables.getProfileVersion profile.id versionId = .ok version := okOr_ok.mpr found
  refine ⟨tables.agentOf profile version, ?_, rfl, ?_⟩
  · simp only [publicAgent, isActive, gets, ok_bind]
    rfl
  · simp only [agentOf, List.contains_iff_mem, List.mem_dedup, List.mem_map, listProfileCapabilities, List.mem_insertionSort,
      Rows.mem_filter, beq_iff_eq, isVersion.1, OffersChat, and_assoc]

theorem publicAgent_ok (mem : profile ∈ tables.agentProfiles) :
    ∃ agent, tables.publicAgent profile = .ok agent := by
  cases isActive : profile.activeVersionId with
  | none => exact ⟨none, by rw [publicAgent, isActive]⟩
  | some versionId =>
    obtain ⟨agent, isAgent, _⟩ := publicAgent_of_active mem isActive
    exact ⟨some agent, isAgent⟩

theorem listPublicAgents_ok (projectId : Uuid) (allowedProfileIds : Option (List Uuid)) : ∃ agents, tables.listPublicAgents projectId allowedProfileIds = .ok agents ∧
    ∀ agent, agent ∈ agents ↔
      ∃ profile, tables.Listable projectId allowedProfileIds profile ∧ tables.publicAgent profile = .ok (some agent) := by
  have readable : ∀ profile ∈ (tables.listProjectProfiles projectId).filter fun profile =>
      !allowedProfileIds.any fun ids => !ids.contains profile.id, ∃ agent, tables.publicAgent profile = .ok agent :=
    fun profile mem => publicAgent_ok (mem_listed.mp mem).1
  obtain ⟨agents, succeeds, fromProfiles⟩ := mapM_ok_of_forall readable
  refine ⟨_, bind_ok.mpr ⟨agents, succeeds, rfl⟩, ?_⟩
  intro agent
  rw [List.mem_insertionSort, List.mem_filterMap]
  simp only [id_eq, exists_eq_right, fromProfiles, mem_listed]

/-- An agent that the list of agents shows with a chat is shown in the list of models if the user without a key has a
route to the profile that its slug stands for. -/
def Shown (tables : ProjectTables) (sha256 : Sha256) (uuids : UuidParser) (projectId : Uuid) (model : String) : Prop :=
  ∃ profile, tables.namedProfile uuids projectId model = some profile ∧
    ∃ route, tables.chatRouteOf sha256 profile none = some route ∧ tables.isInvocable projectId route = true

theorem invocableAgent_ok (tables : ProjectTables) (sha256 : Sha256) (uuids : UuidParser) (projectId : Uuid)
    (agent : PublicAgent) : ∃ shown, tables.invocableAgent sha256 uuids projectId agent = .ok shown ∧
    (shown.isSome ↔ agent.capabilities.contains "chat" = true ∧ tables.Shown sha256 uuids projectId agent.slug) ∧
    ∀ other, shown = some other → other = agent := by
  unfold invocableAgent
  split
  next chats =>
    rw [resolveProfileRoute_eq]
    cases found : (tables.namedProfile uuids projectId agent.slug).bind fun profile => tables.chatRouteOf sha256 profile none with
    | none =>
      refine ⟨none, rfl, ?_, by simp⟩
      rw [Option.bind_eq_none_iff] at found
      have hidden : ¬tables.Shown sha256 uuids projectId agent.slug := by
        rintro ⟨profile, named, route, isRoute, _⟩
        rw [found profile named] at isRoute
        cases isRoute
      simp [hidden]
    | some route =>
      obtain ⟨profile, named, isRoute⟩ := Option.bind_eq_some_iff.mp found
      refine ⟨_, rfl, ?_, ?_⟩
      · have shown : tables.Shown sha256 uuids projectId agent.slug ↔ tables.isInvocable projectId route = true := by
          constructor
          · rintro ⟨other, isOther, otherRoute, isOtherRoute, invocable⟩
            cases named.symm.trans isOther
            cases isRoute.symm.trans isOtherRoute
            exact invocable
          · exact fun invocable => ⟨profile, named, route, isRoute, invocable⟩
        split <;> simp_all
      · intro other
        split <;> simp_all
  next silent => exact ⟨none, rfl, by simp_all, by simp⟩

/-- A name is in the list of models exactly when it is the slug of a listed profile whose active version offers chats
and the user without a key is shown it. -/
theorem mem_models {model : String} :
    (∃ agents, tables.listInvocablePublicChatAgents sha256 uuids projectId allowedProfileIds = .ok agents ∧
      ∃ agent ∈ agents, agent.slug = model) ↔
    (∃ profile, tables.Listable projectId allowedProfileIds profile ∧ profile.slug = model ∧
      ∃ versionId, profile.activeVersionId = some versionId ∧ tables.OffersChat versionId) ∧
    tables.Shown sha256 uuids projectId model := by
  obtain ⟨listed, isListed, fromProfiles⟩ := tables.listPublicAgents_ok projectId allowedProfileIds
  have checked : ∀ agent ∈ listed, ∃ shown, tables.invocableAgent sha256 uuids projectId agent = .ok shown := by
    intro agent _
    obtain ⟨shown, isShown, _⟩ := tables.invocableAgent_ok sha256 uuids projectId agent
    exact ⟨shown, isShown⟩
  obtain ⟨results, succeeds, fromListed⟩ := mapM_ok_of_forall checked
  have lists : tables.listInvocablePublicChatAgents sha256 uuids projectId allowedProfileIds =
      .ok (results.filterMap id) :=
    bind_ok.mpr ⟨listed, isListed, bind_ok.mpr ⟨results, succeeds, rfl⟩⟩
  simp only [lists, Except.ok.injEq, exists_eq_left', List.mem_filterMap, id_eq, exists_eq_right, fromListed]
  constructor
  · rintro ⟨agent, ⟨original, mem, isAgent⟩, rfl⟩
    obtain ⟨shown, isShown, displayed, same⟩ := tables.invocableAgent_ok sha256 uuids projectId original
    rw [isAgent] at isShown
    cases isShown
    obtain ⟨chats, reached⟩ := displayed.mp rfl
    cases same agent rfl
    obtain ⟨profile, listable, isPublic⟩ := (fromProfiles agent).mp mem
    cases isActive : profile.activeVersionId with
    | none =>
      rw [publicAgent, isActive] at isPublic
      cases isPublic
    | some versionId =>
      obtain ⟨other, isOther, sameSlug, offers⟩ := publicAgent_of_active listable.1 isActive
      rw [isPublic] at isOther
      cases isOther
      exact ⟨⟨profile, listable, sameSlug.symm, versionId, isActive, offers.mp chats⟩, reached⟩
  · rintro ⟨⟨profile, listable, rfl, versionId, isActive, offersChat⟩, reached⟩
    obtain ⟨agent, isAgent, sameSlug, offers⟩ := publicAgent_of_active listable.1 isActive
    obtain ⟨shown, isShown, displayed, same⟩ := tables.invocableAgent_ok sha256 uuids projectId agent
    rw [sameSlug] at displayed
    obtain ⟨found, isFound⟩ := Option.isSome_iff_exists.mp (displayed.mpr ⟨offers.mpr offersChat, reached⟩)
    cases same found isFound
    exact ⟨agent, ⟨agent, (fromProfiles agent).mpr ⟨profile, listable, isAgent⟩, isFound ▸ isShown⟩, sameSlug⟩

end ProjectTables

/-! ## What a chat completion reaches -/

def RequestError.Unresolved (error : RequestError) : Prop :=
  error ∈ [.api .notFound, .agentAccessDenied, .agentDeploymentUnavailable, .api missingGatewayId, .api missingResourceId,
    .api missingProviderModel]

instance (error : RequestError) : Decidable error.Unresolved := inferInstanceAs (Decidable (_ ∈ _))

/-- The request does not end because its agent cannot be reached. -/
def Resolves {α : Type} (result : Except RequestError α) : Prop := ∀ error, result = .error error → ¬error.Unresolved

variable {α : Type}

theorem resolves_ok {value : α} : Resolves (.ok value : Except RequestError α) := by
  intro error isError
  cases isError

variable {error : RequestError}

theorem resolves_error : Resolves (.error error : Except RequestError α) ↔ ¬error.Unresolved := by
  simp [Resolves]

theorem resolves_okOr_bind {α β : Type} {found : Option α} {next : α → Except RequestError β}
    (unresolved : error.Unresolved) :
    Resolves (okOr error found >>= next) ↔ ∃ value, found = some value ∧ Resolves (next value) := by
  cases found with
  | none =>
    refine iff_of_false (fun resolves => resolves error rfl unresolved) ?_
    simp
  | some value =>
    rw [show okOr error (some value) = .ok value from rfl, ok_bind]
    simp

theorem resolves_ensure_bind {condition : Prop} [Decidable condition]
    {next : Unit → Except RequestError α} (unresolved : error.Unresolved) :
    Resolves (ensure condition error >>= next) ↔ condition ∧ Resolves (next ()) := by
  by_cases holds : condition
  · rw [ensure, if_pos holds, ok_bind]
    simp [holds]
  · rw [ensure, if_neg holds]
    refine iff_of_false (fun resolves => resolves error rfl unresolved) ?_
    simp [holds]

namespace ProjectTables

open ProfileTables

variable (tables : ProjectTables)
  (resolveRuntimeProvider : String → Except RequestError ResolvedRuntimeProvider)

/-- The route names what its provider needs. -/
structure Equipped (projectId : Uuid) (route : ProfileRoute) : Prop where
  gateway : route.providerType = "openclaw" ∨ route.providerType = "vifu-runtime" →
    route.gatewayId.isSome ∧ route.resourceId.isSome
  deployed : route.providerType = "vifu-runtime" → ∀ gatewayId ∈ route.gatewayId,
    tables.runtimeDeploymentAllowsRemoteInvocation projectId gatewayId = true
  provider : route.providerType = "openai-compatible" → Resolves (resolveRuntimeProvider route.providerKey) ∧
    ∀ provider, resolveRuntimeProvider route.providerKey = .ok provider → provider.providerType = "openai-compatible" →
      route.resourceId.isSome

variable {tables resolveRuntimeProvider} {projectId : Uuid} {route : ProfileRoute}

theorem gatewayTarget_resolves : Resolves (tables.gatewayTarget projectId route) ↔
    ∃ gatewayId, route.gatewayId = some gatewayId ∧
      (route.providerType = "vifu-runtime" → tables.runtimeDeploymentAllowsRemoteInvocation projectId gatewayId = true) ∧
      route.resourceId.isSome := by
  have binds : ∀ agentId gatewayId : String, Resolves ((gatewayBindingConfig route.capabilityConfig route.providerKey "chat"
      route.persona route.profileName route.profileSlug).mapError .api >>= fun bindingConfig =>
        .ok (ChatTarget.gateway gatewayId agentId bindingConfig)) := by
    intro agentId gatewayId
    unfold gatewayBindingConfig
    split
    · exact resolves_ok
    · exact resolves_error.mpr (by decide)
  have unresolved : RequestError.Unresolved (.api missingGatewayId) ∧ RequestError.Unresolved .agentDeploymentUnavailable ∧
      RequestError.Unresolved (.api missingResourceId) := by decide
  simp only [gatewayTarget, resolves_okOr_bind unresolved.1, resolves_ensure_bind unresolved.2.1,
    resolves_okOr_bind unresolved.2.2, Option.isSome_iff_exists]
  constructor
  · rintro ⟨gatewayId, isGateway, deployed, agentId, isAgent, _⟩
    exact ⟨gatewayId, isGateway, deployed, agentId, isAgent⟩
  · rintro ⟨gatewayId, isGateway, deployed, agentId, isAgent⟩
    exact ⟨gatewayId, isGateway, deployed, agentId, isAgent, binds agentId gatewayId⟩

theorem httpTarget_resolves {provider : ResolvedRuntimeProvider} : Resolves (httpTarget provider route) ↔
    (provider.providerType = "openai-compatible" → route.resourceId.isSome) := by
  by_cases matching : provider.providerType = "openai-compatible"
  · have checked : httpTarget provider route = (okOr (.api missingProviderModel) route.resourceId >>= fun model =>
        .ok (.http provider model)) := by
      rw [httpTarget, ensure, if_pos matching]
      rfl
    rw [checked, resolves_okOr_bind (by decide), Option.isSome_iff_exists]
    simp [matching, resolves_ok]
  · have refused : httpTarget provider route =
        .error (.api (.invalid "profile capability does not match its configured provider")) := by
      rw [httpTarget, ensure, if_neg matching]
      rfl
    rw [refused]
    exact iff_of_true (resolves_error.mpr (by decide)) fun isHttp => absurd isHttp matching

theorem chatTarget_resolves : Resolves (tables.chatTarget resolveRuntimeProvider projectId route) ↔
    tables.Equipped resolveRuntimeProvider projectId route := by
  unfold chatTarget
  split
  next throughGateway =>
    have notHttp : route.providerType ≠ "openai-compatible" := by
      rcases throughGateway with isType | isType <;> rw [isType] <;> decide
    rw [gatewayTarget_resolves]
    constructor
    · rintro ⟨gatewayId, isGateway, deployed, hasAgent⟩
      refine ⟨fun _ => ⟨by rw [isGateway]; rfl, hasAgent⟩, ?_, fun isHttp => absurd isHttp notHttp⟩
      intro isRuntime other isOther
      cases isGateway.symm.trans isOther
      exact deployed isRuntime
    · intro equipped
      obtain ⟨hasGateway, hasAgent⟩ := equipped.gateway throughGateway
      obtain ⟨gatewayId, isGateway⟩ := Option.isSome_iff_exists.mp hasGateway
      exact ⟨gatewayId, isGateway, fun isRuntime => equipped.deployed isRuntime gatewayId isGateway, hasAgent⟩
  next notThroughGateway =>
    rw [not_or] at notThroughGateway
    split
    next isHttp =>
      have equipped_iff : tables.Equipped resolveRuntimeProvider projectId route ↔
          Resolves (resolveRuntimeProvider route.providerKey) ∧
            ∀ provider, resolveRuntimeProvider route.providerKey = .ok provider →
              provider.providerType = "openai-compatible" → route.resourceId.isSome := by
        constructor
        · exact fun equipped => equipped.provider isHttp
        · intro provided
          exact ⟨by simp [notThroughGateway], by simp [notThroughGateway], fun _ => provided⟩
      rw [equipped_iff]
      cases resolved : resolveRuntimeProvider route.providerKey with
      | error error =>
        show Resolves (.error error) ↔ _
        simp [resolves_error]
      | ok provider =>
        show Resolves (httpTarget provider route) ↔ _
        rw [httpTarget_resolves]
        simp [resolves_ok]
    next notHttp =>
      refine iff_of_true (resolves_error.mpr ?_) ⟨by simp [notThroughGateway], by simp [notThroughGateway], by simp [notHttp]⟩
      -- the text begins unlike the others
      have differs : ∀ message : String, message.toList.head? ≠ some 'p' →
          "provider type " ++ route.providerType ++ " does not support chat" ≠ message := by
        rintro _ other rfl
        simp at other
      simp [RequestError.Unresolved, missingGatewayId, missingResourceId, missingProviderModel,
        differs "Gateway capability is missing gatewayId" (by decide),
        differs "Gateway capability is missing resourceId" (by decide),
        differs "chat capability is missing a provider model" (by decide)]

/-! ## The two together -/

variable (tables resolveRuntimeProvider) (sha256 : Sha256) (uuids : UuidParser) (authority : ApiRequestAuthority)

/-- The authority may use the profile, and the version of the user has a chat whose provider has what it needs. -/
def Served (projectId : Uuid) (selectionKey : Option String) (profile : AgentProfile) : Prop :=
  authority.allows profile.id = true ∧
    ∃ route, tables.chatRouteOf sha256 profile selectionKey = some route ∧
      tables.Equipped resolveRuntimeProvider projectId route

/-- The version of a user without a key has a chat, in a deployment that allows it if it is one of the runtime. -/
def Invocable (projectId : Uuid) (profile : AgentProfile) : Prop :=
  ∃ route, tables.chatRouteOf sha256 profile none = some route ∧ tables.isInvocable projectId route = true

def Offered (projectId : Uuid) (model : String) : Prop :=
  ∃ profile, tables.Listable projectId authority.allowedProfileIds profile ∧ profile.slug = model ∧
    ∃ versionId, profile.activeVersionId = some versionId ∧ tables.OffersChat versionId

/-- What the list of models asks for and what a chat completion asks for, of the profile that a name stands for. -/
structure Alike (projectId : Uuid) (selectionKey : Option String) (model : String) (profile : AgentProfile) : Prop where
  /-- The active version has a chat if the version of the user does. -/
  offered : tables.Served resolveRuntimeProvider sha256 authority projectId selectionKey profile →
    tables.Offered authority projectId model
  /-- So does the version of a user without a key. -/
  invocable : tables.Served resolveRuntimeProvider sha256 authority projectId selectionKey profile →
    tables.Invocable sha256 projectId profile
  /-- The version of the user has all that its provider needs if the other two have a chat. -/
  served : tables.Invocable sha256 projectId profile → tables.Offered authority projectId model →
    tables.Served resolveRuntimeProvider sha256 authority projectId selectionKey profile

variable {tables resolveRuntimeProvider sha256 uuids authority} {request : Value} {model : String}

theorem hide_unresolved : (authority.hide .notFound).Unresolved := by
  cases authority <;> simp [ApiRequestAuthority.hide, RequestError.Unresolved]

theorem createProfileChatCompletion_resolves (permitted : authority.check projectId = .ok ()) :
    Resolves (tables.createProfileChatCompletion sha256 uuids resolveRuntimeProvider authority projectId request
      (some model)) ↔ ∃ profile, tables.namedProfile uuids projectId model = some profile ∧
      tables.Served resolveRuntimeProvider sha256 authority projectId (selectionKey request) profile := by
  have routed : tables.createProfileChatCompletion sha256 uuids resolveRuntimeProvider authority projectId request
      (some model) =
    (okOr (authority.hide .notFound) ((tables.namedProfile uuids projectId model).bind fun profile =>
        tables.chatRouteOf sha256 profile (selectionKey request)) >>= fun route =>
      ensure (authority.allows route.profileId = true) .agentAccessDenied >>= fun _ =>
        tables.chatTarget resolveRuntimeProvider projectId route) := by
    unfold createProfileChatCompletion chatRoute
    have named : okOr RequestError.modelRequired (some model) = .ok model := rfl
    simp only [named, ok_bind, permitted, resolveProfileRoute_eq]
    cases (tables.namedProfile uuids projectId model).bind fun profile =>
        tables.chatRouteOf sha256 profile (selectionKey request) with
    | none => rfl
    | some route =>
      have resolved : (okOr ApiError.notFound (some route)).mapError authority.hide = .ok route := rfl
      have found : okOr (authority.hide .notFound) (some route) = .ok route := rfl
      simp only [resolved, found, ok_bind]
      cases ensure (authority.allows route.profileId = true) RequestError.agentAccessDenied <;> rfl
  rw [routed, resolves_okOr_bind hide_unresolved]
  have unresolved : RequestError.Unresolved .agentAccessDenied := by decide
  simp only [resolves_ensure_bind unresolved, chatTarget_resolves]
  constructor
  · rintro ⟨route, isRoute, allowed, equipped⟩
    obtain ⟨profile, named, found⟩ := Option.bind_eq_some_iff.mp isRoute
    have sameProfile : route.profileId = profile.id := chatRouteOf_profileId found
    exact ⟨profile, named, sameProfile ▸ allowed, route, found, equipped⟩
  · rintro ⟨profile, named, allowed, route, found, equipped⟩
    exact ⟨route, Option.bind_eq_some_iff.mpr ⟨profile, named, found⟩, (chatRouteOf_profileId found).symm ▸ allowed, equipped⟩

end ProjectTables

open ProfileTables ProjectTables

def greeterProfile : AgentProfile where
  id := townGuide
  projectId := some townGuideProject
  slug := "greeter"
  name := "Greeter"
  description := none
  activeVersionId := some townGuideFirst
  archivedAt := none

def greeterVersion : AgentProfileVersion :=
  ⟨townGuideFirst, townGuide, 1, .object [], .object [], .object [], .object [], none⟩

def greeterChat (config : Value) (resourceId : Option String) : AgentProfileCapability :=
  ⟨townGuideSecond, townGuideFirst, "chat", "openclaw", "openclaw", resourceId, config, .object [], .object [], 0⟩

def greeterTables (config : Value) (resourceId : Option String) : ProjectTables where
  agentProfiles := .singleton greeterProfile
  agentProfileVersions := .singleton greeterVersion
  agentProfileCapabilities := .singleton (greeterChat config resourceId)
  agentProfileRollouts := .singleton ⟨townGuide, townGuideFirst, 10000, 0⟩
  projectRuntimeReleases := .empty
  runtimeDeployments := .empty
  runtimeDeploymentGateways := .empty
  activeKnown profile member versionId isActive := by
    cases List.mem_singleton.mp member
    cases isActive
    exact Rows.any_eq_true.mpr ⟨greeterVersion, List.mem_singleton.mpr rfl, by decide⟩

def noUuids : UuidParser := ⟨fun _ => none⟩

def noProvider (_ : String) : Except RequestError ResolvedRuntimeProvider := .error (.api .notFound)

def boundConfig : Value := .object [("gatewayId", .string "gateway-town")]

theorem greeter_named (config : Value) (resourceId : Option String) :
    (greeterTables config resourceId).namedProfile noUuids townGuideProject "greeter" = some greeterProfile := rfl

theorem greeter_routed (sha256 : Sha256) (config : Value) (resourceId : Option String) (key : Option String) :
    (greeterTables config resourceId).chatRouteOf sha256 greeterProfile key =
      some (profileRoute greeterProfile greeterVersion (greeterChat config resourceId)) := by
  have selected : (greeterTables config resourceId).selectedVersion sha256 townGuide key = some townGuideFirst := by
    have rollout : (greeterTables config resourceId).listProfileRollout townGuide =
      [⟨townGuide, townGuideFirst, 10000, 0⟩] := rfl
    rw [selectedVersion, rollout, if_neg (by simp), pickAllocation]
    split <;> rfl
  simp only [chatRouteOf, show greeterProfile.id = townGuide from rfl, selected]
  rfl

theorem greeter_invocable (sha256 : Sha256) (config : Value) (resourceId : Option String) :
    (greeterTables config resourceId).Invocable sha256 townGuideProject greeterProfile :=
  ⟨_, greeter_routed sha256 config resourceId none, rfl⟩

theorem greeter_offered (config : Value) (resourceId : Option String) :
    (greeterTables config resourceId).Offered .admin townGuideProject "greeter" := by
  refine ⟨greeterProfile, ?_, rfl, townGuideFirst, rfl, ?_⟩
  · exact ⟨List.mem_singleton.mpr rfl, by decide, by simp [ApiRequestAuthority.allowedProfileIds]⟩
  · exact ⟨greeterChat config resourceId, List.mem_singleton.mpr rfl, rfl, rfl⟩

/-- The digest of the id of the profile and `anonymous`. -/
def greeterDigest : Sha256 := fun _ =>
  [26, 12, 155, 252, 49, 233, 158, 101, 100, 99, 183, 80, 169, 136, 34, 71, 94, 173, 155, 11,
    214, 171, 48, 84, 103, 152, 20, 105, 32, 189, 7, 62]

end Vifu.Server
