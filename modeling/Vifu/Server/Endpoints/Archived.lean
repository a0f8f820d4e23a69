import Vifu.Server.Endpoints.Edits
import Vifu.Server.Profiles.Routing

/-!
# Routes of archived profiles

Only the route of a capability looks at whether its profile is archived.  The routes of endpoints lead to no archived
profile exactly as long as no archived profile has an enabled endpoint, which an edit of an endpoint and two of the
three functions that archive a profile do not see to.
-/

namespace Vifu.Server

open Foundation
open Vifu.Gateway
open Vifu.Runtime (Value FloatText)

/-- One of the four resolvers answers with a route to the profile. -/
inductive AgentTables.RoutesTo (sha256 : Sha256) (uuids : UuidParser) (tables : AgentTables) (profileId : Uuid) : Prop where
  | endpoint (idOrSlug : String) (route : EndpointRouteRow)
    (resolves : tables.resolveEndpointRoute uuids idOrSlug = .ok route) (isProfile : route.profileId = profileId)
  | projectEndpoint (projectSlug idOrSlug : String) (route : EndpointRouteRow)
    (resolves : tables.resolveProjectEndpointRoute uuids projectSlug idOrSlug = .ok route)
    (isProfile : route.profileId = profileId)
  | model (projectId : Uuid) (model : String) (route : EndpointRouteRow)
    (resolves : tables.resolveProjectModelRoute uuids projectId model = .ok route)
    (isProfile : route.profileId = profileId)
  | capability (projectId : Uuid) (model kind : String) (key : Option String) (versionId : Option Uuid)
    (route : ProfileRoute)
    (resolves : tables.resolveProfileRoute sha256 uuids projectId model kind key versionId = .ok route)
    (isProfile : route.profileId = profileId)

namespace AgentTables

variable (tables : AgentTables)

def IsLive (profileId : Uuid) : Prop :=
  ∀ profile ∈ tables.agentProfiles, profile.id = profileId → profile.archivedAt = none

def ArchivedIdle (sha256 : Sha256) (uuids : UuidParser) : Prop :=
  ∀ profileId, tables.RoutesTo sha256 uuids profileId → tables.IsLive profileId

def EndpointsLive : Prop := ∀ endpoint ∈ tables.agentEndpoints, endpoint.enabled = true → tables.IsLive endpoint.profileId

def Disabled (profileId : Uuid) : Prop :=
  ∀ endpoint ∈ tables.agentEndpoints, endpoint.profileId = profileId → endpoint.enabled = false

def KeepsIdle (floats : FloatText) : Action → Prop
  | .createEndpoint _ input => input.enabled = true → tables.IsLive input.profileId
  | .updateEndpoint id patch =>
    ∀ endpoint ∈ tables.agentEndpoints, endpoint.id = id → (patch.apply endpoint).enabled = true →
      tables.IsLive (patch.apply endpoint).profileId
  | .deleteProfile _ id => tables.Disabled id
  | .archiveLegacyDiscoveredProvider _ projectId providerKey =>
    ∀ profile ∈ tables.agentProfiles, tables.isLegacy floats projectId providerKey profile = true →
      tables.Disabled profile.id
  | .archiveProjectProfile _ _ _ | .restoreProjectProfile _ _ | .assignProjectBinding _ _
  | .refreshDiscoveredBinding _ _ _ => True

end AgentTables

/-- Any tables in which no archived profile has an enabled endpoint. -/
def agentMachine (floats : FloatText) : Machine AgentTables AgentTables.Action where
  start := AgentTables.EndpointsLive
  step tables := tables.step floats

variable {now : ℕ}

section

variable {tables next : AgentTables} {sha256 : Sha256} {uuids : UuidParser} {profileId : Uuid}
  {before after : ProfileTables} {projectId : Uuid} {versionId : Uuid} {named : AgentProfile → Bool}

theorem AgentTables.EndpointsLive.leads (live : tables.EndpointsLive) {route : EndpointRouteRow}
    (leads : tables.Leads route) : tables.IsLive route.profileId := by
  obtain ⟨endpoint, mem, enabled, isProfile, -⟩ := leads
  rw [isProfile]
  exact live endpoint mem enabled

theorem ProfileTables.resolveProfileRoute_live {model kind : String} {key : Option String}
    {versionId : Option Uuid} {route : ProfileRoute}
    (resolves : tables.resolveProfileRoute sha256 uuids projectId model kind key versionId = .ok route) :
    ∃ profile ∈ tables.agentProfiles, profile.id = route.profileId ∧ profile.archivedAt = none := by
  simp only [resolveProfileRoute, bind_ok, okOr_ok, pure_ok] at resolves
  obtain ⟨profile, named, _, -, _, -, _, -, rfl⟩ := resolves
  have found : profile ∈ tables.agentProfiles ∧ profile.isLiveIn projectId = true := by
    rw [namedProfile] at named
    split at named
    · obtain ⟨mem, passes⟩ := Rows.mem_of_find? named
      exact ⟨mem, (Bool.and_eq_true _ _ ▸ passes).2⟩
    · obtain ⟨mem, passes⟩ := Rows.mem_of_find? named
      exact ⟨mem, (Bool.and_eq_true _ _ ▸ passes).2⟩
  obtain ⟨mem, isLive⟩ := found
  simp only [AgentProfile.isLiveIn, Bool.and_eq_true, Option.isNone_iff_eq_none] at isLive
  exact ⟨profile, mem, rfl, isLive.2⟩

theorem AgentTables.EndpointsLive.idle (live : tables.EndpointsLive) : tables.ArchivedIdle sha256 uuids := by
  intro profileId routes
  cases routes with
  | endpoint _ _ resolves isProfile => exact isProfile ▸ live.leads (leads_of_resolveEndpointRoute resolves)
  | projectEndpoint _ _ _ resolves isProfile =>
    exact isProfile ▸ live.leads (leads_of_resolveProjectEndpointRoute resolves)
  | model _ _ _ resolves isProfile => exact isProfile ▸ live.leads (leads_of_resolveProjectModelRoute resolves)
  | capability _ _ _ _ _ _ resolves isProfile =>
    obtain ⟨stored, isStored, sameId, unarchived⟩ := ProfileTables.resolveProfileRoute_live resolves
    intro profile mem isRouted
    rw [profile_unique mem isStored (isRouted.trans (isProfile.symm.trans sameId.symm))]
    exact unarchived

/-! ## What edits keep -/

def ArchivesNone (tables next : Rows AgentProfile) : Prop :=
  ∀ profile ∈ next, ∃ earlier ∈ tables, earlier.id = profile.id ∧ (earlier.archivedAt = none → profile.archivedAt = none)

theorem ArchivesNone.refl (rows : Rows AgentProfile) : ArchivesNone rows rows :=
  fun profile mem => ⟨profile, mem, rfl, id⟩

theorem ArchivesNone.trans {first second third : Rows AgentProfile} (earlier : ArchivesNone first second)
    (later : ArchivesNone second third) : ArchivesNone first third := by
  intro profile mem
  obtain ⟨middle, isMiddle, sameMiddle, lives⟩ := later profile mem
  obtain ⟨stored, isStored, same, stays⟩ := earlier middle isMiddle
  exact ⟨stored, isStored, same.trans sameMiddle, lives ∘ stays⟩

theorem ArchivesNone.activate {tables : ProfileTables} :
    ArchivesNone tables.agentProfiles (tables.activate named versionId).agentProfiles := by
  intro profile mem
  obtain ⟨earlier, stored, rfl⟩ := mem_activate.mp mem
  refine ⟨earlier, stored, ?_⟩
  rw [Rows.updated]
  split
  · exact ⟨rfl, id⟩
  · exact ⟨rfl, id⟩

theorem ArchivesNone.isLive (archives : ArchivesNone tables.agentProfiles next.agentProfiles)
    (live : tables.IsLive profileId) : next.IsLive profileId := by
  intro profile mem isProfile
  obtain ⟨earlier, stored, same, stays⟩ := archives profile mem
  exact stays (live earlier stored (same.trans isProfile))

theorem AgentTables.EndpointsLive.frame (live : tables.EndpointsLive)
    (archives : ArchivesNone tables.agentProfiles next.agentProfiles)
    (endpoints : next.agentEndpoints = tables.agentEndpoints) : next.EndpointsLive := by
  intro endpoint mem enabled
  rw [endpoints] at mem
  exact archives.isLive (live endpoint mem enabled)

theorem ArchivesNone.insertRollout {allocation : Uuid × ℤ}
    (inserts : before.insertRollout now profileId allocation = .ok after) :
    ArchivesNone before.agentProfiles after.agentProfiles := by
  obtain ⟨rows, _, checks⟩ := bind_ok.mp inserts
  obtain ⟨_, same⟩ := check_bind_ok.mp checks
  cases same
  exact .refl _

theorem ArchivesNone.createVersion {drawn : ℕ → Uuid} {input : NewProfileVersion}
    {created : AgentProfileVersion}
    (creates : before.createProfileVersion now profileId versionId drawn input = .ok (created, after)) :
    ArchivesNone before.agentProfiles after.agentProfiles := by
  obtain ⟨profile, _, rest⟩ := bind_ok.mp creates
  obtain ⟨versions, _, rest⟩ := bind_ok.mp rest
  obtain ⟨filled, fills, rest⟩ := bind_ok.mp rest
  obtain ⟨activated, activates, same⟩ := bind_ok.mp rest
  cases same
  obtain ⟨capabilities, rfl⟩ := insertCapabilities_ok fills
  rw [ProfileTables.activateFirst] at activates
  split at activates
  · have inserted := ArchivesNone.insertRollout activates
    exact ArchivesNone.activate.trans inserted
  · cases activates
    exact .refl _

theorem ArchivesNone.writeRollout {allocations : List (Uuid × ℤ)}
    (writes : before.writeProfileRollout now profileId allocations versionId = .ok after) :
    ArchivesNone before.agentProfiles after.agentProfiles := by
  obtain ⟨written, inserts, rest⟩ := bind_ok.mp writes
  obtain ⟨_, same⟩ := check_bind_ok.mp rest
  cases same
  obtain ⟨⟨rows, rfl, -⟩, -⟩ := insertRollouts_ok inserts
  exact .activate

section

variable (live : tables.EndpointsLive)
include live

theorem AgentTables.EndpointsLive.refresh {draws : RefreshDraws}
    {agent : DiscoveredAgent} : (tables.refreshDiscoveredBinding now draws agent).EndpointsLive := by
  rw [refreshDiscoveredBinding]
  cases renames : tables.refreshDiscoveredBindingRecord agent.bindingId agent.gatewayId agent.agentName with
  | error => exact live
  | ok renamed =>
    simp only [refreshDiscoveredBindingRecord, bind_ok, okOr_ok, pure_ok] at renames
    obtain ⟨rows, -, rfl⟩ := renames
    dsimp only
    split
    next profileId version _ =>
      rw [publish]
      split
      · exact live
      next created next creates =>
        have archives := ArchivesNone.createVersion creates
        dsimp only
        split
        · exact live.frame archives rfl
        next written writes =>
          obtain ⟨versionId, -, writes⟩ := bind_ok.mp writes
          exact live.frame (archives.trans (.writeRollout writes)) rfl
    · exact live

theorem AgentTables.EndpointsLive.createEndpoint {input : NewEndpoint}
    (keeps : input.enabled = true → tables.IsLive input.profileId)
    (creates : tables.createEndpoint now input = .ok next) : next.EndpointsLive := by
  simp only [AgentTables.createEndpoint, bind_ok, okOr_ok, pure_ok] at creates
  obtain ⟨_, _, rows, inserts, _, _, _, _, rfl⟩ := creates
  intro endpoint mem enabled
  cases (Rows.mem_insert? inserts).mp mem with
  | inl earlier => exact live endpoint earlier enabled
  | inr isNew =>
    subst isNew
    exact keeps enabled

theorem AgentTables.EndpointsLive.updateEndpoint {id : Uuid} {patch : EndpointPatch}
    (keeps : ∀ endpoint ∈ tables.agentEndpoints, endpoint.id = id → (patch.apply endpoint).enabled = true →
      tables.IsLive (patch.apply endpoint).profileId)
    (updates : tables.updateEndpoint id patch = .ok next) : next.EndpointsLive := by
  simp only [AgentTables.updateEndpoint, bind_ok, okOr_ok, pure_ok] at updates
  obtain ⟨_, _, _, _, rows, changed, _, _, _, _, rfl⟩ := updates
  intro endpoint mem enabled
  obtain ⟨earlier, stored, rfl⟩ := (Rows.mem_update? changed).mp mem
  rw [Rows.updated] at enabled ⊢
  split at enabled
  next named =>
    rw [if_pos named]
    exact keeps earlier stored (beq_iff_eq.mp named) enabled
  next others =>
    rw [if_neg others]
    exact live earlier stored enabled

theorem AgentTables.EndpointsLive.archive (profiles : next.agentProfiles = tables.archive now named)
    (endpoints : ∀ endpoint ∈ next.agentEndpoints, endpoint.enabled = true → endpoint ∈ tables.agentEndpoints)
    (disabled : ∀ profile ∈ tables.agentProfiles, named profile = true → next.Disabled profile.id) : next.EndpointsLive := by
  intro endpoint mem enabled profile isStored isProfile
  rw [profiles, AgentTables.archive, Rows.mem_update] at isStored
  obtain ⟨earlier, stored, rfl⟩ := isStored
  rw [Rows.updated] at isProfile ⊢
  split at isProfile
  next archived =>
    have off := disabled earlier stored archived endpoint mem isProfile.symm
    rw [off] at enabled
    cases enabled
  next others =>
    rw [if_neg others]
    exact live endpoint (endpoints endpoint mem enabled) enabled earlier stored isProfile

theorem AgentTables.EndpointsLive.restore
    (restores : tables.restoreProjectProfile projectId profileId = .ok next) : next.EndpointsLive := by
  simp only [restoreProjectProfile, bind_ok, pure_ok] at restores
  obtain ⟨_, _, rfl⟩ := restores
  refine live.frame ?_ rfl
  intro profile mem
  rw [Rows.mem_update] at mem
  obtain ⟨earlier, stored, rfl⟩ := mem
  refine ⟨earlier, stored, ?_⟩
  rw [Rows.updated]
  split
  · exact ⟨rfl, fun _ => rfl⟩
  · exact ⟨rfl, id⟩

theorem AgentTables.EndpointsLive.archiveProject
    (archives : tables.archiveProjectProfile now projectId profileId = .ok next) : next.EndpointsLive := by
  simp only [archiveProjectProfile, bind_ok, pure_ok] at archives
  obtain ⟨_, _, rfl⟩ := archives
  apply live.archive rfl
  · intro endpoint mem enabled
    rw [Rows.mem_update] at mem
    obtain ⟨earlier, stored, rfl⟩ := mem
    rw [Rows.updated] at enabled ⊢
    split at enabled
    · cases enabled
    next others =>
      rw [if_neg others]
      exact stored
  · intro profile _ isProfile endpoint mem ofProfile
    simp only [Bool.and_eq_true, beq_iff_eq] at isProfile
    rw [Rows.mem_update] at mem
    obtain ⟨earlier, _, rfl⟩ := mem
    rw [Rows.updated] at ofProfile ⊢
    split at ofProfile
    next named => rw [if_pos named]
    next others => exact absurd (beq_iff_eq.mpr (ofProfile.trans isProfile.1)) others

theorem AgentTables.EndpointsLive.orSame {result : Except ApiError AgentTables}
    (succeeds : ∀ next, result = .ok next → next.EndpointsLive) : (tables.orSame result).EndpointsLive := by
  cases result with
  | error => exact live
  | ok next => exact succeeds next rfl

theorem AgentTables.EndpointsLive.step {floats : FloatText} {action : AgentTables.Action}
    (keeps : tables.KeepsIdle floats action) (steps : tables.step floats action = some next) : next.EndpointsLive := by
  cases action with
  | createEndpoint now input =>
    cases steps
    exact live.orSame fun next creates => live.createEndpoint keeps creates
  | updateEndpoint id patch =>
    cases steps
    exact live.orSame fun next updates => live.updateEndpoint keeps updates
  | archiveProjectProfile now projectId profileId =>
    cases steps
    exact live.orSame fun next archives => live.archiveProject archives
  | deleteProfile now id =>
    cases steps
    apply live.orSame
    intro next deletes
    simp only [AgentTables.deleteProfile, bind_ok, pure_ok] at deletes
    obtain ⟨_, _, rfl⟩ := deletes
    refine live.archive rfl (fun _ mem _ => mem) fun profile _ named => ?_
    rw [beq_iff_eq.mp named]
    exact keeps
  | archiveLegacyDiscoveredProvider now projectId providerKey =>
    cases steps
    rw [AgentTables.archiveLegacyDiscoveredProvider]
    split
    · exact live.archive rfl (fun _ mem _ => mem) keeps
    · exact live
  | restoreProjectProfile projectId profileId =>
    cases steps
    exact live.orSame fun next restores => live.restore restores
  | assignProjectBinding projectId bindingId =>
    cases steps
    apply live.orSame
    intro next assigns
    simp only [AgentTables.assignProjectBinding, bind_ok, pure_ok] at assigns
    obtain ⟨_, _, rfl⟩ := assigns
    exact live.frame (.refl _) rfl
  | refreshDiscoveredBinding now draws agent =>
    cases steps
    exact live.refresh

end

end

/-- In every run that enables endpoints of live profiles only, and archives profiles with disabled endpoints only, no
route leads to an archived profile. -/
theorem archived_profiles_idle {floats : FloatText} (sha256 : Sha256) (uuids : UuidParser) {tables : AgentTables}
    (reachable : (agentMachine floats).Reachable (fun tables => tables.KeepsIdle floats) tables) :
    tables.ArchivedIdle sha256 uuids := by
  have live : tables.EndpointsLive := by
    apply reachable.invariant
    · intro tables starts
      exact starts
    · intro tables action next live keeps steps
      exact live.step keeps steps
  exact live.idle

/-! ## A profile that is archived with its endpoints, and one without -/

instance (tables : AgentTables) (profileId : Uuid) : Decidable (tables.IsLive profileId) :=
  inferInstanceAs (Decidable (∀ profile ∈ tables.agentProfiles, profile.id = profileId → profile.archivedAt = none))

instance (tables : AgentTables) (profileId : Uuid) : Decidable (tables.Disabled profileId) :=
  inferInstanceAs (Decidable (∀ endpoint ∈ tables.agentEndpoints, _))

instance (floats : FloatText) (tables : AgentTables) (action : AgentTables.Action) :
    Decidable (tables.KeepsIdle floats action) := by
  cases action <;> unfold AgentTables.KeepsIdle <;> infer_instance

def innProject : Uuid := ⟨"0190f2c4-7b1e-7c3a-9d52-1f6a0e8b4e29", by decide⟩

def innKeeper : Uuid := ⟨"0190f2c4-7b1e-7c3a-9d52-1f6a0e8b4e30", by decide⟩

def innBinding : Uuid := ⟨"0190f2c4-7b1e-7c3a-9d52-1f6a0e8b4e31", by decide⟩

def innEndpoint : Uuid := ⟨"0190f2c4-7b1e-7c3a-9d52-1f6a0e8b4e32", by decide⟩

def innTables : AgentTables where
  agentProfiles := .singleton ⟨innKeeper, some innProject, "inn-keeper", "Inn keeper", none, none, none⟩
  agentProfileVersions := .empty
  agentProfileCapabilities := .empty
  agentProfileRollouts := .empty
  projectRuntimeReleases := .empty
  runtimeDeployments := .empty
  projects := .singleton ⟨innProject, "app", none, "inn", "Inn", none, "gateway-1", true, 0⟩
  agentBindings := .singleton ⟨⟨innBinding⟩, innKeeper, "openclaw", "gateway-1", "keeper", .object []⟩
  projectBindings := .empty
  agentEndpoints := .empty
  providerConnections := .empty

theorem innTables_starts (floats : FloatText) : (agentMachine floats).start innTables := by
  intro endpoint mem
  exact absurd mem Rows.notMem_empty

def createInnEndpoint : AgentTables.Action :=
  .createEndpoint 0 ⟨innEndpoint, "keeper", "Keeper", innKeeper, innBinding, true, 30000⟩

def AgentTables.profileOf (tables : AgentTables) (idOrSlug : String) : Option Uuid :=
  (tables.resolveEndpointRoute ⟨fun _ => none⟩ idOrSlug).toOption.map fun route => route.profileId

/-- The endpoint leads to its profile until the profile is archived in its project. -/
theorem archived_profiles_idle_inn :
    ∃ tables, (agentMachine fun _ => "0.5").Reachable (fun tables => tables.KeepsIdle fun _ => "0.5") tables ∧
      tables.ArchivedIdle id ⟨fun _ => none⟩ ∧ tables.agentProfiles.count (fun row => row.archivedAt.isSome) = 1 ∧
        tables.profileOf "keeper" = none := by
  obtain ⟨tables, reachable, passes⟩ := (agentMachine fun _ => "0.5").reachable_of_execute
    (fun tables => tables.KeepsIdle fun _ => "0.5") (innTables_starts _)
    [createInnEndpoint, .assignProjectBinding innProject innBinding, .archiveProjectProfile 1 innProject innKeeper]
    (fun tables => decide (tables.agentProfiles.count (fun row => row.archivedAt.isSome) = 1 ∧
      tables.profileOf "keeper" = none)) (by decide +kernel)
  exact ⟨tables, reachable, archived_profiles_idle id ⟨fun _ => none⟩ reachable, of_decide_eq_true passes⟩

/-- A profile that is deleted keeps its enabled endpoint, which still leads to it. -/
theorem deleted_profile_routed :
    ¬∀ (floats : FloatText) (sha256 : Sha256) (uuids : UuidParser) (tables : AgentTables),
      (agentMachine floats).Reachable Machine.always tables → tables.ArchivedIdle sha256 uuids := by
  intro promised
  obtain ⟨tables, reachable, passes⟩ := (agentMachine fun _ => "0.5").reachable_of_execute Machine.always
    (innTables_starts _) [createInnEndpoint, .deleteProfile 1 innKeeper]
    (fun tables => decide (tables.profileOf "keeper" = some innKeeper ∧ ¬tables.IsLive innKeeper)) (by decide +kernel)
  obtain ⟨routed, archived⟩ := of_decide_eq_true passes
  obtain ⟨route, isRoute, isProfile⟩ := Option.map_eq_some_iff.mp routed
  have resolves : tables.resolveEndpointRoute ⟨fun _ => none⟩ "keeper" = .ok route := by
    cases resolved : tables.resolveEndpointRoute ⟨fun _ => none⟩ "keeper" with
    | error => simp [resolved, Except.toOption] at isRoute
    | ok found =>
      rw [resolved] at isRoute
      cases isRoute
      rfl
  exact archived (promised _ id _ tables reachable innKeeper (.endpoint "keeper" route resolves isProfile))

end Vifu.Server
