import Vifu.Server.Api.Access
import Vifu.Server.Profiles.Discovery

/-!
# Slugs that read as ids

A route is asked for by an id or by a slug.  The name is tried as an id first, and some slugs that are accepted are
spelled like ids: they never lead to the profile that has them.
-/

namespace Vifu.Server

open Foundation
open Vifu.Gateway

namespace ProfileTables

variable (tables : ProfileTables)

/-- What `resolve_profile_route` does once it has its profile. -/
def routeOf (sha256 : Sha256) (profile : AgentProfile) (capabilityKind : String) (selectionKey : Option String)
    (versionId : Option Uuid) : Except ApiError ProfileRoute := do
  let chosen ← tables.chosenVersion sha256 profile.id selectionKey versionId
  let version ← okOr .notFound (tables.liveVersion profile.id chosen)
  let capability ← okOr .notFound (tables.capabilityOf version.id capabilityKind)
  return profileRoute profile version capability

def Offers (profile : AgentProfile) (capabilityKind : String) : Prop :=
  ∃ versionId ∈ profile.activeVersionId, ∃ version, tables.liveVersion profile.id versionId = some version ∧
    (tables.capabilityOf version.id capabilityKind).isSome = true

/-- Whatever selects the version, a request by the slug is one for the profile. -/
def ReachedBySlug (sha256 : Sha256) (uuids : UuidParser) (projectId : Uuid) (profile : AgentProfile)
    (capabilityKind : String) : Prop :=
  ∀ (selectionKey : Option String) (versionId : Option Uuid),
    tables.resolveProfileRoute sha256 uuids projectId profile.slug capabilityKind selectionKey versionId =
      tables.routeOf sha256 profile capabilityKind selectionKey versionId

variable {tables} {sha256 : Sha256} {uuids : UuidParser} {projectId : Uuid} {profile : AgentProfile}
  {capabilityKind model : String}

theorem resolveProfileRoute_of_named (named : tables.namedProfile uuids projectId model = some profile)
    (selectionKey : Option String) (versionId : Option Uuid) :
    tables.resolveProfileRoute sha256 uuids projectId model capabilityKind selectionKey versionId =
      tables.routeOf sha256 profile capabilityKind selectionKey versionId := by
  rw [resolveProfileRoute, named]
  rfl

theorem routeOf_profileId {selectionKey : Option String} {versionId : Option Uuid} {route : ProfileRoute}
    (routed : tables.routeOf sha256 profile capabilityKind selectionKey versionId = .ok route) :
    route.profileId = profile.id := by
  obtain ⟨_, _, rest⟩ := bind_ok.mp routed
  obtain ⟨_, _, rest⟩ := bind_ok.mp rest
  obtain ⟨_, _, same⟩ := bind_ok.mp rest
  cases same
  rfl

theorem Offers.route (offers : tables.Offers profile capabilityKind) (sha256 : Sha256) :
    ∃ versionId route, tables.routeOf sha256 profile capabilityKind none (some versionId) = .ok route := by
  obtain ⟨versionId, _, version, live, capable⟩ := offers
  obtain ⟨capability, found⟩ := Option.isSome_iff_exists.mp capable
  have known : ∃ row, tables.getProfileVersion profile.id versionId = .ok row := by
    obtain ⟨mem, matched⟩ := Rows.mem_of_find? live
    simp only [Bool.and_eq_true, beq_iff_eq] at matched
    have some : (tables.agentProfileVersions.find? fun row => row.id == versionId && row.profileId == profile.id).isSome =
        true := by
      rw [Rows.find?_isSome]
      exact ⟨version, mem, by simp [matched.1.1, matched.1.2]⟩
    obtain ⟨row, isRow⟩ := Option.isSome_iff_exists.mp some
    exact ⟨row, by rw [getProfileVersion, isRow]; rfl⟩
  obtain ⟨row, isRow⟩ := known
  refine ⟨versionId, profileRoute profile version capability, ?_⟩
  have chosen : tables.chosenVersion sha256 profile.id none (some versionId) = .ok versionId :=
    bind_ok.mpr ⟨row, isRow, rfl⟩
  apply bind_ok.mpr ⟨versionId, chosen, ?_⟩
  apply bind_ok.mpr ⟨version, okOr_ok.mpr live, ?_⟩
  exact bind_ok.mpr ⟨capability, okOr_ok.mpr found, rfl⟩

theorem find_slug (mem : profile ∈ tables.agentProfiles) (live : profile.isLiveIn projectId = true) :
    (tables.agentProfiles.find? fun row => row.slug == profile.slug && row.isLiveIn projectId) = some profile := by
  apply (Rows.find?_eq_some ?_).mpr
  · exact ⟨mem, by simp [live]⟩
  · intro other first second
    simp only [AgentProfile.isLiveIn, Bool.and_eq_true, beq_iff_eq] at first second
    simp [clash, Keyed.conflicts, Keyed.key, first.2.1, second.2.1, second.1]

theorem find_id {id : Uuid} (mem : profile ∈ tables.agentProfiles) (live : profile.isLiveIn projectId = true)
    (same : profile.id = id) :
    (tables.agentProfiles.find? fun row => row.id == id && row.isLiveIn projectId) = some profile := by
  apply (Rows.find?_eq_some ?_).mpr
  · exact ⟨mem, by simp [live, same]⟩
  · intro other first second
    simp only [Bool.and_eq_true, beq_iff_eq] at first second
    simp [clash, Keyed.conflicts, Keyed.key, first.1, second.1]

end ProfileTables

open ProfileTables

/-- A profile that is offered under an accepted slug is reached by it if and only if the slug reads as no id, or as
    the profile's own. -/
theorem slug_reaches_iff (tables : ProfileTables) (sha256 : Sha256) (uuids : UuidParser) (projectId : Uuid)
    (profile : AgentProfile) (capabilityKind : String) (member : profile ∈ tables.agentProfiles)
    (live : profile.isLiveIn projectId = true) (_accepted : validateSlug profile.slug = true)
    (offers : tables.Offers profile capabilityKind) :
    tables.ReachedBySlug sha256 uuids projectId profile capabilityKind ↔
      ∀ id, uuids.parse profile.slug = some id → id = profile.id := by
  cases reads : uuids.parse profile.slug with
  | none =>
    have named : tables.namedProfile uuids projectId profile.slug = some profile := by
      rw [namedProfile, reads]
      exact find_slug member live
    exact iff_of_true (resolveProfileRoute_of_named named) nofun
  | some id =>
    constructor
    · intro reached other same
      cases same
      obtain ⟨versionId, route, routed⟩ := offers.route sha256
      have resolved := (reached none (some versionId)).trans routed
      -- the name was read as an id, so the route leads to the profile with that id
      obtain ⟨found, named, rest⟩ := bind_ok.mp resolved
      rw [okOr_ok, namedProfile, reads] at named
      have isFound := (Rows.mem_of_find? named).2
      simp only [Bool.and_eq_true, beq_iff_eq] at isFound
      rw [← isFound.1, ← routeOf_profileId routed]
      exact (routeOf_profileId rest).symm
    · intro own
      have named : tables.namedProfile uuids projectId profile.slug = some profile := by
        rw [namedProfile, reads]
        exact find_id member live (own id rfl).symm
      exact resolveProfileRoute_of_named named

/-- The greeter is reached by its slug, which is no id. -/
theorem slug_reaches_greeter : (greeterTables boundConfig none).ReachedBySlug greeterDigest noUuids townGuideProject
    greeterProfile "chat" :=
  (slug_reaches_iff (greeterTables boundConfig none).toProfileTables greeterDigest noUuids townGuideProject greeterProfile
    "chat" (List.mem_singleton.mpr rfl) (by decide) (by decide +kernel)
    ⟨townGuideFirst, rfl, greeterVersion, rfl, rfl⟩).mpr nofun

def printedUuids : UuidParser where
  parse text :=
    if canonical : text.length = 36 ∧
        text.toList.zipIdx.all (fun place => uuidCharacter place.2 place.1) = true then some ⟨text, canonical⟩
    else none

/-- A greeter whose slug is spelled like an id. -/
def numberedProfile : AgentProfile := { greeterProfile with slug := "0190f2c4-7b1e-7c3a-9d52-1f6a0e8b4e38" }

def numberedTables : ProfileTables :=
  { (greeterTables boundConfig none).toProfileTables with agentProfiles := .singleton numberedProfile }

/-- The slug is accepted, and the profile is not found by it. -/
theorem numbered_slug_unreachable : ¬∀ (tables : ProfileTables) (sha256 : Sha256) (uuids : UuidParser) (projectId : Uuid)
    (profile : AgentProfile) (capabilityKind : String), profile ∈ tables.agentProfiles →
      profile.isLiveIn projectId = true → validateSlug profile.slug = true → tables.Offers profile capabilityKind →
        tables.ReachedBySlug sha256 uuids projectId profile capabilityKind := by
  intro reaches
  have member : numberedProfile ∈ numberedTables.agentProfiles := List.mem_singleton.mpr rfl
  have offers : numberedTables.Offers numberedProfile "chat" := ⟨townGuideFirst, rfl, greeterVersion, rfl, rfl⟩
  have reached := reaches numberedTables greeterDigest printedUuids townGuideProject numberedProfile "chat" member
    (by decide) (by decide +kernel) offers
  have missing : (numberedTables.resolveProfileRoute greeterDigest printedUuids townGuideProject numberedProfile.slug
      "chat" none (some townGuideFirst)).isOk = false := by
    decide +kernel
  rw [reached none (some townGuideFirst)] at missing
  revert missing
  decide +kernel

end Vifu.Server
