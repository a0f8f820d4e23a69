import Vifu.Server.Settings.Updates

/-!
# Provider edits survive reports

The runs of one provider that a gateway has reported: users edit it, and gateways report it and other providers.  A run
remembers what the edits have last given.
-/

namespace Vifu.Server

open Foundation
open Vifu.Gateway (Uuid AgentDescriptor)
open Vifu.Runtime

structure ProviderEdit where
  name : Option String
  settings : Option Value
  resources : Option Value
  deriving DecidableEq

def ProviderEdit.fields (edit : ProviderEdit) : List (String × Value) :=
  presentFields [("resources", edit.resources), ("settings", edit.settings)]

def ProviderEdit.input (edit : ProviderEdit) : UpdateProjectProvider where
  name := edit.name
  config := if edit.fields = [] then none else some (.object edit.fields)

structure EditedProject where
  project : ProjectConfiguration
  settings : Option Value
  resources : Option Value

inductive SettingsAction where
  | edit (context : UpdateContext) (edit : ProviderEdit)
  | declare (gatewayId : String) (provider : Value)
  | discover (gatewayId : String) (unused : Bool) (agent : AgentDescriptor)

structure ReportedProvider where
  gatewayId : String
  key : String

def ReportedProvider.scopedKey (sha256 : Sha256) (provider : ReportedProvider) : String :=
  scopedProviderKey sha256 provider.gatewayId provider.key

namespace EditedProject

variable (codec : ManifestCodec) (sha256 : Sha256) (provider : ReportedProvider) (state : EditedProject)

def update (context : UpdateContext) (edit : ProviderEdit) : Option EditedProject :=
  (state.project.connections.lookup (provider.scopedKey sha256)).bind fun current =>
    if current.sourceKind = .custom ∧ current.providerType = "vifu-runtime" then
      match updateRuntimeProvider codec context (provider.scopedKey sha256) current edit.input state.project with
      | (.ok (), project) => some ⟨project, edit.settings.or state.settings, edit.resources.or state.resources⟩
      | (.error _, _) => none
    else none

def step : SettingsAction → Option EditedProject
  | .edit context edit => state.update codec sha256 provider context edit
  | .declare gatewayId reported => some { state with project := declareProvider sha256 gatewayId reported state.project }
  | .discover gatewayId unused agent =>
    some { state with project := discoverProvider codec sha256 gatewayId unused agent state.project }

end EditedProject

namespace ProjectConfiguration

variable (project : ProjectConfiguration)

structure Releases (release : SettingsRelease) : Prop where
  deployment : ∃ primary, project.primary = some primary ∧ primary.configSyncEnabled = true ∧
    primary.activeReleaseVersion = some release.version
  release : project.getRelease release.version = .ok release

def ReleasesProvider (key : String) (provider : ProviderRequirement) : Prop :=
  ∃ release, project.Releases release ∧ release.manifest.providers.find? (fun listed => listed.id == key) = some provider

end ProjectConfiguration

/-- The settings and the resources of the provider in the active release are those that an edit gave last. -/
def EditedProject.EditsInForce (key : String) (state : EditedProject) : Prop :=
  ∃ provider, state.project.ReleasesProvider key provider ∧
    (∀ settings, state.settings = some settings → provider.settings = settings) ∧
      ∀ resources, state.resources = some resources → readResources resources = some provider.resources

structure StoredFor (key : String) (config : Value) : Prop where
  fields : ∃ fields, config = .object fields ∧ Sorted fields
  key : config.get? "runtimeProviderKey" = some (.string key)

def ProjectConfiguration.Hashed (codec : ManifestCodec) (project : ProjectConfiguration) : Prop :=
  ∀ release ∈ project.releases, release.manifest.contentHash codec = .ok release.contentHash

/-- A project with a connection to the provider that a gateway has reported, and with the provider in the active
release of its primary deployment, before any edit. -/
structure ProjectConfiguration.Discovered (codec : ManifestCodec) (sha256 : Sha256) (provider : ReportedProvider)
    (project : ProjectConfiguration) : Prop where
  hashed : project.Hashed codec
  connection : ∀ connection, project.connections.lookup (provider.scopedKey sha256) = some connection →
    StoredFor provider.key connection.config
  released : ∃ requirement, project.ReleasesProvider provider.key requirement

def settingsMachine (codec : ManifestCodec) (sha256 : Sha256) (provider : ReportedProvider) :
    Machine EditedProject SettingsAction where
  start state := state.project.Discovered codec sha256 provider ∧ state.settings = none ∧ state.resources = none
  step state action := state.step codec sha256 provider action

/-- What an edit does not give, and an earlier one gave, still stands in the connection. -/
def EditedProject.Standing (sha256 : Sha256) (provider : ReportedProvider) (state : EditedProject) :
    SettingsAction → Prop
  | .edit _ edit => ∀ connection ∈ state.project.connections.lookup (provider.scopedKey sha256),
      (edit.settings = none → ∀ settings ∈ state.settings, connection.config.get? "settings" = some settings) ∧
        (edit.resources = none → ∀ resources ∈ state.resources, connection.config.get? "resources" = some resources)
  | .declare .. | .discover .. => True

instance decidableStanding (sha256 : Sha256) (provider : ReportedProvider) :
    ∀ state action, Decidable (EditedProject.Standing sha256 provider state action) := by
  intro state action
  cases action <;> unfold EditedProject.Standing <;> infer_instance

def Collisionless (codec : ManifestCodec) : Prop :=
  ∀ first second hash, RuntimeManifest.contentHash codec first = .ok hash →
    RuntimeManifest.contentHash codec second = .ok hash → first = second

/-! ## Configurations -/

theorem getField_mergeFields {overrides : List (String × Value)} (distinct : Distinct overrides)
    (base : List (String × Value)) (key : String) :
    getField key (overrides.foldl (fun merged field => insertField field.1 field.2 merged) base) =
      (getField key overrides).or (getField key base) := by
  induction overrides generalizing base with
  | nil => simp [getField]
  | cons field fields ih =>
    rw [Distinct, List.map_cons, List.nodup_cons] at distinct
    rw [List.foldl_cons, ih distinct.2]
    by_cases isKey : key = field.1
    · -- no later field has the key
      have absent : getField key fields = none := by
        rw [getField, List.lookup_eq_none_iff]
        intro later mem
        simp only [bne_iff_ne]
        intro same
        exact distinct.1 (isKey ▸ same ▸ List.mem_map_of_mem mem)
      have present : getField field.1 (field :: fields) = some field.2 := by
        obtain ⟨name, value⟩ := field
        simp [getField]
      rw [absent, isKey, getField_insertField, present]
      rfl
    · have skipped : getField key (field :: fields) = getField key fields := by
        obtain ⟨name, value⟩ := field
        simp [getField, List.lookup_cons, beq_eq_false_iff_ne.mpr isKey]
      rw [getField_insertField_of_ne isKey, skipped]

theorem mergeJsonObjects_ok {base overrides merged : Value} (merges : mergeJsonObjects base overrides = .ok merged) :
    ∃ first second, base = .object first ∧ overrides = .object second ∧
      merged = .object (second.foldl (fun merged field => insertField field.1 field.2 merged) first) := by
  unfold mergeJsonObjects at merges
  split at merges
  next first second =>
    cases merges
    exact ⟨first, second, rfl, rfl, rfl⟩
  · cases merges

variable {key : String} {value : Value}

theorem get?_of_merge {base config merged : Value}
    (stored : ∃ fields, config = .object fields ∧ Sorted fields) (merges : mergeJsonObjects base config = .ok merged)
    (holds : config.get? key = some value) : merged.get? key = some value := by
  obtain ⟨fields, rfl, sorted⟩ := stored
  obtain ⟨first, second, -, same, rfl⟩ := mergeJsonObjects_ok merges
  cases same
  rw [Value.get?] at holds ⊢
  rw [getField_mergeFields sorted.distinct, holds]
  rfl

variable {connection : StoredConnection} {effective : EffectiveConnection} {catalogue : Catalogue}
  {providerKey : String} {gatewayId providerKey : String} {project : ProjectConfiguration}

theorem get?_effective (stored : ∃ fields, connection.config = .object fields ∧ Sorted fields)
    (completes : effectiveConnection catalogue gatewayId (providerKey, connection) = .ok effective)
    (holds : connection.config.get? key = some value) : effective.config.get? key = some value := by
  simp only [effectiveConnection] at completes
  split at completes
  · cases completes
    exact holds
  · split at completes
    · cases completes
      exact holds
    · cases completes
    next source _ =>
      obtain ⟨config, merges, same⟩ := bind_ok.mp completes
      cases same
      exact get?_of_merge stored merges holds

theorem providerKey_effective {gatewayId : String} {row : String × StoredConnection}
    (completes : effectiveConnection catalogue gatewayId row = .ok effective) : effective.providerKey = row.1 := by
  simp only [effectiveConnection] at completes
  split at completes
  · cases completes
    rfl
  · split at completes
    · cases completes
      rfl
    · cases completes
    · obtain ⟨config, -, same⟩ := bind_ok.mp completes
      cases same
      rfl

theorem find?_effectiveConnections {connections : List EffectiveConnection}
    (all : project.effectiveConnections catalogue = .ok connections)
    (stored : project.connections.lookup providerKey = some connection)
    (completes : effectiveConnection catalogue project.gatewayId (providerKey, connection) = .ok effective) :
    connections.find? (fun connection => connection.providerKey == providerKey) = some effective := by
  cases found : connections.find? fun connection => connection.providerKey == providerKey with
  | none =>
    have mem : (providerKey, connection) ∈ project.connections.entries.map fun entry => (entry.1, entry.2) :=
      List.mem_map.mpr ⟨⟨providerKey, connection⟩, AList.mem_lookup_iff.mp stored, rfl⟩
    obtain ⟨own, listed, isOwn⟩ := forall_of_mapM_ok all mem
    have absent := List.find?_eq_none.mp found own listed
    rw [providerKey_effective isOwn] at absent
    simp at absent
  | some listed =>
    obtain ⟨row, mem, isListed⟩ := mem_of_mapM_ok all (List.mem_of_find?_eq_some found)
    obtain ⟨⟨key, other⟩, isEntry, rfl⟩ := List.mem_map.mp mem
    have keyed := List.find?_some found
    simp only [providerKey_effective isListed, beq_iff_eq] at keyed
    subst keyed
    have same := AList.mem_lookup_iff.mpr isEntry
    rw [stored, Option.mem_some_iff] at same
    subst same
    rw [completes] at isListed
    cases isListed
    rfl

/-! ## Manifests -/

def ManifestCarries (key : String) (config : Value) (manifest : RuntimeManifest) : Prop :=
  ∃ provider, manifest.providers.find? (fun listed => listed.id == key) = some provider ∧ Carries config provider

section

variable {codec : ManifestCodec} {manifest next : RuntimeManifest}
  {providers : List ProviderRequirement} {provider : ProviderRequirement}

theorem find?_of_replace {provider changed : ProviderRequirement}
    (found : providers.find? (fun listed => listed.id == key) = some provider) (same : changed.id = provider.id) :
    (replaceFirst ProviderRequirement.id changed providers).find? (fun listed => listed.id == key) = some changed := by
  have isKey : provider.id = key := by simpa using List.find?_some found
  rw [← isKey, ← same] at found ⊢
  exact find?_replaceFirst found

theorem carries_of_configure {config : Value} {result : Option RuntimeManifest}
    (found : manifest.providers.find? (fun listed => listed.id == runtimeProviderKey config providerKey) = some provider)
    (configured : configureManifest codec manifest providerKey config = .ok result) :
    ∃ next, result = some next ∧ ManifestCarries (runtimeProviderKey config providerKey) config next := by
  simp only [configureManifest, found] at configured
  obtain ⟨changed, applied, configured⟩ := bind_ok.mp configured
  obtain ⟨generation, -, same⟩ := bind_ok.mp configured
  rw [pure_ok] at same
  subst same
  obtain ⟨keepsId, carries⟩ := carries_of_apply applied
  exact ⟨_, rfl, changed, find?_of_replace found keepsId, carries⟩

variable {connections : List EffectiveConnection} {profile : LiveProfile}

theorem carries_of_compileChat {result : List ProviderRequirement × String × Option Value}
    (found : providers.find? (fun listed => listed.id == runtimeProviderKey effective.config providerKey) = some provider)
    (carries : Carries effective.config provider)
    (compiled : compileChat codec providers providerKey (some effective) = .ok result) :
    ∃ changed, result.1.find? (fun listed => listed.id == runtimeProviderKey effective.config providerKey) = some changed ∧
      Carries effective.config changed := by
  simp only [compileChat, Option.map_some, Option.getD_some, found, okOr, ok_bind] at compiled
  obtain ⟨changed, applied, compiled⟩ := bind_ok.mp compiled
  obtain ⟨generation, -, same⟩ := bind_ok.mp compiled
  rw [pure_ok] at same
  subst same
  have changes : changed.id = provider.id ∧ Carries effective.config changed := by
    unfold applyConnection at applied
    split at applied
    next connection isRuntime =>
      obtain ⟨isOwn, -⟩ := Option.filter_eq_some_iff.mp isRuntime
      cases isOwn
      exact carries_of_apply applied
    · cases applied
      exact ⟨rfl, carries⟩
  exact ⟨changed, find?_of_replace found changes.1, changes.2⟩

section

variable
  (chats : profile.capabilities.any (fun capability => capability.kind == "chat" && capability.providerKey == providerKey) = true)
include chats

theorem find?_chat :
    ∃ chat, profile.capabilities.find? (fun capability => capability.kind == "chat") = some chat ∧
      chat.providerKey = providerKey := by
  obtain ⟨chat, mem, isChat⟩ := List.any_eq_true.mp chats
  simp only [Bool.and_eq_true, beq_iff_eq] at isChat
  cases found : profile.capabilities.find? fun capability => capability.kind == "chat" with
  | none =>
    have absent := List.find?_eq_none.mp found chat mem
    simp [isChat.1] at absent
  | some first =>
    have isFirst : first.kind = "chat" := by simpa using List.find?_some found
    have same := List.inj_on_of_nodup_map profile.distinct (List.mem_of_find?_eq_some found) mem
      (isFirst.trans isChat.1.symm)
    exact ⟨first, rfl, same ▸ isChat.2⟩

theorem carries_of_compileProfile
    (found : connections.find? (fun connection => connection.providerKey == providerKey) = some effective)
    (carries : ManifestCarries (runtimeProviderKey effective.config providerKey) effective.config manifest)
    (compiled : compileProfileRuntimeManifest codec manifest profile connections = .ok next) :
    ManifestCarries (runtimeProviderKey effective.config providerKey) effective.config next := by
  obtain ⟨agent, -, compiled⟩ := bind_ok.mp compiled
  obtain ⟨⟨providers, providerOfAgent, generationOfProvider⟩, chatted, compiled⟩ := bind_ok.mp compiled
  obtain ⟨generation, -, compiled⟩ := bind_ok.mp compiled
  obtain ⟨-, same⟩ := check_bind_ok.mp compiled
  rw [pure_ok] at same
  subst same
  obtain ⟨chat, isChat, rfl⟩ := find?_chat chats
  simp only [compileCapabilities, isChat, found] at chatted
  obtain ⟨provider, isProvider, carried⟩ := carries
  exact carries_of_compileChat isProvider carried chatted

end

theorem carries_of_compileProfiles {profiles : List LiveProfile}
    (found : connections.find? (fun connection => connection.providerKey == providerKey) = some effective)
    (carries : ManifestCarries (runtimeProviderKey effective.config providerKey) effective.config manifest)
    (compiled : compileProfiles codec providerKey connections manifest profiles = .ok next) :
    ManifestCarries (runtimeProviderKey effective.config providerKey) effective.config next := by
  unfold compileProfiles at compiled
  induction profiles generalizing manifest with
  | nil =>
    cases compiled
    exact carries
  | cons profile profiles ih =>
    rw [List.foldlM_cons, bind_ok] at compiled
    obtain ⟨middle, first, rest⟩ := compiled
    refine ih ?_ rest
    split at first
    next chats =>
      rw [LiveProfile.chatsThrough, Bool.and_eq_true] at chats
      exact carries_of_compileProfile chats.2 found carries first
    · cases first
      exact carries

end

/-! ## Releases -/

variable {context : UpdateContext} {project next : ProjectConfiguration} {input : UpdateProjectProvider}
  {codec : ManifestCodec} {edit : ProviderEdit}

section

variable {requirement : ProviderRequirement}
  {primary : ReleasedDeployment} {manifest : RuntimeManifest}

theorem runtimeRelease_ok {version : ℕ} {release : RuntimeRelease}
    (created : RuntimeRelease.new codec version manifest = .ok release) :
    release.version = version ∧ release.manifest = manifest ∧ manifest.contentHash codec = .ok release.contentHash := by
  obtain ⟨-, created⟩ := check_bind_ok.mp created
  obtain ⟨-, created⟩ := check_bind_ok.mp created
  obtain ⟨contentHash, isHash, same⟩ := bind_ok.mp created
  rw [pure_ok] at same
  subst same
  exact ⟨rfl, rfl, isHash⟩

theorem releases_of_activate {release : SettingsRelease}
    (isPrimary : project.primary = some primary) (synced : primary.configSyncEnabled = true)
    (activated : project.activateConfigurationRelease primary.id release = .ok next) :
    next.Releases release ∧ next.connections = project.connections ∧ next.gatewayId = project.gatewayId ∧
      ∀ stored, stored ∈ next.releases ↔ stored ∈ project.releases ∨ stored = release := by
  obtain ⟨releases, inserted, activated⟩ := bind_ok.mp activated
  obtain ⟨-, same⟩ := check_bind_ok.mp activated
  rw [pure_ok] at same
  subst same
  rw [okOr_ok] at inserted
  have passes : primary.isPrimary = true := (Rows.mem_of_find? isPrimary).2
  refine ⟨⟨⟨{ primary with activeReleaseVersion := some release.version }, ?_, synced, rfl⟩, ?_⟩, rfl, rfl, ?_⟩
  · rw [ProjectConfiguration.primary, Rows.find?_update]
    · rw [ProjectConfiguration.primary] at isPrimary
      rw [isPrimary]
      simp [Rows.updated, passes, synced]
    · intro row
      rfl
  · -- no other release has its version
    have fresh : project.releases.find? (fun row => row.version == release.version) = none := by
      rw [Rows.find?_eq_none]
      intro row mem
      have apart := Rows.insert?_isSome.mp (by rw [inserted]; rfl) row mem
      simp only [clash, Keyed.conflicts, Keyed.key, Bool.or_eq_false_iff] at apart
      exact apart.1
    rw [ProjectConfiguration.getRelease, Rows.find?_insert? inserted, fresh]
    simp [okOr]
  · intro stored
    exact Rows.mem_insert? inserted

theorem releases_of_releaseManifest (collisionless : Collisionless codec)
    {active : SettingsRelease} (hashed : project.Hashed codec)
    (isPrimary : project.primary = some primary) (synced : primary.configSyncEnabled = true)
    (isActive : primary.activeReleaseVersion = some active.version)
    (stored : project.getRelease active.version = .ok active)
    (released : releaseManifest codec primary active manifest project = .ok next) :
    next.connections = project.connections ∧ next.Hashed codec ∧
      ∃ release, next.Releases release ∧ release.manifest = manifest := by
  obtain ⟨contentHash, isHash, released⟩ := bind_ok.mp released
  rw [mapError_ok] at isHash
  split at released
  next same =>
    rw [pure_ok] at released
    subst released
    have mem := (Rows.mem_of_find? (okOr_ok.mp stored)).1
    refine ⟨rfl, hashed, active, ⟨⟨primary, isPrimary, synced, isActive⟩, stored⟩, ?_⟩
    exact collisionless _ _ _ (hashed active mem) (same ▸ isHash)
  next =>
    obtain ⟨release, created, activated⟩ := bind_ok.mp released
    rw [mapError_ok] at created
    obtain ⟨-, isManifest, hashOf⟩ := runtimeRelease_ok created
    obtain ⟨releases, connections, -, members⟩ := releases_of_activate isPrimary synced activated
    refine ⟨connections, ?_, _, releases, isManifest⟩
    intro other mem
    rcases (members other).mp mem with before | isNew
    · exact hashed other before
    · subst isNew
      rw [isManifest]
      exact hashOf

theorem ProjectConfiguration.ReleasesProvider.withConnections
    (inRelease : project.ReleasesProvider key requirement) (connections : HashMap String StoredConnection) :
    { project with connections }.ReleasesProvider key requirement := by
  obtain ⟨release, ⟨deployment, stored⟩, found⟩ := inRelease
  exact ⟨release, ⟨deployment, stored⟩, found⟩

theorem carries_of_sync (collisionless : Collisionless codec) {providerKey key : String}
    (hashed : project.Hashed codec) (inRelease : project.ReleasesProvider key requirement)
    (stored : project.connections.lookup providerKey = some connection)
    (completes : effectiveConnection context.catalogue project.gatewayId (providerKey, connection) = .ok effective)
    (isKey : effective.config.get? "runtimeProviderKey" = some (.string key))
    (synced : syncConfiguration codec context providerKey effective.config project = .ok next) :
    next.connections = project.connections ∧ next.Hashed codec ∧
      ∃ provider, next.ReleasesProvider key provider ∧ Carries effective.config provider := by
  obtain ⟨active, ⟨⟨primary, isPrimary, syncs, isActive⟩, getsActive⟩, isProvider⟩ := inRelease
  have keyed : runtimeProviderKey effective.config providerKey = key := by
    simp [runtimeProviderKey, isKey, Value.asStr]
  simp only [syncConfiguration, syncedManifest, isPrimary, syncs, isActive, getsActive, ok_bind] at synced
  rw [← keyed] at isProvider
  obtain ⟨found, isSynced, synced⟩ := bind_ok.mp synced
  obtain ⟨configured, isConfigured, compiles⟩ := bind_ok.mp isSynced
  obtain ⟨manifest, rfl, carries⟩ := carries_of_configure isProvider isConfigured
  obtain ⟨connections, areEffective, compiles⟩ := bind_ok.mp compiles
  obtain ⟨compiled, isCompiled, same⟩ := bind_ok.mp compiles
  cases same
  have carried := carries_of_compileProfiles (find?_effectiveConnections areEffective stored completes) carries isCompiled
  obtain ⟨kept, hashedNext, release, releases, isManifest⟩ :=
    releases_of_releaseManifest collisionless hashed isPrimary syncs isActive getsActive synced
  obtain ⟨provider, found, carriesConfig⟩ := carried
  rw [keyed, ← isManifest] at found
  exact ⟨kept, hashedNext, provider, ⟨release, releases, found⟩, carriesConfig⟩

end

/-! ## Edits -/

theorem getField_editFields (edit : ProviderEdit) (key : String) :
    getField key edit.fields = (List.lookup key [("resources", edit.resources), ("settings", edit.settings)]).join :=
  getField_presentFields (by simp [Distinct]) key

theorem distinct_editFields (edit : ProviderEdit) : Distinct edit.fields := by
  have keys : Distinct [("resources", edit.resources), ("settings", edit.settings)] := by simp [Distinct]
  exact keys.sublist (presentFields_keys _)

theorem get?_of_edit {current config : Value} (stored : StoredFor key current)
    (updated : updatedConfig current edit.input.config = .ok config) :
    StoredFor key config ∧ config.get? "settings" = edit.settings.or (current.get? "settings") ∧
      config.get? "resources" = edit.resources.or (current.get? "resources") := by
  obtain ⟨⟨fields, rfl, sorted⟩, isKey⟩ := stored
  have merged : config = .object (edit.fields.foldl (fun merged field => insertField field.1 field.2 merged) fields) := by
    simp only [ProviderEdit.input] at updated
    split at updated
    next none =>
      cases updated
      rw [none, List.foldl_nil]
    next =>
      rw [updatedConfig] at updated
      obtain ⟨first, second, isFirst, isSecond, isMerged⟩ := mergeJsonObjects_ok updated
      cases isFirst
      cases isSecond
      exact isMerged
  have found : ∀ name, config.get? name =
      (List.lookup name [("resources", edit.resources), ("settings", edit.settings)]).join.or (getField name fields) := by
    intro name
    rw [merged, Value.get?, getField_mergeFields (distinct_editFields edit), getField_editFields]
  refine ⟨⟨⟨_, merged, sorted_foldl_insertField sorted⟩, ?_⟩, ?_, ?_⟩
  · rw [found]
    simpa [Value.get?, List.lookup_cons] using isKey
  · rw [found]
    simp [Value.get?, List.lookup_cons]
  · rw [found]
    simp [Value.get?]

theorem updateRuntimeProvider_ok {current : StoredConnection}
    (succeeds : updateRuntimeProvider codec context providerKey current input project = (.ok (), next)) :
    ∃ connection effective synced,
      editedConnection codec context.catalogue project.gatewayId providerKey current input = .ok connection ∧
      effectiveConnection context.catalogue project.gatewayId (providerKey, connection) = .ok effective ∧
      syncConfiguration codec context providerKey effective.config (project.upsertConnection providerKey connection) =
        .ok synced ∧
      refreshProjectProvider context providerKey connection synced = (.ok (), next) := by
  rw [updateRuntimeProvider, Effect.bind_returns] at succeeds
  obtain ⟨connection, saved, edited, succeeds⟩ := succeeds
  rw [Effect.ask_returns] at edited
  obtain ⟨isEdited, rfl⟩ := edited
  rw [Effect.bind_returns] at succeeds
  obtain ⟨_, saved, saves, succeeds⟩ := succeeds
  rw [Effect.change_returns, Except.ok.injEq] at saves
  subst saves
  rw [Effect.bind_returns] at succeeds
  obtain ⟨effective, unchanged, completed, succeeds⟩ := succeeds
  rw [Effect.ask_returns] at completed
  obtain ⟨completes, rfl⟩ := completed
  rw [Effect.bind_returns] at succeeds
  obtain ⟨_, synced, syncs, refreshes⟩ := succeeds
  rw [Effect.change_returns] at syncs
  exact ⟨connection, effective, synced, isEdited, completes, syncs, refreshes⟩

theorem refreshProjectProvider_ok
    (succeeds : refreshProjectProvider context providerKey connection project = (.ok (), next)) :
    ∃ status, next = project.upsertConnection providerKey { connection with status } := by
  rw [refreshProjectProvider, Effect.bind_returns] at succeeds
  obtain ⟨status, unchanged, asked, succeeds⟩ := succeeds
  rw [Effect.ask_returns] at asked
  obtain ⟨-, rfl⟩ := asked
  rw [Effect.bind_returns] at succeeds
  obtain ⟨_, updated, updates, succeeds⟩ := succeeds
  rw [Effect.change_returns, Except.ok.injEq] at updates
  rw [Effect.bind_returns] at succeeds
  obtain ⟨effective, same, completed, reconciles⟩ := succeeds
  rw [Effect.ask_returns] at completed
  rw [Effect.lift_returns] at reconciles
  exact ⟨status, by rw [← reconciles.2, ← completed.2, updates]⟩

theorem editedConnection_ok {current connection : StoredConnection}
    (edited : editedConnection codec catalogue gatewayId providerKey current input = .ok connection) :
    updatedConfig current.config input.config = .ok connection.config := by
  rw [editedConnection, bind_ok] at edited
  obtain ⟨name, -, edited⟩ := edited
  obtain ⟨config, updates, edited⟩ := bind_ok.mp edited
  obtain ⟨-, edited⟩ := check_bind_ok.mp edited
  obtain ⟨sourceKey, -, same⟩ := bind_ok.mp edited
  rw [pure_ok] at same
  subst same
  exact updates

section

variable {sha256 : Sha256} {provider : ReportedProvider} {state next : EditedProject}

structure EditsKept (codec : ManifestCodec) (sha256 : Sha256) (provider : ReportedProvider) (state : EditedProject) :
    Prop where
  hashed : state.project.Hashed codec
  connection : ∀ connection, state.project.connections.lookup (provider.scopedKey sha256) = some connection →
    StoredFor provider.key connection.config
  inForce : state.EditsInForce provider.key

theorem given_of_edit {given last stored : Option Value} (isLast : given.or last = some value)
    (stands : given = none → ∀ value ∈ last, stored = some value) : given.or stored = some value := by
  cases given with
  | none => exact stands rfl value isLast
  | some own => exact isLast

theorem EditsKept.update (collisionless : Collisionless codec) (kept : EditsKept codec sha256 provider state)
    (standing : state.Standing sha256 provider (.edit context edit))
    (updated : state.update codec sha256 provider context edit = some next) : EditsKept codec sha256 provider next := by
  obtain ⟨current, isCurrent, edits⟩ := Option.bind_eq_some_iff.mp updated
  split at edits
  next isRuntime =>
    split at edits
    next project succeeds =>
      cases edits
      obtain ⟨connection, effective, synced, edited, completes, syncs, refreshes⟩ := updateRuntimeProvider_ok succeeds
      obtain ⟨status, rfl⟩ := refreshProjectProvider_ok refreshes
      obtain ⟨stored, settings, resources⟩ := get?_of_edit (kept.connection current isCurrent) (editedConnection_ok edited)
      obtain ⟨requirement, inRelease, -, -⟩ := kept.inForce
      have saved : (state.project.upsertConnection (provider.scopedKey sha256) connection).connections.lookup
          (provider.scopedKey sha256) = some connection := AList.lookup_insert _
      have released : (state.project.upsertConnection (provider.scopedKey sha256) connection).ReleasesProvider
          provider.key requirement := inRelease.withConnections _
      have hashes : (state.project.upsertConnection (provider.scopedKey sha256) connection).Hashed codec := kept.hashed
      obtain ⟨connections, hashed, changed, releases, carries⟩ := carries_of_sync collisionless hashes released saved
        completes (get?_effective stored.fields completes stored.key) syncs
      refine ⟨hashed, ?_, changed, releases.withConnections _, ?_, ?_⟩
      · intro other isOther
        rw [ProjectConfiguration.upsertConnection, AList.lookup_insert, Option.some.injEq] at isOther
        exact isOther ▸ stored
      · intro value isLast
        apply carries.settings
        apply get?_effective stored.fields completes
        rw [settings]
        exact given_of_edit isLast (standing current isCurrent).1
      · intro value isLast
        apply carries.resources
        apply get?_effective stored.fields completes
        rw [resources]
        exact given_of_edit isLast (standing current isCurrent).2
    · cases edits
  · cases edits

/-! ## Reports -/

theorem storedFor_reported (gatewayId key providerType : String) (capabilities : List String) (settings : Value)
    (resources : List (String × String)) :
    StoredFor key (reportedConfig gatewayId key providerType capabilities settings resources) := by
  refine ⟨⟨_, rfl, ?_⟩, rfl⟩
  simp only [Sorted, List.pairwise_cons, List.forall_mem_cons]
  decide

theorem storedFor_discovered (agent : AgentDescriptor) (gatewayId key providerType : String) :
    StoredFor key (discoveredProviderConfig codec agent gatewayId key providerType) := by
  unfold discoveredProviderConfig
  dsimp only
  split <;> exact storedFor_reported ..

section

variable (kept : EditsKept codec sha256 provider state)
  (unique : ∀ gatewayId key, scopedProviderKey sha256 gatewayId key = provider.scopedKey sha256 → key = provider.key)
include kept unique

theorem EditsKept.report {gatewayId key : String} (stored : StoredFor key connection.config)
    {connections : HashMap String StoredConnection}
    (before : ∀ found, connections.lookup (provider.scopedKey sha256) = some found →
      state.project.connections.lookup (provider.scopedKey sha256) = some found) :
    EditsKept codec sha256 provider { state with
      project := { state.project with connections }.upsertConnection (scopedProviderKey sha256 gatewayId key) connection } where
  hashed := kept.hashed
  connection := by
    intro other isOther
    rw [ProjectConfiguration.upsertConnection, lookup_insert] at isOther
    split at isOther
    next same =>
      cases isOther
      exact unique gatewayId key same.symm ▸ stored
    · exact kept.connection other (before other isOther)
  inForce := by
    obtain ⟨requirement, inRelease, given⟩ := kept.inForce
    exact ⟨requirement, inRelease.withConnections _, given⟩

theorem EditsKept.declare (gatewayId : String) (reported : Value) : EditsKept codec sha256 provider
      { state with project := declareProvider sha256 gatewayId reported state.project } := by
  unfold declareProvider
  split
  · exact kept
  · split
    · exact kept
    · exact kept.report unique (storedFor_reported ..) (by intro found isFound; exact isFound)

end

theorem lookup_clearLegacy {key providerKey : String} {unused : Bool}
    {found : StoredConnection} (isFound : (clearLegacy key unused project).connections.lookup providerKey = some found) :
    project.connections.lookup providerKey = some found := by
  unfold clearLegacy at isFound
  split at isFound
  · rw [lookup_erase] at isFound
    split at isFound
    · cases isFound
    · exact isFound
  · exact isFound

theorem EditsKept.discover (kept : EditsKept codec sha256 provider state)
    (unique : ∀ gatewayId key, scopedProviderKey sha256 gatewayId key = provider.scopedKey sha256 → key = provider.key)
    (gatewayId : String) (unused : Bool) (agent : AgentDescriptor) : EditsKept codec sha256 provider
      { state with project := discoverProvider codec sha256 gatewayId unused agent state.project } := by
  unfold discoverProvider
  split
  · exact kept
  next key _ =>
    have cleared : ∃ connections, clearLegacy key unused state.project = { state.project with connections } := by
      unfold clearLegacy
      split
      · exact ⟨_, rfl⟩
      · exact ⟨state.project.connections, rfl⟩
    obtain ⟨connections, isCleared⟩ := cleared
    rw [isCleared]
    apply kept.report unique (storedFor_discovered ..)
    intro found isFound
    have same : (clearLegacy key unused state.project).connections = connections := by rw [isCleared]
    rw [← same] at isFound
    exact lookup_clearLegacy isFound

/-- In every run in which an edit that leaves settings or resources out finds in the connection what an earlier edit gave
of them, the provider has in the active release the settings and the resources that were given last. -/
theorem edits_survive_reports (codec : ManifestCodec) (sha256 : Sha256) (provider : ReportedProvider)
    (collisionless : Collisionless codec)
    (unique : ∀ gatewayId key, scopedProviderKey sha256 gatewayId key = provider.scopedKey sha256 → key = provider.key)
    (state : EditedProject)
    (reachable : (settingsMachine codec sha256 provider).Reachable (EditedProject.Standing sha256 provider) state) :
    state.EditsInForce provider.key := by
  have kept : EditsKept codec sha256 provider state := by
    refine reachable.invariant ?_ ?_
    · intro initial starts
      obtain ⟨discovered, noSettings, noResources⟩ := starts
      obtain ⟨requirement, inRelease⟩ := discovered.released
      exact ⟨discovered.hashed, discovered.connection, requirement, inRelease, by simp [noSettings], by simp [noResources]⟩
    · intro before action after holds standing stepped
      cases action with
      | edit context edit => exact holds.update collisionless standing stepped
      | declare gatewayId reported =>
        cases stepped
        exact holds.declare unique gatewayId reported
      | discover gatewayId unused agent =>
        cases stepped
        exact holds.discover unique gatewayId unused agent
  exact kept.inForce

end

/-! ## A choir -/

theorem scopedProviderKey_short {sha256 : Sha256} (long : ∀ bytes, hashBytes ≤ (sha256 bytes).length)
    {gatewayId other key found : String} (short : key.length < 102)
    (same : scopedProviderKey sha256 gatewayId found = scopedProviderKey sha256 other key) : found = key := by
  have size : ∀ bytes, ((sha256 bytes).take hashBytes |>.flatMap hexByte).length = 24 := by
    intro bytes
    have twelve : ((sha256 bytes).take hashBytes).length = 12 := List.length_take_of_le (long bytes)
    rw [List.length_flatMap, List.map_congr_left (g := fun _ => 2) (by intro byte _; rfl), List.map_const', twelve]
    rfl
  have texts := congrArg String.toList same
  simp only [scopedProviderKey, String.toList_ofList, size, maxIdentifierLen, List.append_assoc] at texts
  have heads := (List.append_inj' texts (by simp [size])).1
  have count := congrArg List.length heads
  simp only [List.length_take, String.length_toList] at count
  rw [List.take_of_length_le (by rw [String.length_toList]; omega),
    List.take_of_length_le (by rw [String.length_toList]; omega)] at heads
  exact String.toList_inj.mp heads

def voiceSettings (voice : String) : Value := .object [("voice", .string voice)]

def soloManifest (projectId providerId voice : String) : RuntimeManifest :=
  { RuntimeManifest.new projectId with
    providers := [⟨providerId, "vifu-runtime", ["chat"], voiceSettings voice, []⟩] }

def choirManifest (voice : String) : RuntimeManifest := soloManifest "choir" "singer" voice

/-- The JSON of a manifest without agents, endpoints and resources. -/
def choirText (manifest : RuntimeManifest) : String :=
  Value.text (fun _ => "0.5") <| .object
    [("schemaVersion", u64 manifest.schemaVersion), ("projectId", .string manifest.projectId),
      ("providers", .array (manifest.providers.map fun provider => .object [("id", .string provider.id),
        ("providerType", .string provider.providerType), ("capabilities", .array (provider.capabilities.map Value.string)),
        ("settings", provider.settings), ("resources", .object [])])),
      ("agents", .array []), ("endpoints", .array []), ("metadata", manifest.metadata)]

def choirSha256 : Sha256 := fun _ => List.replicate 32 0

def singer : ReportedProvider := ⟨"gateway-1", "singer"⟩

def choirManifests : List RuntimeManifest :=
  ["bass", "tenor", "alto"].flatMap fun voice =>
    [choirManifest voice, soloManifest "runtime-provider-validation" "singer" voice,
      soloManifest "runtime-provider-validation" (singer.scopedKey choirSha256) voice]

/-- JSON of these manifests, with a checksum for a digest. -/
def choirCodec : ManifestCodec where
  toVec manifest := if manifest ∈ choirManifests then .ok (textBytes (choirText manifest)) else .error "another choir"
  fromSlice _ := .error "not read"
  digest bytes := List.replicate 32 (bytes.foldl (fun sum byte => 31 * sum + byte) 0)

theorem choirCodec_collisionless : Collisionless choirCodec := by
  have listed : ∀ manifest hash, RuntimeManifest.contentHash choirCodec manifest = .ok hash → manifest ∈ choirManifests := by
    intro manifest hash hashes
    obtain ⟨bytes, isJson, -⟩ := bind_ok.mp hashes
    obtain ⟨-, unchecked⟩ := check_bind_ok.mp isJson
    rw [toUncheckedJson_ok] at unchecked
    by_contra absent
    simp [choirCodec, absent] at unchecked
  have apart : ∀ first ∈ choirManifests, ∀ second ∈ choirManifests,
      RuntimeManifest.contentHash choirCodec first = RuntimeManifest.contentHash choirCodec second → first = second := by
    decide +kernel
  intro first second hash isFirst isSecond
  exact apart first (listed first hash isFirst) second (listed second hash isSecond) (isFirst.trans isSecond.symm)

def choirConnection : StoredConnection where
  sourceKind := .custom
  sourceKey := "singer"
  name := "Singer"
  providerType := "vifu-runtime"
  config := reportedConfig "gateway-1" "singer" "vifu-runtime" ["chat"] (voiceSettings "bass") []
  status := "online"

def choirId : Uuid := ⟨"0190f2c4-7b1e-7c3a-9d52-1f6a0e8b4e37", by decide⟩

def choirPrimary : ReleasedDeployment where
  id := choirId
  projectId := choirId
  name := "primary"
  isPrimary := true
  configSyncEnabled := true
  traceMode := .off
  remoteInvocationEnabled := true
  createdAt := 0
  activeReleaseVersion := some 1

def choirRelease : SettingsRelease where
  version := 1
  contentHash := ((choirManifest "bass").contentHash choirCodec).toOption.getD ""
  manifest := choirManifest "bass"

def choirProject : EditedProject where
  project := {
    gatewayId := "gateway-1"
    connections := AList.singleton (singer.scopedKey choirSha256) choirConnection
    releases := .singleton choirRelease
    deployments := .singleton choirPrimary }
  settings := none
  resources := none

theorem choirProject_starts : (settingsMachine choirCodec choirSha256 singer).start choirProject := by
  refine ⟨⟨?_, ?_, ?_⟩, rfl, rfl⟩
  · intro release mem
    obtain rfl : release = choirRelease := List.mem_singleton.mp mem
    decide +kernel
  · intro connection stored
    have isChoir : choirProject.project.connections.lookup (singer.scopedKey choirSha256) = some choirConnection := by
      decide +kernel
    rw [isChoir, Option.some.injEq] at stored
    subst stored
    exact storedFor_reported ..
  · exact ⟨_, ⟨choirRelease, ⟨⟨choirPrimary, rfl, rfl, rfl⟩, by decide +kernel⟩, rfl⟩⟩

def quietContext : UpdateContext := ⟨fun _ _ => .error .notFound, [], .ok ()⟩

def singAs (voice : String) : SettingsAction := .edit quietContext ⟨none, some (voiceSettings voice), none⟩

def reportVoice (voice : String) : SettingsAction :=
  .declare "gateway-1" (.object [("id", .string "singer"), ("settings", voiceSettings voice)])

def EditedProject.releasedVoice (state : EditedProject) : Option Value := do
  let primary ← state.project.primary
  let version ← primary.activeReleaseVersion
  let release ← (state.project.getRelease version).toOption
  let provider ← release.manifest.providers.find? fun provider => provider.id == "singer"
  return provider.settings

/-- An edit is in force after a report, and so is the next edit. -/
theorem edits_survive_reports_choir :
    ∃ state, ((settingsMachine choirCodec choirSha256 singer).Reachable (EditedProject.Standing choirSha256 singer) state ∧
      state.settings = some (voiceSettings "alto") ∧ state.releasedVoice = some (voiceSettings "alto")) ∧
        state.EditsInForce singer.key := by
  obtain ⟨state, reachable, passes⟩ := (settingsMachine choirCodec choirSha256 singer).reachable_of_execute
    (EditedProject.Standing choirSha256 singer) choirProject_starts
    [singAs "tenor", reportVoice "bass", singAs "alto", reportVoice "bass"]
    (fun state => decide (state.settings = some (voiceSettings "alto") ∧
      state.releasedVoice = some (voiceSettings "alto")))
    (by decide +kernel)
  exact ⟨state, ⟨reachable, of_decide_eq_true passes⟩, edits_survive_reports choirCodec choirSha256 singer
    choirCodec_collisionless
    (fun _ _ same => scopedProviderKey_short (by intro _; simp [choirSha256, hashBytes]) (by decide) same) state reachable⟩

/-- After a report, an edit of the name alone brings the reported settings into the release. -/
theorem rename_reverts_settings :
    ¬∀ (codec : ManifestCodec) (sha256 : Sha256) (provider : ReportedProvider), Collisionless codec →
      (∀ gatewayId key, scopedProviderKey sha256 gatewayId key = provider.scopedKey sha256 → key = provider.key) →
      ∀ state, (settingsMachine codec sha256 provider).Reachable Machine.always state → state.EditsInForce provider.key := by
  intro promised
  obtain ⟨state, reachable, passes⟩ := (settingsMachine choirCodec choirSha256 singer).reachable_of_execute
    Machine.always choirProject_starts
    [singAs "alto", reportVoice "tenor", .edit quietContext ⟨some "Soloist", none, none⟩]
    (fun state => decide (state.settings = some (voiceSettings "alto") ∧
      state.releasedVoice = some (voiceSettings "tenor")))
    (by decide +kernel)
  obtain ⟨isGiven, isReleased⟩ := of_decide_eq_true passes
  obtain ⟨provider, ⟨release, ⟨⟨primary, isPrimary, -, isActive⟩, stored⟩, found⟩, settings, -⟩ := promised choirCodec
    choirSha256 singer choirCodec_collisionless
    (fun _ _ same => scopedProviderKey_short (by intro _; simp [choirSha256, hashBytes]) (by decide) same) state reachable
  have released : state.releasedVoice = some provider.settings := by
    have isSinger : release.manifest.providers.find? (fun provider => provider.id == "singer") = some provider := found
    simp [EditedProject.releasedVoice, isPrimary, isActive, stored, Except.toOption, isSinger]
  rw [isReleased, settings _ isGiven] at released
  exact absurd released (by decide)

end Vifu.Server
