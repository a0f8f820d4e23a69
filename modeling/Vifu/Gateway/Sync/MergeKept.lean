import Vifu.Gateway.Sync.Merge

/-!
# What a merged manifest keeps

The merge keeps every rule of a manifest but three: the numbers of its parts, the size of its text, and that no two
endpoints have one name.  The merged manifest is validated again before it becomes a release.
-/

namespace Vifu.Gateway

open Foundation
open Vifu.Runtime hiding validateIdentifier

def WithinLimits (codec : ManifestCodec) (manifest : RuntimeManifest) : Prop :=
  (manifest.providers.length ≤ Runtime.maxProviders ∧ manifest.agents.length ≤ Runtime.maxAgents ∧
    manifest.endpoints.length ≤ Runtime.maxEndpoints) ∧
    ∃ bytes, codec.toVec manifest = .ok bytes ∧ bytes.length ≤ maxManifestBytes

/-- The rules that depend neither on the project, nor on the limits, nor on the names of the endpoints. -/
structure Coherent (manifest : RuntimeManifest) : Prop where
  schemaVersion : manifest.schemaVersion = runtimeManifestSchemaVersion
  distinctProviders : (manifest.providers.map (·.id)).Nodup
  providers : ∀ provider ∈ manifest.providers, provider.Valid
  distinctAgents : (manifest.agents.map (·.id)).Nodup
  agents : ∀ agent ∈ manifest.agents, agent.Valid (manifest.providers.map (·.id)).reverse
  endpoints : ∀ endpoint ∈ manifest.endpoints, endpoint.Valid manifest.agents (manifest.agents.map (·.id)).reverse
  metadata : validatePortableValue "manifest metadata" manifest.metadata = .ok ()

variable {manifest : RuntimeManifest} {codec : ManifestCodec}

theorem valid_iff :
    manifest.Valid codec ↔ Coherent manifest ∧ PortableIdentifier manifest.projectId ∧ WithinLimits codec manifest ∧
      (manifest.endpoints.map (·.name)).Nodup := by
  constructor
  · intro valid
    exact ⟨{ valid with }, valid.projectId, ⟨valid.counts, valid.size⟩, valid.distinctEndpoints⟩
  · rintro ⟨coherent, projectId, ⟨counts, size⟩, distinctEndpoints⟩
    exact { coherent with projectId, counts, size, distinctEndpoints }

variable {fields : List (String × Value)} {path : String}

theorem validatePortableFields_iff :
    validatePortableFields path fields = .ok () ↔ ∀ field ∈ fields, Runtime.normalizedKey field.1 ∉ Runtime.sensitiveKeys ∧
      validatePortableValue path field.2 = .ok () := by
  induction fields with
  | nil => simp [validatePortableFields]
  | cons field fields ih =>
    simp [validatePortableFields, ih, and_assoc]

theorem mem_setField {key : String} {value : Value} {field : String × Value}
    (mem : field ∈ setField key value fields) : field = (key, value) ∨ field ∈ fields := by
  rw [setField] at mem
  split at mem
  · clear * - mem
    induction fields with
    | nil => cases mem
    | cons first fields ih =>
      rw [modifyField] at mem
      split at mem <;> grind
  · exact mem_insertField mem

theorem portable_merged {source remote : Value} (ours : validatePortableValue path source = .ok ())
    (theirs : validatePortableValue path remote = .ok ()) :
    validatePortableValue path (mergedAgentMetadata source remote) = .ok () := by
  rw [mergedAgentMetadata.eq_def]
  split
  next fields more =>
    rw [validatePortableValue, validatePortableFields_iff] at ours theirs ⊢
    induction more generalizing fields with
    | nil => exact ours
    | cons field more ih =>
      refine ih _ (fun other mem => ?_) (fun other mem => theirs other (List.mem_cons_of_mem _ mem))
      obtain rfl | before := mem_setField mem
      · exact theirs field List.mem_cons_self
      · exact ours other before
  next => exact theirs

/-! ## Parts of the merge -/

def mergedProviders (remote source : RuntimeManifest) : List ProviderRequirement :=
  (source.providers.filter (·.id ∈ pythonProviderIds source)).foldl (upsert (·.id) fun _ provider => provider) remote.providers

def mergedAgents (remote source : RuntimeManifest) : List AgentDefinition :=
  (source.agents.filter (·.id ∈ pythonAgentIds source)).foldl (upsert (·.id) preservedAgent) remote.agents

theorem id_preservedAgent (existing own : AgentDefinition) (_same : own.id = existing.id) :
    (preservedAgent existing own).id = existing.id := rfl

section

variable {remote source : RuntimeManifest} (ours : Coherent source) (theirs : Coherent remote)
  {agent : AgentDefinition}
include ours

theorem mem_pythonAgentIds (mem : agent ∈ source.agents) :
    agent.id ∈ pythonAgentIds source ↔ agent.provider ∈ pythonProviderIds source := by
  rw [pythonAgentIds, List.mem_map]
  constructor
  · rintro ⟨other, isPython, same⟩
    obtain ⟨isOther, provided⟩ := List.mem_filter.mp isPython
    have unique := List.inj_on_of_nodup_map ours.distinctAgents isOther mem same
    exact unique ▸ of_decide_eq_true provided
  · intro provided
    exact ⟨agent, List.mem_filter.mpr ⟨mem, decide_eq_true provided⟩, rfl⟩

theorem distinct_python : ((source.agents.filter (·.id ∈ pythonAgentIds source)).map (·.id)).Nodup ∧
    ((source.providers.filter (·.id ∈ pythonProviderIds source)).map (·.id)).Nodup :=
  ⟨ours.distinctAgents.sublist (List.filter_sublist.map _), ours.distinctProviders.sublist (List.filter_sublist.map _)⟩

include theirs

theorem mem_mergedProviders {provider : ProviderRequirement} (mem : provider ∈ mergedProviders remote source) :
    provider ∈ remote.providers ∨ provider ∈ source.providers := by
  obtain ⟨isRemote, _⟩ | isPython | ⟨_, _, own, isPython, _, rfl⟩ :=
    mem_upserts (fun _ _ same => same) theirs.distinctProviders (distinct_python ours).2 mem
  · exact .inl isRemote
  · exact .inr (List.mem_filter.mp isPython).1
  · exact .inr (List.mem_filter.mp isPython).1

theorem mem_mergedAgents (mem : agent ∈ mergedAgents remote source) :
    agent ∈ remote.agents ∧ agent.id ∉ pythonAgentIds source ∨ ∃ own ∈ source.agents, own.id ∈ pythonAgentIds source ∧
      (agent = own ∨ ∃ existing ∈ remote.agents, own.id = existing.id ∧ agent = preservedAgent existing own) := by
  obtain ⟨isRemote, apart⟩ | isPython | ⟨existing, isRemote, own, isPython, same, rfl⟩ :=
    mem_upserts id_preservedAgent theirs.distinctAgents (distinct_python ours).1 mem
  · refine .inl ⟨isRemote, fun isPython => apart ?_⟩
    obtain ⟨own, isOwn, same⟩ := List.mem_map.mp isPython
    refine List.mem_map.mpr ⟨own, List.mem_filter.mpr ⟨(List.mem_filter.mp isOwn).1, ?_⟩, same⟩
    exact decide_eq_true (same ▸ isPython)
  · obtain ⟨isOwn, python⟩ := List.mem_filter.mp isPython
    exact .inr ⟨agent, isOwn, of_decide_eq_true python, .inl rfl⟩
  · obtain ⟨isOwn, python⟩ := List.mem_filter.mp isPython
    exact .inr ⟨own, isOwn, of_decide_eq_true python, .inr ⟨existing, isRemote, same, rfl⟩⟩

theorem mergedAgents_ids : ((mergedAgents remote source).map (·.id)).Nodup ∧
    ∀ id, id ∈ (mergedAgents remote source).map (·.id) ↔ id ∈ remote.agents.map (·.id) ∨ id ∈ pythonAgentIds source := by
  obtain ⟨distinct, ids⟩ := keys_upserts id_preservedAgent theirs.distinctAgents (distinct_python ours).1
  refine ⟨distinct, fun id => (ids id).trans (or_congr Iff.rfl ⟨fun listed => ?_, fun isPython => ?_⟩)⟩
  · obtain ⟨own, isOwn, rfl⟩ := List.mem_map.mp listed
    exact of_decide_eq_true (List.mem_filter.mp isOwn).2
  · obtain ⟨own, isOwn, rfl⟩ := List.mem_map.mp isPython
    exact List.mem_map_of_mem (List.mem_filter.mpr ⟨(List.mem_filter.mp isOwn).1, decide_eq_true isPython⟩)

theorem provider_merged (mem : agent ∈ mergedAgents remote source) :
    agent.provider ∈ (mergedProviders remote source).map (·.id) := by
  rw [mergedProviders, (keys_upserts (fun _ _ same => same) theirs.distinctProviders (distinct_python ours).2).2]
  have python : ∀ own ∈ source.agents, own.id ∈ pythonAgentIds source → own.provider ∈
      (source.providers.filter (·.id ∈ pythonProviderIds source)).map (·.id) := by
    intro own isOwn isPython
    have provided := (mem_pythonAgentIds ours isOwn).mp isPython
    obtain ⟨provider, isProvider, same⟩ := List.mem_map.mp provided
    refine List.mem_map.mpr ⟨provider, List.mem_filter.mpr ⟨(List.mem_filter.mp isProvider).1, ?_⟩, same⟩
    exact decide_eq_true (same ▸ provided)
  obtain ⟨isRemote, _⟩ | ⟨own, isOwn, isPython, rfl | ⟨existing, _, _, rfl⟩⟩ := mem_mergedAgents ours theirs mem
  · exact .inl (List.mem_reverse.mp (theirs.agents agent isRemote).known)
  · exact .inr (python agent isOwn isPython)
  · exact .inr (python own isOwn isPython)

/-- The merge keeps all rules but the limits and the names of the endpoints. -/
theorem coherent_preserve : Coherent (preserveEmbeddedPythonAgents remote source) := by
  rw [preserveEmbeddedPythonAgents]
  split
  next => exact theirs
  next =>
    obtain ⟨distinctAgents, agentIds⟩ := mergedAgents_ids ours theirs
    have found : ∀ agent ∈ mergedAgents remote source, (mergedAgents remote source).find? (·.id = agent.id) = some agent := by
      intro agent mem
      obtain ⟨other, isFound⟩ := Option.isSome_iff_exists.mp
        (List.find?_isSome.mpr ⟨agent, mem, decide_eq_true rfl⟩ :
          ((mergedAgents remote source).find? (·.id = agent.id)).isSome)
      rw [isFound, List.inj_on_of_nodup_map distinctAgents (List.mem_of_find?_eq_some isFound) mem
        (by simpa using List.find?_some isFound)]
    refine ⟨theirs.schemaVersion, ?_, fun provider mem => ?_, distinctAgents, fun agent mem => ?_,
      fun endpoint mem => ?_, theirs.metadata⟩
    · exact ((keys_upserts (fun _ _ same => same) theirs.distinctProviders (distinct_python ours).2).1).sublist
        (List.filter_sublist.map _)
    · exact (mem_mergedProviders ours theirs (List.mem_filter.mp mem).1).elim (theirs.providers _) (ours.providers _)
    · have known : agent.provider ∈ (List.map (·.id) ((mergedProviders remote source).filter fun provider =>
          provider.id ∉ (remote.agents.filter (·.id ∈ pythonAgentIds source)).map (·.provider) ∨
            ∃ agent ∈ mergedAgents remote source, agent.provider = provider.id)).reverse := by
        obtain ⟨provider, isProvider, same⟩ := List.mem_map.mp (provider_merged ours theirs mem)
        refine List.mem_reverse.mpr (List.mem_map.mpr ⟨provider, List.mem_filter.mpr ⟨isProvider, ?_⟩, same⟩)
        exact decide_eq_true (.inr ⟨agent, mem, same.symm⟩)
      obtain ⟨isRemote, _⟩ | ⟨own, isOwn, _, rfl | ⟨existing, isExisting, _, rfl⟩⟩ := mem_mergedAgents ours theirs mem
      · exact { theirs.agents agent isRemote with known }
      · exact { ours.agents agent isOwn with known }
      · have kept := theirs.agents existing isExisting
        have taken := ours.agents own isOwn
        exact ⟨kept.id, taken.provider, kept.name, known, taken.capabilities, portable_merged taken.metadata kept.metadata⟩
    · obtain remoteEndpoint | ownEndpoint := List.mem_append.mp mem
      · obtain ⟨isRemote, apart⟩ := List.mem_filter.mp remoteEndpoint
        have kept := theirs.endpoints endpoint isRemote
        obtain ⟨agent, isAgent, capable⟩ := validateRoute_ok.mp kept.route
        have same : agent.id = endpoint.agent := by simpa using List.find?_some isAgent
        have listed := (agentIds endpoint.agent).mpr (.inl (List.mem_reverse.mp kept.known))
        obtain ⟨merged, isMerged, sameId⟩ := List.mem_map.mp listed
        obtain ⟨isOld, _⟩ | ⟨own, _, isPython, changed⟩ := mem_mergedAgents ours theirs isMerged
        · have unchanged := List.inj_on_of_nodup_map theirs.distinctAgents isOld (List.mem_of_find?_eq_some isAgent)
            (sameId.trans same.symm)
          refine { kept with known := List.mem_reverse.mpr listed, route := validateRoute_ok.mpr ⟨merged, ?_, ?_⟩ }
          · rw [← sameId]
            exact found merged isMerged
          · exact unchanged ▸ capable
        · obtain rfl | ⟨existing, _, sameOwn, rfl⟩ := changed
          · exact absurd (sameId ▸ isPython) (of_decide_eq_true apart)
          · exact absurd (sameId ▸ sameOwn ▸ isPython) (of_decide_eq_true apart)
      · obtain ⟨isOwn, isPython⟩ := List.mem_filter.mp ownEndpoint
        have kept := ours.endpoints endpoint isOwn
        obtain ⟨agent, isAgent, capable⟩ := validateRoute_ok.mp kept.route
        have same : agent.id = endpoint.agent := by simpa using List.find?_some isAgent
        have listed := (agentIds endpoint.agent).mpr (.inr (of_decide_eq_true isPython))
        obtain ⟨merged, isMerged, sameId⟩ := List.mem_map.mp listed
        refine { kept with known := List.mem_reverse.mpr listed, route := validateRoute_ok.mpr ⟨merged, ?_, ?_⟩ }
        · rw [← sameId]
          exact found merged isMerged
        · have alike : ∀ own ∈ source.agents, own.id = endpoint.agent → endpoint.capability ∈ own.capabilities := by
            intro own isSource sameOwn
            rw [List.inj_on_of_nodup_map ours.distinctAgents isSource (List.mem_of_find?_eq_some isAgent)
              (sameOwn.trans same.symm)]
            exact capable
          obtain ⟨_, apart⟩ | ⟨own, isSource, _, rfl | ⟨existing, _, sameOwn, rfl⟩⟩ := mem_mergedAgents ours theirs isMerged
          · exact absurd (sameId ▸ of_decide_eq_true isPython) apart
          · exact alike merged isSource sameId
          · exact alike own isSource (sameOwn.trans sameId)

end

/-! ## The endpoints of the merge -/

/-- No endpoint that is kept from the remote manifest has the name of an endpoint that is taken over from the source. -/
def Apart (remote source : RuntimeManifest) : Prop :=
  ∀ endpoint ∈ remote.endpoints, endpoint.agent ∉ pythonAgentIds source →
    ∀ own ∈ source.endpoints, own.agent ∈ pythonAgentIds source → endpoint.name ≠ own.name

theorem distinct_endpoints {remote source : RuntimeManifest} (theirs : (remote.endpoints.map (·.name)).Nodup)
    (ours : (source.endpoints.map (·.name)).Nodup) :
    ((preserveEmbeddedPythonAgents remote source).endpoints.map (·.name)).Nodup ↔ Apart remote source := by
  rw [preserveEmbeddedPythonAgents]
  split
  next none =>
    have noAgents : pythonAgentIds source = [] := by
      simp [pythonAgentIds, none]
    refine iff_of_true theirs fun _ _ _ own _ isPython => ?_
    rw [noAgents] at isPython
    cases isPython
  next =>
    rw [List.map_append, List.nodup_append]
    constructor
    · rintro ⟨-, -, apart⟩ endpoint isRemote kept own isOwn isPython
      exact apart _ (List.mem_map_of_mem (List.mem_filter.mpr ⟨isRemote, decide_eq_true kept⟩)) _
        (List.mem_map_of_mem (List.mem_filter.mpr ⟨isOwn, decide_eq_true isPython⟩))
    · intro apart
      refine ⟨theirs.sublist (List.filter_sublist.map _), ours.sublist (List.filter_sublist.map _), ?_⟩
      intro name isKept other isTaken
      obtain ⟨endpoint, kept, rfl⟩ := List.mem_map.mp isKept
      obtain ⟨own, taken, rfl⟩ := List.mem_map.mp isTaken
      obtain ⟨isRemote, foreign⟩ := List.mem_filter.mp kept
      obtain ⟨isOwn, isPython⟩ := List.mem_filter.mp taken
      exact apart endpoint isRemote (of_decide_eq_true foreign) own isOwn (of_decide_eq_true isPython)

theorem projectId_preserve (remote source : RuntimeManifest) :
    (preserveEmbeddedPythonAgents remote source).projectId = remote.projectId := by
  rw [preserveEmbeddedPythonAgents]
  split <;> rfl

theorem manifest_new {version : ℕ} {release : RuntimeRelease}
    (isNew : RuntimeRelease.new codec version manifest = .ok release) : release.manifest = manifest := by
  obtain ⟨-, isNew⟩ := check_bind_ok.mp isNew
  obtain ⟨-, isNew⟩ := check_bind_ok.mp isNew
  obtain ⟨_, -, isNew⟩ := bind_ok.mp isNew
  cases isNew
  rfl

/-- The merge of a valid release keeps all references, and is valid when it fits and no names of endpoints collide.
A merge that is not valid is refused, so that only a valid one becomes a release. -/
theorem localEmbeddedRelease_valid {codec : ManifestCodec} {remote : RuntimeRelease} {source : RuntimeManifest}
    (valid : remote.validate codec = .ok ()) (sourceValid : source.validate codec = .ok ()) (embeddedProjectId : String)
    (installed : List RuntimeRelease) :
    let merged := preserveEmbeddedPythonAgents { remote.manifest with projectId := embeddedProjectId } source
    Coherent merged ∧
      (merged.validate codec = .ok () ↔
        PortableIdentifier embeddedProjectId ∧ WithinLimits codec merged ∧ Apart remote.manifest source) ∧
      ∀ release, localEmbeddedRelease codec remote embeddedProjectId installed (some source) = .ok release →
        merged.validate codec = .ok () ∧ (release ∈ installed ∨ release.manifest = merged) := by
  intro merged
  obtain ⟨-, isValid, -⟩ := (check_bind_ok.mp valid).imp_right check_bind_ok.mp
  obtain ⟨theirs, -, -, distinctTheirs⟩ := valid_iff.mp (RuntimeManifest.validate_ok.mp isValid)
  obtain ⟨ours, -, -, distinctOurs⟩ := valid_iff.mp (RuntimeManifest.validate_ok.mp sourceValid)
  have mapped : Coherent { remote.manifest with projectId := embeddedProjectId } := { theirs with }
  have coherent : Coherent merged := coherent_preserve ours mapped
  refine ⟨coherent, ?_, fun release isRelease => ?_⟩
  · have endpoints : (merged.endpoints.map (·.name)).Nodup ↔ Apart remote.manifest source :=
      @distinct_endpoints { remote.manifest with projectId := embeddedProjectId } source distinctTheirs distinctOurs
    rw [RuntimeManifest.validate_ok, valid_iff, projectId_preserve, endpoints]
    exact and_iff_right coherent
  · obtain ⟨_, isMapped, isRelease⟩ := bind_ok.mp isRelease
    obtain ⟨-, isMapped⟩ := check_bind_ok.mp isMapped
    cases isMapped
    obtain ⟨passes, isRelease⟩ := check_bind_ok.mp isRelease
    obtain ⟨_, isMerged, isRelease⟩ := bind_ok.mp isRelease
    cases isMerged
    refine ⟨mapError_ok.mp passes, ?_⟩
    obtain ⟨candidate, -, isRelease⟩ := bind_ok.mp isRelease
    split at isRelease
    next existing found =>
      cases isRelease
      exact .inl (List.mem_of_find?_eq_some found)
    next =>
      split at isRelease
      all_goals
        obtain ⟨_, -, isNew⟩ := bind_ok.mp isRelease
        exact .inr (manifest_new (mapError_ok.mp isNew))

def echoManifest : RuntimeManifest where
  schemaVersion := 1
  projectId := "town"
  providers := [{ id := "local", providerType := "python", capabilities := ["chat"], settings := .emptyObject, resources := [] }]
  agents := [{ id := "echo", name := "Echo", provider := "local", capabilities := ["chat"], metadata := .emptyObject }]
  endpoints := [{ name := "town-guide", agent := "echo", capability := "chat", timeoutMs := 30000 }]
  metadata := .emptyObject

def echoText : List UInt8 :=
  ("\x7b\"schemaVersion\":1,\"projectId\":\"town\",\"providers\":[\x7b\"id\":\"local\",\"providerType\":\"python\"," ++
    "\"capabilities\":[\"chat\"],\"settings\":\x7b\x7d,\"resources\":\x7b\x7d\x7d],\"agents\":[\x7b\"id\":\"echo\"," ++
    "\"name\":\"Echo\",\"provider\":\"local\",\"capabilities\":[\"chat\"],\"metadata\":\x7b\x7d\x7d],\"endpoints\":" ++
    "[\x7b\"name\":\"town-guide\",\"agent\":\"echo\",\"capability\":\"chat\",\"timeoutMs\":30000\x7d]," ++
    "\"metadata\":\x7b\x7d\x7d").toUTF8.data.toList

def townCodec : ManifestCodec where
  toVec manifest := if manifest = echoManifest then .ok echoText else (guideCodec "chat").toVec manifest
  fromSlice bytes := if bytes = echoText then .ok echoManifest else (guideCodec "chat").fromSlice bytes
  digest := (guideCodec "chat").digest

def townRelease : RuntimeRelease :=
  ⟨1, "sha256:" ++ .ofList (guideDigest.flatMap hexByte), guideManifest "chat"⟩

/-- Both manifests are valid, and the merge has two endpoints of one name. -/
theorem endpoint_twice : townRelease.validate townCodec = .ok () ∧ echoManifest.validate townCodec = .ok () ∧
    ((preserveEmbeddedPythonAgents townRelease.manifest echoManifest).endpoints.map (·.name) = ["town-guide", "town-guide"]) ∧
    (preserveEmbeddedPythonAgents townRelease.manifest echoManifest).validate townCodec =
      .error (duplicate "endpoint" "town-guide") ∧
    localEmbeddedRelease townCodec townRelease "town" [] (some echoManifest) =
      .error (duplicate "endpoint" "town-guide").display := by
  decide +kernel

theorem localEmbeddedRelease_valid_town : ¬ Apart townRelease.manifest echoManifest ∧ ∀ release,
    localEmbeddedRelease townCodec townRelease "town" [] (some echoManifest) ≠ .ok release := by
  have collide : ¬ Apart townRelease.manifest echoManifest := by
    intro apart
    exact apart _ List.mem_cons_self (by decide) _ List.mem_cons_self (by decide) rfl
  refine ⟨collide, fun release isRelease => ?_⟩
  obtain ⟨-, exactly, only⟩ := @localEmbeddedRelease_valid townCodec townRelease echoManifest (by decide +kernel)
    (by decide +kernel) "town" []
  exact collide (exactly.mp (only release isRelease).1).2.2

end Vifu.Gateway
