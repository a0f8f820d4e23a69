import Vifu.Foundation.Upserts
import Vifu.Runtime.JsonPaths
import Vifu.Runtime.Manifest

/-!
# Releases of an embedded runtime

An embedded runtime takes over the release of its deployment under its own project, and keeps the Python agents that
it runs itself.  The merged manifest is the source of the next merge.
-/

namespace Vifu.Gateway

open Foundation
open Vifu.Runtime hiding validateIdentifier

/-- `merged.extend(remote)`. -/
def extendFields (fields more : List (String × Value)) : List (String × Value) :=
  more.foldl (fun merged field => setField field.1 field.2 merged) fields

def mergedAgentMetadata : (source remote : Value) → Value
  | .object source, .object remote => .object (extendFields source remote)
  | _, remote => remote

def preservedAgent (remoteAgent sourceAgent : AgentDefinition) : AgentDefinition :=
  { remoteAgent with
    provider := sourceAgent.provider
    capabilities := sourceAgent.capabilities
    metadata := mergedAgentMetadata sourceAgent.metadata remoteAgent.metadata }

def pythonProviderIds (source : RuntimeManifest) : List String :=
  (source.providers.filter (·.providerType = "python")).map (·.id)

def pythonAgentIds (source : RuntimeManifest) : List String :=
  (source.agents.filter (·.provider ∈ pythonProviderIds source)).map (·.id)

def preserveEmbeddedPythonAgents (remote source : RuntimeManifest) : RuntimeManifest :=
  if pythonProviderIds source = [] then
    remote
  else
    let providers := (source.providers.filter (·.id ∈ pythonProviderIds source)).foldl
      (upsert (·.id) fun _ provider => provider) remote.providers
    let displacedProviderIds := (remote.agents.filter (·.id ∈ pythonAgentIds source)).map (·.provider)
    let agents := (source.agents.filter (·.id ∈ pythonAgentIds source)).foldl (upsert (·.id) preservedAgent) remote.agents
    { remote with
      providers := providers.filter fun provider =>
        provider.id ∉ displacedProviderIds ∨ ∃ agent ∈ agents, agent.provider = provider.id
      agents
      endpoints := remote.endpoints.filter (·.agent ∉ pythonAgentIds source) ++
        source.endpoints.filter (·.agent ∈ pythonAgentIds source) }

def manifestForProject (codec : ManifestCodec) (manifest : RuntimeManifest) (projectId : String) :
    Except String RuntimeManifest := do
  let mapped := { manifest with projectId }
  (mapped.validate codec).mapError RuntimeError.display
  return mapped

def nextVersion (installed : List RuntimeRelease) : Except String ℕ :=
  let largest := (installed.map (·.version)).foldl max 0
  if largest < u64Max then .ok (largest + 1) else .error "embedded runtime release version is exhausted"

def localEmbeddedRelease (codec : ManifestCodec) (remote : RuntimeRelease) (embeddedProjectId : String)
    (installed : List RuntimeRelease) (sourceManifest : Option RuntimeManifest) : Except String RuntimeRelease := do
  let mapped ← manifestForProject codec remote.manifest embeddedProjectId
  let manifest ← match sourceManifest with
    | none => pure mapped
    | some source => do
      let merged := preserveEmbeddedPythonAgents mapped source
      (merged.validate codec).mapError RuntimeError.display
      pure merged
  let candidate ← (RuntimeRelease.new codec remote.version manifest).mapError RuntimeError.display
  match installed.find? (·.contentHash = candidate.contentHash) with
  | some existing => return existing
  | none =>
    let version ← if installed.any (·.version = remote.version) then nextVersion installed else pure remote.version
    (RuntimeRelease.new codec version manifest).mapError RuntimeError.display

end Vifu.Gateway
