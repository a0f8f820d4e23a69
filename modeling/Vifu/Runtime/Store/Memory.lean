import Mathlib.Data.List.Sort
import Vifu.Runtime.Store.Trait

/-!
# The in-memory store

`MemoryRuntimeStore` keeps each kind of data in a map of its own, and the trace outbox in the
order in which the traces came.
-/

namespace Vifu.Runtime

open Foundation

structure MemoryRuntimeStore where
  snapshots : HashMap (String × String) RuntimeSnapshot
  releases : HashMap (String × ℕ) RuntimeRelease
  activeReleases : HashMap String ℕ
  traceOutbox : List RuntimeTraceRecord

namespace MemoryRuntimeStore

/-- `MemoryRuntimeStore::default()`. -/
def empty : MemoryRuntimeStore := { snapshots := ∅, releases := ∅, activeReleases := ∅, traceOutbox := [] }

def load (store : MemoryRuntimeStore) (projectId sessionId : String) :
    Except RuntimeError (Option RuntimeSnapshot) :=
  .ok (store.snapshots.lookup (projectId, sessionId))

def save (store : MemoryRuntimeStore) (projectId sessionId : String) (snapshot : RuntimeSnapshot) :
    Except RuntimeError MemoryRuntimeStore :=
  .ok { store with snapshots := store.snapshots.insert (projectId, sessionId) snapshot }

def saveRelease (codec : ManifestCodec) (store : MemoryRuntimeStore) (release : RuntimeRelease) (_ : ℕ) :
    Except RuntimeError MemoryRuntimeStore := do
  release.validate codec
  let key := (release.manifest.projectId, release.version)
  match store.releases.lookup key with
  | some existing =>
    ensure (existing = release) (.store "runtime release versions are immutable")
    return store
  | none => return { store with releases := store.releases.insert key release }

def loadRelease (store : MemoryRuntimeStore) (projectId : String) (version : ℕ) :
    Except RuntimeError (Option RuntimeRelease) :=
  .ok (store.releases.lookup (projectId, version))

/-- `sort_by_key` by descending version. -/
def listReleases (store : MemoryRuntimeStore) (projectId : String) :
    Except RuntimeError (List RuntimeRelease) :=
  .ok (((store.releases.entries.filter (·.1.1 = projectId)).map (·.2)).insertionSort
    fun left right => right.version ≤ left.version)

def activeRelease (store : MemoryRuntimeStore) (projectId : String) : Except RuntimeError (Option ℕ) :=
  .ok (store.activeReleases.lookup projectId)

def setActiveRelease (store : MemoryRuntimeStore) (projectId : String) (version : ℕ) :
    Except RuntimeError MemoryRuntimeStore := do
  ensure ((projectId, version) ∈ store.releases) (.store "runtime release was not found")
  return { store with activeReleases := store.activeReleases.insert projectId version }

def enqueueTrace (store : MemoryRuntimeStore) (trace : RuntimeTraceRecord) :
    Except RuntimeError MemoryRuntimeStore :=
  if store.traceOutbox.any (·.id = trace.id) then
    .ok store
  else
    let traces := store.traceOutbox ++ [trace]
    .ok { store with traceOutbox := traces.drop (traces.length - maxTraceOutboxRecords) }

def pendingTraces (store : MemoryRuntimeStore) (limit : ℕ) : Except RuntimeError (List RuntimeTraceRecord) :=
  .ok (store.traceOutbox.take limit)

def acknowledgeTraces (store : MemoryRuntimeStore) (traceIds : List String) :
    Except RuntimeError MemoryRuntimeStore :=
  .ok { store with traceOutbox := store.traceOutbox.filter (·.id ∉ traceIds) }

def runtimeStore (codec : ManifestCodec) : RuntimeStore MemoryRuntimeStore where
  load := load
  save := save
  saveRelease := saveRelease codec
  loadRelease := loadRelease
  listReleases := listReleases
  activeRelease := activeRelease
  setActiveRelease := setActiveRelease
  enqueueTrace := enqueueTrace
  pendingTraces := pendingTraces
  acknowledgeTraces := acknowledgeTraces

end MemoryRuntimeStore

end Vifu.Runtime
