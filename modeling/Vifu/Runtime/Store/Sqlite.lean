import Mathlib.Data.List.Sort
import Mathlib.Data.String.Basic
import Vifu.Runtime.Store.Trait

/-!
# The SQLite store

`SqliteRuntimeStore` keeps the same data in tables.  A table is the list of its rows, the last
inserted first; a query that orders its result sorts them.  Integers are `i64`, and manifests,
session states and trace records are JSON texts.
-/

namespace Vifu.Runtime

open Foundation

/-- The first integer that is no `i64`. -/
def i64Bound : ℕ := 9223372036854775808

/-- `i64::try_from`. -/
def toI64 (value : ℕ) : Except RuntimeError ℕ :=
  if value < i64Bound then .ok value
  else .error (.store "out of range integral type conversion attempted")

theorem toI64_ok {value converted : ℕ} : toI64 value = .ok converted ↔ value < i64Bound ∧ value = converted := by
  unfold toI64
  split <;> simp [*]

/-- `map_err` of an error of SQLite or of JSON. -/
def storeResult {α : Type} : Except String α → Except RuntimeError α
  | .ok value => .ok value
  | .error message => .error (.store message)

/-- The JSON of the three kinds of texts in the tables. -/
structure StoreCodec where
  manifest : ManifestCodec
  state : JsonCodec Value
  trace : JsonCodec RuntimeTraceRecord

/-! ## Tables -/

structure SessionRow where
  revision : ℕ
  stateJson : List UInt8

/-- The primary key is the project and the version; the project and the content hash are
    unique too. -/
structure ReleaseRow where
  projectId : String
  version : ℕ
  contentHash : String
  manifestJson : List UInt8
  installedAtMs : ℕ

structure TraceRow where
  traceId : String
  projectId : String
  payloadJson : List UInt8
  createdAtMs : ℕ

structure SqliteRuntimeStore where
  sessions : HashMap (String × String) SessionRow
  releases : List ReleaseRow
  activeReleases : HashMap String ℕ
  traceOutbox : List TraceRow

/-- `ORDER BY created_at_ms, trace_id`, for the two columns. -/
def ColumnsBefore (left right : ℕ × String) : Prop := left.1 < right.1 ∨ left.1 = right.1 ∧ left.2 ≤ right.2

def TraceRow.Before (left right : TraceRow) : Prop :=
  ColumnsBefore (left.createdAtMs, left.traceId) (right.createdAtMs, right.traceId)

instance decidableBefore : DecidableRel TraceRow.Before :=
  fun _ _ => inferInstanceAs (Decidable (_ ∨ _))

namespace SqliteRuntimeStore

variable (codec : StoreCodec)

def empty : SqliteRuntimeStore := { sessions := ∅, releases := [], activeReleases := ∅, traceOutbox := [] }

def load (store : SqliteRuntimeStore) (projectId sessionId : String) :
    Except RuntimeError (Option RuntimeSnapshot) :=
  match store.sessions.lookup (projectId, sessionId) with
  | none => .ok none
  | some row => do
    let state ← storeResult (codec.state.fromSlice row.stateJson)
    return some { revision := row.revision, state }

def save (store : SqliteRuntimeStore) (projectId sessionId : String) (snapshot : RuntimeSnapshot) :
    Except RuntimeError SqliteRuntimeStore := do
  let stateJson ← storeResult (codec.state.toVec snapshot.state)
  let revision ← toI64 snapshot.revision
  return { store with sessions := store.sessions.insert (projectId, sessionId) { revision, stateJson } }

def releaseFromRow (row : ReleaseRow) : Except RuntimeError RuntimeRelease := do
  let manifest ← storeResult (codec.manifest.fromSlice row.manifestJson)
  return { version := row.version, contentHash := row.contentHash, manifest }

def loadRelease (store : SqliteRuntimeStore) (projectId : String) (version : ℕ) :
    Except RuntimeError (Option RuntimeRelease) := do
  let version ← toI64 version
  match store.releases.find? (fun row => row.projectId = projectId ∧ row.version = version) with
  | none => return none
  | some row =>
    let release ← releaseFromRow codec row
    return some release

/-- `INSERT OR IGNORE` ignores a row that has the primary key or the content of another one. -/
def conflicts (releases : List ReleaseRow) (projectId : String) (version : ℕ) (contentHash : String) : Bool :=
  releases.any fun row =>
    row.projectId = projectId ∧ (row.version = version ∨ row.contentHash = contentHash)

def saveRelease (store : SqliteRuntimeStore) (release : RuntimeRelease) (unixTimeMs : ℕ) :
    Except RuntimeError SqliteRuntimeStore := do
  release.validate codec.manifest
  let version ← toI64 release.version
  let manifestJson ← storeResult (codec.manifest.toVec release.manifest)
  let installedAtMs ← toI64 unixTimeMs
  let projectId := release.manifest.projectId
  if conflicts store.releases projectId version release.contentHash then
    let existing ← loadRelease codec store projectId release.version
    ensure (existing = some release) (.store "runtime release versions are immutable")
    return store
  else
    let row := { projectId, version, contentHash := release.contentHash, manifestJson, installedAtMs }
    return { store with releases := row :: store.releases }

def listReleases (store : SqliteRuntimeStore) (projectId : String) :
    Except RuntimeError (List RuntimeRelease) :=
  ((store.releases.filter (·.projectId = projectId)).insertionSort
    fun left right => right.version ≤ left.version).mapM (releaseFromRow codec)

def activeRelease (store : SqliteRuntimeStore) (projectId : String) : Except RuntimeError (Option ℕ) :=
  .ok (store.activeReleases.lookup projectId)

def setActiveRelease (store : SqliteRuntimeStore) (projectId : String) (version : ℕ) :
    Except RuntimeError SqliteRuntimeStore := do
  let version ← toI64 version
  ensure (∃ row ∈ store.releases, row.projectId = projectId ∧ row.version = version)
    (.store "FOREIGN KEY constraint failed")
  return { store with activeReleases := store.activeReleases.insert projectId version }

/-- The rows beyond the newest 1000 are deleted. -/
def retain (rows : List TraceRow) : List TraceRow :=
  let deleted := ((rows.insertionSort fun left right => right.Before left).drop maxTraceOutboxRecords).map
    (·.traceId)
  rows.filter (·.traceId ∉ deleted)

def enqueueTrace (store : SqliteRuntimeStore) (trace : RuntimeTraceRecord) :
    Except RuntimeError SqliteRuntimeStore := do
  let payloadJson ← storeResult (codec.trace.toVec trace)
  let createdAtMs ← toI64 trace.createdAtMs
  let row := { traceId := trace.id, projectId := trace.projectId, payloadJson, createdAtMs }
  let rows := if store.traceOutbox.any (·.traceId = trace.id) then store.traceOutbox
    else row :: store.traceOutbox
  return { store with traceOutbox := retain rows }

def pendingTraces (store : SqliteRuntimeStore) (limit : ℕ) : Except RuntimeError (List RuntimeTraceRecord) :=
  ((store.traceOutbox.insertionSort TraceRow.Before).take (min limit maxTraceOutboxRecords)).mapM
    fun row => storeResult (codec.trace.fromSlice row.payloadJson)

def acknowledgeTraces (store : SqliteRuntimeStore) (traceIds : List String) :
    Except RuntimeError SqliteRuntimeStore :=
  .ok { store with
    traceOutbox := traceIds.foldl (fun rows traceId => rows.filter (·.traceId ≠ traceId)) store.traceOutbox }

def runtimeStore : RuntimeStore SqliteRuntimeStore where
  load := load codec
  save := save codec
  saveRelease := saveRelease codec
  loadRelease := loadRelease codec
  listReleases := listReleases codec
  activeRelease := activeRelease
  setActiveRelease := setActiveRelease
  enqueueTrace := enqueueTrace codec
  pendingTraces := pendingTraces codec
  acknowledgeTraces := acknowledgeTraces

end SqliteRuntimeStore

end Vifu.Runtime
