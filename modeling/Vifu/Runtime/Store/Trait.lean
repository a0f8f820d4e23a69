import Vifu.Runtime.Manifest

/-!
# The runtime store

`RuntimeStore` is the persistence adapter that a host supplies: the operations on session
snapshots, releases and the trace outbox, over whatever state the store keeps.  An operation
that fails leaves the state as it was.
-/

namespace Vifu.Runtime

/-- The operations of the trait.  `saveRelease` also gets the wall clock, in milliseconds. -/
structure RuntimeStore (σ : Type) where
  load : σ → (projectId sessionId : String) → Except RuntimeError (Option RuntimeSnapshot)
  save : σ → (projectId sessionId : String) → RuntimeSnapshot → Except RuntimeError σ
  saveRelease : σ → RuntimeRelease → (unixTimeMs : ℕ) → Except RuntimeError σ
  loadRelease : σ → (projectId : String) → (version : ℕ) → Except RuntimeError (Option RuntimeRelease)
  listReleases : σ → (projectId : String) → Except RuntimeError (List RuntimeRelease)
  activeRelease : σ → (projectId : String) → Except RuntimeError (Option ℕ)
  setActiveRelease : σ → (projectId : String) → (version : ℕ) → Except RuntimeError σ
  enqueueTrace : σ → RuntimeTraceRecord → Except RuntimeError σ
  pendingTraces : σ → (limit : ℕ) → Except RuntimeError (List RuntimeTraceRecord)
  acknowledgeTraces : σ → (traceIds : List String) → Except RuntimeError σ

@[irreducible] def maxTraceOutboxRecords : ℕ := 1000

theorem maxTraceOutboxRecords_pos : 0 < maxTraceOutboxRecords := by
  unfold maxTraceOutboxRecords
  decide

end Vifu.Runtime
