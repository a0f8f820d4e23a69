import Vifu.Runtime.Core.Bootstrap

/-!
# Releases over a run

Whatever a runtime installs, activates, restores and bootstraps, and wherever the store or a lock fails, a stored
release stays what it is, and an active version is that of a stored release.
-/

namespace Vifu.Runtime

inductive ReleaseAction where
  | install (release : RuntimeRelease) (unixTimeMs : ℕ)
  | activate (version : ℕ)
  | restoreActive
  | bootstrap (manifest : RuntimeManifest) (unixTimeMs : ℕ)

namespace CoreState

variable {σ : Type} {host : RuntimeHost σ} {state next final : CoreState σ} {poisoned : PoisonedLocks}

def afterRelease (state : CoreState σ) (host : RuntimeHost σ) (poisoned : PoisonedLocks) : ReleaseAction → CoreState σ
  | .install release unixTimeMs =>
    match state.installRelease host release unixTimeMs with
    | .ok installed => installed
    | .error _ => state
  | .activate version => (state.activateRelease host poisoned version).2
  | .restoreActive => (state.restoreActiveRelease host poisoned).2
  | .bootstrap manifest unixTimeMs => (state.bootstrapRelease host poisoned manifest unixTimeMs).2

/-- Each action meets faults of its own. -/
def releaseMachine (host : RuntimeHost σ) : Foundation.Machine (CoreState σ) (StoreFaults × PoisonedLocks × ReleaseAction) where
  start _ := True
  step state action := some (state.afterRelease (host.failing action.1) action.2.1 action.2.2)

/-- Every release stays, and so does that the active versions have one. -/
structure KeepsReleases (books : ReleaseStore host.store) (state next : CoreState σ) : Prop where
  releases : ∀ projectId version found, books.release state.store projectId version = some found →
    books.release next.store projectId version = some found
  active : (∀ projectId, ∀ version ∈ books.active state.store projectId, (books.release state.store projectId version).isSome) →
    ∀ projectId, ∀ version ∈ books.active next.store projectId, (books.release next.store projectId version).isSome

variable {books : ReleaseStore host.store}
  (immutable : ∀ {store saved unixTimeMs next found}, books.release store saved.manifest.projectId saved.version = some found →
    host.store.saveRelease store saved unixTimeMs = .ok next → found = saved)

theorem KeepsReleases.of_store (same : next.store = state.store) : KeepsReleases books state next :=
  ⟨fun _ _ _ stored => same ▸ stored, fun active => same ▸ active⟩

theorem KeepsReleases.trans (keeps : KeepsReleases books state next) (further : KeepsReleases books next final) :
    KeepsReleases books state final :=
  ⟨fun projectId version found stored => further.releases _ _ _ (keeps.releases projectId version found stored),
    fun active => further.active (keeps.active active)⟩

theorem keeps_activate (version : ℕ) : KeepsReleases books state (state.activateRelease host poisoned version).2 := by
  unfold activateRelease
  split
  · exact .of_store rfl
  · exact .of_store rfl
  next release loads =>
    have kept := @applyManifest_kept _ state poisoned release.manifest host.manifests
    split
    next applied => exact .of_store (by rw [applied] at kept; exact kept.2)
    next applied isApplied =>
      rw [isApplied] at kept
      split
      · exact .of_store kept.2
      next store sets =>
        rw [kept.1, kept.2] at sets
        have loaded := books.load_ok loads
        constructor
        · intro projectId version found stored
          exact (books.activate_release sets) ▸ stored
        · intro active projectId version isActive
          rw [Option.mem_def, books.activate_active sets] at isActive
          rw [books.activate_release sets]
          split at isActive
          next same =>
            cases isActive
            rw [same, ← loaded]
            rfl
          next => exact active projectId version isActive

include immutable in
theorem keeps_install {release : RuntimeRelease} {unixTimeMs : ℕ}
    (installed : state.installRelease host release unixTimeMs = .ok next) : KeepsReleases books state next := by
  obtain ⟨-, store, saves, rfl⟩ := installRelease_ok installed
  have stays : ∀ projectId version found, books.release state.store projectId version = some found →
      books.release store projectId version = some found := by
    intro projectId version found stored
    rw [books.save_release saves]
    split
    next same =>
      cases same
      rw [immutable stored saves]
    next => exact stored
  refine ⟨stays, fun active projectId version isActive => ?_⟩
  rw [books.save_active saves] at isActive
  obtain ⟨found, stored⟩ := Option.isSome_iff_exists.mp (active projectId version isActive)
  exact Option.isSome_of_eq_some (stays projectId version found stored)

theorem keeps_restore : KeepsReleases books state (state.restoreActiveRelease host poisoned).2 := by
  unfold restoreActiveRelease
  split
  · exact .of_store rfl
  · exact .of_store rfl
  · exact keeps_activate _

include immutable in
theorem keeps_after (action : ReleaseAction) : KeepsReleases books state (state.afterRelease host poisoned action) := by
  cases action with
  | install release unixTimeMs =>
    cases installs : state.installRelease host release unixTimeMs with
    | error error => exact .of_store (by simp [afterRelease, installs])
    | ok installed =>
      have kept : KeepsReleases books state installed := keeps_install immutable installs
      simpa [afterRelease, installs] using kept
  | activate version => exact keeps_activate version
  | restoreActive => exact keeps_restore
  | bootstrap manifest unixTimeMs =>
    have restored := @keeps_restore _ host state poisoned books
    rw [afterRelease, bootstrapRelease]
    split
    next same => rwa [same] at restored
    next same => rwa [same] at restored
    next same =>
      rw [same] at restored
      split
      · exact restored
      split
      · exact restored
      next installs => exact restored.trans ((keeps_install immutable installs).trans (keeps_activate _))

/-- In every run, whatever fails, the stored releases stay, and active versions keep having one. -/
theorem releases_kept (host : RuntimeHost σ) (serving : ServingStore host.manifests host.store) {state final : CoreState σ}
    (run : (releaseMachine host).RunsTo Foundation.Machine.always state final) :
    KeepsReleases serving.toReleaseStore state final := by
  refine run.preserves (fun middle action next keeps _ stepped => ?_) (.of_store rfl)
  cases stepped
  have step : @KeepsReleases _ (host.failing action.1) (serving.toReleaseStore.failing action.1) middle
      (middle.afterRelease (host.failing action.1) action.2.1 action.2.2) := by
    refine keeps_after (fun {_ _ _ _ found} stored saves => ?_) action.2.2
    by_contra differs
    obtain ⟨error, refused⟩ := serving.save_other stored differs
    cases refused.symm.trans (unlessFault_ok saves)
  exact keeps.trans ⟨step.releases, step.active⟩

def bootstrapGuide (manifest : RuntimeManifest) : StoreFaults × PoisonedLocks × ReleaseAction :=
  (⟨none, none, none, none⟩, ⟨false, false⟩, .bootstrap manifest 1700000000000)

/-- A bootstrap with another manifest leaves version 1 as the first one made it. -/
theorem releases_kept_town :
    ∃ installed final found, (releaseMachine settledHost).RunsTo Foundation.Machine.always townRuntime installed ∧
      (releaseMachine settledHost).step installed (bootstrapGuide (.new "town")) = some final ∧
      settledServing.release final.store "town" 1 = some found ∧ found.manifest = guideManifest "chat" := by
  obtain ⟨installed, run, installs⟩ := Foundation.Machine.runsTo_of_execute (releaseMachine settledHost)
    Foundation.Machine.always townRuntime [bootstrapGuide (guideManifest "chat")]
    (fun state => (settledServing.release state.store "town" 1).any fun found => found.manifest = guideManifest "chat")
    (by decide +kernel)
  obtain ⟨found, stored, isGuide⟩ := (Option.any_eq_true _ _).mp installs
  refine ⟨installed, _, found, run, rfl, ?_, of_decide_eq_true isGuide⟩
  exact (releases_kept settledHost settledServing (.single ⟨_, trivial, rfl⟩)).releases "town" 1 found stored

end CoreState

end Vifu.Runtime
