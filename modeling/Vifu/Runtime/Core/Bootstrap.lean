import Vifu.Runtime.Core.Releases

/-!
# Bootstraps that are tried again

`bootstrap_release` restores the active release, or else installs its manifest as version 1 and activates it.  An
attempt that fails to activate leaves version 1 behind, and a release is immutable: another manifest can no longer be
bootstrapped.
-/

namespace Vifu.Runtime

open Foundation

variable {σ : Type}

def RuntimeHost.failing (host : RuntimeHost σ) (faults : StoreFaults) : RuntimeHost σ :=
  { host with store := host.store.failing faults }

namespace CoreState

def installRelease (state : CoreState σ) (host : RuntimeHost σ) (release : RuntimeRelease) (unixTimeMs : ℕ) :
    Except RuntimeError (CoreState σ) := do
  release.validate host.manifests
  ensure (release.manifest.projectId = state.projectId)
    (.invalidDefinition "runtime release belongs to another project")
  let store ← host.store.saveRelease state.store release unixTimeMs
  return { state with store }

def restoreActiveRelease (state : CoreState σ) (host : RuntimeHost σ) (poisoned : PoisonedLocks) :
    Except RuntimeError (Option RuntimeRelease) × CoreState σ :=
  match host.store.activeRelease state.store state.projectId with
  | .error error => (.error error, state)
  | .ok none => (.ok none, state)
  | .ok (some version) =>
    let activated := state.activateRelease host poisoned version
    (activated.1.map some, activated.2)

def bootstrapRelease (state : CoreState σ) (host : RuntimeHost σ) (poisoned : PoisonedLocks) (manifest : RuntimeManifest)
    (unixTimeMs : ℕ) : Except RuntimeError RuntimeRelease × CoreState σ :=
  match state.restoreActiveRelease host poisoned with
  | (.error error, restored) => (.error error, restored)
  | (.ok (some active), restored) => (.ok active, restored)
  | (.ok none, restored) =>
    match RuntimeRelease.new host.manifests 1 manifest with
    | .error error => (.error error, restored)
    | .ok release =>
      match restored.installRelease host release unixTimeMs with
      | .error error => (.error error, restored)
      | .ok installed => installed.activateRelease host poisoned release.version

/-- An operation on the definitions, or an attempt to bootstrap while the store and the locks may fail. -/
inductive BootstrapAction where
  | define (operation : DefinitionOperation)
  | bootstrap (faults : StoreFaults) (poisoned : PoisonedLocks) (manifest : RuntimeManifest) (unixTimeMs : ℕ)

/-- The attempts on a store that holds nothing for the project. -/
def bootstraps (host : RuntimeHost σ) (serving : ServingStore host.manifests host.store) :
    Machine (CoreState σ) BootstrapAction where
  start state := ∃ projectId core store, RuntimeCore.new projectId = .ok core ∧ state = opened core store ∧
    serving.vacant store projectId ∧ serving.active store projectId = none
  step state
    | .define operation => state.step host (.define operation)
    | .bootstrap faults poisoned manifest unixTimeMs =>
      some (state.bootstrapRelease (host.failing faults) poisoned manifest unixTimeMs).2

def Fails (host : RuntimeHost σ) (state : CoreState σ) : BootstrapAction → Prop
  | .define _ => True
  | .bootstrap faults poisoned manifest unixTimeMs =>
    (state.bootstrapRelease (host.failing faults) poisoned manifest unixTimeMs).1.isOk = false

instance decidableFails (host : RuntimeHost σ) : ∀ state action, Decidable (Fails host state action)
  | _, .define _ => inferInstanceAs (Decidable True)
  | _, .bootstrap _ _ _ _ => inferInstanceAs (Decidable (_ = false))

structure Bootstrapped {store : RuntimeStore σ} (books : ReleaseStore store) (manifest : RuntimeManifest)
    (outcome : Except RuntimeError RuntimeRelease × CoreState σ) : Prop where
  routes : outcome.2.Routes manifest
  current : outcome.2.manifest = some manifest
  returned : ∃ release version, outcome.1 = .ok release ∧ release.manifest = manifest ∧
    books.active outcome.2.store outcome.2.projectId = some version ∧
      books.release outcome.2.store outcome.2.projectId version = some release

/-! ## What failed attempts leave -/

variable {host : RuntimeHost σ} {state next : CoreState σ} {poisoned : PoisonedLocks} {version : ℕ}
  {manifest : RuntimeManifest} {release : RuntimeRelease} {unixTimeMs : ℕ} {codec : ManifestCodec}
  {error : RuntimeError}

theorem newRelease_ok (created : RuntimeRelease.new codec version manifest = .ok release) :
    release.manifest = manifest ∧ release.version = version ∧ release.validate codec = .ok () := by
  simp only [RuntimeRelease.new, ensure_ok, bind_ok, pure_ok] at created
  obtain ⟨_, positive, _, valid, contentHash, hashed, rfl⟩ := created
  refine ⟨rfl, rfl, ?_⟩
  simp only [RuntimeRelease.validate, bind_ok, ensure_ok]
  exact ⟨(), positive, (), valid, contentHash, hashed, rfl⟩

theorem newRelease_valid (valid : manifest.Valid codec) (positive : version ≠ 0) :
    ∃ release, RuntimeRelease.new codec version manifest = .ok release := by
  have checked : manifest.validate codec = .ok () := RuntimeManifest.validate_ok.mpr valid
  obtain ⟨bytes, encoded, _⟩ := valid.size
  have hashed : manifest.toJson codec = .ok bytes := by
    simp only [RuntimeManifest.toJson, checked, ok_bind, RuntimeManifest.toUncheckedJson, encoded]
  rw [RuntimeRelease.new, ensure, if_pos positive, checked, ok_bind, RuntimeManifest.contentHash, hashed]
  exact ⟨_, rfl⟩

theorem applyManifest_kept (codec : ManifestCodec) :
    (state.applyManifest codec poisoned manifest).2.projectId = state.projectId ∧
      (state.applyManifest codec poisoned manifest).2.store = state.store := by
  unfold applyManifest
  split
  · exact ⟨rfl, rfl⟩
  repeat' split
  all_goals exact ⟨rfl, rfl⟩

theorem activateRelease_failed (failed : (state.activateRelease host poisoned version).1 = .error error) :
    (state.activateRelease host poisoned version).2.projectId = state.projectId ∧
      (state.activateRelease host poisoned version).2.store = state.store := by
  unfold activateRelease at failed ⊢
  split
  · exact ⟨rfl, rfl⟩
  · exact ⟨rfl, rfl⟩
  next release loads =>
    have kept := @applyManifest_kept _ state poisoned release.manifest host.manifests
    simp only [loads] at failed
    split
    next same =>
      rw [same] at kept
      exact kept
    next applied same =>
      simp only [same] at failed kept
      split
      · exact kept
      next store sets =>
        rw [sets] at failed
        cases failed

theorem installRelease_ok {installed : CoreState σ}
    (succeeds : state.installRelease host release unixTimeMs = .ok installed) :
    release.manifest.projectId = state.projectId ∧ ∃ store,
      host.store.saveRelease state.store release unixTimeMs = .ok store ∧ installed = { state with store } := by
  simp only [installRelease, ensure_ok, bind_ok, pure_ok] at succeeds
  obtain ⟨_, _, _, own, store, saved, rfl⟩ := succeeds
  exact ⟨own, store, saved, rfl⟩

/-- Without an active release, at most one release is stored, as version 1, and it is what one manifest makes. -/
structure Unactivated (host : RuntimeHost σ) (serving : ServingStore host.manifests host.store) (state : CoreState σ) :
    Prop where
  inactive : serving.active state.store state.projectId = none
  stored : serving.vacant state.store state.projectId ∨ ∃ manifest release,
    RuntimeRelease.new host.manifests 1 manifest = .ok release ∧
      serving.release state.store state.projectId 1 = some release

variable {serving : ServingStore host.manifests host.store}

theorem Unactivated.same (unactivated : Unactivated host serving state) (project : next.projectId = state.projectId)
    (store : next.store = state.store) : Unactivated host serving next where
  inactive := by rw [store, project, unactivated.inactive]
  stored := by rw [store, project]; exact unactivated.stored

theorem Unactivated.attempt {faults : StoreFaults} (unactivated : Unactivated host serving state)
    (failed : (state.bootstrapRelease (host.failing faults) poisoned manifest unixTimeMs).1 = .error error) :
    Unactivated host serving (state.bootstrapRelease (host.failing faults) poisoned manifest unixTimeMs).2 := by
  unfold bootstrapRelease at failed ⊢
  have restores : state.restoreActiveRelease (host.failing faults) poisoned = (.ok none, state) ∨
      ∃ error, state.restoreActiveRelease (host.failing faults) poisoned = (.error error, state) := by
    unfold restoreActiveRelease
    cases found : (host.failing faults).store.activeRelease state.store state.projectId with
    | error error => exact .inr ⟨error, rfl⟩
    | ok active =>
      have inactive : active = serving.active state.store state.projectId :=
        (serving.toReleaseStore.failing faults).active_ok found
      rw [unactivated.inactive] at inactive
      subst inactive
      exact .inl rfl
  rcases restores with restored | ⟨other, refused⟩
  · simp only [restored] at failed ⊢
    cases created : RuntimeRelease.new (host.failing faults).manifests 1 manifest with
    | error error => exact unactivated
    | ok release =>
      cases installs : state.installRelease (host.failing faults) release unixTimeMs with
      | error error =>
        simp only [installs]
        exact unactivated
      | ok installed =>
        simp only [created, installs] at failed ⊢
        obtain ⟨project, same⟩ := activateRelease_failed failed
        obtain ⟨sameManifest, sameVersion, _⟩ := newRelease_ok created
        obtain ⟨own, store, saves, rfl⟩ := installRelease_ok installs
        refine Unactivated.same ?_ project same
        have saved := (serving.toReleaseStore.failing faults).save_release saves state.projectId 1
        have kept := (serving.toReleaseStore.failing faults).save_active saves
        rw [own, sameVersion, if_pos rfl] at saved
        refine ⟨?_, .inr ⟨manifest, release, created, saved⟩⟩
        exact (congrFun kept state.projectId).trans unactivated.inactive
  · simp only [refused]
    exact unactivated

theorem unactivated_of_reachable (reachable : (bootstraps host serving).Reachable (Fails host) state) :
    Unactivated host serving state := by
  apply reachable.invariant
  · rintro _ ⟨projectId, core, store, created, rfl, vacant, inactive⟩
    obtain ⟨_, rfl⟩ := RuntimeCore.new_ok.mp created
    exact ⟨inactive, .inl vacant⟩
  · intro state action next unactivated fails stepped
    cases action with
    | define operation =>
      change state.step host (.define operation) = some next at stepped
      simp only [step] at stepped
      split at stepped
      next core defined =>
        cases stepped
        exact unactivated.same (RuntimeCore.define_ok defined).1 rfl
      next =>
        cases stepped
        exact unactivated
    | bootstrap faults poisoned manifest unixTimeMs =>
      cases stepped
      change (state.bootstrapRelease (host.failing faults) poisoned manifest unixTimeMs).1.isOk = false at fails
      cases outcome : (state.bootstrapRelease (host.failing faults) poisoned manifest unixTimeMs).1 with
      | error error => exact unactivated.attempt outcome
      | ok release =>
        rw [outcome] at fails
        cases fails

/-! ## The next attempt -/

theorem bootstrapRelease_unactivated (unactivated : Unactivated host serving state) (unixTimeMs : ℕ)
    (created : RuntimeRelease.new host.manifests 1 manifest = .ok release) :
    state.bootstrapRelease host poisoned manifest unixTimeMs =
      match state.installRelease host release unixTimeMs with
      | .error error => (.error error, state)
      | .ok installed => installed.activateRelease host poisoned release.version := by
  have restored : state.restoreActiveRelease host poisoned = (.ok none, state) := by
    rw [restoreActiveRelease, serving.active_found, unactivated.inactive]
  simp only [bootstrapRelease, restored, created]

theorem bootstrapped_of_saved {store : σ} (applicable : state.Applicable host.manifests manifest)
    (created : RuntimeRelease.new host.manifests 1 manifest = .ok release)
    (saves : host.store.saveRelease state.store release unixTimeMs = .ok store) :
    Bootstrapped serving.toReleaseStore manifest
      ({ state with store }.activateRelease host ⟨false, false⟩ release.version) := by
  obtain ⟨rfl, _, _⟩ := newRelease_ok created
  have stored : serving.release store state.projectId release.version = some release := by
    rw [serving.save_release saves, applicable.own, if_pos rfl]
  obtain ⟨activated, sets⟩ := serving.activate_found stored
  have applies : Applicable host.manifests { state with store } release.manifest :=
    ⟨applicable.valid, applicable.own, applicable.provided⟩
  have applied : applyManifest { state with store } host.manifests ⟨false, false⟩ release.manifest =
      (.ok (), { routed { state with store } release.manifest with manifest := some release.manifest }) :=
    applyManifest_passed applies rfl
  have outcome : activateRelease { state with store } host ⟨false, false⟩ release.version =
      (.ok release,
        { routed { state with store } release.manifest with manifest := some release.manifest, store := activated }) := by
    have activates : host.store.setActiveRelease
        (routed { state with store } release.manifest).store state.projectId release.version = .ok activated := sets
    simp only [activateRelease, serving.load_found stored, applied]
    simp only [routed] at activates ⊢
    simp only [activates]
  rw [outcome]
  refine ⟨routed_routes, rfl, release, release.version, rfl, rfl, ?_, ?_⟩
  · exact (serving.activate_active sets state.projectId).trans (if_pos rfl)
  · show serving.release activated state.projectId release.version = _
    rw [serving.activate_release sets, stored]

/-- After any failed attempts, a manifest whose providers are registered is bootstrapped just when it is the project's
    and no other manifest has been installed. -/
theorem bootstrap_retried_iff (host : RuntimeHost σ) (serving : ServingStore host.manifests host.store)
    (state : CoreState σ) (reachable : (bootstraps host serving).Reachable (Fails host) state)
    (manifest : RuntimeManifest) (unixTimeMs : ℕ) (valid : manifest.Valid host.manifests)
    (provided : ∀ requirement ∈ manifest.providers, ∃ provider,
      state.registry.providers.lookup requirement.id = some provider ∧
        ∀ capability ∈ requirement.capabilities, provider.supports capability = true)
    (accepted : ∀ release, RuntimeRelease.new host.manifests 1 manifest = .ok release →
      serving.accepts release unixTimeMs) :
    Bootstrapped serving.toReleaseStore manifest (state.bootstrapRelease host ⟨false, false⟩ manifest unixTimeMs) ↔
      manifest.projectId = state.projectId ∧
        ∀ release, serving.release state.store state.projectId 1 = some release → release.manifest = manifest := by
  have unactivated := unactivated_of_reachable reachable
  obtain ⟨release, created⟩ := newRelease_valid valid one_ne_zero
  obtain ⟨sameManifest, sameVersion, checked⟩ := newRelease_ok created
  rw [bootstrapRelease_unactivated unactivated unixTimeMs created]
  constructor
  · intro bootstrapped
    cases installs : state.installRelease host release unixTimeMs with
    | error error =>
      simp only [installs] at bootstrapped
      obtain ⟨_, _, impossible, _⟩ := bootstrapped.returned
      cases impossible
    | ok installed =>
      obtain ⟨own, store, saves, _⟩ := installRelease_ok installs
      refine ⟨sameManifest ▸ own, fun other stored => ?_⟩
      by_contra differs
      have otherRelease : other ≠ release := fun same => differs (same ▸ sameManifest)
      rw [← own, ← sameVersion] at stored
      obtain ⟨error, refused⟩ := serving.save_other stored otherRelease
      cases refused.symm.trans saves
  · intro ⟨own, only⟩
    have saves : ∃ store, host.store.saveRelease state.store release unixTimeMs = .ok store := by
      have isOwn : release.manifest.projectId = state.projectId := by rw [sameManifest, own]
      rcases unactivated.stored with vacant | ⟨earlier, installed, remade, stored⟩
      · exact serving.save_vacant (isOwn ▸ vacant) checked (accepted release created)
      · -- the stored release was made of the same manifest
        have same : installed = release := by
          have earlierManifest := (newRelease_ok remade).1
          rw [← earlierManifest, only installed stored] at remade
          exact Except.ok.inj (remade.symm.trans created)
        refine serving.save_same ?_ checked (accepted release created)
        rw [isOwn, sameVersion, stored, same]
    obtain ⟨store, saves⟩ := saves
    have installs : state.installRelease host release unixTimeMs = .ok { state with store } := by
      rw [installRelease, checked, ensure, if_pos (by rw [sameManifest, own]), ok_bind, saves]
      rfl
    rw [installs]
    exact bootstrapped_of_saved ⟨valid, own, provided⟩ created saves

/-! ## A provider that comes late -/

def plainJson : String :=
  "\x7b\"schemaVersion\":1,\"projectId\":\"town\",\"providers\":[],\"agents\":[],\"endpoints\":[],\"metadata\":\x7b\x7d\x7d"

/-- The SHA-256 digest of `plainJson`. -/
def plainDigest : List UInt8 :=
  [153, 131, 71, 170, 35, 222, 113, 239, 248, 202, 113, 165, 68, 155, 243, 131,
    235, 78, 31, 235, 76, 111, 227, 230, 174, 253, 245, 160, 199, 14, 173, 15]

def settledCodec : ManifestCodec where
  toVec manifest :=
    if manifest = .new "town" then .ok plainJson.toUTF8.data.toList else (guideCodec "chat").toVec manifest
  fromSlice bytes :=
    if bytes = plainJson.toUTF8.data.toList then .ok (.new "town") else (guideCodec "chat").fromSlice bytes
  digest bytes := if bytes = plainJson.toUTF8.data.toList then plainDigest else guideDigest

def settledHost : RuntimeHost MemoryRuntimeStore where
  store := MemoryRuntimeStore.runtimeStore settledCodec
  snapshots := townSnapshots
  manifests := settledCodec

def settledServing : ServingStore settledHost.manifests settledHost.store := MemoryRuntimeStore.serving settledCodec

theorem townRuntime_unactivated : (bootstraps settledHost settledServing).start townRuntime :=
  ⟨"town", _, _, RuntimeCore.new_ok.mpr ⟨by decide +kernel, rfl⟩, rfl, fun _ => rfl, rfl⟩

def earlyAttempt : List BootstrapAction :=
  [.bootstrap ⟨none, none, none, none⟩ ⟨false, false⟩ (guideManifest "chat") 1700000000000,
    .define (.registerProvider "models" ⟨fun capability => capability == "chat"⟩)]

/-- The same manifest is bootstrapped once its provider is there. -/
theorem bootstrap_retried_guide :
    ∃ state, (bootstraps settledHost settledServing).Reachable (Fails settledHost) state ∧
      (Bootstrapped settledServing.toReleaseStore (guideManifest "chat")
          (state.bootstrapRelease settledHost ⟨false, false⟩ (guideManifest "chat") 1700000000001) ↔
        (guideManifest "chat").projectId = state.projectId ∧ ∀ release,
          settledServing.release state.store state.projectId 1 = some release →
            release.manifest = guideManifest "chat") := by
  obtain ⟨state, reachable, passes⟩ := Machine.reachable_of_execute (bootstraps settledHost settledServing)
    (Fails settledHost) townRuntime_unactivated earlyAttempt
    (fun state => (state.registry.providers.lookup "models").any fun provider => provider.supports "chat")
    (by decide +kernel)
  obtain ⟨provider, registered, supports⟩ := (Option.any_eq_true _ _).mp passes
  refine ⟨state, reachable, ?_⟩
  apply bootstrap_retried_iff settledHost settledServing state reachable (guideManifest "chat") 1700000000001
  · exact RuntimeManifest.validate_ok.mp (show (guideManifest "chat").validate settledCodec = .ok () by decide +kernel)
  · simpa [guideManifest] using ⟨provider, registered, supports⟩
  · exact fun _ _ => trivial

/-- A manifest without any provider can no longer be bootstrapped. -/
theorem changed_bootstrap_refused :
    ¬∀ (state : CoreState MemoryRuntimeStore) (manifest : RuntimeManifest) (unixTimeMs : ℕ),
      (bootstraps settledHost settledServing).Reachable (Fails settledHost) state → manifest.Valid settledHost.manifests →
        manifest.projectId = state.projectId →
          (∀ requirement ∈ manifest.providers, ∃ provider,
            state.registry.providers.lookup requirement.id = some provider ∧
              ∀ capability ∈ requirement.capabilities, provider.supports capability = true) →
            Bootstrapped settledServing.toReleaseStore manifest
              (state.bootstrapRelease settledHost ⟨false, false⟩ manifest unixTimeMs) := by
  intro retries
  obtain ⟨state, reachable, passes⟩ := Machine.reachable_of_execute (bootstraps settledHost settledServing)
    (Fails settledHost) townRuntime_unactivated earlyAttempt
    (fun state => decide (state.projectId = "town") &&
      !(state.bootstrapRelease settledHost ⟨false, false⟩ (.new "town") 1700000000001).1.isOk) (by decide +kernel)
  rw [Bool.and_eq_true, decide_eq_true_eq] at passes
  have bootstrapped := retries state (.new "town") 1700000000001 reachable
    (RuntimeManifest.validate_ok.mp (show (RuntimeManifest.new "town").validate settledCodec = .ok () by decide +kernel))
    passes.1.symm (by simp [RuntimeManifest.new])
  obtain ⟨release, _, succeeds, _⟩ := bootstrapped.returned
  have fails := passes.2
  rw [succeeds] at fails
  cases fails

end CoreState

end Vifu.Runtime
