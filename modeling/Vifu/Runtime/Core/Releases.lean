import Vifu.Runtime.Core.Machine
import Vifu.Runtime.Store.Activation

/-!
# Activations that fail

`activate_release` loads a release, applies its manifest to the registry and then stores which version is active.
The store comes last: when it refuses, the definitions of the release are in use already.
-/

namespace Vifu.Runtime

open Foundation

structure PoisonedLocks where
  registry : Bool
  manifest : Bool

namespace CoreState

variable {σ : Type}

/-- `apply_manifest`, with the locks it takes. -/
def applyManifest (state : CoreState σ) (codec : ManifestCodec) (poisoned : PoisonedLocks) (manifest : RuntimeManifest) :
    Except RuntimeError Unit × CoreState σ :=
  match manifest.validate codec with
  | .error error => (.error error, state)
  | .ok () =>
    if manifest.projectId ≠ state.projectId then
      (.error (.invalidDefinition "project settings belong to another project"), state)
    else if poisoned.registry then (.error .internal, state)
    else
      match manifest.providers.forM (RuntimeCore.checkRequirement state.registry.providers) with
      | .error error => (.error error, state)
      | .ok () =>
        let replaced := { state with
          registry.agents := collect (·.id) manifest.agents
          registry.endpoints := collect (·.name) manifest.endpoints }
        if poisoned.manifest then (.error .internal, replaced)
        else (.ok (), { replaced with manifest := some manifest })

def activateRelease (state : CoreState σ) (host : RuntimeHost σ) (poisoned : PoisonedLocks) (version : ℕ) :
    Except RuntimeError RuntimeRelease × CoreState σ :=
  match host.store.loadRelease state.store state.projectId version with
  | .error error => (.error error, state)
  | .ok none => (.error (.store "runtime release was not found"), state)
  | .ok (some release) =>
    match state.applyManifest host.manifests poisoned release.manifest with
    | (.error error, applied) => (.error error, applied)
    | (.ok (), applied) =>
      match host.store.setActiveRelease applied.store applied.projectId version with
      | .error error => (.error error, applied)
      | .ok store => (.ok release, { applied with store })

/-! ## What `apply_manifest` leaves -/

variable {state : CoreState σ} {codec : ManifestCodec} {poisoned : PoisonedLocks} {manifest : RuntimeManifest}

/-- The manifest passes all checks of `apply_manifest`. -/
structure Applicable (codec : ManifestCodec) (state : CoreState σ) (manifest : RuntimeManifest) : Prop where
  valid : manifest.Valid codec
  own : manifest.projectId = state.projectId
  provided : ∀ requirement ∈ manifest.providers, ∃ provider,
    state.registry.providers.lookup requirement.id = some provider ∧
      ∀ capability ∈ requirement.capabilities, provider.supports capability = true

def Routes (state : CoreState σ) (manifest : RuntimeManifest) : Prop :=
  (∀ id, state.registry.agents.lookup id = (collect (·.id) manifest.agents).lookup id) ∧
    ∀ name, state.registry.endpoints.lookup name = (collect (·.name) manifest.endpoints).lookup name

def SameRoutes (state next : CoreState σ) : Prop :=
  (∀ id, next.registry.agents.lookup id = state.registry.agents.lookup id) ∧
    ∀ name, next.registry.endpoints.lookup name = state.registry.endpoints.lookup name

def routed (state : CoreState σ) (manifest : RuntimeManifest) : CoreState σ :=
  { state with
    registry.agents := collect (·.id) manifest.agents
    registry.endpoints := collect (·.name) manifest.endpoints }

theorem routed_routes : (state.routed manifest).Routes manifest := ⟨fun _ => rfl, fun _ => rfl⟩

theorem sameRoutes_routed : SameRoutes state (state.routed manifest) ↔ state.Routes manifest := by
  simp only [SameRoutes, Routes, routed, eq_comm]

theorem applyManifest_refused (refused : ¬(state.Applicable codec manifest ∧ poisoned.registry = false)) :
    ∃ error, state.applyManifest codec poisoned manifest = (.error error, state) := by
  unfold applyManifest
  split
  next error _ => exact ⟨error, rfl⟩
  next valid =>
    split
    · exact ⟨_, rfl⟩
    next own =>
      split
      · exact ⟨_, rfl⟩
      next healthy =>
        split
        next error _ => exact ⟨error, rfl⟩
        next provided =>
          simp only [forM_ok, checkRequirement_ok] at provided
          refine absurd ⟨⟨RuntimeManifest.validate_ok.mp valid, of_not_not own, provided⟩, ?_⟩ refused
          simpa using healthy

theorem applyManifest_passed (applicable : state.Applicable codec manifest) (healthy : poisoned.registry = false) :
    state.applyManifest codec poisoned manifest =
      if poisoned.manifest then (.error .internal, state.routed manifest)
      else (.ok (), { state.routed manifest with manifest := some manifest }) := by
  have valid : manifest.validate codec = .ok () := RuntimeManifest.validate_ok.mpr applicable.valid
  have provided : manifest.providers.forM (RuntimeCore.checkRequirement state.registry.providers) = .ok () := by
    simp only [forM_ok, checkRequirement_ok]
    exact applicable.provided
  simp only [applyManifest, valid, applicable.own, healthy, provided, not_true_eq_false, if_false, Bool.false_eq_true,
    ne_eq]
  rfl

/-! ## All or nothing -/

structure Atomic {host : RuntimeHost σ} (books : ReleaseStore host.store) (state : CoreState σ) (version : ℕ)
    (outcome : Except RuntimeError RuntimeRelease × CoreState σ) : Prop where
  failed : ∀ error, outcome.1 = .error error →
    SameRoutes state outcome.2 ∧ outcome.2.manifest = state.manifest ∧
      books.active outcome.2.store = books.active state.store
  activated : ∀ release, outcome.1 = .ok release →
    outcome.2.Routes release.manifest ∧ outcome.2.manifest = some release.manifest ∧
      books.active outcome.2.store state.projectId = some version ∧
      books.release outcome.2.store state.projectId version = some release

/-- A release whose activation stops after its manifest has passed is in use already. -/
def InUse (host : RuntimeHost σ) (poisoned : PoisonedLocks) (state : CoreState σ) (version : ℕ) : Prop :=
  ∀ release, host.store.loadRelease state.store state.projectId version = .ok (some release) →
    state.Applicable host.manifests release.manifest → poisoned.registry = false →
      (poisoned.manifest = true → state.Routes release.manifest) ∧
        (poisoned.manifest = false →
          (∃ error, host.store.setActiveRelease state.store state.projectId version = .error error) →
            state.Routes release.manifest ∧ state.manifest = some release.manifest)

theorem Atomic.unchanged {host : RuntimeHost σ} {books : ReleaseStore host.store} {version : ℕ} {error : RuntimeError} :
    Atomic books state version (.error error, state) where
  failed _ _ := ⟨⟨fun _ => rfl, fun _ => rfl⟩, rfl, rfl⟩
  activated _ impossible := by cases impossible

/-- An activation is all or nothing just when the release is in use already wherever it stops half way. -/
theorem activation_atomic_iff (host : RuntimeHost σ) (books : ReleaseStore host.store) (poisoned : PoisonedLocks)
    (state : CoreState σ) (version : ℕ) :
    Atomic books state version (state.activateRelease host poisoned version) ↔ InUse host poisoned state version := by
  unfold activateRelease
  cases loads : host.store.loadRelease state.store state.projectId version with
  | error error =>
    refine iff_of_true .unchanged fun release isRelease => ?_
    rw [loads] at isRelease
    cases isRelease
  | ok found =>
  cases found with
  | none =>
    refine iff_of_true .unchanged fun release isRelease => ?_
    rw [loads] at isRelease
    cases isRelease
  | some release =>
    by_cases passes : state.Applicable host.manifests release.manifest ∧ poisoned.registry = false
    · obtain ⟨applicable, healthy⟩ := passes
      simp only [applyManifest_passed applicable healthy]
      have inUse_iff : InUse host poisoned state version ↔
          (poisoned.manifest = true → state.Routes release.manifest) ∧
            (poisoned.manifest = false →
              (∃ error, host.store.setActiveRelease state.store state.projectId version = .error error) →
                state.Routes release.manifest ∧ state.manifest = some release.manifest) := by
        constructor
        · exact fun inUse => inUse release loads applicable healthy
        · intro inUse other isOther _ _
          cases loads.symm.trans isOther
          exact inUse
      rw [inUse_iff]
      cases poisonedManifest : poisoned.manifest with
      | true =>
        -- the routes are replaced, and the manifest is not
        simp only [if_true, true_imp_iff, Bool.true_eq_false, false_imp_iff, and_true]
        constructor
        · exact fun atomic => sameRoutes_routed.mp (atomic.failed _ rfl).1
        · exact fun routes => ⟨fun _ _ => ⟨sameRoutes_routed.mpr routes, rfl, rfl⟩, fun _ impossible => by cases impossible⟩
      | false =>
        simp only [Bool.false_eq_true, if_false, false_imp_iff, true_imp_iff, true_and]
        show Atomic books state version
            (match host.store.setActiveRelease state.store state.projectId version with
              | .error error => (.error error, { state.routed release.manifest with manifest := some release.manifest })
              | .ok store =>
                (.ok release, { state.routed release.manifest with manifest := some release.manifest, store })) ↔ _
        cases sets : host.store.setActiveRelease state.store state.projectId version with
        | error error =>
          -- registry and manifest are replaced, and the active version is not
          simp only [Except.error.injEq, exists_eq', true_imp_iff]
          constructor
          · intro atomic
            obtain ⟨routes, same, _⟩ := atomic.failed _ rfl
            exact ⟨sameRoutes_routed.mp routes, same.symm⟩
          · intro ⟨routes, same⟩
            exact ⟨fun _ _ => ⟨sameRoutes_routed.mpr routes, same.symm, rfl⟩, fun _ impossible => by cases impossible⟩
        | ok store =>
          refine iff_of_true ⟨fun _ impossible => (by cases impossible), fun activated isActivated => ?_⟩ (by simp)
          cases isActivated
          refine ⟨routed_routes, rfl, ?_, ?_⟩
          · rw [books.activate_active sets, if_pos rfl]
          · rw [books.activate_release sets]
            exact (books.load_ok loads).symm
    · obtain ⟨error, refused⟩ := applyManifest_refused passes
      simp only [refused]
      refine iff_of_true .unchanged fun other isOther applicable healthy => ?_
      rw [loads] at isOther
      cases isOther
      exact absurd ⟨applicable, healthy⟩ passes

/-- The store of the town while another process is writing to it. -/
def lockedHost : RuntimeHost MemoryRuntimeStore :=
  { townHost with store := townHost.store.failing ⟨none, none, none, some (.store "database is locked")⟩ }

def releasedTown : CoreState MemoryRuntimeStore :=
  { townRuntime with
    registry.providers := (∅ : HashMap String AgentProvider).insert "models" ⟨fun capability => capability == "chat"⟩
    store.releases := (∅ : HashMap (String × ℕ) RuntimeRelease).insert ("town", 1) (guideRelease 1) }

/-- The release cannot be activated, and its manifest stays in use. -/
theorem locked_activation_applies :
    ¬∀ (host : RuntimeHost MemoryRuntimeStore) (books : ReleaseStore host.store) (poisoned : PoisonedLocks)
        (state : CoreState MemoryRuntimeStore) (version : ℕ),
      Atomic books state version (state.activateRelease host poisoned version) := by
  intro atomic
  have locked := atomic lockedHost ((MemoryRuntimeStore.serving (guideCodec "chat")).toReleaseStore.failing _)
    ⟨false, false⟩ releasedTown 1
  cases outcome : (releasedTown.activateRelease lockedHost ⟨false, false⟩ 1).1 with
  | ok release =>
    have fails : (releasedTown.activateRelease lockedHost ⟨false, false⟩ 1).1.isOk = false := by decide +kernel
    rw [outcome] at fails
    cases fails
  | error error =>
    have kept := (locked.failed error outcome).2.1
    have applied : (releasedTown.activateRelease lockedHost ⟨false, false⟩ 1).2.manifest.isSome = true := by
      decide +kernel
    rw [kept] at applied
    cases applied

end CoreState

end Vifu.Runtime
