import Vifu.Runtime.Store.Releases
import Vifu.Runtime.Store.Working

/-!
# Releases that are kept and activated

What the releases and the active versions of a store are, what each successful operation does to them, and which
operations succeed.  Both stores of the repository keep and serve releases in this sense.
-/

namespace Vifu.Runtime

open Foundation

/-- The releases and the active versions of a store, and what each successful operation does to them. -/
structure ReleaseStore {σ : Type} (store : RuntimeStore σ) where
  release : σ → (projectId : String) → (version : ℕ) → Option RuntimeRelease
  active : σ → (projectId : String) → Option ℕ
  load_ok : ∀ {state projectId version found}, store.loadRelease state projectId version = .ok found →
    found = release state projectId version
  active_ok : ∀ {state projectId found}, store.activeRelease state projectId = .ok found → found = active state projectId
  save_release : ∀ {state saved unixTimeMs next}, store.saveRelease state saved unixTimeMs = .ok next →
    ∀ projectId version, release next projectId version =
      if (projectId, version) = (saved.manifest.projectId, saved.version) then some saved
      else release state projectId version
  save_active : ∀ {state saved unixTimeMs next}, store.saveRelease state saved unixTimeMs = .ok next →
    active next = active state
  activate_release : ∀ {state projectId version next}, store.setActiveRelease state projectId version = .ok next →
    release next = release state
  activate_active : ∀ {state projectId version next}, store.setActiveRelease state projectId version = .ok next →
    ∀ project, active next project = if project = projectId then some version else active state project

/-- Which operations of a store succeed.  `vacant` says that nothing is stored for a project, and `accepts` which
    releases the store takes at which time. -/
structure ServingStore {σ : Type} (codec : ManifestCodec) (store : RuntimeStore σ) extends ReleaseStore store where
  vacant : σ → (projectId : String) → Prop
  accepts : RuntimeRelease → (unixTimeMs : ℕ) → Prop
  vacant_release : ∀ {state projectId}, vacant state projectId → ∀ version, release state projectId version = none
  load_found : ∀ {state projectId version found}, release state projectId version = some found →
    store.loadRelease state projectId version = .ok (some found)
  active_found : ∀ state projectId, store.activeRelease state projectId = .ok (active state projectId)
  save_vacant : ∀ {state saved unixTimeMs}, vacant state saved.manifest.projectId → saved.validate codec = .ok () →
    accepts saved unixTimeMs → ∃ next, store.saveRelease state saved unixTimeMs = .ok next
  save_same : ∀ {state saved unixTimeMs}, release state saved.manifest.projectId saved.version = some saved →
    saved.validate codec = .ok () → accepts saved unixTimeMs → ∃ next, store.saveRelease state saved unixTimeMs = .ok next
  save_other : ∀ {state saved unixTimeMs other}, release state saved.manifest.projectId saved.version = some other →
    other ≠ saved → ∃ error, store.saveRelease state saved unixTimeMs = .error error
  activate_found : ∀ {state projectId version found}, release state projectId version = some found →
    ∃ next, store.setActiveRelease state projectId version = .ok next

/-- The errors with which the operations on releases fail instead of being served. -/
structure StoreFaults where
  saveRelease : Option RuntimeError
  loadRelease : Option RuntimeError
  activeRelease : Option RuntimeError
  setActiveRelease : Option RuntimeError

def unlessFault {α : Type} (fault : Option RuntimeError) (result : Except RuntimeError α) : Except RuntimeError α :=
  match fault with
  | some error => .error error
  | none => result

theorem unlessFault_ok {α : Type} {fault : Option RuntimeError} {result : Except RuntimeError α} {value : α}
    (succeeds : unlessFault fault result = .ok value) : result = .ok value := by
  cases fault with
  | none => exact succeeds
  | some error => cases succeeds

def RuntimeStore.failing {σ : Type} (store : RuntimeStore σ) (faults : StoreFaults) : RuntimeStore σ :=
  { store with
    saveRelease := fun state release unixTimeMs =>
      unlessFault faults.saveRelease (store.saveRelease state release unixTimeMs)
    loadRelease := fun state projectId version => unlessFault faults.loadRelease (store.loadRelease state projectId version)
    activeRelease := fun state projectId => unlessFault faults.activeRelease (store.activeRelease state projectId)
    setActiveRelease := fun state projectId version =>
      unlessFault faults.setActiveRelease (store.setActiveRelease state projectId version) }

/-- Faults do not change what the successful operations do. -/
def ReleaseStore.failing {σ : Type} {store : RuntimeStore σ} (books : ReleaseStore store) (faults : StoreFaults) :
    ReleaseStore (store.failing faults) where
  release := books.release
  active := books.active
  load_ok loaded := books.load_ok (unlessFault_ok loaded)
  active_ok found := books.active_ok (unlessFault_ok found)
  save_release saved := books.save_release (unlessFault_ok saved)
  save_active saved := books.save_active (unlessFault_ok saved)
  activate_release activated := books.activate_release (unlessFault_ok activated)
  activate_active activated := books.activate_active (unlessFault_ok activated)

/-! ## The map -/

namespace MemoryRuntimeStore

variable {codec : ManifestCodec} {store next : MemoryRuntimeStore} {saved : RuntimeRelease} {unixTimeMs version : ℕ}
  {projectId : String}

theorem saveRelease_cases (succeeds : (runtimeStore codec).saveRelease store saved unixTimeMs = .ok next) :
    store.releases.lookup (saved.manifest.projectId, saved.version) = some saved ∧ next = store ∨
      next = { store with releases := store.releases.insert (saved.manifest.projectId, saved.version) saved } := by
  simp only [runtimeStore, saveRelease, check_bind_ok] at succeeds
  obtain ⟨_, succeeds⟩ := succeeds
  split at succeeds
  next existing stored =>
    rw [check_bind_ok, ensure_ok, pure_ok] at succeeds
    obtain ⟨rfl, rfl⟩ := succeeds
    exact .inl ⟨stored, rfl⟩
  next =>
    rw [pure_ok] at succeeds
    exact .inr succeeds.symm

theorem setActiveRelease_ok (succeeds : setActiveRelease store projectId version = .ok next) :
    next = { store with activeReleases := store.activeReleases.insert projectId version } := by
  simp only [setActiveRelease, check_bind_ok, pure_ok] at succeeds
  exact succeeds.2.symm

theorem saveRelease_new (absent : store.releases.lookup (saved.manifest.projectId, saved.version) = none)
    (valid : saved.validate codec = .ok ()) : (runtimeStore codec).saveRelease store saved unixTimeMs =
      .ok { store with releases := store.releases.insert (saved.manifest.projectId, saved.version) saved } := by
  show saveRelease codec store saved unixTimeMs = _
  rw [saveRelease, valid]
  simp only [absent]
  rfl

theorem saveRelease_again (stored : store.releases.lookup (saved.manifest.projectId, saved.version) = some saved)
    (valid : saved.validate codec = .ok ()) : (runtimeStore codec).saveRelease store saved unixTimeMs = .ok store := by
  show saveRelease codec store saved unixTimeMs = _
  rw [saveRelease, valid]
  simp only [stored, ensure, if_true]
  rfl

theorem setActiveRelease_stored {found : RuntimeRelease} (stored : store.releases.lookup (projectId, version) = some found) :
    setActiveRelease store projectId version =
      .ok { store with activeReleases := store.activeReleases.insert projectId version } := by
  rw [setActiveRelease, ensure, if_pos (AList.lookup_isSome.mp (by rw [stored]; rfl))]
  rfl

/-- The map keeps its releases and serves every operation on them. -/
def serving (codec : ManifestCodec) : ServingStore codec (runtimeStore codec) where
  release store projectId version := store.releases.lookup (projectId, version)
  active store projectId := store.activeReleases.lookup projectId
  vacant store projectId := ∀ version, store.releases.lookup (projectId, version) = none
  accepts _ _ := True
  load_ok loaded := (Except.ok.inj loaded).symm
  active_ok found := (Except.ok.inj found).symm
  save_release succeeds projectId version := by
    rcases saveRelease_cases succeeds with ⟨stored, rfl⟩ | rfl
    · split
      next same => rw [same, stored]
      next => rfl
    · split
      next same => rw [same, AList.lookup_insert]
      next differs => rw [AList.lookup_insert_ne differs]
  save_active succeeds := by
    rcases saveRelease_cases succeeds with ⟨_, rfl⟩ | rfl <;> rfl
  activate_release succeeds := by
    rw [setActiveRelease_ok succeeds]
  activate_active succeeds project := by
    rw [setActiveRelease_ok succeeds]
    split
    next same => rw [same, AList.lookup_insert]
    next differs => rw [AList.lookup_insert_ne differs]
  vacant_release vacant := vacant
  load_found stored := congrArg Except.ok stored
  active_found _ _ := rfl
  save_vacant vacant valid _ := ⟨_, saveRelease_new (vacant _) valid⟩
  save_same stored valid _ := ⟨_, saveRelease_again stored valid⟩
  save_other {state saved unixTimeMs other} stored differs := by
    cases outcome : (runtimeStore codec).saveRelease state saved unixTimeMs with
    | error error => exact ⟨error, rfl⟩
    | ok next =>
      rcases saveRelease_cases outcome with ⟨isSaved, _⟩ | inserted
      · rw [isSaved, Option.some.injEq] at stored
        exact absurd stored.symm differs
      · simp only [runtimeStore, saveRelease, check_bind_ok, stored, ensure_ok] at outcome
        exact absurd outcome.2.1 differs
  activate_found stored := ⟨_, setActiveRelease_stored stored⟩

end MemoryRuntimeStore

/-! ## The table -/

namespace SqliteRuntimeStore

variable {codec : StoreCodec} {store next : SqliteRuntimeStore} {saved found : RuntimeRelease}
  {unixTimeMs version : ℕ} {projectId : String}

def ReadsBack (codec : StoreCodec) : Prop :=
  ∀ manifest bytes, codec.manifest.toVec manifest = .ok bytes → codec.manifest.fromSlice bytes = .ok manifest

/-- The release that a row of the table holds, if its manifest can be read. -/
def storedRelease (codec : StoreCodec) (store : SqliteRuntimeStore) (projectId : String) (version : ℕ) :
    Option RuntimeRelease :=
  (loadRelease codec store projectId version).toOption.join

theorem loadRelease_stored (stored : storedRelease codec store projectId version = some found) :
    loadRelease codec store projectId version = .ok (some found) := by
  rw [storedRelease] at stored
  cases loaded : loadRelease codec store projectId version with
  | error error =>
    rw [loaded] at stored
    cases stored
  | ok held =>
    rw [loaded] at stored
    exact congrArg Except.ok stored

theorem loadRelease_row (loaded : loadRelease codec store projectId version = .ok (some found)) :
    version < i64Bound ∧ ∃ row ∈ store.releases, row.projectId = projectId ∧ row.version = version := by
  simp only [loadRelease, bind_ok] at loaded
  obtain ⟨converted, conversion, loaded⟩ := loaded
  obtain ⟨fits, rfl⟩ := toI64_ok.mp conversion
  split at loaded
  next => cases loaded
  next row isRow => exact ⟨fits, row, List.mem_of_find?_eq_some isRow, by simpa using List.find?_some isRow⟩

theorem saveRelease_cases (readsBack : ReadsBack codec) (succeeds : saveRelease codec store saved unixTimeMs = .ok next) :
    saved.version < i64Bound ∧
      (storedRelease codec store saved.manifest.projectId saved.version = some saved ∧ next = store ∨
        storedRelease codec store saved.manifest.projectId saved.version = none ∧
          ∃ row, (row.projectId = saved.manifest.projectId ∧ row.version = saved.version ∧
            releaseFromRow codec row = .ok saved) ∧ next = { store with releases := row :: store.releases }) := by
  simp only [saveRelease, bind_ok] at succeeds
  obtain ⟨_, _, version, conversion, manifestJson, encoded, installedAtMs, _, succeeds⟩ := succeeds
  obtain ⟨fits, rfl⟩ := toI64_ok.mp conversion
  refine ⟨fits, ?_⟩
  split at succeeds
  next =>
    obtain ⟨existing, loaded, succeeds⟩ := bind_ok.mp succeeds
    rw [check_bind_ok, ensure_ok, pure_ok] at succeeds
    obtain ⟨rfl, rfl⟩ := succeeds
    refine .inl ⟨?_, rfl⟩
    rw [storedRelease, loaded]
    rfl
  next free =>
    rw [pure_ok] at succeeds
    refine .inr ⟨?_, _, ⟨rfl, rfl, ?_⟩, succeeds.symm⟩
    · cases stored : storedRelease codec store saved.manifest.projectId saved.version with
      | none => rfl
      | some found =>
        obtain ⟨_, row, isRow, sameProject, sameVersion⟩ := loadRelease_row (loadRelease_stored stored)
        exact absurd (List.any_eq_true.mpr ⟨row, isRow, decide_eq_true ⟨sameProject, .inl sameVersion⟩⟩) free
    rw [releaseFromRow, storeResult_ok.mpr (readsBack _ _ (storeResult_ok.mp encoded))]
    rfl

theorem storedRelease_cons {row : ReleaseRow} (fits : row.version < i64Bound) (reads : releaseFromRow codec row = .ok saved)
    (projectId : String) (version : ℕ) :
    storedRelease codec { store with releases := row :: store.releases } projectId version =
      if (projectId, version) = (row.projectId, row.version) then some saved
      else storedRelease codec store projectId version := by
  simp only [storedRelease, loadRelease]
  split
  next same =>
    cases same
    rw [toI64, if_pos fits, ok_bind, List.find?_cons_of_pos (by simp)]
    show ((releaseFromRow codec row >>= fun release => pure (some release)).toOption).join = _
    rw [reads]
    rfl
  next differs =>
    cases converts : toI64 version with
    | error error => rfl
    | ok converted =>
      obtain ⟨_, rfl⟩ := toI64_ok.mp converts
      have other : ¬(row.projectId = projectId ∧ row.version = version) := by
        rintro ⟨sameProject, sameVersion⟩
        exact differs (by rw [sameProject, sameVersion])
      rw [ok_bind, ok_bind, List.find?_cons_of_neg (by simpa using other)]

theorem setActiveRelease_ok (succeeds : setActiveRelease store projectId version = .ok next) :
    next = { store with activeReleases := store.activeReleases.insert projectId version } := by
  simp only [setActiveRelease, bind_ok] at succeeds
  obtain ⟨_, conversion, _, _, same⟩ := succeeds
  obtain ⟨_, rfl⟩ := toI64_ok.mp conversion
  exact (pure_ok.mp same).symm

theorem setActiveRelease_stored (stored : storedRelease codec store projectId version = some found) :
    setActiveRelease store projectId version =
      .ok { store with activeReleases := store.activeReleases.insert projectId version } := by
  obtain ⟨fits, row⟩ := loadRelease_row (loadRelease_stored stored)
  rw [setActiveRelease, toI64, if_pos fits, ok_bind, ensure, if_pos row]
  rfl

theorem saveRelease_vacant (vacant : ∀ row ∈ store.releases, row.projectId ≠ saved.manifest.projectId)
    (valid : saved.validate codec.manifest = .ok ()) (versionFits : saved.version < i64Bound)
    (clockFits : unixTimeMs < i64Bound) (encodes : ∃ bytes, codec.manifest.toVec saved.manifest = .ok bytes) :
    ∃ next, saveRelease codec store saved unixTimeMs = .ok next := by
  obtain ⟨bytes, encoded⟩ := encodes
  have free : conflicts store.releases saved.manifest.projectId saved.version saved.contentHash = false := by
    refine List.any_eq_false.mpr fun row isRow conflicting => ?_
    exact vacant row isRow (of_decide_eq_true conflicting).1
  rw [saveRelease, valid, ok_bind, toI64, if_pos versionFits, ok_bind, storeResult_ok.mpr encoded, ok_bind, toI64,
    if_pos clockFits, ok_bind]
  simp only [free]
  exact ⟨_, rfl⟩

theorem saveRelease_again (stored : storedRelease codec store saved.manifest.projectId saved.version = some saved)
    (valid : saved.validate codec.manifest = .ok ()) (clockFits : unixTimeMs < i64Bound)
    (encodes : ∃ bytes, codec.manifest.toVec saved.manifest = .ok bytes) :
    saveRelease codec store saved unixTimeMs = .ok store := by
  obtain ⟨bytes, encoded⟩ := encodes
  have loaded := loadRelease_stored stored
  obtain ⟨versionFits, row, isRow, sameProject, sameVersion⟩ := loadRelease_row loaded
  have taken : conflicts store.releases saved.manifest.projectId saved.version saved.contentHash = true :=
    List.any_eq_true.mpr ⟨row, isRow, decide_eq_true ⟨sameProject, .inl sameVersion⟩⟩
  rw [saveRelease, valid, ok_bind, toI64, if_pos versionFits, ok_bind, storeResult_ok.mpr encoded, ok_bind, toI64,
    if_pos clockFits, ok_bind]
  simp only [taken, loaded, if_true, ok_bind, ensure]
  rfl

/-- The table keeps its releases, and takes them as long as their numbers fit and their JSON can be written. -/
def serving (codec : StoreCodec) (readsBack : ReadsBack codec) : ServingStore codec.manifest (runtimeStore codec) where
  release := storedRelease codec
  active store projectId := store.activeReleases.lookup projectId
  vacant store projectId := ∀ row ∈ store.releases, row.projectId ≠ projectId
  accepts saved unixTimeMs :=
    saved.version < i64Bound ∧ unixTimeMs < i64Bound ∧ ∃ bytes, codec.manifest.toVec saved.manifest = .ok bytes
  load_ok {state projectId version found} loaded := by
    have held : loadRelease codec state projectId version = .ok found := loaded
    rw [storedRelease, held]
    rfl
  active_ok found := (Except.ok.inj found).symm
  save_release succeeds projectId version := by
    obtain ⟨fits, ⟨stored, rfl⟩ | ⟨_, row, ⟨sameProject, sameVersion, reads⟩, rfl⟩⟩ :=
      saveRelease_cases readsBack succeeds
    · split
      next same =>
        cases same
        exact stored
      next => rfl
    · rw [storedRelease_cons (sameVersion ▸ fits) reads, sameProject, sameVersion]
  save_active succeeds := by
    obtain ⟨_, ⟨_, rfl⟩ | ⟨_, _, _, rfl⟩⟩ := saveRelease_cases readsBack succeeds <;> rfl
  activate_release succeeds := by
    rw [setActiveRelease_ok succeeds]
    rfl
  activate_active succeeds project := by
    rw [setActiveRelease_ok succeeds]
    split
    next same => rw [same, AList.lookup_insert]
    next differs => rw [AList.lookup_insert_ne differs]
  vacant_release {state projectId} vacant version := by
    cases stored : storedRelease codec state projectId version with
    | none => rfl
    | some found =>
      obtain ⟨_, row, isRow, same, _⟩ := loadRelease_row (loadRelease_stored stored)
      exact absurd same (vacant row isRow)
  load_found := loadRelease_stored
  active_found _ _ := rfl
  save_vacant vacant valid accepted := saveRelease_vacant vacant valid accepted.1 accepted.2.1 accepted.2.2
  save_same stored valid accepted := ⟨_, saveRelease_again stored valid accepted.2.1 accepted.2.2⟩
  save_other {state saved unixTimeMs other} stored differs := by
    cases outcome : (runtimeStore codec).saveRelease state saved unixTimeMs with
    | error error => exact ⟨error, rfl⟩
    | ok next =>
      obtain ⟨_, ⟨isSaved, _⟩ | ⟨absent, _⟩⟩ := saveRelease_cases readsBack outcome
      · exact absurd (Option.some.inj (stored.symm.trans isSaved)) differs
      · cases stored.symm.trans absent
  activate_found stored := ⟨_, setActiveRelease_stored stored⟩

end SqliteRuntimeStore

end Vifu.Runtime
