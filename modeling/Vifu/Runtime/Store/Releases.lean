import Vifu.Foundation.Lockstep
import Vifu.Foundation.Table
import Vifu.Runtime.Store.Memory
import Vifu.Runtime.Store.Sqlite

/-!
# Releases in the two stores

The stores enforce the immutability of a release by different means: one looks the version up
in a map, the other relies on constraints of the table and reads the row back.  Served with the
same operations, they give the same results (`releases_interchangeable`), except that the
table also refuses to store one content under two versions (`rerelease_differs`).
-/

namespace Vifu.Runtime

open Foundation

inductive ReleaseOperation where
  | saveRelease (release : RuntimeRelease) (unixTimeMs : ℕ)
  | loadRelease (projectId : String) (version : ℕ)
  | listReleases (projectId : String)
  | setActiveRelease (projectId : String) (version : ℕ)
  | activeRelease (projectId : String)

inductive ReleaseReply where
  | done
  | release (found : Option RuntimeRelease)
  | releases (stored : List RuntimeRelease)
  | version (active : Option ℕ)
  deriving DecidableEq, Repr

/-- The reply to an operation that writes, and the state after it. -/
def written {σ ρ : Type} (done : ρ) (state : σ) : Except RuntimeError σ → Except RuntimeError ρ × σ
  | .ok next => (.ok done, next)
  | .error error => (.error error, state)

def serveRelease {σ : Type} (store : RuntimeStore σ) (state : σ) :
    ReleaseOperation → Except RuntimeError ReleaseReply × σ
  | .saveRelease release unixTimeMs => written .done state (store.saveRelease state release unixTimeMs)
  | .loadRelease projectId version => ((store.loadRelease state projectId version).map .release, state)
  | .listReleases projectId => ((store.listReleases state projectId).map .releases, state)
  | .setActiveRelease projectId version => written .done state (store.setActiveRelease state projectId version)
  | .activeRelease projectId => ((store.activeRelease state projectId).map .version, state)

/-- The same `Ok` value, or an error in both. -/
def SameResult {ρ : Type} : Except RuntimeError ρ → Except RuntimeError ρ → Prop
  | .ok left, .ok right => left = right
  | .error _, .error _ => True
  | _, _ => False

/-- What the table asks of an operation besides what the map does: integers fit in `i64`, and
    no content of a release is stored under another version of its project. -/
def ReleaseAdmitted (memory : MemoryRuntimeStore) : ReleaseOperation → Prop
  | .saveRelease release unixTimeMs =>
    release.version < i64Bound ∧ unixTimeMs < i64Bound ∧
      ∀ key existing, memory.releases.lookup key = some existing → key.1 = release.manifest.projectId →
        existing.contentHash = release.contentHash → key.2 = release.version
  | .loadRelease _ version => version < i64Bound
  | _ => True

instance decidableReleaseAdmitted : ∀ memory operation, Decidable (ReleaseAdmitted memory operation) := by
  intro memory operation
  unfold ReleaseAdmitted
  cases operation <;> infer_instance

/-! ## The rows of the map's entries -/

variable {codec : StoreCodec} {entry : (_ : String × ℕ) × RuntimeRelease} {row : ReleaseRow}

structure RowOf (codec : StoreCodec) (row : ReleaseRow) (entry : (_ : String × ℕ) × RuntimeRelease) : Prop where
  key : entry.1 = (row.projectId, row.version)
  release : SqliteRuntimeStore.releaseFromRow codec row = .ok entry.2

/-- The table holds the entries of the map, in the same order, and the same active versions. -/
structure SameReleases (codec : StoreCodec) (memory : MemoryRuntimeStore) (sqlite : SqliteRuntimeStore) : Prop where
  rows : List.Forall₂ (RowOf codec) sqlite.releases memory.releases.entries
  active : sqlite.activeReleases = memory.activeReleases
  bounded : ∀ key ∈ memory.releases, key.2 < i64Bound

theorem RowOf.contentHash (isRow : RowOf codec row entry) : entry.2.contentHash = row.contentHash := by
  obtain ⟨manifest, _, same⟩ := bind_ok.mp isRow.release
  cases entry
  cases same
  rfl

theorem RowOf.version (isRow : RowOf codec row entry) : entry.2.version = row.version := by
  obtain ⟨manifest, _, same⟩ := bind_ok.mp isRow.release
  cases entry
  cases same
  rfl

theorem find_row {rows : List ReleaseRow} {entries : List ((_ : String × ℕ) × RuntimeRelease)}
    (related : List.Forall₂ (RowOf codec) rows entries) (projectId : String) (version : ℕ) :
    match rows.find? (fun row => row.projectId = projectId ∧ row.version = version) with
    | some row => ∃ release, entries.dlookup (projectId, version) = some release ∧
        SqliteRuntimeStore.releaseFromRow codec row = .ok release
    | none => entries.dlookup (projectId, version) = none := by
  induction related with
  | nil => rfl
  | @cons row entry rows entries head tail ih =>
    obtain ⟨key, release⟩ := entry
    have isKey : key = (row.projectId, row.version) := head.key
    subst isKey
    by_cases found : row.projectId = projectId ∧ row.version = version
    · rw [List.find?_cons_of_pos (by simpa using found)]
      obtain ⟨rfl, rfl⟩ := found
      exact ⟨release, List.dlookup_cons_eq _ _ _, head.release⟩
    · have differs : (projectId, version) ≠ (row.projectId, row.version) := by
        rintro ⟨⟩
        exact found ⟨rfl, rfl⟩
      rw [List.find?_cons_of_neg (by simpa using found), List.dlookup_cons_ne _ _ differs]
      exact ih

variable {sqlite : SqliteRuntimeStore} {memory : MemoryRuntimeStore} {release : RuntimeRelease}

section

variable (same : SameReleases codec memory sqlite)
include same

theorem loadRelease_same {version : ℕ} (fits : version < i64Bound) (projectId : String) :
    SqliteRuntimeStore.loadRelease codec sqlite projectId version = memory.loadRelease projectId version := by
  have found := find_row same.rows projectId version
  simp only [SqliteRuntimeStore.loadRelease, MemoryRuntimeStore.loadRelease, toI64, if_pos fits]
  cases isRow : sqlite.releases.find? fun row => row.projectId = projectId ∧ row.version = version with
  | none =>
    rw [isRow] at found
    dsimp only [bind, Except.bind]
    rw [isRow]
    exact congrArg Except.ok found.symm
  | some row =>
    rw [isRow] at found
    obtain ⟨release, stored, reads⟩ := found
    dsimp only [bind, Except.bind]
    rw [isRow]
    show (SqliteRuntimeStore.releaseFromRow codec row >>= fun release => pure (some release)) = _
    rw [reads]
    exact congrArg Except.ok stored.symm

theorem listReleases_same (projectId : String) :
    SqliteRuntimeStore.listReleases codec sqlite projectId = memory.listReleases projectId := by
  have filtered : List.Forall₂ (RowOf codec) (sqlite.releases.filter (·.projectId = projectId))
      (memory.releases.entries.filter (·.1.1 = projectId)) := by
    refine List.rel_filter (fun row entry isRow => ?_) same.rows
    simp [isRow.key]
  have selected : List.Forall₂ (fun row release => SqliteRuntimeStore.releaseFromRow codec row = .ok release ∧
        release.version = row.version)
      (sqlite.releases.filter (·.projectId = projectId))
      ((memory.releases.entries.filter (·.1.1 = projectId)).map (·.2)) := by
    rw [List.forall₂_map_right_iff]
    exact filtered.imp fun _ _ isRow => ⟨isRow.release, isRow.version⟩
  have sorted := related_insertionSort (fun left right : ReleaseRow => right.version ≤ left.version)
    (fun left right : RuntimeRelease => right.version ≤ left.version)
    (by
      intro left right leftRelease rightRelease isLeft isRight
      rw [isLeft.2, isRight.2]) selected
  exact mapM_ok (sorted.imp fun _ _ isRow => isRow.1)

theorem conflicts_iff
    (single : ∀ key existing, memory.releases.lookup key = some existing → key.1 = release.manifest.projectId →
      existing.contentHash = release.contentHash → key.2 = release.version) :
    SqliteRuntimeStore.conflicts sqlite.releases release.manifest.projectId release.version release.contentHash =
      (memory.releases.lookup (release.manifest.projectId, release.version)).isSome := by
  rw [Bool.eq_iff_iff, AList.lookup_isSome]
  constructor
  · intro conflict
    obtain ⟨row, isRow, conflicting⟩ := List.any_eq_true.mp conflict
    obtain ⟨sameProject, sameVersionOrContent⟩ := of_decide_eq_true conflicting
    obtain ⟨⟨key, existing⟩, isEntry, rowOf⟩ := exists_related same.rows isRow
    have stored : memory.releases.lookup key = some existing := AList.mem_lookup_iff.mpr isEntry
    have isKey : key = (row.projectId, row.version) := rowOf.key
    have sameVersion : row.version = release.version := by
      rcases sameVersionOrContent with isVersion | isContent
      · exact isVersion
      · have := single key existing stored (by rw [isKey, sameProject]) (by rw [← isContent]; exact rowOf.contentHash)
        rwa [isKey] at this
    rw [isKey, sameProject, sameVersion] at stored
    exact AList.lookup_isSome.mp (by rw [stored]; rfl)
  · intro present
    have found := find_row same.rows release.manifest.projectId release.version
    split at found
    next row isRow =>
      have isKey := List.find?_some isRow
      refine List.any_eq_true.mpr ⟨row, List.mem_of_find?_eq_some isRow, ?_⟩
      simp only [decide_eq_true_eq] at isKey ⊢
      exact ⟨isKey.1, .inl isKey.2⟩
    next =>
      rw [← AList.lookup_isSome, AList.lookup, found] at present
      cases present

theorem foreignKey_iff (projectId : String) (version : ℕ) :
    (∃ row ∈ sqlite.releases, row.projectId = projectId ∧ row.version = version) ↔
      (projectId, version) ∈ memory.releases := by
  have found := find_row same.rows projectId version
  constructor
  · rintro ⟨row, isRow, rfl, rfl⟩
    obtain ⟨⟨key, existing⟩, isEntry, rowOf⟩ := exists_related same.rows isRow
    have isKey : key = (row.projectId, row.version) := rowOf.key
    subst isKey
    exact AList.lookup_isSome.mp (by rw [AList.mem_lookup_iff.mpr isEntry]; rfl)
  · intro present
    split at found
    next row isRow =>
      exact ⟨row, List.mem_of_find?_eq_some isRow, by simpa using List.find?_some isRow⟩
    next =>
      rw [← AList.lookup_isSome, AList.lookup, found] at present
      cases present

end

/-! ## Each operation -/

/-- The texts of the manifest that an operation saves can be read back. -/
def Readable (codec : StoreCodec) : ReleaseOperation → Prop
  | .saveRelease release _ => codec.manifest.RoundTrips release.manifest
  | _ => True

theorem saveRelease_same (same : SameReleases codec memory sqlite) {unixTimeMs : ℕ}
    (admitted : ReleaseAdmitted memory (.saveRelease release unixTimeMs))
    (readable : codec.manifest.RoundTrips release.manifest) :
    let left := written ReleaseReply.done memory
      (MemoryRuntimeStore.saveRelease codec.manifest memory release unixTimeMs)
    let right := written ReleaseReply.done sqlite
      (SqliteRuntimeStore.saveRelease codec sqlite release unixTimeMs)
    SameResult left.1 right.1 ∧ SameReleases codec left.2 right.2 := by
  obtain ⟨versionFits, clockFits, single⟩ := admitted
  obtain ⟨manifestJson, encoded, decoded⟩ := readable
  have conflicting := conflicts_iff same single
  simp only [MemoryRuntimeStore.saveRelease, SqliteRuntimeStore.saveRelease, toI64, if_pos versionFits,
    if_pos clockFits, encoded, storeResult]
  cases release.validate codec.manifest with
  | error invalid => exact ⟨trivial, same⟩
  | ok valid =>
    cases stored : memory.releases.lookup (release.manifest.projectId, release.version) with
    | some existing =>
      rw [stored] at conflicting
      have loaded : SqliteRuntimeStore.loadRelease codec sqlite release.manifest.projectId release.version =
          .ok (some existing) := by
        rw [loadRelease_same same versionFits]
        exact congrArg Except.ok stored
      simp only [bind, Except.bind, conflicting, Option.isSome_some, if_true, loaded, ensure, Option.some.injEq]
      by_cases unchanged : existing = release
      · simp only [if_pos unchanged]
        exact ⟨rfl, same⟩
      · simp only [if_neg unchanged]
        exact ⟨trivial, same⟩
    | none =>
      rw [stored] at conflicting
      simp only [bind, Except.bind, conflicting, Option.isSome_none, Bool.false_eq_true, if_false]
      refine ⟨rfl, ?_, same.active, ?_⟩
      swap
      · intro key mem
        rcases (AList.mem_insert _).mp mem with rfl | earlier
        · exact versionFits
        · exact same.bounded key earlier
      have absent : (release.manifest.projectId, release.version) ∉ memory.releases.entries.keys :=
        AList.lookup_eq_none.mp stored
      show List.Forall₂ (RowOf codec) (_ :: sqlite.releases) (memory.releases.insert _ release).entries
      rw [AList.entries_insert, List.kerase_of_notMem_keys absent]
      refine .cons ⟨rfl, ?_⟩ same.rows
      simp only [SqliteRuntimeStore.releaseFromRow, decoded, storeResult]
      rfl

theorem setActiveRelease_same (same : SameReleases codec memory sqlite) (projectId : String) (version : ℕ) :
    let left := written ReleaseReply.done memory (memory.setActiveRelease projectId version)
    let right := written ReleaseReply.done sqlite (sqlite.setActiveRelease projectId version)
    SameResult left.1 right.1 ∧ SameReleases codec left.2 right.2 := by
  have foreignKey := foreignKey_iff same projectId version
  simp only [MemoryRuntimeStore.setActiveRelease, SqliteRuntimeStore.setActiveRelease, toI64, ensure]
  by_cases present : (projectId, version) ∈ memory.releases
  · rw [if_pos present, if_pos (same.bounded _ present)]
    simp only [bind, Except.bind, if_pos (foreignKey.mpr present)]
    refine ⟨rfl, same.rows, ?_, same.bounded⟩
    show sqlite.activeReleases.insert projectId version = memory.activeReleases.insert projectId version
    rw [same.active]
  · rw [if_neg present]
    by_cases fits : version < i64Bound
    · rw [if_pos fits]
      simp only [bind, Except.bind, if_neg (fun row => present (foreignKey.mp row))]
      exact ⟨trivial, same⟩
    · rw [if_neg fits]
      exact ⟨trivial, same⟩

/-- Served with the same operations, the stores give the same results: as long as no content is
    saved under a second version of its project, versions and the clock fit in `i64`, and the
    JSON of the saved manifests reads back. -/
theorem releases_interchangeable (codec : StoreCodec) (operations : List ReleaseOperation)
    (readable : ∀ operation ∈ operations, Readable codec operation)
    (admitted : Admitted (serveRelease (MemoryRuntimeStore.runtimeStore codec.manifest)) ReleaseAdmitted
      .empty operations) : List.Forall₂ SameResult
      (replies (serveRelease (MemoryRuntimeStore.runtimeStore codec.manifest)) .empty operations)
      (replies (serveRelease (SqliteRuntimeStore.runtimeStore codec)) .empty operations) := by
  have initially : SameReleases codec .empty .empty := ⟨.nil, rfl, nofun⟩
  refine replies_agree ?_ initially (admitted.and readable)
  intro memory sqlite operation same ⟨admitted, readable⟩
  cases operation with
  | saveRelease release unixTimeMs => exact saveRelease_same same admitted readable
  | loadRelease projectId version =>
    refine ⟨?_, same⟩
    show SameResult (Except.map _ (memory.loadRelease projectId version))
      (Except.map _ (SqliteRuntimeStore.loadRelease codec sqlite projectId version))
    rw [loadRelease_same same admitted]
    rfl
  | listReleases projectId =>
    refine ⟨?_, same⟩
    show SameResult (Except.map _ (memory.listReleases projectId))
      (Except.map _ (SqliteRuntimeStore.listReleases codec sqlite projectId))
    rw [listReleases_same same]
    rfl
  | setActiveRelease projectId version => exact setActiveRelease_same same projectId version
  | activeRelease projectId =>
    refine ⟨?_, same⟩
    show SameResult (.ok (ReleaseReply.version (memory.activeReleases.lookup projectId)))
      (.ok (ReleaseReply.version (sqlite.activeReleases.lookup projectId)))
    rw [same.active]
    rfl

def guideRelease (version : ℕ) : RuntimeRelease where
  version := version
  contentHash := "sha256:58ff772b03eeb11c4ab9aa8cfc65ad2a" ++
    "99c30c3e3f6edc41e2fd1f8a475f70db"
  manifest := guideManifest "chat"

def guideStoreCodec : StoreCodec where
  manifest := guideCodec "chat"
  state := ⟨fun _ => .error "unknown value", fun _ => .error "unknown text"⟩
  trace := ⟨fun _ => .error "unknown record", fun _ => .error "unknown text"⟩

/-- Saved, activated, listed and saved again: both stores give the same results. -/
theorem releases_interchangeable_run :
    let operations : List ReleaseOperation := [.saveRelease (guideRelease 1) 1700000000000,
      .setActiveRelease "town" 2, .setActiveRelease "town" 1, .activeRelease "town", .listReleases "town",
      .saveRelease (guideRelease 1) 1700000000001, .loadRelease "town" 1]
    List.Forall₂ SameResult
      (replies (serveRelease (MemoryRuntimeStore.runtimeStore (guideCodec "chat"))) .empty operations)
      (replies (serveRelease (SqliteRuntimeStore.runtimeStore guideStoreCodec)) .empty operations) := by
  intro operations
  apply releases_interchangeable guideStoreCodec operations
  · have readable : Readable guideStoreCodec (.saveRelease (guideRelease 1) 0) := ManifestCodec.single_roundTrips _ _ _
    simp only [operations, List.forall_mem_cons, List.not_mem_nil, false_imp_iff, implies_true, and_true]
    exact ⟨readable, trivial, trivial, trivial, trivial, readable, trivial⟩
  · decide +kernel

/-- The same content is saved as version 1 and as version 2: the table refuses the second. -/
theorem rerelease_refused :
    let operations : List ReleaseOperation := [.saveRelease (guideRelease 1) 1700000000000,
      .saveRelease (guideRelease 2) 1700000000001]
    replies (serveRelease (MemoryRuntimeStore.runtimeStore (guideCodec "chat"))) .empty operations =
        [.ok .done, .ok .done] ∧
      replies (serveRelease (SqliteRuntimeStore.runtimeStore guideStoreCodec)) .empty operations =
        [.ok .done, .error (.store "runtime release versions are immutable")] := by
  decide +kernel

end Vifu.Runtime
