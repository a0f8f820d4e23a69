import Vifu.Foundation.Walks
import Vifu.Runtime.Core.Snapshot

/-!
# Restores that fail

A `restore_snapshot` that nothing interrupts: it saves the sessions one after the other, and replaces the cache once
they are all saved.  When it fails on the way, the sessions before have been saved.
-/

namespace Vifu.Runtime

open Foundation

structure MapOrder (V : Type) where
  entries : HashMap String V → List ((_ : String) × V)
  complete : ∀ table, (entries table).Perm table.entries

def MapOrder.asStored {V : Type} : MapOrder V where
  entries table := table.entries
  complete _ := .refl _

def saveSession {σ : Type} (store : RuntimeStore σ) (projectId : String) (state : σ)
    (entry : (_ : String) × RuntimeSnapshot) : Except RuntimeError σ := do
  validateIdentifier "session" entry.1
  store.save state projectId entry.1 entry.2

namespace CoreState

variable {σ : Type}

/-- `restore_snapshot`.  The lock of the cache may be poisoned. -/
def restore (state : CoreState σ) (host : RuntimeHost σ) (order : MapOrder RuntimeSnapshot) (poisoned : Bool)
    (bytes : List UInt8) : Except RuntimeError Unit × CoreState σ :=
  match host.snapshots.fromSlice bytes with
  | .error message => (.error (.snapshot message), state)
  | .ok snapshot =>
    if snapshot.version ≠ snapshotVersion ∨ snapshot.projectId ≠ state.projectId then
      (.error (.snapshot "snapshot version or project does not match"), state)
    else
      match walk (saveSession host.store state.projectId) state.store (order.entries snapshot.sessions) with
      | (.error error, store) => (.error error, { state with store })
      | (.ok (), store) =>
        if poisoned then (.error .internal, { state with store })
        else (.ok (), { state with store, sessions := snapshot.sessions })

variable {host : RuntimeHost σ}

/-- An error leaves the cache and every stored snapshot as they were. -/
def Unharmed (working : WorkingStore host.store) (state : CoreState σ) (outcome : Except RuntimeError Unit × CoreState σ) :
    Prop :=
  outcome.1 ≠ .ok () → outcome.2.sessions = state.sessions ∧ ∀ projectId session,
    working.snapshot outcome.2.store projectId session = working.snapshot state.store projectId session

/-- Whatever is saved before a restore fails is stored already. -/
def NothingNew (working : WorkingStore host.store) (order : MapOrder RuntimeSnapshot) (poisoned : Bool)
    (bytes : List UInt8) (state : CoreState σ) : Prop :=
  ∀ snapshot, host.snapshots.fromSlice bytes = .ok snapshot → snapshot.version = snapshotVersion →
    snapshot.projectId = state.projectId → ∀ saved rest store, order.entries snapshot.sessions = saved ++ rest →
      walk (saveSession host.store state.projectId) state.store saved = (.ok (), store) →
        (∀ entry ∈ rest.head?, ∃ error, saveSession host.store state.projectId store entry = .error error) →
          (rest = [] → poisoned = true) →
            ∀ entry ∈ saved, working.snapshot state.store state.projectId entry.1 = some entry.2

/-! ## What a prefix of the sessions leaves in the store -/

theorem saveSession_ok {store : RuntimeStore σ} {projectId : String} {state next : σ}
    {entry : (_ : String) × RuntimeSnapshot} (saves : saveSession store projectId state entry = .ok next) :
    store.save state projectId entry.1 entry.2 = .ok next :=
  (check_bind_ok.mp saves).2

variable {working : WorkingStore host.store} {projectId : String} {before after : σ}
  {entries : List ((_ : String) × RuntimeSnapshot)}

section

variable (distinct : (entries.map Sigma.fst).Nodup)
  (done : walk (saveSession host.store projectId) before entries = (.ok (), after))
include distinct done

theorem saved_snapshots : (∀ entry ∈ entries, working.snapshot after projectId entry.1 = some entry.2) ∧
      ∀ project session, (project = projectId → session ∉ entries.map Sigma.fst) →
        working.snapshot after project session = working.snapshot before project session := by
  induction entries generalizing before with
  | nil =>
    cases done
    exact ⟨by simp, fun _ _ _ => rfl⟩
  | cons entry entries ih =>
    rw [List.map_cons, List.nodup_cons] at distinct
    rw [walk] at done
    split at done
    · cases done
    next middle saves =>
      have written := working.save_snapshot (saveSession_ok saves)
      obtain ⟨saved, kept⟩ := ih distinct.2 done
      constructor
      · rw [List.forall_mem_cons]
        refine ⟨?_, saved⟩
        rw [kept projectId entry.1 fun _ => distinct.1, written, if_pos rfl]
      · intro project session other
        have later : project = projectId → session ∉ entries.map Sigma.fst := fun same mem =>
          other same (List.mem_cons_of_mem _ mem)
        rw [kept project session later, written, if_neg]
        rintro ⟨rfl, rfl⟩
        exact other rfl List.mem_cons_self

theorem saved_unchanged_iff :
    (∀ project session, working.snapshot after project session = working.snapshot before project session) ↔
      ∀ entry ∈ entries, working.snapshot before projectId entry.1 = some entry.2 := by
  obtain ⟨saved, kept⟩ := @saved_snapshots _ _ working _ _ _ _ distinct done
  constructor
  · intro same entry mem
    rw [← same, saved entry mem]
  · intro stored project session
    by_cases touched : project = projectId ∧ session ∈ entries.map Sigma.fst
    · obtain ⟨rfl, isSaved⟩ := touched
      obtain ⟨entry, mem, rfl⟩ := List.mem_map.mp isSaved
      rw [saved entry mem, stored entry mem]
    · exact kept project session fun same mem => touched ⟨same, mem⟩

end

end CoreState

theorem MapOrder.distinct (order : MapOrder RuntimeSnapshot) {sessions : HashMap String RuntimeSnapshot}
    {saved rest : List ((_ : String) × RuntimeSnapshot)} (parts : order.entries sessions = saved ++ rest) :
    (saved.map Sigma.fst).Nodup := by
  have distinct : ((order.entries sessions).map Sigma.fst).Nodup :=
    ((order.complete sessions).map _).nodup_iff.mpr sessions.nodupKeys
  rw [parts, List.map_append] at distinct
  exact (List.nodup_append.mp distinct).1

namespace CoreState

/-! ## The sections of a restore -/

section

variable {state : CoreState σ} {sessions : HashMap String RuntimeSnapshot} {saved : List String} {call : ℕ}
  {result : Except RuntimeError Unit} {store : σ}

/-- The rounds of the loop are the sections of the restores that other calls may interrupt. -/
theorem rounds_run (projectId : String) (initial : σ)
    (stored : ∀ entry ∈ entries, sessions.lookup entry.1 = some entry.2) (distinct : (entries.map Sigma.fst).Nodup)
    (unsaved : ∀ entry ∈ entries, entry.1 ∉ saved) (saving : state.restores[call]? = some (.saving sessions saved))
    (walked : walk (saveSession host.store state.projectId) state.store entries = (result, store)) :
    ∃ next, (machine host projectId initial).RunsTo Machine.always state next ∧ next.store = store ∧
      next.sessions = state.sessions ∧ (result = .ok () → ∃ all, next.restores[call]? = some (.saving sessions all) ∧
        ∀ session, session ∈ saved ∨ session ∈ entries.map Sigma.fst → session ∈ all) := by
  induction entries generalizing state saved with
  | nil =>
    cases walked
    exact ⟨state, .refl, rfl, rfl, fun _ => ⟨saved, saving, by simp⟩⟩
  | cons entry entries ih =>
    rw [List.forall_mem_cons] at stored unsaved
    rw [List.map_cons, List.nodup_cons] at distinct
    have small : call < state.restores.length := (List.getElem?_eq_some_iff.mp saving).1
    cases round : saveSession host.store state.projectId state.store entry with
    | error error =>
      rw [walk, round] at walked
      cases walked
      have stepped : (machine host projectId initial).step state (.restoreSession call entry.1) =
          some { state with restores := state.restores.set call .returned } := by
        rw [saveSession] at round
        show state.restoreSession host call entry.1 = _
        simp only [restoreSession, saving, stored.1, if_neg unsaved.1, round]
      exact ⟨_, .single ⟨_, trivial, stepped⟩, rfl, rfl, fun succeeded => by cases succeeded⟩
    | ok middle =>
      rw [walk_cons round] at walked
      have stepped : (machine host projectId initial).step state (.restoreSession call entry.1) =
          some ({ state with
            store := middle
            restores := state.restores.set call (.saving sessions (entry.1 :: saved)) }.record
              (.restored entry.1 entry.2)) := by
        rw [saveSession] at round
        show state.restoreSession host call entry.1 = _
        simp only [restoreSession, saving, stored.1, if_neg unsaved.1, round]
      have later : ∀ other ∈ entries, other.1 ∉ entry.1 :: saved := by
        intro other mem isSaved
        rcases List.mem_cons.mp isSaved with same | earlier
        · exact distinct.1 (same ▸ List.mem_map_of_mem mem)
        · exact unsaved.2 other mem earlier
      have going : (({ state with
          store := middle
          restores := state.restores.set call (.saving sessions (entry.1 :: saved)) } : CoreState σ).record
            (.restored entry.1 entry.2)).restores[call]? = some (.saving sessions (entry.1 :: saved)) :=
        List.getElem?_set_self small
      obtain ⟨next, run, isStore, kept, done⟩ := ih stored.2 distinct.2 later going walked
      refine ⟨next, .head ⟨_, trivial, stepped⟩ run, isStore, kept, fun succeeded => ?_⟩
      obtain ⟨all, going, covered⟩ := done succeeded
      refine ⟨all, going, fun session mem => covered session ?_⟩
      rw [List.map_cons, List.mem_cons] at mem
      rw [List.mem_cons]
      tauto

theorem restore_run (state : CoreState σ) (host : RuntimeHost σ) (order : MapOrder RuntimeSnapshot) (poisoned : Bool)
    (bytes : List UInt8) (projectId : String) (initial : σ) :
    ∃ next, (machine host projectId initial).RunsTo Machine.always state next ∧
      next.store = (state.restore host order poisoned bytes).2.store ∧
        next.sessions = (state.restore host order poisoned bytes).2.sessions := by
  unfold restore
  cases reads : host.snapshots.fromSlice bytes with
  | error message => exact ⟨state, .refl, rfl, rfl⟩
  | ok snapshot =>
    by_cases foreign : snapshot.version ≠ snapshotVersion ∨ snapshot.projectId ≠ state.projectId
    · simp only [if_pos foreign]
      exact ⟨state, .refl, rfl, rfl⟩
    · simp only [if_neg foreign]
      have begins : (machine host projectId initial).step state (.restoreSnapshot bytes) =
          some { state with restores := state.restores ++ [.saving snapshot.sessions []] } := by
        show some (state.restoreSnapshot host bytes) = _
        simp only [restoreSnapshot, reads, if_neg foreign]
      have stored : ∀ entry ∈ order.entries snapshot.sessions, snapshot.sessions.lookup entry.1 = some entry.2 :=
        fun entry mem => AList.mem_lookup_iff.mpr ((order.complete _).mem_iff.mp mem)
      have distinct := order.distinct (List.append_nil (order.entries snapshot.sessions)).symm
      cases walked : walk (saveSession host.store state.projectId) state.store (order.entries snapshot.sessions) with
      | mk result store =>
      have saving : ({ state with restores := state.restores ++ [.saving snapshot.sessions []] } : CoreState σ).restores[
          state.restores.length]? = some (.saving snapshot.sessions []) := List.getElem?_concat_length
      obtain ⟨next, run, isStore, kept, done⟩ := rounds_run projectId initial stored distinct
        (fun _ _ => List.not_mem_nil) saving walked
      cases result with
      | error error => exact ⟨next, .head ⟨_, trivial, begins⟩ run, isStore, kept⟩
      | ok value =>
        obtain ⟨all, going, covered⟩ := done rfl
        have every : ∀ session ∈ snapshot.sessions.keys, session ∈ all := by
          intro session mem
          apply covered session (.inr ?_)
          exact (((order.complete snapshot.sessions).map Sigma.fst).mem_iff).mpr mem
        cases poisoned with
        | true => exact ⟨next, .head ⟨_, trivial, begins⟩ run, isStore, kept⟩
        | false =>
          have replaces : (machine host projectId initial).step next (.replaceSessions state.restores.length) =
              some ({ next with
                sessions := snapshot.sessions
                restores := next.restores.set state.restores.length .returned }.record
                  (.restoreReturned snapshot.sessions.keys)) := by
            show next.replaceSessions state.restores.length = _
            simp only [replaceSessions, going, if_pos every]
          exact ⟨_, .head ⟨_, trivial, begins⟩ (run.tail ⟨_, trivial, replaces⟩), isStore, rfl⟩

end

/-! ## Main result -/

/-- A restore that fails leaves no trace if and only if what it has saved before was stored already. -/
theorem restore_unharmed_iff (host : RuntimeHost σ) (working : WorkingStore host.store) (order : MapOrder RuntimeSnapshot)
    (poisoned : Bool) (bytes : List UInt8) (state : CoreState σ) :
    Unharmed working state (state.restore host order poisoned bytes) ↔ NothingNew working order poisoned bytes state := by
  cases reads : host.snapshots.fromSlice bytes with
  | error message =>
    have outcome : state.restore host order poisoned bytes = (.error (.snapshot message), state) := by
      rw [restore, reads]
    rw [outcome]
    refine iff_of_true (fun _ => ⟨rfl, fun _ _ => rfl⟩) ?_
    intro snapshot same
    simp [reads] at same
  | ok snapshot =>
    by_cases foreign : snapshot.version ≠ snapshotVersion ∨ snapshot.projectId ≠ state.projectId
    · have outcome : state.restore host order poisoned bytes =
          (.error (.snapshot "snapshot version or project does not match"), state) := by
        simp only [restore, reads, if_pos foreign]
      rw [outcome]
      refine iff_of_true (fun _ => ⟨rfl, fun _ _ => rfl⟩) ?_
      intro other same version project
      rw [reads] at same
      cases same
      exact absurd foreign (by simp [version, project])
    · rw [not_or, not_not, not_not] at foreign
      cases walked : walk (saveSession host.store state.projectId) state.store (order.entries snapshot.sessions) with
      | mk result store =>
      -- wherever the loop can end, it leaves this store
      have ends {saved rest : List ((_ : String) × RuntimeSnapshot)} {reached : σ}
          (parts : order.entries snapshot.sessions = saved ++ rest)
          (done : walk (saveSession host.store state.projectId) state.store saved = (.ok (), reached))
          (fails : ∀ entry ∈ rest.head?, ∃ error, saveSession host.store state.projectId reached entry = .error error) :
          (rest = [] ∧ result = .ok () ∨ ∃ error, result = .error error) ∧ reached = store := by
        rw [parts] at walked
        rcases walk_from done fails with ⟨whole, all⟩ | ⟨error, stopped⟩
        · cases all.symm.trans walked
          exact ⟨.inl ⟨whole, rfl⟩, rfl⟩
        · cases stopped.symm.trans walked
          exact ⟨.inr ⟨error, rfl⟩, rfl⟩
      cases result with
      | error error =>
        have outcome : state.restore host order poisoned bytes = (.error error, { state with store }) := by
          simp [restore, reads, foreign, walked]
        rw [outcome]
        constructor
        · intro unharmed other same _ _ saved rest reached parts done fails _
          rw [reads] at same
          cases same
          obtain ⟨_, rfl⟩ := ends parts done fails
          exact (saved_unchanged_iff (order.distinct parts) done).mp (unharmed nofun).2
        · intro nothing _
          obtain ⟨saved, entry, rest, parts, done, fails⟩ := walk_error walked
          refine ⟨rfl, (saved_unchanged_iff (order.distinct parts) done).mpr ?_⟩
          apply nothing snapshot reads foreign.1 foreign.2 saved (entry :: rest) store parts done
          · intro _ isEntry
            cases isEntry
            exact ⟨error, fails⟩
          · simp
      | ok value =>
        have distinct := order.distinct (List.append_nil (order.entries snapshot.sessions)).symm
        cases poisoned with
        | true =>
          have outcome : state.restore host order true bytes = (.error .internal, { state with store }) := by
            simp [restore, reads, foreign, walked]
          rw [outcome]
          constructor
          · intro unharmed other same _ _ saved rest reached parts done fails _
            rw [reads] at same
            cases same
            obtain ⟨_, rfl⟩ := ends parts done fails
            exact (saved_unchanged_iff (order.distinct parts) done).mp (unharmed nofun).2
          · intro nothing _
            refine ⟨rfl, (saved_unchanged_iff distinct walked).mpr ?_⟩
            exact nothing snapshot reads foreign.1 foreign.2 _ [] store (List.append_nil _).symm walked (by simp)
              fun _ => rfl
        | false =>
          have outcome : state.restore host order false bytes =
              (.ok (), { state with store, sessions := snapshot.sessions }) := by
            simp [restore, reads, foreign, walked]
          rw [outcome]
          refine iff_of_true (fun failed => absurd rfl failed) ?_
          intro other same _ _ saved rest reached parts done fails whole
          rw [reads] at same
          cases same
          rcases (ends parts done fails).1 with ⟨none, _⟩ | ⟨_, impossible⟩
          · cases whole none
          · cases impossible

def spacedSnapshot : PortableProjectSnapshot where
  version := 1
  projectId := "town"
  sessions := ((∅ : HashMap String RuntimeSnapshot).insert "no name" { revision := 1, state := .emptyObject }).insert
    "default" { revision := 1, state := .emptyObject }

def spacedJson : String :=
  "\x7b\"version\":1,\"projectId\":\"town\",\"sessions\":" ++
  "\x7b\"default\":\x7b\"revision\":1,\"state\":\x7b\x7d\x7d," ++
  "\"no name\":\x7b\"revision\":1,\"state\":\x7b\x7d\x7d\x7d\x7d"

def spacedHost : RuntimeHost MemoryRuntimeStore :=
  { townHost with
    snapshots := { townSnapshots with
      fromSlice := fun bytes =>
        if bytes = spacedJson.toUTF8.data.toList then .ok spacedSnapshot else townSnapshots.fromSlice bytes } }

/-- The restore is refused at the second session, and the first stays stored. -/
theorem refused_restore_saves :
    ¬∀ (host : RuntimeHost MemoryRuntimeStore) (working : WorkingStore host.store) (order : MapOrder RuntimeSnapshot)
        (poisoned : Bool) (bytes : List UInt8) (state : CoreState MemoryRuntimeStore),
      Unharmed working state (state.restore host order poisoned bytes) := by
  intro atomic
  have unharmed := atomic spacedHost townWorking .asStored false spacedJson.toUTF8.data.toList townRuntime
  have refused : (townRuntime.restore spacedHost .asStored false spacedJson.toUTF8.data.toList).1.isOk = false := by
    decide +kernel
  have unstored := (unharmed fun succeeds => by rw [succeeds] at refused; cases refused).2 "town" "default"
  have stored : (townWorking.snapshot (townRuntime.restore spacedHost .asStored false
      spacedJson.toUTF8.data.toList).2.store "town" "default").isSome = true := by decide +kernel
  rw [unstored] at stored
  cases stored

end CoreState

end Vifu.Runtime
