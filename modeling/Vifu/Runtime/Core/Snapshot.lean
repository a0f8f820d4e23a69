import Vifu.Runtime.Core.Sessions

/-!
# Export and restore

`export_snapshot` writes the sessions that are loaded.  Restored into a fresh runtime on an empty
store, they are loaded there with the same snapshots; a session that is only in the store is
not among them.  The restore is never refused for an identifier: a session enters the cache
through an invocation or a restore that has validated it.
-/

namespace Vifu.Runtime

open Foundation

/-- Whether an invocation has passed its checks: it is past them and has not failed. -/
def InvocationPhase.vetted : InvocationPhase → Bool
  | .starting | .dropped | .returned (.error _) | .traced (.error _) | .ended (.error _) => false
  | .entering | .resolving | .checking _ | .reading _ | .loading _ | .caching _ _ | .running _ _ | .responded _ _ _
  | .saving _ _ _ | .saved _ _ _ | .cached _ _ _ | .returned (.ok _) | .traced (.ok _) | .ended (.ok _) => true

theorem Invocation.validate_ok {invocation : Invocation} : invocation.validate = .ok () ↔
    PortableIdentifier invocation.input.endpoint ∧ PortableIdentifier invocation.session := by
  unfold validate
  rw [check_bind_ok, validateIdentifier_ok, validateIdentifier_ok]
  rfl

/-- The text of a snapshot can be written, and reads back as the same sessions in some order. -/
def RoundTrips (codec : JsonCodec PortableProjectSnapshot) (snapshot : PortableProjectSnapshot) : Prop :=
  ∃ bytes found, codec.toVec snapshot = .ok bytes ∧ codec.fromSlice bytes = .ok found ∧
    found.version = snapshot.version ∧ found.projectId = snapshot.projectId ∧
    ∀ session, found.sessions.lookup session = snapshot.sessions.lookup session

namespace CoreState

variable {σ τ : Type} {host : RuntimeHost σ} {state next : CoreState σ} {handle : InvocationHandle}
  {invocation : Invocation} {piece : InvocationSection} {session : String}

/-! ## Validated names -/

theorem vetted_of_hold {phase : InvocationPhase} (held : phase.hold ≠ .free) : phase.vetted = true := by
  cases phase <;> first | rfl | exact absurd rfl held

theorem SectionStep.vetted (step : SectionStep host state handle invocation piece next) :
    ∃ changed, next.calls = state.calls.insert handle changed ∧ Same changed invocation ∧
      (changed.phase.vetted = true → invocation.phase.vetted = true ∨ invocation.validate = .ok ()) := by
  cases step with
  | begin _ _ valid =>
    rw [announce_eq]
    exact ⟨_, rfl, ⟨rfl, rfl, rfl⟩, fun _ => .inr valid⟩
  | reject =>
    rw [announce_eq]
    exact ⟨_, rfl, ⟨rfl, rfl, rfl⟩, nofun⟩
  | acquire phase | leave _ _ phase | resolve _ _ _ phase | check _ phase | read _ _ phase | miss _ phase
  | load _ _ phase | cache _ _ phase | emit _ _ _ phase | respond _ _ _ phase | idle _ _ phase
  | recheck _ _ _ phase | save _ _ _ _ phase | insert _ _ _ phase | finish _ _ _ _ phase | drop _ _ phase =>
    exact ⟨_, rfl, ⟨rfl, rfl, rfl⟩, fun _ => .inl (by rw [phase]; rfl)⟩
  | fail _ _ held => exact ⟨_, rfl, ⟨rfl, rfl, rfl⟩, fun _ => .inl (vetted_of_hold held)⟩
  | failWritten => exact ⟨_, rfl, ⟨rfl, rfl, rfl⟩, nofun⟩
  | trace _ result returned =>
    rw [enqueueTrace_eq]
    refine ⟨_, rfl, ⟨rfl, rfl, rfl⟩, fun vetted => .inl ?_⟩
    rw [returned]
    cases result <;> exact vetted
  | publish result traced =>
    rw [report_eq]
    refine ⟨_, rfl, ⟨rfl, rfl, rfl⟩, fun vetted => .inl ?_⟩
    rw [traced]
    cases result <;> exact vetted

theorem SectionStep.cached (step : SectionStep host state handle invocation piece next) (mem : session ∈ next.sessions) :
    session ∈ state.sessions ∨ session = invocation.session ∧ invocation.phase.vetted = true := by
  cases step with
  | cache _ _ phase | insert _ _ _ phase =>
    rcases (AList.mem_insert _).mp mem with isSession | earlier
    · exact .inr ⟨isSession, by rw [phase]; rfl⟩
    · exact .inl earlier
  | begin | reject =>
    rw [announce_eq] at mem
    exact .inl mem
  | trace =>
    rw [enqueueTrace_eq] at mem
    exact .inl mem
  | publish =>
    rw [report_eq] at mem
    exact .inl mem
  | acquire | leave | resolve | check | read | miss | load | emit | respond | idle | recheck | save | finish | fail
  | failWritten | drop => exact .inl mem

/-- The names of vetted invocations are valid, and so are those of restored and cached sessions. -/
structure Validated (state : CoreState σ) : Prop where
  calls : ∀ handle invocation, state.calls.lookup handle = some invocation → invocation.phase.vetted = true →
    invocation.validate = .ok ()
  restored : ∀ restore ∈ state.restores, ∀ session ∈ restore.saved, PortableIdentifier session
  cached : ∀ session ∈ state.sessions, PortableIdentifier session

theorem Validated.run (validated : Validated state) (stored : state.calls.lookup handle = some invocation)
    (ran : SectionStep host state handle invocation piece next) : Validated next := by
  obtain ⟨changed, calls, same, vetted⟩ := ran.vetted
  refine ⟨?_, ?_, fun session mem => ?_⟩
  · intro other found isFound isVetted
    rw [calls, lookup_insert] at isFound
    split at isFound
    · cases isFound
      rw [Invocation.validate, same.input]
      exact (vetted isVetted).elim (validated.calls handle invocation stored) id
    · exact validated.calls other found isFound isVetted
  · rw [ran.frame.2.2.1]
    exact validated.restored
  · rcases ran.cached mem with earlier | ⟨rfl, isVetted⟩
    · exact validated.cached session earlier
    · exact (Invocation.validate_ok.mp (validated.calls handle invocation stored isVetted)).2

theorem Validated.start (validated : Validated state) {input : InvocationInput} {cancellation : CancellationToken}
    {background : Bool} : ∀ other found, (state.calls.insert handle (.start input cancellation background)).lookup other =
      some found → found.phase.vetted = true → found.validate = .ok () := by
  intro other found isFound isVetted
  rw [lookup_insert] at isFound
  split at isFound
  · cases isFound
    cases isVetted
  · exact validated.calls other found isFound isVetted

theorem Validated.step {action : CoreAction} (validated : Validated state) (stepped : CoreStep host state action next) :
    Validated next := by
  -- a restore that goes on has saved only valid sessions
  have restored : ∀ {call changed}, (∀ session ∈ changed.saved, PortableIdentifier session) →
      ∀ restore ∈ state.restores.set call changed, ∀ session ∈ restore.saved, PortableIdentifier session := by
    intro call changed valid restore mem
    rcases List.mem_or_eq_of_mem_set mem with earlier | rfl
    · exact validated.restored restore earlier
    · exact valid
  cases stepped with
  | run handle invocation piece _ stored ran => exact validated.run stored ran
  | start => exact ⟨validated.start, validated.restored, validated.cached⟩
  | invoke => exact ⟨validated.start, validated.restored, validated.cached⟩
  | restoreSnapshot bytes snapshot =>
    refine ⟨validated.calls, fun restore mem => ?_, validated.cached⟩
    rcases List.mem_append.mp mem with earlier | isNew
    · exact validated.restored restore earlier
    · cases List.mem_singleton.mp isNew
      exact nofun
  | restoreSession call session sessions saved snapshot store saving _ _ valid =>
    refine ⟨validated.calls, restored fun other mem => ?_, validated.cached⟩
    rcases List.mem_cons.mp mem with rfl | earlier
    · exact valid
    · exact validated.restored _ (List.mem_of_getElem? saving) other earlier
  | replaceSessions call sessions saved saving all =>
    refine ⟨validated.calls, restored nofun, fun session mem => ?_⟩
    exact validated.restored _ (List.mem_of_getElem? saving) session (all session (AList.mem_keys.mp mem))
  | restoreFail | restorePoisoned => exact ⟨validated.calls, restored nofun, validated.cached⟩
  | stay | define | createToken | cancelToken | refuse | takeInvocation | drainEvents | cancelInvocation | flag
  | publishCancelled | acknowledgeTraces => exact ⟨validated.calls, validated.restored, validated.cached⟩

theorem validated {projectId : String} {initial : σ} {admits : CoreState σ → CoreAction → Prop}
    (reachable : (machine host projectId initial).Reachable admits state) : Validated state := by
  apply reachable.invariant
  · rintro _ ⟨core, _, rfl⟩
    constructor <;> simp [opened]
  · intro _ _ _ validated _ stepped
    exact validated.step (step_step stepped)

/-! ## Restoring into a fresh runtime -/

/-- The sections of a `restore_snapshot` that nothing interrupts, for an order of the sessions. -/
def restoreSchedule (bytes : List UInt8) (order : List String) : List CoreAction :=
  .restoreSnapshot bytes :: (order.map (.restoreSession 0) ++ [.replaceSessions 0])

section Restore

variable {target : RuntimeHost τ} {projectId : String} {fresh : CoreState τ}
  {sessions : HashMap String RuntimeSnapshot} {saved order : List String}

/-- A restore into an empty store has come as far as the saved sessions. -/
structure Refilling (working : WorkingStore target.store) (reliable : ReliableStore target.store) (projectId : String)
    (sessions : HashMap String RuntimeSnapshot) (saved : List String) (state : CoreState τ) : Prop where
  project : state.projectId = projectId
  restores : state.restores = [.saving sessions saved]
  healthy : reliable.healthy state.store
  stored : ∀ session, storedSnapshot working state session = if session ∈ saved then sessions.lookup session else none

def Restorable (reliable : ReliableStore target.store) (sessions : HashMap String RuntimeSnapshot) (session : String) :
    Prop :=
  PortableIdentifier session ∧ ∃ snapshot, sessions.lookup session = some snapshot ∧ reliable.accepts snapshot

variable {working : WorkingStore target.store} {reliable : ReliableStore target.store}

theorem Refilling.begin (working : WorkingStore target.store) (reliable : ReliableStore target.store) {empty : τ}
    {bytes : List UInt8} {snapshot : PortableProjectSnapshot} (starts : (machine target projectId empty).start fresh)
    (healthy : reliable.healthy empty) (unused : ∀ session, working.snapshot empty projectId session = none)
    (reads : target.snapshots.fromSlice bytes = .ok snapshot) (version : snapshot.version = snapshotVersion)
    (project : snapshot.projectId = projectId) :
    ∃ next, fresh.step target (.restoreSnapshot bytes) = some next ∧
      Refilling working reliable projectId snapshot.sessions [] next := by
  obtain ⟨core, accepts, rfl⟩ := starts
  have isProject : core.projectId = projectId := by rw [(RuntimeCore.new_ok.mp accepts).2]
  refine ⟨{ opened core empty with restores := [.saving snapshot.sessions []] }, ?_, isProject, rfl, healthy,
    fun session => ?_⟩
  · show some (restoreSnapshot _ target bytes) = _
    simp [restoreSnapshot, reads, version, project, opened, isProject]
  · show working.snapshot empty core.projectId session = _
    rw [isProject, unused, if_neg List.not_mem_nil]

section

variable (refilling : Refilling working reliable projectId sessions saved fresh)
include refilling

theorem Refilling.round (restorable : Restorable reliable sessions session) (unsaved : session ∉ saved) :
    ∃ next, fresh.step target (.restoreSession 0 session) = some next ∧
      Refilling working reliable projectId sessions (session :: saved) next := by
  obtain ⟨valid, snapshot, mem, accepted⟩ := restorable
  obtain ⟨store, saves, healthy⟩ := reliable.save_healthy projectId session refilling.healthy accepted
  refine ⟨{ fresh with
      store, restores := fresh.restores.set 0 (.saving sessions (session :: saved)) }.record (.restored session snapshot),
    ?_, refilling.project, ?_, healthy, fun other => ?_⟩
  · have result : (do
        validateIdentifier "session" session
        target.store.save fresh.store fresh.projectId session snapshot) = .ok store := by
      rw [check_bind_ok, refilling.project]
      exact ⟨validateIdentifier_ok.mpr valid, saves⟩
    show fresh.restoreSession target 0 session = _
    simp only [restoreSession, refilling.restores, List.getElem?_cons_zero, mem, if_neg unsaved, result]
  · show fresh.restores.set 0 _ = _
    rw [refilling.restores]
    rfl
  · show working.snapshot store fresh.projectId other = _
    rw [refilling.project, working.save_snapshot saves]
    by_cases isSession : other = session
    · subst isSession
      simp [mem]
    · have earlier := refilling.stored other
      rw [storedSnapshot, refilling.project] at earlier
      simp [isSession, earlier]

theorem Refilling.rounds (initial : τ)
    (restorable : ∀ session ∈ order, Restorable reliable sessions session) (unsaved : ∀ session ∈ order, session ∉ saved)
    (distinct : order.Nodup) (rest : List CoreAction) :
    ∃ next, Refilling working reliable projectId sessions (order.reverse ++ saved) next ∧
      (machine target projectId initial).execute Machine.always fresh (order.map (.restoreSession 0) ++ rest) =
        (machine target projectId initial).execute Machine.always next rest := by
  induction order generalizing fresh saved with
  | nil => exact ⟨fresh, refilling, rfl⟩
  | cons session order ih =>
    rw [List.forall_mem_cons] at restorable unsaved
    obtain ⟨different, distinct⟩ := List.nodup_cons.mp distinct
    obtain ⟨middle, stepped, refilled⟩ := refilling.round restorable.1 unsaved.1
    have others : ∀ other ∈ order, other ∉ session :: saved := by
      intro other mem
      rw [List.mem_cons]
      rintro (rfl | earlier)
      · exact different mem
      · exact unsaved.2 other mem earlier
    obtain ⟨next, done, executed⟩ := ih refilled restorable.2 others distinct
    refine ⟨next, ?_, ?_⟩
    · rw [List.reverse_cons, List.append_assoc]
      exact done
    · rw [← executed]
      exact Machine.execute_cons trivial stepped

theorem Refilling.replace (all : ∀ session, session ∈ saved ↔ session ∈ sessions) :
    ∃ next, fresh.step target (.replaceSessions 0) = some next ∧
      ∀ session, next.loadSnapshot target session = .ok ((sessions.lookup session).getD .default) := by
  have every : ∀ session ∈ sessions.keys, session ∈ saved := fun session mem => (all session).mpr (AList.mem_keys.mp mem)
  refine ⟨{ fresh with sessions, restores := fresh.restores.set 0 .returned }.record (.restoreReturned sessions.keys),
    ?_, fun session => ?_⟩
  · show fresh.replaceSessions 0 = _
    simp only [replaceSessions, refilling.restores, List.getElem?_cons_zero, if_pos every]
  · cases copy : sessions.lookup session with
    | some snapshot =>
      simp only [loadSnapshot, record, copy]
      rfl
    | none =>
      obtain ⟨found, loads⟩ := reliable.load_healthy fresh.projectId session refilling.healthy
      have absent : session ∉ sessions := by rw [← AList.lookup_eq_none]; exact copy
      have nothing := refilling.stored session
      rw [if_neg (mt (all session).mp absent), storedSnapshot, ← working.load_ok loads] at nothing
      simp only [loadSnapshot, record, copy, loads, nothing]
      rfl

end

end Restore

/-- In every run, the loaded sessions can be exported, and a fresh runtime on an empty store that
    restores them loads the same snapshots, and the default for the other sessions. -/
theorem exported_sessions_restored (host : RuntimeHost σ) (target : RuntimeHost τ) (projectId : String) (initial : σ)
    (working : WorkingStore target.store) (reliable : ReliableStore target.store) (empty : τ) (state : CoreState σ)
    (reachable : (machine host projectId initial).Reachable Machine.always state)
    (shared : target.snapshots = host.snapshots) (readable : RoundTrips host.snapshots state.portableSnapshot)
    (healthy : reliable.healthy empty) (unused : ∀ session, working.snapshot empty projectId session = none)
    (accepted : ∀ session snapshot, state.sessions.lookup session = some snapshot → reliable.accepts snapshot) :
    ∃ bytes, state.exportSnapshot host = .ok bytes ∧
      ∀ fresh, (machine target projectId empty).start fresh → ∀ order, order.Perm state.sessions.keys →
        ∃ restored, (machine target projectId empty).execute Machine.always fresh (restoreSchedule bytes order) =
            some restored ∧
          (∀ session, session ∈ state.sessions ∨ host.store.load state.store state.projectId session = .ok none →
            restored.loadSnapshot target session = state.loadSnapshot host session) ∧
          ∀ session, session ∉ state.sessions → restored.loadSnapshot target session = .ok .default := by
  obtain ⟨bytes, found, written, reads, version, project, same⟩ := readable
  refine ⟨bytes, by rw [exportSnapshot, written], ?_⟩
  rintro fresh starts order permuted
  have loaded : ∀ session, session ∈ found.sessions ↔ session ∈ state.sessions := by
    intro session
    rw [← AList.lookup_isSome, same, ← AList.lookup_isSome]
    rfl
  have begun := Refilling.begin working reliable starts healthy unused
    (shared ▸ reads) version (project.trans (projectId_of_reachable reachable))
  obtain ⟨middle, stepped, refilling⟩ := begun
  have restorable : ∀ session ∈ order, Restorable reliable found.sessions session := by
    intro session member
    have isLoaded : session ∈ state.sessions := AList.mem_keys.mpr (permuted.subset member)
    obtain ⟨snapshot, copy⟩ := Option.isSome_iff_exists.mp (AList.lookup_isSome.mpr isLoaded)
    exact ⟨(validated reachable).cached session isLoaded, snapshot, (same session).trans copy,
      accepted session snapshot copy⟩
  obtain ⟨last, done, executed⟩ := refilling.rounds empty restorable (fun _ _ => nofun)
    (permuted.nodup_iff.mpr state.sessions.nodupKeys) [.replaceSessions 0]
  obtain ⟨restored, replaced, loads⟩ := done.replace fun session => by
    rw [List.append_nil, List.mem_reverse, permuted.mem_iff, loaded, AList.mem_keys]
  refine ⟨restored, ?_, fun session known => ?_, fun session unloaded => ?_⟩
  · rw [restoreSchedule, Machine.execute_cons trivial stepped, executed, Machine.execute_cons trivial replaced]
    rfl
  · rw [loads, same]
    show _ = loadSnapshot state host session
    cases copy : state.sessions.lookup session with
    | some snapshot => simp [loadSnapshot, portableSnapshot, copy]
    | none =>
      have absent : session ∉ state.sessions := AList.lookup_eq_none.mp copy
      simp [loadSnapshot, portableSnapshot, copy, known.resolve_left absent, Except.map]
  · rw [loads, same, show state.portableSnapshot.sessions.lookup session = none from AList.lookup_eq_none.mpr unloaded]
    rfl

/-! ## Two towns -/

theorem townSnapshots_read : RoundTrips townSnapshots (townSnapshot 1) := by
  have differs : townEmptyJson.toUTF8.data.toList ≠ (townSnapshotJson 1).toUTF8.data.toList := by decide +kernel
  refine ⟨(townSnapshotJson 1).toUTF8.data.toList, townSnapshot 1, rfl, ?_, rfl, rfl, fun _ => rfl⟩
  simp only [townSnapshots, townTexts]
  rw [List.find?_cons_of_neg (by simpa using differs), List.find?_cons_of_pos (by simp)]

/-- A session that was invoked once. -/
theorem exported_sessions_restored_run :
    ∃ state bytes restored, (machine townHost "town" .empty).Reachable Machine.always state ∧
      state.exportSnapshot townHost = .ok bytes ∧
      (machine townHost "town" .empty).execute Machine.always townRuntime (restoreSchedule bytes ["default"]) =
        some restored ∧
      restored.loadSnapshot townHost "default" = .ok { revision := 1, state := .emptyObject } := by
  obtain ⟨state, reachable, passes⟩ := Machine.reachable_of_execute (machine townHost "town" .empty)
    Machine.always townRuntime_starts (townSettings ++ [.invoke townInput ⟨0⟩] ++ untilResponse 1 ++ afterResponse 1)
    (fun state => decide (state.sessions.entries = (townSnapshot 1).sessions.entries)) (by decide +kernel)
  have sessions : state.sessions = (townSnapshot 1).sessions := AList.ext (of_decide_eq_true passes)
  have isSnapshot : state.portableSnapshot = townSnapshot 1 := by
    rw [portableSnapshot, sessions, projectId_of_reachable reachable]
    rfl
  obtain ⟨bytes, exported, restores⟩ := exported_sessions_restored townHost townHost "town" .empty townWorking
    (MemoryRuntimeStore.reliable _) .empty state reachable rfl (isSnapshot ▸ townSnapshots_read) trivial (fun _ => rfl)
    (fun _ _ _ => trivial)
  obtain ⟨restored, executed, known, _⟩ := restores townRuntime townRuntime_starts ["default"] (by rw [sessions]; exact .refl _)
  refine ⟨state, bytes, restored, reachable, exported, executed, ?_⟩
  have isLoaded : state.sessions.lookup "default" = some { revision := 1, state := .emptyObject } := by
    rw [sessions]
    rfl
  rw [known "default" (.inl (AList.lookup_isSome.mp (by rw [isLoaded]; rfl))), loadSnapshot, isLoaded]

def townStore : MemoryRuntimeStore :=
  { MemoryRuntimeStore.empty with
    snapshots := (∅ : HashMap (String × String) RuntimeSnapshot).insert ("town", "default")
      { revision := 5, state := .emptyObject } }

/-- A runtime that has just been opened on this store exports nothing. -/
theorem stored_session_not_exported :
    ∃ (state : CoreState MemoryRuntimeStore) (bytes : List UInt8) (restored : CoreState MemoryRuntimeStore),
      (machine townHost "town" townStore).Reachable Machine.always state ∧ state.exportSnapshot townHost = .ok bytes ∧
      (machine townHost "town" .empty).execute Machine.always townRuntime (restoreSchedule bytes []) = some restored ∧
      state.loadSnapshot townHost "default" = .ok { revision := 5, state := .emptyObject } ∧
      restored.loadSnapshot townHost "default" = .ok { revision := 0, state := .emptyObject } := by
  have starts : (machine townHost "town" townStore).start
      (.opened { projectId := "town", registry := .empty, manifest := none } townStore) :=
    ⟨_, RuntimeCore.new_ok.mpr ⟨by decide +kernel, rfl⟩, rfl⟩
  have passes : ((machine townHost "town" .empty).execute Machine.always townRuntime
      (restoreSchedule townEmptyJson.toUTF8.data.toList [])).any (fun restored => decide
        (restored.sessions.entries = [] ∧ restored.store.snapshots.entries = [])) = true := by decide +kernel
  obtain ⟨restored, executed, checked⟩ := (Option.any_eq_true _ _).mp passes
  obtain ⟨unloaded, unsaved⟩ := of_decide_eq_true checked
  have copy : restored.sessions.lookup "default" = none := by rw [AList.lookup, unloaded]; rfl
  have nothing : restored.store.snapshots.lookup (restored.projectId, "default") = none := by
    rw [AList.lookup, unsaved]
    rfl
  refine ⟨_, _, restored, ⟨_, starts, .refl⟩, rfl, executed, rfl, ?_⟩
  rw [loadSnapshot, copy]
  show Except.map _ (Except.ok (restored.store.snapshots.lookup _)) = _
  rw [nothing]
  rfl

end CoreState

end Vifu.Runtime
