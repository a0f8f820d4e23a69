import Vifu.Runtime.Core.Sections
import Vifu.Runtime.Store.Working

/-!
# Session state across concurrent calls

For each session, the store, the cache, the session lock and the restores in progress make up
one cell: a stored value behind a cache.  Every section is a step of this cell or leaves it
alone, as long as `restore_snapshot` behaves as if it held the lock of each session it has
saved.
-/

namespace Vifu.Runtime

open Foundation

def restoredRevision (initial : String → ℕ) : List Occurrence → String → ℕ
  | [], session => initial session
  | .restored other snapshot :: history, session =>
    if session = other then snapshot.revision else restoredRevision initial history session
  | _ :: history, session => restoredRevision initial history session

/-- The number of invocations that have succeeded since the last restore of the session. -/
def successes : List Occurrence → String → ℕ
  | [], _ => 0
  | .succeeded _ other :: history, session =>
    if session = other then successes history session + 1 else successes history session
  | .restored other _ :: history, session => if session = other then 0 else successes history session
  | _ :: history, session => successes history session

/-- The sessions of each restore that has returned since an invocation loaded its snapshot. -/
def restoresSince (handle : InvocationHandle) : List Occurrence → List (List String)
  | [] => []
  | .loaded other _ :: history => if other = handle then [] else restoresSince handle history
  | .restoreReturned sessions :: history => sessions :: restoresSince handle history
  | _ :: history => restoresSince handle history

/-- No invocation has saved a session after the return of a restore of it, with a snapshot that it
    had loaded before. -/
def NoOverwrite : List Occurrence → Prop
  | [] => True
  | .saved handle session _ :: history =>
    (∀ sessions ∈ restoresSince handle history, session ∉ sessions) ∧ NoOverwrite history
  | _ :: history => NoOverwrite history

def RestoreCall.stored (session : String) : RestoreCall → Option RuntimeSnapshot
  | .saving sessions saved => if session ∈ saved then sessions.lookup session else none
  | .returned => none

def RestoreCall.saved : RestoreCall → List String
  | .saving _ saved => saved
  | .returned => []

def InvocationPhase.revision : InvocationPhase → ℕ
  | .saving _ snapshot _ => snapshot.revision
  | _ => 0

def holdOf (locks : HashMap String InvocationHandle) (calls : HashMap InvocationHandle Invocation) (session : String) :
    Hold RuntimeSnapshot :=
  match locks.lookup session with
  | none => .free
  | some handle =>
    match calls.lookup handle with
    | none => .free
    | some invocation => invocation.phase.hold

namespace CoreState

variable {σ : Type} {host : RuntimeHost σ} {state next : CoreState σ} {handle : InvocationHandle}
  {invocation : Invocation} {piece : InvocationSection} {session : String}

def restoring (state : CoreState σ) (session : String) : List RuntimeSnapshot :=
  state.restores.filterMap (·.stored session)

def storedSnapshot (working : WorkingStore host.store) (state : CoreState σ) (session : String) :
    Option RuntimeSnapshot :=
  working.snapshot state.store state.projectId session

def cell (working : WorkingStore host.store) (initial : String → ℕ) (state : CoreState σ) (session : String) :
    CachedCell RuntimeSnapshot where
  stored := (storedSnapshot working state session).getD .default
  cached := state.sessions.lookup session
  hold := holdOf state.sessionLocks state.calls session
  restoring := state.restoring session
  base := restoredRevision initial state.history session
  updates := successes state.history session

/-! ## Sections as steps of a cell -/

theorem holdOf_insert (locks : HashMap String InvocationHandle) (calls : HashMap InvocationHandle Invocation)
    (changed : Invocation) (session : String) : holdOf locks (calls.insert handle changed) session =
      if locks.lookup session = some handle then changed.phase.hold else holdOf locks calls session := by
  unfold holdOf
  cases locks.lookup session with
  | none => simp
  | some holder =>
    simp only [lookup_insert, Option.some.injEq]
    by_cases isHolder : holder = handle
    · rw [if_pos isHolder, if_pos isHolder]
    · rw [if_neg isHolder, if_neg isHolder]

variable {calls : HashMap InvocationHandle Invocation} {locks : HashMap String InvocationHandle}

theorem Locked.own (locked : Locked locks calls) (stored : calls.lookup handle = some invocation) :
    locks.lookup session = some handle ↔ session = invocation.session ∧ invocation.phase.hold ≠ .free := by
  rw [locked session handle, stored]
  constructor
  · rintro ⟨_, ⟨⟩, rfl, held⟩
    exact ⟨rfl, held⟩
  · rintro ⟨rfl, held⟩
    exact ⟨invocation, rfl, rfl, held⟩

theorem Locked.holdOf_own (locked : Locked locks calls) (stored : calls.lookup handle = some invocation)
    (held : invocation.phase.hold ≠ .free) : holdOf locks calls invocation.session = invocation.phase.hold := by
  unfold holdOf
  rw [(locked.own stored).mpr ⟨rfl, held⟩]
  simp [stored]

theorem holdOf_eq {locks others : HashMap String InvocationHandle}
    {changed : Invocation} (same : others.lookup session = locks.lookup session)
    (unheld : locks.lookup session ≠ some handle) :
    holdOf others (calls.insert handle changed) session = holdOf locks calls session := by
  rw [holdOf_insert, same, if_neg unheld]
  simp only [holdOf, same]

variable (working : WorkingStore host.store) {action : CoreAction} {call : ℕ}

theorem enqueueTrace_snapshot (state : CoreState σ) (trace : RuntimeTraceRecord) :
    working.snapshot (state.enqueueTrace host trace).store = working.snapshot state.store := by
  unfold enqueueTrace
  split
  next store enqueued => exact working.enqueue_snapshot enqueued
  next => rfl

structure Elsewhere (working : WorkingStore host.store) (state next : CoreState σ) (session : String) : Prop where
  locks : next.sessionLocks.lookup session = state.sessionLocks.lookup session
  stored : storedSnapshot working next session = storedSnapshot working state session
  cached : next.sessions.lookup session = state.sessions.lookup session
  base : ∀ initial, restoredRevision initial next.history session = restoredRevision initial state.history session
  updates : successes next.history session = successes state.history session

theorem report_counts (state : CoreState σ) (handle : InvocationHandle) (invocation : Invocation)
    (result : Except RuntimeError InvocationOutput) (initial : String → ℕ) (session : String) :
    restoredRevision initial (state.report handle invocation result).history session =
        restoredRevision initial state.history session ∧
      successes (state.report handle invocation result).history session = successes state.history session := by
  unfold report updatePoll
  split
  · dsimp only
    split <;> exact ⟨rfl, rfl⟩
  · exact ⟨rfl, rfl⟩

theorem SectionStep.elsewhere (step : SectionStep host state handle invocation piece next)
    (other : session ≠ invocation.session) : Elsewhere working state next session := by
  cases step with
  | begin | reject =>
    rw [announce_eq]
    exact ⟨rfl, rfl, rfl, fun _ => rfl, rfl⟩
  | acquire =>
    refine ⟨?_, rfl, rfl, fun _ => rfl, rfl⟩
    exact AList.lookup_insert_ne other
  | idle | drop | fail | failWritten =>
    refine ⟨?_, rfl, rfl, fun _ => rfl, rfl⟩
    exact AList.lookup_erase_ne other
  | finish =>
    refine ⟨?_, rfl, rfl, fun _ => rfl, ?_⟩
    · exact AList.lookup_erase_ne other
    · show successes (.succeeded handle invocation.session :: state.history) session = _
      rw [successes, if_neg other]
  | cache | insert =>
    refine ⟨rfl, rfl, ?_, fun _ => rfl, rfl⟩
    exact AList.lookup_insert_ne other
  | save route snapshot response store saving saves =>
    refine ⟨rfl, ?_, rfl, fun _ => rfl, rfl⟩
    show working.snapshot store state.projectId session = _
    rw [working.save_snapshot saves, if_neg (by simp [other])]
    rfl
  | trace elapsedMs result =>
    have snapshots := enqueueTrace_snapshot working state (state.traceRecord handle invocation result elapsedMs)
    rw [enqueueTrace_eq]
    refine ⟨rfl, ?_, rfl, fun _ => rfl, rfl⟩
    show working.snapshot (state.enqueueTrace host _).store state.projectId session = _
    rw [snapshots]
    rfl
  | publish result =>
    have counts := fun initial => report_counts state handle invocation result initial session
    rw [report_eq]
    exact ⟨rfl, rfl, rfl, fun initial => (counts initial).1, (counts fun _ => 0).2⟩
  | leave | resolve | check | read | miss | load | emit | respond | recheck => exact ⟨rfl, rfl, rfl, fun _ => rfl, rfl⟩

theorem SectionStep.cell_other (step : SectionStep host state handle invocation piece next)
    (stored : state.calls.lookup handle = some invocation) (locked : Locked state.sessionLocks state.calls)
    (initial : String → ℕ) (other : session ≠ invocation.session) :
    cell working initial next session = cell working initial state session := by
  have elsewhere := step.elsewhere working other
  obtain ⟨changed, calls, _⟩ := step.calls
  have unheld : state.sessionLocks.lookup session ≠ some handle := fun holds => other ((locked.own stored).mp holds).1
  ext1
  · exact congrArg (·.getD .default) elsewhere.stored
  · exact elsewhere.cached
  · show holdOf next.sessionLocks next.calls session = _
    rw [calls]
    exact holdOf_eq elsewhere.locks unheld
  · show next.restores.filterMap _ = _
    rw [step.frame.2.2.1]
    rfl
  · exact elsewhere.base initial
  · exact elsewhere.updates

/-! ## The condition -/

/-- A section of an invocation that reads its session's snapshot does so outside restores; revisions
    do not saturate; and no invocation fails on a poisoned lock after it has saved. -/
def Clear (state : CoreState σ) (invocation : Invocation) : InvocationSection → Prop
  | .read => (state.sessions.lookup invocation.session).isSome = true → state.restoring invocation.session = []
  | .load => state.restoring invocation.session = []
  | .save => invocation.phase.revision < u64Max
  | .poisoned => invocation.phase.hold.uncounted = 0
  | _ => True

/-- A restore that has saved a session goes on to save the next. -/
def Unfailing (host : RuntimeHost σ) (state : CoreState σ) (session : String) : RestoreCall → Prop
  | .saving sessions saved => saved = [] ∨ PortableIdentifier session ∧
      ∀ snapshot, sessions.lookup session = some snapshot →
        (host.store.save state.store state.projectId session snapshot).isOk = true
  | .returned => True

/-- `restore_snapshot` behaves as if it held the lock of each session from when it saves it until
    it has replaced the cache, and does not fail in between. -/
def Exclusive (host : RuntimeHost σ) (state : CoreState σ) : CoreAction → Prop
  | .run handle piece => ∀ invocation, state.calls.lookup handle = some invocation → state.Clear invocation piece
  | .restoreSession call session =>
    (holdOf state.sessionLocks state.calls session = .free ∨ holdOf state.sessionLocks state.calls session = .before) ∧
      state.restoring session = [] ∧
      ∀ restore, state.restores[call]? = some restore → Unfailing host state session restore
  | .restorePoisoned call => ∀ restore, state.restores[call]? = some restore → restore.saved = []
  | _ => True

instance decidableClear (state : CoreState σ) (invocation : Invocation) :
    ∀ piece, Decidable (state.Clear invocation piece)
  | .read => inferInstanceAs (Decidable (_ → _))
  | .load => inferInstanceAs (Decidable (_ = _))
  | .save => inferInstanceAs (Decidable (_ < _))
  | .poisoned => inferInstanceAs (Decidable (_ = _))
  | .begin _ | .acquire | .resolve | .check | .cache | .emit _ | .provide _ | .recheck | .insert | .finish _ | .trace _
  | .publish | .drop => .isTrue trivial

instance decidableUnfailing (host : RuntimeHost σ) (state : CoreState σ) (session : String) :
    ∀ restore, Decidable (Unfailing host state session restore)
  | .saving _ _ => inferInstanceAs (Decidable (_ ∨ _ ∧ ∀ _, _ → _))
  | .returned => .isTrue trivial

instance decidableExclusive (host : RuntimeHost σ) (state : CoreState σ) :
    ∀ action, Decidable (Exclusive host state action)
  | .run _ _ => inferInstanceAs (Decidable (∀ _, _ → Clear _ _ _))
  | .restoreSession _ _ => inferInstanceAs (Decidable (_ ∧ _ ∧ ∀ _, _ → Unfailing _ _ _ _))
  | .restorePoisoned _ => inferInstanceAs (Decidable (∀ _, _ → _))
  | .define _ | .createToken | .cancelToken _ | .startInvoke _ _ | .invoke _ _ | .takeInvocation _ | .drainEvents _
  | .cancelInvocation _ | .flag _ | .publishCancelled _ | .exportSnapshot | .restoreSnapshot _ | .replaceSessions _
  | .acknowledgeTraces _ => .isTrue trivial

theorem Locked.holdOf_proceed (locked : Locked locks calls)
    (stored : calls.lookup handle = some invocation) (held : invocation.phase.hold ≠ .free) (changed : Invocation) :
    holdOf locks (calls.insert handle changed) invocation.session = changed.phase.hold := by
  rw [holdOf_insert, if_pos ((locked.own stored).mpr ⟨rfl, held⟩)]

theorem holdOf_erase (locks : HashMap String InvocationHandle) (calls : HashMap InvocationHandle Invocation)
    (session : String) : holdOf (locks.erase session) calls session = .free := by
  unfold holdOf
  rw [AList.lookup_erase]

theorem SectionStep.cell_own (step : SectionStep host state handle invocation piece next)
    (stored : state.calls.lookup handle = some invocation) (locked : Locked state.sessionLocks state.calls)
    (initial : String → ℕ) (admitted : Exclusive host state (.run handle piece)) :
    cell working initial next invocation.session = cell working initial state invocation.session ∨
      CachedCell.Step RuntimeSnapshot.revision (cell working initial state invocation.session)
        (cell working initial next invocation.session) := by
  have admitted := admitted invocation stored
  -- the hold of the session before and after, for an invocation that holds the lock
  have held : ∀ {phase}, invocation.phase = phase → phase.hold ≠ .free →
      holdOf state.sessionLocks state.calls invocation.session = phase.hold ∧
        ∀ changed, holdOf state.sessionLocks (state.calls.insert handle changed) invocation.session =
          changed.phase.hold := by
    intro phase isPhase holds
    subst isPhase
    exact ⟨locked.holdOf_own stored holds, locked.holdOf_proceed stored holds⟩
  have unheld : ∀ {phase}, invocation.phase = phase → phase.hold = .free → ∀ changed,
      holdOf state.sessionLocks (state.calls.insert handle changed) invocation.session =
        holdOf state.sessionLocks state.calls invocation.session := by
    intro phase isPhase free changed
    subst isPhase
    exact holdOf_eq rfl fun holds => ((locked.own stored).mp holds).2 free
  cases step with
  | begin _ starting | reject _ _ starting =>
    left
    rw [announce_eq]
    ext1 <;> first | rfl | exact unheld starting rfl _
  | leave _ _ entering =>
    left
    ext1 <;> first | rfl | exact unheld entering rfl _
  | trace elapsedMs result returned =>
    left
    have snapshots := enqueueTrace_snapshot working state (state.traceRecord handle invocation result elapsedMs)
    rw [enqueueTrace_eq]
    ext1
    · show (working.snapshot (state.enqueueTrace host _).store state.projectId _).getD _ = _
      rw [snapshots]
      rfl
    · rfl
    · exact unheld returned rfl _
    · rfl
    · rfl
    · rfl
  | publish result traced =>
    left
    have counts := report_counts state handle invocation result initial invocation.session
    rw [report_eq]
    ext1
    · rfl
    · rfl
    · exact unheld traced rfl _
    · rfl
    · exact counts.1
    · exact counts.2
  | acquire entering free =>
    right
    have isNext : ∀ phase, phase.hold = .before →
        cell working initial ({ state with
          sessionLocks := state.sessionLocks.insert invocation.session handle }.enter handle invocation phase)
          invocation.session = { cell working initial state invocation.session with hold := .before } := by
      intro phase before
      ext1 <;> try rfl
      show holdOf (state.sessionLocks.insert _ handle) (state.calls.insert handle _) _ = .before
      unfold holdOf
      simp [before]
    rw [isNext _ rfl]
    apply CachedCell.Step.acquire
    show holdOf state.sessionLocks state.calls invocation.session = .free
    unfold holdOf
    rw [free]
  | resolve _ _ _ phase | check _ phase | miss _ phase | emit _ _ _ phase | respond _ _ _ phase
  | recheck _ _ _ phase =>
    left
    obtain ⟨before, after⟩ := held phase (by simp [InvocationPhase.hold])
    ext1 <;> first | rfl | exact (after _).trans before.symm
  | read route snapshot reading copy =>
    right
    obtain ⟨before, after⟩ := held reading (by simp [InvocationPhase.hold])
    have isNext : cell working initial ((state.record (.loaded handle invocation.session)).enter handle invocation
        (.running route snapshot)) invocation.session =
        { cell working initial state invocation.session with hold := .based snapshot } := by
      ext1 <;> first | rfl | exact after _
    rw [isNext]
    exact .read snapshot before (.inl copy) (admitted (by simp [copy]))
  | load route found loading loaded =>
    right
    obtain ⟨before, after⟩ := held loading (by simp [InvocationPhase.hold])
    have isNext : cell working initial ((state.record (.loaded handle invocation.session)).enter handle invocation
        (.caching route (found.getD .default))) invocation.session =
        { cell working initial state invocation.session with hold := .based (found.getD .default) } := by
      ext1 <;> first | rfl | exact after _
    rw [isNext]
    refine .read _ before (.inr ?_) admitted
    rw [working.load_ok loaded]
    rfl
  | cache route snapshot caching =>
    right
    obtain ⟨before, after⟩ := held caching (by simp [InvocationPhase.hold])
    have isNext : cell working initial ({ state with
        sessions := state.sessions.insert invocation.session snapshot }.enter handle invocation
        (.running route snapshot)) invocation.session =
        { cell working initial state invocation.session with cached := some snapshot } := by
      ext1 <;> first | rfl | exact AList.lookup_insert _ | exact (after _).trans before.symm
    rw [isNext]
    exact .fill snapshot before
  | idle _ _ running | drop _ _ running =>
    right
    obtain ⟨before, _⟩ := held running (by simp [InvocationPhase.hold])
    have released := @CachedCell.Step.release _ RuntimeSnapshot.revision (cell working initial state invocation.session)
      (by rw [show (cell working initial state invocation.session).hold = _ from before]; rfl)
    convert released using 1
    ext1 <;> first | rfl | exact holdOf_erase _ _ _
  | fail _ error holds unwritten =>
    right
    obtain ⟨before, _⟩ := held rfl holds
    have released := @CachedCell.Step.release _ RuntimeSnapshot.revision (cell working initial state invocation.session)
      (by rw [show (cell working initial state invocation.session).hold = _ from before]; exact unwritten)
    convert released using 1
    ext1 <;> first | rfl | exact holdOf_erase _ _ _
  | failWritten isWritten =>
    have unwritten : invocation.phase.hold.uncounted = 0 := admitted
    rw [isWritten] at unwritten
    cases unwritten
  | save route snapshot response store saving saves =>
    right
    obtain ⟨before, after⟩ := held saving (by simp [InvocationPhase.hold])
    rw [Clear, saving] at admitted
    have isNext : cell working initial (({ state with store }.record
        (.saved handle invocation.session (Invocation.nextSnapshot snapshot response))).enter handle invocation
        (.saved route (Invocation.nextSnapshot snapshot response) response)) invocation.session =
        { cell working initial state invocation.session with
          stored := Invocation.nextSnapshot snapshot response
          hold := .written (Invocation.nextSnapshot snapshot response) } := by
      ext1
      · show (working.snapshot store state.projectId invocation.session).getD _ = _
        rw [working.save_snapshot saves, if_pos rfl]
        rfl
      · rfl
      · exact after _
      · rfl
      · rfl
      · rfl
    rw [isNext]
    refine .write snapshot _ before ?_
    show min (snapshot.revision + 1) u64Max = snapshot.revision + 1
    have small : snapshot.revision < u64Max := admitted
    omega
  | insert route snapshot response saved =>
    right
    obtain ⟨before, after⟩ := held saved (by simp [InvocationPhase.hold])
    have isNext : cell working initial ({ state with
        sessions := state.sessions.insert invocation.session snapshot }.enter handle invocation
        (.cached route snapshot response)) invocation.session =
        { cell working initial state invocation.session with cached := some snapshot, hold := .cached snapshot } := by
      ext1 <;> first | rfl | exact AList.lookup_insert _ | exact after _
    rw [isNext]
    exact .insert snapshot before
  | finish elapsedMs route snapshot response cached =>
    right
    obtain ⟨before, _⟩ := held cached (by simp [InvocationPhase.hold])
    have isNext : cell working initial ((state.record (.succeeded handle invocation.session)).conclude handle invocation
        (.ok (state.output handle invocation route snapshot response elapsedMs))) invocation.session =
        { cell working initial state invocation.session with
          hold := .free, updates := (cell working initial state invocation.session).updates + 1 } := by
      ext1 <;> try rfl
      · exact holdOf_erase _ _ _
      · show successes (.succeeded handle invocation.session :: state.history) invocation.session = _
        rw [successes, if_pos rfl]
        rfl
    rw [isNext]
    exact .finish snapshot before

/-! ## Other calls as steps of a cell -/

theorem filterMap_set {α β : Type} (contributes : α → Option β) {calls : List α} {phase : α}
    (found : calls[call]? = some phase) (changed : α) :
    ∃ before after, calls.filterMap contributes = before ++ (contributes phase).toList ++ after ∧
      (calls.set call changed).filterMap contributes = before ++ (contributes changed).toList ++ after := by
  induction calls generalizing call with
  | nil => cases found
  | cons head tail ih =>
    cases call with
    | zero =>
      cases found
      refine ⟨[], tail.filterMap contributes, ?_, ?_⟩
      · cases isPhase : contributes phase <;> simp [isPhase]
      · cases isChanged : contributes changed <;> simp [isChanged]
    | succ call =>
      obtain ⟨before, after, whole, replaced⟩ := ih found
      refine ⟨(contributes head).toList ++ before, after, ?_, ?_⟩
      · cases isHead : contributes head <;> simp [isHead, whole]
      · cases isHead : contributes head <;> simp [isHead, replaced]

theorem restoring_set {phase changed : RestoreCall} (found : state.restores[call]? = some phase)
    (same : changed.stored session = phase.stored session) :
    (state.restores.set call changed).filterMap (·.stored session) = state.restoring session := by
  obtain ⟨before, after, whole, replaced⟩ := filterMap_set (·.stored session) found changed
  rw [restoring, whole, replaced, same]

section

variable {call : ℕ} {sessions : HashMap String RuntimeSnapshot} {saved : List String} (initial : String → ℕ)
  (saving : state.restores[call]? = some (.saving sessions saved))
include initial saving

theorem cell_restoreSession {snapshot : RuntimeSnapshot} {store : σ} {restored : String}
    (mem : sessions.lookup restored = some snapshot)
    (saves : host.store.save state.store state.projectId restored snapshot = .ok store)
    (admitted : Exclusive host state (.restoreSession call restored)) (session : String) :
    let next := { state with
      store, restores := state.restores.set call (.saving sessions (restored :: saved)) }.record (.restored restored snapshot)
    cell working initial next session = cell working initial state session ∨
      CachedCell.Step RuntimeSnapshot.revision (cell working initial state session) (cell working initial next session) := by
  intro next
  obtain ⟨unread, calm, _⟩ := admitted
  by_cases isRestored : session = restored
  · subst isRestored
    right
    have isNext : cell working initial next session = { cell working initial state session with
        stored := snapshot, restoring := [snapshot], base := snapshot.revision, updates := 0 } := by
      obtain ⟨before, after, whole, replaced⟩ := filterMap_set (·.stored session) saving
        (.saving sessions (session :: saved))
      ext1
      · show (working.snapshot store state.projectId session).getD _ = _
        rw [working.save_snapshot saves, if_pos rfl]
        rfl
      · rfl
      · rfl
      · show (state.restores.set call _).filterMap _ = _
        rw [restoring, whole] at calm
        simp only [List.append_eq_nil_iff] at calm
        rw [replaced, calm.1.1, calm.2]
        simp [RestoreCall.stored, mem]
      · show restoredRevision initial (.restored session snapshot :: state.history) session = _
        rw [restoredRevision, if_pos rfl]
      · show successes (.restored session snapshot :: state.history) session = _
        rw [successes, if_pos rfl]
    rw [isNext]
    exact .restore snapshot unread calm
  · left
    ext1
    · show (working.snapshot store state.projectId session).getD _ = _
      rw [working.save_snapshot saves, if_neg (by simp [isRestored])]
      rfl
    · rfl
    · rfl
    · apply restoring_set saving
      simp [RestoreCall.stored, isRestored]
    · show restoredRevision initial (.restored restored snapshot :: state.history) session = _
      rw [restoredRevision, if_neg isRestored]
      rfl
    · show successes (.restored restored snapshot :: state.history) session = _
      rw [successes, if_neg isRestored]
      rfl

theorem cell_replaceSessions (all : ∀ session ∈ sessions.keys, session ∈ saved) (session : String)
    (coherent : (cell working initial state session).Coherent RuntimeSnapshot.revision) :
    let next := { state with sessions, restores := state.restores.set call .returned }.record (.restoreReturned sessions.keys)
    CachedCell.Step RuntimeSnapshot.revision (cell working initial state session) (cell working initial next session) := by
  intro next
  obtain ⟨before, after, whole, replaced⟩ := filterMap_set (·.stored session) saving .returned
  cases mem : sessions.lookup session with
  | none =>
    have isNext : cell working initial next session = { cell working initial state session with cached := none } := by
      ext1 <;> first | rfl | exact mem | skip
      apply restoring_set saving
      simp [RestoreCall.stored, mem]
    rw [isNext]
    exact .evict
  | some snapshot =>
    have isSaved : session ∈ saved := all session (AList.mem_keys.mp (AList.lookup_isSome.mp (by simp [mem])))
    have contributes : RestoreCall.stored session (.saving sessions saved) = some snapshot := by
      simp [RestoreCall.stored, isSaved, mem]
    rw [contributes] at whole
    have single : before = [] ∧ after = [] ∧ (cell working initial state session).restoring = [snapshot] := by
      have isRestoring : (cell working initial state session).restoring = before ++ [snapshot] ++ after := whole
      have length : before.length + 1 + after.length ≤ 1 := by
        have lengths := congrArg List.length isRestoring
        simp only [List.length_append, List.length_singleton] at lengths
        rcases coherent.restoring with calm | ⟨one, _⟩
        · rw [calm, List.length_nil] at lengths
          omega
        · rw [one, List.length_singleton] at lengths
          omega
      have empty : before = [] ∧ after = [] :=
        ⟨List.eq_nil_of_length_eq_zero (by omega), List.eq_nil_of_length_eq_zero (by omega)⟩
      refine ⟨empty.1, empty.2, ?_⟩
      rw [isRestoring, empty.1, empty.2]
      rfl
    have isNext : cell working initial next session = { cell working initial state session with
        cached := some snapshot, restoring := [] } := by
      ext1 <;> first | rfl | exact mem | skip
      show (state.restores.set call _).filterMap _ = _
      rw [replaced, single.1, single.2.1]
      rfl
    rw [isNext]
    exact .replace snapshot single.2.2

end

theorem holdOf_start (grounded : Grounded state) (input : InvocationInput) (cancellation : CancellationToken)
    (background : Bool) (session : String) :
    holdOf state.sessionLocks (state.calls.insert (invocationId state.nextInvocation)
      (.start input cancellation background)) session = holdOf state.sessionLocks state.calls session := by
  apply holdOf_eq rfl
  intro holds
  obtain ⟨invocation, stored, _⟩ := (grounded.locked _ _).mp holds
  rw [grounded.issued.fresh] at stored
  cases stored

theorem cell_step (grounded : Grounded state) (initial : String → ℕ)
    (coherent : (cell working initial state session).Coherent RuntimeSnapshot.revision)
    (admitted : Exclusive host state action) (stepped : CoreStep host state action next) :
    cell working initial next session = cell working initial state session ∨
      CachedCell.Step RuntimeSnapshot.revision (cell working initial state session)
        (cell working initial next session) := by
  cases stepped with
  | run handle invocation piece _ stored ran =>
    by_cases own : session = invocation.session
    · subst own
      exact ran.cell_own working stored grounded.locked initial admitted
    · exact .inl (ran.cell_other working stored grounded.locked initial own)
  | restoreSession call restored sessions saved snapshot store saving mem fresh valid saves =>
    exact cell_restoreSession working initial saving mem saves admitted session
  | replaceSessions call sessions saved saving all =>
    exact .inr (cell_replaceSessions working initial saving all session coherent)
  | restoreFail call restored sessions saved snapshot saving mem fails =>
    left
    obtain ⟨_, _, unfailing⟩ := admitted
    have unsaved : saved = [] := by
      rcases unfailing _ saving with unsaved | ⟨valid, saves⟩
      · exact unsaved
      · have succeeds := saves snapshot mem
        cases result : host.store.save state.store state.projectId restored snapshot with
        | error error => simp [result, Except.isOk, Except.toBool] at succeeds
        | ok store => exact absurd result (fails valid store)
    ext1 <;> try rfl
    apply restoring_set saving
    simp [RestoreCall.stored, unsaved]
  | restorePoisoned call sessions saved saving =>
    left
    have unsaved : saved = [] := admitted _ saving
    ext1 <;> try rfl
    apply restoring_set saving
    simp [RestoreCall.stored, unsaved]
  | restoreSnapshot bytes snapshot =>
    left
    ext1 <;> try rfl
    show (state.restores ++ [_]).filterMap (RestoreCall.stored session) = state.restoring session
    have nothing : [RestoreCall.saving snapshot.sessions []].filterMap (RestoreCall.stored session) = [] := rfl
    rw [List.filterMap_append, nothing, List.append_nil]
    rfl
  | start input invocations =>
    left
    ext1 <;> first | rfl | exact holdOf_start grounded _ _ _ _
  | invoke input cancellation =>
    left
    ext1 <;> first | rfl | exact holdOf_start grounded _ _ _ _
  | define operation core defined =>
    left
    have project := (RuntimeCore.define_ok defined).1
    ext1 <;> try rfl
    show (working.snapshot state.store core.projectId session).getD _ = _
    rw [project]
    rfl
  | acknowledgeTraces traceIds store acknowledged =>
    left
    ext1 <;> try rfl
    show (working.snapshot store state.projectId session).getD _ = _
    rw [working.acknowledge_snapshot acknowledged]
    rfl
  | publishCancelled call handle =>
    left
    ext1 <;> try rfl
    · show restoredRevision initial (if _ then _ else _) session = _
      split <;> rfl
    · show successes (if _ then _ else _) session = _
      split <;> rfl
  | stay | createToken | cancelToken | refuse | takeInvocation | drainEvents | cancelInvocation | flag =>
    left
    rfl

/-! ## No stale snapshot is saved -/

/-- An invocation that holds a snapshot has loaded it after the last restore of its session. -/
def Timely (state : CoreState σ) : Prop :=
  ∀ handle invocation base, state.calls.lookup handle = some invocation → invocation.phase.hold = .based base →
    ∀ sessions ∈ restoresSince handle state.history, invocation.session ∉ sessions

theorem report_since (state : CoreState σ) (handle : InvocationHandle) (invocation : Invocation)
    (result : Except RuntimeError InvocationOutput) (other : InvocationHandle) :
    restoresSince other (state.report handle invocation result).history = restoresSince other state.history := by
  unfold report updatePoll
  split
  · dsimp only
    split <;> rfl
  · rfl

/-- A section that leaves an invocation with a snapshot has just loaded it, or the invocation had
    it before and no restore has returned in the section. -/
theorem SectionStep.since (step : SectionStep host state handle invocation piece next) :
    (∀ other, other ≠ handle → restoresSince other next.history = restoresSince other state.history) ∧
      ∃ changed, next.calls = state.calls.insert handle changed ∧ Same changed invocation ∧
        ∀ base, changed.phase.hold = .based base →
          restoresSince handle next.history = [] ∨ invocation.phase.hold = .based base ∧
            restoresSince handle next.history = restoresSince handle state.history := by
  cases step with
  | begin | reject =>
    rw [announce_eq]
    exact ⟨fun _ _ => rfl, _, rfl, ⟨rfl, rfl, rfl⟩, nofun⟩
  | trace =>
    rw [enqueueTrace_eq]
    exact ⟨fun _ _ => rfl, _, rfl, ⟨rfl, rfl, rfl⟩, nofun⟩
  | publish result =>
    have since := report_since state handle invocation result
    rw [report_eq]
    exact ⟨fun other _ => since other, _, rfl, ⟨rfl, rfl, rfl⟩, nofun⟩
  | leave _ phase _ left =>
    refine ⟨fun _ _ => rfl, _, rfl, ⟨rfl, rfl, rfl⟩, fun base based => ?_⟩
    rcases left with rfl | rfl <;> cases based
  | read | load =>
    refine ⟨fun other different => ?_, _, rfl, ⟨rfl, rfl, rfl⟩, fun _ _ => .inl ?_⟩
    · show restoresSince other (.loaded handle _ :: state.history) = _
      rw [restoresSince, if_neg (Ne.symm different)]
    · show restoresSince handle (.loaded handle _ :: state.history) = _
      rw [restoresSince, if_pos rfl]
  | cache _ _ phase | emit _ _ _ phase | respond _ _ _ phase | recheck _ _ _ phase =>
    refine ⟨fun _ _ => rfl, _, rfl, ⟨rfl, rfl, rfl⟩, fun base based => .inr ⟨?_, rfl⟩⟩
    rw [phase]
    exact based
  | acquire | resolve | check | miss | idle | save | insert | finish | fail | failWritten | drop =>
    exact ⟨fun _ _ => rfl, _, rfl, ⟨rfl, rfl, rfl⟩, nofun⟩

theorem SectionStep.noOverwrite (step : SectionStep host state handle invocation piece next)
    (stored : state.calls.lookup handle = some invocation) (timely : Timely state)
    (earlier : NoOverwrite state.history) : NoOverwrite next.history := by
  cases step with
  | save route snapshot response store saving =>
    refine ⟨?_, earlier⟩
    exact timely handle invocation snapshot stored (by rw [saving]; rfl)
  | begin | reject =>
    rw [announce_eq]
    exact earlier
  | trace =>
    rw [enqueueTrace_eq]
    exact earlier
  | publish result =>
    show NoOverwrite (state.report handle invocation result).history
    unfold report updatePoll
    split
    · dsimp only
      split <;> exact earlier
    · exact earlier
  | acquire | leave | resolve | check | read | miss | load | cache | emit | respond | idle | recheck | insert
  | finish | fail | failWritten | drop => exact earlier

/-- The invariant of the runs that meet the condition. -/
structure Serialized (working : WorkingStore host.store) (initial : String → ℕ) (state : CoreState σ) : Prop where
  grounded : Grounded state
  cells : ∀ session, (cell working initial state session).Coherent RuntimeSnapshot.revision
  timely : Timely state
  noOverwrite : NoOverwrite state.history

section

variable {initial : String → ℕ} (serialized : Serialized working initial state)
include serialized

theorem Serialized.calm (stored : state.calls.lookup handle = some invocation) {base : RuntimeSnapshot}
    (based : invocation.phase.hold = .based base) : state.restoring invocation.session = [] := by
  have hold : (cell working initial state invocation.session).hold = .based base := by
    show holdOf state.sessionLocks state.calls invocation.session = .based base
    rw [serialized.grounded.locked.holdOf_own stored (by simp [based]), based]
  exact (serialized.cells invocation.session).calm (by simp [hold])

theorem Serialized.timely_step (stepped : CoreStep host state action next) : Timely next := by
  have timely := serialized.timely
  -- a new invocation has no snapshot
  have started : ∀ {calls input cancellation background},
      calls = state.calls.insert (invocationId state.nextInvocation) (.start input cancellation background) →
      ∀ handle invocation base, calls.lookup handle = some invocation → invocation.phase.hold = .based base →
        ∀ sessions ∈ restoresSince handle state.history, invocation.session ∉ sessions := by
    rintro _ input cancellation background rfl handle invocation base stored based
    rw [lookup_insert] at stored
    split at stored
    · cases stored
      cases based
    · exact timely handle invocation base stored based
  cases stepped with
  | run handle invocation piece _ stored ran =>
    obtain ⟨others, changed, calls, same, since⟩ := ran.since
    intro other found base isFound based
    rw [calls, lookup_insert] at isFound
    split at isFound
    next isHandle =>
      subst isHandle
      cases isFound
      rcases since base based with none | ⟨earlier, unchanged⟩
      · rw [none]
        exact nofun
      · rw [unchanged, same.session]
        exact timely other invocation base stored earlier
    next different =>
      rw [others other different]
      exact timely other found base isFound based
  | replaceSessions call sessions saved saving all =>
    intro handle invocation base stored based restored mem
    rcases List.mem_cons.mp mem with rfl | earlier
    · -- the invocation's session is not among those of a restore in progress
      intro isRestored
      have calm := serialized.calm working stored based
      obtain ⟨snapshot, isSnapshot⟩ := Option.isSome_iff_exists.mp (AList.lookup_isSome.mpr (AList.mem_keys.mpr isRestored))
      rw [restoring, List.filterMap_eq_nil_iff] at calm
      have unsaved := calm _ (List.mem_of_getElem? saving)
      simp [RestoreCall.stored, all _ isRestored, isSnapshot] at unsaved
    · exact timely handle invocation base stored based restored earlier
  | start input invocations => exact started rfl
  | invoke input cancellation => exact started rfl
  | publishCancelled call handle =>
    intro other invocation base stored based
    have unchanged : restoresSince other ({ state with
        cancels := state.cancels.set call .returned }.updatePoll handle .cancelled none none).history =
        restoresSince other state.history := by
      unfold updatePoll
      split <;> rfl
    rw [unchanged]
    exact timely other invocation base stored based
  | restoreSession | stay | define | createToken | cancelToken | refuse | takeInvocation | drainEvents
  | cancelInvocation | flag | restoreSnapshot | restoreFail | restorePoisoned | acknowledgeTraces => exact timely

theorem Serialized.step (admitted : Exclusive host state action) (stepped : CoreStep host state action next) :
    Serialized working initial next where
  grounded := serialized.grounded.step stepped
  cells session := by
    rcases cell_step working serialized.grounded initial (serialized.cells session) admitted stepped with same | moved
    · rw [same]
      exact serialized.cells session
    · exact moved.coherent (serialized.cells session)
  timely := serialized.timely_step working stepped
  noOverwrite := by
    have earlier := serialized.noOverwrite
    cases stepped with
    | run handle invocation piece _ stored ran => exact ran.noOverwrite stored serialized.timely earlier
    | publishCancelled call handle =>
      unfold updatePoll
      split <;> exact earlier
    | stay | define | createToken | cancelToken | refuse | start | invoke | takeInvocation | drainEvents
    | cancelInvocation | flag | restoreSnapshot | restoreSession | restoreFail | replaceSessions | restorePoisoned
    | acknowledgeTraces => exact earlier

end

/-! ## Main results -/

/-- No section of an invocation of the session is in progress, and no restore that has saved it. -/
def Quiet (state : CoreState σ) (session : String) : Prop :=
  state.sessionLocks.lookup session = none ∧ state.restoring session = []

instance decidableQuiet (state : CoreState σ) (session : String) : Decidable (state.Quiet session) :=
  inferInstanceAs (Decidable (_ ∧ _))

/-- The snapshot that `load_snapshot` finds in the store. -/
def loadedFrom (working : WorkingStore host.store) (state : CoreState σ) (session : String) : RuntimeSnapshot :=
  (storedSnapshot working state session).getD .default

/-- What concurrent calls keep of the sessions: a quiet session's cached snapshot is the stored one,
    its revision has grown by one for each success since it was restored, and no invocation has
    overwritten a restore with a snapshot from before. -/
structure SessionsKept (working : WorkingStore host.store) (projectId : String) (initial : σ)
    (state : CoreState σ) : Prop where
  cached : ∀ session, state.Quiet session → ∀ snapshot, state.sessions.lookup session = some snapshot →
    snapshot = loadedFrom working state session
  counted : ∀ session, state.Quiet session → (loadedFrom working state session).revision =
    restoredRevision (fun session => ((working.snapshot initial projectId session).getD .default).revision)
      state.history session + successes state.history session
  noOverwrite : NoOverwrite state.history

/-- In every run that meets the condition, the sessions are kept. -/
theorem sessions_kept (working : WorkingStore host.store) (projectId : String) (initial : σ) (state : CoreState σ)
    (reachable : (machine host projectId initial).Reachable (Exclusive host) state) :
    SessionsKept working projectId initial state := by
  have serialized : Serialized working
      (fun session => ((working.snapshot initial projectId session).getD .default).revision) state := by
    apply reachable.invariant
    · rintro _ ⟨core, accepted, rfl⟩
      obtain ⟨_, rfl⟩ := RuntimeCore.new_ok.mp accepted
      refine ⟨grounded_opened _ initial, fun session => ?_, fun _ _ _ stored => ?_, trivial⟩
      · refine ⟨.inl rfl, ?_, ?_, ?_, rfl⟩
        · intro _ isBased
          cases isBased
        · intro _ isWritten
          cases isWritten
        · intro _ _ _ isCached
          cases isCached
      · simp [opened] at stored
    · intro _ _ _ serialized admitted stepped
      exact serialized.step working admitted (step_step stepped)
  have free : ∀ {session}, state.Quiet session → holdOf state.sessionLocks state.calls session = .free := by
    intro session quiet
    unfold holdOf
    rw [quiet.1]
  refine ⟨?_, ?_, serialized.noOverwrite⟩
  · intro session quiet snapshot copy
    have unwritten : ∀ value, holdOf state.sessionLocks state.calls session ≠ .written value := by
      intro value
      rw [free quiet]
      intro isWritten
      cases isWritten
    exact ((serialized.cells session).cached quiet.2 unwritten snapshot copy).symm
  · intro session quiet
    have counted := (serialized.cells session).counted
    have uncounted : (holdOf state.sessionLocks state.calls session).uncounted = 0 := by rw [free quiet]; rfl
    simp only [cell, uncounted, Nat.add_zero] at counted
    exact counted

def afterResponse (id : ℕ) : List CoreAction :=
  [.recheck, .save, .insert, .finish 12, .trace 12, .publish].map (.run (invocationId id))

def townWorking : WorkingStore townHost.store := MemoryRuntimeStore.working (guideCodec "chat")

def townRestore : List CoreAction :=
  [.restoreSnapshot (townSnapshotJson 5).toUTF8.data.toList, .restoreSession 0 "default", .replaceSessions 0]

/-- A restore between two invocations: the second one makes revision 6 of the restored 5. -/
theorem sessions_kept_run : ∃ state, ((machine townHost "town" .empty).Reachable (Exclusive townHost) state ∧
        state.sessions.lookup "default" = some { revision := 6, state := .emptyObject } ∧ state.Quiet "default") ∧
      SessionsKept townWorking "town" .empty state := by
  obtain ⟨state, reachable, passes⟩ := Machine.reachable_of_execute (machine townHost "town" .empty)
    (Exclusive townHost) townRuntime_starts
    (townSettings ++ [.invoke townInput ⟨0⟩] ++ untilResponse 1 ++ afterResponse 1 ++ townRestore ++
      [.invoke townInput ⟨0⟩] ++
      ([.begin 1700000001000, .acquire, .resolve, .check, .read, .provide (.responded townResponse)].map
        (.run (invocationId 2))) ++ afterResponse 2)
    (fun state => decide (state.sessions.lookup "default" = some { revision := 6, state := .emptyObject } ∧
      state.Quiet "default"))
    (by decide +kernel)
  exact ⟨state, ⟨reachable, of_decide_eq_true passes⟩, sessions_kept _ "town" .empty state reachable⟩

/-- The whole restore runs between the response of the provider and the save: the restored revision
    5 is replaced by 1. -/
theorem restored_session_overwritten :
    ∃ state, (machine townHost "town" .empty).Reachable Machine.always state ∧ state.Quiet "default" ∧
      state.sessions.lookup "default" = some { revision := 1, state := .emptyObject } ∧
      restoredRevision (fun _ => 0) state.history "default" = 5 ∧ successes state.history "default" = 1 ∧
      ¬ SessionsKept townWorking "town" .empty state := by
  obtain ⟨state, reachable, passes⟩ := Machine.reachable_of_execute (machine townHost "town" .empty)
    Machine.always townRuntime_starts
    (townSettings ++ [.invoke townInput ⟨0⟩] ++ untilResponse 1 ++ townRestore ++ afterResponse 1)
    (fun state => decide (state.Quiet "default" ∧
      state.sessions.lookup "default" = some { revision := 1, state := .emptyObject } ∧
      restoredRevision (fun _ => 0) state.history "default" = 5 ∧ successes state.history "default" = 1))
    (by decide +kernel)
  obtain ⟨quiet, copy, restored, succeeded⟩ := of_decide_eq_true passes
  refine ⟨state, reachable, quiet, copy, restored, succeeded, fun kept => ?_⟩
  have stored := kept.cached "default" quiet _ copy
  have counted := kept.counted "default" quiet
  have initially : (fun session => ((townWorking.snapshot .empty "town" session).getD .default).revision) =
      fun _ => 0 := by
    funext session
    simp [townWorking, MemoryRuntimeStore.working, MemoryRuntimeStore.empty, RuntimeSnapshot.default]
  rw [initially, restored, succeeded, ← stored] at counted
  cases counted

end CoreState

end Vifu.Runtime
