import Std.Data.String.ToNat
import Vifu.Foundation.CachedCell
import Vifu.Runtime.Core.Machine

/-!
# The sections of an invocation

`SectionStep` lists what a section of `invoke` can do, and `runSection_step` says that it does
nothing else.  From it follows that a session lock is held by exactly the invocation that is
past `acquire` and has not returned (`Locked`).
-/

namespace Vifu.Runtime

open Foundation

/-- What an invocation has done with its session since it got the session lock. -/
def InvocationPhase.hold : InvocationPhase → Hold RuntimeSnapshot
  | .starting | .entering => .free
  | .resolving | .checking _ | .reading _ | .loading _ => .before
  | .caching _ snapshot | .running _ snapshot | .responded _ snapshot _ | .saving _ snapshot _ => .based snapshot
  | .saved _ next _ => .written next
  | .cached _ next _ => .cached next
  | .returned _ | .traced _ | .ended _ | .dropped => .free

namespace CoreState

variable {σ : Type} {host : RuntimeHost σ} {state next : CoreState σ} {handle : InvocationHandle}
  {invocation : Invocation}

inductive SectionStep (host : RuntimeHost σ) (state : CoreState σ) (handle : InvocationHandle)
    (invocation : Invocation) : InvocationSection → CoreState σ → Prop where
  | begin (unixTimeMs : ℕ) (starting : invocation.phase = .starting) (valid : invocation.validate = .ok ()) :
    SectionStep host state handle invocation (.begin unixTimeMs)
      ((state.announce handle invocation).enter handle (invocation.stamp unixTimeMs) .entering)
  | reject (unixTimeMs : ℕ) (error : RuntimeError) (starting : invocation.phase = .starting)
    (invalid : invocation.validate = .error error) :
    SectionStep host state handle invocation (.begin unixTimeMs)
      ((state.announce handle invocation).enter handle (invocation.stamp unixTimeMs) (.returned (.error error)))
  | acquire (entering : invocation.phase = .entering) (free : state.sessionLocks.lookup invocation.session = none) :
    SectionStep host state handle invocation .acquire
      ({ state with sessionLocks := state.sessionLocks.insert invocation.session handle }.enter handle invocation
        .resolving)
  | leave (piece : InvocationSection) (phase : InvocationPhase) (entering : invocation.phase = .entering)
    (left : phase = .dropped ∨ phase = .returned (.error .internal)) :
    SectionStep host state handle invocation piece (state.enter handle invocation phase)
  | resolve (endpoint : EndpointDefinition) (agent : AgentDefinition) (provider : AgentProvider)
    (resolving : invocation.phase = .resolving)
    (resolved : state.registry.resolve invocation.input.endpoint = .ok (endpoint, agent, provider)) :
    SectionStep host state handle invocation .resolve (state.enter handle invocation (.checking { endpoint, agent }))
  | check (route : Route) (checking : invocation.phase = .checking route)
    (live : invocation.cancellation ∉ state.cancelled) :
    SectionStep host state handle invocation .check (state.enter handle invocation (.reading route))
  | read (route : Route) (snapshot : RuntimeSnapshot) (reading : invocation.phase = .reading route)
    (copy : state.sessions.lookup invocation.session = some snapshot) :
    SectionStep host state handle invocation .read
      ((state.record (.loaded handle invocation.session)).enter handle invocation (.running route snapshot))
  | miss (route : Route) (reading : invocation.phase = .reading route)
    (absent : state.sessions.lookup invocation.session = none) :
    SectionStep host state handle invocation .read (state.enter handle invocation (.loading route))
  | load (route : Route) (found : Option RuntimeSnapshot) (loading : invocation.phase = .loading route)
    (loaded : host.store.load state.store state.projectId invocation.session = .ok found) :
    SectionStep host state handle invocation .load
      ((state.record (.loaded handle invocation.session)).enter handle invocation
        (.caching route (found.getD .default)))
  | cache (route : Route) (snapshot : RuntimeSnapshot) (caching : invocation.phase = .caching route snapshot) :
    SectionStep host state handle invocation .cache
      ({ state with sessions := state.sessions.insert invocation.session snapshot }.enter handle invocation
        (.running route snapshot))
  | emit (event : ProviderEvent) (route : Route) (snapshot : RuntimeSnapshot)
    (running : invocation.phase = .running route snapshot) :
    SectionStep host state handle invocation (.emit event)
      ({ state with invocations := state.invocations.pushProviderEvent handle event }.enter handle
        (invocation.emit event) (.running route snapshot))
  | respond (route : Route) (snapshot : RuntimeSnapshot) (response : ProviderResponse)
    (running : invocation.phase = .running route snapshot) :
    SectionStep host state handle invocation (.provide (.responded response))
      (state.enter handle invocation (.responded route snapshot response))
  | idle (route : Route) (snapshot : RuntimeSnapshot) (running : invocation.phase = .running route snapshot) :
    SectionStep host state handle invocation (.provide .idle)
      ({ state with cancelled := invocation.cancellation :: state.cancelled }.conclude handle invocation
        (.error (.timeout route.endpoint.timeoutMs)))
  | recheck (route : Route) (snapshot : RuntimeSnapshot) (response : ProviderResponse)
    (responded : invocation.phase = .responded route snapshot response)
    (live : invocation.cancellation ∉ state.cancelled) :
    SectionStep host state handle invocation .recheck
      (state.enter handle invocation (.saving route snapshot response))
  | save (route : Route) (snapshot : RuntimeSnapshot) (response : ProviderResponse) (store : σ)
    (saving : invocation.phase = .saving route snapshot response)
    (saves : host.store.save state.store state.projectId invocation.session
      (Invocation.nextSnapshot snapshot response) = .ok store) :
    SectionStep host state handle invocation .save
      (({ state with store }.record
        (.saved handle invocation.session (Invocation.nextSnapshot snapshot response))).enter handle invocation
        (.saved route (Invocation.nextSnapshot snapshot response) response))
  | insert (route : Route) (snapshot : RuntimeSnapshot) (response : ProviderResponse)
    (saved : invocation.phase = .saved route snapshot response) :
    SectionStep host state handle invocation .insert
      ({ state with sessions := state.sessions.insert invocation.session snapshot }.enter handle invocation
        (.cached route snapshot response))
  | finish (elapsedMs : ℕ) (route : Route) (snapshot : RuntimeSnapshot) (response : ProviderResponse)
    (cached : invocation.phase = .cached route snapshot response) :
    SectionStep host state handle invocation (.finish elapsedMs)
      ((state.record (.succeeded handle invocation.session)).conclude handle invocation
        (.ok (state.output handle invocation route snapshot response elapsedMs)))
  | fail (piece : InvocationSection) (error : RuntimeError) (held : invocation.phase.hold ≠ .free)
    (unwritten : invocation.phase.hold.uncounted = 0) :
    SectionStep host state handle invocation piece (state.conclude handle invocation (.error error))
  | failWritten (written : invocation.phase.hold.uncounted = 1) :
    SectionStep host state handle invocation .poisoned (state.conclude handle invocation (.error .internal))
  | drop (route : Route) (snapshot : RuntimeSnapshot) (running : invocation.phase = .running route snapshot) :
    SectionStep host state handle invocation .drop
      ((state.release invocation.session).enter handle invocation .dropped)
  | trace (elapsedMs : ℕ) (result : Except RuntimeError InvocationOutput)
    (returned : invocation.phase = .returned result) :
    SectionStep host state handle invocation (.trace elapsedMs)
      ((state.enqueueTrace host (state.traceRecord handle invocation result elapsedMs)).enter handle invocation
        (.traced result))
  | publish (result : Except RuntimeError InvocationOutput) (traced : invocation.phase = .traced result) :
    SectionStep host state handle invocation .publish
      ((state.report handle invocation result).enter handle invocation (.ended result))

variable {piece : InvocationSection} {action : CoreAction} {admits : CoreState σ → CoreAction → Prop} {initial : σ}

theorem runSection_step (ran : state.runSection host handle invocation piece = some next) :
    SectionStep host state handle invocation piece next := by
  unfold runSection at ran
  dsimp only at ran
  split at ran
  next unixTimeMs starting =>
    split at ran
    next error invalid =>
      cases ran
      exact .reject unixTimeMs error starting invalid
    next valid =>
      cases ran
      exact .begin unixTimeMs starting valid
  next entering =>
    split at ran
    next => cases ran
    next free =>
      cases ran
      exact .acquire entering free
  next resolving =>
    split at ran
    next error unresolved =>
      cases ran
      exact .fail _ error (by simp [resolving, InvocationPhase.hold]) (by rw [resolving]; rfl)
    next endpoint agent provider resolved =>
      cases ran
      exact .resolve endpoint agent provider resolving resolved
  next route checking =>
    split at ran
    next => 
      cases ran
      exact .fail _ .cancelled (by simp [checking, InvocationPhase.hold]) (by rw [checking]; rfl)
    next live =>
      cases ran
      exact .check route checking live
  next route reading =>
    split at ran
    next snapshot copy =>
      cases ran
      exact .read route snapshot reading copy
    next absent =>
      cases ran
      exact .miss route reading absent
  next route loading =>
    split at ran
    next error unread =>
      cases ran
      exact .fail _ error (by simp [loading, InvocationPhase.hold]) (by rw [loading]; rfl)
    next found loaded =>
      cases ran
      exact .load route found loading loaded
  next route snapshot caching =>
    cases ran
    exact .cache route snapshot caching
  next event route snapshot running =>
    cases ran
    exact .emit event route snapshot running
  next outcome route snapshot running =>
    have held : invocation.phase.hold ≠ .free := by simp [running, InvocationPhase.hold]
    have unwritten : invocation.phase.hold.uncounted = 0 := by rw [running]; rfl
    split at ran
    next response =>
      cases ran
      exact .respond route snapshot response running
    next error =>
      cases ran
      exact .fail _ error held unwritten
    next =>
      obtain ⟨-, ⟨⟩⟩ := Option.ite_none_right_eq_some.mp ran
      exact .fail _ .cancelled held unwritten
    next =>
      cases ran
      exact .idle route snapshot running
  next route snapshot response responded =>
    split at ran
    next =>
      cases ran
      exact .fail _ .cancelled (by simp [responded, InvocationPhase.hold]) (by rw [responded]; rfl)
    next live =>
      cases ran
      exact .recheck route snapshot response responded live
  next route snapshot response saving =>
    split at ran
    next error unsaved =>
      cases ran
      exact .fail _ error (by simp [saving, InvocationPhase.hold]) (by rw [saving]; rfl)
    next store saves =>
      cases ran
      exact .save route snapshot response store saving saves
  next route snapshot response saved =>
    cases ran
    exact .insert route snapshot response saved
  next elapsedMs route snapshot response cached =>
    cases ran
    exact .finish elapsedMs route snapshot response cached
  next elapsedMs result returned =>
    cases ran
    exact .trace elapsedMs result returned
  next result traced =>
    cases ran
    exact .publish result traced
  next entering =>
    cases ran
    exact .leave _ _ entering (.inr rfl)
  next resolving =>
    cases ran
    exact .fail _ .internal (by simp [resolving, InvocationPhase.hold]) (by rw [resolving]; rfl)
  next route reading =>
    cases ran
    exact .fail _ .internal (by simp [reading, InvocationPhase.hold]) (by rw [reading]; rfl)
  next route snapshot caching =>
    cases ran
    exact .fail _ .internal (by simp [caching, InvocationPhase.hold]) (by rw [caching]; rfl)
  next route snapshot response saved =>
    cases ran
    exact .failWritten (by rw [saved]; rfl)
  next route snapshot response cached =>
    cases ran
    exact .failWritten (by rw [cached]; rfl)
  next entering =>
    cases ran
    exact .leave _ _ entering (.inl rfl)
  next route snapshot running =>
    cases ran
    exact .drop route snapshot running
  next => cases ran

theorem announce_eq (state : CoreState σ) (handle : InvocationHandle) (invocation : Invocation) :
    state.announce handle invocation =
      { state with invocations := (state.announce handle invocation).invocations } := by
  unfold announce
  split
  · simp [updatePoll, isTerminalStatus]
  · rfl

theorem report_eq (state : CoreState σ) (handle : InvocationHandle) (invocation : Invocation)
    (result : Except RuntimeError InvocationOutput) : state.report handle invocation result =
      { state with
        invocations := (state.report handle invocation result).invocations
        history := (state.report handle invocation result).history } := by
  unfold report
  split <;> rfl

theorem enqueueTrace_eq (state : CoreState σ) (host : RuntimeHost σ) (trace : RuntimeTraceRecord) :
    state.enqueueTrace host trace = { state with store := (state.enqueueTrace host trace).store } := by
  unfold enqueueTrace
  split <;> rfl

/-! ## The session locks -/

/-- A session lock is held by an invocation of the session between `acquire` and its return. -/
def Locked (locks : HashMap String InvocationHandle) (calls : HashMap InvocationHandle Invocation) : Prop :=
  ∀ session handle, locks.lookup session = some handle ↔
    ∃ invocation, calls.lookup handle = some invocation ∧ invocation.session = session ∧
      invocation.phase.hold ≠ .free

section Locked

variable {locks : HashMap String InvocationHandle} {calls : HashMap InvocationHandle Invocation} {changed : Invocation}

theorem Locked.start (locked : Locked locks calls) (fresh : calls.lookup handle = none)
    (free : changed.phase.hold = .free) : Locked locks (calls.insert handle changed) := by
  intro session holder
  rw [locked session holder, lookup_insert]
  split
  next same =>
    subst same
    simp [fresh, free]
  next => rfl

section

variable (locked : Locked locks calls) (stored : calls.lookup handle = some invocation)
include locked stored

theorem Locked.proceed (session : changed.session = invocation.session)
    (alike : changed.phase.hold = .free ↔ invocation.phase.hold = .free) : Locked locks (calls.insert handle changed) := by
  intro other holder
  rw [locked other holder, lookup_insert]
  split
  next same =>
    subst same
    simp [stored, session, alike]
  next => rfl

theorem Locked.acquire
    (free : locks.lookup invocation.session = none) (session : changed.session = invocation.session)
    (held : changed.phase.hold ≠ .free) :
    Locked (locks.insert invocation.session handle) (calls.insert handle changed) := by
  intro other holder
  rw [lookup_insert, lookup_insert]
  by_cases isSession : other = invocation.session
  · subst isSession
    rw [if_pos rfl]
    by_cases isHandle : holder = handle
    · subst isHandle
      simp [session, held]
    · have unlocked := (locked invocation.session holder).not.mp (by simp [free])
      rw [if_neg isHandle]
      simp only [Option.some.injEq]
      exact ⟨fun same => absurd same.symm isHandle, fun holds => absurd holds unlocked⟩
  · rw [if_neg isSession, locked other holder]
    split
    next same =>
      subst same
      constructor
      · rintro ⟨found, isFound, isOther, _⟩
        rw [stored, Option.some.injEq] at isFound
        subst isFound
        exact absurd isOther.symm isSession
      · rintro ⟨found, isFound, isOther, _⟩
        cases isFound
        exact absurd (session.symm.trans isOther).symm isSession
    next => rfl

theorem Locked.release (held : invocation.phase.hold ≠ .free) (free : changed.phase.hold = .free) :
    Locked (locks.erase invocation.session) (calls.insert handle changed) := by
  have holder := (locked invocation.session handle).mpr ⟨invocation, stored, rfl, held⟩
  intro other found
  rw [lookup_erase, lookup_insert]
  by_cases isHandle : found = handle
  · subst isHandle
    by_cases isSession : other = invocation.session
    · simp [isSession, free]
    · rw [if_neg isSession, locked other found, stored]
      simp [free, Ne.symm isSession]
  · rw [if_neg isHandle, ← locked other found]
    split
    next isSession =>
      subst isSession
      rw [holder]
      simp [Ne.symm isHandle]
    next => rfl

end

end Locked

structure Same (changed invocation : Invocation) : Prop where
  input : changed.input = invocation.input
  cancellation : changed.cancellation = invocation.cancellation
  background : changed.background = invocation.background

theorem Same.session {changed invocation : Invocation} (same : Same changed invocation) :
    changed.session = invocation.session := congrArg (·.sessionId) same.input

section

variable (step : SectionStep host state handle invocation piece next)
include step

theorem SectionStep.calls :
    ∃ changed, next.calls = state.calls.insert handle changed ∧ Same changed invocation := by
  cases step with
  | begin | reject =>
    have calls : (state.announce handle invocation).calls = state.calls := by rw [announce_eq]
    exact ⟨_, congrArg (AList.insert handle _) calls, ⟨rfl, rfl, rfl⟩⟩
  | trace elapsedMs result =>
    have calls : (state.enqueueTrace host (state.traceRecord handle invocation result elapsedMs)).calls =
        state.calls := by rw [enqueueTrace_eq]
    exact ⟨_, congrArg (AList.insert handle _) calls, ⟨rfl, rfl, rfl⟩⟩
  | publish result =>
    have calls : (state.report handle invocation result).calls = state.calls := by rw [report_eq]
    exact ⟨_, congrArg (AList.insert handle _) calls, ⟨rfl, rfl, rfl⟩⟩
  | acquire | leave | resolve | check | read | miss | load | cache | emit | respond | idle | recheck | save | insert
  | finish | fail | failWritten | drop => exact ⟨_, rfl, ⟨rfl, rfl, rfl⟩⟩

theorem SectionStep.frame :
    next.toRuntimeCore = state.toRuntimeCore ∧ next.nextInvocation = state.nextInvocation ∧
      next.restores = state.restores ∧ next.cancels = state.cancels := by
  cases step with
  | begin | reject =>
    rw [announce_eq]
    exact ⟨rfl, rfl, rfl, rfl⟩
  | trace =>
    rw [enqueueTrace_eq]
    exact ⟨rfl, rfl, rfl, rfl⟩
  | publish =>
    rw [report_eq]
    exact ⟨rfl, rfl, rfl, rfl⟩
  | acquire | leave | resolve | check | read | miss | load | cache | emit | respond | idle | recheck | save | insert
  | finish | fail | failWritten | drop => exact ⟨rfl, rfl, rfl, rfl⟩

theorem SectionStep.locked
    (stored : state.calls.lookup handle = some invocation) (locked : Locked state.sessionLocks state.calls) :
    Locked next.sessionLocks next.calls := by
  cases step with
  | begin _ starting | reject _ _ starting =>
    rw [announce_eq]
    exact locked.proceed stored rfl (by simp [starting, InvocationPhase.hold])
  | acquire entering free => exact locked.acquire stored free rfl (by simp [InvocationPhase.hold])
  | leave _ phase entering left =>
    rcases left with rfl | rfl <;> exact locked.proceed stored rfl (by simp [entering, InvocationPhase.hold])
  | resolve _ _ _ phase | check _ phase | read _ _ phase | miss _ phase | load _ _ phase | cache _ _ phase
  | emit _ _ _ phase | respond _ _ _ phase | recheck _ _ _ phase | save _ _ _ _ phase | insert _ _ _ phase =>
    exact locked.proceed stored rfl (by simp [phase, InvocationPhase.hold])
  | idle _ _ phase | drop _ _ phase | finish _ _ _ _ phase =>
    exact locked.release stored (by simp [phase, InvocationPhase.hold]) rfl
  | fail _ _ held => exact locked.release stored held rfl
  | failWritten written =>
    refine locked.release stored ?_ rfl
    intro free
    rw [free] at written
    cases written
  | trace _ _ returned =>
    rw [enqueueTrace_eq]
    exact locked.proceed stored rfl (by simp [returned, InvocationPhase.hold])
  | publish _ traced =>
    rw [report_eq]
    exact locked.proceed stored rfl (by simp [traced, InvocationPhase.hold])

end

theorem invocationId_injective {left right : ℕ} (same : invocationId left = invocationId right) : left = right := by
  have digits := congrArg String.toList same
  simp only [invocationId, String.toList_append, List.append_cancel_left_eq] at digits
  exact Nat.repr_injective (String.toList_injective digits)

def Issued (state : CoreState σ) : Prop :=
  ∀ handle ∈ state.calls, ∃ id < state.nextInvocation, handle = invocationId id

theorem Issued.fresh (issued : Issued state) : state.calls.lookup (invocationId state.nextInvocation) = none := by
  rw [AList.lookup_eq_none]
  intro taken
  obtain ⟨id, below, same⟩ := issued _ taken
  have := invocationId_injective same
  omega

/-! ## The actions -/

inductive CoreStep (host : RuntimeHost σ) (state : CoreState σ) : CoreAction → CoreState σ → Prop where
  | stay (action : CoreAction) : CoreStep host state action state
  | define (operation : DefinitionOperation) (core : RuntimeCore)
    (defined : state.toRuntimeCore.define host.manifests operation = .ok core) :
    CoreStep host state (.define operation) { state with toRuntimeCore := core }
  | createToken : CoreStep host state .createToken { state with tokens := state.tokens + 1 }
  | cancelToken (cancellation : CancellationToken) :
    CoreStep host state (.cancelToken cancellation) { state with cancelled := cancellation :: state.cancelled }
  | refuse (input : InvocationInput) (queueFull : Bool) (invocations : InvocationRegistry)
    (small : state.nextInvocation ≤ u64Max)
    (kept : ∀ handle entry, invocations.entries.lookup handle = some entry →
      state.invocations.entries.lookup handle = some entry) :
    CoreStep host state (.startInvoke input queueFull) { state with
      nextInvocation := state.nextInvocation + 1, tokens := state.tokens + 1, invocations }
  | start (input : InvocationInput) (invocations : InvocationRegistry) (small : state.nextInvocation ≤ u64Max)
    (accepted : state.invocations.insert (invocationId state.nextInvocation) ⟨state.tokens⟩ = .ok invocations) :
    CoreStep host state (.startInvoke input false) { state with
      nextInvocation := state.nextInvocation + 1
      tokens := state.tokens + 1
      invocations
      calls := state.calls.insert (invocationId state.nextInvocation) (.start input ⟨state.tokens⟩ true) }
  | invoke (input : InvocationInput) (cancellation : CancellationToken) (small : state.nextInvocation ≤ u64Max) :
    CoreStep host state (.invoke input cancellation) (state.invoke input cancellation)
  | run (handle : InvocationHandle) (invocation : Invocation) (piece : InvocationSection) (next : CoreState σ)
    (stored : state.calls.lookup handle = some invocation)
    (ran : SectionStep host state handle invocation piece next) : CoreStep host state (.run handle piece) next
  | takeInvocation (handle : InvocationHandle) :
    CoreStep host state (.takeInvocation handle) { state with invocations := (state.invocations.take handle).2 }
  | drainEvents (handle : InvocationHandle) :
    CoreStep host state (.drainEvents handle) { state with invocations := (state.invocations.drainEvents handle).2 }
  | cancelInvocation (handle : InvocationHandle) (entry : InvocationEntry)
    (stored : state.invocations.entries.lookup handle = some entry) :
    CoreStep host state (.cancelInvocation handle) { state with
      cancels := state.cancels ++ [.flagging handle entry.cancellation] }
  | flag (call : ℕ) (handle : InvocationHandle) (cancellation : CancellationToken)
    (flagging : state.cancels[call]? = some (.flagging handle cancellation)) :
    CoreStep host state (.flag call) { state with
      cancelled := cancellation :: state.cancelled, cancels := state.cancels.set call (.publishing handle) }
  | publishCancelled (call : ℕ) (handle : InvocationHandle)
    (publishing : state.cancels[call]? = some (.publishing handle)) :
    CoreStep host state (.publishCancelled call)
      ({ state with cancels := state.cancels.set call .returned }.updatePoll handle .cancelled none none)
  | restoreSnapshot (bytes : List UInt8) (snapshot : PortableProjectSnapshot)
    (decoded : host.snapshots.fromSlice bytes = .ok snapshot) :
    CoreStep host state (.restoreSnapshot bytes) { state with
      restores := state.restores ++ [.saving snapshot.sessions []] }
  | restoreSession (call : ℕ) (session : String) (sessions : HashMap String RuntimeSnapshot) (saved : List String)
    (snapshot : RuntimeSnapshot) (store : σ) (saving : state.restores[call]? = some (.saving sessions saved))
    (member : sessions.lookup session = some snapshot) (fresh : session ∉ saved) (valid : PortableIdentifier session)
    (saves : host.store.save state.store state.projectId session snapshot = .ok store) :
    CoreStep host state (.restoreSession call session)
      ({ state with store, restores := state.restores.set call (.saving sessions (session :: saved)) }.record
        (.restored session snapshot))
  | restoreFail (call : ℕ) (session : String) (sessions : HashMap String RuntimeSnapshot) (saved : List String)
    (snapshot : RuntimeSnapshot) (saving : state.restores[call]? = some (.saving sessions saved))
    (member : sessions.lookup session = some snapshot)
    (fails : PortableIdentifier session →
      ∀ store, host.store.save state.store state.projectId session snapshot ≠ .ok store) :
    CoreStep host state (.restoreSession call session) { state with restores := state.restores.set call .returned }
  | replaceSessions (call : ℕ) (sessions : HashMap String RuntimeSnapshot) (saved : List String)
    (saving : state.restores[call]? = some (.saving sessions saved))
    (all : ∀ session ∈ sessions.keys, session ∈ saved) :
    CoreStep host state (.replaceSessions call)
      ({ state with sessions, restores := state.restores.set call .returned }.record (.restoreReturned sessions.keys))
  | restorePoisoned (call : ℕ) (sessions : HashMap String RuntimeSnapshot) (saved : List String)
    (saving : state.restores[call]? = some (.saving sessions saved)) :
    CoreStep host state (.restorePoisoned call) { state with restores := state.restores.set call .returned }
  | acknowledgeTraces (traceIds : List String) (store : σ)
    (acknowledged : host.store.acknowledgeTraces state.store traceIds = .ok store) :
    CoreStep host state (.acknowledgeTraces traceIds) { state with store }

theorem startInvoke_step (input : InvocationInput) (queueFull : Bool) (small : state.nextInvocation ≤ u64Max) :
    CoreStep host state (.startInvoke input queueFull) (state.startInvoke input queueFull) := by
  unfold startInvoke
  dsimp only
  split
  next => exact .stay _
  next =>
    split
    next => exact .refuse input queueFull _ small (fun _ _ stored => stored)
    next invocations accepted =>
      cases queueFull with
      | false => exact .start input invocations small accepted
      | true =>
        refine .refuse input true _ small fun handle entry stored => ?_
        rcases InvocationRegistry.lookup_inserted accepted (InvocationRegistry.lookup_remove stored) with
          ⟨isNew, _⟩ | earlier
        · simp [InvocationRegistry.remove, lookup_erase, isNew] at stored
        · exact earlier

theorem restoreSession_step {call : ℕ} {session : String}
    (stepped : state.restoreSession host call session = some next) :
    CoreStep host state (.restoreSession call session) next := by
  unfold restoreSession at stepped
  split at stepped
  next sessions saved saving =>
    split at stepped
    next => cases stepped
    next snapshot mem =>
      split at stepped
      next => cases stepped
      next fresh =>
        dsimp only at stepped
        split at stepped
        next error failed =>
          cases stepped
          refine .restoreFail call session sessions saved snapshot saving mem fun valid store saves => ?_
          rw [check_bind_ok.mpr ⟨validateIdentifier_ok.mpr valid, saves⟩] at failed
          cases failed
        next store succeeded =>
          cases stepped
          obtain ⟨valid, saves⟩ := check_bind_ok.mp succeeded
          exact .restoreSession call session sessions saved snapshot store saving mem fresh
            (validateIdentifier_ok.mp valid) saves
  next => cases stepped

theorem step_step (stepped : state.step host action = some next) : CoreStep host state action next := by
  cases action with
  | define operation =>
    simp only [step] at stepped
    split at stepped
    next core defined =>
      cases stepped
      exact .define operation core defined
    next =>
      cases stepped
      exact .stay _
  | createToken =>
    cases stepped
    exact .createToken
  | cancelToken cancellation =>
    simp only [step] at stepped
    split at stepped <;> cases stepped
    exact .cancelToken cancellation
  | startInvoke input queueFull =>
    simp only [step] at stepped
    obtain ⟨small, ⟨⟩⟩ := Option.ite_none_right_eq_some.mp stepped
    exact startInvoke_step input queueFull small
  | invoke input cancellation =>
    simp only [step] at stepped
    obtain ⟨small, ⟨⟩⟩ := Option.ite_none_right_eq_some.mp stepped
    exact .invoke input cancellation small.1
  | run handle piece =>
    obtain ⟨invocation, stored, ran⟩ := Option.bind_eq_some_iff.mp stepped
    exact .run handle invocation piece next stored (runSection_step ran)
  | takeInvocation handle =>
    cases stepped
    exact .takeInvocation handle
  | drainEvents handle =>
    cases stepped
    exact .drainEvents handle
  | cancelInvocation handle =>
    cases stepped
    unfold cancelInvocation
    split
    next => exact .stay _
    next entry stored => exact .cancelInvocation handle entry stored
  | flag call =>
    simp only [step] at stepped
    split at stepped
    next handle cancellation flagging =>
      cases stepped
      exact .flag call handle cancellation flagging
    next => cases stepped
  | publishCancelled call =>
    simp only [step] at stepped
    split at stepped
    next handle publishing =>
      cases stepped
      exact .publishCancelled call handle publishing
    next => cases stepped
  | exportSnapshot =>
    cases stepped
    exact .stay _
  | restoreSnapshot bytes =>
    cases stepped
    unfold restoreSnapshot
    split
    next => exact .stay _
    next snapshot decoded =>
      split
      next => exact .stay _
      next => exact .restoreSnapshot bytes snapshot decoded
  | restoreSession call session => exact restoreSession_step stepped
  | replaceSessions call =>
    simp only [step, replaceSessions] at stepped
    split at stepped
    next sessions saved saving =>
      split at stepped <;> cases stepped
      next all => exact .replaceSessions call sessions saved saving all
    next => cases stepped
  | restorePoisoned call =>
    simp only [step, restorePoisoned] at stepped
    split at stepped
    next sessions saved saving =>
      split at stepped <;> cases stepped
      exact .restorePoisoned call sessions saved saving
    next => cases stepped
  | acknowledgeTraces traceIds =>
    simp only [step] at stepped
    split at stepped
    next store acknowledged =>
      cases stepped
      exact .acknowledgeTraces traceIds store acknowledged
    next =>
      cases stepped
      exact .stay _

/-! ## Invariants of every run -/

structure Grounded (state : CoreState σ) : Prop where
  locked : Locked state.sessionLocks state.calls
  issued : Issued state

theorem Issued.insert {calls : HashMap InvocationHandle Invocation} {changed : Invocation}
    (issued : Issued state) {bound : ℕ} (grows : state.nextInvocation ≤ bound)
    (isIssued : ∃ id < bound, handle = invocationId id) (inserted : calls = state.calls.insert handle changed) :
    ∀ other ∈ calls, ∃ id < bound, other = invocationId id := by
  intro other mem
  rw [inserted, AList.mem_insert] at mem
  rcases mem with rfl | earlier
  · exact isIssued
  · obtain ⟨id, below, same⟩ := issued other earlier
    exact ⟨id, Nat.lt_of_lt_of_le below grows, same⟩

theorem Grounded.step (grounded : Grounded state) (stepped : CoreStep host state action next) :
    Grounded next := by
  have counted : ∀ other ∈ state.calls, ∃ id < state.nextInvocation + 1, other = invocationId id := by
    intro other mem
    obtain ⟨id, below, same⟩ := grounded.issued other mem
    exact ⟨id, Nat.lt_succ_of_lt below, same⟩
  cases stepped with
  | start input invocations =>
    exact ⟨grounded.locked.start grounded.issued.fresh rfl,
      grounded.issued.insert (Nat.le_succ _) ⟨_, Nat.lt_succ_self _, rfl⟩ rfl⟩
  | invoke input cancellation =>
    exact ⟨grounded.locked.start grounded.issued.fresh rfl,
      grounded.issued.insert (Nat.le_succ _) ⟨_, Nat.lt_succ_self _, rfl⟩ rfl⟩
  | run handle invocation piece _ stored ran =>
    obtain ⟨changed, calls, _⟩ := ran.calls
    refine ⟨ran.locked stored grounded.locked, ?_⟩
    have isIssued := grounded.issued handle (AList.lookup_isSome.mp (by simp [stored]))
    rw [Issued, ran.frame.2.1]
    exact grounded.issued.insert (Nat.le_refl _) isIssued calls
  | refuse => exact ⟨grounded.locked, counted⟩
  | stay | define | createToken | cancelToken | takeInvocation | drainEvents | cancelInvocation | flag
  | publishCancelled | restoreSnapshot | restoreSession | restoreFail | replaceSessions | restorePoisoned
  | acknowledgeTraces => exact ⟨grounded.locked, grounded.issued⟩

theorem grounded_opened (core : RuntimeCore) (store : σ) : Grounded (opened core store) where
  locked session holder := by simp [opened]
  issued handle mem := by simp [opened] at mem

theorem grounded {projectId : String}
    (reachable : (machine host projectId initial).Reachable admits state) : Grounded state := by
  apply reachable.invariant
  · rintro _ ⟨core, _, rfl⟩
    exact grounded_opened core initial
  · intro _ _ _ grounded _ stepped
    exact grounded.step (step_step stepped)

theorem CoreStep.projectId (stepped : CoreStep host state action next) : next.projectId = state.projectId := by
  cases stepped with
  | define operation core defined => exact (RuntimeCore.define_ok defined).1
  | run _ _ _ _ _ ran => exact congrArg RuntimeCore.projectId ran.frame.1
  | stay | createToken | cancelToken | refuse | start | invoke | takeInvocation | drainEvents | cancelInvocation | flag
  | publishCancelled | restoreSnapshot | restoreSession | restoreFail | replaceSessions | restorePoisoned
  | acknowledgeTraces => rfl

theorem projectId_of_reachable {projectId : String}
    (reachable : (machine host projectId initial).Reachable admits state) : state.projectId = projectId := by
  apply reachable.invariant
  · rintro _ ⟨core, accepted, rfl⟩
    obtain ⟨_, rfl⟩ := RuntimeCore.new_ok.mp accepted
    rfl
  · intro _ _ _ same _ stepped
    exact (step_step stepped).projectId.trans same

/-- The invocation is between `acquire` and its return. -/
def Occupies (state : CoreState σ) (handle : InvocationHandle) (session : String) : Prop :=
  ∃ invocation, state.calls.lookup handle = some invocation ∧ invocation.session = session ∧ invocation.phase.hold ≠ .free

/-- No two invocations occupy a session, and one that waits for it gets its lock exactly when none does. -/
theorem sessions_exclusive (host : RuntimeHost σ) (projectId : String) (initial : σ) (state : CoreState σ)
    (reachable : (machine host projectId initial).Reachable Machine.always state) (session : String) :
    (∀ first second, state.Occupies first session → state.Occupies second session → first = second) ∧
    ∀ handle invocation, state.calls.lookup handle = some invocation → invocation.session = session →
      invocation.phase = .entering →
        ((state.step host (.run handle .acquire)).isSome = true ↔ ∀ other, ¬state.Occupies other session) := by
  have locked : ∀ handle, state.sessionLocks.lookup session = some handle ↔ state.Occupies handle session :=
    (grounded reachable).locked session
  constructor
  · intro first second occupies also
    exact Option.some.inj (((locked first).mpr occupies).symm.trans ((locked second).mpr also))
  · rintro handle invocation stored rfl entering
    simp only [step, stored, Option.bind_some, runSection, entering, ← locked]
    cases state.sessionLocks.lookup invocation.session <;> simp

/-- A second invocation of the session waits for the first. -/
theorem sessions_exclusive_waiting : ∃ state : CoreState MemoryRuntimeStore, state.Occupies (invocationId 1) "default" ∧
    state.step townHost (.run (invocationId 2) .acquire) = none ∧
      ∀ other, state.Occupies other "default" → other = invocationId 1 := by
  obtain ⟨state, reachable, passes⟩ := Machine.reachable_of_execute (machine townHost "town" .empty)
    Machine.always townRuntime_starts
    (townSettings ++ [.invoke townInput ⟨0⟩] ++ untilResponse 1 ++
      [.invoke townInput ⟨0⟩, .run (invocationId 2) (.begin 1700000000001)])
    (fun state => (state.calls.lookup (invocationId 1)).any (fun invocation =>
        invocation.session = "default" ∧ invocation.phase.hold ≠ .free) &&
      (state.calls.lookup (invocationId 2)).any fun invocation =>
        invocation.session = "default" ∧ invocation.phase = .entering)
    (by decide +kernel)
  simp only [Bool.and_eq_true, Option.any_eq_true, decide_eq_true_eq] at passes
  obtain ⟨⟨first, isFirst, ofSession, held⟩, second, isSecond, also, entering⟩ := passes
  obtain ⟨exclusive, enters⟩ := sessions_exclusive townHost "town" .empty state reachable "default"
  have occupies : state.Occupies (invocationId 1) "default" := ⟨first, isFirst, ofSession, held⟩
  refine ⟨state, occupies, ?_, fun other also => exclusive _ _ also occupies⟩
  rw [← Option.not_isSome_iff_eq_none, enters _ second isSecond also entering]
  exact fun free => free _ occupies

end CoreState

end Vifu.Runtime
