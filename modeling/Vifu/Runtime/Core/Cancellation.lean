import Vifu.Runtime.Core.Sessions

/-!
# Cancelled and failed invocations

An invocation is undecided until its last look at the cancellation token; past it, the snapshot
is saved unless the store refuses.  `cancel_invocation` sets the token first and publishes
`Cancelled` later: a result that is published while the invocation is undecided reaches it through
the token.
-/

namespace Vifu.Runtime

open Foundation

/-- Whether an invocation saves its session's snapshot. -/
inductive Verdict where
  | undecided
  | committed
  | written
  | failed
  deriving DecidableEq

def InvocationPhase.verdict : InvocationPhase → Verdict
  | .starting | .entering | .resolving | .checking _ | .reading _ | .loading _ | .caching _ _ | .running _ _
  | .responded _ _ _ => .undecided
  | .saving _ _ _ => .committed
  | .saved _ _ _ | .cached _ _ _ => .written
  | .returned (.ok _) | .traced (.ok _) | .ended (.ok _) => .written
  | .returned (.error _) | .traced (.error _) | .ended (.error _) | .dropped => .failed

def Occurrence.decisive : Occurrence → Bool
  | .saved _ _ _ | .published _ _ => true
  | .loaded _ _ | .succeeded _ _ | .restored _ _ | .restoreReturned _ => false

def lastWritten (initial : String → Option RuntimeSnapshot) :
    List Occurrence → String → Option RuntimeSnapshot
  | [], session => initial session
  | .saved _ other snapshot :: history, session | .restored other snapshot :: history, session =>
    if session = other then some snapshot else lastWritten initial history session
  | _ :: history, session => lastWritten initial history session

namespace CoreState

variable {σ : Type} {host : RuntimeHost σ} {state next : CoreState σ} {handle : InvocationHandle}
  {invocation changed : Invocation} {piece : InvocationSection}

/-! ## What a section decides -/

/-- What a section does to the verdict on its invocation, and what it records. -/
structure Decides (state next : CoreState σ) (handle : InvocationHandle) (invocation changed : Invocation) : Prop where
  cancelled : ∀ token ∈ state.cancelled, token ∈ next.cancelled
  undecided : invocation.phase.verdict = .undecided → invocation.cancellation ∈ state.cancelled →
    changed.phase.verdict = .undecided ∨ changed.phase.verdict = .failed
  written : invocation.phase.verdict = .written → changed.phase.verdict = .written
  failed : invocation.phase.verdict = .failed → changed.phase.verdict = .failed
  saved : ∀ other session snapshot, .saved other session snapshot ∈ next.history →
    .saved other session snapshot ∈ state.history ∨ other = handle ∧ changed.phase.verdict = .written
  published : ∀ other status, .published other status ∈ next.history →
    .published other status ∈ state.history ∨ other = handle ∧ (status = .completed ∨ changed.phase.verdict = .failed)

theorem Decides.same (cancelled : ∀ token ∈ state.cancelled, token ∈ next.cancelled)
    (history : ∀ occurrence ∈ next.history, occurrence.decisive = true → occurrence ∈ state.history)
    (verdict : changed.phase.verdict = invocation.phase.verdict) :
    Decides state next handle invocation changed where
  cancelled := cancelled
  undecided undecided _ := .inl (verdict.trans undecided)
  written written := verdict.trans written
  failed failed := verdict.trans failed
  saved _ _ _ mem := .inl (history _ mem rfl)
  published _ _ mem := .inl (history _ mem rfl)

theorem Decides.fail (cancelled : ∀ token ∈ state.cancelled, token ∈ next.cancelled)
    (history : next.history = state.history) (unwritten : invocation.phase.verdict ≠ .written)
    (failed : changed.phase.verdict = .failed) : Decides state next handle invocation changed where
  cancelled := cancelled
  undecided _ _ := .inr failed
  written written := absurd written unwritten
  failed _ := failed
  saved _ _ _ mem := .inl (history ▸ mem)
  published _ _ mem := .inl (history ▸ mem)

theorem decisive_of_mem_cons {occurrence recorded : Occurrence} {history : List Occurrence}
    (indecisive : recorded.decisive = false) (mem : occurrence ∈ recorded :: history)
    (decisive : occurrence.decisive = true) : occurrence ∈ history := by
  rcases List.mem_cons.mp mem with rfl | earlier
  · rw [indecisive] at decisive
    cases decisive
  · exact earlier

theorem report_history (state : CoreState σ) (handle : InvocationHandle) (invocation : Invocation)
    (result : Except RuntimeError InvocationOutput) :
    (state.report handle invocation result).history = state.history ∨
      (state.report handle invocation result).history = .published handle (resultStatus result) :: state.history := by
  unfold report updatePoll
  split
  · dsimp only
    split
    · exact .inr rfl
    · exact .inl rfl
  · exact .inl rfl

theorem verdict_of_hold {phase : InvocationPhase} (held : phase.hold ≠ .free) (unwritten : phase.hold.uncounted = 0) :
    phase.verdict ≠ .written := by
  cases phase <;> simp_all [InvocationPhase.hold, InvocationPhase.verdict, Hold.uncounted]

theorem SectionStep.decides (step : SectionStep host state handle invocation piece next)
    (unpoisoned : piece = .poisoned → invocation.phase.hold.uncounted = 0) :
    ∃ changed, next.calls = state.calls.insert handle changed ∧ Same changed invocation ∧
      Decides state next handle invocation changed := by
  cases step with
  | begin _ starting =>
    rw [announce_eq]
    exact ⟨_, rfl, ⟨rfl, rfl, rfl⟩, .same (fun _ mem => mem) (fun _ mem _ => mem) (by rw [starting]; rfl)⟩
  | reject _ _ starting =>
    rw [announce_eq]
    exact ⟨_, rfl, ⟨rfl, rfl, rfl⟩,
      .fail (fun _ mem => mem) rfl (by simp [starting, InvocationPhase.verdict]) rfl⟩
  | leave _ phase entering left =>
    refine ⟨_, rfl, ⟨rfl, rfl, rfl⟩,
      .fail (fun _ mem => mem) rfl (by simp [entering, InvocationPhase.verdict]) ?_⟩
    rcases left with rfl | rfl <;> rfl
  | acquire phase | resolve _ _ _ phase | check _ phase | miss _ phase | cache _ _ phase | emit _ _ _ phase
  | respond _ _ _ phase | insert _ _ _ phase =>
    exact ⟨_, rfl, ⟨rfl, rfl, rfl⟩, .same (fun _ mem => mem) (fun _ mem _ => mem)
      (congrArg InvocationPhase.verdict phase).symm⟩
  | read _ _ phase | load _ _ phase | finish _ _ _ _ phase =>
    exact ⟨_, rfl, ⟨rfl, rfl, rfl⟩,
      .same (fun _ mem => mem) (fun _ => decisive_of_mem_cons rfl) (congrArg InvocationPhase.verdict phase).symm⟩
  | recheck route snapshot response responded live =>
    refine ⟨_, rfl, ⟨rfl, rfl, rfl⟩, fun _ mem => mem, fun _ cancelled => absurd cancelled live, ?_, ?_,
      fun _ _ _ mem => .inl mem, fun _ _ mem => .inl mem⟩ <;>
    rw [responded] <;> exact nofun
  | save route snapshot response store saving =>
    refine ⟨_, rfl, ⟨rfl, rfl, rfl⟩, fun _ mem => mem, ?_, fun _ => rfl, ?_, ?_, ?_⟩
    · rw [saving]
      exact nofun
    · rw [saving]
      exact nofun
    · intro other session saved mem
      rcases List.mem_cons.mp mem with isSave | earlier
      · cases isSave
        exact .inr ⟨rfl, rfl⟩
      · exact .inl earlier
    · intro other status mem
      exact .inl ((List.mem_cons.mp mem).resolve_left nofun)
  | idle _ _ running =>
    exact ⟨_, rfl, ⟨rfl, rfl, rfl⟩, .fail (fun _ mem => List.mem_cons_of_mem _ mem) rfl
      (by simp [running, InvocationPhase.verdict]) rfl⟩
  | drop _ _ running =>
    exact ⟨_, rfl, ⟨rfl, rfl, rfl⟩, .fail (fun _ mem => mem) rfl (by simp [running, InvocationPhase.verdict]) rfl⟩
  | fail _ error held unwritten =>
    exact ⟨_, rfl, ⟨rfl, rfl, rfl⟩, .fail (fun _ mem => mem) rfl (verdict_of_hold held unwritten) rfl⟩
  | failWritten written =>
    rw [unpoisoned rfl] at written
    cases written
  | trace _ result returned =>
    rw [enqueueTrace_eq]
    refine ⟨_, rfl, ⟨rfl, rfl, rfl⟩, .same (fun _ mem => mem) (fun _ mem _ => mem) ?_⟩
    cases result <;> rw [returned] <;> rfl
  | publish result traced =>
    have history := report_history state handle invocation result
    have verdict : (InvocationPhase.ended result).verdict = invocation.phase.verdict := by
      cases result <;> rw [traced] <;> rfl
    rw [report_eq]
    refine ⟨_, rfl, ⟨rfl, rfl, rfl⟩, fun _ mem => mem, fun undecided _ => .inl (verdict.trans undecided),
      verdict.trans, verdict.trans, ?_, ?_⟩
    · intro other session snapshot mem
      rcases history with same | published
      · exact .inl (same ▸ mem)
      · rw [published] at mem
        exact .inl ((List.mem_cons.mp mem).resolve_left nofun)
    · intro other status mem
      rcases history with same | published
      · exact .inl (same ▸ mem)
      · rw [published] at mem
        rcases List.mem_cons.mp mem with isReport | earlier
        · cases isReport
          cases result with
          | ok output => exact .inr ⟨rfl, .inl rfl⟩
          | error error => exact .inr ⟨rfl, .inr rfl⟩
        · exact .inl earlier

/-! ## What a run writes -/

variable (working : WorkingStore host.store) {action : CoreAction} {since : List Occurrence} {before : CoreState σ}

structure Extends (working : WorkingStore host.store) (before state : CoreState σ) (since : List Occurrence) : Prop where
  history : state.history = since ++ before.history
  stored : ∀ session, storedSnapshot working state session = lastWritten (storedSnapshot working before) since session

theorem lastWritten_append (initial : String → Option RuntimeSnapshot) (since earlier : List Occurrence) (session : String) :
    lastWritten initial (since ++ earlier) session =
      lastWritten (lastWritten initial earlier) since session := by
  induction since with
  | nil => rfl
  | cons occurrence since ih =>
    cases occurrence with
    | saved handle other snapshot | restored other snapshot =>
      simp only [List.cons_append, lastWritten, ih]
    | loaded | succeeded | restoreReturned | published => exact ih

theorem Extends.trans {since later : List Occurrence} (first : Extends working before state since)
    (second : Extends working state next later) : Extends working before next (later ++ since) where
  history := by rw [second.history, first.history, List.append_assoc]
  stored session := by
    rw [second.stored, lastWritten_append]
    congr 1
    funext other
    exact first.stored other

theorem Extends.grows (first : Extends working state next since) :
    ∀ occurrence ∈ state.history, occurrence ∈ next.history := by
  intro occurrence mem
  rw [first.history]
  exact List.mem_append_right since mem

theorem Extends.quiet (history : next.history = since ++ state.history)
    (unwritten : ∀ initial session, lastWritten initial since session = initial session)
    (store : working.snapshot next.store = working.snapshot state.store) (project : next.projectId = state.projectId) :
    Extends working state next since where
  history := history
  stored session := by
    rw [unwritten]
    simp only [storedSnapshot, store, project]

theorem SectionStep.extends (step : SectionStep host state handle invocation piece next) :
    ∃ since, Extends working state next since := by
  cases step with
  | save route snapshot response store saving saves =>
    refine ⟨[.saved handle invocation.session (Invocation.nextSnapshot snapshot response)], rfl, fun session => ?_⟩
    show working.snapshot store state.projectId session = _
    rw [working.save_snapshot saves]
    simp [lastWritten, storedSnapshot]
  | begin | reject =>
    rw [announce_eq]
    exact ⟨[], .quiet working rfl (fun _ _ => rfl) rfl rfl⟩
  | trace elapsedMs result =>
    rw [enqueueTrace_eq]
    exact ⟨[], .quiet working rfl (fun _ _ => rfl) (enqueueTrace_snapshot working state _) rfl⟩
  | publish result =>
    have history := report_history state handle invocation result
    rw [report_eq]
    rcases history with same | published
    · exact ⟨[], .quiet working same (fun _ _ => rfl) rfl rfl⟩
    · exact ⟨[.published handle (resultStatus result)], .quiet working published (fun _ _ => rfl) rfl rfl⟩
  | read | load => exact ⟨[.loaded handle invocation.session], .quiet working rfl (fun _ _ => rfl) rfl rfl⟩
  | finish => exact ⟨[.succeeded handle invocation.session], .quiet working rfl (fun _ _ => rfl) rfl rfl⟩
  | acquire | leave | resolve | check | miss | cache | emit | respond | idle | recheck | insert | fail | failWritten
  | drop => exact ⟨[], .quiet working rfl (fun _ _ => rfl) rfl rfl⟩

theorem updatePoll_history (state : CoreState σ) (handle : InvocationHandle) (status : InvocationStatus)
    (output : Option InvocationOutput) (error : Option String) :
    (state.updatePoll handle status output error).history = state.history ∨
      state.pendingInvocation handle = true ∧
        (state.updatePoll handle status output error).history = .published handle status :: state.history := by
  unfold updatePoll
  split
  next pending => exact .inr ⟨pending.1, rfl⟩
  next => exact .inl rfl

theorem CoreStep.extends (stepped : CoreStep host state action next) :
    ∃ since, Extends working state next since := by
  cases stepped with
  | run handle invocation piece _ stored ran => exact ran.extends working
  | restoreSession call session sessions saved snapshot store _ _ _ _ saves =>
    refine ⟨[.restored session snapshot], rfl, fun other => ?_⟩
    show working.snapshot store state.projectId other = _
    rw [working.save_snapshot saves]
    simp [lastWritten, storedSnapshot]
  | define operation core defined =>
    exact ⟨[], .quiet working rfl (fun _ _ => rfl) rfl (RuntimeCore.define_ok defined).1⟩
  | acknowledgeTraces traceIds store acknowledged =>
    exact ⟨[], .quiet working rfl (fun _ _ => rfl) (working.acknowledge_snapshot acknowledged) rfl⟩
  | publishCancelled call handle =>
    rcases updatePoll_history { state with cancels := state.cancels.set call .returned } handle .cancelled none none with
      same | ⟨_, published⟩
    · exact ⟨[], .quiet working same (fun _ _ => rfl) rfl rfl⟩
    · exact ⟨[.published handle .cancelled], .quiet working published (fun _ _ => rfl) rfl rfl⟩
  | replaceSessions call sessions =>
    exact ⟨[.restoreReturned sessions.keys], .quiet working rfl (fun _ _ => rfl) rfl rfl⟩
  | stay | createToken | cancelToken | refuse | start | invoke | takeInvocation | drainEvents | cancelInvocation | flag
  | restoreSnapshot | restoreFail | restorePoisoned => exact ⟨[], .quiet working rfl (fun _ _ => rfl) rfl rfl⟩

theorem extends_of_run {projectId : String} {initial : σ} {admits : CoreState σ → CoreAction → Prop}
    (run : (machine host projectId initial).RunsTo admits before state) :
    ∃ since, Extends working before state since := by
  apply run.preserves
  · intro _ _ _ earlier _ stepped
    obtain ⟨since, first⟩ := earlier
    obtain ⟨later, second⟩ := (step_step stepped).extends working
    exact ⟨later ++ since, first.trans working second⟩
  · exact ⟨[], rfl, fun _ => rfl⟩

def CallIs (calls : HashMap InvocationHandle Invocation) (handle : InvocationHandle) (described : Invocation → Prop) :
    Prop :=
  ∃ invocation, calls.lookup handle = some invocation ∧ described invocation

variable {calls : HashMap InvocationHandle Invocation} {described expected : Invocation → Prop}

theorem CallIs.imp
    (described_call : CallIs calls handle described) (weaker : ∀ invocation, described invocation → expected invocation) :
    CallIs calls handle expected := by
  obtain ⟨invocation, stored, holds⟩ := described_call
  exact ⟨invocation, stored, weaker invocation holds⟩

variable {other : InvocationHandle} {status : InvocationStatus} {entry : InvocationEntry}

theorem CallIs.start {described : Invocation → Prop}
    (described_call : CallIs calls other described) (fresh : calls.lookup handle = none) :
    CallIs (calls.insert handle changed) other described := by
  obtain ⟨invocation, stored, holds⟩ := described_call
  refine ⟨invocation, ?_, holds⟩
  rw [lookup_insert, if_neg, stored]
  rintro rfl
  rw [fresh] at stored
  cases stored

theorem CallIs.proceed (described_call : CallIs calls other described)
    (stored : calls.lookup handle = some invocation) (own : described invocation → expected changed)
    (weaker : ∀ invocation, described invocation → expected invocation) :
    CallIs (calls.insert handle changed) other expected := by
  obtain ⟨found, isFound, holds⟩ := described_call
  by_cases isHandle : other = handle
  · subst isHandle
    rw [stored, Option.some.injEq] at isFound
    subst isFound
    exact ⟨changed, by rw [lookup_insert, if_pos rfl], own holds⟩
  · exact ⟨found, by rw [lookup_insert, if_neg isHandle, isFound], weaker found holds⟩

/-! ## Entries and what has been published -/

/-- Where an entry comes from when an action has run: it continues an entry, or has just ended in
    public. -/
def Follows (state next : CoreState σ) (handle : InvocationHandle) (entry : InvocationEntry) : Prop :=
  ∃ source, state.invocations.entries.lookup handle = some source ∧ entry.cancellation = source.cancellation ∧
    (entry.poll.status = source.poll.status ∨
      (entry.terminal = true → .published handle entry.poll.status ∈ next.history))

theorem Follows.of_continues {entry source : InvocationEntry}
    (stored : state.invocations.entries.lookup handle = some source) (continues : entry.Continues source) :
    Follows state next handle entry :=
  ⟨source, stored, continues.1, .inl continues.2⟩

theorem follows_updatePoll {output : Option InvocationOutput} {error : Option String}
    (stored : (state.updatePoll handle status output error).invocations.entries.lookup other = some entry) :
    Follows state (state.updatePoll handle status output error) other entry := by
  obtain ⟨source, held, cancellation, same | ⟨rfl, live, ends⟩⟩ := InvocationRegistry.lookup_update stored
  · exact ⟨source, held, cancellation, .inl same⟩
  · refine ⟨source, held, cancellation, .inr fun terminal => ?_⟩
    have pending : state.pendingInvocation other = true := by simp [pendingInvocation, held, live]
    have isTerminal : isTerminalStatus status = true := by rw [← ends]; exact terminal
    simp only [updatePoll, pending, isTerminal, and_self, if_true, ends]
    exact List.mem_cons_self

theorem SectionStep.follows (step : SectionStep host state handle invocation piece next)
    (stored : next.invocations.entries.lookup other = some entry) : Follows state next other entry := by
  cases step with
  | begin | reject =>
    unfold announce at stored ⊢
    split at stored <;> rename_i background
    · simp only [background, if_true]
      exact follows_updatePoll stored
    · exact .of_continues stored ⟨rfl, rfl⟩
  | publish result =>
    unfold report at stored ⊢
    split at stored <;> rename_i background
    · simp only [background, if_true]
      exact follows_updatePoll stored
    · exact .of_continues stored ⟨rfl, rfl⟩
  | emit event =>
    obtain ⟨source, held, continues⟩ := InvocationRegistry.lookup_pushProviderEvent stored
    exact .of_continues held continues
  | trace =>
    rw [enqueueTrace_eq] at stored
    exact .of_continues stored ⟨rfl, rfl⟩
  | acquire | leave | resolve | check | read | miss | load | cache | respond | idle | recheck | save | insert | finish
  | fail | failWritten | drop => exact .of_continues stored ⟨rfl, rfl⟩

/-- Every entry belongs to a call with its token, and its status has been published if it has ended. -/
structure Registered (state : CoreState σ) : Prop where
  owned : ∀ handle entry, state.invocations.entries.lookup handle = some entry →
    CallIs state.calls handle (·.cancellation = entry.cancellation)
  reported : ∀ handle entry, state.invocations.entries.lookup handle = some entry → entry.terminal = true →
    .published handle entry.poll.status ∈ state.history

theorem Registered.follow (registered : Registered state)
    (calls : ∀ handle cancellation, CallIs state.calls handle (·.cancellation = cancellation) →
      CallIs next.calls handle (·.cancellation = cancellation))
    (history : ∀ occurrence ∈ state.history, occurrence ∈ next.history)
    (entries : ∀ handle entry, next.invocations.entries.lookup handle = some entry → Follows state next handle entry) :
    Registered next where
  owned handle entry stored := by
    obtain ⟨source, held, cancellation, _⟩ := entries handle entry stored
    rw [cancellation]
    exact calls handle _ (registered.owned handle source held)
  reported handle entry stored terminal := by
    obtain ⟨source, held, _, same | published⟩ := entries handle entry stored
    · rw [same]
      apply history
      apply registered.reported handle source held
      rw [InvocationEntry.terminal, ← same]
      exact terminal
    · exact published terminal

theorem Registered.step (working : WorkingStore host.store) (registered : Registered state) (grounded : Grounded state)
    (stepped : CoreStep host state action next) : Registered next := by
  obtain ⟨since, extended⟩ := stepped.extends working
  have grows := extended.grows working
  have follows : ∀ handle entry, state.invocations.entries.lookup handle = some entry → Follows state next handle entry :=
    fun _ _ stored => .of_continues stored ⟨rfl, rfl⟩
  cases stepped with
  | run handle invocation piece _ stored ran =>
    obtain ⟨changed, calls, same⟩ := ran.calls
    apply registered.follow
    · intro other cancellation described
      rw [calls]
      exact described.proceed stored same.cancellation.trans fun _ isToken => isToken
    · exact grows
    · intro other entry
      exact ran.follows
  | start input invocations small accepted =>
    have fresh := grounded.issued.fresh
    refine ⟨fun handle entry stored => ?_, fun handle entry stored terminal => ?_⟩
    · rcases InvocationRegistry.lookup_inserted accepted stored with ⟨rfl, isToken, _⟩ | earlier
      · exact ⟨_, AList.lookup_insert _, isToken.symm⟩
      · exact (registered.owned handle entry earlier).start fresh
    · rcases InvocationRegistry.lookup_inserted accepted stored with ⟨_, _, pending⟩ | earlier
      · rw [InvocationEntry.terminal, pending] at terminal
        cases terminal
      · exact registered.reported handle entry earlier terminal
  | invoke input cancellation =>
    exact registered.follow (fun _ _ described => described.start grounded.issued.fresh) grows follows
  | takeInvocation handle =>
    refine registered.follow (fun _ _ described => described) grows fun other entry stored => ?_
    exact .of_continues (InvocationRegistry.lookup_take stored) ⟨rfl, rfl⟩
  | drainEvents handle =>
    refine registered.follow (fun _ _ described => described) grows fun other entry stored => ?_
    obtain ⟨source, held, continues⟩ := InvocationRegistry.lookup_drainEvents stored
    exact .of_continues held continues
  | refuse input queueFull invocations _ kept =>
    refine registered.follow (fun _ _ described => described) grows fun other entry stored => ?_
    exact .of_continues (kept other entry stored) ⟨rfl, rfl⟩
  | publishCancelled call handle =>
    exact registered.follow (fun _ _ described => described) grows fun other entry => follows_updatePoll
  | restoreSession | replaceSessions =>
    exact registered.follow (fun _ _ described => described) grows follows
  | stay | define | createToken | cancelToken | cancelInvocation | flag | restoreSnapshot | restoreFail | restorePoisoned
  | acknowledgeTraces =>
    exact registered.follow (fun _ _ described => described) grows follows


/-- An invocation has not looked at the token for the last time yet, or it has failed. -/
def Unfinished (invocation : Invocation) : Prop :=
  invocation.phase.verdict = .undecided ∨ invocation.phase.verdict = .failed

/-- A `Cancelled` that is published reaches an unfinished invocation. -/
def Timed (state : CoreState σ) : CancelCall → Prop
  | .publishing handle => state.pendingInvocation handle = true →
    ∀ invocation, state.calls.lookup handle = some invocation → Unfinished invocation
  | .flagging _ _ | .returned => True

/-- A section that finds a lock poisoned has not saved before. -/
def Unspoilt (invocation : Invocation) : InvocationSection → Prop
  | .poisoned => invocation.phase.hold.uncounted = 0
  | _ => True

/-- `cancel_invocation` does not publish its result between the last look of the invocation at its
    token and the invocation's own result, and no lock is found poisoned after a save. -/
def Undisturbed (state : CoreState σ) : CoreAction → Prop
  | .publishCancelled call => ∀ phase, state.cancels[call]? = some phase → state.Timed phase
  | .run handle piece => ∀ invocation, state.calls.lookup handle = some invocation → Unspoilt invocation piece
  | _ => True

instance decidableUnfinished (invocation : Invocation) : Decidable (Unfinished invocation) :=
  inferInstanceAs (Decidable (_ ∨ _))

instance decidableTimed (state : CoreState σ) : ∀ phase, Decidable (state.Timed phase)
  | .publishing _ => inferInstanceAs (Decidable (_ → ∀ _, _ → Unfinished _))
  | .flagging _ _ | .returned => .isTrue trivial

instance decidableUnspoilt (invocation : Invocation) : ∀ piece, Decidable (Unspoilt invocation piece)
  | .poisoned => inferInstanceAs (Decidable (_ = _))
  | .begin _ | .acquire | .resolve | .check | .read | .load | .cache | .emit _ | .provide _ | .recheck | .save | .insert
  | .finish _ | .trace _ | .publish | .drop => .isTrue trivial

instance decidableUndisturbed (state : CoreState σ) : ∀ action, Decidable (Undisturbed state action)
  | .publishCancelled _ => inferInstanceAs (Decidable (∀ _, _ → state.Timed _))
  | .run _ _ => inferInstanceAs (Decidable (∀ _, _ → Unspoilt _ _))
  | .define _ | .createToken | .cancelToken _ | .startInvoke _ _ | .invoke _ _ | .takeInvocation _ | .drainEvents _
  | .cancelInvocation _ | .flag _ | .exportSnapshot | .restoreSnapshot _ | .restoreSession _ _ | .replaceSessions _
  | .restorePoisoned _ | .acknowledgeTraces _ => .isTrue trivial

/-! ## What a published result says -/

/-- An invocation that will not save: it has failed, or it will see its token cancelled. -/
def Doomed (cancelled : List CancellationToken) (invocation : Invocation) : Prop :=
  invocation.phase.verdict = .failed ∨
    invocation.phase.verdict = .undecided ∧ invocation.cancellation ∈ cancelled

/-- The tokens that canceller threads set are those of the invocations, saves are by invocations
    that have not failed, and invocations that ended as failed or cancelled do not save. -/
structure Attributed (state : CoreState σ) : Prop where
  flagging : ∀ handle cancellation, .flagging handle cancellation ∈ state.cancels →
    CallIs state.calls handle (·.cancellation = cancellation)
  publishing : ∀ handle, .publishing handle ∈ state.cancels → CallIs state.calls handle (·.cancellation ∈ state.cancelled)
  saved : ∀ handle session snapshot, .saved handle session snapshot ∈ state.history →
    CallIs state.calls handle (·.phase.verdict = .written)
  ended : ∀ handle status, .published handle status ∈ state.history → status ≠ .completed →
    CallIs state.calls handle (Doomed state.cancelled)

section

variable (attributed : Attributed state)
include attributed

theorem Attributed.follow
    (calls : ∀ handle described, CallIs state.calls handle described → CallIs next.calls handle described)
    (cancelled : ∀ token ∈ state.cancelled, token ∈ next.cancelled)
    (cancels : ∀ phase ∈ next.cancels, phase ∈ state.cancels ∨ phase = .returned)
    (history : ∀ occurrence ∈ next.history, occurrence.decisive = true → occurrence ∈ state.history) :
    Attributed next where
  flagging handle cancellation mem := by
    have earlier := (cancels _ mem).resolve_right nofun
    exact calls handle _ (attributed.flagging handle cancellation earlier)
  publishing handle mem := by
    have earlier := (cancels _ mem).resolve_right nofun
    exact (calls handle _ (attributed.publishing handle earlier)).imp fun _ => cancelled _
  saved handle session snapshot mem :=
    calls handle _ (attributed.saved handle session snapshot (history _ mem rfl))
  ended handle status mem failed := by
    have doomed := calls handle _ (attributed.ended handle status (history _ mem rfl) failed)
    exact doomed.imp fun _ => Or.imp id (And.imp id (cancelled _))

theorem Attributed.run (stored : state.calls.lookup handle = some invocation)
    (ran : SectionStep host state handle invocation piece next) (unspoilt : Unspoilt invocation piece) :
    Attributed next := by
  obtain ⟨changed, calls, same, decides⟩ := ran.decides (by rintro rfl; exact unspoilt)
  have cancels : next.cancels = state.cancels := ran.frame.2.2.2
  have flagged : invocation.cancellation ∈ state.cancelled → changed.cancellation ∈ next.cancelled := by
    rw [same.cancellation]
    exact decides.cancelled _
  refine ⟨fun other cancellation mem => ?_, fun other mem => ?_, fun other session snapshot mem => ?_,
    fun other status mem failed => ?_⟩ <;> rw [calls]
  · rw [cancels] at mem
    exact (attributed.flagging other cancellation mem).proceed stored same.cancellation.trans
      fun _ isToken => isToken
  · rw [cancels] at mem
    exact (attributed.publishing other mem).proceed stored flagged fun _ => decides.cancelled _
  · rcases decides.saved other session snapshot mem with earlier | ⟨rfl, written⟩
    · exact (attributed.saved other session snapshot earlier).proceed stored decides.written fun _ isWritten => isWritten
    · exact ⟨changed, AList.lookup_insert _, written⟩
  · rcases decides.published other status mem with earlier | ⟨rfl, completed | isFailed⟩
    · refine (attributed.ended other status earlier failed).proceed stored ?_
        fun _ => Or.imp id (And.imp id (decides.cancelled _))
      rintro (isFailed | ⟨undecided, isFlagged⟩)
      · exact .inl (decides.failed isFailed)
      · rcases decides.undecided undecided isFlagged with still | isFailed
        · exact .inr ⟨still, flagged isFlagged⟩
        · exact .inl isFailed
    · exact absurd completed failed
    · exact ⟨changed, AList.lookup_insert _, .inl isFailed⟩

theorem Attributed.doomed {call : ℕ} (publishing : state.cancels[call]? = some (.publishing handle))
    (timed : ∀ invocation, state.calls.lookup handle = some invocation → Unfinished invocation) :
    CallIs state.calls handle (Doomed state.cancelled) := by
  obtain ⟨invocation, stored, flagged⟩ := attributed.publishing handle (List.mem_of_getElem? publishing)
  refine ⟨invocation, stored, ?_⟩
  rcases timed invocation stored with undecided | failed
  · exact .inr ⟨undecided, flagged⟩
  · exact .inl failed

theorem Attributed.step (registered : Registered state)
    (grounded : Grounded state) (admitted : Undisturbed state action) (stepped : CoreStep host state action next) :
    Attributed next := by
  have returned : ∀ {call phase}, phase ∈ state.cancels.set call .returned → phase ∈ state.cancels ∨ phase = .returned :=
    fun mem => List.mem_or_eq_of_mem_set mem
  cases stepped with
  | run handle invocation piece _ stored ran => exact attributed.run stored ran (admitted invocation stored)
  | start input invocations | invoke input cancellation =>
    exact attributed.follow (fun _ _ described => described.start grounded.issued.fresh) (fun _ mem => mem)
      (fun _ => .inl) fun _ mem _ => mem
  | cancelInvocation handle entry stored =>
    refine ⟨fun other cancellation mem => ?_, fun other mem => ?_, attributed.saved, attributed.ended⟩
    · rcases List.mem_append.mp mem with earlier | isNew
      · exact attributed.flagging other cancellation earlier
      · cases List.mem_singleton.mp isNew
        exact registered.owned handle entry stored
    · rcases List.mem_append.mp mem with earlier | isNew
      · exact attributed.publishing other earlier
      · cases List.mem_singleton.mp isNew
  | flag call handle cancellation flagging =>
    have isFlagging := attributed.flagging handle cancellation (List.mem_of_getElem? flagging)
    refine ⟨fun other token mem => ?_, fun other mem => ?_, attributed.saved, fun other status mem failed => ?_⟩
    · exact attributed.flagging other token ((List.mem_or_eq_of_mem_set mem).resolve_right nofun)
    · rcases List.mem_or_eq_of_mem_set mem with earlier | isNew
      · exact (attributed.publishing other earlier).imp fun _ => List.mem_cons_of_mem _
      · cases isNew
        refine isFlagging.imp fun _ isToken => ?_
        rw [isToken]
        exact List.mem_cons_self
    · exact (attributed.ended other status mem failed).imp fun _ => Or.imp id (And.imp id (List.mem_cons_of_mem _))
  | publishCancelled call handle publishing =>
    have kept : Attributed { state with cancels := state.cancels.set call .returned } :=
      attributed.follow (fun _ _ described => described) (fun _ mem => mem) (fun _ => returned)
        fun _ mem _ => mem
    have history := updatePoll_history { state with cancels := state.cancels.set call .returned } handle .cancelled none none
    rcases history with same | ⟨pending, published⟩
    · refine kept.follow (fun _ _ described => described) (fun _ mem => mem) (fun _ => .inl) fun _ mem _ => ?_
      rwa [same] at mem
    · refine ⟨kept.flagging, kept.publishing, fun other session snapshot mem => ?_, fun other status mem failed => ?_⟩
      · rw [published] at mem
        exact kept.saved other session snapshot ((List.mem_cons.mp mem).resolve_left nofun)
      · rw [published] at mem
        rcases List.mem_cons.mp mem with isNew | earlier
        · cases isNew
          exact attributed.doomed publishing (admitted _ publishing pending)
        · exact kept.ended other status earlier failed
  | cancelToken =>
    exact attributed.follow (fun _ _ described => described) (fun _ => List.mem_cons_of_mem _) (fun _ => .inl)
      fun _ mem _ => mem
  | restoreSession | replaceSessions =>
    exact attributed.follow (fun _ _ described => described) (fun _ mem => mem) (fun _ => .inl)
      fun _ => decisive_of_mem_cons rfl
  | stay | define | createToken | refuse | takeInvocation | drainEvents | restoreSnapshot | restoreFail | restorePoisoned
  | acknowledgeTraces =>
    exact attributed.follow (fun _ _ described => described) (fun _ mem => mem) (fun _ => .inl)
      fun _ mem _ => mem

end

/-- The invariant of the runs that meet the condition. -/
structure Settled (state : CoreState σ) : Prop where
  grounded : Grounded state
  registered : Registered state
  attributed : Attributed state

theorem Settled.step (working : WorkingStore host.store) (settled : Settled state)
    (admitted : Undisturbed state action) (stepped : CoreStep host state action next) : Settled next where
  grounded := settled.grounded.step stepped
  registered := settled.registered.step working settled.grounded stepped
  attributed := settled.attributed.step settled.registered settled.grounded admitted stepped

theorem settled_opened (core : RuntimeCore) (store : σ) : Settled (opened core store) where
  grounded := grounded_opened core store
  registered := by
    constructor <;> intro _ _ stored <;> simp [opened, InvocationRegistry.empty] at stored
  attributed := by
    constructor <;> simp [opened]

theorem Settled.unsaved (settled : Settled state)
    (published : .published handle status ∈ state.history) (failed : status ≠ .completed) (session : String)
    (snapshot : RuntimeSnapshot) : .saved handle session snapshot ∉ state.history := by
  intro mem
  obtain ⟨invocation, stored, written⟩ := settled.attributed.saved handle session snapshot mem
  obtain ⟨found, isFound, doomed⟩ := settled.attributed.ended handle status published failed
  rw [stored, Option.some.injEq] at isFound
  subst isFound
  rcases doomed with isFailed | ⟨undecided, _⟩
  · rw [isFailed] at written
    cases written
  · rw [undecided] at written
    cases written

/-- What happens to the sessions between two states of a run, none of it by the given invocation: the
    stored snapshots are those from before, except for what others have written. -/
def Untouched (working : WorkingStore host.store) (before state : CoreState σ) (handle : InvocationHandle) : Prop :=
  ∃ since, state.history = since ++ before.history ∧
    (∀ session snapshot, .saved handle session snapshot ∉ since) ∧
    ∀ session, storedSnapshot working state session = lastWritten (storedSnapshot working before) since session

/-- An invocation whose poll has once answered `Cancelled` or `Failed` leaves the sessions untouched
    from any state before to any state after. -/
theorem cancelled_untouched (working : WorkingStore host.store) (projectId : String) (initial : σ)
    (before state final : CoreState σ) (handle : InvocationHandle) (poll : InvocationPoll)
    (reachable : (machine host projectId initial).Reachable Undisturbed before)
    (run : (machine host projectId initial).RunsTo Undisturbed before state)
    (polled : state.invocations.poll handle = .ok poll) (ended : poll.status = .cancelled ∨ poll.status = .failed)
    (rest : (machine host projectId initial).RunsTo Undisturbed state final) :
    Untouched working before final handle := by
  have settled : ∀ {reached}, (machine host projectId initial).Reachable Undisturbed reached → Settled reached := by
    intro reached reachable
    apply reachable.invariant
    · rintro _ ⟨core, _, rfl⟩
      exact settled_opened core initial
    · intro _ _ _ settled admitted stepped
      exact settled.step working admitted (step_step stepped)
  -- the poll was published, and stays so
  obtain ⟨status, published, failed⟩ : ∃ status, .published handle status ∈ final.history ∧ status ≠ .completed := by
    have now := settled (reachable.trans run)
    obtain ⟨later, extended⟩ := extends_of_run working rest
    unfold InvocationRegistry.poll at polled
    split at polled
    next entry stored =>
      cases polled
      refine ⟨entry.poll.status, extended.grows working _ (now.registered.reported handle entry stored ?_), ?_⟩
      · rw [InvocationEntry.terminal]
        rcases ended with isStatus | isStatus <;> rw [isStatus] <;> rfl
      · rcases ended with isStatus | isStatus <;> rw [isStatus] <;> intro isCompleted <;> cases isCompleted
    next => cases polled
  obtain ⟨since, extended⟩ := extends_of_run working (run.trans rest)
  refine ⟨since, extended.history, fun session snapshot member => ?_, extended.stored⟩
  apply (settled ((reachable.trans run).trans rest)).unsaved published failed session snapshot
  rw [extended.history]
  exact List.mem_append_left _ member

def polledStatus (state : CoreState σ) (handle : InvocationHandle) : Option InvocationStatus :=
  (state.invocations.poll handle).toOption.map (·.status)

def townCancel : List CoreAction := [.cancelInvocation (invocationId 1), .flag 0, .publishCancelled 0]

/-- The cancellation arrives before the last look at the token. -/
theorem cancelled_untouched_run :
    ∃ state, ((machine townHost "town" .empty).RunsTo Undisturbed townRuntime state ∧
        state.polledStatus (invocationId 1) = some .cancelled) ∧
      Untouched townWorking townRuntime state (invocationId 1) := by
  obtain ⟨state, run, passes⟩ := Machine.runsTo_of_execute (machine townHost "town" .empty) Undisturbed townRuntime
    (townSettings ++ [.startInvoke townInput false] ++ untilResponse 1 ++ townCancel ++
      [.recheck, .trace 12, .publish].map (.run (invocationId 1)))
    (fun state => decide (state.polledStatus (invocationId 1) = some .cancelled))
    (by decide +kernel)
  have status := of_decide_eq_true passes
  refine ⟨state, ⟨run, status⟩, ?_⟩
  cases polled : state.invocations.poll (invocationId 1) with
  | error error => simp [polledStatus, polled, Except.toOption] at status
  | ok poll =>
    have isCancelled : poll.status = .cancelled := by simpa [polledStatus, polled, Except.toOption] using status
    exact cancelled_untouched townWorking "town" .empty townRuntime state state _ poll
      ⟨_, townRuntime_starts, .refl⟩ run polled (.inl isCancelled) .refl

/-- It arrives between the last look at the token and the save: the session is at revision 1. -/
theorem cancelled_invocation_saves :
    ∃ state, (machine townHost "town" .empty).RunsTo Machine.always townRuntime state ∧
      state.polledStatus (invocationId 1) = some .cancelled ∧
      storedSnapshot townWorking townRuntime "default" = none ∧
      storedSnapshot townWorking state "default" = some { revision := 1, state := .emptyObject } ∧
      ¬ Untouched townWorking townRuntime state (invocationId 1) := by
  obtain ⟨state, run, passes⟩ := Machine.runsTo_of_execute (machine townHost "town" .empty) Machine.always townRuntime
    (townSettings ++ [.startInvoke townInput false] ++ untilResponse 1 ++ [.run (invocationId 1) .recheck] ++ townCancel ++
      [.save, .insert, .finish 12, .trace 12, .publish].map (.run (invocationId 1)))
    (fun state => decide (state.polledStatus (invocationId 1) = some .cancelled ∧
      storedSnapshot townWorking state "default" = some { revision := 1, state := .emptyObject } ∧
      .saved (invocationId 1) "default" { revision := 1, state := .emptyObject } ∈ state.history))
    (by decide +kernel)
  obtain ⟨status, stored, saved⟩ := of_decide_eq_true passes
  refine ⟨state, run, status, rfl, stored, fun untouched => ?_⟩
  obtain ⟨since, history, unsaved, _⟩ := untouched
  rw [history] at saved
  rcases List.mem_append.mp saved with member | earlier
  · exact unsaved _ _ member
  · cases earlier

end CoreState

end Vifu.Runtime
