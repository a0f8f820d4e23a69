import Vifu.Foundation.Text
import Vifu.Runtime.Core.Snapshot

/-!
# The records of the trace outbox

`invoke` enqueues a record on each of its exits, also when the request was rejected before its
identifiers were validated.  All fields but three are in order on every exit: the identifiers
that the runtime makes, the names that the registry has accepted, and the status.  The endpoint is
the request's, and the duration and the time are what the clocks say.
-/

namespace Vifu.Runtime

open Foundation

def maxTraceBatch : ℕ := 100

/-- The checks of `upload_traces` before it sends anything. -/
def validateTraces (traces : List RuntimeTraceRecord) : Except String Unit := do
  ensure (traces ≠ [] ∧ traces.length ≤ maxTraceBatch)
    "runtime trace batches must contain between 1 and 100 records"
  traces.forM fun trace => trace.validate.mapError RuntimeError.display

/-- Texts of at most so many bytes, without control characters. -/
def Printable (size : ℕ) (text : String) : Prop :=
  text.utf8ByteSize ≤ size ∧ text.toList.all (fun character => !isControl character) = true

instance decidablePrintable (size : ℕ) (text : String) : Decidable (Printable size text) :=
  inferInstanceAs (Decidable (_ ∧ _))

theorem Printable.append {left right : String} {first second : ℕ} (leftFits : Printable first left)
    (rightFits : Printable second right) : Printable (first + second) (left ++ right) := by
  constructor
  · rw [String.utf8ByteSize_append]
    exact Nat.add_le_add leftFits.1 rightFits.1
  · rw [String.toList_append, List.all_append, leftFits.2, rightFits.2]
    rfl

theorem Printable.traceIdentifier {text : String} {size : ℕ} (printable : Printable size text) (small : size ≤ 256)
    (nonempty : text ≠ "") : TraceIdentifier text :=
  ⟨nonempty, Nat.le_trans printable.1 small, printable.2⟩

theorem isControl_of_isDigit {character : Char} (digit : character.isDigit = true) : isControl character = false := by
  have code := digit_code digit
  simp only [isControl, Bool.or_eq_false_iff, decide_eq_false_iff_not, Bool.and_eq_false_iff]
  omega

theorem printable_toString {number : ℕ} (small : number ≤ u64Max) : Printable 20 (toString number) := by
  constructor
  · rw [utf8ByteSize_toString, Nat.toString_eq_repr, Nat.length_repr_le_iff (by decide)]
    exact Nat.lt_of_le_of_lt small (by decide)
  · rw [List.all_eq_true]
    intro character mem
    rw [isControl_of_isDigit (isDigit_of_mem_toString mem)]
    rfl

theorem printable_invocationId {id : ℕ} (small : id ≤ u64Max) : Printable 31 (invocationId id) := by
  have label : Printable 11 "invocation-" := by decide +kernel
  exact label.append (printable_toString small)

/-! ## Names in the phases of an invocation -/

/-- What the registry has resolved goes by portable names. -/
structure Route.Named (route : Route) : Prop where
  agent : PortableIdentifier route.agent.id
  provider : PortableIdentifier route.agent.provider
  capability : PortableIdentifier route.endpoint.capability

structure NamedOutput (output : InvocationOutput) : Prop where
  agent : PortableIdentifier output.agent
  provider : PortableIdentifier output.provider
  capability : PortableIdentifier output.capability

/-- The names that an invocation has come to hold are portable. -/
def InvocationPhase.Named : InvocationPhase → Prop
  | .checking route | .reading route | .loading route | .caching route _ | .running route _ | .responded route _ _
  | .saving route _ _ | .saved route _ _ | .cached route _ _ => route.Named
  | .returned (.ok output) | .traced (.ok output) | .ended (.ok output) => NamedOutput output
  | .starting | .entering | .resolving | .dropped | .returned (.error _) | .traced (.error _) | .ended (.error _) => True

theorem resolve_named {registry : RuntimeRegistry} (named : RuntimeCore.WellNamed registry) {name : String}
    {endpoint : EndpointDefinition} {agent : AgentDefinition} {provider : AgentProvider}
    (resolved : registry.resolve name = .ok (endpoint, agent, provider)) : Route.Named { endpoint, agent } := by
  unfold RuntimeRegistry.resolve at resolved
  split at resolved
  next => cases resolved
  next found isEndpoint =>
    split at resolved
    next => cases resolved
    next served isAgent =>
      split at resolved
      next => cases resolved
      next =>
        split at resolved
        next => cases resolved
        next =>
          cases resolved
          obtain ⟨id, isProvider⟩ := named.agents _ _ isAgent
          exact ⟨id, isProvider, named.endpoints _ _ isEndpoint⟩

namespace CoreState

variable {σ : Type} {host : RuntimeHost σ} {state next : CoreState σ} {handle : InvocationHandle}
  {invocation : Invocation} {piece : InvocationSection} {action : CoreAction}

theorem SectionStep.named (step : SectionStep host state handle invocation piece next)
    (registry : RuntimeCore.WellNamed state.registry) (named : invocation.phase.Named)
    (stamped : invocation.createdAtMs ≤ u64Max) :
    ∃ changed, next.calls = state.calls.insert handle changed ∧ changed.phase.Named ∧ changed.createdAtMs ≤ u64Max := by
  cases step with
  | begin | reject =>
    rw [announce_eq]
    exact ⟨_, rfl, trivial, Nat.min_le_right _ _⟩
  | resolve endpoint agent provider _ resolved => exact ⟨_, rfl, resolve_named registry resolved, stamped⟩
  | leave _ phase _ left =>
    refine ⟨_, rfl, ?_, stamped⟩
    rcases left with rfl | rfl <;> trivial
  | check _ phase | read _ _ phase | miss _ phase | load _ _ phase | cache _ _ phase | emit _ _ _ phase
  | respond _ _ _ phase | recheck _ _ _ phase | save _ _ _ _ phase | insert _ _ _ phase =>
    rw [phase] at named
    exact ⟨_, rfl, named, stamped⟩
  | finish _ route _ _ phase =>
    rw [phase] at named
    exact ⟨_, rfl, ⟨named.agent, named.provider, named.capability⟩, stamped⟩
  | trace _ result phase =>
    rw [enqueueTrace_eq]
    rw [phase] at named
    exact ⟨_, rfl, by cases result <;> exact named, stamped⟩
  | publish result phase =>
    rw [report_eq]
    rw [phase] at named
    exact ⟨_, rfl, by cases result <;> exact named, stamped⟩
  | acquire | idle | fail | failWritten | drop => exact ⟨_, rfl, trivial, stamped⟩

/-- Every name, identifier and time in the calls is within its bounds. -/
structure Recordable (state : CoreState σ) : Prop where
  projectId : PortableIdentifier state.projectId
  registry : RuntimeCore.WellNamed state.registry
  counted : state.nextInvocation ≤ u64Max + 1
  calls : ∀ handle invocation, state.calls.lookup handle = some invocation →
    invocation.phase.Named ∧ invocation.createdAtMs ≤ u64Max

theorem Recordable.start (recordable : Recordable state) {input : InvocationInput} {cancellation : CancellationToken}
    {background : Bool} :
    ∀ other found, (state.calls.insert handle (.start input cancellation background)).lookup other = some found →
      found.phase.Named ∧ found.createdAtMs ≤ u64Max := by
  intro other found isFound
  rw [lookup_insert] at isFound
  split at isFound
  · cases isFound
    exact ⟨trivial, Nat.zero_le _⟩
  · exact recordable.calls other found isFound

theorem Recordable.step (recordable : Recordable state) (stepped : CoreStep host state action next) :
    Recordable next := by
  cases stepped with
  | run handle invocation piece _ stored ran =>
    obtain ⟨core, counter, _⟩ := ran.frame
    obtain ⟨named, stamped⟩ := recordable.calls handle invocation stored
    obtain ⟨changed, calls, isNamed, isStamped⟩ := ran.named recordable.registry named stamped
    refine ⟨core ▸ recordable.projectId, core ▸ recordable.registry, counter ▸ recordable.counted, fun other found isFound => ?_⟩
    rw [calls, lookup_insert] at isFound
    split at isFound
    · cases isFound
      exact ⟨isNamed, isStamped⟩
    · exact recordable.calls other found isFound
  | define operation core defined =>
    obtain ⟨project, named⟩ := RuntimeCore.define_ok defined
    exact ⟨project ▸ recordable.projectId, named recordable.registry, recordable.counted, recordable.calls⟩
  | start input invocations small =>
    exact ⟨recordable.projectId, recordable.registry, Nat.succ_le_succ small, recordable.start⟩
  | invoke input cancellation small =>
    exact ⟨recordable.projectId, recordable.registry, Nat.succ_le_succ small, recordable.start⟩
  | refuse input queueFull invocations small =>
    exact ⟨recordable.projectId, recordable.registry, Nat.succ_le_succ small, recordable.calls⟩
  | stay | createToken | cancelToken | takeInvocation | drainEvents | cancelInvocation | flag | publishCancelled
  | restoreSnapshot | restoreSession | restoreFail | replaceSessions | restorePoisoned | acknowledgeTraces =>
    exact ⟨recordable.projectId, recordable.registry, recordable.counted, recordable.calls⟩

theorem recordable {projectId : String} {initial : σ} {admits : CoreState σ → CoreAction → Prop}
    (reachable : (machine host projectId initial).Reachable admits state) : Recordable state := by
  apply reachable.invariant
  · rintro _ ⟨core, accepted, rfl⟩
    obtain ⟨portable, rfl⟩ := RuntimeCore.new_ok.mp accepted
    refine ⟨portable, ⟨?_, ?_⟩, Nat.succ_le_succ (Nat.zero_le _), ?_⟩ <;> intro _ _ stored <;> simp [opened, RuntimeRegistry.empty] at stored
  · intro _ _ _ recordable _ stepped
    exact recordable.step (step_step stepped)

/-- The request's endpoint is portable, the invocation took at most a day, and the clock does not
    stand at the epoch. -/
def Uploadable (invocation : Invocation) (elapsedMs : ℕ) : Prop :=
  PortableIdentifier invocation.input.endpoint ∧ milliseconds elapsedMs ≤ maxTraceDurationMs ∧
    invocation.createdAtMs ≠ 0

instance decidableUploadable (invocation : Invocation) (elapsedMs : ℕ) : Decidable (Uploadable invocation elapsedMs) :=
  inferInstanceAs (Decidable (_ ∧ _))

theorem mem_traceStatus (result : Except RuntimeError InvocationOutput) :
    traceStatus result ∈ ["completed", "cancelled", "error"] := by
  unfold traceStatus
  split <;> simp

theorem traceRecord_valid (recordable : Recordable state) (issued : Issued state)
    (stored : state.calls.lookup handle = some invocation) {result : Except RuntimeError InvocationOutput}
    (returned : invocation.phase = .returned result) (elapsedMs : ℕ) :
    (state.traceRecord handle invocation result elapsedMs).Valid ↔ Uploadable invocation elapsedMs := by
  constructor
  · intro valid
    exact ⟨valid.endpoint, valid.durationMs, valid.createdAtMs⟩
  · intro uploadable
    obtain ⟨endpoint, duration, created⟩ := uploadable
    obtain ⟨named, stamped⟩ := recordable.calls handle invocation stored
    obtain ⟨id, below, rfl⟩ := issued handle (AList.lookup_isSome.mp (by rw [stored]; rfl))
    have small : id ≤ u64Max := Nat.le_of_lt_succ (Nat.lt_of_lt_of_le below recordable.counted)
    have handleFits := printable_invocationId small
    have label : Printable 6 "trace-" := by decide +kernel
    have dash : Printable 1 "-" := by decide +kernel
    have idFits := ((label.append (printable_toString stamped)).append dash).append handleFits
    rw [returned] at named
    refine ⟨idFits.traceIdentifier (by decide) ?_, recordable.projectId, handleFits.traceIdentifier (by decide) ?_, endpoint,
      ?_, ?_, ?_, mem_traceStatus result, duration, created⟩
    · simp
    · simp [invocationId]
    -- the names of an output
    all_goals
      cases result with
      | error =>
        intro _ isNone
        cases isNone
      | ok output => ?_
    · rintro _ ⟨⟩
      exact named.agent
    · rintro _ ⟨⟩
      exact named.provider
    · rintro _ ⟨⟩
      exact named.capability

/-! ## The outbox -/

variable (working : WorkingStore host.store)

theorem SectionStep.traces (step : SectionStep host state handle invocation piece next) {trace : RuntimeTraceRecord}
    (pending : trace ∈ working.traces next.store) :
    trace ∈ working.traces state.store ∨ ∃ elapsedMs result, piece = .trace elapsedMs ∧
      invocation.phase = .returned result ∧ trace = state.traceRecord handle invocation result elapsedMs := by
  cases step with
  | trace elapsedMs result returned =>
    change trace ∈ working.traces (state.enqueueTrace host _).store at pending
    unfold enqueueTrace at pending
    split at pending
    next store enqueued =>
      rcases working.enqueue_traces enqueued trace pending with isNew | earlier
      · exact .inr ⟨elapsedMs, result, rfl, returned, isNew⟩
      · exact .inl earlier
    next => exact .inl pending
  | save _ _ _ store _ saves =>
    change trace ∈ working.traces store at pending
    rw [working.save_traces saves] at pending
    exact .inl pending
  | begin | reject =>
    rw [announce_eq] at pending
    exact .inl pending
  | publish =>
    rw [report_eq] at pending
    exact .inl pending
  | acquire | leave | resolve | check | read | miss | load | cache | emit | respond | idle | recheck | insert | finish
  | fail | failWritten | drop => exact .inl pending

def Traceable (invocation : Invocation) : InvocationSection → Prop
  | .trace elapsedMs => Uploadable invocation elapsedMs
  | _ => True

def Recorded (state : CoreState σ) : CoreAction → Prop
  | .run handle piece => ∀ invocation, state.calls.lookup handle = some invocation → Traceable invocation piece
  | _ => True

instance decidableTraceable (invocation : Invocation) : ∀ piece, Decidable (Traceable invocation piece)
  | .trace _ => inferInstanceAs (Decidable (Uploadable _ _))
  | .begin _ | .acquire | .resolve | .check | .read | .load | .cache | .emit _ | .provide _ | .recheck | .save | .insert
  | .finish _ | .publish | .poisoned | .drop => .isTrue trivial

instance decidableRecorded (state : CoreState σ) : ∀ action, Decidable (Recorded state action)
  | .run _ _ => inferInstanceAs (Decidable (∀ _, _ → Traceable _ _))
  | .define _ | .createToken | .cancelToken _ | .startInvoke _ _ | .invoke _ _ | .takeInvocation _ | .drainEvents _
  | .cancelInvocation _ | .flag _ | .publishCancelled _ | .exportSnapshot | .restoreSnapshot _ | .restoreSession _ _
  | .replaceSessions _ | .restorePoisoned _ | .acknowledgeTraces _ => .isTrue trivial

def ValidOutbox (working : WorkingStore host.store) (store : σ) : Prop := ∀ trace ∈ working.traces store, trace.Valid

theorem ValidOutbox.step (valid : ValidOutbox working state.store) (recordable : Recordable state)
    (issued : Issued state) (admitted : Recorded state action) (stepped : CoreStep host state action next) :
    ValidOutbox working next.store := by
  cases stepped with
  | run handle invocation piece _ stored ran =>
    intro trace pending
    rcases ran.traces working pending with earlier | ⟨elapsedMs, result, rfl, returned, rfl⟩
    · exact valid trace earlier
    · exact (traceRecord_valid recordable issued stored returned elapsedMs).mpr (admitted invocation stored)
  | restoreSession call session sessions saved snapshot store _ _ _ _ saves =>
    intro trace pending
    change trace ∈ working.traces store at pending
    rw [working.save_traces saves] at pending
    exact valid trace pending
  | acknowledgeTraces traceIds store acknowledged =>
    exact fun trace pending => valid trace (working.acknowledge_traces acknowledged trace pending)
  | stay | define | createToken | cancelToken | refuse | start | invoke | takeInvocation | drainEvents | cancelInvocation
  | flag | publishCancelled | restoreSnapshot | restoreFail | replaceSessions | restorePoisoned => exact valid

/-- In every run, the record of an invocation that has returned passes validation if and only if the
    invocation is uploadable; and in every run that enqueues only such records, every batch of
    pending records passes the checks of an upload. -/
theorem traces_uploadable (working : WorkingStore host.store) (projectId : String) (initial : σ)
    (valid : ValidOutbox working initial) :
    (∀ state, (machine host projectId initial).Reachable Machine.always state →
      ∀ handle invocation result elapsedMs, state.calls.lookup handle = some invocation →
        invocation.phase = .returned result →
          ((state.traceRecord handle invocation result elapsedMs).validate = .ok () ↔ Uploadable invocation elapsedMs)) ∧
    ∀ state, (machine host projectId initial).Reachable Recorded state →
      ∀ limit pending, host.store.pendingTraces state.store limit = .ok pending →
        ∀ batch, batch ⊆ pending → batch ≠ [] → batch.length ≤ maxTraceBatch → validateTraces batch = .ok () := by
  constructor
  · intro state reachable handle invocation result elapsedMs stored returned
    rw [RuntimeTraceRecord.validate_ok]
    exact traceRecord_valid (recordable reachable) (grounded reachable).issued stored returned elapsedMs
  · intro state reachable limit pending read batch within nonempty small
    have all : Recordable state ∧ Grounded state ∧ ValidOutbox working state.store := by
      apply reachable.invariant
      · rintro _ ⟨core, accepted, rfl⟩
        have starts : (machine host projectId initial).start (opened core initial) := ⟨core, accepted, rfl⟩
        have still : (machine host projectId initial).Reachable Machine.always (opened core initial) := ⟨_, starts, .refl⟩
        exact ⟨recordable still, grounded still, valid⟩
      · intro _ _ _ ⟨isRecordable, isGrounded, isValid⟩ admitted stepped
        have stepped := step_step stepped
        exact ⟨isRecordable.step stepped, isGrounded.step stepped,
          isValid.step working isRecordable isGrounded.issued admitted stepped⟩
    rw [validateTraces, check_bind_ok, ensure_ok, forM_ok]
    refine ⟨⟨nonempty, small⟩, fun trace member => mapError_ok.mpr (RuntimeTraceRecord.validate_ok.mpr ?_)⟩
    exact all.2.2 trace (working.pending_ok read trace (within member))

/-- The record of a valid request. -/
theorem traces_uploadable_run :
    ∃ state, ((machine townHost "town" .empty).Reachable Recorded state ∧ state.store.traceOutbox ≠ [] ∧
        state.store.traceOutbox.length ≤ maxTraceBatch) ∧ validateTraces state.store.traceOutbox = .ok () := by
  obtain ⟨state, reachable, passes⟩ := Machine.reachable_of_execute (machine townHost "town" .empty) Recorded
    townRuntime_starts (townSettings ++ [.invoke townInput ⟨0⟩] ++ untilResponse 1 ++ afterResponse 1)
    (fun state => decide (state.store.traceOutbox ≠ [] ∧ state.store.traceOutbox.length ≤ maxTraceBatch))
    (by decide +kernel)
  obtain ⟨nonempty, small⟩ := of_decide_eq_true passes
  have uploadable := (traces_uploadable townWorking "town" .empty (by intro trace pending; cases pending)).2 state reachable
    maxTraceBatch state.store.traceOutbox (congrArg Except.ok (List.take_of_length_le small))
  exact ⟨state, ⟨reachable, nonempty, small⟩, uploadable _ (List.Subset.refl _) nonempty small⟩

def blankInput : InvocationInput := { townInput with endpoint := "town guide" }

/-- It is rejected, and its record keeps the batch from being uploaded. -/
theorem rejected_request_blocks_upload :
    ∃ state, (machine townHost "town" .empty).Reachable Machine.always state ∧
      (state.store.traceOutbox.map (·.endpoint)) = ["town guide"] ∧ validateTraces state.store.traceOutbox ≠ .ok () := by
  obtain ⟨state, reachable, passes⟩ := Machine.reachable_of_execute (machine townHost "town" .empty) Machine.always
    townRuntime_starts ([.createToken, .invoke blankInput ⟨0⟩] ++
      [.begin 1700000000000, .trace 0].map (.run (invocationId 1)))
    (fun state => decide ((state.store.traceOutbox.map (·.endpoint)) = ["town guide"] ∧
      validateTraces state.store.traceOutbox ≠ .ok ()))
    (by decide +kernel)
  exact ⟨state, reachable, of_decide_eq_true passes⟩

end CoreState

end Vifu.Runtime
