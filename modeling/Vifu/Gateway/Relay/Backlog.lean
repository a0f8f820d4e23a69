import Vifu.Foundation.Machine
import Vifu.Foundation.Tasks
import Vifu.Gateway.Trace.Telemetry

/-!
# The telemetry backlog

Batches that could not be uploaded at once wait in a queue of 512 places, which one flusher at a time
empties.  Uploads, triggers and the flusher meet in short sections under the lock of the backlog; the
machine below has one action for each of them.  Its state also remembers what became of every batch.
-/

namespace Vifu.Gateway

open Foundation
open Vifu.Runtime hiding validateIdentifier

def maxPendingTelemetryBatches : ℕ := 512
def maxConcurrentTelemetryUploads : ℕ := 4

inductive TraceObservationUploadError where
  | retryable (message : String)
  | permanent (message : String)
  deriving DecidableEq

def TraceObservationUploadError.isRetryable : TraceObservationUploadError → Bool
  | .retryable _ => true
  | .permanent _ => false

structure PendingTelemetryBatch where
  requestId : Uuid
  batch : TraceTelemetryBatch
  deriving DecidableEq

structure TelemetryBacklogState where
  pending : List PendingTelemetryBatch
  flushing : Bool
  permanentDrops : ℕ
  overflowDrops : ℕ
  deriving DecidableEq

/-! ## Sections under the lock -/

variable {batch : PendingTelemetryBatch}

namespace TelemetryBacklogState

def default : TelemetryBacklogState where
  pending := []
  flushing := false
  permanentDrops := 0
  overflowDrops := 0

variable (backlog : TelemetryBacklogState)

/-- `enqueue_telemetry_batch`. -/
def enqueue (pending : PendingTelemetryBatch) : TelemetryBacklogState :=
  let backlog :=
    if backlog.pending.length = maxPendingTelemetryBatches then
      { backlog with pending := backlog.pending.drop 1, overflowDrops := saturatingAdd backlog.overflowDrops 1 }
    else backlog
  { backlog with pending := backlog.pending ++ [pending] }

/-- `record_permanent_telemetry_drop`. -/
def recordPermanentDrop : TelemetryBacklogState :=
  { backlog with permanentDrops := saturatingAdd backlog.permanentDrops 1 }

/-- The section of `trigger_telemetry_flush`, and whether it spawns a flusher. -/
def trigger : Bool × TelemetryBacklogState :=
  if backlog.flushing ∨ backlog.pending = [] then (false, backlog) else (true, { backlog with flushing := true })

/-- The flusher takes the oldest batch, or ends. -/
def popFront : Option PendingTelemetryBatch × TelemetryBacklogState :=
  match backlog.pending with
  | batch :: pending => (some batch, { backlog with pending })
  | [] => (none, { backlog with flushing := false })

theorem popFront_nil {backlog : TelemetryBacklogState} (isPending : backlog.pending = []) :
    backlog.popFront = (none, { backlog with flushing := false }) := by
  simp only [popFront, isPending]

theorem popFront_cons {backlog : TelemetryBacklogState} {pending : List PendingTelemetryBatch}
    (isPending : backlog.pending = batch :: pending) :
    backlog.popFront = (some batch, { backlog with pending }) := by
  simp only [popFront, isPending]

/-- `restore_retryable_telemetry`. -/
def restoreRetryable (batch : PendingTelemetryBatch) : TelemetryBacklogState :=
  if backlog.pending.length = maxPendingTelemetryBatches then
    { backlog with overflowDrops := saturatingAdd backlog.overflowDrops 1 }
  else { backlog with pending := batch :: backlog.pending }

/-- `handle_telemetry_flush_result`. -/
def handleFlushResult (batch : PendingTelemetryBatch) (result : Except TraceObservationUploadError Unit) :
    Bool × TelemetryBacklogState :=
  match result with
  | .ok _ => (true, backlog)
  | .error error => if error.isRetryable then (false, backlog.restoreRetryable batch) else (true, backlog.recordPermanentDrop)

end TelemetryBacklogState

/-- The last part of `finish` and `finish_cancelled`, and of `finish_shed`, which does not upload. -/
inductive Upload where
  | arriving (batch : PendingTelemetryBatch)
  /-- The batch is sent with a permit. -/
  | sending (batch : PendingTelemetryBatch)
  | enqueueing (batch : PendingTelemetryBatch) (permit : Bool)
  /-- The server has refused the batch. -/
  | refusing (batch : PendingTelemetryBatch)
  | releasing
  | triggering
  | over
  deriving DecidableEq

/-- `flush_telemetry_backlog`. -/
inductive Flusher where
  | acquiring
  | popping
  | sending (batch : PendingTelemetryBatch)
  | handling (batch : PendingTelemetryBatch) (result : Except TraceObservationUploadError Unit)
  | sleeping
  | over
  deriving DecidableEq

def Upload.holdsPermit : Upload → Bool
  | .sending _ | .enqueueing _ true | .refusing _ | .releasing => true
  | .arriving _ | .enqueueing _ false | .triggering | .over => false

def Upload.triggers : Upload → Bool
  | .releasing | .triggering => true
  | .arriving _ | .sending _ | .enqueueing _ _ | .refusing _ | .over => false

def Flusher.holdsPermit : Flusher → Bool
  | .popping | .sending _ => true
  | .acquiring | .handling _ _ | .sleeping | .over => false

def Flusher.active : Flusher → Bool
  | .acquiring | .popping | .sending _ | .handling _ _ | .sleeping => true
  | .over => false

def Flusher.batches : Flusher → List PendingTelemetryBatch
  | .sending batch | .handling batch _ => [batch]
  | .acquiring | .popping | .sleeping | .over => []

/-! ## The machine -/

/-- The backlog with its tasks, and what became of the batches: `rejected` were dropped by the flusher, and
`refused` were dropped without having been in the queue. -/
structure Telemetry where
  backlog : TelemetryBacklogState
  uploads : List Upload
  flushers : List Flusher
  enqueued : List PendingTelemetryBatch
  delivered : List PendingTelemetryBatch
  overflowed : List PendingTelemetryBatch
  rejected : List PendingTelemetryBatch
  refused : List PendingTelemetryBatch
  deriving DecidableEq

inductive TelemetryAction where
  /-- An invocation ends. -/
  | upload (batch : PendingTelemetryBatch)
  /-- An invocation is shed. -/
  | shed (batch : PendingTelemetryBatch)
  /-- A connection is made, which triggers a flush. -/
  | connect
  | acquire (task : ℕ)
  | sent (task : ℕ) (result : Except TraceObservationUploadError Unit)
  /-- The task is aborted while it sends. -/
  | abort (task : ℕ)
  | enqueue (task : ℕ)
  | refuse (task : ℕ)
  | release (task : ℕ)
  | trigger (task : ℕ)
  | flusherAcquire (flusher : ℕ)
  | flusherPop (flusher : ℕ)
  | flusherSent (flusher : ℕ) (result : Except TraceObservationUploadError Unit)
  | flusherHandle (flusher : ℕ)
  | flusherWake (flusher : ℕ)

namespace Telemetry

def new : Telemetry where
  backlog := .default
  uploads := []
  flushers := []
  enqueued := []
  delivered := []
  overflowed := []
  rejected := []
  refused := []

variable (state : Telemetry)

def permits : ℕ := state.uploads.countP Upload.holdsPermit + state.flushers.countP Flusher.holdsPermit

def setUpload (task : ℕ) (upload : Upload) : Telemetry := { state with uploads := state.uploads.set task upload }

def setFlusher (flusher : ℕ) (next : Flusher) : Telemetry := { state with flushers := state.flushers.set flusher next }

def afterSend (batch : PendingTelemetryBatch) : Except TraceObservationUploadError Unit → Upload
  | .ok _ => .releasing
  | .error error => if error.isRetryable then .enqueueing batch true else .refusing batch

def uploadStep (task : ℕ) (upload : Upload) : TelemetryAction → Option Telemetry
  | .acquire _ =>
    match upload with
    | .arriving batch =>
      some (state.setUpload task
        (if state.permits < maxConcurrentTelemetryUploads then .sending batch else .enqueueing batch false))
    | _ => none
  | .sent _ result =>
    match upload with
    | .sending batch => some (state.setUpload task (afterSend batch result))
    | _ => none
  | .abort _ =>
    match upload with
    | .sending _ => some (state.setUpload task .over)
    | _ => none
  | .enqueue _ =>
    match upload with
    | .enqueueing batch permit =>
      some { state.setUpload task (if permit then .releasing else .triggering) with
        backlog := state.backlog.enqueue batch
        enqueued := state.enqueued ++ [batch]
        overflowed := state.overflowed ++
          if state.backlog.pending.length = maxPendingTelemetryBatches then state.backlog.pending.take 1 else [] }
    | _ => none
  | .refuse _ =>
    match upload with
    | .refusing batch =>
      some { state.setUpload task .releasing with
        backlog := state.backlog.recordPermanentDrop
        refused := state.refused ++ [batch] }
    | _ => none
  | .release _ =>
    match upload with
    | .releasing => some (state.setUpload task .triggering)
    | _ => none
  | .trigger _ =>
    match upload with
    | .triggering =>
      let (spawns, backlog) := state.backlog.trigger
      some { state.setUpload task .over with
        backlog
        flushers := if spawns then state.flushers ++ [.acquiring] else state.flushers }
    | _ => none
  | _ => none

def flusherStep (flusher : ℕ) (task : Flusher) : TelemetryAction → Option Telemetry
  | .flusherAcquire _ =>
    match task with
    | .acquiring => if state.permits < maxConcurrentTelemetryUploads then some (state.setFlusher flusher .popping) else none
    | _ => none
  | .flusherPop _ =>
    match task with
    | .popping =>
      let (popped, backlog) := state.backlog.popFront
      some { state.setFlusher flusher (match popped with | some batch => .sending batch | none => .over) with backlog }
    | _ => none
  | .flusherSent _ result =>
    match task with
    | .sending batch => some (state.setFlusher flusher (.handling batch result))
    | _ => none
  | .flusherHandle _ =>
    match task with
    | .handling batch result =>
      let (goesOn, backlog) := state.backlog.handleFlushResult batch result
      some { state.setFlusher flusher (if goesOn then .acquiring else .sleeping) with
        backlog
        delivered := state.delivered ++ match result with | .ok _ => [batch] | .error _ => []
        overflowed := state.overflowed ++ match result with
          | .error (.retryable _) => if state.backlog.pending.length = maxPendingTelemetryBatches then [batch] else []
          | .ok _ | .error (.permanent _) => []
        rejected := state.rejected ++ match result with
          | .error (.permanent _) => [batch]
          | .ok _ | .error (.retryable _) => [] }
    | _ => none
  | .flusherWake _ =>
    match task with
    | .sleeping => some (state.setFlusher flusher .acquiring)
    | _ => none
  | _ => none

def step (action : TelemetryAction) : Option Telemetry :=
  match action with
  | .upload batch => some { state with uploads := state.uploads ++ [.arriving batch] }
  | .shed batch => some { state with uploads := state.uploads ++ [.enqueueing batch false] }
  | .connect => some { state with uploads := state.uploads ++ [.triggering] }
  | .acquire task | .sent task _ | .abort task | .enqueue task | .refuse task | .release task | .trigger task =>
    state.uploads[task]?.bind fun upload => state.uploadStep task upload action
  | .flusherAcquire flusher | .flusherPop flusher | .flusherSent flusher _ | .flusherHandle flusher
  | .flusherWake flusher => state.flushers[flusher]?.bind fun task => state.flusherStep flusher task action

end Telemetry

def telemetryMachine : Machine Telemetry TelemetryAction where
  start state := state = .new
  step := Telemetry.step

/-! ## What a step can do -/

namespace Telemetry

variable {state next : Telemetry} {action : TelemetryAction} {flusher : ℕ} {task : Flusher}

inductive Step (state : Telemetry) : Telemetry → Prop where
  | arrive (upload : Upload) : Step state { state with uploads := state.uploads ++ [upload] }
  /-- An upload goes on without the backlog. -/
  | move (task : ℕ) (upload after : Upload) (stored : state.uploads[task]? = some upload)
    (keeps : upload.triggers = true → after.triggers = true) : Step state (state.setUpload task after)
  | enqueue (task : ℕ) (batch : PendingTelemetryBatch) (after : Upload) (permit : Bool)
    (stored : state.uploads[task]? = some (.enqueueing batch permit)) (triggers : after.triggers = true) :
    Step state { state.setUpload task after with
      backlog := state.backlog.enqueue batch
      enqueued := state.enqueued ++ [batch]
      overflowed := state.overflowed ++
        if state.backlog.pending.length = maxPendingTelemetryBatches then state.backlog.pending.take 1 else [] }
  | refuse (task : ℕ) (batch : PendingTelemetryBatch) (stored : state.uploads[task]? = some (.refusing batch)) :
    Step state { state.setUpload task .releasing with
      backlog := state.backlog.recordPermanentDrop
      refused := state.refused ++ [batch] }
  /-- A flusher is at work, or there is nothing to flush. -/
  | skip (task : ℕ) (stored : state.uploads[task]? = some .triggering)
    (idle : state.backlog.flushing = true ∨ state.backlog.pending = []) : Step state (state.setUpload task .over)
  | spawn (task : ℕ) (stored : state.uploads[task]? = some .triggering) (stopped : state.backlog.flushing = false) :
    Step state { state.setUpload task .over with
      backlog := { state.backlog with flushing := true }
      flushers := state.flushers ++ [.acquiring] }
  /-- The flusher goes on without the backlog. -/
  | wait (flusher : ℕ) (task after : Flusher) (stored : state.flushers[flusher]? = some task)
    (active : task.active = true ∧ after.active = true) (batches : after.batches = task.batches) :
    Step state (state.setFlusher flusher after)
  | pop (flusher : ℕ) (batch : PendingTelemetryBatch) (pending : List PendingTelemetryBatch)
    (stored : state.flushers[flusher]? = some .popping) (isPending : state.backlog.pending = batch :: pending) :
    Step state { state.setFlusher flusher (.sending batch) with backlog := { state.backlog with pending } }
  | drained (flusher : ℕ) (stored : state.flushers[flusher]? = some .popping) (isPending : state.backlog.pending = []) :
    Step state { state.setFlusher flusher .over with backlog := { state.backlog with flushing := false } }
  | deliver (flusher : ℕ) (batch : PendingTelemetryBatch) (task : Flusher) (stored : state.flushers[flusher]? = some task)
    (active : task.active = true) (batches : task.batches = [batch]) :
    Step state { state.setFlusher flusher .acquiring with delivered := state.delivered ++ [batch] }
  | restore (flusher : ℕ) (batch : PendingTelemetryBatch) (task : Flusher) (stored : state.flushers[flusher]? = some task)
    (active : task.active = true) (batches : task.batches = [batch])
    (room : state.backlog.pending.length ≠ maxPendingTelemetryBatches) :
    Step state { state.setFlusher flusher .sleeping with
      backlog := { state.backlog with pending := batch :: state.backlog.pending } }
  | overflow (flusher : ℕ) (batch : PendingTelemetryBatch) (task : Flusher) (stored : state.flushers[flusher]? = some task)
    (active : task.active = true) (batches : task.batches = [batch]) :
    Step state { state.setFlusher flusher .sleeping with
      backlog := { state.backlog with overflowDrops := saturatingAdd state.backlog.overflowDrops 1 }
      overflowed := state.overflowed ++ [batch] }
  | reject (flusher : ℕ) (batch : PendingTelemetryBatch) (task : Flusher) (stored : state.flushers[flusher]? = some task)
    (active : task.active = true) (batches : task.batches = [batch]) :
    Step state { state.setFlusher flusher .acquiring with
      backlog := state.backlog.recordPermanentDrop
      rejected := state.rejected ++ [batch] }

theorem uploadStep_step {task : ℕ} {upload : Upload}
    (stored : state.uploads[task]? = some upload) (stepped : state.uploadStep task upload action = some next) :
    Step state next := by
  cases action with
  | acquire _ =>
    cases upload <;> simp only [uploadStep, reduceCtorEq, Option.some.injEq] at stepped
    subst stepped
    exact .move task _ _ stored nofun
  | sent _ result =>
    cases upload <;> simp only [uploadStep, reduceCtorEq, Option.some.injEq] at stepped
    subst stepped
    exact .move task _ _ stored nofun
  | abort _ =>
    cases upload <;> simp only [uploadStep, reduceCtorEq, Option.some.injEq] at stepped
    subst stepped
    exact .move task _ _ stored nofun
  | enqueue _ =>
    cases upload <;> simp only [uploadStep, reduceCtorEq, Option.some.injEq] at stepped
    subst stepped
    exact .enqueue task _ _ _ stored (by split <;> rfl)
  | refuse _ =>
    cases upload <;> simp only [uploadStep, reduceCtorEq, Option.some.injEq] at stepped
    subst stepped
    exact .refuse task _ stored
  | release _ =>
    cases upload <;> simp only [uploadStep, reduceCtorEq, Option.some.injEq] at stepped
    subst stepped
    exact .move task _ _ stored fun _ => rfl
  | trigger _ =>
    cases upload <;> simp only [uploadStep, reduceCtorEq, Option.some.injEq] at stepped
    subst stepped
    simp only [TelemetryBacklogState.trigger]
    split
    · next idle => exact .skip task stored idle
    · next idle =>
      rw [not_or, Bool.not_eq_true] at idle
      exact .spawn task stored idle.1
  | _ => simp [uploadStep] at stepped

theorem flusherStep_step
    (stored : state.flushers[flusher]? = some task) (stepped : state.flusherStep flusher task action = some next) :
    Step state next := by
  cases action with
  | flusherAcquire _ =>
    cases task <;> simp only [flusherStep, reduceCtorEq, Option.ite_none_right_eq_some, Option.some.injEq] at stepped
    obtain ⟨-, rfl⟩ := stepped
    exact .wait flusher _ _ stored ⟨rfl, rfl⟩ rfl
  | flusherPop _ =>
    cases task <;> simp only [flusherStep, reduceCtorEq, Option.some.injEq] at stepped
    subst stepped
    cases isPending : state.backlog.pending with
    | nil =>
      rw [TelemetryBacklogState.popFront_nil isPending]
      exact .drained flusher stored isPending
    | cons batch pending =>
      rw [TelemetryBacklogState.popFront_cons isPending]
      exact .pop flusher batch pending stored isPending
  | flusherSent _ result =>
    cases task <;> simp only [flusherStep, reduceCtorEq, Option.some.injEq] at stepped
    subst stepped
    exact .wait flusher _ _ stored ⟨rfl, rfl⟩ rfl
  | flusherHandle _ =>
    cases task <;> simp only [flusherStep, reduceCtorEq, Option.some.injEq] at stepped
    subst stepped
    rename_i batch result
    cases result with
    | ok _ =>
      simp only [TelemetryBacklogState.handleFlushResult, if_true, List.append_nil]
      exact .deliver flusher batch _ stored rfl rfl
    | error error =>
      cases error with
      | retryable message =>
        simp only [TelemetryBacklogState.handleFlushResult, TraceObservationUploadError.isRetryable, if_true,
          Bool.false_eq_true, if_false, List.append_nil, TelemetryBacklogState.restoreRetryable]
        split
        · exact .overflow flusher batch _ stored rfl rfl
        · next room =>
          rw [List.append_nil]
          exact .restore flusher batch _ stored rfl rfl room
      | permanent message =>
        simp only [TelemetryBacklogState.handleFlushResult, TraceObservationUploadError.isRetryable, if_true,
          Bool.false_eq_true, if_false, List.append_nil]
        exact .reject flusher batch _ stored rfl rfl
  | flusherWake _ =>
    cases task <;> simp only [flusherStep, reduceCtorEq, Option.some.injEq] at stepped
    subst stepped
    exact .wait flusher _ _ stored ⟨rfl, rfl⟩ rfl
  | _ => simp [flusherStep] at stepped

/-! ## The invariant -/

/-- The batches that flushers have taken out of the queue. -/
def inFlight (state : Telemetry) : List PendingTelemetryBatch := state.flushers.flatMap Flusher.batches

/-- Every batch that was in the queue is in one place, and while the queue is not empty there is a flusher
or an upload that triggers one. -/
structure Conserved (state : Telemetry) : Prop where
  bound : state.backlog.pending.length ≤ maxPendingTelemetryBatches
  flusher : state.flushers.countP Flusher.active = if state.backlog.flushing then 1 else 0
  batches : ∀ batch, state.enqueued.count batch = state.delivered.count batch + state.backlog.pending.count batch +
    state.inFlight.count batch + state.overflowed.count batch + state.rejected.count batch
  overflows : state.backlog.overflowDrops = min state.overflowed.length u64Max
  rejections : state.backlog.permanentDrops = min (state.rejected.length + state.refused.length) u64Max
  wake : state.backlog.flushing = false → state.backlog.pending ≠ [] → ∃ upload ∈ state.uploads, upload.triggers = true

theorem Conserved.flushing (conserved : Conserved state)
    (stored : state.flushers[flusher]? = some task) (active : task.active = true) : state.backlog.flushing = true := by
  have counted := List.countP_pos_iff.mpr ⟨task, List.mem_of_getElem? stored, active⟩
  rw [conserved.flusher] at counted
  by_contra stopped
  simp [stopped] at counted

theorem Conserved.countP_set (conserved : Conserved state) {task after : Flusher}
    (stored : state.flushers[flusher]? = some task) (active : task.active = true) :
    (state.flushers.set flusher after).countP Flusher.active = if after.active then 1 else 0 := by
  have counted := Foundation.countP_set stored Flusher.active after
  rw [conserved.flusher, conserved.flushing stored active, active] at counted
  omega

theorem wake_set {task : ℕ} {upload after : Upload} (stored : state.uploads[task]? = some upload)
    (keeps : upload.triggers = true → after.triggers = true) (wakes : ∃ other ∈ state.uploads, other.triggers = true) :
    ∃ other ∈ state.uploads.set task after, other.triggers = true := by
  obtain ⟨other, mem, triggers⟩ := wakes
  cases mem_set_of_mem stored mem after with
  | inl same =>
    rw [same] at triggers
    exact ⟨after, next_mem_set stored after, keeps triggers⟩
  | inr kept => exact ⟨other, kept, triggers⟩

theorem saturatingAdd_length {drops length : ℕ} (counted : drops = min length u64Max) :
    saturatingAdd drops 1 = min (length + 1) u64Max := by
  rw [saturatingAdd]
  omega

theorem Conserved.enqueue (conserved : Conserved state) {task : ℕ} {permit : Bool}
    {after : Upload} (stored : state.uploads[task]? = some (.enqueueing batch permit)) (triggers : after.triggers = true) :
    Conserved { state.setUpload task after with
      backlog := state.backlog.enqueue batch
      enqueued := state.enqueued ++ [batch]
      overflowed := state.overflowed ++
        if state.backlog.pending.length = maxPendingTelemetryBatches then state.backlog.pending.take 1 else [] } := by
  have bound := conserved.bound
  have wakes : ∃ upload ∈ state.uploads.set task after, upload.triggers = true :=
    ⟨after, next_mem_set stored after, triggers⟩
  by_cases full : state.backlog.pending.length = maxPendingTelemetryBatches
  · have first : (state.backlog.pending.take 1).length = 1 := by
      rw [List.length_take, full]
      decide
    have parts (other : PendingTelemetryBatch) : state.backlog.pending.count other =
        (state.backlog.pending.take 1).count other + (state.backlog.pending.drop 1).count other := by
      rw [← List.count_append, List.take_append_drop]
    simp only [TelemetryBacklogState.enqueue, full, if_true]
    refine ⟨?_, conserved.flusher, ?_, ?_, conserved.rejections, fun _ _ => wakes⟩
    · simp only [List.length_append, List.length_drop, List.length_singleton, full]
      decide
    · intro other
      have counted := conserved.batches other
      have split := parts other
      simp only [setUpload, inFlight, List.count_append] at counted split ⊢
      omega
    · rw [List.length_append, first]
      exact saturatingAdd_length conserved.overflows
  · simp only [TelemetryBacklogState.enqueue, full, if_false, List.append_nil]
    refine ⟨?_, conserved.flusher, ?_, conserved.overflows, conserved.rejections, fun _ _ => wakes⟩
    · simp only [List.length_append, List.length_singleton]
      omega
    · intro other
      have counted := conserved.batches other
      simp only [setUpload, inFlight, List.count_append] at counted ⊢
      omega

theorem Conserved.goOn (conserved : Conserved state) (after : Flusher)
    (stored : state.flushers[flusher]? = some task) (active : task.active = true ∧ after.active = true)
    (backlog : TelemetryBacklogState) (flushing : backlog.flushing = state.backlog.flushing) :
    (state.flushers.set flusher after).countP Flusher.active = (if backlog.flushing then 1 else 0) ∧
      (backlog.flushing = false → False) := by
  have isFlushing := conserved.flushing stored active.1
  rw [flushing, isFlushing, conserved.countP_set stored active.1, active.2]
  exact ⟨rfl, nofun⟩

theorem Conserved.step (conserved : Conserved state) (taken : Step state next) : Conserved next := by
  have inFlightSet {flusher : ℕ} {task : Flusher} (stored : state.flushers[flusher]? = some task) (after : Flusher)
      (batch : PendingTelemetryBatch) := count_flatMap_set stored Flusher.batches after batch
  cases taken with
  | arrive upload =>
    refine ⟨conserved.bound, conserved.flusher, conserved.batches, conserved.overflows, conserved.rejections, ?_⟩
    intro stopped pending
    obtain ⟨other, mem, triggers⟩ := conserved.wake stopped pending
    exact ⟨other, List.mem_append_left _ mem, triggers⟩
  | move task upload after stored keeps =>
    refine ⟨conserved.bound, conserved.flusher, conserved.batches, conserved.overflows, conserved.rejections, ?_⟩
    intro stopped pending
    exact wake_set stored keeps (conserved.wake stopped pending)
  | enqueue task batch after permit stored triggers => exact conserved.enqueue stored triggers
  | refuse task batch stored =>
    refine ⟨conserved.bound, conserved.flusher, conserved.batches, conserved.overflows, ?_, ?_⟩
    · rw [List.length_append, List.length_singleton, ← Nat.add_assoc]
      exact saturatingAdd_length conserved.rejections
    · intro _ _
      exact ⟨.releasing, next_mem_set stored _, rfl⟩
  | skip task stored idle =>
    refine ⟨conserved.bound, conserved.flusher, conserved.batches, conserved.overflows, conserved.rejections, ?_⟩
    intro stopped pending
    cases idle with
    | inl flushing =>
      have isStopped : state.backlog.flushing = false := stopped
      rw [flushing] at isStopped
      cases isStopped
    | inr isEmpty => exact absurd isEmpty pending
  | spawn task stored stopped =>
    refine ⟨conserved.bound, ?_, ?_, conserved.overflows, conserved.rejections, nofun⟩
    · rw [List.countP_append, conserved.flusher, stopped]
      rfl
    · intro batch
      have counted := conserved.batches batch
      simpa [setUpload, inFlight, Flusher.batches] using counted
  | wait flusher task after stored active batches =>
    obtain ⟨counted, working⟩ := conserved.goOn after stored active state.backlog rfl
    refine ⟨conserved.bound, counted, ?_, conserved.overflows, conserved.rejections, fun stopped _ => (working stopped).elim⟩
    intro batch
    have before := conserved.batches batch
    have moved := inFlightSet stored after batch
    rw [batches] at moved
    simp only [setFlusher, inFlight] at before moved ⊢
    omega
  | pop flusher batch pending stored isPending =>
    have bound := conserved.bound
    rw [isPending] at bound
    obtain ⟨counted, working⟩ :=
      conserved.goOn (.sending batch) stored ⟨rfl, rfl⟩ { state.backlog with pending } rfl
    refine ⟨Nat.le_of_succ_le bound, counted, ?_, conserved.overflows, conserved.rejections,
      fun stopped _ => (working stopped).elim⟩
    intro other
    have before := conserved.batches other
    have moved := inFlightSet stored (.sending batch) other
    rw [isPending, List.count_cons] at before
    simp only [Flusher.batches, List.count_cons, List.count_nil] at moved
    simp only [setFlusher, inFlight] at before moved ⊢
    omega
  | drained flusher stored isPending =>
    refine ⟨conserved.bound, ?_, ?_, conserved.overflows, conserved.rejections, fun _ pending => absurd isPending pending⟩
    · exact conserved.countP_set stored rfl
    · intro batch
      have before := conserved.batches batch
      have moved := inFlightSet stored .over batch
      simp only [Flusher.batches, List.count_nil] at moved
      simp only [setFlusher, inFlight] at before moved ⊢
      omega
  | deliver flusher batch task stored active batches =>
    obtain ⟨counted, working⟩ := conserved.goOn .acquiring stored ⟨active, rfl⟩ state.backlog rfl
    refine ⟨conserved.bound, counted, ?_, conserved.overflows, conserved.rejections,
      fun stopped _ => (working stopped).elim⟩
    intro other
    have before := conserved.batches other
    have moved := inFlightSet stored .acquiring other
    rw [batches] at moved
    simp only [Flusher.batches, List.count_nil] at moved
    simp only [setFlusher, inFlight, List.count_append] at before moved ⊢
    omega
  | restore flusher batch task stored active batches room =>
    have bound := conserved.bound
    obtain ⟨counted, working⟩ := conserved.goOn .sleeping stored ⟨active, rfl⟩
      { state.backlog with pending := batch :: state.backlog.pending } rfl
    refine ⟨?_, counted, ?_, conserved.overflows, conserved.rejections, fun stopped _ => (working stopped).elim⟩
    · rw [List.length_cons]
      omega
    · intro other
      have before := conserved.batches other
      have moved := inFlightSet stored .sleeping other
      rw [batches] at moved
      simp only [Flusher.batches, List.count_cons, List.count_nil] at moved
      simp only [setFlusher, inFlight, List.count_cons] at before moved ⊢
      omega
  | overflow flusher batch task stored active batches =>
    obtain ⟨counted, working⟩ := conserved.goOn .sleeping stored ⟨active, rfl⟩
      { state.backlog with overflowDrops := saturatingAdd state.backlog.overflowDrops 1 } rfl
    refine ⟨conserved.bound, counted, ?_, ?_, conserved.rejections, fun stopped _ => (working stopped).elim⟩
    · intro other
      have before := conserved.batches other
      have moved := inFlightSet stored .sleeping other
      rw [batches] at moved
      simp only [Flusher.batches, List.count_nil] at moved
      simp only [setFlusher, inFlight, List.count_append] at before moved ⊢
      omega
    · rw [List.length_append, List.length_singleton]
      exact saturatingAdd_length conserved.overflows
  | reject flusher batch task stored active batches =>
    obtain ⟨counted, working⟩ := conserved.goOn .acquiring stored ⟨active, rfl⟩ state.backlog.recordPermanentDrop rfl
    refine ⟨conserved.bound, counted, ?_, conserved.overflows, ?_, fun stopped _ => (working stopped).elim⟩
    · intro other
      have before := conserved.batches other
      have moved := inFlightSet stored .acquiring other
      rw [batches] at moved
      simp only [Flusher.batches, List.count_nil] at moved
      simp only [setFlusher, inFlight, TelemetryBacklogState.recordPermanentDrop, List.count_append] at before moved ⊢
      omega
    · rw [List.length_append, List.length_singleton, Nat.add_right_comm]
      exact saturatingAdd_length conserved.rejections

theorem step_step (stepped : state.step action = some next) : Step state next := by
  cases action with
  | upload batch | shed batch | connect =>
    cases stepped
    exact .arrive _
  | acquire task | sent task _ | abort task | enqueue task | refuse task | release task | trigger task =>
    obtain ⟨upload, stored, rest⟩ := Option.bind_eq_some_iff.mp stepped
    exact uploadStep_step stored rest
  | flusherAcquire flusher | flusherPop flusher | flusherSent flusher _ | flusherHandle flusher | flusherWake flusher =>
    obtain ⟨task, stored, rest⟩ := Option.bind_eq_some_iff.mp stepped
    exact flusherStep_step stored rest

theorem conserved (reachable : telemetryMachine.Reachable Machine.always state) : Conserved state := by
  apply reachable.invariant
  · rintro _ rfl
    exact ⟨by decide, rfl, fun _ => rfl, rfl, rfl, fun _ pending => absurd rfl pending⟩
  · intro _ _ _ conserved _ stepped
    exact conserved.step (step_step stepped)

end Telemetry

/-- In every state the queue has at most 512 batches and there is at most one flusher; every batch that was
put into the queue is delivered, pending, in flight, or dropped and counted as such, and only one of these;
and without a flusher and an upload that still triggers one the queue is empty.  The counters stop at the
largest `u64`. -/
theorem telemetry_backlog_conserved (state : Telemetry) (reachable : telemetryMachine.Reachable Machine.always state) :
    state.backlog.pending.length ≤ maxPendingTelemetryBatches ∧ state.flushers.countP Flusher.active ≤ 1 ∧
    (∀ batch, state.enqueued.count batch = state.delivered.count batch + state.backlog.pending.count batch +
      state.inFlight.count batch + state.overflowed.count batch + state.rejected.count batch) ∧
    state.backlog.overflowDrops = min state.overflowed.length u64Max ∧
    state.backlog.permanentDrops = min (state.rejected.length + state.refused.length) u64Max ∧
    ((∀ flusher ∈ state.flushers, flusher.active = false) → (∀ upload ∈ state.uploads, upload.triggers = false) →
      state.backlog.pending = []) := by
  have conserved := Telemetry.conserved reachable
  refine ⟨conserved.bound, ?_, conserved.batches, conserved.overflows, conserved.rejections, ?_⟩
  · rw [conserved.flusher]
    split <;> omega
  · intro stopped quiet
    have notFlushing : state.backlog.flushing = false := by
      by_contra flushing
      have counted := conserved.flusher
      have none : state.flushers.countP Flusher.active = 0 := List.countP_eq_zero.mpr (by simpa using stopped)
      simp [flushing, none] at counted
    by_contra pending
    obtain ⟨upload, member, triggers⟩ := conserved.wake notFlushing pending
    rw [quiet upload member] at triggers
    cases triggers

def emptyBatch : PendingTelemetryBatch where
  requestId := ⟨"0190f2c4-7b1e-7c3a-9d52-1f6a0e8b4c40", by decide⟩
  batch := { events := [], droppedEvents := 0, rootInputSummary := none, rootOutputSummary := none }

/-- The first attempt fails, the second one succeeds, and the flusher ends. -/
def retriedFlush : List TelemetryAction :=
  [.shed emptyBatch, .enqueue 0, .trigger 0, .flusherAcquire 0, .flusherPop 0,
    .flusherSent 0 (.error (.retryable "HTTP 503")), .flusherHandle 0, .flusherWake 0, .flusherAcquire 0, .flusherPop 0,
    .flusherSent 0 (.ok ()), .flusherHandle 0, .flusherAcquire 0, .flusherPop 0]

theorem telemetry_backlog_conserved_retried :
    ∃ state, telemetryMachine.Reachable Machine.always state ∧ state.delivered = [emptyBatch] ∧
      state.backlog.pending = [] := by
  obtain ⟨state, reachable, ends⟩ := Machine.reachable_of_execute telemetryMachine Machine.always rfl retriedFlush
    (fun state => decide (state.delivered = [emptyBatch] ∧ (∀ flusher ∈ state.flushers, flusher.active = false) ∧
      ∀ upload ∈ state.uploads, upload.triggers = false)) (by decide +kernel)
  obtain ⟨delivered, stopped, quiet⟩ := of_decide_eq_true ends
  have conserved := telemetry_backlog_conserved state reachable
  exact ⟨state, reachable, delivered, conserved.2.2.2.2.2 stopped quiet⟩

end Vifu.Gateway
