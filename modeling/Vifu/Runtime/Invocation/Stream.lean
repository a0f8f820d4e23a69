import Mathlib.Data.List.Range
import Vifu.Runtime.Bridge.EventLog
import Vifu.Runtime.Invocation.RegistryInvariant

/-!
# The event stream of one invocation

What a reader gets who drains the events of one handle while its worker, its provider and its cancellers go on.
Deltas may be merged in the queue, but their characters and bytes come out in the order in which the provider
produced them.
-/

namespace Vifu.Runtime

open Foundation

inductive StreamOperation where
  | update (status : InvocationStatus) (output : Option InvocationOutput) (error : Option String)
  | emit (event : ProviderEvent)
  | drain

/-- The registry, what the drains of one handle have returned, and what its queue has been given. -/
structure EventStream where
  registry : InvocationRegistry
  drained : List InvocationEvent
  log : EventLog

namespace EventStream

/-- The stream of a handle that has just been inserted. -/
def start (registry : InvocationRegistry) : EventStream := { registry, drained := [], log := .empty }

def serve (handle : InvocationHandle) (stream : EventStream) : StreamOperation → EventStream
  | .update status output error => { stream with
      registry := stream.registry.update handle status output error
      log := stream.log.update stream.registry handle status output error }
  | .emit event => { stream with
      registry := stream.registry.pushProviderEvent handle event
      log := stream.log.providerEvent stream.registry handle event }
  | .drain =>
    let (events, registry) := stream.registry.drainEvents handle
    { stream with registry, drained := stream.drained ++ events.toOption.getD [] }

def run (handle : InvocationHandle) (stream : EventStream) (operations : List StreamOperation) : EventStream :=
  operations.foldl (serve handle) stream

def queue (handle : InvocationHandle) (stream : EventStream) : List InvocationEvent :=
  (stream.registry.entries.lookup handle).elim [] InvocationEntry.events

end EventStream

/-- The pieces of a payload, which survive when it is merged with another. -/
inductive DeltaAtom where
  | character (character : Char)
  | byte (byte : UInt8)
  | value (value : Value)

def InvocationData.atoms : InvocationData → List DeltaAtom
  | .json (.string text) => text.toList.map .character
  | .json value => [.value value]
  | .binary bytes => bytes.map .byte

def InvocationEvent.delta (event : InvocationEvent) : List DeltaAtom :=
  match event.kind with
  | .outputDelta => event.data.elim [] InvocationData.atoms
  | .started | .completed | .failed | .cancelled => []

namespace StreamOperation

/-- The status after an operation: an invocation that has ended keeps its own. -/
def statusAfter (status : InvocationStatus) : StreamOperation → InvocationStatus
  | .update next _ _ => if isTerminalStatus status then status else next
  | .emit _ | .drain => status

/-- The deltas of an operation that the provider emits while the invocation is running. -/
def deltas (status : InvocationStatus) : StreamOperation → List InvocationData
  | .emit (.outputDelta data) => if status = .running then [data] else []
  | .emit _ | .update .. | .drain => []

/-- Whether an operation marks the invocation running before it has ended. -/
def starts (status : InvocationStatus) : StreamOperation → ℕ
  | .update .running _ _ => if isTerminalStatus status then 0 else 1
  | .update .. | .emit _ | .drain => 0

end StreamOperation

def runningDeltas : InvocationStatus → List StreamOperation → List InvocationData
  | _, [] => []
  | status, operation :: operations =>
    operation.deltas status ++ runningDeltas (operation.statusAfter status) operations

/-- How often the invocation is marked running before it has ended. -/
def runningUpdates : InvocationStatus → List StreamOperation → ℕ
  | _, [] => 0
  | status, operation :: operations =>
    operation.starts status + runningUpdates (operation.statusAfter status) operations

/-! ## Sequence numbers -/

/-- The first `count` sequence numbers. -/
def sequenceNumbers (count : ℕ) : List ℕ := (List.range' 1 count).map fun number => min number u64Max

/-- What an entry, the log of its queue and the drained events have to do with each other. -/
structure Logged (entry : InvocationEntry) (log : EventLog) (drained : List InvocationEvent)
    (emitted : List DeltaAtom) (starts : ℕ) : Prop where
  accounted : Accounted log.recorded log.overflowed (drained ++ entry.events)
  numbered : log.recorded.map InvocationEvent.sequence = sequenceNumbers log.recorded.length
  next : entry.nextEventSequence = min (log.recorded.length + 1) u64Max
  payload : log.recorded.flatMap InvocationEvent.delta = emitted
  started : (log.recorded.filter fun event => event.kind = .started).length ≤ starts

/-- The stream of an invocation that has ended has one event about its end, the last one. -/
def Closed (entry : InvocationEntry) (log : EventLog) : Prop :=
  if entry.terminal then Finished log.recorded else Unfinished log.recorded

theorem sequenceNumbers_succ (count : ℕ) :
    sequenceNumbers (count + 1) = sequenceNumbers count ++ [min (count + 1) u64Max] := by
  rw [sequenceNumbers, List.range'_concat, sequenceNumbers]
  simp [Nat.add_comm]

theorem mergeInvocationData_atoms {previous next merged : InvocationData}
    (merges : mergeInvocationData previous next = some merged) : merged.atoms = previous.atoms ++ next.atoms := by
  unfold mergeInvocationData at merges
  split at merges
  · split at merges
    · cases merges
      simp [InvocationData.atoms]
    · cases merges
  · split at merges
    · cases merges
      simp [InvocationData.atoms]
    · cases merges
  · cases merges

variable {entry : InvocationEntry}

theorem coalesced_last {kind : InvocationEventKind} {data : Option InvocationData}
    {merged : InvocationEvent} (coalesces : entry.coalesced kind data = some merged) :
    ∃ earlier last, entry.events = earlier ++ [last] ∧ kind = .outputDelta ∧ last.kind = .outputDelta ∧
      merged.kind = .outputDelta ∧ merged.sequence = last.sequence ∧
        merged.delta = last.delta ++ data.elim [] InvocationData.atoms := by
  obtain ⟨last, isLast, coalesces⟩ := Option.bind_eq_some_iff.mp coalesces
  obtain ⟨earlier, ends⟩ := List.getLast?_eq_some_iff.mp isLast
  refine ⟨earlier, last, ends, ?_⟩
  unfold coalesce at coalesces
  split at coalesces
  next previous following isDelta held _ =>
    obtain ⟨payload, merges, rfl⟩ := Option.map_eq_some_iff.mp coalesces
    refine ⟨rfl, isDelta, isDelta, rfl, ?_⟩
    simp [InvocationEvent.delta, isDelta, held, mergeInvocationData_atoms merges]
  next => cases coalesces

def addedDelta (kind : InvocationEventKind) (data : Option InvocationData) : List DeltaAtom :=
  if kind = .outputDelta then data.elim [] InvocationData.atoms else []

variable {drained : List InvocationEvent} {emitted : List DeltaAtom}

section

variable {log : EventLog} {starts : ℕ} (logged : Logged entry log drained emitted starts)
include logged

theorem Logged.record (kind : InvocationEventKind) (data : Option InvocationData) (error : Option String) :
    Logged (entry.pushEvent kind data error) (log.record entry kind data error) drained
      (emitted ++ addedDelta kind data) (starts + if kind = .started then 1 else 0) := by
  have accounted := EventLog.record_accounted kind data error logged.accounted
  cases coalesces : entry.coalesced kind data with
  | some merged =>
    obtain ⟨earlier, last, events, rfl, isDelta, isMerged, sequence, payload⟩ := coalesced_last coalesces
    -- the last event of the queue is the last one of the log
    have ends : log.recorded = log.recorded.dropLast ++ [last] := by
      have isLast := logged.accounted.last
      rw [events, ← List.append_assoc, List.getLast?_concat] at isLast
      exact (List.dropLast_append_getLast? last isLast.symm).symm
    have recorded : (log.record entry .outputDelta data error).recorded = log.recorded.dropLast ++ [merged] := by
      rw [EventLog.record, coalesces]
    have pushed : (entry.pushEvent .outputDelta data error).nextEventSequence = entry.nextEventSequence := by
      rw [InvocationEntry.pushEvent, coalesces]
    have sameLength : (log.recorded.dropLast ++ [merged]).length = log.recorded.length := by
      conv_rhs => rw [ends]
      simp
    refine ⟨accounted, ?_, ?_, ?_, ?_⟩
    · rw [recorded, sameLength, ← logged.numbered]
      conv_rhs => rw [ends]
      simp [sequence]
    · rw [recorded, sameLength, pushed, logged.next]
    · rw [recorded, ← logged.payload]
      conv_rhs => rw [ends]
      simp [payload, addedDelta]
    · rw [recorded]
      have started := logged.started
      rw [ends] at started
      simpa [isDelta, isMerged] using started
  | none =>
    have recorded : (log.record entry kind data error).recorded =
        log.recorded ++ [entry.nextEvent kind data error] := by
      rw [EventLog.record, coalesces]
    have pushed : (entry.pushEvent kind data error).nextEventSequence = saturatingAdd entry.nextEventSequence 1 := by
      rw [InvocationEntry.pushEvent, coalesces]
    refine ⟨accounted, ?_, ?_, ?_, ?_⟩
    · rw [recorded, List.map_append, logged.numbered, List.length_append, List.length_singleton, sequenceNumbers_succ]
      simp [InvocationEntry.nextEvent, logged.next]
    · rw [recorded, pushed, logged.next, saturatingAdd, List.length_append, List.length_singleton]
      omega
    · rw [recorded, List.flatMap_append, logged.payload]
      cases kind <;> simp [InvocationEntry.nextEvent, InvocationEvent.delta, addedDelta]
    · rw [recorded, List.filter_append, List.length_append]
      refine Nat.add_le_add logged.started ?_
      cases kind <;> simp [InvocationEntry.nextEvent]

theorem Logged.drain : Logged { entry with events := [] } log (drained ++ entry.events) emitted starts where
  accounted := by simpa using logged.accounted
  numbered := logged.numbered
  next := logged.next
  payload := logged.payload
  started := logged.started

theorem Logged.setPoll (status : InvocationStatus) (output : Option InvocationOutput) (error : Option String) :
    Logged (entry.setPoll status output error) log drained emitted starts where
  accounted := logged.accounted
  numbered := logged.numbered
  next := logged.next
  payload := logged.payload
  started := logged.started

theorem Logged.announce : Logged entry.announce (log.announce entry) drained emitted
      (starts + if entry.poll.status = .running then 1 else 0) := by
  cases status : entry.poll.status with
  | pending =>
    have silent : entry.statusEvent = none := by rw [InvocationEntry.statusEvent, status]
    simpa [InvocationEntry.announce, EventLog.announce, silent] using logged
  | running =>
    have event : entry.statusEvent = some (.started, none, none) := by rw [InvocationEntry.statusEvent, status]
    simpa [InvocationEntry.announce, EventLog.announce, event, addedDelta] using logged.record .started none none
  | completed =>
    have event : entry.statusEvent = some (.completed, entry.poll.output.map (·.data), none) := by
      rw [InvocationEntry.statusEvent, status]
    simpa [InvocationEntry.announce, EventLog.announce, event, addedDelta] using
      logged.record .completed (entry.poll.output.map (·.data)) none
  | failed =>
    have event : entry.statusEvent = some (.failed, none, entry.poll.error) := by
      rw [InvocationEntry.statusEvent, status]
    simpa [InvocationEntry.announce, EventLog.announce, event, addedDelta] using
      logged.record .failed none entry.poll.error
  | cancelled =>
    have event : entry.statusEvent = some (.cancelled, none, none) := by rw [InvocationEntry.statusEvent, status]
    simpa [InvocationEntry.announce, EventLog.announce, event, addedDelta] using logged.record .cancelled none none

end

/-! ## One operation -/

variable {handle : InvocationHandle} {count : ℕ} {stream : EventStream}

theorem evictOldest_keeps_last (order : List String)
    (entries : HashMap String InvocationEntry) (unlisted : handle ∉ order) :
    (InvocationRegistry.evictOldest entries (order ++ [handle])).1.lookup handle = entries.lookup handle := by
  induction order generalizing entries with
  | nil =>
    rw [InvocationRegistry.evictOldest_of_length_le]
    simp [maxRetainedInvocations]
  | cons oldest order ih =>
    rw [List.mem_cons, not_or] at unlisted
    rw [List.cons_append, InvocationRegistry.evictOldest]
    split
    next => rw [ih _ unlisted.2, AList.lookup_erase_ne unlisted.1]
    next => rfl

theorem lookup_updated {registry : InvocationRegistry} (coherent : registry.Coherent)
    (stored : registry.entries.lookup handle = some entry) (running : entry.terminal = false)
    (status : InvocationStatus) (output : Option InvocationOutput) (error : Option String) :
    (registry.update handle status output error).entries.lookup handle =
      some (entry.setPoll status output error).announce := by
  have unlisted : handle ∉ registry.terminalOrder := by
    simp [coherent.listed, stored, running]
  simp only [InvocationRegistry.update, stored, running, Bool.false_eq_true, if_false]
  split
  next =>
    rw [InvocationRegistry.evictOldTerminalEntries]
    simp [evictOldest_keeps_last _ _ unlisted]
  next => simp

structure Tracks (handle : InvocationHandle) (stream : EventStream) (status : InvocationStatus)
    (emitted : List DeltaAtom) (starts : ℕ) : Prop where
  coherent : stream.registry.Coherent
  follows : ∃ entry, stream.registry.entries.lookup handle = some entry ∧ entry.poll.status = status ∧
    Logged entry stream.log stream.drained emitted starts ∧ Closed entry stream.log

namespace Tracks

variable {status : InvocationStatus}
 {starts : ℕ}

section

variable (tracks : Tracks handle stream status emitted starts)
include tracks

theorem update (next : InvocationStatus) (output : Option InvocationOutput) (error : Option String) :
    Tracks handle (stream.serve handle (.update next output error))
      (StreamOperation.statusAfter status (.update next output error)) emitted
        (starts + StreamOperation.starts status (.update next output error)) := by
  obtain ⟨coherent, entry, stored, rfl, logged, closed⟩ := tracks
  refine ⟨coherent.update handle next output error, ?_⟩
  cases ended : entry.terminal with
  | true =>
    -- an update after the end changes nothing
    have kept : stream.registry.update handle next output error = stream.registry := by
      simp [InvocationRegistry.update, stored, ended]
    have silent : stream.log.update stream.registry handle next output error = stream.log := by
      simp [EventLog.update, stored, ended]
    rw [InvocationEntry.terminal] at ended
    have unstarted : StreamOperation.starts entry.poll.status (.update next output error) = 0 := by
      cases next <;> simp [StreamOperation.starts, ended]
    refine ⟨entry, ?_, by simp [StreamOperation.statusAfter, ended], ?_, ?_⟩
    · simpa only [EventStream.serve, kept] using stored
    · simpa only [EventStream.serve, silent, unstarted, Nat.add_zero] using logged
    · simpa only [EventStream.serve, silent] using closed
  | false =>
    have announced : stream.log.update stream.registry handle next output error =
        stream.log.announce (entry.setPoll next output error) := by
      simp [EventLog.update, stored, ended]
    have unfinished : Unfinished stream.log.recorded := by simpa [Closed, ended] using closed
    refine ⟨(entry.setPoll next output error).announce, lookup_updated coherent stored ended next output error,
      ?_, ?_, ?_⟩
    · rw [InvocationEntry.terminal] at ended
      simp [StreamOperation.statusAfter, ended]
    · rw [InvocationEntry.terminal] at ended
      have counted : StreamOperation.starts entry.poll.status (.update next output error) =
          if (entry.setPoll next output error).poll.status = .running then 1 else 0 := by
        cases next <;> simp [StreamOperation.starts, ended]
      rw [counted]
      simpa only [EventStream.serve, announced] using (logged.setPoll next output error).announce
    · rw [Closed, InvocationEntry.terminal_setPoll_announce]
      simp only [EventStream.serve, announced]
      cases ends : isTerminalStatus next with
      | true => exact EventLog.announce_finished (by simpa [InvocationEntry.terminal] using ends) unfinished
      | false => exact EventLog.announce_unfinished (by simpa [InvocationEntry.terminal] using ends) unfinished

theorem emit (event : ProviderEvent) : Tracks handle (stream.serve handle (.emit event)) status
      (emitted ++ (StreamOperation.deltas status (.emit event)).flatMap InvocationData.atoms) starts := by
  obtain ⟨coherent, entry, stored, rfl, logged, closed⟩ := tracks
  refine ⟨coherent.pushProviderEvent handle event, ?_⟩
  cases event with
  | activity | stageStarted _ _ | stageCompleted _ _ _ | stageFailed _ _ _ _ =>
    -- only deltas are queued
    refine ⟨entry, by simp [EventStream.serve, InvocationRegistry.pushProviderEvent, stored], rfl, ?_, ?_⟩
    · simpa [EventStream.serve, EventLog.providerEvent, stored, StreamOperation.deltas] using logged
    · simpa [EventStream.serve, EventLog.providerEvent, stored] using closed
  | outputDelta data =>
    by_cases running : entry.poll.status = .running
    · have live : entry.terminal = false := by simp [InvocationEntry.terminal, running, isTerminalStatus]
      have unfinished : Unfinished stream.log.recorded := by simpa [Closed, live] using closed
      have recorded := logged.record .outputDelta (some data) none
      refine ⟨entry.pushEvent .outputDelta (some data) none, ?_, by simp, ?_, ?_⟩
      · simp [EventStream.serve, InvocationRegistry.pushProviderEvent, stored, running]
      · simpa [EventStream.serve, EventLog.providerEvent, stored, running, StreamOperation.deltas, addedDelta]
          using recorded
      · simp only [Closed, InvocationEntry.terminal_pushEvent, live, Bool.false_eq_true, if_false]
        simpa [EventStream.serve, EventLog.providerEvent, stored, running] using
          EventLog.record_unfinished rfl (some data) none unfinished
    · refine ⟨entry, ?_, rfl, ?_, ?_⟩
      · simp [EventStream.serve, InvocationRegistry.pushProviderEvent, stored, running]
      · simpa [EventStream.serve, EventLog.providerEvent, stored, running, StreamOperation.deltas] using logged
      · simpa [EventStream.serve, EventLog.providerEvent, stored, running] using closed

theorem drain : Tracks handle (stream.serve handle .drain) status emitted starts := by
  obtain ⟨coherent, entry, stored, rfl, logged, closed⟩ := tracks
  have result := InvocationRegistry.drainEvents_of_lookup stored
  refine ⟨coherent.drainEvents handle, { entry with events := [] }, ?_, rfl, ?_, closed⟩
  · simp [EventStream.serve, result]
  · simpa [EventStream.serve, result, Except.toOption] using logged.drain

theorem serve (operation : StreamOperation) :
    Tracks handle (stream.serve handle operation) (operation.statusAfter status)
      (emitted ++ (operation.deltas status).flatMap InvocationData.atoms) (starts + operation.starts status) := by
  cases operation with
  | update next output error => simpa [StreamOperation.deltas] using tracks.update next output error
  | emit event => exact tracks.emit event
  | drain => simpa [StreamOperation.deltas, StreamOperation.starts, StreamOperation.statusAfter] using tracks.drain

end

theorem run (operations : List StreamOperation) (tracks : Tracks handle stream status emitted starts) :
    Tracks handle (stream.run handle operations) (operations.foldl StreamOperation.statusAfter status)
      (emitted ++ (runningDeltas status operations).flatMap InvocationData.atoms)
        (starts + runningUpdates status operations) := by
  induction operations generalizing stream status emitted starts with
  | nil => simpa [EventStream.run, runningDeltas, runningUpdates] using tracks
  | cons operation operations ih =>
    have served := ih (tracks.serve operation)
    simpa [EventStream.run, runningDeltas, runningUpdates, Nat.add_assoc] using served

end Tracks

/-! ## Main result -/

structure Lossless (handle : InvocationHandle) (operations : List StreamOperation) (stream : EventStream) : Prop where
  /-- An event that others follow does not report the end. -/
  ended : stream.drained.Pairwise fun event _ => event.kind.terminal = false
  started : (stream.drained.filter fun event => event.kind = .started).length ≤ runningUpdates .pending operations
  increasing : stream.log.recorded.length ≤ u64Max →
    (stream.drained.map InvocationEvent.sequence).Pairwise (· < ·)
  consecutive : stream.log.recorded.length ≤ u64Max → stream.log.overflowed = false →
    stream.drained.map InvocationEvent.sequence = List.range' 1 stream.drained.length
  payload : stream.log.overflowed = false →
    (stream.drained ++ stream.queue handle).flatMap InvocationEvent.delta =
      (runningDeltas .pending operations).flatMap InvocationData.atoms

theorem sequenceNumbers_of_le (bounded : count ≤ u64Max) : sequenceNumbers count = List.range' 1 count := by
  apply (List.map_congr_left _).trans (List.map_id _)
  intro number mem
  rw [List.mem_range'_1] at mem
  simp only [id]
  omega

theorem Closed.pairwise {log : EventLog} (closed : Closed entry log) :
    log.recorded.Pairwise fun event _ => event.kind.terminal = false := by
  rw [Closed] at closed
  split at closed
  next =>
    obtain ⟨earlier, last, recorded, _, unfinished⟩ := closed
    rw [recorded, List.pairwise_append]
    refine ⟨List.pairwise_of_forall_mem_list fun event mem _ _ => unfinished event mem,
      List.pairwise_singleton .., fun event mem _ _ => unfinished event mem⟩
  next => exact List.pairwise_of_forall_mem_list fun event mem _ _ => closed event mem

theorem Tracks.lossless {operations : List StreamOperation} {status : InvocationStatus}
    (tracks : Tracks handle stream status ((runningDeltas .pending operations).flatMap InvocationData.atoms)
      (runningUpdates .pending operations)) : Lossless handle operations stream := by
  obtain ⟨_, entry, stored, _, logged, closed⟩ := tracks
  have read : stream.drained.Sublist stream.log.recorded :=
    (List.sublist_append_left _ _).trans logged.accounted.inOrder
  have numbered (bounded : stream.log.recorded.length ≤ u64Max) :
      stream.log.recorded.map InvocationEvent.sequence = List.range' 1 stream.log.recorded.length := by
    rw [logged.numbered, sequenceNumbers_of_le bounded]
  refine ⟨closed.pairwise.sublist read, ?_, fun bounded => ?_, fun bounded intact => ?_, fun intact => ?_⟩
  · exact (read.filter _).length_le.trans logged.started
  · have increasing := List.pairwise_lt_range' (s := 1) (n := stream.log.recorded.length)
    rw [← numbered bounded] at increasing
    exact increasing.sublist (read.map _)
  · -- what was drained is the beginning of the log
    have numbers := numbered bounded
    rw [← logged.accounted.complete intact, List.map_append, List.length_append, ← List.range'_append_1] at numbers
    exact List.append_inj_left numbers (by simp)
  · have waiting : stream.queue handle = entry.events := by simp [EventStream.queue, stored]
    rw [waiting, logged.accounted.complete intact, logged.payload]

theorem Tracks.inserted {registry inserted : InvocationRegistry} (coherent : registry.Coherent)
    (fresh : handle ∉ registry.entries) {cancellation : CancellationToken}
    (accepted : registry.insert handle cancellation = .ok inserted) :
    Tracks handle (EventStream.start inserted) .pending [] 0 := by
  refine ⟨coherent.insert fresh accepted, ?_⟩
  rw [InvocationRegistry.insert] at accepted
  split at accepted
  next => cases accepted
  next =>
    cases accepted
    refine ⟨_, AList.lookup_insert _, rfl, ⟨.nil, rfl, rfl, rfl, Nat.le_refl _⟩, ?_⟩
    intro event mem
    cases mem

/-- Whatever happens on a handle between its insertion and its removal, the drained events end with the one that
    reports the end, if there is one, at most one of them is a start for each time the invocation was marked running,
    their numbers increase as long as they are not exhausted, and unless the queue overflowed they are numbered from 1
    without a gap and, with those still queued, hold exactly the payloads that were emitted while the invocation was
    running, in their order. -/
theorem stream_lossless {registry inserted : InvocationRegistry}
    (reachable : InvocationRegistry.machine.Reachable Machine.always registry) {handle : InvocationHandle}
    (fresh : handle ∉ registry.entries) {cancellation : CancellationToken}
    (accepted : registry.insert handle cancellation = .ok inserted) (operations : List StreamOperation) :
    Lossless handle operations ((EventStream.start inserted).run handle operations) := by
  have coherent := InvocationRegistry.coherent_of_reachable reachable
  have tracks := (Tracks.inserted coherent fresh accepted).run operations
  rw [Nat.zero_add] at tracks
  exact tracks.lossless

/-- Two deltas that are merged in the queue, read together. -/
theorem stream_lossless_greeting :
    ∃ inserted stream, InvocationRegistry.empty.insert "game-1" ⟨0⟩ = .ok inserted ∧
      stream = (EventStream.start inserted).run "game-1" [.update .running none none,
        .emit (.outputDelta (.json (.string "Hel"))), .emit (.outputDelta (.json (.string "lo"))), .drain,
        .update .completed none none, .emit (.outputDelta (.json (.string "late"))), .drain] ∧
      stream.log.overflowed = false ∧ stream.drained.map InvocationEvent.sequence = [1, 2, 3] ∧
      Lossless "game-1" [.update .running none none,
        .emit (.outputDelta (.json (.string "Hel"))), .emit (.outputDelta (.json (.string "lo"))), .drain,
        .update .completed none none, .emit (.outputDelta (.json (.string "late"))), .drain] stream :=
  ⟨_, _, rfl, rfl, by decide +kernel, by decide +kernel,
    stream_lossless ⟨.empty, rfl, .refl⟩ (by decide) rfl _⟩

def valueRound : List StreamOperation := [.emit (.outputDelta (.json .null)), .drain]

theorem valueRounds_sequences (count : ℕ)
    {position : ℕ} (stored : stream.registry.entries.lookup handle = some entry)
    (running : entry.poll.status = .running) (emptied : entry.events = [])
    (numbered : entry.nextEventSequence = min position u64Max) (intact : stream.log.overflowed = false) :
    let final := stream.run handle (List.replicate count valueRound).flatten
    final.log.overflowed = false ∧ final.drained.map InvocationEvent.sequence =
      stream.drained.map InvocationEvent.sequence ++ (List.range' position count).map fun number => min number u64Max := by
  induction count generalizing stream entry position with
  | zero => simpa [EventStream.run] using intact
  | succ count ih =>
    have single : entry.coalesced .outputDelta (some (.json .null)) = none := by
      simp [InvocationEntry.coalesced, emptied]
    have pushed : entry.pushEvent .outputDelta (some (.json .null)) none =
        { entry with
          events := [entry.nextEvent .outputDelta (some (.json .null)) none]
          nextEventSequence := saturatingAdd entry.nextEventSequence 1 } := by
      simp [InvocationEntry.pushEvent, single, emptied, maxRetainedInvocationEvents]
    have following : saturatingAdd entry.nextEventSequence 1 = min (position + 1) u64Max := by
      rw [saturatingAdd]
      omega
    obtain ⟨drained, served⟩ : ∃ drained, stream.run handle valueRound = drained := ⟨_, rfl⟩
    have kept : drained.registry.entries.lookup handle =
        some { entry with nextEventSequence := saturatingAdd entry.nextEventSequence 1 } := by
      simp [← served, valueRound, EventStream.run, EventStream.serve, InvocationRegistry.pushProviderEvent, stored,
        running, InvocationRegistry.drainEvents, pushed, emptied]
    have unharmed : drained.log.overflowed = false := by
      simp [← served, valueRound, EventStream.run, EventStream.serve, EventLog.providerEvent, stored, running,
        EventLog.record, single, emptied, intact, maxRetainedInvocationEvents]
    have read : drained.drained = stream.drained ++ [entry.nextEvent .outputDelta (some (.json .null)) none] := by
      simp [← served, valueRound, EventStream.run, EventStream.serve, InvocationRegistry.pushProviderEvent, stored,
        running, InvocationRegistry.drainEvents, pushed, Except.toOption]
    have rest := ih kept running emptied following unharmed
    have first : stream.run handle (List.replicate (count + 1) valueRound).flatten =
        drained.run handle (List.replicate count valueRound).flatten := by
      rw [List.replicate_succ, ← served]
      exact List.foldl_append
    rw [first]
    refine ⟨rest.1, rest.2.trans ?_⟩
    simp [read, InvocationEntry.nextEvent, numbered, List.range'_succ]

theorem exhausted_sequences (enough : u64Max ≤ count) :
    ¬((List.range' 2 count).map fun number => min number u64Max).Pairwise (· < ·) := by
  intro increasing
  rw [List.pairwise_map, List.pairwise_iff_getElem] at increasing
  have positive : 2 ≤ u64Max := by decide
  have last := increasing (count - 2) (count - 1) (by simp; omega) (by simp; omega) (by omega)
  simp only [List.getElem_range'] at last
  omega

theorem exhausted_run {inserted : InvocationRegistry} (enough : u64Max ≤ count)
    (accepted : InvocationRegistry.empty.insert "game-1" ⟨0⟩ = .ok inserted) :
    ∃ stream, stream = (EventStream.start inserted).run "game-1"
        ([.update .running none none, .drain] ++ (List.replicate count valueRound).flatten) ∧
      stream.log.overflowed = false ∧ ¬(stream.drained.map InvocationEvent.sequence).Pairwise (· < ·) := by
  cases accepted
  refine ⟨_, rfl, ?_⟩
  rw [EventStream.run, List.foldl_append, ← EventStream.run, ← EventStream.run]
  generalize begins : EventStream.run "game-1" _ [.update .running none none, .drain] = started
  -- the start has the number 1, so that the rounds begin with 2
  have stored : started.registry.entries.lookup "game-1" =
      some ⟨⟨"game-1", .running, none, none⟩, ⟨0⟩, [], 2⟩ := by
    rw [← begins]
    decide +kernel
  have unharmed : started.log.overflowed = false := by
    rw [← begins]
    decide +kernel
  obtain ⟨intact, sequences⟩ := valueRounds_sequences count stored rfl rfl (by decide : 2 = min 2 u64Max) unharmed
  refine ⟨intact, fun increasing => exhausted_sequences enough ?_⟩
  rw [sequences, List.pairwise_append] at increasing
  exact increasing.2.1

/-- Two starts of an invocation that is marked running twice, a number that is given again once the numbers are
exhausted, and a payload that nobody has drained yet. -/
theorem stream_bounds_needed : ∃ inserted, InvocationRegistry.empty.insert "game-1" ⟨0⟩ = .ok inserted ∧
      (((EventStream.start inserted).run "game-1"
          [.update .running none none, .update .running none none, .drain]).drained.map InvocationEvent.kind =
        [.started, .started]) ∧
      (∃ stream, stream = (EventStream.start inserted).run "game-1"
          ([.update .running none none, .drain] ++ (List.replicate u64Max valueRound).flatten) ∧
        stream.log.overflowed = false ∧ ¬(stream.drained.map InvocationEvent.sequence).Pairwise (· < ·)) ∧
      ∃ stream, stream = (EventStream.start inserted).run "game-1"
          [.update .running none none, .emit (.outputDelta (.json (.string "Hi")))] ∧
        stream.log.overflowed = false ∧ stream.drained.flatMap InvocationEvent.delta = [] ∧
        (runningDeltas .pending [.update .running none none, .emit (.outputDelta (.json (.string "Hi")))]).flatMap
          InvocationData.atoms = [.character 'H', .character 'i'] := by
  refine ⟨_, rfl, by decide +kernel, exhausted_run (Nat.le_refl _) rfl, _, rfl, by decide +kernel, ?_, ?_⟩
  · rfl
  · simp [runningDeltas, StreamOperation.deltas, StreamOperation.statusAfter, isTerminalStatus, InvocationData.atoms]

end Vifu.Runtime
