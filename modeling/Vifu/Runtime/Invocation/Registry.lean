import Vifu.Foundation.Table
import Vifu.Runtime.Data

/-!
# The invocation registry

`InvocationRegistry` holds one entry for each background invocation: its poll result, its
cancellation token and the events not yet drained.  Every operation below runs inside one
section of the registry's mutex.
-/

namespace Vifu.Runtime

def maxInFlightInvocations : ℕ := 64
def maxRetainedInvocations : ℕ := 256
def maxRetainedInvocationEvents : ℕ := 256
def maxCoalescedEventBytes : ℕ := 64 * 1024

/-- The identity of the state that the clones of a cancellation token share. -/
structure CancellationToken where
  id : ℕ
  deriving DecidableEq, Repr

/-! ## Entries -/

structure InvocationEntry where
  poll : InvocationPoll
  cancellation : CancellationToken
  events : List InvocationEvent
  nextEventSequence : ℕ
  deriving DecidableEq, Repr

/-- `merge_invocation_data`, with the merged payload as its result. -/
def mergeInvocationData : (previous next : InvocationData) → Option InvocationData
  | .json (.string previous), .json (.string next) =>
    if previous.utf8ByteSize + next.utf8ByteSize ≤ maxCoalescedEventBytes then
      some (.json (.string (previous ++ next)))
    else
      none
  | .binary previous, .binary next =>
    if previous.length + next.length ≤ maxCoalescedEventBytes then
      some (.binary (previous ++ next))
    else
      none
  | _, _ => none

/-- The last event after coalescing a delta into it, if the two may be coalesced. -/
def coalesce (last : InvocationEvent) (kind : InvocationEventKind) (data : Option InvocationData) :
    Option InvocationEvent :=
  match kind, last.kind, last.data, data with
  | .outputDelta, .outputDelta, some previous, some next =>
    (mergeInvocationData previous next).map fun merged => { last with data := some merged }
  | _, _, _, _ => none

namespace InvocationEntry

def coalesced (entry : InvocationEntry) (kind : InvocationEventKind) (data : Option InvocationData) :
    Option InvocationEvent :=
  entry.events.getLast?.bind (coalesce · kind data)

def nextEvent (entry : InvocationEntry) (kind : InvocationEventKind) (data : Option InvocationData)
    (error : Option String) : InvocationEvent :=
  { sequence := entry.nextEventSequence, kind, data, error }

def pushEvent (entry : InvocationEntry) (kind : InvocationEventKind) (data : Option InvocationData)
    (error : Option String) : InvocationEntry :=
  match entry.coalesced kind data with
  | some merged => { entry with events := entry.events.dropLast ++ [merged] }
  | none =>
    let events := entry.events ++ [entry.nextEvent kind data error]
    { entry with
      events := events.drop (events.length - maxRetainedInvocationEvents)
      nextEventSequence := saturatingAdd entry.nextEventSequence 1 }

def setPoll (entry : InvocationEntry) (status : InvocationStatus) (output : Option InvocationOutput)
    (error : Option String) : InvocationEntry :=
  { entry with poll := { entry.poll with status, output, error } }

/-- The event that `update` pushes after it has stored the new poll result. -/
def statusEvent (entry : InvocationEntry) :
    Option (InvocationEventKind × Option InvocationData × Option String) :=
  match entry.poll.status with
  | .pending => none
  | .running => some (.started, none, none)
  | .completed => some (.completed, entry.poll.output.map (·.data), none)
  | .failed => some (.failed, none, entry.poll.error)
  | .cancelled => some (.cancelled, none, none)

def announce (entry : InvocationEntry) : InvocationEntry :=
  match entry.statusEvent with
  | some (kind, data, error) => entry.pushEvent kind data error
  | none => entry

def terminal (entry : InvocationEntry) : Bool := isTerminalStatus entry.poll.status

end InvocationEntry

/-! ## The registry -/

structure InvocationRegistry where
  entries : HashMap String InvocationEntry
  terminalOrder : List String
  activeCount : ℕ

namespace InvocationRegistry

/-- `InvocationRegistry::default()`. -/
def empty : InvocationRegistry := { entries := ∅, terminalOrder := [], activeCount := 0 }

def insert (registry : InvocationRegistry) (handle : InvocationHandle)
    (cancellation : CancellationToken) : Except RuntimeError InvocationRegistry :=
  if registry.activeCount ≥ maxInFlightInvocations then
    .error (.backpressure "too many invocations are already running")
  else
    .ok { registry with
      entries := registry.entries.insert handle
        { poll := { handle, status := .pending, output := none, error := none }
          cancellation
          events := []
          nextEventSequence := 1 }
      activeCount := registry.activeCount + 1 }

/-- Pops the oldest handles, with their entries, until the bound is met. -/
def evictOldest (entries : HashMap String InvocationEntry) :
    List String → HashMap String InvocationEntry × List String
  | [] => (entries, [])
  | handle :: order =>
    if (handle :: order).length > maxRetainedInvocations then
      evictOldest (entries.erase handle) order
    else
      (entries, handle :: order)

def evictOldTerminalEntries (registry : InvocationRegistry) : InvocationRegistry :=
  let (entries, terminalOrder) := evictOldest registry.entries registry.terminalOrder
  { registry with entries, terminalOrder }

def update (registry : InvocationRegistry) (handle : InvocationHandle) (status : InvocationStatus)
    (output : Option InvocationOutput) (error : Option String) : InvocationRegistry :=
  match registry.entries.lookup handle with
  | none => registry
  | some entry =>
    if entry.terminal then
      registry
    else
      let entries := registry.entries.insert handle (entry.setPoll status output error).announce
      if isTerminalStatus status then
        evictOldTerminalEntries
          { entries
            terminalOrder := registry.terminalOrder ++ [handle]
            activeCount := registry.activeCount - 1 }
      else
        { registry with entries }

def remove (registry : InvocationRegistry) (handle : InvocationHandle) : InvocationRegistry :=
  { entries := registry.entries.erase handle
    terminalOrder := registry.terminalOrder.filter (· ≠ handle)
    activeCount :=
      match registry.entries.lookup handle with
      | some entry => if entry.terminal then registry.activeCount else registry.activeCount - 1
      | none => registry.activeCount }

/-- `poll_invocation`, which reads the registry without a method of its own. -/
def poll (registry : InvocationRegistry) (handle : InvocationHandle) :
    Except RuntimeError InvocationPoll :=
  match registry.entries.lookup handle with
  | some entry => .ok entry.poll
  | none => .error (.invocationNotFound handle)

def take (registry : InvocationRegistry) (handle : InvocationHandle) :
    Except RuntimeError InvocationPoll × InvocationRegistry :=
  match registry.poll handle with
  | .error error => (.error error, registry)
  | .ok poll =>
    (.ok poll, if isTerminalStatus poll.status then registry.remove handle else registry)

def pushProviderEvent (registry : InvocationRegistry) (handle : InvocationHandle)
    (event : ProviderEvent) : InvocationRegistry :=
  match registry.entries.lookup handle with
  | none => registry
  | some entry =>
    if entry.poll.status ≠ .running then
      registry
    else
      match event with
      | .outputDelta data =>
        { registry with
          entries := registry.entries.insert handle (entry.pushEvent .outputDelta (some data) none) }
      | .activity | .stageStarted .. | .stageCompleted .. | .stageFailed .. => registry

def drainEvents (registry : InvocationRegistry) (handle : InvocationHandle) :
    Except RuntimeError (List InvocationEvent) × InvocationRegistry :=
  match registry.entries.lookup handle with
  | none => (.error (.invocationNotFound handle), registry)
  | some entry =>
    (.ok entry.events,
      { registry with entries := registry.entries.insert handle { entry with events := [] } })

end InvocationRegistry

/-! ## What one operation does to one entry -/

namespace InvocationEntry

section

variable (entry : InvocationEntry)
include entry

@[simp] theorem pushEvent_poll (kind : InvocationEventKind)
    (data : Option InvocationData) (error : Option String) :
    (entry.pushEvent kind data error).poll = entry.poll := by
  unfold pushEvent
  split <;> rfl

@[simp] theorem announce_poll : entry.announce.poll = entry.poll := by
  unfold announce
  split <;> simp

@[simp] theorem setPoll_status (status : InvocationStatus) (output : Option InvocationOutput) (error : Option String) :
    (entry.setPoll status output error).poll.status = status := rfl

@[simp] theorem terminal_setPoll_announce (status : InvocationStatus)
    (output : Option InvocationOutput) (error : Option String) :
    (entry.setPoll status output error).announce.terminal = isTerminalStatus status := by
  simp [terminal]

@[simp] theorem terminal_pushEvent (kind : InvocationEventKind)
    (data : Option InvocationData) (error : Option String) :
    (entry.pushEvent kind data error).terminal = entry.terminal := by
  simp [terminal]

end

end InvocationEntry

variable {order : List String}

namespace InvocationRegistry

theorem update_cases (registry : InvocationRegistry) (handle : InvocationHandle)
    (status : InvocationStatus) (output : Option InvocationOutput) (error : Option String) :
    (registry.update handle status output error = registry ∧
      ∀ entry, registry.entries.lookup handle = some entry → entry.terminal = true) ∨
    ∃ entry, registry.entries.lookup handle = some entry ∧ entry.terminal = false ∧
      ((isTerminalStatus status = false ∧ registry.update handle status output error =
          { registry with
            entries := registry.entries.insert handle (entry.setPoll status output error).announce }) ∨
        (isTerminalStatus status = true ∧ registry.update handle status output error =
          evictOldTerminalEntries
            { entries := registry.entries.insert handle (entry.setPoll status output error).announce
              terminalOrder := registry.terminalOrder ++ [handle]
              activeCount := registry.activeCount - 1 })) := by
  cases stored : registry.entries.lookup handle with
  | none => exact .inl ⟨by simp [update, stored], nofun⟩
  | some entry =>
    cases ended : entry.terminal with
    | true => exact .inl ⟨by simp [update, stored, ended], by rintro _ ⟨⟩; exact ended⟩
    | false =>
      refine .inr ⟨entry, rfl, ended, ?_⟩
      cases terminal : isTerminalStatus status with
      | false => exact .inl ⟨rfl, by simp [update, stored, ended, terminal]⟩
      | true => exact .inr ⟨rfl, by simp [update, stored, ended, terminal]⟩

theorem pushProviderEvent_cases (registry : InvocationRegistry) (handle : InvocationHandle)
    (event : ProviderEvent) : registry.pushProviderEvent handle event = registry ∨
    ∃ entry data, registry.entries.lookup handle = some entry ∧ entry.poll.status = .running ∧
      event = .outputDelta data ∧ registry.pushProviderEvent handle event =
        { registry with
          entries := registry.entries.insert handle (entry.pushEvent .outputDelta (some data) none) } := by
  cases stored : registry.entries.lookup handle with
  | none => exact .inl (by simp [pushProviderEvent, stored])
  | some entry =>
    by_cases running : entry.poll.status = .running
    · cases event with
      | outputDelta data =>
        exact .inr ⟨entry, data, rfl, running, rfl, by simp [pushProviderEvent, stored, running]⟩
      | activity | stageStarted _ _ | stageCompleted _ _ _ | stageFailed _ _ _ _ =>
        exact .inl (by simp [pushProviderEvent, stored])
    · exact .inl (by simp [pushProviderEvent, stored, running])

section

variable {registry : InvocationRegistry} {handle : InvocationHandle} {entry : InvocationEntry}
  (stored : registry.entries.lookup handle = some entry)
include stored

theorem drainEvents_of_lookup : registry.drainEvents handle = (.ok entry.events,
      { registry with entries := registry.entries.insert handle { entry with events := [] } }) := by
  simp [drainEvents, stored]

theorem take_of_lookup : registry.take handle =
      (.ok entry.poll, if entry.terminal then registry.remove handle else registry) := by
  simp only [take, poll, stored]
  rfl

end

theorem evictOldest_of_length_le (entries : HashMap String InvocationEntry)
    (bounded : order.length ≤ maxRetainedInvocations) : evictOldest entries order = (entries, order) := by
  cases order with
  | nil => rfl
  | cons handle order => rw [evictOldest, if_neg (by omega)]

end InvocationRegistry

/-! ## Where an entry comes from -/

namespace InvocationEntry

@[simp] theorem pushEvent_cancellation (entry : InvocationEntry) (kind : InvocationEventKind)
    (data : Option InvocationData) (error : Option String) :
    (entry.pushEvent kind data error).cancellation = entry.cancellation := by
  unfold pushEvent
  split <;> rfl

@[simp] theorem announce_cancellation (entry : InvocationEntry) : entry.announce.cancellation = entry.cancellation := by
  unfold announce
  split <;> simp

def Continues (entry source : InvocationEntry) : Prop :=
  entry.cancellation = source.cancellation ∧ entry.poll.status = source.poll.status

end InvocationEntry

namespace InvocationRegistry

variable {registry : InvocationRegistry} {handle other : InvocationHandle} {entry : InvocationEntry}

theorem lookup_evictOldest {entries : HashMap String InvocationEntry}
    (stored : (evictOldest entries order).1.lookup handle = some entry) : entries.lookup handle = some entry := by
  induction order generalizing entries with
  | nil => exact stored
  | cons oldest order ih =>
    rw [evictOldest] at stored
    split at stored
    next =>
      have kept := ih stored
      rw [Foundation.lookup_erase] at kept
      split at kept
      · cases kept
      · exact kept
    next => exact stored

theorem lookup_remove (stored : (registry.remove other).entries.lookup handle = some entry) :
    registry.entries.lookup handle = some entry := by
  simp only [remove, Foundation.lookup_erase] at stored
  split at stored
  · cases stored
  · exact stored

theorem continues_insert {source replacement : InvocationEntry} (held : registry.entries.lookup other = some source)
    (continues : replacement.Continues source)
    (stored : (registry.entries.insert other replacement).lookup handle = some entry) :
    ∃ source, registry.entries.lookup handle = some source ∧ entry.Continues source := by
  rw [Foundation.lookup_insert] at stored
  split at stored
  next same =>
    cases stored
    exact ⟨source, same ▸ held, continues⟩
  next => exact ⟨entry, stored, rfl, rfl⟩

theorem lookup_pushProviderEvent {event : ProviderEvent}
    (stored : (registry.pushProviderEvent other event).entries.lookup handle = some entry) :
    ∃ source, registry.entries.lookup handle = some source ∧ entry.Continues source := by
  rcases pushProviderEvent_cases registry other event with same | ⟨source, data, held, _, _, result⟩
  · rw [same] at stored
    exact ⟨entry, stored, rfl, rfl⟩
  · rw [result] at stored
    exact continues_insert held ⟨by simp, by simp⟩ stored

theorem lookup_drainEvents (stored : (registry.drainEvents other).2.entries.lookup handle = some entry) :
    ∃ source, registry.entries.lookup handle = some source ∧ entry.Continues source := by
  cases held : registry.entries.lookup other with
  | none =>
    simp only [drainEvents, held] at stored
    exact ⟨entry, stored, rfl, rfl⟩
  | some source =>
    rw [drainEvents_of_lookup held] at stored
    have emptied : { source with events := [] }.Continues source := ⟨rfl, rfl⟩
    exact continues_insert held emptied stored

theorem lookup_take (stored : (registry.take other).2.entries.lookup handle = some entry) :
    registry.entries.lookup handle = some entry := by
  cases held : registry.entries.lookup other with
  | none =>
    simp only [take, poll, held] at stored
    exact stored
  | some source =>
    rw [take_of_lookup held] at stored
    split at stored
    · exact lookup_remove stored
    · exact stored

theorem lookup_update {status : InvocationStatus} {output : Option InvocationOutput} {error : Option String}
    (stored : (registry.update other status output error).entries.lookup handle = some entry) :
    ∃ source, registry.entries.lookup handle = some source ∧ entry.cancellation = source.cancellation ∧
      (entry.poll.status = source.poll.status ∨
        handle = other ∧ source.terminal = false ∧ entry.poll.status = status) := by
  rcases update_cases registry other status output error with ⟨same, _⟩ | ⟨source, held, live, result⟩
  · rw [same] at stored
    exact ⟨entry, stored, rfl, .inl rfl⟩
  · have written : (registry.entries.insert other (source.setPoll status output error).announce).lookup handle =
        some entry := by
      rcases result with ⟨_, result⟩ | ⟨_, result⟩
      · rwa [result] at stored
      · rw [result] at stored
        exact lookup_evictOldest stored
    rw [Foundation.lookup_insert] at written
    split at written
    next same =>
      cases written
      exact ⟨source, same ▸ held, by simp [InvocationEntry.setPoll], .inr ⟨same, live, by simp⟩⟩
    next => exact ⟨entry, written, rfl, .inl rfl⟩

theorem lookup_inserted {cancellation : CancellationToken} {inserted : InvocationRegistry}
    (accepted : registry.insert other cancellation = .ok inserted)
    (stored : inserted.entries.lookup handle = some entry) :
    (handle = other ∧ entry.cancellation = cancellation ∧ entry.poll.status = .pending) ∨
      registry.entries.lookup handle = some entry := by
  simp only [insert] at accepted
  split at accepted
  · cases accepted
  · cases accepted
    rw [Foundation.lookup_insert] at stored
    split at stored
    next same =>
      cases stored
      exact .inl ⟨same, rfl, rfl⟩
    next => exact .inr stored

end InvocationRegistry

end Vifu.Runtime
