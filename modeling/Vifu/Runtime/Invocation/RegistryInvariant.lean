import Vifu.Foundation.Machine
import Vifu.Runtime.Invocation.Registry

/-!
# The representation invariant of the invocation registry

The registry keeps a counter and a queue next to its map.  `Coherent` says that the counter
counts the invocations in flight and that the queue lists the finished ones, both within
their bounds.  Every operation keeps it, so it holds after every sequence of operations.
-/

namespace Vifu.Runtime

open Foundation

inductive RegistryAction where
  | insert (handle : InvocationHandle) (cancellation : CancellationToken)
  | update (handle : InvocationHandle) (status : InvocationStatus)
      (output : Option InvocationOutput) (error : Option String)
  | pushProviderEvent (handle : InvocationHandle) (event : ProviderEvent)
  | drainEvents (handle : InvocationHandle)
  | poll (handle : InvocationHandle)
  | take (handle : InvocationHandle)
  | remove (handle : InvocationHandle)

namespace InvocationRegistry

/-- The registry after an operation.  A handle is inserted only while no entry has it. -/
def perform (registry : InvocationRegistry) : RegistryAction → Option InvocationRegistry
  | .insert handle cancellation =>
    if handle ∈ registry.entries then
      none
    else
      match registry.insert handle cancellation with
      | .ok inserted => some inserted
      | .error _ => some registry
  | .update handle status output error => some (registry.update handle status output error)
  | .pushProviderEvent handle event => some (registry.pushProviderEvent handle event)
  | .drainEvents handle => some (registry.drainEvents handle).2
  | .poll _ => some registry
  | .take handle => some (registry.take handle).2
  | .remove handle => some (registry.remove handle)

def machine : Machine InvocationRegistry RegistryAction where
  start registry := registry = empty
  step := perform

/-! ## The invariant -/

/-- The counter and the queue agree with the map. -/
structure Indexed (registry : InvocationRegistry) : Prop where
  active : registry.activeCount = tally (fun entry => !entry.terminal) registry.entries
  ordered : registry.terminalOrder.Nodup
  listed : ∀ handle, handle ∈ registry.terminalOrder ↔
    ∃ entry, registry.entries.lookup handle = some entry ∧ entry.terminal = true

/-- The counter and the queue agree with the map and keep to their bounds. -/
structure Coherent (registry : InvocationRegistry) : Prop extends Indexed registry where
  inFlight : registry.activeCount ≤ maxInFlightInvocations
  retained : registry.terminalOrder.length ≤ maxRetainedInvocations

theorem coherent_empty : Coherent empty where
  active := rfl
  ordered := .nil
  listed _ := by simp [empty]
  inFlight := Nat.zero_le _
  retained := Nat.zero_le _

variable {registry : InvocationRegistry} {handle : InvocationHandle}

theorem Indexed.overwrite (indexed : Indexed registry)
    {entry replacement : InvocationEntry} (stored : registry.entries.lookup handle = some entry)
    (same : replacement.terminal = entry.terminal) :
    Indexed { registry with entries := registry.entries.insert handle replacement } where
  active := by
    rw [indexed.active, tally_erase stored, tally_insert, same]
  ordered := indexed.ordered
  listed other := by
    rw [indexed.listed]
    by_cases isHandle : other = handle
    · subst isHandle
      simp [stored, same]
    · simp [AList.lookup_insert_ne isHandle]

variable {entries : HashMap String InvocationEntry} {next : InvocationRegistry} {action : RegistryAction}
  {active : ℕ} {order : List String}

theorem Indexed.dropOldest (indexed : Indexed ⟨entries, handle :: order, active⟩) :
    Indexed ⟨entries.erase handle, order, active⟩ := by
  obtain ⟨entry, stored, ended⟩ := (indexed.listed handle).mp List.mem_cons_self
  have unrepeated := List.nodup_cons.mp indexed.ordered
  refine ⟨?_, unrepeated.2, fun other => ?_⟩
  · have counted := indexed.active
    rw [tally_erase stored] at counted
    simpa [ended] using counted
  · by_cases isHandle : other = handle
    · subst isHandle
      simp [unrepeated.1, AList.lookup_erase]
    · have listed := indexed.listed other
      simp only [List.mem_cons, isHandle, false_or] at listed
      rw [AList.lookup_erase_ne isHandle]
      exact listed

theorem evictOldest_indexed (indexed : Indexed ⟨entries, order, active⟩) :
    Indexed ⟨(evictOldest entries order).1, (evictOldest entries order).2, active⟩ ∧
      (evictOldest entries order).2.length ≤ maxRetainedInvocations := by
  induction order generalizing entries with
  | nil => exact ⟨indexed, Nat.zero_le _⟩
  | cons handle order ih =>
    rw [evictOldest]
    split
    next => exact ih indexed.dropOldest
    next bounded => exact ⟨indexed, by simpa using bounded⟩

/-! ## Every operation keeps the invariant -/

theorem Coherent.insert {registry inserted : InvocationRegistry} (coherent : Coherent registry)
    {cancellation : CancellationToken} (fresh : handle ∉ registry.entries)
    (accepted : registry.insert handle cancellation = .ok inserted) : Coherent inserted := by
  simp only [InvocationRegistry.insert] at accepted
  split at accepted
  next => contradiction
  next room =>
    cases accepted
    refine ⟨⟨?_, coherent.ordered, fun other => ?_⟩, Nat.lt_of_not_le room, coherent.retained⟩
    · rw [tally_insert_of_notMem fresh, coherent.active]
      rfl
    · rw [coherent.listed]
      by_cases isHandle : other = handle
      · subst isHandle
        simp [AList.lookup_eq_none.mpr fresh, InvocationEntry.terminal, isTerminalStatus]
      · simp [AList.lookup_insert_ne isHandle]

theorem Coherent.update (coherent : Coherent registry)
    (handle : InvocationHandle) (status : InvocationStatus) (output : Option InvocationOutput)
    (error : Option String) : Coherent (registry.update handle status output error) := by
  rcases update_cases registry handle status output error with
    ⟨same, _⟩ | ⟨entry, stored, running, ⟨pending, updated⟩ | ⟨ends, updated⟩⟩
  · rwa [same]
  · rw [updated]
    exact ⟨coherent.toIndexed.overwrite stored (by simp [pending, running]),
      coherent.inFlight, coherent.retained⟩
  · rw [updated]
    have counted := coherent.active
    rw [tally_erase stored, running] at counted
    have indexed : Indexed
        ⟨registry.entries.insert handle (entry.setPoll status output error).announce,
          registry.terminalOrder ++ [handle], registry.activeCount - 1⟩ := by
      have unlisted : handle ∉ registry.terminalOrder := by
        simp [coherent.listed, stored, running]
      refine ⟨?_, ?_, fun other => ?_⟩
      · simp [tally_insert, ends, counted]
      · exact List.nodup_append.mpr ⟨coherent.ordered, List.nodup_singleton handle,
          by rintro _ listed _ (⟨⟩ | ⟨_, ⟨⟩⟩) rfl; exact unlisted listed⟩
      · by_cases isHandle : other = handle
        · subst isHandle
          simp [ends]
        · simp [isHandle, AList.lookup_insert_ne isHandle, coherent.listed]
    obtain ⟨evicted, retained⟩ := evictOldest_indexed indexed
    exact ⟨evicted, Nat.le_trans (Nat.sub_le _ _) coherent.inFlight, retained⟩

theorem Coherent.remove (coherent : Coherent registry)
    (handle : InvocationHandle) : Coherent (registry.remove handle) := by
  refine ⟨⟨?_, coherent.ordered.filter _, fun other => ?_⟩, ?_,
    Nat.le_trans (List.length_filter_le _ _) coherent.retained⟩
  · simp only [InvocationRegistry.remove]
    cases stored : registry.entries.lookup handle with
    | none =>
      rw [tally_erase_of_notMem (AList.lookup_eq_none.mp stored)]
      exact coherent.active
    | some entry =>
      have counted := coherent.active
      rw [tally_erase stored] at counted
      cases ended : entry.terminal <;> simp [ended] at counted ⊢ <;> omega
  · by_cases isHandle : other = handle
    · subst isHandle
      simp [InvocationRegistry.remove, AList.lookup_erase]
    · simp [InvocationRegistry.remove, isHandle, AList.lookup_erase_ne isHandle, coherent.listed]
  · have bounded := coherent.inFlight
    simp only [InvocationRegistry.remove]
    split
    · split <;> omega
    · exact bounded

theorem Coherent.pushProviderEvent (coherent : Coherent registry)
    (handle : InvocationHandle) (event : ProviderEvent) :
    Coherent (registry.pushProviderEvent handle event) := by
  rcases pushProviderEvent_cases registry handle event with
    same | ⟨entry, data, stored, _, _, pushed⟩
  · rwa [same]
  · rw [pushed]
    exact ⟨coherent.toIndexed.overwrite stored (by simp), coherent.inFlight, coherent.retained⟩

theorem Coherent.drainEvents (coherent : Coherent registry)
    (handle : InvocationHandle) : Coherent (registry.drainEvents handle).2 := by
  cases stored : registry.entries.lookup handle with
  | none => simpa [InvocationRegistry.drainEvents, stored] using coherent
  | some entry =>
    rw [drainEvents_of_lookup stored]
    exact ⟨coherent.toIndexed.overwrite stored rfl, coherent.inFlight, coherent.retained⟩

theorem Coherent.take (coherent : Coherent registry)
    (handle : InvocationHandle) : Coherent (registry.take handle).2 := by
  cases stored : registry.entries.lookup handle with
  | none => simpa [InvocationRegistry.take, InvocationRegistry.poll, stored] using coherent
  | some entry =>
    rw [take_of_lookup stored]
    cases entry.terminal with
    | false => exact coherent
    | true => exact coherent.remove handle

theorem Coherent.perform (coherent : Coherent registry) (performed : registry.perform action = some next) :
    Coherent next := by
  cases action with
  | insert handle cancellation =>
    simp only [InvocationRegistry.perform] at performed
    split at performed
    next => contradiction
    next fresh =>
      split at performed
      next inserted accepted =>
        cases performed
        exact coherent.insert fresh accepted
      next =>
        cases performed
        exact coherent
  | update handle status output error => cases performed; exact coherent.update ..
  | pushProviderEvent handle event => cases performed; exact coherent.pushProviderEvent ..
  | drainEvents handle => cases performed; exact coherent.drainEvents handle
  | poll _ => cases performed; exact coherent
  | take handle => cases performed; exact coherent.take handle
  | remove handle => cases performed; exact coherent.remove handle

theorem coherent_of_reachable (reachable : machine.Reachable Machine.always registry) : Coherent registry :=
  reachable.invariant (by rintro _ rfl; exact coherent_empty) fun _ _ _ holds _ performed => holds.perform performed

/-! ## A finished invocation keeps its result -/

/-- The operations that do not start another invocation under `handle`. -/
def Keeps (handle : InvocationHandle) (_ : InvocationRegistry) : RegistryAction → Prop
  | .insert inserted _ => inserted ≠ handle
  | _ => True

/-- The entry of `handle` is gone or still reports `poll`. -/
def Reports (handle : InvocationHandle) (poll : InvocationPoll) (registry : InvocationRegistry) : Prop :=
  ∀ entry, registry.entries.lookup handle = some entry → entry.poll = poll

variable {poll : InvocationPoll}

theorem Reports.erase {handle erased : InvocationHandle}
    (reports : Reports handle poll registry) (order : List String)
    (active : ℕ) : Reports handle poll ⟨registry.entries.erase erased, order, active⟩ := by
  intro entry stored
  by_cases isErased : handle = erased
  · subst isErased
    simp [AList.lookup_erase] at stored
  · exact reports entry (by rwa [AList.lookup_erase_ne isErased] at stored)

theorem Reports.insert {handle inserted : InvocationHandle}
    (reports : Reports handle poll registry) {entry : InvocationEntry}
    (same : inserted = handle → entry.poll = poll) (order : List String) (active : ℕ) :
    Reports handle poll ⟨registry.entries.insert inserted entry, order, active⟩ := by
  intro found stored
  by_cases isInserted : handle = inserted
  · subst isInserted
    simp only [AList.lookup_insert, Option.some.injEq] at stored
    exact stored ▸ same rfl
  · exact reports found (by rwa [AList.lookup_insert_ne isInserted] at stored)

theorem Reports.evictOldest
    (order : List String) (reports : Reports handle poll ⟨entries, order, active⟩) : Reports handle poll
      ⟨(InvocationRegistry.evictOldest entries order).1, (InvocationRegistry.evictOldest entries order).2, active⟩ := by
  induction order generalizing entries with
  | nil => exact reports
  | cons oldest order ih =>
    rw [InvocationRegistry.evictOldest]
    split
    next => exact ih (reports.erase order active)
    next => exact reports

theorem Reports.perform (ended : isTerminalStatus poll.status = true) (reports : Reports handle poll registry)
    (keeps : Keeps handle registry action) (performed : registry.perform action = some next) :
    Reports handle poll next := by
  -- an entry the operation overwrites is not the one of `handle`, or has not ended
  have running : ∀ {other entry}, registry.entries.lookup other = some entry →
      entry.terminal = false → other ≠ handle := by
    rintro other entry stored live rfl
    simp [InvocationEntry.terminal, reports entry stored, ended] at live
  cases action with
  | insert inserted cancellation =>
    simp only [InvocationRegistry.perform, InvocationRegistry.insert] at performed
    split at performed
    · contradiction
    · split at performed
      next accepted =>
        split at accepted
        · contradiction
        · cases accepted
          cases performed
          exact reports.insert (fun same => absurd same keeps) _ _
      next =>
        cases performed
        exact reports
  | update updated status output error =>
    cases performed
    rcases update_cases registry updated status output error with
      ⟨same, _⟩ | ⟨entry, stored, live, ⟨_, result⟩ | ⟨_, result⟩⟩
    · rwa [same]
    · rw [result]
      exact reports.insert (fun same => absurd same (running stored live)) _ _
    · rw [result]
      exact Reports.evictOldest _
        (reports.insert (fun same => absurd same (running stored live)) _ _)
  | pushProviderEvent updated event =>
    cases performed
    rcases pushProviderEvent_cases registry updated event with
      same | ⟨entry, data, stored, live, _, result⟩
    · rwa [same]
    · rw [result]
      exact reports.insert (fun same => absurd same
        (running stored (by simp [InvocationEntry.terminal, live, isTerminalStatus]))) _ _
  | drainEvents drained =>
    cases performed
    cases stored : registry.entries.lookup drained with
    | none => simpa [InvocationRegistry.drainEvents, stored] using reports
    | some entry =>
      rw [drainEvents_of_lookup stored]
      have same : drained = handle → { entry with events := [] }.poll = poll := by
        intro isHandle
        exact reports entry (isHandle ▸ stored)
      exact reports.insert same _ _
  | poll _ => cases performed; exact reports
  | take taken =>
    cases performed
    cases stored : registry.entries.lookup taken with
    | none => simpa [InvocationRegistry.take, InvocationRegistry.poll, stored] using reports
    | some entry =>
      rw [take_of_lookup stored]
      cases entry.terminal with
      | false => exact reports
      | true => exact reports.erase _ _
  | remove removed => cases performed; exact reports.erase _ _

/-- In every registry that operations reach from the empty one, the counter counts the
    entries that have not ended and stays within 64, the queue lists exactly the handles of
    the ended entries, once each and at most 256 of them, and an ended entry reports the
    same poll result through every further operation, for as long as it is stored. -/
theorem registry_coherent (registry : InvocationRegistry) (reachable : machine.Reachable Machine.always registry) :
    (registry.activeCount = tally (fun entry => !isTerminalStatus entry.poll.status) registry.entries ∧
      registry.activeCount ≤ maxInFlightInvocations) ∧
    (registry.terminalOrder.Nodup ∧ registry.terminalOrder.length ≤ maxRetainedInvocations ∧
      ∀ handle, handle ∈ registry.terminalOrder ↔
        ∃ entry, registry.entries.lookup handle = some entry ∧
          isTerminalStatus entry.poll.status = true) ∧
    ∀ handle entry, registry.entries.lookup handle = some entry →
      isTerminalStatus entry.poll.status = true →
      ∀ later, machine.RunsTo (Keeps handle) registry later →
        ∀ kept, later.entries.lookup handle = some kept → kept.poll = entry.poll := by
  have coherent := coherent_of_reachable reachable
  refine ⟨⟨coherent.active, coherent.inFlight⟩,
    ⟨coherent.ordered, coherent.retained, coherent.listed⟩, ?_⟩
  intro handle entry stored ended later run
  have reports : Reports handle entry.poll registry := by
    intro found same
    rw [stored, Option.some.injEq] at same
    rw [same]
  exact run.preserves (fun _ _ _ holds keeps performed => holds.perform ended keeps performed) reports

/-- A run with a cancelled invocation, which reports its end for as long as it is stored. -/
theorem registry_coherent_run :
    ∃ registry entry, machine.Reachable Machine.always registry ∧ registry.activeCount = 1 ∧
      registry.entries.lookup "invocation-1" = some entry ∧ entry.poll.status = .cancelled ∧
      ∀ later, machine.RunsTo (Keeps "invocation-1") registry later →
        ∀ kept, later.entries.lookup "invocation-1" = some kept → kept.poll = entry.poll := by
  obtain ⟨registry, reachable, passes⟩ := Machine.reachable_of_execute machine Machine.always rfl
    ([.insert "invocation-1" ⟨0⟩, .insert "invocation-2" ⟨1⟩,
      .update "invocation-1" .running none none, .update "invocation-1" .cancelled none none])
    (fun registry => decide (registry.activeCount = 1 ∧
      (registry.entries.lookup "invocation-1").map (·.poll.status) = some .cancelled))
    (by decide +kernel)
  obtain ⟨active, status⟩ := of_decide_eq_true passes
  obtain ⟨entry, stored, cancelled⟩ := Option.map_eq_some_iff.mp status
  refine ⟨registry, entry, reachable, active, stored, cancelled, ?_⟩
  exact (registry_coherent registry reachable).2.2 "invocation-1" entry stored (by rw [cancelled]; rfl)

end InvocationRegistry

end Vifu.Runtime
