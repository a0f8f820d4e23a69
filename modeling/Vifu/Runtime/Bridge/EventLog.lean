import Vifu.Foundation.BoundedLog
import Vifu.Runtime.Bridge.Machine

/-!
# Logs of invocation events

The log of a queue holds every event that the queue was given.  Recording an event keeps the
account of what was drained and what is queued, and an invocation's log ends with the one
event that reports its end.
-/

namespace Vifu.Runtime

open Foundation

/-! ## Histories that have ended -/

def Unfinished (events : List InvocationEvent) : Prop := ∀ event ∈ events, event.kind.terminal = false

/-- The last event, and no other, reports the end. -/
def Finished (events : List InvocationEvent) : Prop :=
  ∃ earlier last, events = earlier ++ [last] ∧ last.kind.terminal = true ∧ Unfinished earlier

/-- The events returned for a handle are those recorded for it: in order and without
    repetition, none missing but those its queue discarded at 256, and the terminal event
    among them, at the end. -/
structure Complete (log : EventLog) (returned : List InvocationEvent) : Prop where
  accounted : Accounted log.recorded log.overflowed returned
  finished : Finished log.recorded
  terminal : Finished returned

/-- Whenever a handle was removed from the active invocations, its events had been returned. -/
def Delivered (state : BridgeState) : Prop :=
  ∀ handle ∈ state.removed, Complete (state.logs handle) (state.returned handle)

namespace EventLog

variable {log : EventLog} {entry : InvocationEntry} {kind : InvocationEventKind} {read : List InvocationEvent}

theorem coalesced_kind {data : Option InvocationData} {merged : InvocationEvent}
    (coalesces : entry.coalesced kind data = some merged) : kind = .outputDelta ∧ merged.kind = .outputDelta ∧
      ∃ earlier last, entry.events = earlier ++ [last] := by
  obtain ⟨last, isLast, coalesces⟩ := Option.bind_eq_some_iff.mp coalesces
  refine ⟨?_, ?_, List.getLast?_eq_some_iff.mp isLast |>.imp fun earlier ends => ⟨last, ends⟩⟩
  all_goals
    unfold coalesce at coalesces
    split at coalesces
    · obtain ⟨data, _, rfl⟩ := Option.map_eq_some_iff.mp coalesces
      first | rfl | assumption
    · contradiction

theorem record_accounted (kind : InvocationEventKind) (data : Option InvocationData) (error : Option String)
    (accounted : Accounted log.recorded log.overflowed (read ++ entry.events)) :
    Accounted (log.record entry kind data error).recorded (log.record entry kind data error).overflowed
      (read ++ (entry.pushEvent kind data error).events) := by
  cases coalesces : entry.coalesced kind data with
  | some merged =>
    obtain ⟨_, _, earlier, last, events⟩ := coalesced_kind coalesces
    simp only [record, InvocationEntry.pushEvent, coalesces, events, List.dropLast_concat]
    rw [events, ← List.append_assoc] at accounted
    simpa [List.append_assoc] using accounted.replaceLast merged
  | none =>
    simp only [record, InvocationEntry.pushEvent, coalesces, List.length_append, List.length_singleton]
    have appended := accounted.append (entry.nextEvent kind data error)
    rw [List.append_assoc] at appended
    by_cases full : maxRetainedInvocationEvents ≤ entry.events.length
    · rw [decide_eq_true full, Bool.or_true]
      refine appended.discard ?_
      simp only [List.length_append, List.length_singleton, maxRetainedInvocationEvents]
      omega
    · rw [decide_eq_false full, Bool.or_false, Nat.sub_eq_zero_of_le (by omega), List.drop_zero]
      exact appended

theorem record_unfinished (running : kind.terminal = false)
    (data : Option InvocationData) (error : Option String) (unfinished : Unfinished log.recorded) :
    Unfinished (log.record entry kind data error).recorded := by
  intro event mem
  unfold record at mem
  split at mem
  next merged coalesces =>
    obtain ⟨_, mergedKind, _⟩ := coalesced_kind coalesces
    rcases List.mem_append.mp mem with earlier | isMerged
    · exact unfinished event ((List.dropLast_sublist _).subset earlier)
    · rw [List.mem_singleton.mp isMerged, mergedKind]
      rfl
  next =>
    rcases List.mem_append.mp mem with earlier | isNew
    · exact unfinished event earlier
    · rw [List.mem_singleton.mp isNew]
      exact running

theorem record_finished (ends : kind.terminal = true)
    (data : Option InvocationData) (error : Option String) (unfinished : Unfinished log.recorded) :
    Finished (log.record entry kind data error).recorded := by
  have single : entry.coalesced kind data = none := by
    cases coalesces : entry.coalesced kind data with
    | none => rfl
    | some merged =>
      obtain ⟨rfl, _⟩ := coalesced_kind coalesces
      cases ends
  exact ⟨log.recorded, entry.nextEvent kind data error, by simp [record, single], ends, unfinished⟩

theorem statusEvent_terminal (entry : InvocationEntry) : (entry.statusEvent = none ∧ entry.terminal = false) ∨
    ∃ kind data error, entry.statusEvent = some (kind, data, error) ∧ kind.terminal = entry.terminal := by
  unfold InvocationEntry.statusEvent InvocationEntry.terminal
  cases entry.poll.status with
  | pending => exact .inl ⟨rfl, rfl⟩
  | running | completed | failed | cancelled => exact .inr ⟨_, _, _, rfl, rfl⟩

theorem announce_accounted (accounted : Accounted log.recorded log.overflowed (read ++ entry.events)) :
    Accounted (log.announce entry).recorded (log.announce entry).overflowed
      (read ++ entry.announce.events) := by
  cases event : entry.statusEvent with
  | none => simpa only [announce, InvocationEntry.announce, event] using accounted
  | some pushed =>
    simp only [announce, InvocationEntry.announce, event]
    exact record_accounted _ _ _ accounted

theorem announce_unfinished (running : entry.terminal = false) (unfinished : Unfinished log.recorded) :
    Unfinished (log.announce entry).recorded := by
  rcases statusEvent_terminal entry with ⟨silent, _⟩ | ⟨kind, data, error, event, same⟩
  · simpa [announce, silent] using unfinished
  · simp only [announce, event]
    exact record_unfinished (same.trans running) data error unfinished

theorem announce_finished (ends : entry.terminal = true) (unfinished : Unfinished log.recorded) :
    Finished (log.announce entry).recorded := by
  rcases statusEvent_terminal entry with ⟨_, running⟩ | ⟨kind, data, error, event, same⟩
  · rw [running] at ends
    cases ends
  · simp only [announce, event]
    exact record_finished (same.trans ends) data error unfinished

end EventLog

theorem Complete.of_accounted {log : EventLog} {returned : List InvocationEvent}
    (accounted : Accounted log.recorded log.overflowed returned) (finished : Finished log.recorded) :
    Complete log returned := by
  refine ⟨accounted, finished, ?_⟩
  obtain ⟨earlier, last, recorded, ends, unfinished⟩ := finished
  have keepsLast : returned.getLast? = some last := by simp [accounted.last, recorded]
  have split := List.dropLast_append_getLast? last keepsLast
  refine ⟨returned.dropLast, last, split.symm, ends, fun event mem => unfinished event ?_⟩
  have inOrder := accounted.inOrder
  rw [recorded, ← split] at inOrder
  exact ((List.append_sublist_append_right [last]).mp inOrder).subset mem

end Vifu.Runtime
