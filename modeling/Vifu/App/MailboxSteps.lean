import Vifu.App.Mailbox

/-!
# What a step of the mailbox does

Every step of a sender or of the receiver with its guards, and with the queue written out around the entry that
the step touches.
-/

namespace Vifu.App

open Foundation
open Vifu.Gateway

namespace Mailbox

variable {capacity : ℕ} {queue : List Entry} {event : RuntimeEvent} {index : ℕ}

/-! ## What a send decides -/

theorem split_of_findIdx? {wanted : Entry → Bool} (found : queue.findIdx? wanted = some index) :
    ∃ before queued after, queue = before ++ queued :: after ∧ before.length = index ∧ wanted queued = true := by
  obtain ⟨inRange, isWanted, _⟩ := List.findIdx?_eq_some_iff_getElem.mp found
  refine ⟨queue.take index, queue[index], queue.drop (index + 1), ?_, ?_, isWanted⟩
  · rw [← List.drop_eq_getElem_cons inRange, List.take_append_drop]
  · rw [List.length_take, Nat.min_eq_left (Nat.le_of_lt inRange)]

theorem decision_append (room : queue.length ≠ capacity) : decision capacity queue event = .append := by
  simp [decision, room]

theorem room_of_append (decided : decision capacity queue event = .append) : queue.length ≠ capacity := by
  intro full
  simp only [decision, ne_eq, full, not_true_eq_false, if_false] at decided
  repeat' split at decided
  all_goals cases decided

theorem queued_of_replace (decided : decision capacity queue event = .replace index) :
    ∃ before queued after, queue = before ++ queued :: after ∧ before.length = index ∧
      eventCoalescingKey queued.event = eventCoalescingKey event := by
  by_cases full : queue.length = capacity
  · simp only [decision, ne_eq, full, not_true_eq_false, if_false] at decided
    cases found : queue.findIdx? fun queued => eventCoalescingKey queued.event == eventCoalescingKey event with
    | some position =>
      obtain ⟨before, queued, after, isQueue, length, same⟩ := split_of_findIdx? found
      simp only [found, Decision.replace.injEq] at decided
      exact ⟨before, queued, after, isQueue, length.trans decided, by simpa using same⟩
    | none =>
      simp only [found] at decided
      repeat' split at decided
      all_goals cases decided
  · rw [decision_append full] at decided
    cases decided

theorem queued_of_evict (decided : decision capacity queue event = .evict index) :
    queue.length = capacity ∧ ∃ before queued after, queue = before ++ queued :: after ∧ before.length = index ∧
      eventRequiresDelivery queued.event = false := by
  by_cases full : queue.length = capacity
  · refine ⟨full, ?_⟩
    simp only [decision, ne_eq, full, not_true_eq_false, if_false] at decided
    cases same : queue.findIdx? fun queued => eventCoalescingKey queued.event == eventCoalescingKey event with
    | some position =>
      rw [same] at decided
      cases decided
    | none =>
      cases found : queue.findIdx? fun queued => !eventRequiresDelivery queued.event with
      | some position =>
        obtain ⟨before, queued, after, isQueue, length, spare⟩ := split_of_findIdx? found
        have isIndex : position = index := by
          simp only [same, found] at decided
          repeat' split at decided
          all_goals cases decided
          all_goals rfl
        exact ⟨before, queued, after, isQueue, length.trans isIndex, by simpa using spare⟩
      | none =>
        simp only [same, found] at decided
        repeat' split at decided
        all_goals cases decided
  · rw [decision_append full] at decided
    cases decided

theorem full_of_refuse {accepted : Bool} (decided : decision capacity queue event = .refuse accepted) :
    queue.length = capacity ∧ (accepted = true → eventRequiresDelivery event = false) := by
  by_cases full : queue.length = capacity
  · refine ⟨full, ?_⟩
    simp only [decision, ne_eq, full, not_true_eq_false, if_false] at decided
    cases requires : eventRequiresDelivery event with
    | false => exact fun _ => rfl
    | true =>
      simp only [requires, if_true] at decided
      repeat' split at decided
      all_goals cases decided
      intro isAccepted
      cases isAccepted
  · rw [decision_append full] at decided
    cases decided

/-! ## Steps and their guards -/

inductive Moves : Action → ReceiverPhase → ReceiverPhase → Prop where
  | recv : Moves .recv .idle .recvSwap
  | tryRecv : Moves .tryRecv .idle .tryPop
  | wake : Moves .wake .awaiting .recvSwap
  | cancelRecv : Moves .cancelRecv .awaiting .idle

/-- Where the receiver takes the drops, and where it goes on if there are none. -/
inductive Swaps : ReceiverPhase → ReceiverPhase → Prop where
  | recv : Swaps .recvSwap .recvPop
  | tryRecv : Swaps .trySwap .tryCount

/-- Where it takes an event, and where it goes on if there is none. -/
inductive Pops : ReceiverPhase → ReceiverPhase → Prop where
  | recv : Pops .recvPop .recvCount
  | tryRecv : Pops .tryPop .trySwap

/-- Where it reads the number of senders, and where it goes on if there are some. -/
inductive Counts : ReceiverPhase → ReceiverPhase → Prop where
  | recv : Counts .recvCount .awaiting
  | tryRecv : Counts .tryCount .idle

/-- Counting a drop with the lock held. -/
inductive Tallies : Section → SendPhase → Prop where
  | push : Tallies .countAndPush (.holding .push)
  | return (accepted : Bool) : Tallies (.countAndReturn accepted) (.returned accepted)

inductive Steps (state : Mailbox) : Action → Mailbox → Prop where
  | clone (handle : ℕ) (alive : state.handles[handle]? = some true) :
    Steps state (.clone handle) { state with handles := state.handles ++ [true] }
  | dropSender (handle : ℕ) (alive : state.handles[handle]? = some true)
    (free : ∀ send ∈ state.sends, send.isActive = true → send.handle ≠ handle) :
    Steps state (.dropSender handle) { state with handles := state.handles.set handle false }
  | send (handle : ℕ) (event : RuntimeEvent) (alive : state.handles[handle]? = some true) :
    Steps state (.send handle event) (state.beginSend handle event)
  | append (ticket : ℕ) (send : Send) (stored : state.sends[ticket]? = some send) (entering : send.phase = .entering)
    (unlocked : state.locked = false) (room : state.queue.length ≠ state.capacity) :
    Steps state (.advanceSend ticket)
      { state with
        turns := state.turns + 1
        sends := state.sends.set ticket { send with turn := state.turns, phase := .holding .push } }
  | replace (ticket : ℕ) (send : Send) (before after : List Entry) (queued : Entry)
    (stored : state.sends[ticket]? = some send) (entering : send.phase = .entering) (unlocked : state.locked = false)
    (isQueue : state.queue = before ++ queued :: after)
    (same : eventCoalescingKey queued.event = eventCoalescingKey send.event) :
    Steps state (.advanceSend ticket)
      { state with
        turns := state.turns + 1
        queue := before ++ { queued with ticket, event := send.event } :: after
        replaced := state.replaced ++ [(queued.ticket, ticket)]
        sends := state.sends.set ticket { send with turn := state.turns, phase := .returned true } }
  | evict (ticket : ℕ) (send : Send) (before after : List Entry) (queued : Entry)
    (stored : state.sends[ticket]? = some send) (entering : send.phase = .entering) (unlocked : state.locked = false)
    (full : state.queue.length = state.capacity) (isQueue : state.queue = before ++ queued :: after)
    (spare : eventRequiresDelivery queued.event = false) :
    Steps state (.advanceSend ticket)
      { state with
        turns := state.turns + 1
        queue := before ++ after
        lost := state.lost ++ [queued.ticket]
        sends := state.sends.set ticket { send with turn := state.turns, phase := .holding .countAndPush } }
  | refuse (ticket : ℕ) (send : Send) (accepted : Bool) (stored : state.sends[ticket]? = some send)
    (entering : send.phase = .entering) (unlocked : state.locked = false)
    (full : state.queue.length = state.capacity)
    (spare : accepted = true → eventRequiresDelivery send.event = false) :
    Steps state (.advanceSend ticket)
      { state with
        turns := state.turns + 1
        lost := state.lost ++ [ticket]
        sends := state.sends.set ticket
          { send with turn := state.turns, phase := .holding (.countAndReturn accepted) } }
  | count (ticket : ℕ) (send : Send) (step : Section) (phase : SendPhase)
    (stored : state.sends[ticket]? = some send) (holding : send.phase = .holding step) (tallies : Tallies step phase) :
    Steps state (.advanceSend ticket) (state.count ticket send phase)
  | push (ticket : ℕ) (send : Send) (stored : state.sends[ticket]? = some send)
    (holding : send.phase = .holding .push) :
    Steps state (.advanceSend ticket) (state.push ticket send)
  | move (action : Action) (phase : ReceiverPhase) (moves : Moves action state.receiver phase) :
    Steps state action { state with receiver := phase }
  | report (phase : ReceiverPhase) (swaps : Swaps state.receiver phase) (some : 0 < state.droppedEvents) :
    Steps state .advanceReceiver
      { state with droppedEvents := 0, reported := state.reported + state.droppedEvents, receiver := .idle }
  | swap (phase : ReceiverPhase) (swaps : Swaps state.receiver phase) (none : state.droppedEvents = 0) :
    Steps state .advanceReceiver { state with receiver := phase }
  | take (phase : ReceiverPhase) (entry : Entry) (queue : List Entry) (pops : Pops state.receiver phase)
    (unlocked : state.locked = false) (isQueue : state.queue = entry :: queue) :
    Steps state .advanceReceiver
      { state with queue, received := state.received ++ [entry], receiver := .idle }
  | pop (phase : ReceiverPhase) (pops : Pops state.receiver phase) (unlocked : state.locked = false)
    (empty : state.queue = []) : Steps state .advanceReceiver { state with receiver := phase }
  | disconnect (phase : ReceiverPhase) (counts : Counts state.receiver phase) (none : state.senders = 0) :
    Steps state .advanceReceiver { state with closed := true, receiver := .idle }
  | countSenders (phase : ReceiverPhase) (counts : Counts state.receiver phase) (some : state.senders ≠ 0) :
    Steps state .advanceReceiver { state with receiver := phase }
  | dropReceiver (idle : state.receiver = .idle) :
    Steps state .dropReceiver { state with receiverAlive := false }

variable {state next : Mailbox} {phase : ReceiverPhase} {action : Action} {send : Send} {ticket : ℕ}

theorem goOn_cases {source target : ReceiverPhase} (moves : Moves action source target)
    (stepped : state.goOn source target = some next) : Steps state action next := by
  simp only [goOn] at stepped
  obtain ⟨guard, ⟨⟩⟩ := Option.ite_none_right_eq_some.mp stepped
  exact .move action target (by rw [guard.1]; exact moves)

theorem enter_cases (stored : state.sends[ticket]? = some send)
    (entering : send.phase = .entering) (unlocked : state.locked = false) :
    Steps state (.advanceSend ticket) (state.enter ticket send) := by
  cases decided : decision state.capacity state.queue send.event with
  | append =>
    simp only [enter, decided]
    exact .append ticket send stored entering unlocked (room_of_append decided)
  | replace index =>
    obtain ⟨before, queued, after, isQueue, length, same⟩ := queued_of_replace decided
    have found : state.queue[index]? = some queued := by simp [isQueue, ← length]
    have modified : (state.queue.modify index fun queued => { queued with ticket, event := send.event }) =
        before ++ { queued with ticket, event := send.event } :: after := by
      rw [List.modify_eq_take_cons_drop (by simp [isQueue, ← length])]
      simp [isQueue, ← length, List.drop_append]
    simp only [enter, decided, found, modified]
    exact .replace ticket send before after queued stored entering unlocked isQueue same
  | evict index =>
    obtain ⟨full, before, queued, after, isQueue, length, spare⟩ := queued_of_evict decided
    have found : state.queue[index]? = some queued := by simp [isQueue, ← length]
    have erased : state.queue.eraseIdx index = before ++ after := by
      simp [isQueue, ← length, List.eraseIdx_append_of_length_le]
    simp only [enter, decided, found, erased]
    exact .evict ticket send before after queued stored entering unlocked full isQueue spare
  | refuse accepted =>
    obtain ⟨full, spare⟩ := full_of_refuse decided
    simp only [enter, decided]
    exact .refuse ticket send accepted stored entering unlocked full spare

theorem advanceSend_cases (stored : state.sends[ticket]? = some send)
    (stepped : state.advanceSend ticket send = some next) : Steps state (.advanceSend ticket) next := by
  cases phase : send.phase with
  | entering =>
    simp only [advanceSend, phase] at stepped
    split at stepped
    next => cases stepped
    next unlocked =>
      cases stepped
      exact enter_cases stored phase (by simpa using unlocked)
  | holding step =>
    cases step with
    | push =>
      simp only [advanceSend, phase, Option.some.injEq] at stepped
      subst stepped
      exact .push ticket send stored phase
    | countAndPush =>
      simp only [advanceSend, phase, Option.some.injEq] at stepped
      subst stepped
      exact .count ticket send .countAndPush (.holding .push) stored phase .push
    | countAndReturn accepted =>
      simp only [advanceSend, phase, Option.some.injEq] at stepped
      subst stepped
      exact .count ticket send (.countAndReturn accepted) (.returned accepted) stored phase (.return accepted)
  | returned accepted =>
    simp only [advanceSend, phase] at stepped
    cases stepped

theorem swap_cases (swaps : Swaps state.receiver phase) : Steps state .advanceReceiver (state.swap phase) := by
  by_cases some : 0 < state.droppedEvents
  · simp only [swap, some, if_true]
    exact .report phase swaps some
  · have none : state.droppedEvents = 0 := by omega
    have unchanged : state.swap phase = { state with receiver := phase } := by
      simp [swap, none]
    exact unchanged ▸ .swap phase swaps none

theorem pop_cases (pops : Pops state.receiver phase)
    (popped : (if state.locked then none else some (state.pop phase)) = some next) :
    Steps state .advanceReceiver next := by
  split at popped
  next => cases popped
  next unlocked =>
    cases popped
    cases queue : state.queue with
    | nil =>
      have unchanged : state.pop phase = { state with receiver := phase } := by
        simp only [pop, queue]
      exact unchanged ▸ .pop phase pops (by simpa using unlocked) queue
    | cons entry rest =>
      simp only [pop, queue]
      exact .take phase entry rest pops (by simpa using unlocked) queue

theorem countSenders_cases (counts : Counts state.receiver phase) :
    Steps state .advanceReceiver (state.countSenders phase) := by
  by_cases none : state.senders = 0
  · simp only [countSenders, none, if_true]
    exact .disconnect phase counts none
  · simp only [countSenders, none, if_false]
    exact .countSenders phase counts none

theorem advanceReceiver_cases (stepped : state.advanceReceiver = some next) : Steps state .advanceReceiver next := by
  cases phase : state.receiver with
  | idle => simp [advanceReceiver, phase] at stepped
  | awaiting => simp [advanceReceiver, phase] at stepped
  | recvSwap =>
    simp only [advanceReceiver, phase, Option.some.injEq] at stepped
    exact stepped ▸ swap_cases (by rw [phase]; exact .recv)
  | trySwap =>
    simp only [advanceReceiver, phase, Option.some.injEq] at stepped
    exact stepped ▸ swap_cases (by rw [phase]; exact .tryRecv)
  | recvCount =>
    simp only [advanceReceiver, phase, Option.some.injEq] at stepped
    exact stepped ▸ countSenders_cases (by rw [phase]; exact .recv)
  | tryCount =>
    simp only [advanceReceiver, phase, Option.some.injEq] at stepped
    exact stepped ▸ countSenders_cases (by rw [phase]; exact .tryRecv)
  | recvPop =>
    simp only [advanceReceiver, phase] at stepped
    exact pop_cases (by rw [phase]; exact .recv) stepped
  | tryPop =>
    simp only [advanceReceiver, phase] at stepped
    exact pop_cases (by rw [phase]; exact .tryRecv) stepped

theorem steps_of_step (stepped : state.step action = some next) : Steps state action next := by
  cases action with
  | clone handle =>
    simp only [step] at stepped
    obtain ⟨alive, ⟨⟩⟩ := Option.ite_none_right_eq_some.mp stepped
    exact .clone handle alive
  | dropSender handle =>
    simp only [step] at stepped
    obtain ⟨guard, ⟨⟩⟩ := Option.ite_none_right_eq_some.mp stepped
    refine .dropSender handle guard.1 ?_
    intro send mem active isHandle
    exact List.any_eq_false.mp guard.2 send mem (by simp [active, isHandle])
  | send handle event =>
    simp only [step] at stepped
    obtain ⟨alive, ⟨⟩⟩ := Option.ite_none_right_eq_some.mp stepped
    exact .send handle event alive
  | advanceSend ticket =>
    obtain ⟨send, stored, advanced⟩ := Option.bind_eq_some_iff.mp stepped
    exact advanceSend_cases stored advanced
  | recv => exact goOn_cases .recv stepped
  | tryRecv => exact goOn_cases .tryRecv stepped
  | wake => exact goOn_cases .wake stepped
  | cancelRecv => exact goOn_cases .cancelRecv stepped
  | advanceReceiver => exact advanceReceiver_cases stepped
  | dropReceiver =>
    simp only [step] at stepped
    obtain ⟨idle, ⟨⟩⟩ := Option.ite_none_right_eq_some.mp stepped
    exact .dropReceiver idle

end Mailbox

end Vifu.App
