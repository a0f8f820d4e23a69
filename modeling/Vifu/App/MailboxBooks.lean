import Vifu.App.MailboxSteps

/-!
# The books of the mailbox

Every event that was sent has one fate: it is received, waits in the queue, was replaced by a later event with its
key, or was counted as dropped.  What remains is the end: the receiver finds the queue empty and reads the number of
senders later, so an event that the last sender pushes in between is left behind.
-/

namespace Vifu.App

open Foundation
open Vifu.Gateway

namespace Send

def willPush (send : Send) : Bool :=
  match send.phase with
  | .holding .push | .holding .countAndPush => true
  | _ => false

def isCounting (send : Send) : Bool :=
  match send.phase with
  | .holding .countAndPush | .holding (.countAndReturn _) => true
  | _ => false

def isRefusing (send : Send) : Bool :=
  match send.phase with
  | .holding (.countAndReturn _) => true
  | _ => false

end Send

namespace Mailbox

/-- The tickets of the events that are received, queued, replaced or dropped. -/
def fates (state : Mailbox) : List ℕ :=
  state.received.map Entry.ticket ++ state.queue.map Entry.ticket ++ state.replaced.map Prod.fst ++ state.lost

structure Books (state : Mailbox) : Prop where
  bounded : state.queue.length ≤ state.capacity
  once : ∀ (ticket : ℕ) (send : Send), state.sends[ticket]? = some send → send.phase = .returned true →
    state.fates.count ticket = 1
  content : ∀ entry ∈ state.received ++ state.queue, ∃ send, state.sends[entry.ticket]? = some send ∧
    send.event = entry.event
  inOrder : ((state.received ++ state.queue).map Entry.place).Pairwise (· < ·)
  replacedByLater : ∀ pair ∈ state.replaced, ∃ earlier later, state.sends[pair.1]? = some earlier ∧
    state.sends[pair.2]? = some later ∧ eventCoalescingKey earlier.event = eventCoalescingKey later.event ∧
    earlier.turn < later.turn
  counted : state.lost.length = state.droppedEvents + state.reported + state.sends.countP Send.isCounting
  lifecycle : ∀ ticket ∈ state.lost, ∀ send, state.sends[ticket]? = some send →
    eventRequiresDelivery send.event = true → send.phase ≠ .returned true
  atEnd : state.closed = true → state.queue = [] ∧ state.droppedEvents = 0

/-- The receiver has found the queue empty, and nothing but the number of senders decides what it answers. -/
def hasFoundNone (state : Mailbox) : Bool :=
  match state.receiver with
  | .recvCount | .tryCount => true
  | .trySwap => state.droppedEvents == 0
  | _ => false

/-- The last sender does not leave an event in the queue behind the receiver's back. -/
def LeavesNone (state : Mailbox) : Action → Prop
  | .dropSender _ => state.senders = 1 → state.hasFoundNone = true → state.queue = []
  | _ => True

instance : ∀ (state : Mailbox) (action : Action), Decidable (state.LeavesNone action) := by
  intro state action
  cases action
  case dropSender handle =>
    exact inferInstanceAs (Decidable (state.senders = 1 → state.hasFoundNone = true → state.queue = []))
  all_goals exact .isTrue trivial

variable {state next : Mailbox} {action : Action}

variable {send new : Send} {index : ℕ} {sends : List Send} {ticket index : ℕ}

theorem sends_set (found : (sends.set ticket new)[index]? = some send) :
    (index = ticket ∧ send = new) ∨ (index ≠ ticket ∧ sends[index]? = some send) := by
  rw [List.getElem?_set] at found
  split at found
  next same =>
    obtain ⟨-, ⟨⟩⟩ := Option.ite_none_right_eq_some.mp found
    exact .inl ⟨same.symm, rfl⟩
  next other => exact .inr ⟨fun same => other same.symm, found⟩

theorem sends_append (found : (sends ++ [new])[index]? = some send) :
    (index = sends.length ∧ send = new) ∨ sends[index]? = some send := by
  rw [List.getElem?_append] at found
  split at found
  next => exact .inr found
  next beyond =>
    rw [List.getElem?_singleton] at found
    obtain ⟨first, ⟨⟩⟩ := Option.ite_none_right_eq_some.mp found
    exact .inl ⟨by omega, rfl⟩

theorem not_holding (unlocked : state.locked = false)
    (found : state.sends[index]? = some send) : send.isHolding = false := by
  have none := List.any_eq_false.mp unlocked send (List.mem_of_getElem? found)
  simpa using none

theorem returned_stays (steps : Steps state action next) {accepted : Bool}
    (found : state.sends[index]? = some send) (returned : send.phase = .returned accepted) :
    next.sends[index]? = some send := by
  have aside : ∀ {ticket : ℕ} {old new : Send}, state.sends[ticket]? = some old →
      (∀ accepted, old.phase ≠ .returned accepted) → (state.sends.set ticket new)[index]? = some send := by
    intro ticket old new stored active
    rw [List.getElem?_set_ne, found]
    rintro rfl
    rw [stored] at found
    cases found
    exact active accepted returned
  cases steps with
  | send handle event => exact List.getElem?_append_left (List.getElem?_eq_some_iff.mp found).1 ▸ found
  | append ticket send stored entering => exact aside stored (by simp [entering])
  | replace ticket send before after queued stored entering => exact aside stored (by simp [entering])
  | evict ticket send before after queued stored entering => exact aside stored (by simp [entering])
  | refuse ticket send accepted stored entering => exact aside stored (by simp [entering])
  | count ticket send step phase stored holding => exact aside stored (by simp [holding])
  | push ticket send stored holding => exact aside stored (by simp [holding])
  | _ => exact found

/-! ## The lock -/

/-- At most one send has the lock, and what it found of the queue still holds. -/
structure Exclusive (state : Mailbox) : Prop where
  positive : 0 < state.capacity
  fits : state.queue.length ≤ state.capacity
  alive : ∀ (index : ℕ) (send : Send), state.sends[index]? = some send → send.isActive = true →
    state.handles[send.handle]? = some true
  alone : ∀ (index other : ℕ) (send sender : Send), state.sends[index]? = some send → state.sends[other]? = some sender →
    send.isHolding = true → sender.isHolding = true → index = other
  room : ∀ (index : ℕ) (send : Send), state.sends[index]? = some send → send.willPush = true →
    state.queue.length < state.capacity
  full : ∀ (index : ℕ) (send : Send), state.sends[index]? = some send → send.isRefusing = true →
    state.queue.length = state.capacity

theorem isHolding_of_willPush (willPush : send.willPush = true) : send.isHolding = true := by
  simp only [Send.willPush] at willPush
  simp only [Send.isHolding]
  split at willPush <;> simp_all

theorem isHolding_of_isRefusing (refusing : send.isRefusing = true) : send.isHolding = true := by
  simp only [Send.isRefusing] at refusing
  simp only [Send.isHolding]
  split at refusing <;> simp_all

theorem isActive_of_isHolding (holding : send.isHolding = true) : send.isActive = true := by
  simp only [Send.isHolding] at holding
  simp only [Send.isActive]
  split at holding <;> simp_all

theorem Exclusive.not_holding_of_ne (exclusive : Exclusive state) {send other : Send}
    (stored : state.sends[ticket]? = some send) (mine : send.isHolding = true ∨ state.locked = false)
    (isOther : index ≠ ticket) (found : state.sends[index]? = some other) : other.isHolding = false := by
  rcases mine with holding | unlocked
  · by_contra also
    exact isOther (exclusive.alone index ticket other send found stored (by simpa using also) holding)
  · exact not_holding unlocked found

variable {ticket : ℕ}

theorem Exclusive.goOn (exclusive : Exclusive state)
    (stored : state.sends[ticket]? = some send) (active : send.isActive = true)
    (mine : send.isHolding = true ∨ state.locked = false) (sends : next.sends = state.sends.set ticket new)
    (sameHandle : new.handle = send.handle) (capacity : next.capacity = state.capacity)
    (handles : next.handles = state.handles) (fits : next.queue.length ≤ state.capacity)
    (room : new.willPush = true → next.queue.length < state.capacity)
    (full : new.isRefusing = true → next.queue.length = state.capacity) : Exclusive next where
  positive := capacity ▸ exclusive.positive
  fits := capacity ▸ fits
  alive index other found isActive := by
    rw [sends] at found
    rw [handles]
    rcases sends_set found with ⟨_, rfl⟩ | ⟨_, found⟩
    · exact sameHandle ▸ exclusive.alive ticket send stored active
    · exact exclusive.alive index other found isActive
  alone index other holder sender found foundOther holds holdsOther := by
    rw [sends] at found foundOther
    rcases sends_set found with ⟨same, _⟩ | ⟨isOther, found⟩
    · rcases sends_set foundOther with ⟨sameOther, _⟩ | ⟨isOther, foundOther⟩
      · exact same.trans sameOther.symm
      · rw [exclusive.not_holding_of_ne stored mine isOther foundOther] at holdsOther
        cases holdsOther
    · rw [exclusive.not_holding_of_ne stored mine isOther found] at holds
      cases holds
  room index other found willPush := by
    rw [sends] at found
    rw [capacity]
    rcases sends_set found with ⟨_, rfl⟩ | ⟨isOther, found⟩
    · exact room willPush
    · have holding := isHolding_of_willPush willPush
      rw [exclusive.not_holding_of_ne stored mine isOther found] at holding
      cases holding
  full index other found refusing := by
    rw [sends] at found
    rw [capacity]
    rcases sends_set found with ⟨_, rfl⟩ | ⟨isOther, found⟩
    · exact full refusing
    · have holding := isHolding_of_isRefusing refusing
      rw [exclusive.not_holding_of_ne stored mine isOther found] at holding
      cases holding

theorem Exclusive.receive (exclusive : Exclusive state) (capacity : next.capacity = state.capacity)
    (handles : next.handles = state.handles) (sends : next.sends = state.sends)
    (shrinks : next.queue = state.queue ∨ state.locked = false ∧ next.queue.length ≤ state.queue.length) :
    Exclusive next where
  positive := capacity ▸ exclusive.positive
  fits := by
    rw [capacity]
    rcases shrinks with same | ⟨_, shorter⟩
    · exact same ▸ exclusive.fits
    · exact shorter.trans exclusive.fits
  alive := handles ▸ sends ▸ exclusive.alive
  alone := sends ▸ exclusive.alone
  room index send found willPush := by
    rw [sends] at found
    rw [capacity]
    rcases shrinks with same | ⟨unlocked, _⟩
    · exact same ▸ exclusive.room index send found willPush
    · have holding := isHolding_of_willPush willPush
      rw [not_holding unlocked found] at holding
      cases holding
  full index send found refusing := by
    rw [sends] at found
    rw [capacity]
    rcases shrinks with same | ⟨unlocked, _⟩
    · exact same ▸ exclusive.full index send found refusing
    · have holding := isHolding_of_isRefusing refusing
      rw [not_holding unlocked found] at holding
      cases holding

theorem exclusive_open (capacity : ℕ) : Exclusive (open? capacity) where
  positive := Nat.lt_of_lt_of_le Nat.zero_lt_one (Nat.le_max_right capacity 1)
  fits := Nat.zero_le _
  alive := by simp [open?]
  alone := by simp [open?]
  room := by simp [open?]
  full := by simp [open?]

theorem exclusive_step (steps : Steps state action next) (exclusive : Exclusive state) : Exclusive next := by
  cases steps with
  | clone handle alive =>
    exact { exclusive with
      alive := by
        intro index send found active
        exact List.getElem?_append_left (List.getElem?_eq_some_iff.mp (exclusive.alive index send found active)).1 ▸
          exclusive.alive index send found active }
  | dropSender handle alive free =>
    exact { exclusive with
      alive := by
        intro index send found active
        have other := free send (List.mem_of_getElem? found) active
        simpa only [List.getElem?_set_ne other.symm] using exclusive.alive index send found active }
  | send handle event alive =>
    have notHolding : Send.isHolding
        { handle, event, turn := 0, phase := if state.receiverAlive then .entering else .returned false } = false := by
      cases receiver : state.receiverAlive <;> simp [Send.isHolding]
    exact
      { positive := exclusive.positive
        fits := exclusive.fits
        alive := by
          intro index send found active
          rcases sends_append found with ⟨_, rfl⟩ | found
          · exact alive
          · exact exclusive.alive index send found active
        alone := by
          intro index other send sender found foundOther holds holdsOther
          rcases sends_append found with ⟨_, rfl⟩ | found
          · rw [notHolding] at holds
            cases holds
          · rcases sends_append foundOther with ⟨_, rfl⟩ | foundOther
            · rw [notHolding] at holdsOther
              cases holdsOther
            · exact exclusive.alone index other send sender found foundOther holds holdsOther
        room := by
          intro index send found willPush
          rcases sends_append found with ⟨_, rfl⟩ | found
          · rw [isHolding_of_willPush willPush] at notHolding
            cases notHolding
          · exact exclusive.room index send found willPush
        full := by
          intro index send found refusing
          rcases sends_append found with ⟨_, rfl⟩ | found
          · rw [isHolding_of_isRefusing refusing] at notHolding
            cases notHolding
          · exact exclusive.full index send found refusing }
  | append ticket send stored entering unlocked room =>
    refine exclusive.goOn stored (by simp [Send.isActive, entering]) (.inr unlocked) rfl rfl rfl rfl exclusive.fits
      ?_ (by simp [Send.isRefusing])
    intro _
    exact Nat.lt_of_le_of_ne exclusive.fits room
  | replace ticket send before after queued stored entering unlocked isQueue same =>
    have fits := exclusive.fits
    simp only [isQueue, List.length_append, List.length_cons] at fits
    exact exclusive.goOn stored (by simp [Send.isActive, entering]) (.inr unlocked) rfl rfl rfl rfl (by simpa using fits)
      (by simp [Send.willPush]) (by simp [Send.isRefusing])
  | evict ticket send before after queued stored entering unlocked full isQueue spare =>
    simp only [isQueue, List.length_append, List.length_cons] at full
    exact exclusive.goOn stored (by simp [Send.isActive, entering]) (.inr unlocked) rfl rfl rfl rfl
      (by simp only [List.length_append]; omega) (by simp only [List.length_append]; omega)
      (by simp [Send.isRefusing])
  | refuse ticket send accepted stored entering unlocked full spare =>
    exact exclusive.goOn stored (by simp [Send.isActive, entering]) (.inr unlocked) rfl rfl rfl rfl exclusive.fits
      (by simp [Send.willPush]) (fun _ => full)
  | count ticket send step phase stored holding tallies =>
    have holds : send.isHolding = true := by simp [Send.isHolding, holding]
    refine exclusive.goOn stored (isActive_of_isHolding holds) (.inl holds) rfl rfl rfl rfl exclusive.fits ?_ ?_
    · intro willPush
      refine exclusive.room ticket send stored ?_
      cases tallies with
      | push => simp [Send.willPush, holding]
      | «return» => simp [Send.willPush] at willPush
    · intro refusing
      cases tallies <;> simp [Send.isRefusing] at refusing
  | push ticket send stored holding =>
    have holds : send.isHolding = true := by simp [Send.isHolding, holding]
    have room := exclusive.room ticket send stored (by simp [Send.willPush, holding])
    exact exclusive.goOn stored (isActive_of_isHolding holds) (.inl holds) rfl rfl rfl rfl
      (by simp only [push, List.length_append, List.length_singleton]; omega) (by simp [Send.willPush])
      (by simp [Send.isRefusing])
  | take phase entry queue pops unlocked isQueue =>
    exact exclusive.receive rfl rfl rfl (.inr ⟨unlocked, by simp [isQueue]⟩)
  | move | report | swap | pop | disconnect | countSenders | dropReceiver =>
    exact exclusive.receive rfl rfl rfl (.inl rfl)

/-! ## Places -/

def places (state : Mailbox) : List ℕ := (state.received ++ state.queue).map Entry.place

/-- Places grow along the queue, and whoever is going to push has a later one. -/
structure Placed (state : Mailbox) : Prop where
  inOrder : state.places.Pairwise (· < ·)
  below : ∀ place ∈ state.places, place < state.turns
  behind : ∀ (index : ℕ) (send : Send), state.sends[index]? = some send → send.willPush = true →
    send.turn < state.turns ∧ ∀ place ∈ state.places, place < send.turn

theorem Placed.goOn (placed : Placed state) (fewer : next.places.Sublist state.places)
    (later : state.turns ≤ next.turns)
    (pushers : ∀ (index : ℕ) (send : Send), next.sends[index]? = some send → send.willPush = true →
      (∃ old, state.sends[index]? = some old ∧ old.willPush = true ∧ old.turn = send.turn) ∨
        (send.turn = state.turns ∧ state.turns < next.turns)) : Placed next where
  inOrder := placed.inOrder.sublist fewer
  below place mem := Nat.lt_of_lt_of_le (placed.below place (fewer.subset mem)) later
  behind index send found willPush := by
    rcases pushers index send found willPush with ⟨old, stored, pushed, sameTurn⟩ | ⟨isTurn, grows⟩
    · obtain ⟨turn, behind⟩ := placed.behind index old stored pushed
      rw [← sameTurn]
      exact ⟨Nat.lt_of_lt_of_le turn later, fun place mem => behind place (fewer.subset mem)⟩
    · rw [isTurn]
      exact ⟨grows, fun place mem => placed.below place (fewer.subset mem)⟩

theorem Placed.receive (placed : Placed state) (places : next.places = state.places) (turns : next.turns = state.turns)
    (sends : next.sends = state.sends) : Placed next := by
  refine placed.goOn (places ▸ .refl _) (Nat.le_of_eq turns.symm) ?_
  intro index send found willPush
  exact .inl ⟨send, sends ▸ found, willPush, rfl⟩

theorem pushers_set {turns : ℕ} (stored : state.sends[ticket]? = some send) (pushes : new.willPush = true →
      send.willPush = true ∧ send.turn = new.turn ∨ new.turn = state.turns ∧ state.turns < turns)
    (index : ℕ) (other : Send) (found : (state.sends.set ticket new)[index]? = some other)
    (willPush : other.willPush = true) :
    (∃ old, state.sends[index]? = some old ∧ old.willPush = true ∧ old.turn = other.turn) ∨
      (other.turn = state.turns ∧ state.turns < turns) := by
  rcases sends_set found with ⟨rfl, rfl⟩ | ⟨_, found⟩
  · rcases pushes willPush with ⟨pushed, sameTurn⟩ | isTurn
    · exact .inl ⟨send, stored, pushed, sameTurn⟩
    · exact .inr isTurn
  · exact .inl ⟨other, found, willPush, rfl⟩

theorem placed_open (capacity : ℕ) : Placed (open? capacity) where
  inOrder := .nil
  below := by simp [places, open?]
  behind := by simp [open?]

theorem placed_step (steps : Steps state action next) (exclusive : Exclusive state) (placed : Placed state) :
    Placed next := by
  cases steps with
  | clone | dropSender | move | report | swap | pop | disconnect | countSenders | dropReceiver =>
    exact placed.receive rfl rfl rfl
  | send handle event alive =>
    refine placed.goOn (.refl _) (Nat.le_refl _) ?_
    intro index send found willPush
    rcases sends_append found with ⟨_, rfl⟩ | found
    · cases receiver : state.receiverAlive <;> simp [Send.willPush, receiver] at willPush
    · exact .inl ⟨send, found, willPush, rfl⟩
  | append ticket send stored entering unlocked room =>
    exact placed.goOn (.refl _) (Nat.le_succ _) (pushers_set stored fun _ => .inr ⟨rfl, Nat.lt_succ_self _⟩)
  | replace ticket send before after queued stored entering unlocked isQueue same =>
    refine placed.goOn ?_ (Nat.le_succ _) (pushers_set stored ?_)
    · simp [places, isQueue]
    · simp [Send.willPush]
  | evict ticket send before after queued stored entering unlocked full isQueue spare =>
    refine placed.goOn ?_ (Nat.le_succ _) (pushers_set stored fun _ => .inr ⟨rfl, Nat.lt_succ_self _⟩)
    simp only [places, isQueue]
    exact (((List.sublist_cons_self queued after).append_left before).append_left state.received).map Entry.place
  | refuse ticket send accepted stored entering unlocked full spare =>
    exact placed.goOn (.refl _) (Nat.le_succ _) (pushers_set stored (by simp [Send.willPush]))
  | count ticket send step phase stored holding tallies =>
    refine placed.goOn (.refl _) (Nat.le_refl _) (pushers_set stored ?_)
    intro willPush
    cases tallies with
    | push => exact .inl ⟨by simp [Send.willPush, holding], rfl⟩
    | «return» => simp [Send.willPush] at willPush
  | push ticket send stored holding =>
    have holds : send.isHolding = true := by simp [Send.isHolding, holding]
    obtain ⟨turn, behind⟩ := placed.behind ticket send stored (by simp [Send.willPush, holding])
    have pushed : (state.push ticket send).places = state.places ++ [send.turn] := by simp [places, push]
    constructor
    · rw [pushed, List.pairwise_append]
      refine ⟨placed.inOrder, List.pairwise_singleton _ _, ?_⟩
      simpa using behind
    · intro place mem
      rw [pushed, List.mem_append, List.mem_singleton] at mem
      rcases mem with mem | rfl
      · exact placed.below place mem
      · exact turn
    · -- Nobody else has the lock.
      intro index other found willPush
      rcases sends_set found with ⟨_, rfl⟩ | ⟨isOther, found⟩
      · simp [Send.willPush] at willPush
      · have also := isHolding_of_willPush willPush
        rw [exclusive.not_holding_of_ne stored (.inl holds) isOther found] at also
        cases also
  | take phase entry queue pops unlocked isQueue =>
    exact placed.receive (by simp [places, isQueue]) rfl rfl

/-! ## Fates -/

/-- How many fates an event may have, by the phase of its send. -/
def Fated : SendPhase → ℕ → Prop
  | .entering, count | .holding .push, count | .holding .countAndPush, count => count = 0
  | .holding (.countAndReturn _), count | .returned true, count => count = 1
  | .returned false, count => count ≤ 1

structure Accounts (state : Mailbox) : Prop where
  fated : ∀ (ticket : ℕ) (send : Send), state.sends[ticket]? = some send →
    Fated send.phase (state.fates.count ticket)
  known : ∀ ticket ∈ state.fates, ticket < state.sends.length

theorem Accounts.goOn (accounts : Accounts state)
    (stored : state.sends[ticket]? = some send) (sends : next.sends = state.sends.set ticket new)
    (same : next.fates.Perm state.fates) (keeps : ∀ count, Fated send.phase count → Fated new.phase count) :
    Accounts next where
  fated index other found := by
    rw [sends] at found
    rw [same.count_eq]
    rcases sends_set found with ⟨rfl, rfl⟩ | ⟨_, found⟩
    · exact keeps _ (accounts.fated index send stored)
    · exact accounts.fated index other found
  known index mem := by
    rw [sends, List.length_set]
    exact accounts.known index (same.subset mem)

theorem Accounts.settle (accounts : Accounts state)
    (stored : state.sends[ticket]? = some send) (sends : next.sends = state.sends.set ticket new)
    (settles : next.fates.Perm (ticket :: state.fates)) (before : ∀ count, Fated send.phase count → count = 0)
    (afterwards : Fated new.phase 1) : Accounts next where
  fated index other found := by
    rw [sends] at found
    rw [settles.count_eq]
    rcases sends_set found with ⟨rfl, rfl⟩ | ⟨isOther, found⟩
    · rw [List.count_cons_self, before _ (accounts.fated index send stored)]
      exact afterwards
    · rw [List.count_cons_of_ne (Ne.symm isOther)]
      exact accounts.fated index other found
  known index mem := by
    rw [sends, List.length_set]
    rcases List.mem_cons.mp (settles.subset mem) with rfl | mem
    · exact (List.getElem?_eq_some_iff.mp stored).1
    · exact accounts.known index mem

theorem Accounts.receive (accounts : Accounts state) (sends : next.sends = state.sends)
    (same : next.fates.Perm state.fates) : Accounts next where
  fated index send found := by
    rw [same.count_eq]
    exact accounts.fated index send (sends ▸ found)
  known index mem := sends ▸ accounts.known index (same.subset mem)

theorem accounts_open (capacity : ℕ) : Accounts (open? capacity) where
  fated := by simp [open?]
  known := by simp [fates, open?]

theorem accounts_step (steps : Steps state action next) (accounts : Accounts state) : Accounts next := by
  cases steps with
  | clone | dropSender | move | report | swap | pop | disconnect | countSenders | dropReceiver =>
    exact accounts.receive rfl (.refl _)
  | send handle event alive =>
    constructor
    · intro ticket send found
      rcases sends_append found with ⟨rfl, rfl⟩ | found
      · have fresh : state.fates.count state.sends.length = 0 := by
          rw [List.count_eq_zero]
          exact fun mem => Nat.lt_irrefl _ (accounts.known _ mem)
        have unfated : (state.beginSend handle event).fates.count state.sends.length = 0 := fresh
        rw [unfated]
        cases state.receiverAlive <;> simp [Fated]
      · exact accounts.fated ticket send found
    · intro ticket mem
      have inRange := accounts.known ticket mem
      simp only [beginSend, List.length_append, List.length_singleton]
      omega
  | append ticket send stored entering unlocked room =>
    exact accounts.goOn stored rfl (.refl _) (by simp [entering, Fated])
  | replace ticket send before after queued stored entering unlocked isQueue same =>
    refine accounts.settle stored rfl ?_ (by simp [entering, Fated]) rfl
    -- The new event stands in the queue, and the old one is replaced.
    rw [List.perm_iff_count]
    intro other
    simp only [fates, isQueue, List.map_append, List.map_cons, List.map_nil, List.count_append, List.count_cons,
      List.count_nil]
    omega
  | evict ticket send before after queued stored entering unlocked full isQueue spare =>
    refine accounts.goOn stored rfl ?_ (by simp [entering, Fated])
    rw [List.perm_iff_count]
    intro other
    simp only [fates, isQueue, List.map_append, List.map_cons, List.count_append, List.count_cons, List.count_nil]
    omega
  | refuse ticket send accepted stored entering unlocked full spare =>
    refine accounts.settle stored rfl ?_ (by simp [entering, Fated]) rfl
    rw [List.perm_iff_count]
    intro other
    simp only [fates, List.count_append, List.count_cons, List.count_nil]
    omega
  | count ticket send step phase stored holding tallies =>
    refine accounts.goOn stored rfl (.refl _) ?_
    intro count
    cases tallies with
    | push => simp [holding, Fated]
    | «return» accepted => cases accepted <;> simp only [holding, Fated] <;> omega
  | push ticket send stored holding =>
    refine accounts.settle stored rfl ?_ (by simp [holding, Fated]) rfl
    rw [List.perm_iff_count]
    intro other
    simp only [fates, push, List.map_append, List.map_cons, List.map_nil, List.count_append, List.count_cons,
      List.count_nil]
    omega
  | take phase entry queue pops unlocked isQueue => exact accounts.receive rfl (by simp [fates, isQueue])

/-! ## Events -/

/-- Whose event an entry is: that of a send which has returned, in a turn that is over. -/
def IsOf (state : Mailbox) (entry : Entry) (send : Send) : Prop :=
  state.sends[entry.ticket]? = some send ∧ send.event = entry.event ∧ send.phase = .returned true ∧
    send.turn < state.turns

/-- The send of a dropped event.  It knows if it has to report a lifecycle event as refused. -/
structure Dropped (send : Send) : Prop where
  refused : eventRequiresDelivery send.event = true →
    send.phase = .holding (.countAndReturn false) ∨ send.phase = .returned false
  begun : send.phase ≠ .entering
  kept : send.willPush = false

structure Known (state : Mailbox) : Prop where
  content : ∀ entry ∈ state.received ++ state.queue, ∃ send, state.IsOf entry send
  replacedByLater : ∀ pair ∈ state.replaced, ∃ earlier later, state.sends[pair.1]? = some earlier ∧
    state.sends[pair.2]? = some later ∧ earlier.phase = .returned true ∧ later.phase = .returned true ∧
    eventCoalescingKey earlier.event = eventCoalescingKey later.event ∧ earlier.turn < later.turn
  dropped : ∀ ticket ∈ state.lost, ∃ send, state.sends[ticket]? = some send ∧ Dropped send

theorem turns_le (steps : Steps state action next) : state.turns ≤ next.turns := by
  cases steps with
  | append | replace | evict | refuse => exact Nat.le_succ _
  | _ => exact Nat.le_refl _

theorem IsOf.step {entry : Entry} (isOf : state.IsOf entry send) (steps : Steps state action next) :
    next.IsOf entry send :=
  ⟨returned_stays steps isOf.1 isOf.2.2.1, isOf.2.1, isOf.2.2.1, Nat.lt_of_lt_of_le isOf.2.2.2 (turns_le steps)⟩

theorem Dropped.of_returned (returned : send.phase = .returned true)
    (spare : eventRequiresDelivery send.event = false) : Dropped send where
  refused requires := by
    rw [spare] at requires
    cases requires
  begun := by simp [returned]
  kept := by simp [Send.willPush, returned]

theorem Dropped.step (steps : Steps state action next)
    (found : state.sends[ticket]? = some send) (dropped : Dropped send) :
    ∃ later, next.sends[ticket]? = some later ∧ Dropped later := by
  have aside : ∀ {index : ℕ} {old new : Send}, state.sends[index]? = some old → (Dropped old → Dropped new) →
      ∃ later, (state.sends.set index new)[ticket]? = some later ∧ Dropped later := by
    intro index old new stored goesOn
    by_cases same : index = ticket
    · subst same
      rw [stored] at found
      cases found
      exact ⟨new, List.getElem?_set_self (List.getElem?_eq_some_iff.mp stored).1, goesOn dropped⟩
    · exact ⟨send, by rw [List.getElem?_set_ne same, found], dropped⟩
  cases steps with
  | send handle event =>
    exact ⟨send, List.getElem?_append_left (List.getElem?_eq_some_iff.mp found).1 ▸ found, dropped⟩
  | append index old stored entering => exact aside stored fun dropped => absurd entering dropped.begun
  | replace index old before after queued stored entering =>
    exact aside stored fun dropped => absurd entering dropped.begun
  | evict index old before after queued stored entering =>
    exact aside stored fun dropped => absurd entering dropped.begun
  | refuse index old accepted stored entering => exact aside stored fun dropped => absurd entering dropped.begun
  | count index old step phase stored holding tallies =>
    refine aside stored fun dropped => ?_
    cases tallies with
    | push =>
      have kept := dropped.kept
      simp [Send.willPush, holding] at kept
    | «return» accepted =>
      refine ⟨fun requires => ?_, by simp, by simp [Send.willPush]⟩
      have refused := dropped.refused requires
      rw [holding] at refused
      rcases refused with same | same <;> cases same
      exact .inr rfl
  | push index old stored holding =>
    refine aside stored fun dropped => ?_
    have kept := dropped.kept
    simp [Send.willPush, holding] at kept
  | _ => exact ⟨send, found, dropped⟩

theorem Known.goOn (known : Known state) (steps : Steps state action next)
    (content : ∀ entry ∈ next.received ++ next.queue, entry ∈ state.received ++ state.queue ∨
      ∃ send, next.IsOf entry send) (replaced : ∀ pair ∈ next.replaced, pair ∈ state.replaced ∨ ∃ earlier later,
      next.sends[pair.1]? = some earlier ∧ next.sends[pair.2]? = some later ∧ earlier.phase = .returned true ∧
      later.phase = .returned true ∧ eventCoalescingKey earlier.event = eventCoalescingKey later.event ∧
      earlier.turn < later.turn)
    (lost : ∀ ticket ∈ next.lost, ticket ∈ state.lost ∨ ∃ send, next.sends[ticket]? = some send ∧ Dropped send) :
    Known next where
  content entry mem := by
    rcases content entry mem with before | isOf
    · obtain ⟨send, isOf⟩ := known.content entry before
      exact ⟨send, isOf.step steps⟩
    · exact isOf
  replacedByLater pair mem := by
    rcases replaced pair mem with before | pair
    · obtain ⟨earlier, later, stored, storedLater, returned, returnedLater, sameKey, turns⟩ :=
        known.replacedByLater pair before
      exact ⟨earlier, later, returned_stays steps stored returned, returned_stays steps storedLater returnedLater,
        returned, returnedLater, sameKey, turns⟩
    · exact pair
  dropped ticket mem := by
    rcases lost ticket mem with before | dropped
    · obtain ⟨send, stored, dropped⟩ := known.dropped ticket before
      exact dropped.step steps stored
    · exact dropped

theorem Known.keep (known : Known state) (steps : Steps state action next)
    (content : ∀ entry ∈ next.received ++ next.queue, entry ∈ state.received ++ state.queue)
    (replaced : next.replaced = state.replaced) (lost : next.lost = state.lost) : Known next :=
  known.goOn steps (fun entry mem => .inl (content entry mem)) (fun _ mem => .inl (replaced ▸ mem))
    fun _ mem => .inl (lost ▸ mem)

theorem known_open (capacity : ℕ) : Known (open? capacity) where
  content := by simp [open?]
  replacedByLater := by simp [open?]
  dropped := by simp [open?]

theorem known_step (steps : Steps state action next) (placed : Placed state) (known : Known state) : Known next := by
  have whole := steps
  cases steps with
  | clone | dropSender | send | append | count | move | report | swap | pop | disconnect | countSenders | dropReceiver =>
    exact known.keep whole (fun _ mem => mem) rfl rfl
  | replace ticket send before after queued stored entering unlocked isQueue same =>
    have inRange := (List.getElem?_eq_some_iff.mp stored).1
    obtain ⟨earlier, isEarlier⟩ := known.content queued (by simp [isQueue])
    refine known.goOn whole ?_ ?_ fun _ mem => .inl mem
    · intro entry mem
      simp only [List.mem_append, List.mem_cons] at mem
      rcases mem with received | before | rfl | after
      · exact .inl (List.mem_append_left _ received)
      · exact .inl (by simp [isQueue, before])
      · exact .inr ⟨_, List.getElem?_set_self inRange, rfl, rfl, Nat.lt_succ_self _⟩
      · exact .inl (by simp [isQueue, after])
    · intro pair mem
      rcases List.mem_append.mp mem with earlierPair | isPair
      · exact .inl earlierPair
      · rw [List.mem_singleton] at isPair
        subst isPair
        exact .inr ⟨earlier, _, (isEarlier.step whole).1, List.getElem?_set_self inRange, isEarlier.2.2.1, rfl,
          isEarlier.2.1 ▸ same, isEarlier.2.2.2⟩
  | evict ticket send before after queued stored entering unlocked full isQueue spare =>
    obtain ⟨owner, isOf⟩ := known.content queued (by simp [isQueue])
    refine known.goOn whole ?_ (fun _ mem => .inl mem) ?_
    · intro entry mem
      simp only [List.mem_append] at mem
      rcases mem with received | before | after
      · exact .inl (List.mem_append_left _ received)
      · exact .inl (by simp [isQueue, before])
      · exact .inl (by simp [isQueue, after])
    · intro other mem
      rcases List.mem_append.mp mem with before | isQueued
      · exact .inl before
      · rw [List.mem_singleton] at isQueued
        subst isQueued
        exact .inr ⟨owner, (isOf.step whole).1, .of_returned isOf.2.2.1 (isOf.2.1 ▸ spare)⟩
  | refuse ticket send accepted stored entering unlocked full spare =>
    refine known.goOn whole (fun _ mem => .inl mem) (fun _ mem => .inl mem) ?_
    intro other mem
    rcases List.mem_append.mp mem with before | isTicket
    · exact .inl before
    · rw [List.mem_singleton] at isTicket
      subst isTicket
      refine .inr ⟨_, List.getElem?_set_self (List.getElem?_eq_some_iff.mp stored).1, ?_, by simp, by
        simp [Send.willPush]⟩
      intro requires
      cases accepted with
      | true =>
        rw [spare rfl] at requires
        cases requires
      | false => exact .inl rfl
  | push ticket send stored holding =>
    obtain ⟨turn, _⟩ := placed.behind ticket send stored (by simp [Send.willPush, holding])
    refine known.goOn whole ?_ (fun _ mem => .inl mem) fun _ mem => .inl mem
    intro entry mem
    simp only [push, List.mem_append, List.mem_singleton] at mem
    rcases mem with received | queued | rfl
    · exact .inl (List.mem_append_left _ received)
    · exact .inl (List.mem_append_right _ queued)
    · exact .inr ⟨_, List.getElem?_set_self (List.getElem?_eq_some_iff.mp stored).1, rfl, rfl, turn⟩
  | take phase entry queue pops unlocked isQueue => exact known.keep whole (by simp [isQueue]) rfl rfl

def counting (state : Mailbox) : ℕ := state.sends.countP Send.isCounting

def Counted (state : Mailbox) : Prop := state.lost.length = state.droppedEvents + state.reported + state.counting

theorem Counted.goOn (counted : Counted state)
    (stored : state.sends[ticket]? = some send) (sends : next.sends = state.sends.set ticket new)
    (balance : next.lost.length + (state.droppedEvents + state.reported) + (if send.isCounting then 1 else 0) =
      state.lost.length + (next.droppedEvents + next.reported) + if new.isCounting then 1 else 0) : Counted next := by
  obtain ⟨inRange, isSend⟩ := List.getElem?_eq_some_iff.mp stored
  have atLeast : (if state.sends[ticket].isCounting then 1 else 0) ≤ state.sends.countP Send.isCounting :=
    List.boole_getElem_le_countP inRange
  simp only [Counted, counting] at counted ⊢
  rw [sends, List.countP_set inRange]
  rw [isSend] at atLeast ⊢
  omega

theorem counted_step (steps : Steps state action next) (counted : Counted state) : Counted next := by
  cases steps with
  | send handle event alive =>
    have fresh : (state.beginSend handle event).counting = state.counting := by
      simp only [counting, beginSend, List.countP_append]
      cases state.receiverAlive <;> simp [Send.isCounting]
    simp only [Counted, fresh]
    exact counted
  | append ticket send stored entering => exact counted.goOn stored rfl (by simp [Send.isCounting, entering])
  | replace ticket send before after queued stored entering =>
    exact counted.goOn stored rfl (by simp [Send.isCounting, entering])
  | evict ticket send before after queued stored entering =>
    refine counted.goOn stored rfl ?_
    simp only [Send.isCounting, entering, List.length_append, List.length_singleton, Bool.false_eq_true, if_false,
      if_true]
    omega
  | refuse ticket send accepted stored entering =>
    refine counted.goOn stored rfl ?_
    simp only [Send.isCounting, entering, List.length_append, List.length_singleton, Bool.false_eq_true, if_false,
      if_true]
    omega
  | count ticket send step phase stored holding tallies =>
    refine counted.goOn stored rfl ?_
    cases tallies with
    | push =>
      simp only [Mailbox.count, Send.isCounting, holding, Bool.false_eq_true, if_false, if_true]
      omega
    | «return» accepted =>
      simp only [Mailbox.count, Send.isCounting, holding, Bool.false_eq_true, if_false, if_true]
      omega
  | push ticket send stored holding => exact counted.goOn stored rfl (by simp [push, Send.isCounting, holding])
  | report phase swaps some =>
    simp only [Counted, counting] at counted ⊢
    omega
  | _ => exact counted

theorem counted_open (capacity : ℕ) : Counted (open? capacity) := rfl

/-! ## The end -/

/-- The receiver has taken the drops and may go on to the number of senders. -/
def hasSwept (state : Mailbox) : Bool :=
  match state.receiver with
  | .recvPop | .recvCount | .tryCount => true
  | _ => false

/-- Drops that the receiver has not seen leave an event in the queue, or soon will. -/
def Swept (state : Mailbox) : Prop :=
  state.hasSwept = true → 0 < state.droppedEvents → state.queue = [] →
    ∃ (index : ℕ) (send : Send), state.sends[index]? = some send ∧ send.willPush = true

/-- What holds between the receiver's readings. -/
structure Ending (state : Mailbox) : Prop where
  swept : Swept state
  found : state.hasFoundNone = true → state.senders = 0 → state.queue = []
  closed : state.closed = true → state.senders = 0 ∧ state.queue = [] ∧ state.droppedEvents = 0

theorem countP_ne_zero {handles : List Bool} {handle : ℕ} (alive : handles[handle]? = some true) :
    handles.countP id ≠ 0 := by
  intro none
  have isDropped := List.countP_eq_zero.mp none true (List.mem_of_getElem? alive)
  simp at isDropped

theorem Exclusive.senders_ne_zero (exclusive : Exclusive state)
    (found : state.sends[index]? = some send) (active : send.isActive = true) : state.senders ≠ 0 :=
  countP_ne_zero (exclusive.alive index send found active)

theorem Ending.of_senders (ending : Ending state) (some : state.senders ≠ 0) (still : next.senders ≠ 0)
    (closed : next.closed = state.closed) (swept : Swept next) : Ending next where
  swept := swept
  found _ none := absurd none still
  closed isClosed := absurd (ending.closed (closed ▸ isClosed)).1 some

theorem ending_open (capacity : ℕ) : Ending (open? capacity) where
  swept := by simp [Swept, hasSwept, open?]
  found := by simp [hasFoundNone, open?]
  closed := by simp [open?]

theorem swept_advance (steps : Steps state (.advanceSend ticket) next) (exclusive : Exclusive state) :
    Swept next := by
  cases steps with
  | append ticket send stored =>
    intro _ _ _
    exact ⟨ticket, _, List.getElem?_set_self (List.getElem?_eq_some_iff.mp stored).1, by simp [Send.willPush]⟩
  | evict ticket send before after queued stored =>
    intro _ _ _
    exact ⟨ticket, _, List.getElem?_set_self (List.getElem?_eq_some_iff.mp stored).1, by simp [Send.willPush]⟩
  | replace ticket send before after queued => simp [Swept]
  | refuse ticket send accepted stored entering unlocked full =>
    intro _ _ empty
    have positive := exclusive.positive
    simp only [show state.queue = [] from empty, List.length_nil] at full
    omega
  | count ticket send step phase stored holding tallies =>
    intro _ _ empty
    cases tallies with
    | push =>
      exact ⟨ticket, _, List.getElem?_set_self (List.getElem?_eq_some_iff.mp stored).1, by simp [Send.willPush]⟩
    | «return» =>
      -- The queue was full when the event was refused.
      have full := exclusive.full ticket send stored (by simp [Send.isRefusing, holding])
      have positive := exclusive.positive
      simp only [show state.queue = [] from empty, List.length_nil] at full
      omega
  | push ticket send stored => simp [Swept, push]
  | move phase _ moves =>
    generalize state.receiver = source at moves
    cases moves

theorem ending_step (steps : Steps state action next) (leavesNone : state.LeavesNone action)
    (exclusive : Exclusive state) (ending : Ending state) : Ending next := by
  have whole := steps
  cases steps with
  | clone handle alive =>
    refine ending.of_senders (countP_ne_zero alive) ?_ rfl ending.swept
    simp [senders]
  | dropSender handle alive free =>
    have fewer : (state.handles.set handle false).countP id = state.senders - 1 := by
      obtain ⟨inRange, isAlive⟩ := List.getElem?_eq_some_iff.mp alive
      simp [List.countP_set inRange, isAlive, senders]
    have some : state.senders ≠ 0 := countP_ne_zero alive
    constructor
    · exact ending.swept
    · intro foundNone none
      exact leavesNone (by simp only [senders, fewer] at none; simp only [senders] at some ⊢; omega) foundNone
    · intro closed
      exact absurd (ending.closed closed).1 some
  | send handle event alive =>
    refine ending.of_senders (countP_ne_zero alive) (countP_ne_zero alive) rfl ?_
    intro hasSwept dropped empty
    obtain ⟨index, send, found, willPush⟩ := ending.swept hasSwept dropped empty
    exact ⟨index, send, List.getElem?_append_left (List.getElem?_eq_some_iff.mp found).1 ▸ found, willPush⟩
  | append ticket send stored entering =>
    have some := exclusive.senders_ne_zero stored (by simp [Send.isActive, entering])
    exact ending.of_senders some some rfl (swept_advance whole exclusive)
  | replace ticket send before after queued stored entering =>
    have some := exclusive.senders_ne_zero stored (by simp [Send.isActive, entering])
    exact ending.of_senders some some rfl (swept_advance whole exclusive)
  | evict ticket send before after queued stored entering =>
    have some := exclusive.senders_ne_zero stored (by simp [Send.isActive, entering])
    exact ending.of_senders some some rfl (swept_advance whole exclusive)
  | refuse ticket send accepted stored entering =>
    have some := exclusive.senders_ne_zero stored (by simp [Send.isActive, entering])
    exact ending.of_senders some some rfl (swept_advance whole exclusive)
  | count ticket send step phase stored holding =>
    have some := exclusive.senders_ne_zero stored (by simp [Send.isActive, holding])
    exact ending.of_senders some some rfl (swept_advance whole exclusive)
  | push ticket send stored holding =>
    have some := exclusive.senders_ne_zero stored (by simp [Send.isActive, holding])
    exact ending.of_senders some some rfl (swept_advance whole exclusive)
  | move action phase moves =>
    generalize state.receiver = source at moves
    cases moves <;> exact ⟨by simp [Swept, hasSwept], by simp [hasFoundNone], ending.closed⟩
  | report phase swaps some =>
    refine ⟨by simp [Swept, hasSwept], by simp [hasFoundNone], ?_⟩
    intro closed
    obtain ⟨none, empty, _⟩ := ending.closed closed
    exact ⟨none, empty, rfl⟩
  | swap phase swaps none =>
    refine ⟨fun _ dropped => absurd dropped (by simp [none]), ?_, ending.closed⟩
    generalize receiver : state.receiver = source at swaps
    cases swaps with
    | recv => simp [hasFoundNone]
    | tryRecv => exact fun _ => ending.found (by simp [hasFoundNone, receiver, none])
  | take phase entry queue pops unlocked isQueue =>
    refine ⟨by simp [Swept, hasSwept], by simp [hasFoundNone], ?_⟩
    intro closed
    rw [(ending.closed closed).2.1] at isQueue
    cases isQueue
  | pop phase pops unlocked empty =>
    refine ⟨?_, fun _ _ => empty, ending.closed⟩
    intro hasSwept dropped _
    -- Nobody has the lock, so the drops were there when the receiver took them.
    generalize receiver : state.receiver = source at pops
    cases pops with
    | recv => exact ending.swept (by simp [Mailbox.hasSwept, receiver]) dropped empty
    | tryRecv => simp [Mailbox.hasSwept] at hasSwept
  | disconnect phase counts none =>
    refine ⟨by simp [Swept, hasSwept], by simp [hasFoundNone], ?_⟩
    intro _
    generalize receiver : state.receiver = source at counts
    have empty : state.queue = [] := ending.found (by cases counts <;> simp [hasFoundNone, receiver]) none
    refine ⟨none, empty, ?_⟩
    by_contra some
    have dropped : 0 < state.droppedEvents := by
      simp only at some
      omega
    obtain ⟨index, send, found, willPush⟩ :=
      ending.swept (by cases counts <;> simp [hasSwept, receiver]) dropped empty
    exact exclusive.senders_ne_zero found (isActive_of_isHolding (isHolding_of_willPush willPush)) none
  | countSenders phase counts some =>
    refine ending.of_senders some some rfl ?_
    generalize state.receiver = source at counts
    cases counts <;> simp [Swept, hasSwept]
  | dropReceiver idle => exact ⟨ending.swept, ending.found, ending.closed⟩

/-! ## Whole runs -/

structure Invariant (state : Mailbox) : Prop where
  exclusive : Exclusive state
  placed : Placed state
  accounts : Accounts state
  known : Known state
  counted : Counted state

theorem invariant_step (stepped : state.step action = some next) (invariant : Invariant state) : Invariant next := by
  have steps := steps_of_step stepped
  exact
    { exclusive := exclusive_step steps invariant.exclusive
      placed := placed_step steps invariant.exclusive invariant.placed
      accounts := accounts_step steps invariant.accounts
      known := known_step steps invariant.placed invariant.known
      counted := counted_step steps invariant.counted }

theorem invariant_open (capacity : ℕ) : Invariant (open? capacity) where
  exclusive := exclusive_open capacity
  placed := placed_open capacity
  accounts := accounts_open capacity
  known := known_open capacity
  counted := counted_open capacity

theorem Invariant.books (invariant : Invariant state)
    (atEnd : state.closed = true → state.queue = [] ∧ state.droppedEvents = 0) : Books state where
  bounded := invariant.exclusive.fits
  once ticket send found returned := by
    have fated := invariant.accounts.fated ticket send found
    rw [returned] at fated
    exact fated
  content entry mem := by
    obtain ⟨send, isOf⟩ := invariant.known.content entry mem
    exact ⟨send, isOf.1, isOf.2.1⟩
  inOrder := invariant.placed.inOrder
  replacedByLater pair mem := by
    obtain ⟨earlier, later, stored, storedLater, _, _, sameKey, turns⟩ := invariant.known.replacedByLater pair mem
    exact ⟨earlier, later, stored, storedLater, sameKey, turns⟩
  counted := invariant.counted
  lifecycle ticket mem send found requires returned := by
    obtain ⟨owner, isOwner, dropped⟩ := invariant.known.dropped ticket mem
    rw [found] at isOwner
    cases isOwner
    have refused := dropped.refused requires
    rw [returned] at refused
    rcases refused with same | same <;> cases same
  atEnd := atEnd

end Mailbox

open Mailbox

/-- Nothing is lost silently as long as the last sender leaves no event behind the receiver's back. -/
theorem mailbox_keeps_books {state : Mailbox} (reachable : mailboxMachine.Reachable LeavesNone state) :
    state.Books := by
  have holds : state.Invariant ∧ state.Ending := by
    show (fun state : Mailbox => state.Invariant ∧ state.Ending) state
    apply reachable.invariant
    · rintro state ⟨capacity, rfl⟩
      exact ⟨invariant_open capacity, ending_open capacity⟩
    · intro state action next holds leavesNone stepped
      exact ⟨invariant_step stepped holds.1,
        ending_step (steps_of_step stepped) leavesNone holds.1.exclusive holds.2⟩
  refine holds.1.books ?_
  intro closed
  exact (holds.2.closed closed).2

/-- The sender pushes its event and leaves before the receiver looks for an event. -/
def leavesBefore : List Mailbox.Action :=
  [.send 0 .backendsChanged, .advanceSend 0, .advanceSend 0, .dropSender 0, .recv, .advanceReceiver, .advanceReceiver,
    .recv, .advanceReceiver, .advanceReceiver, .advanceReceiver]

theorem mailbox_keeps_books_received :
    ∃ state, mailboxMachine.Reachable LeavesNone state ∧ state.Books ∧ state.received.length = 1 ∧
      state.closed = true := by
  obtain ⟨state, reachable, checked⟩ := mailboxMachine.reachable_of_execute LeavesNone ⟨1, rfl⟩ leavesBefore
    (fun state => decide (state.received.length = 1 ∧ state.closed = true)) (by decide +kernel)
  exact ⟨state, reachable, mailbox_keeps_books reachable, of_decide_eq_true checked⟩

/-- The receiver finds the queue empty, then the sender pushes its event and leaves. -/
def leavesBehind : List Mailbox.Action :=
  [.recv, .advanceReceiver, .advanceReceiver, .send 0 .backendsChanged, .advanceSend 0, .advanceSend 0, .dropSender 0,
    .advanceReceiver]

theorem mailbox_leaves_event_behind :
    ¬ ∀ state, mailboxMachine.Reachable Machine.always state → state.Books := by
  intro keepsBooks
  obtain ⟨state, reachable, checked⟩ := mailboxMachine.reachable_of_execute Machine.always ⟨1, rfl⟩ leavesBehind
    (fun state => decide (state.closed = true ∧ state.queue ≠ [])) (by decide +kernel)
  obtain ⟨closed, queued⟩ := of_decide_eq_true checked
  exact queued ((keepsBooks state reachable).atEnd closed).1

end Vifu.App
