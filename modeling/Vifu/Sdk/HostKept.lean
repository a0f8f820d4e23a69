import Std.Data.String.ToNat
import Vifu.Sdk.GatewayHost

/-!
# Invocations and the main loop of the gateway host

A message for an invocation that has left is an error, and the main loop ends with it.  An invocation
leaves early when it is cancelled, when it gets a trace event with an unknown stage, and when its time is
over; the first two also leave its entry in the pending map.
-/

namespace Vifu.Sdk

open Foundation Vifu.Runtime

/-- The section ends the invocation without its result. -/
def BridgeInvocation.Leaves (invocation : BridgeInvocation) : BridgePiece → Prop
  | .check => invocation.phase = .checking ∧ invocation.cancelled = true
  | .expire => True
  | .apply => match invocation.phase with
    | .applying event => (applyTraceEvent event).toOption = none
    | _ => False
  | .register | .sent | .unsent _ | .unregister | .receive => False

def BridgeInvocation.Answered (invocation : BridgeInvocation) : Prop :=
  ∃ message ∈ invocation.inbox, message.isResult = true

/-- An invocation leaves early only when its result was already sent to it, and the parent is done with
an invocation that it has given its result. -/
def Waits (state : HostState) : HostAction → Prop
  | .run id piece => ∀ invocation ∈ state.invocations.lookup id, invocation.Leaves piece → invocation.Answered
  | .parentTrace id _ => id ∉ state.answered
  | .invoke | .cancel _ | .parentResult .. | .parentStop | .parentClose | .read | .readFails _ | .find | .deliver
  | .remove => True

instance decidableLeaves (invocation : BridgeInvocation) (piece : BridgePiece) :
    Decidable (invocation.Leaves piece) := by
  unfold BridgeInvocation.Leaves
  cases piece <;> try infer_instance
  dsimp only
  split <;> infer_instance

instance decidableAnswered (invocation : BridgeInvocation) : Decidable invocation.Answered := by
  unfold BridgeInvocation.Answered
  infer_instance

instance decidableWaits (state : HostState) : ∀ action, Decidable (Waits state action)
  | .run id piece =>
    inferInstanceAs (Decidable (∀ invocation ∈ state.invocations.lookup id, invocation.Leaves piece → invocation.Answered))
  | .parentTrace id _ => inferInstanceAs (Decidable (id ∉ state.answered))
  | .invoke | .cancel _ | .parentResult .. | .parentStop | .parentClose | .read | .readFails _ | .find | .deliver
  | .remove => inferInstanceAs (Decidable True)

/-- The reasons for which `run` may end. -/
def HostEnd.Expected : HostEnd → Prop
  | .stopped | .endOfInput | .readFailed _ => True
  | .failed _ => False

def BridgePhase.isReturned : BridgePhase → Bool
  | .returned _ => true
  | .registering | .sending | .unregistering _ | .checking | .receiving | .applying _ => false

/-- The loop goes on, a result comes to the invocation of its id, and the entry of an invocation that has
returned is gone, or the loop is about to remove it. -/
structure Served (state : HostState) : Prop where
  ends : ∀ reason, state.reader = .ended reason → reason.Expected
  own : ∀ id invocation source result, state.invocations.lookup id = some invocation →
    invocation.phase = .returned (.answered source result) → source = id
  cleared : ∀ id invocation, state.invocations.lookup id = some invocation → invocation.phase.isReturned = true →
    id ∈ state.pending → state.reader = .removing id

/-! ## The invariant -/

namespace HostState

/-- The messages between the parent and the channels, the one first that the loop has read. -/
def flight (state : HostState) : List BridgeMessage :=
  (match state.reader with
    | .finding message | .delivering message => [message]
    | .reading | .removing _ | .ended _ => []) ++
  state.lines.filterMap fun line => match line with
    | .message message => some message
    | .stop => none

end HostState

def BridgePhase.waiting : BridgePhase → Bool
  | .checking | .receiving | .applying _ => true
  | .registering | .sending | .unregistering _ | .returned _ => false

/-- What holds of one invocation.  Until its result was sent to it, an invocation that the parent knows of
waits and stands in the pending map. -/
structure InvocationKept (state : HostState) (id : String) (invocation : BridgeInvocation) : Prop where
  inbox : ∀ message ∈ invocation.inbox, message.id = id ∧ (message.isResult = true → id ∈ state.delivered)
  waits : id ∈ state.asked → id ∉ state.delivered → invocation.phase.waiting = true ∧ id ∈ state.pending
  unasked : invocation.phase = .registering ∨ invocation.phase = .sending → id ∉ state.asked
  registered : invocation.phase = .sending → id ∈ state.pending
  own : ∀ source result, invocation.phase = .returned (.answered source result) → source = id
  cleared : invocation.phase.isReturned = true → id ∈ state.pending → id ∈ state.delivered

structure HostKept (state : HostState) : Prop where
  issued : ∀ id invocation, state.invocations.lookup id = some invocation → ∃ number < state.sequence, id = bridgeId number
  kept : ∀ id invocation, state.invocations.lookup id = some invocation → InvocationKept state id invocation
  asked : ∀ id ∈ state.asked, ∃ invocation, state.invocations.lookup id = some invocation
  answered : ∀ id ∈ state.answered, id ∈ state.asked
  delivered : ∀ id ∈ state.delivered, id ∈ state.answered
  flight : ∀ message ∈ state.flight, message.id ∈ state.asked ∧ message.id ∉ state.delivered ∧
    (message.isResult = true → message.id ∈ state.answered)
  last : state.flight.Pairwise fun message later => message.isResult = true → later.id ≠ message.id
  removing : ∀ id, state.reader = .removing id → id ∈ state.delivered
  gone : ∀ id ∈ state.delivered, id ∈ state.pending → state.reader = .removing id
  ends : ∀ reason, state.reader = .ended reason → reason.Expected

theorem HostKept.served {state : HostState} (kept : HostKept state) : Served state where
  ends := kept.ends
  own id invocation source result stored := (kept.kept id invocation stored).own source result
  cleared id invocation stored returned pending :=
    kept.gone id ((kept.kept id invocation stored).cleared returned pending) pending

variable {state next : HostState} {id : String} {invocation : BridgeInvocation} {message : BridgeMessage}
  {after : BridgeInvocation}

theorem bridgeId_injective {left right : ℕ} (same : bridgeId left = bridgeId right) : left = right := by
  have texts := congrArg String.toList same
  simp only [bridgeId, String.toList_append, List.append_cancel_left_eq] at texts
  exact Nat.repr_injective (String.toList_injective texts)

namespace HostKept

theorem initial : HostKept .initial where
  issued id invocation stored := by simp [HostState.initial] at stored
  kept id invocation stored := by simp [HostState.initial] at stored
  asked id mem := by cases mem
  answered id mem := by cases mem
  delivered id mem := by cases mem
  flight message mem := by cases mem
  last := List.Pairwise.nil
  removing id same := by cases same
  gone id mem := by cases mem
  ends reason same := by cases same

theorem put (kept : HostKept state) (stored : state.invocations.lookup id = some invocation)
    (own : InvocationKept state id after) : HostKept (state.put id after) where
  issued other found isFound := by
    by_cases isOwn : other = id
    · subst isOwn
      exact kept.issued other invocation stored
    · rw [HostState.put, AList.lookup_insert_ne isOwn] at isFound
      exact kept.issued other found isFound
  kept other found isFound := by
    by_cases isOwn : other = id
    · subst isOwn
      rw [HostState.put, AList.lookup_insert, Option.some.injEq] at isFound
      subst isFound
      exact { own with }
    · rw [HostState.put, AList.lookup_insert_ne isOwn] at isFound
      exact { kept.kept other found isFound with }
  asked other mem := by
    by_cases isOwn : other = id
    · subst isOwn
      exact ⟨after, AList.lookup_insert _⟩
    · obtain ⟨found, isFound⟩ := kept.asked other mem
      exact ⟨found, by rwa [HostState.put, AList.lookup_insert_ne isOwn]⟩
  answered := kept.answered
  delivered := kept.delivered
  flight := kept.flight
  last := kept.last
  removing := kept.removing
  gone := kept.gone
  ends := kept.ends

theorem stored_of_flight (kept : HostKept state) (mem : message ∈ state.flight) :
    ∃ invocation, state.invocations.lookup message.id = some invocation ∧ invocation.phase.waiting = true ∧
      message.id ∈ state.pending := by
  obtain ⟨asked, open', -⟩ := kept.flight message mem
  obtain ⟨invocation, stored⟩ := kept.asked _ asked
  exact ⟨invocation, stored, (kept.kept _ invocation stored).waits asked open'⟩

theorem delivered_of_answered (kept : HostKept state) (stored : state.invocations.lookup id = some invocation)
    (answered : invocation.Answered) : id ∈ state.delivered := by
  obtain ⟨message, mem, isResult⟩ := answered
  exact ((kept.kept id invocation stored).inbox message mem).2 isResult

theorem fresh (kept : HostKept state) (unasked : id ∉ state.asked) : id ∉ state.delivered :=
  fun mem => unasked (kept.answered id (kept.delivered id mem))

/-! ### Sections of an invocation -/

section

variable (kept : HostKept state)
include kept

theorem invoke :
    HostKept ({ state with sequence := state.sequence + 1 }.put (bridgeId state.sequence) .start) := by
  have unused : state.invocations.lookup (bridgeId state.sequence) = none := by
    cases stored : state.invocations.lookup (bridgeId state.sequence) with
    | none => rfl
    | some invocation =>
      obtain ⟨number, earlier, same⟩ := kept.issued _ invocation stored
      have := bridgeId_injective same
      omega
  have unasked : bridgeId state.sequence ∉ state.asked := by
    intro mem
    obtain ⟨invocation, stored⟩ := kept.asked _ mem
    rw [unused] at stored
    cases stored
  refine { kept with issued := ?_, kept := ?_, asked := ?_ }
  · intro other found isFound
    by_cases isNew : other = bridgeId state.sequence
    · exact ⟨state.sequence, Nat.lt_succ_self _, isNew⟩
    · rw [HostState.put, AList.lookup_insert_ne isNew] at isFound
      obtain ⟨number, earlier, same⟩ := kept.issued other found isFound
      exact ⟨number, Nat.lt_succ_of_lt earlier, same⟩
  · intro other found isFound
    by_cases isNew : other = bridgeId state.sequence
    · subst isNew
      rw [HostState.put, AList.lookup_insert, Option.some.injEq] at isFound
      subst isFound
      exact { inbox := by simp [BridgeInvocation.start], waits := fun isAsked => absurd isAsked unasked,
              unasked := fun _ => unasked, registered := by simp [BridgeInvocation.start],
              own := by simp [BridgeInvocation.start], cleared := by simp [BridgeInvocation.start, BridgePhase.isReturned] }
    · rw [HostState.put, AList.lookup_insert_ne isNew] at isFound
      exact { kept.kept other found isFound with }
  · intro other mem
    obtain ⟨found, isFound⟩ := kept.asked other mem
    have isOld : other ≠ bridgeId state.sequence := by
      rintro rfl
      exact unasked mem
    exact ⟨found, by rwa [HostState.put, AList.lookup_insert_ne isOld]⟩

section

variable (stored : state.invocations.lookup id = some invocation)
include stored

theorem register (registers : invocation.phase = .registering) :
    HostKept ({ state with pending := insert id state.pending }.put id (invocation.enter .sending)) := by
  have own := kept.kept id invocation stored
  have unasked := own.unasked (Or.inl registers)
  have inserted : HostKept { state with pending := insert id state.pending } :=
    { kept with
      kept := by
        intro other found isFound
        have other' := kept.kept other found isFound
        refine { other' with waits := ?_, registered := ?_, cleared := ?_ }
        · intro asked undelivered
          exact (other'.waits asked undelivered).imp_right Finset.mem_insert_of_mem
        · exact fun sending => Finset.mem_insert_of_mem (other'.registered sending)
        · intro returned mem
          by_cases isOwn : other = id
          · subst isOwn
            rw [stored, Option.some.injEq] at isFound
            subst isFound
            simp [registers, BridgePhase.isReturned] at returned
          · exact other'.cleared returned (Finset.mem_of_mem_insert_of_ne mem isOwn)
      gone := by
        intro other isDelivered mem
        have isOther : other ≠ id := by
          rintro rfl
          exact kept.fresh unasked isDelivered
        exact kept.gone other isDelivered (Finset.mem_of_mem_insert_of_ne mem isOther) }
  refine inserted.put stored ?_
  exact { inbox := own.inbox, waits := fun asked => absurd asked unasked, unasked := fun _ => unasked,
          registered := fun _ => Finset.mem_insert_self id _, own := by simp [BridgeInvocation.enter],
          cleared := by simp [BridgeInvocation.enter, BridgePhase.isReturned] }

theorem sent (sends : invocation.phase = .sending) :
    HostKept ({ state with asked := insert id state.asked }.put id (invocation.enter .checking)) := by
  have own := kept.kept id invocation stored
  refine { kept with issued := ?_, kept := ?_, asked := ?_, answered := ?_, flight := ?_ }
  · intro other found isFound
    by_cases isOwn : other = id
    · subst isOwn
      exact kept.issued other invocation stored
    · rw [HostState.put, AList.lookup_insert_ne isOwn] at isFound
      exact kept.issued other found isFound
  · intro other found isFound
    by_cases isOwn : other = id
    · subst isOwn
      rw [HostState.put, AList.lookup_insert, Option.some.injEq] at isFound
      subst isFound
      exact { inbox := own.inbox, waits := fun _ _ => ⟨rfl, own.registered sends⟩,
              unasked := by simp [BridgeInvocation.enter], registered := by simp [BridgeInvocation.enter],
              own := by simp [BridgeInvocation.enter], cleared := by simp [BridgeInvocation.enter, BridgePhase.isReturned] }
    · rw [HostState.put, AList.lookup_insert_ne isOwn] at isFound
      have other' := kept.kept other found isFound
      refine { other' with waits := ?_, unasked := ?_ }
      · exact fun asked => other'.waits (Finset.mem_of_mem_insert_of_ne asked isOwn)
      · exact fun early asked => other'.unasked early (Finset.mem_of_mem_insert_of_ne asked isOwn)
  · intro other mem
    by_cases isOwn : other = id
    · subst isOwn
      exact ⟨_, AList.lookup_insert _⟩
    · obtain ⟨found, isFound⟩ := kept.asked other (Finset.mem_of_mem_insert_of_ne mem isOwn)
      exact ⟨found, by rwa [HostState.put, AList.lookup_insert_ne isOwn]⟩
  · exact fun other mem => Finset.mem_insert_of_mem (kept.answered other mem)
  · intro message mem
    exact (kept.flight message mem).imp_left Finset.mem_insert_of_mem

theorem unregister {error : String} (unregisters : invocation.phase = .unregistering error) :
    HostKept ({ state with pending := state.pending.erase id }.put id (invocation.fail error)) := by
  have own := kept.kept id invocation stored
  have settled : id ∈ state.asked → id ∉ state.delivered → False := by
    intro asked undelivered
    have waiting := (own.waits asked undelivered).1
    simp [unregisters, BridgePhase.waiting] at waiting
  have erased : ∀ other, other ∈ state.pending.erase id → other ∈ state.pending :=
    fun other mem => Finset.mem_of_mem_erase mem
  refine { kept with issued := ?_, kept := ?_, asked := ?_, gone := ?_ }
  · intro other found isFound
    by_cases isOwn : other = id
    · subst isOwn
      exact kept.issued other invocation stored
    · rw [HostState.put, AList.lookup_insert_ne isOwn] at isFound
      exact kept.issued other found isFound
  · intro other found isFound
    by_cases isOwn : other = id
    · subst isOwn
      rw [HostState.put, AList.lookup_insert, Option.some.injEq] at isFound
      subst isFound
      exact { inbox := own.inbox, waits := fun asked undelivered => (settled asked undelivered).elim,
              unasked := by simp [BridgeInvocation.fail, BridgeInvocation.enter],
              registered := by simp [BridgeInvocation.fail, BridgeInvocation.enter],
              own := by simp [BridgeInvocation.fail, BridgeInvocation.enter],
              cleared := fun _ mem => absurd mem (Finset.notMem_erase other _) }
    · rw [HostState.put, AList.lookup_insert_ne isOwn] at isFound
      have other' := kept.kept other found isFound
      refine { other' with waits := ?_, registered := ?_, cleared := ?_ }
      · intro asked undelivered
        exact (other'.waits asked undelivered).imp_right fun mem => Finset.mem_erase.mpr ⟨isOwn, mem⟩
      · exact fun sending => Finset.mem_erase.mpr ⟨isOwn, other'.registered sending⟩
      · exact fun returned mem => other'.cleared returned (erased other mem)
  · intro other mem
    by_cases isOwn : other = id
    · subst isOwn
      exact ⟨_, AList.lookup_insert _⟩
    · obtain ⟨found, isFound⟩ := kept.asked other mem
      exact ⟨found, by rwa [HostState.put, AList.lookup_insert_ne isOwn]⟩
  · exact fun other isDelivered mem => kept.gone other isDelivered (erased other mem)

theorem leave
    (answered : invocation.Answered) (error : String) : HostKept (state.put id (invocation.fail error)) := by
  have own := kept.kept id invocation stored
  have isDelivered := kept.delivered_of_answered stored answered
  refine kept.put stored ?_
  exact { inbox := own.inbox, waits := fun _ undelivered => absurd isDelivered undelivered,
          unasked := by simp [BridgeInvocation.fail, BridgeInvocation.enter],
          registered := by simp [BridgeInvocation.fail, BridgeInvocation.enter],
          own := by simp [BridgeInvocation.fail, BridgeInvocation.enter], cleared := fun _ _ => isDelivered }

theorem wait (waiting : after.phase.waiting = true)
    (fewer : ∀ message ∈ after.inbox, message ∈ invocation.inbox) : HostKept (state.put id after) := by
  have own := kept.kept id invocation stored
  have early : ∀ phase : BridgePhase, phase.waiting = true → phase ≠ .registering ∧ phase ≠ .sending ∧
      phase.isReturned = false := by
    intro phase isWaiting
    cases phase <;> simp_all [BridgePhase.waiting, BridgePhase.isReturned]
  obtain ⟨notRegistering, notSending, notReturned⟩ := early after.phase waiting
  refine kept.put stored ?_
  exact { inbox := fun message mem => own.inbox message (fewer message mem),
          waits := fun asked undelivered => ⟨waiting, (own.waits asked undelivered).2⟩,
          unasked := fun early => (early.elim notRegistering notSending).elim,
          registered := fun sending => absurd sending notSending,
          own := fun source result returned => by simp [returned, BridgePhase.isReturned] at notReturned,
          cleared := fun returned => by simp [notReturned] at returned }

theorem runPiece {piece : BridgePiece} (waits : invocation.Leaves piece → invocation.Answered)
    (stepped : state.runPiece id invocation piece = some next) : HostKept next := by
  have own := kept.kept id invocation stored
  cases piece with
  | register =>
    simp only [HostState.runPiece, Option.ite_none_right_eq_some, Option.some.injEq] at stepped
    obtain ⟨registers, rfl⟩ := stepped
    exact kept.register stored registers
  | sent =>
    simp only [HostState.runPiece, Option.ite_none_right_eq_some, Option.some.injEq] at stepped
    obtain ⟨sends, rfl⟩ := stepped
    exact kept.sent stored sends
  | unsent error =>
    simp only [HostState.runPiece, Option.ite_none_right_eq_some, Option.some.injEq] at stepped
    obtain ⟨sends, rfl⟩ := stepped
    refine kept.put stored ?_
    exact { inbox := own.inbox, waits := fun asked => absurd asked (own.unasked (Or.inr sends)),
            unasked := by simp [BridgeInvocation.enter], registered := by simp [BridgeInvocation.enter],
            own := by simp [BridgeInvocation.enter], cleared := by simp [BridgeInvocation.enter, BridgePhase.isReturned] }
  | unregister =>
    simp only [HostState.runPiece] at stepped
    split at stepped
    next error unregisters =>
      cases stepped
      exact kept.unregister stored unregisters
    · cases stepped
  | check =>
    simp only [HostState.runPiece, Option.ite_none_right_eq_some] at stepped
    obtain ⟨checks, stepped⟩ := stepped
    split at stepped
    next cancelled =>
      cases stepped
      exact kept.leave stored (waits ⟨checks, cancelled⟩) _
    next =>
      cases stepped
      exact kept.wait stored rfl (fun message mem => mem)
  | receive =>
    simp only [HostState.runPiece] at stepped
    split at stepped
    next source event inbox receives isInbox =>
      cases stepped
      refine kept.wait stored rfl fun message mem => ?_
      rw [isInbox]
      exact List.mem_cons_of_mem _ mem
    next source result inbox receives isInbox =>
      cases stepped
      obtain ⟨isOwn, isDelivered⟩ := own.inbox (.result source result) (by simp [isInbox])
      refine kept.put stored ?_
      exact { inbox := fun message mem => own.inbox message (by simp [isInbox, mem]),
              waits := fun _ undelivered => absurd (isDelivered rfl) undelivered,
              unasked := by simp, registered := by simp, cleared := fun _ _ => isDelivered rfl,
              own := by
                intro _ _ returned
                cases returned
                exact isOwn }
    · cases stepped
  | expire =>
    simp only [HostState.runPiece, Option.ite_none_right_eq_some, Option.some.injEq] at stepped
    obtain ⟨⟨-, empty⟩, -⟩ := stepped
    obtain ⟨message, mem, -⟩ := waits trivial
    simp [empty] at mem
  | apply =>
    simp only [HostState.runPiece] at stepped
    split at stepped
    next event applies =>
      split at stepped
      · cases stepped
        exact kept.wait stored rfl (fun message mem => mem)
      next error fails =>
        cases stepped
        exact kept.leave stored (waits (by simp [BridgeInvocation.Leaves, applies, fails, Except.toOption])) _
    · cases stepped

end

end

/-! ### The main loop -/

section

variable (kept : HostKept state)
include kept

theorem moveReader (quiet : ∀ id, state.reader ≠ .removing id) {reader : ReaderPhase}
    {lines : List HostLine} (fewer : ({ state with reader, lines } : HostState).flight.Sublist state.flight)
    (continues : ∀ id, reader ≠ .removing id) (ends : ∀ reason, reader = .ended reason → reason.Expected) :
    HostKept { state with reader, lines } where
  issued := kept.issued
  kept other found isFound := { kept.kept other found isFound with }
  asked := kept.asked
  answered := kept.answered
  delivered := kept.delivered
  flight message mem := kept.flight message (fewer.subset mem)
  last := kept.last.sublist fewer
  removing other isOther := absurd isOther (continues other)
  gone other isDelivered mem := absurd (kept.gone other isDelivered mem) (quiet other)
  ends := ends

theorem readLine (reading : state.reader = .reading) (stepped : state.readLine = some next) :
    HostKept next := by
  have quiet : ∀ id, state.reader ≠ .removing id := by simp [reading]
  unfold HostState.readLine at stepped
  split at stepped
  next message lines isLines =>
    cases stepped
    exact kept.moveReader quiet (by simp [HostState.flight, reading, isLines]) (by simp) (by simp)
  next lines isLines =>
    cases stepped
    exact kept.moveReader quiet (by simp [HostState.flight, reading, isLines]) (by simp)
      (by rintro _ ⟨⟩; trivial)
  next empty =>
    split at stepped
    · cases stepped
      exact kept.moveReader quiet (by simp [HostState.flight]) (by simp) (by rintro _ ⟨⟩; trivial)
    · cases stepped

theorem findSender (finding : state.reader = .finding message) : HostKept (state.findSender message) := by
  have onTheWay : message ∈ state.flight := by simp [HostState.flight, finding]
  obtain ⟨-, -, -, pending⟩ := kept.stored_of_flight onTheWay
  rw [HostState.findSender, if_pos pending]
  exact kept.moveReader (by simp [finding]) (by simp [HostState.flight, finding]) (by simp) (by simp)

theorem deliverMessage (delivering : state.reader = .delivering message) :
    HostKept (state.deliverMessage message) := by
  have quiet : ∀ id, state.reader ≠ .removing id := by simp [delivering]
  have onTheWay : message ∈ state.flight := by simp [HostState.flight, delivering]
  obtain ⟨invocation, stored, waiting, -⟩ := kept.stored_of_flight onTheWay
  obtain ⟨asked, undelivered, isAnswered⟩ := kept.flight message onTheWay
  have own := kept.kept _ invocation stored
  unfold HostState.deliverMessage
  simp only [stored]
  split
  next outcome returned => simp [returned, BridgePhase.waiting] at waiting
  next live =>
    split
    next isResult =>
      -- from here on the result counts as delivered, and the loop removes the entry next
      have still : ∀ other ≠ message.id, other ∉ state.delivered → other ∉ insert message.id state.delivered := by
        intro other isOther before mem
        exact before (Finset.mem_of_mem_insert_of_ne mem isOther)
      have later : state.flight = message :: (state.lines.filterMap fun line => match line with
          | .message message => some message
          | .stop => none) := by simp [HostState.flight, delivering]
      have last := kept.last
      rw [later, List.pairwise_cons] at last
      refine { kept with issued := ?_, kept := ?_, asked := ?_, delivered := ?_, flight := ?_, last := ?_,
                         removing := ?_, gone := ?_, ends := ?_ }
      · intro other found isFound
        by_cases isOwn : other = message.id
        · rw [isOwn]
          exact kept.issued _ invocation stored
        · simp only [HostState.put, AList.lookup_insert_ne isOwn] at isFound
          exact kept.issued other found isFound
      · intro other found isFound
        by_cases isOwn : other = message.id
        · subst isOwn
          simp only [HostState.put, AList.lookup_insert, Option.some.injEq] at isFound
          subst isFound
          refine { own with inbox := ?_, waits := ?_, cleared := ?_ }
          · intro received mem
            rw [List.mem_append, List.mem_singleton] at mem
            cases mem with
            | inl before => exact (own.inbox received before).imp_right fun _ _ => Finset.mem_insert_self _ _
            | inr isNew => exact ⟨by rw [isNew], fun _ => Finset.mem_insert_self _ _⟩
          · exact fun _ notDelivered => absurd (Finset.mem_insert_self _ _) notDelivered
          · exact fun _ _ => Finset.mem_insert_self _ _
        · simp only [HostState.put, AList.lookup_insert_ne isOwn] at isFound
          have other' := kept.kept other found isFound
          refine { other' with inbox := ?_, waits := ?_, cleared := ?_ }
          · intro received mem
            exact (other'.inbox received mem).imp_right fun before isResult =>
              Finset.mem_insert_of_mem (before isResult)
          · intro asked notDelivered
            exact other'.waits asked fun before => notDelivered (Finset.mem_insert_of_mem before)
          · exact fun returned pending => Finset.mem_insert_of_mem (other'.cleared returned pending)
      · intro other mem
        by_cases isOwn : other = message.id
        · exact ⟨_, by rw [isOwn]; exact AList.lookup_insert _⟩
        · obtain ⟨found, isFound⟩ := kept.asked other mem
          exact ⟨found, by simpa only [HostState.put, AList.lookup_insert_ne isOwn] using isFound⟩
      · intro other mem
        rw [Finset.mem_insert] at mem
        cases mem with
        | inl isOwn => exact isOwn ▸ isAnswered isResult
        | inr before => exact kept.delivered other before
      · intro other mem
        have before := kept.flight other (by rw [later]; exact List.mem_cons_of_mem _ mem)
        exact ⟨before.1, still _ (last.1 other mem isResult) before.2.1, before.2.2⟩
      · exact last.2
      · rintro _ ⟨⟩
        exact Finset.mem_insert_self _ _
      · intro other mem pending
        rw [Finset.mem_insert] at mem
        cases mem with
        | inl isOwn => rw [isOwn]
        | inr before => exact absurd (kept.gone other before pending) (quiet other)
      · rintro _ ⟨⟩
    next noResult =>
      have received : HostKept (state.put message.id { invocation with inbox := invocation.inbox ++ [message] }) := by
        refine kept.put stored { own with inbox := ?_ }
        intro other mem
        rw [List.mem_append, List.mem_singleton] at mem
        cases mem with
        | inl before => exact own.inbox other before
        | inr isNew =>
          subst isNew
          exact ⟨rfl, fun isResult => absurd isResult noResult⟩
      exact received.moveReader quiet (by simp [HostState.flight, HostState.put, delivering]) (by simp) (by simp)

theorem remove (removing : state.reader = .removing id) :
    HostKept { state with pending := state.pending.erase id, reader := .reading } := by
  have isDelivered := kept.removing id removing
  have onTheWay : ({ state with pending := state.pending.erase id, reader := .reading } : HostState).flight =
      state.flight := by simp [HostState.flight, removing]
  refine { kept with kept := ?_, flight := ?_, last := ?_, removing := ?_, gone := ?_, ends := ?_ }
  · intro other found isFound
    have other' := kept.kept other found isFound
    refine { other' with waits := ?_, registered := ?_, cleared := ?_ }
    · intro asked undelivered
      refine (other'.waits asked undelivered).imp_right fun mem => Finset.mem_erase.mpr ⟨?_, mem⟩
      rintro rfl
      exact undelivered isDelivered
    · intro sending
      refine Finset.mem_erase.mpr ⟨?_, other'.registered sending⟩
      rintro rfl
      exact kept.fresh (other'.unasked (Or.inr sending)) isDelivered
    · exact fun returned mem => other'.cleared returned (Finset.mem_of_mem_erase mem)
  · rw [onTheWay]
    exact kept.flight
  · rw [onTheWay]
    exact kept.last
  · rintro _ ⟨⟩
  · intro other before mem
    rw [Finset.mem_erase] at mem
    have same := kept.gone other before mem.2
    rw [removing, ReaderPhase.removing.injEq] at same
    exact absurd same.symm mem.1
  · rintro _ ⟨⟩

end

/-! ### The parent -/

theorem write (kept : HostKept state) (message : BridgeMessage) (asked : message.id ∈ state.asked)
    (unanswered : message.id ∉ state.answered) {answered : Finset String}
    (isAnswered : ∀ id, id ∈ answered ↔ id ∈ state.answered ∨ message.isResult = true ∧ id = message.id) :
    HostKept { state with lines := state.lines ++ [.message message], answered } := by
  have onTheWay : ({ state with lines := state.lines ++ [.message message], answered } : HostState).flight =
      state.flight ++ [message] := by simp [HostState.flight]
  refine { kept with kept := ?_, answered := ?_, delivered := ?_, flight := ?_, last := ?_ }
  · exact fun other found isFound => { kept.kept other found isFound with }
  · intro other mem
    rw [isAnswered] at mem
    cases mem with
    | inl before => exact kept.answered other before
    | inr isNew => exact isNew.2 ▸ asked
  · exact fun other mem => (isAnswered other).mpr (Or.inl (kept.delivered other mem))
  · rw [onTheWay]
    intro other mem
    rw [List.mem_append, List.mem_singleton] at mem
    cases mem with
    | inl before =>
      obtain ⟨isAsked, undelivered, result⟩ := kept.flight other before
      exact ⟨isAsked, undelivered, fun isResult => (isAnswered _).mpr (Or.inl (result isResult))⟩
    | inr isNew =>
      subst isNew
      exact ⟨asked, fun before => unanswered (kept.delivered _ before),
        fun isResult => (isAnswered _).mpr (Or.inr ⟨isResult, rfl⟩)⟩
  · rw [onTheWay, List.pairwise_append]
    refine ⟨kept.last, List.pairwise_singleton _ _, ?_⟩
    intro earlier before later isLater isResult same
    rw [List.mem_singleton] at isLater
    subst isLater
    exact unanswered (same ▸ (kept.flight earlier before).2.2 isResult)

theorem step (kept : HostKept state) {action : HostAction} (waits : Waits state action)
    (stepped : HostState.step state action = some next) : HostKept next := by
  cases action with
  | invoke =>
    cases stepped
    exact kept.invoke
  | cancel id =>
    obtain ⟨invocation, stored, rfl⟩ := Option.map_eq_some_iff.mp stepped
    exact kept.put stored { kept.kept id invocation stored with }
  | run id piece =>
    obtain ⟨invocation, stored, stepped⟩ := Option.bind_eq_some_iff.mp stepped
    exact kept.runPiece stored (waits invocation stored) stepped
  | parentTrace id event =>
    simp only [HostState.step, Option.ite_none_right_eq_some, Option.some.injEq] at stepped
    obtain ⟨⟨asked, -⟩, rfl⟩ := stepped
    exact kept.write (.trace id event) asked waits (by simp [BridgeMessage.isResult])
  | parentResult id result =>
    simp only [HostState.step, Option.ite_none_right_eq_some, Option.some.injEq] at stepped
    obtain ⟨⟨asked, unanswered, -⟩, rfl⟩ := stepped
    exact kept.write (.result id result) asked unanswered (by simp [BridgeMessage.isResult, BridgeMessage.id, or_comm])
  | parentStop =>
    simp only [HostState.step, Option.ite_none_left_eq_some, Option.some.injEq] at stepped
    obtain ⟨-, rfl⟩ := stepped
    have onTheWay : ({ state with lines := state.lines ++ [.stop] } : HostState).flight = state.flight := by
      simp [HostState.flight]
    exact { kept with
      kept := fun other found isFound => { kept.kept other found isFound with }
      flight := by rw [onTheWay]; exact kept.flight
      last := by rw [onTheWay]; exact kept.last }
  | parentClose =>
    cases stepped
    exact { kept with kept := fun other found isFound => { kept.kept other found isFound with } }
  | read =>
    simp only [HostState.step, Option.ite_none_right_eq_some] at stepped
    exact kept.readLine stepped.1 stepped.2
  | readFails error =>
    simp only [HostState.step, Option.ite_none_right_eq_some, Option.some.injEq] at stepped
    obtain ⟨reading, rfl⟩ := stepped
    exact kept.moveReader (by simp [reading]) (by simp [HostState.flight]) (by simp)
      (by rintro _ ⟨⟩; trivial)
  | find =>
    simp only [HostState.step] at stepped
    split at stepped
    next message finding =>
      cases stepped
      exact kept.findSender finding
    · cases stepped
  | deliver =>
    simp only [HostState.step] at stepped
    split at stepped
    next message delivering =>
      cases stepped
      exact kept.deliverMessage delivering
    · cases stepped
  | remove =>
    simp only [HostState.step] at stepped
    split at stepped
    next id removing =>
      cases stepped
      exact kept.remove removing
    · cases stepped

end HostKept

/-- In every run in which each invocation waits for its result, and the parent sends no trace event after
it: the host ends for no invocation, each result comes to the invocation of its id, and the entry of an
invocation that has returned is gone. -/
theorem invocations_keep_host (state : HostState) (reachable : HostState.machine.Reachable Waits state) :
    Served state := by
  have kept : HostKept state := reachable.invariant
    (by rintro _ rfl; exact .initial) (fun _ _ _ holds waits stepped => holds.step waits stepped)
  exact kept.served

def askAgent : List HostAction :=
  [.invoke, .run (bridgeId 1) .register, .run (bridgeId 1) .sent]

def agentResult : BridgeResult := { ok := true, output := some .null, metadata := none, state := none, error := none }

/-- An invocation gets a trace event and its result, and the host stops. -/
theorem invocations_keep_host_stopped :
    ∃ state, (HostState.machine.Reachable Waits state ∧ state.reader = .ended .stopped ∧
      (state.invocations.lookup (bridgeId 1)).map (·.phase) =
        some (.returned (.answered (bridgeId 1) agentResult))) ∧ Served state := by
  obtain ⟨state, reachable, passes⟩ := HostState.machine.reachable_of_execute Waits
    (show HostState.machine.start .initial from rfl)
    (askAgent ++ [.parentTrace (bridgeId 1) (.stageStarted "First-Token" .null), .parentResult (bridgeId 1) agentResult,
      .parentStop, .run (bridgeId 1) .check, .read, .find, .deliver, .run (bridgeId 1) .receive, .run (bridgeId 1) .apply,
      .run (bridgeId 1) .check, .read, .find, .deliver, .run (bridgeId 1) .receive, .remove, .read])
    (fun state => decide (state.reader = .ended .stopped ∧ (state.invocations.lookup (bridgeId 1)).map (·.phase) =
      some (.returned (.answered (bridgeId 1) agentResult))))
    (by decide +kernel)
  exact ⟨state, ⟨reachable, of_decide_eq_true passes⟩, invocations_keep_host state reachable⟩

/-- An invocation is cancelled while its agent works: the result that comes later ends the host. -/
theorem late_result_ends_host : ∃ state, HostState.machine.Reachable Machine.always state ∧
      state.reader = .ended (.failed "the TypeScript provider invocation already stopped") ∧ ¬ Served state := by
  obtain ⟨state, reachable, passes⟩ := HostState.machine.reachable_of_execute Machine.always
    (show HostState.machine.start .initial from rfl)
    (askAgent ++ [.cancel (bridgeId 1), .run (bridgeId 1) .check, .parentResult (bridgeId 1) agentResult, .read, .find,
      .deliver])
    (fun state => decide (state.reader = .ended (.failed "the TypeScript provider invocation already stopped")))
    (by decide +kernel)
  have ended := of_decide_eq_true passes
  exact ⟨state, reachable, ended, fun served => served.ends _ ended⟩

end Vifu.Sdk
