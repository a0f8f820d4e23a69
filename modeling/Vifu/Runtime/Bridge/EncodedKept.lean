import Vifu.Runtime.Bridge.Delivery
import Vifu.Runtime.Bridge.Encoded
import Vifu.Runtime.Fits

/-!
# Isolation of invocations behind the encoded bridge

A drain takes events from the registry before it encodes any of them, and a request starts or
cancels an invocation before its response is encoded.  What cannot be encoded then fails a call
that has had its effects.
-/

namespace Vifu.Runtime

open Foundation

/-- The handle that the response of a request will have to carry. -/
def RequestPhase.promised : RequestPhase → Option InvocationHandle
  | .activating handle | .flagging handle _ => some handle
  | .received | .publishing _ | .answering _ => none

/-- The next section of a drain finds the invocation that it polls or takes, unless it has no event
to lose, and the frames that it makes fit. -/
def DrainCall.Deliverable (floats : FloatText) (registry : InvocationRegistry) (call : DrainCall)
    (handle : String) : Prop :=
  match call.phase, registry.entries.lookup handle with
  | .drain, _ | .take, some _ => True
  | .poll events, some entry => ∀ event ∈ events,
      eventFrameBytes floats handle entry.poll.output event ≤ maxProtocolFrameBytes
  | .poll events, none => call.frames = [] ∧ events = []
  | .take, none => call.frames = []

/-- The frames of a drain fit, and so do the responses to requests that have an effect. -/
def Fitting (host : BridgeHost) (state : EncodedState) : EncodedAction → Prop
  | .drainSection id => ∀ call ∈ state.bridge.calls.lookup id, ∀ handle ∈ call.handles.head?,
      call.Deliverable host.floats state.bridge.registry handle
  | .requestSection id _ _ _ => ∀ call ∈ state.requests.lookup id, ∀ handle ∈ call.phase.promised,
      handleResponseBytes call.request.id handle ≤ maxProtocolFrameBytes
  | .update .. | .pushProviderEvent .. | .receive .. | .beginDrain .. | .finishDrain .. => True

instance decidableDeliverable (floats : FloatText) (registry : InvocationRegistry) (call : DrainCall)
    (handle : String) : Decidable (call.Deliverable floats registry handle) := by
  unfold DrainCall.Deliverable
  split <;> infer_instance

instance decidableFitting (host : BridgeHost) : ∀ state action, Decidable (Fitting host state action) := by
  intro state action
  unfold Fitting
  cases action <;> infer_instance

def EncodedAnswer.Contained (floats : FloatText) (answer : EncodedAnswer) : Prop :=
  (∃ response text, response.id = answer.request.id ∧
    encodeProtocolFrame floats (.response response) = .ok text ∧ answer.result = .ok [text]) ∨
  (∃ error, answer.result = .error error) ∧ answer.effects = []

/-- No event that was taken from the registry is lost: a call has returned it, or one that is in
progress holds it.  Every request was answered, or has failed without an effect. -/
structure Isolated (host : BridgeHost) (state : EncodedState) : Prop where
  events : ∀ handle, ∀ event ∈ state.bridge.drained handle, event ∈ state.bridge.returned handle ∨
    ∃ id call, state.bridge.calls.lookup id = some call ∧ event ∈ call.held handle
  answers : ∀ answer ∈ state.answers, answer.Contained host.floats

/-! ## Drains -/

def DrainCall.Encodable (floats : FloatText) (call : DrainCall) : Prop :=
  ∀ frame ∈ call.frames, ∃ handle output event, frame = eventFrame handle output event ∧
    eventFrameBytes floats handle output event ≤ maxProtocolFrameBytes

structure Kept (floats : FloatText) (bridge : BridgeState) : Prop where
  events : ∀ handle, ∀ event ∈ bridge.drained handle, event ∈ bridge.returned handle ∨
    ∃ id call, bridge.calls.lookup id = some call ∧ event ∈ call.held handle
  encodable : ∀ id call, bridge.calls.lookup id = some call → call.Encodable floats

variable {host : BridgeHost} {floats : FloatText} {bridge : BridgeState} {id : ℕ} {call : DrainCall}
  {events : List InvocationEvent} {registry : InvocationRegistry} {active removed : List String}

theorem DrainCall.encodes (encodable : call.Encodable floats) :
    ∃ texts, call.frames.mapM (fun frame => encodeProtocolFrame floats frame.toProtocol) = .ok texts := by
  have encodeEach : ∀ frame ∈ call.frames,
      ∃ text, (fun frame => encodeProtocolFrame floats frame.toProtocol) frame = .ok text := by
    intro frame mem
    obtain ⟨handle, output, event, rfl, fits⟩ := encodable frame mem
    rw [← eventFrame_size] at fits
    exact (encodeProtocolFrame_fits (eventFrame_valid handle output event)).mpr fits
  obtain ⟨texts, encoded, -⟩ := mapM_ok_of_forall encodeEach
  exact ⟨texts, encoded⟩

theorem DrainCall.held_of_not_polling (quiet : ∀ events, call.phase ≠ .poll events) (handle : String) :
    call.held handle = call.framed handle := by
  unfold held visit
  split
  next events isPolling =>
    split at isPolling
    · exact absurd (Option.some.inj isPolling) (quiet events)
    · cases isPolling
  next => exact List.append_nil _

theorem DrainCall.held_poll (polls : call.phase = .poll events) {current : String}
    (head : call.handles.head? = some current) (handle : String) :
    call.held handle = call.framed handle ++ if handle = current then events else [] := by
  by_cases isCurrent : handle = current
  · simp [held, visit, polls, head, isCurrent]
  · simp [held, visit, polls, head, isCurrent, Ne.symm isCurrent]

namespace Kept

theorem initial : Kept floats .initial where
  events handle event mem := by cases mem
  encodable id call running := by simp [BridgeState.initial] at running

theorem advance (kept : Kept floats bridge) (running : bridge.calls.lookup id = some call) {after : DrainCall}
    {drained : String → List InvocationEvent}
    (holds : ∀ handle, ∀ event ∈ call.held handle, event ∈ after.held handle)
    (fresh : ∀ handle, ∀ event ∈ drained handle, event ∈ bridge.drained handle ∨ event ∈ after.held handle)
    (encodable : after.Encodable floats) :
    Kept floats { bridge with registry, drained, calls := bridge.calls.insert id after } where
  events handle event mem := by
    cases fresh handle event mem with
    | inr isHeld => exact Or.inr ⟨id, after, AList.lookup_insert _, isHeld⟩
    | inl before =>
      cases kept.events handle event before with
      | inl returned => exact Or.inl returned
      | inr isHeld =>
        obtain ⟨other, holder, runs, isHeld⟩ := isHeld
        by_cases isCall : other = id
        · subst isCall
          rw [running, Option.some.injEq] at runs
          subst runs
          exact Or.inr ⟨other, after, AList.lookup_insert _, holds handle event isHeld⟩
        · exact Or.inr ⟨other, holder, by rwa [AList.lookup_insert_ne isCall], isHeld⟩
  encodable other holder runs := by
    by_cases isCall : other = id
    · subst isCall
      rw [AList.lookup_insert, Option.some.injEq] at runs
      exact runs ▸ encodable
    · rw [AList.lookup_insert_ne isCall] at runs
      exact kept.encodable other holder runs

theorem leave (kept : Kept floats bridge) (running : bridge.calls.lookup id = some call)
    {returned : String → List InvocationEvent}
    (still : ∀ handle, ∀ event ∈ bridge.returned handle, event ∈ returned handle)
    (delivers : ∀ handle, ∀ event ∈ call.held handle, event ∈ returned handle) : Kept floats { bridge with
      registry, returned, removed, activeInvocations := active, calls := bridge.calls.erase id } where
  events handle event mem := by
    cases kept.events handle event mem with
    | inl before => exact Or.inl (still handle event before)
    | inr isHeld =>
      obtain ⟨other, holder, runs, isHeld⟩ := isHeld
      by_cases isCall : other = id
      · subst isCall
        rw [running, Option.some.injEq] at runs
        subst runs
        exact Or.inl (delivers handle event isHeld)
      · exact Or.inr ⟨other, holder, by rwa [AList.lookup_erase_ne isCall], isHeld⟩
  encodable other holder runs := by
    by_cases isCall : other = id
    · subst isCall
      simp at runs
    · rw [AList.lookup_erase_ne isCall] at runs
      exact kept.encodable other holder runs

theorem beginDrain (kept : Kept floats bridge) (unused : bridge.calls.lookup id = none) :
    Kept floats { bridge with calls := bridge.calls.insert id (.start bridge.activeInvocations) } where
  events handle event mem := by
    refine (kept.events handle event mem).imp_right ?_
    rintro ⟨other, holder, runs, isHeld⟩
    have isOld : other ≠ id := by
      rintro rfl
      rw [unused] at runs
      cases runs
    exact ⟨other, holder, by rwa [AList.lookup_insert_ne isOld], isHeld⟩
  encodable other holder runs := by
    by_cases isNew : other = id
    · subst isNew
      rw [AList.lookup_insert, Option.some.injEq] at runs
      subst runs
      intro frame mem
      cases mem
    · rw [AList.lookup_insert_ne isNew] at runs
      exact kept.encodable other holder runs

end Kept

/-! ### The three sections -/

section Sections

variable {current : String} {rest : List String} (kept : Kept floats bridge)
  (running : bridge.calls.lookup id = some call) (visits : call.handles = current :: rest)

include kept running visits

theorem Kept.drainPhase (drains : call.phase = .drain) : Kept floats (bridge.afterSection id call current) := by
  have encodable := kept.encodable id call running
  have quiet : ∀ events, call.phase ≠ .poll events := by simp [drains]
  cases stored : bridge.registry.entries.lookup current with
  | none =>
    rw [afterSection_gone drains stored]
    refine kept.advance running ?_ (fun handle event mem => Or.inl mem) encodable
    intro handle event isHeld
    rw [call.held_of_not_polling quiet] at isHeld
    rw [DrainCall.held_of_not_polling (by simp [DrainCall.complete, DrainCall.advance])]
    exact isHeld
  | some entry =>
    rw [afterSection_drain drains stored]
    have polls : ∀ handle, DrainCall.held { call with phase := .poll entry.events } handle =
        call.framed handle ++ if handle = current then entry.events else [] :=
      DrainCall.held_poll rfl (by rw [visits]; exact List.head?_cons)
    refine kept.advance running ?_ ?_ encodable
    · intro handle event isHeld
      rw [call.held_of_not_polling quiet] at isHeld
      exact List.mem_append_left _ isHeld
    · -- what the section drains is what the call will frame
      intro handle event mem
      rw [polls]
      by_cases isCurrent : handle = current
      · subst isCurrent
        rw [Function.update_self, List.mem_append] at mem
        simpa using mem.imp_right Or.inr
      · rw [Function.update_of_ne isCurrent] at mem
        exact Or.inl mem

theorem Kept.pollPhase (polls : call.phase = .poll events)
    (deliverable : call.Deliverable floats bridge.registry current) :
    Kept floats (bridge.afterSection id call current) := by
  have encodable := kept.encodable id call running
  have held := DrainCall.held_poll polls (by rw [visits]; exact List.head?_cons)
  cases stored : bridge.registry.entries.lookup current with
  | none =>
    rw [DrainCall.Deliverable, polls, stored] at deliverable
    have failed : bridge.afterSection id call current = { bridge with calls := bridge.calls.erase id } := by
      simp [BridgeState.afterSection, DrainCall.runSection, polls, InvocationRegistry.poll, stored]
    rw [failed]
    refine kept.leave running (fun handle event before => before) ?_
    intro handle event isHeld
    rw [held] at isHeld
    simp [DrainCall.framed, deliverable.1, deliverable.2] at isHeld
  | some entry =>
    rw [DrainCall.Deliverable, polls, stored] at deliverable
    rw [afterSection_poll polls stored]
    have moves : ∀ handle, ∀ event ∈ call.held handle, event ∈ DrainCall.framed
        { call with frames := call.frames ++ events.map (eventFrame current entry.poll.output) } handle := by
      intro handle event isHeld
      rw [held] at isHeld
      by_cases isCurrent : handle = current
      · subst isCurrent
        rw [DrainCall.framed_self]
        simpa using isHeld
      · rw [DrainCall.framed_of_ne call isCurrent]
        simpa [isCurrent] using isHeld
    refine kept.advance running ?_ (fun handle event mem => Or.inl mem) ?_
    · intro handle event isHeld
      rw [DrainCall.held_of_not_polling]
      · cases entry.terminal <;> exact moves handle event isHeld
      · cases entry.terminal <;> simp [DrainCall.advance]
    · -- the frames that are added fit by the condition
      have added : ∀ frame ∈ call.frames ++ events.map (eventFrame current entry.poll.output),
          ∃ handle output event, frame = eventFrame handle output event ∧
            eventFrameBytes floats handle output event ≤ maxProtocolFrameBytes := by
        intro frame mem
        rw [List.mem_append, List.mem_map] at mem
        cases mem with
        | inl before => exact encodable frame before
        | inr isNew =>
          obtain ⟨event, isEvent, rfl⟩ := isNew
          exact ⟨current, entry.poll.output, event, rfl, deliverable event isEvent⟩
      cases entry.terminal <;> exact added

omit visits in
theorem Kept.takePhase (takes : call.phase = .take) (deliverable : call.Deliverable floats bridge.registry current) :
    Kept floats (bridge.afterSection id call current) := by
  have encodable := kept.encodable id call running
  have held := call.held_of_not_polling (by simp [takes])
  cases stored : bridge.registry.entries.lookup current with
  | none =>
    rw [DrainCall.Deliverable, takes, stored] at deliverable
    have failed : bridge.afterSection id call current = { bridge with calls := bridge.calls.erase id } := by
      simp [BridgeState.afterSection, DrainCall.runSection, takes, InvocationRegistry.take, InvocationRegistry.poll,
        stored]
    rw [failed]
    refine kept.leave running (fun handle event before => before) ?_
    intro handle event isHeld
    simp [held, DrainCall.framed, deliverable] at isHeld
  | some entry =>
    have taken : bridge.afterSection id call current = { bridge with
        registry := (bridge.registry.take current).2
        calls := bridge.calls.insert id (call.complete current) } := by
      simp [BridgeState.afterSection, DrainCall.runSection, takes, InvocationRegistry.take, InvocationRegistry.poll,
        stored]
    rw [taken]
    refine kept.advance running ?_ (fun handle event member => Or.inl member) encodable
    intro handle event isHeld
    rw [held] at isHeld
    rw [DrainCall.held_of_not_polling (by simp [DrainCall.complete, DrainCall.advance])]
    exact isHeld

theorem Kept.drainSection (deliverable : call.Deliverable floats bridge.registry current) :
    Kept floats (bridge.afterSection id call current) := by
  cases phase : call.phase with
  | drain => exact kept.drainPhase running visits phase
  | poll events => exact kept.pollPhase running visits phase deliverable
  | take => exact kept.takePhase running phase deliverable

end Sections

theorem Kept.finishDrain (kept : Kept floats bridge) (running : bridge.calls.lookup id = some call)
    (visitedAll : call.handles = []) : Kept floats { bridge with
      activeInvocations := active, removed, calls := bridge.calls.erase id
      returned := fun handle => bridge.returned handle ++ call.framed handle } := by
  refine kept.leave running (fun handle event before => List.mem_append_left _ before) ?_
  intro handle event isHeld
  have held : call.held handle = call.framed handle := by simp [DrainCall.held, DrainCall.visit, visitedAll]
  rw [held] at isHeld
  exact List.mem_append_right _ isHeld

theorem Kept.same (kept : Kept floats bridge) {next : BridgeState} (drained : next.drained = bridge.drained)
    (returned : next.returned = bridge.returned) (calls : next.calls = bridge.calls) : Kept floats next where
  events := by
    rw [drained, returned, calls]
    exact kept.events
  encodable := by
    rw [calls]
    exact kept.encodable

/-! ## Requests -/

/-- The request has an id for its response, and once it has had an effect its response fits. -/
structure RequestCall.Answerable (floats : FloatText) (call : RequestCall) : Prop where
  named : call.request.id ≠ ""
  phase : match call.phase with
    | .received | .flagging _ _ => call.effects = []
    | .activating _ => True
    | .publishing handle => handleResponseBytes call.request.id handle ≤ maxProtocolFrameBytes
    | .answering response => response.id = call.request.id ∧
        (call.effects = [] ∨ ∃ text, encodeProtocolFrame floats (.response response) = .ok text)

structure Secured (host : BridgeHost) (state : EncodedState) : Prop where
  kept : Kept host.floats state.bridge
  requests : ∀ id call, state.requests.lookup id = some call → call.Answerable host.floats
  answers : ∀ answer ∈ state.answers, answer.Contained host.floats

variable {state next : EncodedState} {request : RequestCall} {handle : InvocationHandle}

theorem handleResponse_encodes {id : String} (named : id ≠ "")
    (fits : handleResponseBytes id handle ≤ maxProtocolFrameBytes) :
    ∃ text, encodeProtocolFrame floats (.response (handleResponse id handle)) = .ok text := by
  rw [← handleResponse_size floats] at fits
  exact (encodeProtocolFrame_fits (handleResponse_valid named handle)).mpr fits

theorem EncodedAnswer.contained (answerable : request.Answerable floats) {response : ResponseFrame}
    (answering : request.phase = .answering response) :
    EncodedAnswer.Contained floats ⟨request.request, request.effects,
      (encodeProtocolFrame floats (.response response)).map fun text => [text]⟩ := by
  have phase := answerable.phase
  rw [answering] at phase
  cases encoded : encodeProtocolFrame floats (.response response) with
  | ok text => exact Or.inl ⟨response, text, phase.1, encoded, rfl⟩
  | error error =>
    refine Or.inr ⟨⟨error, rfl⟩, ?_⟩
    simpa [encoded] using phase.2

namespace Secured

section

variable (secured : Secured host state) {id : ℕ}
include secured

theorem onBridge {action : BridgeAction} (stepped : state.onBridge action = some next)
    (kept : Kept host.floats next.bridge) : Secured host next := by
  obtain ⟨bridge, -, rfl⟩ := Option.map_eq_some_iff.mp stepped
  exact { secured with kept }

theorem put (answerable : request.Answerable host.floats) : Secured host (state.put id request) where
  kept := secured.kept
  answers := secured.answers
  requests other call runs := by
    by_cases isRequest : other = id
    · subst isRequest
      rw [EncodedState.put, AList.lookup_insert, Option.some.injEq] at runs
      exact runs ▸ answerable
    · rw [EncodedState.put, AList.lookup_insert_ne isRequest] at runs
      exact secured.requests other call runs

theorem startInvoke (input : InvocationInput) (handle : InvocationHandle)
    (cancellation : CancellationToken) (reply : WorkerReply) :
    Secured host (state.startInvoke input handle cancellation reply).2 := by
  unfold EncodedState.startInvoke
  dsimp only
  split
  · exact secured
  · split
    · exact { secured with kept := secured.kept.same rfl rfl rfl }
    · split
      · exact { secured with kept := secured.kept.same rfl rfl rfl }
      · split <;> exact { secured with kept := secured.kept.same rfl rfl rfl }

theorem handleRequest (id : ℕ) (answerable : request.Answerable host.floats)
    (received : request.phase = .received) (handle : InvocationHandle) (cancellation : CancellationToken)
    (reply : WorkerReply) : Secured host (state.handleRequest host id request handle cancellation reply) := by
  have untouched : request.effects = [] := by
    have phase := answerable.phase
    rwa [received] at phase
  have answering (response : ResponseFrame) (same : response.id = request.request.id) :
      (request.enter (.answering response)).Answerable host.floats :=
    ⟨answerable.named, same, Or.inl untouched⟩
  unfold EncodedState.handleRequest
  dsimp only
  split
  · exact secured.put (answering _ (handleHello_id _ _ _))
  · split
    · split
      · exact secured.put (answering _ rfl)
      next input _ =>
        have started := secured.startInvoke input handle cancellation reply
        split
        next error after isAfter =>
          rw [isAfter] at started
          exact started.put (answering _ rfl)
        next issued after isAfter =>
          rw [isAfter] at started
          exact started.put ⟨answerable.named, trivial⟩
    · split
      · split
        · exact secured.put (answering _ rfl)
        · split
          · exact secured.put (answering _ rfl)
          · exact secured.put ⟨answerable.named, untouched⟩
      · exact secured.put (answering _ rfl)

theorem runRequest (running : state.requests.lookup id = some request)
    (fits : ∀ handle ∈ request.phase.promised,
      handleResponseBytes request.request.id handle ≤ maxProtocolFrameBytes)
    {cancellation : CancellationToken} {reply : WorkerReply}
    (stepped : state.runRequest host id request handle cancellation reply = some next) : Secured host next := by
  have answerable := secured.requests id request running
  unfold EncodedState.runRequest at stepped
  split at stepped
  next received =>
    split at stepped
    · cases stepped
    · cases stepped
      exact secured.handleRequest id answerable received handle cancellation reply
  next promised activating =>
    obtain ⟨after, activated, rfl⟩ := Option.map_eq_some_iff.mp stepped
    have encodes : ∃ text, encodeProtocolFrame host.floats (.response (handleResponse request.request.id promised)) = .ok text :=
      handleResponse_encodes answerable.named (fits promised (by rw [activating]; rfl))
    refine (secured.onBridge activated ?_).put ⟨answerable.named, rfl, Or.inr encodes⟩
    obtain ⟨bridge, bridged, rfl⟩ := Option.map_eq_some_iff.mp activated
    simp only [BridgeState.step] at bridged
    split at bridged
    · cases bridged
      exact secured.kept.same rfl rfl rfl
    · cases bridged
  next promised token flagging =>
    cases stepped
    have flagged : Secured host { state with cancelled := token :: state.cancelled } := { secured with }
    exact flagged.put ⟨answerable.named, fits promised (by rw [flagging]; rfl)⟩
  next published publishing =>
    obtain ⟨after, updated, rfl⟩ := Option.map_eq_some_iff.mp stepped
    have phase := answerable.phase
    rw [publishing] at phase
    refine (secured.onBridge updated ?_).put
      ⟨answerable.named, rfl, Or.inr (handleResponse_encodes answerable.named phase)⟩
    obtain ⟨bridge, bridged, rfl⟩ := Option.map_eq_some_iff.mp updated
    cases bridged
    exact secured.kept.same rfl rfl rfl
  next response answering =>
    cases stepped
    refine { kept := secured.kept, requests := ?_, answers := ?_ }
    · intro other call runs
      by_cases isRequest : other = id
      · subst isRequest
        simp at runs
      · exact secured.requests other call (by rwa [AList.lookup_erase_ne isRequest] at runs)
    · intro answer mem
      rw [List.mem_append, List.mem_singleton] at mem
      cases mem with
      | inl before => exact secured.answers answer before
      | inr isNew => exact isNew ▸ EncodedAnswer.contained answerable answering

theorem step {action : EncodedAction} (fitting : Fitting host state action)
    (stepped : EncodedState.step host state action = some next) : Secured host next := by
  cases action with
  | update handle status output error =>
    refine secured.onBridge stepped ?_
    cases stepped
    exact secured.kept.same rfl rfl rfl
  | pushProviderEvent handle event =>
    refine secured.onBridge stepped ?_
    cases stepped
    exact secured.kept.same rfl rfl rfl
  | receive id source =>
    simp only [EncodedState.step] at stepped
    split at stepped
    · cases stepped
      exact secured
    · cases stepped
      exact secured
    · cases stepped
      exact secured
    next request decoded =>
      split at stepped
      · cases stepped
        have named : request.id ≠ "" := by
          simp only [decodeProtocolFrame, check_bind_ok, ensure_ok] at decoded
          obtain ⟨-, -, decoded⟩ := decoded
          split at decoded
          · cases decoded
          next frame _ =>
            rw [check_bind_ok, pure_ok] at decoded
            obtain ⟨valid, rfl⟩ := decoded
            simp only [validateProtocolFrame, check_bind_ok, validateNonEmpty, ensure_ok] at valid
            exact valid.1
        exact secured.put ⟨named, rfl⟩
      · cases stepped
  | requestSection id handle cancellation reply =>
    obtain ⟨call, running, stepped⟩ := Option.bind_eq_some_iff.mp stepped
    exact secured.runRequest running (fitting call running) stepped
  | beginDrain id =>
    refine secured.onBridge stepped ?_
    obtain ⟨bridge, bridged, rfl⟩ := Option.map_eq_some_iff.mp stepped
    simp only [BridgeState.step] at bridged
    split at bridged
    · cases bridged
    next unused =>
      cases bridged
      exact secured.kept.beginDrain unused
  | drainSection id =>
    refine secured.onBridge stepped ?_
    obtain ⟨bridge, bridged, rfl⟩ := Option.map_eq_some_iff.mp stepped
    simp only [BridgeState.step] at bridged
    split at bridged
    next call running =>
      split at bridged
      next current rest visits =>
        cases bridged
        exact secured.kept.drainSection running visits (fitting call running current (by rw [visits]; rfl))
      · cases bridged
    · cases bridged
  | finishDrain id =>
    obtain ⟨call, running, stepped⟩ := Option.bind_eq_some_iff.mp stepped
    obtain ⟨texts, encoded⟩ := DrainCall.encodes (secured.kept.encodable id call running)
    rw [EncodedState.finishDrain, encoded] at stepped
    obtain ⟨after, finished, rfl⟩ := Option.map_eq_some_iff.mp stepped
    refine secured.onBridge finished ?_
    obtain ⟨bridge, bridged, rfl⟩ := Option.map_eq_some_iff.mp finished
    simp only [BridgeState.step, running] at bridged
    split at bridged
    next visitedAll =>
      cases bridged
      exact secured.kept.finishDrain running visitedAll
    · cases bridged

end

theorem initial : Secured host .initial where
  kept := .initial
  requests id call running := by simp [EncodedState.initial] at running
  answers answer mem := by cases mem

end Secured

/-- In every run in which the frames of drains and the responses to effective requests fit, and
each drain finds the invocations that it polls and takes: no event is lost, and no request fails
that has started or cancelled an invocation. -/
theorem encoded_bridge_isolates (host : BridgeHost) (state : EncodedState)
    (reachable : (EncodedState.machine host).Reachable (Fitting host) state) : Isolated host state := by
  have secured : Secured host state := reachable.invariant
    (by rintro _ rfl; exact .initial) (fun _ _ _ holds fitting stepped => holds.step fitting stepped)
  exact ⟨secured.kept.events, secured.answers⟩

def invokeText (id : String) : String :=
  "\x7b\"type\":\"req\",\"id\":\"" ++ id ++ "\",\"method\":\"runtime.invoke\",\"params\":[\"chat\"]\x7d"

def invokeContent (id : String) : Value :=
  .object [("type", .string "req"), ("id", .string id), ("method", .string "runtime.invoke"),
    ("params", .array [.string "chat"])]

def townBridge : BridgeHost where
  reader.content source := (["1", "2"].find? fun id => invokeText id = source).map invokeContent
  floats := fun _ => "0.5"
  complaint _ _ := "missing field"
  projectId := "town"

def encodedStart (id : ℕ) (request : String) (handle : InvocationHandle) : List EncodedAction :=
  [.receive id (invokeText request), .requestSection id handle ⟨id⟩ .accepted, .requestSection id "" ⟨id⟩ .accepted,
    .requestSection id "" ⟨id⟩ .accepted, .update handle .running none none]

/-- The request is answered, and its first event is drained and returned. -/
theorem encoded_bridge_isolates_start :
    ∃ state, ((EncodedState.machine townBridge).Reachable (Fitting townBridge) state ∧
      (state.bridge.returned "invocation-1").map (·.kind) = [.started] ∧
      state.answers.map (·.effects) = [[.started "invocation-1"]]) ∧ Isolated townBridge state := by
  obtain ⟨state, reachable, passes⟩ := (EncodedState.machine townBridge).reachable_of_execute (Fitting townBridge)
    (show (EncodedState.machine townBridge).start .initial from rfl)
    (encodedStart 0 "1" "invocation-1" ++ [.beginDrain 0, .drainSection 0, .drainSection 0, .finishDrain 0])
    (fun state => decide ((state.bridge.returned "invocation-1").map (·.kind) = [.started] ∧
      state.answers.map (·.effects) = [[.started "invocation-1"]]))
    (by decide +kernel)
  exact ⟨state, ⟨reachable, of_decide_eq_true passes⟩, encoded_bridge_isolates townBridge state reachable⟩

/-! ## A frame that is too large -/

theorem eventFrameBytes_delta (floats : FloatText) (handle : String) (output : Option InvocationOutput)
    (sequence : ℕ) (text : String) : text.utf8ByteSize ≤
      eventFrameBytes floats handle output ⟨sequence, .outputDelta, some (.json (.string text)), none⟩ := by
  have longer := le_utf8ByteSize_quoted text
  have data : text.utf8ByteSize ≤
      (recordValue (InvocationData.fields (.json (.string text)))).encodedSize floats := by
    rw [encodedSize_recordValue floats (by simp [InvocationData.fields]), Value.encodedSize_object]
    simp only [InvocationData.fields, presentFields, List.filterMap_cons, List.filterMap_nil, Option.map_some,
      List.map_cons, List.map_nil, List.sum_cons, List.sum_nil, Value.fieldSize, Value.encodedSize, Value.text]
    omega
  have event : text.utf8ByteSize ≤ (recordValue (InvocationEvent.fields
      ⟨sequence, .outputDelta, some (.json (.string text)), none⟩)).encodedSize floats := by
    rw [encodedSize_recordValue floats (by simp [InvocationEvent.fields]), Value.encodedSize_object]
    simp only [InvocationEvent.fields, presentFields, List.filterMap_cons, List.filterMap_nil, Option.map_some,
      Option.map_none, List.map_cons, List.map_nil, List.sum_cons, List.sum_nil, Value.fieldSize]
    omega
  unfold eventFrameBytes
  split <;> omega

section Overlong

variable (host) {handle : String}

section

variable (running : state.bridge.calls.lookup id = some call)
include running

theorem finishDrain_overlong (visitedAll : call.handles = [])
    {output : Option InvocationOutput} {event : InvocationEvent} (mem : eventFrame handle output event ∈ call.frames)
    (long : maxProtocolFrameBytes < eventFrameBytes host.floats handle output event) :
    ∃ next, (EncodedState.machine host).step state (.finishDrain id) = some next ∧
      next.bridge.returned = state.bridge.returned ∧ next.bridge.drained = state.bridge.drained ∧
      next.bridge.calls = state.bridge.calls.erase id := by
  cases encoded : call.frames.mapM fun frame => encodeProtocolFrame host.floats frame.toProtocol with
  | ok texts =>
    obtain ⟨text, -, isEncoded⟩ := forall_of_mapM_ok encoded mem
    have fits := (encodeProtocolFrame_fits (eventFrame_valid handle output event)).mp ⟨text, isEncoded⟩
    rw [eventFrame_size] at fits
    omega
  | error error =>
    simp only [EncodedState.machine, EncodedState.step, running, Option.bind_some, EncodedState.finishDrain, encoded,
      EncodedState.onBridge, BridgeState.step, visitedAll, if_true, Option.map_some]
    exact ⟨_, rfl, rfl, rfl, rfl⟩

theorem step_drainSection {rest : List String} (visits : call.handles = handle :: rest) :
    (EncodedState.machine host).step state (.drainSection id) =
      some { state with bridge := state.bridge.afterSection id call handle } := by
  simp [EncodedState.machine, EncodedState.step, EncodedState.onBridge, BridgeState.step, running, visits]

/-- A running invocation emits a long text while a drain has only that invocation left to visit: the
drain fails, and with it the events of all invocations it has visited before are gone. -/
theorem overlong_delta_fails_drain {entry : InvocationEntry}
    (drains : call.phase = .drain) (last : call.handles = [handle])
    (stored : state.bridge.registry.entries.lookup handle = some entry) (live : entry.poll.status = .running)
    (room : entry.events.length < maxRetainedInvocationEvents)
    (first : ∀ queued ∈ entry.events, queued.kind ≠ .outputDelta) {text : String} (long : maxProtocolFrameBytes < text.utf8ByteSize) :
    ∃ next, (EncodedState.machine host).RunsTo Machine.always state next ∧
      next.bridge.returned = state.bridge.returned ∧
      (∀ other ≠ id, next.bridge.calls.lookup other = state.bridge.calls.lookup other) ∧
      next.bridge.calls.lookup id = none ∧
      ∀ other ≠ handle, next.bridge.drained other = state.bridge.drained other := by
  let delta : ProviderEvent := .outputDelta (.json (.string text))
  let event := entry.nextEvent .outputDelta (some (.json (.string text))) none
  let pushed := entry.pushEvent .outputDelta (some (.json (.string text))) none
  have apart : entry.coalesced .outputDelta (some (.json (.string text))) = none := by
    cases coalesces : entry.coalesced .outputDelta (some (.json (.string text))) with
    | none => rfl
    | some merged =>
      obtain ⟨previous, isLast, coalesces⟩ := Option.bind_eq_some_iff.mp coalesces
      have other := first previous (List.mem_of_getLast? isLast)
      unfold coalesce at coalesces
      split at coalesces
      next isDelta _ _ => exact absurd isDelta other
      next => contradiction
  have queued : pushed.events = entry.events ++ [event] := by
    simp only [pushed, InvocationEntry.pushEvent, apart, List.length_append, List.length_singleton]
    rw [Nat.sub_eq_zero_of_le (by omega), List.drop_zero]
  have polled : pushed.poll = entry.poll := by simp only [pushed, InvocationEntry.pushEvent, apart]
  -- the delta is queued
  let emitted : EncodedState := { state with bridge := { state.bridge with
    registry := state.bridge.registry.pushProviderEvent handle delta
    logs := Function.update state.bridge.logs handle
      ((state.bridge.logs handle).providerEvent state.bridge.registry handle delta) } }
  have emits : (EncodedState.machine host).step state (.pushProviderEvent handle delta) = some emitted := rfl
  have waiting : emitted.bridge.registry.entries.lookup handle = some pushed := by
    simp [emitted, InvocationRegistry.pushProviderEvent, stored, live, pushed, delta]
  -- it is drained
  let drained : EncodedState := { emitted with bridge := { emitted.bridge with
    registry.entries := emitted.bridge.registry.entries.insert handle { pushed with events := [] }
    drained := Function.update emitted.bridge.drained handle (emitted.bridge.drained handle ++ pushed.events)
    calls := emitted.bridge.calls.insert id { call with phase := .poll pushed.events } } }
  have takes : (EncodedState.machine host).step emitted (.drainSection id) = some drained := by
    rw [step_drainSection host (show emitted.bridge.calls.lookup id = some call from running) last,
      afterSection_drain drains waiting]
  -- and framed
  let polling : DrainCall := { call with phase := .poll pushed.events }
  let framed : EncodedState := { drained with bridge := { drained.bridge with
    calls := drained.bridge.calls.insert id (DrainCall.advance { polling with
      frames := call.frames ++ pushed.events.map (eventFrame handle entry.poll.output) }) } }
  have isPolling : drained.bridge.calls.lookup id = some polling := AList.lookup_insert _
  have frames : (EncodedState.machine host).step drained (.drainSection id) = some framed := by
    have kept : drained.bridge.registry.entries.lookup handle = some { pushed with events := [] } :=
      AList.lookup_insert _
    rw [step_drainSection host isPolling last, afterSection_poll rfl kept]
    simp [InvocationEntry.terminal, polled, live, isTerminalStatus, framed, polling]
  -- then it fails the call
  have isFramed : framed.bridge.calls.lookup id = some (DrainCall.advance { polling with
      frames := call.frames ++ pushed.events.map (eventFrame handle entry.poll.output) }) := AList.lookup_insert _
  obtain ⟨next, fails, returned, drainedAfter, calls⟩ := finishDrain_overlong host isFramed
    (by simp [DrainCall.advance, polling, last])
    (show eventFrame handle entry.poll.output event ∈ _ by simp [DrainCall.advance, queued])
    (lt_of_lt_of_le long (eventFrameBytes_delta _ _ _ _ _))
  refine ⟨next, ?_, returned, ?_, ?_, ?_⟩
  · exact .head ⟨_, trivial, emits⟩ (.head ⟨_, trivial, takes⟩ (.head ⟨_, trivial, frames⟩
      (.single ⟨_, trivial, fails⟩)))
  · intro other isOther
    rw [calls, AList.lookup_erase_ne isOther, AList.lookup_insert_ne isOther, AList.lookup_insert_ne isOther]
  · rw [calls, AList.lookup_erase]
  · intro other isOther
    rw [drainedAfter]
    exact Function.update_of_ne isOther _ _

end

end Overlong

/-- One character more than a frame may have. -/
def longText : String := .ofList (List.replicate (maxProtocolFrameBytes + 1) 'a')

theorem longText_size : longText.utf8ByteSize = maxProtocolFrameBytes + 1 := by
  rw [longText, String.utf8ByteSize_ofList, utf8Len_eq_length, List.length_replicate]
  intro character mem
  rw [List.eq_of_mem_replicate mem]
  rfl

/-- Two invocations run, and one drain visits both.  The second emits a long text: the host never gets the
event of the first, which the drain had taken. -/
theorem overlong_frame_loses_events :
    ∃ state, (EncodedState.machine townBridge).Reachable Machine.always state ∧ ¬ Isolated townBridge state := by
  obtain ⟨state, reachable, passes⟩ := (EncodedState.machine townBridge).reachable_of_execute Machine.always
    (show (EncodedState.machine townBridge).start .initial from rfl)
    (encodedStart 0 "1" "invocation-1" ++ encodedStart 1 "2" "invocation-2" ++
      [.beginDrain 0, .drainSection 0, .drainSection 0])
    (fun state => (state.bridge.calls.lookup 0).any (fun call : DrainCall =>
        decide (call.phase = .drain ∧ call.handles = ["invocation-2"])) &&
      (state.bridge.registry.entries.lookup "invocation-2").any (fun entry : InvocationEntry =>
        decide (entry.poll.status = .running ∧ entry.events.length < maxRetainedInvocationEvents ∧
          ∀ queued ∈ entry.events, queued.kind ≠ .outputDelta)) &&
      decide (state.bridge.calls.keys = [0] ∧ state.bridge.drained "invocation-1" ≠ [] ∧
        state.bridge.returned "invocation-1" = []))
    (by decide +kernel)
  simp only [Bool.and_eq_true, decide_eq_true_eq, Option.any_eq_true] at passes
  obtain ⟨⟨⟨call, running, drains, last⟩, entry, stored, live, room, first⟩, single, drained, returned⟩ := passes
  obtain ⟨next, run, returnedAfter, others, gone, drainedAfter⟩ := overlong_delta_fails_drain townBridge running drains
    last stored live room first (show maxProtocolFrameBytes < longText.utf8ByteSize by rw [longText_size]; omega)
  refine ⟨next, reachable.trans run, fun isolated => ?_⟩
  obtain ⟨event, member⟩ := List.exists_mem_of_ne_nil _ drained
  rw [← drainedAfter "invocation-1" (by decide)] at member
  cases isolated.events "invocation-1" event member with
  | inl isReturned =>
    rw [returnedAfter, returned] at isReturned
    cases isReturned
  | inr isHeld =>
    -- no other drain is in progress
    obtain ⟨id, holder, runs, -⟩ := isHeld
    by_cases isCall : id = 0
    · rw [isCall, gone] at runs
      cases runs
    · rw [others id isCall] at runs
      have known : id ∈ state.bridge.calls.keys := AList.mem_keys.mp (AList.lookup_isSome.mp (by rw [runs]; rfl))
      simp [single, isCall] at known

end Vifu.Runtime
