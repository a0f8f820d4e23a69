import Vifu.Runtime.Bridge.Frames

/-!
# The encoded bridge

`handle_encoded` and `drain_encoded` move texts between a host and the runtime.  A request goes
through the sections of `start_invoke` or `cancel_invocation` before its response is encoded, and
all frames of a drain are encoded after the drain has taken their events from the registry.  The
machine below runs both beside the workers, with any number of calls in progress.
-/

namespace Vifu.Runtime

open Foundation

/-- What comes from outside the bridge: the parser and the printer of JSON, what `serde_json` says
about the parameters of a method that it cannot read, and the project of the runtime. -/
structure BridgeHost where
  reader : JsonReader
  floats : FloatText
  complaint : String → Value → String
  projectId : String

/-- How the worker of the runtime meets a new invocation. -/
inductive WorkerReply where
  | accepted
  /-- There is no worker, and its thread cannot be spawned. -/
  | missing
  | full
  | closed
  deriving DecidableEq

/-- What a request has done to invocations, for the statements of results only. -/
inductive RequestEffect where
  | started (handle : InvocationHandle)
  | cancelled (handle : InvocationHandle)
  deriving DecidableEq

/-- How far `handle_encoded` has come with a request. -/
inductive RequestPhase where
  | received
  | activating (handle : InvocationHandle)
  | flagging (handle : InvocationHandle) (cancellation : CancellationToken)
  | publishing (handle : InvocationHandle)
  | answering (response : ResponseFrame)
  deriving DecidableEq

structure RequestCall where
  request : RequestFrame
  phase : RequestPhase
  effects : List RequestEffect
  deriving DecidableEq

/-- What a call of `handle_encoded` returned. -/
structure EncodedAnswer where
  request : RequestFrame
  effects : List RequestEffect
  result : Except String (List String)

namespace RequestCall

def enter (call : RequestCall) (phase : RequestPhase) : RequestCall := { call with phase }

def affect (call : RequestCall) (effect : RequestEffect) : RequestCall :=
  { call with effects := call.effects ++ [effect] }

end RequestCall

structure EncodedState where
  bridge : BridgeState
  cancelled : List CancellationToken
  /-- The `handle_encoded` calls in progress, and those that have returned. -/
  requests : HashMap ℕ RequestCall
  answers : List EncodedAnswer

inductive EncodedAction where
  | update (handle : InvocationHandle) (status : InvocationStatus)
      (output : Option InvocationOutput) (error : Option String)
  | pushProviderEvent (handle : InvocationHandle) (event : ProviderEvent)
  /-- `handle_encoded` decodes its frame. -/
  | receive (id : ℕ) (source : String)
  /-- `handle_encoded` runs its next section; the handle, the token and the reply are those that
      `start_invoke` gets when it is the first one. -/
  | requestSection (id : ℕ) (handle : InvocationHandle) (cancellation : CancellationToken) (reply : WorkerReply)
  | beginDrain (id : ℕ)
  | drainSection (id : ℕ)
  /-- `drain_encoded` encodes the frames that `drain_events` returns. -/
  | finishDrain (id : ℕ)

namespace EncodedState

def initial : EncodedState where
  bridge := .initial
  cancelled := []
  requests := ∅
  answers := []

variable (host : BridgeHost) (state : EncodedState)

def onBridge (action : BridgeAction) : Option EncodedState :=
  (state.bridge.step action).map fun bridge => { state with bridge }

def put (id : ℕ) (call : RequestCall) : EncodedState := { state with requests := state.requests.insert id call }

/-! ## The sections of a request -/

def startInvoke (input : InvocationInput) (handle : InvocationHandle) (cancellation : CancellationToken)
    (reply : WorkerReply) : Except RuntimeError InvocationHandle × EncodedState :=
  let valid := do
    validateIdentifier "endpoint" input.endpoint
    validateIdentifier "session" input.sessionId
  match valid with
  | .error error => (.error error, state)
  | .ok () =>
    let issued := handle :: state.bridge.issued
    if reply = .missing then (.error .internal, { state with bridge.issued := issued })
    else
      match state.bridge.registry.insert handle cancellation with
      | .error error => (.error error, { state with bridge.issued := issued })
      | .ok registry =>
        -- when the worker does not take the command, the entry is removed again
        let removed := { state with bridge.registry := registry.remove handle, bridge.issued := issued }
        match reply with
        | .full => (.error (.backpressure "invocation queue is full"), removed)
        | .closed | .missing => (.error .internal, removed)
        | .accepted =>
          (.ok handle,
            { state with
              bridge.registry := registry
              bridge.starting := handle :: state.bridge.starting
              bridge.issued := issued })

/-- `handle_request`, up to the end of its first section. -/
def handleRequest (id : ℕ) (call : RequestCall) (handle : InvocationHandle) (cancellation : CancellationToken)
    (reply : WorkerReply) : EncodedState :=
  let request := call.request
  let answer (state : EncodedState) (response : ResponseFrame) := state.put id (call.enter (.answering response))
  if request.method = "runtime.hello" then
    answer state (handleHello host.projectId (host.complaint request.method) request)
  else if request.method = "runtime.invoke" then
    match decodeParams (host.complaint request.method) InvocationInput.ofValue request with
    | .error error => answer state (invalidParamsResponse request.id error)
    | .ok input =>
      match state.startInvoke input handle cancellation reply with
      | (.error error, state) => answer state (runtimeErrorResponse request.id error)
      | (.ok handle, state) => state.put id ((call.affect (.started handle)).enter (.activating handle))
  else if request.method = "runtime.cancel" then
    match decodeParams (host.complaint request.method) (textParams "handle") request with
    | .error error => answer state (invalidParamsResponse request.id error)
    | .ok handle =>
      match state.bridge.registry.entries.lookup handle with
      | none => answer state (runtimeErrorResponse request.id (.invocationNotFound handle))
      | some entry => state.put id (call.enter (.flagging handle entry.cancellation))
  else
    answer state (errorResponse request.id "method_not_found" "runtime bridge method is not supported" none)

/-- The next section of a request, and with the last one what the call returns. -/
def runRequest (id : ℕ) (call : RequestCall) (handle : InvocationHandle) (cancellation : CancellationToken)
    (reply : WorkerReply) : Option EncodedState :=
  match call.phase with
  | .received =>
    if handle ∈ state.bridge.issued then none else some (state.handleRequest host id call handle cancellation reply)
  | .activating handle =>
    (state.onBridge (.activate handle)).map fun next =>
      next.put id (call.enter (.answering (handleResponse call.request.id handle)))
  | .flagging handle cancellation =>
    some ({ state with cancelled := cancellation :: state.cancelled }.put id
      ((call.affect (.cancelled handle)).enter (.publishing handle)))
  | .publishing handle =>
    (state.onBridge (.update handle .cancelled none none)).map fun next =>
      next.put id (call.enter (.answering (handleResponse call.request.id handle)))
  | .answering response =>
    some { state with
      requests := state.requests.erase id
      answers := state.answers ++
        [⟨call.request, call.effects, (encodeProtocolFrame host.floats (.response response)).map fun text => [text]⟩] }

/-- The last part of `drain_encoded`: one frame that cannot be encoded fails the whole call. -/
def finishDrain (id : ℕ) (call : DrainCall) : Option EncodedState :=
  (state.onBridge (.finishDrain id)).map fun next =>
    match call.frames.mapM fun frame => encodeProtocolFrame host.floats frame.toProtocol with
    | .ok _ => next
    | .error _ => { next with bridge.returned := state.bridge.returned }

def step (state : EncodedState) : EncodedAction → Option EncodedState
  | .update handle status output error => state.onBridge (.update handle status output error)
  | .pushProviderEvent handle event => state.onBridge (.pushProviderEvent handle event)
  | .receive id source =>
    match decodeProtocolFrame host.reader source with
    -- these calls return an error at once
    | .error _ | .ok (.response _) | .ok (.event _) => some state
    | .ok (.request request) =>
      if state.requests.lookup id = none then some (state.put id ⟨request, .received, []⟩) else none
  | .requestSection id handle cancellation reply =>
    (state.requests.lookup id).bind fun call => state.runRequest host id call handle cancellation reply
  | .beginDrain id => state.onBridge (.beginDrain id)
  | .drainSection id => state.onBridge (.drainSection id)
  | .finishDrain id => (state.bridge.calls.lookup id).bind fun call => state.finishDrain host id call

/-- Bridges with worker threads and any number of encoded requests and drains, in every order. -/
def machine : Machine EncodedState EncodedAction where
  start state := state = initial
  step := step host

end EncodedState

end Vifu.Runtime
