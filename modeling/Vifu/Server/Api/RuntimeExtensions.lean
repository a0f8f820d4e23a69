import Vifu.Gateway.Checks

/-!
# Requests to the runtime of a project

A caller reaches the runtime extension of a project by single requests or over a socket.  Both ways check that a
message is a request with a method of the manifest, and the message is passed on as it came.
-/

namespace Vifu.Server

open Foundation Vifu.Gateway
open Vifu.Runtime (Value trim)

structure RuntimeExtensionManifest where
  rpcMethods : List String

def RuntimeExtensionManifest.allowsMethod (manifest : RuntimeExtensionManifest) (method : String) : Bool :=
  manifest.rpcMethods.any fun candidate => candidate = method

def rpcError (id : Value) (code : ℤ) (name message : String) : Value :=
  .object [
    ("error", .object [
      ("code", .number (.negInt code)),
      ("data", .object [("code", .string name)]),
      ("message", .string message)]),
    ("id", id),
    ("jsonrpc", .string "2.0")]

def invalidRequest (id : Value) (message : String) : Value := rpcError id (-32600) "invalid_request" message

def methodNotFound (id : Value) : Value :=
  rpcError id (-32601) "method_not_found" "The runtime method is not available."

def requestId (request : Value) : Value := (request.get? "id").getD .null

def validateRpcRequest (request : Value) : Except Value (Value × String) :=
  match request with
  | .object _ => do
    let id := requestId request
    ensure ((request.get? "jsonrpc").bind Value.asStr = some "2.0")
      (invalidRequest id "The JSON-RPC version must be 2.0.")
    let method ← okOr (invalidRequest id "The JSON-RPC method is required.")
      ((((request.get? "method").bind Value.asStr).map trim).filter (· ≠ ""))
    (validateIdentifier "runtime RPC method" method).mapError fun _ =>
      invalidRequest id "The JSON-RPC method is invalid."
    return (id, method)
  | _ => .error (invalidRequest .null "The JSON-RPC request must be an object.")

structure RpcExchange where
  forwarded : Option Value
  response : Value

/-- `callRpc` is the answer of the extension to a message. -/
def invokeProjectRuntime (manifest : RuntimeExtensionManifest) (callRpc : Value → Except String Value)
    (request : Value) : RpcExchange :=
  match validateRpcRequest request with
  | .error response => ⟨none, response⟩
  | .ok (id, method) =>
    if manifest.allowsMethod method = false then ⟨none, methodNotFound id⟩
    else
      match callRpc request with
      | .ok response => ⟨some request, response⟩
      | .error _ =>
        ⟨some request, rpcError id (-32002) "runtime_extension_unavailable"
          "The project runtime is temporarily unavailable."⟩

/-! ## Sockets -/

/-- A text of the caller is kept by the JSON value that it holds, if it holds one. -/
inductive CallerMessage where
  | text (content : Option Value)
  | binary
  | ping (payload : List UInt8)
  | pong
  | close

inductive ExtensionMessage where
  | text (content : String)
  | binary (content : List UInt8)
  | ping (payload : List UInt8)
  | pong
  | frame
  | close

/-- A message of either side, or nothing when the side has ended or failed. -/
inductive SocketEvent where
  | caller (message : Option CallerMessage)
  | extension (message : Option ExtensionMessage)

/-- What the bridge sends.  Its own texts are kept by their JSON values. -/
inductive SocketSend where
  | forward (message : Value)
  | extensionPong (payload : List UInt8)
  | extensionClose
  | reply (response : Value)
  | relayText (content : String)
  | relayBinary (content : List UInt8)
  | callerPong (payload : List UInt8)
  | callerClose

def bridgeText (manifest : RuntimeExtensionManifest) (content : Option Value) : SocketSend :=
  let parsed := content.bind fun value => (validateRpcRequest value).toOption.map fun (_, method) => (value, method)
  match parsed with
  | some (value, method) =>
    if manifest.allowsMethod method then .forward value else .reply (methodNotFound (requestId value))
  | none => .reply (invalidRequest .null "The JSON-RPC request is invalid.")

def bridgeEvent (manifest : RuntimeExtensionManifest) : SocketEvent → List SocketSend × Bool
  | .caller (some (.text content)) => ([bridgeText manifest content], true)
  | .caller (some (.ping payload)) => ([.callerPong payload], true)
  | .caller (some .pong) => ([], true)
  | .caller (some .close) | .caller none => ([], false)
  | .caller (some .binary) => ([.callerClose], false)
  | .extension (some (.text content)) => ([.relayText content], true)
  | .extension (some (.binary content)) => ([.relayBinary content], true)
  | .extension (some (.ping payload)) => ([.extensionPong payload], true)
  | .extension (some .pong) | .extension (some .frame) => ([], true)
  | .extension (some .close) | .extension none => ([], false)

/-- The events that the loop takes, each with what is sent for it.  An event comes with whether the sends go through;
    the loop ends with a close to both sides. -/
def bridgeRuntimeSocket (manifest : RuntimeExtensionManifest) :
    List (SocketEvent × Bool) → List (SocketEvent × List SocketSend)
  | [] => []
  | (event, delivered) :: events =>
    let (sent, goesOn) := bridgeEvent manifest event
    if goesOn && (delivered || sent.isEmpty) then (event, sent) :: bridgeRuntimeSocket manifest events
    else [(event, sent ++ [.callerClose, .extensionClose])]

def Literal (manifest : RuntimeExtensionManifest) (message : Value) : Prop :=
  ∃ method, message.get? "method" = some (.string method) ∧ method ∈ manifest.rpcMethods

def NamesRequest (request response : Value) : Prop :=
  ∀ id, request.get? "id" = some id → response.get? "id" = some id ∧ (response.get? "error").isSome = true

structure HttpKeeps (manifest : RuntimeExtensionManifest) (callRpc : Value → Except String Value) (request : Value) :
    Prop where
  literal : ∀ message, (invokeProjectRuntime manifest callRpc request).forwarded = some message →
    Literal manifest message
  named : (invokeProjectRuntime manifest callRpc request).forwarded = none →
    NamesRequest request (invokeProjectRuntime manifest callRpc request).response

structure SocketKeeps (manifest : RuntimeExtensionManifest) (entry : SocketEvent × List SocketSend) : Prop where
  literal : ∀ message, .forward message ∈ entry.2 →
    entry.1 = .caller (some (.text (some message))) ∧ Literal manifest message
  named : ∀ request, entry.1 = .caller (some (.text (some request))) → (∀ message, .forward message ∉ entry.2) →
    ∃ response, .reply response ∈ entry.2 ∧ NamesRequest request response

structure ValidRequest (request : Value) (method : String) : Prop where
  version : request.get? "jsonrpc" = some (.string "2.0")
  carries : request.get? "method" = some (.string method)
  identifier : Identifier (trim method)

def Padded (manifest : RuntimeExtensionManifest) (request : Value) : Prop :=
  ∃ method, ValidRequest request method ∧ trim method ∈ manifest.rpcMethods ∧ method ∉ manifest.rpcMethods

def InvalidWithId (request : Value) : Prop :=
  (∃ id, request.get? "id" = some id ∧ id ≠ .null) ∧ ∀ method, ¬ValidRequest request method

/-! ## The checks as conditions -/

theorem asStr_some {value : Value} {text : String} : value.asStr = some text ↔ value = .string text := by
  cases value <;> simp [Value.asStr]

theorem bind_asStr {value : Option Value} {text : String} :
    value.bind Value.asStr = some text ↔ value = some (.string text) := by
  simp [Option.bind_eq_some_iff, asStr_some]

theorem bind_error {ε α β : Type} {first : Except ε α} {next : α → Except ε β} {error : ε} :
    (first >>= next) = .error error ↔ first = .error error ∨ ∃ value, first = .ok value ∧ next value = .error error := by
  cases first <;> simp [bind, Except.bind]

theorem validateRpcRequest_ok {request id : Value} {trimmed : String} :
    validateRpcRequest request = .ok (id, trimmed) ↔
      id = requestId request ∧ ∃ method, ValidRequest request method ∧ trimmed = trim method := by
  have nonempty : ∀ {text : String}, Identifier text → text ≠ "" := by
    rintro _ ⟨long, _⟩ rfl
    exact absurd long (by decide)
  cases request with
  | object fields =>
    rw [validateRpcRequest]
    simp only [bind_ok, ensure_ok, okOr_ok, mapError_ok, validateIdentifier_ok, bind_asStr, exists_const,
      Option.filter_eq_some_iff, Option.map_eq_some_iff, pure_ok, Prod.mk.injEq, decide_eq_true_eq]
    constructor
    · rintro ⟨version, _, ⟨⟨method, carries, rfl⟩, _⟩, identifier, rfl, rfl⟩
      exact ⟨rfl, method, ⟨version, carries, identifier⟩, rfl⟩
    · rintro ⟨rfl, method, ⟨version, carries, identifier⟩, rfl⟩
      exact ⟨version, _, ⟨⟨method, carries, rfl⟩, nonempty identifier⟩, identifier, rfl, rfl⟩
  | null | bool | number | string | array =>
    constructor
    · intro valid
      cases valid
    · rintro ⟨_, _, valid, _⟩
      cases valid.version

theorem namesRequest_rpcError (request : Value) (code : ℤ) (name message : String) :
    NamesRequest request (rpcError (requestId request) code name message) := by
  intro id carried
  have same : requestId request = id := by rw [requestId, carried, Option.getD_some]
  rw [same]
  exact ⟨rfl, rfl⟩

theorem namesRequest_refused {request response : Value} (refused : validateRpcRequest request = .error response) :
    NamesRequest request response := by
  cases request with
  | object fields =>
    -- every check fails with the id of the request
    have texts : ∃ message, response = invalidRequest (requestId (.object fields)) message := by
      obtain version | ⟨_, _, refused⟩ := bind_error.mp refused
      · unfold ensure at version
        split at version
        next => cases version
        next => exact ⟨_, (Except.error.inj version).symm⟩
      obtain carries | ⟨method, _, refused⟩ := bind_error.mp refused
      · unfold okOr at carries
        split at carries
        next => exact ⟨_, (Except.error.inj carries).symm⟩
        next => cases carries
      obtain identifier | ⟨_, _, refused⟩ := bind_error.mp refused
      · cases checked : validateIdentifier "runtime RPC method" method with
        | ok => rw [checked] at identifier; cases identifier
        | error => rw [checked] at identifier; exact ⟨_, (Except.error.inj identifier).symm⟩
      · cases refused
    obtain ⟨message, rfl⟩ := texts
    exact namesRequest_rpcError _ _ _ _
  | null | bool | number | string | array =>
    intro id carried
    cases carried

variable {method : String}

theorem allowsMethod_iff {manifest : RuntimeExtensionManifest} :
    manifest.allowsMethod method = true ↔ method ∈ manifest.rpcMethods := by
  simp [RuntimeExtensionManifest.allowsMethod]

variable {entry : SocketEvent × List SocketSend} {events : List (SocketEvent × Bool)}

section

variable {manifest : RuntimeExtensionManifest} {callRpc : Value → Except String Value} {request : Value}

theorem ValidRequest.unique {first second : String} (isFirst : ValidRequest request first)
    (isSecond : ValidRequest request second) : first = second := by
  have same := isFirst.carries.symm.trans isSecond.carries
  rwa [Option.some.injEq, Value.string.injEq] at same

theorem checked_cases (manifest : RuntimeExtensionManifest) (request : Value) :
    (∃ response, validateRpcRequest request = .error response ∧ ∀ method, ¬ValidRequest request method) ∨
      ∃ method, validateRpcRequest request = .ok (requestId request, trim method) ∧ ValidRequest request method ∧
        (manifest.allowsMethod (trim method) = true ↔ trim method ∈ manifest.rpcMethods) := by
  cases checked : validateRpcRequest request with
  | error response =>
    refine .inl ⟨response, rfl, fun method valid => ?_⟩
    rw [validateRpcRequest_ok.mpr ⟨rfl, method, valid, rfl⟩] at checked
    cases checked
  | ok result =>
    obtain ⟨id, trimmed⟩ := result
    obtain ⟨rfl, method, valid, rfl⟩ := validateRpcRequest_ok.mp checked
    exact .inr ⟨method, rfl, valid, allowsMethod_iff⟩

theorem literal_iff (valid : ValidRequest request method) :
    Literal manifest request ↔ method ∈ manifest.rpcMethods := by
  constructor
  · rintro ⟨other, carries, isMethod⟩
    have same := valid.carries.symm.trans carries
    rw [Option.some.injEq, Value.string.injEq] at same
    rwa [same]
  · exact fun isMethod => ⟨method, valid.carries, isMethod⟩

theorem padded_iff (valid : ValidRequest request method) :
    Padded manifest request ↔ trim method ∈ manifest.rpcMethods ∧ method ∉ manifest.rpcMethods := by
  constructor
  · rintro ⟨other, isOther, allowed, differs⟩
    exact valid.unique isOther ▸ ⟨allowed, differs⟩
  · exact fun allowed => ⟨method, valid, allowed⟩

/-! ## Both ways -/

/-- A single request is passed on with a method of the manifest or refused by its id exactly when trimming does not make
    its method one of the manifest. -/
theorem httpKeeps_iff : HttpKeeps manifest callRpc request ↔ ¬Padded manifest request := by
  obtain ⟨response, refused, invalid⟩ | ⟨method, checked, valid, allows⟩ := checked_cases manifest request
  · have exchange : invokeProjectRuntime manifest callRpc request = ⟨none, response⟩ := by
      rw [invokeProjectRuntime, refused]
    refine ⟨fun _ ⟨method, valid, _⟩ => invalid method valid, fun _ => ⟨?_, fun _ => ?_⟩⟩
    · intro message forwarded
      rw [exchange] at forwarded
      cases forwarded
    · rw [exchange]
      exact namesRequest_refused refused
  · rw [padded_iff valid]
    by_cases allowed : trim method ∈ manifest.rpcMethods
    · have forwarded : (invokeProjectRuntime manifest callRpc request).forwarded = some request := by
        rw [invokeProjectRuntime, checked]
        simp only [allows.mpr allowed, Bool.true_eq_false, ↓reduceIte]
        split <;> rfl
      constructor
      · rintro keeps ⟨_, differs⟩
        exact differs ((literal_iff valid).mp (keeps.literal request forwarded))
      · intro literal
        refine ⟨fun message isMessage => ?_, fun nothing => ?_⟩
        · rw [forwarded, Option.some.injEq] at isMessage
          exact isMessage ▸ (literal_iff valid).mpr (not_not.mp fun differs => literal ⟨allowed, differs⟩)
        · rw [forwarded] at nothing
          cases nothing
    · have exchange : invokeProjectRuntime manifest callRpc request = ⟨none, methodNotFound (requestId request)⟩ := by
        rw [invokeProjectRuntime, checked]
        simp [Bool.eq_false_iff.mpr (mt allows.mp allowed)]
      refine ⟨fun _ both => allowed both.1, fun _ => ⟨?_, fun _ => ?_⟩⟩
      · intro message forwarded
        rw [exchange] at forwarded
        cases forwarded
      · rw [exchange]
        exact namesRequest_rpcError _ _ _ _

theorem bridgeText_cases (manifest : RuntimeExtensionManifest) (request : Value) :
    ((∀ method, ¬ValidRequest request method) ∧ bridgeText manifest (some request) =
        .reply (invalidRequest .null "The JSON-RPC request is invalid.")) ∨
      ∃ method, ValidRequest request method ∧
        (trim method ∈ manifest.rpcMethods ∧ bridgeText manifest (some request) = .forward request ∨
          trim method ∉ manifest.rpcMethods ∧
            bridgeText manifest (some request) = .reply (methodNotFound (requestId request))) := by
  obtain ⟨response, refused, invalid⟩ | ⟨method, checked, valid, allows⟩ := checked_cases manifest request
  · exact .inl ⟨invalid, by simp [bridgeText, refused, Except.toOption]⟩
  · refine .inr ⟨method, valid, ?_⟩
    by_cases allowed : trim method ∈ manifest.rpcMethods
    · exact .inl ⟨allowed, by simp [bridgeText, checked, Except.toOption, allows.mpr allowed]⟩
    · exact .inr ⟨allowed, by
        simp [bridgeText, checked, Except.toOption, Bool.eq_false_iff.mpr (mt allows.mp allowed)]⟩

theorem forward_mem {event : SocketEvent} {message : Value} (forwards : .forward message ∈ (bridgeEvent manifest event).1) :
    ∃ content, event = .caller (some (.text content)) ∧ bridgeText manifest content = .forward message := by
  unfold bridgeEvent at forwards
  split at forwards <;> simp at forwards
  next content => exact ⟨content, rfl, forwards.symm⟩

section

variable (handled : entry ∈ bridgeRuntimeSocket manifest events)
include handled

theorem sent_of_mem : entry.2 = (bridgeEvent manifest entry.1).1 ∨
      entry.2 = (bridgeEvent manifest entry.1).1 ++ [.callerClose, .extensionClose] := by
  induction events with
  | nil => simp [bridgeRuntimeSocket] at handled
  | cons event events ih =>
    rw [bridgeRuntimeSocket] at handled
    split at handled
    next sent goesOn isEvent =>
    have sends : (bridgeEvent manifest event.1).1 = sent := by rw [isEvent]
    split at handled
    · rw [List.mem_cons] at handled
      obtain rfl | handled := handled
      · exact .inl sends.symm
      · exact ih handled
    · rw [List.mem_singleton] at handled
      subst handled
      exact .inr (by rw [sends])

theorem mem_sent :
    (∀ message, .forward message ∈ entry.2 ↔ .forward message ∈ (bridgeEvent manifest entry.1).1) ∧
      ∀ response, .reply response ∈ entry.2 ↔ .reply response ∈ (bridgeEvent manifest entry.1).1 := by
  obtain same | same := sent_of_mem handled <;> simp [same]

/-- An event of the bridge is handled as it should be exactly when it is no text with a request whose method is allowed
    only by trimming, or with an invalid request that has an id. -/
theorem socketKeeps_iff :
    SocketKeeps manifest entry ↔ ∀ request, entry.1 = .caller (some (.text (some request))) →
      ¬Padded manifest request ∧ ¬InvalidWithId request := by
  obtain ⟨forwards, replies⟩ := mem_sent handled
  constructor
  · intro keeps request isText
    have sent : (bridgeEvent manifest entry.1).1 = [bridgeText manifest (some request)] := by rw [isText]; rfl
    refine ⟨?_, ?_⟩
    · rintro ⟨method, valid, allowed, differs⟩
      obtain ⟨invalid, _⟩ | ⟨other, isOther, ⟨_, forwarded⟩ | ⟨refused, _⟩⟩ := bridgeText_cases manifest request
      · exact invalid method valid
      · have literal := (keeps.literal request ((forwards request).mpr (by simp [sent, forwarded]))).2
        exact differs ((literal_iff valid).mp literal)
      · exact refused (isOther.unique valid ▸ allowed)
    · rintro ⟨⟨id, carried, filled⟩, invalid⟩
      obtain ⟨_, replied⟩ | ⟨method, valid, _⟩ := bridgeText_cases manifest request
      · obtain ⟨response, isReply, named⟩ := keeps.named request isText fun message forwarded => by
          simp [forwards, sent, replied] at forwarded
        rw [replies, sent, replied, List.mem_singleton, SocketSend.reply.injEq] at isReply
        have null := (named id carried).1
        rw [isReply] at null
        exact filled (Option.some.inj null).symm
      · exact invalid method valid
  · intro condition
    refine ⟨fun message forwarded => ?_, fun request isText nothing => ?_⟩
    · obtain ⟨content, isText, isForward⟩ := forward_mem ((forwards message).mp forwarded)
      cases content with
      | none => cases isForward
      | some request =>
        obtain ⟨_, replied⟩ | ⟨method, valid, ⟨allowed, sent⟩ | ⟨_, replied⟩⟩ := bridgeText_cases manifest request
        · rw [replied] at isForward
          cases isForward
        · rw [sent, SocketSend.forward.injEq] at isForward
          subst isForward
          have literal := (padded_iff valid).not.mp (condition request isText).1
          exact ⟨isText, (literal_iff valid).mpr (not_not.mp fun differs => literal ⟨allowed, differs⟩)⟩
        · rw [replied] at isForward
          cases isForward
    · have sent : (bridgeEvent manifest entry.1).1 = [bridgeText manifest (some request)] := by rw [isText]; rfl
      obtain ⟨invalid, replied⟩ | ⟨method, valid, ⟨_, forwarded⟩ | ⟨_, replied⟩⟩ := bridgeText_cases manifest request
      · refine ⟨_, (replies _).mpr (by rw [sent, replied]; exact List.mem_singleton_self _), fun id carried => ?_⟩
        have empty : id = .null := by
          by_contra filled
          exact (condition request isText).2 ⟨⟨id, carried, filled⟩, invalid⟩
        rw [empty]
        exact ⟨rfl, rfl⟩
      · exact absurd ((forwards request).mpr (by simp [sent, forwarded])) (nothing request)
      · exact ⟨_, (replies _).mpr (by rw [sent, replied]; exact List.mem_singleton_self _),
          namesRequest_rpcError _ _ _ _⟩

end

end

/-- Both ways pass on and refuse requests as they should exactly for the requests whose method is not allowed only by
    trimming, and a socket besides only while no invalid request has an id. -/
theorem requests_kept (manifest : RuntimeExtensionManifest) (callRpc : Value → Except String Value) :
    (∀ request, HttpKeeps manifest callRpc request ↔ ¬Padded manifest request) ∧
      ∀ events, (∀ entry ∈ bridgeRuntimeSocket manifest events, SocketKeeps manifest entry) ↔
        ∀ entry ∈ bridgeRuntimeSocket manifest events, ∀ request,
          entry.1 = .caller (some (.text (some request))) → ¬Padded manifest request ∧ ¬InvalidWithId request := by
  refine ⟨fun request => httpKeeps_iff, fun events => ?_⟩
  exact forall₂_congr fun entry handled => socketKeeps_iff handled

def paddedRequest : Value :=
  .object [("id", .number (.posInt 1)), ("jsonrpc", .string "2.0"), ("method", .string " session.create ")]

def outdatedRequest : Value := .object [("id", .number (.posInt 7)), ("jsonrpc", .string "1.0")]

/-- A request whose method has blanks around it is passed on, and an invalid request is refused without its id. -/
theorem blanks_passed_on :
    ¬(∀ (manifest : RuntimeExtensionManifest) (callRpc : Value → Except String Value) (request : Value),
        HttpKeeps manifest callRpc request) ∧
      ¬∀ (manifest : RuntimeExtensionManifest) (events : List (SocketEvent × Bool)),
        ∀ entry ∈ bridgeRuntimeSocket manifest events, SocketKeeps manifest entry := by
  refine ⟨fun keeps => ?_, fun keeps => ?_⟩
  · refine httpKeeps_iff.mp (keeps ⟨["session.create"]⟩ (fun _ => .ok .null) paddedRequest) ?_
    exact ⟨" session.create ", ⟨rfl, rfl, by decide⟩, by decide, by decide⟩
  · have handled : (SocketEvent.caller (some (.text (some outdatedRequest))),
        [SocketSend.reply (invalidRequest .null "The JSON-RPC request is invalid.")]) ∈
        bridgeRuntimeSocket ⟨["session.create"]⟩ [(.caller (some (.text (some outdatedRequest))), true)] :=
      List.mem_singleton_self _
    refine ((socketKeeps_iff handled).mp (keeps _ _ _ handled) outdatedRequest rfl).2 ?_
    exact ⟨⟨_, rfl, fun empty => by cases empty⟩, fun method valid => by cases valid.carries⟩

end Vifu.Server
