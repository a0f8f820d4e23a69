import Mathlib.Data.List.AList
import Vifu.Runtime.Value

/-!
# Data model of the application runtime

The records that cross the public surface of `VifuRuntime`, and the errors it returns.
-/

namespace Vifu.Runtime

/-- `HashMap<K, V>`: at most one value for each key, iterated in no order the code relies on. -/
abbrev HashMap (K V : Type) := AList (fun _ : K => V)

inductive RuntimeError where
  | invalidDefinition (message : String)
  | endpointNotFound (endpoint : String)
  | agentNotFound (agent : String)
  | providerNotFound (provider : String)
  | capabilityUnavailable (provider capability : String)
  | timeout (timeoutMs : ℕ)
  | cancelled
  | unavailable (message : String)
  | backpressure (message : String)
  | provider (provider message : String)
  | store (message : String)
  | snapshot (message : String)
  | effectLimitExceeded (limit : ℕ)
  | invocationNotFound (handle : String)
  | internal
  deriving DecidableEq, Repr

namespace RuntimeError

/-- `Display` of an error. -/
def display : RuntimeError → String
  | .invalidDefinition message => "invalid runtime definition: " ++ message
  | .endpointNotFound endpoint => "endpoint " ++ endpoint ++ " is not registered"
  | .agentNotFound agent => "agent " ++ agent ++ " is not registered"
  | .providerNotFound id => "provider " ++ id ++ " is not registered"
  | .capabilityUnavailable id capability =>
    "provider " ++ id ++ " does not support capability " ++ capability
  | .timeout timeoutMs => "agent invocation was idle for " ++ toString timeoutMs ++ " ms"
  | .cancelled => "agent invocation was cancelled"
  | .unavailable message => "provider is not available: " ++ message
  | .backpressure message => "runtime is busy: " ++ message
  | .provider id message => "provider " ++ id ++ " failed: " ++ message
  | .store message => "runtime store failed: " ++ message
  | .snapshot message => "runtime snapshot failed: " ++ message
  | .effectLimitExceeded limit => "runtime effect limit " ++ toString limit ++ " was exceeded"
  | .invocationNotFound handle => "invocation " ++ handle ++ " was not found"
  | .internal => "runtime internal error"

/-- The text of an error that may leave the process. -/
def publicMessage : RuntimeError → String
  | .provider id _ => "provider " ++ id ++ " request failed"
  | .store _ => "runtime state could not be persisted"
  | .snapshot _ => "runtime snapshot is invalid"
  | .unavailable _ => "provider is not available"
  | .backpressure _ => "runtime is busy"
  | error => error.display

end RuntimeError

/-- A session's durable state. -/
structure RuntimeSnapshot where
  revision : ℕ
  state : Value
  deriving DecidableEq, Repr

/-- `RuntimeSnapshot::default()`. -/
def RuntimeSnapshot.default : RuntimeSnapshot := { revision := 0, state := .emptyObject }

structure AgentDefinition where
  id : String
  name : String
  provider : String
  capabilities : List String
  metadata : Value
  deriving DecidableEq, Repr

structure EndpointDefinition where
  name : String
  agent : String
  capability : String
  timeoutMs : ℕ
  deriving DecidableEq, Repr

/-! ## Invocations -/

inductive InvocationData where
  | json (value : Value)
  | binary (bytes : List UInt8)
  deriving DecidableEq, Repr

structure InvocationInput where
  endpoint : String
  sessionId : String
  data : InvocationData
  metadata : Value
  deriving DecidableEq, Repr

structure ProviderResponse where
  data : InvocationData
  metadata : Value
  /-- A replacement for the session's durable state. -/
  state : Option Value
  deriving DecidableEq, Repr

inductive ProviderStage where
  | queue | load | tokenize | prefill | firstToken | decode | validate
  deriving DecidableEq, Repr

inductive ProviderEvent where
  | activity
  | outputDelta (data : InvocationData)
  | stageStarted (stage : ProviderStage) (metadata : Value)
  | stageCompleted (stage : ProviderStage) (elapsedMs : ℕ) (metadata : Value)
  | stageFailed (stage : ProviderStage) (elapsedMs : ℕ) (error : String) (metadata : Value)
  deriving DecidableEq, Repr

structure InvocationTraceEvent where
  name : String
  status : String
  durationMs : ℕ
  attributes : Value
  deriving DecidableEq, Repr

structure InvocationOutput where
  invocationId : String
  projectId : String
  endpoint : String
  sessionId : String
  agent : String
  provider : String
  capability : String
  data : InvocationData
  metadata : Value
  snapshot : RuntimeSnapshot
  trace : List InvocationTraceEvent
  deriving DecidableEq, Repr

/-- The handle of an invocation; `next_invocation_id` never issues one twice. -/
abbrev InvocationHandle := String

inductive InvocationStatus where
  | pending | running | completed | failed | cancelled
  deriving DecidableEq, Repr

/-- `is_terminal_status`, and the bridge's `is_terminal`. -/
def isTerminalStatus : InvocationStatus → Bool
  | .completed | .failed | .cancelled => true
  | .pending | .running => false

structure InvocationPoll where
  handle : InvocationHandle
  status : InvocationStatus
  output : Option InvocationOutput
  error : Option String
  deriving DecidableEq, Repr

inductive InvocationEventKind where
  | started | outputDelta | completed | failed | cancelled
  deriving DecidableEq, Repr

def InvocationEventKind.terminal : InvocationEventKind → Bool
  | .completed | .failed | .cancelled => true
  | .started | .outputDelta => false

structure InvocationEvent where
  sequence : ℕ
  kind : InvocationEventKind
  data : Option InvocationData
  error : Option String
  deriving DecidableEq, Repr

end Vifu.Runtime
