import Vifu.Server.Database.Tables

/-!
# Errors of a request

The variants of `ApiError` that the database layer does not return, next to those that it does.
-/

namespace Vifu.Server

inductive RequestError where
  | api (error : ApiError)
  | modelRequired
  | agentAccessDenied
  | endpointAccessDenied
  | agentGatewayCredentialRevoked
  | agentGatewayUnavailable
  | agentDeploymentUnavailable
  | backpressure
  | timeout
  | runtimeNotPublished
  | runtimeExtensionUnavailable
  | deploymentAuthorityUnavailable
  | agentGateway (message : String)
  | provider (message : String)
  | internal
  deriving DecidableEq

namespace RequestError

/-- `Display` of an error. -/
def text : RequestError → String
  | api error => error.text
  | modelRequired => "model is required"
  | agentAccessDenied => "the requested agent is not available to this project key"
  | endpointAccessDenied => "the API key does not permit this endpoint"
  | agentGatewayCredentialRevoked => "the agent gateway credential was revoked"
  | agentGatewayUnavailable => "agent gateway is not available"
  | agentDeploymentUnavailable => "the agent is not assigned to a deployment that allows remote invocation"
  | backpressure => "agent gateway is busy"
  | timeout => "agent request timed out"
  | runtimeNotPublished => "the project runtime has not been published"
  | runtimeExtensionUnavailable => "the project runtime is temporarily unavailable"
  | deploymentAuthorityUnavailable => "deployment authority is temporarily unavailable"
  | agentGateway message => message
  | provider message => message
  | internal => "internal server error"

/-- `api_error_trace_status`. -/
def traceStatus : RequestError → String
  | agentGatewayUnavailable | agentDeploymentUnavailable => "unavailable"
  | backpressure => "rejected"
  | timeout => "timed_out"
  | _ => "failed"

end RequestError

end Vifu.Server
