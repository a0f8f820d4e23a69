import Vifu.Runtime.Fits
import Vifu.Gateway.Wire

/-!
# Sizes of gateway commands

The limits that `validate_command` puts on single fields add up to less than the limit of a frame.
The largest command is a hello of 256 agents with 64 KiB of metadata each.
-/

namespace Vifu.Gateway

open Foundation
open Vifu.Runtime hiding validateIdentifier

section

variable {floats : FloatText} {text : String} {channelId : ℕ} {parser : JsonParser} {least most : ℕ} {name : String}

theorem uuid_fits (id : Uuid) : Fits floats 866 id.value := by
  have bytes := utf8ByteSize_le_length id.text
  rw [id.canonical.1] at bytes
  exact Fits.string bytes (by decide)

theorem text_fits (valid : Text least most text) (memory : most ≤ isizeMax) :
    Fits floats (6 * most + 2) (.string text) :=
  Fits.string valid.2.1 memory

theorem token_fits (valid : Token least most text) (memory : most ≤ isizeMax) :
    Fits floats (6 * most + 2) (.string text) :=
  Fits.string valid.1.2 memory

theorem identifier_fits (valid : Identifier text) : Fits floats 770 (.string text) :=
  Fits.string valid.2.1 (by decide)

theorem number_fits {value most : ℕ} (small : value ≤ most) (isU64 : most ≤ u64Max) : Fits floats 20 (u64 value) :=
  Fits.u64 (small.trans isU64)

theorem name_fits (short : name.utf8ByteSize ≤ 20) : Fits floats 122 (.string name) :=
  Fits.string short (by decide)

def TraceIoSummary.Held (summary : TraceIoSummary) : Prop := summary.value.WellFormed

structure RuntimeTelemetryBatch.Held (batch : RuntimeTelemetryBatch) : Prop where
  startedAtMs : batch.startedAtMs ≤ u64Max
  rootInputSummary : ∀ summary ∈ batch.rootInputSummary, summary.Held
  rootOutputSummary : ∀ summary ∈ batch.rootOutputSummary, summary.Held
  processRssBytes : ∀ metrics ∈ batch.hostMetrics, ∀ bytes ∈ metrics.processRssBytes, bytes ≤ u64Max
  totalMemoryBytes : ∀ metrics ∈ batch.hostMetrics, ∀ bytes ∈ metrics.totalMemoryBytes, bytes ≤ u64Max
  endedAtMs : ∀ terminal ∈ batch.terminal, terminal.endedAtMs ≤ u64Max

structure Hello.Held (hello : Hello) : Prop where
  agents : ∀ agent ∈ hello.agents, agent.metadata.WellFormed
  metadata : hello.metadata.WellFormed
  signedAt : hello.machine.signedAt ≤ u64Max

/-- The numbers of the command are `u64`, and its JSON values are held in key order. -/
def AgentGatewayCommand.Held : AgentGatewayCommand → Prop
  | .challenge _ timestamp _ => timestamp ≤ u64Max
  | .hello greeting => greeting.Held
  | .welcome answer => ∀ auth ∈ answer.auth, auth.generation ≤ u64Max
  | .invoke _ call => call.channelId ≤ u64Max ∧ call.binding.WellFormed ∧ call.input.WellFormed
  | .result _ channelId output => channelId ≤ u64Max ∧ output.WellFormed
  | .error _ channelId _ _ => ∀ id ∈ channelId, id ≤ u64Max
  | .cancel _ channelId | .invocationActivity _ channelId => channelId ≤ u64Max
  | .runtimeTelemetry batch => batch.Held
  | .pairingRequired _ | .invocationActivityReady | .heartbeat _ | .heartbeatAck _ | .runtimeConfigChanged _
  | .runtimeMonitoringReady | .runtimeHostMetricsReady | .applicationFeedback _ => True

/-! ## Records -/

theorem AgentDescriptor.fits {agent : AgentDescriptor} (valid : ValidAgent floats agent)
    (held : agent.metadata.WellFormed) : Fits floats 67450 (recordValue agent.fields) := by
  apply Fits.mono
  · apply Fits.record ["id", "name", "metadata"] rfl (by decide) (by decide)
    exact .cons (.some (identifier_fits valid.id)) (.cons (.some (text_fits valid.name (by decide)))
      (.cons (.some ⟨held, valid.metadata⟩) .nil))
  · decide

theorem GatewayMachineProof.fits {machine : GatewayMachineProof} (id : Identifier machine.id)
    (publicKey : Token 32 256 machine.publicKey) (signature : Token 32 256 machine.signature)
    (signedAt : machine.signedAt ≤ u64Max) : Fits floats 5000 (recordValue machine.fields) := by
  apply Fits.mono
  · apply Fits.record ["id", "publicKey", "signature", "signedAt"] rfl (by decide) (by decide)
    exact .cons (.some (identifier_fits id)) (.cons (.some (token_fits publicKey (by decide)))
      (.cons (.some (token_fits signature (by decide))) (.cons (.some (.u64 signedAt)) .nil)))
  · decide

theorem GatewayHelloAuth.fits {auth : GatewayHelloAuth}
    (deviceToken : ∀ token ∈ auth.deviceToken, Token 48 256 token) : Fits floats 2000 (recordValue auth.fields) := by
  apply Fits.mono
  · apply Fits.record ["deviceToken"] rfl (by decide) (by decide)
    exact .cons (.map fun token isToken => token_fits (deviceToken token isToken) (by decide)) .nil
  · decide

theorem Hello.fits {hello : Hello} (valid : ValidHello floats hello) (held : hello.Held) :
    Fits floats 17400000 (recordValue hello.fields) := by
  have agents : Fits floats 17267458 (.array (hello.agents.map fun agent => recordValue agent.fields)) := by
    apply Fits.mono
    · apply Fits.array
      intro value mem
      obtain ⟨agent, isAgent, rfl⟩ := List.mem_map.mp mem
      exact AgentDescriptor.fits (valid.agents agent isAgent) (held.agents agent isAgent)
    · have few := valid.few
      rw [maxAgents] at few
      rw [List.length_map]
      omega
  have protocol : hello.protocol.utf8ByteSize ≤ 20 := by
    rw [valid.protocol]
    decide
  apply Fits.mono
  · apply Fits.record ["protocol", "resumeSessionId", "agents", "metadata", "machine", "auth", "followup"] rfl
      (by decide) (by decide)
    exact .cons (.some (name_fits protocol)) (.cons (.map fun id _ => uuid_fits id) (.cons (.some agents)
      (.cons (.some ⟨held.metadata, valid.metadata⟩)
      (.cons (.some (GatewayMachineProof.fits valid.machineId valid.publicKey valid.signature held.signedAt))
      (.cons (.some (GatewayHelloAuth.fits valid.deviceToken))
      (.cons (.map fun followup isFollowup => token_fits (valid.followup followup isFollowup) (by decide)) .nil))))))
  · decide

theorem Welcome.fits {welcome : Welcome} (valid : ValidWelcome welcome)
    (held : ∀ auth ∈ welcome.auth, auth.generation ≤ u64Max) : Fits floats 10000 (recordValue welcome.fields) := by
  have auth : ∀ auth ∈ welcome.auth, Fits floats 3000 (recordValue auth.fields) := by
    intro auth isAuth
    obtain ⟨deviceToken, -, -, expiresAt⟩ := valid.auth auth isAuth
    apply Fits.mono
    · apply Fits.record ["deviceToken", "generation", "expiresAt"] rfl (by decide) (by decide)
      exact .cons (.some (token_fits deviceToken (by decide))) (.cons (.some (.u64 (held auth isAuth)))
        (.cons (.some (.string expiresAt (by decide))) .nil))
    · decide
  apply Fits.mono
  · apply Fits.record ["gatewayId", "connectionId", "sessionId", "heartbeatIntervalMs", "resumed", "auth"] rfl
      (by decide) (by decide)
    exact .cons (.some (identifier_fits valid.gatewayId)) (.cons (.some (uuid_fits _)) (.cons (.some (uuid_fits _))
      (.cons (.some (number_fits valid.heartbeat.2 (by decide))) (.cons (.some (.bool _)) (.cons (.map auth) .nil)))))
  · decide

theorem PairingRequired.fits {pairing : PairingRequired} (authUrl : Text 1 2048 pairing.authUrl)
    (nextStep : Token 3 64 pairing.recommendedNextStep) (retryAfter : pairing.retryAfterMs ≤ 60000) :
    Fits floats 20000 (recordValue pairing.fields) := by
  apply Fits.mono
  · apply Fits.record ["requestId", "authUrl", "retryable", "recommendedNextStep", "retryAfterMs"] rfl (by decide)
      (by decide)
    exact .cons (.some (uuid_fits _)) (.cons (.some (text_fits authUrl (by decide))) (.cons (.some (.bool _))
      (.cons (.some (token_fits nextStep (by decide))) (.cons (.some (number_fits retryAfter (by decide))) .nil))))
  · decide

theorem Invoke.fits {invoke : Invoke} (valid : ValidInvoke floats invoke) (channelId : invoke.channelId ≤ u64Max)
    (binding : invoke.binding.WellFormed) (input : invoke.input.WellFormed) :
    Fits floats 17000000 (recordValue invoke.fields) := by
  apply Fits.mono
  · apply Fits.record
      ["channelId", "endpointId", "profileId", "bindingId", "agentId", "binding", "input", "timeoutMs"] rfl (by decide)
      (by decide)
    exact .cons (.some (.u64 channelId)) (.cons (.some (uuid_fits _)) (.cons (.some (uuid_fits _)) (.cons (.some (uuid_fits _))
      (.cons (.some (identifier_fits valid.agentId)) (.cons (.some ⟨binding, valid.binding⟩)
      (.cons (.some ⟨input, valid.input⟩) (.cons (.some (number_fits valid.timeout.2 (by decide))) .nil)))))))
  · decide

theorem FeedbackReport.fits {report : FeedbackReport}
    (offsets : report.startOffsetMs ≤ report.endOffsetMs ∧ report.endOffsetMs ≤ maxTraceDurationMs)
    (message : OptionalText report.feedback.message 1 512) (path : OptionalText report.feedback.path 1 512) :
    Fits floats 20000 (recordValue report.fields) := by
  have feedback : Fits floats 8000 (recordValue report.feedback.fields) := by
    have event : report.feedback.event.name.utf8ByteSize ≤ 20 := by cases report.feedback.event <;> decide
    have outcome : report.feedback.outcome.name.utf8ByteSize ≤ 20 := by cases report.feedback.outcome <;> decide
    apply Fits.mono
    · apply Fits.record ["event", "outcome", "message", "path"] rfl (by decide) (by decide)
      exact .cons (.some (name_fits event)) (.cons (.some (name_fits outcome))
        (.cons (.map fun text isText => text_fits (message text isText) (by decide))
        (.cons (.map fun text isText => text_fits (path text isText) (by decide)) .nil)))
    · decide
  apply Fits.mono
  · apply Fits.record ["requestId", "observationId", "startOffsetMs", "endOffsetMs", "feedback"] rfl (by decide)
      (by decide)
    exact .cons (.some (uuid_fits _)) (.cons (.some (uuid_fits _))
      (.cons (.some (number_fits (offsets.1.trans offsets.2) (by decide))) (.cons (.some (number_fits offsets.2 (by decide)))
      (.cons (.some feedback) .nil))))
  · decide

/-! ## Reports -/

theorem endOffset_le {stage : StageTelemetry} (valid : StageEnd stage) :
    ∀ endOffsetMs ∈ stage.endOffsetMs, endOffsetMs ≤ maxTraceDurationMs := by
  intro endOffsetMs isEnd
  rw [StageEnd, Option.mem_def.mp isEnd] at valid
  cases isStatus : stage.status with
  | started => simp [isStatus] at valid
  | completed | failed =>
    rw [isStatus] at valid
    exact valid.2

theorem TraceTelemetry.fits {telemetry : TraceTelemetry} (valid : ValidTelemetry telemetry) :
    Fits floats 12000 telemetry.value := by
  cases telemetry with
  | invocationStarted providerKey capability model =>
    obtain ⟨isProvider, isCapability, isModel⟩ := valid
    have tag : "invocationStarted".utf8ByteSize ≤ 20 := by decide
    apply Fits.mono
    · apply Fits.record ["type", "provider_key", "capability", "model"] rfl (by decide) (by decide)
      exact .cons (.some (name_fits tag)) (.cons (.some (identifier_fits isProvider))
        (.cons (.some (identifier_fits isCapability))
        (.cons (.map fun text isText => text_fits (isModel text isText) (by decide)) .nil)))
    · decide
  | providerStage stage =>
    have isValid : ValidStage stage := valid
    have tag : "providerStage".utf8ByteSize ≤ 20 := by decide
    have name : (stageName stage.stage).utf8ByteSize ≤ 20 := by cases stage.stage <;> decide
    have status : stage.status.name.utf8ByteSize ≤ 20 := by cases stage.status <;> decide
    have endOffset := endOffset_le isValid.endOffset
    apply Fits.mono
    · apply Fits.record
        ["type", "observation_id", "stage", "status", "start_offset_ms", "end_offset_ms", "elapsed_ms",
          "request_elapsed_ms", "input_tokens", "output_tokens", "resident", "error"] rfl (by decide) (by decide)
      exact .cons (.some (name_fits tag)) (.cons (.some (uuid_fits _)) (.cons (.some (name_fits name))
        (.cons (.some (name_fits status)) (.cons (.some (number_fits isValid.startOffset (by decide)))
        (.cons (.map fun number isNumber => number_fits (endOffset number isNumber) (by decide))
        (.cons (.map fun number isNumber => number_fits (isValid.elapsed number isNumber) (by decide))
        (.cons (.map fun number isNumber => number_fits (isValid.requestElapsed number isNumber) (by decide))
        (.cons (.map fun number isNumber => number_fits (isValid.inputTokens number isNumber) (by decide))
        (.cons (.map fun number isNumber => number_fits (isValid.outputTokens number isNumber) (by decide))
        (.cons (.map fun flag _ => .bool flag)
        (.cons (.map fun text isText => text_fits (isValid.errorText text isText) (by decide)) .nil)))))))))))
    · decide
  | delivery delivery =>
    have isValid : ValidDelivery delivery := valid
    have tag : "delivery".utf8ByteSize ≤ 20 := by decide
    have status : delivery.status.name.utf8ByteSize ≤ 20 := by cases delivery.status <;> decide
    apply Fits.mono
    · apply Fits.record ["type", "observation_id", "status", "start_offset_ms", "end_offset_ms", "elapsed_ms", "error"]
        rfl (by decide) (by decide)
      exact .cons (.some (name_fits tag)) (.cons (.some (uuid_fits _)) (.cons (.some (name_fits status))
        (.cons (.some (number_fits (isValid.offsets.1.trans isValid.offsets.2) (by decide)))
        (.cons (.some (number_fits isValid.offsets.2 (by decide)))
        (.cons (.some (number_fits isValid.elapsed (by decide)))
        (.cons (.map fun text isText => text_fits (isValid.errorText text isText) (by decide)) .nil))))))
    · decide

theorem TraceIoSummary.fits {summary : TraceIoSummary} (held : summary.Held)
    (valid : validateTraceIoSummary floats parser name (some summary) = .ok ()) :
    Fits floats 132000 (recordValue summary.fields) := by
  simp only [validateTraceIoSummary, check_bind_ok, validateJson_ok] at valid
  apply Fits.mono
  · apply Fits.record ["value", "truncated"] rfl (by decide) (by decide)
    exact .cons (.some ⟨held, valid.1⟩) (.cons (.some (.bool _)) .nil)
  · decide

theorem RuntimeHostMetrics.fits {metrics : RuntimeHostMetrics}
    (processRss : ∀ bytes ∈ metrics.processRssBytes, bytes ≤ u64Max)
    (totalMemory : ∀ bytes ∈ metrics.totalMemoryBytes, bytes ≤ u64Max) :
    Fits floats 300 (recordValue metrics.fields) := by
  apply Fits.mono
  · apply Fits.record ["processRssBytes", "totalMemoryBytes"] rfl (by decide) (by decide)
    exact .cons (.map fun bytes isBytes => .u64 (processRss bytes isBytes))
      (.cons (.map fun bytes isBytes => .u64 (totalMemory bytes isBytes)) .nil)
  · decide

theorem RuntimeTelemetryTerminal.fits {terminal : RuntimeTelemetryTerminal}
    (duration : terminal.durationMs ≤ maxTraceDurationMs) (ended : terminal.endedAtMs ≤ u64Max)
    (error : OptionalText terminal.error 1 512) : Fits floats 4000 (recordValue terminal.fields) := by
  have status : terminal.status.name.utf8ByteSize ≤ 20 := by cases terminal.status <;> decide
  apply Fits.mono
  · apply Fits.record ["status", "durationMs", "endedAtMs", "error"] rfl (by decide) (by decide)
    exact .cons (.some (name_fits status)) (.cons (.some (number_fits duration (by decide)))
      (.cons (.some (.u64 ended)) (.cons (.map fun text isText => text_fits (error text isText) (by decide)) .nil)))
  · decide

theorem RuntimeTelemetryBatch.fits {batch : RuntimeTelemetryBatch}
    (valid : ValidRuntimeTelemetry floats parser batch) (held : batch.Held) :
    Fits floats 700000 (recordValue batch.fields) := by
  obtain ⟨inputValid, outputValid⟩ := validateTraceIoSummaries_ok.mp valid.summaries
  have events : Fits floats 384034 (.array (batch.events.map TraceTelemetry.value)) := by
    apply Fits.mono
    · apply Fits.array
      intro value mem
      obtain ⟨event, isEvent, rfl⟩ := List.mem_map.mp mem
      exact TraceTelemetry.fits (valid.events event isEvent)
    · have few := valid.few
      rw [maxTraceTelemetryEvents] at few
      rw [List.length_map]
      omega
  have inputSummary : ∀ summary ∈ batch.rootInputSummary, Fits floats 132000 (recordValue summary.fields) := by
    intro summary isSummary
    rw [Option.mem_def.mp isSummary] at inputValid
    exact TraceIoSummary.fits (held.rootInputSummary summary isSummary) inputValid
  have outputSummary : ∀ summary ∈ batch.rootOutputSummary, Fits floats 132000 (recordValue summary.fields) := by
    intro summary isSummary
    rw [Option.mem_def.mp isSummary] at outputValid
    exact TraceIoSummary.fits (held.rootOutputSummary summary isSummary) outputValid
  have terminal : ∀ terminal ∈ batch.terminal, Fits floats 4000 (recordValue terminal.fields) := by
    intro terminal isTerminal
    obtain ⟨timing, error⟩ := valid.terminal terminal isTerminal
    exact RuntimeTelemetryTerminal.fits timing.1 (held.endedAtMs terminal isTerminal) error
  apply Fits.mono
  · apply Fits.record
      ["deploymentId", "traceId", "invocationId", "projectId", "endpoint", "agentId", "startedAtMs", "events",
        "droppedEvents", "rootInputSummary", "rootOutputSummary", "hostMetrics", "terminal"] rfl (by decide) (by decide)
    exact .cons (.some (uuid_fits _)) (.cons (.some (identifier_fits valid.traceId))
      (.cons (.some (identifier_fits valid.invocationId)) (.cons (.some (identifier_fits valid.projectId))
      (.cons (.some (identifier_fits valid.endpoint)) (.cons (.some (identifier_fits valid.agentId))
      (.cons (.some (.u64 held.startedAtMs)) (.cons (.some events)
      (.cons (.some (number_fits valid.dropped (by decide))) (.cons (.map inputSummary) (.cons (.map outputSummary)
      (.cons (.map fun metrics isMetrics => RuntimeHostMetrics.fits (held.processRssBytes metrics isMetrics)
        (held.totalMemoryBytes metrics isMetrics)) (.cons (.map terminal) .nil))))))))))))
  · decide

/-! ## Payloads of single fields -/

theorem challengeFields_fits {nonce audience : String} {timestamp : ℕ} (isNonce : Token 32 256 nonce)
    (isTimestamp : timestamp ≤ u64Max) (isAudience : Text 1 512 audience) :
    Fits floats 6000 (recordValue (challengeFields nonce timestamp audience)) := by
  apply Fits.mono
  · apply Fits.record ["nonce", "timestamp", "audience"] rfl (by decide) (by decide)
    exact .cons (.some (token_fits isNonce (by decide))) (.cons (.some (.u64 isTimestamp))
      (.cons (.some (text_fits isAudience (by decide))) .nil))
  · decide

theorem resultFields_fits {output : Value} (isChannel : channelId ≤ u64Max)
    (held : output.WellFormed) (small : output.encodedSize floats ≤ maxInvocationBodyBytes) :
    Fits floats 17000000 (recordValue (resultFields channelId output)) := by
  apply Fits.mono
  · apply Fits.record ["channelId", "output"] rfl (by decide) (by decide)
    exact .cons (.some (.u64 isChannel)) (.cons (.some ⟨held, small⟩) .nil)
  · decide

theorem errorDetailsFields_fits (isChannel : channelId ≤ u64Max) :
    Fits floats 300 (recordValue (errorDetailsFields channelId)) := by
  apply Fits.mono
  · apply Fits.record ["channelId"] rfl (by decide) (by decide)
    exact .cons (.some (.u64 isChannel)) .nil
  · decide

theorem channelFields_fits (requestId : Uuid) (isChannel : channelId ≤ u64Max) :
    Fits floats 2000 (recordValue (channelFields requestId channelId)) := by
  apply Fits.mono
  · apply Fits.record ["requestId", "channelId"] rfl (by decide) (by decide)
    exact .cons (.some (uuid_fits _)) (.cons (.some (.u64 isChannel)) .nil)
  · decide

theorem heartbeatFields_fits (sessionId : Uuid) : Fits floats 1000 (recordValue (heartbeatFields sessionId)) := by
  apply Fits.mono
  · apply Fits.record ["sessionId"] rfl (by decide) (by decide)
    exact .cons (.some (uuid_fits _)) .nil
  · decide

theorem errorEventFields_fits {code message : String} (isCode : ErrorCode code) (isMessage : Text 1 2048 message) :
    Fits floats 20000 (recordValue (errorEventFields code message)) := by
  apply Fits.mono
  · apply Fits.record ["code", "message"] rfl (by decide) (by decide)
    exact .cons (.some (.string isCode.1.2 (by decide))) (.cons (.some (text_fits isMessage (by decide))) .nil)
  · decide

theorem configChangedFields_fits {deploymentIds : List Uuid} (few : deploymentIds.length ≤ 256) :
    Fits floats 300000 (recordValue (configChangedFields deploymentIds)) := by
  have ids : Fits floats 221954 (.array (deploymentIds.map Uuid.value)) := by
    apply Fits.mono
    · apply Fits.array
      intro value mem
      obtain ⟨id, -, rfl⟩ := List.mem_map.mp mem
      exact uuid_fits id
    · rw [List.length_map]
      omega
  apply Fits.mono
  · apply Fits.record ["deploymentIds"] rfl (by decide) (by decide)
    exact .cons (.some ids) .nil
  · decide

theorem empty_fits : Fits floats 2 (recordValue []) := by
  apply Fits.mono
  · exact Fits.record [] rfl (by decide) (by decide) .nil
  · decide

end

end Vifu.Gateway
