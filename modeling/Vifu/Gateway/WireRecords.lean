import Vifu.Gateway.Wire

/-!
# Records of gateway commands read as they were written

One law per record: the reader of its name gives back the record that the fields were listed from.
Options are read as they are, since no value of an option is written as null.
-/

namespace Vifu.Gateway

open Foundation
open Vifu.Runtime hiding validateIdentifier

theorem entries_recordValue (names : List String) (fields : List (String × Option Value))
    (known : fields.map Prod.fst = names) (distinct : names.Nodup) :
    ∃ entries, recordEntries names (recordValue fields) = some entries ∧
      ∀ key, getField key entries = (fields.lookup key).join := by
  refine ⟨_, recordEntries_recordValue known distinct, ?_⟩
  apply getField_recordValue
  rw [known]
  exact distinct

theorem bind_of_some {α β : Type} {read : Option α} {value : α} (isSome : read = some value) (next : α → Option β) :
    (read >>= next) = next value := by
  rw [isSome]
  rfl

/-! ## Single values -/

@[simp] theorem readNullable_string (value : Option String) :
    readNullable Value.asString (value.map .string) = some value :=
  readNullable_map (fun _ => by simp) (by simp)

@[simp] theorem readNullable_u64 (value : Option ℕ) : readNullable Value.asU64 (value.map u64) = some value :=
  readNullable_map (fun _ => by simp [u64]) (by simp)

@[simp] theorem readNullable_bool (value : Option Bool) :
    readNullable Value.asBool (value.map .bool) = some value :=
  readNullable_map (fun _ => by simp) (by simp)

variable {α : Type}

theorem readNullable_record {read : Value → Option α} {fields : α → List (String × Option Value)}
    (reads : ∀ element, read (recordValue (fields element)) = some element) (value : Option α) :
    readNullable read (value.map fun element => recordValue (fields element)) = some value :=
  readNullable_map (fun _ => by simp [recordValue]) (fun element _ => reads element)

theorem asU32_u64 {value : ℕ} (small : value ≤ 4294967295) : asU32 (u64 value) = some value := by
  simp [asU32, small]

theorem readList_map {read : Value → Option α} {write : α → Value}
    (reads : ∀ element, read (write element) = some element) (elements : List α) :
    readList read (.array (elements.map write)) = some elements := by
  rw [readList]
  induction elements with
  | nil => simp
  | cons element elements ih => simp [reads, ih]

theorem readEnum_name {variants : List α} {name : α → String} (complete : ∀ variant, variant ∈ variants)
    (distinct : Function.Injective name) (variant : α) :
    readEnum variants name (.string (name variant)) = some variant := by
  have named : ∀ other, (unitVariant (name other) (.string (name variant))).isSome = true ↔ other = variant := by
    intro other
    rw [unitVariant]
    by_cases same : other = variant
    · simp [same]
    · have unnamed : ¬(Value.string (name variant) = .string (name other) ∨
          Value.string (name variant) = .object [(name other, .null)]) := by
        rw [Value.string.injEq, distinct.eq_iff]
        intro isNamed
        cases isNamed with
        | inl equal => exact same equal.symm
        | inr isObject => cases isObject
      rw [if_neg unnamed]
      simp [same]
  rw [readEnum, List.find?_eq_some_iff_append]
  obtain ⟨before, after, split, fresh⟩ := List.eq_append_cons_of_mem (complete variant)
  refine ⟨(named variant).mpr rfl, before, after, split, ?_⟩
  intro other mem
  rw [Bool.not_eq_true', ← Bool.not_eq_true, named other]
  intro same
  exact fresh (same ▸ mem)

@[simp] theorem readEnum_stage (stage : ProviderStage) :
    readEnum providerStages stageName (.string (stageName stage)) = some stage :=
  readEnum_name (by intro variant; cases variant <;> decide)
    (by intro left right; cases left <;> cases right <;> decide) stage

@[simp] theorem readEnum_stageStatus (status : TraceStageStatus) :
    readEnum [.started, .completed, .failed] TraceStageStatus.name (.string status.name) = some status :=
  readEnum_name (by intro variant; cases variant <;> decide)
    (by intro left right; cases left <;> cases right <;> decide) status

@[simp] theorem readEnum_deliveryStatus (status : TraceDeliveryStatus) :
    readEnum [.delivered, .failed] TraceDeliveryStatus.name (.string status.name) = some status :=
  readEnum_name (by intro variant; cases variant <;> decide)
    (by intro left right; cases left <;> cases right <;> decide) status

@[simp] theorem readEnum_terminalStatus (status : RuntimeTelemetryTerminalStatus) :
    readEnum [.completed, .cancelled, .error] RuntimeTelemetryTerminalStatus.name (.string status.name) =
      some status :=
  readEnum_name (by intro variant; cases variant <;> decide)
    (by intro left right; cases left <;> cases right <;> decide) status

@[simp] theorem readEnum_feedbackEvent (event : ApplicationFeedbackEvent) :
    readEnum [.outputAccepted, .actionApplied, .framePresented] ApplicationFeedbackEvent.name (.string event.name) =
      some event :=
  readEnum_name (by intro variant; cases variant <;> decide)
    (by intro left right; cases left <;> cases right <;> decide) event

@[simp] theorem readEnum_feedbackOutcome (outcome : ApplicationFeedbackOutcome) :
    readEnum [.pass, .fail, .unknown, .notApplicable] ApplicationFeedbackOutcome.name (.string outcome.name) =
      some outcome :=
  readEnum_name (by intro variant; cases variant <;> decide)
    (by intro left right; cases left <;> cases right <;> decide) outcome

/-! ## Records without uuids -/

theorem AgentDescriptor.ofValue_recordValue (agent : AgentDescriptor) :
    AgentDescriptor.ofValue (recordValue agent.fields) = some agent := by
  have keys : (agent.fields.map Prod.fst) = ["id", "name", "metadata"] := rfl
  have distinct : (agent.fields.map Prod.fst).Nodup := by
    rw [keys]
    decide
  have present := presentFields_keys agent.fields
  -- every field of the object is known, so that none is left out
  have known : (sortFields (presentFields agent.fields)).filter
      (fun field => decide (field.1 ∈ ["id", "name", "metadata"])) = sortFields (presentFields agent.fields) := by
    rw [List.filter_eq_self]
    intro field mem
    rw [mem_sortFields (distinct.sublist present)] at mem
    rw [decide_eq_true_eq]
    exact present.subset (List.mem_map_of_mem mem)
  have entries : looseEntries ["id", "name", "metadata"] (recordValue agent.fields) =
      some (sortFields (presentFields agent.fields)) := by
    rw [recordValue, looseEntries]
    simp only [known]
    exact if_pos (sorted_sortFields _).distinct
  have found := getField_recordValue distinct
  rw [AgentDescriptor.ofValue, entries]
  simp only [requiredField, defaultField, optionalField, found, Option.bind_eq_bind, Option.bind_some]
  simp [AgentDescriptor.fields, List.lookup_cons, readOptional]

theorem GatewayMachineProof.ofValue_recordValue (machine : GatewayMachineProof) :
    GatewayMachineProof.ofValue (recordValue machine.fields) = some machine := by
  obtain ⟨entries, isRecord, found⟩ := entries_recordValue ["id", "publicKey", "signature", "signedAt"]
    machine.fields rfl (by decide)
  rw [GatewayMachineProof.ofValue, isRecord]
  simp only [requiredField, found, Option.bind_eq_bind, Option.bind_some]
  simp [GatewayMachineProof.fields, List.lookup_cons]

theorem GatewayHelloAuth.ofValue_recordValue (auth : GatewayHelloAuth) :
    GatewayHelloAuth.ofValue (recordValue auth.fields) = some auth := by
  obtain ⟨entries, isRecord, found⟩ := entries_recordValue ["deviceToken"] auth.fields rfl (by decide)
  rw [GatewayHelloAuth.ofValue, isRecord]
  simp only [optionField, found, Option.bind_eq_bind, Option.bind_some]
  simp [GatewayHelloAuth.fields]

theorem GatewayWelcomeAuth.ofValue_recordValue (auth : GatewayWelcomeAuth) :
    GatewayWelcomeAuth.ofValue (recordValue auth.fields) = some auth := by
  obtain ⟨entries, isRecord, found⟩ := entries_recordValue ["deviceToken", "generation", "expiresAt"] auth.fields rfl
    (by decide)
  rw [GatewayWelcomeAuth.ofValue, isRecord]
  simp only [requiredField, found, Option.bind_eq_bind, Option.bind_some]
  simp [GatewayWelcomeAuth.fields, List.lookup_cons]

theorem ApplicationFeedback.ofValue_recordValue (feedback : ApplicationFeedback) :
    ApplicationFeedback.ofValue (recordValue feedback.fields) = some feedback := by
  obtain ⟨entries, isRecord, found⟩ := entries_recordValue ["event", "outcome", "message", "path"] feedback.fields rfl
    (by decide)
  rw [ApplicationFeedback.ofValue, isRecord]
  simp only [requiredField, optionField, found, Option.bind_eq_bind, Option.bind_some]
  simp [ApplicationFeedback.fields, List.lookup_cons]

theorem TraceIoSummary.ofValue_recordValue (summary : TraceIoSummary) :
    TraceIoSummary.ofValue (recordValue summary.fields) = some summary := by
  obtain ⟨entries, isRecord, found⟩ := entries_recordValue ["value", "truncated"] summary.fields rfl (by decide)
  rw [TraceIoSummary.ofValue, isRecord]
  simp only [requiredField, found, Option.bind_eq_bind, Option.bind_some]
  simp [TraceIoSummary.fields, List.lookup_cons]

theorem RuntimeHostMetrics.ofValue_recordValue (metrics : RuntimeHostMetrics) :
    RuntimeHostMetrics.ofValue (recordValue metrics.fields) = some metrics := by
  obtain ⟨entries, isRecord, found⟩ := entries_recordValue ["processRssBytes", "totalMemoryBytes"] metrics.fields rfl
    (by decide)
  rw [RuntimeHostMetrics.ofValue, isRecord]
  simp only [optionField, found, Option.bind_eq_bind, Option.bind_some]
  simp [RuntimeHostMetrics.fields, List.lookup_cons]

theorem RuntimeTelemetryTerminal.ofValue_recordValue (terminal : RuntimeTelemetryTerminal) :
    RuntimeTelemetryTerminal.ofValue (recordValue terminal.fields) = some terminal := by
  obtain ⟨entries, isRecord, found⟩ := entries_recordValue ["status", "durationMs", "endedAtMs", "error"]
    terminal.fields rfl (by decide)
  rw [RuntimeTelemetryTerminal.ofValue, isRecord]
  simp only [requiredField, optionField, found, Option.bind_eq_bind, Option.bind_some]
  simp [RuntimeTelemetryTerminal.fields, List.lookup_cons]

/-! ## Records with uuids -/

section

variable {uuids : UuidParser}

section

variable (lawful : uuids.Lawful)
include lawful

@[simp] theorem readUuid_value (id : Uuid) : readUuid uuids id.value = some id := by
  simp [readUuid, Uuid.value, lawful id]

@[simp] theorem readNullable_uuid (id : Option Uuid) :
    readNullable (readUuid uuids) (id.map Uuid.value) = some id :=
  readNullable_map (fun _ => by simp [Uuid.value]) (by simp [lawful])

theorem Hello.ofValue_recordValue (hello : Hello) :
    Hello.ofValue uuids (recordValue hello.fields) = some hello := by
  obtain ⟨entries, isRecord, found⟩ := entries_recordValue
    ["protocol", "resumeSessionId", "agents", "metadata", "machine", "auth", "followup"] hello.fields rfl (by decide)
  rw [Hello.ofValue, isRecord]
  simp only [requiredField, optionField, defaultField, optionalField, found, Option.bind_eq_bind, Option.bind_some]
  simp [Hello.fields, List.lookup_cons, lawful, readOptional, readList_map AgentDescriptor.ofValue_recordValue,
    GatewayMachineProof.ofValue_recordValue, GatewayHelloAuth.ofValue_recordValue]

theorem Welcome.ofValue_recordValue (welcome : Welcome) :
    Welcome.ofValue uuids (recordValue welcome.fields) = some welcome := by
  obtain ⟨entries, isRecord, found⟩ := entries_recordValue
    ["gatewayId", "connectionId", "sessionId", "heartbeatIntervalMs", "resumed", "auth"] welcome.fields rfl (by decide)
  rw [Welcome.ofValue, isRecord]
  simp only [requiredField, optionField, found, Option.bind_eq_bind, Option.bind_some]
  simp [Welcome.fields, List.lookup_cons, lawful, readNullable_record GatewayWelcomeAuth.ofValue_recordValue]

theorem PairingRequired.ofValue_recordValue (pairing : PairingRequired) :
    PairingRequired.ofValue uuids (recordValue pairing.fields) = some pairing := by
  obtain ⟨entries, isRecord, found⟩ := entries_recordValue
    ["requestId", "authUrl", "retryable", "recommendedNextStep", "retryAfterMs"] pairing.fields rfl (by decide)
  rw [PairingRequired.ofValue, isRecord]
  simp only [requiredField, found, Option.bind_eq_bind, Option.bind_some]
  simp [PairingRequired.fields, List.lookup_cons, lawful]

theorem Invoke.ofValue_recordValue (invoke : Invoke) :
    Invoke.ofValue uuids (recordValue invoke.fields) = some invoke := by
  obtain ⟨entries, isRecord, found⟩ := entries_recordValue
    ["channelId", "endpointId", "profileId", "bindingId", "agentId", "binding", "input", "timeoutMs"] invoke.fields rfl
    (by decide)
  rw [Invoke.ofValue, isRecord]
  simp only [requiredField, found, Option.bind_eq_bind, Option.bind_some]
  simp [Invoke.fields, List.lookup_cons, lawful]

theorem FeedbackReport.ofValue_recordValue (report : FeedbackReport) :
    FeedbackReport.ofValue uuids (recordValue report.fields) = some report := by
  obtain ⟨entries, isRecord, found⟩ := entries_recordValue
    ["requestId", "observationId", "startOffsetMs", "endOffsetMs", "feedback"] report.fields rfl (by decide)
  rw [FeedbackReport.ofValue, isRecord]
  simp only [requiredField, found, Option.bind_eq_bind, Option.bind_some]
  simp [FeedbackReport.fields, List.lookup_cons, lawful, ApplicationFeedback.ofValue_recordValue]

theorem StageTelemetry.ofValue_recordValue (stage : StageTelemetry) :
    StageTelemetry.ofValue uuids (recordValue stage.fields) = some stage := by
  obtain ⟨entries, isRecord, found⟩ := entries_recordValue
    ["observation_id", "stage", "status", "start_offset_ms", "end_offset_ms", "elapsed_ms", "request_elapsed_ms",
      "input_tokens", "output_tokens", "resident", "error"] stage.fields rfl (by decide)
  rw [StageTelemetry.ofValue, isRecord]
  simp only [requiredField, optionField, found, Option.bind_eq_bind, Option.bind_some]
  simp [StageTelemetry.fields, List.lookup_cons, lawful]

theorem DeliveryTelemetry.ofValue_recordValue (delivery : DeliveryTelemetry) :
    DeliveryTelemetry.ofValue uuids (recordValue delivery.fields) = some delivery := by
  obtain ⟨entries, isRecord, found⟩ := entries_recordValue
    ["observation_id", "status", "start_offset_ms", "end_offset_ms", "elapsed_ms", "error"] delivery.fields rfl
    (by decide)
  rw [DeliveryTelemetry.ofValue, isRecord]
  simp only [requiredField, optionField, found, Option.bind_eq_bind, Option.bind_some]
  simp [DeliveryTelemetry.fields, List.lookup_cons, lawful]

end

theorem readInvocationStarted_recordValue (providerKey capability : String) (model : Option String) :
    readInvocationStarted
        (recordValue (TraceTelemetry.invocationStarted providerKey capability model).variant.2) =
      some (.invocationStarted providerKey capability model) := by
  obtain ⟨entries, isRecord, found⟩ := entries_recordValue ["provider_key", "capability", "model"]
    (TraceTelemetry.invocationStarted providerKey capability model).variant.2 rfl (by decide)
  rw [readInvocationStarted, isRecord]
  simp only [requiredField, optionField, found, Option.bind_eq_bind, Option.bind_some]
  simp [TraceTelemetry.variant, List.lookup_cons]

theorem taggedContent_recordValue (tag : String) (fields : List (String × Option Value))
    (distinct : (fields.map Prod.fst).Nodup) (untagged : "type" ∉ fields.map Prod.fst) :
    taggedContent (recordValue (("type", some (.string tag)) :: fields)) = some (tag, recordValue fields) := by
  have whole : ((("type", some (Value.string tag)) :: fields).map Prod.fst).Nodup :=
    List.nodup_cons.mpr ⟨untagged, distinct⟩
  have variantDistinct : Distinct (presentFields fields) := distinct.sublist (presentFields_keys fields)
  have found := getField_recordValue whole "type"
  rw [List.lookup_cons_self, Option.join_some] at found
  rw [recordValue, taggedContent, found]
  simp only [Option.bind_some, asString_string, Option.bind_eq_bind, recordValue, pure]
  congr 3
  -- both objects stand in key order, and only the tag is left out
  apply Sorted.ext ((sorted_sortFields _).filter _) (sorted_sortFields _)
  intro key
  apply Option.ext
  intro value
  have tagFirst : presentFields (("type", some (.string tag)) :: fields) =
      ("type", .string tag) :: presentFields fields := rfl
  rw [getField_eq_some ((sorted_sortFields _).filter _), getField_eq_some (sorted_sortFields _), List.mem_filter,
    mem_sortFields (whole.sublist (presentFields_keys _)), mem_sortFields variantDistinct, tagFirst, List.mem_cons]
  constructor
  · rintro ⟨isTag | isField, other⟩
    · cases isTag
      simp at other
    · exact isField
  · intro isField
    refine ⟨Or.inr isField, ?_⟩
    rw [bne_iff_ne]
    intro isType
    apply untagged
    rw [← isType]
    exact (presentFields_keys fields).subset (List.mem_map_of_mem isField)

theorem TraceTelemetry.ofValue_value (lawful : uuids.Lawful) (telemetry : TraceTelemetry) :
    TraceTelemetry.ofValue uuids telemetry.value = some telemetry := by
  have content : taggedContent telemetry.value = some (telemetry.variant.1, recordValue telemetry.variant.2) := by
    apply taggedContent_recordValue
    · cases telemetry <;> simp [TraceTelemetry.variant, StageTelemetry.fields, DeliveryTelemetry.fields]
    · cases telemetry <;> simp [TraceTelemetry.variant, StageTelemetry.fields, DeliveryTelemetry.fields]
  rw [TraceTelemetry.ofValue, content]
  cases telemetry with
  | invocationStarted providerKey capability model =>
    simpa [TraceTelemetry.variant] using readInvocationStarted_recordValue providerKey capability model
  | providerStage stage => simp [TraceTelemetry.variant, StageTelemetry.ofValue_recordValue lawful]
  | delivery delivery => simp [TraceTelemetry.variant, DeliveryTelemetry.ofValue_recordValue lawful]

/-- The count of left out events is read as a `u32`. -/
theorem RuntimeTelemetryBatch.ofValue_recordValue (lawful : uuids.Lawful) (batch : RuntimeTelemetryBatch)
    (small : batch.droppedEvents ≤ 4294967295) :
    RuntimeTelemetryBatch.ofValue uuids (recordValue batch.fields) = some batch := by
  obtain ⟨entries, isRecord, found⟩ := entries_recordValue
    ["deploymentId", "traceId", "invocationId", "projectId", "endpoint", "agentId", "startedAtMs", "events",
      "droppedEvents", "rootInputSummary", "rootOutputSummary", "hostMetrics", "terminal"] batch.fields rfl (by decide)
  have required : ∀ {α : Type} (key : String) (read : Value → Option α) (value : Value),
      batch.fields.lookup key = some (some value) → requiredField key entries read = read value := by
    intro α key read value isField
    simp [requiredField, found, isField]
  have text : ∀ (key value : String), batch.fields.lookup key = some (some (.string value)) →
      requiredField key entries Value.asString = some value := by
    intro key value isField
    rw [required key _ _ isField, Value.asString]
  have startedAtMs : requiredField "startedAtMs" entries Value.asU64 = some batch.startedAtMs :=
    required _ _ (u64 batch.startedAtMs) rfl
  have optional : ∀ {α : Type} (key : String) (read : Value → Option α) (value : Option Value),
      batch.fields.lookup key = some value → optionField key entries read = readNullable read value := by
    intro α key read value isField
    simp [optionField, found, isField]
  have events : defaultField "events" entries (readList (TraceTelemetry.ofValue uuids)) [] = some batch.events := by
    have isField : (batch.fields.lookup "events").join = some (.array (batch.events.map TraceTelemetry.value)) := rfl
    simp [defaultField, optionalField, found, isField, readOptional, readList_map (TraceTelemetry.ofValue_value lawful)]
  have droppedEvents : defaultField "droppedEvents" entries asU32 0 = some batch.droppedEvents := by
    have isField : (batch.fields.lookup "droppedEvents").join = some (u64 batch.droppedEvents) := rfl
    simp [defaultField, optionalField, found, isField, readOptional, asU32_u64 small]
  -- the fields are read one after another: unfolding all binds at once repeats the work at each of them
  rw [RuntimeTelemetryBatch.ofValue, bind_of_some isRecord,
    bind_of_some ((required "deploymentId" _ _ rfl).trans (readUuid_value lawful batch.deploymentId)),
    bind_of_some (text "traceId" _ rfl), bind_of_some (text "invocationId" _ rfl), bind_of_some (text "projectId" _ rfl),
    bind_of_some (text "endpoint" _ rfl), bind_of_some (text "agentId" _ rfl), bind_of_some startedAtMs,
    bind_of_some events, bind_of_some droppedEvents,
    bind_of_some ((optional "rootInputSummary" _ _ rfl).trans (readNullable_record TraceIoSummary.ofValue_recordValue _)),
    bind_of_some ((optional "rootOutputSummary" _ _ rfl).trans (readNullable_record TraceIoSummary.ofValue_recordValue _)),
    bind_of_some ((optional "hostMetrics" _ _ rfl).trans (readNullable_record RuntimeHostMetrics.ofValue_recordValue _)),
    bind_of_some ((optional "terminal" _ _ rfl).trans (readNullable_record RuntimeTelemetryTerminal.ofValue_recordValue _))]
  rfl

/-! ## Payloads of single fields -/

theorem readChallenge_recordValue (nonce : String) (timestamp : ℕ) (audience : String) :
    readChallenge (recordValue (challengeFields nonce timestamp audience)) =
      some (.challenge nonce timestamp audience) := by
  obtain ⟨entries, isRecord, found⟩ := entries_recordValue ["nonce", "timestamp", "audience"]
    (challengeFields nonce timestamp audience) rfl (by decide)
  rw [readChallenge, isRecord]
  simp only [requiredField, found, Option.bind_eq_bind, Option.bind_some]
  simp [challengeFields, List.lookup_cons]

theorem readResult_recordValue (requestId : Uuid) (channelId : ℕ) (output : Value) :
    readResult requestId (recordValue (resultFields channelId output)) =
      some (.result requestId channelId output) := by
  obtain ⟨entries, isRecord, found⟩ := entries_recordValue ["channelId", "output"] (resultFields channelId output) rfl
    (by decide)
  rw [readResult, isRecord]
  simp only [requiredField, found, Option.bind_eq_bind, Option.bind_some]
  simp [resultFields, List.lookup_cons]

theorem readErrorDetails_recordValue (channelId : ℕ) :
    readErrorDetails (recordValue (errorDetailsFields channelId)) = some channelId := by
  obtain ⟨entries, isRecord, found⟩ := entries_recordValue ["channelId"] (errorDetailsFields channelId) rfl (by decide)
  rw [readErrorDetails, isRecord]
  simp only [requiredField, found, Option.bind_eq_bind, Option.bind_some]
  simp [errorDetailsFields]

theorem readChannel_recordValue (lawful : uuids.Lawful) (build : Uuid → ℕ → AgentGatewayCommand) (requestId : Uuid)
    (channelId : ℕ) :
    readChannel uuids build (recordValue (channelFields requestId channelId)) = some (build requestId channelId) := by
  obtain ⟨entries, isRecord, found⟩ := entries_recordValue ["requestId", "channelId"]
    (channelFields requestId channelId) rfl (by decide)
  rw [readChannel, isRecord]
  simp only [requiredField, found, Option.bind_eq_bind, Option.bind_some]
  simp [channelFields, List.lookup_cons, lawful]

theorem readHeartbeat_recordValue (lawful : uuids.Lawful) (build : Uuid → AgentGatewayCommand) (sessionId : Uuid) :
    readHeartbeat uuids build (recordValue (heartbeatFields sessionId)) = some (build sessionId) := by
  obtain ⟨entries, isRecord, found⟩ := entries_recordValue ["sessionId"] (heartbeatFields sessionId) rfl (by decide)
  rw [readHeartbeat, isRecord]
  simp only [requiredField, found, Option.bind_eq_bind, Option.bind_some]
  simp [heartbeatFields, lawful]

theorem readErrorEvent_recordValue (code message : String) :
    readErrorEvent (recordValue (errorEventFields code message)) = some (.error none none code message) := by
  obtain ⟨entries, isRecord, found⟩ := entries_recordValue ["code", "message"] (errorEventFields code message) rfl
    (by decide)
  rw [readErrorEvent, isRecord]
  simp only [requiredField, found, Option.bind_eq_bind, Option.bind_some]
  simp [errorEventFields, List.lookup_cons]

theorem readConfigChanged_recordValue (lawful : uuids.Lawful) (deploymentIds : List Uuid) :
    readConfigChanged uuids (recordValue (configChangedFields deploymentIds)) =
      some (.runtimeConfigChanged deploymentIds) := by
  obtain ⟨entries, isRecord, found⟩ := entries_recordValue ["deploymentIds"] (configChangedFields deploymentIds) rfl
    (by decide)
  rw [readConfigChanged, isRecord]
  simp only [requiredField, found, Option.bind_eq_bind, Option.bind_some]
  simp [configChangedFields, readList_map (readUuid_value lawful)]

theorem readEmpty_recordValue (command : AgentGatewayCommand) : readEmpty command (recordValue []) = some command :=
  rfl

end

end Vifu.Gateway
