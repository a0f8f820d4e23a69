import Vifu.Runtime.FrameCodec
import Vifu.Gateway.WireRecords
import Vifu.Gateway.WireSize

/-!
# Round trips of gateway commands

Every command that `validate_command` accepts is sent as a frame that fits, and the frame is read as
the command.
-/

namespace Vifu.Gateway

open Foundation
open Vifu.Runtime hiding validateIdentifier

/-! ## Frames that can be sent -/

structure Sendable (floats : FloatText) (frame : ProtocolFrame) : Prop where
  held : frame.Held
  valid : validateProtocolFrame frame = .ok ()
  fits : frame.content.encodedSize floats ≤ maxProtocolFrameBytes

def HeadText (value : String) : Prop := value ≠ "" ∧ value.utf8ByteSize ≤ 144

instance decidableHeadText (value : String) : Decidable (HeadText value) := inferInstanceAs (Decidable (_ ∧ _))

theorem Uuid.headText (id : Uuid) : HeadText id.text := by
  have length := id.canonical.1
  constructor
  · intro isEmpty
    rw [isEmpty] at length
    cases length
  · have bytes := utf8ByteSize_le_length id.text
    omega

section

variable {floats : FloatText} {fields : List (String × Option Value)}

theorem head_size {value : String} (head : HeadText value) : FieldSize floats 866 (some (.string value)) :=
  FieldFits.size (.some (.string head.2 (by decide)))

theorem requestFrame_sendable {id method : String} (isId : HeadText id) (isMethod : HeadText method)
    (params : Fits floats 17400000 (recordValue fields)) : Sendable floats (requestFrame id method fields) := by
  constructor
  · intro value isValue
    cases isValue
    exact params.held
  · rw [requestFrame, validateProtocolFrame, check_bind_ok, validateNonEmpty, validateNonEmpty, ensure_ok, ensure_ok]
    exact ⟨isId.1, isMethod.1⟩
  · have tag : HeadText "req" := by decide
    apply Nat.le_trans
    · apply encodedSize_presentFields ["type", "id", "method", "params"] rfl (by decide)
      exact .cons (head_size tag) (.cons (head_size isId) (.cons (head_size isMethod) (.cons (.some params.size) .nil)))
    · decide

theorem responseFrame_sendable {id : String} (isId : HeadText id)
    (payload : Fits floats 17400000 (recordValue fields)) : Sendable floats (responseFrame id fields) := by
  constructor
  · refine ⟨?_, nofun⟩
    intro value isValue
    cases isValue
    exact payload.held
  · rw [responseFrame, validateProtocolFrame, check_bind_ok, validateNonEmpty, ensure_ok]
    exact ⟨isId.1, rfl⟩
  · have tag : HeadText "res" := by decide
    apply Nat.le_trans
    · apply encodedSize_presentFields ["type", "id", "ok", "payload", "error"] rfl (by decide)
      exact .cons (head_size tag) (.cons (head_size isId) (.cons (.some (Fits.bool true).size) (.cons (.some payload.size)
        (.cons .none .nil))))
    · decide

theorem eventFrame_sendable {event : String} (isEvent : HeadText event)
    (payload : Fits floats 17400000 (recordValue fields)) : Sendable floats (eventFrame event fields) := by
  constructor
  · intro value isValue
    cases isValue
    exact payload.held
  · rw [eventFrame, validateProtocolFrame, validateNonEmpty, ensure_ok]
    exact isEvent.1
  · have tag : HeadText "event" := by decide
    apply Nat.le_trans
    · apply encodedSize_presentFields ["type", "event", "payload", "seq", "stateVersion"] rfl (by decide)
      exact .cons (head_size tag) (.cons (head_size isEvent) (.cons (.some payload.size) (.cons .none (.cons .none .nil))))
    · decide

theorem errorFrame_sendable {id code message : String} {channelId : ℕ} (isId : HeadText id) (isCode : ErrorCode code)
    (isMessage : Text 1 2048 message) (isChannel : channelId ≤ u64Max) :
    Sendable floats (.response ⟨id, false, none,
      some ⟨code, message, some (recordValue (errorDetailsFields channelId)), none, none⟩⟩) := by
  have details : Fits floats 300 (recordValue (errorDetailsFields channelId)) := errorDetailsFields_fits isChannel
  have nonEmpty : message ≠ "" := by
    intro isEmpty
    have least := isMessage.1
    rw [isEmpty] at least
    revert least
    decide
  constructor
  · refine ⟨nofun, ?_⟩
    intro error isError
    cases isError
    intro value isValue
    cases isValue
    exact details.held
  · simp only [validateProtocolFrame, check_bind_ok, validateNonEmpty, ensure_ok, Option.toList_some, forM_ok,
      List.mem_singleton, forall_eq, validateErrorShape]
    exact ⟨isId.1, isCode.1.1, nonEmpty⟩
  · have tag : HeadText "res" := by decide
    have error : (Value.object (presentFields (ErrorShape.fields
        ⟨code, message, some (recordValue (errorDetailsFields channelId)), none, none⟩))).encodedSize floats ≤ 20000 := by
      apply Nat.le_trans
      · apply encodedSize_presentFields ["code", "message", "details", "retryable", "retryAfterMs"] rfl (by decide)
        exact .cons (.some (Fits.string isCode.1.2 (by decide)).size)
          (.cons (.some (Fits.string isMessage.2.1 (by decide)).size)
          (.cons (.some details.size) (.cons .none (.cons .none .nil))))
      · decide
    apply Nat.le_trans
    · apply encodedSize_presentFields ["type", "id", "ok", "payload", "error"] rfl (by decide)
      exact .cons (head_size tag) (.cons (head_size isId) (.cons (.some (Fits.bool false).size) (.cons .none
        (.cons (.some error) .nil))))
    · decide

end

variable {command : AgentGatewayCommand}

section

variable {floats : FloatText} {parser : JsonParser} {uuids : UuidParser} {reader : JsonReader} {frame : ProtocolFrame}

theorem commandFrame_sendable (valid : ValidCommand floats parser command)
    (held : command.Held) : ∃ frame, commandFrame command = .ok frame ∧ Sendable floats frame := by
  cases command with
  | challenge nonce timestamp audience =>
    exact ⟨_, rfl, eventFrame_sendable (by decide) ((challengeFields_fits valid.1 held valid.2.2).mono (by decide))⟩
  | hello hello =>
    exact ⟨_, rfl, requestFrame_sendable (by decide) (by decide) ((Hello.fits valid held).mono (by decide))⟩
  | welcome welcome =>
    exact ⟨_, rfl, responseFrame_sendable (by decide) ((Welcome.fits valid held).mono (by decide))⟩
  | pairingRequired pairing =>
    exact ⟨_, rfl, eventFrame_sendable (by decide)
      ((PairingRequired.fits valid.1 valid.2.1 valid.2.2.2).mono (by decide))⟩
  | invoke requestId invoke =>
    exact ⟨_, rfl, requestFrame_sendable requestId.headText (by decide)
      ((Invoke.fits valid held.1 held.2.1 held.2.2).mono (by decide))⟩
  | result requestId channelId output =>
    exact ⟨_, rfl, responseFrame_sendable requestId.headText
      ((resultFields_fits held.1 held.2 valid.2).mono (by decide))⟩
  | error requestId channelId code message =>
    obtain ⟨together, -, isCode, isMessage⟩ := valid
    cases requestId with
    | none =>
      cases channelId with
      | none =>
        exact ⟨_, rfl, eventFrame_sendable (by decide) ((errorEventFields_fits isCode isMessage).mono (by decide))⟩
      | some channelId => simp at together
    | some requestId =>
      cases channelId with
      | none => simp at together
      | some channelId =>
        exact ⟨_, rfl, errorFrame_sendable requestId.headText isCode isMessage (held channelId rfl)⟩
  | cancel requestId channelId | invocationActivity requestId channelId =>
    exact ⟨_, rfl, eventFrame_sendable (by decide) ((channelFields_fits requestId held).mono (by decide))⟩
  | heartbeat sessionId | heartbeatAck sessionId =>
    exact ⟨_, rfl, eventFrame_sendable (by decide) ((heartbeatFields_fits sessionId).mono (by decide))⟩
  | runtimeConfigChanged deploymentIds =>
    exact ⟨_, rfl, eventFrame_sendable (by decide) ((configChangedFields_fits valid.1.2).mono (by decide))⟩
  | invocationActivityReady | runtimeMonitoringReady | runtimeHostMetricsReady =>
    exact ⟨_, rfl, eventFrame_sendable (by decide) (empty_fits.mono (by decide))⟩
  | runtimeTelemetry batch =>
    exact ⟨_, rfl, eventFrame_sendable (by decide) ((RuntimeTelemetryBatch.fits valid held).mono (by decide))⟩
  | applicationFeedback report =>
    exact ⟨_, rfl, eventFrame_sendable (by decide)
      ((FeedbackReport.fits valid.1 valid.2.1 valid.2.2).mono (by decide))⟩

theorem Uuid.text_ne_hello (id : Uuid) : id.text ≠ agentGatewayHello := by
  intro same
  have length := id.canonical.1
  rw [same] at length
  revert length
  decide

theorem decodeRequired_some {α : Type} {read : Value → Option α} {value : Value} {result : α} (name : String)
    (reads : read value = some result) : decodeRequired (some value) name read = .ok result := by
  simp only [decodeRequired, reads]

theorem fromEventFrame_eventFrame {event : String} {fields : List (String × Option Value)}
    {read : Value → Option AgentGatewayCommand}
    (isReader : (eventReaders uuids).lookup event = some read) (reads : read (recordValue fields) = some command) :
    fromEventFrame uuids ⟨event, some (recordValue fields), none, none⟩ = .ok command := by
  rw [fromEventFrame, isReader]
  exact decodeRequired_some _ reads

theorem fromGatewayFrame_ok (valid : ValidCommand floats parser command) (reads : (match frame with
      | .request request => fromRequestFrame uuids request
      | .response response => fromResponseFrame uuids response
      | .event event => fromEventFrame uuids event) = .ok command) :
    fromGatewayFrame uuids floats parser frame = .ok command := by
  have passes : validateCommand floats parser command = .ok () := validateCommand_ok.mpr valid
  cases frame <;>
    · simp only at reads
      simp only [fromGatewayFrame, reads, passes, bind, Except.bind, pure, Except.pure]

theorem fromGatewayFrame_commandFrame (lawful : uuids.Lawful)
    (valid : ValidCommand floats parser command) (isFrame : commandFrame command = .ok frame) :
    fromGatewayFrame uuids floats parser frame = .ok command := by
  apply fromGatewayFrame_ok valid
  cases command with
  | challenge nonce timestamp audience =>
    cases isFrame
    exact fromEventFrame_eventFrame rfl (readChallenge_recordValue nonce timestamp audience)
  | hello hello =>
    cases isFrame
    simp [requestFrame, fromRequestFrame, decodeRequired, Hello.ofValue_recordValue lawful]
  | welcome welcome =>
    cases isFrame
    simp [responseFrame, fromResponseFrame, decodeRequired, Welcome.ofValue_recordValue lawful]
  | pairingRequired pairing =>
    cases isFrame
    exact fromEventFrame_eventFrame rfl (by simp [PairingRequired.ofValue_recordValue lawful])
  | invoke requestId invoke =>
    cases isFrame
    have other : agentGatewayInvokeMethod ≠ agentGatewayHello := by decide
    simp [requestFrame, fromRequestFrame, other, parseUuid, lawful requestId, decodeRequired,
      Invoke.ofValue_recordValue lawful]
    rfl
  | result requestId channelId output =>
    cases isFrame
    simp [responseFrame, fromResponseFrame, requestId.text_ne_hello, parseUuid, lawful requestId, decodeRequired,
      readResult_recordValue]
    rfl
  | error requestId channelId code message =>
    cases requestId with
    | none =>
      cases channelId with
      | none =>
        cases isFrame
        exact fromEventFrame_eventFrame rfl (readErrorEvent_recordValue code message)
      | some channelId => simp [commandFrame] at isFrame
    | some requestId =>
      cases channelId with
      | none => simp [commandFrame] at isFrame
      | some channelId =>
        cases isFrame
        simp [fromResponseFrame, requestId.text_ne_hello, parseUuid, lawful requestId, decodeRequired,
          readErrorDetails_recordValue]
        rfl
  | cancel requestId channelId =>
    cases isFrame
    exact fromEventFrame_eventFrame rfl (readChannel_recordValue lawful .cancel requestId channelId)
  | invocationActivity requestId channelId =>
    cases isFrame
    exact fromEventFrame_eventFrame rfl (readChannel_recordValue lawful .invocationActivity requestId channelId)
  | invocationActivityReady | runtimeMonitoringReady | runtimeHostMetricsReady =>
    cases isFrame
    exact fromEventFrame_eventFrame rfl (readEmpty_recordValue _)
  | heartbeat sessionId =>
    cases isFrame
    exact fromEventFrame_eventFrame rfl (readHeartbeat_recordValue lawful .heartbeat sessionId)
  | heartbeatAck sessionId =>
    cases isFrame
    exact fromEventFrame_eventFrame rfl (readHeartbeat_recordValue lawful .heartbeatAck sessionId)
  | runtimeConfigChanged deploymentIds =>
    cases isFrame
    exact fromEventFrame_eventFrame rfl (readConfigChanged_recordValue lawful deploymentIds)
  | runtimeTelemetry batch =>
    cases isFrame
    have small : batch.droppedEvents ≤ 4294967295 := by
      have dropped := valid.dropped
      rw [maxTraceDroppedEvents] at dropped
      omega
    exact fromEventFrame_eventFrame rfl (by simp [RuntimeTelemetryBatch.ofValue_recordValue lawful batch small])
  | applicationFeedback report =>
    cases isFrame
    exact fromEventFrame_eventFrame rfl (by simp [FeedbackReport.ofValue_recordValue lawful])

/-! ## The codec -/

theorem toGatewayFrame_ok : toGatewayFrame floats parser command = .ok frame ↔
      ValidCommand floats parser command ∧ commandFrame command = .ok frame := by
  rw [toGatewayFrame, check_bind_ok, validateCommand_ok]

theorem encodeCommand_iff (held : command.Held) :
    (∃ encoded, encodeCommand floats parser command = .ok encoded) ↔ validateCommand floats parser command = .ok () := by
  rw [validateCommand_ok]
  constructor
  · rintro ⟨encoded, encodes⟩
    rw [encodeCommand, bind_ok] at encodes
    obtain ⟨frame, isFrame, -⟩ := encodes
    exact (toGatewayFrame_ok.mp isFrame).1
  · intro valid
    obtain ⟨frame, isFrame, sendable⟩ := commandFrame_sendable valid held
    have encodes : encode floats frame = .ok (frame.content.text floats) :=
      mapError_ok.mpr (encodeProtocolFrame_ok.mpr ⟨sendable.valid, sendable.fits, rfl⟩)
    exact ⟨_, bind_ok.mpr ⟨frame, toGatewayFrame_ok.mpr ⟨valid, isFrame⟩, encodes⟩⟩

end

/-- Every command that passes is sent as a frame that fits, and the text of the frame is read as the
command. -/
theorem gateway_command_codec (floats : FloatText) (parser : JsonParser) (uuids : UuidParser) (reader : JsonReader)
    (lawful : uuids.Lawful) (command : AgentGatewayCommand) (held : command.Held)
    (roundTrips : ∀ frame, commandFrame command = .ok frame → reader.RoundTrips floats frame.content)
    (passes : validateCommand floats parser command = .ok ()) :
    ∃ frame encoded, toGatewayFrame floats parser command = .ok frame ∧ encode floats frame = .ok encoded ∧
      encoded.utf8ByteSize ≤ maxProtocolFrameBytes ∧ decode reader encoded = .ok frame ∧
      fromGatewayFrame uuids floats parser frame = .ok command := by
  have valid := validateCommand_ok.mp passes
  obtain ⟨frame, isFrame, sendable⟩ := commandFrame_sendable valid held
  obtain ⟨encodes, decodes⟩ := decode_encode sendable.held (roundTrips frame isFrame) sendable.valid sendable.fits
  exact ⟨frame, _, toGatewayFrame_ok.mpr ⟨valid, isFrame⟩, mapError_ok.mpr encodes, sendable.fits,
    mapError_ok.mpr decodes, fromGatewayFrame_commandFrame lawful valid isFrame⟩

def hyphenatedUuids : UuidParser where
  parse text :=
    if canonical : text.length = 36 ∧ text.toList.zipIdx.all (fun place => uuidCharacter place.2 place.1) = true then
      some ⟨text, canonical⟩
    else none

theorem hyphenatedUuids_lawful : hyphenatedUuids.Lawful := by
  intro id
  exact dif_pos id.canonical

def exampleId : Uuid := ⟨"0190f2c4-7b1e-7c3a-9d52-1f6a0e8b4c37", by decide⟩

/-- A feedback report with one of its two optional fields. -/
def exampleCommand : AgentGatewayCommand :=
  .applicationFeedback ⟨exampleId, exampleId, 10, 25, ⟨.actionApplied, .notApplicable, some "moved \"left\"", none⟩⟩

def exampleReader : JsonReader where
  content text :=
    (commandFrame exampleCommand).toOption.bind fun frame =>
      if text = frame.content.text fun _ => "0.5" then some frame.content else none

theorem gateway_command_codec_feedback :
    ∃ frame encoded, toGatewayFrame (fun _ => "0.5") emptyObjectParser exampleCommand = .ok frame ∧
      encode (fun _ => "0.5") frame = .ok encoded ∧ encoded.utf8ByteSize ≤ maxProtocolFrameBytes ∧
      decode exampleReader encoded = .ok frame ∧
      fromGatewayFrame hyphenatedUuids (fun _ => "0.5") emptyObjectParser frame = .ok exampleCommand := by
  apply gateway_command_codec _ _ _ _ hyphenatedUuids_lawful exampleCommand trivial
  · intro frame isFrame
    rw [JsonReader.RoundTrips, exampleReader]
    simp [isFrame, Except.toOption]
  · decide +kernel

end Vifu.Gateway
