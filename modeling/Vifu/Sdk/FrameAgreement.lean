import Vifu.Sdk.GatewayFrame

/-!
# Agreement of the two frame codecs

Every text that one codec writes is read by the other one as the same frame, as long as it is not too large for the
scripts: the runtime sends frames of one mebibyte more than they take.
-/

namespace Vifu.Sdk

open Foundation Vifu.Runtime

/-! ## From the runtime to the scripts -/

theorem property_content (names : List String) (fields : List (String × Option Value))
    (known : fields.map Prod.fst = names) (distinct : names.Nodup) :
    isRecord (.ofJson (Value.object (presentFields fields)).normalized) = true ∧
      hasOnlyKeys (.ofJson (Value.object (presentFields fields)).normalized) names = true ∧
      ∀ key, (JsValue.ofJson (Value.object (presentFields fields)).normalized).property key =
        ((fields.lookup key).join.map fun value => JsValue.ofJson value.normalized).getD .undefined := by
  obtain ⟨entries, isObject, isEntries, found⟩ := recordEntries_normalized (recordEntries_object known distinct)
  rw [isObject]
  refine ⟨(record_ofJson isEntries).1, (record_ofJson isEntries).2, ?_⟩
  intro key
  rw [JsValue.property_ofJson, found, getField_presentFields (by rw [Distinct, known]; exact distinct), Option.map_map]
  rfl

theorem validateNonEmpty_ok {name value : String} : validateNonEmpty name value = .ok () ↔ value ≠ "" := ensure_ok

theorem ofJson_string (text : String) : JsValue.ofJson (Value.string text).normalized = .string text := rfl

theorem ofJson_bool (flag : Bool) : JsValue.ofJson (Value.bool flag).normalized = .bool flag := rfl

theorem ofJson_u64 (number : ℕ) : JsValue.ofJson (u64 number) = .number (.posInt number) := rfl

variable {guard : JsValue → Bool} {α : Type}

theorem isOptional_written {write : α → Value} {option : Option α}
    (passes : ∀ element ∈ option, guard (.ofJson (write element).normalized) = true) :
    isOptional guard ((option.map fun element => JsValue.ofJson (write element).normalized).getD .undefined) = true := by
  cases option with
  | none => rfl
  | some element =>
    have guarded := passes element rfl
    show isOptional guard (.ofJson (write element).normalized) = true
    rw [isOptional]
    · exact guarded
    · intro isUndefined
      cases shape : (write element).normalized <;> simp [shape, JsValue.ofJson] at isUndefined

theorem isOptional_u64 (option : Option ℕ) :
    isOptional isNonNegativeInteger ((option.map fun number => JsValue.ofJson (u64 number)).getD .undefined) = true := by
  cases option <;> rfl

theorem isStateVersion_content (version : StateVersion) :
    isStateVersion (.ofJson (Value.object (presentFields version.fields)).normalized) = true := by
  obtain ⟨isObject, known, found⟩ := property_content ["presence", "health"] version.fields rfl (by decide)
  rw [isStateVersion, isObject, known]
  simp only [found]
  simp [StateVersion.fields, List.lookup_cons, ofJson_u64, isNonNegativeInteger]

theorem isErrorShape_content {error : ErrorShape} (valid : validateErrorShape error = .ok ()) :
    isErrorShape (.ofJson (Value.object (presentFields error.fields)).normalized) = true := by
  rw [validateErrorShape, check_bind_ok, validateNonEmpty_ok, validateNonEmpty_ok] at valid
  obtain ⟨isObject, known, found⟩ := property_content ["code", "message", "details", "retryable", "retryAfterMs"]
    error.fields rfl (by decide)
  have retryable : isOptional isBoolean
      ((error.retryable.map fun flag => JsValue.ofJson (Value.bool flag).normalized).getD .undefined) = true :=
    isOptional_written fun _ _ => rfl
  rw [isErrorShape, isObject, known]
  simp only [found]
  simp only [ErrorShape.fields, List.lookup_cons]
  simp [Function.comp_def, ofJson_string, isNonEmptyString, valid, retryable, isOptional_u64]

theorem isGatewayFrame_content {frame : ProtocolFrame} (valid : validateProtocolFrame frame = .ok ()) :
    isGatewayFrame (.ofJson frame.content.normalized) = true := by
  rw [isGatewayFrame, Bool.or_eq_true, Bool.or_eq_true]
  cases frame with
  | request frame =>
    left
    left
    rw [validateProtocolFrame, check_bind_ok, validateNonEmpty_ok, validateNonEmpty_ok] at valid
    obtain ⟨isObject, known, found⟩ := property_content ["type", "id", "method", "params"] frame.fields rfl (by decide)
    rw [ProtocolFrame.content, isRequestFrame, isObject, known]
    simp only [found]
    simp [RequestFrame.fields, List.lookup_cons, ofJson_string, isNonEmptyString, isText, valid]
  | response frame =>
    left
    right
    rw [validateProtocolFrame, check_bind_ok, validateNonEmpty_ok, forM_ok] at valid
    obtain ⟨isObject, known, found⟩ := property_content ["type", "id", "ok", "payload", "error"] frame.fields rfl
      (by decide)
    have error : isOptional isErrorShape ((frame.error.map fun error =>
        JsValue.ofJson (Value.object (presentFields error.fields)).normalized).getD .undefined) = true :=
      isOptional_written fun error isError => isErrorShape_content (valid.2 error (by simpa using isError))
    rw [ProtocolFrame.content, isResponseFrame, isObject, known]
    simp only [found]
    simp only [ResponseFrame.fields, List.lookup_cons]
    simp [Function.comp_def, ofJson_string, isNonEmptyString, isText, ofJson_bool, isBoolean, valid.1, error]
  | event frame =>
    right
    rw [validateProtocolFrame, validateNonEmpty_ok] at valid
    obtain ⟨isObject, known, found⟩ := property_content ["type", "event", "payload", "seq", "stateVersion"]
      frame.fields rfl (by decide)
    have stateVersion : isOptional isStateVersion ((frame.stateVersion.map fun version =>
        JsValue.ofJson (Value.object (presentFields version.fields)).normalized).getD .undefined) = true :=
      isOptional_written fun version _ => isStateVersion_content version
    rw [ProtocolFrame.content, isEventFrame, isObject, known]
    simp only [found]
    simp only [Protocol.EventFrame.fields, List.lookup_cons]
    simp [Function.comp_def, ofJson_string, isNonEmptyString, isText, valid, isOptional_u64, stateVersion]

/-! ## From the scripts to the runtime -/

variable {value : JsValue} {text : String}

theorem isText_iff : isText text value = true ↔ value = .string text := by
  cases value <;> simp [isText]

theorem isNonEmptyString_iff : isNonEmptyString value = true ↔ ∃ text, value = .string text ∧ text ≠ "" := by
  cases value <;> simp [isNonEmptyString]

theorem isBoolean_iff : isBoolean value = true ↔ ∃ flag, value = .bool flag := by
  cases value <;> simp [isBoolean]

theorem isOptional_iff (passes : isOptional guard value = true) : value = .undefined ∨ guard value = true := by
  cases value with
  | undefined => exact .inl rfl
  | null | bool | number | string | array | object => exact .inr passes

/-- An integer that the value is lies below 2⁵³. -/
def IsSmall (value : JsValue) : Prop := isNonNegativeInteger value = true → ∃ number < 2 ^ 53, value = .number (.posInt number)

def integerFields (frame : JsValue) : List JsValue :=
  [frame.property "seq", (frame.property "stateVersion").property "presence",
    (frame.property "stateVersion").property "health", (frame.property "error").property "retryAfterMs"]

theorem toJson_of_isText (isTag : isText text value = true) : value.toJson = some (.string text) := by
  rw [isText_iff.mp isTag, JsValue.toJson]

theorem toJson_of_isBoolean (guarded : isOptional isBoolean value = true) :
    ∀ json ∈ value.toJson, ∃ flag, json = .bool flag := by
  intro json isJson
  cases isOptional_iff guarded with
  | inl isUndefined => simp [isUndefined, JsValue.toJson] at isJson
  | inr isFlag =>
    obtain ⟨flag, rfl⟩ := isBoolean_iff.mp isFlag
    cases isJson
    exact ⟨flag, rfl⟩

theorem toJson_of_isInteger (guarded : isOptional isNonNegativeInteger value = true)
    (small : IsSmall value) : ∀ json ∈ value.toJson, ∃ number, json = u64 number := by
  intro json isJson
  cases isOptional_iff guarded with
  | inl isUndefined => simp [isUndefined, JsValue.toJson] at isJson
  | inr isInteger =>
    obtain ⟨number, -, rfl⟩ := small isInteger
    cases isJson
    exact ⟨number, rfl⟩

variable {fields : List (String × Value)} {names : List String} {key : String}

theorem optionalNonNull_exists {read : Value → Option α}
    (reads : ∀ value ∈ getField key fields, value ≠ .null ∧ ∃ element, read value.normalized = some element) :
    ∃ option, optionalNonNull key fields read = some option := by
  rw [optionalNonNull, optionalField]
  cases isField : getField key fields with
  | none => exact ⟨none, rfl⟩
  | some value =>
    obtain ⟨nonNull, element, isElement⟩ := reads value isField
    exact ⟨some element, by simp [readOptional, nonNull, isElement]⟩

theorem optionalJsonValue_exists (key : String) (fields : List (String × Value)) :
    ∃ option, optionalJsonValue key fields = some option := by
  rw [optionalJsonValue, optionalField]
  cases getField key fields with
  | none => exact ⟨none, rfl⟩
  | some value => exact ⟨some value.normalized, rfl⟩

theorem requiredField_eq {read : Value → Option α}
    {value : Value} {element : α} (isField : getField key fields = some value) (reads : read value = some element) :
    requiredField key fields read = some element := by
  rw [requiredField, isField, Option.bind_some, reads]

theorem errorShape_read (wellFormed : value.WellFormed) (guarded : isErrorShape value = true)
    (small : IsSmall (value.property "retryAfterMs")) : ∃ fields shape, value.toJson = some (.object fields) ∧
      ErrorShape.ofValue (Value.object fields).normalized = some shape ∧ validateErrorShape shape = .ok () := by
  simp only [isErrorShape, Bool.and_eq_true] at guarded
  obtain ⟨⟨⟨⟨⟨isObject, known⟩, isCode⟩, isMessage⟩, isRetryable⟩, isRetryAfterMs⟩ := guarded
  obtain ⟨code, isCode, nonEmptyCode⟩ := isNonEmptyString_iff.mp isCode
  obtain ⟨message, isMessage, nonEmptyMessage⟩ := isNonEmptyString_iff.mp isMessage
  obtain ⟨fields, isJson, isFields, found⟩ := record_toJson wellFormed isObject known
  obtain ⟨entries, isEntries, isRecordOf, foundEntries⟩ := recordEntries_normalized isFields
  have readsCode : requiredField "code" entries Value.asString = some code :=
    requiredField_eq (by rw [foundEntries, found, isCode]; rfl) rfl
  have readsMessage : requiredField "message" entries Value.asString = some message :=
    requiredField_eq (by rw [foundEntries, found, isMessage]; rfl) rfl
  obtain ⟨details, readsDetails⟩ := optionalJsonValue_exists "details" entries
  obtain ⟨retryable, readsRetryable⟩ : ∃ option, optionalNonNull "retryable" entries Value.asBool = some option := by
    apply optionalNonNull_exists
    intro json isField
    rw [foundEntries, found] at isField
    obtain ⟨source, isSource, rfl⟩ := Option.map_eq_some_iff.mp isField
    obtain ⟨flag, rfl⟩ := toJson_of_isBoolean isRetryable source isSource
    exact ⟨by simp [Value.normalized], flag, rfl⟩
  obtain ⟨retryAfterMs, readsRetryAfterMs⟩ : ∃ option, optionalNonNull "retryAfterMs" entries Value.asU64 = some option := by
    apply optionalNonNull_exists
    intro json isField
    rw [foundEntries, found] at isField
    obtain ⟨source, isSource, rfl⟩ := Option.map_eq_some_iff.mp isField
    obtain ⟨number, rfl⟩ := toJson_of_isInteger isRetryAfterMs small source isSource
    exact ⟨by simp [u64, Value.normalized], number, rfl⟩
  refine ⟨fields, ⟨code, message, details, retryable, retryAfterMs⟩, isJson, ?_, ?_⟩
  · rw [isEntries, ErrorShape.ofValue, isRecordOf]
    simp [readsCode, readsMessage, readsDetails, readsRetryable, readsRetryAfterMs]
  · rw [validateErrorShape, check_bind_ok, validateNonEmpty_ok, validateNonEmpty_ok]
    exact ⟨nonEmptyCode, nonEmptyMessage⟩

theorem stateVersion_read (wellFormed : value.WellFormed) (guarded : isStateVersion value = true)
    (presence : IsSmall (value.property "presence")) (health : IsSmall (value.property "health")) :
    ∃ fields version, value.toJson = some (.object fields) ∧
      StateVersion.ofValue (Value.object fields).normalized = some version := by
  simp only [isStateVersion, Bool.and_eq_true] at guarded
  obtain ⟨⟨⟨isObject, known⟩, isPresence⟩, isHealth⟩ := guarded
  obtain ⟨fields, isJson, isFields, found⟩ := record_toJson wellFormed isObject known
  obtain ⟨entries, isEntries, isRecordOf, foundEntries⟩ := recordEntries_normalized isFields
  obtain ⟨present, -, isPresent⟩ := presence isPresence
  obtain ⟨healthy, -, isHealthy⟩ := health isHealth
  have readsPresence : requiredField "presence" entries Value.asU64 = some present :=
    requiredField_eq (by rw [foundEntries, found, isPresent]; rfl) rfl
  have readsHealth : requiredField "health" entries Value.asU64 = some healthy :=
    requiredField_eq (by rw [foundEntries, found, isHealthy]; rfl) rfl
  refine ⟨fields, ⟨present, healthy⟩, isJson, ?_⟩
  rw [isEntries, StateVersion.ofValue, isRecordOf]
  simp [readsPresence, readsHealth]

theorem plainFrame_of_found {tag : String}
    (isFields : recordEntries names (.object fields) = some fields) (isTag : getField "type" fields = some (.string tag))
    (error : ∀ json ∈ getField "error" fields, json.IsObject)
    (version : ∀ json ∈ getField "stateVersion" fields, json.IsObject) : PlainFrame (.object fields) :=
  (plainFrame_iff isFields).mpr ⟨⟨fields, rfl⟩, ⟨tag, isTag⟩, error, version⟩

def IsRead (frame : JsValue) : Prop :=
  ∃ content read, frame.toJson = some content ∧ ProtocolFrame.ofContent content = some read ∧
    validateProtocolFrame read = .ok () ∧ PlainFrame content

theorem isObject_of_unknown (key : String)
    (isFields : recordEntries names (.object fields) = some fields) (absent : key ∉ names) :
    ∀ json ∈ getField key fields, json.IsObject := by
  intro json isField
  rw [getField_unknown key ⟨fields, rfl⟩ isFields absent] at isField
  cases isField

variable {frame : JsValue}

section

variable (wellFormed : frame.WellFormed)
include wellFormed

theorem requestFrame_read (isRequest : isRequestFrame frame = true) : IsRead frame := by
  simp only [isRequestFrame, Bool.and_eq_true] at isRequest
  obtain ⟨⟨⟨⟨isObject, known⟩, isTag⟩, isId⟩, isMethod⟩ := isRequest
  obtain ⟨id, isId, nonEmptyId⟩ := isNonEmptyString_iff.mp isId
  obtain ⟨method, isMethod, nonEmptyMethod⟩ := isNonEmptyString_iff.mp isMethod
  obtain ⟨fields, isJson, isFields, found⟩ := record_toJson wellFormed isObject known
  have foundTag : getField "type" fields = some (.string "req") := by rw [found, toJson_of_isText isTag]
  have readsId : requiredField "id" fields Value.asString = some id :=
    requiredField_eq (by rw [found, isId]; rfl) rfl
  have readsMethod : requiredField "method" fields Value.asString = some method :=
    requiredField_eq (by rw [found, isMethod]; rfl) rfl
  obtain ⟨params, readsParams⟩ := optionalJsonValue_exists "params" fields
  have reads : RequestFrame.ofContent (.object fields) = some ⟨id, method, params⟩ := by
    rw [RequestFrame.ofContent, isFields]
    simp [requiredField_eq foundTag (unitVariant_string "req"), readsId, readsMethod, readsParams]
  refine ⟨.object fields, .request ⟨id, method, params⟩, isJson, ?_, ?_, ?_⟩
  · rw [ProtocolFrame.ofContent, reads]
    rfl
  · rw [validateProtocolFrame, check_bind_ok, validateNonEmpty_ok, validateNonEmpty_ok]
    exact ⟨nonEmptyId, nonEmptyMethod⟩
  · exact plainFrame_of_found isFields foundTag (isObject_of_unknown "error" isFields (by decide))
      (isObject_of_unknown "stateVersion" isFields (by decide))

theorem responseFrame_read (isResponse : isResponseFrame frame = true)
    (small : ∀ value ∈ integerFields frame, IsSmall value) : IsRead frame := by
  simp only [isResponseFrame, Bool.and_eq_true] at isResponse
  obtain ⟨⟨⟨⟨⟨isObject, known⟩, isTag⟩, isId⟩, isOk⟩, isError⟩ := isResponse
  obtain ⟨id, isId, nonEmptyId⟩ := isNonEmptyString_iff.mp isId
  obtain ⟨ok, isOk⟩ := isBoolean_iff.mp isOk
  obtain ⟨fields, isJson, isFields, found⟩ := record_toJson wellFormed isObject known
  have foundTag : getField "type" fields = some (.string "res") := by rw [found, toJson_of_isText isTag]
  have readsId : requiredField "id" fields Value.asString = some id :=
    requiredField_eq (by rw [found, isId]; rfl) rfl
  have readsOk : requiredField "ok" fields Value.asBool = some ok :=
    requiredField_eq (by rw [found, isOk]; rfl) rfl
  obtain ⟨payload, readsPayload⟩ := optionalJsonValue_exists "payload" fields
  -- The error is left out, or read as what it stands for.
  have isErrorOf : ∀ json ∈ getField "error" fields, ∃ errorFields shape, json = .object errorFields ∧
      ErrorShape.ofValue json.normalized = some shape ∧ validateErrorShape shape = .ok () := by
    intro json isField
    rw [found] at isField
    cases isOptional_iff isError with
    | inl isUndefined => simp [isUndefined, JsValue.toJson] at isField
    | inr isShape =>
      obtain ⟨errorFields, shape, isErrorJson, readsShape, valid⟩ := errorShape_read (wellFormed.property "error") isShape
        (small _ (by simp [integerFields]))
      cases isErrorJson.symm.trans isField
      exact ⟨errorFields, shape, rfl, readsShape, valid⟩
  obtain ⟨error, readsError⟩ : ∃ option, optionalNonNull "error" fields ErrorShape.ofValue = some option := by
    apply optionalNonNull_exists
    intro json isField
    obtain ⟨errorFields, shape, rfl, readsShape, -⟩ := isErrorOf json isField
    exact ⟨by simp, shape, readsShape⟩
  have reads : ResponseFrame.ofContent (.object fields) = some ⟨id, ok, payload, error⟩ := by
    rw [ResponseFrame.ofContent, isFields]
    simp [requiredField_eq foundTag (unitVariant_string "res"), readsId, readsOk, readsPayload, readsError]
  refine ⟨.object fields, .response ⟨id, ok, payload, error⟩, isJson, ProtocolFrame.ofContent_response reads, ?_, ?_⟩
  · rw [validateProtocolFrame, check_bind_ok, validateNonEmpty_ok, forM_ok]
    refine ⟨nonEmptyId, ?_⟩
    intro shape isShape
    obtain ⟨-, rfl⟩ | ⟨json, other, isField, rfl, readsOther⟩ := optionalNonNull_some readsError
    · simp at isShape
    · obtain ⟨errorFields, read, -, readsShape, valid⟩ := isErrorOf json isField
      cases readsShape.symm.trans readsOther
      cases List.mem_singleton.mp isShape
      exact valid
  · apply plainFrame_of_found isFields foundTag
    · intro json isField
      obtain ⟨errorFields, -, rfl, -⟩ := isErrorOf json isField
      exact ⟨errorFields, rfl⟩
    · exact isObject_of_unknown "stateVersion" isFields (by decide)

theorem eventFrame_read (isEvent : isEventFrame frame = true)
    (small : ∀ value ∈ integerFields frame, IsSmall value) : IsRead frame := by
  simp only [isEventFrame, Bool.and_eq_true] at isEvent
  obtain ⟨⟨⟨⟨⟨isObject, known⟩, isTag⟩, isName⟩, isSeq⟩, isVersion⟩ := isEvent
  obtain ⟨event, isName, nonEmptyName⟩ := isNonEmptyString_iff.mp isName
  obtain ⟨fields, isJson, isFields, found⟩ := record_toJson wellFormed isObject known
  have foundTag : getField "type" fields = some (.string "event") := by rw [found, toJson_of_isText isTag]
  have readsName : requiredField "event" fields Value.asString = some event :=
    requiredField_eq (by rw [found, isName]; rfl) rfl
  obtain ⟨payload, readsPayload⟩ := optionalJsonValue_exists "payload" fields
  obtain ⟨seq, readsSeq⟩ : ∃ option, optionalNonNull "seq" fields Value.asU64 = some option := by
    apply optionalNonNull_exists
    intro json isField
    rw [found] at isField
    obtain ⟨number, rfl⟩ := toJson_of_isInteger isSeq (small _ (by simp [integerFields])) json isField
    exact ⟨by simp [u64], number, rfl⟩
  have isVersionOf : ∀ json ∈ getField "stateVersion" fields, ∃ versionFields version, json = .object versionFields ∧
      StateVersion.ofValue json.normalized = some version := by
    intro json isField
    rw [found] at isField
    cases isOptional_iff isVersion with
    | inl isUndefined => simp [isUndefined, JsValue.toJson] at isField
    | inr isShape =>
      obtain ⟨versionFields, version, isVersionJson, readsVersion⟩ := stateVersion_read
        (wellFormed.property "stateVersion") isShape (small _ (by simp [integerFields]))
        (small _ (by simp [integerFields]))
      cases isVersionJson.symm.trans isField
      exact ⟨versionFields, version, rfl, readsVersion⟩
  obtain ⟨version, readsVersion⟩ : ∃ option, optionalNonNull "stateVersion" fields StateVersion.ofValue = some option := by
    apply optionalNonNull_exists
    intro json isField
    obtain ⟨versionFields, version, rfl, reads⟩ := isVersionOf json isField
    exact ⟨by simp, version, reads⟩
  have reads : Protocol.EventFrame.ofContent (.object fields) = some ⟨event, payload, seq, version⟩ := by
    rw [Protocol.EventFrame.ofContent, isFields]
    simp [requiredField_eq foundTag (unitVariant_string "event"), readsName, readsPayload, readsSeq, readsVersion]
  refine ⟨.object fields, .event ⟨event, payload, seq, version⟩, isJson, ProtocolFrame.ofContent_event reads, ?_, ?_⟩
  · rw [validateProtocolFrame, validateNonEmpty_ok]
    exact nonEmptyName
  · apply plainFrame_of_found isFields foundTag (isObject_of_unknown "error" isFields (by decide))
    intro json isField
    obtain ⟨versionFields, -, rfl, -⟩ := isVersionOf json isField
    exact ⟨versionFields, rfl⟩

theorem gatewayFrame_read (guarded : isGatewayFrame frame = true)
    (small : ∀ value ∈ integerFields frame, IsSmall value) : IsRead frame := by
  rw [isGatewayFrame, Bool.or_eq_true, Bool.or_eq_true] at guarded
  obtain (isRequest | isResponse) | isEvent := guarded
  · exact requestFrame_read wellFormed isRequest
  · exact responseFrame_read wellFormed isResponse small
  · exact eventFrame_read wellFormed isEvent small

end

/-! ## Agreement -/

/-- The integer fields of the frame lie below 2⁵³. -/
def SmallIntegers : ProtocolFrame → Prop
  | .request _ => True
  | .response frame => ∀ error ∈ frame.error, ∀ number ∈ error.retryAfterMs, number < 2 ^ 53
  | .event frame => (∀ number ∈ frame.seq, number < 2 ^ 53) ∧
      ∀ version ∈ frame.stateVersion, version.presence < 2 ^ 53 ∧ version.health < 2 ^ 53

section

variable {reader : JsonReader} {floats : FloatText}

/-- A script reads every text that the runtime sends of the frame, as a value with the same fields. -/
def ScriptReads (reader : JsonReader) (floats : FloatText) (frame : ProtocolFrame) : Prop :=
  ∀ encoded, encodeProtocolFrame floats frame = .ok encoded →
    ∃ value, decodeGatewayFrame reader encoded = .ok value ∧ value.toJson = some frame.content.normalized

/-- The runtime reads every text that a script sends of the value, as a frame with the same fields. -/
def RuntimeReads (reader : JsonReader) (floats : FloatText) (frame : JsValue) : Prop :=
  ∀ encoded, encodeGatewayFrame floats frame = .ok encoded →
    ∃ read, decodeProtocolFrame reader encoded = .ok read ∧
      some read.content.normalized = frame.toJson.map Value.normalized

/-- The runtime sends the frame, but not within the size that scripts take. -/
def Oversized (floats : FloatText) (frame : ProtocolFrame) : Prop :=
  validateProtocolFrame frame = .ok () ∧ maxGatewayFrameBytes < frame.content.encodedSize floats ∧
    frame.content.encodedSize floats ≤ maxProtocolFrameBytes

theorem scriptReads_iff {frame : ProtocolFrame} (roundTrips : reader.RoundTrips floats frame.content) :
    ScriptReads reader floats frame ↔ ¬Oversized floats frame := by
  constructor
  · rintro reads ⟨valid, large, fits⟩
    obtain ⟨value, decodes, -⟩ := reads _ (encodeProtocolFrame_ok.mpr ⟨valid, fits, rfl⟩)
    obtain ⟨-, small, -⟩ := decodeGatewayFrame_ok.mp decodes
    exact absurd small (not_le.mpr large)
  · intro fitting encoded encodes
    obtain ⟨valid, fits, rfl⟩ := encodeProtocolFrame_ok.mp encodes
    have small : frame.content.encodedSize floats ≤ maxGatewayFrameBytes :=
      not_lt.mp fun large => fitting ⟨valid, large, fits⟩
    have parses : JsValue.parse reader (frame.content.text floats) = some (.ofJson frame.content.normalized) := by
      rw [JsValue.parse, roundTrips, Option.map_some]
    refine ⟨_, decodeGatewayFrame_ok.mpr ⟨content_text_ne frame, small, parses, isGatewayFrame_content valid⟩, ?_⟩
    exact JsValue.toJson_ofJson _

theorem runtimeReads (wellFormed : frame.WellFormed) (small : ∀ value ∈ integerFields frame, IsSmall value)
    (roundTrips : ∀ content ∈ frame.toJson, reader.RoundTrips floats content) : RuntimeReads reader floats frame := by
  intro encoded encodes
  obtain ⟨guarded, writes, fits⟩ := encodeGatewayFrame_ok.mp encodes
  obtain ⟨content, read, isContent, reads, valid, plain⟩ := gatewayFrame_read wellFormed guarded small
  have isText : content.text floats = encoded := by
    rw [JsValue.stringify, isContent, Option.map_some, Option.some.injEq] at writes
    exact writes
  have same := (ProtocolFrame.normalized_iff content read reads).mpr plain
  have nonEmpty : encoded ≠ "" := by
    obtain ⟨fields, rfl, -⟩ := plain
    rw [← isText]
    exact text_ne_of_object fields
  refine ⟨read, ?_, by rw [same, isContent, Option.map_some]⟩
  have limit : maxGatewayFrameBytes ≤ maxProtocolFrameBytes := by decide
  rw [decodeProtocolFrame_ok, ← isText, roundTrips content isContent, Option.bind_some, reads, isText]
  exact ⟨nonEmpty, fits.trans limit, rfl, valid⟩

end

/-- The two codecs agree on a frame of the runtime and a value of a script exactly when the frame is not one that the
runtime sends beyond the size that scripts take. -/
theorem gateway_codecs_agree_iff (runtimeReader scriptReader : JsonReader) (runtimeFloats scriptFloats : FloatText)
    (frame : ProtocolFrame) (value : JsValue) (small : SmallIntegers frame)
    (parses : SmallIntegers frame → scriptReader.RoundTrips runtimeFloats frame.content)
    (wellFormed : value.WellFormed) (smallValues : ∀ integer ∈ integerFields value, IsSmall integer)
    (reads : ∀ content ∈ value.toJson, runtimeReader.RoundTrips scriptFloats content) :
    (ScriptReads scriptReader runtimeFloats frame ∧ RuntimeReads runtimeReader scriptFloats value) ↔
      ¬Oversized runtimeFloats frame := by
  rw [scriptReads_iff (parses small)]
  exact and_iff_left (runtimeReads wellFormed smallValues reads)

def pingValue : JsValue := .object [("method", .string "runtime.ping"), ("id", .string "request-1"), ("type", .string "req"),
  ("params", .undefined)]

def pingContent : Value :=
  .object [("method", .string "runtime.ping"), ("id", .string "request-1"), ("type", .string "req")]

def pingParser : JsonReader where
  content text :=
    if text = pingContent.text fun _ => "0.5" then some pingContent
    else if text = pingFrame.content.text fun _ => "0.5" then some pingFrame.content
    else none

theorem gateway_codecs_agree_ping :
    (ScriptReads pingParser (fun _ => "0.5") pingFrame ∧ RuntimeReads pingParser (fun _ => "0.5") pingValue) ∧
      (encodeProtocolFrame (fun _ => "0.5") pingFrame).isOk = true ∧
      (encodeGatewayFrame (fun _ => "0.5") pingValue).isOk = true := by
  have roundTrips : pingParser.RoundTrips (fun _ => "0.5") pingFrame.content := by
    rw [JsonReader.RoundTrips]
    decide +kernel
  have reads : ∀ content ∈ pingValue.toJson, pingParser.RoundTrips (fun _ => "0.5") content := by
    intro content isContent
    cases isContent
    show pingParser.RoundTrips (fun _ => "0.5") pingContent
    rw [JsonReader.RoundTrips]
    decide +kernel
  have small : ∀ integer ∈ integerFields pingValue, IsSmall integer := by
    simp [integerFields, pingValue, JsValue.property, IsSmall, isNonNegativeInteger, List.lookup_cons]
  have wellFormed : pingValue.WellFormed := by
    simp [pingValue, JsValue.WellFormed, JsValue.PropertiesWellFormed, Distinct]
  have fitting : ¬Oversized (fun _ => "0.5") pingFrame := fun oversized => absurd oversized.2.1 (by decide +kernel)
  have agree := gateway_codecs_agree_iff pingParser pingParser (fun _ => "0.5") (fun _ => "0.5") pingFrame pingValue
    trivial (fun _ => roundTrips) wellFormed small reads
  exact ⟨agree.mpr fitting, by decide +kernel, by decide +kernel⟩

/-! ## A frame between the two sizes -/

def letterFrame (count : ℕ) : ProtocolFrame :=
  .request ⟨"request-1", "runtime.invoke", some (.string (.ofList (List.replicate count 'a')))⟩

theorem encodedSize_replicate (floats : FloatText) (count : ℕ) :
    (Value.string (.ofList (List.replicate count 'a'))).encodedSize floats = count + 2 := by
  have quotes : "\"".utf8ByteSize = 1 := rfl
  have escaped : (List.replicate count 'a').flatMap escapeCharacter = List.replicate count 'a' := by
    induction count with
    | zero => rfl
    | succ count ih =>
      rw [List.replicate_succ, List.flatMap_cons, ih]
      rfl
  have letters : (String.ofList (List.replicate count 'a')).utf8ByteSize = count := by
    rw [String.utf8ByteSize_ofList, utf8Len_eq_length, List.length_replicate]
    intro character mem
    rw [List.eq_of_mem_replicate mem]
    rfl
  rw [Value.encodedSize, Value.text, quoted, String.toList_ofList, escaped, String.utf8ByteSize_append,
    String.utf8ByteSize_append, letters, quotes]
  omega

theorem encodedSize_letterFrame (floats : FloatText) (count : ℕ) :
    (letterFrame count).content.encodedSize floats = count + 69 := by
  have fields : (letterFrame count).content = .object
      [("type", .string "req"), ("id", .string "request-1"), ("method", .string "runtime.invoke"),
        ("params", .string (.ofList (List.replicate count 'a')))] := rfl
  have others : Value.fieldSize floats ("type", .string "req") = 13 ∧
      Value.fieldSize floats ("id", .string "request-1") = 17 ∧
      Value.fieldSize floats ("method", .string "runtime.invoke") = 26 ∧ (quoted "params").utf8ByteSize = 8 := by
    simp only [Value.fieldSize, Value.encodedSize, Value.text]
    decide +kernel
  rw [fields, Value.encodedSize_object]
  simp only [List.map_cons, List.map_nil, List.sum_cons, List.sum_nil, others]
  rw [Value.fieldSize, encodedSize_replicate, others.2.2.2]
  omega

theorem validate_letterFrame (count : ℕ) : validateProtocolFrame (letterFrame count) = .ok () := by
  rw [letterFrame, validateProtocolFrame, check_bind_ok, validateNonEmpty_ok, validateNonEmpty_ok]
  exact ⟨show "request-1" ≠ "" by decide, show "runtime.invoke" ≠ "" by decide⟩

def parserOf (content : Value) : JsonReader where
  content text := if text = content.text fun _ => "0.5" then some content else none

theorem parserOf_roundTrips (content : Value) : (parserOf content).RoundTrips (fun _ => "0.5") content := by
  simp [JsonReader.RoundTrips, parserOf]

theorem letterFrame_oversized {floats : FloatText} {count : ℕ} (large : maxGatewayFrameBytes ≤ count)
    (fits : count + 69 ≤ maxProtocolFrameBytes) : Oversized floats (letterFrame count) := by
  rw [Oversized, encodedSize_letterFrame]
  exact ⟨validate_letterFrame count, by omega, fits⟩

/-- The runtime sends a request with 16 MiB of letters, and no script takes it. -/
theorem gateway_codecs_disagree :
    ¬∀ (runtimeReader scriptReader : JsonReader) (runtimeFloats scriptFloats : FloatText) (frame : ProtocolFrame)
      (value : JsValue), SmallIntegers frame → scriptReader.RoundTrips runtimeFloats frame.content → value.WellFormed →
      (∀ integer ∈ integerFields value, IsSmall integer) →
      (∀ content ∈ value.toJson, runtimeReader.RoundTrips scriptFloats content) →
      ScriptReads scriptReader runtimeFloats frame ∧ RuntimeReads runtimeReader scriptFloats value := by
  intro agree
  have fitting : ∀ frame, SmallIntegers frame → ¬Oversized (fun _ => "0.5") frame := by
    intro frame small
    have roundTrips := parserOf_roundTrips frame.content
    have reads := (agree (parserOf .null) (parserOf frame.content) (fun _ => "0.5") (fun _ => "0.5") frame .undefined small
      roundTrips trivial (by simp [integerFields, JsValue.property, IsSmall, isNonNegativeInteger])
      (by simp [JsValue.toJson])).1
    exact (scriptReads_iff roundTrips).mp reads
  exact fitting (letterFrame maxGatewayFrameBytes) trivial (letterFrame_oversized le_rfl (by decide))

end Vifu.Sdk
