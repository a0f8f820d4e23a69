import Vifu.Runtime.Frame

/-!
# Round trips of protocol frames

A frame that is sent is read as itself, and no tree is read as two kinds of frames.  A text that is
read need not be the text of a frame, though: a record may come as an array, and a tag as an object.
-/

namespace Vifu.Runtime

open Foundation

/-! ## From frames to texts and back -/

/-- The values of a frame are held as `serde_json` holds them. -/
def OptionHeld (value : Option Value) : Prop := ∀ held ∈ value, held.WellFormed

def ErrorShape.Held (error : ErrorShape) : Prop := OptionHeld error.details

def ProtocolFrame.Held : ProtocolFrame → Prop
  | .request frame => OptionHeld frame.params
  | .response frame => OptionHeld frame.payload ∧ ∀ error ∈ frame.error, error.Held
  | .event frame => OptionHeld frame.payload

variable {value : Option Value}

theorem OptionHeld.normalized (held : OptionHeld value) : value.map Value.normalized = value := by
  cases value with
  | none => rfl
  | some value => simp [Value.normalized_of_wellFormed (held value rfl)]

section

variable (names : List String) (fields : List (String × Option Value)) (known : fields.map Prod.fst = names)
  (distinct : names.Nodup)
include names fields known distinct

theorem entries_present : recordEntries names (.object (presentFields fields)) = some (presentFields fields) ∧
      ∀ key, getField key (presentFields fields) = (fields.lookup key).join :=
  ⟨recordEntries_object known distinct, getField_presentFields (by rw [Distinct, known]; exact distinct)⟩

theorem entries_normalized :
    ∃ entries, recordEntries names (Value.normalized (.object (presentFields fields))) = some entries ∧
      ∀ key, getField key entries = (fields.lookup key).join.map Value.normalized := by
  have keys := presentFields_keys fields
  rw [known] at keys
  have present : Distinct (normalizedFields (presentFields fields)) := by
    rw [normalizedFields_eq, distinct_map]
    exact distinct.sublist keys
  refine ⟨sortFields (normalizedFields (presentFields fields)), ?_, ?_⟩
  · rw [Value.normalized, recordEntries, if_pos]
    refine ⟨(sorted_sortFields _).distinct, ?_⟩
    intro field mem
    rw [mem_sortFields present, normalizedFields_eq, List.mem_map] at mem
    obtain ⟨source, isSource, rfl⟩ := mem
    exact keys.subset (List.mem_map.mpr ⟨source, isSource, rfl⟩)
  · intro key
    rw [getField_sortFields present, normalizedFields_eq, getField_map,
      getField_presentFields (by rw [Distinct, known]; exact distinct)]

end

theorem readOptional_json (held : OptionHeld value) :
    readOptional (fun value => some value.normalized) value = some value := by
  cases value with
  | none => rfl
  | some value => simp [readOptional, Value.normalized_of_wellFormed (held value rfl)]

variable {α : Type} {read : Value → Option α} {write : α → Value}

theorem readOptional_nonNull {value : Option α}
    (reads : ∀ element ∈ value, write element ≠ .null ∧ read (write element).normalized = some element) :
    readOptional (fun value => if value = .null then none else read value.normalized) (value.map write) =
      some value := by
  apply readOptional_map
  intro element isElement
  simp [reads element isElement]

theorem RequestFrame.ofContent_content (frame : RequestFrame) (held : OptionHeld frame.params) :
    RequestFrame.ofContent (.object (presentFields frame.fields)) = some frame := by
  obtain ⟨entries, found⟩ := entries_present ["type", "id", "method", "params"] frame.fields rfl (by decide)
  rw [RequestFrame.ofContent, entries]
  simp only [requiredField, optionalJsonValue, optionalField, found, Option.bind_eq_bind, Option.bind_some]
  simp [RequestFrame.fields, List.lookup_cons, readOptional_json held]

@[simp] theorem normalized_u64 (value : ℕ) : (u64 value).normalized = u64 value := rfl

theorem StateVersion.ofValue_normalized (version : StateVersion) :
    StateVersion.ofValue (Value.normalized (.object (presentFields version.fields))) = some version := by
  obtain ⟨entries, isRecord, found⟩ := entries_normalized ["presence", "health"] version.fields rfl (by decide)
  rw [StateVersion.ofValue, isRecord]
  simp only [requiredField, found, Option.bind_eq_bind, Option.bind_some]
  simp [StateVersion.fields, List.lookup_cons, normalized_u64]

theorem ErrorShape.ofValue_normalized (error : ErrorShape) (held : error.Held) :
    ErrorShape.ofValue (Value.normalized (.object (presentFields error.fields))) = some error := by
  obtain ⟨entries, isRecord, found⟩ := entries_normalized
    ["code", "message", "details", "retryable", "retryAfterMs"] error.fields rfl (by decide)
  have details : readOptional (fun value => some value.normalized) (error.details.map Value.normalized) =
      some error.details := by
    rw [held.normalized, readOptional_json held]
  rw [ErrorShape.ofValue, isRecord]
  simp only [requiredField, optionalJsonValue, optionalNonNull, optionalField, found, Option.bind_eq_bind,
    Option.bind_some]
  simp [ErrorShape.fields, List.lookup_cons, details, Value.normalized, Function.comp_def]
  rw [readOptional_nonNull fun flag _ => ⟨by simp, by simp [Value.normalized]⟩,
    readOptional_nonNull fun number _ => ⟨by simp [u64], rfl⟩]
  simp

theorem ResponseFrame.ofContent_content (frame : ResponseFrame) (payload : OptionHeld frame.payload)
    (error : ∀ error ∈ frame.error, error.Held) :
    ResponseFrame.ofContent (.object (presentFields frame.fields)) = some frame := by
  obtain ⟨entries, found⟩ := entries_present ["type", "id", "ok", "payload", "error"] frame.fields rfl (by decide)
  rw [ResponseFrame.ofContent, entries]
  simp only [requiredField, optionalJsonValue, optionalNonNull, optionalField, found, Option.bind_eq_bind,
    Option.bind_some]
  simp [ResponseFrame.fields, List.lookup_cons, readOptional_json payload]
  rw [readOptional_nonNull]
  · simp
  · intro shape isError
    exact ⟨by simp, ErrorShape.ofValue_normalized shape (error shape isError)⟩

theorem Protocol.EventFrame.ofContent_content (frame : Protocol.EventFrame) (payload : OptionHeld frame.payload) :
    Protocol.EventFrame.ofContent (.object (presentFields frame.fields)) = some frame := by
  obtain ⟨entries, found⟩ := entries_present ["type", "event", "payload", "seq", "stateVersion"] frame.fields rfl
    (by decide)
  rw [Protocol.EventFrame.ofContent, entries]
  simp only [requiredField, optionalJsonValue, optionalNonNull, optionalField, found, Option.bind_eq_bind,
    Option.bind_some]
  simp [Protocol.EventFrame.fields, List.lookup_cons, readOptional_json payload]
  rw [readOptional_nonNull fun number _ => ⟨by simp [u64], rfl⟩,
    readOptional_nonNull fun version _ => ⟨by simp, StateVersion.ofValue_normalized version⟩]
  simp

/-! ## Tags -/

/-- The value of the field that tells the records apart. -/
def frameTag : Value → Option Value
  | .object fields => getField "type" fields
  | .array values => values.head?
  | .null | .bool _ | .number _ | .string _ => none

variable {entries : List (String × Value)} {content : Value} {names : List String}

theorem getField_tag (isRecord : recordEntries ("type" :: names) content = some entries) :
    getField "type" entries = frameTag content := by
  cases content with
  | object fields =>
    rw [recordEntries] at isRecord
    split at isRecord
    · rw [Option.some.injEq] at isRecord
      rw [← isRecord, frameTag]
    · simp at isRecord
  | array values =>
    rw [recordEntries] at isRecord
    split at isRecord
    · rw [Option.some.injEq] at isRecord
      cases values with
      | nil => simp [← isRecord, frameTag, getField]
      | cons value values => simp [← isRecord, frameTag, getField]
    · simp at isRecord
  | null | bool | number | string => simp [recordEntries] at isRecord

variable {value : Value} {frame : Protocol.EventFrame} {left right : String}

theorem unitVariant_unique (isLeft : unitVariant left value = some ())
    (isRight : unitVariant right value = some ()) : left = right := by
  simp only [unitVariant, Option.ite_none_right_eq_some, and_true] at isLeft isRight
  cases isLeft <;> cases isRight <;> simp_all

theorem RequestFrame.tag {frame : RequestFrame} (reads : RequestFrame.ofContent content = some frame) :
    (frameTag content).bind (unitVariant "req") = some () := by
  simp only [RequestFrame.ofContent, Option.bind_eq_bind, Option.bind_eq_some_iff] at reads
  obtain ⟨entries, isRecord, _, tag, -⟩ := reads
  rwa [requiredField, getField_tag isRecord] at tag

theorem ResponseFrame.tag {frame : ResponseFrame} (reads : ResponseFrame.ofContent content = some frame) :
    (frameTag content).bind (unitVariant "res") = some () := by
  simp only [ResponseFrame.ofContent, Option.bind_eq_bind, Option.bind_eq_some_iff] at reads
  obtain ⟨entries, isRecord, _, tag, -⟩ := reads
  rwa [requiredField, getField_tag isRecord] at tag

theorem Protocol.EventFrame.tag (reads : Protocol.EventFrame.ofContent content = some frame) :
    (frameTag content).bind (unitVariant "event") = some () := by
  simp only [Protocol.EventFrame.ofContent, Option.bind_eq_bind, Option.bind_eq_some_iff] at reads
  obtain ⟨entries, isRecord, _, tag, -⟩ := reads
  rwa [requiredField, getField_tag isRecord] at tag

theorem tag_unique (isLeft : (frameTag content).bind (unitVariant left) = some ())
    (isRight : (frameTag content).bind (unitVariant right) = some ()) : left = right := by
  cases isTag : frameTag content with
  | none => simp [isTag] at isLeft
  | some value =>
    rw [isTag] at isLeft isRight
    exact unitVariant_unique isLeft isRight

theorem one_alternative (content : Value) :
    [(RequestFrame.ofContent content).isSome, (ResponseFrame.ofContent content).isSome,
      (Protocol.EventFrame.ofContent content).isSome].count true ≤ 1 := by
  have exclusive : ∀ {left right : String} {isLeft isRight : Bool}, left ≠ right →
      (isLeft = true → (frameTag content).bind (unitVariant left) = some ()) →
      (isRight = true → (frameTag content).bind (unitVariant right) = some ()) →
      ¬(isLeft = true ∧ isRight = true) :=
    fun other tagLeft tagRight both => other (tag_unique (tagLeft both.1) (tagRight both.2))
  have request : (RequestFrame.ofContent content).isSome = true →
      (frameTag content).bind (unitVariant "req") = some () := by
    intro isSome
    obtain ⟨frame, reads⟩ := Option.isSome_iff_exists.mp isSome
    exact RequestFrame.tag reads
  have response : (ResponseFrame.ofContent content).isSome = true →
      (frameTag content).bind (unitVariant "res") = some () := by
    intro isSome
    obtain ⟨frame, reads⟩ := Option.isSome_iff_exists.mp isSome
    exact ResponseFrame.tag reads
  have event : (Protocol.EventFrame.ofContent content).isSome = true →
      (frameTag content).bind (unitVariant "event") = some () := by
    intro isSome
    obtain ⟨frame, reads⟩ := Option.isSome_iff_exists.mp isSome
    exact Protocol.EventFrame.tag reads
  have first := exclusive (by decide) request response
  have second := exclusive (by decide) request event
  have third := exclusive (by decide) response event
  revert first second third
  generalize (RequestFrame.ofContent content).isSome = isRequest
  generalize (ResponseFrame.ofContent content).isSome = isResponse
  generalize (Protocol.EventFrame.ofContent content).isSome = isEvent
  revert isRequest isResponse isEvent
  decide

theorem ProtocolFrame.ofContent_response {frame : ResponseFrame}
    (reads : ResponseFrame.ofContent content = some frame) : ProtocolFrame.ofContent content = some (.response frame) := by
  cases isRequest : RequestFrame.ofContent content with
  | some request => exact absurd (tag_unique (RequestFrame.tag isRequest) (ResponseFrame.tag reads)) (by decide)
  | none => simp [ProtocolFrame.ofContent, isRequest, reads]

theorem ProtocolFrame.ofContent_event
    (reads : Protocol.EventFrame.ofContent content = some frame) : ProtocolFrame.ofContent content = some (.event frame) := by
  cases isRequest : RequestFrame.ofContent content with
  | some request => exact absurd (tag_unique (RequestFrame.tag isRequest) (Protocol.EventFrame.tag reads)) (by decide)
  | none =>
    cases isResponse : ResponseFrame.ofContent content with
    | some response => exact absurd (tag_unique (ResponseFrame.tag isResponse) (Protocol.EventFrame.tag reads)) (by decide)
    | none => simp [ProtocolFrame.ofContent, isRequest, isResponse, reads]

theorem ProtocolFrame.ofContent_content (frame : ProtocolFrame) (held : frame.Held) :
    ProtocolFrame.ofContent frame.content = some frame := by
  cases frame with
  | request frame =>
    rw [ProtocolFrame.content, ProtocolFrame.ofContent, RequestFrame.ofContent_content frame held]
    rfl
  | response frame => exact ofContent_response (ResponseFrame.ofContent_content frame held.1 held.2)
  | event frame => exact ofContent_event (Protocol.EventFrame.ofContent_content frame held)

/-! ## From texts to frames and back -/

def Value.IsObject (value : Value) : Prop := ∃ fields, value = .object fields

/-- A tree that writes its records as objects and its tag as a text. -/
def PlainFrame (content : Value) : Prop :=
  ∃ fields, content = .object fields ∧ (∃ tag, getField "type" fields = some (.string tag)) ∧
    (∀ error, getField "error" fields = some error → error.IsObject) ∧
    ∀ version, getField "stateVersion" fields = some version → version.IsObject

theorem normalized_object_eq {left right : List (String × Value)} (leftDistinct : Distinct left)
    (rightDistinct : Distinct right) : (Value.object left).normalized = (Value.object right).normalized ↔
      ∀ key, (getField key left).map Value.normalized = (getField key right).map Value.normalized := by
  have found : ∀ {fields : List (String × Value)}, Distinct fields → ∀ key,
      getField key (sortFields (normalizedFields fields)) = (getField key fields).map Value.normalized := by
    intro fields distinct key
    rw [normalizedFields_eq, getField_sortFields (distinct_map.mpr distinct), getField_map]
  rw [Value.normalized, Value.normalized, Value.object.injEq]
  constructor
  · intro same key
    rw [← found leftDistinct, ← found rightDistinct, same]
  · intro same
    apply Sorted.ext (sorted_sortFields _) (sorted_sortFields _)
    intro key
    rw [found leftDistinct, found rightDistinct, same]

theorem recordEntries_fields {fields entries : List (String × Value)}
    (isRecord : recordEntries names (.object fields) = some entries) :
    entries = fields ∧ Distinct fields ∧ ∀ field ∈ fields, field.1 ∈ names := by
  rw [recordEntries, Option.ite_none_right_eq_some, Option.some.injEq] at isRecord
  exact ⟨isRecord.2.symm, isRecord.1⟩

variable {key : String} {result : Option α} {floats : FloatText}

theorem lookup_unknown {fields : List (String × α)}
    (known : ∀ field ∈ fields, field.1 ∈ names) (unknown : key ∉ names) : fields.lookup key = none := by
  rw [List.lookup_eq_none_iff]
  intro field mem
  rw [bne_iff_ne]
  intro isKey
  exact unknown (isKey ▸ known field mem)

theorem record_normalized_iff (fields : List (String × Option Value))
    (isRecord : recordEntries names value = some entries)
    (known : fields.map Prod.fst = names) (distinct : names.Nodup) :
    (Value.object (presentFields fields)).normalized = value.normalized ↔
      value.IsObject ∧
        ∀ key ∈ names, (fields.lookup key).join.map Value.normalized = (getField key entries).map Value.normalized := by
  cases value with
  | object source =>
    obtain ⟨rfl, sourceDistinct, isKnown⟩ := recordEntries_fields isRecord
    have keys := presentFields_keys fields
    rw [known] at keys
    have knownDistinct : Distinct fields := by
      rw [Distinct, known]
      exact distinct
    have found := getField_presentFields knownDistinct
    rw [normalized_object_eq (distinct.sublist keys) sourceDistinct]
    simp only [found]
    constructor
    · intro same
      exact ⟨⟨_, rfl⟩, fun key _ => same key⟩
    · intro same key
      by_cases mem : key ∈ names
      · exact same.2 key mem
      · rw [getField, lookup_unknown isKnown mem,
          lookup_unknown (fun field isField => known ▸ List.mem_map_of_mem isField) mem]
        rfl
  | array values =>
    constructor
    · intro same
      simp [Value.normalized] at same
    · intro plain
      simp [Value.IsObject] at plain
  | null | bool | number | string => simp [recordEntries] at isRecord

theorem plainFrame_iff (isRecord : recordEntries names content = some entries) :
    PlainFrame content ↔ content.IsObject ∧ (∃ tag, getField "type" entries = some (.string tag)) ∧
      (∀ error, getField "error" entries = some error → error.IsObject) ∧
      ∀ version, getField "stateVersion" entries = some version → version.IsObject := by
  cases content with
  | object fields =>
    obtain ⟨rfl, -⟩ := recordEntries_fields isRecord
    simp [PlainFrame, Value.IsObject]
  | array | null | bool | number | string => simp [PlainFrame, Value.IsObject]

theorem asString_eq_some {text : String} : value.asString = some text ↔ value = .string text := by
  cases value <;> simp [Value.asString]

theorem asBool_eq_some {flag : Bool} : value.asBool = some flag ↔ value = .bool flag := by
  cases value <;> simp [Value.asBool]

theorem asU64_eq_some {number : ℕ} : value.asU64 = some number ↔ value = u64 number := by
  cases value with
  | number value => cases value <;> simp [Value.asU64, u64]
  | null | bool | string | array | object => simp [Value.asU64, u64]

theorem optionalJsonValue_some {result : Option Value} (reads : optionalJsonValue key entries = some result) :
    (getField key entries).map Value.normalized = result := by
  rw [optionalJsonValue, optionalField] at reads
  cases isField : getField key entries with
  | none => simpa [isField, readOptional] using reads
  | some value => simpa [isField, readOptional] using reads

theorem optionalNonNull_some (reads : optionalNonNull key entries read = some result) :
    (getField key entries = none ∧ result = none) ∨
      ∃ value element, getField key entries = some value ∧ result = some element ∧
        read value.normalized = some element := by
  rw [optionalNonNull, optionalField] at reads
  cases isField : getField key entries with
  | none =>
    rw [isField, readOptional, Option.some.injEq] at reads
    exact Or.inl ⟨rfl, reads.symm⟩
  | some value =>
    rw [isField, readOptional, Option.map_eq_some_iff] at reads
    obtain ⟨element, isElement, rfl⟩ := reads
    rw [Option.ite_none_left_eq_some] at isElement
    exact Or.inr ⟨value, element, rfl, rfl, isElement.2⟩

theorem requiredField_some {element : α} (inverts : ∀ value, read value = some element ↔ value = write element)
    (reads : requiredField key entries read = some element) : getField key entries = some (write element) := by
  rw [requiredField, Option.bind_eq_some_iff] at reads
  obtain ⟨value, isValue, isElement⟩ := reads
  rw [isValue, (inverts value).mp isElement]

theorem tag_normalized_iff {name : String} (reads : requiredField "type" entries (unitVariant name) = some ()) :
    some (Value.string name).normalized = (getField "type" entries).map Value.normalized ↔
      ∃ tag, getField "type" entries = some (.string tag) := by
  rw [requiredField, Option.bind_eq_some_iff] at reads
  obtain ⟨value, isValue, isTag⟩ := reads
  simp only [unitVariant, Option.ite_none_right_eq_some, and_true] at isTag
  rw [isValue]
  cases isTag with
  | inl isText => simp [isText]
  | inr isObject => simp [isObject, Value.normalized]

theorem optionalNonNull_leaf (inverts : ∀ value element, read value = some element ↔ value = write element)
    (leaf : ∀ element, (write element).normalized = write element)
    (reads : optionalNonNull key entries read = some result) :
    (result.map write).map Value.normalized = (getField key entries).map Value.normalized := by
  obtain ⟨isMissing, rfl⟩ | ⟨value, element, isField, rfl, isElement⟩ := optionalNonNull_some reads
  · simp [isMissing]
  · rw [inverts] at isElement
    simp [isField, isElement, leaf]

theorem optionalNonNull_record
    (inverts : ∀ value element, read value = some element → ((write element).normalized = value.normalized ↔ value.IsObject))
    (reads : optionalNonNull key entries read = some result) :
    (result.map write).map Value.normalized = (getField key entries).map Value.normalized ↔
      ∀ value, getField key entries = some value → value.IsObject := by
  have objects : ∀ value : Value, value.normalized.IsObject ↔ value.IsObject := by
    intro value
    cases value <;> simp [Value.IsObject, Value.normalized]
  obtain ⟨isMissing, rfl⟩ | ⟨value, element, isField, rfl, isElement⟩ := optionalNonNull_some reads
  · simp [isMissing]
  · have whole := inverts _ _ isElement
    rw [Value.normalized_normalized, objects] at whole
    simp [isField, whole]

theorem StateVersion.normalized_iff (value : Value) (version : StateVersion)
    (reads : StateVersion.ofValue value = some version) :
    (Value.object (presentFields version.fields)).normalized = value.normalized ↔ value.IsObject := by
  simp only [StateVersion.ofValue, Option.bind_eq_bind, Option.bind_eq_some_iff] at reads
  obtain ⟨entries, isRecord, presence, isPresence, health, isHealth, same⟩ := reads
  cases same
  rw [record_normalized_iff (StateVersion.fields ⟨presence, health⟩) isRecord rfl (by decide)]
  apply and_iff_left
  simp only [List.forall_mem_cons,
    requiredField_some (fun _ => asU64_eq_some) isPresence, requiredField_some (fun _ => asU64_eq_some) isHealth]
  exact ⟨rfl, rfl, nofun⟩

theorem ErrorShape.normalized_iff (value : Value) (error : ErrorShape)
    (reads : ErrorShape.ofValue value = some error) :
    (Value.object (presentFields error.fields)).normalized = value.normalized ↔ value.IsObject := by
  simp only [ErrorShape.ofValue, Option.bind_eq_bind, Option.bind_eq_some_iff] at reads
  obtain ⟨entries, isRecord, code, isCode, message, isMessage, details, isDetails, retryable, isRetryable,
    retryAfterMs, isRetryAfter, same⟩ := reads
  cases same
  have detailsField := optionalJsonValue_some isDetails
  have detailsAgain : details.map Value.normalized = details := by
    rw [← detailsField]
    simp [Function.comp_def, Value.normalized_normalized]
  rw [record_normalized_iff (ErrorShape.fields ⟨code, message, details, retryable, retryAfterMs⟩) isRecord rfl
    (by decide)]
  apply and_iff_left
  simp only [List.forall_mem_cons,
    requiredField_some (fun _ => asString_eq_some) isCode, requiredField_some (fun _ => asString_eq_some) isMessage,
    detailsField, ← optionalNonNull_leaf (fun _ _ => asBool_eq_some) (fun _ => rfl) isRetryable,
    ← optionalNonNull_leaf (fun _ _ => asU64_eq_some) (fun _ => rfl) isRetryAfter]
  exact ⟨rfl, rfl, detailsAgain, rfl, rfl, nofun⟩

theorem optionalJsonValue_again {result : Option Value} (reads : optionalJsonValue key entries = some result) :
    result.map Value.normalized = (getField key entries).map Value.normalized := by
  rw [← optionalJsonValue_some reads]
  simp [Function.comp_def, Value.normalized_normalized]

theorem getField_unknown (key : String)
    (object : value.IsObject) (isRecord : recordEntries names value = some entries) (unknown : key ∉ names) : getField key entries = none := by
  obtain ⟨fields, rfl⟩ := object
  obtain ⟨rfl, -, known⟩ := recordEntries_fields isRecord
  exact lookup_unknown known unknown

theorem RequestFrame.normalized_iff (content : Value) (frame : RequestFrame)
    (reads : RequestFrame.ofContent content = some frame) :
    (Value.object (presentFields frame.fields)).normalized = content.normalized ↔ PlainFrame content := by
  simp only [RequestFrame.ofContent, Option.bind_eq_bind, Option.bind_eq_some_iff] at reads
  obtain ⟨entries, isRecord, _, isTag, id, isId, method, isMethod, params, isParams, same⟩ := reads
  cases same
  rw [record_normalized_iff (RequestFrame.fields ⟨id, method, params⟩) isRecord rfl (by decide),
    plainFrame_iff isRecord]
  apply and_congr_right
  intro object
  rw [getField_unknown "error" object isRecord (by decide),
    getField_unknown "stateVersion" object isRecord (by decide), ← tag_normalized_iff isTag]
  simp only [List.forall_mem_cons, requiredField_some (fun _ => asString_eq_some) isId,
    requiredField_some (fun _ => asString_eq_some) isMethod, ← optionalJsonValue_again isParams]
  constructor
  · intro fields
    exact ⟨fields.1, nofun, nofun⟩
  · intro plain
    exact ⟨plain.1, rfl, rfl, rfl, nofun⟩

theorem ResponseFrame.normalized_iff (content : Value) (frame : ResponseFrame)
    (reads : ResponseFrame.ofContent content = some frame) :
    (Value.object (presentFields frame.fields)).normalized = content.normalized ↔ PlainFrame content := by
  simp only [ResponseFrame.ofContent, Option.bind_eq_bind, Option.bind_eq_some_iff] at reads
  obtain ⟨entries, isRecord, _, isTag, id, isId, ok, isOk, payload, isPayload, error, isError, same⟩ := reads
  cases same
  rw [record_normalized_iff (ResponseFrame.fields ⟨id, ok, payload, error⟩) isRecord rfl (by decide),
    plainFrame_iff isRecord]
  apply and_congr_right
  intro object
  rw [getField_unknown "stateVersion" object isRecord (by decide), ← tag_normalized_iff isTag,
    ← optionalNonNull_record ErrorShape.normalized_iff isError]
  simp only [List.forall_mem_cons, requiredField_some (fun _ => asString_eq_some) isId,
    requiredField_some (fun _ => asBool_eq_some) isOk, ← optionalJsonValue_again isPayload]
  constructor
  · rintro ⟨tag, -, -, -, isObject, -⟩
    exact ⟨tag, isObject, nofun⟩
  · rintro ⟨tag, isObject, -⟩
    exact ⟨tag, rfl, rfl, rfl, isObject, nofun⟩

theorem Protocol.EventFrame.normalized_iff (content : Value) (frame : Protocol.EventFrame)
    (reads : Protocol.EventFrame.ofContent content = some frame) :
    (Value.object (presentFields frame.fields)).normalized = content.normalized ↔ PlainFrame content := by
  simp only [Protocol.EventFrame.ofContent, Option.bind_eq_bind, Option.bind_eq_some_iff] at reads
  obtain ⟨entries, isRecord, _, isTag, event, isEvent, payload, isPayload, seq, isSeq, version, isVersion, same⟩ :=
    reads
  cases same
  rw [record_normalized_iff (Protocol.EventFrame.fields ⟨event, payload, seq, version⟩) isRecord rfl (by decide),
    plainFrame_iff isRecord]
  apply and_congr_right
  intro object
  rw [getField_unknown "error" object isRecord (by decide), ← tag_normalized_iff isTag,
    ← optionalNonNull_record StateVersion.normalized_iff isVersion]
  simp only [List.forall_mem_cons, requiredField_some (fun _ => asString_eq_some) isEvent,
    ← optionalJsonValue_again isPayload, ← optionalNonNull_leaf (fun _ _ => asU64_eq_some) (fun _ => rfl) isSeq]
  constructor
  · rintro ⟨tag, -, -, -, isObject, -⟩
    exact ⟨tag, nofun, isObject⟩
  · rintro ⟨tag, -, isObject⟩
    exact ⟨tag, rfl, rfl, rfl, isObject, nofun⟩

theorem ProtocolFrame.normalized_iff (content : Value) (frame : ProtocolFrame)
    (reads : ProtocolFrame.ofContent content = some frame) :
    frame.content.normalized = content.normalized ↔ PlainFrame content := by
  simp only [ProtocolFrame.ofContent, Option.orElse_eq_orElse, Option.orElse_eq_or, Option.or_eq_some_iff,
    Option.map_eq_some_iff] at reads
  obtain ⟨request, isRequest, rfl⟩ | ⟨-, ⟨response, isResponse, rfl⟩ | ⟨-, event, isEvent, rfl⟩⟩ := reads
  · exact RequestFrame.normalized_iff content request isRequest
  · exact ResponseFrame.normalized_iff content response isResponse
  · exact Protocol.EventFrame.normalized_iff content event isEvent

/-! ## Sizes -/

theorem encodedSize_normalized_object (floats : FloatText) {fields : List (String × Value)} (distinct : Distinct fields)
    (same : ∀ field ∈ fields, field.2.normalized.encodedSize floats = field.2.encodedSize floats) :
    (Value.object fields).normalized.encodedSize floats = (Value.object fields).encodedSize floats := by
  rw [Value.normalized, normalizedFields_eq, encodedSize_sortFields floats (distinct_map.mpr distinct),
    Value.encodedSize_object, Value.encodedSize_object, List.map_map]
  congr 3
  apply List.map_congr_left
  intro field mem
  simp [Value.fieldSize, same field mem]

def SameSize (floats : FloatText) (value : Value) : Prop :=
  value.normalized.encodedSize floats = value.encodedSize floats

theorem SameSize.record {fields : List (String × Option Value)} (distinct : (fields.map Prod.fst).Nodup)
    (same : ∀ field ∈ fields, ∀ value ∈ field.2, SameSize floats value) :
    SameSize floats (.object (presentFields fields)) := by
  apply encodedSize_normalized_object floats (distinct.sublist (presentFields_keys fields))
  intro field mem
  rw [presentFields, List.mem_filterMap] at mem
  obtain ⟨source, isSource, isField⟩ := mem
  rw [Option.map_eq_some_iff] at isField
  obtain ⟨value, isValue, rfl⟩ := isField
  exact same source isSource value isValue

theorem SameSize.json {result : Option Value}
    (reads : optionalJsonValue key entries = some result) : ∀ value ∈ result, SameSize floats value := by
  intro value isValue
  rw [← optionalJsonValue_some reads, Option.mem_def, Option.map_eq_some_iff] at isValue
  obtain ⟨source, -, rfl⟩ := isValue
  rw [SameSize, Value.normalized_normalized]

theorem SameSize.leaf (floats : FloatText)
    (leaf : ∀ element, (write element).normalized = write element) (option : Option α) :
    ∀ value ∈ option.map write, SameSize floats value := by
  intro value isValue
  rw [Option.mem_def, Option.map_eq_some_iff] at isValue
  obtain ⟨element, -, rfl⟩ := isValue
  rw [SameSize, leaf]

theorem SameSize.nested (same : ∀ value element, read value = some element → SameSize floats (write element))
    (reads : optionalNonNull key entries read = some result) : ∀ value ∈ result.map write, SameSize floats value := by
  intro value isValue
  obtain ⟨-, rfl⟩ | ⟨source, element, -, rfl, isElement⟩ := optionalNonNull_some reads
  · cases isValue
  · cases isValue
    exact same _ _ isElement

theorem StateVersion.sameSize (floats : FloatText) (version : StateVersion) :
    SameSize floats (.object (presentFields version.fields)) := by
  apply SameSize.record (by simp [StateVersion.fields])
  simp only [StateVersion.fields, List.forall_mem_cons]
  exact ⟨.leaf floats (fun _ => rfl) (some version.presence), .leaf floats (fun _ => rfl) (some version.health), nofun⟩

theorem ErrorShape.sameSize (floats : FloatText) (value : Value) (error : ErrorShape)
    (reads : ErrorShape.ofValue value = some error) : SameSize floats (.object (presentFields error.fields)) := by
  simp only [ErrorShape.ofValue, Option.bind_eq_bind, Option.bind_eq_some_iff] at reads
  obtain ⟨entries, -, code, -, message, -, details, isDetails, retryable, -, retryAfterMs, -, same⟩ := reads
  cases same
  apply SameSize.record (by simp [ErrorShape.fields])
  simp only [ErrorShape.fields, List.forall_mem_cons]
  exact ⟨.leaf floats (fun _ => rfl) (some code), .leaf floats (fun _ => rfl) (some message), .json isDetails,
    .leaf floats (fun _ => rfl) retryable, .leaf floats (fun _ => rfl) retryAfterMs, nofun⟩

variable {frame : ProtocolFrame}

theorem ProtocolFrame.sameSize (floats : FloatText)
    (reads : ProtocolFrame.ofContent content = some frame) : SameSize floats frame.content := by
  simp only [ProtocolFrame.ofContent, Option.orElse_eq_orElse, Option.orElse_eq_or, Option.or_eq_some_iff,
    Option.map_eq_some_iff] at reads
  obtain ⟨request, isRequest, rfl⟩ | ⟨-, ⟨response, isResponse, rfl⟩ | ⟨-, event, isEvent, rfl⟩⟩ := reads
  · simp only [RequestFrame.ofContent, Option.bind_eq_bind, Option.bind_eq_some_iff] at isRequest
    obtain ⟨entries, -, _, -, id, -, method, -, params, isParams, same⟩ := isRequest
    cases same
    apply SameSize.record (by simp [RequestFrame.fields])
    simp only [RequestFrame.fields, List.forall_mem_cons]
    exact ⟨.leaf floats (fun _ => rfl) (some "req"), .leaf floats (fun _ => rfl) (some id),
      .leaf floats (fun _ => rfl) (some method), .json isParams, nofun⟩
  · simp only [ResponseFrame.ofContent, Option.bind_eq_bind, Option.bind_eq_some_iff] at isResponse
    obtain ⟨entries, -, _, -, id, -, ok, -, payload, isPayload, error, isError, same⟩ := isResponse
    cases same
    apply SameSize.record (by simp [ResponseFrame.fields])
    simp only [ResponseFrame.fields, List.forall_mem_cons]
    exact ⟨.leaf floats (fun _ => rfl) (some "res"), .leaf floats (fun _ => rfl) (some id),
      .leaf floats (fun _ => rfl) (some ok), .json isPayload, .nested (ErrorShape.sameSize floats) isError, nofun⟩
  · simp only [Protocol.EventFrame.ofContent, Option.bind_eq_bind, Option.bind_eq_some_iff] at isEvent
    obtain ⟨entries, -, _, -, event, -, payload, isPayload, seq, -, version, isVersion, same⟩ := isEvent
    cases same
    apply SameSize.record (by simp [Protocol.EventFrame.fields])
    simp only [Protocol.EventFrame.fields, List.forall_mem_cons]
    exact ⟨.leaf floats (fun _ => rfl) (some "event"), .leaf floats (fun _ => rfl) (some event), .json isPayload,
      .leaf floats (fun _ => rfl) seq, .nested (fun _ version _ => StateVersion.sameSize floats version) isVersion,
      nofun⟩

/-! ## The codec -/

section

variable {reader : JsonReader} {source : String}

theorem text_ne_of_object (fields : List (String × Value)) : (Value.object fields).text floats ≠ "" := by
  intro isEmpty
  have size := congrArg String.utf8ByteSize isEmpty
  have empty : "".utf8ByteSize = 0 := rfl
  rw [← Value.encodedSize, Value.encodedSize_object] at size
  omega

theorem content_text_ne (frame : ProtocolFrame) : frame.content.text floats ≠ "" := by
  cases frame <;> exact text_ne_of_object _

theorem decodeProtocolFrame_ok : decodeProtocolFrame reader source = .ok frame ↔
      source ≠ "" ∧ source.utf8ByteSize ≤ maxProtocolFrameBytes ∧
        (reader.content source).bind ProtocolFrame.ofContent = some frame ∧ validateProtocolFrame frame = .ok () := by
  rw [decodeProtocolFrame, check_bind_ok, check_bind_ok, ensure_ok, ensure_ok]
  cases (reader.content source).bind ProtocolFrame.ofContent with
  | none => simp
  | some read =>
    rw [check_bind_ok, pure_ok, Option.some.injEq]
    constructor
    · rintro ⟨nonEmpty, small, valid, rfl⟩
      exact ⟨nonEmpty, small, rfl, valid⟩
    · rintro ⟨nonEmpty, small, rfl, valid⟩
      exact ⟨nonEmpty, small, valid, rfl⟩

theorem encodeProtocolFrame_ok {encoded : String} : encodeProtocolFrame floats frame = .ok encoded ↔
      validateProtocolFrame frame = .ok () ∧ frame.content.encodedSize floats ≤ maxProtocolFrameBytes ∧
        frame.content.text floats = encoded := by
  rw [encodeProtocolFrame, check_bind_ok, check_bind_ok, ensure_ok, pure_ok, Value.encodedSize]

theorem decode_encode (held : frame.Held) (roundTrips : reader.RoundTrips floats frame.content)
    (valid : validateProtocolFrame frame = .ok ()) (fits : frame.content.encodedSize floats ≤ maxProtocolFrameBytes) :
    encodeProtocolFrame floats frame = .ok (frame.content.text floats) ∧
      decodeProtocolFrame reader (frame.content.text floats) = .ok frame := by
  rw [encodeProtocolFrame_ok, decodeProtocolFrame_ok, roundTrips, Option.bind_some,
    ProtocolFrame.ofContent_content frame held]
  exact ⟨⟨valid, fits, rfl⟩, content_text_ne frame, fits, rfl, valid⟩

/-- A text that was read is sent again as a text of the same value exactly where its records are
objects, its tag is a text and the compact text is not too large. -/
theorem encode_decode_iff
    (isContent : reader.content source = some content) (decodes : decodeProtocolFrame reader source = .ok frame)
    (roundTrips : reader.RoundTrips floats frame.content) :
    (∃ encoded, encodeProtocolFrame floats frame = .ok encoded ∧
        (reader.content encoded).map Value.normalized = some content.normalized) ↔
      PlainFrame content ∧ content.normalized.encodedSize floats ≤ maxProtocolFrameBytes := by
  rw [decodeProtocolFrame_ok, isContent] at decodes
  obtain ⟨-, -, reads, valid⟩ := decodes
  have same := ProtocolFrame.normalized_iff content frame reads
  have size := ProtocolFrame.sameSize floats reads
  constructor
  · rintro ⟨encoded, encodes, isSame⟩
    rw [encodeProtocolFrame_ok] at encodes
    obtain ⟨-, fits, rfl⟩ := encodes
    rw [roundTrips, Option.map_some, Option.some.injEq] at isSame
    rw [← isSame, size]
    exact ⟨same.mp isSame, fits⟩
  · rintro ⟨plain, fits⟩
    have isSame := same.mpr plain
    rw [← isSame, size] at fits
    refine ⟨_, encodeProtocolFrame_ok.mpr ⟨valid, fits, rfl⟩, ?_⟩
    rw [roundTrips, Option.map_some, isSame]

end

/-- Frames go to texts and back, no tree is two kinds of frames, and a text goes to a frame and back
exactly where its tree is plain and not too large. -/
theorem frame_codec (floats : FloatText) (reader : JsonReader) :
    (∀ frame : ProtocolFrame, frame.Held → reader.RoundTrips floats frame.content →
      validateProtocolFrame frame = .ok () → frame.content.encodedSize floats ≤ maxProtocolFrameBytes →
      ∃ encoded, encodeProtocolFrame floats frame = .ok encoded ∧ decodeProtocolFrame reader encoded = .ok frame) ∧
    (∀ content, [(RequestFrame.ofContent content).isSome, (ResponseFrame.ofContent content).isSome,
      (Protocol.EventFrame.ofContent content).isSome].count true ≤ 1) ∧
    ∀ source content frame, reader.content source = some content → decodeProtocolFrame reader source = .ok frame →
      reader.RoundTrips floats frame.content →
      ((∃ encoded, encodeProtocolFrame floats frame = .ok encoded ∧
          (reader.content encoded).map Value.normalized = some content.normalized) ↔
        PlainFrame content ∧ content.normalized.encodedSize floats ≤ maxProtocolFrameBytes) := by
  refine ⟨?_, one_alternative, ?_⟩
  · intro frame held roundTrips valid fits
    exact ⟨_, decode_encode held roundTrips valid fits⟩
  · intro source content frame isContent decodes roundTrips
    exact encode_decode_iff isContent decodes roundTrips

def pingFrame : ProtocolFrame := .request ⟨"request-1", "runtime.ping", none⟩

/-- The fields of the request without their names. -/
def pingText : String := "[\"req\",\"request-1\",\"runtime.ping\"]"

def pingReader : JsonReader where
  content text :=
    if text = pingText then some (.array [.string "req", .string "request-1", .string "runtime.ping"])
    else if text = pingFrame.content.text fun _ => "0.5" then some pingFrame.content
    else none

theorem frame_codec_ping : (∃ encoded, encodeProtocolFrame (fun _ => "0.5") pingFrame = .ok encoded ∧
      decodeProtocolFrame pingReader encoded = .ok pingFrame) ∧
    ((∃ encoded, encodeProtocolFrame (fun _ => "0.5") pingFrame = .ok encoded ∧
        (pingReader.content encoded).map Value.normalized = some pingFrame.content.normalized) ↔
      PlainFrame pingFrame.content ∧
        pingFrame.content.normalized.encodedSize (fun _ => "0.5") ≤ maxProtocolFrameBytes) := by
  have codec := frame_codec (fun _ => "0.5") pingReader
  have roundTrips : pingReader.RoundTrips (fun _ => "0.5") pingFrame.content := by
    rw [JsonReader.RoundTrips]
    decide +kernel
  have held : pingFrame.Held := by simp [pingFrame, ProtocolFrame.Held, OptionHeld]
  have sent := codec.1 pingFrame held roundTrips (by decide +kernel) (by decide +kernel)
  refine ⟨sent, ?_⟩
  exact codec.2.2 (pingFrame.content.text fun _ => "0.5") pingFrame.content pingFrame roundTrips (by decide +kernel)
    roundTrips

/-- A request that comes as an array is accepted, and sent as an object. -/
theorem array_frame_not_preserved : decodeProtocolFrame pingReader pingText = .ok pingFrame ∧
      ¬∃ encoded, encodeProtocolFrame (fun _ => "0.5") pingFrame = .ok encoded ∧
        (pingReader.content encoded).map Value.normalized = (pingReader.content pingText).map Value.normalized := by
  refine ⟨by decide +kernel, ?_⟩
  rintro ⟨encoded, encodes, same⟩
  have text : encoded = pingFrame.content.text fun _ => "0.5" := (encodeProtocolFrame_ok.mp encodes).2.2.symm
  rw [text] at same
  revert same
  decide +kernel

end Vifu.Runtime
